import Mathlib.Data.List.TakeWhile
import TextScan.Arithmetic

/-!
# A lexer for arithmetic expressions

What the tokens of an expression are, said without patterns and without a scanner. The characters
are read once, from left to right: `token?` tells from a character and what follows it which token
starts there, and `lex` puts the tokens of a whole text together. Every run is the longest one: `***`
is `**` and `*`. The point of `3.` belongs to no token, and neither does the second one of `1.2.3`.

A text is its tokens with blanks around them, up to the first character where no token starts
(`lexFrom_spaced`).
-/

namespace TextScan.Arithmetic

open Unicode (isBlank isDecimal isWordChar)

/-! ## Tokens -/

/-- The characters that a name starts with. -/
def startsName (c : Char) : Bool :=
  ('A' ≤ c && c ≤ 'Z') || ('a' ≤ c && c ≤ 'z') || c == '_'

/-- The operators of one character, and the parentheses. -/
def operators : List Char := ['-', '+', '*', '/', '(', ')']

/-- The fraction that a text starts with: a point and the longest run of digits after it, if a digit
follows the point directly. -/
def fraction : Text → Text
  | [] => []
  | c :: rest => if c = '.' ∧ rest.head?.any isDecimal then c :: rest.takeWhile isDecimal else []

/-- The kind of the token that starts with `c`, and its characters after `c`, if `rest` comes after
`c` in the text. -/
def token? (c : Char) (rest : Text) : Option (Kind × Text) :=
  if isDecimal c then
    some (.number, rest.takeWhile isDecimal ++ fraction (rest.dropWhile isDecimal))
  else if startsName c then some (.name, rest.takeWhile isWordChar)
  else if c = '*' ∧ rest.head? = some '*' then some (.op, ['*'])
  else if c ∈ operators then some (.op, [])
  else none

/-- A fraction is what the text starts with. -/
theorem fraction_prefix (t : Text) : fraction t <+: t := by
  cases t with
  | nil => exact List.nil_prefix
  | cons c rest =>
    rw [fraction]
    split
    · exact (List.prefix_append_right_inj [c]).mpr (List.takeWhile_prefix _)
    · exact List.nil_prefix

/-- The further characters of a token are what comes after its first one. -/
theorem token?_prefix {c : Char} {rest more : Text} {kind : Kind}
    (h : token? c rest = some (kind, more)) : more <+: rest := by
  unfold token? at h
  split at h
  · obtain ⟨-, rfl⟩ := Prod.mk.inj (Option.some.inj h)
    have hfraction := fraction_prefix (rest.dropWhile isDecimal)
    have hnumber := (List.prefix_append_right_inj (rest.takeWhile isDecimal)).mpr hfraction
    rwa [List.takeWhile_append_dropWhile] at hnumber
  split at h
  · obtain ⟨-, rfl⟩ := Prod.mk.inj (Option.some.inj h)
    exact List.takeWhile_prefix _
  split at h
  · rename_i hstars
    obtain ⟨-, rfl⟩ := Prod.mk.inj (Option.some.inj h)
    cases rest with
    | nil => simp at hstars
    | cons c' rest =>
      obtain rfl : c' = '*' := by simpa using hstars.2
      exact ⟨rest, rfl⟩
  split at h
  · obtain ⟨-, rfl⟩ := Prod.mk.inj (Option.some.inj h)
    exact List.nil_prefix
  · simp at h

/-! ## Texts -/

/-- A character where no token starts. -/
structure Stop where
  /-- Its offset in the whole text. -/
  offset : Nat
  /-- The character. -/
  char : Char
  deriving DecidableEq, Repr

/-- The line of such a character: one more than the line ends before it. -/
def Stop.line (source : Text) (stop : Stop) : Nat := (source.take stop.offset).count '\n' + 1

/-- The column of such a character: one more than the characters since the last line end before
it. -/
def Stop.column (source : Text) (stop : Stop) : Nat :=
  ((source.take stop.offset).reverse.takeWhile (· != '\n')).length + 1

/-- What is reported of such a character: itself, and where it is. -/
def Stop.report (source : Text) (stop : Stop) : Unexpected where
  value := [stop.char]
  location := { line := stop.line source, column := stop.column source, offset := stop.offset }

/-- After the blanks and a first character, less of the text is left. -/
theorem length_drop_lt {t rest : Text} {c : Char} (h : t.dropWhile isBlank = c :: rest) (n : Nat) :
    (rest.drop n).length < t.length := by
  have hle := (List.dropWhile_suffix isBlank (l := t)).length_le
  rw [h, List.length_cons] at hle
  rw [List.length_drop]
  omega

/-- The tokens of a text that starts at an offset, and the character where no token starts. -/
def lexFrom (offset : Nat) (t : Text) : List Lexeme × Option Stop :=
  let start := offset + (t.takeWhile isBlank).length
  match _ : t.dropWhile isBlank with
  | [] => ([], none)
  | c :: rest =>
    match token? c rest with
    | none => ([], some ⟨start, c⟩)
    | some (kind, more) =>
      let (lexemes, stop) := lexFrom (start + (c :: more).length) (rest.drop more.length)
      (⟨kind, c :: more⟩ :: lexemes, stop)
termination_by t.length
decreasing_by exact length_drop_lt ‹_› more.length

/-- The tokens of a text, and the first character where no token starts. -/
def lex (source : Text) : List Lexeme × Option Stop := lexFrom 0 source

/-! ## What the tokens are of their text -/

/-- A text consists of tokens, in order, with runs of blanks before, between and after them. The runs
may be empty. -/
inductive Spaced : List Lexeme → Text → Prop
  /-- There are no tokens. -/
  | blanks {gap : Text} (hgap : gap.all isBlank) : Spaced [] gap
  /-- A first token, and others after it. -/
  | token {gap : Text} (hgap : gap.all isBlank) (l : Lexeme) {lexemes : List Lexeme} {t : Text}
    (ht : Spaced lexemes t) : Spaced (l :: lexemes) (gap ++ l.value ++ t)

/-- The tokens of a text that starts at an offset end after its part `u`, where `rest` is left: there
is nothing left, or the first character left is where they stop. -/
def EndsAfter (offset : Nat) (u rest : Text) : Option Stop → Prop
  | none => rest = []
  | some stop => stop.offset = offset + u.length ∧ rest.head? = some stop.char

/-- A text consists of its tokens and blanks, up to where the tokens end. -/
theorem lexFrom_spaced (offset : Nat) (t : Text) :
    ∃ u rest, t = u ++ rest ∧ Spaced (lexFrom offset t).1 u ∧
      EndsAfter offset u rest (lexFrom offset t).2 := by
  fun_induction lexFrom offset t with
  | case1 offset t hdrop =>
    have hblank : t.all isBlank := List.all_eq_true.mpr (List.dropWhile_eq_nil_iff.mp hdrop)
    exact ⟨t, [], (List.append_nil t).symm, .blanks hblank, rfl⟩
  | case2 offset t start c rest hdrop htoken =>
    refine ⟨t.takeWhile isBlank, c :: rest, ?_, .blanks List.all_takeWhile, rfl, rfl⟩
    rw [← hdrop, List.takeWhile_append_dropWhile]
  | case3 offset t start c rest hdrop kind more htoken lexemes stop hothers ih =>
    obtain ⟨others, rfl⟩ := token?_prefix htoken
    rw [List.drop_left] at hothers ih
    rw [hothers] at ih
    obtain ⟨u, last, rfl, hspaced, hends⟩ := ih
    refine ⟨t.takeWhile isBlank ++ (c :: more) ++ u, last, ?_, ?_, ?_⟩
    · calc
        t = t.takeWhile isBlank ++ t.dropWhile isBlank := List.takeWhile_append_dropWhile.symm
        _ = t.takeWhile isBlank ++ (c :: more) ++ u ++ last := by rw [hdrop]; simp
    · exact .token List.all_takeWhile ⟨kind, c :: more⟩ hspaced
    · cases stop with
      | none => exact hends
      | some stop =>
        obtain ⟨hoffset, hchar⟩ := hends
        refine ⟨?_, hchar⟩
        rw [hoffset, List.length_append, List.length_append]
        omega

/-- No token is empty. -/
theorem lexFrom_nonempty (offset : Nat) (t : Text) : ∀ l ∈ (lexFrom offset t).1, l.value ≠ [] := by
  fun_induction lexFrom offset t with
  | case1 => exact fun l hl => absurd hl List.not_mem_nil
  | case2 => exact fun l hl => absurd hl List.not_mem_nil
  | case3 offset t start c rest hdrop kind more htoken lexemes stop hothers ih =>
    rw [hothers] at ih
    intro l hl
    rcases List.mem_cons.mp hl with rfl | hl
    · exact List.cons_ne_nil c more
    · exact ih l hl

/-- There are no more tokens than characters. -/
theorem length_lexFrom_le (offset : Nat) (t : Text) : (lexFrom offset t).1.length ≤ t.length := by
  fun_induction lexFrom offset t with
  | case1 => exact Nat.zero_le _
  | case2 => exact Nat.zero_le _
  | case3 offset t start c rest hdrop kind more htoken lexemes stop hothers ih =>
    have hlt := length_drop_lt hdrop more.length
    rw [hothers] at ih
    exact Nat.lt_of_le_of_lt ih hlt

end TextScan.Arithmetic
