import TextScan.Proofs.Arithmetic.Lexer
import TextScan.Proofs.Cache
import TextScan.Proofs.Pattern.FirstWay

/-!
# What the patterns of tokens take

Each pattern compiles to a tree that takes what a `Reader` reads (`Scans`), and the readers, tried in
the order of the patterns, read the token that the lexer tells (`findSome?_reader`). Backtracking
never shows: after the digits of a number the fraction may be left out, after the first letter of a
name the run may be empty, and a star has one way only.
-/

namespace TextScan

/-! ## Sets of characters -/

namespace CharSet

/-- The set of the characters of a list. -/
def ofChars (cs : List Char) : CharSet := { items := cs.map fun c => .code c.toNat }

/-- The set of the characters of a category. -/
def ofCategory (k : Category) : CharSet := { items := [.category k false] }

/-- Characters are told apart by their code points. -/
theorem contains_toNat (c d : Char) : [c.toNat].contains d.toNat = (d == c) := by
  rw [Bool.eq_iff_iff, List.contains_iff_mem, List.mem_singleton, Char.toNat_inj, beq_iff_eq]

/-- The set of the characters of a list has just these. -/
theorem has_ofChars (cs : List Char) : (ofChars cs).has = cs.contains := by
  funext c
  show ((cs.map fun d => ClassItem.code d.toNat).any (ClassItem.has false c [c.toNat]) != false) = _
  rw [Bool.bne_false, List.any_map]
  show cs.any (fun d => [c.toNat].contains d.toNat) = cs.contains c
  simp only [contains_toNat, List.any_beq']

/-- The set of the characters of a category has just these. -/
theorem has_ofCategory (k : Category) : (ofCategory k).has = k.has false := by
  funext c
  show (((k.has false c != false) || false) != false) = k.has false c
  rw [Bool.or_false, Bool.bne_false, Bool.bne_false]

end CharSet

namespace Arithmetic

open Unicode (isBlank isDecimal isWordChar)

/-- The set of the characters that a name starts with. -/
def nameStart : CharSet where
  items := [.range 'A'.toNat 'Z'.toNat, .range 'a'.toNat 'z'.toNat, .code '_'.toNat]

/-- The set of the characters that a name starts with has just these. -/
theorem has_nameStart : nameStart.has = startsName := by
  funext c
  -- Characters are ordered by their code points.
  have hle : ∀ a b : Char, decide (a.toNat ≤ b.toNat) = decide (a ≤ b) := fun _ _ => rfl
  simp only [CharSet.has, nameStart, ClassItem.has, Fold.variants, List.any_cons, List.any_nil,
    CharSet.contains_toNat, hle, Bool.or_false, Bool.bne_false, startsName, Bool.or_assoc,
    Bool.beq_comm]

/-! ## Readers -/

/-- Reads a fraction. -/
def fractionReader : Reader := (Reader.char ['.'].contains).andThen (.run 1 isDecimal)

/-- Reads a token of a kind. -/
def reader : Kind → Reader
  | .number => (Reader.run 1 isDecimal).andThen fractionReader.optional
  | .name => (Reader.char startsName).andThen (.run 0 isWordChar)
  | .op =>
    ((Reader.char ['*'].contains).andThen (.char ['*'].contains)).either
      (.char operators.contains)

/-! ## Trees -/

/-- The longest run of at least `lo` characters of a category. -/
def runOf (lo : Nat) (k : Category) : Node := .loop .greedy lo none (.chars (.ofCategory k))

/-- A point and the digits after it. -/
def pointNode : Node := .seq (.chars (.ofChars ['.'])) (.seq (runOf 1 .digit) .empty)

/-- A star. -/
def starNode : Node := .chars (.ofChars ['*'])

/-- The tree of the pattern of a kind. -/
def tree : Kind → Node
  | .number => .seq (runOf 1 .digit) (.seq (.loop .greedy 0 (some 1) pointNode) .empty)
  | .name => .seq (.chars nameStart) (.seq (runOf 0 .word) .empty)
  | .op =>
    .alt (.seq starNode (.seq starNode .empty)) (.seq (.chars (.ofChars operators)) .empty)

/-- A run over a category takes the longest run of its characters. -/
theorem takes_runOf (lo : Nat) (k : Category) : (runOf lo k).Takes (.run lo (k.has false)) := by
  rw [← CharSet.has_ofCategory]
  exact .run lo _

/-- The set of the characters of a list takes one of them. -/
theorem takes_ofChars (cs : List Char) : (Node.chars (.ofChars cs)).Takes (.char cs.contains) := by
  rw [← CharSet.has_ofChars]
  exact .chars _

/-- The tree of a kind takes what the reader of the kind reads. -/
theorem tree_takes (kind : Kind) : (tree kind).Takes (reader kind) := by
  cases kind with
  | number =>
    have hdigits : (runOf 1 .digit).Takes (.run 1 isDecimal) := takes_runOf 1 .digit
    have hpoint : pointNode.Takes fractionReader :=
      (takes_ofChars ['.']).seq hdigits.last (Or.inl (Node.Takes.length_ways_chars _))
    exact hdigits.seq hpoint.optional.last (Or.inr (Reader.total_optional _))
  | name =>
    have hstart : (Node.chars nameStart).Takes (.char startsName) := by
      rw [← has_nameStart]
      exact .chars nameStart
    exact hstart.seq (takes_runOf 0 .word).last (Or.inr (Reader.total_run _))
  | op =>
    have hstar : starNode.Takes (.char ['*'].contains) := takes_ofChars ['*']
    have hstars := hstar.seq hstar.last (Or.inl (Node.Takes.length_ways_chars _))
    exact hstars.alt (takes_ofChars operators).last

/-- A pattern text compiles, without flags, to a tree that takes what a reader reads. -/
def Scans (p : Text) (a : Reader) : Prop :=
  ∃ r, (Pattern.source p).regex 0 = .ok r ∧ r.node.Takes a

/-- The pattern of what is skipped takes the longest run of blanks. -/
theorem scans_blanks : Scans blanks (.run 1 isBlank) :=
  ⟨⟨blanks, 32, 0, [], .seq (runOf 1 .blank) .empty⟩, rfl, (takes_runOf 1 .blank).last⟩

/-- The pattern of a kind takes what the reader of the kind reads. -/
theorem scans_patterns : ∀ e ∈ patterns, Scans e.2 (reader e.1) := by
  intro e he
  refine ⟨⟨e.2, 32, 0, [], tree e.1⟩, ?_, tree_takes e.1⟩
  simp only [patterns, List.mem_cons, List.not_mem_nil, or_false] at he
  rcases he with rfl | rfl | rfl
  · rfl
  · rfl
  · rfl

/-! ## Readers and the lexer -/

/-- What is left after the longest run of characters of a class. -/
theorem drop_length_takeWhile (f : Char → Bool) (t : Text) :
    t.drop (t.takeWhile f).length = t.dropWhile f := by
  have hsplit := List.takeWhile_append_dropWhile (p := f) (l := t)
  calc
    t.drop (t.takeWhile f).length
      = (t.takeWhile f ++ t.dropWhile f).drop (t.takeWhile f).length := by rw [hsplit]
    _ = t.dropWhile f := List.drop_left

/-- A run that may not be empty is read where a character of its class comes first. -/
theorem run_one (f : Char → Bool) (t : Text) :
    Reader.run 1 f t = if t.head?.any f then some (t.takeWhile f) else none := by
  unfold Reader.run
  cases t with
  | nil => rfl
  | cons c rest =>
    rw [List.takeWhile_cons, List.head?_cons, Option.any_some]
    cases f c <;> simp

/-- A fraction is read where there is one, and nothing is read elsewhere. -/
theorem optional_fractionReader (t : Text) : fractionReader.optional t = some (fraction t) := by
  unfold Reader.optional fractionReader Reader.andThen
  cases t with
  | nil => rfl
  | cons c rest =>
    rw [Reader.char, fraction]
    by_cases hc : c = '.'
    · have hpoint : ['.'].contains c := by simpa using hc
      rw [if_pos hpoint, Option.bind_some]
      show (Option.map _ (Reader.run 1 isDecimal rest)).or _ = _
      rw [run_one]
      cases rest.head?.any isDecimal <;> simp [hc]
    · have hpoint : ¬ ['.'].contains c := by simpa using hc
      rw [if_neg hpoint, if_neg (fun h => hc h.1)]
      rfl

/-- The reader of numbers reads the number that the lexer tells. -/
theorem reader_number (c : Char) (rest : Text) :
    reader .number (c :: rest) =
      if isDecimal c then
        some (c :: (rest.takeWhile isDecimal ++ fraction (rest.dropWhile isDecimal)))
      else none := by
  show (Reader.run 1 isDecimal (c :: rest)).bind _ = _
  rw [run_one, List.head?_cons, Option.any_some]
  cases hc : isDecimal c with
  | false => rfl
  | true =>
    rw [if_pos rfl, if_pos rfl, Option.bind_some, optional_fractionReader, drop_length_takeWhile,
      List.takeWhile_cons_of_pos hc, List.dropWhile_cons_of_pos hc]
    rfl

/-- The reader of names reads the name that the lexer tells. -/
theorem reader_name (c : Char) (rest : Text) :
    reader .name (c :: rest) =
      if startsName c then some (c :: rest.takeWhile isWordChar) else none := by
  show (Reader.char startsName (c :: rest)).bind _ = _
  rw [Reader.char]
  cases startsName c <;> rfl

/-- The reader of operators reads the operator that the lexer tells. -/
theorem reader_op (c : Char) (rest : Text) :
    reader .op (c :: rest) =
      if c = '*' ∧ rest.head? = some '*' then some ['*', '*']
      else if c ∈ operators then some [c] else none := by
  -- The second star is read from what is left after the first one.
  have hstars : ((Reader.char ['*'].contains).andThen (.char ['*'].contains)) (c :: rest) =
      if c = '*' ∧ rest.head? = some '*' then some ['*', '*'] else none := by
    unfold Reader.andThen
    by_cases hc : c = '*'
    · subst hc
      cases rest with
      | nil => rfl
      | cons d rest =>
        by_cases hd : d = '*'
        · subst hd
          rfl
        · simp [Reader.char, hd]
    · simp [Reader.char, hc]
  have hsingle : Reader.char operators.contains (c :: rest) =
      if c ∈ operators then some [c] else none := by
    simp [Reader.char]
  show (((Reader.char ['*'].contains).andThen (.char ['*'].contains)) (c :: rest)).or _ = _
  rw [hstars, hsingle]
  split
  · rfl
  · exact Option.none_or

/-- The readers, tried in the order of the patterns, read the token that the lexer tells. -/
theorem findSome?_reader (c : Char) (rest : Text) :
    (patterns.findSome? fun e => (reader e.1 (c :: rest)).map (Lexeme.mk e.1)) =
      (token? c rest).map fun token => ⟨token.1, c :: token.2⟩ := by
  simp only [patterns, List.findSome?_cons, List.findSome?_nil, reader_number, reader_name,
    reader_op]
  unfold token?
  by_cases hdigit : isDecimal c = true
  · simp only [if_pos hdigit, Option.map_some]
  by_cases hname : startsName c = true
  · simp only [if_neg hdigit, if_pos hname, Option.map_none, Option.map_some]
  by_cases hstars : c = '*' ∧ rest.head? = some '*'
  · obtain ⟨rfl, hnext⟩ := hstars
    simp only [if_neg hdigit, if_neg hname, hnext, and_self, if_true, Option.map_none,
      Option.map_some]
  by_cases hop : c ∈ operators
  · simp only [if_neg hdigit, if_neg hname, if_neg hstars, if_pos hop, Option.map_none,
      Option.map_some]
  · simp only [if_neg hdigit, if_neg hname, if_neg hstars, if_neg hop, Option.map_none]

end Arithmetic

end TextScan
