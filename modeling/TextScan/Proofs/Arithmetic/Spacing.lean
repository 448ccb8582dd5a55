import TextScan.Proofs.Arithmetic.Tokenize

/-!
# Blanks keep tokens apart

Blanks between two expressions keep their tokens apart: an expression without an unexpected
character, then blanks, then another expression has the tokens of the first and those of the second,
and the second alone decides whether and at which character the reading stops
(`lexFrom_append`). No token grows into the blanks behind it, as no blank is a digit, a word
character, a point or a star (`token?_append`), and what comes before the blanks is read as it would
be without them. A token read by itself is the token (`token?_self`), so tokens written with a space
between them are read back (`lex_intercalate`).
-/

namespace TextScan

/-! ## Classes of characters -/

namespace Unicode

/-- Whether no range of one list meets a range of another. -/
def Ranges.apart (r s : Ranges) : Bool :=
  r.all fun a => s.all fun b => decide (a.2 < b.1 ∨ b.2 < a.1)

/-- A range that is found is one of the list and has the code point. -/
theorem Ranges.mem_of_find? {r : Ranges} {n : Nat} {a : Nat × Nat} (h : r.find? n = some a) :
    a ∈ r ∧ a.1 ≤ n ∧ n ≤ a.2 := by
  induction r with
  | nil => simp [Ranges.find?] at h
  | cons b r ih =>
    obtain ⟨lo, hi⟩ := b
    rw [Ranges.find?] at h
    split at h
    · simp at h
    · split at h
      · obtain rfl := Option.some.inj h
        exact ⟨List.mem_cons_self, by omega, by omega⟩
      · obtain ⟨hmem, hbounds⟩ := ih h
        exact ⟨List.mem_cons_of_mem _ hmem, hbounds⟩

/-- A code point of one list is in no list that is apart from it. -/
theorem Ranges.has_eq_false_of_apart {r s : Ranges} (h : r.apart s = true) {n : Nat}
    (hn : r.has n = true) : s.has n = false := by
  obtain ⟨a, ha⟩ := Option.isSome_iff_exists.mp hn
  obtain ⟨hmem, hlo, hhi⟩ := Ranges.mem_of_find? ha
  rw [Ranges.has, Option.isSome_eq_false_iff, Option.isNone_iff_eq_none]
  by_contra hsome
  obtain ⟨b, hb⟩ := Option.ne_none_iff_exists'.mp hsome
  obtain ⟨hmem', hlo', hhi'⟩ := Ranges.mem_of_find? hb
  have hapart := List.all_eq_true.mp (List.all_eq_true.mp h a hmem) b hmem'
  rw [decide_eq_true_eq] at hapart
  omega

/-- No blank is a decimal digit. -/
theorem isDecimal_of_isBlank {c : Char} (h : isBlank c = true) : isDecimal c = false :=
  Ranges.has_eq_false_of_apart (by decide +kernel : blankRanges.apart decimalRanges = true) h

/-- No blank is a word character. -/
theorem isWordChar_of_isBlank {c : Char} (h : isBlank c = true) : isWordChar c = false :=
  Ranges.has_eq_false_of_apart (by decide +kernel : blankRanges.apart wordRanges = true) h

end Unicode

namespace Arithmetic

open Unicode (isBlank isDecimal isWordChar isDecimal_of_isBlank isWordChar_of_isBlank)

/-! ## Runs of a class -/

section Runs

variable {f : Char → Bool} {u : Text} (hu : u.head?.any f = false)
include hu

/-- A text that does not start with a character of a class starts with no run of the class. -/
theorem takeWhile_eq_nil : u.takeWhile f = [] := by
  cases u with
  | nil => rfl
  | cons c u => rw [List.takeWhile_cons_of_neg (by simpa using hu)]

/-- A run does not grow into a text that does not start with a character of its class. -/
theorem takeWhile_append_other (t : Text) : (t ++ u).takeWhile f = t.takeWhile f := by
  induction t with
  | nil => rw [List.nil_append, takeWhile_eq_nil hu, List.takeWhile_nil]
  | cons c t ih => rw [List.cons_append, List.takeWhile_cons, List.takeWhile_cons, ih]

/-- What is left after a run is followed by the text behind it. -/
theorem dropWhile_append_other (t : Text) : (t ++ u).dropWhile f = t.dropWhile f ++ u := by
  refine List.append_cancel_left (?_ : t.takeWhile f ++ _ = t.takeWhile f ++ _)
  calc t.takeWhile f ++ (t ++ u).dropWhile f
      = (t ++ u).takeWhile f ++ (t ++ u).dropWhile f := by rw [takeWhile_append_other hu]
    _ = t ++ u := List.takeWhile_append_dropWhile
    _ = t.takeWhile f ++ (t.dropWhile f ++ u) := by
      rw [← List.append_assoc, List.takeWhile_append_dropWhile]

/-- A text starts with a character of the class exactly if it does so without the text behind it. -/
theorem head?_any_append_other (t : Text) : (t ++ u).head?.any f = t.head?.any f := by
  cases t with
  | nil => exact hu
  | cons c t => rfl

/-- A run that is put before such a text is the run there. -/
theorem takeWhile_run_append (t : Text) : (t.takeWhile f ++ u).takeWhile f = t.takeWhile f := by
  rw [takeWhile_append_other hu, List.takeWhile_idem]

/-- What is left after a run that is put before such a text is the text. -/
theorem dropWhile_run_append (t : Text) : (t.takeWhile f ++ u).dropWhile f = u := by
  rw [← drop_length_takeWhile, takeWhile_run_append hu, List.drop_left]

end Runs

/-! ## Tokens before blanks -/

/-- A text starts with a blank, or is empty. -/
def StartsBlank (u : Text) : Prop := ∀ c ∈ u.head?, isBlank c = true

/-- Blanks start with a blank, whatever follows. -/
theorem StartsBlank.of_all {w : Text} (hne : w ≠ []) (hw : w.all isBlank = true) (u : Text) :
    StartsBlank (w ++ u) := by
  obtain ⟨c, w, rfl⟩ := List.exists_cons_of_ne_nil hne
  intro d hd
  obtain rfl : c = d := by simpa using hd
  exact List.all_eq_true.mp hw c List.mem_cons_self

/-- What starts with a blank does not start with a character of a class without blanks. -/
theorem StartsBlank.head?_any {u : Text} (hu : StartsBlank u) {f : Char → Bool}
    (hf : ∀ c, isBlank c = true → f c = false) : u.head?.any f = false := by
  cases u with
  | nil => rfl
  | cons c u => exact hf c (hu c rfl)

section Blank

variable {u : Text} (hu : StartsBlank u)
include hu

/-- A fraction does not grow into blanks behind the text. -/
theorem fraction_append (t : Text) : fraction (t ++ u) = fraction t := by
  cases t with
  | nil =>
    cases u with
    | nil => rfl
    | cons c u =>
      have hc : ¬ c = '.' := by
        rintro rfl
        exact absurd (hu '.' rfl) (by decide)
      show fraction (c :: u) = []
      rw [fraction, if_neg (fun h => hc h.1)]
  | cons c t =>
    have hdigits := hu.head?_any fun c => isDecimal_of_isBlank (c := c)
    rw [List.cons_append, fraction, fraction, head?_any_append_other hdigits,
      takeWhile_append_other hdigits]

/-- A token does not grow into blanks behind the text, nor does it become another. -/
theorem token?_append (c : Char) (rest : Text) : token? c (rest ++ u) = token? c rest := by
  have hdigits := hu.head?_any fun c => isDecimal_of_isBlank (c := c)
  have hwords := hu.head?_any fun c => isWordChar_of_isBlank (c := c)
  have hstar : (rest ++ u).head? = some '*' ↔ rest.head? = some '*' := by
    have hnone : u.head?.any (· == '*') = false := by
      apply hu.head?_any
      intro c hc
      rw [beq_eq_false_iff_ne]
      rintro rfl
      exact absurd hc (by decide)
    have hany := head?_any_append_other hnone rest
    rw [Bool.eq_iff_iff, Option.any_eq_true, Option.any_eq_true] at hany
    simpa using hany
  unfold token?
  rw [takeWhile_append_other hdigits, dropWhile_append_other hdigits, fraction_append hu,
    takeWhile_append_other hwords]
  simp only [hstar]

end Blank

/-! ## Tokens by themselves -/

/-- A fraction read by itself is the fraction. -/
theorem fraction_self (t : Text) : fraction (fraction t) = fraction t := by
  cases t with
  | nil => rfl
  | cons c rest =>
    rw [fraction]
    by_cases hpoint : c = '.' ∧ rest.head?.any isDecimal
    · have hdigit : (rest.takeWhile isDecimal).head?.any isDecimal := by
        cases rest with
        | nil => exact hpoint.2
        | cons d rest =>
          have hd : isDecimal d = true := hpoint.2
          rw [List.takeWhile_cons_of_pos hd]
          exact hd
      rw [if_pos hpoint, fraction, if_pos ⟨hpoint.1, hdigit⟩, List.takeWhile_idem]
    · rw [if_neg hpoint]
      rfl

/-- A fraction does not start with a digit. -/
theorem head?_fraction (t : Text) : (fraction t).head?.any isDecimal = false := by
  cases t with
  | nil => rfl
  | cons c rest =>
    rw [fraction]
    split
    · rename_i hpoint
      rw [List.head?_cons, Option.any_some, hpoint.1]
      decide
    · rfl

/-- A token read by itself is the token. -/
theorem token?_self {c : Char} {rest more : Text} {kind : Kind}
    (h : token? c rest = some (kind, more)) : token? c more = some (kind, more) := by
  unfold token? at h ⊢
  by_cases hdigit : isDecimal c = true
  · rw [if_pos hdigit] at h ⊢
    obtain ⟨rfl, rfl⟩ := Prod.mk.inj (Option.some.inj h)
    have hhead := head?_fraction (rest.dropWhile isDecimal)
    rw [takeWhile_run_append hhead, dropWhile_run_append hhead, fraction_self]
  by_cases hname : startsName c = true
  · rw [if_neg hdigit, if_pos hname] at h ⊢
    obtain ⟨rfl, rfl⟩ := Prod.mk.inj (Option.some.inj h)
    rw [List.takeWhile_idem]
  rw [if_neg hdigit, if_neg hname] at h ⊢
  by_cases hstars : c = '*' ∧ rest.head? = some '*'
  · rw [if_pos hstars] at h
    obtain ⟨rfl, rfl⟩ := Prod.mk.inj (Option.some.inj h)
    rw [if_pos ⟨hstars.1, rfl⟩]
  · rw [if_neg hstars] at h
    split at h
    · rename_i hop
      obtain ⟨rfl, rfl⟩ := Prod.mk.inj (Option.some.inj h)
      rw [if_neg (by simp), if_pos hop]
    · simp at h

/-! ## The lexer, step by step -/

section Steps

variable {t : Text} (offset : Nat)

/-- A text of blanks has no tokens. -/
theorem lexFrom_of_blanks (h : t.dropWhile isBlank = []) : lexFrom offset t = ([], none) := by
  rw [lexFrom]
  split
  · rfl
  · rename_i hcons
    simp [h] at hcons

variable {c : Char} {rest : Text} (hdrop : t.dropWhile isBlank = c :: rest)
include hdrop

/-- The tokens end at a character where none starts. -/
theorem lexFrom_of_stop (h : token? c rest = none) :
    lexFrom offset t = ([], some ⟨offset + (t.takeWhile isBlank).length, c⟩) := by
  rw [lexFrom]
  split
  · rename_i hnil
    simp [hdrop] at hnil
  · rename_i c' rest' hcons
    obtain ⟨rfl, rfl⟩ := List.cons.inj (hdrop.symm.trans hcons)
    rw [h]

/-- A token is taken, and the others are those of the text behind it. -/
theorem lexFrom_of_token {kind : Kind} {more : Text} (h : token? c rest = some (kind, more)) :
    lexFrom offset t =
      let others := lexFrom (offset + (t.takeWhile isBlank).length + (c :: more).length)
        (rest.drop more.length)
      (⟨kind, c :: more⟩ :: others.1, others.2) := by
  rw [lexFrom]
  split
  · rename_i hnil
    simp [hdrop] at hnil
  · rename_i c' rest' hcons
    obtain ⟨rfl, rfl⟩ := List.cons.inj (hdrop.symm.trans hcons)
    rw [h]

end Steps

/-! ## Texts -/

/-- The same stop in a text that starts further on. -/
def Stop.shift (d : Nat) (stop : Stop) : Stop := { stop with offset := stop.offset + d }

/-- The tokens of a text do not depend on where it starts, and the stop moves with it. -/
theorem lexFrom_shift (offset d : Nat) (t : Text) :
    lexFrom (offset + d) t = ((lexFrom offset t).1, (lexFrom offset t).2.map (Stop.shift d)) := by
  fun_induction lexFrom offset t with
  | case1 offset t hdrop => rw [lexFrom_of_blanks _ hdrop, Option.map_none]
  | case2 offset t start c rest hdrop htoken =>
    rw [lexFrom_of_stop _ hdrop htoken, Nat.add_right_comm, Option.map_some]
    rfl
  | case3 offset t start c rest hdrop kind more htoken lexemes stop hothers ih =>
    rw [hothers] at ih
    rw [lexFrom_of_token _ hdrop htoken, Nat.add_right_comm offset d, Nat.add_right_comm _ d, ih]

/-- Blanks before a text only move where it starts. -/
theorem lexFrom_blanks_append (offset : Nat) {w : Text} (hw : w.all isBlank = true) (t : Text) :
    lexFrom offset (w ++ t) = lexFrom (offset + w.length) t := by
  have hall : ∀ c ∈ w, isBlank c = true := List.all_eq_true.mp hw
  have hdrop : (w ++ t).dropWhile isBlank = t.dropWhile isBlank :=
    List.dropWhile_append_of_pos hall
  have hstart : offset + ((w ++ t).takeWhile isBlank).length =
      offset + w.length + (t.takeWhile isBlank).length := by
    rw [List.takeWhile_append_of_pos hall, List.length_append, Nat.add_assoc]
  cases hrest : t.dropWhile isBlank with
  | nil => rw [lexFrom_of_blanks _ (hdrop.trans hrest), lexFrom_of_blanks _ hrest]
  | cons c rest =>
    cases htoken : token? c rest with
    | none =>
      rw [lexFrom_of_stop _ (hdrop.trans hrest) htoken, lexFrom_of_stop _ hrest htoken, hstart]
    | some token =>
      rw [lexFrom_of_token _ (hdrop.trans hrest) htoken, lexFrom_of_token _ hrest htoken, hstart]

/-- A text whose tokens do not end too early, blanks and another text: the tokens of the first are
followed by those of the second, and the second decides where they stop. -/
theorem lexFrom_append {offset : Nat} {a w : Text} (ha : (lexFrom offset a).2 = none) (hne : w ≠ [])
    (hw : w.all isBlank = true) (b : Text) :
    lexFrom offset (a ++ (w ++ b)) =
      ((lexFrom offset a).1 ++ (lexFrom (offset + (a.length + w.length)) b).1,
        (lexFrom (offset + (a.length + w.length)) b).2) := by
  fun_induction lexFrom offset a with
  | case1 offset a hdrop =>
    -- There is nothing but blanks before the second text.
    have hblank : (a ++ w).all isBlank = true := by
      rw [List.all_append, hw, Bool.and_true]
      exact List.all_eq_true.mpr (List.dropWhile_eq_nil_iff.mp hdrop)
    rw [← List.append_assoc, lexFrom_blanks_append offset hblank, List.length_append,
      List.nil_append]
  | case2 => simp at ha
  | case3 offset a start c rest hdrop kind more htoken lexemes stop hothers ih =>
    -- The first token is the same with more text behind, and the induction goes on after it, where
    -- the first text may end and the blanks begin.
    rw [hothers] at ih
    have hstarts : StartsBlank (w ++ b) := .of_all hne hw b
    have hdrop' : (a ++ (w ++ b)).dropWhile isBlank = c :: (rest ++ (w ++ b)) := by
      rw [List.dropWhile_append, hdrop]
      rfl
    have hcut : (a.takeWhile isBlank).length + (rest.length + 1) = a.length := by
      have hsplit := congrArg List.length (List.takeWhile_append_dropWhile (p := isBlank) (l := a))
      rwa [hdrop, List.length_append, List.length_cons] at hsplit
    have hstart' : (a ++ (w ++ b)).takeWhile isBlank = a.takeWhile isBlank := by
      rw [List.takeWhile_append, if_neg (by omega)]
    have htoken' : token? c (rest ++ (w ++ b)) = some (kind, more) := by
      rw [token?_append hstarts, htoken]
    have hmore : more <+: rest := token?_prefix htoken
    have hle := hmore.length_le
    have hlength : start + (c :: more).length + ((rest.drop more.length).length + w.length) =
        offset + (a.length + w.length) := by
      rw [List.length_drop, List.length_cons]
      omega
    rw [lexFrom_of_token _ hdrop' htoken', hstart', List.drop_append_of_le_length hle]
    show (_ :: (lexFrom (start + (c :: more).length) _).1, _) = _
    rw [ih ha, hlength]
    rfl

/-- A token is the only one of its own text. -/
def Lexeme.Alone (l : Lexeme) : Prop := lex l.value = ([l], none)

/-- Every token of a text is read as itself when it stands alone. -/
theorem lexFrom_alone (offset : Nat) (t : Text) : ∀ l ∈ (lexFrom offset t).1, l.Alone := by
  fun_induction lexFrom offset t with
  | case1 => exact fun l hl => absurd hl List.not_mem_nil
  | case2 => exact fun l hl => absurd hl List.not_mem_nil
  | case3 offset t start c rest hdrop kind more htoken lexemes stop hothers ih =>
    rw [hothers] at ih
    intro l hl
    rcases List.mem_cons.mp hl with rfl | hl
    · have hblank : isBlank c = false := by
        have hhead := List.head?_dropWhile_not isBlank t
        rw [hdrop, List.head?_cons] at hhead
        exact hhead
      have hstart : (c :: more).dropWhile isBlank = c :: more := by
        rw [List.dropWhile_cons_of_neg (by simp [hblank])]
      show lexFrom 0 (c :: more) = _
      rw [lexFrom_of_token 0 hstart (token?_self htoken), List.drop_length,
        lexFrom_of_blanks _ List.dropWhile_nil]
    · exact ih l hl

/-- Tokens that are written one after the other, with a space between them, are read back. -/
theorem lex_intercalate {lexemes : List Lexeme} (h : ∀ l ∈ lexemes, l.Alone) :
    lex ([' '].intercalate (lexemes.map Lexeme.value)) = (lexemes, none) := by
  induction lexemes with
  | nil => exact lexFrom_of_blanks 0 List.dropWhile_nil
  | cons l others ih =>
    obtain ⟨hl, hothers⟩ := List.forall_mem_cons.mp h
    cases others with
    | nil =>
      rw [List.map_singleton, List.intercalate_singleton]
      exact hl
    | cons l' others =>
      -- The first token is an expression of its own, and the space keeps it from the others.
      have hfirst : lexFrom 0 l.value = ([l], none) := hl
      have hrest : lexFrom 0 ([' '].intercalate ((l' :: others).map Lexeme.value)) =
          (l' :: others, none) := ih hothers
      rw [List.map_cons, List.intercalate_cons_of_ne_nil (by simp), List.append_assoc]
      unfold lex
      rw [lexFrom_append (by rw [hfirst]) (List.cons_ne_nil ' ' []) (by decide), hfirst,
        lexFrom_shift, hrest]
      rfl

/-- The tokens of an expression are those that the lexer tells. -/
theorem tokenize_eq (source : Text) :
    tokenize source = ((lex source).1, (lex source).2.map (Stop.report source)) :=
  (Stands.new source Cache.Reachable.empty.faithful).loop.tokensFrom_eq
    (Nat.lt_succ_of_le (length_lexFrom_le 0 source))

/-- Blanks keep expressions apart. If no character of the first expression is unexpected, the tokens
of the first, blanks and the second are those of the first and then those of the second, and a
character is unexpected exactly if it is so in the second alone. Hence the tokens of an expression
without an unexpected character can be written with single spaces between them and are the tokens of
what was written. -/
theorem tokenize_append_blanks :
    (∀ a w b : Text, (tokenize a).2 = none → w ≠ [] → w.all isBlank = true →
        (tokenize (a ++ w ++ b)).1 = (tokenize a).1 ++ (tokenize b).1 ∧
          (tokenize (a ++ w ++ b)).2.map (fun u => (u.value, u.location.offset)) =
            (tokenize b).2.map fun u => (u.value, u.location.offset + ((a ++ w).length : Int))) ∧
      ∀ source : Text, (tokenize source).2 = none →
        tokenize ([' '].intercalate ((tokenize source).1.map Lexeme.value)) = tokenize source := by
  refine ⟨fun a w b ha hne hw => ?_, fun source hsource => ?_⟩
  · simp only [tokenize_eq, Option.map_eq_none_iff] at ha ⊢
    unfold lex at ha ⊢
    rw [List.append_assoc, lexFrom_append ha hne hw, lexFrom_shift]
    refine ⟨rfl, ?_⟩
    rw [Option.map_map, Option.map_map, Option.map_map, List.length_append]
    rfl
  · simp only [tokenize_eq, Option.map_eq_none_iff] at hsource ⊢
    have halone : ∀ l ∈ (lex source).1, l.Alone := lexFrom_alone 0 source
    rw [lex_intercalate halone, hsource]
    rfl

/-- A number with a fraction before blanks of several kinds, and a second expression that stops at a
point: the fraction stays whole, and the point is reported where it lies now. -/
theorem tokenize_append_blanks_fraction :
    let a : Text := "x** 1.5".toList
    let w : Text := "\u00a0\n".toList
    let b : Text := "2 .5".toList
    ((tokenize a).2 = none ∧ w ≠ [] ∧ w.all isBlank = true) ∧
      (tokenize (a ++ w ++ b)).1 =
        [⟨.name, "x".toList⟩, ⟨.op, "**".toList⟩, ⟨.number, "1.5".toList⟩, ⟨.number, "2".toList⟩] ∧
      (tokenize (a ++ w ++ b)).2.map (fun u => (u.value, u.location.offset)) =
        some (".".toList, 11) ∧
      tokenize "x ** 1.5".toList = tokenize a := by
  intro a w b
  have ha : (tokenize a).2 = none := by decide +kernel
  have htokens : (tokenize a).1 =
      [⟨.name, "x".toList⟩, ⟨.op, "**".toList⟩, ⟨.number, "1.5".toList⟩] := by decide +kernel
  have hne : w ≠ [] := by decide
  have hw : w.all isBlank = true := by decide
  obtain ⟨happend, hstop⟩ := tokenize_append_blanks.1 a w b ha hne hw
  have hback := tokenize_append_blanks.2 a ha
  rw [htokens] at happend hback
  refine ⟨⟨ha, hne, hw⟩, ?_, ?_, hback⟩
  · rw [happend]
    decide +kernel
  · rw [hstop]
    decide +kernel

end Arithmetic

end TextScan
