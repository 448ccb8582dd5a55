import TextScan.Proofs.Arithmetic.Patterns
import TextScan.Proofs.Location
import TextScan.Proofs.Scanner.Cursor
import TextScan.Proofs.Scanner.Search

/-!
# Tokenizing is lexing

The tokens that a scanner takes with the patterns of tokens are those that the lexer tells
(`tokenize_eq_lex`). The invariant is where the scanner stands: the text before the cursor and the
text after it (`Stands`). Skipping blanks and taking a token move the cursor over what they read, and
a pattern that does not match leaves it where it is. Where the scanner stands no attempt ends in a
fault (`Stands.attempt_ok`), so the loop misses nothing by asking only what has been taken. So one
round of the loop is one step of the lexer, and the loop ends because the lexer does (`Stands.loop`).
This is said of the loop without a bound on its rounds (`Loop`); the bound is never reached, as no
token is empty (`Loop.tokensFrom_eq`).
-/

namespace TextScan

/-- With a fixed anchor, a pattern that takes what a reader reads is found at the cursor exactly if
the reader reads something there, and the match ends after that. -/
theorem RegexEngine.exec_takes_cases {e : RegexEngine} (he : e.fixedAnchor = true) {r : Regex}
    {a : Reader} (h : r.node.Takes a) {t before rest : Text} {pos : Int} (ht : t = before ++ rest)
    (hpos : pos = before.length) :
    (a rest = none ∧ e.exec r .anchored t pos = none) ∨
      ∃ v after m, a rest = some v ∧ rest = v ++ after ∧ e.exec r .anchored t pos = some m ∧
        m.stop = before.length + v.length := by
  subst ht hpos
  have hlen : before.length ≤ (before ++ rest).length := by
    rw [List.length_append]
    omega
  have hmatch : r.matchAt (before ++ rest) before.length =
      (a rest).map fun v => ⟨before.length, (r.initial before.length).moved
        (before.length + v.length)⟩ := by
    have hfirst := h.head_eq (before ++ rest) (r.initial before.length) hlen
    rw [show (r.initial before.length).pos = before.length from rfl, List.drop_left] at hfirst
    rw [Regex.matchAt_eq, hfirst, Option.map_map]
    rfl
  have hexec : e.exec r .anchored (before ++ rest) before.length =
      (r.matchAt (before ++ rest) before.length).map (r.toMatch (before ++ rest) 0) := by
    rw [exec_fixed he .anchored (by omega), Int.toNat_natCast]
    rfl
  rw [hexec, hmatch]
  cases hv : a rest with
  | none => exact Or.inl ⟨rfl, rfl⟩
  | some v =>
    obtain ⟨after, hafter⟩ := h.isPrefix hv
    refine Or.inr ⟨v, after, _, rfl, hafter.symm, rfl, ?_⟩
    show ((before.length + v.length : Nat) : Int) + 0 = before.length + v.length
    omega

namespace Arithmetic

open Scanner (CutAt)
open Unicode (isBlank)

/-! ## Where the scanner stands -/

/-- A scanner stands between two parts of its text, and its cache is faithful. -/
structure Stands (before rest : Text) (s : Scanner) (c : Cache) : Prop
    extends s.CutAt before rest where
  /-- The scanner is coherent. -/
  coherent : s.Coherent
  /-- The cache is faithful. -/
  faithful : c.Faithful

namespace Stands

variable {before rest : Text} {s : Scanner} {c : Cache} {p : Text} {a : Reader}

/-- A new scanner stands before its text. -/
theorem new (t : Text) (hc : c.Faithful) : Stands [] t { text := t } c :=
  ⟨⟨rfl, rfl⟩, .new t, hc⟩

/-- An attempt with a pattern moves the cursor over what is read there, which may be nothing. -/
theorem step (h : Stands before rest s c) (hp : Scans p a) (use : Use) (huse : use ≠ .check) :
    let out := s.step engine (.attempt .anchored use (.source p)) c
    Stands (before ++ (a rest).getD []) (rest.drop ((a rest).getD []).length) out.2.1 out.2.2 := by
  intro out
  obtain ⟨r, hr, htakes⟩ := hp
  have hcoherent : out.2.1.Coherent := Scanner.Coherent.step _ _ s c h.coherent
  have hfaithful : out.2.2.Faithful := Scanner.step_faithful _ _ s h.faithful
  have hout : out = s.attempt engine .anchored use (.source p) c := rfl
  rw [engine, Scanner.attempt_of_compiles _ .anchored use hr h.coherent h.faithful] at hout
  rcases RegexEngine.exec_takes_cases (e := ({} : Config).regexEngine) rfl htakes h.text_eq h.pos_eq
    with ⟨hnone, hmissed⟩ | ⟨v, after, m, hsome, rfl, hfound, hstop⟩
  · have hs' : out.2.1 = s.cleared := by rw [hout, hmissed]
    rw [hnone, Option.getD_none, List.append_nil, List.length_nil, List.drop_zero]
    refine ⟨⟨?_, ?_⟩, hcoherent, hfaithful⟩
    · rw [hs']
      exact h.text_eq
    · rw [hs']
      exact h.pos_eq
  · have hs' : out.2.1 = s.landed use m := by rw [hout, hfound]
    rw [hsome, Option.getD_some, List.drop_left]
    refine ⟨⟨?_, ?_⟩, hcoherent, hfaithful⟩
    · rw [hs', List.append_assoc]
      exact h.text_eq
    · rw [hs', List.length_append, Scanner.landed, if_neg huse, Int.natCast_add]
      exact hstop

/-- No attempt with a pattern of the tokenizer is a fault, as all of them compile: it finds something
or it does not. -/
theorem attempt_ok (h : Stands before rest s c) (hp : p ∈ blanks :: patterns.map Prod.snd)
    (use : Use) :
    ∃ answer, (s.step engine (.attempt .anchored use (.source p)) c).1.result = .ok answer := by
  obtain ⟨r, hr⟩ : ∃ r, (Pattern.source p).regex 0 = .ok r := by
    rcases List.mem_cons.mp hp with rfl | hmem
    · obtain ⟨r, hr, _⟩ := scans_blanks
      exact ⟨r, hr⟩
    · obtain ⟨e, he, rfl⟩ := List.mem_map.mp hmem
      obtain ⟨r, hr, _⟩ := scans_patterns e he
      exact ⟨r, hr⟩
  show ∃ answer, (s.attempt engine .anchored use (.source p) c).1.result = .ok answer
  rw [engine, Scanner.attempt_of_compiles _ .anchored use hr h.coherent h.faithful]
  split
  · exact ⟨_, rfl⟩
  · exact ⟨_, rfl⟩

/-- Skipping blanks moves the cursor over the longest run of them. -/
theorem skipBlanks (h : Stands before rest s c) :
    Stands (before ++ rest.takeWhile isBlank) (rest.dropWhile isBlank) (skipBlanks s c).1
      (skipBlanks s c).2 := by
  have hstep := h.step scans_blanks .skip (by decide)
  have hrun : (Reader.run 1 isBlank rest).getD [] = rest.takeWhile isBlank := by
    unfold Reader.run
    split
    · rfl
    · rename_i hshort
      exact (List.eq_nil_of_length_eq_zero (by omega)).symm
  rw [hrun, drop_length_takeWhile] at hstep
  exact hstep

/-- A scan takes what is read at the cursor. -/
theorem scan (h : Stands before rest s c) (hp : Scans p a) :
    ∃ s' c', scan p s c = (a rest, s', c') ∧
      Stands (before ++ (a rest).getD []) (rest.drop ((a rest).getD []).length) s' c' := by
  have hstep := h.step hp .scan (by decide)
  obtain ⟨r, hr, htakes⟩ := hp
  refine ⟨_, _, ?_, hstep⟩
  unfold Arithmetic.scan engine
  rcases RegexEngine.exec_takes_cases (e := ({} : Config).regexEngine) rfl htakes h.text_eq h.pos_eq
    with ⟨hnone, hmissed⟩ | ⟨v, after, m, hsome, rfl, hfound, hstop⟩
  · rw [Scanner.scan_eq_of_missed h.faithful hr h.coherent hmissed, hnone]
  · have hvalue : s.text.slice s.pos m.stop = v := by
      rw [h.text_eq, h.pos_eq, hstop]
      exact Text.slice_between before v after
    rw [Scanner.scan_eq_of_found h.faithful hr h.coherent hfound, hvalue, hsome]

/-- The token that is taken is the first that one of the patterns reads. -/
theorem takeFirst {ps : List (Kind × Text)} (hps : ∀ e ∈ ps, Scans e.2 (reader e.1))
    {l? : Option Lexeme} (hl : (ps.findSome? fun e => (reader e.1 rest).map (Lexeme.mk e.1)) = l?)
    (h : Stands before rest s c) :
    ∃ s' c', takeFirst ps s c = (l?, s', c') ∧
      Stands (before ++ (l?.map Lexeme.value).getD [])
        (rest.drop ((l?.map Lexeme.value).getD []).length) s' c' := by
  induction ps generalizing s c with
  | nil =>
    subst hl
    refine ⟨s, c, rfl, ?_⟩
    show Stands (before ++ []) rest s c
    rwa [List.append_nil]
  | cons e ps ih =>
    obtain ⟨s', c', hscan, hstands⟩ := h.scan (hps e List.mem_cons_self)
    rw [Arithmetic.takeFirst, hscan]
    rw [List.findSome?_cons] at hl
    cases hread : reader e.1 rest with
    | none =>
      -- The cursor has not moved, so the other patterns are tried at the same place.
      rw [hread, Option.getD_none, List.append_nil] at hstands
      rw [hread] at hl
      exact ih (fun e he => hps e (List.mem_cons_of_mem _ he)) hl hstands
    | some v =>
      rw [hread] at hl hstands
      subst hl
      exact ⟨s', c', rfl, hstands⟩

/-- A character after the cursor is reported. -/
theorem unexpected?_eq {x : Char} (h : Stands before (x :: rest) s c) :
    unexpected? s = some (Stop.report (before ++ x :: rest) ⟨before.length, x⟩) := by
  have hlocation : s.location = (Stop.report (before ++ x :: rest) ⟨before.length, x⟩).location := by
    unfold Scanner.location Stop.report Stop.line Stop.column
    rw [h.text_eq, h.pos_eq, Location.ofOffset_append, List.take_left]
    rfl
  have hpeek : s.peek 1 = .ok [x] := CutAt.peek (v := [x]) h.toCutAt
  unfold unexpected?
  rw [hpeek, hlocation]
  rfl

/-- A round of the loop, where something other than blanks is left: the blanks are skipped, and the
token that the lexer tells is taken. -/
theorem round (h : Stands before rest s c) {x : Char} {others : Text}
    (hdrop : rest.dropWhile isBlank = x :: others) {l? : Option Lexeme}
    (hl : ((token? x others).map fun token => Lexeme.mk token.1 (x :: token.2)) = l?) :
    ¬ (Arithmetic.skipBlanks s c).1.atEnd = true ∧
      ∃ s' c', Arithmetic.takeFirst patterns (Arithmetic.skipBlanks s c).1
          (Arithmetic.skipBlanks s c).2 = (l?, s', c') ∧
        Stands (before ++ rest.takeWhile isBlank ++ (l?.map Lexeme.value).getD [])
          ((x :: others).drop ((l?.map Lexeme.value).getD []).length) s' c' := by
  have hskipped := h.skipBlanks
  rw [hdrop] at hskipped
  refine ⟨?_, ?_⟩
  · rw [hskipped.atEnd]
    exact Bool.false_ne_true
  · exact hskipped.takeFirst scans_patterns ((findSome?_reader x others).trans hl)

end Stands

/-- The message names the character, its line and its column. -/
theorem message_report (source : Text) (stop : Stop) :
    (stop.report source).message =
      s!"unexpected {Quoted.text [stop.char]} at {stop.line source}:{stop.column source}" := by
  have hlabel : (stop.report source).location.label =
      s!"{stop.line source}:{stop.column source}" := rfl
  unfold Unexpected.message
  rw [hlabel]
  show _ ++ (_ ++ _ ++ _) = _
  rw [← String.append_assoc, ← String.append_assoc]
  rfl

/-! ## The loop -/

/-- The loop of rounds, without a bound on their number: what it comes to from a scanner and a cache,
if it ends. -/
inductive Loop : Scanner → Cache → List Lexeme × Option Unexpected → Prop
  /-- There is nothing left after the blanks. -/
  | ended {s s₁ : Scanner} {c c₁ : Cache} (hskip : skipBlanks s c = (s₁, c₁))
    (hend : s₁.atEnd = true) : Loop s c ([], none)
  /-- No token can be taken. -/
  | stopped {s s₁ s₂ : Scanner} {c c₁ c₂ : Cache} (hskip : skipBlanks s c = (s₁, c₁))
    (hmore : ¬ s₁.atEnd = true) (hnone : takeFirst patterns s₁ c₁ = (none, s₂, c₂)) :
    Loop s c ([], unexpected? s₂)
  /-- A token is taken, and the loop goes on. -/
  | taken {s s₁ s₂ : Scanner} {c c₁ c₂ : Cache} (hskip : skipBlanks s c = (s₁, c₁))
    (hmore : ¬ s₁.atEnd = true) {l : Lexeme} (hsome : takeFirst patterns s₁ c₁ = (some l, s₂, c₂))
    {lexemes : List Lexeme} {stop : Option Unexpected} (hrest : Loop s₂ c₂ (lexemes, stop)) :
    Loop s c (l :: lexemes, stop)

/-- The bounded loop comes to what the loop comes to, if it has more rounds than there are tokens:
each round but the last gives a token. -/
theorem Loop.tokensFrom_eq {s : Scanner} {c : Cache} {out : List Lexeme × Option Unexpected}
    (h : Loop s c out) {fuel : Nat} (hfuel : out.1.length < fuel) : tokensFrom fuel s c = out := by
  induction h generalizing fuel with
  | ended hskip hend =>
    obtain ⟨fuel, rfl⟩ := Nat.exists_eq_add_one.mpr hfuel
    rw [tokensFrom, hskip]
    exact if_pos hend
  | stopped hskip hmore hnone =>
    obtain ⟨fuel, rfl⟩ := Nat.exists_eq_add_one.mpr hfuel
    rw [tokensFrom, hskip]
    dsimp only
    rw [if_neg hmore, hnone]
  | taken hskip hmore hsome _ ih =>
    obtain ⟨fuel, rfl⟩ := Nat.exists_eq_add_one.mpr (Nat.zero_lt_of_lt hfuel)
    rw [tokensFrom, hskip]
    dsimp only
    rw [if_neg hmore, hsome]
    dsimp only
    rw [ih (Nat.lt_of_succ_lt_succ hfuel)]

/-- The loop comes to one thing at most. -/
theorem Loop.unique {s : Scanner} {c : Cache} {out out' : List Lexeme × Option Unexpected}
    (h : Loop s c out) (h' : Loop s c out') : out' = out := by
  let fuel := out.1.length + out'.1.length + 1
  have hout : tokensFrom fuel s c = out := h.tokensFrom_eq (by omega)
  have hout' : tokensFrom fuel s c = out' := h'.tokensFrom_eq (by omega)
  rw [← hout, ← hout']

/-- The loop ends, and comes to what the lexer tells of the text after the cursor. -/
theorem Stands.loop {before rest : Text} {s : Scanner} {c : Cache} (h : Stands before rest s c) :
    Loop s c ((lexFrom before.length rest).1,
      (lexFrom before.length rest).2.map (Stop.report (before ++ rest))) := by
  -- The induction follows the lexer, which starts where the text before the cursor ends.
  generalize hoffset : before.length = offset
  fun_induction lexFrom offset rest generalizing before s c with
  | case1 offset rest hdrop =>
    have hskipped := h.skipBlanks
    rw [hdrop] at hskipped
    exact .ended rfl hskipped.atEnd
  | case2 offset rest start x others hdrop =>
    rename_i htoken
    obtain ⟨hmore, s', c', hnone, hstands⟩ := h.round hdrop (congrArg (Option.map _) htoken)
    have hstop : Stands (before ++ rest.takeWhile isBlank) (x :: others) s' c' := by
      rw [Option.map_none, Option.map_none, Option.getD_none, List.append_nil] at hstands
      exact hstands
    have htext : before ++ rest.takeWhile isBlank ++ x :: others = before ++ rest := by
      rw [List.append_assoc, ← hdrop, List.takeWhile_append_dropWhile]
    have hloop : Loop s c ([], unexpected? s') := .stopped rfl hmore hnone
    rw [hstop.unexpected?_eq, htext, List.length_append, hoffset] at hloop
    exact hloop
  | case3 offset rest start x others hdrop kind more htoken lexemes stop hothers =>
    rename_i ih
    obtain ⟨hmore, s', c', hsome, hstands⟩ := h.round hdrop (congrArg (Option.map _) htoken)
    have hnext : Stands (before ++ rest.takeWhile isBlank ++ x :: more)
        (others.drop more.length) s' c' := hstands
    have htext : before ++ rest.takeWhile isBlank ++ x :: more ++ others.drop more.length =
        before ++ rest := by
      obtain ⟨after, rfl⟩ := token?_prefix htoken
      rw [List.drop_left, List.append_assoc, List.append_assoc, List.cons_append, ← hdrop,
        List.takeWhile_append_dropWhile]
    have hstart : (before ++ rest.takeWhile isBlank ++ x :: more).length =
        start + (x :: more).length := by
      rw [List.length_append, List.length_append, hoffset]
    have hrest := ih hnext hstart
    rw [htext, hothers] at hrest
    exact .taken rfl hmore hsome hrest

/-- The tokens of an expression are those that the lexer tells. Whatever the cache has been used for,
the loop ends, and comes to these tokens. No token is empty, and up to the character that is
reported, if one is, the expression consists of the tokens and of blanks. -/
theorem tokenize_eq_lex (source : Text) :
    tokenize source = ((lex source).1, (lex source).2.map (Stop.report source)) ∧
      (∀ c : Cache, c.Reachable → ∀ out, Loop { text := source } c out ↔ out = tokenize source) ∧
      (tokenize source).2.map Unexpected.message =
        ((lex source).2.map fun stop =>
          s!"unexpected {Quoted.text [stop.char]} at {stop.line source}:{stop.column source}") ∧
      (∀ l ∈ (tokenize source).1, l.value ≠ []) ∧
      ∃ u rest, source = u ++ rest ∧ Spaced (tokenize source).1 u ∧
        EndsAfter 0 u rest (lex source).2 := by
  have hloop : ∀ c : Cache, c.Reachable → Loop { text := source } c
      ((lex source).1, (lex source).2.map (Stop.report source)) :=
    fun c hc => (Stands.new source hc.faithful).loop
  have hlex : tokenize source = ((lex source).1, (lex source).2.map (Stop.report source)) :=
    (hloop {} .empty).tokensFrom_eq (Nat.lt_succ_of_le (length_lexFrom_le 0 source))
  rw [hlex]
  refine ⟨rfl, fun c hc out => ⟨(hloop c hc).unique, ?_⟩, ?_, lexFrom_nonempty 0 source,
    lexFrom_spaced 0 source⟩
  · rintro rfl
    exact hloop c hc
  · rw [Option.map_map]
    exact congrArg (Option.map · (lex source).2) (funext (message_report source))

/-- A second point does not belong to a number: the loop ends at it, also with a cache that has been
used before. -/
theorem tokenize_eq_lex_points :
    let used := ((Pattern.source blanks).compile 0 {}).2
    used.Reachable ∧
      Loop { text := "x **\n 1.2.3".toList } used
        ([⟨.name, "x".toList⟩, ⟨.op, "**".toList⟩, ⟨.number, "1.2".toList⟩],
          some ⟨".".toList, ⟨2, 5, 9⟩⟩) := by
  intro used
  have hused : used.Reachable := .compile .empty _ _
  exact ⟨hused, ((tokenize_eq_lex _).2.1 used hused _).mpr (by decide +kernel)⟩

end Arithmetic

end TextScan
