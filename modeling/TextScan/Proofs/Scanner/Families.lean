import TextScan.Proofs.Scanner.Coherence

/-!
# Scanning, checking and skipping agree

The three uses of a match attempt work out their answers and the cursor on different ways, but they
are one attempt looked at in three ways. From the same state they register the same match or fail
with the same fault; a check answers what a scan answers, a skip answers its length, and where the
cursor moves, it moves by that length (`Scanner.uses_agree`).

An attempt depends on the text and the cursor only (`Scanner.attempt_again`): not on the register,
nor on what the cache holds. So a check before a scan changes nothing, and an attempt that has
failed fails again.
-/

namespace TextScan

/-- The answer with the length in place of a text. -/
def Answer.measured : Answer → Answer
  | .text t => .number t.length
  | a => a

namespace Scanner

/-- The text from an offset to the end of the last match, put together from the text before the
match and the text of the match. -/
def throughMatch (s : Scanner) (i : Int) : Option Text :=
  s.preMatch.bind fun before => s.matched.map (before.sliceFrom i ++ ·)

/-! ## One attempt -/

/-- With the regular-expression engine, an attempt depends on the text and the cursor only. -/
theorem attempt_again (e : RegexEngine) (reach : Reach) (use : Use) (p : Pattern) {s s' : Scanner}
    (htext : s'.text = s.text) (hpos : s'.pos = s.pos) {c c' : Cache} (hc : c.Faithful)
    (hc' : c'.Faithful) :
    (s'.step e.engine (.attempt reach use p) c').1 = (s.step e.engine (.attempt reach use p) c).1 ∧
      (s'.step e.engine (.attempt reach use p) c').2.1 =
        (s.step e.engine (.attempt reach use p) c).2.1 := by
  obtain ⟨t, pos, last⟩ := s
  obtain ⟨t', pos', last'⟩ := s'
  obtain rfl : t' = t := htext
  obtain rfl : pos' = pos := hpos
  have hreply : (e.engine.attempt reach p t' pos' c').1 = (e.engine.attempt reach p t' pos' c).1 :=
    (RegexEngine.attempt_fst hc' e reach p t' pos').trans
      (RegexEngine.attempt_fst hc e reach p t' pos').symm
  show (attempt e.engine reach use p ⟨t', pos', last'⟩ c').1 = (attempt e.engine reach use p _ c).1 ∧
    (attempt e.engine reach use p ⟨t', pos', last'⟩ c').2.1 = (attempt e.engine reach use p _ c).2.1
  rw [attempt_eq, attempt_eq]
  dsimp only
  rw [hreply]
  split
  · exact ⟨rfl, rfl⟩
  · exact ⟨rfl, rfl⟩
  · split <;> exact ⟨rfl, rfl⟩

section Uses

variable (e : RegexEngine) {s : Scanner} (hs : s.Coherent) (c : Cache) (reach : Reach) (p : Pattern)
include hs

/-- An attempt fails with one fault for all uses, finds nothing for all uses, or finds one match for
all uses. -/
theorem attempt_uses :
    (∃ f log, ∀ use, (s.step e.engine (.attempt reach use p) c).1 = { result := .error f, log } ∧
        (s.step e.engine (.attempt reach use p) c).2.1 = s.cleared) ∨
      (∃ log, ∀ use, (s.step e.engine (.attempt reach use p) c).1 = { result := .ok .none, log } ∧
        (s.step e.engine (.attempt reach use p) c).2.1 = s.cleared) ∨
      ∃ m log, m.Within s.text ∧ reach.allows s.pos m.start ∧
        ∀ use, (s.step e.engine (.attempt reach use p) c).1 =
            { result := .ok (answer reach use s.text s.pos m), log } ∧
          (s.step e.engine (.attempt reach use p) c).2.1 = s.landed use m := by
  have hrun : ∀ use, s.step e.engine (.attempt reach use p) c = _ :=
    fun use => attempt_regex e reach use p hs c
  cases hcompiled : (p.compile e.mask c).1.result with
  | error f =>
    refine Or.inl ⟨f, (p.compile e.mask c).1.log, fun use => ?_⟩
    simp only [hrun use, hcompiled, and_self]
  | ok r =>
    cases hm : e.exec r reach s.text s.pos with
    | none =>
      refine Or.inr (Or.inl ⟨(p.compile e.mask c).1.log, fun use => ?_⟩)
      simp only [hrun use, hcompiled, hm, and_self]
    | some m =>
      obtain ⟨hwithin, hreach⟩ := RegexEngine.exec_within hs.pos_nonneg hs.pos_le hm
      refine Or.inr (Or.inr ⟨m, (p.compile e.mask c).1.log, hwithin, hreach, fun use => ?_⟩)
      simp only [hrun use, hcompiled, hm, and_self]

end Uses

/-! ## What the uses answer -/

/-- A match that was found is answered with something. -/
theorem answer_ne_none (reach : Reach) (use : Use) (t : Text) (pos : Int) (m : Match) :
    answer reach use t pos m ≠ .none := by
  cases reach <;> cases use <;> simp [answer]

section Found

variable {s : Scanner} {m : Match} (hm : m.Within s.text) {reach : Reach}
  (hreach : reach.allows s.pos m.start = true) (hs : s.Coherent)
include hm hreach hs

/-- The text from the cursor to the end of a registered match is the text before the match from the
cursor on, and the match. -/
theorem throughMatch_landed (use : Use) :
    (s.landed use m).throughMatch s.pos = some (s.text.slice s.pos m.stop) := by
  have hstart := Reach.le_of_allows hreach
  have hstop := hm.start_le_stop
  have hlen := hm.stop_le
  show some ((s.text.sliceTo m.start).sliceFrom s.pos ++ m.value) = _
  rw [Text.sliceFrom_sliceTo hs.pos_nonneg hstart (by omega), hm.value_eq,
    Text.slice_append_slice hs.pos_nonneg hstart hstop hlen]

/-- The text from the cursor to the end of a match is as long as they are apart. -/
theorem length_through : ((s.text.slice s.pos m.stop).length : Int) = m.stop - s.pos := by
  have hstart := Reach.le_of_allows hreach
  have hstop := hm.start_le_stop
  exact Text.length_slice hs.pos_nonneg (by omega) hm.stop_le

end Found

/-! ## Agreement -/

section Agreement

variable (e : RegexEngine) {s : Scanner} (hs : s.Coherent) (c : Cache) (reach : Reach) (p : Pattern)
include hs

/-- All uses leave the same text and the same register. -/
theorem uses_register (use : Use) :
    (s.step e.engine (.attempt reach use p) c).2.1.text = s.text ∧
      (s.step e.engine (.attempt reach use p) c).2.1.last =
        (s.step e.engine (.attempt reach .scan p) c).2.1.last := by
  rcases attempt_uses e hs c reach p with ⟨f, log, hrun⟩ | ⟨log, hrun⟩ | ⟨m, log, -, -, hrun⟩
  all_goals
    rw [(hrun use).2, (hrun .scan).2]
    exact ⟨rfl, rfl⟩

/-- A check has the outcome of a scan. -/
theorem check_outcome :
    (s.step e.engine (.attempt reach .check p) c).1 =
      (s.step e.engine (.attempt reach .scan p) c).1 := by
  rcases attempt_uses e hs c reach p with ⟨f, log, hrun⟩ | ⟨log, hrun⟩ | ⟨m, log, hm, hreach, hrun⟩
  · rw [(hrun .check).1, (hrun .scan).1]
  · rw [(hrun .check).1, (hrun .scan).1]
  · rw [(hrun .check).1, (hrun .scan).1, answer_eq hm hreach, answer_eq hm hreach]

/-- A skip has the outcome of a scan, with the length in place of the text. -/
theorem skip_outcome :
    (s.step e.engine (.attempt reach .skip p) c).1 =
      { (s.step e.engine (.attempt reach .scan p) c).1 with
        result := (s.step e.engine (.attempt reach .scan p) c).1.result.map Answer.measured } := by
  rcases attempt_uses e hs c reach p with ⟨f, log, hrun⟩ | ⟨log, hrun⟩ | ⟨m, log, hm, hreach, hrun⟩
  · rw [(hrun .skip).1, (hrun .scan).1]
    rfl
  · rw [(hrun .skip).1, (hrun .scan).1]
    rfl
  · rw [(hrun .skip).1, (hrun .scan).1, answer_eq hm hreach, answer_eq hm hreach]
    dsimp only [Except.map, Answer.measured]
    rw [length_through hm hreach hs]

/-- A scan fails, or answers with the text to the end of the match that was registered, by whose
length the cursor moves. -/
theorem scan_outcome :
    (∃ f, (s.step e.engine (.attempt reach .scan p) c).1.result = .error f ∧
        ∀ use, (s.step e.engine (.attempt reach use p) c).2.1 = s.cleared) ∨
      ∃ v : Option Text, (s.step e.engine (.attempt reach .scan p) c).1.result = .ok (.optText v) ∧
        (∀ use, v = (s.step e.engine (.attempt reach use p) c).2.1.throughMatch s.pos) ∧
        ∀ use, (s.step e.engine (.attempt reach use p) c).2.1.pos =
          if use = .check then s.pos else s.pos + (v.getD []).length := by
  rcases attempt_uses e hs c reach p with ⟨f, log, hrun⟩ | ⟨log, hrun⟩ | ⟨m, log, hm, hreach, hrun⟩
  · exact Or.inl ⟨f, congrArg Outcome.result (hrun .scan).1, fun use => (hrun use).2⟩
  · refine Or.inr ⟨none, congrArg Outcome.result (hrun .scan).1, fun use => ?_, fun use => ?_⟩
    · rw [(hrun use).2]
      rfl
    · rw [(hrun use).2]
      show s.pos = if use = .check then s.pos else s.pos + 0
      split <;> omega
  · refine Or.inr ⟨some (s.text.slice s.pos m.stop), ?_, fun use => ?_, fun use => ?_⟩
    · rw [(hrun .scan).1, answer_eq hm hreach]
      rfl
    · rw [(hrun use).2, throughMatch_landed hm hreach hs]
    · rw [(hrun use).2, landed, Option.getD_some, length_through hm hreach hs]
      dsimp only
      split <;> omega

/-- An attempt that fails leaves the scanner as it was, with an empty register. -/
theorem failed_eq_cleared {use : Use}
    (h : (∃ f, (s.step e.engine (.attempt reach use p) c).1.result = .error f) ∨
      (s.step e.engine (.attempt reach use p) c).1.result = .ok .none) :
    (s.step e.engine (.attempt reach use p) c).2.1 = s.cleared := by
  rcases attempt_uses e hs c reach p with ⟨f, log, hrun⟩ | ⟨log, hrun⟩ | ⟨m, log, hm, hreach, hrun⟩
  · exact (hrun use).2
  · exact (hrun use).2
  · rw [(hrun use).1] at h
    simp [answer_ne_none] at h

/-- A check leaves the cursor. -/
theorem check_pos : (s.step e.engine (.attempt reach .check p) c).2.1.pos = s.pos := by
  rcases attempt_uses e hs c reach p with ⟨f, log, hrun⟩ | ⟨log, hrun⟩ | ⟨m, log, -, -, hrun⟩
  all_goals
    rw [(hrun .check).2]
    rfl

end Agreement

/-- In every state that a regular-expression engine can lead to, and for every pattern, the three
uses of an attempt agree, at the cursor and ahead. They leave the same register and the same text. A
check has the outcome of a scan, and a skip has it with the length in place of the text. Either the
outcome is a fault, and the scanner stays but for its register, which is emptied; or a scan answers
with the text from the cursor to the end of the match that the register tells, or with nothing if
the register is empty, and a scan and a skip move the cursor by the length of that text, while a
check leaves it. So a scan after a check is the scan alone, and an attempt that has failed fails
again and changes nothing. -/
theorem uses_agree (e : RegexEngine) {s : Scanner} (hs : Reachable e.engine s) {c : Cache}
    (hc : c.Reachable) (reach : Reach) (p : Pattern) :
    let run (use : Use) := s.step e.engine (.attempt reach use p) c
    let again (first second : Use) :=
      (run first).2.1.step e.engine (.attempt reach second p) (run first).2.2
    (∀ use, (run use).2.1.text = s.text ∧ (run use).2.1.last = (run .scan).2.1.last) ∧
      (run .check).1 = (run .scan).1 ∧
      (run .skip).1 =
        { (run .scan).1 with result := (run .scan).1.result.map Answer.measured } ∧
      ((∃ f, (run .scan).1.result = .error f ∧ ∀ use, (run use).2.1 = s.cleared) ∨
        ∃ v : Option Text, (run .scan).1.result = .ok (.optText v) ∧
          (∀ use, v = (run use).2.1.throughMatch s.pos) ∧
          (run .scan).2.1.pos = s.pos + (v.getD []).length ∧
          (run .skip).2.1.pos = s.pos + (v.getD []).length ∧
          (run .check).2.1.pos = s.pos) ∧
      ((again .check .scan).1 = (run .scan).1 ∧ (again .check .scan).2.1 = (run .scan).2.1) ∧
      ∀ use, ((∃ f, (run use).1.result = .error f) ∨ (run use).1.result = .ok .none) →
        (again use use).1 = (run use).1 ∧ (again use use).2.1 = (run use).2.1 := by
  have hs := hs.coherent
  have hc := hc.faithful
  have hnext : ∀ use, (s.step e.engine (.attempt reach use p) c).2.2.Faithful :=
    fun use => step_faithful e _ s hc
  refine ⟨uses_register e hs c reach p, check_outcome e hs c reach p, skip_outcome e hs c reach p,
    ?_, ?_, fun use hfailed => ?_⟩
  · rcases scan_outcome e hs c reach p with hfault | ⟨v, hv, hthrough, hpos⟩
    · exact Or.inl hfault
    · exact Or.inr ⟨v, hv, hthrough, hpos .scan, hpos .skip, hpos .check⟩
  · exact attempt_again e reach .scan p (uses_register e hs c reach p .check).1
      (check_pos e hs c reach p) hc (hnext .check)
  · have hcleared := failed_eq_cleared e hs c reach p hfailed
    exact attempt_again e reach use p (congrArg Scanner.text hcleared)
      (congrArg Scanner.pos hcleared) hc (hnext use)

/-- A search from a cursor inside the text, by an engine that does not see what lies before it: the
match starts after the cursor, and a pattern with a group is registered alike by all uses. -/
theorem uses_agree_ahead :
    let e : RegexEngine := { fixedAnchor := false }
    let s : Scanner := { text := "xaab".toList, pos := 1 }
    let p : Pattern := .source "(a)b".toList
    let run (use : Use) := s.step e.engine (.attempt .ahead use p) {}
    Reachable e.engine s ∧ Cache.Reachable {} ∧
      (run .scan).1.result = .ok (.text "aab".toList) ∧
      (run .scan).2.1 = ⟨"xaab".toList, 4, some ⟨2, 4, "ab".toList, [some "a".toList], []⟩⟩ ∧
      (run .check).1 = (run .scan).1 ∧
      (run .skip).1 =
        { (run .scan).1 with result := (run .scan).1.result.map Answer.measured } ∧
      (∀ use, (run use).2.1.last = (run .scan).2.1.last) ∧
      ((run .check).2.1.step e.engine (.attempt .ahead .scan p) (run .check).2.2).2.1 =
        (run .scan).2.1 := by
  intro e s p
  have hs : Reachable e.engine s := ⟨"xaab".toList, {}, [.read 1], by decide +kernel⟩
  have hagree := uses_agree e hs .empty .ahead p
  dsimp only at hagree ⊢
  obtain ⟨hregister, hcheck, hskip, -, hagain, -⟩ := hagree
  exact ⟨hs, .empty, rfl, by decide +kernel, hcheck, hskip,
    fun use => (hregister use).2, hagain.2⟩

end Scanner

end TextScan
