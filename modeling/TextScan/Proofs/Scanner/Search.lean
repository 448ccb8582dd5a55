import TextScan.Proofs.Scanner.Coherence

/-!
# A search is the first check that succeeds

With a fixed anchor, searching ahead and matching at the cursor are one thing seen from two sides. A
search fails exactly if a check fails at every offset from the cursor to the end of the text, and
otherwise registers the match of the check at the first offset where one succeeds. A scan succeeds
exactly if the search finds its match at the cursor, and then the two are the same step
(`Scanner.scanUntil_eq_first_check`).
-/

namespace TextScan.Scanner

/-- A check of the pattern with the cursor set to `q`. -/
def checkAt (e : RegexEngine) (p : Pattern) (s : Scanner) (c : Cache) (q : Int) :
    Outcome × Scanner × Cache :=
  (s.setPosition q).2.step e.engine (.attempt .anchored .check p) c

section Search

variable {e : RegexEngine} {s : Scanner} {c : Cache} {p : Pattern} {r : Regex}
variable (hc : c.Faithful) (hp : p.regex e.mask = .ok r)
include hc hp

/-! ## Steps in terms of what the engine finds -/

/-- A check at an offset of the text, in terms of what the engine finds there. -/
theorem checkAt_eq {q : Int} (h0 : 0 ≤ q) (hq : q ≤ s.length) :
    checkAt e p s c q =
      match e.exec r .anchored s.text q with
      | none => ({ result := .ok .none }, s.movedTo q, (p.compile e.mask c).2)
      | some m =>
        ({ result := .ok (.text m.value) }, (s.movedTo q).landed .check m,
          (p.compile e.mask c).2) := by
  unfold checkAt
  rw [setPosition_of_mem h0 hq]
  exact attempt_of_compiles e .anchored .check hp (Coherent.movedTo h0 hq) hc

/-- A check at an offset of the text answers nothing exactly if the engine finds nothing there. -/
theorem checkAt_eq_none_iff {q : Int} (h0 : 0 ≤ q) (hq : q ≤ s.length) :
    (checkAt e p s c q).1.result = .ok .none ↔ e.exec r .anchored s.text q = none := by
  rw [checkAt_eq hc hp h0 hq]
  cases e.exec r .anchored s.text q <;> simp

variable (hs : s.Coherent)
include hs

/-- A scan, at the cursor or ahead, that finds a match answers with the text up to its end. -/
theorem scan_eq_of_found {reach : Reach} {m : Match} (hm : e.exec r reach s.text s.pos = some m) :
    s.step e.engine (.attempt reach .scan p) c =
      ({ result := .ok (.text (s.text.slice s.pos m.stop)) }, s.landed .scan m,
        (p.compile e.mask c).2) := by
  obtain ⟨hw, hreach⟩ := RegexEngine.exec_within hs.pos_nonneg hs.pos_le hm
  show s.attempt e.engine reach .scan p c = _
  rw [attempt_of_compiles e reach .scan hp hs hc, hm]
  dsimp only
  rw [answer_eq hw hreach]

/-- A scan, at the cursor or ahead, that finds nothing answers nothing and clears the register. -/
theorem scan_eq_of_missed {reach : Reach} (hm : e.exec r reach s.text s.pos = none) :
    s.step e.engine (.attempt reach .scan p) c =
      ({ result := .ok .none }, s.cleared, (p.compile e.mask c).2) := by
  show s.attempt e.engine reach .scan p c = _
  rw [attempt_of_compiles e reach .scan hp hs hc, hm]

/-- A scan, at the cursor or ahead, answers nothing exactly if the engine finds nothing. -/
theorem scan_eq_none_iff {reach : Reach} :
    (s.step e.engine (.attempt reach .scan p) c).1.result = .ok .none ↔
      e.exec r reach s.text s.pos = none := by
  cases hm : e.exec r reach s.text s.pos with
  | none => simp [scan_eq_of_missed hc hp hs hm]
  | some m => simp [scan_eq_of_found hc hp hs hm]

/-- A scan, at the cursor or ahead, answers with a text exactly if the engine finds a match. -/
theorem scan_eq_text_iff {reach : Reach} :
    (∃ v, (s.step e.engine (.attempt reach .scan p) c).1.result = .ok (.text v)) ↔
      ∃ m, e.exec r reach s.text s.pos = some m := by
  cases hm : e.exec r reach s.text s.pos with
  | none => simp [scan_eq_of_missed hc hp hs hm]
  | some m => simp [scan_eq_of_found hc hp hs hm]

/-! ## Search and check -/

variable (he : e.fixedAnchor = true)
include he

/-- A search answers nothing exactly if every check from the cursor on does. -/
theorem scanUntil_eq_none_iff :
    (s.step e.engine (.attempt .ahead .scan p) c).1.result = .ok .none ↔
      ∀ q, s.pos ≤ q → q ≤ s.length → (checkAt e p s c q).1.result = .ok .none := by
  have hpos := hs.pos_nonneg
  rw [scan_eq_none_iff hc hp hs, RegexEngine.exec_ahead_eq_none_iff he hpos hs.pos_le]
  constructor
  · intro h q hq hlen
    exact (checkAt_eq_none_iff hc hp (by omega) hlen).mpr (h q hq hlen)
  · intro h q hq hlen
    exact (checkAt_eq_none_iff hc hp (by omega) hlen).mp (h q hq hlen)

/-- What a search finds is what the first check that succeeds finds. -/
theorem exists_first_check {m : Match} (hm : e.exec r .ahead s.text s.pos = some m) :
    ∃ q, s.pos ≤ q ∧ q ≤ s.length ∧ (checkAt e p s c q).1.result = .ok (.text m.value) ∧
      (checkAt e p s c q).2.1.last = some m ∧
      ∀ q', s.pos ≤ q' → q' < q → (checkAt e p s c q').1.result = .ok .none := by
  have hpos := hs.pos_nonneg
  obtain ⟨q, hq, hlen, hfound, hfirst⟩ :=
    (RegexEngine.exec_ahead_eq_some_iff he hpos hs.pos_le).mp hm
  have hcheck := checkAt_eq hc hp (q := q) (by omega) hlen
  rw [hfound] at hcheck
  refine ⟨q, hq, hlen, ?_, ?_, fun q' h1 h2 => ?_⟩
  · rw [hcheck]
  · rw [hcheck]
    rfl
  · exact (checkAt_eq_none_iff hc hp (by omega) (Int.le_trans (Int.le_of_lt h2) hlen)).mpr
      (hfirst q' h1 h2)

omit hc hp in
/-- The engine finds a match at the cursor exactly if a search finds one that starts there, and then
it is the same match. -/
theorem exec_anchored_eq_some_iff {m : Match} :
    e.exec r .anchored s.text s.pos = some m ↔
      e.exec r .ahead s.text s.pos = some m ∧ m.start = s.pos := by
  have hpos := hs.pos_nonneg
  rw [RegexEngine.exec_ahead_eq_some_iff he hpos hs.pos_le]
  constructor
  · intro hm
    -- The cursor is the first offset that the search tries.
    have hreach := (RegexEngine.exec_within hpos hs.pos_le hm).2
    refine ⟨⟨s.pos, Int.le_refl _, hs.pos_le, hm, fun q' h1 h2 => by omega⟩, ?_⟩
    exact Reach.allows_anchored.mp hreach
  · rintro ⟨⟨q, hle, hlen, hm, -⟩, hstart⟩
    have hreach := (RegexEngine.exec_within (by omega) hlen hm).2
    have hq : m.start = q := Reach.allows_anchored.mp hreach
    rwa [← hq, hstart] at hm

end Search

/-- In every state that a regular-expression engine with a fixed anchor can lead to, and for every
pattern that compiles: a search ahead answers nothing exactly if a check answers nothing at every
offset from the cursor to the end of the text; otherwise it registers the match of the check at the
first offset where one succeeds, and moves the cursor to its end. A scan succeeds exactly if the
search finds a match that starts at the cursor, and then both are the same step. -/
theorem scanUntil_eq_first_check (e : RegexEngine) (he : e.fixedAnchor = true) {s : Scanner}
    (hs : Reachable e.engine s) {c : Cache} (hc : c.Reachable) {p : Pattern} {r : Regex}
    (hp : p.regex e.mask = .ok r) :
    let scanUntil := s.step e.engine (.attempt .ahead .scan p) c
    let scan := s.step e.engine (.attempt .anchored .scan p) c
    let check := checkAt e p s c
    (scanUntil.1.result = .ok .none ↔
        ∀ q, s.pos ≤ q → q ≤ s.length → (check q).1.result = .ok .none) ∧
      (scanUntil.1.result ≠ .ok .none →
        ∃ q, s.pos ≤ q ∧ q ≤ s.length ∧ (∃ v, (check q).1.result = .ok (.text v)) ∧
          (∀ q', s.pos ≤ q' → q' < q → (check q').1.result = .ok .none) ∧
          ∃ m, (check q).2.1.last = some m ∧ scanUntil.2.1.last = some m ∧
            scanUntil.2.1.pos = m.stop ∧
            scanUntil.1.result = .ok (.text (s.text.slice s.pos m.stop))) ∧
      ((∃ v, scan.1.result = .ok (.text v)) ↔
        ∃ m, scanUntil.2.1.last = some m ∧ m.start = s.pos) ∧
      ((∃ v, scan.1.result = .ok (.text v)) → scan = scanUntil) := by
  have hs := hs.coherent
  have hc := hc.faithful
  dsimp only
  refine ⟨scanUntil_eq_none_iff hc hp hs he, fun hfound => ?_, ?_, fun hscan => ?_⟩
  · rw [ne_eq, scan_eq_none_iff hc hp hs, ← ne_eq, Option.ne_none_iff_exists'] at hfound
    obtain ⟨m, hm⟩ := hfound
    obtain ⟨q, hq, hlen, hcheck, hlast, hfirst⟩ := exists_first_check hc hp hs he hm
    rw [scan_eq_of_found hc hp hs hm]
    exact ⟨q, hq, hlen, ⟨m.value, hcheck⟩, hfirst, m, hlast, rfl, rfl, rfl⟩
  · rw [scan_eq_text_iff hc hp hs]
    constructor
    · rintro ⟨m, hm⟩
      obtain ⟨hahead, hstart⟩ := (exec_anchored_eq_some_iff hs he).mp hm
      rw [scan_eq_of_found hc hp hs hahead]
      exact ⟨m, rfl, hstart⟩
    · rintro ⟨m, hlast, hstart⟩
      cases hahead : e.exec r .ahead s.text s.pos with
      | none =>
        rw [scan_eq_of_missed hc hp hs hahead] at hlast
        simp [cleared] at hlast
      | some m' =>
        rw [scan_eq_of_found hc hp hs hahead] at hlast
        obtain rfl : m' = m := by simpa [landed] using hlast
        exact ⟨m', (exec_anchored_eq_some_iff hs he).mpr ⟨hahead, hstart⟩⟩
  · obtain ⟨m, hm⟩ := (scan_eq_text_iff hc hp hs).mp hscan
    obtain ⟨hahead, -⟩ := (exec_anchored_eq_some_iff hs he).mp hm
    rw [scan_eq_of_found hc hp hs hm, scan_eq_of_found hc hp hs hahead]

/-- Two checks that fail and one that succeeds, of a pattern that looks back over the cursor. -/
theorem scanUntil_eq_first_check_behind :
    let e : RegexEngine := {}
    let s : Scanner := { text := "aaab".toList, pos := 1 }
    let p : Pattern := .source "(?<=aa)b".toList
    Reachable e.engine s ∧ Cache.Reachable {} ∧ (∃ r, p.regex e.mask = .ok r) ∧
      ((s.step e.engine (.attempt .ahead .scan p) {}).1.result = .ok .none ↔
        ∀ q, s.pos ≤ q → q ≤ s.length → (checkAt e p s {} q).1.result = .ok .none) ∧
      ∃ q, s.pos ≤ q ∧ q ≤ s.length ∧
        (∀ q', s.pos ≤ q' → q' < q → (checkAt e p s {} q').1.result = .ok .none) ∧
        (checkAt e p s {} q).2.1.last = some ⟨3, 4, "b".toList, [], []⟩ ∧
        (s.step e.engine (.attempt .ahead .scan p) {}).2.1 =
          ⟨"aaab".toList, 4, some ⟨3, 4, "b".toList, [], []⟩⟩ := by
  intro e s p
  have hs : Reachable e.engine s := ⟨"aaab".toList, {}, [.read 1], by decide +kernel⟩
  obtain ⟨r, hp⟩ : ∃ r, p.regex e.mask = .ok r := ⟨_, rfl⟩
  obtain ⟨hnone, hfound, -, -⟩ := scanUntil_eq_first_check e rfl hs .empty hp
  have hstate : (s.step e.engine (.attempt .ahead .scan p) {}).2.1 =
      ⟨"aaab".toList, 4, some ⟨3, 4, "b".toList, [], []⟩⟩ := by decide +kernel
  have hanswer : (s.step e.engine (.attempt .ahead .scan p) {}).1.result ≠ .ok .none := by
    have htext : (s.step e.engine (.attempt .ahead .scan p) {}).1.result =
        .ok (.text "aab".toList) := rfl
    rw [htext]
    simp
  obtain ⟨q, hq, hlen, -, hfirst, m, hcheck, hlast, -⟩ := hfound hanswer
  refine ⟨hs, .empty, ⟨r, hp⟩, hnone, q, hq, hlen, hfirst, ?_, hstate⟩
  rw [hcheck, ← hlast, hstate]

end TextScan.Scanner
