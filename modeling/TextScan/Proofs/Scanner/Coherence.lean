import TextScan.Proofs.Cache
import TextScan.Proofs.Engine.Regex
import TextScan.Proofs.Scanner.Step

/-!
# Text, cursor and register fit together

A scanner is `Coherent` if its cursor lies in its text and its register holds nothing or a match
that lies within the text as it is now. With the regular-expression engine every step keeps this
(`Scanner.Coherent.step`): the matches of that engine lie within the text and in reach of the cursor,
so none is rejected (`Scanner.attempt_regex`), and what is appended to the text does not touch the
span of an earlier match. So every state of every run is coherent
(`Scanner.run_regex_coherent`).
-/

namespace TextScan.Scanner

/-- The cursor lies in the text, and the register fits the text. -/
structure Coherent (s : Scanner) : Prop where
  /-- The cursor is not before the text. -/
  pos_nonneg : 0 ≤ s.pos
  /-- The cursor is not behind the text. -/
  pos_le : s.pos ≤ s.length
  /-- A registered match lies within the text. -/
  register : ∀ m, s.last = some m → m.Within s.text

namespace Coherent

variable {s : Scanner}

/-- A new scanner is coherent. -/
theorem new (t : Text) : Coherent { text := t } where
  pos_nonneg := Int.le_refl 0
  pos_le := Int.natCast_nonneg _
  register m h := by simp at h

/-- Clearing the register keeps a scanner coherent. -/
theorem cleared (h : s.Coherent) : s.cleared.Coherent where
  pos_nonneg := h.pos_nonneg
  pos_le := h.pos_le
  register m hm := by simp [Scanner.cleared] at hm

/-- Moving the cursor to an offset of the text keeps a scanner coherent. -/
theorem movedTo {p : Int} (h0 : 0 ≤ p) (hp : p ≤ s.length) : (s.movedTo p).Coherent where
  pos_nonneg := h0
  pos_le := hp
  register m hm := by simp [Scanner.movedTo] at hm

/-- Registering a match that lies within the text keeps a scanner coherent. -/
theorem landed (h : s.Coherent) {m : Match} (hm : m.Within s.text) (use : Use) :
    (s.landed use m).Coherent where
  pos_nonneg := by
    have hstart := hm.start_nonneg
    have hstop := hm.start_le_stop
    unfold Scanner.landed
    dsimp only
    split
    · exact h.pos_nonneg
    · omega
  pos_le := by
    unfold Scanner.landed
    dsimp only
    split
    · exact h.pos_le
    · exact hm.stop_le
  register m' hm' := by
    obtain rfl : m = m' := by simpa [Scanner.landed] using hm'
    exact hm

/-- Reading keeps a scanner coherent, whether it succeeds or not. -/
theorem read (h : s.Coherent) (n : Int) : (s.read n).2.Coherent := by
  have hpos := h.pos_nonneg
  rcases read_cases s n with ⟨-, hread⟩ | ⟨-, -, hread⟩ | ⟨hn, hstop, hread⟩
  · rw [hread]
    exact h.cleared
  · rw [hread]
    exact h.cleared
  · rw [hread]
    exact movedTo (by omega) hstop

/-- Moving the cursor on request keeps a scanner coherent, whether it succeeds or not. -/
theorem setPosition (h : s.Coherent) (p : Int) : (s.setPosition p).2.Coherent := by
  unfold Scanner.setPosition
  dsimp only
  generalize (if p < 0 then p + s.length else p) = target
  split
  · exact h
  · rename_i hrange
    simp only [Bool.or_eq_true, decide_eq_true_eq, not_or, Int.not_lt] at hrange
    exact movedTo hrange.1 hrange.2

/-- Appending a piece keeps a scanner coherent: the match in the register ends before the piece. -/
theorem concat (h : s.Coherent) (more : Text) : (s.concat more).Coherent where
  pos_nonneg := h.pos_nonneg
  pos_le := by
    have hpos := h.pos_le
    unfold Scanner.length at hpos
    show s.pos ≤ ((s.text ++ more).length : Int)
    rw [List.length_append]
    omega
  register m hm := (h.register m hm).append more

/-- Appending pieces keeps a scanner coherent. -/
theorem append (h : s.Coherent) (pieces : List Text) : (pieces.foldl Scanner.concat s).Coherent := by
  induction pieces generalizing s with
  | nil => exact h
  | cons more pieces ih => exact ih (h.concat more)

end Coherent

/-! ## Match attempts -/

/-- A match attempt of a coherent scanner with the regular-expression engine: a pattern that does
not compile is a fault, and every match that the engine finds is accepted. -/
theorem attempt_regex (e : RegexEngine) (reach : Reach) (use : Use) (p : Pattern) {s : Scanner}
    (hs : s.Coherent) (c : Cache) :
    s.attempt e.engine reach use p c =
      let compiled := (p.compile e.mask c).1
      let c' := (p.compile e.mask c).2
      match compiled.result with
      | .error f => ({ result := .error f, log := compiled.log }, s.cleared, c')
      | .ok r =>
        match e.exec r reach s.text s.pos with
        | none => ({ result := .ok .none, log := compiled.log }, s.cleared, c')
        | some m =>
          ({ result := .ok (answer reach use s.text s.pos m), log := compiled.log },
            s.landed use m, c') := by
  rw [attempt_eq]
  dsimp only [RegexEngine.engine, RegexEngine.attempt]
  generalize p.compile e.mask c = out
  obtain ⟨⟨result, log⟩, c'⟩ := out
  cases result with
  | error f => rfl
  | ok r =>
    dsimp only [Except.map]
    cases hm : e.exec r reach s.text s.pos with
    | none => rfl
    | some m =>
      -- The match is in reach, so the branch that rejects it is never taken.
      have hreach := (RegexEngine.exec_within hs.pos_nonneg hs.pos_le hm).2
      simp only [hreach, if_true]

/-- A match attempt with a pattern that compiles answers with the match that the engine finds, or
with nothing if it finds none. -/
theorem attempt_of_compiles (e : RegexEngine) (reach : Reach) (use : Use) {p : Pattern} {r : Regex}
    (hp : p.regex e.mask = .ok r) {s : Scanner} (hs : s.Coherent) {c : Cache} (hc : c.Faithful) :
    s.attempt e.engine reach use p c =
      match e.exec r reach s.text s.pos with
      | none => ({ result := .ok .none }, s.cleared, (p.compile e.mask c).2)
      | some m =>
        ({ result := .ok (answer reach use s.text s.pos m) }, s.landed use m,
          (p.compile e.mask c).2) := by
  rw [attempt_regex e reach use p hs c, Pattern.compile_of_ok hc hp]

/-- The outcomes of a match attempt of a coherent scanner with the regular-expression engine. -/
theorem attempt_regex_cases (e : RegexEngine) (reach : Reach) (use : Use) (p : Pattern)
    {s : Scanner} (hs : s.Coherent) (c : Cache) :
    let out := s.attempt e.engine reach use p c
    ((∃ f, out.1.result = .error f) ∧ out.2.1 = s.cleared) ∨
      (out.1.result = .ok .none ∧ out.2.1 = s.cleared) ∨
      ∃ m, m.Within s.text ∧ reach.allows s.pos m.start ∧
        out.1.result = .ok (answer reach use s.text s.pos m) ∧ out.2.1 = s.landed use m := by
  dsimp only
  rw [attempt_regex e reach use p hs c]
  dsimp only
  cases (p.compile e.mask c).1.result with
  | error f => exact Or.inl ⟨⟨f, rfl⟩, rfl⟩
  | ok r =>
    dsimp only
    cases hm : e.exec r reach s.text s.pos with
    | none => exact Or.inr (Or.inl ⟨rfl, rfl⟩)
    | some m =>
      obtain ⟨hwithin, hreach⟩ := RegexEngine.exec_within hs.pos_nonneg hs.pos_le hm
      exact Or.inr (Or.inr ⟨m, hwithin, hreach, rfl, rfl⟩)

/-- In both reaches, a scan and a check answer with the text from the cursor to the end of the match,
and a skip answers how far that is. -/
theorem answer_eq {s : Scanner} {m : Match} (hm : m.Within s.text) {reach : Reach}
    (hreach : reach.allows s.pos m.start = true) (use : Use) :
    answer reach use s.text s.pos m =
      match use with
      | .scan | .check => .text (s.text.slice s.pos m.stop)
      | .skip => .number (m.stop - s.pos) := by
  cases reach with
  | ahead => cases use <;> rfl
  | anchored =>
    -- The match starts at the cursor, so its own text and length are those up to its end.
    have hstart : m.start = s.pos := Reach.allows_anchored.mp hreach
    cases use <;> simp [answer, Match.length, hm.value_eq, hstart]

/-! ## Runs -/

/-- With the regular-expression engine, a faithful cache stays faithful through every operation. -/
theorem step_faithful (e : RegexEngine) (op : Op) (s : Scanner) {c : Cache} (hc : c.Faithful) :
    (s.step e.engine op c).2.2.Faithful :=
  step_state e.engine (fun _ p _ _ _ hc => hc.pattern p e.mask) op s hc

/-- With the regular-expression engine, every operation keeps a scanner coherent. -/
theorem Coherent.step (e : RegexEngine) (op : Op) (s : Scanner) (c : Cache) (h : s.Coherent) :
    (s.step e.engine op c).2.1.Coherent := by
  cases hasks : op.asks with
  | true =>
    rw [step_of_asks e.engine hasks]
    exact h
  | false =>
    cases op with
    | attempt reach use p =>
      -- This is the only operation that depends on what the engine answers.
      show (s.attempt e.engine reach use p c).2.1.Coherent
      rcases attempt_regex_cases e reach use p h c with ⟨-, hout⟩ | ⟨-, hout⟩ | ⟨m, hm, -, -, hout⟩
      · rw [hout]
        exact h.cleared
      · rw [hout]
        exact h.cleared
      · rw [hout]
        exact h.landed hm use
    | read n => exact h.read n
    | setPosition p => exact h.setPosition p
    | setText t => exact Coherent.new t
    | reset => exact Coherent.movedTo (Int.le_refl 0) (Int.natCast_nonneg _)
    | terminate => exact Coherent.movedTo (Int.natCast_nonneg _) (Int.le_refl _)
    | append pieces => exact h.append pieces
    | _ => simp [Op.asks] at hasks

/-- A scanner that the regular-expression engine can lead to is coherent. -/
theorem Reachable.coherent {e : RegexEngine} {s : Scanner} (h : Reachable e.engine s) :
    s.Coherent :=
  h.invariant e.engine Coherent.new (Coherent.step e)

/-- The text around a registered match and the match itself make up the text, and the size of the
match is that of its text. -/
theorem Coherent.text_eq {s : Scanner} (h : s.Coherent) {m : Match} (hm : s.last = some m) :
    ∃ before matched after, s.preMatch = some before ∧ s.matched = some matched ∧
      s.postMatch = some after ∧ before ++ matched ++ after = s.text ∧
      s.matchedSize = some (matched.length : Int) := by
  have hw := h.register m hm
  refine ⟨s.text.sliceTo m.start, m.value, s.text.sliceFrom m.stop, ?_, ?_, ?_, ?_, ?_⟩
  · rw [preMatch, hm, Option.map_some]
  · rw [matched, hm, Option.map_some]
  · rw [postMatch, hm, Option.map_some]
  · rw [hw.value_eq]
    exact Text.sliceTo_append_slice_append_sliceFrom hw.start_nonneg hw.start_le_stop hw.stop_le
  · rw [matchedSize, hm, Option.map_some, hw.value_eq,
      Text.length_slice hw.start_nonneg hw.start_le_stop hw.stop_le]
    rfl

/-- Every state of a run with the regular-expression engine, from a new scanner on: the cursor lies
in the text, a registered match lies in the text as it is then and has the value that the text has
there, and the text is what comes before the match, the match and what comes after it. -/
theorem run_regex_coherent (e : RegexEngine) (t : Text) (c : Cache) (ops : List Op) (s : Scanner)
    (hs : s ∈ { text := t } :: (run e.engine ops { text := t } c).1.map (·.after)) :
    0 ≤ s.pos ∧ s.pos ≤ s.text.length ∧
      ∀ m, s.last = some m →
        0 ≤ m.start ∧ m.start ≤ m.stop ∧ m.stop ≤ s.text.length ∧
          m.value = s.text.slice m.start m.stop ∧
          ∃ before matched after, s.preMatch = some before ∧ s.matched = some matched ∧
            s.postMatch = some after ∧ before ++ matched ++ after = s.text ∧
            s.matchedSize = some (matched.length : Int) := by
  have hcoherent : s.Coherent := by
    rcases List.mem_cons.mp hs with rfl | htrace
    · exact Coherent.new t
    · obtain ⟨trace, hmem, rfl⟩ := List.mem_map.mp htrace
      exact (run_invariant e.engine (Coherent.step e) ops c (Coherent.new t)).1 trace hmem
  refine ⟨hcoherent.pos_nonneg, hcoherent.pos_le, fun m hm => ?_⟩
  have hw := hcoherent.register m hm
  exact ⟨hw.start_nonneg, hw.start_le_stop, hw.stop_le, hw.value_eq, hcoherent.text_eq hm⟩

/-- A search that cuts off what lies before the cursor, and then a piece appended behind the match:
the register still fits the text. -/
theorem run_regex_coherent_appended :
    let s : Scanner := ⟨"abbc".toList, 3, some ⟨1, 3, "bb".toList, [], []⟩⟩
    s ∈ { text := "abb".toList } ::
        (run (RegexEngine.engine { fixedAnchor := false })
          [.attempt .ahead .scan (.source "b+".toList), .append ["c".toList]]
          { text := "abb".toList } {}).1.map (·.after) ∧
      0 ≤ s.pos ∧ s.pos ≤ s.text.length ∧
      ∃ before matched after, s.preMatch = some before ∧ s.matched = some matched ∧
        s.postMatch = some after ∧ before ++ matched ++ after = s.text ∧
        s.matchedSize = some (matched.length : Int) := by
  intro s
  have hs : s ∈ { text := "abb".toList } ::
      (run (RegexEngine.engine { fixedAnchor := false })
        [.attempt .ahead .scan (.source "b+".toList), .append ["c".toList]]
        { text := "abb".toList } {}).1.map (·.after) := by decide +kernel
  obtain ⟨h0, hlen, hmatch⟩ := run_regex_coherent _ _ _ _ s hs
  exact ⟨hs, h0, hlen, (hmatch _ rfl).2.2.2.2⟩

end TextScan.Scanner
