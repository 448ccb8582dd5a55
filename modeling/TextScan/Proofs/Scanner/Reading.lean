import Mathlib.Algebra.Ring.Nat
import TextScan.Proofs.Scanner.Cursor

/-!
# Reading in pieces

A text can be read in pieces of any lengths, and also of length zero. The pieces that are read one
after the other are together what one read, or a look ahead, of the sum of their lengths gives
(`Scanner.run_reads_of_le`), so it depends on the sum alone whether all of them can be read. If it
is too large, the first read that goes beyond the end of the text gives nothing, and the cursor
stays behind the pieces read so far (`Scanner.run_reads_of_lt`). Both checks of a length, the one of
a look ahead and the one of a read, draw the line at the same place (`Scanner.reads_eq_peek`).
-/

namespace TextScan

universe u

/-- Reads of the given lengths, one after the other. -/
def Op.reads (lengths : List Nat) : List Op := lengths.map fun n : Nat => .read n

namespace Scanner

/-- The register is empty after a read, whatever came of it. -/
theorem last_read (s : Scanner) (n : Int) : (s.read n).2.last = none := by
  rcases read_cases s n with ⟨-, hread⟩ | ⟨-, -, hread⟩ | ⟨-, -, hread⟩
  · rw [hread]
    rfl
  · rw [hread]
    rfl
  · rw [hread]
    rfl

/-! ## Reads one after the other -/

variable {σ : Type u} (E : Engine σ)

/-- The first of several reads leaves the others to the scanner behind its piece. -/
theorem run_reads_cons (n : Nat) (lengths : List Nat) (s : Scanner) (e : σ) :
    run E (Op.reads (n :: lengths)) s e =
      let rest := run E (Op.reads lengths) (s.read n).2 e
      (⟨.of ((s.read n).1.map .optText), (s.read n).2⟩ :: rest.1, rest.2) := rfl

/-- The register is empty after each of several reads. -/
theorem last_of_mem_run_reads (lengths : List Nat) (s : Scanner) (e : σ) :
    ∀ trace ∈ (run E (Op.reads lengths) s e).1, trace.after.last = none := by
  induction lengths generalizing s with
  | nil =>
    intro trace htrace
    exact absurd htrace List.not_mem_nil
  | cons n lengths ih =>
    rw [run_reads_cons]
    exact List.forall_mem_cons.mpr ⟨last_read s n, ih (s.read n).2⟩

/-- If there are as many characters as the lengths have together, all reads succeed, and what they
give is, joined, what one read of all the characters gives. -/
theorem run_reads_of_le (lengths : List Nat) {s : Scanner} (h0 : 0 ≤ s.pos)
    (hsum : s.pos + lengths.sum ≤ s.length) (e : σ) :
    ∃ pieces : List Text,
      (run E (Op.reads lengths) s e).1.map (·.outcome.result) =
        pieces.map (fun v => .ok (.text v)) ∧
      pieces.flatten = s.text.slice s.pos (s.pos + lengths.sum) ∧
      (run E (Op.reads lengths) s e).2.1.text = s.text ∧
      (run E (Op.reads lengths) s e).2.1.pos = s.pos + lengths.sum := by
  induction lengths generalizing s with
  | nil =>
    have hstay : s.pos + ((([] : List Nat).sum : Nat) : Int) = s.pos := Int.add_zero _
    rw [hstay]
    exact ⟨[], rfl, (Text.slice_self s.text s.pos).symm, rfl, rfl⟩
  | cons n lengths ih =>
    rw [List.sum_cons, Int.natCast_add] at hsum ⊢
    have hfirst : s.pos + n ≤ s.length := by omega
    have hstep := read_of_le hfirst
    -- The other reads start behind the first piece.
    have hrest : (s.movedTo (s.pos + n)).pos + lengths.sum ≤ (s.movedTo (s.pos + n)).length := by
      show s.pos + n + lengths.sum ≤ s.length
      omega
    have hstart : 0 ≤ (s.movedTo (s.pos + n)).pos := by
      show 0 ≤ s.pos + n
      omega
    obtain ⟨pieces, hresults, hflatten, htext, hpos⟩ := ih hstart hrest
    rw [run_reads_cons, hstep]
    refine ⟨s.text.slice s.pos (s.pos + n) :: pieces, ?_, ?_, htext, ?_⟩
    · exact congrArg _ hresults
    · have hend : s.pos + n + lengths.sum ≤ s.text.length := hrest
      calc (s.text.slice s.pos (s.pos + n) :: pieces).flatten
          = s.text.slice s.pos (s.pos + n) ++
              s.text.slice (s.pos + n) (s.pos + n + lengths.sum) := by
            rw [List.flatten_cons, hflatten]
            rfl
        _ = s.text.slice s.pos (s.pos + n + lengths.sum) :=
            Text.slice_append_slice h0 (by omega) (by omega) hend
        _ = s.text.slice s.pos (s.pos + (n + lengths.sum)) := by rw [Int.add_assoc]
    · rw [← Int.add_assoc]
      exact hpos

/-- Where lengths have a sum that is too large, there is a first one with which they go beyond. -/
theorem exists_first_beyond {lengths : List Nat} {size : Int} (h0 : 0 ≤ size)
    (h : size < lengths.sum) :
    ∃ (before : List Nat) (n : Nat) (after : List Nat), lengths = before ++ n :: after ∧
      (before.sum : Int) ≤ size ∧ size < before.sum + n := by
  induction lengths generalizing size with
  | nil =>
    rw [List.sum_nil] at h
    omega
  | cons n lengths ih =>
    rw [List.sum_cons, Int.natCast_add] at h
    by_cases hn : size < n
    · refine ⟨[], n, lengths, rfl, ?_, ?_⟩
      · exact h0
      · rw [List.sum_nil]
        omega
    · have hleft : 0 ≤ size - n := by omega
      have hless : size - n < lengths.sum := by omega
      obtain ⟨before, m, after, rfl, hle, hlt⟩ := ih hleft hless
      refine ⟨n :: before, m, after, rfl, ?_, ?_⟩
      · rw [List.sum_cons, Int.natCast_add]
        omega
      · rw [List.sum_cons, Int.natCast_add]
        omega

/-- Of several reads, the first that goes beyond the end of the text gives nothing, and leaves the
cursor behind the pieces that were read before it. -/
theorem run_reads_of_lt (before : List Nat) (n : Nat) (after : List Nat) {s : Scanner}
    (h0 : 0 ≤ s.pos) (hle : s.pos + before.sum ≤ s.length)
    (hlt : s.length < s.pos + before.sum + n) (e : σ) :
    ∃ pieces : List Text, ∃ trace : Trace,
      ((run E (Op.reads (before ++ n :: after)) s e).1.take before.length).map (·.outcome.result) =
        pieces.map (fun v => .ok (.text v)) ∧
      (run E (Op.reads (before ++ n :: after)) s e).1[before.length]? = some trace ∧
      trace.outcome.result = .ok .none ∧ trace.after.pos = s.pos + pieces.flatten.length ∧
      pieces.flatten.length = before.sum := by
  obtain ⟨pieces, hresults, hflatten, htext, hpos⟩ := run_reads_of_le E before h0 hle e
  have hlength : (run E (Op.reads before) s e).1.length = before.length :=
    (length_run E _ s e).trans (List.length_map _)
  have hsize : (pieces.flatten.length : Int) = before.sum := by
    rw [hflatten, Text.length_slice h0 (by omega) hle]
    omega
  have hops : Op.reads (before ++ n :: after) = Op.reads before ++ Op.reads (n :: after) :=
    List.map_append
  rw [hops, run_append]
  dsimp only
  generalize run E (Op.reads before) s e = first at hresults htext hpos hlength ⊢
  obtain ⟨traces, s', e'⟩ := first
  -- The read that is too long starts behind the pieces.
  have hshort : s'.read n = (.ok none, s'.cleared) := by
    apply read_of_lt
    unfold length at hlt ⊢
    dsimp only at htext hpos
    rw [htext]
    omega
  refine ⟨pieces, ⟨.answer .none, s'.cleared⟩, ?_, ?_, rfl, ?_, by omega⟩
  · rw [← hlength, List.take_left]
    exact hresults
  · rw [← hlength, List.getElem?_append_right (Nat.le_refl _), Nat.sub_self, run_reads_cons, hshort]
    rfl
  · rw [hsize]
    exact hpos

/-- In every state that the regular-expression engine can lead to, and for all lengths: reads of
these lengths, one after the other, all succeed exactly if the text has as many characters left as
the lengths have together. Then what they give is, joined, what a look ahead or a single read of so
many characters gives at the start, and the cursor has moved by so many. The register is empty after
each read. If the lengths have more together, the first read that goes beyond gives nothing, and the
cursor stays behind the pieces that were read before it. -/
theorem reads_eq_peek (e : RegexEngine) {s : Scanner} (hs : Reachable e.engine s) (c : Cache)
    (lengths : List Nat) :
    let traces := (run e.engine (Op.reads lengths) s c).1
    let final := (run e.engine (Op.reads lengths) s c).2.1
    ((∀ trace ∈ traces, ∃ v, trace.outcome.result = .ok (.text v)) ↔
        (lengths.sum : Int) ≤ s.restSize) ∧
      ((lengths.sum : Int) ≤ s.restSize →
        ∃ pieces : List Text,
          traces.map (·.outcome.result) = pieces.map (fun v => .ok (.text v)) ∧
          s.peek lengths.sum = .ok pieces.flatten ∧
          s.read lengths.sum = (.ok (some pieces.flatten), s.movedTo (s.pos + lengths.sum)) ∧
          final.pos = s.pos + lengths.sum) ∧
      (∀ trace ∈ traces, trace.after.last = none) ∧
      (s.restSize < lengths.sum →
        ∃ (before : List Nat) (n : Nat) (after : List Nat), lengths = before ++ n :: after ∧
          (before.sum : Int) ≤ s.restSize ∧ s.restSize < before.sum + n ∧
          ∃ (pieces : List Text) (trace : Trace),
            (traces.take before.length).map (·.outcome.result) =
              pieces.map (fun v => .ok (.text v)) ∧
            traces[before.length]? = some trace ∧ trace.outcome.result = .ok .none ∧
            trace.after.pos = s.pos + pieces.flatten.length ∧
            pieces.flatten.length = before.sum) := by
  have h0 := hs.coherent.pos_nonneg
  have hle := hs.coherent.pos_le
  have hrest : s.restSize = s.length - s.pos := rfl
  have hshort : s.restSize < lengths.sum →
      ∃ (before : List Nat) (n : Nat) (after : List Nat), lengths = before ++ n :: after ∧
        (before.sum : Int) ≤ s.restSize ∧ s.restSize < before.sum + n := by
    intro hlt
    exact exists_first_beyond (by omega) hlt
  refine ⟨⟨fun hall => ?_, fun hsum => ?_⟩, fun hsum => ?_, ?_, fun hlt => ?_⟩
  · -- A sum that is too large has a read that gives nothing.
    by_contra hlt
    obtain ⟨before, n, after, rfl, hbefore, hbeyond⟩ := hshort (by omega)
    obtain ⟨-, trace, -, htrace, hnone, -⟩ :=
      run_reads_of_lt e.engine before n after h0 (by omega) (by omega) c
    obtain ⟨v, hv⟩ := hall trace (List.mem_of_getElem? htrace)
    rw [hnone] at hv
    simp at hv
  · obtain ⟨pieces, hresults, -⟩ := run_reads_of_le e.engine lengths h0 (by omega) c
    intro trace htrace
    have hmem : trace.outcome.result ∈ pieces.map fun v => .ok (.text v) := by
      rw [← hresults]
      exact List.mem_map_of_mem htrace
    obtain ⟨v, -, hv⟩ := List.mem_map.mp hmem
    exact ⟨v, hv.symm⟩
  · have hfits : s.pos + lengths.sum ≤ s.length := by omega
    obtain ⟨pieces, hresults, hflatten, -, hpos⟩ := run_reads_of_le e.engine lengths h0 hfits c
    refine ⟨pieces, hresults, ?_, ?_, hpos⟩
    · rw [peek_of_le hfits, hflatten]
    · rw [read_of_le hfits, hflatten]
  · exact last_of_mem_run_reads e.engine lengths s c
  · obtain ⟨before, n, after, rfl, hbefore, hbeyond⟩ := hshort hlt
    exact ⟨before, n, after, rfl, hbefore, hbeyond,
      run_reads_of_lt e.engine before n after h0 (by omega) (by omega) c⟩

/-- Behind a match that is still in the register there are four characters: three reads, one of them
of nothing, take just these, and in other reads the third one goes beyond. -/
theorem reads_eq_peek_exact :
    let e : RegexEngine := { fixedAnchor := false }
    let s : Scanner := ⟨"ab\ncd".toList, 1, some ⟨0, 1, "a".toList, [], []⟩⟩
    Reachable e.engine s ∧ s.restSize = 4 ∧
      (∃ pieces : List Text, s.peek 4 = .ok pieces.flatten ∧
        (run e.engine (Op.reads [3, 0, 1]) s {}).1.map (·.outcome.result) =
          pieces.map (fun v => .ok (.text v)) ∧
        (run e.engine (Op.reads [3, 0, 1]) s {}).2.1.pos = 5) ∧
      (∀ trace ∈ (run e.engine (Op.reads [3, 0, 1]) s {}).1, trace.after.last = none) ∧
      ¬ ∀ trace ∈ (run e.engine (Op.reads [3, 0, 2, 1]) s {}).1,
        ∃ v, trace.outcome.result = .ok (.text v) := by
  intro e s
  have hs : Reachable e.engine s :=
    ⟨"ab\ncd".toList, {}, [.attempt .anchored .scan (.source "a".toList)], by decide +kernel⟩
  obtain ⟨-, hfits, hregister, -⟩ := reads_eq_peek e hs {} [3, 0, 1]
  obtain ⟨hall, -⟩ := reads_eq_peek e hs {} [3, 0, 2, 1]
  obtain ⟨pieces, hresults, hpeek, -, hpos⟩ := hfits (by decide)
  have hbeyond : ¬ (([3, 0, 2, 1].sum : Nat) : Int) ≤ s.restSize := by decide
  exact ⟨hs, by decide, ⟨pieces, hpeek, hresults, hpos⟩, hregister, fun h => hbeyond (hall.mp h)⟩

end Scanner

end TextScan
