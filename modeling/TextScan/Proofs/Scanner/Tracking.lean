import TextScan.Proofs.Location
import TextScan.Proofs.Scanner.Tiling

/-!
# The location follows from what was taken

The location of the cursor is worked out from the whole text before it. As long as nothing puts the
cursor elsewhere, it can also be kept up to date from the pieces that are taken: each moves it by
`Location.advance`, whatever else the text holds and whatever is appended to it
(`Scanner.run_location_eq_foldl`). For operations that answer with what they take, these pieces are
the answers (`Scanner.location_eq_foldl_returned`).
-/

namespace TextScan

universe u

/-- Whether an operation takes text and answers with it: a scan, at the cursor or ahead of it, or a
read. -/
def Op.takes : Op → Bool
  | .attempt _ .scan _ | .read _ => true
  | _ => false

/-- Whether an operation appends to the text. -/
def Op.appends : Op → Bool
  | .append _ => true
  | _ => false

/-- The text that an operation has answered with. -/
def Outcome.text? (o : Outcome) : Option Text :=
  match o.result with
  | .ok (.text v) => some v
  | _ => none

namespace Scanner

/-! ## Pieces -/

/-- Passing a piece moves the location by the piece. -/
theorem Advances.location_eq {s s' : Scanner} {piece : Text} (hs : s.Coherent) (hs' : s'.Coherent)
    (h : Advances s piece s') : s'.location = s.location.advance piece := by
  obtain ⟨more, hmore⟩ := h.isPrefix
  have h0 := hs.pos_nonneg
  have hle := h.pos_le
  have hlen : s'.pos ≤ s'.text.length := hs'.pos_le
  have hstart : s.location = .ofOffset s'.text s.pos := by
    unfold location
    rw [← hmore, Location.ofOffset_append_right h0 hs.pos_le more]
  -- The text as it is now, cut at the two cursors.
  have htext := Text.sliceTo_append_slice_append_sliceFrom h0 hle hlen
  have hbefore : ((s'.text.sliceTo s.pos).length : Int) = s.pos := by
    rw [Text.sliceTo_eq h0 (by omega), List.length_take]
    omega
  have hpiece : (piece.length : Int) = s'.pos - s.pos := by
    rw [h.piece_eq]
    exact Text.length_slice h0 hle hlen
  have hadd := Location.ofOffset_add (s'.text.sliceTo s.pos) piece (s'.text.sliceFrom s'.pos)
  rw [← List.append_assoc, hbefore, hpiece, h.piece_eq, htext] at hadd
  rw [hstart, h.piece_eq, ← hadd]
  unfold location
  congr 1
  omega

/-- Along a run that does not reposition the cursor, the location moves by the pieces that are
taken, one after the other. -/
theorem run_location_eq_foldl (e : RegexEngine) {ops : List Op}
    (hops : ∀ op ∈ ops, op.repositions = false) {s : Scanner} (hs : s.Coherent) (c : Cache) :
    (run e.engine ops s c).2.1.location =
      (s.pieces ops (run e.engine ops s c).1).foldl Location.advance s.location := by
  induction ops generalizing s c with
  | nil => rfl
  | cons op ops ih =>
    have hnext := Coherent.step e op s c hs
    have hstep := (step_advances e (hops op List.mem_cons_self) hs c).location_eq hs hnext
    have hrest := ih (fun op' h => hops op' (List.mem_cons_of_mem _ h)) hnext
      (s.step e.engine op c).2.2
    rw [run_cons]
    show _ = List.foldl Location.advance
      (s.location.advance (s.consumed op (s.step e.engine op c).1)) _
    rw [← hstep]
    exact hrest

/-! ## Answers -/

/-- An operation that answers with what it takes has taken what it has answered with. -/
theorem consumed_of_takes {op : Op} (h : op.takes = true) (s : Scanner) (o : Outcome) :
    s.consumed op o = o.text?.getD [] := by
  obtain ⟨result, log⟩ := o
  cases op with
  | attempt reach use p =>
    cases use with
    | scan =>
      rcases result with f | a
      · rfl
      · cases a <;> rfl
    | check | skip => simp [Op.takes] at h
  | read n =>
    rcases result with f | a
    · rfl
    · cases a <;> rfl
  | _ => simp [Op.takes] at h

/-- Appending takes nothing and answers with no text. -/
theorem consumed_of_appends {σ : Type u} (E : Engine σ) {op : Op} (h : op.appends = true)
    (s : Scanner) (e : σ) :
    s.consumed op (s.step E op e).1 = (s.step E op e).1.text?.getD [] := by
  cases op with
  | append pieces => rfl
  | _ => simp [Op.appends] at h

/-- What takes or appends does not reposition the cursor. -/
theorem repositions_of_takes_or_appends {op : Op} (h : op.takes = true ∨ op.appends = true) :
    op.repositions = false := by
  cases op with
  | setPosition p | setText t | reset | terminate => simp [Op.takes, Op.appends] at h
  | _ => rfl

/-- Along a run of operations that take or append, moving a location by all pieces is moving it by
the texts that were answered. -/
theorem foldl_pieces {σ : Type u} (E : Engine σ) {ops : List Op}
    (hops : ∀ op ∈ ops, op.takes = true ∨ op.appends = true) (s : Scanner) (e : σ) (l : Location) :
    (s.pieces ops (run E ops s e).1).foldl Location.advance l =
      ((run E ops s e).1.filterMap (·.outcome.text?)).foldl Location.advance l := by
  induction ops generalizing s e l with
  | nil => rfl
  | cons op ops ih =>
    have hpiece : s.consumed op (s.step E op e).1 = (s.step E op e).1.text?.getD [] := by
      rcases hops op List.mem_cons_self with htakes | happends
      · exact consumed_of_takes htakes s _
      · exact consumed_of_appends E happends s e
    have hrest := ih (fun op' h => hops op' (List.mem_cons_of_mem _ h)) (s.step E op e).2.1
      (s.step E op e).2.2
    rw [run_cons, List.filterMap_cons]
    show List.foldl Location.advance (l.advance (s.consumed op (s.step E op e).1)) _ = _
    rw [hpiece, hrest]
    dsimp only
    -- Where there is no answer nothing was taken, and the location stays.
    cases (s.step E op e).1.text? with
    | none => rw [Option.getD_none, Location.advance_nil]
    | some v => rfl

/-- In every state that a regular-expression engine can lead to, the location after an operation that
takes text is told from the location before and the text that it answers with. So along any such
operations, with others in between that append to the text, the location at the end is that at the
start, moved by the answers one after the other. -/
theorem location_eq_foldl_returned (e : RegexEngine) {s : Scanner} (hs : Reachable e.engine s)
    (c : Cache) :
    (∀ (op : Op) (v : Text), op.takes = true → (s.step e.engine op c).1.result = .ok (.text v) →
        (s.step e.engine op c).2.1.location = s.location.advance v) ∧
      ∀ ops : List Op, (∀ op ∈ ops, op.takes = true ∨ op.appends = true) →
        (run e.engine ops s c).2.1.location =
          ((run e.engine ops s c).1.filterMap (·.outcome.text?)).foldl Location.advance
            s.location := by
  have hcoherent := hs.coherent
  refine ⟨fun op v htakes hv => ?_, fun ops hops => ?_⟩
  · have hops := repositions_of_takes_or_appends (Or.inl htakes)
    have hadvances := step_advances e hops hcoherent c
    have hpiece : s.consumed op (s.step e.engine op c).1 = v := by
      rw [consumed_of_takes htakes]
      unfold Outcome.text?
      rw [hv]
      rfl
    rw [hpiece] at hadvances
    exact hadvances.location_eq hcoherent (Coherent.step e op s c hcoherent)
  · rw [run_location_eq_foldl e (fun op h => repositions_of_takes_or_appends (hops op h)) hcoherent c,
      foldl_pieces e.engine hops]

/-- A search over two line ends, a scan that fails, an append, a read of a line end and a scan behind
it, from a cursor in the middle of a line. -/
theorem location_eq_foldl_returned_lines :
    let e : RegexEngine := {}
    let s : Scanner := { text := "ab\n\ncd".toList, pos := 1 }
    let ops : List Op :=
      [.attempt .ahead .scan (.source "c".toList), .attempt .anchored .scan (.source "x".toList),
        .append ["\nef".toList], .read 2, .attempt .anchored .scan (.source "\\w".toList)]
    Reachable e.engine s ∧ s.location = ⟨1, 2, 1⟩ ∧
      (∀ op ∈ ops, op.takes = true ∨ op.appends = true) ∧
      (run e.engine ops s {}).1.filterMap (·.outcome.text?) =
        ["b\n\nc".toList, "d\n".toList, "e".toList] ∧
      (run e.engine ops s {}).2.1.location = ⟨4, 2, 8⟩ ∧
      (run e.engine ops s {}).2.1.location =
        ["b\n\nc".toList, "d\n".toList, "e".toList].foldl Location.advance s.location := by
  intro e s ops
  have hs : Reachable e.engine s := ⟨"ab\n\ncd".toList, {}, [.read 1], by decide +kernel⟩
  have hops : ∀ op ∈ ops, op.takes = true ∨ op.appends = true := by simp [ops, Op.takes, Op.appends]
  have htexts : (run e.engine ops s {}).1.filterMap (·.outcome.text?) =
      ["b\n\nc".toList, "d\n".toList, "e".toList] := by decide +kernel
  have hlocation := (location_eq_foldl_returned e hs {}).2 ops hops
  rw [htexts] at hlocation
  exact ⟨hs, by decide, hops, htexts, by decide +kernel, hlocation⟩

end Scanner

end TextScan
