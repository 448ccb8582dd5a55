import Mathlib.Algebra.Ring.Nat
import TextScan.Proofs.Scanner.Coherence

/-!
# What is consumed tiles the text

Operations that consume text answer with it, or with its length. As long as nothing puts the cursor
elsewhere, these pieces lie side by side in the text: one after the other they are what the text has
between the cursor at the start and the cursor at the end (`Scanner.run_regex_tiles`), whatever
failed or was appended in between.

`Scanner.Advances` is what one step does, with the piece that it has consumed; steps compose
(`Scanner.Advances.trans`), so a run does the same with all its pieces.
-/

namespace TextScan

/-- Whether an operation puts the cursor elsewhere without consuming what lies between. -/
def Op.repositions : Op → Bool
  | .setPosition _ | .setText _ | .reset | .terminate => true
  | _ => false

namespace Scanner

/-- The piece of text that an operation on a scanner has consumed, according to its outcome: the
text that it answers with, or as many characters from the cursor on as it answers. -/
def consumed (s : Scanner) (op : Op) (o : Outcome) : Text :=
  match op, o.result with
  | .attempt _ .scan _, .ok (.text v) => v
  | .attempt _ .skip _, .ok (.number n) => s.text.slice s.pos (s.pos + n)
  | .read _, .ok (.text v) => v
  | _, _ => []

/-- The pieces that the operations of a run from `s` have consumed, in order. -/
def pieces (s : Scanner) : List Op → List Trace → List Text
  | op :: ops, trace :: traces =>
    s.consumed op trace.outcome :: pieces trace.after ops traces
  | _, _ => []

/-- From `s` to `s'` the text has only grown at its end, the cursor has not gone back, and what it
has passed is `piece`. -/
structure Advances (s : Scanner) (piece : Text) (s' : Scanner) : Prop where
  /-- The text before is a prefix of the text after. -/
  isPrefix : s.text <+: s'.text
  /-- The cursor has not gone back. -/
  pos_le : s.pos ≤ s'.pos
  /-- The piece is what the text has between the two cursors. -/
  piece_eq : piece = s'.text.slice s.pos s'.pos

namespace Advances

/-- A scanner whose text and cursor stay has passed nothing. -/
theorem stay {s s' : Scanner} (htext : s'.text = s.text) (hpos : s'.pos = s.pos) :
    Advances s [] s' where
  isPrefix := htext ▸ List.prefix_refl _
  pos_le := Int.le_of_eq hpos.symm
  piece_eq := by rw [hpos, Text.slice_self]

/-- Steps that follow each other pass the pieces of both. -/
theorem trans {s s' s'' : Scanner} {a b : Text} (hs : s.Coherent) (hs' : s'.Coherent)
    (hs'' : s''.Coherent) (h : Advances s a s') (h' : Advances s' b s'') :
    Advances s (a ++ b) s'' := by
  obtain ⟨more, hmore⟩ := h'.isPrefix
  -- What was passed first still stands in the text, which may have grown since.
  have hslice : s''.text.slice s.pos s'.pos = s'.text.slice s.pos s'.pos := by
    rw [← hmore, Text.slice_append more hs.pos_nonneg h.pos_le hs'.pos_le]
  refine ⟨h.isPrefix.trans h'.isPrefix, Int.le_trans h.pos_le h'.pos_le, ?_⟩
  rw [h.piece_eq, h'.piece_eq, ← hslice]
  exact Text.slice_append_slice hs.pos_nonneg h.pos_le h'.pos_le hs''.pos_le

end Advances

/-! ## Steps -/

/-- What an attempt that moves the cursor answers tells the text up to the end of the match. -/
theorem consumed_answer {s : Scanner} {reach : Reach} {use : Use} {p : Pattern} {m : Match}
    (hm : m.Within s.text) (hreach : reach.allows s.pos m.start = true) (huse : use ≠ .check)
    {o : Outcome} (ho : o.result = .ok (answer reach use s.text s.pos m)) :
    s.consumed (.attempt reach use p) o = s.text.slice s.pos m.stop := by
  unfold consumed
  rw [ho, answer_eq hm hreach]
  cases use with
  | scan => rfl
  | check => exact absurd rfl huse
  | skip =>
    show s.text.slice s.pos (s.pos + (m.stop - s.pos)) = _
    rw [Int.add_comm, Int.sub_add_cancel]

/-- An attempt that fails has consumed nothing. -/
theorem consumed_eq_nil {s : Scanner} {reach : Reach} {use : Use} {p : Pattern} {o : Outcome}
    (h : (∃ f, o.result = .error f) ∨ o.result = .ok .none) :
    s.consumed (.attempt reach use p) o = [] := by
  unfold consumed
  rcases h with ⟨f, h⟩ | h
  · rw [h]
    cases use <;> rfl
  · rw [h]
    cases use <;> rfl

/-- A match attempt with the regular-expression engine passes the piece that it has consumed. -/
theorem attempt_advances (e : RegexEngine) (reach : Reach) (use : Use) (p : Pattern) {s : Scanner}
    (hs : s.Coherent) (c : Cache) :
    Advances s (s.consumed (.attempt reach use p) (s.attempt e.engine reach use p c).1)
      (s.attempt e.engine reach use p c).2.1 := by
  rcases attempt_regex_cases e reach use p hs c with
    ⟨hresult, hout⟩ | ⟨hresult, hout⟩ | ⟨m, hm, hreach, hresult, hout⟩
  · rw [consumed_eq_nil (Or.inl hresult), hout]
    exact .stay rfl rfl
  · rw [consumed_eq_nil (Or.inr hresult), hout]
    exact .stay rfl rfl
  · rw [hout]
    by_cases huse : use = .check
    · -- A check registers its match and stays where it is.
      subst huse
      exact .stay rfl rfl
    · rw [consumed_answer hm hreach huse hresult]
      refine ⟨List.prefix_refl _, ?_, ?_⟩
      · have hle : s.pos ≤ m.stop := Int.le_trans (Reach.le_of_allows hreach) hm.start_le_stop
        simpa [landed, huse] using hle
      · simp [landed, huse]

/-- Reading passes the piece that it has consumed. -/
theorem read_advances (s : Scanner) (n : Int) {o : Outcome}
    (ho : o.result = (s.read n).1.map .optText) :
    Advances s (s.consumed (.read n) o) (s.read n).2 := by
  unfold consumed
  rw [ho]
  rcases read_cases s n with ⟨-, hread⟩ | ⟨-, -, hread⟩ | ⟨hn, -, hread⟩
  · rw [hread]
    exact .stay rfl rfl
  · rw [hread]
    exact .stay rfl rfl
  · rw [hread]
    refine ⟨List.prefix_refl _, ?_, rfl⟩
    show s.pos ≤ s.pos + n
    omega

/-- Appending pieces to the text passes nothing. -/
theorem append_advances (s : Scanner) (more : List Text) :
    Advances s [] (more.foldl concat s) := by
  have hfold : s.text <+: (more.foldl concat s).text ∧ (more.foldl concat s).pos = s.pos := by
    induction more generalizing s with
    | nil => exact ⟨List.prefix_refl _, rfl⟩
    | cons piece more ih =>
      obtain ⟨htext, hpos⟩ := ih (s.concat piece)
      exact ⟨(List.prefix_append s.text piece).trans htext, hpos⟩
  refine ⟨hfold.1, Int.le_of_eq hfold.2.symm, ?_⟩
  rw [hfold.2, Text.slice_self]

/-- An operation that only asks has consumed nothing. -/
theorem consumed_of_asks {op : Op} (h : op.asks = true) (s : Scanner) (o : Outcome) :
    s.consumed op o = [] := by
  cases op <;> first | rfl | simp [Op.asks] at h

/-- With the regular-expression engine, every operation that does not reposition the cursor passes
the piece that it has consumed. -/
theorem step_advances (e : RegexEngine) {op : Op} (hop : op.repositions = false) {s : Scanner}
    (hs : s.Coherent) (c : Cache) :
    Advances s (s.consumed op (s.step e.engine op c).1) (s.step e.engine op c).2.1 := by
  cases hasks : op.asks with
  | true =>
    rw [consumed_of_asks hasks, step_of_asks e.engine hasks]
    exact .stay rfl rfl
  | false =>
    cases op with
    | attempt reach use p => exact attempt_advances e reach use p hs c
    | read n => exact read_advances s n rfl
    | append more => exact append_advances s more
    | setPosition | setText | reset | terminate => simp [Op.repositions] at hop
    | _ => simp [Op.asks] at hasks

/-! ## Runs -/

/-- A run with the regular-expression engine that does not reposition the cursor passes the pieces
that it has consumed, and the cursor goes back at no point of it. -/
theorem run_advances (e : RegexEngine) {ops : List Op}
    (hops : ∀ op ∈ ops, op.repositions = false) {s : Scanner} (hs : s.Coherent) (c : Cache) :
    Advances s (s.pieces ops (run e.engine ops s c).1).flatten (run e.engine ops s c).2.1 ∧
      (s.pos :: (run e.engine ops s c).1.map (·.after.pos)).Pairwise (· ≤ ·) := by
  induction ops generalizing s c with
  | nil => exact ⟨.stay rfl rfl, List.pairwise_singleton _ _⟩
  | cons op ops ih =>
    have hstep := step_advances e (hops op List.mem_cons_self) hs c
    have hnext := Coherent.step e op s c hs
    rw [run_cons]
    dsimp only
    generalize s.step e.engine op c = next at hstep hnext ⊢
    obtain ⟨o, s', c'⟩ := next
    obtain ⟨hrest, hchain⟩ := ih (fun op' h => hops op' (List.mem_cons_of_mem _ h)) hnext c'
    have hend := (run_invariant e.engine (Coherent.step e) ops c' hnext).2
    refine ⟨hstep.trans hs hnext hend hrest, ?_⟩
    rw [List.map_cons, List.pairwise_cons]
    refine ⟨?_, hchain⟩
    intro pos hpos
    rcases List.mem_cons.mp hpos with rfl | hlater
    · exact hstep.pos_le
    · exact Int.le_trans hstep.pos_le ((List.pairwise_cons.mp hchain).1 pos hlater)

/-- From any state that the regular-expression engine can lead to, along any run that does not
reposition the cursor: the cursor never goes back, the text only grows at its end, and the pieces
consumed are, one after the other, what the final text has between the first and the last cursor. -/
theorem run_regex_tiles (e : RegexEngine) {s : Scanner} (hs : Reachable e.engine s) (c : Cache)
    {ops : List Op} (hops : ∀ op ∈ ops, op.repositions = false) :
    let traces := (run e.engine ops s c).1
    let final := (run e.engine ops s c).2.1
    let pieces := s.pieces ops traces
    (s.pos :: traces.map (·.after.pos)).Pairwise (· ≤ ·) ∧ s.text <+: final.text ∧
      pieces.flatten = final.text.slice s.pos final.pos ∧
      ((pieces.map List.length).sum : Int) = final.pos - s.pos := by
  have hcoherent := hs.coherent
  obtain ⟨hadv, hchain⟩ := run_advances e hops hcoherent c
  have hend := (run_invariant e.engine (Coherent.step e) ops c hcoherent).2
  refine ⟨hchain, hadv.isPrefix, hadv.piece_eq, ?_⟩
  rw [← List.length_flatten, hadv.piece_eq]
  exact Text.length_slice hcoherent.pos_nonneg hadv.pos_le hend.pos_le

/-- A scan, one that fails, an append, a search and a read: the pieces make up the text. -/
theorem run_regex_tiles_mixed :
    let e : RegexEngine := {}
    let s : Scanner := { text := "ab cd".toList, pos := 1 }
    let ops : List Op :=
      [.attempt .anchored .scan (.source "\\w+".toList),
        .attempt .anchored .scan (.source "x".toList), .append ["e".toList],
        .attempt .ahead .skip (.source "d".toList), .read 1]
    let traces := (run e.engine ops s {}).1
    let final := (run e.engine ops s {}).2.1
    Reachable e.engine s ∧ (∀ op ∈ ops, op.repositions = false) ∧
      s.pieces ops traces = ["b".toList, [], [], " cd".toList, "e".toList] ∧
      (s.pieces ops traces).flatten = final.text.slice s.pos final.pos ∧
      (((s.pieces ops traces).map List.length).sum : Int) = final.pos - s.pos := by
  intro e s ops traces final
  have hs : Reachable e.engine s := ⟨"ab cd".toList, {}, [.read 1], by decide +kernel⟩
  have hops : ∀ op ∈ ops, op.repositions = false := by simp [ops, Op.repositions]
  obtain ⟨-, -, hflat, hsum⟩ := run_regex_tiles e hs {} hops
  exact ⟨hs, hops, by decide +kernel, hflat, hsum⟩

end Scanner

end TextScan
