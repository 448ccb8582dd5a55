import TextScan.Proofs.Pattern.Span

/-!
# Patterns that do not look back

Start anchors, word edges and look-behind conditions depend on what lies before the place where they
are tried. A pattern without them does not look back (`Node.looksBack`). Putting a text before
another then changes nothing but offsets: the ways of such a pattern in the longer text are those in
the shorter one, in the same order, moved by the length of what was put before
(`Node.ways_append`), and so are matches (`Regex.matchAt_append`) and searches
(`Regex.searchFrom_append`).
-/

namespace TextScan

/-! ## Parts that look back -/

/-- Whether a condition on a place depends on what lies before it. -/
def Anchor.looksBack : Anchor → Bool
  | .textStart | .lineStart | .wordEdge _ | .noWordEdge _ => true
  | .textEnd | .lineEnd | .finalLineEnd => false

/-- Whether a pattern has a part that depends on what lies before the place where it is tried. -/
def Node.looksBack : Node → Bool
  | .empty | .chars _ | .backref .. => false
  | .anchor a => a.looksBack
  | .seq a b | .alt a b | .cond _ a b => a.looksBack || b.looksBack
  | .group _ body | .loop _ _ _ body | .atomic body | .look .ahead _ body => body.looksBack
  | .look (.behind _) _ _ => true

/-! ## Moved states -/

/-- A span moved on by `d` places. -/
def Span.shift (d : Nat) (s : Span) : Span := (s.1 + d, s.2 + d)

namespace Progress

/-- A state moved on by `d` places, with the spans of its groups. -/
def shift (d : Nat) (s : Progress) : Progress :=
  ⟨s.pos + d, s.groups.map (·.map (Span.shift d))⟩

variable (d : Nat) (s : Progress)

@[simp] theorem shift_pos : (s.shift d).pos = s.pos + d := rfl

theorem shift_moved (p : Nat) : (s.moved p).shift d = (s.shift d).moved (p + d) := rfl

/-- The span of a group moves with the state. -/
theorem shift_span? (group : Nat) :
    (s.shift d).span? group = (s.span? group).map (Span.shift d) := by
  unfold span? shift
  rw [List.getElem?_map]
  cases s.groups[group - 1]? <;> rfl

/-- Opening a group again moves with its last span and with the place where it is opened. -/
theorem reopened_shift (p : Nat) (o : Option Span) :
    reopened (p + d) (o.map (Span.shift d)) = (reopened p o).map (Span.shift d) := by
  cases o with
  | none => rfl
  | some span =>
    obtain ⟨start, stop⟩ := span
    simp only [Option.map_some, Span.shift, reopened, Nat.add_le_add_iff_right]
    split <;> rfl

/-- Opening a group moves with the state. -/
theorem shift_openGroup (group : Nat) :
    (s.openGroup group).shift d = (s.shift d).openGroup group := by
  unfold openGroup shift
  dsimp only
  congr 1
  apply List.ext_getElem?
  intro i
  simp only [List.getElem?_map, List.getElem?_modify]
  cases s.groups[i]? with
  | none => rfl
  | some o =>
    simp only [Option.map_some, Option.map_eq_map]
    split
    · rw [reopened_shift]
    · rfl

/-- Closing a group moves with the state and with the place where the group was opened. -/
theorem shift_closeGroup (group start : Nat) :
    (s.closeGroup group start).shift d = (s.shift d).closeGroup group (start + d) := by
  unfold closeGroup shift
  dsimp only
  rw [List.map_set]
  rfl

end Progress

/-! ## Moved ways -/

/-- The ways of `w` from a moved state are the ways of `v` from the state itself, moved. -/
def Ways.Moves (d : Nat) (w v : Ways) : Prop :=
  ∀ s : Progress, w (s.shift d) = (v s).map (Progress.shift d)

/-- A loop in a text that has `d` places more before the current one has as many optional rounds. -/
theorem optionalRounds_add (lo : Nat) (hi : Option Nat) (size p d : Nat) :
    optionalRounds lo hi (size + d) (p + d) = optionalRounds lo hi size p := by
  unfold optionalRounds
  rw [Nat.add_sub_add_right]

namespace Ways.Moves

variable {d : Nat} {w v w' v' : Ways}

/-- One part after another moves if both do. -/
theorem flatMap (hw : w.Moves d v) (hw' : w'.Moves d v') :
    Ways.Moves d (fun s => (w s).flatMap w') (fun s => (v s).flatMap v') := by
  intro s
  dsimp only
  rw [hw s, List.flatMap_map, List.map_flatMap]
  congr 1
  funext mid
  exact hw' mid

/-- One part or else another moves if both do. -/
theorem append (hw : w.Moves d v) (hw' : w'.Moves d v') :
    Ways.Moves d (fun s => w s ++ w' s) (fun s => v s ++ v' s) := by
  intro s
  dsimp only
  rw [hw s, hw' s, List.map_append]

/-- A number of rounds moves if one round does. -/
theorem times (hw : w.Moves d v) (n : Nat) : (w.times n).Moves d (v.times n) := by
  induction n with
  | zero =>
    intro s
    rfl
  | succ n ih => exact hw.flatMap ih

/-- A round starts where the one before it started exactly if this is so of the moved rounds. -/
theorem last_shift_iff {last : Option Nat} {p : Nat} :
    last.map (· + d) = some (p + d) ↔ last = some p := by
  cases last with
  | none => simp
  | some q => simp

/-- Rounds taken greedily move if one round does. -/
theorem greedily (hw : w.Moves d v) (n : Nat) (last : Option Nat) :
    (w.greedily n (last.map (· + d))).Moves d (v.greedily n last) := by
  induction n generalizing last with
  | zero =>
    intro s
    rfl
  | succ n ih =>
    intro s
    rw [Ways.greedily, Ways.greedily, Progress.shift_pos]
    by_cases hlast : last = some s.pos
    · rw [if_pos (last_shift_iff.mpr hlast), if_pos hlast]
      rfl
    · rw [if_neg (fun h => hlast (last_shift_iff.mp h)), if_neg hlast, List.map_append]
      -- The next round is told that this one starts at the moved place.
      have hmore := hw.flatMap (ih (some s.pos)) s
      exact congrArg (· ++ [s.shift d]) hmore

/-- Rounds taken lazily move if one round does. -/
theorem lazily (hw : w.Moves d v) (n : Nat) (last : Option Nat) :
    (w.lazily n (last.map (· + d))).Moves d (v.lazily n last) := by
  induction n generalizing last with
  | zero =>
    intro s
    rfl
  | succ n ih =>
    intro s
    rw [Ways.lazily, Ways.lazily, Progress.shift_pos, List.map_cons]
    by_cases hlast : last = some s.pos
    · rw [if_pos (last_shift_iff.mpr hlast), if_pos hlast]
      rfl
    · rw [if_neg (fun h => hlast (last_shift_iff.mp h)), if_neg hlast]
      have hmore := hw.flatMap (ih (some s.pos)) s
      exact congrArg (s.shift d :: ·) hmore

/-- Keeping the first way only moves if all ways do. -/
theorem once (hw : w.Moves d v) : w.once.Moves d v.once := by
  intro s
  unfold Ways.once
  rw [hw s, List.map_take]

/-- Rounds whose number depends on the place move if they do for each number. -/
theorem rounds {W V : Nat → Ways} (h : ∀ n, (W n).Moves d (V n)) (lo : Nat) (hi : Option Nat)
    (size : Nat) :
    Ways.Moves d (fun s => W (optionalRounds lo hi (size + d) s.pos) s)
      (fun s => V (optionalRounds lo hi size s.pos) s) := by
  intro s
  dsimp only
  rw [Progress.shift_pos, optionalRounds_add]
  exact h _ s

/-- A loop moves if its body does. -/
theorem loop (hw : w.Moves d v) (size : Nat) (greed : Greed) (lo : Nat) (hi : Option Nat) :
    (w.loop (size + d) greed lo hi).Moves d (v.loop size greed lo hi) := by
  cases greed with
  | greedy => exact (hw.times lo).flatMap (rounds (fun n => hw.greedily n none) lo hi size)
  | lazy => exact (hw.times lo).flatMap (rounds (fun n => hw.lazily n none) lo hi size)
  | possessive =>
    apply Ways.Moves.once
    exact (hw.once.times lo).flatMap (rounds (fun n => hw.once.greedily n none) lo hi size)

/-- A condition on what comes next moves if its body does. -/
theorem lookAhead (hw : w.Moves d v) (negative : Bool) :
    (w.look .ahead negative).Moves d (v.look .ahead negative) := by
  intro s
  unfold Ways.look
  dsimp only
  rw [hw s, List.head?_map]
  cases negative <;> cases (v s).head? <;> rfl

end Ways.Moves

/-! ## A text put before another -/

section Append

variable (before after : Text)

/-- The character at a place of the text behind. -/
theorem hasAt_append (p : Nat) (f : Char → Bool) :
    hasAt (before ++ after).toArray (p + before.length) f = hasAt after.toArray p f := by
  unfold hasAt
  rw [List.getElem?_toArray, List.getElem?_toArray,
    List.getElem?_append_right (Nat.le_add_left _ _), Nat.add_sub_cancel]

/-- Two stretches of the text behind are compared as they are without the text before. -/
theorem sameAt_append (fold : Fold) (a p n : Nat) :
    sameAt (before ++ after).toArray fold (a + before.length) (p + before.length) n =
      sameAt after.toArray fold a p n := by
  induction n generalizing a p with
  | zero => rfl
  | succ n ih =>
    unfold sameAt
    rw [List.getElem?_toArray, List.getElem?_toArray, List.getElem?_toArray,
      List.getElem?_toArray, List.getElem?_append_right (Nat.le_add_left _ _),
      List.getElem?_append_right (Nat.le_add_left _ _), Nat.add_sub_cancel, Nat.add_sub_cancel,
      Nat.add_right_comm a, Nat.add_right_comm p, ih]

theorem size_append : (before ++ after).toArray.size = after.toArray.size + before.length := by
  rw [List.size_toArray, List.size_toArray, List.length_append, Nat.add_comm]

/-- A condition that does not look back holds at a place whatever text is put before it. -/
theorem Anchor.holds_append {a : Anchor} (ha : a.looksBack = false) (p : Nat) :
    a.holds (before ++ after).toArray (p + before.length) = a.holds after.toArray p := by
  have hend : (p + before.length == (before ++ after).toArray.size) =
      (p == after.toArray.size) := by
    rw [size_append, Bool.eq_iff_iff, beq_iff_eq, beq_iff_eq, Nat.add_right_cancel_iff]
  cases a with
  | textEnd => exact hend
  | lineEnd => rw [Anchor.holds, Anchor.holds, hend, hasAt_append]
  | finalLineEnd =>
    have hnext : (p + before.length + 1 == (before ++ after).toArray.size) =
        (p + 1 == after.toArray.size) := by
      rw [size_append, Nat.add_right_comm, Bool.eq_iff_iff, beq_iff_eq, beq_iff_eq,
        Nat.add_right_cancel_iff]
    rw [Anchor.holds, Anchor.holds, hend, hnext, hasAt_append]
  | textStart | lineStart | wordEdge | noWordEdge => simp [Anchor.looksBack] at ha

/-- In a text with another put before it, the ways of a pattern that does not look back are its ways
in the text itself, moved by the length of what was put before. -/
theorem Node.ways_append {n : Node} (hn : n.looksBack = false) :
    (n.ways (before ++ after).toArray).Moves before.length (n.ways after.toArray) := by
  induction n with
  | empty =>
    intro s
    rfl
  | chars set =>
    intro s
    rw [Node.ways, Node.ways, Progress.shift_pos, hasAt_append]
    split
    · rw [List.map_singleton, Progress.shift_moved, Nat.add_right_comm]
    · rfl
  | anchor a =>
    intro s
    rw [Node.ways, Node.ways, Progress.shift_pos, Anchor.holds_append before after hn]
    split <;> rfl
  | seq a b iha ihb =>
    simp only [Node.looksBack, Bool.or_eq_false_iff] at hn
    exact (iha hn.1).flatMap (ihb hn.2)
  | alt a b iha ihb =>
    simp only [Node.looksBack, Bool.or_eq_false_iff] at hn
    exact (iha hn.1).append (ihb hn.2)
  | group i body ih =>
    intro s
    -- The group is closed from where it was opened, which has moved with the state.
    rw [Node.ways, Node.ways, ← Progress.shift_openGroup, ih hn, List.map_map, List.map_map]
    congr 1
    funext inner
    exact (Progress.shift_closeGroup _ inner i s.pos).symm
  | loop greed lo hi body ih =>
    intro s
    rw [Node.ways, Node.ways, size_append]
    exact (ih hn).loop _ greed lo hi s
  | atomic body ih => exact (ih hn).once
  | look dir negative body ih =>
    cases dir with
    | ahead => exact (ih hn).lookAhead negative
    | behind width => simp [Node.looksBack] at hn
  | backref i fold =>
    intro s
    rw [Node.ways, Node.ways, Progress.shift_span?]
    cases s.span? i with
    | none => rfl
    | some span =>
      -- The span that is repeated moves as a whole, so its length stays.
      obtain ⟨start, stop⟩ := span
      simp only [Option.map_some, Span.shift, Progress.shift_pos, sameAt_append,
        Nat.add_sub_add_right]
      split
      · rw [List.map_singleton, Progress.shift_moved, Nat.add_right_comm]
      · rfl
  | cond i yes no ihy ihn =>
    simp only [Node.looksBack, Bool.or_eq_false_iff] at hn
    intro s
    rw [Node.ways, Node.ways, Progress.shift_span?, Option.isSome_map]
    split
    · exact ihy hn.1 s
    · exact ihn hn.2 s

/-! ## Matches and searches -/

namespace Regex

/-- A match moved on by `d` places. -/
def Found.shift (d : Nat) (f : Found) : Found := ⟨f.start + d, f.last.shift d⟩

variable {r : Regex} (hn : r.node.looksBack = false)
include hn

/-- The match of a pattern that does not look back moves with the text. -/
theorem matchAt_append (p : Nat) :
    r.matchAt (before ++ after) (p + before.length) =
      (r.matchAt after p).map (Found.shift before.length) := by
  have hinitial : r.initial (p + before.length) = (r.initial p).shift before.length := by
    simp [initial, Progress.shift]
  rw [matchAt_eq, matchAt_eq, hinitial, Node.ways_append before after hn, List.head?_map,
    Option.map_map, Option.map_map]
  rfl

/-- The search for a pattern that does not look back moves with the text. -/
theorem searchFrom_append (p : Nat) :
    r.searchFrom (before ++ after) (p + before.length) =
      (r.searchFrom after p).map (Found.shift before.length) := by
  -- Both searches try the same number of places, each the other's moved.
  have hmatch : ∀ q, r.tryAt (before ++ after).toArray some (before.length + q) =
      (r.tryAt after.toArray some q).map (Found.shift before.length) := by
    intro q
    rw [Nat.add_comm]
    exact matchAt_append before after hn q
  unfold searchFrom
  dsimp only
  rw [size_append, Nat.add_right_comm, Nat.add_sub_add_right, Nat.add_comm p, ← List.map_add_range',
    List.findSome?_map, List.map_findSome?]
  congr 1
  funext q
  exact hmatch q

end Regex

end Append

end TextScan
