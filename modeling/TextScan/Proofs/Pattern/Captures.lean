import Mathlib.Data.List.Infix
import TextScan.Proofs.Pattern.Span

/-!
# What groups remember

A property of states is `Stable` if going on in the text, opening a group and closing one keep it.
Every way of a pattern keeps such a property (`Node.ways_keeps`); only look-around conditions can put
the place elsewhere, and where a pattern has some, the property must not depend on the place. Two
such properties give what is known of the groups of a match: there are as many as at the start
(`Regex.length_groups_of_matchAt`), and without look-around conditions they lie between the start of
the match and its end (`Regex.spans_of_matchAt`).
-/

namespace TextScan

/-! ## Stable properties -/

/-- Whether a pattern has a look-around condition. -/
def Node.looksAround : Node → Bool
  | .empty | .chars _ | .anchor _ | .backref .. => false
  | .seq a b | .alt a b | .cond _ a b => a.looksAround || b.looksAround
  | .group _ body | .loop _ _ _ body | .atomic body => body.looksAround
  | .look .. => true

/-- A property of states that a pattern keeps as it goes on: moving forward, opening a group, and
closing a group that was opened in a state with the property. -/
structure Progress.Stable (P : Progress → Prop) : Prop where
  /-- Going on keeps the property. -/
  forward : ∀ s p, P s → s.pos ≤ p → P (s.moved p)
  /-- Opening a group keeps it. -/
  opened : ∀ s i, P s → P (s.openGroup i)
  /-- Closing a group keeps it. -/
  closed : ∀ s s' i, P s → P s' → P (s'.closeGroup i s.pos)

/-- Every way of a pattern keeps a stable property. With look-around conditions in the pattern, the
property has to hold at any other place as well. -/
theorem Node.ways_keeps {P : Progress → Prop} (hP : Progress.Stable P) (text : Array Char) (n : Node)
    (hlook : n.looksAround = true → ∀ s p, P s → P (s.moved p)) : (n.ways text).Keeps P := by
  induction n with
  | empty =>
    intro s hs s' hs'
    obtain rfl : s' = s := by simpa [Node.ways] using hs'
    exact hs
  | chars set =>
    intro s hs s' hs'
    rw [Node.ways] at hs'
    split at hs'
    · obtain rfl := List.mem_singleton.mp hs'
      exact hP.forward s _ hs (Nat.le_succ _)
    · simp at hs'
  | anchor a =>
    intro s hs s' hs'
    rw [Node.ways] at hs'
    split at hs'
    · obtain rfl := List.mem_singleton.mp hs'
      exact hs
    · simp at hs'
  | seq a b iha ihb =>
    refine (iha fun h => hlook ?_).flatMap (ihb fun h => hlook ?_)
    · simp [looksAround, h]
    · simp [looksAround, h]
  | alt a b iha ihb =>
    intro s hs s' hs'
    rcases List.mem_append.mp hs' with ha | hb
    · exact iha (fun h => hlook (by simp [looksAround, h])) s hs s' ha
    · exact ihb (fun h => hlook (by simp [looksAround, h])) s hs s' hb
  | group i body ih =>
    intro s hs s' hs'
    obtain ⟨inner, hinner, rfl⟩ := List.mem_map.mp hs'
    -- The start of the span is the place at which the group was opened.
    exact hP.closed s inner i hs (ih hlook _ (hP.opened s i hs) inner hinner)
  | loop greed lo hi body ih => exact (ih hlook).loop text.size greed lo hi
  | atomic body ih => exact (ih hlook).once
  | look dir negative body ih =>
    intro s hs s' hs'
    -- The body starts elsewhere, and what it has set is kept when the place is restored.
    have hmove := hlook rfl
    rcases Ways.of_mem_look hs' with rfl | ⟨p, inner, hinner, rfl⟩
    · exact hs
    · exact hmove inner _ (ih (fun _ => hmove) _ (hmove s p hs) inner hinner)
  | backref i fold =>
    intro s hs s' hs'
    rw [Node.ways] at hs'
    split at hs'
    · simp at hs'
    · split at hs'
      · obtain rfl := List.mem_singleton.mp hs'
        exact hP.forward s _ hs (Nat.le_add_right _ _)
      · simp at hs'
  | cond i yes no ihy ihn =>
    intro s hs s' hs'
    rw [Node.ways] at hs'
    split at hs'
    · exact ihy (fun h => hlook (by simp [looksAround, h])) s hs s' hs'
    · exact ihn (fun h => hlook (by simp [looksAround, h])) s hs s' hs'

/-! ## The groups of a state -/

namespace Progress

/-- The number of groups stays. -/
theorem stable_length (n : Nat) : Stable fun s => s.groups.length = n where
  forward s p hs _ := hs
  opened s i hs := by rw [openGroup, List.length_modify, hs]
  closed s s' i _ hs' := by rw [closeGroup, List.length_set, hs']

/-- The place and all groups set lie behind an offset, and no group ends behind the place. -/
def Within (start : Nat) (s : Progress) : Prop :=
  start ≤ s.pos ∧ ∀ span : Span, some span ∈ s.groups → start ≤ span.1 ∧ span.2 ≤ s.pos

/-- The span of a group that starts again begins at the new start and has the end of the earlier
one. -/
theorem reopened_eq_some {p : Nat} {o : Option Span} {span : Span} (h : reopened p o = some span) :
    span.1 = p ∧ ∃ start, o = some (start, span.2) := by
  cases o with
  | none => simp [reopened] at h
  | some old =>
    obtain ⟨start, stop⟩ := old
    rw [reopened] at h
    split at h
    · obtain rfl := Option.some.inj h
      exact ⟨rfl, start, rfl⟩
    · simp at h

/-- A span in a state in which a group has started is an earlier one, or begins at the place and ends
where an earlier one does. -/
theorem mem_groups_openGroup {s : Progress} {i : Nat} {span : Span}
    (h : some span ∈ (s.openGroup i).groups) :
    some span ∈ s.groups ∨ span.1 = s.pos ∧ ∃ start, some (start, span.2) ∈ s.groups := by
  obtain ⟨j, hj⟩ := List.mem_iff_getElem?.mp h
  rw [openGroup, List.getElem?_modify] at hj
  split at hj
  · obtain ⟨old, hold, hspan⟩ := Option.map_eq_some_iff.mp hj
    obtain ⟨hstart, start, rfl⟩ := reopened_eq_some hspan
    exact Or.inr ⟨hstart, start, List.mem_of_getElem? hold⟩
  · exact Or.inl (List.mem_of_getElem? (by simpa using hj))

/-- Groups that lie between an offset and the place go on doing so. -/
theorem stable_within (start : Nat) : Stable (Within start) where
  forward s p hs hle := by
    obtain ⟨hpos, hspans⟩ := hs
    refine ⟨Nat.le_trans hpos hle, fun span hspan => ?_⟩
    obtain ⟨hlo, hhi⟩ := hspans span hspan
    exact ⟨hlo, Nat.le_trans hhi hle⟩
  opened s i hs := by
    obtain ⟨hpos, hspans⟩ := hs
    refine ⟨hpos, fun span hspan => ?_⟩
    rcases mem_groups_openGroup hspan with hold | ⟨hstart, start', hold⟩
    · exact hspans span hold
    · rw [hstart]
      exact ⟨hpos, (hspans _ hold).2⟩
  closed s s' i hs hs' := by
    obtain ⟨hpos', hspans'⟩ := hs'
    refine ⟨hpos', fun span hspan => ?_⟩
    rcases List.mem_or_eq_of_mem_set hspan with hold | hnew
    · exact hspans' span hold
    · obtain rfl := Option.some.inj hnew
      exact ⟨hs.1, Nat.le_refl _⟩

end Progress

/-! ## The groups of a match -/

namespace Regex

/-- A match at an offset keeps what its pattern keeps. -/
theorem last_of_matchAt {P : Progress → Prop} (hP : Progress.Stable P) {r : Regex}
    (hlook : r.node.looksAround = true → ∀ s p, P s → P (s.moved p)) {t : Text} {p : Nat}
    (hp : P (r.initial p)) {f : Found} (h : r.matchAt t p = some f) : P f.last := by
  rw [matchAt_eq] at h
  obtain ⟨last, hlast, rfl⟩ := Option.map_eq_some_iff.mp h
  exact r.node.ways_keeps hP t.toArray hlook _ hp last (List.mem_of_mem_head? hlast)

/-- A match has as many groups as its pattern. -/
theorem length_groups_of_matchAt {r : Regex} {t : Text} {p : Nat} {f : Found}
    (h : r.matchAt t p = some f) : f.last.groups.length = r.groups :=
  last_of_matchAt (Progress.stable_length r.groups) (fun _ _ _ hs => hs)
    (List.length_replicate ..) h

/-- Without look-around conditions, the groups of a match lie in its span. -/
theorem spans_of_matchAt {r : Regex} (hlook : r.node.looksAround = false) {t : Text} {p : Nat}
    {f : Found} (h : r.matchAt t p = some f) {span : Span} (hspan : some span ∈ f.last.groups) :
    p ≤ span.1 ∧ span.2 ≤ f.last.pos := by
  have hinitial : (r.initial p).Within p := by
    refine ⟨Nat.le_refl p, fun span hspan => ?_⟩
    -- No group is set before the match.
    simpa using List.eq_of_mem_replicate hspan
  have hlast : f.last.Within p := by
    apply last_of_matchAt (Progress.stable_within p) ?_ hinitial h
    intro htrue
    simp [hlook] at htrue
  exact hlast.2 span hspan

/-- The text of a span is part of the text. -/
theorem spanText_infix (t : Text) (span : Span) : spanText t span <:+: t :=
  (List.drop_suffix _ _).isInfix.trans (List.take_prefix _ _).isInfix

/-- The text of a span is part of that of a span around it. -/
theorem spanText_infix_spanText (t : Text) {inner outer : Span} (hstart : outer.1 ≤ inner.1)
    (hstop : inner.2 ≤ outer.2) : spanText t inner <:+: spanText t outer := by
  unfold spanText
  have htake : (t.take inner.2).drop outer.1 <+: (t.take outer.2).drop outer.1 :=
    (List.take_prefix_take_left hstop).drop outer.1
  have hdrop : (t.take inner.2).drop inner.1 <:+ (t.take inner.2).drop outer.1 :=
    List.drop_suffix_drop_left _ hstart
  exact hdrop.isInfix.trans htake.isInfix

end Regex

end TextScan
