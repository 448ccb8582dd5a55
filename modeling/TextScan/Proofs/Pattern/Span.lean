import TextScan.Pattern.Regex
import TextScan.Proofs.Pattern.Ways

/-!
# Where a match can lie

No way of a pattern goes back, and none leaves the text (`Node.ways_forward`): the only parts that
move the place are a set of characters and a repeated group, and both test the characters that they
pass. This holds of every tree, whether or not a pattern text stands for it, and gives the bounds of
every match (`Regex.matchAt_bounds`). A search is the first offset with a match
(`Regex.searchFrom_eq_some_iff`).
-/

namespace TextScan

/-! ## No way goes back -/

/-- From a place in a text of `size` characters, every way ends at that place or further on in the
text. -/
def Ways.Forward (size : Nat) (w : Ways) : Prop :=
  ∀ s, s.pos ≤ size → ∀ s' ∈ w s, s.pos ≤ s'.pos ∧ s'.pos ≤ size

/-- Going forward is keeping every lower bound of the place, and that it lies in the text. -/
theorem Ways.forward_iff {size : Nat} {w : Ways} :
    w.Forward size ↔ ∀ start, w.Keeps fun s => start ≤ s.pos ∧ s.pos ≤ size := by
  constructor
  · intro hw start s hs s' hs'
    obtain ⟨hle, hsize⟩ := hw s hs.2 s' hs'
    exact ⟨Nat.le_trans hs.1 hle, hsize⟩
  · intro hw s hs s' hs'
    exact hw s.pos s ⟨Nat.le_refl _, hs⟩ s' hs'

namespace Ways.Forward

variable {size : Nat} {w v : Ways}

/-- One part after another goes forward if both do. -/
theorem flatMap (hw : w.Forward size) (hv : v.Forward size) :
    Ways.Forward size fun s => (w s).flatMap v :=
  forward_iff.mpr fun start => (forward_iff.mp hw start).flatMap (forward_iff.mp hv start)

/-- Keeping the first way only goes forward if all ways do. -/
theorem once (hw : w.Forward size) : w.once.Forward size :=
  forward_iff.mpr fun start => (forward_iff.mp hw start).once

/-- A loop goes forward if its body does. -/
theorem loop (hw : w.Forward size) (greed : Greed) (lo : Nat) (hi : Option Nat) :
    (w.loop size greed lo hi).Forward size :=
  forward_iff.mpr fun start => (forward_iff.mp hw start).loop size greed lo hi

end Ways.Forward

/-- A look-around condition stays where it is. -/
theorem Ways.pos_of_mem_look {w : Ways} {dir : Direction} {negative : Bool} {s s' : Progress}
    (h : s' ∈ w.look dir negative s) : s'.pos = s.pos := by
  rcases Ways.of_mem_look h with rfl | ⟨p, inner, -, rfl⟩
  · rfl
  · rfl

/-- Where the `n` characters from an offset on agree with others, the text has that many. -/
theorem add_le_size_of_sameAt {text : Array Char} {fold : Fold} {a p n : Nat} (hp : p ≤ text.size)
    (h : sameAt text fold a p n = true) : p + n ≤ text.size := by
  induction n generalizing a p with
  | zero => exact hp
  | succ n ih =>
    rw [sameAt] at h
    split at h
    · rename_i c d ha hd
      have hlt : p < text.size := (Array.getElem?_eq_some_iff.mp hd).1
      have hrest := ih hlt (Bool.and_eq_true_iff.mp h).2
      omega
    · simp at h

/-- A character can only be where the text has one. -/
theorem lt_size_of_hasAt {text : Array Char} {p : Nat} {f : Char → Bool}
    (h : hasAt text p f = true) : p < text.size := by
  unfold hasAt at h
  obtain ⟨c, hc, -⟩ := (Option.any_eq_true _ _).mp h
  exact (Array.getElem?_eq_some_iff.mp hc).1

/-- Every way of a pattern ends in the text, and not before the place where it starts. -/
theorem Node.ways_forward (text : Array Char) (n : Node) : (n.ways text).Forward text.size := by
  induction n with
  | empty =>
    intro s hs s' hs'
    obtain rfl : s' = s := by simpa [Node.ways] using hs'
    exact ⟨Nat.le_refl _, hs⟩
  | chars set =>
    intro s hs s' hs'
    rw [Node.ways] at hs'
    split at hs'
    · rename_i hat
      obtain rfl := List.mem_singleton.mp hs'
      exact ⟨Nat.le_succ _, lt_size_of_hasAt hat⟩
    · simp at hs'
  | anchor a =>
    intro s hs s' hs'
    rw [Node.ways] at hs'
    split at hs'
    · obtain rfl := List.mem_singleton.mp hs'
      exact ⟨Nat.le_refl _, hs⟩
    · simp at hs'
  | seq a b iha ihb => exact iha.flatMap ihb
  | alt a b iha ihb =>
    intro s hs s' hs'
    rcases List.mem_append.mp hs' with ha | hb
    · exact iha s hs s' ha
    · exact ihb s hs s' hb
  | group i body ih =>
    intro s hs s' hs'
    obtain ⟨inner, hinner, rfl⟩ := List.mem_map.mp hs'
    -- Opening and closing a group sets its span and leaves the place alone.
    exact ih (s.openGroup i) hs inner hinner
  | loop greed lo hi body ih => exact ih.loop greed lo hi
  | atomic body ih => exact ih.once
  | look dir negative body ih =>
    intro s hs s' hs'
    -- The body may go anywhere, even back: the place is restored after it.
    have hpos := Ways.pos_of_mem_look hs'
    omega
  | backref i fold =>
    intro s hs s' hs'
    rw [Node.ways] at hs'
    split at hs'
    · simp at hs'
    · split at hs'
      · rename_i hsame
        obtain rfl := List.mem_singleton.mp hs'
        -- Nothing is known of the span that is repeated, but its characters were found here.
        exact ⟨Nat.le_add_right _ _, add_le_size_of_sameAt hs hsame⟩
      · simp at hs'
  | cond i yes no ihy ihn =>
    intro s hs s' hs'
    rw [Node.ways] at hs'
    split at hs'
    · exact ihy s hs s' hs'
    · exact ihn s hs s' hs'

/-! ## Matches and searches -/

namespace Regex

/-- The match at an offset is the first way of the pattern there. -/
theorem matchAt_eq (r : Regex) (t : Text) (p : Nat) :
    r.matchAt t p = (r.node.ways t.toArray (r.initial p)).head?.map fun last => ⟨p, last⟩ := by
  unfold matchAt tryAt
  rw [r.node.run_tries, findSome?_some]

/-- A match at an offset starts there and ends in the text. -/
theorem matchAt_bounds {r : Regex} {t : Text} {p : Nat} {f : Found} (hp : p ≤ t.length)
    (h : r.matchAt t p = some f) : f.start = p ∧ p ≤ f.last.pos ∧ f.last.pos ≤ t.length := by
  rw [matchAt_eq] at h
  obtain ⟨last, hlast, rfl⟩ := Option.map_eq_some_iff.mp h
  have hmem := List.mem_of_mem_head? hlast
  have hways := r.node.ways_forward t.toArray (r.initial p) (by simpa [initial] using hp) last hmem
  exact ⟨rfl, hways.1, by simpa using hways.2⟩

/-- The first success in a row of numbers: at some number of the row, and at none before it. -/
theorem findSome?_range'_eq_some_iff {α : Type} {f : Nat → Option α} {a : α} {p n : Nat} :
    (List.range' p n).findSome? f = some a ↔
      ∃ q, p ≤ q ∧ q < p + n ∧ f q = some a ∧ ∀ q', p ≤ q' → q' < q → f q' = none := by
  induction n generalizing p with
  | zero =>
    simp only [List.range'_zero, List.findSome?_nil, reduceCtorEq, false_iff]
    rintro ⟨q, h1, h2, -⟩
    omega
  | succ n ih =>
    rw [List.range'_succ, List.findSome?_cons]
    cases hp : f p with
    | some b =>
      constructor
      · intro h
        exact ⟨p, Nat.le_refl p, by omega, by rw [hp]; exact h, fun q' h1 h2 => by omega⟩
      · rintro ⟨q, h1, -, hq, hfirst⟩
        -- The first success cannot lie after `p`, which is one.
        rcases Nat.eq_or_lt_of_le h1 with rfl | hlt
        · rw [← hq, hp]
        · have hnone := hfirst p (Nat.le_refl p) hlt
          simp [hp] at hnone
    | none =>
      dsimp only
      rw [ih]
      constructor
      · rintro ⟨q, h1, h2, hq, hfirst⟩
        refine ⟨q, by omega, by omega, hq, fun q' h3 h4 => ?_⟩
        rcases Nat.eq_or_lt_of_le h3 with rfl | hlt
        · exact hp
        · exact hfirst q' hlt h4
      · rintro ⟨q, h1, h2, hq, hfirst⟩
        have hne : q ≠ p := by
          rintro rfl
          simp [hp] at hq
        exact ⟨q, by omega, by omega, hq, fun q' h3 h4 => hfirst q' (by omega) h4⟩

/-- A search finds the match at the first offset that has one. -/
theorem searchFrom_eq_some_iff {r : Regex} {t : Text} {p : Nat} {f : Found} :
    r.searchFrom t p = some f ↔
      ∃ q, p ≤ q ∧ q ≤ t.length ∧ r.matchAt t q = some f ∧
        ∀ q', p ≤ q' → q' < q → r.matchAt t q' = none := by
  have hsearch : r.searchFrom t p = (List.range' p (t.length + 1 - p)).findSome? (r.matchAt t) := by
    simp only [searchFrom, List.size_toArray]
    rfl
  rw [hsearch, findSome?_range'_eq_some_iff]
  constructor
  · rintro ⟨q, h1, h2, hq⟩
    exact ⟨q, h1, by omega, hq⟩
  · rintro ⟨q, h1, h2, hq⟩
    exact ⟨q, h1, by omega, hq⟩

/-- A search fails exactly where no offset has a match. -/
theorem searchFrom_eq_none_iff {r : Regex} {t : Text} {p : Nat} :
    r.searchFrom t p = none ↔ ∀ q, p ≤ q → q ≤ t.length → r.matchAt t q = none := by
  simp only [searchFrom, List.findSome?_eq_none_iff, List.mem_range'_1, List.size_toArray]
  constructor
  · intro h q h1 h2
    exact h q ⟨h1, by omega⟩
  · rintro h q ⟨h1, h2⟩
    exact h q h1 (by omega)

end Regex

end TextScan
