import TextScan.Pattern.Matcher

/-!
# The ways in which a pattern matches

`Node.run` hands the states in which a pattern can end to a continuation, one after the other, until
the continuation accepts one. `Node.ways` lists these states, in the same order, and
`Node.run_tries` shows that running a pattern is searching its list. Everything else about the
matcher is proved about the list, where a statement on what a pattern can do is one about members
and needs no continuation.

The list of a loop is finite for the reason that the loop ends: there are as many optional rounds as
`optionalRounds` says, and a round that starts where the one before it started is not taken. What a
round keeps, a loop keeps (`Ways.Keeps.loop`).
-/

namespace TextScan

/-- The states in which a part of a pattern can end, in order of preference, as a function of the
state before it. -/
abbrev Ways := Progress → List Progress

namespace Ways

/-! ## Loops -/

/-- The ways of exactly `n` rounds. -/
def times (body : Ways) : (n : Nat) → Ways
  | 0, s => [s]
  | n + 1, s => (body s).flatMap (times body n)

/-- The ways of up to `n` rounds, those with more rounds first. The last round started at `last`. -/
def greedily (body : Ways) : (n : Nat) → (last : Option Nat) → Ways
  | 0, _, s => [s]
  | n + 1, last, s =>
    if last = some s.pos then [s]
    else (body s).flatMap (greedily body n (some s.pos)) ++ [s]

/-- The ways of up to `n` rounds, those with fewer rounds first. The last round started at `last`. -/
def lazily (body : Ways) : (n : Nat) → (last : Option Nat) → Ways
  | 0, _, s => [s]
  | n + 1, last, s =>
    s :: if last = some s.pos then [] else (body s).flatMap (lazily body n (some s.pos))

/-- The first way only. -/
def once (body : Ways) : Ways := fun s => (body s).take 1

/-- The ways of a loop. -/
def loop (size : Nat) (greed : Greed) (lo : Nat) (hi : Option Nat) (body : Ways) : Ways :=
  match greed with
  | .greedy => fun s =>
    (times body lo s).flatMap fun s => greedily body (optionalRounds lo hi size s.pos) none s
  | .lazy => fun s =>
    (times body lo s).flatMap fun s => lazily body (optionalRounds lo hi size s.pos) none s
  | .possessive => once fun s =>
    (times (once body) lo s).flatMap fun s =>
      greedily (once body) (optionalRounds lo hi size s.pos) none s

/-- The one way of a look-around condition, if it holds. -/
def look (dir : Direction) (negative : Bool) (body : Ways) : Ways := fun s =>
  let found :=
    match dir with
    | .ahead => (body s).head?
    | .behind w => if s.pos < w.least then none else (body (s.moved (s.pos - w.least))).head?
  match negative, found with
  | false, some s' => [s'.moved s.pos]
  | true, none => [s]
  | _, _ => []

end Ways

/-- The ways in which a pattern matches at the place of a state. -/
def Node.ways (text : Array Char) : Node → Ways
  | .empty, s => [s]
  | .chars set, s => if hasAt text s.pos set.has then [s.moved (s.pos + 1)] else []
  | .anchor a, s => if a.holds text s.pos then [s] else []
  | .seq a b, s => (a.ways text s).flatMap (b.ways text)
  | .alt a b, s => a.ways text s ++ b.ways text s
  | .group i body, s => (body.ways text (s.openGroup i)).map (·.closeGroup i s.pos)
  | .loop greed lo hi body, s => Ways.loop text.size greed lo hi (body.ways text) s
  | .atomic body, s => Ways.once (body.ways text) s
  | .look dir negative body, s => Ways.look dir negative (body.ways text) s
  | .backref i fold, s =>
    match s.span? i with
    | none => []
    | some (a, b) =>
      if sameAt text fold a s.pos (b - a) then [s.moved (s.pos + (b - a))] else []
  | .cond i yes no, s => if (s.span? i).isSome then yes.ways text s else no.ways text s

/-- Taken lazily or greedily, the rounds of a loop have the same ways; only their order differs. -/
theorem Ways.mem_lazily {w : Ways} {n : Nat} {last : Option Nat} {s s' : Progress} :
    s' ∈ w.lazily n last s ↔ s' ∈ w.greedily n last s := by
  induction n generalizing last s with
  | zero => rfl
  | succ n ih =>
    rw [Ways.lazily, Ways.greedily]
    by_cases hlast : last = some s.pos
    · simp [hlast]
    · rw [if_neg hlast, if_neg hlast, List.mem_cons, List.mem_append, List.mem_flatMap,
        List.mem_flatMap, List.mem_singleton, or_comm]
      simp only [ih]

/-- A look-around condition ends in the state it started from, or where a way of its body from
another place has ended, back at the place of the start. -/
theorem Ways.of_mem_look {w : Ways} {dir : Direction} {negative : Bool} {s s' : Progress}
    (h : s' ∈ w.look dir negative s) :
    s' = s ∨ ∃ p, ∃ inner ∈ w (s.moved p), s' = inner.moved s.pos := by
  unfold Ways.look at h
  extract_lets found at h
  have hfound : ∀ inner, found = some inner → ∃ p, inner ∈ w (s.moved p) := by
    intro inner hinner
    cases dir with
    | ahead => exact ⟨s.pos, List.mem_of_mem_head? hinner⟩
    | behind width =>
      dsimp only [found] at hinner
      split at hinner
      · simp at hinner
      · exact ⟨_, List.mem_of_mem_head? hinner⟩
  clear_value found
  split at h
  · obtain rfl := List.mem_singleton.mp h
    obtain ⟨p, hp⟩ := hfound _ rfl
    exact Or.inr ⟨p, _, hp, rfl⟩
  · exact Or.inl (List.mem_singleton.mp h)
  · simp at h

/-! ## Properties that ways keep -/

/-- From a state with a property, every way ends in one. -/
def Ways.Keeps (P : Progress → Prop) (w : Ways) : Prop := ∀ s, P s → ∀ s' ∈ w s, P s'

namespace Ways.Keeps

variable {P : Progress → Prop} {w v : Ways}

/-- One part after another keeps what both keep. -/
theorem flatMap (hw : w.Keeps P) (hv : v.Keeps P) : Ways.Keeps P fun s => (w s).flatMap v := by
  intro s hs s' hs'
  obtain ⟨mid, hmid, hrest⟩ := List.mem_flatMap.mp hs'
  exact hv mid (hw s hs mid hmid) s' hrest

/-- Any number of rounds keeps what one round keeps. -/
theorem times (hw : w.Keeps P) (n : Nat) : (w.times n).Keeps P := by
  induction n with
  | zero =>
    intro s hs s' hs'
    obtain rfl : s' = s := by simpa [Ways.times] using hs'
    exact hs
  | succ n ih => exact hw.flatMap ih

/-- Rounds taken greedily keep what one round keeps. -/
theorem greedily (hw : w.Keeps P) (n : Nat) (last : Option Nat) : (w.greedily n last).Keeps P := by
  induction n generalizing last with
  | zero =>
    intro s hs s' hs'
    obtain rfl : s' = s := by simpa [Ways.greedily] using hs'
    exact hs
  | succ n ih =>
    intro s hs s' hs'
    rw [Ways.greedily] at hs'
    split at hs'
    · obtain rfl : s' = s := by simpa using hs'
      exact hs
    · rcases List.mem_append.mp hs' with hmore | hstop
      · exact hw.flatMap (ih (some s.pos)) s hs s' hmore
      · obtain rfl : s' = s := by simpa using hstop
        exact hs

/-- Keeping the first way only keeps what all ways keep. -/
theorem once (hw : w.Keeps P) : w.once.Keeps P := by
  intro s hs s' hs'
  exact hw s hs s' (List.mem_of_mem_take hs')

/-- A loop keeps what its body keeps. -/
theorem loop (hw : w.Keeps P) (size : Nat) (greed : Greed) (lo : Nat) (hi : Option Nat) :
    (w.loop size greed lo hi).Keeps P := by
  cases greed with
  | greedy =>
    apply (hw.times lo).flatMap
    intro s
    exact hw.greedily _ none s
  | lazy =>
    apply (hw.times lo).flatMap
    intro s hs s' hs'
    -- The order of the ways does not matter here.
    exact hw.greedily _ none s hs s' (Ways.mem_lazily.mp hs')
  | possessive =>
    apply Ways.Keeps.once
    apply (hw.once.times lo).flatMap
    intro s
    exact hw.once.greedily _ none s

end Ways.Keeps

/-! ## Running is searching -/

/-- An attempt tries a list of ways: it gives what the continuation makes of the first way that the
continuation accepts. -/
def Attempt.Tries (a : Attempt) (w : Ways) : Prop := ∀ s k, a s k = (w s).findSome? k

/-- Searching the ways of one part after another is searching those of the first part with the
search of the second as continuation. -/
theorem findSome?_flatMap {α β γ : Type} (l : List α) (f : α → List β) (k : β → Option γ) :
    (l.flatMap f).findSome? k = l.findSome? fun a => (f a).findSome? k := by
  induction l with
  | nil => rfl
  | cons a l ih =>
    rw [List.flatMap_cons, List.findSome?_append, ih, List.findSome?_cons]
    cases (f a).findSome? k <;> rfl

/-- The continuation that accepts everything is given the first way. -/
theorem findSome?_some {α : Type} (l : List α) : l.findSome? some = l.head? := by
  cases l <;> rfl

namespace Attempt

variable {body : Attempt} {w : Ways}

/-- A number of rounds tries the ways of that number of rounds. -/
theorem Tries.times (h : body.Tries w) (n : Nat) : (times body n).Tries (w.times n) := by
  induction n with
  | zero =>
    intro s k
    simp [Attempt.times, Ways.times]
  | succ n ih =>
    intro s k
    rw [Attempt.times, Ways.times, findSome?_flatMap, h]
    simp only [ih _ k]

/-- Rounds taken greedily try the ways in which they can be taken, in that order. -/
theorem Tries.greedily (h : body.Tries w) (n : Nat) (last : Option Nat) :
    (greedily body n last).Tries (w.greedily n last) := by
  induction n generalizing last with
  | zero =>
    intro s k
    simp [Attempt.greedily, Ways.greedily]
  | succ n ih =>
    intro s k
    rw [Attempt.greedily, Ways.greedily]
    by_cases hlast : last = some s.pos
    · simp [hlast]
    · -- After a round comes the search of the rounds that follow it, and if that fails, no round.
      rw [if_neg hlast, if_neg hlast, List.findSome?_append, findSome?_flatMap, h]
      simp only [ih _ _ k]
      simp [Option.orElse_eq_or]

/-- Rounds taken lazily try the ways in which they can be taken, in that order. -/
theorem Tries.lazily (h : body.Tries w) (n : Nat) (last : Option Nat) :
    (lazily body n last).Tries (w.lazily n last) := by
  induction n generalizing last with
  | zero =>
    intro s k
    simp [Attempt.lazily, Ways.lazily]
  | succ n ih =>
    intro s k
    rw [Attempt.lazily, Ways.lazily, List.findSome?_cons]
    by_cases hlast : last = some s.pos
    · rw [if_pos hlast, if_pos hlast]
      cases k s <;> rfl
    · rw [if_neg hlast, if_neg hlast, findSome?_flatMap, h]
      simp only [ih _ _ k]
      cases k s <;> rfl

/-- Only the first way of a part is handed on. -/
theorem Tries.once (h : body.Tries w) : (once body).Tries w.once := by
  intro s k
  rw [Attempt.once, h, findSome?_some]
  unfold Ways.once
  cases w s <;> simp

/-- A loop tries the ways of the loop. -/
theorem Tries.loop (h : body.Tries w) (size : Nat) (greed : Greed) (lo : Nat) (hi : Option Nat) :
    (loop size greed lo hi body).Tries (w.loop size greed lo hi) := by
  cases greed with
  | greedy =>
    intro s k
    simp only [Attempt.loop, Ways.loop, findSome?_flatMap, h.times lo s, h.greedily _ _ _ k]
  | lazy =>
    intro s k
    simp only [Attempt.loop, Ways.loop, findSome?_flatMap, h.times lo s, h.lazily _ _ _ k]
  | possessive =>
    -- The loop as a whole keeps its first way only, and so does each of its rounds.
    unfold Attempt.loop Ways.loop
    apply Tries.once
    intro s k
    simp only [findSome?_flatMap, h.once.times lo s, h.once.greedily _ _ _ k]

/-- A look-around condition tries its one way. -/
theorem Tries.look (h : body.Tries w) (dir : Direction) (negative : Bool) :
    (look dir negative body).Tries (w.look dir negative) := by
  intro s k
  -- Both sides look at the first way at the same place.
  have hfirst : ∀ s, body s some = (w s).head? := by
    intro s
    rw [h, findSome?_some]
  unfold Attempt.look Ways.look
  cases dir with
  | ahead =>
    simp only [hfirst]
    -- What is left is a table over whether a way was found and whether one should be.
    cases negative <;> cases (w s).head? <;> simp
  | behind width =>
    simp only [hfirst]
    generalize (if s.pos < width.least then none
      else (w (s.moved (s.pos - width.least))).head?) = found
    cases negative <;> cases found <;> simp

end Attempt

/-- Running a pattern is searching the list of its ways. -/
theorem Node.run_tries (text : Array Char) (n : Node) : (n.run text).Tries (n.ways text) := by
  induction n with
  | empty =>
    intro s k
    simp [Node.run, Node.ways]
  | chars set =>
    intro s k
    simp only [Node.run, Node.ways]
    split <;> simp
  | anchor a =>
    intro s k
    simp only [Node.run, Node.ways]
    split <;> simp
  | seq a b iha ihb =>
    intro s k
    simp only [Node.run, Node.ways, findSome?_flatMap, iha s, ihb _ k]
  | alt a b iha ihb =>
    intro s k
    simp only [Node.run, Node.ways, List.findSome?_append, iha s, ihb s]
    simp [Option.orElse_eq_or]
  | group i body ih =>
    intro s k
    simp only [Node.run, Node.ways, List.findSome?_map, ih _]
    rfl
  | loop greed lo hi body ih =>
    intro s k
    rw [Node.run, Node.ways, ih.loop]
  | atomic body ih =>
    intro s k
    rw [Node.run, Node.ways, ih.once]
  | look dir negative body ih =>
    intro s k
    rw [Node.run, Node.ways, ih.look]
  | backref i fold =>
    intro s k
    simp only [Node.run, Node.ways]
    cases s.span? i with
    | none => rfl
    | some span =>
      dsimp only
      split <;> simp
  | cond i yes no ihy ihn =>
    intro s k
    simp only [Node.run, Node.ways]
    split
    · exact ihy s k
    · exact ihn s k

end TextScan
