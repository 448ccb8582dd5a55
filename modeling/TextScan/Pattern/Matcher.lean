import TextScan.Pattern.Node

/-!
# Matching by backtracking

`Node.run` tries a pattern at a place of the text and hands every way in which it matches, in order
of preference, to a continuation, until the continuation accepts one. The state that is handed on is
the place reached and the spans of the groups set so far; both are values, so what an abandoned way
has set is forgotten with it.

A loop first takes the rounds it must. After those, a round may not start where the round before it
started, so a body that takes nothing ends the loop. As no round goes back, a loop has at most one
optional round for each place that is left, which bounds the recursion.
-/

namespace TextScan

/-- The offsets of the first character of a group and of the one after its last. -/
abbrev Span := Nat × Nat

/-- How far a match has got. -/
structure Progress where
  /-- The offset reached. -/
  pos : Nat
  /-- The spans of the groups, in order; a group that is not set has none. -/
  groups : List (Option Span)
  deriving DecidableEq, Repr

/-- What is tried after a part of a pattern has matched. -/
abbrev Continuation := Progress → Option Progress

/-! ## Anchors -/

/-- Whether the character at offset `p` exists and satisfies `f`. -/
def hasAt (text : Array Char) (p : Nat) (f : Char → Bool) : Bool := text[p]?.any f

/-- Whether the character before offset `p` exists and satisfies `f`. -/
def hasBefore (text : Array Char) (p : Nat) (f : Char → Bool) : Bool :=
  p != 0 && hasAt text (p - 1) f

/-- Whether an anchor holds at offset `p`. Word edges are about neighbouring characters, so an empty
text has none and has no other places either. -/
def Anchor.holds (text : Array Char) (p : Nat) : Anchor → Bool
  | .textStart => p == 0
  | .lineStart => p == 0 || hasBefore text p (· == '\n')
  | .textEnd => p == text.size
  | .lineEnd => p == text.size || hasAt text p (· == '\n')
  | .finalLineEnd => p == text.size || (p + 1 == text.size && hasAt text p (· == '\n'))
  | .wordEdge ascii =>
    text.size != 0 &&
      hasBefore text p (Category.word.has ascii) != hasAt text p (Category.word.has ascii)
  | .noWordEdge ascii =>
    text.size != 0 &&
      hasBefore text p (Category.word.has ascii) == hasAt text p (Category.word.has ascii)

/-! ## Groups -/

namespace Progress

/-- The span of a group, if it is set. -/
def span? (s : Progress) (group : Nat) : Option Span := (s.groups[group - 1]?).join

/-- What an earlier span of a group counts as once the group starts again at offset `p`: its end
stays, and it is unset if that lies before the new start. -/
def reopened (p : Nat) : Option Span → Option Span
  | some (_, stop) => if p ≤ stop then some (p, stop) else none
  | none => none

/-- The state after a group has started at the current place. -/
def openGroup (s : Progress) (group : Nat) : Progress :=
  { s with groups := s.groups.modify (group - 1) (reopened s.pos) }

/-- The state after a group that started at `start` has ended at the current place. -/
def closeGroup (s : Progress) (group start : Nat) : Progress :=
  { s with groups := s.groups.set (group - 1) (some (start, s.pos)) }

/-- The state at another place. -/
def moved (s : Progress) (p : Nat) : Progress := { s with pos := p }

end Progress

/-- Whether the `n` characters from offset `a` on agree with those from offset `p` on. -/
def sameAt (text : Array Char) (fold : Fold) (a p : Nat) : (n : Nat) → Bool
  | 0 => true
  | n + 1 =>
    match text[a]?, text[p]? with
    | some c, some d => fold.key c == fold.key d && sameAt text fold (a + 1) (p + 1) n
    | _, _ => false

/-! ## Loops -/

/-- A part of a pattern, as a function of the state before it and of what comes after it. -/
abbrev Attempt := Progress → Continuation → Option Progress

namespace Attempt

/-- Exactly `n` rounds. -/
def times (body : Attempt) : (n : Nat) → Attempt
  | 0, s, k => k s
  | n + 1, s, k => body s fun s => times body n s k

/-- Up to `n` rounds, as many as possible first. The last round started at `last`. -/
def greedily (body : Attempt) : (n : Nat) → (last : Option Nat) → Attempt
  | 0, _, s, k => k s
  | n + 1, last, s, k =>
    if last = some s.pos then k s
    else (body s fun s' => greedily body n (some s.pos) s' k).orElse fun _ => k s

/-- Up to `n` rounds, as few as possible first. The last round started at `last`. -/
def lazily (body : Attempt) : (n : Nat) → (last : Option Nat) → Attempt
  | 0, _, s, k => k s
  | n + 1, last, s, k =>
    (k s).orElse fun _ =>
      if last = some s.pos then none else body s fun s' => lazily body n (some s.pos) s' k

/-- Only the first way in which a part matches. -/
def once (body : Attempt) : Attempt := fun s k => (body s some).bind k

end Attempt

/-- The number of optional rounds of a loop that has taken its `lo` rounds and stands at offset `p`
of a text of `size` characters. -/
def optionalRounds (lo : Nat) (hi : Option Nat) (size p : Nat) : Nat :=
  match hi with
  | none => size - p + 1
  | some m => min (m - lo) (size - p + 1)

/-- A loop over a part of a pattern. -/
def Attempt.loop (size : Nat) (greed : Greed) (lo : Nat) (hi : Option Nat) (body : Attempt) :
    Attempt :=
  match greed with
  | .greedy => fun s k =>
    times body lo s fun s => greedily body (optionalRounds lo hi size s.pos) none s k
  | .lazy => fun s k =>
    times body lo s fun s => lazily body (optionalRounds lo hi size s.pos) none s k
  | .possessive => once fun s k =>
    times (once body) lo s fun s =>
      greedily (once body) (optionalRounds lo hi size s.pos) none s k

/-- A look-around condition: the part is tried at the right place, and the state goes on from where
it was. What the part has set is kept, unless the condition is that it does not match. -/
def Attempt.look (dir : Direction) (negative : Bool) (body : Attempt) : Attempt := fun s k =>
  let found :=
    match dir with
    | .ahead => body s some
    | .behind w => if s.pos < w.least then none else body (s.moved (s.pos - w.least)) some
  match negative, found with
  | false, some s' => k (s'.moved s.pos)
  | true, none => k s
  | _, _ => none

/-! ## Patterns -/

/-- Tries a pattern at the place of `s`, and `k` after each way in which it matches. -/
def Node.run (text : Array Char) : Node → Attempt
  | .empty, s, k => k s
  | .chars set, s, k => if hasAt text s.pos set.has then k (s.moved (s.pos + 1)) else none
  | .anchor a, s, k => if a.holds text s.pos then k s else none
  | .seq a b, s, k => a.run text s fun s => b.run text s k
  | .alt a b, s, k => (a.run text s k).orElse fun _ => b.run text s k
  | .group i body, s, k => body.run text (s.openGroup i) fun s' => k (s'.closeGroup i s.pos)
  | .loop greed lo hi body, s, k => Attempt.loop text.size greed lo hi (body.run text) s k
  | .atomic body, s, k => Attempt.once (body.run text) s k
  | .look dir negative body, s, k => Attempt.look dir negative (body.run text) s k
  | .backref i fold, s, k =>
    match s.span? i with
    | none => none
    | some (a, b) =>
      if sameAt text fold a s.pos (b - a) then k (s.moved (s.pos + (b - a))) else none
  | .cond i yes no, s, k =>
    if (s.span? i).isSome then yes.run text s k else no.run text s k

end TextScan
