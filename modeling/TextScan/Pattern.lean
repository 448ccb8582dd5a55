import TextScan.Pattern.Regex

/-!
# Patterns as callers give them

A caller gives a pattern as a text, to be compiled under the flags of an engine, or as a compiled
pattern, whose own flags count. It is tried at the cursor only, or from the cursor on.
-/

namespace TextScan

/-- A pattern as a caller gives it. -/
inductive Pattern where
  /-- A text to be compiled. -/
  | source (t : Text)
  /-- A compiled pattern. -/
  | compiled (r : Regex)

/-- The quoted form of a pattern. -/
def Pattern.render : Pattern → String
  | .source t => Quoted.text t
  | .compiled r => r.render

/-- Where a match may start. -/
inductive Reach where
  /-- At the cursor. -/
  | anchored
  /-- At the cursor or after it. -/
  | ahead
  deriving DecidableEq, Repr

namespace Reach

/-- The name of a reach in messages. -/
def label : Reach → String
  | .anchored => "anchored"
  | .ahead => "search-ahead"

/-- Whether a match that starts at `start` is within reach of the cursor `pos`. -/
def allows (pos start : Int) : Reach → Bool
  | .anchored => start == pos
  | .ahead => pos ≤ start

end Reach

end TextScan
