/-!
# Sets of code points as ranges

A property of characters is stored as a list of closed ranges in rising order. `Ranges.has` stops
at the first range that lies above the code point it is asked about.
-/

namespace TextScan.Unicode

/-- Closed ranges of code points, in rising order. -/
abbrev Ranges := List (Nat × Nat)

namespace Ranges

/-- The range that contains `n`, if there is one. -/
def find? : Ranges → Nat → Option (Nat × Nat)
  | [], _ => none
  | (lo, hi) :: rest, n =>
    if n < lo then none
    else if n ≤ hi then some (lo, hi)
    else find? rest n

/-- Whether one of the ranges contains `n`. -/
def has (r : Ranges) (n : Nat) : Bool := (r.find? n).isSome

end Ranges

end TextScan.Unicode
