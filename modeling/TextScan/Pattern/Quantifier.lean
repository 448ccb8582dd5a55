import TextScan.Pattern.Escape

/-!
# Quantifiers

The bounds of a repetition. Bounds between braces may leave out either number; braces that hold
anything else are no quantifier and stand for themselves.
-/

namespace TextScan

namespace Quantifier

/-- The least number of rounds that no quantifier may ask for. -/
def limit : Nat := 4294967295

/-- The greatest number of digits of a bound. -/
def digitLimit : Nat := 4300

/-- The value of a bound, or nothing if it was left out. -/
def bound? (digits : Text) : Compiled (Option Nat) :=
  if digits.isEmpty then .ok none
  else if digitLimit < digits.length then .error (.tooManyDigits digits.length)
  else if limit ≤ Escape.number 10 digits then .error .repetitionTooLarge
  else .ok (some (Escape.number 10 digits))

/-- Reads bounds between braces, of which the opening one at offset `pos` has been taken. Gives
nothing if the braces are no quantifier. -/
def readBounds (pos : Nat) (ts : List Token) :
    Compiled (Option (Nat × Option Nat) × List Token) :=
  match ts with
  | .plain '\x7d' _ :: _ => .ok (none, ts)
  | _ => do
    let (lo, rest) ← takeAll Unicode.isAsciiDigit ts
    let (comma, rest) ← takeChar ',' rest
    let (hi, rest) ← if comma then takeAll Unicode.isAsciiDigit rest else .ok (lo, rest)
    let (closed, rest) ← takeChar '\x7d' rest
    if !closed then .ok (none, ts)
    else do
      let least := (← bound? lo).getD 0
      let most ← bound? hi
      match most with
      | some m =>
        if m < least then malformedAt .boundsReversed (pos + 1) else .ok (some (least, most), rest)
      | none => .ok (some (least, none), rest)

end Quantifier

/-- Reads the bounds of the quantifier that starts with `c` at offset `pos`, or nothing if it is
none. -/
def readQuantifier (c : Char) (pos : Nat) (ts : List Token) :
    Compiled (Option (Nat × Option Nat) × List Token) :=
  match c with
  | '?' => .ok (some (0, some 1), ts)
  | '*' => .ok (some (0, none), ts)
  | '+' => .ok (some (1, none), ts)
  | _ => Quantifier.readBounds pos ts

/-- Reads the mark after a quantifier that says which number of rounds is tried first. -/
def readGreed (ts : List Token) : Compiled (Greed × List Token) := do
  let (lazily, ts) ← takeChar '?' ts
  if lazily then .ok (.lazy, ts)
  else do
    let (possessively, ts) ← takeChar '+' ts
    .ok (if possessively then .possessive else .greedy, ts)

end TextScan
