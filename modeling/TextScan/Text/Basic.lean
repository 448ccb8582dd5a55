/-!
# Texts and offsets

A text is a list of characters, and every offset counts characters. Offsets are integers: a
negative one counts back from the end of the text. A slice clamps both of its bounds into the text,
so it is defined for all integers (`Text.slice`), while reading one character at an offset outside
the text gives nothing (`Text.charAt?`).
-/

namespace TextScan

/-- The characters of a text, in order. -/
abbrev Text := List Char

namespace Text

/-! ## Offsets -/

/-- The slice bound that `i` stands for in a text of `n` characters: a negative `i` counts back
from the end, and the result is clamped into the text. -/
def bound (n : Nat) (i : Int) : Nat :=
  if i < 0 then (i + n).toNat else min i.toNat n

/-- The characters from offset `i` up to offset `j`, with both taken as slice bounds. -/
def slice (t : Text) (i j : Int) : Text :=
  (t.take (bound t.length j)).drop (bound t.length i)

/-- The characters from offset `i` on. -/
def sliceFrom (t : Text) (i : Int) : Text := t.drop (bound t.length i)

/-- The characters before offset `i`. -/
def sliceTo (t : Text) (i : Int) : Text := t.take (bound t.length i)

/-- The character at offset `i`, where a negative `i` counts back from the end. -/
def charAt? (t : Text) (i : Int) : Option Char :=
  let k := if i < 0 then i + t.length else i
  if k < 0 then none else t[k.toNat]?

/-! ## Lines -/

/-- The character that ends a line. -/
def newline : Char := '\n'

/-- The number of line ends in the text. -/
def lineEnds (t : Text) : Nat := t.count newline

/-- The number of characters up to and including the last line end, or zero if there is none. -/
def lastLineStart (t : Text) : Nat := t.length - (t.reverse.takeWhile (· != newline)).length

end Text

end TextScan
