import TextScan.Unicode.Ranges

/-!
# Blanks

The characters that count as white space (Unicode 14): those with the property of that name and the
four information separators U+001C to U+001F. A zero-width space is not among them.
-/

namespace TextScan.Unicode

/-- The blanks of all scripts. -/
def blankRanges : Ranges :=
  [(0x9, 0xd), (0x1c, 0x20), (0x85, 0x85), (0xa0, 0xa0), (0x1680, 0x1680), (0x2000, 0x200a),
   (0x2028, 0x2029), (0x202f, 0x202f), (0x205f, 0x205f), (0x3000, 0x3000)]

/-- Whether `c` is white space. -/
def isBlank (c : Char) : Bool := blankRanges.has c.toNat

/-- Whether `c` is one of the six blanks of ASCII: space, tab, line feed, vertical tab, form feed
and carriage return. -/
def isAsciiBlank (c : Char) : Bool := c = ' ' || ('\t' ≤ c && c ≤ '\r')

end TextScan.Unicode
