import TextScan.Unicode.Blank
import TextScan.Unicode.Case
import TextScan.Unicode.Digit
import TextScan.Unicode.Word

/-!
# Sets of characters in patterns

What one character of the text is tested against: a literal, a class between brackets, a class
escape or the dot. All of them are a `CharSet`, a list of items that may be negated as a whole. When
case is ignored, a character is in the set if one of its variants is.
-/

namespace TextScan

/-- How letter case counts in a comparison. -/
inductive Fold where
  /-- Case matters. -/
  | exact
  /-- The case of ASCII letters is ignored. -/
  | ascii
  /-- The case of all letters is ignored. -/
  | full
  deriving DecidableEq, Repr

namespace Fold

/-- The code points that count as equal to `n`. -/
def variants : Fold → Nat → List Nat
  | .exact, n => [n]
  | .ascii, n => Unicode.asciiVariants n
  | .full, n => Unicode.variants n

/-- The representative that two characters are compared by in a repeated group. -/
def key : Fold → Char → Nat
  | .exact, c => c.toNat
  | .ascii, c => Unicode.asciiLowerCode c.toNat
  | .full, c => Unicode.lowerCode c.toNat

end Fold

/-- A named class of characters. -/
inductive Category where
  /-- The decimal digits. -/
  | digit
  /-- The white space. -/
  | blank
  /-- The letters, digits and the underscore. -/
  | word
  deriving DecidableEq, Repr

/-- Whether a character is in a category, of all scripts or of ASCII only. -/
def Category.has (ascii : Bool) : Category → Char → Bool
  | .digit, c => if ascii then Unicode.isAsciiDigit c else Unicode.isDecimal c
  | .blank, c => if ascii then Unicode.isAsciiBlank c else Unicode.isBlank c
  | .word, c => if ascii then Unicode.isAsciiWordChar c else Unicode.isWordChar c

/-- One item of a set. -/
inductive ClassItem where
  /-- A single code point. -/
  | code (n : Nat)
  /-- The code points from `lo` to `hi`. -/
  | range (lo hi : Nat)
  /-- The characters of a category, or those outside it. -/
  | category (k : Category) (negated : Bool)
  deriving DecidableEq, Repr

/-- Whether the item has the character `c`, whose variants are `codes`. -/
def ClassItem.has (ascii : Bool) (c : Char) (codes : List Nat) : ClassItem → Bool
  | .code n => codes.contains n
  | .range lo hi => codes.any fun n => lo ≤ n && n ≤ hi
  | .category k negated => k.has ascii c != negated

/-- A set of characters. -/
structure CharSet where
  /-- The items, of which one has to have the character. -/
  items : List ClassItem
  /-- Whether the characters outside the items are meant. -/
  negated : Bool := false
  /-- Whether categories are those of ASCII. -/
  ascii : Bool := false
  /-- How case counts. -/
  fold : Fold := .exact
  deriving DecidableEq, Repr

/-- Whether a character is in the set. -/
def CharSet.has (s : CharSet) (c : Char) : Bool :=
  let codes := s.fold.variants c.toNat
  s.items.any (·.has s.ascii c codes) != s.negated

/-- The set of all characters. -/
def CharSet.all : CharSet := { items := [], negated := true }

/-- The set of all characters but the line end. -/
def CharSet.allButNewline : CharSet := { items := [.code 10], negated := true }

end TextScan
