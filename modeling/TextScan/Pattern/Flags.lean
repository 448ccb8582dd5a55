/-!
# Flags of patterns

The switches that change how a pattern is read or what it matches. Callers pass them as an integer
mask, one bit for each flag; a pattern may also turn them on and off itself, by letters.
-/

namespace TextScan

/-- A set of flags. -/
structure Flags where
  /-- No repetition may occur in the pattern. -/
  template : Bool := false
  /-- Letters match in either case. -/
  ignoreCase : Bool := false
  /-- Classes depend on the locale; no pattern over characters accepts this flag. -/
  locale : Bool := false
  /-- The anchors `^` and `$` also match at line ends. -/
  multiline : Bool := false
  /-- A dot also matches a line end. -/
  dotAll : Bool := false
  /-- Classes and case are those of all scripts; this is the default. -/
  unicode : Bool := false
  /-- Blanks and comments in the pattern are ignored. -/
  verbose : Bool := false
  /-- Classes and case are those of ASCII. -/
  ascii : Bool := false
  deriving DecidableEq, Repr

namespace Flags

/-! ## Masks -/

/-- Whether bit `k` of a mask is set. -/
def bit (mask : Int) (k : Nat) : Bool := mask / Int.pow 2 k % 2 == 1

/-- Whether a mask fits into a signed word of 32 bits. -/
def fits (mask : Int) : Bool := -0x80000000 ≤ mask && mask < 0x80000000

/-- The flags that a mask stands for; other bits are ignored. -/
def ofMask (mask : Int) : Flags where
  template := bit mask 0
  ignoreCase := bit mask 1
  locale := bit mask 2
  multiline := bit mask 3
  dotAll := bit mask 4
  unicode := bit mask 5
  verbose := bit mask 6
  ascii := bit mask 8

/-- The mask with bit `k` set if `on` holds. -/
def setBit (on : Bool) (k : Nat) (mask : Int) : Int :=
  if on && !bit mask k then mask + Int.pow 2 k else mask

/-- The mask with the bits of all flags in the set added. -/
def addTo (f : Flags) (mask : Int) : Int :=
  setBit f.template 0 <| setBit f.ignoreCase 1 <| setBit f.locale 2 <| setBit f.multiline 3 <|
    setBit f.dotAll 4 <| setBit f.unicode 5 <| setBit f.verbose 6 <| setBit f.ascii 8 mask

/-! ## Sets -/

/-- The flags in either set. -/
def union (f g : Flags) : Flags where
  template := f.template || g.template
  ignoreCase := f.ignoreCase || g.ignoreCase
  locale := f.locale || g.locale
  multiline := f.multiline || g.multiline
  dotAll := f.dotAll || g.dotAll
  unicode := f.unicode || g.unicode
  verbose := f.verbose || g.verbose
  ascii := f.ascii || g.ascii

/-- The flags in the first set and not in the second. -/
def without (f g : Flags) : Flags where
  template := f.template && !g.template
  ignoreCase := f.ignoreCase && !g.ignoreCase
  locale := f.locale && !g.locale
  multiline := f.multiline && !g.multiline
  dotAll := f.dotAll && !g.dotAll
  unicode := f.unicode && !g.unicode
  verbose := f.verbose && !g.verbose
  ascii := f.ascii && !g.ascii

/-- The flags that choose between alphabets, of which at most one may be on. -/
def alphabet (f : Flags) : Flags :=
  { locale := f.locale, unicode := f.unicode, ascii := f.ascii }

/-- Whether no flag is in the set. -/
def isEmpty (f : Flags) : Bool := f == {}

/-- Whether the sets have a flag in common. -/
def meets (f g : Flags) : Bool := f.without g != f

/-- The flags inside a group that adds some and removes others. A group that chooses an alphabet
replaces the choice made outside. -/
def within (f added removed : Flags) : Flags :=
  let base := if added.alphabet.isEmpty then f else f.without f.alphabet
  (added.union base).without removed

/-- The flag that a letter in a pattern stands for. -/
def ofLetter? : Char → Option Flags
  | 't' => some { template := true }
  | 'i' => some { ignoreCase := true }
  | 'L' => some { locale := true }
  | 'm' => some { multiline := true }
  | 's' => some { dotAll := true }
  | 'u' => some { unicode := true }
  | 'x' => some { verbose := true }
  | 'a' => some { ascii := true }
  | _ => none

/-! ## Names -/

/-- The shown names of the bits of a mask, in rising order. The default alphabet is not shown, and
bits without a name are shown together as a hexadecimal number. -/
def shownNames (mask : Nat) : List String :=
  let f := ofMask mask
  let quiet := f.unicode && !f.ascii && !f.locale
  let pick := fun (on : Bool) (name : String) => if on then [name] else []
  let debug := bit mask 7
  let rest := mask - (setBit debug 7 (f.addTo 0)).toNat
  pick f.template "re.TEMPLATE" ++ pick f.ignoreCase "re.IGNORECASE" ++
    pick f.locale "re.LOCALE" ++ pick f.multiline "re.MULTILINE" ++ pick f.dotAll "re.DOTALL" ++
    pick (f.unicode && !quiet) "re.UNICODE" ++ pick f.verbose "re.VERBOSE" ++
    pick debug "re.DEBUG" ++ pick f.ascii "re.ASCII" ++
    pick (rest != 0) ("0x" ++ String.ofList (Nat.toDigits 16 rest))

end Flags

end TextScan
