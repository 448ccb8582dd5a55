import TextScan.Engine.Basic
import TextScan.Location

/-!
# Scanners

A scanner is a text, a cursor in it and a register, which holds the last match or nothing. The
functions here do not use an engine: questions about the cursor and the register, reading
characters, and moving the cursor. Only those that say so change the scanner.

The cursor is an integer. With an engine that reports its matches truthfully it stays inside the
text; other engines can move it anywhere.
-/

namespace TextScan

/-- A text with a cursor and a register. -/
structure Scanner where
  /-- The text. -/
  text : Text
  /-- The cursor, an offset into the text. -/
  pos : Int := 0
  /-- The register: the last match, unless something has cleared it. -/
  last : Option Match := none
  deriving DecidableEq, Repr

namespace Scanner

/-- The number of characters of the text. -/
def length (s : Scanner) : Int := s.text.length

/-! ## The cursor -/

/-- Whether the cursor is at the start of the text. -/
def atStart (s : Scanner) : Bool := s.pos == 0

/-- Whether the cursor is at the end of the text. -/
def atEnd (s : Scanner) : Bool := s.pos == s.length

/-- Whether the character at an offset is a line end. -/
def isLineEnd (s : Scanner) (i : Int) : Except Fault Bool :=
  match s.text.charAt? i with
  | some c => .ok (c == Text.newline)
  | none => .error .noCharacter

/-- Whether the cursor is at the start of the text or after a line end. -/
def atLineStart (s : Scanner) : Except Fault Bool :=
  if s.pos = 0 then .ok true else s.isLineEnd (s.pos - 1)

/-- Whether the cursor is at the end of the text or before a line end. -/
def atLineEnd (s : Scanner) : Except Fault Bool :=
  if s.pos = s.length then .ok true else s.isLineEnd s.pos

/-- The text after the cursor. -/
def remainder (s : Scanner) : Text := s.text.sliceFrom s.pos

/-- The number of characters after the cursor. -/
def restSize (s : Scanner) : Int := s.length - s.pos

/-- The line and column of the cursor. -/
def location (s : Scanner) : Location := .ofOffset s.text s.pos

/-- The next `n` characters, of which there have to be enough. -/
def peek (s : Scanner) (n : Int) : Except Fault Text :=
  let stop := s.pos + n
  if n < 0 || s.length < stop then .error (.outOfRange stop s.length)
  else .ok (s.text.slice s.pos stop)

/-! ## Changes -/

/-- The scanner with an empty register. -/
def cleared (s : Scanner) : Scanner := { s with last := none }

/-- The scanner with the cursor at an offset and an empty register. -/
def movedTo (s : Scanner) (p : Int) : Scanner := { s with pos := p, last := none }

/-- Takes the next `n` characters, or nothing if there are not enough. The register is cleared in
any case. -/
def read (s : Scanner) (n : Int) : Except Fault (Option Text) × Scanner :=
  let s := s.cleared
  let stop := s.pos + n
  if n < 0 then
    (.error (.outOfRange n s.length (some s!"read length must not be negative, got {n}")), s)
  else if s.length < stop then (.ok none, s)
  else (.ok (some (s.text.slice s.pos stop)), { s with pos := stop })

/-- Moves the cursor, where a negative offset counts back from the end, and clears the register. -/
def setPosition (s : Scanner) (p : Int) : Except Fault Unit × Scanner :=
  let target := if p < 0 then p + s.length else p
  if target < 0 || s.length < target then (.error (.outOfRange p s.length), s)
  else (.ok (), s.movedTo target)

/-- Starts over. -/
def reset (s : Scanner) : Scanner := s.movedTo 0

/-- Moves the cursor to the end. -/
def terminate (s : Scanner) : Scanner := s.movedTo s.length

/-- Appends to the text; the cursor and the register stay. -/
def concat (s : Scanner) (more : Text) : Scanner := { s with text := s.text ++ more }

/-! ## The register -/

/-- The group of the last match that a key asks for; nothing if there is no match. -/
def groupAt (s : Scanner) (key : GroupKey) : Except Fault (Option Text) :=
  match s.last with
  | none => .ok none
  | some m => m.group key

/-- The groups of the last match that keys ask for; nothing as a whole if there is no match. -/
def groupsAt (s : Scanner) (keys : List GroupKey) : Except Fault (Option (List (Option Text))) :=
  match s.last with
  | none => .ok none
  | some m => (keys.mapM m.group).map some

/-- The groups of the last match. -/
def captures (s : Scanner) : Option (List (Option Text)) := s.last.map (·.groups)

/-- The named groups of the last match. -/
def namedCaptures (s : Scanner) : Option (List (String × Option Text)) := s.last.map (·.named)

/-- The text of the last match. -/
def matched (s : Scanner) : Option Text := s.last.map (·.value)

/-- The length of the last match. -/
def matchedSize (s : Scanner) : Option Int := s.last.map (·.length)

/-- The text before the last match. -/
def preMatch (s : Scanner) : Option Text := s.last.map fun m => s.text.sliceTo m.start

/-- The text after the last match. -/
def postMatch (s : Scanner) : Option Text := s.last.map fun m => s.text.sliceFrom m.stop

/-! ## The shown form -/

/-- How many characters are shown on each side of the cursor. -/
def shownContext : Int := 5

/-- The shown form of a scanner: the cursor and the characters around it, with dots where the text
goes on. -/
def render (s : Scanner) : String :=
  if s.length ≤ s.pos then "<Scanner fin>"
  else
    let dots : Text := ['.', '.', '.']
    let stop := s.pos + shownContext
    let after := s.text.slice s.pos stop ++ (if stop < s.length then dots else [])
    let start := max 0 (s.pos - shownContext)
    let before := (if 0 < start then dots else []) ++ s.text.slice start s.pos
    let place := s!"{s.pos}/{s.length}"
    if s.pos = 0 then s!"<Scanner {place} @ {Quoted.text after}>"
    else s!"<Scanner {place} {Quoted.text before} @ {Quoted.text after}>"

end Scanner

end TextScan
