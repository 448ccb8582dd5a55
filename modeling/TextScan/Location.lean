import TextScan.Text.Basic

/-!
# Locations

The line and column of an offset. Both count from one; the offset counts from zero. A line ends at
a newline character and at nothing else.
-/

namespace TextScan

/-- Where an offset lies in a text. -/
structure Location where
  /-- The line, counted from one. -/
  line : Int
  /-- The column within the line, counted from one. -/
  column : Int
  /-- The offset itself. -/
  offset : Int := 0
  deriving DecidableEq, Repr

namespace Location

/-- The location of offset `i` in `t`. The line ends counted are those before `i`, with `i` taken
as a slice bound; the column is measured from `i` itself. -/
def ofOffset (t : Text) (i : Int) : Location :=
  let before := t.sliceTo i
  { line := before.lineEnds + 1
    column := i - before.lastLineStart + 1
    offset := i }

/-- The short form `line:column` used in messages. -/
def label (l : Location) : String := s!"{l.line}:{l.column}"

/-- The full form, with every field named. -/
def render (l : Location) : String :=
  s!"SourceLocation(lineno={l.line}, col_offset={l.column}, offset={l.offset})"

end Location

end TextScan
