import TextScan.Pattern

/-!
# Log records

What is worth a record in the log: a pattern text that did not compile, and a match of an engine
that was rejected. Records go to named channels, all of them below one common channel.
-/

namespace TextScan

/-- Something worth a record. -/
inductive Event where
  /-- A pattern text broke the rules of patterns. -/
  | compileFailed (source : Text)
  /-- A match that starts at `start` is out of reach of the cursor. -/
  | rejected (reach : Reach) (start position : Int) (pattern : Pattern)

namespace Log

/-- The channel above all others. -/
def root : String := "strscanner"

/-- The full name of a channel: names that do not lie below the common channel are put there. -/
def channel (name : String) : String :=
  if name == root || (root ++ ".").isPrefixOf name then name else root ++ "." ++ name

end Log

namespace Event

/-- The channel of a record. -/
def channel : Event → String
  | .compileFailed _ => Log.channel "engine"
  | .rejected .. => Log.channel "scanner.core"

/-- The severity of every record. -/
def severity (_ : Event) : String := "DEBUG"

/-- Whether a record comes with the failure that led to it. -/
def traced : Event → Bool
  | .compileFailed _ => true
  | .rejected .. => false

/-- The wording of a record. -/
def message : Event → String
  | .compileFailed source => "Failed to compile pattern " ++ Quoted.text source
  | .rejected reach start position pattern =>
    let relation :=
      match reach with
      | .anchored => "for"
      | .ahead => "before"
    s!"Rejecting {reach.label} match at {start} {relation} cursor {position} " ++
      s!"(pattern {pattern.render})"

end Event

end TextScan
