import TextScan.Engine.Regex
import TextScan.Scanner.Step

/-!
# A walk through a timestamp

A sample that searches ahead, takes a date with named groups and looks at the register.
-/

namespace TextScan.Timestamp

/-- The text that is walked through. -/
def text : Text := "Timestamp: Fri Dec 12 1975 14:39".toList

/-- The date: the day, the month and the number of the day. -/
def date : Text := "(?P<day>\\w+) (?P<month>\\w+) (?P<date>\\d+) ".toList

/-- The two attempts of the walk. -/
def walk : List Op :=
  [.attempt .ahead .scan (.source [':', ' ']), .attempt .anchored .scan (.source date)]

/-- A text, or the word for a missing one. -/
def orMissing : Option Text → String
  | some t => String.ofList t
  | none => Quoted.missing

/-- What the walk prints: the named groups, and the texts before and after the date. -/
def report : String :=
  let (_, s, _) := Scanner.run (RegexEngine.engine {}) walk { text } {}
  let named := s.namedCaptures.elim Quoted.missing Quoted.mapping
  named ++ "\n" ++ orMissing s.preMatch ++ " | " ++ orMissing s.postMatch ++ "\n"

end TextScan.Timestamp
