import TextScan.Match
import TextScan.Pattern.Defect

/-!
# Faults

A match that fails is no fault. A fault is a mistake of a caller, a pattern that does not compile,
or an engine that does not keep to its rules. `Fault.message` is the wording of each, and
`Fault.kind` what a caller can tell it by. Kinds are related: a fault of one kind may also be one of
a more general kind (`FaultKind.isA`).
-/

namespace TextScan

/-- What a caller gave in place of a valid pattern. -/
inductive Culprit where
  /-- A text. -/
  | source (t : Text)
  /-- A number. -/
  | number (i : Int)
  /-- Nothing. -/
  | missing
  deriving DecidableEq, Repr

/-- The quoted form of a culprit. -/
def Culprit.render : Culprit → String
  | .source t => Quoted.text t
  | .number i => toString i
  | .missing => Quoted.missing

/-- Why a call could not be carried out. -/
inductive Fault where
  /-- A fault of no particular kind. -/
  | general (message : String)
  /-- An offset or a length does not fit the text; `note` replaces the default wording. -/
  | outOfRange (value length : Int) (note : Option String := none)
  /-- A match has no group with this key. -/
  | unknownGroup (key : GroupKey)
  /-- A pattern breaks the rules of patterns. -/
  | badPattern (culprit : Culprit) (reason : String)
  /-- An engine returned a match outside the window it was asked about. -/
  | contract (operation : String) (position start : Int)
  /-- A pattern or its flags were refused for a reason outside the rules of patterns. -/
  | refused (reason : CompileError)
  /-- An engine failed by itself. -/
  | engine (message : String)
  /-- A character was asked for at an offset where the text has none. -/
  | noCharacter
  /-- A field of a value that never changes was to be changed. -/
  | frozen (field : String)
  /-- An operation has no implementation. -/
  | unsupported
  deriving DecidableEq, Repr

/-- The wording of a refusal. -/
def CompileError.message : CompileError → String
  | .malformed d _ => d.text
  | .repetitionTooLarge => "the repetition number is too large"
  | .tooManyDigits n =>
    s!"Exceeds the limit (4300 digits) for integer string conversion: value has {n} digits; " ++
      "use sys.set_int_max_str_digits() to increase the limit"
  | .localeFlag => "cannot use LOCALE flag with a str pattern"
  | .alphabetConflict => "ASCII and UNICODE flags are incompatible"
  | .flagsTooLarge => "Python int too large to convert to C int"

/-- The default wording for an offset that does not fit. -/
def outOfRangeText (value length : Int) : String :=
  s!"index {value} out of range for text of length {length}"

/-- The wording of a fault. -/
def Fault.message : Fault → String
  | .general m => m
  | .outOfRange value length note =>
    match note with
    | some m => if m.isEmpty then outOfRangeText value length else m
    | none => outOfRangeText value length
  | .unknownGroup (.index i) => s!"Unknown group index {i}"
  | .unknownGroup (.name s) => s!"Unknown named group {Quoted.name s}"
  | .badPattern culprit reason => s!"Invalid pattern {culprit.render}: {reason}"
  | .contract operation position start =>
    s!"Match engine returned {operation} match starting at {start} " ++
      s!"for cursor position {position}"
  | .refused reason => reason.message
  | .engine m => m
  | .noCharacter => "string index out of range"
  | .frozen field => "cannot assign to field " ++ Quoted.name field
  | .unsupported => ""

/-! ## Kinds -/

/-- The kinds of faults, without the numbers and texts that they carry. -/
inductive FaultKind where
  /-- A fault of the scanner, of no particular kind. -/
  | general
  /-- An offset or a length that does not fit. -/
  | range
  /-- A group that a match does not have. -/
  | group
  /-- A pattern that breaks the rules of patterns. -/
  | pattern
  /-- A match that an engine may not return. -/
  | contract
  /-- A value that is refused. -/
  | value
  /-- A number that is too large. -/
  | overflow
  /-- Something that is not where it was looked for. -/
  | lookup
  /-- A character that the text does not have. -/
  | character
  /-- A field that cannot be changed. -/
  | frozen
  /-- An operation without an implementation. -/
  | unsupported
  deriving DecidableEq, Repr

namespace FaultKind

/-- The name of a kind. -/
def name : FaultKind → String
  | .general => "ScannerError"
  | .range => "OutOfRangeError"
  | .group => "UnknownGroupError"
  | .pattern => "PatternError"
  | .contract => "EngineContractError"
  | .value => "ValueError"
  | .overflow => "OverflowError"
  | .lookup => "LookupError"
  | .character => "IndexError"
  | .frozen => "FrozenInstanceError"
  | .unsupported => "NotImplementedError"

/-- The kinds that a kind is directly a special case of. -/
def bases : FaultKind → List FaultKind
  | .range => [.general, .character]
  | .group => [.general, .lookup]
  | .pattern | .contract => [.general]
  | .character => [.lookup]
  | _ => []

/-- Whether a fault of the first kind is also one of the second. No kind is more than two special
cases away from another, so these are followed twice (`FaultKind.isA_iff`). -/
def isA (k l : FaultKind) : Bool :=
  k == l || k.bases.any fun base => base == l || base.bases.contains l

end FaultKind

/-- The kind of a fault. -/
def Fault.kind : Fault → FaultKind
  | .general _ => .general
  | .outOfRange .. => .range
  | .unknownGroup _ => .group
  | .badPattern .. => .pattern
  | .contract .. => .contract
  | .refused .repetitionTooLarge | .refused .flagsTooLarge => .overflow
  | .refused _ | .engine _ => .value
  | .noCharacter => .character
  | .frozen _ => .frozen
  | .unsupported => .unsupported

/-! ## Patterns and groups -/

/-- The fault of a pattern text that does not compile. -/
def CompileError.toFault (source : Text) : CompileError → Fault
  | .malformed d pos => .badPattern (.source source) (d.report source pos)
  | e => .refused e

/-- Whether the rules of patterns were broken, as opposed to a refusal for another reason. -/
def CompileError.isMalformed : CompileError → Bool
  | .malformed .. => true
  | _ => false

/-- The group that a key asks for. -/
def Match.group (m : Match) (key : GroupKey) : Except Fault (Option Text) :=
  match m.group? key with
  | some g => .ok g
  | none => .error (.unknownGroup key)

end TextScan
