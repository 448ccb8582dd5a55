import TextScan.Config
import TextScan.Scanner.Step

/-!
# Tokens of arithmetic expressions

A sample of how scanners are used: an expression is cut into numbers, names and operators. Blanks
are skipped; then each kind of token is tried in turn at the cursor, and the first that matches is
taken. Where none does, the character at the cursor and its location are reported.
-/

namespace TextScan.Arithmetic

/-- The kind of a token. -/
inductive Kind where
  /-- A decimal number. -/
  | number
  /-- A name. -/
  | name
  /-- An operator or a parenthesis. -/
  | op
  deriving DecidableEq, Repr

/-- The word for a kind. -/
def Kind.label : Kind → String
  | .number => "NUMBER"
  | .name => "NAME"
  | .op => "OP"

/-- The pattern of each kind, in the order in which they are tried. -/
def patterns : List (Kind × Text) :=
  [(.number, "\\d+(?:\\.\\d+)?".toList),
   (.name, "[A-Za-z_]\\w*".toList),
   (.op, "\\*\\*|[-+*/()]".toList)]

/-- The pattern of what is skipped between tokens. -/
def blanks : Text := "\\s+".toList

/-- A token: its kind and its text. -/
structure Lexeme where
  /-- The kind. -/
  kind : Kind
  /-- The text. -/
  value : Text
  deriving DecidableEq, Repr

/-- The shown form of a token. -/
def Lexeme.render (l : Lexeme) : String :=
  Quoted.tuple [Quoted.name l.kind.label, Quoted.text l.value]

/-- A character where no token starts. -/
structure Unexpected where
  /-- The character. -/
  value : Text
  /-- Where it is. -/
  location : Location
  deriving DecidableEq, Repr

/-- The wording of an unexpected character. -/
def Unexpected.message (u : Unexpected) : String :=
  s!"unexpected {Quoted.text u.value} at {u.location.label}"

/-- The engine used, which is that of the configuration that new scanners are made with if none has
been set. -/
def engine : Engine Cache := ({} : Config).regexEngine.engine

/-- Skips the blanks at the cursor. The pattern compiles, so the outcome is never a fault
(`Stands.attempt_ok`). -/
def skipBlanks (s : Scanner) (c : Cache) : Scanner × Cache :=
  (s.step engine (.attempt .anchored .skip (.source blanks)) c).2

/-- Tries a pattern text at the cursor, and takes what it matches. The patterns of tokens compile, so
for them nothing taken means that nothing matches (`Stands.scan`, `Stands.attempt_ok`). -/
def scan (p : Text) (s : Scanner) (c : Cache) : Option Text × Scanner × Cache :=
  let (outcome, s, c) := s.step engine (.attempt .anchored .scan (.source p)) c
  match outcome.result with
  | .ok (.text t) => (some t, s, c)
  | _ => (none, s, c)

/-- Takes a token of the first kind that matches at the cursor. -/
def takeFirst : List (Kind × Text) → Scanner → Cache → Option Lexeme × Scanner × Cache
  | [], s, c => (none, s, c)
  | (kind, p) :: rest, s, c =>
    match scan p s c with
    | (some value, s, c) => (some ⟨kind, value⟩, s, c)
    | (none, s, c) => takeFirst rest s c

/-- The character at the cursor, and where it is; nothing if there is no character to look at, which
is never so before the end of the text (`Stands.unexpected?_eq`). -/
def unexpected? (s : Scanner) : Option Unexpected :=
  (s.peek 1).toOption.map fun value => ⟨value, s.location⟩

/-- The tokens from the cursor on, at most `fuel` of them, and the character that ended them too
early. -/
def tokensFrom : (fuel : Nat) → Scanner → Cache → List Lexeme × Option Unexpected
  | 0, _, _ => ([], none)
  | fuel + 1, s, c =>
    let (s, c) := skipBlanks s c
    if s.atEnd then ([], none)
    else
      match takeFirst patterns s c with
      | (some lexeme, s, c) =>
        let (rest, stop) := tokensFrom fuel s c
        (lexeme :: rest, stop)
      | (none, s, _) => ([], unexpected? s)

/-- The tokens of an expression, and the character that ended them too early. A token takes at least
one character, so there are no more tokens than characters. -/
def tokenize (source : Text) : List Lexeme × Option Unexpected :=
  tokensFrom (source.length + 1) { text := source } {}

/-! ## As a program -/

/-- The expression used when none is given. -/
def sample : String := "2 ** (x + 3.5) / y"

/-- The expression that the words of a command line give. -/
def expression (words : List String) : String :=
  let joined := String.intercalate " " words
  if joined.isEmpty then sample else joined

/-- What is printed for a command line, and the character that ended it too early. -/
def report (words : List String) : String × Option Unexpected :=
  let (lexemes, stop) := tokenize (expression words).toList
  (String.join (lexemes.map fun l => l.render ++ "\n"), stop)

end TextScan.Arithmetic
