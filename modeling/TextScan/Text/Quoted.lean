import TextScan.Text.Basic
import TextScan.Unicode.Printable

/-!
# Quoted forms

How values are written in messages: a text between quotes with escapes, a list of groups between
parentheses, named groups between braces, a truth value as a capitalised word and a missing value
as `None`. The quote is the single one, unless the text holds a single quote and no double quote.
-/

namespace TextScan.Quoted

/-! ## Texts -/

/-- The lower-case hexadecimal digit for a value below sixteen. -/
def hexDigit (n : Nat) : Char := if n < 10 then Char.ofNat (48 + n) else Char.ofNat (87 + n)

/-- The last `width` hexadecimal digits of `n`. -/
def hex : (width : Nat) → (n : Nat) → Text
  | 0, _ => []
  | w + 1, n => hex w (n / 16) ++ [hexDigit (n % 16)]

/-- The quote for a text: single, unless the text has a single quote and no double one. -/
def quoteFor (t : Text) : Char :=
  if t.contains '\'' && !t.contains '"' then '"' else '\''

/-- A character between quotes `q`: the backslash and the quote are escaped, as is every character
that is not printable. -/
def escapeChar (q c : Char) : Text :=
  if c = q || c = '\\' then ['\\', c]
  else if c = '\n' then ['\\', 'n']
  else if c = '\r' then ['\\', 'r']
  else if c = '\t' then ['\\', 't']
  else if Unicode.isPrintable c then [c]
  else if c.toNat < 0x100 then '\\' :: 'x' :: hex 2 c.toNat
  else if c.toNat < 0x10000 then '\\' :: 'u' :: hex 4 c.toNat
  else '\\' :: 'U' :: hex 8 c.toNat

/-- The quoted form of a text, as a text. -/
def quote (t : Text) : Text :=
  let q := quoteFor t
  q :: t.flatMap (escapeChar q) ++ [q]

/-- The quoted form of a text. -/
def text (t : Text) : String := String.ofList (quote t)

/-- The quoted form of a name. -/
def name (s : String) : String := text s.toList

/-! ## Other values -/

/-- A missing value. -/
def missing : String := "None"

/-- A truth value. -/
def truth (b : Bool) : String := if b then "True" else "False"

/-- A text that may be missing. -/
def optionalText : Option Text → String
  | none => missing
  | some t => text t

/-- Items between parentheses; a single one is followed by a comma. -/
def tuple : List String → String
  | [] => "()"
  | [x] => "(" ++ x ++ ",)"
  | xs => "(" ++ String.intercalate ", " xs ++ ")"

/-- Named values between braces. -/
def mapping (entries : List (String × Option Text)) : String :=
  let entry := fun (e : String × Option Text) => name e.1 ++ ": " ++ optionalText e.2
  "\x7b" ++ String.intercalate ", " (entries.map entry) ++ "\x7d"

end TextScan.Quoted
