import TextScan.Pattern.Token
import TextScan.Unicode.Letter
import TextScan.Unicode.Name

/-!
# Escapes

What a backslash and the characters after it stand for, between brackets (`readClassEscape`) and
elsewhere (`readEscape`). Elsewhere an escape may also be an anchor or a reference to a group; a
number is a reference unless it starts with zero or has three octal digits.
-/

namespace TextScan

/-- What an escape outside brackets stands for. -/
inductive Escape where
  /-- A code point or a category of characters. -/
  | item (i : ClassItem)
  /-- The start of the text. -/
  | textStart
  /-- The end of the text. -/
  | textEnd
  /-- A word edge. -/
  | wordEdge
  /-- A place that is no word edge. -/
  | noWordEdge
  /-- The text of a numbered group. -/
  | reference (group : Nat)
  deriving DecidableEq, Repr

namespace Escape

/-! ## Digits -/

/-- The value of a hexadecimal digit; zero for other characters. -/
def hexValue (c : Char) : Nat :=
  if '0' ≤ c && c ≤ '9' then c.toNat - 48
  else if 'a' ≤ c && c ≤ 'f' then c.toNat - 87
  else if 'A' ≤ c && c ≤ 'F' then c.toNat - 55
  else 0

/-- Whether a character is a hexadecimal digit. -/
def isHex (c : Char) : Bool :=
  ('0' ≤ c && c ≤ '9') || ('a' ≤ c && c ≤ 'f') || ('A' ≤ c && c ≤ 'F')

/-- Whether a character is an octal digit. -/
def isOctal (c : Char) : Bool := '0' ≤ c && c ≤ '7'

/-- The number that digits in a base stand for. -/
def number (base : Nat) (digits : Text) : Nat :=
  digits.foldl (fun n c => n * base + hexValue c) 0

/-! ## Single escapes -/

/-- The code point of an escaped control character or backslash. -/
def control? : Char → Option Nat
  | 'a' => some 7
  | 'b' => some 8
  | 't' => some 9
  | 'n' => some 10
  | 'v' => some 11
  | 'f' => some 12
  | 'r' => some 13
  | '\\' => some 92
  | _ => none

/-- The category that a letter stands for; a capital stands for the characters outside it. -/
def category? : Char → Option ClassItem
  | 'd' => some (.category .digit false)
  | 'D' => some (.category .digit true)
  | 's' => some (.category .blank false)
  | 'S' => some (.category .blank true)
  | 'w' => some (.category .word false)
  | 'W' => some (.category .word true)
  | _ => none

/-- The number of hexadecimal digits that follow a letter. -/
def hexCount? : Char → Option Nat
  | 'x' => some 2
  | 'u' => some 4
  | 'U' => some 8
  | _ => none

/-! ## Escapes with more characters -/

/-- Reads a code point written with `count` hexadecimal digits. -/
def readHex (c : Char) (count pos : Nat) (ts : List Token) : Compiled (Nat × List Token) := do
  let (digits, rest) ← takeUpTo isHex count ts
  let escape := '\\' :: c :: digits
  if digits.length ≠ count then malformedAt (.incompleteEscape escape) pos
  else if 0x10ffff < number 16 digits then malformedAt (.badEscape escape) pos
  else .ok (number 16 digits, rest)

/-- Reads a character given by its name. -/
def readNamed (size pos : Nat) (ts : List Token) : Compiled (Nat × List Token) := do
  let (opened, ts) ← takeChar '\x7b' ts
  if !opened then malformedAt .missingBrace (tell size ts)
  let (name, rest) ← takeName '\x7d' .missingCharacterName (tell size ts) [] ts
  match Unicode.named? name with
  | some code => .ok (code, rest)
  | none => malformedAt (.undefinedCharacter name) pos

/-- The code point of octal digits, unless it is too large. -/
def octal (digits : Text) (pos : Nat) (rest : List Token) : Compiled (Nat × List Token) :=
  if 0o377 < number 8 digits then malformedAt (.octalTooLarge ('\\' :: digits)) pos
  else .ok (number 8 digits, rest)

/-- An escaped character that stands for itself, which ASCII letters and digits do not. -/
def itself (c : Char) (pos : Nat) (rest : List Token) : Compiled (Nat × List Token) :=
  if Unicode.isAsciiLetter c || Unicode.isAsciiDigit c then malformedAt (.badEscape ['\\', c]) pos
  else .ok (c.toNat, rest)

end Escape

open Escape

/-- Reads an escape between brackets, where `c` follows the backslash at offset `pos`. -/
def readClassEscape (size : Nat) (c : Char) (pos : Nat) (ts : List Token) :
    Compiled (ClassItem × List Token) :=
  match control? c, category? c, hexCount? c with
  | some n, _, _ => .ok (.code n, ts)
  | _, some i, _ => .ok (i, ts)
  | _, _, some count => (readHex c count pos ts).map fun r => (.code r.1, r.2)
  | none, none, none =>
    let code : Compiled (Nat × List Token) :=
      if c = 'N' then readNamed size pos ts
      else if isOctal c then do
        let (digits, rest) ← takeUpTo isOctal 2 ts
        octal (c :: digits) pos rest
      else itself c pos ts
    code.map fun r => (.code r.1, r.2)

/-- Reads a number after a backslash that does not start with zero. -/
def readNumber (c : Char) (pos : Nat) (ts : List Token) : Compiled (Escape × List Token) := do
  let (second, ts) ← takeUpTo Unicode.isAsciiDigit 1 ts
  let (third, ts) ←
    if isOctal c && !second.isEmpty && second.all isOctal then takeUpTo isOctal 1 ts
    else .ok ([], ts)
  if third.isEmpty then .ok (.reference (number 10 (c :: second)), ts)
  else (octal (c :: second ++ third) pos ts).map fun r => (.item (.code r.1), r.2)

/-- Reads an escape outside brackets, where `c` follows the backslash at offset `pos`. -/
def readEscape (size : Nat) (c : Char) (pos : Nat) (ts : List Token) :
    Compiled (Escape × List Token) :=
  match c with
  | 'A' => .ok (.textStart, ts)
  | 'Z' => .ok (.textEnd, ts)
  | 'b' => .ok (.wordEdge, ts)
  | 'B' => .ok (.noWordEdge, ts)
  | '0' => do
    let (digits, rest) ← takeUpTo isOctal 2 ts
    .ok (.item (.code (number 8 digits)), rest)
  | _ =>
    if Unicode.isAsciiDigit c then readNumber c pos ts
    else (readClassEscape size c pos ts).map fun r => (.item r.1, r.2)

end TextScan
