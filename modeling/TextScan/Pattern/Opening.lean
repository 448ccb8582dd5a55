import TextScan.Pattern.Flags
import TextScan.Pattern.Token
import TextScan.Unicode.Blank
import TextScan.Unicode.Digit
import TextScan.Unicode.Identifier
import TextScan.Unicode.Letter

/-!
# What an opening parenthesis starts

The characters after an opening parenthesis say what it is: a group of some kind, a comment, a
reference to a named group or flags for the whole pattern (`readOpening`). Whether the names and
numbers in it make sense depends on the groups around it and is not decided here.
-/

namespace TextScan

/-- What an opening parenthesis starts. A name comes with its offset. -/
inductive Opening where
  /-- A group that is remembered, with its name if it has one. -/
  | capture (name : Option (Text × Nat))
  /-- A group that is not remembered, with the flags it adds and removes. -/
  | plain (added removed : Flags)
  /-- A group that matches in its first way only. -/
  | atomic
  /-- A condition on the characters after or before the current place. -/
  | look (behind negative : Bool)
  /-- A choice that depends on a group, given by a name or a number. -/
  | condition (group : Text) (pos : Nat)
  /-- The text of a named group once more; the closing parenthesis has been taken. -/
  | reference (name : Text) (pos : Nat)
  /-- Flags for the whole pattern; the closing parenthesis has been taken. -/
  | globalFlags (flags : Flags)
  /-- A comment, which has been taken to its end. -/
  | comment

namespace Opening

/-! ## Comments and names -/

/-- Takes the rest of a line, its end included. -/
def skipLine : List Token → Compiled (List Token)
  | [] => .ok []
  | t :: ts => do
    ready ts
    if t.is '\n' then .ok ts else skipLine ts

/-- Takes a comment that was opened at offset `start`, up to its closing parenthesis. -/
def skipComment (start : Nat) : List Token → Compiled (List Token)
  | [] => malformedAt .unterminatedComment start
  | t :: ts => do
    ready ts
    if t.is ')' then .ok ts else skipComment start ts

/-- Takes the name of a group up to `close`; it has to be an identifier. -/
def takeIdentifier (size : Nat) (close : Char) (ts : List Token) :
    Compiled ((Text × Nat) × List Token) := do
  let pos := tell size ts
  let (name, rest) ← takeName close .missingGroupName pos [] ts
  if Unicode.isIdentifier name then .ok ((name, pos), rest)
  else malformedAt (.badGroupName name) pos

/-! ## Flags -/

/-- The defect of a character that is no flag: a letter is an unknown flag, and anything else means
that the list should have ended. -/
def notFlag (t : Token) (missing : Defect) : Defect :=
  match t with
  | .plain c _ => if Unicode.isLetter c then .unknownFlag else missing
  | _ => missing

/-- Takes letters of flags to add, and the character that ends them. -/
def takeAdded (size : Nat) (added : Flags) :
    List Token → Compiled ((Flags × Token) × List Token)
  | [] => malformedAt .missingFlagEnd size
  | t :: ts => do
    ready ts
    if t.is ')' || t.is '-' || t.is ':' then .ok ((added, t), ts)
    else
      match t with
      | .plain c _ =>
        match Flags.ofLetter? c with
        | some f =>
          let sum := added.union f
          if f.locale then malformedAt .localeLetter t.stop
          else if !f.alphabet.isEmpty && sum.alphabet != f then malformedAt .alphabetsClash t.stop
          else takeAdded size sum ts
        | none => malformedAt (notFlag t .missingFlagEnd) t.pos
      | _ => malformedAt (notFlag t .missingFlagEnd) t.pos

/-- Takes letters of flags to remove, and the colon that ends them. At least one is needed;
`missing` is the defect if none or no more follows. -/
def takeRemoved (size : Nat) (missing : Defect) (removed : Flags) :
    List Token → Compiled ((Flags × Token) × List Token)
  | [] => malformedAt missing size
  | t :: ts => do
    ready ts
    if t.is ':' && missing == .missingColon then .ok ((removed, t), ts)
    else
      match t with
      | .plain c _ =>
        match Flags.ofLetter? c with
        | some f =>
          if !f.alphabet.isEmpty then malformedAt .alphabetRemoved t.stop
          else takeRemoved size .missingColon (removed.union f) ts
        | none => malformedAt (notFlag t missing) t.pos
      | _ => malformedAt (notFlag t missing) t.pos

/-- Reads flags that are added, removed or both, for a group or for the whole pattern. -/
def readFlags (size : Nat) (ts : List Token) : Compiled (Opening × List Token) := do
  let ((added, last), ts) ← takeAdded size {} ts
  if last.is ')' then .ok (.globalFlags added, ts)
  else if added.template then malformedAt .globalFlagAdded last.pos
  else if last.is ':' then .ok (.plain added {}, ts)
  else do
    let ((removed, last), ts) ← takeRemoved size .missingFlag {} ts
    if removed.template then malformedAt .globalFlagRemoved last.pos
    else if added.meets removed then malformedAt .flagAddedAndRemoved last.pos
    else .ok (.plain added removed, ts)

/-! ## Numbers of groups -/

/-- The digits of a number in which single underscores may stand between digits. -/
def digits? : Text → Option (List Nat)
  | [] => none
  | [c] => (Unicode.decimalValue? c).map ([·])
  | c :: '_' :: rest => do
    let d ← Unicode.decimalValue? c
    let ds ← digits? rest
    some (d :: ds)
  | c :: rest => do
    let d ← Unicode.decimalValue? c
    let ds ← digits? rest
    some (d :: ds)

/-- Whether a character may stand around a number. -/
def isPadding (c : Char) : Bool :=
  if c.toNat < 127 then Unicode.isAsciiBlank c else Unicode.isBlank c

/-- The number of a group: decimal digits, with an optional sign before and blanks around them.
A number below zero is none. -/
def groupNumber? (t : Text) : Option Nat := do
  let trimmed := ((t.dropWhile isPadding).reverse.dropWhile isPadding).reverse
  let (minus, body) :=
    match trimmed with
    | '-' :: rest => (true, rest)
    | '+' :: rest => (false, rest)
    | _ => (false, trimmed)
  let ds ← digits? body
  if 4300 < ds.length then none
  else
    let n := ds.foldl (fun n d => n * 10 + d) 0
    if minus && n != 0 then none else some n

end Opening

open Opening

/-- The defect of an opening that has no meaning, made of a lead and a token. -/
def unknownOpening (lead : Text) (t : Token) : Defect := .unknownExtension (lead ++ t.text)

/-- Reads what follows the letter `P` in an opening at offset `start`: the name of a group, or a
reference to one. -/
def readNamedOpening (size start : Nat) (ts : List Token) : Compiled (Opening × List Token) := do
  let (named, ts) ← takeChar '<' ts
  if named then
    let (name, ts) ← takeIdentifier size '>' ts
    .ok (.capture (some name), ts)
  else do
    let (referred, ts) ← takeChar '=' ts
    if referred then
      let ((name, pos), ts) ← takeIdentifier size ')' ts
      .ok (.reference name pos, ts)
    else
      match ts with
      | [] => malformedAt .unexpectedEnd size
      | t :: ts => do
        ready ts
        malformedAt (unknownOpening ['?', 'P'] t) (start + 1)

/-- Reads what follows the sign `<` in an opening at offset `start`. -/
def readBehindOpening (size start : Nat) : List Token → Compiled (Opening × List Token)
  | [] => malformedAt .unexpectedEnd size
  | t :: ts => do
    ready ts
    if t.is '=' then .ok (.look true false, ts)
    else if t.is '!' then .ok (.look true true, ts)
    else malformedAt (unknownOpening ['?', '<'] t) (start + 1)

/-- Reads what an opening parenthesis at offset `start` starts. -/
def readOpening (size start : Nat) (ts : List Token) : Compiled (Opening × List Token) := do
  let (special, ts) ← takeChar '?' ts
  if !special then .ok (.capture none, ts)
  else
    match ts with
    | [] => malformedAt .unexpectedEnd size
    | t :: rest => do
      ready rest
      match t with
      | .plain 'P' _ => readNamedOpening size start rest
      | .plain ':' _ => .ok (.plain {} {}, rest)
      | .plain '#' _ => (skipComment start rest).map fun rest => (.comment, rest)
      | .plain '=' _ => .ok (.look false false, rest)
      | .plain '!' _ => .ok (.look false true, rest)
      | .plain '<' _ => readBehindOpening size start rest
      | .plain '>' _ => .ok (.atomic, rest)
      | .plain '(' _ =>
        let pos := tell size rest
        let (name, rest) ← takeName ')' .missingGroupName pos [] rest
        .ok (.condition name pos, rest)
      | .plain c _ =>
        if c = '-' || (Flags.ofLetter? c).isSome then readFlags size ts
        else malformedAt (unknownOpening ['?'] t) (start + 1)
      | _ => malformedAt (unknownOpening ['?'] t) (start + 1)

end TextScan
