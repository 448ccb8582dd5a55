import TextScan.Scanner.Basic

/-!
# Operations on scanners

Everything that can be done with a scanner is an `Op`, and `Scanner.step` carries it out with an
engine. A match attempt first clears the register, then asks the engine, and rejects a match that is
out of reach of the cursor; only an accepted match is put into the register. The operations that
consume text differ from those that only look in that they move the cursor to the end of the match.
-/

namespace TextScan

universe u

/-- What is done with a match that was found. -/
inductive Use where
  /-- Moves the cursor, and gives the text. -/
  | scan
  /-- Gives the text only. -/
  | check
  /-- Moves the cursor, and gives the number of characters. -/
  | skip
  deriving DecidableEq, Repr

/-- An operation on a scanner. -/
inductive Op where
  /-- A match attempt. -/
  | attempt (reach : Reach) (use : Use) (p : Pattern)
  /-- Asks whether the cursor is at the start of the text. -/
  | atStart
  /-- Asks whether the cursor is at the end of the text. -/
  | atEnd
  /-- Asks whether the cursor is at the start of a line. -/
  | atLineStart
  /-- Asks whether the cursor is at the end of a line. -/
  | atLineEnd
  /-- Asks for the text after the cursor. -/
  | remainder
  /-- Asks for the number of characters after the cursor. -/
  | restSize
  /-- Asks for the next characters. -/
  | peek (n : Int)
  /-- Takes the next characters. -/
  | read (n : Int)
  /-- Asks for a group of the last match. -/
  | groupAt (key : GroupKey)
  /-- Asks for several groups of the last match. -/
  | groupsAt (keys : List GroupKey)
  /-- Asks whether there is a last match. -/
  | isMatched
  /-- Asks for the groups of the last match. -/
  | captures
  /-- Asks for the named groups of the last match. -/
  | namedCaptures
  /-- Adds one entry each to copies of the groups and named groups, and gives the copies' sizes. -/
  | extendCopies
  /-- Asks for the text before the last match. -/
  | preMatch
  /-- Asks for the text after the last match. -/
  | postMatch
  /-- Asks for the last match. -/
  | lastMatch
  /-- Asks for the text of the last match. -/
  | matched
  /-- Asks for the length of the last match. -/
  | matchedSize
  /-- Asks for the text. -/
  | text
  /-- Asks for the cursor. -/
  | position
  /-- Asks for the line and column of the cursor. -/
  | location
  /-- Asks whether start anchors refer to the start of the text. -/
  | fixedAnchor
  /-- Asks for the shown form of the engine. -/
  | engine
  /-- Asks for the shown form of the scanner. -/
  | render
  /-- Moves the cursor. -/
  | setPosition (p : Int)
  /-- Replaces the text and starts over. -/
  | setText (t : Text)
  /-- Starts over. -/
  | reset
  /-- Moves the cursor to the end. -/
  | terminate
  /-- Appends pieces to the text; the answer is that the scanner is still the same one. -/
  | append (pieces : List Text)

/-- What an operation answers. -/
inductive Answer where
  /-- Nothing. -/
  | none
  /-- A truth value. -/
  | flag (b : Bool)
  /-- A number. -/
  | number (i : Int)
  /-- A text. -/
  | text (t : Text)
  /-- A list of groups. -/
  | groups (gs : List (Option Text))
  /-- A list of named groups. -/
  | named (gs : List (String × Option Text))
  /-- Two sizes. -/
  | sizes (first second : Nat)
  /-- A location. -/
  | location (l : Location)
  /-- A match. -/
  | found (m : Match)
  /-- A shown form. -/
  | shown (s : String)
  deriving DecidableEq, Repr

namespace Answer

/-- A text, or nothing. -/
def optText : Option Text → Answer
  | some t => .text t
  | .none => .none

end Answer

/-- The outcome of an operation. -/
structure Outcome where
  /-- The answer, or why there is none. -/
  result : Except Fault Answer
  /-- The records written. -/
  log : List Event := []

namespace Outcome

/-- An outcome without records. -/
def of (result : Except Fault Answer) : Outcome := { result }

/-- An answer without records. -/
def answer (a : Answer) : Outcome := of (.ok a)

end Outcome

namespace Scanner

/-! ## Match attempts -/

/-- Asks the engine for a match and puts it into the register, if it is within reach. -/
def register {σ : Type u} (E : Engine σ) (reach : Reach) (p : Pattern) (s : Scanner) (e : σ) :
    Reply × Scanner × σ :=
  let (reply, e) := E.attempt reach p s.text s.pos e
  match reply.result with
  | .ok (some m) =>
    if reach.allows s.pos m.start then (reply, { s with last := some m }, e)
    else
      let fault := Fault.contract reach.label s.pos m.start
      ({ result := .error fault, log := reply.log ++ [.rejected reach m.start s.pos p] },
        s.cleared, e)
  | _ => (reply, s.cleared, e)

/-- What an attempt from the cursor `pos` answers when it has found `m` in the text. An anchored
match answers with its own text and length, a search with those from the cursor to its end. -/
def answer (reach : Reach) (use : Use) (text : Text) (pos : Int) (m : Match) : Answer :=
  match reach, use with
  | .anchored, .skip => .number m.length
  | .anchored, _ => .text m.value
  | .ahead, .skip => .number (m.stop - pos)
  | .ahead, _ => .text (text.slice pos m.stop)

/-- Carries out a match attempt. -/
def attempt {σ : Type u} (E : Engine σ) (reach : Reach) (use : Use) (p : Pattern) (s : Scanner)
    (e : σ) : Outcome × Scanner × σ :=
  let (reply, s', e) := s.register E reach p e
  match reply.result with
  | .error f => ({ result := .error f, log := reply.log }, s', e)
  | .ok none => ({ result := .ok .none, log := reply.log }, s', e)
  | .ok (some m) =>
    let moved := if use = .check then s' else { s' with pos := m.stop }
    ({ result := .ok (answer reach use s.text s.pos m), log := reply.log }, moved, e)

/-! ## All operations -/

/-- The sizes of the groups and of the named groups once an entry `X` has been added to each. A
name that is there already is not added again. -/
def extendedSizes (m : Match) : Answer :=
  .sizes (m.groups.length + 1) (Match.namedOfPairs (m.named ++ [("X", some ['X'])])).length

/-- Carries out an operation with an engine in the state `e`. -/
def step {σ : Type u} (E : Engine σ) (op : Op) (s : Scanner) (e : σ) : Outcome × Scanner × σ :=
  match op with
  | .attempt reach use p => s.attempt E reach use p e
  | .atStart => (.answer (.flag s.atStart), s, e)
  | .atEnd => (.answer (.flag s.atEnd), s, e)
  | .atLineStart => (.of (s.atLineStart.map .flag), s, e)
  | .atLineEnd => (.of (s.atLineEnd.map .flag), s, e)
  | .remainder => (.answer (.text s.remainder), s, e)
  | .restSize => (.answer (.number s.restSize), s, e)
  | .peek n => (.of ((s.peek n).map .text), s, e)
  | .read n => (.of ((s.read n).1.map .optText), (s.read n).2, e)
  | .groupAt key => (.of ((s.groupAt key).map .optText), s, e)
  | .groupsAt keys => (.of ((s.groupsAt keys).map (·.elim .none .groups)), s, e)
  | .isMatched => (.answer (.flag s.last.isSome), s, e)
  | .captures => (.answer (s.captures.elim .none .groups), s, e)
  | .namedCaptures => (.answer (s.namedCaptures.elim .none .named), s, e)
  | .extendCopies => (.answer (s.last.elim .none extendedSizes), s, e)
  | .preMatch => (.answer (.optText s.preMatch), s, e)
  | .postMatch => (.answer (.optText s.postMatch), s, e)
  | .lastMatch => (.answer (s.last.elim .none .found), s, e)
  | .matched => (.answer (.optText s.matched), s, e)
  | .matchedSize => (.answer (s.matchedSize.elim .none .number), s, e)
  | .text => (.answer (.text s.text), s, e)
  | .position => (.answer (.number s.pos), s, e)
  | .location => (.answer (.location s.location), s, e)
  | .fixedAnchor => (.answer (.flag (E.fixedAnchor e)), s, e)
  | .engine => (.answer (.shown (E.render e)), s, e)
  | .render => (.answer (.shown s.render), s, e)
  | .setPosition p => (.of ((s.setPosition p).1.map fun _ => .none), (s.setPosition p).2, e)
  | .setText t => (.answer .none, { text := t }, e)
  | .reset => (.answer .none, s.reset, e)
  | .terminate => (.answer .none, s.terminate, e)
  | .append pieces => (.answer (.flag true), pieces.foldl concat s, e)

/-- What is seen after a step: its outcome, and the scanner it left. -/
structure Trace where
  /-- The outcome. -/
  outcome : Outcome
  /-- The scanner after the step. -/
  after : Scanner

/-- Carries out operations one after the other. -/
def run {σ : Type u} (E : Engine σ) : List Op → Scanner → σ → List Trace × Scanner × σ
  | [], s, e => ([], s, e)
  | op :: ops, s, e =>
    let (outcome, s, e) := s.step E op e
    let (traces, s', e) := run E ops s e
    (⟨outcome, s⟩ :: traces, s', e)

end Scanner

end TextScan
