import TextScan.Pattern.Bracket
import TextScan.Pattern.Opening
import TextScan.Pattern.Quantifier

/-!
# Building the tree of a pattern

A pattern is read from left to right by a machine. Its state, the `Builder`, holds the part of the
innermost open group that has been read, and a stack with what lies around each open group. One
step takes a token, together with those that belong to it, and `Builder.run` takes all of them.
-/

namespace TextScan

/-! ## State -/

/-- What was read last in the current alternative, as far as a quantifier cares. -/
inductive Tail where
  /-- Nothing. -/
  | nothing
  /-- An anchor. -/
  | anchor
  /-- An item with a quantifier. -/
  | loop
  /-- Any other item. -/
  | item
  deriving DecidableEq, Repr

/-- The part of the innermost open group that has been read. -/
structure Level where
  /-- The flags in force. -/
  flags : Flags
  /-- The finished alternatives, latest first. -/
  alts : List Node := []
  /-- The items of the current alternative, latest first. -/
  items : List Node := []
  /-- What the last item is. -/
  tail : Tail := .nothing

/-- The kind of an open group. -/
inductive Scope where
  /-- A group that is not remembered. -/
  | plain
  /-- A group that is remembered under a number. -/
  | capture (index : Nat)
  /-- A group that matches in its first way only. -/
  | atomic
  /-- A look-around condition, with the look-behind limit outside of it. -/
  | look (behind negative : Bool) (outer : Option Nat)
  /-- A choice that depends on a group. -/
  | condition (group : Nat)

/-- An open group, with what had been read around it. -/
structure Frame where
  /-- The kind of the group. -/
  scope : Scope
  /-- The offset of its opening parenthesis. -/
  start : Nat
  /-- The level that it stands in. -/
  outer : Level

/-- The state of the machine that reads a pattern. -/
structure Builder where
  /-- The innermost level. -/
  level : Level
  /-- The open groups, innermost first. -/
  frames : List Frame := []
  /-- The widths of all groups so far; a group that is still open has none. -/
  widths : List (Option Width) := []
  /-- The names of groups with their numbers, in order of their opening parentheses. -/
  names : List (String × Nat) := []
  /-- Inside a look-behind, the first number of a group defined in it. -/
  behind : Option Nat := none
  /-- The group numbers that choices depend on, each with the offset of its first use. -/
  choices : List (Nat × Nat) := []

/-! ## Levels -/

namespace Level

/-- The items of the current alternative, one after the other. -/
def sequence (l : Level) : Node := l.items.foldl (fun acc n => .seq n acc) .empty

/-- The whole level: its alternatives, the first one first. -/
def node (l : Level) : Node := l.alts.foldl (fun acc a => .alt a acc) l.sequence

/-- Adds an item. -/
def push (l : Level) (n : Node) (tail : Tail := .item) : Level :=
  { l with items := n :: l.items, tail }

/-- Ends the current alternative and starts another. -/
def bar (l : Level) : Level :=
  { l with alts := l.sequence :: l.alts, items := [], tail := .nothing }

/-- How case counts at this level. -/
def fold (l : Level) : Fold :=
  if !l.flags.ignoreCase then .exact else if l.flags.ascii then .ascii else .full

/-- A set of characters at this level. -/
def charSet (l : Level) (items : List ClassItem) (negated : Bool := false) : Node :=
  .chars { items, negated, ascii := l.flags.ascii, fold := l.fold }

/-- Adds a set of characters. -/
def pushSet (l : Level) (items : List ClassItem) (negated : Bool := false) : Level :=
  l.push (l.charSet items negated)

/-- Adds an anchor. -/
def pushAnchor (l : Level) (a : Anchor) : Level := l.push (.anchor a) .anchor

/-- The anchor that `^` stands for. -/
def caret (l : Level) : Anchor := if l.flags.multiline then .lineStart else .textStart

/-- The anchor that `$` stands for. -/
def dollar (l : Level) : Anchor := if l.flags.multiline then .lineEnd else .finalLineEnd

/-- The set that a dot stands for. -/
def dot (l : Level) : CharSet := if l.flags.dotAll then .all else .allButNewline

end Level

namespace Builder

/-! ## Groups -/

/-- The state before anything has been read. -/
def start (flags : Flags) : Builder := { level := { flags } }

/-- Replaces the innermost level. -/
def withLevel (b : Builder) (l : Level) : Builder := { b with level := l }

/-- Opens a group at offset `pos`, inside of which the given flags are in force. -/
def enter (b : Builder) (scope : Scope) (pos : Nat) (flags : Flags) : Builder :=
  { b with level := { flags }, frames := ⟨scope, pos, b.level⟩ :: b.frames }

/-- Whether the group with this number has been closed. -/
def isClosed (b : Builder) (group : Nat) : Bool :=
  group != 0 && (b.widths[group - 1]?).join.isSome

/-- Fails if a group may not be referred to from inside a look-behind. -/
def checkBehind (b : Builder) (group here : Nat) : Compiled Unit :=
  match b.behind with
  | none => .ok ()
  | some limit =>
    if !b.isClosed group then malformedAt .openReference here
    else if limit ≤ group then malformedAt .lookbehindReference here
    else .ok ()

/-- Opens a remembered group, under a name if one is given. -/
def enterCapture (b : Builder) (name : Option (Text × Nat)) (pos : Nat) : Compiled Builder :=
  let index := b.widths.length + 1
  let opened := { b with widths := b.widths ++ [none] }.enter (.capture index) pos b.level.flags
  match name with
  | none => .ok opened
  | some (text, namePos) =>
    match b.names.lookup (String.ofList text) with
    | some earlier => malformedAt (.redefinedName text index earlier) namePos
    | none => .ok { opened with names := b.names ++ [(String.ofList text, index)] }

/-- Opens a look-around condition. -/
def enterLook (b : Builder) (behind negative : Bool) (pos : Nat) : Builder :=
  let limit := if behind then b.behind.or (some (b.widths.length + 1)) else b.behind
  { b with behind := limit }.enter (.look behind negative b.behind) pos b.level.flags

/-- The least number that no group can have. -/
def groupLimit : Nat := 2147483647

/-- The group that a choice depends on, given by a name or a number at offset `pos`. -/
def conditionGroup (b : Builder) (text : Text) (pos : Nat) : Compiled (Nat × Builder) :=
  if Unicode.isIdentifier text then
    match b.names.lookup (String.ofList text) with
    | some group => .ok (group, b)
    | none => malformedAt (.unknownGroupName text) pos
  else
    match Opening.groupNumber? text with
    | none => malformedAt (.badGroupName text) pos
    | some 0 => malformedAt .badGroupNumber pos
    | some group =>
      if groupLimit ≤ group then malformedAt (.invalidReference group) pos
      else if b.choices.any (·.1 == group) then .ok (group, b)
      else .ok (group, { b with choices := b.choices ++ [(group, pos)] })

/-- Opens a choice that depends on a group. The offset `here` is the one reached. -/
def enterCondition (b : Builder) (text : Text) (namePos pos here : Nat) : Compiled Builder := do
  let (group, b) ← b.conditionGroup text namePos
  b.checkBehind group here
  .ok (b.enter (.condition group) pos b.level.flags)

/-- Adds a reference to a named group. The offset `here` is the one reached. -/
def referByName (b : Builder) (name : Text) (pos here : Nat) : Compiled Builder :=
  match b.names.lookup (String.ofList name) with
  | none => malformedAt (.unknownGroupName name) pos
  | some group => do
    if !b.isClosed group then malformedAt .openReference pos
    b.checkBehind group here
    .ok (b.withLevel (b.level.push (.backref group b.level.fold)))

/-- Adds a reference to a numbered group, whose backslash has the offset `pos`. -/
def referByNumber (b : Builder) (group pos here : Nat) : Compiled Builder := do
  if b.widths.length < group then malformedAt (.invalidReference group) (pos + 1)
  if !b.isClosed group then malformedAt .openReference pos
  b.checkBehind group here
  .ok (b.withLevel (b.level.push (.backref group b.level.fold)))

/-- Sets flags for the whole pattern, before anything else has been read. -/
def setGlobals (b : Builder) (flags : Flags) (pos : Nat) : Compiled Builder :=
  if b.frames.isEmpty && b.level.alts.isEmpty && b.level.items.isEmpty then
    .ok (b.withLevel { b.level with flags := flags.union b.level.flags })
  else malformedAt .misplacedFlags pos

/-- Carries out what an opening parenthesis at offset `pos` starts. -/
def applyOpening (b : Builder) (pos here : Nat) : Opening → Compiled Builder
  | .capture name => b.enterCapture name pos
  | .plain added removed => .ok (b.enter .plain pos (b.level.flags.within added removed))
  | .atomic => .ok (b.enter .atomic pos b.level.flags)
  | .look behind negative => .ok (b.enterLook behind negative pos)
  | .condition text namePos => b.enterCondition text namePos pos here
  | .reference name namePos => b.referByName name namePos here
  | .globalFlags flags => b.setGlobals flags pos
  | .comment => .ok b

/-- Closes the innermost group `f`, where `frames` are those around it. -/
def close (b : Builder) (f : Frame) (frames : List Frame) : Builder :=
  let body := b.level.node
  let back := fun (n : Node) => { b with level := f.outer.push n, frames }
  match f.scope with
  | .plain => back body
  | .capture i =>
    { back (.group i body) with widths := b.widths.set (i - 1) (some (body.width b.widths)) }
  | .atomic => back (.atomic body)
  | .look behind negative outer =>
    let dir : Direction := if behind then .behind (body.width b.widths) else .ahead
    { back (.look dir negative body) with behind := outer }
  | .condition group =>
    match b.level.alts with
    | [] => back (.cond group b.level.sequence .empty)
    | yes :: _ => back (.cond group yes b.level.sequence)

/-! ## Steps -/

/-- Takes a bar. A choice has at most two branches. -/
def takeBar (b : Builder) (pos : Nat) (ts : List Token) : Compiled (Builder × List Token) :=
  let full := !b.level.alts.isEmpty &&
    match b.frames with
    | { scope := .condition _, .. } :: _ => true
    | _ => false
  if full then malformedAt .tooManyBranches pos
  else do
    ready ts
    .ok (b.withLevel b.level.bar, ts)

/-- Takes a quantifier that starts with `c`. -/
def takeQuantifier (b : Builder) (c : Char) (pos : Nat) (ts : List Token) :
    Compiled (Builder × List Token) := do
  let (bounds, ts) ← readQuantifier c pos ts
  match bounds with
  | none => .ok (b.withLevel (b.level.pushSet [.code c.toNat]), ts)
  | some (lo, hi) =>
    match b.level.tail, b.level.items with
    | .loop, _ => malformedAt .multipleRepeat pos
    | .item, item :: items => do
      let (greed, ts) ← readGreed ts
      let level := { b.level with items }.push (.loop greed lo hi item) .loop
      .ok (b.withLevel level, ts)
    | _, _ => malformedAt .nothingToRepeat pos

/-- Takes an escape. -/
def takeEscape (size : Nat) (b : Builder) (c : Char) (pos : Nat) (ts : List Token) :
    Compiled (Builder × List Token) := do
  let (escape, ts) ← readEscape size c pos ts
  let l := b.level
  match escape with
  | .item i => .ok (b.withLevel (l.pushSet [i]), ts)
  | .textStart => .ok (b.withLevel (l.pushAnchor .textStart), ts)
  | .textEnd => .ok (b.withLevel (l.pushAnchor .textEnd), ts)
  | .wordEdge => .ok (b.withLevel (l.pushAnchor (.wordEdge l.flags.ascii)), ts)
  | .noWordEdge => .ok (b.withLevel (l.pushAnchor (.noWordEdge l.flags.ascii)), ts)
  | .reference group => do
    let b ← b.referByNumber group pos (tell size ts)
    .ok (b, ts)

/-- Takes a plain character and what belongs to it. -/
def takePlain (size : Nat) (b : Builder) (c : Char) (pos : Nat) (ts : List Token) :
    Compiled (Builder × List Token) :=
  let l := b.level
  if Unicode.isAsciiBlank c && l.flags.verbose then .ok (b, ts)
  else if c = '#' && l.flags.verbose then (Opening.skipLine ts).map fun rest => (b, rest)
  else
    match c with
    | '[' => do
      let ((negated, items), rest) ← readBracket size pos ts
      .ok (b.withLevel (l.pushSet items negated), rest)
    | '(' => do
      let (opening, rest) ← readOpening size pos ts
      let b ← b.applyOpening pos (tell size rest) opening
      .ok (b, rest)
    | '.' => .ok (b.withLevel (l.push (.chars l.dot)), ts)
    | '^' => .ok (b.withLevel (l.pushAnchor l.caret), ts)
    | '$' => .ok (b.withLevel (l.pushAnchor l.dollar), ts)
    | '*' | '+' | '?' | '\x7b' => b.takeQuantifier c pos ts
    | _ => .ok (b.withLevel (l.pushSet [.code c.toNat]), ts)

/-- Takes the token `t` and those after it that belong to it. -/
def step (size : Nat) (b : Builder) (t : Token) (ts : List Token) :
    Compiled (Builder × List Token) :=
  match t with
  | .dangling pos => malformedAt .danglingEscape pos
  | .escape c pos => do
    ready ts
    b.takeEscape size c pos ts
  | .plain '|' pos => b.takeBar pos ts
  | .plain ')' pos =>
    match b.frames with
    | [] => malformedAt .unbalancedParenthesis pos
    | f :: frames => do
      ready ts
      .ok (b.close f frames, ts)
  | .plain c pos => do
    ready ts
    b.takePlain size c pos ts

/-- Whether a token closes a group that was never opened, which ends the reading. -/
def isStray (b : Builder) (t : Token) : Bool := b.frames.isEmpty && t.is ')'

/-- Takes all tokens, of which the next `skip` have been read already. Gives the final state, and
the offset of a closing parenthesis that ended the reading too early. -/
def run (size : Nat) : (skip : Nat) → Builder → List Token → Compiled (Builder × Option Nat)
  | _, b, [] =>
    match b.frames with
    | [] => .ok (b, none)
    | f :: _ => malformedAt .unterminatedGroup f.start
  | skip + 1, b, _ :: ts => run size skip b ts
  | 0, b, t :: ts =>
    if b.isStray t then .ok (b, some t.pos)
    else do
      let (b, rest) ← b.step size t ts
      run size (ts.length - rest.length) b ts

end Builder

end TextScan
