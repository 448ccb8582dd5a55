import TextScan.Pattern.Escape

/-!
# Sets between brackets

The items of a set, up to the closing bracket. A closing bracket that comes first is an item, and so
is a hyphen that comes first or last; otherwise a hyphen makes a range.
-/

namespace TextScan

namespace Bracket

/-- What has been read of the current item of a set. -/
inductive Phase where
  /-- Nothing yet. -/
  | item
  /-- The lower end of a range, with its token, and the hyphen. -/
  | range (lo : ClassItem) (token : Text)

/-- Reads one member of a set, starting with the token `t`. -/
def readMember (size : Nat) (t : Token) (ts : List Token) : Compiled (ClassItem × List Token) :=
  match t with
  | .plain c _ => .ok (.code c.toNat, ts)
  | .escape c pos => readClassEscape size c pos ts
  | .dangling pos => malformedAt .danglingEscape pos

/-- The range between two members, whose ends have to be single characters in order. The offset
`here` is the one just after the range. -/
def makeRange (lo hi : ClassItem) (loText hiText : Text) (here : Nat) :
    Compiled ClassItem :=
  let bad := malformedAt (.badRange loText hiText) (here - (loText.length + 1 + hiText.length))
  match lo, hi with
  | .code m, .code n => if n < m then bad else .ok (.range m n)
  | _, _ => bad

/-- Reads the items of a set that was opened at offset `start`. The next `skip` tokens have been
read already, and `seen` holds the items so far, latest first. -/
def readItems (size start : Nat) :
    (skip : Nat) → Phase → (seen : List ClassItem) → List Token →
      Compiled (List ClassItem × List Token)
  | _, _, _, [] => malformedAt .unterminatedSet start
  | skip + 1, phase, seen, _ :: ts => readItems size start skip phase seen ts
  | 0, .item, seen, t :: ts => do
    ready ts
    if t.is ']' && !seen.isEmpty then .ok (seen.reverse, ts)
    else do
      let (lo, rest) ← readMember size t ts
      let (hyphen, rest) ← takeChar '-' rest
      let skip := ts.length - rest.length
      if hyphen then readItems size start skip (.range lo t.text) seen ts
      else readItems size start skip .item (lo :: seen) ts
  | 0, .range lo loText, seen, t :: ts => do
    ready ts
    if t.is ']' then .ok ((.code '-'.toNat :: lo :: seen).reverse, ts)
    else do
      let (hi, rest) ← readMember size t ts
      let range ← makeRange lo hi loText t.text (tell size rest)
      readItems size start (ts.length - rest.length) .item (range :: seen) ts

end Bracket

/-- Reads a set whose opening bracket at offset `start` has been taken: whether it is negated, and
its items. -/
def readBracket (size start : Nat) (ts : List Token) :
    Compiled ((Bool × List ClassItem) × List Token) := do
  let (negated, ts) ← takeChar '^' ts
  let (items, ts) ← Bracket.readItems size start 0 .item [] ts
  .ok ((negated, items), ts)

end TextScan
