import TextScan.Text.Quoted

/-!
# Matches and their groups

The record of one successful match: its span, the matched text and its capturing groups. A group is
asked for by an index or by a name (`Match.group`). Index zero is the whole match, and negative
indices count back from the last group.
-/

namespace TextScan

/-- How a group of a match is named by a caller. -/
inductive GroupKey where
  /-- A position: zero for the whole match, negative to count back from the last group. -/
  | index (i : Int)
  /-- The name of a named group. -/
  | name (s : String)
  deriving DecidableEq, Repr

/-- One successful match. -/
structure Match where
  /-- Offset of the first matched character. -/
  start : Int
  /-- Offset just after the last matched character. -/
  stop : Int
  /-- The matched text. -/
  value : Text
  /-- The capturing groups in order; a group that took no part is `none`. -/
  groups : List (Option Text) := []
  /-- The named groups in order of their opening parentheses. -/
  named : List (String × Option Text) := []
  deriving DecidableEq, Repr

namespace Match

/-- The number of characters between start and stop. -/
def length (m : Match) : Int := m.stop - m.start

/-- The whole match followed by its groups, the list that indices refer to. -/
def slots (m : Match) : List (Option Text) := some m.value :: m.groups

/-- The group that a key asks for, or `none` if the match has no such group. -/
def group? (m : Match) : GroupKey → Option (Option Text)
  | .name s => m.named.lookup s
  | .index i =>
    let count := m.slots.length
    let k := if i < 0 then i + count else i
    if k < 0 then none else m.slots[k.toNat]?

/-- The full form of a match, with every field named. -/
def render (m : Match) : String :=
  let groups := Quoted.tuple (m.groups.map Quoted.optionalText)
  s!"MatchResult(start={m.start}, end={m.stop}, value={Quoted.text m.value}, " ++
    s!"groups={groups}, named_groups={Quoted.mapping m.named})"

/-- Whether two lists of named values hold the same entries, in any order. -/
def sameEntries (xs ys : List (String × Option Text)) : Bool :=
  xs.length == ys.length && xs.all ys.contains

/-- Whether two matches agree, where the order of named groups does not count. -/
def agrees (m n : Match) : Bool :=
  m.start == n.start && m.stop == n.stop && m.value == n.value && m.groups == n.groups &&
    sameEntries m.named n.named

/-- The named values that a list of pairs gives: for a repeated name the last value counts, at the
name's first place. -/
def namedOfPairs (pairs : List (String × Option Text)) : List (String × Option Text) :=
  pairs.foldl
    (fun acc p =>
      if acc.any (·.1 == p.1) then acc.map fun e => if e.1 == p.1 then p else e else acc ++ [p])
    []

end Match

end TextScan
