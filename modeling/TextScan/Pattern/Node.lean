import TextScan.Pattern.CharSet

/-!
# Pattern trees

The tree that a pattern is read into. Flags have already been applied: sets know how case counts,
and anchors know what a line end is. The tree also determines how many characters a match can take
(`Node.width`), which look-behind needs.
-/

namespace TextScan

/-- A condition on a place in the text that takes no characters. -/
inductive Anchor where
  /-- The start of the text. -/
  | textStart
  /-- The start of the text or the place after a line end. -/
  | lineStart
  /-- The end of the text. -/
  | textEnd
  /-- The end of the text or the place before a line end. -/
  | lineEnd
  /-- The end of the text or the place before a line end that ends the text. -/
  | finalLineEnd
  /-- A place between a word character and a place without one. -/
  | wordEdge (ascii : Bool)
  /-- A place that is no word edge. -/
  | noWordEdge (ascii : Bool)
  deriving DecidableEq, Repr

/-- Which number of rounds a loop tries first, and whether it tries others. -/
inductive Greed where
  /-- As many rounds as possible first. -/
  | greedy
  /-- As few rounds as possible first. -/
  | lazy
  /-- As many rounds as possible, and no others. -/
  | possessive
  deriving DecidableEq, Repr

/-- The least and the greatest number of characters that a pattern can take. -/
structure Width where
  /-- The least number. -/
  least : Nat
  /-- The greatest number, capped. -/
  most : Nat
  deriving DecidableEq, Repr

/-- Where a look-around condition looks. -/
inductive Direction where
  /-- From the current place on. -/
  | ahead
  /-- At the characters just before the current place. -/
  | behind (width : Width)
  deriving DecidableEq, Repr

/-- A pattern as a tree. -/
inductive Node where
  /-- Takes nothing. -/
  | empty
  /-- Takes one character of a set. -/
  | chars (s : CharSet)
  /-- Takes nothing where a condition on the place holds. -/
  | anchor (a : Anchor)
  /-- The first pattern, then the second. -/
  | seq (a b : Node)
  /-- The first pattern or else the second. -/
  | alt (a b : Node)
  /-- A pattern whose text is remembered as group `index`. -/
  | group (index : Nat) (body : Node)
  /-- At least `min` and at most `max` rounds of a pattern. -/
  | loop (greed : Greed) (min : Nat) (max : Option Nat) (body : Node)
  /-- Only the first way in which a pattern matches. -/
  | atomic (body : Node)
  /-- Takes nothing where a pattern matches nearby, or where it does not. -/
  | look (dir : Direction) (negative : Bool) (body : Node)
  /-- The text of an earlier group once more. -/
  | backref (index : Nat) (fold : Fold)
  /-- One pattern if a group has been set, and another if not. -/
  | cond (index : Nat) (yes no : Node)
  deriving Repr

namespace Width

/-- The cap on widths. -/
def cap : Nat := Nat.pow 2 64

/-- Both numbers, capped. -/
def capped (least most : Nat) : Width := ⟨min least cap, min most cap⟩

/-- The width of one pattern after another. -/
def add (v w : Width) : Width := capped (v.least + w.least) (v.most + w.most)

/-- The width of one of two patterns. -/
def either (v w : Width) : Width := ⟨min v.least w.least, max v.most w.most⟩

/-- The width of a number of rounds. -/
def rounds (lo : Nat) (hi : Option Nat) (w : Width) : Width :=
  capped (lo * w.least) <|
    match hi with
    | some n => n * w.most
    | none => if w.most = 0 then 0 else cap

end Width

/-- The width of a pattern, given those of the groups it refers back to. -/
def Node.width (groups : List (Option Width)) : Node → Width
  | .empty => ⟨0, 0⟩
  | .chars _ => ⟨1, 1⟩
  | .anchor _ => ⟨0, 0⟩
  | .seq a b => (a.width groups).add (b.width groups)
  | .alt a b => (a.width groups).either (b.width groups)
  | .group _ body => body.width groups
  | .loop _ lo hi body => (body.width groups).rounds lo hi
  | .atomic body => body.width groups
  | .look .. => ⟨0, 0⟩
  | .backref i _ => ((groups[i - 1]?).join).getD ⟨0, 0⟩
  | .cond _ yes no => (yes.width groups).either (no.width groups)

end TextScan
