import TextScan.Match
import TextScan.Pattern.Builder
import TextScan.Pattern.Matcher

/-!
# Compiled patterns

`Regex.compile` turns the source of a pattern into a `Regex`, or says what is wrong with it. A
compiled pattern is tried at one offset (`Regex.matchAt`), at the first offset of several at which
it matches (`Regex.searchFrom`), or over the whole rest of a text (`Regex.fullMatchAt`). In all
three, the text before the offset can be seen by the pattern.
-/

namespace TextScan

/-- A compiled pattern. -/
structure Regex where
  /-- The source of the pattern. -/
  source : Text
  /-- The flags in force, as a mask. -/
  mask : Int
  /-- The number of groups. -/
  groups : Nat
  /-- The names of groups with their numbers, in order of their opening parentheses. -/
  names : List (String × Nat)
  /-- The pattern as a tree. -/
  node : Node

/-! ## Compiling -/

/-- The greatest number of characters that a look-behind may take. -/
def lookbehindLimit : Nat := 4294967295

/-- The first thing wrong with a tree, from the outside in: a repetition where none is allowed, or a
look-behind whose width is not fixed. -/
def Node.flaw? (template : Bool) : Node → Option Defect
  | .seq a b | .alt a b | .cond _ a b => (a.flaw? template).or (b.flaw? template)
  | .group _ body | .atomic body | .look .ahead _ body => body.flaw? template
  | .loop greed _ _ body =>
    if template then some (.repeatInTemplate greed) else body.flaw? template
  | .look (.behind w) _ body =>
    if lookbehindLimit < w.least then some .tooFarBehind
    else if w.least ≠ w.most then some .variableWidth
    else body.flaw? template
  | _ => none

namespace Regex

/-- The compiled pattern that a reader's final state stands for, unless something is wrong that only
shows at the end. A closing parenthesis that ended the reading has the offset `stray`. -/
def ofBuilder (source : Text) (mask : Int) (b : Builder) (stray : Option Nat) : Compiled Regex :=
  let flags := b.level.flags
  let node := b.level.node
  if flags.locale then .error .localeFlag
  else if flags.ascii && flags.unicode then .error .alphabetConflict
  else
    match stray, b.choices.find? fun c => b.widths.length < c.1, node.flaw? flags.template with
    | some p, _, _ => malformedAt .unbalancedParenthesis p
    | none, some (group, p), _ => malformedAt (.invalidReference group) p
    | none, none, some d => .error (.malformed d none)
    | none, none, none =>
      let inForce := { flags with unicode := !flags.ascii }
      if Flags.fits mask then
        .ok { source, mask := inForce.addTo mask, groups := b.widths.length, names := b.names, node }
      else .error .flagsTooLarge

/-- Compiles the source of a pattern under the flags of a mask. -/
def compile (source : Text) (mask : Int) : Compiled Regex := do
  let ts := Token.split 0 source
  ready ts
  let (b, stray) ← Builder.run source.length 0 (Builder.start (.ofMask mask)) ts
  ofBuilder source mask b stray

/-- The shown form of a compiled pattern: its source, cut short if it is long, and its flags. -/
def render (r : Regex) : String :=
  let source := String.ofList ((Quoted.quote r.source).take 200)
  match Flags.shownNames r.mask.toNat with
  | [] => s!"re.compile({source})"
  | names => s!"re.compile({source}, " ++ String.intercalate "|" names ++ ")"

/-! ## Matching -/

/-- A match as the matcher finds it, by offsets into the text. -/
structure Found where
  /-- Where the match starts. -/
  start : Nat
  /-- Where it has got to at its end, with the spans of its groups. -/
  last : Progress
  deriving DecidableEq, Repr

/-- The state at offset `p` with no group set. -/
def initial (r : Regex) (p : Nat) : Progress := ⟨p, List.replicate r.groups none⟩

/-- Tries the pattern at offset `p`, with a condition on the end of the match. -/
def tryAt (r : Regex) (text : Array Char) (accept : Continuation) (p : Nat) : Option Found :=
  (r.node.run text (r.initial p) accept).map fun last => ⟨p, last⟩

/-- The match at offset `p`. -/
def matchAt (r : Regex) (t : Text) (p : Nat) : Option Found := r.tryAt t.toArray some p

/-- The match at the first offset from `p` on that has one. -/
def searchFrom (r : Regex) (t : Text) (p : Nat) : Option Found :=
  let text := t.toArray
  (List.range' p (text.size + 1 - p)).findSome? (r.tryAt text some)

/-- The match at offset `p` that reaches the end of the text. -/
def fullMatchAt (r : Regex) (t : Text) (p : Nat) : Option Found :=
  let text := t.toArray
  r.tryAt text (fun s => if s.pos = text.size then some s else none) p

/-! ## Results -/

/-- The characters of a span. -/
def spanText (t : Text) (s : Span) : Text := (t.take s.2).drop s.1

/-- The record of a match in the text `t`, whose first character has the offset `offset`. -/
def toMatch (r : Regex) (t : Text) (offset : Int) (f : Found) : Match :=
  let texts := f.last.groups.map (·.map (spanText t))
  { start := f.start + offset
    stop := f.last.pos + offset
    value := spanText t (f.start, f.last.pos)
    groups := texts
    named := r.names.map fun (name, i) => (name, (texts[i - 1]?).join) }

end Regex

end TextScan
