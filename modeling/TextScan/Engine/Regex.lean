import TextScan.Engine.Basic

/-!
# The regular-expression engine

The default engine compiles patterns and matches by backtracking. With a fixed anchor it matches
inside the whole text, so start anchors refer to the start of the text and a pattern can look at
what lies before the cursor. Otherwise it matches the text from the cursor on as if that were all,
and moves the spans to where they lie in the whole text.
-/

namespace TextScan

/-- The settings of a regular-expression engine. -/
structure RegexEngine where
  /-- The flags for pattern texts, as a mask. -/
  mask : Int := 0
  /-- Whether the whole text is matched against. -/
  fixedAnchor : Bool := true
  deriving DecidableEq, Repr

namespace RegexEngine

/-- The match of a compiled pattern within a reach of offset `p`. -/
def find (r : Regex) (reach : Reach) (t : Text) (p : Nat) : Option Regex.Found :=
  match reach with
  | .anchored => r.matchAt t p
  | .ahead => r.searchFrom t p

/-- The match of a compiled pattern within a reach of the cursor. -/
def exec (e : RegexEngine) (r : Regex) (reach : Reach) (t : Text) (pos : Int) : Option Match :=
  if e.fixedAnchor then
    (find r reach t (min pos.toNat t.length)).map (r.toMatch t 0)
  else
    let rest := t.sliceFrom pos
    (find r reach rest 0).map (r.toMatch rest pos)

/-- Compiles a pattern and tries it. -/
def attempt (e : RegexEngine) (reach : Reach) (p : Pattern) (t : Text) (pos : Int) (c : Cache) :
    Reply × Cache :=
  let (compiled, c) := p.compile e.mask c
  ({ result := compiled.result.map fun r => e.exec r reach t pos, log := compiled.log }, c)

/-- The shown form of the engine. -/
def render (e : RegexEngine) : String :=
  s!"RegexEngine(flags={e.mask}, fixed_anchor={Quoted.truth e.fixedAnchor})"

/-- The engine with these settings; its state is the cache of compiled patterns. -/
def engine (e : RegexEngine) : Engine Cache where
  attempt := e.attempt
  fixedAnchor _ := e.fixedAnchor
  render _ := e.render

end RegexEngine

end TextScan
