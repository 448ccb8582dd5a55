import TextScan.Engine.Device

/-!
# Configurations

A configuration says which engine a new scanner gets when none is given: a particular engine, or
else a regular-expression engine with the flags and the anchor mode of the configuration. Engines
are told apart by a number, so two configurations agree on their engine only if it is the same one.
-/

namespace TextScan

/-- The number by which an engine is known. -/
abbrev EngineId := Nat

/-- What new scanners are made with. -/
structure Config where
  /-- The flags of the regular-expression engine, as a mask. -/
  flags : Int := 0
  /-- Whether start anchors refer to the start of the text. -/
  fixedAnchor : Bool := true
  /-- The engine to use; the other settings then do not count. -/
  engine : Option EngineId := none
  deriving DecidableEq, Repr

namespace Config

/-- The regular-expression engine of a configuration without an engine of its own. -/
def regexEngine (c : Config) : RegexEngine := { mask := c.flags, fixedAnchor := c.fixedAnchor }

/-- The shown form of a configuration, given that of its engine. -/
def render (c : Config) (engine : Option String) : String :=
  s!"ScanConfig(flags={c.flags}, fixed_anchor={Quoted.truth c.fixedAnchor}, " ++
    s!"engine={engine.getD Quoted.missing})"

end Config

end TextScan
