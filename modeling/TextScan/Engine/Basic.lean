import TextScan.Cache

/-!
# Match engines

An engine answers one question: does a pattern match a text at an offset, or from it on. It may
have a state, which every question can change. Nothing else is assumed of an engine: its answer may
be any match at all, or a fault.
-/

namespace TextScan

universe u

/-- An engine's answer. -/
structure Reply where
  /-- The match, nothing, or a fault. -/
  result : Except Fault (Option Match)
  /-- The records written. -/
  log : List Event := []

/-- A match engine whose state is of type `σ`. -/
structure Engine (σ : Type u) where
  /-- Tries a pattern on a text at an offset, within a reach. -/
  attempt : Reach → Pattern → Text → Int → σ → Reply × σ
  /-- Whether the start anchors refer to the start of the text and not to the cursor. -/
  fixedAnchor : σ → Bool
  /-- The shown form of the engine. -/
  render : σ → String

/-- An engine without an implementation. -/
def Engine.bare : Engine Unit where
  attempt _ _ _ _ s := ({ result := .error .unsupported }, s)
  fixedAnchor _ := true
  render _ := ""

end TextScan
