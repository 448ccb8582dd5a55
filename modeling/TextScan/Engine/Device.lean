import TextScan.Engine.Regex

/-!
# Engines with their states

A `Device` is an engine together with the state that it is in: the regular-expression engine, whose
state is the cache of compiled patterns that all such engines share, or any other engine, with a
state of its own. Some simple engines that ignore the pattern are of use in experiments. One of
these takes its answers from a script, so a device can change when it is used.
-/

namespace TextScan

/-! ## Simple engines -/

namespace Engine

/-- The match of a given size at a distance from the cursor. -/
def shifted (distance size : Int) (t : Text) (pos : Int) : Match :=
  let start := pos + distance
  { start, stop := start + size, value := t.slice start (start + size) }

/-- Matches `size` characters at a distance from the cursor, whatever they are. -/
def shift (distance size : Int) : Engine Unit where
  attempt _ _ t pos state := ({ result := .ok (some (shifted distance size t pos)) }, state)
  fixedAnchor _ := true
  render _ := "ShiftEngine"

/-- Never matches. -/
def silent : Engine Unit where
  attempt _ _ _ _ state := ({ result := .ok none }, state)
  fixedAnchor _ := true
  render _ := "ProtocolEngine"

end Engine

/-- An answer written down in advance: a failure with a message, a match or none. -/
abbrev Scripted := Except String (Option Match)

/-- The reply that an answer of a script stands for. -/
def Scripted.reply : Scripted → Reply
  | .ok m => { result := .ok m }
  | .error message => { result := .error (.engine message) }

/-- Gives the answers of a script in turn, and then no match. An engine that does not say whether
start anchors refer to the start of the text counts as if they did. -/
def Engine.script (anchor : Option Bool) : Engine (List Scripted) where
  attempt _ _ _ _
    | [] => ({ result := .ok none }, [])
    | answer :: answers => (answer.reply, answers)
  fixedAnchor _ := anchor.getD true
  render _ := "ScriptEngine"

/-! ## Devices -/

/-- An engine in a state. -/
inductive Device where
  /-- The regular-expression engine. -/
  | regex (settings : RegexEngine)
  /-- Any other engine, with the state that it is in. -/
  | custom {σ : Type} (E : Engine σ) (state : σ)

namespace Device

/-- A device that matches a number of characters at a distance from the cursor. -/
def shift (distance size : Int) : Device := .custom (Engine.shift distance size) ()

/-- A device that gives the answers of a script. -/
def script (answers : List Scripted) (anchor : Option Bool) : Device :=
  .custom (Engine.script anchor) answers

/-- A device that never matches. -/
def silent : Device := .custom Engine.silent ()

/-- Tries a pattern. The state is the device itself and the cache of compiled patterns. -/
def attempt (reach : Reach) (p : Pattern) (t : Text) (pos : Int) :
    Device × Cache → Reply × (Device × Cache)
  | (.regex e, c) =>
    let (reply, c) := e.attempt reach p t pos c
    (reply, (.regex e, c))
  | (.custom E state, c) =>
    let (reply, state) := E.attempt reach p t pos state
    (reply, (.custom E state, c))

/-- Whether start anchors refer to the start of the text. -/
def fixedAnchor : Device → Bool
  | .regex e => e.fixedAnchor
  | .custom E state => E.fixedAnchor state

/-- The shown form of a device. -/
def render : Device → String
  | .regex e => e.render
  | .custom E state => E.render state

/-- The engine that uses the device in its state. -/
def engine : Engine (Device × Cache) where
  attempt := attempt
  fixedAnchor s := s.1.fixedAnchor
  render s := s.1.render

end Device

end TextScan
