import TextScan.Config
import TextScan.Scanner.Step

/-!
# Sessions

A session is what several scanners share: the engines, the cache of compiled patterns and the
configuration. The configuration belongs to a thread. A context installs a configuration and, when
it is left, the one that was active when it was entered; a thread starts with the default
configuration, and what it changes is not seen outside.

A `Step` is one thing done in a session. Steps nest, because contexts and threads have steps of
their own.
-/

namespace TextScan

/-! ## Steps -/

/-- An engine as a step names it. -/
inductive EngineChoice where
  /-- A new engine. -/
  | fresh (device : Device)
  /-- The engine defined under a name. -/
  | named (name : String)

/-- A configuration as a step describes it. -/
structure ConfigSpec where
  /-- The flags, as a mask. -/
  flags : Int := 0
  /-- Whether start anchors refer to the start of the text. -/
  fixedAnchor : Bool := true
  /-- The engine, if one is chosen. -/
  engine : Option EngineChoice := none

/-- A setting given by name, with a value that fits it. -/
inductive Setting where
  /-- The flags, as a mask. -/
  | flags (mask : Int)
  /-- Whether start anchors refer to the start of the text. -/
  | fixedAnchor (b : Bool)
  /-- The engine, or that none is chosen. -/
  | engine (choice : Option EngineChoice)
  /-- A name that no setting has, with whatever value. -/
  | unknown (name : String)

namespace ConfigSpec

/-- A description with one setting changed; names that no setting has are ignored. -/
def assign (spec : ConfigSpec) : Setting → ConfigSpec
  | .flags mask => { spec with flags := mask }
  | .fixedAnchor b => { spec with fixedAnchor := b }
  | .engine choice => { spec with engine := choice }
  | .unknown _ => spec

/-- The description that named settings give; what they do not mention has its default. -/
def ofSettings (settings : List Setting) : ConfigSpec := settings.foldl assign {}

end ConfigSpec

/-- One thing done in a session. -/
inductive Step where
  /-- Looks at the active configuration. -/
  | view
  /-- Installs a configuration. -/
  | install (spec : ConfigSpec)
  /-- Installs the default configuration. -/
  | reset
  /-- Looks at the configuration that named settings give. -/
  | viewSettings (settings : List Setting)
  /-- Installs the configuration that named settings give. -/
  | installSettings (settings : List Setting)
  /-- Names the engine that a configuration gives. -/
  | nameEngine (spec : ConfigSpec)
  /-- Compares two configurations. -/
  | compare (first second : ConfigSpec)
  /-- Tries to change a field of a configuration. -/
  | assign (field : String)
  /-- Defines an engine under a name. -/
  | define (name : String) (device : Device)
  /-- Makes a scanner under a name. -/
  | make (name : String) (text : Text) (engine : Option EngineChoice)
  /-- Does something with a scanner. -/
  | call (name : String) (op : Op)
  /-- Enters a context, to be left later. -/
  | enter (handle : String) (spec : ConfigSpec)
  /-- Leaves a context that was entered. -/
  | leave (handle : String)
  /-- Carries out steps in a context, which may be left by a failure. -/
  | within (spec : ConfigSpec) (fails : Bool) (steps : List Step)
  /-- Carries out steps in a thread of their own. -/
  | thread (steps : List Step)

/-- A configuration as it is looked at. -/
structure ConfigView where
  /-- The configuration. -/
  config : Config
  /-- What its engine is called. -/
  engine : Option String
  /-- Its shown form. -/
  shown : String

/-- What a step gives. -/
inductive StepResult where
  /-- Nothing. -/
  | none
  /-- A configuration. -/
  | view (v : ConfigView)
  /-- What an engine is called. -/
  | engineName (s : String)
  /-- A truth value. -/
  | flag (b : Bool)
  /-- A fault. -/
  | fault (f : Fault)
  /-- The outcome of an operation, and the scanner after it. -/
  | called (trace : Scanner.Trace)
  /-- The results of the steps in a context, and whether it was left by a failure. -/
  | within (results : List StepResult) (failed : Bool)
  /-- The results of the steps in a thread. -/
  | thread (results : List StepResult)

/-! ## State -/

/-- An engine of a session, with the name under which it was defined. -/
structure EngineEntry where
  /-- The engine. -/
  device : Device
  /-- Its name. -/
  name : Option String := none

/-- What the scanners of a session share, as one of its threads sees it. -/
structure Session where
  /-- The configuration of the thread. -/
  config : Config := {}
  /-- The engines; an engine's number is its place. -/
  engines : List EngineEntry := []
  /-- The scanners by name, the latest first, each with its engine. No name occurs twice. -/
  scanners : List (String × Scanner × EngineId) := []
  /-- The contexts that can be left, the latest first, each with the configuration that was active
  when it was entered. -/
  contexts : List (String × Config) := []
  /-- The cache of compiled patterns. -/
  cache : Cache := {}

namespace Session

/-! ## Engines -/

/-- The engine with a number; a number without an engine stands for one that never matches. -/
def engineAt (s : Session) (id : EngineId) : EngineEntry := s.engines.getD id { device := .silent }

/-- What an engine is called: its name, or else its shown form. -/
def engineName (s : Session) (id : EngineId) : String :=
  (s.engineAt id).name.getD (s.engineAt id).device.render

/-- Adds an engine. -/
def addEngine (s : Session) (entry : EngineEntry) : EngineId × Session :=
  (s.engines.length, { s with engines := s.engines ++ [entry] })

/-- The number of the engine defined last under a name, if there is one. -/
def findEngine (s : Session) (name : String) : Option EngineId :=
  (s.engines.reverse.findIdx? fun e => e.name == some name).map (s.engines.length - 1 - ·)

/-- The engine that a choice stands for, which may be a new one. A name that was not defined stands
for an engine that never matches. -/
def choose (s : Session) : EngineChoice → EngineId × Session
  | .fresh device => s.addEngine { device }
  | .named name =>
    match s.findEngine name with
    | some id => (id, s)
    | none => s.addEngine { device := .silent, name := some name }

/-- The configuration that a description stands for. -/
def resolve (s : Session) (spec : ConfigSpec) : Config × Session :=
  let plain : Config := { flags := spec.flags, fixedAnchor := spec.fixedAnchor }
  match spec.engine with
  | none => (plain, s)
  | some choice =>
    let (id, s) := s.choose choice
    ({ plain with engine := some id }, s)

/-- The engine for a new scanner: the configuration's own, or a new one with its settings. -/
def configured (s : Session) (c : Config) : EngineId × Session :=
  match c.engine with
  | some id => (id, s)
  | none => s.addEngine { device := .regex c.regexEngine }

/-! ## Configurations -/

/-- Installs a configuration. -/
def install (s : Session) (c : Config) : Session := { s with config := c }

/-- How a configuration looks. -/
def viewOf (s : Session) (c : Config) : ConfigView where
  config := c
  engine := c.engine.map s.engineName
  shown := c.render (c.engine.map fun id => (s.engineAt id).device.render)

/-- Enters a context. -/
def enter (s : Session) (handle : String) (c : Config) : Session :=
  { s with config := c, contexts := (handle, s.config) :: s.contexts }

/-- Leaves a context; a context that is not there to be left changes nothing. -/
def leave (s : Session) (handle : String) : Session :=
  match s.contexts.lookup handle with
  | none => s
  | some saved =>
    { s with config := saved, contexts := s.contexts.eraseP (·.1 == handle) }

/-! ## Scanners -/

/-- Makes a scanner under a name, in place of an earlier one. The configuration is looked at here and
not again. -/
def make (s : Session) (name : String) (text : Text) (engine : Option EngineChoice) : Session :=
  let (id, s) :=
    match engine with
    | some choice => s.choose choice
    | none => s.configured s.config
  { s with scanners := (name, { text }, id) :: s.scanners.filter (·.1 != name) }

/-- Does something with a scanner. -/
def call (s : Session) (name : String) (op : Op) : StepResult × Session :=
  match s.scanners.lookup name with
  | none => (.none, s)
  | some (scanner, id) =>
    let entry := s.engineAt id
    let (outcome, scanner, device, cache) := scanner.step Device.engine op (entry.device, s.cache)
    let s := { s with
      engines := s.engines.set id { entry with device }
      scanners := s.scanners.map fun (n, sc, i) => if n == name then (n, scanner, i) else (n, sc, i)
      cache }
    (.called ⟨outcome, scanner⟩, s)

/-! ## Running -/

mutual

/-- Carries out one step. -/
def step : Step → Session → StepResult × Session
  | .view, s => (.view (s.viewOf s.config), s)
  | .install spec, s =>
    let (c, s) := s.resolve spec
    (.none, s.install c)
  | .reset, s => (.none, s.install {})
  | .viewSettings settings, s =>
    let (c, s) := s.resolve (.ofSettings settings)
    (.view (s.viewOf c), s)
  | .installSettings settings, s =>
    let (c, s) := s.resolve (.ofSettings settings)
    (.none, s.install c)
  | .nameEngine spec, s =>
    let (c, s) := s.resolve spec
    let (id, s) := s.configured c
    (.engineName (s.engineName id), s)
  | .compare first second, s =>
    let (c, s) := s.resolve first
    let (d, s) := s.resolve second
    (.flag (c == d), s)
  | .assign field, s => (.fault (.frozen field), s)
  | .define name device, s => (.none, (s.addEngine { device, name := some name }).2)
  | .make name text engine, s => (.none, s.make name text engine)
  | .call name op, s => s.call name op
  | .enter handle spec, s =>
    let (c, s) := s.resolve spec
    (.none, s.enter handle c)
  | .leave handle, s => (.none, s.leave handle)
  | .within spec fails steps, s =>
    let before := s.config
    let (c, s) := s.resolve spec
    let (results, s) := runSteps steps (s.install c)
    (.within results fails, s.install before)
  | .thread steps, s =>
    let before := s.config
    let (results, s) := runSteps steps (s.install {})
    (.thread results, s.install before)

/-- Carries out steps one after the other. -/
def runSteps : List Step → Session → List StepResult × Session
  | [], s => ([], s)
  | first :: rest, s =>
    let (result, s) := step first s
    let (results, s) := runSteps rest s
    (result :: results, s)

end

end Session

end TextScan
