import TextScan.Session

/-!
# The engines of a session

An engine is never taken away, and its number stays its number. Choosing an engine may add one by
the way (`Session.Grows`): one without a name, or one that never matches, under a name that no
engine has. So the engine that is found under a name stays the same, until one is defined under this
name.
-/

namespace TextScan.Session

/-! ## Adding engines -/

section

variable (s : Session) (entry : EngineEntry)

/-- There is one engine more. -/
theorem length_addEngine : (s.addEngine entry).2.engines.length = s.engines.length + 1 :=
  List.length_append

/-- The engines that were there stay the same. -/
theorem engineAt_addEngine_of_lt {id : EngineId} (h : id < s.engines.length) :
    (s.addEngine entry).2.engineAt id = s.engineAt id := by
  unfold engineAt addEngine
  rw [List.getD_eq_getElem?_getD, List.getD_eq_getElem?_getD, List.getElem?_append_left h]

/-- The new engine has the next number. -/
theorem engineAt_addEngine_length : (s.addEngine entry).2.engineAt s.engines.length = entry := by
  unfold engineAt addEngine
  rw [List.getD_eq_getElem?_getD, List.getElem?_concat_length]
  rfl

/-- The new engine is there, and is what was added. -/
theorem addEngine_spec :
    (s.addEngine entry).1 < (s.addEngine entry).2.engines.length ∧
      ((s.addEngine entry).2.engineAt (s.addEngine entry).1).device = entry.device := by
  refine ⟨?_, congrArg EngineEntry.device (s.engineAt_addEngine_length entry)⟩
  rw [length_addEngine]
  exact Nat.lt_succ_self _

/-- The new engine is found under its name, and every other one as before. -/
theorem findEngine_addEngine (name : String) :
    (s.addEngine entry).2.findEngine name =
      if entry.name = some name then some s.engines.length else s.findEngine name := by
  unfold findEngine addEngine
  dsimp only
  rw [List.reverse_concat, List.findIdx?_cons, List.length_append, List.length_singleton]
  by_cases h : entry.name = some name
  · simp [h]
  · -- All places are counted from the back, where there is one more now.
    rw [if_neg h, if_neg (by simpa using h), Option.map_map]
    refine Option.map_congr fun i _ => ?_
    show s.engines.length + 1 - 1 - (i + 1) = s.engines.length - 1 - i
    omega

end

/-- An engine that is found is there. -/
theorem findEngine_lt {s : Session} {name : String} {id : EngineId}
    (h : s.findEngine name = some id) : id < s.engines.length := by
  unfold findEngine at h
  obtain ⟨i, hi, rfl⟩ := Option.map_eq_some_iff.mp h
  have hlt := (List.findIdx?_eq_some_iff_findIdx_eq.mp hi).1
  rw [List.length_reverse] at hlt
  show s.engines.length - 1 - i < s.engines.length
  omega

/-- Which engine is found depends only on the names of the engines. -/
theorem findEngine_congr {s s' : Session}
    (h : s'.engines.map (·.name) = s.engines.map (·.name)) (name : String) :
    s'.findEngine name = s.findEngine name := by
  have hfind : ∀ l : List EngineEntry, l.reverse.findIdx? (fun e => e.name == some name) =
      (l.map (·.name)).reverse.findIdx? (· == some name) := by
    intro l
    rw [← List.map_reverse, List.findIdx?_map]
    rfl
  have hlength := congrArg List.length h
  rw [List.length_map, List.length_map] at hlength
  unfold findEngine
  rw [hfind, hfind, h, hlength]

/-- The engine under a name as it is; a name that was not defined stands for one that never
matches. -/
def deviceUnder (s : Session) (name : String) : Device :=
  match s.findEngine name with
  | some id => (s.engineAt id).device
  | none => .silent

/-! ## Engines added by the way -/

/-- An engine without a name, or one that never matches, under a name that no engine has. -/
def Incidental (s : Session) (entry : EngineEntry) : Prop :=
  ∀ name, entry.name = some name → s.findEngine name = none ∧ entry.device = .silent

/-- The second session is the first with engines added by the way. -/
inductive Grows (s : Session) : Session → Prop
  /-- Nothing was added. -/
  | refl : s.Grows s
  /-- One more was added. -/
  | add {s' : Session} {entry : EngineEntry} (h : s.Grows s') (hentry : s'.Incidental entry) :
    s.Grows (s'.addEngine entry).2

namespace Grows

variable {s s' s'' : Session}

/-- Engines may be added in several steps. -/
theorem trans (h : s.Grows s') (h' : s'.Grows s'') : s.Grows s'' := by
  induction h' with
  | refl => exact h
  | add _ hentry ih => exact .add ih hentry

/-- Nothing but the engines has changed. -/
theorem eq_with_engines (h : s.Grows s') : s' = { s with engines := s'.engines } := by
  induction h with
  | refl => rfl
  | add _ _ ih =>
    unfold addEngine
    dsimp only
    rw [ih]

/-- The configuration is the same. -/
theorem config_eq (h : s.Grows s') : s'.config = s.config := by rw [h.eq_with_engines]

/-- The contexts that can be left are the same. -/
theorem contexts_eq (h : s.Grows s') : s'.contexts = s.contexts := by rw [h.eq_with_engines]

/-- The scanners are the same. -/
theorem scanners_eq (h : s.Grows s') : s'.scanners = s.scanners := by rw [h.eq_with_engines]

/-- The cache is the same. -/
theorem cache_eq (h : s.Grows s') : s'.cache = s.cache := by rw [h.eq_with_engines]

/-- There are no fewer engines. -/
theorem length_le (h : s.Grows s') : s.engines.length ≤ s'.engines.length := by
  induction h with
  | refl => exact Nat.le_refl _
  | add _ _ ih =>
    rw [length_addEngine]
    omega

/-- The engines that were there are the same. -/
theorem engineAt_eq (h : s.Grows s') {id : EngineId} (hid : id < s.engines.length) :
    s'.engineAt id = s.engineAt id := by
  induction h with
  | refl => rfl
  | add h _ ih => rw [engineAt_addEngine_of_lt _ _ (Nat.lt_of_lt_of_le hid h.length_le), ih]

/-- What was found under a name is found there. -/
theorem findEngine_eq (h : s.Grows s') {name : String} {id : EngineId}
    (hid : s.findEngine name = some id) : s'.findEngine name = some id := by
  induction h with
  | refl => exact hid
  | @add s' entry _ hentry ih =>
    rw [findEngine_addEngine]
    by_cases hname : entry.name = some name
    · rw [(hentry name hname).1] at ih
      cases ih
    · rw [if_neg hname, ih]

/-- The engine under a name is as it was. -/
theorem deviceUnder_eq (h : s.Grows s') (name : String) :
    s'.deviceUnder name = s.deviceUnder name := by
  induction h with
  | refl => rfl
  | @add s' entry _ hentry ih =>
    rw [← ih]
    unfold deviceUnder
    rw [findEngine_addEngine]
    by_cases hname : entry.name = some name
    · obtain ⟨hnone, hsilent⟩ := hentry name hname
      rw [if_pos hname, hnone]
      dsimp only
      rw [engineAt_addEngine_length, hsilent]
    · rw [if_neg hname]
      cases hfound : s'.findEngine name with
      | none => rfl
      | some id =>
        dsimp only
        rw [engineAt_addEngine_of_lt s' entry (findEngine_lt hfound)]

end Grows

/-! ## Choosing engines -/

/-- An engine without a name is added by the way. -/
theorem incidental_unnamed (s : Session) (device : Device) : s.Incidental { device } := by
  rintro name ⟨⟩

/-- A choice adds at most engines. -/
theorem grows_choose (s : Session) (choice : EngineChoice) : s.Grows (s.choose choice).2 := by
  cases choice with
  | fresh device => exact .add .refl (s.incidental_unnamed device)
  | named name =>
    dsimp only [choose]
    cases hfound : s.findEngine name with
    | some id => exact .refl
    | none =>
      refine .add .refl fun name' hname => ?_
      obtain rfl : name = name' := by simpa using hname
      exact ⟨hfound, rfl⟩

/-- A description of a configuration adds at most engines. -/
theorem grows_resolve (s : Session) (spec : ConfigSpec) : s.Grows (s.resolve spec).2 := by
  unfold resolve
  dsimp only
  split
  · exact .refl
  · exact grows_choose s _

/-- The engine of a configuration is there, or is added. -/
theorem grows_configured (s : Session) (c : Config) : s.Grows (s.configured c).2 := by
  unfold configured
  split
  · exact .refl
  · exact .add .refl (s.incidental_unnamed _)

/-- The engine of a configuration, if it has one, is there. -/
def Knows (s : Session) (c : Config) : Prop := ∀ id, c.engine = some id → id < s.engines.length

/-- A configuration stays known. -/
theorem Knows.mono {s s' : Session} {c : Config} (h : s.Knows c)
    (hle : s.engines.length ≤ s'.engines.length) : s'.Knows c :=
  fun id hid => Nat.lt_of_lt_of_le (h id hid) hle

/-- A configuration without an engine is known. -/
theorem knows_of_none (s : Session) {c : Config} (h : c.engine = none) : s.Knows c := by
  intro id hid
  rw [h] at hid
  cases hid

/-- The engine that a choice stands for as it is. -/
def chosenDevice (s : Session) : EngineChoice → Device
  | .fresh device => device
  | .named name => s.deviceUnder name

/-- What is chosen is there, and is what the choice stands for. -/
theorem choose_spec (s : Session) (choice : EngineChoice) :
    (s.choose choice).1 < (s.choose choice).2.engines.length ∧
      ((s.choose choice).2.engineAt (s.choose choice).1).device = s.chosenDevice choice := by
  cases choice with
  | fresh device => exact s.addEngine_spec { device }
  | named name =>
    dsimp only [choose, chosenDevice, deviceUnder]
    cases hfound : s.findEngine name with
    | some id => exact ⟨findEngine_lt hfound, rfl⟩
    | none => exact s.addEngine_spec _

/-- A configuration that is described is known. -/
theorem knows_resolve (s : Session) (spec : ConfigSpec) :
    (s.resolve spec).2.Knows (s.resolve spec).1 := by
  unfold resolve
  dsimp only
  cases spec.engine with
  | none => exact knows_of_none _ rfl
  | some choice =>
    rintro id hid
    obtain rfl : (s.choose choice).1 = id := Option.some.inj hid
    exact (s.choose_spec choice).1

/-! ## Scanners -/

/-- The engine for a scanner that is made: the one that is given, or else that of the active
configuration. -/
def engineFor (s : Session) : Option EngineChoice → EngineId × Session
  | some choice => s.choose choice
  | none => s.configured s.config

/-- The engine for a scanner that is made, as it is: the one that is given, or else the one that the
active configuration has, or else a regular-expression engine with its settings. -/
def deviceFor (s : Session) : Option EngineChoice → Device
  | some choice => s.chosenDevice choice
  | none =>
    match s.config.engine with
    | some id => (s.engineAt id).device
    | none => .regex s.config.regexEngine

/-- A scanner is made with its engine. -/
theorem make_eq (s : Session) (name : String) (text : Text) (choice : Option EngineChoice) :
    s.make name text choice =
      { (s.engineFor choice).2 with
        scanners := (name, { text }, (s.engineFor choice).1) ::
          (s.engineFor choice).2.scanners.filter (·.1 != name) } := by
  cases choice <;> rfl

/-- Finding the engine for a scanner adds at most engines. -/
theorem grows_engineFor (s : Session) (choice : Option EngineChoice) :
    s.Grows (s.engineFor choice).2 := by
  cases choice with
  | some choice => exact grows_choose s choice
  | none => exact grows_configured s s.config

/-- The engine for a scanner is there, and is what it should be. -/
theorem engineFor_spec {s : Session} (h : s.Knows s.config) (choice : Option EngineChoice) :
    (s.engineFor choice).1 < (s.engineFor choice).2.engines.length ∧
      ((s.engineFor choice).2.engineAt (s.engineFor choice).1).device = s.deviceFor choice := by
  cases choice with
  | some choice => exact s.choose_spec choice
  | none =>
    dsimp only [engineFor, configured, deviceFor]
    cases hengine : s.config.engine with
    | some id => exact ⟨h id hengine, rfl⟩
    | none => exact s.addEngine_spec _

/-- Making a scanner leaves the configurations as they are. -/
theorem make_configs (s : Session) (name : String) (text : Text) (choice : Option EngineChoice) :
    (s.make name text choice).config = s.config ∧
      (s.make name text choice).contexts = s.contexts := by
  rw [make_eq]
  exact ⟨(grows_engineFor s choice).config_eq, (grows_engineFor s choice).contexts_eq⟩

/-- Doing something with a scanner leaves the number of engines as it is. -/
theorem call_length (s : Session) (name : String) (op : Op) :
    (s.call name op).2.engines.length = s.engines.length := by
  unfold call
  split
  · rfl
  · exact List.length_set

/-- Doing something with a scanner leaves the configurations as they are. -/
theorem call_configs (s : Session) (name : String) (op : Op) :
    (s.call name op).2.config = s.config ∧ (s.call name op).2.contexts = s.contexts := by
  unfold call
  split <;> exact ⟨rfl, rfl⟩

end TextScan.Session
