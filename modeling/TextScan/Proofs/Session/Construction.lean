import Mathlib.Data.List.Induction
import Mathlib.Data.List.TakeWhile
import TextScan.Proofs.Session.Sharing

/-!
# A scanner looks at the configuration once

The configuration counts for a scanner only when it is made (`Session.Made`): it says which engine
the scanner gets, unless one is given. An engine of the caller may be any engine, with a state of any
type (`Device.custom`). From then on, what is seen of the scanner comes from its text, this engine
and the turns on it (`Session.Made.outcomes_determined`). If the engine is a regular-expression
engine, or no other scanner asks it for a match, then two programs that differ only in what they do
to the configurations after the scanner is made show the same of it; and if an engine is given, they
may differ before that as well.

For a given engine with a name, this rests on what is found under the name: the engine that was
defined there last, as it was defined but for the turns on it (`Session.deviceUnder_exec`).
-/

namespace TextScan.Session

/-! ## Engines under a name -/

/-- The engine that a line defines under this name, if it defines one. -/
def Line.defines? (name : String) : Line → Option Device
  | .plain (.define name' device) => if name' = name then some device else none
  | _ => none

/-- The engine that lines have defined last under a name; a name that was not defined stands for one
that never matches. -/
def defined (name : String) (lines : List Line) : Device :=
  lines.foldl (fun device line => (line.defines? name).getD device) .silent

/-- Lines that are only about configurations define no engine. -/
theorem defined_filter_scans (name : String) (lines : List Line) :
    defined name (lines.filter Line.scans) = defined name lines := by
  unfold defined
  rw [List.foldl_filter]
  refine congrArg (lines.foldl · Device.silent) (funext fun device => funext fun line => ?_)
  by_cases h : line.scans = true
  · rw [if_pos h]
  · rw [if_neg h]
    unfold Line.defines?
    split
    · exact absurd rfl h
    · rfl

/-- Doing something with a scanner leaves the engines their names. -/
theorem call_findEngine (s : Session) (name : String) (op : Op) (other : String) :
    (s.call name op).2.findEngine other = s.findEngine other := by
  refine findEngine_congr ?_ other
  cases hfound : s.scanners.lookup name with
  | none => rw [call_of_lookup_none hfound]
  | some found =>
    rw [call_eq hfound]
    dsimp only
    rw [List.map_set]
    by_cases hid : found.2 < s.engines.length
    · have hname : (s.engineAt found.2).name =
          (s.engines.map (·.name)).get ⟨found.2, by rwa [List.length_map]⟩ := by
        unfold engineAt
        rw [List.getD_eq_getElem?_getD, List.getElem?_eq_getElem hid]
        simp
      rw [hname]
      exact List.set_getElem_self _
    · refine List.set_eq_of_length_le ?_
      rw [List.length_map]
      exact Nat.le_of_not_lt hid

/-- Between two sessions no engine was defined under a name: what was found there still is, and
where nothing was found is at most an engine that never matches. -/
structure Steady (name : String) (s s' : Session) : Prop where
  /-- What was found is found. -/
  findEngine_eq : ∀ id, s.findEngine name = some id → s'.findEngine name = some id
  /-- What was not found never matches. -/
  deviceUnder_eq : s.findEngine name = none → s'.deviceUnder name = .silent

/-- A name under which nothing is found stands for an engine that never matches. -/
theorem deviceUnder_of_none {s : Session} {name : String} (h : s.findEngine name = none) :
    s.deviceUnder name = .silent := by
  unfold deviceUnder
  rw [h]

/-- What is found under a name is the engine under it. -/
theorem deviceUnder_of_some {s : Session} {name : String} {id : EngineId}
    (h : s.findEngine name = some id) : s.deviceUnder name = (s.engineAt id).device := by
  unfold deviceUnder
  rw [h]

/-- Engines that are added by the way are not defined. -/
theorem Grows.steady {s s' : Session} (h : s.Grows s') (name : String) : Steady name s s' where
  findEngine_eq _ hid := h.findEngine_eq hid
  deviceUnder_eq hnone := (h.deviceUnder_eq name).trans (deviceUnder_of_none hnone)

/-- The same may be found as before. -/
theorem Steady.of_eq {s s' : Session} {name : String}
    (h : s'.findEngine name = s.findEngine name) : Steady name s s' where
  findEngine_eq _ hid := h.trans hid
  deviceUnder_eq hnone := deviceUnder_of_none (h.trans hnone)

/-- A line that defines no engine under a name leaves steady what is found there. -/
theorem exec_steady {k : Machine} {line : Line} {name : String} (hflat : line.Flat)
    (hdefines : line.defines? name = none) :
    Steady name k.session (line.exec k).2.session := by
  rcases line.scans_cases with hscans | ⟨other, device, rfl⟩ | ⟨other, text, choice, rfl⟩ |
    ⟨other, op, rfl⟩
  · obtain ⟨s', hgrows, config, contexts, heq⟩ := exec_of_not_scans hflat hscans k
    have hsteady := hgrows.steady name
    rw [heq]
    exact ⟨hsteady.findEngine_eq, hsteady.deviceUnder_eq⟩
  · refine .of_eq ?_
    show (k.session.addEngine { device, name := some other }).2.findEngine name = _
    rw [findEngine_addEngine, if_neg]
    rintro ⟨⟩
    simp [Line.defines?] at hdefines
  · have hsteady := (grows_engineFor k.session choice).steady name
    show Steady name k.session (k.session.make other text choice)
    rw [make_eq]
    exact ⟨hsteady.findEngine_eq, hsteady.deviceUnder_eq⟩
  · exact .of_eq (call_findEngine k.session other op name)

/-- A line that defines an engine under a name puts it there. -/
theorem exec_defines {k : Machine} {line : Line} {name : String} {device : Device}
    (h : line.defines? name = some device) :
    (line.exec k).2.session.deviceUnder name = device := by
  unfold Line.defines? at h
  split at h
  next other device' =>
    split at h
    next hname =>
      subst hname
      show (k.session.addEngine { device := device', name := some other }).2.deviceUnder other = _
      unfold deviceUnder
      rw [findEngine_addEngine, if_pos rfl]
      dsimp only
      rw [engineAt_addEngine_length, ← Option.some.inj h]
    next => cases h
  next => cases h

/-- A line that defines no engine under a name leaves a regular-expression engine there as it is, and
every other one unless it asks it for a match. -/
theorem exec_deviceUnder {k : Machine} {line : Line} {name : String} (hflat : line.Flat)
    (hc : k.session.cache.Faithful) (hdefines : line.defines? name = none) :
    ((line.exec k).2.session.deviceUnder name).regex? = (k.session.deviceUnder name).regex? ∧
      ((∀ id turn, (line.exec k).2.session.findEngine name = some id →
          line.turn? id k.session = some turn → turn.op.attempts = false) →
        (line.exec k).2.session.deviceUnder name = k.session.deviceUnder name) := by
  have hsteady := exec_steady (k := k) hflat hdefines
  cases hfound : k.session.findEngine name with
  | none =>
    rw [hsteady.deviceUnder_eq hfound, deviceUnder_of_none hfound]
    exact ⟨rfl, fun _ => rfl⟩
  | some id =>
    have hafter := hsteady.findEngine_eq id hfound
    have hdevice := (exec_device hflat hc (findEngine_lt hfound)).2
    rw [← deviceUnder_of_some hfound, ← deviceUnder_of_some hafter] at hdevice
    rw [hdevice]
    cases hturn : line.turn? id k.session with
    | none => exact ⟨rfl, fun _ => rfl⟩
    | some turn =>
      refine ⟨Device.regex?_serve _ _ _, fun hunasked => ?_⟩
      exact Device.serve_of_not_attempts _ (hunasked id turn hafter hturn) _

/-- Under a name stands the engine that was defined there last: a regular-expression engine if it
was one, and, if nobody has asked it for a match, just as it was defined. -/
theorem deviceUnder_exec (name : String) {lines : List Line} (hlines : ∀ line ∈ lines, line.Flat) :
    ((exec lines {}).2.session.deviceUnder name).regex? = (defined name lines).regex? ∧
      ((∀ id, (exec lines {}).2.session.findEngine name = some id →
          ∀ turn ∈ turns id lines {}, turn.op.attempts = false) →
        (exec lines {}).2.session.deviceUnder name = defined name lines) := by
  -- From the back: the last line either defines the engine or leaves steady what is found.
  induction lines using List.reverseRecOn with
  | nil => exact ⟨rfl, fun _ => rfl⟩
  | append_singleton lines line ih =>
    rw [List.forall_mem_append] at hlines
    obtain ⟨hregex, hunasked⟩ := ih hlines.1
    obtain ⟨-, hc⟩ := exec_grounded (k := {}) hlines.1 .empty Cache.Reachable.empty.faithful
    have hflat := hlines.2 line List.mem_cons_self
    have hexec : (exec (lines ++ [line]) {}).2 = (line.exec (exec lines {}).2).2 := by
      rw [exec_append]
      rfl
    have hdefined : defined name (lines ++ [line]) =
        (line.defines? name).getD (defined name lines) := by
      unfold defined
      rw [List.foldl_append]
      rfl
    rw [hexec, hdefined]
    cases hdefines : line.defines? name with
    | some device =>
      rw [exec_defines hdefines]
      exact ⟨rfl, fun _ => rfl⟩
    | none =>
      obtain ⟨hregex', hsame⟩ := exec_deviceUnder hflat hc hdefines
      refine ⟨hregex'.trans hregex, fun h => ?_⟩
      simp only [turns_append, List.forall_mem_append] at h
      have hlast := hsame fun id turn hid hturn => (h id hid).2 turn (by simp [turns, hturn])
      refine hlast.trans (hunasked fun id hid => ?_)
      exact (h id ((exec_steady hflat hdefines).findEngine_eq id hid)).1

/-! ## Scanners that are made -/

/-- Lines that are only about configurations make no scanner and do nothing with one. -/
theorem opsOf_filter_scans (name : String) (lines : List Line) :
    ((lines.filter Line.scans).takeWhile fun line => !line.makes name).filterMap (Line.op? name) =
      (lines.takeWhile fun line => !line.makes name).filterMap (Line.op? name) := by
  induction lines with
  | nil => rfl
  | cons line lines ih =>
    cases hscans : line.scans with
    | true =>
      rw [List.filter_cons_of_pos hscans]
      cases hmakes : line.makes name with
      | true =>
        rw [List.takeWhile_cons_of_neg (by simp [hmakes]),
          List.takeWhile_cons_of_neg (by simp [hmakes])]
      | false =>
        rw [List.takeWhile_cons_of_pos (by simp [hmakes]),
          List.takeWhile_cons_of_pos (by simp [hmakes]), List.filterMap_cons,
          List.filterMap_cons, ih]
    | false =>
      have hmakes : line.makes name = false := by
        unfold Line.makes
        split
        · cases hscans
        · rfl
      have hop : line.op? name = none := by
        unfold Line.op?
        split
        · cases hscans
        · rfl
      rw [List.filter_cons_of_neg (by simp [hscans]), ih,
        List.takeWhile_cons_of_pos (by simp [hmakes]), List.filterMap_cons_none hop]

/-- A scanner that is made in a program. -/
structure Made where
  /-- The program. -/
  program : List Step
  /-- The lines before the one that makes the scanner. -/
  before : List Line
  /-- The name of the scanner. -/
  name : String
  /-- Its text. -/
  text : Text
  /-- The engine that is given, if one is. -/
  choice : Option EngineChoice
  /-- The lines after the one that makes the scanner. -/
  after : List Line
  /-- These are the lines of the program. -/
  listing_eq : listing program = before ++ .plain (.make name text choice) :: after

namespace Made

/-- The machine before the scanner is made. -/
def machine (m : Made) : Machine := (exec m.before {}).2

/-- The machine when the scanner has been made. -/
def next (m : Made) : Machine := ((Line.plain (.make m.name m.text m.choice)).exec m.machine).2

/-- The number of the scanner's engine. -/
def engine (m : Made) : EngineId := (m.machine.session.engineFor m.choice).1

/-- The scanner's engine, as it is when the scanner is made. -/
def device (m : Made) : Device := m.machine.session.deviceFor m.choice

/-- The lines until another scanner is made under the same name. -/
def life (m : Made) : List Line := m.after.takeWhile fun line => !line.makes m.name

/-- What the program shows of the scanner: the outcomes of all operations on it, and the scanner
after each of them. -/
def outcomes (m : Made) : List Scanner.Trace :=
  shown m.name m.life ((written (runSteps m.program {}).1).drop (m.before.length + 1))

/-- The operations on the scanner. -/
def ops (m : Made) : List Op := m.life.filterMap (Line.op? m.name)

/-- The turns on the scanner's engine, its own and those of the scanners that share it. -/
def turns (m : Made) : List Turn := Session.turns m.engine m.life m.next

/-- Nobody but the scanner asks its engine for a match, before it is made or after that. -/
def Private (m : Made) : Prop :=
  (∀ turn ∈ Session.turns m.engine m.before {}, turn.op.attempts = false) ∧
    ∀ turn ∈ Session.turns m.engine m.after m.next, turn.op.attempts = true → turn.name = m.name

instance (m : Made) : Decidable m.Private := inferInstanceAs (Decidable (_ ∧ _))

/-- The lines before the scanner is made, the one that makes it and those after it are flat. -/
theorem flat (m : Made) :
    (∀ line ∈ m.before, line.Flat) ∧ (Line.plain (.make m.name m.text m.choice)).Flat ∧
      ∀ line ∈ m.after, line.Flat := by
  have h : ∀ line ∈ listing m.program, line.Flat := fun line hline => flat_of_mem_listing hline
  rw [m.listing_eq, List.forall_mem_append, List.forall_mem_cons] at h
  exact h

/-- The lines after the scanner begin with its life. -/
theorem after_eq (m : Made) : ∃ rest, m.after = m.life ++ rest :=
  ⟨_, List.takeWhile_append_dropWhile.symm⟩

/-- When it has been made, the scanner has its text and its engine. -/
theorem holds (m : Made) : m.next.session.Holds m.name { text := m.text } m.engine m.device := by
  obtain ⟨hgrounded, hc⟩ :=
    exec_grounded (k := {}) m.flat.1 .empty Cache.Reachable.empty.faithful
  obtain ⟨hlt, hdevice⟩ := engineFor_spec hgrounded.config m.choice
  have hcache := (grows_engineFor m.machine.session m.choice).cache_eq
  show (m.machine.session.make m.name m.text m.choice).Holds _ _ _ _
  rw [make_eq]
  refine ⟨?_, hlt, hdevice, ?_⟩
  · rw [List.lookup_cons, beq_self_eq_true]
    rfl
  · show (m.machine.session.engineFor m.choice).2.cache.Faithful
    rw [hcache]
    exact hc

/-- The results from the scanner on are those of the lines after it. -/
theorem results (m : Made) :
    (written (runSteps m.program {}).1).drop (m.before.length + 1) = (exec m.after m.next).1 := by
  have hlisting : listing m.program =
      (m.before ++ [.plain (.make m.name m.text m.choice)]) ++ m.after := by
    rw [m.listing_eq, List.append_assoc, List.singleton_append]
  have hdrop := written_drop hlisting
  rw [List.length_append, List.length_singleton, exec_append] at hdrop
  exact hdrop

/-- What is seen of the scanner is what the turns on its engine give. -/
theorem outcomes_eq_replay (m : Made) :
    m.outcomes = replay m.name m.turns { text := m.text } m.device ∧
      ownOps m.name m.turns = m.ops := by
  have hlife : ∀ line ∈ m.life, line.Flat ∧ line.makes m.name = false := by
    intro line hline
    refine ⟨m.flat.2.2 line (List.takeWhile_subset _ hline), ?_⟩
    simpa using List.mem_takeWhile_imp hline
  obtain ⟨rest, hrest⟩ := m.after_eq
  unfold outcomes
  rw [m.results, hrest, exec_append]
  exact m.holds.run hlife _

/-- The turns on a private engine that ask for a match are the scanner's own. -/
theorem Private.turns {m : Made} (h : m.Private) :
    ∀ turn ∈ m.turns, turn.op.attempts = true → turn.name = m.name := by
  obtain ⟨rest, hrest⟩ := m.after_eq
  have hafter := h.2
  rw [hrest, turns_append, List.forall_mem_append] at hafter
  exact hafter.1

/-- If the engine keeps no state, or nobody else asks it for a match, then what is seen of the
scanner is what is seen of the operations on it alone. -/
theorem outcomes_eq_run (m : Made) (h : m.device.Stateless ∨ m.Private) :
    m.outcomes = (Scanner.run Device.engine m.ops { text := m.text } (m.device, {})).1 := by
  obtain ⟨houtcomes, hops⟩ := m.outcomes_eq_replay
  rw [houtcomes, ← hops]
  exact replay_eq_run Cache.Reachable.empty.faithful (h.imp_right fun hprivate => hprivate.turns)

/-- The operations on the scanner do not depend on what is done to the configurations. -/
theorem ops_congr {m m' : Made} (hname : m'.name = m.name)
    (hafter : m'.after.filter Line.scans = m.after.filter Line.scans) : m'.ops = m.ops := by
  unfold ops life
  rw [← opsOf_filter_scans, ← opsOf_filter_scans m.name, hname, hafter]

/-- A new engine that is given is what it was given as. -/
theorem device_of_fresh {m : Made} {device : Device} (h : m.choice = some (.fresh device)) :
    m.device = device := by
  unfold Made.device
  rw [h]
  rfl

/-- An engine that is given by its name is what stands under the name. -/
theorem device_of_named {m : Made} {name : String} (h : m.choice = some (.named name)) :
    m.device = m.machine.session.deviceUnder name := by
  unfold device
  rw [h]
  rfl

/-- A private engine that is given by its name is as it was defined. -/
theorem Private.device_of_named {m : Made} (hprivate : m.Private) {name : String}
    (h : m.choice = some (.named name)) : m.device = defined name m.before := by
  rw [Made.device_of_named h]
  refine (deviceUnder_exec name m.flat.1).2 fun id hid => ?_
  have hengine : m.engine = id := by
    unfold engine machine
    rw [h]
    dsimp only [engineFor, choose]
    rw [hid]
  rw [← hengine]
  exact hprivate.1

/-- The scanner's engine does not depend on what is done to the configurations: after the scanner is
made, and if it is given and is a regular-expression engine or private, not before that either. -/
theorem device_congr {m m' : Made} (hchoice : m'.choice = m.choice)
    (hbefore : m'.before = m.before ∨ m.choice.isSome = true ∧
      m'.before.filter Line.scans = m.before.filter Line.scans)
    (h : (∃ e, m.device = .regex e) ∨ m.Private ∧ m'.Private) : m'.device = m.device := by
  rcases hbefore with hsame | ⟨hgiven, hfilter⟩
  · unfold device machine
    rw [hchoice, hsame]
  obtain ⟨choice, hm⟩ := Option.isSome_iff_exists.mp hgiven
  have hm' := hchoice.trans hm
  cases choice with
  | fresh device => rw [device_of_fresh hm, device_of_fresh hm']
  | named name =>
    have hdefined : defined name m'.before = defined name m.before := by
      rw [← defined_filter_scans, hfilter, defined_filter_scans]
    rcases h with ⟨e, he⟩ | ⟨hprivate, hprivate'⟩
    · -- What was defined is then a regular-expression engine, and such an engine never changes.
      have hregex : m'.device.regex? = some e := by
        rw [device_of_named hm']
        calc (m'.machine.session.deviceUnder name).regex?
            = (defined name m'.before).regex? := (deviceUnder_exec name m'.flat.1).1
          _ = (defined name m.before).regex? := by rw [hdefined]
          _ = (m.machine.session.deviceUnder name).regex? := (deviceUnder_exec name m.flat.1).1.symm
          _ = some e := by rw [← device_of_named hm, he]; rfl
      rw [Device.eq_regex_of_regex? hregex, he]
    · rw [hprivate.device_of_named hm, hprivate'.device_of_named hm', hdefined]

end Made

/-- What a program shows of a scanner comes from its text, from its engine as it is when the scanner
is made and from the turns on this engine; the turns of others count only if the engine keeps a
state and they ask it for a match. So if the engine is a regular-expression engine, or nobody else
asks it for a match, another program that differs only in lines about configurations shows the same
of the scanner, where the difference may be after the scanner is made, or anywhere if its engine is
given. -/
theorem Made.outcomes_determined (m : Made) :
    -- What the scanner is made with.
    m.next.session.Holds m.name { text := m.text } m.engine m.device ∧
    -- What is seen of it.
    m.outcomes = replay m.name m.turns { text := m.text } m.device ∧
    ownOps m.name m.turns = m.ops ∧
    (m.device.Stateless ∨ m.Private →
      m.outcomes = (Scanner.run Device.engine m.ops { text := m.text } (m.device, {})).1) ∧
    -- What is seen of it in another program.
    ∀ m' : Made, m'.name = m.name → m'.text = m.text → m'.choice = m.choice →
      m'.after.filter Line.scans = m.after.filter Line.scans →
      (m'.before = m.before ∨ m.choice.isSome = true ∧
        m'.before.filter Line.scans = m.before.filter Line.scans) →
      ((∃ e, m.device = .regex e) ∨ m.Private ∧ m'.Private) →
      m'.outcomes = m.outcomes := by
  refine ⟨m.holds, m.outcomes_eq_replay.1, m.outcomes_eq_replay.2, m.outcomes_eq_run, ?_⟩
  intro m' hname htext hchoice hafter hbefore h
  have hdevice := Made.device_congr hchoice hbefore h
  have halone : m.device.Stateless ∨ m.Private ∧ m'.Private := by
    refine h.imp_left ?_
    rintro ⟨e, he⟩
    rw [he]
    exact Device.stateless_regex e
  rw [m.outcomes_eq_run (halone.imp_right And.left),
    m'.outcomes_eq_run (hdevice ▸ halone.imp_right And.right), hdevice, htext,
    Made.ops_congr hname hafter]

/-- A scanner is given an engine that takes its answers from a script, and is used twice. A second
program installs a configuration with the same engine before that, uses the scanner in a thread and
in a context that fails, and goes back to the default in between: the same is seen of the scanner. -/
theorem Made.outcomes_determined_scripted :
    let device : Device := .script [.ok (some ⟨0, 2, "ab".toList, [], []⟩), .error "worn out"] none
    let define : Step := .define "e" device
    let make : Step := .make "x" "abc".toList (some (.named "e"))
    let scan : Step := .call "x" (.attempt .anchored .scan (.source "ab".toList))
    let config : ConfigSpec := { flags := 2, engine := some (.named "e") }
    let m : Made :=
      { program := [define, make, scan, scan]
        before := [.plain define]
        name := "x", text := "abc".toList, choice := some (.named "e")
        after := [.plain scan, .plain scan]
        listing_eq := rfl }
    let m' : Made :=
      { program := [define, .install config, make, .thread [scan], .reset, .within {} true [scan]]
        before := [.plain define, .plain (.install config)]
        name := "x", text := "abc".toList, choice := some (.named "e")
        after := [.start, .plain scan, .closing, .plain .reset, .opening {}, .plain scan, .closing]
        listing_eq := rfl }
    m.Private ∧ m'.Private ∧ m'.outcomes = m.outcomes ∧
      m.outcomes.map (·.after.pos) = [2, 2] := by
  intro device define make scan config m m'
  have hprivate : m.Private := by decide +kernel
  have hprivate' : m'.Private := by decide +kernel
  have h := (Made.outcomes_determined m).2.2.2.2 m' rfl rfl rfl rfl (.inr ⟨rfl, rfl⟩)
    (.inr ⟨hprivate, hprivate'⟩)
  exact ⟨hprivate, hprivate', h, by decide +kernel⟩

end TextScan.Session
