import TextScan.Proofs.Session.Lines

/-!
# Scanners that share an engine

Along the lines of a program, an engine is used in turns by the scanners that have it
(`Session.turns`). What is seen of one of these scanners comes from its text, from the engine and
from these turns: it is what the turns give when they are taken again on a scanner and an engine by
themselves (`Session.replay`, `Session.Holds.run`). Lines that use another engine, or none, do not
count, whatever they do to the configurations.

If the engine keeps no state, or no other scanner asks it for a match, the turns of the others do
not count either (`Session.replay_eq_run`).
-/

namespace TextScan

/-! ## Devices -/

/-- Whether an operation asks the engine for a match. -/
def Op.attempts : Op → Bool
  | .attempt .. => true
  | _ => false

namespace Device

/-- What is seen of an operation on a scanner that has the device, and the device after it. -/
def serve (d : Device) (op : Op) (s : Scanner) : Scanner.Trace × Device :=
  let out := s.step engine op (d, {})
  (⟨out.1, out.2.1⟩, out.2.2.1)

/-- A device whose state is always the same. -/
def Stateless (d : Device) : Prop := ∀ op s, (d.serve op s).2 = d

/-- The settings of a device that is a regular-expression engine. -/
def regex? : Device → Option RegexEngine
  | .regex e => some e
  | _ => none

section

variable {c c' : Cache} (hc : c.Faithful) (hc' : c'.Faithful) (d : Device)
include hc hc'

/-- A device answers and changes in the same way with all faithful caches. -/
theorem attempt_faithful_eq (reach : Reach) (p : Pattern) (t : Text) (pos : Int) :
    (attempt reach p t pos (d, c)).1 = (attempt reach p t pos (d, c')).1 ∧
      (attempt reach p t pos (d, c)).2.1 = (attempt reach p t pos (d, c')).2.1 := by
  cases d with
  | regex e =>
    refine ⟨?_, rfl⟩
    show (e.attempt reach p t pos c).1 = (e.attempt reach p t pos c').1
    rw [RegexEngine.attempt_fst hc, RegexEngine.attempt_fst hc']
  | custom E state => exact ⟨rfl, rfl⟩

/-- An operation on a scanner is the same with all faithful caches. -/
theorem step_faithful_eq (op : Op) (s : Scanner) :
    (s.step engine op (d, c)).1 = (s.step engine op (d, c')).1 ∧
      (s.step engine op (d, c)).2.1 = (s.step engine op (d, c')).2.1 ∧
      (s.step engine op (d, c)).2.2.1 = (s.step engine op (d, c')).2.2.1 := by
  have hattempt := attempt_faithful_eq hc hc' d
  obtain ⟨hout, hnext⟩ := Scanner.step_congr engine engine
    (fun reach p t pos => (hattempt reach p t pos).1) rfl rfl op s
  refine ⟨hout, hnext, ?_⟩
  rw [Scanner.step_engine_state, Scanner.step_engine_state]
  cases op with
  | attempt reach use p => exact (hattempt reach p s.text s.pos).2
  | _ => rfl

end

/-- An operation on a scanner with a faithful cache. -/
theorem serve_eq (d : Device) {c : Cache} (hc : c.Faithful) (op : Op) (s : Scanner) :
    d.serve op s =
      (⟨(s.step engine op (d, c)).1, (s.step engine op (d, c)).2.1⟩,
        (s.step engine op (d, c)).2.2.1) := by
  obtain ⟨hout, hnext, hdevice⟩ := step_faithful_eq Cache.Reachable.empty.faithful hc d op s
  unfold serve
  dsimp only
  rw [hout, hnext, hdevice]

/-- A device changes only when it is asked for a match. -/
theorem serve_of_not_attempts (d : Device) {op : Op} (h : op.attempts = false) (s : Scanner) :
    (d.serve op s).2 = d := by
  unfold serve
  dsimp only
  rw [Scanner.step_engine_state]
  cases op with
  | attempt => cases h
  | _ => rfl

/-- A device stays a regular-expression engine, or none. -/
theorem regex?_serve (d : Device) (op : Op) (s : Scanner) : (d.serve op s).2.regex? = d.regex? := by
  refine Scanner.step_state engine (P := fun state => state.1.regex? = d.regex?) ?_ op s rfl
  rintro reach p t pos ⟨device, c⟩ hdevice
  rw [← hdevice]
  cases device <;> rfl

/-- The settings tell what a regular-expression engine is. -/
theorem eq_regex_of_regex? {d : Device} {e : RegexEngine} (h : d.regex? = some e) :
    d = .regex e := by
  cases d with
  | regex e' => rw [Option.some.inj h]
  | _ => cases h

/-- A regular-expression engine keeps no state. -/
theorem stateless_regex (e : RegexEngine) : (regex e).Stateless :=
  fun op s => eq_regex_of_regex? (regex?_serve (.regex e) op s)

end Device

namespace Session

/-! ## Turns -/

/-- An operation on a scanner that has a certain engine. -/
structure Turn where
  /-- The name of the scanner. -/
  name : String
  /-- The scanner before the operation. -/
  scanner : Scanner
  /-- The operation. -/
  op : Op

/-- The turn that a line is, if it does something with a scanner that has this engine. -/
def Line.turn? (id : EngineId) (s : Session) : Line → Option Turn
  | .plain (.call name op) =>
    match s.scanners.lookup name with
    | some (scanner, id') => if id' = id then some ⟨name, scanner, op⟩ else none
    | none => none
  | _ => none

/-- The turns in which an engine is used along lines. -/
def turns (id : EngineId) : List Line → Machine → List Turn
  | [], _ => []
  | line :: lines, k => (line.turn? id k.session).toList ++ turns id lines (line.exec k).2

/-- The turns along lines that follow others come after theirs. -/
theorem turns_append (id : EngineId) (lines more : List Line) (k : Machine) :
    turns id (lines ++ more) k = turns id lines k ++ turns id more (exec lines k).2 := by
  induction lines generalizing k with
  | nil => rfl
  | cons line lines ih => rw [List.cons_append, turns, ih, turns, List.append_assoc, exec_cons]

/-- What is seen of the scanner with this name when turns are taken on a scanner and an engine. -/
def replay (name : String) : List Turn → Scanner → Device → List Scanner.Trace
  | [], _, _ => []
  | turn :: turns, s, d =>
    if turn.name = name then
      (d.serve turn.op s).1 ::
        replay name turns (d.serve turn.op s).1.after (d.serve turn.op s).2
    else replay name turns s (d.serve turn.op turn.scanner).2

/-- The operations of the turns that are those of the scanner with this name. -/
def ownOps (name : String) (turns : List Turn) : List Op :=
  (turns.filter (·.name == name)).map (·.op)

section

variable {name : String} {turn : Turn} (turns : List Turn)

/-- A turn of the scanner itself is seen. -/
theorem replay_cons_self (h : turn.name = name) (s : Scanner) (d : Device) :
    replay name (turn :: turns) s d =
      (d.serve turn.op s).1 ::
        replay name turns (d.serve turn.op s).1.after (d.serve turn.op s).2 := if_pos h

/-- A turn of another scanner counts only for the engine. -/
theorem replay_cons_of_ne (h : turn.name ≠ name) (s : Scanner) (d : Device) :
    replay name (turn :: turns) s d = replay name turns s (d.serve turn.op turn.scanner).2 :=
  if_neg h

/-- A turn of the scanner itself is one of its operations. -/
theorem ownOps_cons_self (h : turn.name = name) :
    ownOps name (turn :: turns) = turn.op :: ownOps name turns := by
  unfold ownOps
  rw [List.filter_cons_of_pos (by simpa using h), List.map_cons]

/-- A turn of another scanner is none of its operations. -/
theorem ownOps_cons_of_ne (h : turn.name ≠ name) :
    ownOps name (turn :: turns) = ownOps name turns := by
  unfold ownOps
  rw [List.filter_cons_of_neg (by simpa using h)]

end

/-- If the engine keeps no state, or is asked for matches by one scanner only, then what is seen of
this scanner is what is seen of its operations alone. -/
theorem replay_eq_run {name : String} {turns : List Turn} {s : Scanner} {d : Device} {c : Cache}
    (hc : c.Faithful)
    (h : d.Stateless ∨ ∀ turn ∈ turns, turn.op.attempts = true → turn.name = name) :
    replay name turns s d = (s.run Device.engine (ownOps name turns) (d, c)).1 := by
  -- The run alone has a cache of its own; all that matters of it is that it is faithful.
  induction turns generalizing s d c with
  | nil => rfl
  | cons turn turns ih =>
    have hdevice : d.Stateless → ∀ op s, (d.serve op s).2.Stateless := by
      intro hd op s
      rw [hd op s]
      exact hd
    by_cases hname : turn.name = name
    · rw [replay_cons_self turns hname, ownOps_cons_self turns hname, Scanner.run_cons,
        d.serve_eq hc]
      dsimp only
      refine congrArg _ ?_
      have hfaithful := Scanner.step_state Device.engine (P := fun state => state.2.Faithful)
        (fun reach p t pos state hc => Device.attempt_faithful reach p t pos state hc) turn.op s
        (e := (d, c)) hc
      refine ih hfaithful (h.imp (fun hd => ?_) fun hturns => (List.forall_mem_cons.mp hturns).2)
      have hnext := hdevice hd turn.op s
      rwa [d.serve_eq hc] at hnext
    · rw [replay_cons_of_ne turns hname, ownOps_cons_of_ne turns hname]
      -- The turn is another scanner's, so it is none that could change the engine.
      have hsame : (d.serve turn.op turn.scanner).2 = d := by
        rcases h with hd | hturns
        · exact hd turn.op turn.scanner
        · refine d.serve_of_not_attempts ?_ turn.scanner
          cases hattempts : turn.op.attempts with
          | false => rfl
          | true => exact absurd ((List.forall_mem_cons.mp hturns).1 hattempts) hname
      rw [hsame]
      exact ih hc (h.imp_right fun hturns => (List.forall_mem_cons.mp hturns).2)

/-! ## Lines -/

/-- Doing something with a scanner changes an engine only by a turn. -/
theorem call_device {s : Session} (hc : s.cache.Faithful) (name : String) (op : Op) {id : EngineId}
    (hid : id < s.engines.length) :
    ((s.call name op).2.engineAt id).device =
      match (Line.plain (.call name op)).turn? id s with
      | some turn => ((s.engineAt id).device.serve turn.op turn.scanner).2
      | none => (s.engineAt id).device := by
  dsimp only [Line.turn?]
  cases hfound : s.scanners.lookup name with
  | none => rw [call_of_lookup_none hfound]
  | some found =>
    obtain ⟨scanner, id'⟩ := found
    rw [call_eq hfound]
    dsimp only
    rw [engineAt, List.getD_eq_getElem?_getD]
    by_cases hsame : id' = id
    · subst hsame
      rw [if_pos rfl, List.getElem?_set_self hid]
      dsimp only
      rw [Device.serve_eq _ hc]
      rfl
    · rw [if_neg hsame, List.getElem?_set_ne hsame, ← List.getD_eq_getElem?_getD]
      rfl

/-- A line that is only about configurations is no turn. -/
theorem turn?_of_not_scans {line : Line} (h : line.scans = false) (id : EngineId) (s : Session) :
    line.turn? id s = none := by
  unfold Line.turn?
  split
  · cases h
  · rfl

/-- A line takes no engine away, and changes one only by a turn. -/
theorem exec_device {k : Machine} {line : Line} (hflat : line.Flat)
    (hc : k.session.cache.Faithful) {id : EngineId} (hid : id < k.session.engines.length) :
    id < (line.exec k).2.session.engines.length ∧
      ((line.exec k).2.session.engineAt id).device =
        match line.turn? id k.session with
        | some turn => ((k.session.engineAt id).device.serve turn.op turn.scanner).2
        | none => (k.session.engineAt id).device := by
  rcases line.scans_cases with h | ⟨name, device, rfl⟩ | ⟨name, text, choice, rfl⟩ | ⟨name, op, rfl⟩
  · obtain ⟨s', hgrows, config, contexts, heq⟩ := exec_of_not_scans hflat h k
    rw [heq, turn?_of_not_scans h]
    refine ⟨Nat.lt_of_lt_of_le hid hgrows.length_le, ?_⟩
    exact congrArg EngineEntry.device (hgrows.engineAt_eq hid)
  · refine ⟨?_, congrArg EngineEntry.device (engineAt_addEngine_of_lt _ _ hid)⟩
    show id < (k.session.addEngine _).2.engines.length
    rw [length_addEngine]
    exact Nat.lt_succ_of_lt hid
  · have hgrows := grows_engineFor k.session choice
    show id < (k.session.make name text choice).engines.length ∧
      ((k.session.make name text choice).engineAt id).device = _
    rw [make_eq]
    refine ⟨Nat.lt_of_lt_of_le hid hgrows.length_le, ?_⟩
    exact congrArg EngineEntry.device (hgrows.engineAt_eq hid)
  · refine ⟨?_, call_device hc name op hid⟩
    show id < (k.session.call name op).2.engines.length
    rwa [call_length]

/-! ## What is seen of a scanner -/

/-- Whether a line makes a scanner under this name. -/
def Line.makes (name : String) : Line → Bool
  | .plain (.make name' _ _) => name' == name
  | _ => false

/-- The operation on the scanner with this name, if the line is one. -/
def Line.op? (name : String) : Line → Option Op
  | .plain (.call name' op) => if name' = name then some op else none
  | _ => none

/-- What is seen of the scanner with this name in the result of a line. -/
def Line.trace? (name : String) (line : Line) : StepResult → Option Scanner.Trace
  | .called trace => if (line.op? name).isSome then some trace else none
  | _ => none

/-- What is seen of the scanner with this name in the results of lines. -/
def shown (name : String) (lines : List Line) (results : List StepResult) : List Scanner.Trace :=
  (lines.zip results).filterMap fun x => x.1.trace? name x.2

/-- What is seen in the result of the first line comes first. -/
theorem shown_cons (name : String) (line : Line) (lines : List Line) (result : StepResult)
    (results : List StepResult) :
    shown name (line :: lines) (result :: results) =
      (line.trace? name result).toList ++ shown name lines results := by
  unfold shown
  rw [List.zip_cons_cons, List.filterMap_cons]
  cases line.trace? name result <;> rfl

/-- The session has a scanner under a name, with this engine as it is, and its cache is faithful. -/
structure Holds (s : Session) (name : String) (scanner : Scanner) (id : EngineId)
    (device : Device) : Prop where
  /-- The scanner. -/
  scanner_eq : s.scanners.lookup name = some (scanner, id)
  /-- Its engine is there. -/
  lt_length : id < s.engines.length
  /-- The engine. -/
  device_eq : (s.engineAt id).device = device
  /-- The cache. -/
  faithful : s.cache.Faithful

/-- What is found under a name does not depend on what is kept under others. -/
theorem lookup_filter_ne {α : Type} (l : List (String × α)) {name other : String}
    (h : name ≠ other) : (l.filter (·.1 != other)).lookup name = l.lookup name := by
  induction l with
  | nil => rfl
  | cons entry l ih =>
    by_cases hother : entry.1 = other
    · rw [List.filter_cons_of_neg (by simpa using hother), ih, List.lookup_cons,
        beq_eq_false_iff_ne.mpr (hother ▸ h)]
    · rw [List.filter_cons_of_pos (by simpa using hother), List.lookup_cons, List.lookup_cons, ih]

/-- An operation on a scanner is a call. -/
theorem eq_call_of_op? {line : Line} {name : String} {op : Op} (h : line.op? name = some op) :
    line = .plain (.call name op) := by
  unfold Line.op? at h
  split at h
  next name' op' =>
    split at h
    next hname => rw [hname, Option.some.inj h]
    next => cases h
  next => cases h

/-- A turn is an operation on the scanner that it names. -/
theorem op?_of_turn? {line : Line} {id : EngineId} {s : Session} {turn : Turn}
    (h : line.turn? id s = some turn) : line.op? turn.name = some turn.op := by
  unfold Line.turn? at h
  split at h
  · split at h
    · split at h
      · cases h
        exact if_pos rfl
      · cases h
    · cases h
  · cases h

namespace Holds

variable {k : Machine} {line : Line} {name : String} {scanner : Scanner} {id : EngineId}
  {device : Device}

/-- A line that is not about the scanner leaves it as it is, and changes its engine by a turn. -/
theorem exec_other (h : k.session.Holds name scanner id device) (hflat : line.Flat)
    (hmakes : line.makes name = false) (hop : line.op? name = none) :
    (line.exec k).2.session.Holds name scanner id
      (match line.turn? id k.session with
      | some turn => (device.serve turn.op turn.scanner).2
      | none => device) := by
  obtain ⟨hlt, hdevice⟩ := exec_device hflat h.faithful h.lt_length
  rw [h.device_eq] at hdevice
  refine ⟨?_, hlt, hdevice, exec_faithful hflat h.faithful⟩
  -- What is left to see is that the scanner itself stays.
  rw [← h.scanner_eq]
  rcases line.scans_cases with hscans | ⟨other, device, rfl⟩ | ⟨other, text, choice, rfl⟩ |
    ⟨other, op, rfl⟩
  · obtain ⟨s', hgrows, config, contexts, heq⟩ := exec_of_not_scans hflat hscans k
    rw [heq]
    exact congrArg (List.lookup name) hgrows.scanners_eq
  · rfl
  · have hother : name ≠ other := by
      rintro rfl
      simp [Line.makes] at hmakes
    show (k.session.make other text choice).scanners.lookup name = _
    rw [make_eq]
    dsimp only
    rw [List.lookup_cons, beq_eq_false_iff_ne.mpr hother]
    dsimp only
    rw [lookup_filter_ne _ hother, (grows_engineFor k.session choice).scanners_eq]
  · have hother : name ≠ other := by
      rintro rfl
      simp [Line.op?] at hop
    show (k.session.call other op).2.scanners.lookup name = _
    cases hfound : k.session.scanners.lookup other with
    | none => rw [call_of_lookup_none hfound]
    | some found =>
      rw [call_eq hfound]
      dsimp only
      rw [lookup_replace, h.scanner_eq]
      exact congrArg (fun scanner => some (scanner, id)) (if_neg hother)

/-- An operation on the scanner is a turn, and gives what it gives on the scanner and the engine by
themselves. -/
theorem exec_own (h : k.session.Holds name scanner id device) {op : Op}
    (hop : line.op? name = some op) :
    line.turn? id k.session = some ⟨name, scanner, op⟩ ∧
      (line.exec k).1 = .called (device.serve op scanner).1 ∧
      (line.exec k).2.session.Holds name (device.serve op scanner).1.after id
        (device.serve op scanner).2 := by
  obtain rfl := eq_call_of_op? hop
  have hturn : (Line.plain (.call name op)).turn? id k.session = some ⟨name, scanner, op⟩ := by
    dsimp only [Line.turn?]
    rw [h.scanner_eq]
    exact if_pos rfl
  have hflat : (Line.plain (.call name op)).Flat := by
    rintro _ ⟨⟩
    rfl
  obtain ⟨hlt, hdevice⟩ := exec_device hflat h.faithful h.lt_length
  rw [hturn, h.device_eq] at hdevice
  have hcall := call_eq h.scanner_eq op
  have hserve := device.serve_eq h.faithful op scanner
  rw [h.device_eq] at hcall
  refine ⟨hturn, ?_, ?_, hlt, hdevice, call_faithful h.faithful name op⟩
  · show (k.session.call name op).1 = _
    rw [hcall, hserve]
  · show (k.session.call name op).2.scanners.lookup name = _
    rw [hcall, hserve]
    dsimp only
    rw [lookup_replace, h.scanner_eq]
    exact congrArg (fun scanner => some (scanner, id)) (if_pos rfl)

/-- Along lines that do not make the scanner anew, what is seen of it is what the turns on its
engine give, from the scanner and the engine as they are. -/
theorem run (h : k.session.Holds name scanner id device) {lines : List Line}
    (hlines : ∀ line ∈ lines, line.Flat ∧ line.makes name = false) (more : List StepResult) :
    shown name lines ((exec lines k).1 ++ more) = replay name (turns id lines k) scanner device ∧
      ownOps name (turns id lines k) = lines.filterMap (Line.op? name) := by
  -- `Holds` is carried along: an operation on the scanner and a turn of another one change the
  -- scanner and the engine in the same way here and in the replay.
  induction lines generalizing k scanner device with
  | nil => exact ⟨rfl, rfl⟩
  | cons line lines ih =>
    rw [List.forall_mem_cons] at hlines
    obtain ⟨⟨hflat, hmakes⟩, hrest⟩ := hlines
    rw [exec_cons, turns]
    dsimp only
    rw [List.cons_append, shown_cons, List.filterMap_cons]
    cases hop : line.op? name with
    | some op =>
      obtain ⟨hturn, hresult, hnext⟩ := h.exec_own hop
      obtain ⟨hshown, hops⟩ := ih hnext hrest
      have htrace : line.trace? name (.called (device.serve op scanner).1) =
          some (device.serve op scanner).1 := by
        dsimp only [Line.trace?]
        rw [hop]
        rfl
      have hself : (⟨name, scanner, op⟩ : Turn).name = name := rfl
      rw [hturn, hresult, htrace, hshown, Option.toList_some, Option.toList_some,
        List.singleton_append, List.singleton_append, replay_cons_self _ hself,
        ownOps_cons_self _ hself, hops]
      exact ⟨rfl, rfl⟩
    | none =>
      have hnext := h.exec_other hflat hmakes hop
      have htrace : line.trace? name (line.exec k).1 = none := by
        unfold Line.trace?
        rw [hop]
        split <;> rfl
      rw [htrace, Option.toList_none, List.nil_append]
      cases hturn : line.turn? id k.session with
      | none =>
        rw [hturn] at hnext
        exact ih hnext hrest
      | some turn =>
        rw [hturn] at hnext
        have hname : turn.name ≠ name := by
          rintro rfl
          rw [op?_of_turn? hturn] at hop
          cases hop
        rw [Option.toList_some, List.singleton_append, replay_cons_of_ne _ hname,
          ownOps_cons_of_ne _ hname]
        exact ih hnext hrest

end Holds

end Session

end TextScan
