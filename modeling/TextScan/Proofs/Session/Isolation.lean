import TextScan.Proofs.Scanner.Coherence
import TextScan.Session

/-!
# Scanners do not disturb each other

The scanners of a session share its engines and the cache of compiled patterns, which every match
attempt changes. With regular-expression engines none of this can be seen: in any interleaving of
operations on any scanners, with patterns compiled in between, the outcomes of the operations on one
scanner and the states it goes through are those of the same operations on it alone, with a cache
that is empty at first (`Session.interleaved_eq_alone`).

What carries this along an interleaving is `Session.Offers`: the scanner is as it was left, its
engine has its settings, and the cache is faithful. An operation on the scanner then has the outcome
that it has alone (`Session.Offers.call`), and what is done elsewhere keeps the relation
(`Session.Offers.call_other`).
-/

namespace TextScan

/-! ## The engine of a session -/

/-- To a scanner, a device that is a regular-expression engine is that engine. -/
theorem Device.step_regex (e : RegexEngine) {c c' : Cache} (hc : c.Faithful) (hc' : c'.Faithful)
    (op : Op) (s : Scanner) :
    (s.step Device.engine op (.regex e, c)).1 = (s.step e.engine op c').1 ∧
      (s.step Device.engine op (.regex e, c)).2.1 = (s.step e.engine op c').2.1 := by
  have hreply : ∀ reach p t pos,
      (Device.attempt reach p t pos (.regex e, c)).1 = (e.attempt reach p t pos c').1 := by
    intro reach p t pos
    show (e.attempt reach p t pos c).1 = (e.attempt reach p t pos c').1
    rw [RegexEngine.attempt_fst hc, RegexEngine.attempt_fst hc']
  exact Scanner.step_congr Device.engine e.engine hreply rfl rfl op s

/-- A device leaves a faithful cache faithful. -/
theorem Device.attempt_faithful (reach : Reach) (p : Pattern) (t : Text) (pos : Int)
    (state : Device × Cache) (hc : state.2.Faithful) :
    (Device.attempt reach p t pos state).2.2.Faithful := by
  obtain ⟨device, c⟩ := state
  cases device with
  | regex e => exact hc.pattern p e.mask
  | custom E state => exact hc

/-- A device that is a regular-expression engine stays the same. -/
theorem Device.attempt_regex (e : RegexEngine) (reach : Reach) (p : Pattern) (t : Text) (pos : Int)
    (state : Device × Cache) (h : state.1 = .regex e) :
    (Device.attempt reach p t pos state).2.1 = .regex e := by
  obtain ⟨device, c⟩ := state
  subst h
  rfl

namespace Session

/-! ## Interleavings -/

/-- Something done with what the scanners of a session share. -/
inductive Action where
  /-- An operation on a scanner. -/
  | call (name : String) (op : Op)
  /-- A pattern compiled by whoever it may be. -/
  | compile (p : Pattern) (mask : Int)

/-- The operation on the scanner with this name, if the action is one. -/
def Action.op? (name : String) : Action → Option Op
  | .call other op => if other = name then some op else none
  | .compile .. => none

/-- Carries out one action. -/
def act (s : Session) : Action → StepResult × Session
  | .call name op => s.call name op
  | .compile p mask => (.none, { s with cache := (p.compile mask s.cache).2 })

/-- Carries out actions one after the other. -/
def acts : List Action → Session → List StepResult × Session
  | [], s => ([], s)
  | action :: actions, s =>
    let (result, s) := s.act action
    let (results, s) := acts actions s
    (result :: results, s)

/-- What is seen of the scanner with this name: the results of the operations on it. -/
def seen (name : String) : List Action → List StepResult → List Scanner.Trace
  | action :: actions, .called trace :: results =>
    if (action.op? name).isSome then trace :: seen name actions results
    else seen name actions results
  | _ :: actions, _ :: results => seen name actions results
  | _, _ => []

/-! ## One action -/

/-- The session has a scanner under a name, with the regular-expression engine that has these
settings, and its cache is faithful. -/
structure Offers (s : Session) (name : String) (scanner : Scanner) (id : EngineId)
    (e : RegexEngine) : Prop where
  /-- The scanner. -/
  scanner_eq : s.scanners.lookup name = some (scanner, id)
  /-- Its engine. -/
  device_eq : (s.engineAt id).device = .regex e
  /-- The cache. -/
  faithful : s.cache.Faithful

/-- What is found under a name after the scanner under some name has been replaced. -/
theorem lookup_replace (l : List (String × Scanner × EngineId)) (name other : String)
    (scanner : Scanner) :
    (l.map fun (n, sc, i) => if n == other then (n, scanner, i) else (n, sc, i)).lookup name =
      (l.lookup name).map fun (sc, i) => (if name = other then scanner else sc, i) := by
  induction l with
  | nil => rfl
  | cons entry l ih =>
    obtain ⟨n, sc, i⟩ := entry
    have hhead : (if n == other then (n, scanner, i) else (n, sc, i)) =
        (n, if n = other then scanner else sc, i) := by
      by_cases hn : n = other <;> simp [hn]
    rw [List.map_cons]
    dsimp only
    rw [hhead, List.lookup_cons, List.lookup_cons, ih]
    by_cases hname : name = n
    · simp [hname]
    · rw [beq_eq_false_iff_ne.mpr hname]

/-- The engine with a number stays what it is if it is replaced by an equal one, or another one is
replaced. -/
theorem device_set (s : Session) (id other : EngineId) (entry : EngineEntry)
    (h : other = id → entry.device = (s.engineAt id).device) :
    ((s.engines.set other entry).getD id { device := .silent }).device =
      (s.engineAt id).device := by
  unfold engineAt at h ⊢
  by_cases hid : other = id
  · subst hid
    -- A number without an engine is never written to.
    by_cases hlt : other < s.engines.length
    · rw [List.getD_eq_getElem?_getD, List.getElem?_set_self hlt]
      exact h rfl
    · rw [List.set_eq_of_length_le (Nat.le_of_not_lt hlt)]
  · rw [List.getD_eq_getElem?_getD, List.getD_eq_getElem?_getD, List.getElem?_set_ne hid]

/-- Doing something with a scanner of the session. -/
theorem call_eq {s : Session} {name : String} {scanner : Scanner} {id : EngineId}
    (h : s.scanners.lookup name = some (scanner, id)) (op : Op) :
    s.call name op =
      let out := scanner.step Device.engine op ((s.engineAt id).device, s.cache)
      (.called ⟨out.1, out.2.1⟩,
        { s with
          engines := s.engines.set id { s.engineAt id with device := out.2.2.1 }
          scanners := s.scanners.map fun (n, sc, i) =>
            if n == name then (n, out.2.1, i) else (n, sc, i)
          cache := out.2.2.2 }) := by
  unfold call
  rw [h]

namespace Offers

variable {s : Session} {name : String} {scanner : Scanner} {id : EngineId} {e : RegexEngine}

/-- An operation on any scanner keeps what the session offers, but for the scanner it is about. -/
theorem call_any (h : s.Offers name scanner id e) {other : String} {scanner' : Scanner}
    {id' : EngineId} (hfound : s.scanners.lookup other = some (scanner', id')) (op : Op) :
    (s.call other op).2.Offers name
      (if name = other then
        (scanner'.step Device.engine op ((s.engineAt id').device, s.cache)).2.1
      else scanner) id e := by
  have hfaithful := Scanner.step_state Device.engine (P := fun state => state.2.Faithful)
    (fun reach p t pos state hc => Device.attempt_faithful reach p t pos state hc) op scanner'
    (e := ((s.engineAt id').device, s.cache)) h.faithful
  rw [call_eq hfound]
  refine ⟨?_, ?_, hfaithful⟩
  · dsimp only
    rw [lookup_replace, h.scanner_eq]
    rfl
  · -- The engine used may be the one of the scanner in question: then it stays what it was.
    refine (device_set s id id' _ ?_).trans h.device_eq
    rintro rfl
    rw [h.device_eq]
    exact Scanner.step_state Device.engine (P := fun state => state.1 = .regex e)
      (fun reach p t pos state hd => Device.attempt_regex e reach p t pos state hd) op scanner' rfl

/-- An operation on the scanner has the outcome that it has alone, and leaves the scanner that it
leaves alone, with any faithful cache. -/
theorem call (h : s.Offers name scanner id e) (op : Op) {c : Cache} (hc : c.Faithful) :
    (s.call name op).1 =
        .called ⟨(scanner.step e.engine op c).1, (scanner.step e.engine op c).2.1⟩ ∧
      (s.call name op).2.Offers name (scanner.step e.engine op c).2.1 id e := by
  obtain ⟨hout, hnext⟩ := Device.step_regex e h.faithful hc op scanner
  have hoffers := h.call_any h.scanner_eq op
  rw [if_pos rfl, h.device_eq, hnext] at hoffers
  refine ⟨?_, hoffers⟩
  rw [call_eq h.scanner_eq, h.device_eq]
  dsimp only
  rw [hout, hnext]

/-- An operation on another scanner keeps what the session offers. -/
theorem call_other (h : s.Offers name scanner id e) {other : String} (hother : other ≠ name)
    (op : Op) : (s.call other op).2.Offers name scanner id e := by
  cases hfound : s.scanners.lookup other with
  | none =>
    unfold Session.call
    rw [hfound]
    exact h
  | some found =>
    have hoffers := h.call_any hfound op
    rwa [if_neg hother.symm] at hoffers

/-- Compiling a pattern keeps what the session offers. -/
theorem compile (h : s.Offers name scanner id e) (p : Pattern) (mask : Int) :
    (s.act (.compile p mask)).2.Offers name scanner id e :=
  ⟨h.scanner_eq, h.device_eq, h.faithful.pattern p mask⟩

end Offers

/-! ## All actions -/

/-- The first of several actions is carried out, and then the others. -/
theorem acts_cons (action : Action) (actions : List Action) (s : Session) :
    acts (action :: actions) s =
      ((s.act action).1 :: (acts actions (s.act action).2).1,
        (acts actions (s.act action).2).2) := rfl

/-- An action that is no operation on a scanner is not seen in what is seen of it. -/
theorem seen_skip {name : String} {action : Action} (h : action.op? name = none)
    (actions : List Action) (result : StepResult) (results : List StepResult) :
    seen name (action :: actions) (result :: results) = seen name actions results := by
  cases result <;> simp [seen, h]

/-- What is seen of a scanner along any actions is what is seen of it alone, with any faithful
cache. -/
theorem Offers.acts {name : String} {id : EngineId} {e : RegexEngine} (actions : List Action)
    {s : Session} {scanner : Scanner} (h : s.Offers name scanner id e) {c : Cache}
    (hc : c.Faithful) :
    seen name actions (s.acts actions).1 =
      (scanner.run e.engine (actions.filterMap (Action.op? name)) c).1 := by
  -- The caches of the session and of the run alone are never compared: both are faithful.
  induction actions generalizing s scanner c with
  | nil => rfl
  | cons action actions ih =>
    rw [acts_cons]
    cases action with
    | compile p mask =>
      rw [seen_skip rfl, List.filterMap_cons_none rfl]
      exact ih (h.compile p mask) hc
    | call other op =>
      by_cases hname : other = name
      · subst hname
        obtain ⟨hresult, hnext⟩ := h.call op hc
        have hop : (Action.call other op).op? other = some op := if_pos rfl
        have hrest := ih hnext (Scanner.step_faithful e op scanner hc)
        rw [List.filterMap_cons_some hop, Scanner.run_cons]
        show seen other (.call other op :: actions)
          ((s.call other op).1 :: (Session.acts actions (s.call other op).2).1) = _
        rw [hresult, seen, hop, Option.isSome_some, if_pos rfl, hrest]
      · have hop : (Action.call other op).op? name = none := if_neg hname
        rw [seen_skip hop, List.filterMap_cons_none hop]
        exact ih (h.call_other hname op) hc

/-- In any interleaving of operations on the scanners of a session, with patterns compiled in
between, and with whatever earlier calls have left in the cache: the outcomes of the operations on a
scanner with a regular-expression engine, and the scanner after each of them, are those of the same
operations on this scanner alone, from an empty cache. -/
theorem interleaved_eq_alone {s : Session} (hc : s.cache.Reachable) {name : String}
    {scanner : Scanner} {id : EngineId} {e : RegexEngine}
    (hscanner : s.scanners.lookup name = some (scanner, id))
    (hengine : (s.engineAt id).device = .regex e) (actions : List Action) :
    seen name actions (s.acts actions).1 =
      (scanner.run e.engine (actions.filterMap (Action.op? name)) {}).1 :=
  Offers.acts actions ⟨hscanner, hengine, hc.faithful⟩ Cache.Reachable.empty.faithful

/-- Two scanners that share an engine and one with other flags, with a pattern text that all of them
use, one that does not compile, and a cache that is not empty: what is seen of the first scanner. -/
theorem interleaved_eq_alone_shared :
    let e : RegexEngine := {}
    let word : Pattern := .source "a+".toList
    let s : Session :=
      { engines := [{ device := .regex e }, { device := .regex { mask := 2 } }]
        scanners := [("x", { text := "aaAb".toList }, 0), ("y", { text := "aab".toList }, 0),
          ("z", { text := "AAb".toList }, 1)]
        cache := (word.compile 2 {}).2 }
    let actions : List Action :=
      [.call "z" (.attempt .anchored .scan word), .call "x" (.attempt .anchored .scan word),
        .call "y" (.attempt .ahead .skip (.source "(".toList)), .compile word 2,
        .call "x" (.attempt .anchored .scan (.source "(".toList)),
        .call "x" (.attempt .ahead .scan (.source "b".toList))]
    s.cache.Reachable ∧ s.scanners.lookup "x" = some ({ text := "aaAb".toList }, 0) ∧
      (s.engineAt 0).device = .regex e ∧
      (seen "x" actions (s.acts actions).1).map (·.after.pos) = [2, 2, 4] ∧
      seen "x" actions (s.acts actions).1 =
        (Scanner.run e.engine (actions.filterMap (Action.op? "x"))
          { text := "aaAb".toList } {}).1 := by
  intro e word s actions
  have hc : s.cache.Reachable := .compile .empty word 2
  exact ⟨hc, rfl, rfl, by decide +kernel, interleaved_eq_alone hc rfl rfl actions⟩

end Session

end TextScan
