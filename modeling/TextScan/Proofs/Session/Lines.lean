import TextScan.Proofs.Session.Engines
import TextScan.Proofs.Session.Isolation
import TextScan.Proofs.Session.Listing

/-!
# What a line can do

Most lines are about configurations. All that such a line does besides is to add engines by the way
(`Session.exec_of_not_scans`); the others define an engine, make a scanner or do something with one
(`Session.Line.scans_cases`).

Along all lines the engine of every configuration that is active, or can become so again, is there,
and the cache of compiled patterns stays faithful (`Session.exec_grounded`).
-/

namespace TextScan.Session

/-! ## Kinds of lines -/

/-- Whether a line is about engines and scanners, and not only about configurations. -/
def Line.scans : Line → Bool
  | .plain (.define ..) | .plain (.make ..) | .plain (.call ..) => true
  | _ => false

/-- A line that is only about configurations changes these and adds at most engines. -/
theorem exec_of_not_scans {line : Line} (hflat : line.Flat) (hscans : line.scans = false)
    (k : Machine) :
    ∃ s', k.session.Grows s' ∧ ∃ config contexts,
      (line.exec k).2.session = { s' with config, contexts } := by
  obtain ⟨s, saved⟩ := k
  cases line with
  | opening spec => exact ⟨_, grows_resolve s spec, _, _, rfl⟩
  | start => exact ⟨s, .refl, _, _, rfl⟩
  | closing => cases saved <;> exact ⟨s, .refl, _, _, rfl⟩
  | plain step =>
    cases step with
    | within | thread => cases hflat _ rfl
    | define | make | call => cases hscans
    | install spec | enter handle spec => exact ⟨_, grows_resolve s spec, _, _, rfl⟩
    | viewSettings | installSettings => exact ⟨_, grows_resolve s (.ofSettings _), _, _, rfl⟩
    | nameEngine spec =>
      exact ⟨_, (grows_resolve s spec).trans (grows_configured _ _), _, _, rfl⟩
    | compare first second =>
      exact ⟨_, (grows_resolve s first).trans (grows_resolve _ second), _, _, rfl⟩
    | leave handle =>
      -- Whether the context was there to be left does not matter.
      refine ⟨s, .refl, (s.leave handle).config, (s.leave handle).contexts, ?_⟩
      show s.leave handle = _
      unfold leave
      split <;> rfl
    | view | assign | reset => exact ⟨s, .refl, _, _, rfl⟩

/-- A line is only about configurations, or it defines an engine, makes a scanner or does something
with one. -/
theorem Line.scans_cases (line : Line) :
    line.scans = false ∨ (∃ name device, line = .plain (.define name device)) ∨
      (∃ name text choice, line = .plain (.make name text choice)) ∨
      ∃ name op, line = .plain (.call name op) := by
  unfold scans
  split
  · exact .inr (.inl ⟨_, _, rfl⟩)
  · exact .inr (.inr (.inl ⟨_, _, _, rfl⟩))
  · exact .inr (.inr (.inr ⟨_, _, rfl⟩))
  · exact .inl rfl

/-! ## Engines of configurations -/

/-- The engines of all configurations that are active or can become so again are there. -/
structure Grounded (s : Session) (saved : List Config) : Prop where
  /-- The engine of the active configuration. -/
  config : s.Knows s.config
  /-- Those of the contexts that can be left. -/
  contexts : ∀ c ∈ s.contexts, s.Knows c.2
  /-- Those of what is to go back to. -/
  saved : ∀ c ∈ saved, s.Knows c

namespace Grounded

variable {s s' : Session} {saved : List Config}

/-- In the beginning there is no engine to be missed. -/
theorem empty : ({} : Session).Grounded [] := ⟨knows_of_none _ rfl, by simp, by simp⟩

/-- More engines may be there. -/
theorem mono (h : s.Grounded saved) (hle : s.engines.length ≤ s'.engines.length)
    (hconfig : s'.config = s.config) (hcontexts : s'.contexts = s.contexts) :
    s'.Grounded saved where
  config := hconfig ▸ h.config.mono hle
  contexts := hcontexts ▸ fun c hc => (h.contexts c hc).mono hle
  saved c hc := (h.saved c hc).mono hle

/-- Engines may be added. -/
theorem grows (h : s.Grounded saved) (hgrows : s.Grows s') : s'.Grounded saved :=
  h.mono hgrows.length_le hgrows.config_eq hgrows.contexts_eq

/-- A known configuration may be installed. -/
theorem install (h : s.Grounded saved) {c : Config} (hc : s.Knows c) :
    (s.install c).Grounded saved := ⟨hc, h.contexts, h.saved⟩

/-- The active configuration may be one to go back to. -/
theorem push (h : s.Grounded saved) : s.Grounded (s.config :: saved) :=
  ⟨h.config, h.contexts, List.forall_mem_cons.mpr ⟨h.config, h.saved⟩⟩

/-- A context with a known configuration may be entered. -/
theorem enter (h : s.Grounded saved) (handle : String) {c : Config} (hc : s.Knows c) :
    (s.enter handle c).Grounded saved :=
  ⟨hc, List.forall_mem_cons.mpr ⟨h.config, h.contexts⟩, h.saved⟩

/-- A context may be left. -/
theorem leave (h : s.Grounded saved) (handle : String) : (s.leave handle).Grounded saved := by
  unfold Session.leave
  cases hlookup : s.contexts.lookup handle with
  | none => exact h
  | some before =>
    obtain ⟨_, _, hsplit, -⟩ := List.lookup_eq_some_iff.mp hlookup
    have hmem : (handle, before) ∈ s.contexts := by
      rw [hsplit]
      exact List.mem_append_right _ List.mem_cons_self
    exact ⟨h.contexts _ hmem, fun c hc => h.contexts c (List.mem_of_mem_eraseP hc), h.saved⟩

/-- Every line keeps this. -/
theorem exec {k : Machine} (h : k.session.Grounded k.saved) {line : Line} (hflat : line.Flat) :
    (line.exec k).2.session.Grounded (line.exec k).2.saved := by
  obtain ⟨s, saved⟩ := k
  cases line with
  | opening spec => exact (h.push.grows (grows_resolve s spec)).install (knows_resolve s spec)
  | start => exact h.push.install (s.knows_of_none rfl)
  | closing =>
    cases saved with
    | nil => exact h
    | cons c saved =>
      have hsaved := List.forall_mem_cons.mp h.saved
      exact ⟨hsaved.1, h.contexts, hsaved.2⟩
  | plain step =>
    cases step with
    | within | thread => cases hflat _ rfl
    | install spec => exact (h.grows (grows_resolve s spec)).install (knows_resolve s spec)
    | installSettings settings =>
      exact (h.grows (grows_resolve s (.ofSettings settings))).install
        (knows_resolve s (.ofSettings settings))
    | viewSettings settings => exact h.grows (grows_resolve s (.ofSettings settings))
    | reset => exact h.install (s.knows_of_none rfl)
    | nameEngine spec => exact (h.grows (grows_resolve s spec)).grows (grows_configured _ _)
    | compare first second =>
      exact (h.grows (grows_resolve s first)).grows (grows_resolve _ second)
    | enter handle spec =>
      exact (h.grows (grows_resolve s spec)).enter handle (knows_resolve s spec)
    | leave handle => exact h.leave handle
    | define name device =>
      refine h.mono ?_ rfl rfl
      show s.engines.length ≤ (s.addEngine _).2.engines.length
      rw [length_addEngine]
      exact Nat.le_succ _
    | make name text choice =>
      obtain ⟨hconfig, hcontexts⟩ := make_configs s name text choice
      refine h.mono ?_ hconfig hcontexts
      show s.engines.length ≤ (s.make name text choice).engines.length
      rw [make_eq]
      exact (grows_engineFor s choice).length_le
    | call name op =>
      obtain ⟨hconfig, hcontexts⟩ := call_configs s name op
      exact h.mono (Nat.le_of_eq (call_length s name op).symm) hconfig hcontexts
    | view | assign => exact h

end Grounded

/-! ## The cache -/

/-- A name without a scanner stands for nothing to do. -/
theorem call_of_lookup_none {s : Session} {name : String} (h : s.scanners.lookup name = none)
    (op : Op) : s.call name op = (.none, s) := by
  unfold call
  rw [h]

/-- Doing something with a scanner leaves a faithful cache faithful. -/
theorem call_faithful {s : Session} (hc : s.cache.Faithful) (name : String) (op : Op) :
    (s.call name op).2.cache.Faithful := by
  cases hfound : s.scanners.lookup name with
  | none => rwa [call_of_lookup_none hfound]
  | some found =>
    rw [call_eq hfound]
    exact Scanner.step_state Device.engine (P := fun state => state.2.Faithful)
      (fun reach p t pos state hc => Device.attempt_faithful reach p t pos state hc) op found.1
      (e := ((s.engineAt found.2).device, s.cache)) hc

/-- A line leaves a faithful cache faithful. -/
theorem exec_faithful {k : Machine} {line : Line} (hflat : line.Flat)
    (hc : k.session.cache.Faithful) : (line.exec k).2.session.cache.Faithful := by
  rcases line.scans_cases with h | ⟨name, device, rfl⟩ | ⟨name, text, choice, rfl⟩ | ⟨name, op, rfl⟩
  · obtain ⟨s', hgrows, config, contexts, heq⟩ := exec_of_not_scans hflat h k
    rw [heq]
    show s'.cache.Faithful
    rwa [hgrows.cache_eq]
  · exact hc
  · show (k.session.make name text choice).cache.Faithful
    rw [make_eq]
    show (k.session.engineFor choice).2.cache.Faithful
    rwa [(grows_engineFor k.session choice).cache_eq]
  · exact call_faithful hc name op

/-! ## Runs -/

/-- Lines keep the engines of all configurations there, and a faithful cache faithful. -/
theorem exec_grounded {lines : List Line} (hlines : ∀ line ∈ lines, line.Flat) {k : Machine}
    (hk : k.session.Grounded k.saved) (hc : k.session.cache.Faithful) :
    (exec lines k).2.session.Grounded (exec lines k).2.saved ∧
      (exec lines k).2.session.cache.Faithful := by
  induction lines generalizing k with
  | nil => exact ⟨hk, hc⟩
  | cons line lines ih =>
    rw [List.forall_mem_cons] at hlines
    exact ih hlines.2 (hk.exec hlines.1) (exec_faithful hlines.1 hc)

end TextScan.Session
