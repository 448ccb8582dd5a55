import Mathlib.Data.List.Induction
import TextScan.Proofs.Session.Engines
import TextScan.Proofs.Session.Listing

/-!
# The active configuration is that of the latest event

Contexts may nest or be left in any order, in the thread that entered them or in another one, so the
active configuration follows no stack. What it does follow is the history of configuration events: a
thread sees what its own latest event has installed (`Session.sees`), where leaving a context
installs what was active just before that context was entered.

A `Book` keeps that history along the lines of a program, with a number for every thread and every
context. It knows the configurations only through the events. `Book.Sound` says how the book and the
machine fit together; every line keeps this (`Book.Sound.record`), so it holds at every place of
every program (`Session.config_eq_latest`).
-/

namespace TextScan.Session

/-! ## Events -/

/-- A change of the active configuration. -/
inductive Change where
  /-- A configuration is installed. -/
  | set (c : Config)
  /-- The default configuration is installed. -/
  | reset
  /-- The context with this number is entered. -/
  | enter (context : Nat) (c : Config)
  /-- The context with this number is left. -/
  | leave (context : Nat)

/-- A change, with the thread that makes it and the configuration that this thread sees just before.
-/
structure ConfigEvent where
  /-- The number of the thread. -/
  thread : Nat
  /-- The change. -/
  change : Change
  /-- The configuration before the change. -/
  before : Config

/-- Whether an event is the entry of the context with this number. -/
def ConfigEvent.enters (context : Nat) (e : ConfigEvent) : Bool :=
  match e.change with
  | .enter n _ => n == context
  | _ => false

/-- The configuration that was active just before a context was entered. Of several events the
latest comes first. -/
def activeBefore (context : Nat) (events : List ConfigEvent) : Config :=
  ((events.find? (·.enters context)).map (·.before)).getD {}

/-- The configuration that a change installs. -/
def Change.installs (earlier : List ConfigEvent) : Change → Config
  | .set c => c
  | .reset => {}
  | .enter _ c => c
  | .leave context => activeBefore context earlier

/-- The configuration that a thread sees: what its latest event has installed, or else the default.
-/
def sees (thread : Nat) : List ConfigEvent → Config
  | [] => {}
  | e :: earlier =>
    if e.thread = thread then e.change.installs earlier else sees thread earlier

/-- A context is known by how many events there were before it was entered, and it is left only
after it was entered; every event tells what its thread saw. -/
def Orderly : List ConfigEvent → Prop
  | [] => True
  | e :: earlier =>
    ((∀ n c, e.change = .enter n c → n = earlier.length) ∧
      (∀ n, e.change = .leave n → ∃ e' ∈ earlier, e'.enters n = true) ∧
      e.before = sees e.thread earlier) ∧
    Orderly earlier

/-- An event that enters a context says so. -/
theorem ConfigEvent.enters_iff {n : Nat} {e : ConfigEvent} :
    e.enters n = true ↔ ∃ c, e.change = .enter n c := by
  unfold enters
  cases e.change <;> simp

/-- The events of others do not count. -/
theorem sees_cons_of_ne {e : ConfigEvent} {thread : Nat} (h : e.thread ≠ thread)
    (earlier : List ConfigEvent) : sees thread (e :: earlier) = sees thread earlier := if_neg h

/-- The latest event counts. -/
theorem sees_cons_self (e : ConfigEvent) (earlier : List ConfigEvent) :
    sees e.thread (e :: earlier) = e.change.installs earlier := if_pos rfl

/-- A thread without events sees the default configuration. -/
theorem sees_eq_default {thread : Nat} {events : List ConfigEvent}
    (h : ∀ e ∈ events, e.thread ≠ thread) : sees thread events = {} := by
  induction events with
  | nil => rfl
  | cons e events ih =>
    rw [List.forall_mem_cons] at h
    rw [sees_cons_of_ne h.1, ih h.2]

namespace Orderly

variable {events : List ConfigEvent} {e e' : ConfigEvent} {n : Nat}

/-- The contexts that were entered have numbers below the number of events. -/
theorem lt_length (h : Orderly events) (he : e ∈ events) (hn : e.enters n = true) :
    n < events.length := by
  induction events with
  | nil => simp at he
  | cons first events ih =>
    obtain ⟨⟨hfirst, -⟩, hrest⟩ := h
    rw [List.length_cons]
    rcases List.mem_cons.mp he with rfl | he
    · obtain ⟨c, hc⟩ := ConfigEvent.enters_iff.mp hn
      rw [hfirst n c hc]
      omega
    · have hlt := ih hrest he
      omega

/-- A context is entered once. -/
theorem unique (h : Orderly events) (he : e ∈ events) (hn : e.enters n = true) (he' : e' ∈ events)
    (hn' : e'.enters n = true) : e = e' := by
  induction events with
  | nil => simp at he
  | cons first events ih =>
    have hnew : first.enters n = true → ∀ e ∈ events, e.enters n = true → False := by
      intro hfirst e he hn
      obtain ⟨c, hc⟩ := ConfigEvent.enters_iff.mp hfirst
      have hlt := lt_length h.2 he hn
      have heq := h.1.1 n c hc
      omega
    rcases List.mem_cons.mp he with rfl | hold
    · rcases List.mem_cons.mp he' with rfl | hold'
      · rfl
      · exact (hnew hn e' hold' hn').elim
    · rcases List.mem_cons.mp he' with rfl | hold'
      · exact (hnew hn' e hold hn).elim
      · exact ih h.2 hold hold'

/-- What was active before a context was entered is what the event of its entry tells. -/
theorem activeBefore_eq (h : Orderly events) (he : e ∈ events) (hn : e.enters n = true) :
    activeBefore n events = e.before := by
  unfold activeBefore
  cases hfound : events.find? (·.enters n) with
  | none => exact absurd hn (List.find?_eq_none.mp hfound e he)
  | some found =>
    rw [h.unique he hn (List.mem_of_find?_eq_some hfound) (List.find?_some hfound)]
    rfl

/-- A further event does not touch what was active before a context that has been entered. -/
theorem activeBefore_cons (h : Orderly (e :: events))
    (hentered : ∃ e' ∈ events, e'.enters n = true) :
    activeBefore n (e :: events) = activeBefore n events := by
  obtain ⟨e', he', hn⟩ := hentered
  rw [h.activeBefore_eq (List.mem_cons_of_mem e he') hn, h.2.activeBefore_eq he' hn]

/-- The events up to one of them are orderly. -/
theorem of_append (later : List ConfigEvent) (h : Orderly (later ++ events)) : Orderly events := by
  induction later with
  | nil => exact h
  | cons e later ih => exact ih h.2

/-- Every event tells what its thread saw; one that leaves a context installs what was seen before the
only event that enters this context. -/
theorem event {recent past : List ConfigEvent} (h : Orderly (recent ++ e :: past)) :
    e.before = sees e.thread past ∧
      ∀ n, e.change = .leave n → ∃ e' ∈ past, e'.enters n = true ∧
        (∀ e'' ∈ recent ++ e :: past, e''.enters n = true → e'' = e') ∧
        e.change.installs past = e'.before := by
  obtain ⟨⟨-, hleave, hbefore⟩, hpast⟩ := h.of_append recent
  refine ⟨hbefore, fun n hn => ?_⟩
  obtain ⟨e', he', hn'⟩ := hleave n hn
  have hmem : e' ∈ recent ++ e :: past :=
    List.mem_append_right recent (List.mem_cons_of_mem e he')
  refine ⟨e', he', hn', fun e'' he'' hn'' => h.unique he'' hn'' hmem hn', ?_⟩
  rw [hn]
  exact hpast.activeBefore_eq he' hn'

end Orderly

/-! ## The book -/

/-- What a line that ends something ends. -/
inductive Frame where
  /-- The context with this number. -/
  | context (n : Nat)
  /-- A thread, after which the thread with this number goes on. -/
  | caller (thread : Nat)

/-- The history of configuration events along the lines of a program. -/
structure Book where
  /-- The thread that is running. -/
  thread : Nat := 0
  /-- The thread that was started last. -/
  threads : Nat := 0
  /-- What has begun and not ended, the latest first. -/
  frames : List Frame := []
  /-- The contexts that can be left by name, the latest first. -/
  handles : List (String × Nat) := []
  /-- The events, the latest first. -/
  events : List ConfigEvent := []

/-- The configuration to go back to at the end of a frame. -/
def Frame.config (events : List ConfigEvent) : Frame → Config
  | .context n => activeBefore n events
  | .caller thread => sees thread events

namespace Book

/-- An event of the thread that is running. -/
def note (b : Book) (before : Config) (change : Change) : Book :=
  { b with events := ⟨b.thread, change, before⟩ :: b.events }

/-- A context is entered. -/
def enter (b : Book) (before c : Config) : Book := b.note before (.enter b.events.length c)

/-- Takes down a line that is carried out in a session. -/
def record (b : Book) (s : Session) : Line → Book
  | .plain (.install spec) => b.note s.config (.set (s.resolve spec).1)
  | .plain (.installSettings settings) =>
    b.note s.config (.set (s.resolve (.ofSettings settings)).1)
  | .plain .reset => b.note s.config .reset
  | .plain (.enter handle spec) =>
    { b.enter s.config (s.resolve spec).1 with handles := (handle, b.events.length) :: b.handles }
  | .plain (.leave handle) =>
    match b.handles.lookup handle with
    | none => b
    | some n =>
      { b.note s.config (.leave n) with handles := b.handles.eraseP (·.1 == handle) }
  | .plain _ => b
  | .opening spec =>
    { b.enter s.config (s.resolve spec).1 with frames := .context b.events.length :: b.frames }
  | .start =>
    { b with
      thread := b.threads + 1
      threads := b.threads + 1
      frames := .caller b.thread :: b.frames }
  | .closing =>
    match b.frames with
    | [] => b
    | .context n :: frames => { b.note s.config (.leave n) with frames }
    | .caller thread :: frames => { b with thread, frames }

/-- The threads that wait for the end of another one. -/
def callers (b : Book) : List Nat :=
  b.frames.filterMap fun
    | .context _ => none
    | .caller thread => some thread

/-- The book fits an active configuration, the contexts that can be left and the configurations to
go back to. -/
structure Sound (b : Book) (config : Config) (contexts : List (String × Config))
    (saved : List Config) : Prop where
  /-- The running thread sees the active configuration. -/
  config_eq : config = sees b.thread b.events
  /-- Each context that can be left goes back to what was active before it was entered. -/
  contexts_eq : contexts = b.handles.map fun h => (h.1, activeBefore h.2 b.events)
  /-- So does each frame that is a context, and the others to what the waiting thread sees. -/
  saved_eq : saved = b.frames.map (Frame.config b.events)
  /-- The events are orderly. -/
  orderly : Orderly b.events
  /-- The contexts that can be left have been entered. -/
  entered : ∀ h ∈ b.handles, ∃ e ∈ b.events, e.enters h.2 = true
  /-- The contexts that have begun have been entered. -/
  begun : ∀ n, .context n ∈ b.frames → ∃ e ∈ b.events, e.enters n = true
  /-- The running thread and those that wait are different ones. -/
  distinct : (b.thread :: b.callers).Nodup
  /-- They have been started. -/
  started : ∀ t ∈ b.thread :: b.callers, t ≤ b.threads
  /-- So have the threads of the events. -/
  past : ∀ e ∈ b.events, e.thread ≤ b.threads

namespace Sound

variable {b : Book} {config : Config} {contexts : List (String × Config)} {saved : List Config}

/-- The book before the first line fits the default configuration. -/
theorem empty : ({} : Book).Sound {} [] [] where
  config_eq := rfl
  contexts_eq := rfl
  saved_eq := rfl
  orderly := trivial
  entered := by simp
  begun := by simp
  distinct := by simp [callers]
  started := by simp [callers]
  past := by simp

/-- A thread that waits is not the one that is running. -/
theorem ne_of_caller (h : b.Sound config contexts saved) {t : Nat} (ht : .caller t ∈ b.frames) :
    b.thread ≠ t := by
  rintro rfl
  refine (List.nodup_cons.mp h.distinct).1 ?_
  exact List.mem_filterMap.mpr ⟨_, ht, rfl⟩

/-- After an event of the running thread, what it has installed is active. -/
theorem note (h : b.Sound config contexts saved) (change : Change)
    (henter : ∀ n c, change = .enter n c → n = b.events.length)
    (hleave : ∀ n, change = .leave n → ∃ e ∈ b.events, e.enters n = true) :
    (b.note config change).Sound (change.installs b.events) contexts saved := by
  have horderly : Orderly (b.note config change).events :=
    ⟨⟨henter, hleave, h.config_eq⟩, h.orderly⟩
  have hkeep : ∀ n, (∃ e ∈ b.events, e.enters n = true) →
      ∃ e ∈ (b.note config change).events, e.enters n = true := by
    rintro n ⟨e, he, hn⟩
    exact ⟨e, List.mem_cons_of_mem _ he, hn⟩
  refine ⟨?_, ?_, ?_, horderly, fun x hx => hkeep _ (h.entered x hx),
    fun n hn => hkeep n (h.begun n hn), h.distinct, h.started, ?_⟩
  · exact (sees_cons_self ⟨b.thread, change, config⟩ b.events).symm
  · refine h.contexts_eq.trans (List.map_congr_left fun x hx => ?_)
    exact congrArg (x.1, ·) (horderly.activeBefore_cons (h.entered x hx)).symm
  · -- The event is none of a waiting thread, and it enters no context that has begun.
    refine h.saved_eq.trans (List.map_congr_left fun frame hframe => ?_)
    cases frame with
    | context n => exact (horderly.activeBefore_cons (h.begun n hframe)).symm
    | caller t => exact (sees_cons_of_ne (h.ne_of_caller hframe) b.events).symm
  · exact List.forall_mem_cons.mpr ⟨h.started _ List.mem_cons_self, h.past⟩

/-- After a context was entered, its configuration is active, and the configuration before is the
one that was active before it was entered. -/
theorem enter (h : b.Sound config contexts saved) (c : Config) :
    (b.enter config c).Sound c contexts saved ∧
      (∃ e ∈ (b.enter config c).events, e.enters b.events.length = true) ∧
      activeBefore b.events.length (b.enter config c).events = config := by
  have hnote : (b.enter config c).Sound c contexts saved :=
    h.note (.enter b.events.length c) (by rintro n c' ⟨⟩; rfl) (by rintro n ⟨⟩)
  have hmem : ⟨b.thread, .enter b.events.length c, config⟩ ∈ (b.enter config c).events :=
    List.mem_cons_self
  have henters : (⟨b.thread, .enter b.events.length c, config⟩ : ConfigEvent).enters
      b.events.length = true := ConfigEvent.enters_iff.mpr ⟨c, rfl⟩
  exact ⟨hnote, ⟨_, hmem, henters⟩, hnote.orderly.activeBefore_eq hmem henters⟩

/-- A context that was entered can be left by name. -/
theorem named (h : b.Sound config contexts saved) {n : Nat}
    (hn : ∃ e ∈ b.events, e.enters n = true) (handle : String) :
    { b with handles := (handle, n) :: b.handles }.Sound config
      ((handle, activeBefore n b.events) :: contexts) saved where
  config_eq := h.config_eq
  contexts_eq := by rw [h.contexts_eq, List.map_cons]
  saved_eq := h.saved_eq
  orderly := h.orderly
  entered := List.forall_mem_cons.mpr ⟨hn, h.entered⟩
  begun := h.begun
  distinct := h.distinct
  started := h.started
  past := h.past

/-- A context that was left by name cannot be left by it again. -/
theorem unnamed (h : b.Sound config contexts saved) (handle : String) :
    { b with handles := b.handles.eraseP (·.1 == handle) }.Sound config
      (contexts.eraseP (·.1 == handle)) saved where
  config_eq := h.config_eq
  contexts_eq := by
    rw [h.contexts_eq, List.eraseP_map]
    rfl
  saved_eq := h.saved_eq
  orderly := h.orderly
  entered x hx := h.entered x (List.mem_of_mem_eraseP hx)
  begun := h.begun
  distinct := h.distinct
  started := h.started
  past := h.past

/-- A context that was entered has begun. -/
theorem opened (h : b.Sound config contexts saved) {n : Nat}
    (hn : ∃ e ∈ b.events, e.enters n = true) :
    { b with frames := .context n :: b.frames }.Sound config contexts
      (activeBefore n b.events :: saved) where
  config_eq := h.config_eq
  contexts_eq := h.contexts_eq
  saved_eq := by rw [h.saved_eq]; rfl
  orderly := h.orderly
  entered := h.entered
  begun m hm := by
    rcases List.mem_cons.mp hm with hnew | hold
    · obtain rfl : m = n := by simpa using hnew
      exact hn
    · exact h.begun m hold
  distinct := h.distinct
  started := h.started
  past := h.past

/-- A context that has begun ends. -/
theorem closed {n : Nat} {frames : List Frame} {c : Config}
    (h : b.Sound config contexts (c :: saved)) (hframes : b.frames = .context n :: frames) :
    { b with frames }.Sound config contexts saved where
  config_eq := h.config_eq
  contexts_eq := h.contexts_eq
  saved_eq := by
    have hsaved := h.saved_eq
    rw [hframes, List.map_cons] at hsaved
    exact (List.cons.inj hsaved).2
  orderly := h.orderly
  entered := h.entered
  begun m hm := h.begun m (hframes ▸ List.mem_cons_of_mem _ hm)
  distinct := by
    have hdistinct := h.distinct
    unfold callers at hdistinct
    rwa [hframes] at hdistinct
  started := by
    have hstarted := h.started
    unfold callers at hstarted
    rwa [hframes] at hstarted
  past := h.past

/-- A thread starts, and sees the default configuration. -/
theorem start (h : b.Sound config contexts saved) :
    { b with
      thread := b.threads + 1
      threads := b.threads + 1
      frames := .caller b.thread :: b.frames }.Sound {} contexts (config :: saved) where
  config_eq := by
    refine (sees_eq_default fun e he => ?_).symm
    have hpast := h.past e he
    dsimp only
    omega
  contexts_eq := h.contexts_eq
  saved_eq := by rw [h.saved_eq, h.config_eq]; rfl
  orderly := h.orderly
  entered := h.entered
  begun n hn := h.begun n (by simpa using hn)
  distinct := by
    refine List.nodup_cons.mpr ⟨fun hmem => ?_, h.distinct⟩
    have hle : b.threads + 1 ≤ b.threads := h.started _ hmem
    omega
  started t ht := by
    rcases List.mem_cons.mp ht with rfl | ht
    · exact Nat.le_refl _
    · have hle := h.started t ht
      dsimp only
      omega
  past e he := by
    have hle := h.past e he
    dsimp only
    omega

/-- A thread ends, and the one that was waiting sees what it saw before. -/
theorem stop {t : Nat} {frames : List Frame} {c : Config}
    (h : b.Sound config contexts (c :: saved)) (hframes : b.frames = .caller t :: frames) :
    { b with thread := t, frames }.Sound c contexts saved := by
  have hsaved := h.saved_eq
  rw [hframes, List.map_cons] at hsaved
  obtain ⟨hc, hsaved⟩ := List.cons.inj hsaved
  have hdistinct := h.distinct
  have hstarted := h.started
  unfold callers at hdistinct hstarted
  rw [hframes] at hdistinct hstarted
  exact ⟨hc, h.contexts_eq, hsaved, h.orderly, h.entered,
    fun n hn => h.begun n (hframes ▸ List.mem_cons_of_mem _ hn), (List.nodup_cons.mp hdistinct).2,
    fun t ht => hstarted t (List.mem_cons_of_mem _ ht), h.past⟩

/-- What can be left by name goes back to what was active before it was entered. -/
theorem lookup_contexts (h : b.Sound config contexts saved) (handle : String) :
    contexts.lookup handle = (b.handles.lookup handle).map (activeBefore · b.events) := by
  rw [h.contexts_eq]
  induction b.handles with
  | nil => rfl
  | cons entry handles ih =>
    rw [List.map_cons, List.lookup_cons, List.lookup_cons, ih]
    cases handle == entry.1 <;> rfl

/-- What can be left by name has been entered. -/
theorem entered_of_lookup (h : b.Sound config contexts saved) {handle : String} {n : Nat}
    (hn : b.handles.lookup handle = some n) : ∃ e ∈ b.events, e.enters n = true := by
  obtain ⟨_, _, hsplit, -⟩ := List.lookup_eq_some_iff.mp hn
  exact h.entered (handle, n) (hsplit ▸ List.mem_append_right _ List.mem_cons_self)

end Sound

end Book

/-! ## Lines -/

/-- Every line keeps the book in step with the machine. -/
theorem Book.Sound.record {b : Book} {k : Machine}
    (h : b.Sound k.session.config k.session.contexts k.saved) {line : Line}
    (hline : line.Flat) :
    (b.record k.session line).Sound (line.exec k).2.session.config
      (line.exec k).2.session.contexts (line.exec k).2.saved := by
  obtain ⟨s, saved⟩ := k
  -- Most lines add no event and leave the configurations alone.
  have hsame : ∀ s' : Session, s'.config = s.config → s'.contexts = s.contexts →
      b.Sound s'.config s'.contexts saved := by
    intro s' hconfig hcontexts
    rwa [hconfig, hcontexts]
  have hset : ∀ spec : ConfigSpec, (b.note s.config (.set (s.resolve spec).1)).Sound
      (s.resolve spec).1 (s.resolve spec).2.contexts saved := by
    intro spec
    rw [(grows_resolve s spec).contexts_eq]
    exact h.note _ (by rintro _ _ ⟨⟩) (by rintro _ ⟨⟩)
  cases line with
  | opening spec =>
    obtain ⟨hentered, hmem, hbefore⟩ := h.enter (s.resolve spec).1
    have hopened := hentered.opened hmem
    rw [hbefore] at hopened
    show Sound _ _ (s.resolve spec).2.contexts _
    rwa [(grows_resolve s spec).contexts_eq]
  | start => exact h.start
  | closing =>
    have hsaved := h.saved_eq
    unfold Book.record
    cases hframes : b.frames with
    | nil =>
      obtain rfl : saved = [] := by rw [hframes] at hsaved; exact hsaved
      exact h
    | cons frame frames =>
      rw [hframes] at hsaved
      obtain rfl : saved = frame.config b.events :: frames.map (Frame.config b.events) := hsaved
      cases frame with
      | context n =>
        -- The end of a context is an event of the running thread, unlike the end of a thread.
        have hleft := h.note (.leave n) (by rintro _ _ ⟨⟩)
          (by rintro _ ⟨⟩; exact h.begun n (hframes ▸ List.mem_cons_self))
        exact hleft.closed hframes
      | caller t => exact h.stop hframes
  | plain step =>
    have hnests := hline step rfl
    cases step with
    | within | thread => simp [Step.nests] at hnests
    | install spec => exact hset spec
    | installSettings settings => exact hset (.ofSettings settings)
    | reset => exact h.note _ (by rintro _ _ ⟨⟩) (by rintro _ ⟨⟩)
    | enter handle spec =>
      obtain ⟨hentered, hmem, hbefore⟩ := h.enter (s.resolve spec).1
      have hnamed := hentered.named hmem handle
      rw [hbefore] at hnamed
      show Sound _ _ ((handle, (s.resolve spec).2.config) :: (s.resolve spec).2.contexts) _
      rwa [(grows_resolve s spec).config_eq, (grows_resolve s spec).contexts_eq]
    | leave handle =>
      have hlookup : s.contexts.lookup handle =
        (b.handles.lookup handle).map (activeBefore · b.events) := h.lookup_contexts handle
      dsimp only [Book.record, Line.exec, step, Session.leave]
      rw [hlookup]
      cases hn : b.handles.lookup handle with
      | none => exact h
      | some n =>
        have hleft := h.note (.leave n) (by rintro _ _ ⟨⟩)
          (by rintro _ ⟨⟩; exact h.entered_of_lookup hn)
        exact hleft.unnamed handle
    | nameEngine spec =>
      have hgrows := (grows_resolve s spec).trans (grows_configured _ (s.resolve spec).1)
      exact hsame _ hgrows.config_eq hgrows.contexts_eq
    | compare first second =>
      have hgrows := (grows_resolve s first).trans (grows_resolve _ second)
      exact hsame _ hgrows.config_eq hgrows.contexts_eq
    | make name text engine =>
      exact hsame _ (make_configs s name text engine).1 (make_configs s name text engine).2
    | call name op => exact hsame _ (call_configs s name op).1 (call_configs s name op).2
    | viewSettings settings =>
      have hgrows := grows_resolve s (.ofSettings settings)
      exact hsame _ hgrows.config_eq hgrows.contexts_eq
    | view | assign | define => exact h

/-- A line adds at most one event, which is one of the running thread. -/
theorem Book.events_record (b : Book) (s : Session) (line : Line) :
    (b.record s line).events = b.events ∨
      ∃ change, (b.record s line).events = ⟨b.thread, change, s.config⟩ :: b.events := by
  unfold record
  split
  case h_5 handle =>
    split
    · exact .inl rfl
    · exact .inr ⟨_, rfl⟩
  case h_9 =>
    split
    · exact .inl rfl
    · exact .inr ⟨_, rfl⟩
    · exact .inl rfl
  all_goals first | exact .inl rfl | exact .inr ⟨_, rfl⟩

/-- A line changes nothing of what the threads see that are not running. -/
theorem Book.sees_record (b : Book) (s : Session) (line : Line) {t : Nat} (ht : t ≠ b.thread) :
    sees t (b.record s line).events = sees t b.events := by
  rcases b.events_record s line with hsame | ⟨change, hnew⟩
  · rw [hsame]
  · rw [hnew, sees_cons_of_ne ht.symm]

/-! ## Programs -/

/-- A machine, and the book about what it has done. -/
structure Chronicle where
  /-- The machine. -/
  machine : Machine := {}
  /-- The book. -/
  book : Book := {}

/-- A line is carried out and taken down. -/
def Chronicle.next (k : Chronicle) (line : Line) : Chronicle where
  machine := (line.exec k.machine).2
  book := k.book.record k.machine.session line

/-- What lines have led to, from the first one on. -/
def chronicle (lines : List Line) : Chronicle := lines.foldl Chronicle.next {}

/-- A further line is carried out and taken down. -/
theorem chronicle_concat (lines : List Line) (line : Line) :
    chronicle (lines ++ [line]) = (chronicle lines).next line := by
  rw [chronicle, List.foldl_append]
  rfl

/-- The machine of a chronicle has carried out the lines. -/
theorem chronicle_machine (lines : List Line) :
    (chronicle lines).machine = (exec lines {}).2 := by
  suffices hfold : ∀ k : Chronicle,
      (lines.foldl Chronicle.next k).machine = (exec lines k.machine).2 from hfold {}
  induction lines with
  | nil => exact fun _ => rfl
  | cons line lines ih =>
    intro k
    rw [List.foldl_cons, ih, exec_cons]
    rfl

/-- The book fits the machine at every place of a program. -/
theorem chronicle_sound (lines : List Line)
    (hlines : ∀ line ∈ lines, line.Flat) :
    (chronicle lines).book.Sound (chronicle lines).machine.session.config
      (chronicle lines).machine.session.contexts (chronicle lines).machine.saved := by
  induction lines using List.reverseRecOn with
  | nil => exact .empty
  | append_singleton lines line ih =>
    rw [chronicle_concat]
    rw [List.forall_mem_append] at hlines
    exact (ih hlines.1).record (hlines.2 line List.mem_cons_self)

/-- The lines of a context or of a thread leave the active configuration as it was. -/
theorem chronicle_block (lines : List Line) {block : Step} (hblock : block.nests = true) :
    (chronicle (lines ++ linesOf block)).machine.session.config =
      (chronicle lines).machine.session.config := by
  rw [chronicle_machine, exec_append, ← chronicle_machine]
  generalize (chronicle lines).machine = k
  show (exec (linesOf block) ⟨k.session, k.saved⟩).2.session.config = k.session.config
  rw [exec_linesOf]
  cases block with
  | within | thread => rfl
  | _ => cases hblock

/-- At every place of every program, the active configuration is what the running thread's latest
event has installed, and this is what is seen there. Leaving a context installs what was active just
before this context was entered. No line changes what another thread sees; a thread starts with the
default configuration; and the lines of a context or of a thread, whatever they are, leave the
active configuration as it was. -/
theorem config_eq_latest {program : List Step} {earlier later : List Line}
    (h : listing program = earlier ++ later) :
    let k := chronicle earlier
    -- What is active, and what is seen of it.
    (k.machine.session.config = sees k.book.thread k.book.events ∧
      ∀ rest, later = .plain .view :: rest →
        (written (runSteps program {}).1)[earlier.length]? =
          some (.view (k.machine.session.viewOf (sees k.book.thread k.book.events)))) ∧
    -- What the events tell.
    (∀ recent e past, k.book.events = recent ++ e :: past →
      e.before = sees e.thread past ∧
      ∀ n, e.change = .leave n → ∃ e' ∈ past, e'.enters n = true ∧
        (∀ e'' ∈ k.book.events, e''.enters n = true → e'' = e') ∧
        e.change.installs past = e'.before) ∧
    -- What the next line leaves alone.
    (∀ line rest, later = line :: rest →
      let k' := chronicle (earlier ++ [line])
      (∀ t, t ≠ k.book.thread → sees t k'.book.events = sees t k.book.events) ∧
      (line = .start →
        (∀ e ∈ k'.book.events, e.thread ≠ k'.book.thread) ∧ k'.machine.session.config = {})) ∧
    -- What contexts and threads leave alone.
    (∀ block rest, block.nests = true → later = linesOf block ++ rest →
      (chronicle (earlier ++ linesOf block)).machine.session.config = k.machine.session.config) ∧
    -- What the program leads to.
    (later = [] → k.machine.session = (runSteps program {}).2) := by
  intro k
  have hsound := chronicle_sound earlier fun line hmem =>
    flat_of_mem_listing (h ▸ List.mem_append_left later hmem)
  have hmachine : k.machine = (exec earlier {}).2 := chronicle_machine earlier
  refine ⟨⟨hsound.config_eq, ?_⟩, ?_, ?_, ?_, ?_⟩
  · rintro rest rfl
    rw [written_at h, ← hmachine, ← hsound.config_eq]
    rfl
  · intro recent e past hevents
    have horderly : Orderly k.book.events := hsound.orderly
    rw [hevents] at horderly ⊢
    exact horderly.event
  · rintro line rest rfl
    rw [chronicle_concat]
    refine ⟨fun t ht => k.book.sees_record k.machine.session line ht, ?_⟩
    rintro rfl
    refine ⟨fun e he => ?_, rfl⟩
    have hpast : e.thread ≤ k.book.threads := hsound.past e he
    show e.thread ≠ k.book.threads + 1
    omega
  · exact fun block rest hblock _ => chronicle_block earlier hblock
  · rintro rfl
    rw [hmachine, ← List.append_nil earlier, ← h, exec_listing program {} []]

/-- The first of two contexts is left before the second one, and a thread runs in between: leaving
the second context brings back the configuration of the first. -/
theorem config_eq_latest_out_of_order :
    let program : List Step :=
      [.enter "outer" { flags := 2 }, .enter "inner" { flags := 8 }, .leave "outer",
        .thread [.install { flags := 16 }], .leave "inner", .view]
    let earlier : List Line :=
      [.plain (.enter "outer" { flags := 2 }), .plain (.enter "inner" { flags := 8 }),
        .plain (.leave "outer"), .start, .plain (.install { flags := 16 }), .closing,
        .plain (.leave "inner")]
    listing program = earlier ++ [.plain .view] ∧
      sees 0 (chronicle earlier).book.events = { flags := 2 } ∧
      sees 1 (chronicle earlier).book.events = { flags := 16 } ∧
      (written (runSteps program {}).1)[7]? =
        some (.view ((chronicle earlier).machine.session.viewOf { flags := 2 })) := by
  intro program earlier
  have hlisting : listing program = earlier ++ [.plain .view] := rfl
  have h := config_eq_latest hlisting
  exact ⟨hlisting, rfl, rfl, h.1.2 [] rfl⟩

end TextScan.Session
