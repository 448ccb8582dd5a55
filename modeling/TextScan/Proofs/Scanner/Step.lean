import TextScan.Scanner.Step

/-!
# What a step can do

Most operations only ask (`Op.asks`), and leave the scanner and the engine as they are. Of the
others, a match attempt is the one that uses the engine: `Scanner.attempt_eq` says what comes of each
answer that an engine can give. A property that every step keeps holds all along a run
(`Scanner.run_invariant`) and of every scanner that a run can reach (`Scanner.Reachable`). Nothing
is assumed of the engine.
-/

namespace TextScan

universe u v

/-- Whether an operation only asks. -/
def Op.asks : Op → Bool
  | .attempt .. | .read _ | .setPosition _ | .setText _ | .reset | .terminate | .append _ => false
  | _ => true

namespace Scanner

variable {σ : Type u} (E : Engine σ)

/-! ## Single steps -/

/-- An operation that only asks changes nothing. -/
theorem step_of_asks {op : Op} (h : op.asks = true) (s : Scanner) (e : σ) :
    (s.step E op e).2 = (s, e) := by
  cases op <;> first | rfl | simp [Op.asks] at h

/-- The scanner after a match has been found and accepted. -/
def landed (s : Scanner) (use : Use) (m : Match) : Scanner :=
  { s with pos := if use = .check then s.pos else m.stop, last := some m }

/-- A match attempt in terms of the engine's answer: a fault and a failure clear the register, a
match in reach is registered and answered, and a match out of reach is a fault of the engine. -/
theorem attempt_eq (reach : Reach) (use : Use) (p : Pattern) (s : Scanner) (e : σ) :
    s.attempt E reach use p e =
      let reply := (E.attempt reach p s.text s.pos e).1
      let e' := (E.attempt reach p s.text s.pos e).2
      match reply.result with
      | .error f => ({ result := .error f, log := reply.log }, s.cleared, e')
      | .ok none => ({ result := .ok .none, log := reply.log }, s.cleared, e')
      | .ok (some m) =>
        if reach.allows s.pos m.start then
          ({ result := .ok (answer reach use s.text s.pos m), log := reply.log },
            s.landed use m, e')
        else
          ({ result := .error (.contract reach.label s.pos m.start),
             log := reply.log ++ [.rejected reach m.start s.pos p] }, s.cleared, e') := by
  unfold attempt register
  generalize E.attempt reach p s.text s.pos e = out
  obtain ⟨⟨result, log⟩, e'⟩ := out
  match result with
  | .error f => rfl
  | .ok none => rfl
  | .ok (some m) =>
    by_cases hreach : reach.allows s.pos m.start = true
    · simp only [hreach, if_true, landed]
      split <;> rfl
    · simp only [hreach, if_false, Bool.false_eq_true]

/-- What an engine's state keeps when the engine is asked, it keeps through every operation. -/
theorem step_state {P : σ → Prop}
    (hattempt : ∀ reach p t pos e, P e → P (E.attempt reach p t pos e).2) (op : Op) (s : Scanner)
    {e : σ} (he : P e) : P (s.step E op e).2.2 := by
  cases hasks : op.asks with
  | true =>
    rw [step_of_asks E hasks]
    exact he
  | false =>
    cases op with
    | attempt reach use p =>
      show P (s.attempt E reach use p e).2.2
      rw [attempt_eq]
      have hnext := hattempt reach p s.text s.pos e he
      dsimp only
      split
      · exact hnext
      · exact hnext
      · split <;> exact hnext
    | read | setPosition | setText | reset | terminate | append => exact he
    | _ => simp [Op.asks] at hasks

/-- An operation asks the engine only if it is a match attempt, and then once. -/
theorem step_engine_state (op : Op) (s : Scanner) (e : σ) :
    (s.step E op e).2.2 =
      match op with
      | .attempt reach _ p => (E.attempt reach p s.text s.pos e).2
      | _ => e := by
  cases op with
  | attempt reach use p =>
    show (s.attempt E reach use p e).2.2 = _
    rw [attempt_eq]
    dsimp only
    split
    · rfl
    · rfl
    · split <;> rfl
  | _ => rfl

/-- Engines that answer alike are alike to a scanner: every operation has the same outcome and
leaves the same scanner behind. -/
theorem step_congr {τ : Type v} (F : Engine τ) {e : σ} {f : τ}
    (hreply : ∀ reach p t pos, (E.attempt reach p t pos e).1 = (F.attempt reach p t pos f).1)
    (hanchor : E.fixedAnchor e = F.fixedAnchor f) (hrender : E.render e = F.render f) (op : Op)
    (s : Scanner) :
    (s.step E op e).1 = (s.step F op f).1 ∧ (s.step E op e).2.1 = (s.step F op f).2.1 := by
  cases op with
  | attempt reach use p =>
    show (s.attempt E reach use p e).1 = (s.attempt F reach use p f).1 ∧
      (s.attempt E reach use p e).2.1 = (s.attempt F reach use p f).2.1
    rw [attempt_eq, attempt_eq, hreply]
    dsimp only
    split
    · exact ⟨rfl, rfl⟩
    · exact ⟨rfl, rfl⟩
    · split <;> exact ⟨rfl, rfl⟩
  | fixedAnchor => exact ⟨by simp [step, hanchor], rfl⟩
  | engine => exact ⟨by simp [step, hrender], rfl⟩
  | _ => exact ⟨rfl, rfl⟩

/-- Reading fails for a negative length, gives nothing if the text has too few characters left, and
else gives them and moves the cursor behind them. -/
theorem read_cases (s : Scanner) (n : Int) :
    (n < 0 ∧ s.read n =
      (.error (.outOfRange n s.length (some s!"read length must not be negative, got {n}")),
        s.cleared)) ∨
      (0 ≤ n ∧ s.length < s.pos + n ∧ s.read n = (.ok none, s.cleared)) ∨
      (0 ≤ n ∧ s.pos + n ≤ s.length ∧
        s.read n = (.ok (some (s.text.slice s.pos (s.pos + n))), s.movedTo (s.pos + n))) := by
  unfold read
  by_cases hn : n < 0
  · exact Or.inl ⟨hn, if_pos hn⟩
  · by_cases hstop : s.length < s.pos + n
    · refine Or.inr (Or.inl ⟨by omega, hstop, ?_⟩)
      rw [if_neg hn]
      exact if_pos hstop
    · refine Or.inr (Or.inr ⟨by omega, by omega, ?_⟩)
      rw [if_neg hn]
      exact if_neg hstop

/-- Setting the cursor to an offset of the text moves it there. -/
theorem setPosition_of_mem {s : Scanner} {q : Int} (h0 : 0 ≤ q) (hq : q ≤ s.length) :
    s.setPosition q = (.ok (), s.movedTo q) := by
  unfold setPosition
  have hneg : ¬ q < 0 := by omega
  have hbig : ¬ s.length < q := by omega
  simp [hneg, hbig]

/-! ## Runs -/

/-- The first operation of a run is a step, and the others are a run from where it led. -/
theorem run_cons (op : Op) (ops : List Op) (s : Scanner) (e : σ) :
    run E (op :: ops) s e =
      let next := s.step E op e
      let rest := run E ops next.2.1 next.2.2
      (⟨next.1, next.2.1⟩ :: rest.1, rest.2) := rfl

/-- Operations carried out after others are a run from where those have led. -/
theorem run_append (ops ops' : List Op) (s : Scanner) (e : σ) :
    run E (ops ++ ops') s e =
      let first := run E ops s e
      let rest := run E ops' first.2.1 first.2.2
      (first.1 ++ rest.1, rest.2) := by
  induction ops generalizing s e with
  | nil => rfl
  | cons op ops ih =>
    rw [List.cons_append, run_cons, run_cons]
    dsimp only
    rw [ih]
    rfl

/-- A run has an outcome for each of its operations. -/
theorem length_run (ops : List Op) (s : Scanner) (e : σ) :
    (run E ops s e).1.length = ops.length := by
  induction ops generalizing s e with
  | nil => rfl
  | cons op ops ih => rw [run_cons, List.length_cons, List.length_cons, ih]

/-- What every step keeps holds after every step of a run, and at its end. -/
theorem run_invariant {P : Scanner → Prop} (hstep : ∀ op s e, P s → P (s.step E op e).2.1)
    (ops : List Op) {s : Scanner} (e : σ) (hs : P s) :
    (∀ trace ∈ (run E ops s e).1, P trace.after) ∧ P (run E ops s e).2.1 := by
  induction ops generalizing s e with
  | nil => exact ⟨fun trace h => by simp [run] at h, hs⟩
  | cons op ops ih =>
    have hnext := hstep op s e hs
    obtain ⟨htraces, hlast⟩ := ih (s.step E op e).2.2 hnext
    rw [run_cons]
    refine ⟨?_, hlast⟩
    intro trace htrace
    rcases List.mem_cons.mp htrace with rfl | hrest
    · exact hnext
    · exact htraces trace hrest

/-- The scanners that operations can lead to, from a new scanner on. -/
def Reachable (s : Scanner) : Prop :=
  ∃ (t : Text) (e : σ) (ops : List Op), (run E ops { text := t } e).2.1 = s

/-- What holds of a new scanner and is kept by every step holds of every scanner in reach. -/
theorem Reachable.invariant {P : Scanner → Prop} (hnew : ∀ t, P { text := t })
    (hstep : ∀ op s e, P s → P (s.step E op e).2.1) {s : Scanner} (h : Reachable E s) : P s := by
  obtain ⟨t, e, ops, rfl⟩ := h
  exact (run_invariant E hstep ops e (hnew t)).2

end Scanner

end TextScan
