import TextScan.Proofs.Scanner.Step

/-!
# The effects of operations, with any engine

`Scanner.Effect` lists what an operation can come to, together with the outcome and the scanner that
it leaves behind. Nothing is assumed of the engine: what it answers to a match attempt is part of the
list. Every operation has an effect of the list (`Scanner.step_effect`), so a statement about all
operations is a statement about each effect, and no operation has to be opened again.

A run is looked at moment by moment (`Scanner.history`): a `Moment` is an operation with the scanner
and the state of the engine that it starts from.
-/

namespace TextScan

universe u

/-- Where a match that an attempt from the cursor `pos` finds has to start: at the cursor, or for a
search not before it. -/
def Reach.Admits (pos start : Int) : Reach → Prop
  | .anchored => start = pos
  | .ahead => pos ≤ start

/-- A match is within reach exactly if it starts where it has to. -/
theorem Reach.allows_iff {reach : Reach} {pos start : Int} :
    reach.allows pos start = true ↔ reach.Admits pos start := by
  cases reach <;> simp [allows, Admits]

namespace Scanner

variable {σ : Type u} (E : Engine σ)

/-! ## Effects -/

/-- What an operation on `s` can come to, with an engine in the state `e`: the outcome, and the
scanner afterwards. -/
inductive Effect (s : Scanner) (e : σ) : Op → Outcome → Scanner → Prop
  /-- A question changes nothing, whether or not it can be answered. -/
  | asked {op : Op} (h : op.asks = true) (o : Outcome) : Effect s e op o s
  /-- The engine's match starts where it has to, and is registered. -/
  | accepted {reach : Reach} (use : Use) {p : Pattern} {m : Match}
    (hreply : (E.attempt reach p s.text s.pos e).1.result = .ok (some m))
    (hstart : reach.Admits s.pos m.start) :
    Effect s e (.attempt reach use p)
      { result := .ok (answer reach use s.text s.pos m)
        log := (E.attempt reach p s.text s.pos e).1.log } (s.landed use m)
  /-- The engine's match starts elsewhere, and is rejected. -/
  | rejected {reach : Reach} (use : Use) {p : Pattern} {m : Match}
    (hreply : (E.attempt reach p s.text s.pos e).1.result = .ok (some m))
    (hstart : ¬ reach.Admits s.pos m.start) :
    Effect s e (.attempt reach use p)
      { result := .error (.contract reach.label s.pos m.start)
        log := (E.attempt reach p s.text s.pos e).1.log ++ [.rejected reach m.start s.pos p] }
      s.cleared
  /-- The engine finds nothing. -/
  | missed {reach : Reach} (use : Use) {p : Pattern}
    (hreply : (E.attempt reach p s.text s.pos e).1.result = .ok none) :
    Effect s e (.attempt reach use p)
      { result := .ok .none, log := (E.attempt reach p s.text s.pos e).1.log } s.cleared
  /-- The engine fails. -/
  | raised {reach : Reach} (use : Use) {p : Pattern} {f : Fault}
    (hreply : (E.attempt reach p s.text s.pos e).1.result = .error f) :
    Effect s e (.attempt reach use p)
      { result := .error f, log := (E.attempt reach p s.text s.pos e).1.log } s.cleared
  /-- The characters read are there. -/
  | read {n : Int} (h0 : 0 ≤ n) (hlen : s.pos + n ≤ s.length) :
    Effect s e (.read n) (.answer (.text (s.text.slice s.pos (s.pos + n)))) (s.movedTo (s.pos + n))
  /-- There are not enough characters to read. -/
  | readShort {n : Int} (h0 : 0 ≤ n) (hlen : s.length < s.pos + n) :
    Effect s e (.read n) (.answer .none) s.cleared
  /-- A negative number of characters cannot be read. -/
  | readNegative {n : Int} (hn : n < 0) :
    Effect s e (.read n)
      (.of (.error (.outOfRange n s.length (some s!"read length must not be negative, got {n}"))))
      s.cleared
  /-- The cursor is moved to an offset of the text, which may be counted from the end. -/
  | placed {n target : Int} (htarget : target = if n < 0 then n + s.length else n)
    (h0 : 0 ≤ target) (hlen : target ≤ s.length) :
    Effect s e (.setPosition n) (.answer .none) (s.movedTo target)
  /-- The offset is not one of the text, and nothing changes. -/
  | misplaced {n target : Int} (htarget : target = if n < 0 then n + s.length else n)
    (hout : target < 0 ∨ s.length < target) :
    Effect s e (.setPosition n) (.of (.error (.outOfRange n s.length))) s
  /-- The text is replaced. -/
  | setText (t : Text) : Effect s e (.setText t) (.answer .none) { text := t }
  /-- The scanner starts over. -/
  | reset : Effect s e .reset (.answer .none) (s.movedTo 0)
  /-- The cursor is moved to the end. -/
  | terminate : Effect s e .terminate (.answer .none) (s.movedTo s.length)
  /-- The text grows at its end. -/
  | appended (pieces : List Text) :
    Effect s e (.append pieces) (.answer (.flag true)) { s with text := s.text ++ pieces.flatten }

/-- Appending pieces one after the other is appending them all. -/
theorem foldl_concat (pieces : List Text) (s : Scanner) :
    pieces.foldl concat s = { s with text := s.text ++ pieces.flatten } := by
  induction pieces generalizing s with
  | nil => simp
  | cons more pieces ih => rw [List.foldl_cons, ih, concat, List.flatten_cons, List.append_assoc]

section Attempt

variable {E} {reach : Reach} {p : Pattern} {s : Scanner} {e : σ} {m : Match}
variable (hreply : (E.attempt reach p s.text s.pos e).1.result = .ok (some m))
include hreply

/-- A match that starts where it has to is answered with and registered. -/
theorem step_of_admits (use : Use) (hstart : reach.Admits s.pos m.start) :
    (s.step E (.attempt reach use p) e).1 =
        { result := .ok (answer reach use s.text s.pos m)
          log := (E.attempt reach p s.text s.pos e).1.log } ∧
      (s.step E (.attempt reach use p) e).2.1 = s.landed use m := by
  have hreach := Reach.allows_iff.mpr hstart
  show (s.attempt E reach use p e).1 = _ ∧ (s.attempt E reach use p e).2.1 = _
  rw [attempt_eq]
  simp only [hreply, hreach, if_true, and_self]

end Attempt

/-- A match attempt has an effect of the list. -/
theorem attempt_effect (reach : Reach) (use : Use) (p : Pattern) (s : Scanner) (e : σ) :
    Effect E s e (.attempt reach use p) (s.attempt E reach use p e).1
      (s.attempt E reach use p e).2.1 := by
  rw [attempt_eq]
  dsimp only
  split
  · rename_i f hreply
    exact .raised use hreply
  · rename_i hreply
    exact .missed use hreply
  · rename_i m hreply
    by_cases hreach : reach.allows s.pos m.start = true
    · rw [if_pos hreach]
      exact .accepted use hreply (Reach.allows_iff.mp hreach)
    · rw [if_neg hreach]
      exact .rejected use hreply (fun h => hreach (Reach.allows_iff.mpr h))

/-- Reading has an effect of the list. -/
theorem read_effect (n : Int) (s : Scanner) (e : σ) :
    Effect E s e (.read n) (.of ((s.read n).1.map .optText)) (s.read n).2 := by
  rcases read_cases s n with ⟨hn, hread⟩ | ⟨hn, hlen, hread⟩ | ⟨hn, hlen, hread⟩
  · rw [hread]
    exact .readNegative hn
  · rw [hread]
    exact .readShort hn hlen
  · rw [hread]
    exact .read hn hlen

/-- Setting the cursor has an effect of the list. -/
theorem setPosition_effect (n : Int) (s : Scanner) (e : σ) :
    Effect E s e (.setPosition n) (.of ((s.setPosition n).1.map fun _ => .none))
      (s.setPosition n).2 := by
  unfold setPosition
  dsimp only
  generalize htarget : (if n < 0 then n + s.length else n) = target
  split
  · rename_i hrange
    simp only [Bool.or_eq_true, decide_eq_true_eq] at hrange
    exact .misplaced htarget.symm hrange
  · rename_i hrange
    simp only [Bool.or_eq_true, decide_eq_true_eq, not_or, Int.not_lt] at hrange
    exact .placed htarget.symm hrange.1 hrange.2

/-- Every operation has an effect of the list. -/
theorem step_effect (op : Op) (s : Scanner) (e : σ) :
    Effect E s e op (s.step E op e).1 (s.step E op e).2.1 := by
  cases hasks : op.asks with
  | true =>
    rw [step_of_asks E hasks]
    exact .asked hasks _
  | false =>
    cases op with
    | attempt reach use p => exact attempt_effect E reach use p s e
    | read n => exact read_effect E n s e
    | setPosition n => exact setPosition_effect E n s e
    | setText t => exact .setText t
    | reset => exact .reset
    | terminate => exact .terminate
    | append pieces =>
      have happend := Effect.appended (E := E) (s := s) (e := e) pieces
      rwa [← foldl_concat pieces s] at happend
    | _ => simp [Op.asks] at hasks

/-! ## Moments of a run -/

/-- A moment of a run: an operation, and what it starts from. -/
structure Moment (σ : Type u) where
  /-- The operation. -/
  op : Op
  /-- The scanner before the operation. -/
  before : Scanner
  /-- The state of the engine before the operation. -/
  engine : σ

namespace Moment

/-- The outcome of the operation. -/
def outcome (w : Moment σ) : Outcome := (w.before.step E w.op w.engine).1

/-- The scanner after the operation. -/
def after (w : Moment σ) : Scanner := (w.before.step E w.op w.engine).2.1

/-- What the engine says when it is asked for a match at this moment. -/
def reply (w : Moment σ) (reach : Reach) (p : Pattern) : Reply :=
  (E.attempt reach p w.before.text w.before.pos w.engine).1

/-- The effect of the operation. -/
theorem effect (w : Moment σ) :
    Effect E w.before w.engine w.op (w.outcome E) (w.after E) :=
  step_effect E w.op w.before w.engine

end Moment

/-- The moments of a run, in order. -/
def history : List Op → Scanner → σ → List (Moment σ)
  | [], _, _ => []
  | op :: ops, s, e =>
    let next := s.step E op e
    ⟨op, s, e⟩ :: history ops next.2.1 next.2.2

/-- What is seen of a run is what is seen at its moments. -/
theorem run_fst_eq (ops : List Op) (s : Scanner) (e : σ) :
    (run E ops s e).1 = (history E ops s e).map fun w => ⟨w.outcome E, w.after E⟩ := by
  induction ops generalizing s e with
  | nil => rfl
  | cons op ops ih =>
    rw [run_cons, history, List.map_cons, ← ih]
    rfl

end Scanner

end TextScan
