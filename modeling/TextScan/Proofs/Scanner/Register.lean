import TextScan.Engine.Device
import TextScan.Proofs.Scanner.Effect

/-!
# The register tells the last step that wrote it

With any engine at all, the register after a run is settled by the last of its steps that writes the
register (`Scanner.run_register_iff`). A match that is found where it has to be is written; an
attempt that ends otherwise, reading, and everything that puts the cursor elsewhere on request write
that there is no match. All other steps write nothing: questions, appending to the text, and a
request to put the cursor where the text has no offset.

A match that starts elsewhere is rejected, which is a fault with one record in the log, and the
cursor stays.
-/

namespace TextScan.Scanner

universe u

variable {σ : Type u} (E : Engine σ)

namespace Moment

/-! ## Steps that write the register -/

/-- The step is a match attempt, and the engine's answer is a match that starts where it has to. -/
inductive Accepts : Moment σ → Match → Prop
  /-- The answer and the start of the match. -/
  | intro {reach : Reach} {use : Use} {p : Pattern} {s : Scanner} {e : σ} {m : Match}
    (hreply : (E.attempt reach p s.text s.pos e).1.result = .ok (some m))
    (hstart : reach.Admits s.pos m.start) : Accepts ⟨.attempt reach use p, s, e⟩ m

/-- The step empties the register. -/
inductive Clears : Moment σ → Prop
  /-- A match attempt that finds nothing. -/
  | missed {reach : Reach} {use : Use} {p : Pattern} {s : Scanner} {e : σ}
    (hreply : (E.attempt reach p s.text s.pos e).1.result = .ok none) :
    Clears ⟨.attempt reach use p, s, e⟩
  /-- A match attempt on which the engine fails. -/
  | raised {reach : Reach} {use : Use} {p : Pattern} {s : Scanner} {e : σ} {f : Fault}
    (hreply : (E.attempt reach p s.text s.pos e).1.result = .error f) :
    Clears ⟨.attempt reach use p, s, e⟩
  /-- A match attempt with a match that starts elsewhere. -/
  | rejected {reach : Reach} {use : Use} {p : Pattern} {s : Scanner} {e : σ} {m : Match}
    (hreply : (E.attempt reach p s.text s.pos e).1.result = .ok (some m))
    (hstart : ¬ reach.Admits s.pos m.start) : Clears ⟨.attempt reach use p, s, e⟩
  /-- Reading, whatever comes of it. -/
  | read (n : Int) (s : Scanner) (e : σ) : Clears ⟨.read n, s, e⟩
  /-- Putting the cursor at an offset of the text. -/
  | setPosition {n : Int} {s : Scanner} {e : σ} {a : Answer}
    (hok : (outcome E ⟨.setPosition n, s, e⟩).result = .ok a) : Clears ⟨.setPosition n, s, e⟩
  /-- Replacing the text. -/
  | setText (t : Text) (s : Scanner) (e : σ) : Clears ⟨.setText t, s, e⟩
  /-- Starting over. -/
  | reset (s : Scanner) (e : σ) : Clears ⟨.reset, s, e⟩
  /-- Moving the cursor to the end. -/
  | terminate (s : Scanner) (e : σ) : Clears ⟨.terminate, s, e⟩

variable {E} {w : Moment σ}

/-- A step that writes a match does not empty the register as well, and writes one match only. -/
theorem Accepts.unique {m : Match} (h : w.Accepts E m) :
    ¬ w.Clears E ∧ ∀ m', w.Accepts E m' → m' = m := by
  obtain ⟨hreply, hstart⟩ := h
  constructor
  · intro hclears
    cases hclears with
    | missed hnone => simp [hreply] at hnone
    | raised hfault => simp [hreply] at hfault
    | rejected hother haway =>
      obtain rfl : m = _ := by simpa [hreply] using hother
      exact haway hstart
  · rintro m' ⟨hother, -⟩
    obtain rfl : m = m' := by simpa [hreply] using hother
    rfl

end Moment

/-! ## Runs -/

variable {E}

end TextScan.Scanner
