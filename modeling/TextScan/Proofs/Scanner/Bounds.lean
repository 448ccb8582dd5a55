import TextScan.Engine.Device
import TextScan.Proofs.Scanner.Effect

/-!
# When the cursor leaves the text

A scanner checks where the match of an engine starts and not where it ends, and an operation that
consumes the match puts the cursor at its end. So an engine can carry the cursor out of the text
(`Scanner.cursor_out_of_text`), and this is the only way out: the cursor lies in the text all along
a run exactly if no step consumes an accepted match that ends outside the text
(`Scanner.run_inText_iff`).
-/

namespace TextScan.Scanner

universe u

variable {σ : Type u} (E : Engine σ)

/-- The cursor lies in the text. -/
def InText (s : Scanner) : Prop := 0 ≤ s.pos ∧ s.pos ≤ s.length

instance (s : Scanner) : Decidable s.InText := inferInstanceAs (Decidable (_ ∧ _))

/-- The step consumes a match of the engine that starts where it has to and ends outside the
text. -/
inductive Moment.Strays : Moment σ → Prop
  /-- The answer, the start of the match, its end and what is done with it. -/
  | intro {reach : Reach} {use : Use} {p : Pattern} {s : Scanner} {e : σ} {m : Match}
    (hreply : (E.attempt reach p s.text s.pos e).1.result = .ok (some m))
    (hstart : reach.Admits s.pos m.start) (hstop : m.stop < 0 ∨ s.length < m.stop)
    (huse : use ≠ .check) : Moment.Strays ⟨.attempt reach use p, s, e⟩

variable {E}

/-- A step that strays succeeds, and leaves the cursor outside the text. -/
theorem Moment.Strays.after {w : Moment σ} (h : w.Strays E) :
    (∃ a, (w.outcome E).result = .ok a) ∧ ¬ (w.after E).InText := by
  obtain ⟨hreply, hstart, hstop, huse⟩ := h
  rename_i reach use p s e m
  obtain ⟨hout, hafter⟩ := step_of_admits hreply use hstart
  refine ⟨⟨_, congrArg Outcome.result hout⟩, ?_⟩
  rintro ⟨h0, hlen⟩
  have hpos : (Moment.after E ⟨.attempt reach use p, s, e⟩).pos = m.stop := by
    unfold Moment.after
    rw [hafter]
    exact if_neg huse
  have hlength : (Moment.after E ⟨.attempt reach use p, s, e⟩).length = s.length := by
    unfold Moment.after
    rw [hafter]
    rfl
  omega

/-- A step that does not stray keeps the cursor in the text. -/
theorem Moment.inText_after {w : Moment σ} (hs : w.before.InText) (h : ¬ w.Strays E) :
    (w.after E).InText := by
  obtain ⟨op, s, e⟩ := w
  obtain ⟨h0, hlen⟩ : s.InText := hs
  have hlength : 0 ≤ s.length := Int.natCast_nonneg _
  have heffect := effect E ⟨op, s, e⟩
  generalize Moment.after E ⟨op, s, e⟩ = s' at heffect ⊢
  generalize Moment.outcome E ⟨op, s, e⟩ = o at heffect
  cases heffect with
  | asked | misplaced => exact ⟨h0, hlen⟩
  | rejected | missed | raised | readShort | readNegative => exact ⟨h0, hlen⟩
  | accepted use hreply hstart =>
    rename_i reach p m
    by_cases huse : use = .check
    · subst huse
      exact ⟨h0, hlen⟩
    · -- The cursor is at the end of the match, which lies in the text.
      have hstop : ¬ (m.stop < 0 ∨ s.length < m.stop) :=
        fun hstop => h ⟨hreply, hstart, hstop, huse⟩
      have hpos : (s.landed use m).pos = m.stop := if_neg huse
      have hsame : (s.landed use m).length = s.length := rfl
      show 0 ≤ (s.landed use m).pos ∧ (s.landed use m).pos ≤ (s.landed use m).length
      omega
  | read hn hfit => exact ⟨Int.add_nonneg h0 hn, hfit⟩
  | placed _ htarget hfit => exact ⟨htarget, hfit⟩
  | setText t => exact ⟨Int.le_refl 0, Int.natCast_nonneg _⟩
  | reset => exact ⟨Int.le_refl 0, hlength⟩
  | terminate => exact ⟨hlength, Int.le_refl _⟩
  | appended pieces =>
    refine ⟨h0, ?_⟩
    unfold Scanner.length at hlen ⊢
    dsimp only
    rw [List.length_append]
    omega

/-- From a scanner whose cursor lies in its text on: the cursor lies in the text after every step
exactly if no step strays. -/
theorem traces_inText_iff (ops : List Op) {s : Scanner} (hs : s.InText) (e : σ) :
    (∀ trace ∈ (run E ops s e).1, trace.after.InText) ↔ ∀ w ∈ history E ops s e, ¬ w.Strays E := by
  rw [run_fst_eq, List.forall_mem_map]
  induction ops generalizing s e with
  | nil => simp [history]
  | cons op ops ih =>
    rw [history, List.forall_mem_cons, List.forall_mem_cons]
    dsimp only
    constructor
    · rintro ⟨hfirst, hrest⟩
      exact ⟨fun hstrays => hstrays.after.2 hfirst, (ih hfirst _).mp hrest⟩
    · rintro ⟨hfirst, hrest⟩
      have hnext := Moment.inText_after (w := ⟨op, s, e⟩) hs hfirst
      exact ⟨hnext, (ih hnext _).mpr hrest⟩

/-- With any engine, the cursor of a new scanner lies in the text after every step of a run exactly
if no step consumes an accepted match that ends outside the text. Such a match is not rejected: the
step succeeds, and leaves the cursor outside the text. -/
theorem run_inText_iff (E : Engine σ) (t : Text) (e : σ) (ops : List Op) :
    let steps := history E ops { text := t } e
    ((∀ trace ∈ (run E ops { text := t } e).1, 0 ≤ trace.after.pos ∧
        trace.after.pos ≤ trace.after.text.length) ↔ ∀ w ∈ steps, ¬ w.Strays E) ∧
      ∀ w ∈ steps, w.Strays E →
        (∃ a, (w.outcome E).result = .ok a) ∧
          ((w.after E).pos < 0 ∨ (w.after E).text.length < (w.after E).pos) := by
  have hnew : InText { text := t } := ⟨Int.le_refl 0, Int.natCast_nonneg _⟩
  refine ⟨traces_inText_iff ops hnew e, fun w _ hstrays => ⟨hstrays.after.1, ?_⟩⟩
  have hout := hstrays.after.2
  unfold InText Scanner.length at hout
  omega

/-- A match at the cursor that is said to take nine of three characters is accepted: the cursor is
then at offset nine, and asking about the line end fails for lack of a character. -/
theorem cursor_out_of_text :
    let ops : List Op := [.attempt .anchored .scan (.source ['a']), .atLineEnd]
    let traces := (run Device.engine ops { text := ['a', 'b', 'c'] } (.shift 0 9, {})).1
    traces.map (·.outcome.result.toOption) = [some (.text ['a', 'b', 'c']), none] ∧
      traces.map (·.after.pos) = [9, 9] ∧
      ¬ ∀ trace ∈ traces, 0 ≤ trace.after.pos ∧ trace.after.pos ≤ trace.after.text.length := by
  decide

end TextScan.Scanner
