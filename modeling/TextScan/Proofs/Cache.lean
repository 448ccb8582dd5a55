import TextScan.Cache

/-!
# Compiling with a cache is compiling

A cache is shared by all who compile patterns, so what it holds when a pattern is compiled is what
earlier calls have left (`Cache.Reachable`). Such a cache is `Faithful`: under every key it holds
what compiling the key gives. A call with a faithful cache leaves a faithful cache behind, and tells
the caller what compiling without a cache would (`Pattern.compile_fst`).
-/

namespace TextScan

/-- What a pattern stands for, compiled without a cache. -/
def Pattern.regex (mask : Int) : Pattern → Compiled Regex
  | .source t => Regex.compile t mask
  | .compiled r => .ok r

namespace Cache

/-- The caches that calls can leave behind, whoever makes them. -/
inductive Reachable : Cache → Prop
  /-- The cache before the first call. -/
  | empty : Reachable {}
  /-- The cache after a further call. -/
  | compile {c : Cache} (h : Reachable c) (p : Pattern) (mask : Int) :
    Reachable (p.compile mask c).2

/-- Every entry is what compiling its key gives. -/
def Faithful (c : Cache) : Prop :=
  ∀ entry ∈ c.entries, Regex.compile entry.1.1 entry.1.2 = .ok entry.2

/-- Marking an entry as used keeps a cache faithful. -/
theorem Faithful.touch {c : Cache} (hc : c.Faithful) {key : CacheKey} {r : Regex}
    (h : Regex.compile key.1 key.2 = .ok r) : (c.touch key r).Faithful := by
  intro entry hentry
  rcases List.mem_cons.mp hentry with rfl | hold
  · exact h
  · exact hc entry (List.mem_filter.mp hold).1

/-- A new entry keeps a cache faithful. -/
theorem Faithful.insert {c : Cache} (hc : c.Faithful) {key : CacheKey} {r : Regex}
    (h : Regex.compile key.1 key.2 = .ok r) : (c.insert key r).Faithful := by
  intro entry hentry
  rcases List.mem_cons.mp (List.mem_of_mem_take hentry) with rfl | hold
  · exact h
  · exact hc entry hold

/-- A faithful cache compiles a pattern text as if there were no cache, and stays faithful. -/
theorem Faithful.compile {c : Cache} (hc : c.Faithful) (source : Text) (mask : Int) :
    (c.compile source mask).1 = Regex.compile source mask ∧
      (c.compile source mask).2.Faithful := by
  unfold Cache.compile
  cases hfound : c.entries.lookup (source, mask) with
  | some r =>
    -- The entry that is found is one of the cache, so it is what compiling its key gives.
    obtain ⟨before, after, hentries, -⟩ := List.lookup_eq_some_iff.mp hfound
    have hmem : ((source, mask), r) ∈ c.entries := by
      rw [hentries]
      exact List.mem_append_right _ List.mem_cons_self
    have hr : Regex.compile source mask = .ok r := hc _ hmem
    exact ⟨hr.symm, hc.touch hr⟩
  | none =>
    cases hr : Regex.compile source mask with
    | ok r => exact ⟨rfl, hc.insert hr⟩
    | error e => exact ⟨rfl, hc⟩

end Cache

/-- A faithful cache stays faithful, whatever is compiled with it. -/
theorem Cache.Faithful.pattern {c : Cache} (hc : c.Faithful) (p : Pattern) (mask : Int) :
    (p.compile mask c).2.Faithful := by
  cases p with
  | compiled r => exact hc
  | source t =>
    have hkeep := (hc.compile t mask).2
    rw [Pattern.compile]
    generalize c.compile t mask = outcome at hkeep ⊢
    obtain ⟨result, c'⟩ := outcome
    cases result <;> exact hkeep

/-- What calls leave behind is faithful. -/
theorem Cache.Reachable.faithful {c : Cache} (hc : c.Reachable) : c.Faithful := by
  induction hc with
  | empty =>
    intro entry hentry
    simp at hentry
  | compile _ p mask ih => exact ih.pattern p mask

/-- What a caller is told who compiles a pattern without a cache: the pattern, or the fault of its
text, with a record if the text breaks the rules of patterns. -/
def Pattern.outcome (mask : Int) : Pattern → CompileOutcome
  | .compiled r => { result := .ok r }
  | .source t =>
    match Regex.compile t mask with
    | .ok r => { result := .ok r }
    | .error e =>
      { result := .error (e.toFault t), log := if e.isMalformed then [.compileFailed t] else [] }

/-- With a faithful cache, a caller is told what compiling without a cache gives. -/
theorem Pattern.compile_fst {c : Cache} (hc : c.Faithful) (p : Pattern) (mask : Int) :
    (p.compile mask c).1 = p.outcome mask := by
  cases p with
  | compiled r => rfl
  | source t =>
    have hresult := (hc.compile t mask).1
    rw [Pattern.compile, Pattern.outcome, ← hresult]
    generalize c.compile t mask = outcome
    obtain ⟨result, c'⟩ := outcome
    cases result <;> rfl

/-- With a faithful cache, a pattern that compiles gives what it stands for and writes no record. -/
theorem Pattern.compile_of_ok {c : Cache} (hc : c.Faithful) {p : Pattern} {mask : Int} {r : Regex}
    (h : p.regex mask = .ok r) : (p.compile mask c).1 = { result := .ok r } := by
  rw [Pattern.compile_fst hc]
  cases p with
  | compiled r' =>
    obtain rfl : r' = r := by simpa [Pattern.regex] using h
    rfl
  | source t =>
    have ht : Regex.compile t mask = .ok r := h
    rw [Pattern.outcome, ht]

end TextScan
