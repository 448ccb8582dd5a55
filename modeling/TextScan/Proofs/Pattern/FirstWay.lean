import TextScan.Proofs.Pattern.Span

/-!
# What a pattern takes first

A match is the first way of a pattern. For patterns without groups that are simple enough, this way
can be told from the text alone by a `Reader`, which reads one text from the start of another and
never goes back on it. `Node.Takes` says that a reader tells the first way of a pattern, and there is
a lemma for each kind of pattern: a greedy loop over a set of characters takes the longest run
(`Node.Takes.run`), an optional part is taken where it can be (`Node.Takes.optional`), and of two
alternatives the second is taken where the first cannot be (`Node.Takes.alt`).

A sequence is the one place where backtracking could be seen: if the second part fails after the
first way of the first part, other ways of the first part are tried. So `Node.Takes.seq` asks that
there are none, or that the second part does not fail.
-/

namespace TextScan

/-! ## Readers -/

/-- Reads a text from the start of another, or fails. -/
abbrev Reader := Text → Option Text

namespace Reader

/-- Reads nothing. -/
def nothing : Reader := fun _ => some []

/-- Reads one character of a class. -/
def char (f : Char → Bool) : Reader
  | [] => none
  | c :: _ => if f c then some [c] else none

/-- Reads the longest run of characters of a class, which must have at least `lo` characters. -/
def run (lo : Nat) (f : Char → Bool) : Reader := fun t =>
  if lo ≤ (t.takeWhile f).length then some (t.takeWhile f) else none

/-- Reads a text, and then another from what is left. -/
def andThen (a b : Reader) : Reader := fun t =>
  (a t).bind fun v => (b (t.drop v.length)).map (v ++ ·)

/-- Reads a text, or nothing where that fails. -/
def optional (a : Reader) : Reader := fun t => (a t).or (some [])

/-- Reads a text with the first of two readers that does not fail. -/
def either (a b : Reader) : Reader := fun t => (a t).or (b t)

/-- Whether a reader never fails. -/
def Total (a : Reader) : Prop := ∀ t, ∃ v, a t = some v

/-- Reading nothing never fails. -/
theorem total_nothing : Total nothing := fun _ => ⟨[], rfl⟩

/-- Reading something optional never fails. -/
theorem total_optional (a : Reader) : Total a.optional := by
  intro t
  unfold optional
  cases a t with
  | none => exact ⟨[], rfl⟩
  | some v => exact ⟨v, rfl⟩

/-- A run that may be empty never fails. -/
theorem total_run (f : Char → Bool) : Total (run 0 f) := fun _ => ⟨_, if_pos (Nat.zero_le _)⟩

/-- Reading nothing at the end changes nothing. -/
theorem andThen_nothing (a : Reader) : a.andThen nothing = a := by
  funext t
  unfold andThen nothing
  cases a t with
  | none => rfl
  | some v => rw [Option.bind_some, Option.map_some, List.append_nil]

end Reader

/-! ## First ways -/

/-- The first way of a pattern takes what a reader reads from the text that is left, and sets no
group; where the reader fails, the pattern has no way. -/
structure Node.Takes (n : Node) (a : Reader) : Prop where
  /-- What is read is a text that the text that is left starts with. -/
  isPrefix : ∀ {t v : Text}, a t = some v → v <+: t
  /-- The first way. -/
  head_eq : ∀ (t : Text) (s : Progress), s.pos ≤ t.length →
    (n.ways t.toArray s).head? = (a (t.drop s.pos)).map fun v => s.moved (s.pos + v.length)

/-- A character of a class is at an offset exactly if the text from there on starts with one. -/
theorem hasAt_eq (t : Text) (p : Nat) (f : Char → Bool) :
    hasAt t.toArray p f = (t.drop p).head?.any f := by
  unfold hasAt
  rw [List.getElem?_toArray, List.head?_drop]

/-- The first way of one part after another is the first way of the second part after that of the
first, if the first part has no other way or the second part does not fail there. -/
theorem head?_flatMap_eq_bind {α β : Type} {l : List α} {f : α → List β}
    (h : l.length ≤ 1 ∨ ∀ x, l.head? = some x → ∃ y, (f x).head? = some y) :
    (l.flatMap f).head? = l.head?.bind fun x => (f x).head? := by
  cases l with
  | nil => rfl
  | cons x rest =>
    rw [List.flatMap_cons, List.head?_append, List.head?_cons, Option.bind_some]
    rcases h with hsingle | hsome
    · have hnil : rest = [] := by simpa using hsingle
      rw [hnil, List.flatMap_nil, List.head?_nil, Option.or_none]
    · obtain ⟨y, hy⟩ := hsome x rfl
      rw [hy, Option.some_or]

namespace Node.Takes

variable {m n : Node} {a b : Reader}

/-- The empty pattern takes nothing. -/
theorem empty : Node.empty.Takes Reader.nothing where
  isPrefix := by
    rintro t v hv
    obtain rfl : [] = v := by simpa [Reader.nothing] using hv
    exact List.nil_prefix
  head_eq t s _ := rfl

/-- A set of characters has at most one way. -/
theorem length_ways_chars (set : CharSet) (text : Array Char) (s : Progress) :
    ((Node.chars set).ways text s).length ≤ 1 := by
  rw [Node.ways]
  split
  · exact Nat.le_refl 1
  · exact Nat.zero_le 1

/-- A set of characters takes one of them. -/
theorem chars (set : CharSet) : (Node.chars set).Takes (Reader.char set.has) where
  isPrefix := by
    intro t v hv
    cases t with
    | nil => simp [Reader.char] at hv
    | cons c t =>
      rw [Reader.char] at hv
      split at hv
      · obtain rfl : [c] = v := by simpa using hv
        exact ⟨t, rfl⟩
      · simp at hv
  head_eq t s _ := by
    rw [Node.ways, hasAt_eq]
    cases t.drop s.pos with
    | nil => rfl
    | cons c rest =>
      rw [List.head?_cons, Option.any_some, Reader.char]
      cases set.has c <;> rfl

/-- Of two alternatives the first is taken where it can be, and else the second. -/
theorem alt (hm : m.Takes a) (hn : n.Takes b) : (Node.alt m n).Takes (a.either b) where
  isPrefix := by
    intro t v hv
    rcases Option.or_eq_some_iff.mp hv with hfirst | ⟨-, hsecond⟩
    · exact hm.isPrefix hfirst
    · exact hn.isPrefix hsecond
  head_eq t s hs := by
    rw [Node.ways, List.head?_append, hm.head_eq t s hs, hn.head_eq t s hs]
    unfold Reader.either
    cases a (t.drop s.pos) <;> rfl

/-- The first way of a part that comes after `u` has been taken. -/
theorem head_eq_after (hn : n.Takes b) {t u : Text} {s : Progress}
    (hlen : s.pos + u.length ≤ t.length) :
    (n.ways t.toArray (s.moved (s.pos + u.length))).head? =
      (b ((t.drop s.pos).drop u.length)).map fun v => s.moved (s.pos + (u ++ v).length) := by
  have hfirst := hn.head_eq t (s.moved (s.pos + u.length)) hlen
  have hdrop : t.drop (s.moved (s.pos + u.length)).pos = (t.drop s.pos).drop u.length :=
    List.drop_drop.symm
  have hmoved : ∀ v : Text, (s.moved (s.pos + u.length)).moved (s.pos + u.length + v.length) =
      s.moved (s.pos + (u ++ v).length) := by
    intro v
    rw [List.length_append, ← Nat.add_assoc]
    rfl
  rw [hdrop] at hfirst
  rw [hfirst]
  exact congrArg (Option.map · _) (funext hmoved)

/-- One part after another takes what both take, if the first part has one way at most or the second
part never fails: then no other way of the first part is ever tried. -/
theorem seq (hm : m.Takes a) (hn : n.Takes b)
    (h : (∀ text s, (m.ways text s).length ≤ 1) ∨ b.Total) :
    (Node.seq m n).Takes (a.andThen b) where
  isPrefix := by
    intro t v hv
    obtain ⟨u, hu, hrest⟩ := Option.bind_eq_some_iff.mp hv
    obtain ⟨w, hw, rfl⟩ := Option.map_eq_some_iff.mp hrest
    obtain ⟨t', rfl⟩ := hm.isPrefix hu
    rw [List.drop_left] at hw
    exact (List.prefix_append_right_inj u).mpr (hn.isPrefix hw)
  head_eq t s hs := by
    have hfirst := hm.head_eq t s hs
    -- After the first way of the first part, the second part starts in the text.
    have hsecond : ∀ u, a (t.drop s.pos) = some u →
        (n.ways t.toArray (s.moved (s.pos + u.length))).head? =
          (b ((t.drop s.pos).drop u.length)).map fun v => s.moved (s.pos + (u ++ v).length) := by
      intro u hu
      have hlen := (hm.isPrefix hu).length_le
      rw [List.length_drop] at hlen
      exact hn.head_eq_after (by omega)
    rw [Node.ways, head?_flatMap_eq_bind, hfirst]
    · unfold Reader.andThen
      cases hu : a (t.drop s.pos) with
      | none => rfl
      | some u =>
        rw [Option.map_some, Option.bind_some, Option.bind_some, hsecond u hu, Option.map_map]
        rfl
    · refine h.imp (fun hsingle => hsingle t.toArray s) fun htotal way hway => ?_
      rw [hfirst] at hway
      obtain ⟨u, hu, rfl⟩ := Option.map_eq_some_iff.mp hway
      obtain ⟨v, hv⟩ := htotal ((t.drop s.pos).drop u.length)
      exact ⟨_, by rw [hsecond u hu, hv, Option.map_some]⟩

/-- A sequence that ends here takes what its last part takes. -/
theorem last (hn : n.Takes a) : (Node.seq n .empty).Takes a := by
  have h := hn.seq .empty (Or.inr Reader.total_nothing)
  rwa [Reader.andThen_nothing] at h

/-- An optional part is taken where it can be. -/
theorem optional (hn : n.Takes a) : (Node.loop .greedy 0 (some 1) n).Takes a.optional where
  isPrefix := by
    intro t v hv
    rcases Option.or_eq_some_iff.mp hv with htaken | ⟨-, hnone⟩
    · exact hn.isPrefix htaken
    · obtain rfl : [] = v := by simpa using hnone
      exact List.nil_prefix
  head_eq t s hs := by
    -- There is one optional round, and after it comes the way without a round.
    have hways : (Node.loop .greedy 0 (some 1) n).ways t.toArray s = n.ways t.toArray s ++ [s] := by
      have hone : optionalRounds 0 (some 1) t.toArray.size s.pos = 1 := by
        unfold optionalRounds
        dsimp only
        omega
      rw [Node.ways]
      unfold Ways.loop
      dsimp only
      rw [Ways.times, List.flatMap_singleton, hone, Ways.greedily, if_neg (by simp)]
      have hstop : Ways.greedily (n.ways t.toArray) 0 (some s.pos) = fun s => [s] := rfl
      rw [hstop, List.flatMap_singleton']
    rw [hways, List.head?_append, hn.head_eq t s hs]
    unfold Reader.optional
    cases a (t.drop s.pos) <;> rfl

/-! ### Runs -/

section Run

variable (set : CharSet) {t : Text} {s : Progress}

/-- The one way of a set of characters, where the text starts with one of them. -/
theorem ways_chars_of_cons {c : Char} {rest : Text} (hdrop : t.drop s.pos = c :: rest) :
    (Node.chars set).ways t.toArray s = if set.has c then [s.moved (s.pos + 1)] else [] := by
  rw [Node.ways, hasAt_eq, hdrop, List.head?_cons, Option.any_some]

/-- A set of characters has no way at the end of the text. -/
theorem ways_chars_of_nil (hdrop : t.drop s.pos = []) :
    (Node.chars set).ways t.toArray s = [] := by
  rw [Node.ways, hasAt_eq, hdrop]
  rfl

/-- What is left after one more character. -/
theorem drop_moved {c : Char} {rest : Text} (hdrop : t.drop s.pos = c :: rest) :
    t.drop (s.moved (s.pos + 1)).pos = rest := by
  show t.drop (s.pos + 1) = rest
  rw [← List.drop_drop, hdrop]
  rfl

/-- Rounds taken greedily over a set of characters first take the longest run of them, if there are
as many rounds as the text has characters. -/
theorem head?_greedily {rounds : Nat} {last : Option Nat} (hrounds : (t.drop s.pos).length ≤ rounds)
    (hlast : ∀ p, last = some p → p < s.pos) :
    (Ways.greedily ((Node.chars set).ways t.toArray) rounds last s).head? =
      some (s.moved (s.pos + ((t.drop s.pos).takeWhile set.has).length)) := by
  induction rounds generalizing last s with
  | zero =>
    have hnil : t.drop s.pos = [] := List.eq_nil_of_length_eq_zero (Nat.le_zero.mp hrounds)
    rw [hnil]
    rfl
  | succ rounds ih =>
    have hfree : last ≠ some s.pos := fun h => Nat.lt_irrefl _ (hlast _ h)
    rw [Ways.greedily, if_neg hfree]
    cases hdrop : t.drop s.pos with
    | nil =>
      rw [ways_chars_of_nil set hdrop]
      rfl
    | cons c rest =>
      have hnext := drop_moved hdrop
      rw [ways_chars_of_cons set hdrop]
      cases hc : set.has c with
      | false =>
        rw [List.takeWhile_cons_of_neg (by simp [hc])]
        rfl
      | true =>
        -- The next round starts one character further on, where the run is shorter by one.
        have hshort : (t.drop (s.moved (s.pos + 1)).pos).length ≤ rounds := by
          rw [hnext]
          rw [hdrop, List.length_cons] at hrounds
          omega
        have hmoved : ∀ p, some s.pos = some p → p < (s.moved (s.pos + 1)).pos := by
          intro p hp
          obtain rfl := Option.some.inj hp
          exact Nat.lt_succ_self _
        have hrest := ih hshort hmoved
        rw [hnext] at hrest
        rw [if_pos rfl, List.flatMap_singleton, List.head?_append, hrest, Option.some_or,
          List.takeWhile_cons_of_pos hc, List.length_cons]
        show some (s.moved (s.pos + 1 + _)) = some (s.moved (s.pos + (_ + 1)))
        rw [Nat.add_assoc, Nat.add_comm 1]

/-- A greedy loop over a set of characters first takes the longest run of them, if that has as many
characters as the loop needs. -/
theorem head?_loop (lo : Nat) (hs : s.pos ≤ t.length) :
    (Ways.loop t.toArray.size .greedy lo none ((Node.chars set).ways t.toArray) s).head? =
      (Reader.run lo set.has (t.drop s.pos)).map fun v => s.moved (s.pos + v.length) := by
  -- The number of optional rounds does not depend on how many rounds the loop needs.
  show ((Ways.times ((Node.chars set).ways t.toArray) lo s).flatMap fun s' =>
    Ways.greedily ((Node.chars set).ways t.toArray) (t.length - s'.pos + 1) none s').head? = _
  unfold Reader.run
  induction lo generalizing s with
  | zero =>
    have hrounds : (t.drop s.pos).length ≤ t.length - s.pos + 1 := by
      rw [List.length_drop]
      exact Nat.le_succ _
    rw [Ways.times, List.flatMap_singleton, head?_greedily set hrounds (by simp),
      if_pos (Nat.zero_le _), Option.map_some]
  | succ lo ih =>
    rw [Ways.times]
    cases hdrop : t.drop s.pos with
    | nil =>
      rw [ways_chars_of_nil set hdrop]
      rfl
    | cons c rest =>
      rw [ways_chars_of_cons set hdrop]
      cases hc : set.has c with
      | false =>
        rw [List.takeWhile_cons_of_neg (by simp [hc])]
        rfl
      | true =>
        have hlen : (s.moved (s.pos + 1)).pos ≤ t.length := by
          have hcons := congrArg List.length hdrop
          rw [List.length_drop, List.length_cons] at hcons
          show s.pos + 1 ≤ t.length
          omega
        have hrest := ih hlen
        rw [drop_moved hdrop] at hrest
        rw [if_pos rfl, List.flatMap_singleton, hrest, List.takeWhile_cons_of_pos hc,
          List.length_cons]
        -- One more character is there exactly if one more is needed.
        by_cases hlo : lo ≤ (rest.takeWhile set.has).length
        · rw [if_pos hlo, if_pos (Nat.succ_le_succ hlo), Option.map_some, Option.map_some,
            List.length_cons]
          show some (s.moved (s.pos + 1 + _)) = some (s.moved (s.pos + (_ + 1)))
          rw [Nat.add_assoc, Nat.add_comm 1]
        · rw [if_neg hlo, if_neg (fun h => hlo (Nat.le_of_succ_le_succ h)), Option.map_none,
            Option.map_none]

end Run

/-- A greedy loop over a set of characters takes the longest run of them. -/
theorem run (lo : Nat) (set : CharSet) :
    (Node.loop .greedy lo none (.chars set)).Takes (Reader.run lo set.has) where
  isPrefix := by
    intro t v hv
    unfold Reader.run at hv
    split at hv
    · obtain rfl : t.takeWhile set.has = v := by simpa using hv
      exact List.takeWhile_prefix _
    · simp at hv
  head_eq t s hs := by
    rw [Node.ways]
    exact head?_loop set lo hs

end Node.Takes

end TextScan
