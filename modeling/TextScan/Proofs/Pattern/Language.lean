import Mathlib.Computability.Language
import TextScan.Proofs.Pattern.Build
import TextScan.Proofs.Pattern.Span
import TextScan.Proofs.Text.Slice

/-!
# The language of a regular pattern

A pattern made of sets of characters, sequences, alternatives, groups and loops that are not
possessive is regular (`Node.isRegular`), and stands for a language (`Node.language`). The ways of
such a pattern are sound and complete for its language: from a place `p` there is a way that ends at
`q` exactly if the characters from `p` up to `q` are in it (`Node.ways_spell`).

For a loop this is where the two limits on its optional rounds have to be justified. A round that
takes nothing changes nothing, so rounds can be left out until each of the remaining ones takes a
character (`Reads.shorten`): there are then no more of them than places that are left, and none
starts where the one before it started.
-/

namespace TextScan

/-! ## Regular patterns -/

/-- Whether a pattern is made of sets of characters, sequences, alternatives, groups and loops that
are not possessive. -/
def Node.isRegular : Node → Bool
  | .empty | .chars _ => true
  | .seq a b | .alt a b => a.isRegular && b.isRegular
  | .group _ body => body.isRegular
  | .loop greed _ _ body => greed != .possessive && body.isRegular
  | _ => false

/-- The texts of at least `lo` and at most `hi` rounds. -/
def roundsLanguage (lo : Nat) (hi : Option Nat) (l : Language Char) : Language Char :=
  {w | ∃ n, lo ≤ n ∧ (∀ m ∈ hi, n ≤ m) ∧ w ∈ l ^ n}

/-- The language of a regular pattern. Parts that are not regular have none. -/
def Node.language : Node → Language Char
  | .empty => 1
  | .chars set => {w | ∃ c, set.has c = true ∧ w = [c]}
  | .seq a b => a.language * b.language
  | .alt a b => a.language + b.language
  | .group _ body => body.language
  | .loop _ lo hi body => roundsLanguage lo hi body.language
  | _ => 0

@[simp] theorem Node.language_empty : Node.empty.language = 1 := rfl

@[simp] theorem Node.language_chars (set : CharSet) :
    (Node.chars set).language = {w | ∃ c, set.has c = true ∧ w = [c]} := rfl

@[simp] theorem Node.language_alt (a b : Node) :
    (Node.alt a b).language = a.language + b.language := rfl

/-! ## Parts of a text in a language -/

/-- The characters of a text from `p` up to `q` are in a language. -/
structure Reads (t : Text) (l : Language Char) (p q : Nat) : Prop where
  /-- The places are in order. -/
  le : p ≤ q
  /-- Both are in the text. -/
  le_length : q ≤ t.length
  /-- The characters between them are in the language. -/
  mem : Regex.spanText t (p, q) ∈ l

namespace Reads

variable {t : Text} {l l' : Language Char} {p q : Nat}

/-- There are as many characters between two places as they are apart. -/
theorem length_spanText (hq : q ≤ t.length) : (Regex.spanText t (p, q)).length = q - p := by
  rw [Regex.spanText, List.length_drop, List.length_take]
  omega

/-- Only the empty part of a text is in the language of the empty text. -/
theorem one_iff (hp : p ≤ t.length) : Reads t 1 p q ↔ q = p := by
  constructor
  · intro h
    have hnil := (Language.mem_one _).mp h.mem
    have hlength := length_spanText (p := p) h.le_length
    rw [hnil, List.length_nil] at hlength
    have hle := h.le
    omega
  · rintro rfl
    refine ⟨le_rfl, hp, ?_⟩
    rw [Language.mem_one, ← List.length_eq_zero_iff, length_spanText hp, Nat.sub_self]

/-- A part of a text is in one of two languages if it is in either. -/
theorem add_iff : Reads t (l + l') p q ↔ Reads t l p q ∨ Reads t l' p q := by
  constructor
  · rintro ⟨h1, h2, h3⟩
    rcases (Language.mem_add l l' _).mp h3 with h | h
    · exact Or.inl ⟨h1, h2, h⟩
    · exact Or.inr ⟨h1, h2, h⟩
  · rintro (⟨h1, h2, h⟩ | ⟨h1, h2, h⟩)
    · exact ⟨h1, h2, (Language.mem_add l l' _).mpr (Or.inl h)⟩
    · exact ⟨h1, h2, (Language.mem_add l l' _).mpr (Or.inr h)⟩

/-- A part of a text is in a product of languages if it splits at some place. -/
theorem mul_iff : Reads t (l * l') p q ↔ ∃ m, Reads t l p m ∧ Reads t l' m q := by
  constructor
  · rintro ⟨h1, h2, h3⟩
    obtain ⟨a, ha, b, hb, hab⟩ := Language.mem_mul.mp h3
    have hlength := length_spanText (p := p) h2
    rw [← hab, List.length_append] at hlength
    have hjoin : Regex.spanText t (p, p + a.length) ++ Regex.spanText t (p + a.length, q) =
        Regex.spanText t (p, q) :=
      Text.drop_take_append_drop_take (Nat.le_add_right _ _) (by omega) h2
    obtain ⟨hleft, hright⟩ := List.append_inj (hjoin.trans hab.symm)
      (by rw [length_spanText (by omega)]; omega)
    refine ⟨p + a.length, ⟨by omega, by omega, ?_⟩, ⟨by omega, h2, ?_⟩⟩
    · rwa [hleft]
    · rwa [hright]
  · rintro ⟨m, ⟨h1, h2, h3⟩, ⟨h4, h5, h6⟩⟩
    have hjoin : Regex.spanText t (p, m) ++ Regex.spanText t (m, q) = Regex.spanText t (p, q) :=
      Text.drop_take_append_drop_take h1 h4 h5
    refine ⟨h1.trans h4, h5, ?_⟩
    rw [← hjoin]
    exact Language.append_mem_mul h3 h6

/-- No round takes nothing. -/
theorem no_round (hp : p ≤ t.length) : Reads t (l ^ 0) p p := by
  rw [pow_zero, one_iff hp]

/-- A number of rounds and one more is one round and then that number. -/
theorem pow_succ_iff {n : Nat} :
    Reads t (l ^ (n + 1)) p q ↔ ∃ m, Reads t l p m ∧ Reads t (l ^ n) m q := by
  rw [pow_succ', mul_iff]

/-- Rounds that take something have a first one that does, with fewer rounds after it. -/
theorem first_round {n : Nat} (h : Reads t (l ^ n) p q) (hpq : p < q) :
    ∃ m k, p < m ∧ k < n ∧ Reads t l p m ∧ Reads t (l ^ k) m q := by
  induction n with
  | zero =>
    rw [pow_zero] at h
    have hp : p ≤ t.length := h.le.trans h.le_length
    have heq := (one_iff hp).mp h
    omega
  | succ n ih =>
    obtain ⟨m, hround, hrest⟩ := pow_succ_iff.mp h
    rcases Nat.eq_or_lt_of_le hround.le with rfl | hlt
    · -- The first round takes nothing, so it can be left out.
      obtain ⟨m, k, hm, hk, h1, h2⟩ := ih hrest
      exact ⟨m, k, hm, hk.trans n.lt_succ_self, h1, h2⟩
    · exact ⟨m, n, hlt, n.lt_succ_self, hround, hrest⟩

/-- Rounds that take nothing can be left out: there need not be more rounds than characters. -/
theorem shorten {n : Nat} (h : Reads t (l ^ n) p q) :
    ∃ k, k ≤ n ∧ k ≤ q - p ∧ Reads t (l ^ k) p q := by
  induction n using Nat.strong_induction_on generalizing p with
  | _ n ih =>
    rcases Nat.eq_or_lt_of_le h.le with rfl | hlt
    · exact ⟨0, Nat.zero_le _, Nat.zero_le _, .no_round h.le_length⟩
    · obtain ⟨m, k, hm, hk, hround, hrest⟩ := first_round h hlt
      obtain ⟨k', hk', hle, hshort⟩ := ih k hk hrest
      have hmq := hrest.le
      exact ⟨k' + 1, by omega, by omega, pow_succ_iff.mpr ⟨m, hround, hshort⟩⟩

/-- The numbers of rounds that bounds allow. -/
theorem rounds_iff {lo : Nat} {hi : Option Nat} :
    Reads t (roundsLanguage lo hi l) p q ↔
      ∃ n, lo ≤ n ∧ (∀ m ∈ hi, n ≤ m) ∧ Reads t (l ^ n) p q := by
  constructor
  · rintro ⟨h1, h2, n, hlo, hhi, hmem⟩
    exact ⟨n, hlo, hhi, h1, h2, hmem⟩
  · rintro ⟨n, hlo, hhi, h1, h2, hmem⟩
    exact ⟨h1, h2, n, hlo, hhi, hmem⟩

/-- One character of a set is in the language of the set. -/
theorem chars_iff {f : Char → Bool} :
    Reads t {w | ∃ c, f c = true ∧ w = [c]} p q ↔ q = p + 1 ∧ hasAt t.toArray p f = true := by
  constructor
  · rintro ⟨h1, h2, c, hc, hword⟩
    have hlength := length_spanText (p := p) h2
    rw [hword, List.length_singleton] at hlength
    obtain rfl : q = p + 1 := by omega
    have hat : t[p]? = some c := by
      have hfirst := congrArg List.head? hword
      rw [Regex.spanText, List.head?_drop, List.getElem?_take_of_lt p.lt_succ_self] at hfirst
      exact hfirst
    simp [hasAt, hat, hc]
  · rintro ⟨rfl, hat⟩
    have hlt : p < t.length := by simpa using lt_size_of_hasAt hat
    refine ⟨p.le_succ, hlt, t[p], ?_, ?_⟩
    · simpa [hasAt, hlt] using hat
    · show (t.take (p + 1)).drop p = [t[p]]
      rw [List.drop_take, Nat.add_sub_cancel_left, List.drop_eq_getElem_cons hlt]
      rfl

end Reads

/-! ## The ways of a regular pattern -/

/-- From every place of the text, the places where the ways of a part end are those up to which the
text is in a language. -/
def Ways.Spells (t : Text) (l : Language Char) (w : Ways) : Prop :=
  ∀ s, s.pos ≤ t.length → ∀ q, (∃ s' ∈ w s, s'.pos = q) ↔ Reads t l s.pos q

namespace Ways.Spells

variable {t : Text} {l l' : Language Char} {w w' : Ways}

/-- One part after another spells the product of their languages. -/
theorem flatMap (hw : w.Spells t l) (hw' : w'.Spells t l') :
    Ways.Spells t (l * l') fun s => (w s).flatMap w' := by
  intro s hs q
  rw [Reads.mul_iff]
  constructor
  · rintro ⟨s', hs', rfl⟩
    obtain ⟨mid, hmid, hrest⟩ := List.mem_flatMap.mp hs'
    have hfirst := (hw s hs mid.pos).mp ⟨mid, hmid, rfl⟩
    exact ⟨mid.pos, hfirst, (hw' mid hfirst.le_length s'.pos).mp ⟨s', hrest, rfl⟩⟩
  · rintro ⟨m, hfirst, hrest⟩
    obtain ⟨mid, hmid, rfl⟩ := (hw s hs m).mpr hfirst
    obtain ⟨s', hs', rfl⟩ := (hw' mid hfirst.le_length q).mpr hrest
    exact ⟨s', List.mem_flatMap.mpr ⟨mid, hmid, hs'⟩, rfl⟩

/-- A number of rounds spells the power of the language of one round. -/
theorem times (hw : w.Spells t l) (n : Nat) : (w.times n).Spells t (l ^ n) := by
  induction n with
  | zero =>
    intro s hs q
    rw [pow_zero, Reads.one_iff hs]
    simp [Ways.times, eq_comm]
  | succ n ih =>
    rw [pow_succ']
    exact hw.flatMap ih

/-- Every way of up to `n` rounds spells at most `n` rounds. -/
theorem reads_of_mem_greedily (hw : w.Spells t l) {n : Nat} {last : Option Nat} {s s' : Progress}
    (hs : s.pos ≤ t.length) (h : s' ∈ w.greedily n last s) :
    ∃ k, k ≤ n ∧ Reads t (l ^ k) s.pos s'.pos := by
  induction n generalizing last s with
  | zero =>
    obtain rfl : s' = s := by simpa [Ways.greedily] using h
    exact ⟨0, Nat.zero_le _, .no_round hs⟩
  | succ n ih =>
    rw [Ways.greedily] at h
    split at h
    · obtain rfl : s' = s := by simpa using h
      exact ⟨0, Nat.zero_le _, .no_round hs⟩
    · rcases List.mem_append.mp h with hmore | hend
      · obtain ⟨mid, hmid, hrest⟩ := List.mem_flatMap.mp hmore
        have hround := (hw s hs mid.pos).mp ⟨mid, hmid, rfl⟩
        obtain ⟨k, hk, hread⟩ := ih hround.le_length hrest
        exact ⟨k + 1, by omega, Reads.pow_succ_iff.mpr ⟨mid.pos, hround, hread⟩⟩
      · obtain rfl : s' = s := by simpa using hend
        exact ⟨0, Nat.zero_le _, .no_round hs⟩

/-- Up to `n` rounds are among the ways, if the loop may start a round here. -/
theorem exists_mem_greedily (hw : w.Spells t l) {n k : Nat} {last : Option Nat} {s : Progress}
    {q : Nat} (hk : k ≤ n) (hlast : last ≠ some s.pos) (h : Reads t (l ^ k) s.pos q) :
    ∃ s' ∈ w.greedily n last s, s'.pos = q := by
  induction n generalizing k last s with
  | zero =>
    obtain rfl : k = 0 := by omega
    rw [pow_zero, Reads.one_iff (h.le.trans h.le_length)] at h
    exact ⟨s, by simp [Ways.greedily], h.symm⟩
  | succ n ih =>
    rw [Ways.greedily, if_neg hlast]
    rcases Nat.eq_or_lt_of_le h.le with heq | hlt
    · exact ⟨s, by simp, heq⟩
    · -- Take the first round that takes something: the next one then starts further on.
      obtain ⟨m, k', hm, hk', hround, hrest⟩ := h.first_round hlt
      obtain ⟨mid, hmid, rfl⟩ := (hw s (h.le.trans h.le_length) m).mpr hround
      have hmoved : some s.pos ≠ some mid.pos := by
        intro heq
        have := Option.some.inj heq
        omega
      obtain ⟨s', hs', hq⟩ := ih (by omega) hmoved hrest
      exact ⟨s', List.mem_append_left _ (List.mem_flatMap.mpr ⟨mid, hmid, hs'⟩), hq⟩

/-- A loop that is not possessive spells as many rounds as its bounds allow. -/
theorem loop (hw : w.Spells t l) {greed : Greed} (hgreed : greed ≠ .possessive) {lo : Nat}
    {hi : Option Nat} (hbounds : ∀ m ∈ hi, lo ≤ m) :
    (w.loop t.length greed lo hi).Spells t (roundsLanguage lo hi l) := by
  intro s hs q
  -- Greedy and lazy loops have the same ways: those of `lo` rounds and then of optional ones.
  have hmem : ∀ s', s' ∈ w.loop t.length greed lo hi s ↔
      ∃ mid ∈ w.times lo s,
        s' ∈ w.greedily (optionalRounds lo hi t.length mid.pos) none mid := by
    intro s'
    cases greed with
    | greedy => simp [Ways.loop, List.mem_flatMap]
    | lazy => simp [Ways.loop, List.mem_flatMap, Ways.mem_lazily]
    | possessive => exact absurd rfl hgreed
  rw [Reads.rounds_iff]
  constructor
  · rintro ⟨s', hs', rfl⟩
    obtain ⟨mid, hmid, hrest⟩ := (hmem s').mp hs'
    have hfirst := (hw.times lo s hs mid.pos).mp ⟨mid, hmid, rfl⟩
    obtain ⟨k, hk, hread⟩ := hw.reads_of_mem_greedily hfirst.le_length hrest
    refine ⟨lo + k, Nat.le_add_right _ _, fun m hm => ?_, ?_⟩
    · obtain rfl := Option.mem_def.mp hm
      have hlo := hbounds m rfl
      simp only [optionalRounds] at hk
      omega
    · rw [pow_add]
      exact Reads.mul_iff.mpr ⟨mid.pos, hfirst, hread⟩
  · rintro ⟨n, hlo, hhi, hread⟩
    obtain ⟨k, rfl⟩ := Nat.exists_eq_add_of_le hlo
    rw [pow_add, Reads.mul_iff] at hread
    obtain ⟨m, hfirst, hread⟩ := hread
    obtain ⟨mid, hmid, rfl⟩ := (hw.times lo s hs m).mpr hfirst
    obtain ⟨k', hk, hsize, hshort⟩ := hread.shorten
    have hq := hread.le_length
    have hrounds : k' ≤ optionalRounds lo hi t.length mid.pos := by
      cases hi with
      | none =>
        simp only [optionalRounds]
        omega
      | some most =>
        have hmost := hhi most rfl
        simp only [optionalRounds]
        omega
    have hfree : (none : Option Nat) ≠ some mid.pos := by simp
    obtain ⟨s', hs', hpos⟩ := hw.exists_mem_greedily hrounds hfree hshort
    exact ⟨s', (hmem s').mpr ⟨mid, hmid, hs'⟩, hpos⟩

end Ways.Spells

/-- The ways of a regular pattern whose bounds are in order spell its language. -/
theorem Node.ways_spell (t : Text) {n : Node} (hn : n.isRegular = true) (ho : n.Ordered) :
    (n.ways t.toArray).Spells t n.language := by
  induction n with
  | empty =>
    intro s hs q
    rw [Node.language_empty, Reads.one_iff hs]
    simp [Node.ways, eq_comm]
  | chars set =>
    intro s hs q
    rw [Node.language_chars, Reads.chars_iff]
    simp only [Node.ways]
    split
    · rename_i hat
      simp [hat, Progress.moved, eq_comm]
    · rename_i hat
      simp [hat]
  | seq a b iha ihb =>
    simp only [Node.isRegular, Bool.and_eq_true] at hn
    exact (iha hn.1 ho.1).flatMap (ihb hn.2 ho.2)
  | alt a b iha ihb =>
    simp only [Node.isRegular, Bool.and_eq_true] at hn
    intro s hs q
    rw [Node.language_alt, Reads.add_iff, ← iha hn.1 ho.1 s hs q, ← ihb hn.2 ho.2 s hs q]
    simp only [Node.ways, List.mem_append, or_and_right, exists_or]
  | group i body ih =>
    intro s hs q
    -- Opening and closing a group does not move.
    have hinner := ih hn ho (s.openGroup i) hs q
    refine Iff.trans ?_ hinner
    simp only [Node.ways, List.mem_map]
    constructor
    · rintro ⟨s', ⟨inner, hmem, rfl⟩, hq⟩
      exact ⟨inner, hmem, hq⟩
    · rintro ⟨inner, hmem, hq⟩
      exact ⟨_, ⟨inner, hmem, rfl⟩, hq⟩
  | loop greed lo hi body ih =>
    simp only [Node.isRegular, Bool.and_eq_true, bne_iff_ne, ne_eq] at hn
    exact (ih hn.2 ho.2).loop hn.1 ho.1
  | _ => simp [Node.isRegular] at hn

namespace Regex

variable {r : Regex} {t : Text} {p : Nat}

/-- A match of a regular pattern ends where the text up to there is in its language. -/
theorem reads_of_matchAt (hn : r.node.isRegular = true) (ho : r.node.Ordered) (hp : p ≤ t.length)
    {f : Found} (h : r.matchAt t p = some f) : Reads t r.node.language p f.last.pos := by
  rw [matchAt_eq] at h
  obtain ⟨last, hlast, rfl⟩ := Option.map_eq_some_iff.mp h
  have hspell := r.node.ways_spell t hn ho (r.initial p) hp last.pos
  exact hspell.mp ⟨last, List.mem_of_mem_head? hlast, rfl⟩

/-- A regular pattern matches at an offset exactly if the text from there up to some place is in its
language. -/
theorem exists_matchAt_iff (hn : r.node.isRegular = true) (ho : r.node.Ordered)
    (hp : p ≤ t.length) :
    (∃ f, r.matchAt t p = some f) ↔ ∃ q, Reads t r.node.language p q := by
  constructor
  · rintro ⟨f, hf⟩
    exact ⟨_, reads_of_matchAt hn ho hp hf⟩
  · rintro ⟨q, hq⟩
    obtain ⟨s', hs', -⟩ := (r.node.ways_spell t hn ho (r.initial p) hp q).mpr hq
    obtain ⟨first, hfirst⟩ : ∃ first, (r.node.ways t.toArray (r.initial p)).head? = some first := by
      rw [← Option.isSome_iff_exists, List.isSome_head?]
      exact List.ne_nil_of_mem hs'
    exact ⟨⟨p, first⟩, by rw [matchAt_eq, hfirst, Option.map_some]⟩

end Regex

end TextScan
