import TextScan.Engine.Regex
import TextScan.Proofs.Cache
import TextScan.Proofs.Pattern.Span
import TextScan.Proofs.Text.Slice

/-!
# The matches of the regular-expression engine

A match lies `Within` a text if its span does and its value is what the text has there. Every match
that the engine finds lies within the text and in reach of the cursor (`RegexEngine.exec_within`),
whether it matches inside the whole text or cuts off what lies before the cursor and moves the spans
back: the two modes differ only in where the part of the text starts that is matched against
(`RegexEngine.exec_eq`). With a fixed anchor, the cursor is only where the engine starts to look: a
search finds what is found at the first offset with a match (`RegexEngine.exec_ahead_eq_some_iff`).
The cache of the engine does not show in its answers (`RegexEngine.attempt_fst`).
-/

namespace TextScan

/-- The span of a match lies in a text, and its value is the text of the span. -/
structure Match.Within (m : Match) (t : Text) : Prop where
  /-- The match does not start before the text. -/
  start_nonneg : 0 ≤ m.start
  /-- It does not end before it starts. -/
  start_le_stop : m.start ≤ m.stop
  /-- It ends in the text. -/
  stop_le : m.stop ≤ t.length
  /-- Its value is what the text has between start and end. -/
  value_eq : m.value = t.slice m.start m.stop

/-- A match stays within a text to which something is appended. -/
theorem Match.Within.append {m : Match} {t : Text} (h : m.Within t) (u : Text) :
    m.Within (t ++ u) := by
  have hstop := h.stop_le
  refine ⟨h.start_nonneg, h.start_le_stop, ?_, ?_⟩
  · rw [List.length_append]
    omega
  · rw [Text.slice_append u h.start_nonneg h.start_le_stop hstop]
    exact h.value_eq

namespace Reach

/-- An anchored match has to start at the cursor. -/
theorem allows_anchored {pos start : Int} : anchored.allows pos start = true ↔ start = pos :=
  beq_iff_eq

/-- A match ahead may not start before the cursor. -/
theorem allows_ahead {pos start : Int} : ahead.allows pos start = true ↔ pos ≤ start :=
  decide_eq_true_iff

/-- A match in reach of the cursor starts at the cursor or after it. -/
theorem le_of_allows {reach : Reach} {pos start : Int} (h : reach.allows pos start = true) :
    pos ≤ start := by
  cases reach with
  | anchored => exact Int.le_of_eq (allows_anchored.mp h).symm
  | ahead => exact allows_ahead.mp h

/-- Moving the cursor and the match by the same distance does not change what is in reach. -/
theorem allows_add (reach : Reach) (pos start d : Int) :
    reach.allows (pos + d) (start + d) = reach.allows pos start := by
  rw [Bool.eq_iff_iff]
  cases reach with
  | anchored =>
    rw [allows_anchored, allows_anchored]
    omega
  | ahead =>
    rw [allows_ahead, allows_ahead]
    omega

end Reach

namespace RegexEngine

/-- What is found from an offset on lies in the text and in reach of the offset. -/
theorem find_bounds {r : Regex} {reach : Reach} {t : Text} {p : Nat} {f : Regex.Found}
    (hp : p ≤ t.length) (h : find r reach t p = some f) :
    p ≤ f.start ∧ f.start ≤ f.last.pos ∧ f.last.pos ≤ t.length ∧ reach.allows p f.start := by
  cases reach with
  | anchored =>
    obtain ⟨hstart, hstop, hlen⟩ := Regex.matchAt_bounds hp h
    exact ⟨by omega, by omega, hlen, by simp [Reach.allows, hstart]⟩
  | ahead =>
    obtain ⟨q, hq, hqlen, hmatch, -⟩ := Regex.searchFrom_eq_some_iff.mp h
    obtain ⟨hstart, hstop, hlen⟩ := Regex.matchAt_bounds hqlen hmatch
    refine ⟨by omega, by omega, hlen, ?_⟩
    simp only [Reach.allows, decide_eq_true_eq]
    omega

/-- The record of a span in the part of a text from `p` on lies within the whole text, moved by
`p`. -/
theorem toMatch_within (r : Regex) {t : Text} {p : Nat} {f : Regex.Found} (hp : p ≤ t.length)
    (hstop : f.start ≤ f.last.pos) (hlen : f.last.pos ≤ (t.drop p).length) :
    (r.toMatch (t.drop p) p f).Within t := by
  rw [List.length_drop] at hlen
  refine ⟨?_, ?_, ?_, ?_⟩
  · show (0 : Int) ≤ f.start + p
    omega
  · show (f.start + p : Int) ≤ f.last.pos + p
    omega
  · show (f.last.pos + p : Int) ≤ t.length
    omega
  · show ((t.drop p).take f.last.pos).drop f.start = t.slice (f.start + p) (f.last.pos + p)
    have hstart' : (f.start + p : Int).toNat = p + f.start := by omega
    have hstop' : (f.last.pos + p : Int).toNat = p + f.last.pos := by omega
    rw [Text.slice_eq (by omega) (by omega) (by omega), hstart', hstop', List.take_drop,
      List.drop_drop]

/-- The offset of the first character that the engine sees from a cursor at `p`. -/
def origin (e : RegexEngine) (p : Nat) : Nat := if e.fixedAnchor then 0 else p

/-- The engine sees no character after the cursor for the first one. -/
theorem origin_le (e : RegexEngine) (p : Nat) : e.origin p ≤ p := by
  unfold origin
  split <;> omega

/-- The cursor lies in what the engine sees of the text. -/
theorem sub_origin_le (e : RegexEngine) {t : Text} {p : Nat} (hp : p ≤ t.length) :
    p - e.origin p ≤ (t.drop (e.origin p)).length := by
  rw [List.length_drop]
  omega

/-- In both modes the engine matches what it sees, and moves the spans by where that starts. -/
theorem exec_eq (e : RegexEngine) (r : Regex) (reach : Reach) {t : Text} {p : Nat}
    (hp : p ≤ t.length) :
    e.exec r reach t p =
      (find r reach (t.drop (e.origin p)) (p - e.origin p)).map
        (r.toMatch (t.drop (e.origin p)) (e.origin p)) := by
  unfold exec origin
  by_cases he : e.fixedAnchor = true
  · rw [if_pos he, if_pos he, Int.toNat_natCast, Nat.min_eq_left hp, List.drop_zero, Nat.sub_zero]
    rfl
  · rw [if_neg he, if_neg he, Text.sliceFrom_eq (by omega) (by omega), Int.toNat_natCast,
      Nat.sub_self]

/-- A match that the engine finds lies within the text and in reach of the cursor. -/
theorem exec_within {e : RegexEngine} {r : Regex} {reach : Reach} {t : Text} {pos : Int}
    {m : Match} (h0 : 0 ≤ pos) (hlen : pos ≤ t.length) (h : e.exec r reach t pos = some m) :
    m.Within t ∧ reach.allows pos m.start := by
  obtain ⟨p, rfl⟩ := Int.eq_ofNat_of_zero_le h0
  have hp : p ≤ t.length := by omega
  have ho := e.origin_le p
  rw [exec_eq e r reach hp] at h
  obtain ⟨f, hf, rfl⟩ := Option.map_eq_some_iff.mp h
  obtain ⟨-, hstop, hlast, hreach⟩ := find_bounds (e.sub_origin_le hp) hf
  refine ⟨toMatch_within r (by omega) hstop hlast, ?_⟩
  -- Cursor and match are both seen from the first character that the engine sees.
  have hmoved := Reach.allows_add reach ((p - e.origin p : Nat) : Int) f.start (e.origin p)
  rw [Int.natCast_sub ho, Int.sub_add_cancel] at hmoved
  rw [Int.natCast_sub ho] at hreach
  exact hmoved.trans hreach

/-! ## Answers -/

/-- The engine's answer, with patterns compiled without a cache. -/
def reply (e : RegexEngine) (reach : Reach) (p : Pattern) (t : Text) (pos : Int) : Reply where
  result := (p.outcome e.mask).result.map fun r => e.exec r reach t pos
  log := (p.outcome e.mask).log

/-- With a faithful cache, the engine answers as it does without a cache. -/
theorem attempt_fst {c : Cache} (hc : c.Faithful) (e : RegexEngine) (reach : Reach) (p : Pattern)
    (t : Text) (pos : Int) : (e.attempt reach p t pos c).1 = e.reply reach p t pos := by
  unfold attempt reply
  dsimp only
  rw [Pattern.compile_fst hc]

/-- To a pattern that compiles, the engine answers with what it finds. -/
theorem attempt_of_compiles {c : Cache} (hc : c.Faithful) {e : RegexEngine} {p : Pattern}
    {r : Regex}
    (hp : p.regex e.mask = .ok r) (reach : Reach) (t : Text) (pos : Int) :
    (e.attempt reach p t pos c).1.result = .ok (e.exec r reach t pos) := by
  unfold attempt
  dsimp only
  rw [Pattern.compile_of_ok hc hp]
  rfl

/-! ## Searching with a fixed anchor -/

section FixedAnchor

variable {e : RegexEngine} {r : Regex} {t : Text} {pos : Int} (he : e.fixedAnchor = true)
include he

/-- With a fixed anchor, the match within a reach is the one found inside the whole text. -/
theorem exec_fixed (reach : Reach) (hlen : pos ≤ t.length) :
    e.exec r reach t pos = (find r reach t pos.toNat).map (r.toMatch t 0) := by
  have hpos : min pos.toNat t.length = pos.toNat := by omega
  unfold exec
  rw [if_pos he, hpos]

/-- With a fixed anchor, a search finds what is found at the first offset that has a match. -/
theorem exec_ahead_eq_some_iff {m : Match} (h0 : 0 ≤ pos) (hlen : pos ≤ t.length) :
    e.exec r .ahead t pos = some m ↔
      ∃ q, pos ≤ q ∧ q ≤ t.length ∧ e.exec r .anchored t q = some m ∧
        ∀ q', pos ≤ q' → q' < q → e.exec r .anchored t q' = none := by
  rw [exec_fixed he .ahead hlen, Option.map_eq_some_iff]
  constructor
  · rintro ⟨f, hf, rfl⟩
    obtain ⟨q, hq, hqlen, hmatch, hfirst⟩ := Regex.searchFrom_eq_some_iff.mp hf
    refine ⟨q, by omega, by omega, ?_, fun q' h1 h2 => ?_⟩
    · rw [exec_fixed he .anchored (by omega)]
      exact Option.map_eq_some_iff.mpr ⟨f, hmatch, rfl⟩
    · rw [exec_fixed he .anchored (by omega), Option.map_eq_none_iff]
      exact hfirst q'.toNat (by omega) (by omega)
  · rintro ⟨q, hq, hqlen, hm, hfirst⟩
    rw [exec_fixed he .anchored hqlen, Option.map_eq_some_iff] at hm
    obtain ⟨f, hf, rfl⟩ := hm
    refine ⟨f, Regex.searchFrom_eq_some_iff.mpr ⟨q.toNat, by omega, by omega, hf, ?_⟩, rfl⟩
    intro q' h1 h2
    have hnone := hfirst q' (by omega) (by omega)
    rwa [exec_fixed he .anchored (by omega), Option.map_eq_none_iff] at hnone

/-- With a fixed anchor, a search fails exactly where no offset has a match. -/
theorem exec_ahead_eq_none_iff (h0 : 0 ≤ pos) (hlen : pos ≤ t.length) :
    e.exec r .ahead t pos = none ↔
      ∀ q, pos ≤ q → q ≤ t.length → e.exec r .anchored t q = none := by
  rw [exec_fixed he .ahead hlen, Option.map_eq_none_iff]
  refine Regex.searchFrom_eq_none_iff.trans ⟨fun h q hq hqlen => ?_, fun h q hq hqlen => ?_⟩
  · rw [exec_fixed he .anchored hqlen, Option.map_eq_none_iff]
    exact h q.toNat (by omega) (by omega)
  · have hnone := h q (by omega) (by omega)
    rwa [exec_fixed he .anchored (by omega), Option.map_eq_none_iff] at hnone

end FixedAnchor

end RegexEngine

end TextScan
