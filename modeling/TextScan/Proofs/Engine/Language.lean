import TextScan.Proofs.Cache
import TextScan.Proofs.Engine.Regex
import TextScan.Proofs.Pattern.Language

/-!
# The engine decides the language of a regular pattern

With a regular pattern, the engine finds a match at the cursor exactly if some part of the text that
starts there is in the language of the pattern, and the match that it finds is such a part
(`RegexEngine.attempt_iff_language`). It makes no difference whether the engine matches inside the
whole text or cuts off what lies before the cursor: a regular pattern looks at nothing but the
characters that it takes.
-/

namespace TextScan

/-- A part of a text, seen from the text and from what is left of it after its first `o` characters
are cut off. -/
theorem Reads.drop_iff {t : Text} {l : Language Char} {o i k : Nat} (ho : o ≤ t.length) :
    Reads (t.drop o) l i k ↔ Reads t l (o + i) (o + k) := by
  have hspan : Regex.spanText (t.drop o) (i, k) = Regex.spanText t (o + i, o + k) := by
    unfold Regex.spanText
    rw [List.take_drop, List.drop_drop]
  constructor
  · rintro ⟨hle, hlength, hmem⟩
    rw [List.length_drop] at hlength
    rw [hspan] at hmem
    exact ⟨by omega, by omega, hmem⟩
  · rintro ⟨hle, hlength, hmem⟩
    rw [← hspan] at hmem
    exact ⟨by omega, by rw [List.length_drop]; omega, hmem⟩

/-- A part of a text in a language, as a slice between integer offsets. -/
theorem Reads.iff_slice {t : Text} {l : Language Char} {p q : Nat} :
    Reads t l p q ↔ (p : Int) ≤ q ∧ (q : Int) ≤ t.length ∧ t.slice p q ∈ l := by
  constructor
  · rintro ⟨hle, hlength, hmem⟩
    refine ⟨by omega, by omega, ?_⟩
    rwa [Text.slice_eq (by omega) (by omega) (by omega)]
  · rintro ⟨hle, hlength, hmem⟩
    rw [Text.slice_eq (by omega) hle hlength] at hmem
    exact ⟨by omega, by omega, hmem⟩

namespace RegexEngine

section Regular

variable {e : RegexEngine} {r : Regex} {t : Text} {p : Nat}
variable (hn : r.node.isRegular = true) (ho : r.node.Ordered) (hp : p ≤ t.length)
include hn ho hp

/-- A match of a regular pattern at the cursor takes a part of the text that is in its language. -/
theorem reads_of_exec {m : Match} (h : e.exec r .anchored t p = some m) :
    ∃ q : Nat, m.start = p ∧ m.stop = q ∧ Reads t r.node.language p q := by
  have hle := e.origin_le p
  rw [exec_eq e r .anchored hp] at h
  obtain ⟨f, hf, rfl⟩ := Option.map_eq_some_iff.mp h
  have hin := e.sub_origin_le hp
  have hread := Regex.reads_of_matchAt hn ho hin hf
  rw [Reads.drop_iff (by omega), Nat.add_sub_cancel' hle] at hread
  obtain ⟨hstart, -, -⟩ := Regex.matchAt_bounds hin hf
  refine ⟨e.origin p + f.last.pos, ?_, ?_, hread⟩
  · show (f.start + e.origin p : Int) = p
    omega
  · show (f.last.pos + e.origin p : Int) = (e.origin p + f.last.pos : Nat)
    omega

/-- Where some part of the text from the cursor on is in its language, a regular pattern matches. -/
theorem exec_of_reads {q : Nat} (h : Reads t r.node.language p q) :
    ∃ m, e.exec r .anchored t p = some m := by
  have hle := e.origin_le p
  have hin := e.sub_origin_le hp
  -- The same part of the text, seen from the first character that the engine sees.
  have hread : Reads (t.drop (e.origin p)) r.node.language (p - e.origin p) (q - e.origin p) := by
    have hpq := h.le
    rw [Reads.drop_iff (by omega), Nat.add_sub_cancel' hle, Nat.add_sub_cancel' (by omega)]
    exact h
  obtain ⟨f, hf⟩ := (Regex.exists_matchAt_iff hn ho hin).mpr ⟨_, hread⟩
  refine ⟨r.toMatch (t.drop (e.origin p)) (e.origin p) f, ?_⟩
  rw [exec_eq e r .anchored hp]
  exact Option.map_eq_some_iff.mpr ⟨f, hf, rfl⟩

end Regular

/-- With a regular pattern, the engine answers with a match at the cursor exactly if the text from
there up to some place is in the language of the pattern, and the match that it answers with ends at
such a place. -/
theorem attempt_iff_language (e : RegexEngine) {source t : Text} {r : Regex} {c : Cache} {pos : Int}
    (hr : Regex.compile source e.mask = .ok r) (hn : r.node.isRegular = true) (hc : c.Reachable)
    (h0 : 0 ≤ pos) (hlen : pos ≤ t.length) :
    ∃ found, (e.attempt .anchored (.source source) t pos c).1.result = .ok found ∧
      (found.isSome = true ↔
        ∃ stop, pos ≤ stop ∧ stop ≤ t.length ∧ t.slice pos stop ∈ r.node.language) ∧
      ∀ m, found = some m →
        m.start = pos ∧ pos ≤ m.stop ∧ m.stop ≤ t.length ∧
          t.slice pos m.stop ∈ r.node.language := by
  obtain ⟨p, rfl⟩ := Int.eq_ofNat_of_zero_le h0
  have hp : p ≤ t.length := by omega
  have ho := Regex.ordered_of_compile hr
  have hcompiled : ((Pattern.source source).compile e.mask c).1 = { result := .ok r } :=
    Pattern.compile_of_ok hc.faithful hr
  have hsound : ∀ m, e.exec r .anchored t p = some m →
      m.start = p ∧ p ≤ m.stop ∧ m.stop ≤ t.length ∧ t.slice p m.stop ∈ r.node.language := by
    intro m hm
    obtain ⟨q, hstart, hstop, hread⟩ := reads_of_exec hn ho hp hm
    rw [hstop]
    exact ⟨hstart, Reads.iff_slice.mp hread⟩
  refine ⟨e.exec r .anchored t p, ?_, ?_, hsound⟩
  · unfold attempt
    dsimp only
    rw [hcompiled]
    rfl
  · constructor
    · intro hfound
      obtain ⟨m, hm⟩ := Option.isSome_iff_exists.mp hfound
      exact ⟨m.stop, (hsound m hm).2⟩
    · rintro ⟨stop, hle, hstop, hmem⟩
      obtain ⟨q, rfl⟩ := Int.eq_ofNat_of_zero_le (h0.trans hle)
      obtain ⟨m, hm⟩ := exec_of_reads (e := e) hn ho hp (Reads.iff_slice.mpr ⟨hle, hstop, hmem⟩)
      exact Option.isSome_iff_exists.mpr ⟨m, hm⟩

/-- A loop around a body that can take nothing, without regard to case: what the engine answers at
offset 1 of two texts tells that `aBbc` is in the language and that no initial part of `aBb` is. -/
theorem attempt_iff_language_nested :
    let e : RegexEngine := { mask := 2, fixedAnchor := false }
    ∃ r, Regex.compile "(a*|b)*?c".toList e.mask = .ok r ∧ r.node.isRegular = true ∧
      Cache.Reachable {} ∧ "aBbc".toList ∈ r.node.language ∧
      ¬∃ stop : Int, 1 ≤ stop ∧ stop ≤ 4 ∧ Text.slice "xaBb".toList 1 stop ∈ r.node.language := by
  intro e
  let p : Pattern := .source "(a*|b)*?c".toList
  obtain ⟨r, hr, hn⟩ : ∃ r, Regex.compile "(a*|b)*?c".toList e.mask = .ok r ∧
      r.node.isRegular = true := ⟨_, rfl, rfl⟩
  have h0 : (0 : Int) ≤ 1 := by decide
  refine ⟨r, hr, hn, .empty, ?_, ?_⟩
  · have hlen : (1 : Int) ≤ "xaBbcd".toList.length := by decide
    obtain ⟨found, hfound, -, hsound⟩ := attempt_iff_language e hr hn .empty h0 hlen
    have hrun : (e.attempt .anchored p "xaBbcd".toList 1 {}).1.result.toOption =
        some (some ⟨1, 5, "aBbc".toList, [some "b".toList], []⟩) := by decide +kernel
    rw [hfound] at hrun
    exact (hsound _ (Option.some.inj hrun)).2.2.2
  · have hlen : (1 : Int) ≤ "xaBb".toList.length := by decide
    obtain ⟨found, hfound, hiff, -⟩ := attempt_iff_language e hr hn .empty h0 hlen
    have hrun : (e.attempt .anchored p "xaBb".toList 1 {}).1.result.toOption = some none := by
      decide +kernel
    rw [hfound] at hrun
    obtain rfl : found = none := Option.some.inj hrun
    intro hpart
    simpa using hiff.mpr hpart

end RegexEngine

end TextScan
