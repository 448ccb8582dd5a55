import TextScan.Proofs.Engine.Regex
import TextScan.Proofs.Pattern.Locality

/-!
# Where the two anchor modes agree

The engine either matches inside the whole text or cuts off what lies before the cursor and moves
the spans back. A pattern that does not look back cannot tell the difference: in both modes the
engine finds what it finds in the text from the cursor on (`RegexEngine.exec_eq_drop`), so it
answers alike, at the cursor and ahead of it (`RegexEngine.attempt_anchor_independent`).
-/

namespace TextScan

section Append

variable (before after : Text)

/-- The characters of a span that lies behind a text put before another. -/
theorem Regex.spanText_append (s : Span) :
    Regex.spanText (before ++ after) (s.shift before.length) = Regex.spanText after s := by
  unfold Regex.spanText Span.shift
  rw [Nat.add_comm s.1, Nat.add_comm s.2, ← List.drop_drop, List.take_length_add_append,
    List.drop_left]

/-- The record of a match that lies behind a text put before another. -/
theorem Regex.toMatch_append (r : Regex) (offset : Int) (f : Regex.Found) :
    r.toMatch (before ++ after) offset (f.shift before.length) =
      r.toMatch after (offset + before.length) f := by
  have hgroups : (f.shift before.length).last.groups.map (·.map (spanText (before ++ after))) =
      f.last.groups.map (·.map (spanText after)) := by
    unfold Found.shift Progress.shift
    dsimp only
    rw [List.map_map]
    congr 1
    funext span
    rw [Function.comp_apply, Option.map_map]
    congr 1
    funext s
    exact spanText_append before after s
  have hoffset : ∀ n : Nat,
      ((n + before.length : Nat) : Int) + offset = n + (offset + before.length) := by
    intro n
    omega
  unfold toMatch
  rw [hgroups]
  show Match.mk (((f.start + before.length : Nat) : Int) + offset)
    (((f.last.pos + before.length : Nat) : Int) + offset)
    (spanText (before ++ after) (Span.shift before.length (f.start, f.last.pos))) _ _ = _
  rw [hoffset, hoffset, spanText_append]

namespace RegexEngine

/-- What is found from an offset on moves with the text. -/
theorem find_append {r : Regex} (hn : r.node.looksBack = false) (reach : Reach) (p : Nat) :
    find r reach (before ++ after) (p + before.length) =
      (find r reach after p).map (Regex.Found.shift before.length) := by
  cases reach with
  | anchored => exact Regex.matchAt_append before after hn p
  | ahead => exact Regex.searchFrom_append before after hn p

end RegexEngine

end Append

namespace RegexEngine

/-- With a pattern that does not look back, the engine finds in both modes what it finds in the text
from the cursor on. -/
theorem exec_eq_drop (e : RegexEngine) {r : Regex} (hn : r.node.looksBack = false) (reach : Reach)
    {t : Text} {p : Nat} (hp : p ≤ t.length) :
    e.exec r reach t p = (find r reach (t.drop p) 0).map (r.toMatch (t.drop p) p) := by
  have hle := e.origin_le p
  rw [exec_eq e r reach hp]
  generalize e.origin p = o at hle ⊢
  -- What the engine sees is what lies before the cursor, from its origin on, and the rest. The
  -- first part is empty in the mode that cuts it off.
  obtain ⟨skipped, hsplit, hlength⟩ :
      ∃ skipped, t.drop o = skipped ++ t.drop p ∧ skipped.length = p - o := by
    refine ⟨(t.drop o).take (p - o), ?_, ?_⟩
    · have hrest : t.drop p = (t.drop o).drop (p - o) := by
        rw [List.drop_drop, Nat.add_sub_cancel' hle]
      rw [hrest, List.take_append_drop]
    · rw [List.length_take, List.length_drop]
      omega
  have hoffset : (o : Int) + skipped.length = p := by omega
  have hfind := find_append skipped (t.drop p) hn reach 0
  rw [Nat.zero_add] at hfind
  rw [hsplit, ← hlength]
  calc (find r reach (skipped ++ t.drop p) skipped.length).map (r.toMatch (skipped ++ t.drop p) o)
      = ((find r reach (t.drop p) 0).map (Regex.Found.shift skipped.length)).map
          (r.toMatch (skipped ++ t.drop p) o) := by rw [hfind]
    _ = (find r reach (t.drop p) 0).map (r.toMatch (t.drop p) (o + skipped.length)) := by
      rw [Option.map_map]
      congr 1
      funext f
      exact Regex.toMatch_append skipped (t.drop p) r o f
    _ = (find r reach (t.drop p) 0).map (r.toMatch (t.drop p) p) := by rw [hoffset]

/-- With a pattern that compiles and does not look back, an engine that matches inside the whole
text and one that cuts off what lies before the cursor give the same answer, at the cursor as well
as ahead of it. -/
theorem attempt_anchor_independent (mask : Int) {p : Pattern} {r : Regex}
    (hp : p.regex mask = .ok r) (hn : r.node.looksBack = false) (reach : Reach) {t : Text}
    {pos : Int} (h0 : 0 ≤ pos) (hlen : pos ≤ t.length) {c c' : Cache} (hc : c.Reachable)
    (hc' : c'.Reachable) :
    ∃ found : Option Match,
      (attempt { mask, fixedAnchor := true } reach p t pos c).1.result = .ok found ∧
      (attempt { mask, fixedAnchor := false } reach p t pos c').1.result = .ok found := by
  obtain ⟨q, rfl⟩ := Int.eq_ofNat_of_zero_le h0
  have hq : q ≤ t.length := by omega
  refine ⟨(find r reach (t.drop q) 0).map (r.toMatch (t.drop q) q), ?_, ?_⟩
  · rw [attempt_of_compiles hc.faithful hp, exec_eq_drop _ hn reach hq]
  · rw [attempt_of_compiles hc'.faithful hp, exec_eq_drop _ hn reach hq]

/-- A lazy loop, a condition on what comes next, a choice, a repeated group and the end of the text,
behind text that is cut off or not: what one mode finds from offset 1 on, the other finds too. -/
theorem attempt_anchor_independent_search :
    let p : Pattern := .source "(a)(?:(?P<x>b)|c)*?(?=.)(?(x)\\1|d)$".toList
    let t : Text := "--abca\n".toList
    let m : Match := ⟨2, 6, "abca".toList, [some ['a'], some ['b']], [("x", some ['b'])]⟩
    ∃ r, p.regex 0 = .ok r ∧ r.node.looksBack = false ∧ Cache.Reachable {} ∧
      (attempt { mask := 0, fixedAnchor := false } .ahead p t 1 {}).1.result = .ok (some m) ∧
      (attempt { mask := 0, fixedAnchor := true } .ahead p t 1 {}).1.result = .ok (some m) := by
  intro p t m
  obtain ⟨r, hp, hn⟩ : ∃ r, p.regex 0 = .ok r ∧ r.node.looksBack = false := ⟨_, rfl, rfl⟩
  have h0 : (0 : Int) ≤ 1 := by decide
  have hlen : (1 : Int) ≤ t.length := by decide
  obtain ⟨found, hfixed, hfloating⟩ :=
    attempt_anchor_independent 0 hp hn .ahead h0 hlen .empty .empty
  have hrun : (attempt { mask := 0, fixedAnchor := false } .ahead p t 1 {}).1.result.toOption =
      some (some m) := by decide +kernel
  rw [hfloating] at hrun
  obtain rfl : found = some m := Option.some.inj hrun
  exact ⟨r, hp, hn, .empty, hfloating, hfixed⟩

end RegexEngine

end TextScan
