import TextScan.Proofs.Location
import TextScan.Proofs.Pattern.Build
import TextScan.Proofs.Pattern.Locality
import TextScan.Proofs.Scanner.Cursor

/-!
# Boundaries at the cursor

Whether the cursor stands at a boundary of the text or of a line can be told in three ways. The
scanner can be asked, and looks at the characters next to the cursor. The location can be compared
with the line that it is on, and comes from the line ends before the cursor. An anchor can be tried
as a pattern, and is a condition of the matcher on a place in the whole text. With a fixed anchor
the three agree in every state that a run can reach (`Scanner.boundaries_agree`).

A cursor cuts the text in two, and each way is worked out at the cut: a line starts there if the
part before it, read backwards, has an empty first line, and ends there if the part behind it has
one (`Text.firstLineEmpty`).
-/

namespace TextScan

/-! ## The line around a cut -/

namespace Text

/-- Whether the first line of a text is empty: there is no character, or the first one is a line
end. -/
def firstLineEmpty (t : Text) : Bool := t.head?.all (· == newline)

/-- The first line is what comes before the first line end. -/
theorem exists_lines_eq_takeWhile (t : Text) :
    ∃ others, t.lines = t.takeWhile (· != newline) :: others := by
  induction t with
  | nil => exact ⟨[], rfl⟩
  | cons c t ih =>
    obtain ⟨others, hlines⟩ := ih
    rw [lines_cons]
    by_cases hc : c = newline
    · have hfirst : (c :: t).takeWhile (· != newline) = [] := by simp [hc]
      exact ⟨lines t, by rw [if_pos hc, hfirst]⟩
    · have hfirst : (c :: t).takeWhile (· != newline) = c :: t.takeWhile (· != newline) := by
        simp [hc]
      exact ⟨others, by rw [if_neg hc, hlines, hfirst, List.modifyHead_cons]⟩

/-- There are no characters before the first line end exactly if the first line is empty. -/
theorem length_takeWhile_eq_zero_iff (t : Text) :
    (t.takeWhile (· != newline)).length = 0 ↔ t.firstLineEmpty = true := by
  cases t with
  | nil => exact iff_of_true rfl rfl
  | cons c t =>
    unfold firstLineEmpty
    rw [List.head?_cons, Option.all_some, beq_iff_eq, List.length_eq_zero_iff]
    by_cases hc : c = newline
    · simp [hc]
    · simp [hc]

/-- The line around a cut has the characters since the last line end before the cut and those up to
the next line end behind it. -/
theorem length_lineAt_append (before rest : Text) :
    (lineAt (before ++ rest) (before.lineEnds + 1)).length =
      (before.reverse.takeWhile (· != newline)).length +
        (rest.takeWhile (· != newline)).length := by
  unfold lineAt
  by_cases hmem : newline ∈ before
  · obtain ⟨front, last, rfl, hlast⟩ := exists_last_lineEnd hmem
    obtain ⟨others, hlines⟩ := exists_lines_eq_takeWhile (last ++ rest)
    have hline : ((lineEnds (front ++ newline :: last) : Int) + 1 - 1).toNat =
        front.lines.length := by
      rw [lineEnds_append_cons hlast]
      omega
    rw [hline, length_takeWhile_reverse hlast, List.append_assoc, List.cons_append, lines_append,
      hlines, List.getElem?_append_right (Nat.le_refl _), Nat.sub_self, List.getElem?_cons_zero,
      Option.getD_some, takeWhile_append_of_not_mem hlast, List.length_append]
  · obtain ⟨others, hlines⟩ := exists_lines_eq_takeWhile (before ++ rest)
    have hline : ((before.lineEnds : Int) + 1 - 1).toNat = 0 := by
      have hends : before.lineEnds = 0 := List.count_eq_zero.mpr hmem
      omega
    rw [hline, hlines, length_takeWhile_reverse_of_not_mem hmem, List.getElem?_cons_zero,
      Option.getD_some, takeWhile_append_of_not_mem hmem, List.length_append]

end Text

/-! ## Anchors as patterns -/

/-- The sources of patterns that are an anchor and nothing else, whatever flags are passed. -/
def anchorSources : List (String × Anchor) :=
  [("(?m)^", .lineStart), ("(?m)$", .lineEnd), ("\\A", .textStart), ("\\Z", .textEnd)]

/-- The tree of such a pattern is its anchor. -/
theorem node_of_anchorSources {source : String} {a : Anchor} (h : (source, a) ∈ anchorSources)
    {mask : Int} {r : Regex} (hr : Regex.compile source.toList mask = .ok r) :
    r.node = .seq (.anchor a) .empty := by
  obtain ⟨b, stray, hrun, hnode, -, -⟩ := Regex.compile_eq_ok hr
  -- The flags passed stay a variable: what the reader does here does not depend on them.
  have hbuilt : ∃ b', Builder.run source.toList.length 0 (Builder.start (.ofMask mask))
      (Token.split 0 source.toList) = .ok (b', none) ∧
        b'.level.node = .seq (.anchor a) .empty := by
    simp only [anchorSources, List.mem_cons, List.not_mem_nil, or_false, Prod.mk.injEq] at h
    rcases h with ⟨rfl, rfl⟩ | ⟨rfl, rfl⟩ | ⟨rfl, rfl⟩ | ⟨rfl, rfl⟩
    · exact ⟨_, rfl, rfl⟩
    · exact ⟨_, rfl, rfl⟩
    · exact ⟨_, rfl, rfl⟩
    · exact ⟨_, rfl, rfl⟩
  obtain ⟨b', hrun', hnode'⟩ := hbuilt
  obtain ⟨rfl, -⟩ := Prod.mk.inj (Except.ok.inj (hrun.symm.trans hrun'))
  rw [hnode, hnode']

/-- A pattern that is an anchor matches at the places where the anchor holds. -/
theorem Regex.isSome_matchAt_anchor {r : Regex} {a : Anchor}
    (hnode : r.node = .seq (.anchor a) .empty) (t : Text) (p : Nat) :
    (r.matchAt t p).isSome = a.holds t.toArray p := by
  unfold matchAt tryAt
  rw [hnode]
  show (Option.map _ (if a.holds t.toArray p then some (r.initial p) else none)).isSome = _
  cases a.holds t.toArray p <;> rfl

namespace Anchor

variable (before rest : Text)

/-- The start of the text is at a cut with nothing before it. -/
theorem holds_textStart : textStart.holds (before ++ rest).toArray before.length = before.isEmpty := by
  cases before <;> rfl

/-- The start of a line is at a cut with nothing or a line end before it. -/
theorem holds_lineStart :
    lineStart.holds (before ++ rest).toArray before.length =
      Text.firstLineEmpty before.reverse := by
  rcases List.eq_nil_or_concat before with rfl | ⟨front, c, rfl⟩
  · rfl
  · have hat := hasAt_append front (c :: rest) 0 (· == '\n')
    have hlength : (front ++ [c]).length = front.length + 1 := by simp
    rw [Nat.zero_add] at hat
    rw [List.concat_eq_append, List.append_assoc, List.singleton_append, hlength, List.reverse_append]
    show (front.length + 1 == 0 ||
      (front.length + 1 != 0 && hasAt (front ++ c :: rest).toArray front.length (· == '\n'))) =
        (c == '\n')
    rw [hat]
    rfl

/-- The end of the text is at a cut with nothing behind it. -/
theorem holds_textEnd : textEnd.holds (before ++ rest).toArray before.length = rest.isEmpty := by
  have hplace := holds_append before rest (a := textEnd) rfl 0
  rw [Nat.zero_add] at hplace
  rw [hplace]
  cases rest <;> rfl

/-- The end of a line is at a cut with nothing or a line end behind it. -/
theorem holds_lineEnd :
    lineEnd.holds (before ++ rest).toArray before.length = rest.firstLineEmpty := by
  have hplace := holds_append before rest (a := lineEnd) rfl 0
  rw [Nat.zero_add] at hplace
  rw [hplace]
  cases rest <;> rfl

end Anchor

namespace Scanner

/-! ## The three ways at a cut -/

namespace CutAt

variable {s : Scanner} {before rest : Text}

/-- The cursor is at the start of a line exactly if the line before it is empty. -/
theorem atLineStart (h : s.CutAt before rest) :
    s.atLineStart = .ok (Text.firstLineEmpty before.reverse) := by
  unfold Scanner.atLineStart
  rcases List.eq_nil_or_concat before with rfl | ⟨front, c, rfl⟩
  · have hzero : s.pos = 0 := h.pos_eq
    rw [if_pos hzero]
    rfl
  · have htext := h.text_eq
    have hpos := h.pos_eq
    rw [List.concat_eq_append] at htext hpos ⊢
    rw [List.append_assoc, List.singleton_append] at htext
    rw [List.length_append, List.length_singleton] at hpos
    have hchar : s.text.charAt? (s.pos - 1) = some c := by
      have hplace := Text.charAt?_append_left (t := c :: rest) (i := 0) front (Int.le_refl 0)
      have hoffset : s.pos - 1 = 0 + front.length := by omega
      rw [hoffset, htext, hplace]
      rfl
    rw [if_neg (by omega), isLineEnd, hchar, List.reverse_append]
    rfl

/-- The cursor is at the end of a line exactly if the line behind it is empty. -/
theorem atLineEnd (h : s.CutAt before rest) : s.atLineEnd = .ok rest.firstLineEmpty := by
  have hrest := h.restSize
  unfold Scanner.restSize at hrest
  unfold Scanner.atLineEnd
  cases rest with
  | nil =>
    rw [if_pos (by rw [List.length_nil] at hrest; omega)]
    rfl
  | cons c rest =>
    have hchar : s.text.charAt? s.pos = some c := by
      have hplace := Text.charAt?_append_left (t := c :: rest) (i := 0) before (Int.le_refl 0)
      rw [Int.zero_add] at hplace
      rw [h.text_eq, h.pos_eq, hplace]
      rfl
    rw [if_neg (by rw [List.length_cons] at hrest; omega), isLineEnd, hchar]
    rfl

/-- The location tells the line ends before the cut, and the characters since the last of them. -/
theorem location (h : s.CutAt before rest) :
    s.location =
      { line := before.lineEnds + 1
        column := (before.reverse.takeWhile (· != Text.newline)).length + 1
        offset := before.length } := by
  unfold Scanner.location
  rw [h.text_eq, h.pos_eq]
  exact Location.ofOffset_append before rest

/-- The cursor is in the first column exactly if the line before it is empty. -/
theorem column_eq_one_iff (h : s.CutAt before rest) :
    s.location.column = 1 ↔ Text.firstLineEmpty before.reverse = true := by
  rw [h.location, ← Text.length_takeWhile_eq_zero_iff]
  dsimp only
  omega

/-- The cursor is just behind the line that it is on exactly if the line behind it is empty. -/
theorem column_eq_length_iff (h : s.CutAt before rest) :
    s.location.column = (s.text.lineAt s.location.line).length + 1 ↔
      rest.firstLineEmpty = true := by
  rw [h.location, ← Text.length_takeWhile_eq_zero_iff, h.text_eq]
  dsimp only
  rw [Text.length_lineAt_append]
  omega

/-- The cursor is in the first column of the first line exactly if nothing lies before it. -/
theorem line_column_eq_one_iff (h : s.CutAt before rest) :
    s.location.line = 1 ∧ s.location.column = 1 ↔ before.isEmpty = true := by
  rw [h.location, List.isEmpty_iff]
  dsimp only
  constructor
  · rintro ⟨hline, hcolumn⟩
    have hends : before.lineEnds = 0 := by omega
    have hmem : Text.newline ∉ before := List.count_eq_zero.mp hends
    -- On the first line the column counts all characters before the cursor.
    rw [Text.length_takeWhile_reverse_of_not_mem hmem] at hcolumn
    have hlength : before.length = 0 := by omega
    exact List.length_eq_zero_iff.mp hlength
  · rintro rfl
    exact ⟨rfl, rfl⟩

end CutAt

/-- A check with a pattern text succeeds. -/
def Checks (e : RegexEngine) (c : Cache) (s : Scanner) (source : Text) : Prop :=
  ∃ v, (s.step e.engine (.attempt .anchored .check (.source source)) c).1.result = .ok (.text v)

/-- With a fixed anchor, a check with a pattern that is an anchor succeeds exactly if the anchor
holds at the cursor. -/
theorem checks_anchor_iff {e : RegexEngine} (he : e.fixedAnchor = true) {s : Scanner}
    (hs : s.Coherent) {c : Cache} (hc : c.Faithful) {source : String} {a : Anchor}
    (h : (source, a) ∈ anchorSources)
    (hcompiles : ∃ r, Regex.compile source.toList e.mask = .ok r) :
    s.Checks e c source.toList ↔ a.holds s.text.toArray s.pos.toNat = true := by
  obtain ⟨r, hr⟩ := hcompiles
  have hp : (Pattern.source source.toList).regex e.mask = .ok r := hr
  have hmatch := Regex.isSome_matchAt_anchor (node_of_anchorSources h hr) s.text s.pos.toNat
  have hexec : (e.exec r .anchored s.text s.pos).isSome = a.holds s.text.toArray s.pos.toNat := by
    rw [RegexEngine.exec_fixed he .anchored hs.pos_le, Option.isSome_map]
    exact hmatch
  unfold Checks
  change (∃ v, (s.attempt e.engine .anchored .check _ c).1.result = .ok (.text v)) ↔ _
  rw [attempt_of_compiles e .anchored .check hp hs hc, ← hexec]
  cases e.exec r .anchored s.text s.pos with
  | none => simp
  | some m => simp [answer]

/-- In every state that a regular-expression engine with a fixed anchor can lead to, and with any
flags under which the anchors compile as patterns, the three ways to tell a boundary agree. The
cursor is at the start of a line exactly if it is in the first column, and exactly if the anchor
for it succeeds; at the end of a line if it is in the column just behind the line; at the start of
the text if it is in the first column of the first line; and at the end of the text if nothing
follows it. -/
theorem boundaries_agree (e : RegexEngine) (he : e.fixedAnchor = true) {s : Scanner}
    (hs : Reachable e.engine s) {c : Cache} (hc : c.Reachable)
    (hcompile : ∀ source ∈ ["(?m)^", "(?m)$", "\\A", "\\Z"],
      ∃ r, Regex.compile source.toList e.mask = .ok r) :
    let line := s.text.lineAt s.location.line
    (∃ b, s.atLineStart = .ok b ∧ (b = true ↔ s.location.column = 1) ∧
        (b = true ↔ s.Checks e c "(?m)^".toList)) ∧
      (∃ b, s.atLineEnd = .ok b ∧ (b = true ↔ s.Checks e c "(?m)$".toList) ∧
        (b = true ↔ s.location.column = line.length + 1)) ∧
      ((s.atStart = true ↔ s.Checks e c "\\A".toList) ∧
        (s.atStart = true ↔ s.location.line = 1 ∧ s.location.column = 1)) ∧
      (s.atEnd = true ↔ s.Checks e c "\\Z".toList) ∧ (s.atEnd = true ↔ s.remainder = []) ∧
      (s.atEnd = true ↔ s.restSize = 0) := by
  have hs := hs.coherent
  have hc := hc.faithful
  obtain ⟨before, rest, hcut⟩ := hs.exists_cut
  have hplace : s.pos.toNat = before.length := by
    rw [hcut.pos_eq, Int.toNat_natCast]
  -- Each anchor, tried as a pattern, is a question about the two parts of the text.
  have hlineStart := checks_anchor_iff he hs hc (a := .lineStart) (by simp [anchorSources])
    (hcompile "(?m)^" (by simp))
  have hlineEnd := checks_anchor_iff he hs hc (a := .lineEnd) (by simp [anchorSources])
    (hcompile "(?m)$" (by simp))
  have htextStart := checks_anchor_iff he hs hc (a := .textStart) (by simp [anchorSources])
    (hcompile "\\A" (by simp))
  have htextEnd := checks_anchor_iff he hs hc (a := .textEnd) (by simp [anchorSources])
    (hcompile "\\Z" (by simp))
  rw [hcut.text_eq, hplace, Anchor.holds_lineStart] at hlineStart
  rw [hcut.text_eq, hplace, Anchor.holds_lineEnd] at hlineEnd
  rw [hcut.text_eq, hplace, Anchor.holds_textStart] at htextStart
  rw [hcut.text_eq, hplace, Anchor.holds_textEnd] at htextEnd
  dsimp only
  refine ⟨⟨_, hcut.atLineStart, hcut.column_eq_one_iff.symm, hlineStart.symm⟩,
    ⟨_, hcut.atLineEnd, hlineEnd.symm, hcut.column_eq_length_iff.symm⟩, ?_, ?_⟩
  · rw [hcut.atStart]
    exact ⟨htextStart.symm, hcut.line_column_eq_one_iff.symm⟩
  · rw [hcut.atEnd, hcut.remainder, hcut.restSize]
    refine ⟨htextEnd.symm, List.isEmpty_iff, ?_⟩
    rw [List.isEmpty_iff, ← List.length_eq_zero_iff]
    omega

/-- The cursor was at the end of the text, behind a line end, when a line end and more were
appended: it is on an empty line now, at its start and at its end, and at neither end of the text. -/
theorem boundaries_agree_appended :
    let e : RegexEngine := { mask := 66 }
    let s : Scanner := { text := "ab\n\ncd".toList, pos := 3 }
    Reachable e.engine s ∧ Cache.Reachable {} ∧
      (∀ source ∈ ["(?m)^", "(?m)$", "\\A", "\\Z"],
        ∃ r, Regex.compile source.toList e.mask = .ok r) ∧
      s.location = ⟨2, 1, 3⟩ ∧ s.text.lineAt 2 = [] ∧ s.Checks e {} "(?m)^".toList ∧
      s.Checks e {} "(?m)$".toList ∧ ¬ s.Checks e {} "\\A".toList ∧
      ¬ s.Checks e {} "\\Z".toList := by
  intro e s
  have hs : Reachable e.engine s :=
    ⟨"ab\n".toList, {}, [.terminate, .append ["\ncd".toList]], by decide +kernel⟩
  have hcompile : ∀ source ∈ ["(?m)^", "(?m)$", "\\A", "\\Z"],
      ∃ r, Regex.compile source.toList e.mask = .ok r := by
    intro source hsource
    simp only [List.mem_cons, List.not_mem_nil, or_false] at hsource
    rcases hsource with rfl | rfl | rfl | rfl
    · exact ⟨_, rfl⟩
    · exact ⟨_, rfl⟩
    · exact ⟨_, rfl⟩
    · exact ⟨_, rfl⟩
  obtain ⟨⟨b, hb, hcolumn, hcaret⟩, ⟨b', hb', hdollar, -⟩, ⟨hstart, -⟩, hend, -⟩ :=
    boundaries_agree e rfl hs .empty hcompile
  have hlocation : s.location = ⟨2, 1, 3⟩ := by decide
  have hlineEnd : s.atLineEnd = .ok true := rfl
  obtain rfl : b' = true := (Except.ok.inj (hlineEnd.symm.trans hb')).symm
  refine ⟨hs, .empty, hcompile, hlocation, by decide, ?_, hdollar.mp rfl, ?_, ?_⟩
  · exact hcaret.mp (hcolumn.mpr (by rw [hlocation]))
  · rw [← hstart]
    decide
  · rw [← hend]
    decide

end Scanner

end TextScan
