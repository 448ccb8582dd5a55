import TextScan.Proofs.Scanner.Coherence

/-!
# Where the cursor stands

A cursor in the text cuts it in two (`Scanner.CutAt`). What a scanner tells about the cursor, and
what it shows of the text ahead, comes from the two parts alone.
-/

namespace TextScan.Scanner

/-! ## Reading and looking ahead -/

section Ahead

variable {s : Scanner} {n : Nat}

/-- Characters that are there are read. -/
theorem read_of_le (h : s.pos + n ≤ s.length) :
    s.read n = (.ok (some (s.text.slice s.pos (s.pos + n))), s.movedTo (s.pos + n)) := by
  rcases read_cases s n with ⟨hn, -⟩ | ⟨-, hlen, -⟩ | ⟨-, -, hread⟩
  · omega
  · omega
  · exact hread

/-- If there are too few characters, nothing is read. -/
theorem read_of_lt (h : s.length < s.pos + n) : s.read n = (.ok none, s.cleared) := by
  rcases read_cases s n with ⟨hn, -⟩ | ⟨-, -, hread⟩ | ⟨-, hlen, -⟩
  · omega
  · exact hread
  · omega

/-- Characters that are there can be looked at. -/
theorem peek_of_le (h : s.pos + n ≤ s.length) :
    s.peek n = .ok (s.text.slice s.pos (s.pos + n)) := by
  have hfits : ¬ ((decide ((n : Int) < 0) || decide (s.length < s.pos + n)) = true) := by
    rw [Bool.or_eq_true, decide_eq_true_eq, decide_eq_true_eq]
    omega
  exact if_neg hfits

end Ahead

/-! ## Cuts -/

/-- The cursor cuts the text into what lies before it and what lies behind it. -/
structure CutAt (s : Scanner) (before rest : Text) : Prop where
  /-- The text consists of the two parts. -/
  text_eq : s.text = before ++ rest
  /-- The cursor is between them. -/
  pos_eq : s.pos = before.length

/-- A scanner in the text has its cursor at a cut of the text. -/
theorem Coherent.exists_cut {s : Scanner} (hs : s.Coherent) : ∃ before rest, s.CutAt before rest := by
  have h0 := hs.pos_nonneg
  have hle : s.pos ≤ s.text.length := hs.pos_le
  refine ⟨s.text.take s.pos.toNat, s.text.drop s.pos.toNat, ?_, ?_⟩
  · exact (List.take_append_drop _ _).symm
  · rw [List.length_take]
    omega

namespace CutAt

variable {s : Scanner} {before rest : Text}

/-- The cursor is at the start of the text exactly if nothing lies before it. -/
theorem atStart (h : s.CutAt before rest) : s.atStart = before.isEmpty := by
  unfold Scanner.atStart
  rw [h.pos_eq]
  cases before <;> rfl

/-- What follows the cursor is the part behind the cut. -/
theorem remainder (h : s.CutAt before rest) : s.remainder = rest := by
  have hlen : (before.length : Int) ≤ (before ++ rest).length := by
    rw [List.length_append]
    omega
  unfold Scanner.remainder
  rw [h.text_eq, h.pos_eq, Text.sliceFrom_eq (by omega) hlen, Int.toNat_natCast, List.drop_left]

/-- As many characters follow the cursor as the part behind the cut has. -/
theorem restSize (h : s.CutAt before rest) : s.restSize = rest.length := by
  unfold Scanner.restSize length
  rw [h.text_eq, h.pos_eq, List.length_append]
  omega

/-- The cursor is at the end of the text exactly if nothing lies behind it. -/
theorem atEnd (h : s.CutAt before rest) : s.atEnd = rest.isEmpty := by
  have hrest := h.restSize
  unfold Scanner.restSize at hrest
  unfold Scanner.atEnd
  rw [Bool.eq_iff_iff, beq_iff_eq, List.isEmpty_iff, ← List.length_eq_zero_iff]
  omega

/-- What the part behind the cut begins with can be looked at. -/
theorem peek {v after : Text} (h : s.CutAt before (v ++ after)) : s.peek v.length = .ok v := by
  have hrest := h.restSize
  unfold Scanner.restSize at hrest
  have hfits : s.pos + v.length ≤ s.length := by
    rw [List.length_append] at hrest
    omega
  rw [peek_of_le hfits, h.text_eq, h.pos_eq, Text.slice_between]

end CutAt

end TextScan.Scanner
