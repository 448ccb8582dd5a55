import Mathlib.Algebra.Ring.Nat
import TextScan.Location
import TextScan.Proofs.Text.Slice

/-!
# Line and column name an offset

The lines of a text are what is left when it is split at its line ends. A line and a column name an
offset (`Text.Names`) if the line is one of the text, the column lies in it or just behind it, and as
many characters come before as the lines above have, with their line ends, and the column tells.
Names rise with the offsets that they name (`Text.Names.lt_iff`), so an offset has one name at most.
The location of an offset names it (`Location.ofOffset_names`), so it is the only name, and the
offset can be told from it (`Location.ofOffset_unique`).

A location can also be kept up to date from what has been passed alone (`Location.advance`).
-/

namespace TextScan

namespace Text

/-! ## Lines -/

/-- The lines of a text, without their line ends. -/
def lines (t : Text) : List Text := t.splitOn newline

/-- The line with a number, counted from one. -/
def lineAt (t : Text) (line : Int) : Text := (t.lines[(line - 1).toNat]?).getD []

/-- The offset that a line and a column stand for: the lines above, each with its line end, and the
characters before the column. -/
def offsetAt (t : Text) (line column : Int) : Int :=
  (((t.lines.take (line - 1).toNat).map (·.length + 1)).sum : Nat) + column - 1

/-- A line and a column, both counted from one, name an offset of a text. -/
structure Names (t : Text) (line column i : Int) : Prop where
  /-- The first line has the number one. -/
  one_le_line : 1 ≤ line
  /-- The line is one of the text. -/
  line_le : line ≤ t.lines.length
  /-- The first column has the number one. -/
  one_le_column : 1 ≤ column
  /-- The column lies in the line or just behind it. -/
  column_le : column ≤ (t.lineAt line).length + 1
  /-- The offset is the one that they stand for. -/
  offset_eq : i = t.offsetAt line column

/-- A first character that is a line end is an empty line of its own, and any other belongs to the
first line. -/
theorem lines_cons (c : Char) (t : Text) :
    lines (c :: t) = if c = newline then [] :: t.lines else t.lines.modifyHead (c :: ·) := by
  unfold lines
  rw [List.splitOn_cons_eq_if_modifyHead]
  simp only [beq_iff_eq]

/-- There is at least one line. -/
theorem exists_lines_eq (t : Text) : ∃ first others, t.lines = first :: others :=
  List.exists_cons_of_ne_nil (List.splitOn_ne_nil newline t)

/-- A text has one line more than it has line ends. -/
theorem length_lines (t : Text) : t.lines.length = t.lineEnds + 1 := by
  induction t with
  | nil => rfl
  | cons c t ih =>
    unfold lineEnds at ih ⊢
    rw [lines_cons]
    by_cases hc : c = newline
    · rw [if_pos hc, List.length_cons, ih, hc, List.count_cons_self]
    · rw [if_neg hc, List.length_modifyHead, ih, List.count_cons_of_ne hc]

/-- With a line end each, the lines have one character more than the text: the last line has none. -/
theorem sum_length_lines (t : Text) : (t.lines.map (·.length + 1)).sum = t.length + 1 := by
  induction t with
  | nil => rfl
  | cons c t ih =>
    obtain ⟨first, others, hlines⟩ := exists_lines_eq t
    rw [lines_cons]
    rw [hlines] at ih ⊢
    by_cases hc : c = newline
    · rw [if_pos hc, List.map_cons, List.sum_cons, ih, List.length_cons, List.length_nil]
      omega
    · rw [List.map_cons, List.sum_cons] at ih
      rw [if_neg hc, List.modifyHead_cons, List.map_cons, List.sum_cons, List.length_cons,
        List.length_cons]
      omega

/-- What comes before the first line end starts the first line. -/
theorem exists_lines_append {start : Text} (h : newline ∉ start) (rest : Text) :
    ∃ more others, lines (start ++ rest) = (start ++ more) :: others := by
  induction start with
  | nil => exact exists_lines_eq rest
  | cons c start ih =>
    obtain ⟨more, others, hlines⟩ := ih (List.not_mem_of_not_mem_cons h)
    have hc : c ≠ newline := (List.ne_of_not_mem_cons h).symm
    refine ⟨more, others, ?_⟩
    rw [List.cons_append, lines_cons, if_neg hc, hlines]
    rfl

/-- The lines before a line end are those of the text before it. -/
theorem lines_append (front rest : Text) :
    lines (front ++ newline :: rest) = front.lines ++ rest.lines :=
  List.splitOn_append_cons_self front rest

/-- A text with a line end in it is cut at the last one. -/
theorem exists_last_lineEnd {t : Text} (h : newline ∈ t) :
    ∃ front last, t = front ++ newline :: last ∧ newline ∉ last := by
  obtain ⟨after, before, hsplit, hafter⟩ :=
    List.eq_append_cons_of_mem (List.mem_reverse.mpr h)
  refine ⟨before.reverse, after.reverse, ?_, fun hmem => hafter (List.mem_reverse.mp hmem)⟩
  have hreverse := congrArg List.reverse hsplit
  rw [List.reverse_reverse, List.reverse_append, List.reverse_cons, List.append_assoc] at hreverse
  exact hreverse

/-! ## Names of offsets -/

/-- The number of characters in a number of lines, with their line ends, rises with the number. -/
theorem sum_take_le (lengths : List Nat) {n m : Nat} (h : n ≤ m) :
    (lengths.take n).sum ≤ (lengths.take m).sum := by
  have hsplit := List.take_append_drop n (lengths.take m)
  rw [List.take_take, Nat.min_eq_left h] at hsplit
  rw [← hsplit, List.sum_append]
  exact Nat.le_add_right _ _

namespace Names

variable {t : Text} {line column i line' column' j : Int}

/-- A name on an earlier line names an earlier offset: at most the end of its line, while the other
line starts behind that. -/
theorem lt_of_line_lt (h : t.Names line column i) (h' : t.Names line' column' j)
    (hline : line < line') : i < j := by
  obtain ⟨n, hn⟩ := Int.eq_ofNat_of_zero_le (show 0 ≤ line - 1 by have := h.one_le_line; omega)
  obtain ⟨m, hm⟩ := Int.eq_ofNat_of_zero_le (show 0 ≤ line' - 1 by have := h'.one_le_line; omega)
  have hnm : n + 1 ≤ m := by omega
  have hlen : n < t.lines.length := by
    have hle := h.line_le
    omega
  have hcolumn := h.column_le
  have hcolumn' := h'.one_le_column
  have hoffset := h.offset_eq
  have hoffset' := h'.offset_eq
  unfold lineAt at hcolumn
  unfold offsetAt at hoffset hoffset'
  rw [hn, Int.toNat_natCast] at hcolumn hoffset
  rw [hm, Int.toNat_natCast] at hoffset'
  rw [List.getElem?_eq_getElem hlen, Option.getD_some] at hcolumn
  rw [List.map_take] at hoffset hoffset'
  -- The other line has this one among the lines above it, with its line end.
  have hstart := sum_take_le (t.lines.map (·.length + 1)) hnm
  have hnext : ((t.lines.map (·.length + 1)).take (n + 1)).sum =
      ((t.lines.map (·.length + 1)).take n).sum + (t.lines[n].length + 1) := by
    rw [List.take_succ_eq_append_getElem (by simpa using hlen), List.sum_append, List.sum_singleton,
      List.getElem_map]
  omega

/-- Names are ordered as the offsets that they name, first by the line and then by the column. -/
theorem lt_iff (h : t.Names line column i) (h' : t.Names line' column' j) :
    i < j ↔ line < line' ∨ (line = line' ∧ column < column') := by
  rcases Int.lt_trichotomy line line' with hlt | rfl | hgt
  · have hij := h.lt_of_line_lt h' hlt
    omega
  · have hoffset := h.offset_eq
    have hoffset' := h'.offset_eq
    unfold offsetAt at hoffset hoffset'
    omega
  · have hji := h'.lt_of_line_lt h hgt
    omega

/-- An offset has one name at most. -/
theorem unique (h : t.Names line column i) (h' : t.Names line' column' i) :
    line = line' ∧ column = column' := by
  have hlt := h.lt_iff h'
  have hgt := h'.lt_iff h
  omega

end Names

/-- A part without line ends before a text adds its characters to those before the first line
end. -/
theorem takeWhile_append_of_not_mem {v : Text} (h : newline ∉ v) (rest : Text) :
    (v ++ rest).takeWhile (· != newline) = v ++ rest.takeWhile (· != newline) := by
  refine List.takeWhile_append_of_pos fun c hc => ?_
  rw [bne_iff_ne]
  rintro rfl
  exact h hc

/-- A part without line ends behind a text adds its characters to those behind the last line end,
which are the ones before a line end when the text is read backwards. -/
theorem length_takeWhile_reverse_append {v : Text} (h : newline ∉ v) (before : Text) :
    ((before ++ v).reverse.takeWhile (· != newline)).length =
      (before.reverse.takeWhile (· != newline)).length + v.length := by
  have hv : newline ∉ v.reverse := fun hmem => h (List.mem_reverse.mp hmem)
  rw [List.reverse_append, takeWhile_append_of_not_mem hv, List.length_append, List.length_reverse,
    Nat.add_comm]

/-- A text without line ends has all its characters behind the last line end. -/
theorem length_takeWhile_reverse_of_not_mem {t : Text} (h : newline ∉ t) :
    (t.reverse.takeWhile (· != newline)).length = t.length := by
  have hadd := length_takeWhile_reverse_append h []
  rwa [List.nil_append, List.reverse_nil, List.takeWhile_nil, List.length_nil, Nat.zero_add] at hadd

/-- Behind the last line end of a text there are the characters of its last line. -/
theorem length_takeWhile_reverse {last : Text} (h : newline ∉ last) (front : Text) :
    ((front ++ newline :: last).reverse.takeWhile (· != newline)).length = last.length := by
  have hadd := length_takeWhile_reverse_append h (front ++ [newline])
  have hnone : (front ++ [newline]).reverse.takeWhile (· != newline) = [] := by simp
  rw [List.append_assoc, List.singleton_append, hnone, List.length_nil, Nat.zero_add] at hadd
  exact hadd

/-- Up to its last line end a text has as many line ends as lines. -/
theorem lineEnds_append_cons {last : Text} (h : newline ∉ last) (front : Text) :
    lineEnds (front ++ newline :: last) = front.lines.length := by
  unfold lineEnds
  rw [List.count_append, List.count_cons_self, List.count_eq_zero.mpr h, length_lines]
  rfl

/-- The place between two parts of a text is named by the number of line ends in the first part and
the number of characters behind the last of them. -/
theorem names_append (before rest : Text) :
    Names (before ++ rest) (before.lineEnds + 1)
      ((before.reverse.takeWhile (· != newline)).length + 1) before.length := by
  by_cases hmem : newline ∈ before
  · obtain ⟨front, last, rfl, hlast⟩ := exists_last_lineEnd hmem
    obtain ⟨more, others, hlines⟩ := exists_lines_append hlast rest
    have hall : lines (front ++ newline :: last ++ rest) =
        front.lines ++ (last ++ more) :: others := by
      rw [List.append_assoc, List.cons_append, lines_append, hlines]
    rw [lineEnds_append_cons hlast, length_takeWhile_reverse hlast]
    have hline : ((front.lines.length : Int) + 1 - 1).toNat = front.lines.length := by omega
    refine ⟨by omega, ?_, by omega, ?_, ?_⟩
    · rw [hall, List.length_append, List.length_cons]
      omega
    · unfold lineAt
      rw [hall, hline, List.getElem?_append_right (Nat.le_refl _), Nat.sub_self,
        List.getElem?_cons_zero, Option.getD_some, List.length_append]
      omega
    · -- The lines above, with their line ends, are the text up to the last line end before.
      unfold offsetAt
      rw [hall, hline, List.take_left, sum_length_lines, List.length_append, List.length_cons]
      omega
  · obtain ⟨more, others, hlines⟩ := exists_lines_append hmem rest
    have hends : before.lineEnds = 0 := List.count_eq_zero.mpr hmem
    rw [hends, length_takeWhile_reverse_of_not_mem hmem]
    refine ⟨by omega, ?_, by omega, ?_, ?_⟩
    · rw [hlines, List.length_cons]
      omega
    · show _ ≤ (((lines (before ++ rest))[0]?).getD []).length + (1 : Int)
      rw [hlines, List.getElem?_cons_zero, Option.getD_some, List.length_append]
      omega
    · show (before.length : Int) = (0 : Nat) + (before.length + 1 : Int) - 1
      omega

end Text

namespace Location

/-- The location between two parts of a text: the line ends before it are counted, and the characters
since the last of them. -/
theorem ofOffset_append (before rest : Text) :
    ofOffset (before ++ rest) before.length =
      { line := before.count '\n' + 1
        column := (before.reverse.takeWhile (· != '\n')).length + 1
        offset := before.length } := by
  have hbefore : Text.sliceTo (before ++ rest) before.length = before := by
    rw [Text.sliceTo_eq (by omega) (by rw [List.length_append]; omega), Int.toNat_natCast,
      List.take_left]
  have hcolumn : (before.length : Int) - before.lastLineStart =
      (before.reverse.takeWhile (· != '\n')).length := by
    have hle := (List.takeWhile_prefix (· != '\n') (l := before.reverse)).length_le
    rw [List.length_reverse] at hle
    show (before.length : Int) -
      (before.length - (before.reverse.takeWhile (· != '\n')).length : Nat) = _
    omega
  unfold ofOffset
  rw [hbefore]
  dsimp only
  rw [hcolumn]
  rfl

/-- What is appended to a text does not change the locations in it. -/
theorem ofOffset_append_right {t : Text} {i : Int} (h0 : 0 ≤ i) (hlen : i ≤ t.length)
    (more : Text) : ofOffset (t ++ more) i = ofOffset t i := by
  have hbefore : Text.sliceTo (t ++ more) i = t.sliceTo i := by
    rw [Text.sliceTo_eq h0 (by rw [List.length_append]; omega), Text.sliceTo_eq h0 hlen,
      List.take_append_of_le_length (by omega)]
  unfold ofOffset
  rw [hbefore]

/-- The line and the column of an offset name it. -/
theorem ofOffset_names {t : Text} {i : Int} (h0 : 0 ≤ i) (hlen : i ≤ t.length) :
    t.Names (ofOffset t i).line (ofOffset t i).column i := by
  obtain ⟨n, rfl⟩ := Int.eq_ofNat_of_zero_le h0
  have hn : (t.take n).length = n := by
    rw [List.length_take]
    omega
  have hlocation := ofOffset_append (t.take n) (t.drop n)
  have hnames := Text.names_append (t.take n) (t.drop n)
  rw [List.take_append_drop, hn] at hlocation hnames
  rw [hlocation]
  exact hnames

/-- The location of an offset of a text is the only line and column that name it, so that the offset
can be told from them, and it rises with the offset. -/
theorem ofOffset_unique (t : Text) {i : Int} (h0 : 0 ≤ i) (hlen : i ≤ t.length) :
    (∀ line column, t.Names line column i ↔
        line = (ofOffset t i).line ∧ column = (ofOffset t i).column) ∧
      t.offsetAt (ofOffset t i).line (ofOffset t i).column = i ∧
      ∀ j, i < j → j ≤ t.length →
        (ofOffset t i).line < (ofOffset t j).line ∨
          ((ofOffset t i).line = (ofOffset t j).line ∧
            (ofOffset t i).column < (ofOffset t j).column) := by
  have hnames := ofOffset_names h0 hlen
  refine ⟨fun line column => ⟨fun h => h.unique hnames, ?_⟩, hnames.offset_eq.symm,
    fun j hij hj => ?_⟩
  · rintro ⟨rfl, rfl⟩
    exact hnames
  · exact (hnames.lt_iff (ofOffset_names (by omega) hj)).mp hij

/-- Between two line ends in a row, in a text that ends with one: the line is empty, and its only
column is the first. The offset behind the last line end is on a line of its own. -/
theorem ofOffset_unique_empty_line :
    let t : Text := "ab\n\ncd\n".toList
    (0 ≤ (3 : Int) ∧ (3 : Int) ≤ t.length) ∧ t.lines = ["ab".toList, [], "cd".toList, []] ∧
      (∀ line column, t.Names line column 3 ↔ line = 2 ∧ column = 1) ∧ t.offsetAt 2 1 = 3 ∧
      ofOffset t 7 = ⟨4, 1, 7⟩ ∧
      ((ofOffset t 3).line < (ofOffset t 7).line ∨
        ((ofOffset t 3).line = (ofOffset t 7).line ∧
          (ofOffset t 3).column < (ofOffset t 7).column)) := by
  intro t
  obtain ⟨hnames, hoffset, horder⟩ := ofOffset_unique t (i := 3) (by decide) (by decide)
  exact ⟨by decide, by decide, hnames, hoffset, by decide, horder 7 (by decide) (by decide)⟩

end Location

/-! ## Locations along the way -/

namespace Text

/-- The offset of the last line end, if there is one. -/
def lastLineEnd? (t : Text) : Option Nat := (t.reverse.idxOf? newline).map (t.length - 1 - ·)

/-- A text without line ends has no last one. -/
theorem lastLineEnd?_of_not_mem {t : Text} (h : newline ∉ t) : t.lastLineEnd? = none := by
  have hreverse : newline ∉ t.reverse := fun hmem => h (List.mem_reverse.mp hmem)
  unfold lastLineEnd?
  rw [List.idxOf?_eq_none_iff.mpr hreverse, Option.map_none]

/-- The last line end is the one with no other behind it. -/
theorem lastLineEnd?_append {last : Text} (h : newline ∉ last) (front : Text) :
    lastLineEnd? (front ++ newline :: last) = some front.length := by
  have hreverse : newline ∉ last.reverse := fun hmem => h (List.mem_reverse.mp hmem)
  have hfirst : (last.reverse ++ newline :: front.reverse).idxOf? newline = some last.length := by
    have hnone : last.reverse.findIdx? (· == newline) = none := List.idxOf?_eq_none_iff.mpr hreverse
    unfold List.idxOf?
    rw [List.findIdx?_append, hnone, Option.none_or, List.findIdx?_cons]
    simp
  unfold lastLineEnd?
  rw [List.reverse_append, List.reverse_cons, List.append_assoc, List.singleton_append, hfirst,
    Option.map_some, List.length_append, List.length_cons]
  congr 1
  omega

end Text

namespace Location

/-- The location after a text has been passed, told from the location before and the text alone. -/
def advance (l : Location) (v : Text) : Location where
  line := l.line + v.lineEnds
  column :=
    match v.lastLineEnd? with
    | none => l.column + v.length
    | some i => v.length - i
  offset := l.offset + v.length

/-- Passing nothing leaves the location. -/
theorem advance_nil (l : Location) : l.advance [] = l := by
  obtain ⟨line, column, offset⟩ := l
  show Location.mk (line + 0) (column + 0) (offset + 0) = _
  rw [Int.add_zero, Int.add_zero, Int.add_zero]

/-- The location behind a part of a text is the one before it, advanced by the part. -/
theorem ofOffset_add (before v rest : Text) :
    ofOffset (before ++ (v ++ rest)) (before.length + v.length) =
      (ofOffset (before ++ (v ++ rest)) before.length).advance v := by
  have hbehind := ofOffset_append (before ++ v) rest
  rw [List.append_assoc, List.length_append, Int.natCast_add, List.count_append] at hbehind
  rw [hbehind, ofOffset_append]
  unfold advance
  congr 1
  · show ((before.count Text.newline + v.count Text.newline : Nat) : Int) + 1 =
      before.count Text.newline + 1 + v.count Text.newline
    omega
  · show (((before ++ v).reverse.takeWhile (· != Text.newline)).length : Int) + 1 = _
    by_cases hmem : Text.newline ∈ v
    · -- The column starts over behind the last line end of the part, whatever came before the part.
      obtain ⟨front, last, rfl, hlast⟩ := Text.exists_last_lineEnd hmem
      have hcolumn := Text.length_takeWhile_reverse hlast (before ++ front)
      rw [List.append_assoc] at hcolumn
      rw [Text.lastLineEnd?_append hlast, hcolumn]
      dsimp only
      rw [List.length_append, List.length_cons]
      omega
    · have hcolumn := Text.length_takeWhile_reverse_append hmem before
      rw [Text.lastLineEnd?_of_not_mem hmem, hcolumn]
      dsimp only
      show _ = ((before.reverse.takeWhile (· != Text.newline)).length : Int) + 1 + v.length
      omega

end Location

end TextScan
