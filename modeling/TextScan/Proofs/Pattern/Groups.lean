import TextScan.Proofs.Pattern.Build

/-!
# The groups of a compiled pattern

The source of a pattern opens remembered groups, some of them under a name (`Regex.groupsOf`). They
are numbered from one on, in order of their opening parentheses, and three places keep to these
numbers (`Regex.groups_of_compile`): the tree has each group once, in that order
(`Node.captures`), the count of groups is that of the source, and the table of names has the named
groups in order, each with its number and no name twice.

While a pattern is read, the groups of the tree are spread over the innermost level and the levels
around the open groups (`Builder.captures`). Closing a group puts its items together and loses none.
A choice keeps two branches only, so this needs that it never has a third (`Level.FitsIn`).
-/

namespace TextScan

/-! ## Groups in the source and in the tree -/

/-- The remembered groups that the source of a pattern opens, in order of their opening parentheses,
each by its name if it has one. -/
def Regex.groupsOf (source : Text) (mask : Int) : List (Option String) :=
  Builder.opened source.length 0 (Builder.start (.ofMask mask)) (Token.split 0 source)

/-- The names among groups, each with the number of its group, which counts from one. -/
def Regex.numbered (groups : List (Option String)) : List (String × Nat) :=
  (groups.zipIdx 1).filterMap fun group => group.1.map (·, group.2)

/-- The numbers of the groups of a tree, in order of their opening parentheses. -/
def Node.captures : Node → List Nat
  | .empty | .chars _ | .anchor _ | .backref .. => []
  | .seq a b | .alt a b | .cond _ a b => a.captures ++ b.captures
  | .group i body => i :: body.captures
  | .loop _ _ _ body | .atomic body | .look _ _ body => body.captures

/-- A further group is the last one, and has the next number. -/
theorem Regex.numbered_concat (groups : List (Option String)) (name : Option String) :
    numbered (groups ++ [name]) =
      numbered groups ++ (name.map (·, groups.length + 1)).toList := by
  unfold numbered
  rw [List.zipIdx_append, List.filterMap_append, List.zipIdx_singleton, Nat.add_comm 1,
    List.filterMap_cons, List.filterMap_nil]
  cases name <;> rfl

/-- A name has a number exactly if the group with that number has the name. -/
theorem Regex.mem_numbered {groups : List (Option String)} {name : String} {i : Nat} :
    (name, i) ∈ numbered groups ↔ 1 ≤ i ∧ groups[i - 1]? = some (some name) := by
  unfold numbered
  rw [List.mem_filterMap]
  constructor
  · rintro ⟨⟨group, j⟩, hmem, hname⟩
    obtain ⟨n, rfl, hpair⟩ := Option.map_eq_some_iff.mp hname
    obtain ⟨rfl, rfl⟩ := Prod.mk.inj hpair
    exact List.mem_zipIdx_iff_le_and_getElem?_sub.mp hmem
  · intro h
    exact ⟨(some name, i), List.mem_zipIdx_iff_le_and_getElem?_sub.mpr h, rfl⟩

/-! ## Levels -/

namespace Level

variable {l : Level}

/-- The groups of items that are read one after the other. -/
theorem captures_foldl_seq (items : List Node) (last : Node) :
    (items.foldl (fun acc n => .seq n acc) last).captures =
      items.reverse.flatMap Node.captures ++ last.captures := by
  induction items generalizing last with
  | nil => rfl
  | cons n items ih => rw [List.foldl_cons, ih, Node.captures]; simp

/-- The groups of alternatives. -/
theorem captures_foldl_alt (alts : List Node) (last : Node) :
    (alts.foldl (fun acc n => .alt n acc) last).captures =
      alts.reverse.flatMap Node.captures ++ last.captures := by
  induction alts generalizing last with
  | nil => rfl
  | cons n alts ih => rw [List.foldl_cons, ih, Node.captures]; simp

/-- The groups of the current alternative. -/
theorem captures_sequence (l : Level) :
    l.sequence.captures = l.items.reverse.flatMap Node.captures := by
  rw [sequence, captures_foldl_seq, Node.captures, List.append_nil]

/-- The groups of a level are those of its finished alternatives and those of the current one. -/
theorem captures_node (l : Level) :
    l.node.captures =
      l.alts.reverse.flatMap Node.captures ++ l.items.reverse.flatMap Node.captures := by
  rw [node, captures_foldl_alt, captures_sequence]

/-- A further item has the last groups. -/
theorem captures_push (l : Level) (n : Node) (tail : Tail) :
    (l.push n tail).node.captures = l.node.captures ++ n.captures := by
  rw [captures_node, captures_node]
  simp [push]

/-- A bar keeps the groups. -/
theorem captures_bar (l : Level) : l.bar.node.captures = l.node.captures := by
  rw [captures_node, captures_node]
  simp [bar, captures_sequence]

/-- An item that becomes the body of a loop keeps its groups. -/
theorem captures_quantify {item : Node} {items : List Node} (h : l.items = item :: items)
    (greed : Greed) (lo : Nat) (hi : Option Nat) (tail : Tail) :
    ({ l with items }.push (.loop greed lo hi item) tail).node.captures = l.node.captures := by
  rw [captures_push, captures_node, captures_node, h]
  simp [Node.captures]

/-- What has been read at a level fits into the groups around it: where it is in a choice, it has one
bar at most, and so on outwards. -/
def FitsIn (l : Level) : List Frame → Prop
  | [] => True
  | f :: frames =>
    (∀ group, f.scope = .condition group → l.alts.length ≤ 1) ∧ f.outer.FitsIn frames

/-- Only the number of bars counts. -/
theorem FitsIn.congr {l' : Level} {frames : List Frame} (h : l.FitsIn frames)
    (halts : l'.alts = l.alts) : l'.FitsIn frames := by
  cases frames with
  | nil => trivial
  | cons f frames =>
    obtain ⟨hbars, houter⟩ := h
    exact ⟨by rwa [halts], houter⟩

/-- A bar fits where a choice has none yet. -/
theorem FitsIn.bar {frames : List Frame} (h : l.FitsIn frames)
    (room : ∀ f others group, frames = f :: others → f.scope = .condition group → l.alts = []) :
    l.bar.FitsIn frames := by
  cases frames with
  | nil => trivial
  | cons f frames =>
    refine ⟨fun group hscope => ?_, h.2⟩
    show (l.sequence :: l.alts).length ≤ 1
    rw [room f frames group rfl hscope]
    exact Nat.le_refl 1

end Level

/-! ## States -/

/-- The number of the remembered group that is open, if it is one. -/
def Scope.captures : Scope → List Nat
  | .capture i => [i]
  | _ => []

/-- The groups around an open group, and the group itself. -/
def Frame.captures (f : Frame) : List Nat := f.outer.node.captures ++ f.scope.captures

namespace Builder

/-- The groups read so far, in order of their opening parentheses. -/
def captures (b : Builder) : List Nat :=
  b.frames.reverse.flatMap Frame.captures ++ b.level.node.captures

/-- The groups read so far are the ones that the source has opened, and are numbered in order. -/
structure Numbered (groups : List (Option String)) (b : Builder) : Prop where
  /-- There are as many as the source has opened. -/
  length_widths : b.widths.length = groups.length
  /-- The names are those of the source, with their numbers. -/
  names_eq : b.names = Regex.numbered groups
  /-- No name is given twice. -/
  nodup : (b.names.map Prod.fst).Nodup
  /-- The trees hold each group once. -/
  captures_eq : b.captures = List.range' 1 groups.length
  /-- No choice has more than two branches. -/
  fits : b.level.FitsIn b.frames

namespace Numbered

variable {groups : List (Option String)} {b : Builder}

/-- Before anything has been read there are no groups. -/
theorem start (flags : Flags) : Numbered [] (Builder.start flags) where
  length_widths := rfl
  names_eq := rfl
  nodup := List.nodup_nil
  captures_eq := rfl
  fits := trivial

/-- A change of the innermost level that keeps its groups. -/
theorem withLevel (h : b.Numbered groups) {l : Level}
    (hcaptures : l.node.captures = b.level.node.captures) (hfits : l.FitsIn b.frames) :
    (b.withLevel l).Numbered groups where
  length_widths := h.length_widths
  names_eq := h.names_eq
  nodup := h.nodup
  captures_eq := by
    rw [← h.captures_eq]
    unfold captures Builder.withLevel
    rw [hcaptures]
  fits := hfits

/-- Adding an item without groups. -/
theorem push (h : b.Numbered groups) {n : Node} (hn : n.captures = []) (tail : Tail) :
    (b.withLevel (b.level.push n tail)).Numbered groups := by
  refine h.withLevel ?_ (h.fits.congr rfl)
  rw [Level.captures_push, hn, List.append_nil]

/-- A step that opens no remembered group. -/
theorem unopened (h : b.Numbered groups) : b.Numbered (groups ++ none.toList) := by
  rwa [Option.toList_none, List.append_nil]

/-- Opening a group opens no remembered group but itself. -/
theorem captures_enter (b : Builder) (scope : Scope) (pos : Nat) (flags : Flags) :
    (b.enter scope pos flags).captures = b.captures ++ scope.captures := by
  have hempty : (Level.node { flags }).captures = [] := rfl
  unfold captures Builder.enter
  rw [hempty, List.reverse_cons, List.flatMap_append, List.flatMap_singleton, Frame.captures,
    List.append_nil, List.append_assoc]

/-- Opening a group that is not remembered. -/
theorem enter (h : b.Numbered groups) {scope : Scope} (hscope : scope.captures = []) (pos : Nat)
    (flags : Flags) : (b.enter scope pos flags).Numbered groups where
  length_widths := h.length_widths
  names_eq := h.names_eq
  nodup := h.nodup
  captures_eq := by rw [captures_enter, hscope, List.append_nil, h.captures_eq]
  fits := ⟨fun _ _ => Nat.zero_le 1, h.fits⟩

/-- Opening a remembered group gives it the next number, under its name if it has one. -/
theorem enterCapture (h : b.Numbered groups) {name : Option String}
    (fresh : ∀ n ∈ name, b.names.lookup n = none) (pos : Nat) (flags : Flags) :
    ({ b with
        widths := b.widths ++ [none]
        names := b.names ++ (name.map (·, b.widths.length + 1)).toList }.enter
      (.capture (b.widths.length + 1)) pos flags).Numbered (groups ++ [name]) where
  length_widths := by
    show (b.widths ++ [none]).length = _
    rw [List.length_append, List.length_append, h.length_widths]
    rfl
  names_eq := by
    show b.names ++ (name.map (·, b.widths.length + 1)).toList = _
    rw [Regex.numbered_concat, h.length_widths, h.names_eq]
  nodup := by
    show ((b.names ++ (name.map (·, b.widths.length + 1)).toList).map Prod.fst).Nodup
    cases name with
    | none =>
      rw [Option.map_none, Option.toList_none, List.append_nil]
      exact h.nodup
    | some n =>
      have hnew := List.lookup_eq_none_iff.mp (fresh n rfl)
      rw [Option.map_some, Option.toList_some, List.map_append, List.map_singleton]
      refine List.nodup_append.mpr ⟨h.nodup, List.pairwise_singleton _ n, ?_⟩
      intro a ha a' ha'
      obtain ⟨entry, hentry, rfl⟩ := List.mem_map.mp ha
      obtain rfl := List.mem_singleton.mp ha'
      exact (bne_iff_ne.mp (hnew entry hentry)).symm
  captures_eq := by
    rw [captures_enter]
    show b.captures ++ [b.widths.length + 1] = _
    rw [h.captures_eq, List.length_append, List.length_singleton, List.range'_1_concat,
      h.length_widths, Nat.add_comm 1]
  fits := ⟨fun _ _ => Nat.zero_le 1, h.fits⟩

/-- Closing a group adds one item to the level around it, which has the groups that were open and
those inside. -/
theorem close_spec (b : Builder) {f : Frame} (frames : List Frame)
    (hbars : ∀ group, f.scope = .condition group → b.level.alts.length ≤ 1) :
    (b.close f frames).frames = frames ∧ (b.close f frames).names = b.names ∧
      (b.close f frames).widths.length = b.widths.length ∧
      ∃ n, (b.close f frames).level = f.outer.push n ∧
        n.captures = f.scope.captures ++ b.level.node.captures := by
  obtain ⟨scope, start, outer⟩ := f
  unfold Builder.close
  cases scope with
  | plain => exact ⟨rfl, rfl, rfl, _, rfl, rfl⟩
  | capture i => exact ⟨rfl, rfl, List.length_set, _, rfl, rfl⟩
  | atomic => exact ⟨rfl, rfl, rfl, _, rfl, rfl⟩
  | look behind negative limit => exact ⟨rfl, rfl, rfl, _, rfl, rfl⟩
  | condition group =>
    have hlength := hbars group rfl
    have hnode := b.level.captures_node
    dsimp only
    split
    · rename_i halts
      refine ⟨rfl, rfl, rfl, _, rfl, ?_⟩
      rw [hnode, halts, Node.captures, Level.captures_sequence]
      exact List.append_nil _
    · rename_i yes others halts
      -- There is no third branch that could be lost.
      obtain rfl : others = [] := by
        rw [halts, List.length_cons] at hlength
        exact List.eq_nil_of_length_eq_zero (by omega)
      refine ⟨rfl, rfl, rfl, _, rfl, ?_⟩
      rw [hnode, halts, Node.captures, Level.captures_sequence]
      simp [Scope.captures]

/-- Closing a group loses none. -/
theorem close (h : b.Numbered groups) {f : Frame} {frames : List Frame}
    (hinner : b.frames = f :: frames) : (b.close f frames).Numbered groups := by
  have hfits := h.fits
  rw [hinner] at hfits
  obtain ⟨hbars, houter⟩ := hfits
  obtain ⟨hframes, hnames, hwidths, n, hlevel, hn⟩ := close_spec b frames hbars
  refine ⟨hwidths.trans h.length_widths, hnames.trans h.names_eq, ?_, ?_, ?_⟩
  · rw [hnames]
    exact h.nodup
  · rw [← h.captures_eq]
    unfold captures
    rw [hframes, hlevel, hinner, Level.captures_push, hn, List.reverse_cons, List.flatMap_append,
      List.flatMap_singleton, Frame.captures]
    simp only [List.append_assoc]
  · rw [hframes, hlevel]
    exact houter.congr rfl

/-- Every effect keeps the groups numbered, with the group that it opens. -/
theorem effect {b' : Builder} {opening : Option (Option String)} (he : Effect b opening b')
    (h : b.Numbered groups) : b'.Numbered (groups ++ opening.toList) := by
  cases he with
  | skip => exact h.unopened
  | setFlags flags =>
    have hb := h.withLevel (l := { b.level with flags }) rfl (h.fits.congr rfl)
    exact hb.unopened
  | chars set => exact (h.push (n := .chars set) rfl _).unopened
  | anchor a => exact (h.push (n := .anchor a) rfl _).unopened
  | backref group fold _ => exact (h.push (n := .backref group fold) rfl _).unopened
  | quantify greed lo hi item items hitems _ =>
    have hcaptures := Level.captures_quantify hitems greed lo hi .loop
    exact (h.withLevel hcaptures (h.fits.congr rfl)).unopened
  | bar room => exact (h.withLevel b.level.captures_bar (h.fits.bar room)).unopened
  | enterPlain pos flags => exact (h.enter rfl pos flags).unopened
  | enterAtomic pos => exact (h.enter rfl pos _).unopened
  -- What else a state keeps for later has no part in the groups.
  | enterLook behind negative pos =>
    have hb : Numbered groups { b with
        behind := if behind then b.behind.or (some (b.widths.length + 1)) else b.behind } :=
      ⟨h.length_widths, h.names_eq, h.nodup, h.captures_eq, h.fits⟩
    exact (hb.enter rfl pos _).unopened
  | enterCondition group pos choices =>
    have hb : Numbered groups { b with choices } :=
      ⟨h.length_widths, h.names_eq, h.nodup, h.captures_eq, h.fits⟩
    exact (hb.enter rfl pos _).unopened
  | enterCapture pos name fresh => exact h.enterCapture fresh pos _
  | close f frames hinner => exact (h.close hinner).unopened

end Numbered

end Builder

/-- The groups of a compiled pattern are those that its source opens, numbered in order of their
opening parentheses: in the count, in the table of names and in the tree. -/
theorem Regex.groups_of_compile {source : Text} {mask : Int} {r : Regex}
    (h : Regex.compile source mask = .ok r) :
    r.groups = (groupsOf source mask).length ∧ r.names = numbered (groupsOf source mask) ∧
      (r.names.map Prod.fst).Nodup ∧
      r.node.captures = List.range' 1 (groupsOf source mask).length := by
  obtain ⟨b, stray, hrun, hnode, hgroups, hnames⟩ := Regex.compile_eq_ok h
  have hb : b.Numbered (groupsOf source mask) :=
    Builder.run_invariant (P := Builder.Numbered) (fun _ _ _ _ he => Builder.Numbered.effect he) []
      (.start _) hrun
  have hcaptures := hb.captures_eq
  -- No group is open at the end, so the innermost level is the whole pattern.
  unfold Builder.captures at hcaptures
  rw [Builder.frames_of_run hrun, List.reverse_nil, List.flatMap_nil, List.nil_append] at hcaptures
  rw [hgroups, hnames, hnode]
  exact ⟨hb.length_widths, hb.names_eq, hb.nodup, hcaptures⟩

end TextScan
