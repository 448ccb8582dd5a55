import TextScan.Proofs.Pattern.Captures
import TextScan.Proofs.Pattern.Groups
import TextScan.Proofs.Scanner.Coherence

/-!
# The groups of a registered match

What a match attempt registers has the groups that the source of its pattern opens
(`Scanner.attempt_registers_groups`): as many as there are, and under each name the group with the
number of that name, so that a caller can ask by either. This takes three parts that know nothing of
each other: the reader of patterns numbers the groups (`Regex.groups_of_compile`), the matcher keeps
a place for each number (`Regex.length_groups_of_matchAt`), and the record of a match looks numbers
up in a list and names in a table (`Match.group_of_getElem?`, `Match.group_of_named`).

What a group holds is part of what the engine sees of the text. Where the pattern has no look-around
condition, it is part of the match.
-/

namespace TextScan

/-! ## Asking for groups -/

/-- Where no name stands twice, a name is looked up to the value that stands with it. -/
theorem lookup_of_mem {α : Type} {l : List (String × α)} (hl : (l.map Prod.fst).Nodup)
    {name : String} {value : α} (h : (name, value) ∈ l) : l.lookup name = some value := by
  obtain ⟨before, after, rfl⟩ := List.append_of_mem h
  rw [List.lookup_eq_some_iff]
  refine ⟨before, after, rfl, fun entry hentry => ?_⟩
  rw [List.map_append, List.map_cons, List.nodup_append] at hl
  have hne := hl.2.2 entry.1 (List.mem_map_of_mem hentry) name (List.mem_cons_self ..)
  exact bne_iff_ne.mpr hne.symm

namespace Match

variable {m : Match}

/-- Where a match has under each name the group with the number of that name, it gives this group if
asked for by the name. -/
theorem group_of_named {numbers : List (String × Nat)} (hnumbers : (numbers.map Prod.fst).Nodup)
    (hm : m.named = numbers.map fun n => (n.1, (m.groups[n.2 - 1]?).join)) {name : String} {i : Nat}
    (hi : (name, i) ∈ numbers) {g : Option Text} (h : m.groups[i - 1]? = some g) :
    m.group (.name name) = .ok g := by
  have honce : (m.named.map Prod.fst).Nodup := by
    rw [hm, List.map_map]
    exact hnumbers
  have hmem : (name, g) ∈ m.named := by
    rw [hm]
    exact List.mem_map.mpr ⟨(name, i), hi, by rw [h]; rfl⟩
  unfold group group?
  dsimp only
  rw [lookup_of_mem honce hmem]

/-- A match gives its groups by their numbers, which count from one. -/
theorem group_of_getElem? {i : Nat} (hi : 1 ≤ i) {g : Option Text} (h : m.groups[i - 1]? = some g) :
    m.group (.index i) = .ok g := by
  obtain ⟨j, rfl⟩ := Nat.exists_eq_add_of_le' hi
  have hslot : m.slots[j + 1]? = some g := by rwa [slots, List.getElem?_cons_succ]
  unfold group group?
  dsimp only
  rw [if_neg (by omega), if_neg (by omega), Int.toNat_natCast, hslot]

end Match

/-! ## What the engine finds -/

namespace RegexEngine

/-- What is found within a reach is the match at the place where it starts. -/
theorem matchAt_of_find {r : Regex} {reach : Reach} {t : Text} {p : Nat} {f : Regex.Found}
    (hp : p ≤ t.length) (h : find r reach t p = some f) : r.matchAt t f.start = some f := by
  cases reach with
  | anchored => rwa [(Regex.matchAt_bounds hp h).1]
  | ahead =>
    obtain ⟨q, -, hq, hmatch, -⟩ := Regex.searchFrom_eq_some_iff.mp h
    rwa [(Regex.matchAt_bounds hq hmatch).1]

variable {e : RegexEngine} {r : Regex} {reach : Reach} {t : Text} {p : Nat} {m : Match}
  (hp : p ≤ t.length) (h : e.exec r reach t p = some m)
include hp h

/-- A match that the engine finds is the record of one at some place of what it sees. -/
theorem exists_matchAt_of_exec :
    ∃ f, r.matchAt (t.drop (e.origin p)) f.start = some f ∧
      m = r.toMatch (t.drop (e.origin p)) (e.origin p) f := by
  rw [exec_eq e r reach hp] at h
  obtain ⟨f, hf, rfl⟩ := Option.map_eq_some_iff.mp h
  exact ⟨f, matchAt_of_find (e.sub_origin_le hp) hf, rfl⟩

/-- A match that the engine finds has as many groups as the pattern, and those with a name have the
same text under it. -/
theorem groups_of_exec :
    m.groups.length = r.groups ∧
      m.named = r.names.map fun n => (n.1, (m.groups[n.2 - 1]?).join) := by
  obtain ⟨f, hf, rfl⟩ := exists_matchAt_of_exec hp h
  refine ⟨?_, rfl⟩
  rw [← Regex.length_groups_of_matchAt hf]
  exact List.length_map _

/-- A group that is set holds part of what the engine sees, and without look-around conditions part
of the match. -/
theorem infix_of_exec {g : Text} (hg : some g ∈ m.groups) :
    g <:+: t.drop (e.origin p) ∧ (r.node.looksAround = false → g <:+: m.value) := by
  obtain ⟨f, hf, rfl⟩ := exists_matchAt_of_exec hp h
  obtain ⟨span?, hmem, hspan⟩ := List.mem_map.mp hg
  obtain ⟨span, rfl, rfl⟩ := Option.map_eq_some_iff.mp hspan
  refine ⟨Regex.spanText_infix _ span, fun hlook => ?_⟩
  obtain ⟨hstart, hstop⟩ := Regex.spans_of_matchAt hlook hf hmem
  exact Regex.spanText_infix_spanText _ hstart hstop

end RegexEngine

/-! ## What an attempt registers -/

namespace Scanner

/-- What the engine sees of the text of a scanner: all of it, or what comes after the cursor. -/
theorem drop_origin (e : RegexEngine) {s : Scanner} (hs : s.Coherent) :
    s.text.drop (e.origin s.pos.toNat) = if e.fixedAnchor then s.text else s.remainder := by
  unfold RegexEngine.origin remainder
  split
  · rw [List.drop_zero]
  · rw [Text.sliceFrom_eq hs.pos_nonneg hs.pos_le]

/-- A match attempt that succeeds registers the match that the engine has found. -/
theorem attempt_succeeds (e : RegexEngine) {s : Scanner} (hs : s.Coherent) {c : Cache}
    (hc : c.Faithful) {p : Pattern} {r : Regex} (hp : p.regex e.mask = .ok r) {reach : Reach}
    {use : Use} {a : Answer} (ha : a ≠ .none)
    (h : (s.step e.engine (.attempt reach use p) c).1.result = .ok a) :
    ∃ m, e.exec r reach s.text s.pos = some m ∧
      (s.step e.engine (.attempt reach use p) c).2.1.last = some m := by
  change (s.attempt e.engine reach use p c).1.result = .ok a at h
  change ∃ m, _ ∧ (s.attempt e.engine reach use p c).2.1.last = some m
  rw [attempt_of_compiles e reach use hp hs hc] at h ⊢
  cases hm : e.exec r reach s.text s.pos with
  | none =>
    rw [hm] at h
    exact absurd (Except.ok.inj h).symm ha
  | some m => exact ⟨m, rfl, rfl⟩

/-- A match attempt that succeeds registers a match with the groups of its pattern. The tree of the
pattern has the groups that its source opens, numbered in order of their opening parentheses. The
match has one entry for each of them, and its table of names has the groups with a name, in order,
each with the entry of its number: asking by the name and by the number is the same. An entry that is
set is part of what the engine sees of the text, and if the pattern has no look-around condition,
part of the match. -/
theorem attempt_registers_groups (e : RegexEngine) {s : Scanner} (hs : Reachable e.engine s)
    {c : Cache} (hc : c.Reachable) {p : Pattern} {r : Regex} (hp : p.regex e.mask = .ok r)
    {source : Text} {mask : Int} (hr : Regex.compile source mask = .ok r) (reach : Reach)
    (use : Use) {a : Answer} (ha : a ≠ .none)
    (hfound : (s.step e.engine (.attempt reach use p) c).1.result = .ok a) :
    let groups := Regex.groupsOf source mask
    let after := (s.step e.engine (.attempt reach use p) c).2.1
    let visible := if e.fixedAnchor then s.text else s.remainder
    r.node.captures = List.range' 1 groups.length ∧
      ∃ m, after.last = some m ∧ m.groups.length = groups.length ∧
        m.named = (Regex.numbered groups).map (fun n => (n.1, (m.groups[n.2 - 1]?).join)) ∧
        (∀ name i, (name, i) ∈ Regex.numbered groups →
          ∃ g, m.groups[i - 1]? = some g ∧ after.groupAt (.name name) = .ok g ∧
            after.groupAt (.index i) = .ok g) ∧
        ∀ g, some g ∈ m.groups →
          g <:+: visible ∧ (r.node.looksAround = false → g <:+: m.value) := by
  intro groups after visible
  have hs := hs.coherent
  obtain ⟨hcount, hnames, hnodup, hcaptures⟩ := Regex.groups_of_compile hr
  obtain ⟨m, hm, hlast⟩ := attempt_succeeds e hs hc.faithful hp ha hfound
  have hpos : ((s.pos.toNat : Nat) : Int) = s.pos := Int.toNat_of_nonneg hs.pos_nonneg
  have hle : s.pos.toNat ≤ s.text.length := by
    have hpos_le : s.pos ≤ s.text.length := hs.pos_le
    omega
  rw [← hpos] at hm
  obtain ⟨hlength, hnamed⟩ := RegexEngine.groups_of_exec hle hm
  rw [hcount] at hlength
  rw [hnames] at hnamed hnodup
  refine ⟨hcaptures, m, hlast, hlength, hnamed, fun name i hi => ?_, fun g hg => ?_⟩
  · -- The number of a name is that of a group, so the match has an entry for it.
    obtain ⟨h1, hgroup⟩ := Regex.mem_numbered.mp hi
    have hlt : i - 1 < m.groups.length := by
      rw [hlength]
      exact (List.getElem?_eq_some_iff.mp hgroup).1
    have hentry : m.groups[i - 1]? = some m.groups[i - 1] := List.getElem?_eq_getElem hlt
    refine ⟨m.groups[i - 1], hentry, ?_, ?_⟩
    · unfold groupAt
      rw [hlast]
      exact Match.group_of_named hnodup hnamed hi hentry
    · unfold groupAt
      rw [hlast]
      exact Match.group_of_getElem? h1 hentry
  · have hvisible : visible = s.text.drop (e.origin s.pos.toNat) := (drop_origin e hs).symm
    rw [hvisible]
    exact RegexEngine.infix_of_exec hle hm hg

/-- A named group, a repeated one and a named one that takes no part, found behind the cursor by an
engine that does not see what lies before it: the match has three groups and two names. -/
theorem attempt_registers_groups_repeated :
    let e : RegexEngine := { fixedAnchor := false }
    let s : Scanner := { text := "-=k=12".toList, pos := 1 }
    let source : Text := "(?P<key>[a-z])=([0-9])*(?P<unit>%)?".toList
    let after := (s.step e.engine (.attempt .ahead .scan (.source source)) {}).2.1
    Reachable e.engine s ∧
      Regex.groupsOf source e.mask = [some "key", none, some "unit"] ∧
      (∃ r, Regex.compile source e.mask = .ok r ∧ r.node.captures = [1, 2, 3]) ∧
      after.last = some ⟨2, 6, "k=12".toList, [some "k".toList, some "2".toList, none],
        [("key", some "k".toList), ("unit", none)]⟩ ∧
      after.groupAt (.name "unit") = after.groupAt (.index 3) ∧
      "k".toList <:+: s.remainder ∧ "2".toList <:+: "k=12".toList := by
  intro e s source after
  have hs : Reachable e.engine s := ⟨"-=k=12".toList, {}, [.read 1], by decide +kernel⟩
  obtain ⟨r, hr, hlook⟩ : ∃ r, Regex.compile source e.mask = .ok r ∧
      r.node.looksAround = false := ⟨_, rfl, rfl⟩
  have hp : (Pattern.source source).regex e.mask = .ok r := hr
  have hgroups : Regex.groupsOf source e.mask = [some "key", none, some "unit"] := by decide +kernel
  have hlast : after.last = some ⟨2, 6, "k=12".toList, [some "k".toList, some "2".toList, none],
      [("key", some "k".toList), ("unit", none)]⟩ := by decide +kernel
  have hfound : (s.step e.engine (.attempt .ahead .scan (.source source)) {}).1.result =
      .ok (.text "=k=12".toList) := rfl
  obtain ⟨hcaptures, m, hm, -, -, hnames, hparts⟩ :=
    attempt_registers_groups e hs .empty hp hr .ahead .scan (by simp) hfound
  rw [hgroups] at hcaptures hnames
  obtain rfl := Option.some.inj (hlast.symm.trans hm)
  obtain ⟨g, -, hname, hindex⟩ := hnames "unit" 3 (by decide)
  exact ⟨hs, hgroups, ⟨r, hr, hcaptures⟩, hlast, hname.trans hindex.symm,
    (hparts "k".toList (by decide)).1, (hparts "2".toList (by decide)).2 hlook⟩

end Scanner

end TextScan
