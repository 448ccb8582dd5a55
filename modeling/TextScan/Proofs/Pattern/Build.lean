import TextScan.Pattern.Regex

/-!
# What reading a pattern does

`Builder.Effect` lists what one step of the machine that reads a pattern can do to its state, with
the remembered group that the step opens, if it opens one. `Builder.step_effect` shows that a step
does one of these, and that the group is the one that the source opens there
(`Token.opensGroup`). What every effect keeps holds of the final state and of the groups that the
source opens (`Builder.run_invariant`), so of the tree that a pattern stands for.

One such invariant is that the bounds of all loops are in order: a quantifier whose bounds are not is
refused (`Regex.ordered_of_compile`).
-/

namespace TextScan

/-! ## Groups in the source -/

/-- The remembered group that an opening starts, by its name if it has one. -/
def Opening.group? : Opening → Option (Option String)
  | .capture name => some (name.map fun n => String.ofList n.1)
  | _ => none

/-- The remembered group that a token opens, where `ts` comes after it in the source: what an opening
parenthesis starts is said behind it. -/
def Token.opensGroup (size : Nat) (t : Token) (ts : List Token) : Option (Option String) :=
  if t.is '(' then
    match readOpening size t.pos ts with
    | .ok (opening, _) => opening.group?
    | .error _ => none
  else none

/-- Only an opening parenthesis opens a group. -/
theorem Token.opensGroup_of_ne {c : Char} (hc : c ≠ '(') (size pos : Nat) (ts : List Token) :
    (Token.plain c pos).opensGroup size ts = none :=
  if_neg (by simpa [Token.is] using hc)

/-- An opening parenthesis opens the group that is read behind it. -/
theorem Token.opensGroup_of_readOpening {size pos : Nat} {ts rest : List Token} {opening : Opening}
    (h : readOpening size pos ts = .ok (opening, rest)) :
    (Token.plain '(' pos).opensGroup size ts = opening.group? := by
  show (match readOpening size pos ts with
    | .ok (opening, _) => opening.group?
    | .error _ => none) = _
  rw [h]

/-! ## Effects of a step -/

/-- What a step can do to the state of the machine, with the remembered group that it opens. -/
inductive Builder.Effect (b : Builder) : Option (Option String) → Builder → Prop
  /-- Nothing: a blank or a comment. -/
  | skip : Effect b none b
  /-- Flags are set for the whole pattern. -/
  | setFlags (flags : Flags) : Effect b none (b.withLevel { b.level with flags })
  /-- A set of characters is added. -/
  | chars (set : CharSet) : Effect b none (b.withLevel (b.level.push (.chars set)))
  /-- An anchor is added. -/
  | anchor (a : Anchor) : Effect b none (b.withLevel (b.level.pushAnchor a))
  /-- A reference to a closed group is added. -/
  | backref (group : Nat) (fold : Fold) (closed : b.isClosed group = true) :
    Effect b none (b.withLevel (b.level.push (.backref group fold)))
  /-- The last item becomes the body of a loop whose bounds are in order. -/
  | quantify (greed : Greed) (lo : Nat) (hi : Option Nat) (item : Node) (items : List Node)
    (last : b.level.items = item :: items) (ordered : ∀ m ∈ hi, lo ≤ m) :
    Effect b none (b.withLevel ({ b.level with items }.push (.loop greed lo hi item) .loop))
  /-- An alternative ends and another starts; in a choice, it is the first that ends. -/
  | bar (room : ∀ f frames group, b.frames = f :: frames → f.scope = .condition group →
      b.level.alts = []) : Effect b none (b.withLevel b.level.bar)
  /-- A group that is not remembered is opened. -/
  | enterPlain (pos : Nat) (flags : Flags) : Effect b none (b.enter .plain pos flags)
  /-- A group that matches in its first way only is opened. -/
  | enterAtomic (pos : Nat) : Effect b none (b.enter .atomic pos b.level.flags)
  /-- A look-around condition is opened. -/
  | enterLook (behind negative : Bool) (pos : Nat) : Effect b none (b.enterLook behind negative pos)
  /-- A choice that depends on a group is opened. -/
  | enterCondition (group pos : Nat) (choices : List (Nat × Nat)) :
    Effect b none ({ b with choices }.enter (.condition group) pos b.level.flags)
  /-- A remembered group is opened, under a new name or under none. -/
  | enterCapture (pos : Nat) (name : Option String)
    (fresh : ∀ n ∈ name, b.names.lookup n = none) :
    Effect b (some name)
      ({ b with
          widths := b.widths ++ [none]
          names := b.names ++ (name.map (·, b.widths.length + 1)).toList }.enter
        (.capture (b.widths.length + 1)) pos b.level.flags)
  /-- The innermost group is closed. -/
  | close (f : Frame) (frames : List Frame) (inner : b.frames = f :: frames) :
    Effect b none (b.close f frames)

/-! ## Readers that give a value -/

/-- A computation that goes on after another gives a value exactly if both do. -/
theorem Compiled.bind_eq_ok {α β : Type} {x : Compiled α} {f : α → Compiled β} {b : β} :
    (x >>= f) = .ok b ↔ ∃ a, x = .ok a ∧ f a = .ok b := by
  cases x with
  | error e => simp [bind, Except.bind]
  | ok a => simp [bind, Except.bind]

/-- A defect is no value. -/
theorem malformedAt_ne_ok {α : Type} {d : Defect} {p : Nat} {a : α} :
    malformedAt d p ≠ .ok a := by
  simp [malformedAt]

open Compiled

/-- Bounds that are not in order are refused. -/
theorem ordered_of_bounds {least pos lo : Nat} {most hi : Option Nat} {ts rest : List Token}
    (h : (match most with
      | some m =>
        if m < least then malformedAt .boundsReversed pos else .ok (some (least, most), ts)
      | none => .ok (some (least, none), ts)) = Except.ok (some (lo, hi), rest)) :
    ∀ m ∈ hi, lo ≤ m := by
  split at h
  · rename_i m
    split at h
    · exact absurd h malformedAt_ne_ok
    · rename_i hle
      simp only [Except.ok.injEq, Prod.mk.injEq, Option.some.injEq] at h
      obtain ⟨⟨rfl, rfl⟩, -⟩ := h
      intro m' hm'
      obtain rfl := Option.some.inj hm'
      exact Nat.not_lt.mp hle
  · simp only [Except.ok.injEq, Prod.mk.injEq, Option.some.injEq] at h
    obtain ⟨⟨rfl, rfl⟩, -⟩ := h
    simp

/-- The bounds that a quantifier between braces gives are in order. -/
theorem ordered_of_readBounds {pos lo : Nat} {hi : Option Nat} {ts rest : List Token}
    (h : Quantifier.readBounds pos ts = .ok (some (lo, hi), rest)) : ∀ m ∈ hi, lo ≤ m := by
  unfold Quantifier.readBounds at h
  split at h
  · simp at h
  · obtain ⟨⟨lower, ts₁⟩, -, h⟩ := bind_eq_ok.mp h
    obtain ⟨⟨comma, ts₂⟩, -, h⟩ := bind_eq_ok.mp h
    dsimp only at h
    -- With a comma another number is read, and without one the first is used twice.
    split at h
    all_goals
      obtain ⟨⟨upper, ts₃⟩, -, h⟩ := bind_eq_ok.mp h
      obtain ⟨⟨closed, ts₄⟩, -, h⟩ := bind_eq_ok.mp h
      dsimp only at h
      split at h
      · simp at h
      · obtain ⟨least, -, h⟩ := bind_eq_ok.mp h
        obtain ⟨most, -, h⟩ := bind_eq_ok.mp h
        exact ordered_of_bounds h

/-- The bounds that a quantifier gives are in order. -/
theorem ordered_of_readQuantifier {c : Char} {pos lo : Nat} {hi : Option Nat} {ts rest : List Token}
    (h : readQuantifier c pos ts = .ok (some (lo, hi), rest)) : ∀ m ∈ hi, lo ≤ m := by
  unfold readQuantifier at h
  split at h
  · obtain ⟨⟨rfl, rfl⟩, -⟩ : (0 = lo ∧ some 1 = hi) ∧ ts = rest := by simpa using h
    simp
  · obtain ⟨⟨rfl, rfl⟩, -⟩ : (0 = lo ∧ none = hi) ∧ ts = rest := by simpa using h
    simp
  · obtain ⟨⟨rfl, rfl⟩, -⟩ : (1 = lo ∧ none = hi) ∧ ts = rest := by simpa using h
    simp
  · exact ordered_of_readBounds h

namespace Builder

variable {b b' : Builder} {ts rest : List Token}

/-- A quantifier that stands for itself adds its character, and any other makes a loop. -/
theorem takeQuantifier_effect {c : Char} {pos : Nat}
    (h : b.takeQuantifier c pos ts = .ok (b', rest)) : Effect b none b' := by
  unfold takeQuantifier at h
  obtain ⟨⟨bounds, ts₁⟩, hbounds, h⟩ := bind_eq_ok.mp h
  dsimp only at h
  split at h
  · obtain ⟨rfl, -⟩ := Prod.mk.inj (Except.ok.inj h)
    exact .chars _
  · rename_i lo hi
    split at h
    · exact absurd h malformedAt_ne_ok
    · rename_i item items htail hitems
      obtain ⟨⟨greed, ts₂⟩, -, h⟩ := bind_eq_ok.mp h
      obtain ⟨rfl, -⟩ := Prod.mk.inj (Except.ok.inj h)
      exact .quantify greed lo hi item items hitems (ordered_of_readQuantifier hbounds)
    · exact absurd h malformedAt_ne_ok

/-- A reference by number adds a reference to a closed group. -/
theorem referByNumber_effect {group pos here : Nat}
    (h : b.referByNumber group pos here = .ok b') : Effect b none b' := by
  unfold referByNumber at h
  dsimp only at h
  split at h
  · simp [malformedAt, bind, Except.bind] at h
  · split at h
    · simp [malformedAt, bind, Except.bind] at h
    · rename_i hclosed
      obtain ⟨-, -, h⟩ := bind_eq_ok.mp h
      obtain rfl := Except.ok.inj h
      exact .backref group _ (by simpa using hclosed)

/-- A reference by name adds a reference to a closed group. -/
theorem referByName_effect {name : Text} {pos here : Nat}
    (h : b.referByName name pos here = .ok b') : Effect b none b' := by
  unfold referByName at h
  split at h
  · exact absurd h malformedAt_ne_ok
  · rename_i group hgroup
    dsimp only at h
    split at h
    · simp [malformedAt, bind, Except.bind] at h
    · rename_i hclosed
      obtain ⟨-, -, h⟩ := bind_eq_ok.mp h
      obtain rfl := Except.ok.inj h
      exact .backref group _ (by simpa using hclosed)

/-- Finding the group that a choice depends on at most notes that it was used. -/
theorem conditionGroup_eq {text : Text} {pos group : Nat}
    (h : b.conditionGroup text pos = .ok (group, b')) : ∃ choices, b' = { b with choices } := by
  unfold conditionGroup at h
  split at h
  · split at h
    · obtain ⟨-, rfl⟩ := Prod.mk.inj (Except.ok.inj h)
      exact ⟨b.choices, rfl⟩
    · exact absurd h malformedAt_ne_ok
  · split at h
    · exact absurd h malformedAt_ne_ok
    · exact absurd h malformedAt_ne_ok
    · split at h
      · exact absurd h malformedAt_ne_ok
      · split at h
        · obtain ⟨-, rfl⟩ := Prod.mk.inj (Except.ok.inj h)
          exact ⟨b.choices, rfl⟩
        · obtain ⟨-, rfl⟩ := Prod.mk.inj (Except.ok.inj h)
          exact ⟨_, rfl⟩

/-- A remembered group is opened under a new name or under none. -/
theorem enterCapture_effect {name : Option (Text × Nat)} {pos : Nat}
    (h : b.enterCapture name pos = .ok b') : Effect b (Opening.capture name).group? b' := by
  unfold enterCapture at h
  dsimp only at h
  split at h
  · obtain rfl := Except.ok.inj h
    have heffect := Effect.enterCapture (b := b) pos none (by simp)
    rwa [Option.map_none, Option.toList_none, List.append_nil] at heffect
  · rename_i text namePos
    split at h
    · exact absurd h malformedAt_ne_ok
    · rename_i hfresh
      obtain rfl := Except.ok.inj h
      exact .enterCapture pos (some (String.ofList text)) (by simpa using hfresh)

/-- Flags for the whole pattern are set at the innermost level, which then is the only one. -/
theorem setGlobals_effect {flags : Flags} {pos : Nat} (h : b.setGlobals flags pos = .ok b') :
    Effect b none b' := by
  unfold setGlobals at h
  split at h
  · obtain rfl := Except.ok.inj h
    exact .setFlags _
  · exact absurd h malformedAt_ne_ok

/-- What an opening parenthesis starts is one of the effects. -/
theorem applyOpening_effect {pos here : Nat} {opening : Opening}
    (h : b.applyOpening pos here opening = .ok b') : Effect b opening.group? b' := by
  cases opening with
  | capture name => exact enterCapture_effect h
  | plain added removed =>
    obtain rfl := Except.ok.inj h
    exact .enterPlain pos _
  | atomic =>
    obtain rfl := Except.ok.inj h
    exact .enterAtomic pos
  | look behind negative =>
    obtain rfl := Except.ok.inj h
    exact .enterLook behind negative pos
  | condition text namePos =>
    obtain ⟨⟨group, b₁⟩, hgroup, h⟩ := bind_eq_ok.mp h
    obtain ⟨-, -, h⟩ := bind_eq_ok.mp h
    obtain rfl := Except.ok.inj h
    obtain ⟨choices, rfl⟩ := conditionGroup_eq hgroup
    exact .enterCondition group pos choices
  | reference name namePos => exact referByName_effect h
  | globalFlags flags => exact setGlobals_effect h
  | comment =>
    obtain rfl := Except.ok.inj h
    exact .skip

/-- An escape adds a set of characters, an anchor or a reference. -/
theorem takeEscape_effect {size : Nat} {c : Char} {pos : Nat}
    (h : b.takeEscape size c pos ts = .ok (b', rest)) : Effect b none b' := by
  unfold takeEscape at h
  obtain ⟨⟨escape, ts₁⟩, -, h⟩ := bind_eq_ok.mp h
  cases escape with
  | item i =>
    obtain ⟨rfl, -⟩ := Prod.mk.inj (Except.ok.inj h)
    exact .chars _
  | textStart | textEnd | wordEdge | noWordEdge =>
    obtain ⟨rfl, -⟩ := Prod.mk.inj (Except.ok.inj h)
    exact .anchor _
  | reference group =>
    obtain ⟨b₁, href, h⟩ := bind_eq_ok.mp h
    obtain ⟨rfl, -⟩ := Prod.mk.inj (Except.ok.inj h)
    exact referByNumber_effect href

/-- A plain character and what belongs to it have one of the effects. -/
theorem takePlain_effect {size : Nat} {c : Char} {pos : Nat}
    (h : b.takePlain size c pos ts = .ok (b', rest)) :
    Effect b ((Token.plain c pos).opensGroup size ts) b' := by
  unfold takePlain at h
  dsimp only at h
  split at h
  · rename_i hblank
    have hc : c ≠ '(' := by
      rintro rfl
      simp [Unicode.isAsciiBlank] at hblank
    rw [Token.opensGroup_of_ne hc]
    obtain ⟨rfl, -⟩ := Prod.mk.inj (Except.ok.inj h)
    exact .skip
  · split at h
    · rename_i hcomment
      have hc : c ≠ '(' := by
        rintro rfl
        simp at hcomment
      rw [Token.opensGroup_of_ne hc]
      cases hline : Opening.skipLine ts with
      | error e => simp [hline, Except.map] at h
      | ok rest' =>
        rw [hline] at h
        obtain ⟨rfl, -⟩ := Prod.mk.inj (Except.ok.inj h)
        exact .skip
    · split at h
      · obtain ⟨⟨⟨negated, items⟩, ts₁⟩, -, h⟩ := bind_eq_ok.mp h
        obtain ⟨rfl, -⟩ := Prod.mk.inj (Except.ok.inj h)
        exact .chars _
      · obtain ⟨⟨opening, ts₁⟩, hread, h⟩ := bind_eq_ok.mp h
        obtain ⟨b₁, hopening, h⟩ := bind_eq_ok.mp h
        obtain ⟨rfl, -⟩ := Prod.mk.inj (Except.ok.inj h)
        rw [Token.opensGroup_of_readOpening hread]
        exact applyOpening_effect hopening
      · obtain ⟨rfl, -⟩ := Prod.mk.inj (Except.ok.inj h)
        exact .chars _
      · obtain ⟨rfl, -⟩ := Prod.mk.inj (Except.ok.inj h)
        exact .anchor _
      · obtain ⟨rfl, -⟩ := Prod.mk.inj (Except.ok.inj h)
        exact .anchor _
      · exact takeQuantifier_effect h
      · exact takeQuantifier_effect h
      · exact takeQuantifier_effect h
      · exact takeQuantifier_effect h
      · rename_i hparen _ _ _ _ _ _ _
        rw [Token.opensGroup_of_ne hparen]
        obtain ⟨rfl, -⟩ := Prod.mk.inj (Except.ok.inj h)
        exact .chars _

/-- A bar ends an alternative. -/
theorem takeBar_effect {pos : Nat} (h : b.takeBar pos ts = .ok (b', rest)) :
    Effect b none b' := by
  unfold takeBar at h
  extract_lets full at h
  split at h
  · exact absurd h malformedAt_ne_ok
  · rename_i hfull
    obtain ⟨-, -, h⟩ := bind_eq_ok.mp h
    obtain ⟨rfl, -⟩ := Prod.mk.inj (Except.ok.inj h)
    refine .bar fun f frames group hframes hscope => ?_
    obtain ⟨scope, start, outer⟩ := f
    obtain rfl : scope = .condition group := hscope
    simpa [full, hframes] using hfull

/-- A step has one of the effects, and opens the group that the source opens there. -/
theorem step_effect {size : Nat} {t : Token} (h : b.step size t ts = .ok (b', rest)) :
    Effect b (t.opensGroup size ts) b' := by
  unfold step at h
  split at h
  · exact absurd h malformedAt_ne_ok
  · obtain ⟨-, -, h⟩ := bind_eq_ok.mp h
    exact takeEscape_effect h
  · exact takeBar_effect h
  · split at h
    · exact absurd h malformedAt_ne_ok
    · rename_i f frames hframes
      obtain ⟨-, -, h⟩ := bind_eq_ok.mp h
      obtain ⟨rfl, -⟩ := Prod.mk.inj (Except.ok.inj h)
      exact .close f frames hframes
  · obtain ⟨-, -, h⟩ := bind_eq_ok.mp h
    exact takePlain_effect h

/-- The remembered groups that the source opens from here on, in order of their opening parentheses,
each by its name if it has one. The reading goes on as `run` does. -/
def opened (size : Nat) : (skip : Nat) → Builder → List Token → List (Option String)
  | _, _, [] => []
  | skip + 1, b, _ :: ts => opened size skip b ts
  | 0, b, t :: ts =>
    if b.isStray t then []
    else
      match b.step size t ts with
      | .ok (b', rest) =>
        (t.opensGroup size ts).toList ++ opened size (ts.length - rest.length) b' ts
      | .error _ => []

/-- What every effect keeps, of a state and of the groups opened on the way to it, holds where the
reading ends. -/
theorem run_invariant {P : List (Option String) → Builder → Prop}
    (heffect : ∀ groups b opening b', Effect b opening b' → P groups b →
      P (groups ++ opening.toList) b')
    {size skip : Nat} {stray : Option Nat} (groups : List (Option String)) (hb : P groups b)
    (h : run size skip b ts = .ok (b', stray)) : P (groups ++ opened size skip b ts) b' := by
  induction ts generalizing b skip groups with
  | nil =>
    unfold run at h
    split at h
    · obtain ⟨rfl, -⟩ := Prod.mk.inj (Except.ok.inj h)
      rwa [opened, List.append_nil]
    · exact absurd h malformedAt_ne_ok
  | cons t ts ih =>
    cases skip with
    | succ skip =>
      -- An earlier step has read this token already.
      exact ih groups hb h
    | zero =>
      unfold run at h
      rw [opened]
      split at h
      · -- A stray parenthesis ends the reading in the state reached.
        rename_i hstray
        obtain ⟨rfl, -⟩ := Prod.mk.inj (Except.ok.inj h)
        rwa [if_pos hstray, List.append_nil]
      · rename_i hmore
        obtain ⟨⟨b₁, rest⟩, hstep, h⟩ := bind_eq_ok.mp h
        rw [if_neg hmore, hstep]
        dsimp only
        rw [← List.append_assoc]
        exact ih _ (heffect groups b _ b₁ (step_effect hstep) hb) h

/-- The reading ends where no group is open. -/
theorem frames_of_run {size skip : Nat} {stray : Option Nat}
    (h : run size skip b ts = .ok (b', stray)) : b'.frames = [] := by
  induction ts generalizing b skip with
  | nil =>
    unfold run at h
    split at h
    · rename_i hframes
      obtain ⟨rfl, -⟩ := Prod.mk.inj (Except.ok.inj h)
      exact hframes
    · exact absurd h malformedAt_ne_ok
  | cons t ts ih =>
    cases skip with
    | succ skip => exact ih h
    | zero =>
      unfold run at h
      split at h
      · rename_i hstray
        obtain ⟨rfl, -⟩ := Prod.mk.inj (Except.ok.inj h)
        exact List.isEmpty_iff.mp (Bool.and_eq_true_iff.mp hstray).1
      · obtain ⟨⟨b₁, rest⟩, -, h⟩ := bind_eq_ok.mp h
        exact ih h

end Builder

/-- A compiled pattern has the tree, the groups and the names of the state in which the reading of
its source has ended. -/
theorem Regex.compile_eq_ok {source : Text} {mask : Int} {r : Regex}
    (h : Regex.compile source mask = .ok r) :
    ∃ b stray, Builder.run source.length 0 (Builder.start (.ofMask mask)) (Token.split 0 source) =
        .ok (b, stray) ∧
      r.node = b.level.node ∧ r.groups = b.widths.length ∧ r.names = b.names := by
  unfold Regex.compile at h
  obtain ⟨-, -, h⟩ := bind_eq_ok.mp h
  obtain ⟨⟨b, stray⟩, hrun, h⟩ := bind_eq_ok.mp h
  refine ⟨b, stray, hrun, ?_⟩
  simp only [Regex.ofBuilder] at h
  -- Every check at the end either refuses the pattern or changes nothing of the tree.
  split at h
  · simp at h
  · split at h
    · simp at h
    · split at h
      · exact absurd h malformedAt_ne_ok
      · exact absurd h malformedAt_ne_ok
      · simp at h
      · split at h
        · obtain rfl := Except.ok.inj h
          exact ⟨rfl, rfl, rfl⟩
        · simp at h

/-! ## Bounds in order -/

/-- The bounds of every loop of a tree are in order. -/
def Node.Ordered : Node → Prop
  | .seq a b | .alt a b | .cond _ a b => a.Ordered ∧ b.Ordered
  | .group _ body | .atomic body | .look _ _ body => body.Ordered
  | .loop _ lo hi body => (∀ m ∈ hi, lo ≤ m) ∧ body.Ordered
  | _ => True

/-- The bounds of all loops read at a level are in order. -/
structure Level.Ordered (l : Level) : Prop where
  /-- Those in the finished alternatives. -/
  alts : ∀ n ∈ l.alts, n.Ordered
  /-- Those in the current alternative. -/
  items : ∀ n ∈ l.items, n.Ordered

namespace Level.Ordered

variable {l : Level}

/-- An item whose loops are in order can be added. -/
theorem push (h : l.Ordered) {n : Node} (hn : n.Ordered) (tail : Tail) :
    (l.push n tail).Ordered where
  alts := h.alts
  items := List.forall_mem_cons.mpr ⟨hn, h.items⟩

/-- The current alternative as one tree. -/
theorem sequence (h : l.Ordered) : l.sequence.Ordered := by
  unfold Level.sequence
  refine List.foldlRecOn l.items _ trivial ?_
  intro acc hacc n hn
  exact ⟨h.items n hn, hacc⟩

/-- The whole level as one tree. -/
theorem node (h : l.Ordered) : l.node.Ordered := by
  unfold Level.node
  refine List.foldlRecOn l.alts _ h.sequence ?_
  intro acc hacc n hn
  exact ⟨h.alts n hn, hacc⟩

/-- A bar moves the current alternative to the finished ones. -/
theorem bar (h : l.Ordered) : l.bar.Ordered where
  alts := List.forall_mem_cons.mpr ⟨h.sequence, h.alts⟩
  items := by simp [Level.bar]

/-- A level at which nothing has been read. -/
theorem empty (flags : Flags) : Level.Ordered { flags } where
  alts := by simp
  items := by simp

end Level.Ordered

namespace Builder

/-- The bounds of all loops read so far are in order. -/
structure Ordered (b : Builder) : Prop where
  /-- Those at the innermost level. -/
  level : b.level.Ordered
  /-- Those around the open groups. -/
  frames : ∀ f ∈ b.frames, f.outer.Ordered

/-- Opening a group keeps the bounds in order. -/
theorem Ordered.enter {b : Builder} (h : b.Ordered) (scope : Scope) (pos : Nat) (flags : Flags) :
    (b.enter scope pos flags).Ordered where
  level := .empty flags
  frames := List.forall_mem_cons.mpr ⟨h.level, h.frames⟩

/-- Closing a group adds one item to the level around it. -/
theorem close_eq (b : Builder) (f : Frame) (frames : List Frame) :
    (b.close f frames).frames = frames ∧
      ∃ n, (b.close f frames).level = f.outer.push n ∧ (b.level.Ordered → n.Ordered) := by
  unfold close
  dsimp only
  split
  · exact ⟨rfl, _, rfl, fun h => h.node⟩
  · exact ⟨rfl, _, rfl, fun h => h.node⟩
  · exact ⟨rfl, _, rfl, fun h => h.node⟩
  · exact ⟨rfl, _, rfl, fun h => h.node⟩
  · split
    · exact ⟨rfl, _, rfl, fun h => ⟨h.sequence, trivial⟩⟩
    · rename_i yes rest halts
      refine ⟨rfl, _, rfl, fun h => ⟨h.alts yes ?_, h.sequence⟩⟩
      rw [halts]
      exact List.mem_cons_self

/-- Every effect keeps the bounds in order. -/
theorem Ordered.effect {b b' : Builder} {opening : Option (Option String)}
    (he : Effect b opening b') (h : b.Ordered) : b'.Ordered := by
  cases he with
  | skip => exact h
  | setFlags flags => exact ⟨⟨h.level.alts, h.level.items⟩, h.frames⟩
  | chars set => exact ⟨h.level.push (n := .chars set) trivial _, h.frames⟩
  | anchor a => exact ⟨h.level.push (n := .anchor a) trivial _, h.frames⟩
  | backref group fold _ => exact ⟨h.level.push (n := .backref group fold) trivial _, h.frames⟩
  | quantify greed lo hi item items hitems hbounds =>
    -- The last item leaves the list and comes back as the body of a loop.
    have hall := h.level.items
    rw [hitems, List.forall_mem_cons] at hall
    have hrest : Level.Ordered { b.level with items } := ⟨h.level.alts, hall.2⟩
    have hloop : (Node.loop greed lo hi item).Ordered := ⟨hbounds, hall.1⟩
    exact ⟨hrest.push hloop _, h.frames⟩
  | bar _ => exact ⟨h.level.bar, h.frames⟩
  | enterPlain pos flags => exact h.enter ..
  | enterAtomic pos => exact h.enter ..
  | enterLook behind negative pos =>
    have hb : Ordered { b with
        behind := if behind then b.behind.or (some (b.widths.length + 1)) else b.behind } :=
      ⟨h.level, h.frames⟩
    exact hb.enter ..
  | enterCondition group pos choices =>
    have hb : Ordered { b with choices } := ⟨h.level, h.frames⟩
    exact hb.enter ..
  | enterCapture pos name _ =>
    have hb : Ordered { b with
        widths := b.widths ++ [none]
        names := b.names ++ (name.map (·, b.widths.length + 1)).toList } := ⟨h.level, h.frames⟩
    exact hb.enter ..
  | close f frames hinner =>
    -- The level around the group was in order when the group was opened, and gets one more item.
    obtain ⟨hframes, n, hlevel, hn⟩ := close_eq b f frames
    have hall := h.frames
    rw [hinner, List.forall_mem_cons] at hall
    refine ⟨?_, ?_⟩
    · rw [hlevel]
      exact hall.1.push (hn h.level) _
    · rw [hframes]
      exact hall.2

end Builder

/-- The bounds of all loops of a compiled pattern are in order. -/
theorem Regex.ordered_of_compile {source : Text} {mask : Int} {r : Regex}
    (h : Regex.compile source mask = .ok r) : r.node.Ordered := by
  obtain ⟨b, stray, hrun, hnode, -, -⟩ := Regex.compile_eq_ok h
  have hstart : (Builder.start (.ofMask mask)).Ordered := ⟨.empty _, by simp [Builder.start]⟩
  have hb := Builder.run_invariant (P := fun _ b => b.Ordered)
    (fun _ _ _ _ he => Builder.Ordered.effect he) [] hstart hrun
  rw [hnode]
  exact hb.level.node

end TextScan
