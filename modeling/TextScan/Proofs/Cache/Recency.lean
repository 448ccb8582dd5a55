import Mathlib.Data.Finset.Card
import TextScan.Proofs.Cache

/-!
# What the cache holds

The cache is a list of bounded length that every call reorders. Seen from outside it is a function
of the history of calls: it holds the keys that were compiled with success, the one used last in
front, up to its capacity (`Cache.keys_after`). `Cache.recency` is that list without a bound. The
keys in front of a key are those used since its last use (`Cache.recency_split`), so a key is still
there exactly if fewer than `Cache.capacity` others were used since (`Cache.mem_take_recency_iff`).

`Cache.compile_source_cases` says what one call can do: find its entry, make a new one, or fail. All
that is said about calls in a row follows from it (`Cache.compile_history`).
-/

namespace TextScan.Cache

/-! ## Keys in the order of their last use -/

/-- The distinct keys of a history of uses, the one used last in front. -/
def recency (history : List CacheKey) : List CacheKey :=
  history.foldl (fun recent key => key :: recent.filter (· != key)) []

/-- A further use puts its key in front. -/
theorem recency_concat (history : List CacheKey) (key : CacheKey) :
    recency (history ++ [key]) = key :: (recency history).filter (· != key) := by
  rw [recency, List.foldl_append]
  rfl

/-- The keys are those of the history. -/
theorem mem_recency {history : List CacheKey} {key : CacheKey} :
    key ∈ recency history ↔ key ∈ history := by
  induction history using List.reverseRecOn with
  | nil => rfl
  | append_singleton history last ih =>
    rw [recency_concat, List.mem_cons, List.mem_filter, ih, List.mem_append, List.mem_singleton]
    by_cases h : key = last <;> simp [h]

/-- No key stands twice. -/
theorem nodup_recency (history : List CacheKey) : (recency history).Nodup := by
  induction history using List.reverseRecOn with
  | nil => exact List.nodup_nil
  | append_singleton history last ih =>
    rw [recency_concat, List.nodup_cons]
    exact ⟨by simp, ih.filter _⟩

/-- There are as many keys as the history has distinct ones. -/
theorem length_recency (history : List CacheKey) :
    (recency history).length = history.toFinset.card := by
  have hsame : (recency history).toFinset = history.toFinset := by
    ext key
    rw [List.mem_toFinset, List.mem_toFinset, mem_recency]
  rw [← hsame, List.toFinset_card_of_nodup (nodup_recency history)]

/-- In front of a key stand the keys used since its last use, each of them once. -/
theorem recency_split {key : CacheKey} {since : List CacheKey} (h : key ∉ since)
    (earlier : List CacheKey) :
    ∃ front back, recency (earlier ++ key :: since) = front ++ key :: back ∧ key ∉ front ∧
      front.length = since.toFinset.card := by
  have hsplit : ∃ front back, recency (earlier ++ key :: since) = front ++ key :: back ∧
      ∀ k, k ∈ front ↔ k ∈ since := by
    induction since using List.reverseRecOn with
    | nil => exact ⟨[], _, recency_concat earlier key, fun k => Iff.rfl⟩
    | append_singleton since last ih =>
      rw [List.mem_append, List.mem_singleton, not_or] at h
      obtain ⟨front, back, hrecency, hfront⟩ := ih h.1
      refine ⟨last :: front.filter (· != last), back.filter (· != last), ?_, fun k => ?_⟩
      · -- The key is not the one that moves to the front, so it keeps its place among the others.
        have hkeep : (key :: back).filter (· != last) = key :: back.filter (· != last) :=
          List.filter_cons_of_pos (bne_iff_ne.mpr h.2)
        rw [← List.cons_append, ← List.append_assoc, recency_concat, hrecency, List.filter_append,
          hkeep, List.cons_append]
      · rw [List.mem_cons, List.mem_filter, hfront, List.mem_append, List.mem_singleton]
        by_cases hk : k = last <;> simp [hk]
  obtain ⟨front, back, hrecency, hfront⟩ := hsplit
  have hnodup : front.Nodup := by
    have hall := nodup_recency (earlier ++ key :: since)
    rw [hrecency] at hall
    exact hall.of_append_left
  have hsame : front.toFinset = since.toFinset := by
    ext k
    rw [List.mem_toFinset, List.mem_toFinset, hfront]
  refine ⟨front, back, hrecency, fun hkey => h ((hfront key).mp hkey), ?_⟩
  rw [← hsame, List.toFinset_card_of_nodup hnodup]

/-- What was used has a last use. -/
theorem exists_last_use {history : List CacheKey} {key : CacheKey} (h : key ∈ history) :
    ∃ earlier since, history = earlier ++ key :: since ∧ key ∉ since := by
  obtain ⟨since, earlier, hreverse, hsince⟩ :=
    List.eq_append_cons_of_mem (List.mem_reverse.mpr h)
  refine ⟨earlier.reverse, since.reverse, ?_, by simpa using hsince⟩
  have hhistory := congrArg List.reverse hreverse
  simpa using hhistory

/-- A key is one of the first `n` exactly if it was used and fewer than `n` distinct other keys were
used since. -/
theorem mem_take_recency_iff {history : List CacheKey} {key : CacheKey} {n : Nat} :
    key ∈ (recency history).take n ↔
      ∃ earlier since, history = earlier ++ key :: since ∧ key ∉ since ∧
        since.toFinset.card < n := by
  constructor
  · intro hkey
    obtain ⟨earlier, since, rfl, hsince⟩ :=
      exists_last_use (mem_recency.mp (List.mem_of_mem_take hkey))
    obtain ⟨front, back, hrecency, hfront, hlength⟩ := recency_split hsince earlier
    refine ⟨earlier, since, rfl, hsince, Nat.lt_of_not_le fun hle => hfront ?_⟩
    rw [hrecency, List.take_append_of_le_length (by omega)] at hkey
    exact List.mem_of_mem_take hkey
  · rintro ⟨earlier, since, rfl, hsince, hcard⟩
    obtain ⟨front, back, hrecency, -, hlength⟩ := recency_split hsince earlier
    obtain ⟨k, rfl⟩ := Nat.exists_eq_add_of_lt hcard
    rw [hrecency, ← hlength, Nat.add_assoc, List.take_length_add_append, List.take_succ_cons]
    exact List.mem_append_right _ List.mem_cons_self

/-- Using a key after a bound was applied, or before, leaves the same first `n` keys. -/
theorem take_cons_filter_take {recent : List CacheKey} (h : recent.Nodup) (key : CacheKey)
    (n : Nat) :
    (key :: (recent.take n).filter (· != key)).take n =
      (key :: recent.filter (· != key)).take n := by
  cases n with
  | zero => rfl
  | succ n =>
    rw [List.take_succ_cons, List.take_succ_cons]
    congr 1
    by_cases hlong : n + 1 ≤ recent.length
    · -- At most one key goes, so `n` of the first `n + 1` are left.
      have hlength : n ≤ ((recent.take (n + 1)).filter (· != key)).length := by
        rw [← (h.sublist (List.take_sublist _ _)).erase_eq_filter, List.length_erase,
          List.length_take, Nat.min_eq_left hlong]
        split <;> omega
      conv_rhs => rw [← List.take_append_drop (n + 1) recent, List.filter_append]
      rw [List.take_append_of_le_length hlength]
    · rw [List.take_of_length_le (l := recent) (by omega)]

/-! ## One call -/

/-- The keys of the entries, the most recently used first. -/
def keys (c : Cache) : List CacheKey := c.entries.map (·.1)

/-- A key is found exactly if there is an entry for it. -/
theorem lookup_eq_none_iff (c : Cache) (key : CacheKey) :
    c.entries.lookup key = none ↔ key ∉ c.keys := by
  rw [List.lookup_eq_none_iff, keys, List.mem_map]
  constructor
  · rintro h ⟨entry, hentry, rfl⟩
    simpa using h entry hentry
  · intro h entry hentry
    rw [bne_iff_ne]
    rintro rfl
    exact h ⟨entry, hentry, rfl⟩

/-- What a call with a pattern text does: the text is found, or it is compiled and kept, or it does
not compile. -/
theorem compile_source_cases {c : Cache} (hc : c.Faithful) (t : Text) (mask : Int) :
    let c' := ((Pattern.source t).compile mask c).2
    (∃ r, Regex.compile t mask = .ok r ∧ (t, mask) ∈ c.keys ∧ c' = c.touch (t, mask) r) ∨
      (∃ r, Regex.compile t mask = .ok r ∧ (t, mask) ∉ c.keys ∧ c' = c.insert (t, mask) r) ∨
      ∃ e, Regex.compile t mask = .error e ∧ (t, mask) ∉ c.keys ∧
        c' = { c with misses := c.misses + 1 } := by
  have hresult := (hc.compile t mask).1
  have hcache : ((Pattern.source t).compile mask c).2 = (c.compile t mask).2 := by
    rw [Pattern.compile]
    generalize c.compile t mask = outcome
    obtain ⟨result, c'⟩ := outcome
    cases result <;> rfl
  dsimp only
  rw [hcache]
  unfold Cache.compile at hresult ⊢
  cases hfound : c.entries.lookup (t, mask) with
  | some r =>
    have hkey : (t, mask) ∈ c.keys := by
      by_contra hkey
      rw [← lookup_eq_none_iff, hfound] at hkey
      exact absurd hkey (Option.some_ne_none r)
    rw [hfound] at hresult
    exact Or.inl ⟨r, hresult.symm, hkey, rfl⟩
  | none =>
    have hkey := (lookup_eq_none_iff c (t, mask)).mp hfound
    cases hr : Regex.compile t mask with
    | ok r => exact Or.inr (Or.inl ⟨r, rfl, hkey, rfl⟩)
    | error e => exact Or.inr (Or.inr ⟨e, rfl, hkey, rfl⟩)

/-- Marking an entry as used puts its key in front. -/
theorem keys_touch (c : Cache) (key : CacheKey) (r : Regex) :
    (c.touch key r).keys = key :: c.keys.filter (· != key) := by
  rw [keys, touch, List.map_cons, keys, List.filter_map]
  rfl

/-- A new entry has its key in front, and the last key may go. -/
theorem keys_insert (c : Cache) (key : CacheKey) (r : Regex) :
    (c.insert key r).keys = (key :: c.keys).take capacity := by
  rw [keys, insert, List.map_take]
  rfl

/-- The key that a call uses: that of a pattern text which compiles. -/
def usedKey : Pattern × Int → Option CacheKey
  | (.source t, mask) => if (Regex.compile t mask).isOk then some (t, mask) else none
  | (.compiled _, _) => none

/-- Whether a call is made with a pattern text. -/
def hasText : Pattern × Int → Bool
  | (.source _, _) => true
  | (.compiled _, _) => false

/-- A pattern text that compiles uses its key. -/
theorem usedKey_of_ok {t : Text} {mask : Int} {r : Regex} (h : Regex.compile t mask = .ok r) :
    usedKey (.source t, mask) = some (t, mask) := by
  rw [usedKey, h]
  rfl

/-- A pattern text that does not compile uses no key. -/
theorem usedKey_of_error {t : Text} {mask : Int} {e : CompileError}
    (h : Regex.compile t mask = .error e) : usedKey (.source t, mask) = none := by
  rw [usedKey, h]
  rfl

/-- A call that uses a key puts it in front, and the last key goes if there is no room. -/
theorem keys_compile {c : Cache} (hc : c.Faithful) (hsize : c.keys.length ≤ capacity)
    (call : Pattern × Int) :
    (call.1.compile call.2 c).2.keys =
      match usedKey call with
      | none => c.keys
      | some key => (key :: c.keys.filter (· != key)).take capacity := by
  obtain ⟨p, mask⟩ := call
  cases p with
  | compiled r => rfl
  | source t =>
    rcases compile_source_cases hc t mask with
      ⟨r, hr, hkey, hnext⟩ | ⟨r, hr, hkey, hnext⟩ | ⟨e, he, -, hnext⟩
    · -- One key goes and comes back in front, so there is room.
      have hroom : (c.keys.filter (· != (t, mask))).length < c.keys.length :=
        List.length_filter_lt_length_iff_exists.mpr ⟨_, hkey, by simp⟩
      have hshort : ((t, mask) :: c.keys.filter (· != (t, mask))).length ≤ capacity := by
        rw [List.length_cons]
        omega
      rw [usedKey_of_ok hr, hnext, keys_touch]
      exact (List.take_of_length_le hshort).symm
    · have hother : c.keys.filter (· != (t, mask)) = c.keys := by
        rw [List.filter_eq_self]
        intro key hmem
        rw [bne_iff_ne]
        rintro rfl
        exact hkey hmem
      rw [usedKey_of_ok hr, hnext, keys_insert]
      dsimp only
      rw [hother]
    · rw [usedKey_of_error he, hnext]
      rfl

/-- A call with a pattern text counts one hit if its key is there, and else one miss. -/
theorem counters_compile {c : Cache} (hc : c.Faithful) (t : Text) (mask : Int) :
    let c' := ((Pattern.source t).compile mask c).2
    ((t, mask) ∈ c.keys ∧ c'.hits = c.hits + 1 ∧ c'.misses = c.misses) ∨
      ((t, mask) ∉ c.keys ∧ c'.hits = c.hits ∧ c'.misses = c.misses + 1) := by
  dsimp only
  rcases compile_source_cases hc t mask with
    ⟨r, -, hkey, hnext⟩ | ⟨r, -, hkey, hnext⟩ | ⟨e, -, hkey, hnext⟩
  · rw [hnext]
    exact Or.inl ⟨hkey, rfl, rfl⟩
  · rw [hnext]
    exact Or.inr ⟨hkey, rfl, rfl⟩
  · rw [hnext]
    exact Or.inr ⟨hkey, rfl, rfl⟩

/-! ## Calls in a row -/

/-- The cache after calls, from an empty one on. -/
def after (calls : List (Pattern × Int)) : Cache :=
  calls.foldl (fun c call => (call.1.compile call.2 c).2) {}

/-- The last call works on what the calls before it have left. -/
theorem after_concat (calls : List (Pattern × Int)) (call : Pattern × Int) :
    after (calls ++ [call]) = (call.1.compile call.2 (after calls)).2 := by
  rw [after, List.foldl_append]
  rfl

/-- Calls leave a faithful cache. -/
theorem faithful_after (calls : List (Pattern × Int)) : (after calls).Faithful := by
  induction calls using List.reverseRecOn with
  | nil => exact Reachable.empty.faithful
  | append_singleton calls call ih =>
    rw [after_concat]
    exact ih.pattern call.1 call.2

/-- After any calls, the cache holds the keys that they used, the one used last in front, up to its
capacity. -/
theorem keys_after (calls : List (Pattern × Int)) :
    (after calls).keys = (recency (calls.filterMap usedKey)).take capacity := by
  induction calls using List.reverseRecOn with
  | nil => rfl
  | append_singleton calls call ih =>
    have hsize : (after calls).keys.length ≤ capacity := by
      rw [ih]
      exact List.length_take_le _ _
    rw [after_concat, keys_compile (faithful_after calls) hsize, List.filterMap_append]
    cases hused : usedKey call with
    | none => rw [List.filterMap_cons_none hused, List.filterMap_nil, List.append_nil, ih]
    | some key =>
      rw [List.filterMap_cons_some hused, List.filterMap_nil, recency_concat, ih]
      exact take_cons_filter_take (nodup_recency _) key capacity

/-- After any calls, a key is in the cache exactly if it was used and fewer other keys than there is
room for were used since. -/
theorem mem_keys_after_iff {calls : List (Pattern × Int)} {key : CacheKey} :
    key ∈ (after calls).keys ↔
      ∃ earlier since, calls.filterMap usedKey = earlier ++ key :: since ∧ key ∉ since ∧
        since.toFinset.card < capacity := by
  rw [keys_after]
  exact mem_take_recency_iff

/-- Every call with a pattern text counts once, and no other call does. -/
theorem hits_add_misses_after (calls : List (Pattern × Int)) :
    (after calls).hits + (after calls).misses = calls.countP hasText := by
  induction calls using List.reverseRecOn with
  | nil => rfl
  | append_singleton calls call ih =>
    rw [after_concat, List.countP_append, ← ih]
    obtain ⟨p, mask⟩ := call
    cases p with
    | compiled r => rfl
    | source t =>
      have hone : [(Pattern.source t, mask)].countP hasText = 1 := rfl
      rcases counters_compile (faithful_after calls) t mask with
        ⟨-, hhits, hmisses⟩ | ⟨-, hhits, hmisses⟩
      · rw [hhits, hmisses, hone]
        omega
      · rw [hhits, hmisses, hone]
        omega

/-- After any calls from an empty cache: each call with a pattern text has counted as a hit or a
miss, and there are as many entries as distinct keys were compiled with success, but at most 256. A
further call tells what compiling without a cache would tell. If it is made with a compiled pattern,
the pattern comes back and the cache stays as it is. If it is made with a pattern text, it is either
a hit or a miss; it is a hit exactly if its key was compiled with success before and fewer than 256
distinct other keys were since its last use. A text that does not compile is a miss and changes
nothing else. -/
theorem compile_history (calls : List (Pattern × Int)) :
    let c := after calls
    let used := calls.filterMap usedKey
    c.hits + c.misses = calls.countP hasText ∧
      c.size = min 256 used.toFinset.card ∧
      (∀ p mask, (Pattern.compile p mask c).1 = p.outcome mask) ∧
      (∀ r mask, (Pattern.compiled r).compile mask c = ({ result := .ok r }, c)) ∧
      (∀ t mask,
        let c' := ((Pattern.source t).compile mask c).2
        let hit := c'.hits = c.hits + 1 ∧ c'.misses = c.misses
        let miss := c'.hits = c.hits ∧ c'.misses = c.misses + 1
        (hit ∨ miss) ∧
          (hit ↔ ∃ earlier since, used = earlier ++ (t, mask) :: since ∧ (t, mask) ∉ since ∧
            since.toFinset.card < 256)) ∧
      ∀ t mask e, Regex.compile t mask = .error e →
        ((Pattern.source t).compile mask c).2 = { c with misses := c.misses + 1 } := by
  have hfaithful := faithful_after calls
  dsimp only
  refine ⟨hits_add_misses_after calls, ?_, fun p mask => Pattern.compile_fst hfaithful p mask,
    fun r mask => rfl, fun t mask => ?_, fun t mask e he => ?_⟩
  · have hsize : (after calls).size = (after calls).keys.length := (List.length_map _).symm
    rw [hsize, keys_after, List.length_take, length_recency]
    rfl
  · rcases counters_compile hfaithful t mask with ⟨hkey, hhits, hmisses⟩ | ⟨hkey, hhits, hmisses⟩
    · exact ⟨Or.inl ⟨hhits, hmisses⟩, fun _ => mem_keys_after_iff.mp hkey,
        fun _ => ⟨hhits, hmisses⟩⟩
    · refine ⟨Or.inr ⟨hhits, hmisses⟩, fun hhit => ?_, fun hrecent => ?_⟩
      · omega
      · exact absurd (mem_keys_after_iff.mpr hrecent) hkey
  · rcases compile_source_cases hfaithful t mask with ⟨r, hr, -⟩ | ⟨r, hr, -⟩ | ⟨e', -, -, hnext⟩
    · simp [he] at hr
    · simp [he] at hr
    · exact hnext

end TextScan.Cache
