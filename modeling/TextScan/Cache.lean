import TextScan.Fault
import TextScan.Log

/-!
# The cache of compiled patterns

Compiled pattern texts are kept for reuse, under the text and the flags as passed. When the cache
is full, the entry that has not been used for longest is dropped. A pattern that does not compile
is not kept; compiled patterns pass by the cache.
-/

namespace TextScan

/-- What a cache entry is found by: a pattern text and the flags as passed. -/
abbrev CacheKey := Text × Int

/-- Compiled patterns that have been used, and how often the cache was of use. -/
structure Cache where
  /-- The entries, the most recently used first. -/
  entries : List (CacheKey × Regex) := []
  /-- How many look-ups found an entry. -/
  hits : Nat := 0
  /-- How many look-ups did not. -/
  misses : Nat := 0

namespace Cache

/-- The greatest number of entries. -/
def capacity : Nat := 256

/-- The number of entries. -/
def size (c : Cache) : Nat := c.entries.length

/-- The entry for a key becomes the most recently used one. -/
def touch (c : Cache) (key : CacheKey) (r : Regex) : Cache :=
  { c with entries := (key, r) :: c.entries.filter (·.1 != key), hits := c.hits + 1 }

/-- A new entry; the one that has not been used for longest may be dropped. -/
def insert (c : Cache) (key : CacheKey) (r : Regex) : Cache :=
  { c with entries := ((key, r) :: c.entries).take capacity, misses := c.misses + 1 }

/-- Compiles a pattern text, or finds it in the cache. -/
def compile (c : Cache) (source : Text) (mask : Int) : Compiled Regex × Cache :=
  match c.entries.lookup (source, mask) with
  | some r => (.ok r, c.touch (source, mask) r)
  | none =>
    match Regex.compile source mask with
    | .ok r => (.ok r, c.insert (source, mask) r)
    | .error e => (.error e, { c with misses := c.misses + 1 })

end Cache

/-- The outcome of compiling a pattern for a caller. -/
structure CompileOutcome where
  /-- The compiled pattern, or why there is none. -/
  result : Except Fault Regex
  /-- The records written. -/
  log : List Event := []

/-- Compiles a pattern as a caller gives it. Only a breach of the rules of patterns is logged. -/
def Pattern.compile (p : Pattern) (mask : Int) (c : Cache) : CompileOutcome × Cache :=
  match p with
  | .compiled r => ({ result := .ok r }, c)
  | .source t =>
    match c.compile t mask with
    | (.ok r, c) => ({ result := .ok r }, c)
    | (.error e, c) =>
      let log := if e.isMalformed then [Event.compileFailed t] else []
      ({ result := .error (e.toFault t), log }, c)

end TextScan
