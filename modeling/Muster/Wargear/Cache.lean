/-
  The cache of generation runs.

  A run is stored under the datasheet's id and fingerprint.  The cache is a queue: entries stand in
  the order in which they were stored, a hit changes nothing but a counter, and a miss on a full
  cache drops the oldest entry.  Each stored run carries a serial number, so that two answers can be
  told to be one and the same run and not merely equal.

  There are two errors, and both are counted as misses: a datasheet without a run, and a cache with
  no room at all, which cannot drop anything when the first run comes.
-/
import Muster.Wargear.Fingerprint
import Muster.Wargear.Generation

namespace Muster.Wargear

open Text

/-- What a run is stored under. -/
structure CacheKey where
  datasheetId : String
  fingerprint : String
deriving Repr, DecidableEq

/-- The key of a datasheet. -/
def cacheKey (d : Datasheet) : CacheKey := ⟨d.id, fingerprint d⟩

/-- A stored run. -/
structure CacheEntry where
  key : CacheKey
  serial : Nat
  run : Generation
deriving Repr, DecidableEq

/-- The cache, oldest entry first. -/
structure Cache where
  entries : List CacheEntry
  hits : Nat
  misses : Nat
  /-- The serial number of the next run to be stored. -/
  next : Nat
deriving Repr, DecidableEq

/-- Why the cache has no run to give. -/
inductive CacheError where
  /-- There is no run of the datasheet. -/
  | noRun (e : LongNumeral)
  /-- The cache cannot make room. -/
  | nothingToDrop
deriving Repr, DecidableEq

namespace Cache

/-- The cache before any run. -/
def empty : Cache := ⟨[], 0, 0, 0⟩

/-- The number of stored runs. -/
def size (c : Cache) : Nat := c.entries.length

/-- The entry under a key. -/
def find? (c : Cache) (k : CacheKey) : Option CacheEntry := c.entries.find? fun e => e.key == k

/-- Stores a run behind the others, after dropping the oldest if there is no room. -/
def store (capacity : Int) (c : Cache) (k : CacheKey) (run : Generation) :
    Except CacheError (CacheEntry × Cache) :=
  let entry : CacheEntry := ⟨k, c.next, run⟩
  if (c.size : Int) ≥ capacity then
    match c.entries with
    | [] => .error .nothingToDrop
    | _ :: rest => .ok (entry, { c with entries := rest ++ [entry], next := c.next + 1 })
  else .ok (entry, { c with entries := c.entries ++ [entry], next := c.next + 1 })

/-- The run of a datasheet, from the store or else by `make`; after an error the cache differs by
    the miss that it counts. -/
def get (capacity : Int) (make : Datasheet → Except LongNumeral Generation) (c : Cache)
    (d : Datasheet) : Except CacheError CacheEntry × Cache :=
  let k := cacheKey d
  match c.find? k with
  | some e => (.ok e, { c with hits := c.hits + 1 })
  | none =>
    let c := { c with misses := c.misses + 1 }
    match (make d).mapError .noRun >>= c.store capacity k with
    | .ok (e, c) => (.ok e, c)
    | .error e => (.error e, c)

/-- Drops every run of a datasheet id; gives how many there were. -/
def invalidate (c : Cache) (datasheetId : String) : Nat × Cache :=
  let kept := c.entries.filter fun e => e.key.datasheetId != datasheetId
  (c.entries.length - kept.length, { c with entries := kept })

end Cache

end Muster.Wargear
