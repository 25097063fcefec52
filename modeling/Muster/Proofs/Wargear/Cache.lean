/-
  Whole runs of the cache.

  1. **Program.**  `get` answers from the store or stores a new run behind the others, dropping the
     oldest entry if there is no room; `invalidate` drops what is stored under an id.

  2. **Specification.**  It speaks of a HISTORY, the steps taken from the empty cache.  A step
     STORES an entry if it answers with it and counts a miss; it REMOVES a key that is stored before
     and not after.  An entry is KEPT if a step stored it and none since removed its key.  A get is
     a hit exactly if an entry under its key is kept; a miss on a full store removes exactly the
     key that was stored longest ago.

  3. **The crux (`Sound`)**: the entries are exactly the kept ones, and they stand in the order of
     their serial numbers, which is the order in which steps stored them.  So the head of the queue
     is the oldest, whatever hits lie between.

  4. **Where it ends.**  A miss whose run cannot be made is counted and changes nothing else, also
     on a full store.
-/
import Mathlib
import Muster.Wargear.Cache
import Muster.Proofs.Wargear.Replacement

namespace Muster.Wargear

open Text

/-! ## Histories -/

/-- One use of a cache. -/
inductive CacheUse where
  | get (d : Datasheet)
  | invalidate (datasheetId : String)

/-- What a use answers: an entry, or how many entries were dropped. -/
inductive CacheAnswer where
  | entry (answer : Except CacheError CacheEntry)
  | dropped (count : Nat)

/-- One use of a cache with the cache before and after it. -/
structure CacheStep where
  use : CacheUse
  before : Cache
  answer : CacheAnswer
  after : Cache

namespace Cache

/-- The stored keys, oldest first. -/
def keys (c : Cache) : List CacheKey := c.entries.map CacheEntry.key

variable (capacity : Int) (make : Datasheet → Except LongNumeral Generation)

/-- One step from a cache. -/
def step (c : Cache) : CacheUse → CacheStep
  | .get d => ⟨.get d, c, .entry (c.get capacity make d).1, (c.get capacity make d).2⟩
  | .invalidate id => ⟨.invalidate id, c, .dropped (c.invalidate id).1, (c.invalidate id).2⟩

/-- The cache after some uses. -/
def runFrom (c : Cache) (us : List CacheUse) : Cache :=
  us.foldl (fun c u => (c.step capacity make u).after) c

/-- The steps of some uses. -/
def historyFrom (c : Cache) : List CacheUse → List CacheStep
  | [] => []
  | u :: us => c.step capacity make u :: historyFrom (c.step capacity make u).after us

theorem before_step (c : Cache) (u : CacheUse) : (c.step capacity make u).before = c := by
  cases u <;> rfl

theorem historyFrom_concat (c : Cache) (us : List CacheUse) (u : CacheUse) :
    c.historyFrom capacity make (us ++ [u])
      = c.historyFrom capacity make us ++ [(c.runFrom capacity make us).step capacity make u] := by
  induction us generalizing c with
  | nil => rfl
  | cons v us ih =>
    rw [List.cons_append, historyFrom, ih]
    rfl

theorem runFrom_concat (c : Cache) (us : List CacheUse) (u : CacheUse) :
    c.runFrom capacity make (us ++ [u])
      = ((c.runFrom capacity make us).step capacity make u).after := by
  rw [runFrom, List.foldl_concat]
  rfl

end Cache

namespace CacheStep

/-- The step answers with an entry that it adds. -/
def Stores (s : CacheStep) (e : CacheEntry) : Prop :=
  s.answer = .entry (.ok e) ∧ s.before.misses < s.after.misses

/-- The key is stored before the step and not after it. -/
def Removes (s : CacheStep) (k : CacheKey) : Prop := k ∈ s.before.keys ∧ k ∉ s.after.keys

/-- The step answers from the store. -/
def IsHit (s : CacheStep) : Prop := s.before.hits < s.after.hits

/-- The step is a get. -/
def isGet (s : CacheStep) : Bool :=
  match s.use with
  | .get _ => true
  | .invalidate _ => false

end CacheStep

/-- The step number `j` of a history stores an entry. -/
def StoredAt (h : List CacheStep) (j : Nat) (e : CacheEntry) : Prop :=
  ∃ s, h[j]? = some s ∧ s.Stores e

/-- The step number `j` of a history stores an entry, and none after it removes its key. -/
def Kept (h : List CacheStep) (j : Nat) (e : CacheEntry) : Prop :=
  StoredAt h j e ∧ ∀ i s, j < i → h[i]? = some s → ¬ s.Removes e.key

/-- The step number `j` of a history stored an entry that is kept, and no entry that is kept was
    stored before it. -/
def Oldest (h : List CacheStep) (j : Nat) (e : CacheEntry) : Prop :=
  Kept h j e ∧ ∀ i e', Kept h i e' → j ≤ i

theorem getElem?_concat_eq_some {h : List CacheStep} {s t : CacheStep} {j : Nat} :
    (h ++ [s])[j]? = some t ↔ h[j]? = some t ∨ (j = h.length ∧ t = s) := by
  rcases Nat.lt_trichotomy j h.length with hj | rfl | hj
  · rw [List.getElem?_append_left hj]
    simp [Nat.ne_of_lt hj]
  · simp [eq_comm]
  · have hbefore : h[j]? = none := List.getElem?_eq_none (by omega)
    have hafter : (h ++ [s])[j]? = none := by
      refine List.getElem?_eq_none ?_
      rw [List.length_append, List.length_singleton]
      omega
    simp [hbefore, hafter, Nat.ne_of_gt hj]

theorem storedAt_concat {h : List CacheStep} {s : CacheStep} {j : Nat} {e : CacheEntry} :
    StoredAt (h ++ [s]) j e ↔ StoredAt h j e ∨ (j = h.length ∧ s.Stores e) := by
  simp only [StoredAt, getElem?_concat_eq_some]
  constructor
  · rintro ⟨t, ht | ⟨hj, rfl⟩, hstores⟩
    · exact Or.inl ⟨t, ht, hstores⟩
    · exact Or.inr ⟨hj, hstores⟩
  · rintro (⟨t, ht, hstores⟩ | ⟨hj, hstores⟩)
    · exact ⟨t, Or.inl ht, hstores⟩
    · exact ⟨s, Or.inr ⟨hj, rfl⟩, hstores⟩

theorem StoredAt.lt {h : List CacheStep} {j : Nat} {e : CacheEntry} (hs : StoredAt h j e) :
    j < h.length := by
  obtain ⟨s, hs, -⟩ := hs
  exact (List.getElem?_eq_some_iff.mp hs).1

/-- What is kept after one more step was kept before and is not removed, or is stored by it. -/
theorem kept_concat {h : List CacheStep} {s : CacheStep} {j : Nat} {e : CacheEntry} :
    Kept (h ++ [s]) j e
      ↔ (Kept h j e ∧ ¬ s.Removes e.key) ∨ (j = h.length ∧ s.Stores e) := by
  constructor
  · rintro ⟨hstored, hsince⟩
    rcases storedAt_concat.mp hstored with hstored | hlast
    · refine Or.inl ⟨⟨hstored, fun i t hi ht => ?_⟩, ?_⟩
      · exact hsince i t hi (getElem?_concat_eq_some.mpr (Or.inl ht))
      · exact hsince h.length s hstored.lt (getElem?_concat_eq_some.mpr (Or.inr ⟨rfl, rfl⟩))
    · exact Or.inr hlast
  · rintro (⟨⟨hstored, hsince⟩, hremoves⟩ | ⟨rfl, hstores⟩)
    · refine ⟨storedAt_concat.mpr (Or.inl hstored), fun i t hi ht => ?_⟩
      rcases getElem?_concat_eq_some.mp ht with ht | ⟨-, rfl⟩
      · exact hsince i t hi ht
      · exact hremoves
    · refine ⟨storedAt_concat.mpr (Or.inr ⟨rfl, hstores⟩), fun i t hi ht => ?_⟩
      have hlt := (List.getElem?_eq_some_iff.mp ht).1
      rw [List.length_append, List.length_singleton] at hlt
      omega

/-! ## What one use does -/

/-- What is left of the entries when there is room for one more. -/
def Cache.room (capacity : Int) (es : List CacheEntry) : List CacheEntry :=
  if capacity ≤ es.length then es.tail else es

/-- The steps that there are, of a cache with room for one entry at least. -/
inductive Took (capacity : Int) (make : Datasheet → Except LongNumeral Generation) :
    CacheStep → Prop where
  | hit (c : Cache) (d : Datasheet) (e : CacheEntry) :
      e ∈ c.entries → e.key = cacheKey d →
      Took capacity make ⟨.get d, c, .entry (.ok e), { c with hits := c.hits + 1 }⟩
  | failed (c : Cache) (d : Datasheet) (err : LongNumeral) :
      cacheKey d ∉ c.keys → make d = .error err →
      Took capacity make
        ⟨.get d, c, .entry (.error (.noRun err)), { c with misses := c.misses + 1 }⟩
  | stored (c : Cache) (d : Datasheet) (run : Generation) :
      cacheKey d ∉ c.keys → make d = .ok run →
      Took capacity make ⟨.get d, c, .entry (.ok ⟨cacheKey d, c.next, run⟩),
        ⟨Cache.room capacity c.entries ++ [⟨cacheKey d, c.next, run⟩], c.hits, c.misses + 1,
          c.next + 1⟩⟩
  | invalidated (c : Cache) (datasheetId : String) :
      Took capacity make ⟨.invalidate datasheetId, c,
        .dropped (c.keys.countP fun k => k.datasheetId == datasheetId),
        { c with entries := c.entries.filter fun e => e.key.datasheetId != datasheetId }⟩

namespace Cache

variable {capacity : Int} {make : Datasheet → Except LongNumeral Generation}

theorem find?_eq_none {c : Cache} {k : CacheKey} : c.find? k = none ↔ k ∉ c.keys := by
  simp [find?, keys]

theorem find?_eq_some {c : Cache} {k : CacheKey} {e : CacheEntry} (h : c.find? k = some e) :
    e ∈ c.entries ∧ e.key = k :=
  ⟨List.mem_of_find?_eq_some h, by simpa using List.find?_some h⟩

theorem store_eq (hcapacity : 1 ≤ capacity) (c : Cache) (k : CacheKey) (run : Generation) :
    c.store capacity k run = .ok (⟨k, c.next, run⟩,
      ⟨room capacity c.entries ++ [⟨k, c.next, run⟩], c.hits, c.misses, c.next + 1⟩) := by
  by_cases hfull : capacity ≤ c.entries.length
  · cases hes : c.entries with
    | nil =>
      rw [hes] at hfull
      simp only [List.length_nil, Nat.cast_zero] at hfull
      omega
    | cons e rest =>
      have hrest : capacity ≤ rest.length + 1 := by simpa [hes] using hfull
      simp [store, size, room, hes, hrest]
  · simp [store, size, room, hfull]

variable (capacity make)

theorem step_hit {c : Cache} {d : Datasheet} {e : CacheEntry}
    (hfind : c.find? (cacheKey d) = some e) :
    c.step capacity make (.get d)
      = ⟨.get d, c, .entry (.ok e), { c with hits := c.hits + 1 }⟩ := by
  have hget : c.get capacity make d = (.ok e, { c with hits := c.hits + 1 }) := by
    simp [get, hfind]
  rw [step, hget]

theorem step_failed {c : Cache} {d : Datasheet} {err : LongNumeral} (hnew : cacheKey d ∉ c.keys)
    (hmake : make d = .error err) :
    c.step capacity make (.get d)
      = ⟨.get d, c, .entry (.error (.noRun err)), { c with misses := c.misses + 1 }⟩ := by
  have hget : c.get capacity make d
      = (.error (.noRun err), { c with misses := c.misses + 1 }) := by
    simp [get, find?_eq_none.mpr hnew, hmake, Except.mapError, Bind.bind, Except.bind]
  rw [step, hget]

theorem step_stored (hcapacity : 1 ≤ capacity) {c : Cache} {d : Datasheet} {run : Generation}
    (hnew : cacheKey d ∉ c.keys) (hmake : make d = .ok run) :
    c.step capacity make (.get d) = ⟨.get d, c, .entry (.ok ⟨cacheKey d, c.next, run⟩),
      ⟨room capacity c.entries ++ [⟨cacheKey d, c.next, run⟩], c.hits, c.misses + 1,
        c.next + 1⟩⟩ := by
  have hget : c.get capacity make d = (.ok ⟨cacheKey d, c.next, run⟩,
      ⟨room capacity c.entries ++ [⟨cacheKey d, c.next, run⟩], c.hits, c.misses + 1,
        c.next + 1⟩) := by
    simp [get, find?_eq_none.mpr hnew, hmake, Except.mapError, Bind.bind, Except.bind,
      store_eq hcapacity]
  rw [step, hget]

theorem step_invalidate (c : Cache) (id : String) :
    c.step capacity make (.invalidate id) = ⟨.invalidate id, c,
      .dropped (c.keys.countP fun k => k.datasheetId == id),
      { c with entries := c.entries.filter fun e => e.key.datasheetId != id }⟩ := by
  have hdropped : (c.invalidate id).1 = c.keys.countP fun k => k.datasheetId == id := by
    have hsplit := List.length_eq_countP_add_countP
      (fun e : CacheEntry => e.key.datasheetId == id) (l := c.entries)
    simp only [invalidate, keys, List.countP_map, ← List.countP_eq_length_filter, bne,
      Function.comp_def, Bool.not_eq_true, Bool.decide_eq_false] at hsplit ⊢
    omega
  rw [step, hdropped]
  rfl

theorem took_step (hcapacity : 1 ≤ capacity) (c : Cache) (u : CacheUse) :
    Took capacity make (c.step capacity make u) := by
  cases u with
  | get d =>
    cases hfind : c.find? (cacheKey d) with
    | some e =>
      rw [step_hit capacity make hfind]
      exact .hit c d e (find?_eq_some hfind).1 (find?_eq_some hfind).2
    | none =>
      have hnew := find?_eq_none.mp hfind
      cases hmake : make d with
      | error err =>
        rw [step_failed capacity make hnew hmake]
        exact .failed c d err hnew hmake
      | ok run =>
        rw [step_stored capacity make hcapacity hnew hmake]
        exact .stored c d run hnew hmake
  | invalidate id =>
    rw [step_invalidate]
    exact .invalidated c id

end Cache

section Shape

variable {capacity : Int} {make : Datasheet → Except LongNumeral Generation}

theorem Cache.room_sublist (es : List CacheEntry) : (Cache.room capacity es).Sublist es := by
  rw [Cache.room]
  split
  · exact List.tail_sublist es
  · exact List.Sublist.refl es

theorem Cache.length_room (hcapacity : 1 ≤ capacity) {es : List CacheEntry}
    (hes : (es.length : Int) ≤ capacity) :
    ((Cache.room capacity es).length : Int) + 1 ≤ capacity := by
  rw [Cache.room]
  split
  · rw [List.length_tail]
    omega
  · omega

theorem pairwise_of_length_le_one {α : Type} {R : α → α → Prop} {l : List α} (h : l.length ≤ 1) :
    l.Pairwise R := by
  match l, h with
  | [], _ => exact .nil
  | [a], _ => exact List.pairwise_singleton R a

/-- Every step keeps some of the entries, in order, and puts behind them what it stores, if
    anything. -/
theorem Took.shape {s : CacheStep} (h : Took capacity make s) :
    ∃ rest new, s.after.entries = rest ++ new ∧ rest.Sublist s.before.entries
      ∧ (∀ e, s.Stores e ↔ e ∈ new) ∧ new.length ≤ 1 := by
  cases h with
  | hit c d e he hkey =>
    refine ⟨c.entries, [], (List.append_nil _).symm, List.Sublist.refl _, fun e' => ?_, by simp⟩
    simp [CacheStep.Stores]
  | failed c d err hnew hmake =>
    refine ⟨c.entries, [], (List.append_nil _).symm, List.Sublist.refl _, fun e' => ?_, by simp⟩
    simp [CacheStep.Stores]
  | stored c d run hnew hmake =>
    refine ⟨Cache.room capacity c.entries, [⟨cacheKey d, c.next, run⟩], rfl,
      Cache.room_sublist c.entries, fun e' => ?_, by simp⟩
    simp [CacheStep.Stores, eq_comm]
  | invalidated c id =>
    refine ⟨c.entries.filter _, [], (List.append_nil _).symm, List.filter_sublist, fun e' => ?_,
      by simp⟩
    simp [CacheStep.Stores]

/-- What is stored has a key that was not stored and the next serial number. -/
theorem Took.stores {s : CacheStep} (h : Took capacity make s) {e : CacheEntry} (he : s.Stores e) :
    e.key ∉ s.before.keys ∧ e.serial = s.before.next
      ∧ ∃ d, cacheKey d = e.key ∧ make d = .ok e.run := by
  obtain ⟨hanswer, hmiss⟩ := he
  cases h with
  | hit => exact absurd hmiss (Nat.lt_irrefl _)
  | failed => simp at hanswer
  | stored c d run hnew hmake =>
    obtain rfl : _ = e := by simpa using hanswer
    exact ⟨hnew, rfl, d, rfl, hmake⟩
  | invalidated => simp at hanswer

/-- What is answered was stored before or is stored now. -/
theorem Took.answered {s : CacheStep} (h : Took capacity make s) {e : CacheEntry}
    (he : s.answer = .entry (.ok e)) : e ∈ s.before.entries ∨ s.Stores e := by
  cases h with
  | hit c d e' he' =>
    obtain rfl : e' = e := by simpa using he
    exact Or.inl he'
  | failed => simp at he
  | stored c d run => exact Or.inr ⟨he, Nat.lt_succ_self _⟩
  | invalidated => simp at he

/-- Serial numbers are not given back, and none is given twice. -/
theorem Took.next {s : CacheStep} (h : Took capacity make s) :
    s.before.next ≤ s.after.next ∧ ∀ e, s.Stores e → s.before.next < s.after.next := by
  cases h <;> simp [CacheStep.Stores]

/-- An entry is there after a step if it was before and its key is not removed, or if the step
    stores it. -/
theorem Took.mem_after {s : CacheStep} (h : Took capacity make s) (hdistinct : s.before.keys.Nodup)
    (e : CacheEntry) :
    e ∈ s.after.entries ↔ (e ∈ s.before.entries ∧ ¬ s.Removes e.key) ∨ s.Stores e := by
  obtain ⟨rest, new, hafter, hrest, hstores, -⟩ := h.shape
  have hkey : ∀ {e' : CacheEntry}, e' ∈ s.before.entries → e'.key ∈ s.before.keys :=
    fun he' => List.mem_map_of_mem he'
  rw [hstores, hafter, List.mem_append]
  refine or_congr_left ⟨fun he => ?_, fun ⟨he, hremoves⟩ => ?_⟩
  · refine ⟨hrest.subset he, fun hremoves => hremoves.2 ?_⟩
    rw [Cache.keys, hafter]
    exact List.mem_map_of_mem (List.mem_append_left _ he)
  · -- the key is still stored: under it stands an entry from before, and that is this one
    have hstill : e.key ∈ s.after.keys := by
      by_contra hgone
      exact hremoves ⟨hkey he, hgone⟩
    rw [Cache.keys, hafter] at hstill
    obtain ⟨e', he', hsame⟩ := List.mem_map.mp hstill
    rcases List.mem_append.mp he' with he' | he'
    · rw [← List.inj_on_of_nodup_map hdistinct (hrest.subset he') he hsame]
      exact he'
    · exact absurd (hsame ▸ hkey he) (h.stores ((hstores e').mpr he')).1

theorem Took.nodup_keys {s : CacheStep} (h : Took capacity make s)
    (hdistinct : s.before.keys.Nodup) : s.after.keys.Nodup := by
  obtain ⟨rest, new, hafter, hrest, hstores, hone⟩ := h.shape
  rw [Cache.keys, hafter, List.map_append]
  refine List.Nodup.append (hdistinct.sublist (hrest.map _))
    (List.pairwise_map.mpr (pairwise_of_length_le_one hone)) ?_
  intro k hk hk'
  obtain ⟨e, he, rfl⟩ := List.mem_map.mp hk'
  exact (h.stores ((hstores e).mpr he)).1 ((hrest.map _).subset hk)

theorem Took.size_le {s : CacheStep} (hcapacity : 1 ≤ capacity) (h : Took capacity make s)
    (hbounded : (s.before.size : Int) ≤ capacity) : (s.after.size : Int) ≤ capacity := by
  cases h with
  | hit => exact hbounded
  | failed => exact hbounded
  | stored c d run =>
    have hroom := Cache.length_room hcapacity hbounded
    simpa [Cache.size] using hroom
  | invalidated c id =>
    have hfewer := List.length_filter_le (fun e => e.key.datasheetId != id) c.entries
    simp only [Cache.size] at hbounded ⊢
    omega

theorem Took.ordered {s : CacheStep} (h : Took capacity make s)
    (hordered : s.before.entries.Pairwise fun e e' => e.serial < e'.serial)
    (hnext : ∀ e, e ∈ s.before.entries → e.serial < s.before.next) :
    s.after.entries.Pairwise fun e e' => e.serial < e'.serial := by
  obtain ⟨rest, new, hafter, hrest, hstores, hone⟩ := h.shape
  rw [hafter, List.pairwise_append]
  refine ⟨hordered.sublist hrest, pairwise_of_length_le_one hone, fun e he e' he' => ?_⟩
  rw [(h.stores ((hstores e').mpr he')).2.1]
  exact hnext e (hrest.subset he)

end Shape

/-! ## The invariant -/

/-- What holds of a cache and its history. -/
structure Sound (capacity : Int) (make : Datasheet → Except LongNumeral Generation)
    (h : List CacheStep) (c : Cache) : Prop where
  distinct : c.keys.Nodup
  bounded : (c.size : Int) ≤ capacity
  counted : c.hits + c.misses = h.countP CacheStep.isGet
  /-- The entries are the kept ones. -/
  mem_iff : ∀ e, e ∈ c.entries ↔ ∃ j, Kept h j e
  /-- The entries stand in the order of their serial numbers. -/
  ordered : c.entries.Pairwise fun e e' => e.serial < e'.serial
  /-- The serial numbers are given in the order of the steps. -/
  increasing : ∀ i j e e', StoredAt h i e → StoredAt h j e' → i < j → e.serial < e'.serial
  /-- No serial number is given twice. -/
  fresh : ∀ s ∈ h, ∀ e, s.answer = .entry (.ok e) → e.serial < c.next
  made : ∀ e ∈ c.entries, ∃ d, cacheKey d = e.key ∧ make d = .ok e.run

section Runs

variable {capacity : Int} {make : Datasheet → Except LongNumeral Generation}

theorem sound_empty (hcapacity : 1 ≤ capacity) : Sound capacity make [] Cache.empty where
  distinct := List.nodup_nil
  bounded := by
    rw [Cache.size, Cache.empty, List.length_nil, Nat.cast_zero]
    omega
  counted := rfl
  mem_iff e := by simp [Cache.empty, Kept, StoredAt]
  ordered := .nil
  increasing i j e e' h := by simp [StoredAt] at h
  fresh s hs := absurd hs List.not_mem_nil
  made e he := absurd he List.not_mem_nil

namespace Sound

variable {h : List CacheStep} {s : CacheStep}

theorem serial_lt (hsound : Sound capacity make h s.before) {e : CacheEntry}
    (he : e ∈ s.before.entries) : e.serial < s.before.next := by
  obtain ⟨j, ⟨t, ht, hstores⟩, -⟩ := (hsound.mem_iff e).mp he
  exact hsound.fresh t (List.mem_of_getElem? ht) e hstores.1

/-- **One step keeps the invariant.** -/
theorem concat (hcapacity : 1 ≤ capacity) (hsound : Sound capacity make h s.before)
    (htook : Took capacity make s) : Sound capacity make (h ++ [s]) s.after where
  distinct := htook.nodup_keys hsound.distinct
  bounded := htook.size_le hcapacity hsound.bounded
  counted := by
    rw [List.countP_append, ← hsound.counted]
    cases htook <;> simp [CacheStep.isGet] <;> omega
  mem_iff e := by
    rw [htook.mem_after hsound.distinct, hsound.mem_iff]
    simp only [kept_concat, exists_or, exists_and_right, exists_eq, true_and]
  ordered := htook.ordered hsound.ordered fun _ => hsound.serial_lt
  increasing := by
    intro i j e e' hi hj hij
    rcases storedAt_concat.mp hi with hi | ⟨rfl, -⟩
    · rcases storedAt_concat.mp hj with hj | ⟨-, hj⟩
      · exact hsound.increasing i j e e' hi hj hij
      · -- the last step gives a number that no step before gave
        obtain ⟨t, ht, hi⟩ := hi
        rw [(htook.stores hj).2.1]
        exact hsound.fresh t (List.mem_of_getElem? ht) e hi.1
    · have hlast := hj.lt
      rw [List.length_append, List.length_singleton] at hlast
      omega
  fresh := by
    intro t ht e he
    rcases List.mem_append.mp ht with ht | ht
    · exact (hsound.fresh t ht e he).trans_le htook.next.1
    · obtain rfl := List.mem_singleton.mp ht
      rcases htook.answered he with hold | hstored
      · exact (hsound.serial_lt hold).trans_le htook.next.1
      · rw [(htook.stores hstored).2.1]
        exact htook.next.2 e hstored
  made e he := by
    rcases (htook.mem_after hsound.distinct e).mp he with ⟨hold, -⟩ | hstored
    · exact hsound.made e hold
    · exact (htook.stores hstored).2.2

end Sound

/-- **A whole run keeps the invariant.** -/
theorem sound_run (hcapacity : 1 ≤ capacity) (us : List CacheUse) :
    Sound capacity make (Cache.empty.historyFrom capacity make us)
      (Cache.empty.runFrom capacity make us) := by
  -- from the end, since the history grows there
  induction us using List.reverseRecOn with
  | nil => exact sound_empty hcapacity
  | append_singleton us u ih =>
    rw [Cache.historyFrom_concat, Cache.runFrom_concat]
    rw [← Cache.before_step capacity make (Cache.runFrom capacity make Cache.empty us) u] at ih
    exact ih.concat hcapacity (Cache.took_step capacity make hcapacity _ u)

/-- The head of the queue was stored longest ago. -/
theorem Sound.oldest {h : List CacheStep} {c : Cache} (hsound : Sound capacity make h c)
    {e : CacheEntry} {rest : List CacheEntry} (hes : c.entries = e :: rest) :
    ∃ j, Oldest h j e := by
  obtain ⟨j, hj⟩ := (hsound.mem_iff e).mp (hes ▸ List.mem_cons_self)
  refine ⟨j, hj, fun i e' hi => ?_⟩
  by_contra! hij
  -- an entry stored before it has a smaller serial number, but the head's is the smallest
  have hlt : e'.serial < e.serial := hsound.increasing i j e' e hi.1 hj.1 hij
  have hordered := hsound.ordered
  have hmem := (hsound.mem_iff e').mpr ⟨i, hi⟩
  rw [hes] at hordered hmem
  rcases List.mem_cons.mp hmem with rfl | hmem
  · exact absurd hlt (Nat.lt_irrefl _)
  · exact absurd (List.rel_of_pairwise_cons hordered hmem) (Nat.lt_asymm hlt)

end Runs

/-! ## The contract -/

/-- What is promised of a get, after a history. -/
structure GetLawful (capacity : Int) (make : Datasheet → Except LongNumeral Generation)
    (h : List CacheStep) (s : CacheStep) (d : Datasheet) : Prop where
  /-- It is a hit exactly if an entry under the key is kept. -/
  hit_iff : s.IsHit ↔ ∃ j e, Kept h j e ∧ e.key = cacheKey d
  /-- A hit answers with the kept entry and only counts. -/
  hit : ∀ j e, Kept h j e → e.key = cacheKey d →
    s.answer = .entry (.ok e) ∧ s.after = { s.before with hits := s.before.hits + 1 }
  /-- A miss is counted as one. -/
  miss : ¬ s.IsHit → s.after.hits = s.before.hits ∧ s.after.misses = s.before.misses + 1
  /-- A miss with a run stores it, in an entry never answered before. -/
  stored : ¬ s.IsHit → ∀ run, make d = .ok run → ∃ e, s.Stores e ∧ e.key = cacheKey d ∧ e.run = run
    ∧ e ∈ s.after.entries ∧ ∀ t ∈ h, ∀ e', t.answer = .entry (.ok e') → e'.serial ≠ e.serial
  /-- On a full store it removes the key that was stored longest ago and no other, and nothing if
      there is room. -/
  evicted : ¬ s.IsHit → ∀ run, make d = .ok run →
    if (s.before.size : Int) = capacity then ∃ j e, Oldest h j e ∧ ∀ k, s.Removes k ↔ k = e.key
    else ∀ k, ¬ s.Removes k
  /-- A miss without a run leaves the store as it is. -/
  failed : ¬ s.IsHit → ∀ err, make d = .error err →
    s.answer = .entry (.error (.noRun err)) ∧ s.after.entries = s.before.entries
  /-- What is answered was made of a datasheet with the same key. -/
  made : ∀ e, s.answer = .entry (.ok e) → ∃ v, cacheKey v = cacheKey d ∧ make v = .ok e.run

/-- What is promised of an invalidation: it removes the keys of the id and answers how many there
    were. -/
structure InvalidateLawful (s : CacheStep) (datasheetId : String) : Prop where
  removes_iff : ∀ k, s.Removes k ↔ k ∈ s.before.keys ∧ k.datasheetId = datasheetId
  answer : s.answer = .dropped (s.before.keys.countP fun k => k.datasheetId == datasheetId)
  stores : ∀ e, ¬ s.Stores e
  counters : s.after.hits = s.before.hits ∧ s.after.misses = s.before.misses

/-- What is promised of a step, after a history. -/
structure Lawful (capacity : Int) (make : Datasheet → Except LongNumeral Generation)
    (h : List CacheStep) (s : CacheStep) : Prop where
  distinct : s.after.keys.Nodup
  bounded : (s.after.size : Int) ≤ capacity
  counted : s.after.hits + s.after.misses = (h ++ [s]).countP CacheStep.isGet
  get : ∀ d, s.use = .get d → GetLawful capacity make h s d
  invalidate : ∀ id, s.use = .invalidate id → InvalidateLawful s id

section Contract

variable {capacity : Int} {make : Datasheet → Except LongNumeral Generation}
  {h : List CacheStep} {s : CacheStep}

/-- A hit keeps what it finds. -/
theorem Sound.get_hit {c : Cache} {d : Datasheet} {e : CacheEntry}
    (hsound : Sound capacity make h c) (he : e ∈ c.entries) (hkey : e.key = cacheKey d) :
    GetLawful capacity make h
      ⟨.get d, c, .entry (.ok e), { c with hits := c.hits + 1 }⟩ d := by
  have hunique : ∀ j e', Kept h j e' → e'.key = cacheKey d → e' = e := fun j e' hkept hkey' =>
    List.inj_on_of_nodup_map hsound.distinct ((hsound.mem_iff e').mpr ⟨j, hkept⟩) he
      (hkey'.trans hkey.symm)
  have hhit : CacheStep.IsHit ⟨.get d, c, .entry (.ok e), { c with hits := c.hits + 1 }⟩ :=
    Nat.lt_succ_self c.hits
  exact {
    hit_iff := by
      obtain ⟨j, hj⟩ := (hsound.mem_iff e).mp he
      exact iff_of_true hhit ⟨j, e, hj, hkey⟩
    hit := by
      intro j e' hkept hkey'
      rw [hunique j e' hkept hkey']
      exact ⟨rfl, rfl⟩
    miss := fun hmiss => absurd hhit hmiss
    stored := fun hmiss => absurd hhit hmiss
    evicted := fun hmiss => absurd hhit hmiss
    failed := fun hmiss => absurd hhit hmiss
    made := by
      intro e' he'
      obtain rfl : e = e' := by simpa using he'
      rw [← hkey]
      exact hsound.made e he }

/-- A key that is not stored is not kept. -/
theorem Sound.not_kept {c : Cache} {k : CacheKey} (hsound : Sound capacity make h c)
    (hnew : k ∉ c.keys) : ¬ ∃ j e, Kept h j e ∧ e.key = k := by
  rintro ⟨j, e, hkept, rfl⟩
  exact hnew (List.mem_map_of_mem ((hsound.mem_iff e).mpr ⟨j, hkept⟩))

theorem Sound.get_failed {c : Cache} {d : Datasheet} {err : LongNumeral}
    (hsound : Sound capacity make h c) (hnew : cacheKey d ∉ c.keys) (hmake : make d = .error err) :
    GetLawful capacity make h
      ⟨.get d, c, .entry (.error (.noRun err)), { c with misses := c.misses + 1 }⟩ d where
  hit_iff := iff_of_false (Nat.lt_irrefl c.hits) (hsound.not_kept hnew)
  hit j e hkept hkey := absurd ⟨j, e, hkept, hkey⟩ (hsound.not_kept hnew)
  miss _ := ⟨rfl, rfl⟩
  stored _ run hrun := by simp [hmake] at hrun
  evicted _ run hrun := by simp [hmake] at hrun
  failed _ err' herr := by
    obtain rfl : err = err' := by simpa [hmake] using herr
    exact ⟨rfl, rfl⟩
  made e he := by simp at he

/-- What goes when a run is stored: the head of the queue, if there is no room. -/
theorem Sound.evicts {c : Cache} {new : CacheEntry} (hcapacity : 1 ≤ capacity)
    (hsound : Sound capacity make h c) (hbefore : s.before = c)
    (hafter : s.after.entries = Cache.room capacity c.entries ++ [new]) (hnew : new.key ∉ c.keys) :
    if (c.size : Int) = capacity then ∃ j e, Oldest h j e ∧ ∀ k, s.Removes k ↔ k = e.key
    else ∀ k, ¬ s.Removes k := by
  have hbounded := hsound.bounded
  rw [Cache.size] at hbounded ⊢
  cases hes : c.entries with
  | nil =>
    have hroom : ¬ (0 : Int) = capacity := by omega
    simp [hroom, CacheStep.Removes, hbefore, Cache.keys, hes]
  | cons e rest =>
    have hkeys : s.before.keys = e.key :: rest.map CacheEntry.key := by
      rw [hbefore, Cache.keys, hes, List.map_cons]
    by_cases hfull : ((e :: rest).length : Int) = capacity
    · rw [if_pos hfull]
      obtain ⟨j, holdest⟩ := hsound.oldest hes
      refine ⟨j, e, holdest, fun k => ?_⟩
      have hleft : s.after.keys = rest.map CacheEntry.key ++ [new.key] := by
        rw [Cache.keys, hafter, Cache.room, hes, if_pos (by omega), List.tail_cons, List.map_append,
          List.map_singleton]
      have hdistinct := hsound.distinct
      rw [← hbefore, hkeys] at hdistinct hnew
      rw [CacheStep.Removes, hkeys, hleft, List.mem_cons, List.mem_append, List.mem_singleton]
      -- the oldest key is gone: it is neither among the rest nor the new one
      constructor
      · rintro ⟨rfl | hrest, hgone⟩
        · rfl
        · exact absurd (Or.inl hrest) hgone
      · rintro rfl
        refine ⟨Or.inl rfl, ?_⟩
        rintro (hrest | hsame)
        · exact (List.nodup_cons.mp hdistinct).1 hrest
        · exact hnew (hsame ▸ List.mem_cons_self)
    · rw [if_neg hfull]
      rintro k ⟨hk, hgone⟩
      refine hgone ?_
      rw [hes] at hbounded
      rw [Cache.keys, hafter, Cache.room, hes, if_neg (by omega), List.map_append, List.map_cons]
      exact List.mem_append_left _ (hkeys ▸ hk)

theorem Sound.get_stored {c : Cache} {d : Datasheet} {run : Generation} (hcapacity : 1 ≤ capacity)
    (hsound : Sound capacity make h c) (hnew : cacheKey d ∉ c.keys) (hmake : make d = .ok run) :
    GetLawful capacity make h ⟨.get d, c, .entry (.ok ⟨cacheKey d, c.next, run⟩),
      ⟨Cache.room capacity c.entries ++ [⟨cacheKey d, c.next, run⟩], c.hits, c.misses + 1,
        c.next + 1⟩⟩ d where
  hit_iff := iff_of_false (Nat.lt_irrefl c.hits) (hsound.not_kept hnew)
  hit j e hkept hkey := absurd ⟨j, e, hkept, hkey⟩ (hsound.not_kept hnew)
  miss _ := ⟨rfl, rfl⟩
  stored _ run' hrun := by
    obtain rfl : run = run' := by simpa [hmake] using hrun
    refine ⟨⟨cacheKey d, c.next, run⟩, ⟨rfl, Nat.lt_succ_self _⟩, rfl, rfl, ?_, ?_⟩
    · exact List.mem_append_right _ (List.mem_singleton_self _)
    · exact fun t ht e he => Nat.ne_of_lt (hsound.fresh t ht e he)
  evicted _ run' hrun := hsound.evicts hcapacity rfl rfl hnew
  failed _ err herr := by simp [hmake] at herr
  made e he := by
    obtain rfl : _ = e := by simpa using he
    exact ⟨d, rfl, hmake⟩

theorem invalidateLawful (c : Cache) (id : String) :
    InvalidateLawful ⟨.invalidate id, c,
      .dropped (c.keys.countP fun k => k.datasheetId == id),
      { c with entries := c.entries.filter fun e => e.key.datasheetId != id }⟩ id where
  removes_iff k := by
    have hkeys : (c.entries.filter fun e => e.key.datasheetId != id).map CacheEntry.key
        = c.keys.filter fun k => k.datasheetId != id := by
      rw [Cache.keys, List.filter_map]
      rfl
    rw [CacheStep.Removes]
    change k ∈ c.keys ∧ k ∉ (c.entries.filter _).map CacheEntry.key ↔ _
    rw [hkeys, List.mem_filter]
    simp only [bne_iff_ne, not_and, not_not]
    exact and_congr_right fun hk => ⟨fun h => h hk, fun h _ => h⟩
  answer := rfl
  stores e he := by simp [CacheStep.Stores] at he
  counters := ⟨rfl, rfl⟩

/-- **One step keeps what is promised.** -/
theorem Sound.lawful (hcapacity : 1 ≤ capacity) (hsound : Sound capacity make h s.before)
    (htook : Took capacity make s) : Lawful capacity make h s := by
  have hnext := hsound.concat hcapacity htook
  exact {
    distinct := hnext.distinct
    bounded := hnext.bounded
    counted := hnext.counted
    get := by
      intro d hd
      cases htook with
      | hit c d' e he hkey =>
        obtain rfl : d' = d := by simpa using hd
        exact hsound.get_hit he hkey
      | failed c d' err hnew hmake =>
        obtain rfl : d' = d := by simpa using hd
        exact hsound.get_failed hnew hmake
      | stored c d' run hnew hmake =>
        obtain rfl : d' = d := by simpa using hd
        exact hsound.get_stored hcapacity hnew hmake
      | invalidated c id => simp at hd
    invalidate := by
      intro id hid
      cases htook with
      | invalidated c id' =>
        obtain rfl : id' = id := by simpa using hid
        exact invalidateLawful c id'
      | _ => simp at hid }

end Contract

/-- **Every step of every run keeps the contract**: keys are distinct and bounded, gets are counted,
    a get is a hit exactly if its key is kept, a miss on a full store evicts the key stored longest
    ago, an invalidation takes the keys of its id.  What a get answers is a generation of some
    datasheet with the same key, so it is that of this one if equal keys generate alike. -/
theorem lawful_run (capacity : Int) (hcapacity : 1 ≤ capacity) (s : Settings)
    (us : List CacheUse) (u : CacheUse) :
    let make := fun d => generate d s
    let last := (Cache.empty.runFrom capacity make us).step capacity make u
    Lawful capacity make (Cache.empty.historyFrom capacity make us) last
      ∧ ∀ d e, u = .get d → last.answer = .entry (.ok e) →
        (∀ v, cacheKey v = cacheKey d → generate v s = generate d s) →
          generate d s = .ok e.run := by
  intro make last
  have hsound : Sound capacity make (Cache.empty.historyFrom capacity make us)
      (Cache.empty.runFrom capacity make us) := sound_run hcapacity us
  rw [← Cache.before_step capacity make (Cache.empty.runFrom capacity make us) u] at hsound
  have hlawful := hsound.lawful hcapacity (Cache.took_step capacity make hcapacity _ u)
  refine ⟨hlawful, fun d e hd he hsame => ?_⟩
  have huse : last.use = .get d := by
    subst hd
    rfl
  obtain ⟨v, hkey, hmake⟩ := (hlawful.get d huse).made e he
  rw [← hsame v hkey]
  exact hmake

/-! ## A store of one -/

/-- A datasheet that is all options. -/
def bare (id : String) (os : List OptionLine) : Datasheet := ⟨id, "", "", [], [], [], os⟩

theorem generate_bare (id : String) (s : Settings) :
    generate (bare id []) s = .ok (generateFrom (bare id []) [] s) := rfl

/-- A get on a store of one that holds another datasheet's run. -/
def secondGet (d : Datasheet) : CacheStep :=
  (Cache.empty.runFrom 1 (fun d => generate d .standard) [.get (bare "u" [])]).step 1
    (fun d => generate d .standard) (.get d)

theorem before_secondGet (d : Datasheet) : (secondGet d).before
    = ⟨[⟨cacheKey (bare "u" []), 0, generateFrom (bare "u" []) [] .standard⟩], 0, 1, 1⟩ := by
  rw [secondGet, Cache.before_step, Cache.runFrom, List.foldl_cons, List.foldl_nil,
    Cache.step_stored 1 _ le_rfl (c := .empty) List.not_mem_nil (generate_bare "u" .standard)]
  rfl

theorem keys_before_secondGet (d : Datasheet) :
    (secondGet d).before.keys = [cacheKey (bare "u" [])] := by
  rw [before_secondGet]
  rfl

theorem notMem_keys_secondGet (os : List OptionLine) :
    cacheKey (bare "v" os) ∉ (secondGet (bare "v" os)).before.keys := by
  rw [keys_before_secondGet, List.mem_singleton]
  intro hkey
  have hid : "v" = "u" := congrArg CacheKey.datasheetId hkey
  exact absurd hid (by decide)

/-- A second datasheet evicts the first. -/
theorem evicts_bare :
    (1 : Int) ≤ 1 ∧ ∀ k, (secondGet (bare "v" [])).Removes k ↔ k = cacheKey (bare "u" []) := by
  have hlawful := (lawful_run 1 le_rfl .standard [.get (bare "u" [])] (.get (bare "v" []))).1
  have hmiss : ¬ (secondGet (bare "v" [])).IsHit := by
    have hnew := notMem_keys_secondGet []
    rw [secondGet, Cache.before_step] at hnew
    rw [secondGet, Cache.step_stored 1 _ le_rfl hnew (generate_bare "v" .standard)]
    exact Nat.lt_irrefl _
  have hevicted := (hlawful.get (bare "v" []) rfl).evicted hmiss _ (generate_bare "v" .standard)
  change if ((secondGet (bare "v" [])).before.size : Int) = 1
    then ∃ j e, Oldest _ j e ∧ ∀ k, (secondGet (bare "v" [])).Removes k ↔ k = e.key
    else _ at hevicted
  rw [if_pos (by rw [before_secondGet]; rfl)] at hevicted
  obtain ⟨j, e, -, hremoves⟩ := hevicted
  have hold : e.key ∈ (secondGet (bare "v" [])).before.keys := ((hremoves e.key).mpr rfl).1
  rw [keys_before_secondGet, List.mem_singleton] at hold
  exact ⟨le_rfl, hold ▸ hremoves⟩

/-- A datasheet whose only option holds a count of too many digits. -/
def unreadable : Datasheet := bare "v" [⟨"v", 1, "", (boltForAxes paddedOne).text⟩]

theorem generate_unreadable (s : Settings) : generate unreadable s = .error ⟨4301⟩ := by
  have hparse : parse (boltForAxes paddedOne).text 1 = .error ⟨4301⟩ := by
    rw [Replacement.parse_text_of_long, boltForAxes, length_paddedOne]
    rw [boltForAxes, length_paddedOne]
    decide
  have hoptions : parseOptions unreadable.options = .error ⟨4301⟩ := by
    rw [parseOptions, unreadable, bare, inLineOrder, List.foldl_cons, List.foldl_nil, insertLine,
      List.mapM_cons, hparse]
    rfl
  rw [generate, hoptions]
  rfl

/-- The get of such a datasheet is a miss on a full store and evicts nothing. -/
theorem not_evicts_unreadable :
    ((secondGet unreadable).before.size : Int) = 1
      ∧ (secondGet unreadable).after.misses = (secondGet unreadable).before.misses + 1
      ∧ ∀ k, ¬ (secondGet unreadable).Removes k := by
  have hnew := notMem_keys_secondGet unreadable.options
  change cacheKey unreadable ∉ (secondGet unreadable).before.keys at hnew
  refine ⟨by rw [before_secondGet]; rfl, ?_⟩
  rw [secondGet, Cache.before_step] at hnew
  rw [secondGet, Cache.step_failed 1 (fun d => generate d .standard) hnew
    (generate_unreadable .standard)]
  exact ⟨rfl, fun k hk => hk.2 hk.1⟩

end Muster.Wargear
