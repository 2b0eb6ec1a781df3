import Mathlib

/-!
# Least-recently-used caches

A bounded key-value cache that keeps its entries in order of use and, when a new key arrives
at full capacity, drops the entry used longest ago. The operations follow the documented
behaviour of the `lru` crate's `LruCache`: `put` inserts or replaces a key and makes it the
most recent, `peek` and `contains` look a key up without reordering, `pop` removes a key.
`get_mut` on a present key is a lookup followed by a `put` of the updated value, which moves
the key to the front in the same way.

Entries are kept most recent first. The structure carries its invariant: keys are distinct,
there are at most `capacity` of them, and the capacity is positive (`NonZeroUsize`).
-/

namespace Lru

theorem lookup_of_isPrefix {κ ν : Type} [DecidableEq κ] {shorter longer : List (κ × ν)}
    (prefixOf : shorter <+: longer) {key : κ} {value : ν}
    (found : shorter.lookup key = some value) : longer.lookup key = some value := by
  obtain ⟨rest, rfl⟩ := prefixOf
  induction shorter with
  | nil => simp at found
  | cons entry entries ih =>
    by_cases hit : key = entry.1
    · subst hit
      simpa [List.lookup] using found
    · have skip : (entry :: entries).lookup key = entries.lookup key := by
        simp [List.lookup, beq_false_of_ne hit]
      have skipLonger : (entry :: entries ++ rest).lookup key = (entries ++ rest).lookup key := by
        simp [List.lookup, beq_false_of_ne hit]
      rw [skipLonger]
      exact ih (skip ▸ found)

/-- The entries without those of one key. -/
def removeKey {κ ν : Type} [DecidableEq κ] (removed : κ) : List (κ × ν) → List (κ × ν)
  | [] => []
  | entry :: rest => if entry.1 = removed then removeKey removed rest else entry :: removeKey removed rest

section RemoveKey

variable {κ ν : Type} [DecidableEq κ]

theorem lookup_removeKey (entries : List (κ × ν)) (removed key : κ) :
    (removeKey removed entries).lookup key = if key = removed then none else entries.lookup key := by
  induction entries with
  | nil => simp [removeKey]
  | cons entry entries ih =>
    by_cases dropped : entry.1 = removed
    · rw [removeKey, if_pos dropped, ih]
      by_cases hit : key = removed
      · simp [hit]
      · have other : key ≠ entry.1 := dropped ▸ hit
        simp [hit, List.lookup, beq_false_of_ne other]
    · rw [removeKey, if_neg dropped]
      by_cases hit : key = entry.1
      · subst hit
        simp [List.lookup, dropped]
      · simp only [List.lookup, beq_false_of_ne hit, ih]

theorem removeKey_sublist (entries : List (κ × ν)) (removed : κ) :
    List.Sublist (removeKey removed entries) entries := by
  induction entries with
  | nil => exact List.Sublist.slnil
  | cons entry entries ih =>
    rw [removeKey]
    split
    · exact ih.cons entry
    · exact ih.cons_cons entry

theorem not_mem_removeKey (entries : List (κ × ν)) (removed : κ) :
    removed ∉ (removeKey removed entries).map Prod.fst := by
  induction entries with
  | nil => simp [removeKey]
  | cons entry entries ih =>
    rw [removeKey]
    split
    · exact ih
    · rename_i kept
      simp only [List.map_cons, List.mem_cons, not_or]
      exact ⟨fun same => kept same.symm, ih⟩

end RemoveKey

/-- A bounded cache of entries, most recently used first. -/
structure LruCache (κ ν : Type) [DecidableEq κ] where
  capacity : Nat
  entries : List (κ × ν)
  capacity_pos : 0 < capacity
  keys_nodup : (entries.map Prod.fst).Nodup
  length_le : entries.length ≤ capacity

namespace LruCache

variable {κ ν : Type} [DecidableEq κ]

/-- `LruCache::new`: an empty cache of a positive capacity. -/
def new (capacity : Nat) (capacity_pos : 0 < capacity) : LruCache κ ν :=
  ⟨capacity, [], capacity_pos, List.nodup_nil, Nat.zero_le _⟩

/-- `LruCache::peek`: the value of a key, without changing the order of use. -/
def peek (cache : LruCache κ ν) (key : κ) : Option ν :=
  cache.entries.lookup key

def contains (cache : LruCache κ ν) (key : κ) : Bool :=
  (cache.peek key).isSome

/-- `LruCache::put`: the key moves to the front with its new value; at full capacity a new key
drops the least recently used entry, the last one. -/
def put (cache : LruCache κ ν) (key : κ) (value : ν) : LruCache κ ν where
  capacity := cache.capacity
  entries := ((key, value) :: removeKey key cache.entries).take cache.capacity
  capacity_pos := cache.capacity_pos
  keys_nodup := by
    apply List.Nodup.sublist (List.Sublist.map _ (List.take_sublist _ _))
    rw [List.map_cons, List.nodup_cons]
    exact ⟨not_mem_removeKey cache.entries key,
      cache.keys_nodup.sublist ((removeKey_sublist cache.entries key).map _)⟩
  length_le := by
    rw [List.length_take]
    exact Nat.min_le_left _ _

/-- `LruCache::pop`: the cache without the key. -/
def pop (cache : LruCache κ ν) (key : κ) : LruCache κ ν where
  capacity := cache.capacity
  entries := removeKey key cache.entries
  capacity_pos := cache.capacity_pos
  keys_nodup := cache.keys_nodup.sublist ((removeKey_sublist cache.entries key).map _)
  length_le := Nat.le_trans (removeKey_sublist cache.entries key).length_le cache.length_le

@[simp] theorem peek_new (capacity : Nat) (capacity_pos : 0 < capacity) (key : κ) :
    (new capacity capacity_pos : LruCache κ ν).peek key = none :=
  rfl

@[simp] theorem peek_put_self (cache : LruCache κ ν) (key : κ) (value : ν) :
    (cache.put key value).peek key = some value := by
  have succ : cache.capacity = (cache.capacity - 1) + 1 := by
    have := cache.capacity_pos
    omega
  simp only [peek, put]
  rw [succ, List.take_succ_cons]
  simp [List.lookup]

theorem peek_put_of_ne (cache : LruCache κ ν) {key other : κ} (value : ν) (different : other ≠ key)
    {found : ν} (present : (cache.put key value).peek other = some found) :
    cache.peek other = some found := by
  have whole := lookup_of_isPrefix (List.take_prefix _ _) present
  rw [List.lookup, beq_false_of_ne different, lookup_removeKey, if_neg different] at whole
  exact whole

@[simp] theorem peek_pop_self (cache : LruCache κ ν) (key : κ) : (cache.pop key).peek key = none := by
  simp [pop, peek, lookup_removeKey]

end LruCache

end Lru
