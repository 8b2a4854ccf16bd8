import Mathlib.Data.List.Basic
import Mathlib.Order.Lattice

/-! Maps as lists of entries in the order of their keys, with one entry for a key: what a tree map
holds, as its iterator gives it. -/

namespace SshProxy.Library
open List

/-- Entries in the order of their keys; no key stands twice. -/
structure SortedMap (κ β : Type) [LinearOrder κ] where
  entries : List (κ × β)
  sorted : entries.Pairwise fun first second => first.1 < second.1

namespace SortedMap
variable {κ β : Type} [LinearOrder κ]

def insertEntry (key : κ) (value : β) : List (κ × β) → List (κ × β)
  | [] => [(key, value)]
  | entry :: rest =>
    if key < entry.1 then (key, value) :: entry :: rest
    else if key = entry.1 then (key, value) :: rest
    else entry :: insertEntry key value rest

variable {key : κ} {value : β} {entries : List (κ × β)}

theorem mem_insertEntry {entry : κ × β} (present : entry ∈ insertEntry key value entries) :
    entry = (key, value) ∨ entry ∈ entries := by
  induction entries with
  | nil => exact .inl (mem_singleton.mp present)
  | cons first rest ih =>
    rw [insertEntry] at present
    split at present
    next => exact mem_cons.mp present
    next =>
      split at present
      next => exact (mem_cons.mp present).imp_right (mem_cons_of_mem first)
      next =>
        rcases mem_cons.mp present with rfl | later
        · exact .inr mem_cons_self
        · exact (ih later).imp_right (mem_cons_of_mem first)

theorem pairwise_insertEntry (key : κ) (value : β) (sorted : entries.Pairwise fun first second => first.1 < second.1) :
    (insertEntry key value entries).Pairwise fun first second => first.1 < second.1 := by
  induction entries with
  | nil => exact pairwise_singleton _ _
  | cons first rest ih =>
    obtain ⟨least, others⟩ := pairwise_cons.mp sorted
    rw [insertEntry]
    split
    next before =>
      refine pairwise_cons.mpr ⟨?_, sorted⟩
      intro entry present
      rcases mem_cons.mp present with rfl | later
      · exact before
      · exact lt_trans before (least entry later)
    next notBefore =>
      split
      next same =>
        refine pairwise_cons.mpr ⟨?_, others⟩
        intro entry present
        exact same ▸ least entry present
      next different =>
        refine pairwise_cons.mpr ⟨?_, ih others⟩
        intro entry present
        rcases mem_insertEntry present with rfl | later
        · exact lt_of_le_of_ne (not_lt.mp notBefore) (Ne.symm different)
        · exact least entry later

variable {key other : κ}

theorem lookup_insertEntry_of_ne (different : other ≠ key) (value : β) (entries : List (κ × β)) :
    (insertEntry key value entries).lookup other = entries.lookup other := by
  have unlike : (other == key) = false := beq_false_of_ne different
  induction entries with
  | nil => simp [insertEntry, lookup_cons, unlike]
  | cons first rest ih =>
    rw [insertEntry]
    split
    next => rw [lookup_cons, unlike]
    next =>
      split
      next same => rw [lookup_cons, lookup_cons, ← same, unlike]
      next => rw [lookup_cons, lookup_cons, ih]

theorem lookup_filter_of_ne (different : other ≠ key) (entries : List (κ × β)) :
    (entries.filter (·.1 ≠ key)).lookup other = entries.lookup other := by
  induction entries with
  | nil => rfl
  | cons first rest ih =>
    by_cases same : first.1 = key
    · rw [filter_cons_of_neg (by simpa using same), ih, lookup_cons, same, beq_false_of_ne different]
    · rw [filter_cons_of_pos (by simpa using same), lookup_cons, lookup_cons, ih]

def empty : SortedMap κ β := ⟨[], .nil⟩

def get (map : SortedMap κ β) (key : κ) : Option β := map.entries.lookup key

def insert (map : SortedMap κ β) (key : κ) (value : β) : SortedMap κ β :=
  ⟨insertEntry key value map.entries, pairwise_insertEntry key value map.sorted⟩

def erase (map : SortedMap κ β) (key : κ) : SortedMap κ β :=
  ⟨map.entries.filter (·.1 ≠ key), map.sorted.filter _⟩

def retain (map : SortedMap κ β) (condition : κ × β → Bool) : SortedMap κ β :=
  ⟨map.entries.filter condition, map.sorted.filter condition⟩

theorem get_insert_of_ne (different : other ≠ key) (map : SortedMap κ β) (value : β) :
    (map.insert key value).get other = map.get other := lookup_insertEntry_of_ne different value map.entries

theorem lookup_insertEntry_self (key : κ) (value : β) (entries : List (κ × β)) :
    (insertEntry key value entries).lookup key = some value := by
  induction entries with
  | nil => rw [insertEntry, lookup_cons, beq_self_eq_true]
  | cons first rest ih =>
    rw [insertEntry]
    split
    next => rw [lookup_cons, beq_self_eq_true]
    next =>
      split
      next => rw [lookup_cons, beq_self_eq_true]
      next different => rw [lookup_cons, beq_false_of_ne different, ih]

theorem lookup_filter_self (key : κ) (entries : List (κ × β)) : (entries.filter (·.1 ≠ key)).lookup key = none := by
  rw [lookup_eq_none_iff]
  intro entry present
  have unlike := (mem_filter.mp present).2
  exact bne_iff_ne.mpr (Ne.symm (by simpa using unlike))

theorem get_insert_self (map : SortedMap κ β) (key : κ) (value : β) : (map.insert key value).get key = some value :=
  lookup_insertEntry_self key value map.entries

theorem get_erase_self (map : SortedMap κ β) (key : κ) : (map.erase key).get key = none :=
  lookup_filter_self key map.entries

theorem get_erase_of_ne (different : other ≠ key) (map : SortedMap κ β) :
    (map.erase key).get other = map.get other := lookup_filter_of_ne different map.entries

def eraseAll (map : SortedMap κ β) (keys : List κ) : SortedMap κ β := keys.foldl erase map

theorem get_eraseAll (map : SortedMap κ β) (keys : List κ) (key : κ) :
    (map.eraseAll keys).get key = if key ∈ keys then none else map.get key := by
  unfold eraseAll
  induction keys generalizing map with
  | nil => rfl
  | cons first rest ih =>
    rw [foldl_cons, ih]
    by_cases same : key = first
    · simp [same, get_erase_self]
    · simp [same, get_erase_of_ne same]

theorem entries_eraseAll (map : SortedMap κ β) (keys : List κ) :
    (map.eraseAll keys).entries = map.entries.filter (·.1 ∉ keys) := by
  unfold eraseAll
  induction keys generalizing map with
  | nil => simp
  | cons first rest ih =>
    rw [foldl_cons, ih, erase, filter_filter]
    exact filter_congr fun entry _ => by simp [Bool.and_comm]

variable {map : SortedMap κ β}

theorem mem_eraseAll {keys : List κ} {entry : κ × β} (present : entry ∈ (map.eraseAll keys).entries) :
    entry ∈ map.entries := by
  rw [entries_eraseAll] at present
  exact mem_of_mem_filter present

theorem mem_of_get (found : map.get key = some value) : (key, value) ∈ map.entries := by
  obtain ⟨front, rest, split, _⟩ := lookup_eq_some_iff.mp found
  rw [split]
  exact mem_append_right front mem_cons_self

theorem get_of_mem (present : (key, value) ∈ map.entries) : map.get key = some value := by
  obtain ⟨entries, sorted⟩ := map
  unfold get
  induction entries with
  | nil => cases present
  | cons first rest ih =>
    obtain ⟨least, others⟩ := pairwise_cons.mp sorted
    rcases mem_cons.mp present with rfl | later
    · rw [lookup_cons, beq_self_eq_true]
    · rw [lookup_cons, beq_false_of_ne (ne_of_gt (least _ later))]
      exact ih others later

theorem length_filter_insertEntry (condition : κ × β → Bool) (key : κ) (value : β) (entries : List (κ × β)) :
    ((insertEntry key value entries).filter condition).length ≤ (entries.filter condition).length + 1 := by
  induction entries with
  | nil =>
    rw [insertEntry]
    exact length_filter_le condition [(key, value)]
  | cons entry rest ih =>
    rw [insertEntry]
    split
    next =>
      rw [filter_cons]
      split <;> simp
    next =>
      split
      next =>
        rw [filter_cons, filter_cons]
        split <;> split <;> grind
      next =>
        rw [filter_cons, filter_cons]
        split
        next => exact Nat.succ_le_succ ih
        next => exact ih

theorem lookup_of_before (before : ∀ entry ∈ entries, key < entry.1) : entries.lookup key = none := by
  rw [lookup_eq_none_iff]
  intro entry present
  exact bne_iff_ne.mpr (ne_of_lt (before entry present))

theorem filterMap_insertEntry {α : Type} {read : κ × β → Option α}
    (sorted : entries.Pairwise fun first second => first.1 < second.1)
    (same : ((entries.lookup key).bind fun old => read (key, old)) = read (key, value)) :
    (insertEntry key value entries).filterMap read = entries.filterMap read := by
  induction entries with
  | nil =>
    rw [insertEntry, filterMap_cons, ← same]
    rfl
  | cons first rest ih =>
    obtain ⟨least, others⟩ := pairwise_cons.mp sorted
    rw [insertEntry]
    split
    next before =>
      have absent : (first :: rest).lookup key = none := by
        apply lookup_of_before
        intro entry present
        rcases mem_cons.mp present with rfl | later
        · exact before
        · exact lt_trans before (least entry later)
      rw [absent] at same
      rw [filterMap_cons, ← same]
      rfl
    next =>
      split
      next here =>
        rw [here, lookup_cons, beq_self_eq_true] at same
        rw [here, filterMap_cons, filterMap_cons, ← same]
        rfl
      next elsewhere =>
        rw [lookup_cons, beq_false_of_ne elsewhere] at same
        rw [filterMap_cons, filterMap_cons, ih others same]

theorem get_retain_of {condition : κ × β → Bool} (found : map.get key = some value)
    (meets : condition (key, value) = true) : (map.retain condition).get key = some value :=
  get_of_mem (mem_filter.mpr ⟨mem_of_get found, meets⟩)

theorem get_retain {condition : κ × β → Bool} (found : (map.retain condition).get key = some value) :
    map.get key = some value :=
  get_of_mem (mem_filter.mp (mem_of_get found)).1

end SortedMap
end SshProxy.Library
