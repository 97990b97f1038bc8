import Mathlib.Data.List.Nodup
import Mathlib.Tactic.Common

/-!
# Maps in insertion order

The `Map` of ECMAScript: the entries are kept in the order in which their keys were
first set, a key that is set again keeps its place, and a loop over the entries visits
them in this order.
-/

namespace NestUserService.Lib

structure OrderedMap (β : Type) where
  entries : List (String × β)
  nodup : (entries.map Prod.fst).Nodup

namespace OrderedMap

variable {β : Type}

def empty : OrderedMap β := ⟨[], List.nodup_nil⟩

def keys (m : OrderedMap β) : List String := m.entries.map Prod.fst

def size (m : OrderedMap β) : Nat := m.entries.length

def get? (m : OrderedMap β) (k : String) : Option β := m.entries.lookup k

def has (m : OrderedMap β) (k : String) : Bool := (m.get? k).isSome

/-- The entries after `k` was set, when it is there already. -/
def replace (k : String) (v : β) (l : List (String × β)) : List (String × β) :=
  l.map fun e => if e.1 = k then (k, v) else e

theorem map_fst_replace (k : String) (v : β) (l : List (String × β)) :
    (replace k v l).map Prod.fst = l.map Prod.fst := by
  unfold replace
  rw [List.map_map]
  apply List.map_congr_left
  intro e _
  by_cases h : e.1 = k
  · simp [h]
  · simp [h]

def set (m : OrderedMap β) (k : String) (v : β) : OrderedMap β :=
  if h : k ∈ m.keys then
    ⟨replace k v m.entries, by rw [map_fst_replace]; exact m.nodup⟩
  else
    ⟨m.entries ++ [(k, v)], by
      rw [List.map_append, List.map_singleton]
      exact List.Nodup.append m.nodup (List.nodup_singleton k) (List.disjoint_singleton.mpr h)⟩

def delete (m : OrderedMap β) (k : String) : OrderedMap β :=
  ⟨m.entries.filter (·.1 ≠ k), (List.filter_sublist.map Prod.fst).nodup m.nodup⟩

def deleteAll (m : OrderedMap β) (ks : List String) : OrderedMap β := ks.foldl delete m

theorem mem_of_lookup {l : List (String × β)} {k : String} {v : β} (h : l.lookup k = some v) :
    (k, v) ∈ l := by
  induction l with
  | nil => cases h
  | cons e l ih =>
    obtain ⟨k', v'⟩ := e
    by_cases hk : k = k'
    · subst hk
      simp only [List.lookup_cons_self, Option.some.injEq] at h
      simp [h]
    · have hb : (k == k') = false := by simpa using hk
      rw [List.lookup_cons, hb] at h
      exact List.mem_cons_of_mem _ (ih h)

theorem lookup_of_mem {l : List (String × β)} (hn : (l.map Prod.fst).Nodup) {k : String} {v : β}
    (h : (k, v) ∈ l) : l.lookup k = some v := by
  induction l with
  | nil => cases h
  | cons e l ih =>
    obtain ⟨k', v'⟩ := e
    rw [List.map_cons, List.nodup_cons] at hn
    by_cases hk : k = k'
    · subst hk
      rcases List.mem_cons.mp h with he | hm
      · cases he
        simp
      · exact absurd (List.mem_map_of_mem (f := Prod.fst) hm) hn.1
    · have hb : (k == k') = false := by simpa using hk
      have hm : (k, v) ∈ l := (List.mem_cons.mp h).resolve_left fun he => hk (congrArg Prod.fst he)
      rw [List.lookup_cons, hb]
      exact ih hn.2 hm

theorem get?_eq_some {m : OrderedMap β} {k : String} {v : β} :
    m.get? k = some v ↔ (k, v) ∈ m.entries :=
  ⟨mem_of_lookup, lookup_of_mem m.nodup⟩

theorem mem_keys {m : OrderedMap β} {k : String} : k ∈ m.keys ↔ ∃ v, m.get? k = some v := by
  unfold keys
  simp only [List.mem_map, get?_eq_some]
  constructor
  · rintro ⟨⟨k', v⟩, h, rfl⟩
    exact ⟨v, h⟩
  · rintro ⟨v, h⟩
    exact ⟨(k, v), h, rfl⟩

theorem has_iff {m : OrderedMap β} {k : String} : m.has k = true ↔ k ∈ m.keys := by
  rw [mem_keys]
  exact Option.isSome_iff_exists

theorem get?_eq_none {m : OrderedMap β} {k : String} : m.get? k = none ↔ k ∉ m.keys := by
  rw [mem_keys, not_exists]
  exact Option.eq_none_iff_forall_ne_some

/-- Two maps agree when they hold the same entries. -/
theorem get?_congr {m m' : OrderedMap β} {k k' : String}
    (h : ∀ v, (k, v) ∈ m.entries ↔ (k', v) ∈ m'.entries) : m.get? k = m'.get? k' := by
  apply Option.ext
  intro v
  rw [get?_eq_some, get?_eq_some]
  exact h v

@[simp] theorem get?_empty (k : String) : (empty : OrderedMap β).get? k = none := rfl

@[simp] theorem get?_set_self (m : OrderedMap β) (k : String) (v : β) :
    (m.set k v).get? k = some v := by
  rw [get?_eq_some]
  unfold set
  by_cases h : k ∈ m.keys
  · obtain ⟨⟨k', v'⟩, hm, rfl⟩ := List.mem_map.mp h
    rw [dif_pos h]
    exact List.mem_map.mpr ⟨(k', v'), hm, by simp⟩
  · rw [dif_neg h]
    simp

theorem get?_set_ne (m : OrderedMap β) {k k' : String} (v : β) (hk : k' ≠ k) :
    (m.set k v).get? k' = m.get? k' := by
  apply get?_congr
  intro v'
  unfold set
  by_cases h : k ∈ m.keys
  · rw [dif_pos h]
    simp only [replace, List.mem_map]
    constructor
    · rintro ⟨⟨k₀, v₀⟩, hm, he⟩
      by_cases h0 : k₀ = k
      · rw [if_pos h0] at he
        exact absurd (congrArg Prod.fst he).symm hk
      · rw [if_neg h0] at he
        rwa [he] at hm
    · intro hm
      exact ⟨(k', v'), hm, if_neg hk⟩
  · rw [dif_neg h]
    simp [hk]

@[simp] theorem get?_delete_self (m : OrderedMap β) (k : String) : (m.delete k).get? k = none := by
  rw [get?_eq_none]
  unfold delete keys
  simp

theorem get?_delete_ne (m : OrderedMap β) {k k' : String} (hk : k' ≠ k) :
    (m.delete k).get? k' = m.get? k' := by
  apply get?_congr
  intro v
  simp [delete, hk]

theorem get?_deleteAll (m : OrderedMap β) (ks : List String) (k : String) :
    (m.deleteAll ks).get? k = if k ∈ ks then none else m.get? k := by
  induction ks generalizing m with
  | nil => simp [deleteAll]
  | cons k' ks ih =>
    have h : (m.deleteAll (k' :: ks)).get? k = ((m.delete k').deleteAll ks).get? k := rfl
    rw [h, ih]
    by_cases hk : k = k'
    · subst hk
      simp
    · simp [hk, get?_delete_ne]

@[simp] theorem mem_keys_empty (k : String) : k ∉ (empty : OrderedMap β).keys := by
  simp [keys, empty]

theorem mem_keys_set {m : OrderedMap β} {k k' : String} {v : β} :
    k' ∈ (m.set k v).keys ↔ k' = k ∨ k' ∈ m.keys := by
  by_cases hk : k' = k
  · subst hk
    simp only [mem_keys, get?_set_self, true_or, iff_true]
    exact ⟨v, rfl⟩
  · simp only [mem_keys, get?_set_ne m v hk, hk, false_or]

theorem mem_keys_deleteAll {m : OrderedMap β} {ks : List String} {k : String} :
    k ∈ (m.deleteAll ks).keys ↔ k ∉ ks ∧ k ∈ m.keys := by
  rw [mem_keys, mem_keys, get?_deleteAll]
  by_cases h : k ∈ ks
  · simp [h]
  · simp [h]

theorem size_eq (m : OrderedMap β) : m.size = m.keys.length := by
  unfold size keys
  rw [List.length_map]

theorem nodup_keys (m : OrderedMap β) : m.keys.Nodup := m.nodup

@[simp] theorem size_empty : (empty : OrderedMap β).size = 0 := rfl

theorem size_set_le (m : OrderedMap β) (k : String) (v : β) : (m.set k v).size ≤ m.size + 1 := by
  unfold size set
  split
  · simp [replace]
  · simp

theorem size_delete_lt {m : OrderedMap β} {k : String} (h : k ∈ m.keys) :
    (m.delete k).size < m.size := by
  obtain ⟨e, hm, rfl⟩ := List.mem_map.mp h
  unfold size delete
  apply List.length_filter_lt_length_iff_exists.mpr
  exact ⟨e, hm, by simp⟩

theorem size_deleteAll_le (m : OrderedMap β) (ks : List String) :
    (m.deleteAll ks).size ≤ m.size := by
  induction ks generalizing m with
  | nil => exact Nat.le_refl _
  | cons k ks ih => exact Nat.le_trans (ih (m.delete k)) (List.length_filter_le _ _)

/-- Maps with the same keys have the same size. -/
theorem size_congr {γ : Type} {m : OrderedMap β} {m' : OrderedMap γ}
    (h : ∀ k, k ∈ m.keys ↔ k ∈ m'.keys) : m.size = m'.size := by
  rw [size_eq, size_eq]
  exact ((List.perm_ext_iff_of_nodup m.nodup_keys m'.nodup_keys).mpr h).length_eq

/-- The size of a map is the length of a list of its entries. -/
theorem size_eq_length {m : OrderedMap β} {l : List (String × β)} (hn : l.Nodup)
    (h : ∀ k v, m.get? k = some v ↔ (k, v) ∈ l) : m.size = l.length := by
  refine ((List.perm_ext_iff_of_nodup (List.Nodup.of_map _ m.nodup) hn).mpr ?_).length_eq
  rintro ⟨k, v⟩
  rw [← h, get?_eq_some]

end OrderedMap

end NestUserService.Lib
