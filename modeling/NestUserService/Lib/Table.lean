import Mathlib.Data.List.Forall2
import Mathlib.Data.List.Nodup
import Mathlib.Tactic.Common

/-!
# Tables with unique columns

A table is a list of rows in the order the store returns them, together with the
fact that every unique column separates the rows. Updates are patches that leave
the unique columns alone; inserts are refused when a unique value is taken.
-/

namespace NestUserService.Lib

/-- The unique columns of a row type. -/
class Keyed (α : Type) where
  keys : List (α → String)

variable {α : Type} [Keyed α]

structure Table (α : Type) [Keyed α] where
  rows : List α
  unique : ∀ k ∈ Keyed.keys (α := α), (rows.map k).Nodup

/-- A change of a row that keeps its unique columns. -/
structure Patch (α : Type) [Keyed α] where
  apply : α → α
  keeps : ∀ k ∈ Keyed.keys (α := α), ∀ r, k (apply r) = k r

namespace Table

def empty : Table α := ⟨[], by simp⟩

def singleton (r : α) : Table α := ⟨[r], by simp⟩

/-- `findFirst`, and `findUnique` when `p` tests a unique column. -/
def findFirst (t : Table α) (p : α → Bool) : Option α := t.rows.find? p

def patchRows (p : α → Bool) (f : Patch α) (rows : List α) : List α :=
  rows.map fun r => if p r then f.apply r else r

theorem map_patchRows {k : α → String} (hk : k ∈ Keyed.keys (α := α)) (p : α → Bool)
    (f : Patch α) (rows : List α) : (patchRows p f rows).map k = rows.map k := by
  unfold patchRows
  rw [List.map_map]
  apply List.map_congr_left
  intro r _
  by_cases hp : p r
  · simp [hp, f.keeps k hk r]
  · simp [hp]

def updateMany (t : Table α) (p : α → Bool) (f : Patch α) : Table α where
  rows := patchRows p f t.rows
  unique k hk := by rw [map_patchRows hk]; exact t.unique k hk

/-- `update`, refused when no row is selected. -/
def update (t : Table α) (p : α → Bool) (f : Patch α) : Option (Table α) :=
  if t.rows.any p then some (t.updateMany p f) else none

/-- No row holds one of the unique values of `r`. -/
def Vacant (t : Table α) (r : α) : Prop :=
  ∀ k ∈ Keyed.keys (α := α), ∀ r' ∈ t.rows, k r' ≠ k r

instance (t : Table α) (r : α) : Decidable (t.Vacant r) :=
  inferInstanceAs (Decidable (∀ k ∈ Keyed.keys (α := α), ∀ r' ∈ t.rows, k r' ≠ k r))

def insert (t : Table α) (r : α) (h : t.Vacant r) : Table α where
  rows := t.rows ++ [r]
  unique k hk := by
    rw [List.map_append, List.map_singleton]
    refine List.Nodup.append (t.unique k hk) (List.nodup_singleton _) ?_
    intro v hv hr
    obtain ⟨r', hr', rfl⟩ := List.mem_map.mp hv
    exact h k hk r' hr' (List.mem_singleton.mp hr)

/-- `create`, refused when a unique value is taken. -/
def create (t : Table α) (r : α) : Option (Table α) :=
  if h : t.Vacant r then some (t.insert r h) else none

/-- `upsert` with an empty `update` part. -/
def upsertKeep (t : Table α) (r : α) : Table α :=
  if h : t.Vacant r then t.insert r h else t

theorem mem_updateMany {t : Table α} {p : α → Bool} {f : Patch α} {r : α} :
    r ∈ (t.updateMany p f).rows ↔ ∃ r₀ ∈ t.rows, (if p r₀ then f.apply r₀ else r₀) = r := by
  simp [updateMany, patchRows]

/-- Rows that are neither selected nor results of the update are as before. -/
theorem mem_updateMany_other {t : Table α} {p : α → Bool} {f : Patch α} {r : α}
    (hf : ∀ r', p (f.apply r') = p r') (h : p r = false) :
    r ∈ (t.updateMany p f).rows ↔ r ∈ t.rows := by
  rw [mem_updateMany]
  constructor
  · rintro ⟨r₀, hr₀, rfl⟩
    by_cases hp : p r₀ = true
    · rw [if_pos hp, hf, hp] at h
      cases h
    · rwa [if_neg hp]
  · exact fun hr => ⟨r, hr, by rw [h]; rfl⟩

theorem update_eq_none {t : Table α} {p : α → Bool} {f : Patch α} :
    t.update p f = none ↔ ∀ r ∈ t.rows, p r = false := by
  unfold update
  split
  · rename_i h
    simp only [reduceCtorEq, false_iff]
    intro hn
    obtain ⟨r, hr, hp⟩ := List.any_eq_true.mp h
    rw [hn r hr] at hp
    cases hp
  · rename_i h
    simpa using h

theorem update_some {t t' : Table α} {p : α → Bool} {f : Patch α} (h : t.update p f = some t') :
    t' = t.updateMany p f := by
  unfold update at h
  split at h
  · exact (Option.some.inj h).symm
  · cases h

theorem update_of_mem {t : Table α} {p : α → Bool} {f : Patch α} {r : α}
    (hr : r ∈ t.rows) (hp : p r = true) : t.update p f = some (t.updateMany p f) := by
  unfold update
  rw [if_pos (List.any_eq_true.mpr ⟨r, hr, hp⟩)]

theorem create_of_vacant {t : Table α} {r : α} (h : t.Vacant r) :
    t.create r = some (t.insert r h) := dif_pos h

theorem create_of_not_vacant {t : Table α} {r : α} (h : ¬ t.Vacant r) :
    t.create r = none := dif_neg h

theorem mem_insert {t : Table α} {r r' : α} (h : t.Vacant r) :
    r' ∈ (t.insert r h).rows ↔ r' ∈ t.rows ∨ r' = r := by
  simp [insert]

/-- A created row is there. -/
theorem mem_create {t t' : Table α} {r : α} (h : t.create r = some t') : r ∈ t'.rows := by
  unfold create at h
  split at h
  · cases h
    exact (mem_insert _).mpr (Or.inr rfl)
  · cases h

theorem findFirst_mem {t : Table α} {p : α → Bool} {r : α} (h : t.findFirst p = some r) :
    r ∈ t.rows ∧ p r = true :=
  ⟨List.mem_of_find?_eq_some h, List.find?_some h⟩

theorem findFirst_eq_none {t : Table α} {p : α → Bool} :
    t.findFirst p = none ↔ ∀ r ∈ t.rows, p r = false := by
  simp [findFirst]

/-- A patch that the filter does not notice leaves the search where it was. -/
theorem findFirst_updateMany {t : Table α} {p q : α → Bool} {f : Patch α}
    (hf : ∀ r, p (f.apply r) = p r) :
    (t.updateMany q f).findFirst p = (t.findFirst p).map fun r => if q r then f.apply r else r := by
  have hsame : (p ∘ fun r => if q r then f.apply r else r) = p := by
    funext r
    by_cases hq : q r = true
    · simp [hq, hf]
    · simp [hq]
  unfold findFirst updateMany patchRows
  rw [List.find?_map, hsame]

/-- A unique column determines the row. -/
theorem eq_of_key {t : Table α} {k : α → String} (hk : k ∈ Keyed.keys (α := α)) {r r' : α}
    (hr : r ∈ t.rows) (hr' : r' ∈ t.rows) (h : k r = k r') : r = r' :=
  List.inj_on_of_nodup_map (t.unique k hk) hr hr' h

/-- A lookup by a unique column finds the row that holds the value. -/
theorem findFirst_key {t : Table α} {k : α → String} (hk : k ∈ Keyed.keys (α := α)) {r : α}
    (hr : r ∈ t.rows) : t.findFirst (fun r' => k r' == k r) = some r := by
  cases h : t.findFirst (fun r' => k r' == k r) with
  | none =>
    have hn := findFirst_eq_none.mp h r hr
    simp at hn
  | some r' =>
    obtain ⟨hm, he⟩ := findFirst_mem h
    rw [eq_of_key hk hm hr (by simpa using he)]

/-- A search that only one row can pass finds that row. -/
theorem findFirst_of_only {t : Table α} {p : α → Bool} {r : α} (hr : r ∈ t.rows)
    (hp : p r = true) (honly : ∀ r' ∈ t.rows, p r' = true → r' = r) : t.findFirst p = some r := by
  cases h : t.findFirst p with
  | none =>
    rw [findFirst_eq_none.mp h r hr] at hp
    cases hp
  | some r' =>
    obtain ⟨hm, hp'⟩ := findFirst_mem h
    rw [honly r' hm hp']

omit [Keyed α] in
/-- A search by a test that both rows pass, or neither, finds corresponding elements. -/
theorem forall₂_find? {β : Type} {R : α → β → Prop} {p : α → Bool} {q : β → Bool}
    (hpq : ∀ a b, R a b → p a = q b) {l : List α} {l' : List β} (h : List.Forall₂ R l l') :
    Option.Rel R (l.find? p) (l'.find? q) := by
  induction h with
  | nil => exact Option.Rel.none
  | @cons a b l l' hab _ ih =>
    have hsame := hpq a b hab
    cases hp : p a with
    | true =>
      rw [List.find?_cons_of_pos hp, List.find?_cons_of_pos (hsame ▸ hp)]
      exact Option.Rel.some hab
    | false =>
      have hq : q b = false := hsame ▸ hp
      rw [List.find?_cons_of_neg (by simp [hp]), List.find?_cons_of_neg (by simp [hq])]
      exact ih

omit [Keyed α] in
theorem rel_some_left {β : Type} {R : α → β → Prop} {a : α} {o : Option β}
    (h : Option.Rel R (some a) o) : ∃ b, o = some b ∧ R a b := by
  cases h with
  | some hab => exact ⟨_, rfl, hab⟩

omit [Keyed α] in
theorem rel_some_right {β : Type} {R : α → β → Prop} {b : β} {o : Option α}
    (h : Option.Rel R o (some b)) : ∃ a, o = some a ∧ R a b := by
  cases h with
  | some hab => exact ⟨_, rfl, hab⟩

def Related (R : α → α → Prop) (t t' : Table α) : Prop := List.Forall₂ R t.rows t'.rows

section Related

variable {R : α → α → Prop} {t t' t'' : Table α}

theorem Related.refl (hR : ∀ r, R r r) (t : Table α) : Related R t t :=
  List.forall₂_same.mpr fun r _ => hR r

theorem Related.trans (hR : ∀ a b c, R a b → R b c → R a c) (h : Related R t t')
    (h' : Related R t' t'') : Related R t t'' := by
  unfold Related at h h' ⊢
  generalize t.rows = l, t'.rows = l', t''.rows = l'' at h h'
  induction h generalizing l'' with
  | nil =>
    cases h'
    exact List.Forall₂.nil
  | cons hab _ ih =>
    cases h' with
    | cons hbc hrest => exact List.Forall₂.cons (hR _ _ _ hab hbc) (ih _ hrest)

theorem Related.findFirst (h : Related R t t') {p : α → Bool} (hp : ∀ a b, R a b → p a = p b) :
    Option.Rel R (t.findFirst p) (t'.findFirst p) :=
  forall₂_find? hp h

/-- Every row has one that it comes from. -/
theorem Related.source (h : Related R t t') {r' : α} (hr : r' ∈ t'.rows) : ∃ r ∈ t.rows, R r r' := by
  unfold Related at h
  generalize t.rows = l, t'.rows = l' at h hr ⊢
  induction h with
  | nil => cases hr
  | cons hab _ ih =>
    rcases List.mem_cons.mp hr with rfl | hr
    · exact ⟨_, List.mem_cons_self, hab⟩
    · obtain ⟨r, hm, hR⟩ := ih hr
      exact ⟨r, List.mem_cons_of_mem _ hm, hR⟩

/-- Every row has one that it becomes. -/
theorem Related.target (h : Related R t t') {r : α} (hr : r ∈ t.rows) : ∃ r' ∈ t'.rows, R r r' := by
  unfold Related at h
  generalize t.rows = l, t'.rows = l' at h hr ⊢
  induction h with
  | nil => cases hr
  | cons hab _ ih =>
    rcases List.mem_cons.mp hr with rfl | hr
    · exact ⟨_, List.mem_cons_self, hab⟩
    · obtain ⟨r', hm, hR⟩ := ih hr
      exact ⟨r', List.mem_cons_of_mem _ hm, hR⟩

theorem related_updateMany {p : α → Bool} {f : Patch α}
    (h : ∀ r, R r (if p r then f.apply r else r)) (t : Table α) :
    Related R t (t.updateMany p f) :=
  List.forall₂_map_right_iff.mpr (List.forall₂_same.mpr fun r _ => h r)

end Related

end Table

end NestUserService.Lib
