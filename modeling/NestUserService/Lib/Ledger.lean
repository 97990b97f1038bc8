import NestUserService.Lib.Table

/-!
# Tables that only grow

Nothing is ever deleted from such a table. Its old rows stay where they are, each of
them changed in the way `R` allows, and new rows come after them.
-/

namespace NestUserService.Lib.Table

variable {α : Type} [Keyed α]

/-- The old rows, each related to what became of it, and then new rows. -/
def Extends (R : α → α → Prop) (t t' : Table α) : Prop :=
  ∃ kept new, t'.rows = kept ++ new ∧ List.Forall₂ R t.rows kept

section Extends

variable {R : α → α → Prop} {t t' t'' : Table α}

theorem Related.extends (h : Related R t t') : Extends R t t' :=
  ⟨t'.rows, [], (List.append_nil _).symm, h⟩

theorem Extends.refl (hR : ∀ r, R r r) (t : Table α) : Extends R t t :=
  (Related.refl hR t).extends

theorem extends_insert (hR : ∀ r, R r r) {r : α} (hv : t.Vacant r) : Extends R t (t.insert r hv) :=
  ⟨t.rows, [r], rfl, List.forall₂_same.mpr fun r _ => hR r⟩

theorem extends_create (hR : ∀ r, R r r) {r : α} (h : t.create r = some t') : Extends R t t' := by
  by_cases hv : t.Vacant r
  · rw [create_of_vacant hv] at h
    cases h
    exact extends_insert hR hv
  · rw [create_of_not_vacant hv] at h
    cases h

theorem extends_upsertKeep (hR : ∀ r, R r r) (t : Table α) (r : α) :
    Extends R t (t.upsertKeep r) := by
  unfold upsertKeep
  split
  · exact extends_insert hR _
  · exact .refl hR t

theorem extends_updateMany {p : α → Bool} {f : Patch α}
    (h : ∀ r, R r (if p r then f.apply r else r)) (t : Table α) : Extends R t (t.updateMany p f) :=
  (related_updateMany h t).extends

omit [Keyed α] in
theorem forall₂_trans (hR : ∀ a b c, R a b → R b c → R a c) {l l' l'' : List α}
    (h : List.Forall₂ R l l') (h' : List.Forall₂ R l' l'') : List.Forall₂ R l l'' := by
  induction h generalizing l'' with
  | nil =>
    cases h'
    exact .nil
  | cons hab _ ih =>
    cases h' with
    | cons hbc hrest => exact .cons (hR _ _ _ hab hbc) (ih hrest)

omit [Keyed α] in
/-- What an appended list has become can be cut where the list can be cut. -/
theorem forall₂_append_left {l₁ l₂ l' : List α} (h : List.Forall₂ R (l₁ ++ l₂) l') :
    ∃ l₁' l₂', l' = l₁' ++ l₂' ∧ List.Forall₂ R l₁ l₁' := by
  induction l₁ generalizing l' with
  | nil => exact ⟨[], l', rfl, .nil⟩
  | cons a l₁ ih =>
    cases h with
    | cons hab hrest =>
      obtain ⟨l₁', l₂', rfl, h₁⟩ := ih hrest
      exact ⟨_ :: l₁', l₂', rfl, .cons hab h₁⟩

theorem Extends.trans (hR : ∀ a b c, R a b → R b c → R a c) (h : Extends R t t')
    (h' : Extends R t' t'') : Extends R t t'' := by
  obtain ⟨kept, new, hrows, hkept⟩ := h
  obtain ⟨kept', new', hrows', hkept'⟩ := h'
  rw [hrows] at hkept'
  obtain ⟨k, n, rfl, hk⟩ := forall₂_append_left hkept'
  exact ⟨k, n ++ new', by rw [hrows', List.append_assoc], forall₂_trans hR hkept hk⟩

omit [Keyed α] in
theorem forall₂_target {l l' : List α} (h : List.Forall₂ R l l') {r : α} (hr : r ∈ l) :
    ∃ r' ∈ l', R r r' := by
  induction h with
  | nil => cases hr
  | cons hab _ ih =>
    rcases List.mem_cons.mp hr with rfl | hr
    · exact ⟨_, List.mem_cons_self, hab⟩
    · obtain ⟨r', hm, hR⟩ := ih hr
      exact ⟨r', List.mem_cons_of_mem _ hm, hR⟩

/-- Every old row has become one of the new ones. -/
theorem Extends.target (h : Extends R t t') {r : α} (hr : r ∈ t.rows) : ∃ r' ∈ t'.rows, R r r' := by
  obtain ⟨kept, new, hrows, hkept⟩ := h
  obtain ⟨r', hr', hR⟩ := forall₂_target hkept hr
  exact ⟨r', by rw [hrows]; exact List.mem_append_left new hr', hR⟩

end Extends

end NestUserService.Lib.Table
