import Mathlib.Data.List.Nodup
import Mathlib.Tactic.Common

/-!
# Recency lists

The entries of a bounded cache, most recently used first, each with the time of its
last use. An access moves or inserts its key at the front and cuts the list to the
bound; an expiry keeps the entries with a live stamp.
-/

namespace NestUserService.Lib.Recency

variable {κ : Type}

/-- Later entries of the list were used earlier. -/
def Sorted (l : List (κ × Nat)) : Prop := l.Pairwise fun a b => b.2 < a.2

def expire (live : Nat → Bool) (l : List (κ × Nat)) : List (κ × Nat) := l.filter fun e => live e.2

theorem sorted_expire {l : List (κ × Nat)} (h : Sorted l) (live : Nat → Bool) :
    Sorted (expire live l) := List.Pairwise.filter _ h

theorem Sorted.nodup {l : List (κ × Nat)} (h : Sorted l) : l.Nodup := by
  refine List.Pairwise.imp (fun hlt he => ?_) h
  rw [he] at hlt
  exact Nat.lt_irrefl _ hlt

/-- Only one entry has a given stamp. -/
theorem Sorted.eq_of_stamp {l : List (κ × Nat)} (h : Sorted l) {a b : κ × Nat} (ha : a ∈ l)
    (hb : b ∈ l) (hab : a.2 = b.2) : a = b := by
  have hstamps : (l.map Prod.snd).Nodup := by
    rw [List.Nodup, List.pairwise_map]
    exact List.Pairwise.imp (fun hlt => (Nat.ne_of_lt hlt).symm) h
  exact List.inj_on_of_nodup_map hstamps ha hb hab

/-- The last entry is the one that was used before all others. -/
theorem mem_dropLast {l : List (κ × Nat)} (h : Sorted l) {e : κ × Nat} :
    e ∈ l.dropLast ↔ e ∈ l ∧ ∃ e' ∈ l, e'.2 < e.2 := by
  by_cases hne : l = []
  · subst hne
    simp
  · have hlast := List.dropLast_concat_getLast hne
    have hpair : Sorted (l.dropLast ++ [l.getLast hne]) := by rwa [hlast]
    obtain ⟨-, -, hbelow⟩ := List.pairwise_append.mp hpair
    constructor
    · intro he
      refine ⟨List.dropLast_subset l he, l.getLast hne, List.getLast_mem hne, ?_⟩
      exact hbelow e he _ (List.mem_singleton.mpr rfl)
    · rintro ⟨he, e', he', hlt⟩
      rw [← hlast, List.mem_append, List.mem_singleton] at he he'
      rcases he with he | rfl
      · exact he
      · rcases he' with he' | rfl
        · have hgt := hbelow e' he' _ (List.mem_singleton.mpr rfl)
          omega
        · exact absurd hlt (Nat.lt_irrefl _)

section Access

variable [DecidableEq κ]

def access (maxSize : Nat) (k : κ) (now : Nat) (l : List (κ × Nat)) : List (κ × Nat) :=
  ((k, now) :: l.filter (·.1 ≠ k)).take maxSize

theorem sorted_access {maxSize now : Nat} {k : κ} {l : List (κ × Nat)} (h : Sorted l)
    (hnow : ∀ e ∈ l, e.2 < now) : Sorted (access maxSize k now l) := by
  refine List.Pairwise.take (List.pairwise_cons.mpr ⟨?_, List.Pairwise.filter _ h⟩)
  exact fun e he => hnow e (List.mem_of_mem_filter he)

theorem length_access_le (maxSize now : Nat) (k : κ) (l : List (κ × Nat)) :
    (access maxSize k now l).length ≤ maxSize := List.length_take_le _ _

theorem eq_or_mem_of_mem_access {maxSize now : Nat} {k : κ} {l : List (κ × Nat)} {e : κ × Nat}
    (h : e ∈ access maxSize k now l) : e = (k, now) ∨ e ∈ l :=
  (List.mem_cons.mp (List.mem_of_mem_take h)).imp_right List.mem_of_mem_filter

/-- An access loses at most the least recently used entry, and this one only when the
list is full and the key is not in it. -/
theorem mem_access {maxSize now : Nat} {k : κ} {l : List (κ × Nat)} (h : Sorted l)
    (hlen : l.length ≤ maxSize) (hpos : 1 ≤ maxSize) {e : κ × Nat} :
    e ∈ access maxSize k now l ↔ e = (k, now) ∨ (e ∈ l ∧ e.1 ≠ k ∧
      (l.length < maxSize ∨ (∃ t, (k, t) ∈ l) ∨ ∃ e' ∈ l, e'.2 < e.2)) := by
  have hfilter : e ∈ l.filter (·.1 ≠ k) ↔ e ∈ l ∧ e.1 ≠ k := by simp
  by_cases hroom : (l.filter (·.1 ≠ k)).length < maxSize
  · have hreason : l.length < maxSize ∨ ∃ t, (k, t) ∈ l := by
      by_cases hlt : l.length < maxSize
      · exact Or.inl hlt
      · have hshort : (l.filter (·.1 ≠ k)).length < l.length := by omega
        obtain ⟨⟨k', t⟩, hmem, hk⟩ := List.length_filter_lt_length_iff_exists.mp hshort
        obtain rfl : k' = k := by simpa using hk
        exact Or.inr ⟨t, hmem⟩
    rw [access, List.take_of_length_le (Nat.succ_le_of_lt hroom), List.mem_cons, hfilter]
    constructor
    · rintro (he | ⟨he, hk⟩)
      · exact Or.inl he
      · exact Or.inr ⟨he, hk, hreason.imp_right Or.inl⟩
    · rintro (he | ⟨he, hk, -⟩)
      · exact Or.inl he
      · exact Or.inr ⟨he, hk⟩
  · have hle := List.length_filter_le (fun e : κ × Nat => decide (e.1 ≠ k)) l
    have hsame : l.filter (·.1 ≠ k) = l := List.Sublist.eq_of_length List.filter_sublist (by omega)
    have hother (t : Nat) : (k, t) ∉ l := by
      intro hmem
      rw [← hsame] at hmem
      simpa using List.of_mem_filter hmem
    obtain ⟨n, rfl⟩ : ∃ n, maxSize = n + 1 := ⟨maxSize - 1, by omega⟩
    have hdrop : l.take n = l.dropLast := List.take_eq_dropLast (by omega)
    rw [access, hsame, List.take_succ_cons, hdrop, List.mem_cons, mem_dropLast h]
    constructor
    · rintro (he | ⟨he, hold⟩)
      · exact Or.inl he
      · have hk : e.1 ≠ k := fun hk => hother e.2 (hk ▸ he)
        exact Or.inr ⟨he, hk, Or.inr (Or.inr hold)⟩
    · rintro (he | ⟨he, -, hlt | ⟨t, ht⟩ | hold⟩)
      · exact Or.inl he
      · omega
      · exact absurd ht (hother t)
      · exact Or.inr ⟨he, hold⟩

end Access

end NestUserService.Lib.Recency
