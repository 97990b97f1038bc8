import Mathlib.Data.Set.Insert
import Mathlib.Logic.Function.Basic

/-!
# A registry of grants

Every owner holds at most one grant at a time, under a name that is never given out again.
A grant ends when its owner gets a new one, or when it is closed.
-/

namespace NestUserService.Lib

@[ext] structure Registry (κ ν π : Type) where
  current : κ → Option (ν × π)
  used : Set ν
  current_used : ∀ {u n p}, current u = some (n, p) → n ∈ used
  owner_unique : ∀ {u v n p q}, current u = some (n, p) → current v = some (n, q) → u = v

namespace Registry

variable {κ ν π : Type} [DecidableEq κ]

def close (R : Registry κ ν π) (u : κ) : Registry κ ν π where
  current := Function.update R.current u none
  used := R.used
  current_used {v n p} h := by
    by_cases hv : v = u
    · simp [hv] at h
    · rw [Function.update_of_ne hv] at h
      exact R.current_used h
  owner_unique {v v' n p q} h h' := by
    by_cases hv : v = u
    · simp [hv] at h
    · by_cases hv' : v' = u
      · simp [hv'] at h'
      · rw [Function.update_of_ne hv] at h
        rw [Function.update_of_ne hv'] at h'
        exact R.owner_unique h h'

/-- The owner gets a new grant under an unused name. -/
def issue (R : Registry κ ν π) (u : κ) (n : ν) (p : π) (hn : n ∉ R.used) : Registry κ ν π where
  current := Function.update R.current u (some (n, p))
  used := insert n R.used
  current_used {v n' q} h := by
    by_cases hv : v = u
    · simp only [hv, Function.update_self, Option.some.injEq, Prod.mk.injEq] at h
      exact Or.inl h.1.symm
    · rw [Function.update_of_ne hv] at h
      exact Or.inr (R.current_used h)
  owner_unique {v v' n' q q'} h h' := by
    have hother {x : κ} {r : π} (hx : x ≠ u) : Function.update R.current u (some (n, p)) x ≠
        some (n, r) := by
      rw [Function.update_of_ne hx]
      exact fun hc => hn (R.current_used hc)
    by_cases hv : v = u
    · subst hv
      simp only [Function.update_self, Option.some.injEq, Prod.mk.injEq] at h
      obtain ⟨rfl, -⟩ := h
      by_contra hne
      exact hother (Ne.symm hne) h'
    · by_cases hv' : v' = u
      · subst hv'
        simp only [Function.update_self, Option.some.injEq, Prod.mk.injEq] at h'
        obtain ⟨rfl, -⟩ := h'
        exact absurd h (hother hv)
      · rw [Function.update_of_ne hv] at h
        rw [Function.update_of_ne hv'] at h'
        exact R.owner_unique h h'

variable {R : Registry κ ν π} {u v : κ} {n : ν} {p : π}

theorem close_current : (R.close u).current v = if v = u then none else R.current v := by
  unfold close
  by_cases hv : v = u
  · simp [hv]
  · simp [hv]

theorem issue_current (hn : n ∉ R.used) :
    (R.issue u n p hn).current v = if v = u then some (n, p) else R.current v := by
  unfold issue
  by_cases hv : v = u
  · simp [hv]
  · simp [hv]

end Registry

end NestUserService.Lib
