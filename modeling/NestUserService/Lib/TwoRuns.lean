import NestUserService.Lib.Async

/-!
# Two runs of one program

A property of two runs compares what two programs return from related states. Only runs
that return are compared: where one of them rejects there is nothing to show. So a
rejection on either side ends the comparison, and tests that only reject need not agree.
-/

namespace NestUserService.Lib.Async

variable {σ ε α β γ δ : Type}

/-- From states related by `P`, two runs that return do so in `Q`. -/
def Alike (P : σ → σ → Prop) (x : Async σ ε α) (y : Async σ ε β)
    (Q : α → β → σ → σ → Prop) : Prop :=
  ∀ s t, P s t → ∀ a s' b t', run x s = .ok a s' → run y t = .ok b t' → Q a b s' t'

section Rules

variable {P : σ → σ → Prop} {Q : α → β → σ → σ → Prop}

theorem Alike.conseq {P' : σ → σ → Prop} {Q' : α → β → σ → σ → Prop} {x : Async σ ε α}
    {y : Async σ ε β} (h : Alike P x y Q) (hp : ∀ s t, P' s t → P s t)
    (hq : ∀ a b s t, Q a b s t → Q' a b s t) : Alike P' x y Q' :=
  fun s t hst a s' b t' hx hy => hq _ _ _ _ (h s t (hp s t hst) a s' b t' hx hy)

theorem Alike.pure {a : α} {b : β} (h : ∀ s t, P s t → Q a b s t) :
    Alike P (Pure.pure a : Async σ ε α) (Pure.pure b) Q := by
  intro s t hst a' s' b' t' hx hy
  cases hx
  cases hy
  exact h s t hst

theorem Alike.throw_left (e : ε) (y : Async σ ε β) :
    Alike P (MonadExcept.throw e : Async σ ε α) y Q := by
  intro s t _ a s' b t' hx
  cases hx

theorem Alike.throw_right (e : ε) (x : Async σ ε α) :
    Alike P x (MonadExcept.throw e : Async σ ε β) Q := by
  intro s t _ a s' b t' _ hy
  cases hy

theorem Alike.bind {x : Async σ ε α} {y : Async σ ε β} {f : α → Async σ ε γ}
    {g : β → Async σ ε δ} {Q' : γ → δ → σ → σ → Prop} (h : Alike P x y Q)
    (hf : ∀ a b, Alike (Q a b) (f a) (g b) Q') : Alike P (x >>= f) (y >>= g) Q' := by
  intro s t hst c s' d t' hx hy
  obtain ⟨a, s₁, hx₁, hx₂⟩ := run_bind_ok hx
  obtain ⟨b, t₁, hy₁, hy₂⟩ := run_bind_ok hy
  exact hf a b s₁ t₁ (h s t hst a s₁ b t₁ hx₁ hy₁) c s' d t' hx₂ hy₂

theorem Alike.await {x : EStateM ε σ α} {y : EStateM ε σ β}
    (h : ∀ s t, P s t → ∀ a s' b t', x s = .ok a s' → y t = .ok b t' → Q a b s' t') :
    Alike P (Async.await x) (Async.await y) Q := by
  intro s t hst a s' b t' hx hy
  rw [run_await] at hx hy
  exact h s t hst a s' b t' hx hy

/-- Two branches, taken alike. -/
theorem Alike.ite {c d : Prop} [Decidable c] [Decidable d] {x x' : Async σ ε α}
    {y y' : Async σ ε β} (hcd : c ↔ d) (h : c → Alike P x y Q) (h' : ¬ c → Alike P x' y' Q) :
    Alike P (if c then x else x') (if d then y else y') Q := by
  by_cases hc : c
  · rw [if_pos hc, if_pos (hcd.mp hc)]
    exact h hc
  · rw [if_neg hc, if_neg fun hd => hc (hcd.mpr hd)]
    exact h' hc

/-- Two tests that only reject. -/
theorem Alike.gate {c d : Prop} [Decidable c] [Decidable d] {e e' : ε} {f : α → Async σ ε γ}
    {g : β → Async σ ε δ} {x : Async σ ε γ} {y : Async σ ε δ} {Q' : γ → δ → σ → σ → Prop}
    (h : ¬ c → ¬ d → Alike P x y Q') :
    Alike P (if c then (MonadExcept.throw e : Async σ ε α) >>= f else x)
      (if d then (MonadExcept.throw e' : Async σ ε β) >>= g else y) Q' := by
  by_cases hc : c
  · rw [if_pos hc]
    exact Alike.throw_left e _
  · by_cases hd : d
    · rw [if_pos hd]
      exact Alike.throw_right e' _
    · rw [if_neg hc, if_neg hd]
      exact h hc hd

theorem Alike.forM {ι : Type} {f g : ι → Async σ ε PUnit} {l : List ι}
    (h : ∀ i ∈ l, Alike P (f i) (g i) fun _ _ => P) :
    Alike P (l.forM f) (l.forM g) fun _ _ => P := by
  induction l with
  | nil => exact Alike.pure fun _ _ hst => hst
  | cons i l ih =>
    have hrest := ih fun j hj => h j (by simp [hj])
    exact (h i (by simp)).bind fun _ _ => hrest

/-- A handler that only rejects. -/
theorem Alike.handle {x : Async σ ε α} {y : Async σ ε β} (h : Alike P x y Q) (e e' : ε) :
    Alike P (x.handle fun _ => MonadExcept.throw e) (y.handle fun _ => MonadExcept.throw e') Q := by
  have hreturn {α : Type} {x : Async σ ε α} {e : ε} {s s' : σ} {a : α}
      (hx : run (x.handle fun _ => MonadExcept.throw e) s = .ok a s') : run x s = .ok a s' := by
    rw [run_handle] at hx
    cases hr : run x s with
    | ok a' s'' => rwa [hr] at hx
    | error e' s'' =>
      rw [hr] at hx
      cases hx
  intro s t hst a s' b t' hx hy
  exact h s t hst a s' b t' (hreturn hx) (hreturn hy)

end Rules

end NestUserService.Lib.Async
