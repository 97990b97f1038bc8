import NestUserService.Lib.PartialRuns
import NestUserService.Lib.Threads

/-!
# Programs that respect each other

`R` says what any party may do to the shared state. A program is safe when each of its
steps is such a move from every state the others may leave, and when it can only return
in its postcondition. Safe programs stay safe next to each other.
-/

namespace NestUserService.Lib

namespace Async

variable {σ ε α β : Type}

def Safe (R : σ → σ → Prop) (Q : α → σ → Prop) : Async σ ε α → σ → Prop
  | ret a, s => Q a s
  | fail _, _ => True
  | step u n, s => ∀ s', R s s' → R s' (u s') ∧ Safe R Q (n s') (u s')

section Rules

variable {R : σ → σ → Prop} {Q Q' : α → σ → Prop} {P : σ → Prop}

theorem Safe.mono {x : Async σ ε α} {s : σ} (h : Safe R Q x s) (hq : ∀ a s, Q a s → Q' a s) :
    Safe R Q' x s := by
  induction x generalizing s with
  | ret a => exact hq a s h
  | fail e => trivial
  | step u n ih => exact fun s' hr => ⟨(h s' hr).1, ih s' (h s' hr).2⟩

theorem Safe.throw (e : ε) (s : σ) : Safe R Q (MonadExcept.throw e : Async σ ε α) s := trivial

theorem Safe.pure {a : α} {s : σ} (h : Q a s) : Safe R Q (Pure.pure a : Async σ ε α) s := h

theorem Safe.bind {x : Async σ ε α} {f : α → Async σ ε β} {s : σ} {S : β → σ → Prop}
    (h : Safe R Q x s) (hf : ∀ a s, Q a s → Safe R S (f a) s) : Safe R S (x >>= f) s := by
  change Safe R S (Async.bind x f) s
  induction x generalizing s with
  | ret a => exact hf a s h
  | fail e => trivial
  | step u n ih => exact fun s' hr => ⟨(h s' hr).1, ih s' (h s' hr).2⟩

theorem Safe.await {x : EStateM ε σ α} {s : σ}
    (h : ∀ s', R s s' → R s' (finalState (x s')) ∧ ∀ a t, x s' = .ok a t → Q a t) :
    Safe R Q (Async.await x) s := by
  intro s' hr
  obtain ⟨hmove, hq⟩ := h s' hr
  dsimp only
  cases hx : x s' with
  | ok a t =>
    rw [hx] at hmove
    exact ⟨hmove, hq a t hx⟩
  | error e t =>
    rw [hx] at hmove
    exact ⟨hmove, trivial⟩

/-- An operation that moves by `R` under a stable assertion keeps the assertion. -/
theorem Safe.await_keeps {x : EStateM ε σ α} {s : σ} (hp : Stable R P) (hs : P s)
    (h : ∀ s', P s' → R s' (finalState (x s'))) : Safe R (fun _ => P) (Async.await x) s := by
  refine Safe.await fun s' hr => ?_
  have hs' : P s' := hp s s' hr hs
  have hmove := h s' hs'
  refine ⟨hmove, fun a t hx => ?_⟩
  rw [hx] at hmove
  exact hp s' t hmove hs'

/-- A program that waits at an await stays safe when the others move. -/
theorem Safe.stable (htrans : ∀ s t u, R s t → R t u → R s u) (hq : ∀ a, Stable R (Q a))
    {x : Async σ ε α} : Stable R (Safe R Q x) := by
  intro s s' hr h
  cases x with
  | ret a => exact hq a s s' hr h
  | fail e => trivial
  | step u n => exact fun t ht => h t (htrans s s' t hr ht)

/-- What `R` keeps is kept along a safe program. -/
theorem Safe.frame {x : Async σ ε α} {s : σ} (h : Safe R Q x s) (hp : Stable R P) (hs : P s) :
    Safe R (fun a s => Q a s ∧ P s) x s := by
  induction x generalizing s with
  | ret a => exact ⟨h, hs⟩
  | fail e => trivial
  | step u n ih =>
    intro s' hr
    obtain ⟨hmove, hnext⟩ := h s' hr
    exact ⟨hmove, ih s' hnext (hp s' (u s') hmove (hp s s' hr hs))⟩

theorem Moves.safe {x : Async σ ε α} {s : σ} (h : Moves R R Q x s) : Safe R Q x s := by
  induction x generalizing s with
  | ret a => exact h
  | fail e => trivial
  | step u n ih => exact fun s' hr => ⟨(h s' hr).1, ih s' (h s' hr).2⟩

/-- A program that only moves by `R` is safe. -/
theorem Guarantees.safe {V : α → Prop} {x : Async σ ε α} (h : Guarantees R V x) (s : σ) :
    Safe R (fun a _ => V a) x s := by
  induction x generalizing s with
  | ret a => exact h
  | fail e => trivial
  | step u n ih => exact fun s' _ => ⟨(h s').1, ih s' (h s').2 (u s')⟩

/-- Whatever else the moves of a safe program have in common, it may rely on as well. -/
theorem Safe.and_guarantees {G : σ → σ → Prop} {V : α → Prop} {x : Async σ ε α} {s : σ}
    (h : Safe R Q x s) (hg : Guarantees G V x) :
    Safe (fun s t => R s t ∧ G s t) (fun a s => Q a s ∧ V a) x s := by
  induction x generalizing s with
  | ret a => exact ⟨h, hg⟩
  | fail e => trivial
  | step u n ih =>
    intro s' hr
    obtain ⟨hmove, hnext⟩ := h s' hr.1
    exact ⟨⟨hmove, (hg s').1⟩, ih s' hnext (hg s').2⟩

/-- What `R` keeps is kept along such a program. -/
theorem Guarantees.keeps {V : α → Prop} {x : Async σ ε α} (h : Guarantees R V x)
    (hp : Stable R P) {s : σ} (hs : P s) : Safe R (fun _ => P) x s :=
  ((h.safe s).frame hp hs).mono fun _ _ h => h.2

theorem Guarantees.handle {V : α → Prop} {x : Async σ ε α} {k : ε → Async σ ε α}
    (h : Guarantees R V x) (hk : ∀ e, Guarantees R V (k e)) : Guarantees R V (x.handle k) := by
  induction x with
  | ret a => exact h
  | fail e => exact hk e
  | step u n ih => exact fun s => ⟨(h s).1, ih s (h s).2⟩

/-- Alone, a safe program moves by `R` and returns in its postcondition. -/
theorem Safe.run {x : Async σ ε α} {s : σ} (h : Safe R Q x s) (hrefl : ∀ s, R s s)
    (htrans : ∀ s t u, R s t → R t u → R s u) :
    R s (finalState (Async.run x s)) ∧ ∀ a t, Async.run x s = .ok a t → Q a t := by
  induction x generalizing s with
  | ret a =>
    refine ⟨hrefl s, fun a' t hrun => ?_⟩
    cases hrun
    exact h
  | fail e => exact ⟨hrefl s, fun a t hrun => by cases hrun⟩
  | step u n ih =>
    obtain ⟨hmove, hnext⟩ := h s (hrefl s)
    obtain ⟨hrest, hq⟩ := ih s hnext
    exact ⟨htrans _ _ _ hmove hrest, hq⟩

end Rules

end Async

namespace Threads

open Async

variable {σ ε α ι : Type} [DecidableEq ι] {Env R : σ → σ → Prop}
  {guard : Threads σ ε α ι → ι → Prop} {Q : ι → α → σ → Prop}

/-- Safe programs, next to an environment that respects them, remain safe. -/
theorem Runs.safe {p p' : Threads σ ε α ι} (h : Runs Env guard p p') (hrefl : ∀ s, R s s)
    (htrans : ∀ s t u, R s t → R t u → R s u) (henv : ∀ s t, Env s t → R s t)
    (hq : ∀ i a, Stable R (Q i a)) (hsafe : ∀ i, Safe R (Q i) (p.rest i) p.state) :
    ∀ i, Safe R (Q i) (p'.rest i) p'.state := by
  have hkeep {q : Threads σ ε α ι} {s : σ} (hr : R q.state s) {i : ι}
      (hi : Safe R (Q i) (q.rest i) q.state) : Safe R (Q i) (q.rest i) s :=
    Safe.stable htrans (hq i) _ _ hr hi
  refine h.invariant (I := fun q => ∀ i, Safe R (Q i) (q.rest i) q.state) ?_ hsafe
  intro l q q' hstep hall
  cases hstep with
  | env he => exact fun i => hkeep (henv _ _ he) (hall i)
  | @call _ i u n hi _ =>
    have hsi := hall i
    rw [hi] at hsi
    obtain ⟨hmove, hnext⟩ := hsi q.state (hrefl _)
    intro j
    by_cases hj : j = i
    · subst hj
      simp only [Function.update_self]
      exact hnext
    · simp only [Function.update_of_ne hj]
      exact hkeep hmove (hall j)

omit [DecidableEq ι] in
/-- Control points that keep an assertion next to `E`, and move by `G` while it holds. -/
theorem Automaton.moves {Pc : Type} (A : Automaton σ ε α ι Pc) {i : ι} {P : Pc → σ → Prop}
    {E G : σ → σ → Prop} {Q : α → σ → Prop} (hstable : ∀ pc, Stable E (P pc))
    (hmove : ∀ pc s pc' s', P pc s → A.move i pc s pc' s' → G s s' ∧ P pc' s')
    (hret : ∀ pc a s, A.program i pc = .ret a → P pc s → Q a s) {pc : Pc} {s : σ}
    (hs : P pc s) : Moves E G Q (A.program i pc) s := by
  generalize hx : A.program i pc = x
  induction x generalizing pc s with
  | ret a => exact hret pc a s hx hs
  | fail e => trivial
  | step u n ih =>
    intro s' hr
    obtain ⟨pc', hm, hn⟩ := A.sound i pc u n s' hx
    obtain ⟨hmoved, hp⟩ := hmove pc s' pc' (u s') (hstable pc s s' hr hs) hm
    exact ⟨hmoved, ih s' hp hn.symm⟩

omit [DecidableEq ι] in
/-- Control points whose moves respect the others and keep an assertion. -/
theorem Automaton.safe {Pc : Type} (A : Automaton σ ε α ι Pc) {i : ι} {P : Pc → σ → Prop}
    {Q : α → σ → Prop} (hstable : ∀ pc, Stable R (P pc))
    (hmove : ∀ pc s pc' s', P pc s → A.move i pc s pc' s' → R s s' ∧ P pc' s')
    (hret : ∀ pc a s, A.program i pc = .ret a → P pc s → Q a s) {pc : Pc} {s : σ}
    (hs : P pc s) : Safe R Q (A.program i pc) s :=
  (A.moves hstable hmove hret hs).safe

end Threads

end NestUserService.Lib
