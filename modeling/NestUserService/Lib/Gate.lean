import NestUserService.Lib.PartialRuns
import NestUserService.Lib.Threads

/-!
# A gate that one call passes

Calls next to each other check something and then take a step that uses it up. The step
is the gate: the first call that passes closes it, and nothing opens it again. As long
as the gate is passed only while it is open, one call passes, and every other call is
held in front of it for ever.
-/

namespace NestUserService.Lib

namespace Async

variable {σ ε α β : Type}

/-- A program in front of the gate. The others move by `M`, the program itself by `W`;
`K` holds when it waits at the gate, and `V` of what it may return without passing. -/
def Gated (M W : σ → σ → Prop) (K : Async σ ε α → σ → Prop) (V : α → σ → Prop) :
    Async σ ε α → σ → Prop
  | ret a, s => V a s
  | fail _, _ => True
  | step u n, s => ∀ s', M s s' → K (step u n) s' ∨ W s' (u s') ∧ Gated M W K V (n s') (u s')

section Rules

variable {M W : σ → σ → Prop} {K : Async σ ε α → σ → Prop} {V : α → σ → Prop}

theorem Gated.throw (e : ε) (s : σ) : Gated M W K V (MonadExcept.throw e : Async σ ε α) s := trivial

theorem Gated.pure {a : α} {s : σ} (h : V a s) : Gated M W K V (Pure.pure a : Async σ ε α) s := h

theorem Gated.bind {x : Async σ ε β} {f : β → Async σ ε α} {s : σ} {Q : β → σ → Prop}
    (h : Moves M W Q x s) (hf : ∀ b s, Q b s → Gated M W K V (f b) s) :
    Gated M W K V (x >>= f) s := by
  change Gated M W K V (Async.bind x f) s
  induction x generalizing s with
  | ret b => exact hf b s h
  | fail e => trivial
  | step u n ih => exact fun s' hr => Or.inr ⟨(h s' hr).1, ih s' (h s' hr).2⟩

theorem Gated.ite {c : Prop} [Decidable c] {x y : Async σ ε α} {s : σ}
    (hx : c → Gated M W K V x s) (hy : ¬ c → Gated M W K V y s) :
    Gated M W K V (if c then x else y) s := by
  split
  · exact hx ‹_›
  · exact hy ‹_›

/-- The program has come to the gate. -/
theorem Gated.gate {x : EStateM ε σ β} {f : β → Async σ ε α} {s : σ}
    (h : ∀ s', M s s' → K (Async.await x >>= f) s') : Gated M W K V (Async.await x >>= f) s :=
  fun s' hr => Or.inl (h s' hr)

/-- Only an operation that succeeds is at the gate. -/
theorem Gated.gate_of_ok {x : EStateM ε σ β} {f : β → Async σ ε α} {s : σ}
    (h : ∀ s', M s s' → W s' (finalState (x s')) ∧
      ((∃ b t, x s' = .ok b t) → K (Async.await x >>= f) s')) :
    Gated M W K V (Async.await x >>= f) s := by
  intro s' hr
  obtain ⟨hmove, hentry⟩ := h s' hr
  cases hx : x s' with
  | ok b t => exact Or.inl (hentry ⟨b, t, hx⟩)
  | error e t =>
    right
    rw [hx] at hmove
    dsimp only
    rw [hx]
    exact ⟨hmove, trivial⟩

theorem Gated.stable (htrans : ∀ s t u, M s t → M t u → M s u) (hv : ∀ a, Stable M (V a))
    {x : Async σ ε α} : Stable M (Gated M W K V x) := by
  intro s s' hr h
  cases x with
  | ret a => exact hv a s s' hr h
  | fail e => trivial
  | step u n => exact fun t ht => h t (htrans s s' t hr ht)

theorem Moves.stable {E G : σ → σ → Prop} {Q : α → σ → Prop}
    (htrans : ∀ s t u, E s t → E t u → E s u) (hq : ∀ a, Stable E (Q a)) {x : Async σ ε α} :
    Stable E (Moves E G Q x) := by
  intro s s' hr h
  cases x with
  | ret a => exact hq a s s' hr h
  | fail e => trivial
  | step u n => exact fun t ht => h t (htrans s s' t hr ht)

end Rules

end Async

open Async

/-- A gate for the calls of a family. -/
structure Gate (σ ε α ι : Type) where
  /-- What the calls in front of the gate do, and the environment. -/
  waits : σ → σ → Prop
  /-- What any call does. -/
  moves : σ → σ → Prop
  /-- What the call that passed does. -/
  behind : σ → σ → Prop
  isOpen : σ → Prop
  /-- Holds until a call has passed. -/
  before : σ → Prop
  /-- Holds once a call has passed. -/
  after : σ → Prop
  /-- A call that waits at the gate. -/
  entry : ι → Async σ ε α → σ → Prop
  /-- What a call returns without passing. -/
  early : ι → α → σ → Prop
  waits_refl : ∀ s, waits s s
  waits_trans : ∀ s t u, waits s t → waits t u → waits s u
  moves_trans : ∀ s t u, moves s t → moves t u → moves s u
  moves_of_waits : ∀ s t, waits s t → moves s t
  moves_of_behind : ∀ s t, behind s t → moves s t
  closed : Stable moves fun s => ¬ isOpen s
  before_stable : Stable waits before
  after_stable : Stable waits after
  early_stable : ∀ i a, Stable moves (early i a)
  pass : ∀ i u n s, entry i (.step u n) s → isOpen s → before s →
    moves s (u s) ∧ ¬ isOpen (u s) ∧ after (u s) ∧
      Moves waits (fun s t => behind s t ∧ after t) (fun _ _ => True) (n s) (u s)

namespace Gate

variable {σ ε α ι : Type} (G : Gate σ ε α ι)

/-- Call `i` is in front of the gate. -/
def Waiting (i : ι) (x : Async σ ε α) (s : σ) : Prop :=
  Gated G.moves G.waits (G.entry i) (G.early i) x s

/-- A call is behind the gate. -/
def Passed (x : Async σ ε α) (s : σ) : Prop :=
  Moves G.waits (fun s t => G.behind s t ∧ G.after t) (fun _ _ => True) x s

variable {G} in
theorem Waiting.stable {i : ι} {x : Async σ ε α} : Stable G.moves (G.Waiting i x) :=
  Gated.stable G.moves_trans (G.early_stable i)

variable {G} in
theorem Passed.stable {x : Async σ ε α} : Stable G.waits (G.Passed x) :=
  Moves.stable G.waits_trans fun _ _ _ _ h => h

/-- All calls are in front of the gate, or all but one are and it is closed. -/
inductive Race (p : Threads σ ε α ι) : Prop
  | none (hbefore : G.before p.state) (h : ∀ i, G.Waiting i (p.rest i) p.state)
  | one (i : ι) (hclosed : ¬ G.isOpen p.state) (hafter : G.after p.state)
      (hi : G.Passed (p.rest i) p.state) (h : ∀ j, j ≠ i → G.Waiting j (p.rest j) p.state)

variable [DecidableEq ι] {Env : σ → σ → Prop} {guard : Threads σ ε α ι → ι → Prop}
  {p p' : Threads σ ε α ι}

/-- A call that comes to the gate finds it open, or is turned away. -/
def Kept (guard : Threads σ ε α ι → ι → Prop) : Prop :=
  ∀ p i u n, guard p i → p.rest i = .step u n → G.entry i (.step u n) p.state →
    G.isOpen p.state ∨ G.waits p.state (u p.state) ∧ G.Waiting i (n p.state) (u p.state)

variable {G}

omit [DecidableEq ι] in
/-- A waiting call takes its next step, or passes. -/
theorem waiting_step (hkept : G.Kept guard) (hrefl : ∀ s, G.moves s s) {i : ι} {u : σ → σ}
    {n : σ → Async σ ε α} (hi : p.rest i = .step u n) (hg : guard p i)
    (h : G.Waiting i (p.rest i) p.state) :
    G.waits p.state (u p.state) ∧ G.Waiting i (n p.state) (u p.state) ∨
      G.isOpen p.state ∧ G.entry i (.step u n) p.state := by
  rw [hi] at h
  rcases h p.state (hrefl _) with hentry | hstep
  · rcases hkept p i u n hg hi hentry with hopen | hturned
    · exact Or.inr ⟨hopen, hentry⟩
    · exact Or.inl hturned
  · exact Or.inl hstep

theorem Race.step (henv : ∀ s t, Env s t → G.waits s t) (hkept : G.Kept guard) {l : Option ι}
    (hstep : Threads.Step Env guard l p p') (h : G.Race p) : G.Race p' := by
  have hrefl (s : σ) : G.moves s s := G.moves_of_waits s s (G.waits_refl s)
  cases hstep with
  | @env _ s he =>
    have hw := henv _ _ he
    have hm := G.moves_of_waits _ _ hw
    cases h with
    | none hbefore h =>
      exact .none (G.before_stable _ _ hw hbefore) fun i => Waiting.stable _ _ hm (h i)
    | one i hclosed hafter hi h =>
      exact .one i (G.closed _ _ hm hclosed) (G.after_stable _ _ hw hafter)
        (Passed.stable _ _ hw hi) fun j hj => Waiting.stable _ _ hm (h j hj)
  | @call _ i u n hi hg =>
    -- Every other call sees the step as a move of its surroundings.
    have hother {j : ι} (hj : j ≠ i) (hm : G.moves p.state (u p.state))
        (hwait : G.Waiting j (p.rest j) p.state) :
        G.Waiting j (Function.update p.rest i (n p.state) j) (u p.state) := by
      rw [Function.update_of_ne hj]
      exact Waiting.stable _ _ hm hwait
    cases h with
    | none hbefore h =>
      rcases waiting_step hkept hrefl hi hg (h i) with ⟨hw, hnext⟩ | ⟨hopen, hentry⟩
      · have hm := G.moves_of_waits _ _ hw
        refine .none (G.before_stable _ _ hw hbefore) fun j => ?_
        by_cases hj : j = i
        · subst hj
          dsimp only
          rw [Function.update_self]
          exact hnext
        · exact hother hj hm (h j)
      · obtain ⟨hm, hclosed, hafter, hnext⟩ := G.pass i u n p.state hentry hopen hbefore
        refine .one i hclosed hafter ?_ fun j hj => hother hj hm (h j)
        dsimp only
        rw [Function.update_self]
        exact hnext
    | one k hclosed hafter hk h =>
      by_cases hik : i = k
      · subst hik
        rw [hi] at hk
        obtain ⟨⟨hb, hafter'⟩, hnext⟩ := hk p.state (G.waits_refl _)
        have hm := G.moves_of_behind _ _ hb
        refine .one i (G.closed _ _ hm hclosed) hafter' ?_ fun j hj => hother hj hm (h j hj)
        dsimp only
        rw [Function.update_self]
        exact hnext
      · rcases waiting_step hkept hrefl hi hg (h i hik) with ⟨hw, hnext⟩ | ⟨hopen, -⟩
        · have hm := G.moves_of_waits _ _ hw
          refine .one k (G.closed _ _ hm hclosed) (G.after_stable _ _ hw hafter) ?_ fun j hj => ?_
          · dsimp only
            rw [Function.update_of_ne (Ne.symm hik)]
            exact Passed.stable _ _ hw hk
          · by_cases hji : j = i
            · subst hji
              dsimp only
              rw [Function.update_self]
              exact hnext
            · exact hother hji hm (h j hj)
        · exact absurd hopen hclosed

theorem Race.runs (henv : ∀ s t, Env s t → G.waits s t) (hkept : G.Kept guard)
    (hrun : Threads.Runs Env guard p p') (h : G.Race p) : G.Race p' :=
  hrun.invariant (fun _ _ _ hstep h => h.step henv hkept hstep) h

omit [DecidableEq ι] in
/-- Two calls that have to pass do not both return. -/
theorem Race.returned_once (h : G.Race p) {i j : ι} {a b : α} (hi : p.rest i = .ret a)
    (hj : p.rest j = .ret b) (hni : ¬ G.early i a p.state) (hnj : ¬ G.early j b p.state) :
    i = j := by
  have hreturned {k : ι} {c : α} (hk : p.rest k = .ret c) (hwait : G.Waiting k (p.rest k) p.state) :
      G.early k c p.state := by
    rw [hk] at hwait
    exact hwait
  cases h with
  | none _ h => exact absurd (hreturned hi (h i)) hni
  | one k _ _ _ h =>
    have hik : i = k := by
      by_contra hne
      exact hni (hreturned hi (h i hne))
    have hjk : j = k := by
      by_contra hne
      exact hnj (hreturned hj (h j hne))
    exact hik.trans hjk.symm

end Gate

end NestUserService.Lib
