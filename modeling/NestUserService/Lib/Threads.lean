import Mathlib.Logic.Function.Basic
import Mathlib.Logic.Relation
import NestUserService.Lib.Async

/-!
# Programs next to each other

A family of programs runs on one state, one awaited operation at a time and in any
order, next to the moves of an environment. A guard may refuse a step in the pool it
would be taken in. An observer may take notes along a run. An automaton names the
control points of the programs, so that a step is a transition between two of them.
-/

namespace NestUserService.Lib

/-- The shared state, and what is left of every program. -/
structure Threads (σ ε α ι : Type) where
  state : σ
  rest : ι → Async σ ε α

/-- The step of an awaited operation, and what is left after it. -/
theorem Async.step_of_await_bind {σ ε α β : Type} {x : EStateM ε σ β} {f : β → Async σ ε α}
    {u : σ → σ} {n : σ → Async σ ε α} (h : Async.await x >>= f = .step u n) (s : σ) :
    (∃ b s', x s = .ok b s' ∧ u s = s' ∧ n s = f b) ∨
      ∃ e s', x s = .error e s' ∧ u s = s' ∧ n s = throw e := by
  cases h
  dsimp only
  cases hx : x s with
  | ok b t => exact Or.inl ⟨b, t, rfl, rfl, rfl⟩
  | error e t => exact Or.inr ⟨e, t, rfl, rfl, rfl⟩

namespace Threads

variable {σ ε α ι : Type} [DecidableEq ι]

/-- One step, labelled with the program that takes it. -/
inductive Step (Env : σ → σ → Prop) (guard : Threads σ ε α ι → ι → Prop) :
    Option ι → Threads σ ε α ι → Threads σ ε α ι → Prop
  | env {p : Threads σ ε α ι} {s : σ} (h : Env p.state s) :
      Step Env guard none p { p with state := s }
  | call {p : Threads σ ε α ι} {i : ι} {u : σ → σ} {n : σ → Async σ ε α}
      (h : p.rest i = .step u n) (hg : guard p i) :
      Step Env guard (some i) p ⟨u p.state, Function.update p.rest i (n p.state)⟩

variable {Env : σ → σ → Prop} {guard : Threads σ ε α ι → ι → Prop}

theorem Step.mono {guard' : Threads σ ε α ι → ι → Prop} {l : Option ι} {p p' : Threads σ ε α ι}
    (h : Step Env guard l p p') (hguard : ∀ p i, guard p i → guard' p i) : Step Env guard' l p p' := by
  cases h with
  | env he => exact .env he
  | call hi hg => exact .call hi (hguard _ _ hg)

def Runs (Env : σ → σ → Prop) (guard : Threads σ ε α ι → ι → Prop) :
    Threads σ ε α ι → Threads σ ε α ι → Prop :=
  Relation.ReflTransGen fun p p' => ∃ l, Step Env guard l p p'

theorem Runs.invariant {I : Threads σ ε α ι → Prop} {p p' : Threads σ ε α ι}
    (h : Runs Env guard p p') (hstep : ∀ l p p', Step Env guard l p p' → I p → I p')
    (hp : I p) : I p' := by
  induction h with
  | refl => exact hp
  | tail _ hlast ih =>
    obtain ⟨l, hl⟩ := hlast
    exact hstep l _ _ hl ih

theorem Runs.mono {guard' : Threads σ ε α ι → ι → Prop} {p p' : Threads σ ε α ι}
    (h : Runs Env guard p p') (hguard : ∀ p i, guard p i → guard' p i) : Runs Env guard' p p' := by
  induction h with
  | refl => exact .refl
  | tail _ hlast ih =>
    obtain ⟨l, hl⟩ := hlast
    exact ih.tail ⟨l, hl.mono hguard⟩

/-- A run keeps to a guard that holds wherever the run leads. -/
theorem Runs.guarded {guard' : Threads σ ε α ι → ι → Prop} {p p' : Threads σ ε α ι}
    (h : Runs Env guard p p') (hguard : ∀ q, Runs Env guard p q → ∀ i, guard q i → guard' q i) :
    Runs Env guard' p p' := by
  induction h with
  | refl => exact .refl
  | @tail q q' hq hlast ih =>
    obtain ⟨l, hl⟩ := hlast
    refine ih.tail ⟨l, ?_⟩
    cases hl with
    | env he => exact .env he
    | call hi hg => exact .call hi (hguard q hq _ hg)

/-- Runs along which an observer takes notes. -/
def Observed {W : Type} (Env : σ → σ → Prop) (guard : Threads σ ε α ι → ι → Prop)
    (watch : Option ι → Threads σ ε α ι → Threads σ ε α ι → W → W) :
    Threads σ ε α ι × W → Threads σ ε α ι × W → Prop :=
  Relation.ReflTransGen fun x y => ∃ l, Step Env guard l x.1 y.1 ∧ y.2 = watch l x.1 y.1 x.2

theorem Observed.invariant {W : Type}
    {watch : Option ι → Threads σ ε α ι → Threads σ ε α ι → W → W}
    {I : Threads σ ε α ι → W → Prop} {x y : Threads σ ε α ι × W}
    (h : Observed Env guard watch x y)
    (hstep : ∀ l p p' w, Step Env guard l p p' → I p w → I p' (watch l p p' w))
    (hx : I x.1 x.2) : I y.1 y.2 := by
  induction h with
  | refl => exact hx
  | tail _ hlast ih =>
    obtain ⟨l, hl, hw⟩ := hlast
    rw [hw]
    exact hstep l _ _ _ hl ih

/-- Every run can be observed. -/
theorem Runs.observed {W : Type}
    (watch : Option ι → Threads σ ε α ι → Threads σ ε α ι → W → W) (w : W)
    {p p' : Threads σ ε α ι} (h : Runs Env guard p p') :
    ∃ w', Observed Env guard watch (p, w) (p', w') := by
  induction h with
  | refl => exact ⟨w, .refl⟩
  | tail _ hlast ih =>
    obtain ⟨l, hl⟩ := hlast
    obtain ⟨w', hw⟩ := ih
    exact ⟨watch l _ _ w', hw.tail ⟨l, hl, rfl⟩⟩

section Schedule

variable [∀ p i, Decidable (guard p i)]

/-- The next step of program `i`, when it has one. -/
def advance (guard : Threads σ ε α ι → ι → Prop) [∀ p i, Decidable (guard p i)]
    (p : Threads σ ε α ι) (i : ι) : Threads σ ε α ι :=
  match p.rest i with
  | .step u n =>
    if guard p i then ⟨u p.state, Function.update p.rest i (n p.state)⟩ else p
  | _ => p

def schedule (guard : Threads σ ε α ι → ι → Prop) [∀ p i, Decidable (guard p i)]
    (order : List ι) (p : Threads σ ε α ι) : Threads σ ε α ι :=
  order.foldl (advance guard) p

variable (Env guard)

theorem advance_runs (p : Threads σ ε α ι) (i : ι) : Runs Env guard p (advance guard p i) := by
  unfold advance
  split
  · split
    · exact .single ⟨some i, .call ‹_› ‹_›⟩
    · exact .refl
  · exact .refl

theorem step_advance {p : Threads σ ε α ι} {i : ι} (h : ∃ u n, p.rest i = .step u n)
    (hg : guard p i) : Step Env guard (some i) p (advance guard p i) := by
  obtain ⟨u, n, hrest⟩ := h
  have hadvance : advance guard p i = ⟨u p.state, Function.update p.rest i (n p.state)⟩ := by
    unfold advance
    rw [hrest]
    exact if_pos hg
  rw [hadvance]
  exact .call hrest hg

/-- Whatever a schedule reaches is reached by a run. -/
theorem schedule_runs (order : List ι) (p : Threads σ ε α ι) :
    Runs Env guard p (schedule guard order p) := by
  induction order generalizing p with
  | nil => exact .refl
  | cons i order ih => exact (advance_runs Env guard p i).trans (ih _)

end Schedule

/-- Whether program `i` has returned. -/
def Returned (p : Threads σ ε α ι) (i : ι) : Prop := ∃ a, p.rest i = .ret a

omit [DecidableEq ι] in
instance (p : Threads σ ε α ι) (i : ι) : Decidable (p.Returned i) :=
  match h : p.rest i with
  | .ret a => isTrue ⟨a, h⟩
  | .fail _ => isFalse fun ⟨_, ha⟩ => nomatch h.symm.trans ha
  | .step _ _ => isFalse fun ⟨_, ha⟩ => nomatch h.symm.trans ha

/-- Control points of a family of programs, with the moves between them. -/
structure Automaton (σ ε α ι Pc : Type) where
  program : ι → Pc → Async σ ε α
  move : ι → Pc → σ → Pc → σ → Prop
  sound : ∀ i pc u n s, program i pc = .step u n →
    ∃ pc', move i pc s pc' (u s) ∧ n s = program i pc'

namespace Automaton

variable {Pc : Type} (A : Automaton σ ε α ι Pc)

/-- The pool in which every program is at the given control point. -/
def pool (s : σ) (pcs : ι → Pc) : Threads σ ε α ι := ⟨s, fun i => A.program i (pcs i)⟩

/-- A step is a move of the environment or of one program. -/
theorem step_cases {l : Option ι} {s : σ} {pcs : ι → Pc} {p' : Threads σ ε α ι}
    (h : Step Env guard l (A.pool s pcs) p') :
    (l = none ∧ ∃ s', Env s s' ∧ p' = A.pool s' pcs) ∨
      ∃ i s' pc', l = some i ∧ guard (A.pool s pcs) i ∧ A.move i (pcs i) s pc' s' ∧
        p' = A.pool s' (Function.update pcs i pc') := by
  cases h with
  | env he => exact Or.inl ⟨rfl, _, he, rfl⟩
  | @call _ i u n hi hg =>
    obtain ⟨pc', hmove, hrest⟩ := A.sound i (pcs i) u n s hi
    refine Or.inr ⟨i, u s, pc', rfl, hg, hmove, ?_⟩
    have hupdate : Function.update (A.pool s pcs).rest i (n s) =
        (A.pool (u s) (Function.update pcs i pc')).rest := by
      funext j
      by_cases hj : j = i
      · subst hj
        simp only [pool, Function.update_self]
        exact hrest
      · simp only [pool, Function.update_of_ne hj]
    exact congrArg (Threads.mk (u s)) hupdate

/-- An invariant of the state, the control points and the notes of an observer holds along
every run. -/
theorem observed_invariant {W : Type}
    {watch : Option ι → Threads σ ε α ι → Threads σ ε α ι → W → W}
    {J : σ → (ι → Pc) → W → Prop} {s : σ} {pcs : ι → Pc} {w : W}
    {y : Threads σ ε α ι × W} (h : Observed Env guard watch (A.pool s pcs, w) y)
    (henv : ∀ s s' pcs w, Env s s' → J s pcs w →
      J s' pcs (watch none (A.pool s pcs) (A.pool s' pcs) w))
    (hcall : ∀ s pcs w i s' pc', guard (A.pool s pcs) i → A.move i (pcs i) s pc' s' → J s pcs w →
      J s' (Function.update pcs i pc')
        (watch (some i) (A.pool s pcs) (A.pool s' (Function.update pcs i pc')) w))
    (hs : J s pcs w) : ∃ s' pcs', y.1 = A.pool s' pcs' ∧ J s' pcs' y.2 := by
  refine h.invariant (I := fun p w => ∃ s' pcs', p = A.pool s' pcs' ∧ J s' pcs' w) ?_
    ⟨s, pcs, rfl, hs⟩
  rintro l _ p' w' hstep ⟨s', pcs', rfl, hj⟩
  rcases A.step_cases hstep with ⟨rfl, s'', he, rfl⟩ | ⟨i, s'', pc', rfl, hg, hmove, rfl⟩
  · exact ⟨s'', pcs', rfl, henv _ _ _ _ he hj⟩
  · exact ⟨s'', _, rfl, hcall _ _ _ _ _ _ hg hmove hj⟩

/-- An invariant of the state and the control points holds along every run. -/
theorem runs_invariant {J : σ → (ι → Pc) → Prop} {s : σ} {pcs : ι → Pc}
    {p : Threads σ ε α ι} (h : Runs Env guard (A.pool s pcs) p)
    (henv : ∀ s s' pcs, Env s s' → J s pcs → J s' pcs)
    (hcall : ∀ s pcs i s' pc', guard (A.pool s pcs) i → A.move i (pcs i) s pc' s' →
      J s pcs → J s' (Function.update pcs i pc'))
    (hs : J s pcs) : ∃ s' pcs', p = A.pool s' pcs' ∧ J s' pcs' := by
  obtain ⟨u, hu⟩ := h.observed (fun _ _ _ (_ : Unit) => ()) ()
  exact A.observed_invariant (J := fun s pcs _ => J s pcs) hu (fun s s' pcs _ => henv s s' pcs)
    (fun s pcs _ => hcall s pcs) hs

end Automaton

end Threads

end NestUserService.Lib
