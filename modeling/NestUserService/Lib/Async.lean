import Mathlib.Tactic.Common

/-!
# Programs that await

An `async` function runs without interruption between two awaits. `Async` keeps
that granularity: a program is a tree whose `step` nodes are the awaited
operations, each atomic on the shared state `σ`. `run` executes a program alone.
`Holds` executes it next to an environment that may move the state by `R` before
every step, so one specification serves the sequential and the interleaved
reading. Nothing here assumes that a program is executed to its end.
-/

namespace NestUserService.Lib

section Sync

variable {σ ε α β : Type}

@[simp] theorem sync_pure (a : α) (s : σ) : (pure a : EStateM ε σ α) s = .ok a s := rfl

@[simp] theorem sync_throw (e : ε) (s : σ) : (throw e : EStateM ε σ α) s = .error e s := rfl

@[simp] theorem sync_bind (x : EStateM ε σ α) (f : α → EStateM ε σ β) (s : σ) :
    (x >>= f) s = match x s with
      | .ok a s' => f a s'
      | .error e s' => .error e s' := by
  change EStateM.bind x f s = _
  unfold EStateM.bind
  cases x s <;> rfl

@[simp] theorem sync_map (x : EStateM ε σ α) (f : α → β) (s : σ) :
    (f <$> x) s = match x s with
      | .ok a s' => .ok (f a) s'
      | .error e s' => .error e s' := by
  change EStateM.map f x s = _
  unfold EStateM.map
  cases x s <;> rfl

@[simp] theorem sync_ite (c : Prop) [Decidable c] (x y : EStateM ε σ α) (s : σ) :
    (if c then x else y) s = if c then x s else y s := by
  split <;> rfl

/-- The state an execution leaves, whether it returns or rejects. -/
def finalState : EStateM.Result ε σ α → σ
  | .ok _ s => s
  | .error _ s => s

@[simp] theorem finalState_ok (a : α) (s : σ) :
    finalState (.ok a s : EStateM.Result ε σ α) = s := rfl

@[simp] theorem finalState_error (e : ε) (s : σ) :
    finalState (.error e s : EStateM.Result ε σ α) = s := rfl

/-- The value an execution returns. -/
def returned : EStateM.Result ε σ α → Option α
  | .ok a _ => some a
  | .error _ _ => none

theorem ok_of_returned {r : EStateM.Result ε σ α} {a : α} (h : returned r = some a) :
    r = .ok a (finalState r) := by
  cases r with
  | ok b s =>
    cases h
    rfl
  | error e s => cases h

theorem exists_ok_of_returned {r : EStateM.Result ε σ α} (h : (returned r).isSome = true) :
    ∃ a s, r = .ok a s := by
  obtain ⟨a, ha⟩ := Option.isSome_iff_exists.mp h
  exact ⟨a, _, ok_of_returned ha⟩

theorem error_of_returned {r : EStateM.Result ε σ α} (h : (returned r).isNone = true) :
    ∃ e, r = .error e (finalState r) := by
  cases r with
  | ok a s => cases h
  | error e s => exact ⟨e, rfl⟩

end Sync

/-- A program over the state `σ`. The continuation of a step sees the state the
step started from. -/
inductive Async (σ ε α : Type) where
  | ret (a : α)
  | fail (e : ε)
  | step (update : σ → σ) (next : σ → Async σ ε α)

namespace Async

variable {σ ε α β : Type}

def bind : Async σ ε α → (α → Async σ ε β) → Async σ ε β
  | ret a, k => k a
  | fail e, _ => fail e
  | step u n, k => step u fun s => bind (n s) k

/-- `try { x } catch (e) { h e }`, for a rejection that is awaited inside the block. -/
def handle : Async σ ε α → (ε → Async σ ε α) → Async σ ε α
  | ret a, _ => ret a
  | fail e, h => h e
  | step u n, h => step u fun s => handle (n s) h

instance : Monad (Async σ ε) where
  pure := ret
  bind := bind

instance : MonadExceptOf ε (Async σ ε) where
  throw := fail
  tryCatch := handle

/-- One awaited operation: the synchronous code `x` is a single step. -/
def await (x : EStateM ε σ α) : Async σ ε α :=
  step
    (fun s => match x s with
      | .ok _ s' => s'
      | .error _ s' => s')
    (fun s => match x s with
      | .ok a _ => ret a
      | .error e _ => fail e)

/-- Execution without interference. -/
def run : Async σ ε α → EStateM ε σ α
  | ret a, s => .ok a s
  | fail e, s => .error e s
  | step u n, s => run (n s) (u s)

@[simp] theorem run_pure (a : α) (s : σ) : run (pure a : Async σ ε α) s = .ok a s := rfl

@[simp] theorem run_throw (e : ε) (s : σ) : run (throw e : Async σ ε α) s = .error e s := rfl

@[simp] theorem run_bind (x : Async σ ε α) (f : α → Async σ ε β) (s : σ) :
    run (x >>= f) s = match run x s with
      | .ok a s' => run (f a) s'
      | .error e s' => .error e s' := by
  change run (bind x f) s = _
  induction x generalizing s with
  | ret a => rfl
  | fail e => rfl
  | step u n ih => exact ih s (u s)

/-- A program that returns has run through its parts. -/
theorem run_bind_ok {x : Async σ ε α} {f : α → Async σ ε β} {s t : σ} {b : β}
    (h : run (x >>= f) s = .ok b t) : ∃ a s', run x s = .ok a s' ∧ run (f a) s' = .ok b t := by
  rw [run_bind] at h
  cases hx : run x s with
  | ok a s' => exact ⟨a, s', rfl, by simpa only [hx] using h⟩
  | error e s' =>
    rw [hx] at h
    cases h

theorem run_bind_eq_ok {x : Async σ ε α} {f : α → Async σ ε β} {s t : σ} {b : β} :
    run (x >>= f) s = .ok b t ↔ ∃ a s', run x s = .ok a s' ∧ run (f a) s' = .ok b t := by
  refine ⟨run_bind_ok, fun h => ?_⟩
  obtain ⟨a, s', hx, hf⟩ := h
  rw [run_bind, hx]
  exact hf

@[simp] theorem run_await (x : EStateM ε σ α) (s : σ) : run (await x) s = x s := by
  change run (match x s with | .ok a _ => ret a | .error e _ => fail e)
    (match x s with | .ok _ s' => s' | .error _ s' => s') = x s
  cases x s <;> rfl

@[simp] theorem run_handle (x : Async σ ε α) (h : ε → Async σ ε α) (s : σ) :
    run (x.handle h) s = match run x s with
      | .ok a s' => .ok a s'
      | .error e s' => run (h e) s' := by
  induction x generalizing s with
  | ret a => rfl
  | fail e => rfl
  | step u n ih => exact ih s (u s)

@[simp] theorem run_ite (c : Prop) [Decidable c] (x y : Async σ ε α) (s : σ) :
    run (if c then x else y) s = if c then run x s else run y s := by
  split <;> rfl

@[simp] theorem pure_bind (a : α) (f : α → Async σ ε β) :
    (pure a : Async σ ε α) >>= f = f a := rfl

@[simp] theorem throw_bind (e : ε) (f : α → Async σ ε β) :
    (throw e : Async σ ε α) >>= f = throw e := rfl

theorem ite_bind (c : Prop) [Decidable c] (x y : Async σ ε α) (f : α → Async σ ε β) :
    (if c then x else y) >>= f = if c then x >>= f else y >>= f := by
  split <;> rfl

theorem bind_assoc {γ : Type} (x : Async σ ε α) (f : α → Async σ ε β) (g : β → Async σ ε γ) :
    x >>= f >>= g = x >>= fun a => f a >>= g := by
  change bind (bind x f) g = bind x fun a => bind (f a) g
  induction x with
  | ret a => rfl
  | fail e => rfl
  | step u n ih => exact congrArg (step u) (funext ih)

theorem bind_pure (x : Async σ ε α) : x >>= pure = x := by
  change bind x ret = x
  induction x with
  | ret a => rfl
  | fail e => rfl
  | step u n ih => exact congrArg (step u) (funext ih)

/-- From `s`, with environment moves `R` before every step, the program can only
end in `Q`, and can only reject in `E`. -/
def Holds (R : σ → σ → Prop) (Q : α → σ → Prop) (E : ε → σ → Prop) :
    Async σ ε α → σ → Prop
  | ret a, s => Q a s
  | fail e, s => E e s
  | step u n, s => ∀ s', R s s' → Holds R Q E (n s') (u s')

/-- A pre- and postcondition for every execution next to `R`. -/
def Triple (R : σ → σ → Prop) (P : σ → Prop) (x : Async σ ε α)
    (Q : α → σ → Prop) (E : ε → σ → Prop) : Prop :=
  ∀ s, P s → Holds R Q E x s

/-- The environment cannot falsify `P`. -/
def Stable (R : σ → σ → Prop) (P : σ → Prop) : Prop :=
  ∀ s s', R s s' → P s → P s'

section Rules

variable {R : σ → σ → Prop} {P P' : σ → Prop} {Q Q' : α → σ → Prop} {E E' : ε → σ → Prop}

theorem Holds.mono {x : Async σ ε α} {s : σ} (h : Holds R Q E x s)
    (hq : ∀ a s, Q a s → Q' a s) (he : ∀ e s, E e s → E' e s) : Holds R Q' E' x s := by
  induction x generalizing s with
  | ret a => exact hq a s h
  | fail e => exact he e s h
  | step u n ih => exact fun s' hr => ih s' (h s' hr)

/-- What holds of a program waiting at an await, the environment cannot falsify. -/
theorem Holds.stable (htrans : ∀ s t u, R s t → R t u → R s u) (hq : ∀ a, Stable R (Q a))
    (he : ∀ e, Stable R (E e)) {x : Async σ ε α} : Stable R (Holds R Q E x) := by
  intro s s' hr h
  cases x with
  | ret a => exact hq a s s' hr h
  | fail e => exact he e s s' hr h
  | step u n => exact fun t ht => h t (htrans s s' t hr ht)

theorem Holds.all {ι : Sort*} [Nonempty ι] {F : ι → α → σ → Prop} {x : Async σ ε α} {s : σ}
    (h : ∀ i, Holds R (F i) E x s) : Holds R (fun a s => ∀ i, F i a s) E x s := by
  induction x generalizing s with
  | ret a => exact h
  | fail e => exact h (Classical.arbitrary ι)
  | step u n ih => exact fun s' hr => ih s' fun i => h i s' hr

theorem Triple.conseq {x : Async σ ε α} (h : Triple R P x Q E) (hp : ∀ s, P' s → P s)
    (hq : ∀ a s, Q a s → Q' a s) (he : ∀ e s, E e s → E' e s) : Triple R P' x Q' E' :=
  fun s hs => (h s (hp s hs)).mono hq he

theorem Triple.pure {a : α} (h : ∀ s, P s → Q a s) : Triple R P (Pure.pure a) Q E :=
  fun s hs => h s hs

theorem Triple.throw {e : ε} (h : ∀ s, P s → E e s) :
    Triple R P (MonadExcept.throw e : Async σ ε α) Q E :=
  fun s hs => h s hs

theorem Holds.bind {x : Async σ ε α} {f : α → Async σ ε β} {s : σ} {S : β → σ → Prop}
    (h : Holds R Q E x s) (hf : ∀ a s, Q a s → Holds R S E (f a) s) :
    Holds R S E (x >>= f) s := by
  change Holds R S E (Async.bind x f) s
  induction x generalizing s with
  | ret a => exact hf a s h
  | fail e => exact h
  | step u n ih => exact fun s' hr => ih s' (h s' hr)

theorem Triple.bind {x : Async σ ε α} {f : α → Async σ ε β} {S : β → σ → Prop}
    (h : Triple R P x Q E) (hf : ∀ a, Triple R (Q a) (f a) S E) : Triple R P (x >>= f) S E :=
  fun s hs => (h s hs).bind fun a s' ha => hf a s' ha

/-- An awaited operation sees a state of the same precondition the environment
left it. -/
theorem Triple.await {x : EStateM ε σ α} (hst : Stable R P)
    (h : ∀ s, P s → match x s with
      | .ok a s' => Q a s'
      | .error e s' => E e s') : Triple R P (Async.await x) Q E := by
  intro s hs s' hr
  have hx := h s' (hst s s' hr hs)
  dsimp only
  cases hxs : x s' with
  | ok a t => rw [hxs] at hx; exact hx
  | error e t => rw [hxs] at hx; exact hx

/-- A family of specifications that share the exceptional postcondition. -/
theorem Triple.all {ι : Sort*} [Nonempty ι] {F : ι → α → σ → Prop} {x : Async σ ε α}
    (h : ∀ i, Triple R P x (F i) E) : Triple R P x (fun a s => ∀ i, F i a s) E :=
  fun s hs => Holds.all fun i => h i s hs

theorem Triple.ite {c : Prop} [Decidable c] {x y : Async σ ε α}
    (hx : c → Triple R P x Q E) (hy : ¬ c → Triple R P y Q E) :
    Triple R P (if c then x else y) Q E := by
  split
  · exact hx ‹_›
  · exact hy ‹_›

/-- A loop over a list, with the invariant indexed by what is left of it. -/
theorem Triple.forM {ι : Type} {f : ι → Async σ ε PUnit} {I : List ι → σ → Prop}
    (h : ∀ i l, Triple R (I (i :: l)) (f i) (fun _ => I l) E) (l : List ι) :
    Triple R (I l) (l.forM f) (fun _ => I []) E := by
  induction l with
  | nil => exact Triple.pure fun _ hs => hs
  | cons i l ih => exact Triple.bind (h i l) fun _ => ih

/-- Without interference a triple speaks about `run`. -/
theorem Triple.run {x : Async σ ε α} (h : Triple R P x Q E) (hr : ∀ s, R s s) {s : σ}
    (hs : P s) : match Async.run x s with
      | .ok a s' => Q a s'
      | .error e s' => E e s' := by
  have hx := h s hs
  clear h hs
  induction x generalizing s with
  | ret a => exact hx
  | fail e => exact hx
  | step u n ih => exact ih s (hx s (hr s))

end Rules

/-- Whatever the environment does, every step moves the state by `G`, and only
values in `V` are returned. -/
def Guarantees (G : σ → σ → Prop) (V : α → Prop) : Async σ ε α → Prop
  | ret a => V a
  | fail _ => True
  | step u n => ∀ s, G s (u s) ∧ Guarantees G V (n s)

section Guarantee

variable {G : σ → σ → Prop} {V : α → Prop}

theorem Guarantees.pure {a : α} (h : V a) : Guarantees G V (Pure.pure a : Async σ ε α) := h

theorem Guarantees.throw (e : ε) : Guarantees G V (MonadExcept.throw e : Async σ ε α) := trivial

/-- Any program does something. -/
theorem Guarantees.any (x : Async σ ε α) : Guarantees (fun _ _ => True) (fun _ => True) x := by
  induction x with
  | ret a => trivial
  | fail e => trivial
  | step u n ih => exact fun s => ⟨trivial, ih s⟩

theorem Guarantees.bind {x : Async σ ε α} {f : α → Async σ ε β} {V' : β → Prop}
    (h : Guarantees G V x) (hf : ∀ a, V a → Guarantees G V' (f a)) :
    Guarantees G V' (x >>= f) := by
  change Guarantees G V' (Async.bind x f)
  induction x with
  | ret a => exact hf a h
  | fail e => exact trivial
  | step u n ih => exact fun s => ⟨(h s).1, ih s (h s).2⟩

theorem Guarantees.await {x : EStateM ε σ α} (hs : ∀ s, G s (finalState (x s)))
    (hv : ∀ s a s', x s = .ok a s' → V a) : Guarantees G V (Async.await x) := by
  intro s
  have hx := hs s
  dsimp only
  cases hxs : x s with
  | ok a t => rw [hxs] at hx; exact ⟨hx, hv s a t hxs⟩
  | error e t => rw [hxs] at hx; exact ⟨hx, trivial⟩

theorem Guarantees.ite {c : Prop} [Decidable c] {x y : Async σ ε α}
    (hx : c → Guarantees G V x) (hy : ¬ c → Guarantees G V y) :
    Guarantees G V (if c then x else y) := by
  split
  · exact hx ‹_›
  · exact hy ‹_›

theorem Guarantees.forM {ι : Type} {f : ι → Async σ ε PUnit} {l : List ι}
    (h : ∀ i ∈ l, Guarantees G (fun _ => True) (f i)) :
    Guarantees G (fun _ => True) (l.forM f) := by
  induction l with
  | nil => exact trivial
  | cons i l ih =>
    exact (h i (by simp)).bind fun _ _ => ih fun j hj => h j (by simp [hj])

theorem Guarantees.mono {G' : σ → σ → Prop} {V' : α → Prop} {x : Async σ ε α}
    (h : Guarantees G V x) (hg : ∀ s t, G s t → G' s t) (hv : ∀ a, V a → V' a) :
    Guarantees G' V' x := by
  induction x with
  | ret a => exact hv a h
  | fail e => exact trivial
  | step u n ih => exact fun s => ⟨hg s _ (h s).1, ih s (h s).2⟩

/-- A program that only moves by `G` keeps what `G` and the environment keep. -/
theorem Guarantees.triple {R : σ → σ → Prop} {P : σ → Prop} {x : Async σ ε α}
    (h : Guarantees G V x) (hr : Stable R P) (hg : Stable G P) :
    Triple R P x (fun a s => V a ∧ P s) (fun _ => P) := by
  induction x with
  | ret a => exact fun s hs => ⟨h, hs⟩
  | fail e => exact fun s hs => hs
  | step u n ih =>
    intro s hs s' hrs
    exact ih s' (h s').2 (u s') (hg s' (u s') (h s').1 (hr s s' hrs hs))

/-- A reflexive and transitive guarantee holds between the ends of a run. -/
theorem Guarantees.run {x : Async σ ε α} (h : Guarantees G V x) (hrefl : ∀ s, G s s)
    (htrans : ∀ s t u, G s t → G t u → G s u) (s : σ) : G s (finalState (Async.run x s)) := by
  induction x generalizing s with
  | ret a => exact hrefl s
  | fail e => exact hrefl s
  | step u n ih => exact htrans _ _ _ (h s).1 (ih s (h s).2 (u s))

theorem Guarantees.value {x : Async σ ε α} (h : Guarantees G V x) {s s' : σ} {a : α}
    (hrun : Async.run x s = .ok a s') : V a := by
  induction x generalizing s with
  | ret b =>
    cases hrun
    exact h
  | fail e => cases hrun
  | step u n ih => exact ih s (h s).2 hrun

end Guarantee

end Async

end NestUserService.Lib
