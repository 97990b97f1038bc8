import Mathlib.Data.Fintype.Defs
import Mathlib.Data.Set.Insert
import Mathlib.Logic.Relation
import NestUserService.Lib.Async

/-!
# Concurrent calls

A call is a program in two parts: the section that works on shared state, and what
follows it. A pool executes a family of calls on one state, one awaited operation at
a time and in any order. The guard restricts when a waiting call may start; nothing
assumes that a call is ever finished.
-/

namespace NestUserService.Lib

/-- A program that is cut into the section `inside` and what follows it. -/
structure Call (σ ε β α : Type) where
  program : Async σ ε α
  inside : Async σ ε β
  after : β → Async σ ε α
  cut : program = inside >>= after

/-- What is left of a call. A waiting call has not taken its first step. -/
inductive Thread (σ ε β α : Type) where
  | waiting
  | inside (x : Async σ ε β)
  | after (y : Async σ ε α)

variable {σ ε β α ι : Type}

/-- The section is left as soon as it has returned or rejected. -/
def Call.resume (c : Call σ ε β α) : Async σ ε β → Thread σ ε β α
  | .ret b => .after (c.after b)
  | .fail e => .after (.fail e)
  | .step u n => .inside (.step u n)

namespace Thread

def isInside : Thread σ ε β α → Bool
  | .inside _ => true
  | _ => false

def returned : Thread σ ε β α → Option α
  | .after (.ret a) => some a
  | _ => none

def finished : Thread σ ε β α → Bool
  | .after (.ret _) => true
  | .after (.fail _) => true
  | _ => false

end Thread

structure Pool (σ ε β α ι : Type) where
  state : σ
  threads : ι → Thread σ ε β α

namespace Pool

def start (s : σ) : Pool σ ε β α ι := ⟨s, fun _ => .waiting⟩

/-- No call is inside its section. -/
def Free (p : Pool σ ε β α ι) : Prop := ∀ i, (p.threads i).isInside = false

instance [Fintype ι] : DecidablePred (Free : Pool σ ε β α ι → Prop) := fun p =>
  inferInstanceAs (Decidable (∀ i, (p.threads i).isInside = false))

variable [DecidableEq ι] (calls : ι → Call σ ε β α) (Env : σ → σ → Prop)
  (guard : Pool σ ε β α ι → Prop)

/-- Thread `i` goes on as `t`, in the state `s`. -/
def put (p : Pool σ ε β α ι) (s : σ) (i : ι) (t : Thread σ ε β α) : Pool σ ε β α ι :=
  ⟨s, Function.update p.threads i t⟩

inductive Step : Pool σ ε β α ι → Pool σ ε β α ι → Prop
  | env {p : Pool σ ε β α ι} {s : σ} (h : Env p.state s) : Step p { p with state := s }
  | start {p : Pool σ ε β α ι} {i : ι} (h : p.threads i = .waiting) (hg : guard p) :
      Step p (p.put p.state i ((calls i).resume (calls i).inside))
  | inside {p : Pool σ ε β α ι} {i : ι} {u : σ → σ} {n : σ → Async σ ε β}
      (h : p.threads i = .inside (.step u n)) :
      Step p (p.put (u p.state) i ((calls i).resume (n p.state)))
  | after {p : Pool σ ε β α ι} {i : ι} {u : σ → σ} {n : σ → Async σ ε α}
      (h : p.threads i = .after (.step u n)) :
      Step p (p.put (u p.state) i (.after (n p.state)))

def Runs : Pool σ ε β α ι → Pool σ ε β α ι → Prop :=
  Relation.ReflTransGen (Step calls Env guard)

/-- The pool after call `i` ended with the given result. -/
def settle (p : Pool σ ε β α ι) (i : ι) : EStateM.Result ε σ α → Pool σ ε β α ι
  | .ok a s => p.put s i (.after (.ret a))
  | .error e s => p.put s i (.after (.fail e))

theorem put_put (p : Pool σ ε β α ι) (s s' : σ) (i : ι) (t t' : Thread σ ε β α) :
    (p.put s i t).put s' i t' = p.put s' i t' := by
  simp [put, Function.update_idem]

theorem runs_after (p : Pool σ ε β α ι) (i : ι) (y : Async σ ε α) (s : σ) :
    Runs calls Env guard (p.put s i (.after y)) (p.settle i (y.run s)) := by
  induction y generalizing s with
  | ret a => exact .refl
  | fail e => exact .refl
  | step u n ih =>
    refine .head (.after (i := i) (u := u) (n := n) (by simp [put])) ?_
    rw [put_put]
    exact ih s (u s)

theorem runs_inside (p : Pool σ ε β α ι) (i : ι) (x : Async σ ε β) (s : σ) :
    Runs calls Env guard (p.put s i ((calls i).resume x))
      (p.settle i ((x >>= (calls i).after).run s)) := by
  induction x generalizing s with
  | ret b => exact runs_after calls Env guard p i _ s
  | fail e => exact .refl
  | step u n ih =>
    refine .head (.inside (i := i) (u := u) (n := n) (by simp [put, Call.resume])) ?_
    rw [put_put]
    exact ih s (u s)

/-- Without interference a call ends as its program does. -/
theorem runs_alone {p : Pool σ ε β α ι} {i : ι} (h : p.threads i = .waiting) (hg : guard p) :
    Runs calls Env guard p (p.settle i ((calls i).program.run p.state)) := by
  rw [(calls i).cut]
  exact .head (.start h hg) (runs_inside calls Env guard p i _ p.state)

section Schedule

variable [DecidablePred guard]

/-- The next step of call `i`, when it has one. -/
def advance (p : Pool σ ε β α ι) (i : ι) : Pool σ ε β α ι :=
  match p.threads i with
  | .waiting =>
    if guard p then p.put p.state i ((calls i).resume (calls i).inside) else p
  | .inside (.step u n) => p.put (u p.state) i ((calls i).resume (n p.state))
  | .after (.step u n) => p.put (u p.state) i (.after (n p.state))
  | _ => p

def schedule (order : List ι) (p : Pool σ ε β α ι) : Pool σ ε β α ι :=
  order.foldl (advance calls guard) p

theorem advance_runs (p : Pool σ ε β α ι) (i : ι) :
    Runs calls Env guard p (advance calls guard p i) := by
  unfold advance
  split
  · split
    · exact .single (.start ‹_› ‹_›)
    · exact .refl
  · exact .single (.inside ‹_›)
  · exact .single (.after ‹_›)
  · exact .refl

/-- Whatever a schedule reaches is reached by a run. -/
theorem schedule_runs (order : List ι) (p : Pool σ ε β α ι) :
    Runs calls Env guard p (schedule calls guard order p) := by
  induction order generalizing p with
  | nil => exact .refl
  | cons i order ih => exact (advance_runs calls Env guard p i).trans (ih _)

end Schedule

section Exclusive

variable {calls Env} {R : σ → σ → Prop} {I : Set β → σ → Prop} {f : β → α}

/-- What the pool keeps when calls start only while it is free: `I` of the values that
the sections returned, or else the one open section is about to restore it. Every
call past its section only moves by `R`. -/
structure Inv (R : σ → σ → Prop) (I : Set β → σ → Prop) (f : β → α) (S : Set β)
    (p : Pool σ ε β α ι) : Prop where
  after : ∀ i y, p.threads i = .after y → Async.Guarantees R (fun a => ∃ b ∈ S, f b = a) y
  state : Free p ∧ I S p.state ∨ ∃ i x, p.threads i = .inside x ∧
    (∀ j, j ≠ i → (p.threads j).isInside = false) ∧
    Async.Holds R (fun b => I (insert b S)) (fun _ => I S) x p.state

omit [DecidableEq ι] in
theorem Inv.start (s : σ) (h : I ∅ s) : Inv R I f ∅ (Pool.start s : Pool σ ε β α ι) :=
  ⟨fun _ _ hw => (by cases hw), Or.inl ⟨fun _ => rfl, h⟩⟩

/-- Threads that are past their section after `i` was changed. -/
theorem after_put {p : Pool σ ε β α ι} {s : σ} {i j : ι} {t : Thread σ ε β α} {S S' : Set β}
    {y : Async σ ε α} (hS : S ⊆ S')
    (h : ∀ i y, p.threads i = .after y → Async.Guarantees R (fun a => ∃ b ∈ S, f b = a) y)
    (ht : t = .after y → Async.Guarantees R (fun a => ∃ b ∈ S', f b = a) y)
    (hj : (p.put s i t).threads j = .after y) :
    Async.Guarantees R (fun a => ∃ b ∈ S', f b = a) y := by
  by_cases hji : j = i
  · subst hji
    exact ht (by simpa [put] using hj)
  · have hold : p.threads j = .after y := by simpa [put, hji] using hj
    exact (h j y hold).mono (fun _ _ h => h) fun a ⟨b, hb, ha⟩ => ⟨b, hS hb, ha⟩

/-- The one open section has taken a step, or was just opened. -/
theorem Inv.resume (hafter : ∀ i b, Async.Guarantees R (fun a => f b = a) ((calls i).after b))
    {p : Pool σ ε β α ι} {S : Set β} {i : ι} {x : Async σ ε β} {s : σ}
    (hp : ∀ i y, p.threads i = .after y → Async.Guarantees R (fun a => ∃ b ∈ S, f b = a) y)
    (hj : ∀ j, j ≠ i → (p.threads j).isInside = false)
    (hx : Async.Holds R (fun b => I (insert b S)) (fun _ => I S) x s) :
    ∃ S', Inv R I f S' (p.put s i ((calls i).resume x)) := by
  have hfree {t : Thread σ ε β α} (ht : t.isInside = false) : Free (p.put s i t) := by
    intro j
    by_cases hji : j = i
    · subst hji
      simpa [put] using ht
    · simpa [put, hji] using hj j hji
  cases x with
  | ret b =>
    refine ⟨insert b S, fun j y h => after_put (Set.subset_insert b S) hp (fun ht => ?_) h,
      Or.inl ⟨hfree rfl, hx⟩⟩
    cases ht
    exact (hafter i b).mono (fun _ _ h => h) fun a ha => ⟨b, Set.mem_insert b S, ha⟩
  | fail e =>
    refine ⟨S, fun j y h => after_put (Set.Subset.refl S) hp (fun ht => ?_) h,
      Or.inl ⟨hfree rfl, hx⟩⟩
    cases ht
    exact trivial
  | step u n =>
    refine ⟨S, fun j y h => after_put (Set.Subset.refl S) hp (fun ht => (by cases ht)) h,
      Or.inr ⟨i, .step u n, by simp [put, Call.resume], fun j hji => ?_, hx⟩⟩
    simpa [put, hji] using hj j hji

variable (hrefl : ∀ s, R s s) (htrans : ∀ s t u, R s t → R t u → R s u)
  (henv : ∀ s t, Env s t → R s t) (hI : ∀ S, Async.Stable R (I S))
  (hinside : ∀ i S, Async.Triple R (I S) (calls i).inside (fun b => I (insert b S)) fun _ => I S)
  (hafter : ∀ i b, Async.Guarantees R (fun a => f b = a) ((calls i).after b))
include hrefl htrans henv hI hinside hafter

/-- One step keeps the invariant; a section that returns adds its value. -/
theorem Inv.step {p p' : Pool σ ε β α ι} {S : Set β} (h : Inv R I f S p)
    (hstep : Step calls Env Free p p') : ∃ S', Inv R I f S' p' := by
  have hmove {s : σ} (hr : R p.state s) : Free p ∧ I S s ∨ ∃ i x, p.threads i = .inside x ∧
      (∀ j, j ≠ i → (p.threads j).isInside = false) ∧
      Async.Holds R (fun b => I (insert b S)) (fun _ => I S) x s := by
    rcases h.state with ⟨hf, hi⟩ | ⟨i, x, hi, hj, hx⟩
    · exact Or.inl ⟨hf, hI S _ _ hr hi⟩
    · exact Or.inr ⟨i, x, hi, hj,
        Async.Holds.stable htrans (fun b => hI (insert b S)) (fun _ => hI S) _ _ hr hx⟩
  cases hstep with
  | env he => exact ⟨S, h.after, hmove (henv _ _ he)⟩
  | @start i hw hfree =>
    rcases h.state with ⟨-, hi⟩ | ⟨i', x, hi', -, -⟩
    · exact Inv.resume hafter h.after (fun j _ => hfree j) (hinside i S _ hi)
    · have hf := hfree i'
      rw [hi'] at hf
      cases hf
  | @inside i u n ht =>
    rcases h.state with ⟨hfree, -⟩ | ⟨i', x, hi', hj, hx⟩
    · have hf := hfree i
      rw [ht] at hf
      cases hf
    · have hii : i = i' := by
        by_contra hne
        have hf := hj i hne
        rw [ht] at hf
        cases hf
      subst hii
      rw [ht] at hi'
      cases hi'
      exact Inv.resume hafter h.after hj (hx p.state (hrefl p.state))
  | @after i u n ht =>
    have hy := h.after i _ ht p.state
    refine ⟨S, fun j y hj => after_put (Set.Subset.refl S) h.after (fun he => ?_) hj, ?_⟩
    · cases he
      exact hy.2
    · have hother {j : ι} {x : Async σ ε β} (hj : p.threads j = .inside x) : j ≠ i := by
        rintro rfl
        rw [ht] at hj
        cases hj
      have hkept (j : ι) : ((p.put (u p.state) i (.after (n p.state))).threads j).isInside =
          (p.threads j).isInside := by
        by_cases hji : j = i
        · subst hji
          simp [put, ht, Thread.isInside]
        · simp [put, hji]
      refine (hmove hy.1).imp (fun ⟨hf, hi⟩ => ⟨fun j => (hkept j).trans (hf j), hi⟩) ?_
      rintro ⟨j, x, hj, hothers, hx⟩
      refine ⟨j, x, by simpa [put, hother hj] using hj, fun k hk => ?_, hx⟩
      exact (hkept k).trans (hothers k hk)

theorem Inv.runs {s : σ} (hs : I ∅ s) {p : Pool σ ε β α ι}
    (h : Runs calls Env Free (Pool.start s) p) : ∃ S, Inv R I f S p := by
  induction h with
  | refl => exact ⟨∅, Inv.start s hs⟩
  | tail _ hlast ih =>
    obtain ⟨S, hS⟩ := ih
    exact Inv.step hrefl htrans henv hI hinside hafter hS hlast

/-- Whenever a run is free, `I` holds of values that include everything returned. -/
theorem runs_free {s : σ} (hs : I ∅ s) {p : Pool σ ε β α ι}
    (h : Runs calls Env Free (Pool.start s) p) (hfree : Free p) :
    ∃ S, I S p.state ∧ ∀ i a, (p.threads i).returned = some a → ∃ b ∈ S, f b = a := by
  obtain ⟨S, hS⟩ := Inv.runs hrefl htrans henv hI hinside hafter hs h
  refine ⟨S, ?_, fun i a ha => ?_⟩
  · rcases hS.state with ⟨-, hi⟩ | ⟨i, x, hi, -, -⟩
    · exact hi
    · have hf := hfree i
      rw [hi] at hf
      cases hf
  · cases ht : p.threads i with
    | waiting => rw [ht] at ha; cases ha
    | inside x => rw [ht] at ha; cases ha
    | after y =>
      rw [ht] at ha
      cases y with
      | ret a' =>
        cases ha
        exact hS.after i _ ht
      | fail e => cases ha
      | step u n => cases ha

end Exclusive

end Pool

end NestUserService.Lib
