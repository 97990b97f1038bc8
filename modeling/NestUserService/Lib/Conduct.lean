import NestUserService.Lib.Threads

/-!
# How programs conduct themselves

A program is described by what each of its steps does to the state, by the values it may
return and by the exceptions it may throw, all of them under the assumption that its
steps are taken from states in `I`. Programs next to each other are described together.
-/

namespace NestUserService.Lib

namespace Async

variable {σ ε α β : Type}

/-- From states in `I`, every step moves by `G`; only values in `V` are returned, and only
exceptions in `F` are thrown. -/
def Conducts (I : σ → Prop) (G : σ → σ → Prop) (V : α → Prop) (F : ε → Prop) :
    Async σ ε α → Prop
  | ret a => V a
  | fail e => F e
  | step u n => ∀ s, I s → G s (u s) ∧ Conducts I G V F (n s)

section Rules

variable {I : σ → Prop} {G G' : σ → σ → Prop} {V V' : α → Prop} {F F' : ε → Prop}

theorem Conducts.pure {a : α} (h : V a) : Conducts I G V F (Pure.pure a : Async σ ε α) := h

theorem Conducts.throw {e : ε} (h : F e) :
    Conducts I G V F (MonadExcept.throw e : Async σ ε α) := h

theorem Conducts.bind {x : Async σ ε α} {f : α → Async σ ε β} {W : β → Prop}
    (h : Conducts I G V F x) (hf : ∀ a, V a → Conducts I G W F (f a)) :
    Conducts I G W F (x >>= f) := by
  change Conducts I G W F (Async.bind x f)
  induction x with
  | ret a => exact hf a h
  | fail e => exact h
  | step u n ih => exact fun s hs => ⟨(h s hs).1, ih s (h s hs).2⟩

theorem Conducts.await {x : EStateM ε σ α}
    (h : ∀ s, I s → G s (finalState (x s)) ∧
      (∀ a t, x s = .ok a t → V a) ∧ ∀ e t, x s = .error e t → F e) :
    Conducts I G V F (Async.await x) := by
  intro s hs
  obtain ⟨hmove, hok, herror⟩ := h s hs
  dsimp only
  cases hx : x s with
  | ok a t =>
    rw [hx] at hmove
    exact ⟨hmove, hok a t hx⟩
  | error e t =>
    rw [hx] at hmove
    exact ⟨hmove, herror e t hx⟩

theorem Conducts.ite {c : Prop} [Decidable c] {x y : Async σ ε α}
    (hx : c → Conducts I G V F x) (hy : ¬ c → Conducts I G V F y) :
    Conducts I G V F (if c then x else y) := by
  split
  · exact hx ‹_›
  · exact hy ‹_›

theorem Conducts.forM {ι : Type} {f : ι → Async σ ε PUnit} {l : List ι}
    (h : ∀ i ∈ l, Conducts I G (fun _ => True) F (f i)) :
    Conducts I G (fun _ => True) F (l.forM f) := by
  induction l with
  | nil => exact Conducts.pure trivial
  | cons i l ih =>
    exact (h i List.mem_cons_self).bind fun _ _ =>
      ih fun j hj => h j (List.mem_cons_of_mem i hj)

theorem Conducts.handle {x : Async σ ε α} {k : ε → Async σ ε α} (h : Conducts I G V F x)
    (hk : ∀ e, F e → Conducts I G V F' (k e)) : Conducts I G V F' (x.handle k) := by
  induction x with
  | ret a => exact h
  | fail e => exact hk e h
  | step u n ih => exact fun s hs => ⟨(h s hs).1, ih s (h s hs).2⟩

theorem Conducts.mono {I' : σ → Prop} {x : Async σ ε α} (h : Conducts I G V F x)
    (hi : ∀ s, I' s → I s) (hg : ∀ s t, G s t → G' s t) (hv : ∀ a, V a → V' a)
    (hf : ∀ e, F e → F' e) : Conducts I' G' V' F' x := by
  induction x with
  | ret a => exact hv a h
  | fail e => exact hf e h
  | step u n ih => exact fun s hs => ⟨hg s _ (h s (hi s hs)).1, ih s (h s (hi s hs)).2⟩

/-- Two descriptions of one program hold together. -/
theorem Conducts.and {x : Async σ ε α} (h : Conducts I G V F x) (h' : Conducts I G' V' F' x) :
    Conducts I (fun s t => G s t ∧ G' s t) (fun a => V a ∧ V' a) (fun e => F e ∧ F' e) x := by
  induction x with
  | ret a => exact ⟨h, h'⟩
  | fail e => exact ⟨h, h'⟩
  | step u n ih =>
    exact fun s hs => ⟨⟨(h s hs).1, (h' s hs).1⟩, ih s (h s hs).2 (h' s hs).2⟩

theorem Guarantees.conducts {x : Async σ ε α} (h : Guarantees G V x) :
    Conducts I G V (fun _ => True) x := by
  induction x with
  | ret a => exact h
  | fail e => trivial
  | step u n ih => exact fun s _ => ⟨(h s).1, ih s (h s).2⟩

end Rules

/-- From states in `I`, some step of the program brings `D` about before the program ends; one
that ends without it returns a value in `V`, or throws an exception in `F`. -/
def Settles (I D : σ → Prop) (V : α → Prop) (F : ε → Prop) : Async σ ε α → Prop
  | ret a => V a
  | fail e => F e
  | step u n => ∀ s, I s → D (u s) ∨ Settles I D V F (n s)

section Settling

variable {I D : σ → Prop} {V : α → Prop} {W : β → Prop} {F : ε → Prop}

theorem Settles.bind {x : Async σ ε α} {f : α → Async σ ε β} (h : Settles I D V F x)
    (hf : ∀ a, V a → Settles I D W F (f a)) : Settles I D W F (x >>= f) := by
  change Settles I D W F (Async.bind x f)
  induction x with
  | ret a => exact hf a h
  | fail e => exact h
  | step u n ih => exact fun s hs => (h s hs).imp_right (ih s)

theorem Settles.await {x : EStateM ε σ α}
    (h : ∀ s, I s → D (finalState (x s)) ∨
      (∀ a t, x s = .ok a t → V a) ∧ ∀ e t, x s = .error e t → F e) :
    Settles I D V F (Async.await x) := by
  intro s hs
  have hx := h s hs
  dsimp only
  cases hres : x s with
  | ok a t =>
    rw [hres] at hx
    exact hx.imp_right fun h => h.1 a t rfl
  | error e t =>
    rw [hres] at hx
    exact hx.imp_right fun h => h.2 e t rfl

theorem Settles.ite {c : Prop} [Decidable c] {x y : Async σ ε α} (hx : Settles I D V F x)
    (hy : Settles I D V F y) : Settles I D V F (if c then x else y) := by
  split
  · exact hx
  · exact hy

/-- A program may end as it likes where nothing is asked of its end. -/
theorem settles_of_true (x : Async σ ε α) : Settles I D (fun _ => True) (fun _ => True) x := by
  induction x with
  | ret a => trivial
  | fail e => trivial
  | step u n ih => exact fun s _ => Or.inr (ih s)

end Settling

end Async

namespace Threads

open Async

variable {σ ε α ι : Type} {Env : σ → σ → Prop} {guard : Threads σ ε α ι → ι → Prop}
  {I : σ → Prop} {G : ι → σ → σ → Prop} {V : ι → α → Prop} {F : ι → ε → Prop}

/-- All programs of the pool conduct themselves, each in its own way. -/
def Conduct (I : σ → Prop) (G : ι → σ → σ → Prop) (V : ι → α → Prop) (F : ι → ε → Prop)
    (p : Threads σ ε α ι) : Prop :=
  ∀ i, Conducts I (G i) (V i) (F i) (p.rest i)

theorem Conduct.returned {p : Threads σ ε α ι} (h : p.Conduct I G V F) {i : ι} {a : α}
    (hret : p.rest i = .ret a) : V i a := by
  have hi := h i
  rwa [hret] at hi

theorem Conduct.failed {p : Threads σ ε α ι} (h : p.Conduct I G V F) {i : ι} {e : ε}
    (hfail : p.rest i = .fail e) : F i e := by
  have hi := h i
  rwa [hfail] at hi

variable [DecidableEq ι]

/-- A step from a good state is one of the environment, or a move of the program that takes
it, and it leaves programs of the same conduct. -/
theorem Conduct.step {l : Option ι} {p p' : Threads σ ε α ι} (h : p.Conduct I G V F)
    (hstep : Step Env guard l p p') (hI : I p.state) :
    ((l = none ∧ Env p.state p'.state) ∨ ∃ i, l = some i ∧ G i p.state p'.state) ∧
      p'.Conduct I G V F := by
  cases hstep with
  | env he => exact ⟨Or.inl ⟨rfl, he⟩, h⟩
  | @call _ i u n hi hg =>
    have hu := h i
    rw [hi] at hu
    obtain ⟨hmove, hrest⟩ := hu p.state hI
    refine ⟨Or.inr ⟨i, rfl, hmove⟩, fun j => ?_⟩
    by_cases hj : j = i
    · subst hj
      simp only [Function.update_self]
      exact hrest
    · simp only [Function.update_of_ne hj]
      exact h j

/-- A program that is run from states in `I` only conducts itself along any run. -/
theorem conducts_along {V : α → Prop} {F : ε → Prop} {G : σ → σ → Prop} {i : ι}
    {p p' : Threads σ ε α ι} (hi : Conducts I G V F (p.rest i)) (hrun : Runs Env guard p p')
    (hguard : ∀ q, guard q i → I q.state) : Conducts I G V F (p'.rest i) := by
  refine hrun.invariant (I := fun q => Conducts I G V F (q.rest i)) ?_ hi
  rintro l q q' hstep hq
  cases hstep with
  | env he => exact hq
  | @call _ j u n hj hg =>
    by_cases hji : i = j
    · subst hji
      rw [hj] at hq
      simp only [Function.update_self]
      exact (hq q.state (hguard q hg)).2
    · simp only [Function.update_of_ne hji]
      exact hq

theorem conducts_own_step {V : α → Prop} {F : ε → Prop} {G : σ → σ → Prop} {i : ι}
    {p p' : Threads σ ε α ι} (hi : Conducts I G V F (p.rest i))
    (hstep : Step Env guard (some i) p p') (hguard : guard p i → I p.state) :
    G p.state p'.state := by
  cases hstep with
  | call hrest hg =>
    rw [hrest] at hi
    exact (hi p.state (hguard hg)).1

/-- Along a run, what the environment and the moves keep is kept, and what they relate is
related. -/
theorem Conduct.runs {p p' : Threads σ ε α ι} {R : σ → σ → Prop} (h : p.Conduct I G V F)
    (hrun : Runs Env guard p p') (hI : I p.state) (henvI : ∀ s t, Env s t → I s → I t)
    (hmoveI : ∀ i s t, G i s t → I s → I t) (hrefl : ∀ s, R s s)
    (htrans : ∀ s t u, R s t → R t u → R s u) (henv : ∀ s t, Env s t → R s t)
    (hmove : ∀ i s t, I s → G i s t → R s t) :
    R p.state p'.state ∧ I p'.state ∧ p'.Conduct I G V F := by
  refine hrun.invariant (I := fun q => R p.state q.state ∧ I q.state ∧ q.Conduct I G V F) ?_
    ⟨hrefl _, hI, h⟩
  rintro l q q' hstep ⟨hR, hq, hc⟩
  obtain ⟨⟨-, he⟩ | ⟨i, -, hg⟩, hc'⟩ := hc.step hstep hq
  · exact ⟨htrans _ _ _ hR (henv _ _ he), henvI _ _ he hq, hc'⟩
  · exact ⟨htrans _ _ _ hR (hmove i _ _ hq hg), hmoveI i _ _ hg hq, hc'⟩

/-- What a program settles holds once the program has ended, when nobody undoes it. -/
theorem settled_along {D : σ → Prop} {V : α → Prop} {F : ε → Prop} {i : ι}
    {p p' : Threads σ ε α ι} (hi : Settles I D V F (p.rest i)) (hrun : Runs Env guard p p')
    (hI : ∀ q, Runs Env guard p q → I q.state)
    (hD : ∀ q l q', Runs Env guard p q → Step Env guard l q q' → D q.state → D q'.state) :
    D p'.state ∨ Settles I D V F (p'.rest i) := by
  induction hrun with
  | refl => exact Or.inr hi
  | @tail q q' hq hlast ih =>
    obtain ⟨l, hl⟩ := hlast
    rcases ih with hd | hrest
    · exact Or.inl (hD q l q' hq hl hd)
    · cases hl with
      | env he => exact Or.inr hrest
      | @call _ j u n hj hg =>
        by_cases hji : i = j
        · subst hji
          rw [hj] at hrest
          simp only [Function.update_self]
          exact hrest q.state (hI q hq)
        · simp only [Function.update_of_ne hji]
          exact Or.inr hrest

omit [DecidableEq ι] in
/-- What every move between the control points does, the programs do. -/
theorem Automaton.guarantees {Pc : Type} (A : Automaton σ ε α ι Pc) {i : ι} {G : σ → σ → Prop}
    (hmove : ∀ pc s pc' s', A.move i pc s pc' s' → G s s') (pc : Pc) :
    Guarantees G (fun _ => True) (A.program i pc) := by
  generalize hx : A.program i pc = x
  induction x generalizing pc with
  | ret a => trivial
  | fail e => trivial
  | step u n ih =>
    intro s
    obtain ⟨pc', hm, hn⟩ := A.sound i pc u n s hx
    exact ⟨hmove pc s pc' (u s) hm, ih s pc' hn.symm⟩

end Threads

end NestUserService.Lib
