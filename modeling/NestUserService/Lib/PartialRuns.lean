import NestUserService.Lib.Async

/-!
# Runs that stop midway

An execution may end at any await, before or after the awaited operation took place:
the operation fails for a reason of its own, or the answer is lost. What has to hold
then is a guarantee on every step, and it may rest on what the steps before achieved.
-/

namespace NestUserService.Lib.Async

variable {σ ε α β : Type}

/-- Next to an environment that moves by `E`, the program leads from the first state to
the second, and returns the value, if there is one. -/
inductive Ends (E : σ → σ → Prop) : Async σ ε α → σ → Option α → σ → Prop
  | ret (a : α) (s : σ) : Ends E (ret a) s (some a) s
  | fail (e : ε) (s : σ) : Ends E (fail e) s none s
  | stop (x : Async σ ε α) (s : σ) : Ends E x s none s
  | step {u : σ → σ} {n : σ → Async σ ε α} {s s' t : σ} {o : Option α} (h : E s s')
      (h' : Ends E (n s') (u s') o t) : Ends E (.step u n) s o t

/-- A run without interruption is one of these. -/
theorem Ends.of_run {E : σ → σ → Prop} (hrefl : ∀ s, E s s) {x : Async σ ε α} {s t : σ} {a : α}
    (h : run x s = .ok a t) : Ends E x s (some a) t := by
  induction x generalizing s with
  | ret b =>
    cases h
    exact .ret _ _
  | fail e => cases h
  | step u n ih => exact .step (hrefl s) (ih s h)

/-- From `s`, next to an environment that moves by `E`, every step moves by `G`, and the
program can only return in `Q`. -/
def Moves (E G : σ → σ → Prop) (Q : α → σ → Prop) : Async σ ε α → σ → Prop
  | ret a, s => Q a s
  | fail _, _ => True
  | step u n, s => ∀ s', E s s' → G s' (u s') ∧ Moves E G Q (n s') (u s')

section Rules

variable {E G : σ → σ → Prop} {Q Q' : α → σ → Prop} {P : σ → Prop}

theorem Moves.pure {a : α} {s : σ} (h : Q a s) : Moves E G Q (Pure.pure a : Async σ ε α) s := h

theorem Moves.throw (e : ε) (s : σ) : Moves E G Q (MonadExcept.throw e : Async σ ε α) s := trivial

theorem Moves.mono {x : Async σ ε α} {s : σ} (h : Moves E G Q x s) (hq : ∀ a s, Q a s → Q' a s) :
    Moves E G Q' x s := by
  induction x generalizing s with
  | ret a => exact hq a s h
  | fail e => trivial
  | step u n ih => exact fun s' hr => ⟨(h s' hr).1, ih s' (h s' hr).2⟩

theorem Moves.weaken {G' : σ → σ → Prop} {x : Async σ ε α} {s : σ} (h : Moves E G Q x s)
    (hg : ∀ s t, G s t → G' s t) : Moves E G' Q x s := by
  induction x generalizing s with
  | ret a => exact h
  | fail e => trivial
  | step u n ih => exact fun s' hr => ⟨hg _ _ (h s' hr).1, ih s' (h s' hr).2⟩

theorem Moves.bind {x : Async σ ε α} {f : α → Async σ ε β} {s : σ} {S : β → σ → Prop}
    (h : Moves E G Q x s) (hf : ∀ a s, Q a s → Moves E G S (f a) s) : Moves E G S (x >>= f) s := by
  change Moves E G S (Async.bind x f) s
  induction x generalizing s with
  | ret a => exact hf a s h
  | fail e => trivial
  | step u n ih => exact fun s' hr => ⟨(h s' hr).1, ih s' (h s' hr).2⟩

theorem Moves.await {x : EStateM ε σ α} {s : σ} (hp : Stable E P) (hs : P s)
    (h : ∀ s', P s' → G s' (finalState (x s')) ∧ ∀ a t, x s' = .ok a t → Q a t) :
    Moves E G Q (Async.await x) s := by
  intro s' hr
  obtain ⟨hmove, hq⟩ := h s' (hp s s' hr hs)
  dsimp only
  cases hx : x s' with
  | ok a t =>
    rw [hx] at hmove
    exact ⟨hmove, hq a t hx⟩
  | error e t =>
    rw [hx] at hmove
    exact ⟨hmove, trivial⟩

theorem Moves.ite {c : Prop} [Decidable c] {x y : Async σ ε α} {s : σ}
    (hx : c → Moves E G Q x s) (hy : ¬ c → Moves E G Q y s) :
    Moves E G Q (if c then x else y) s := by
  split
  · exact hx ‹_›
  · exact hy ‹_›

/-- A loop over a list, with the invariant indexed by what is left of it. -/
theorem Moves.forM {ι : Type} {f : ι → Async σ ε PUnit} {I : List ι → σ → Prop}
    (h : ∀ i l s, I (i :: l) s → Moves E G (fun _ => I l) (f i) s) (l : List ι) {s : σ}
    (hs : I l s) : Moves E G (fun _ => I []) (l.forM f) s := by
  induction l generalizing s with
  | nil => exact Moves.pure hs
  | cons i l ih => exact (h i l s hs).bind fun _ _ ht => ih ht

theorem Guarantees.moves {V : α → Prop} {x : Async σ ε α} (h : Guarantees G V x) (s : σ) :
    Moves E G (fun a _ => V a) x s := by
  induction x generalizing s with
  | ret a => exact h
  | fail e => trivial
  | step u n ih => exact fun s' _ => ⟨(h s').1, ih s' (h s').2 (u s')⟩

/-- A program whose steps keep an assertion, and move by `G'` as long as it holds. -/
theorem Moves.keep {G' : σ → σ → Prop} {x : Async σ ε α} {s : σ} (h : Moves E G Q x s)
    (hp : Stable E P) (hstep : ∀ s t, P s → G s t → G' s t ∧ P t) (hs : P s) :
    Moves E G' (fun a t => Q a t ∧ P t) x s := by
  induction x generalizing s with
  | ret a => exact ⟨h, hs⟩
  | fail e => trivial
  | step u n ih =>
    intro s' hr
    obtain ⟨hmove, hs'⟩ := hstep s' (u s') (hp s s' hr hs) (h s' hr).1
    exact ⟨hmove, ih s' (h s' hr).2 hs'⟩

/-- What such a program leaves, wherever it stops. -/
theorem Moves.ends {x : Async σ ε α} {s t : σ} {o : Option α} (h : Moves E G Q x s)
    (hrefl : ∀ s, G s s) (htrans : ∀ s t u, G s t → G t u → G s u) (henv : ∀ s t, E s t → G s t)
    (hend : Ends E x s o t) : G s t ∧ ∀ a, o = some a → Q a t := by
  induction hend with
  | ret a s =>
    refine ⟨hrefl s, fun b hb => ?_⟩
    cases hb
    exact h
  | fail e s => exact ⟨hrefl s, fun b hb => by cases hb⟩
  | stop x s => exact ⟨hrefl s, fun b hb => by cases hb⟩
  | step hr _ ih =>
    obtain ⟨hmove, hnext⟩ := h _ hr
    obtain ⟨hrest, hq⟩ := ih hnext
    exact ⟨htrans _ _ _ (henv _ _ hr) (htrans _ _ _ hmove hrest), hq⟩

end Rules

end NestUserService.Lib.Async
