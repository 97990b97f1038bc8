import NestUserService.Lib.Async

/-!
# Loops over a cursor

`do { reply = call(cursor); body(reply.keys); cursor = reply.cursor } while (cursor !== '0')`,
against a server that answers as it likes. What such a server promises is said about one
run of the loop: a key that is present in every state of the run is in some reply, a
reply only holds keys that are present, and one reply carries the cursor that ends the
loop. The batches may be empty, may repeat keys and may come in any number.
-/

namespace NestUserService.Lib

namespace Async

variable {σ ε α β : Type}

/-- The states a run goes through, the first and the last one included. -/
def visited : Async σ ε α → σ → List σ
  | ret _, s => [s]
  | fail _, s => [s]
  | step u n, s => s :: visited (n s) (u s)

/-- A reflexive and transitive guarantee links every state of a run to its ends. -/
theorem Guarantees.linked {G : σ → σ → Prop} {V : α → Prop} {x : Async σ ε α}
    (h : Guarantees G V x) (hrefl : ∀ s, G s s) (htrans : ∀ s t u, G s t → G t u → G s u)
    (s : σ) : ∀ t ∈ x.visited s, G s t ∧ G t (finalState (x.run s)) := by
  induction x generalizing s with
  | ret a =>
    intro t ht
    rw [List.mem_singleton.mp ht]
    exact ⟨hrefl s, hrefl s⟩
  | fail e =>
    intro t ht
    rw [List.mem_singleton.mp ht]
    exact ⟨hrefl s, hrefl s⟩
  | step u n ih =>
    intro t ht
    rcases List.mem_cons.mp ht with rfl | ht
    · exact ⟨hrefl t, h.run hrefl htrans t⟩
    · obtain ⟨hst, hend⟩ := ih s (h s).2 (u s) t ht
      exact ⟨htrans s (u s) t (h s).1 hst, hend⟩

/-- A program visits what its first part visits, and then what the rest visits. -/
theorem mem_visited_bind {x : Async σ ε α} {f : α → Async σ ε β} {s t : σ}
    (h : t ∈ visited (x >>= f) s) :
    t ∈ visited x s ∨ ∃ a s', run x s = .ok a s' ∧ t ∈ visited (f a) s' := by
  change t ∈ visited (bind x f) s at h
  induction x generalizing s with
  | ret a => exact Or.inr ⟨a, s, rfl, h⟩
  | fail e => exact Or.inl h
  | step u n ih =>
    rcases List.mem_cons.mp h with rfl | h
    · exact Or.inl List.mem_cons_self
    · exact (ih s h).imp (List.mem_cons_of_mem s) id

theorem mem_visited_bind_right {x : Async σ ε α} {f : α → Async σ ε β} {s s' t : σ} {a : α}
    (hx : run x s = .ok a s') (h : t ∈ visited (f a) s') : t ∈ visited (x >>= f) s := by
  change t ∈ visited (bind x f) s
  induction x generalizing s with
  | ret b =>
    cases hx
    exact h
  | fail e => cases hx
  | step u n ih => exact List.mem_cons_of_mem s (ih s hx)

end Async

namespace Cursor

variable {σ ε κ : Type}

/-- A reply: the cursor for the next call and a batch of keys. -/
structure Reply (κ : Type) where
  cursor : String
  keys : List κ

/-- How one call is answered, by the cursor it sends and the state it is made in. -/
abbrev Answer (σ κ : Type) := String → σ → Reply κ

def call (answer : Answer σ κ) (cursor : String) : Async σ ε (Reply κ) :=
  .await fun s => .ok (answer cursor s) s

/-- The loop, with its calls answered in the given order; a call that is not answered
rejects with `lost`. -/
def loop (lost : ε) (body : List κ → Async σ ε Unit) : List (Answer σ κ) → String → Async σ ε Unit
  | [], _ => throw lost
  | answer :: answers, cursor => do
    let reply ← call answer cursor
    body reply.keys
    if reply.cursor ≠ "0" then loop lost body answers reply.cursor

/-- The replies of a run of the loop, each with the state its call is made in. -/
def replies (body : List κ → Async σ ε Unit) :
    List (Answer σ κ) → String → σ → List (σ × Reply κ)
  | [], _, _ => []
  | answer :: answers, cursor, s =>
    let reply := answer cursor s
    (s, reply) ::
      match (body reply.keys).run s with
      | .ok _ s' => if reply.cursor ≠ "0" then replies body answers reply.cursor s' else []
      | .error _ _ => []

variable (lost : ε) (body : List κ → Async σ ε Unit)

/-- What the server promises about the run of the loop that starts in `s`. -/
structure Promised (present : σ → κ → Prop) (answers : List (Answer σ κ)) (s : σ) : Prop where
  /-- A reply only holds keys that are present when its call is made. -/
  sound : ∀ r ∈ replies body answers "0" s, ∀ k ∈ r.2.keys, present r.1 k
  /-- A key that is present throughout is in some reply. -/
  complete : ∀ k, (∀ t ∈ (loop lost body answers "0").visited s, present t k) →
    ∃ r ∈ replies body answers "0" s, k ∈ r.2.keys
  /-- The iteration ends. -/
  ends : ∃ r ∈ replies body answers "0" s, r.2.cursor = "0"

variable {lost body}
variable {present : σ → κ → Prop} {G : σ → σ → Prop} {H : κ → σ → Prop}

theorem run_call (answer : Answer σ κ) (cursor : String) (s : σ) :
    (call answer cursor : Async σ ε (Reply κ)).run s = .ok (answer cursor s) s := rfl

theorem run_loop_cons (answer : Answer σ κ) (answers : List (Answer σ κ)) (cursor : String)
    {s s' : σ} (h : (body (answer cursor s).keys).run s = .ok () s') :
    (loop lost body (answer :: answers) cursor).run s =
      if (answer cursor s).cursor ≠ "0" then
        (loop lost body answers (answer cursor s).cursor).run s'
      else .ok () s' := by
  simp only [loop, Async.run_bind, run_call, h, Async.run_ite, Async.run_pure]

theorem replies_cons (answer : Answer σ κ) (answers : List (Answer σ κ)) (cursor : String)
    {s s' : σ} (h : (body (answer cursor s).keys).run s = .ok () s') :
    replies body (answer :: answers) cursor s = (s, answer cursor s) ::
      if (answer cursor s).cursor ≠ "0" then replies body answers (answer cursor s).cursor s'
      else [] := by
  simp only [replies, h]

theorem mem_visited_loop_cons {answer : Answer σ κ} {answers : List (Answer σ κ)}
    {cursor : String} {s s' t : σ} (h : (body (answer cursor s).keys).run s = .ok () s')
    (ht : t ∈ (loop lost body (answer :: answers) cursor).visited s) :
    t = s ∨ t ∈ (body (answer cursor s).keys).visited s ∨ t = s' ∨
      (answer cursor s).cursor ≠ "0" ∧
        t ∈ (loop lost body answers (answer cursor s).cursor).visited s' := by
  rcases Async.mem_visited_bind ht with ht | ⟨reply, s₁, hreply, ht⟩
  · have hself : t ∈ [s, s] := ht
    simp only [List.mem_cons, List.not_mem_nil, or_false, or_self] at hself
    exact Or.inl hself
  · rw [run_call] at hreply
    cases hreply
    rcases Async.mem_visited_bind ht with ht | ⟨_, s₂, hbody, ht⟩
    · exact Or.inr (Or.inl ht)
    · rw [h] at hbody
      cases hbody
      by_cases hmore : (answer cursor s).cursor ≠ "0"
      · rw [if_pos hmore] at ht
        exact Or.inr (Or.inr (Or.inr ⟨hmore, ht⟩))
      · rw [if_neg hmore] at ht
        exact Or.inr (Or.inr (Or.inl (List.mem_singleton.mp ht)))

/-- Every call is made in a state of the run. -/
theorem visited_of_mem_replies {answers : List (Answer σ κ)} {cursor : String} {s : σ}
    {r : σ × Reply κ} (hr : r ∈ replies body answers cursor s) :
    r.1 ∈ (loop lost body answers cursor).visited s := by
  induction answers generalizing cursor s with
  | nil => exact absurd hr List.not_mem_nil
  | cons answer answers ih =>
    simp only [replies] at hr
    rcases List.mem_cons.mp hr with rfl | hr
    · exact List.mem_cons_self
    · cases hrun : (body (answer cursor s).keys).run s with
      | error e s' =>
        rw [hrun] at hr
        exact absurd hr List.not_mem_nil
      | ok a s' =>
        rw [hrun] at hr
        dsimp only at hr
        by_cases hmore : (answer cursor s).cursor ≠ "0"
        · rw [if_pos hmore] at hr
          refine Async.mem_visited_bind_right (run_call answer cursor s) ?_
          refine Async.mem_visited_bind_right hrun ?_
          rw [if_pos hmore]
          exact ih hr
        · rw [if_neg hmore] at hr
          exact absurd hr List.not_mem_nil

/-- `G` links the states of a run and keeps what is handled. -/
structure Links (G : σ → σ → Prop) (H : κ → σ → Prop) : Prop where
  refl : ∀ s, G s s
  trans : ∀ s t u, G s t → G t u → G s u
  keep : ∀ k s t, G s t → H k s → H k t

/-- What a round of the loop has to do: every step moves the state by `G`, and at the end
the keys of its reply are handled. -/
structure Round (G : σ → σ → Prop) (H : κ → σ → Prop) (round : Async σ ε Unit) (keys : List κ)
    (s s' : σ) : Prop where
  returns : round.run s = .ok () s'
  steps : Async.Guarantees G (fun _ => True) round
  handled : ∀ k ∈ keys, H k s'

/-- A round that goes through its keys one by one. -/
theorem Round.forM (hlinks : Links G H) {f : κ → Async σ ε PUnit} {keys : List κ}
    (hsteps : ∀ k ∈ keys, Async.Guarantees G (fun _ => True) (f k))
    (hhandled : ∀ k s, ∃ s', (f k).run s = .ok () s' ∧ H k s') (s : σ) :
    ∃ s', Round G H (keys.forM f) keys s s' := by
  induction keys generalizing s with
  | nil => exact ⟨s, rfl, Async.Guarantees.forM hsteps, fun k hk => absurd hk List.not_mem_nil⟩
  | cons k keys ih =>
    obtain ⟨s₁, hrun, hk⟩ := hhandled k s
    obtain ⟨s', hrest⟩ := ih (fun k' hk' => hsteps k' (List.mem_cons_of_mem k hk')) s₁
    have hG := hrest.steps.run hlinks.refl hlinks.trans s₁
    rw [hrest.returns, finalState_ok] at hG
    refine ⟨s', ?_, Async.Guarantees.forM hsteps, fun k' hk' => ?_⟩
    · change ((f k >>= fun _ => keys.forM f : Async σ ε PUnit)).run s = _
      rw [Async.run_bind, hrun]
      exact hrest.returns
    · rcases List.mem_cons.mp hk' with rfl | hk'
      · exact hlinks.keep k' s₁ s' hG hk
      · exact hrest.handled k' hk'

/-- The loop runs to its end and handles every key of every reply. -/
theorem run_loop (hlinks : Links G H)
    {s₀ : σ} (hround : ∀ keys s, G s₀ s → (∀ k ∈ keys, present s k) →
      ∃ s', Round G H (body keys) keys s s')
    {answers : List (Answer σ κ)} {cursor : String} {s : σ} (hs : G s₀ s)
    (hsound : ∀ r ∈ replies body answers cursor s, ∀ k ∈ r.2.keys, present r.1 k)
    (hends : ∃ r ∈ replies body answers cursor s, r.2.cursor = "0") :
    ∃ s', (loop lost body answers cursor).run s = .ok () s' ∧ G s s' ∧
      (∀ t ∈ (loop lost body answers cursor).visited s, G s t ∧ G t s') ∧
      ∀ r ∈ replies body answers cursor s, ∀ k ∈ r.2.keys, H k s' := by
  induction answers generalizing cursor s with
  | nil =>
    obtain ⟨r, hr, -⟩ := hends
    exact absurd hr List.not_mem_nil
  | cons answer answers ih =>
    have hkeys : ∀ k ∈ (answer cursor s).keys, present s k :=
      hsound (s, answer cursor s) List.mem_cons_self
    obtain ⟨s₁, h₁⟩ := hround (answer cursor s).keys s hs hkeys
    have hmoved := h₁.steps.run hlinks.refl hlinks.trans s
    have hlinked := h₁.steps.linked hlinks.refl hlinks.trans s
    rw [h₁.returns, finalState_ok] at hmoved hlinked
    rw [replies_cons answer answers cursor h₁.returns] at hsound hends
    rw [run_loop_cons answer answers cursor h₁.returns,
      replies_cons answer answers cursor h₁.returns]
    by_cases hmore : (answer cursor s).cursor ≠ "0"
    · rw [if_pos hmore] at hsound hends
      rw [if_pos hmore, if_pos hmore]
      have hends' : ∃ r ∈ replies body answers (answer cursor s).cursor s₁, r.2.cursor = "0" := by
        obtain ⟨r, hr, h0⟩ := hends
        rcases List.mem_cons.mp hr with rfl | hr
        · exact absurd h0 hmore
        · exact ⟨r, hr, h0⟩
      obtain ⟨s', hrun, hG, hvisited, hH⟩ :=
        ih (hlinks.trans s₀ s s₁ hs hmoved)
          (fun r hr => hsound r (List.mem_cons_of_mem _ hr)) hends'
      have hend : G s s' := hlinks.trans s s₁ s' hmoved hG
      refine ⟨s', hrun, hend, fun t ht => ?_, fun r hr k hk => ?_⟩
      · rcases mem_visited_loop_cons h₁.returns ht with rfl | ht | rfl | ⟨-, ht⟩
        · exact ⟨hlinks.refl t, hend⟩
        · obtain ⟨hst, hts⟩ := hlinked t ht
          exact ⟨hst, hlinks.trans t s₁ s' hts hG⟩
        · exact ⟨hmoved, hG⟩
        · obtain ⟨hst, hts⟩ := hvisited t ht
          exact ⟨hlinks.trans s s₁ t hmoved hst, hts⟩
      · rcases List.mem_cons.mp hr with rfl | hr
        · exact hlinks.keep k s₁ s' hG (h₁.handled k hk)
        · exact hH r hr k hk
    · rw [if_neg hmore, if_neg hmore]
      refine ⟨s₁, rfl, hmoved, fun t ht => ?_, fun r hr k hk => ?_⟩
      · rcases mem_visited_loop_cons h₁.returns ht with rfl | ht | rfl | ⟨hne, -⟩
        · exact ⟨hlinks.refl t, hmoved⟩
        · exact hlinked t ht
        · exact ⟨hmoved, hlinks.refl t⟩
        · exact absurd hne hmore
      · rw [List.mem_singleton.mp hr] at hk
        exact h₁.handled k hk

/-- With a server that keeps its promise, the loop runs to its end and handles every key
that is present throughout. -/
theorem run_promised (hlinks : Links G H)
    {s : σ} (hround : ∀ keys t, G s t → (∀ k ∈ keys, present t k) →
      ∃ t', Round G H (body keys) keys t t')
    {answers : List (Answer σ κ)} (h : Promised lost body present answers s) :
    ∃ s', (loop lost body answers "0").run s = .ok () s' ∧ G s s' ∧
      ∀ k, (∀ t, G s t → G t s' → present t k) → H k s' := by
  obtain ⟨s', hrun, hG, hvisited, hH⟩ := run_loop hlinks hround (hlinks.refl s) h.sound h.ends
  refine ⟨s', hrun, hG, fun k hk => ?_⟩
  have hpresent : ∀ t ∈ (loop lost body answers "0").visited s, present t k := by
    intro t ht
    obtain ⟨hst, hts⟩ := hvisited t ht
    exact hk t hst hts
  obtain ⟨r, hr, hkr⟩ := h.complete k hpresent
  exact hH r hr k hkr

end Cursor

end NestUserService.Lib
