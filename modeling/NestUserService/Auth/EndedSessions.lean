import NestUserService.Auth.Credentials

/-!
# Sessions that have ended

A refresh token whose row is invalid is never accepted again: no call makes a row valid, and
`refreshTokens` reads the row first. A rotation makes the row of its token invalid before it
answers; a login, a theft response and a revocation do so with their first step. Any calls
may run next to them.
-/

namespace NestUserService.Auth.EndedSessions

open Lib NestUserService.Core AuditTrail

/-- The token is stored, for the user. -/
def Stored (token userId : String) (w : World) : Prop :=
  ∃ r ∈ w.root.refreshToken.rows, r.token = token ∧ r.userId = userId

/-- The row of the token is invalid. -/
def Ended (token : String) (w : World) : Prop :=
  ∃ r ∈ w.root.refreshToken.rows, r.token = token ∧ r.isValid = false

section Rows

variable {token userId : String} {w w' : World}

theorem Stored.kept (h : Stored token userId w) (hgrown : Recorded w w') :
    Stored token userId w' := by
  obtain ⟨r, hr, rfl, rfl⟩ := h
  obtain ⟨r', hr', hfaded⟩ := hgrown.root.refreshToken.target hr
  rcases hfaded with rfl | rfl
  · exact ⟨_, hr', rfl, rfl⟩
  · exact ⟨_, hr', rfl, rfl⟩

/-- Rows only become invalid. -/
theorem Ended.kept (h : Ended token w) (hgrown : Recorded w w') : Ended token w' := by
  obtain ⟨r, hr, rfl, hinvalid⟩ := h
  obtain ⟨r', hr', hfaded⟩ := hgrown.root.refreshToken.target hr
  rcases hfaded with rfl | rfl
  · exact ⟨_, hr', rfl, hinvalid⟩
  · exact ⟨_, hr', rfl, rfl⟩

/-- The invalid row is the one that a rotation of the token would need. -/
theorem Ended.not_entitled (h : Ended token w) (env : GuardEnv) (createdAt : String → String)
    (ip : String) : ¬ Credentials.Entitles env w (.refreshTokens createdAt token ip) := by
  obtain ⟨r, hr, rfl, hinvalid⟩ := h
  rintro ⟨r', hr', htoken, hvalid, -⟩
  obtain rfl : r' = r :=
    Table.eq_of_key (k := RefreshToken.token) (by simp [Keyed.keys]) hr' hr htoken
  rw [hinvalid] at hvalid
  cases hvalid

theorem ended_of_updateMany {p : RefreshToken → Bool} {r : RefreshToken}
    (hr : r ∈ w.root.refreshToken.rows) (hp : r.isValid = true → p r = true) :
    Ended r.token { w with root := { w.root with
      refreshToken := w.root.refreshToken.updateMany p invalidated } } := by
  refine ⟨_, Table.mem_updateMany.mpr ⟨r, hr, rfl⟩, ?_⟩
  by_cases hpr : p r = true
  · rw [if_pos hpr]
    exact ⟨rfl, rfl⟩
  · rw [if_neg hpr]
    exact ⟨rfl, Bool.eq_false_iff.mpr fun hvalid => hpr (hp hvalid)⟩

end Rows

section Calls

variable {env : Env} {token userId : String}

/-- The update of a rotation makes the row of the token invalid, or fails without one. -/
theorem settles_spend :
    Async.Settles (fun _ => True) (Ended token) (fun _ => False) (fun _ => True)
      (Async.await (writeRoot fun db => spendRefreshToken db token)) := by
  refine Async.Settles.await fun w _ => ?_
  rw [writeRoot_apply]
  unfold spendRefreshToken
  by_cases hfound : ∃ r ∈ w.root.refreshToken.rows, r.token = token
  · obtain ⟨r, hr, rfl⟩ := hfound
    left
    rw [Table.update_of_mem hr (by simp)]
    exact ended_of_updateMany hr fun _ => by simp
  · right
    have hnone : w.root.refreshToken.update (fun r => r.token == token) invalidated = none :=
      Table.update_eq_none.mpr fun r hr => by simpa using fun htoken => hfound ⟨r, hr, htoken⟩
    rw [hnone]
    refine ⟨fun _ _ h => ?_, fun _ _ _ => trivial⟩
    cases h

/-- A rotation that answers has ended the session of its token. -/
theorem settles_refreshTokens (createdAt : String → String) (ip : String) :
    Async.Settles (fun _ => True) (Ended token) (fun _ => False) (fun _ => True)
      (refreshTokens env createdAt token ip) := by
  unfold refreshTokens
  refine (Async.settles_of_true _).bind fun found _ => ?_
  cases found with
  | none => exact trivial
  | some r =>
    refine Async.Settles.ite trivial ((Async.settles_of_true _).bind fun now _ => ?_)
    refine Async.Settles.ite ((Async.settles_of_true _).bind fun _ _ => trivial)
      (Async.Settles.ite ((Async.settles_of_true _).bind fun _ _ => trivial) ?_)
    exact settles_spend.bind fun _ hno => hno.elim

/-- To invalidate the tokens of a user ends every session of the user. -/
theorem settles_invalidate :
    Async.Settles (Stored token userId) (Ended token) (fun _ => False) (fun _ => False)
      (Async.await (writeRoot fun db => .ok (db.invalidateRefreshTokens userId))) := by
  refine Async.Settles.await fun w hw => Or.inl ?_
  obtain ⟨r, hr, rfl, rfl⟩ := hw
  exact ended_of_updateMany hr fun hvalid => by simp [hvalid]

theorem settles_revoke :
    Async.Settles (Stored token userId) (Ended token) (fun _ => False) (fun _ => False)
      (revokeRefreshToken token) := by
  refine Async.Settles.await fun w hw => Or.inl ?_
  obtain ⟨r, hr, rfl, rfl⟩ := hw
  exact ended_of_updateMany hr fun _ => by simp

/-- The call is meant to end the session: the user signs in or is the user of a theft response,
or the token is revoked. -/
def Ends (token userId : String) : ServiceCall → Prop
  | .login user _ _ _ => user.id = userId
  | .handleTokenTheft u _ _ => u = userId
  | .revokeRefreshToken t => t = token
  | _ => False

theorem settles_ends (env : GuardEnv) {call : ServiceCall} (h : Ends token userId call) :
    Async.Settles (Stored token userId) (Ended token) (fun _ => False) (fun _ => False)
      (call.program env) := by
  cases call with
  | login user ip d ua =>
    obtain rfl : user.id = userId := h
    have hlogin : Async.Settles (Stored token user.id) (Ended token) (fun _ => False)
        (fun _ => False) (login env.toEnv user ip d ua) := by
      rw [login_eq]
      exact settles_invalidate.bind fun _ hno => hno.elim
    exact hlogin.bind fun _ hno => hno.elim
  | handleTokenTheft u ip loc =>
    obtain rfl : u = userId := h
    have htheft : Async.Settles (Stored token u) (Ended token) (fun _ => False) (fun _ => False)
        (handleTokenTheft env.toEnv u ip loc) := by
      unfold handleTokenTheft
      exact settles_invalidate.bind fun _ hno => hno.elim
    exact htheft.bind fun _ hno => hno.elim
  | revokeRefreshToken t =>
    obtain rfl : t = token := h
    exact settles_revoke.bind fun _ hno => hno.elim
  | _ => exact h.elim

end Calls

section Pools

variable {ι : Type} [DecidableEq ι] (env : GuardEnv) (calls : ι → ServiceCall) {w : World}
  {p p' : Threads World Exn Reply ι} {token : String}

variable {env calls} in
theorem recorded_later (hp : Interleaved (ServiceCall.pool env calls w) p)
    (hp' : Interleaved p p') : Recorded p.state p'.state :=
  recorded_of_keeps env (ServiceCall.still_keeps hp) hp'

variable {env calls} in
/-- What a call settles about a token holds when the call is over. -/
theorem ended_along {I : World → Prop} {V : Reply → Prop} {F : Exn → Prop} {i : ι}
    (hp : Interleaved (ServiceCall.pool env calls w) p) (hp' : Interleaved p p')
    (hI : ∀ q, Interleaved p q → I q.state)
    (hi : Async.Settles I (Ended token) V F (p.rest i)) :
    Ended token p'.state ∨ Async.Settles I (Ended token) V F (p'.rest i) :=
  Threads.settled_along hi hp' hI fun _ l _ hq hstep hd =>
    hd.kept (recorded_later (hp.trans hq) (.single ⟨l, hstep⟩))

/-- A rotation that begins when the session of its token has ended is never answered. -/
theorem never_rotated (hp : Interleaved (ServiceCall.pool env calls w) p)
    (hended : Ended token p.state) {j : ι} {createdAt : String → String} {ip : String}
    (hj : calls j = .refreshTokens createdAt token ip) (hnew : p.rest j = (calls j).program env)
    (hp' : Interleaved p p') (reply : Reply) : p'.rest j ≠ .ret reply := by
  intro hret
  rw [hj] at hnew
  have hopens : Credentials.Opens (.refreshTokens createdAt token ip) := trivial
  have hrefused := Credentials.refused_program env hopens
  rw [← hnew] at hrefused
  have hnone : ∀ q, Interleaved p q → ∀ k, True →
      k = j → ¬ Credentials.Entitles env q.state (.refreshTokens createdAt token ip) :=
    fun q hq _ _ _ => (hended.kept (recorded_later hp hq)).not_entitled env createdAt ip
  have hrest := Threads.conducts_along (i := j) hrefused (hp'.guarded hnone) fun _ hq => hq rfl
  rw [hret] at hrest
  exact hrest

/-- A refresh token that a rotation has used up is never accepted again: not from any address,
and not by any rotation that begins after the answer, whatever calls run in between and next
to the two. -/
theorem rotated_token_refused (hp : Interleaved (ServiceCall.pool env calls w) p) {i j : ι}
    {createdAt createdAt' : String → String} {ip ip' : String} {answer : Reply}
    (hi : calls i = .refreshTokens createdAt token ip) (hret : p.rest i = .ret answer)
    (hj : calls j = .refreshTokens createdAt' token ip') (hnew : p.rest j = (calls j).program env)
    (hp' : Interleaved p p') (reply : Reply) : p'.rest j ≠ .ret reply := by
  have hrotation : Async.Settles (fun _ => True) (Ended token) (fun _ => False) (fun _ => True)
      ((ServiceCall.pool env calls w).rest i) := by
    have hi' : (ServiceCall.pool env calls w).rest i =
        (ServiceCall.refreshTokens createdAt token ip).program env := by rw [← hi]; rfl
    rw [hi']
    exact (settles_refreshTokens createdAt ip).bind fun _ hno => hno.elim
  have hended : Ended token p.state := by
    rcases ended_along .refl hp (fun _ _ => trivial) hrotation with hd | hrest
    · exact hd
    · rw [hret] at hrest
      exact hrest.elim
  exact never_rotated env calls hp hended hj hnew hp' reply

/-- A session that a call is meant to end stays ended: a refresh token that was stored when
the call began is never accepted by a rotation that begins when the call is over, whether
the call returned or failed, and whatever calls run in between and next to them. -/
theorem ended_token_refused {p₀ : Threads World Exn Reply ι}
    (hp₀ : Interleaved (ServiceCall.pool env calls w) p₀) {r : RefreshToken}
    (hr : r ∈ p₀.state.root.refreshToken.rows) {i j : ι} (hends : Ends r.token r.userId (calls i))
    (hbegin : p₀.rest i = (calls i).program env) (hp : Interleaved p₀ p)
    (hover : ∀ u n, p.rest i ≠ .step u n) {createdAt : String → String} {ip : String}
    (hj : calls j = .refreshTokens createdAt r.token ip)
    (hnew : p.rest j = (calls j).program env) (hp' : Interleaved p p') (reply : Reply) :
    p'.rest j ≠ .ret reply := by
  have hstored (q : Threads World Exn Reply ι) (hq : Interleaved p₀ q) :
      Stored r.token r.userId q.state :=
    Stored.kept ⟨r, hr, rfl, rfl⟩ (recorded_later hp₀ hq)
  have hcall := settles_ends env hends
  rw [← hbegin] at hcall
  have hended : Ended r.token p.state := by
    rcases ended_along hp₀ hp hstored hcall with hd | hrest
    · exact hd
    · cases hlast : p.rest i with
      | ret a =>
        rw [hlast] at hrest
        exact hrest.elim
      | fail e =>
        rw [hlast] at hrest
        exact hrest.elim
      | step u n => exact absurd hlast (hover u n)
  exact never_rotated env calls (hp₀.trans hp) hended hj hnew hp' reply

end Pools

/-- The sample user after two overlapping logins: both tokens are valid. -/
def twoSessions : World :=
  .start 1000 { Db.empty with
    user := .singleton User.sample
    refreshToken := ⟨[heldToken, { heldToken with token := "r1" }], by decide⟩ }

/-- A login, a theft response, and two rotations of one token. -/
def sessionCalls : Fin 4 → ServiceCall
  | 0 => .login (User.info User.sample) "10.0.0.1" none none
  | 1 => .refreshTokens (fun _ => "") "r0" "10.0.0.1"
  | 2 => .handleTokenTheft User.sample.id "10.0.0.9" none
  | 3 => .refreshTokens (fun _ => "") "r0" "10.0.0.1"

def take (order : List (Fin 4)) (p : Threads World Exn Reply (Fin 4)) :
    Threads World Exn Reply (Fin 4) :=
  Threads.schedule (fun _ _ => True) order p

/-- The first rotation is answered while the login is at work. -/
def rotated : Threads World Exn Reply (Fin 4) :=
  take (1 :: 0 :: List.replicate 6 1) (ServiceCall.pool .sample sessionCalls twoSessions)

theorem rotation_refused_again : rotated.Returned 1 ∧
    ∀ reply, (take (List.replicate 9 0 ++ [3]) rotated).rest 3 ≠ .ret reply := by
  have hreturned : rotated.Returned 1 := by decide +kernel
  obtain ⟨answer, hret⟩ := hreturned
  exact ⟨⟨answer, hret⟩, rotated_token_refused .sample sessionCalls (i := 1) (j := 3)
    (Threads.schedule_runs _ _ _ _) rfl hret rfl rfl (Threads.schedule_runs _ _ _ _)⟩

/-- The first rotation has read its row when the theft response begins. -/
def read : Threads World Exn Reply (Fin 4) :=
  take [1] (ServiceCall.pool .sample sessionCalls twoSessions)

/-- The theft response fails in its mail, after it has ended the sessions. -/
theorem stolen_session_refused : (take (List.replicate 5 2) read).rest 2 = .fail recordNotFound ∧
    ∀ reply, (take (List.replicate 6 1 ++ [3]) (take (List.replicate 5 2) read)).rest 3 ≠
      .ret reply := by
  have hfailed : (take (List.replicate 5 2) read).rest 2 = .fail recordNotFound := rfl
  have hover (u : World → World) (n : World → App Reply) :
      (take (List.replicate 5 2) read).rest 2 ≠ .step u n := by
    rw [hfailed]
    simp
  exact ⟨hfailed, ended_token_refused .sample sessionCalls (r := heldToken) (i := 2) (j := 3)
    (Threads.schedule_runs _ _ _ _) (by decide +kernel) rfl rfl (Threads.schedule_runs _ _ _ _)
    hover rfl rfl (Threads.schedule_runs _ _ _ _)⟩

end NestUserService.Auth.EndedSessions
