import NestUserService.Auth.SpentTokens

/-!
# The token that a call returns

Both logins and the refresh first put the access tokens they find in the cache on the
blacklist, and then store the one they return. The returned token is usable unless it
was spent before the call.
-/

namespace NestUserService.Auth.FreshTokens

open Lib NestUserService.Core Shared

section Issued

variable {env : Env} {c u T : String} {w w' : World}

/-- The token is not on the blacklist, and every request that carries it for its user
passes `validate`. -/
def Usable (env : Env) (w : World) (c u T : String) : Prop :=
  ¬ Blacklisted w c u T ∧ ∀ req payload, Carries req T c → payload.userId = u →
    ∃ v, (validate env req payload).run w = .ok v w

theorem usable_iff (hT : T ≠ "") (hc : CachedAccess w c u T) :
    Usable env w c u T ↔ ¬ Blacklisted w c u T := by
  refine ⟨fun h => h.1, fun hb => ⟨hb, fun req payload hreq hu => ?_⟩⟩
  subst hu
  rcases run_validate env w payload hreq hT with ⟨hb', -⟩ | ⟨-, v, -, hrun⟩ | ⟨-, hn, -⟩
  · exact absurd hb' hb
  · exact ⟨v, hrun⟩
  · exact absurd hc hn

theorem spent_iff_of_idle (h : Idle w w') (T : String) : Spent c u T w' ↔ Spent c u T w := by
  unfold Spent Blacklisted
  rw [h.now, h.redis]

theorem find?_put_stamp (s : Store CacheValue) (k : String) (v : CacheValue) (now ttl : Nat) :
    (s.put k (Entry.stamp v now ttl)).find? now k = some v := by
  refine Store.find?_eq_some.mpr ⟨_, Store.lookup_put_self s k _, Entry.live_stamp ?_, rfl⟩
  omega

theorem cachedAccess_put (w : World) (c u T : String) (p : TokenCachePayload) (ttl : Nat) :
    CachedAccess { w with
      redis := w.redis.put (accessKey c u T) (Entry.stamp (.payload p) w.now ttl) } c u T := by
  unfold CachedAccess
  rw [find?_put_stamp]
  rfl

/-- The session of a login can be read back. -/
theorem cachedAccess_session (env : Env) (c : String) (user : UserInfo) (ip : String) {v w : World}
    (hnow : w.now = v.now) (hredis : w.redis = withSession env c user ip v) :
    CachedAccess w c user.id (env.sign (.user user) (v.now / 1000)) := by
  have hne : accessKey c user.id (env.sign (.user user) (v.now / 1000)) ≠
      refreshKey c user.id (env.uuidv4 v.draws) := by
    exact kind_ne (x := 'a') (y := 'r') rfl rfl (by decide)
  unfold CachedAccess
  rw [hnow, hredis]
  unfold withSession minted
  dsimp only
  rw [Store.find?_of_lookup_eq (Store.lookup_put_ne _ _ hne), find?_put_stamp]
  rfl

/-- The payload of a refreshed token. -/
def refreshPayload (user : UserInfo) (ip : String) (now : Nat) : TokenCachePayload :=
  { id := user.id, name := user.name, email := user.email, clientId := user.clientId
    isTwoFactorEnabled := user.isTwoFactorEnabled, ip, issuedAt := now }

/-- The token that `newAccessToken` signs. -/
def refreshedToken (env : Env) (user : UserInfo) (ip : String) (w : World) : String :=
  env.sign (.session (refreshPayload user ip w.now)) (w.now / 1000)

theorem run_newAccessToken (env : Env) (c : String) (user : UserInfo) (ip : String) (w : World) :
    ∃ w', (newAccessToken env c user ip).run w = .ok (refreshedToken env user ip w) w' ∧
      CachedAccess w' c user.id (refreshedToken env user ip w) ∧
      ∀ T, T ≠ "" → (Blacklisted w' c user.id T ↔ Spent c user.id T w) := by
  obtain ⟨w₁, hrun, hnow, -, hmarks⟩ := run_blacklist env c user.id w
  let e := Entry.stamp (CacheValue.payload (refreshPayload user ip w.now)) w₁.now
    env.accessTokenCacheExpiresIn
  have hend : (newAccessToken env c user ip).run w = .ok (refreshedToken env user ip w)
      { w₁ with redis := w₁.redis.put (accessKey c user.id (refreshedToken env user ip w)) e } := by
    simp [newAccessToken, hrun, setUserAccessTokenCache, cacheSet, refreshPayload, refreshedToken, e]
  refine ⟨_, hend, cachedAccess_put w₁ _ _ _ _ _, fun T hT => ?_⟩
  rw [← hmarks T hT]
  exact SameMarks.blacklisted_iff
    (sameMarks_put (SingleSession.accessKey_ne_blacklistKey c user.id _) e) T

/-- What both logins leave on the blacklist. -/
def SweptMarks (c u : String) (w : World) (T : String) : Prop :=
  Spent c u T w ∧ ¬ ClearDel c u (blacklistKey c u T)

/-- Ending the sessions, alone. -/
theorem run_sweep (env : Env) (c u : String) (w : World) :
    ∃ w₁ w₂, (setUserAccessTokenBlacklistCache env c u).run w = .ok () w₁ ∧
      (clearUserAllTokenCaches env c u).run w₁ = .ok () w₂ ∧ w₂.now = w.now ∧
      ∀ T, T ≠ "" → (Blacklisted w₂ c u T ↔ SweptMarks c u w T) := by
  obtain ⟨w₁, hrun₁, hnow₁, -, hmarks⟩ := run_blacklist env c u w
  obtain ⟨w₂, hrun₂, hnow₂, hclear⟩ := run_clear env c u w₁
  exact ⟨w₁, w₂, hrun₁, hrun₂, hnow₂.trans hnow₁, fun T hT =>
    (hclear T).trans (and_congr (hmarks T hT) Iff.rfl)⟩

theorem generateTokens_ok {user : UserInfo} {ip : String} {r : LoginResponse}
    (h : (generateTokens env user ip).run w = .ok r w') :
    r.accessToken = env.sign (.user user) (w.now / 1000) ∧
      CachedAccess w' rootLoginClientCacheValue user.id r.accessToken := by
  rw [run_generateTokens] at h
  cases hcreate : w.root.createRefreshToken ((minted env user w).row user.id ip) with
  | error e => simp [hcreate] at h
  | ok db =>
    rw [hcreate] at h
    cases h
    exact ⟨rfl, cachedAccess_session env _ user ip rfl rfl⟩

theorem tenantGenerateTokens_ok {user : UserInfo} {ip : String} {r : LoginResponse}
    (h : (tenantGenerateTokens env c user ip).run w = .ok r w') :
    r.accessToken = env.sign (.user user) (w.now / 1000) ∧
      CachedAccess w' c user.id r.accessToken := by
  cases hdb : w.tenants c with
  | none => simp [tenantGenerateTokens, mint, getTenantClient, hdb] at h
  | some db =>
    rw [run_tenantGenerateTokens env user ip hdb] at h
    cases hcreate : db.createRefreshToken ((minted env user w).row user.id ip) with
    | error e => simp [hcreate] at h
    | ok db' =>
      rw [hcreate] at h
      cases h
      exact ⟨rfl, cachedAccess_session env _ user ip rfl rfl⟩

end Issued

inductive Issue where
  | login (user : UserInfo) (ip : String) (deviceToken userAgent : Option String)
  | tenantLogin (clientCode : String) (user : UserInfo) (ip : String)
      (deviceToken userAgent : Option String)
  | refresh (cmd : UpdateRefreshAccessTokenCommand)

namespace Issue

/-- The call, with the access token for its result. -/
def program (env : Env) : Issue → App String
  | login user ip d ua => do
    let response ← Auth.login env user ip d ua
    return response.accessToken
  | tenantLogin c user ip d ua => do
    let response ← Auth.tenantLogin env c user ip d ua
    return response.accessToken
  | refresh cmd => updateRefreshAccessToken env cmd

def clientCode : Issue → String
  | login .. => rootLoginClientCacheValue
  | tenantLogin c .. => c
  | refresh cmd => cmd.clientCode

def userId : Issue → String
  | login user .. => user.id
  | tenantLogin _ user .. => user.id
  | refresh cmd => cmd.userId

/-- The string that the signer gives at the present second for the user of the call. -/
def signed (env : Env) (w : World) : Issue → Option String
  | login user .. => some (env.sign (.user user) (w.now / 1000))
  | tenantLogin _ user .. => some (env.sign (.user user) (w.now / 1000))
  | refresh cmd => (refreshUser cmd w).map fun user => refreshedToken env user cmd.ip w

/-- The tokens that the call leaves on the blacklist. A login deletes its own marks
again when one of its two patterns matches them. -/
def Marked (w : World) : Issue → String → Prop
  | login user .. => SweptMarks rootLoginClientCacheValue user.id w
  | tenantLogin c user .. => SweptMarks c user.id w
  | refresh cmd => fun T => Spent cmd.clientCode cmd.userId T w

/-- The call signs a string again that it puts on the blacklist. -/
def Repeats (env : Env) (w : World) (i : Issue) : Prop := ∃ T ∈ i.signed env w, i.Marked w T

theorem signed_ne {env : Env} (hsign : ∀ claims iat, env.sign claims iat ≠ "") {w : World}
    {i : Issue} {T : String} (h : i.signed env w = some T) : T ≠ "" := by
  cases i with
  | login user ip d ua =>
    cases h
    exact hsign _ _
  | tenantLogin c user ip d ua =>
    cases h
    exact hsign _ _
  | refresh cmd =>
    obtain ⟨user, -, rfl⟩ := Option.map_eq_some_iff.mp h
    exact hsign _ _

end Issue

section Calls

variable {env : Env} {w w' : World}

theorem login_ok {user : UserInfo} {ip : String} {d ua : Option String} {r : LoginResponse}
    (h : (login env user ip d ua).run w = .ok r w') :
    r.accessToken = env.sign (.user user) (w.now / 1000) ∧
      CachedAccess w' rootLoginClientCacheValue user.id r.accessToken ∧
      ∀ T, T ≠ "" → (Blacklisted w' rootLoginClientCacheValue user.id T ↔
        SweptMarks rootLoginClientCacheValue user.id w T) := by
  obtain ⟨w₁, w₂, hrun₁, hrun₂, hnow, hmarks⟩ := run_sweep env rootLoginClientCacheValue user.id
    { w with root := w.root.invalidateRefreshTokens user.id }
  have hrest : (loginRest env user ip d ua).run w₂ = .ok r w' := by
    rw [← h, login_eq]
    simp [invalidatePreviousRefreshTokens, setRootUserAccessTokenBlacklistCache,
      clearUserTokenCache, hrun₁, hrun₂]
  have hsame := (marks_loginRest env user ip d ua).run SameMarks.refl SameMarks.trans w₂
  rw [hrest] at hsame
  rw [loginRest_gated] at hrest
  obtain ⟨v, hidle, hgen⟩ := gatedLogin_ok (idle_device env _ d ip ua) hrest
  obtain ⟨htoken, hcached⟩ := generateTokens_ok hgen
  refine ⟨by rw [htoken, hidle.now, hnow], hcached, fun T hT => ?_⟩
  exact (hsame.blacklisted_iff T).trans (hmarks T hT)

theorem tenantLogin_ok {c : String} {user : UserInfo} {ip : String} {d ua : Option String}
    {r : LoginResponse} (h : (tenantLogin env c user ip d ua).run w = .ok r w') :
    r.accessToken = env.sign (.user user) (w.now / 1000) ∧ CachedAccess w' c user.id r.accessToken ∧
      ∀ T, T ≠ "" → (Blacklisted w' c user.id T ↔ SweptMarks c user.id w T) := by
  rw [LoginSimulation.tenantLogin_eq] at h
  obtain ⟨_, w₀, hinv, h⟩ := Async.run_bind_ok h
  have hfirst := (idle_of_steps (steps_tenantInvalidate (c := c) (u := user.id)
    fun _ _ => trivial)).run Idle.refl Idle.trans w
  rw [hinv, finalState_ok] at hfirst
  obtain ⟨w₁, w₂, hrun₁, hrun₂, hnow, hmarks⟩ := run_sweep env c user.id w₀
  have hrest : (LoginSimulation.tenantLoginRest env c user ip d ua).run w₂ = .ok r w' := by
    rw [← h]
    simp [setTenantUserAccessTokenBlacklistCache, clearTenantUserTokenCache, hrun₁, hrun₂]
  have hsame := (marks_tenantLoginRest env c user ip d ua).run SameMarks.refl SameMarks.trans w₂
  rw [hrest] at hsame
  rw [tenantLoginRest_gated] at hrest
  obtain ⟨v, hidle, hgen⟩ := gatedLogin_ok (idle_tenantDevice env user.id _ _ _ _) hrest
  obtain ⟨htoken, hcached⟩ := tenantGenerateTokens_ok hgen
  refine ⟨by rw [htoken, hidle.now, hnow, hfirst.now], hcached, fun T hT => ?_⟩
  exact (hsame.blacklisted_iff T).trans
    ((hmarks T hT).trans (and_congr (spent_iff_of_idle hfirst T) Iff.rfl))

theorem refresh_ok {cmd : UpdateRefreshAccessTokenCommand} {T : String}
    (h : (updateRefreshAccessToken env cmd).run w = .ok T w') :
    ((refreshUser cmd w).map fun user => refreshedToken env user cmd.ip w) = some T ∧
      CachedAccess w' cmd.clientCode cmd.userId T ∧
      ∀ T, T ≠ "" → (Blacklisted w' cmd.clientCode cmd.userId T ↔
        Spent cmd.clientCode cmd.userId T w) := by
  rw [refresh_cut] at h
  obtain ⟨user, v, hrun, h⟩ := Async.run_bind_ok h
  have hid := (guarantees_subject env cmd).value hrun
  have hidle := (guarantees_subject env cmd).run Idle.refl Idle.trans w
  rw [hrun, finalState_ok] at hidle
  obtain ⟨w₁, hnew, hcached, hmarks⟩ := run_newAccessToken env cmd.clientCode user cmd.ip v
  rw [hnew] at h
  cases h
  rw [hid] at hcached hmarks
  have hsame : refreshedToken env user cmd.ip v = refreshedToken env user cmd.ip w := by
    unfold refreshedToken
    rw [hidle.now]
  refine ⟨?_, hcached, fun T hT => (hmarks T hT).trans (spent_iff_of_idle hidle T)⟩
  rw [subject_ok hrun, hsame]
  rfl

/-- The token, the cache and the blacklist after a call that returned. -/
theorem issue_ok {i : Issue} {T : String} (h : (i.program env).run w = .ok T w') :
    i.signed env w = some T ∧ CachedAccess w' i.clientCode i.userId T ∧
      ∀ T, T ≠ "" → (Blacklisted w' i.clientCode i.userId T ↔ i.Marked w T) := by
  cases i with
  | login user ip d ua =>
    obtain ⟨r, v, hrun, hret⟩ := Async.run_bind_ok h
    cases hret
    obtain ⟨htoken, hrest⟩ := login_ok hrun
    exact ⟨congrArg some htoken.symm, hrest⟩
  | tenantLogin c user ip d ua =>
    obtain ⟨r, v, hrun, hret⟩ := Async.run_bind_ok h
    cases hret
    obtain ⟨htoken, hrest⟩ := tenantLogin_ok hrun
    exact ⟨congrArg some htoken.symm, hrest⟩
  | refresh cmd => exact refresh_ok h

end Calls

section Moving

variable {env : Env} {c u : String} {w₀ : World} {α : Type}

/-- Only tokens that were spent in `w₀` are on the blacklist. -/
def NoneMarked (c u : String) (w₀ w : World) : Prop := ∀ T, Blacklisted w c u T → Spent c u T w₀

theorem NoneSpent.marked {w : World} (h : NoneSpent c u w₀ w) : NoneMarked c u w₀ w :=
  fun T hb => h T (Or.inl hb)

theorem NoneMarked.stable : Async.Stable (Elapses fun _ => True) (NoneMarked c u w₀) :=
  fun _ _ hr h T hb => h T ((fewer_elapses hr).blacklisted hb)

theorem spent_idle {x : App α} {V : α → Prop} (h : Async.Guarantees Idle V x) :
    Async.Triple (Elapses fun _ => True) (NoneSpent c u w₀) x
      (fun a w => V a ∧ NoneSpent c u w₀ w) (fun _ _ => True) := by
  refine (h.triple NoneSpent.stable fun w w' hi hn T hs => ?_).conseq (fun _ h => h)
    (fun _ _ h => h) fun _ _ _ => trivial
  exact hn T ((spent_iff_of_idle hi T).mp hs)

theorem marked_sameMarks {x : App α} (h : Async.Guarantees (SameMarks c u) (fun _ => True) x) :
    Async.Triple (Elapses fun _ => True) (NoneMarked c u w₀) x (fun _ => NoneMarked c u w₀)
      (fun _ _ => True) := by
  refine (h.triple NoneMarked.stable fun w w' hs hn T hb => ?_).conseq (fun _ h => h)
    (fun _ _ h => h.2) fun _ _ _ => trivial
  exact hn T ((hs.blacklisted_iff T).mp hb)

/-- Both logins, after their first step. -/
theorem sweep_spent {rest : App α} (hrest : Async.Guarantees (SameMarks c u) (fun _ => True) rest) :
    Async.Triple (Elapses fun _ => True) (NoneSpent c u w₀)
      (do
        setUserAccessTokenBlacklistCache env c u
        clearUserAllTokenCaches env c u
        rest)
      (fun _ => NoneMarked c u w₀) (fun _ _ => True) := by
  have hclear : Async.Guarantees (Cleared c u) (fun _ => True) (clearUserAllTokenCaches env c u) :=
    (guarantees_cleared env fun _ => Or.inl).bind fun _ _ => guarantees_cleared env fun _ => Or.inr
  refine Async.Triple.bind (blacklist_spent env c u w₀) fun _ => ?_
  refine Async.Triple.bind (Q := fun _ => NoneMarked c u w₀) ?_ fun _ => marked_sameMarks hrest
  refine (hclear.triple NoneMarked.stable fun w w' hs hn T hb => ?_).conseq
    (fun _ h => h.marked) (fun _ _ h => h.2) fun _ _ _ => trivial
  exact hn T (hs.fewer.blacklisted hb)

theorem newAccessToken_spent (env : Env) (c : String) (user : UserInfo) (ip : String) :
    Async.Triple (Elapses fun _ => True) (NoneSpent c user.id w₀) (newAccessToken env c user ip)
      (fun _ => NoneMarked c user.id w₀) (fun _ _ => True) := by
  unfold newAccessToken
  refine Async.Triple.bind (Q := fun _ => NoneSpent c user.id w₀)
    (Async.Triple.await NoneSpent.stable fun w h => h) fun pt => ?_
  refine Async.Triple.bind (blacklist_spent env c user.id w₀) fun _ => ?_
  refine (marked_sameMarks (x := do
    setUserAccessTokenCache env c user.id pt.2 (.payload pt.1)
    return pt.2) ?_).conseq (fun _ h => h.marked) (fun _ _ h => h) fun _ _ h => h
  refine Async.Guarantees.bind (V := fun _ => True) (Async.Guarantees.await (fun w => ?_)
    fun _ _ _ _ => trivial) fun _ _ => Async.Guarantees.pure trivial
  exact sameMarks_put (SingleSession.accessKey_ne_blacklistKey c user.id pt.2) _

/-- A call only leaves tokens on the blacklist that were spent when it began. -/
theorem issue_spent (env : Env) (i : Issue) (w₀ : World) :
    Async.Triple (Elapses fun _ => True) (NoneSpent i.clientCode i.userId w₀) (i.program env)
      (fun _ => NoneMarked i.clientCode i.userId w₀) (fun _ _ => True) := by
  cases i with
  | login user ip d ua =>
    refine Async.Triple.bind (Q := fun _ => NoneMarked _ user.id w₀) ?_ fun _ =>
      Async.Triple.pure fun _ h => h
    rw [login_eq]
    refine Async.Triple.bind (spent_idle (idle_of_steps (steps_invalidate (u := user.id)
      fun _ _ => trivial))) fun _ => ?_
    exact (sweep_spent (marks_loginRest env user ip d ua)).conseq (fun _ h => h.2)
      (fun _ _ h => h) fun _ _ h => h
  | tenantLogin c user ip d ua =>
    refine Async.Triple.bind (Q := fun _ => NoneMarked c user.id w₀) ?_ fun _ =>
      Async.Triple.pure fun _ h => h
    rw [LoginSimulation.tenantLogin_eq]
    refine Async.Triple.bind (spent_idle (idle_of_steps (steps_tenantInvalidate (c := c)
      (u := user.id) fun _ _ => trivial))) fun _ => ?_
    exact (sweep_spent (marks_tenantLoginRest env c user ip d ua)).conseq (fun _ h => h.2)
      (fun _ _ h => h) fun _ _ h => h
  | refresh cmd =>
    have hcall : Async.Triple (Elapses fun _ => True) (NoneSpent cmd.clientCode cmd.userId w₀)
        (updateRefreshAccessToken env cmd)
        (fun _ => NoneMarked cmd.clientCode cmd.userId w₀) (fun _ _ => True) := by
      rw [refresh_cut]
      refine Async.Triple.bind (spent_idle (guarantees_subject env cmd)) fun user w h => ?_
      obtain ⟨hid, hspent⟩ := h
      rw [← hid] at hspent ⊢
      exact newAccessToken_spent env cmd.clientCode user cmd.ip w hspent
    exact hcall

end Moving

/-- A call that returns a token returns a usable one, exactly when it does not sign a
string again that was on the blacklist or still in the cache. This is decided by the
state before the call. When the clock moves during the call, only such a string can be
on the blacklist in the end. -/
theorem fresh_token_usable_iff (env : Env) (hsign : ∀ claims iat, env.sign claims iat ≠ "")
    (i : Issue) (w : World) :
    (∀ T w', (i.program env).run w = .ok T w' →
      (Usable env w' i.clientCode i.userId T ↔ ¬ i.Repeats env w)) ∧
    Async.Holds (Elapses fun _ => True)
      (fun T w' => Blacklisted w' i.clientCode i.userId T → Spent i.clientCode i.userId T w)
      (fun _ _ => True) (i.program env) w := by
  constructor
  · intro T w' hrun
    obtain ⟨hsigned, hcached, hmarks⟩ := issue_ok hrun
    have hT : T ≠ "" := Issue.signed_ne hsign hsigned
    rw [usable_iff hT hcached, hmarks T hT]
    refine not_congr ⟨fun hm => ⟨T, hsigned, hm⟩, ?_⟩
    rintro ⟨T', hT', hm⟩
    rw [hsigned] at hT'
    cases hT'
    exact hm
  · exact (issue_spent env i w w fun _ h => h).mono (fun T _ h => h T) fun _ _ _ => trivial

def again : Issue := .login Revocation.homeUser "::1" none none

/-- The result of a second login in the given state. -/
def secondLogin (w : World) : EStateM.Result Exn World String := (again.program Env.sample).run w

theorem later_login_facts :
    returned (secondLogin Revocation.loggedIn) = some "jwt-01JS447X6N835NZ80HCMEAKDDQ-6" ∧
    ¬ Spent rootLoginClientCacheValue Revocation.homeUser.id "jwt-01JS447X6N835NZ80HCMEAKDDQ-6"
      Revocation.loggedIn := by
  decide +kernel

/-- The second login comes five seconds after the first. -/
theorem later_login_usable :
    Usable Env.sample (finalState (secondLogin Revocation.loggedIn)) rootLoginClientCacheValue
      Revocation.homeUser.id "jwt-01JS447X6N835NZ80HCMEAKDDQ-6" := by
  obtain ⟨hret, hspent⟩ := later_login_facts
  refine ((fresh_token_usable_iff Env.sample SingleSession.sample_lifetimes.ne again
    Revocation.loggedIn).1 _ _ (ok_of_returned hret)).mpr ?_
  rintro ⟨T, hT, hm, -⟩
  have htoken := (issue_ok (i := again) (ok_of_returned hret)).1
  rw [htoken] at hT
  cases hT
  exact hspent hm

/-- The state after the first login. -/
def afterLogin : World := Revocation.homeLogin.exec Env.sample .sample

theorem second_login_facts :
    returned (secondLogin afterLogin) = some Revocation.firstToken ∧
    Blacklisted (finalState (secondLogin afterLogin)) rootLoginClientCacheValue
      Revocation.homeUser.id Revocation.firstToken := by
  decide +kernel

/-- A second login in the same second returns the token of the first, which it has just
put on the blacklist. -/
theorem second_login_revoked :
    returned (secondLogin afterLogin) = some Revocation.firstToken ∧
    Blacklisted (finalState (secondLogin afterLogin)) rootLoginClientCacheValue
      Revocation.homeUser.id Revocation.firstToken ∧
    (validate Env.sample (bearerRequest Revocation.firstToken "root" "::1")
        ⟨some Revocation.homeUser.id, none⟩).run (finalState (secondLogin afterLogin)) =
      .error accessTokenRevoked (finalState (secondLogin afterLogin)) := by
  obtain ⟨hret, hmarked⟩ := second_login_facts
  refine ⟨hret, hmarked, ?_⟩
  exact run_validate_blacklisted (by decide) (by decide) (by decide) hmarked

end NestUserService.Auth.FreshTokens
