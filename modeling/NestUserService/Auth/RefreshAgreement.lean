import NestUserService.Auth.Operations
import NestUserService.Auth.LoginSimulation
import NestUserService.Auth.ValidateSpec
import NestUserService.Auth.TokenTheft

/-!
# Refresh and the database

The refresh handler believes a cached session without looking at the database. The
invariant below says that every cached session is backed by a valid row that lives at
least as long; it is kept by every operation that does not invalidate a row behind a
cached session, and it makes the handler agree with the database.
-/

namespace NestUserService.Auth.RefreshAgreement

open Lib NestUserService.Core Shared
open LoginSimulation (tenantLoginRest tenantLogin_eq run_tenantLoginRest_device)

/-- A valid row of the user for the token, not expired at `now`. -/
structure ValidRow (now : Nat) (db : Db) (u t : String) (r : RefreshToken) : Prop where
  mem : r ∈ db.refreshToken.rows
  token : r.token = t
  userId : r.userId = u
  isValid : r.isValid = true
  unexpired : now < r.expiresAt

/-- The root database or one of the tenants'. -/
def IsDb (w : World) (db : Db) : Prop := db = w.root ∨ ∃ c, w.tenants c = some db

/-- The refresh handler returns a token only for a valid row of the database the token
was issued in, and does so for every such row whose address is the request's. -/
structure Agrees (env : Env) (w : World) (c u t ip : String) : Prop where
  sound : ∀ token w', (updateRefreshAccessToken env (refreshCommand c u t ip)).run w = .ok token w' →
    ∃ db r, IsDb w db ∧ ValidRow w.now db u t r
  complete : ∀ db r, IsDb w db → ValidRow w.now db u t r → r.ip = some ip →
    (∃ v ∈ db.user.rows, v.id = u) →
    ∃ token w', (updateRefreshAccessToken env (refreshCommand c u t ip)).run w = .ok token w'

/-- The cached session is that of a valid row which lives at least as long. -/
def Backed (w : World) (u t : String) (e : Entry CacheValue) : Prop :=
  ∃ p r T, e.value = .payload p ∧ p.id = u ∧ r ∈ w.root.refreshToken.rows ∧ r.token = t ∧
    r.userId = u ∧ r.isValid = true ∧ r.ip = some p.ip ∧ e.expires = some T ∧ T ≤ r.expiresAt

structure Inv (w : World) : Prop where
  backed : ∀ c u t e, w.redis.lookup (refreshKey c u t) = some e → e.live w.now = true →
    Backed w u t e
  tenants : ∀ c r, HasTenantRow w c r → r.isValid = false

theorem lt_of_live {e : Entry CacheValue} {T now : Nat} (he : e.expires = some T)
    (h : e.live now = true) : now < T := by
  unfold Entry.live at h
  rw [he] at h
  exact of_decide_eq_true h

theorem Inv.cached {w : World} (h : Inv w) {c u t : String} {v : CacheValue}
    (hv : w.redis.find? w.now (refreshKey c u t) = some v) :
    ∃ p r, v = .payload p ∧ p.id = u ∧ ValidRow w.now w.root u t r ∧ r.ip = some p.ip := by
  obtain ⟨e, he, hlive, rfl⟩ := Store.find?_eq_some.mp hv
  obtain ⟨p, r, T, hp, hid, hr, ht, hu, hval, hip, hT, hle⟩ := h.backed c u t e he hlive
  exact ⟨p, r, hp, hid, ⟨hr, ht, hu, hval, (lt_of_live hT hlive).trans_le hle⟩, hip⟩

/-- The query by token finds exactly the valid row of the token. -/
theorem findValid_eq_some {db : Db} {now : Nat} {t : String} {r : RefreshToken} :
    db.findValidRefreshToken (fun v => v == some t) now = some r ↔
      r ∈ db.refreshToken.rows ∧ r.token = t ∧ r.isValid = true ∧ now < r.expiresAt := by
  constructor
  · intro h
    obtain ⟨hm, hp⟩ := Table.findFirst_mem h
    simpa [hm, and_assoc] using hp
  · rintro ⟨hm, ht, hv, he⟩
    cases hf : db.findValidRefreshToken (fun v => v == some t) now with
    | none =>
      have hn := Table.findFirst_eq_none.mp hf r hm
      simp [ht, hv, he] at hn
    | some r' =>
      obtain ⟨hm', hp'⟩ := Table.findFirst_mem hf
      have ht' : r'.token = t := by
        simp only [Bool.and_eq_true] at hp'
        simpa using hp'.1.1
      rw [Table.eq_of_key (k := RefreshToken.token) (by simp [Keyed.keys]) hm' hm
        (ht'.trans ht.symm)]

section Agreement

variable {env : Env} {w : World} {c u t ip : String}

theorem run_refresh_miss (hmiss : w.redis.find? w.now (refreshKey c u t) = none) :
    (updateRefreshAccessToken env (refreshCommand c u t ip)).run w =
      (refreshFromDb env (refreshCommand c u t ip)).run w := by
  simp [updateRefreshAccessToken, getRefreshTokenCache, cacheGet, refreshCommand, Arg.text, hmiss]

theorem run_refresh_hit {p : TokenCachePayload}
    (hhit : w.redis.find? w.now (refreshKey c u t) = some (.payload p)) :
    (updateRefreshAccessToken env (refreshCommand c u t ip)).run w =
      (refreshFromCache env (refreshCommand c u t ip) (.payload p)).run w := by
  simp [updateRefreshAccessToken, getRefreshTokenCache, cacheGet, refreshCommand, Arg.text, hhit,
    CacheValue.truthy]

theorem run_refreshFromCache_same {p : TokenCachePayload} (hid : p.id = u) (hip : p.ip = ip) :
    (refreshFromCache env (refreshCommand c u t ip) (.payload p)).run w =
      (newAccessToken env c p.toUserInfo ip).run w := by
  simp [refreshFromCache, refreshCommand, hid, hip]

theorem run_refreshFromDb_none
    (h : w.root.findValidRefreshToken (fun v => v == some t) w.now = none) :
    (refreshFromDb env (refreshCommand c u t ip)).run w = .error invalidRefreshToken w := by
  simp [refreshFromDb, findValidRefreshToken, refreshCommand, whereString, Except.map, h]

theorem run_refreshFromDb_other {r : RefreshToken}
    (h : w.root.findValidRefreshToken (fun v => v == some t) w.now = some r) (hu : r.userId ≠ u) :
    (refreshFromDb env (refreshCommand c u t ip)).run w = .error invalidRefreshToken w := by
  simp [refreshFromDb, findValidRefreshToken, refreshCommand, whereString, Except.map, h, hu]

theorem run_refreshFromDb_same {r : RefreshToken}
    (h : w.root.findValidRefreshToken (fun v => v == some t) w.now = some r) (hu : r.userId = u)
    (hip : r.ip = some ip) :
    (refreshFromDb env (refreshCommand c u t ip)).run w =
      match w.root.findUserById u with
      | none => .error userNotFound w
      | some user => (newAccessToken env c (User.info user) ip).run w := by
  cases hf : w.root.findUserById u with
  | none =>
    simp [refreshFromDb, findValidRefreshToken, refreshCommand, whereString, Except.map, h, hu, hip,
      hf]
  | some user =>
    simp [refreshFromDb, findValidRefreshToken, refreshCommand, whereString, Except.map, h, hu, hip,
      hf]

theorem agrees_of_inv (h : Inv w) (env : Env) (c u t ip : String) : Agrees env w c u t ip := by
  constructor
  · intro token w' hrun
    cases hf : w.redis.find? w.now (refreshKey c u t) with
    | some v =>
      obtain ⟨p, r, -, -, hr, -⟩ := h.cached hf
      exact ⟨w.root, r, Or.inl rfl, hr⟩
    | none =>
      rw [run_refresh_miss hf] at hrun
      cases hr : w.root.findValidRefreshToken (fun v => v == some t) w.now with
      | none =>
        rw [run_refreshFromDb_none hr] at hrun
        cases hrun
      | some r =>
        by_cases hu : r.userId = u
        · obtain ⟨hm, ht, hv, he⟩ := findValid_eq_some.mp hr
          exact ⟨w.root, r, Or.inl rfl, ⟨hm, ht, hu, hv, he⟩⟩
        · rw [run_refreshFromDb_other hr hu] at hrun
          cases hrun
  · rintro db r (rfl | ⟨c', hdb⟩) hr hip ⟨v, hv, hvid⟩
    · cases hf : w.redis.find? w.now (refreshKey c u t) with
      | some value =>
        obtain ⟨p, r', rfl, hid, hr', hip'⟩ := h.cached hf
        have hsame : r' = r := Table.eq_of_key (k := RefreshToken.token) (by simp [Keyed.keys])
          hr'.mem hr.mem (hr'.token.trans hr.token.symm)
        rw [hsame, hip] at hip'
        rw [run_refresh_hit hf, run_refreshFromCache_same hid (Option.some.inj hip').symm]
        exact (throws_newAccessToken env c p.toUserInfo ip).returns w
      | none =>
        have hfind := findValid_eq_some.mpr ⟨hr.mem, hr.token, hr.isValid, hr.unexpired⟩
        have huser : w.root.findUserById u = some v := hvid ▸ Db.findUserById_of_mem hv
        rw [run_refresh_miss hf, run_refreshFromDb_same hfind hr.userId hip, huser]
        exact (throws_newAccessToken env c (User.info v) ip).returns w
    · have hinv := h.tenants c' r ⟨db.refreshToken, by rw [hdb]; rfl, hr.mem⟩
      rw [hr.isValid] at hinv
      cases hinv

end Agreement

/-- No session is cached for a row in `A`. -/
def Free (A : RefreshToken → Prop) (w : World) : Prop :=
  ∀ c u t e r, w.redis.lookup (refreshKey c u t) = some e → e.live w.now = true →
    r.token = t → r.userId = u → ¬ A r

/-- Cached sessions may only disappear, root rows may only change in `A`, and no valid
tenant row appears. -/
structure Calm (A : RefreshToken → Prop) (w w' : World) : Prop where
  now : w'.now = w.now
  cache : ∀ c u t, w'.redis.lookup (refreshKey c u t) = w.redis.lookup (refreshKey c u t) ∨
    w'.redis.lookup (refreshKey c u t) = none
  rows : ∀ r, ¬ A r → r ∈ w.root.refreshToken.rows → r ∈ w'.root.refreshToken.rows
  tenants : ∀ c r, HasTenantRow w' c r → r.isValid = true → HasTenantRow w c r

namespace Calm

variable {A : RefreshToken → Prop}

theorem refl (w : World) : Calm A w w :=
  ⟨rfl, fun _ _ _ => Or.inl rfl, fun _ _ h => h, fun _ _ h _ => h⟩

theorem trans (w w' w'' : World) (h : Calm A w w') (h' : Calm A w' w'') : Calm A w w'' := by
  refine ⟨h'.now.trans h.now, fun c u t => ?_, fun r hr hm => h'.rows r hr (h.rows r hr hm),
    fun c r hm hv => h.tenants c r (h'.tenants c r hm hv) hv⟩
  rcases h'.cache c u t with he | hn
  · rw [he]
    exact h.cache c u t
  · exact Or.inr hn

end Calm

/-- A calm change is harmless as long as no session is cached for the rows at risk. -/
theorem Inv.calm {A : RefreshToken → Prop} {w w' : World} (h : Inv w) (hc : Calm A w w')
    (hf : Free A w) : Inv w' := by
  constructor
  · intro c u t e he hlive
    rcases hc.cache c u t with hs | hn
    · rw [hs] at he
      rw [hc.now] at hlive
      obtain ⟨p, r, T, hp, hid, hr, ht, hu, hrest⟩ := h.backed c u t e he hlive
      exact ⟨p, r, T, hp, hid, hc.rows r (hf c u t e r he hlive ht hu) hr, ht, hu, hrest⟩
    · rw [hn] at he
      cases he
  · intro c r hr
    by_contra hv
    have hval : r.isValid = true := by simpa using hv
    rw [h.tenants c r (hc.tenants c r hr hval)] at hval
    cases hval

/-- The writes that are not at a key of a cached session. -/
def NotSession (put : String → CacheValue → Nat → Prop) : Prop :=
  ∀ k v ttl, put k v ttl → ∀ c u t, refreshKey c u t ≠ k

theorem calm_of_redis {w w' : World} {A : RefreshToken → Prop}
    {p : String → CacheValue → Nat → Prop} {d : String → Prop} (hput : NotSession p)
    (hnow : w'.now = w.now)
    (hredis : w'.redis = w.redis ∨
      (∃ k v ttl, p k v ttl ∧ w'.redis = w.redis.put k (Entry.stamp v w.now ttl)) ∨
      ∃ k, d k ∧ w'.redis = w.redis.del k)
    (hrows : ∀ r, ¬ A r → r ∈ w.root.refreshToken.rows → r ∈ w'.root.refreshToken.rows)
    (htenants : ∀ c r, HasTenantRow w' c r → r.isValid = true → HasTenantRow w c r) :
    Calm A w w' := by
  refine ⟨hnow, fun c u t => ?_, hrows, htenants⟩
  rcases hredis with he | ⟨k, v, ttl, hk, he⟩ | ⟨k, -, he⟩
  · exact Or.inl (by rw [he])
  · exact Or.inl (by rw [he, Store.lookup_put_ne _ _ (hput k v ttl hk c u t)])
  · rw [he]
    by_cases hk : refreshKey c u t = k
    · exact Or.inr (by rw [hk, Store.lookup_del_self])
    · exact Or.inl (Store.lookup_del_ne _ hk)

/-- A call whose scope has no tenant rows and writes no session is calm. -/
theorem calm_of_steps {A : RefreshToken → Prop} {α : Type} {x : App α} {S : Scope}
    (h : Steps S x) (hput : NotSession S.put) (hrows : ∀ r, S.rows r → A r)
    (htenants : ∀ c r, ¬ S.tenantRows c r) (w : World) : Calm A w (finalState (x.run w)) := by
  refine (Async.Guarantees.mono h (fun w w' hs => ?_) fun _ h => h).run Calm.refl Calm.trans w
  exact calm_of_redis hput hs.now hs.redis
    (fun r hr hm => (hs.rows r fun hA => hr (hrows r hA)).mpr hm)
    fun c r hm _ => (hs.tenantRows c r (htenants c r)).mp hm

/-- A scope without tenant rows. -/
def rootScope (rows : RefreshToken → Prop) (put : String → CacheValue → Nat → Prop)
    (del : String → Prop) : Scope := ⟨rows, fun _ _ => False, put, del⟩

theorem notSession_noPut : NotSession NoPut := fun _ _ _ h => h.elim

theorem refreshKey_ne {kind : Kind} {c u t : String} (hk : kind ≠ .refresh) (hc : NoColon c)
    (hu : NoColon u) (ht : NoColon t) (c' u' t' : String) :
    refreshKey c' u' t' ≠ tokenKey kind c u t := by
  intro h
  rw [refreshKey_eq] at h
  exact hk (tokenKey_unique hc hu ht h.symm).1

theorem notSession_blacklistPut (env : Env) {c u : String} (hc : NoColon c) (hu : NoColon u) :
    NotSession (BlacklistPut env c u) := by
  rintro k v ttl ⟨⟨t, ht, rfl⟩, -⟩ c' u' t'
  rw [blacklistKey_eq]
  exact refreshKey_ne (by decide) hc hu ht c' u' t'

theorem notSession_refreshPut {env : Env} (hsign : ∀ cl iat, NoColon (env.sign cl iat))
    {c u : String} (hc : NoColon c) (hu : NoColon u) : NotSession (RefreshPut env c u) := by
  rintro k v ttl (h | ⟨p, iat, rfl, -⟩) c' u' t'
  · exact notSession_blacklistPut env hc hu k v ttl h c' u' t'
  · rw [accessKey_eq]
    exact refreshKey_ne (by decide) hc hu (hsign _ _) c' u' t'

/-- The session of a refresh token is cached under the namespace. -/
def Cached (w : World) (c u t : String) : Prop :=
  ∃ e, w.redis.lookup (refreshKey c u t) = some e ∧ e.live w.now = true

/-- The answer comes from the cache, or what is cached anew is the user's valid row,
from the same address and for no longer than the row lives. -/
def SafeValidate (env : Env) (w : World) (req : Request) (payload : JwtPayload) : Prop :=
  ∀ T h user tokens, Carries req T h →
    ¬ Blacklisted w h payload.userId T → ¬ CachedAccess w h payload.userId T →
    findPayloadUser w.root payload = some (user, tokens) →
    NoColon h ∧ NoColon T ∧ NoColon user.id ∧ ∀ r, tokens.find? (fun t => t.isValid) = some r →
      NoColon r.token ∧ r.ip = some req.clientIp ∧
        w.now + env.refreshTokenCacheExpiresIn ≤ r.expiresAt

/-- The states from which an operation does not part the cache from the database: no
row is invalidated behind a cached session, and no tenant token is issued. Ids,
namespaces and tokens hold no colon. -/
def Safe (env : Env) (w : World) : Op → Prop
  | .login user _ _ _ => Glob.Plain user.id ∧ NoColon user.id ∧
      ∀ c t, Cached w c user.id t → c = rootLoginClientCacheValue
  | .tenantLogin c user _ d _ => w.tenants c = none ∨
      user.isTwoFactorEnabled = true ∧ NoColon c ∧ NoColon user.id ∧
        (truthy d = false ∨ w.tenants user.id = none)
  | .validate req payload => SafeValidate env w req payload
  | .refresh c u t ip => NoColon c ∧ NoColon u ∧
      ((∀ record, TokenTheft.consulted env w (refreshCommand c u t ip) = some record →
        record.ip = some ip) ∨ ∀ c' t', ¬ Cached w c' u t')
  | .handleTokenTheft u _ _ => ∀ c t, ¬ Cached w c u t
  | .revokeRefreshToken t => ∀ c u, ¬ Cached w c u t
  | .elapse _ => True

theorem free_user {w : World} {u : String} (h : ∀ c t, ¬ Cached w c u t) :
    Free (fun r => r.userId = u) w := by
  rintro c u' t e r he hlive - rfl hu
  exact h c t ⟨e, hu ▸ he, hlive⟩

theorem free_false (w : World) : Free (fun _ => False) w := fun _ _ _ _ _ _ _ _ _ h => h

theorem inv_theft {env : Env} {w : World} {u : String} (h : Inv w) (ip : String)
    (loc : Option String) (hsafe : ∀ c t, ¬ Cached w c u t) :
    Inv (finalState ((handleTokenTheft env u ip loc).run w)) :=
  h.calm (calm_of_steps (steps_handleTokenTheft
    (S := rootScope (fun r => r.userId = u) NoPut NoDel) env ip loc fun _ h => h)
    notSession_noPut (fun _ h => h) (fun _ _ h => h) w) (free_user hsafe)

theorem inv_revoke {w : World} {t : String} (h : Inv w) (hsafe : ∀ c u, ¬ Cached w c u t) :
    Inv (finalState ((revokeRefreshToken t).run w)) := by
  refine h.calm (A := fun r => r.token = t) (calm_of_steps (steps_revoke
    (S := rootScope (fun r => r.token = t) NoPut NoDel) fun _ h => h)
    notSession_noPut (fun _ h => h) (fun _ _ h => h) w) ?_
  rintro c u t' e r he hlive rfl - ht
  exact hsafe c u ⟨e, ht ▸ he, hlive⟩

theorem inv_elapse {w : World} (h : Inv w) (n : Nat) : Inv { w with now := w.now + n } := by
  refine ⟨fun c u t e he hlive => ?_, h.tenants⟩
  have hbefore : e.live w.now = true := Entry.live_of_le (Nat.le_add_right _ n) hlive
  exact h.backed c u t e he hbefore

theorem inv_newAccessToken {env : Env} (hsign : ∀ cl iat, NoColon (env.sign cl iat)) {w : World}
    {c : String} {user : UserInfo} (ip : String) (h : Inv w) (hc : NoColon c)
    (hu : NoColon user.id) : Inv (finalState ((newAccessToken env c user ip).run w)) :=
  h.calm (calm_of_steps (steps_newAccessToken
    (S := rootScope (fun _ => False) (RefreshPut env c user.id) NoDel) env c user ip
    fun _ _ _ h => h) (notSession_refreshPut hsign hc hu) (fun _ h => h) (fun _ _ h => h) w)
    (free_false w)

/-- A refresh from the address of the consulted record changes no row. -/
theorem inv_refresh_same {env : Env} (hsign : ∀ cl iat, NoColon (env.sign cl iat)) {w : World}
    {c u t ip : String} (h : Inv w) (hc : NoColon c) (hu : NoColon u)
    (hsame : ∀ record, TokenTheft.consulted env w (refreshCommand c u t ip) = some record →
      record.ip = some ip) :
    Inv (finalState ((updateRefreshAccessToken env (refreshCommand c u t ip)).run w)) := by
  cases hf : w.redis.find? w.now (refreshKey c u t) with
  | some value =>
    obtain ⟨p, r, rfl, hid, -, -⟩ := h.cached hf
    have hcons : TokenTheft.consulted env w (refreshCommand c u t ip) =
        some (.cached (.payload p)) := by
      simp [TokenTheft.consulted, refreshCommand, Arg.text, hf, CacheValue.truthy]
    have hip : p.ip = ip := Option.some.inj (hsame _ hcons)
    rw [run_refresh_hit hf, run_refreshFromCache_same hid hip]
    exact inv_newAccessToken hsign ip h hc (by rwa [hid])
  | none =>
    rw [run_refresh_miss hf]
    cases hr : w.root.findValidRefreshToken (fun v => v == some t) w.now with
    | none => rw [run_refreshFromDb_none hr]; exact h
    | some r =>
      by_cases hru : r.userId = u
      · have hcons : TokenTheft.consulted env w (refreshCommand c u t ip) = some (.row r) := by
          simp [TokenTheft.consulted, TokenTheft.consultedRow, refreshCommand, Arg.text, hf,
            whereString, hr]
        rw [run_refreshFromDb_same hr hru (hsame _ hcons)]
        cases huser : w.root.findUserById u with
        | none => exact h
        | some v =>
          refine inv_newAccessToken hsign ip h hc ?_
          rw [show (User.info v).id = u from (Db.findUserById_some huser).2]
          exact hu
      · rw [run_refreshFromDb_other hr hru]
        exact h

theorem inv_refresh {env : Env} (hsign : ∀ cl iat, NoColon (env.sign cl iat)) {w : World}
    {c u t ip : String} (h : Inv w) (hsafe : Safe env w (.refresh c u t ip)) :
    Inv (finalState ((updateRefreshAccessToken env (refreshCommand c u t ip)).run w)) := by
  obtain ⟨hc, hu, hsame | hfree⟩ := hsafe
  · exact inv_refresh_same hsign h hc hu hsame
  · exact h.calm (calm_of_steps (steps_refresh
      (S := rootScope (fun r => r.userId = u) (RefreshPut env c u) NoDel) env
      (refreshCommand c u t ip) (fun _ h => h) fun _ _ _ h => h)
      (notSession_refreshPut hsign hc hu) (fun _ h => h) (fun _ _ h => h) w) (free_user hfree)

/-- A calm change that loses no row and makes no database. -/
structure Idle (w w' : World) : Prop where
  calm : Calm (fun _ => False) w w'
  tenants : ∀ c, w.tenants c = none → w'.tenants c = none

namespace Idle

theorem refl (w : World) : Idle w w := ⟨Calm.refl w, fun _ h => h⟩

theorem trans (w w' w'' : World) (h : Idle w w') (h' : Idle w' w'') : Idle w w'' :=
  ⟨h.calm.trans w w' w'' h'.calm, fun c hc => h'.tenants c (h.tenants c hc)⟩

end Idle

theorem idle_cacheStep {put : String → CacheValue → Nat → Prop}
    {del : String → Prop} (hput : NotSession put) (w w' : World) (h : CacheStep put del w w') :
    Idle w w' := by
  have hsame : w'.root = w.root ∧ w'.tenants = w.tenants := by
    cases h <;> exact ⟨rfl, rfl⟩
  have hrows (r : RefreshToken) (_ : ¬ False) (hm : r ∈ w.root.refreshToken.rows) :
      r ∈ w'.root.refreshToken.rows := by rwa [hsame.1]
  have hvalid (c : String) (r : RefreshToken) (hr : HasTenantRow w' c r) (_ : r.isValid = true) :
      HasTenantRow w c r := by
    unfold HasTenantRow at hr ⊢
    rwa [← hsame.2]
  refine ⟨?_, fun c hc => by rwa [hsame.2]⟩
  cases h with
  | keep n => exact ⟨rfl, fun _ _ _ => Or.inl rfl, hrows, hvalid⟩
  | put k v ttl hk =>
    exact calm_of_redis (d := del) hput rfl (Or.inr (Or.inl ⟨k, v, ttl, hk, rfl⟩)) hrows hvalid
  | del k hk => exact calm_of_redis hput rfl (Or.inr (Or.inr ⟨k, hk, rfl⟩)) hrows hvalid

/-- Invalidating the rows of a tenant's user creates no valid one. -/
theorem idle_invalidate {w : World} {c : String} {db : Db} (hdb : w.tenants c = some db)
    (u : String) : Idle w (w.setTenant c (db.invalidateRefreshTokens u)) := by
  refine ⟨⟨rfl, fun _ _ _ => Or.inl rfl, fun _ _ hm => hm, fun c' r hr hv => ?_⟩,
    fun c' hnone => ?_⟩
  · obtain ⟨t, ht, hm⟩ := hr
    by_cases hc : c' = c
    · subst hc
      simp only [World.setTenant, Function.update_self, Option.map_some, Option.some.injEq] at ht
      subst ht
      have hu : r.userId ≠ u := by
        intro hu
        rw [Db.invalid_of_mem_invalidate hm hu] at hv
        cases hv
      exact ⟨db.refreshToken, by rw [hdb]; rfl, (Db.mem_invalidate_other hu).mp hm⟩
    · exact ⟨t, by simpa [World.setTenant, hc] using ht, hm⟩
  · have hc : c' ≠ c := by
      rintro rfl
      rw [hdb] at hnone
      cases hnone
    simpa [World.setTenant, hc] using hnone

theorem idle_tenantInvalidate (c u : String) :
    Async.Guarantees Idle (fun _ => True) (tenantInvalidatePreviousRefreshTokens c u) := by
  refine Async.Guarantees.bind (V := fun _ => True)
    (Async.Guarantees.await (fun w => ?_) fun _ _ _ _ => trivial) fun _ _ =>
    Async.Guarantees.await (fun w => ?_) fun _ _ _ _ => trivial
  · rw [finalState_getTenantClient]
    exact Idle.refl w
  · rcases writeTenant_cases c (fun db => .ok (db.invalidateRefreshTokens u)) w with
      he | ⟨db, db', hdb, hf, he⟩
    · rw [he]
      exact Idle.refl w
    · rw [he]
      cases hf
      exact idle_invalidate hdb u

/-- What `tenantLogin` does to end the previous sessions. -/
def endTenantSessions (env : Env) (c u : String) : App Unit := do
  tenantInvalidatePreviousRefreshTokens c u
  setTenantUserAccessTokenBlacklistCache env c u
  clearTenantUserTokenCache env c u

theorem idle_endTenantSessions (env : Env) {c u : String} (hc : NoColon c) (hu : NoColon u) :
    Async.Guarantees Idle (fun _ => True) (endTenantSessions env c u) := by
  refine (idle_tenantInvalidate c u).bind fun _ _ => ?_
  refine ((guarantees_blacklist (D := NoDel) env c u).mono
    (idle_cacheStep (notSession_blacklistPut env hc hu)) fun _ h => h).bind fun _ _ => ?_
  exact (guarantees_clear (P := NoPut) env c u).mono (idle_cacheStep notSession_noPut) fun _ h => h

theorem tenantLogin_ends (env : Env) (c : String) (user : UserInfo) (ip : String)
    (d ua : Option String) :
    tenantLogin env c user ip d ua =
      endTenantSessions env c user.id >>= fun _ => tenantLoginRest env c user ip d ua := by
  simp only [tenantLogin_eq, endTenantSessions, Async.bind_assoc]

/-- A user with the second factor gets no further without a device token, nor with one
when no client has the user id for its code. -/
theorem run_tenantLoginRest_stops (env : Env) (c : String) {user : UserInfo} (ip : String)
    {d : Option String} (ua : Option String) {w : World} (h2 : user.isTwoFactorEnabled = true)
    (hd : truthy d = false ∨ w.tenants user.id = none) :
    ∃ e n, (tenantLoginRest env c user ip d ua).run w =
      .error e { w with slack := w.slack ++ [tenantLoginText c user.id ip], draws := n } := by
  cases htoken : truthy d with
  | false => exact ⟨deviceTokenMissing, w.draws, by simp [tenantLoginRest, h2, htoken]⟩
  | true =>
    have hnone : w.tenants user.id = none := hd.resolve_left (by simp [htoken])
    exact ⟨invalidClientCode user.id, run_tenantLoginRest_device env c ip ua hnone h2 htoken⟩

theorem inv_tenantLogin {env : Env} {w : World} {c : String} {user : UserInfo} {ip : String}
    {d ua : Option String} (h : Inv w) (hsafe : Safe env w (.tenantLogin c user ip d ua)) :
    Inv (finalState ((tenantLogin env c user ip d ua).run w)) := by
  rcases hsafe with hnone | ⟨h2, hc, hu, hd⟩
  · have hrun : (tenantLogin env c user ip d ua).run w = .error (invalidClientCode c) w := by
      simp [tenantLogin, tenantInvalidatePreviousRefreshTokens, getTenantClient, hnone]
    rw [hrun]
    exact h
  · have hidle := (idle_endTenantSessions env hc hu).run Idle.refl Idle.trans w
    rw [tenantLogin_ends, Async.run_bind]
    cases hrun : (endTenantSessions env c user.id).run w with
    | error e v =>
      rw [hrun] at hidle
      exact h.calm hidle.calm (free_false w)
    | ok a v =>
      rw [hrun] at hidle
      have hv : Inv v := h.calm hidle.calm (free_false w)
      have hstop : truthy d = false ∨ v.tenants user.id = none :=
        hd.imp_right (hidle.tenants user.id)
      obtain ⟨e, n, hrest⟩ := run_tenantLoginRest_stops env c ip ua h2 hstop
      simp only [hrest]
      exact ⟨hv.backed, hv.tenants⟩

/-- Writing an entry elsewhere does not matter. -/
theorem Inv.put_other {w : World} (h : Inv w) {k : String} {e : Entry CacheValue}
    (hk : ∀ c u t, refreshKey c u t ≠ k) : Inv { w with redis := w.redis.put k e } := by
  refine ⟨fun c u t e' he hlive => ?_, h.tenants⟩
  exact h.backed c u t e' (by rwa [← Store.lookup_put_ne w.redis e (hk c u t)]) hlive

/-- Caching the session of a row that backs it. -/
theorem Inv.put_session {w : World} (h : Inv w) {c u t : String} {e : Entry CacheValue}
    (hc : NoColon c) (hu : NoColon u) (ht : NoColon t) (hb : Backed w u t e) :
    Inv { w with redis := w.redis.put (refreshKey c u t) e } := by
  refine ⟨fun c' u' t' e' he hlive => ?_, h.tenants⟩
  by_cases hk : refreshKey c' u' t' = refreshKey c u t
  · have hkey := hk
    rw [refreshKey_eq, refreshKey_eq] at hkey
    obtain ⟨-, -, rfl, rfl⟩ := tokenKey_unique hc hu ht hkey.symm
    have hput : (w.redis.put (refreshKey c u t) e).lookup (refreshKey c' u t) = some e' := he
    rw [hk, Store.lookup_put_self] at hput
    cases hput
    exact hb
  · exact h.backed c' u' t' e' (by rwa [← Store.lookup_put_ne w.redis e hk]) hlive

theorem stamp_expires {v : CacheValue} {now ttl : Nat} (h : 0 < ttl) :
    (Entry.stamp v now ttl).expires = some (now + ttl) :=
  if_neg (Nat.ne_of_gt h)

theorem inv_validate {env : Env} (httl : 0 < env.refreshTokenCacheExpiresIn) {w : World}
    {req : Request} {payload : JwtPayload} (h : Inv w) (hsafe : SafeValidate env w req payload) :
    Inv (finalState ((validate env req payload).run w)) := by
  rcases validate_state env w req payload with he | ⟨T, ns, ⟨user, tokens⟩, hc, hb, ha, hp, he⟩
  · rw [he]
    exact h
  · rw [he]
    obtain ⟨hns, hT, hu, hrow⟩ := hsafe T ns user tokens hc hb ha hp
    have haccess (e : Entry CacheValue) :
        Inv { w with redis := w.redis.put (accessKey ns user.id T) e } :=
      h.put_other fun c' u' t' => by
        rw [accessKey_eq]
        exact refreshKey_ne (by decide) hns hu hT c' u' t'
    unfold recached
    cases hf : tokens.find? fun t => t.isValid with
    | none => simpa [hf] using haccess _
    | some r =>
      obtain ⟨hrt, hip, hle⟩ := hrow r hf
      have hmem : r ∈ w.root.refreshTokensOf user.id := by
        have htokens : w.root.refreshTokensOf user.id = tokens := by
          unfold findPayloadUser at hp
          obtain ⟨u', -, hu'⟩ := Option.map_eq_some_iff.mp hp
          cases hu'
          rfl
        rw [htokens]
        exact List.mem_of_find?_eq_some hf
      have hbacked (e : Entry CacheValue) (p : TokenCachePayload) (hid : p.id = user.id)
          (hpip : p.ip = req.clientIp) := (haccess e).put_session (c := ns) hns hu hrt
        (e := Entry.stamp (.payload p) w.now env.refreshTokenCacheExpiresIn)
        ⟨p, r, w.now + env.refreshTokenCacheExpiresIn, rfl, hid, (List.mem_filter.mp hmem).1, rfl,
          by simpa using (List.mem_filter.mp hmem).2, List.find?_some hf, hpip ▸ hip,
          stamp_expires httl, hle⟩
      simpa [hf] using hbacked _ _ rfl rfl

/-- After the sweep of a login the user has no cached session left, and what other
users have cached is as before. -/
theorem swept_session {env : Env} {w w₁ : World} {u : String} (hu : NoColon u)
    (hsafe : ∀ c t, Cached w c u t → c = rootLoginClientCacheValue)
    (hs : Swept env (· = w.now) rootLoginClientCacheValue u
      { w with root := w.root.invalidateRefreshTokens u } w₁)
    {c u' t : String} {e : Entry CacheValue} (he : w₁.redis.lookup (refreshKey c u' t) = some e)
    (hlive : e.live w₁.now = true) : w.redis.lookup (refreshKey c u' t) = some e ∧ u' ≠ u := by
  have hnow : w₁.now = w.now := hs.frame.clock
  rcases hs.changed (refreshKey c u' t) with ho | ⟨⟨k, -, -, -, hk⟩, -⟩ | ⟨hn, -⟩
  · rw [he] at ho
    refine ⟨ho.symm, ?_⟩
    rintro rfl
    obtain rfl := hsafe c t ⟨e, ho.symm, hnow ▸ hlive⟩
    have hgone := hs.gone _ (Or.inr (hasPrefix_refreshKey rootLoginClientCacheValue u' t))
    rw [Store.find?_eq_some.mpr ⟨e, he, hlive, rfl⟩] at hgone
    cases hgone
  · rw [blacklistKey_eq] at hk
    exact absurd hk (refreshKey_ne (by decide) noColon_root hu (noColon_tokenOfKey k) c u' t)
  · rw [hn] at he
    cases he

theorem inv_swept {env : Env} {w w₁ : World} {u : String} (h : Inv w) (hu : NoColon u)
    (hsafe : ∀ c t, Cached w c u t → c = rootLoginClientCacheValue)
    (hs : Swept env (· = w.now) rootLoginClientCacheValue u
      { w with root := w.root.invalidateRefreshTokens u } w₁) :
    Inv w₁ ∧ Free (fun r => r.userId = u) w₁ := by
  have hnow : w₁.now = w.now := hs.frame.clock
  refine ⟨⟨fun c u' t e he hlive => ?_, fun c r hr => ?_⟩, ?_⟩
  · obtain ⟨he', hne⟩ := swept_session hu hsafe hs he hlive
    obtain ⟨p, r, T, hp, hid, hr, ht, hru, hrest⟩ := h.backed c u' t e he' (hnow ▸ hlive)
    refine ⟨p, r, T, hp, hid, ?_, ht, hru, hrest⟩
    rw [hs.frame.root]
    exact (Db.mem_invalidate_other (by rwa [hru])).mpr hr
  · refine h.tenants c r ?_
    unfold HasTenantRow at hr ⊢
    rwa [hs.frame.tenants] at hr
  · rintro c u' t e r he hlive - rfl
    exact (swept_session hu hsafe hs he hlive).2

/-- The rest of a login ends early, or goes on to issue tokens. -/
theorem loginRest_cases (env : Env) (user : UserInfo) (ip : String) (d ua : Option String)
    (w : World) :
    ∃ v, Calm (fun r => r.userId = user.id) w v ∧
      (finalState ((loginRest env user ip d ua).run w) = v ∨
        (loginRest env user ip d ua).run w = (generateTokens env user ip).run v) := by
  have hslack : Calm (fun r => r.userId = user.id) w
      { w with slack := w.slack ++ [loginText user.id ip] } :=
    ⟨rfl, fun _ _ _ => Or.inl rfl, fun _ _ h => h, fun _ _ h _ => h⟩
  cases h2 : user.isTwoFactorEnabled with
  | false => exact ⟨_, hslack, Or.inr (by simp [loginRest, h2])⟩
  | true =>
    cases hd : truthy d with
    | false => exact ⟨_, hslack, Or.inl (by simp [loginRest, h2, hd])⟩
    | true =>
      have hcalm := calm_of_steps (A := fun r => r.userId = user.id)
        (steps_validateOrRegisterDevice (S := rootScope (fun r => r.userId = user.id) NoPut NoDel)
          env d ip ua fun _ h => h) notSession_noPut (fun _ h => h) (fun _ _ h => h)
        { w with slack := w.slack ++ [loginText user.id ip] }
      cases hrun : (validateOrRegisterDevice env user.id d ip ua).run
          { w with slack := w.slack ++ [loginText user.id ip] } with
      | ok token v =>
        rw [hrun] at hcalm
        exact ⟨v, Calm.trans _ _ _ hslack hcalm, Or.inr (by simp [loginRest, h2, hd, hrun])⟩
      | error e v =>
        rw [hrun] at hcalm
        exact ⟨v, Calm.trans _ _ _ hslack hcalm, Or.inl (by simp [loginRest, h2, hd, hrun])⟩

theorem inv_generateTokens {env : Env} (hsign : ∀ cl iat, NoColon (env.sign cl iat))
    (huuid : ∀ n, NoColon (env.uuidv4 n)) (httl : 0 < env.refreshTokenCacheExpiresIn)
    (hmax : env.refreshTokenCacheExpiresIn ≤ minutes refreshTokenMinutes) {w : World}
    {user : UserInfo} (ip : String) (h : Inv w) (hu : NoColon user.id) :
    Inv (finalState ((generateTokens env user ip).run w)) := by
  rw [run_generateTokens]
  cases hcreate : w.root.createRefreshToken ((minted env user w).row user.id ip) with
  | error e => exact ⟨h.backed, h.tenants⟩
  | ok db =>
    obtain ⟨hv, -, rfl⟩ := Db.createRefreshToken_ok hcreate
    have hrow : Inv { w with
        root := { w.root with refreshToken := w.root.refreshToken.insert _ hv } } :=
      h.calm (A := fun _ => False) ⟨rfl, fun _ _ _ => Or.inl rfl,
        fun r _ hm => (Table.mem_insert hv).mpr (Or.inl hm), fun _ _ h _ => h⟩ (free_false w)
    have haccess (e : Entry CacheValue) := hrow.put_other (e := e)
      (k := accessKey rootLoginClientCacheValue user.id (minted env user w).accessToken)
      fun c' u' t' => by
        rw [accessKey_eq]
        exact refreshKey_ne (by decide) noColon_root hu (hsign _ _) c' u' t'
    have hsession (e : Entry CacheValue) := (haccess e).put_session
      (c := rootLoginClientCacheValue) (t := (minted env user w).refreshToken)
      (e := Entry.stamp ((minted env user w).payload user ip) w.now env.refreshTokenCacheExpiresIn)
      noColon_root hu (huuid _)
      ⟨_, _, w.now + env.refreshTokenCacheExpiresIn, rfl, rfl,
        (Table.mem_insert hv).mpr (Or.inr rfl), rfl, rfl, rfl, rfl, stamp_expires httl,
        Nat.add_le_add_left hmax _⟩
    exact ⟨(hsession (Entry.stamp ((minted env user w).payload user ip) w.now
      env.accessTokenCacheExpiresIn)).backed, h.tenants⟩

theorem inv_login {env : Env} (hsign : ∀ cl iat, NoColon (env.sign cl iat))
    (huuid : ∀ n, NoColon (env.uuidv4 n)) (httl : 0 < env.refreshTokenCacheExpiresIn)
    (hmax : env.refreshTokenCacheExpiresIn ≤ minutes refreshTokenMinutes) {w : World}
    {user : UserInfo} {ip : String} {d ua : Option String} (h : Inv w)
    (hsafe : Safe env w (.login user ip d ua)) :
    Inv (finalState ((login env user ip d ua).run w)) := by
  obtain ⟨hplain, hcolon, hroot⟩ := hsafe
  obtain ⟨w₁, hs, hrun⟩ := run_login env hplain ip d ua w
  obtain ⟨h₁, hfree⟩ := inv_swept h hcolon hroot hs
  obtain ⟨v, hcalm, hrest⟩ := loginRest_cases env user ip d ua w₁
  have hv : Inv v := h₁.calm hcalm hfree
  rw [hrun]
  rcases hrest with he | he
  · rwa [he]
  · rw [he]
    exact inv_generateTokens hsign huuid httl hmax ip hv hcolon

/-- In every run of safe operations from an empty cache and without tenant tokens, every
refresh command agrees with the database. The signer and the generator of tokens are
assumed to avoid the colon, and a cached session to live no longer than a row. -/
theorem refresh_agrees (env : Env) (hsign : ∀ cl iat, NoColon (env.sign cl iat))
    (huuid : ∀ n, NoColon (env.uuidv4 n)) (httl : 0 < env.refreshTokenCacheExpiresIn)
    (hmax : env.refreshTokenCacheExpiresIn ≤ minutes refreshTokenMinutes) (w₀ w : World)
    (hcache : ∀ k, w₀.redis.lookup k = none)
    (htenants : ∀ c r, HasTenantRow w₀ c r → r.isValid = false)
    (hrun : Runs env (Safe env) w₀ w) (c u t ip : String) : Agrees env w c u t ip := by
  have hinv : Inv w := by
    refine hrun.invariant (fun w op hsafe h => ?_) ⟨fun c u t e he _ => ?_, htenants⟩
    · cases op with
      | login user ip d ua => exact inv_login hsign huuid httl hmax h hsafe
      | tenantLogin c user ip d ua => exact inv_tenantLogin h hsafe
      | validate req payload => exact inv_validate httl h hsafe
      | refresh c u t ip => exact inv_refresh hsign h hsafe
      | handleTokenTheft u ip loc => exact inv_theft h ip loc hsafe
      | revokeRefreshToken t => exact inv_revoke h hsafe
      | elapse n => exact inv_elapse h n
    · rw [hcache] at he
      cases he
  exact agrees_of_inv hinv env c u t ip

def firstLogin : Op := .login (User.info User.sample) "::1" none none

theorem refresh_agrees_after_login :
    Agrees Env.sample ((Op.elapse 5000).exec Env.sample (firstLogin.exec Env.sample World.sample))
      "root" User.sample.id "uuid-3" "::1" := by
  have hlogin : Safe Env.sample World.sample firstLogin := by
    refine ⟨by decide, by decide, ?_⟩
    rintro c t ⟨e, he, -⟩
    cases he
  refine refresh_agrees Env.sample (fun _ _ => noColon_withoutColons _)
    (fun _ => noColon_withoutColons _) (by decide) (by decide) World.sample _ (fun _ => rfl) ?_
    ((Relation.ReflTransGen.refl.tail ⟨firstLogin, hlogin, rfl⟩).tail
      ⟨.elapse 5000, trivial, rfl⟩) _ _ _ _
  rintro c r ⟨t, ht, -⟩
  cases ht

/-- The refresh token of a login, after it was revoked. -/
def revokedWorld : World :=
  (Op.revokeRefreshToken "uuid-3").exec Env.sample (firstLogin.exec Env.sample World.sample)

/-- The revoked token still gets an access token from the cached session. -/
theorem revoked_token_refreshes :
    Runs Env.sample (fun _ _ => True) World.sample revokedWorld ∧
      ¬ Agrees Env.sample revokedWorld "root" User.sample.id "uuid-3" "::1" := by
  refine ⟨(Relation.ReflTransGen.refl.tail ⟨firstLogin, trivial, rfl⟩).tail
    ⟨.revokeRefreshToken "uuid-3", trivial, rfl⟩, fun h => ?_⟩
  have hret : (returned ((updateRefreshAccessToken Env.sample
      (refreshCommand "root" User.sample.id "uuid-3" "::1")).run revokedWorld)).isSome = true := by
    decide +kernel
  cases hrun : (updateRefreshAccessToken Env.sample
      (refreshCommand "root" User.sample.id "uuid-3" "::1")).run revokedWorld with
  | error e w' => rw [hrun] at hret; cases hret
  | ok token w' =>
    obtain ⟨db, r, rfl | ⟨c, hc⟩, hr⟩ := h.sound token w' hrun
    · have hinvalid : ∀ r ∈ revokedWorld.root.refreshToken.rows, r.isValid = false := by
        decide +kernel
      have hvalid := hr.isValid
      rw [hinvalid r hr.mem] at hvalid
      cases hvalid
    · cases hc

end NestUserService.Auth.RefreshAgreement
