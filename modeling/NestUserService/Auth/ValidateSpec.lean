import NestUserService.Auth.JwtStrategy

/-!
# What `validate` answers

One equation for each way through `validate`: the token is on the blacklist of the
request's namespace, it is cached there, or the root database decides.
-/

namespace NestUserService.Auth

open Lib NestUserService.Core Shared

/-- The blacklist of `(clientCode, userId)` has a live entry for the token. -/
def Blacklisted (w : World) (clientCode userId token : String) : Prop :=
  (w.redis.find? w.now (blacklistKey clientCode userId token)).any CacheValue.truthy = true

instance (w : World) (c u t : String) : Decidable (Blacklisted w c u t) :=
  inferInstanceAs (Decidable (_ = true))

/-- The namespace holds a user object for the token. -/
def CachedAccess (w : World) (c u T : String) : Prop :=
  (w.redis.find? w.now (accessKey c u T)).any CacheValue.truthy = true

instance (w : World) (c u T : String) : Decidable (CachedAccess w c u T) :=
  inferInstanceAs (Decidable (_ = true))

/-- The request carries the token and names the namespace. -/
structure Carries (req : Request) (T h : String) : Prop where
  token : truthy req.token = true
  access : req.accessToken = some T
  tenant : req.tenantId.getD "undefined" = h

theorem userId_eq {payload : JwtPayload} {u : String} (hid : payload.id = some u) (hu : u ≠ "") :
    payload.userId = u := by
  simp [JwtPayload.userId, hid, truthy, hu]

theorem run_validate_blacklisted {env : Env} {w : World} {req : Request} {payload : JwtPayload}
    {t : String} (htok : truthy req.token = true) (ha : req.accessToken = some t) (hne : t ≠ "")
    (hb : Blacklisted w (req.tenantId.getD "undefined") payload.userId t) :
    (validate env req payload).run w = .error accessTokenRevoked w := by
  unfold Blacklisted at hb
  simp [validate, htok, ha, hne, getIsAccessTokenBlacklistCache, cacheGet, hb]

/-- A user object in the cache is returned as it is. -/
theorem run_validate_cached {env : Env} {w : World} {req : Request} {payload : JwtPayload}
    {t : String} {value : CacheValue} (htok : truthy req.token = true)
    (ha : req.accessToken = some t) (hne : t ≠ "")
    (hb : ¬ Blacklisted w (req.tenantId.getD "undefined") payload.userId t)
    (hf : w.redis.find? w.now (accessKey (req.tenantId.getD "undefined") payload.userId t) =
      some value) (ht : value.truthy = true) :
    (validate env req payload).run w = .ok value w := by
  have hbf : (w.redis.find? w.now
      (blacklistKey (req.tenantId.getD "undefined") payload.userId t)).any CacheValue.truthy =
        false := Bool.eq_false_iff.mpr hb
  simp [validate, htok, ha, hne, getIsAccessTokenBlacklistCache, getAccessTokenCache, cacheGet, hbf,
    hf, ht]

/-- The cache after `validate` stored the user it read from the database. -/
def recached (env : Env) (c T ip : String) (found : User × List RefreshToken) (w : World) :
    Store CacheValue :=
  let value := CacheValue.payload { toUserInfo := User.info found.1, ip, issuedAt := w.now }
  let redis := w.redis.put (accessKey c found.1.id T)
    (Entry.stamp value w.now env.accessTokenCacheExpiresIn)
  match found.2.find? fun t => t.isValid with
  | some r => redis.put (refreshKey c found.1.id r.token)
      (Entry.stamp value w.now env.refreshTokenCacheExpiresIn)
  | none => redis

theorem run_validateFromDb_missing {env : Env} {w : World} {payload : JwtPayload}
    (c T ip : String) (h : findPayloadUser w.root payload = none) :
    (validateFromDb env c T ip payload).run w = .error userNotFound w := by
  simp [validateFromDb, h]

/-- Once the user is found, nothing is refused any more. -/
theorem run_validateFromDb_found {env : Env} {w : World} {payload : JwtPayload} (c T ip : String)
    {found : User × List RefreshToken} (h : findPayloadUser w.root payload = some found) :
    (validateFromDb env c T ip payload).run w =
      .ok (.payload { toUserInfo := User.info found.1, ip, issuedAt := w.now })
        { w with redis := recached env c T ip found w } := by
  cases ht : found.2.find? fun t => t.isValid with
  | none => simp [validateFromDb, h, ht, setUserAccessTokenCache, cacheSet, recached]
  | some r =>
    simp [validateFromDb, h, ht, setUserAllTokenCache, setUserAccessTokenCache,
      setUserRefreshTokenCache, cacheSet, recached]

theorem findPayloadUser_none {db : Db} {payload : JwtPayload} {u : String}
    (hid : payload.id = some u) :
    findPayloadUser db payload = none ↔ ∀ v ∈ db.user.rows, v.id ≠ u := by
  simp [findPayloadUser, hid, Table.findFirst_eq_none]

/-- The three ways through `validate` for a request that carries a token. -/
theorem run_validate (env : Env) (w : World) {req : Request} (payload : JwtPayload) {T h : String}
    (hc : Carries req T h) (hne : T ≠ "") :
    (Blacklisted w h payload.userId T ∧
      (validate env req payload).run w = .error accessTokenRevoked w) ∨
    (¬ Blacklisted w h payload.userId T ∧ ∃ v, CachedAccess w h payload.userId T ∧
      (validate env req payload).run w = .ok v w) ∨
    (¬ Blacklisted w h payload.userId T ∧ ¬ CachedAccess w h payload.userId T ∧
      (validate env req payload).run w =
        (validateFromDb env h T req.clientIp payload).run w) := by
  have htenant := hc.tenant
  by_cases hb : Blacklisted w h payload.userId T
  · exact Or.inl ⟨hb, run_validate_blacklisted hc.token hc.access hne (by rwa [htenant])⟩
  · have hbf : (w.redis.find? w.now (blacklistKey h payload.userId T)).any CacheValue.truthy =
        false := Bool.eq_false_iff.mpr hb
    right
    by_cases ha : CachedAccess w h payload.userId T
    · unfold CachedAccess at ha
      cases hf : w.redis.find? w.now (accessKey h payload.userId T) with
      | none => rw [hf] at ha; cases ha
      | some value =>
        have ht : value.truthy = true := by rw [hf] at ha; exact ha
        subst htenant
        exact Or.inl ⟨hb, value, ha, run_validate_cached hc.token hc.access hne hb hf ht⟩
    · refine Or.inr ⟨hb, ha, ?_⟩
      unfold CachedAccess at ha
      cases hf : w.redis.find? w.now (accessKey h payload.userId T) with
      | none =>
        simp [validate, hc.token, hc.access, hne, htenant, getIsAccessTokenBlacklistCache,
          getAccessTokenCache, cacheGet, hbf, hf]
      | some value =>
        have ht : value.truthy = false := by
          rw [hf] at ha
          exact Bool.eq_false_iff.mpr ha
        simp [validate, hc.token, hc.access, hne, htenant, getIsAccessTokenBlacklistCache,
          getAccessTokenCache, cacheGet, hbf, hf, ht]

/-- What `validate` returns was cached for the request's token, or is read from the
root database, which it leaves alone. -/
theorem validate_value {env : Env} {w w' : World} {req : Request} {payload : JwtPayload}
    {v : CacheValue} (h : (validate env req payload).run w = .ok v w') :
    w'.root = w.root ∧ ((∃ T, req.accessToken = some T ∧ w.redis.find? w.now
        (accessKey (req.tenantId.getD "undefined") payload.userId T) = some v) ∨
      ∃ user ∈ w.root.user.rows, ∃ ip issuedAt,
        v = .payload { toUserInfo := User.info user, ip, issuedAt }) := by
  by_cases htok : truthy req.token = true
  · cases ha : req.accessToken with
    | none =>
      simp [validate, htok, ha] at h
    | some T =>
      by_cases hne : T = ""
      · simp [validate, htok, ha, hne] at h
      · have hc : Carries req T (req.tenantId.getD "undefined") := ⟨htok, ha, rfl⟩
        rcases run_validate env w payload hc hne with
          ⟨-, hrun⟩ | ⟨hb, -, hca, -⟩ | ⟨-, -, hrun⟩
        · rw [hrun] at h
          cases h
        · obtain ⟨value, hf, ht⟩ := (Option.any_eq_true _ _).mp hca
          rw [run_validate_cached htok ha hne hb hf ht] at h
          cases h
          exact ⟨rfl, Or.inl ⟨T, rfl, hf⟩⟩
        · rw [hrun] at h
          cases hp : findPayloadUser w.root payload with
          | none =>
            rw [run_validateFromDb_missing _ T _ hp] at h
            cases h
          | some found =>
            rw [run_validateFromDb_found _ T _ hp] at h
            cases h
            refine ⟨rfl, Or.inr ⟨found.1, ?_, _, _, rfl⟩⟩
            obtain ⟨user, hu, rfl⟩ := Option.map_eq_some_iff.mp hp
            exact (Table.findFirst_mem hu).1
  · simp [validate, htok] at h

/-- `validate` changes nothing, or stores a user it found in the database. -/
theorem validate_state (env : Env) (w : World) (req : Request) (payload : JwtPayload) :
    finalState ((validate env req payload).run w) = w ∨
    ∃ T h found, Carries req T h ∧ ¬ Blacklisted w h payload.userId T ∧
      ¬ CachedAccess w h payload.userId T ∧ findPayloadUser w.root payload = some found ∧
      finalState ((validate env req payload).run w) =
        { w with redis := recached env h T req.clientIp found w } := by
  by_cases htok : truthy req.token = true
  · cases ha : req.accessToken with
    | none =>
      left
      simp [validate, htok, ha]
    | some T =>
      by_cases hne : T = ""
      · left
        simp [validate, htok, ha, hne]
      · have hc : Carries req T (req.tenantId.getD "undefined") := ⟨htok, ha, rfl⟩
        rcases run_validate env w payload hc hne with
          ⟨-, hrun⟩ | ⟨-, v, -, hrun⟩ | ⟨hb, hn, hrun⟩
        · left
          rw [hrun, finalState_error]
        · left
          rw [hrun, finalState_ok]
        · cases hp : findPayloadUser w.root payload with
          | none =>
            left
            rw [hrun, run_validateFromDb_missing _ T _ hp, finalState_error]
          | some found =>
            exact Or.inr ⟨T, _, found, hc, hb, hn, rfl, by
              rw [hrun, run_validateFromDb_found _ T _ hp, finalState_ok]⟩
  · left
    simp [validate, htok]

end NestUserService.Auth
