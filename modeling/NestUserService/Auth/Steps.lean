import NestUserService.Auth.Handlers
import NestUserService.Shared.CacheSteps

/-!
# What one step of a service call can do

Every call is described by the root refresh tokens its steps may change and the cache
keys they may write or delete. The descriptions hold for every interleaving; no
assumption is made on ids or client codes.
-/

namespace NestUserService.Auth

open Lib NestUserService.Core Shared

/-- What a call may touch: refresh tokens of the root and of the tenants, and the
cache keys it writes or deletes. -/
structure Scope where
  rows : RefreshToken → Prop
  tenantRows : String → RefreshToken → Prop
  put : String → CacheValue → Nat → Prop
  del : String → Prop

/-- The row is in the database of the client code. -/
def HasTenantRow (w : World) (c : String) (r : RefreshToken) : Prop :=
  ∃ t, (w.tenants c).map Db.refreshToken = some t ∧ r ∈ t.rows

/-- A step leaves the clock alone and stays within the scope. -/
structure Step (S : Scope) (w w' : World) : Prop where
  now : w'.now = w.now
  redis : w'.redis = w.redis ∨
    (∃ k v ttl, S.put k v ttl ∧ w'.redis = w.redis.put k (Entry.stamp v w.now ttl)) ∨
    ∃ k, S.del k ∧ w'.redis = w.redis.del k
  rows : ∀ r, ¬ S.rows r → (r ∈ w'.root.refreshToken.rows ↔ r ∈ w.root.refreshToken.rows)
  tenantRows : ∀ c r, ¬ S.tenantRows c r → (HasTenantRow w' c r ↔ HasTenantRow w c r)

/-- The program only takes such steps. -/
def Steps {α : Type} (S : Scope) (x : App α) : Prop :=
  Async.Guarantees (Step S) (fun _ => True) x

variable {S : Scope} {α β : Type}

namespace Steps

theorem pure (a : α) : Steps S (Pure.pure a) := trivial

theorem throw (e : Exn) : Steps S (MonadExcept.throw e : App α) := trivial

theorem bind {x : App α} {f : α → App β} (h : Steps S x) (hf : ∀ a, Steps S (f a)) :
    Steps S (x >>= f) :=
  Async.Guarantees.bind h fun a _ => hf a

theorem ite {c : Prop} [Decidable c] {x y : App α} (hx : Steps S x) (hy : Steps S y) :
    Steps S (if c then x else y) :=
  Async.Guarantees.ite (fun _ => hx) fun _ => hy

theorem await {x : Sync α} (h : ∀ w, Step S w (finalState (x w))) : Steps S (Async.await x) :=
  Async.Guarantees.await h fun _ _ _ _ => trivial

/-- Cache programs stay within a scope that allows their writes and deletions. -/
theorem of_cache {Put : String → CacheValue → Nat → Prop} {Del : String → Prop} {x : App α}
    (h : Async.Guarantees (CacheStep Put Del) (fun _ => True) x)
    (hput : ∀ k v ttl, Put k v ttl → S.put k v ttl) (hdel : ∀ k, Del k → S.del k) :
    Steps S x := by
  refine Async.Guarantees.mono h (fun w w' hs => ?_) fun _ h => h
  cases hs with
  | keep n => exact ⟨rfl, Or.inl rfl, fun _ _ => Iff.rfl, fun _ _ _ => Iff.rfl⟩
  | put k v ttl hk =>
    exact ⟨rfl, Or.inr (Or.inl ⟨k, v, ttl, hput k v ttl hk, rfl⟩), fun _ _ => Iff.rfl,
      fun _ _ _ => Iff.rfl⟩
  | del k hk =>
    exact ⟨rfl, Or.inr (Or.inr ⟨k, hdel k hk, rfl⟩), fun _ _ => Iff.rfl, fun _ _ _ => Iff.rfl⟩

theorem get (key : String) : Steps S (Async.await (cacheGet key)) :=
  of_cache (guarantees_cacheGet (P := NoPut) (D := NoDel) key) (fun _ _ _ h => h.elim)
    fun _ h => h.elim

theorem set {key : String} {value : CacheValue} {ttl : Nat} (h : S.put key value ttl) :
    Steps S (Async.await (cacheSet key value ttl)) :=
  of_cache (guarantees_cacheSet (D := NoDel) h) (fun _ _ _ h => h) fun _ h => h.elim

end Steps

/-- Two states with the same clock, cache and refresh tokens. -/
structure SameTokens (w w' : World) : Prop where
  now : w'.now = w.now
  redis : w'.redis = w.redis
  root : w'.root.refreshToken = w.root.refreshToken
  tenants : ∀ c, (w'.tenants c).map Db.refreshToken = (w.tenants c).map Db.refreshToken

theorem SameTokens.refl (w : World) : SameTokens w w := ⟨rfl, rfl, rfl, fun _ => rfl⟩

theorem SameTokens.trans {w w' w'' : World} (h : SameTokens w w') (h' : SameTokens w' w'') :
    SameTokens w w'' :=
  ⟨h'.now.trans h.now, h'.redis.trans h.redis, h'.root.trans h.root,
    fun c => (h'.tenants c).trans (h.tenants c)⟩

/-- Synchronous code that keeps the clock, the cache and the refresh tokens. -/
def Quiet (x : Sync α) : Prop := ∀ w, SameTokens w (finalState (x w))

theorem SameTokens.step {w w' : World} (h : SameTokens w w') : Step S w w' :=
  ⟨h.now, Or.inl h.redis, fun _ _ => by rw [h.root],
    fun c _ _ => by unfold HasTenantRow; rw [h.tenants c]⟩

/-- A quiet await keeps every guarantee that allows such steps. -/
theorem Quiet.guarantees {x : Sync α} (h : Quiet x) {G : World → World → Prop}
    (hquiet : ∀ w w', SameTokens w w' → G w w') :
    Async.Guarantees G (fun _ => True) (Async.await x) :=
  Async.Guarantees.await (fun w => hquiet _ _ (h w)) fun _ _ _ _ => trivial

theorem Quiet.steps {x : Sync α} (h : Quiet x) : Steps S (Async.await x) :=
  h.guarantees fun _ _ => SameTokens.step

theorem Quiet.bind {x : Sync α} {f : α → Sync β} (hx : Quiet x) (hf : ∀ a, Quiet (f a)) :
    Quiet (x >>= f) := by
  intro w
  have h := hx w
  rw [sync_bind]
  cases hxw : x w with
  | ok a w' => rw [hxw] at h; exact h.trans (hf a w')
  | error e w' => rw [hxw] at h; exact h

theorem quiet_pure (a : α) : Quiet (pure a : Sync α) := SameTokens.refl

theorem quiet_clock : Quiet clock := SameTokens.refl

theorem quiet_uuidv4 (env : Env) : Quiet (uuidv4 env) := fun _ => ⟨rfl, rfl, rfl, fun _ => rfl⟩

theorem quiet_sendMessage (m : String) : Quiet (sendMessage m) :=
  fun _ => ⟨rfl, rfl, rfl, fun _ => rfl⟩

theorem quiet_sendSecurityAlertEmail (env : Env) (m : SecurityAlertEmail) :
    Quiet (sendSecurityAlertEmail env m) := by
  intro w
  unfold sendSecurityAlertEmail
  split <;> exact ⟨rfl, rfl, rfl, fun _ => rfl⟩

theorem quiet_readRoot (f : Db → α) : Quiet (readRoot f) := SameTokens.refl

theorem quiet_queryRoot (f : Db → Except Exn α) : Quiet (queryRoot f) := by
  intro w
  rw [queryRoot_apply]
  cases f w.root <;> exact SameTokens.refl w

theorem quiet_writeRoot {f : Db → Except Exn Db}
    (h : ∀ db db', f db = .ok db' → db'.refreshToken = db.refreshToken) : Quiet (writeRoot f) := by
  intro w
  rw [writeRoot_apply]
  cases hf : f w.root with
  | ok db => exact ⟨rfl, rfl, h _ _ hf, fun _ => rfl⟩
  | error e => exact SameTokens.refl w

theorem quiet_getTenantClient (c : String) : Quiet (getTenantClient c) := by
  intro w
  unfold getTenantClient
  cases w.tenants c <;> exact SameTokens.refl w

theorem quiet_readTenant (c : String) (f : Db → α) : Quiet (readTenant c f) := by
  intro w
  unfold readTenant
  cases w.tenants c <;> exact SameTokens.refl w

/-- All a tenant write can do. -/
theorem writeTenant_cases (c : String) (f : Db → Except Exn Db) (w : World) :
    finalState (writeTenant c f w) = w ∨
      ∃ db db', w.tenants c = some db ∧ f db = .ok db' ∧
        finalState (writeTenant c f w) = w.setTenant c db' := by
  cases hdb : w.tenants c with
  | none =>
    have hw : writeTenant c f w = .error (invalidClientCode c) w := by simp [writeTenant, hdb]
    exact Or.inl (by rw [hw]; rfl)
  | some db =>
    rw [writeTenant_apply hdb]
    cases hf : f db with
    | error e => exact Or.inl rfl
    | ok db' => exact Or.inr ⟨db, db', rfl, hf, rfl⟩

theorem quiet_writeTenant {c : String} {f : Db → Except Exn Db}
    (h : ∀ db db', f db = .ok db' → db'.refreshToken = db.refreshToken) :
    Quiet (writeTenant c f) := by
  intro w
  rcases writeTenant_cases c f w with he | ⟨db, db', hdb, hf, he⟩
  · rw [he]
    exact SameTokens.refl w
  · rw [he]
    refine ⟨rfl, rfl, rfl, fun c' => ?_⟩
    by_cases hc : c' = c
    · subst hc
      simp [World.setTenant, hdb, h db db' hf]
    · simp [World.setTenant, hc]

/-- A tenant write that changes rows of the scope only. -/
theorem steps_writeTenant {c : String} {f : Db → Except Exn Db}
    (h : ∀ db db', f db = .ok db' → ∀ r, ¬ S.tenantRows c r →
      (r ∈ db'.refreshToken.rows ↔ r ∈ db.refreshToken.rows)) :
    Steps S (Async.await (writeTenant c f)) := by
  refine Steps.await fun w => ?_
  rcases writeTenant_cases c f w with he | ⟨db, db', hdb, hf, he⟩
  · rw [he]
    exact ⟨rfl, Or.inl rfl, fun _ _ => Iff.rfl, fun _ _ _ => Iff.rfl⟩
  · rw [he]
    refine ⟨rfl, Or.inl rfl, fun _ _ => Iff.rfl, fun c' r hr => ?_⟩
    unfold HasTenantRow
    by_cases hc : c' = c
    · subst hc
      simp [World.setTenant, hdb, h db db' hf r hr]
    · simp [World.setTenant, hc]

theorem updateUserById_refreshToken {db db' : Db} {id : String} {data : Patch User}
    (h : db.updateUserById id data = .ok db') : db'.refreshToken = db.refreshToken := by
  unfold Db.updateUserById at h
  split at h
  · cases h; rfl
  · cases h

theorem createTrustedDevice_refreshToken {db db' : Db} {row : TrustedDevice}
    (h : db.createTrustedDevice row = .ok db') : db'.refreshToken = db.refreshToken := by
  obtain ⟨hv, -, -, rfl⟩ := Db.createTrustedDevice_ok h
  rfl

theorem createRefreshToken_rows {db db' : Db} {row r : RefreshToken}
    (h : db.createRefreshToken row = .ok db') (hr : r.userId ≠ row.userId) :
    r ∈ db'.refreshToken.rows ↔ r ∈ db.refreshToken.rows := by
  obtain ⟨hv, -, rfl⟩ := Db.createRefreshToken_ok h
  rw [Table.mem_insert]
  exact or_iff_left fun he => hr (congrArg RefreshToken.userId he)

section Service

variable (env : Env)

theorem step_invalidate {u : String} (hrow : ∀ r : RefreshToken, r.userId = u → S.rows r)
    (w : World) : Step S w { w with root := w.root.invalidateRefreshTokens u } :=
  ⟨rfl, Or.inl rfl, fun r hr => Db.mem_invalidate_other fun he => hr (hrow r he),
    fun _ _ _ => Iff.rfl⟩

theorem steps_invalidate {u : String} (hrow : ∀ r : RefreshToken, r.userId = u → S.rows r) :
    Steps S (invalidateUserTokens u) :=
  Steps.await fun w => step_invalidate hrow w

theorem steps_revoke {t : String} (hrow : ∀ r : RefreshToken, r.token = t → S.rows r) :
    Steps S (revokeRefreshToken t) := by
  refine Steps.await fun w => ⟨rfl, Or.inl rfl, fun r hr => ?_, fun _ _ _ => Iff.rfl⟩
  exact Table.mem_updateMany_other (by simp [invalidated]) (by
    simpa using fun he => hr (hrow r he))

theorem quiet_registerDevice (u ip : String) (ua : Option String) (now : Nat) :
    Quiet (registerDevice env u ip ua now) :=
  (quiet_uuidv4 env).bind fun _ =>
    (quiet_writeRoot fun _ _ h => createTrustedDevice_refreshToken h).bind fun _ => quiet_pure _

section Guarantee

variable {G : World → World → Prop} (hquiet : ∀ w w', SameTokens w w' → G w w')
include hquiet

theorem guarantees_notify (c u : String) (ip loc : Option String) :
    Async.Guarantees G (fun _ => True) (notifySecurityTeam env c u ip loc) := by
  refine ((quiet_sendMessage _).guarantees hquiet).bind fun _ _ =>
    ((quiet_readRoot _).guarantees hquiet).bind fun user _ => ?_
  refine Async.Guarantees.bind (Quiet.guarantees ?_ hquiet) fun token _ => ?_
  · refine (quiet_uuidv4 env).bind fun token => quiet_clock.bind fun now => ?_
    exact (quiet_writeRoot fun _ _ h => updateUserById_refreshToken h).bind fun _ => quiet_pure _
  · cases user with
    | none => exact Async.Guarantees.pure trivial
    | some user => exact (quiet_sendSecurityAlertEmail env _).guarantees hquiet

variable {u : String}
  (hinvalidate : ∀ w : World, G w { w with root := w.root.invalidateRefreshTokens u })
include hinvalidate

/-- Ending the sessions is all that the theft response does to the tokens. -/
theorem guarantees_handleTokenTheft (ip : String) (loc : Option String) :
    Async.Guarantees G (fun _ => True) (handleTokenTheft env u ip loc) := by
  refine Async.Guarantees.bind (V := fun _ => True)
    (Async.Guarantees.await (fun w => hinvalidate w) fun _ _ _ _ => trivial) fun _ _ => ?_
  refine Async.Guarantees.bind (Quiet.guarantees ?_ hquiet) fun _ _ => ?_
  · exact quiet_writeRoot fun db db' h => by cases h; rfl
  · exact guarantees_notify env hquiet u ip loc none

theorem guarantees_validateOrRegisterDevice (d : Option String) (ip : String)
    (ua : Option String) :
    Async.Guarantees G (fun _ => True) (validateOrRegisterDevice env u d ip ua) := by
  refine Async.Guarantees.ite (fun _ => Async.Guarantees.bind (Quiet.guarantees ?_ hquiet)
    fun found _ => ?_) fun _ => Quiet.guarantees ?_ hquiet
  · exact quiet_clock.bind fun _ => (quiet_readRoot _).bind fun _ => quiet_pure _
  · obtain ⟨now, info⟩ := found
    cases info with
    | none => exact Async.Guarantees.throw _
    | some info =>
      refine Async.Guarantees.ite (fun _ => ?_) fun _ => Async.Guarantees.ite
        (fun _ => Async.Guarantees.pure trivial)
        fun _ => (quiet_registerDevice env u ip ua now).guarantees hquiet
      exact (guarantees_handleTokenTheft env hquiet hinvalidate ip _).bind
        fun _ _ => Async.Guarantees.throw _
  · exact quiet_clock.bind fun now => quiet_registerDevice env u ip ua now

end Guarantee

theorem steps_notify (c u : String) (ip loc : Option String) :
    Steps S (notifySecurityTeam env c u ip loc) :=
  guarantees_notify env (fun _ _ => SameTokens.step) c u ip loc

theorem steps_handleTokenTheft {u : String} (ip : String) (loc : Option String)
    (hrow : ∀ r : RefreshToken, r.userId = u → S.rows r) :
    Steps S (handleTokenTheft env u ip loc) :=
  guarantees_handleTokenTheft env (fun _ _ => SameTokens.step) (step_invalidate hrow) ip loc

theorem steps_validateOrRegisterDevice {u : String} (d : Option String) (ip : String)
    (ua : Option String) (hrow : ∀ r : RefreshToken, r.userId = u → S.rows r) :
    Steps S (validateOrRegisterDevice env u d ip ua) :=
  guarantees_validateOrRegisterDevice env (fun _ _ => SameTokens.step) (step_invalidate hrow) d ip
    ua

/-- The writes of a login under `c` for `u`. -/
def LoginPut (c u : String) (k : String) (v : CacheValue) (ttl : Nat) : Prop :=
  BlacklistPut env c u k v ttl ∨ ∃ value, SessionPut c u value k v ttl

theorem steps_setAll (c u accessToken refreshToken : String) (value : CacheValue)
    (d : Option String) (ttl : Option Nat)
    (hput : ∀ k v n, SessionPut c u value k v n → S.put k v n) :
    Steps S (setUserAllTokenCache env c u accessToken refreshToken value d ttl) :=
  Steps.of_cache (guarantees_setAll (D := NoDel) env c u _ _ _ d ttl) hput fun _ h => h.elim

theorem steps_blacklist (c u : String) (hput : ∀ k v n, BlacklistPut env c u k v n → S.put k v n) :
    Steps S (setUserAccessTokenBlacklistCache env c u) :=
  Steps.of_cache (guarantees_blacklist (D := NoDel) env c u) hput fun _ h => h.elim

theorem steps_clear (c u : String) (hdel : ∀ k, ClearDel c u k → S.del k) :
    Steps S (clearUserAllTokenCaches env c u) :=
  Steps.of_cache (guarantees_clear (P := NoPut) env c u) (fun _ _ _ h => h.elim) hdel

theorem quiet_mint (user : UserInfo) : Quiet (mint env user) :=
  quiet_clock.bind fun _ => (quiet_uuidv4 env).bind fun _ => quiet_pure _

theorem steps_generateTokens (user : UserInfo) (ip : String) (d : Option String)
    (hrow : ∀ r : RefreshToken, r.userId = user.id → S.rows r)
    (hput : ∀ k v ttl, LoginPut env rootLoginClientCacheValue user.id k v ttl → S.put k v ttl) :
    Steps S (generateTokens env user ip d) := by
  refine Steps.bind (Steps.await fun w => ?_) fun minted => Steps.bind ?_ fun _ => Steps.pure _
  · simp only [mint, sync_bind, clock_apply, uuidv4_apply, sync_pure, writeRoot_apply]
    cases h : w.root.createRefreshToken _ with
    | error e => exact ⟨rfl, Or.inl rfl, fun _ _ => Iff.rfl, fun _ _ _ => Iff.rfl⟩
    | ok db =>
      exact ⟨rfl, Or.inl rfl, fun r hr => createRefreshToken_rows h fun he => hr (hrow r he),
        fun _ _ _ => Iff.rfl⟩
  · exact steps_setAll env _ user.id _ _ _ d none fun k v ttl h => hput k v ttl (Or.inr ⟨_, h⟩)

/-- `login` after the previous sessions were ended. -/
def loginRest (user : UserInfo) (ip : String) (d ua : Option String) : App LoginResponse := do
  Async.await (sendMessage (loginText user.id ip))
  if user.isTwoFactorEnabled && !truthy d then
    throw deviceTokenMissing
  if user.isTwoFactorEnabled then
    let _ ← validateOrRegisterDevice env user.id d ip ua
  generateTokens env user ip

theorem login_eq (user : UserInfo) (ip : String) (d ua : Option String) :
    login env user ip d ua = (do
      invalidatePreviousRefreshTokens user.id
      setRootUserAccessTokenBlacklistCache env user.id
      clearUserTokenCache env user.id
      loginRest env user ip d ua) := rfl

theorem steps_loginRest (user : UserInfo) (ip : String) (d ua : Option String)
    (hrow : ∀ r : RefreshToken, r.userId = user.id → S.rows r)
    (hput : ∀ k v ttl, LoginPut env rootLoginClientCacheValue user.id k v ttl → S.put k v ttl) :
    Steps S (loginRest env user ip d ua) := by
  have hgen := steps_generateTokens env user ip none hrow hput
  refine (quiet_sendMessage _).steps.bind fun _ => Steps.ite (Steps.throw _) (Steps.ite ?_ hgen)
  exact (steps_validateOrRegisterDevice env d ip ua hrow).bind fun _ => hgen

theorem steps_login (user : UserInfo) (ip : String) (d ua : Option String)
    (hrow : ∀ r : RefreshToken, r.userId = user.id → S.rows r)
    (hput : ∀ k v ttl, LoginPut env rootLoginClientCacheValue user.id k v ttl → S.put k v ttl)
    (hdel : ∀ k, ClearDel rootLoginClientCacheValue user.id k → S.del k) :
    Steps S (login env user ip d ua) := by
  rw [login_eq]
  exact (steps_invalidate hrow).bind fun _ =>
    (steps_blacklist env _ user.id fun k v n h => hput k v n (Or.inl h)).bind fun _ =>
      (steps_clear env _ user.id hdel).bind fun _ => steps_loginRest env user ip d ua hrow hput

theorem steps_tenantInvalidate {c u : String}
    (htrow : ∀ r : RefreshToken, r.userId = u → S.tenantRows c r) :
    Steps S (tenantInvalidatePreviousRefreshTokens c u) := by
  refine (quiet_getTenantClient c).steps.bind fun _ => steps_writeTenant fun db db' h r hr => ?_
  cases h
  exact Db.mem_invalidate_other fun he => hr (htrow r he)

theorem steps_tenantTheft {c u : String} (ip loc : Option String)
    (htrow : ∀ r : RefreshToken, r.userId = u → S.tenantRows c r) :
    Steps S (tenantHandleTokenTheft env c u ip loc) := by
  refine (steps_tenantInvalidate htrow).bind fun _ => Steps.bind ?_ fun _ => steps_notify env _ _ _ _
  refine (quiet_getTenantClient c).steps.bind fun _ => Quiet.steps (quiet_writeTenant ?_)
  intro db db' h
  cases ip with
  | none => cases h
  | some ip => cases h; rfl

theorem steps_tenantRegisterDevice (c u : String) (ip ua : Option String) (now : Nat) :
    Steps S (tenantRegisterDevice env c u ip ua now) :=
  Steps.bind (Quiet.steps ((quiet_uuidv4 env).bind fun _ =>
    (quiet_getTenantClient c).bind fun _ => quiet_pure _)) fun _ =>
      (quiet_writeTenant fun _ _ h => createTrustedDevice_refreshToken h).steps.bind fun _ =>
        Steps.pure _

theorem steps_tenantValidateOrRegisterDevice {c u : String} (d ip ua : Option String)
    (htrow : ∀ r : RefreshToken, r.userId = u → S.tenantRows c r) :
    Steps S (tenantValidateOrRegisterDevice env c u d ip ua) := by
  refine Steps.ite (Steps.bind (Quiet.steps ?_) fun now => ?_) ?_
  · exact quiet_clock.bind fun _ => (quiet_getTenantClient c).bind fun _ => quiet_pure _
  · refine (quiet_readTenant c _).steps.bind fun info => ?_
    cases info with
    | none => exact Steps.throw _
    | some info =>
      refine Steps.ite ?_ (Steps.ite (Steps.pure _) (steps_tenantRegisterDevice env c u ip ua now))
      exact (steps_tenantTheft env ip _ htrow).bind fun _ => Steps.throw _
  · exact quiet_clock.steps.bind fun now => steps_tenantRegisterDevice env c u ip ua now

theorem steps_tenantGenerateTokens (c : String) (user : UserInfo) (ip : String) (d : Option String)
    (htrow : ∀ r : RefreshToken, r.userId = user.id → S.tenantRows c r)
    (hput : ∀ k v ttl, LoginPut env c user.id k v ttl → S.put k v ttl) :
    Steps S (tenantGenerateTokens env c user ip d) := by
  refine Steps.bind (Quiet.steps ?_) fun minted => Steps.bind ?_ fun _ => Steps.bind ?_ fun _ =>
    Steps.pure _
  · exact (quiet_mint env user).bind fun _ => (quiet_getTenantClient c).bind fun _ => quiet_pure _
  · exact steps_writeTenant fun db db' h r hr =>
      createRefreshToken_rows h fun he => hr (htrow r he)
  · exact steps_setAll env c user.id _ _ _ d none fun k v ttl h => hput k v ttl (Or.inr ⟨_, h⟩)

/-- The shifted device check works on the database whose code is the user id. -/
theorem steps_tenantLogin (c : String) (user : UserInfo) (ip : String) (d ua : Option String)
    (htrow : ∀ c' (r : RefreshToken), c' = c ∧ r.userId = user.id ∨
      c' = user.id ∧ r.userId = d.getD "" → S.tenantRows c' r)
    (hput : ∀ k v ttl, LoginPut env c user.id k v ttl → S.put k v ttl)
    (hdel : ∀ k, ClearDel c user.id k → S.del k) :
    Steps S (tenantLogin env c user ip d ua) := by
  have hown (r : RefreshToken) (hr : r.userId = user.id) : S.tenantRows c r :=
    htrow c r (Or.inl ⟨rfl, hr⟩)
  have hgen := steps_tenantGenerateTokens env c user ip none hown hput
  refine (steps_tenantInvalidate hown).bind fun _ =>
    (steps_blacklist env c user.id fun k v n h => hput k v n (Or.inl h)).bind fun _ =>
      (steps_clear env c user.id hdel).bind fun _ => (quiet_sendMessage _).steps.bind fun _ =>
        Steps.ite (Steps.throw _) (Steps.ite ?_ hgen)
  exact (steps_tenantValidateOrRegisterDevice env _ _ _ fun r hr =>
    htrow user.id r (Or.inr ⟨rfl, hr⟩)).bind fun _ => hgen

/-- `validate` does what its two ways to store a session do. -/
theorem steps_validate_of (req : Request) (payload : JwtPayload)
    (hset : ∀ u t r (p : TokenCachePayload), Steps S
      (setUserAllTokenCache env (req.tenantId.getD "undefined") u t r (.payload p)))
    (hsetAccess : ∀ u t (p : TokenCachePayload), Steps S
      (setUserAccessTokenCache env (req.tenantId.getD "undefined") u t (.payload p))) :
    Steps S (validate env req payload) := by
  have hdb (accessToken ip : String) : Steps S
      (validateFromDb env (req.tenantId.getD "undefined") accessToken ip payload) := by
    refine (quiet_readRoot _).steps.bind fun info => ?_
    cases info with
    | none => exact Steps.throw _
    | some info =>
      refine quiet_clock.steps.bind fun _ => ?_
      cases info.2.find? fun t => t.isValid with
      | none => exact (hsetAccess _ _ _).bind fun _ => Steps.pure _
      | some r => exact (hset _ _ _ _).bind fun _ => Steps.pure _
  refine Steps.ite (Steps.throw _) ?_
  cases req.accessToken with
  | none => exact Steps.throw _
  | some accessToken =>
    refine Steps.ite (Steps.throw _) (Steps.bind
      (Steps.bind (Steps.get _) fun _ => Steps.pure _) fun b => ?_)
    refine Steps.ite (Steps.throw _) ?_
    refine (Steps.get _).bind fun found => ?_
    cases found with
    | none => exact hdb _ _
    | some value => exact Steps.ite (Steps.pure _) (hdb _ _)

theorem steps_validate (req : Request) (payload : JwtPayload)
    (hput : ∀ u k v ttl, LoginPut env (req.tenantId.getD "undefined") u k v ttl → S.put k v ttl) :
    Steps S (validate env req payload) :=
  steps_validate_of env req payload
    (fun u t r p => steps_setAll env _ u t r (.payload p) none none fun k v ttl h =>
      hput u k v ttl (Or.inr ⟨_, h⟩))
    fun u t p => Steps.set (hput u _ _ _ (Or.inr ⟨.payload p, rfl, t, Or.inl rfl⟩))

/-- The writes of a refresh. -/
def RefreshPut (c u : String) (k : String) (v : CacheValue) (ttl : Nat) : Prop :=
  BlacklistPut env c u k v ttl ∨
    ∃ p iat, k = accessKey c u (env.sign (.session p) iat) ∧ v = .payload p

theorem steps_newAccessToken (c : String) (user : UserInfo) (ip : String)
    (hput : ∀ k v ttl, RefreshPut env c user.id k v ttl → S.put k v ttl) :
    Steps S (newAccessToken env c user ip) := by
  unfold newAccessToken
  refine Async.Guarantees.bind
    (V := fun pt => ∃ iat, pt.2 = env.sign (.session pt.1) iat) ?_ fun pt hpt => ?_
  · refine Async.Guarantees.await
      (fun w => ⟨rfl, Or.inl rfl, fun _ _ => Iff.rfl, fun _ _ _ => Iff.rfl⟩) ?_
    intro w pt w' h
    cases h
    exact ⟨_, rfl⟩
  · obtain ⟨p, token⟩ := pt
    obtain ⟨iat, hiat⟩ := hpt
    refine Steps.bind ?_ fun _ => Steps.bind ?_ fun _ => Steps.pure _
    · exact steps_blacklist env c user.id fun k v n h => hput k v n (Or.inl h)
    · exact Steps.set (hput _ _ _ (Or.inr ⟨p, iat, by rw [← hiat], rfl⟩))

theorem quiet_findValidRefreshToken (token : Arg) : Quiet (findValidRefreshToken env token) :=
  quiet_clock.bind fun _ => quiet_queryRoot _

theorem steps_findUser {id : String} {f : Option User → App β} (hnone : Steps S (f none))
    (hsome : ∀ u : User, u.id = id → Steps S (f (some u))) :
    Steps S (Async.await (readRoot fun db => db.findUserById id) >>= f) := by
  refine Async.Guarantees.bind (V := fun user => ∀ u : User, user = some u → u.id = id)
    ?_ fun user hu => ?_
  · refine Async.Guarantees.await
      (fun w => ⟨rfl, Or.inl rfl, fun _ _ => Iff.rfl, fun _ _ _ => Iff.rfl⟩) ?_
    intro w user w' h u hu
    cases h
    exact (Db.findUserById_some hu).2
  · cases user with
    | none => exact hnone
    | some u => exact hsome u (hu u rfl)

theorem steps_refreshFromDb (cmd : UpdateRefreshAccessTokenCommand)
    (hrow : ∀ r : RefreshToken, r.userId = cmd.userId → S.rows r)
    (hput : ∀ k v ttl, RefreshPut env cmd.clientCode cmd.userId k v ttl → S.put k v ttl) :
    Steps S (refreshFromDb env cmd) := by
  refine (quiet_findValidRefreshToken env _).steps.bind fun record => ?_
  cases record with
  | none => exact Steps.throw _
  | some record =>
    have hnew (user : User) (hid : user.id = cmd.userId) :
        Steps S (newAccessToken env cmd.clientCode (User.info user) cmd.ip) :=
      steps_newAccessToken env _ _ _ (by rw [show (User.info user).id = cmd.userId from hid]; exact hput)
    refine Async.Guarantees.ite (fun _ => Steps.throw _) fun hid => ?_
    rw [not_not] at hid
    refine Steps.ite ?_ (steps_findUser (Steps.throw _) hnew)
    exact (steps_handleTokenTheft env _ _ (by rw [hid]; exact hrow)).bind fun _ =>
      steps_findUser (Steps.throw _) hnew

theorem steps_refreshFromCache (cmd : UpdateRefreshAccessTokenCommand) (value : CacheValue)
    (hrow : ∀ r : RefreshToken, r.userId = cmd.userId → S.rows r)
    (hput : ∀ k v ttl, RefreshPut env cmd.clientCode cmd.userId k v ttl → S.put k v ttl) :
    Steps S (refreshFromCache env cmd value) := by
  cases value with
  | text s => exact Steps.throw _
  | payload record =>
    refine Async.Guarantees.ite (fun _ => Steps.throw _) fun hid => ?_
    rw [not_not] at hid
    have hnew := steps_newAccessToken env cmd.clientCode record.toUserInfo cmd.ip
      (by rw [hid]; exact hput)
    refine Steps.ite ?_ hnew
    exact (steps_handleTokenTheft env _ _ (by rw [hid]; exact hrow)).bind fun _ => hnew

theorem steps_refresh (cmd : UpdateRefreshAccessTokenCommand)
    (hrow : ∀ r : RefreshToken, r.userId = cmd.userId → S.rows r)
    (hput : ∀ k v ttl, RefreshPut env cmd.clientCode cmd.userId k v ttl → S.put k v ttl) :
    Steps S (updateRefreshAccessToken env cmd) := by
  refine (Steps.get _).bind fun found => ?_
  cases found with
  | none => exact steps_refreshFromDb env cmd hrow hput
  | some record =>
    exact Steps.ite (steps_refreshFromCache env cmd record hrow hput)
      (steps_refreshFromDb env cmd hrow hput)

end Service

/-- Whatever state its awaits meet, the program only throws exceptions in `E`. -/
def Throws {α : Type} (E : Exn → Prop) (x : App α) : Prop :=
  Async.Triple (fun _ _ => True) (fun _ => True) x (fun _ _ => True) fun e _ => E e

namespace Throws

variable {α β : Type} {E : Exn → Prop}

theorem pure (a : α) : Throws E (Pure.pure a : App α) := Async.Triple.pure fun _ _ => trivial

theorem throw {e : Exn} (h : E e) : Throws E (MonadExcept.throw e : App α) :=
  Async.Triple.throw fun _ _ => h

theorem bind {x : App α} {f : α → App β} (h : Throws E x) (hf : ∀ a, Throws E (f a)) :
    Throws E (x >>= f) :=
  Async.Triple.bind h hf

theorem ite {p : Prop} [Decidable p] {x y : App α} (hx : Throws E x) (hy : Throws E y) :
    Throws E (if p then x else y) := Async.Triple.ite (fun _ => hx) fun _ => hy

theorem await {x : Sync α} (h : ∀ w e w', x w = .error e w' → E e) :
    Throws E (Async.await x : App α) := by
  refine Async.Triple.await (fun _ _ _ _ => trivial) fun w _ => ?_
  cases hx : x w with
  | ok a w' => trivial
  | error e w' => exact h w e w' hx

/-- An awaited operation that always returns. -/
theorem await_ok {x : Sync α} (h : ∀ w, ∃ a w', x w = .ok a w') :
    Throws E (Async.await x : App α) := by
  refine await fun w e w' hx => ?_
  obtain ⟨a, w'', ha⟩ := h w
  rw [ha] at hx
  cases hx

theorem forM {ι : Type} {f : ι → App PUnit} (h : ∀ i, Throws E (f i)) (l : List ι) :
    Throws E (l.forM f) :=
  Async.Triple.forM (I := fun _ _ => True) (fun i _ => h i) l

theorem error {x : App α} (h : Throws E x) {w w' : World} {e : Exn} (hx : x.run w = .error e w') :
    E e := by
  have hrun := Async.Triple.run h (fun _ => trivial) (s := w) trivial
  rw [hx] at hrun
  exact hrun

end Throws

/-- A call that throws nothing returns. -/
theorem Throws.returns {x : App α} (h : Throws (fun _ => False) x) (w : World) :
    ∃ a w', x.run w = .ok a w' := by
  cases hx : x.run w with
  | ok a w' => exact ⟨a, w', rfl⟩
  | error e w' => exact (h.error hx).elim

theorem throws_blacklist (env : Env) (c u : String) :
    Throws (fun _ => False) (setUserAccessTokenBlacklistCache env c u) := by
  refine (Throws.await_ok fun _ => ⟨_, _, rfl⟩).bind fun plan => Throws.forM (fun r => ?_) _
  refine (Throws.await_ok fun _ => ⟨_, _, rfl⟩).bind fun keys => Throws.forM (fun k => ?_) _
  exact Throws.ite (Throws.await_ok fun _ => ⟨_, _, rfl⟩) (Throws.pure _)

theorem throws_newAccessToken (env : Env) (c : String) (user : UserInfo) (ip : String) :
    Throws (fun _ => False) (newAccessToken env c user ip) :=
  (Throws.await_ok fun _ => ⟨_, _, rfl⟩).bind fun _ => (throws_blacklist env c user.id).bind
    fun _ => (Throws.await_ok fun _ => ⟨_, _, rfl⟩).bind fun _ => Throws.pure _

end NestUserService.Auth
