import NestUserService.Auth.Effects

/-!
# The calls and their steps

Every call of the service is contained in its reach: the tenant databases and the cache
namespaces that its arguments name.
-/

namespace NestUserService.Auth

open Lib NestUserService.Core Shared

/-- The steps of the program stay in the reach, and its exceptions are listed. -/
def Contained {α : Type} (A : Prop) (S : Reach) (x : App α) : Prop :=
  Async.Conducts (fun _ => True) (Effect S) (fun _ => True) (Listed A) x

variable {A : Prop}

namespace Contained

variable {α β : Type} {S : Reach}

theorem pure (a : α) : Contained A S (Pure.pure a) := trivial

theorem throw {e : Exn} (h : Listed A e) : Contained A S (MonadExcept.throw e : App α) := h

/-- A refusal with one of the fixed texts. -/
theorem refuse {e : Exn} (h : e ∈ httpExceptions) : Contained A S (MonadExcept.throw e : App α) :=
  fun _ _ => h

theorem bind {x : App α} {f : α → App β} (h : Contained A S x) (hf : ∀ a, Contained A S (f a)) :
    Contained A S (x >>= f) :=
  Async.Conducts.bind h fun a _ => hf a

theorem ite {c : Prop} [Decidable c] {x y : App α} (hx : Contained A S x) (hy : Contained A S y) :
    Contained A S (if c then x else y) :=
  Async.Conducts.ite (fun _ => hx) fun _ => hy

theorem await {x : Sync α} (h : Effective A S x) : Contained A S (Async.await x) :=
  Async.Conducts.await fun w _ => ⟨(h w).1, fun _ _ _ => trivial, (h w).2⟩

theorem calm {x : Sync α} (h : Calm A x) : Contained A S (Async.await x) := .await h.effective

theorem mono {S' : Reach} {x : App α} (h : Contained A S' x) (hS : S.Includes S') : Contained A S x :=
  Async.Conducts.mono h (fun _ h => h) (fun _ _ h => h.mono hS) (fun _ h => h) fun _ h => h

end Contained

theorem listed_of_mem {e : Exn} (h : e ∈ httpExceptions) : Listed A e := fun _ _ => h

section Cache

variable {S : Reach} {c : String}

theorem contained_cacheGet (key : String) : Contained A S (Async.await (cacheGet key)) :=
  .calm (calm_of_ok fun w => ⟨_, w, rfl, .refl w⟩)

theorem contained_cacheSet (hc : S.namespaces c) {key : String} {value : CacheValue} {ttl : Nat}
    (h : UserEntry c key value) : Contained A S (Async.await (cacheSet key value ttl)) := by
  refine .await fun w => ⟨⟨rfl, .keep _, fun _ => Or.inl rfl, ?_⟩, fun e w' he => by cases he⟩
  exact Or.inr (Or.inl ⟨c, key, value, ttl, hc, h, rfl⟩)

theorem contained_scanStart (env : Env) : Contained A S (Async.await (scanStart env)) :=
  .calm (calm_of_ok fun _ => ⟨_, _, rfl, rfl, rfl, rfl, rfl⟩)

theorem contained_forM {ι : Type} {f : ι → App PUnit} {l : List ι}
    (h : ∀ i ∈ l, Contained A S (f i)) : Contained A S (l.forM f) :=
  Async.Conducts.forM h

theorem contained_blacklist (env : Env) (hc : S.namespaces c) (u : String) :
    Contained A S (setUserAccessTokenBlacklistCache env c u) := by
  refine (contained_scanStart env).bind fun plan => contained_forM fun r _ => ?_
  have hscan (p : String) : Contained A S (Async.await (scan p r)) :=
    .calm (calm_of_ok fun w => ⟨_, w, rfl, .refl w⟩)
  refine (hscan _).bind fun keys => contained_forM fun k _ => .ite ?_ (.pure _)
  exact contained_cacheSet hc (.blacklisted u _)

/-- The keys of one reply match the pattern, so their deletion is in reach. -/
theorem contained_deleteKeys (env : Env) (hc : S.namespaces c) {u pattern : String}
    (h : ∀ k, Glob.isMatch pattern k = true → ClearDel c u k) :
    Contained A S (deleteKeysByPattern env pattern) := by
  refine (contained_scanStart env).bind fun plan => contained_forM fun r _ => ?_
  have hscan : Async.Conducts (fun _ => True) (Effect S)
      (fun keys => ∀ k ∈ keys, Glob.isMatch pattern k = true) (Listed A)
      (Async.await (scan pattern r)) := by
    refine Async.Conducts.await fun w _ => ⟨Undisturbed.effect (.refl w), fun keys w' he => ?_,
      fun e w' he => by cases he⟩
    cases he
    exact fun k hk => (Bool.and_eq_true_iff.mp (List.mem_filter.mp hk).2).2
  refine Async.Conducts.bind hscan fun keys hkeys => contained_forM fun k hk => ?_
  refine .await fun w => ⟨⟨rfl, .keep _, fun _ => Or.inl rfl, ?_⟩, fun e w' he => by cases he⟩
  exact Or.inr (Or.inr ⟨c, u, k, hc, h k (hkeys k hk), rfl⟩)

theorem contained_clear (env : Env) (hc : S.namespaces c) (u : String) :
    Contained A S (clearUserAllTokenCaches env c u) :=
  (contained_deleteKeys env hc fun _ h => Or.inl h).bind fun _ =>
    contained_deleteKeys env hc fun _ h => Or.inr h

theorem contained_setAccess (env : Env) (hc : S.namespaces c) (p : TokenCachePayload)
    (token : String) (ttl : Option Nat) :
    Contained A S (setUserAccessTokenCache env c p.id token (.payload p) ttl) :=
  contained_cacheSet hc (@UserEntry.payload c .access (by decide) p token)

theorem contained_setAll (env : Env) (hc : S.namespaces c) (p : TokenCachePayload)
    (accessToken refreshToken : String) (deviceToken : Option String) (ttl : Option Nat) :
    Contained A S (setUserAllTokenCache env c p.id accessToken refreshToken (.payload p) deviceToken
      ttl) := by
  refine (contained_setAccess env hc p accessToken ttl).bind fun _ => Contained.bind ?_ fun _ => ?_
  · exact contained_cacheSet hc (@UserEntry.payload c .refresh (by decide) p refreshToken)
  · cases deviceToken with
    | none => exact .pure _
    | some device =>
      have hdevice := @UserEntry.payload c .device (by decide) p device
      exact .ite (contained_cacheSet hc hdevice) (.pure _)

end Cache

section Statements

variable {S : Reach}

theorem effective_always {f : Db → Db} (h : ∀ db, Statement db (f db)) :
    Effective A S (writeRoot fun db => .ok (f db)) := by
  refine effective_writeRoot (fun db db' he => ?_) fun db e he => by cases he
  cases he
  exact h db

theorem listed_updateUserById {db : Db} {id : String} {data : Patch User} {e : Exn}
    (h : db.updateUserById id data = .error e) : Listed A e := by
  unfold Db.updateUserById at h
  split at h
  · cases h
  · cases h
    exact listed_of_not_http rfl

theorem listed_updateUserByEmail {db : Db} {email : String} {data : Patch User} {e : Exn}
    (h : db.updateUserByEmail email data = .error e) : Listed A e := by
  unfold Db.updateUserByEmail at h
  split at h
  · cases h
  · cases h
    exact listed_of_not_http rfl

theorem listed_createRefreshToken {db : Db} {row : RefreshToken} {e : Exn}
    (h : db.createRefreshToken row = .error e) : Listed A e := by
  obtain ⟨code, rfl⟩ := Db.createRefreshToken_error h
  exact listed_of_not_http rfl

theorem listed_createTrustedDevice {db : Db} {row : TrustedDevice} {e : Exn}
    (h : db.createTrustedDevice row = .error e) : Listed A e := by
  obtain ⟨code, rfl⟩ := Db.createTrustedDevice_error h
  exact listed_of_not_http rfl

theorem effective_updateUser (id : String) {data : Patch User} (h : UserUpdate data) :
    Effective A S (writeRoot fun db => db.updateUserById id data) :=
  effective_writeRoot (fun _ _ => statement_updateUserById h) fun _ _ => listed_updateUserById

theorem effective_createRefreshToken (row : RefreshToken) :
    Effective A S (writeRoot fun db => db.createRefreshToken row) :=
  effective_writeRoot (fun _ _ h => .createRefreshToken h) fun _ _ => listed_createRefreshToken

theorem effective_createTrustedDevice (row : TrustedDevice) :
    Effective A S (writeRoot fun db => db.createTrustedDevice row) :=
  effective_writeRoot (fun _ _ h => .createTrustedDevice h) fun _ _ => listed_createTrustedDevice

theorem whereString_error {env : Env} {nullable : Bool} {arg : Arg} {e : Exn}
    (h : whereString env nullable arg = .error e) : e = .prismaValidation := by
  cases arg with
  | undefined => cases h
  | null =>
    cases nullable with
    | true => cases h
    | false =>
      cases h
      rfl
  | string s => cases h
  | object o =>
    unfold whereString at h
    dsimp only at h
    split at h
    · cases h
    · cases h
      rfl
  | other t =>
    cases h
    rfl

theorem listed_whereString {α : Type} {env : Env} {nullable : Bool} {arg : Arg} {e : Exn}
    {f : (Option String → Bool) → α} (h : (whereString env nullable arg).map f = .error e) :
    Listed A e := by
  cases hw : whereString env nullable arg with
  | ok filter =>
    rw [hw] at h
    cases h
  | error e' =>
    rw [hw] at h
    cases h
    rw [whereString_error hw]
    exact listed_of_not_http rfl

end Statements

section Service

variable (env : Env) {S : Reach}

theorem contained_invalidate (u : String) : Contained A S (invalidateUserTokens u) :=
  .await (effective_always fun db => .invalidate db _)

theorem contained_revoke (token : String) : Contained A S (revokeRefreshToken token) :=
  .await (effective_always fun db => .invalidate db _)

theorem contained_notify (c u : String) (ip loc : Option String) :
    Contained A S (notifySecurityTeam env c u ip loc) := by
  refine (Contained.calm (calm_sendMessage _)).bind fun _ =>
    (Contained.calm (calm_readRoot _)).bind fun user => Contained.bind (.await ?_) fun token => ?_
  · exact .after (calm_uuidv4 env) fun token => .after calm_clock fun now =>
      .before (effective_updateUser u (.resetPassword token _)) fun _ => calm_pure _
  · cases user with
    | none => exact .pure _
    | some user => exact .calm (calm_sendSecurityAlertEmail env _)

theorem contained_theft (u ip : String) (loc : Option String) :
    Contained A S (handleTokenTheft env u ip loc) :=
  (contained_invalidate u).bind fun _ =>
    (Contained.await (effective_always fun db => .ipUpsert db ip)).bind fun _ =>
      contained_notify env _ _ _ _

theorem effective_registerDevice (u ip : String) (ua : Option String) (now : Nat) :
    Effective A S (registerDevice env u ip ua now) :=
  .after (calm_uuidv4 env) fun _ =>
    .before (effective_createTrustedDevice _) fun _ => calm_pure _

theorem listed_nullProperty (property : String) : Listed A (nullProperty property) :=
  listed_of_not_http rfl

theorem contained_device (u : String) (d : Option String) (ip : String) (ua : Option String) :
    Contained A S (validateOrRegisterDevice env u d ip ua) := by
  refine .ite (Contained.bind ?_ fun found => ?_)
    (.await (.after calm_clock fun now => effective_registerDevice env u ip ua now))
  · exact .calm (calm_clock.bind fun _ => (calm_readRoot _).bind fun _ => calm_pure _)
  · obtain ⟨now, info⟩ := found
    cases info with
    | none => exact .throw (listed_nullProperty _)
    | some info =>
      refine .ite ?_ (.ite (.pure _) (.await (effective_registerDevice env u ip ua now)))
      exact (contained_theft env u ip _).bind fun _ =>
        .refuse (by simp [httpExceptions])

theorem contained_generateTokens (hroot : S.namespaces rootLoginClientCacheValue) (user : UserInfo)
    (ip : String) : Contained A S (generateTokens env user ip) := by
  have hmint : Calm A (mint env user) :=
    calm_clock.bind fun _ => (calm_uuidv4 env).bind fun _ => calm_pure _
  refine Contained.bind (.await (.after hmint fun m =>
    .before (effective_createRefreshToken _) fun _ => calm_pure _)) fun m => ?_
  exact (contained_setAll env hroot ⟨user, ip, m.issuedAt⟩ _ _ _ _).bind fun _ => .pure _

theorem contained_gatedLogin {message : String} {user : UserInfo} {d : Option String}
    {device : App String} {generate : App LoginResponse} (hdevice : Contained A S device)
    (hgenerate : Contained A S generate) :
    Contained A S (gatedLogin message user d device generate) :=
  (Contained.calm (calm_sendMessage _)).bind fun _ =>
    .ite (.refuse (by simp [httpExceptions]))
      (.ite (hdevice.bind fun _ => hgenerate) hgenerate)

theorem contained_login (hroot : S.namespaces rootLoginClientCacheValue) (user : UserInfo)
    (ip : String) (d ua : Option String) : Contained A S (login env user ip d ua) := by
  rw [login_eq, loginRest_gated]
  exact (contained_invalidate user.id).bind fun _ => (contained_blacklist env hroot _).bind fun _ =>
    (contained_clear env hroot _).bind fun _ =>
      contained_gatedLogin (contained_device env _ _ _ _) (contained_generateTokens env hroot user ip)

theorem contained_getTenantClient (c : String) : Contained A S (Async.await (getTenantClient c)) :=
  .calm (calm_getTenantClient c)

theorem contained_tenantInvalidate {c : String} (hc : S.databases c) (u : String) :
    Contained A S (tenantInvalidatePreviousRefreshTokens c u) := by
  refine (contained_getTenantClient c).bind fun _ =>
    .await (effective_writeTenant hc (fun db db' h => ?_) fun db e h => by cases h)
  cases h
  exact .invalidate db _

theorem contained_tenantTheft {c : String} (hc : S.databases c) (u : String)
    (ip loc : Option String) : Contained A S (tenantHandleTokenTheft env c u ip loc) := by
  refine (contained_tenantInvalidate hc u).bind fun _ => Contained.bind ?_ fun _ =>
    contained_notify env _ _ _ _
  refine (contained_getTenantClient c).bind fun _ => .await (effective_writeTenant hc ?_ ?_)
  · intro db db' h
    cases ip with
    | none => cases h
    | some ip =>
      cases h
      exact .ipUpsert db ip
  · intro db e h
    cases ip with
    | none =>
      cases h
      exact listed_of_not_http rfl
    | some ip => cases h

theorem contained_tenantRegisterDevice {c : String} (hc : S.databases c) (u : String)
    (ip ua : Option String) (now : Nat) :
    Contained A S (tenantRegisterDevice env c u ip ua now) := by
  refine (Contained.calm ((calm_uuidv4 env).bind fun _ => (calm_getTenantClient c).bind fun _ =>
    calm_pure _)).bind fun token => Contained.bind (.await ?_) fun _ => .pure _
  exact effective_writeTenant hc (fun _ _ h => .createTrustedDevice h)
    fun _ _ => listed_createTrustedDevice

theorem contained_tenantDevice {c : String} (hc : S.databases c) (u : String)
    (d ip ua : Option String) : Contained A S (tenantValidateOrRegisterDevice env c u d ip ua) := by
  refine .ite (Contained.bind (.calm (calm_clock.bind fun _ => (calm_getTenantClient c).bind fun _ =>
    calm_pure _)) fun now => ?_) ((Contained.calm calm_clock).bind fun now =>
      contained_tenantRegisterDevice env hc u ip ua now)
  refine (Contained.calm (calm_readTenant c _)).bind fun info => ?_
  cases info with
  | none => exact .throw (listed_nullProperty _)
  | some info =>
    refine .ite ?_ (.ite (.pure _) (contained_tenantRegisterDevice env hc u ip ua now))
    exact (contained_tenantTheft env hc u ip _).bind fun _ =>
      .refuse (by simp [httpExceptions])

theorem contained_tenantGenerateTokens {c : String} (hc : S.databases c) (hns : S.namespaces c)
    (user : UserInfo) (ip : String) : Contained A S (tenantGenerateTokens env c user ip) := by
  have hmint : Calm A (mint env user) :=
    calm_clock.bind fun _ => (calm_uuidv4 env).bind fun _ => calm_pure _
  refine (Contained.calm (hmint.bind fun _ => (calm_getTenantClient c).bind fun _ =>
    calm_pure _)).bind fun m => Contained.bind (.await ?_) fun _ => ?_
  · exact effective_writeTenant hc (fun _ _ h => .createRefreshToken h)
      fun _ _ => listed_createRefreshToken
  · exact (contained_setAll env hns ⟨user, ip, m.issuedAt⟩ _ _ _ _).bind fun _ => .pure _

/-- The shifted call of the device check takes the user id for the client code. -/
theorem contained_tenantLogin {c : String} (hc : S.databases c) (hns : S.namespaces c)
    (user : UserInfo) (ip : String) (d ua : Option String)
    (hid : user.isTwoFactorEnabled = true → truthy d = true → S.databases user.id) :
    Contained A S (tenantLogin env c user ip d ua) := by
  rw [LoginSimulation.tenantLogin_eq, tenantLoginRest_gated]
  refine (contained_tenantInvalidate hc user.id).bind fun _ =>
    (contained_blacklist env hns _).bind fun _ => (contained_clear env hns _).bind fun _ =>
      (Contained.calm (calm_sendMessage _)).bind fun _ => ?_
  have hgenerate : Contained A S (tenantGenerateTokens env c user ip) :=
    contained_tenantGenerateTokens env hc hns user ip
  have hthrow : Contained A S (MonadExcept.throw deviceTokenMissing : App LoginResponse) :=
    .refuse (by simp [httpExceptions])
  by_cases htwo : user.isTwoFactorEnabled = true
  · by_cases hd : truthy d = true
    · simp only [htwo, hd, Bool.not_true, Bool.and_false, Bool.false_eq_true, if_false, if_true]
      exact (contained_tenantDevice env (hid htwo hd) _ _ _ _).bind fun _ => hgenerate
    · simp only [htwo, hd, Bool.not_false, Bool.and_true, if_true]
      exact hthrow
  · simp only [htwo, Bool.false_and, Bool.false_eq_true, if_false]
    exact hgenerate

end Service

section Handlers

variable (env : Env) {S : Reach}

theorem contained_validate (req : Request) (payload : JwtPayload)
    (hc : S.namespaces (req.tenantId.getD "undefined")) : Contained A S (validate env req payload) := by
  have hdb (T ip : String) :
      Contained A S (validateFromDb env (req.tenantId.getD "undefined") T ip payload) := by
    refine (Contained.calm (calm_readRoot _)).bind fun info => ?_
    cases info with
    | none => exact .refuse (by simp [httpExceptions])
    | some info =>
      refine (Contained.calm calm_clock).bind fun issuedAt => ?_
      cases info.2.find? fun t => t.isValid with
      | none =>
        exact (contained_setAccess env hc ⟨User.info info.1, ip, issuedAt⟩ T none).bind
          fun _ => .pure _
      | some r =>
        exact (contained_setAll env hc ⟨User.info info.1, ip, issuedAt⟩ T r.token none none).bind
          fun _ => .pure _
  refine .ite (.refuse (by simp [httpExceptions])) ?_
  cases req.accessToken with
  | none => exact .refuse (by simp [httpExceptions])
  | some accessToken =>
    refine .ite (.refuse (by simp [httpExceptions]))
      (Contained.bind ((contained_cacheGet _).bind fun _ => .pure _) fun b =>
        .ite (.refuse (by simp [httpExceptions]))
          ((contained_cacheGet _).bind fun found => ?_))
    cases found with
    | none => exact hdb _ _
    | some value => exact .ite (.pure _) (hdb _ _)

theorem contained_newAccessToken {c : String} (hc : S.namespaces c) (user : UserInfo) (ip : String) :
    Contained A S (newAccessToken env c user ip) := by
  have hpayload : Async.Conducts (fun _ => True) (Effect S)
      (fun p : TokenCachePayload × String => p.1.id = user.id) (Listed A) (Async.await (do
        let now ← clock
        let cachePayload : TokenCachePayload :=
          { id := user.id, name := user.name, email := user.email, clientId := user.clientId
            isTwoFactorEnabled := user.isTwoFactorEnabled, ip, issuedAt := now }
        return (cachePayload, env.sign (.session cachePayload) (now / 1000)))) := by
    refine Async.Conducts.await fun w _ => ⟨Undisturbed.effect (.refl w), fun p w' he => ?_,
      fun e w' he => by cases he⟩
    cases he
    rfl
  refine Async.Conducts.bind hpayload fun p hp => ?_
  refine Contained.bind (contained_blacklist env hc _) fun _ => Contained.bind ?_ fun _ => .pure _
  rw [← hp]
  exact contained_setAccess env hc p.1 p.2 none

theorem contained_refresh (cmd : UpdateRefreshAccessTokenCommand) (hc : S.namespaces cmd.clientCode) :
    Contained A S (updateRefreshAccessToken env cmd) := by
  have hdb : Contained A S (subjectFromDb env cmd) := by
    have hfind : Calm A (findValidRefreshToken env cmd.refreshToken) :=
      calm_clock.bind fun _ => calm_queryRoot fun _ _ => listed_whereString
    refine (Contained.calm hfind).bind fun record => ?_
    cases record with
    | none => exact .refuse (by simp [httpExceptions])
    | some record =>
      refine .ite (.refuse (by simp [httpExceptions]))
        (.ite ((contained_theft env _ _ _).bind fun _ => ?_) ?_)
      all_goals
        refine (Contained.calm (calm_readRoot _)).bind fun user => ?_
        cases user with
        | none => exact .refuse (by simp [httpExceptions])
        | some user => exact .pure _
  have hcache (value : CacheValue) : Contained A S (subjectFromCache env cmd value) := by
    cases value with
    | text s => exact .refuse (by simp [httpExceptions])
    | payload p =>
      exact .ite (.refuse (by simp [httpExceptions]))
        (.ite ((contained_theft env _ _ _).bind fun _ => .pure _) (.pure _))
  rw [refresh_cut]
  refine Contained.bind ((contained_cacheGet _).bind fun found => ?_) fun user =>
    contained_newAccessToken env hc user _
  cases found with
  | none => exact hdb
  | some value => exact .ite (hcache value) hdb

theorem effective_registerTrustedDevice (userId deviceName ip userAgent : String) :
    Effective A S (registerTrustedDevice env userId deviceName ip userAgent) :=
  .after (calm_uuidv4 env) fun _ => .after calm_clock fun _ =>
    .before (effective_createTrustedDevice _) fun _ => calm_pure _

theorem contained_verifyOtp (cmd : VerifyTwoFactorOtpCommand) :
    Contained A S (verifyTwoFactorOtp env cmd) := by
  refine (Contained.calm (calm_readRoot _)).bind fun user => ?_
  cases user with
  | none => exact .refuse (by simp [httpExceptions])
  | some user =>
    exact .ite (.refuse (by simp [httpExceptions]))
      (.ite (.refuse (by simp [httpExceptions]))
        ((Contained.await (effective_updateUser _ .twoFactorEnabled)).bind fun _ =>
          .await (effective_registerTrustedDevice env _ _ _ _)))

theorem contained_login2fa (hroot : S.namespaces rootLoginClientCacheValue)
    (cmd : Login2faTrustedDeviceRegCommand) : Contained A S (login2faTrustedDeviceReg env cmd) := by
  refine (Contained.calm (calm_readRoot _)).bind fun user => ?_
  cases user with
  | none => exact .refuse (by simp [httpExceptions])
  | some user =>
    exact .ite (.refuse (by simp [httpExceptions]))
      (.ite (.refuse (by simp [httpExceptions]))
        ((Contained.await (effective_registerTrustedDevice env _ _ _ _)).bind fun _ =>
          (contained_login env hroot _ _ _ _).bind fun _ => .pure _))

theorem calm_hashPassword (password : Arg) : Calm A (hashPassword env password) := by
  cases password with
  | string s => exact calm_of_ok fun _ => ⟨_, _, rfl, rfl, rfl, rfl, rfl⟩
  | _ => exact calm_throw (listed_of_not_http rfl)

/-- The second look at the expiry, and the hash. -/
theorem calm_checkedHash (user : User) (newPassword : Arg) : Calm A (do
    let now ← clock
    if user.resetPasswordExpires.getD 0 < now then
      throw invalidResetToken
    hashPassword env newPassword) := by
  refine calm_clock.bind fun now => ?_
  split
  · exact (calm_throw (listed_of_mem (by simp [httpExceptions]))).bind fun _ =>
      calm_hashPassword env _
  · exact calm_hashPassword env _

theorem contained_resetConfirm (cmd : UpdateResetPasswordConfirmCommand) :
    Contained A S (updateResetPasswordConfirm env cmd) := by
  have hfind : Calm A (findResetPasswordValidToken env cmd.token) :=
    calm_clock.bind fun _ => calm_queryRoot fun _ _ => listed_whereString
  refine (Contained.calm hfind).bind fun user => ?_
  cases user with
  | none => exact .refuse (by simp [httpExceptions])
  | some user =>
    exact (Contained.calm (calm_checkedHash env user cmd.newPassword)).bind fun hashedPassword =>
      (Contained.await (effective_updateUser _ (.password hashedPassword))).bind fun _ => .pure _

theorem listed_decryptClientCode {encrypted : Arg} {e : Exn}
    (haes : A → ∀ iv data e, env.aesDecrypt iv data = .error e → e.isHttp = false)
    (h : decryptClientCode env encrypted = .error e) : Listed A e := by
  cases encrypted with
  | string s => exact fun ha => listed_of_not_http (haes ha _ _ _ h) trivial
  | _ =>
    cases h
    exact listed_of_not_http rfl

/-- A login without a device token stays with the database of its client code. -/
theorem contained_verifyUserEmail (cmd : VerifyUserEmailCommand)
    (haes : A → ∀ iv data e, env.aesDecrypt iv data = .error e → e.isHttp = false)
    (hc : ∀ c, decryptClientCode env cmd.encryptedClientCode = .ok c →
      S.databases c ∧ S.namespaces c) : Contained A S (verifyUserEmail env cmd) := by
  unfold verifyUserEmail
  cases hcode : decryptClientCode env cmd.encryptedClientCode with
  | error e => exact .throw (listed_decryptClientCode env haes hcode)
  | ok c =>
    obtain ⟨hdb, hns⟩ := hc c hcode
    refine Contained.bind ((contained_getTenantClient c).bind fun _ =>
      .calm (calm_queryTenant c fun db e h => listed_whereString h)) fun user => ?_
    cases user with
    | none => exact .refuse (by simp [httpExceptions])
    | some user =>
      refine .ite (.refuse (by simp [httpExceptions])) (Contained.bind ?_ fun _ =>
        contained_tenantLogin env hdb hns _ _ _ _ fun _ h => by cases h)
      exact (contained_getTenantClient c).bind fun _ => .await (effective_writeTenant hdb
        (fun _ _ => statement_updateUserByEmail .verified) fun _ _ => listed_updateUserByEmail)

theorem contained_refreshTokens (hroot : S.namespaces rootLoginClientCacheValue)
    (createdAt : String → String) (refreshToken ip : String) :
    Contained A S (refreshTokens env createdAt refreshToken ip) := by
  refine (Contained.calm (calm_readRoot _)).bind fun record => ?_
  cases record with
  | none => exact .refuse (by simp [httpExceptions])
  | some record =>
    refine .ite (.refuse (by simp [httpExceptions]))
      ((Contained.calm calm_clock).bind fun now => .ite ?_ (.ite ?_ ?_))
    · exact (contained_invalidate _).bind fun _ => .refuse (by simp [httpExceptions])
    · exact (contained_theft env _ _ _).bind fun _ =>
        .refuse (by simp [httpExceptions])
    · refine Contained.bind (.await (effective_writeRoot (fun _ _ => statement_spend) ?_)) fun _ =>
        (Contained.calm (calm_readRoot _)).bind fun user => ?_
      · intro db e h
        unfold spendRefreshToken at h
        split at h
        · cases h
        · cases h
          exact listed_of_not_http rfl
      · cases user with
        | none => exact .calm ((calm_uuidv4 env).bind fun _ => calm_throw (listed_nullProperty _))
        | some user => exact contained_generateTokens env hroot _ _

end Handlers

section LoginHandlers

variable (env : LoginEnv) {S : Reach}

theorem calm_findUserByEmail (email : Arg) : Calm A (findUserByEmail env email) :=
  calm_clock.bind fun _ => calm_queryRoot fun _ _ => listed_whereString

theorem calm_comparePassword (password : Arg) (hash : Option String) :
    Calm A (comparePassword env password hash) := by
  intro w
  rw [comparePassword_state]
  refine ⟨.refl w, fun e w' h => ?_⟩
  cases password <;> cases hash <;> cases h <;> exact listed_of_not_http rfl

theorem contained_loginUser (hroot : S.namespaces rootLoginClientCacheValue)
    (cmd : LoginUserCommand) : Contained A S (loginUser env cmd) := by
  have hwrong : Listed A wrongCredentials := listed_of_mem (by simp [httpExceptions])
  have hchecks : Contained A S (loginUserChecks env cmd) := by
    refine (Contained.calm (calm_findUserByEmail env _)).bind fun user => ?_
    cases user with
    | none => exact .throw (listed_nullProperty _)
    | some user =>
      exact (Contained.calm (calm_comparePassword env _ _)).bind fun _ => .ite (.throw hwrong)
        (.ite (.refuse (by simp [httpExceptions]))
          ((contained_invalidate user.1.id).bind fun _ => .pure _))
  exact Contained.bind (Async.Conducts.handle hchecks fun _ _ => hwrong) fun user =>
    contained_login env.toEnv hroot user _ _ _

theorem listed_checkClient {user : Option (User × Option Tenant.Client)}
    {client : Option Tenant.Client} {e : Exn} (h : checkClient user client = .error e) :
    Listed A e := by
  unfold checkClient at h
  cases client with
  | none =>
    cases h
    exact listed_of_mem (by simp [httpExceptions])
  | some client =>
    dsimp only at h
    split at h
    · split at h
      · cases h
        exact listed_of_mem (by simp [httpExceptions])
      · cases h
    · cases h
      exact listed_nullProperty _
    · split at h
      · cases h
        exact listed_of_mem (by simp [httpExceptions])
      · split at h
        · cases h
          exact listed_of_mem (by simp [httpExceptions])
        · cases h

theorem contained_createSocialAccount (cmd : GoogleSocialCreateOrLoginCommand)
    (user : Option (User × Option Tenant.Client)) (client : Option Tenant.Client) :
    Contained A S (createSocialAccount env cmd user client) := by
  unfold createSocialAccount
  cases hcheck : checkClient user client with
  | error e =>
    exact .throw (listed_checkClient hcheck)
  | ok client =>
    refine Contained.bind (.calm (calm_of_ok fun _ => ⟨_, _, rfl, rfl, rfl, rfl, rfl⟩)) fun row =>
      Contained.bind (.await (.after calm_clock fun now => effective_writeRoot ?_ ?_)) fun _ => .pure _
    · intro db db' h
      obtain ⟨hv, -, rfl⟩ := createSocialUserRow_ok h
      exact .createUser (Table.create_of_vacant hv)
    · intro db e h
      obtain ⟨code, rfl⟩ := createSocialUserRow_error h
      exact listed_of_not_http rfl

theorem contained_google (hroot : S.namespaces rootLoginClientCacheValue)
    (cmd : GoogleSocialCreateOrLoginCommand) :
    Contained A S (googleSocialCreateOrLogin env cmd) := by
  have hclient : Calm A (findByClientCode env cmd.clientCode) := by
    cases cmd.clientCode with
    | string code => exact calm_clock.bind fun _ => calm_pure _
    | _ => exact calm_throw (listed_of_not_http rfl)
  refine (Contained.calm (calm_findUserByEmail env _)).bind fun user =>
    (Contained.calm hclient).bind fun client => ?_
  have hcreate : Contained A S (do
      let userInfo ← createSocialAccount env cmd user client
      login env.toEnv userInfo cmd.ip none none) :=
    (contained_createSocialAccount env cmd user client).bind fun _ =>
      contained_login env.toEnv hroot _ _ _ _
  cases user with
  | none => exact hcreate
  | some p =>
    cases hacc : isPaidAccount client p with
    | error e =>
      have hmap : Option.mapM (isPaidAccount client) (some p) = .error e := by
        change (isPaidAccount client p >>= fun b => pure (some b)) = _
        rw [hacc]
        rfl
      rw [hmap]
      refine .throw ?_
      unfold isPaidAccount at hacc
      dsimp only at hacc
      split at hacc
      · split at hacc
        · cases hacc
        · cases hacc
          exact listed_nullProperty _
      · cases hacc
    | ok b =>
      have hmap : Option.mapM (isPaidAccount client) (some p) = .ok (some b) := by
        change (isPaidAccount client p >>= fun b => pure (some b)) = _
        rw [hacc]
        rfl
      rw [hmap]
      cases b with
      | false => exact hcreate
      | true => exact contained_login env.toEnv hroot _ _ _ _

theorem listed_withClient {now : Nat} {user : User} {e : Exn}
    (h : withClient env now user = .error e) : Listed A e := by
  unfold withClient at h
  split at h
  · cases h
  · cases h
    exact listed_nullProperty _

theorem listed_map {α β : Type} {x : Except Exn α} {f : α → β} {e : Exn}
    (hx : ∀ e, x = .error e → Listed A e) (h : x.map f = .error e) : Listed A e := by
  cases x with
  | ok a => cases h
  | error e' =>
    cases h
    exact hx _ rfl

theorem calm_getUserById (id : Arg) : Calm A (getUserByIdForClientAdmin env id) := by
  cases id with
  | string id =>
    refine calm_clock.bind fun now => calm_queryRoot fun db e h => ?_
    split at h
    · cases h
    · exact listed_map (fun _ => listed_withClient env) h
  | _ => exact calm_throw (listed_of_not_http rfl)

theorem calm_getUserByEmail (email : Arg) : Calm A (getUserByEmailForClientAdmin env email) := by
  cases email with
  | string email =>
    refine calm_clock.bind fun now => calm_queryRoot fun db e h => ?_
    split at h
    · cases h
      exact listed_nullProperty _
    · exact listed_map (fun _ => listed_withClient env) h
  | _ => exact calm_throw (listed_of_not_http rfl)

theorem contained_resetRequest (cmd : UpdateResetPasswordRequestCommand) :
    Contained A S (updateResetPasswordRequest env cmd) := by
  refine .ite (.refuse (by simp [httpExceptions])) (Contained.bind (.calm ?_)
    fun user => ?_)
  · split
    · exact calm_getUserById env _
    · exact calm_getUserByEmail env _
  · cases user with
    | none => exact .refuse (by simp [httpExceptions])
    | some user =>
      refine Contained.bind (.await ?_) fun _ => .pure _
      exact .after (calm_uuidv4 env.toEnv) fun token => .after calm_clock fun now =>
        .before (effective_updateUser _ (.resetPassword token _)) fun _ => calm_pure _

theorem contained_generateQr {env : TwoFactorEnv}
    (hqr : A → ∀ text e, env.toBuffer text = .error e → e.isHttp = false)
    (cmd : VerifyGenerateTwoFactorQrCommand) : Contained A S (verifyGenerateTwoFactorQr env cmd) := by
  refine .ite (.refuse (by simp [httpExceptions])) (Contained.bind (.await ?_)
    fun url => .calm (calm_queryRoot fun _ e h ha => listed_of_not_http (hqr ha _ e h) trivial))
  have hsecret : Calm A (generateSecret env cmd.email) :=
    calm_of_ok fun _ => ⟨_, _, rfl, rfl, rfl, rfl, rfl⟩
  refine .after hsecret fun p => .before ?_ fun _ => calm_pure _
  unfold setTwoFactorSecret
  cases cmd.userId with
  | none => exact (calm_throw (listed_of_not_http rfl)).effective
  | some id => exact effective_updateUser id (.twoFactorSecret _)

end LoginHandlers

section Routes

variable (env : GuardEnv) {S : Reach}

theorem tenantMiddleware_error {req : Request} {e : Exn} (h : tenantMiddleware req = .error e) :
    e = tenantHeaderMissing := by
  unfold tenantMiddleware at h
  split at h
  · cases h
  · split at h
    · cases h
    · cases h
      rfl

theorem listed_handleRequest (name : String) : Listed A (handleRequest name) := by
  unfold handleRequest
  split
  · exact listed_of_mem (by simp [httpExceptions])
  · split
    · exact listed_of_mem (by simp [httpExceptions])
    · split
      · exact listed_of_mem (by simp [httpExceptions])
      · exact listed_of_mem (by simp [httpExceptions])

theorem calm_verifyToken (req : Request) : Calm A (verifyToken env req) := by
  refine calm_clock.bind fun now => ?_
  cases verifiedPayload env req now with
  | error name => exact calm_throw (listed_handleRequest name)
  | ok payload => exact calm_pure payload

theorem contained_jwtAuthGuard (req : Request) (hc : S.namespaces (req.tenantId.getD "undefined")) :
    Contained A S (jwtAuthGuard env req) :=
  (Contained.calm (calm_verifyToken env req)).bind fun payload =>
    contained_validate env.toEnv req payload hc

theorem contained_verifyTwoFactorAuth (user : CacheValue) (otp ip userAgent : String) :
    Contained A S (verifyTwoFactorAuth env user otp ip userAgent) := by
  cases user with
  | payload p => exact contained_verifyOtp env.toEnv _
  | text s =>
    exact (Contained.calm (calm_readRoot _)).bind fun _ =>
      .ite (.refuse (by simp [httpExceptions])) (.throw (listed_of_not_http rfl))

theorem contained_getClientUserInfo (id email : Arg) :
    Contained A S (getClientUserInfo env id email) := by
  refine .ite (.refuse (by simp [httpExceptions])) (Contained.bind (.calm ?_) fun found => ?_)
  · split
    · exact calm_getUserById env.toLoginEnv _
    · exact calm_getUserByEmail env.toLoginEnv _
  · cases found with
    | none => exact .refuse (by simp [httpExceptions])
    | some found => exact .pure _

theorem calm_isClientPaid (userId : Option String) : Calm A (isClientPaidByUserInfo env userId) := by
  refine calm_clock.bind fun now => calm_queryRoot fun db e h => ?_
  split at h
  · cases h
  · split at h
    · cases h
    · cases h
      exact listed_nullProperty _

theorem contained_findOne (user : CacheValue) : Contained A S (findOne env user) := by
  have hguard : Contained A S (paidClientGuard env user) :=
    (Contained.calm (calm_isClientPaid env user.id?)).bind fun _ =>
      .ite (.refuse (by simp [httpExceptions])) (.pure _)
  exact hguard.bind fun _ => contained_getClientUserInfo env _ _

end Routes

end NestUserService.Auth
