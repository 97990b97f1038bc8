import NestUserService.Auth.IssuePaths
import NestUserService.Auth.LoginHandlers
import NestUserService.Lib.RelyGuarantee

/-!
# What the calls do to the root database

Each awaited operation makes at most one change to the root database, and there are only
five kinds of change. What survives all of them survives every call.
-/

namespace NestUserService.Auth

open Lib NestUserService.Core Shared

inductive DbStep : Db → Db → Prop
  | refreshToken (db : Db) (t : Table RefreshToken) : DbStep db { db with refreshToken := t }
  | trustedDevice (db : Db) (t : Table TrustedDevice) : DbStep db { db with trustedDevice := t }
  | ipUpsert (db : Db) (ip : String) : DbStep db (db.ipUpsert ip)
  | resetPassword {db db' : Db} {id token : String} {expires : Nat}
      (h : db.updateUserById id (withResetPassword token expires) = .ok db') : DbStep db db'
  | createUser {db : Db} {row : User} {t : Table User} (h : db.user.create row = some t) :
      DbStep db { db with user := t }

theorem DbStep.refl (db : Db) : DbStep db db := .refreshToken db db.refreshToken

def RootStep (w w' : World) : Prop := DbStep w.root w'.root

theorem RootStep.of_same {w w' : World} (h : w'.root = w.root) : RootStep w w' := by
  unfold RootStep
  rw [h]
  exact .refl _

/-- A program that changes the root database in these ways only. -/
def OnRoot {α : Type} (x : App α) : Prop := Async.Guarantees RootStep (fun _ => True) x

section Operations

variable {α β : Type}

/-- Synchronous code that leaves the root database alone. -/
def SameRoot (x : Sync α) : Prop := ∀ w, (finalState (x w)).root = w.root

/-- Synchronous code that makes one change. -/
def Rooted (x : Sync α) : Prop := ∀ w, RootStep w (finalState (x w))

theorem SameRoot.rooted {x : Sync α} (h : SameRoot x) : Rooted x := fun w => .of_same (h w)

theorem SameRoot.bind {x : Sync α} {f : α → Sync β} (hx : SameRoot x) (hf : ∀ a, SameRoot (f a)) :
    SameRoot (x >>= f) := by
  intro w
  have h := hx w
  rw [sync_bind]
  cases hxw : x w with
  | ok a w' =>
    rw [hxw] at h
    exact (hf a w').trans h
  | error e w' =>
    rw [hxw] at h
    exact h

theorem Rooted.after {x : Sync α} {f : α → Sync β} (hx : SameRoot x) (hf : ∀ a, Rooted (f a)) :
    Rooted (x >>= f) := by
  intro w
  have h := hx w
  rw [sync_bind]
  cases hxw : x w with
  | ok a w' =>
    rw [hxw, finalState_ok] at h
    have hstep := hf a w'
    unfold RootStep at hstep ⊢
    rwa [h] at hstep
  | error e w' =>
    rw [hxw] at h
    exact .of_same h

theorem Rooted.before {x : Sync α} {f : α → Sync β} (hx : Rooted x) (hf : ∀ a, SameRoot (f a)) :
    Rooted (x >>= f) := by
  intro w
  have h := hx w
  rw [sync_bind]
  cases hxw : x w with
  | ok a w' =>
    rw [hxw, finalState_ok] at h
    unfold RootStep at h ⊢
    dsimp only
    rwa [hf a w']
  | error e w' =>
    rw [hxw] at h
    exact h

theorem sameRoot_pure (a : α) : SameRoot (pure a : Sync α) := fun _ => rfl

theorem sameRoot_throw (e : Exn) : SameRoot (throw e : Sync α) := fun _ => rfl

theorem sameRoot_clock : SameRoot clock := fun _ => rfl

theorem sameRoot_uuidv4 (env : Env) : SameRoot (uuidv4 env) := fun _ => rfl

theorem sameRoot_sendMessage (m : String) : SameRoot (sendMessage m) := fun _ => rfl

theorem sameRoot_sendSecurityAlertEmail (env : Env) (m : SecurityAlertEmail) :
    SameRoot (sendSecurityAlertEmail env m) := by
  intro w
  unfold sendSecurityAlertEmail
  split <;> rfl

theorem sameRoot_readRoot (f : Db → α) : SameRoot (readRoot f) := fun _ => rfl

theorem sameRoot_queryRoot (f : Db → Except Exn α) : SameRoot (queryRoot f) := by
  intro w
  rw [queryRoot_apply]
  cases f w.root <;> rfl

theorem sameRoot_getTenantClient (c : String) : SameRoot (getTenantClient c) := by
  intro w
  unfold getTenantClient
  cases w.tenants c <;> rfl

theorem sameRoot_readTenant (c : String) (f : Db → α) : SameRoot (readTenant c f) := by
  intro w
  unfold readTenant
  cases w.tenants c <;> rfl

theorem sameRoot_writeTenant (c : String) (f : Db → Except Exn Db) :
    SameRoot (writeTenant c f) := by
  intro w
  obtain he | ⟨db, db', -, -, he⟩ := writeTenant_cases c f w
  · rw [he]
  · rw [he]
    rfl

theorem sameRoot_queryTenant (c : String) (f : Db → Except Exn α) : SameRoot (queryTenant c f) := by
  intro w
  unfold queryTenant
  cases w.tenants c with
  | none => rfl
  | some db =>
    dsimp only
    cases f db <;> rfl

theorem rooted_writeRoot {f : Db → Except Exn Db} (h : ∀ db db', f db = .ok db' → DbStep db db') :
    Rooted (writeRoot f) := by
  intro w
  rw [writeRoot_apply]
  cases hf : f w.root with
  | ok db => exact h _ _ hf
  | error e => exact .of_same rfl

end Operations

namespace OnRoot

variable {α β : Type}

theorem pure (a : α) : OnRoot (Pure.pure a) := trivial

theorem throw (e : Exn) : OnRoot (MonadExcept.throw e : App α) := trivial

theorem bind {x : App α} {f : α → App β} (h : OnRoot x) (hf : ∀ a, OnRoot (f a)) :
    OnRoot (x >>= f) :=
  Async.Guarantees.bind h fun a _ => hf a

theorem ite {c : Prop} [Decidable c] {x y : App α} (hx : OnRoot x) (hy : OnRoot y) :
    OnRoot (if c then x else y) :=
  Async.Guarantees.ite (fun _ => hx) fun _ => hy

theorem await {x : Sync α} (h : Rooted x) : OnRoot (Async.await x) :=
  Async.Guarantees.await h fun _ _ _ _ => trivial

/-- Cache programs do not touch the database. -/
theorem of_cache {P : String → CacheValue → Nat → Prop} {D : String → Prop} {x : App α}
    (h : Async.Guarantees (CacheStep P D) (fun _ => True) x) : OnRoot x :=
  Async.Guarantees.mono h (fun w w' hs => by cases hs <;> exact .of_same rfl) fun _ h => h

end OnRoot

section Service

variable (env : Env)

theorem onRoot_invalidate (u : String) : OnRoot (invalidateUserTokens u) :=
  .await (rooted_writeRoot fun db db' h => by cases h; exact .refreshToken db _)

theorem onRoot_revoke (token : String) : OnRoot (revokeRefreshToken token) :=
  .await (rooted_writeRoot fun db db' h => by cases h; exact .refreshToken db _)

theorem onRoot_notify (c u : String) (ip loc : Option String) :
    OnRoot (notifySecurityTeam env c u ip loc) := by
  refine (OnRoot.await (sameRoot_sendMessage _).rooted).bind fun _ =>
    (OnRoot.await (sameRoot_readRoot _).rooted).bind fun user => OnRoot.bind ?_ fun token => ?_
  · refine .await (.after (sameRoot_uuidv4 env) fun token => .after sameRoot_clock fun now => ?_)
    exact .before (rooted_writeRoot fun _ _ h => .resetPassword h) fun _ => sameRoot_pure _
  · cases user with
    | none => exact .pure _
    | some user => exact .await (sameRoot_sendSecurityAlertEmail env _).rooted

theorem onRoot_theft (u ip : String) (loc : Option String) :
    OnRoot (handleTokenTheft env u ip loc) := by
  refine (onRoot_invalidate u).bind fun _ => OnRoot.bind ?_ fun _ => onRoot_notify env _ _ _ _
  exact .await (rooted_writeRoot fun db db' h => by cases h; exact .ipUpsert db ip)

theorem rooted_createTrustedDevice (row : TrustedDevice) :
    Rooted (writeRoot fun db => db.createTrustedDevice row) := by
  refine rooted_writeRoot fun db db' h => ?_
  obtain ⟨hv, -, -, rfl⟩ := Db.createTrustedDevice_ok h
  exact .trustedDevice db _

theorem rooted_createRefreshToken (row : RefreshToken) :
    Rooted (writeRoot fun db => db.createRefreshToken row) := by
  refine rooted_writeRoot fun db db' h => ?_
  obtain ⟨hv, -, rfl⟩ := Db.createRefreshToken_ok h
  exact .refreshToken db _

theorem rooted_registerDevice (u ip : String) (ua : Option String) (now : Nat) :
    Rooted (registerDevice env u ip ua now) :=
  .after (sameRoot_uuidv4 env) fun _ =>
    .before (rooted_createTrustedDevice _) fun _ => sameRoot_pure _

theorem onRoot_device (u : String) (d : Option String) (ip : String) (ua : Option String) :
    OnRoot (validateOrRegisterDevice env u d ip ua) := by
  refine .ite (OnRoot.bind ?_ fun found => ?_)
    (.await (.after sameRoot_clock fun now => rooted_registerDevice env u ip ua now))
  · exact .await (sameRoot_clock.bind fun _ => (sameRoot_readRoot _).bind fun _ =>
      sameRoot_pure _).rooted
  · obtain ⟨now, info⟩ := found
    cases info with
    | none => exact .throw _
    | some info =>
      refine .ite ?_ (.ite (.pure _) (.await (rooted_registerDevice env u ip ua now)))
      exact (onRoot_theft env u ip _).bind fun _ => .throw _

theorem onRoot_generateTokens (user : UserInfo) (ip : String) :
    OnRoot (generateTokens env user ip) := by
  refine OnRoot.bind (.await (.after ?_ fun m => ?_)) fun m =>
    (OnRoot.of_cache (guarantees_setAll (D := NoDel) env _ _ _ _ _ none none)).bind fun _ => .pure _
  · exact sameRoot_clock.bind fun _ => (sameRoot_uuidv4 env).bind fun _ => sameRoot_pure _
  · exact .before (rooted_createRefreshToken _) fun _ => sameRoot_pure _

theorem onRoot_blacklist (c u : String) : OnRoot (setUserAccessTokenBlacklistCache env c u) :=
  .of_cache (guarantees_blacklist (D := NoDel) env c u)

theorem onRoot_clear (c u : String) : OnRoot (clearUserAllTokenCaches env c u) :=
  .of_cache (guarantees_clear (P := NoPut) env c u)

theorem onRoot_gatedLogin {message : String} {user : UserInfo} {d : Option String}
    {device : App String} {generate : App LoginResponse} (hdevice : OnRoot device)
    (hgenerate : OnRoot generate) : OnRoot (gatedLogin message user d device generate) :=
  (OnRoot.await (sameRoot_sendMessage _).rooted).bind fun _ =>
    .ite (.throw _) (.ite (hdevice.bind fun _ => hgenerate) hgenerate)

theorem onRoot_login (user : UserInfo) (ip : String) (d ua : Option String) :
    OnRoot (login env user ip d ua) := by
  rw [login_eq, loginRest_gated]
  exact (onRoot_invalidate user.id).bind fun _ => (onRoot_blacklist env _ _).bind fun _ =>
    (onRoot_clear env _ _).bind fun _ =>
      onRoot_gatedLogin (onRoot_device env _ _ _ _) (onRoot_generateTokens env user ip)

theorem onRoot_getTenantClient (c : String) : OnRoot (Async.await (getTenantClient c)) :=
  .await (sameRoot_getTenantClient c).rooted

theorem onRoot_writeTenant (c : String) (f : Db → Except Exn Db) :
    OnRoot (Async.await (writeTenant c f)) :=
  .await (sameRoot_writeTenant c f).rooted

theorem onRoot_tenantTheft (c u : String) (ip loc : Option String) :
    OnRoot (tenantHandleTokenTheft env c u ip loc) :=
  OnRoot.bind ((onRoot_getTenantClient c).bind fun _ => onRoot_writeTenant c _) fun _ =>
    OnRoot.bind ((onRoot_getTenantClient c).bind fun _ => onRoot_writeTenant c _) fun _ =>
      onRoot_notify env _ _ _ _

theorem onRoot_tenantRegisterDevice (c u : String) (ip ua : Option String) (now : Nat) :
    OnRoot (tenantRegisterDevice env c u ip ua now) :=
  OnRoot.bind (.await ((sameRoot_uuidv4 env).bind fun _ => (sameRoot_getTenantClient c).bind fun _ =>
    sameRoot_pure _).rooted) fun _ => (onRoot_writeTenant c _).bind fun _ => .pure _

theorem onRoot_tenantDevice (c u : String) (d ip ua : Option String) :
    OnRoot (tenantValidateOrRegisterDevice env c u d ip ua) := by
  refine .ite (OnRoot.bind (.await (sameRoot_clock.bind fun _ =>
    (sameRoot_getTenantClient c).bind fun _ => sameRoot_pure _).rooted) fun now => ?_)
    ((OnRoot.await sameRoot_clock.rooted).bind fun now =>
      onRoot_tenantRegisterDevice env c u ip ua now)
  refine (OnRoot.await (sameRoot_readTenant c _).rooted).bind fun info => ?_
  cases info with
  | none => exact .throw _
  | some info =>
    refine .ite ?_ (.ite (.pure _) (onRoot_tenantRegisterDevice env c u ip ua now))
    exact (onRoot_tenantTheft env c u ip _).bind fun _ => .throw _

theorem onRoot_tenantGenerateTokens (c : String) (user : UserInfo) (ip : String) :
    OnRoot (tenantGenerateTokens env c user ip) :=
  OnRoot.bind (.await ((sameRoot_clock.bind fun _ => (sameRoot_uuidv4 env).bind fun _ =>
    sameRoot_pure _).bind fun _ => (sameRoot_getTenantClient c).bind fun _ =>
      sameRoot_pure _).rooted) fun _ => (onRoot_writeTenant c _).bind fun _ =>
        (OnRoot.of_cache (guarantees_setAll (D := NoDel) env c _ _ _ _ none none)).bind fun _ =>
          .pure _

theorem onRoot_tenantLogin (c : String) (user : UserInfo) (ip : String) (d ua : Option String) :
    OnRoot (tenantLogin env c user ip d ua) := by
  rw [LoginSimulation.tenantLogin_eq, tenantLoginRest_gated]
  refine OnRoot.bind ((onRoot_getTenantClient c).bind fun _ => onRoot_writeTenant c _) fun _ =>
    (onRoot_blacklist env _ _).bind fun _ => (onRoot_clear env _ _).bind fun _ => ?_
  exact onRoot_gatedLogin (onRoot_tenantDevice env _ _ _ _ _)
    (onRoot_tenantGenerateTokens env c user ip)

end Service

section Handlers

variable (env : Env)

theorem onRoot_cacheGet (key : String) : OnRoot (Async.await (cacheGet key)) :=
  .of_cache (guarantees_cacheGet (P := NoPut) (D := NoDel) key)

theorem onRoot_cacheSet (key : String) (value : CacheValue) (ttl : Nat) :
    OnRoot (Async.await (cacheSet key value ttl)) :=
  .of_cache (guarantees_cacheSet (P := fun _ _ _ => True) (D := NoDel) trivial)

theorem onRoot_validate (req : Request) (payload : JwtPayload) : OnRoot (validate env req payload) := by
  have hdb (c T ip : String) : OnRoot (validateFromDb env c T ip payload) := by
    refine (OnRoot.await (sameRoot_readRoot _).rooted).bind fun info => ?_
    cases info with
    | none => exact .throw _
    | some info =>
      refine (OnRoot.await sameRoot_clock.rooted).bind fun _ => ?_
      cases info.2.find? fun t => t.isValid with
      | none => exact (onRoot_cacheSet _ _ _).bind fun _ => .pure _
      | some r => exact (OnRoot.of_cache
          (guarantees_setAll (D := NoDel) env c _ _ _ _ none none)).bind fun _ => .pure _
  refine .ite (.throw _) ?_
  cases req.accessToken with
  | none => exact .throw _
  | some accessToken =>
    refine .ite (.throw _) (OnRoot.bind ((onRoot_cacheGet _).bind fun _ => .pure _) fun b =>
      .ite (.throw _) ((onRoot_cacheGet _).bind fun found => ?_))
    cases found with
    | none => exact hdb _ _ _
    | some value => exact .ite (.pure _) (hdb _ _ _)

theorem onRoot_newAccessToken (c : String) (user : UserInfo) (ip : String) :
    OnRoot (newAccessToken env c user ip) :=
  OnRoot.bind (.await (sameRoot_clock.bind fun _ => sameRoot_pure _).rooted) fun _ =>
    (onRoot_blacklist env _ _).bind fun _ => (onRoot_cacheSet _ _ _).bind fun _ => .pure _

theorem onRoot_refreshSubject (cmd : UpdateRefreshAccessTokenCommand) :
    OnRoot (refreshSubject env cmd) := by
  have hdb : OnRoot (subjectFromDb env cmd) := by
    refine (OnRoot.await (sameRoot_clock.bind fun _ => sameRoot_queryRoot _).rooted).bind
      fun record => ?_
    cases record with
    | none => exact .throw _
    | some record =>
      refine .ite (.throw _) (.ite ((onRoot_theft env _ _ _).bind fun _ => ?_) ?_)
      all_goals
        refine (OnRoot.await (sameRoot_readRoot _).rooted).bind fun user => ?_
        cases user with
        | none => exact .throw _
        | some user => exact .pure _
  have hcache (value : CacheValue) : OnRoot (subjectFromCache env cmd value) := by
    cases value with
    | text s => exact .throw _
    | payload p => exact .ite (.throw _) (.ite ((onRoot_theft env _ _ _).bind fun _ => .pure _) (.pure _))
  refine (onRoot_cacheGet _).bind fun found => ?_
  cases found with
  | none => exact hdb
  | some value => exact .ite (hcache value) hdb

theorem onRoot_refresh (cmd : UpdateRefreshAccessTokenCommand) :
    OnRoot (updateRefreshAccessToken env cmd) := by
  rw [refresh_cut]
  exact (onRoot_refreshSubject env cmd).bind fun user => onRoot_newAccessToken env _ user _

theorem rooted_registerTrustedDevice (userId deviceName ip userAgent : String) :
    Rooted (registerTrustedDevice env userId deviceName ip userAgent) :=
  .after (sameRoot_uuidv4 env) fun _ => .after sameRoot_clock fun _ =>
    .before (rooted_createTrustedDevice _) fun _ => sameRoot_pure _

theorem onRoot_login2fa (cmd : Login2faTrustedDeviceRegCommand) :
    OnRoot (login2faTrustedDeviceReg env cmd) := by
  refine (OnRoot.await (sameRoot_readRoot _).rooted).bind fun user => ?_
  cases user with
  | none => exact .throw _
  | some user =>
    exact .ite (.throw _) (.ite (.throw _) ((OnRoot.await
      (rooted_registerTrustedDevice env _ _ _ _)).bind fun _ =>
        (onRoot_login env _ _ _ _).bind fun _ => .pure _))

theorem onRoot_verifyUserEmail (cmd : VerifyUserEmailCommand) :
    OnRoot (verifyUserEmail env cmd) := by
  unfold verifyUserEmail
  cases decryptClientCode env cmd.encryptedClientCode with
  | error e => exact .throw _
  | ok c =>
    refine OnRoot.bind ((onRoot_getTenantClient c).bind fun _ =>
      .await (sameRoot_queryTenant c _).rooted) fun user => ?_
    cases user with
    | none => exact .throw _
    | some user =>
      refine .ite (.throw _) (OnRoot.bind ?_ fun _ => onRoot_tenantLogin env c _ _ _ _)
      exact (onRoot_getTenantClient c).bind fun _ => onRoot_writeTenant c _

-- A relation that holds for the five kinds of change may hold for an update as well.

section Updates

variable {R : Db → Db → Prop}

theorem guarantees_onRoot {α : Type} {x : App α} (h : OnRoot x)
    (hstep : ∀ db db', DbStep db db' → R db db') :
    Async.Guarantees (fun w w' => R w.root w'.root) (fun _ => True) x :=
  Async.Guarantees.mono h (fun _ _ hs => hstep _ _ hs) fun _ h => h

theorem guarantees_updateUser {id : String} {data : Patch User} (hrefl : ∀ db, R db db)
    (hup : ∀ db db', db.updateUserById id data = .ok db' → R db db') :
    Async.Guarantees (fun w w' => R w.root w'.root) (fun _ => True)
      (Async.await (writeRoot fun db => db.updateUserById id data)) := by
  refine Async.Guarantees.await (fun w => ?_) fun _ _ _ _ => trivial
  rw [writeRoot_apply]
  cases h : w.root.updateUserById id data with
  | ok db => exact hup _ _ h
  | error e => exact hrefl w.root

theorem guarantees_verifyOtp (cmd : VerifyTwoFactorOtpCommand)
    (hstep : ∀ db db', DbStep db db' → R db db')
    (hup : ∀ db db', db.updateUserById cmd.userId (withTwoFactorEnabled true) = .ok db' → R db db') :
    Async.Guarantees (fun w w' => R w.root w'.root) (fun _ => True) (verifyTwoFactorOtp env cmd) := by
  have hread : OnRoot (Async.await (readRoot fun db => db.findUserById cmd.userId)) :=
    .await (sameRoot_readRoot _).rooted
  refine Async.Guarantees.bind (guarantees_onRoot hread hstep) fun user _ => ?_
  cases user with
  | none => exact Async.Guarantees.throw _
  | some user =>
    refine Async.Guarantees.ite (fun _ => Async.Guarantees.throw _) fun _ =>
      Async.Guarantees.ite (fun _ => Async.Guarantees.throw _) fun _ => ?_
    exact (guarantees_updateUser (fun db => hstep _ _ (.refl db)) hup).bind fun _ _ =>
      guarantees_onRoot (.await (rooted_registerTrustedDevice env _ _ _ _)) hstep

end Updates

end Handlers

section LoginHandlers

variable (env : LoginEnv)

theorem sameRoot_findUserByEmail (email : Arg) : SameRoot (findUserByEmail env email) := fun w => by
  rw [findUserByEmail_state]

theorem sameRoot_comparePassword (password : Arg) (hash : Option String) :
    SameRoot (comparePassword env password hash) := fun w => by
  rw [comparePassword_state]

theorem onRoot_loginUser (cmd : LoginUserCommand) : OnRoot (loginUser env cmd) := by
  refine OnRoot.bind (Async.Guarantees.handle ?_ fun _ => Async.Guarantees.throw _) fun user =>
    onRoot_login env.toEnv user _ _ _
  refine OnRoot.bind (.await (sameRoot_findUserByEmail env _).rooted) fun user => ?_
  cases user with
  | none => exact .throw _
  | some user =>
    exact OnRoot.bind (.await (sameRoot_comparePassword env _ _).rooted) fun _ =>
      .ite (.throw _) (.ite (.throw _) ((onRoot_invalidate user.1.id).bind fun _ => .pure _))

theorem onRoot_createSocialAccount (cmd : GoogleSocialCreateOrLoginCommand)
    (user : Option (User × Option Tenant.Client)) (client : Option Tenant.Client) :
    OnRoot (createSocialAccount env cmd user client) := by
  unfold createSocialAccount
  cases checkClient user client with
  | error e => exact .throw _
  | ok client =>
    refine OnRoot.bind (.await fun w => .of_same rfl) fun row => OnRoot.bind (.await ?_) fun _ => .pure _
    refine .after sameRoot_clock fun now => rooted_writeRoot fun db db' h => ?_
    obtain ⟨hv, -, rfl⟩ := createSocialUserRow_ok h
    exact .createUser (Table.create_of_vacant hv)

theorem onRoot_google (cmd : GoogleSocialCreateOrLoginCommand) :
    OnRoot (googleSocialCreateOrLogin env cmd) := by
  have hclient : SameRoot (findByClientCode env cmd.clientCode) := by
    cases cmd.clientCode with
    | string code => exact sameRoot_clock.bind fun _ => sameRoot_pure _
    | _ => exact sameRoot_throw _
  refine OnRoot.bind (.await (sameRoot_findUserByEmail env _).rooted) fun user =>
    OnRoot.bind (.await hclient.rooted) fun client => ?_
  have hcreate : OnRoot (do
      let userInfo ← createSocialAccount env cmd user client
      login env.toEnv userInfo cmd.ip none none) :=
    (onRoot_createSocialAccount env cmd user client).bind fun _ => onRoot_login env.toEnv _ _ _ _
  cases hacc : user.mapM (isPaidAccount client) with
  | error e => exact .throw _
  | ok paid =>
    cases user with
    | none => exact hcreate
    | some p =>
      cases paid with
      | none => exact hcreate
      | some b =>
        cases b with
        | false => exact hcreate
        | true => exact onRoot_login env.toEnv _ _ _ _

theorem sameRoot_withClient (cmd : UpdateResetPasswordRequestCommand) :
    SameRoot (if isTruthy cmd.id then getUserByIdForClientAdmin env cmd.id
      else getUserByEmailForClientAdmin env cmd.email) := by
  have hid : SameRoot (getUserByIdForClientAdmin env cmd.id) := by
    cases cmd.id with
    | string id => exact sameRoot_clock.bind fun _ => sameRoot_queryRoot _
    | _ => exact sameRoot_throw _
  have hemail : SameRoot (getUserByEmailForClientAdmin env cmd.email) := by
    cases cmd.email with
    | string email => exact sameRoot_clock.bind fun _ => sameRoot_queryRoot _
    | _ => exact sameRoot_throw _
  split
  · exact hid
  · exact hemail

theorem onRoot_resetRequest (cmd : UpdateResetPasswordRequestCommand) :
    OnRoot (updateResetPasswordRequest env cmd) := by
  refine .ite (.throw _) (OnRoot.bind (.await (sameRoot_withClient env cmd).rooted) fun user => ?_)
  cases user with
  | none => exact .throw _
  | some user =>
    refine OnRoot.bind (.await (.after (sameRoot_uuidv4 env.toEnv) fun token =>
      .after sameRoot_clock fun now => ?_)) fun _ => .pure _
    exact .before (rooted_writeRoot fun _ _ h => .resetPassword h) fun _ => sameRoot_pure _

theorem onRoot_refreshTokens (env : Env) (createdAt : String → String) (refreshToken ip : String) :
    OnRoot (refreshTokens env createdAt refreshToken ip) := by
  refine (OnRoot.await (sameRoot_readRoot _).rooted).bind fun record => ?_
  cases record with
  | none => exact .throw _
  | some record =>
    refine .ite (.throw _) ((OnRoot.await sameRoot_clock.rooted).bind fun now => .ite ?_ (.ite ?_ ?_))
    · exact (onRoot_invalidate _).bind fun _ => .throw _
    · exact (onRoot_theft env _ _ _).bind fun _ => .throw _
    · refine OnRoot.bind (.await (rooted_writeRoot fun db db' h => ?_)) fun _ =>
        (OnRoot.await (sameRoot_readRoot _).rooted).bind fun user => ?_
      · unfold spendRefreshToken at h
        split at h
        · cases h
          exact .refreshToken db _
        · cases h
      · cases user with
        | none => exact .await ((sameRoot_uuidv4 env).bind fun _ => sameRoot_throw _).rooted
        | some user => exact onRoot_generateTokens env _ _

end LoginHandlers

end NestUserService.Auth
