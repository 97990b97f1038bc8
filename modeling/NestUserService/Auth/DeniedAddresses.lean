import NestUserService.Auth.FailedLogin
import NestUserService.Auth.IssuedPayload
import NestUserService.Auth.RejectedLogin
import NestUserService.Auth.SecondFactor
import NestUserService.Auth.TwoFactorQr

/-!
# Requests from denied addresses

The response to a theft lists the address of the request in `IpDenylist`, and nothing takes
it off again. No handler reads the list: an address that is on it obtains tokens whenever
the checks of a handler let the request pass.
-/

namespace NestUserService.Auth.DeniedAddresses

open Lib NestUserService.Core Shared

inductive TokenRequest where
  | loginUser (cmd : LoginUserCommand)
  | login2faTrustedDeviceReg (cmd : Login2faTrustedDeviceRegCommand)
  | googleSocialCreateOrLogin (cmd : GoogleSocialCreateOrLoginCommand)
  | updateRefreshAccessToken (cmd : UpdateRefreshAccessTokenCommand)
  | refreshTokens (createdAt : String → String) (refreshToken ip : String)

namespace TokenRequest

/-- The address that the handler or the service function is given. `POST /users/auth/device`
fills it with the address of the session, not with that of the request. -/
def ip : TokenRequest → String
  | loginUser cmd => cmd.ip
  | login2faTrustedDeviceReg cmd => cmd.ip
  | googleSocialCreateOrLogin cmd => cmd.ip
  | updateRefreshAccessToken cmd => cmd.ip
  | refreshTokens _ _ ip => ip

/-- The state that the request leaves. -/
def exec (env : LoginEnv) (w : World) : TokenRequest → World
  | loginUser cmd => finalState ((Auth.loginUser env cmd).run w)
  | login2faTrustedDeviceReg cmd =>
    finalState ((Auth.login2faTrustedDeviceReg env.toEnv cmd).run w)
  | googleSocialCreateOrLogin cmd => finalState ((Auth.googleSocialCreateOrLogin env cmd).run w)
  | updateRefreshAccessToken cmd =>
    finalState ((Auth.updateRefreshAccessToken env.toEnv cmd).run w)
  | refreshTokens createdAt refreshToken ip =>
    finalState ((Auth.refreshTokens env.toEnv createdAt refreshToken ip).run w)

/-- The request is answered with tokens. -/
def obtains (env : LoginEnv) (w : World) : TokenRequest → Bool
  | loginUser cmd => (returned ((Auth.loginUser env cmd).run w)).isSome
  | login2faTrustedDeviceReg cmd =>
    (returned ((Auth.login2faTrustedDeviceReg env.toEnv cmd).run w)).isSome
  | googleSocialCreateOrLogin cmd =>
    (returned ((Auth.googleSocialCreateOrLogin env cmd).run w)).isSome
  | updateRefreshAccessToken cmd =>
    (returned ((Auth.updateRefreshAccessToken env.toEnv cmd).run w)).isSome
  | refreshTokens createdAt refreshToken ip =>
    (returned ((Auth.refreshTokens env.toEnv createdAt refreshToken ip).run w)).isSome

end TokenRequest

/-- The user and the client of a social login. -/
def SocialAdmits (client : Option Tenant.Client) : Option (User × Option Tenant.Client) → Prop
  | some (user, own) => isPaidAccount client (user, own) = .ok true ∧ user.isTwoFactorEnabled = false
  | none => ∃ c, client = some c ∧ c.isPaid = true

/-- The record is of the address, or the response to a theft goes through: its lookup of a
user by the address finds one, and the mail to that user is accepted. -/
def AddressPasses (env : Env) (w : World) (recorded : Option String) (ip : String) : Prop :=
  recorded = some ip ∨ ∃ v ∈ w.root.user.rows, v.id = ip ∧
    env.mailAccepted
      { mailTo := v.email, userName := v.name, suspiciousIp := none
        resetToken := env.uuidv4 w.draws, expireMinutes, locationText := none } = true

/-- A refresh by a cached session. -/
def CacheAdmits (env : Env) (w : World) (cmd : UpdateRefreshAccessTokenCommand) : CacheValue → Prop
  | .text _ => False
  | .payload record => record.id = cmd.userId ∧ AddressPasses env w (some record.ip) cmd.ip

/-- A refresh by a row. -/
def RowAdmits (env : Env) (w : World) (cmd : UpdateRefreshAccessTokenCommand) : Prop :=
  ∃ record, findValidRefreshToken env cmd.refreshToken w = .ok (some record) w ∧
    record.userId = cmd.userId ∧ AddressPasses env w record.ip cmd.ip ∧
    ∃ user ∈ w.root.user.rows, user.id = cmd.userId

/-- The checks of the handler let the request pass. -/
def Admits (env : LoginEnv) (w : World) : TokenRequest → Prop
  | .loginUser cmd => ∃ user own,
      findUserByEmail env cmd.email w = .ok (some (user, own)) w ∧
      comparePassword env cmd.password user.password w = .ok true w ∧
      user.verified = true ∧ user.isTwoFactorEnabled = false
  | .login2faTrustedDeviceReg _ => False
  | .googleSocialCreateOrLogin cmd => ∃ found client,
      findUserByEmail env (.string cmd.email) w = .ok found w ∧
      findByClientCode env cmd.clientCode w = .ok client w ∧ SocialAdmits client found
  | .updateRefreshAccessToken cmd =>
      match w.redis.find? w.now (refreshKey cmd.clientCode cmd.userId cmd.refreshToken.text) with
      | some value =>
        if value.truthy then CacheAdmits env.toEnv w cmd value else RowAdmits env.toEnv w cmd
      | none => RowAdmits env.toEnv w cmd
  | .refreshTokens _ refreshToken ip =>
      ∃ record user, IssuedPayload.Rotatable w refreshToken ip record user

section Passes

variable {env : LoginEnv} {w : World}

theorem loginUser_admits {cmd : LoginUserCommand} {r : LoginResponse} {w' : World}
    (h : (loginUser env cmd).run w = .ok r w') : Admits env w (.loginUser cmd) := by
  by_cases hauth : FailedLogin.Authenticates .none env cmd w
  · obtain ⟨-, -, user, own, hfind, hcompare, hverified⟩ := hauth
    refine ⟨user, own, hfind, hcompare, hverified, ?_⟩
    rw [RejectedLogin.run_loginUser env hfind hcompare hverified] at h
    by_contra h2
    have henabled : (User.info user).isTwoFactorEnabled = true := (Bool.not_eq_false _).mp h2
    exact (SecondFactor.login_without_device env.toEnv henabled cmd.ip none).value h
  · have hrun := FailedLogin.run_loginUser_error hauth
    rw [FailedLogin.loginUser_none, h] at hrun
    cases hrun

theorem googleSubject_ok {cmd : GoogleSocialCreateOrLoginCommand} {user : UserInfo} {v : World}
    (h : (IssuedPayload.googleSubject env cmd).run w = .ok user v) :
    ∃ found client, findUserByEmail env (.string cmd.email) w = .ok found w ∧
      findByClientCode env cmd.clientCode w = .ok client w ∧
      (user.isTwoFactorEnabled = false → SocialAdmits client found) := by
  have hstate := findUserByEmail_state env (.string cmd.email) w
  obtain ⟨found, w₁, hfind, hrest⟩ := Async.run_bind_ok h
  rw [Async.run_await] at hfind
  rw [hfind, finalState_ok] at hstate
  subst hstate
  obtain ⟨client, w₂, hclient, hrest⟩ := Async.run_bind_ok hrest
  rw [Async.run_await] at hclient
  cases IssuedPayload.findByClientCode_state env hclient
  refine ⟨found, client, hfind, hclient, fun h2 => ?_⟩
  cases found with
  | none =>
    have hcreate : (createSocialAccount env cmd none client).run w₁ = .ok user v := hrest
    unfold createSocialAccount at hcreate
    cases client with
    | none => cases hcreate
    | some c =>
      refine ⟨c, rfl, ?_⟩
      cases hpaid : c.isPaid with
      | true => rfl
      | false =>
        rw [show checkClient none (some c) = .error notPaid by simp [checkClient, hpaid]] at hcreate
        cases hcreate
  | some p =>
    have hheld := IssuedPayload.held_findUserByEmail env hfind
    obtain ⟨hpaid, rfl, -⟩ := IssuedPayload.socialSubject_found env hheld hrest
    exact ⟨hpaid, h2⟩

theorem google_admits {cmd : GoogleSocialCreateOrLoginCommand} {r : LoginResponse} {w' : World}
    (h : (googleSocialCreateOrLogin env cmd).run w = .ok r w') :
    Admits env w (.googleSocialCreateOrLogin cmd) := by
  rw [IssuedPayload.google_cut] at h
  obtain ⟨user, v, hsubject, hlogin⟩ := Async.run_bind_ok h
  obtain ⟨found, client, hfind, hclient, hadmits⟩ := googleSubject_ok hsubject
  refine ⟨found, client, hfind, hclient, hadmits ?_⟩
  by_contra h2
  rw [Bool.not_eq_false] at h2
  exact (SecondFactor.login_without_device env.toEnv h2 cmd.ip none).value hlogin

theorem theft_passes {userId : String} {recorded : Option String} {ip : String} {v : World}
    (h : (handleTokenTheft env.toEnv userId ip none).run w = .ok () v) :
    AddressPasses env.toEnv w recorded ip := by
  by_cases hv : ∃ v ∈ w.root.user.rows, v.id = ip
  · obtain ⟨v, hv, rfl⟩ := hv
    rw [TokenTheft.run_theft_found env.toEnv w none hv] at h
    dsimp only at h
    split at h
    · exact Or.inr ⟨v, hv, rfl, by assumption⟩
    · cases h
  · rw [TokenTheft.run_theft_missing env.toEnv w userId none fun v hm he => hv ⟨v, hm, he⟩] at h
    cases h

theorem subjectFromCache_admits {cmd : UpdateRefreshAccessTokenCommand} {value : CacheValue}
    {user : UserInfo} {v : World} (h : (subjectFromCache env.toEnv cmd value).run w = .ok user v) :
    CacheAdmits env.toEnv w cmd value := by
  cases value with
  | text s => cases h
  | payload record =>
    unfold subjectFromCache at h
    dsimp only at h
    by_cases hid : record.id = cmd.userId
    · refine ⟨hid, ?_⟩
      by_cases hip : record.ip = cmd.ip
      · exact Or.inl (congrArg some hip)
      · rw [if_neg (not_not.mpr hid), if_pos hip] at h
        obtain ⟨_, v', htheft, -⟩ := Async.run_bind_ok h
        exact theft_passes htheft
    · rw [if_pos hid] at h
      cases h

theorem subjectFromDb_admits {cmd : UpdateRefreshAccessTokenCommand} {user : UserInfo} {v : World}
    (h : (subjectFromDb env.toEnv cmd).run w = .ok user v) : RowAdmits env.toEnv w cmd := by
  have huser : ∃ user ∈ w.root.user.rows, user.id = cmd.userId := by
    obtain ⟨user, hfind, -⟩ := Option.map_eq_some_iff.mp (subjectFromDb_ok h)
    exact ⟨user, Db.findUserById_some hfind⟩
  have hstate := findValidRefreshToken_state env.toEnv cmd.refreshToken w
  unfold subjectFromDb at h
  obtain ⟨found, w₁, hfind, hrest⟩ := Async.run_bind_ok h
  rw [Async.run_await] at hfind
  rw [hfind, finalState_ok] at hstate
  subst hstate
  cases found with
  | none => cases hrest
  | some record =>
    dsimp only at hrest
    by_cases hid : record.userId = cmd.userId
    · refine ⟨record, hfind, hid, ?_, huser⟩
      by_cases hip : record.ip = some cmd.ip
      · exact Or.inl hip
      · rw [if_neg (not_not.mpr hid), if_pos hip] at hrest
        obtain ⟨_, v', htheft, -⟩ := Async.run_bind_ok hrest
        exact theft_passes htheft
    · rw [if_pos hid] at hrest
      cases hrest

theorem refresh_admits {cmd : UpdateRefreshAccessTokenCommand} {T : String} {w' : World}
    (h : (updateRefreshAccessToken env.toEnv cmd).run w = .ok T w') :
    Admits env w (.updateRefreshAccessToken cmd) := by
  rw [refresh_cut] at h
  obtain ⟨user, v, hsubject, -⟩ := Async.run_bind_ok h
  unfold refreshSubject at hsubject
  obtain ⟨found, w₁, hget, hrest⟩ := Async.run_bind_ok hsubject
  unfold getRefreshTokenCache at hget
  rw [Async.run_await] at hget
  cases hget
  unfold Admits
  dsimp only
  cases hfind : w.redis.find? w.now
      (refreshKey cmd.clientCode cmd.userId cmd.refreshToken.text) with
  | none =>
    rw [hfind] at hrest
    exact subjectFromDb_admits hrest
  | some value =>
    rw [hfind] at hrest
    dsimp only at hrest ⊢
    by_cases ht : value.truthy = true
    · rw [if_pos ht] at hrest ⊢
      exact subjectFromCache_admits hrest
    · rw [if_neg ht] at hrest ⊢
      exact subjectFromDb_admits hrest

theorem refreshTokens_admits {createdAt : String → String} {refreshToken ip : String}
    {r : LoginResponse} {w' : World}
    (h : (refreshTokens env.toEnv createdAt refreshToken ip).run w = .ok r w') :
    Admits env w (.refreshTokens createdAt refreshToken ip) := by
  rw [IssuedPayload.refreshTokens_cut] at h
  obtain ⟨user, v, hsubject, -⟩ := Async.run_bind_ok h
  obtain ⟨record, u, t, hrotatable, -, -, -⟩ := IssuedPayload.rotationSubject_ok hsubject
  exact ⟨record, u, hrotatable⟩

/-- Tokens are for requests that pass the checks. -/
theorem admits_of_obtains {r : TokenRequest} (h : r.obtains env w = true) : Admits env w r := by
  cases r with
  | loginUser cmd =>
    obtain ⟨_, _, hrun⟩ := exists_ok_of_returned h
    exact loginUser_admits hrun
  | login2faTrustedDeviceReg cmd =>
    obtain ⟨_, _, hrun⟩ := exists_ok_of_returned h
    exact (SecondFactor.login2fa_never_returns env.toEnv cmd).value hrun
  | googleSocialCreateOrLogin cmd =>
    obtain ⟨_, _, hrun⟩ := exists_ok_of_returned h
    exact google_admits hrun
  | updateRefreshAccessToken cmd =>
    obtain ⟨_, _, hrun⟩ := exists_ok_of_returned h
    exact refresh_admits hrun
  | refreshTokens createdAt refreshToken ip =>
    obtain ⟨_, _, hrun⟩ := exists_ok_of_returned h
    exact refreshTokens_admits hrun

end Passes

/-- What is on the list stays on it. -/
def KeepsListed (db db' : Db) : Prop := ∀ d ∈ db.ipDenylist.rows, d ∈ db'.ipDenylist.rows

theorem KeepsListed.refl (db : Db) : KeepsListed db db := fun _ hd => hd

theorem KeepsListed.trans {db db' db'' : Db} (h : KeepsListed db db') (h' : KeepsListed db' db'') :
    KeepsListed db db'' := fun d hd => h' d (h d hd)

theorem keepsListed_update {db db' : Db} {id : String} {data : Patch User}
    (h : db.updateUserById id data = .ok db') : KeepsListed db db' := by
  unfold Db.updateUserById at h
  split at h
  · cases h
    exact .refl db
  · cases h

theorem keepsListed_upsert (db : Db) (ip : String) : KeepsListed db (db.ipUpsert ip) := by
  intro d hd
  unfold Db.ipUpsert Table.upsertKeep
  dsimp only
  split
  · exact (Table.mem_insert _).mpr (Or.inl hd)
  · exact hd

/-- After the upsert the address is listed. -/
theorem mem_upsert (db : Db) (ip : String) : ∃ d ∈ (db.ipUpsert ip).ipDenylist.rows, d.ip = ip := by
  unfold Db.ipUpsert Table.upsertKeep
  dsimp only
  split
  · exact ⟨_, (Table.mem_insert _).mpr (Or.inr rfl), rfl⟩
  · rename_i hv
    by_contra hnone
    refine hv fun k hk d hd heq => hnone ⟨d, hd, ?_⟩
    cases List.mem_singleton.mp hk
    exact heq

theorem keepsListed_of_step {db db' : Db} (h : DbStep db db') : KeepsListed db db' := by
  cases h with
  | refreshToken t => exact .refl db
  | trustedDevice t => exact .refl db
  | ipUpsert ip => exact keepsListed_upsert db ip
  | resetPassword h => exact keepsListed_update h
  | createUser h => exact .refl db

/-- A program that takes no address off the list. -/
def Keeping {α : Type} (x : App α) : Prop :=
  Async.Guarantees (fun w w' => KeepsListed w.root w'.root) (fun _ => True) x

theorem keeping_of_onRoot {α : Type} {x : App α} (h : OnRoot x) : Keeping x :=
  guarantees_onRoot h fun _ _ => keepsListed_of_step

theorem Keeping.run {α : Type} {x : App α} (h : Keeping x) (w : World) :
    KeepsListed w.root (finalState (x.run w)).root :=
  Async.Guarantees.run h (fun w => .refl w.root) (fun _ _ _ h h' => h.trans h') w

section Calls

variable (env : TwoFactorEnv) (w : World)

theorem keeping_updateUser (id : String) (data : Patch User) :
    Keeping (Async.await (writeRoot fun db => db.updateUserById id data)) :=
  guarantees_updateUser KeepsListed.refl fun _ _ => keepsListed_update

theorem keeping_verifyOtp (cmd : VerifyTwoFactorOtpCommand) :
    Keeping (verifyTwoFactorOtp env.toEnv cmd) :=
  guarantees_verifyOtp env.toEnv cmd (fun _ _ => keepsListed_of_step) fun _ _ => keepsListed_update

theorem keeping_resetConfirm (cmd : UpdateResetPasswordConfirmCommand) :
    Keeping (updateResetPasswordConfirm env.toEnv cmd) := by
  have hfind : SameRoot (findResetPasswordValidToken env.toEnv cmd.token) :=
    sameRoot_clock.bind fun _ => sameRoot_queryRoot _
  refine Async.Guarantees.bind (keeping_of_onRoot (.await hfind.rooted)) fun user _ => ?_
  cases user with
  | none => exact Async.Guarantees.throw _
  | some user =>
    have hhash : SameRoot (hashPassword env.toEnv cmd.newPassword) := by
      cases cmd.newPassword with
      | string password => exact fun _ => rfl
      | _ => exact sameRoot_throw _
    refine Async.Guarantees.bind (keeping_of_onRoot (.await (SameRoot.rooted ?_))) fun _ _ =>
      (keeping_updateUser _ _).bind fun _ _ => Async.Guarantees.pure trivial
    refine sameRoot_clock.bind fun now => ?_
    split
    · exact (sameRoot_throw _).bind fun _ => hhash
    · exact hhash

theorem keeping_generateQr (cmd : VerifyGenerateTwoFactorQrCommand) :
    Keeping (verifyGenerateTwoFactorQr env cmd) := by
  refine Async.Guarantees.ite (fun _ => Async.Guarantees.throw _) fun _ =>
    Async.Guarantees.bind (V := fun _ => True) (Async.Guarantees.await (fun w => ?_)
      fun _ _ _ _ => trivial) fun _ _ => keeping_of_onRoot (.await (sameRoot_queryRoot _).rooted)
  rw [sync_bind, generateSecret_apply]
  dsimp only
  cases cmd.userId with
  | none => exact .refl w.root
  | some id =>
    rw [sync_bind]
    unfold setTwoFactorSecret
    dsimp only
    rw [writeRoot_apply]
    cases hup : w.root.updateUserById id (withTwoFactorSecret (env.generateSecret w.draws)) with
    | ok db =>
      have hkeep : KeepsListed w.root db := keepsListed_update hup
      exact hkeep
    | error e => exact .refl w.root

end Calls

/-- What happens in a run: requests for tokens, the other calls that reach the root
database, and the passage of time. -/
inductive Event where
  | request (request : TokenRequest)
  | login (user : UserInfo) (ip : String) (deviceToken userAgent : Option String)
  | tenantLogin (clientCode : String) (user : UserInfo) (ip : String)
      (deviceToken userAgent : Option String)
  | validate (req : Request) (payload : JwtPayload)
  | handleTokenTheft (userId suspiciousIp : String) (locationText : Option String)
  | tenantHandleTokenTheft (clientCode userId : String) (suspiciousIp locationText : Option String)
  | revokeRefreshToken (refreshToken : String)
  | verifyUserEmail (cmd : VerifyUserEmailCommand)
  | verifyTwoFactorOtp (cmd : VerifyTwoFactorOtpCommand)
  | verifyGenerateTwoFactorQr (cmd : VerifyGenerateTwoFactorQrCommand)
  | generateTwoFactorQR (req : Request) (payload : JwtPayload)
  | updateResetPasswordRequest (cmd : UpdateResetPasswordRequestCommand)
  | updateResetPasswordConfirm (cmd : UpdateResetPasswordConfirmCommand)
  | elapse (milliseconds : Nat)

namespace Event

variable (env : TwoFactorEnv) (w : World)

/-- The state that an event leaves. -/
def exec : Event → World
  | request r => r.exec env.toLoginEnv w
  | login user ip d ua => finalState ((Auth.login env.toEnv user ip d ua).run w)
  | tenantLogin c user ip d ua => finalState ((Auth.tenantLogin env.toEnv c user ip d ua).run w)
  | validate req payload => finalState ((Auth.validate env.toEnv req payload).run w)
  | handleTokenTheft u ip loc => finalState ((Auth.handleTokenTheft env.toEnv u ip loc).run w)
  | tenantHandleTokenTheft c u ip loc =>
    finalState ((Auth.tenantHandleTokenTheft env.toEnv c u ip loc).run w)
  | revokeRefreshToken token => finalState ((Auth.revokeRefreshToken token).run w)
  | verifyUserEmail cmd => finalState ((Auth.verifyUserEmail env.toEnv cmd).run w)
  | verifyTwoFactorOtp cmd => finalState ((Auth.verifyTwoFactorOtp env.toEnv cmd).run w)
  | verifyGenerateTwoFactorQr cmd => finalState ((Auth.verifyGenerateTwoFactorQr env cmd).run w)
  | generateTwoFactorQR req payload =>
    finalState ((Auth.generateTwoFactorQR env req payload).run w)
  | updateResetPasswordRequest cmd =>
    finalState ((Auth.updateResetPasswordRequest env.toLoginEnv cmd).run w)
  | updateResetPasswordConfirm cmd =>
    finalState ((Auth.updateResetPasswordConfirm env.toEnv cmd).run w)
  | elapse n => { w with now := w.now + n }

end Event

/-- Events one after the other. -/
def execAll (env : TwoFactorEnv) : List Event → World → World
  | [], w => w
  | event :: events, w => execAll env events (event.exec env w)

/-- The address is on the list. -/
def Listed (p : String) (w : World) : Prop := ∃ d ∈ w.root.ipDenylist.rows, d.ip = p

/-- A request from a listed address does not pass the checks of its handler. -/
def Turned (env : TwoFactorEnv) (w : World) : Event → Prop
  | .request r => Listed r.ip w → ¬ Admits env.toLoginEnv w r
  | _ => True

/-- So it is for every event of a run, when its turn comes. -/
def AllTurned (env : TwoFactorEnv) : List Event → World → Prop
  | [], _ => True
  | event :: events, w => Turned env w event ∧ AllTurned env events (event.exec env w)

/-- After an address is listed, no request from it obtains tokens. -/
def DeniedAreRefused (env : TwoFactorEnv) (events : List Event) (w : World) : Prop :=
  ∀ p before between r after, events = before ++ (between ++ .request r :: after) →
    Listed p (execAll env before w) → r.ip = p →
    r.obtains env.toLoginEnv (execAll env between (execAll env before w)) = false

section Runs

variable {env : TwoFactorEnv} {w : World} {p : String}

/-- The response to a theft lists the address. -/
theorem listed_theft (env : Env) (userId suspiciousIp : String) (locationText : Option String)
    (w : World) :
    Listed suspiciousIp (finalState ((handleTokenTheft env userId suspiciousIp locationText).run w)) := by
  have hlist := mem_upsert (w.root.invalidateRefreshTokens userId) suspiciousIp
  by_cases hv : ∃ v ∈ w.root.user.rows, v.id = suspiciousIp
  · obtain ⟨v, hv, rfl⟩ := hv
    rw [TokenTheft.run_theft_found env w locationText hv]
    dsimp only
    split
    · exact hlist
    · exact hlist
  · rw [TokenTheft.run_theft_missing env w userId locationText fun v hm he => hv ⟨v, hm, he⟩]
    exact hlist

theorem exec_keepsListed (env : TwoFactorEnv) (event : Event) (w : World) :
    KeepsListed w.root (event.exec env w).root := by
  have hroot {α : Type} {x : App α} (h : OnRoot x) : KeepsListed w.root (finalState (x.run w)).root :=
    (keeping_of_onRoot h).run w
  cases event with
  | request r =>
    cases r with
    | loginUser cmd => exact hroot (onRoot_loginUser env.toLoginEnv cmd)
    | login2faTrustedDeviceReg cmd => exact hroot (onRoot_login2fa env.toEnv cmd)
    | googleSocialCreateOrLogin cmd => exact hroot (onRoot_google env.toLoginEnv cmd)
    | updateRefreshAccessToken cmd => exact hroot (onRoot_refresh env.toEnv cmd)
    | refreshTokens createdAt token ip =>
      exact hroot (onRoot_refreshTokens env.toEnv createdAt token ip)
  | login user ip d ua => exact hroot (onRoot_login env.toEnv user ip d ua)
  | tenantLogin c user ip d ua => exact hroot (onRoot_tenantLogin env.toEnv c user ip d ua)
  | validate req payload => exact hroot (onRoot_validate env.toEnv req payload)
  | handleTokenTheft u ip loc => exact hroot (onRoot_theft env.toEnv u ip loc)
  | tenantHandleTokenTheft c u ip loc => exact hroot (onRoot_tenantTheft env.toEnv c u ip loc)
  | revokeRefreshToken token => exact hroot (onRoot_revoke token)
  | verifyUserEmail cmd => exact hroot (onRoot_verifyUserEmail env.toEnv cmd)
  | verifyTwoFactorOtp cmd => exact (keeping_verifyOtp env cmd).run w
  | verifyGenerateTwoFactorQr cmd => exact (keeping_generateQr env cmd).run w
  | generateTwoFactorQR req payload =>
    have hqr : Keeping (generateTwoFactorQR env req payload) :=
      (keeping_of_onRoot (onRoot_validate env.toEnv req payload)).bind fun _ _ =>
        keeping_generateQr env _
    exact hqr.run w
  | updateResetPasswordRequest cmd => exact hroot (onRoot_resetRequest env.toLoginEnv cmd)
  | updateResetPasswordConfirm cmd => exact (keeping_resetConfirm env cmd).run w
  | elapse n => exact .refl w.root

/-- A listed address stays listed. -/
theorem listed_execAll {events : List Event} (h : Listed p w) : Listed p (execAll env events w) := by
  induction events generalizing w with
  | nil => exact h
  | cons event events ih =>
    obtain ⟨d, hd, hip⟩ := h
    exact ih ⟨d, exec_keepsListed env event w d hd, hip⟩

theorem AllTurned.of_append {xs ys : List Event} (h : AllTurned env (xs ++ ys) w) :
    AllTurned env ys (execAll env xs w) := by
  induction xs generalizing w with
  | nil => exact h
  | cons x xs ih => exact ih h.2

/-- In a run in which the handlers turn down the requests from listed addresses for their
own reasons, no listed address obtains tokens. -/
theorem denied_addresses_refused {events : List Event} (h : AllTurned env events w) :
    DeniedAreRefused env events w := by
  intro p before between r after heq hlisted hip
  subst heq
  have hrequest : Turned env (execAll env between (execAll env before w)) (.request r) :=
    (h.of_append).of_append.1
  have hstill : Listed r.ip (execAll env between (execAll env before w)) := by
    rw [hip]
    exact listed_execAll hlisted
  rw [Bool.eq_false_iff]
  intro hobtains
  exact hrequest hstill (admits_of_obtains hobtains)

end Runs

/-- A refresh token of the sample user was used from another address. -/
def theft : Event := .handleTokenTheft User.sample.id "10.0.0.1" none

def passwordFrom (password ip : String) : TokenRequest :=
  .loginUser { email := .string "hong@example.com", password := .string password, ip }

theorem listed_after_theft (w : World) : Listed "10.0.0.1" (execAll .sample [theft] w) :=
  listed_theft Env.sample User.sample.id "10.0.0.1" none w

/-- The listed address guesses a password. -/
theorem denied_addresses_sample :
    AllTurned .sample [theft, .request (passwordFrom "new" "10.0.0.1")] (rotationWorld "old") ∧
    DeniedAreRefused .sample [theft, .request (passwordFrom "new" "10.0.0.1")]
      (rotationWorld "old") := by
  have hturned : AllTurned .sample [theft, .request (passwordFrom "new" "10.0.0.1")]
      (rotationWorld "old") := by
    refine ⟨trivial, fun _ => ?_, trivial⟩
    rintro ⟨user, own, hfind, hcompare, -, -⟩
    have hfound : returned (findUserByEmail LoginEnv.sample (.string "hong@example.com")
        (theft.exec .sample (rotationWorld "old"))) =
          some (some ({ User.sample with password := some "old" }, none)) := by decide +kernel
    have hsame : some (some (user, own)) = _ := (congrArg returned hfind).symm.trans hfound
    cases hsame
    exact absurd (congrArg returned hcompare) (by decide)
  exact ⟨hturned, denied_addresses_refused hturned⟩

/-- With the password it is let in. -/
theorem denied_address_logs_in :
    ¬ DeniedAreRefused .sample [theft, .request (passwordFrom "old" "10.0.0.1")]
      (rotationWorld "old") := by
  intro h
  have hrefused := h "10.0.0.1" [theft] [] (passwordFrom "old" "10.0.0.1") [] rfl
    (listed_after_theft _) rfl
  revert hrefused
  decide +kernel

end NestUserService.Auth.DeniedAddresses
