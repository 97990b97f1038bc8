import NestUserService.Auth.TwinWorlds
import NestUserService.Auth.FreshTokens

/-!
# What goes into a token

Every call that issues an access token first settles on a user object and then signs it.
Six of the seven ways there narrow the database row to the five fields of `UserInfo`;
`refreshTokens` passes the row on as it is.
-/

namespace NestUserService.Auth.IssuedPayload

open Lib NestUserService.Core Shared TwinWorlds
open FreshTokens (refreshPayload)

inductive Path where
  | loginUser (email : Arg) (ip : String)
  | login2fa (cmd : Login2faTrustedDeviceRegCommand)
  | google (cmd : GoogleSocialCreateOrLoginCommand)
  | verifyUserEmail (encryptedClientCode : Arg) (ip : String)
  | refresh (cmd : UpdateRefreshAccessTokenCommand)
  | refreshTokens (refreshToken ip : String)

/-- `Login2faTrustedDeviceRegHandler.execute` up to the call of `login`. -/
def login2faSubject (env : Env) (cmd : Login2faTrustedDeviceRegCommand) : App (UserInfo × String) := do
  let user ← Async.await (readRoot fun db => db.findUserByEmail cmd.email)
  match user with
  | none => throw twoFactorNotEnabled
  | some user =>
    if !truthy user.twoFactorSecret || !user.isTwoFactorEnabled then
      throw twoFactorNotEnabled
    let isValid : Promise Bool := ⟨isCodeValid env cmd.otp (user.twoFactorSecret.getD "")⟩
    if !isValid.truthy then
      throw wrongOtp
    let deviceToken ← Async.await (registerTrustedDevice env user.id
      (cmd.deviceName.getD "Unknown device") cmd.ip cmd.userAgent)
    return (User.info user, deviceToken)

/-- `GoogleSocialCreateOrLoginHandler.execute` up to the call of `login`. -/
def googleSubject (env : LoginEnv) (cmd : GoogleSocialCreateOrLoginCommand) : App UserInfo := do
  let user ← Async.await (findUserByEmail env (.string cmd.email))
  let client ← Async.await (findByClientCode env cmd.clientCode)
  match user.mapM (isPaidAccount client) with
  | .error e => throw e
  | .ok paid =>
    match user, paid with
    | some (user, _), some true => return User.info user
    | _, _ => createSocialAccount env cmd user client

/-- `VerifyUserEmailHandler.execute` up to the call of `tenantLogin`. -/
def verifySubject (env : Env) (clientCode : String) (signupVerifyToken : Arg) : App UserInfo := do
  let user ← tenantFindUserBySignupVerifyToken env clientCode signupVerifyToken
  match user with
  | none => throw noSuchUser
  | some user =>
    if user.verified then
      throw alreadyVerified
    tenantUpdateUserVerifiedTrue clientCode user.email
    return User.info user

/-- `refreshTokens` up to the call of `generateTokens`. -/
def rotationSubject (env : Env) (createdAt : String → String) (refreshToken ip : String) :
    App UserInfo := do
  let tokenRecord ← Async.await (readRoot fun db => findRefreshToken db refreshToken)
  match tokenRecord with
  | none => throw invalidRefreshTokenForbidden
  | some tokenRecord =>
    if !tokenRecord.isValid then
      throw invalidRefreshTokenForbidden
    let now ← Async.await clock
    if tokenRecord.expiresAt < now then
      invalidateUserTokens tokenRecord.userId
      throw refreshTokenExpired
    if tokenRecord.ip ≠ some ip then
      handleTokenTheft env tokenRecord.userId ip none
      throw tokenTheftSuspected
    Async.await (writeRoot fun db => spendRefreshToken db refreshToken)
    let user ← Async.await (readRoot fun db => db.findUserById tokenRecord.userId)
    match user with
    | none => Async.await (do
        let _ ← uuidv4 env
        throw (nullProperty "id"))
    | some user => return wholeRow createdAt user

namespace Path

variable (env : LoginEnv) (createdAt : String → String) (secret : Arg)

/-- The call, with the access token for its result. `secret` is the password or the
token of the signup mail. -/
def program : Path → App String
  | loginUser email ip => do
    let response ← Auth.loginUser env { email, password := secret, ip }
    return response.accessToken
  | login2fa cmd => do
    let response ← login2faTrustedDeviceReg env.toEnv cmd
    return response.accessToken
  | google cmd => do
    let response ← googleSocialCreateOrLogin env cmd
    return response.accessToken
  | verifyUserEmail encryptedClientCode ip => do
    let response ← Auth.verifyUserEmail env.toEnv
      { encryptedClientCode, signupVerifyToken := secret, ip }
    return response.accessToken
  | refresh cmd => updateRefreshAccessToken env.toEnv cmd
  | refreshTokens refreshToken ip => do
    let response ← Auth.refreshTokens env.toEnv createdAt refreshToken ip
    return response.accessToken

/-- The call up to the function that signs. -/
def subject : Path → App UserInfo
  | loginUser email ip =>
    (loginUserChecks env { email, password := secret, ip }).handle fun _ => throw wrongCredentials
  | login2fa cmd => do
    let subject ← login2faSubject env.toEnv cmd
    return subject.1
  | google cmd => googleSubject env cmd
  | verifyUserEmail encryptedClientCode _ =>
    match decryptClientCode env.toEnv encryptedClientCode with
    | .error e => throw e
    | .ok clientCode => verifySubject env.toEnv clientCode secret
  | refresh cmd => refreshSubject env.toEnv cmd
  | refreshTokens refreshToken ip => rotationSubject env.toEnv createdAt refreshToken ip

/-- The function that signs. -/
def issue (path : Path) (user : UserInfo) : App String :=
  match path with
  | loginUser _ ip => do
    let response ← login env.toEnv user ip none none
    return response.accessToken
  | login2fa cmd => do
    let response ← login env.toEnv user cmd.ip none none
    return response.accessToken
  | google cmd => do
    let response ← login env.toEnv user cmd.ip none none
    return response.accessToken
  | verifyUserEmail encryptedClientCode ip =>
    match decryptClientCode env.toEnv encryptedClientCode with
    | .error e => throw e
    | .ok clientCode => do
      let response ← tenantLogin env.toEnv clientCode user ip none none
      return response.accessToken
  | refresh cmd => newAccessToken env.toEnv cmd.clientCode user cmd.ip
  | refreshTokens _ ip => do
    let response ← generateTokens env.toEnv user ip
    return response.accessToken

/-- The payload that it signs. -/
def claims (path : Path) (user : UserInfo) (now : Nat) : Claims :=
  match path with
  | refresh cmd => .session (refreshPayload user cmd.ip now)
  | _ => .user user

/-- The payload that a run from `w` signs. -/
def Signs (path : Path) (w : World) (claims : Claims) : Prop :=
  ∃ user v, (path.subject env createdAt secret).run w = .ok user v ∧
    claims = path.claims user v.now

end Path

section Cut

variable (env : LoginEnv)

theorem login2fa_cut (env : Env) (cmd : Login2faTrustedDeviceRegCommand) :
    login2faTrustedDeviceReg env cmd = login2faSubject env cmd >>= fun subject => do
      let response ← login env subject.1 cmd.ip none none
      return { response with deviceToken := some subject.2 } := by
  unfold login2faTrustedDeviceReg login2faSubject
  rw [Async.bind_assoc]
  congr
  funext user
  cases user with
  | none => rfl
  | some user =>
    simp only [Async.ite_bind, Async.throw_bind, Async.bind_assoc, Async.pure_bind]

theorem google_cut (cmd : GoogleSocialCreateOrLoginCommand) :
    googleSocialCreateOrLogin env cmd = googleSubject env cmd >>= fun user =>
      login env.toEnv user cmd.ip none none := by
  unfold googleSocialCreateOrLogin googleSubject
  rw [Async.bind_assoc]
  congr
  funext user
  rw [Async.bind_assoc]
  congr
  funext client
  cases user.mapM (isPaidAccount client) with
  | error e => rfl
  | ok paid =>
    cases user with
    | none => rfl
    | some user =>
      cases paid with
      | none => rfl
      | some b => cases b <;> rfl

theorem verify_cut (env : Env) {encryptedClientCode : Arg} {clientCode : String}
    (h : decryptClientCode env encryptedClientCode = .ok clientCode) (token : Arg) (ip : String) :
    verifyUserEmail env { encryptedClientCode, signupVerifyToken := token, ip } =
      verifySubject env clientCode token >>= fun user =>
        tenantLogin env clientCode user ip none none := by
  unfold verifyUserEmail verifySubject
  dsimp only
  rw [h, Async.bind_assoc]
  dsimp only
  congr
  funext user
  cases user with
  | none => rfl
  | some user => simp only [Async.ite_bind, Async.throw_bind, Async.bind_assoc, Async.pure_bind]

theorem refreshTokens_cut (env : Env) (createdAt : String → String) (refreshToken ip : String) :
    refreshTokens env createdAt refreshToken ip =
      rotationSubject env createdAt refreshToken ip >>= fun user => generateTokens env user ip := by
  unfold refreshTokens rotationSubject rotate
  rw [Async.bind_assoc]
  congr
  funext record
  cases record with
  | none => rfl
  | some record =>
    simp only [Async.ite_bind, Async.throw_bind, Async.bind_assoc]
    congr
    funext now
    congr
    funext _
    congr
    funext user
    cases user <;> rfl

theorem program_cut (createdAt : String → String) (secret : Arg) (path : Path) :
    path.program env createdAt secret = path.subject env createdAt secret >>= path.issue env := by
  cases path with
  | loginUser email ip =>
    simp only [Path.program, Path.subject, Auth.loginUser, Async.bind_assoc]
    rfl
  | login2fa cmd =>
    simp only [Path.program, Path.subject, Path.issue, login2fa_cut, Async.bind_assoc,
      Async.pure_bind]
  | google cmd =>
    simp only [Path.program, Path.subject, google_cut, Async.bind_assoc]
    rfl
  | verifyUserEmail code ip =>
    unfold Path.program Path.subject Path.issue
    cases h : decryptClientCode env.toEnv code with
    | error e => simp [Auth.verifyUserEmail, h]
    | ok clientCode => simp only [h, verify_cut env.toEnv h, Async.bind_assoc]
  | refresh cmd => exact refresh_cut env.toEnv cmd
  | refreshTokens refreshToken ip =>
    simp only [Path.program, Path.subject, refreshTokens_cut, Async.bind_assoc]
    rfl

end Cut

section Subjects

variable (env : LoginEnv)

theorem rel_map {α β γ δ : Type} {r : α → β → Prop} {r' : γ → δ → Prop} {f : α → γ} {g : β → δ}
    {a : Option α} {b : Option β} (h : Option.Rel r a b) (hfg : ∀ x y, r x y → r' (f x) (g y)) :
    Option.Rel r' (a.map f) (b.map g) := by
  cases h with
  | none => exact Option.Rel.none
  | some hxy => exact Option.Rel.some (hfg _ _ hxy)

/-- Two users that are found come with the same client. -/
def SameAccount (p q : User × Option Tenant.Client) : Prop := SameInfo p.1 q.1 ∧ p.2 = q.2

theorem alike_findUserByEmail (email : Arg) :
    Async.Alike Twin (Async.await (findUserByEmail env email))
      (Async.await (findUserByEmail env email) : App (Option (User × Option Tenant.Client)))
      fun a b w w' => Option.Rel SameAccount a b ∧ Twin w w' := by
  refine Async.Alike.await fun w w' hw a v b v' hx hy => ?_
  simp only [findUserByEmail, sync_bind, clock_apply, queryRoot_apply, hw.now] at hx hy
  cases hfilter : whereString env.toEnv false email with
  | error e =>
    rw [hfilter] at hx
    cases hx
  | ok filter =>
    rw [hfilter] at hx hy
    cases hx
    cases hy
    have hrel := hw.root.findFirst (p := fun u => filter (some u.email))
      fun u u' huu => by rw [huu.email]
    exact ⟨rel_map hrel fun u u' huu => ⟨huu, by rw [huu.clientId]⟩, hw⟩

theorem comparePassword_ok {password : Arg} {hash : Option String} {w v : World} {b : Bool}
    (h : comparePassword env password hash w = .ok b v) : v = w := by
  have hstate := comparePassword_state env password hash w
  rwa [h, finalState_ok] at hstate

theorem alike_loginUserChecks (email secret secret' : Arg) (ip : String) :
    Async.Alike Twin (loginUserChecks env ⟨email, secret, ip⟩)
      (loginUserChecks env ⟨email, secret', ip⟩) Same := by
  refine Async.Alike.bind (alike_findUserByEmail env email) fun a b => ?_
  intro w w' hw
  obtain ⟨hrel, htwin⟩ := hw
  cases hrel with
  | none => exact Async.Alike.throw_left _ _ w w' htwin
  | @some p q hpq =>
    obtain ⟨u, c⟩ := p
    obtain ⟨u', c'⟩ := q
    have huu : SameInfo u u' := hpq.1
    refine Async.Alike.bind (Q := fun _ _ => Twin) (Async.Alike.await ?_) (fun ok ok' => ?_)
      w w' htwin
    · intro v v' hv ok t ok' t' hx hy
      rw [comparePassword_ok env hx, comparePassword_ok env hy]
      exact hv
    · refine Async.Alike.gate fun _ _ => Async.Alike.gate fun _ _ => ?_
      rw [← huu.id, ← show User.info u = User.info u' from huu]
      exact (blind_invalidate u.id).bind fun _ => Blind.pure _

theorem alike_login2faSubject (cmd : Login2faTrustedDeviceRegCommand) :
    Blind (login2faSubject env.toEnv cmd) := by
  refine Async.Alike.bind (alike_findUser fun _ _ h => h.findFirst fun u v huv => by
    rw [huv.email]) fun a b => ?_
  intro w w' hw
  obtain ⟨hrel, htwin⟩ := hw
  cases hrel with
  | none => exact Blind.throw _ w w' htwin
  | @some u u' huu =>
    refine Async.Alike.gate (fun _ _ => Async.Alike.gate fun _ _ => ?_) w w' htwin
    rw [← huu.id, ← show User.info u = User.info u' from huu]
    exact (blind_registerTrustedDevice env.toEnv _ _ _ _).bind fun _ => Blind.pure _

theorem blind_refreshSubject (env : Env) (cmd : UpdateRefreshAccessTokenCommand) :
    Blind (refreshSubject env cmd) := by
  have hfind : Blind (Async.await (findValidRefreshToken env cmd.refreshToken)) := by
    refine Blind.await fun w w' hw a v b v' hx hy => ?_
    simp only [findValidRefreshToken, sync_bind, clock_apply, queryRoot_apply, hw.now] at hx hy
    cases hfilter : whereString env false cmd.refreshToken with
    | error e =>
      rw [hfilter] at hx
      cases hx
    | ok filter =>
      rw [hfilter] at hx hy
      cases hx
      cases hy
      refine ⟨?_, hw⟩
      unfold Db.findValidRefreshToken
      rw [hw.root.refreshToken]
  have hread : Blind (do
      let user ← Async.await (readRoot fun db => db.findUserById cmd.userId)
      match user with
      | none => throw userNotFound
      | some user => return User.info user) := by
    refine Async.Alike.bind (alike_findUser fun _ _ h => h.findUserById cmd.userId) fun a b => ?_
    intro w w' hw
    obtain ⟨hrel, htwin⟩ := hw
    cases hrel with
    | none => exact Blind.throw _ w w' htwin
    | @some u u' huu =>
      dsimp only
      rw [← show User.info u = User.info u' from huu]
      exact Blind.pure _ w w' htwin
  have hdb : Blind (subjectFromDb env cmd) := by
    refine hfind.bind fun record => ?_
    cases record with
    | none => exact Blind.throw _
    | some record =>
      refine Blind.ite (fun _ => Blind.throw _) fun _ => Blind.ite (fun _ => ?_) fun _ => hread
      exact (blind_theft env _ _ _).bind fun _ => hread
  have hcache (value : CacheValue) : Blind (subjectFromCache env cmd value) := by
    cases value with
    | text s => exact Blind.throw _
    | payload p =>
      refine Blind.ite (fun _ => Blind.throw _) fun _ => Blind.ite (fun _ => ?_) fun _ => Blind.pure _
      exact (blind_theft env _ _ _).bind fun _ => Blind.pure _
  refine (blind_cacheGet _).bind fun found => ?_
  cases found with
  | none => exact hdb
  | some value => exact Blind.ite (fun _ => hcache value) fun _ => hdb

/-- A user that was found is in the table, under the address that was searched. -/
def Held (email : String) (found : Option (User × Option Tenant.Client)) (w : World) : Prop :=
  ∀ p ∈ found, p.1 ∈ w.root.user.rows ∧ p.1.email = email

theorem held_findUserByEmail {email : String} {found : Option (User × Option Tenant.Client)}
    {w v : World} (h : findUserByEmail env (.string email) w = .ok found v) : Held email found v := by
  simp only [findUserByEmail, sync_bind, clock_apply, queryRoot_apply, whereString, Except.map] at h
  cases h
  intro p hp
  obtain ⟨u, hu, rfl⟩ := Option.map_eq_some_iff.mp hp
  obtain ⟨hm, he⟩ := Table.findFirst_mem hu
  exact ⟨hm, by simpa using he⟩

/-- An address that is taken is refused. -/
theorem createSocialAccount_taken {cmd : GoogleSocialCreateOrLoginCommand}
    {p : User × Option Tenant.Client} {w : World} (h : Held cmd.email (some p) w)
    (client : Option Tenant.Client) (user : UserInfo) (v : World) :
    (createSocialAccount env cmd (some p) client).run w ≠ .ok user v := by
  obtain ⟨hm, he⟩ := h p rfl
  intro hrun
  unfold createSocialAccount at hrun
  cases hcheck : checkClient (some p) client with
  | error e => simp [hcheck] at hrun
  | ok c =>
    let row := socialUser (env.createUserId w.draws) (env.signupVerifyTokenCreate w.draws) cmd c
    rw [hcheck] at hrun
    obtain ⟨_, _, hrow, hrest⟩ := Async.run_bind_ok hrun
    cases hrow
    cases hcreate : createSocialUserRow (env.client w.now) row w.root with
    | error e => simp [createSocialUser, row, hcreate] at hrest
    | ok db =>
      obtain ⟨hv, -, -⟩ := createSocialUserRow_ok hcreate
      exact hv User.email (by simp [Keyed.keys]) p.1 hm he

/-- A social login after its two lookups. -/
def socialSubject (cmd : GoogleSocialCreateOrLoginCommand) (user : Option (User × Option Tenant.Client))
    (client : Option Tenant.Client) : App UserInfo :=
  match user.mapM (isPaidAccount client) with
  | .error e => throw e
  | .ok paid =>
    match user, paid with
    | some (user, _), some true => return User.info user
    | _, _ => createSocialAccount env cmd user client

/-- An account that is not paid would need the address a second time. -/
theorem socialSubject_found {cmd : GoogleSocialCreateOrLoginCommand}
    {p : User × Option Tenant.Client} {client : Option Tenant.Client} {user : UserInfo} {w v : World}
    (hheld : Held cmd.email (some p) w)
    (h : (socialSubject env cmd (some p) client).run w = .ok user v) :
    isPaidAccount client p = .ok true ∧ user = User.info p.1 ∧ v = w := by
  unfold socialSubject at h
  rw [Option.mapM_some] at h
  cases hpaid : isPaidAccount client p with
  | error e =>
    rw [hpaid] at h
    cases h
  | ok paid =>
    rw [hpaid] at h
    cases paid with
    | false => exact absurd h (createSocialAccount_taken env hheld client user v)
    | true =>
      cases h
      exact ⟨rfl, rfl, rfl⟩

theorem twinDb_createUser {client : Table Tenant.Client} {row : User} {db db' d d' : Db}
    (h : TwinDb db db') (hd : createSocialUserRow client row db = .ok d)
    (hd' : createSocialUserRow client row db' = .ok d') : TwinDb d d' := by
  obtain ⟨hv, -, rfl⟩ := createSocialUserRow_ok hd
  obtain ⟨hv', -, rfl⟩ := createSocialUserRow_ok hd'
  refine ⟨?_, h.refreshToken, h.trustedDevice, h.ipDenylist⟩
  exact List.rel_append h.user (List.Forall₂.cons rfl List.Forall₂.nil)

theorem blind_createSocialAccount (cmd : GoogleSocialCreateOrLoginCommand)
    (client : Option Tenant.Client) : Blind (createSocialAccount env cmd none client) := by
  unfold createSocialAccount
  cases checkClient none client with
  | error e => exact Blind.throw e
  | ok client =>
    refine Blind.bind (Blind.await fun w w' hw a v b v' hx hy => ?_) fun row =>
      Blind.bind (Blind.await fun w w' hw a v b v' hx hy => ?_) fun _ => Blind.pure _
    · cases hx
      cases hy
      exact ⟨by rw [hw.draws], hw.withDraws⟩
    · simp only [createSocialUser, sync_bind, clock_apply, writeRoot_apply, hw.now] at hx hy
      cases hd : createSocialUserRow (env.client w.now) row w.root with
      | error e =>
        rw [hd] at hx
        cases hx
      | ok d =>
        cases hd' : createSocialUserRow (env.client w.now) row w'.root with
        | error e =>
          rw [hd'] at hy
          cases hy
        | ok d' =>
          rw [hd] at hx
          rw [hd'] at hy
          cases hx
          cases hy
          exact ⟨rfl, rfl, twinDb_createUser hw.root hd hd', hw.tenants, hw.redis, hw.mails,
            hw.slack, hw.draws⟩

theorem findByClientCode_state {code : Arg} {w v : World} {client : Option Tenant.Client}
    (h : findByClientCode env code w = .ok client v) : v = w := by
  cases code <;> cases h
  rfl

theorem blind_googleSubject (cmd : GoogleSocialCreateOrLoginCommand) :
    Blind (googleSubject env cmd) := by
  refine Async.Alike.bind (Q := fun a b w w' => Option.Rel SameAccount a b ∧ Twin w w' ∧
    Held cmd.email a w ∧ Held cmd.email b w') ?_ fun a b => ?_
  · refine Async.Alike.await fun w w' hw a v b v' hx hy => ?_
    obtain ⟨hrel, hv⟩ := alike_findUserByEmail env (.string cmd.email) w w' hw a v b v'
      (by rw [Async.run_await]; exact hx) (by rw [Async.run_await]; exact hy)
    exact ⟨hrel, hv, held_findUserByEmail env hx, held_findUserByEmail env hy⟩
  refine Async.Alike.bind (Q := fun c c' w w' => c = c' ∧ Option.Rel SameAccount a b ∧ Twin w w' ∧
    Held cmd.email a w ∧ Held cmd.email b w') ?_ fun c c' => ?_
  · refine Async.Alike.await fun w w' hw c v c' v' hx hy => ?_
    obtain ⟨hrel, htwin, hheld⟩ := hw
    cases findByClientCode_state env hx
    cases findByClientCode_state env hy
    refine ⟨?_, hrel, htwin, hheld⟩
    cases hcode : cmd.clientCode with
    | string code =>
      rw [hcode] at hx hy
      simp only [findByClientCode, sync_bind, clock_apply, sync_pure, htwin.now] at hx hy
      cases hx
      cases hy
      rfl
    | undefined => rw [hcode] at hx; cases hx
    | null => rw [hcode] at hx; cases hx
    | object o => rw [hcode] at hx; cases hx
    | other t => rw [hcode] at hx; cases hx
  intro w w' hw
  obtain ⟨rfl, hrel, htwin, hheld, hheld'⟩ := hw
  cases hrel with
  | none => exact blind_createSocialAccount env cmd c w w' htwin
  | @some p q hpq =>
    obtain ⟨u, own⟩ := p
    obtain ⟨u', own'⟩ := q
    intro x v y v' hx hy
    obtain ⟨-, rfl, rfl⟩ := socialSubject_found env hheld hx
    obtain ⟨-, rfl, rfl⟩ := socialSubject_found env hheld' hy
    exact ⟨hpq.1, htwin⟩

/-- The row that a token of a signup mail finds. -/
def mailedRow (env : Env) (clientCode : String) (token : Arg) (w : World) : Option User :=
  match whereString env false token with
  | .ok filter => (w.tenants clientCode).bind fun db => db.findUserBySignupVerifyToken filter
  | .error _ => none

theorem mailedRow_of_run {env : Env} {clientCode : String} {token : Arg} {w v : World}
    {found : Option User}
    (h : (tenantFindUserBySignupVerifyToken env clientCode token).run w = .ok found v) :
    v = w ∧ found = mailedRow env clientCode token w := by
  unfold tenantFindUserBySignupVerifyToken at h
  cases hdb : w.tenants clientCode with
  | none => simp [getTenantClient, hdb] at h
  | some db =>
    rw [Async.run_bind, Async.run_await, getTenantClient_apply hdb] at h
    dsimp only at h
    rw [Async.run_await, queryTenant_apply hdb] at h
    unfold mailedRow
    cases hfilter : whereString env false token with
    | error e =>
      rw [hfilter] at h
      cases h
    | ok filter =>
      rw [hfilter] at h
      cases h
      exact ⟨rfl, by rw [hdb]; rfl⟩

/-- From twins whose tokens find rows that agree, the users agree. -/
theorem alike_verifySubject (env : Env) (clientCode : String) (token token' : Arg) :
    Async.Alike (fun w w' => Twin w w' ∧ Option.Rel SameInfo (mailedRow env clientCode token w)
        (mailedRow env clientCode token' w'))
      (verifySubject env clientCode token) (verifySubject env clientCode token') Same := by
  refine Async.Alike.bind (Q := fun a b w w' => Option.Rel SameInfo a b ∧ Twin w w') ?_
    fun a b => ?_
  · intro w w' hw a v b v' hx hy
    obtain ⟨rfl, rfl⟩ := mailedRow_of_run hx
    obtain ⟨rfl, rfl⟩ := mailedRow_of_run hy
    exact ⟨hw.2, hw.1⟩
  · intro w w' hw
    obtain ⟨hrel, htwin⟩ := hw
    cases hrel with
    | none => exact Async.Alike.throw_left _ _ w w' htwin
    | @some u u' huu =>
      refine Async.Alike.gate (fun _ _ => ?_) w w' htwin
      rw [← huu.email, ← show User.info u = User.info u' from huu]
      refine Blind.bind ?_ fun _ => Blind.pure _
      refine (blind_getTenantClient clientCode).bind fun _ => blind_writeTenant
        fun db db' d d' h hd hd' => ?_
      unfold Db.updateUserByEmail at hd hd'
      cases ht : db.user.update (fun v => v.email == u.email) withVerified with
      | none => simp [ht] at hd
      | some t =>
        cases ht' : db'.user.update (fun v => v.email == u.email) withVerified with
        | none => simp [ht'] at hd'
        | some t' =>
          rw [ht] at hd
          rw [ht'] at hd'
          cases hd
          cases hd'
          exact TwinDb.update (fun v v' hvv => by rw [hvv.email]) (fun v v' hvv => hvv) h ht ht'

/-- The row of the user that a refresh token belongs to. -/
def tokenUser (db : Db) (refreshToken : String) : Option User :=
  (findRefreshToken db refreshToken).bind fun r => db.findUserById r.userId

/-- A token that passes the checks of a rotation, with its row and its user. -/
structure Rotatable (w : World) (refreshToken ip : String) (record : RefreshToken) (u : User) :
    Prop where
  found : findRefreshToken w.root refreshToken = some record
  valid : record.isValid = true
  unexpired : w.now ≤ record.expiresAt
  address : record.ip = some ip
  user : w.root.findUserById record.userId = some u

theorem Rotatable.tokenUser {w : World} {refreshToken ip : String} {record : RefreshToken} {u : User}
    (h : Rotatable w refreshToken ip record u) : tokenUser w.root refreshToken = some u := by
  unfold IssuedPayload.tokenUser
  rw [h.found]
  exact h.user

/-- A rotation that gets to its user has only spent the token. -/
theorem rotationSubject_ok {env : Env} {createdAt : String → String} {refreshToken ip : String}
    {user : UserInfo} {w v : World}
    (h : (rotationSubject env createdAt refreshToken ip).run w = .ok user v) :
    ∃ record u t, Rotatable w refreshToken ip record u ∧ user = wholeRow createdAt u ∧
      w.root.refreshToken.update (fun r => r.token == refreshToken) invalidated = some t ∧
      v = { w with root := { w.root with refreshToken := t } } := by
  unfold rotationSubject at h
  rw [Async.run_bind, Async.run_await, readRoot_apply] at h
  cases hrec : findRefreshToken w.root refreshToken with
  | none =>
    rw [hrec] at h
    cases h
  | some rec =>
    rw [hrec] at h
    dsimp only at h
    by_cases hvalid : rec.isValid = true
    · rw [if_neg (by simp [hvalid]), Async.run_bind, Async.run_await, clock_apply] at h
      dsimp only at h
      by_cases hexp : rec.expiresAt < w.now
      · rw [if_pos hexp] at h
        obtain ⟨_, _, _, h⟩ := Async.run_bind_ok h
        cases h
      · rw [if_neg hexp] at h
        by_cases hip : rec.ip = some ip
        · rw [if_neg (not_not.mpr hip), Async.run_bind, Async.run_await, writeRoot_apply] at h
          unfold spendRefreshToken at h
          cases ht : w.root.refreshToken.update (fun r => r.token == refreshToken) invalidated with
          | none => simp [ht] at h
          | some t =>
            rw [ht] at h
            dsimp only at h
            rw [Async.run_bind, Async.run_await, readRoot_apply] at h
            dsimp only at h
            cases hu : w.root.findUserById rec.userId with
            | none =>
              rw [show Db.findUserById { w.root with refreshToken := t } rec.userId = none from hu]
                at h
              cases h
            | some u =>
              rw [show Db.findUserById { w.root with refreshToken := t } rec.userId = some u from hu]
                at h
              cases h
              exact ⟨rec, u, t, ⟨hrec, hvalid, Nat.not_lt.mp hexp, hip, hu⟩, rfl, rfl, rfl⟩
        · rw [if_pos hip] at h
          obtain ⟨_, _, _, h⟩ := Async.run_bind_ok h
          cases h
    · rw [if_pos (by simpa using hvalid)] at h
      cases h

theorem tokenUser_rel {w w' : World} (hw : Twin w w') (refreshToken : String) :
    Option.Rel SameInfo (tokenUser w.root refreshToken) (tokenUser w'.root refreshToken) := by
  unfold tokenUser findRefreshToken
  rw [hw.root.refreshToken]
  cases w.root.refreshToken.findFirst fun r => r.token == refreshToken with
  | none => exact Option.Rel.none
  | some r => exact hw.root.findUserById r.userId

/-- The whole rows are the same when the columns that `UserInfo` leaves out are. -/
theorem wholeRow_eq_iff {createdAt createdAt' : String → String} {u u' : User}
    (h : SameInfo u u') : wholeRow createdAt u = wholeRow createdAt' u' ↔
      otherColumns createdAt u = otherColumns createdAt' u' := by
  constructor
  · exact fun heq => congrArg UserInfo.others heq
  · intro heq
    unfold wholeRow
    rw [heq, show User.info u = User.info u' from h]

end Subjects

section Payloads

variable (env : LoginEnv) {createdAt createdAt' : String → String} {secret secret' : Arg}

/-- The tokens of the signup mails belong to rows that agree. -/
def Path.Paired (secret secret' : Arg) (w w' : World) : Path → Prop
  | .verifyUserEmail encryptedClientCode _ =>
    ∀ clientCode, decryptClientCode env.toEnv encryptedClientCode = .ok clientCode →
      Option.Rel SameInfo (mailedRow env.toEnv clientCode secret w)
        (mailedRow env.toEnv clientCode secret' w')
  | _ => True

/-- A rotation finds rows that agree in every other column as well. -/
def Path.RowsAgree (createdAt createdAt' : String → String) (w w' : World) : Path → Prop
  | .refreshTokens refreshToken _ =>
    (tokenUser w.root refreshToken).map (otherColumns createdAt) =
      (tokenUser w'.root refreshToken).map (otherColumns createdAt')
  | _ => True

/-- The users of two rotations are the same when the rows agree. -/
theorem rotation_user_iff {refreshToken ip : String} {user user' : UserInfo} {w w' v v' : World}
    (hw : Twin w w')
    (h : (rotationSubject env.toEnv createdAt refreshToken ip).run w = .ok user v)
    (h' : (rotationSubject env.toEnv createdAt' refreshToken ip).run w' = .ok user' v') :
    Twin v v' ∧ (user' = user ↔
      (Path.refreshTokens refreshToken ip).RowsAgree createdAt createdAt' w w') := by
  obtain ⟨record, u, t, hr, rfl, ht, rfl⟩ := rotationSubject_ok h
  obtain ⟨record', u', t', hr', rfl, ht', rfl⟩ := rotationSubject_ok h'
  have hu := hr.tokenUser
  have hu' := hr'.tokenUser
  have hrel := tokenUser_rel hw refreshToken
  rw [hu, hu'] at hrel
  cases hrel with
  | some huu =>
    constructor
    · refine hw.withRoot ⟨hw.root.user, ?_, hw.root.trustedDevice, hw.root.ipDenylist⟩
      rw [hw.root.refreshToken, ht] at ht'
      exact (Option.some.inj ht').symm
    · unfold Path.RowsAgree
      dsimp only
      rw [hu, hu', Option.map_some, Option.map_some, Option.some.injEq]
      exact eq_comm.trans (wholeRow_eq_iff huu)

/-- Up to the function that signs, twins go alike as long as the rows agree. -/
theorem subject_alike {path : Path} {w w' v v' : World} {user user' : UserInfo} (hw : Twin w w')
    (hrow : path.Paired env secret secret' w w') (hagree : path.RowsAgree createdAt createdAt' w w')
    (h : (path.subject env createdAt secret).run w = .ok user v)
    (h' : (path.subject env createdAt' secret').run w' = .ok user' v') :
    user = user' ∧ Twin v v' := by
  cases path with
  | loginUser email ip =>
    exact (alike_loginUserChecks env email secret secret' ip).handle _ _ w w' hw _ _ _ _ h h'
  | login2fa cmd =>
    exact (alike_login2faSubject env cmd).bind (fun subject => Blind.pure _) w w' hw _ _ _ _ h h'
  | google cmd => exact blind_googleSubject env cmd w w' hw _ _ _ _ h h'
  | verifyUserEmail code ip =>
    simp only [Path.subject] at h h'
    cases hcode : decryptClientCode env.toEnv code with
    | error e =>
      rw [hcode] at h
      cases h
    | ok c =>
      rw [hcode] at h h'
      exact alike_verifySubject env.toEnv c secret secret' w w' ⟨hw, hrow c hcode⟩ _ _ _ _ h h'
  | refresh cmd => exact blind_refreshSubject env.toEnv cmd w w' hw _ _ _ _ h h'
  | refreshTokens refreshToken ip =>
    obtain ⟨htwin, hiff⟩ := rotation_user_iff env hw h h'
    exact ⟨(hiff.mpr hagree).symm, htwin⟩

theorem blind_issue (path : Path) (user : UserInfo) : Blind (path.issue env user) := by
  cases path with
  | loginUser email ip => exact (blind_login env.toEnv user ip).bind fun _ => Blind.pure _
  | login2fa cmd => exact (blind_login env.toEnv user cmd.ip).bind fun _ => Blind.pure _
  | google cmd => exact (blind_login env.toEnv user cmd.ip).bind fun _ => Blind.pure _
  | verifyUserEmail code ip =>
    simp only [Path.issue]
    cases decryptClientCode env.toEnv code with
    | error e => exact Blind.throw e
    | ok c => exact (blind_tenantLogin env.toEnv c user ip).bind fun _ => Blind.pure _
  | refresh cmd => exact blind_newAccessToken env.toEnv cmd.clientCode user cmd.ip
  | refreshTokens refreshToken ip =>
    exact (blind_generateTokens env.toEnv user ip).bind fun _ => Blind.pure _

/-- The token that a call returns is the signature of the payload that it signs. -/
theorem issue_token {path : Path} {user : UserInfo} {w w' : World} {T : String}
    (h : (path.issue env user).run w = .ok T w') :
    T = env.sign (path.claims user w.now) (w.now / 1000) := by
  cases path with
  | loginUser email ip =>
    obtain ⟨r, v, hlogin, hpure⟩ := Async.run_bind_ok h
    cases hpure
    exact (FreshTokens.login_ok hlogin).1
  | login2fa cmd =>
    obtain ⟨r, v, hlogin, hpure⟩ := Async.run_bind_ok h
    cases hpure
    exact (FreshTokens.login_ok hlogin).1
  | google cmd =>
    obtain ⟨r, v, hlogin, hpure⟩ := Async.run_bind_ok h
    cases hpure
    exact (FreshTokens.login_ok hlogin).1
  | verifyUserEmail code ip =>
    simp only [Path.issue] at h
    cases hcode : decryptClientCode env.toEnv code with
    | error e =>
      rw [hcode] at h
      cases h
    | ok c =>
      rw [hcode] at h
      obtain ⟨r, v, hlogin, hpure⟩ := Async.run_bind_ok h
      cases hpure
      exact (FreshTokens.tenantLogin_ok hlogin).1
  | refresh cmd =>
    obtain ⟨v, hrun, -⟩ := FreshTokens.run_newAccessToken env.toEnv cmd.clientCode user cmd.ip w
    unfold Path.issue at h
    rw [hrun] at h
    cases h
    rfl
  | refreshTokens refreshToken ip =>
    obtain ⟨r, v, hgen, hpure⟩ := Async.run_bind_ok h
    cases hpure
    exact (FreshTokens.generateTokens_ok hgen).1

/-- What a call returns is signed. -/
theorem returned_signs {path : Path} {w v : World} {T : String}
    (h : (path.program env createdAt secret).run w = .ok T v) :
    ∃ claims iat, path.Signs env createdAt secret w claims ∧ T = env.sign claims iat := by
  rw [program_cut] at h
  obtain ⟨user, v', hsubject, hissue⟩ := Async.run_bind_ok h
  exact ⟨_, _, ⟨user, v', hsubject, rfl⟩, issue_token env hissue⟩

/-- Two runs from twins sign the same payload and leave the same cache, except for
rotations of rows that differ in any column at all. -/
theorem payload_blind_iff {path : Path} {w w' : World} (hw : Twin w w')
    (hrow : path.Paired env secret secret' w w') {claims claims' : Claims}
    (h : path.Signs env createdAt secret w claims)
    (h' : path.Signs env createdAt' secret' w' claims') :
    (claims' = claims ∧ ∀ T v T' v', (path.program env createdAt secret).run w = .ok T v →
      (path.program env createdAt' secret').run w' = .ok T' v' → v'.redis = v.redis) ↔
      path.RowsAgree createdAt createdAt' w w' := by
  obtain ⟨user, v, hrun, rfl⟩ := h
  obtain ⟨user', v', hrun', rfl⟩ := h'
  constructor
  · rintro ⟨hclaims, -⟩
    cases path with
    | refreshTokens refreshToken ip =>
      exact (rotation_user_iff env hw hrun hrun').2.mp (Claims.user.inj hclaims)
    | _ => trivial
  · intro hagree
    obtain ⟨rfl, htwin⟩ := subject_alike env hw hrow hagree hrun hrun'
    refine ⟨by rw [htwin.now], fun T t T' t' hx hy => ?_⟩
    rw [program_cut, Async.run_bind] at hx hy
    rw [hrun] at hx
    rw [hrun'] at hy
    exact (blind_issue env path user v v' htwin T t T' t' hx hy).2.redis

end Payloads

theorem rotationWorld_twin (p q : String) : Twin (rotationWorld p) (rotationWorld q) where
  now := rfl
  root := ⟨List.Forall₂.cons rfl List.Forall₂.nil, rfl, rfl, rfl⟩
  tenants _ := Option.Rel.none
  redis := rfl
  mails := rfl
  slack := rfl
  draws := rfl

/-- The rotation of the token that the user holds. -/
def rotation : Path := .refreshTokens "r0" "10.0.0.1"

/-- What a rotation signs for the user with this password hash. -/
def rotationClaims (p : String) : Claims :=
  .user (wholeRow (fun _ => "") { User.sample with password := some p })

theorem rotation_signs (p : String) : rotation.Signs LoginEnv.sample (fun _ => "") .null
    (rotationWorld p) (rotationClaims p) :=
  ⟨_, _, rfl, rfl⟩

theorem rotations_sign_passwords : Twin (rotationWorld "old") (rotationWorld "new") ∧
    ∃ claims claims',
      rotation.Signs LoginEnv.sample (fun _ => "") .null (rotationWorld "old") claims ∧
      rotation.Signs LoginEnv.sample (fun _ => "") .null (rotationWorld "new") claims' ∧
      claims' ≠ claims :=
  ⟨rotationWorld_twin _ _, _, _, rotation_signs "old", rotation_signs "new", by decide⟩

theorem unequal_rotations :
    ¬ rotation.RowsAgree (fun _ => "") (fun _ => "") (rotationWorld "old") (rotationWorld "new") ∧
    ¬ (rotationClaims "new" = rotationClaims "old" ∧ ∀ T v T' v',
      (rotation.program LoginEnv.sample (fun _ => "") .null).run (rotationWorld "old") = .ok T v →
      (rotation.program LoginEnv.sample (fun _ => "") .null).run (rotationWorld "new") = .ok T' v' →
      v'.redis = v.redis) := by
  have hne : ¬ rotation.RowsAgree (fun _ => "") (fun _ => "") (rotationWorld "old")
      (rotationWorld "new") := by
    unfold rotation Path.RowsAgree
    decide
  have hrow : rotation.Paired LoginEnv.sample .null .null (rotationWorld "old")
      (rotationWorld "new") := by
    unfold rotation
    trivial
  exact ⟨hne, fun hsame => hne ((payload_blind_iff LoginEnv.sample (rotationWorld_twin _ _) hrow
    (rotation_signs "old") (rotation_signs "new")).mp hsame)⟩

end NestUserService.Auth.IssuedPayload
