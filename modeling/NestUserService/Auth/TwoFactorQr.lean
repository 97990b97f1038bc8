import NestUserService.Auth.RootSteps
import NestUserService.Auth.ValidateSpec

/-!
# The QR code of the second factor

The handler that stores a new secret refuses users who have the second factor. It is told
whether they have it by the user object of `validate`, which may have been cached before.
-/

namespace NestUserService.Auth

open Lib NestUserService.Core Shared

structure TwoFactorEnv extends LoginEnv where
  /-- `authenticator.generateSecret`, indexed by the draw. -/
  generateSecret : Nat → String
  /-- `authenticator.keyuri(email, appName, secret)`. -/
  keyuri : Option String → Option String → String → String
  appName : Option String
  /-- `qrcode.toBuffer`, which refuses texts that are too long. -/
  toBuffer : String → Except Exn (List UInt8)

/-- The sample configuration; a code is correct when it equals the secret. -/
def TwoFactorEnv.sample : TwoFactorEnv where
  toLoginEnv := LoginEnv.sample
  generateSecret n := "SECRET" ++ toString n
  keyuri email appName secret :=
    "otpauth://totp/" ++ appName.getD "undefined" ++ ":" ++ email.getD "undefined" ++
      "?secret=" ++ secret
  appName := none
  toBuffer _ := .ok []

def withTwoFactorSecret (secret : String) : Patch User where
  apply u := { u with twoFactorSecret := some secret }
  keeps := by simp [Keyed.keys]

/-- A missing property of the user object is `none`. -/
structure VerifyGenerateTwoFactorQrCommand where
  userId : Option String
  email : Option String
  isTwoFactorEnabled : Bool

def alreadyEnabled : Exn := .badRequest "이미 2FA가 활성화된 사용자입니다."

/-- `TwoFactorAuthService.generateSecret`. -/
def generateSecret (env : TwoFactorEnv) (userEmail : Option String) : Sync (String × String) :=
  fun w =>
    let secret := env.generateSecret w.draws
    .ok (secret, env.keyuri userEmail env.appName secret) { w with draws := w.draws + 1 }

@[simp] theorem generateSecret_apply (env : TwoFactorEnv) (userEmail : Option String) (w : World) :
    generateSecret env userEmail w =
      .ok (env.generateSecret w.draws,
          env.keyuri userEmail env.appName (env.generateSecret w.draws))
        { w with draws := w.draws + 1 } := rfl

/-- `UserRepository.setTwoFactorSecret`. -/
def setTwoFactorSecret (id : Option String) (twoFactorSecret : String) : Sync Unit :=
  match id with
  | some id => writeRoot fun db => db.updateUserById id (withTwoFactorSecret twoFactorSecret)
  | none => throw .prismaValidation

/-- `VerifyGenerateTwoFactorQrHandler.execute`. -/
def verifyGenerateTwoFactorQr (env : TwoFactorEnv) (cmd : VerifyGenerateTwoFactorQrCommand) :
    App (List UInt8) := do
  if cmd.isTwoFactorEnabled then
    throw alreadyEnabled
  let otpAuthUrl ← Async.await (do
    let (secret, otpAuthUrl) ← generateSecret env cmd.email
    setTwoFactorSecret cmd.userId secret
    return otpAuthUrl)
  Async.await (queryRoot fun _ => env.toBuffer otpAuthUrl)

/-- What the controller reads from `req.user`; a text has none of the properties. -/
def qrCommand : CacheValue → VerifyGenerateTwoFactorQrCommand
  | .payload p =>
    { userId := some p.id, email := some p.email, isTwoFactorEnabled := p.isTwoFactorEnabled }
  | .text _ => { userId := none, email := none, isTwoFactorEnabled := false }

/-- `AuthController.generateTwoFactorQR` behind `JwtAuthGuard`. -/
def generateTwoFactorQR (env : TwoFactorEnv) (req : Request) (payload : JwtPayload) :
    App (List UInt8) := do
  let user ← validate env.toEnv req payload
  verifyGenerateTwoFactorQr env (qrCommand user)

/-- The calls that reach the root database: those of `Op`, and the handlers. -/
inductive Call where
  | service (op : Op)
  | loginUser (cmd : LoginUserCommand)
  | googleSocialCreateOrLogin (cmd : GoogleSocialCreateOrLoginCommand)
  | login2faTrustedDeviceReg (cmd : Login2faTrustedDeviceRegCommand)
  | refreshTokens (createdAt : String → String) (refreshToken ip : String)
  | verifyTwoFactorOtp (cmd : VerifyTwoFactorOtpCommand)
  | verifyGenerateTwoFactorQr (cmd : VerifyGenerateTwoFactorQrCommand)
  | generateTwoFactorQR (req : Request) (payload : JwtPayload)

/-- The state a call leaves. -/
def Call.exec (env : TwoFactorEnv) : Call → World → World
  | .service op, w => op.exec env.toEnv w
  | .loginUser cmd, w => finalState ((Auth.loginUser env.toLoginEnv cmd).run w)
  | .googleSocialCreateOrLogin cmd, w =>
    finalState ((Auth.googleSocialCreateOrLogin env.toLoginEnv cmd).run w)
  | .login2faTrustedDeviceReg cmd, w =>
    finalState ((Auth.login2faTrustedDeviceReg env.toEnv cmd).run w)
  | .refreshTokens createdAt token ip, w =>
    finalState ((Auth.refreshTokens env.toEnv createdAt token ip).run w)
  | .verifyTwoFactorOtp cmd, w => finalState ((Auth.verifyTwoFactorOtp env.toEnv cmd).run w)
  | .verifyGenerateTwoFactorQr cmd, w =>
    finalState ((Auth.verifyGenerateTwoFactorQr env cmd).run w)
  | .generateTwoFactorQR req payload, w =>
    finalState ((Auth.generateTwoFactorQR env req payload).run w)

/-- Runs of calls that all meet the guard. -/
def CallRuns (env : TwoFactorEnv) (guard : World → Call → Prop) : World → World → Prop :=
  Relation.ReflTransGen fun w w' => ∃ call, guard w call ∧ w' = call.exec env w

/-- What relates the ends of every allowed call relates the ends of a run. -/
theorem CallRuns.relation {env : TwoFactorEnv} {guard : World → Call → Prop}
    {R : World → World → Prop} {w w' : World} (h : CallRuns env guard w w') (hrefl : ∀ w, R w w)
    (htrans : ∀ w₁ w₂ w₃, R w₁ w₂ → R w₂ w₃ → R w₁ w₃)
    (hstep : ∀ w call, guard w call → R w (call.exec env w)) : R w w' := by
  induction h with
  | refl => exact hrefl w
  | tail _ hlast ih =>
    obtain ⟨call, hg, rfl⟩ := hlast
    exact htrans _ _ _ ih (hstep _ call hg)

/-- Calls one after the other. -/
def Call.execAll (env : TwoFactorEnv) : List Call → World → World
  | [], w => w
  | call :: calls, w => execAll env calls (call.exec env w)

/-- Every call of the list meets the guard when its turn comes. -/
def Call.Allowed (env : TwoFactorEnv) (guard : World → Call → Prop) : List Call → World → Prop
  | [], _ => True
  | call :: calls, w => guard w call ∧ Allowed env guard calls (call.exec env w)

theorem CallRuns.of_list {env : TwoFactorEnv} {guard : World → Call → Prop} {calls : List Call}
    {w : World} (h : Call.Allowed env guard calls w) :
    CallRuns env guard w (Call.execAll env calls w) := by
  induction calls generalizing w with
  | nil => exact .refl
  | cons call calls ih => exact .head ⟨call, h.1, rfl⟩ (ih h.2)

namespace TwoFactorQr

/-- Every row with the second factor keeps it, and its secret. -/
def Protects (db db' : Db) : Prop :=
  ∀ u ∈ db.user.rows, u.isTwoFactorEnabled = true →
    ∃ u' ∈ db'.user.rows, u'.id = u.id ∧ u'.isTwoFactorEnabled = true ∧
      u'.twoFactorSecret = u.twoFactorSecret

instance (db db' : Db) : Decidable (Protects db db') :=
  inferInstanceAs (Decidable (∀ u ∈ db.user.rows, u.isTwoFactorEnabled = true →
    ∃ u' ∈ db'.user.rows, u'.id = u.id ∧ u'.isTwoFactorEnabled = true ∧
      u'.twoFactorSecret = u.twoFactorSecret))

theorem Protects.refl (db : Db) : Protects db db := fun u hu he => ⟨u, hu, rfl, he, rfl⟩

theorem Protects.trans {db db' db'' : Db} (h : Protects db db') (h' : Protects db' db'') :
    Protects db db'' := by
  intro u hu he
  obtain ⟨u', hu', hid, he', hs⟩ := h u hu he
  obtain ⟨u'', hu'', hid', he'', hs'⟩ := h' u' hu' he'
  exact ⟨u'', hu'', hid'.trans hid, he'', hs'.trans hs⟩

theorem Protects.of_rows {db db' : Db} (h : ∀ u ∈ db.user.rows, u ∈ db'.user.rows) :
    Protects db db' := fun u hu he => ⟨u, h u hu, rfl, he, rfl⟩

/-- An update protects when its patch does, on the row it is for. -/
theorem Protects.update {db db' : Db} {id : String} {data : Patch User}
    (h : db.updateUserById id data = .ok db')
    (hdata : ∀ u ∈ db.user.rows, u.id = id → u.isTwoFactorEnabled = true →
      (data.apply u).isTwoFactorEnabled = true ∧
        (data.apply u).twoFactorSecret = u.twoFactorSecret) : Protects db db' := by
  unfold Db.updateUserById at h
  split at h
  · rename_i t ht
    cases h
    intro u hu he
    have hmem : (if u.id == id then data.apply u else u) ∈ t.rows := by
      rw [Table.update_some ht]
      exact Table.mem_updateMany.mpr ⟨u, hu, rfl⟩
    by_cases hid : u.id = id
    · have hkeep := hdata u hu hid he
      rw [if_pos (by simpa using hid)] at hmem
      exact ⟨data.apply u, hmem, data.keeps User.id (by simp [Keyed.keys]) u, hkeep.1, hkeep.2⟩
    · rw [if_neg (by simpa using hid)] at hmem
      exact ⟨u, hmem, rfl, he, rfl⟩
  · cases h

theorem protects_of_step {db db' : Db} (h : DbStep db db') : Protects db db' := by
  cases h with
  | refreshToken t => exact .of_rows fun u hu => hu
  | trustedDevice t => exact .of_rows fun u hu => hu
  | ipUpsert ip => exact .of_rows fun u hu => hu
  | resetPassword h => exact .update h fun u _ _ he => ⟨he, rfl⟩
  | createUser h =>
    refine .of_rows fun u hu => ?_
    rename_i row t
    by_cases hv : db.user.Vacant row
    · rw [Table.create_of_vacant hv] at h
      cases h
      exact (Table.mem_insert hv).mpr (Or.inl hu)
    · rw [Table.create_of_not_vacant hv] at h
      cases h

/-- A program whose steps all protect. -/
def Protective {α : Type} (x : App α) : Prop :=
  Async.Guarantees (fun w w' => Protects w.root w'.root) (fun _ => True) x

theorem protective_of_onRoot {α : Type} {x : App α} (h : OnRoot x) : Protective x :=
  guarantees_onRoot h fun _ _ => protects_of_step

theorem Protective.run {α : Type} {x : App α} (h : Protective x) (w : World) :
    Protects w.root (finalState (x.run w)).root :=
  Async.Guarantees.run h (fun w => .refl w.root) (fun _ _ _ h h' => h.trans h') w

theorem protects_run {α : Type} {x : App α} (h : OnRoot x) (w : World) :
    Protects w.root (finalState (x.run w)).root :=
  (protective_of_onRoot h).run w

variable (env : TwoFactorEnv)

theorem op_protects (op : Op) (w : World) : Protects w.root (op.exec env.toEnv w).root := by
  cases op with
  | login user ip d ua => exact protects_run (onRoot_login env.toEnv user ip d ua) w
  | tenantLogin c user ip d ua => exact protects_run (onRoot_tenantLogin env.toEnv c user ip d ua) w
  | validate req payload => exact protects_run (onRoot_validate env.toEnv req payload) w
  | refresh c u t ip => exact protects_run (onRoot_refresh env.toEnv _) w
  | handleTokenTheft u ip loc => exact protects_run (onRoot_theft env.toEnv u ip loc) w
  | revokeRefreshToken t => exact protects_run (onRoot_revoke t) w
  | elapse n => exact .refl w.root

/-- The handler that enables the second factor leaves the secret as it is. -/
theorem protective_verifyOtp (cmd : VerifyTwoFactorOtpCommand) :
    Protective (verifyTwoFactorOtp env.toEnv cmd) :=
  guarantees_verifyOtp env.toEnv cmd (fun _ _ => protects_of_step)
    fun _ _ hup => Protects.update hup fun _ _ _ _ => ⟨rfl, rfl⟩

/-- The command has the flag that the row has, if the row has it. -/
def Truthful (db : Db) (cmd : VerifyGenerateTwoFactorQrCommand) : Prop :=
  ∀ u ∈ db.user.rows, cmd.userId = some u.id → u.isTwoFactorEnabled = true →
    cmd.isTwoFactorEnabled = true

instance (db : Db) (cmd : VerifyGenerateTwoFactorQrCommand) : Decidable (Truthful db cmd) :=
  inferInstanceAs (Decidable (∀ u ∈ db.user.rows, cmd.userId = some u.id →
    u.isTwoFactorEnabled = true → cmd.isTwoFactorEnabled = true))

/-- A truthful command is refused for every user who has the second factor. -/
theorem generateQr_protects {cmd : VerifyGenerateTwoFactorQrCommand} {w : World}
    (h : Truthful w.root cmd) :
    Protects w.root (finalState ((verifyGenerateTwoFactorQr env cmd).run w)).root := by
  by_cases hflag : cmd.isTwoFactorEnabled = true
  · simp only [verifyGenerateTwoFactorQr, hflag, if_true, Async.throw_bind, Async.run_throw,
      finalState_error]
    exact .refl w.root
  · have hnew : cmd.isTwoFactorEnabled = false := Bool.eq_false_iff.mpr hflag
    simp only [verifyGenerateTwoFactorQr, hnew, Bool.false_eq_true, if_false, Async.run_bind,
      Async.run_await, sync_bind, generateSecret_apply]
    cases hid : cmd.userId with
    | none => exact .refl w.root
    | some id =>
      simp only [setTwoFactorSecret, writeRoot_apply]
      cases hup : w.root.updateUserById id (withTwoFactorSecret (env.generateSecret w.draws)) with
      | error e => exact .refl w.root
      | ok db =>
        have hkeep : Protects w.root db := by
          refine .update hup fun u hu hui he => absurd (h u hu ?_ he) hflag
          rw [hid, hui]
        dsimp only [sync_pure]
        rw [queryRoot_apply]
        cases env.toBuffer (env.keyuri cmd.email env.appName (env.generateSecret w.draws)) with
        | ok b => exact hkeep
        | error e => exact hkeep

/-- The user object that is cached for the token of a request. -/
def cachedUser (w : World) (req : Request) (payload : JwtPayload) : Option CacheValue :=
  req.accessToken.bind fun T =>
    w.redis.find? w.now (accessKey (req.tenantId.getD "undefined") payload.userId T)

/-- Without a stale copy in the cache, the endpoint protects: a row that is read from the
database has its flag. -/
theorem qrcode_protects {req : Request} {payload : JwtPayload} {w : World}
    (h : ∀ value ∈ cachedUser w req payload, Truthful w.root (qrCommand value)) :
    Protects w.root (finalState ((generateTwoFactorQR env req payload).run w)).root := by
  unfold generateTwoFactorQR
  rw [Async.run_bind]
  have hvalidate := protects_run (onRoot_validate env.toEnv req payload) w
  cases hv : (validate env.toEnv req payload).run w with
  | error e w' =>
    rw [hv] at hvalidate
    exact hvalidate
  | ok value w' =>
    obtain ⟨hroot, hcached | ⟨user, hu, ip, issuedAt, rfl⟩⟩ := validate_value hv
    · obtain ⟨T, hT, hfind⟩ := hcached
      have hserved : value ∈ cachedUser w req payload := by
        unfold cachedUser
        rw [hT]
        exact hfind
      rw [← hroot]
      apply generateQr_protects
      rw [hroot]
      exact h value hserved
    · rw [← hroot]
      apply generateQr_protects
      rw [hroot]
      intro v hv hid he
      have hsame : user = v := Db.user_eq_of_id hu hv (Option.some.inj hid)
      rw [hsame]
      exact he

/-- A QR command, and a user object cached for a QR request, have the flag that the row has. -/
def FlagIsFresh (w : World) : Call → Prop
  | .verifyGenerateTwoFactorQr cmd => Truthful w.root cmd
  | .generateTwoFactorQR req payload =>
    ∀ value ∈ cachedUser w req payload, Truthful w.root (qrCommand value)
  | _ => True

instance (w : World) : (call : Call) → Decidable (FlagIsFresh w call)
  | .verifyGenerateTwoFactorQr cmd => inferInstanceAs (Decidable (Truthful w.root cmd))
  | .generateTwoFactorQR req payload => inferInstanceAs (Decidable
    (∀ value ∈ cachedUser w req payload, Truthful w.root (qrCommand value)))
  | .service _ | .loginUser _ | .googleSocialCreateOrLogin _ | .login2faTrustedDeviceReg _
  | .refreshTokens .. | .verifyTwoFactorOtp _ => .isTrue trivial

theorem call_protects {w : World} {call : Call} (hg : FlagIsFresh w call) :
    Protects w.root (call.exec env w).root := by
  cases call with
  | service op => exact op_protects env op w
  | loginUser cmd => exact protects_run (onRoot_loginUser env.toLoginEnv cmd) w
  | googleSocialCreateOrLogin cmd => exact protects_run (onRoot_google env.toLoginEnv cmd) w
  | login2faTrustedDeviceReg cmd => exact protects_run (onRoot_login2fa env.toEnv cmd) w
  | refreshTokens createdAt token ip =>
    exact protects_run (onRoot_refreshTokens env.toEnv createdAt token ip) w
  | verifyTwoFactorOtp cmd => exact (protective_verifyOtp env cmd).run w
  | verifyGenerateTwoFactorQr cmd => exact generateQr_protects env hg
  | generateTwoFactorQR req payload => exact qrcode_protects env hg

/-- In a run in which no QR request is answered from a stale copy of the flag, a row that
has the second factor keeps it together with its secret. -/
theorem enabled_secret_kept {w w' : World} (h : CallRuns env FlagIsFresh w w') :
    Protects w.root w'.root :=
  h.relation (R := fun w w' => Protects w.root w'.root) (fun w => .refl w.root)
    (fun _ _ _ h h' => h.trans h') fun _ _ hg => call_protects env hg

def sampleToken : String := Env.sample.sign (.user (User.info User.sample)) 1

def sampleRequest : Request := bearerRequest sampleToken rootLoginClientCacheValue "::1"

def samplePayload : JwtPayload := ⟨some User.sample.id, none⟩

def qrRequest : Call := .generateTwoFactorQR sampleRequest samplePayload

/-- The sample user with the second factor. -/
def enabledWorld : World := .start 1000 { Db.empty with
  user := .singleton
    { User.sample with twoFactorSecret := some "SECRET", isTwoFactorEnabled := true } }

/-- The second request is answered from the cache that the first one filled. -/
theorem secret_kept_by_two_requests : Protects enabledWorld.root
    (Call.execAll .sample [qrRequest, qrRequest] enabledWorld).root :=
  enabled_secret_kept .sample (.of_list ⟨by decide +kernel, by decide +kernel, trivial⟩)

/-- A login, a QR request, and the code that goes with its secret. -/
def enrolment : List Call :=
  [.service (.login (User.info User.sample) "::1" none none), qrRequest,
    .verifyTwoFactorOtp
      { userId := User.sample.id, otp := "SECRET4", ip := "::1", userAgent := "agent" }]

/-- Codes are correct for the secret in the database. -/
def CorrectOtp (env : TwoFactorEnv) (w : World) : Call → Prop
  | .verifyTwoFactorOtp cmd => ∀ u ∈ w.root.user.rows, u.id = cmd.userId →
    env.otpVerify cmd.otp (u.twoFactorSecret.getD "") = true
  | _ => True

instance (env : TwoFactorEnv) (w : World) : (call : Call) → Decidable (CorrectOtp env w call)
  | .verifyTwoFactorOtp cmd => inferInstanceAs (Decidable (∀ u ∈ w.root.user.rows,
    u.id = cmd.userId → env.otpVerify cmd.otp (u.twoFactorSecret.getD "") = true))
  | .service _ | .loginUser _ | .googleSocialCreateOrLogin _ | .login2faTrustedDeviceReg _
  | .refreshTokens .. | .verifyGenerateTwoFactorQr _ | .generateTwoFactorQR .. => .isTrue trivial

/-- The token from before the second factor still has the old user object in the cache. -/
theorem secret_replaced : ¬ ∀ w, CallRuns .sample (CorrectOtp .sample) World.sample w →
    ∀ req payload, Protects w.root
      ((Call.generateTwoFactorQR req payload).exec .sample w).root := by
  intro h
  have hrun : CallRuns .sample (CorrectOtp .sample) World.sample
      (Call.execAll .sample enrolment World.sample) :=
    .of_list ⟨by decide +kernel, by decide +kernel, by decide +kernel, trivial⟩
  have hkeep := h _ hrun sampleRequest samplePayload
  revert hkeep
  decide +kernel

end TwoFactorQr

end NestUserService.Auth
