import NestUserService.Auth.Handlers
import NestUserService.Auth.Steps

/-!
# The second factor

Both OTP handlers test the promise of `isCodeValid` instead of its result. What the
one-time password is therefore plays no part in what they do; only the guards before
the test can refuse a request. The second handler then calls `login` without the device
token that `login` asks of its user.
-/

namespace NestUserService.Auth.SecondFactor

open Lib NestUserService.Core Shared

variable (env : Env) (w : World)

/-- The handler rejects with `UnauthorizedException`; devices, the two-factor flags,
refresh tokens, and every access-token and blacklist entry are as before. -/
def Harmless {α : Type} (r : EStateM.Result Exn World α) : Prop :=
  ∃ m w', r = .error (.unauthorized m) w' ∧
    w'.root.trustedDevice = w.root.trustedDevice ∧
    w'.root.user.rows.map (fun v => (v.id, v.isTwoFactorEnabled)) =
      w.root.user.rows.map (fun v => (v.id, v.isTwoFactorEnabled)) ∧
    w'.root.refreshToken = w.root.refreshToken ∧ w'.redis = w.redis

theorem harmless_of_unchanged {α : Type} (m : String) :
    Harmless w (.error (.unauthorized m) w : EStateM.Result Exn World α) :=
  ⟨m, w, rfl, rfl, rfl, rfl, rfl⟩

/-- A wrong code is refused by both handlers without a trace. -/
def WrongCodeRefused (u : User) (otp ip userAgent : String) (deviceName : Option String) : Prop :=
  env.otpVerify otp (u.twoFactorSecret.getD "") = false →
    Harmless w ((verifyTwoFactorOtp env ⟨u.id, otp, ip, userAgent⟩).run w) ∧
    Harmless w ((login2faTrustedDeviceReg env ⟨u.email, otp, ip, userAgent, deviceName⟩).run w)

theorem findUserByEmail_of_mem {db : Db} {u : User} (h : u ∈ db.user.rows) :
    db.findUserByEmail u.email = some u :=
  Table.findFirst_key (k := User.email) (by simp [Keyed.keys]) h

/-- Registering a device either succeeds or fails in the database. -/
theorem registerTrustedDevice_not_unauthorized (userId deviceName ip userAgent m : String)
    (w w' : World) :
    registerTrustedDevice env userId deviceName ip userAgent w ≠ .error (.unauthorized m) w' := by
  simp only [registerTrustedDevice, sync_bind, uuidv4_apply, clock_apply, writeRoot_apply]
  intro h
  split at h
  · cases h
  · rename_i heq
    split at heq
    · cases heq
    · rename_i e hcreate
      cases heq
      cases h
      obtain ⟨code, he⟩ := Db.createTrustedDevice_error hcreate
      cases he

/-- With a stored secret, the OTP handler accepts every code. -/
theorem verifyTwoFactorOtp_not_harmless {u : User} (hu : u ∈ w.root.user.rows)
    (hs : truthy u.twoFactorSecret = true) (otp ip userAgent : String) :
    ¬ Harmless w ((verifyTwoFactorOtp env ⟨u.id, otp, ip, userAgent⟩).run w) := by
  rintro ⟨m, w', hrun, -⟩
  simp only [verifyTwoFactorOtp, Async.run_bind, Async.run_await, readRoot_apply,
    Db.findUserById_of_mem hu, hs, Bool.not_true, Bool.false_eq_true, if_false, Promise.truthy,
    writeRoot_apply, Db.updateUserById_of_mem hu] at hrun
  exact registerTrustedDevice_not_unauthorized env _ _ _ _ _ _ _ hrun

theorem verifyTwoFactorOtp_harmless {u : User} (hu : u ∈ w.root.user.rows)
    (hs : truthy u.twoFactorSecret = false) (otp ip userAgent : String) :
    Harmless w ((verifyTwoFactorOtp env ⟨u.id, otp, ip, userAgent⟩).run w) := by
  have hrun : (verifyTwoFactorOtp env ⟨u.id, otp, ip, userAgent⟩).run w =
      .error twoFactorNotSetUp w := by
    simp [verifyTwoFactorOtp, Db.findUserById_of_mem hu, hs]
  rw [hrun]
  exact harmless_of_unchanged w _

theorem login2fa_harmless {u : User} (hu : u ∈ w.root.user.rows)
    (hs : truthy u.twoFactorSecret = false) (otp ip userAgent : String)
    (deviceName : Option String) :
    Harmless w
      ((login2faTrustedDeviceReg env ⟨u.email, otp, ip, userAgent, deviceName⟩).run w) := by
  have hrun : (login2faTrustedDeviceReg env ⟨u.email, otp, ip, userAgent, deviceName⟩).run w =
      .error twoFactorNotEnabled w := by
    simp [login2faTrustedDeviceReg, findUserByEmail_of_mem hu, hs]
  rw [hrun]
  exact harmless_of_unchanged w _

/-- A wrong code is refused exactly for users that have no secret stored. -/
theorem wrong_code_refused_iff (u : User) (hu : u ∈ w.root.user.rows) (otp ip userAgent : String)
    (deviceName : Option String) :
    WrongCodeRefused env w u otp ip userAgent deviceName ↔
      truthy u.twoFactorSecret = false ∨ env.otpVerify otp (u.twoFactorSecret.getD "") = true := by
  constructor
  · intro h
    by_cases hv : env.otpVerify otp (u.twoFactorSecret.getD "") = true
    · exact Or.inr hv
    · left
      by_contra hs
      exact verifyTwoFactorOtp_not_harmless env w hu (by simpa using hs) otp ip userAgent
        (h (by simpa using hv)).1
  · rintro (hs | hv) hwrong
    · exact ⟨verifyTwoFactorOtp_harmless env w hu hs otp ip userAgent,
        login2fa_harmless env w hu hs otp ip userAgent deviceName⟩
    · rw [hv] at hwrong; cases hwrong

def enrolled (secret : Option String) : User :=
  { User.sample with twoFactorSecret := secret, isTwoFactorEnabled := true }

def enrolledWorld (secret : Option String) : World :=
  .start 1000 { Db.empty with user := .singleton (enrolled secret) }

theorem wrong_code_refused_without_secret :
    WrongCodeRefused Env.sample (enrolledWorld none) (enrolled none) "000000" "::1" "agent" none :=
  (wrong_code_refused_iff Env.sample (enrolledWorld none) (enrolled none)
    (List.mem_singleton.mpr rfl) "000000" "::1" "agent" none).mpr (Or.inl (by decide))

/-- The stand-in verifier rejects `000000` for the secret, yet a device is registered. -/
theorem wrong_code_accepted :
    ¬ WrongCodeRefused Env.sample (enrolledWorld (some "JBSWY3DP")) (enrolled (some "JBSWY3DP"))
      "000000" "::1" "agent" none := by
  intro h
  obtain ⟨⟨m, w', hrun, hdev, -⟩, -⟩ := h (by decide)
  have hnew : (finalState ((verifyTwoFactorOtp Env.sample
      ⟨"01JS447X6N835NZ80HCMEAKDDQ", "000000", "::1", "agent"⟩).run
        (enrolledWorld (some "JBSWY3DP")))).root.trustedDevice.rows.length = 1 := by decide
  rw [show (enrolled (some "JBSWY3DP")).id = "01JS447X6N835NZ80HCMEAKDDQ" from rfl] at hrun
  rw [hrun, finalState_error, hdev] at hnew
  cases hnew

/-- The handler logs the user in: the refresh token is a valid row of the user, and the
device token one of an unexpired device with the address of the request. -/
def LogsIn (u : User) (otp ip userAgent : String) (deviceName : Option String) : Prop :=
  ∃ r w', (login2faTrustedDeviceReg env ⟨u.email, otp, ip, userAgent, deviceName⟩).run w =
      .ok r w' ∧
    (∃ row ∈ w'.root.refreshToken.rows,
      row.token = r.refreshToken ∧ row.userId = u.id ∧ row.isValid = true) ∧
    ∃ d ∈ w'.root.trustedDevice.rows,
      r.deviceToken = some d.deviceToken ∧ d.userId = u.id ∧ d.ipAddress = some ip ∧
        w'.now < d.expiresAt

/-- A program that never returns. -/
def NeverReturns {α : Type} (x : App α) : Prop :=
  Async.Guarantees (fun _ _ => True) (fun _ => False) x

theorem NeverReturns.after {α β : Type} (x : App α) {f : α → App β} (h : ∀ a, NeverReturns (f a)) :
    NeverReturns (x >>= f) := (Async.Guarantees.any x).bind fun a _ => h a

theorem NeverReturns.before {α β : Type} {x : App α} (h : NeverReturns x) (f : α → App β) :
    NeverReturns (x >>= f) := Async.Guarantees.bind h fun _ ha => ha.elim

/-- Without a device token, `login` refuses users who have the second factor. -/
theorem login_without_device {user : UserInfo} (h : user.isTwoFactorEnabled = true) (ip : String)
    (ua : Option String) : NeverReturns (login env user ip none ua) := by
  rw [login_eq]
  refine .after _ fun _ => .after _ fun _ => .after _ fun _ => .after _ fun _ => ?_
  rw [h]
  exact Async.Guarantees.throw deviceTokenMissing

theorem login2fa_never_returns (cmd : Login2faTrustedDeviceRegCommand) :
    NeverReturns (login2faTrustedDeviceReg env cmd) := by
  refine .after _ fun user => ?_
  cases user with
  | none => exact Async.Guarantees.throw twoFactorNotEnabled
  | some user =>
    refine Async.Guarantees.ite (fun _ => Async.Guarantees.throw _) fun hset => ?_
    have henabled : user.isTwoFactorEnabled = true := by
      cases he : user.isTwoFactorEnabled with
      | true => rfl
      | false =>
        rw [he, Bool.not_false, Bool.or_true] at hset
        exact absurd rfl hset
    refine Async.Guarantees.ite (fun _ => Async.Guarantees.throw _) fun _ => ?_
    exact NeverReturns.after _ fun _ => (login_without_device env henabled _ _).before _

/-- Whatever the state, the user and the code are, nobody is logged in. -/
theorem no_two_factor_login (u : User) (otp ip userAgent : String) (deviceName : Option String) :
    ¬ LogsIn env w u otp ip userAgent deviceName := by
  rintro ⟨r, w', hrun, -, -⟩
  exact (login2fa_never_returns env _).value hrun

/-- The code is the right one for the stand-in verifier. -/
theorem correct_code_refused :
    ¬ ∀ u ∈ (enrolledWorld (some "JBSWY3DP")).root.user.rows, u.isTwoFactorEnabled = true →
      truthy u.twoFactorSecret = true →
        ∀ otp ip userAgent deviceName,
          Env.sample.otpVerify otp (u.twoFactorSecret.getD "") = true →
            LogsIn Env.sample (enrolledWorld (some "JBSWY3DP")) u otp ip userAgent deviceName := by
  intro h
  obtain ⟨r, w', hrun, -, -⟩ := h (enrolled (some "JBSWY3DP")) (List.mem_singleton.mpr rfl) rfl
    (by decide) "JBSWY3DP" "::1" "agent" none (by decide)
  have hnone : returned ((login2faTrustedDeviceReg Env.sample
      ⟨(enrolled (some "JBSWY3DP")).email, "JBSWY3DP", "::1", "agent", none⟩).run
        (enrolledWorld (some "JBSWY3DP"))) = none := by decide +kernel
  rw [hrun] at hnone
  cases hnone

end NestUserService.Auth.SecondFactor
