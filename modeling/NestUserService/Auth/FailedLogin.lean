import NestUserService.Auth.LoginHandlers

/-!
# Password logins that do not authenticate

The lookup and the comparison are calls of other services, which may also fail on their
own. Every failure inside the `try` block, whatever its route, leaves `execute` as the
same exception, before anything has been written.
-/

namespace NestUserService.Auth.FailedLogin

open Lib NestUserService.Core Shared

/-- The errors with which the database and bcrypt fail on their own, by state. -/
structure Faults where
  lookup : World → Option Exn
  compare : World → Option Exn

/-- Nothing fails on its own. -/
def Faults.none : Faults := ⟨fun _ => Option.none, fun _ => Option.none⟩

/-- An operation that may fail before it does anything. -/
def faulty {α : Type} (fault : World → Option Exn) (x : Sync α) : Sync α := fun w =>
  match fault w with
  | some e => .error e w
  | none => x w

/-- The `try` block of `LoginUserHandler.execute`, next to faults. -/
def loginUserChecks (faults : Faults) (env : LoginEnv) (cmd : LoginUserCommand) : App UserInfo := do
  let user ← Async.await (faulty faults.lookup (findUserByEmail env cmd.email))
  match user with
  | none => throw (nullProperty "password")
  | some (user, _) =>
    let isPasswordValid ←
      Async.await (faulty faults.compare (comparePassword env cmd.password user.password))
    if !isPasswordValid then
      throw wrongCredentials
    if !user.verified then
      throw emailNotVerified
    updateInvalidatePreviousRefreshTokens user.id
    return User.info user

def loginUser (faults : Faults) (env : LoginEnv) (cmd : LoginUserCommand) : App LoginResponse := do
  let userInfo ← (loginUserChecks faults env cmd).handle fun _ => throw wrongCredentials
  login env.toEnv userInfo cmd.ip none none

/-- Without faults this is the handler. -/
theorem loginUser_none (env : LoginEnv) (cmd : LoginUserCommand) :
    loginUser .none env cmd = Auth.loginUser env cmd := rfl

theorem faulty_some {α : Type} {fault : World → Option Exn} {x : Sync α} {w : World} {e : Exn}
    (h : fault w = some e) : faulty fault x w = .error e w := by
  unfold faulty
  rw [h]

theorem faulty_none {α : Type} {fault : World → Option Exn} {x : Sync α} {w : World}
    (h : fault w = none) : faulty fault x w = x w := by
  unfold faulty
  rw [h]

/-- The command authenticates: both calls answer, there is a user, the password is the
right one and the user is verified. -/
def Authenticates (faults : Faults) (env : LoginEnv) (cmd : LoginUserCommand) (w : World) : Prop :=
  faults.lookup w = none ∧ faults.compare w = none ∧
    ∃ row own, findUserByEmail env cmd.email w = .ok (some (row, own)) w ∧
      comparePassword env cmd.password row.password w = .ok true w ∧ row.verified = true

variable {faults : Faults} {env : LoginEnv} {cmd : LoginUserCommand} {w : World}

/-- The part of the checks after a user was found. -/
theorem run_password_error {found : User × Option Tenant.Client}
    (h : ¬ Authenticates faults env cmd w) (hfault : faults.lookup w = none)
    (hfind : findUserByEmail env cmd.email w = .ok (some found) w) :
    ∃ e, (do
      let isPasswordValid ←
        Async.await (faulty faults.compare (comparePassword env cmd.password found.1.password))
      if !isPasswordValid then
        throw wrongCredentials
      if !found.1.verified then
        throw emailNotVerified
      updateInvalidatePreviousRefreshTokens found.1.id
      return User.info found.1 : App UserInfo).run w = .error e w := by
  have hstate := comparePassword_state env cmd.password found.1.password w
  rw [Async.run_bind, Async.run_await]
  cases hcompare : faults.compare w with
  | some e =>
    rw [faulty_some hcompare]
    exact ⟨e, rfl⟩
  | none =>
    rw [faulty_none hcompare]
    cases hvalid : comparePassword env cmd.password found.1.password w with
    | error e w' =>
      rw [hvalid, finalState_error] at hstate
      exact ⟨e, by rw [hstate]⟩
    | ok valid w' =>
      rw [hvalid, finalState_ok] at hstate
      subst hstate
      cases valid with
      | false => exact ⟨wrongCredentials, rfl⟩
      | true =>
        cases hverified : found.1.verified with
        | false => exact ⟨emailNotVerified, by simp⟩
        | true => exact absurd ⟨hfault, hcompare, found.1, found.2, hfind, hvalid, hverified⟩ h

/-- The checks fail where the command does not authenticate, and have written nothing. -/
theorem run_checks_error (h : ¬ Authenticates faults env cmd w) :
    ∃ e, (loginUserChecks faults env cmd).run w = .error e w := by
  have hlookup := findUserByEmail_state env cmd.email w
  unfold loginUserChecks
  rw [Async.run_bind, Async.run_await]
  cases hfault : faults.lookup w with
  | some e =>
    rw [faulty_some hfault]
    exact ⟨e, rfl⟩
  | none =>
    rw [faulty_none hfault]
    cases hfind : findUserByEmail env cmd.email w with
    | error e w' =>
      rw [hfind, finalState_error] at hlookup
      exact ⟨e, by rw [hlookup]⟩
    | ok found w' =>
      rw [hfind, finalState_ok] at hlookup
      subst hlookup
      cases found with
      | none => exact ⟨nullProperty "password", rfl⟩
      | some found => exact run_password_error h hfault hfind

/-- Every failure leaves the handler as one exception. -/
theorem run_loginUser_error (h : ¬ Authenticates faults env cmd w) :
    (loginUser faults env cmd).run w = .error wrongCredentials w := by
  obtain ⟨e, hrun⟩ := run_checks_error h
  simp [loginUser, hrun]

/-- Any two failed logins throw the same exception and leave their states as they are. -/
theorem failed_logins_indistinguishable (env : LoginEnv) {faults₁ faults₂ : Faults}
    {cmd₁ cmd₂ : LoginUserCommand} {w₁ w₂ : World} (h₁ : ¬ Authenticates faults₁ env cmd₁ w₁)
    (h₂ : ¬ Authenticates faults₂ env cmd₂ w₂) :
    ∃ message, (loginUser faults₁ env cmd₁).run w₁ = .error (.unauthorized message) w₁ ∧
      (loginUser faults₂ env cmd₂).run w₂ = .error (.unauthorized message) w₂ :=
  ⟨_, run_loginUser_error h₁, run_loginUser_error h₂⟩

/-- The database does not answer. -/
def unreachable : Faults := ⟨fun _ => some (.prisma "P1001"), fun _ => none⟩

def guess (email password : String) : LoginUserCommand :=
  { email := .string email, password := .string password, ip := "10.0.0.1" }

/-- A wrong password, and a lookup that fails. -/
theorem failed_logins_sample : ∃ message,
    (loginUser .none LoginEnv.sample (guess "hong@example.com" "new")).run (rotationWorld "old") =
      .error (.unauthorized message) (rotationWorld "old") ∧
    (loginUser unreachable LoginEnv.sample (guess "kim@example.com" "new")).run World.sample =
      .error (.unauthorized message) World.sample := by
  have hwrong : ¬ Authenticates .none LoginEnv.sample (guess "hong@example.com" "new")
      (rotationWorld "old") := by
    rintro ⟨-, -, row, own, hfind, hcompare, -⟩
    cases hfind
    exact absurd (congrArg returned hcompare) (by decide)
  have hdown : ¬ Authenticates unreachable LoginEnv.sample (guess "kim@example.com" "new")
      World.sample := by
    rintro ⟨hlookup, -⟩
    cases hlookup
  exact failed_logins_indistinguishable LoginEnv.sample hwrong hdown

end NestUserService.Auth.FailedLogin
