import NestUserService.Auth.Handlers
import NestUserService.Tenant.Host

/-!
# Password login, social login, rotation and reset requests

The handlers that need more of the root database than `Db` holds: the `Client` rows
and the `createdAt` column. Both are only read here.
-/

namespace NestUserService.Auth

open Lib NestUserService.Core Shared
open Tenant (Client)

structure LoginEnv extends Env where
  /-- `bcrypt.compare` of a password with a hash. -/
  bcryptCompare : String → String → Bool
  /-- `createUserId` and `signupVerifyTokenCreate`, indexed by the draw. -/
  createUserId : Nat → String
  signupVerifyTokenCreate : Nat → String
  /-- The `Client` rows of the root database at a time. -/
  client : Nat → Table Client

/-- The sample configuration, without clients. -/
def LoginEnv.sample : LoginEnv where
  toEnv := Env.sample
  bcryptCompare password hash := hash == password
  createUserId n := "user-" ++ toString n
  signupVerifyTokenCreate n := "signup-" ++ toString n
  client _ := .empty

/-- `user.findFirst({ where: { email }, include: { client: true } })`. -/
def findUserByEmail (env : LoginEnv) (email : Arg) : Sync (Option (User × Option Client)) := do
  let now ← clock
  queryRoot fun db => (whereString env.toEnv false email).map fun filter =>
    (db.user.findFirst fun u => filter (some u.email)).map fun u =>
      (u, u.clientId.bind fun id => (env.client now).findFirst fun c => c.id == id)

theorem findUserByEmail_state (env : LoginEnv) (email : Arg) (w : World) :
    finalState (findUserByEmail env email w) = w := by
  simp only [findUserByEmail, sync_bind, clock_apply, queryRoot_apply]
  cases (whereString env.toEnv false email).map _ <;> rfl

structure LoginUserCommand where
  email : Arg
  password : Arg
  ip : String

def wrongCredentials : Exn := .unauthorized "아이디나 비밀번호가 틀렸습니다."
def emailNotVerified : Exn := .unauthorized "이메일 인증이 아직 끝나지 않았습니다."

/-- `bcrypt.compare(password, user.password)`. -/
def comparePassword (env : LoginEnv) : Arg → Option String → Sync Bool
  | .string password, some hash => pure (env.bcryptCompare password hash)
  | .undefined, _ => throw (.error "data and hash arguments required")
  | .null, _ => throw (.error "data and hash arguments required")
  | _, none => throw (.error "data and hash arguments required")
  | _, some _ => throw (.error "data must be a string or Buffer and hash must be a string")

theorem comparePassword_state (env : LoginEnv) (password : Arg) (hash : Option String) (w : World) :
    finalState (comparePassword env password hash w) = w := by
  cases password <;> cases hash <;> rfl

/-- `RefreshTokenRepository.updateInvalidatePreviousRefreshTokens`. -/
def updateInvalidatePreviousRefreshTokens (userId : String) : App Unit :=
  .await (writeRoot fun db => .ok (db.invalidateRefreshTokens userId))

/-- The `try` block of `LoginUserHandler.execute`, up to the call of `login`. -/
def loginUserChecks (env : LoginEnv) (cmd : LoginUserCommand) : App UserInfo := do
  let user ← Async.await (findUserByEmail env cmd.email)
  match user with
  | none => throw (nullProperty "password")
  | some (user, _) =>
    let isPasswordValid ← Async.await (comparePassword env cmd.password user.password)
    if !isPasswordValid then
      throw wrongCredentials
    if !user.verified then
      throw emailNotVerified
    updateInvalidatePreviousRefreshTokens user.id
    return User.info user

/-- `LoginUserHandler.execute`. The promise of `login` is returned without `await`, so
its rejection is not caught. -/
def loginUser (env : LoginEnv) (cmd : LoginUserCommand) : App LoginResponse := do
  let userInfo ← (loginUserChecks env cmd).handle fun _ => throw wrongCredentials
  login env.toEnv userInfo cmd.ip none none

structure GoogleSocialCreateOrLoginCommand where
  email : String
  name : String
  ip : String
  clientCode : Arg

def wrongClientCode : Exn := .unauthorized "클라이언트 코드가 잘못되었습니다."
def notPaid : Exn := .unauthorized "결제되지 않은 사용자입니다."

/-- `client.findUnique({ where: { clientCode } })`. -/
def findByClientCode (env : LoginEnv) : Arg → Sync (Option Client)
  | .string code => do
    let now ← clock
    return (env.client now).findFirst fun c => c.clientCode == code
  | _ => throw .prismaValidation

/-- The condition for a login of an existing user. -/
def isPaidAccount (client : Option Client) : User × Option Client → Except Exn Bool
  | (user, own) =>
    if own.map Client.id = client.map Client.id ∧ user.verified then
      match own with
      | some own => .ok own.isPaid
      | none => .error (nullProperty "isPaid")
    else .ok false

/-- The two refusals before a user is created. -/
def checkClient (user : Option (User × Option Client)) : Option Client → Except Exn Client
  | none => .error wrongClientCode
  | some client =>
    match user with
    | none => if !client.isPaid then .error notPaid else .ok client
    | some (_, none) => .error (nullProperty "id")
    | some (_, some own) =>
      if own.id ≠ client.id then .error wrongClientCode
      else if !client.isPaid || !own.isPaid then .error notPaid
      else .ok client

/-- The row of a new social user. -/
def socialUser (id signupVerifyToken : String) (cmd : GoogleSocialCreateOrLoginCommand)
    (client : Client) : User :=
  { id, name := cmd.name, email := cmd.email, password := none, signupVerifyToken, verified := true
    role := .ClientUser, twoFactorSecret := none, isTwoFactorEnabled := false
    clientId := some client.id, resetPasswordToken := none, resetPasswordExpires := none }

/-- `user.create`, with the foreign key to `Client`. -/
def createSocialUserRow (client : Table Client) (row : User) (db : Db) : Except Exn Db :=
  if row.fits then
    match db.user.create row with
    | none => .error uniqueViolation
    | some t =>
      if row.clientId.all fun id => (client.findFirst fun c => c.id == id).isSome then
        .ok { db with user := t }
      else .error foreignKeyViolation
  else .error valueTooLong

def createSocialUser (env : LoginEnv) (row : User) : Sync Unit := do
  let now ← clock
  writeRoot (createSocialUserRow (env.client now) row)

section NewUser

variable {client : Table Client} {row : User} {db : Db}

/-- A created user fits the columns and was not there before. -/
theorem createSocialUserRow_ok {db' : Db} (h : createSocialUserRow client row db = .ok db') :
    ∃ hv : db.user.Vacant row, row.fits = true ∧
      db' = { db with user := db.user.insert row hv } := by
  unfold createSocialUserRow at h
  by_cases hfits : row.fits = true
  · rw [if_pos hfits] at h
    by_cases hv : db.user.Vacant row
    · rw [Table.create_of_vacant hv] at h
      dsimp only at h
      split at h
      · cases h
        exact ⟨hv, hfits, rfl⟩
      · cases h
    · rw [Table.create_of_not_vacant hv] at h
      cases h
  · rw [if_neg hfits] at h
    cases h

theorem createSocialUserRow_of_vacant (hfits : row.fits = true) (hv : db.user.Vacant row)
    {c : Client} (hclient : client.findFirst (fun x => x.id == c.id) = some c)
    (hown : row.clientId = some c.id) :
    createSocialUserRow client row db = .ok { db with user := db.user.insert row hv } := by
  unfold createSocialUserRow
  rw [if_pos hfits, Table.create_of_vacant hv]
  simp [hown, hclient]

theorem createSocialUserRow_error {e : Exn} (h : createSocialUserRow client row db = .error e) :
    ∃ code, e = .prisma code := by
  unfold createSocialUserRow at h
  split at h
  · split at h
    · cases h
      exact ⟨_, rfl⟩
    · split at h
      · cases h
      · cases h
        exact ⟨_, rfl⟩
  · cases h
    exact ⟨_, rfl⟩

end NewUser

/-- The part of `execute` for everyone but a paid account. -/
def createSocialAccount (env : LoginEnv) (cmd : GoogleSocialCreateOrLoginCommand)
    (user : Option (User × Option Client)) (client : Option Client) : App UserInfo :=
  match checkClient user client with
  | .error e => throw e
  | .ok client => do
    let row ← Async.await fun w =>
      .ok (socialUser (env.createUserId w.draws) (env.signupVerifyTokenCreate w.draws) cmd client)
        { w with draws := w.draws + 1 }
    Async.await (createSocialUser env row)
    return User.info row

/-- `GoogleSocialCreateOrLoginHandler.execute`. -/
def googleSocialCreateOrLogin (env : LoginEnv) (cmd : GoogleSocialCreateOrLoginCommand) :
    App LoginResponse := do
  let user ← Async.await (findUserByEmail env (.string cmd.email))
  let client ← Async.await (findByClientCode env cmd.clientCode)
  match user.mapM (isPaidAccount client) with
  | .error e => throw e
  | .ok paid =>
    match user, paid with
    | some (user, _), some true => login env.toEnv (User.info user) cmd.ip none none
    | _, _ =>
      let userInfo ← createSocialAccount env cmd user client
      login env.toEnv userInfo cmd.ip none none

def invalidRefreshTokenForbidden : Exn := .forbidden "Invalid refresh token"
def refreshTokenExpired : Exn := .forbidden "Refresh token expired"
def tokenTheftSuspected : Exn := .forbidden "Token theft suspected"

/-- A string as it stands in a payload. -/
def quoted (s : String) : String := "\"" ++ s ++ "\""

/-- An optional string as it stands in a payload. -/
def nullable : Option String → String
  | some s => quoted s
  | none => "null"

/-- The columns that `UserInfo` does not name. -/
def otherColumns (createdAt : String → String) (u : User) : List (String × String) :=
  [("password", nullable u.password), ("signupVerifyToken", quoted u.signupVerifyToken),
    ("verified", toString u.verified), ("createdAt", createdAt u.id),
    ("role", match u.role with
      | .SuperAdmin => "SuperAdmin"
      | .ClientAdmin => "ClientAdmin"
      | .ClientUser => "ClientUser"),
    ("twoFactorSecret", nullable u.twoFactorSecret),
    ("resetPasswordToken", nullable u.resetPasswordToken),
    ("resetPasswordExpires", (u.resetPasswordExpires.map toString).getD "null")]

/-- A whole row in the place of a `UserInfo`. -/
def wholeRow (createdAt : String → String) (u : User) : UserInfo :=
  { User.info u with others := otherColumns createdAt u }

/-- `refreshToken.findUnique({ where: { token } })`. -/
def findRefreshToken (db : Db) (token : String) : Option RefreshToken :=
  db.refreshToken.findFirst fun r => r.token == token

/-- `refreshToken.update({ where: { token }, data: { isValid: false } })`. -/
def spendRefreshToken (db : Db) (token : String) : Except Exn Db :=
  match db.refreshToken.update (fun r => r.token == token) invalidated with
  | some t => .ok { db with refreshToken := t }
  | none => .error recordNotFound

/-- The part of `refreshTokens` after the token was spent. The row is passed on as it
is; a user that is gone makes `generateTokens` fail after its draw. -/
def rotate (env : Env) (createdAt : String → String) (userId ip : String) : App LoginResponse := do
  let user ← Async.await (readRoot fun db => db.findUserById userId)
  match user with
  | none => Async.await (do
      let _ ← uuidv4 env
      throw (nullProperty "id"))
  | some user => generateTokens env (wholeRow createdAt user) ip

/-- `refreshTokens(refreshToken, ip)`, with the `createdAt` column by user id. -/
def refreshTokens (env : Env) (createdAt : String → String) (refreshToken ip : String) :
    App LoginResponse := do
  let tokenRecord ← Async.await (readRoot fun db => findRefreshToken db refreshToken)
  match tokenRecord with
  | none => throw invalidRefreshTokenForbidden
  | some tokenRecord =>
    if !tokenRecord.isValid then
      throw invalidRefreshTokenForbidden
    let now ← Async.await clock
    if tokenRecord.expiresAt < now then
      invalidateUserTokens tokenRecord.userId
      throw refreshTokenExpired
    if tokenRecord.ip ≠ some ip then
      handleTokenTheft env tokenRecord.userId ip none
      throw tokenTheftSuspected
    Async.await (writeRoot fun db => spendRefreshToken db refreshToken)
    rotate env createdAt tokenRecord.userId ip

/-- JavaScript truth of a request field. Arrays are read by their text. -/
def isTruthy : Arg → Bool
  | .undefined => false
  | .null => false
  | .string s => s != ""
  | .object _ => true
  | .other t => t != "0" && t != "false"

structure UpdateResetPasswordRequestCommand where
  id : Arg
  email : Arg

/-- The mail that is published for a reset. -/
structure ResetPasswordEvent where
  email : String
  url : String
  deriving DecidableEq

def idOrEmailRequired : Exn := .badRequest "id 또는 email 중 하나는 필수입니다."
def resetUserMissing : Exn := .badRequest "유저가 존재하지 않습니다."

/-- The row with its client, of which the two lookups read the name. -/
def withClient (env : LoginEnv) (now : Nat) (user : User) : Except Exn (User × Client) :=
  match user.clientId.bind fun id => (env.client now).findFirst fun c => c.id == id with
  | some client => .ok (user, client)
  | none => .error (nullProperty "name")

/-- `getUserByIdForClientAdmin`. -/
def getUserByIdForClientAdmin (env : LoginEnv) : Arg → Sync (Option (User × Client))
  | .string id => do
    let now ← clock
    queryRoot fun db =>
      match db.findUserById id with
      | none => .ok none
      | some user => (withClient env now user).map some
  | _ => throw .prismaValidation

/-- `getUserByEmailForClientAdmin`; it reads the row before it looks whether there is one. -/
def getUserByEmailForClientAdmin (env : LoginEnv) : Arg → Sync (Option (User × Client))
  | .string email => do
    let now ← clock
    queryRoot fun db =>
      match db.findUserByEmail email with
      | none => .error (nullProperty "id")
      | some user => (withClient env now user).map some
  | _ => throw .prismaValidation

def resetExpireMinutes : Nat := 30

def resetPasswordUrl (resetToken : String) : String :=
  "http://localhost:3000/users/auth" ++ "/reset-password/page?token=" ++ resetToken

/-- `UpdateResetPasswordRequestHandler.execute`, with the event that it publishes. -/
def updateResetPasswordRequest (env : LoginEnv) (cmd : UpdateResetPasswordRequestCommand) :
    App (String × ResetPasswordEvent) := do
  if !isTruthy cmd.id && !isTruthy cmd.email then
    throw idOrEmailRequired
  let user ← Async.await (if isTruthy cmd.id then getUserByIdForClientAdmin env cmd.id
    else getUserByEmailForClientAdmin env cmd.email)
  match user with
  | none => throw resetUserMissing
  | some (user, _) =>
    let resetToken ← Async.await (do
      let resetToken ← uuidv4 env.toEnv
      let now ← clock
      writeRoot fun db => db.updateUserById user.id
        (withResetPassword resetToken (now + minutes resetExpireMinutes))
      return resetToken)
    return ("비밀번호 재설정 링크가 이메일로 발송되었습니다.",
      { email := user.email, url := resetPasswordUrl resetToken })

def heldToken : RefreshToken :=
  { token := "r0", userId := User.sample.id, isValid := true, ip := some "10.0.0.1"
    expiresAt := 2000 }

/-- The sample user with a given password hash and one refresh token. -/
def rotationWorld (password : String) : World :=
  .start 1000 { Db.empty with
    user := .singleton { User.sample with password := some password }
    refreshToken := .singleton heldToken }

end NestUserService.Auth
