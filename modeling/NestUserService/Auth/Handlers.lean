import NestUserService.Auth.JwtStrategy

/-!
# Command handlers

The handlers behind the public routes, with the controllers' destructuring of the
unvalidated bodies. A call whose promise is not awaited yields the promise itself.
-/

namespace NestUserService.Auth

open Lib NestUserService.Core Shared

/-- The value of an `async` call that is not awaited. -/
structure Promise (α : Type) where
  program : App α

/-- Every object is truthy, whatever the promise will settle to. -/
def Promise.truthy {α : Type} (_ : Promise α) : Bool := true

structure UpdateRefreshAccessTokenCommand where
  clientCode : String
  userId : String
  refreshToken : Arg
  ip : String

def invalidRefreshToken : Exn := .unauthorized "Invalid refresh token"

/-- `UpdateRefreshAccessTokenHandler.newAccessToken`: the returned object has only an
access token. -/
def newAccessToken (env : Env) (clientCode : String) (user : UserInfo) (ip : String) :
    App String := do
  let (cachePayload, token) ← Async.await (do
    let now ← clock
    let cachePayload : TokenCachePayload :=
      { id := user.id, name := user.name, email := user.email, clientId := user.clientId
        isTwoFactorEnabled := user.isTwoFactorEnabled, ip, issuedAt := now }
    return (cachePayload, env.sign (.session cachePayload) (now / 1000)))
  setUserAccessTokenBlacklistCache env clientCode user.id
  setUserAccessTokenCache env clientCode user.id token (.payload cachePayload)
  return token

/-- `findValidRefreshToken` of the root repository. -/
def findValidRefreshToken (env : Env) (refreshToken : Arg) : Sync (Option RefreshToken) := do
  let now ← clock
  queryRoot fun db => (whereString env false refreshToken).map fun filter =>
    db.findValidRefreshToken filter now

/-- The branch of `execute` for a token that is not in the cache. -/
def refreshFromDb (env : Env) (cmd : UpdateRefreshAccessTokenCommand) : App String := do
  let refreshDbRecord ← Async.await (findValidRefreshToken env cmd.refreshToken)
  match refreshDbRecord with
  | none => throw invalidRefreshToken
  | some record =>
    if record.userId ≠ cmd.userId then
      throw invalidRefreshToken
    if record.ip ≠ some cmd.ip then
      handleTokenTheft env record.userId cmd.ip none
    let user ← Async.await (readRoot fun db => db.findUserById cmd.userId)
    match user with
    | none => throw userNotFound
    | some user => newAccessToken env cmd.clientCode (User.info user) cmd.ip

/-- The branch of `execute` for a cached token. A cached text has no `id`. -/
def refreshFromCache (env : Env) (cmd : UpdateRefreshAccessTokenCommand) :
    CacheValue → App String
  | .text _ => throw invalidRefreshToken
  | .payload record => do
    if record.id ≠ cmd.userId then
      throw invalidRefreshToken
    if record.ip ≠ cmd.ip then
      handleTokenTheft env record.id cmd.ip none
    newAccessToken env cmd.clientCode record.toUserInfo cmd.ip

/-- `UpdateRefreshAccessTokenHandler.execute`. -/
def updateRefreshAccessToken (env : Env) (cmd : UpdateRefreshAccessTokenCommand) :
    App String := do
  let tokenCacheRecord ← getRefreshTokenCache cmd.clientCode cmd.userId cmd.refreshToken.text
  match tokenCacheRecord with
  | some record =>
    if record.truthy then refreshFromCache env cmd record
    else refreshFromDb env cmd
  | none => refreshFromDb env cmd

structure UpdateResetPasswordConfirmCommand where
  token : Arg
  newPassword : Arg

def invalidResetToken : Exn := .badRequest "유효하지 않거나 만료된 토큰입니다."

/-- `hashPassword`: bcrypt hashes strings and rejects everything else. -/
def hashPassword (env : Env) : Arg → Sync String
  | .string password => fun w =>
    .ok (env.bcryptHash password w.draws) { w with draws := w.draws + 1 }
  | .undefined => throw (.error "data and salt arguments required")
  | .null => throw (.error "data and salt arguments required")
  | _ => throw (.error ("data must be a string or Buffer and salt must either be a salt " ++
      "string or a number of rounds"))

@[simp] theorem hashPassword_string (env : Env) (password : String) (w : World) :
    hashPassword env (.string password) w =
      .ok (env.bcryptHash password w.draws) { w with draws := w.draws + 1 } := rfl

/-- `findResetPasswordValidToken` of the root repository. -/
def findResetPasswordValidToken (env : Env) (token : Arg) : Sync (Option User) := do
  let now ← clock
  queryRoot fun db => (whereString env true token).map fun filter =>
    db.findResetPasswordValidToken filter now

/-- `UpdateResetPasswordConfirmHandler.execute`. A NULL expiry compares as zero. -/
def updateResetPasswordConfirm (env : Env) (cmd : UpdateResetPasswordConfirmCommand) :
    App String := do
  let user ← Async.await (findResetPasswordValidToken env cmd.token)
  match user with
  | none => throw invalidResetToken
  | some user =>
    let hashedPassword ← Async.await (do
      let now ← clock
      if user.resetPasswordExpires.getD 0 < now then
        throw invalidResetToken
      hashPassword env cmd.newPassword)
    Async.await (writeRoot fun db => db.updateUserById user.id (withPassword hashedPassword))
    return "비밀번호가 성공적으로 변경되었습니다."

/-- `AuthController.resetPassword`. -/
def resetPassword (env : Env) (body : Fields) : App String :=
  updateResetPasswordConfirm env
    { token := body.get "resetPasswordToken", newPassword := body.get "newPassword" }

/-- What the form of `reset-password.html` posts. -/
def resetPasswordForm (token newPassword : String) : Fields :=
  [("token", .string token), ("newPassword", .string newPassword)]

structure VerifyUserEmailCommand where
  encryptedClientCode : Arg
  signupVerifyToken : Arg
  ip : String

/-- `decryptClientCode`: the part before the first colon is the IV. -/
def decryptClientCode (env : Env) : Arg → Except Exn String
  | .string encrypted =>
    let pieces := (encrypted.toList.splitOn ':').map String.ofList
    env.aesDecrypt (pieces.headD "") pieces[1]?
  | .undefined => .error (.typeError "Cannot read properties of undefined (reading 'split')")
  | .null => .error (nullProperty "split")
  | _ => .error (.typeError
      "encrypted.split is not a function or its return value is not iterable")

/-- `findUserBySignupVerifyToken` of the tenant repository. -/
def tenantFindUserBySignupVerifyToken (env : Env) (clientCode : String) (token : Arg) :
    App (Option User) := do
  Async.await (getTenantClient clientCode)
  Async.await (queryTenant clientCode fun db => (whereString env false token).map fun filter =>
    db.findUserBySignupVerifyToken filter)

def tenantUpdateUserVerifiedTrue (clientCode email : String) : App Unit := do
  Async.await (getTenantClient clientCode)
  Async.await (writeTenant clientCode fun db => db.updateUserByEmail email withVerified)

def noSuchUser : Exn := .notFound "유저가 존재하지 않습니다."
def alreadyVerified : Exn := .notAcceptable "이미 가입이 완료된 유저입니다."

/-- `VerifyUserEmailHandler.execute`. -/
def verifyUserEmail (env : Env) (cmd : VerifyUserEmailCommand) : App LoginResponse :=
  match decryptClientCode env cmd.encryptedClientCode with
  | .error e => throw e
  | .ok clientCode => do
    let user ← tenantFindUserBySignupVerifyToken env clientCode cmd.signupVerifyToken
    match user with
    | none => throw noSuchUser
    | some user =>
      if user.verified then
        throw alreadyVerified
      tenantUpdateUserVerifiedTrue clientCode user.email
      tenantLogin env clientCode (User.info user) cmd.ip none none

/-- `AuthController.verifyEmail`. -/
def verifyEmail (env : Env) (query : Fields) (ip : String) : App LoginResponse :=
  verifyUserEmail env
    { encryptedClientCode := query.get "code"
      signupVerifyToken := query.get "signupVerifyToken", ip }

/-- `TwoFactorAuthService.isCodeValid`, an `async` function. -/
def isCodeValid (env : Env) (code twoFactorSecret : String) : App Bool :=
  pure (if twoFactorSecret = "" then false else env.otpVerify code twoFactorSecret)

structure VerifyTwoFactorOtpCommand where
  userId : String
  otp : String
  ip : String
  userAgent : String

def twoFactorNotSetUp : Exn := .unauthorized "2FA 설정이 완료되지 않았습니다."
def wrongCode : Exn := .unauthorized "잘못된 인증 코드입니다."

/-- `registerTrustedDevice` with a fresh device token. -/
def registerTrustedDevice (env : Env) (userId deviceName ip userAgent : String) : Sync String := do
  let deviceToken ← uuidv4 env
  let now ← clock
  writeRoot fun db => db.createTrustedDevice
    { userId, deviceToken, deviceName := some deviceName, ipAddress := some ip
      userAgent := some userAgent, expiresAt := now + minutes (60 * 24 * 30) }
  return deviceToken

/-- `VerifyTwoFactorOtpHandler.execute`; `isCodeValid` is called without `await`. -/
def verifyTwoFactorOtp (env : Env) (cmd : VerifyTwoFactorOtpCommand) : App String := do
  let user ← Async.await (readRoot fun db => db.findUserById cmd.userId)
  match user with
  | none => throw twoFactorNotSetUp
  | some user =>
    if !truthy user.twoFactorSecret then
      throw twoFactorNotSetUp
    let isValid : Promise Bool := ⟨isCodeValid env cmd.otp (user.twoFactorSecret.getD "")⟩
    if !isValid.truthy then
      throw wrongCode
    Async.await (writeRoot fun db => db.updateUserById cmd.userId (withTwoFactorEnabled true))
    Async.await (registerTrustedDevice env user.id "내 기기" cmd.ip cmd.userAgent)

structure Login2faTrustedDeviceRegCommand where
  email : String
  otp : String
  ip : String
  userAgent : String
  deviceName : Option String

def twoFactorNotEnabled : Exn := .unauthorized "2FA가 활성화되지 않았습니다."
def wrongOtp : Exn := .unauthorized "잘못된 OTP입니다."

/-- `Login2faTrustedDeviceRegHandler.execute`; `isCodeValid` is called without `await`. -/
def login2faTrustedDeviceReg (env : Env) (cmd : Login2faTrustedDeviceRegCommand) :
    App LoginResponse := do
  let user ← Async.await (readRoot fun db => db.findUserByEmail cmd.email)
  match user with
  | none => throw twoFactorNotEnabled
  | some user =>
    if !truthy user.twoFactorSecret || !user.isTwoFactorEnabled then
      throw twoFactorNotEnabled
    let isValid : Promise Bool := ⟨isCodeValid env cmd.otp (user.twoFactorSecret.getD "")⟩
    if !isValid.truthy then
      throw wrongOtp
    let deviceToken ← Async.await (registerTrustedDevice env user.id
      (cmd.deviceName.getD "Unknown device") cmd.ip cmd.userAgent)
    let loginResponse ← login env (User.info user) cmd.ip none none
    return { loginResponse with deviceToken := some deviceToken }

end NestUserService.Auth
