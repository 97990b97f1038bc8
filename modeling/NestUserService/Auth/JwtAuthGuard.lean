import NestUserService.Auth.TwoFactorQr

/-!
# JwtAuthGuard and the routes behind it

The guard verifies the bearer token, asks `JwtStrategy.validate` for the user object and
puts it into the request. The four routes behind the guard read the user from there.
-/

namespace NestUserService.Auth

open Lib NestUserService.Core Shared

structure GuardEnv extends TwoFactorEnv where
  /-- `jwt.verify` at a time; an error is known by its name. -/
  verifyJwt : String → Nat → Except String JwtPayload

/-- The sample configuration; one token verifies, for an hour. -/
def GuardEnv.sample : GuardEnv where
  toTwoFactorEnv := .sample
  verifyJwt token now :=
    if token = TwoFactorQr.sampleToken then
      if now / 1000 < 1 + Env.sample.accessTokenExpire then .ok TwoFactorQr.samplePayload
      else .error "TokenExpiredError"
    else .error "JsonWebTokenError"

/-- The refusal of `TenantMiddleware`. -/
def tenantHeaderMissing : Exn := .badRequest "X-Tenant-ID header is missing or invalid."

def sessionExpired : Exn := .unauthorized "Session expired. Please login again."
def invalidToken : Exn := .unauthorized "Invalid token. Please reauthenticate."
def tokenNotActive : Exn := .unauthorized "Token not active yet."
def authenticationFailed : Exn := .unauthorized "Authentication failed. Please login."

/-- `JwtAuthGuard.handleRequest` when there is no user; a missing token is a plain
`Error`. -/
def handleRequest (authErrorName : String) : Exn :=
  if authErrorName = "TokenExpiredError" then sessionExpired
  else if authErrorName = "JsonWebTokenError" then invalidToken
  else if authErrorName = "NotBeforeError" then tokenNotActive
  else authenticationFailed

/-- The token of the request, verified at a time. -/
def verifiedPayload (env : GuardEnv) (req : Request) (now : Nat) : Except String JwtPayload :=
  match req.authorization.bind fromAuthHeaderAsBearerToken with
  | none => .error "Error"
  | some token => env.verifyJwt token now

/-- The first half of passport-jwt, with the refusals of the guard. -/
def verifyToken (env : GuardEnv) (req : Request) : Sync JwtPayload := do
  let now ← clock
  match verifiedPayload env req now with
  | .error name => throw (handleRequest name)
  | .ok payload => return payload

theorem verifyToken_ok {env : GuardEnv} {req : Request} {w : World} {payload : JwtPayload}
    (h : verifiedPayload env req w.now = .ok payload) : verifyToken env req w = .ok payload w := by
  unfold verifyToken
  rw [sync_bind, clock_apply]
  simp only [h]
  rfl

theorem verifyToken_error {env : GuardEnv} {req : Request} {w : World} {name : String}
    (h : verifiedPayload env req w.now = .error name) :
    verifyToken env req w = .error (handleRequest name) w := by
  unfold verifyToken
  rw [sync_bind, clock_apply]
  simp only [h]
  rfl

/-- `JwtAuthGuard.canActivate` on a route that is not public: passport-jwt, and then the
strategy. -/
def jwtAuthGuard (env : GuardEnv) (req : Request) : App CacheValue := do
  let payload ← Async.await (verifyToken env req)
  validate env.toEnv req payload

/-- `findFirst({ where: { id } })`; an undefined id is no condition. -/
def findUserByIdArg (db : Db) (id : Option String) : Option User :=
  db.user.findFirst fun u => id.all fun id => u.id == id

/-- `AuthController.verifyTwoFactorAuth`. Without an id the update is refused. -/
def verifyTwoFactorAuth (env : GuardEnv) (user : CacheValue) (otp ip userAgent : String) :
    App String :=
  match user.id? with
  | some userId => verifyTwoFactorOtp env.toEnv { userId, otp, ip, userAgent }
  | none => do
    let user ← Async.await (readRoot fun db => findUserByIdArg db none)
    if !truthy (user.bind User.twoFactorSecret) then
      throw twoFactorNotSetUp
    throw .prismaValidation

/-- The `ip` property of a user object, as it is printed. -/
def cachedIp : CacheValue → String
  | .payload p => p.ip
  | .text _ => "undefined"

/-- `AuthController.updateTrustedDevice`: the device id goes where a refresh token is
expected. -/
def updateTrustedDevice (env : GuardEnv) (req : Request) (user : CacheValue) (deviceId : Arg) :
    App String :=
  updateRefreshAccessToken env.toEnv
    { clientCode := req.tenantId.getD "undefined", userId := user.id?.getD "undefined"
      refreshToken := deviceId, ip := cachedIp user }

def subscriptionRequired : Exn := .forbidden "Client subscription required"

/-- `ClientRepository.isClientPaidByUserInfo`. -/
def isClientPaidByUserInfo (env : GuardEnv) (userId : Option String) : Sync Bool := do
  let now ← clock
  queryRoot fun db =>
    match findUserByIdArg db userId with
    | none => .ok false
    | some user =>
      match user.clientId.bind fun id => (env.client now).findFirst fun c => c.id == id with
      | some client => .ok client.isPaid
      | none => .error (nullProperty "isPaid")

/-- `PaidClientGuard.canActivate`, behind `JwtAuthGuard`. -/
def paidClientGuard (env : GuardEnv) (user : CacheValue) : App Unit := do
  let isPaid ← Async.await (isClientPaidByUserInfo env user.id?)
  if !isPaid then
    throw subscriptionRequired

/-- `GetClientUserInfoHandler.execute`, with the row and the client it answers. -/
def getClientUserInfo (env : GuardEnv) (id email : Arg) : App (User × Tenant.Client) := do
  if !isTruthy id && !isTruthy email then
    throw idOrEmailRequired
  let user ← Async.await (if isTruthy id then getUserByIdForClientAdmin env.toLoginEnv id
    else getUserByEmailForClientAdmin env.toLoginEnv email)
  match user with
  | some user => return user
  | none => throw resetUserMissing

/-- `ClientAdminsController.findOne`. The path of the route has no parameter `id`. -/
def findOne (env : GuardEnv) (user : CacheValue) : App (User × Tenant.Client) := do
  paidClientGuard env user
  getClientUserInfo env .undefined .undefined

end NestUserService.Auth
