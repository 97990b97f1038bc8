import NestUserService.Shared.Cache

/-!
# AuthService

Root and tenant families side by side, as the source writes them. Calls keep the
source's argument order: where a call passes fewer arguments than the callee
declares, the values land in the parameters they land in at run time.
-/

namespace NestUserService.Auth

open Lib NestUserService.Core Shared

structure LoginResponse where
  accessToken : String
  refreshToken : String
  deviceToken : Option String
  deriving DecidableEq

def rootLoginClientCacheValue : String := "root"

def deviceTokenMissing : Exn :=
  .unauthorized ("2FA is enabled, but no device token provided, please OTP verfify and " ++
    "register your device first.")

def suspiciousLogin : Exn := .unauthorized "의심스러운 로그인 감지됨"

/-- Reading a property of `null`. -/
def nullProperty (property : String) : Exn :=
  .typeError ("Cannot read properties of null (reading '" ++ property ++ "')")

def invalidatePreviousRefreshTokens (userId : String) : App Unit :=
  .await (writeRoot fun db => .ok (db.invalidateRefreshTokens userId))

/-- `TenantRefreshTokenRepository.invalidatePreviousRefreshTokens`. -/
def tenantInvalidatePreviousRefreshTokens (clientCode userId : String) : App Unit := do
  Async.await (getTenantClient clientCode)
  Async.await (writeTenant clientCode fun db => .ok (db.invalidateRefreshTokens userId))

def setRootUserAccessTokenBlacklistCache (env : Env) (userId : String) : App Unit :=
  setUserAccessTokenBlacklistCache env rootLoginClientCacheValue userId

def setTenantUserAccessTokenBlacklistCache (env : Env) (clientCode userId : String) : App Unit :=
  setUserAccessTokenBlacklistCache env clientCode userId

def clearUserTokenCache (env : Env) (userId : String) : App Unit :=
  clearUserAllTokenCaches env rootLoginClientCacheValue userId

def clearTenantUserTokenCache (env : Env) (clientCode userId : String) : App Unit :=
  clearUserAllTokenCaches env clientCode userId

def invalidateUserTokens (userId : String) : App Unit :=
  .await (writeRoot fun db => .ok (db.invalidateRefreshTokens userId))

def tenantInvalidateUserTokens (clientCode userId : String) : App Unit :=
  tenantInvalidatePreviousRefreshTokens clientCode userId

def revokeRefreshToken (refreshToken : String) : App Unit :=
  .await (writeRoot fun db => .ok (db.revokeRefreshToken refreshToken))

def expireMinutes : Nat := 30

def suspiciousAccessText (clientCode userId : String) (ip : Option String) : String :=
  "🚨 [SECURITY] Suspicious IP access detected. \nClient Code: " ++ clientCode ++
    " \nUser ID: " ++ userId ++ "\nIP: " ++ ip.getD "undefined"

/-- `notifySecurityTeam(clientCode, userId, ip, locationText?)`. -/
def notifySecurityTeam (env : Env) (clientCode userId : String) (ip locationText : Option String) :
    App Unit := do
  Async.await (sendMessage (suspiciousAccessText clientCode userId ip))
  let user ← Async.await (readRoot fun db => db.findUserById userId)
  let resetToken ← Async.await (do
    let resetToken ← uuidv4 env
    let now ← clock
    writeRoot fun db =>
      db.updateUserById userId (withResetPassword resetToken (now + minutes expireMinutes))
    return resetToken)
  match user with
  | some user =>
    Async.await (sendSecurityAlertEmail env
      { mailTo := user.email, userName := user.name, suspiciousIp := ip, resetToken,
        expireMinutes, locationText })
  | none => pure ()

/-- The call of `notifySecurityTeam` passes three arguments for four parameters. -/
def handleTokenTheft (env : Env) (userId suspiciousIp : String) (locationText : Option String) :
    App Unit := do
  invalidateUserTokens userId
  Async.await (writeRoot fun db => .ok (db.ipUpsert suspiciousIp))
  notifySecurityTeam env userId suspiciousIp locationText none

/-- `tenantIpDenylistRepository.ipUpsert`; a `where` without the key is refused. -/
def tenantIpUpsert (clientCode : String) (suspiciousIp : Option String) : App Unit := do
  Async.await (getTenantClient clientCode)
  Async.await (writeTenant clientCode fun db =>
    match suspiciousIp with
    | some ip => .ok (db.ipUpsert ip)
    | none => .error .prismaValidation)

def tenantHandleTokenTheft (env : Env) (clientCode userId : String)
    (suspiciousIp locationText : Option String) : App Unit := do
  tenantInvalidateUserTokens clientCode userId
  tenantIpUpsert clientCode suspiciousIp
  notifySecurityTeam env userId (suspiciousIp.getD "undefined") locationText none

def deviceLifespanMinutes : Nat := 60 * 24 * 30

/-- The location of an address as the alert mail prints it. -/
def locationText (geo : Option Geo) : String :=
  match geo with
  | some g =>
    let country := if truthy g.country then g.country.getD "" else "Unknown"
    g.city.getD "" ++ ", " ++ country
  | none => "Unknown"

/-- The row that the two register steps write. -/
def newDevice (userId deviceToken : String) (ip userAgent : Option String) (now : Nat) :
    TrustedDevice :=
  { userId, deviceToken, deviceName := none, ipAddress := ip, userAgent
    expiresAt := now + minutes deviceLifespanMinutes }

def registerDevice (env : Env) (userId ip : String) (userAgent : Option String) (now : Nat) :
    Sync String := do
  let newToken ← uuidv4 env
  writeRoot fun db => db.createTrustedDevice (newDevice userId newToken (some ip) userAgent now)
  return newToken

def validateOrRegisterDevice (env : Env) (userId : String) (deviceToken : Option String)
    (ip : String) (userAgent : Option String) : App String := do
  if truthy deviceToken then
    let (now, deviceInfo) ← Async.await (do
      let now ← clock
      let deviceInfo ← readRoot fun db => db.findDeviceToken (deviceToken.getD "")
      return (now, deviceInfo))
    match deviceInfo with
    | none => throw (nullProperty "ipAddress")
    | some deviceInfo =>
      if deviceInfo.ipAddress ≠ some ip then
        handleTokenTheft env userId ip (some (locationText (env.geoLookup ip)))
        throw suspiciousLogin
      else if deviceInfo.userId = userId ∧ now < deviceInfo.expiresAt then
        return deviceToken.getD ""
      else
        Async.await (registerDevice env userId ip userAgent now)
  else
    Async.await (do
      let now ← clock
      registerDevice env userId ip userAgent now)

/-- `createTrustedDevice` of the tenant repository. -/
def tenantRegisterDevice (env : Env) (clientCode userId : String) (ip userAgent : Option String)
    (now : Nat) : App String := do
  let newToken ← Async.await (do
    let newToken ← uuidv4 env
    getTenantClient clientCode
    return newToken)
  Async.await (writeTenant clientCode fun db =>
    db.createTrustedDevice (newDevice userId newToken ip userAgent now))
  return newToken

/-- `tenantValidateOrRegisterDevice(clientCode, userId, deviceToken, ip, userAgent?)`.
An absent `ip` differs from every stored address, also from a NULL one. -/
def tenantValidateOrRegisterDevice (env : Env) (clientCode userId : String)
    (deviceToken ip userAgent : Option String) : App String := do
  if truthy deviceToken then
    let now ← Async.await (do
      let now ← clock
      getTenantClient clientCode
      return now)
    let deviceInfo ← Async.await (readTenant clientCode fun db =>
      db.findDeviceToken (deviceToken.getD ""))
    match deviceInfo with
    | none => throw (nullProperty "ipAddress")
    | some deviceInfo =>
      if ip = none ∨ deviceInfo.ipAddress ≠ ip then
        tenantHandleTokenTheft env clientCode userId ip (some (locationText (ip.bind env.geoLookup)))
        throw suspiciousLogin
      else if deviceInfo.userId = userId ∧ now < deviceInfo.expiresAt then
        return deviceToken.getD ""
      else
        tenantRegisterDevice env clientCode userId ip userAgent now
  else do
    let now ← Async.await clock
    tenantRegisterDevice env clientCode userId ip userAgent now

/-- What `generateTokens` computes before its first await. -/
structure Minted where
  accessToken : String
  refreshToken : String
  expiresAt : Nat
  issuedAt : Nat

def refreshTokenMinutes : Nat := 60 * 24 * 14

def mint (env : Env) (user : UserInfo) : Sync Minted := do
  let now ← clock
  let refreshToken ← uuidv4 env
  return {
    accessToken := env.sign (.user user) (now / 1000)
    refreshToken
    expiresAt := now + minutes refreshTokenMinutes
    issuedAt := now }

def Minted.row (m : Minted) (userId ip : String) : RefreshToken :=
  { token := m.refreshToken, userId, isValid := true, ip := some ip, expiresAt := m.expiresAt }

def Minted.payload (m : Minted) (user : UserInfo) (ip : String) : CacheValue :=
  .payload { toUserInfo := user, ip, issuedAt := m.issuedAt }

def Minted.response (m : Minted) (deviceToken : Option String) : LoginResponse :=
  { accessToken := m.accessToken, refreshToken := m.refreshToken
    deviceToken := if truthy deviceToken then deviceToken else none }

def generateTokens (env : Env) (user : UserInfo) (ip : String)
    (deviceToken : Option String := none) : App LoginResponse := do
  let minted ← Async.await (do
    let minted ← mint env user
    writeRoot fun db => db.createRefreshToken (minted.row user.id ip)
    return minted)
  setUserAllTokenCache env rootLoginClientCacheValue user.id minted.accessToken
    minted.refreshToken (minted.payload user ip) deviceToken
  return minted.response deviceToken

def tenantGenerateTokens (env : Env) (clientCode : String) (user : UserInfo) (ip : String)
    (deviceToken : Option String := none) : App LoginResponse := do
  let minted ← Async.await (do
    let minted ← mint env user
    getTenantClient clientCode
    return minted)
  Async.await (writeTenant clientCode fun db =>
    db.createRefreshToken (minted.row user.id ip))
  setUserAllTokenCache env clientCode user.id minted.accessToken
    minted.refreshToken (minted.payload user ip) deviceToken
  return minted.response deviceToken

def loginText (userId ip : String) : String := "User " ++ userId ++ " login from IP " ++ ip

def tenantLoginText (clientCode userId ip : String) : String :=
  "Tenant Client " ++ clientCode ++ " User " ++ userId ++ " login from IP " ++ ip

/-- The Slack message is not awaited by the source; nothing reads the Slack log. -/
def login (env : Env) (user : UserInfo) (ip : String) (deviceToken userAgent : Option String) :
    App LoginResponse := do
  invalidatePreviousRefreshTokens user.id
  setRootUserAccessTokenBlacklistCache env user.id
  clearUserTokenCache env user.id
  Async.await (sendMessage (loginText user.id ip))
  if user.isTwoFactorEnabled && !truthy deviceToken then
    throw deviceTokenMissing
  if user.isTwoFactorEnabled then
    let _ ← validateOrRegisterDevice env user.id deviceToken ip userAgent
  generateTokens env user ip

/-- The call of `tenantValidateOrRegisterDevice` leaves out the client code, so every
argument is shifted by one parameter. A device token is present at that call. -/
def tenantLogin (env : Env) (clientCode : String) (user : UserInfo) (ip : String)
    (deviceToken userAgent : Option String) : App LoginResponse := do
  tenantInvalidatePreviousRefreshTokens clientCode user.id
  setTenantUserAccessTokenBlacklistCache env clientCode user.id
  clearTenantUserTokenCache env clientCode user.id
  Async.await (sendMessage (tenantLoginText clientCode user.id ip))
  if user.isTwoFactorEnabled && !truthy deviceToken then
    throw deviceTokenMissing
  if user.isTwoFactorEnabled then
    let _ ← tenantValidateOrRegisterDevice env user.id (deviceToken.getD "") (some ip)
      userAgent none
  tenantGenerateTokens env clientCode user ip

end NestUserService.Auth
