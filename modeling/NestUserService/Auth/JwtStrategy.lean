import NestUserService.Auth.Service

/-!
# Middlewares and JwtStrategy

Three pieces of code read the Authorization header: passport-jwt's extractor, the
access-token middleware, and `validate` itself. Each is embedded as it is written,
so that their agreement is a question and not an assumption.
-/

namespace NestUserService.Auth

open Lib NestUserService.Core Shared

structure Request where
  originalUrl : String
  authorization : Option String
  xTenantId : Option String
  xForwardedFor : Option String
  ip : String
  /-- `req['token']`, set by the access-token middleware. -/
  token : Option String := none
  /-- `req['tenantId']`, set by the tenant middleware. -/
  tenantId : Option String := none

/-- `s.split(' ')[1]`. -/
def secondWord (s : String) : Option String :=
  (Text.secondPiece ' ' s.toList).map String.ofList

/-- `AccessTokenMiddleware.use`. -/
def accessTokenMiddleware (req : Request) : Request :=
  if req.originalUrl = "/favicon.ico" then req
  else
    match req.authorization with
    | some authHeader =>
      if "Bearer ".toList.isPrefixOf authHeader.toList then
        { req with token := secondWord authHeader }
      else req
    | none => req

/-- `TenantMiddleware.use`. -/
def tenantMiddleware (req : Request) : Except Exn Request :=
  if req.originalUrl = "/favicon.ico" then .ok req
  else if truthy req.xTenantId then .ok { req with tenantId := req.xTenantId }
  else .error (.badRequest "X-Tenant-ID header is missing or invalid.")

/-- passport-jwt's `fromAuthHeaderAsBearerToken`. -/
def fromAuthHeaderAsBearerToken (header : String) : Option String :=
  match Text.twoWords header.toList with
  | some (scheme, value) =>
    if scheme.map Char.toLower = "bearer".toList then some (String.ofList value) else none
  | none => none

/-- The claims of a verified token that `validate` reads. -/
structure JwtPayload where
  id : Option String
  sub : Option String := none
  deriving DecidableEq

/-- `payload.id || payload.sub`, as it is printed into a key. -/
def JwtPayload.userId (payload : JwtPayload) : String :=
  (if truthy payload.id then payload.id else payload.sub).getD "undefined"

/-- The address that `validate` caches. -/
def Request.clientIp (req : Request) : String :=
  match req.xForwardedFor with
  | some forwarded => String.ofList ((forwarded.toList.splitOn ',').headD [])
  | none => req.ip

/-- The string that `validate` takes for the access token. -/
def Request.accessToken (req : Request) : Option String := req.authorization.bind secondWord

def tokenNotFound : Exn := .unauthorized "Invalid token payload"
def noTokenFound : Exn := .unauthorized "No token found"
def accessTokenRevoked : Exn := .unauthorized "Access token has been revoked"
def userNotFound : Exn := .unauthorized "User not found"

/-- `user.findFirst({ where: { id: payload.id }, include: { refreshTokens: true } })`. -/
def findPayloadUser (db : Db) (payload : JwtPayload) : Option (User × List RefreshToken) :=
  (db.user.findFirst fun u => payload.id.all (fun id => u.id == id)).map fun u =>
    (u, db.refreshTokensOf u.id)

/-- The five fields of a row that `UserInfo` names. -/
def User.info (u : User) : UserInfo :=
  { id := u.id, name := u.name, email := u.email, clientId := u.clientId
    isTwoFactorEnabled := u.isTwoFactorEnabled }

/-- The part of `validate` after the cache lookups: read the user, cache, return. -/
def validateFromDb (env : Env) (clientCode accessToken ip : String) (payload : JwtPayload) :
    App CacheValue := do
  let userInfoDb ← Async.await (readRoot fun db => findPayloadUser db payload)
  match userInfoDb with
  | none => throw userNotFound
  | some (user, refreshTokens) =>
    let issuedAt ← Async.await clock
    let saveCacheValue := CacheValue.payload { toUserInfo := User.info user, ip, issuedAt }
    match refreshTokens.find? fun t => t.isValid with
    | some validRefreshToken =>
      setUserAllTokenCache env clientCode user.id accessToken validRefreshToken.token
        saveCacheValue
    | none => setUserAccessTokenCache env clientCode user.id accessToken saveCacheValue
    return saveCacheValue

/-- `JwtStrategy.validate`, for a payload that passport has verified. -/
def validate (env : Env) (req : Request) (payload : JwtPayload) : App CacheValue := do
  if !truthy req.token then
    throw tokenNotFound
  let clientCode := req.tenantId.getD "undefined"
  match req.accessToken with
  | none => throw noTokenFound
  | some accessToken =>
    if accessToken = "" then
      throw noTokenFound
    let isBlacklisted ← getIsAccessTokenBlacklistCache clientCode payload.userId accessToken
    if isBlacklisted then
      throw accessTokenRevoked
    let userInfoCache ← getAccessTokenCache clientCode payload.userId accessToken
    match userInfoCache with
    | some value =>
      if value.truthy then return value
      else validateFromDb env clientCode accessToken req.clientIp payload
    | none => validateFromDb env clientCode accessToken req.clientIp payload

/-- A request for a bearer token under a tenant header, after both middlewares. -/
def bearerRequest (accessToken clientCode ip : String) : Request :=
  { originalUrl := "/", authorization := some ("Bearer " ++ accessToken)
    xTenantId := some clientCode, xForwardedFor := none, ip
    token := some accessToken, tenantId := some clientCode }

end NestUserService.Auth
