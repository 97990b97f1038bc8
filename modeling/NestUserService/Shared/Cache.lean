import NestUserService.Lib.Glob
import NestUserService.Lib.Text
import NestUserService.Core.World

/-!
# CustomCacheService

Keys are plain concatenations, exactly as the service builds them. The two scan
loops follow a complete SCAN iteration of the environment; every reply, every write
and every deletion is an await of its own.
-/

namespace NestUserService.Shared

open Lib NestUserService.Core

def getClientPrefix (clientCode : String) : String := "client:" ++ clientCode

def getUserTokenPrefix (clientCode userId : String) : String :=
  getClientPrefix clientCode ++ ":user:" ++ userId ++ ":token"

def getUserAccessTokenPrefix (clientCode userId : String) : String :=
  getUserTokenPrefix clientCode userId ++ ":access"

def getUserRefreshTokenPrefix (clientCode userId : String) : String :=
  getUserTokenPrefix clientCode userId ++ ":refresh"

def getUserDeviceTokenPrefix (clientCode userId : String) : String :=
  getUserTokenPrefix clientCode userId ++ ":device"

def getUserBlacklistTokenPrefix (clientCode userId : String) : String :=
  getUserTokenPrefix clientCode userId ++ ":blacklist"

def accessKey (clientCode userId token : String) : String :=
  getUserAccessTokenPrefix clientCode userId ++ ":" ++ token

def refreshKey (clientCode userId token : String) : String :=
  getUserRefreshTokenPrefix clientCode userId ++ ":" ++ token

def deviceKey (clientCode userId token : String) : String :=
  getUserDeviceTokenPrefix clientCode userId ++ ":" ++ token

def blacklistKey (clientCode userId token : String) : String :=
  getUserBlacklistTokenPrefix clientCode userId ++ ":" ++ token

def cacheGet (key : String) : Sync (Option CacheValue) := fun w =>
  .ok (w.redis.find? w.now key) w

def cacheSet (key : String) (value : CacheValue) (ttl : Nat) : Sync Unit := fun w =>
  .ok () { w with redis := w.redis.put key (Entry.stamp value w.now ttl) }

def cacheDel (key : String) : Sync Unit := fun w =>
  .ok () { w with redis := w.redis.del key }

/-- The start of a SCAN iteration: the environment fixes its replies. -/
def scanStart (env : Env) : Sync ScanPlan := fun w =>
  .ok (env.scanPlan w.draws) { w with draws := w.draws + 1 }

/-- One reply of `SCAN cursor MATCH pattern COUNT 100`. -/
def scan (pattern : String) (reply : String → Bool) : Sync (List String) := fun w =>
  .ok ((w.redis.liveKeys w.now).filter fun k => reply k && Glob.isMatch pattern k) w

def getAccessTokenCache (clientCode userId jwtString : String) : App (Option CacheValue) :=
  .await (cacheGet (accessKey clientCode userId jwtString))

def getRefreshTokenCache (clientCode userId jwtString : String) : App (Option CacheValue) :=
  .await (cacheGet (refreshKey clientCode userId jwtString))

def getIsAccessTokenBlacklistCache (clientCode userId jwtString : String) : App Bool := do
  let isBlacklist ← Async.await (cacheGet (blacklistKey clientCode userId jwtString))
  return isBlacklist.any CacheValue.truthy

def setUserAccessTokenCache (env : Env) (clientCode userId jwtString : String)
    (value : CacheValue) (ttl : Option Nat := none) : App Unit :=
  .await (cacheSet (accessKey clientCode userId jwtString) value
    (ttl.getD env.accessTokenCacheExpiresIn))

def setUserRefreshTokenCache (env : Env) (clientCode userId jwtString : String)
    (value : CacheValue) (ttl : Option Nat := none) : App Unit :=
  .await (cacheSet (refreshKey clientCode userId jwtString) value
    (ttl.getD env.refreshTokenCacheExpiresIn))

def setUserDeviceTokenCache (env : Env) (clientCode userId jwtString : String)
    (value : CacheValue) (ttl : Option Nat := none) : App Unit :=
  .await (cacheSet (deviceKey clientCode userId jwtString) value
    (ttl.getD env.refreshTokenCacheExpiresIn))

def setUserAllTokenCache (env : Env) (clientCode userId accessToken refreshToken : String)
    (value : CacheValue) (deviceToken : Option String := none) (ttl : Option Nat := none) :
    App Unit := do
  setUserAccessTokenCache env clientCode userId accessToken value ttl
  setUserRefreshTokenCache env clientCode userId refreshToken value ttl
  match deviceToken with
  | some device =>
    if device ≠ "" then setUserDeviceTokenCache env clientCode userId device value ttl
  | none => pure ()

/-- The effective time-to-live of a blacklist entry. -/
def blacklistTtl (env : Env) : Nat :=
  if env.accessTokenBlacklistCacheExpiresIn > 0 then env.accessTokenBlacklistCacheExpiresIn
  else 60 * 60 * 1000

/-- `key.split(':').pop()`. -/
def tokenOfKey (key : String) : String := String.ofList (Text.lastPiece ':' key.toList)

def blacklistFound (env : Env) (clientCode userId key : String) : App Unit :=
  if tokenOfKey key ≠ "" then
    .await (cacheSet (blacklistKey clientCode userId (tokenOfKey key)) (.text "blacklisted")
      (blacklistTtl env))
  else pure ()

def blacklistReply (env : Env) (clientCode userId : String) (reply : String → Bool) :
    App Unit := do
  let keys ← Async.await (scan (getUserAccessTokenPrefix clientCode userId ++ ":*") reply)
  keys.forM (blacklistFound env clientCode userId)

def setUserAccessTokenBlacklistCache (env : Env) (clientCode userId : String) : App Unit := do
  let plan ← Async.await (scanStart env)
  plan.replies.forM (blacklistReply env clientCode userId)

def deleteReply (pattern : String) (reply : String → Bool) : App Unit := do
  let keys ← Async.await (scan pattern reply)
  keys.forM fun key => Async.await (cacheDel key)

def deleteKeysByPattern (env : Env) (pattern : String) : App Unit := do
  let plan ← Async.await (scanStart env)
  plan.replies.forM (deleteReply pattern)

def clearUserAllTokenCaches (env : Env) (clientCode userId : String) : App Unit := do
  deleteKeysByPattern env (getUserAccessTokenPrefix clientCode userId ++ ":*")
  deleteKeysByPattern env (getUserRefreshTokenPrefix clientCode userId ++ ":*")

end NestUserService.Shared
