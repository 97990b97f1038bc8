import NestUserService.Tenant.Host

/-!
# TenantPrismaService

The await points of `getPrismaClientByCode` are the Redis read, the root lookup, the
Redis write, the dynamic import and `$connect`; the code before the first and after
the last of them are steps of their own. The timer callback is synchronous.
-/

namespace NestUserService.Tenant

open Lib NestUserService.Core

/-- `getTenantDbUrlPrefix`. -/
def tenantDbUrlKey (clientCode : String) : String := "tenant:" ++ clientCode ++ ":dbUrl"

def invalidClientCode (clientCode : String) : Exn := Core.invalidClientCode clientCode

/-- The loop body of `evictLeastRecentlyUsedClient`; `none` is the initial `Infinity`. -/
def older (oldest : Option (String × Nat)) (entry : String × Nat) : Option (String × Nat) :=
  match oldest with
  | some (_, oldestTime) => if entry.2 < oldestTime then some entry else oldest
  | none => some entry

/-- Disconnect a client and forget it. -/
def Host.drop (s : Host) (key : String) : Host :=
  { s with
    disconnected := s.disconnected ++ (s.clientMap.get? key).toList
    clientMap := s.clientMap.delete key
    lastUsedMap := s.lastUsedMap.delete key }

def evictLeastRecentlyUsedClient (s : Host) : Host :=
  match s.lastUsedMap.entries.foldl older none with
  | some (oldestKey, _) => if oldestKey ≠ "" then s.drop oldestKey else s
  | none => s

def isIdle (env : Config) (now lastUsed : Nat) : Bool :=
  env.tenantClientCacheIdleTimeout.any fun timeout => decide (timeout < (now : Int) - lastUsed)

/-- The timer callback. The loop deletes no entry but the one it is at. -/
def cleanupIdleClients (env : Config) (s : Host) : Host :=
  s.lastUsedMap.entries.foldl
    (fun s' entry => if isIdle env s.now entry.2 then s'.drop entry.1 else s') s

/-- Up to the first await: the clock, and the in-memory cache. -/
def memoryCache (clientCode : String) : HostSync (Nat × Option PrismaClient) := fun s =>
  match s.clientMap.get? clientCode with
  | some client =>
    .ok (s.now, some client) { s with lastUsedMap := s.lastUsedMap.set clientCode s.now }
  | none => .ok (s.now, none) s

def getTenantClientDbUrlCache (env : Config) (clientCode : String) : HostSync (Option CacheValue) :=
  external env fun s => .ok (s.redis.find? s.now (tenantDbUrlKey clientCode)) s

def setTenantClientDbUrlCache (env : Config) (clientCode dbUrl : String) : HostSync Unit :=
  external env fun s => .ok () { s with
    redis := s.redis.put (tenantDbUrlKey clientCode)
      (Entry.stamp (.text dbUrl) s.now env.tenantClientDbUrlCacheExpiresIn) }

/-- `rootPrisma.client.findUnique({ where: { clientCode } })`. -/
def findClientByCode (env : Config) (clientCode : String) : HostSync (Option Client) :=
  external env fun s => .ok (s.client.findFirst fun r => r.clientCode == clientCode) s

def clientFolder (clientCode : String) : String := "client_" ++ clientCode

def moduleNotFound (clientCode : String) : Exn :=
  .error ("Cannot find module '../../prisma/generated/" ++ clientFolder clientCode ++ "'")

/-- `await import(generatedPath)`. -/
def importClient (env : Config) (clientCode : String) : HostSync Unit :=
  external env fun s =>
    if env.folder (clientFolder clientCode) ∈ s.generated then .ok () s
    else .error (moduleNotFound clientCode) s

def databaseNotFound : Exn := .prisma "P1003"

/-- `await tenantClient.$connect()`. -/
def connect (env : Config) (tenantClient : PrismaClient) (url : String) : HostSync PrismaClient :=
  external env fun s =>
    if (s.databases (env.databaseOf url)).isSome then .ok tenantClient s
    else .error databaseNotFound s

/-- `new PrismaClient(..)`, which refuses a URL that is no string, and its `$connect`. -/
def connectClient (env : Config) (clientCode : String) (dbUrl : CacheValue) :
    HostSync PrismaClient := fun s =>
  match dbUrl with
  | .payload _ => .error .prismaValidation s
  | .text url =>
    connect env ⟨s.constructed, clientCode, dbUrl⟩ url { s with constructed := s.constructed + 1 }

/-- 4. -/
def makeRoom (env : Config) (s : Host) : Host :=
  if env.tenantClientCacheMaxSize.any fun maxSize => decide (maxSize ≤ (s.clientMap.size : Int)) then
    evictLeastRecentlyUsedClient s
  else s

/-- 5. The client is stored under the time at which the call started. -/
def Host.remember (s : Host) (clientCode : String) (now : Nat) (tenantClient : PrismaClient) :
    Host :=
  { s with
    clientMap := s.clientMap.set clientCode tenantClient
    lastUsedMap := s.lastUsedMap.set clientCode now }

/-- After the last await. -/
def cacheClient (env : Config) (clientCode : String) (now : Nat) (tenantClient : PrismaClient)
    (s : Host) : Host :=
  (makeRoom env s).remember clientCode now tenantClient

-- The rest of `getPrismaClientByCode` from each of its awaits on, last one first.

def storeClient (env : Config) (clientCode : String) (now : Nat) (tenantClient : PrismaClient) :
    HostApp PrismaClient := do
  Async.await fun s => .ok () (cacheClient env clientCode now tenantClient s)
  return tenantClient

/-- 3. -/
def openClient (env : Config) (clientCode : String) (now : Nat) (dbUrl : CacheValue) :
    HostApp PrismaClient := do
  let tenantClient ← Async.await (connectClient env clientCode dbUrl)
  storeClient env clientCode now tenantClient

def loadClient (env : Config) (clientCode : String) (now : Nat) (dbUrl : CacheValue) :
    HostApp PrismaClient := do
  Async.await (importClient env clientCode)
  openClient env clientCode now dbUrl

def fillDbUrlCache (env : Config) (clientCode : String) (now : Nat) (dbUrl : String) :
    HostApp PrismaClient := do
  Async.await (setTenantClientDbUrlCache env clientCode dbUrl)
  loadClient env clientCode now (.text dbUrl)

/-- `if (!client || !client.dbUrl) throw`. -/
def useDbUrl (env : Config) (clientCode : String) (now : Nat) (client : Option Client) :
    HostApp PrismaClient :=
  match client.bind Client.dbUrl with
  | some dbUrl =>
    if dbUrl ≠ "" then fillDbUrlCache env clientCode now dbUrl
    else throw (invalidClientCode clientCode)
  | none => throw (invalidClientCode clientCode)

/-- 2. -/
def lookupDbUrl (env : Config) (clientCode : String) (now : Nat) : HostApp PrismaClient := do
  let client ← Async.await (findClientByCode env clientCode)
  useDbUrl env clientCode now client

/-- 1. -/
def readDbUrlCache (env : Config) (clientCode : String) (now : Nat) : HostApp PrismaClient := do
  let dbUrl ← Async.await (getTenantClientDbUrlCache env clientCode)
  match dbUrl with
  | some url =>
    if url.truthy then
      loadClient env clientCode now url
    else
      lookupDbUrl env clientCode now
  | none => lookupDbUrl env clientCode now

def getPrismaClientByCode (env : Config) (clientCode : String) : HostApp PrismaClient := do
  let (now, cached) ← Async.await (memoryCache clientCode)
  match cached with
  | some client => return client
  | none => readDbUrlCache env clientCode now

end NestUserService.Tenant
