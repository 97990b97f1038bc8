import NestUserService.Core.World
import NestUserService.Lib.OrderedMap

/-!
# The host of the tenant databases

`Host` is what the tenant client manager and the provisioning handler share: the
`Client` rows of the root database, the Redis key space, the MySQL server, the files
that the Prisma command line reads and writes, and the in-memory maps of
`TenantPrismaService`. `Config` collects the configuration and what the code takes
from outside; no law of those functions is built in.
-/

namespace NestUserService.Tenant

open Lib NestUserService.Core

/-- The `Client` model, in the root database and in every tenant database. -/
structure Client where
  id : String
  clientCode : String
  name : Option String := none
  isPaid : Bool := false
  dbUrl : Option String := none
  dbName : Option String := none
  isDbCreated : Bool := false
  deriving DecidableEq

instance : Keyed Client := ⟨[Client.id, Client.clientCode]⟩

/-- A database on the MySQL server. Its tables are there when all migrations have been
applied; Prisma refuses to go on after a migration that failed. -/
structure TenantDb where
  applied : Nat
  failed : Bool
  client : Table Client
  user : Table User

def TenantDb.created : TenantDb := ⟨0, false, .empty, .empty⟩

/-- A `PrismaClient` of the generated client for a code, in the order of construction. -/
structure PrismaClient where
  id : Nat
  clientCode : String
  url : CacheValue
  deriving DecidableEq

/-- The `url` line of a datasource block. -/
inductive Datasource where
  | env (key : String)
  | url (literal : String)
  deriving DecidableEq

/-- What `prisma/schema.tenant.prisma` says besides the models. -/
structure Schema where
  datasource : Datasource
  output : String
  deriving DecidableEq

/-- A failure of an external operation. The operation may have taken place all the same,
and migrations may have got some way, the last of them not to its end. -/
structure Fault where
  error : Exn
  progress : Nat := 0
  midway : Bool := false

structure UserCreatedEvent where
  email : String
  encryptedClientCode : String
  signupVerifyToken : String
  deriving DecidableEq

structure Config where
  /-- `parseInt` of the setting; `none` is `NaN`, which passes no comparison. -/
  tenantClientCacheMaxSize : Option Int
  tenantClientCacheIdleTimeout : Option Int
  tenantClientDbUrlCacheExpiresIn : Nat
  /-- `DATABASE_BASE_URL` and `DATABASE_URL` of the server process. -/
  databaseBaseUrl : Option String
  databaseUrl : Option String
  /-- The other variables of the process environment. -/
  processEnv : String → Option String
  /-- The database on the server that a connection URL names. -/
  databaseOf : String → String
  /-- The directory entry that a name under `prisma/generated` is resolved to. -/
  folder : String → String
  toLowerCase : String → String
  toUpperCase : String → String
  /-- The random values, indexed by the number of draws made before. -/
  ulid : Nat → String
  uuidv1 : Nat → String
  bcryptHash : String → Nat → String
  encryptClientCode : String → Except Exn (Nat → String)
  /-- Whether the external operation with this number fails. -/
  fault : Nat → Option Fault

structure Host where
  /-- The clock, in milliseconds. -/
  now : Nat
  /-- The `Client` rows of the root database. -/
  client : Table Client
  redis : Store CacheValue
  /-- The databases of the MySQL server by name. -/
  databases : String → Option TenantDb
  schemaFile : Schema
  /-- The lines of `.env`. -/
  envFile : List (String × String)
  /-- The directories under `prisma/generated`, where Prisma writes the clients. -/
  generated : List String
  /-- The directories under `prisma/generated` of the compiled sources. -/
  distGenerated : List String
  clientMap : OrderedMap PrismaClient
  lastUsedMap : OrderedMap Nat
  /-- The number of `PrismaClient`s constructed so far. -/
  constructed : Nat
  /-- The clients on which `$disconnect` was called. -/
  disconnected : List PrismaClient
  published : List UserCreatedEvent
  draws : Nat
  /-- The number of external operations so far. -/
  operations : Nat

/-- Synchronous code between two awaits. -/
abbrev HostSync := EStateM Exn Host

/-- An `async` function on the host. -/
abbrev HostApp := Async Host Exn

/-- The state after an external operation has been started. -/
def Host.count (s : Host) : Host := { s with operations := s.operations + 1 }

/-- An operation outside the process, and what is left of it when it fails. -/
def attempt {α : Type} (env : Config) (leave : Fault → Host → Host) (x : HostSync α) :
    HostSync α := fun s =>
  match env.fault s.operations with
  | some f => .error f.error (leave f s.count)
  | none => x s.count

/-- An operation that leaves nothing when it fails. -/
def external {α : Type} (env : Config) (x : HostSync α) : HostSync α :=
  attempt env (fun _ s => s) x

/-- An operation that changes the state. When it is reported as failed, it may have taken
place. -/
def change (env : Config) (f : Host → Except Exn Host) : HostSync Unit :=
  attempt env
    (fun fault s => if fault.progress = 0 then s else
      match f s with
      | .ok s' => s'
      | .error _ => s)
    fun s => match f s with
      | .ok s' => .ok () s'
      | .error e => .error e s

/-- A host that has just started: no client is connected. -/
structure Host.Started (s : Host) : Prop where
  clientMap : s.clientMap = .empty
  lastUsedMap : s.lastUsedMap = .empty
  constructed : s.constructed = 0
  disconnected : s.disconnected = []

/-- Readable stand-ins: the default cache settings with room for two clients, a
case-sensitive file system, no failures. -/
def Config.sample : Config where
  tenantClientCacheMaxSize := some 2
  tenantClientCacheIdleTimeout := some (30 * 60 * 1000)
  tenantClientDbUrlCacheExpiresIn := 60 * 60 * 1000
  databaseBaseUrl := some "mysql://db:3306"
  databaseUrl := some "mysql://db:3306/users"
  processEnv _ := none
  databaseOf url := String.ofList ((url.toList.splitOn '/').getLastD [])
  folder name := name
  toLowerCase := String.toLower
  toUpperCase := String.toUpper
  ulid n := "ulid-" ++ toString n
  uuidv1 n := "uuid-" ++ toString n
  bcryptHash password n := "bcrypt-" ++ toString n ++ "-" ++ password
  encryptClientCode code := .ok fun n => toString n ++ ":" ++ code
  fault _ := none

/-- A service before its first request: no client is provisioned. -/
def Host.start (client : Table Client) : Host where
  now := 1000
  client := client
  redis := .empty
  databases _ := none
  schemaFile := ⟨.url "mysql://db:3306/client_auto", "client_auto"⟩
  envFile := []
  generated := []
  distGenerated := []
  clientMap := .empty
  lastUsedMap := .empty
  constructed := 0
  disconnected := []
  published := []
  draws := 0
  operations := 0

/-- A provisioned client. -/
def Client.provisioned (clientCode : String) : Client where
  id := "id-" ++ clientCode
  clientCode := clientCode
  isPaid := true
  dbUrl := some ("mysql://db:3306/client_" ++ clientCode)
  dbName := some ("client_" ++ clientCode)
  isDbCreated := true

/-- A service with the two clients `a` and `b`. -/
def Host.sample : Host :=
  { Host.start ((Table.singleton (Client.provisioned "a")).upsertKeep (Client.provisioned "b")) with
    databases := fun name =>
      if name ∈ ["client_a", "client_b"] then some TenantDb.created else none
    generated := ["client_a", "client_b"] }

theorem Host.started_sample : Host.sample.Started := ⟨rfl, rfl, rfl, rfl⟩

end NestUserService.Tenant
