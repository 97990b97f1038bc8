import Mathlib.Logic.Function.Basic
import NestUserService.Lib.Async
import NestUserService.Lib.Store
import NestUserService.Core.Db

/-!
# The shared state and its environment

`World` is everything the handlers share: the root database, the tenant databases,
the Redis key space, and the outgoing mail and Slack messages. `Env` collects what
the code takes from outside: the configuration, and the functions of third-party
packages. No law of those functions is built in; a result that needs one names it.
-/

namespace NestUserService.Core

open Lib

/-- The `UserInfo` interface. TypeScript types are structural, so an argument may
carry further own properties; `others` are the ones that a spread copies. -/
structure UserInfo where
  id : String
  name : String
  email : String
  clientId : Option String
  isTwoFactorEnabled : Bool
  others : List (String × String) := []
  deriving DecidableEq

structure TokenCachePayload extends UserInfo where
  ip : String
  issuedAt : Nat
  deriving DecidableEq

/-- A value in Redis: a token payload, or a text (`'blacklisted'`, a database URL). -/
inductive CacheValue where
  | payload (p : TokenCachePayload)
  | text (s : String)
  deriving DecidableEq

/-- JavaScript truth of an optional string. -/
def truthy : Option String → Bool
  | some s => s != ""
  | none => false

def CacheValue.truthy : CacheValue → Bool
  | .payload _ => true
  | .text s => s != ""

/-- The `id` property; a string has none. -/
def CacheValue.id? : CacheValue → Option String
  | .payload p => some p.id
  | .text _ => none

/-- A value of an unvalidated request field. Objects are kept as JSON text; numbers,
booleans and arrays only as the text they are printed as. -/
inductive Arg where
  | undefined
  | null
  | string (s : String)
  | object (json : String)
  | other (text : String)
  deriving DecidableEq

/-- The text of a value inside a template literal. -/
def Arg.text : Arg → String
  | .undefined => "undefined"
  | .null => "null"
  | .string s => s
  | .object _ => "[object Object]"
  | .other t => t

/-- A request body or query: its fields, in order. -/
abbrev Fields := List (String × Arg)

def Fields.get (b : Fields) (name : String) : Arg := (b.lookup name).getD .undefined

/-- The object handed to `jwtService.sign`: the user object, or the cache payload. -/
inductive Claims where
  | user (u : UserInfo)
  | session (p : TokenCachePayload)
  deriving DecidableEq

structure SecurityAlertEmail where
  mailTo : String
  userName : String
  suspiciousIp : Option String
  resetToken : String
  expireMinutes : Nat
  locationText : Option String
  deriving DecidableEq

structure Geo where
  city : Option String
  country : Option String
  deriving DecidableEq

/-- The replies of one complete SCAN iteration, one selector for each reply: a reply
returns the matching keys that are present when it is made and that it selects.
Every key is selected by some reply, so a key that is present throughout is
returned; empty replies, repeated keys and any number of replies are allowed. -/
structure ScanPlan where
  replies : List (String → Bool)
  covers : ∀ k, ∃ r ∈ replies, r k = true

structure Env where
  /-- `jwtService.sign`, a function of the payload and the issue time in seconds. -/
  sign : Claims → Nat → String
  /-- `ACCESS_TOKEN_EXPIRE`, the lifetime of a JWT in seconds. -/
  accessTokenExpire : Nat
  /-- The random values, indexed by the number of draws made before. -/
  uuidv4 : Nat → String
  scanPlan : Nat → ScanPlan
  /-- `geoip.lookup` of an address. -/
  geoLookup : String → Option Geo
  /-- `authenticator.verify({ token, secret })`. -/
  otpVerify : String → String → Bool
  /-- `bcrypt.hash(password, 10)`, with the salt indexed by the draw. -/
  bcryptHash : String → Nat → String
  /-- AES-256-CBC decryption of the data after the IV, both in hex. -/
  aesDecrypt : String → Option String → Except Exn String
  /-- Prisma's reading of an object as a filter of a string column, `none` when its
  validation rejects the object. -/
  stringFilter : String → Option (Option String → Bool)
  /-- Whether the mail transport accepts a message. -/
  mailAccepted : SecurityAlertEmail → Bool
  accessTokenCacheExpiresIn : Nat
  accessTokenBlacklistCacheExpiresIn : Nat
  refreshTokenCacheExpiresIn : Nat

/-- A plan that returns everything in one reply. -/
def ScanPlan.single : ScanPlan := ⟨[fun _ => true], fun _ => ⟨_, List.mem_singleton.mpr rfl, rfl⟩⟩

/-- Tokens and ids are made of characters other than the colon. -/
def withoutColons (s : String) : String := String.ofList (s.toList.filter (· ≠ ':'))

/-- The default configuration of `authConfig`, with readable stand-ins for the
third-party functions. -/
def Env.sample : Env where
  sign claims iat := withoutColons <|
    match claims with
    | .user u => "jwt-" ++ u.id ++ "-" ++ toString iat
    | .session p => "jwt-" ++ p.id ++ "-" ++ p.ip ++ "-" ++ toString iat
  accessTokenExpire := 60 * 60
  uuidv4 n := withoutColons ("uuid-" ++ toString n)
  scanPlan _ := .single
  geoLookup _ := none
  otpVerify code secret := code == secret
  bcryptHash password n := "bcrypt-" ++ toString n ++ "-" ++ password
  aesDecrypt _ data := .ok (data.getD "")
  stringFilter _ := none
  mailAccepted _ := true
  accessTokenCacheExpiresIn := 60 * 60 * 1000
  accessTokenBlacklistCacheExpiresIn := 60 * 60 * 1000
  refreshTokenCacheExpiresIn := 60 * 60 * 24 * 14 * 1000

/-- A verified user without a second factor. -/
def User.sample : User :=
  { id := "01JS447X6N835NZ80HCMEAKDDQ", name := "hong", email := "hong@example.com"
    password := some "old", signupVerifyToken := "v1", verified := true, role := .ClientUser
    twoFactorSecret := none, isTwoFactorEnabled := false, clientId := none
    resetPasswordToken := none, resetPasswordExpires := none }

structure World where
  /-- The clock, in milliseconds. -/
  now : Nat
  root : Db
  /-- The database that `getPrismaClientByCode` connects a client code to. -/
  tenants : String → Option Db
  redis : Store CacheValue
  mails : List SecurityAlertEmail
  slack : List String
  draws : Nat

def Db.empty : Db := ⟨.empty, .empty, .empty, .empty⟩

/-- A service with a given root database and an empty cache. -/
def World.start (now : Nat) (root : Db) : World :=
  { now, root, tenants := fun _ => none, redis := .empty, mails := [], slack := [], draws := 0 }

/-- The sample user, and nothing else. -/
def World.sample : World := .start 1000 { Db.empty with user := .singleton User.sample }

/-- Synchronous code between two awaits. -/
abbrev Sync := EStateM Exn World

/-- An `async` function of the service. -/
abbrev App := Async World Exn

def minutes (n : Nat) : Nat := n * 60 * 1000

/-- `uuidv4()`. -/
def uuidv4 (env : Env) : Sync String := fun w =>
  .ok (env.uuidv4 w.draws) { w with draws := w.draws + 1 }

def clock : Sync Nat := fun w => .ok w.now w

/-- `slackService.sendMessage`; it handles its own failures. -/
def sendMessage (message : String) : Sync Unit := fun w =>
  .ok () { w with slack := w.slack ++ [message] }

def sendSecurityAlertEmail (env : Env) (mail : SecurityAlertEmail) : Sync Unit := fun w =>
  if env.mailAccepted mail then .ok () { w with mails := w.mails ++ [mail] }
  else .error (.error "sendMail failed") w

/-- A string column compared with a value in a `where` clause. An undefined value
leaves the column unconstrained. -/
def whereString (env : Env) (nullable : Bool) : Arg → Except Exn (Option String → Bool)
  | .undefined => .ok fun _ => true
  | .null => if nullable then .ok fun v => v == none else .error .prismaValidation
  | .string s => .ok fun v => v == some s
  | .object o =>
    match env.stringFilter o with
    | some p => .ok p
    | none => .error .prismaValidation
  | .other _ => .error .prismaValidation

/-- A read of the root Prisma client. -/
def readRoot {α : Type} (f : Db → α) : Sync α := fun w => .ok (f w.root) w

/-- A read that Prisma may refuse. -/
def queryRoot {α : Type} (f : Db → Except Exn α) : Sync α := fun w =>
  match f w.root with
  | .ok a => .ok a w
  | .error e => .error e w

def writeRoot (f : Db → Except Exn Db) : Sync Unit := fun w =>
  match f w.root with
  | .ok db => .ok () { w with root := db }
  | .error e => .error e w

/-- `getPrismaClientByCode` for a code without a database. -/
def invalidClientCode (clientCode : String) : Exn :=
  .error ("Invalid clientCode or dbUrl not found for clientCode: " ++ clientCode)

/-- `getTenantClient`. -/
def getTenantClient (clientCode : String) : Sync Unit := fun w =>
  match w.tenants clientCode with
  | some _ => .ok () w
  | none => .error (invalidClientCode clientCode) w

def World.setTenant (w : World) (clientCode : String) (db : Db) : World :=
  { w with tenants := Function.update w.tenants clientCode (some db) }

def readTenant {α : Type} (clientCode : String) (f : Db → α) : Sync α := fun w =>
  match w.tenants clientCode with
  | some db => .ok (f db) w
  | none => .error (invalidClientCode clientCode) w

def queryTenant {α : Type} (clientCode : String) (f : Db → Except Exn α) : Sync α := fun w =>
  match w.tenants clientCode with
  | some db =>
    match f db with
    | .ok a => .ok a w
    | .error e => .error e w
  | none => .error (invalidClientCode clientCode) w

def writeTenant (clientCode : String) (f : Db → Except Exn Db) : Sync Unit := fun w =>
  match w.tenants clientCode with
  | some db =>
    match f db with
    | .ok db' => .ok () (w.setTenant clientCode db')
    | .error e => .error e w
  | none => .error (invalidClientCode clientCode) w

/-- The clock moves forward, staying in `T` if it is there; nothing else changes. -/
def Elapses (T : Nat → Prop) (w w' : World) : Prop :=
  ∃ t, w' = { w with now := t } ∧ w.now ≤ t ∧ (T w.now → T t)

theorem elapses_refl (T : Nat → Prop) (w : World) : Elapses T w w :=
  ⟨w.now, rfl, Nat.le_refl _, id⟩

theorem Elapses.trans {T : Nat → Prop} {w w' w'' : World} (h : Elapses T w w')
    (h' : Elapses T w' w'') : Elapses T w w'' := by
  obtain ⟨t, rfl, hle, hT⟩ := h
  obtain ⟨t', rfl, hle', hT'⟩ := h'
  exact ⟨t', rfl, Nat.le_trans hle hle', fun ht => hT' (hT ht)⟩

section Apply

variable {α : Type} (env : Env) (w : World)

@[simp] theorem clock_apply : clock w = .ok w.now w := rfl

@[simp] theorem uuidv4_apply :
    uuidv4 env w = .ok (env.uuidv4 w.draws) { w with draws := w.draws + 1 } := rfl

@[simp] theorem sendMessage_apply (m : String) :
    sendMessage m w = .ok () { w with slack := w.slack ++ [m] } := rfl

@[simp] theorem readRoot_apply (f : Db → α) : readRoot f w = .ok (f w.root) w := rfl

@[simp] theorem queryRoot_apply (f : Db → Except Exn α) :
    queryRoot f w = match f w.root with
      | .ok a => .ok a w
      | .error e => .error e w := rfl

@[simp] theorem writeRoot_apply (f : Db → Except Exn Db) :
    writeRoot f w = match f w.root with
      | .ok db => .ok () { w with root := db }
      | .error e => .error e w := rfl

theorem finalState_getTenantClient (clientCode : String) :
    finalState (getTenantClient clientCode w) = w := by
  unfold getTenantClient
  cases w.tenants clientCode <;> rfl

variable {w} {db : Db} {clientCode : String} (h : w.tenants clientCode = some db)
include h

theorem getTenantClient_apply : getTenantClient clientCode w = .ok () w := by
  simp [getTenantClient, h]

theorem queryTenant_apply (f : Db → Except Exn α) :
    queryTenant clientCode f w = match f db with
      | .ok a => .ok a w
      | .error e => .error e w := by
  simp [queryTenant, h]

theorem writeTenant_apply (f : Db → Except Exn Db) :
    writeTenant clientCode f w = match f db with
      | .ok db' => .ok () (w.setTenant clientCode db')
      | .error e => .error e w := by
  simp [writeTenant, h]

end Apply

end NestUserService.Core
