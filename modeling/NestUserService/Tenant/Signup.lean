import NestUserService.Tenant.ProvisioningSteps

/-!
# Signing up

Two handlers create users in a tenant database. Each draws up the row, publishes the event
for the verification mail, and stores the row after that.
-/

namespace NestUserService.Tenant

open Lib NestUserService.Core

structure CreateClientUserCommand where
  name : String
  email : String
  password : String
  clientCode : String

/-- `createUserDbModel`. -/
def createUserDbModel (command : CreateClientUserCommand)
    (id password signupVerifyToken clientId : String) : User where
  id := id
  name := command.name
  email := command.email
  password := some password
  signupVerifyToken := signupVerifyToken
  verified := false
  role := .ClientUser
  twoFactorSecret := none
  isTwoFactorEnabled := false
  clientId := some clientId
  resetPasswordToken := none
  resetPasswordExpires := none

/-- From `const createUserDbModel` on. The row that is stored is what is returned, so the
check of the result never fails. -/
def createUserOf (env : Config) (command : CreateClientUserCommand) (client : Client) :
    HostApp Unit := do
  let id ← Async.await (ulid env)
  let password ← Async.await (hashPassword env command.password)
  let signupVerifyToken ← Async.await (signupVerifyTokenCreate env)
  let user := createUserDbModel command id password signupVerifyToken client.id
  Async.await (publishUserCreated env command.clientCode user)
  let _ ← createUser env command.clientCode user

/-- `CreateClientUserHandler.execute`. -/
def createClientUser (env : Config) (command : CreateClientUserCommand) : HostApp Unit := do
  let client ← Async.await (findClientByCode env command.clientCode)
  match client with
  | none => throw (.error "Client not found")
  | some client =>
    if client.isPaid then
      createUserOf env command client
    else
      throw (.error "Client is not paid")

/-- What a handler stores after the event: the row of the client, if it creates one, and
the user. -/
structure Draft where
  clientCode : String
  clientRow : Option Client
  user : User

inductive Signup where
  | clientUser (command : CreateClientUserCommand)
  | clientAdmin (command : CreateClientAdminUserCommand)

def Signup.clientCode : Signup → String
  | .clientUser command => command.clientCode
  | .clientAdmin command => command.clientCode

def Signup.email : Signup → String
  | .clientUser command => command.email
  | .clientAdmin command => command.email

def Signup.execute (env : Config) : Signup → HostApp Unit
  | .clientUser command => createClientUser env command
  | .clientAdmin command => do
    let _ ← createClientAdminUser env command

def draftUser (env : Config) (command : CreateClientUserCommand) : HostApp Draft := do
  let client ← Async.await (findClientByCode env command.clientCode)
  match client with
  | none => throw (.error "Client not found")
  | some client =>
    if client.isPaid then do
      let id ← Async.await (ulid env)
      let password ← Async.await (hashPassword env command.password)
      let signupVerifyToken ← Async.await (signupVerifyTokenCreate env)
      return {
        clientCode := command.clientCode, clientRow := none
        user := createUserDbModel command id password signupVerifyToken client.id }
    else
      throw (.error "Client is not paid")

def draftAdminOf (env : Config) (command : CreateClientAdminUserCommand) (clientExists : Client) :
    HostApp Draft := do
  createDatabase env (tenantDbName env command.clientCode)
  registerEnvKey env command.clientCode
  (runPrismaMigrate env (tenantDbUrl env command.clientCode) command.clientCode).handle fun _ =>
    throw (.badRequest "서버에 문제가 생겼습니다. 관리자에게 문의하세요.")
  runPrismaMigrate env (tenantDbUrl env command.clientCode) command.clientCode
  let id ← Async.await (ulid env)
  let password ← Async.await (hashPassword env command.password)
  let signupVerifyToken ← Async.await (signupVerifyTokenCreate env)
  Async.await (updateClient env clientExists.id (updateClientDbDto env command))
  return {
    clientCode := clientExists.clientCode
    clientRow := some
      (tenantClientRow clientExists.clientCode clientExists.id (updateClientDbDto env command))
    user := createUserDbDto command id password signupVerifyToken clientExists.id }

def draftAdminFor (env : Config) (command : CreateClientAdminUserCommand) :
    Option Client → HostApp Draft
  | none => throw (.badRequest "잘못된 요청입니다.")
  | some row =>
    if row.isDbCreated then
      throw (.badRequest "잘못된 요청입니다.")
    else if row.isPaid then
      draftAdminOf env command row
    else
      throw (.badRequest "해당 클라이언트에 문제가 생겼으니 관리자에게 문의하세요.")

def draftAdmin (env : Config) (command : CreateClientAdminUserCommand) : HostApp Draft := do
  let clientExists ← Async.await (findClientByCode env command.clientCode)
  draftAdminFor env command clientExists

/-- Everything before the event. -/
def Signup.draft (env : Config) : Signup → HostApp Draft
  | .clientUser command => draftUser env command
  | .clientAdmin command => draftAdmin env command

/-- The event is published under the code of the command. -/
def Signup.announce (env : Config) (signup : Signup) : HostApp Draft := do
  let draft ← signup.draft env
  Async.await (publishUserCreated env signup.clientCode draft.user)
  return draft

def Draft.storeClient (env : Config) (draft : Draft) : HostApp Unit :=
  match draft.clientRow with
  | some row => onTenant env draft.clientCode (TenantDb.createClient row)
  | none => pure ()

/-- Everything after the event. -/
def Draft.store (env : Config) (draft : Draft) : HostApp Unit := do
  draft.storeClient env
  onTenant env draft.clientCode (TenantDb.createUser draft.user)

theorem createUser_onTenant (env : Config) (clientCode : String) (user : User) :
    (createUser env clientCode user >>= fun _ => pure ()) =
      onTenant env clientCode (TenantDb.createUser user) := by
  rw [createUser_eq, Async.bind_assoc]
  exact Async.bind_pure _

theorem createClientUser_eq (env : Config) (command : CreateClientUserCommand) :
    createClientUser env command =
      (Signup.clientUser command).announce env >>= fun draft => draft.store env := by
  unfold createClientUser Signup.announce Signup.draft draftUser
  simp only [Async.bind_assoc]
  refine congrArg _ (funext fun client => ?_)
  cases client with
  | none => rfl
  | some client =>
    by_cases hpaid : client.isPaid = true
    · simp only [hpaid, if_true, Async.bind_assoc, Async.pure_bind, createUserOf]
      refine congrArg _ (funext fun id => congrArg _ (funext fun password => ?_))
      refine congrArg _ (funext fun signupVerifyToken => congrArg _ (funext fun _ => ?_))
      exact createUser_onTenant _ _ _
    · simp only [hpaid]
      rfl

theorem createClientAdminUser_eq (env : Config) (command : CreateClientAdminUserCommand) :
    (createClientAdminUser env command >>= fun _ => pure ()) =
      (Signup.clientAdmin command).announce env >>= fun draft => draft.store env := by
  unfold createClientAdminUser Signup.announce Signup.draft draftAdmin
  simp only [Async.bind_assoc]
  refine congrArg _ (funext fun client => ?_)
  cases client with
  | none => rfl
  | some row =>
    dsimp only [draftAdminFor]
    split
    · rfl
    · split
      · unfold provision draftAdminOf createAdmin
        simp only [Async.bind_assoc, Async.pure_bind]
        refine congrArg _ (funext fun _ => congrArg _ (funext fun _ => ?_))
        refine congrArg _ (funext fun _ => congrArg _ (funext fun _ => ?_))
        refine congrArg _ (funext fun id => congrArg _ (funext fun password => ?_))
        refine congrArg _ (funext fun signupVerifyToken => congrArg _ (funext fun _ => ?_))
        refine congrArg _ (funext fun _ => ?_)
        rw [createUser_onTenant]
        rfl
      · rfl

theorem Signup.execute_eq (env : Config) (signup : Signup) :
    signup.execute env = signup.announce env >>= fun draft => draft.store env := by
  cases signup with
  | clientUser command => exact createClientUser_eq env command
  | clientAdmin command => exact createClientAdminUser_eq env command

/-- Loading the generated client and connecting it: the URL, and the number of operations
that have been made then. -/
def opened (env : Config) (c : String) (s : Host) : CacheValue → Option (CacheValue × Nat)
  | .payload _ => none
  | .text url =>
    if (env.fault s.operations).isNone ∧ env.folder (clientFolder c) ∈ s.generated ∧
        (env.fault s.count.operations).isNone ∧ (s.databases (env.databaseOf url)).isSome then
      some (.text url, s.count.count.operations)
    else none

/-- The URL of the row, after Redis has been filled with it. -/
def lookedUp (env : Config) (c : String) (s : Host) : Option (CacheValue × Nat) :=
  if (env.fault s.operations).isNone ∧ (env.fault s.count.operations).isNone then
    ((s.client.findFirst fun row => row.clientCode == c).bind Client.dbUrl).bind fun url =>
      if url ≠ "" then opened env c s.count.count (.text url) else none
  else none

/-- The URL that a connection for the code uses, unless it cannot be made. -/
def connection (env : Config) (c : String) (s : Host) : Option (CacheValue × Nat) :=
  match s.clientMap.get? c with
  | some client => some (client.url, s.operations)
  | none =>
    if (env.fault s.operations).isNone then
      match (s.redis.find? s.now (tenantDbUrlKey c)).filter CacheValue.truthy with
      | some url => opened env c s.count url
      | none => lookedUp env c s.count
    else none

/-- A run of the client manager got a client for the URL. -/
def Got (c : String) (x : HostApp PrismaClient) (s : Host) (url : CacheValue) (n : Nat) : Prop :=
  ∃ client t, Async.run x s = .ok client t ∧ client.url = url ∧ t.operations = n ∧
    t.clientMap.get? c = some client

def Failed (x : HostApp PrismaClient) (s : Host) : Prop := ∃ e t, Async.run x s = .error e t

/-- The outcome of a run is the one that was computed. -/
def Follows (c : String) (x : HostApp PrismaClient) (s : Host) (o : Option (CacheValue × Nat)) :
    Prop :=
  (∀ url n, o = some (url, n) → Got c x s url n) ∧ (o = none → Failed x s)

theorem Follows.failed {c : String} {x : HostApp PrismaClient} {s t : Host} {e : Exn}
    (h : Async.run x s = .error e t) : Follows c x s none :=
  ⟨fun _ _ ho => (by cases ho), fun _ => ⟨e, t, h⟩⟩

theorem Follows.congr {c : String} {x y : HostApp PrismaClient} {s t : Host}
    {o : Option (CacheValue × Nat)} (h : Async.run x s = Async.run y t) (hy : Follows c y t o) :
    Follows c x s o := by
  unfold Follows Got Failed at hy ⊢
  rw [h]
  exact hy

section Connection

variable {env : Config} {c : String} {s : Host}

theorem external_fine {α : Type} (h : env.fault s.operations = none) (x : HostSync α) :
    external env x s = x s.count := by
  unfold external attempt
  rw [h]

theorem external_fault {α : Type} {fault : Fault} (h : env.fault s.operations = some fault)
    (x : HostSync α) : external env x s = .error fault.error s.count := by
  unfold external attempt
  rw [h]

theorem run_external {α β : Type} {x : HostSync α} {f : α → HostApp β} {a : α} {t : Host}
    (h : env.fault s.operations = none) (hx : x s.count = .ok a t) :
    Async.run (Async.await (external env x) >>= f) s = Async.run (f a) t := by
  rw [Async.run_bind, Async.run_await, external_fine h, hx]

theorem run_external_error {α β : Type} {x : HostSync α} {f : α → HostApp β} {e : Exn} {t : Host}
    (h : env.fault s.operations = none) (hx : x s.count = .error e t) :
    Async.run (Async.await (external env x) >>= f) s = .error e t := by
  rw [Async.run_bind, Async.run_await, external_fine h, hx]

theorem run_external_fault {α β : Type} {x : HostSync α} {f : α → HostApp β} {fault : Fault}
    (h : env.fault s.operations = some fault) :
    Async.run (Async.await (external env x) >>= f) s = .error fault.error s.count := by
  rw [Async.run_bind, Async.run_await, external_fault h]

theorem follows_openClient (now : Nat) (url : String) :
    Follows c (openClient env c now (.text url)) s
      (if (env.fault s.operations).isNone ∧ (s.databases (env.databaseOf url)).isSome then
        some (.text url, s.count.operations) else none) := by
  let s₁ : Host := { s with constructed := s.constructed + 1 }
  let client : PrismaClient := ⟨s.constructed, c, .text url⟩
  have hrun : Async.run (openClient env c now (.text url)) s =
      Async.run (Async.await (connect env client url) >>= fun tenantClient =>
        storeClient env c now tenantClient) s₁ := rfl
  refine .congr hrun ?_
  cases hfault : env.fault s.operations with
  | some fault =>
    rw [if_neg (by simp)]
    exact .failed (run_external_fault (s := s₁) hfault)
  | none =>
    by_cases hdb : (s.databases (env.databaseOf url)).isSome = true
    · rw [if_pos ⟨rfl, hdb⟩]
      refine ⟨fun url' n ho => ?_, fun ho => by cases ho⟩
      cases ho
      have hopen : Async.run (Async.await (connect env client url) >>= fun tenantClient =>
          storeClient env c now tenantClient) s₁ =
          Async.run (storeClient env c now client) s₁.count :=
        run_external (s := s₁) hfault (if_pos hdb)
      refine ⟨client, cacheClient env c now client s₁.count, hopen, rfl, ?_, ?_⟩
      · obtain ⟨m, l, d, hframe⟩ := makeRoom_frame env s₁.count
        unfold cacheClient
        rw [hframe]
        rfl
      · exact OrderedMap.get?_set_self ..
    · rw [if_neg fun h => hdb h.2]
      exact .failed (run_external_error (s := s₁) hfault (if_neg hdb))

theorem follows_loadClient (now : Nat) (url : CacheValue) :
    Follows c (loadClient env c now url) s (opened env c s url) := by
  cases hfault : env.fault s.operations with
  | some fault =>
    have hnone : opened env c s url = none := by
      cases url with
      | payload p => rfl
      | text url =>
        unfold opened
        rw [hfault]
        exact if_neg fun h => by cases h.1
    rw [hnone]
    exact .failed (run_external_fault hfault)
  | none =>
    by_cases hgenerated : env.folder (clientFolder c) ∈ s.generated
    · have hload : Async.run (loadClient env c now url) s =
          Async.run (openClient env c now url) s.count := run_external hfault (if_pos hgenerated)
      refine .congr hload ?_
      cases url with
      | payload p => exact .failed (e := .prismaValidation) (t := s.count) rfl
      | text url =>
        have hopened : opened env c s (.text url) =
            if (env.fault s.count.operations).isNone ∧ (s.databases (env.databaseOf url)).isSome then
              some (.text url, s.count.count.operations) else none := by
          unfold opened
          simp only [hfault, hgenerated, Option.isNone_none, true_and]
        rw [hopened]
        exact follows_openClient now url
    · have hnone : opened env c s url = none := by
        cases url with
        | payload p => rfl
        | text url => exact if_neg fun h => hgenerated h.2.1
      rw [hnone]
      exact .failed (run_external_error hfault (if_neg hgenerated))

theorem follows_lookupDbUrl (now : Nat) :
    Follows c (lookupDbUrl env c now) s (lookedUp env c s) := by
  cases hfault : env.fault s.operations with
  | some fault =>
    have hnone : lookedUp env c s = none := by
      unfold lookedUp
      rw [hfault]
      exact if_neg fun h => by cases h.1
    rw [hnone]
    exact .failed (run_external_fault hfault)
  | none =>
    let client := s.client.findFirst fun row => row.clientCode == c
    have hlookup : Async.run (lookupDbUrl env c now) s =
        Async.run (useDbUrl env c now client) s.count := run_external hfault rfl
    refine .congr hlookup ?_
    unfold useDbUrl lookedUp
    rw [hfault]
    cases hurl : client.bind Client.dbUrl with
    | none =>
      have hnone : (none : Option String).bind (fun url => if url ≠ "" then
          opened env c s.count.count (.text url) else none) = none := rfl
      rw [hnone, ite_self]
      exact .failed (e := invalidClientCode c) (t := s.count) rfl
    | some url =>
      rw [Option.bind_some]
      dsimp only
      by_cases hempty : url = ""
      · rw [if_neg (not_not_intro hempty), if_neg (not_not_intro hempty), ite_self]
        exact .failed (e := invalidClientCode c) (t := s.count) rfl
      · rw [if_pos hempty, if_pos hempty]
        cases hfill : env.fault s.count.operations with
        | some fault =>
          rw [if_neg fun h => by cases h.2]
          exact .failed (run_external_fault (s := s.count) hfill)
        | none =>
          rw [if_pos ⟨rfl, rfl⟩]
          let filled : Host := { s.count.count with
            redis := s.redis.put (tenantDbUrlKey c)
              (Entry.stamp (.text url) s.now env.tenantClientDbUrlCacheExpiresIn) }
          have hrun : Async.run (fillDbUrlCache env c now url) s.count =
              Async.run (loadClient env c now (.text url)) filled :=
            run_external (s := s.count) hfill rfl
          exact .congr hrun (follows_loadClient (s := filled) now (.text url))

/-- The client manager does what was computed. -/
theorem follows_getPrismaClientByCode (env : Config) (c : String) (s : Host) :
    Follows c (getPrismaClientByCode env c) s (connection env c s) := by
  unfold connection
  cases hget : s.clientMap.get? c with
  | some client =>
    refine ⟨fun url n ho => ?_, fun ho => by cases ho⟩
    cases ho
    refine ⟨client, { s with lastUsedMap := s.lastUsedMap.set c s.now }, ?_, rfl, rfl, hget⟩
    have hmemory : memoryCache c s = .ok (s.now, some client)
        { s with lastUsedMap := s.lastUsedMap.set c s.now } := by
      unfold memoryCache
      rw [hget]
    unfold getPrismaClientByCode
    rw [Async.run_bind, Async.run_await, hmemory]
    rfl
  | none =>
    have hrun : Async.run (getPrismaClientByCode env c) s =
        Async.run (readDbUrlCache env c s.now) s := by
      have hmemory : memoryCache c s = .ok (s.now, none) s := by
        unfold memoryCache
        rw [hget]
      unfold getPrismaClientByCode
      rw [Async.run_bind, Async.run_await, hmemory]
    refine .congr hrun ?_
    dsimp only
    cases hfault : env.fault s.operations with
    | some fault =>
      rw [if_neg fun h => by cases h]
      exact .failed (run_external_fault hfault)
    | none =>
      rw [Option.isNone_none, if_pos rfl]
      have hread : Async.run (readDbUrlCache env c s.now) s = _ := run_external hfault rfl
      refine .congr hread ?_
      have hsame : s.count.redis.find? s.count.now (tenantDbUrlKey c) =
          s.redis.find? s.now (tenantDbUrlKey c) := rfl
      rw [hsame]
      cases hfind : s.redis.find? s.now (tenantDbUrlKey c) with
      | none => exact follows_lookupDbUrl (s := s.count) s.now
      | some url =>
        by_cases ht : url.truthy = true
        · rw [Option.filter_some, if_pos ht]
          dsimp only
          rw [if_pos ht]
          exact follows_loadClient (s := s.count) s.now url
        · rw [Option.filter_some, if_neg ht]
          dsimp only
          rw [if_neg ht]
          exact follows_lookupDbUrl (s := s.count) s.now

end Connection

end NestUserService.Tenant
