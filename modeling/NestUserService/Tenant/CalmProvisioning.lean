import NestUserService.Tenant.ConcurrentProvisioning
import NestUserService.Tenant.FailedProvisioning

/-!
# Provisioning without external failures

A run that meets no failure of an external operation succeeds exactly when the name of its
database is free and it has all else it needs. Each part of the handler is first computed
on its own.
-/

namespace NestUserService.Tenant

open Lib NestUserService.Core

/-- The same service, as long as no external operation fails. -/
def Config.calm (env : Config) : Config := { env with fault := fun _ => none }

/-- The same host after some more operations. -/
def Host.after (s : Host) (operations : Nat) : Host := { s with operations := operations }

def databaseExists : Exn := .badRequest "클라이언트 정보가 잘못되었습니다. 관리자에게 문의하세요."

section Calm

variable {env : Config} {s : Host}

theorem external_calm {α : Type} (hcalm : ∀ n, env.fault n = none)
    (x : Host → EStateM.Result Exn Host α) (s : Host) :
    external env x s = x s.count := by
  unfold external attempt
  rw [hcalm]

theorem change_calm (hcalm : ∀ n, env.fault n = none) (f : Host → Except Exn Host) (s : Host) :
    change env f s = match f s.count with
      | .ok s' => .ok () s'
      | .error e => .error e s.count := by
  unfold change attempt
  cases hfault : env.fault s.operations with
  | none => rfl
  | some fault =>
    rw [hcalm] at hfault
    cases hfault

theorem createDatabase_refuses (hcalm : ∀ n, env.fault n = none) {dbName : String}
    (h : (s.databases dbName).isSome) : ∃ n, Async.run (createDatabase env dbName) s =
      .error databaseExists (s.after n) := by
  have hrows : (s.count.count.databases dbName).isSome = true := h
  refine ⟨s.operations + 3, ?_⟩
  simp only [createDatabase, Async.run_bind, Async.run_await, external_calm hcalm, hrows, if_true]
  rfl

theorem createDatabase_creates (hcalm : ∀ n, env.fault n = none) {dbName : String}
    (h : s.databases dbName = none) : ∃ n, Async.run (createDatabase env dbName) s =
      .ok () ((s.setDatabase dbName TenantDb.created).after n) := by
  have hrows : (s.count.count.databases dbName).isSome = false := by
    change (s.databases dbName).isSome = false
    rw [h]
    rfl
  have hcreate : s.count.count.count.createDatabaseIfNotExists dbName =
      s.count.count.count.setDatabase dbName TenantDb.created := by
    have hmissing : s.count.count.count.databases dbName = none := h
    unfold Host.createDatabaseIfNotExists
    rw [hmissing]
  refine ⟨s.operations + 4, ?_⟩
  simp only [createDatabase, Async.run_bind, Async.run_await, external_calm hcalm, hrows,
    Bool.false_eq_true, if_false, change_calm hcalm, hcreate]
  rfl

theorem registerEnvKey_calm (hcalm : ∀ n, env.fault n = none) (clientCode : String) :
    ∃ n, Async.run (registerEnvKey env clientCode) s =
      .ok () (({ s with envFile := registeredEnv env clientCode s.envFile } : Host).after n) := by
  have hscript : ∃ n, Async.run (registerEnvKeyScript env clientCode) s =
      .ok () (({ s with envFile := registeredEnv env clientCode s.envFile } : Host).after n) := by
    unfold registerEnvKeyScript
    rw [Async.run_bind, Async.run_await, external_calm hcalm]
    dsimp only
    unfold registeredEnv
    by_cases hincluded : envIncludes s.envFile (envKey env clientCode) = true
    · have hread : envIncludes s.count.envFile (envKey env clientCode) = true := hincluded
      rw [if_pos hread, if_pos hincluded]
      exact ⟨_, rfl⟩
    · have hread : ¬ envIncludes s.count.envFile (envKey env clientCode) = true := hincluded
      rw [if_neg hread, if_neg hincluded, Async.run_await, change_calm hcalm]
      exact ⟨_, rfl⟩
  obtain ⟨n, hscript⟩ := hscript
  refine ⟨n, ?_⟩
  unfold registerEnvKey
  rw [Async.run_handle, hscript]

/-- The URL that `migrate deploy` acts on. -/
def deployUrl (env : Config) (dbUrl clientCode : String) (lines : List (String × String)) :
    String :=
  let value := processVariable env (some dbUrl) lines (envKey env clientCode)
  if truthy value then value.getD "" else scriptDbUrl env (some dbUrl) clientCode

/-- The key of a client is longer than `DATABASE_URL`. -/
theorem databaseUrlKey_ne (suffix : String) : "DATABASE_URL_" ++ suffix ≠ "DATABASE_URL" := by
  intro h
  have hlength := congrArg (fun key => key.toList.length) h
  simp only [String.toList_append, List.length_append] at hlength
  have hpre : "DATABASE_URL_".toList.length = 13 := rfl
  have hurl : "DATABASE_URL".toList.length = 12 := rfl
  omega

theorem envKey_ne (env : Config) (clientCode : String) : envKey env clientCode ≠ "DATABASE_URL" :=
  databaseUrlKey_ne _

theorem resolve_tenantSchema (env : Config) (dbUrl clientCode : String)
    (lines : List (String × String)) :
    resolveDatasource env lines (tenantSchema env dbUrl clientCode lines).datasource =
      some (deployUrl env dbUrl clientCode lines) := by
  have hvariable (databaseUrl : Option String) :
      processVariable env databaseUrl lines (envKey env clientCode) =
        processVariable env (some dbUrl) lines (envKey env clientCode) := by
    unfold processVariable
    rw [if_neg (envKey_ne env clientCode), if_neg (envKey_ne env clientCode)]
  unfold tenantSchema deployUrl
  dsimp only
  by_cases ht : truthy (processVariable env (some dbUrl) lines (envKey env clientCode)) = true
  · rw [if_pos ht, if_pos ht]
    unfold resolveDatasource
    dsimp only
    rw [hvariable]
    cases hv : processVariable env (some dbUrl) lines (envKey env clientCode) with
    | none =>
      rw [hv] at ht
      cases ht
    | some v => rfl
  · rw [if_neg ht, if_neg ht]
    rfl

/-- What a run of the migration script makes of the host. -/
def Host.migrate (s : Host) (env : Config) (dbUrl clientCode : String) : Host :=
  let name := env.databaseOf (deployUrl env dbUrl clientCode s.envFile)
  { s with
    schemaFile := tenantSchema env dbUrl clientCode s.envFile
    databases := Function.update s.databases name
      (some { (s.databases name).getD TenantDb.created with applied := migrations.length })
    generated := s.generated ++ [env.folder (scriptDbName env clientCode)] }

/-- What the migration script needs. -/
structure Migratable (env : Config) (dbUrl clientCode : String) (s : Host) : Prop where
  base : truthy env.databaseBaseUrl
  dist : env.folder (tenantDbName env clientCode) ∉ s.distGenerated
  sound : ((s.databases (env.databaseOf (deployUrl env dbUrl clientCode s.envFile))).getD
    TenantDb.created).failed = false

theorem generateSchema_calm (hcalm : ∀ n, env.fault n = none) (dbUrl clientCode : String) :
    Async.run (generateSchema env dbUrl clientCode) s = .ok () { s with
      schemaFile := tenantSchema env dbUrl clientCode s.envFile
      operations := s.operations + 2 } := by
  simp only [generateSchema, Async.run_bind, Async.run_await, external_calm hcalm,
    change_calm hcalm]
  rfl

theorem migrateDeploy_calm (hcalm : ∀ n, env.fault n = none) {url : String}
    (hurl : resolveDatasource env s.envFile s.schemaFile.datasource = some url) :
    Async.run (migrateDeploy env) s =
      if ((s.databases (env.databaseOf url)).getD TenantDb.created).failed then
        .error (.prisma "P3009") { s with operations := s.operations + 3 }
      else .ok () { s with
        databases := Function.update s.databases (env.databaseOf url)
          (some { (s.databases (env.databaseOf url)).getD TenantDb.created with
            applied := migrations.length })
        operations := s.operations + 3 } := by
  have hresolved : resolveDatasource env s.count.envFile s.count.count.schemaFile.datasource =
      some url := hurl
  simp only [migrateDeploy, Async.run_bind, Async.run_await, external_calm hcalm, hresolved]
  unfold deployMigrations attempt
  rw [hcalm]
  rfl

theorem prismaGenerate_calm (hcalm : ∀ n, env.fault n = none) :
    Async.run (prismaGenerate env) s = .ok () { s with
      generated := s.generated ++ [env.folder s.schemaFile.output]
      operations := s.operations + 2 } := by
  simp only [prismaGenerate, Async.run_bind, Async.run_await, external_calm hcalm,
    change_calm hcalm]
  rfl

/-- The script succeeds exactly when it can. -/
theorem runPrismaMigrate_calm (hcalm : ∀ n, env.fault n = none) (dbUrl clientCode : String) :
    (Migratable env dbUrl clientCode s → ∃ n, Async.run (runPrismaMigrate env dbUrl clientCode) s =
      .ok () ((s.migrate env dbUrl clientCode).after n)) ∧
    (¬ Migratable env dbUrl clientCode s →
      ∃ e t, Async.run (runPrismaMigrate env dbUrl clientCode) s = .error e t) := by
  have hrun : Async.run (runPrismaMigrate env dbUrl clientCode) s = Async.run
      (if decide (env.folder (tenantDbName env clientCode) ∈ s.distGenerated) = true then
        throw (.error "폴더가 이미 존재합니다")
      else (migrateScript env dbUrl clientCode).handle fun _ =>
        throw (.error "Migration failed with exit code 1")) s := rfl
  by_cases hdist : env.folder (tenantDbName env clientCode) ∈ s.distGenerated
  · refine ⟨fun h => absurd hdist h.dist, fun _ => ⟨.error "폴더가 이미 존재합니다", s, ?_⟩⟩
    rw [hrun, if_pos (decide_eq_true hdist)]
    rfl
  · rw [hrun, if_neg (by simpa using hdist), Async.run_handle]
    unfold migrateScript
    by_cases hbase : truthy env.databaseBaseUrl = true
    · rw [if_pos hbase, Async.run_bind, generateSchema_calm hcalm]
      dsimp only
      rw [Async.run_bind, migrateDeploy_calm hcalm (resolve_tenantSchema env dbUrl clientCode _)]
      dsimp only
      by_cases hfailed : ((s.databases (env.databaseOf
          (deployUrl env dbUrl clientCode s.envFile))).getD TenantDb.created).failed = true
      · refine ⟨fun h => ?_, fun _ => ?_⟩
        · rw [h.sound] at hfailed
          cases hfailed
        · rw [if_pos hfailed]
          exact ⟨_, _, rfl⟩
      · refine ⟨fun _ => ?_, fun h => absurd ⟨hbase, hdist, by simpa using hfailed⟩ h⟩
        rw [if_neg hfailed]
        dsimp only
        rw [prismaGenerate_calm hcalm]
        exact ⟨_, rfl⟩
    · refine ⟨fun h => absurd h.base hbase, fun _ => ?_⟩
      rw [if_neg hbase]
      exact ⟨_, _, rfl⟩

theorem tenantDbUrl_ne (env : Config) (c : String) : tenantDbUrl env c ≠ "" := by
  intro h
  have hlength := congrArg (fun url => url.toList.length) h
  unfold tenantDbUrl at hlength
  simp only [String.toList_append, List.length_append] at hlength
  have hslash : "/".toList.length = 1 := rfl
  have hempty : "".toList.length = 0 := rfl
  omega

theorem loadClient_calm (hcalm : ∀ n, env.fault n = none) {c url : String} (now : Nat)
    (hgenerated : env.folder (clientFolder c) ∈ s.generated)
    (hdb : (s.databases (env.databaseOf url)).isSome) :
    ∃ client t, Async.run (loadClient env c now (.text url)) s = .ok client t := by
  have hf : env.folder (clientFolder c) ∈ s.count.generated := hgenerated
  have hexists : (({ s.count with constructed := s.count.constructed + 1 } : Host).count.databases
      (env.databaseOf url)).isSome = true := hdb
  simp only [loadClient, Async.run_bind, Async.run_await, importClient, external_calm hcalm,
    if_pos hf, openClient, connectClient, connect, if_pos hexists]
  exact ⟨_, _, rfl⟩

/-- With its files and its database in place, the client can be got. -/
theorem getPrismaClientByCode_calm (hcalm : ∀ n, env.fault n = none) {c : String}
    (ht : Tied env {c} s) {row : Client}
    (hrow : s.client.findFirst (fun r => r.clientCode == c) = some row)
    (hurl : row.dbUrl = some (tenantDbUrl env c))
    (hgenerated : env.folder (clientFolder c) ∈ s.generated)
    (hdb : (s.databases (env.databaseOf (tenantDbUrl env c))).isSome) :
    ∃ client t, Async.run (getPrismaClientByCode env c) s = .ok client t := by
  have htruthy : (CacheValue.text (tenantDbUrl env c)).truthy = true := by
    simpa [CacheValue.truthy] using tenantDbUrl_ne env c
  have hlookup : ∃ client t, Async.run (lookupDbUrl env c s.now) s.count = .ok client t := by
    have hfound : s.count.count.client.findFirst (fun r => r.clientCode == c) = some row := hrow
    simp only [lookupDbUrl, Async.run_bind, Async.run_await, findClientByCode, external_calm hcalm,
      hfound, useDbUrl, Option.bind_some, hurl, ne_eq, tenantDbUrl_ne, not_false_eq_true, if_true,
      fillDbUrlCache, setTenantClientDbUrlCache]
    exact loadClient_calm hcalm s.now hgenerated hdb
  unfold getPrismaClientByCode
  rw [Async.run_bind, Async.run_await]
  unfold memoryCache
  cases hget : s.clientMap.get? c with
  | some client => exact ⟨client, _, rfl⟩
  | none =>
    simp only [readDbUrlCache, getTenantClientDbUrlCache, Async.run_bind, Async.run_await,
      external_calm hcalm]
    cases hfind : s.count.redis.find? s.count.now (tenantDbUrlKey c) with
    | none => exact hlookup
    | some url =>
      obtain ⟨e, he, -, rfl⟩ := Store.find?_eq_some.mp hfind
      have hown : e.value = .text (tenantDbUrl env c) := ht.redis c rfl e he
      rw [hown]
      dsimp only
      rw [if_pos htruthy]
      exact loadClient_calm hcalm s.now hgenerated hdb

/-- The lengths of generated values do not vary. -/
structure FixedLengths (env : Config) : Prop where
  ulid : ∀ n m, (env.ulid n).length = (env.ulid m).length
  uuidv1 : ∀ n m, (env.uuidv1 n).length = (env.uuidv1 m).length
  bcryptHash : ∀ password n m, (env.bcryptHash password n).length = (env.bcryptHash password m).length

/-- The admin that a run starting with `draws` creates. -/
def admin (env : Config) (command : CreateClientAdminUserCommand) (clientId : String) (draws : Nat) :
    User :=
  createUserDbDto command (env.ulid draws) (env.bcryptHash command.password (draws + 1))
    (env.uuidv1 (draws + 2)) clientId

theorem admin_fits (h : FixedLengths env) (command : CreateClientAdminUserCommand)
    (clientId : String) (n m : Nat) :
    User.fits (admin env command clientId n) = User.fits (admin env command clientId m) := by
  unfold User.fits admin createUserDbDto Core.fits
  simp only [Option.all_some, List.all_cons, List.all_nil]
  rw [h.ulid n m, h.bcryptHash _ (n + 1) (m + 1), h.uuidv1 (n + 2) (m + 2)]

/-- The host when the tenant database is about to be filled: the row of the client has its
URL, and the event is published. -/
def Host.recorded (s : Host) (env : Config) (command : CreateClientAdminUserCommand)
    (clientId : String) (user : User) (encrypted : Nat → String) : Host :=
  { s with
    client := s.client.updateMany (fun row => row.id == clientId)
      (withDatabase (updateClientDbDto env command))
    published := s.published ++ [⟨user.email, encrypted s.draws, user.signupVerifyToken⟩]
    draws := s.draws + 1
    operations := s.operations + 1 }

/-- The columns of the root row fit. -/
def UpdateClientDbDto.fits (dto : UpdateClientDbDto) : Bool :=
  [some dto.name, some dto.dbUrl, some dto.dbName].all (Core.fits 191)

/-- The two rows of the tenant database. -/
def fillTenantDb (env : Config) (c clientId : String) (dto : UpdateClientDbDto) (user : User) :
    HostApp User := do
  createLegacyCompatibilityClientMeta env c clientId dto
  createUser env c user

/-- From the update of the root row on, with what was drawn before. -/
def recordAdmin (env : Config) (command : CreateClientAdminUserCommand) (row : Client)
    (user : User) : HostApp User := do
  Async.await (updateClient env row.id (updateClientDbDto env command))
  Async.await (publishUserCreated env command.clientCode user)
  fillTenantDb env row.clientCode row.id (updateClientDbDto env command) user

theorem createAdmin_draws (hcalm : ∀ n, env.fault n = none)
    (command : CreateClientAdminUserCommand) (row : Client) :
    Async.run (createAdmin env command row) s =
      Async.run (recordAdmin env command row (admin env command row.id s.draws))
        { s with draws := s.draws + 3, operations := s.operations + 1 } := by
  unfold createAdmin
  rw [Async.run_bind, Async.run_await]
  change Async.run (Async.await (hashPassword env command.password) >>= _)
    { s with draws := s.draws + 1 } = _
  rw [Async.run_bind, Async.run_await]
  unfold hashPassword
  rw [external_calm hcalm]
  rfl

/-- The row and the event are written exactly when the columns fit and the code can be
encrypted. -/
theorem recordAdmin_calm (hcalm : ∀ n, env.fault n = none)
    {command : CreateClientAdminUserCommand} {row : Client} (hrow : row ∈ s.client.rows)
    (user : User) :
    (∀ encrypted, env.encryptClientCode command.clientCode = .ok encrypted →
      (updateClientDbDto env command).fits →
      Async.run (recordAdmin env command row user) s = Async.run
        (fillTenantDb env row.clientCode row.id (updateClientDbDto env command) user)
        (s.recorded env command row.id user encrypted)) ∧
    (∀ user' t, Async.run (recordAdmin env command row user) s = .ok user' t →
      (updateClientDbDto env command).fits ∧
        ∃ encrypted, env.encryptClientCode command.clientCode = .ok encrypted) := by
  have hupdate : s.count.client.update (fun r => r.id == row.id)
      (withDatabase (updateClientDbDto env command)) = some (s.client.updateMany
        (fun r => r.id == row.id) (withDatabase (updateClientDbDto env command))) :=
    Table.update_of_mem hrow (by simp)
  unfold recordAdmin
  rw [Async.run_bind, Async.run_await]
  unfold updateClient
  rw [change_calm hcalm]
  unfold updateClientRow
  change (∀ encrypted, _ → (updateClientDbDto env command).fits = true → _) ∧ _
  by_cases hfits : (updateClientDbDto env command).fits = true
  · have hif := hfits
    unfold UpdateClientDbDto.fits at hif
    rw [if_pos hif, hupdate]
    dsimp only
    rw [Async.run_bind, Async.run_await]
    unfold publishUserCreated
    cases env.encryptClientCode command.clientCode with
    | error e =>
      refine ⟨fun encrypted h => ?_, fun user' t h => ?_⟩
      · cases h
      · cases h
    | ok encrypted =>
      refine ⟨fun encrypted' h _ => ?_, fun user' t h => ⟨hfits, encrypted, rfl⟩⟩
      cases h
      rfl
  · have hif := hfits
    unfold UpdateClientDbDto.fits at hif
    rw [if_neg hif]
    refine ⟨fun encrypted _ h => absurd h hfits, fun user' t h => ?_⟩
    cases h

theorem change_done (hcalm : ∀ n, env.fault n = none) {f : Host → Except Exn Host} {s' : Host}
    (h : f s.count = .ok s') : change env f s = .ok () s' := by
  rw [change_calm hcalm, h]

theorem writeTenantDb_done {client : PrismaClient} {url : String} (hurl : client.url = .text url)
    {f : TenantDb → Except Exn TenantDb} {db db' : TenantDb}
    (hdb : s.databases (env.databaseOf url) = some db) (hf : f db = .ok db') :
    writeTenantDb env client f s = .ok (s.setDatabase (env.databaseOf url) db') := by
  unfold writeTenantDb
  rw [hurl]
  dsimp only
  rw [hdb]
  dsimp only
  rw [hf]
  rfl

/-- A client that was got for the code: what it is, and what getting it has changed. -/
theorem getPrismaClientByCode_got {c : String} (ht : Tied env {c} s) {client : PrismaClient}
    {t : Host} (h : Async.run (getPrismaClientByCode env c) s = .ok client t) :
    client.url = .text (tenantDbUrl env c) ∧ env.folder (clientFolder c) ∈ s.generated ∧
      Untouched s t ∧ Tied env {c} t := by
  have hc : c ∈ ({c} : Set String) := rfl
  have hsafe := (safe_getPrismaClientByCode hc ht).run Respects.tolerant.refl
    Respects.tolerant.trans
  have huntouched := Untouched.getPrismaClientByCode env c s
  rw [h] at hsafe huntouched
  have hgot := hsafe.2 client t rfl
  exact ⟨hgot.1, huntouched.generated ▸ hgot.2, huntouched, hsafe.1.tied ht⟩

/-- The database of the code has been written, by a client that could be loaded. -/
structure Written (env : Config) (c : String) (db' : TenantDb) (s t : Host) : Prop where
  client : t.client = s.client
  generated : t.generated = s.generated
  databases : t.databases =
    Function.update s.databases (env.databaseOf (tenantDbUrl env c)) (some db')
  tied : Tied env {c} t

theorem writeTenant_ok {c : String} {f : TenantDb → Except Exn TenantDb} (ht : Tied env {c} s)
    {t : Host} (h : Async.run (onTenant env c f) s = .ok () t) :
    env.folder (clientFolder c) ∈ s.generated ∧ ∃ db db',
      s.databases (env.databaseOf (tenantDbUrl env c)) = some db ∧ f db = .ok db' ∧
        Written env c db' s t := by
  unfold onTenant at h
  rw [Async.run_bind] at h
  cases hgot : Async.run (getPrismaClientByCode env c) s with
  | error e t' =>
    rw [hgot] at h
    cases h
  | ok client t₁ =>
    rw [hgot] at h
    dsimp only at h
    rw [Async.run_await] at h
    obtain ⟨hurl, hgenerated, huntouched, ht₁⟩ := getPrismaClientByCode_got ht hgot
    obtain ⟨url, db, db', hurl', hdb, hf, rfl⟩ := writeTenantDb_ok (change_ok h)
    rw [hurl, CacheValue.text.injEq] at hurl'
    subst hurl'
    change t₁.databases _ = some db at hdb
    rw [huntouched.databases] at hdb
    refine ⟨hgenerated, db, db', hdb, hf, huntouched.client, huntouched.generated, ?_,
      ht₁.rows, ht₁.redis, ht₁.clients⟩
    rw [← huntouched.databases]
    rfl

/-- The row of a code holds its own URL. -/
def HasUrl (env : Config) (c : String) (s : Host) : Prop :=
  ∃ row, s.client.findFirst (fun r => r.clientCode == c) = some row ∧
    row.dbUrl = some (tenantDbUrl env c)

theorem writeTenant_calm (hcalm : ∀ n, env.fault n = none) {c : String}
    {f : TenantDb → Except Exn TenantDb} {db db' : TenantDb} (ht : Tied env {c} s)
    (hurl : HasUrl env c s) (hgenerated : env.folder (clientFolder c) ∈ s.generated)
    (hdb : s.databases (env.databaseOf (tenantDbUrl env c)) = some db) (hf : f db = .ok db') :
    ∃ t, Async.run (onTenant env c f) s = .ok () t ∧ Written env c db' s t := by
  obtain ⟨row, hrow, hown⟩ := hurl
  obtain ⟨client, t₁, hgot⟩ := getPrismaClientByCode_calm hcalm ht hrow hown hgenerated
    (by rw [hdb]; rfl)
  obtain ⟨hclient, -, huntouched, -⟩ := getPrismaClientByCode_got ht hgot
  have hdb₁ : t₁.count.databases (env.databaseOf (tenantDbUrl env c)) = some db := by
    change t₁.databases _ = _
    rw [huntouched.databases]
    exact hdb
  have hrun : ∃ t, Async.run (onTenant env c f) s = .ok () t := by
    unfold onTenant
    rw [Async.run_bind, hgot]
    dsimp only
    rw [Async.run_await, change_done hcalm (writeTenantDb_done hclient hdb₁ hf)]
    exact ⟨_, rfl⟩
  obtain ⟨t, hrun⟩ := hrun
  obtain ⟨-, db₀, db₁, hdb₀, hf₀, hwritten⟩ := writeTenant_ok ht hrun
  rw [hdb, Option.some.injEq] at hdb₀
  subst hdb₀
  rw [hf, Except.ok.injEq] at hf₀
  subst hf₀
  exact ⟨t, hrun, hwritten⟩

/-- What filling the tenant database needs. -/
structure Fillable (env : Config) (c clientId : String) (dto : UpdateClientDbDto) (user : User)
    (s : Host) : Prop where
  generated : env.folder (clientFolder c) ∈ s.generated
  database : s.IsMigrated (env.databaseOf (tenantDbUrl env c))
  rowFits : (tenantClientRow c clientId dto).fits = true
  userFits : user.fits = true

theorem fillTenantDb_ok {c clientId : String} {dto : UpdateClientDbDto} {user user' : User}
    {t : Host} (ht : Tied env {c} s)
    (h : Async.run (fillTenantDb env c clientId dto user) s = .ok user' t) :
    Fillable env c clientId dto user s := by
  unfold fillTenantDb at h
  rw [Async.run_bind] at h
  cases hmeta : Async.run (createLegacyCompatibilityClientMeta env c clientId dto) s with
  | error e t₁ =>
    rw [hmeta] at h
    cases h
  | ok _ t₁ =>
    rw [hmeta] at h
    dsimp only at h
    obtain ⟨hgenerated, db, db', hdb, hcreate, hwritten⟩ := writeTenant_ok ht hmeta
    obtain ⟨hmigrated, hrowFits, -⟩ := createClient_ok.mp hcreate
    rw [createUser_eq, Async.run_bind] at h
    cases huser : Async.run (onTenant env c (TenantDb.createUser user)) t₁ with
    | error e t₂ =>
      rw [huser] at h
      cases h
    | ok _ t₂ =>
      obtain ⟨-, db₁, db₁', -, hcreateUser, -⟩ := writeTenant_ok hwritten.tied huser
      obtain ⟨-, huserFits, -⟩ := createUser_ok.mp hcreateUser
      exact ⟨hgenerated, ⟨db, hdb, hmigrated⟩, hrowFits, huserFits⟩

/-- An empty database is filled with the row of the client and its admin. -/
theorem fillTenantDb_calm (hcalm : ∀ n, env.fault n = none) {c clientId : String}
    {dto : UpdateClientDbDto} {user : User} (ht : Tied env {c} s) (hurl : HasUrl env c s)
    (h : Fillable env c clientId dto user s) (hclientId : user.clientId = some clientId)
    {db : TenantDb} (hdb : s.databases (env.databaseOf (tenantDbUrl env c)) = some db)
    (hclient : db.client = .empty) (huser : db.user = .empty) :
    ∃ t, Async.run (fillTenantDb env c clientId dto user) s = .ok user t ∧ ∃ db',
      t.databases (env.databaseOf (tenantDbUrl env c)) = some db' ∧ user ∈ db'.user.rows := by
  obtain ⟨db₀, hdb₀, hmigrated⟩ := h.database
  rw [hdb, Option.some.injEq] at hdb₀
  subst hdb₀
  have hvacant : (Table.empty : Table Client).Vacant (tenantClientRow c clientId dto) := by
    intro k _ r hr
    cases hr
  have hvacant' : (Table.empty : Table User).Vacant user := by
    intro k _ r hr
    cases hr
  have hcreate : TenantDb.createClient (tenantClientRow c clientId dto) db =
      .ok { db with client := Table.empty.insert _ hvacant } :=
    createClient_ok.mpr ⟨hmigrated, h.rowFits, _, by
      rw [hclient]
      exact Table.create_of_vacant hvacant, rfl⟩
  obtain ⟨t₁, hrun₁, hwritten₁⟩ := writeTenant_calm hcalm ht hurl h.generated hdb hcreate
  have hdb₁ : t₁.databases (env.databaseOf (tenantDbUrl env c)) =
      some { db with client := Table.empty.insert _ hvacant } := by
    rw [hwritten₁.databases]
    exact Function.update_self ..
  have hurl₁ : HasUrl env c t₁ := by
    unfold HasUrl
    rw [hwritten₁.client]
    exact hurl
  have hforeign : (user.clientId.all fun id =>
      (Table.empty.insert (tenantClientRow c clientId dto) hvacant).rows.any
        fun row => row.id == id) = true := by
    rw [hclientId]
    simp [Table.insert, Table.empty, tenantClientRow]
  have happlied : 13 ≤ db.applied := Nat.le_trans (by decide) hmigrated
  have hcreateUser : TenantDb.createUser user
      { db with client := Table.empty.insert _ hvacant } =
        .ok { db with
          client := Table.empty.insert _ hvacant, user := Table.empty.insert user hvacant' } :=
    createUser_ok.mpr ⟨happlied, h.userFits, hforeign, _, by
      dsimp only
      rw [huser]
      exact Table.create_of_vacant hvacant', rfl⟩
  obtain ⟨t₂, hrun₂, hwritten₂⟩ := writeTenant_calm hcalm hwritten₁.tied hurl₁
    (by rw [hwritten₁.generated]; exact h.generated) hdb₁ hcreateUser
  have hdb₂ := congrFun hwritten₂.databases (env.databaseOf (tenantDbUrl env c))
  rw [Function.update_self] at hdb₂
  have hadmin : user ∈ (Table.empty.insert user hvacant').rows :=
    (Table.mem_insert hvacant').mpr (Or.inr rfl)
  refine ⟨t₂, ?_, _, hdb₂, hadmin⟩
  have hmeta : Async.run (createLegacyCompatibilityClientMeta env c clientId dto) s =
      .ok () t₁ := hrun₁
  unfold fillTenantDb
  rw [Async.run_bind, hmeta]
  dsimp only
  rw [createUser_eq, Async.run_bind, hrun₂]
  rfl

/-- The host when the admin is about to be created. -/
def Host.registered (s : Host) (env : Config) (c : String) : Host :=
  { s.setDatabase (tenantDbName env c) TenantDb.created with
    envFile := registeredEnv env c s.envFile }

def Host.prepared (s : Host) (env : Config) (c : String) : Host :=
  ((s.registered env c).migrate env (tenantDbUrl env c) c).migrate env (tenantDbUrl env c) c

/-- A second run of the script finds what the first has left. -/
theorem Migratable.again {dbUrl c : String} (h : Migratable env dbUrl c s) :
    Migratable env dbUrl c (s.migrate env dbUrl c) := by
  refine ⟨h.base, h.dist, ?_⟩
  have hdb : (s.migrate env dbUrl c).databases
      (env.databaseOf (deployUrl env dbUrl c (s.migrate env dbUrl c).envFile)) =
        some { (s.databases (env.databaseOf (deployUrl env dbUrl c s.envFile))).getD
          TenantDb.created with applied := migrations.length } := Function.update_self ..
  rw [hdb]
  exact h.sound

theorem Migratable.after {dbUrl c : String} {n : Nat} :
    Migratable env dbUrl c (s.after n) ↔ Migratable env dbUrl c s :=
  ⟨fun h => ⟨h.base, h.dist, h.sound⟩, fun h => ⟨h.base, h.dist, h.sound⟩⟩

theorem provision_calm (hcalm : ∀ n, env.fault n = none) (command : CreateClientAdminUserCommand)
    (row : Client) (hdb : s.databases (tenantDbName env command.clientCode) = none) :
    (Migratable env (tenantDbUrl env command.clientCode) command.clientCode
        (s.registered env command.clientCode) →
      ∃ n, Async.run (provision env command row) s = Async.run (createAdmin env command row)
        ((s.prepared env command.clientCode).after n)) ∧
    (¬ Migratable env (tenantDbUrl env command.clientCode) command.clientCode
        (s.registered env command.clientCode) →
      ∃ e t, Async.run (provision env command row) s = .error e t) := by
  obtain ⟨n₁, hcreate⟩ := createDatabase_creates hcalm hdb
  have hregister : ∃ n, Async.run (registerEnvKey env command.clientCode)
      ((s.setDatabase (tenantDbName env command.clientCode) TenantDb.created).after n₁) =
        .ok () ((s.registered env command.clientCode).after n) := registerEnvKey_calm hcalm _
  obtain ⟨n₂, hregister⟩ := hregister
  have hmigrate := runPrismaMigrate_calm (s := (s.registered env command.clientCode).after n₂) hcalm
    (tenantDbUrl env command.clientCode) command.clientCode
  rw [Migratable.after] at hmigrate
  unfold provision
  rw [Async.run_bind, hcreate]
  dsimp only
  rw [Async.run_bind, hregister]
  dsimp only
  rw [Async.run_bind, Async.run_handle]
  refine ⟨fun h => ?_, fun h => ?_⟩
  · obtain ⟨n₃, hfirst⟩ := hmigrate.1 h
    have hsecond : ∃ n, Async.run (runPrismaMigrate env (tenantDbUrl env command.clientCode)
        command.clientCode) ((((s.registered env command.clientCode).after n₂).migrate env
          (tenantDbUrl env command.clientCode) command.clientCode).after n₃) =
        .ok () ((s.prepared env command.clientCode).after n) :=
      (runPrismaMigrate_calm hcalm _ _).1 (Migratable.after.mpr (Migratable.again
        (Migratable.after.mpr h)))
    obtain ⟨n₄, hsecond⟩ := hsecond
    refine ⟨n₄, ?_⟩
    rw [hfirst]
    dsimp only
    rw [Async.run_bind, hsecond]
  · obtain ⟨e, t, hfirst⟩ := hmigrate.2 h
    rw [hfirst]
    exact ⟨_, _, rfl⟩

/-- What a run without failures needs besides a free name for its database. -/
structure Workable (env : Config) (command : CreateClientAdminUserCommand) (clientId : String)
    (s : Host) : Prop where
  row : (clientId, command.clientCode, true, false) ∈ s.client.rows.map Client.standing
  base : truthy env.databaseBaseUrl
  dist : env.folder (tenantDbName env command.clientCode) ∉ s.distGenerated
  deploys : env.databaseOf (deployUrl env (tenantDbUrl env command.clientCode) command.clientCode
    (registeredEnv env command.clientCode s.envFile)) = tenantDbName env command.clientCode
  encrypts : ∃ encrypted, env.encryptClientCode command.clientCode = .ok encrypted
  dtoFits : (updateClientDbDto env command).fits = true
  rowFits : (tenantClientRow command.clientCode clientId (updateClientDbDto env command)).fits = true
  adminFits : ∀ n, User.fits (admin env command clientId n) = true
  folder : env.folder (clientFolder command.clientCode) ∈ s.generated ∨
    env.folder (clientFolder command.clientCode) = env.folder (scriptDbName env command.clientCode)

theorem mem_prepared_generated {c f : String} : f ∈ (s.prepared env c).generated ↔
    f ∈ s.generated ∨ f = env.folder (scriptDbName env c) := by
  have hgenerated : (s.prepared env c).generated =
      s.generated ++ [env.folder (scriptDbName env c)] ++ [env.folder (scriptDbName env c)] := rfl
  rw [hgenerated, List.mem_append, List.mem_append, List.mem_singleton]
  tauto

/-- Both runs of the script act on the database that `.env` or the schema names. -/
theorem prepared_databases {c : String} : (s.prepared env c).databases (tenantDbName env c) =
    some (if env.databaseOf (deployUrl env (tenantDbUrl env c) c (registeredEnv env c s.envFile)) =
      tenantDbName env c then { TenantDb.created with applied := migrations.length }
    else TenantDb.created) := by
  have hmigrate (t : Host) (name : String) : (t.migrate env (tenantDbUrl env c) c).databases name =
      if env.databaseOf (deployUrl env (tenantDbUrl env c) c t.envFile) = name then
        some { (t.databases name).getD TenantDb.created with applied := migrations.length }
      else t.databases name := by
    by_cases hname : env.databaseOf (deployUrl env (tenantDbUrl env c) c t.envFile) = name
    · rw [if_pos hname, ← hname]
      exact Function.update_self ..
    · rw [if_neg hname]
      exact Function.update_of_ne (Ne.symm hname) ..
  have hcreated : (s.registered env c).databases (tenantDbName env c) = some TenantDb.created :=
    Function.update_self ..
  have hfile : (s.registered env c).envFile = registeredEnv env c s.envFile := rfl
  have hfile' : ((s.registered env c).migrate env (tenantDbUrl env c) c).envFile =
      registeredEnv env c s.envFile := rfl
  unfold Host.prepared
  rw [hmigrate, hmigrate, hcreated, hfile', hfile]
  by_cases h : env.databaseOf (deployUrl env (tenantDbUrl env c) c
      (registeredEnv env c s.envFile)) = tenantDbName env c
  · rw [if_pos h, if_pos h, if_pos h]
    rfl
  · rw [if_neg h, if_neg h, if_neg h]

theorem tied_prepared {codes : Set String} {c : String} (ht : Tied env codes s) :
    Tied env codes (s.prepared env c) :=
  ⟨ht.rows, ht.redis, fun c' hc client hget =>
    ⟨(ht.clients c' hc client hget).1,
      mem_prepared_generated.mpr (Or.inl (ht.clients c' hc client hget).2)⟩⟩

theorem tied_recorded {command : CreateClientAdminUserCommand} {row : Client}
    (ht : Tied env {command.clientCode} s) (hrow : row ∈ s.client.rows)
    (hcode : row.clientCode = command.clientCode) (hfits : (updateClientDbDto env command).fits)
    (user : User) (encrypted : Nat → String) :
    Tied env {command.clientCode} (s.recorded env command row.id user encrypted) := by
  have hupdate : updateClientRow row.id (updateClientDbDto env command) s = .ok { s with
      client := s.client.updateMany (fun r => r.id == row.id)
        (withDatabase (updateClientDbDto env command)) } := by
    unfold updateClientRow
    have hif := hfits
    unfold UpdateClientDbDto.fits at hif
    rw [if_pos hif, Table.update_of_mem hrow (by simp)]
  have hmove : Respects env {command.clientCode} s _ := respects_updateClientRow
    (rowIs_of_mem hrow) (congrArg (tenantDbUrl env) hcode.symm) hupdate
  have htied := hmove.tied ht
  exact ⟨htied.rows, htied.redis, htied.clients⟩

/-- The host when the row of the client is about to be written. -/
structure Prepared (env : Config) (c : String) (s s₁ : Host) : Prop where
  client : s₁.client = s.client
  databases : s₁.databases = (s.prepared env c).databases
  generated : ∀ f, f ∈ s₁.generated ↔ f ∈ s.generated ∨ f = env.folder (scriptDbName env c)
  tied : ∀ codes, Tied env codes s → Tied env codes s₁

theorem provision_records (hcalm : ∀ n, env.fault n = none)
    {command : CreateClientAdminUserCommand} (row : Client)
    (hdb : s.databases (tenantDbName env command.clientCode) = none)
    (h : Migratable env (tenantDbUrl env command.clientCode) command.clientCode
      (s.registered env command.clientCode)) :
    ∃ s₁, Prepared env command.clientCode s s₁ ∧ Async.run (provision env command row) s =
      Async.run (recordAdmin env command row (admin env command row.id s.draws)) s₁ := by
  obtain ⟨n, hrun⟩ := (provision_calm hcalm command row hdb).1 h
  have hdraws : ((s.prepared env command.clientCode).after n).draws = s.draws := rfl
  rw [createAdmin_draws hcalm, hdraws] at hrun
  refine ⟨_, ?_, hrun⟩
  constructor
  · rfl
  · rfl
  · intro f
    exact mem_prepared_generated
  · intro codes ht
    have htied : Tied env codes (s.prepared env command.clientCode) := tied_prepared ht
    exact ⟨htied.rows, htied.redis, htied.clients⟩

/-- A run that succeeds had all it needs. -/
theorem workable_of_provision (hcalm : ∀ n, env.fault n = none) (hlengths : FixedLengths env)
    {command : CreateClientAdminUserCommand}
    (hown : env.databaseOf (tenantDbUrl env command.clientCode) = tenantDbName env command.clientCode)
    (ht : Tied env {command.clientCode} s) {row : Client} (hrow : row ∈ s.client.rows)
    (hstanding : row.standing = (row.id, command.clientCode, true, false)) {user : User} {t : Host}
    (h : Async.run (provision env command row) s = .ok user t) :
    Workable env command row.id s := by
  have hcode : row.clientCode = command.clientCode := congrArg (fun p => p.2.1) hstanding
  cases hdb : s.databases (tenantDbName env command.clientCode) with
  | some db =>
    have hexists : (s.databases (tenantDbName env command.clientCode)).isSome := by
      rw [hdb]
      rfl
    obtain ⟨n, hrefused⟩ := createDatabase_refuses hcalm hexists
    unfold provision at h
    rw [Async.run_bind, hrefused] at h
    cases h
  | none =>
    by_cases hmigratable : Migratable env (tenantDbUrl env command.clientCode) command.clientCode
        (s.registered env command.clientCode)
    · obtain ⟨s₁, hprepared, hrun⟩ := provision_records hcalm row hdb hmigratable
      rw [hrun] at h
      have hrow₁ : row ∈ s₁.client.rows := hprepared.client ▸ hrow
      obtain ⟨hrecords, hneeds⟩ := recordAdmin_calm hcalm hrow₁ (admin env command row.id s.draws)
      obtain ⟨hfits, encrypted, hencrypt⟩ := hneeds user t h
      have hfill := (hrecords encrypted hencrypt hfits).symm.trans h
      rw [hcode] at hfill
      have htied := tied_recorded (hprepared.tied _ ht) hrow₁ hcode hfits
        (admin env command row.id s.draws) encrypted
      have hfillable := fillTenantDb_ok htied hfill
      constructor
      · exact List.mem_map.mpr ⟨row, hrow, hstanding⟩
      · exact hmigratable.base
      · exact hmigratable.dist
      · by_contra hother
        obtain ⟨db, hget, hall⟩ := hfillable.database
        rw [hown] at hget
        change s₁.databases _ = _ at hget
        rw [hprepared.databases, prepared_databases, if_neg hother, Option.some.injEq] at hget
        rw [← hget] at hall
        unfold TenantDb.Migrated at hall
        exact absurd hall (by decide)
      · exact ⟨encrypted, hencrypt⟩
      · exact hfits
      · exact hfillable.rowFits
      · exact fun k => (admin_fits hlengths command row.id k s.draws).trans hfillable.userFits
      · exact (hprepared.generated _).mp hfillable.generated
    · obtain ⟨e, t', hfailed⟩ := (provision_calm hcalm command row hdb).2 hmigratable
      rw [hfailed] at h
      cases h

/-- With all it needs, and a free name for its database, a run succeeds. -/
theorem provision_of_workable (hcalm : ∀ n, env.fault n = none)
    {command : CreateClientAdminUserCommand}
    (hown : env.databaseOf (tenantDbUrl env command.clientCode) = tenantDbName env command.clientCode)
    (ht : Tied env {command.clientCode} s) {row : Client} (hrow : row ∈ s.client.rows)
    (hcode : row.clientCode = command.clientCode) (h : Workable env command row.id s)
    (hdb : s.databases (tenantDbName env command.clientCode) = none) :
    ∃ t db, Async.run (provision env command row) s = .ok (admin env command row.id s.draws) t ∧
      t.databases (tenantDbName env command.clientCode) = some db ∧
        admin env command row.id s.draws ∈ db.user.rows := by
  have hcreated : (s.registered env command.clientCode).databases
      (tenantDbName env command.clientCode) = some TenantDb.created := Function.update_self ..
  have hdeploys : env.databaseOf (deployUrl env (tenantDbUrl env command.clientCode)
      command.clientCode (s.registered env command.clientCode).envFile) =
        tenantDbName env command.clientCode := h.deploys
  have hmigratable : Migratable env (tenantDbUrl env command.clientCode) command.clientCode
      (s.registered env command.clientCode) := by
    refine ⟨h.base, h.dist, ?_⟩
    rw [hdeploys, hcreated]
    rfl
  obtain ⟨s₁, hprepared, hrun⟩ := provision_records hcalm row hdb hmigratable
  have hrow₁ : row ∈ s₁.client.rows := hprepared.client ▸ hrow
  obtain ⟨encrypted, hencrypt⟩ := h.encrypts
  have hrecords := (recordAdmin_calm hcalm hrow₁ (admin env command row.id s.draws)).1 encrypted
    hencrypt h.dtoFits
  have htied := tied_recorded (hprepared.tied _ ht) hrow₁ hcode h.dtoFits
    (admin env command row.id s.draws) encrypted
  have hfilled : s₁.databases (env.databaseOf (tenantDbUrl env command.clientCode)) =
      some { TenantDb.created with applied := migrations.length } := by
    rw [hown, hprepared.databases, prepared_databases, if_pos h.deploys]
  have hfillable : Fillable env command.clientCode row.id (updateClientDbDto env command)
      (admin env command row.id s.draws) (s₁.recorded env command row.id
        (admin env command row.id s.draws) encrypted) :=
    ⟨(hprepared.generated _).mpr h.folder, ⟨_, hfilled, Nat.le_refl _⟩, h.rowFits, h.adminFits _⟩
  have hurl : HasUrl env command.clientCode (s₁.recorded env command row.id
      (admin env command row.id s.draws) encrypted) := by
    have hupdated : (withDatabase (updateClientDbDto env command)).apply row ∈
        (s₁.client.updateMany (fun r => r.id == row.id)
          (withDatabase (updateClientDbDto env command))).rows :=
      Table.mem_updateMany.mpr ⟨row, hrow₁, if_pos (beq_self_eq_true _)⟩
    have hfound := Table.findFirst_key (k := Client.clientCode) (by simp [Keyed.keys]) hupdated
    have hcode' : ((withDatabase (updateClientDbDto env command)).apply row).clientCode =
        command.clientCode := hcode
    rw [hcode'] at hfound
    exact ⟨_, hfound, rfl⟩
  obtain ⟨t, hfill, db, hdb', hadmin⟩ := fillTenantDb_calm hcalm htied hurl hfillable rfl hfilled
    rfl rfl
  rw [hown] at hdb'
  refine ⟨t, db, ?_, hdb', hadmin⟩
  rw [hrun, hrecords, hcode]
  exact hfill

theorem createClientAdminUser_calm (hcalm : ∀ n, env.fault n = none)
    {command : CreateClientAdminUserCommand} {row : Client} (hrow : row ∈ s.client.rows)
    (hstanding : row.standing = (row.id, command.clientCode, true, false)) :
    Async.run (createClientAdminUser env command) s =
      Async.run (provision env command row) s.count := by
  have hcode : row.clientCode = command.clientCode := congrArg (fun p => p.2.1) hstanding
  have hpaid : row.isPaid = true := congrArg (fun p => p.2.2.1) hstanding
  have hcreated : row.isDbCreated = false := congrArg (fun p => p.2.2.2) hstanding
  have hfind : s.count.client.findFirst (fun r => r.clientCode == command.clientCode) = some row := by
    rw [← hcode]
    exact Table.findFirst_key (k := Client.clientCode) (by simp [Keyed.keys]) hrow
  unfold createClientAdminUser
  rw [Async.run_bind, Async.run_await]
  unfold findClientByCode
  rw [external_calm hcalm]
  dsimp only
  rw [hfind]
  dsimp only
  rw [hcreated, hpaid]
  rfl

theorem workable_of_ok (hcalm : ∀ n, env.fault n = none) (hlengths : FixedLengths env)
    {command : CreateClientAdminUserCommand}
    (hown : env.databaseOf (tenantDbUrl env command.clientCode) = tenantDbName env command.clientCode)
    (ht : Tied env {command.clientCode} s) {user : User} {t : Host}
    (h : Async.run (createClientAdminUser env command) s = .ok user t) :
    ∃ clientId, Workable env command clientId s := by
  have hrow : ∃ row ∈ s.client.rows, row.standing = (row.id, command.clientCode, true, false) := by
    unfold createClientAdminUser at h
    rw [Async.run_bind, Async.run_await] at h
    unfold findClientByCode at h
    rw [external_calm hcalm] at h
    dsimp only at h
    cases hfind : s.count.client.findFirst (fun r => r.clientCode == command.clientCode) with
    | none =>
      rw [hfind] at h
      cases h
    | some row =>
      rw [hfind] at h
      obtain ⟨hrow, hcode⟩ := Table.findFirst_mem hfind
      refine ⟨row, hrow, ?_⟩
      unfold Client.standing
      by_cases hcreated : row.isDbCreated = true
      · dsimp only at h
        rw [if_pos hcreated] at h
        cases h
      · by_cases hpaid : row.isPaid = true
        · rw [hpaid, eq_of_beq hcode, Bool.eq_false_of_not_eq_true hcreated]
        · dsimp only at h
          rw [if_neg hcreated, if_neg hpaid] at h
          cases h
  obtain ⟨row, hrow, hstanding⟩ := hrow
  rw [createClientAdminUser_calm hcalm hrow hstanding] at h
  have hworkable := workable_of_provision (s := s.count) hcalm hlengths hown
    ⟨ht.rows, ht.redis, ht.clients⟩ hrow hstanding h
  exact ⟨row.id, hworkable.row, hworkable.base, hworkable.dist, hworkable.deploys,
    hworkable.encrypts, hworkable.dtoFits, hworkable.rowFits, hworkable.adminFits, hworkable.folder⟩

end Calm

end NestUserService.Tenant
