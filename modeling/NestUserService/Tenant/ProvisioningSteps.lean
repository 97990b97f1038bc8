import NestUserService.Lib.RelyGuarantee
import NestUserService.Tenant.ClientSteps
import NestUserService.Tenant.Provisioning

/-!
# What the steps of the provisioning handler do

The migration script and the creation of the database touch the databases, the schema
file and the generated clients, and nothing else. No step takes a database, a migration or
a generated client away.
-/

namespace NestUserService.Tenant

open Lib NestUserService.Core

/-- A relation between states that does not see the number of operations. -/
structure Tolerant (R : Host → Host → Prop) : Prop where
  refl : ∀ s, R s s
  trans : ∀ s t u, R s t → R t u → R s u
  count : ∀ s, R s s.count

namespace Tolerant

variable {R : Host → Host → Prop} {env : Config} {s : Host}

theorem attempt {α : Type} {leave : Fault → Host → Host} {x : HostSync α} (hr : Tolerant R)
    (hleave : ∀ f, R s.count (leave f s.count)) (hx : R s.count (finalState (x s.count))) :
    R s (finalState (Tenant.attempt env leave x s)) := by
  unfold Tenant.attempt
  cases env.fault s.operations with
  | some f => exact hr.trans _ _ _ (hr.count s) (hleave f)
  | none => exact hr.trans _ _ _ (hr.count s) hx

theorem external {α : Type} {x : HostSync α} (hr : Tolerant R)
    (hx : R s.count (finalState (x s.count))) : R s (finalState (Tenant.external env x s)) :=
  hr.attempt (fun _ => hr.refl _) hx

theorem change {f : Host → Except Exn Host} (hr : Tolerant R)
    (hf : ∀ s', f s.count = .ok s' → R s.count s') :
    R s (finalState (Tenant.change env f s)) := by
  refine hr.attempt (fun fault => ?_) ?_
  · by_cases h : fault.progress = 0
    · rw [if_pos h]
      exact hr.refl _
    · rw [if_neg h]
      cases hs : f s.count with
      | ok s' => exact hf s' hs
      | error e => exact hr.refl _
  · cases hs : f s.count with
    | ok s' => exact hf s' hs
    | error e => exact hr.refl _

theorem awaited {α : Type} {x : HostSync α} (hx : ∀ s, R s (finalState (x s))) :
    Async.Guarantees R (fun _ => True) (Async.await x) :=
  Async.Guarantees.await hx fun _ _ _ _ => trivial

theorem run_bind {α β : Type} {x : HostApp α} {f : α → HostApp β} (hr : Tolerant R)
    (hx : R s (finalState (Async.run x s)))
    (hf : ∀ a t, Async.run x s = .ok a t → R t (finalState (Async.run (f a) t))) :
    R s (finalState (Async.run (x >>= f) s)) := by
  rw [Async.run_bind]
  cases hrun : Async.run x s with
  | ok a t =>
    rw [hrun] at hx
    exact hr.trans _ _ _ hx (hf a t hrun)
  | error e t =>
    rw [hrun] at hx
    exact hx

end Tolerant

/-- What an operation leaves: its change, unless it fails without a trace. -/
theorem finalState_change (env : Config) (f : Host → Except Exn Host) (s : Host) :
    finalState (change env f s) =
      if (env.fault s.operations).all (fun fault => decide (fault.progress ≠ 0)) then
        match f s.count with
        | .ok s' => s'
        | .error _ => s.count
      else s.count := by
  unfold change attempt
  cases env.fault s.operations with
  | some fault =>
    by_cases h : fault.progress = 0
    · simp [h]
    · rw [Option.all_some, if_pos (decide_eq_true h)]
      exact if_neg h
  | none =>
    simp only [Option.all_none, if_true]
    cases f s.count <;> rfl

/-- A change that was reported as done has been done. -/
theorem change_ok {env : Config} {f : Host → Except Exn Host} {s s' : Host}
    (h : change env f s = .ok () s') : f s.count = .ok s' := by
  unfold change attempt at h
  cases hfault : env.fault s.operations with
  | some fault =>
    rw [hfault] at h
    cases h
  | none =>
    rw [hfault] at h
    dsimp only at h
    cases hf : f s.count with
    | error e =>
      rw [hf] at h
      cases h
    | ok t =>
      rw [hf] at h
      cases h
      rfl

/-- What every move of a call of the client manager does, the call does. -/
theorem run_getPrismaClientByCode {R : Host → Host → Prop} {env : Config} {code : String}
    (hrefl : ∀ s, R s s) (htrans : ∀ s t u, R s t → R t u → R s u)
    (hmove : ∀ pc s pc' s', Move env code pc s pc' s' → R s s') (s : Host) :
    R s (finalState (Async.run (getPrismaClientByCode env code) s)) := by
  have hsafe : Async.Safe R (fun _ _ => True)
      ((clientCalls env fun _ : Unit => code).program () .start) s :=
    Threads.Automaton.safe (P := fun _ _ => True) _ (fun _ _ _ _ _ => trivial)
      (fun pc s pc' s' _ h => ⟨hmove pc s pc' s' h, trivial⟩) (fun _ _ _ _ _ => trivial) trivial
  exact (hsafe.run hrefl htrans).1

/-- What a call of the client manager leaves alone. -/
structure Untouched (s s' : Host) : Prop where
  client : s'.client = s.client
  databases : s'.databases = s.databases
  envFile : s'.envFile = s.envFile
  generated : s'.generated = s.generated
  distGenerated : s'.distGenerated = s.distGenerated

namespace Untouched

theorem refl (s : Host) : Untouched s s := ⟨rfl, rfl, rfl, rfl, rfl⟩

theorem trans {s t u : Host} (h : Untouched s t) (h' : Untouched t u) : Untouched s u where
  client := h'.client.trans h.client
  databases := h'.databases.trans h.databases
  envFile := h'.envFile.trans h.envFile
  generated := h'.generated.trans h.generated
  distGenerated := h'.distGenerated.trans h.distGenerated

theorem move {env : Config} {code : String} {pc pc' : Pc} {s s' : Host}
    (h : Move env code pc s pc' s') : Untouched s s' := by
  cases h with
  | stored =>
    obtain ⟨m, l, d, hframe⟩ := makeRoom_frame env s
    unfold cacheClient
    rw [hframe]
    exact ⟨rfl, rfl, rfl, rfl, rfl⟩
  | hit => exact ⟨rfl, rfl, rfl, rfl, rfl⟩
  | miss => exact .refl s
  | cached => exact ⟨rfl, rfl, rfl, rfl, rfl⟩
  | uncached => exact ⟨rfl, rfl, rfl, rfl, rfl⟩
  | found => exact ⟨rfl, rfl, rfl, rfl, rfl⟩
  | filled => exact ⟨rfl, rfl, rfl, rfl, rfl⟩
  | loaded => exact ⟨rfl, rfl, rfl, rfl, rfl⟩
  | opened => exact ⟨rfl, rfl, rfl, rfl, rfl⟩
  | failed => exact ⟨rfl, rfl, rfl, rfl, rfl⟩

theorem getPrismaClientByCode (env : Config) (code : String) (s : Host) :
    Untouched s (finalState (Async.run (Tenant.getPrismaClientByCode env code) s)) :=
  run_getPrismaClientByCode refl (fun _ _ _ => trans) (fun _ _ _ _ => move) s

end Untouched

/-- What the migration script and the creation of the database may do. -/
structure Works (s s' : Host) : Prop where
  client : s'.client = s.client
  redis : s'.redis = s.redis
  clientMap : s'.clientMap = s.clientMap
  envFile : s'.envFile = s.envFile
  distGenerated : s'.distGenerated = s.distGenerated
  databases : ∀ name db, s.databases name = some db →
    ∃ db', s'.databases name = some db' ∧ (db.Migrated → db'.Migrated)
  generated : ∀ f ∈ s.generated, f ∈ s'.generated

namespace Works

theorem refl (s : Host) : Works s s :=
  ⟨rfl, rfl, rfl, rfl, rfl, fun _ db h => ⟨db, h, id⟩, fun _ => id⟩

theorem trans {s t u : Host} (h : Works s t) (h' : Works t u) : Works s u where
  client := h'.client.trans h.client
  redis := h'.redis.trans h.redis
  clientMap := h'.clientMap.trans h.clientMap
  envFile := h'.envFile.trans h.envFile
  distGenerated := h'.distGenerated.trans h.distGenerated
  databases name db hdb := by
    obtain ⟨db', hdb', hm⟩ := h.databases name db hdb
    obtain ⟨db'', hdb'', hm'⟩ := h'.databases name db' hdb'
    exact ⟨db'', hdb'', fun hall => hm' (hm hall)⟩
  generated f hf := h'.generated f (h.generated f hf)

theorem tolerant : Tolerant Works :=
  ⟨refl, fun _ _ _ => trans, fun _ => ⟨rfl, rfl, rfl, rfl, rfl, fun _ db h => ⟨db, h, id⟩,
    fun _ => id⟩⟩

theorem files {s : Host} (schema : Schema) (folders : List String) :
    Works s { s with schemaFile := schema, generated := s.generated ++ folders } :=
  ⟨rfl, rfl, rfl, rfl, rfl, fun _ db h => ⟨db, h, id⟩, fun _ hf => List.mem_append_left _ hf⟩

theorem setDatabase {s : Host} {name : String} {db : TenantDb}
    (h : ∀ db₀, s.databases name = some db₀ → db₀.Migrated → db.Migrated) :
    Works s (s.setDatabase name db) := by
  refine ⟨rfl, rfl, rfl, rfl, rfl, fun name' db' h' => ?_, fun _ => id⟩
  by_cases hn : name' = name
  · subst hn
    exact ⟨db, Function.update_self .., h db' h'⟩
  · exact ⟨db', (Function.update_of_ne hn ..).trans h', id⟩

end Works

/-- The tables of the database; a database that is missing has no rows. -/
def Host.tables (s : Host) (name : String) : Table Client × Table User :=
  ((s.databases name).map fun db => (db.client, db.user)).getD (.empty, .empty)

theorem Host.tables_of_some {s : Host} {name : String} {db : TenantDb}
    (h : s.databases name = some db) : s.tables name = (db.client, db.user) := by
  unfold Host.tables
  rw [h]
  rfl

theorem Host.tables_congr {s t : Host} (h : t.databases = s.databases) (name : String) :
    t.tables name = s.tables name := by
  unfold Host.tables
  rw [h]

theorem Host.tables_update {s t : Host} {name : String} {db : TenantDb}
    (h : t.databases = Function.update s.databases name (some db)) (name' : String) :
    t.tables name' = if name' = name then (db.client, db.user) else s.tables name' := by
  unfold Host.tables
  rw [h]
  by_cases hn : name' = name
  · subst hn
    rw [Function.update_self, if_pos rfl]
    rfl
  · rw [Function.update_of_ne hn, if_neg hn]

theorem Host.tables_setDatabase (s : Host) (name : String) (db : TenantDb) :
    (s.setDatabase name db).tables name = (db.client, db.user) := by
  rw [Host.tables_update (s := s) rfl, if_pos rfl]

/-- Such a move that leaves the rows in the tables alone, and publishes nothing. -/
structure Builds (s s' : Host) : Prop extends Works s s' where
  tables : ∀ name, s'.tables name = s.tables name
  published : s'.published = s.published

namespace Builds

theorem refl (s : Host) : Builds s s := ⟨.refl s, fun _ => rfl, rfl⟩

theorem trans {s t u : Host} (h : Builds s t) (h' : Builds t u) : Builds s u :=
  ⟨h.toWorks.trans h'.toWorks, fun name => (h'.tables name).trans (h.tables name),
    h'.published.trans h.published⟩

theorem tolerant : Tolerant Builds :=
  ⟨refl, fun _ _ _ => trans, fun s => ⟨Works.tolerant.count s, fun _ => rfl, rfl⟩⟩

/-- A database with other migrations, or a new one. -/
theorem setDatabase {s : Host} {name : String} {db : TenantDb}
    (h : ∀ db₀, s.databases name = some db₀ → db₀.Migrated → db.Migrated)
    (ht : (db.client, db.user) = s.tables name) : Builds s (s.setDatabase name db) := by
  refine ⟨.setDatabase h, fun name' => ?_, rfl⟩
  rw [Host.tables_update (s := s) rfl]
  split
  · rename_i hn
    rw [hn, ht]
  · rfl

end Builds

section Scripts

variable {env : Config}

theorem builds_read {α : Type} {x : HostSync α} (hx : ∀ s, finalState (x s) = s) :
    Async.Guarantees Builds (fun _ => True) (Async.await (external env x)) := by
  refine Tolerant.awaited fun s => Builds.tolerant.external ?_
  rw [hx]
  exact .refl _

theorem builds_change {f : Host → Host} (hf : ∀ s, Builds s (f s)) :
    Async.Guarantees Builds (fun _ => True) (Async.await (change env fun s => .ok (f s))) :=
  Tolerant.awaited fun s => Builds.tolerant.change fun s' h => by
    cases h
    exact hf s.count

theorem builds_createDatabase (dbName : String) :
    Async.Guarantees Builds (fun _ => True) (createDatabase env dbName) := by
  have hcreate (s : Host) : Builds s (s.createDatabaseIfNotExists dbName) := by
    unfold Host.createDatabaseIfNotExists
    cases hdb : s.databases dbName with
    | some db => exact .refl s
    | none =>
      refine .setDatabase (fun db₀ h _ => ?_) ?_
      · rw [hdb] at h
        cases h
      · unfold Host.tables
        rw [hdb]
        rfl
  refine (builds_read fun _ => rfl).bind fun _ _ => ?_
  refine (builds_read fun _ => rfl).bind fun rows _ => ?_
  refine Async.Guarantees.ite (fun _ => ?_) fun _ => ?_
  · exact (builds_read fun _ => rfl).bind fun _ _ => Async.Guarantees.throw _
  · exact (builds_change hcreate).bind fun _ _ => builds_read fun _ => rfl

/-- The migrations of a database leave its rows alone. -/
theorem tables_getD (s : Host) (name : String) :
    (((s.databases name).getD TenantDb.created).client,
      ((s.databases name).getD TenantDb.created).user) = s.tables name := by
  unfold Host.tables
  cases s.databases name <;> rfl

theorem builds_deploy (url : String) :
    Async.Guarantees Builds (fun _ => True) (Async.await (deployMigrations env url)) := by
  refine Tolerant.awaited fun s => Builds.tolerant.attempt (fun fault => ?_) ?_
  · unfold interruptDeploy
    dsimp only
    split
    · exact .refl _
    · refine .setDatabase (fun db₀ h hall => ?_) (tables_getD _ _)
      rw [h]
      exact Nat.le_trans hall (Nat.le_max_left _ _)
  · dsimp only
    split
    · exact .refl _
    · exact .setDatabase (fun _ _ _ => Nat.le_refl _) (tables_getD _ _)

theorem builds_files {s : Host} (schema : Schema) (folders : List String) :
    Builds s { s with schemaFile := schema, generated := s.generated ++ folders } :=
  ⟨.files schema folders, fun _ => rfl, rfl⟩

theorem builds_migrateScript (dbUrl clientCode : String) :
    Async.Guarantees Builds (fun _ => True) (migrateScript env dbUrl clientCode) := by
  have hschema : Async.Guarantees Builds (fun _ => True)
      (generateSchema env dbUrl clientCode) := by
    refine (builds_read fun _ => rfl).bind fun lines _ => builds_change fun s => ?_
    have hfiles := builds_files (s := s) (tenantSchema env dbUrl clientCode lines) []
    rw [List.append_nil] at hfiles
    exact hfiles
  have hdeploy : Async.Guarantees Builds (fun _ => True) (migrateDeploy env) := by
    refine (builds_read fun _ => rfl).bind fun lines _ => ?_
    refine (builds_read fun _ => rfl).bind fun schema _ => ?_
    cases resolveDatasource env lines schema.datasource with
    | some url => exact builds_deploy url
    | none => exact Async.Guarantees.throw _
  have hgenerate : Async.Guarantees Builds (fun _ => True) (prismaGenerate env) := by
    refine (builds_read fun _ => rfl).bind fun schema _ => builds_change fun s => ?_
    exact builds_files s.schemaFile [env.folder schema.output]
  refine Async.Guarantees.ite (fun _ => ?_) fun _ => Async.Guarantees.throw _
  exact hschema.bind fun _ _ => hdeploy.bind fun _ _ => hgenerate

theorem builds_runPrismaMigrate (dbUrl clientCode : String) :
    Async.Guarantees Builds (fun _ => True) (runPrismaMigrate env dbUrl clientCode) := by
  refine (Tolerant.awaited fun s => Builds.refl s).bind fun folderExists _ => ?_
  refine Async.Guarantees.ite (fun _ => Async.Guarantees.throw _) fun _ => ?_
  exact (builds_migrateScript dbUrl clientCode).handle fun _ => Async.Guarantees.throw _

/-- The registration only appends to `.env`. -/
theorem guarantees_registerEnvKey {R : Host → Host → Prop} (hr : Tolerant R) {clientCode : String}
    (happend : ∀ s, R s (appendEnvKey env clientCode s)) :
    Async.Guarantees R (fun _ => True) (registerEnvKey env clientCode) := by
  refine Async.Guarantees.handle ?_ fun _ => Async.Guarantees.throw _
  refine Async.Guarantees.bind (V := fun _ => True)
    (Tolerant.awaited fun s => hr.external (hr.refl _)) fun content _ => ?_
  refine Async.Guarantees.ite (fun _ => Async.Guarantees.pure trivial) fun _ => ?_
  refine Tolerant.awaited fun s => hr.change fun s' h => ?_
  cases h
  exact happend s.count

theorem works_of_builds {x : HostApp Unit} (h : Async.Guarantees Builds (fun _ => True) x) :
    Async.Guarantees Works (fun _ => True) x :=
  h.mono (fun _ _ hs => hs.toWorks) fun _ => id

end Scripts

theorem checkTable_ok {db : TenantDb} {created complete : Nat} (h : created ≤ complete) :
    db.checkTable created complete = .ok () ↔ complete ≤ db.applied := by
  unfold TenantDb.checkTable
  constructor
  · intro hok
    split at hok
    · cases hok
    · split at hok
      · cases hok
      · omega
  · intro hall
    rw [if_neg (by omega), if_neg (by omega)]

theorem createClient_ok {row : Client} {db db' : TenantDb} :
    TenantDb.createClient row db = .ok db' ↔ db.Migrated ∧ row.fits = true ∧
      ∃ t, db.client.create row = some t ∧ db' = { db with client := t } := by
  have hcheck : db.checkTable 7 migrations.length = .ok () ↔ db.Migrated :=
    checkTable_ok (by decide)
  unfold TenantDb.createClient
  cases hc : db.checkTable 7 migrations.length with
  | error e =>
    refine ⟨fun h => ?_, fun h => ?_⟩
    · cases h
    · rw [hcheck.mpr h.1] at hc
      cases hc
  | ok _ =>
    change (if row.fits then _ else _) = _ ↔ _
    have hmigrated := hcheck.mp hc
    by_cases hfits : row.fits = true
    · rw [if_pos hfits]
      cases hcreate : db.client.create row with
      | none => simp
      | some t => simp [hmigrated, hfits, eq_comm]
    · rw [if_neg hfits]
      simp [hfits]

theorem createUser_ok {row : User} {db db' : TenantDb} :
    TenantDb.createUser row db = .ok db' ↔ 13 ≤ db.applied ∧ row.fits = true ∧
      (row.clientId.all fun id => db.client.rows.any fun c => c.id == id) = true ∧
      ∃ t, db.user.create row = some t ∧ db' = { db with user := t } := by
  have hcheck : db.checkTable 1 13 = .ok () ↔ 13 ≤ db.applied := checkTable_ok (by decide)
  unfold TenantDb.createUser
  cases hc : db.checkTable 1 13 with
  | error e =>
    refine ⟨fun h => ?_, fun h => ?_⟩
    · cases h
    · rw [hcheck.mpr h.1] at hc
      cases hc
  | ok _ =>
    change (if row.fits then _ else _) = _ ↔ _
    have hall := hcheck.mp hc
    by_cases hfits : row.fits = true
    · rw [if_pos hfits]
      cases hcreate : db.user.create row with
      | none => simp
      | some t =>
        by_cases hclient : (row.clientId.all fun id => db.client.rows.any fun c => c.id == id) = true
        · simp only [hclient, if_true]
          simp [hall, hfits, eq_comm]
        · simp only [hclient]
          simp
    · rw [if_neg hfits]
      simp [hfits]

/-- A write on the tenant connection of a code. -/
def onTenant (env : Config) (clientCode : String) (f : TenantDb → Except Exn TenantDb) :
    HostApp Unit := do
  let tenantClient ← getPrismaClientByCode env clientCode
  Async.await (change env (writeTenantDb env tenantClient f))

theorem createUser_eq (env : Config) (c : String) (user : User) : createUser env c user =
    onTenant env c (TenantDb.createUser user) >>= fun _ => pure user :=
  (Async.bind_assoc _ _ _).symm

theorem createClient_applied {row : Client} {db db' : TenantDb}
    (h : TenantDb.createClient row db = .ok db') : db'.applied = db.applied := by
  obtain ⟨-, -, t, -, rfl⟩ := createClient_ok.mp h
  rfl

theorem createUser_applied {row : User} {db db' : TenantDb}
    (h : TenantDb.createUser row db = .ok db') : db'.applied = db.applied := by
  obtain ⟨-, -, -, t, -, rfl⟩ := createUser_ok.mp h
  rfl

theorem writeTenantDb_ok {env : Config} {client : PrismaClient}
    {f : TenantDb → Except Exn TenantDb} {s s' : Host} (h : writeTenantDb env client f s = .ok s') :
    ∃ url db db', client.url = .text url ∧ s.databases (env.databaseOf url) = some db ∧
      f db = .ok db' ∧ s' = s.setDatabase (env.databaseOf url) db' := by
  unfold writeTenantDb at h
  cases hurl : client.url with
  | payload _ =>
    rw [hurl] at h
    cases h
  | text url =>
    rw [hurl] at h
    dsimp only at h
    cases hdb : s.databases (env.databaseOf url) with
    | none =>
      rw [hdb] at h
      cases h
    | some db =>
      rw [hdb] at h
      dsimp only at h
      cases hf : f db with
      | error e =>
        rw [hf] at h
        cases h
      | ok db' =>
        rw [hf] at h
        cases h
        exact ⟨url, db, db', rfl, hdb, hf, rfl⟩

/-- A write that leaves the migrations as they are. -/
theorem works_writeTenantDb {env : Config} {client : PrismaClient}
    {f : TenantDb → Except Exn TenantDb} (hf : ∀ db db', f db = .ok db' → db'.applied = db.applied)
    {s s' : Host} (h : writeTenantDb env client f s = .ok s') : Works s s' := by
  obtain ⟨url, db, db', -, hdb, hok, rfl⟩ := writeTenantDb_ok h
  refine .setDatabase fun db₀ hdb₀ hall => ?_
  rw [hdb, Option.some.injEq] at hdb₀
  subst hdb₀
  exact Nat.le_trans hall (Nat.le_of_eq (hf db db' hok).symm)

end NestUserService.Tenant
