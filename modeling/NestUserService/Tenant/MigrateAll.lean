import NestUserService.Tenant.CalmProvisioning

/-!
# migrate-all.js

The script generates one schema from `config_name`, and then runs `prisma migrate deploy`
once for each client, with the URL of the client in `DATABASE_URL`. Where the command goes
is decided by the datasource of the schema.
-/

namespace NestUserService.Tenant.MigrateAll

open Lib NestUserService.Core

/-- A variable after `.env` has been loaded. -/
def dotenvVariable (env : Config) (lines : List (String × String)) (key : String) :
    Option String :=
  processVariable env (env.databaseUrl.or (lines.reverse.lookup "DATABASE_URL")) lines key

/-- `process.env.config_name || 'auto'`. -/
def configNameOf (env : Config) (lines : List (String × String)) : String :=
  let name := dotenvVariable env lines "config_name"
  if truthy name then name.getD "" else "auto"

def envKeyOf (env : Config) (name : String) : String :=
  "DATABASE_URL_" ++
    String.ofList ((env.toUpperCase name).toList.map fun c => if c = '-' then '_' else c)

def dbNameOf (env : Config) (name : String) : String :=
  "client_" ++ trimConfigName (env.toLowerCase name)

/-- `fallbackDbUrl`. -/
def fallbackDbUrl (env : Config) (lines : List (String × String)) (name : String) : String :=
  dropLastSegment (baseDbUrl (dotenvVariable env lines "DATABASE_URL")) ++ "/" ++ dbNameOf env name

def schemaOf (env : Config) (lines : List (String × String)) (name : String) : Schema where
  datasource :=
    if truthy (dotenvVariable env lines (envKeyOf env name)) then .env (envKeyOf env name)
    else .url (fallbackDbUrl env lines name)
  output := dbNameOf env name

/-- The migration of one client runs the same script. -/
theorem schemaOf_configName (env : Config) (dbUrl clientCode : String)
    (lines : List (String × String)) :
    schemaOf { env with databaseUrl := some dbUrl } lines (configName clientCode) =
      tenantSchema env dbUrl clientCode lines := rfl

def writeSchema (env : Config) : HostApp Unit := do
  let lines ← Async.await (external env fun s => .ok s.envFile s)
  Async.await (change env fun s =>
    .ok { s with schemaFile := schemaOf env lines (configNameOf env lines) })

/-- The URL of a datasource, in an environment with this `DATABASE_URL`. -/
def datasourceUrl (env : Config) (databaseUrl : Option String) (lines : List (String × String)) :
    Datasource → Option String
  | .env key => processVariable env databaseUrl lines key
  | .url literal => some literal

/-- `prisma migrate deploy`; what is returned is the URL that it acts on. -/
def deployWith (env : Config) (databaseUrl : Option String) : HostApp String := do
  let lines ← Async.await (external env fun s => .ok s.envFile s)
  let schema ← Async.await (external env fun s => .ok s.schemaFile s)
  match datasourceUrl env databaseUrl lines schema.datasource with
  | some url => do
    Async.await (deployMigrations env url)
    return url
  | none => throw (.prisma "P1012")

/-- The command of the other script. -/
theorem migrateDeploy_eq (env : Config) :
    migrateDeploy env = deployWith env env.databaseBaseUrl >>= fun _ => pure () := by
  unfold migrateDeploy deployWith
  simp only [Async.bind_assoc]
  refine congrArg _ (funext fun lines => congrArg _ (funext fun schema => ?_))
  have hurl : datasourceUrl env env.databaseBaseUrl lines schema.datasource =
      resolveDatasource env lines schema.datasource := by
    cases schema.datasource <;> rfl
  rw [hurl]
  cases resolveDatasource env lines schema.datasource with
  | none => rfl
  | some url =>
    dsimp only
    rw [Async.bind_assoc]
    exact (Async.bind_pure _).symm

/-- `for (const client of clients)`: each client, with the URL that its iteration acts on. -/
def deployClients (env : Config) : List Client → HostApp (List (Client × String))
  | [] => return []
  | client :: clients => do
    let url ← deployWith env (some (client.dbUrl.getD "null"))
    let deployed ← deployClients env clients
    return (client, url) :: deployed

/-- The script up to the end of the loop. `migrate dev` acts on the datasource, too; what it
may add to the directory of migrations is left out. -/
def migrateClients (env : Config) : HostApp (List (Client × String)) := do
  writeSchema env
  let _ ← deployWith env env.databaseUrl
  prismaGenerate env
  Async.await (external env fun s => .ok () s)
  let clients ← Async.await (external env fun s => .ok s.client.rows s)
  deployClients env clients

def awaitError : Exn :=
  .error "await is only valid in async functions and the top level bodies of modules"

/-- The file awaits at its top level, and it is no module: whether it is run at all is up to
the runtime. -/
def loadScript (env : Config) (topLevelAwait : Bool) : HostApp (List (Client × String)) :=
  if topLevelAwait then migrateClients env else throw awaitError

/-- The `try` block of `migrate-all.js`, with `schema_type=tenant`. -/
def migrateTenants (env : Config) (topLevelAwait : Bool) : HostApp Unit := do
  let _ ← loadScript env topLevelAwait
  Async.await (external env fun s => .ok () s)

def migrateAll (env : Config) (topLevelAwait : Bool) : HostApp Unit :=
  (migrateTenants env topLevelAwait).handle fun _ => throw (.error "❌ Migration failed")

/-- The URL of the schema that the script generates. -/
def targetUrl (env : Config) (lines : List (String × String)) : String :=
  let name := configNameOf env lines
  let value := dotenvVariable env lines (envKeyOf env name)
  if truthy value then value.getD "" else fallbackDbUrl env lines name

variable {env : Config} {s t : Host}

theorem envKeyOf_ne (env : Config) (name : String) : envKeyOf env name ≠ "DATABASE_URL" :=
  databaseUrlKey_ne _

/-- The datasource does not depend on `DATABASE_URL`. -/
theorem datasourceUrl_schemaOf (env : Config) (databaseUrl : Option String)
    (lines : List (String × String)) :
    datasourceUrl env databaseUrl lines (schemaOf env lines (configNameOf env lines)).datasource =
      some (targetUrl env lines) := by
  have hvariable : processVariable env databaseUrl lines (envKeyOf env (configNameOf env lines)) =
      dotenvVariable env lines (envKeyOf env (configNameOf env lines)) := by
    unfold dotenvVariable processVariable
    rw [if_neg (envKeyOf_ne env _), if_neg (envKeyOf_ne env _)]
  unfold schemaOf targetUrl
  dsimp only
  by_cases ht : truthy (dotenvVariable env lines (envKeyOf env (configNameOf env lines))) = true
  · rw [if_pos ht, if_pos ht]
    unfold datasourceUrl
    dsimp only
    rw [hvariable]
    cases hv : dotenvVariable env lines (envKeyOf env (configNameOf env lines)) with
    | none =>
      rw [hv] at ht
      cases ht
    | some v => rfl
  · rw [if_neg ht, if_neg ht]
    rfl

/-- The next operations do not fail. -/
def Quiet (env : Config) (s : Host) (k : Nat) : Prop :=
  ∀ i < k, env.fault (s.operations + i) = none

theorem quiet_add {k l : Nat} (ht : t.operations = s.operations + k) :
    Quiet env s (k + l) ↔ Quiet env s k ∧ Quiet env t l := by
  unfold Quiet
  rw [ht]
  constructor
  · refine fun h => ⟨fun i hi => h i (by omega), fun i hi => ?_⟩
    rw [Nat.add_assoc]
    exact h (k + i) (by omega)
  · rintro ⟨h, h'⟩ i hi
    by_cases hk : i < k
    · exact h i hk
    · have hrest := h' (i - k) (by omega)
      rwa [show s.operations + k + (i - k) = s.operations + i by omega] at hrest

theorem quiet_one : Quiet env s 1 ↔ env.fault s.operations = none := by
  constructor
  · exact fun h => h 0 (by omega)
  · intro h i hi
    rw [show i = 0 by omega]
    exact h

theorem attempt_eq_ok {α : Type} {leave : Fault → Host → Host} {x : HostSync α} {a : α} :
    attempt env leave x s = .ok a t ↔ Quiet env s 1 ∧ x s.count = .ok a t := by
  rw [quiet_one]
  unfold attempt
  cases env.fault s.operations with
  | some fault => exact iff_of_false (fun h => by cases h) fun h => by cases h.1
  | none => exact ⟨fun h => ⟨rfl, h⟩, fun h => h.2⟩

theorem external_eq_ok {α : Type} {x : HostSync α} {a : α} :
    external env x s = .ok a t ↔ Quiet env s 1 ∧ x s.count = .ok a t := attempt_eq_ok

theorem change_eq_ok {f : Host → Except Exn Host} {a : Unit} :
    change env f s = .ok a t ↔ Quiet env s 1 ∧ f s.count = .ok t := by
  refine attempt_eq_ok.trans (and_congr_right fun _ => ?_)
  cases f s.count with
  | ok s' => exact ⟨fun h => by cases h; rfl, fun h => by cases h; rfl⟩
  | error e => exact iff_of_false (fun h => by cases h) fun h => by cases h

/-- An external operation, and then the rest. -/
theorem run_external_eq_ok {α β : Type} {x : HostSync α} {f : α → HostApp β} {b : β} :
    Async.run (Async.await (external env x) >>= f) s = .ok b t ↔
      Quiet env s 1 ∧ ∃ a s', x s.count = .ok a s' ∧ Async.run (f a) s' = .ok b t := by
  rw [Async.run_bind_eq_ok]
  constructor
  · rintro ⟨a, s', hx, hf⟩
    rw [Async.run_await] at hx
    obtain ⟨hquiet, hx⟩ := external_eq_ok.mp hx
    exact ⟨hquiet, a, s', hx, hf⟩
  · rintro ⟨hquiet, a, s', hx, hf⟩
    exact ⟨a, s', (Async.run_await _ _).trans (external_eq_ok.mpr ⟨hquiet, hx⟩), hf⟩

theorem writeSchema_eq_ok {a : Unit} : Async.run (writeSchema env) s = .ok a t ↔ Quiet env s 2 ∧
    t = { s with
      schemaFile := schemaOf env s.envFile (configNameOf env s.envFile)
      operations := s.operations + 2 } := by
  refine run_external_eq_ok.trans ?_
  rw [@quiet_add env s s.count 1 1 rfl, and_assoc]
  refine and_congr_right fun _ => ⟨?_, ?_⟩
  · rintro ⟨lines, s', hread, hwrite⟩
    cases hread
    obtain ⟨hquiet, hwrite⟩ := change_eq_ok.mp ((Async.run_await _ _).symm.trans hwrite)
    cases hwrite
    exact ⟨hquiet, rfl⟩
  · rintro ⟨hquiet, rfl⟩
    exact ⟨_, _, rfl, (Async.run_await _ _).trans (change_eq_ok.mpr ⟨hquiet, rfl⟩)⟩

/-- The host after a deployment. -/
def deployed (env : Config) (url : String) (s : Host) : Host :=
  { s with
    databases := Function.update s.databases (env.databaseOf url)
      (some { (s.databases (env.databaseOf url)).getD TenantDb.created with
        applied := migrations.length })
    operations := s.operations + 3 }

/-- No migration has failed in the database. -/
def Sound (env : Config) (url : String) (s : Host) : Prop :=
  ((s.databases (env.databaseOf url)).getD TenantDb.created).failed = false

theorem sound_deployed (url : String) (h : Sound env url s) : Sound env url (deployed env url s) := by
  unfold Sound deployed
  dsimp only
  rw [Function.update_self]
  exact h

theorem deployMigrations_eq_ok {url : String} {a : Unit} :
    deployMigrations env url s = .ok a t ↔ Quiet env s 1 ∧ Sound env url s ∧
      t = s.count.setDatabase (env.databaseOf url)
        { (s.databases (env.databaseOf url)).getD TenantDb.created with
          applied := migrations.length } := by
  refine attempt_eq_ok.trans (and_congr_right fun _ => ?_)
  have hsame : s.count.databases = s.databases := rfl
  dsimp only
  rw [hsame]
  unfold Sound
  by_cases hfailed : ((s.databases (env.databaseOf url)).getD TenantDb.created).failed = true
  · rw [if_pos hfailed]
    refine iff_of_false (fun h => by cases h) fun h => ?_
    rw [h.1] at hfailed
    cases hfailed
  · rw [if_neg hfailed]
    constructor
    · intro h
      cases h
      exact ⟨Bool.eq_false_iff.mpr hfailed, rfl⟩
    · rintro ⟨-, rfl⟩
      rfl

theorem deployWith_eq_ok {databaseUrl : Option String} {url u : String}
    (hurl : datasourceUrl env databaseUrl s.envFile s.schemaFile.datasource = some url) :
    Async.run (deployWith env databaseUrl) s = .ok u t ↔
      Quiet env s 3 ∧ Sound env url s ∧ u = url ∧ t = deployed env url s := by
  have hresolved : datasourceUrl env databaseUrl s.count.envFile s.count.count.schemaFile.datasource =
      some url := hurl
  refine run_external_eq_ok.trans ?_
  rw [@quiet_add env s s.count 1 2 rfl, @quiet_add env s.count s.count.count 1 1 rfl, and_assoc,
    and_assoc]
  refine and_congr_right fun _ => ⟨?_, ?_⟩
  · rintro ⟨lines, s', hread, hrest⟩
    cases hread
    obtain ⟨hquiet, schema, s'', hread', hrest⟩ := run_external_eq_ok.mp hrest
    cases hread'
    rw [hresolved] at hrest
    obtain ⟨a, t', hdeploy, hret⟩ := Async.run_bind_ok hrest
    rw [Async.run_await, deployMigrations_eq_ok] at hdeploy
    obtain ⟨hquiet', hsound, rfl⟩ := hdeploy
    cases hret
    exact ⟨hquiet, hquiet', hsound, rfl, rfl⟩
  · rintro ⟨hquiet, hquiet', hsound, rfl, rfl⟩
    refine ⟨_, _, rfl, run_external_eq_ok.mpr ⟨hquiet, _, _, rfl, ?_⟩⟩
    rw [hresolved]
    refine Async.run_bind_eq_ok.mpr ⟨(), _, (Async.run_await _ _).trans ?_, rfl⟩
    exact deployMigrations_eq_ok.mpr ⟨hquiet', hsound, rfl⟩

theorem prismaGenerate_eq_ok {a : Unit} : Async.run (prismaGenerate env) s = .ok a t ↔
    Quiet env s 2 ∧ t = { s with
      generated := s.generated ++ [env.folder s.schemaFile.output]
      operations := s.operations + 2 } := by
  refine run_external_eq_ok.trans ?_
  rw [@quiet_add env s s.count 1 1 rfl, and_assoc]
  refine and_congr_right fun _ => ⟨?_, ?_⟩
  · rintro ⟨schema, s', hread, hwrite⟩
    cases hread
    obtain ⟨hquiet, hwrite⟩ := change_eq_ok.mp ((Async.run_await _ _).symm.trans hwrite)
    cases hwrite
    exact ⟨hquiet, rfl⟩
  · rintro ⟨hquiet, rfl⟩
    exact ⟨_, _, rfl, (Async.run_await _ _).trans (change_eq_ok.mpr ⟨hquiet, rfl⟩)⟩

/-- The schema leads to the URL, whatever `DATABASE_URL` is. -/
def LeadsTo (env : Config) (url : String) (s : Host) : Prop :=
  ∀ databaseUrl, datasourceUrl env databaseUrl s.envFile s.schemaFile.datasource = some url

/-- Every iteration of the loop acts on the one URL of the schema. -/
theorem deployClients_eq_ok {url : String} (hleads : LeadsTo env url s) {clients : List Client}
    {log : List (Client × String)} : Async.run (deployClients env clients) s = .ok log t ↔
      Quiet env s (3 * clients.length) ∧ (clients = [] ∨ Sound env url s) ∧
        log = clients.map (fun client => (client, url)) ∧
        t = (deployed env url)^[clients.length] s := by
  induction clients generalizing s t log with
  | nil =>
    constructor
    · intro h
      cases h
      exact ⟨fun i hi => absurd hi (by simp), Or.inl rfl, rfl, rfl⟩
    · rintro ⟨-, -, rfl, rfl⟩
      rfl
  | cons client clients ih =>
    have hleads' : LeadsTo env url (deployed env url s) := hleads
    have hlength : 3 * (client :: clients).length = 3 + 3 * clients.length := by
      rw [List.length_cons]
      omega
    have hquiet := @quiet_add env s (deployed env url s) 3 (3 * clients.length) rfl
    rw [hlength, hquiet]
    refine Async.run_bind_eq_ok.trans ⟨?_, ?_⟩
    · rintro ⟨u, s', hdeploy, hrest⟩
      obtain ⟨hfirst, hsound, rfl, rfl⟩ := (deployWith_eq_ok (hleads _)).mp hdeploy
      obtain ⟨log', t', hloop, hret⟩ := Async.run_bind_ok hrest
      obtain ⟨hnext, -, rfl, rfl⟩ := (ih hleads').mp hloop
      cases hret
      exact ⟨⟨hfirst, hnext⟩, Or.inr hsound, rfl, rfl⟩
    · rintro ⟨⟨hfirst, hnext⟩, hsound, rfl, rfl⟩
      have hsound := hsound.resolve_left (List.cons_ne_nil _ _)
      refine ⟨url, _, (deployWith_eq_ok (hleads _)).mpr ⟨hfirst, hsound, rfl, rfl⟩, ?_⟩
      exact Async.run_bind_eq_ok.mpr ⟨_, _, (ih hleads').mpr
        ⟨hnext, Or.inr (sound_deployed url hsound), rfl, rfl⟩, rfl⟩

/-- The host before the loop. -/
def prepared (env : Config) (s : Host) : Host :=
  let s₁ : Host := { s with
    schemaFile := schemaOf env s.envFile (configNameOf env s.envFile)
    operations := s.operations + 2 }
  let s₂ := deployed env (targetUrl env s.envFile) s₁
  { s₂ with
    generated := s₂.generated ++ [env.folder s₂.schemaFile.output]
    operations := s.operations + 9 }

theorem migrateClients_eq_ok {log : List (Client × String)} :
    Async.run (migrateClients env) s = .ok log t ↔
      Quiet env s (9 + 3 * s.client.rows.length) ∧ Sound env (targetUrl env s.envFile) s ∧
        log = s.client.rows.map (fun client => (client, targetUrl env s.envFile)) ∧
        t = (deployed env (targetUrl env s.envFile))^[s.client.rows.length] (prepared env s) := by
  let url := targetUrl env s.envFile
  let s₁ : Host := { s with
    schemaFile := schemaOf env s.envFile (configNameOf env s.envFile)
    operations := s.operations + 2 }
  let s₂ := deployed env url s₁
  let s₃ : Host := { s₂ with
    generated := s₂.generated ++ [env.folder s₂.schemaFile.output]
    operations := s₂.operations + 2 }
  have hleads (databaseUrl : Option String) :
      datasourceUrl env databaseUrl s₁.envFile s₁.schemaFile.datasource = some url :=
    datasourceUrl_schemaOf env databaseUrl s.envFile
  have hleads' : LeadsTo env url (prepared env s) := hleads
  have hquiet (k : Nat) : Quiet env s (9 + k) ↔ Quiet env s 2 ∧ Quiet env s₁ 3 ∧ Quiet env s₂ 2 ∧
      Quiet env s₃ 1 ∧ Quiet env s₃.count 1 ∧ Quiet env (prepared env s) k := by
    rw [show 9 + k = 2 + (3 + (2 + (1 + (1 + k)))) by omega, @quiet_add env s s₁ 2 _ rfl,
      @quiet_add env s₁ s₂ 3 _ rfl, @quiet_add env s₂ s₃ 2 _ rfl, @quiet_add env s₃ s₃.count 1 _ rfl,
      @quiet_add env s₃.count (prepared env s) 1 _ rfl]
  rw [hquiet]
  refine Async.run_bind_eq_ok.trans ⟨?_, ?_⟩
  · rintro ⟨_, s', hwrite, hrest⟩
    obtain ⟨h₁, rfl⟩ := writeSchema_eq_ok.mp hwrite
    obtain ⟨u, s', hdev, hrest⟩ := Async.run_bind_ok hrest
    obtain ⟨h₂, hsound, rfl, rfl⟩ := (deployWith_eq_ok (hleads _)).mp hdev
    obtain ⟨_, s', hgenerate, hrest⟩ := Async.run_bind_ok hrest
    obtain ⟨h₃, rfl⟩ := prismaGenerate_eq_ok.mp hgenerate
    obtain ⟨h₄, _, s', hconnect, hrest⟩ := run_external_eq_ok.mp hrest
    cases hconnect
    obtain ⟨h₅, clients, s', hfind, hloop⟩ := run_external_eq_ok.mp hrest
    cases hfind
    obtain ⟨h₆, -, hlog, ht⟩ := (deployClients_eq_ok hleads').mp hloop
    exact ⟨⟨h₁, h₂, h₃, h₄, h₅, h₆⟩, hsound, hlog, ht⟩
  · rintro ⟨⟨h₁, h₂, h₃, h₄, h₅, h₆⟩, hsound, hlog, ht⟩
    have hloop : Async.run (deployClients env s.client.rows) (prepared env s) = .ok log t :=
      (deployClients_eq_ok hleads').mpr ⟨h₆, Or.inr (sound_deployed url hsound), hlog, ht⟩
    refine ⟨(), s₁, writeSchema_eq_ok.mpr ⟨h₁, rfl⟩, Async.run_bind_eq_ok.mpr ⟨url, s₂, ?_, ?_⟩⟩
    · exact (deployWith_eq_ok (hleads _)).mpr ⟨h₂, hsound, rfl, rfl⟩
    · refine Async.run_bind_eq_ok.mpr ⟨(), s₃, prismaGenerate_eq_ok.mpr ⟨h₃, rfl⟩, ?_⟩
      refine run_external_eq_ok.mpr ⟨h₄, (), s₃.count, rfl, ?_⟩
      exact run_external_eq_ok.mpr ⟨h₅, s.client.rows, s₃.count.count, rfl, hloop⟩

/-- All migrations have been applied to the database of the URL. -/
def Landed (env : Config) (url : String) (s : Host) : Prop :=
  ∃ db, s.databases (env.databaseOf url) = some db ∧ db.Migrated

theorem landed_deployed (env : Config) (url : String) (s : Host) :
    Landed env url (deployed env url s) :=
  ⟨_, Function.update_self .., Nat.le_refl _⟩

theorem landed_iterate (env : Config) (url : String) {k : Nat} (hk : k ≠ 0) (s : Host) :
    Landed env url ((deployed env url)^[k] s) := by
  obtain ⟨k, rfl⟩ := Nat.exists_eq_succ_of_ne_zero hk
  rw [Function.iterate_succ_apply']
  exact landed_deployed env url _

/-- The loop is run to its end, the iteration of each client acts on the URL of the client, and
all migrations have been applied there after the loop. -/
def ReachesAll (env : Config) (topLevelAwait : Bool) (s : Host) : Prop :=
  ∀ client ∈ s.client.rows, ∃ log t url,
    Async.run (loadScript env topLevelAwait) s = .ok log t ∧ client.dbUrl = some url ∧
      (client, url) ∈ log ∧ Landed env url t

/-- The script is run, none of its commands fails, and all clients have the URL of the schema. -/
structure OneTarget (env : Config) (topLevelAwait : Bool) (s : Host) : Prop where
  accepted : topLevelAwait = true
  commands : Quiet env s (9 + 3 * s.client.rows.length)
  sound : Sound env (targetUrl env s.envFile) s
  urls : ∀ client ∈ s.client.rows, client.dbUrl = some (targetUrl env s.envFile)

/-- For every list of clients and every environment, each client is reached exactly when there
is none, or the one URL of the schema is the URL of all of them. -/
theorem migrate_all_iff (env : Config) (topLevelAwait : Bool) (s : Host) :
    ReachesAll env topLevelAwait s ↔
      s.client.rows = [] ∨ OneTarget env topLevelAwait s := by
  constructor
  · intro h
    by_cases hrows : s.client.rows = []
    · exact Or.inl hrows
    obtain ⟨first, hfirst⟩ := List.exists_mem_of_ne_nil _ hrows
    obtain ⟨log, t, -, hrun, -⟩ := h first hfirst
    cases topLevelAwait with
    | false => cases hrun
    | true =>
      obtain ⟨hquiet, hsound, hlog, -⟩ := migrateClients_eq_ok.mp hrun
      refine Or.inr ⟨rfl, hquiet, hsound, fun client hclient => ?_⟩
      obtain ⟨log', t', url, hrun', hurl, hmem, -⟩ := h client hclient
      rw [hrun] at hrun'
      cases hrun'
      rw [hlog] at hmem
      obtain ⟨other, -, he⟩ := List.mem_map.mp hmem
      rw [Prod.mk.injEq] at he
      rw [hurl, he.2]
  · rintro (hrows | h) client hclient
    · rw [hrows] at hclient
      cases hclient
    · have hlength : s.client.rows.length ≠ 0 := by
        intro hzero
        rw [List.length_eq_zero_iff.mp hzero] at hclient
        cases hclient
      have haccepted := h.accepted
      subst haccepted
      refine ⟨_, _, targetUrl env s.envFile,
        migrateClients_eq_ok.mpr ⟨h.commands, h.sound, rfl, rfl⟩, h.urls client hclient, ?_, ?_⟩
      · exact List.mem_map.mpr ⟨client, hclient, rfl⟩
      · exact landed_iterate env _ hlength _

/-- Without `config_name`, two provisioned clients. -/
theorem tenants_not_reached : ¬ ReachesAll Config.sample true Host.sample := by
  intro h
  have hmem : Client.provisioned "a" ∈ Host.sample.client.rows := by decide
  obtain ⟨log, t, url, hrun, hurl, hlogged, -⟩ := h _ hmem
  cases hurl
  obtain ⟨-, -, hlog, -⟩ := migrateClients_eq_ok.mp hrun
  rw [hlog] at hlogged
  obtain ⟨client, -, he⟩ := List.mem_map.mp hlogged
  have htarget : targetUrl Config.sample Host.sample.envFile = "mysql://db:3306/client_auto" := by
    decide +kernel
  rw [Prod.mk.injEq, htarget] at he
  exact absurd he.2 (by decide +kernel)

end NestUserService.Tenant.MigrateAll
