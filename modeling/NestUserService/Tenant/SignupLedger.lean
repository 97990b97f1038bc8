import NestUserService.Lib.Conduct
import NestUserService.Lib.Ledger
import NestUserService.Tenant.ConcurrentProvisioning
import NestUserService.Tenant.Signup

/-!
# What signing up leaves behind

Sign-ups, provisioning runs and requests for a tenant client share one host. They interleave
in any way and may fail anywhere. No payment, no database, no row, no migration, no line of
`.env` and no published event is ever lost, and no row of a user is changed.
-/

namespace NestUserService.Tenant.SignupLedger

open Lib NestUserService.Core

/-- The columns of a client that no handler sets. -/
structure SameClient (r r' : Client) : Prop where
  id : r'.id = r.id
  clientCode : r'.clientCode = r.clientCode
  isPaid : r'.isPaid = r.isPaid
  isDbCreated : r'.isDbCreated = r.isDbCreated

structure Filled (db db' : TenantDb) : Prop where
  migrated : db.Migrated → db'.Migrated
  client : Table.Extends Eq db.client db'.client
  user : Table.Extends Eq db.user db'.user

structure Accrued (s s' : Host) : Prop where
  client : Table.Related SameClient s.client s'.client
  databases : ∀ name db, s.databases name = some db →
    ∃ db', s'.databases name = some db' ∧ Filled db db'
  envFile : s.envFile <+: s'.envFile
  generated : ∀ f ∈ s.generated, f ∈ s'.generated
  published : s.published <+: s'.published

theorem sameClient_refl (r : Client) : SameClient r r := ⟨rfl, rfl, rfl, rfl⟩

theorem sameClient_trans (r r' r'' : Client) (h : SameClient r r') (h' : SameClient r' r'') :
    SameClient r r'' :=
  ⟨h'.id.trans h.id, h'.clientCode.trans h.clientCode, h'.isPaid.trans h.isPaid,
    h'.isDbCreated.trans h.isDbCreated⟩

theorem Filled.refl (db : TenantDb) : Filled db db :=
  ⟨id, .refl (fun _ => rfl) _, .refl (fun _ => rfl) _⟩

theorem Filled.trans {db db' db'' : TenantDb} (h : Filled db db') (h' : Filled db' db'') :
    Filled db db'' :=
  ⟨fun hm => h'.migrated (h.migrated hm), h.client.trans (fun _ _ _ => Eq.trans) h'.client,
    h.user.trans (fun _ _ _ => Eq.trans) h'.user⟩

namespace Accrued

theorem refl (s : Host) : Accrued s s where
  client := .refl sameClient_refl _
  databases _ db h := ⟨db, h, .refl db⟩
  envFile := List.prefix_rfl
  generated _ := id
  published := List.prefix_rfl

theorem trans {s t u : Host} (h : Accrued s t) (h' : Accrued t u) : Accrued s u where
  client := h.client.trans sameClient_trans h'.client
  databases name db hdb := by
    obtain ⟨db', hdb', hfilled⟩ := h.databases name db hdb
    obtain ⟨db'', hdb'', hfilled'⟩ := h'.databases name db' hdb'
    exact ⟨db'', hdb'', hfilled.trans hfilled'⟩
  envFile := h.envFile.trans h'.envFile
  generated f hf := h'.generated f (h.generated f hf)
  published := h.published.trans h'.published

/-- Nothing of it is touched. -/
theorem of_same {s s' : Host} (hclient : s'.client = s.client) (hdb : s'.databases = s.databases)
    (henv : s'.envFile = s.envFile) (hgenerated : s'.generated = s.generated)
    (hpublished : s'.published = s.published) : Accrued s s' where
  client := by
    rw [hclient]
    exact .refl sameClient_refl _
  databases _ db h := ⟨db, by rw [hdb, h], .refl db⟩
  envFile := by rw [henv]
  generated f hf := by rwa [hgenerated]
  published := by rw [hpublished]

theorem tolerant : Tolerant Accrued :=
  ⟨refl, fun _ _ _ => trans, fun _ => of_same rfl rfl rfl rfl rfl⟩

/-- A database with new rows, where there was one. -/
theorem setDatabase {s : Host} {name : String} {db db' : TenantDb}
    (h : s.databases name = some db) (hfilled : Filled db db') :
    Accrued s (s.setDatabase name db') := by
  refine { refl s with databases := fun name' db₀ h₀ => ?_ }
  by_cases hn : name' = name
  · subst hn
    obtain rfl : db = db₀ := Option.some.inj (h.symm.trans h₀)
    exact ⟨db', Function.update_self .., hfilled⟩
  · exact ⟨db₀, (Function.update_of_ne hn ..).trans h₀, .refl db₀⟩

/-- The migrations leave the rows as they are. -/
theorem builds {s s' : Host} (h : Builds s s') : Accrued s s' where
  client := by
    rw [h.client]
    exact .refl sameClient_refl _
  databases name db hdb := by
    obtain ⟨db', hdb', hmigrated⟩ := h.databases name db hdb
    have htables := h.tables name
    rw [Host.tables_of_some hdb, Host.tables_of_some hdb', Prod.mk.injEq] at htables
    refine ⟨db', hdb', hmigrated, ?_, ?_⟩
    · rw [htables.1]
      exact .refl (fun _ => rfl) _
    · rw [htables.2]
      exact .refl (fun _ => rfl) _
  envFile := by rw [h.envFile]
  generated := h.generated
  published := by rw [h.published]

end Accrued

section Writes

variable {env : Config} {s s' : Host}

theorem accrued_createClient {client : PrismaClient} {row : Client}
    (h : writeTenantDb env client (TenantDb.createClient row) s = .ok s') : Accrued s s' := by
  obtain ⟨url, db, db', -, hdb, hcreate, rfl⟩ := writeTenantDb_ok h
  obtain ⟨hmigrated, -, t, ht, rfl⟩ := createClient_ok.mp hcreate
  exact .setDatabase hdb ⟨id, Table.extends_create (fun _ => rfl) ht, .refl (fun _ => rfl) _⟩

theorem accrued_createUser {client : PrismaClient} {row : User}
    (h : writeTenantDb env client (TenantDb.createUser row) s = .ok s') : Accrued s s' := by
  obtain ⟨url, db, db', -, hdb, hcreate, rfl⟩ := writeTenantDb_ok h
  obtain ⟨-, -, -, t, ht, rfl⟩ := createUser_ok.mp hcreate
  exact .setDatabase hdb ⟨id, .refl (fun _ => rfl) _, Table.extends_create (fun _ => rfl) ht⟩

theorem accrued_updateClientRow {clientId : String} {dto : UpdateClientDbDto}
    (h : updateClientRow clientId dto s = .ok s') : Accrued s s' := by
  unfold updateClientRow at h
  split at h
  · cases ht : s.client.update (fun row => row.id == clientId) (withDatabase dto) with
    | none =>
      rw [ht] at h
      cases h
    | some t =>
      rw [ht] at h
      cases h
      refine { Accrued.refl s with client := ?_ }
      rw [Table.update_some ht]
      refine Table.related_updateMany (fun r => ?_) _
      split
      · exact ⟨rfl, rfl, rfl, rfl⟩
      · exact sameClient_refl r
  · cases h

theorem accrued_appendEnvKey (clientCode : String) (s : Host) :
    Accrued s (appendEnvKey env clientCode s) :=
  { Accrued.refl s with envFile := List.prefix_append _ _ }

theorem accrued_publish (clientCode : String) (user : User) (s : Host) :
    Accrued s (finalState (publishUserCreated env clientCode user s)) := by
  unfold publishUserCreated
  cases env.encryptClientCode clientCode with
  | error e => exact .refl s
  | ok encrypted => exact { Accrued.refl s with published := List.prefix_append _ _ }

theorem accrued_move {code : String} {pc pc' : Pc} (h : Move env code pc s pc' s') :
    Accrued s s' := by
  have hpublished : s'.published = s.published := by
    cases h with
    | stored =>
      obtain ⟨m, l, d, hframe⟩ := makeRoom_frame env s
      unfold cacheClient
      rw [hframe]
      rfl
    | _ => rfl
  have hrest := Untouched.move h
  exact .of_same hrest.client hrest.databases hrest.envFile hrest.generated hpublished

end Writes

/-- Programs that only add. -/
abbrev Accrues {α : Type} (x : HostApp α) : Prop := Async.Guarantees Accrued (fun _ => True) x

section Calls

variable (env : Config)

theorem accrues_getPrismaClientByCode (clientCode : String) :
    Accrues (getPrismaClientByCode env clientCode) :=
  Threads.Automaton.guarantees (clientCalls env fun _ : Unit => clientCode) (i := ())
    (fun _ _ _ _ h => accrued_move h) .start

theorem accrues_calm {α : Type} {x : HostSync α} (h : ∀ s, Accrued s (finalState (x s))) :
    Accrues (Async.await x) :=
  Tolerant.awaited h

theorem accrues_external {α : Type} {x : HostSync α} (h : ∀ s, Accrued s (finalState (x s))) :
    Accrues (Async.await (external env x)) :=
  Tolerant.awaited fun s => Accrued.tolerant.external (h s.count)

theorem accrues_change {f : Host → Except Exn Host} (h : ∀ s s', f s = .ok s' → Accrued s s') :
    Accrues (Async.await (change env f)) :=
  Tolerant.awaited fun s => Accrued.tolerant.change (h s.count)

theorem accrues_of_builds {x : HostApp Unit} (h : Async.Guarantees Builds (fun _ => True) x) :
    Accrues x :=
  h.mono (fun _ _ => Accrued.builds) fun _ => id

/-- The user that a handler draws up for its command. -/
structure NewUser (signup : Signup) (user : User) : Prop where
  email : user.email = signup.email
  token : ∃ n, user.signupVerifyToken = env.uuidv1 n
  verified : user.verified = false
  twoFactor : user.isTwoFactorEnabled = false

theorem accrues_ulid : Accrues (Async.await (ulid env)) :=
  accrues_calm fun _ => .of_same rfl rfl rfl rfl rfl

theorem accrues_hashPassword (password : String) :
    Accrues (Async.await (hashPassword env password)) :=
  accrues_external env fun _ => .of_same rfl rfl rfl rfl rfl

theorem accrues_signupVerifyTokenCreate :
    Async.Guarantees Accrued (fun token => ∃ n, token = env.uuidv1 n)
      (Async.await (signupVerifyTokenCreate env)) := by
  refine Async.Guarantees.await (fun _ => .of_same rfl rfl rfl rfl rfl) fun s token s' h => ?_
  cases h
  exact ⟨s.draws, rfl⟩

theorem accrues_findClientByCode (clientCode : String) :
    Accrues (Async.await (findClientByCode env clientCode)) :=
  accrues_external env fun s => .refl s

theorem accrues_draftUser (command : CreateClientUserCommand) :
    Async.Guarantees Accrued (fun draft => NewUser env (.clientUser command) draft.user)
      (draftUser env command) := by
  refine (accrues_findClientByCode env _).bind fun client _ => ?_
  cases client with
  | none => exact Async.Guarantees.throw _
  | some client =>
    refine Async.Guarantees.ite (fun _ => ?_) fun _ => Async.Guarantees.throw _
    exact (accrues_ulid env).bind fun _ _ => (accrues_hashPassword env _).bind fun _ _ =>
      (accrues_signupVerifyTokenCreate env).bind fun _ htoken =>
        Async.Guarantees.pure ⟨rfl, htoken, rfl, rfl⟩

theorem accrues_draftAdmin (command : CreateClientAdminUserCommand) :
    Async.Guarantees Accrued (fun draft => NewUser env (.clientAdmin command) draft.user)
      (draftAdmin env command) := by
  refine (accrues_findClientByCode env _).bind fun client _ => ?_
  cases client with
  | none => exact Async.Guarantees.throw _
  | some row =>
    have hmigrate : Accrues
        (runPrismaMigrate env (tenantDbUrl env command.clientCode) command.clientCode) :=
      accrues_of_builds (builds_runPrismaMigrate _ _)
    have hupdate : Accrues (Async.await (updateClient env row.id (updateClientDbDto env command))) :=
      accrues_change env fun _ _ => accrued_updateClientRow
    have hof : Async.Guarantees Accrued (fun draft => NewUser env (.clientAdmin command) draft.user)
        (draftAdminOf env command row) := by
      refine (accrues_of_builds (builds_createDatabase _)).bind fun _ _ => ?_
      refine (guarantees_registerEnvKey Accrued.tolerant (accrued_appendEnvKey _)).bind fun _ _ => ?_
      refine (hmigrate.handle fun _ => Async.Guarantees.throw _).bind fun _ _ => ?_
      refine hmigrate.bind fun _ _ => ?_
      exact (accrues_ulid env).bind fun _ _ => (accrues_hashPassword env _).bind fun _ _ =>
        (accrues_signupVerifyTokenCreate env).bind fun _ htoken => hupdate.bind fun _ _ =>
          Async.Guarantees.pure ⟨rfl, htoken, rfl, rfl⟩
    exact Async.Guarantees.ite (fun _ => Async.Guarantees.throw _) fun _ =>
      Async.Guarantees.ite (fun _ => hof) fun _ => Async.Guarantees.throw _

theorem accrues_draft (signup : Signup) :
    Async.Guarantees Accrued (fun draft => NewUser env signup draft.user) (signup.draft env) := by
  cases signup with
  | clientUser command => exact accrues_draftUser env command
  | clientAdmin command => exact accrues_draftAdmin env command

end Calls

inductive HostCall where
  | signup (signup : Signup)
  | getPrismaClientByCode (clientCode : String)

def HostCall.clientCode : HostCall → String
  | signup s => s.clientCode
  | getPrismaClientByCode c => c

def HostCall.program (env : Config) : HostCall → HostApp Unit
  | signup s => s.execute env
  | getPrismaClientByCode c => do
    let _ ← Tenant.getPrismaClientByCode env c

theorem accrued_meanwhile {env : Config} {s s' : Host} (h : Meanwhile env s s') :
    Accrued s s' := by
  cases h with
  | clock now => exact .of_same rfl rfl rfl rfl rfl
  | cleanup =>
    obtain ⟨m, l, d, hframe⟩ := cleanupIdleClients_frame env s
    rw [hframe]
    exact .of_same rfl rfl rfl rfl rfl

section Runs

variable {ι : Type} [DecidableEq ι] {env : Config}
  {guard : Threads Host Exn Unit ι → ι → Prop} {p p' : Threads Host Exn Unit ι}

def HostCall.pool (env : Config) (calls : ι → HostCall) (s : Host) : Threads Host Exn Unit ι :=
  ⟨s, fun i => (calls i).program env⟩

/-- All calls of the pool only add. -/
def AllAccrue (p : Threads Host Exn Unit ι) : Prop :=
  p.Conduct (fun _ => True) (fun _ => Accrued) (fun _ _ => True) fun _ _ => True

theorem AllAccrue.runs (h : AllAccrue p) (hrun : Threads.Runs (Meanwhile env) guard p p') :
    Accrued p.state p'.state ∧ AllAccrue p' := by
  have hrelated := Threads.Conduct.runs h hrun trivial (fun _ _ _ _ => trivial)
    (fun _ _ _ _ _ => trivial) Accrued.refl (fun _ _ _ => Accrued.trans)
    (fun _ _ => accrued_meanwhile) fun _ _ _ _ => id
  exact ⟨hrelated.1, hrelated.2.2⟩

end Runs

def firstSignup : Signup := .clientAdmin (.sample "a")

def firstCalls : Bool → HostCall
  | false => .signup firstSignup
  | true => .getPrismaClientByCode "b"

/-- The database exists, and nothing else yet. -/
def firstSteps : Threads Host Exn Unit Bool :=
  Threads.schedule (fun _ _ => True) (List.replicate 6 false ++ [true, true])
    (HostCall.pool .sample firstCalls Host.unprovisioned)

def lastSteps : Threads Host Exn Unit Bool :=
  Threads.schedule (fun _ _ => True) (List.replicate 40 false) firstSteps

theorem firstSteps_run : Threads.Runs (Meanwhile .sample) (fun _ _ => True)
    (HostCall.pool .sample firstCalls Host.unprovisioned) firstSteps :=
  Threads.schedule_runs _ _ _ _

theorem lastSteps_run :
    Threads.Runs (Meanwhile .sample) (fun _ _ => True) firstSteps lastSteps :=
  Threads.schedule_runs _ _ _ _

end NestUserService.Tenant.SignupLedger
