import NestUserService.Tenant.ProvisioningSteps

/-!
# What a run of the handler leaves behind

Wherever a run fails, it has added to the files, to the databases and to the row of its
client, and has taken nothing away. The line in `.env` is written once.
-/

namespace NestUserService.Tenant

open Lib NestUserService.Core

/-- What a row of the root database says about the provisioning of its client. -/
def Client.standing (row : Client) : String × String × Bool × Bool :=
  (row.id, row.clientCode, row.isPaid, row.isDbCreated)

/-- `.env` after the registration of the code. -/
def registeredEnv (env : Config) (clientCode : String) (lines : List (String × String)) :
    List (String × String) :=
  if envIncludes lines (envKey env clientCode) then lines
  else lines ++ [(envKey env clientCode, scriptDbUrl env env.databaseUrl clientCode)]

theorem envIncludes_append (lines : List (String × String)) (key value : String) :
    envIncludes (lines ++ [(key, value)]) key = true := by
  unfold envIncludes
  rw [List.any_append, Bool.or_eq_true]
  right
  simp only [List.any_cons, List.any_nil, Bool.or_false, decide_eq_true_eq]
  have hline : (key ++ "=" ++ value).toList = (key ++ "=").toList ++ value.toList :=
    String.toList_append
  rw [hline]
  exact (List.prefix_append _ _).isInfix

/-- A registered code is not registered again. -/
theorem registeredEnv_idem (env : Config) (clientCode : String) (lines : List (String × String)) :
    registeredEnv env clientCode (registeredEnv env clientCode lines) =
      registeredEnv env clientCode lines := by
  have hincluded : envIncludes (registeredEnv env clientCode lines) (envKey env clientCode) := by
    unfold registeredEnv
    split
    · assumption
    · exact envIncludes_append lines _ _
  exact if_pos hincluded

/-- What a run for the code may leave. -/
structure Leaves (env : Config) (clientCode : String) (s s' : Host) : Prop where
  rows : s'.client.rows.map Client.standing = s.client.rows.map Client.standing
  envFile : registeredEnv env clientCode s'.envFile = registeredEnv env clientCode s.envFile
  distGenerated : s'.distGenerated = s.distGenerated
  generated : ∀ f ∈ s.generated, f ∈ s'.generated
  databases : ∀ name, (s.databases name).isSome → (s'.databases name).isSome

namespace Leaves

variable {env : Config} {clientCode : String} {s t u : Host}

theorem refl (s : Host) : Leaves env clientCode s s :=
  ⟨rfl, rfl, rfl, fun _ => id, fun _ => id⟩

theorem trans (h : Leaves env clientCode s t) (h' : Leaves env clientCode t u) :
    Leaves env clientCode s u where
  rows := h'.rows.trans h.rows
  envFile := h'.envFile.trans h.envFile
  distGenerated := h'.distGenerated.trans h.distGenerated
  generated f hf := h'.generated f (h.generated f hf)
  databases name hdb := h'.databases name (h.databases name hdb)

theorem tolerant : Tolerant (Leaves env clientCode) :=
  ⟨refl, fun _ _ _ => trans, fun _ => ⟨rfl, rfl, rfl, fun _ => id, fun _ => id⟩⟩

theorem works (h : Works s t) : Leaves env clientCode s t where
  rows := by rw [h.client]
  envFile := by rw [h.envFile]
  distGenerated := h.distGenerated
  generated := h.generated
  databases name hdb := by
    obtain ⟨db, hdb⟩ := Option.isSome_iff_exists.mp hdb
    obtain ⟨db', hdb', -⟩ := h.databases name db hdb
    rw [hdb']
    rfl

theorem untouched (h : Untouched s t) : Leaves env clientCode s t where
  rows := by rw [h.client]
  envFile := by rw [h.envFile]
  distGenerated := h.distGenerated
  generated f hf := h.generated ▸ hf
  databases name hdb := by rw [h.databases]; exact hdb

theorem updateClientRow {clientId : String} {dto : UpdateClientDbDto}
    (h : Tenant.updateClientRow clientId dto s = .ok t) : Leaves env clientCode s t := by
  unfold Tenant.updateClientRow at h
  split at h
  · cases ht : s.client.update (fun row => row.id == clientId) (withDatabase dto) with
    | none =>
      rw [ht] at h
      cases h
    | some client =>
      rw [ht] at h
      cases h
      refine ⟨?_, rfl, rfl, fun _ => id, fun _ => id⟩
      rw [Table.update_some ht]
      change (Table.patchRows _ _ _).map _ = _
      unfold Table.patchRows
      rw [List.map_map]
      refine List.map_congr_left fun row _ => ?_
      dsimp only [Function.comp]
      split <;> rfl
  · cases h

/-- The `.env` that the script has read is the one it extends. -/
theorem registerEnvKey (s : Host) : Leaves env clientCode s
    (finalState (Async.run (Tenant.registerEnvKey env clientCode) s)) := by
  have hscript : Leaves env clientCode s
      (finalState (Async.run (registerEnvKeyScript env clientCode) s)) := by
    unfold registerEnvKeyScript
    rw [Async.run_bind, Async.run_await]
    cases hread : external env (fun s => EStateM.Result.ok s.envFile s) s with
    | error e t =>
      rw [external_error (fun t e t' h => by cases h) hread]
      exact tolerant.count s
    | ok lines t =>
      cases external_ok hread
      dsimp only
      rw [Async.run_ite]
      split
      · exact tolerant.count s
      · rename_i hmissing
        rw [Async.run_await]
        refine (tolerant.count s).trans (tolerant.change fun t h => ?_)
        cases h
        refine ⟨rfl, ?_, rfl, fun _ => id, fun _ => id⟩
        have happend : (appendEnvKey env clientCode s.count.count).envFile =
            registeredEnv env clientCode s.count.envFile := (if_neg hmissing).symm
        rw [happend, registeredEnv_idem]
        rfl
  unfold Tenant.registerEnvKey
  rw [Async.run_handle]
  cases hrun : Async.run (registerEnvKeyScript env clientCode) s with
  | ok _ t =>
    rw [hrun] at hscript
    exact hscript
  | error e t =>
    rw [hrun] at hscript
    exact hscript

theorem createAdmin (command : CreateClientAdminUserCommand) (client : Client) (s : Host) :
    Leaves env clientCode s (finalState (Async.run (Tenant.createAdmin env command client) s)) := by
  have hawait {α β : Type} {x : HostSync α} {f : α → HostApp β} {s : Host}
      (hx : ∀ s, Leaves env clientCode s (finalState (x s)))
      (hf : ∀ a s, Leaves env clientCode s (finalState (Async.run (f a) s))) :
      Leaves env clientCode s (finalState (Async.run (Async.await x >>= f) s)) := by
    refine tolerant.run_bind ?_ fun a t _ => hf a t
    rw [Async.run_await]
    exact hx s
  have hwrite (client : PrismaClient) (f : TenantDb → Except Exn TenantDb)
      (hf : ∀ db db', f db = .ok db' → db'.applied = db.applied) (s : Host) :
      Leaves env clientCode s (finalState (change env (writeTenantDb env client f) s)) :=
    tolerant.change fun t h => .works (works_writeTenantDb hf h)
  have hmeta (clientId : String) (dto : UpdateClientDbDto) (s : Host) : Leaves env clientCode s
      (finalState (Async.run (createLegacyCompatibilityClientMeta env client.clientCode clientId dto)
        s)) := by
    refine tolerant.run_bind (.untouched (.getPrismaClientByCode env _ s)) fun tenantClient t _ => ?_
    rw [Async.run_await]
    exact hwrite tenantClient _ (fun _ _ => createClient_applied) t
  have huser (user : User) (s : Host) : Leaves env clientCode s
      (finalState (Async.run (createUser env client.clientCode user) s)) := by
    refine tolerant.run_bind (.untouched (.getPrismaClientByCode env _ s)) fun tenantClient t _ => ?_
    exact hawait (hwrite tenantClient _ fun _ _ => createUser_applied) fun _ s => .refl s
  have hpublish (user : User) (s : Host) : Leaves env clientCode s
      (finalState (publishUserCreated env command.clientCode user s)) := by
    unfold publishUserCreated
    cases env.encryptClientCode command.clientCode with
    | error e => exact .refl s
    | ok encrypted => exact .untouched ⟨rfl, rfl, rfl, rfl, rfl⟩
  unfold Tenant.createAdmin
  refine hawait (fun s => .untouched ⟨rfl, rfl, rfl, rfl, rfl⟩) fun id s => ?_
  refine hawait (fun s => tolerant.external (.untouched ⟨rfl, rfl, rfl, rfl, rfl⟩)) fun password s => ?_
  refine hawait (fun s => .untouched ⟨rfl, rfl, rfl, rfl, rfl⟩) fun signupVerifyToken s => ?_
  refine hawait (fun s => tolerant.change fun t h => .updateClientRow h) fun _ s => ?_
  refine hawait (hpublish _) fun _ s => ?_
  exact tolerant.run_bind (hmeta _ _ s) fun _ t _ => huser _ t

theorem provision (command : CreateClientAdminUserCommand) (client : Client) (s : Host) :
    Leaves env command.clientCode s
      (finalState (Async.run (Tenant.provision env command client) s)) := by
  have hworks {x : HostApp Unit} (hx : Async.Guarantees Works (fun _ => True) x) (s : Host) :
      Leaves env command.clientCode s (finalState (Async.run x s)) :=
    .works (hx.run Works.tolerant.refl Works.tolerant.trans s)
  have hmigrate : Async.Guarantees Works (fun _ => True)
      (runPrismaMigrate env (tenantDbUrl env command.clientCode) command.clientCode) :=
    works_of_builds (builds_runPrismaMigrate _ _)
  unfold Tenant.provision
  refine tolerant.run_bind (hworks (works_of_builds (builds_createDatabase _)) s) fun _ s _ => ?_
  refine tolerant.run_bind (registerEnvKey s) fun _ s _ => ?_
  refine tolerant.run_bind (hworks (hmigrate.handle fun _ => Async.Guarantees.throw _) s)
    fun _ s _ => ?_
  exact tolerant.run_bind (hworks hmigrate s) fun _ s _ => createAdmin command client s

/-- However a run ends, this is what it leaves. -/
theorem createClientAdminUser (command : CreateClientAdminUserCommand) (s : Host) :
    Leaves env command.clientCode s
      (finalState (Async.run (Tenant.createClientAdminUser env command) s)) := by
  unfold Tenant.createClientAdminUser
  refine tolerant.run_bind ?_ fun clientExists s _ => ?_
  · rw [Async.run_await]
    exact tolerant.external (.refl _)
  · cases clientExists with
    | none => exact .refl s
    | some row =>
      dsimp only
      split
      · exact .refl s
      · split
        · exact provision command row s
        · exact .refl s

end Leaves

end NestUserService.Tenant
