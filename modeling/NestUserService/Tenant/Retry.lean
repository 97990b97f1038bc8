import NestUserService.Tenant.CalmProvisioning

/-!
# Provisioning after a failed run

The handler refuses a code whose database exists. Once the database has been dropped,
everything else that a failed run has left is found again or written again, and a run
without external failures succeeds if the first run would have.
-/

namespace NestUserService.Tenant

open Lib NestUserService.Core

def Host.dropDatabase (s : Host) (name : String) : Host :=
  { s with databases := Function.update s.databases name none }

/-- Whatever a run leaves, the next one still has all it needs. -/
theorem Workable.leaves {env : Config} {command : CreateClientAdminUserCommand}
    {clientId : String} {s s' : Host}
    (h : Workable env command clientId s) (hl : Leaves env command.clientCode s s') :
    Workable env command clientId s' where
  row := hl.rows ▸ h.row
  base := h.base
  dist := hl.distGenerated ▸ h.dist
  deploys := hl.envFile ▸ h.deploys
  encrypts := h.encrypts
  dtoFits := h.dtoFits
  rowFits := h.rowFits
  adminFits := h.adminFits
  folder := h.folder.imp_left (hl.generated _)

/-- A failed run leaves its database behind, or nothing that matters. While the database
exists, every later run is refused; once it has been dropped, a run that meets no failure
creates the admin, if a first run without failures would have. -/
theorem retry_after_failure {env : Config} {command command' : CreateClientAdminUserCommand}
    {s s' : Host} {e : Exn} (hlengths : FixedLengths env)
    (hown : env.databaseOf (tenantDbUrl env command.clientCode) = tenantDbName env command.clientCode)
    (ht : Tied env {command.clientCode} s) (hcode : command'.clientCode = command.clientCode)
    (hfirst : ∃ user t, Async.run (createClientAdminUser env.calm command') s = .ok user t)
    (hfailed : Async.run (createClientAdminUser env command) s = .error e s') :
    ((s'.databases (tenantDbName env command.clientCode)).isSome →
      ∃ n, Async.run (createClientAdminUser env.calm command') s' =
        .error databaseExists (s'.after n)) ∧
    ∃ user t db, Async.run (createClientAdminUser env.calm command')
        (s'.dropDatabase (tenantDbName env command.clientCode)) = .ok user t ∧
      t.databases (tenantDbName env command.clientCode) = some db ∧ user ∈ db.user.rows ∧
      user.email = command'.email ∧ user.role = .ClientAdmin := by
  have hcalm : ∀ n, env.calm.fault n = none := fun _ => rfl
  rw [← hcode] at hown ht ⊢
  obtain ⟨user, t, hok⟩ := hfirst
  obtain ⟨clientId, hworkable⟩ := workable_of_ok hcalm ⟨hlengths.ulid, hlengths.uuidv1,
    hlengths.bcryptHash⟩ hown ⟨ht.rows, ht.redis, ht.clients⟩ hok
  have hleaves : Leaves env command.clientCode s
      (finalState (Async.run (createClientAdminUser env command) s)) :=
    Leaves.createClientAdminUser command s
  have hc : command.clientCode ∈ ({command'.clientCode} : Set String) := hcode.symm
  have hrespects := ((safe_createClientAdminUser hc ht).run Respects.tolerant.refl
    Respects.tolerant.trans).1
  rw [hfailed] at hleaves hrespects
  have hw : Workable env.calm command' clientId s' := by
    refine hworkable.leaves ⟨hleaves.rows, ?_, hleaves.distGenerated, hleaves.generated,
      hleaves.databases⟩
    rw [hcode]
    exact hleaves.envFile
  obtain ⟨row, hrow, hstanding⟩ := List.mem_map.mp hw.row
  have hid : row.id = clientId := congrArg Prod.fst hstanding
  have hcode' : row.clientCode = command'.clientCode := congrArg (fun p => p.2.1) hstanding
  subst hid
  have ht' : Tied env {command'.clientCode} s' := hrespects.tied ht
  refine ⟨fun hexists => ?_, ?_⟩
  · have hrefused : ∃ n, Async.run (createDatabase env.calm
        (tenantDbName env.calm command'.clientCode)) s'.count =
          .error databaseExists (s'.count.after n) := createDatabase_refuses hcalm hexists
    obtain ⟨n, hrefused⟩ := hrefused
    refine ⟨n, ?_⟩
    rw [createClientAdminUser_calm hcalm hrow hstanding]
    unfold provision
    rw [Async.run_bind, hrefused]
    rfl
  · obtain ⟨t, db, hrun, hdb, hadmin⟩ := provision_of_workable
      (s := (s'.dropDatabase (tenantDbName env command'.clientCode)).count) hcalm hown
      ⟨ht'.rows, ht'.redis, ht'.clients⟩ hrow hcode' ⟨hw.row, hw.base, hw.dist, hw.deploys,
        hw.encrypts, hw.dtoFits, hw.rowFits, hw.adminFits, hw.folder⟩ (Function.update_self ..)
    refine ⟨_, t, db, ?_, hdb, hadmin, rfl, rfl⟩
    rw [createClientAdminUser_calm hcalm
      (s := s'.dropDatabase (tenantDbName env command'.clientCode)) hrow hstanding]
    exact hrun

def digit (n : Nat) : String := String.singleton (Char.ofNat (48 + n))

theorem length_digit (n : Nat) : (digit n).length = 1 := String.length_singleton

/-- The sample configuration with generated values of fixed lengths, in which the sixth
external operation fails. -/
def Config.unlucky : Config :=
  { Config.sample with
    ulid := fun n => "ulid-" ++ digit n
    uuidv1 := fun n => "uuid-" ++ digit n
    bcryptHash := fun password n => "bcrypt-" ++ digit n ++ "-" ++ password
    fault := fun n => if n = 5 then some ⟨.error "spawn", 0, false⟩ else none }

theorem fixedLengths_unlucky : FixedLengths Config.unlucky := by
  have hlength (text : String) (n m : Nat) : (text ++ digit n).length = (text ++ digit m).length := by
    rw [String.length_append, String.length_append, length_digit, length_digit]
  refine ⟨hlength "ulid-", hlength "uuid-", fun password n m => ?_⟩
  change ("bcrypt-" ++ digit n ++ "-" ++ password).length =
    ("bcrypt-" ++ digit m ++ "-" ++ password).length
  simp only [String.length_append, length_digit]

/-- What the failed registration leaves. -/
def failedRun : Host :=
  finalState (Async.run (createClientAdminUser Config.unlucky (.sample "a")) Host.unprovisioned)

theorem retry_after_failure_sample : ∃ n user t db,
    Async.run (createClientAdminUser Config.unlucky.calm (.sample "a")) failedRun =
      .error databaseExists (failedRun.after n) ∧
    Async.run (createClientAdminUser Config.unlucky.calm (.sample "a"))
      (failedRun.dropDatabase "client_a") = .ok user t ∧
    t.databases "client_a" = some db ∧ user ∈ db.user.rows := by
  have hfailed : ∃ e, Async.run (createClientAdminUser Config.unlucky (.sample "a"))
      Host.unprovisioned = .error e failedRun := error_of_returned (by decide +kernel)
  have hfirst : ∃ user t, Async.run (createClientAdminUser Config.unlucky.calm (.sample "a"))
      Host.unprovisioned = .ok user t := exists_ok_of_returned (by decide +kernel)
  have hname : tenantDbName Config.unlucky (CreateClientAdminUserCommand.sample "a").clientCode =
      "client_a" := by decide +kernel
  have hown : Config.unlucky.databaseOf (tenantDbUrl Config.unlucky
      (CreateClientAdminUserCommand.sample "a").clientCode) = tenantDbName Config.unlucky
      (CreateClientAdminUserCommand.sample "a").clientCode := by decide +kernel
  have htied : Tied Config.unlucky {(CreateClientAdminUserCommand.sample "a").clientCode}
      Host.unprovisioned := tied_start (by decide)
  have hexists : (failedRun.databases "client_a").isSome = true := by decide +kernel
  obtain ⟨e, hfailed⟩ := hfailed
  have hretry := retry_after_failure fixedLengths_unlucky hown htied rfl hfirst hfailed
  rw [hname] at hretry
  obtain ⟨n, hrefused⟩ := hretry.1 hexists
  obtain ⟨user, t, db, hrun, hdb, hadmin, -⟩ := hretry.2
  exact ⟨n, user, t, db, hrefused, hrun, hdb, hadmin⟩

/-- After a failed registration, a run without failures does not succeed. -/
theorem failed_registration_blocks_retry :
    ¬ ∀ (env : Config) (command : CreateClientAdminUserCommand) (s : Host),
      (∃ row ∈ s.client.rows, row.clientCode = command.clientCode ∧ row.isPaid = true ∧
        row.isDbCreated = false) →
      s.databases (tenantDbName env command.clientCode) = none →
      ∀ e s', Async.run (createClientAdminUser env command) s = .error e s' →
        ∃ user t, Async.run (createClientAdminUser env.calm command) s' = .ok user t := by
  intro h
  have hfailed : ∃ e, Async.run (createClientAdminUser Config.unlucky (.sample "a"))
      Host.unprovisioned = .error e failedRun := error_of_returned (by decide +kernel)
  have hrefused : (returned (Async.run (createClientAdminUser Config.unlucky.calm (.sample "a"))
      failedRun)).isNone = true := by decide +kernel
  obtain ⟨e, hfailed⟩ := hfailed
  obtain ⟨user, t, hrun⟩ := h Config.unlucky (.sample "a") Host.unprovisioned (by decide) rfl e
    failedRun hfailed
  rw [hrun] at hrefused
  cases hrefused

end NestUserService.Tenant
