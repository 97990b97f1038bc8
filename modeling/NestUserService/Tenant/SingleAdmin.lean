import NestUserService.Lib.Gate
import NestUserService.Tenant.ConcurrentProvisioning

/-!
# One client admin for each tenant

Neither `isDbCreated` nor the check for the database keeps two runs for one client apart.
What does is the row of the client in the tenant database: it has the id of the root row,
the run that creates it goes on to create the user, and every other run fails there.
-/

namespace NestUserService.Tenant

open Lib NestUserService.Core

namespace SingleAdmin

variable {env : Config} {c clientId : String}

/-- The database that all runs for the code address. -/
def tenantDatabase (env : Config) (c : String) : String := env.databaseOf (tenantDbUrl env c)

def users (env : Config) (c : String) (s : Host) : List User :=
  (s.tables (tenantDatabase env c)).2.rows

/-- The tenant database has a client with the id. -/
def Claimed (env : Config) (c clientId : String) (s : Host) : Prop :=
  ∃ row ∈ (s.tables (tenantDatabase env c)).1.rows, row.id = clientId

/-- What any run does: rows of clients stay. -/
structure Goes (env : Config) (c : String) (s s' : Host) : Prop where
  respects : Respects env {c} s s'
  clients : ∀ clientId, Claimed env c clientId s → Claimed env c clientId s'

/-- What a run does until its client is there: no user is created. -/
structure Waits (env : Config) (c : String) (s s' : Host) : Prop extends Goes env c s s' where
  users : users env c s' = users env c s

namespace Goes

theorem refl (s : Host) : Goes env c s s := ⟨.refl s, fun _ => id⟩

theorem trans (s t u : Host) (h : Goes env c s t) (h' : Goes env c t u) : Goes env c s u :=
  ⟨h.respects.trans h'.respects, fun id hid => h'.clients id (h.clients id hid)⟩

theorem of_tables {s s' : Host} (h : Respects env {c} s s') (ht : ∀ name, s'.tables name = s.tables name) :
    Goes env c s s' := by
  refine ⟨h, fun id hid => ?_⟩
  unfold Claimed
  rw [ht]
  exact hid

theorem tolerant : Tolerant (Goes env c) :=
  ⟨refl, trans, fun s => .of_tables (Respects.tolerant.count s) fun _ => rfl⟩

end Goes

namespace Waits

theorem of_tables {s s' : Host} (h : Respects env {c} s s') (ht : ∀ name, s'.tables name = s.tables name) :
    Waits env c s s' := by
  refine ⟨.of_tables h ht, ?_⟩
  unfold SingleAdmin.users
  rw [ht]

theorem refl (s : Host) : Waits env c s s := ⟨.refl s, rfl⟩

theorem trans (s t u : Host) (h : Waits env c s t) (h' : Waits env c t u) : Waits env c s u :=
  ⟨Goes.trans s t u h.toGoes h'.toGoes, h'.users.trans h.users⟩

theorem tolerant : Tolerant (Waits env c) :=
  ⟨refl, trans, fun s => .of_tables (Respects.tolerant.count s) fun _ => rfl⟩

theorem builds {s s' : Host} (h : Builds s s') : Waits env c s s' :=
  .of_tables (.works h.toWorks) h.tables

theorem of_databases {s s' : Host} (h : Respects env {c} s s') (hdb : s'.databases = s.databases) :
    Waits env c s s' :=
  .of_tables h (Host.tables_congr hdb)

end Waits

theorem updateClientRow_databases {id : String} {dto : UpdateClientDbDto} {s s' : Host}
    (h : updateClientRow id dto s = .ok s') : s'.databases = s.databases := by
  unfold updateClientRow at h
  split at h
  · split at h
    · cases h
      rfl
    · cases h
  · cases h

/-- A write of a run, on its own database. -/
theorem writeTenantDb_own {client : PrismaClient} {f : TenantDb → Except Exn TenantDb}
    {s s' : Host} (hurl : client.url = .text (tenantDbUrl env c))
    (h : writeTenantDb env client f s = .ok s') :
    ∃ db db', s.databases (tenantDatabase env c) = some db ∧ f db = .ok db' ∧
      s' = s.setDatabase (tenantDatabase env c) db' := by
  obtain ⟨url, db, db', hurl', hdb, hf, rfl⟩ := writeTenantDb_ok h
  rw [hurl, CacheValue.text.injEq] at hurl'
  subst hurl'
  exact ⟨db, db', hdb, hf, rfl⟩

/-- Creating the row of the client creates no user, and needs that the row is not there. -/
theorem writeClient {client : PrismaClient} {row : Client} {s s' : Host}
    (hurl : client.url = .text (tenantDbUrl env c))
    (h : writeTenantDb env client (TenantDb.createClient row) s = .ok s') :
    Waits env c s s' ∧ ¬ Claimed env c row.id s ∧ Claimed env c row.id s' := by
  have hworks := works_writeTenantDb (fun _ _ => createClient_applied) h
  obtain ⟨db, db', hdb, hcreate, rfl⟩ := writeTenantDb_own hurl h
  obtain ⟨-, -, t, ht, rfl⟩ := createClient_ok.mp hcreate
  by_cases hv : db.client.Vacant row
  · rw [Table.create_of_vacant hv, Option.some.injEq] at ht
    subst ht
    have hold := Host.tables_of_some hdb
    have hnew := s.tables_setDatabase (tenantDatabase env c)
      { db with client := db.client.insert row hv }
    refine ⟨⟨⟨.works hworks, fun id hid => ?_⟩, ?_⟩, fun hclaimed => ?_, ?_⟩
    · obtain ⟨row', hrow', hid'⟩ := hid
      rw [hold] at hrow'
      refine ⟨row', ?_, hid'⟩
      rw [hnew]
      exact (Table.mem_insert hv).mpr (Or.inl hrow')
    · unfold SingleAdmin.users
      rw [hnew, hold]
    · obtain ⟨row', hrow', hid'⟩ := hclaimed
      rw [hold] at hrow'
      exact hv Client.id (by simp [Keyed.keys]) row' hrow' hid'
    · refine ⟨row, ?_, rfl⟩
      rw [hnew]
      exact (Table.mem_insert hv).mpr (Or.inr rfl)
  · rw [Table.create_of_not_vacant hv] at ht
    cases ht

/-- Creating a user adds one row. -/
theorem writeUser {client : PrismaClient} {user : User} {s s' : Host}
    (hurl : client.url = .text (tenantDbUrl env c))
    (h : writeTenantDb env client (TenantDb.createUser user) s = .ok s') :
    Goes env c s s' ∧ users env c s' = users env c s ++ [user] := by
  have hworks := works_writeTenantDb (fun _ _ => createUser_applied) h
  obtain ⟨db, db', hdb, hcreate, rfl⟩ := writeTenantDb_own hurl h
  obtain ⟨-, -, -, t, ht, rfl⟩ := createUser_ok.mp hcreate
  by_cases hv : db.user.Vacant user
  · rw [Table.create_of_vacant hv, Option.some.injEq] at ht
    subst ht
    have hold := Host.tables_of_some hdb
    have hnew := s.tables_setDatabase (tenantDatabase env c)
      { db with user := db.user.insert user hv }
    refine ⟨⟨.works hworks, fun id hid => ?_⟩, ?_⟩
    · obtain ⟨row', hrow', hid'⟩ := hid
      rw [hold] at hrow'
      refine ⟨row', ?_, hid'⟩
      rw [hnew]
      exact hrow'
    · unfold SingleAdmin.users
      rw [hnew, hold]
      rfl
  · rw [Table.create_of_not_vacant hv] at ht
    cases ht

/-- The tenant client of a run connects to its own database. -/
theorem moves_getPrismaClientByCode {E : Host → Host → Prop}
    (hE : ∀ s s', E s s' → Respects env {c} s s') {s : Host} (ht : Tied env {c} s) :
    Async.Moves E (Waits env c) (fun client _ => client.url = .text (tenantDbUrl env c))
      (getPrismaClientByCode env c) s := by
  change Async.Moves _ _ _ ((clientCalls env fun _ : Unit => c).program () .start) s
  refine Threads.Automaton.moves (P := fun pc s => Tied env {c} s ∧ pc.Own env c s) _ ?_ ?_ ?_
    ⟨ht, trivial⟩
  · exact fun pc s s' hr h => ⟨(hE s s' hr).tied h.1, h.2.mono (hE s s' hr).generated⟩
  · intro pc s pc' s' h hmove
    obtain ⟨hr, hown⟩ := respects_move (show c ∈ ({c} : Set String) from rfl) h.1 h.2 hmove
    exact ⟨.of_databases hr (Untouched.move hmove).databases, hr.tied h.1, hown⟩
  · intro pc client s hret h
    have hpc := h.2
    rw [returned_of_program hret] at hpc
    exact hpc.1

def OneUser (env : Config) (c : String) (s : Host) : Prop := (users env c s).length ≤ 1

theorem oneUser_of_empty {s : Host} (h : users env c s = []) : OneUser env c s := by
  unfold OneUser
  rw [h]
  exact Nat.zero_le 1

theorem change_state (env : Config) (f : Host → Except Exn Host) (s : Host) :
    finalState (change env f s) = s.count ∨
      ∃ s', f s.count = .ok s' ∧ finalState (change env f s) = s' := by
  rw [finalState_change]
  split
  · cases hf : f s.count with
    | ok s' => exact Or.inr ⟨s', rfl, rfl⟩
    | error e => exact Or.inl rfl
  · exact Or.inl rfl

/-- While nobody else creates a user, the run creates one at most. -/
theorem moves_createUser (user : User) {s : Host} (hs : users env c s = [])
    (ht : Tied env {c} s) :
    Async.Moves (Waits env c) (fun s t => Goes env c s t ∧ OneUser env c t) (fun _ _ => True)
      (createUser env c user) s := by
  let P (s : Host) : Prop := users env c s = [] ∧ Tied env {c} s
  have hP : Async.Stable (Waits env c) P :=
    fun s t hw hp => ⟨hw.users.trans hp.1, hw.respects.tied hp.2⟩
  have hget : Async.Moves (Waits env c) (fun s t => Goes env c s t ∧ OneUser env c t)
      (fun client s => client.url = .text (tenantDbUrl env c) ∧ P s)
      (getPrismaClientByCode env c) s := by
    refine (moves_getPrismaClientByCode (fun s s' h => h.respects) ht).keep hP ?_ ⟨hs, ht⟩
    intro s t hp hw
    have hpt := hP s t hw hp
    exact ⟨⟨hw.toGoes, oneUser_of_empty hpt.1⟩, hpt⟩
  refine hget.bind fun client s h => ?_
  obtain ⟨hurl, hp⟩ := h
  have hwrite : Async.Moves (Waits env c) (fun s t => Goes env c s t ∧ OneUser env c t)
      (fun _ _ => True)
      (Async.await (change env (writeTenantDb env client (TenantDb.createUser user)))) s := by
    refine Async.Moves.await hP hp fun t ht => ⟨?_, fun _ _ _ => trivial⟩
    have hempty : users env c t.count = [] := ht.1
    have hcount : Goes env c t t.count := Goes.tolerant.count t
    rcases change_state env (writeTenantDb env client (TenantDb.createUser user)) t with
      hend | ⟨t', hok, hend⟩
    · rw [hend]
      exact ⟨hcount, oneUser_of_empty hempty⟩
    · rw [hend]
      obtain ⟨hgoes, husers⟩ := writeUser hurl hok
      refine ⟨Goes.trans _ _ _ hcount hgoes, ?_⟩
      unfold OneUser
      rw [husers, hempty]
      exact Nat.le_refl 1
  exact hwrite.bind fun _ _ _ => Async.Moves.pure trivial

/-- What is left of a run that is about to create the row of its client. -/
def recording (env : Config) (c clientId : String) (dto : UpdateClientDbDto) (user : User)
    (tenantClient : PrismaClient) : HostApp User := do
  Async.await (change env (writeTenantDb env tenantClient
    (TenantDb.createClient (tenantClientRow c clientId dto))))
  createUser env c user

/-- A run at the gate: its write will succeed. -/
def AtGate (env : Config) (c clientId : String) (x : HostApp User) (s : Host) : Prop :=
  ∃ dto user tenantClient, x = recording env c clientId dto user tenantClient ∧
    tenantClient.url = .text (tenantDbUrl env c) ∧ Tied env {c} s ∧
    ∃ s', change env (writeTenantDb env tenantClient
      (TenantDb.createClient (tenantClientRow c clientId dto))) s = .ok () s'

/-- What is left of a run in front of the gate; it does not return. -/
def InFront (env : Config) (c clientId : String) (x : HostApp User) (s : Host) : Prop :=
  Async.Gated (Goes env c) (Waits env c) (AtGate env c clientId) (fun _ _ => False) x s

theorem moves_keep {α : Type} {x : HostApp α} {P : Host → Prop} {s : Host}
    (hx : Async.Guarantees (Waits env c) (fun _ => True) x) (hp : Async.Stable (Goes env c) P)
    (hs : P s) : Async.Moves (Goes env c) (Waits env c) (fun _ => P) x s :=
  ((hx.moves s).keep hp (fun s t ha hst => ⟨hst, hp s t hst.toGoes ha⟩) hs).mono
    fun _ _ h => h.2

theorem inFront_recording {s : Host} (ht : Tied env {c} s) {tenantClient : PrismaClient}
    (hurl : tenantClient.url = .text (tenantDbUrl env c)) (dto : UpdateClientDbDto) (user : User) :
    InFront env c clientId (recording env c clientId dto user tenantClient) s := by
  refine Async.Gated.gate_of_ok fun s' hr => ⟨?_, fun hok => ?_⟩
  · exact Waits.tolerant.change fun t hwrite => (writeClient hurl hwrite).1
  · obtain ⟨_, t, hok⟩ := hok
    exact ⟨dto, user, tenantClient, rfl, hurl, hr.respects.tied ht, t, hok⟩

theorem stable_knowsRow (client : Client) : Async.Stable (Goes env c) (KnowsRow env {c} client) :=
  fun s s' h => Tenant.stable_knowsRow client s s' h.respects

theorem inFront_createAdmin {command : CreateClientAdminUserCommand} {client : Client}
    (hc : command.clientCode = c) (hcode : client.clientCode = c) {s : Host}
    (hs : KnowsRow env {c} client s) :
    InFront env c client.id (createAdmin env command client) s := by
  have hquiet {α : Type} {x : HostSync α} {f : α → HostApp User} {s : Host}
      (hs : KnowsRow env {c} client s)
      (hx : ∀ s, KnowsRow env {c} client s → Waits env c s (finalState (x s)))
      (hf : ∀ a s, KnowsRow env {c} client s → InFront env c client.id (f a) s) :
      InFront env c client.id (Async.await x >>= f) s := by
    refine Async.Gated.bind (Async.Moves.await (stable_knowsRow client) hs fun s hs => ?_) hf
    exact ⟨hx s hs, fun a t hok => stable_knowsRow client _ _ (hok ▸ hx s hs).toGoes hs⟩
  have hpublish (user : User) (s : Host) :
      Waits env c s (finalState (publishUserCreated env command.clientCode user s)) := by
    unfold publishUserCreated
    cases env.encryptClientCode command.clientCode with
    | error e => exact .refl s
    | ok encrypted => exact .of_databases (.quiet s _ _ _ _ _) rfl
  have hupdate (s : Host) (hs : KnowsRow env {c} client s) : Waits env c s
      (finalState (updateClient env client.id (updateClientDbDto env command) s)) := by
    refine Waits.tolerant.change fun t hok => .of_databases ?_ (updateClientRow_databases hok)
    exact respects_updateClientRow hs.2 (congrArg (tenantDbUrl env) (hc.trans hcode.symm)) hok
  unfold createAdmin
  refine hquiet hs (fun s _ => .of_databases (.quiet s _ _ _ _ _) rfl) fun id s hs => ?_
  refine hquiet hs (fun s _ => Waits.tolerant.external (.of_databases (.quiet _ _ _ _ _ _) rfl))
    fun password s hs => ?_
  refine hquiet hs (fun s _ => .of_databases (.quiet s _ _ _ _ _) rfl)
    fun signupVerifyToken s hs => ?_
  refine hquiet hs hupdate fun _ s hs => ?_
  refine hquiet hs (fun s _ => hpublish _ s) fun _ s hs => ?_
  rw [hcode]
  unfold createLegacyCompatibilityClientMeta
  rw [Async.bind_assoc]
  have hget := (moves_getPrismaClientByCode (fun s s' h => Goes.respects h) hs.1).keep
    (stable_knowsRow client) (fun s t hk hw => ⟨hw, stable_knowsRow client s t hw.toGoes hk⟩) hs
  exact Async.Gated.bind hget fun tenantClient s h => inFront_recording h.2.1 h.1 _ _

theorem inFront_provision {command : CreateClientAdminUserCommand} {client : Client}
    (hc : command.clientCode = c) (hcode : client.clientCode = c) {s : Host}
    (hs : KnowsRow env {c} client s) :
    InFront env c client.id (provision env command client) s := by
  have hquiet {x : HostApp Unit} {f : Unit → HostApp User} {s : Host}
      (hx : Async.Guarantees (Waits env c) (fun _ => True) x) (hs : KnowsRow env {c} client s)
      (hf : ∀ s, KnowsRow env {c} client s → InFront env c client.id (f ()) s) :
      InFront env c client.id (x >>= f) s :=
    Async.Gated.bind (moves_keep hx (stable_knowsRow client) hs) fun _ s h => hf s h
  have hbuilds {x : HostApp Unit} (hx : Async.Guarantees Builds (fun _ => True) x) :
      Async.Guarantees (Waits env c) (fun _ => True) x :=
    hx.mono (fun _ _ h => .builds h) fun _ => id
  have hmigrate : Async.Guarantees (Waits env c) (fun _ => True)
      (runPrismaMigrate env (tenantDbUrl env command.clientCode) command.clientCode) :=
    hbuilds (builds_runPrismaMigrate _ _)
  have hregister : Async.Guarantees (Waits env c) (fun _ => True)
      (registerEnvKey env command.clientCode) :=
    guarantees_registerEnvKey Waits.tolerant fun s => .of_databases
      ⟨fun ht => ⟨ht.rows, ht.redis, ht.clients⟩, fun row h => ⟨row, h, rfl, rfl⟩, fun _ => id,
        fun _ => id⟩ rfl
  unfold provision
  refine hquiet (hbuilds (builds_createDatabase _)) hs fun s hs => ?_
  refine hquiet hregister hs fun s hs => ?_
  refine hquiet (hmigrate.handle fun _ => Async.Guarantees.throw _) hs fun s hs => ?_
  exact hquiet hmigrate hs fun s hs => inFront_createAdmin hc hcode hs

/-- The root row of the code has the id. -/
def HasId (c clientId : String) (s : Host) : Prop :=
  ∀ row ∈ s.client.rows, row.clientCode = c → row.id = clientId

theorem stable_hasId : Async.Stable (Goes env c) (HasId c clientId) := by
  intro s s' h hid row' hrow' hcode
  obtain ⟨row, hrow, hsame, hcode'⟩ := h.respects.rows row' hrow'
  exact hsame.symm.trans (hid row hrow (hcode'.trans hcode))

theorem inFront_createClientAdminUser {command : CreateClientAdminUserCommand}
    (hc : command.clientCode = c) {s : Host} (ht : Tied env {c} s) (hid : HasId c clientId s) :
    InFront env c clientId (createClientAdminUser env command) s := by
  have hfind : Async.Moves (Goes env c) (Waits env c)
      (fun clientExists s => ∀ client, clientExists = some client →
        client.clientCode = c ∧ client.id = clientId ∧ KnowsRow env {c} client s)
      (Async.await (findClientByCode env command.clientCode)) s := by
    refine Async.Moves.await (P := fun s => Tied env {c} s ∧ HasId c clientId s)
      (fun s s' h hs => ⟨h.respects.tied hs.1, stable_hasId s s' h hs.2⟩) ⟨ht, hid⟩ fun s hs => ?_
    refine ⟨Waits.tolerant.external (.refl _), fun clientExists t hfound client hclient => ?_⟩
    cases external_ok hfound
    obtain ⟨hmem, hcode⟩ := Table.findFirst_mem hclient
    have hcode' : client.clientCode = c := (beq_iff_eq.mp hcode).trans hc
    exact ⟨hcode', hs.2 client hmem hcode', (Respects.tolerant.count s).tied hs.1,
      rowIs_of_mem hmem⟩
  refine Async.Gated.bind hfind fun clientExists s h => ?_
  cases clientExists with
  | none => exact Async.Gated.throw _ s
  | some client =>
    obtain ⟨hcode, rfl, hs⟩ := h client rfl
    dsimp only
    split
    · exact Async.Gated.throw _ s
    · split
      · exact inFront_provision hc hcode hs
      · exact Async.Gated.throw _ s

section Runs

variable {ι : Type}

/-- The insert of the client row, for the runs for one code. -/
def gate (env : Config) (c clientId : String) : Gate Host Exn User ι where
  waits := Waits env c
  moves := Goes env c
  behind := Goes env c
  isOpen s := ¬ Claimed env c clientId s
  before s := users env c s = []
  after := OneUser env c
  entry _ := AtGate env c clientId
  early _ _ _ := False
  waits_refl := Waits.refl
  waits_trans := Waits.trans
  moves_trans := Goes.trans
  moves_of_waits _ _ h := h.toGoes
  moves_of_behind _ _ h := h
  closed s s' h hn hopen := hn fun hclaimed => hopen (h.clients clientId hclaimed)
  before_stable s s' h hs := h.users.trans hs
  after_stable s s' h hs := by
    unfold OneUser
    rw [h.users]
    exact hs
  early_stable _ _ _ _ _ h := h
  pass i u n s hentry _ hbefore := by
    obtain ⟨dto, user, tenantClient, hx, hurl, ht, s', hok⟩ := hentry
    obtain ⟨hwaits, -, hclaimed⟩ := writeClient hurl (change_ok hok)
    have hw : Waits env c s s' := Waits.trans _ _ _ (Waits.tolerant.count s) hwaits
    have hstep : u s = s' ∧ n s = createUser env c user := by
      rcases Async.step_of_await_bind hx.symm s with ⟨_, t, hrun, hu, hn⟩ | ⟨e, t, hrun, -, -⟩
      · rw [hok] at hrun
        cases hrun
        exact ⟨hu, hn⟩
      · rw [hok] at hrun
        cases hrun
    rw [hstep.1, hstep.2]
    have hempty : users env c s' = [] := hw.users.trans hbefore
    exact ⟨hw.toGoes, fun hopen => hopen hclaimed, oneUser_of_empty hempty,
      moves_createUser user hempty (hw.respects.tied ht)⟩

variable [DecidableEq ι]

/-- However runs for one client code interleave, and whatever fails on the way: the tenant
database gets one user at most, and at most one of the runs returns. -/
theorem one_admin_at_most {env : Config} {c : String} {command : ι → CreateClientAdminUserCommand}
    {guard : Threads Host Exn User ι → ι → Prop} {s : Host} {p : Threads Host Exn User ι}
    (hcode : ∀ i, (command i).clientCode = c) (ht : Tied env {c} s)
    (hnone : s.databases (tenantDatabase env c) = none)
    (h : Threads.Runs (Meanwhile env) guard (provisioning env command s) p) :
    (∀ i j user user', p.rest i = .ret user → p.rest j = .ret user' → i = j) ∧
      (users env c p.state).length ≤ 1 := by
  obtain ⟨clientId, hid⟩ : ∃ clientId, HasId c clientId s := by
    cases hrow : s.client.findFirst fun row => row.clientCode == c with
    | none =>
      refine ⟨"", fun row hmem hcode => ?_⟩
      have hno := Table.findFirst_eq_none.mp hrow row hmem
      rw [hcode, beq_self_eq_true] at hno
      cases hno
    | some row =>
      obtain ⟨hmem, hrowcode⟩ := Table.findFirst_mem hrow
      refine ⟨row.id, fun row' hmem' hcode' => ?_⟩
      rw [Table.eq_of_key (k := Client.clientCode) (by simp [Keyed.keys]) hmem' hmem
        (hcode'.trans (beq_iff_eq.mp hrowcode).symm)]
  have hempty : users env c s = [] := by
    unfold users Host.tables
    rw [hnone]
    rfl
  let G : Gate Host Exn User ι := gate env c clientId
  have henv (s s' : Host) (hm : Meanwhile env s s') : G.waits s s' := by
    refine .of_databases (.meanwhile hm) ?_
    cases hm with
    | clock now => rfl
    | cleanup =>
      obtain ⟨m, l, d, hframe⟩ := cleanupIdleClients_frame env s
      rw [hframe]
  have hkept : G.Kept guard := by
    intro q i u n _ _ hentry
    obtain ⟨dto, user, tenantClient, -, hurl, -, s', hok⟩ := hentry
    exact Or.inl (writeClient hurl (change_ok hok)).2.1
  have hrace : G.Race p := Gate.Race.runs henv hkept h
    (.none hempty fun i => inFront_createClientAdminUser (hcode i) ht hid)
  refine ⟨fun i j user user' hi hj => hrace.returned_once hi hj id id, ?_⟩
  cases hrace with
  | none hbefore _ => exact oneUser_of_empty hbefore
  | one _ _ hafter _ _ => exact hafter

end Runs

def rivalCommand (i : Bool) : CreateClientAdminUserCommand :=
  { CreateClientAdminUserCommand.sample "a" with email := if i then "lee@a" else "kim@a" }

/-- Both runs see that the database is missing, and go on. -/
def rivals : Threads Host Exn User Bool :=
  Threads.schedule (fun _ _ => True) (List.replicate 40 [false, true]).flatten
    (provisioning Config.sample rivalCommand Host.unprovisioned)

theorem one_rival_returns :
    (∀ i j user user', rivals.rest i = .ret user → rivals.rest j = .ret user' → i = j) ∧
      (users Config.sample "a" rivals.state).length ≤ 1 ∧ rivals.Returned false := by
  have hrun : Threads.Runs (Meanwhile Config.sample) (fun _ _ => True)
      (provisioning Config.sample rivalCommand Host.unprovisioned) rivals :=
    Threads.schedule_runs _ _ _ _
  have hcode (i : Bool) : (rivalCommand i).clientCode = "a" := rfl
  have htied : Tied Config.sample {"a"} Host.unprovisioned := tied_start (by decide)
  have hnone : Host.unprovisioned.databases (tenantDatabase Config.sample "a") = none := rfl
  obtain ⟨hreturned, husers⟩ := one_admin_at_most hcode htied hnone hrun
  exact ⟨hreturned, husers, by decide +kernel⟩

end SingleAdmin

end NestUserService.Tenant
