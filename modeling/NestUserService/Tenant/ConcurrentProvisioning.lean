import NestUserService.Tenant.ClientIsolation
import NestUserService.Tenant.ProvisioningSteps

/-!
# Provisioning next to provisioning

Runs of the handler share the schema file, and a migration may act on the database of
another run. But a run only succeeds when the client and the user could be created on the
URL of its own code, with a generated client of its own code, and no step of any run takes
a migration or a generated client away.
-/

namespace NestUserService.Tenant

open Lib NestUserService.Core

/-- Row, Redis and map of clients know no other URL for the codes than their own. -/
structure Tied (env : Config) (codes : Set String) (s : Host) : Prop where
  rows : ∀ row ∈ s.client.rows, row.clientCode ∈ codes →
    ∀ u, row.dbUrl = some u → u = tenantDbUrl env row.clientCode
  redis : ∀ c ∈ codes, ∀ e, s.redis.lookup (tenantDbUrlKey c) = some e →
    e.value = .text (tenantDbUrl env c)
  clients : ∀ c ∈ codes, ∀ client, s.clientMap.get? c = some client →
    client.url = .text (tenantDbUrl env c) ∧ env.folder (clientFolder c) ∈ s.generated

/-- The tables of the database are all there. -/
def Host.IsMigrated (s : Host) (name : String) : Prop :=
  ∃ db, s.databases name = some db ∧ db.Migrated

structure Respects (env : Config) (codes : Set String) (s s' : Host) : Prop where
  tied : Tied env codes s → Tied env codes s'
  rows : ∀ row' ∈ s'.client.rows, ∃ row ∈ s.client.rows,
    row.id = row'.id ∧ row.clientCode = row'.clientCode
  migrated : ∀ name, s.IsMigrated name → s'.IsMigrated name
  generated : ∀ f ∈ s.generated, f ∈ s'.generated

namespace Respects

variable {env : Config} {codes : Set String} {s s' : Host}

theorem refl (s : Host) : Respects env codes s s :=
  ⟨id, fun row h => ⟨row, h, rfl, rfl⟩, fun _ => id, fun _ => id⟩

theorem trans {t : Host} (h : Respects env codes s t) (h' : Respects env codes t s') :
    Respects env codes s s' := by
  constructor
  · exact fun hs => h'.tied (h.tied hs)
  · intro row' hrow'
    obtain ⟨row, hrow, hid, hcode⟩ := h'.rows row' hrow'
    obtain ⟨row₀, hrow₀, hid₀, hcode₀⟩ := h.rows row hrow
    exact ⟨row₀, hrow₀, hid₀.trans hid, hcode₀.trans hcode⟩
  · exact fun name hs => h'.migrated name (h.migrated name hs)
  · exact fun f hf => h'.generated f (h.generated f hf)

/-- A move that touches neither rows, nor Redis, nor the map of clients. -/
theorem works (h : Works s s') : Respects env codes s s' := by
  constructor
  · intro ht
    constructor
    · rw [h.client]
      exact ht.rows
    · rw [h.redis]
      exact ht.redis
    · rw [h.clientMap]
      intro c hc client hget
      exact ⟨(ht.clients c hc client hget).1, h.generated _ (ht.clients c hc client hget).2⟩
  · rw [h.client]
    exact fun row h => ⟨row, h, rfl, rfl⟩
  · intro name hm
    obtain ⟨db, hdb, hall⟩ := hm
    obtain ⟨db', hdb', hm'⟩ := h.databases name db hdb
    exact ⟨db', hdb', hm' hall⟩
  · exact h.generated

/-- A move of what no run reads back. -/
theorem quiet (s : Host) (now draws operations constructed : Nat) (events : List UserCreatedEvent) :
    Respects env codes s { s with
      now := now, draws := draws, operations := operations, constructed := constructed,
      published := events } :=
  works ⟨rfl, rfl, rfl, rfl, rfl, fun _ db h => ⟨db, h, id⟩, fun _ => id⟩

theorem tolerant : Tolerant (Respects env codes) :=
  ⟨refl, fun _ _ _ => trans, fun s => quiet s _ _ _ _ _⟩

end Respects

section Clients

variable {env : Config} {codes : Set String} {c : String}

/-- What a call for `c` carries is its own URL, and its generated client is there. -/
def Pc.Own (env : Config) (c : String) (s : Host) : Pc → Prop
  | .start => True
  | .readDbUrlCache _ => True
  | .lookupDbUrl _ => True
  | .fillDbUrlCache _ u => u = tenantDbUrl env c
  | .loadClient _ url => url = .text (tenantDbUrl env c)
  | .openClient _ url => url = .text (tenantDbUrl env c) ∧ env.folder (clientFolder c) ∈ s.generated
  | .storeClient _ client =>
    client.url = .text (tenantDbUrl env c) ∧ env.folder (clientFolder c) ∈ s.generated
  | .returned client =>
    client.url = .text (tenantDbUrl env c) ∧ env.folder (clientFolder c) ∈ s.generated
  | .thrown _ => True

theorem Pc.Own.mono {s s' : Host} {pc : Pc} (h : pc.Own env c s)
    (hgenerated : ∀ f ∈ s.generated, f ∈ s'.generated) : pc.Own env c s' := by
  cases pc with
  | start => trivial
  | readDbUrlCache now => trivial
  | lookupDbUrl now => trivial
  | fillDbUrlCache now u => exact h
  | loadClient now url => exact h
  | openClient now url => exact ⟨h.1, hgenerated _ h.2⟩
  | storeClient now client => exact ⟨h.1, hgenerated _ h.2⟩
  | returned client => exact ⟨h.1, hgenerated _ h.2⟩
  | thrown e => trivial

theorem respects_store {s : Host} {client : PrismaClient} (now : Nat)
    (hclient : c ∈ codes → client.url = .text (tenantDbUrl env c) ∧
      env.folder (clientFolder c) ∈ s.generated) :
    Respects env codes s (cacheClient env c now client s) := by
  obtain ⟨m, l, d, hframe⟩ := makeRoom_frame env s
  have hmap : m = s.clientMap.deleteAll (evicted env s).toList := by
    have heq := congrArg Host.clientMap hframe
    rw [makeRoom_clientMap] at heq
    exact heq.symm
  unfold cacheClient
  rw [hframe]
  constructor
  · intro ht
    refine ⟨ht.rows, ht.redis, fun c' hc' client' hget => ?_⟩
    change (m.set c client).get? c' = some client' at hget
    by_cases hcc : c' = c
    · subst hcc
      rw [OrderedMap.get?_set_self, Option.some.injEq] at hget
      exact hget ▸ hclient hc'
    · rw [OrderedMap.get?_set_ne _ _ hcc, hmap, OrderedMap.get?_deleteAll] at hget
      by_cases hin : c' ∈ (evicted env s).toList
      · rw [if_pos hin] at hget
        cases hget
      · rw [if_neg hin] at hget
        exact ht.clients c' hc' client' hget
  · exact fun row h => ⟨row, h, rfl, rfl⟩
  · exact fun _ => id
  · exact fun _ => id

/-- A run puts its own URL under the key of its code. -/
theorem respects_put {s : Host} (entry : Entry CacheValue)
    (hentry : c ∈ codes → entry.value = .text (tenantDbUrl env c)) :
    Respects env codes s { s.count with redis := s.redis.put (tenantDbUrlKey c) entry } := by
  constructor
  · intro ht
    refine ⟨ht.rows, fun c' hc' e he => ?_, ht.clients⟩
    by_cases hcc : c' = c
    · subst hcc
      rw [Store.lookup_put_self, Option.some.injEq] at he
      exact he ▸ hentry hc'
    · rw [Store.lookup_put_ne _ _ fun hk => hcc (tenantDbUrlKey_inj hk)] at he
      exact ht.redis c' hc' e he
  · exact fun row h => ⟨row, h, rfl, rfl⟩
  · exact fun _ => id
  · exact fun _ => id

/-- Every move of a call for `c` respects the other runs. -/
theorem respects_move {pc pc' : Pc} {s s' : Host} (hc : c ∈ codes) (ht : Tied env codes s)
    (hpc : pc.Own env c s) (hmove : Move env c pc s pc' s') :
    Respects env codes s s' ∧ pc'.Own env c s' := by
  have hquiet (s : Host) (n m : Nat) :
      Respects env codes s { s with operations := n, constructed := m } :=
    .quiet s _ _ _ _ _
  cases hmove with
  | hit hget =>
    exact ⟨.works ⟨rfl, rfl, rfl, rfl, rfl, fun _ db h => ⟨db, h, id⟩, fun _ => id⟩,
      ht.clients c hc _ hget⟩
  | miss => exact ⟨.refl s, trivial⟩
  | cached hfind =>
    obtain ⟨e, he, -, rfl⟩ := Store.find?_eq_some.mp hfind
    exact ⟨hquiet s _ _, ht.redis c hc e he⟩
  | uncached => exact ⟨hquiet s _ _, trivial⟩
  | @found _ now row url hrow hcode hurl =>
    refine ⟨hquiet s _ _, ?_⟩
    have hown := ht.rows row hrow (hcode ▸ hc) url hurl
    rw [hcode] at hown
    exact hown
  | filled => exact ⟨respects_put _ fun _ => congrArg CacheValue.text hpc, congrArg _ hpc⟩
  | loaded hf => exact ⟨hquiet s _ _, hpc, hf⟩
  | opened => exact ⟨hquiet s _ _, hpc⟩
  | @stored _ now client =>
    have hr : Respects env codes s (cacheClient env c now client s) :=
      respects_store now fun _ => hpc
    exact ⟨hr, hpc.1, hr.generated _ hpc.2⟩
  | failed => exact ⟨hquiet s _ _, trivial⟩

theorem stable_tied : Async.Stable (Respects env codes) (Tied env codes) :=
  fun _ _ h => h.tied

/-- The client that a run gets connects to its own URL. -/
theorem safe_getPrismaClientByCode (hc : c ∈ codes) {s : Host} (ht : Tied env codes s) :
    Async.Safe (Respects env codes)
      (fun client s => client.url = .text (tenantDbUrl env c) ∧
        env.folder (clientFolder c) ∈ s.generated) (getPrismaClientByCode env c) s := by
  change Async.Safe _ _ ((clientCalls env fun _ : Unit => c).program () .start) s
  refine Threads.Automaton.safe (P := fun pc s => Tied env codes s ∧ pc.Own env c s) _ ?_ ?_ ?_
    ⟨ht, trivial⟩
  · exact fun pc s s' hr h => ⟨hr.tied h.1, h.2.mono hr.generated⟩
  · intro pc s pc' s' h hmove
    obtain ⟨hr, hown⟩ := respects_move hc h.1 h.2 hmove
    exact ⟨hr, hr.tied h.1, hown⟩
  · intro pc client s hret h
    have hpc := h.2
    rw [returned_of_program hret] at hpc
    exact hpc

end Clients

section Rows

variable {env : Config} {codes : Set String}

/-- The id of a row that was found belongs to the code of that row. -/
def RowIs (client : Client) (s : Host) : Prop :=
  ∀ row ∈ s.client.rows, row.id = client.id → row.clientCode = client.clientCode

theorem stable_rowIs (client : Client) : Async.Stable (Respects env codes) (RowIs client) := by
  intro s s' hr h row' hrow' hid
  obtain ⟨row, hrow, hid', hcode⟩ := hr.rows row' hrow'
  rw [← hcode]
  exact h row hrow (hid'.trans hid)

theorem rowIs_of_mem {client : Client} {s : Host} (h : client ∈ s.client.rows) :
    RowIs client s := by
  intro row hrow hid
  rw [Table.eq_of_key (k := Client.id) (by simp [Keyed.keys]) hrow h hid]

/-- A run writes its own URL into its own row. -/
theorem respects_updateClientRow {client : Client} {dto : UpdateClientDbDto} {s s' : Host}
    (hrow : RowIs client s) (hurl : dto.dbUrl = tenantDbUrl env client.clientCode)
    (h : updateClientRow client.id dto s = .ok s') : Respects env codes s s' := by
  unfold updateClientRow at h
  split at h
  · cases ht : s.client.update (fun row => row.id == client.id) (withDatabase dto) with
    | none =>
      rw [ht] at h
      cases h
    | some t =>
      rw [ht] at h
      cases h
      have hrows (row' : Client) (h' : row' ∈ t.rows) : ∃ row ∈ s.client.rows,
          row.id = row'.id ∧ row.clientCode = row'.clientCode ∧
            (row'.dbUrl = row.dbUrl ∨ row.id = client.id ∧ row'.dbUrl = some dto.dbUrl) := by
        rw [Table.update_some ht] at h'
        obtain ⟨row, hmem, rfl⟩ := Table.mem_updateMany.mp h'
        refine ⟨row, hmem, ?_⟩
        by_cases hid : row.id = client.id
        · rw [if_pos (by simpa using hid)]
          exact ⟨rfl, rfl, Or.inr ⟨hid, rfl⟩⟩
        · rw [if_neg (by simpa using hid)]
          exact ⟨rfl, rfl, Or.inl rfl⟩
      constructor
      · intro htied
        refine ⟨fun row' h' hc u hu => ?_, htied.redis, htied.clients⟩
        obtain ⟨row, hmem, -, hcode, hsame | ⟨hid, hnew⟩⟩ := hrows row' h'
        · rw [hsame] at hu
          rw [← hcode] at hc ⊢
          exact htied.rows row hmem hc u hu
        · rw [hnew, Option.some.injEq] at hu
          rw [← hu, hurl, ← hcode, hrow row hmem hid]
      · intro row' h'
        obtain ⟨row, hmem, hid, hcode, -⟩ := hrows row' h'
        exact ⟨row, hmem, hid, hcode⟩
      · exact fun _ => id
      · exact fun _ => id
  · cases h

end Rows

/-- What a run for `c` needs: a database with all its tables, and a generated client. -/
def Provisioned (env : Config) (c : String) (s : Host) : Prop :=
  s.IsMigrated (env.databaseOf (tenantDbUrl env c)) ∧ env.folder (clientFolder c) ∈ s.generated

section Handler

variable {env : Config} {codes : Set String} {c : String}

theorem stable_provisioned : Async.Stable (Respects env codes) (Provisioned env c) :=
  fun _ _ h hs => ⟨h.migrated _ hs.1, h.generated _ hs.2⟩

/-- The row of the client can only be created in a database with all tables. -/
theorem safe_createLegacyCompatibilityClientMeta (hc : c ∈ codes) {s : Host}
    (ht : Tied env codes s) (clientId : String) (dto : UpdateClientDbDto) :
    Async.Safe (Respects env codes) (fun _ => Provisioned env c)
      (createLegacyCompatibilityClientMeta env c clientId dto) s := by
  refine (safe_getPrismaClientByCode hc ht).bind fun client s h => Async.Safe.await fun s' hr => ?_
  obtain ⟨hurl, hgenerated⟩ := h
  refine ⟨Respects.tolerant.change fun t hok => ?_, fun _ t hok => ?_⟩
  · exact .works (works_writeTenantDb (fun _ _ => createClient_applied) hok)
  · obtain ⟨url, db, db', hurl', -, hcreate, rfl⟩ := writeTenantDb_ok (change_ok hok)
    rw [hurl, CacheValue.text.injEq] at hurl'
    subst hurl'
    have hall := (createClient_ok.mp hcreate).1
    have hsame := createClient_applied hcreate
    refine ⟨⟨db', Function.update_self .., ?_⟩, hr.generated _ hgenerated⟩
    unfold TenantDb.Migrated at hall ⊢
    omega

theorem safe_createUser (hc : c ∈ codes) {s : Host} (ht : Tied env codes s) (user : User) :
    Async.Safe (Respects env codes) (fun _ _ => True) (createUser env c user) s := by
  refine (safe_getPrismaClientByCode hc ht).bind fun client s h => ?_
  have hwrite : Async.Safe (Respects env codes) (fun _ _ => True) (Async.await (change env
      (writeTenantDb env client (TenantDb.createUser user)))) s :=
    Async.Safe.await fun s' _ => ⟨Respects.tolerant.change fun t hok =>
      .works (works_writeTenantDb (fun _ _ => createUser_applied) hok), fun _ _ _ => trivial⟩
  exact hwrite.bind fun _ _ _ => Async.Safe.pure trivial

/-- A run that knows its row. -/
def KnowsRow (env : Config) (codes : Set String) (client : Client) (s : Host) : Prop :=
  Tied env codes s ∧ RowIs client s

theorem stable_knowsRow (client : Client) :
    Async.Stable (Respects env codes) (KnowsRow env codes client) :=
  fun s s' hr h => ⟨hr.tied h.1, stable_rowIs client s s' hr h.2⟩

variable {command : CreateClientAdminUserCommand} {client : Client}

theorem safe_createAdmin (hc : command.clientCode ∈ codes)
    (hcode : client.clientCode = command.clientCode) {s : Host}
    (hs : KnowsRow env codes client s) :
    Async.Safe (Respects env codes) (fun _ => Provisioned env command.clientCode)
      (createAdmin env command client) s := by
  have hawait {α : Type} {x : HostSync α} {s : Host} (hs : KnowsRow env codes client s)
      (hx : ∀ s, KnowsRow env codes client s → Respects env codes s (finalState (x s))) :
      Async.Safe (Respects env codes) (fun _ => KnowsRow env codes client) (Async.await x) s :=
    Async.Safe.await_keeps (stable_knowsRow client) hs hx
  have hulid (s : Host) : Respects env codes s (finalState (ulid env s)) :=
    .quiet s _ _ _ _ _
  have htoken (s : Host) : Respects env codes s (finalState (signupVerifyTokenCreate env s)) :=
    .quiet s _ _ _ _ _
  have hhash (s : Host) :
      Respects env codes s (finalState (hashPassword env command.password s)) :=
    Respects.tolerant.external (.quiet s.count _ _ _ _ _)
  have hupdate (s : Host) (hs : KnowsRow env codes client s) : Respects env codes s
      (finalState (updateClient env client.id (updateClientDbDto env command) s)) :=
    Respects.tolerant.change fun s' hok => respects_updateClientRow hs.2
      (congrArg (tenantDbUrl env) hcode.symm) hok
  have hpublish (user : User) (s : Host) :
      Respects env codes s (finalState (publishUserCreated env command.clientCode user s)) := by
    unfold publishUserCreated
    cases env.encryptClientCode command.clientCode with
    | error e => exact .refl s
    | ok encrypted => exact .quiet s _ _ _ _ _
  unfold createAdmin
  refine (hawait hs fun s _ => hulid s).bind fun id s hs => ?_
  refine (hawait hs fun s _ => hhash s).bind fun password s hs => ?_
  refine (hawait hs fun s _ => htoken s).bind fun signupVerifyToken s hs => ?_
  refine (hawait hs hupdate).bind fun _ s hs => ?_
  refine (hawait hs fun s _ => hpublish _ s).bind fun _ s hs => ?_
  rw [hcode]
  have hmeta := (safe_createLegacyCompatibilityClientMeta hc hs.1 client.id
    (updateClientDbDto env command)).frame stable_tied hs.1
  refine hmeta.bind fun _ s h => ?_
  exact ((safe_createUser hc h.2 _).frame stable_provisioned h.1).mono fun _ _ h => h.2

theorem respects_registerEnvKey (clientCode : String) :
    Async.Guarantees (Respects env codes) (fun _ => True) (registerEnvKey env clientCode) :=
  guarantees_registerEnvKey Respects.tolerant fun _ =>
    ⟨fun ht => ⟨ht.rows, ht.redis, ht.clients⟩, fun row h => ⟨row, h, rfl, rfl⟩, fun _ => id,
      fun _ => id⟩

theorem safe_provision (hc : command.clientCode ∈ codes)
    (hcode : client.clientCode = command.clientCode) {s : Host}
    (hs : KnowsRow env codes client s) :
    Async.Safe (Respects env codes) (fun _ => Provisioned env command.clientCode)
      (provision env command client) s := by
  have hkeeps {x : HostApp Unit} {s : Host} (hs : KnowsRow env codes client s)
      (hx : Async.Guarantees (Respects env codes) (fun _ => True) x) :
      Async.Safe (Respects env codes) (fun _ => KnowsRow env codes client) x s :=
    hx.keeps (stable_knowsRow client) hs
  have hworks {x : HostApp Unit} (hx : Async.Guarantees Works (fun _ => True) x) :
      Async.Guarantees (Respects env codes) (fun _ => True) x :=
    hx.mono (fun _ _ => .works) fun _ => id
  have hmigrate : Async.Guarantees (Respects env codes) (fun _ => True)
      (runPrismaMigrate env (tenantDbUrl env command.clientCode) command.clientCode) :=
    hworks (works_of_builds (builds_runPrismaMigrate _ _))
  unfold provision
  refine (hkeeps hs (hworks (works_of_builds (builds_createDatabase _)))).bind fun _ s hs => ?_
  refine (hkeeps hs (respects_registerEnvKey _)).bind fun _ s hs => ?_
  refine (hkeeps hs (hmigrate.handle fun _ => Async.Guarantees.throw _)).bind fun _ s hs => ?_
  exact (hkeeps hs hmigrate).bind fun _ s hs => safe_createAdmin hc hcode hs

/-- Next to others that respect it, a run only succeeds when its client is provisioned. -/
theorem safe_createClientAdminUser (hc : command.clientCode ∈ codes) {s : Host}
    (ht : Tied env codes s) :
    Async.Safe (Respects env codes) (fun _ => Provisioned env command.clientCode)
      (createClientAdminUser env command) s := by
  have hfind : Async.Safe (Respects env codes)
      (fun clientExists s => ∀ client, clientExists = some client →
        client.clientCode = command.clientCode ∧ KnowsRow env codes client s)
      (Async.await (findClientByCode env command.clientCode)) s := by
    refine Async.Safe.await fun s' hr => ⟨?_, fun clientExists t hfound client hclient => ?_⟩
    · exact Respects.tolerant.external (.refl _)
    · cases external_ok hfound
      have hmem := Table.findFirst_mem hclient
      exact ⟨by simpa using hmem.2, (Respects.tolerant.count s').tied (hr.tied ht), rowIs_of_mem hmem.1⟩
  refine hfind.bind fun clientExists s h => ?_
  cases clientExists with
  | none => exact Async.Safe.throw _ s
  | some client =>
    obtain ⟨hcode, hs⟩ := h client rfl
    dsimp only
    split
    · exact Async.Safe.throw _ s
    · split
      · exact safe_provision hc hcode hs
      · exact Async.Safe.throw _ s

end Handler

/-- What happens between the steps of the handlers. -/
inductive Meanwhile (env : Config) : Host → Host → Prop
  | clock (s : Host) (now : Nat) : Meanwhile env s { s with now := now }
  | cleanup (s : Host) : Meanwhile env s (cleanupIdleClients env s)

theorem Respects.meanwhile {env : Config} {codes : Set String} {s s' : Host}
    (h : Meanwhile env s s') : Respects env codes s s' := by
  cases h with
  | clock now => exact .quiet s _ _ _ _ _
  | cleanup =>
    obtain ⟨m, l, d, hframe⟩ := cleanupIdleClients_frame env s
    have hmap : m = s.clientMap.deleteAll (idleKeys env s) := by
      have heq := congrArg Host.clientMap hframe
      rw [cleanupIdleClients_clientMap] at heq
      exact heq.symm
    rw [hframe]
    constructor
    · intro ht
      refine ⟨ht.rows, ht.redis, fun c hc client hget => ?_⟩
      rw [hmap, OrderedMap.get?_deleteAll] at hget
      split at hget
      · cases hget
      · exact ht.clients c hc client hget
    · exact fun row h => ⟨row, h, rfl, rfl⟩
    · exact fun _ => id
    · exact fun _ => id

section Runs

variable {ι : Type} [DecidableEq ι]

/-- Runs of the handler, all at their beginning. -/
def provisioning (env : Config) (command : ι → CreateClientAdminUserCommand) (s : Host) :
    Threads Host Exn User ι :=
  ⟨s, fun i => createClientAdminUser env (command i)⟩

/-- However runs of the handler interleave, and whatever fails on the way: the database of
a run that has succeeded has all migrations, and its generated client exists. -/
theorem succeeded_runs_provisioned {env : Config} {command : ι → CreateClientAdminUserCommand}
    {guard : Threads Host Exn User ι → ι → Prop} {s : Host} {p : Threads Host Exn User ι}
    (h : Threads.Runs (Meanwhile env) guard (provisioning env command s) p)
    (ht : Tied env (Set.range fun i => (command i).clientCode) s) {i : ι} {user : User}
    (hret : p.rest i = .ret user) : Provisioned env (command i).clientCode p.state := by
  have hsafe := h.safe (R := Respects env (Set.range fun i => (command i).clientCode))
    (Q := fun i _ => Provisioned env (command i).clientCode) Respects.refl
    (fun _ _ _ => Respects.trans) (fun _ _ => Respects.meanwhile) (fun _ _ => stable_provisioned)
    (fun i => safe_createClientAdminUser (Set.mem_range_self i) ht) i
  rw [hret] at hsafe
  exact hsafe

end Runs

/-- No URL is known on a service whose clients all wait for their database. -/
theorem tied_start {env : Config} {codes : Set String} {t : Table Client}
    (h : ∀ row ∈ t.rows, row.dbUrl = none) : Tied env codes (Host.start t) := by
  constructor
  · intro row hrow _ u hu
    rw [h row hrow] at hu
    cases hu
  · intro c _ e he
    cases he
  · intro c _ client hget
    cases hget

/-- Two runs that take turns, except for their child processes. -/
def interleaved : Threads Host Exn User Bool :=
  Threads.schedule (fun _ _ => True)
    ((List.replicate 7 [false, true]).flatten ++ List.replicate 16 false ++
      List.replicate 16 true ++ (List.replicate 16 [true, false]).flatten)
    (provisioning Config.sample (fun i => .sample (if i then "b" else "a")) Host.unprovisioned)

theorem succeeded_runs_provisioned_sample :
    Provisioned Config.sample "a" interleaved.state ∧
      Provisioned Config.sample "b" interleaved.state := by
  have hrun : Threads.Runs (Meanwhile Config.sample) (fun _ _ => True)
      (provisioning Config.sample (fun i => .sample (if i then "b" else "a")) Host.unprovisioned)
      interleaved := Threads.schedule_runs _ _ _ _
  have htied : Tied Config.sample (Set.range fun i : Bool =>
      (CreateClientAdminUserCommand.sample (if i then "b" else "a")).clientCode)
      Host.unprovisioned := tied_start (by decide)
  have hreturned : ∀ i, interleaved.Returned i := by decide +kernel
  obtain ⟨_, ha⟩ := hreturned false
  obtain ⟨_, hb⟩ := hreturned true
  have hprovisioned := succeeded_runs_provisioned hrun htied ha
  have hprovisioned' := succeeded_runs_provisioned hrun htied hb
  exact ⟨hprovisioned, hprovisioned'⟩

end NestUserService.Tenant
