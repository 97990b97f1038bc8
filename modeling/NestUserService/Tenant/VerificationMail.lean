import NestUserService.Auth.Handlers
import NestUserService.Tenant.Signup

/-!
# The mail for a new user

The event for the verification mail is published before the user is stored. So it refers
to a stored user exactly when the writes that are still to come take place.
-/

namespace NestUserService.Tenant.VerificationMail

open Lib NestUserService.Core

variable {env : Config} {c : String} {user : User} {s : Host}

/-- The name of the database that the root row of the code points to. -/
def tenantName (env : Config) (c : String) (s : Host) : Option String :=
  ((s.client.findFirst fun row => row.clientCode == c).bind Client.dbUrl).map env.databaseOf

def tenantUsers (env : Config) (c : String) (s : Host) : List User :=
  match tenantName env c s with
  | some name => (s.tables name).2.rows
  | none => []

/-- The events that were published refer to users of the tenants that their codes decrypt to. -/
def MailsStored (env : Config) (secret : Core.Env) (s s' : Host) : Prop :=
  ∀ e ∈ s'.published.drop s.published.length, ∃ c,
    Auth.decryptClientCode secret (.string e.encryptedClientCode) = .ok c ∧
    ∃ u ∈ tenantUsers env c s', u.email = e.email ∧ u.signupVerifyToken = e.signupVerifyToken

/-- The tenant has a user with the address and the token. -/
def Stored (env : Config) (c : String) (user : User) (s : Host) : Prop :=
  ∃ u ∈ tenantUsers env c s, u.email = user.email ∧ u.signupVerifyToken = user.signupVerifyToken

/-- The database takes the write, which is the operation with the given number; the answer
may be lost. -/
def Accepts (env : Config) (f : TenantDb → Except Exn TenantDb) (db : TenantDb) (n : Nat) : Prop :=
  (∃ db', f db = .ok db') ∧
    (env.fault n).all (fun fault => decide (fault.progress ≠ 0)) = true

/-- What has to hold right after the event, for the user to be stored. -/
def Storable (env : Config) (draft : Draft) (s : Host) : Prop :=
  ∃ url n db, connection env draft.clientCode s = some (.text url, n) ∧
    tenantName env draft.clientCode s = some (env.databaseOf url) ∧
    s.databases (env.databaseOf url) = some db ∧
    match draft.clientRow with
    | none => Accepts env (TenantDb.createUser draft.user) db n
    | some row => env.fault n = none ∧ ∃ db', TenantDb.createClient row db = .ok db' ∧
      Accepts env (TenantDb.createUser draft.user) db' (n + 1)

/-- The connection for the code is made, and its database takes the write. -/
def Lands (env : Config) (c : String) (f : TenantDb → Except Exn TenantDb) (s : Host)
    (url : String) (n : Nat) (db : TenantDb) : Prop :=
  connection env c s = some (.text url, n) ∧ s.databases (env.databaseOf url) = some db ∧
    Accepts env f db n

theorem writeTenantDb_text {client : PrismaClient} {url : String} (hurl : client.url = .text url)
    {f : TenantDb → Except Exn TenantDb} {db : TenantDb}
    (hdb : s.databases (env.databaseOf url) = some db) :
    writeTenantDb env client f s = (f db).map (s.setDatabase (env.databaseOf url)) := by
  unfold writeTenantDb
  rw [hurl]
  dsimp only
  rw [hdb]

theorem run_onTenant_none (f : TenantDb → Except Exn TenantDb) (h : connection env c s = none) :
    ∃ e t, Async.run (onTenant env c f) s = .error e t ∧ Untouched s t := by
  have huntouched := Untouched.getPrismaClientByCode env c s
  obtain ⟨e, t, hrun⟩ := (follows_getPrismaClientByCode env c s).2 h
  rw [hrun] at huntouched
  refine ⟨e, t, ?_, huntouched⟩
  unfold onTenant
  rw [Async.run_bind, hrun]

/-- Over a connection, all that is left is the write. -/
theorem run_onTenant_some (f : TenantDb → Except Exn TenantDb) {url : CacheValue} {n : Nat}
    (h : connection env c s = some (url, n)) :
    ∃ client t, Async.run (onTenant env c f) s = change env (writeTenantDb env client f) t ∧
      client.url = url ∧ t.operations = n ∧ t.clientMap.get? c = some client ∧ Untouched s t := by
  have huntouched := Untouched.getPrismaClientByCode env c s
  obtain ⟨client, t, hrun, hurl, hn, hmap⟩ := (follows_getPrismaClientByCode env c s).1 url n h
  rw [hrun] at huntouched
  refine ⟨client, t, ?_, hurl, hn, hmap, huntouched⟩
  unfold onTenant
  rw [Async.run_bind, hrun]
  exact Async.run_await _ _

/-- A write changes the database that the connection is for, or nothing. -/
theorem final_onTenant (env : Config) (c : String) (s : Host) (f : TenantDb → Except Exn TenantDb) :
    (finalState (Async.run (onTenant env c f) s)).client = s.client ∧
    ((∃ url n db db', Lands env c f s url n db ∧ f db = .ok db' ∧
        (finalState (Async.run (onTenant env c f) s)).databases =
          Function.update s.databases (env.databaseOf url) (some db')) ∨
      (∀ url n db, ¬ Lands env c f s url n db) ∧
        (finalState (Async.run (onTenant env c f) s)).databases = s.databases) := by
  cases hconn : connection env c s with
  | none =>
    obtain ⟨e, t, hend, huntouched⟩ := run_onTenant_none f hconn
    rw [hend]
    refine ⟨huntouched.client, Or.inr ⟨fun url n db h => ?_, huntouched.databases⟩⟩
    rw [Lands, hconn] at h
    cases h.1
  | some p =>
    obtain ⟨url, n⟩ := p
    obtain ⟨client, t, hend, hurl, hn, -, huntouched⟩ := run_onTenant_some f hconn
    have hdbs : t.count.databases = s.databases := huntouched.databases
    rw [hend, finalState_change, hn]
    by_cases hfault : (env.fault n).all (fun fault => decide (fault.progress ≠ 0)) = true
    · rw [if_pos hfault]
      cases hwrite : writeTenantDb env client f t.count with
      | ok t' =>
        obtain ⟨u, db, db', hu, hdb, hf, rfl⟩ := writeTenantDb_ok hwrite
        rw [hurl] at hu
        rw [hdbs] at hdb
        refine ⟨huntouched.client, Or.inl ⟨u, n, db, db', ?_, hf, ?_⟩⟩
        · exact ⟨by rw [hconn, hu], hdb, ⟨db', hf⟩, hfault⟩
        · show Function.update t.count.databases _ _ = _
          rw [hdbs]
      | error e =>
        refine ⟨huntouched.client, Or.inr ⟨fun u m db h => ?_, huntouched.databases⟩⟩
        obtain ⟨hc, hdb, ⟨db', hf⟩, -⟩ := h
        rw [hconn, Option.some.injEq, Prod.mk.injEq] at hc
        rw [← hdbs] at hdb
        rw [writeTenantDb_text (hurl.trans hc.1) hdb, hf] at hwrite
        cases hwrite
    · rw [if_neg hfault]
      refine ⟨huntouched.client, Or.inr ⟨fun u m db h => ?_, huntouched.databases⟩⟩
      obtain ⟨hc, -, -, hall⟩ := h
      rw [hconn, Option.some.injEq, Prod.mk.injEq] at hc
      rw [← hc.2] at hall
      exact hfault hall

/-- When a write returns, the next one has the same connection. -/
theorem onTenant_returned {f : TenantDb → Except Exn TenantDb} {t : Host}
    (h : Async.run (onTenant env c f) s = .ok () t) :
    ∃ url n db db', connection env c s = some (.text url, n) ∧
      s.databases (env.databaseOf url) = some db ∧ f db = .ok db' ∧ env.fault n = none ∧
      t.client = s.client ∧
      t.databases = Function.update s.databases (env.databaseOf url) (some db') ∧
      connection env c t = some (.text url, n + 1) := by
  cases hconn : connection env c s with
  | none =>
    obtain ⟨e, t₂, hfailed, -⟩ := run_onTenant_none f hconn
    rw [h] at hfailed
    cases hfailed
  | some p =>
    obtain ⟨url, n⟩ := p
    obtain ⟨client, t₁, hwrite, hurl, hn, hmap, huntouched⟩ := run_onTenant_some f hconn
    rw [h] at hwrite
    have hok := change_ok hwrite.symm
    have hfault : env.fault n = none := by
      cases hf : env.fault n with
      | none => rfl
      | some fault =>
        unfold change attempt at hwrite
        rw [hn, hf] at hwrite
        cases hwrite
    obtain ⟨u, db, db', hu, hdb, hf, rfl⟩ := writeTenantDb_ok hok
    rw [hurl] at hu
    subst hu
    have hdbs : t₁.count.databases = s.databases := huntouched.databases
    rw [hdbs] at hdb
    refine ⟨u, n, db, db', rfl, hdb, hf, hfault, huntouched.client, ?_, ?_⟩
    · show Function.update t₁.count.databases _ _ = _
      rw [hdbs]
    · have hmap' : (t₁.count.setDatabase (env.databaseOf u) db').clientMap.get? c = some client := hmap
      unfold connection
      rw [hmap']
      dsimp only
      rw [hurl, ← hn]
      rfl

theorem onTenant_returns {f : TenantDb → Except Exn TenantDb} {url : String} {n : Nat}
    {db db' : TenantDb} (hconn : connection env c s = some (.text url, n))
    (hdb : s.databases (env.databaseOf url) = some db) (hf : f db = .ok db')
    (hfault : env.fault n = none) : ∃ t, Async.run (onTenant env c f) s = .ok () t := by
  obtain ⟨client, t, hend, hurl, hn, -, huntouched⟩ := run_onTenant_some f hconn
  have hdb' : t.count.databases (env.databaseOf url) = some db := by
    rw [← hdb]
    exact congrFun huntouched.databases _
  refine ⟨t.count.setDatabase (env.databaseOf url) db', ?_⟩
  rw [hend]
  unfold change attempt
  rw [hn, hfault]
  dsimp only
  rw [writeTenantDb_text hurl hdb', hf]
  rfl

theorem tenantUsers_congr {t : Host} (hc : t.client = s.client)
    (hu : ∀ name, (t.tables name).2 = (s.tables name).2) :
    tenantUsers env c t = tenantUsers env c s := by
  unfold tenantUsers tenantName
  rw [hc]
  split
  · rw [hu]
  · rfl

theorem stored_congr {t : Host} (hc : t.client = s.client)
    (hu : ∀ name, (t.tables name).2 = (s.tables name).2) :
    Stored env c user t ↔ Stored env c user s := by
  unfold Stored
  rw [tenantUsers_congr hc hu]

/-- The row of the client is no user. -/
theorem stored_createClient (row : Client) :
    Stored env c user (finalState (Async.run (onTenant env c (TenantDb.createClient row)) s)) ↔
      Stored env c user s := by
  obtain ⟨hclient, ⟨url, n, db, db', ⟨-, hdb, -⟩, hf, hdbs⟩ | ⟨-, hdbs⟩⟩ :=
    final_onTenant env c s (TenantDb.createClient row)
  · refine stored_congr hclient fun name => ?_
    obtain ⟨-, -, t, -, rfl⟩ := createClient_ok.mp hf
    rw [Host.tables_update hdbs]
    split
    · rename_i hname
      rw [hname, Host.tables_of_some hdb]
    · rfl
  · exact stored_congr hclient fun name => by rw [Host.tables_congr hdbs]

/-- The write of the user stores it, if it reaches the database of the tenant. -/
theorem stored_createUser :
    Stored env c user (finalState (Async.run (onTenant env c (TenantDb.createUser user)) s)) ↔
      Stored env c user s ∨ ∃ url n db, Lands env c (TenantDb.createUser user) s url n db ∧
        tenantName env c s = some (env.databaseOf url) := by
  obtain ⟨hclient, ⟨url, n, db, db', hlands, hf, hdbs⟩ | ⟨hnone, hdbs⟩⟩ :=
    final_onTenant env c s (TenantDb.createUser user)
  · have hname : tenantName env c
        (finalState (Async.run (onTenant env c (TenantDb.createUser user)) s)) = tenantName env c s := by
      unfold tenantName
      rw [hclient]
    obtain ⟨-, -, -, rows, hcreate, rfl⟩ := createUser_ok.mp hf
    by_cases hown : tenantName env c s = some (env.databaseOf url)
    · refine iff_of_true ⟨user, ?_, rfl, rfl⟩ (Or.inr ⟨url, n, db, hlands, hown⟩)
      unfold tenantUsers
      rw [hname, hown]
      dsimp only
      rw [Host.tables_update hdbs, if_pos rfl]
      exact Table.mem_create hcreate
    · have hsame : tenantUsers env c
          (finalState (Async.run (onTenant env c (TenantDb.createUser user)) s)) =
            tenantUsers env c s := by
        unfold tenantUsers
        rw [hname]
        split
        · rename_i name htenant
          rw [Host.tables_update hdbs, if_neg]
          intro he
          exact hown (htenant.trans (congrArg some he))
        · rfl
      unfold Stored
      rw [hsame]
      refine ⟨Or.inl, fun h => h.resolve_right ?_⟩
      rintro ⟨url', n', db', ⟨hconn, -⟩, hown'⟩
      rw [hlands.1, Option.some.injEq, Prod.mk.injEq, CacheValue.text.injEq] at hconn
      rw [← hconn.1] at hown'
      exact hown hown'
  · rw [stored_congr hclient fun name => by rw [Host.tables_congr hdbs]]
    refine ⟨Or.inl, fun h => h.resolve_right ?_⟩
    rintro ⟨url, n, db, hlands, -⟩
    exact hnone url n db hlands

/-- After the event, the user is stored exactly when nothing is in the way of the writes. -/
theorem stored_store (draft : Draft) :
    Stored env draft.clientCode draft.user (finalState (Async.run (draft.store env) s)) ↔
      Stored env draft.clientCode draft.user s ∨ Storable env draft s := by
  unfold Draft.store Draft.storeClient Storable
  cases draft.clientRow with
  | none =>
    rw [Async.pure_bind, stored_createUser]
    refine or_congr_right ⟨?_, ?_⟩
    · rintro ⟨url, n, db, ⟨hconn, hdb, haccepts⟩, hname⟩
      exact ⟨url, n, db, hconn, hname, hdb, haccepts⟩
    · rintro ⟨url, n, db, hconn, hname, hdb, haccepts⟩
      exact ⟨url, n, db, ⟨hconn, hdb, haccepts⟩, hname⟩
  | some row =>
    dsimp only
    have hclient : Stored env draft.clientCode draft.user (finalState (Async.run
        (onTenant env draft.clientCode (TenantDb.createClient row)) s)) ↔
          Stored env draft.clientCode draft.user s := stored_createClient row
    rw [Async.run_bind]
    cases hrun : Async.run (onTenant env draft.clientCode (TenantDb.createClient row)) s with
    | error e t =>
      rw [hrun, finalState_error] at hclient
      rw [finalState_error, hclient]
      refine ⟨Or.inl, fun h => h.resolve_right ?_⟩
      rintro ⟨url, n, db, hconn, -, hdb, hfault, db', hf, -⟩
      obtain ⟨t', hok⟩ := onTenant_returns hconn hdb hf hfault
      rw [hrun] at hok
      cases hok
    | ok _ t =>
      rw [hrun, finalState_ok] at hclient
      obtain ⟨url, n, db, db', hconn, hdb, hf, hfault, hrows, hdbs, hagain⟩ :=
        onTenant_returned hrun
      have hname : tenantName env draft.clientCode t = tenantName env draft.clientCode s := by
        unfold tenantName
        rw [hrows]
      have hdb' : t.databases (env.databaseOf url) = some db' := by
        rw [hdbs]
        exact Function.update_self ..
      dsimp only
      rw [stored_createUser, hclient, hname]
      refine or_congr_right ⟨?_, ?_⟩
      · rintro ⟨url', n', db₁, ⟨hconn', hdb₁, haccepts⟩, hown⟩
        rw [hagain, Option.some.injEq, Prod.mk.injEq, CacheValue.text.injEq] at hconn'
        obtain ⟨rfl, rfl⟩ := hconn'
        rw [hdb'] at hdb₁
        cases hdb₁
        exact ⟨url, n, db, hconn, hown, hdb, hfault, db', hf, haccepts⟩
      · rintro ⟨url', n', db₁, hconn', hown, hdb₁, -, db₂, hf', haccepts⟩
        rw [hconn, Option.some.injEq, Prod.mk.injEq, CacheValue.text.injEq] at hconn'
        obtain ⟨rfl, rfl⟩ := hconn'
        rw [hdb] at hdb₁
        cases hdb₁
        rw [hf] at hf'
        cases hf'
        exact ⟨url, n + 1, db', ⟨hagain, hdb', haccepts⟩, hown⟩

def Silent (s t : Host) : Prop := t.published = s.published

theorem tolerant_silent : Tolerant Silent :=
  ⟨fun _ => rfl, fun _ _ _ h h' => h'.trans h, fun _ => rfl⟩

theorem silent_builds {x : HostApp Unit} (h : Async.Guarantees Builds (fun _ => True) x) :
    Async.Guarantees Silent (fun _ => True) x :=
  h.mono (fun _ _ hs => hs.published) fun _ => id

theorem silent_ulid : Async.Guarantees Silent (fun _ => True) (Async.await (ulid env)) :=
  Tolerant.awaited fun _ => rfl

theorem silent_token :
    Async.Guarantees Silent (fun _ => True) (Async.await (signupVerifyTokenCreate env)) :=
  Tolerant.awaited fun _ => rfl

theorem silent_hash (password : String) :
    Async.Guarantees Silent (fun _ => True) (Async.await (hashPassword env password)) :=
  Tolerant.awaited fun _ => tolerant_silent.external rfl

theorem silent_find (code : String) :
    Async.Guarantees Silent (fun _ => True) (Async.await (findClientByCode env code)) :=
  Tolerant.awaited fun _ => tolerant_silent.external rfl

theorem silent_updateClient (clientId : String) (dto : UpdateClientDbDto) :
    Async.Guarantees Silent (fun _ => True) (Async.await (updateClient env clientId dto)) := by
  refine Tolerant.awaited fun s => tolerant_silent.change fun t h => ?_
  unfold updateClientRow at h
  split at h
  · split at h
    · cases h
      rfl
    · cases h
  · cases h

theorem silent_draftAdminOf (command : CreateClientAdminUserCommand) (client : Client) :
    Async.Guarantees Silent (fun draft => draft.clientCode = client.clientCode)
      (draftAdminOf env command client) := by
  have hmigrate : Async.Guarantees Silent (fun _ => True)
      (runPrismaMigrate env (tenantDbUrl env command.clientCode) command.clientCode) :=
    silent_builds (builds_runPrismaMigrate _ _)
  unfold draftAdminOf
  refine (silent_builds (builds_createDatabase _)).bind fun _ _ => ?_
  refine (guarantees_registerEnvKey tolerant_silent fun _ => rfl).bind fun _ _ => ?_
  refine (hmigrate.handle fun _ => Async.Guarantees.throw _).bind fun _ _ => ?_
  refine hmigrate.bind fun _ _ => silent_ulid.bind fun id _ => ?_
  refine (silent_hash _).bind fun password _ => silent_token.bind fun token _ => ?_
  exact (silent_updateClient _ _).bind fun _ _ => Async.Guarantees.pure rfl

theorem silent_draftAdminFor (command : CreateClientAdminUserCommand)
    (clientExists : Option Client) :
    Async.Guarantees Silent
      (fun draft => ∃ client, clientExists = some client ∧ draft.clientCode = client.clientCode)
      (draftAdminFor env command clientExists) := by
  cases clientExists with
  | none => exact Async.Guarantees.throw _
  | some client =>
    refine Async.Guarantees.ite (fun _ => Async.Guarantees.throw _) fun _ => ?_
    refine Async.Guarantees.ite (fun _ => ?_) fun _ => Async.Guarantees.throw _
    exact (silent_draftAdminOf command client).mono (fun _ _ h => h)
      fun draft h => ⟨client, rfl, h⟩

theorem silent_draftUser (command : CreateClientUserCommand) :
    Async.Guarantees Silent (fun draft => draft.clientCode = command.clientCode)
      (draftUser env command) := by
  refine (silent_find _).bind fun client _ => ?_
  cases client with
  | none => exact Async.Guarantees.throw _
  | some client =>
    refine Async.Guarantees.ite (fun _ => ?_) fun _ => Async.Guarantees.throw _
    refine silent_ulid.bind fun id _ => (silent_hash _).bind fun password _ => ?_
    exact silent_token.bind fun token _ => Async.Guarantees.pure rfl

/-- Before the event nothing is published, and the draft is for the code of the command. -/
theorem draft_silent (signup : Signup) :
    Silent s (finalState (Async.run (signup.draft env) s)) ∧
      ∀ draft t, Async.run (signup.draft env) s = .ok draft t → draft.clientCode = signup.clientCode := by
  cases signup with
  | clientUser command =>
    have h := @silent_draftUser env command
    exact ⟨h.run tolerant_silent.refl tolerant_silent.trans s, fun draft t hrun => h.value hrun⟩
  | clientAdmin command =>
    refine ⟨tolerant_silent.run_bind ?_ fun clientExists t _ => ?_, fun draft t hrun => ?_⟩
    · exact (silent_find command.clientCode).run tolerant_silent.refl tolerant_silent.trans s
    · exact (silent_draftAdminFor command clientExists).run tolerant_silent.refl
        tolerant_silent.trans t
    · obtain ⟨clientExists, s', hfind, hrest⟩ := Async.run_bind_ok hrun
      obtain ⟨client, rfl, hcode⟩ := (silent_draftAdminFor command clientExists).value hrest
      rw [Async.run_await] at hfind
      have hfound := external_ok hfind
      rw [EStateM.Result.ok.injEq] at hfound
      exact hcode.trans (beq_iff_eq.mp (Table.findFirst_mem hfound.1).2)

/-- The event that goes with a draft. -/
def Announces (env : Config) (signup : Signup) (s : Host) (draft : Draft) (t : Host) : Prop :=
  draft.clientCode = signup.clientCode ∧
    ∃ enc n, env.encryptClientCode signup.clientCode = .ok enc ∧ t.published =
      s.published ++ [⟨draft.user.email, enc n, draft.user.signupVerifyToken⟩]

theorem announces (signup : Signup) {draft : Draft} {t : Host}
    (h : Async.run (signup.announce env) s = .ok draft t) : Announces env signup s draft t := by
  obtain ⟨draft', s', hdraft, hrest⟩ := Async.run_bind_ok h
  obtain ⟨_, t', hpublish, hret⟩ := Async.run_bind_ok hrest
  cases hret
  obtain ⟨hsilent, hcode⟩ := @draft_silent env s signup
  rw [hdraft] at hsilent
  have hsame : s'.published = s.published := hsilent
  rw [Async.run_await] at hpublish
  unfold publishUserCreated at hpublish
  cases henc : env.encryptClientCode signup.clientCode with
  | error e =>
    rw [henc] at hpublish
    cases hpublish
  | ok enc =>
    rw [henc] at hpublish
    cases hpublish
    refine ⟨hcode draft _ hdraft, enc, s'.draws, henc, ?_⟩
    change s'.published ++ _ = _
    rw [hsame]

/-- A run that fails before the event, or with it, publishes nothing. -/
theorem announce_failed (signup : Signup) {e : Exn} {t : Host}
    (h : Async.run (signup.announce env) s = .error e t) : Silent s t := by
  have hsilent := (@draft_silent env s signup).1
  unfold Signup.announce at h
  rw [Async.run_bind] at h
  cases hdraft : Async.run (signup.draft env) s with
  | error e' t' =>
    rw [hdraft] at h hsilent
    cases h
    exact hsilent
  | ok draft t' =>
    rw [hdraft] at h hsilent
    dsimp only at h
    rw [Async.run_bind, Async.run_await] at h
    unfold publishUserCreated at h
    cases henc : env.encryptClientCode signup.clientCode with
    | error e' =>
      rw [henc] at h
      cases h
      exact hsilent
    | ok enc =>
      rw [henc] at h
      cases h

theorem silent_onTenant (f : TenantDb → Except Exn TenantDb) (s : Host) :
    Silent s (finalState (Async.run (onTenant env c f) s)) := by
  refine tolerant_silent.run_bind ?_ fun client t _ => ?_
  · refine run_getPrismaClientByCode tolerant_silent.refl tolerant_silent.trans ?_ s
    intro pc s pc' s' hmove
    cases hmove with
    | stored =>
      obtain ⟨m, l, d, hframe⟩ := makeRoom_frame env s
      unfold cacheClient
      rw [hframe]
      rfl
    | hit => rfl
    | miss => rfl
    | cached => rfl
    | uncached => rfl
    | found => rfl
    | filled => rfl
    | loaded => rfl
    | opened => rfl
    | failed => rfl
  · rw [Async.run_await]
    refine tolerant_silent.change fun t' h => ?_
    obtain ⟨url, db, db', -, -, -, rfl⟩ := writeTenantDb_ok h
    rfl

theorem silent_store (draft : Draft) (s : Host) :
    Silent s (finalState (Async.run (draft.store env) s)) := by
  refine tolerant_silent.run_bind ?_ fun _ t _ => silent_onTenant _ t
  unfold Draft.storeClient
  cases draft.clientRow with
  | none => rfl
  | some row => exact silent_onTenant _ s

/-- A code can be decrypted again. -/
def RoundTrip (env : Config) (secret : Core.Env) (code : String) : Prop :=
  ∀ enc n, env.encryptClientCode code = .ok enc →
    Auth.decryptClientCode secret (.string (enc n)) = .ok code

/-- For every execution of one of the two handlers: what it publishes refers to a stored user
exactly when, in the state right after the event, there is such a user already or the
writes that follow take place. -/
theorem mails_stored_iff (env : Config) (secret : Core.Env) (signup : Signup) (s : Host)
    (hround : RoundTrip env secret signup.clientCode) :
    MailsStored env secret s (finalState (Async.run (signup.execute env) s)) ↔
      ∀ draft t, Async.run (signup.announce env) s = .ok draft t →
        Stored env draft.clientCode draft.user t ∨ Storable env draft t := by
  rw [Signup.execute_eq, Async.run_bind]
  cases hrun : Async.run (signup.announce env) s with
  | error e t =>
    have hsilent : t.published = s.published := announce_failed signup hrun
    refine iff_of_true (fun e' he' => ?_) fun draft t' h => by cases h
    rw [finalState_error, hsilent, List.drop_length] at he'
    cases he'
  | ok draft t =>
    obtain ⟨hcode, enc, n, henc, hpublished⟩ := announces signup hrun
    have hsilent : (finalState (Async.run (draft.store env) t)).published = t.published :=
      silent_store draft t
    have hstored := @stored_store env t draft
    have hall : MailsStored env secret s (finalState (Async.run (draft.store env) t)) ↔
        Stored env draft.clientCode draft.user (finalState (Async.run (draft.store env) t)) := by
      unfold MailsStored Stored
      rw [hsilent, hpublished, List.drop_left, List.forall_mem_singleton, hround enc n henc, hcode]
      constructor
      · rintro ⟨c, hc, hu⟩
        cases hc
        exact hu
      · exact fun hu => ⟨_, rfl, hu⟩
    refine (hall.trans hstored).trans ⟨fun h draft' t' heq => ?_, fun h => h draft t rfl⟩
    cases heq
    exact h

def mailConfig : Config :=
  { Config.sample with encryptClientCode := fun code => .ok fun _ => "iv:" ++ code }

theorem roundTrip_a : RoundTrip mailConfig Core.Env.sample "a" := by
  intro enc n h
  cases h
  have htext : "iv:" ++ "a" = "iv:a" := by decide
  dsimp only
  rw [htext]
  rfl

/-- A database with all tables, for the client `a` and the sample user. -/
def tenantDb : TenantDb where
  applied := migrations.length
  failed := false
  client := .singleton (Client.provisioned "a")
  user := .singleton User.sample

def tenantHost : Host :=
  { Host.sample with databases := fun name => if name = "client_a" then some tenantDb else none }

def signupAs (email : String) : Signup :=
  .clientUser { name := "Lee", email, password := "secret", clientCode := "a" }

/-- What is published for a new address. -/
theorem mails_stored_new_address :
    MailsStored mailConfig Core.Env.sample tenantHost
      (finalState (Async.run ((signupAs "lee@example.com").execute mailConfig) tenantHost)) := by
  refine (mails_stored_iff mailConfig Core.Env.sample (signupAs "lee@example.com") tenantHost
    roundTrip_a).mpr fun draft t h => Or.inr ?_
  cases h
  have hstored : ∃ db', TenantDb.createUser (createUserDbModel ⟨"Lee", "lee@example.com", "secret", "a"⟩
      "ulid-0" "bcrypt-1-secret" "uuid-2" "id-a") tenantDb = .ok db' :=
    ⟨_, createUser_ok.mpr ⟨by decide, by decide, by decide, _, Table.create_of_vacant (by decide), rfl⟩⟩
  exact ⟨"mysql://db:3306/client_a", _, tenantDb, rfl, rfl, rfl, hstored, rfl⟩

/-- The address of the sample user is taken. -/
theorem mail_for_taken_address :
    ¬ MailsStored mailConfig Core.Env.sample tenantHost
      (finalState (Async.run ((signupAs User.sample.email).execute mailConfig) tenantHost)) := by
  intro h
  have hpublished : (finalState (Async.run ((signupAs User.sample.email).execute mailConfig)
      tenantHost)).published = [⟨User.sample.email, "iv:a", "uuid-2"⟩] := by decide +kernel
  obtain ⟨c, hc, u, hu, -, htoken⟩ := h ⟨User.sample.email, "iv:a", "uuid-2"⟩ (by
    rw [hpublished]
    exact List.mem_singleton.mpr rfl)
  have hcode : Auth.decryptClientCode Core.Env.sample (.string "iv:a") = .ok "a" := rfl
  rw [hcode, Except.ok.injEq] at hc
  subst hc
  have husers : tenantUsers mailConfig "a" (finalState (Async.run
      ((signupAs User.sample.email).execute mailConfig) tenantHost)) = [User.sample] := by
    decide +kernel
  rw [husers, List.mem_singleton] at hu
  subst hu
  exact absurd htoken (by decide)

end NestUserService.Tenant.VerificationMail
