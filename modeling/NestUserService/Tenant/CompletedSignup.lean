import NestUserService.Tenant.SignupLedger
import NestUserService.Tenant.SingleAdmin

/-!
# Sign-ups that have returned

A handler that returns has stored its user in the database of its own client code, and the
event for the verification mail has been published. No other call takes that away again.
-/

namespace NestUserService.Tenant.CompletedSignup

open Lib NestUserService.Core SignupLedger SingleAdmin

variable {env : Config} {codes : Set String}

/-- The event for the user has been published. -/
def Announced (env : Config) (c : String) (user : User) (s : Host) : Prop :=
  ∃ encrypted n, env.encryptClientCode c = .ok encrypted ∧
    ⟨user.email, encrypted n, user.signupVerifyToken⟩ ∈ s.published

/-- The user is stored, not verified yet, and its event is published. -/
def Completed (env : Config) (signup : Signup) (s : Host) : Prop :=
  ∃ user ∈ users env signup.clientCode s, NewUser env signup user ∧
    Announced env signup.clientCode user s

def Shares (env : Config) (codes : Set String) (s s' : Host) : Prop :=
  Respects env codes s s' ∧ Accrued s s'

theorem shares_refl (s : Host) : Shares env codes s s := ⟨.refl s, .refl s⟩

theorem shares_trans (s t u : Host) (h : Shares env codes s t) (h' : Shares env codes t u) :
    Shares env codes s u :=
  ⟨h.1.trans h'.1, h.2.trans h'.2⟩

theorem stable_tied_shares : Async.Stable (Shares env codes) (Tied env codes) :=
  fun _ _ h => h.1.tied

theorem stable_announced (c : String) (user : User) :
    Async.Stable (Shares env codes) (Announced env c user) := by
  rintro s s' h ⟨encrypted, n, henc, hmem⟩
  exact ⟨encrypted, n, henc, h.2.published.subset hmem⟩

theorem stable_mem_users (c : String) (user : User) :
    Async.Stable (Shares env codes) fun s => user ∈ users env c s := by
  intro s s' h hmem
  unfold users at hmem ⊢
  cases hdb : s.databases (tenantDatabase env c) with
  | none =>
    unfold Host.tables at hmem
    rw [hdb] at hmem
    cases hmem
  | some db =>
    obtain ⟨db', hdb', hfilled⟩ := h.2.databases _ db hdb
    rw [Host.tables_of_some hdb] at hmem
    rw [Host.tables_of_some hdb']
    obtain ⟨user', hmem', rfl⟩ := hfilled.user.target hmem
    exact hmem'

theorem stable_completed (signup : Signup) :
    Async.Stable (Shares env codes) (Completed env signup) := by
  rintro s s' h ⟨user, hmem, hnew, hannounced⟩
  exact ⟨user, stable_mem_users _ user s s' h hmem, hnew, stable_announced _ user s s' h hannounced⟩

theorem respects_quiet {α : Type} {x : HostSync α}
    (hx : ∀ s, ∃ draws, finalState (x s) = { s with draws }) (s : Host) :
    Respects env codes s (finalState (x s)) := by
  obtain ⟨draws, h⟩ := hx s
  rw [h]
  exact .quiet s _ _ _ _ _

theorem respects_ulid (s : Host) : Respects env codes s (finalState (ulid env s)) :=
  respects_quiet (fun _ => ⟨_, rfl⟩) s

theorem respects_signupVerifyTokenCreate (s : Host) :
    Respects env codes s (finalState (signupVerifyTokenCreate env s)) :=
  respects_quiet (fun _ => ⟨_, rfl⟩) s

theorem respects_hashPassword (password : String) (s : Host) :
    Respects env codes s (finalState (hashPassword env password s)) :=
  Respects.tolerant.external (.quiet s.count _ _ _ _ _)

/-- The row that is found is the one of the code. -/
theorem safe_findClientByCode (c : String) {s : Host} (ht : Tied env codes s) :
    Async.Safe (Respects env codes)
      (fun found s => ∀ client, found = some client →
        client.clientCode = c ∧ KnowsRow env codes client s)
      (Async.await (findClientByCode env c)) s := by
  refine Async.Safe.await fun s' hr => ⟨Respects.tolerant.external (.refl _), ?_⟩
  intro found t hfound client hclient
  cases external_ok hfound
  have hmem := Table.findFirst_mem hclient
  exact ⟨by simpa using hmem.2, (Respects.tolerant.count s').tied (hr.tied ht),
    rowIs_of_mem hmem.1⟩

theorem safe_draftUser (command : CreateClientUserCommand) {s : Host} (ht : Tied env codes s) :
    Async.Safe (Respects env codes)
      (fun draft s => draft.clientCode = command.clientCode ∧ Tied env codes s)
      (draftUser env command) s := by
  have hawait {α : Type} {x : HostSync α} {s : Host} (hs : Tied env codes s)
      (hx : ∀ s, Respects env codes s (finalState (x s))) :
      Async.Safe (Respects env codes) (fun _ => Tied env codes) (Async.await x) s :=
    Async.Safe.await_keeps stable_tied hs fun s _ => hx s
  refine ((safe_findClientByCode command.clientCode ht).frame stable_tied ht).bind
    fun found s h => ?_
  cases found with
  | none => exact Async.Safe.throw _ s
  | some client =>
    dsimp only
    split
    · refine (hawait h.2 respects_ulid).bind fun id s hs => ?_
      refine (hawait hs (respects_hashPassword _)).bind fun password s hs => ?_
      refine (hawait hs respects_signupVerifyTokenCreate).bind fun token s hs => ?_
      exact Async.Safe.pure ⟨rfl, hs⟩
    · exact Async.Safe.throw _ s

theorem safe_draftAdminOf {command : CreateClientAdminUserCommand} {client : Client}
    (hcode : client.clientCode = command.clientCode) {s : Host}
    (hs : KnowsRow env codes client s) :
    Async.Safe (Respects env codes)
      (fun draft s => draft.clientCode = command.clientCode ∧ Tied env codes s)
      (draftAdminOf env command client) s := by
  have hawait {α : Type} {x : HostSync α} {s : Host} (hs : KnowsRow env codes client s)
      (hx : ∀ s, KnowsRow env codes client s → Respects env codes s (finalState (x s))) :
      Async.Safe (Respects env codes) (fun _ => KnowsRow env codes client) (Async.await x) s :=
    Async.Safe.await_keeps (stable_knowsRow client) hs hx
  have hkeeps {x : HostApp Unit} {s : Host} (hs : KnowsRow env codes client s)
      (hx : Async.Guarantees (Respects env codes) (fun _ => True) x) :
      Async.Safe (Respects env codes) (fun _ => KnowsRow env codes client) x s :=
    hx.keeps (stable_knowsRow client) hs
  have hbuilds {x : HostApp Unit} (hx : Async.Guarantees Builds (fun _ => True) x) :
      Async.Guarantees (Respects env codes) (fun _ => True) x :=
    hx.mono (fun _ _ h => .works h.toWorks) fun _ => id
  have hmigrate : Async.Guarantees (Respects env codes) (fun _ => True)
      (runPrismaMigrate env (tenantDbUrl env command.clientCode) command.clientCode) :=
    hbuilds (builds_runPrismaMigrate _ _)
  have hupdate (s : Host) (hs : KnowsRow env codes client s) : Respects env codes s
      (finalState (updateClient env client.id (updateClientDbDto env command) s)) :=
    Respects.tolerant.change fun s' hok =>
      respects_updateClientRow hs.2 (congrArg (tenantDbUrl env) hcode.symm) hok
  unfold draftAdminOf
  refine (hkeeps hs (hbuilds (builds_createDatabase _))).bind fun _ s hs => ?_
  refine (hkeeps hs (respects_registerEnvKey _)).bind fun _ s hs => ?_
  refine (hkeeps hs (hmigrate.handle fun _ => Async.Guarantees.throw _)).bind fun _ s hs => ?_
  refine (hkeeps hs hmigrate).bind fun _ s hs => ?_
  refine (hawait hs fun s _ => respects_ulid s).bind fun id s hs => ?_
  refine (hawait hs fun s _ => respects_hashPassword _ s).bind fun password s hs => ?_
  refine (hawait hs fun s _ => respects_signupVerifyTokenCreate s).bind fun token s hs => ?_
  exact (hawait hs hupdate).bind fun _ s hs => Async.Safe.pure ⟨hcode, hs.1⟩

theorem safe_draft (signup : Signup) {s : Host} (ht : Tied env codes s) :
    Async.Safe (Respects env codes)
      (fun draft s => draft.clientCode = signup.clientCode ∧ Tied env codes s)
      (signup.draft env) s := by
  cases signup with
  | clientUser command => exact safe_draftUser command ht
  | clientAdmin command =>
    refine (safe_findClientByCode command.clientCode ht).bind fun found s h => ?_
    cases found with
    | none => exact Async.Safe.throw _ s
    | some client =>
      obtain ⟨hcode, hs⟩ := h client rfl
      dsimp only [draftAdminFor]
      split
      · exact Async.Safe.throw _ s
      · split
        · exact safe_draftAdminOf hcode hs
        · exact Async.Safe.throw _ s

theorem respects_publish (c : String) (user : User) (s : Host) :
    Respects env codes s (finalState (publishUserCreated env c user s)) := by
  unfold publishUserCreated
  cases env.encryptClientCode c with
  | error e => exact .refl s
  | ok encrypted => exact .quiet s _ _ _ _ _

theorem safe_publish (c : String) (user : User) (s : Host) :
    Async.Safe (Shares env codes) (fun _ => Announced env c user)
      (Async.await (publishUserCreated env c user)) s := by
  refine Async.Safe.await fun s' _ => ⟨⟨respects_publish c user s', accrued_publish c user s'⟩, ?_⟩
  intro _ t hpublished
  unfold publishUserCreated at hpublished
  cases henc : env.encryptClientCode c with
  | error e =>
    rw [henc] at hpublished
    cases hpublished
  | ok encrypted =>
    rw [henc] at hpublished
    cases hpublished
    exact ⟨encrypted, s'.draws, henc, List.mem_append_right _ (List.mem_singleton.mpr rfl)⟩

/-- A tenant client for the code is connected to the database of the code. -/
theorem safe_tenantClient {c : String} (hc : c ∈ codes) {s : Host} (ht : Tied env codes s) :
    Async.Safe (Shares env codes) (fun client _ => client.url = .text (tenantDbUrl env c))
      (getPrismaClientByCode env c) s :=
  ((safe_getPrismaClientByCode hc ht).and_guarantees (accrues_getPrismaClientByCode env c)).mono
    fun _ _ h => h.1.1

theorem safe_storeClient {signup : Signup} (hc : signup.clientCode ∈ codes) {draft : Draft}
    (hcode : draft.clientCode = signup.clientCode) {s : Host} (ht : Tied env codes s) :
    Async.Safe (Shares env codes) (fun _ _ => True) (draft.storeClient env) s := by
  unfold Draft.storeClient
  cases draft.clientRow with
  | none => exact Async.Safe.pure trivial
  | some row =>
    refine (safe_tenantClient (hcode ▸ hc) ht).bind fun client s _ => ?_
    refine Async.Safe.await fun s' _ => ⟨⟨?_, ?_⟩, fun _ _ _ => trivial⟩
    · exact Respects.tolerant.change fun t hok =>
        .works (works_writeTenantDb (fun _ _ => createClient_applied) hok)
    · exact Accrued.tolerant.change fun t hok => accrued_createClient hok

theorem safe_storeUser {c : String} (hc : c ∈ codes) (user : User) {s : Host}
    (ht : Tied env codes s) :
    Async.Safe (Shares env codes) (fun _ s => user ∈ users env c s)
      (onTenant env c (TenantDb.createUser user)) s := by
  refine (safe_tenantClient hc ht).bind fun client s hurl => ?_
  refine Async.Safe.await fun s' _ => ⟨⟨?_, ?_⟩, fun _ t hok => ?_⟩
  · exact Respects.tolerant.change fun t hok =>
      .works (works_writeTenantDb (fun _ _ => createUser_applied) hok)
  · exact Accrued.tolerant.change fun t hok => accrued_createUser hok
  · rw [(writeUser hurl (change_ok hok)).2]
    exact List.mem_append_right _ (List.mem_singleton.mpr rfl)

/-- Next to calls that share the host with it, a sign-up only returns when it is complete. -/
theorem safe_execute (signup : Signup) (hc : signup.clientCode ∈ codes) {s : Host}
    (ht : Tied env codes s) :
    Async.Safe (Shares env codes) (fun _ => Completed env signup) (signup.execute env) s := by
  have hdraft : Async.Safe (Shares env codes) (fun (draft : Draft) s =>
      (draft.clientCode = signup.clientCode ∧ Tied env codes s) ∧ NewUser env signup draft.user)
      (signup.draft env) s :=
    (safe_draft signup ht).and_guarantees (accrues_draft env signup)
  rw [Signup.execute_eq]
  unfold Signup.announce
  rw [Async.bind_assoc]
  refine hdraft.bind fun draft s h => ?_
  obtain ⟨⟨hcode, ht⟩, hnew⟩ := h
  rw [Async.bind_assoc]
  refine ((safe_publish _ draft.user s).frame stable_tied_shares ht).bind fun _ s h => ?_
  rw [Async.pure_bind]
  have hstored := ((safe_storeClient hc hcode h.2).frame stable_tied_shares h.2).frame
    (stable_announced _ draft.user) h.1
  refine hstored.bind fun _ s h => ?_
  rw [hcode]
  refine ((safe_storeUser hc draft.user h.1.2).frame (stable_announced _ draft.user) h.2).mono ?_
  exact fun _ s h => ⟨draft.user, h.1, hnew, h.2⟩

section Runs

variable {ι : Type} [DecidableEq ι] {calls : ι → HostCall} {s : Host}
  {guard : Threads Host Exn Unit ι → ι → Prop} {p : Threads Host Exn Unit ι}

/-- What a call that has returned has left. -/
def Left (env : Config) : HostCall → Host → Prop
  | .signup signup => Completed env signup
  | .getPrismaClientByCode _ => fun _ => True

theorem stable_left (call : HostCall) : Async.Stable (Shares env codes) (Left env call) := by
  cases call with
  | signup signup => exact stable_completed signup
  | getPrismaClientByCode c => exact fun _ _ _ h => h

theorem safe_program (call : HostCall) (hc : call.clientCode ∈ codes) {s : Host}
    (ht : Tied env codes s) :
    Async.Safe (Shares env codes) (fun _ => Left env call) (call.program env) s := by
  cases call with
  | signup signup => exact safe_execute signup hc ht
  | getPrismaClientByCode c =>
    exact (safe_tenantClient hc ht).bind fun _ _ _ => Async.Safe.pure trivial

theorem left_of_returned
    (hp : Threads.Runs (Meanwhile env) guard (HostCall.pool env calls s) p)
    (ht : Tied env (Set.range fun i => (calls i).clientCode) s) {i : ι}
    (hret : p.rest i = .ret ()) : Left env (calls i) p.state := by
  have hsafe := hp.safe (R := Shares env (Set.range fun i => (calls i).clientCode))
    (Q := fun i _ => Left env (calls i)) shares_refl shares_trans
    (fun _ _ h => ⟨.meanwhile h, accrued_meanwhile h⟩) (fun i _ => stable_left (calls i))
    (fun i => safe_program (calls i) (Set.mem_range_self i) ht) i
  rwa [hret] at hsafe

/-- In every interleaving, whatever fails: a sign-up that has returned is complete, and it
stays so. -/
theorem returned_signup_completed
    (hp : Threads.Runs (Meanwhile env) guard (HostCall.pool env calls s) p)
    (ht : Tied env (Set.range fun i => (calls i).clientCode) s) {i : ι} {signup : Signup}
    (hi : calls i = .signup signup) (hret : p.rest i = .ret ()) :
    Completed env signup p.state := by
  have hleft := left_of_returned hp ht hret
  rwa [hi] at hleft

end Runs

theorem tied_firstSteps :
    Tied .sample (Set.range fun i => (firstCalls i).clientCode) Host.unprovisioned :=
  tied_start (by decide)

theorem first_signup_completed : Completed .sample firstSignup lastSteps.state := by
  have hreturned : lastSteps.Returned false := by decide +kernel
  obtain ⟨_, hret⟩ := hreturned
  exact returned_signup_completed (firstSteps_run.trans lastSteps_run) tied_firstSteps
    (i := false) rfl hret

end NestUserService.Tenant.CompletedSignup
