import NestUserService.Auth.IssuedPayload

/-!
# Google sign-in

The handler reads two optional records and compares them in overlapping conditions. What it
does with them is one decision; an existing user whose record fits none of the conditions
is created again, or its missing client is dereferenced.
-/

namespace NestUserService.Auth.GoogleSignIn

open Lib NestUserService.Core Shared IssuedPayload
open Tenant (Client)

/-- What `execute` does with the records it has read. -/
inductive Decision where
  | signIn (user : User)
  | create (client : Client)
  | refuse (e : Exn)

def decision (client : Option Client) (user : Option (User × Option Client)) : Decision :=
  match user.mapM (isPaidAccount client) with
  | .error e => .refuse e
  | .ok paid =>
    match user, paid with
    | some (user, _), some true => .signIn user
    | _, _ =>
      match checkClient user client with
      | .error e => .refuse e
      | .ok client => .create client

/-- The part of `execute` between the two lookups and the login. -/
def Decision.subject (env : LoginEnv) (cmd : GoogleSocialCreateOrLoginCommand) :
    Decision → App UserInfo
  | .signIn user => return User.info user
  | .create client => do
    let row ← Async.await fun w =>
      .ok (socialUser (env.createUserId w.draws) (env.signupVerifyTokenCreate w.draws) cmd client)
        { w with draws := w.draws + 1 }
    Async.await (createSocialUser env row)
    return User.info row
  | .refuse e => throw e

theorem subject_decision (env : LoginEnv) (cmd : GoogleSocialCreateOrLoginCommand)
    (user : Option (User × Option Client)) (client : Option Client) :
    socialSubject env cmd user client = (decision client user).subject env cmd := by
  unfold socialSubject decision createSocialAccount
  cases user.mapM (isPaidAccount client) with
  | error e => rfl
  | ok paid =>
    cases user with
    | none =>
      dsimp only
      cases checkClient none client <;> rfl
    | some p =>
      dsimp only
      cases paid with
      | none => cases checkClient (some p) client <;> rfl
      | some paid =>
        cases paid with
        | true => rfl
        | false => cases checkClient (some p) client <;> rfl

/-- The handler looks both records up, decides, and logs the user in. -/
theorem google_decides (env : LoginEnv) (cmd : GoogleSocialCreateOrLoginCommand) :
    googleSocialCreateOrLogin env cmd = (do
      let user ← Async.await (findUserByEmail env (.string cmd.email))
      let client ← Async.await (findByClientCode env cmd.clientCode)
      let userInfo ← (decision client user).subject env cmd
      login env.toEnv userInfo cmd.ip none none) := by
  rw [google_cut]
  have hcut : googleSubject env cmd = (do
      let user ← Async.await (findUserByEmail env (.string cmd.email))
      let client ← Async.await (findByClientCode env cmd.clientCode)
      socialSubject env cmd user client) := rfl
  rw [hcut]
  simp only [Async.bind_assoc, subject_decision]

section Decision

variable {user : User} {own client : Option Client}

/-- The records of an existing user that the conditions of the handler cover: a user
without a client is covered when the code is unknown and the user is not verified, a user of
the given client when it is verified or unpaid, and every user of another client. -/
def Covered (client : Option Client) : User × Option Client → Prop
  | (user, none) => client = none ∧ user.verified = false
  | (user, some own) =>
    client.map Client.id = some own.id → user.verified = true ∨ own.isPaid = false

theorem decision_missing (client : Option Client) :
    decision client none = match checkClient none client with
      | .error e => .refuse e
      | .ok client => .create client := rfl

theorem decision_found (client : Option Client) (p : User × Option Client) :
    decision client (some p) = match isPaidAccount client p with
      | .error e => .refuse e
      | .ok true => .signIn p.1
      | .ok false => match checkClient (some p) client with
        | .error e => .refuse e
        | .ok client => .create client := by
  unfold decision
  rw [Option.mapM_some]
  cases isPaidAccount client p with
  | error e => rfl
  | ok paid => cases paid <;> rfl

/-- A missing user is refused or created. -/
theorem decision_none (client : Option Client) :
    (∃ m, decision client none = .refuse (.unauthorized m)) ∨
      ∃ c, client = some c ∧ decision client none = .create c := by
  rw [decision_missing]
  cases client with
  | none => exact .inl ⟨_, rfl⟩
  | some c =>
    cases hpaid : c.isPaid with
    | true => exact .inr ⟨c, rfl, by simp [checkClient, hpaid]⟩
    | false =>
      have hcheck : checkClient none (some c) = .error notPaid := by simp [checkClient, hpaid]
      rw [hcheck]
      exact .inl ⟨_, rfl⟩

/-- The two lookups of one client give one row. -/
def OneRow (own client : Option Client) : Prop :=
  ∀ o c, own = some o → client = some c → o.id = c.id → o = c

theorem decision_signIn {p : User × Option Client} {client : Option Client}
    (h : isPaidAccount client p = .ok true) : decision client (some p) = .signIn p.1 := by
  rw [decision_found, h]

theorem decision_refuse {p : User × Option Client} {client : Option Client} {e : Exn}
    (h : isPaidAccount client p = .ok false) (hcheck : checkClient (some p) client = .error e) :
    decision client (some p) = .refuse e := by
  rw [decision_found, h]
  dsimp only
  rw [hcheck]

theorem decision_create {p : User × Option Client} {client : Option Client} {c : Client}
    (h : isPaidAccount client p = .ok false) (hcheck : checkClient (some p) client = .ok c) :
    decision client (some p) = .create c := by
  rw [decision_found, h]
  dsimp only
  rw [hcheck]

/-- A user of another client is refused. -/
theorem decision_other {o c : Client} (hid : o.id ≠ c.id) :
    decision (some c) (some (user, some o)) = .refuse wrongClientCode := by
  apply decision_refuse
  · simp [isPaidAccount, hid]
  · simp [checkClient, hid]

theorem decision_unpaid {o : Client} (hpaid : o.isPaid = false) :
    decision (some o) (some (user, some o)) = .refuse notPaid := by
  apply decision_refuse
  · simp [isPaidAccount, hpaid]
  · simp [checkClient, hpaid]

/-- A covered user is refused, or is signed in under the given client. -/
theorem decision_covered (hrow : OneRow own client) (h : Covered client (user, own)) :
    (∃ m, decision client (some (user, own)) = .refuse (.unauthorized m)) ∨
      ∃ c, own = some c ∧ client = some c ∧ decision client (some (user, own)) = .signIn user := by
  cases own with
  | none =>
    obtain ⟨rfl, hverified⟩ := h
    have hpaid : isPaidAccount none (user, none) = .ok false := by simp [isPaidAccount, hverified]
    exact .inl ⟨_, decision_refuse hpaid rfl⟩
  | some o =>
    cases client with
    | none => exact .inl ⟨_, decision_refuse rfl rfl⟩
    | some c =>
      by_cases hid : o.id = c.id
      · cases hrow o c rfl rfl hid
        cases hpaid : o.isPaid with
        | true =>
          have hverified : user.verified = true := (h rfl).resolve_right (by simp [hpaid])
          have haccount : isPaidAccount (some o) (user, some o) = .ok true := by
            simp [isPaidAccount, hverified, hpaid]
          exact .inr ⟨o, rfl, rfl, decision_signIn haccount⟩
        | false => exact .inl ⟨_, decision_unpaid hpaid⟩
      · exact .inl ⟨_, decision_other hid⟩

/-- A user that is not covered is created again, or a missing client is read. -/
theorem decision_uncovered (hrow : OneRow own client) (h : ¬ Covered client (user, own)) :
    (∃ c, decision client (some (user, own)) = .create c) ∨
      ∃ m, decision client (some (user, own)) = .refuse (.typeError m) := by
  cases own with
  | none =>
    right
    rw [decision_found]
    cases client with
    | none =>
      have hverified : user.verified = true := by
        by_contra hv
        exact h ⟨rfl, by simpa using hv⟩
      exact ⟨_, by simp [isPaidAccount, hverified, nullProperty]; rfl⟩
    | some c => exact ⟨_, rfl⟩
  | some o =>
    left
    have hh : client.map Client.id = some o.id ∧ ¬ (user.verified = true ∨ o.isPaid = false) :=
      Classical.not_imp.mp h
    obtain ⟨hid, hnot⟩ := hh
    obtain ⟨c, rfl, hc⟩ := Option.map_eq_some_iff.mp hid
    cases hrow o c rfl rfl hc.symm
    have hverified : user.verified = false := by
      by_contra hv
      exact hnot (.inl (by simpa using hv))
    have hpaid : o.isPaid = true := by
      by_contra hp
      exact hnot (.inr (by simpa using hp))
    have hnot : isPaidAccount (some o) (user, some o) = .ok false := by
      simp [isPaidAccount, hverified]
    have hcheck : checkClient (some (user, some o)) (some o) = .ok o := by
      simp [checkClient, hpaid]
    exact ⟨o, decision_create hnot hcheck⟩

end Decision

section Runs

variable {env : LoginEnv} {cmd : GoogleSocialCreateOrLoginCommand} {w : World}
  {user : Option (User × Option Client)} {client : Option Client}

/-- What the two lookups of a sign-in return. -/
structure Reads (env : LoginEnv) (cmd : GoogleSocialCreateOrLoginCommand) (w : World)
    (user : Option (User × Option Client)) (client : Option Client) : Prop where
  user : findUserByEmail env (.string cmd.email) w = .ok user w
  client : findByClientCode env cmd.clientCode w = .ok client w

theorem Reads.run (h : Reads env cmd w user client) :
    (googleSubject env cmd).run w = ((decision client user).subject env cmd).run w := by
  have hcut : googleSubject env cmd = (do
      let user ← Async.await (findUserByEmail env (.string cmd.email))
      let client ← Async.await (findByClientCode env cmd.clientCode)
      socialSubject env cmd user client) := rfl
  rw [hcut, ← subject_decision, Async.run_bind, Async.run_await, h.user]
  dsimp only
  rw [Async.run_bind, Async.run_await, h.client]

/-- The client with the given code. -/
theorem Reads.client_mem {c : Client} (h : Reads env cmd w user (some c)) :
    c ∈ (env.client w.now).rows ∧ cmd.clientCode = .string c.clientCode := by
  have hclient := h.client
  cases hcode : cmd.clientCode with
  | string code =>
    rw [hcode] at hclient
    simp only [findByClientCode, sync_bind, clock_apply, sync_pure] at hclient
    have hfind : (env.client w.now).findFirst (fun c => c.clientCode == code) = some c := by
      injection hclient
    obtain ⟨hm, hp⟩ := Table.findFirst_mem hfind
    exact ⟨hm, by rw [beq_iff_eq.mp hp]⟩
  | undefined => rw [hcode] at hclient; cases hclient
  | null => rw [hcode] at hclient; cases hclient
  | object o => rw [hcode] at hclient; cases hclient
  | other t => rw [hcode] at hclient; cases hclient

/-- The row that the lookup by email returns, with its client. -/
theorem Reads.user_eq (h : Reads env cmd w user client) :
    user = (w.root.findUserByEmail cmd.email).map fun u =>
      (u, u.clientId.bind fun id => (env.client w.now).findFirst fun c => c.id == id) := by
  have huser := h.user
  simp only [findUserByEmail, sync_bind, clock_apply, queryRoot_apply, whereString,
    Except.map] at huser
  injection huser with huser _
  rw [← huser]
  rfl

theorem Reads.missing (h : Reads env cmd w none client) :
    ∀ u ∈ w.root.user.rows, u.email ≠ cmd.email := by
  have hnone := h.user_eq.symm
  rw [Option.map_eq_none_iff] at hnone
  intro u hu
  simpa using Table.findFirst_eq_none.mp hnone u hu

theorem Reads.found {u : User} {own : Option Client}
    (h : Reads env cmd w (some (u, own)) client) :
    u ∈ w.root.user.rows ∧ u.email = cmd.email ∧
      ∀ o, own = some o → o ∈ (env.client w.now).rows ∧ u.clientId = some o.id := by
  obtain ⟨v, hv, hp⟩ := Option.map_eq_some_iff.mp h.user_eq.symm
  obtain ⟨rfl, rfl⟩ := Prod.mk.inj hp
  obtain ⟨hm, he⟩ := Table.findFirst_mem hv
  refine ⟨hm, by simpa using he, ?_⟩
  intro o ho
  obtain ⟨id, hid, hfind⟩ := Option.bind_eq_some_iff.mp ho
  obtain ⟨hmo, heo⟩ := Table.findFirst_mem hfind
  exact ⟨hmo, by rw [hid, beq_iff_eq.mp heo]⟩

theorem Reads.oneRow {u : User} {own : Option Client}
    (h : Reads env cmd w (some (u, own)) client) : OneRow own client := by
  rintro o c rfl rfl hid
  obtain ⟨-, -, hown⟩ := h.found
  exact Table.eq_of_key (k := Client.id) (by simp [Keyed.keys]) (hown o rfl).1 h.client_mem.1 hid

/-- The row that a sign-in inserts. -/
def newRow (env : LoginEnv) (cmd : GoogleSocialCreateOrLoginCommand) (w : World) (c : Client) : User :=
  socialUser (env.createUserId w.draws) (env.signupVerifyTokenCreate w.draws) cmd c

/-- Creating a user draws the id and then inserts the row. -/
theorem run_create_row (c : Client) : ((Decision.create c).subject env cmd).run w =
    match createSocialUser env (newRow env cmd w c) { w with draws := w.draws + 1 } with
    | .ok _ v => .ok (User.info (newRow env cmd w c)) v
    | .error e v => .error e v := by
  have hcut : ((Decision.create c).subject env cmd).run w =
      (Async.await (createSocialUser env (newRow env cmd w c)) >>= fun _ =>
        (pure (User.info (newRow env cmd w c)) : App UserInfo)).run
          { w with draws := w.draws + 1 } := rfl
  rw [hcut, Async.run_bind, Async.run_await]
  cases createSocialUser env (newRow env cmd w c) { w with draws := w.draws + 1 } <;> rfl

/-- A user with a new id and a new email is created under the client. -/
theorem run_create {c : Client} (hc : c ∈ (env.client w.now).rows)
    (hid : ∀ u ∈ w.root.user.rows, u.id ≠ env.createUserId w.draws)
    (hemail : ∀ u ∈ w.root.user.rows, u.email ≠ cmd.email)
    (hfits : (newRow env cmd w c).fits = true) : ∃ users, newRow env cmd w c ∈ users.rows ∧
    ((Decision.create c).subject env cmd).run w = .ok (User.info (newRow env cmd w c))
      { w with draws := w.draws + 1, root := { w.root with user := users } } := by
  have hvacant : w.root.user.Vacant (newRow env cmd w c) := by
    intro k hk u hu
    simp only [Keyed.keys, List.mem_cons, List.not_mem_nil, or_false] at hk
    rcases hk with rfl | rfl
    · exact hid u hu
    · exact hemail u hu
  have hfind : (env.client w.now).findFirst (fun x => x.id == c.id) = some c :=
    Table.findFirst_key (k := Client.id) (by simp [Keyed.keys]) hc
  have hcreate := createSocialUserRow_of_vacant hfits hvacant hfind rfl
  refine ⟨w.root.user.insert _ hvacant, (Table.mem_insert hvacant).mpr (.inr rfl), ?_⟩
  rw [run_create_row]
  simp only [createSocialUser, sync_bind, clock_apply, writeRoot_apply, hcreate]

/-- The email of a user is not created a second time. -/
theorem run_create_taken {c : Client} {u : User} (hu : u ∈ w.root.user.rows)
    (hemail : u.email = cmd.email) (hfits : (newRow env cmd w c).fits = true) :
    ((Decision.create c).subject env cmd).run w =
      .error uniqueViolation { w with draws := w.draws + 1 } := by
  have hfull : w.root.user.create (newRow env cmd w c) = none := by
    apply Table.create_of_not_vacant
    intro hvacant
    exact hvacant User.email (by simp [Keyed.keys]) u hu hemail
  rw [run_create_row]
  simp only [createSocialUser, sync_bind, clock_apply, writeRoot_apply, createSocialUserRow, hfits,
    if_true, hfull]

end Runs

/-- In the run from `w`, the handler calls `createSocialUser`. -/
def CallsCreateSocialUser (env : LoginEnv) (cmd : GoogleSocialCreateOrLoginCommand) (w : World) :
    Prop :=
  ∃ user client c, Reads env cmd w user client ∧ decision client user = .create c

/-- `execute` throws an `UnauthorizedException`, or it goes on with the login of the user
with the email under the given client. -/
def SignsInOrRefuses (env : LoginEnv) (cmd : GoogleSocialCreateOrLoginCommand) (w : World) : Prop :=
  (∃ m v, (googleSocialCreateOrLogin env cmd).run w = .error (.unauthorized m) v) ∨
    ∃ user client v, (googleSubject env cmd).run w = .ok (User.info user) v ∧
      (googleSocialCreateOrLogin env cmd).run w =
        (login env.toEnv (User.info user) cmd.ip none none).run v ∧
      user ∈ v.root.user.rows ∧ user.email = cmd.email ∧ user.clientId = some client.id ∧
      client ∈ (env.client w.now).rows ∧ cmd.clientCode = .string client.clientCode

/-- What a sign-in promises: it creates no user twice, and when both lookups answer, and no
value of a new row is too long for its column, it ends in a login or a 401. -/
structure Promise (env : LoginEnv) (cmd : GoogleSocialCreateOrLoginCommand) (w : World) : Prop where
  creates : CallsCreateSocialUser env cmd w → ∀ u ∈ w.root.user.rows, u.email ≠ cmd.email
  ends : ∀ user client, Reads env cmd w user client →
    (∀ c, decision client user = .create c → (newRow env cmd w c).fits = true) →
    SignsInOrRefuses env cmd w

section Promise

variable {env : LoginEnv} {cmd : GoogleSocialCreateOrLoginCommand} {w : World}
  {user : Option (User × Option Client)} {client : Option Client}

theorem run_google_of_error {e : Exn} {v : World}
    (h : (googleSubject env cmd).run w = .error e v) :
    (googleSocialCreateOrLogin env cmd).run w = .error e v := by
  rw [google_cut, Async.run_bind, h]

theorem run_google_of_ok {u : UserInfo} {v : World} (h : (googleSubject env cmd).run w = .ok u v) :
    (googleSocialCreateOrLogin env cmd).run w = (login env.toEnv u cmd.ip none none).run v := by
  rw [google_cut, Async.run_bind, h]

theorem refuses {m : String} (h : Reads env cmd w user client)
    (hd : decision client user = .refuse (.unauthorized m)) : SignsInOrRefuses env cmd w := by
  left
  have hrun := h.run
  rw [hd] at hrun
  exact ⟨m, w, run_google_of_error hrun⟩

theorem not_signsIn_of_error {e : Exn} {v : World} (he : ∀ m, e ≠ .unauthorized m)
    (h : (googleSubject env cmd).run w = .error e v) : ¬ SignsInOrRefuses env cmd w := by
  rintro (⟨m, v', hrun⟩ | ⟨_, _, _, hrun, -⟩)
  · rw [run_google_of_error h] at hrun
    cases hrun
    exact he m rfl
  · rw [h] at hrun
    cases hrun

/-- A missing user is created, or refused. -/
theorem signsIn_missing (hid : ∀ u ∈ w.root.user.rows, u.id ≠ env.createUserId w.draws)
    (h : Reads env cmd w none client)
    (hfits : ∀ c, decision client none = .create c → (newRow env cmd w c).fits = true) :
    SignsInOrRefuses env cmd w := by
  rcases decision_none client with ⟨m, hd⟩ | ⟨c, rfl, hd⟩
  · exact refuses h hd
  · obtain ⟨hc, hcode⟩ := h.client_mem
    obtain ⟨users, hm, hcreate⟩ := run_create hc hid h.missing (hfits c hd)
    have hrun := h.run.trans (by rw [hd, hcreate])
    exact .inr ⟨_, c, _, hrun, run_google_of_ok hrun, hm, rfl, rfl, hc, hcode⟩

/-- A covered user is signed in, or refused. -/
theorem signsIn_found {u : User} {own : Option Client} (h : Reads env cmd w (some (u, own)) client)
    (hcov : Covered client (u, own)) : SignsInOrRefuses env cmd w := by
  rcases decision_covered h.oneRow hcov with ⟨m, hd⟩ | ⟨c, rfl, rfl, hd⟩
  · exact refuses h hd
  · obtain ⟨hc, hcode⟩ := h.client_mem
    obtain ⟨hm, hemail, hown⟩ := h.found
    have hrun : (googleSubject env cmd).run w = .ok (User.info u) w := h.run.trans (by rw [hd]; rfl)
    exact .inr ⟨u, c, w, hrun, run_google_of_ok hrun, hm, hemail, (hown c rfl).2, hc, hcode⟩

/-- The promise is kept exactly when the user with the email, if there is one, is covered
by the conditions of the handler. Ids of new users are new. -/
theorem promise_iff_covered (env : LoginEnv) (cmd : GoogleSocialCreateOrLoginCommand) (w : World)
    (hid : ∀ u ∈ w.root.user.rows, u.id ≠ env.createUserId w.draws) :
    Promise env cmd w ↔ ∀ p client, Reads env cmd w (some p) client → Covered client p := by
  constructor
  · intro hpromise p client h
    obtain ⟨u, own⟩ := p
    obtain ⟨hm, hemail, -⟩ := h.found
    by_contra hcov
    rcases decision_uncovered h.oneRow hcov with ⟨c, hd⟩ | ⟨m, hd⟩
    · exact hpromise.creates ⟨_, _, c, h, hd⟩ u hm hemail
    · have hrun := h.run
      rw [hd] at hrun
      have hfits (c : Client) (hc : decision client (some (u, own)) = .create c) :
          (newRow env cmd w c).fits = true := by
        rw [hd] at hc
        cases hc
      exact not_signsIn_of_error (fun _ he => by cases he) hrun (hpromise.ends _ _ h hfits)
  · intro hcov
    constructor
    · rintro ⟨user, client, c, h, hd⟩
      cases user with
      | none => exact h.missing
      | some p =>
        obtain ⟨u, own⟩ := p
        rcases decision_covered h.oneRow (hcov _ _ h) with ⟨m, hd'⟩ | ⟨_, _, _, hd'⟩
        · rw [hd'] at hd
          cases hd
        · rw [hd'] at hd
          cases hd
    · intro user client h hfits
      cases user with
      | none => exact signsIn_missing hid h hfits
      | some p => exact signsIn_found h (hcov _ _ h)

end Promise

def paidClient : Client := { id := "c1", clientCode := "acme", isPaid := true }

def paidEnv : LoginEnv := { LoginEnv.sample with client := fun _ => .singleton paidClient }

def member (clientId : Option String) (verified : Bool) : User :=
  { User.sample with clientId, verified }

def memberWorld (clientId : Option String) (verified : Bool) : World :=
  .start 1000 { Db.empty with user := .singleton (member clientId verified) }

def signInSample : GoogleSocialCreateOrLoginCommand :=
  { email := "hong@example.com", name := "hong", ip := "10.0.0.1", clientCode := .string "acme" }

theorem reads_member (verified : Bool) :
    Reads paidEnv signInSample (memberWorld (some "c1") verified)
      (some (member (some "c1") verified, some paidClient)) (some paidClient) := by
  constructor <;> rfl

theorem promise_iff_covered_sample :
    Promise paidEnv signInSample (memberWorld (some "c1") true) := by
  have hid : ∀ u ∈ (memberWorld (some "c1") true).root.user.rows,
      u.id ≠ paidEnv.createUserId (memberWorld (some "c1") true).draws := by
    intro u hu
    rw [List.mem_singleton.mp hu]
    decide
  apply (promise_iff_covered paidEnv signInSample _ hid).mpr
  intro p client h
  have huser := h.user.symm.trans (reads_member true).user
  cases huser
  exact fun _ => .inl rfl

/-- A user of the client who is not verified is created a second time, and a user without a
client has its client read. -/
theorem promise_broken :
    ¬ Promise paidEnv signInSample (memberWorld (some "c1") false) ∧
      (googleSocialCreateOrLogin paidEnv signInSample).run (memberWorld (some "c1") false) =
        .error uniqueViolation { memberWorld (some "c1") false with draws := 1 } ∧
      (googleSocialCreateOrLogin paidEnv signInSample).run (memberWorld none true) =
        .error (nullProperty "id") (memberWorld none true) := by
  have hreads := reads_member false
  have hcreate : decision (some paidClient) (some (member (some "c1") false, some paidClient)) =
      .create paidClient := rfl
  obtain ⟨hm, hemail, -⟩ := hreads.found
  refine ⟨?_, ?_, ?_⟩
  · intro hpromise
    exact hpromise.creates ⟨_, _, paidClient, hreads, hcreate⟩ _ hm hemail
  · apply run_google_of_error
    rw [hreads.run, hcreate]
    exact run_create_taken hm hemail (by decide)
  · apply run_google_of_error
    rfl

end NestUserService.Auth.GoogleSignIn
