import NestUserService.Auth.AuditTrail

/-!
# No session without credentials

The calls that open a session ask the databases for something first: a password that
compares, a paid client, a refresh token with its address, a signup token. A call that does
not find it at any of its steps opens no session and is not answered.
-/

namespace NestUserService.Auth.Credentials

open Lib NestUserService.Core Shared AuditTrail

/-- What the state has to hold for the call; the other calls are not spoken about. -/
def Entitles (env : GuardEnv) (w : World) : ServiceCall → Prop
  | .loginUser cmd => ∃ u ∈ w.root.user.rows, ∃ filter password hash,
    whereString env.toEnv false cmd.email = .ok filter ∧ filter (some u.email) = true ∧
      cmd.password = .string password ∧ u.password = some hash ∧
      env.bcryptCompare password hash = true ∧ u.verified = true
  | .googleSocialCreateOrLogin cmd => ∃ client ∈ (env.client w.now).rows, client.isPaid = true ∧
    (cmd.clientCode = .string client.clientCode ∨
      ∃ u ∈ w.root.user.rows, u.email = cmd.email ∧ u.clientId = some client.id)
  | .refreshTokens _ refreshToken ip => ∃ r ∈ w.root.refreshToken.rows,
    r.token = refreshToken ∧ r.isValid = true ∧ r.ip = some ip
  | .updateRefreshAccessToken cmd =>
    (∃ p, w.redis.find? w.now (refreshKey cmd.clientCode cmd.userId cmd.refreshToken.text) =
      some (.payload p) ∧ p.id = cmd.userId) ∨
    ∃ r ∈ w.root.refreshToken.rows, ∃ filter,
      whereString env.toEnv false cmd.refreshToken = .ok filter ∧ filter (some r.token) = true ∧
        r.userId = cmd.userId ∧ r.isValid = true ∧ w.now < r.expiresAt
  | .verifyUserEmail cmd => ∃ c db, decryptClientCode env.toEnv cmd.encryptedClientCode = .ok c ∧
    w.tenants c = some db ∧ ∃ u ∈ db.user.rows, ∃ filter,
      whereString env.toEnv false cmd.signupVerifyToken = .ok filter ∧
        filter (some u.signupVerifyToken) = true ∧ u.verified = false
  | _ => True

/-- No refresh token has come, and nothing has been cached. -/
structure OpensNothing (w w' : World) : Prop where
  root : ∀ r' ∈ w'.root.refreshToken.rows, ∃ r ∈ w.root.refreshToken.rows, Faded r r'
  tenants : ∀ c, (w'.tenants c).map Db.refreshToken = (w.tenants c).map Db.refreshToken
  redis : w'.redis = w.redis

theorem opensNothing_of_sameTokens (w w' : World) (h : SameTokens w w') : OpensNothing w w' where
  root r hr := ⟨r, h.root ▸ hr, faded_refl r⟩
  tenants := h.tenants
  redis := h.redis

theorem opensNothing_invalidate (w : World) (u : String) :
    OpensNothing w { w with root := w.root.invalidateRefreshTokens u } := by
  refine ⟨fun r' hr' => ?_, fun _ => rfl, rfl⟩
  obtain ⟨r, hr, rfl⟩ := Table.mem_updateMany.mp hr'
  refine ⟨r, hr, ?_⟩
  split
  · exact Or.inr rfl
  · exact Or.inl rfl

/-- Run from states in `I`, the program opens nothing and returns only in `V`. -/
def Refused {α : Type} (I : World → Prop) (V : α → Prop) (x : App α) : Prop :=
  Async.Conducts I OpensNothing V (fun _ => True) x

section Rules

variable {α β : Type} {I : World → Prop} {V : α → Prop} {W : β → Prop}

theorem Refused.bind {x : App α} {f : α → App β} (h : Refused I V x)
    (hf : ∀ a, V a → Refused I W (f a)) : Refused I W (x >>= f) :=
  Async.Conducts.bind h hf

theorem Refused.throw (e : Exn) : Refused I V (MonadExcept.throw e : App α) := trivial

theorem Refused.ite {c : Prop} [Decidable c] {x y : App α} (hx : c → Refused I V x)
    (hy : ¬ c → Refused I V y) : Refused I V (if c then x else y) :=
  Async.Conducts.ite hx hy

/-- A read, with what it says about the state. -/
theorem Refused.read {x : Sync α} (hx : ∀ w, finalState (x w) = w)
    (h : ∀ w, I w → ∀ a w', x w = .ok a w' → V a) : Refused I V (Async.await x) := by
  refine Async.Conducts.await fun w hw => ⟨?_, h w hw, fun _ _ _ => trivial⟩
  rw [hx w]
  exact opensNothing_of_sameTokens w w (SameTokens.refl w)

end Rules

section Calls

variable {env : GuardEnv}

theorem findUserByEmail_ok {email : Arg} {w w' : World} {u : User} {own : Option Tenant.Client}
    (h : findUserByEmail env.toLoginEnv email w = .ok (some (u, own)) w') :
    u ∈ w.root.user.rows ∧ (∃ filter, whereString env.toEnv false email = .ok filter ∧
      filter (some u.email) = true) ∧
      own = u.clientId.bind fun id => (env.client w.now).findFirst fun c => c.id == id := by
  simp only [findUserByEmail, sync_bind, clock_apply, queryRoot_apply] at h
  cases hw : whereString env.toEnv false email with
  | error e =>
    rw [hw] at h
    cases h
  | ok filter =>
    rw [hw] at h
    simp only [Except.map, EStateM.Result.ok.injEq, Option.map_eq_some_iff, Prod.mk.injEq] at h
    obtain ⟨⟨v, hv, rfl, rfl⟩, -⟩ := h
    obtain ⟨hmem, hfilter⟩ := Table.findFirst_mem hv
    exact ⟨hmem, ⟨filter, rfl, hfilter⟩, rfl⟩

theorem comparePassword_true {password : Arg} {hash : Option String} {w w' : World}
    (h : comparePassword env.toLoginEnv password hash w = .ok true w') :
    ∃ text stored, password = .string text ∧ hash = some stored ∧
      env.bcryptCompare text stored = true := by
  cases password with
  | string text =>
    cases hash with
    | some stored =>
      have hcompare : env.bcryptCompare text stored = true ∧ w = w' := by
        simpa [comparePassword] using h
      exact ⟨text, stored, rfl, rfl, hcompare.1⟩
    | none => cases h
  | undefined => cases hash <;> cases h
  | null => cases hash <;> cases h
  | object o => cases hash <;> cases h
  | other t => cases hash <;> cases h

theorem refused_loginUser (cmd : LoginUserCommand) :
    Refused (fun w => ¬ Entitles env w (.loginUser cmd)) (fun _ => False)
      (loginUser env.toLoginEnv cmd) := by
  have hchecks : Refused (fun w => ¬ Entitles env w (.loginUser cmd)) (fun _ => False)
      (loginUserChecks env.toLoginEnv cmd) := by
    have hfind : Refused (fun w => ¬ Entitles env w (.loginUser cmd))
        (fun found => ∀ u own, found = some (u, own) → ∀ password hash,
          cmd.password = .string password → u.password = some hash →
            env.bcryptCompare password hash = true → u.verified = false)
        (Async.await (findUserByEmail env.toLoginEnv cmd.email)) := by
      refine Refused.read (findUserByEmail_state _ _) ?_
      rintro w hw _ w' h u own rfl password hash hpassword hhash hcompare
      obtain ⟨hu, ⟨filter, hfilter, hemail⟩, -⟩ := findUserByEmail_ok h
      by_contra hverified
      exact hw ⟨u, hu, filter, password, hash, hfilter, hemail, hpassword, hhash, hcompare,
        by simpa using hverified⟩
    refine hfind.bind fun found hfound => ?_
    cases found with
    | none => exact Refused.throw _
    | some found =>
      obtain ⟨u, own⟩ := found
      have hcompare : Refused (fun w => ¬ Entitles env w (.loginUser cmd))
          (fun isValid => isValid = true → u.verified = false)
          (Async.await (comparePassword env.toLoginEnv cmd.password u.password)) := by
        refine Refused.read (comparePassword_state _ _ _) ?_
        rintro w - _ w' h rfl
        obtain ⟨password, hash, hpassword, hhash, hcmp⟩ := comparePassword_true h
        exact hfound u own rfl password hash hpassword hhash hcmp
      refine hcompare.bind fun isValid hisValid => Refused.ite (fun _ => Refused.throw _)
        fun hvalid => Refused.ite (fun _ => Refused.throw _) fun hverified => ?_
      have hno : u.verified = false := hisValid (by simpa using hvalid)
      simp [hno] at hverified
  have hhandled : Refused (fun w => ¬ Entitles env w (.loginUser cmd)) (fun _ => False)
      ((loginUserChecks env.toLoginEnv cmd).handle fun _ => throw wrongCredentials) :=
    Async.Conducts.handle hchecks fun _ _ => trivial
  exact hhandled.bind fun _ hno => hno.elim

theorem findByClientCode_state (code : Arg) (w : World) :
    finalState (findByClientCode env.toLoginEnv code w) = w := by
  cases code <;> rfl

theorem findByClientCode_ok {code : Arg} {w w' : World} {client : Tenant.Client}
    (h : findByClientCode env.toLoginEnv code w = .ok (some client) w') :
    client ∈ (env.client w.now).rows ∧ code = .string client.clientCode := by
  cases code with
  | string text =>
    simp only [findByClientCode, sync_bind, clock_apply, sync_pure, EStateM.Result.ok.injEq] at h
    obtain ⟨hmem, hcode⟩ := Table.findFirst_mem h.1
    exact ⟨hmem, congrArg Arg.string (by simpa using Eq.symm (by simpa using hcode))⟩
  | _ => cases h

/-- Without a paid client, the first condition does not hold and the second one refuses. -/
theorem isPaidAccount_unpaid {client : Option Tenant.Client} {u : User}
    {own : Option Tenant.Client} (hown : ∀ c, own = some c → c.isPaid = false) :
    isPaidAccount client (u, own) ≠ .ok true := by
  unfold isPaidAccount
  dsimp only
  split
  · cases own with
    | none => simp
    | some own => simp [hown own rfl]
  · simp

theorem checkClient_unpaid {user : Option (User × Option Tenant.Client)}
    {client : Option Tenant.Client} (hclient : ∀ c, client = some c → c.isPaid = false) :
    ∃ e, checkClient user client = .error e := by
  unfold checkClient
  cases client with
  | none => exact ⟨_, rfl⟩
  | some client =>
    have hno : client.isPaid = false := hclient client rfl
    rcases user with - | ⟨u, - | own⟩
    · simp [hno]
    · exact ⟨_, rfl⟩
    · by_cases hid : own.id = client.id
      · simp [hno, hid]
      · simp [hid]

/-- The account of the address, if it has a client, has one that is not paid. -/
theorem refused_socialUser (cmd : GoogleSocialCreateOrLoginCommand) :
    Refused (fun w => ¬ Entitles env w (.googleSocialCreateOrLogin cmd))
      (fun found => ∀ u own, found = some (u, some own) → own.isPaid = false)
      (Async.await (findUserByEmail env.toLoginEnv (.string cmd.email))) := by
  refine Refused.read (findUserByEmail_state _ _) ?_
  rintro w hw _ w' h u own rfl
  obtain ⟨hu, ⟨filter, hfilter, hemail⟩, hown⟩ := findUserByEmail_ok h
  cases hfilter
  obtain ⟨id, hid, hfirst⟩ := Option.bind_eq_some_iff.mp hown.symm
  obtain ⟨hmem, hown_id⟩ := Table.findFirst_mem hfirst
  by_contra hpaid
  refine hw ⟨own, hmem, by simpa using hpaid, Or.inr ⟨u, hu, by simpa using hemail, ?_⟩⟩
  rw [hid, (by simpa using hown_id : own.id = id)]

/-- The client of the code, if there is one, is not paid. -/
theorem refused_socialClient (cmd : GoogleSocialCreateOrLoginCommand) :
    Refused (fun w => ¬ Entitles env w (.googleSocialCreateOrLogin cmd))
      (fun client => ∀ c, client = some c → c.isPaid = false)
      (Async.await (findByClientCode env.toLoginEnv cmd.clientCode)) := by
  refine Refused.read (findByClientCode_state _) ?_
  rintro w hw _ w' h client rfl
  obtain ⟨hmem, hcode⟩ := findByClientCode_ok h
  by_contra hpaid
  exact hw ⟨client, hmem, by simpa using hpaid, Or.inl hcode⟩

theorem mapM_isPaidAccount (client : Option Tenant.Client) (found : User × Option Tenant.Client) :
    Option.mapM (isPaidAccount client) (some found) =
      isPaidAccount client found >>= fun paid => pure (some paid) := rfl

theorem refused_google (cmd : GoogleSocialCreateOrLoginCommand) :
    Refused (fun w => ¬ Entitles env w (.googleSocialCreateOrLogin cmd)) (fun _ => False)
      (googleSocialCreateOrLogin env.toLoginEnv cmd) := by
  refine (refused_socialUser cmd).bind fun user huser =>
    (refused_socialClient cmd).bind fun client hclient => ?_
  obtain ⟨e, he⟩ : ∃ e, checkClient user client = .error e := checkClient_unpaid hclient
  have hcreate : Refused (fun w => ¬ Entitles env w (.googleSocialCreateOrLogin cmd))
      (fun _ => False) (do
        let userInfo ← createSocialAccount env.toLoginEnv cmd user client
        login env.toEnv userInfo cmd.ip none none) := by
    unfold createSocialAccount
    rw [he]
    exact Refused.throw e
  cases user with
  | none => exact hcreate
  | some found =>
    obtain ⟨u, own⟩ := found
    rw [mapM_isPaidAccount]
    cases hacc : isPaidAccount client (u, own) with
    | error e => exact Refused.throw e
    | ok paid =>
      cases paid with
      | true => exact absurd hacc (isPaidAccount_unpaid fun c hc => huser u c (by rw [hc]))
      | false => exact hcreate

theorem refused_theft {I : World → Prop} (env : Env) (u ip : String) (loc : Option String) :
    Refused I (fun _ => True) (handleTokenTheft env u ip loc) :=
  (guarantees_handleTokenTheft env opensNothing_of_sameTokens
    (fun w => opensNothing_invalidate w u) ip loc).conducts

theorem refused_refreshTokens (createdAt : String → String) (refreshToken ip : String) :
    Refused (fun w => ¬ Entitles env w (.refreshTokens createdAt refreshToken ip)) (fun _ => False)
      (refreshTokens env.toEnv createdAt refreshToken ip) := by
  have hfind : Refused (fun w => ¬ Entitles env w (.refreshTokens createdAt refreshToken ip))
      (fun found => ∀ r : RefreshToken, found = some r → r.isValid = true → r.ip ≠ some ip)
      (Async.await (readRoot fun db => findRefreshToken db refreshToken)) := by
    refine Refused.read (fun _ => rfl) ?_
    rintro w hw _ w' h r hr hvalid hip
    cases h
    obtain ⟨hmem, htoken⟩ := Table.findFirst_mem hr
    exact hw ⟨r, hmem, by simpa using htoken, hvalid, hip⟩
  refine hfind.bind fun found hfound => ?_
  cases found with
  | none => exact Refused.throw _
  | some r =>
    refine Refused.ite (fun _ => Refused.throw _) fun hvalid => ?_
    have hip : r.ip ≠ some ip := hfound r rfl (by simpa using hvalid)
    have hclock : Refused (fun w => ¬ Entitles env w (.refreshTokens createdAt refreshToken ip))
        (fun _ => True) (Async.await clock) :=
      Refused.read (fun _ => rfl) fun _ _ _ _ _ => trivial
    have hinvalidate : Refused
        (fun w => ¬ Entitles env w (.refreshTokens createdAt refreshToken ip)) (fun _ => True)
        (invalidateUserTokens r.userId) :=
      Async.Conducts.await fun w _ =>
        ⟨opensNothing_invalidate w r.userId, fun _ _ _ => trivial, fun _ _ _ => trivial⟩
    refine hclock.bind fun now _ => Refused.ite
      (fun _ => hinvalidate.bind fun _ _ => Refused.throw _) fun _ => Refused.ite
        (fun _ => (refused_theft env.toEnv _ _ _).bind fun _ _ => Refused.throw _)
        fun hsame => absurd ?_ hip
    simpa using hsame

theorem findValidRefreshToken_state (env : Env) (refreshToken : Arg) (w : World) :
    finalState (findValidRefreshToken env refreshToken w) = w := by
  simp only [findValidRefreshToken, sync_bind, clock_apply, queryRoot_apply]
  cases (whereString env false refreshToken).map _ <;> rfl

theorem findValidRefreshToken_ok {env : Env} {refreshToken : Arg} {w w' : World} {r : RefreshToken}
    (h : findValidRefreshToken env refreshToken w = .ok (some r) w') :
    r ∈ w.root.refreshToken.rows ∧ ∃ filter, whereString env false refreshToken = .ok filter ∧
      filter (some r.token) = true ∧ r.isValid = true ∧ w.now < r.expiresAt := by
  simp only [findValidRefreshToken, sync_bind, clock_apply, queryRoot_apply] at h
  cases hw : whereString env false refreshToken with
  | error e =>
    rw [hw] at h
    cases h
  | ok filter =>
    rw [hw] at h
    simp only [Except.map, EStateM.Result.ok.injEq] at h
    obtain ⟨hmem, hfilter⟩ := Table.findFirst_mem h.1
    simp only [Bool.and_eq_true, decide_eq_true_eq] at hfilter
    exact ⟨hmem, filter, rfl, hfilter.1.1, hfilter.1.2, hfilter.2⟩

theorem refused_refresh (cmd : UpdateRefreshAccessTokenCommand) :
    Refused (fun w => ¬ Entitles env w (.updateRefreshAccessToken cmd)) (fun _ => False)
      (updateRefreshAccessToken env.toEnv cmd) := by
  have hdb : Refused (fun w => ¬ Entitles env w (.updateRefreshAccessToken cmd)) (fun _ => False)
      (refreshFromDb env.toEnv cmd) := by
    have hfind : Refused (fun w => ¬ Entitles env w (.updateRefreshAccessToken cmd))
        (fun found => ∀ r : RefreshToken, found = some r → r.userId ≠ cmd.userId)
        (Async.await (findValidRefreshToken env.toEnv cmd.refreshToken)) := by
      refine Refused.read (findValidRefreshToken_state _ _) ?_
      rintro w hw _ w' h r rfl hid
      obtain ⟨hmem, filter, hfilter, htoken, hvalid, hlive⟩ := findValidRefreshToken_ok h
      exact hw (Or.inr ⟨r, hmem, filter, hfilter, htoken, hid, hvalid, hlive⟩)
    refine hfind.bind fun found hfound => ?_
    cases found with
    | none => exact Refused.throw _
    | some r => exact Refused.ite (fun _ => Refused.throw _) fun hid => absurd (hfound r rfl) hid
  have hcached : Refused (fun w => ¬ Entitles env w (.updateRefreshAccessToken cmd))
      (fun found => ∀ p : TokenCachePayload, found = some (.payload p) → p.id ≠ cmd.userId)
      (getRefreshTokenCache cmd.clientCode cmd.userId cmd.refreshToken.text) := by
    refine Refused.read (fun _ => rfl) ?_
    rintro w hw _ w' h p hp hid
    cases h
    exact hw (Or.inl ⟨p, hp, hid⟩)
  refine hcached.bind fun found hfound => ?_
  cases found with
  | none => exact hdb
  | some value =>
    refine Refused.ite (fun _ => ?_) fun _ => hdb
    cases value with
    | text s => exact Refused.throw _
    | payload p => exact Refused.ite (fun _ => Refused.throw _) fun hid => absurd (hfound p rfl) hid

theorem queryTenant_state {α : Type} (c : String) (f : Db → Except Exn α) (w : World) :
    finalState (queryTenant c f w) = w := by
  unfold queryTenant
  cases w.tenants c with
  | none => rfl
  | some db =>
    dsimp only
    cases f db <;> rfl

theorem queryTenant_ok {α : Type} {c : String} {f : Db → Except Exn α} {w w' : World} {a : α}
    (h : queryTenant c f w = .ok a w') : ∃ db, w.tenants c = some db ∧ f db = .ok a := by
  unfold queryTenant at h
  cases hdb : w.tenants c with
  | none =>
    rw [hdb] at h
    cases h
  | some db =>
    rw [hdb] at h
    dsimp only at h
    cases hf : f db with
    | error e =>
      rw [hf] at h
      cases h
    | ok b =>
      rw [hf] at h
      cases h
      exact ⟨db, rfl, hf⟩

theorem refused_verifyUserEmail (cmd : VerifyUserEmailCommand) :
    Refused (fun w => ¬ Entitles env w (.verifyUserEmail cmd)) (fun _ => False)
      (verifyUserEmail env.toEnv cmd) := by
  unfold verifyUserEmail
  cases hc : decryptClientCode env.toEnv cmd.encryptedClientCode with
  | error e => exact Refused.throw e
  | ok c =>
    have hclient : Refused (fun w => ¬ Entitles env w (.verifyUserEmail cmd)) (fun _ => True)
        (Async.await (getTenantClient c)) :=
      Refused.read (fun w => finalState_getTenantClient w c) fun _ _ _ _ _ => trivial
    have hfind : Refused (fun w => ¬ Entitles env w (.verifyUserEmail cmd))
        (fun found => ∀ u : User, found = some u → u.verified = true)
        (tenantFindUserBySignupVerifyToken env.toEnv c cmd.signupVerifyToken) := by
      refine hclient.bind fun _ _ => Refused.read (queryTenant_state c _) ?_
      rintro w hw _ w' h u rfl
      obtain ⟨db, hdb, hquery⟩ := queryTenant_ok h
      cases hfilter : whereString env.toEnv false cmd.signupVerifyToken with
      | error e =>
        rw [hfilter] at hquery
        cases hquery
      | ok filter =>
        rw [hfilter] at hquery
        simp only [Except.map, Except.ok.injEq] at hquery
        obtain ⟨hu, htoken⟩ := Table.findFirst_mem hquery
        by_contra hverified
        exact hw ⟨c, db, hc, hdb, u, hu, filter, hfilter, htoken, by simpa using hverified⟩
    refine hfind.bind fun found hfound => ?_
    cases found with
    | none => exact Refused.throw _
    | some u => exact Refused.ite (fun _ => Refused.throw _) fun hno => absurd (hfound u rfl) hno

end Calls

/-- The calls that open a session. -/
def Opens : ServiceCall → Prop
  | .loginUser _ => True
  | .googleSocialCreateOrLogin _ => True
  | .refreshTokens .. => True
  | .updateRefreshAccessToken _ => True
  | .verifyUserEmail _ => True
  | _ => False

theorem refused_program (env : GuardEnv) {call : ServiceCall} (hcall : Opens call) :
    Refused (fun w => ¬ Entitles env w call) (fun _ => False) (call.program env) := by
  cases call with
  | loginUser cmd => exact (refused_loginUser cmd).bind fun _ hno => hno.elim
  | googleSocialCreateOrLogin cmd => exact (refused_google cmd).bind fun _ hno => hno.elim
  | refreshTokens createdAt t ip =>
    exact (refused_refreshTokens createdAt t ip).bind fun _ hno => hno.elim
  | updateRefreshAccessToken cmd => exact (refused_refresh cmd).bind fun _ hno => hno.elim
  | verifyUserEmail cmd => exact (refused_verifyUserEmail cmd).bind fun _ hno => hno.elim
  | _ => exact hcall.elim

/-- A call takes its steps where the state does not entitle it to a session. Then it opens
none and is never answered, whatever runs next to it. -/
theorem no_session_without_credentials {ι : Type} [DecidableEq ι] (env : GuardEnv)
    (calls : ι → ServiceCall) (w : World) {i : ι} (hi : Opens (calls i))
    {p : Threads World Exn Reply ι}
    (hp : Threads.Runs (Elapses fun _ => True)
      (fun q j => j = i → ¬ Entitles env q.state (calls i)) (ServiceCall.pool env calls w) p) :
    (∀ reply, p.rest i ≠ .ret reply) ∧
    ∀ p', Threads.Step (Elapses fun _ => True)
      (fun q j => j = i → ¬ Entitles env q.state (calls i)) (some i) p p' →
        OpensNothing p.state p'.state := by
  have hstart : Refused (fun v => ¬ Entitles env v (calls i)) (fun _ => False)
      ((ServiceCall.pool env calls w).rest i) := refused_program env hi
  have hrest := Threads.conducts_along hstart hp fun q hq => hq rfl
  refine ⟨fun reply hret => ?_, fun p' hstep => ?_⟩
  · rw [hret] at hrest
    exact hrest
  · exact Threads.conducts_own_step hrest hstep fun hq => hq rfl

def guessAndRotation : Bool → ServiceCall
  | false => .refreshTokens (fun _ => "") "r0" "10.0.0.1"
  | true => .loginUser
    { email := .string User.sample.email, password := .string "guess", ip := "10.0.0.1" }

/-- The stored passwords are not the guess. -/
def Unguessed (p : Threads World Exn Reply Bool) (i : Bool) : Prop :=
  i = true → ∀ u ∈ p.state.root.user.rows, u.password ≠ some "guess"

instance (p : Threads World Exn Reply Bool) (i : Bool) : Decidable (Unguessed p i) :=
  inferInstanceAs (Decidable (_ → _))

theorem Unguessed.not_entitled (p : Threads World Exn Reply Bool) (i : Bool)
    (h : Unguessed p i) :
    i = true → ¬ Entitles .sample p.state (guessAndRotation true) := by
  rintro hi ⟨u, hu, filter, password, hash, -, -, hpassword, hhash, hcompare, -⟩
  cases hpassword
  have hsame : hash = "guess" := by
    simpa [GuardEnv.sample, TwoFactorEnv.sample, LoginEnv.sample] using hcompare
  exact h hi u hu (hsame ▸ hhash)

/-- The guess has been compared. -/
def guessed : Threads World Exn Reply Bool :=
  Threads.schedule Unguessed [true, false, false, true]
    (ServiceCall.pool .sample guessAndRotation (rotationWorld "secret"))

theorem guess_opens_nothing : guessed.rest true = .fail wrongCredentials ∧
    ∀ reply, guessed.rest true ≠ .ret reply := by
  have hrun := Threads.schedule_runs (Elapses fun _ => True) Unguessed [true, false, false, true]
    (ServiceCall.pool .sample guessAndRotation (rotationWorld "secret"))
  exact ⟨rfl, (no_session_without_credentials .sample guessAndRotation (rotationWorld "secret")
    (i := true) trivial (hrun.mono Unguessed.not_entitled)).1⟩

end NestUserService.Auth.Credentials
