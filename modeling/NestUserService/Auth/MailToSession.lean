import NestUserService.Auth.RejectedLogin
import NestUserService.Auth.EmailVerification
import NestUserService.Auth.ResetPassword
import NestUserService.Auth.MailedTokens

/-!
# From a mail to a session

A user without a second factor who has a mailed token, and later a password, can always use
it: no call on the way fails, and at the end the user has exactly one valid refresh token.
Whatever others do between two calls of the user is allowed, as long as the row of the user
stays. The request for a reset mail also reads the name of the user's client, and fails for a
user without one.
-/

namespace NestUserService.Auth.MailToSession

open Lib NestUserService.Core Shared

/-- The refresh token of the response is stored, and it is the only valid one of the user. -/
structure Session (db : Db) (userId : String) (response : LoginResponse) : Prop where
  stored : ∃ r ∈ db.refreshToken.rows, r.token = response.refreshToken ∧ r.userId = userId ∧
    r.isValid = true
  only : ∀ r ∈ db.refreshToken.rows, r.userId = userId → r.isValid = true →
    r.token = response.refreshToken

/-- No stored refresh token is a random value that is still to be drawn. -/
def FreshDraws (env : Env) (draws : Nat) (db : Db) : Prop :=
  ∀ n, draws ≤ n → ∀ r ∈ db.refreshToken.rows, r.token ≠ env.uuidv4 n

theorem FreshDraws.invalidate {env : Env} {n : Nat} {db : Db} (h : FreshDraws env n db)
    (u : String) : FreshDraws env n (db.invalidateRefreshTokens u) := by
  intro m hm r hr
  obtain ⟨r₀, hr₀, rfl⟩ := Table.mem_updateMany.mp hr
  have htoken := h m hm r₀ hr₀
  split
  · exact htoken
  · exact htoken

theorem FreshDraws.later {env : Env} {m n : Nat} {db : Db} (h : FreshDraws env m db) (hle : m ≤ n) :
    FreshDraws env n db := fun k hk => h k (hle.trans hk)

theorem FreshDraws.of_tokens {env : Env} {n : Nat} {db db' : Db} (h : FreshDraws env n db)
    (htokens : db'.refreshToken = db.refreshToken) : FreshDraws env n db' := by
  unfold FreshDraws
  rw [htokens]
  exact h

/-- With no valid token left, the minted one is the session. -/
theorem session_created {db : Db} {u : String} (m : Minted) (ip : String)
    (hfree : ∀ r ∈ (db.invalidateRefreshTokens u).refreshToken.rows, r.token ≠ m.refreshToken)
    (hu : (db.findUserById u).isSome = true) :
    ∃ db', (db.invalidateRefreshTokens u).createRefreshToken (m.row u ip) = .ok db' ∧
      db'.user = db.user ∧ Session db' u (m.response none) := by
  have hvacant : (db.invalidateRefreshTokens u).refreshToken.Vacant (m.row u ip) := by
    intro k hk r hr
    obtain rfl : k = RefreshToken.token := by simpa [Keyed.keys] using hk
    exact hfree r hr
  refine ⟨{ db.invalidateRefreshTokens u with
    refreshToken := (db.invalidateRefreshTokens u).refreshToken.insert _ hvacant }, ?_, rfl, ?_⟩
  · unfold Db.createRefreshToken
    rw [Table.create_of_vacant hvacant]
    exact if_pos hu
  · constructor
    · exact ⟨m.row u ip, (Table.mem_insert hvacant).mpr (Or.inr rfl), rfl, rfl, rfl⟩
    · intro r hr hru hrv
      rcases (Table.mem_insert hvacant).mp hr with hold | rfl
      · rw [Db.invalid_of_mem_invalidate hold hru] at hrv
        cases hrv
      · rfl

/-- Without a second factor, only a Slack message comes before the tokens. -/
theorem run_gatedLogin {message : String} {user : UserInfo} {d : Option String}
    {device : App String} {generate : App LoginResponse} (htwo : user.isTwoFactorEnabled = false)
    (w : World) : (gatedLogin message user d device generate).run w =
      generate.run { w with slack := w.slack ++ [message] } := by
  simp [gatedLogin, htwo]

section Login

variable {env : Env} {user : UserInfo} {w : World}

theorem generateTokens_opens {db : Db} (hroot : w.root = db.invalidateRefreshTokens user.id)
    (hu : (db.findUserById user.id).isSome = true)
    (hfree : ∀ r ∈ (db.invalidateRefreshTokens user.id).refreshToken.rows,
      r.token ≠ env.uuidv4 w.draws) (ip : String) :
    ∃ response w', (generateTokens env user ip).run w = .ok response w' ∧
      w'.root.user = db.user ∧ Session w'.root user.id response := by
  obtain ⟨db', hcreate, huser, hsession⟩ := session_created (minted env user w) ip hfree hu
  rw [run_generateTokens, hroot, hcreate]
  exact ⟨_, _, rfl, huser, hsession⟩

theorem tenantGenerateTokens_opens {c : String} {db : Db}
    (hdb : w.tenants c = some (db.invalidateRefreshTokens user.id))
    (hu : (db.findUserById user.id).isSome = true)
    (hfree : ∀ r ∈ (db.invalidateRefreshTokens user.id).refreshToken.rows,
      r.token ≠ env.uuidv4 w.draws) (ip : String) :
    ∃ response w' db', (tenantGenerateTokens env c user ip).run w = .ok response w' ∧
      w'.tenants c = some db' ∧ db'.user = db.user ∧ Session db' user.id response := by
  obtain ⟨db', hcreate, huser, hsession⟩ := session_created (minted env user w) ip hfree hu
  rw [run_tenantGenerateTokens env user ip hdb, hcreate]
  exact ⟨_, _, db', rfl, by simp [World.setTenant], huser, hsession⟩

/-- A user of the root database gets a session. -/
theorem login_opens (htwo : user.isTwoFactorEnabled = false)
    (hu : (w.root.findUserById user.id).isSome = true) (hfresh : FreshDraws env w.draws w.root)
    (ip : String) (d ua : Option String) :
    ∃ response w', (login env user ip d ua).run w = .ok response w' ∧
      w'.root.user = w.root.user ∧ Session w'.root user.id response := by
  obtain ⟨w₁, hswept, hrun⟩ := run_login_swept env user ip d ua w
  obtain ⟨s, rfl⟩ := hswept.only
  rw [hrun, loginRest_gated, run_gatedLogin htwo]
  exact generateTokens_opens rfl hu (hfresh.invalidate user.id _ (Nat.le_add_right _ 3)) ip

/-- A user of a tenant gets a session there. -/
theorem tenantLogin_opens {c : String} {db : Db} (hdb : w.tenants c = some db)
    (htwo : user.isTwoFactorEnabled = false) (hu : (db.findUserById user.id).isSome = true)
    (hfresh : FreshDraws env w.draws db) (ip : String) (d ua : Option String) :
    ∃ response w' db', (tenantLogin env c user ip d ua).run w = .ok response w' ∧
      w'.tenants c = some db' ∧ db'.user = db.user ∧ Session db' user.id response := by
  obtain ⟨w₁, hswept, hrun⟩ := run_tenantLogin_swept env user ip d ua hdb
  obtain ⟨s, rfl⟩ := hswept.only
  rw [hrun, tenantLoginRest_gated, run_gatedLogin htwo]
  exact tenantGenerateTokens_opens (by simp [World.setTenant]) hu
    (hfresh.invalidate user.id _ (Nat.le_add_right _ 3)) ip

end Login

section Verify

open EmailVerification

variable {env : Env} {w : World} {c s : String} {db : Db} {u : User} {query : Fields}

theorem selects_owner (hdb : w.tenants c = some db) (hu : u ∈ db.user.rows)
    (hs : u.signupVerifyToken = s) (honly : ∀ v ∈ db.user.rows, v.signupVerifyToken = s → v = u)
    {v : User} : EmailVerification.Selects env w c (.string s) v ↔ v = u := by
  have htable : tenantDb w c = db := by simp [tenantDb, hdb]
  have hfound : db.findUserBySignupVerifyToken (fun v => v == some s) = some u :=
    Table.findFirst_of_only hu (by simp [hs]) fun v hv hp => honly v hv (by simpa using hp)
  constructor
  · rintro ⟨filter, hfilter, hfind⟩
    cases hfilter
    rw [htable, hfound] at hfind
    exact (Option.some.inj hfind).symm
  · rintro rfl
    exact ⟨_, rfl, htable ▸ hfound⟩

/-- The link of the signup mail logs its owner in. -/
theorem verify_opens (hcode : decryptClientCode env (query.get "code") = .ok c)
    (htoken : query.get "signupVerifyToken" = .string s) (hdb : w.tenants c = some db)
    (hu : u ∈ db.user.rows) (hs : u.signupVerifyToken = s)
    (honly : ∀ v ∈ db.user.rows, v.signupVerifyToken = s → v = u)
    (hunverified : u.verified = false) (htwo : u.isTwoFactorEnabled = false)
    (hfresh : FreshDraws env w.draws db) (ip : String) :
    ∃ response w' db', (verifyEmail env query ip).run w = .ok response w' ∧
      w'.tenants c = some db' ∧ withVerified.apply u ∈ db'.user.rows ∧
      Session db' u.id response := by
  have hselects {v : User} : EmailVerification.Selects env w c (query.get "signupVerifyToken") v ↔
      v = u := by
    rw [htoken]
    exact selects_owner hdb hu hs honly
  rcases verify_cases w ip hcode with ⟨-, hverified⟩ | ⟨v, hv, -, hrun⟩
  · have h := hverified u (hselects.mpr rfl)
    rw [hunverified] at h
    cases h
  · obtain rfl : v = u := hselects.mp hv
    let users := db.user.updateMany (fun r => r.email == v.email) withVerified
    let marks : Db := { db with user := users }
    have hmarks : (marked w c v).tenants c = some marks := by
      simp [marked, World.setTenant, tenantDb, hdb, marks, users]
    have hrow : withVerified.apply v ∈ marks.user.rows :=
      Table.mem_updateMany.mpr ⟨v, hu, by simp⟩
    have hfound : (marks.findUserById (User.info v).id).isSome = true := by
      rw [show (User.info v).id = (withVerified.apply v).id from rfl, Db.findUserById_of_mem hrow]
      rfl
    obtain ⟨response, w', db', hlogin, hdb', huser, hsession⟩ :=
      tenantLogin_opens hmarks htwo hfound (hfresh.of_tokens rfl) ip none none
    rw [hrun]
    exact ⟨response, w', db', hlogin, hdb', huser ▸ hrow, hsession⟩

end Verify

section Password

variable {env : LoginEnv} {w : World} {u : User}

/-- A verified user without a second factor logs in with the password of the stored hash. -/
theorem loginUser_opens (hu : u ∈ w.root.user.rows) {hash password : String}
    (hhash : u.password = some hash) (hcompare : env.bcryptCompare password hash = true)
    (hverified : u.verified = true) (htwo : u.isTwoFactorEnabled = false)
    (hfresh : FreshDraws env.toEnv w.draws w.root) (ip : String) :
    ∃ response w', (loginUser env ⟨.string u.email, .string password, ip⟩).run w = .ok response w' ∧
      Session w'.root u.id response := by
  have hfind : w.root.user.findFirst (fun v => some v.email == some u.email) = some u :=
    Table.findFirst_of_only hu (by simp) fun v hv hp =>
      Db.user_eq_of_email hv hu (by simpa using hp)
  have hlookup : findUserByEmail env (.string u.email) w = .ok (some (u, u.clientId.bind fun id =>
      (env.client w.now).findFirst fun c => c.id == id)) w := by
    simp only [findUserByEmail, sync_bind, clock_apply, queryRoot_apply, whereString, Except.map,
      hfind]
    rfl
  have hmatch : comparePassword env (.string password) u.password w = .ok true w := by
    rw [hhash, ← hcompare]
    rfl
  have hfound : ((w.root.invalidateRefreshTokens u.id).findUserById u.id).isSome = true := by
    have hkept : u ∈ (w.root.invalidateRefreshTokens u.id).user.rows := hu
    rw [Db.findUserById_of_mem hkept]
    rfl
  obtain ⟨response, w', hrun, -, hsession⟩ := @login_opens env.toEnv (User.info u)
    { w with root := w.root.invalidateRefreshTokens u.id } htwo hfound (hfresh.invalidate u.id) ip
    none none
  exact ⟨response, w', (RejectedLogin.run_loginUser env hlookup hmatch hverified).trans hrun,
    hsession⟩

end Password

/-- A verified account without a second factor. -/
structure Account (uid email : String) (u : User) : Prop where
  id : u.id = uid
  email : u.email = email
  verified : u.verified = true
  single : u.isTwoFactorEnabled = false

/-- The reset token is stored for the account, and for no other. -/
structure Resettable (token uid email : String) (expires : Nat) (w : World) : Prop where
  row : ∃ u ∈ w.root.user.rows, Account uid email u ∧ u.resetPasswordToken = some token ∧
    u.resetPasswordExpires = some expires
  only : ∀ v ∈ w.root.user.rows, v.resetPasswordToken = some token → v.id = uid

/-- The account has this password. -/
def Admits (env : LoginEnv) (password uid email : String) (w : World) : Prop :=
  ∃ u ∈ w.root.user.rows, Account uid email u ∧
    ∃ hash, u.password = some hash ∧ env.bcryptCompare password hash = true

section Reset

variable {env : LoginEnv} {w : World} {u : User} {T uid email : String} {expires : Nat}

/-- The request names the user, by the id or, without one, by the address. -/
def Names (cmd : UpdateResetPasswordRequestCommand) (u : User) : Prop :=
  cmd.id = .string u.id ∧ u.id ≠ "" ∨
    isTruthy cmd.id = false ∧ cmd.email = .string u.email ∧ u.email ≠ ""

/-- The request finds the user it names, and reads the client of the row. -/
theorem run_lookup {cmd : UpdateResetPasswordRequestCommand} (hu : u ∈ w.root.user.rows)
    (hnames : Names cmd u) :
    (!isTruthy cmd.id && !isTruthy cmd.email) = false ∧
      MailedTokens.lookup env cmd w =
        queryRoot (fun _ => (withClient env w.now u).map some) w := by
  unfold MailedTokens.lookup
  rcases hnames with ⟨hid, hne⟩ | ⟨hid, hemail, hne⟩
  · have htruthy : isTruthy cmd.id = true := by simp [hid, isTruthy, hne]
    refine ⟨by simp [htruthy], ?_⟩
    rw [if_pos htruthy, hid]
    simp [getUserByIdForClientAdmin, queryRoot_apply, Db.findUserById_of_mem hu]
  · have hfind : w.root.findUserByEmail u.email = some u :=
      Table.findFirst_key (k := User.email) (by simp [Keyed.keys]) hu
    refine ⟨by simp [hemail, isTruthy, hne], ?_⟩
    rw [if_neg (by simp [hid]), hemail]
    simp [getUserByEmailForClientAdmin, queryRoot_apply, hfind]

/-- A user whose client is missing is mailed nothing: the lookup reads the name of the client. -/
theorem request_without_client {cmd : UpdateResetPasswordRequestCommand}
    (hu : u ∈ w.root.user.rows) (hnames : Names cmd u)
    (hclient : withClient env w.now u = .error (nullProperty "name")) :
    (updateResetPasswordRequest env cmd).run w = .error (nullProperty "name") w := by
  obtain ⟨hasked, hlookup⟩ := @run_lookup env w u cmd hu hnames
  simp only [hclient, queryRoot_apply, Except.map] at hlookup
  unfold updateResetPasswordRequest
  rw [hasked]
  change (Async.await (MailedTokens.lookup env cmd) >>= _).run w = _
  rw [Async.run_bind, Async.run_await, hlookup]

/-- The request mails a token that can be used for half an hour. -/
theorem request_mails {cmd : UpdateResetPasswordRequestCommand} (hu : u ∈ w.root.user.rows)
    (hnames : Names cmd u) (hclient : ∃ client, withClient env w.now u = .ok (u, client))
    (haccount : Account uid email u)
    (hfresh : ∀ v ∈ w.root.user.rows, v.resetPasswordToken ≠ some (env.uuidv4 w.draws)) :
    ∃ reply w', (updateResetPasswordRequest env cmd).run w = .ok reply w' ∧
      reply.2 = ⟨email, resetPasswordUrl (env.uuidv4 w.draws)⟩ ∧
      Resettable (env.uuidv4 w.draws) uid email (w.now + minutes resetExpireMinutes) w' := by
  obtain ⟨client, hclient⟩ := hclient
  obtain ⟨hasked, hlookup⟩ := @run_lookup env w u cmd hu hnames
  simp only [hclient, queryRoot_apply, Except.map] at hlookup
  obtain ⟨rfl, rfl, hverified, htwo⟩ := haccount
  let data := withResetPassword (env.uuidv4 w.draws) (w.now + minutes resetExpireMinutes)
  let users := w.root.user.updateMany (fun v => v.id == u.id) data
  have hrun : (updateResetPasswordRequest env cmd).run w =
      .ok ("비밀번호 재설정 링크가 이메일로 발송되었습니다.", ⟨u.email, resetPasswordUrl (env.uuidv4 w.draws)⟩)
        { w with root := { w.root with user := users }, draws := w.draws + 1 } := by
    unfold updateResetPasswordRequest
    rw [hasked]
    change (Async.await (MailedTokens.lookup env cmd) >>= _).run w = _
    rw [Async.run_bind, Async.run_await, hlookup]
    simp [Db.updateUserById_of_mem hu, users, data]
  refine ⟨_, _, hrun, rfl, ?_, ?_⟩
  · exact ⟨data.apply u, Table.mem_updateMany.mpr ⟨u, hu, by simp⟩,
      ⟨rfl, rfl, hverified, htwo⟩, rfl, rfl⟩
  · intro v hv htoken
    obtain ⟨v₀, hv₀, rfl⟩ := Table.mem_updateMany.mp hv
    by_cases hid : (v₀.id == u.id) = true
    · rw [if_pos hid]
      exact beq_iff_eq.mp hid
    · rw [if_neg hid] at htoken
      exact absurd htoken (hfresh v₀ hv₀)

/-- A new password is stored for the token, and the token is used up. -/
theorem confirm_stores (hcompare : ∀ p n, env.bcryptCompare p (env.bcryptHash p n) = true)
    (h : Resettable T uid email expires w) (hnow : w.now ≤ expires) (p : String) :
    ∃ m w', (resetPassword env.toEnv
        [("resetPasswordToken", .string T), ("newPassword", .string p)]).run w = .ok m w' ∧
      Admits env p uid email w' ∧ ∀ v ∈ w'.root.user.rows, v.resetPasswordToken ≠ some T := by
  obtain ⟨u, hu, haccount, htoken, hexpires⟩ := h.row
  have hselects : ResetPassword.Selects env.toEnv w (.string T) u :=
    ⟨by simp [htoken], expires, hexpires, hnow⟩
  rcases ResetPassword.confirm_cases env.toEnv w (.string T) (.string p) with
    ⟨-, hno | hno⟩ | ⟨v, q, hv, hsel, hq, hrun⟩
  · exact absurd rfl (hno p)
  · exact absurd hselects (hno u hu)
  · cases hq
    -- The query finds the row of the account, the only one that holds the token.
    have hheld : v.resetPasswordToken = some T := by simpa using hsel.1
    obtain rfl : v = u := Db.user_eq_of_id hv hu ((h.only v hv hheld).trans haccount.id.symm)
    refine ⟨_, _, hrun, ?_, fun r hr hr' => ?_⟩
    · exact ⟨_, ResetPassword.mem_rewritten_self w hv _,
        ⟨haccount.id, haccount.email, haccount.verified, haccount.single⟩, _, rfl, hcompare p _⟩
    · obtain ⟨r₀, hr₀, rfl⟩ := Table.mem_updateMany.mp hr
      by_cases hid : (r₀.id == v.id) = true
      · rw [if_pos hid] at hr'
        cases hr'
      · rw [if_neg hid] at hr'
        exact hid (beq_iff_eq.mpr ((h.only r₀ hr₀ hr').trans haccount.id.symm))

/-- The account is entered with its password. -/
theorem admitted (h : Admits env T uid email w) (hfresh : FreshDraws env.toEnv w.draws w.root)
    (ip : String) :
    ∃ response w', (loginUser env ⟨.string email, .string T, ip⟩).run w = .ok response w' ∧
      Session w'.root uid response := by
  obtain ⟨u, hu, haccount, hash, hhash, hcompare⟩ := h
  obtain ⟨rfl, rfl, hverified, htwo⟩ := haccount
  exact loginUser_opens hu hhash hcompare hverified htwo hfresh ip

/-- Whoever can read the mail gets in again: the request mails a token, the token stores
any new password once, and the password opens a session. Between the calls the state may
change as it likes, as long as the account and its token, or its password, stay. -/
theorem reset_restores_access (env : LoginEnv) (w : World) (u : User)
    (cmd : UpdateResetPasswordRequestCommand) (uid email : String) (hu : u ∈ w.root.user.rows)
    (hnames : Names cmd u) (hclient : ∃ client, withClient env w.now u = .ok (u, client))
    (haccount : Account uid email u)
    (hfresh : ∀ v ∈ w.root.user.rows, v.resetPasswordToken ≠ some (env.uuidv4 w.draws))
    (hcompare : ∀ p n, env.bcryptCompare p (env.bcryptHash p n) = true) :
    ∃ T reply w₁, (updateResetPasswordRequest env cmd).run w = .ok reply w₁ ∧
      reply.2 = ⟨email, resetPasswordUrl T⟩ ∧
      Resettable T uid email (w.now + minutes resetExpireMinutes) w₁ ∧
      ∀ w₂, Resettable T uid email (w.now + minutes resetExpireMinutes) w₂ →
        w₂.now ≤ w.now + minutes resetExpireMinutes →
        ∀ p, ∃ m w₃, (resetPassword env.toEnv
            [("resetPasswordToken", .string T), ("newPassword", .string p)]).run w₂ = .ok m w₃ ∧
          Admits env p uid email w₃ ∧ (∀ v ∈ w₃.root.user.rows, v.resetPasswordToken ≠ some T) ∧
          ∀ w₄, Admits env p uid email w₄ → FreshDraws env.toEnv w₄.draws w₄.root → ∀ ip,
            ∃ response w₅, (loginUser env ⟨.string email, .string p, ip⟩).run w₄ = .ok response w₅ ∧
              Session w₅.root uid response := by
  obtain ⟨reply, w₁, hrequest, hreply, hresettable⟩ :=
    request_mails hu hnames hclient haccount hfresh
  refine ⟨_, reply, w₁, hrequest, hreply, hresettable, fun w₂ h₂ hnow p => ?_⟩
  obtain ⟨m, w₃, hconfirm, hadmits, hspent⟩ := confirm_stores hcompare h₂ hnow p
  exact ⟨m, w₃, hconfirm, hadmits, hspent, fun w₄ h₄ hdraws ip => admitted h₄ hdraws ip⟩

end Reset

/-- Hashes carry the prefix of the algorithm, and one client has users. -/
def acmeEnv : LoginEnv :=
  { LoginEnv.sample with
    bcryptHash := fun password _ => "$2b$10$" ++ password
    bcryptCompare := fun password hash => hash == "$2b$10$" ++ password
    client := fun _ => .singleton (Tenant.Client.provisioned "acme") }

def acmeUser : User := { User.sample with clientId := some (Tenant.Client.provisioned "acme").id }

def acmeWorld : World := .start 1000 { Db.empty with user := .singleton acmeUser }

theorem forgotten_password : ∃ T reply w₁,
    (updateResetPasswordRequest acmeEnv ⟨.undefined, .string "hong@example.com"⟩).run acmeWorld =
        .ok reply w₁ ∧
      reply.2 = ⟨"hong@example.com", resetPasswordUrl T⟩ ∧
      ∀ w₂, Resettable T acmeUser.id "hong@example.com" 1801000 w₂ → w₂.now ≤ 1801000 →
        ∃ m w₃, (resetPassword acmeEnv.toEnv
            [("resetPasswordToken", .string T), ("newPassword", .string "n3wPassw0rd")]).run w₂ =
              .ok m w₃ ∧
          Admits acmeEnv "n3wPassw0rd" acmeUser.id "hong@example.com" w₃ ∧
          ∀ w₄, Admits acmeEnv "n3wPassw0rd" acmeUser.id "hong@example.com" w₄ →
            FreshDraws acmeEnv.toEnv w₄.draws w₄.root → ∃ response w₅,
              (loginUser acmeEnv ⟨.string "hong@example.com", .string "n3wPassw0rd", "10.0.0.1"⟩).run
                w₄ = .ok response w₅ ∧ Session w₅.root acmeUser.id response := by
  have hnames : Names ⟨.undefined, .string "hong@example.com"⟩ acmeUser :=
    Or.inr ⟨rfl, rfl, by decide⟩
  have hfresh : ∀ v ∈ acmeWorld.root.user.rows,
      v.resetPasswordToken ≠ some (acmeEnv.uuidv4 acmeWorld.draws) := by
    decide
  obtain ⟨T, reply, w₁, hrequest, hreply, -, hconfirm⟩ := reset_restores_access acmeEnv acmeWorld
    acmeUser _ acmeUser.id "hong@example.com" (List.mem_singleton.mpr rfl) hnames ⟨_, rfl⟩
    ⟨rfl, rfl, rfl, rfl⟩ hfresh fun p n => beq_self_eq_true _
  refine ⟨T, reply, w₁, hrequest, hreply, fun w₂ h₂ hnow => ?_⟩
  obtain ⟨m, w₃, hrun, hadmits, -, hlogin⟩ := hconfirm w₂ h₂ hnow "n3wPassw0rd"
  exact ⟨m, w₃, hrun, hadmits, fun w₄ h₄ hdraws => hlogin w₄ h₄ hdraws "10.0.0.1"⟩

end NestUserService.Auth.MailToSession
