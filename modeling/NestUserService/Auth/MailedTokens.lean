import NestUserService.Lib.Gate
import NestUserService.Auth.EmailVerification
import NestUserService.Auth.LoginHandlers

/-!
# Tokens that were sent by mail

Both links are checked against a row first, and used up by a later update of the row by
another key. The updates are gates: the results are about the runs in which every call
that executes its update finds the row as it was checked.
-/

namespace NestUserService.Auth.MailedTokens

open Lib NestUserService.Core Shared EmailVerification

section Signup

variable (env : Env) (c t : String)

/-- The row that the token finds. -/
def signedUpRow (w : World) : Option User :=
  (tenantDb w c).findUserBySignupVerifyToken fun v => v == some t

/-- The row of the token is not verified yet. -/
def Unverified (w : World) : Prop := ∃ u ∈ signedUpRow c t w, u.verified = false

instance (w : World) : Decidable (Unverified c t w) :=
  inferInstanceAs (Decidable (∃ u ∈ signedUpRow c t w, _))

/-- What is left of a call that is about to mark the row. -/
def marking (user : User) (ip : String) : App LoginResponse := do
  Async.await (writeTenant c fun db => db.updateUserByEmail user.email withVerified)
  tenantLogin env c (User.info user) ip none none

/-- A row may become verified, under the same address and token. -/
structure Marks (u u' : User) : Prop where
  email : u'.email = u.email
  token : u'.signupVerifyToken = u.signupVerifyToken
  verified : u.verified = true → u'.verified = true

def Verifies (w w' : World) : Prop := Table.Related Marks (tenantDb w c).user (tenantDb w' c).user

/-- The row of the token has the address of the user. -/
def Finds (user : User) (w : World) : Prop := ∃ u ∈ signedUpRow c t w, u.email = user.email

variable {env c t} {w w' w'' : World}

theorem Marks.refl (u : User) : Marks u u := ⟨rfl, rfl, id⟩

theorem Marks.trans (u u' u'' : User) (h : Marks u u') (h' : Marks u' u'') : Marks u u'' :=
  ⟨h'.email.trans h.email, h'.token.trans h.token, fun hv => h'.verified (h.verified hv)⟩

theorem Verifies.of_users (h : (tenantDb w' c).user = (tenantDb w c).user) : Verifies c w w' := by
  unfold Verifies
  rw [h]
  exact .refl Marks.refl _

theorem Verifies.trans (w w' w'' : World) (h : Verifies c w w') (h' : Verifies c w' w'') :
    Verifies c w w'' :=
  Table.Related.trans Marks.trans h h'

theorem Verifies.signedUpRow (h : Verifies c w w') :
    Option.Rel Marks (signedUpRow c t w) (signedUpRow c t w') :=
  Table.Related.findFirst h fun u u' huu => by rw [huu.token]

theorem Verifies.unverified (h : Verifies c w w') (hu : Unverified c t w') : Unverified c t w := by
  obtain ⟨u', hu', hv⟩ := hu
  have hrel := h.signedUpRow (t := t)
  rw [Option.mem_def.mp hu'] at hrel
  obtain ⟨u, hu, huu⟩ := Table.rel_some_right hrel
  refine ⟨u, hu, ?_⟩
  by_contra hne
  rw [huu.verified (by simpa using hne)] at hv
  cases hv

theorem stable_finds (user : User) : Async.Stable (Verifies c) (Finds c t user) := by
  rintro w w' h ⟨u, hu, he⟩
  have hrel := h.signedUpRow (t := t)
  rw [Option.mem_def.mp hu] at hrel
  obtain ⟨u', hu', huu⟩ := Table.rel_some_left hrel
  exact ⟨u', hu', huu.email.trans he⟩

/-- In front of its update a call only reads. -/
def Reads (c : String) (w w' : World) : Prop := w'.tenants c = w.tenants c

theorem Reads.verifies (w w' : World) (h : Reads c w w') : Verifies c w w' := by
  refine .of_users ?_
  unfold tenantDb
  rw [h]

theorem gated_verify {encryptedClientCode : Arg} {V : LoginResponse → World → Prop}
    (hcode : decryptClientCode env encryptedClientCode = .ok c) (ip : String) (w : World) :
    Async.Gated (Verifies c) (Reads c)
      (fun x w => ∃ user, x = marking env c user ip ∧ Finds c t user w) V
      (verifyUserEmail env { encryptedClientCode, signupVerifyToken := .string t, ip }) w := by
  have hclient (w : World) : Async.Moves (Verifies c) (Reads c) (fun _ _ => True)
      (Async.await (getTenantClient c)) w := by
    refine Async.Moves.await (P := fun _ => True) (fun _ _ _ h => h) trivial fun s _ =>
      ⟨?_, fun _ _ _ => trivial⟩
    rw [finalState_getTenantClient]
    exact rfl
  have hfind : Async.Moves (Verifies c) (Reads c)
      (fun found w => ∀ user : User, found = some user → Finds c t user w)
      (tenantFindUserBySignupVerifyToken env c (.string t)) w := by
    refine (hclient w).bind fun _ s _ => ?_
    refine Async.Moves.await (P := fun _ => True) (fun _ _ _ h => h) trivial fun s _ => ?_
    cases hdb : s.tenants c with
    | none =>
      simp only [queryTenant, hdb]
      exact ⟨rfl, fun _ _ h => by cases h⟩
    | some db =>
      rw [queryTenant_apply hdb]
      refine ⟨rfl, fun found s' h user huser => ?_⟩
      cases h
      refine ⟨user, ?_, rfl⟩
      unfold signedUpRow tenantDb
      rw [hdb]
      exact huser
  unfold verifyUserEmail
  rw [hcode]
  refine Async.Gated.bind hfind fun found s hs => ?_
  cases found with
  | none => exact Async.Gated.throw _ s
  | some user =>
    refine Async.Gated.ite (fun _ => Async.Gated.throw _ s) fun _ => ?_
    unfold tenantUpdateUserVerifiedTrue
    rw [Async.bind_assoc]
    have hkeep := (hclient s).keep (stable_finds user)
      (fun a b hf hr => ⟨hr, stable_finds user a b (hr.verifies) hf⟩) (hs user rfl)
    exact Async.Gated.bind hkeep fun _ s' hs' =>
      Async.Gated.gate fun s'' hr => ⟨user, rfl, stable_finds user _ _ hr hs'.2⟩

/-- Marking the row of an open token verifies it. -/
theorem marking_step {user : User} {ip : String} {u : World → World} {n : World → App LoginResponse}
    (h : marking env c user ip = .step u n) (hfinds : Finds c t user w) :
    Verifies c w (u w) ∧ ¬ Unverified c t (u w) ∧
      n w = tenantLogin env c (User.info user) ip none none := by
  obtain ⟨row, hrow, he⟩ := hfinds
  have hm : row ∈ (tenantDb w c).user.rows := (Table.findFirst_mem hrow).1
  cases hdb : w.tenants c with
  | none =>
    rw [tenantDb, hdb] at hm
    exact absurd hm List.not_mem_nil
  | some db =>
    have htd : tenantDb w c = db := by simp [tenantDb, hdb]
    rw [htd] at hm
    let db' : Db := { db with user := db.user.updateMany (fun v => v.email == user.email) withVerified }
    have hwrite : writeTenant c (fun db => db.updateUserByEmail user.email withVerified) w =
        .ok () (w.setTenant c db') := by
      rw [writeTenant_apply hdb, ← he, Db.updateUserByEmail_of_mem hm, he]
    rcases Async.step_of_await_bind h w with ⟨_, s', hx, hu, hn⟩ | ⟨e, s', hx, -, -⟩
    · rw [hwrite] at hx
      cases hx
      refine ⟨?_, ?_, hn⟩
      · rw [hu]
        unfold Verifies
        rw [tenantDb_setTenant, htd]
        refine Table.related_updateMany (fun v => ?_) db.user
        by_cases hv : (v.email == user.email) = true
        · rw [if_pos hv]
          exact ⟨rfl, rfl, fun _ => rfl⟩
        · rw [if_neg hv]
          exact Marks.refl v
      · rw [hu]
        rintro ⟨v, hv, hun⟩
        unfold signedUpRow at hv hrow
        rw [tenantDb_setTenant] at hv
        rw [htd] at hrow
        change (db.user.updateMany _ _).findFirst _ = some v at hv
        rw [Table.findFirst_updateMany fun _ => rfl,
          show db.user.findFirst (fun u => some u.signupVerifyToken == some t) = some row from hrow]
          at hv
        cases hv
        simp [he, withVerified] at hun
    · rw [hwrite] at hx
      cases hx

variable {ι : Type} [DecidableEq ι] {ip : ι → String} {p : Threads World Exn LoginResponse ι}

/-- The update that uses up the token of a signup mail. -/
def signupGate (env : Env) (c t : String) (ip : ι → String) : Gate World Exn LoginResponse ι where
  waits := Reads c
  moves := Verifies c
  behind := Verifies c
  isOpen := Unverified c t
  before _ := True
  after _ := True
  entry i x w := ∃ user, x = marking env c user (ip i) ∧ Finds c t user w
  early _ _ _ := False
  waits_refl _ := rfl
  waits_trans _ _ _ h h' := h'.trans h
  moves_trans := Verifies.trans
  moves_of_waits := Reads.verifies
  moves_of_behind _ _ h := h
  closed _ _ h hn hu := hn (h.unverified hu)
  before_stable _ _ _ _ := trivial
  after_stable _ _ _ _ := trivial
  early_stable _ _ _ _ _ h := h
  pass i u n s hentry _ _ := by
    obtain ⟨user, hmarking, hfinds⟩ := hentry
    obtain ⟨hmoves, hclosed, hn⟩ := marking_step hmarking.symm hfinds
    rw [hn]
    exact ⟨hmoves, hclosed, trivial, ((guarantees_tenantLogin env c (User.info user) (ip i) none).mono
      (fun w w' h => ⟨.of_users h.user, trivial⟩) fun _ h => h).moves _⟩

/-- A call that is about to mark the row of the token finds it unverified. -/
def MarksUnverified (env : Env) (encryptedClientCode : Arg) (t : String) (ip : ι → String)
    (p : Threads World Exn LoginResponse ι) (i : ι) : Prop :=
  ∀ c user, decryptClientCode env encryptedClientCode = .ok c → Finds c t user p.state →
    p.rest i = marking env c user (ip i) → Unverified c t p.state

theorem verified_at_most_once {encryptedClientCode : Arg}
    (h : Threads.Runs (Elapses fun _ => True) (MarksUnverified env encryptedClientCode t ip)
      ⟨w, fun i => verifyUserEmail env
        { encryptedClientCode, signupVerifyToken := .string t, ip := ip i }⟩ p)
    {i j : ι} {a b : LoginResponse} (hi : p.rest i = .ret a) (hj : p.rest j = .ret b) : i = j := by
  cases hcode : decryptClientCode env encryptedClientCode with
  | error e =>
    have hfail : ∀ k, p.rest k = .fail e := by
      refine h.invariant (I := fun q => ∀ k, q.rest k = .fail e) (fun l q q' hstep hq => ?_) fun k => ?_
      · cases hstep with
        | env _ => exact hq
        | @call _ k u n hk _ =>
          rw [hq k] at hk
          cases hk
      · simp only [verifyUserEmail, hcode]
        rfl
    rw [hfail i] at hi
    cases hi
  | ok c =>
    let G := signupGate env c t ip
    have henv (s s' : World) (he : Elapses (fun _ => True) s s') : G.waits s s' := by
      obtain ⟨now, rfl, -⟩ := he
      exact rfl
    have hkept : G.Kept (MarksUnverified env encryptedClientCode t ip) := by
      intro q k u n hg hk hentry
      obtain ⟨user, hmarking, hfinds⟩ := hentry
      exact Or.inl (hg c user hcode hfinds (hk.trans hmarking))
    have hrace : G.Race p := Gate.Race.runs henv hkept h
      (.none trivial fun k => gated_verify hcode (ip k) w)
    exact hrace.returned_once hi hj id id

end Signup

section Reset

variable {env : LoginEnv} {t uid email : String} {expires draws : Nat}

/-- A request that concerns the reset token. -/
inductive ResetCall where
  | confirm (newPassword : Arg)
  | request (cmd : UpdateResetPasswordRequestCommand)

def ResetCall.program (env : LoginEnv) (t : String) : ResetCall → App String
  | confirm newPassword => updateResetPasswordConfirm env.toEnv { token := .string t, newPassword }
  | request cmd => do
    let reply ← updateResetPasswordRequest env cmd
    return reply.1

/-- The call asks for a new token for the user of that id and address. -/
def ResetCall.Renews (uid email : String) : ResetCall → Prop
  | confirm _ => False
  | request cmd => if isTruthy cmd.id then cmd.id = .string uid else cmd.email = .string email

/-- The user holds the token, until it expires. -/
structure Issued (t uid email : String) (expires : Nat) (w : World) : Prop where
  holder : ∃ u ∈ w.root.user.rows, u.id = uid ∧ u.email = email ∧
    u.resetPasswordToken = some t ∧ u.resetPasswordExpires = some expires
  only : ∀ u ∈ w.root.user.rows, u.resetPasswordToken = some t →
    u.id = uid ∧ u.resetPasswordExpires = some expires

/-- The user holds the token, and it has not expired. -/
def Current (t uid : String) (w : World) : Prop :=
  ∃ u ∈ w.root.user.rows, u.id = uid ∧ u.resetPasswordToken = some t ∧
    u.resetPasswordExpires.any fun e => decide (w.now ≤ e)

instance (w : World) : Decidable (Current t uid w) :=
  inferInstanceAs (Decidable (∃ u ∈ w.root.user.rows, _))

/-- What is left of a call that is about to store the new password. -/
def storing (id hashedPassword : String) : App String := do
  Async.await (writeRoot fun db => db.updateUserById id (withPassword hashedPassword))
  return "비밀번호가 성공적으로 변경되었습니다."

/-- A row does not come to hold the token. -/
structure Keeps (t : String) (u u' : User) : Prop where
  id : u'.id = u.id
  email : u'.email = u.email
  token : u'.resetPasswordToken = some t →
    u.resetPasswordToken = some t ∧ u'.resetPasswordExpires = u.resetPasswordExpires

/-- Time passes, and no row comes to hold the token. -/
structure Resets (t : String) (w w' : World) : Prop where
  now : w.now ≤ w'.now
  rows : Table.Related (Keeps t) w.root.user w'.root.user

/-- The token is current, as far as it has been drawn. -/
def Pending (t uid : String) (draws : Nat) (w : World) : Prop := draws ≤ w.draws → Current t uid w

/-- What any call does once the token has been drawn. -/
def ResetSteps (t : String) (draws : Nat) (w w' : World) : Prop :=
  draws ≤ w.draws → draws ≤ w'.draws ∧ Resets t w w'

/-- The token has been drawn, and belongs to the user alone. -/
structure Known (t uid email : String) (expires draws : Nat) (w : World) : Prop where
  drawn : draws ≤ w.draws
  user : ∃ u ∈ w.root.user.rows, u.id = uid ∧ u.email = email
  only : ∀ u ∈ w.root.user.rows, u.resetPasswordToken = some t →
    u.id = uid ∧ u.resetPasswordExpires = some expires

variable {w w' w'' : World}

theorem Keeps.refl (u : User) : Keeps t u u := ⟨rfl, rfl, fun h => ⟨h, rfl⟩⟩

theorem Keeps.trans (u u' u'' : User) (h : Keeps t u u') (h' : Keeps t u' u'') : Keeps t u u'' := by
  refine ⟨h'.id.trans h.id, h'.email.trans h.email, fun ht => ?_⟩
  obtain ⟨ht', he'⟩ := h'.token ht
  obtain ⟨ht, he⟩ := h.token ht'
  exact ⟨ht, he'.trans he⟩

theorem Resets.of_users (hnow : w.now ≤ w'.now) (h : w'.root.user = w.root.user) :
    Resets t w w' := by
  refine ⟨hnow, ?_⟩
  rw [h]
  exact .refl Keeps.refl _

theorem Resets.trans (h : Resets t w w') (h' : Resets t w' w'') : Resets t w w'' :=
  ⟨h.now.trans h'.now, Table.Related.trans Keeps.trans h.rows h'.rows⟩

/-- An expired or replaced token does not become current again. -/
theorem Resets.current (h : Resets t w w') (hc : Current t uid w') : Current t uid w := by
  obtain ⟨u', hu', hid, ht', hexp⟩ := hc
  obtain ⟨u, hu, hk⟩ := h.rows.source hu'
  obtain ⟨ht, he⟩ := hk.token ht'
  refine ⟨u, hu, hk.id.symm.trans hid, ht, ?_⟩
  rw [← he]
  obtain ⟨e, heq, hle⟩ := (Option.any_eq_true _ _).mp hexp
  refine (Option.any_eq_true _ _).mpr ⟨e, heq, ?_⟩
  have hnow := h.now
  have hle' : w'.now ≤ e := by simpa using hle
  simp only [decide_eq_true_eq]
  omega

theorem ResetSteps.of_resets (hdraws : w.draws ≤ w'.draws) (h : Resets t w w') :
    ResetSteps t draws w w' :=
  fun hw => ⟨Nat.le_trans hw hdraws, h⟩

theorem ResetSteps.refl (w : World) : ResetSteps t draws w w :=
  .of_resets (Nat.le_refl _) (.of_users (Nat.le_refl _) rfl)

theorem ResetSteps.trans (w w' w'' : World) (h : ResetSteps t draws w w')
    (h' : ResetSteps t draws w' w'') : ResetSteps t draws w w'' := by
  intro hw
  obtain ⟨hw', hr⟩ := h hw
  obtain ⟨hw'', hr'⟩ := h' hw'
  exact ⟨hw'', hr.trans hr'⟩

theorem stable_known : Async.Stable (ResetSteps t draws) (Known t uid email expires draws) := by
  intro w w' h hk
  obtain ⟨hdrawn, hr⟩ := h hk.drawn
  refine ⟨hdrawn, ?_, fun u' hu' ht' => ?_⟩
  · obtain ⟨u, hu, hid, hemail⟩ := hk.user
    obtain ⟨u', hu', hkeeps⟩ := hr.rows.target hu
    exact ⟨u', hu', hkeeps.id.trans hid, hkeeps.email.trans hemail⟩
  · obtain ⟨u, hu, hkeeps⟩ := hr.rows.source hu'
    obtain ⟨ht, he⟩ := hkeeps.token ht'
    obtain ⟨hid, hexp⟩ := hk.only u hu ht
    exact ⟨hkeeps.id.trans hid, he.trans hexp⟩

/-- An update by id that gives no row the token. -/
theorem related_updateById {db db' : Db} {id : String} {f : Patch User}
    (hf : ∀ u, Keeps t u (f.apply u)) (h : db.updateUserById id f = .ok db') :
    Table.Related (Keeps t) db.user db'.user := by
  unfold Db.updateUserById at h
  cases ht : db.user.update (fun u => u.id == id) f with
  | none => simp [ht] at h
  | some table =>
    rw [ht] at h
    cases h
    rw [Table.update_some ht]
    refine Table.related_updateMany (fun u => ?_) db.user
    by_cases hu : (u.id == id) = true
    · rw [if_pos hu]
      exact hf u
    · rw [if_neg hu]
      exact Keeps.refl u

theorem keeps_withPassword (p : String) (u : User) : Keeps t u ((withPassword p).apply u) :=
  ⟨rfl, rfl, fun h => by cases h⟩

theorem keeps_withResetPassword {token : String} (h : token ≠ t) (e : Nat) (u : User) :
    Keeps t u ((withResetPassword token e).apply u) :=
  ⟨rfl, rfl, fun ht => absurd (Option.some.inj ht) h⟩

/-- Rows of an id that were all updated hold what the update gives them. -/
theorem updated_of_id {db db' : Db} {id : String} {f : Patch User}
    (h : db.updateUserById id f = .ok db') {u : User} (hu : u ∈ db'.user.rows) (hid : u.id = id) :
    ∃ u₀, u = f.apply u₀ := by
  unfold Db.updateUserById at h
  cases ht : db.user.update (fun u => u.id == id) f with
  | none => simp [ht] at h
  | some table =>
    rw [ht] at h
    cases h
    rw [Table.update_some ht] at hu
    obtain ⟨u₀, -, rfl⟩ := Table.mem_updateMany.mp hu
    by_cases h₀ : (u₀.id == id) = true
    · rw [if_pos h₀]
      exact ⟨u₀, rfl⟩
    · rw [if_neg h₀] at hid
      exact absurd (by simpa using hid) h₀

/-- What a call at the gate is about to do, and to whom. -/
def StoresFor (uid : String) (x : App String) (_ : World) : Prop :=
  ∃ hashedPassword, x = storing uid hashedPassword

theorem gated_confirm {V : String → World → Prop} (newPassword : Arg) {w : World}
    (hw : Known t uid email expires draws w) :
    Async.Gated (ResetSteps t draws) (ResetSteps t draws) (StoresFor uid) V
      (updateResetPasswordConfirm env.toEnv { token := .string t, newPassword }) w := by
  have hfind : Async.Moves (ResetSteps t draws) (ResetSteps t draws)
      (fun found _ => ∀ user : User, found = some user → user.id = uid)
      (Async.await (findResetPasswordValidToken env.toEnv (.string t))) w := by
    refine Async.Moves.await stable_known hw fun s hs => ?_
    simp only [findResetPasswordValidToken, sync_bind, clock_apply, queryRoot_apply, whereString,
      Except.map]
    refine ⟨.refl s, fun found s' h user huser => ?_⟩
    cases h
    obtain ⟨hm, hp⟩ := Table.findFirst_mem huser
    have ht : user.resetPasswordToken = some t := by
      have := (Bool.and_eq_true_iff.mp hp).1
      simpa using this
    exact (hs.only user hm ht).1
  refine Async.Gated.bind hfind fun found s hs => ?_
  cases found with
  | none => exact Async.Gated.throw _ s
  | some user =>
    have hhash : Async.Moves (ResetSteps t draws) (ResetSteps t draws) (fun _ _ => True)
        (Async.await (do
          let now ← clock
          if user.resetPasswordExpires.getD 0 < now then
            throw invalidResetToken
          hashPassword env.toEnv newPassword)) s := by
      refine Async.Moves.await (P := fun _ => True) (fun _ _ _ h => h) trivial fun s' _ =>
        ⟨?_, fun _ _ _ => trivial⟩
      by_cases hexp : user.resetPasswordExpires.getD 0 < s'.now
      · simp only [sync_bind, clock_apply, sync_ite, if_pos hexp, sync_throw, finalState_error]
        exact .refl s'
      · simp only [sync_bind, clock_apply, sync_ite, if_neg hexp]
        cases newPassword with
        | string p =>
          rw [hashPassword_string, finalState_ok]
          exact .of_resets (Nat.le_succ _) (.of_users (Nat.le_refl _) rfl)
        | _ => exact .refl s'
    refine Async.Gated.bind hhash fun hashed s' _ => Async.Gated.gate fun s'' _ => ⟨hashed, ?_⟩
    rw [← hs user rfl]
    rfl

/-- The lookup of a request. -/
def lookup (env : LoginEnv) (cmd : UpdateResetPasswordRequestCommand) :
    Sync (Option (User × Tenant.Client)) :=
  if isTruthy cmd.id then getUserByIdForClientAdmin env cmd.id
  else getUserByEmailForClientAdmin env cmd.email

theorem withClient_user {now : Nat} {user : User} {found : User × Tenant.Client}
    (h : withClient env now user = .ok found) : found.1 = user := by
  unfold withClient at h
  split at h
  · cases h
    rfl
  · cases h

theorem finalState_queryRoot {α : Type} (f : Db → Except Exn α) (w : World) :
    finalState (queryRoot f w) = w := by
  rw [queryRoot_apply]
  cases f w.root <;> rfl

theorem lookup_state (cmd : UpdateResetPasswordRequestCommand) (w : World) :
    finalState (lookup env cmd w) = w := by
  unfold lookup
  split
  · cases cmd.id with
    | string id =>
      simp only [getUserByIdForClientAdmin, sync_bind, clock_apply, finalState_queryRoot]
    | _ => rfl
  · cases cmd.email with
    | string email =>
      simp only [getUserByEmailForClientAdmin, sync_bind, clock_apply, finalState_queryRoot]
    | _ => rfl

theorem byId_found {arg : Arg} {w w' : World} {found : User × Tenant.Client}
    (h : getUserByIdForClientAdmin env arg w = .ok (some found) w') :
    found.1 ∈ w.root.user.rows ∧ arg = .string found.1.id := by
  cases arg with
  | string id =>
    simp only [getUserByIdForClientAdmin, sync_bind, clock_apply, queryRoot_apply] at h
    cases hu : w.root.findUserById id with
    | none => simp [hu] at h
    | some user =>
      cases hc : withClient env w.now user with
      | error e => simp [hu, hc, Except.map] at h
      | ok p =>
        simp only [hu, hc, Except.map, EStateM.Result.ok.injEq, Option.some.injEq] at h
        obtain ⟨rfl, -⟩ := h
        obtain ⟨hm, hid⟩ := Db.findUserById_some hu
        rw [withClient_user hc]
        exact ⟨hm, by rw [hid]⟩
  | _ => cases h

theorem byEmail_found {arg : Arg} {w w' : World} {found : User × Tenant.Client}
    (h : getUserByEmailForClientAdmin env arg w = .ok (some found) w') :
    found.1 ∈ w.root.user.rows ∧ arg = .string found.1.email := by
  cases arg with
  | string email =>
    simp only [getUserByEmailForClientAdmin, sync_bind, clock_apply, queryRoot_apply] at h
    cases hu : w.root.findUserByEmail email with
    | none => simp [hu] at h
    | some user =>
      cases hc : withClient env w.now user with
      | error e => simp [hu, hc, Except.map] at h
      | ok p =>
        simp only [hu, hc, Except.map, EStateM.Result.ok.injEq, Option.some.injEq] at h
        obtain ⟨rfl, -⟩ := h
        obtain ⟨hm, hp⟩ := Table.findFirst_mem hu
        rw [withClient_user hc]
        exact ⟨hm, by rw [show user.email = email by simpa using hp]⟩
  | _ => cases h

/-- A request that renews the token has found the user that holds it. -/
theorem lookup_found {cmd : UpdateResetPasswordRequestCommand} {w w' : World}
    {found : User × Tenant.Client} (hw : Known t uid email expires draws w)
    (hrenews : (ResetCall.request cmd).Renews uid email)
    (h : lookup env cmd w = .ok (some found) w') : found.1.id = uid := by
  unfold ResetCall.Renews at hrenews
  unfold lookup at h
  dsimp only at hrenews
  split at h
  · rename_i hid
    rw [if_pos hid] at hrenews
    obtain ⟨-, harg⟩ := byId_found h
    rw [hrenews] at harg
    exact (Arg.string.inj harg).symm
  · rename_i hid
    rw [if_neg hid] at hrenews
    obtain ⟨hm, harg⟩ := byEmail_found h
    rw [hrenews] at harg
    obtain ⟨u, hu, hid', he⟩ := hw.user
    rw [← Db.user_eq_of_email hu hm (he.trans (Arg.string.inj harg))]
    exact hid'

/-- A request stores a token of its own. -/
theorem moves_request (hfresh : ∀ n, draws ≤ n → env.uuidv4 n ≠ t)
    (cmd : UpdateResetPasswordRequestCommand) {w : World} (hw : Known t uid email expires draws w) :
    Async.Moves (ResetSteps t draws) (ResetSteps t draws)
      (fun _ s => (ResetCall.request cmd).Renews uid email → ¬ Pending t uid draws s)
      (updateResetPasswordRequest env cmd) w := by
  refine Async.Moves.ite (fun _ => Async.Moves.throw _ w) fun _ => ?_
  have hlookup : Async.Moves (ResetSteps t draws) (ResetSteps t draws)
      (fun found s => Known t uid email expires draws s ∧ ∀ p : User × Tenant.Client,
        found = some p → (ResetCall.request cmd).Renews uid email → p.1.id = uid)
      (Async.await (lookup env cmd)) w := by
    refine Async.Moves.await stable_known hw fun s hs => ?_
    have hstate := @lookup_state env cmd s
    refine ⟨by rw [hstate]; exact .refl s, fun found s' h => ?_⟩
    rw [h, finalState_ok] at hstate
    subst hstate
    refine ⟨hs, fun p hp hrenews => ?_⟩
    subst hp
    exact lookup_found hs hrenews h
  refine hlookup.bind fun found s hs => ?_
  obtain ⟨hs, hid⟩ := hs
  cases found with
  | none => exact Async.Moves.throw _ s
  | some p =>
    obtain ⟨user, client⟩ := p
    refine Async.Moves.bind (Q := fun _ s =>
      (ResetCall.request cmd).Renews uid email → ¬ Pending t uid draws s) ?_
      fun token s' hs' => Async.Moves.pure hs'
    refine Async.Moves.await stable_known hs fun s' hs' => ?_
    simp only [sync_bind, uuidv4_apply, clock_apply, writeRoot_apply, sync_pure]
    have hne := hfresh s'.draws hs'.drawn
    cases hdb : s'.root.updateUserById user.id _ with
    | error e =>
      refine ⟨.of_resets (Nat.le_succ _) (.of_users (Nat.le_refl _) rfl), fun _ _ h => by cases h⟩
    | ok db =>
      have hrel := related_updateById (keeps_withResetPassword hne _) hdb
      refine ⟨.of_resets (Nat.le_succ _) ⟨Nat.le_refl _, hrel⟩, fun _ s'' h hrenews hcur => ?_⟩
      cases h
      obtain ⟨u, hu, huid, ht, -⟩ := hcur (Nat.le_trans hs'.drawn (Nat.le_succ _))
      obtain ⟨u₀, rfl⟩ := updated_of_id hdb hu (huid.trans (hid _ rfl hrenews).symm)
      exact hne (Option.some.inj ht)

variable {ι : Type} [DecidableEq ι] {calls : ι → ResetCall} {p p' : Threads World Exn String ι}

def ResetCall.isConfirm : ResetCall → Bool
  | confirm _ => true
  | request _ => false

/-- What a call returns without using up the token: a request that renews it has replaced it. -/
def Replies (t uid email : String) (draws : Nat) (call : ResetCall) (w : World) : Prop :=
  call.isConfirm = false ∧ (call.Renews uid email → ¬ Pending t uid draws w)

theorem stable_not_pending :
    Async.Stable (ResetSteps t draws) fun w => ¬ Pending t uid draws w := by
  intro w w' h hn
  obtain ⟨hdrawn, hn⟩ := Classical.not_imp.mp hn
  obtain ⟨hdrawn', hr⟩ := h hdrawn
  exact Classical.not_imp.mpr ⟨hdrawn', fun hc => hn (hr.current hc)⟩

/-- Storing the password takes the token from its holder. -/
theorem storing_step {hashed : String} {u : World → World} {n : World → App String}
    (h : storing uid hashed = .step u n) {w : World} (hw : Known t uid email expires draws w) :
    ResetSteps t draws w (u w) ∧ ¬ Pending t uid draws (u w) ∧ ∃ a, n w = pure a := by
  obtain ⟨user, hm, rfl, -⟩ := hw.user
  have hdb := Db.updateUserById_of_mem hm (withPassword hashed)
  have hwrite := writeRoot_apply w fun db => db.updateUserById user.id (withPassword hashed)
  rw [hdb] at hwrite
  rcases Async.step_of_await_bind h w with ⟨_, s', hx, hu, hn⟩ | ⟨e, s', hx, -, -⟩
  · rw [hwrite] at hx
    cases hx
    rw [hu]
    refine ⟨.of_resets (Nat.le_refl _) ⟨Nat.le_refl _, related_updateById (keeps_withPassword _) hdb⟩,
      fun hc => ?_, _, hn⟩
    obtain ⟨v, hv, hid, ht, -⟩ := hc hw.drawn
    obtain ⟨v₀, rfl⟩ := updated_of_id hdb hv hid
    cases ht
  · rw [hwrite] at hx
    cases hx

/-- The update that uses up the token of a reset mail. -/
def resetGate (t uid email : String) (expires draws : Nat) (calls : ι → ResetCall) :
    Gate World Exn String ι where
  waits := ResetSteps t draws
  moves := ResetSteps t draws
  behind _ _ := False
  isOpen := Pending t uid draws
  before := Known t uid email expires draws
  after := Known t uid email expires draws
  entry _ x w := StoresFor uid x w
  early i _ := Replies t uid email draws (calls i)
  waits_refl := ResetSteps.refl
  waits_trans := ResetSteps.trans
  moves_trans := ResetSteps.trans
  moves_of_waits _ _ h := h
  moves_of_behind _ _ h := h.elim
  closed := stable_not_pending
  before_stable := stable_known
  after_stable := stable_known
  early_stable _ _ w w' h hr := ⟨hr.1, fun hrenews => stable_not_pending w w' h (hr.2 hrenews)⟩
  pass i u n s hentry _ hbefore := by
    obtain ⟨hashed, hstoring⟩ := hentry
    obtain ⟨hmoves, hclosed, a, hn⟩ := storing_step hstoring.symm hbefore
    rw [hn]
    exact ⟨hmoves, hclosed, stable_known _ _ hmoves hbefore, trivial⟩

/-- A call that is about to store a password finds the token current. -/
def StoresCurrent (t uid : String) (p : Threads World Exn String ι) (i : ι) : Prop :=
  ∀ hashed, p.rest i = storing uid hashed → Current t uid p.state

omit [DecidableEq ι] in
theorem kept_storesCurrent :
    (resetGate t uid email expires draws calls).Kept (StoresCurrent t uid) := by
  intro q i u n hg hi hentry
  obtain ⟨hashed, hstoring⟩ := hentry
  exact Or.inl fun _ => hg hashed (hi.trans hstoring)

theorem resets_race {w : World} (hissued : Issued t uid email expires w)
    (hfresh : ∀ n, w.draws ≤ n → env.uuidv4 n ≠ t)
    (h : Threads.Runs (Elapses fun _ => True) (StoresCurrent t uid)
      ⟨w, fun i => (calls i).program env t⟩ p) :
    (resetGate t uid email expires w.draws calls).Race p := by
  have hknown : Known t uid email expires w.draws w := by
    obtain ⟨u, hu, hid, he, -⟩ := hissued.holder
    exact ⟨Nat.le_refl _, ⟨u, hu, hid, he⟩, hissued.only⟩
  have henv (s s' : World) (he : Elapses (fun _ => True) s s') : ResetSteps t w.draws s s' := by
    obtain ⟨now, rfl, hle, -⟩ := he
    exact .of_resets (Nat.le_refl _) (.of_users hle rfl)
  refine Gate.Race.runs henv kept_storesCurrent h (.none hknown fun i => ?_)
  change Async.Gated _ _ _ (fun _ => Replies t uid email w.draws (calls i)) ((calls i).program env t) w
  cases hcall : calls i with
  | confirm newPassword => exact gated_confirm newPassword hknown
  | request cmd =>
    exact Async.Gated.bind (moves_request hfresh cmd hknown) fun _ s hs =>
      Async.Gated.pure ⟨rfl, hs⟩

/-- When a confirmation succeeds, the token has not expired, no other confirmation has
succeeded, and no request has replaced the token. -/
theorem success_step {w : World} (hissued : Issued t uid email expires w)
    (hfresh : ∀ n, w.draws ≤ n → env.uuidv4 n ≠ t)
    (h : Threads.Runs (Elapses fun _ => True) (StoresCurrent t uid)
      ⟨w, fun i => (calls i).program env t⟩ p) {i : ι}
    (hstep : Threads.Step (Elapses fun _ => True) (StoresCurrent t uid) (some i) p p')
    (hconfirm : (calls i).isConfirm = true) (hreturned : p'.Returned i) :
    p.state.now ≤ expires ∧
      ∀ j, p.Returned j → (calls j).isConfirm = false ∧ ¬ (calls j).Renews uid email := by
  have hrace := resets_race hissued hfresh h
  obtain ⟨a, ha⟩ := hreturned
  cases hstep with
  | @call _ _ u n hi hg =>
    have hpassing (hwait : (resetGate t uid email expires w.draws calls).Waiting i (p.rest i) p.state) :
        Pending t uid w.draws p.state := by
      rcases Gate.waiting_step kept_storesCurrent ResetSteps.refl hi hg hwait with
        ⟨-, hnext⟩ | ⟨hopen, -⟩
      · dsimp only at ha
        rw [Function.update_self] at ha
        rw [ha] at hnext
        have hfalse := hnext.1
        rw [hconfirm] at hfalse
        cases hfalse
      · exact hopen
    cases hrace with
    | none hknown hall =>
      have hpending := hpassing (hall i)
      refine ⟨?_, fun j ⟨b, hb⟩ => ?_⟩
      · obtain ⟨user, hm, -, ht, hexp⟩ := hpending hknown.drawn
        rw [(hknown.only user hm ht).2] at hexp
        simpa using hexp
      · have hwait := hall j
        rw [hb] at hwait
        exact ⟨hwait.1, fun hrenews => hwait.2 hrenews hpending⟩
    | one k hclosed _ hk hall =>
      by_cases hik : i = k
      · subst hik
        rw [hi] at hk
        exact (hk p.state (ResetSteps.refl _)).1.1.elim
      · exact absurd (hpassing (hall i hik)) hclosed

/-- A request issues its draw to one user, for thirty minutes. -/
theorem issued_of_request {cmd : UpdateResetPasswordRequestCommand} {w w' : World}
    {reply : String × ResetPasswordEvent}
    (hfresh : ∀ u ∈ w.root.user.rows, u.resetPasswordToken ≠ some (env.uuidv4 w.draws))
    (h : (updateResetPasswordRequest env cmd).run w = .ok reply w') :
    ∃ uid, Issued (env.uuidv4 w.draws) uid reply.2.email
      (w.now + minutes resetExpireMinutes) w' := by
  unfold updateResetPasswordRequest at h
  rw [Async.run_ite] at h
  split at h
  · cases h
  · obtain ⟨found, v, hlookup, h⟩ := Async.run_bind_ok h
    rw [Async.run_await] at hlookup
    have hstate := @lookup_state env cmd w
    rw [show lookup env cmd w = .ok found v from hlookup, finalState_ok] at hstate
    subst hstate
    cases found with
    | none => cases h
    | some p =>
      obtain ⟨user, client⟩ := p
      have hm : user ∈ v.root.user.rows := by
        have hfound : lookup env cmd v = .ok (some (user, client)) v := hlookup
        unfold lookup at hfound
        split at hfound
        · exact (byId_found hfound).1
        · exact (byEmail_found hfound).1
      obtain ⟨token, v', hstore, h⟩ := Async.run_bind_ok h
      rw [Async.run_await] at hstore
      simp only [sync_bind, uuidv4_apply, clock_apply, writeRoot_apply, sync_pure,
        Db.updateUserById_of_mem hm] at hstore
      cases hstore
      cases h
      have hmem {r : User} (hr : r ∈ v.root.user.rows) : (if (r.id == user.id) = true then
          (withResetPassword (env.uuidv4 v.draws) (v.now + minutes resetExpireMinutes)).apply r
          else r) ∈ (v.root.user.updateMany (fun u => u.id == user.id)
            (withResetPassword (env.uuidv4 v.draws) (v.now + minutes resetExpireMinutes))).rows :=
        Table.mem_updateMany.mpr ⟨r, hr, rfl⟩
      refine ⟨user.id, ⟨_, hmem hm, ?_⟩, fun r hr ht => ?_⟩
      · simp [withResetPassword]
      · obtain ⟨r₀, hr₀, rfl⟩ := Table.mem_updateMany.mp hr
        by_cases hid : (r₀.id == user.id) = true
        · rw [if_pos hid]
          exact ⟨show r₀.id = user.id by simpa using hid, rfl⟩
        · rw [if_neg hid] at ht
          exact absurd ht (hfresh r₀ hr₀)

end Reset

/-- In every run in which the updates find the rows as they were checked, a token is used
once: one call with the token of a signup mail returns, and a confirmation succeeds only
before the token of the reset mail has expired, was used or was replaced. -/
theorem mailed_tokens_single_use (env : LoginEnv) :
    (∀ {ι : Type} [DecidableEq ι] (encryptedClientCode : Arg) (t : String) (ip : ι → String)
      (w : World) (p : Threads World Exn LoginResponse ι),
      Threads.Runs (Elapses fun _ => True) (MarksUnverified env.toEnv encryptedClientCode t ip)
        ⟨w, fun i => verifyUserEmail env.toEnv
          { encryptedClientCode, signupVerifyToken := .string t, ip := ip i }⟩ p →
      ∀ i j, p.Returned i → p.Returned j → i = j) ∧
    (∀ (cmd : UpdateResetPasswordRequestCommand) (w w' : World)
      (reply : String × ResetPasswordEvent),
      (∀ u ∈ w.root.user.rows, u.resetPasswordToken ≠ some (env.uuidv4 w.draws)) →
      (updateResetPasswordRequest env cmd).run w = .ok reply w' →
      ∃ uid, Issued (env.uuidv4 w.draws) uid reply.2.email
        (w.now + minutes resetExpireMinutes) w') ∧
    ∀ {ι : Type} [DecidableEq ι] (calls : ι → ResetCall) (t uid email : String) (expires : Nat)
      (w : World) (p p' : Threads World Exn String ι) (i : ι),
      Issued t uid email expires w → (∀ n, w.draws ≤ n → env.uuidv4 n ≠ t) →
      Threads.Runs (Elapses fun _ => True) (StoresCurrent t uid)
        ⟨w, fun i => (calls i).program env t⟩ p →
      Threads.Step (Elapses fun _ => True) (StoresCurrent t uid) (some i) p p' →
      (calls i).isConfirm = true → p'.Returned i →
      p.state.now ≤ expires ∧
        ∀ j, p.Returned j → (calls j).isConfirm = false ∧ ¬ (calls j).Renews uid email :=
  ⟨fun _ _ _ _ _ h _ _ ⟨_, hi⟩ ⟨_, hj⟩ => verified_at_most_once h hi hj,
    fun _ _ _ _ hfresh h => issued_of_request hfresh h,
    fun _ _ _ _ _ _ _ _ _ hissued hfresh h hstep hconfirm hreturned =>
      success_step hissued hfresh h hstep hconfirm hreturned⟩

/-- Two calls with the link of a signup mail. -/
def openings : Threads World Exn LoginResponse Bool :=
  ⟨signedUpWorld, fun _ => verifyUserEmail Env.sample
    { encryptedClientCode := .string "iv:acme", signupVerifyToken := .string "v1", ip := "::1" }⟩

/-- A decidable condition under which the next step does not mark the row. -/
def LeavesUnverified : App LoginResponse → Prop
  | .step u _ => Unverified "acme" "v1" (u signedUpWorld)
  | _ => True

instance : DecidablePred LeavesUnverified
  | .step _ _ => inferInstanceAs (Decidable (Unverified _ _ _))
  | .ret _ => inferInstanceAs (Decidable True)
  | .fail _ => inferInstanceAs (Decidable True)

/-- A call that marks the row only while it is unverified. -/
def Careful (p : Threads World Exn LoginResponse Bool) (i : Bool) : Prop :=
  (signedUpRow "acme" "v1" p.state).map User.email = some signedUp.email ∧
    (Unverified "acme" "v1" p.state ∨ LeavesUnverified (p.rest i))

instance (p : Threads World Exn LoginResponse Bool) (i : Bool) : Decidable (Careful p i) :=
  inferInstanceAs (Decidable (_ ∧ _))

theorem Careful.marksUnverified (p : Threads World Exn LoginResponse Bool) (i : Bool)
    (h : Careful p i) :
    MarksUnverified Env.sample (.string "iv:acme") "v1" (fun _ : Bool => "::1") p i := by
  intro c user hcode hfinds hi
  have hc : decryptClientCode Env.sample (.string "iv:acme") = .ok "acme" := by rfl
  obtain rfl : "acme" = c := Except.ok.inj (hc.symm.trans hcode)
  obtain ⟨hemail, hopen | hleaves⟩ := h
  · exact hopen
  · obtain ⟨row, hrow, he⟩ := hfinds
    rw [Option.mem_def.mp hrow, Option.map_some, he] at hemail
    have hstart : Finds "acme" "v1" user signedUpWorld :=
      ⟨signedUp, by decide, (Option.some.inj hemail).symm⟩
    have hmarking : marking Env.sample "acme" user "::1" = .step _ _ := rfl
    rw [hi] at hleaves
    exact absurd hleaves (marking_step hmarking hstart).2.1

/-- One call runs to its end, and then the other. -/
def openedInTurn : Threads World Exn LoginResponse Bool :=
  Threads.schedule Careful (List.replicate 17 false ++ List.replicate 2 true) openings

/-- A user with a reset mail. -/
def mailedUser : User :=
  { User.sample with resetPasswordToken := some "t0", resetPasswordExpires := some 1800000 }

def mailedWorld : World := .start 1000 { Db.empty with user := .singleton mailedUser }

theorem issued_mailed : Issued "t0" User.sample.id User.sample.email 1800000 mailedWorld := by
  refine ⟨⟨mailedUser, List.mem_singleton.mpr rfl, rfl, rfl, rfl, rfl⟩, fun u hu _ => ?_⟩
  obtain rfl : u = mailedUser := List.mem_singleton.mp hu
  exact ⟨rfl, rfl⟩

theorem sample_fresh (n : Nat) : Env.sample.uuidv4 n ≠ "t0" := by
  intro h
  have hhead := congrArg (fun s => s.toList.head?) h
  simp [Env.sample, withoutColons] at hhead

/-- Two confirmations with the link of the mail. -/
def confirmations : Threads World Exn String Bool :=
  ⟨mailedWorld, fun _ => (ResetCall.confirm (.string "n3wPassw0rd")).program LoginEnv.sample "t0"⟩

/-- The first confirmation has checked the token. -/
def checked : Threads World Exn String Bool :=
  Threads.schedule (fun p _ => Current "t0" User.sample.id p.state) [false, false] confirmations

theorem mailed_tokens_once : (∀ i j, openedInTurn.Returned i → openedInTurn.Returned j → i = j) ∧
    openedInTurn.Returned false ∧ checked.state.now ≤ 1800000 ∧ ∀ j, ¬ checked.Returned j := by
  have hopened := (Threads.schedule_runs (Elapses fun _ => True) Careful
    (List.replicate 17 false ++ List.replicate 2 true) openings).mono Careful.marksUnverified
  let G (p : Threads World Exn String Bool) (_ : Bool) : Prop := Current "t0" User.sample.id p.state
  have hcurrent (p : Threads World Exn String Bool) (i : Bool) (h : G p i) :
      StoresCurrent "t0" User.sample.id p i := fun _ _ => h
  have hrun := (Threads.schedule_runs (Elapses fun _ => True) G [false, false]
    confirmations).mono hcurrent
  have hstep : Threads.Step (Elapses fun _ => True) G (some false) checked
      (Threads.advance G checked false) :=
    Threads.step_advance _ _ ⟨_, _, rfl⟩ (by decide +kernel)
  obtain ⟨hverify, -, hreset⟩ := mailed_tokens_single_use LoginEnv.sample
  obtain ⟨hnow, hothers⟩ := hreset (fun _ : Bool => .confirm (.string "n3wPassw0rd")) "t0" _ _ _ _ _
    _ false issued_mailed (fun n _ => sample_fresh n) hrun (hstep.mono hcurrent) rfl
    (by decide +kernel)
  refine ⟨hverify _ _ _ _ _ hopened, by decide +kernel, hnow, fun j hj => ?_⟩
  cases (hothers j hj).1

/-- Both calls find the row unverified. -/
def openedTogether : Threads World Exn LoginResponse Bool :=
  Threads.schedule (fun _ _ => True)
    ([false, false, true, true] ++ List.replicate 15 false ++ List.replicate 20 true) openings

/-- Both confirmations find the token before one of them takes it. -/
def confirmedTogether : Threads World Exn String Bool :=
  Threads.schedule (fun _ _ => True) [false, true, false, true, false, true] confirmations

theorem mailed_tokens_used_twice :
    (Threads.Runs (Elapses fun _ => True) (fun _ _ => True) openings openedTogether ∧
      openedTogether.Returned false ∧ openedTogether.Returned true) ∧
    Issued "t0" User.sample.id User.sample.email 1800000 mailedWorld ∧
    Threads.Runs (Elapses fun _ => True) (fun _ _ => True) confirmations confirmedTogether ∧
    confirmedTogether.Returned false ∧ confirmedTogether.Returned true :=
  ⟨⟨Threads.schedule_runs _ _ _ _, by decide +kernel, by decide +kernel⟩, issued_mailed,
    Threads.schedule_runs _ _ _ _, by decide +kernel, by decide +kernel⟩

end NestUserService.Auth.MailedTokens
