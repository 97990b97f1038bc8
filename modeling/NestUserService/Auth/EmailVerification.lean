import NestUserService.Auth.Steps

/-!
# Verifying an email address

The verify route finds its user by the query's `signupVerifyToken`, marks the row by
email, and logs in by id. The token is handed to a Prisma filter without looking at
it. The results below follow the three lookups on every tenant table and every query.
-/

namespace NestUserService.Auth.EmailVerification

open Lib NestUserService.Core Shared

/-- The database of a client code; a code without a database has no rows. -/
def tenantDb (w : World) (c : String) : Db := (w.tenants c).getD Db.empty

theorem tenantDb_setTenant (w : World) (c : String) (db : Db) :
    tenantDb (w.setTenant c db) c = db := by
  simp [tenantDb, World.setTenant]

theorem tenants_setTenant_ne (w : World) {c c' : String} (db : Db) (h : c' ≠ c) :
    (w.setTenant c db).tenants c' = w.tenants c' :=
  Function.update_of_ne h _ _

/-- Only the refresh tokens of `u` in tenant `c` may differ. -/
structure TenantFrame (c u : String) (w w' : World) : Prop where
  root : w'.root = w.root
  others : ∀ c', c' ≠ c → w'.tenants c' = w.tenants c'
  user : (tenantDb w' c).user = (tenantDb w c).user
  tokens : ∀ r : RefreshToken, r.userId ≠ u →
    (r ∈ (tenantDb w' c).refreshToken.rows ↔ r ∈ (tenantDb w c).refreshToken.rows)

namespace TenantFrame

variable {c u : String}

theorem of_same {w w' : World} (hr : w'.root = w.root) (ht : w'.tenants = w.tenants) :
    TenantFrame c u w w' := by
  have hdb : tenantDb w' c = tenantDb w c := by unfold tenantDb; rw [ht]
  exact ⟨hr, fun c' _ => congrFun ht c', by rw [hdb], fun r _ => by rw [hdb]⟩

theorem refl (w : World) : TenantFrame c u w w := of_same rfl rfl

theorem trans (w w' w'' : World) (h : TenantFrame c u w w') (h' : TenantFrame c u w' w'') :
    TenantFrame c u w w'' :=
  ⟨h'.root.trans h.root, fun c' hc => (h'.others c' hc).trans (h.others c' hc),
    h'.user.trans h.user, fun r hr => (h'.tokens r hr).trans (h.tokens r hr)⟩

theorem of_cacheStep {Put : String → CacheValue → Nat → Prop} {Del : String → Prop} (w w' : World)
    (h : CacheStep Put Del w w') : TenantFrame c u w w' := by
  cases h <;> exact of_same rfl rfl

/-- A write of the tenant's tables that respects the frame. -/
theorem of_writeTenant {f : Db → Except Exn Db} (w : World)
    (h : ∀ db db', f db = .ok db' → db'.user = db.user ∧ ∀ r : RefreshToken, r.userId ≠ u →
      (r ∈ db'.refreshToken.rows ↔ r ∈ db.refreshToken.rows)) :
    TenantFrame c u w (finalState (writeTenant c f w)) := by
  rcases writeTenant_cases c f w with he | ⟨db, db', hdb, hf, he⟩
  · rw [he]
    exact refl w
  · obtain ⟨hu, ht⟩ := h db db' hf
    have hold : tenantDb w c = db := by simp [tenantDb, hdb]
    rw [he]
    refine ⟨rfl, fun c' hc => tenants_setTenant_ne w db' hc, ?_, fun r hr => ?_⟩
    · rw [tenantDb_setTenant, hold, hu]
    · rw [tenantDb_setTenant, hold, ht r hr]

end TenantFrame

theorem guarantees_tenantInvalidate (c u : String) :
    Async.Guarantees (TenantFrame c u) (fun _ => True)
      (tenantInvalidatePreviousRefreshTokens c u) := by
  refine (Async.Guarantees.await (V := fun _ => True) (fun w => ?_) fun _ _ _ _ => trivial).bind
    fun _ _ => Async.Guarantees.await (fun w => ?_) fun _ _ _ _ => trivial
  · rw [finalState_getTenantClient]
    exact .refl w
  · refine .of_writeTenant w fun db db' h => ?_
    cases h
    exact ⟨rfl, fun r hr => Db.mem_invalidate_other hr⟩

theorem guarantees_tenantGenerate (env : Env) (c : String) (user : UserInfo) (ip : String) :
    Async.Guarantees (TenantFrame c user.id) (fun _ => True)
      (tenantGenerateTokens env c user ip) := by
  refine (Async.Guarantees.await (V := fun _ => True) (fun w => ?_) fun _ _ _ _ => trivial).bind
    fun minted _ => (Async.Guarantees.await (V := fun _ => True) (fun w => ?_)
      fun _ _ _ _ => trivial).bind fun _ _ => ?_
  · simp only [mint, sync_bind, clock_apply, uuidv4_apply, sync_pure]
    unfold getTenantClient
    cases w.tenants c <;> exact .of_same rfl rfl
  · refine .of_writeTenant w fun db db' h => ⟨?_, fun r hr => createRefreshToken_rows h hr⟩
    obtain ⟨hv, -, rfl⟩ := Db.createRefreshToken_ok h
    rfl
  · exact ((guarantees_setAll (D := NoDel) env c user.id _ _ _ none none).mono
      TenantFrame.of_cacheStep fun _ h => h).bind fun _ _ => .pure trivial

/-- A tenant login without a device token only touches the user's refresh tokens. -/
theorem guarantees_tenantLogin (env : Env) (c : String) (user : UserInfo) (ip : String)
    (userAgent : Option String) :
    Async.Guarantees (TenantFrame c user.id) (fun _ => True)
      (tenantLogin env c user ip none userAgent) := by
  unfold tenantLogin
  refine (guarantees_tenantInvalidate c user.id).bind fun _ _ => ?_
  refine ((guarantees_blacklist (D := NoDel) env c user.id).mono
    TenantFrame.of_cacheStep fun _ h => h).bind fun _ _ => ?_
  refine ((guarantees_clear (P := NoPut) env c user.id).mono
    TenantFrame.of_cacheStep fun _ h => h).bind fun _ _ => ?_
  have hmessage : Async.Guarantees (TenantFrame c user.id) (fun _ => True)
      (Async.await (sendMessage (tenantLoginText c user.id ip))) :=
    Async.Guarantees.await (fun w => .of_same rfl rfl) fun _ _ _ _ => trivial
  refine hmessage.bind fun _ _ => ?_
  cases user.isTwoFactorEnabled with
  | true => exact Async.Guarantees.throw _
  | false => exact guarantees_tenantGenerate env c user ip

variable (env : Env) (w : World)

def after (query : Fields) (ip : String) : World := finalState ((verifyEmail env query ip).run w)

/-- The repository's query returns this row of tenant `c` for the token value. -/
def Selects (c : String) (token : Arg) (u : User) : Prop :=
  ∃ filter, whereString env false token = .ok filter ∧
    (tenantDb w c).findUserBySignupVerifyToken filter = some u

/-- The row of `u` changed, or one of its refresh tokens did. -/
def Touched (c : String) (w' : World) (u : User) : Prop :=
  u ∉ (tenantDb w' c).user.rows ∨
    ∃ r : RefreshToken, r.userId = u.id ∧
      ¬ (r ∈ (tenantDb w' c).refreshToken.rows ↔ r ∈ (tenantDb w c).refreshToken.rows)

/-- Only the owner of the query's token is marked verified or logged in, and no other
user and no other database changes. -/
structure Sound (query : Fields) (ip c : String) : Prop where
  authorised : ∀ u ∈ (tenantDb w c).user.rows, Touched w c (after env w query ip) u →
    query.get "signupVerifyToken" = .string u.signupVerifyToken ∧ u.verified = false
  one : ∀ u ∈ (tenantDb w c).user.rows, ∀ v ∈ (tenantDb w c).user.rows,
    Touched w c (after env w query ip) u → Touched w c (after env w query ip) v → u = v
  users : (tenantDb (after env w query ip) c).user.rows.map User.id =
    (tenantDb w c).user.rows.map User.id
  tenants : ∀ c', c' ≠ c → (after env w query ip).tenants c' = w.tenants c'
  root : (after env w query ip).root = w.root

/-- The tenant state after the row was marked. -/
def marked (c : String) (u : User) : World :=
  w.setTenant c { tenantDb w c with
    user := (tenantDb w c).user.updateMany (fun v => v.email == u.email) withVerified }

variable {env w}

theorem selects_mem {c : String} {token : Arg} {u : User} (h : Selects env w c token u) :
    u ∈ (tenantDb w c).user.rows ∧ ∀ s, token = .string s → u.signupVerifyToken = s := by
  obtain ⟨filter, hf, hu⟩ := h
  obtain ⟨hm, hp⟩ := Table.findFirst_mem hu
  refine ⟨hm, ?_⟩
  rintro s rfl
  cases hf
  simpa using hp

variable (w) in
/-- All the handler can do: refuse and leave the world alone, or mark the selected,
unverified row and log it in. -/
theorem verify_cases {query : Fields} (ip : String) {c : String}
    (hcode : decryptClientCode env (query.get "code") = .ok c) :
    ((∃ e, (verifyEmail env query ip).run w = .error e w) ∧
      ∀ u, Selects env w c (query.get "signupVerifyToken") u → u.verified = true) ∨
    ∃ u, Selects env w c (query.get "signupVerifyToken") u ∧ u.verified = false ∧
      (verifyEmail env query ip).run w =
        (tenantLogin env c (User.info u) ip none none).run (marked w c u) := by
  cases hdb : w.tenants c with
  | none =>
    refine Or.inl ⟨⟨invalidClientCode c, ?_⟩, ?_⟩
    · simp [verifyEmail, verifyUserEmail, hcode, tenantFindUserBySignupVerifyToken,
        getTenantClient, hdb]
    · rintro u ⟨filter, -, hu⟩
      have hm := (Table.findFirst_mem hu).1
      rw [tenantDb, hdb] at hm
      exact absurd hm List.not_mem_nil
  | some db =>
    have htd : tenantDb w c = db := by simp [tenantDb, hdb]
    cases hf : whereString env false (query.get "signupVerifyToken") with
    | error e =>
      refine Or.inl ⟨⟨e, ?_⟩, ?_⟩
      · simp [verifyEmail, verifyUserEmail, hcode, tenantFindUserBySignupVerifyToken,
          getTenantClient_apply hdb, queryTenant_apply hdb, hf, Except.map]
      · rintro u ⟨filter, hf', -⟩
        rw [hf] at hf'
        cases hf'
    | ok filter =>
      have hsel {u : User} (h : Selects env w c (query.get "signupVerifyToken") u) :
          db.findUserBySignupVerifyToken filter = some u := by
        obtain ⟨filter', hf', hu⟩ := h
        rw [hf] at hf'
        cases hf'
        rwa [htd] at hu
      cases hu : db.findUserBySignupVerifyToken filter with
      | none =>
        refine Or.inl ⟨⟨noSuchUser, ?_⟩, fun u h => ?_⟩
        · simp [verifyEmail, verifyUserEmail, hcode, tenantFindUserBySignupVerifyToken,
            getTenantClient_apply hdb, queryTenant_apply hdb, hf, Except.map, hu]
        · rw [hsel h] at hu
          cases hu
      | some u =>
        have hm : u ∈ db.user.rows := (Table.findFirst_mem hu).1
        cases hv : u.verified with
        | true =>
          refine Or.inl ⟨⟨alreadyVerified, ?_⟩, fun u' h => ?_⟩
          · simp [verifyEmail, verifyUserEmail, hcode, tenantFindUserBySignupVerifyToken,
              getTenantClient_apply hdb, queryTenant_apply hdb, hf, Except.map, hu, hv]
          · rw [hsel h] at hu
            cases hu
            exact hv
        | false =>
          refine Or.inr ⟨u, ⟨filter, hf, by rw [htd, hu]⟩, hv, ?_⟩
          simp [verifyEmail, verifyUserEmail, hcode, tenantFindUserBySignupVerifyToken,
            tenantUpdateUserVerifiedTrue, getTenantClient_apply hdb, queryTenant_apply hdb,
            writeTenant_apply hdb, hf, Except.map, hu, hv, Db.updateUserByEmail_of_mem hm,
            marked, htd]

variable (env w) in
/-- What the marked and logged-in state has in common with the one before. -/
theorem tenantFrame_login (c ip : String) (u : User) :
    TenantFrame c u.id (marked w c u)
      (finalState ((tenantLogin env c (User.info u) ip none none).run (marked w c u))) :=
  (guarantees_tenantLogin env c (User.info u) ip none).run TenantFrame.refl TenantFrame.trans _

/-- Marking by email changes the row of the selected user only. -/
theorem mem_marked {c : String} {u v : User} (hu : u ∈ (tenantDb w c).user.rows)
    (hv : v ∈ (tenantDb w c).user.rows) (hun : u.verified = false) :
    v ∈ (tenantDb (marked w c u) c).user.rows ↔ v ≠ u := by
  rw [marked, tenantDb_setTenant, Table.mem_updateMany]
  constructor
  · rintro ⟨r, hr, rfl⟩ he
    by_cases hre : r.email = u.email
    · have hver := congrArg User.verified he
      simp [hre, withVerified, hun] at hver
    · simp only [beq_iff_eq, hre, if_false] at he
      exact hre (congrArg _ he)
  · intro hne
    refine ⟨v, hv, ?_⟩
    have hemail : v.email ≠ u.email := fun h => hne (Db.user_eq_of_email hv hu h)
    simp [hemail]

/-- After a login, exactly the selected user is touched. -/
theorem touched_login {c ip : String} {u v : User} (hu : u ∈ (tenantDb w c).user.rows)
    (hv : v ∈ (tenantDb w c).user.rows) (hun : u.verified = false) :
    Touched w c (finalState ((tenantLogin env c (User.info u) ip none none).run (marked w c u))) v ↔
      v = u := by
  have hframe := tenantFrame_login env w c ip u
  unfold Touched
  rw [hframe.user, mem_marked hu hv hun]
  constructor
  · rintro (hne | ⟨r, hr, hdiff⟩)
    · exact not_not.mp hne
    · by_contra hne
      have hid : r.userId ≠ u.id := fun h => hne (Db.user_eq_of_id hv hu (hr.symm.trans h))
      refine hdiff ((hframe.tokens r hid).trans ?_)
      rw [marked, tenantDb_setTenant]
  · rintro rfl
    exact Or.inl (not_not.mpr rfl)

theorem not_touched_self (c : String) {u : User} (hu : u ∈ (tenantDb w c).user.rows) :
    ¬ Touched w c w u := by
  rintro (h | ⟨r, -, h⟩)
  · exact h hu
  · exact h Iff.rfl

/-- The handler is sound exactly when the query's token is a string, or the first row
that Prisma selects for it, if any, is already verified. -/
theorem verify_sound_iff (env : Env) (w : World) (query : Fields) (ip c : String)
    (hcode : decryptClientCode env (query.get "code") = .ok c) :
    Sound env w query ip c ↔
      (∃ s, query.get "signupVerifyToken" = .string s) ∨
        ∀ u, Selects env w c (query.get "signupVerifyToken") u → u.verified = true := by
  rcases verify_cases w ip hcode with ⟨⟨e, hrun⟩, hver⟩ | ⟨u, hsel, hun, hrun⟩
  · have hafter : after env w query ip = w := by rw [after, hrun, finalState_error]
    refine ⟨fun _ => Or.inr hver, fun _ => ?_⟩
    constructor
    · exact fun v hv ht => absurd ht (by rw [hafter]; exact not_touched_self c hv)
    · exact fun v hv _ _ ht => absurd ht (by rw [hafter]; exact not_touched_self c hv)
    · rw [hafter]
    · exact fun c' _ => by rw [hafter]
    · rw [hafter]
  · obtain ⟨hu, hstr⟩ := selects_mem hsel
    have hafter : after env w query ip =
        finalState ((tenantLogin env c (User.info u) ip none none).run (marked w c u)) := by
      rw [after, hrun]
    have hframe := tenantFrame_login env w c ip u
    rw [← hafter] at hframe
    have htouch {v : User} (hv : v ∈ (tenantDb w c).user.rows) :
        Touched w c (after env w query ip) v ↔ v = u := by
      rw [hafter]
      exact touched_login hu hv hun
    constructor
    · intro h
      exact Or.inl ⟨_, (h.authorised u hu ((htouch hu).mpr rfl)).1⟩
    · intro h
      rcases h with ⟨s, hs⟩ | h
      · refine ⟨fun v hv ht => ?_, fun v hv v' hv' ht ht' => ?_, ?_, fun c' hc => ?_, ?_⟩
        · obtain rfl := (htouch hv).mp ht
          exact ⟨by rw [hs, hstr s hs], hun⟩
        · rw [(htouch hv).mp ht, (htouch hv').mp ht']
        · rw [hframe.user, marked, tenantDb_setTenant]
          exact Table.map_patchRows (by simp [Keyed.keys]) _ _ _
        · exact (hframe.others c' hc).trans (tenants_setTenant_ne w _ hc)
        · exact hframe.root
      · rw [h u hsel] at hun
        cases hun

def signedUp : User := { User.sample with verified := false }

/-- A tenant with one user who has not verified the address yet. -/
def signedUpWorld : World :=
  (World.start 1000 Db.empty).setTenant "acme" { Db.empty with user := .singleton signedUp }

theorem verify_sound_with_token :
    Sound Env.sample signedUpWorld
      [("code", .string "iv:acme"), ("signupVerifyToken", .string "v1")] "::1" "acme" :=
  (verify_sound_iff Env.sample signedUpWorld
    [("code", .string "iv:acme"), ("signupVerifyToken", .string "v1")] "::1" "acme" (by rfl)).mpr
    (Or.inl ⟨"v1", rfl⟩)

/-- Without a token in the query the first user of the table is marked verified. -/
theorem verifies_without_token :
    decryptClientCode Env.sample (.string "iv:acme") = .ok "acme" ∧
      ¬ Sound Env.sample signedUpWorld [("code", .string "iv:acme")] "::1" "acme" := by
  refine ⟨by rfl, fun h => ?_⟩
  have ht := (h.authorised signedUp (by decide) (Or.inl (by decide))).1
  cases ht

end NestUserService.Auth.EmailVerification
