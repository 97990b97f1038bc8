import NestUserService.Auth.DeviceGate
import NestUserService.Auth.LoginHandlers

/-!
# A login without its second factor

The check for the device token stands after the end of the previous sessions, and the
password handler ends them once more before it calls `login`. So a login that is refused
for its missing device token leaves the sessions as they are only when there is nothing
to end.
-/

namespace NestUserService.Auth.RejectedLogin

open Lib NestUserService.Core Shared
open Scan (entry SweptBy)

/-- The calls that reach a login without passing a device token on. -/
inductive Attempt where
  | login (user : UserInfo) (ip : String) (deviceToken userAgent : Option String)
  | tenantLogin (clientCode : String) (user : UserInfo) (ip : String)
      (deviceToken userAgent : Option String)
  | loginUser (cmd : LoginUserCommand)
  | google (cmd : GoogleSocialCreateOrLoginCommand)

namespace Attempt

variable (env : LoginEnv)

def program : Attempt → App LoginResponse
  | login user ip d ua => Auth.login env.toEnv user ip d ua
  | tenantLogin c user ip d ua => Auth.tenantLogin env.toEnv c user ip d ua
  | loginUser cmd => Auth.loginUser env cmd
  | google cmd => googleSocialCreateOrLogin env cmd

/-- The tenant whose database holds the sessions, `none` for the root database. -/
def tenant : Attempt → Option String
  | tenantLogin c _ _ _ _ => some c
  | login _ _ _ _ => none
  | loginUser _ => none
  | google _ => none

/-- The call is for this user and carries no device token; a handler is called with the
right credentials of the user. -/
def IsFor (w : World) (user : UserInfo) : Attempt → Prop
  | login u _ d _ => u = user ∧ truthy d = false
  | tenantLogin _ u _ d _ => u = user ∧ truthy d = false
  | loginUser cmd => ∃ row own, findUserByEmail env cmd.email w = .ok (some (row, own)) w ∧
      comparePassword env cmd.password row.password w = .ok true w ∧ row.verified = true ∧
      user = User.info row
  | google cmd => ∃ row own client,
      findUserByEmail env (.string cmd.email) w = .ok (some (row, own)) w ∧
      findByClientCode env cmd.clientCode w = .ok client w ∧
      isPaidAccount client (row, own) = .ok true ∧ user = User.info row

end Attempt

/-- The database of a tenant, or the root database. -/
def database (w : World) : Option String → Option Db
  | none => some w.root
  | some c => w.tenants c

/-- The client code under which the sessions are cached. -/
def cacheCode : Option String → String
  | none => rootLoginClientCacheValue
  | some c => c

/-- No refresh token row of any database and no cache entry has changed. -/
structure SessionsUnchanged (w w' : World) : Prop where
  rows : ∀ tenant, (database w' tenant).map (fun db => db.refreshToken.rows) =
    (database w tenant).map fun db => db.refreshToken.rows
  entries : ∀ k, entry w' k = entry w k

/-- The call is refused with an `UnauthorizedException` and leaves the sessions alone. -/
def LeavesAlone (env : LoginEnv) (a : Attempt) (w : World) : Prop :=
  ∃ message w', (a.program env).run w = .error (.unauthorized message) w' ∧ SessionsUnchanged w w'

/-- The user has no valid refresh token. -/
def NoneValid (db : Db) (u : String) : Prop :=
  ∀ r ∈ db.refreshToken.rows, r.userId = u → r.isValid = false

/-- The database is there, and the user has no session in it or in the cache. -/
structure NothingToEnd (tenant : Option String) (u : String) (w : World) : Prop where
  rows : ∃ db, database w tenant = some db ∧ NoneValid db u
  entries : ∀ k, (entry w k).isSome = true → ¬ ClearDel (cacheCode tenant) u k

theorem noneValid_invalidate (db : Db) (u : String) : NoneValid (db.invalidateRefreshTokens u) u :=
  fun _ hr hu => Db.invalid_of_mem_invalidate hr hu

/-- Without a valid row there is nothing to invalidate. -/
theorem invalidate_eq_self {db : Db} {u : String} (h : NoneValid db u) :
    db.invalidateRefreshTokens u = db := by
  have hrows : Table.patchRows (fun r : RefreshToken => r.userId == u && r.isValid) invalidated
      db.refreshToken.rows = db.refreshToken.rows := by
    refine (List.map_congr_left fun r hr => ?_).trans (List.map_id _)
    refine if_neg fun hsel => ?_
    obtain ⟨hu, hvalid⟩ := Bool.and_eq_true_iff.mp hsel
    rw [h r hr (by simpa using hu)] at hvalid
    cases hvalid
  have htable : db.refreshToken.updateMany (fun r => r.userId == u && r.isValid) invalidated =
      db.refreshToken := by
    generalize ht : db.refreshToken = t at hrows ⊢
    cases t
    unfold Table.updateMany
    simpa using hrows
  unfold Db.invalidateRefreshTokens
  rw [htable]

/-- `w₀` is `w` with the refresh tokens of the user invalidated. -/
structure Ended (tenant : Option String) (u : String) (w w₀ : World) : Prop where
  invalid : ∃ db, database w₀ tenant = some db ∧ NoneValid db u
  same : (∃ db, database w tenant = some db ∧ NoneValid db u) → w₀ = w
  entries : ∀ k, entry w₀ k = entry w k

theorem ended_root (u : String) (w : World) :
    Ended none u w { w with root := w.root.invalidateRefreshTokens u } := by
  refine ⟨⟨_, rfl, noneValid_invalidate w.root u⟩, ?_, fun _ => rfl⟩
  rintro ⟨db, hdb, hnone⟩
  cases hdb
  rw [invalidate_eq_self hnone]

theorem ended_tenant {c : String} (u : String) {w : World} {db : Db} (hdb : w.tenants c = some db) :
    Ended (some c) u w (w.setTenant c (db.invalidateRefreshTokens u)) := by
  refine ⟨⟨_, Function.update_self _ _ _, noneValid_invalidate db u⟩, ?_, fun _ => rfl⟩
  rintro ⟨db', hdb', hnone⟩
  have hsame : db' = db := Option.some.inj (hdb'.symm.trans hdb)
  subst hsame
  unfold World.setTenant
  rw [invalidate_eq_self hnone, ← hdb, Function.update_eq_self]

theorem Ended.again {u : String} {w w₀ : World} (h : Ended none u w w₀) :
    Ended none u w { w₀ with root := w₀.root.invalidateRefreshTokens u } := by
  obtain ⟨db, hdb, hnone⟩ := h.invalid
  cases hdb
  rw [invalidate_eq_self hnone]
  exact h

/-- The call has ended the sessions in the database and in the cache, and was refused
then. -/
def RefusedAfter (env : LoginEnv) (a : Attempt) (user : UserInfo) (w : World) : Prop :=
  ∃ w₀ v message, Ended a.tenant user.id w w₀ ∧ SweptBy (cacheCode a.tenant) user.id w₀ v ∧
    (a.program env).run w = .error deviceTokenMissing { v with slack := v.slack ++ [message] }

section Run

variable {env : LoginEnv} {user : UserInfo} {w : World}

theorem run_login_refused (env : Env) (h2 : user.isTwoFactorEnabled = true) (ip : String)
    {d : Option String} (hd : truthy d = false) (ua : Option String) (w : World) : ∃ v,
    SweptBy rootLoginClientCacheValue user.id
        { w with root := w.root.invalidateRefreshTokens user.id } v ∧
      (login env user ip d ua).run w =
        .error deviceTokenMissing { v with slack := v.slack ++ [loginText user.id ip] } := by
  obtain ⟨v, hswept, hrun⟩ := run_login_swept env user ip d ua w
  refine ⟨v, hswept, ?_⟩
  rw [hrun]
  simp [loginRest, h2, hd]

/-- The password handler reaches the login after it has ended the sessions once. -/
theorem run_loginUser (env : LoginEnv) {cmd : LoginUserCommand} {row : User} {own : Option Tenant.Client}
    (hfind : findUserByEmail env cmd.email w = .ok (some (row, own)) w)
    (hcompare : comparePassword env cmd.password row.password w = .ok true w)
    (hverified : row.verified = true) : (loginUser env cmd).run w =
      (login env.toEnv (User.info row) cmd.ip none none).run
        { w with root := w.root.invalidateRefreshTokens row.id } := by
  simp [loginUser, loginUserChecks, hfind, hcompare, hverified,
    updateInvalidatePreviousRefreshTokens]

theorem run_google (env : LoginEnv) {cmd : GoogleSocialCreateOrLoginCommand} {row : User}
    {own client : Option Tenant.Client}
    (hfind : findUserByEmail env (.string cmd.email) w = .ok (some (row, own)) w)
    (hclient : findByClientCode env cmd.clientCode w = .ok client w)
    (hpaid : isPaidAccount client (row, own) = .ok true) : (googleSocialCreateOrLogin env cmd).run w =
      (login env.toEnv (User.info row) cmd.ip none none).run w := by
  simp [googleSocialCreateOrLogin, hfind, hclient, Option.mapM_some, hpaid]

theorem refusedAfter (h2 : user.isTwoFactorEnabled = true) {a : Attempt} (ha : a.IsFor env w user)
    (hdb : (database w a.tenant).isSome = true) : RefusedAfter env a user w := by
  cases a with
  | login u ip d ua =>
    obtain ⟨rfl, hd⟩ := ha
    obtain ⟨v, hswept, hrun⟩ := run_login_refused env.toEnv h2 ip hd ua w
    exact ⟨_, v, _, ended_root u.id w, hswept, hrun⟩
  | tenantLogin c u ip d ua =>
    obtain ⟨rfl, hd⟩ := ha
    obtain ⟨db, hdb⟩ := Option.isSome_iff_exists.mp hdb
    obtain ⟨v, hswept, hrun⟩ := run_tenantLogin_swept env.toEnv u ip d ua hdb
    refine ⟨_, v, tenantLoginText c u.id ip, ended_tenant u.id hdb, hswept, ?_⟩
    refine hrun.trans ?_
    simp [LoginSimulation.tenantLoginRest, h2, hd]
  | loginUser cmd =>
    obtain ⟨row, own, hfind, hcompare, hverified, rfl⟩ := ha
    obtain ⟨v, hswept, hrun⟩ := run_login_refused env.toEnv h2 cmd.ip (d := none) rfl none
      { w with root := w.root.invalidateRefreshTokens row.id }
    exact ⟨_, v, _, (ended_root row.id w).again, hswept,
      (run_loginUser env hfind hcompare hverified).trans hrun⟩
  | google cmd =>
    obtain ⟨row, own, client, hfind, hclient, hpaid, rfl⟩ := ha
    obtain ⟨v, hswept, hrun⟩ := run_login_refused env.toEnv h2 cmd.ip (d := none) rfl none w
    exact ⟨_, v, _, ended_root row.id w, hswept, (run_google env hfind hclient hpaid).trans hrun⟩

end Run

/-- A call for a client code without a database throws another error. -/
theorem database_of_unauthorized {env : LoginEnv} {a : Attempt} {message : String} {w w' : World}
    (h : (a.program env).run w = .error (.unauthorized message) w') :
    (database w a.tenant).isSome = true := by
  cases a with
  | tenantLogin c u ip d ua =>
    cases hdb : w.tenants c with
    | none =>
      rw [show (Attempt.tenantLogin c u ip d ua).program env = tenantLogin env.toEnv c u ip d ua
        from rfl, run_tenantLogin_missing env.toEnv u ip d ua hdb] at h
      cases h
    | some db => exact Option.isSome_iff_exists.mpr ⟨db, hdb⟩
  | login u ip d ua => rfl
  | loginUser cmd => rfl
  | google cmd => rfl

theorem database_swept {c u : String} {w v : World} {message : String} (h : SweptBy c u w v)
    (tenant : Option String) :
    database { v with slack := v.slack ++ [message] } tenant = database w tenant := by
  obtain ⟨s, rfl⟩ := h.only
  cases tenant <;> rfl

/-- A refused call leaves the sessions alone exactly when there is nothing to end. -/
theorem rejected_login_iff {env : LoginEnv} {a : Attempt} {user : UserInfo} {w : World}
    (h2 : user.isTwoFactorEnabled = true) (ha : a.IsFor env w user) :
    LeavesAlone env a w ↔ NothingToEnd a.tenant user.id w := by
  constructor
  · rintro ⟨message, w', hrun, hsame⟩
    obtain ⟨w₀, v, text, hended, hswept, hrefused⟩ :=
      refusedAfter h2 ha (database_of_unauthorized hrun)
    rw [hrefused] at hrun
    cases hrun
    refine ⟨?_, fun k hl hsel => ?_⟩
    · obtain ⟨db₀, hdb₀, hnone⟩ := hended.invalid
      have hrows := hsame.rows a.tenant
      rw [database_swept hswept, hdb₀] at hrows
      obtain ⟨db, hdb, heq⟩ := Option.map_eq_some_iff.mp hrows.symm
      refine ⟨db, hdb, ?_⟩
      unfold NoneValid at hnone ⊢
      rwa [heq]
    · have hgone : entry v k = none := hswept.gone k hsel
      rw [← hsame.entries k] at hl
      exact absurd hgone (Option.isSome_iff_ne_none.mp hl)
  · rintro ⟨hrows, hentries⟩
    have hdb : (database w a.tenant).isSome = true := by
      obtain ⟨db, hdb, -⟩ := hrows
      exact Option.isSome_iff_exists.mpr ⟨db, hdb⟩
    obtain ⟨w₀, v, text, hended, hswept, hrefused⟩ := refusedAfter h2 ha hdb
    obtain rfl := hended.same hrows
    refine ⟨_, _, hrefused, ⟨fun tenant => ?_, fun k => hswept.kept hentries k⟩⟩
    rw [database_swept hswept]

/-- The sample user with the second factor and the given refresh tokens. -/
def secondFactorWorld (tokens : Table RefreshToken) : World :=
  .start 1000 { Db.empty with
    user := .singleton { User.sample with isTwoFactorEnabled := true }, refreshToken := tokens }

def passwordLogin : Attempt :=
  .loginUser { email := .string "hong@example.com", password := .string "old", ip := "10.0.0.1" }

theorem passwordLogin_isFor (tokens : Table RefreshToken) :
    passwordLogin.IsFor LoginEnv.sample (secondFactorWorld tokens) DeviceGate.deviceUser :=
  ⟨{ User.sample with isTwoFactorEnabled := true }, none, rfl, rfl, rfl, rfl⟩

/-- Next to the user, whose last session has ended, there is another one with a session in the
table and in the cache. -/
def busyWorld : World :=
  { World.start 1000 { Db.empty with
      user := ⟨[{ User.sample with isTwoFactorEnabled := true },
        { User.sample with id := "u2", email := "kim@example.com" }], by decide⟩
      refreshToken := ⟨[{ heldToken with isValid := false },
        { heldToken with token := "r1", userId := "u2" }], by decide⟩ } with
    redis := (Store.empty.put (accessKey rootLoginClientCacheValue "u2" "t1")
      ⟨.payload ⟨{ DeviceGate.deviceUser with id := "u2" }, "10.0.0.1", 1⟩, some 2000⟩).put
        (blacklistKey rootLoginClientCacheValue User.sample.id "t0") ⟨.text "blacklisted", none⟩ }

theorem busyWorld_nothingToEnd : NothingToEnd none DeviceGate.deviceUser.id busyWorld := by
  refine ⟨⟨_, rfl, by unfold NoneValid; decide⟩, fun k hl => ?_⟩
  by_cases hmarked : k = blacklistKey rootLoginClientCacheValue User.sample.id "t0"
  · subst hmarked
    unfold ClearDel
    decide +kernel
  · by_cases hother : k = accessKey rootLoginClientCacheValue "u2" "t1"
    · subst hother
      unfold ClearDel
      decide +kernel
    · have hnone : busyWorld.redis.lookup k = none := by
        unfold busyWorld
        rw [Store.lookup_put_ne _ _ hmarked, Store.lookup_put_ne _ _ hother]
        rfl
      simp [entry, Store.find?, hnone] at hl

theorem rejected_login_sample : DeviceGate.deviceUser.isTwoFactorEnabled = true ∧
    passwordLogin.IsFor LoginEnv.sample busyWorld DeviceGate.deviceUser ∧
    LeavesAlone LoginEnv.sample passwordLogin busyWorld := by
  have hfor : passwordLogin.IsFor LoginEnv.sample busyWorld DeviceGate.deviceUser :=
    ⟨{ User.sample with isTwoFactorEnabled := true }, none, rfl, rfl, rfl, rfl⟩
  exact ⟨rfl, hfor, (rejected_login_iff rfl hfor).mpr busyWorld_nothingToEnd⟩

/-- The refused password login has invalidated the refresh token of the user. -/
theorem refused_login_ends_session :
    passwordLogin.IsFor LoginEnv.sample (secondFactorWorld (.singleton heldToken))
      DeviceGate.deviceUser ∧
    ¬ LeavesAlone LoginEnv.sample passwordLogin (secondFactorWorld (.singleton heldToken)) := by
  refine ⟨passwordLogin_isFor _, ?_⟩
  have hrows : (finalState ((passwordLogin.program LoginEnv.sample).run
      (secondFactorWorld (.singleton heldToken)))).root.refreshToken.rows =
        [{ heldToken with isValid := false }] := by decide +kernel
  rintro ⟨message, w', hrun, hsame⟩
  rw [hrun, finalState_error] at hrows
  have hkept : some w'.root.refreshToken.rows = some [heldToken] := hsame.rows none
  rw [hrows] at hkept
  exact absurd hkept (by decide)

end NestUserService.Auth.RejectedLogin
