import NestUserService.Auth.LoginHandlers
import NestUserService.Auth.ValidateSpec

/-!
# RolesGuard and PermissionGuard

Both guards read `req.user.role`, where `req.user` is what `validate` returned. The object
is a cached `TokenCachePayload`, or the one that `validate` builds from the row; neither
lists the role. It is there when `generateTokens` was given a whole row.
-/

namespace NestUserService.Auth.Guards

open Lib NestUserService.Core

inductive Permission where
  | CreateUser
  | DeleteUser
  | ViewAnalytics
  | ManageBilling
  deriving DecidableEq

def RolePermissionMap : Role → List Permission
  | .SuperAdmin => [.CreateUser, .DeleteUser, .ManageBilling, .ViewAnalytics]
  | .ClientAdmin => [.CreateUser, .ViewAnalytics]
  | .ClientUser => []

/-- The role with a name. -/
def roleNamed : String → Option Role
  | "SuperAdmin" => some .SuperAdmin
  | "ClientAdmin" => some .ClientAdmin
  | "ClientUser" => some .ClientUser
  | _ => none

/-- `user.role`. Only the names of roles are ever stored there. -/
def userRole : CacheValue → Option Role
  | .payload p => (p.others.lookup "role").bind roleNamed
  | .text _ => none

/-- `RolesGuard.canActivate`, for the metadata of the route. -/
def rolesGuard (isPublic : Bool) (requiredRoles : Option (List Role)) (user : CacheValue) : Bool :=
  if isPublic then true
  else
    match requiredRoles with
    | none => false
    | some requiredRoles =>
      if requiredRoles.length = 0 then false
      else (userRole user).any fun role => requiredRoles.contains role

/-- `PermissionGuard.canActivate`. -/
def permissionGuard (requiredPermissions : Option (List Permission)) (user : CacheValue) : Bool :=
  match requiredPermissions with
  | none => true
  | some requiredPermissions =>
    let rolePermissions := ((userRole user).map RolePermissionMap).getD []
    requiredPermissions.all fun perm => rolePermissions.contains perm

/-- `newAccessToken`, `validate` and the logins cache the five fields. -/
theorem userRole_narrow {info : UserInfo} (h : info.others = []) (ip : String) (issuedAt : Nat) :
    userRole (.payload { toUserInfo := info, ip, issuedAt }) = none := by
  show (info.others.lookup "role").bind roleNamed = none
  rw [h]
  rfl

/-- All permissions belong to the role. -/
def Allowed (role : Role) (permissions : List Permission) : Prop :=
  ∀ perm ∈ permissions, perm ∈ RolePermissionMap role

instance (role : Role) (permissions : List Permission) : Decidable (Allowed role permissions) :=
  List.decidableBAll (fun perm => perm ∈ RolePermissionMap role) permissions

/-- The guards of a route decide by the stored role. -/
structure Decides (role : Role) (roles : List Role) (permissions : List Permission)
    (user : CacheValue) : Prop where
  roles : rolesGuard false (some roles) user = true ↔ role ∈ roles
  permissions : permissionGuard (some permissions) user = true ↔ Allowed role permissions

section Decisions

variable {role : Role} {roles : List Role} {permissions : List Permission} {user : CacheValue}

theorem rolesGuard_eq (hne : roles ≠ []) :
    rolesGuard false (some roles) user = (userRole user).any fun role => roles.contains role := by
  have hlength : roles.length ≠ 0 := fun h => hne (List.length_eq_zero_iff.mp h)
  simp [rolesGuard, hlength]

theorem permissionGuard_iff :
    permissionGuard (some permissions) user = true ↔
      ∀ perm ∈ permissions, perm ∈ ((userRole user).map RolePermissionMap).getD [] := by
  simp [permissionGuard]

/-- With the role in the object, both guards are right. -/
theorem decides_of_role (hne : roles ≠ []) (h : userRole user = some role) :
    Decides role roles permissions user := by
  constructor
  · rw [rolesGuard_eq hne, h]
    simp
  · rw [permissionGuard_iff, h]
    rfl

/-- The two roles are treated alike. -/
def Alike (roles : List Role) (permissions : List Permission) (role role' : Role) : Prop :=
  (role ∈ roles ↔ role' ∈ roles) ∧ (Allowed role permissions ↔ Allowed role' permissions)

theorem decides_iff_alike (hne : roles ≠ []) {seen : Role} (h : userRole user = some seen) :
    Decides role roles permissions user ↔ Alike roles permissions seen role := by
  have hright : Decides seen roles permissions user := decides_of_role hne h
  constructor
  · intro hd
    exact ⟨hright.roles.symm.trans hd.roles, hright.permissions.symm.trans hd.permissions⟩
  · intro ha
    exact ⟨hright.roles.trans ha.1, hright.permissions.trans ha.2⟩

/-- Without a role they refuse every user, and grant no permission. -/
theorem decides_without_role (hne : roles ≠ []) (h : userRole user = none) :
    Decides role roles permissions user ↔
      role ∉ roles ∧ (Allowed role permissions → permissions = []) := by
  have hrefused : rolesGuard false (some roles) user = false := by
    rw [rolesGuard_eq hne, h]
    rfl
  have hgranted : permissionGuard (some permissions) user = true ↔ permissions = [] := by
    rw [permissionGuard_iff, h]
    show (∀ perm ∈ permissions, perm ∈ []) ↔ permissions = []
    simp [List.eq_nil_iff_forall_not_mem]
  constructor
  · intro hd
    constructor
    · intro hm
      have hallowed := hd.roles.mpr hm
      rw [hrefused] at hallowed
      cases hallowed
    · intro ha
      exact hgranted.mp (hd.permissions.mpr ha)
  · rintro ⟨hr, hp⟩
    constructor
    · rw [hrefused]
      exact ⟨fun h => absurd h Bool.false_ne_true, fun h => absurd h hr⟩
    · rw [hgranted]
      refine ⟨fun hnil => ?_, hp⟩
      rw [hnil]
      exact fun perm hm => absurd hm List.not_mem_nil

end Decisions

/-- The role in the object that is cached for the token, if there is one. -/
def cachedRole (w : World) (c u T : String) : Option Role :=
  (w.redis.find? w.now (Shared.accessKey c u T)).bind userRole

/-- What the guards need from the cached role. -/
def RoleKnown (role : Role) (roles : List Role) (permissions : List Permission) :
    Option Role → Prop
  | some seen => Alike roles permissions seen role
  | none => role ∉ roles ∧ (Allowed role permissions → permissions = [])

/-- What `validate` returns for an accepted token has the role that the cached object has. -/
theorem validate_role (env : Env) {w : World} {req : Request} {payload : JwtPayload} {T h : String}
    {user : User} (hc : Carries req T h) (hne : T ≠ "") (hb : ¬ Blacklisted w h payload.userId T)
    (hid : payload.id = some user.id) (huser : user ∈ w.root.user.rows) :
    ∃ v w', (validate env req payload).run w = .ok v w' ∧
      userRole v = cachedRole w h payload.userId T := by
  rcases run_validate env w payload hc hne with ⟨hb', -⟩ | ⟨-, -, hca, -⟩ | ⟨-, hmiss, hrun⟩
  · exact absurd hb' hb
  · obtain ⟨v, hf, ht⟩ := (Option.any_eq_true _ _).mp hca
    have hrole : userRole v = cachedRole w h payload.userId T := by
      rw [cachedRole, hf]
      rfl
    have htenant := hc.tenant
    subst htenant
    exact ⟨v, w, run_validate_cached hc.token hc.access hne hb hf ht, hrole⟩
  · have hrole : cachedRole w h payload.userId T = none := by
      unfold CachedAccess at hmiss
      unfold cachedRole
      cases hf : w.redis.find? w.now (Shared.accessKey h payload.userId T) with
      | none => rfl
      | some v =>
        rw [hf] at hmiss
        cases v with
        | payload p => exact absurd rfl hmiss
        | text s => rfl
    cases hp : findPayloadUser w.root payload with
    | none => exact absurd rfl ((findPayloadUser_none hid).mp hp user huser)
    | some found =>
      rw [run_validateFromDb_found h T req.clientIp hp] at hrun
      exact ⟨_, _, hrun, (userRole_narrow rfl _ _).trans hrole.symm⟩

/-- For every accepted token of a stored user, the guards of a route decide by the stored
role exactly when the user object was cached with a role that they treat alike, or without
one and they have to refuse. -/
theorem guards_decide_iff (env : Env) {w : World} {req : Request} {payload : JwtPayload}
    {T h : String} {user : User} (hc : Carries req T h) (hne : T ≠ "")
    (hb : ¬ Blacklisted w h payload.userId T) (hid : payload.id = some user.id)
    (huser : user ∈ w.root.user.rows) {roles : List Role} (hroles : roles ≠ [])
    (permissions : List Permission) :
    ∃ v w', (validate env req payload).run w = .ok v w' ∧
      (Decides user.role roles permissions v ↔
        RoleKnown user.role roles permissions (cachedRole w h payload.userId T)) := by
  obtain ⟨v, w', hrun, hrole⟩ := validate_role env hc hne hb hid huser
  refine ⟨v, w', hrun, ?_⟩
  rw [← hrole]
  cases hv : userRole v with
  | some seen => exact decides_iff_alike hroles hv
  | none => exact decides_without_role hroles hv

def superAdmin : User := { User.sample with role := .SuperAdmin }

/-- A super admin, and nothing in the cache. -/
def adminWorld : World := .start 1000 { Db.empty with user := .singleton superAdmin }

def adminRequest : Request := bearerRequest "jwt" "root" "10.0.0.1"

theorem adminRequest_carries : Carries adminRequest "jwt" "root" := by
  constructor <;> decide +kernel

/-- The role of the sample user is not among the required ones. -/
theorem guards_decide_sample : ∃ v w',
    (validate Env.sample adminRequest ⟨some User.sample.id, none⟩).run World.sample = .ok v w' ∧
      Decides .ClientUser [.SuperAdmin] [.ManageBilling] v := by
  have h : ∃ v w',
      (validate Env.sample adminRequest ⟨some User.sample.id, none⟩).run World.sample = .ok v w' ∧
        (Decides User.sample.role [.SuperAdmin] [.ManageBilling] v ↔
          RoleKnown User.sample.role [.SuperAdmin] [.ManageBilling] (cachedRole World.sample "root"
            (JwtPayload.userId ⟨some User.sample.id, none⟩) "jwt")) :=
    guards_decide_iff Env.sample adminRequest_carries (by decide) (by decide +kernel) rfl
      (List.mem_singleton.mpr rfl) (by decide) [.ManageBilling]
  obtain ⟨v, w', hrun, hiff⟩ := h
  have hnone : cachedRole World.sample "root" (JwtPayload.userId ⟨some User.sample.id, none⟩) "jwt" =
      none := by decide +kernel
  rw [hnone] at hiff
  exact ⟨v, w', hrun, hiff.mpr ⟨by decide, by decide⟩⟩

def adminPayload : JwtPayload := ⟨some superAdmin.id, none⟩

/-- A super admin is refused where super admins are required. -/
theorem super_admin_refused : ∃ v w',
    (validate Env.sample adminRequest adminPayload).run adminWorld = .ok v w' ∧
      rolesGuard false (some [.SuperAdmin]) v = false ∧
      ¬ Decides superAdmin.role [.SuperAdmin] [.ManageBilling] v := by
  have hnone : cachedRole adminWorld "root" adminPayload.userId "jwt" = none := by decide +kernel
  have hb : ¬ Blacklisted adminWorld "root" adminPayload.userId "jwt" := by decide +kernel
  have hid : adminPayload.id = some superAdmin.id := rfl
  have huser : superAdmin ∈ adminWorld.root.user.rows := List.mem_singleton.mpr rfl
  obtain ⟨v, w', hrun, hrole⟩ :=
    validate_role Env.sample adminRequest_carries (by decide) hb hid huser
  rw [hnone] at hrole
  have hrefused : rolesGuard false (some [.SuperAdmin]) v = false := by
    rw [rolesGuard_eq (List.cons_ne_nil _ _), hrole]
    rfl
  refine ⟨v, w', hrun, hrefused, fun hd => ?_⟩
  have hallowed := hd.roles.mpr (List.mem_singleton.mpr rfl)
  rw [hrefused] at hallowed
  cases hallowed

end NestUserService.Auth.Guards
