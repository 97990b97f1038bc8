import NestUserService.Auth.IssuePaths
import NestUserService.Shared.ScanFrame

/-!
# The device check of a login

`validateOrRegisterDevice` looks for the row of the device token and compares its address
first. A row with the right address that has expired or belongs to another user falls
through to the registration of a new device, and the login goes on.
-/

namespace NestUserService.Auth

open Lib NestUserService.Core Shared
open Scan (entry SweptBy)

theorem run_login_swept (env : Env) (user : UserInfo) (ip : String) (d ua : Option String)
    (w : World) : ∃ w₁,
    SweptBy rootLoginClientCacheValue user.id
        { w with root := w.root.invalidateRefreshTokens user.id } w₁ ∧
      (login env user ip d ua).run w = (loginRest env user ip d ua).run w₁ := by
  obtain ⟨w₁, w₂, hswept, hrun₁, hrun₂⟩ := Scan.run_sweep env rootLoginClientCacheValue user.id
    { w with root := w.root.invalidateRefreshTokens user.id }
  refine ⟨w₂, hswept, ?_⟩
  rw [login_eq]
  simp [invalidatePreviousRefreshTokens, setRootUserAccessTokenBlacklistCache, clearUserTokenCache,
    hrun₁, hrun₂]

theorem run_tenantLogin_swept (env : Env) {c : String} (user : UserInfo) (ip : String)
    (d ua : Option String) {w : World} {db : Db} (hdb : w.tenants c = some db) : ∃ w₁,
    SweptBy c user.id (w.setTenant c (db.invalidateRefreshTokens user.id)) w₁ ∧
      (tenantLogin env c user ip d ua).run w =
        (LoginSimulation.tenantLoginRest env c user ip d ua).run w₁ := by
  obtain ⟨w₁, w₂, hswept, hrun₁, hrun₂⟩ := Scan.run_sweep env c user.id
    (w.setTenant c (db.invalidateRefreshTokens user.id))
  refine ⟨w₂, hswept, ?_⟩
  rw [LoginSimulation.tenantLogin_eq]
  simp [tenantInvalidatePreviousRefreshTokens, setTenantUserAccessTokenBlacklistCache,
    clearTenantUserTokenCache, getTenantClient_apply hdb, writeTenant_apply hdb, hrun₁, hrun₂]

theorem run_tenantLogin_missing (env : Env) {c : String} (user : UserInfo) (ip : String)
    (d ua : Option String) {w : World} (hdb : w.tenants c = none) :
    (tenantLogin env c user ip d ua).run w = .error (invalidClientCode c) w := by
  simp [tenantLogin, tenantInvalidatePreviousRefreshTokens, getTenantClient, hdb]

namespace DeviceGate

variable (env : Env)

/-- The table holds the device token for this user and address, unexpired. -/
def Trusted (w : World) (userId d ip : String) : Prop :=
  ∃ row ∈ w.root.trustedDevice.rows, row.deviceToken = d ∧ row.userId = userId ∧
    w.now < row.expiresAt ∧ row.ipAddress = some ip

/-- No device is added, no refresh token row is added, and nothing appears in the cache
but blacklist entries of the user. -/
structure NothingIssued (userId : String) (w w' : World) : Prop where
  devices : w'.root.trustedDevice.rows = w.root.trustedDevice.rows
  tokens : w'.root.refreshToken.rows.map RefreshToken.token =
    w.root.refreshToken.rows.map RefreshToken.token
  sessions : ∀ k, (entry w' k).isSome = true →
    (entry w k).isSome = true ∨ ∃ t, k = blacklistKey rootLoginClientCacheValue userId t

def Refused (user : UserInfo) (ip d : String) (ua : Option String) (w : World) : Prop :=
  ∃ e w', (login env user ip (some d) ua).run w = .error e w' ∧ NothingIssued user.id w w'

/-- The row of the token has the address, but has expired or belongs to another user. -/
def FallsThrough (w : World) (userId d ip : String) : Prop :=
  d ≠ "" ∧ ∃ row ∈ w.root.trustedDevice.rows, row.deviceToken = d ∧ row.ipAddress = some ip ∧
    ¬ (row.userId = userId ∧ w.now < row.expiresAt)

/-- A new device of the user can be stored: the user exists, the token is not taken, and
every value fits its column. -/
def Registrable (w : World) (userId newToken ip : String) (ua : Option String) : Prop :=
  (w.root.findUserById userId).isSome = true ∧
    (∀ row ∈ w.root.trustedDevice.rows, row.deviceToken ≠ newToken) ∧
    (newDevice userId newToken (some ip) ua w.now).fits = true

section Check

variable {env} {u d ip : String} {ua : Option String} {v : World}

theorem truthy_some (hd : d ≠ "") : truthy (some d) = true := by simp [truthy, hd]

theorem run_device_unknown (hd : d ≠ "") (hfind : v.root.findDeviceToken d = none) :
    (validateOrRegisterDevice env u (some d) ip ua).run v =
      .error (nullProperty "ipAddress") v := by
  simp [validateOrRegisterDevice, truthy_some hd, hfind]

theorem run_device_theft (hd : d ≠ "") {row : TrustedDevice}
    (hfind : v.root.findDeviceToken d = some row) (hip : row.ipAddress ≠ some ip) :
    (validateOrRegisterDevice env u (some d) ip ua).run v = (do
      handleTokenTheft env u ip (some (locationText (env.geoLookup ip)))
      throw suspiciousLogin : App String).run v := by
  simp [validateOrRegisterDevice, truthy_some hd, hfind, hip]

theorem run_device_register (hd : d ≠ "") {row : TrustedDevice}
    (hfind : v.root.findDeviceToken d = some row) (hip : row.ipAddress = some ip)
    (hno : ¬ (row.userId = u ∧ v.now < row.expiresAt)) :
    (validateOrRegisterDevice env u (some d) ip ua).run v = registerDevice env u ip ua v.now v := by
  simp [validateOrRegisterDevice, truthy_some hd, hfind, hip, hno]

theorem vacant_newDevice {t : Table TrustedDevice} {newToken : String} {ip ua : Option String}
    {now : Nat} : t.Vacant (newDevice u newToken ip ua now) ↔
      ∀ row ∈ t.rows, row.deviceToken ≠ newToken := by
  simp [Table.Vacant, Keyed.keys, newDevice]

variable (ip ua) in
/-- Storing a new device adds its row, and fails when it cannot be stored. -/
theorem registerDevice_ok (h : Registrable v u (env.uuidv4 v.draws) ip ua) :
    ∃ v', registerDevice env u ip ua v.now v = .ok (env.uuidv4 v.draws) v' ∧
      v'.root.trustedDevice.rows = v.root.trustedDevice.rows ++
        [newDevice u (env.uuidv4 v.draws) (some ip) ua v.now] := by
  obtain ⟨huser, hnew, hfits⟩ := h
  have hvacant : v.root.trustedDevice.Vacant
      (newDevice u (env.uuidv4 v.draws) (some ip) ua v.now) := vacant_newDevice.mpr hnew
  have hcreate := Db.createTrustedDevice_of_vacant hfits hvacant huser
  simp [registerDevice, hcreate, Table.insert]

variable (ip ua) in
theorem registerDevice_error (h : ¬ Registrable v u (env.uuidv4 v.draws) ip ua) :
    ∃ e, registerDevice env u ip ua v.now v = .error e { v with draws := v.draws + 1 } := by
  cases hcreate : v.root.createTrustedDevice
      (newDevice u (env.uuidv4 v.draws) (some ip) ua v.now) with
  | error e => exact ⟨e, by simp [registerDevice, hcreate]⟩
  | ok db =>
    obtain ⟨hvacant, hfits, huser, -⟩ := Db.createTrustedDevice_ok hcreate
    exact absurd ⟨huser, vacant_newDevice.mp hvacant, hfits⟩ h

variable (env u ip v) in
/-- The response to a theft moves no device, no token and no cache entry, and it never
lets the check return. -/
theorem run_theft (loc : Option String) :
    ∃ e v', (do
      handleTokenTheft env u ip loc
      throw suspiciousLogin : App String).run v = .error e v' ∧
      v'.now = v.now ∧ v'.redis = v.redis ∧ v'.root.trustedDevice = v.root.trustedDevice ∧
      v'.root.refreshToken = (v.root.invalidateRefreshTokens u).refreshToken := by
  by_cases hv : ∃ user ∈ v.root.user.rows, user.id = ip
  · obtain ⟨user, hv, rfl⟩ := hv
    have hrun := @TokenTheft.run_theft_found env v u user loc hv
    dsimp only at hrun
    split at hrun
    · rw [Async.run_bind, hrun]
      exact ⟨suspiciousLogin, _, rfl, rfl, rfl, rfl, rfl⟩
    · rw [Async.run_bind, hrun]
      exact ⟨_, _, rfl, rfl, rfl, rfl, rfl⟩
  · rw [Async.run_bind, TokenTheft.run_theft_missing env v u loc fun user hm he => hv ⟨user, hm, he⟩]
    exact ⟨_, _, rfl, rfl, rfl, rfl, rfl⟩

end Check

section Login

variable {env} {user : UserInfo} {d ip : String} {ua : Option String} {w : World}

/-- The state in which a login starts its device check. -/
structure Started (userId : String) (w v : World) : Prop where
  root : v.root = w.root.invalidateRefreshTokens userId
  now : v.now = w.now
  draws : v.draws = w.draws + 3
  appeared : ∀ k, (entry v k).isSome = true →
    (entry w k).isSome = true ∨ ∃ t, k = blacklistKey rootLoginClientCacheValue userId t

theorem run_login_started (env : Env) (h2 : user.isTwoFactorEnabled = true) (ip d : String)
    (ua : Option String) (w : World) : ∃ v, Started user.id w v ∧
      (login env user ip (some d) ua).run w =
        (if d = "" then throw deviceTokenMissing else do
          let _ ← validateOrRegisterDevice env user.id (some d) ip ua
          generateTokens env user ip : App LoginResponse).run v := by
  obtain ⟨v, hswept, hrun⟩ := run_login_swept env user ip (some d) ua w
  refine ⟨{ v with slack := v.slack ++ [loginText user.id ip] }, ?_, ?_⟩
  · obtain ⟨s, rfl⟩ := hswept.only
    exact ⟨rfl, rfl, rfl, hswept.appeared⟩
  · rw [hrun]
    by_cases hd : d = ""
    · simp [loginRest, h2, hd, truthy]
    · simp [loginRest, h2, hd, truthy_some hd]

theorem invalidate_tokens (db : Db) (u : String) :
    (db.invalidateRefreshTokens u).refreshToken.rows.map RefreshToken.token =
      db.refreshToken.rows.map RefreshToken.token :=
  Table.map_patchRows (by simp [Keyed.keys]) _ _ _

/-- Ending sessions issues nothing, when the devices and the cache stay as they are. -/
theorem nothingIssued_of_started {u : String} {v v' : World} (h : Started u w v)
    (hnow : v'.now = v.now) (hredis : v'.redis = v.redis)
    (hdevices : v'.root.trustedDevice = v.root.trustedDevice)
    (htokens : v'.root.refreshToken = v.root.refreshToken ∨
      v'.root.refreshToken = (v.root.invalidateRefreshTokens u).refreshToken) :
    NothingIssued u w v' := by
  refine ⟨?_, ?_, fun k hk => ?_⟩
  · rw [hdevices, h.root]
    rfl
  · rcases htokens with ht | ht
    · rw [ht, h.root, invalidate_tokens]
    · rw [ht, invalidate_tokens, h.root, invalidate_tokens]
  · unfold entry at hk
    rw [hnow, hredis] at hk
    exact h.appeared k hk

/-- Ending sessions decides nothing about a registration. -/
theorem Started.registrable_iff {u : String} {v : World} (h : Started u w v) :
    Registrable v u (env.uuidv4 v.draws) ip ua ↔
      Registrable w u (env.uuidv4 (w.draws + 3)) ip ua := by
  unfold Registrable
  rw [h.draws, h.root, h.now]
  rfl

theorem Started.devices {u : String} {v : World} (h : Started u w v) :
    v.root.trustedDevice.rows = w.root.trustedDevice.rows := by
  rw [h.root]
  rfl

theorem device_unique {db : Db} {row row' : TrustedDevice} (h : row ∈ db.trustedDevice.rows)
    (h' : row' ∈ db.trustedDevice.rows) (ht : row.deviceToken = row'.deviceToken) : row = row' :=
  Table.eq_of_key (k := TrustedDevice.deviceToken) (by simp [Keyed.keys]) h h' ht

theorem findDeviceToken_of_mem {db : Db} {row : TrustedDevice} (h : row ∈ db.trustedDevice.rows) :
    db.findDeviceToken row.deviceToken = some row :=
  Table.findFirst_key (k := TrustedDevice.deviceToken) (by simp [Keyed.keys]) h

/-- Issuing tokens moves no device. -/
theorem devices_generateTokens (env : Env) (user : UserInfo) (ip : String) (v : World) :
    (finalState ((generateTokens env user ip).run v)).root.trustedDevice =
      v.root.trustedDevice := by
  rw [run_generateTokens]
  cases hcreate : v.root.createRefreshToken ((minted env user v).row user.id ip) with
  | error e => rfl
  | ok db =>
    obtain ⟨hvacant, -, rfl⟩ := Db.createRefreshToken_ok hcreate
    rfl

variable (ua) in
/-- A login that falls through leaves a table with one more device, also when the
issue of the tokens fails afterwards. -/
theorem devices_of_fallsThrough (h2 : user.isTwoFactorEnabled = true)
    (h : FallsThrough w user.id d ip)
    (hreg : Registrable w user.id (env.uuidv4 (w.draws + 3)) ip ua) :
    (finalState ((login env user ip (some d) ua).run w)).root.trustedDevice.rows =
      w.root.trustedDevice.rows ++
        [newDevice user.id (env.uuidv4 (w.draws + 3)) (some ip) ua w.now] := by
  obtain ⟨hd, row, hrow, rfl, hip, hno⟩ := h
  obtain ⟨v, hv, hrun⟩ := run_login_started env h2 ip row.deviceToken ua w
  have hfind : v.root.findDeviceToken row.deviceToken = some row := by
    rw [hv.root]
    exact findDeviceToken_of_mem hrow
  obtain ⟨v', hregister, hrows⟩ := registerDevice_ok ip ua (hv.registrable_iff.mpr hreg)
  rw [hrun, if_neg hd, Async.run_bind, run_device_register hd hfind hip (by rwa [hv.now]),
    hregister]
  dsimp only
  rw [devices_generateTokens, hrows, hv.root, hv.now, hv.draws]
  rfl

theorem FallsThrough.untrusted {u : String} (h : FallsThrough w u d ip) : ¬ Trusted w u d ip := by
  obtain ⟨-, row, hrow, rfl, hip, hno⟩ := h
  rintro ⟨row', hrow', htoken, huser, hnow, -⟩
  rw [device_unique hrow' hrow htoken] at huser hnow
  exact hno ⟨huser, hnow⟩

variable (ua) in
/-- A device that is not trusted from this address, and is not registered again, ends the
check of a started login. -/
theorem check_refused {u : String} {v : World} (hv : Started u w v) (hd : d ≠ "")
    (huntrusted : ¬ Trusted w u d ip)
    (hno : ¬ (FallsThrough w u d ip ∧ Registrable w u (env.uuidv4 (w.draws + 3)) ip ua)) :
    ∃ e v', (validateOrRegisterDevice env u (some d) ip ua).run v = .error e v' ∧
      NothingIssued u w v' := by
  have hnothing := nothingIssued_of_started hv rfl rfl rfl (Or.inl rfl)
  cases hfind : v.root.findDeviceToken d with
  | none => exact ⟨nullProperty "ipAddress", v, run_device_unknown hd hfind, hnothing⟩
  | some row =>
    obtain ⟨hmem, htoken⟩ := Table.findFirst_mem hfind
    have hrow : row ∈ w.root.trustedDevice.rows := hv.devices ▸ hmem
    have htoken : row.deviceToken = d := by simpa using htoken
    by_cases hip : row.ipAddress = some ip
    · have huntimely : ¬ (row.userId = u ∧ v.now < row.expiresAt) := by
        rintro ⟨huser, hlive⟩
        rw [hv.now] at hlive
        exact huntrusted ⟨row, hrow, htoken, huser, hlive, hip⟩
      have hfalls : FallsThrough w u d ip := by
        refine ⟨hd, row, hrow, htoken, hip, ?_⟩
        rwa [← hv.now]
      have hreg : ¬ Registrable v u (env.uuidv4 v.draws) ip ua :=
        fun hreg => hno ⟨hfalls, hv.registrable_iff.mp hreg⟩
      obtain ⟨e, hregister⟩ := registerDevice_error ip ua hreg
      rw [run_device_register hd hfind hip huntimely, hregister]
      exact ⟨e, _, rfl, nothingIssued_of_started hv rfl rfl rfl (Or.inl rfl)⟩
    · obtain ⟨e, v', htheft, hnow, hredis, hdevices, htokens⟩ :=
        run_theft env u ip v (some (locationText (env.geoLookup ip)))
      rw [run_device_theft hd hfind hip, htheft]
      exact ⟨e, v', rfl, nothingIssued_of_started hv hnow hredis hdevices (Or.inr htokens)⟩

end Login

/-- The gate holds exactly when the login does not fall through to a registration that
succeeds. -/
theorem device_gate_iff (env : Env) {user : UserInfo} (h2 : user.isTwoFactorEnabled = true)
    (ip d : String) (ua : Option String) (w : World) :
    (¬ Trusted w user.id d ip → Refused env user ip d ua w) ↔
      ¬ (FallsThrough w user.id d ip ∧
        Registrable w user.id (env.uuidv4 (w.draws + 3)) ip ua) := by
  constructor
  · rintro hgate ⟨hfalls, hreg⟩
    obtain ⟨e, w', hrun, hnothing⟩ := hgate hfalls.untrusted
    have hgrown := devices_of_fallsThrough ua h2 hfalls hreg
    rw [hrun, finalState_error, hnothing.devices] at hgrown
    simp at hgrown
  · intro hno huntrusted
    obtain ⟨v, hv, hrun⟩ := run_login_started env h2 ip d ua w
    unfold Refused
    rw [hrun]
    by_cases hd : d = ""
    · rw [if_pos hd]
      exact ⟨deviceTokenMissing, v, rfl, nothingIssued_of_started hv rfl rfl rfl (Or.inl rfl)⟩
    · obtain ⟨e, v', hcheck, hnothing⟩ := check_refused ua hv hd huntrusted hno
      rw [if_neg hd, Async.run_bind, hcheck]
      exact ⟨e, v', rfl, hnothing⟩

/-- A device of the sample user that was valid until the given time. -/
def sampleDevice (expiresAt : Nat) : TrustedDevice :=
  { userId := User.sample.id, deviceToken := "device-1", deviceName := none
    ipAddress := some "10.0.0.1", userAgent := none, expiresAt }

/-- The sample user with the second factor, and that device. -/
def deviceWorld (expiresAt : Nat) : World :=
  .start 1000 { Db.empty with
    user := .singleton { User.sample with isTwoFactorEnabled := true }
    trustedDevice := .singleton (sampleDevice expiresAt) }

def deviceUser : UserInfo := User.info { User.sample with isTwoFactorEnabled := true }

instance (w : World) (u d ip : String) : Decidable (Trusted w u d ip) :=
  inferInstanceAs (Decidable (∃ row ∈ w.root.trustedDevice.rows, _))

instance (w : World) (u d ip : String) : Decidable (FallsThrough w u d ip) :=
  inferInstanceAs (Decidable (_ ∧ ∃ row ∈ w.root.trustedDevice.rows, _))

instance (w : World) (u t ip : String) (ua : Option String) : Decidable (Registrable w u t ip ua) :=
  inferInstanceAs (Decidable (_ ∧ (∀ row ∈ w.root.trustedDevice.rows, _) ∧ _))

theorem device_gate_sample : deviceUser.isTwoFactorEnabled = true ∧
    ¬ Trusted (deviceWorld 9000) deviceUser.id "device-1" "10.0.0.2" ∧
    Refused Env.sample deviceUser "10.0.0.2" "device-1" none (deviceWorld 9000) := by
  have huntrusted : ¬ Trusted (deviceWorld 9000) deviceUser.id "device-1" "10.0.0.2" := by decide
  have hpasses : ¬ FallsThrough (deviceWorld 9000) deviceUser.id "device-1" "10.0.0.2" := by decide
  exact ⟨rfl, huntrusted, (device_gate_iff Env.sample rfl "10.0.0.2" "device-1" none
    (deviceWorld 9000)).mpr (fun h => hpasses h.1) huntrusted⟩

/-- An expired device is replaced by a new one, and tokens are issued. -/
theorem expired_device_admitted :
    ¬ Trusted (deviceWorld 900) deviceUser.id "device-1" "10.0.0.1" ∧
    ¬ Refused Env.sample deviceUser "10.0.0.1" "device-1" none (deviceWorld 900) ∧
    (returned ((login Env.sample deviceUser "10.0.0.1" (some "device-1") none).run
      (deviceWorld 900))).isSome = true := by
  have hreturned : (returned ((login Env.sample deviceUser "10.0.0.1" (some "device-1") none).run
      (deviceWorld 900))).isSome = true := by decide +kernel
  refine ⟨by decide, ?_, hreturned⟩
  rintro ⟨e, w', hrun, -⟩
  rw [hrun] at hreturned
  cases hreturned

end DeviceGate

end NestUserService.Auth
