import NestUserService.Lib.TwoRuns
import NestUserService.Auth.IssuePaths
import NestUserService.Auth.LoginHandlers

/-!
# Two services that differ in the secrets of their users

The rows of two user tables agree, one by one, on the five fields of `UserInfo`; the
rest of the two states is the same. A program that reads no other column takes both to
such states again, and returns the same.
-/

namespace NestUserService.Auth.TwinWorlds

open Lib NestUserService.Core Shared

/-- The rows agree on the fields of `UserInfo`. -/
def SameInfo (u v : User) : Prop := User.info u = User.info v

structure TwinDb (db db' : Db) : Prop where
  user : List.Forall₂ SameInfo db.user.rows db'.user.rows
  refreshToken : db'.refreshToken = db.refreshToken
  trustedDevice : db'.trustedDevice = db.trustedDevice
  ipDenylist : db'.ipDenylist = db.ipDenylist

structure Twin (w w' : World) : Prop where
  now : w'.now = w.now
  root : TwinDb w.root w'.root
  tenants : ∀ c, Option.Rel TwinDb (w.tenants c) (w'.tenants c)
  redis : w'.redis = w.redis
  mails : w'.mails = w.mails
  slack : w'.slack = w.slack
  draws : w'.draws = w.draws

/-- Both runs return the same, in twins. -/
def Same {α : Type} (a b : α) (w w' : World) : Prop := a = b ∧ Twin w w'

/-- From twins, the program returns the same, in twins. -/
def Blind {α : Type} (x : App α) : Prop := Async.Alike Twin x x Same

section Rows

variable {db db' : Db} {u v : User}

theorem SameInfo.id (h : SameInfo u v) : u.id = v.id := congrArg UserInfo.id h

theorem SameInfo.name (h : SameInfo u v) : u.name = v.name := congrArg UserInfo.name h

theorem SameInfo.email (h : SameInfo u v) : u.email = v.email := congrArg UserInfo.email h

theorem SameInfo.clientId (h : SameInfo u v) : u.clientId = v.clientId :=
  congrArg UserInfo.clientId h

/-- A search by the common fields finds the same row in both tables, or none. -/
theorem TwinDb.findFirst (h : TwinDb db db') {p : User → Bool}
    (hp : ∀ u v, SameInfo u v → p u = p v) :
    Option.Rel SameInfo (db.user.findFirst p) (db'.user.findFirst p) :=
  Table.forall₂_find? hp h.user

theorem TwinDb.findUserById (h : TwinDb db db') (id : String) :
    Option.Rel SameInfo (db.findUserById id) (db'.findUserById id) :=
  h.findFirst fun u v huv => by rw [huv.id]

/-- An update of the users that keeps the common fields alike. -/
theorem TwinDb.updateMany (h : TwinDb db db') {p q : User → Bool} {f : Patch User}
    (hf : ∀ u v, SameInfo u v →
      SameInfo (if p u then f.apply u else u) (if q v then f.apply v else v)) :
    TwinDb { db with user := db.user.updateMany p f } { db' with user := db'.user.updateMany q f } := by
  refine ⟨?_, h.refreshToken, h.trustedDevice, h.ipDenylist⟩
  exact List.forall₂_map_left_iff.mpr (List.forall₂_map_right_iff.mpr (h.user.imp hf))

/-- An update of users that the common fields select. -/
theorem TwinDb.update {p : User → Bool} (hp : ∀ u v, SameInfo u v → p u = p v) {f : Patch User}
    (hf : ∀ u v, SameInfo u v → SameInfo (f.apply u) (f.apply v)) (h : TwinDb db db')
    {t t' : Table User} (ht : db.user.update p f = some t) (ht' : db'.user.update p f = some t') :
    TwinDb { db with user := t } { db' with user := t' } := by
  rw [Table.update_some ht, Table.update_some ht']
  refine h.updateMany fun u v huv => ?_
  rw [← hp u v huv]
  by_cases hu : p u = true
  · rw [if_pos hu, if_pos hu]
    exact hf u v huv
  · rw [if_neg hu, if_neg hu]
    exact huv

theorem TwinDb.invalidate (h : TwinDb db db') (userId : String) :
    TwinDb (db.invalidateRefreshTokens userId) (db'.invalidateRefreshTokens userId) := by
  refine ⟨h.user, ?_, h.trustedDevice, h.ipDenylist⟩
  unfold Db.invalidateRefreshTokens
  rw [h.refreshToken]

theorem TwinDb.createRefreshToken (h : TwinDb db db') {row : RefreshToken} {d d' : Db}
    (hd : db.createRefreshToken row = .ok d) (hd' : db'.createRefreshToken row = .ok d') :
    TwinDb d d' := by
  obtain ⟨hv, -, rfl⟩ := Db.createRefreshToken_ok hd
  obtain ⟨hv', -, rfl⟩ := Db.createRefreshToken_ok hd'
  refine ⟨h.user, ?_, h.trustedDevice, h.ipDenylist⟩
  have hrows := congrArg Table.rows h.refreshToken
  simp only [Table.insert, hrows]

end Rows

section Operations

variable {α : Type} {w w' : World}

theorem Twin.withRoot (h : Twin w w') {db db' : Db} (hdb : TwinDb db db') :
    Twin { w with root := db } { w' with root := db' } :=
  ⟨h.now, hdb, h.tenants, h.redis, h.mails, h.slack, h.draws⟩

theorem Twin.withRedis (h : Twin w w') {redis redis' : Store CacheValue} (hr : redis' = redis) :
    Twin { w with redis } { w' with redis := redis' } :=
  ⟨h.now, h.root, h.tenants, hr, h.mails, h.slack, h.draws⟩

theorem Twin.withDraws (h : Twin w w') : Twin { w with draws := w.draws + 1 }
    { w' with draws := w'.draws + 1 } :=
  ⟨h.now, h.root, h.tenants, h.redis, h.mails, h.slack, congrArg (· + 1) h.draws⟩

theorem Twin.setTenant (h : Twin w w') (c : String) {db db' : Db} (hdb : TwinDb db db') :
    Twin (w.setTenant c db) (w'.setTenant c db') := by
  refine ⟨h.now, h.root, fun c' => ?_, h.redis, h.mails, h.slack, h.draws⟩
  unfold World.setTenant
  by_cases hc : c' = c
  · subst hc
    simp only [Function.update_self]
    exact Option.Rel.some hdb
  · simp only [Function.update_of_ne hc]
    exact h.tenants c'

theorem Blind.bind {β : Type} {x : App α} {f : α → App β} (h : Blind x) (hf : ∀ a, Blind (f a)) :
    Blind (x >>= f) := by
  refine Async.Alike.bind h fun a b => ?_
  intro s t hab
  obtain ⟨rfl, hst⟩ := hab
  exact hf a s t hst

theorem Blind.pure (a : α) : Blind (Pure.pure a : App α) := Async.Alike.pure fun _ _ h => ⟨rfl, h⟩

theorem Blind.throw (e : Exn) : Blind (MonadExcept.throw e : App α) := Async.Alike.throw_left e _

theorem Blind.ite {c : Prop} [Decidable c] {x y : App α} (hx : c → Blind x) (hy : ¬ c → Blind y) :
    Blind (if c then x else y) :=
  Async.Alike.ite Iff.rfl hx hy

theorem Blind.forM {ι : Type} {f : ι → App PUnit} (h : ∀ i, Blind (f i)) (l : List ι) :
    Blind (l.forM f) := by
  have hloop : Async.Alike Twin (l.forM f) (l.forM f) fun _ _ => Twin :=
    Async.Alike.forM fun i _ => (h i).conseq (fun _ _ h => h) fun _ _ _ _ h => h.2
  exact hloop.conseq (fun _ _ h => h) fun _ _ _ _ h => ⟨rfl, h⟩

/-- An operation that answers twins alike. -/
theorem Blind.await {x : Sync α} (h : ∀ w w', Twin w w' → ∀ a v b v', x w = .ok a v →
    x w' = .ok b v' → a = b ∧ Twin v v') : Blind (Async.await x) :=
  Async.Alike.await h

theorem blind_cacheGet (key : String) : Blind (Async.await (cacheGet key)) := by
  refine Blind.await fun w w' h a v b v' hx hy => ?_
  cases hx
  cases hy
  rw [h.redis, h.now]
  exact ⟨rfl, h⟩

theorem blind_cacheSet (key : String) (value : CacheValue) (ttl : Nat) :
    Blind (Async.await (cacheSet key value ttl)) := by
  refine Blind.await fun w w' h a v b v' hx hy => ?_
  cases hx
  cases hy
  exact ⟨rfl, h.withRedis (by rw [h.redis, h.now])⟩

theorem blind_cacheDel (key : String) : Blind (Async.await (cacheDel key)) := by
  refine Blind.await fun w w' h a v b v' hx hy => ?_
  cases hx
  cases hy
  exact ⟨rfl, h.withRedis (by rw [h.redis])⟩

theorem blind_scanStart (env : Env) : Blind (Async.await (scanStart env)) := by
  refine Blind.await fun w w' h a v b v' hx hy => ?_
  cases hx
  cases hy
  exact ⟨by rw [h.draws], h.withDraws⟩

theorem blind_scan (pattern : String) (reply : String → Bool) :
    Blind (Async.await (scan pattern reply)) := by
  refine Blind.await fun w w' h a v b v' hx hy => ?_
  cases hx
  cases hy
  rw [h.redis, h.now]
  exact ⟨rfl, h⟩

theorem blind_sendMessage (message : String) : Blind (Async.await (sendMessage message)) := by
  refine Blind.await fun w w' h a v b v' hx hy => ?_
  cases hx
  cases hy
  rw [h.slack]
  exact ⟨rfl, h.now, h.root, h.tenants, h.redis, h.mails, rfl, h.draws⟩

/-- A write of the root database that takes twins to twins. -/
theorem blind_writeRoot {f : Db → Except Exn Db}
    (h : ∀ db db' d d', TwinDb db db' → f db = .ok d → f db' = .ok d' → TwinDb d d') :
    Blind (Async.await (writeRoot f)) := by
  refine Blind.await fun w w' hw a v b v' hx hy => ?_
  rw [writeRoot_apply] at hx hy
  cases hf : f w.root with
  | error e => simp [hf] at hx
  | ok d =>
    cases hf' : f w'.root with
    | error e => simp [hf'] at hy
    | ok d' =>
      rw [hf] at hx
      rw [hf'] at hy
      cases hx
      cases hy
      exact ⟨rfl, hw.withRoot (h _ _ d d' hw.root hf hf')⟩

theorem blind_getTenantClient (c : String) : Blind (Async.await (getTenantClient c)) := by
  refine Blind.await fun w w' hw a v b v' hx hy => ?_
  unfold getTenantClient at hx hy
  cases hc : w.tenants c with
  | none => simp [hc] at hx
  | some db =>
    cases hc' : w'.tenants c with
    | none => simp [hc'] at hy
    | some db' =>
      rw [hc] at hx
      rw [hc'] at hy
      cases hx
      cases hy
      exact ⟨rfl, hw⟩

/-- A write of a tenant database that takes twins to twins. -/
theorem blind_writeTenant {c : String} {f : Db → Except Exn Db}
    (h : ∀ db db' d d', TwinDb db db' → f db = .ok d → f db' = .ok d' → TwinDb d d') :
    Blind (Async.await (writeTenant c f)) := by
  refine Blind.await fun w w' hw a v b v' hx hy => ?_
  have hrel := hw.tenants c
  cases hc : w.tenants c with
  | none => simp [writeTenant, hc] at hx
  | some db =>
    cases hc' : w'.tenants c with
    | none => simp [writeTenant, hc'] at hy
    | some db' =>
      rw [hc, hc'] at hrel
      cases hrel with
      | some hdb =>
        rw [writeTenant_apply hc] at hx
        rw [writeTenant_apply hc'] at hy
        cases hf : f db with
        | error e => simp [hf] at hx
        | ok d =>
          cases hf' : f db' with
          | error e => simp [hf'] at hy
          | ok d' =>
            rw [hf] at hx
            rw [hf'] at hy
            cases hx
            cases hy
            exact ⟨rfl, hw.setTenant c (h _ _ d d' hdb hf hf')⟩

end Operations

section Programs

variable (env : Env)

theorem blind_blacklist (c u : String) : Blind (setUserAccessTokenBlacklistCache env c u) := by
  refine (blind_scanStart env).bind fun plan => Blind.forM (fun r => ?_) _
  refine (blind_scan _ r).bind fun keys => Blind.forM (fun key => ?_) _
  exact Blind.ite (fun _ => blind_cacheSet _ _ _) fun _ => Blind.pure _

theorem blind_deleteKeys (pattern : String) : Blind (deleteKeysByPattern env pattern) := by
  refine (blind_scanStart env).bind fun plan => Blind.forM (fun r => ?_) _
  exact (blind_scan _ r).bind fun keys => Blind.forM (fun key => blind_cacheDel key) _

theorem blind_clear (c u : String) : Blind (clearUserAllTokenCaches env c u) :=
  (blind_deleteKeys env _).bind fun _ => blind_deleteKeys env _

theorem blind_setAll (c u t r : String) (value : CacheValue) :
    Blind (setUserAllTokenCache env c u t r value) :=
  (blind_cacheSet _ _ _).bind fun _ => (blind_cacheSet _ _ _).bind fun _ => Blind.pure _

theorem blind_invalidate (userId : String) : Blind (invalidateUserTokens userId) := by
  refine blind_writeRoot fun db db' d d' h hd hd' => ?_
  cases hd
  cases hd'
  exact h.invalidate userId

theorem blind_tenantInvalidate (c userId : String) :
    Blind (tenantInvalidatePreviousRefreshTokens c userId) := by
  refine (blind_getTenantClient c).bind fun _ => blind_writeTenant fun db db' d d' h hd hd' => ?_
  cases hd
  cases hd'
  exact h.invalidate userId

/-- A search of the root users by the common fields. -/
theorem alike_findUser {f : Db → Option User}
    (hf : ∀ db db', TwinDb db db' → Option.Rel SameInfo (f db) (f db')) :
    Async.Alike Twin (Async.await (readRoot f) : App (Option User)) (Async.await (readRoot f))
      fun a b w w' => Option.Rel SameInfo a b ∧ Twin w w' := by
  refine Async.Alike.await fun w w' hw a v b v' hx hy => ?_
  cases hx
  cases hy
  exact ⟨hf _ _ hw.root, hw⟩

theorem blind_notify (c userId : String) (ip loc : Option String) :
    Blind (notifySecurityTeam env c userId ip loc) := by
  refine (blind_sendMessage _).bind fun _ => ?_
  refine Async.Alike.bind (alike_findUser fun _ _ h => h.findUserById userId) fun user user' => ?_
  intro w w' hw
  obtain ⟨huser, htwin⟩ := hw
  have hupdate : Blind (Async.await (do
      let resetToken ← uuidv4 env
      let now ← clock
      writeRoot fun db =>
        db.updateUserById userId (withResetPassword resetToken (now + minutes expireMinutes))
      return resetToken)) := by
    refine Blind.await fun w w' hw a v b v' hx hy => ?_
    simp only [sync_bind, clock_apply, uuidv4_apply, sync_pure, writeRoot_apply,
      Db.updateUserById, hw.now, hw.draws] at hx hy
    cases ht : w.root.user.update (fun u => u.id == userId)
        (withResetPassword (env.uuidv4 w.draws) (w.now + minutes expireMinutes)) with
    | none =>
      rw [ht] at hx
      cases hx
    | some t =>
      cases ht' : w'.root.user.update (fun u => u.id == userId)
          (withResetPassword (env.uuidv4 w.draws) (w.now + minutes expireMinutes)) with
      | none =>
        rw [ht'] at hy
        cases hy
      | some t' =>
        rw [ht] at hx
        rw [ht'] at hy
        cases hx
        cases hy
        refine ⟨rfl, rfl, ?_, hw.tenants, hw.redis, hw.mails, hw.slack, rfl⟩
        exact TwinDb.update (fun u v huv => by rw [huv.id]) (fun u v huv => huv) hw.root ht ht'
  cases huser with
  | none => exact (hupdate.bind fun _ => Blind.pure ()) w w' htwin
  | @some u u' huv =>
    dsimp only
    rw [← huv.email, ← huv.name]
    refine (hupdate.bind fun token => Blind.await fun w w' hw a v b v' hx hy => ?_) w w' htwin
    unfold sendSecurityAlertEmail at hx hy
    split at hx
    · rename_i hacc
      rw [if_pos hacc] at hy
      cases hx
      cases hy
      exact ⟨rfl, hw.now, hw.root, hw.tenants, hw.redis, by rw [hw.mails], hw.slack, hw.draws⟩
    · cases hx

theorem blind_theft (userId ip : String) (loc : Option String) :
    Blind (handleTokenTheft env userId ip loc) := by
  refine (blind_invalidate userId).bind fun _ => Blind.bind ?_ fun _ => blind_notify env _ _ _ _
  refine blind_writeRoot fun db db' d d' h hd hd' => ?_
  cases hd
  cases hd'
  refine ⟨h.user, h.refreshToken, h.trustedDevice, ?_⟩
  unfold Db.ipUpsert
  rw [h.ipDenylist]

theorem TwinDb.createTrustedDevice {db db' d d' : Db} {row : TrustedDevice} (h : TwinDb db db')
    (hd : db.createTrustedDevice row = .ok d) (hd' : db'.createTrustedDevice row = .ok d') :
    TwinDb d d' := by
  obtain ⟨hv, -, -, rfl⟩ := Db.createTrustedDevice_ok hd
  obtain ⟨hv', -, -, rfl⟩ := Db.createTrustedDevice_ok hd'
  refine ⟨h.user, h.refreshToken, ?_, h.ipDenylist⟩
  simp only [h.trustedDevice]

theorem blind_registerTrustedDevice (userId deviceName ip userAgent : String) :
    Blind (Async.await (registerTrustedDevice env userId deviceName ip userAgent)) := by
  refine Blind.await fun w w' hw a v b v' hx hy => ?_
  simp only [registerTrustedDevice, sync_bind, clock_apply, uuidv4_apply, sync_pure,
    writeRoot_apply, hw.now, hw.draws] at hx hy
  cases hd : w.root.createTrustedDevice _ with
  | error e =>
    rw [hd] at hx
    cases hx
  | ok d =>
    cases hd' : w'.root.createTrustedDevice _ with
    | error e =>
      rw [hd'] at hy
      cases hy
    | ok d' =>
      rw [hd] at hx
      rw [hd'] at hy
      cases hx
      cases hy
      refine ⟨rfl, rfl, ?_, hw.tenants, hw.redis, hw.mails, hw.slack, rfl⟩
      exact hw.root.createTrustedDevice hd hd'

theorem blind_generateTokens (user : UserInfo) (ip : String) :
    Blind (generateTokens env user ip) := by
  refine Blind.bind (Blind.await fun w w' hw a v b v' hx hy => ?_) fun m =>
    (blind_setAll env _ _ _ _ _).bind fun _ => Blind.pure _
  simp only [mint, sync_bind, clock_apply, uuidv4_apply, sync_pure, writeRoot_apply] at hx hy
  cases hd : w.root.createRefreshToken _ with
  | error e =>
    rw [hd] at hx
    cases hx
  | ok d =>
    cases hd' : w'.root.createRefreshToken _ with
    | error e =>
      rw [hd'] at hy
      cases hy
    | ok d' =>
      rw [hd] at hx
      rw [hd'] at hy
      cases hx
      cases hy
      rw [hw.now, hw.draws] at hd'
      exact ⟨by rw [hw.now, hw.draws], hw.withDraws.withRoot (hw.root.createRefreshToken hd hd')⟩

theorem blind_tenantGenerateTokens (c : String) (user : UserInfo) (ip : String) :
    Blind (tenantGenerateTokens env c user ip) := by
  refine Blind.bind (Blind.await fun w w' hw a v b v' hx hy => ?_) fun m => ?_
  · simp only [mint, getTenantClient, sync_bind, clock_apply, uuidv4_apply, sync_pure] at hx hy
    cases hc : w.tenants c with
    | none => simp [hc] at hx
    | some db =>
      cases hc' : w'.tenants c with
      | none => simp [hc'] at hy
      | some db' =>
        rw [hc] at hx
        rw [hc'] at hy
        cases hx
        cases hy
        exact ⟨by rw [hw.now, hw.draws], hw.withDraws⟩
  · refine (blind_writeTenant fun db db' d d' h hd hd' => h.createRefreshToken hd hd').bind
      fun _ => (blind_setAll env _ _ _ _ _).bind fun _ => Blind.pure _

/-- A login without a device token returns for no user with a second factor. -/
theorem blind_gatedLogin {message : String} {user : UserInfo} {device : App String}
    {generate : App LoginResponse} (h : Blind generate) :
    Blind (gatedLogin message user none device generate) := by
  refine (blind_sendMessage message).bind fun _ => ?_
  cases h2 : user.isTwoFactorEnabled with
  | true => exact Blind.throw _
  | false => exact h

theorem blind_login (user : UserInfo) (ip : String) : Blind (login env user ip none none) := by
  rw [login_eq, loginRest_gated]
  exact (blind_invalidate user.id).bind fun _ => (blind_blacklist env _ _).bind fun _ =>
    (blind_clear env _ _).bind fun _ => blind_gatedLogin (blind_generateTokens env user ip)

theorem blind_tenantLogin (c : String) (user : UserInfo) (ip : String) :
    Blind (tenantLogin env c user ip none none) := by
  rw [LoginSimulation.tenantLogin_eq, tenantLoginRest_gated]
  exact (blind_tenantInvalidate c user.id).bind fun _ => (blind_blacklist env _ _).bind fun _ =>
    (blind_clear env _ _).bind fun _ => blind_gatedLogin (blind_tenantGenerateTokens env c user ip)

theorem blind_newAccessToken (c : String) (user : UserInfo) (ip : String) :
    Blind (newAccessToken env c user ip) := by
  refine Blind.bind (Blind.await fun w w' hw a v b v' hx hy => ?_) fun pt => ?_
  · simp only [sync_bind, clock_apply, sync_pure] at hx hy
    cases hx
    cases hy
    exact ⟨by rw [hw.now], hw⟩
  · exact (blind_blacklist env _ _).bind fun _ => (blind_cacheSet _ _ _).bind fun _ => Blind.pure _

end Programs

end NestUserService.Auth.TwinWorlds
