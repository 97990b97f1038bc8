import NestUserService.Auth.LoginSimulation
import NestUserService.Auth.Revocation
import NestUserService.Auth.TokenTheft

/-!
# The calls that issue tokens

Each of them is cut where it starts to issue. What comes before moves neither the clock
nor the cache, apart from the end of the previous sessions in a login.
-/

namespace NestUserService.Auth

open Lib NestUserService.Core Shared

section Login

variable {α : Type}

/-- Neither the clock nor the cache moves. -/
structure Idle (w w' : World) : Prop where
  now : w'.now = w.now
  redis : w'.redis = w.redis

theorem Idle.refl (w : World) : Idle w w := ⟨rfl, rfl⟩

theorem Idle.trans (w w' w'' : World) (h : Idle w w') (h' : Idle w' w'') : Idle w w'' :=
  ⟨h'.now.trans h.now, h'.redis.trans h.redis⟩

theorem idle_of_sameTokens (w w' : World) (h : SameTokens w w') : Idle w w' := ⟨h.now, h.redis⟩

theorem idle_of_steps {x : App α} (h : Steps (Revocation.cacheScope NoPut NoDel) x) :
    Async.Guarantees Idle (fun _ => True) x := by
  refine Async.Guarantees.mono h (fun w w' hs => ⟨hs.now, ?_⟩) fun _ h => h
  rcases hs.redis with he | ⟨k, v, ttl, hput, -⟩ | ⟨k, hdel, -⟩
  · exact he
  · exact hput.elim
  · exact hdel.elim

/-- A login between the end of the previous sessions and the new one. -/
def gatedLogin (message : String) (user : UserInfo) (d : Option String) (device : App String)
    (generate : App LoginResponse) : App LoginResponse := do
  Async.await (sendMessage message)
  if user.isTwoFactorEnabled && !truthy d then
    throw deviceTokenMissing
  if user.isTwoFactorEnabled then
    let _ ← device
  generate

theorem loginRest_gated (env : Env) (user : UserInfo) (ip : String) (d ua : Option String) :
    loginRest env user ip d ua = gatedLogin (loginText user.id ip) user d
      (validateOrRegisterDevice env user.id d ip ua) (generateTokens env user ip) := rfl

theorem tenantLoginRest_gated (env : Env) (c : String) (user : UserInfo) (ip : String)
    (d ua : Option String) :
    LoginSimulation.tenantLoginRest env c user ip d ua =
      gatedLogin (tenantLoginText c user.id ip) user d
        (tenantValidateOrRegisterDevice env user.id (d.getD "") (some ip) ua none)
        (tenantGenerateTokens env c user ip) := rfl

theorem idle_device (env : Env) (u : String) (d : Option String) (ip : String)
    (ua : Option String) :
    Async.Guarantees Idle (fun _ => True) (validateOrRegisterDevice env u d ip ua) :=
  idle_of_steps (steps_validateOrRegisterDevice env d ip ua fun _ _ => trivial)

theorem idle_tenantDevice (env : Env) (c u : String) (d ip ua : Option String) :
    Async.Guarantees Idle (fun _ => True) (tenantValidateOrRegisterDevice env c u d ip ua) :=
  idle_of_steps (steps_tenantValidateOrRegisterDevice env d ip ua fun _ _ => trivial)

/-- A login that returns goes through its last part. -/
theorem gatedLogin_ok {message : String} {user : UserInfo} {d : Option String}
    {device : App String} {generate : App LoginResponse}
    (hdevice : Async.Guarantees Idle (fun _ => True) device) {r : LoginResponse} {w w' : World}
    (h : (gatedLogin message user d device generate).run w = .ok r w') :
    ∃ v, Idle w v ∧ generate.run v = .ok r w' := by
  unfold gatedLogin at h
  rw [Async.run_bind, Async.run_await, sendMessage_apply] at h
  generalize hw : ({ w with slack := w.slack ++ [message] } : World) = v at h
  have hv : Idle w v := by
    subst hw
    exact ⟨rfl, rfl⟩
  cases h2 : user.isTwoFactorEnabled with
  | false =>
    simp only [h2, Bool.false_and, Bool.false_eq_true, if_false] at h
    exact ⟨v, hv, h⟩
  | true =>
    cases hd : truthy d with
    | false => simp [h2, hd] at h
    | true =>
      simp only [h2, hd, Bool.not_true, Bool.and_false, Bool.false_eq_true, if_false, if_true,
        Async.run_bind] at h
      have hidle := hdevice.run Idle.refl Idle.trans v
      cases hrun : device.run v with
      | error e v' => simp [hrun] at h
      | ok token v' =>
        rw [hrun] at h hidle
        exact ⟨v', Idle.trans _ _ _ hv hidle, h⟩

theorem idle_writeTenant (c : String) (f : Db → Except Exn Db) (w : World) :
    Idle w (finalState (writeTenant c f w)) := by
  rcases writeTenant_cases c f w with he | ⟨db, db', -, -, he⟩ <;> rw [he] <;> exact ⟨rfl, rfl⟩

/-- The remainder of a login keeps what its device check and its last part keep. -/
theorem guarantees_gatedLogin {G : World → World → Prop} {message : String} {user : UserInfo}
    {d : Option String} {device : App String} {generate : App LoginResponse}
    (hidle : ∀ w w', Idle w w' → G w w') (hdevice : Async.Guarantees Idle (fun _ => True) device)
    (hgen : Async.Guarantees G (fun _ => True) generate) :
    Async.Guarantees G (fun _ => True) (gatedLogin message user d device generate) := by
  refine Async.Guarantees.bind ((quiet_sendMessage _).guarantees
    fun w w' h => hidle _ _ (idle_of_sameTokens w w' h)) fun _ _ => ?_
  refine Async.Guarantees.ite (fun _ => Async.Guarantees.throw _) fun _ =>
    Async.Guarantees.ite (fun _ => ?_) fun _ => hgen
  exact (hdevice.mono hidle fun _ h => h).bind fun _ _ => hgen

end Login

section Refresh

variable {env : Env} {cmd : UpdateRefreshAccessTokenCommand}

def subjectFromDb (env : Env) (cmd : UpdateRefreshAccessTokenCommand) : App UserInfo := do
  let refreshDbRecord ← Async.await (findValidRefreshToken env cmd.refreshToken)
  match refreshDbRecord with
  | none => throw invalidRefreshToken
  | some record =>
    if record.userId ≠ cmd.userId then
      throw invalidRefreshToken
    if record.ip ≠ some cmd.ip then
      handleTokenTheft env record.userId cmd.ip none
    let user ← Async.await (readRoot fun db => db.findUserById cmd.userId)
    match user with
    | none => throw userNotFound
    | some user => return User.info user

def subjectFromCache (env : Env) (cmd : UpdateRefreshAccessTokenCommand) : CacheValue → App UserInfo
  | .text _ => throw invalidRefreshToken
  | .payload record => do
    if record.id ≠ cmd.userId then
      throw invalidRefreshToken
    if record.ip ≠ cmd.ip then
      handleTokenTheft env record.id cmd.ip none
    return record.toUserInfo

/-- The refresh handler up to `newAccessToken`. -/
def refreshSubject (env : Env) (cmd : UpdateRefreshAccessTokenCommand) : App UserInfo := do
  let tokenCacheRecord ← getRefreshTokenCache cmd.clientCode cmd.userId cmd.refreshToken.text
  match tokenCacheRecord with
  | some record =>
    if record.truthy then subjectFromCache env cmd record
    else subjectFromDb env cmd
  | none => subjectFromDb env cmd

theorem refreshFromDb_cut (env : Env) (cmd : UpdateRefreshAccessTokenCommand) :
    refreshFromDb env cmd = subjectFromDb env cmd >>= fun user =>
      newAccessToken env cmd.clientCode user cmd.ip := by
  unfold refreshFromDb subjectFromDb
  rw [Async.bind_assoc]
  congr
  funext record
  cases record with
  | none => rfl
  | some record =>
    simp only [Async.ite_bind, Async.throw_bind, Async.bind_assoc]
    by_cases hid : record.userId = cmd.userId
    · by_cases hip : record.ip = some cmd.ip
      · simp only [hid, hip, ne_eq, not_true_eq_false, if_false]
        congr
        funext user
        cases user <;> rfl
      · simp only [hid, hip, ne_eq, not_true_eq_false, not_false_eq_true, if_false, if_true]
        congr
        funext _
        congr
        funext user
        cases user <;> rfl
    · simp only [hid, ne_eq, not_false_eq_true, if_true]

theorem refresh_cut (env : Env) (cmd : UpdateRefreshAccessTokenCommand) :
    updateRefreshAccessToken env cmd = refreshSubject env cmd >>= fun user =>
      newAccessToken env cmd.clientCode user cmd.ip := by
  have hcache (value : CacheValue) : refreshFromCache env cmd value =
      subjectFromCache env cmd value >>= fun user =>
        newAccessToken env cmd.clientCode user cmd.ip := by
    cases value with
    | text s => rfl
    | payload record =>
      simp only [refreshFromCache, subjectFromCache, Async.ite_bind, Async.throw_bind,
        Async.bind_assoc, Async.pure_bind]
  unfold updateRefreshAccessToken refreshSubject
  rw [Async.bind_assoc]
  congr
  funext found
  cases found with
  | none => exact refreshFromDb_cut env cmd
  | some value => simp only [hcache, refreshFromDb_cut, Async.ite_bind]

theorem guarantees_theft (env : Env) (u ip : String) (loc : Option String) :
    Async.Guarantees Idle (fun _ => True) (handleTokenTheft env u ip loc) :=
  guarantees_handleTokenTheft env idle_of_sameTokens (fun _ => ⟨rfl, rfl⟩) ip loc

theorem idle_findUser (id : String) {f : Option User → App UserInfo}
    {V : UserInfo → Prop} (hnone : Async.Guarantees Idle V (f none))
    (hsome : ∀ v : User, v.id = id → Async.Guarantees Idle V (f (some v))) :
    Async.Guarantees Idle V (Async.await (readRoot fun db => db.findUserById id) >>= f) := by
  refine Async.Guarantees.bind (V := fun user => ∀ v : User, user = some v → v.id = id)
    (Async.Guarantees.await Idle.refl fun w user w' h v hv => ?_) fun user hu => ?_
  · cases h
    exact (Db.findUserById_some hv).2
  · cases user with
    | none => exact hnone
    | some v => exact hsome v (hu v rfl)

/-- A refresh only issues for the user it names. -/
theorem guarantees_subject (env : Env) (cmd : UpdateRefreshAccessTokenCommand) :
    Async.Guarantees Idle (fun user => user.id = cmd.userId) (refreshSubject env cmd) := by
  have hdb : Async.Guarantees Idle (fun user => user.id = cmd.userId) (subjectFromDb env cmd) := by
    refine ((quiet_findValidRefreshToken env _).guarantees idle_of_sameTokens).bind
      fun record _ => ?_
    cases record with
    | none => exact Async.Guarantees.throw _
    | some record =>
      have hread (v : User) (hv : v.id = cmd.userId) :
          Async.Guarantees Idle (fun user => user.id = cmd.userId)
            (pure (User.info v) : App UserInfo) := hv
      refine Async.Guarantees.ite (fun _ => Async.Guarantees.throw _) fun _ =>
        Async.Guarantees.ite (fun _ => ?_) fun _ =>
          idle_findUser _ (Async.Guarantees.throw _) hread
      exact (guarantees_theft env _ _ _).bind fun _ _ =>
        idle_findUser _ (Async.Guarantees.throw _) hread
  have hcache (value : CacheValue) : Async.Guarantees Idle (fun user => user.id = cmd.userId)
      (subjectFromCache env cmd value) := by
    cases value with
    | text s => exact Async.Guarantees.throw _
    | payload record =>
      refine Async.Guarantees.ite (fun _ => Async.Guarantees.throw _) fun hid => ?_
      rw [not_not] at hid
      refine Async.Guarantees.ite (fun _ => ?_) fun _ => Async.Guarantees.pure hid
      exact (guarantees_theft env _ _ _).bind fun _ _ => Async.Guarantees.pure hid
  refine Async.Guarantees.bind (V := fun _ => True)
    (Async.Guarantees.await Idle.refl fun _ _ _ _ => trivial) fun found _ => ?_
  cases found with
  | none => exact hdb
  | some value => exact Async.Guarantees.ite (fun _ => hcache value) fun _ => hdb

/-- The user that a refresh issues for: the cached session, or the row of the user. -/
def refreshUser (cmd : UpdateRefreshAccessTokenCommand) (w : World) : Option UserInfo :=
  match w.redis.find? w.now (refreshKey cmd.clientCode cmd.userId cmd.refreshToken.text) with
  | some (.payload p) => some p.toUserInfo
  | some (.text _) => (w.root.findUserById cmd.userId).map User.info
  | none => (w.root.findUserById cmd.userId).map User.info

/-- The response to a theft changes no field that a token carries. -/
theorem theft_keeps_info {u ip : String} {loc : Option String} {w w' : World}
    (h : (handleTokenTheft env u ip loc).run w = .ok () w') (id : String) :
    (w'.root.findUserById id).map User.info = (w.root.findUserById id).map User.info := by
  by_cases hv : ∃ v ∈ w.root.user.rows, v.id = ip
  · obtain ⟨v, hv, rfl⟩ := hv
    rw [TokenTheft.run_theft_found env w loc hv] at h
    dsimp only at h
    split at h
    · cases h
      change Option.map User.info ((w.root.user.updateMany _ _).findFirst fun v => v.id == id) = _
      rw [Table.findFirst_updateMany fun _ => rfl, Option.map_map]
      refine congrArg (fun f => Option.map f (w.root.findUserById id)) (funext fun v' => ?_)
      dsimp only [Function.comp]
      split <;> rfl
    · cases h
  · rw [TokenTheft.run_theft_missing env w u loc fun v hm he => hv ⟨v, hm, he⟩] at h
    cases h

theorem findValidRefreshToken_state (env : Env) (token : Arg) (w : World) :
    finalState (findValidRefreshToken env token w) = w := by
  simp only [findValidRefreshToken, sync_bind, clock_apply, queryRoot_apply]
  cases (whereString env false token).map _ <;> rfl

theorem subjectFromDb_ok {user : UserInfo} {w w' : World}
    (h : (subjectFromDb env cmd).run w = .ok user w') :
    (w.root.findUserById cmd.userId).map User.info = some user := by
  have hread {v : World} (hv : (Async.run (do
      let user ← Async.await (readRoot fun db => db.findUserById cmd.userId)
      match user with
      | none => throw userNotFound
      | some user => return User.info user) v) = .ok user w') :
      (v.root.findUserById cmd.userId).map User.info = some user := by
    cases hf : v.root.findUserById cmd.userId with
    | none => simp [hf] at hv
    | some row =>
      simp [hf] at hv
      simp [hv.1]
  have hstate := findValidRefreshToken_state env cmd.refreshToken w
  unfold subjectFromDb at h
  rw [Async.run_bind, Async.run_await] at h
  cases hq : findValidRefreshToken env cmd.refreshToken w with
  | error e v => simp [hq] at h
  | ok record v =>
    rw [hq, finalState_ok] at hstate
    subst hstate
    cases record with
    | none => simp [hq] at h
    | some record =>
      by_cases hid : record.userId = cmd.userId
      · by_cases hip : record.ip = some cmd.ip
        · simp only [hq, hid, hip, ne_eq, not_true_eq_false, if_false] at h
          exact hread h
        · simp only [hq, hid, hip, ne_eq, not_true_eq_false, not_false_eq_true, if_false, if_true,
            Async.run_bind] at h
          cases ht : (handleTokenTheft env cmd.userId cmd.ip none).run v with
          | error e v' => simp [ht] at h
          | ok _ v' =>
            rw [ht] at h
            rw [← theft_keeps_info ht]
            exact hread h
      · simp [hq, hid] at h

theorem subjectFromCache_ok {p : TokenCachePayload} {user : UserInfo} {w w' : World}
    (h : (subjectFromCache env cmd (.payload p)).run w = .ok user w') : p.toUserInfo = user := by
  unfold subjectFromCache at h
  by_cases hid : p.id = cmd.userId
  · by_cases hip : p.ip = cmd.ip
    · simp [hid, hip] at h
      exact h.1
    · simp only [hid, hip, ne_eq, not_true_eq_false, not_false_eq_true, if_false, if_true,
        Async.run_bind] at h
      cases ht : (handleTokenTheft env cmd.userId cmd.ip none).run w with
      | error e v => simp [ht] at h
      | ok _ v =>
        simp [ht] at h
        exact h.1
  · simp [hid] at h

theorem subject_ok {user : UserInfo} {w w' : World}
    (h : (refreshSubject env cmd).run w = .ok user w') : refreshUser cmd w = some user := by
  unfold refreshSubject getRefreshTokenCache at h
  rw [Async.run_bind, Async.run_await, cacheGet] at h
  unfold refreshUser
  cases hf : w.redis.find? w.now (refreshKey cmd.clientCode cmd.userId cmd.refreshToken.text) with
  | none =>
    rw [hf] at h
    exact subjectFromDb_ok h
  | some value =>
    rw [hf] at h
    cases value with
    | payload p => exact congrArg some (subjectFromCache_ok h)
    | text s =>
      by_cases hs : CacheValue.truthy (.text s) = true
      · simp [hs, subjectFromCache] at h
      · simp only [hs, Bool.false_eq_true, if_false] at h
        exact subjectFromDb_ok h

end Refresh

end NestUserService.Auth
