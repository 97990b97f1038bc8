import NestUserService.Auth.Boundaries

/-!
# What a request behind the guard can do

Any calls run next to it. A request whose token does not verify changes nothing. A request
whose token was signed for a user is served as that user, and the routes of the second
factor change nothing that belongs to somebody else.
-/

namespace NestUserService.Auth.GuardedRoutes

open Lib NestUserService.Core Shared Boundaries

/-- The value is a user object with the id. -/
def IsUser (u : String) (v : CacheValue) : Prop := ∃ q, v = .payload q ∧ q.id = u

/-- The pieces of the keys that the request leads to. -/
def PlainPieces (req : Request) (u : String) : Prop :=
  ∀ T, req.accessToken = some T → Plainly (req.tenantId.getD "undefined") u T

-- A colon in the header is enough for a key of another header and another user.
example : tokenKey .access "acme:user:u1:token:access:x" "u2" "t" =
    tokenKey .access "acme" "u1" "x:user:u2:token:access:t" := by decide

section Validate

variable {u : String} {G : World → World → Prop}

/-- A row that the id claim leads to has that id. -/
theorem findPayloadUser_id {db : Db} {payload : JwtPayload} (hid : payload.id = some u)
    {found : User × List RefreshToken} (h : findPayloadUser db payload = some found) :
    found.1.id = u := by
  unfold findPayloadUser at h
  obtain ⟨x, hx, rfl⟩ := Option.map_eq_some_iff.mp h
  obtain ⟨-, hp⟩ := Table.findFirst_mem hx
  simpa [hid] using hp

variable {env : Env} {c : String} {payload : JwtPayload}

/-- A payload of the user may be stored under the keys of the user. -/
def MayStore (G : World → World → Prop) (c u : String) : Prop :=
  ∀ w p kind t ttl, p.id = u → kind ≠ Kind.blacklist →
    G w { w with redis := w.redis.put (tokenKey kind c u t) (Entry.stamp (.payload p) w.now ttl) }

theorem conducts_cacheGet (hstay : ∀ w, G w w) (key : String) :
    Async.Conducts WellKeyed G (fun _ => True) (fun _ => True) (Async.await (cacheGet key)) :=
  Async.Conducts.await fun w _ => ⟨hstay w, fun _ _ _ => trivial, fun _ _ _ => trivial⟩

theorem conducts_cacheSet (hput : MayStore G c u) (kind : Kind) (hk : kind ≠ .blacklist)
    {p : TokenCachePayload} (hp : p.id = u) (t : String) (ttl : Nat) :
    Async.Conducts WellKeyed G (fun _ => True) (fun _ => True)
      (Async.await (cacheSet (tokenKey kind c p.id t) (.payload p) ttl)) := by
  refine Async.Conducts.await fun w _ => ⟨?_, fun _ _ _ => trivial, fun _ _ _ => trivial⟩
  rw [hp]
  exact hput w p kind t ttl hp hk

theorem conducts_setAccess (hput : MayStore G c u) {p : TokenCachePayload} (hp : p.id = u)
    (T : String) : Async.Conducts WellKeyed G (fun _ => True) (fun _ => True)
      (setUserAccessTokenCache env c p.id T (.payload p)) :=
  conducts_cacheSet hput .access (by decide) hp T env.accessTokenCacheExpiresIn

theorem conducts_setAll (hput : MayStore G c u) {p : TokenCachePayload} (hp : p.id = u)
    (T token : String) : Async.Conducts WellKeyed G (fun _ => True) (fun _ => True)
      (setUserAllTokenCache env c p.id T token (.payload p)) :=
  (conducts_setAccess hput hp T).bind fun _ _ =>
    (conducts_cacheSet hput .refresh (by decide) hp token env.refreshTokenCacheExpiresIn).bind
      fun _ _ => Async.Conducts.pure trivial

theorem conducts_validateFromDb (env : Env) (hid : payload.id = some u) (hstay : ∀ w, G w w)
    (hput : MayStore G c u) (T ip : String) :
    Async.Conducts WellKeyed G (IsUser u) (fun _ => True)
      (validateFromDb env c T ip payload) := by
  have hread : Async.Conducts WellKeyed G
      (fun found => ∀ f : User × List RefreshToken, found = some f → f.1.id = u) (fun _ => True)
      (Async.await (readRoot fun db => findPayloadUser db payload)) := by
    refine Async.Conducts.await fun w _ => ⟨hstay w, fun found w' he => ?_, fun _ _ _ => trivial⟩
    cases he
    exact fun f hf => findPayloadUser_id hid hf
  refine hread.bind fun found hfound => ?_
  cases found with
  | none => exact Async.Conducts.throw trivial
  | some found =>
    have hclock : Async.Conducts WellKeyed G (fun _ => True) (fun _ => True)
        (Async.await clock) :=
      Async.Conducts.await fun w _ => ⟨hstay w, fun _ _ _ => trivial, fun _ _ _ => trivial⟩
    refine hclock.bind fun issuedAt _ => ?_
    let p : TokenCachePayload := ⟨User.info found.1, ip, issuedAt⟩
    have hp : p.id = u := hfound found rfl
    have hret : Async.Conducts WellKeyed G (IsUser u) (fun _ => True)
        (Pure.pure (.payload p) : App CacheValue) := ⟨p, rfl, hp⟩
    cases found.2.find? fun t => t.isValid with
    | none => exact (conducts_setAccess hput hp T).bind fun _ _ => hret
    | some r => exact (conducts_setAll hput hp T r.token).bind fun _ _ => hret

/-- What the cache holds for the token is a user object of the user. -/
theorem conducts_getAccess (hstay : ∀ w, G w w) {T : String} (hplain : Plainly c u T) :
    Async.Conducts WellKeyed G (fun found => ∀ v : CacheValue, found = some v → IsUser u v)
      (fun _ => True) (getAccessTokenCache c u T) := by
  refine Async.Conducts.await fun w hw => ⟨hstay w, fun found w' he => ?_, fun _ _ _ => trivial⟩
  cases he
  exact fun v hv => hw.access hplain hv

/-- `validate` only writes entries of the user of the token, and returns that user. -/
theorem conducts_validate (env : Env) {req : Request} (hid : payload.id = some u) (hu : u ≠ "")
    (hplain : PlainPieces req u) (hstay : ∀ w, G w w)
    (hput : MayStore G (req.tenantId.getD "undefined") u) :
    Async.Conducts WellKeyed G (IsUser u) (fun _ => True) (validate env req payload) := by
  unfold validate
  refine Async.Conducts.ite (fun _ => Async.Conducts.throw trivial) fun _ => ?_
  cases hT : req.accessToken with
  | none => exact Async.Conducts.throw trivial
  | some T =>
    rw [userId_eq hid hu]
    have hlisted : Async.Conducts WellKeyed G (fun _ => True) (fun _ => True)
        (getIsAccessTokenBlacklistCache (req.tenantId.getD "undefined") u T) :=
      (conducts_cacheGet hstay _).bind fun _ _ => Async.Conducts.pure trivial
    refine Async.Conducts.ite (fun _ => Async.Conducts.throw trivial) fun _ =>
      hlisted.bind fun b _ => Async.Conducts.ite (fun _ => Async.Conducts.throw trivial) fun _ =>
        (conducts_getAccess hstay (hplain T hT)).bind fun found hfound => ?_
    have hdb := conducts_validateFromDb env hid hstay hput T req.clientIp
    cases found with
    | none => exact hdb
    | some v => exact Async.Conducts.ite (fun _ => hfound v rfl) fun _ => hdb

end Validate

/-- What belongs to other users, to tenants and to nobody is as before; so is everything in
the cache that is not under a key of the user. -/
structure OnlyFor (u : String) (w w' : World) : Prop where
  user : ∀ x : User, x.id ≠ u → (x ∈ w'.root.user.rows ↔ x ∈ w.root.user.rows)
  refreshToken : w'.root.refreshToken = w.root.refreshToken
  trustedDevice : ∀ d : TrustedDevice, d.userId ≠ u →
    (d ∈ w'.root.trustedDevice.rows ↔ d ∈ w.root.trustedDevice.rows)
  ipDenylist : w'.root.ipDenylist = w.root.ipDenylist
  tenants : w'.tenants = w.tenants
  entries : ∀ k, (∀ kind c t, k ≠ tokenKey kind c u t) →
    w'.redis.lookup k = w.redis.lookup k

section OnlyFor

variable {u : String} {α : Type}

theorem onlyFor_of_undisturbed {w w' : World} (h : Undisturbed w w') : OnlyFor u w w' where
  user _ _ := by rw [h.root]
  refreshToken := by rw [h.root]
  trustedDevice _ _ := by rw [h.root]
  ipDenylist := by rw [h.root]
  tenants := h.tenants
  entries _ _ := by rw [h.redis]

/-- Programs that only act for the user. -/
def For (u : String) (x : App α) : Prop :=
  Async.Conducts WellKeyed (OnlyFor u) (fun _ => True) (fun _ => True) x

theorem For.bind {β : Type} {x : App α} {f : α → App β} (h : For u x) (hf : ∀ a, For u (f a)) :
    For u (x >>= f) :=
  Async.Conducts.bind h fun a _ => hf a

theorem For.pure (a : α) : For u (Pure.pure a) := trivial

theorem For.throw (e : Exn) : For u (MonadExcept.throw e : App α) := trivial

theorem For.ite {c : Prop} [Decidable c] {x y : App α} (hx : For u x) (hy : For u y) :
    For u (if c then x else y) :=
  Async.Conducts.ite (fun _ => hx) fun _ => hy

theorem For.await {x : Sync α} (h : ∀ w, OnlyFor u w (finalState (x w))) :
    For u (Async.await x) :=
  Async.Conducts.await fun w _ => ⟨h w, fun _ _ _ => trivial, fun _ _ _ => trivial⟩

theorem For.calm {x : Sync α} (h : Calm True x) : For u (Async.await x) :=
  .await fun w => onlyFor_of_undisturbed (h w).1

theorem onlyFor_updateUser {w : World} {db : Db} {data : Patch User}
    (h : w.root.updateUserById u data = .ok db) : OnlyFor u w { w with root := db } := by
  unfold Db.updateUserById at h
  split at h
  · rename_i t ht
    cases h
    rw [Table.update_some ht]
    refine ⟨fun x hx => ?_, rfl, fun _ _ => Iff.rfl, rfl, rfl, fun _ _ => rfl⟩
    refine Table.mem_updateMany_other (fun r => ?_) (by simpa using hx)
    rw [data.keeps User.id (by simp [Keyed.keys]) r]
  · cases h

theorem onlyFor_createDevice {w : World} {db : Db} {row : TrustedDevice} (hrow : row.userId = u)
    (h : w.root.createTrustedDevice row = .ok db) : OnlyFor u w { w with root := db } := by
  obtain ⟨hv, -, -, rfl⟩ := Db.createTrustedDevice_ok h
  refine ⟨fun _ _ => Iff.rfl, rfl, fun d hd => ?_, rfl, rfl, fun _ _ => rfl⟩
  rw [Table.mem_insert hv]
  refine ⟨fun hm => hm.resolve_right ?_, Or.inl⟩
  rintro rfl
  exact hd hrow

theorem onlyFor_writeRoot {w : World} {f : Db → Except Exn Db}
    (h : ∀ db, f w.root = .ok db → OnlyFor u w { w with root := db }) :
    OnlyFor u w (finalState (writeRoot f w)) := by
  rw [writeRoot_apply]
  cases hf : f w.root with
  | ok db => exact h db hf
  | error e => exact onlyFor_of_undisturbed (.refl w)

theorem OnlyFor.after {w w' w'' : World} (h : Undisturbed w w') (h' : OnlyFor u w' w'') :
    OnlyFor u w w'' := by
  obtain ⟨huser, htoken, hdevice, hip, htenants, hentries⟩ := h'
  rw [h.root] at huser htoken hdevice hip
  rw [h.tenants] at htenants
  rw [h.redis] at hentries
  exact ⟨huser, htoken, hdevice, hip, htenants, hentries⟩

/-- Synchronous code that only acts for the user. -/
def SyncFor (u : String) (x : Sync α) : Prop := ∀ w, OnlyFor u w (finalState (x w))

theorem SyncFor.after {β : Type} {x : Sync α} {f : α → Sync β} (hx : Calm True x)
    (hf : ∀ a, SyncFor u (f a)) : SyncFor u (x >>= f) := by
  intro w
  have hsame := (hx w).1
  rw [sync_bind]
  cases hxw : x w with
  | ok a w' =>
    rw [hxw] at hsame
    exact OnlyFor.after hsame (hf a w')
  | error e w' =>
    rw [hxw] at hsame
    exact onlyFor_of_undisturbed hsame

theorem SyncFor.returning {β : Type} {x : Sync α} (hx : SyncFor u x) (b : β) :
    SyncFor u (x >>= fun _ => Pure.pure b) := by
  intro w
  have hw := hx w
  rw [sync_bind]
  cases hxw : x w with
  | ok a w' =>
    rw [hxw] at hw
    exact hw
  | error e w' =>
    rw [hxw] at hw
    exact hw

theorem syncFor_updateUser (data : Patch User) :
    SyncFor u (writeRoot fun db => db.updateUserById u data) :=
  fun _ => onlyFor_writeRoot fun _ => onlyFor_updateUser

theorem syncFor_registerTrustedDevice (env : Env) (deviceName ip userAgent : String) :
    SyncFor u (registerTrustedDevice env u deviceName ip userAgent) :=
  .after (calm_uuidv4 env) fun _ => .after calm_clock fun _ =>
    SyncFor.returning (fun _ => onlyFor_writeRoot fun _ => onlyFor_createDevice rfl) _

theorem for_verifyOtp (env : Env) (otp ip userAgent : String) :
    For u (verifyTwoFactorOtp env { userId := u, otp, ip, userAgent }) := by
  have hread : Async.Conducts WellKeyed (OnlyFor u)
      (fun user => ∀ x : User, user = some x → x.id = u) (fun _ => True)
      (Async.await (readRoot fun db => db.findUserById u)) := by
    refine Async.Conducts.await fun w _ => ⟨onlyFor_of_undisturbed (.refl w), fun user w' he => ?_,
      fun _ _ _ => trivial⟩
    cases he
    exact fun x hx => (Db.findUserById_some hx).2
  refine Async.Conducts.bind hread fun user huser => ?_
  cases user with
  | none => exact For.throw _
  | some user =>
    have hid : user.id = u := huser user rfl
    refine For.ite (For.throw _) (For.ite (For.throw _) (For.bind (.await (syncFor_updateUser _))
      fun _ => ?_))
    rw [hid]
    exact .await (syncFor_registerTrustedDevice env _ _ _)

theorem for_generateQr (env : TwoFactorEnv) {cmd : VerifyGenerateTwoFactorQrCommand}
    (hid : cmd.userId = some u) : For u (verifyGenerateTwoFactorQr env cmd) := by
  have hsecret : Calm True (generateSecret env cmd.email) :=
    calm_of_ok fun _ => ⟨_, _, rfl, rfl, rfl, rfl, rfl⟩
  have hset (secret : String) : SyncFor u (setTwoFactorSecret cmd.userId secret) := by
    rw [hid]
    exact syncFor_updateUser _
  have himage (url : String) : For u (Async.await (queryRoot fun _ => env.toBuffer url)) := by
    refine For.await fun w => ?_
    rw [queryRoot_apply]
    cases env.toBuffer url with
    | ok image => exact onlyFor_of_undisturbed (.refl w)
    | error e => exact onlyFor_of_undisturbed (.refl w)
  have hurl := SyncFor.after hsecret fun p => SyncFor.returning (hset p.1) p.2
  exact For.ite (For.throw _) (For.bind (For.await hurl) himage)

theorem for_findOne (env : GuardEnv) (user : CacheValue) : For u (findOne env user) := by
  have hpaid : For u (paidClientGuard env user) :=
    For.bind (.calm (calm_isClientPaid env user.id?)) fun _ => For.ite (For.throw _) (For.pure _)
  exact For.bind hpaid fun _ => For.throw _

end OnlyFor

/-- A request, as the middlewares leave it, whose token is verified for one id only; the
pieces of its keys can be told apart. -/
structure SentBy (env : GuardEnv) (u : String) (req : Request) : Prop where
  named : u ≠ ""
  signed : ∀ now payload, verifiedPayload env req now = .ok payload → payload.id = some u
  plain : PlainPieces req u

section Requests

variable {env : GuardEnv} {u : String}

theorem onlyFor_put (w : World) (e : Entry CacheValue) (kind : Kind) (c t : String) :
    OnlyFor u w { w with redis := w.redis.put (tokenKey kind c u t) e } := by
  refine ⟨fun _ _ => Iff.rfl, rfl, fun _ _ => Iff.rfl, rfl, rfl, fun k hk => ?_⟩
  exact Store.lookup_put_ne _ _ (hk kind c t)

/-- The guard lets a request through as its user, and acts for that user only. -/
theorem conducts_guard {req : Request} (hsent : SentBy env u req) :
    Async.Conducts WellKeyed (OnlyFor u) (IsUser u) (fun _ => True) (jwtAuthGuard env req) := by
  have hverify : Async.Conducts WellKeyed (OnlyFor u) (fun payload => payload.id = some u)
      (fun _ => True) (Async.await (verifyToken env req)) := by
    refine Async.Conducts.await fun w _ => ⟨onlyFor_of_undisturbed
      (calm_verifyToken (A := True) env req w).1, fun payload w' he => ?_, fun _ _ _ => trivial⟩
    cases hv : verifiedPayload env req w.now with
    | error name =>
      rw [verifyToken_error hv] at he
      cases he
    | ok found =>
      rw [verifyToken_ok hv] at he
      cases he
      exact hsent.signed _ _ hv
  refine Async.Conducts.bind hverify fun payload hid => ?_
  exact conducts_validate env.toEnv hid hsent.named hsent.plain
    (fun w => onlyFor_of_undisturbed (.refl w)) fun w p kind t ttl _ _ => onlyFor_put w _ kind _ t

/-- The routes that only read the token of the request, and not the address. -/
def GuardedRoute.confined : GuardedRoute → Prop
  | .updateTrustedDevice _ => False
  | _ => True

theorem for_handler {r : GuardedRoute} (hr : GuardedRoute.confined r) (req : Request)
    {user : CacheValue} (huser : IsUser u user) : For u (r.handler env req user) := by
  obtain ⟨q, rfl, hq⟩ := huser
  cases r with
  | generateTwoFactorQR =>
    exact For.bind (for_generateQr env.toTwoFactorEnv (congrArg some hq)) fun _ => For.pure _
  | verifyTwoFactorAuth otp ip userAgent =>
    subst hq
    exact For.bind (for_verifyOtp env.toEnv otp ip userAgent) fun _ => For.pure _
  | updateTrustedDevice deviceId => exact hr.elim
  | findOne => exact For.bind (for_findOne env _) fun _ => For.pure _

theorem for_serve {r : GuardedRoute} (hr : GuardedRoute.confined r) {req : Request}
    (hsent : ∀ req', tenantMiddleware (accessTokenMiddleware req) = .ok req' → SentBy env u req') :
    For u (r.serve env req) := by
  unfold GuardedRoute.serve
  cases h : tenantMiddleware (accessTokenMiddleware req) with
  | error e => exact For.throw e
  | ok req' =>
    exact Async.Conducts.bind (conducts_guard (hsent req' h)) fun user huser =>
      for_handler hr req' huser

end Requests

/-- The refusals before a handler: no tenant, or no verified token. -/
def Refusal (e : Exn) : Prop := e = tenantHeaderMissing ∨ e.getStatus = 401

theorem refusal_handleRequest (name : String) : Refusal (handleRequest name) := by
  right
  unfold handleRequest
  split_ifs <;> rfl

/-- The middlewares leave the header as it is. -/
theorem authorization_kept {req req' : Request}
    (h : tenantMiddleware (accessTokenMiddleware req) = .ok req') :
    req'.authorization = req.authorization := by
  have haccess : (accessTokenMiddleware req).authorization = req.authorization := by
    unfold accessTokenMiddleware
    split_ifs
    · rfl
    · split
      · split_ifs <;> rfl
      · rfl
  rw [← haccess]
  unfold tenantMiddleware at h
  split_ifs at h
  · cases h
    rfl
  · cases h
    rfl

/-- No token of the request is ever verified. -/
def Unverified (env : GuardEnv) (req : Request) : Prop :=
  ∀ now payload, verifiedPayload env req now ≠ .ok payload

theorem refused_serve {env : GuardEnv} (r : GuardedRoute) {req : Request}
    (hreq : Unverified env req) :
    Async.Conducts (fun _ => True) (fun w w' => w' = w) (fun _ => False) Refusal
      (r.serve env req) := by
  unfold GuardedRoute.serve
  cases h : tenantMiddleware (accessTokenMiddleware req) with
  | error e => exact Or.inl (tenantMiddleware_error h)
  | ok req' =>
    have hguard : Async.Conducts (fun _ => True) (fun w w' => w' = w) (fun _ => False) Refusal
        (jwtAuthGuard env req') := by
      refine Async.Conducts.bind (V := fun _ => False) (Async.Conducts.await fun w _ => ?_)
        fun _ hno => hno.elim
      cases hv : verifiedPayload env req' w.now with
      | error name =>
        rw [verifyToken_error hv]
        refine ⟨rfl, fun payload w' he => ?_, fun e w' he => ?_⟩
        · cases he
        · cases he
          exact refusal_handleRequest name
      | ok payload =>
        refine absurd ?_ (hreq w.now payload)
        rw [← hv]
        unfold verifiedPayload
        rw [authorization_kept h]
    exact Async.Conducts.bind hguard fun _ hno => hno.elim

section Pools

variable {ι : Type} [DecidableEq ι] (env : GuardEnv) (calls : ι → ServiceCall)

/-- What every effect and the clock keep. -/
def Kept (I : World → Prop) : Prop :=
  (∀ v v', Effect .all v v' → I v → I v') ∧ ∀ v v', Elapses (fun _ => True) v v' → I v → I v'

theorem kept_wellKeyed : Kept WellKeyed :=
  ⟨fun _ _ => wellKeyed_of_effect, fun _ _ => wellKeyed_elapses⟩

/-- One call conducts itself in its own way, next to any others. -/
theorem singled_out {I : World → Prop} (hkept : Kept I) {w : World} (hw : I w) {i : ι}
    {G : World → World → Prop} {V : Reply → Prop} {F : Exn → Prop}
    (hi : Async.Conducts I G V F ((calls i).program env)) {p : Threads World Exn Reply ι}
    (hp : Interleaved (ServiceCall.pool env calls w) p) :
    I p.state ∧ p.Conduct I (fun j v v' => Effect .all v v' ∧ (j = i → G v v'))
      (fun j reply => j = i → V reply) fun j e => j = i → F e := by
  have hpool : (ServiceCall.pool env calls w).Conduct I
      (fun j v v' => Effect .all v v' ∧ (j = i → G v v')) (fun j reply => j = i → V reply)
      fun j e => j = i → F e := by
    intro j
    have hj : Async.Conducts (fun _ => True) (Effect .all) (fun _ => True)
        (Listed (PlainErrors env.toTwoFactorEnv)) ((calls j).program env) :=
      ServiceCall.keeps_all env calls w j
    by_cases hji : j = i
    · subst hji
      have hkeep : Async.Conducts I (Effect .all) (fun _ => True)
          (Listed (PlainErrors env.toTwoFactorEnv)) ((calls j).program env) :=
        hj.mono (fun _ _ => trivial) (fun _ _ h => h) (fun _ h => h) fun _ h => h
      exact (hkeep.and hi).mono (fun _ h => h) (fun _ _ h => ⟨h.1, fun _ => h.2⟩)
        (fun _ h _ => h.2) fun _ h _ => h.2
    · exact hj.mono (fun _ _ => trivial) (fun _ _ h => ⟨h, fun h' => absurd h' hji⟩)
        (fun _ _ h' => absurd h' hji) fun _ _ h' => absurd h' hji
  exact (hpool.runs (R := fun _ _ => True) hp hw hkept.2 (fun _ v v' h => hkept.1 v v' h.1)
    (fun _ => trivial) (fun _ _ _ _ _ => trivial) (fun _ _ _ => trivial)
    fun _ _ _ _ _ => trivial).2

/-- A step of the pool that the call takes is one of its moves. -/
theorem own_step {I : World → Prop} {i : ι} {G : World → World → Prop} {V : ι → Reply → Prop}
    {F : ι → Exn → Prop} {p p' : Threads World Exn Reply ι}
    (h : p.Conduct I (fun j v v' => Effect .all v v' ∧ (j = i → G v v')) V F) (hI : I p.state)
    (hstep : Threads.Step (Elapses fun _ => True) (fun _ _ => True) (some i) p p') :
    G p.state p'.state := by
  obtain ⟨hnone, -⟩ | ⟨j, hj, hmove⟩ := (h.step hstep hI).1
  · cases hnone
  · cases hj
    exact hmove.2 rfl

/-- `validate` answers with the user whom the token names, whatever is cached and whatever
else runs. -/
theorem validated_user_of_token {w : World} (hw : WellKeyed w) {i : ι} {req : Request}
    {payload : JwtPayload} {u : String} (hi : calls i = .validate req payload)
    (hid : payload.id = some u) (hu : u ≠ "") (hplain : PlainPieces req u)
    {p : Threads World Exn Reply ι} (hp : Interleaved (ServiceCall.pool env calls w) p)
    {value : CacheValue} (hret : p.rest i = .ret (.user value)) : IsUser u value := by
  have hvalidate : Async.Conducts WellKeyed (fun _ _ => True)
      (fun reply => ∀ v, reply = Reply.user v → IsUser u v) (fun _ => True)
      ((calls i).program env) := by
    rw [hi]
    refine Async.Conducts.bind (conducts_validate env.toEnv hid hu hplain (fun _ => trivial)
      fun _ _ _ _ _ _ _ => trivial) fun v hv => ?_
    intro v' hv'
    cases hv'
    exact hv
  exact (singled_out env calls kept_wellKeyed hw hvalidate hp).2.returned hret rfl value rfl

/-- A step of a request of one user changes nothing of another user. -/
theorem two_factor_routes_confined {w : World} (hw : WellKeyed w) {i : ι} {r : GuardedRoute}
    {req : Request} {u : String} (hi : calls i = .route r req) (hr : GuardedRoute.confined r)
    (hsent : ∀ req', tenantMiddleware (accessTokenMiddleware req) = .ok req' → SentBy env u req')
    {p p' : Threads World Exn Reply ι} (hp : Interleaved (ServiceCall.pool env calls w) p)
    (hstep : Threads.Step (Elapses fun _ => True) (fun _ _ => True) (some i) p p') :
    OnlyFor u p.state p'.state := by
  have hserve : For u ((calls i).program env) := by
    rw [hi]
    exact for_serve hr hsent
  obtain ⟨hwell, hconduct⟩ := singled_out env calls kept_wellKeyed hw hserve hp
  exact own_step hconduct hwell hstep

/-- A request without a verified token changes nothing, gets no reply, and is refused with
401, or with the 400 of a missing tenant. -/
theorem unverified_request_powerless (w : World) {i : ι} {r : GuardedRoute} {req : Request}
    (hi : calls i = .route r req) (hreq : Unverified env req) {p : Threads World Exn Reply ι}
    (hp : Interleaved (ServiceCall.pool env calls w) p) :
    (∀ p', Threads.Step (Elapses fun _ => True) (fun _ _ => True) (some i) p p' →
      p'.state = p.state) ∧
    (∀ reply, p.rest i ≠ .ret reply) ∧ ∀ e, p.rest i = .fail e → Refusal e := by
  have hserve : Async.Conducts (fun _ => True) (fun v v' => v' = v) (fun _ => False) Refusal
      ((calls i).program env) := by
    rw [hi]
    exact refused_serve r hreq
  obtain ⟨-, hconduct⟩ :=
    singled_out env calls ⟨fun _ _ _ h => h, fun _ _ _ h => h⟩ (w := w) trivial hserve hp
  exact ⟨fun p' hstep => own_step (G := fun v v' => v' = v) hconduct trivial hstep,
    fun reply hret => hconduct.returned hret rfl, fun e hfail => hconduct.failed hfail rfl⟩

end Pools

theorem wellKeyed_start (now : Nat) (db : Db) : WellKeyed (.start now db) := by
  intro kind c u t hp e he
  cases he

theorem plainPieces_sample : PlainPieces TwoFactorQr.sampleRequest User.sample.id := by
  intro T hT
  obtain rfl : TwoFactorQr.sampleToken = T := Option.some.inj hT
  exact ⟨by decide +kernel, by decide +kernel, by decide +kernel⟩

theorem sentBy_sample : SentBy .sample User.sample.id TwoFactorQr.sampleRequest where
  named := by decide +kernel
  signed := by
    intro now payload h
    have htoken : TwoFactorQr.sampleRequest.authorization.bind fromAuthHeaderAsBearerToken =
        some TwoFactorQr.sampleToken := by decide +kernel
    simp only [verifiedPayload, htoken, GuardEnv.sample, if_true] at h
    split_ifs at h
    cases h
    rfl
  plain := plainPieces_sample

def loginAndRequest (r : ServiceCall) : Bool → ServiceCall
  | false => .login (User.info User.sample) "::1" none none
  | true => r

def afterSteps (r : ServiceCall) (steps : Nat) : Threads World Exn Reply Bool :=
  Threads.schedule (fun _ _ => True) (List.replicate 3 false ++ List.replicate steps true)
    (ServiceCall.pool .sample (loginAndRequest r) World.sample)

theorem afterSteps_succ (r : ServiceCall) (steps : Nat) : afterSteps r (steps + 1) =
    Threads.advance (fun _ _ => True) (afterSteps r steps) true := by
  have hsteps : List.replicate (steps + 1) true = List.replicate steps true ++ [true] :=
    List.replicate_succ'
  unfold afterSteps Threads.schedule
  rw [hsteps, ← List.append_assoc, List.foldl_append]
  rfl

theorem afterSteps_interleaved (r : ServiceCall) (steps : Nat) :
    Interleaved (ServiceCall.pool .sample (loginAndRequest r) World.sample) (afterSteps r steps) :=
  Threads.schedule_runs _ _ _ _

def sampleValidate : ServiceCall := .validate TwoFactorQr.sampleRequest TwoFactorQr.samplePayload

theorem validated_sample_user : ∃ value,
    (afterSteps sampleValidate 6).rest true = .ret (.user value) ∧
      IsUser User.sample.id value := by
  refine ⟨_, rfl, ?_⟩
  exact validated_user_of_token .sample (loginAndRequest sampleValidate) (wellKeyed_start 1000 _)
    (i := true) rfl rfl (by decide +kernel) plainPieces_sample
    (afterSteps_interleaved sampleValidate 6) rfl

def sampleQr : ServiceCall := .route .generateTwoFactorQR TwoFactorQr.sampleRequest

/-- The last of these steps stores the secret. -/
theorem qr_request_confined :
    OnlyFor User.sample.id (afterSteps sampleQr 6).state (afterSteps sampleQr 7).state := by
  rw [afterSteps_succ sampleQr 6]
  refine two_factor_routes_confined .sample (loginAndRequest sampleQr) (wellKeyed_start 1000 _)
    (i := true) rfl trivial (fun req' h => ?_) (afterSteps_interleaved sampleQr 6)
    (Threads.step_advance _ _ ⟨_, _, rfl⟩ trivial)
  have hreq : tenantMiddleware (accessTokenMiddleware TwoFactorQr.sampleRequest) =
      .ok TwoFactorQr.sampleRequest := by rfl
  rw [hreq] at h
  cases h
  exact sentBy_sample

theorem forged_request_powerless :
    (∀ reply, (afterSteps (.route .findOne forgedRequest) 1).rest true ≠ .ret reply) ∧
      ∀ e, (afterSteps (.route .findOne forgedRequest) 1).rest true = .fail e → Refusal e := by
  refine (unverified_request_powerless .sample _ World.sample (i := true) rfl ?_
    (afterSteps_interleaved _ 1)).2
  intro now payload h
  have htoken : forgedRequest.authorization.bind fromAuthHeaderAsBearerToken = some "forged" := by
    decide +kernel
  have hforged : "forged" ≠ TwoFactorQr.sampleToken := by decide +kernel
  simp only [verifiedPayload, htoken, GuardEnv.sample, if_neg hforged] at h
  cases h

end NestUserService.Auth.GuardedRoutes
