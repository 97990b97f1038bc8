import NestUserService.Auth.Operations
import NestUserService.Auth.ValidateSpec

/-!
# Revocation and the tenant header

A login blacklists the user's access tokens under the namespace `root`; `validate`
looks a token up under the namespace that the request names. The blacklist entry is
followed through every later operation, and the answer of `validate` is given for
every header.
-/

namespace NestUserService.Auth.Revocation

open Lib NestUserService.Core Shared

/-- The entry of `k` is untouched, or was written again as a blacklist entry. -/
def Kept (env : Env) (k : String) (w w' : World) : Prop :=
  w.now ≤ w'.now ∧ (w'.redis.lookup k = w.redis.lookup k ∨
    ∃ t, w.now ≤ t ∧ w'.redis.lookup k =
      some (Entry.stamp (.text "blacklisted") t (blacklistTtl env)))

theorem Kept.refl (env : Env) (k : String) (w : World) : Kept env k w w :=
  ⟨Nat.le_refl _, Or.inl rfl⟩

theorem Kept.trans (env : Env) (k : String) (w w' w'' : World) (h : Kept env k w w')
    (h' : Kept env k w' w'') : Kept env k w w'' := by
  refine ⟨h.1.trans h'.1, ?_⟩
  rcases h'.2 with hs | ⟨t, ht, hl⟩
  · rw [hs]
    exact h.2
  · exact Or.inr ⟨t, h.1.trans ht, hl⟩

section Kept

variable {env : Env} {u T : String} (hu : NoColon u) (hT : NoColon T)
include hu hT

/-- No other key of the service is the blacklist key of `u` and `T` under `root`. -/
theorem kind_of_rootBlacklistKey (kind : Kind) {c u' t : String}
    (h : tokenKey kind c u' t = blacklistKey rootLoginClientCacheValue u T) :
    kind = .blacklist := by
  rw [blacklistKey_eq] at h
  exact (tokenKey_unique noColon_root hu hT h.symm).1.symm

theorem kept_of_loginPut {c u' k : String} {v : CacheValue} {ttl : Nat}
    (h : LoginPut env c u' k v ttl) (hk : k = blacklistKey rootLoginClientCacheValue u T) :
    v = .text "blacklisted" ∧ ttl = blacklistTtl env := by
  rcases h with ⟨-, hv⟩ | ⟨value, -, t, ht⟩
  · exact hv
  · rw [accessKey_eq, refreshKey_eq, deviceKey_eq] at ht
    rcases ht with rfl | rfl | rfl <;> cases kind_of_rootBlacklistKey hu hT _ hk

theorem kept_of_refreshPut {c u' k : String} {v : CacheValue} {ttl : Nat}
    (h : RefreshPut env c u' k v ttl) (hk : k = blacklistKey rootLoginClientCacheValue u T) :
    v = .text "blacklisted" ∧ ttl = blacklistTtl env := by
  rcases h with ⟨-, hv⟩ | ⟨p, iat, rfl, -⟩
  · exact hv
  · rw [accessKey_eq] at hk
    cases kind_of_rootBlacklistKey hu hT _ hk

theorem ne_of_clearDel {c u' k : String} (hc : Glob.Plain c) (hu' : Glob.Plain u')
    (h : ClearDel c u' k) : k ≠ blacklistKey rootLoginClientCacheValue u T := by
  intro hk
  rcases tokenKey_of_clearDel hc hu' h with ⟨r, hr⟩ | ⟨r, hr⟩
  · cases kind_of_rootBlacklistKey hu hT .access (hr.symm.trans hk)
  · cases kind_of_rootBlacklistKey hu hT .refresh (hr.symm.trans hk)

end Kept

/-- A scope that only constrains the cache. -/
def cacheScope (put : String → CacheValue → Nat → Prop) (del : String → Prop) : Scope :=
  ⟨fun _ => True, fun _ _ => True, put, del⟩

theorem kept_of_steps {env : Env} {k : String} {α : Type} {x : App α}
    {put : String → CacheValue → Nat → Prop} {del : String → Prop}
    (h : Steps (cacheScope put del) x)
    (hput : ∀ k' v ttl, put k' v ttl → k' = k → v = .text "blacklisted" ∧ ttl = blacklistTtl env)
    (hdel : ∀ k', del k' → k' ≠ k) (w : World) : Kept env k w (finalState (x.run w)) := by
  refine (Async.Guarantees.mono h (fun w w' hs => ?_) fun _ h => h).run
    (Kept.refl env k) (Kept.trans env k) w
  refine ⟨hs.now.ge, ?_⟩
  rcases hs.redis with he | ⟨k', v, ttl, hk', he⟩ | ⟨k', hk', he⟩
  · exact Or.inl (by rw [he])
  · by_cases hkk : k' = k
    · obtain ⟨rfl, rfl⟩ := hput k' v ttl hk' hkk
      exact Or.inr ⟨w.now, Nat.le_refl _, by rw [he, ← hkk, Store.lookup_put_self]⟩
    · exact Or.inl (by rw [he, Store.lookup_put_ne _ _ (Ne.symm hkk)])
  · exact Or.inl (by rw [he, Store.lookup_del_ne _ (hdel k' hk').symm])

/-- The ids and client codes of a login hold no glob characters. -/
def PlainArgs (_ : World) : Op → Prop
  | .login user _ _ _ => Glob.Plain user.id
  | .tenantLogin c user _ _ _ => Glob.Plain c ∧ Glob.Plain user.id
  | _ => True

theorem kept_exec (env : Env) {u T : String} (hu : NoColon u) (hT : NoColon T) (w : World)
    (op : Op) (hop : PlainArgs w op) :
    Kept env (blacklistKey rootLoginClientCacheValue u T) w (op.exec env w) := by
  cases op with
  | login user ip d ua =>
    have h := steps_login (S := cacheScope (LoginPut env rootLoginClientCacheValue user.id)
      (ClearDel rootLoginClientCacheValue user.id)) env user ip d ua (fun _ _ => trivial)
      (fun _ _ _ h => h) fun _ h => h
    exact kept_of_steps h (fun _ _ _ h => kept_of_loginPut hu hT h)
      (fun _ h => ne_of_clearDel hu hT plain_root hop h) w
  | tenantLogin c user ip d ua =>
    have h := steps_tenantLogin (S := cacheScope (LoginPut env c user.id) (ClearDel c user.id))
      env c user ip d ua (fun _ _ _ => trivial) (fun _ _ _ h => h) fun _ h => h
    exact kept_of_steps h (fun _ _ _ h => kept_of_loginPut hu hT h)
      (fun _ h => ne_of_clearDel hu hT hop.1 hop.2 h) w
  | validate req payload =>
    have h := steps_validate (S := cacheScope
      (fun k v ttl => ∃ u, LoginPut env (req.tenantId.getD "undefined") u k v ttl) NoDel)
      env req payload fun u _ _ _ h => ⟨u, h⟩
    exact kept_of_steps h (fun _ _ _ ⟨_, h⟩ => kept_of_loginPut hu hT h) (fun _ h => h.elim) w
  | refresh c u' t ip =>
    have h := steps_refresh (S := cacheScope (RefreshPut env c u') NoDel) env
      (refreshCommand c u' t ip) (fun _ _ => trivial) fun _ _ _ h => h
    exact kept_of_steps h (fun _ _ _ h => kept_of_refreshPut hu hT h) (fun _ h => h.elim) w
  | handleTokenTheft u' ip loc =>
    have h := steps_handleTokenTheft (S := cacheScope NoPut NoDel) (u := u') env ip loc
      fun _ _ => trivial
    exact kept_of_steps h (fun _ _ _ h => h.elim) (fun _ h => h.elim) w
  | revokeRefreshToken t =>
    have h := steps_revoke (S := cacheScope NoPut NoDel) (t := t) fun _ _ => trivial
    exact kept_of_steps h (fun _ _ _ h => h.elim) (fun _ h => h.elim) w
  | elapse n => exact ⟨Nat.le_add_right _ _, Or.inl rfl⟩

/-- One move of the system: an operation, or another handler that writes the databases
and leaves the cache alone. -/
inductive Move (env : Env) (w : World) : World → Prop
  | op (op : Op) (h : PlainArgs w op) : Move env w (op.exec env w)
  | database (root : Db) (tenants : String → Option Db) : Move env w { w with root, tenants }

theorem kept_moves {env : Env} {u T : String} (hu : NoColon u) (hT : NoColon T) {w w' : World}
    (h : Relation.ReflTransGen (Move env) w w') :
    Kept env (blacklistKey rootLoginClientCacheValue u T) w w' := by
  induction h with
  | refl => exact Kept.refl env _ w
  | tail _ hmove ih =>
    refine Kept.trans env _ _ _ _ ih ?_
    cases hmove with
    | op op hop => exact kept_exec env hu hT _ op hop
    | database root tenants => exact ⟨Nat.le_refl _, Or.inl rfl⟩

theorem blacklisted_of_stamp {env : Env} {w : World} {c u T : String} {t : Nat}
    (h : w.redis.lookup (blacklistKey c u T) =
      some (Entry.stamp (.text "blacklisted") t (blacklistTtl env)))
    (hlive : w.now < t + blacklistTtl env) : Blacklisted w c u T := by
  have hfind : w.redis.find? w.now (blacklistKey c u T) = some (.text "blacklisted") :=
    Store.find?_eq_some.mpr ⟨_, h, Entry.live_stamp (Or.inl hlive), rfl⟩
  unfold Blacklisted
  rw [hfind]
  rfl

/-- A login puts the live access tokens of its user on the blacklist of `root`. -/
theorem login_blacklists (env : Env) {user : UserInfo} {T : String} (hu : Glob.Plain user.id)
    (hid : NoColon user.id) (hT : NoColon T) (hne : T ≠ "") {w : World}
    (hlive : (w.redis.find? w.now (accessKey rootLoginClientCacheValue user.id T)).isSome = true)
    (ip : String) (d ua : Option String) :
    ∃ t, w.now ≤ t ∧ ((Op.login user ip d ua).exec env w).redis.lookup
      (blacklistKey rootLoginClientCacheValue user.id T) =
        some (Entry.stamp (.text "blacklisted") t (blacklistTtl env)) := by
  obtain ⟨w₁, hswept, hrun⟩ := run_login env hu ip d ua w
  have hfound : Found rootLoginClientCacheValue user.id
      { w with root := w.root.invalidateRefreshTokens user.id }
      (blacklistKey rootLoginClientCacheValue user.id T) :=
    ⟨accessKey rootLoginClientCacheValue user.id T, hasPrefix_accessKey _ _ _, hlive,
      by rwa [tokenOfKey_accessKey hT], by rw [tokenOfKey_accessKey hT]⟩
  have hmark := (hswept.lookup_eq _).1 hfound
  -- The rest of the login writes no other value under this key.
  have hkept : Kept env (blacklistKey rootLoginClientCacheValue user.id T) w₁
      (finalState ((loginRest env user ip d ua).run w₁)) :=
    kept_of_steps (steps_loginRest
        (S := cacheScope (LoginPut env rootLoginClientCacheValue user.id) NoDel) env user ip d ua
        (fun _ _ => trivial) fun _ _ _ h => h)
      (fun _ _ _ h => kept_of_loginPut hid hT h) (fun _ h => h.elim) w₁
  have hnow : w₁.now = w.now := hswept.frame.clock
  have hexec : (Op.login user ip d ua).exec env w =
      finalState ((loginRest env user ip d ua).run w₁) := congrArg finalState hrun
  rw [hexec]
  rcases hkept.2 with hs | ⟨t, ht, hl⟩
  · exact ⟨w.now, Nat.le_refl _, hs.trans hmark⟩
  · exact ⟨t, hnow ▸ ht, hl⟩

/-- The call ends with an `UnauthorizedException`. -/
def Unauthorized {α : Type} (r : EStateM.Result Exn World α) : Prop :=
  ∃ m w', r = .error (.unauthorized m) w'

theorem not_unauthorized_ok {α : Type} (a : α) (w : World) : ¬ Unauthorized (.ok a w) := by
  rintro ⟨_, _, he⟩
  cases he

/-- `validate` refuses a token exactly when the namespace of the request has it on the
blacklist, or has nothing cached for it and the user does not exist. -/
theorem validate_unauthorized_iff {env : Env} {w : World} {req : Request} {payload : JwtPayload}
    {T h u : String} (hc : Carries req T h) (hne : T ≠ "") (hid : payload.id = some u)
    (hu : u ≠ "") :
    Unauthorized ((validate env req payload).run w) ↔
      Blacklisted w h u T ∨ ¬ CachedAccess w h u T ∧ ∀ v ∈ w.root.user.rows, v.id ≠ u := by
  rcases run_validate env w payload hc hne with
    ⟨hb, hrun⟩ | ⟨hb, v, ha, hrun⟩ | ⟨hb, ha, hrun⟩
  · rw [hrun]
    exact iff_of_true ⟨_, _, rfl⟩ (Or.inl (by rwa [← userId_eq hid hu]))
  · rw [hrun]
    rw [userId_eq hid hu] at hb ha
    refine iff_of_false (not_unauthorized_ok _ _) ?_
    rintro (h | ⟨hn, -⟩)
    · exact hb h
    · exact hn ha
  · rw [userId_eq hid hu] at hb ha
    rw [hrun]
    cases hp : findPayloadUser w.root payload with
    | none =>
      rw [run_validateFromDb_missing h T _ hp]
      exact iff_of_true ⟨_, _, rfl⟩ (Or.inr ⟨ha, (findPayloadUser_none hid).mp hp⟩)
    | some found =>
      rw [run_validateFromDb_found h T _ hp]
      refine iff_of_false (not_unauthorized_ok _ _) ?_
      rintro (h | ⟨-, hm⟩)
      · exact hb h
      · rw [(findPayloadUser_none hid).mpr hm] at hp
        cases hp

/-- After a login, and while the blacklist entry it wrote lives, a request with a
revoked token is refused in exactly these cases: it names `root`, its own namespace
has the token on the blacklist too, or the namespace has nothing cached for the token
and the user no longer exists. -/
theorem revoked_refused_iff (env : Env) (w₀ w : World) (user : UserInfo) (ip : String)
    (d ua : Option String) (T h : String) (req : Request) (payload : JwtPayload)
    (hplain : Glob.Plain user.id) (hcolon : NoColon user.id) (hid0 : user.id ≠ "")
    (hT : NoColon T) (hT0 : T ≠ "")
    (hissued : (w₀.redis.find? w₀.now
      (accessKey rootLoginClientCacheValue user.id T)).isSome = true)
    (hrun : Relation.ReflTransGen (Move env) ((Op.login user ip d ua).exec env w₀) w)
    (halive : w.now < w₀.now + blacklistTtl env)
    (hreq : Carries req T h) (hpay : payload.id = some user.id) :
    Unauthorized ((validate env req payload).run w) ↔
      h = rootLoginClientCacheValue ∨ Blacklisted w h user.id T ∨
        ¬ CachedAccess w h user.id T ∧ ∀ v ∈ w.root.user.rows, v.id ≠ user.id := by
  obtain ⟨t, ht, hl⟩ := login_blacklists env hplain hcolon hT hT0 hissued ip d ua
  obtain ⟨hle, hkept⟩ := kept_moves hcolon hT hrun
  have hroot : Blacklisted w rootLoginClientCacheValue user.id T := by
    rcases hkept with hs | ⟨t', ht', hl'⟩
    · exact blacklisted_of_stamp (hs.trans hl) (by omega)
    · have hnow := (kept_exec env hcolon hT w₀ (.login user ip d ua) hplain).1
      exact blacklisted_of_stamp hl' (by omega)
  rw [validate_unauthorized_iff hreq hT0 hpay hid0]
  constructor
  · exact Or.inr
  · rintro (rfl | hrest)
    · exact Or.inl hroot
    · exact hrest

def homeUser : UserInfo := User.info User.sample

def homeLogin : Op := .login homeUser "::1" none none

/-- One user, logged in at the first second; five seconds have passed since. -/
def loggedIn : World :=
  (Op.elapse 5000).exec Env.sample (homeLogin.exec Env.sample .sample)

/-- The access token of that login. -/
def firstToken : String := "jwt-01JS447X6N835NZ80HCMEAKDDQ-1"

/-- What the second login leaves of the first one. -/
theorem secondLogin_facts :
    (homeLogin.exec Env.sample loggedIn).now < loggedIn.now + blacklistTtl Env.sample ∧
    Blacklisted (homeLogin.exec Env.sample loggedIn) rootLoginClientCacheValue homeUser.id
      firstToken ∧
    ¬ Blacklisted (homeLogin.exec Env.sample loggedIn) "acme" homeUser.id firstToken ∧
    User.sample ∈ (homeLogin.exec Env.sample loggedIn).root.user.rows := by
  decide +kernel

theorem revoked_refused_under_root :
    Unauthorized ((validate Env.sample (bearerRequest firstToken "root" "::1")
      ⟨some homeUser.id, none⟩).run (homeLogin.exec Env.sample loggedIn)) :=
  (revoked_refused_iff Env.sample loggedIn (homeLogin.exec Env.sample loggedIn) homeUser "::1"
    none none firstToken "root" (bearerRequest firstToken "root" "::1") ⟨some homeUser.id, none⟩
    (by decide) (by decide) (by decide) (by decide) (by decide) (by decide +kernel) .refl
    secondLogin_facts.1
    ⟨by decide, by decide, rfl⟩ rfl).mpr (Or.inl rfl)

/-- The token of the first login is on the blacklist after the second one, and still
accepted under the header of any other tenant. -/
theorem revoked_accepted_elsewhere :
    Blacklisted (homeLogin.exec Env.sample loggedIn) rootLoginClientCacheValue homeUser.id
      firstToken ∧
    ¬ Unauthorized ((validate Env.sample (bearerRequest firstToken "acme" "::1")
      ⟨some homeUser.id, none⟩).run (homeLogin.exec Env.sample loggedIn)) := by
  obtain ⟨-, hroot, hacme, huser⟩ := secondLogin_facts
  refine ⟨hroot, fun h => ?_⟩
  have hcases := (validate_unauthorized_iff (T := firstToken) (h := "acme") (u := homeUser.id)
    ⟨by decide, by decide, rfl⟩ (by decide) rfl (by decide)).mp h
  rcases hcases with hb | ⟨-, hm⟩
  · exact hacme hb
  · exact hm User.sample huser rfl

end NestUserService.Auth.Revocation
