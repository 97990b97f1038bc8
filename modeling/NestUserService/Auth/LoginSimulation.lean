import NestUserService.Auth.Operations

/-!
# Root and tenant login side by side

A root state is related to a state of tenant `c` that has the same tables and, under
the namespace `c`, the same cache as `root` has. The two logins are compared on every
pair of related states. Client codes and user ids are assumed to hold no glob
characters.
-/

namespace NestUserService.Auth.LoginSimulation

open Lib NestUserService.Core Shared

/-- The key of a namespace with the given rest. -/
def nsKey (c s : String) : String := getClientPrefix c ++ ":user:" ++ s

def userPart (kind : Kind) (u t : String) : String := u ++ ":token:" ++ kind.name ++ ":" ++ t

theorem tokenKey_nsKey (kind : Kind) (c u t : String) :
    tokenKey kind c u t = nsKey c (userPart kind u t) := by
  unfold tokenKey nsKey userPart getUserTokenPrefix
  rw [show ":token:" = ":token" ++ ":" from rfl]
  simp only [String.append_assoc]

theorem nsKey_inj {c s s' : String} : nsKey c s = nsKey c s' ↔ s = s' :=
  String.append_right_inj _

theorem hasPrefix_nsKey {kind : Kind} {c u pre s : String}
    (hpre : ∀ t, pre ++ t = tokenKey kind c u t) :
    HasPrefix pre (nsKey c s) ↔ ∃ t, s = userPart kind u t := by
  constructor
  · rintro ⟨t, h⟩
    refine ⟨t, (nsKey_inj (c := c)).mp ?_⟩
    rw [h, hpre, tokenKey_nsKey]
  · rintro ⟨t, rfl⟩
    exact ⟨t, by rw [hpre, tokenKey_nsKey]⟩

theorem hasPrefix_access_nsKey {c u s : String} :
    HasPrefix (accessPattern c u) (nsKey c s) ↔ ∃ t, s = userPart .access u t :=
  hasPrefix_nsKey fun _ => rfl

theorem hasPrefix_refresh_nsKey {c u s : String} :
    HasPrefix (refreshPattern c u) (nsKey c s) ↔ ∃ t, s = userPart .refresh u t :=
  hasPrefix_nsKey fun _ => rfl

/-- The last piece of a key does not depend on its namespace. -/
theorem tokenOfKey_nsKey (c c' s : String) : tokenOfKey (nsKey c s) = tokenOfKey (nsKey c' s) := by
  have hpiece (c : String) : tokenOfKey (nsKey c s) =
      String.ofList (Text.lastPiece ':' s.toList) := by
    have hkey : (nsKey c s).toList = (getClientPrefix c ++ ":user").toList ++ ':' :: s.toList := by
      unfold nsKey
      rw [show ":user:" = ":user" ++ ":" from rfl]
      simp only [String.toList_append, List.append_assoc]
      rfl
    rw [tokenOfKey, hkey, Text.lastPiece_append]
  rw [hpiece c, hpiece c']

/-- Tenant `c` of `w₂` is a copy of the root side of `w₁`. -/
structure Related (c : String) (w₁ w₂ : World) : Prop where
  now : w₂.now = w₁.now
  draws : w₂.draws = w₁.draws
  tables : w₂.tenants c = some w₁.root
  cache : ∀ s, w₂.redis.lookup (nsKey c s) = w₁.redis.lookup (nsKey rootLoginClientCacheValue s)

/-- The same kind of result, in related states. -/
def SameResult {α : Type} (c : String) :
    EStateM.Result Exn World α → EStateM.Result Exn World α → Prop
  | .ok a w₁, .ok b w₂ => a = b ∧ Related c w₁ w₂
  | .error e w₁, .error e' w₂ => e = e' ∧ Related c w₁ w₂
  | _, _ => False

theorem Related.find? {c : String} {w₁ w₂ : World} (h : Related c w₁ w₂) (s : String) :
    w₂.redis.find? w₂.now (nsKey c s) =
      w₁.redis.find? w₁.now (nsKey rootLoginClientCacheValue s) := by
  rw [h.now]
  exact Store.find?_of_lookup_eq (h.cache s)

theorem tokenKey_nsKey_iff {c c' u s : String} :
    TokenKey c u (nsKey c s) ↔ TokenKey c' u (nsKey c' s) := by
  unfold TokenKey
  rw [hasPrefix_access_nsKey, hasPrefix_access_nsKey, hasPrefix_refresh_nsKey,
    hasPrefix_refresh_nsKey]

/-- What one namespace finds, the other finds in a state that agrees with it. -/
theorem found_transfer {c c' u s : String} {w w' : World}
    (hfind : ∀ s, w'.redis.find? w'.now (nsKey c' s) = w.redis.find? w.now (nsKey c s))
    (h : Found c u w (nsKey c s)) : Found c' u w' (nsKey c' s) := by
  obtain ⟨k, ⟨t, rfl⟩, hl, ht, he⟩ := h
  have hns : accessPattern c u ++ t = nsKey c (userPart .access u t) := tokenKey_nsKey .access c u t
  rw [hns] at hl ht he
  refine ⟨nsKey c' (userPart .access u t), hasPrefix_access_nsKey.mpr ⟨t, rfl⟩, by rwa [hfind],
    by rwa [tokenOfKey_nsKey c' c], ?_⟩
  rw [tokenOfKey_nsKey c' c, blacklistKey_eq, tokenKey_nsKey, nsKey_inj]
  rwa [blacklistKey_eq, tokenKey_nsKey, nsKey_inj] at he

theorem Related.found {c u s : String} {w₁ w₂ : World} (h : Related c w₁ w₂) :
    Found c u w₂ (nsKey c s) ↔
      Found rootLoginClientCacheValue u w₁ (nsKey rootLoginClientCacheValue s) :=
  ⟨found_transfer fun s => (h.find? s).symm, found_transfer h.find?⟩

/-- Ending the sessions of a user keeps two states related. -/
theorem Related.swept {env : Env} {c u : String} {w₁ w₂ v₁ v₂ : World} (h : Related c w₁ w₂)
    (h₁ : Swept env (· = w₁.now) rootLoginClientCacheValue u w₁ v₁)
    (h₂ : Swept env (· = w₂.now) c u w₂ v₂) : Related c v₁ v₂ := by
  have hnow₁ : v₁.now = w₁.now := h₁.frame.clock
  have hnow₂ : v₂.now = w₂.now := h₂.frame.clock
  refine ⟨by rw [hnow₁, hnow₂, h.now], by rw [h₁.frame.draws, h₂.frame.draws, h.draws],
    by rw [h₂.frame.tenants, h₁.frame.root, h.tables], fun s => ?_⟩
  obtain ⟨hf₁, ht₁, ho₁⟩ := h₁.lookup_eq (nsKey rootLoginClientCacheValue s)
  obtain ⟨hf₂, ht₂, ho₂⟩ := h₂.lookup_eq (nsKey c s)
  by_cases hf : Found c u w₂ (nsKey c s)
  · rw [hf₂ hf, hf₁ (h.found.mp hf), h.now]
  · by_cases ht : TokenKey c u (nsKey c s) ∧ (w₂.redis.find? w₂.now (nsKey c s)).isSome = true
    · rw [ht₂ ht.1 ht.2, ht₁ (tokenKey_nsKey_iff.mp ht.1) (by rw [← h.find?]; exact ht.2)]
    · rw [ho₂ hf ht, ho₁ (fun hf' => hf (h.found.mpr hf')) ?_, h.cache]
      rintro ⟨htk, hl⟩
      exact ht ⟨tokenKey_nsKey_iff.mp htk, by rw [h.find?]; exact hl⟩

/-- `tenantLogin` after the previous sessions were ended. -/
def tenantLoginRest (env : Env) (c : String) (user : UserInfo) (ip : String)
    (d ua : Option String) : App LoginResponse := do
  Async.await (sendMessage (tenantLoginText c user.id ip))
  if user.isTwoFactorEnabled && !truthy d then
    throw deviceTokenMissing
  if user.isTwoFactorEnabled then
    let _ ← tenantValidateOrRegisterDevice env user.id (d.getD "") (some ip) ua none
  tenantGenerateTokens env c user ip

theorem tenantLogin_eq (env : Env) (c : String) (user : UserInfo) (ip : String)
    (d ua : Option String) :
    tenantLogin env c user ip d ua = (do
      tenantInvalidatePreviousRefreshTokens c user.id
      setTenantUserAccessTokenBlacklistCache env c user.id
      clearTenantUserTokenCache env c user.id
      tenantLoginRest env c user ip d ua) := rfl

theorem run_tenantLogin (env : Env) {c : String} {user : UserInfo} (hc : Glob.Plain c)
    (hu : Glob.Plain user.id) (ip : String) (d ua : Option String) {w : World} {db : Db}
    (hdb : w.tenants c = some db) :
    ∃ w₁, Swept env (· = w.now) c user.id (w.setTenant c (db.invalidateRefreshTokens user.id)) w₁ ∧
      (tenantLogin env c user ip d ua).run w = (tenantLoginRest env c user ip d ua).run w₁ := by
  obtain ⟨w₁, hrun₁, hb⟩ := run_setUserAccessTokenBlacklistCache env hc hu
    (w.setTenant c (db.invalidateRefreshTokens user.id))
  obtain ⟨w₂, hrun₂, hcl⟩ := run_clearUserAllTokenCaches env hc hu w₁
  have hnow : w₁.now = w.now := hb.frame.clock
  rw [hnow] at hcl
  refine ⟨w₂, swept_of_blacklisting_clearing hb hcl, ?_⟩
  rw [tenantLogin_eq]
  simp [tenantInvalidatePreviousRefreshTokens, setTenantUserAccessTokenBlacklistCache,
    clearTenantUserTokenCache, getTenantClient_apply hdb, writeTenant_apply hdb, hrun₁, hrun₂]

theorem Related.minted_eq {env : Env} {c : String} {w₁ w₂ : World} (h : Related c w₁ w₂)
    (user : UserInfo) : minted env user w₂ = minted env user w₁ := by
  unfold minted
  rw [h.now, h.draws]

theorem lookup_put_nsKey {r₁ r₂ : Store CacheValue} {c : String} {e : Entry CacheValue}
    {kind : Kind} {u t : String}
    (h : ∀ s, r₂.lookup (nsKey c s) = r₁.lookup (nsKey rootLoginClientCacheValue s)) (s : String) :
    (r₂.put (tokenKey kind c u t) e).lookup (nsKey c s) =
      (r₁.put (tokenKey kind rootLoginClientCacheValue u t) e).lookup
        (nsKey rootLoginClientCacheValue s) := by
  rw [tokenKey_nsKey, tokenKey_nsKey]
  by_cases hs : s = userPart kind u t
  · subst hs
    rw [Store.lookup_put_self, Store.lookup_put_self]
  · rw [Store.lookup_put_ne _ _ (mt nsKey_inj.mp hs), Store.lookup_put_ne _ _ (mt nsKey_inj.mp hs),
      h s]

/-- Storing the session of a login keeps two caches alike. -/
theorem Related.lookup_withSession {env : Env} {c : String} {w₁ w₂ : World} (h : Related c w₁ w₂)
    (user : UserInfo) (ip s : String) :
    (withSession env c user ip w₂).lookup (nsKey c s) =
      (withSession env rootLoginClientCacheValue user ip w₁).lookup
        (nsKey rootLoginClientCacheValue s) := by
  unfold withSession
  simp only [h.minted_eq, h.now, accessKey_eq, refreshKey_eq]
  exact lookup_put_nsKey (lookup_put_nsKey h.cache) s

theorem generateTokens_simulated {env : Env} {c : String} {w₁ w₂ : World} (h : Related c w₁ w₂)
    (user : UserInfo) (ip : String) :
    SameResult c ((generateTokens env user ip).run w₁)
      ((tenantGenerateTokens env c user ip).run w₂) := by
  rw [run_generateTokens, run_tenantGenerateTokens env user ip h.tables, h.minted_eq]
  cases w₁.root.createRefreshToken ((minted env user w₁).row user.id ip) with
  | error e => exact ⟨rfl, h.now, by rw [h.draws], h.tables, h.cache⟩
  | ok db =>
    refine ⟨rfl, h.now, by rw [h.draws], ?_, h.lookup_withSession user ip⟩
    simp [World.setTenant]

/-- Unless the device check is reached, the rests of the two logins agree. -/
theorem loginRest_simulated {env : Env} {c : String} {w₁ w₂ : World} (h : Related c w₁ w₂)
    {user : UserInfo} (ip : String) {d : Option String} (ua : Option String)
    (hcond : ¬ (user.isTwoFactorEnabled = true ∧ truthy d = true)) :
    SameResult c ((loginRest env user ip d ua).run w₁)
      ((tenantLoginRest env c user ip d ua).run w₂) := by
  have hslack : Related c { w₁ with slack := w₁.slack ++ [loginText user.id ip] }
      { w₂ with slack := w₂.slack ++ [tenantLoginText c user.id ip] } :=
    ⟨h.now, h.draws, h.tables, h.cache⟩
  cases h2 : user.isTwoFactorEnabled with
  | false =>
    simpa [loginRest, tenantLoginRest, h2] using generateTokens_simulated hslack user ip
  | true =>
    have hd : truthy d = false := Bool.eq_false_iff.mpr fun ht => hcond ⟨h2, ht⟩
    have hout : SameResult (α := LoginResponse) c
        (.error deviceTokenMissing { w₁ with slack := w₁.slack ++ [loginText user.id ip] })
        (.error deviceTokenMissing
          { w₂ with slack := w₂.slack ++ [tenantLoginText c user.id ip] }) := ⟨rfl, hslack⟩
    simpa [loginRest, tenantLoginRest, h2, hd] using hout

theorem login_simulated {env : Env} {c : String} {w₁ w₂ : World} (h : Related c w₁ w₂)
    {user : UserInfo} (hc : Glob.Plain c) (hu : Glob.Plain user.id) (ip : String)
    {d : Option String} (ua : Option String)
    (hcond : ¬ (user.isTwoFactorEnabled = true ∧ truthy d = true)) :
    SameResult c ((login env user ip d ua).run w₁) ((tenantLogin env c user ip d ua).run w₂) := by
  obtain ⟨v₁, hs₁, hrun₁⟩ := run_login env hu ip d ua w₁
  obtain ⟨v₂, hs₂, hrun₂⟩ := run_tenantLogin env hc hu ip d ua h.tables
  have hinv : Related c { w₁ with root := w₁.root.invalidateRefreshTokens user.id }
      (w₂.setTenant c (w₁.root.invalidateRefreshTokens user.id)) :=
    ⟨h.now, h.draws, by simp [World.setTenant], h.cache⟩
  rw [hrun₁, hrun₂]
  exact loginRest_simulated (hinv.swept hs₁ hs₂) ip ua hcond

/-- With a second factor and a device token, the tenant login takes the user id for a
client code. -/
theorem run_tenantLoginRest_device (env : Env) (c : String) {w : World} {user : UserInfo}
    (ip : String) {d : Option String} (ua : Option String) (hnone : w.tenants user.id = none)
    (h2 : user.isTwoFactorEnabled = true) (hd : truthy d = true) :
    ∃ n, (tenantLoginRest env c user ip d ua).run w = .error (invalidClientCode user.id)
      { w with slack := w.slack ++ [tenantLoginText c user.id ip], draws := n } := by
  by_cases hip : truthy (some ip) = true
  · refine ⟨w.draws, ?_⟩
    simp [tenantLoginRest, h2, hd, tenantValidateOrRegisterDevice, hip, getTenantClient, hnone]
  · refine ⟨w.draws + 1, ?_⟩
    simp [tenantLoginRest, h2, hd, tenantValidateOrRegisterDevice, hip, tenantRegisterDevice,
      getTenantClient, hnone]

theorem run_tenantLogin_device (env : Env) {c : String} {w : World} {db : Db} {user : UserInfo}
    (hc : Glob.Plain c) (hu : Glob.Plain user.id) (ip : String) {d : Option String}
    (ua : Option String) (hdb : w.tenants c = some db) (hnone : w.tenants user.id = none)
    (h2 : user.isTwoFactorEnabled = true) (hd : truthy d = true) :
    ∃ w', (tenantLogin env c user ip d ua).run w = .error (invalidClientCode user.id) w' := by
  obtain ⟨v, hs, hrun⟩ := run_tenantLogin env hc hu ip d ua hdb
  have hne : user.id ≠ c := by
    intro he
    rw [he, hdb] at hnone
    cases hnone
  have hv : v.tenants user.id = none := by
    rw [hs.frame.tenants]
    exact (Function.update_of_ne hne _ _).trans hnone
  obtain ⟨n, hrest⟩ := run_tenantLoginRest_device env c ip ua hv h2 hd
  exact ⟨_, hrun.trans hrest⟩

/-- Not the error for an unknown client code. -/
def KnownCode (e : Exn) : Prop := ∀ code, e ≠ invalidClientCode code

theorem knownCode_prisma (code : String) : KnownCode (.prisma code) := by
  intro _ h
  cases h

theorem knownCode_unauthorized (message : String) : KnownCode (.unauthorized message) := by
  intro _ h
  cases h

theorem knownCode_typeError (message : String) : KnownCode (.typeError message) := by
  intro _ h
  cases h

theorem knownCode_sendMail : KnownCode (.error "sendMail failed") := by
  intro code h
  injection h with h
  have hl := congrArg String.toList h
  rw [String.toList_append] at hl
  have hhead := congrArg List.head? hl
  revert hhead
  exact (by decide : ¬ some 's' = some 'I')

theorem createRefreshToken_error {db : Db} {row : RefreshToken} {e : Exn}
    (h : db.createRefreshToken row = .error e) : KnownCode e := by
  obtain ⟨code, rfl⟩ := Db.createRefreshToken_error h
  exact knownCode_prisma code

theorem createTrustedDevice_error {db : Db} {row : TrustedDevice} {e : Exn}
    (h : db.createTrustedDevice row = .error e) : KnownCode e := by
  obtain ⟨code, rfl⟩ := Db.createTrustedDevice_error h
  exact knownCode_prisma code

theorem throws_notify (env : Env) (c u : String) (ip loc : Option String) :
    Throws KnownCode (notifySecurityTeam env c u ip loc) := by
  refine (Throws.await_ok fun _ => ⟨_, _, rfl⟩).bind fun _ =>
    (Throws.await_ok fun _ => ⟨_, _, rfl⟩).bind fun user => Throws.bind ?_ fun token => ?_
  · refine Throws.await fun w e w' h => ?_
    simp only [sync_bind, uuidv4_apply, clock_apply, writeRoot_apply, sync_pure] at h
    unfold Db.updateUserById at h
    cases hupd : w.root.user.update (fun u' => u'.id == u)
        (withResetPassword (env.uuidv4 w.draws) (w.now + minutes expireMinutes)) with
    | none =>
      simp only [hupd] at h
      cases h
      exact knownCode_prisma _
    | some t => simp only [hupd] at h; cases h
  · cases user with
    | none => exact Throws.pure _
    | some user =>
      refine Throws.await fun w e w' h => ?_
      unfold sendSecurityAlertEmail at h
      split at h
      · cases h
      · cases h; exact knownCode_sendMail

theorem throws_registerDevice (env : Env) (u ip : String) (ua : Option String) (now : Nat) (w : World)
    (e : Exn) (w' : World) (h : registerDevice env u ip ua now w = .error e w') : KnownCode e := by
  simp only [registerDevice, sync_bind, uuidv4_apply, writeRoot_apply, sync_pure] at h
  cases hc : w.root.createTrustedDevice (newDevice u (env.uuidv4 w.draws) (some ip) ua now) with
  | ok db => simp only [hc] at h; cases h
  | error e' =>
    simp only [hc] at h
    cases h
    exact createTrustedDevice_error hc

theorem throws_validateOrRegisterDevice (env : Env) (u : String) (d : Option String) (ip : String)
    (ua : Option String) : Throws KnownCode (validateOrRegisterDevice env u d ip ua) := by
  refine Throws.ite (Throws.bind (Throws.await_ok fun _ => ⟨_, _, rfl⟩) fun found => ?_) ?_
  · obtain ⟨now, info⟩ := found
    cases info with
    | none => exact Throws.throw (knownCode_typeError _)
    | some info =>
      refine Throws.ite ?_ (Throws.ite (Throws.pure _)
        (Throws.await (throws_registerDevice env u ip ua now)))
      refine Throws.bind ?_ fun _ => Throws.throw (knownCode_unauthorized _)
      exact (Throws.await_ok fun _ => ⟨_, _, rfl⟩).bind fun _ =>
        (Throws.await_ok fun _ => ⟨_, _, rfl⟩).bind fun _ => throws_notify env _ _ _ _
  · exact Throws.await fun w e w' h => throws_registerDevice env u ip ua w.now w e w' h

theorem throws_generateTokens (env : Env) (user : UserInfo) (ip : String) :
    Throws KnownCode (generateTokens env user ip) := by
  refine Throws.bind (Throws.await fun w e w' h => ?_) fun m => Throws.bind ?_ fun _ => Throws.pure _
  · simp only [mint, sync_bind, clock_apply, uuidv4_apply, sync_pure, writeRoot_apply] at h
    revert h
    cases hc : w.root.createRefreshToken _ with
    | ok db =>
      intro h
      cases h
    | error e' =>
      intro h
      cases h
      exact createRefreshToken_error hc
  · exact (Throws.await_ok fun _ => ⟨_, _, rfl⟩).bind fun _ =>
      (Throws.await_ok fun _ => ⟨_, _, rfl⟩).bind fun _ => Throws.pure _

theorem throws_loginRest (env : Env) (user : UserInfo) (ip : String) (d ua : Option String) :
    Throws KnownCode (loginRest env user ip d ua) := by
  have hgen := throws_generateTokens env user ip
  refine (Throws.await_ok fun _ => ⟨_, _, rfl⟩).bind fun _ =>
    Throws.ite (Throws.throw (knownCode_unauthorized _)) (Throws.ite ?_ hgen)
  exact (throws_validateOrRegisterDevice env _ d ip ua).bind fun _ => hgen

theorem login_not_simulated {env : Env} {c : String} {w₁ w₂ : World} (h : Related c w₁ w₂)
    {user : UserInfo} (hc : Glob.Plain c) (hu : Glob.Plain user.id) (ip : String)
    {d : Option String} (ua : Option String) (hnone : w₂.tenants user.id = none)
    (h2 : user.isTwoFactorEnabled = true) (hd : truthy d = true) :
    ¬ SameResult c ((login env user ip d ua).run w₁)
      ((tenantLogin env c user ip d ua).run w₂) := by
  obtain ⟨v₁, -, hrun₁⟩ := run_login env hu ip d ua w₁
  obtain ⟨v₂, hrun₂⟩ := run_tenantLogin_device env hc hu ip ua h.tables hnone h2 hd
  rw [hrun₁, hrun₂]
  cases hr : (loginRest env user ip d ua).run v₁ with
  | ok a v => exact fun hs => hs
  | error e v =>
    rintro ⟨rfl, -⟩
    exact (throws_loginRest env user ip d ua).error hr user.id rfl

/-- The two logins agree on related states unless the user has a second factor and a
device token is given; in that case they disagree whenever the user id is not itself
the code of a client. -/
theorem login_simulated_iff (env : Env) (c : String) (w₁ w₂ : World) (user : UserInfo)
    (ip : String) (d ua : Option String) (h : Related c w₁ w₂) (hc : Glob.Plain c)
    (hu : Glob.Plain user.id) :
    (¬ (user.isTwoFactorEnabled = true ∧ truthy d = true) →
      SameResult c ((login env user ip d ua).run w₁) ((tenantLogin env c user ip d ua).run w₂)) ∧
    (w₂.tenants user.id = none →
      SameResult c ((login env user ip d ua).run w₁) ((tenantLogin env c user ip d ua).run w₂) →
      ¬ (user.isTwoFactorEnabled = true ∧ truthy d = true)) :=
  ⟨login_simulated h hc hu ip ua, fun hnone hs hcond =>
    login_not_simulated h hc hu ip ua hnone hcond.1 hcond.2 hs⟩

/-- A user with a second factor and one trusted device. -/
def deviceUser : User := { User.sample with twoFactorSecret := some "S", isTwoFactorEnabled := true }

def deviceDb : Db :=
  { Db.empty with
    user := .singleton deviceUser
    trustedDevice := .singleton (newDevice deviceUser.id "device-1" (some "::1") none 1000) }

/-- The root side and the tenant hold the same tables. -/
def deviceWorld : World := (World.start 1000 deviceDb).setTenant "CL-4F2A" deviceDb

theorem related_deviceWorld : Related "CL-4F2A" deviceWorld deviceWorld :=
  ⟨rfl, rfl, by rfl, fun _ => rfl⟩

theorem login_simulated_without_device :
    SameResult "CL-4F2A"
      ((login Env.sample (User.info deviceUser) "::1" none none).run deviceWorld)
      ((tenantLogin Env.sample "CL-4F2A" (User.info deviceUser) "::1" none none).run
        deviceWorld) :=
  (login_simulated_iff Env.sample "CL-4F2A" deviceWorld deviceWorld (User.info deviceUser) "::1"
    none none related_deviceWorld (by decide) (by decide)).1 (by decide)

/-- With the registered device the root login returns tokens and the tenant login
throws. -/
theorem device_login_differs :
    Related "CL-4F2A" deviceWorld deviceWorld ∧
      ¬ SameResult "CL-4F2A"
        ((login Env.sample (User.info deviceUser) "::1" (some "device-1") none).run deviceWorld)
        ((tenantLogin Env.sample "CL-4F2A" (User.info deviceUser) "::1" (some "device-1") none).run
          deviceWorld) :=
  ⟨related_deviceWorld, login_not_simulated related_deviceWorld (by decide) (by decide) "::1" none
    (by rfl) rfl (by decide)⟩

end NestUserService.Auth.LoginSimulation
