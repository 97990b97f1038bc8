import NestUserService.Lib.Conduct
import NestUserService.Core.HttpException
import NestUserService.Auth.JwtAuthGuard

/-!
# What a step of any call does

A step changes at most one database, and by one statement; or it writes or deletes one key
of the cache. A call throws only exceptions whose text is fixed in the code. Whatever is
said here holds next to other calls, and wherever a call stops.
-/

namespace NestUserService.Auth

open Lib NestUserService.Core Shared

/-- The updates of a user that the code makes. -/
inductive UserUpdate : Patch User → Prop
  | resetPassword (token : String) (expires : Nat) : UserUpdate (withResetPassword token expires)
  | password (password : String) : UserUpdate (withPassword password)
  | verified : UserUpdate withVerified
  | twoFactorEnabled : UserUpdate (withTwoFactorEnabled true)
  | twoFactorSecret (secret : String) : UserUpdate (withTwoFactorSecret secret)

/-- What one statement makes of a database. -/
inductive Statement : Db → Db → Prop
  | keep (db : Db) : Statement db db
  | invalidate (db : Db) (p : RefreshToken → Bool) :
      Statement db { db with refreshToken := db.refreshToken.updateMany p invalidated }
  | createRefreshToken {db db' : Db} {row : RefreshToken} (h : db.createRefreshToken row = .ok db') :
      Statement db db'
  | createTrustedDevice {db db' : Db} {row : TrustedDevice}
      (h : db.createTrustedDevice row = .ok db') : Statement db db'
  | ipUpsert (db : Db) (ip : String) : Statement db (db.ipUpsert ip)
  | updateUser (db : Db) (p : User → Bool) {data : Patch User} (h : UserUpdate data) :
      Statement db { db with user := db.user.updateMany p data }
  | createUser {db : Db} {row : User} {t : Table User} (h : db.user.create row = some t) :
      Statement db { db with user := t }

theorem statement_updateUserById {db db' : Db} {id : String} {data : Patch User}
    (hdata : UserUpdate data) (h : db.updateUserById id data = .ok db') : Statement db db' := by
  unfold Db.updateUserById at h
  split at h
  · rename_i t ht
    cases h
    rw [Table.update_some ht]
    exact .updateUser db _ hdata
  · cases h

theorem statement_updateUserByEmail {db db' : Db} {email : String} {data : Patch User}
    (hdata : UserUpdate data) (h : db.updateUserByEmail email data = .ok db') :
    Statement db db' := by
  unfold Db.updateUserByEmail at h
  split at h
  · rename_i t ht
    cases h
    rw [Table.update_some ht]
    exact .updateUser db _ hdata
  · cases h

theorem statement_spend {db db' : Db} {token : String} (h : spendRefreshToken db token = .ok db') :
    Statement db db' := by
  unfold spendRefreshToken at h
  split at h
  · rename_i t ht
    cases h
    rw [Table.update_some ht]
    exact .invalidate db _
  · cases h

/-- The tenant databases that a call may change, and the cache namespaces it writes to. -/
structure Reach where
  databases : String → Prop
  namespaces : String → Prop

/-- Root calls: no tenant database, and the namespace of the root logins. -/
def Reach.root : Reach := ⟨fun _ => False, fun c => c = rootLoginClientCacheValue⟩

/-- No tenant database, and one namespace. -/
def Reach.cache (c : String) : Reach := ⟨fun _ => False, fun c' => c' = c⟩

def Reach.Includes (S S' : Reach) : Prop :=
  (∀ c, S'.databases c → S.databases c) ∧ ∀ c, S'.namespaces c → S.namespaces c

/-- An entry for a user: a payload of that user, or the mark of the blacklist. -/
inductive UserEntry (c : String) : String → CacheValue → Prop
  | payload {kind : Kind} (hkind : kind ≠ .blacklist) (p : TokenCachePayload) (t : String) :
      UserEntry c (tokenKey kind c p.id t) (.payload p)
  | blacklisted (u t : String) : UserEntry c (blacklistKey c u t) (.text "blacklisted")

/-- One step of a call. -/
structure Effect (S : Reach) (w w' : World) : Prop where
  now : w'.now = w.now
  root : Statement w.root w'.root
  tenants : ∀ c, w'.tenants c = w.tenants c ∨ S.databases c ∧
    ∃ db db', w.tenants c = some db ∧ w'.tenants c = some db' ∧ Statement db db'
  redis : w'.redis = w.redis ∨
    (∃ c k v ttl, S.namespaces c ∧ UserEntry c k v ∧
      w'.redis = w.redis.put k (Entry.stamp v w.now ttl)) ∨
    ∃ c u k, S.namespaces c ∧ ClearDel c u k ∧ w'.redis = w.redis.del k

theorem Effect.mono {S S' : Reach} {w w' : World} (h : Effect S' w w') (hS : S.Includes S') :
    Effect S w w' := by
  refine ⟨h.now, h.root, fun c => ?_, ?_⟩
  · exact (h.tenants c).imp id fun hc => ⟨hS.1 c hc.1, hc.2⟩
  · obtain hr | ⟨c, k, v, ttl, hc, hr⟩ | ⟨c, u, k, hc, hr⟩ := h.redis
    · exact Or.inl hr
    · exact Or.inr (Or.inl ⟨c, k, v, ttl, hS.2 c hc, hr⟩)
    · exact Or.inr (Or.inr ⟨c, u, k, hS.2 c hc, hr⟩)

/-- The HTTP exceptions of the handlers and guards; their texts hold nothing of the state. -/
def httpExceptions : List Exn :=
  [deviceTokenMissing, suspiciousLogin, wrongCredentials, emailNotVerified, wrongClientCode, notPaid,
    invalidRefreshTokenForbidden, refreshTokenExpired, tokenTheftSuspected, invalidRefreshToken,
    userNotFound, tokenNotFound, noTokenFound, accessTokenRevoked, invalidResetToken, noSuchUser,
    alreadyVerified, twoFactorNotSetUp, wrongCode, twoFactorNotEnabled, wrongOtp, alreadyEnabled,
    idOrEmailRequired, resetUserMissing, tenantHeaderMissing, sessionExpired, invalidToken,
    tokenNotActive, authenticationFailed, subscriptionRequired]

/-- Under the assumption `A` on the packages, an HTTP exception is one of the list. -/
def Listed (A : Prop) (e : Exn) : Prop := A → e.isHttp = true → e ∈ httpExceptions

variable {A : Prop}

theorem listed_of_not_http {e : Exn} (h : e.isHttp = false) : Listed A e := by
  intro _ h'
  rw [h] at h'
  cases h'

/-- What is assumed of the packages: their own errors are not HTTP exceptions. -/
structure PlainErrors (env : TwoFactorEnv) : Prop where
  aesDecrypt : ∀ iv data e, env.aesDecrypt iv data = .error e → e.isHttp = false
  toBuffer : ∀ text e, env.toBuffer text = .error e → e.isHttp = false

section Sync

variable {α β : Type} {S : Reach}

/-- Nothing but draws, mails and Slack messages differs. -/
structure Undisturbed (w w' : World) : Prop where
  now : w'.now = w.now
  root : w'.root = w.root
  tenants : w'.tenants = w.tenants
  redis : w'.redis = w.redis

theorem Undisturbed.refl (w : World) : Undisturbed w w := ⟨rfl, rfl, rfl, rfl⟩

theorem Undisturbed.trans {w w' w'' : World} (h : Undisturbed w w') (h' : Undisturbed w' w'') :
    Undisturbed w w'' :=
  ⟨h'.now.trans h.now, h'.root.trans h.root, h'.tenants.trans h.tenants, h'.redis.trans h.redis⟩

theorem Undisturbed.effect {w w' : World} (h : Undisturbed w w') : Effect S w w' where
  now := h.now
  root := by
    rw [h.root]
    exact .keep _
  tenants c := Or.inl (by rw [h.tenants])
  redis := Or.inl h.redis

theorem Effect.after {w w' w'' : World} (h : Undisturbed w w') (h' : Effect S w' w'') :
    Effect S w w'' := by
  obtain ⟨hnow, hroot, htenants, hredis⟩ := h'
  rw [h.now] at hnow
  rw [h.root] at hroot
  rw [h.tenants] at htenants
  rw [h.redis, h.now] at hredis
  exact ⟨hnow, hroot, htenants, hredis⟩

theorem Effect.before {w w' w'' : World} (h : Effect S w w') (h' : Undisturbed w' w'') :
    Effect S w w'' := by
  obtain ⟨hnow, hroot, htenants, hredis⟩ := h
  rw [← h'.now] at hnow
  rw [← h'.root] at hroot
  rw [← h'.tenants] at htenants
  rw [← h'.redis] at hredis
  exact ⟨hnow, hroot, htenants, hredis⟩

/-- Synchronous code that disturbs nothing. -/
def Calm (A : Prop) (x : Sync α) : Prop :=
  ∀ w, Undisturbed w (finalState (x w)) ∧ ∀ e w', x w = .error e w' → Listed A e

/-- Synchronous code that makes one step. -/
def Effective (A : Prop) (S : Reach) (x : Sync α) : Prop :=
  ∀ w, Effect S w (finalState (x w)) ∧ ∀ e w', x w = .error e w' → Listed A e

theorem Calm.effective {x : Sync α} (h : Calm A x) : Effective A S x :=
  fun w => ⟨(h w).1.effect, (h w).2⟩

theorem Calm.bind {x : Sync α} {f : α → Sync β} (hx : Calm A x) (hf : ∀ a, Calm A (f a)) :
    Calm A (x >>= f) := by
  intro w
  obtain ⟨hsame, herror⟩ := hx w
  rw [sync_bind]
  cases hxw : x w with
  | ok a w' =>
    rw [hxw] at hsame
    exact ⟨hsame.trans (hf a w').1, (hf a w').2⟩
  | error e w' =>
    rw [hxw] at hsame
    refine ⟨hsame, fun e' w'' h => ?_⟩
    cases h
    exact herror e w' hxw

theorem Effective.after {x : Sync α} {f : α → Sync β} (hx : Calm A x)
    (hf : ∀ a, Effective A S (f a)) : Effective A S (x >>= f) := by
  intro w
  obtain ⟨hsame, herror⟩ := hx w
  rw [sync_bind]
  cases hxw : x w with
  | ok a w' =>
    rw [hxw] at hsame
    exact ⟨.after hsame (hf a w').1, (hf a w').2⟩
  | error e w' =>
    rw [hxw] at hsame
    refine ⟨hsame.effect, fun e' w'' h => ?_⟩
    cases h
    exact herror e w' hxw

theorem Effective.before {x : Sync α} {f : α → Sync β} (hx : Effective A S x)
    (hf : ∀ a, Calm A (f a)) : Effective A S (x >>= f) := by
  intro w
  obtain ⟨hstep, herror⟩ := hx w
  rw [sync_bind]
  cases hxw : x w with
  | ok a w' =>
    rw [hxw] at hstep
    exact ⟨hstep.before (hf a w').1, (hf a w').2⟩
  | error e w' =>
    rw [hxw] at hstep
    refine ⟨hstep, fun e' w'' h => ?_⟩
    cases h
    exact herror e w' hxw

theorem calm_of_ok {x : Sync α} (h : ∀ w, ∃ a w', x w = .ok a w' ∧ Undisturbed w w') : Calm A x := by
  intro w
  obtain ⟨a, w', hx, hsame⟩ := h w
  rw [hx]
  exact ⟨hsame, fun e w'' he => by cases he⟩

theorem calm_pure (a : α) : Calm A (pure a : Sync α) :=
  calm_of_ok fun w => ⟨a, w, rfl, .refl w⟩

theorem calm_throw {e : Exn} (h : Listed A e) : Calm A (throw e : Sync α) := by
  refine fun w => ⟨.refl w, fun e' w' he => ?_⟩
  cases he
  exact h

theorem calm_clock : Calm A clock := calm_of_ok fun w => ⟨_, w, rfl, .refl w⟩

theorem calm_uuidv4 (env : Env) : Calm A (uuidv4 env) :=
  calm_of_ok fun _ => ⟨_, _, rfl, rfl, rfl, rfl, rfl⟩

theorem calm_sendMessage (m : String) : Calm A (sendMessage m) :=
  calm_of_ok fun _ => ⟨_, _, rfl, rfl, rfl, rfl, rfl⟩

theorem calm_readRoot (f : Db → α) : Calm A (readRoot f) := calm_of_ok fun w => ⟨_, w, rfl, .refl w⟩

theorem calm_sendSecurityAlertEmail (env : Env) (m : SecurityAlertEmail) :
    Calm A (sendSecurityAlertEmail env m) := by
  intro w
  unfold sendSecurityAlertEmail
  split
  · exact ⟨⟨rfl, rfl, rfl, rfl⟩, fun e w' he => by cases he⟩
  · refine ⟨.refl w, fun e w' he => ?_⟩
    cases he
    exact listed_of_not_http rfl

theorem calm_queryRoot {f : Db → Except Exn α} (hf : ∀ db e, f db = .error e → Listed A e) :
    Calm A (queryRoot f) := by
  intro w
  rw [queryRoot_apply]
  cases h : f w.root with
  | ok a => exact ⟨.refl w, fun e w' he => by cases he⟩
  | error e =>
    refine ⟨.refl w, fun e' w' he => ?_⟩
    cases he
    exact hf _ _ h

theorem listed_invalidClientCode (c : String) : Listed A (invalidClientCode c) :=
  listed_of_not_http rfl

theorem calm_getTenantClient (c : String) : Calm A (getTenantClient c) := by
  intro w
  unfold getTenantClient
  cases w.tenants c with
  | some db => exact ⟨.refl w, fun e w' he => by cases he⟩
  | none =>
    refine ⟨.refl w, fun e w' he => ?_⟩
    cases he
    exact listed_invalidClientCode c

theorem calm_readTenant (c : String) (f : Db → α) : Calm A (readTenant c f) := by
  intro w
  unfold readTenant
  cases w.tenants c with
  | some db => exact ⟨.refl w, fun e w' he => by cases he⟩
  | none =>
    refine ⟨.refl w, fun e w' he => ?_⟩
    cases he
    exact listed_invalidClientCode c

theorem calm_queryTenant (c : String) {f : Db → Except Exn α}
    (hf : ∀ db e, f db = .error e → Listed A e) : Calm A (queryTenant c f) := by
  intro w
  unfold queryTenant
  cases w.tenants c with
  | none =>
    refine ⟨.refl w, fun e w' he => ?_⟩
    cases he
    exact listed_invalidClientCode c
  | some db =>
    dsimp only
    cases h : f db with
    | ok a => exact ⟨.refl w, fun e w' he => by cases he⟩
    | error e =>
      refine ⟨.refl w, fun e' w' he => ?_⟩
      cases he
      exact hf _ _ h

theorem effective_writeRoot {f : Db → Except Exn Db}
    (h : ∀ db db', f db = .ok db' → Statement db db') (hf : ∀ db e, f db = .error e → Listed A e) :
    Effective A S (writeRoot f) := by
  intro w
  rw [writeRoot_apply]
  cases hw : f w.root with
  | ok db =>
    refine ⟨⟨rfl, h _ _ hw, fun c => Or.inl rfl, Or.inl rfl⟩, fun e w' he => ?_⟩
    cases he
  | error e =>
    refine ⟨Undisturbed.effect (.refl w), fun e' w' he => ?_⟩
    cases he
    exact hf _ _ hw

theorem effective_writeTenant {c : String} (hc : S.databases c) {f : Db → Except Exn Db}
    (h : ∀ db db', f db = .ok db' → Statement db db') (hf : ∀ db e, f db = .error e → Listed A e) :
    Effective A S (writeTenant c f) := by
  intro w
  unfold writeTenant
  cases hdb : w.tenants c with
  | none =>
    refine ⟨Undisturbed.effect (.refl w), fun e w' he => ?_⟩
    cases he
    exact listed_invalidClientCode c
  | some db =>
    dsimp only
    cases hw : f db with
    | error e =>
      refine ⟨Undisturbed.effect (.refl w), fun e' w' he => ?_⟩
      cases he
      exact hf _ _ hw
    | ok db' =>
      refine ⟨⟨rfl, .keep _, fun c' => ?_, Or.inl rfl⟩, fun e w' he => by cases he⟩
      by_cases hcc : c' = c
      · subst hcc
        exact Or.inr ⟨hc, db, db', hdb, Function.update_self _ _ _, h _ _ hw⟩
      · exact Or.inl (Function.update_of_ne hcc _ _)

end Sync

end NestUserService.Auth
