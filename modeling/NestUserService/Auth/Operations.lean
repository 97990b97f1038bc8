import Mathlib.Logic.Relation
import NestUserService.Auth.Steps
import NestUserService.Shared.CacheSpec

/-!
# Runs of the service

An operation is one call that runs to its end, or the passage of time; cached entries
expire by themselves as the clock moves. A guarded run takes only operations that its
guard allows in the state they start from.
-/

namespace NestUserService.Auth

open Lib NestUserService.Core Shared

inductive Op where
  | login (user : UserInfo) (ip : String) (deviceToken userAgent : Option String)
  | tenantLogin (clientCode : String) (user : UserInfo) (ip : String)
      (deviceToken userAgent : Option String)
  | validate (req : Request) (payload : JwtPayload)
  | refresh (clientCode userId refreshToken ip : String)
  | handleTokenTheft (userId suspiciousIp : String) (locationText : Option String)
  | revokeRefreshToken (refreshToken : String)
  | elapse (milliseconds : Nat)

/-- The command of the refresh route for a token string. -/
def refreshCommand (clientCode userId refreshToken ip : String) : UpdateRefreshAccessTokenCommand :=
  { clientCode, userId, refreshToken := .string refreshToken, ip }

/-- The state an operation leaves, whether it returns or throws. -/
def Op.exec (env : Env) : Op → World → World
  | .login user ip d ua, w => finalState ((Auth.login env user ip d ua).run w)
  | .tenantLogin c user ip d ua, w => finalState ((Auth.tenantLogin env c user ip d ua).run w)
  | .validate req payload, w => finalState ((Auth.validate env req payload).run w)
  | .refresh c u t ip, w =>
    finalState ((updateRefreshAccessToken env (refreshCommand c u t ip)).run w)
  | .handleTokenTheft u ip loc, w => finalState ((Auth.handleTokenTheft env u ip loc).run w)
  | .revokeRefreshToken t, w => finalState ((Auth.revokeRefreshToken t).run w)
  | .elapse n, w => { w with now := w.now + n }

/-- Runs whose operations all meet the guard. -/
def Runs (env : Env) (guard : World → Op → Prop) : World → World → Prop :=
  Relation.ReflTransGen fun w w' => ∃ op, guard w op ∧ w' = op.exec env w

/-- What every allowed operation preserves holds in every state of a run. -/
theorem Runs.invariant {env : Env} {guard : World → Op → Prop} {I : World → Prop} {w w' : World}
    (h : Runs env guard w w') (hstep : ∀ w op, guard w op → I w → I (op.exec env w)) (hw : I w) :
    I w' := by
  induction h with
  | refl => exact hw
  | tail _ hlast ih =>
    obtain ⟨op, hguard, rfl⟩ := hlast
    exact hstep _ op hguard ih

theorem plain_root : Glob.Plain rootLoginClientCacheValue := by decide

theorem noColon_root : NoColon rootLoginClientCacheValue := by decide

/-- `login` ends the previous sessions and goes on from the swept state. -/
theorem run_login (env : Env) {user : UserInfo} (hu : Glob.Plain user.id) (ip : String)
    (d ua : Option String) (w : World) :
    ∃ w₁, Swept env (· = w.now) rootLoginClientCacheValue user.id
        { w with root := w.root.invalidateRefreshTokens user.id } w₁ ∧
      (login env user ip d ua).run w = (loginRest env user ip d ua).run w₁ := by
  obtain ⟨w₁, hrun₁, hb⟩ := run_setUserAccessTokenBlacklistCache env plain_root hu
    { w with root := w.root.invalidateRefreshTokens user.id }
  obtain ⟨w₂, hrun₂, hc⟩ := run_clearUserAllTokenCaches env plain_root hu w₁
  have hnow : w₁.now = w.now := hb.frame.clock
  rw [hnow] at hc
  refine ⟨w₂, swept_of_blacklisting_clearing hb hc, ?_⟩
  rw [login_eq]
  simp [invalidatePreviousRefreshTokens, setRootUserAccessTokenBlacklistCache, clearUserTokenCache,
    hrun₁, hrun₂]

/-- What `generateTokens` mints in a given state. -/
def minted (env : Env) (user : UserInfo) (w : World) : Minted :=
  { accessToken := env.sign (.user user) (w.now / 1000), refreshToken := env.uuidv4 w.draws
    expiresAt := w.now + minutes refreshTokenMinutes, issuedAt := w.now }

/-- The cache after the session of a login was stored under `c`. -/
def withSession (env : Env) (c : String) (user : UserInfo) (ip : String) (w : World) :
    Store CacheValue :=
  let m := minted env user w
  (w.redis.put (accessKey c user.id m.accessToken)
      (Entry.stamp (m.payload user ip) w.now env.accessTokenCacheExpiresIn)).put
    (refreshKey c user.id m.refreshToken)
      (Entry.stamp (m.payload user ip) w.now env.refreshTokenCacheExpiresIn)

theorem run_generateTokens (env : Env) (user : UserInfo) (ip : String) (w : World) :
    (generateTokens env user ip).run w =
      match w.root.createRefreshToken ((minted env user w).row user.id ip) with
      | .error e => .error e { w with draws := w.draws + 1 }
      | .ok db => .ok ((minted env user w).response none)
          { w with
            root := db, redis := withSession env rootLoginClientCacheValue user ip w
            draws := w.draws + 1 } := by
  cases h : w.root.createRefreshToken ((minted env user w).row user.id ip) with
  | error e =>
    unfold minted at h
    simp [generateTokens, mint, h]
  | ok db =>
    unfold minted at h
    simp [generateTokens, mint, h, setUserAllTokenCache, setUserAccessTokenCache,
      setUserRefreshTokenCache, cacheSet, minted, withSession, Minted.payload]

theorem run_tenantGenerateTokens (env : Env) {c : String} (user : UserInfo) (ip : String)
    {w : World} {db : Db} (hdb : w.tenants c = some db) :
    (tenantGenerateTokens env c user ip).run w =
      match db.createRefreshToken ((minted env user w).row user.id ip) with
      | .error e => .error e { w with draws := w.draws + 1 }
      | .ok db' => .ok ((minted env user w).response none)
          { w.setTenant c db' with
            redis := withSession env c user ip w, draws := w.draws + 1 } := by
  have hdb' : ({ w with draws := w.draws + 1 } : World).tenants c = some db := hdb
  cases h : db.createRefreshToken ((minted env user w).row user.id ip) with
  | error e =>
    unfold minted at h
    simp [tenantGenerateTokens, mint, getTenantClient_apply hdb', writeTenant_apply hdb', h]
  | ok db' =>
    unfold minted at h
    simp [tenantGenerateTokens, mint, getTenantClient_apply hdb', writeTenant_apply hdb', h,
      setUserAllTokenCache, setUserAccessTokenCache, setUserRefreshTokenCache, cacheSet, minted,
      withSession, Minted.payload, World.setTenant]

end NestUserService.Auth
