import NestUserService.Shared.CacheSpec

/-!
# What one step of the cache service can do

The specifications here hold for every interleaving and for every client code and
user id, glob characters included: they only say which keys a step may write or
delete.
-/

namespace NestUserService.Shared

open Lib NestUserService.Core

/-- One step writes one key, deletes one key, or only takes a draw. -/
inductive CacheStep (Put : String → CacheValue → Nat → Prop) (Del : String → Prop) :
    World → World → Prop
  | keep (w : World) (n : Nat) : CacheStep Put Del w { w with draws := n }
  | put (w : World) (k : String) (v : CacheValue) (ttl : Nat) (h : Put k v ttl) :
      CacheStep Put Del w { w with redis := w.redis.put k (Entry.stamp v w.now ttl) }
  | del (w : World) (k : String) (h : Del k) :
      CacheStep Put Del w { w with redis := w.redis.del k }

/-- No value is written. -/
def NoPut : String → CacheValue → Nat → Prop := fun _ _ _ => False

/-- No key is deleted. -/
def NoDel : String → Prop := fun _ => False

/-- The writes of the blacklist loop. -/
def BlacklistPut (env : Env) (c u : String) (k : String) (v : CacheValue) (ttl : Nat) : Prop :=
  (∃ t, NoColon t ∧ k = blacklistKey c u t) ∧ v = .text "blacklisted" ∧ ttl = blacklistTtl env

variable {P : String → CacheValue → Nat → Prop} {D : String → Prop}

theorem guarantees_cacheGet (key : String) :
    Async.Guarantees (CacheStep P D) (fun _ => True) (Async.await (cacheGet key)) :=
  Async.Guarantees.await (fun w => .keep w w.draws) fun _ _ _ _ => trivial

theorem guarantees_cacheSet {key : String} {value : CacheValue} {ttl : Nat}
    (h : P key value ttl) :
    Async.Guarantees (CacheStep P D) (fun _ => True) (Async.await (cacheSet key value ttl)) :=
  Async.Guarantees.await (fun w => .put w key value ttl h) fun _ _ _ _ => trivial

theorem guarantees_scanStart (env : Env) :
    Async.Guarantees (CacheStep P D) (fun _ => True) (Async.await (scanStart env)) :=
  Async.Guarantees.await (fun w => .keep w (w.draws + 1)) fun _ _ _ _ => trivial

/-- A scan returns keys that match its pattern. -/
theorem guarantees_scan (pattern : String) (reply : String → Bool) :
    Async.Guarantees (CacheStep P D) (fun keys => ∀ k ∈ keys, Glob.isMatch pattern k = true)
      (Async.await (scan pattern reply)) := by
  refine Async.Guarantees.await (fun w => .keep w w.draws) fun w keys w' h k hk => ?_
  cases h
  exact (Bool.and_eq_true_iff.mp (List.mem_filter.mp hk).2).2

theorem guarantees_blacklist (env : Env) (c u : String) :
    Async.Guarantees (CacheStep (BlacklistPut env c u) D) (fun _ => True)
      (setUserAccessTokenBlacklistCache env c u) := by
  refine (guarantees_scanStart env).bind fun plan _ => Async.Guarantees.forM fun r _ => ?_
  refine (guarantees_scan _ r).bind fun keys _ => Async.Guarantees.forM fun k _ => ?_
  refine Async.Guarantees.ite (fun _ => ?_) fun _ => Async.Guarantees.pure trivial
  exact guarantees_cacheSet ⟨⟨_, noColon_tokenOfKey k, rfl⟩, rfl, rfl⟩

theorem guarantees_deleteKeys (env : Env) {pattern : String}
    (h : ∀ k, Glob.isMatch pattern k = true → D k) :
    Async.Guarantees (CacheStep P D) (fun _ => True) (deleteKeysByPattern env pattern) := by
  refine (guarantees_scanStart env).bind fun plan _ => Async.Guarantees.forM fun r _ => ?_
  refine (guarantees_scan _ r).bind fun keys hkeys => Async.Guarantees.forM fun k hk => ?_
  exact Async.Guarantees.await (fun w => .del w k (h k (hkeys k hk))) fun _ _ _ _ => trivial

/-- The keys that `clearUserAllTokenCaches` may delete. -/
def ClearDel (c u k : String) : Prop :=
  Glob.isMatch (getUserAccessTokenPrefix c u ++ ":*") k = true ∨
    Glob.isMatch (getUserRefreshTokenPrefix c u ++ ":*") k = true

theorem guarantees_clear (env : Env) (c u : String) :
    Async.Guarantees (CacheStep P (ClearDel c u)) (fun _ => True)
      (clearUserAllTokenCaches env c u) :=
  (guarantees_deleteKeys env fun _ h => Or.inl h).bind fun _ _ =>
    guarantees_deleteKeys env fun _ h => Or.inr h

theorem tokenKey_of_clearDel {c u k : String} (hc : Glob.Plain c) (hu : Glob.Plain u)
    (h : ClearDel c u k) : TokenKey c u k := by
  unfold ClearDel at h
  rw [pattern_star, pattern_star] at h
  exact h.imp (Glob.isMatch_plain_star (plain_accessPattern hc hu) k).mp
    (Glob.isMatch_plain_star (plain_refreshPattern hc hu) k).mp

/-- The writes of `setUserAllTokenCache`. -/
def SessionPut (c u : String) (value : CacheValue) (k : String) (v : CacheValue) (_ttl : Nat) :
    Prop :=
  v = value ∧ ∃ t, k = accessKey c u t ∨ k = refreshKey c u t ∨ k = deviceKey c u t

theorem guarantees_setAll (env : Env) (c u accessToken refreshToken : String) (value : CacheValue)
    (deviceToken : Option String) (ttl : Option Nat) :
    Async.Guarantees (CacheStep (SessionPut c u value) D) (fun _ => True)
      (setUserAllTokenCache env c u accessToken refreshToken value deviceToken ttl) := by
  refine (guarantees_cacheSet ⟨rfl, _, Or.inl rfl⟩).bind fun _ _ => ?_
  refine (guarantees_cacheSet ⟨rfl, _, Or.inr (Or.inl rfl)⟩).bind fun _ _ => ?_
  cases deviceToken with
  | none => exact Async.Guarantees.pure trivial
  | some device =>
    refine Async.Guarantees.ite (fun _ => ?_) fun _ => Async.Guarantees.pure trivial
    exact guarantees_cacheSet ⟨rfl, _, Or.inr (Or.inr rfl)⟩

end NestUserService.Shared
