import NestUserService.Auth.AuditTrail

/-!
# Boundaries between tenants and between users

A tenant database, and a namespace of the cache, is out of reach of every call that does
not name it. Inside a namespace, what is stored under a user's key belongs to that user.
-/

namespace NestUserService.Auth.Boundaries

open Lib NestUserService.Core Shared AuditTrail

/-- The pieces of a key that can be told apart. -/
structure Plainly (c u t : String) : Prop where
  code : NoColon c
  user : NoColon u
  token : NoColon t

theorem userEntry_key {c k : String} {v : CacheValue} (h : UserEntry c k v) :
    ∃ kind u t, k = tokenKey kind c u t := by
  cases h with
  | payload hkind p t => exact ⟨_, _, _, rfl⟩
  | blacklisted u t => exact ⟨.blacklist, u, t, rfl⟩

/-- A write under a plain key is a write of its namespace. -/
theorem userEntry_code {kind : Kind} {c c' u t : String} {v : CacheValue} (hp : Plainly c u t)
    (h : UserEntry c' (tokenKey kind c u t) v) : c' = c := by
  obtain ⟨kind', u', t', hk⟩ := userEntry_key h
  exact (tokenKey_unique hp.code hp.user hp.token hk).2.1.symm

/-- What may be stored under a key of the user. -/
def BelongsTo (kind : Kind) (u : String) (v : CacheValue) : Prop :=
  if kind = .blacklist then v = .text "blacklisted" else ∃ p, v = .payload p ∧ p.id = u

theorem belongsTo_of_userEntry {kind : Kind} {c c' u t : String} {v : CacheValue}
    (hp : Plainly c u t) (h : UserEntry c' (tokenKey kind c u t) v) : BelongsTo kind u v := by
  generalize hk : tokenKey kind c u t = k at h
  cases h with
  | payload hkind p t' =>
    obtain ⟨rfl, -, rfl, -⟩ := tokenKey_unique hp.code hp.user hp.token hk
    unfold BelongsTo
    rw [if_neg hkind]
    exact ⟨p, rfl, rfl⟩
  | blacklisted u' t' =>
    have hkeys : tokenKey kind c u t = tokenKey .blacklist _ u' t' := hk
    obtain ⟨rfl, -, -, -⟩ := tokenKey_unique hp.code hp.user hp.token hkeys
    rfl

/-- The reach of everything that does not name the client code. -/
def Reach.without (c : String) : Reach := ⟨fun c' => c' ≠ c, fun c' => c' ≠ c⟩

/-- The database is as it was, and an entry of the namespace is as it was or gone. -/
structure Untouched (c : String) (w w' : World) : Prop where
  database : w'.tenants c = w.tenants c
  entries : ∀ kind u t, Plainly c u t →
    w'.redis.lookup (tokenKey kind c u t) = w.redis.lookup (tokenKey kind c u t) ∨
      w'.redis.lookup (tokenKey kind c u t) = none

theorem Untouched.refl (c : String) (w : World) : Untouched c w w :=
  ⟨rfl, fun _ _ _ _ => Or.inl rfl⟩

theorem Untouched.trans {c : String} {w w' w'' : World} (h : Untouched c w w')
    (h' : Untouched c w' w'') : Untouched c w w'' := by
  refine ⟨h'.database.trans h.database, fun kind u t hp => ?_⟩
  rcases h'.entries kind u t hp with hsame | hgone
  · rw [hsame]
    exact h.entries kind u t hp
  · exact Or.inr hgone

/-- One effect on the entries of a plain key: nothing, a write of its own, or a deletion. -/
theorem lookup_of_effect {S : Reach} {w w' : World} (h : Effect S w w') (k : String) :
    w'.redis.lookup k = w.redis.lookup k ∨ w'.redis.lookup k = none ∨
      ∃ c v ttl, S.namespaces c ∧ UserEntry c k v ∧
        w'.redis.lookup k = some (Entry.stamp v w.now ttl) := by
  obtain hr | ⟨c, k', v, ttl, hc, hv, hr⟩ | ⟨c, u, k', -, -, hr⟩ := h.redis
  · exact Or.inl (by rw [hr])
  · by_cases hk : k = k'
    · subst hk
      exact Or.inr (Or.inr ⟨c, v, ttl, hc, hv, by rw [hr, Store.lookup_put_self]⟩)
    · exact Or.inl (by rw [hr, Store.lookup_put_ne _ _ hk])
  · by_cases hk : k = k'
    · subst hk
      exact Or.inr (Or.inl (by rw [hr, Store.lookup_del_self]))
    · exact Or.inl (by rw [hr, Store.lookup_del_ne _ hk])

theorem untouched_of_effect {c : String} {w w' : World} (h : Effect (Reach.without c) w w') :
    Untouched c w w' := by
  refine ⟨?_, fun kind u t hp => ?_⟩
  · obtain hsame | ⟨hne, -⟩ := h.tenants c
    · exact hsame
    · exact absurd rfl hne
  · obtain hsame | hgone | ⟨c', v, ttl, hne, hv, -⟩ := lookup_of_effect h (tokenKey kind c u t)
    · exact Or.inl hsame
    · exact Or.inr hgone
    · exact absurd (userEntry_code hp hv) hne

/-- The call names the client code: it is the tenant of a verified mail, of a tenant login
or of a theft, the tenant header of a request, the id of a user with a second factor, or the
namespace of the root logins. -/
def Names (env : GuardEnv) (c : String) (call : ServiceCall) : Prop :=
  (call.reach env).databases c ∨ (call.reach env).namespaces c

/-- In every interleaving of calls that do not name a client code, its database stays as it
is and its part of the cache receives nothing. -/
theorem untouched_by_others {ι : Type} [DecidableEq ι] (env : GuardEnv)
    (calls : ι → ServiceCall) (w : World) {c : String} (hc : ∀ i, ¬ Names env c (calls i))
    {p : Threads World Exn Reply ι} (hp : Interleaved (ServiceCall.pool env calls w) p) :
    Untouched c w p.state := by
  have hkeeps : Keeps env (Reach.without c) (ServiceCall.pool env calls w) := by
    refine ServiceCall.keeps env calls w fun i => ⟨fun c' h => ?_, fun c' h => ?_⟩
    · rintro rfl
      exact hc i (Or.inl h)
    · rintro rfl
      exact hc i (Or.inr h)
  exact (hkeeps.interleaved hp (Untouched.refl c) (fun _ _ _ => Untouched.trans)
    (fun v t => ⟨rfl, fun _ _ _ _ => Or.inl rfl⟩) fun _ _ => untouched_of_effect).1

/-- Root calls do not name a tenant. -/
theorem acme_untouched : Untouched "acme" (rotationWorld "secret") ended.state := by
  refine untouched_by_others .sample rotationAndLogin (rotationWorld "secret") (fun i => ?_)
    ((Threads.schedule_runs _ _ _ _).trans (Threads.schedule_runs _ _ _ _))
  have hcode : "acme" ≠ rootLoginClientCacheValue := by decide
  cases i with
  | false => exact fun h => h.elim id hcode
  | true => exact fun h => h.elim id hcode

/-- Whatever is stored under a plain key belongs to the user of the key. -/
def WellKeyed (w : World) : Prop :=
  ∀ kind c u t, Plainly c u t → ∀ e, w.redis.lookup (tokenKey kind c u t) = some e →
    BelongsTo kind u e.value

theorem wellKeyed_of_effect {S : Reach} {w w' : World} (h : Effect S w w') (hw : WellKeyed w) :
    WellKeyed w' := by
  intro kind c u t hp e he
  obtain hsame | hgone | ⟨c', v, ttl, -, hv, hput⟩ := lookup_of_effect h (tokenKey kind c u t)
  · exact hw kind c u t hp e (hsame ▸ he)
  · rw [hgone] at he
    cases he
  · rw [hput] at he
    cases he
    exact belongsTo_of_userEntry hp hv

theorem wellKeyed_elapses {T : Nat → Prop} {w w' : World} (h : Elapses T w w')
    (hw : WellKeyed w) : WellKeyed w' := by
  obtain ⟨t, rfl, -⟩ := h
  exact hw

/-- A payload found under an access key is one of its user. -/
theorem WellKeyed.access {w : World} (hw : WellKeyed w) {c u t : String} (hp : Plainly c u t)
    {now : Nat} {v : CacheValue} (h : w.redis.find? now (accessKey c u t) = some v) :
    ∃ q, v = .payload q ∧ q.id = u := by
  obtain ⟨e, he, -, rfl⟩ := Store.find?_eq_some.mp h
  have hbelongs := hw .access c u t hp e he
  unfold BelongsTo at hbelongs
  rwa [if_neg (by decide)] at hbelongs

end NestUserService.Auth.Boundaries
