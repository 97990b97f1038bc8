import NestUserService.Lib.PartialRuns
import NestUserService.Auth.IssuePaths
import NestUserService.Auth.SingleSession

/-!
# Tokens that the next scan finds

A token that was returned is on the blacklist of its namespace until it expires, or has
an access key there for as long. What the calls write within the namespace keeps it so,
and the scan of the user's own call puts every such token on the blacklist.
-/

namespace NestUserService.Auth.NamespaceRevocation

open Lib NestUserService.Core Shared
open SingleSession (TokenLifetimes Lasting Known lasting_put known_sign)

section Keeps

variable (env : Env) (exp : String → Nat) (ns u : String)

/-- The token is expired or on the blacklist of the namespace until it is. -/
def Dead (T : String) (w : World) : Prop := Lasting exp T (blacklistKey ns u T) w

/-- The token is dead, or cached until it expires. -/
def Covered (T : String) (w : World) : Prop :=
  Dead exp ns u T w ∨ Lasting exp T (accessKey ns u T) w

/-- Steps that keep the tokens of `K` dead, or covered. -/
structure Keeps (K : Set String) (w w' : World) : Prop where
  now : w.now ≤ w'.now
  dead : ∀ T ∈ K, Dead exp ns u T w → Dead exp ns u T w'
  covered : ∀ T ∈ K, Covered exp ns u T w → Covered exp ns u T w'

/-- The tokens of `K` have been signed and are covered. -/
structure Live (K : Set String) (w : World) : Prop where
  known : ∀ T ∈ K, Known env exp w.now T
  covered : ∀ T ∈ K, Covered exp ns u T w

/-- An assertion that implies `Live` and that such steps keep. -/
structure Upheld (K : Set String) (P : World → Prop) : Prop where
  live : ∀ w, P w → Live env exp ns u K w
  keeps : ∀ w w', P w → Keeps exp ns u K w w' → P w'

/-- A write within the namespace: what is written on the blacklist or as an access key
lasts for the lifetime of a token. -/
def SafePut (k : String) (v : CacheValue) (ttl : Nat) : Prop :=
  ∃ kind id t, k = tokenKey kind ns id t ∧
    (kind = .blacklist ∨ kind = .access → v.truthy = true ∧ env.accessTokenExpire * 1000 ≤ ttl)

variable {env exp ns u} {K : Set String} {P : World → Prop} {w w' w'' : World}

theorem Keeps.refl (w : World) : Keeps exp ns u K w w := ⟨Nat.le_refl _, fun _ _ h => h, fun _ _ h => h⟩

theorem Keeps.trans (w w' w'' : World) (h : Keeps exp ns u K w w') (h' : Keeps exp ns u K w' w'') :
    Keeps exp ns u K w w'' :=
  ⟨h.now.trans h'.now, fun T hT hd => h'.dead T hT (h.dead T hT hd),
    fun T hT hc => h'.covered T hT (h.covered T hT hc)⟩

theorem Keeps.subset {K' : Set String} (h : Keeps exp ns u K' w w') (hK : K ⊆ K') :
    Keeps exp ns u K w w' :=
  ⟨h.now, fun T hT => h.dead T (hK hT), fun T hT => h.covered T (hK hT)⟩

/-- It is enough to look at the two keys of every token. -/
theorem keeps_of_keys (hnow : w.now ≤ w'.now)
    (hdead : ∀ T ∈ K, w'.redis.lookup (blacklistKey ns u T) = w.redis.lookup (blacklistKey ns u T) ∨
      Dead exp ns u T w')
    (haccess : ∀ T ∈ K, w'.redis.lookup (accessKey ns u T) = w.redis.lookup (accessKey ns u T) ∨
      Covered exp ns u T w') : Keeps exp ns u K w w' := by
  have hkeep (T : String) (hT : T ∈ K) (hd : Dead exp ns u T w) : Dead exp ns u T w' := by
    rcases hdead T hT with he | hd'
    · exact hd.mono hnow he
    · exact hd'
  refine ⟨hnow, hkeep, fun T hT hc => ?_⟩
  rcases haccess T hT with he | hc'
  · exact hc.imp (hkeep T hT) fun ha => ha.mono hnow he
  · exact hc'

theorem keeps_of_redis (hnow : w.now ≤ w'.now) (h : w'.redis = w.redis) :
    Keeps exp ns u K w w' :=
  keeps_of_keys hnow (fun _ _ => Or.inl (by rw [h])) fun _ _ => Or.inl (by rw [h])

theorem keeps_of_elapses (w w' : World) (h : Elapses (fun _ => True) w w') :
    Keeps exp ns u K w w' := by
  obtain ⟨t, rfl, hle, -⟩ := h
  exact keeps_of_redis hle rfl

theorem keeps_of_idle (w w' : World) (h : Idle w w') : Keeps exp ns u K w w' :=
  keeps_of_redis h.now.ge h.redis

theorem Upheld.stable (hP : Upheld env exp ns u K P) : Async.Stable (Elapses fun _ => True) P :=
  fun w w' hr h => hP.keeps w w' h (keeps_of_elapses w w' hr)

theorem upheld_live : Upheld env exp ns u K (Live env exp ns u K) :=
  ⟨fun _ h => h, fun _ _ h hk => ⟨fun T hT => (h.known T hT).mono hk.now,
    fun T hT => hk.covered T hT (h.covered T hT)⟩⟩

/-- Assertions that only become truer with time can be added. -/
theorem Upheld.and {R : World → Prop} (hP : Upheld env exp ns u K P)
    (hR : ∀ w w', w.now ≤ w'.now → R w → R w') : Upheld env exp ns u K fun w => P w ∧ R w :=
  ⟨fun w h => hP.live w h.1, fun w w' h hk => ⟨hP.keeps w w' h.1 hk, hR w w' hk.now h.2⟩⟩

/-- All tokens of `K` are dead. -/
def AllDead (exp : String → Nat) (ns u : String) (K : Set String) (w : World) : Prop :=
  ∀ T ∈ K, Dead exp ns u T w

theorem Upheld.and_dead (hP : Upheld env exp ns u K P) :
    Upheld env exp ns u K fun w => P w ∧ AllDead exp ns u K w :=
  ⟨fun w h => hP.live w h.1, fun w w' h hk =>
    ⟨hP.keeps w w' h.1 hk, fun T hT => hk.dead T hT (h.2 T hT)⟩⟩

/-- A safe write keeps what is covered, and renews it where it writes one of the keys. -/
theorem keeps_put (hid : NoColon u) (h : Live env exp ns u K w) {k : String} {v : CacheValue}
    {ttl : Nat} (hput : SafePut env ns k v ttl) (hnow : w'.now = w.now)
    (hredis : w'.redis = w.redis.put k (Entry.stamp v w.now ttl)) : Keeps exp ns u K w w' := by
  obtain ⟨kind, id, t, rfl, hlasts⟩ := hput
  have hwritten {kind' : Kind} {T : String} (hT : T ∈ K)
      (hkey : tokenKey kind ns id t = tokenKey kind' ns u T)
      (hkind : kind' = .blacklist ∨ kind' = .access) : Lasting exp T (tokenKey kind' ns u T) w' := by
    obtain ⟨rfl, -, -⟩ := tokenKey_unique_of_code hid (h.known T hT).noColon hkey
    obtain ⟨hv, httl⟩ := hlasts hkind
    refine Or.inr ⟨v, w.now, ttl, hv, ?_, (h.known T hT).lasts httl⟩
    rw [hredis, hkey, Store.lookup_put_self]
  have hother {k : String} (hk : tokenKey kind ns id t ≠ k) :
      w'.redis.lookup k = w.redis.lookup k := by
    rw [hredis, Store.lookup_put_ne _ _ (Ne.symm hk)]
  refine keeps_of_keys hnow.ge (fun T hT => ?_) fun T hT => ?_
  · unfold Dead
    rw [blacklistKey_eq]
    by_cases hk : tokenKey kind ns id t = tokenKey .blacklist ns u T
    · exact Or.inr (hwritten hT hk (Or.inl rfl))
    · exact Or.inl (hother hk)
  · unfold Covered
    rw [accessKey_eq]
    by_cases hk : tokenKey kind ns id t = tokenKey .access ns u T
    · exact Or.inr (Or.inr (hwritten hT hk (Or.inr rfl)))
    · exact Or.inl (hother hk)

/-- The deletions of a login for another user keep everything. -/
theorem keeps_del_other (hns : Glob.Plain ns) (hid : NoColon u) (h : Live env exp ns u K w)
    {id k : String} (hplain : Glob.Plain id) (hne : id ≠ u) (hk : ClearDel ns id k)
    (hnow : w'.now = w.now) (hredis : w'.redis = w.redis.del k) : Keeps exp ns u K w w' := by
  have hkey (kind : Kind) {T : String} (hT : T ∈ K) : tokenKey kind ns u T ≠ k := by
    rintro rfl
    rcases tokenKey_of_clearDel hns hplain hk with ⟨r, hr⟩ | ⟨r, hr⟩
    · have hsame : tokenKey .access ns id r = tokenKey kind ns u T := hr.symm
      exact hne (tokenKey_unique_of_code hid (h.known T hT).noColon hsame).2.1
    · have hsame : tokenKey .refresh ns id r = tokenKey kind ns u T := hr.symm
      exact hne (tokenKey_unique_of_code hid (h.known T hT).noColon hsame).2.1
  refine keeps_of_keys hnow.ge (fun T hT => Or.inl ?_) fun T hT => Or.inl ?_
  · rw [hredis, blacklistKey_eq]
    exact Store.lookup_del_ne _ (hkey .blacklist hT)
  · rw [hredis, accessKey_eq]
    exact Store.lookup_del_ne _ (hkey .access hT)

/-- The deletions of a login for the user itself keep dead tokens dead. -/
theorem keeps_del_self (hns : Glob.Plain ns) (hu : Glob.Plain u) {k : String}
    (hdead : AllDead exp ns u K w) (hk : ClearDel ns u k) (hnow : w'.now = w.now)
    (hredis : w'.redis = w.redis.del k) : Keeps exp ns u K w w' := by
  have hkept (T : String) (hT : T ∈ K) : Dead exp ns u T w' := by
    refine (hdead T hT).mono hnow.ge ?_
    rw [hredis]
    refine Store.lookup_del_ne _ ?_
    rintro rfl
    exact not_tokenKey_blacklistKey _ _ _ (tokenKey_of_clearDel hns hu hk)
  exact ⟨hnow.ge, fun T hT _ => hkept T hT, fun T hT _ => Or.inl (hkept T hT)⟩

end Keeps

section Programs

variable {env : Env} {exp : String → Nat} {ns u : String} {K : Set String} {P : World → Prop}
  {α : Type} {D : String → Prop}

/-- The program writes within the namespace, safely, and deletes what is allowed. -/
def WritesSafely (env : Env) (ns : String) (del : String → Prop) (x : App α) : Prop :=
  Steps (Revocation.cacheScope (SafePut env ns) del) x

/-- Such a program keeps the tokens, when its deletions do. -/
theorem Upheld.moves (hP : Upheld env exp ns u K P) (hid : NoColon u) {x : App α}
    (hx : WritesSafely env ns D x)
    (hdel : ∀ w w' k, P w → D k → w'.now = w.now → w'.redis = w.redis.del k →
      Keeps exp ns u K w w') {w : World} (hw : P w) :
    Async.Moves (Elapses fun _ => True) (Keeps exp ns u K) (fun _ => P) x w := by
  have hkeeps (w w' : World) (hw : P w)
      (hs : Step (Revocation.cacheScope (SafePut env ns) D) w w') : Keeps exp ns u K w w' := by
    rcases hs.redis with he | ⟨k, v, ttl, hput, he⟩ | ⟨k, hk, he⟩
    · exact keeps_of_redis hs.now.ge he
    · exact keeps_put hid (hP.live w hw) hput hs.now he
    · exact hdel w w' k hw hk hs.now he
  refine ((Async.Guarantees.moves hx w).keep hP.stable (fun w w' hw hs => ?_) hw).mono
    fun _ _ h => h.2
  exact ⟨hkeeps w w' hw hs, hP.keeps w w' hw (hkeeps w w' hw hs)⟩

theorem safePut_blacklist (hT : TokenLifetimes env exp) (id : String) (k : String) (v : CacheValue)
    (ttl : Nat) (h : BlacklistPut env ns id k v ttl) : SafePut env ns k v ttl := by
  obtain ⟨⟨t, -, rfl⟩, rfl, rfl⟩ := h
  exact ⟨.blacklist, id, t, blacklistKey_eq ns id t, fun _ => ⟨rfl, hT.blacklist⟩⟩

theorem safely_blacklist (hT : TokenLifetimes env exp) (id : String) :
    WritesSafely env ns D (setUserAccessTokenBlacklistCache env ns id) :=
  steps_blacklist env ns id (safePut_blacklist hT id)

theorem safely_setAccess (hT : TokenLifetimes env exp) (id t : String) (p : TokenCachePayload) :
    WritesSafely env ns D (setUserAccessTokenCache env ns id t (.payload p)) :=
  Steps.set ⟨.access, id, t, accessKey_eq ns id t, fun _ => ⟨rfl, hT.access⟩⟩

theorem safely_setRefresh (env : Env) (ns id t : String) (v : CacheValue) :
    WritesSafely env ns D (setUserRefreshTokenCache env ns id t v) := by
  refine Steps.set ⟨.refresh, id, t, refreshKey_eq ns id t, fun h => ?_⟩
  rcases h with h | h <;> cases h

theorem safely_setAll (hT : TokenLifetimes env exp) (id t r : String) (p : TokenCachePayload) :
    WritesSafely env ns D (setUserAllTokenCache env ns id t r (.payload p)) :=
  Steps.bind (safely_setAccess hT id t p) fun _ =>
    Steps.bind (safely_setRefresh env ns id r _) fun _ => Steps.pure _

/-- The end of both logins: a session is created and stored. -/
def storeSession (env : Env) (ns : String) (user : UserInfo) (ip : String) (create : App Minted) :
    App LoginResponse := do
  let minted ← create
  setUserAllTokenCache env ns user.id minted.accessToken minted.refreshToken
    (minted.payload user ip)
  return minted.response none

/-- The tenant's two awaits that mint the tokens and create the row. -/
def tenantCreateSession (env : Env) (ns : String) (user : UserInfo) (ip : String) : App Minted := do
  let minted ← Async.await (do
    let minted ← mint env user
    getTenantClient ns
    return minted)
  Async.await (writeTenant ns fun db => db.createRefreshToken (minted.row user.id ip))
  return minted

theorem tenantGenerateTokens_store (env : Env) (ns : String) (user : UserInfo) (ip : String) :
    tenantGenerateTokens env ns user ip =
      storeSession env ns user ip (tenantCreateSession env ns user ip) := by
  unfold tenantGenerateTokens storeSession tenantCreateSession
  simp only [Async.bind_assoc, Async.pure_bind]

/-- The program mints an access token, and moves neither the clock nor the cache. -/
def Mints (env : Env) (exp : String → Nat) (create : App Minted) : Prop :=
  ∀ w, Async.Moves (Elapses fun _ => True) Idle
    (fun minted w' => Known env exp w'.now minted.accessToken) create w

theorem idle_createSession (env : Env) (user : UserInfo) (ip : String) (w : World) :
    Idle w (finalState (SingleSession.createSession env user ip w)) := by
  simp only [SingleSession.createSession, mint, sync_bind, clock_apply, uuidv4_apply, sync_pure,
    writeRoot_apply]
  cases w.root.createRefreshToken _ <;> exact ⟨rfl, rfl⟩

theorem createSession_token {user : UserInfo} {ip : String} {w w' : World} {m : Minted}
    (h : SingleSession.createSession env user ip w = .ok m w') :
    m.accessToken = env.sign (.user user) (w.now / 1000) := by
  simp only [SingleSession.createSession, mint, sync_bind, clock_apply, uuidv4_apply, sync_pure,
    writeRoot_apply] at h
  cases hcreate : w.root.createRefreshToken _ with
  | error e =>
    rw [hcreate] at h
    cases h
  | ok db =>
    rw [hcreate] at h
    cases h
    rfl

theorem mints_root (hT : TokenLifetimes env exp) (user : UserInfo) (ip : String) :
    Mints env exp (Async.await (SingleSession.createSession env user ip)) := by
  intro w
  refine Async.Moves.await (P := fun _ => True) (fun _ _ _ h => h) trivial fun v _ => ?_
  have hidle := idle_createSession env user ip v
  refine ⟨hidle, fun m v' h => ?_⟩
  rw [h, finalState_ok] at hidle
  rw [createSession_token h, hidle.now]
  exact known_sign hT _ v.now

theorem mints_tenant (hT : TokenLifetimes env exp) (ns : String) (user : UserInfo) (ip : String) :
    Mints env exp (tenantCreateSession env ns user ip) := by
  intro w
  refine Async.Moves.bind (Q := fun m v => Known env exp v.now m.accessToken)
    (Async.Moves.await (P := fun _ => True) (fun _ _ _ h => h) trivial fun v _ => ?_)
    fun m v hm => ?_
  · simp only [mint, getTenantClient, sync_bind, clock_apply, uuidv4_apply, sync_pure]
    cases v.tenants ns with
    | none => exact ⟨⟨rfl, rfl⟩, fun m v' h => by cases h⟩
    | some db =>
      refine ⟨⟨rfl, rfl⟩, fun m v' h => ?_⟩
      cases h
      exact known_sign hT _ v.now
  · have hlater (v v' : World) (h : Elapses (fun _ => True) v v')
        (hk : Known env exp v.now m.accessToken) : Known env exp v'.now m.accessToken := by
      obtain ⟨t, rfl, hle, -⟩ := h
      exact hk.mono hle
    refine Async.Moves.bind (Q := fun _ v => Known env exp v.now m.accessToken)
      (Async.Moves.await hlater hm fun v hv => ?_) fun _ v hv => Async.Moves.pure hv
    have hidle := idle_writeTenant ns (fun db => db.createRefreshToken (m.row user.id ip)) v
    refine ⟨hidle, fun _ v' h => ?_⟩
    rw [h, finalState_ok] at hidle
    rwa [hidle.now]

/-- The blacklist loop at work: the tokens of `K` are dead, or their access keys still
come. -/
def Marking (exp : String → Nat) (ns u : String) (K : Set String) (P : World → Prop)
    (p : String → Prop) (w : World) : Prop :=
  P w ∧ ∀ T ∈ K, Dead exp ns u T w ∨ p (accessKey ns u T)

theorem Marking.stable (hP : Upheld env exp ns u K P) (p : String → Prop) :
    Async.Stable (Elapses fun _ => True) (Marking exp ns u K P p) :=
  fun w w' hr h => ⟨hP.stable w w' hr h.1,
    fun T hT => (h.2 T hT).imp ((keeps_of_elapses w w' hr).dead T hT) id⟩

theorem Marking.weaken {p q : String → Prop} {w : World} (h : Marking exp ns u K P p w)
    (hpq : ∀ T ∈ K, p (accessKey ns u T) → q (accessKey ns u T)) : Marking exp ns u K P q w :=
  ⟨h.1, fun T hT => (h.2 T hT).imp id (hpq T hT)⟩

/-- A covered token that is not dead has a live access key. -/
theorem Live.dead_or_live {w : World} (h : Live env exp ns u K w) {T : String} (hT : T ∈ K) :
    Dead exp ns u T w ∨ (w.redis.find? w.now (accessKey ns u T)).isSome = true := by
  rcases h.covered T hT with hd | hc
  · exact Or.inl hd
  · by_cases hlive : w.now / 1000 < exp T
    · obtain ⟨v, -, hv⟩ := hc.found hlive
      exact Or.inr (by rw [hv]; rfl)
    · exact Or.inl (Or.inl (Nat.le_of_not_lt hlive))

theorem moves_blacklistFound (hT : TokenLifetimes env exp) (hid : NoColon u)
    (hP : Upheld env exp ns u K P) (later : String → Prop) (key : String) (keys : List String)
    {w : World} (hw : Marking exp ns u K P (fun k => k ∈ key :: keys ∨ later k) w) :
    Async.Moves (Elapses fun _ => True) (Keeps exp ns u K)
      (fun _ => Marking exp ns u K P fun k => k ∈ keys ∨ later k)
      (blacklistFound env ns u key) w := by
  unfold blacklistFound
  refine Async.Moves.ite (fun _ => ?_) fun ht => ?_
  · refine Async.Moves.await (Marking.stable hP _) hw fun v hv => ?_
    rw [cacheSet_marking]
    have hput : SafePut env ns (blacklistKey ns u (tokenOfKey key)) (.text "blacklisted")
        (blacklistTtl env) :=
      safePut_blacklist hT u _ _ _ ⟨⟨_, noColon_tokenOfKey key, rfl⟩, rfl, rfl⟩
    have hkeeps : Keeps exp ns u K v (marking env ns u key v) :=
      keeps_put hid (hP.live v hv.1) hput rfl rfl
    refine ⟨hkeeps, fun _ v' he => ?_⟩
    cases he
    refine ⟨hP.keeps _ _ hv.1 hkeeps, fun T hTK => ?_⟩
    have hknown := (hP.live v hv.1).known T hTK
    rcases hv.2 T hTK with hd | hk | hl
    · exact Or.inl (hkeeps.dead T hTK hd)
    · rcases List.mem_cons.mp hk with rfl | hk
      · -- The key of the token itself: the write puts it on the blacklist.
        left
        unfold Dead marking
        rw [tokenOfKey_accessKey hknown.noColon]
        exact lasting_put rfl (hknown.lasts hT.blacklist)
      · exact Or.inr (Or.inl hk)
    · exact Or.inr (Or.inr hl)
  · rw [not_not] at ht
    refine Async.Moves.pure (hw.weaken fun T hTK => Or.imp (fun hk => ?_) id)
    have hknown := (hP.live w hw.1).known T hTK
    refine (List.mem_cons.mp hk).resolve_left fun he => hknown.ne ?_
    rwa [← he, tokenOfKey_accessKey hknown.noColon] at ht

theorem moves_blacklistReply (hT : TokenLifetimes env exp) (hns : Glob.Plain ns)
    (hu : Glob.Plain u) (hid : NoColon u) (hP : Upheld env exp ns u K P) (r : String → Bool)
    (rs : List (String → Bool)) {w : World}
    (hw : Marking exp ns u K P (fun k => ∃ r' ∈ r :: rs, r' k = true) w) :
    Async.Moves (Elapses fun _ => True) (Keeps exp ns u K)
      (fun _ => Marking exp ns u K P fun k => ∃ r' ∈ rs, r' k = true)
      (blacklistReply env ns u r) w := by
  refine Async.Moves.bind (Q := fun keys => Marking exp ns u K P fun k => k ∈ keys ∨
    ∃ r' ∈ rs, r' k = true) ?_ fun keys v hv => ?_
  · refine Async.Moves.await (Marking.stable hP _) hw fun v hv => ⟨Keeps.refl v, fun keys v' he => ?_⟩
    cases he
    refine ⟨hv.1, fun T hTK => ?_⟩
    rcases (hP.live v hv.1).dead_or_live hTK with hd | hl
    · exact Or.inl hd
    · refine (hv.2 T hTK).imp id ?_
      rintro ⟨r', hr', hk⟩
      rcases List.mem_cons.mp hr' with rfl | hr'
      · left
        rw [pattern_star]
        exact (mem_reply (plain_accessPattern hns hu)).mpr ⟨hl, hk, hasPrefix_accessKey _ _ _⟩
      · exact Or.inr ⟨r', hr', hk⟩
  · refine (Async.Moves.forM (I := fun keys => Marking exp ns u K P fun k => k ∈ keys ∨
      ∃ r' ∈ rs, r' k = true) (fun key l v hv => moves_blacklistFound hT hid hP _ key l hv)
      keys hv).mono fun _ v hv => hv.weaken fun T _ hk => ?_
    exact hk.resolve_left List.not_mem_nil

/-- The scan finds every token that is not dead. -/
theorem moves_blacklist (hT : TokenLifetimes env exp) (hns : Glob.Plain ns) (hu : Glob.Plain u)
    (hid : NoColon u) (hP : Upheld env exp ns u K P) {w : World} (hw : P w) :
    Async.Moves (Elapses fun _ => True) (Keeps exp ns u K)
      (fun _ w => P w ∧ AllDead exp ns u K w) (setUserAccessTokenBlacklistCache env ns u) w := by
  refine Async.Moves.bind (Q := fun plan => Marking exp ns u K P fun k =>
    ∃ r ∈ plan.replies, r k = true) ?_ fun plan v hv => ?_
  · refine Async.Moves.await hP.stable hw fun v hv => ?_
    have hkeeps : Keeps exp ns u K v { v with draws := v.draws + 1 } :=
      keeps_of_redis (Nat.le_refl _) rfl
    refine ⟨hkeeps, fun plan v' he => ?_⟩
    cases he
    exact ⟨hP.keeps _ _ hv hkeeps, fun T _ => Or.inr ((env.scanPlan v.draws).covers _)⟩
  · refine (Async.Moves.forM (I := fun rs => Marking exp ns u K P fun k => ∃ r ∈ rs, r k = true)
      (fun r rs v hv => moves_blacklistReply hT hns hu hid hP r rs hv) plan.replies hv).mono
      fun _ v hv => ⟨hv.1, fun T hTK => (hv.2 T hTK).resolve_right ?_⟩
    rintro ⟨r, hr, -⟩
    exact List.not_mem_nil hr

end Programs

end NestUserService.Auth.NamespaceRevocation
