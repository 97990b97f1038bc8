import Mathlib.Data.Set.Basic
import NestUserService.Shared.CacheSteps
import NestUserService.Tenant.ClientSteps

/-!
# Tenant clients connect to their own URL

A URL reaches a client through the root row, the Redis key of the code and the map of
clients. The keys of tokens share the Redis key space and are built from untrusted text;
they never meet the key of a URL.
-/

namespace NestUserService.Tenant

open Lib NestUserService.Core Shared

theorem tenantDbUrlKey_inj {c c' : String} (h : tenantDbUrlKey c = tenantDbUrlKey c') : c = c' :=
  (String.append_right_inj _).mp ((String.append_left_inj _).mp h)

/-- Keys of URLs and keys of tokens differ in their first letter. -/
theorem tenantDbUrlKey_ne_tokenKey (c : String) (kind : Kind) (c' u t : String) :
    tenantDbUrlKey c ≠ tokenKey kind c' u t := by
  intro h
  have hl := congrArg String.toList h
  rw [tokenKey_pieces] at hl
  simp only [tenantDbUrlKey, String.toList_append, List.append_assoc] at hl
  exact absurd (List.cons.inj hl).1 (by decide)

/-- A text without a colon, as ULIDs, UUIDs and JWTs are. -/
def Colonless := { s : String // NoColon s }

/-- What a key of the token cache is built from. -/
structure TokenEntry where
  kind : Kind
  clientCode : String
  userId : Colonless
  token : Colonless

/-- The key that `CustomCacheService` uses for the entry. -/
def TokenEntry.key (e : TokenEntry) : String :=
  match e.kind with
  | .access => accessKey e.clientCode e.userId.val e.token.val
  | .refresh => refreshKey e.clientCode e.userId.val e.token.val
  | .device => deviceKey e.clientCode e.userId.val e.token.val
  | .blacklist => blacklistKey e.clientCode e.userId.val e.token.val

theorem TokenEntry.key_eq (e : TokenEntry) :
    e.key = tokenKey e.kind e.clientCode e.userId.val e.token.val := by
  obtain ⟨kind, c, u, t⟩ := e
  cases kind
  · exact accessKey_eq c u.val t.val
  · exact refreshKey_eq c u.val t.val
  · exact deviceKey_eq c u.val t.val
  · exact blacklistKey_eq c u.val t.val

/-- Entries of any kinds and any namespaces share no key with each other or with a URL,
and no two URLs share one. -/
theorem cacheKeys_injective :
    Function.Injective TokenEntry.key ∧ Function.Injective tenantDbUrlKey ∧
      ∀ (e : TokenEntry) (c : String), e.key ≠ tenantDbUrlKey c := by
  refine ⟨?_, fun _ _ => tenantDbUrlKey_inj, ?_⟩
  · intro e e' h
    rw [e.key_eq, e'.key_eq] at h
    obtain ⟨hkind, hcode, hid, htoken⟩ :=
      tokenKey_inj e.userId.property e'.userId.property e.token.property e'.token.property h
    cases e
    cases e'
    have hu := Subtype.ext hid
    have ht := Subtype.ext htoken
    subst hkind hcode hu ht
    rfl
  · intro e c h
    rw [e.key_eq] at h
    exact tenantDbUrlKey_ne_tokenKey c _ _ _ _ h.symm

/-- A write under a key that `CustomCacheService` builds for a token. -/
def TokenPut (k : String) (_ : CacheValue) (_ : Nat) : Prop := ∃ kind c u t, k = tokenKey kind c u t

/-- A step of the token cache; it may delete any key. -/
def TokenStep : World → World → Prop := CacheStep TokenPut fun _ => True

section TokenCache

variable (env : Env) (c u : String)

theorem tokenStep_of_step {P : String → CacheValue → Nat → Prop} {D : String → Prop}
    (hput : ∀ k v ttl, P k v ttl → TokenPut k v ttl) {w w' : World} (h : CacheStep P D w w') :
    TokenStep w w' := by
  cases h with
  | keep n => exact .keep w n
  | put k v ttl h => exact .put w k v ttl (hput k v ttl h)
  | del k h => exact .del w k trivial

theorem blacklist_tokenSteps :
    Async.Guarantees TokenStep (fun _ => True) (setUserAccessTokenBlacklistCache env c u) := by
  refine (guarantees_blacklist (D := NoDel) env c u).mono
    (fun _ _ => tokenStep_of_step fun k v ttl h => ?_) fun _ h => h
  obtain ⟨⟨t, -, rfl⟩, -, -⟩ := h
  exact ⟨.blacklist, c, u, t, rfl⟩

theorem setAll_tokenSteps (accessToken refreshToken : String) (value : CacheValue)
    (deviceToken : Option String) (ttl : Option Nat) :
    Async.Guarantees TokenStep (fun _ => True)
      (setUserAllTokenCache env c u accessToken refreshToken value deviceToken ttl) := by
  refine (guarantees_setAll (D := NoDel) env c u _ _ value _ _).mono
    (fun _ _ => tokenStep_of_step fun k v ttl h => ?_) fun _ h => h
  obtain ⟨-, t, rfl | rfl | rfl⟩ := h
  · exact ⟨.access, c, u, t, rfl⟩
  · exact ⟨.refresh, c, u, t, rfl⟩
  · exact ⟨.device, c, u, t, rfl⟩

theorem setAccess_tokenSteps (token : String) (value : CacheValue) (ttl : Option Nat) :
    Async.Guarantees TokenStep (fun _ => True)
      (setUserAccessTokenCache env c u token value ttl) :=
  guarantees_cacheSet ⟨.access, c, u, token, rfl⟩

theorem setRefresh_tokenSteps (token : String) (value : CacheValue) (ttl : Option Nat) :
    Async.Guarantees TokenStep (fun _ => True)
      (setUserRefreshTokenCache env c u token value ttl) :=
  guarantees_cacheSet ⟨.refresh, c, u, token, rfl⟩

theorem setDevice_tokenSteps (token : String) (value : CacheValue) (ttl : Option Nat) :
    Async.Guarantees TokenStep (fun _ => True)
      (setUserDeviceTokenCache env c u token value ttl) :=
  guarantees_cacheSet ⟨.device, c, u, token, rfl⟩

theorem clear_tokenSteps :
    Async.Guarantees TokenStep (fun _ => True) (clearUserAllTokenCaches env c u) :=
  (guarantees_clear (P := NoPut) env c u).mono
    (fun _ _ => tokenStep_of_step fun _ _ _ h => h.elim) fun _ h => h

end TokenCache

inductive Around (env : Config) : Host → Host → Prop
  | cleanup (s : Host) : Around env s (cleanupIdleClients env s)
  /-- Any change of the root rows. -/
  | rows (s : Host) (client : Table Client) : Around env s { s with client }
  /-- Time passes, and entries of Redis expire. -/
  | clock (s : Host) (t : Nat) : Around env s { s with now := t }
  | tokens {s : Host} {w w' : World} (h : TokenStep w w') (hredis : w.redis = s.redis) :
      Around env s { s with redis := w'.redis }
  /-- Any change of databases and files. -/
  | server (s : Host) (databases : String → Option TenantDb) (schemaFile : Schema)
      (envFile : List (String × String)) (generated : List String) :
      Around env s { s with databases, schemaFile, envFile, generated }

section Observer

variable {ι : Type} [DecidableEq ι]

/-- The URLs that the root row of a code holds. -/
def rowUrls (s : Host) (c : String) : Set String :=
  {u | ∃ row ∈ s.client.rows, row.clientCode = c ∧ row.dbUrl = some u}

/-- Notes for every code which URLs its root row has held. -/
def noteUrls (_ : Option ι) (_ p' : Threads Host Exn PrismaClient ι)
    (held : String → Set String) : String → Set String :=
  fun c => held c ∪ rowUrls p'.state c

/-- What the observer knows at the start: the URLs in the rows, in Redis and in the map of
clients were in the row of their code. -/
structure Known (s : Host) (held : String → Set String) : Prop where
  rows : ∀ c, rowUrls s c ⊆ held c
  redis : ∀ c e, s.redis.lookup (tenantDbUrlKey c) = some e → ∃ u ∈ held c, e.value = .text u
  clients : ∀ c client, s.clientMap.get? c = some client → ∃ u ∈ held c, client.url = .text u

/-- A step of the token cache leaves the keys of URLs alone, or deletes them. -/
theorem tokenStep_lookup {w w' : World} (h : TokenStep w w') {c : String} {e : Entry CacheValue}
    (he : w'.redis.lookup (tenantDbUrlKey c) = some e) :
    w.redis.lookup (tenantDbUrlKey c) = some e := by
  cases h with
  | keep n => exact he
  | put k v ttl hk =>
    obtain ⟨kind, c', u, t, rfl⟩ := hk
    rwa [Store.lookup_put_ne _ _ (tenantDbUrlKey_ne_tokenKey c kind c' u t)] at he
  | del k hk =>
    by_cases hkey : tenantDbUrlKey c = k
    · subst hkey
      rw [Store.lookup_del_self] at he
      cases he
    · rwa [Store.lookup_del_ne _ hkey] at he

theorem get?_client_dropAll {s : Host} {keys : List String} {c : String} {client : PrismaClient}
    (h : (s.dropAll keys).clientMap.get? c = some client) : s.clientMap.get? c = some client := by
  rw [s.clientMap_dropAll, OrderedMap.get?_deleteAll] at h
  by_cases hc : c ∈ keys
  · rw [if_pos hc] at h
    cases h
  · rwa [if_neg hc] at h

theorem Known.around {env : Config} {s s' : Host} {held : String → Set String} (h : Known s held)
    (henv : Around env s s') : Known s' fun c => held c ∪ rowUrls s' c := by
  constructor
  · exact fun c => Set.subset_union_right
  · intro c e he
    have hold : s.redis.lookup (tenantDbUrlKey c) = some e := by
      cases henv with
      | cleanup =>
        obtain ⟨m, l, d, hframe⟩ := cleanupIdleClients_frame env s
        rwa [hframe] at he
      | rows client => exact he
      | clock t => exact he
      | tokens hstep hredis =>
        rw [← hredis]
        exact tokenStep_lookup hstep he
      | server => exact he
    obtain ⟨u, hu, hv⟩ := h.redis c e hold
    exact ⟨u, Or.inl hu, hv⟩
  · intro c client hget
    have hold : s.clientMap.get? c = some client := by
      cases henv with
      | cleanup =>
        rw [cleanupIdleClients_eq] at hget
        exact get?_client_dropAll hget
      | rows => exact hget
      | clock t => exact hget
      | tokens hstep hredis => exact hget
      | server => exact hget
    obtain ⟨u, hu, hv⟩ := h.clients c client hold
    exact ⟨u, Or.inl hu, hv⟩

/-- The URL that a call carries at a control point, and the client it returns, are from
the row of its code. -/
def Pc.Carries (urls : Set String) : Pc → Prop
  | .start => True
  | .readDbUrlCache _ => True
  | .lookupDbUrl _ => True
  | .fillDbUrlCache _ u => u ∈ urls
  | .loadClient _ url => ∃ u ∈ urls, url = .text u
  | .openClient _ url => ∃ u ∈ urls, url = .text u
  | .storeClient _ client => ∃ u ∈ urls, client.url = .text u
  | .returned client => ∃ u ∈ urls, client.url = .text u
  | .thrown _ => True

theorem Pc.Carries.mono {urls urls' : Set String} {pc : Pc} (h : pc.Carries urls)
    (hsub : urls ⊆ urls') : pc.Carries urls' := by
  have hex {P : String → Prop} : (∃ u ∈ urls, P u) → ∃ u ∈ urls', P u :=
    fun ⟨u, hu, hp⟩ => ⟨u, hsub hu, hp⟩
  cases pc with
  | start => trivial
  | readDbUrlCache now => trivial
  | lookupDbUrl now => trivial
  | fillDbUrlCache now u => exact hsub h
  | loadClient now url => exact hex h
  | openClient now url => exact hex h
  | storeClient now client => exact hex h
  | returned client => exact hex h
  | thrown e => trivial

/-- What a call learns it learns from the row, the key or the entry of its own code. -/
theorem Pc.Carries.move {env : Config} {c : String} {pc pc' : Pc} {s s' : Host}
    {held : String → Set String} (hpc : pc.Carries (held c)) (h : Known s held)
    (hmove : Move env c pc s pc' s') : pc'.Carries (held c) := by
  cases hmove with
  | hit hget => exact h.clients c _ hget
  | miss => trivial
  | cached hfind =>
    obtain ⟨e, he, -, rfl⟩ := Store.find?_eq_some.mp hfind
    exact h.redis c e he
  | uncached => trivial
  | found hrow hcode hurl => exact h.rows c ⟨_, hrow, hcode, hurl⟩
  | filled => exact ⟨_, hpc, rfl⟩
  | loaded => exact hpc
  | opened => exact hpc
  | stored => exact hpc
  | failed => trivial

theorem Known.move {env : Config} {c : String} {pc pc' : Pc} {s s' : Host}
    {held : String → Set String} (h : Known s held) (hpc : pc.Carries (held c))
    (hmove : Move env c pc s pc' s') : Known s' held := by
  have hquiet (n m : Nat) : Known { s with operations := n, constructed := m } held :=
    ⟨h.rows, h.redis, h.clients⟩
  cases hmove with
  | hit => exact ⟨h.rows, h.redis, h.clients⟩
  | miss => exact h
  | cached => exact hquiet _ _
  | uncached => exact hquiet _ _
  | found => exact hquiet _ _
  | loaded => exact hquiet _ _
  | opened => exact hquiet _ _
  | failed => exact hquiet _ _
  | @filled _ now url =>
    refine ⟨h.rows, fun c' e he => ?_, h.clients⟩
    by_cases hc : c' = c
    · subst hc
      rw [Store.lookup_put_self, Option.some.injEq] at he
      exact ⟨url, hpc, he ▸ rfl⟩
    · rw [Store.lookup_put_ne _ _ fun hk => hc (tenantDbUrlKey_inj hk)] at he
      exact h.redis c' e he
  | @stored _ now client =>
    obtain ⟨m, l, d, hframe⟩ := makeRoom_frame env s
    constructor
    · intro c' u hu
      unfold cacheClient at hu
      rw [hframe] at hu
      exact h.rows c' hu
    · intro c' e he
      unfold cacheClient at he
      rw [hframe] at he
      exact h.redis c' e he
    · intro c' client' hget
      change ((makeRoom env s).clientMap.set c client).get? c' = some client' at hget
      by_cases hc : c' = c
      · subst hc
        rw [OrderedMap.get?_set_self, Option.some.injEq] at hget
        exact hget ▸ hpc
      · rw [OrderedMap.get?_set_ne _ _ hc, makeRoom_eq] at hget
        exact h.clients c' client' (get?_client_dropAll hget)

theorem Known.later {s : Host} {held : String → Set String} (h : Known s held) :
    Known s fun c => held c ∪ rowUrls s c := by
  constructor
  · exact fun c => Set.subset_union_right
  · intro c e he
    obtain ⟨u, hu, hv⟩ := h.redis c e he
    exact ⟨u, Or.inl hu, hv⟩
  · intro c client hget
    obtain ⟨u, hu, hv⟩ := h.clients c client hget
    exact ⟨u, Or.inl hu, hv⟩

def Isolated (code : ι → String) (s : Host) (pcs : ι → Pc) (held : String → Set String) : Prop :=
  Known s held ∧ ∀ i, (pcs i).Carries (held (code i))

theorem Isolated.call {env : Config} {code : ι → String} {s s' : Host} {pcs : ι → Pc} {i : ι}
    {pc' : Pc} {held : String → Set String} (h : Isolated code s pcs held)
    (hmove : Move env (code i) (pcs i) s pc' s') :
    Isolated code s' (Function.update pcs i pc') fun c => held c ∪ rowUrls s' c := by
  refine ⟨(h.1.move (h.2 i) hmove).later, fun j => ?_⟩
  by_cases hj : j = i
  · subst hj
    rw [Function.update_self]
    exact ((h.2 j).move h.1 hmove).mono Set.subset_union_left
  · rw [Function.update_of_ne hj]
    exact (h.2 j).mono Set.subset_union_left

/-- However calls, row updates, token cache operations and the timer interleave, a call
for a code returns a client that was constructed with a URL which the row of that code
held. -/
theorem returned_client_url {env : Config} {code : ι → String}
    {guard : Threads Host Exn PrismaClient ι → ι → Prop} {s : Host} {held held' : String → Set String}
    {p : Threads Host Exn PrismaClient ι}
    (h : Threads.Observed (Around env) guard noteUrls (starting env code s, held) (p, held'))
    (hknown : Known s held) {i : ι} {client : PrismaClient} (hret : p.rest i = .ret client) :
    ∃ u ∈ held' (code i), client.url = .text u := by
  rw [starting_eq] at h
  obtain ⟨s', pcs, hp, hinv⟩ := (clientCalls env code).observed_invariant
    (J := Isolated code) h
    (fun s s' pcs held henv hj =>
      ⟨hj.1.around henv, fun i => (hj.2 i).mono Set.subset_union_left⟩)
    (fun s pcs held i s' pc' _ hmove hj => hj.call hmove) ⟨hknown, fun _ => trivial⟩
  obtain rfl : p = (clientCalls env code).pool s' pcs := hp
  have hpc := hinv.2 i
  rw [returned_of_program hret] at hpc
  exact hpc

end Observer

theorem returned_client_url_sample : ∃ held' : String → Set String, ∃ u ∈ held' "a",
    CacheValue.text "mysql://db:3306/client_a" = .text u := by
  have hrun := Threads.schedule_runs (Around Config.sample) (fun _ _ => True)
    (List.replicate 7 [false, true]).flatten
    (starting Config.sample (fun i => if i then "b" else "a") Host.sample)
  obtain ⟨held', hobserved⟩ := hrun.observed noteUrls (rowUrls Host.sample)
  have hknown : Known Host.sample (rowUrls Host.sample) :=
    ⟨fun _ => subset_refl _, (fun c e he => by cases he), (fun c client hget => by cases hget)⟩
  have hret : (takingTurns (fun _ _ => True) fun i => if i then "b" else "a").rest false =
      .ret ⟨0, "a", .text "mysql://db:3306/client_a"⟩ := rfl
  exact ⟨held', returned_client_url hobserved hknown hret⟩

end NestUserService.Tenant
