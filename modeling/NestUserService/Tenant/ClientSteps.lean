import NestUserService.Lib.Threads
import NestUserService.Tenant.ClientManager

/-!
# What one step of a tenant client call can do

`Pc` names the awaits of `getPrismaClientByCode`. `Move` lists the steps between
them, with all that a step reads and writes. Eviction and idle cleanup both drop a
list of keys, and everything they change is said by the lemmas on `dropAll`.
-/

namespace NestUserService.Tenant

open Lib NestUserService.Core

def Host.dropAll (s : Host) (keys : List String) : Host := keys.foldl Host.drop s

/-- The parts of the state that the client cache does not touch. -/
theorem Host.dropAll_frame (s : Host) (keys : List String) :
    ∃ m l d, s.dropAll keys = { s with clientMap := m, lastUsedMap := l, disconnected := d } := by
  induction keys generalizing s with
  | nil => exact ⟨_, _, _, rfl⟩
  | cons k keys ih => exact ih (s.drop k)

theorem Host.clientMap_dropAll (s : Host) (keys : List String) :
    (s.dropAll keys).clientMap = s.clientMap.deleteAll keys := by
  induction keys generalizing s with
  | nil => rfl
  | cons k keys ih => exact ih (s.drop k)

theorem Host.lastUsedMap_dropAll (s : Host) (keys : List String) :
    (s.dropAll keys).lastUsedMap = s.lastUsedMap.deleteAll keys := by
  induction keys generalizing s with
  | nil => rfl
  | cons k keys ih => exact ih (s.drop k)

/-- Exactly the clients stored under the dropped keys are disconnected. -/
theorem Host.mem_disconnected_dropAll (s : Host) (keys : List String) (c : PrismaClient) :
    c ∈ (s.dropAll keys).disconnected ↔
      c ∈ s.disconnected ∨ ∃ k ∈ keys, s.clientMap.get? k = some c := by
  induction keys generalizing s with
  | nil => simp [Host.dropAll]
  | cons k' keys ih =>
    have h : (s.dropAll (k' :: keys)).disconnected = ((s.drop k').dropAll keys).disconnected := rfl
    rw [h, ih]
    simp only [Host.drop, List.mem_append, Option.mem_toList, List.exists_mem_cons_iff]
    constructor
    · rintro ((hd | hk) | ⟨k, hk, hc⟩)
      · exact Or.inl hd
      · exact Or.inr (Or.inl hk)
      · by_cases he : k = k'
        · rw [he, OrderedMap.get?_delete_self] at hc
          cases hc
        · exact Or.inr (Or.inr ⟨k, hk, by rwa [OrderedMap.get?_delete_ne _ he] at hc⟩)
    · rintro (hd | hk | ⟨k, hk, hc⟩)
      · exact Or.inl (Or.inl hd)
      · exact Or.inl (Or.inr hk)
      · by_cases he : k = k'
        · exact Or.inl (Or.inr (he ▸ hc))
        · exact Or.inr ⟨k, hk, by rwa [OrderedMap.get?_delete_ne _ he]⟩

/-- The loop finds a first entry with the least time. -/
theorem foldl_older (l : List (String × Nat)) (o : Option (String × Nat)) :
    (l.foldl older o = none → l = [] ∧ o = none) ∧
      ∀ e, l.foldl older o = some e →
        (e ∈ l ∨ o = some e) ∧ (∀ e' ∈ l, e.2 ≤ e'.2) ∧ ∀ e', o = some e' → e.2 ≤ e'.2 := by
  induction l generalizing o with
  | nil =>
    refine ⟨fun h => ⟨rfl, h⟩, fun e h => ⟨Or.inr h, List.forall_mem_nil _, fun e' he => ?_⟩⟩
    rw [List.foldl_nil, he, Option.some.injEq] at h
    exact h ▸ Nat.le_refl _
  | cons x l ih =>
    obtain ⟨hnone, hsome⟩ := ih (older o x)
    rw [List.foldl_cons]
    -- the candidate after `x` is `x` or the old one, and not later than either
    have holder : ∃ y, older o x = some y ∧ (y = x ∨ o = some y) ∧ y.2 ≤ x.2 ∧
        ∀ e', o = some e' → y.2 ≤ e'.2 := by
      cases o with
      | none => exact ⟨x, rfl, Or.inl rfl, Nat.le_refl _, fun e' he => by cases he⟩
      | some z =>
        by_cases hlt : x.2 < z.2
        · refine ⟨x, by simp [older, hlt], Or.inl rfl, Nat.le_refl _, fun e' he => ?_⟩
          cases he
          exact Nat.le_of_lt hlt
        · refine ⟨z, by simp [older, hlt], Or.inr rfl, Nat.le_of_not_lt hlt, fun e' he => ?_⟩
          cases he
          exact Nat.le_refl _
    obtain ⟨y, hy, hcase, hyx, hyo⟩ := holder
    constructor
    · intro h
      have hn := (hnone h).2
      rw [hy] at hn
      cases hn
    · intro e h
      obtain ⟨hmem, hall, hfirst⟩ := hsome e h
      have hey : e.2 ≤ y.2 := hfirst y hy
      refine ⟨?_, ?_, fun e' he => Nat.le_trans hey (hyo e' he)⟩
      · rcases hmem with hmem | hmem
        · exact Or.inl (List.mem_cons_of_mem _ hmem)
        · rw [hy, Option.some.injEq] at hmem
          subst hmem
          rcases hcase with rfl | hcase
          · exact Or.inl (by simp)
          · exact Or.inr hcase
      · intro e' he'
        rcases List.mem_cons.mp he' with rfl | he'
        · exact Nat.le_trans hey hyx
        · exact hall e' he'

/-- The code that eviction drops. -/
def leastRecentlyUsed (s : Host) : Option String :=
  ((s.lastUsedMap.entries.foldl older none).map Prod.fst).filter (· ≠ "")

theorem evict_eq (s : Host) :
    evictLeastRecentlyUsedClient s = s.dropAll (leastRecentlyUsed s).toList := by
  unfold evictLeastRecentlyUsedClient leastRecentlyUsed
  cases s.lastUsedMap.entries.foldl older none with
  | none => rfl
  | some e =>
    by_cases hk : e.1 = ""
    · simp [hk, Option.filter_some, Host.dropAll]
    · simp [hk, Option.filter_some, Host.dropAll]

theorem leastRecentlyUsed_some {s : Host} {k : String} (h : leastRecentlyUsed s = some k) :
    ∃ t, s.lastUsedMap.get? k = some t ∧ ∀ k' t', s.lastUsedMap.get? k' = some t' → t ≤ t' := by
  obtain ⟨hmap, -⟩ := Option.filter_eq_some_iff.mp h
  obtain ⟨⟨k', t⟩, hfold, rfl⟩ := Option.map_eq_some_iff.mp hmap
  obtain ⟨hmem, hall, -⟩ := (foldl_older s.lastUsedMap.entries none).2 _ hfold
  have hget : (k', t) ∈ s.lastUsedMap.entries := hmem.resolve_right (by simp)
  refine ⟨t, OrderedMap.get?_eq_some.mpr hget, fun k'' t' h' => ?_⟩
  exact hall (k'', t') (OrderedMap.get?_eq_some.mp h')

theorem leastRecentlyUsed_none {s : Host} (h : leastRecentlyUsed s = none)
    (hne : "" ∉ s.lastUsedMap.keys) : s.lastUsedMap.size = 0 := by
  unfold leastRecentlyUsed at h
  cases hfold : s.lastUsedMap.entries.foldl older none with
  | none => simp [OrderedMap.size, ((foldl_older _ none).1 hfold).1]
  | some e =>
    obtain ⟨hmem, -, -⟩ := (foldl_older s.lastUsedMap.entries none).2 _ hfold
    have hkey : e.1 ∈ s.lastUsedMap.keys :=
      List.mem_map_of_mem (f := Prod.fst) (hmem.resolve_right (by simp))
    have he : e.1 ≠ "" := fun he => hne (he ▸ hkey)
    rw [hfold] at h
    simp [he, Option.filter_some] at h

/-- The code that is dropped to make room for one more client. -/
def evicted (env : Config) (s : Host) : Option String :=
  if env.tenantClientCacheMaxSize.any fun maxSize => decide (maxSize ≤ (s.clientMap.size : Int)) then
    leastRecentlyUsed s
  else none

theorem makeRoom_eq (env : Config) (s : Host) :
    makeRoom env s = s.dropAll (evicted env s).toList := by
  unfold makeRoom evicted
  split
  · exact evict_eq s
  · rfl

theorem makeRoom_frame (env : Config) (s : Host) :
    ∃ m l d, makeRoom env s = { s with clientMap := m, lastUsedMap := l, disconnected := d } := by
  rw [makeRoom_eq]
  exact s.dropAll_frame _

theorem makeRoom_clientMap (env : Config) (s : Host) :
    (makeRoom env s).clientMap = s.clientMap.deleteAll (evicted env s).toList := by
  rw [makeRoom_eq, s.clientMap_dropAll]

theorem makeRoom_lastUsedMap (env : Config) (s : Host) :
    (makeRoom env s).lastUsedMap = s.lastUsedMap.deleteAll (evicted env s).toList := by
  rw [makeRoom_eq, s.lastUsedMap_dropAll]

theorem cacheClient_clientMap (env : Config) (c : String) (now : Nat) (client : PrismaClient)
    (s : Host) : (cacheClient env c now client s).clientMap =
      (s.clientMap.deleteAll (evicted env s).toList).set c client := by
  show (makeRoom env s).clientMap.set c client = _
  rw [makeRoom_clientMap]

theorem cacheClient_lastUsedMap (env : Config) (c : String) (now : Nat) (client : PrismaClient)
    (s : Host) : (cacheClient env c now client s).lastUsedMap =
      (s.lastUsedMap.deleteAll (evicted env s).toList).set c now := by
  show (makeRoom env s).lastUsedMap.set c now = _
  rw [makeRoom_lastUsedMap]

/-- The codes that are idle at `s.now`, oldest entry first. -/
def idleKeys (env : Config) (s : Host) : List String :=
  (s.lastUsedMap.entries.filter fun e => isIdle env s.now e.2).map Prod.fst

theorem cleanupIdleClients_eq (env : Config) (s : Host) :
    cleanupIdleClients env s = s.dropAll (idleKeys env s) := by
  have hfold (l : List (String × Nat)) (now : Nat) (s' : Host) :
      l.foldl (fun s' entry => if isIdle env now entry.2 then s'.drop entry.1 else s') s' =
        s'.dropAll ((l.filter fun e => isIdle env now e.2).map Prod.fst) := by
    induction l generalizing s' with
    | nil => rfl
    | cons e l ih =>
      rw [List.foldl_cons, ih]
      by_cases h : isIdle env now e.2 = true
      · simp [h, Host.dropAll]
      · simp [h]
  exact hfold _ _ _

theorem cleanupIdleClients_clientMap (env : Config) (s : Host) :
    (cleanupIdleClients env s).clientMap = s.clientMap.deleteAll (idleKeys env s) := by
  rw [cleanupIdleClients_eq, s.clientMap_dropAll]

theorem cleanupIdleClients_lastUsedMap (env : Config) (s : Host) :
    (cleanupIdleClients env s).lastUsedMap = s.lastUsedMap.deleteAll (idleKeys env s) := by
  rw [cleanupIdleClients_eq, s.lastUsedMap_dropAll]

theorem cleanupIdleClients_frame (env : Config) (s : Host) :
    ∃ m l d, cleanupIdleClients env s =
      { s with clientMap := m, lastUsedMap := l, disconnected := d } := by
  rw [cleanupIdleClients_eq]
  exact s.dropAll_frame _

theorem mem_idleKeys {env : Config} {s : Host} {k : String} :
    k ∈ idleKeys env s ↔ ∃ t, s.lastUsedMap.get? k = some t ∧ isIdle env s.now t = true := by
  simp only [idleKeys, List.mem_map, List.mem_filter, OrderedMap.get?_eq_some]
  constructor
  · rintro ⟨⟨k', t⟩, ⟨hm, hi⟩, rfl⟩
    exact ⟨t, hm, hi⟩
  · rintro ⟨t, hm, hi⟩
    exact ⟨(k, t), ⟨hm, hi⟩, rfl⟩

/-- The two maps are as before, and the clock has not gone back. -/
structure Outside (s s' : Host) : Prop where
  clientMap : s'.clientMap = s.clientMap
  lastUsedMap : s'.lastUsedMap = s.lastUsedMap
  disconnected : s'.disconnected = s.disconnected
  constructed : s.constructed ≤ s'.constructed
  now : s.now ≤ s'.now

theorem Outside.refl (s : Host) : Outside s s := ⟨rfl, rfl, rfl, Nat.le_refl _, Nat.le_refl _⟩

theorem Outside.trans {s t u : Host} (h : Outside s t) (h' : Outside t u) : Outside s u where
  clientMap := h'.clientMap.trans h.clientMap
  lastUsedMap := h'.lastUsedMap.trans h.lastUsedMap
  disconnected := h'.disconnected.trans h.disconnected
  constructed := Nat.le_trans h.constructed h'.constructed
  now := Nat.le_trans h.now h'.now

theorem external_ok {α : Type} {env : Config} {x : HostSync α} {s s' : Host} {a : α}
    (h : external env x s = .ok a s') : x s.count = .ok a s' := by
  unfold external attempt at h
  cases hf : env.fault s.operations with
  | some f =>
    rw [hf] at h
    cases h
  | none =>
    rw [hf] at h
    exact h

/-- A failed operation is only counted. -/
theorem external_error {α : Type} {env : Config} {x : HostSync α} {s s' : Host} {e : Exn}
    (hkeep : ∀ t e t', x t = .error e t' → t' = t) (h : external env x s = .error e s') :
    s' = s.count := by
  unfold external attempt at h
  cases hf : env.fault s.operations with
  | some f =>
    rw [hf] at h
    cases h
    rfl
  | none =>
    rw [hf] at h
    exact hkeep _ _ _ h

theorem importClient_ok {env : Config} {clientCode : String} {s s' : Host}
    (h : importClient env clientCode s = .ok () s') :
    env.folder (clientFolder clientCode) ∈ s.generated ∧ s' = s.count := by
  have hok := external_ok h
  by_cases hf : env.folder (clientFolder clientCode) ∈ s.count.generated
  · rw [if_pos hf] at hok
    cases hok
    exact ⟨hf, rfl⟩
  · rw [if_neg hf] at hok
    cases hok

theorem importClient_error {env : Config} {clientCode : String} {s s' : Host} {e : Exn}
    (h : importClient env clientCode s = .error e s') : s' = s.count := by
  refine external_error (fun t e t' ht => ?_) h
  by_cases hf : env.folder (clientFolder clientCode) ∈ t.generated
  · rw [if_pos hf] at ht
    cases ht
  · rw [if_neg hf] at ht
    cases ht
    rfl

theorem connect_ok {env : Config} {client client' : PrismaClient} {url : String} {s s' : Host}
    (h : connect env client url s = .ok client' s') :
    (s.databases (env.databaseOf url)).isSome = true ∧ client' = client ∧ s' = s.count := by
  have hok := external_ok h
  by_cases hdb : (s.count.databases (env.databaseOf url)).isSome = true
  · rw [if_pos hdb] at hok
    cases hok
    exact ⟨hdb, rfl, rfl⟩
  · rw [if_neg hdb] at hok
    cases hok

theorem connect_error {env : Config} {client : PrismaClient} {url : String} {s s' : Host}
    {e : Exn} (h : connect env client url s = .error e s') : s' = s.count := by
  refine external_error (fun t e t' ht => ?_) h
  by_cases hdb : (t.databases (env.databaseOf url)).isSome = true
  · rw [if_pos hdb] at ht
    cases ht
  · rw [if_neg hdb] at ht
    cases ht
    rfl

inductive Pc where
  | start
  | readDbUrlCache (now : Nat)
  | lookupDbUrl (now : Nat)
  | fillDbUrlCache (now : Nat) (dbUrl : String)
  | loadClient (now : Nat) (dbUrl : CacheValue)
  | openClient (now : Nat) (dbUrl : CacheValue)
  | storeClient (now : Nat) (tenantClient : PrismaClient)
  | returned (client : PrismaClient)
  | thrown (e : Exn)

/-- What is left of the call. -/
def Pc.program (env : Config) (clientCode : String) : Pc → HostApp PrismaClient
  | .start => getPrismaClientByCode env clientCode
  | .readDbUrlCache now => Tenant.readDbUrlCache env clientCode now
  | .lookupDbUrl now => Tenant.lookupDbUrl env clientCode now
  | .fillDbUrlCache now dbUrl => Tenant.fillDbUrlCache env clientCode now dbUrl
  | .loadClient now dbUrl => Tenant.loadClient env clientCode now dbUrl
  | .openClient now dbUrl => Tenant.openClient env clientCode now dbUrl
  | .storeClient now tenantClient => Tenant.storeClient env clientCode now tenantClient
  | .returned client => return client
  | .thrown e => throw e

inductive Move (env : Config) (clientCode : String) : Pc → Host → Pc → Host → Prop
  | hit {s : Host} {client : PrismaClient} (h : s.clientMap.get? clientCode = some client) :
      Move env clientCode .start s (.returned client)
        { s with lastUsedMap := s.lastUsedMap.set clientCode s.now }
  | miss {s : Host} (h : s.clientMap.get? clientCode = none) :
      Move env clientCode .start s (.readDbUrlCache s.now) s
  | cached {s : Host} {now : Nat} {url : CacheValue}
      (h : s.redis.find? s.now (tenantDbUrlKey clientCode) = some url) :
      Move env clientCode (.readDbUrlCache now) s (.loadClient now url) s.count
  | uncached {s : Host} {now : Nat} :
      Move env clientCode (.readDbUrlCache now) s (.lookupDbUrl now) s.count
  | found {s : Host} {now : Nat} {row : Client} {url : String} (h : row ∈ s.client.rows)
      (hcode : row.clientCode = clientCode) (hurl : row.dbUrl = some url) :
      Move env clientCode (.lookupDbUrl now) s (.fillDbUrlCache now url) s.count
  | filled {s : Host} {now : Nat} {url : String} :
      Move env clientCode (.fillDbUrlCache now url) s (.loadClient now (.text url))
        { s.count with
          redis := s.redis.put (tenantDbUrlKey clientCode)
            (Entry.stamp (.text url) s.now env.tenantClientDbUrlCacheExpiresIn) }
  | loaded {s : Host} {now : Nat} {url : CacheValue}
      (h : env.folder (clientFolder clientCode) ∈ s.generated) :
      Move env clientCode (.loadClient now url) s (.openClient now url) s.count
  | opened {s : Host} {now : Nat} {url : String}
      (h : (s.databases (env.databaseOf url)).isSome = true) :
      Move env clientCode (.openClient now (.text url)) s
        (.storeClient now ⟨s.constructed, clientCode, .text url⟩)
        { s.count with constructed := s.constructed + 1 }
  | stored {s : Host} {now : Nat} {client : PrismaClient} :
      Move env clientCode (.storeClient now client) s (.returned client)
        (cacheClient env clientCode now client s)
  | failed {s : Host} {pc : Pc} {e : Exn} {n : Nat} {constructed : Nat}
      (h : s.constructed ≤ constructed) :
      Move env clientCode pc s (.thrown e) { s with operations := n, constructed := constructed }

/-- The call goes on from the new state at one of its control points. -/
def Leads (env : Config) (clientCode : String) (pc : Pc) (s s' : Host)
    (rest : HostApp PrismaClient) : Prop :=
  ∃ pc', Move env clientCode pc s pc' s' ∧ rest = pc'.program env clientCode

section Leads

variable {env : Config} {clientCode : String} {pc : Pc} {s : Host} {u : Host → Host}
  {n : Host → HostApp PrismaClient}

theorem leads_thrown (e : Exn) : Leads env clientCode pc s s.count (throw e) :=
  ⟨.thrown e, .failed (Nat.le_refl s.constructed), rfl⟩

/-- An operation that leaves nothing when it fails leads on when its results do. -/
theorem leads_of_external {α : Type} {x : HostSync α} {f : α → HostApp PrismaClient}
    (h : Async.await (external env x) >>= f = .step u n)
    (hkeep : ∀ t e t', x t = .error e t' → t' = t)
    (hok : ∀ a s', x s.count = .ok a s' → Leads env clientCode pc s s' (f a)) :
    Leads env clientCode pc s (u s) (n s) := by
  rcases Async.step_of_await_bind h s with ⟨a, s', hx, hu, hn⟩ | ⟨e, s', hx, hu, hn⟩
  · rw [hu, hn]
    exact hok a s' (external_ok hx)
  · rw [hu, hn, external_error hkeep hx]
    exact leads_thrown e

theorem leads_start (h : getPrismaClientByCode env clientCode = .step u n) :
    Leads env clientCode .start s (u s) (n s) := by
  rcases Async.step_of_await_bind h s with ⟨⟨now, cached⟩, s', hx, hu, hn⟩ | ⟨e, s', hx, -, -⟩
  · rw [hu, hn]
    unfold memoryCache at hx
    cases hget : s.clientMap.get? clientCode with
    | some client =>
      rw [hget] at hx
      cases hx
      exact ⟨_, .hit hget, rfl⟩
    | none =>
      rw [hget] at hx
      cases hx
      exact ⟨_, .miss hget, rfl⟩
  · unfold memoryCache at hx
    cases hget : s.clientMap.get? clientCode with
    | some client =>
      rw [hget] at hx
      cases hx
    | none =>
      rw [hget] at hx
      cases hx

theorem leads_readDbUrlCache {now : Nat}
    (h : Tenant.readDbUrlCache env clientCode now = .step u n) :
    Leads env clientCode (.readDbUrlCache now) s (u s) (n s) := by
  apply leads_of_external h (fun t e t' ht => by cases ht)
  intro dbUrl s' hok
  cases hok
  cases hfind : s.count.redis.find? s.count.now (tenantDbUrlKey clientCode) with
  | none => exact ⟨_, .uncached, rfl⟩
  | some url =>
    by_cases ht : url.truthy = true
    · exact ⟨_, .cached hfind, if_pos ht⟩
    · exact ⟨_, .uncached, if_neg ht⟩

theorem leads_useDbUrl {now : Nat} {client : Option Client}
    (hclient : ∀ row, client = some row → row ∈ s.client.rows ∧ row.clientCode = clientCode) :
    Leads env clientCode (.lookupDbUrl now) s s.count (useDbUrl env clientCode now client) := by
  unfold useDbUrl
  cases hurl : client.bind Client.dbUrl with
  | none => exact leads_thrown _
  | some url =>
    dsimp only
    by_cases hne : url = ""
    · rw [if_neg (not_not_intro hne)]
      exact leads_thrown _
    · obtain ⟨row, hrow, hu⟩ := Option.bind_eq_some_iff.mp hurl
      obtain ⟨hmem, hcode⟩ := hclient row hrow
      exact ⟨_, .found hmem hcode hu, if_pos hne⟩

theorem leads_lookupDbUrl {now : Nat} (h : Tenant.lookupDbUrl env clientCode now = .step u n) :
    Leads env clientCode (.lookupDbUrl now) s (u s) (n s) := by
  apply leads_of_external h (fun t e t' ht => by cases ht)
  intro client s' hok
  cases hok
  apply leads_useDbUrl
  intro row hrow
  obtain ⟨hmem, hcode⟩ := Table.findFirst_mem hrow
  exact ⟨hmem, by simpa using hcode⟩

theorem leads_fillDbUrlCache {now : Nat} {dbUrl : String}
    (h : Tenant.fillDbUrlCache env clientCode now dbUrl = .step u n) :
    Leads env clientCode (.fillDbUrlCache now dbUrl) s (u s) (n s) := by
  apply leads_of_external h (fun t e t' ht => by cases ht)
  intro _ s' hok
  cases hok
  exact ⟨_, .filled, rfl⟩

theorem leads_loadClient {now : Nat} {dbUrl : CacheValue}
    (h : Tenant.loadClient env clientCode now dbUrl = .step u n) :
    Leads env clientCode (.loadClient now dbUrl) s (u s) (n s) := by
  rcases Async.step_of_await_bind h s with ⟨_, s', hx, hu, hn⟩ | ⟨e, s', hx, hu, hn⟩
  · obtain ⟨hf, hs⟩ := importClient_ok hx
    rw [hu, hn, hs]
    exact ⟨_, .loaded hf, rfl⟩
  · rw [hu, hn, importClient_error hx]
    exact leads_thrown e

theorem leads_openClient {now : Nat} {dbUrl : CacheValue}
    (h : Tenant.openClient env clientCode now dbUrl = .step u n) :
    Leads env clientCode (.openClient now dbUrl) s (u s) (n s) := by
  rcases Async.step_of_await_bind h s with ⟨client, s', hx, hu, hn⟩ | ⟨e, s', hx, hu, hn⟩
  · rw [hu, hn]
    cases dbUrl with
    | payload p => cases hx
    | text url =>
      obtain ⟨hdb, rfl, rfl⟩ := connect_ok hx
      exact ⟨_, .opened hdb, rfl⟩
  · rw [hu, hn]
    cases dbUrl with
    | payload p =>
      cases hx
      exact ⟨_, .failed (Nat.le_refl _), rfl⟩
    | text url =>
      rw [connect_error hx]
      exact ⟨_, .failed (Nat.le_succ _), rfl⟩

end Leads

/-- Every step of a call is one of the moves. -/
theorem move_of_step {env : Config} {clientCode : String} (pc : Pc) {u : Host → Host}
    {n : Host → HostApp PrismaClient} (s : Host) (h : pc.program env clientCode = .step u n) :
    ∃ pc', Move env clientCode pc s pc' (u s) ∧ n s = pc'.program env clientCode := by
  cases pc with
  | start => exact leads_start h
  | readDbUrlCache now => exact leads_readDbUrlCache h
  | lookupDbUrl now => exact leads_lookupDbUrl h
  | fillDbUrlCache now dbUrl => exact leads_fillDbUrlCache h
  | loadClient now dbUrl => exact leads_loadClient h
  | openClient now dbUrl => exact leads_openClient h
  | storeClient now client =>
    cases h
    exact ⟨_, .stored, rfl⟩
  | returned client => cases h
  | thrown e => cases h

/-- A move renews the stamp of a stored client, stores a new client, or leaves the maps as
they are and does not return. -/
theorem Move.maps {env : Config} {clientCode : String} {pc pc' : Pc} {s s' : Host}
    (h : Move env clientCode pc s pc' s') :
    (∃ client, pc = .start ∧ pc' = .returned client ∧ s.clientMap.get? clientCode = some client ∧
        s' = { s with lastUsedMap := s.lastUsedMap.set clientCode s.now }) ∨
      (∃ now client, pc = .storeClient now client ∧ pc' = .returned client ∧
        s' = cacheClient env clientCode now client s) ∨
      ((∀ client, pc' ≠ .returned client) ∧ Outside s s' ∧ s'.now = s.now) := by
  have hquiet (s : Host) (n : Nat) (redis : Store CacheValue) {constructed : Nat}
      (hc : s.constructed ≤ constructed) :
      Outside s { s with redis := redis, operations := n, constructed := constructed } :=
    ⟨rfl, rfl, rfl, hc, Nat.le_refl _⟩
  cases h with
  | hit hget => exact Or.inl ⟨_, rfl, rfl, hget, rfl⟩
  | stored => exact Or.inr (Or.inl ⟨_, _, rfl, rfl, rfl⟩)
  | miss => exact Or.inr (Or.inr ⟨by simp, .refl s, rfl⟩)
  | cached => exact Or.inr (Or.inr ⟨by simp, hquiet s _ _ (Nat.le_refl _), rfl⟩)
  | uncached => exact Or.inr (Or.inr ⟨by simp, hquiet s _ _ (Nat.le_refl _), rfl⟩)
  | found => exact Or.inr (Or.inr ⟨by simp, hquiet s _ _ (Nat.le_refl _), rfl⟩)
  | filled => exact Or.inr (Or.inr ⟨by simp, hquiet s _ _ (Nat.le_refl _), rfl⟩)
  | loaded => exact Or.inr (Or.inr ⟨by simp, hquiet s _ _ (Nat.le_refl _), rfl⟩)
  | opened => exact Or.inr (Or.inr ⟨by simp, hquiet s _ _ (Nat.le_succ _), rfl⟩)
  | failed hc => exact Or.inr (Or.inr ⟨by simp, hquiet s _ _ hc, rfl⟩)

/-- The time at which the call started, as a control point knows it. -/
def Pc.StartedAt : Pc → Option Nat → Prop
  | .start, t => t = none
  | .readDbUrlCache now, t => t = some now
  | .lookupDbUrl now, t => t = some now
  | .fillDbUrlCache now _, t => t = some now
  | .loadClient now _, t => t = some now
  | .openClient now _, t => t = some now
  | .storeClient now _, t => t = some now
  | .returned _, _ => True
  | .thrown _, _ => True

theorem Move.startedAt {env : Config} {c : String} {pc pc' : Pc} {s s' : Host} {t : Option Nat}
    (h : Move env c pc s pc' s') (ht : pc.StartedAt t) : pc'.StartedAt (some (t.getD s.now)) := by
  cases h with
  | hit => trivial
  | stored => trivial
  | failed => trivial
  | miss =>
    cases ht
    rfl
  | cached =>
    cases ht
    rfl
  | uncached =>
    cases ht
    rfl
  | found =>
    cases ht
    rfl
  | filled =>
    cases ht
    rfl
  | loaded =>
    cases ht
    rfl
  | opened =>
    cases ht
    rfl

theorem returned_of_program {env : Config} {clientCode : String} {pc : Pc}
    {client : PrismaClient} (h : pc.program env clientCode = .ret client) :
    pc = .returned client := by
  cases pc with
  | returned client' =>
    cases h
    rfl
  | start => cases h
  | readDbUrlCache now => cases h
  | lookupDbUrl now => cases h
  | fillDbUrlCache now dbUrl => cases h
  | loadClient now dbUrl => cases h
  | openClient now dbUrl => cases h
  | storeClient now client' => cases h
  | thrown e => cases h

section Calls

variable {ι : Type}

/-- The calls `i`, each with the client code `code i`. -/
def clientCalls (env : Config) (code : ι → String) : Threads.Automaton Host Exn PrismaClient ι Pc where
  program i pc := pc.program env (code i)
  move i := Move env (code i)
  sound _ pc _ _ s := move_of_step pc s

/-- All calls before their first step. -/
def starting (env : Config) (code : ι → String) (s : Host) : Threads Host Exn PrismaClient ι :=
  ⟨s, fun i => getPrismaClientByCode env (code i)⟩

theorem starting_eq (env : Config) (code : ι → String) (s : Host) :
    starting env code s = (clientCalls env code).pool s fun _ => .start := rfl

/-- Two calls taking turns, until both have returned. -/
def takingTurns (guard : Threads Host Exn PrismaClient Bool → Bool → Prop)
    [∀ p i, Decidable (guard p i)] (code : Bool → String) : Threads Host Exn PrismaClient Bool :=
  Threads.schedule guard (List.replicate 7 [false, true]).flatten
    (starting Config.sample code Host.sample)

end Calls

/-- What happens between the steps of the calls. -/
inductive Surroundings (env : Config) : Host → Host → Prop
  | cleanup (s : Host) : Surroundings env s (cleanupIdleClients env s)
  | outside {s s' : Host} (h : Outside s s') : Surroundings env s s'

end NestUserService.Tenant
