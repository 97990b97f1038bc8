import NestUserService.Tenant.ClientSteps

/-!
# The cache of tenant clients

Any number of calls run next to each other and next to the timer. The two maps keep
the same keys, and no more of them than the configured maximum. A client whose call has
returned is stored or disconnected, unless a call stores its client over another one.
-/

namespace NestUserService.Tenant

open Lib NestUserService.Core

/-- What the steps of the calls and the timer keep. -/
structure CacheInvariant (maxSize : Int) (s : Host) : Prop where
  keys : ∀ k, k ∈ s.clientMap.keys ↔ k ∈ s.lastUsedMap.keys
  size : (s.clientMap.size : Int) ≤ maxSize
  nonempty : "" ∉ s.lastUsedMap.keys

namespace CacheInvariant

variable {maxSize : Int} {s s' : Host}

theorem congr (h : CacheInvariant maxSize s) (hclient : s'.clientMap = s.clientMap)
    (hlast : s'.lastUsedMap = s.lastUsedMap) : CacheInvariant maxSize s' := by
  constructor
  · rw [hclient, hlast]
    exact h.keys
  · rw [hclient]
    exact h.size
  · rw [hlast]
    exact h.nonempty

theorem sizes (h : CacheInvariant maxSize s) : s.lastUsedMap.size = s.clientMap.size :=
  OrderedMap.size_congr fun k => (h.keys k).symm

theorem dropAll (h : CacheInvariant maxSize s) (keys : List String) :
    CacheInvariant maxSize (s.dropAll keys) := by
  have hsize := s.clientMap.size_deleteAll_le keys
  have hold := h.size
  constructor
  · intro k
    rw [s.clientMap_dropAll, s.lastUsedMap_dropAll, OrderedMap.mem_keys_deleteAll,
      OrderedMap.mem_keys_deleteAll, h.keys k]
  · rw [s.clientMap_dropAll]
    omega
  · rw [s.lastUsedMap_dropAll, OrderedMap.mem_keys_deleteAll]
    exact fun hk => h.nonempty hk.2

/-- A hit renews a code that is in both maps. -/
theorem touch (h : CacheInvariant maxSize s) {code : String} (hcode : code ∈ s.clientMap.keys)
    (now : Nat) : CacheInvariant maxSize { s with lastUsedMap := s.lastUsedMap.set code now } := by
  have hlast : code ∈ s.lastUsedMap.keys := (h.keys code).mp hcode
  constructor
  · intro k
    rw [OrderedMap.mem_keys_set, h.keys k]
    exact ⟨Or.inr, fun hk => hk.elim (fun he => he ▸ hlast) id⟩
  · exact h.size
  · rw [OrderedMap.mem_keys_set]
    rintro (he | hk)
    · exact h.nonempty (he ▸ hlast)
    · exact h.nonempty hk

/-- There is room for one more after `makeRoom`. -/
theorem room (h : CacheInvariant maxSize s) {env : Config}
    (hmax : env.tenantClientCacheMaxSize = some maxSize) (hpos : 1 ≤ maxSize) :
    ((makeRoom env s).clientMap.size : Int) < maxSize := by
  have hle := h.size
  unfold makeRoom
  rw [hmax, Option.any_some]
  by_cases hfull : maxSize ≤ (s.clientMap.size : Int)
  · rw [if_pos (by simpa using hfull), evict_eq, s.clientMap_dropAll]
    cases hlru : leastRecentlyUsed s with
    | none =>
      have hzero := leastRecentlyUsed_none hlru h.nonempty
      rw [h.sizes] at hzero
      omega
    | some k =>
      obtain ⟨t, hk, -⟩ := leastRecentlyUsed_some hlru
      have hkey : k ∈ s.clientMap.keys := (h.keys k).mpr (OrderedMap.mem_keys.mpr ⟨t, hk⟩)
      have hlt : (s.clientMap.delete k).size < s.clientMap.size := OrderedMap.size_delete_lt hkey
      change ((s.clientMap.delete k).size : Int) < maxSize
      omega
  · rw [if_neg (by simpa using hfull)]
    omega

theorem store (h : CacheInvariant maxSize s) {env : Config}
    (hmax : env.tenantClientCacheMaxSize = some maxSize) (hpos : 1 ≤ maxSize) {code : String}
    (hcode : code ≠ "") (now : Nat) (client : PrismaClient) :
    CacheInvariant maxSize (cacheClient env code now client s) := by
  have hroom := h.room hmax hpos
  have hset := (makeRoom env s).clientMap.size_set_le code client
  have hdrop : CacheInvariant maxSize (makeRoom env s) := by
    rw [makeRoom_eq]
    exact h.dropAll _
  constructor
  · intro k
    change k ∈ ((makeRoom env s).clientMap.set code client).keys ↔
      k ∈ ((makeRoom env s).lastUsedMap.set code now).keys
    rw [OrderedMap.mem_keys_set, OrderedMap.mem_keys_set, hdrop.keys k]
  · change ((((makeRoom env s).clientMap.set code client).size : Nat) : Int) ≤ maxSize
    omega
  · change "" ∉ ((makeRoom env s).lastUsedMap.set code now).keys
    rw [OrderedMap.mem_keys_set]
    rintro (he | hk)
    · exact hcode he.symm
    · exact hdrop.nonempty hk

theorem move (h : CacheInvariant maxSize s) {env : Config}
    (hmax : env.tenantClientCacheMaxSize = some maxSize) (hpos : 1 ≤ maxSize) {code : String}
    (hcode : code ≠ "") {pc pc' : Pc} (hmove : Move env code pc s pc' s') :
    CacheInvariant maxSize s' := by
  rcases hmove.maps with ⟨client, -, -, hget, rfl⟩ | ⟨now, client, -, -, rfl⟩ |
    ⟨-, hout, -⟩
  · exact h.touch (OrderedMap.mem_keys.mpr ⟨_, hget⟩) s.now
  · exact h.store hmax hpos hcode now client
  · exact h.congr hout.clientMap hout.lastUsedMap

theorem surroundings (h : CacheInvariant maxSize s) {env : Config}
    (henv : Surroundings env s s') : CacheInvariant maxSize s' := by
  cases henv with
  | cleanup =>
    rw [cleanupIdleClients_eq]
    exact h.dropAll _
  | outside hout => exact h.congr hout.clientMap hout.lastUsedMap

end CacheInvariant

theorem Host.Started.cacheInvariant {s : Host} (h : s.Started) {maxSize : Int}
    (hpos : 1 ≤ maxSize) : CacheInvariant maxSize s := by
  constructor
  · rw [h.clientMap, h.lastUsedMap]
    simp
  · rw [h.clientMap, OrderedMap.size_empty]
    omega
  · rw [h.lastUsedMap]
    exact OrderedMap.mem_keys_empty _

section Runs

variable {ι : Type} [DecidableEq ι] {env : Config} {code : ι → String}
  {guard : Threads Host Exn PrismaClient ι → ι → Prop} {s : Host}
  {p : Threads Host Exn PrismaClient ι}

/-- However the calls and the timer interleave, and whichever calls fail, the two maps
have the same keys, and at most `maxSize` of them. -/
theorem same_keys_and_bounded (h : Threads.Runs (Surroundings env) guard (starting env code s) p)
    (hs : s.Started) {maxSize : Int} (hmax : env.tenantClientCacheMaxSize = some maxSize)
    (hpos : 1 ≤ maxSize) (hcode : ∀ i, code i ≠ "") :
    (∀ k, k ∈ p.state.clientMap.keys ↔ k ∈ p.state.lastUsedMap.keys) ∧
      (p.state.clientMap.size : Int) ≤ maxSize := by
  rw [starting_eq] at h
  obtain ⟨s', pcs, rfl, hinv⟩ := (clientCalls env code).runs_invariant
    (J := fun s _ => CacheInvariant maxSize s) h
    (fun _ _ _ henv hj => hj.surroundings henv)
    (fun _ _ i _ _ _ hmove hj => hj.move hmax hpos (hcode i) hmove) (hs.cacheInvariant hpos)
  exact ⟨hinv.keys, hinv.size⟩

theorem same_keys_and_bounded_sample :
    (takingTurns (fun _ _ => True) fun i => if i then "b" else "a").state.clientMap.keys =
        ["a", "b"] ∧
      (takingTurns (fun _ _ => True) fun i => if i then "b" else "a").state.clientMap.size ≤
        (2 : Int) := by
  have hrun := Threads.schedule_runs (Surroundings Config.sample) (fun _ _ => True)
    (List.replicate 7 [false, true]).flatten
    (starting Config.sample (fun i => if i then "b" else "a") Host.sample)
  have hall := same_keys_and_bounded hrun Host.started_sample rfl (by decide) (by decide)
  exact ⟨by decide +kernel, hall.2⟩

/-- The client is the stored one of its code, or has been disconnected. -/
def Kept (s : Host) (clientCode : String) (client : PrismaClient) : Prop :=
  s.clientMap.get? clientCode = some client ∨ client ∈ s.disconnected

theorem Kept.dropAll {c : String} {client : PrismaClient} (h : Kept s c client)
    (keys : List String) : Kept (s.dropAll keys) c client := by
  unfold Kept
  rw [s.clientMap_dropAll, OrderedMap.get?_deleteAll, s.mem_disconnected_dropAll]
  rcases h with hget | hdis
  · by_cases hc : c ∈ keys
    · exact Or.inr (Or.inr ⟨c, hc, hget⟩)
    · rw [if_neg hc]
      exact Or.inl hget
  · exact Or.inr (Or.inl hdis)

theorem Kept.outside {c : String} {client : PrismaClient} {s s' : Host} (h : Kept s c client)
    (hout : Outside s s') : Kept s' c client := by
  unfold Kept
  rw [hout.clientMap, hout.disconnected]
  exact h

/-- A call that is about to store its client finds no other client under its code, unless
that one is the client that makes room. -/
def StoresFresh (env : Config) (code : ι → String) (p : Threads Host Exn PrismaClient ι) (i : ι) :
    Prop :=
  ∀ now client, p.rest i = storeClient env (code i) now client →
    code i ∈ p.state.clientMap.keys → evicted env p.state = some (code i)

theorem makeRoom_vacant {c : String} (h : c ∈ s.clientMap.keys → evicted env s = some c) :
    (makeRoom env s).clientMap.get? c = none := by
  rw [makeRoom_clientMap, OrderedMap.get?_deleteAll]
  by_cases hc : c ∈ s.clientMap.keys
  · rw [h hc]
    simp
  · split
    · rfl
    · exact OrderedMap.get?_eq_none.mpr hc

/-- Storing a client over none keeps every other client. -/
theorem Kept.store {c c' : String} {client client' : PrismaClient} (h : Kept s c' client')
    (hfresh : c ∈ s.clientMap.keys → evicted env s = some c) (now : Nat) :
    Kept (cacheClient env c now client s) c' client' := by
  have hroom : Kept (makeRoom env s) c' client' := by
    rw [makeRoom_eq]
    exact h.dropAll _
  rcases hroom with hget | hdis
  · have hne : c' ≠ c := by
      rintro rfl
      rw [makeRoom_vacant hfresh] at hget
      cases hget
    exact Or.inl ((OrderedMap.get?_set_ne _ _ hne).trans hget)
  · exact Or.inr hdis

theorem Kept.move {c c' : String} {client' : PrismaClient} {s s' : Host} {pc pc' : Pc}
    (h : Kept s c' client') (hmove : Move env c pc s pc' s')
    (hfresh : ∀ now client, pc = .storeClient now client → c ∈ s.clientMap.keys →
      evicted env s = some c) : Kept s' c' client' := by
  rcases hmove.maps with ⟨client, -, -, -, rfl⟩ | ⟨now, client, hpc, -, rfl⟩ |
    ⟨-, hout, -⟩
  · exact h
  · exact h.store (hfresh now client hpc) now
  · exact h.outside hout

/-- The client that a move returns is stored. -/
theorem Move.returned_stored {c : String} {client : PrismaClient} {s s' : Host} {pc : Pc}
    (h : Move env c pc s (.returned client) s') : s'.clientMap.get? c = some client := by
  cases h with
  | hit hget => exact hget
  | stored => exact OrderedMap.get?_set_self _ _ _

def AllKept (code : ι → String) (s : Host) (pcs : ι → Pc) : Prop :=
  ∀ i client, pcs i = .returned client → Kept s (code i) client

/-- In every run in which no call stores its client over another one, a client that a
call returned is stored under the code of the call or disconnected. -/
theorem stored_or_disconnected (h : Threads.Runs (Surroundings env) (StoresFresh env code)
    (starting env code s) p) {i : ι} {client : PrismaClient} (hret : p.rest i = .ret client) :
    Kept p.state (code i) client := by
  have henv (s s' : Host) (pcs : ι → Pc) (hmove : Surroundings env s s')
      (hj : AllKept code s pcs) : AllKept code s' pcs := by
    intro i client hpc
    have hold := hj i client hpc
    cases hmove with
    | cleanup =>
      rw [cleanupIdleClients_eq]
      exact hold.dropAll _
    | outside hout => exact hold.outside hout
  have hcall (s : Host) (pcs : ι → Pc) (i : ι) (s' : Host) (pc' : Pc)
      (hfresh : StoresFresh env code ((clientCalls env code).pool s pcs) i)
      (hmove : Move env (code i) (pcs i) s pc' s') (hj : AllKept code s pcs) :
      AllKept code s' (Function.update pcs i pc') := by
    intro j client hpc
    by_cases hij : j = i
    · subst hij
      rw [Function.update_self] at hpc
      subst hpc
      exact Or.inl hmove.returned_stored
    · rw [Function.update_of_ne hij] at hpc
      refine (hj j client hpc).move hmove fun now client' hpc' => hfresh now client' ?_
      change (pcs i).program env (code i) = _
      rw [hpc']
      rfl
  rw [starting_eq] at h
  obtain ⟨s', pcs, rfl, hinv⟩ := (clientCalls env code).runs_invariant h henv hcall
    fun i client hpc => by cases hpc
  exact hinv i client (returned_of_program hret)

end Runs

/-- A decidable condition under which a step stores nothing over another client. -/
def Fresh (env : Config) {ι : Type} (code : ι → String) (p : Threads Host Exn PrismaClient ι)
    (i : ι) : Prop :=
  code i ∈ p.state.clientMap.keys → evicted env p.state = some (code i)

instance (env : Config) {ι : Type} (code : ι → String) (p : Threads Host Exn PrismaClient ι)
    (i : ι) : Decidable (Fresh env code p i) :=
  inferInstanceAs (Decidable (_ → _))

theorem stored_or_disconnected_sample :
    Kept (takingTurns (Fresh Config.sample fun i => if i then "b" else "a")
        fun i => if i then "b" else "a").state "a"
      ⟨0, "a", .text "mysql://db:3306/client_a"⟩ := by
  have hrun := Threads.schedule_runs (Surroundings Config.sample)
    (Fresh Config.sample fun i => if i then "b" else "a")
    (List.replicate 7 [false, true]).flatten
    (starting Config.sample (fun i => if i then "b" else "a") Host.sample)
  exact stored_or_disconnected (hrun.mono fun p i h _ _ _ => h) (i := false) rfl

/-- Two overlapping calls for one code: the client of the first is neither stored nor
disconnected. -/
theorem overwritten_client_leaks :
    ¬ ∀ (env : Config) (code : Bool → String) (s : Host) (p : Threads Host Exn PrismaClient Bool),
      s.Started → Threads.Runs (Surroundings env) (fun _ _ => True) (starting env code s) p →
      ∀ i client, p.rest i = .ret client → Kept p.state (code i) client := by
  intro h
  have hrun := Threads.schedule_runs (Surroundings Config.sample) (fun _ _ => True)
    (List.replicate 7 [false, true]).flatten (starting Config.sample (fun _ => "a") Host.sample)
  have hkept := h Config.sample (fun _ => "a") Host.sample _ Host.started_sample hrun false
    ⟨0, "a", .text "mysql://db:3306/client_a"⟩ rfl
  revert hkept
  unfold Kept
  decide +kernel

end NestUserService.Tenant
