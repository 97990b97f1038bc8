import NestUserService.Lib.Recency
import NestUserService.Tenant.ClientCache

/-!
# The client cache is a recency list

When the calls run one after another, each at a later time, the two maps hold exactly
the entries of a recency list of the configured length, and what the list drops has been
disconnected.
-/

namespace NestUserService.Tenant

open Lib NestUserService.Core

inductive Event where
  | access (clientCode : String) (time : Nat)
  | tick (time : Nat)

def Event.time : Event → Nat
  | .access _ t => t
  | .tick t => t

/-- One call from its first step at `s` to its return; the world outside may move
between its awaits. -/
def CallAlone (env : Config) (clientCode : String) (s s' : Host) : Prop :=
  ∃ (p : Threads Host Exn PrismaClient Unit) (client : PrismaClient),
    Threads.Runs Outside (fun _ _ => True)
      (Threads.advance (fun _ _ => True) (starting env (fun _ => clientCode) s) ()) p ∧
    p.rest () = .ret client ∧ p.state = s'

inductive SerialStep (env : Config) : Host → Event → Host → Prop
  | access {s s' : Host} {clientCode : String} (hcode : clientCode ≠ "")
      (h : CallAlone env clientCode s s') : SerialStep env s (.access clientCode s.now) s'
  | tick (s : Host) : SerialStep env s (.tick s.now) (cleanupIdleClients env s)

/-- The events so far, and the state they lead to. -/
inductive SerialRun (env : Config) : List Event → Host → Prop
  | start {s : Host} (h : s.Started) : SerialRun env [] s
  | step {es : List Event} {e : Event} {s s₁ s' : Host} (h : SerialRun env es s)
      (hout : Outside s s₁) (hlater : ∀ e' ∈ es, e'.time < s₁.now)
      (hstep : SerialStep env s₁ e s') : SerialRun env (es ++ [e]) s'

def recencyStep (maxSize : Nat) (timeout : Int) (l : List (String × Nat)) :
    Event → List (String × Nat)
  | .access clientCode t => Recency.access maxSize clientCode t l
  | .tick n => Recency.expire (fun t => decide ((n : Int) - t ≤ timeout)) l

def recency (maxSize : Nat) (timeout : Int) (es : List Event) : List (String × Nat) :=
  es.foldl (recencyStep maxSize timeout) []

/-- The maps after a hit, or after the client of a miss was stored. -/
def Effect (env : Config) (c : String) (s s' : Host) : Prop :=
  (∃ client, s.clientMap.get? c = some client ∧
      Outside { s with lastUsedMap := s.lastUsedMap.set c s.now } s') ∨
    (s.clientMap.get? c = none ∧
      ∃ s₁ client, Outside s s₁ ∧ Outside (cacheClient env c s.now client s₁) s')

theorem Effect.outside {env : Config} {c : String} {s s' s'' : Host} (h : Effect env c s s')
    (hout : Outside s' s'') : Effect env c s s'' := by
  rcases h with ⟨client, hget, h⟩ | ⟨hnone, s₁, client, h₁, h⟩
  · exact Or.inl ⟨client, hget, h.trans hout⟩
  · exact Or.inr ⟨hnone, s₁, client, h₁, h.trans hout⟩

/-- A call that started at `s`: it has failed, it is on its way after a miss, or it has
returned. -/
inductive Progress (env : Config) (c : String) (s s' : Host) : Pc → Prop
  | failed (e : Exn) : Progress env c s s' (.thrown e)
  | missing {pc : Pc} (hpc : ∀ client, pc ≠ .returned client) (hnow : pc.StartedAt (some s.now))
      (hnone : s.clientMap.get? c = none) (hout : Outside s s') : Progress env c s s' pc
  | done (client : PrismaClient) (h : Effect env c s s') : Progress env c s s' (.returned client)

theorem Progress.first {env : Config} {c : String} {pc : Pc} {s s' : Host}
    (h : Move env c .start s pc s') : Progress env c s s' pc := by
  cases h with
  | hit hget => exact .done _ (Or.inl ⟨_, hget, .refl _⟩)
  | miss hnone => exact .missing (by simp) rfl hnone (.refl s)
  | failed => exact .failed _

theorem Progress.outside {env : Config} {c : String} {pc : Pc} {s s' s'' : Host}
    (h : Progress env c s s' pc) (hout : Outside s' s'') : Progress env c s s'' pc := by
  cases h with
  | failed => exact .failed _
  | missing hpc hnow hnone h => exact .missing hpc hnow hnone (h.trans hout)
  | done client h => exact .done client (h.outside hout)

theorem Progress.move {env : Config} {c : String} {pc pc' : Pc} {s s' s'' : Host}
    (h : Progress env c s s' pc) (hmove : Move env c pc s' pc' s'') :
    Progress env c s s'' pc' := by
  cases h with
  | failed e =>
    cases hmove
    exact .failed _
  | done client h =>
    cases hmove
    exact .failed _
  | missing hpc hnow hnone hout =>
    rcases hmove.maps with ⟨client, rfl, -, -, -⟩ | ⟨now, client, rfl, rfl, rfl⟩ | ⟨hpc', hout', -⟩
    · cases hnow
    · cases hnow
      exact .done client (Or.inr ⟨hnone, s', client, hout, .refl _⟩)
    · exact .missing hpc' (hmove.startedAt hnow) hnone (hout.trans hout')

theorem CallAlone.effect {env : Config} {c : String} {s s' : Host} (h : CallAlone env c s s') :
    Effect env c s s' := by
  obtain ⟨p, client, hrun, hret, rfl⟩ := h
  have hfirst : Threads.Step Outside (fun _ _ => True) (some ())
      ((clientCalls env fun _ : Unit => c).pool s fun _ => .start) _ :=
    Threads.step_advance _ _ ⟨_, _, rfl⟩ trivial
  rcases (clientCalls env fun _ : Unit => c).step_cases hfirst with ⟨hl, -⟩ |
    ⟨i, s₁, pc, -, -, hmove, hp⟩
  · cases hl
  · change Threads.advance (fun _ _ => True) (starting env (fun _ => c) s) () = _ at hp
    rw [hp] at hrun
    obtain ⟨s', pcs, rfl, hprogress⟩ := (clientCalls env fun _ : Unit => c).runs_invariant
      (J := fun s' pcs => Progress env c s s' (pcs ())) hrun (fun _ _ _ hout hj => hj.outside hout)
      (fun _ pcs i _ pc' _ hmove hj => by
        rw [Function.update_self]
        exact hj.move hmove)
      (by
        rw [Function.update_self]
        exact Progress.first hmove)
    have hpc : pcs () = .returned client := returned_of_program hret
    rw [hpc] at hprogress
    cases hprogress with
    | missing hne => exact absurd rfl (hne client)
    | done _ h => exact h

structure Represents (maxSize : Nat) (s : Host) (l : List (String × Nat)) : Prop where
  stamps : ∀ c t, s.lastUsedMap.get? c = some t ↔ (c, t) ∈ l
  keys : ∀ c, c ∈ s.clientMap.keys ↔ c ∈ s.lastUsedMap.keys
  sorted : Recency.Sorted l
  length : l.length ≤ maxSize
  nonempty : "" ∉ s.lastUsedMap.keys

namespace Represents

variable {env : Config} {maxSize : Nat} {timeout : Int} {s s' : Host} {l : List (String × Nat)}
  {c : String}

theorem start (h : s.Started) : Represents maxSize s [] := by
  constructor
  · rw [h.lastUsedMap]
    simp
  · rw [h.clientMap, h.lastUsedMap]
    simp
  · exact List.Pairwise.nil
  · exact Nat.zero_le _
  · rw [h.lastUsedMap]
    exact OrderedMap.mem_keys_empty _

theorem outside (h : Represents maxSize s l) (hout : Outside s s') : Represents maxSize s' l := by
  constructor
  · rw [hout.lastUsedMap]
    exact h.stamps
  · rw [hout.clientMap, hout.lastUsedMap]
    exact h.keys
  · exact h.sorted
  · exact h.length
  · rw [hout.lastUsedMap]
    exact h.nonempty

theorem mem_map_fst (h : Represents maxSize s l) (c : String) :
    c ∈ s.clientMap.keys ↔ c ∈ l.map Prod.fst := by
  rw [h.keys, OrderedMap.mem_keys, List.mem_map]
  constructor
  · rintro ⟨t, ht⟩
    exact ⟨(c, t), (h.stamps c t).mp ht, rfl⟩
  · rintro ⟨⟨c', t⟩, hmem, rfl⟩
    exact ⟨t, (h.stamps c' t).mpr hmem⟩

theorem size (h : Represents maxSize s l) : s.clientMap.size = l.length := by
  rw [OrderedMap.size_congr h.keys]
  exact OrderedMap.size_eq_length h.sorted.nodup h.stamps

theorem touch (h : Represents maxSize s l) (hpos : 1 ≤ maxSize) (hc : c ∈ s.clientMap.keys)
    (hnow : ∀ e ∈ l, e.2 < s.now) :
    Represents maxSize { s with lastUsedMap := s.lastUsedMap.set c s.now }
      (Recency.access maxSize c s.now l) := by
  have hlast : c ∈ s.lastUsedMap.keys := (h.keys c).mp hc
  obtain ⟨t, ht⟩ := OrderedMap.mem_keys.mp hlast
  have hin : ∃ t, (c, t) ∈ l := ⟨t, (h.stamps c t).mp ht⟩
  constructor
  · intro k u
    rw [Recency.mem_access h.sorted h.length hpos, ← h.stamps]
    by_cases hk : k = c
    · subst hk
      simp [eq_comm]
    · simp [OrderedMap.get?_set_ne, hk, hin]
  · intro k
    rw [OrderedMap.mem_keys_set, h.keys k]
    exact ⟨Or.inr, fun hk => hk.elim (fun he => he ▸ hlast) id⟩
  · exact Recency.sorted_access h.sorted hnow
  · exact Recency.length_access_le _ _ _ _
  · rw [OrderedMap.mem_keys_set]
    rintro (he | hk)
    · exact h.nonempty (he ▸ hlast)
    · exact h.nonempty hk

/-- The evicted code is that of the oldest entry of a full list. -/
theorem evicted_eq (h : Represents maxSize s l) (hpos : 1 ≤ maxSize)
    (hmax : env.tenantClientCacheMaxSize = some (maxSize : Int)) :
    (l.length < maxSize ∧ evicted env s = none) ∨
      (¬ l.length < maxSize ∧ ∃ k t, evicted env s = some k ∧ (k, t) ∈ l ∧ ∀ e ∈ l, t ≤ e.2) := by
  by_cases hfull : l.length < maxSize
  · refine Or.inl ⟨hfull, ?_⟩
    unfold evicted
    rw [hmax, Option.any_some, h.size, if_neg]
    simpa using hfull
  · refine Or.inr ⟨hfull, ?_⟩
    have hevicted : evicted env s = leastRecentlyUsed s := by
      unfold evicted
      rw [hmax, Option.any_some, h.size, if_pos]
      simpa using hfull
    cases hlru : leastRecentlyUsed s with
    | none =>
      have hzero := leastRecentlyUsed_none hlru h.nonempty
      rw [← OrderedMap.size_congr h.keys, h.size] at hzero
      omega
    | some k =>
      obtain ⟨t, ht, hleast⟩ := leastRecentlyUsed_some hlru
      exact ⟨k, t, hevicted.trans hlru, (h.stamps k t).mp ht,
        fun e he => hleast e.1 e.2 ((h.stamps e.1 e.2).mpr he)⟩

/-- The evicted code is the one that a full list loses. -/
theorem notMem_evicted_iff (h : Represents maxSize s l) (hpos : 1 ≤ maxSize)
    (hmax : env.tenantClientCacheMaxSize = some (maxSize : Int)) {k : String} {u : Nat}
    (hmem : (k, u) ∈ l) :
    k ∉ (evicted env s).toList ↔ l.length < maxSize ∨ ∃ e ∈ l, e.2 < u := by
  rcases h.evicted_eq hpos hmax with ⟨hroom, hnone⟩ | ⟨hfull, k', t, hsome, hmem', hleast⟩
  · simp [hnone, hroom]
  · rw [hsome, Option.mem_toList]
    constructor
    · intro hne
      have hle : t ≤ u := hleast (k, u) hmem
      rcases Nat.lt_or_eq_of_le hle with hlt | heq
      · exact Or.inr ⟨(k', t), hmem', hlt⟩
      · have hsame := h.sorted.eq_of_stamp hmem' hmem heq
        exact absurd (congrArg some (congrArg Prod.fst hsame)) hne
    · rintro (hlt | ⟨e, he, hlt⟩) hk
      · exact hfull hlt
      · obtain rfl : k' = k := Option.some.inj hk
        have ht : t = u := by
          have hget := (h.stamps k' t).mpr hmem'
          rw [(h.stamps k' u).mpr hmem, Option.some.injEq] at hget
          exact hget.symm
        have hge := hleast e he
        omega

theorem store (h : Represents maxSize s l) (hpos : 1 ≤ maxSize)
    (hmax : env.tenantClientCacheMaxSize = some (maxSize : Int)) (hcode : c ≠ "")
    (hc : s.clientMap.get? c = none) {now : Nat} (hnow : ∀ e ∈ l, e.2 < now)
    (client : PrismaClient) :
    Represents maxSize (cacheClient env c now client s) (Recency.access maxSize c now l) := by
  have hclient := cacheClient_clientMap env c now client s
  have hlast := cacheClient_lastUsedMap env c now client s
  have hnot (t : Nat) : (c, t) ∉ l := by
    intro hmem
    have hin := (h.keys c).mpr (OrderedMap.mem_keys.mpr ⟨t, (h.stamps c t).mpr hmem⟩)
    exact OrderedMap.get?_eq_none.mp hc hin
  constructor
  · intro k u
    rw [hlast, Recency.mem_access h.sorted h.length hpos]
    by_cases hk : k = c
    · subst hk
      simp [eq_comm]
    · rw [OrderedMap.get?_set_ne _ _ hk, OrderedMap.get?_deleteAll]
      by_cases hmem : (k, u) ∈ l
      · have hget := (h.stamps k u).mpr hmem
        have hin := h.notMem_evicted_iff hpos hmax hmem
        simp only [hget, hmem, hk, hnot, exists_false, false_or, ne_eq, not_false_eq_true,
          true_and, Prod.mk.injEq, false_and, ← hin]
        by_cases hev : k ∈ (evicted env s).toList
        · simp [hev]
        · simp [hev]
      · have hget : s.lastUsedMap.get? k ≠ some u := fun hget => hmem ((h.stamps k u).mp hget)
        simp [hget, hmem, hk]
  · intro k
    rw [hclient, hlast, OrderedMap.mem_keys_set, OrderedMap.mem_keys_set,
      OrderedMap.mem_keys_deleteAll, OrderedMap.mem_keys_deleteAll, h.keys k]
  · exact Recency.sorted_access h.sorted hnow
  · exact Recency.length_access_le _ _ _ _
  · rw [hlast, OrderedMap.mem_keys_set, OrderedMap.mem_keys_deleteAll]
    rintro (he | ⟨-, hk⟩)
    · exact hcode he.symm
    · exact h.nonempty hk

theorem cleanup (h : Represents maxSize s l)
    (htimeout : env.tenantClientCacheIdleTimeout = some timeout) :
    Represents maxSize (cleanupIdleClients env s)
      (Recency.expire (fun t => decide ((s.now : Int) - t ≤ timeout)) l) := by
  have hclient := cleanupIdleClients_clientMap env s
  have hlast := cleanupIdleClients_lastUsedMap env s
  have hidle (k : String) (u : Nat) (hget : s.lastUsedMap.get? k = some u) :
      k ∈ idleKeys env s ↔ ¬ (s.now : Int) - u ≤ timeout := by
    simp only [mem_idleKeys, hget, isIdle, htimeout, Option.any_some, decide_eq_true_eq,
      Option.some.injEq, exists_eq_left', Int.not_le]
  constructor
  · intro k u
    rw [hlast, OrderedMap.get?_deleteAll, Recency.expire, List.mem_filter, ← h.stamps,
      decide_eq_true_iff]
    by_cases hget : s.lastUsedMap.get? k = some u
    · have hin := hidle k u hget
      by_cases hle : (s.now : Int) - u ≤ timeout
      · simp [hget, hin, hle]
      · simp [hget, hin, hle]
    · simp [hget]
  · intro k
    rw [hclient, hlast, OrderedMap.mem_keys_deleteAll, OrderedMap.mem_keys_deleteAll, h.keys k]
  · exact Recency.sorted_expire h.sorted _
  · exact Nat.le_trans (List.length_filter_le _ _) h.length
  · rw [hlast, OrderedMap.mem_keys_deleteAll]
    exact fun hk => h.nonempty hk.2

theorem step (h : Represents maxSize s l) (hpos : 1 ≤ maxSize)
    (hmax : env.tenantClientCacheMaxSize = some (maxSize : Int))
    (htimeout : env.tenantClientCacheIdleTimeout = some timeout) {e : Event}
    (hnow : ∀ x ∈ l, x.2 < s.now) (hstep : SerialStep env s e s') :
    Represents maxSize s' (recencyStep maxSize timeout l e) := by
  cases hstep with
  | tick => exact h.cleanup htimeout
  | access hcode hcall =>
    rcases hcall.effect with ⟨client, hget, hout⟩ | ⟨hnone, s₁, client, h₁, hout⟩
    · exact (h.touch hpos (OrderedMap.mem_keys.mpr ⟨client, hget⟩) hnow).outside hout
    · rw [← h₁.clientMap] at hnone
      exact ((h.outside h₁).store hpos hmax hcode hnone hnow client).outside hout

end Represents

/-- A client that was stored is stored or disconnected after the next event. -/
theorem SerialStep.kept {env : Config} {s s' : Host} {e : Event} (h : SerialStep env s e s')
    {c : String} {client : PrismaClient} (hkept : Kept s c client) : Kept s' c client := by
  cases h with
  | tick =>
    rw [cleanupIdleClients_eq]
    exact hkept.dropAll _
  | @access _ code hcode hcall =>
    rcases hcall.effect with ⟨_, -, hout⟩ | ⟨hnone, s₁, _, h₁, hout⟩
    · have hhit : Kept { s with lastUsedMap := s.lastUsedMap.set code s.now } c client := hkept
      exact hhit.outside hout
    · rw [← h₁.clientMap] at hnone
      refine ((hkept.outside h₁).store (fun hin => ?_) _).outside hout
      exact absurd hin (OrderedMap.get?_eq_none.mp hnone)

theorem recencyStep_times {maxSize : Nat} {timeout : Int} {l : List (String × Nat)} {e : Event}
    {x : String × Nat} (h : x ∈ recencyStep maxSize timeout l e) : x ∈ l ∨ x.2 = e.time := by
  cases e with
  | access c t =>
    rcases Recency.eq_or_mem_of_mem_access h with rfl | hmem
    · exact Or.inr rfl
    · exact Or.inl hmem
  | tick n => exact Or.inl (List.mem_of_mem_filter h)

/-- The maps represent the list after every sequential run; its stamps are times of
events. -/
theorem SerialRun.represents {env : Config} {maxSize : Nat} {timeout : Int} (hpos : 1 ≤ maxSize)
    (hmax : env.tenantClientCacheMaxSize = some (maxSize : Int))
    (htimeout : env.tenantClientCacheIdleTimeout = some timeout) {es : List Event} {s : Host}
    (h : SerialRun env es s) :
    Represents maxSize s (recency maxSize timeout es) ∧
      ∀ x ∈ recency maxSize timeout es, ∃ e ∈ es, e.time = x.2 := by
  induction h with
  | start hs => exact ⟨.start hs, List.forall_mem_nil _⟩
  | @step es e s s₁ s' h hout hlater hstep ih =>
    obtain ⟨hrep, htimes⟩ := ih
    have hnow (x : String × Nat) (hx : x ∈ recency maxSize timeout es) : x.2 < s₁.now := by
      obtain ⟨e', he', ht⟩ := htimes x hx
      exact ht ▸ hlater e' he'
    have hlast : recency maxSize timeout (es ++ [e]) =
        recencyStep maxSize timeout (recency maxSize timeout es) e := List.foldl_concat ..
    rw [hlast]
    refine ⟨(hrep.outside hout).step hpos hmax htimeout hnow hstep, fun x hx => ?_⟩
    rcases recencyStep_times hx with hmem | ht
    · obtain ⟨e', he', ht⟩ := htimes x hmem
      exact ⟨e', List.mem_append_left _ he', ht⟩
    · exact ⟨e, List.mem_append_right _ (List.mem_singleton.mpr rfl), ht.symm⟩

/-- After every event of a sequential run the cached codes are those of the recency list,
and a code that the next event drops has had its client disconnected. -/
theorem cache_refines_recency {env : Config} {maxSize : Nat} {timeout : Int} (hpos : 1 ≤ maxSize)
    (hmax : env.tenantClientCacheMaxSize = some (maxSize : Int))
    (htimeout : env.tenantClientCacheIdleTimeout = some timeout) {es : List Event} {s : Host}
    (h : SerialRun env es s) :
    (∀ c, c ∈ s.clientMap.keys ↔ c ∈ (recency maxSize timeout es).map Prod.fst) ∧
      ∀ e s₁ s', Outside s s₁ → (∀ e' ∈ es, e'.time < s₁.now) → SerialStep env s₁ e s' →
        ∀ c ∈ (recency maxSize timeout es).map Prod.fst,
          c ∉ (recency maxSize timeout (es ++ [e])).map Prod.fst →
            ∃ client, s.clientMap.get? c = some client ∧ client ∈ s'.disconnected := by
  obtain ⟨hrep, -⟩ := h.represents hpos hmax htimeout
  refine ⟨hrep.mem_map_fst, fun e s₁ s' hout hlater hstep c hc hdropped => ?_⟩
  obtain ⟨hrep', -⟩ := (h.step hout hlater hstep).represents hpos hmax htimeout
  obtain ⟨client, hget⟩ := OrderedMap.mem_keys.mp ((hrep.mem_map_fst c).mpr hc)
  refine ⟨client, hget, ?_⟩
  have hkept : Kept s' c client := hstep.kept (Kept.outside (Or.inl hget) hout)
  refine hkept.resolve_left fun hget' => hdropped ?_
  exact (hrep'.mem_map_fst c).mp (OrderedMap.mem_keys.mpr ⟨client, hget'⟩)

/-- Three clients, of which two fit into the cache. -/
def threeClients : Host :=
  { Host.start (((Table.singleton (Client.provisioned "a")).upsertKeep
      (Client.provisioned "b")).upsertKeep (Client.provisioned "c")) with
    databases := fun name =>
      if name ∈ ["client_a", "client_b", "client_c"] then some TenantDb.created else none
    generated := ["client_a", "client_b", "client_c"] }

/-- A call for the code, alone. -/
def accessing (c : String) (s : Host) : Threads Host Exn PrismaClient Unit :=
  Threads.schedule (fun _ _ => True) (List.replicate 6 ())
    (Threads.advance (fun _ _ => True) (starting Config.sample (fun _ => c) s) ())

/-- What such a call leaves, some time later. -/
def accessed (wait : Nat) (c : String) (s : Host) : Host :=
  { (accessing c s).state with now := (accessing c s).state.now + wait }

def withA : Host := accessed 1000 "a" threeClients
def withB : Host := accessed 1000 "b" withA
def withAAgain : Host := accessed 1000 "a" withB
def withC : Host := accessed 1799001 "c" withAAgain

/-- A call alone is an event, and the next one can begin later. -/
theorem callAlone_accessing {c : String} {s : Host} (h : (accessing c s).Returned ()) :
    CallAlone Config.sample c s (accessing c s).state := by
  obtain ⟨client, hret⟩ := h
  exact ⟨accessing c s, client, Threads.schedule_runs _ _ _ _, hret, rfl⟩

theorem outside_accessed (wait : Nat) (c : String) (s : Host) :
    Outside (accessing c s).state (accessed wait c s) :=
  ⟨rfl, rfl, rfl, Nat.le_refl _, Nat.le_add_right _ _⟩

theorem step_accessing {c : String} {s : Host} {t : Nat} (hcode : c ≠ "") (hnow : s.now = t)
    (h : (accessing c s).Returned ()) :
    SerialStep Config.sample s (.access c t) (accessing c s).state := by
  subst hnow
  exact .access hcode (callAlone_accessing h)

def threeVisits : List Event := [.access "a" 1000, .access "b" 2000, .access "a" 3000]

theorem serialRun_threeVisits :
    SerialRun Config.sample threeVisits (accessing "a" withB).state := by
  have hA : SerialRun Config.sample ([] ++ [.access "a" 1000]) (accessing "a" threeClients).state :=
    .step (.start ⟨rfl, rfl, rfl, rfl⟩) (.refl _) (List.forall_mem_nil _)
      (step_accessing (by decide) rfl (by decide +kernel))
  have hB : SerialRun Config.sample ([.access "a" 1000] ++ [.access "b" 2000])
      (accessing "b" withA).state :=
    .step hA (outside_accessed 1000 _ _) (by decide +kernel)
      (step_accessing (by decide) (by decide +kernel) (by decide +kernel))
  exact .step hB (outside_accessed 1000 _ _) (by decide +kernel)
    (step_accessing (by decide) (by decide +kernel) (by decide +kernel))

/-- The second call for `a` is a hit; the call for `c` evicts `b`, and the clean-up drops `a`,
which has been idle for more than half an hour. -/
theorem cache_refines_recency_sample :
    (∀ c, c ∈ (accessing "c" withAAgain).state.clientMap.keys ↔ c ∈ ["c", "a"]) ∧
      (∃ client, (accessing "a" withB).state.clientMap.get? "b" = some client ∧
        client ∈ (accessing "c" withAAgain).state.disconnected) ∧
      ∃ client, (accessing "c" withAAgain).state.clientMap.get? "a" = some client ∧
        client ∈ (cleanupIdleClients Config.sample withC).disconnected := by
  have hlater : ∀ e ∈ threeVisits, e.time < withAAgain.now := by decide +kernel
  have hevicts : SerialStep Config.sample withAAgain (.access "c" 4000)
      (accessing "c" withAAgain).state :=
    step_accessing (by decide) (by decide +kernel) (by decide +kernel)
  have hC := serialRun_threeVisits.step (outside_accessed 1000 _ _) hlater hevicts
  have hnow : withC.now = 1803001 := by decide +kernel
  have hexpires : SerialStep Config.sample withC (.tick 1803001)
      (cleanupIdleClients Config.sample withC) := hnow ▸ .tick withC
  have hmax : Config.sample.tenantClientCacheMaxSize = some ((2 : Nat) : Int) := rfl
  have hthree := cache_refines_recency (by decide) hmax rfl serialRun_threeVisits
  have hfour := cache_refines_recency (by decide) hmax rfl hC
  refine ⟨hfour.1, ?_, ?_⟩
  · exact hthree.2 _ _ _ (outside_accessed 1000 _ _) hlater hevicts "b" (by decide) (by decide)
  · exact hfour.2 _ _ _ (outside_accessed 1799001 _ _) (by decide +kernel) hexpires "a" (by decide)
      (by decide)

end NestUserService.Tenant
