import Mathlib.Order.Bounds.Basic
import NestUserService.Tenant.ClientSteps

/-!
# Last-used times

An observer notes when every call started and, for every stored code, the start times
of the calls that have returned since the code was inserted. The stamp of a code is the
greatest of them, as long as no call stores its client under an earlier time than the
one that is there.
-/

namespace NestUserService.Tenant

open Lib NestUserService.Core

/-- The stamp of every stored code is its last use. -/
structure Stamps (s : Host) (uses : String → Set Nat) : Prop where
  keys : ∀ c, c ∈ s.clientMap.keys ↔ c ∈ s.lastUsedMap.keys
  past : ∀ c t, s.lastUsedMap.get? c = some t → t ≤ s.now
  greatest : ∀ c t, s.lastUsedMap.get? c = some t → IsGreatest (uses c) t
  unused : ∀ c, c ∉ s.clientMap.keys → uses c = ∅

namespace Stamps

variable {s s' : Host} {uses uses' : String → Set Nat}

/-- Codes that leave the maps take their uses with them. -/
theorem drop (h : Stamps s uses) (ks : List String)
    (hclient : s'.clientMap = s.clientMap.deleteAll ks)
    (hlast : s'.lastUsedMap = s.lastUsedMap.deleteAll ks) (hnow : s.now ≤ s'.now)
    (huses : ∀ c n, n ∈ uses' c ↔ c ∈ s'.clientMap.keys ∧ n ∈ uses c) : Stamps s' uses' := by
  have hkeys (c : String) : c ∈ s'.clientMap.keys ↔ c ∈ s'.lastUsedMap.keys := by
    rw [hclient, hlast, OrderedMap.mem_keys_deleteAll, OrderedMap.mem_keys_deleteAll, h.keys c]
  have hold {c : String} {t : Nat} (ht : s'.lastUsedMap.get? c = some t) :
      s.lastUsedMap.get? c = some t := by
    rw [hlast, OrderedMap.get?_deleteAll] at ht
    by_cases hc : c ∈ ks
    · rw [if_pos hc] at ht
      cases ht
    · rwa [if_neg hc] at ht
  constructor
  · exact hkeys
  · intro c t ht
    exact Nat.le_trans (h.past c t (hold ht)) hnow
  · intro c t ht
    have hin : c ∈ s'.clientMap.keys := (hkeys c).mpr (OrderedMap.mem_keys.mpr ⟨t, ht⟩)
    have hsame : uses' c = uses c := Set.ext fun n => by
      rw [huses]
      exact and_iff_right hin
    rw [hsame]
    exact h.greatest c t (hold ht)
  · intro c hc
    exact Set.eq_empty_of_forall_notMem fun n hn => hc ((huses c n).mp hn).1

/-- A call that returns leaves its start time, not earlier than the stamp before, while
the codes `ks` leave the maps. -/
theorem put (h : Stamps s uses) (ks : List String) (c : String) (n₀ : Nat)
    (hclient : ∀ k, k ∈ s'.clientMap.keys ↔ k = c ∨ k ∉ ks ∧ k ∈ s.clientMap.keys)
    (hlast : s'.lastUsedMap = (s.lastUsedMap.deleteAll ks).set c n₀) (hnow : s'.now = s.now)
    (hn : n₀ ≤ s.now) (hle : ∀ t, s.lastUsedMap.get? c = some t → t ≤ n₀)
    (huses : ∀ k n, n ∈ uses' k ↔ k ∈ s'.clientMap.keys ∧ (n ∈ uses k ∨ k = c ∧ n = n₀)) :
    Stamps s' uses' := by
  have hkeys (k : String) : k ∈ s'.clientMap.keys ↔ k ∈ s'.lastUsedMap.keys := by
    rw [hclient, hlast, OrderedMap.mem_keys_set, OrderedMap.mem_keys_deleteAll, h.keys k]
  have hself : s'.lastUsedMap.get? c = some n₀ := by
    rw [hlast]
    exact OrderedMap.get?_set_self _ _ _
  have hold {k : String} (hk : k ≠ c) {t : Nat} (ht : s'.lastUsedMap.get? k = some t) :
      s.lastUsedMap.get? k = some t := by
    rw [hlast, OrderedMap.get?_set_ne _ _ hk, OrderedMap.get?_deleteAll] at ht
    by_cases hks : k ∈ ks
    · rw [if_pos hks] at ht
      cases ht
    · rwa [if_neg hks] at ht
  constructor
  · exact hkeys
  · intro k t ht
    rw [hnow]
    by_cases hk : k = c
    · rw [hk, hself, Option.some.injEq] at ht
      omega
    · exact h.past k t (hold hk ht)
  · intro k t ht
    have hin : k ∈ s'.clientMap.keys := (hkeys k).mpr (OrderedMap.mem_keys.mpr ⟨t, ht⟩)
    by_cases hk : k = c
    · subst hk
      rw [hself, Option.some.injEq] at ht
      subst ht
      refine ⟨(huses k n₀).mpr ⟨hin, Or.inr ⟨rfl, rfl⟩⟩, fun n hmem => ?_⟩
      rcases ((huses k n).mp hmem).2 with hn | ⟨-, rfl⟩
      · -- an earlier use is at most the stamp before, which is at most the new one
        by_cases hkey : k ∈ s.clientMap.keys
        · obtain ⟨t, ht⟩ := OrderedMap.mem_keys.mp ((h.keys k).mp hkey)
          exact Nat.le_trans ((h.greatest k t ht).2 hn) (hle t ht)
        · rw [h.unused k hkey] at hn
          exact hn.elim
      · exact Nat.le_refl _
    · have hsame : uses' k = uses k := Set.ext fun n => by
        rw [huses]
        constructor
        · rintro ⟨-, hn | ⟨hk', -⟩⟩
          · exact hn
          · exact absurd hk' hk
        · exact fun hn => ⟨hin, Or.inl hn⟩
      rw [hsame]
      exact h.greatest k t (hold hk ht)
  · intro k hk
    exact Set.eq_empty_of_forall_notMem fun n hn => hk ((huses k n).mp hn).1

end Stamps

structure Notes (ι : Type) where
  /-- The time of the first step of a call. -/
  started : ι → Option Nat
  /-- The start times of the calls for a code that have returned since it was inserted. -/
  uses : String → Set Nat

def Notes.empty {ι : Type} : Notes ι := ⟨fun _ => none, fun _ => ∅⟩

section Observer

variable {ι : Type} [DecidableEq ι]

def noteStart (l : Option ι) (now : Nat) (started : ι → Option Nat) (i : ι) : Option Nat :=
  if l = some i then some ((started i).getD now) else started i

theorem noteStart_self (i : ι) (now : Nat) (started : ι → Option Nat) :
    noteStart (some i) now started i = some ((started i).getD now) := if_pos rfl

theorem noteStart_ne {i j : ι} (h : j ≠ i) (now : Nat) (started : ι → Option Nat) :
    noteStart (some i) now started j = started j :=
  if_neg fun he => h (Option.some.inj he).symm

def takeNotes (code : ι → String) (l : Option ι) (p p' : Threads Host Exn PrismaClient ι)
    (w : Notes ι) : Notes ι where
  started := noteStart l p.state.now w.started
  uses c := {n | c ∈ p'.state.clientMap.keys ∧ (n ∈ w.uses c ∨
    ∃ i client, l = some i ∧ code i = c ∧ p'.rest i = .ret client ∧
      noteStart l p.state.now w.started i = some n)}

/-- A call that is about to store its client started no earlier than the stamp that its
code has. -/
def StoresLater (env : Config) (code : ι → String) (p : Threads Host Exn PrismaClient ι) (i : ι) :
    Prop :=
  ∀ now client, p.rest i = storeClient env (code i) now client →
    ∀ t, p.state.lastUsedMap.get? (code i) = some t → t ≤ now

/-- What the stamps are for, in a state that the observer has followed. -/
structure TimesHold (env : Config) (code : ι → String)
    (guard : Threads Host Exn PrismaClient ι → ι → Prop) (p : Threads Host Exn PrismaClient ι)
    (w : Notes ι) : Prop where
  /-- While a code stays, its stamp does not decrease. -/
  monotone : ∀ l p', Threads.Step (Surroundings env) guard l p p' → ∀ c,
    c ∈ p.state.clientMap.keys → c ∈ p'.state.clientMap.keys →
      ∃ t t', p.state.lastUsedMap.get? c = some t ∧ p'.state.lastUsedMap.get? c = some t' ∧ t ≤ t'
  /-- The stamp of a stored code is not before the start of a call that has returned. -/
  latest : ∀ c t, p.state.lastUsedMap.get? c = some t → ∀ n ∈ w.uses c, n ≤ t
  /-- What eviction would drop has not been used after anything else that is stored. -/
  fair : ∀ k ∈ p.state.clientMap.keys, k ∉ (evictLeastRecentlyUsedClient p.state).clientMap.keys →
    ∀ c ∈ p.state.clientMap.keys, ∀ n ∈ w.uses k, ∃ n' ∈ w.uses c, n ≤ n'

structure Timed (s : Host) (pcs : ι → Pc) (w : Notes ι) : Prop where
  stamps : Stamps s w.uses
  started : ∀ i, (pcs i).StartedAt (w.started i)
  clock : ∀ i n, w.started i = some n → n ≤ s.now

variable {env : Config} {code : ι → String} {s s' : Host} {pcs : ι → Pc} {w : Notes ι}
  {uses' : String → Set Nat}

theorem cleanup_now (env : Config) (s : Host) : (cleanupIdleClients env s).now = s.now := by
  obtain ⟨m, l, d, h⟩ := cleanupIdleClients_frame env s
  rw [h]

theorem Timed.surroundings (h : Timed s pcs w) (hmove : Surroundings env s s') :
    Timed s' pcs (takeNotes code none ((clientCalls env code).pool s pcs)
      ((clientCalls env code).pool s' pcs) w) := by
  have hnow : s.now ≤ s'.now := by
    cases hmove with
    | cleanup => exact Nat.le_of_eq (cleanup_now env s).symm
    | outside hout => exact hout.now
  have huses (c : String) (n : Nat) : n ∈ (takeNotes code none ((clientCalls env code).pool s pcs)
      ((clientCalls env code).pool s' pcs) w).uses c ↔ c ∈ s'.clientMap.keys ∧ n ∈ w.uses c := by
    constructor
    · rintro ⟨hc, hn | ⟨i, client, hl, -⟩⟩
      · exact ⟨hc, hn⟩
      · cases hl
    · exact fun hn => ⟨hn.1, Or.inl hn.2⟩
  constructor
  · cases hmove with
    | cleanup =>
      exact h.stamps.drop (idleKeys env s) (cleanupIdleClients_clientMap env s)
        (cleanupIdleClients_lastUsedMap env s) hnow huses
    | outside hout => exact h.stamps.drop [] hout.clientMap hout.lastUsedMap hnow huses
  · exact h.started
  · intro i n hn
    exact Nat.le_trans (h.clock i n hn) hnow

theorem makeRoom_now (env : Config) (s : Host) : (makeRoom env s).now = s.now := by
  obtain ⟨m, l, d, h⟩ := makeRoom_frame env s
  rw [h]

/-- The uses after a step of call `i`. -/
theorem mem_uses_call {i : ι} {pc' : Pc} {k : String} {n : Nat} :
    n ∈ (takeNotes code (some i) ((clientCalls env code).pool s pcs)
      ((clientCalls env code).pool s' (Function.update pcs i pc')) w).uses k ↔
      k ∈ s'.clientMap.keys ∧ (n ∈ w.uses k ∨
        k = code i ∧ n = (w.started i).getD s.now ∧ ∃ client, pc' = .returned client) := by
  have hstart := noteStart_self i s.now w.started
  have hrest : ((clientCalls env code).pool s' (Function.update pcs i pc')).rest i =
      pc'.program env (code i) := by
    change (Function.update pcs i pc' i).program env (code i) = _
    rw [Function.update_self]
  constructor
  · rintro ⟨hk, hn | ⟨j, client, hl, rfl, hret, hn⟩⟩
    · exact ⟨hk, Or.inl hn⟩
    · cases hl
      rw [hrest] at hret
      change noteStart (some i) s.now w.started i = some n at hn
      rw [hstart, Option.some.injEq] at hn
      exact ⟨hk, Or.inr ⟨rfl, hn.symm, client, returned_of_program hret⟩⟩
  · rintro ⟨hk, hn | ⟨rfl, rfl, client, hpc⟩⟩
    · exact ⟨hk, Or.inl hn⟩
    · refine ⟨hk, Or.inr ⟨i, client, rfl, rfl, ?_, hstart⟩⟩
      rw [hrest, hpc]
      rfl

omit [DecidableEq ι] in
theorem Timed.started_le (h : Timed s pcs w) (i : ι) : (w.started i).getD s.now ≤ s.now := by
  cases hw : w.started i with
  | none => exact Nat.le_refl _
  | some n => exact h.clock i n hw

theorem Move.now_eq {c : String} {pc pc' : Pc} (h : Move env c pc s pc' s') : s'.now = s.now := by
  rcases h.maps with ⟨client, -, -, -, rfl⟩ | ⟨now, client, -, -, rfl⟩ | ⟨-, -, hnow⟩
  · rfl
  · exact makeRoom_now env s
  · exact hnow

omit [DecidableEq ι] in
/-- A hit: the stamp is the clock. -/
theorem Timed.hit (h : Timed s pcs w) {i : ι} {client : PrismaClient} (hstart : pcs i = .start)
    (hget : s.clientMap.get? (code i) = some client) (huses : ∀ k n,
      n ∈ uses' k ↔ k ∈ s.clientMap.keys ∧ (n ∈ w.uses k ∨
        k = code i ∧ n = (w.started i).getD s.now)) :
    Stamps { s with lastUsedMap := s.lastUsedMap.set (code i) s.now } uses' := by
  have hpc := h.started i
  rw [hstart] at hpc
  change w.started i = none at hpc
  have hkey : code i ∈ s.clientMap.keys := OrderedMap.mem_keys.mpr ⟨client, hget⟩
  refine h.stamps.put [] (code i) s.now ?_ rfl rfl (Nat.le_refl _)
    (fun t ht => h.stamps.past _ t ht) fun k n => ?_
  · intro k
    exact ⟨fun hk => Or.inr ⟨List.not_mem_nil, hk⟩, fun hk => hk.elim (fun he => he ▸ hkey) And.right⟩
  · rw [huses, hpc]
    rfl

omit [DecidableEq ι] in
/-- A new client: the stamp is the start of the call. -/
theorem Timed.stored (h : Timed s pcs w) {i : ι} {now : Nat} {client : PrismaClient}
    (hstore : pcs i = .storeClient now client)
    (hlater : StoresLater env code ((clientCalls env code).pool s pcs) i) (huses : ∀ k n,
      n ∈ uses' k ↔ k ∈ (cacheClient env (code i) now client s).clientMap.keys ∧ (n ∈ w.uses k ∨
        k = code i ∧ n = (w.started i).getD s.now)) :
    Stamps (cacheClient env (code i) now client s) uses' := by
  have hpc := h.started i
  rw [hstore] at hpc
  change w.started i = some now at hpc
  have hle (t : Nat) (ht : s.lastUsedMap.get? (code i) = some t) : t ≤ now := by
    apply hlater now client _ t ht
    show (pcs i).program env (code i) = _
    rw [hstore]
    rfl
  refine h.stamps.put (evicted env s).toList (code i) now ?_
    (cacheClient_lastUsedMap env (code i) now client s) (makeRoom_now env s)
    (h.clock i now hpc) hle fun k n => ?_
  · intro k
    rw [cacheClient_clientMap, OrderedMap.mem_keys_set, OrderedMap.mem_keys_deleteAll]
  · rw [huses, hpc]
    rfl

theorem Timed.call (h : Timed s pcs w) {i : ι} {pc' : Pc}
    (hlater : StoresLater env code ((clientCalls env code).pool s pcs) i)
    (hmove : Move env (code i) (pcs i) s pc' s') :
    Timed s' (Function.update pcs i pc') (takeNotes code (some i) ((clientCalls env code).pool s pcs)
      ((clientCalls env code).pool s' (Function.update pcs i pc')) w) := by
  constructor
  · rcases hmove.maps with ⟨client, hstart, hret, hget, rfl⟩ | ⟨now, client, hstore, hret, rfl⟩ |
      ⟨hret, hout, -⟩
    · apply h.hit hstart hget
      intro k n
      rw [mem_uses_call, hret]
      simp
    · apply h.stored hstore hlater
      intro k n
      rw [mem_uses_call, hret]
      simp
    · refine h.stamps.drop [] hout.clientMap hout.lastUsedMap hout.now fun k n => ?_
      rw [mem_uses_call]
      simp [hret]
  · intro j
    show (Function.update pcs i pc' j).StartedAt (noteStart (some i) s.now w.started j)
    by_cases hj : j = i
    · subst hj
      rw [Function.update_self, noteStart_self]
      exact hmove.startedAt (h.started j)
    · rw [Function.update_of_ne hj, noteStart_ne hj]
      exact h.started j
  · intro j n hn
    change noteStart (some i) s.now w.started j = some n at hn
    rw [hmove.now_eq]
    by_cases hj : j = i
    · subst hj
      rw [noteStart_self, Option.some.injEq] at hn
      have hle := h.started_le j
      omega
    · rw [noteStart_ne hj] at hn
      exact h.clock j n hn

/-- In every observed run in which no call stores its client under an earlier time than
its code has, the stamps are the last uses. -/
theorem Timed.observed {y : Threads Host Exn PrismaClient ι × Notes ι}
    (h : Threads.Observed (Surroundings env) (StoresLater env code) (takeNotes code)
      ((clientCalls env code).pool s pcs, w) y) (hs : Timed s pcs w) :
    ∃ s' pcs', y.1 = (clientCalls env code).pool s' pcs' ∧ Timed s' pcs' y.2 :=
  (clientCalls env code).observed_invariant (J := Timed) h
    (fun _ _ _ _ hmove hj => hj.surroundings hmove)
    (fun _ _ _ _ _ _ hlater hmove hj => hj.call hlater hmove) hs

omit [DecidableEq ι] in
theorem Timed.start (hs : s.Started) : Timed s (fun _ : ι => .start) Notes.empty := by
  constructor
  · constructor
    · rw [hs.clientMap, hs.lastUsedMap]
      simp
    · rw [hs.lastUsedMap]
      intro c t ht
      cases ht
    · rw [hs.lastUsedMap]
      intro c t ht
      cases ht
    · exact fun _ _ => rfl
  · exact fun _ => rfl
  · intro i n hn
    cases hn

/-- As long as no call stores its client under an earlier time than its code has, stamps
do not decrease, none is before a call that has returned, and no code is evicted in the
place of one that was used before. -/
theorem times_hold {p : Threads Host Exn PrismaClient ι} {w : Notes ι} (hs : s.Started)
    (h : Threads.Observed (Surroundings env) (StoresLater env code) (takeNotes code)
      (starting env code s, Notes.empty) (p, w)) :
    TimesHold env code (StoresLater env code) p w := by
  rw [starting_eq] at h
  obtain ⟨s', pcs, hp, htimed⟩ := Timed.observed h (Timed.start hs)
  obtain rfl : p = (clientCalls env code).pool s' pcs := hp
  constructor
  · intro l p' hstep c hc hc'
    obtain ⟨t'', pcs'', hp', htimed'⟩ := Timed.observed
      (y := (p', takeNotes code l ((clientCalls env code).pool s' pcs) p' w))
      (.single ⟨l, hstep, rfl⟩) htimed
    obtain rfl : p' = (clientCalls env code).pool t'' pcs'' := hp'
    obtain ⟨t, ht⟩ := OrderedMap.mem_keys.mp ((htimed.stamps.keys c).mp hc)
    obtain ⟨t', ht'⟩ := OrderedMap.mem_keys.mp ((htimed'.stamps.keys c).mp hc')
    refine ⟨t, t', ht, ht', ?_⟩
    exact (htimed.stamps.greatest c t ht).mono (htimed'.stamps.greatest c t' ht')
      fun n hn => ⟨hc', Or.inl hn⟩
  · intro c t ht n hn
    exact (htimed.stamps.greatest c t ht).2 hn
  · intro k hk hdropped c hc n hn
    have hlru : leastRecentlyUsed s' = some k := by
      by_contra hne
      apply hdropped
      change k ∈ (evictLeastRecentlyUsedClient s').clientMap.keys
      rw [evict_eq, s'.clientMap_dropAll, OrderedMap.mem_keys_deleteAll, Option.mem_toList]
      exact ⟨hne, hk⟩
    obtain ⟨t, ht, hleast⟩ := leastRecentlyUsed_some hlru
    obtain ⟨t', ht'⟩ := OrderedMap.mem_keys.mp ((htimed.stamps.keys c).mp hc)
    have hgreatest := htimed.stamps.greatest c t' ht'
    have hlast : n ≤ t := (htimed.stamps.greatest k t ht).2 hn
    exact ⟨t', hgreatest.1, Nat.le_trans hlast (hleast c t' ht')⟩

end Observer

theorem times_hold_sample : ∃ w, TimesHold Config.sample (fun i => if i then "b" else "a")
    (StoresLater Config.sample fun i => if i then "b" else "a")
    (takingTurns (fun p i => p.state.lastUsedMap.has (if i then "b" else "a") = false)
      fun i => if i then "b" else "a") w := by
  have hrun := Threads.schedule_runs (Surroundings Config.sample)
    (fun p i => p.state.lastUsedMap.has (if i then "b" else "a") = false)
    (List.replicate 7 [false, true]).flatten
    (starting Config.sample (fun i => if i then "b" else "a") Host.sample)
  have hlater : Threads.Runs (Surroundings Config.sample)
      (StoresLater Config.sample fun i => if i then "b" else "a")
      (starting Config.sample (fun i => if i then "b" else "a") Host.sample)
      (takingTurns (fun p i => p.state.lastUsedMap.has (if i then "b" else "a") = false)
        fun i => if i then "b" else "a") := by
    refine hrun.mono fun p i h now client _ t ht => ?_
    have hin := OrderedMap.has_iff.mpr (OrderedMap.mem_keys.mpr ⟨t, ht⟩)
    exact absurd hin (by simp [h])
  obtain ⟨w, hw⟩ := hlater.observed (takeNotes fun i => if i then "b" else "a") Notes.empty
  exact ⟨w, times_hold Host.started_sample hw⟩

/-- A call for `a` that misses at 1000. -/
def missed : Threads Host Exn PrismaClient Bool :=
  Threads.schedule (fun _ _ => True) [false] (starting Config.sample (fun _ => "a") Host.sample)

/-- It is about to store its client after another one has missed and stored at 2000. -/
def slowMiss : Threads Host Exn PrismaClient Bool :=
  Threads.schedule (fun _ _ => True) (List.replicate 7 true ++ List.replicate 3 false)
    { missed with state := { missed.state with now := 2000 } }

theorem slowMiss_runs : Threads.Runs (Surroundings Config.sample) (fun _ _ => True)
    (starting Config.sample (fun _ => "a") Host.sample) slowMiss := by
  have hmissed := Threads.schedule_runs (Surroundings Config.sample) (fun _ _ => True) [false]
    (starting Config.sample (fun _ => "a") Host.sample)
  have hclock : Threads.Step (Surroundings Config.sample) (fun _ _ => True) none missed
      { missed with state := { missed.state with now := 2000 } } :=
    .env (.outside ⟨rfl, rfl, rfl, Nat.le_refl _, show 1000 ≤ 2000 by decide⟩)
  exact (hmissed.tail ⟨none, hclock⟩).trans (Threads.schedule_runs _ _ _ _)

/-- The slow call overwrites the later stamp with its own start. -/
theorem slow_miss_moves_time_back :
    ¬ ∀ (env : Config) (code : Bool → String) (s : Host) (p : Threads Host Exn PrismaClient Bool)
        (w : Notes Bool), s.Started →
      Threads.Observed (Surroundings env) (fun _ _ => True) (takeNotes code)
        (starting env code s, Notes.empty) (p, w) →
      TimesHold env code (fun _ _ => True) p w := by
  intro h
  obtain ⟨w, hw⟩ := slowMiss_runs.observed (takeNotes fun _ => "a") Notes.empty
  have hstep : Threads.Step (Surroundings Config.sample) (fun _ _ => True) (some false) slowMiss
      (Threads.advance (fun _ _ => True) slowMiss false) :=
    Threads.step_advance _ _ ⟨_, _, rfl⟩ trivial
  have hholds := h Config.sample (fun _ => "a") Host.sample slowMiss w Host.started_sample hw
  obtain ⟨t, t', ht, ht', hle⟩ := hholds.monotone _ _ hstep "a" (by decide +kernel)
    (by decide +kernel)
  have h1 : slowMiss.state.lastUsedMap.get? "a" = some 2000 := by decide +kernel
  have h2 : (Threads.advance (fun _ _ => True) slowMiss false).state.lastUsedMap.get? "a" =
      some 1000 := by decide +kernel
  rw [h1, Option.some.injEq] at ht
  rw [h2, Option.some.injEq] at ht'
  omega

end NestUserService.Tenant
