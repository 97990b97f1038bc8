import NestUserService.Shared.Keys

/-!
# What the scan loops leave behind

Both loops are specified next to a clock that may advance at every await. `T`
restricts the instants the clock may show: with `T` the single instant of the start,
the specifications describe an uninterrupted run exactly. The patterns are assumed to
be plain text before the star, that is, no glob character occurs in the client code or
the user id.
-/

namespace NestUserService.Shared

open Lib NestUserService.Core

/-- Everything but the clock, the cache and the draws is as in `w₀`. -/
structure CacheFrame (T : Nat → Prop) (w₀ w : World) (n : Nat) : Prop where
  root : w.root = w₀.root
  tenants : w.tenants = w₀.tenants
  mails : w.mails = w₀.mails
  slack : w.slack = w₀.slack
  draws : w.draws = w₀.draws + n
  now : w₀.now ≤ w.now
  clock : T w.now

theorem CacheFrame.elapse {T : Nat → Prop} {w₀ w : World} {n : Nat} (h : CacheFrame T w₀ w n)
    {t : Nat} (hle : w.now ≤ t) (hT : T w.now → T t) : CacheFrame T w₀ { w with now := t } n :=
  ⟨h.root, h.tenants, h.mails, h.slack, h.draws, h.now.trans hle, hT h.clock⟩

theorem CacheFrame.redis {T : Nat → Prop} {w₀ w : World} {n : Nat} (h : CacheFrame T w₀ w n)
    (s : Store CacheValue) : CacheFrame T w₀ { w with redis := s } n :=
  ⟨h.root, h.tenants, h.mails, h.slack, h.draws, h.now, h.clock⟩

/-- The keys one reply returns. -/
theorem mem_reply {w : World} {pre : String} (hp : Glob.Plain pre) {r : String → Bool}
    {k : String} :
    (k ∈ (w.redis.liveKeys w.now).filter fun k => r k && Glob.isMatch (pre ++ "*") k) ↔
      (w.redis.find? w.now k).isSome = true ∧ r k = true ∧ HasPrefix pre k := by
  rw [List.mem_filter, Store.mem_liveKeys, Bool.and_eq_true, Glob.isMatch_plain_star hp]
  rfl

section Blacklist

variable (env : Env) (T : Nat → Prop) (c u : String) (w₀ : World)

/-- `k` has the entry that the loop writes, stamped since `w₀`. -/
def Marked (w : World) (k : String) : Prop :=
  ∃ t, w₀.now ≤ t ∧ t ≤ w.now ∧ T t ∧
    w.redis.lookup k = some (Entry.stamp (.text "blacklisted") t (blacklistTtl env))

/-- `k` is the blacklist key for an access key that is live in `w₀`. -/
def Found (k : String) : Prop :=
  ∃ k', HasPrefix (accessPattern c u) k' ∧ (w₀.redis.find? w₀.now k').isSome = true ∧
    tokenOfKey k' ≠ "" ∧ k = blacklistKey c u (tokenOfKey k')

/-- The loop at work: the access keys that are still live are pending or marked. -/
structure Blacklisting (pending : String → Prop) (w : World) : Prop where
  frame : CacheFrame T w₀ w 1
  old : ∀ k, w.redis.lookup k = w₀.redis.lookup k ∨ Found c u w₀ k ∧ Marked env T w₀ w k
  new : ∀ k', HasPrefix (accessPattern c u) k' → tokenOfKey k' ≠ "" →
    (w.redis.find? w.now k').isSome = true →
    pending k' ∨ Marked env T w₀ w (blacklistKey c u (tokenOfKey k'))

variable {env T c u w₀}

theorem Marked.elapse {w : World} {k : String} (h : Marked env T w₀ w k) {t : Nat}
    (hle : w.now ≤ t) : Marked env T w₀ { w with now := t } k := by
  obtain ⟨t₀, h0, h1, hT, hl⟩ := h
  exact ⟨t₀, h0, h1.trans hle, hT, hl⟩

theorem Blacklisting.stable (pending : String → Prop) :
    Async.Stable (Elapses T) (Blacklisting env T c u w₀ pending) := by
  rintro w _ ⟨t, rfl, hle, hT⟩ h
  refine ⟨h.frame.elapse hle hT, fun k => ?_, fun k' hp ht hl => ?_⟩
  · exact (h.old k).imp id fun ⟨hf, hm⟩ => ⟨hf, hm.elapse hle⟩
  · exact (h.new k' hp ht (Store.find?_isSome_of_le rfl hle hl)).imp id fun hm => hm.elapse hle

theorem Blacklisting.weaken {p q : String → Prop} {w : World}
    (h : Blacklisting env T c u w₀ p w)
    (hpq : ∀ k, tokenOfKey k ≠ "" → (w.redis.find? w.now k).isSome = true → p k → q k) :
    Blacklisting env T c u w₀ q w :=
  ⟨h.frame, h.old, fun k' hp ht hl => (h.new k' hp ht hl).imp (hpq k' ht hl) id⟩

/-- The loop does not rewrite access keys. -/
theorem Blacklisting.access_kept {pending : String → Prop} {w : World}
    (h : Blacklisting env T c u w₀ pending w) {k : String} (hk : HasPrefix (accessPattern c u) k) :
    w.redis.lookup k = w₀.redis.lookup k := by
  rcases h.old k with ho | ⟨⟨k', -, -, -, rfl⟩, -⟩
  · exact ho
  · exact absurd hk (blacklistKey_not_access c u _)

/-- One write of the loop. -/
def marking (env : Env) (c u key : String) (w : World) : World :=
  { w with
    redis := w.redis.put (blacklistKey c u (tokenOfKey key))
      (Entry.stamp (.text "blacklisted") w.now (blacklistTtl env)) }

theorem cacheSet_marking (env : Env) (c u key : String) (w : World) :
    cacheSet (blacklistKey c u (tokenOfKey key)) (.text "blacklisted") (blacklistTtl env) w =
      .ok () (marking env c u key w) := rfl

theorem lookup_marking_self (env : Env) (c u key : String) (w : World) :
    (marking env c u key w).redis.lookup (blacklistKey c u (tokenOfKey key)) =
      some (Entry.stamp (.text "blacklisted") w.now (blacklistTtl env)) := by
  unfold marking
  exact Store.lookup_put_self _ _ _

theorem lookup_marking_ne (env : Env) {c u key k : String} (w : World)
    (h : k ≠ blacklistKey c u (tokenOfKey key)) :
    (marking env c u key w).redis.lookup k = w.redis.lookup k := by
  unfold marking
  exact Store.lookup_put_ne _ _ h

/-- A write takes its key off the pending ones. -/
theorem Blacklisting.mark {p : String → Prop} {w : World} {key : String}
    (h : Blacklisting env T c u w₀ p w) (hp : HasPrefix (accessPattern c u) key)
    (hl : (w₀.redis.find? w₀.now key).isSome = true) (ht : tokenOfKey key ≠ "") :
    Blacklisting env T c u w₀ (fun k => p k ∧ k ≠ key) (marking env c u key w) := by
  have hself : Marked env T w₀ (marking env c u key w) (blacklistKey c u (tokenOfKey key)) :=
    ⟨w.now, h.frame.now, Nat.le_refl _, h.frame.clock, lookup_marking_self env c u key w⟩
  have hmarked {k : String} (hm : Marked env T w₀ w k) :
      Marked env T w₀ (marking env c u key w) k := by
    by_cases hk : k = blacklistKey c u (tokenOfKey key)
    · rw [hk]; exact hself
    · obtain ⟨t, h0, h1, hT, hl⟩ := hm
      exact ⟨t, h0, h1, hT, (lookup_marking_ne env w hk).trans hl⟩
  refine ⟨h.frame.redis _, fun k => ?_, fun k' hp' ht' hl' => ?_⟩
  · by_cases hk : k = blacklistKey c u (tokenOfKey key)
    · exact Or.inr ⟨⟨key, hp, hl, ht, hk⟩, hk ▸ hself⟩
    · exact (h.old k).imp (fun ho => (lookup_marking_ne env w hk).trans ho)
        fun ⟨hf, hm⟩ => ⟨hf, hmarked hm⟩
  · by_cases hk : k' = key
    · exact Or.inr (hk ▸ hself)
    · have hne : k' ≠ blacklistKey c u (tokenOfKey key) := by
        rintro rfl
        exact blacklistKey_not_access c u _ hp'
      have hlw : (w.redis.find? w.now k').isSome = true := by
        rwa [← Store.find?_of_lookup_eq (lookup_marking_ne env w hne)]
      exact (h.new k' hp' ht' hlw).imp (fun hq => ⟨hq, hk⟩) hmarked

/-- The keys of a reply that are still to be handled. -/
def Listed (c u : String) (w₀ : World) (keys : List String) : Prop :=
  ∀ k ∈ keys, HasPrefix (accessPattern c u) k ∧ (w₀.redis.find? w₀.now k).isSome = true

theorem blacklistFound_triple (key : String) (keys : List String) (p : String → Prop) :
    Async.Triple (Elapses T)
      (fun w => Blacklisting env T c u w₀ (fun k => k ∈ key :: keys ∨ p k) w ∧
        Listed c u w₀ (key :: keys))
      (blacklistFound env c u key)
      (fun _ w => Blacklisting env T c u w₀ (fun k => k ∈ keys ∨ p k) w ∧ Listed c u w₀ keys)
      (fun _ _ => False) := by
  unfold blacklistFound
  refine Async.Triple.ite (fun ht => ?_) (fun ht => ?_)
  · refine Async.Triple.await ?_ ?_
    · exact fun w w' hr h => ⟨Blacklisting.stable _ w w' hr h.1, h.2⟩
    · rintro w ⟨h, hlist⟩
      obtain ⟨hp, hl⟩ := hlist key (by simp)
      rw [cacheSet_marking]
      refine ⟨(h.mark hp hl ht).weaken ?_, fun k hk => hlist k (by simp [hk])⟩
      rintro k - - ⟨hk | hk, hne⟩
      · exact Or.inl ((List.mem_cons.mp hk).resolve_left hne)
      · exact Or.inr hk
  · refine Async.Triple.pure ?_
    rintro w ⟨h, hlist⟩
    refine ⟨h.weaken ?_, fun k hk => hlist k (by simp [hk])⟩
    rintro k hk - (hm | hm)
    · rcases List.mem_cons.mp hm with rfl | hm
      · exact absurd hk ht
      · exact Or.inl hm
    · exact Or.inr hm

theorem blacklistReply_triple (hplain : Glob.Plain (accessPattern c u)) (r : String → Bool)
    (rs : List (String → Bool)) :
    Async.Triple (Elapses T)
      (Blacklisting env T c u w₀ fun k => ∃ r' ∈ r :: rs, r' k = true)
      (blacklistReply env c u r)
      (fun _ => Blacklisting env T c u w₀ fun k => ∃ r' ∈ rs, r' k = true)
      (fun _ _ => False) := by
  unfold blacklistReply
  refine Async.Triple.bind (Q := fun keys w =>
    Blacklisting env T c u w₀ (fun k => k ∈ keys ∨ ∃ r' ∈ rs, r' k = true) w ∧
      Listed c u w₀ keys) ?_ fun keys => ?_
  · refine Async.Triple.await (Blacklisting.stable _) fun w h => ?_
    simp only [scan, pattern_star]
    refine ⟨⟨h.frame, h.old, fun k' hp ht hl => ?_⟩, fun k hk => ?_⟩
    · rcases h.new k' hp ht hl with ⟨r', hr', hk⟩ | hm
      · rcases List.mem_cons.mp hr' with rfl | hr'
        · exact Or.inl (Or.inl ((mem_reply hplain).mpr ⟨hl, hk, hp⟩))
        · exact Or.inl (Or.inr ⟨r', hr', hk⟩)
      · exact Or.inr hm
    · obtain ⟨hl, -, hp⟩ := (mem_reply hplain).mp hk
      exact ⟨hp, Store.find?_isSome_of_le (h.access_kept hp) h.frame.now hl⟩
  · have hloop := Async.Triple.forM (I := fun keys w =>
      Blacklisting env T c u w₀ (fun k => k ∈ keys ∨ ∃ r' ∈ rs, r' k = true) w ∧
        Listed c u w₀ keys) (fun key l => blacklistFound_triple key l _) keys
    refine hloop.conseq (fun _ h => h) (fun _ w h => h.1.weaken ?_) fun _ _ h => h
    rintro k - - (hk | hk)
    · exact absurd hk List.not_mem_nil
    · exact hk

/-- Every access key that is live at the end is marked. -/
theorem setUserAccessTokenBlacklistCache_triple (hplain : Glob.Plain (accessPattern c u))
    (hT : T w₀.now) :
    Async.Triple (Elapses T) (Elapses T w₀) (setUserAccessTokenBlacklistCache env c u)
      (fun _ => Blacklisting env T c u w₀ fun _ => False) (fun _ _ => False) := by
  unfold setUserAccessTokenBlacklistCache
  refine Async.Triple.bind (Q := fun plan =>
    Blacklisting env T c u w₀ fun k => ∃ r ∈ plan.replies, r k = true) ?_ fun plan => ?_
  · refine Async.Triple.await (fun _ _ hr h => h.trans hr) ?_
    rintro _ ⟨t, rfl, hle, hTt⟩
    exact ⟨⟨rfl, rfl, rfl, rfl, rfl, hle, hTt hT⟩, fun k => Or.inl rfl,
      fun k' _ _ _ => Or.inl ((env.scanPlan w₀.draws).covers k')⟩
  · have hloop := Async.Triple.forM (I := fun rs =>
      Blacklisting env T c u w₀ fun k => ∃ r ∈ rs, r k = true)
      (fun r rs => blacklistReply_triple hplain r rs) plan.replies
    refine hloop.conseq (fun _ h => h) (fun _ w h => h.weaken ?_) fun _ _ h => h
    rintro k - - ⟨r, hr, -⟩
    exact absurd hr List.not_mem_nil

end Blacklist

section Delete

variable (T : Nat → Prop) (pre : String) (w₀ : World)

/-- A deletion loop at work: what is still live under the text is pending, and what
is missing was live in `w₀`. -/
structure Deleting (pending : String → Prop) (w : World) : Prop where
  frame : CacheFrame T w₀ w 1
  changed : ∀ k, w.redis.lookup k = w₀.redis.lookup k ∨
    w.redis.lookup k = none ∧ HasPrefix pre k ∧ (w₀.redis.find? w₀.now k).isSome = true
  gone : ∀ k, HasPrefix pre k → (w.redis.find? w.now k).isSome = true → pending k

variable {T pre w₀}

theorem Deleting.stable (pending : String → Prop) :
    Async.Stable (Elapses T) (Deleting T pre w₀ pending) := by
  rintro w _ ⟨t, rfl, hle, hT⟩ h
  exact ⟨h.frame.elapse hle hT, h.changed, fun k hp hl =>
    h.gone k hp (Store.find?_isSome_of_le rfl hle hl)⟩

theorem Deleting.weaken {p q : String → Prop} {w : World} (h : Deleting T pre w₀ p w)
    (hpq : ∀ k, p k → q k) : Deleting T pre w₀ q w :=
  ⟨h.frame, h.changed, fun k hp hl => hpq k (h.gone k hp hl)⟩

/-- What is live now was live before. -/
theorem Deleting.live_before {pending : String → Prop} {w : World}
    (h : Deleting T pre w₀ pending w) {k : String}
    (hl : (w.redis.find? w.now k).isSome = true) : (w₀.redis.find? w₀.now k).isSome = true := by
  rcases h.changed k with ho | ⟨-, -, hlive⟩
  · exact Store.find?_isSome_of_le ho h.frame.now hl
  · exact hlive

theorem Deleting.del {p : String → Prop} {w : World} {key : String}
    (h : Deleting T pre w₀ p w) (hp : HasPrefix pre key)
    (hl : (w₀.redis.find? w₀.now key).isSome = true) :
    Deleting T pre w₀ (fun k => p k ∧ k ≠ key) { w with redis := w.redis.del key } := by
  refine ⟨h.frame.redis _, fun k => ?_, fun k hpk hlk => ?_⟩
  · by_cases hk : k = key
    · exact Or.inr ⟨hk ▸ Store.lookup_del_self _ _, hk ▸ hp, hk ▸ hl⟩
    · have hsame : (w.redis.del key).lookup k = w.redis.lookup k := Store.lookup_del_ne _ hk
      simpa only [hsame] using h.changed k
  · have hk : k ≠ key := by
      rintro rfl
      simp [Store.find?] at hlk
    exact ⟨h.gone k hpk (by rwa [← Store.find?_del_ne _ _ hk]), hk⟩

theorem deleteReply_triple (hplain : Glob.Plain pre) (r : String → Bool)
    (rs : List (String → Bool)) :
    Async.Triple (Elapses T)
      (Deleting T pre w₀ fun k => ∃ r' ∈ r :: rs, r' k = true)
      (deleteReply (pre ++ "*") r)
      (fun _ => Deleting T pre w₀ fun k => ∃ r' ∈ rs, r' k = true)
      (fun _ _ => False) := by
  unfold deleteReply
  let I : List String → World → Prop := fun keys w =>
    Deleting T pre w₀ (fun k => k ∈ keys ∨ ∃ r' ∈ rs, r' k = true) w ∧
      ∀ k ∈ keys, HasPrefix pre k ∧ (w₀.redis.find? w₀.now k).isSome = true
  refine Async.Triple.bind (Q := I) ?_ fun keys => ?_
  · refine Async.Triple.await (Deleting.stable _) fun w h => ?_
    refine ⟨⟨h.frame, h.changed, fun k hp hl => ?_⟩, fun k hk => ?_⟩
    · obtain ⟨r', hr', hk⟩ := h.gone k hp hl
      rcases List.mem_cons.mp hr' with rfl | hr'
      · exact Or.inl ((mem_reply hplain).mpr ⟨hl, hk, hp⟩)
      · exact Or.inr ⟨r', hr', hk⟩
    · obtain ⟨hl, -, hp⟩ := (mem_reply hplain).mp hk
      exact ⟨hp, h.live_before hl⟩
  · have hstep (key : String) (l : List String) : Async.Triple (Elapses T) (I (key :: l))
        (Async.await (cacheDel key)) (fun _ => I l) (fun _ _ => False) := by
      refine Async.Triple.await ?_ ?_
      · exact fun w w' hr h => ⟨Deleting.stable _ w w' hr h.1, h.2⟩
      · rintro w ⟨h, hlist⟩
        obtain ⟨hp, hl⟩ := hlist key (by simp)
        refine ⟨(h.del hp hl).weaken ?_, fun k hk => hlist k (by simp [hk])⟩
        rintro k ⟨hk | hk, hne⟩
        · exact Or.inl ((List.mem_cons.mp hk).resolve_left hne)
        · exact Or.inr hk
    refine (Async.Triple.forM hstep keys).conseq (fun _ h => h)
      (fun _ w h => h.1.weaken ?_) fun _ _ h => h
    rintro k (hk | hk)
    · exact absurd hk List.not_mem_nil
    · exact hk

/-- Nothing under the text is live at the end. -/
theorem deleteKeysByPattern_triple (env : Env) (hplain : Glob.Plain pre) (hT : T w₀.now) :
    Async.Triple (Elapses T) (Elapses T w₀) (deleteKeysByPattern env (pre ++ "*"))
      (fun _ => Deleting T pre w₀ fun _ => False) (fun _ _ => False) := by
  unfold deleteKeysByPattern
  refine Async.Triple.bind (Q := fun plan =>
    Deleting T pre w₀ fun k => ∃ r ∈ plan.replies, r k = true) ?_ fun plan => ?_
  · refine Async.Triple.await (fun _ _ hr h => h.trans hr) ?_
    rintro _ ⟨t, rfl, hle, hTt⟩
    exact ⟨⟨rfl, rfl, rfl, rfl, rfl, hle, hTt hT⟩, fun k => Or.inl rfl,
      fun k _ _ => (env.scanPlan w₀.draws).covers k⟩
  · have hloop := Async.Triple.forM (I := fun rs =>
      Deleting T pre w₀ fun k => ∃ r ∈ rs, r k = true)
      (fun r rs => deleteReply_triple hplain r rs) plan.replies
    refine hloop.conseq (fun _ h => h) (fun _ w h => h.weaken ?_) fun _ _ h => h
    rintro k ⟨r, hr, -⟩
    exact absurd hr List.not_mem_nil

end Delete

section Sweep

variable (env : Env) (T : Nat → Prop) (c u : String) (w₀ : World)

/-- The access and refresh keys of a user. -/
def TokenKey (k : String) : Prop := HasPrefix (accessPattern c u) k ∨ HasPrefix (refreshPattern c u) k

theorem not_tokenKey_blacklistKey (t : String) : ¬ TokenKey c u (blacklistKey c u t) := by
  rintro (h | h)
  · exact blacklistKey_not_access c u t h
  · exact blacklistKey_not_refresh c u t h

/-- The state after `clearUserAllTokenCaches`. -/
structure Clearing (w : World) : Prop where
  frame : CacheFrame T w₀ w 2
  changed : ∀ k, w.redis.lookup k = w₀.redis.lookup k ∨
    w.redis.lookup k = none ∧ TokenKey c u k ∧ (w₀.redis.find? w₀.now k).isSome = true
  gone : ∀ k, TokenKey c u k → w.redis.find? w.now k = none

/-- The state after blacklisting and clearing, as both logins begin. -/
structure Swept (w : World) : Prop where
  frame : CacheFrame T w₀ w 3
  changed : ∀ k, w.redis.lookup k = w₀.redis.lookup k ∨ Found c u w₀ k ∧ Marked env T w₀ w k ∨
    w.redis.lookup k = none ∧ TokenKey c u k ∧ (w₀.redis.find? w₀.now k).isSome = true
  gone : ∀ k, TokenKey c u k → w.redis.find? w.now k = none
  marked : ∀ k, HasPrefix (accessPattern c u) k → tokenOfKey k ≠ "" →
    (w₀.redis.find? w.now k).isSome = true →
    Marked env T w₀ w (blacklistKey c u (tokenOfKey k))

variable {env T c u w₀}

theorem CacheFrame.trans {w w' : World} {m n : Nat} (h : CacheFrame T w₀ w m)
    (h' : CacheFrame T w w' n) : CacheFrame T w₀ w' (m + n) :=
  ⟨h'.root.trans h.root, h'.tenants.trans h.tenants, h'.mails.trans h.mails,
    h'.slack.trans h.slack, by rw [h'.draws, h.draws, Nat.add_assoc], h.now.trans h'.now, h'.clock⟩

theorem clearUserAllTokenCaches_triple (env : Env) (hc : Glob.Plain c) (hu : Glob.Plain u)
    (hT : T w₀.now) :
    Async.Triple (Elapses T) (Elapses T w₀) (clearUserAllTokenCaches env c u)
      (fun _ => Clearing T c u w₀) (fun _ _ => False) := by
  intro s hs
  unfold clearUserAllTokenCaches
  simp only [pattern_star]
  have hfirst := deleteKeysByPattern_triple (T := T) env (plain_accessPattern hc hu) hT s hs
  refine hfirst.bind fun _ w₁ h₁ => ?_
  have hsecond := deleteKeysByPattern_triple (T := T) env (plain_refreshPattern hc hu)
    h₁.frame.clock w₁ (elapses_refl T w₁)
  refine hsecond.mono (fun _ w₂ h₂ => ?_) fun _ _ h => h
  refine ⟨h₁.frame.trans h₂.frame, fun k => ?_, ?_⟩
  · rcases h₂.changed k with ho | ⟨hn, hp, hl⟩
    · rw [ho]
      exact (h₁.changed k).imp id fun ⟨hn, hp, hl⟩ => ⟨hn, Or.inl hp, hl⟩
    · exact Or.inr ⟨hn, Or.inr hp, h₁.live_before hl⟩
  · rintro k (hk | hk)
    · refine Option.not_isSome_iff_eq_none.mp fun hl => h₁.gone k hk ?_
      exact h₂.live_before hl
    · exact Option.not_isSome_iff_eq_none.mp (h₂.gone k hk)

theorem swept_of_blacklisting_clearing {w₁ w : World}
    (hb : Blacklisting env T c u w₀ (fun _ => False) w₁) (hc : Clearing T c u w₁ w) :
    Swept env T c u w₀ w := by
  have hkeep {k : String} (hm : Marked env T w₀ w₁ k) (hk : ¬ TokenKey c u k) :
      Marked env T w₀ w k := by
    obtain ⟨t, h0, h1, hTt, hl⟩ := hm
    refine ⟨t, h0, h1.trans hc.frame.now, hTt, ?_⟩
    rcases hc.changed k with ho | ⟨-, hp, -⟩
    · exact ho.trans hl
    · exact absurd hp hk
  refine ⟨hb.frame.trans hc.frame, fun k => ?_, hc.gone, fun k hk ht hl => ?_⟩
  · rcases hc.changed k with ho | ⟨hn, hp, hl⟩
    · rw [ho]
      refine (hb.old k).imp id fun ⟨hf, hm⟩ => Or.inl ⟨hf, hkeep hm ?_⟩
      obtain ⟨k', -, -, -, rfl⟩ := hf
      exact not_tokenKey_blacklistKey c u _
    · refine Or.inr (Or.inr ⟨hn, hp, ?_⟩)
      rcases hb.old k with ho | ⟨⟨k', -, -, -, rfl⟩, -⟩
      · exact Store.find?_isSome_of_le ho hb.frame.now hl
      · exact absurd hp (not_tokenKey_blacklistKey c u _)
  · refine hkeep ((hb.new k hk ht ?_).resolve_left id) (not_tokenKey_blacklistKey c u _)
    exact Store.find?_isSome_of_le (hb.access_kept hk).symm hc.frame.now hl

/-- Without interference the sweep is a function of the cache. -/
theorem Swept.lookup_eq {w : World} (h : Swept env (· = w₀.now) c u w₀ w) (k : String) :
    (Found c u w₀ k → w.redis.lookup k =
      some (Entry.stamp (.text "blacklisted") w₀.now (blacklistTtl env))) ∧
    (TokenKey c u k → (w₀.redis.find? w₀.now k).isSome = true → w.redis.lookup k = none) ∧
    (¬ Found c u w₀ k → ¬ (TokenKey c u k ∧ (w₀.redis.find? w₀.now k).isSome = true) →
      w.redis.lookup k = w₀.redis.lookup k) := by
  have hnow : w.now = w₀.now := h.frame.clock
  refine ⟨?_, fun hk hl => ?_, fun hf hk => ?_⟩
  · rintro ⟨k', hp, hl, ht, rfl⟩
    obtain ⟨t, -, -, rfl, hlk⟩ := h.marked k' hp ht (by rwa [hnow])
    exact hlk
  · rcases h.changed k with ho | ⟨⟨k', -, -, -, rfl⟩, -⟩ | ⟨hn, -, -⟩
    · have hgone := h.gone k hk
      rw [hnow, Store.find?_of_lookup_eq ho] at hgone
      rw [hgone] at hl
      cases hl
    · exact absurd hk (not_tokenKey_blacklistKey c u _)
    · exact hn
  · rcases h.changed k with ho | ⟨hf', -⟩ | ⟨-, hk', hl⟩
    · exact ho
    · exact absurd hf' hf
    · exact absurd ⟨hk', hl⟩ hk

variable (env) in
theorem run_setUserAccessTokenBlacklistCache (hc : Glob.Plain c) (hu : Glob.Plain u) (w : World) :
    ∃ w', (setUserAccessTokenBlacklistCache env c u).run w = .ok () w' ∧
      Blacklisting env (· = w.now) c u w (fun _ => False) w' := by
  have htriple : Async.Triple (Elapses (· = w.now)) (Elapses (· = w.now) w)
      (setUserAccessTokenBlacklistCache env c u)
      (fun _ => Blacklisting env (· = w.now) c u w fun _ => False) (fun _ _ => False) :=
    setUserAccessTokenBlacklistCache_triple (plain_accessPattern hc hu) rfl
  have h := htriple.run (elapses_refl _) (elapses_refl _ w)
  cases hrun : (setUserAccessTokenBlacklistCache env c u).run w with
  | ok a w' => rw [hrun] at h; exact ⟨w', rfl, h⟩
  | error e w' => rw [hrun] at h; exact h.elim

variable (env) in
theorem run_clearUserAllTokenCaches (hc : Glob.Plain c) (hu : Glob.Plain u) (w : World) :
    ∃ w', (clearUserAllTokenCaches env c u).run w = .ok () w' ∧ Clearing (· = w.now) c u w w' := by
  have htriple : Async.Triple (Elapses (· = w.now)) (Elapses (· = w.now) w)
      (clearUserAllTokenCaches env c u) (fun _ => Clearing (· = w.now) c u w) (fun _ _ => False) :=
    clearUserAllTokenCaches_triple env hc hu rfl
  have h := htriple.run (elapses_refl _) (elapses_refl _ w)
  cases hrun : (clearUserAllTokenCaches env c u).run w with
  | ok a w' => rw [hrun] at h; exact ⟨w', rfl, h⟩
  | error e w' => rw [hrun] at h; exact h.elim

end Sweep

end NestUserService.Shared
