import NestUserService.Auth.IssuePaths
import NestUserService.Auth.SingleSession

/-!
# Spent tokens

A token is spent when it is on the blacklist or when the next blacklist loop puts it
there. No assumption is made on client codes and user ids: where they hold glob
characters, the scans find more keys.
-/

namespace NestUserService.Auth.FreshTokens

open Lib NestUserService.Core Shared

/-- The scan for the user's access tokens returns the key. -/
def Scanned (c u k : String) : Prop :=
  Glob.isMatch (getUserAccessTokenPrefix c u ++ ":*") k = true

instance (c u k : String) : Decidable (Scanned c u k) := inferInstanceAs (Decidable (_ = true))

/-- The token is on the blacklist, or the next blacklist loop puts it there. -/
def Spent (c u T : String) (w : World) : Prop :=
  Blacklisted w c u T ∨ T ≠ "" ∧ ∃ k, Scanned c u k ∧ tokenOfKey k = T ∧
    (w.redis.find? w.now k).isSome = true

instance (c u T : String) (w : World) : Decidable (Spent c u T w) :=
  decidable_of_iff (Blacklisted w c u T ∨ T ≠ "" ∧ ∃ k ∈ w.redis.liveKeys w.now,
    Scanned c u k ∧ tokenOfKey k = T) <| or_congr Iff.rfl <| and_congr Iff.rfl <| exists_congr
      fun k => by rw [Store.mem_liveKeys, and_comm, and_assoc]

section Spent

variable {c u T : String} {w w' : World}

theorem blacklisted_iff : Blacklisted w c u T ↔
    ∃ v, w.redis.find? w.now (blacklistKey c u T) = some v ∧ v.truthy = true := by
  unfold Blacklisted
  cases w.redis.find? w.now (blacklistKey c u T) <;> simp

/-- What is visible in `w'` is visible in `w`. -/
def Fewer (w w' : World) : Prop :=
  ∀ k v, w'.redis.find? w'.now k = some v → w.redis.find? w.now k = some v

theorem Fewer.blacklisted (h : Fewer w w') (hb : Blacklisted w' c u T) : Blacklisted w c u T := by
  obtain ⟨v, hv, ht⟩ := blacklisted_iff.mp hb
  exact blacklisted_iff.mpr ⟨v, h _ _ hv, ht⟩

theorem Fewer.spent (h : Fewer w w') (hs : Spent c u T w') : Spent c u T w := by
  refine hs.imp h.blacklisted fun ⟨hne, k, hk, ht, hl⟩ => ⟨hne, k, hk, ht, ?_⟩
  obtain ⟨v, hv⟩ := Option.isSome_iff_exists.mp hl
  rw [h k v hv]
  rfl

theorem fewer_elapses (h : Elapses (fun _ => True) w w') : Fewer w w' := by
  obtain ⟨t, rfl, hle, -⟩ := h
  intro k v hv
  obtain ⟨e, he, hlive, rfl⟩ := Store.find?_eq_some.mp hv
  exact Store.find?_eq_some.mpr ⟨e, he, Entry.live_of_le hle hlive, rfl⟩

theorem blacklistKey_inj {T' : String} (h : blacklistKey c u T = blacklistKey c u T') : T = T' :=
  (String.append_right_inj _).mp h

/-- A mark leaves the entries of the other tokens. -/
theorem lookup_marking_other (env : Env) {key : String} (w : World) (hT : T ≠ tokenOfKey key) :
    (marking env c u key w).redis.lookup (blacklistKey c u T) =
      w.redis.lookup (blacklistKey c u T) :=
  lookup_marking_ne env w fun h => hT (blacklistKey_inj h)

/-- A mark adds no other token, whatever the scan makes of its key. -/
theorem spent_marking (env : Env) {key : String} (hs : Spent c u T (marking env c u key w)) :
    T = tokenOfKey key ∨ Spent c u T w := by
  by_cases hT : T = tokenOfKey key
  · exact Or.inl hT
  refine Or.inr (hs.imp (fun hb => ?_) fun ⟨hne, k, hk, ht, hl⟩ => ⟨hne, k, hk, ht, ?_⟩)
  · obtain ⟨v, hv, hv'⟩ := blacklisted_iff.mp hb
    refine blacklisted_iff.mpr ⟨v, Eq.trans ?_ hv, hv'⟩
    exact (Store.find?_of_lookup_eq (lookup_marking_other env w hT)).symm
  · have hne' : k ≠ blacklistKey c u (tokenOfKey key) := by
      rintro rfl
      exact hT (by rw [← ht, tokenOfKey_blacklistKey (noColon_tokenOfKey key)])
    have hsame : (marking env c u key w).redis.find? w.now k = w.redis.find? w.now k :=
      Store.find?_of_lookup_eq (lookup_marking_ne env w hne')
    rwa [← hsame]

end Spent

section Blacklist

variable {env : Env} {c u : String} {w₀ : World}

/-- Nothing is spent that was not spent in `w₀`. -/
def NoneSpent (c u : String) (w₀ w : World) : Prop := ∀ T, Spent c u T w → Spent c u T w₀

theorem NoneSpent.fewer {w w' : World} (h : NoneSpent c u w₀ w) (hf : Fewer w w') :
    NoneSpent c u w₀ w' := fun T hs => h T (hf.spent hs)

theorem NoneSpent.stable : Async.Stable (Elapses fun _ => True) (NoneSpent c u w₀) :=
  fun _ _ hr h => h.fewer (fewer_elapses hr)

/-- The keys of a reply hold tokens that were spent before. -/
def SpentKeys (c u : String) (w₀ : World) (keys : List String) : Prop :=
  ∀ k ∈ keys, tokenOfKey k ≠ "" → Spent c u (tokenOfKey k) w₀

theorem blacklistFound_spent (env : Env) (key : String) (keys : List String) :
    Async.Triple (Elapses fun _ => True)
      (fun w => NoneSpent c u w₀ w ∧ SpentKeys c u w₀ (key :: keys)) (blacklistFound env c u key)
      (fun _ w => NoneSpent c u w₀ w ∧ SpentKeys c u w₀ keys) (fun _ _ => True) := by
  have hrest (h : SpentKeys c u w₀ (key :: keys)) : SpentKeys c u w₀ keys :=
    fun k hk => h k (List.mem_cons_of_mem _ hk)
  unfold blacklistFound
  refine Async.Triple.ite (fun ht => ?_) fun _ => Async.Triple.pure fun w h => ⟨h.1, hrest h.2⟩
  refine Async.Triple.await (fun w w' hr h => ⟨NoneSpent.stable w w' hr h.1, h.2⟩) fun w h => ?_
  rw [cacheSet_marking]
  refine ⟨fun T hs => ?_, hrest h.2⟩
  rcases spent_marking env hs with rfl | hs
  · exact h.2 key List.mem_cons_self ht
  · exact h.1 T hs

/-- The loop marks spent tokens only. -/
theorem blacklist_spent (env : Env) (c u : String) (w₀ : World) :
    Async.Triple (Elapses fun _ => True) (NoneSpent c u w₀)
      (setUserAccessTokenBlacklistCache env c u) (fun _ => NoneSpent c u w₀) (fun _ _ => True) := by
  unfold setUserAccessTokenBlacklistCache
  refine Async.Triple.bind (Q := fun _ => NoneSpent c u w₀)
    (Async.Triple.await NoneSpent.stable fun w h => h) fun plan => ?_
  refine Async.Triple.forM (I := fun _ => NoneSpent c u w₀) (fun r _ => ?_) plan.replies
  refine Async.Triple.bind (Q := fun keys w => NoneSpent c u w₀ w ∧ SpentKeys c u w₀ keys)
    (Async.Triple.await NoneSpent.stable fun w h => ⟨h, fun k hk ht => ?_⟩) fun keys => ?_
  · obtain ⟨hl, hm⟩ := List.mem_filter.mp hk
    exact h _ (Or.inr ⟨ht, k, (Bool.and_eq_true_iff.mp hm).2, rfl, Store.mem_liveKeys.mp hl⟩)
  · have hloop := Async.Triple.forM (I := fun keys w => NoneSpent c u w₀ w ∧ SpentKeys c u w₀ keys)
      (fun key l => blacklistFound_spent env key l) keys
    exact hloop.conseq (fun _ h => h) (fun _ _ h => h.1) fun _ _ h => h

variable {T : String} {n : Nat}

/-- Without interruption: the token is marked, or one of its keys is still to come. -/
def Pending (c u T : String) (n : Nat) (p : String → Prop) (w : World) : Prop :=
  w.now = n ∧ (Blacklisted w c u T ∨ ∃ k, Scanned c u k ∧ tokenOfKey k = T ∧
    (w.redis.find? w.now k).isSome = true ∧ p k)

theorem stable_eq (P : World → Prop) : Async.Stable Eq P := by
  rintro w _ rfl h
  exact h

theorem Pending.weaken {p q : String → Prop} {w : World} (h : Pending c u T n p w)
    (hpq : ∀ k, Scanned c u k → tokenOfKey k = T → (w.redis.find? w.now k).isSome = true →
      p k → q k) : Pending c u T n q w :=
  ⟨h.1, h.2.imp id fun ⟨k, hk, ht, hl, hp⟩ => ⟨k, hk, ht, hl, hpq k hk ht hl hp⟩⟩

theorem blacklisted_marking (env : Env) (c u key : String) (w : World) :
    Blacklisted (marking env c u key w) c u (tokenOfKey key) := by
  refine blacklisted_iff.mpr ⟨.text "blacklisted", ?_, rfl⟩
  refine Store.find?_eq_some.mpr ⟨_, lookup_marking_self env c u key w, Entry.live_stamp ?_, rfl⟩
  have hpos : blacklistTtl env ≠ 0 := by
    unfold blacklistTtl
    split <;> omega
  exact Or.inl (Nat.lt_add_of_pos_right (Nat.pos_of_ne_zero hpos))

/-- What was visible before a mark is visible after it, or is the mark. -/
theorem isSome_marking (key : String) {w : World} {k : String}
    (h : (w.redis.find? w.now k).isSome = true) :
    ((marking env c u key w).redis.find? w.now k).isSome = true := by
  by_cases hk : k = blacklistKey c u (tokenOfKey key)
  · obtain ⟨v, hv, -⟩ := blacklisted_iff.mp (blacklisted_marking env c u key w)
    rw [hk]
    exact Option.isSome_iff_exists.mpr ⟨v, hv⟩
  · rwa [Store.find?_of_lookup_eq (lookup_marking_ne env w hk)]

theorem blacklistFound_pending (hT : T ≠ "") (key : String) (keys : List String)
    (p : String → Prop) :
    Async.Triple Eq (Pending c u T n fun k => k ∈ key :: keys ∨ p k) (blacklistFound env c u key)
      (fun _ => Pending c u T n fun k => k ∈ keys ∨ p k) (fun _ _ => True) := by
  have hother {k : String} (hk : tokenOfKey k = T) (hkey : tokenOfKey key ≠ T)
      (h : k ∈ key :: keys ∨ p k) : k ∈ keys ∨ p k := by
    refine h.imp (fun hm => (List.mem_cons.mp hm).resolve_left ?_) id
    rintro rfl
    exact hkey hk
  unfold blacklistFound
  refine Async.Triple.ite (fun ht => ?_) fun ht => ?_
  · refine Async.Triple.await (stable_eq _) fun w h => ?_
    rw [cacheSet_marking]
    by_cases hkey : tokenOfKey key = T
    · exact ⟨h.1, Or.inl (hkey ▸ blacklisted_marking env c u key w)⟩
    · refine ⟨h.1, h.2.imp (fun hb => ?_) fun ⟨k, hk, he, hl, hp⟩ => ?_⟩
      · obtain ⟨v, hv, hv'⟩ := blacklisted_iff.mp hb
        have hsame := lookup_marking_other (c := c) (u := u) env w (Ne.symm hkey)
        exact blacklisted_iff.mpr ⟨v, (Store.find?_of_lookup_eq hsame).trans hv, hv'⟩
      · exact ⟨k, hk, he, isSome_marking key hl, hother he hkey hp⟩
  · rw [not_not] at ht
    refine Async.Triple.pure fun w h => h.weaken fun k _ he _ => hother he ?_
    rw [ht]
    exact hT.symm

/-- The loop marks every spent token. -/
theorem blacklist_pending (env : Env) (c u : String) (n : Nat) (hT : T ≠ "") :
    Async.Triple Eq (fun w => w.now = n ∧ Spent c u T w) (setUserAccessTokenBlacklistCache env c u)
      (fun _ w => w.now = n ∧ Blacklisted w c u T) (fun _ _ => True) := by
  unfold setUserAccessTokenBlacklistCache
  refine Async.Triple.bind (Q := fun plan => Pending c u T n fun k => ∃ r ∈ plan.replies, r k = true)
    (Async.Triple.await (stable_eq _) fun w h => ?_) fun plan => ?_
  · refine ⟨h.1, h.2.imp id fun ⟨_, k, hk, he, hl⟩ => ⟨k, hk, he, hl, ?_⟩⟩
    exact (env.scanPlan w.draws).covers k
  · have hreply (r : String → Bool) (rs : List (String → Bool)) :
        Async.Triple Eq (Pending c u T n fun k => ∃ r' ∈ r :: rs, r' k = true)
          (blacklistReply env c u r) (fun _ => Pending c u T n fun k => ∃ r' ∈ rs, r' k = true)
          (fun _ _ => True) := by
      refine Async.Triple.bind (Q := fun keys => Pending c u T n fun k => k ∈ keys ∨
          ∃ r' ∈ rs, r' k = true)
        (Async.Triple.await (stable_eq _) fun w h => h.weaken fun k hk _ hl hr => ?_) fun keys => ?_
      · obtain ⟨r', hr', hrk⟩ := hr
        rcases List.mem_cons.mp hr' with rfl | hr'
        · exact Or.inl (List.mem_filter.mpr ⟨Store.mem_liveKeys.mpr hl,
            Bool.and_eq_true_iff.mpr ⟨hrk, hk⟩⟩)
        · exact Or.inr ⟨r', hr', hrk⟩
      · refine (Async.Triple.forM (I := fun keys => Pending c u T n fun k => k ∈ keys ∨
          ∃ r' ∈ rs, r' k = true) (fun key l => blacklistFound_pending hT key l _) keys).conseq
          (fun _ h => h) (fun _ _ h => h.weaken fun k _ _ _ hk => ?_) fun _ _ h => h
        exact hk.resolve_left List.not_mem_nil
    refine (Async.Triple.forM (I := fun rs => Pending c u T n fun k => ∃ r ∈ rs, r k = true)
      hreply plan.replies).conseq (fun _ h => h) (fun _ w h => ⟨h.1, ?_⟩) fun _ _ h => h
    refine h.2.resolve_right ?_
    rintro ⟨k, -, -, -, r, hr, -⟩
    exact List.not_mem_nil hr

/-- Alone, the loop leaves the spent tokens on the blacklist, and no others. -/
theorem run_blacklist (env : Env) (c u : String) (w : World) :
    ∃ w', (setUserAccessTokenBlacklistCache env c u).run w = .ok () w' ∧ w'.now = w.now ∧
      NoneSpent c u w w' ∧ ∀ T, T ≠ "" → (Blacklisted w' c u T ↔ Spent c u T w) := by
  obtain ⟨a, w', hrun⟩ := (throws_blacklist env c u).returns w
  have hnone := (blacklist_spent env c u w).run (elapses_refl _) (s := w) fun _ => id
  have hclock : Async.Guarantees (fun w w' : World => w'.now = w.now) (fun _ => True)
      (setUserAccessTokenBlacklistCache env c u) :=
    (guarantees_blacklist (D := NoDel) env c u).mono (fun _ _ h => by cases h <;> rfl) fun _ h => h
  have hnow := hclock.run (fun _ => rfl) (fun _ _ _ h h' => h'.trans h) w
  rw [hrun] at hnone hnow
  refine ⟨w', hrun, hnow, hnone, fun T hT => ⟨fun hb => hnone T (Or.inl hb), fun hs => ?_⟩⟩
  have hmark := (blacklist_pending env c u w.now hT).run (fun _ => rfl) (s := w) ⟨rfl, hs⟩
  rw [hrun] at hmark
  exact hmark.2

end Blacklist

section Clear

variable {env : Env} {c u : String}

theorem throws_deleteKeys (env : Env) (pattern : String) :
    Throws (fun _ => False) (deleteKeysByPattern env pattern) := by
  refine (Throws.await_ok fun _ => ⟨_, _, rfl⟩).bind fun plan => Throws.forM (fun r => ?_) _
  refine (Throws.await_ok fun _ => ⟨_, _, rfl⟩).bind fun keys => Throws.forM (fun k => ?_) _
  exact Throws.await_ok fun _ => ⟨_, _, rfl⟩

/-- A key that matches the pattern is gone at the end. -/
theorem delete_gone (env : Env) {pattern k : String} (hk : Glob.isMatch pattern k = true) :
    Async.Triple Eq (fun _ => True) (deleteKeysByPattern env pattern)
      (fun _ w => w.redis.find? w.now k = none) (fun _ _ => True) := by
  let I : Prop → World → Prop := fun later w => (w.redis.find? w.now k).isSome = true → later
  have hdel (key : String) (keys : List String) (later : Prop) :
      Async.Triple Eq (I (k ∈ key :: keys ∨ later)) (Async.await (cacheDel key))
        (fun _ => I (k ∈ keys ∨ later)) (fun _ _ => True) := by
    refine Async.Triple.await (stable_eq _) fun w h hl => ?_
    have hne : k ≠ key := by
      rintro rfl
      simp [Store.find?] at hl
    rw [Store.find?_del_ne _ _ hne] at hl
    exact (h hl).imp (fun hm => (List.mem_cons.mp hm).resolve_left hne) id
  have hreply (r : String → Bool) (rs : List (String → Bool)) :
      Async.Triple Eq (I (∃ r' ∈ r :: rs, r' k = true)) (deleteReply pattern r)
        (fun _ => I (∃ r' ∈ rs, r' k = true)) (fun _ _ => True) := by
    refine Async.Triple.bind (Q := fun keys => I (k ∈ keys ∨ ∃ r' ∈ rs, r' k = true))
      (Async.Triple.await (stable_eq _) fun w h hl => ?_) fun keys => ?_
    · obtain ⟨r', hr', hrk⟩ := h hl
      rcases List.mem_cons.mp hr' with rfl | hr'
      · exact Or.inl (List.mem_filter.mpr ⟨Store.mem_liveKeys.mpr hl,
          Bool.and_eq_true_iff.mpr ⟨hrk, hk⟩⟩)
      · exact Or.inr ⟨r', hr', hrk⟩
    · exact (Async.Triple.forM (I := fun keys => I (k ∈ keys ∨ ∃ r' ∈ rs, r' k = true))
        (fun key l => hdel key l _) keys).conseq (fun _ h => h)
        (fun _ _ h hl => (h hl).resolve_left List.not_mem_nil) fun _ _ h => h
  refine Async.Triple.bind (Q := fun plan => I (∃ r ∈ plan.replies, r k = true))
    (Async.Triple.await (stable_eq _) fun w _ _ => (env.scanPlan w.draws).covers k) fun plan => ?_
  refine (Async.Triple.forM (I := fun rs => I (∃ r ∈ rs, r k = true)) hreply
    plan.replies).conseq (fun _ h => h) (fun _ w h => ?_) fun _ _ h => h
  refine Option.not_isSome_iff_eq_none.mp fun hl => ?_
  obtain ⟨r, hr, -⟩ := h hl
  exact List.not_mem_nil hr

/-- Entries stay, or are deleted by a login. -/
def Cleared (c u : String) (w w' : World) : Prop :=
  w'.now = w.now ∧ ∀ k, w'.redis.lookup k = w.redis.lookup k ∨
    w'.redis.lookup k = none ∧ ClearDel c u k

theorem Cleared.refl (w : World) : Cleared c u w w := ⟨rfl, fun _ => Or.inl rfl⟩

theorem Cleared.trans (w w' w'' : World) (h : Cleared c u w w') (h' : Cleared c u w' w'') :
    Cleared c u w w'' := by
  refine ⟨h'.1.trans h.1, fun k => ?_⟩
  rcases h'.2 k with he | hn
  · rw [he]
    exact h.2 k
  · exact Or.inr hn

theorem Cleared.fewer {w w' : World} (h : Cleared c u w w') : Fewer w w' := by
  intro k v hv
  rw [h.1] at hv
  rcases h.2 k with he | ⟨hn, -⟩
  · rwa [← Store.find?_of_lookup_eq he]
  · simp [Store.find?, hn] at hv

theorem Cleared.find?_kept {w w' : World} (h : Cleared c u w w') {k : String}
    (hk : ¬ ClearDel c u k) : w'.redis.find? w'.now k = w.redis.find? w.now k := by
  rw [h.1]
  exact Store.find?_of_lookup_eq ((h.2 k).resolve_right fun hn => hk hn.2)

theorem guarantees_cleared (env : Env) {pattern : String}
    (h : ∀ k, Glob.isMatch pattern k = true → ClearDel c u k) :
    Async.Guarantees (Cleared c u) (fun _ => True) (deleteKeysByPattern env pattern) := by
  refine (guarantees_deleteKeys (P := NoPut) env h).mono (fun w w' hs => ?_) fun _ h => h
  cases hs with
  | keep n => exact Cleared.refl w
  | put k v ttl hk => exact hk.elim
  | del k hk =>
    refine ⟨rfl, fun k' => ?_⟩
    by_cases he : k' = k
    · exact Or.inr ⟨he ▸ Store.lookup_del_self _ _, he ▸ hk⟩
    · exact Or.inl (Store.lookup_del_ne _ he)

/-- Alone, the deletions leave a token on the blacklist exactly when no pattern matches
its key. -/
theorem run_clear (env : Env) (c u : String) (w : World) :
    ∃ w', (clearUserAllTokenCaches env c u).run w = .ok () w' ∧ w'.now = w.now ∧
      ∀ T, Blacklisted w' c u T ↔ Blacklisted w c u T ∧ ¬ ClearDel c u (blacklistKey c u T) := by
  obtain ⟨_, w₁, hrun₁⟩ := (throws_deleteKeys env (getUserAccessTokenPrefix c u ++ ":*")).returns w
  obtain ⟨_, w₂, hrun₂⟩ :=
    (throws_deleteKeys env (getUserRefreshTokenPrefix c u ++ ":*")).returns w₁
  have h₁ := (guarantees_cleared (c := c) (u := u) env fun _ => Or.inl).run Cleared.refl
    Cleared.trans w
  have h₂ := (guarantees_cleared (c := c) (u := u) env fun _ => Or.inr).run Cleared.refl
    Cleared.trans w₁
  rw [hrun₁] at h₁
  rw [hrun₂] at h₂
  have hboth : Cleared c u w w₂ := Cleared.trans _ _ _ h₁ h₂
  refine ⟨w₂, by simp [clearUserAllTokenCaches, hrun₁, hrun₂], hboth.1, fun T => ?_⟩
  constructor
  · intro hb
    refine ⟨hboth.fewer.blacklisted hb, fun hdel => ?_⟩
    have hgone : w₂.redis.find? w₂.now (blacklistKey c u T) = none := by
      rcases hdel with hk | hk
      · have hfirst := (delete_gone env hk).run (fun _ => rfl) (s := w) trivial
        rw [hrun₁] at hfirst
        cases hfind : w₂.redis.find? w₂.now (blacklistKey c u T) with
        | none => rfl
        | some v => exact (h₂.fewer _ _ hfind).symm.trans hfirst
      · have hsecond := (delete_gone env hk).run (fun _ => rfl) (s := w₁) trivial
        rw [hrun₂] at hsecond
        exact hsecond
    obtain ⟨v, hv, -⟩ := blacklisted_iff.mp hb
    rw [hgone] at hv
    cases hv
  · rintro ⟨hb, hk⟩
    unfold Blacklisted
    rw [hboth.find?_kept hk]
    exact hb

end Clear

section Marks

variable {env : Env} {c u : String} {α : Type}

/-- The blacklist of the user is the same. -/
def SameMarks (c u : String) (w w' : World) : Prop :=
  w'.now = w.now ∧
    ∀ T, w'.redis.lookup (blacklistKey c u T) = w.redis.lookup (blacklistKey c u T)

theorem SameMarks.refl (w : World) : SameMarks c u w w := ⟨rfl, fun _ => rfl⟩

theorem SameMarks.trans (w w' w'' : World) (h : SameMarks c u w w') (h' : SameMarks c u w' w'') :
    SameMarks c u w w'' :=
  ⟨h'.1.trans h.1, fun T => (h'.2 T).trans (h.2 T)⟩

theorem sameMarks_of_idle {w w' : World} (h : Idle w w') : SameMarks c u w w' :=
  ⟨h.now, fun _ => by rw [h.redis]⟩

theorem SameMarks.blacklisted_iff {w w' : World} (h : SameMarks c u w w') (T : String) :
    Blacklisted w' c u T ↔ Blacklisted w c u T := by
  unfold Blacklisted
  rw [h.1, Store.find?_of_lookup_eq (h.2 T)]

theorem sessionPut_ne_blacklistKey {value v : CacheValue} {k : String} {ttl : Nat}
    (h : SessionPut c u value k v ttl) (T : String) : k ≠ blacklistKey c u T := by
  obtain ⟨-, t, rfl | rfl | rfl⟩ := h
  · exact SingleSession.accessKey_ne_blacklistKey c u t T
  · exact kind_ne (x := 'r') (y := 'b') rfl rfl (by decide)
  · exact kind_ne (x := 'd') (y := 'b') rfl rfl (by decide)

theorem sameMarks_put {w : World} {k : String} (h : ∀ T, k ≠ blacklistKey c u T)
    (e : Entry CacheValue) : SameMarks c u w { w with redis := w.redis.put k e } :=
  ⟨rfl, fun T => Store.lookup_put_ne _ _ (h T).symm⟩

theorem marks_setAll (env : Env) (c u t r : String) (value : CacheValue) (d : Option String)
    (ttl : Option Nat) : Async.Guarantees (SameMarks c u) (fun _ => True)
      (setUserAllTokenCache env c u t r value d ttl) := by
  refine (guarantees_setAll (D := NoDel) env c u t r value d ttl).mono (fun w w' hs => ?_)
    fun _ h => h
  cases hs with
  | keep n => exact SameMarks.refl w
  | put k v ttl hk => exact sameMarks_put (sessionPut_ne_blacklistKey hk) _
  | del k hk => exact hk.elim

theorem marks_generateTokens (user : UserInfo) (ip : String) :
    Async.Guarantees (SameMarks rootLoginClientCacheValue user.id) (fun _ => True)
      (generateTokens env user ip) := by
  refine Async.Guarantees.bind (V := fun _ => True) ?_ fun m _ =>
    (marks_setAll env _ user.id _ _ _ none none).bind fun _ _ => Async.Guarantees.pure trivial
  refine Async.Guarantees.await (fun w => ?_) fun _ _ _ _ => trivial
  simp only [mint, sync_bind, clock_apply, uuidv4_apply, sync_pure, writeRoot_apply]
  cases w.root.createRefreshToken _ with
  | error e => exact ⟨rfl, fun _ => rfl⟩
  | ok db => exact ⟨rfl, fun _ => rfl⟩

theorem marks_tenantGenerateTokens (c : String) (user : UserInfo) (ip : String) :
    Async.Guarantees (SameMarks c user.id) (fun _ => True) (tenantGenerateTokens env c user ip) := by
  refine Async.Guarantees.bind (V := fun _ => True) ?_ fun m _ => ?_
  · refine Quiet.guarantees ?_ fun w w' h => sameMarks_of_idle (idle_of_sameTokens w w' h)
    exact (quiet_mint env user).bind fun _ => (quiet_getTenantClient c).bind fun _ => quiet_pure _
  · refine Async.Guarantees.bind (V := fun _ => True) ?_ fun _ _ =>
      (marks_setAll env c user.id _ _ _ none none).bind fun _ _ => Async.Guarantees.pure trivial
    exact Async.Guarantees.await (fun w => sameMarks_of_idle (idle_writeTenant c _ w)) fun _ _ _ _ => trivial

theorem marks_loginRest (env : Env) (user : UserInfo) (ip : String) (d ua : Option String) :
    Async.Guarantees (SameMarks rootLoginClientCacheValue user.id) (fun _ => True)
      (loginRest env user ip d ua) :=
  guarantees_gatedLogin (fun _ _ => sameMarks_of_idle) (idle_device env user.id d ip ua)
    (marks_generateTokens user ip)

theorem marks_tenantLoginRest (env : Env) (c : String) (user : UserInfo) (ip : String)
    (d ua : Option String) : Async.Guarantees (SameMarks c user.id) (fun _ => True)
      (LoginSimulation.tenantLoginRest env c user ip d ua) :=
  guarantees_gatedLogin (fun _ _ => sameMarks_of_idle) (idle_tenantDevice env user.id _ _ _ _)
    (marks_tenantGenerateTokens c user ip)

end Marks

end NestUserService.Auth.FreshTokens
