import NestUserService.Shared.CacheSteps
import NestUserService.Shared.ScanCalls

/-!
# Which entries the scan loops touch

The client code is concatenated into a glob pattern and into a key, so a pattern may
select keys that were built for other client codes: `*` selects the keys of every client
code, and a code may itself continue like a key of another one. The loops keep to the
entries of their own client code and user id exactly when the patterns only select such
entries.
-/

namespace NestUserService.Shared.Scan

open Lib NestUserService.Core

/-- The key of an entry of this client code and user id. -/
def BuiltFor (c u k : String) : Prop := ∃ kind t, NoColon t ∧ k = tokenKey kind c u t

/-- What a client sees of a key. -/
def entry (w : World) (k : String) : Option CacheValue := w.redis.find? w.now k

/-- A run from `w` to `w'` keeps to the entries of one client code and user id. -/
structure KeepsToOwn (c u : String) (w w' : World) : Prop where
  entries : ∀ k, entry w' k ≠ entry w k → BuiltFor c u k
  others : ∀ kind c' u' t, NoColon u' → NoColon t → (c', u') ≠ (c, u) →
    entry w' (tokenKey kind c' u' t) = entry w (tokenKey kind c' u' t)
  tokens : ∀ t, entry w' (blacklistKey c u t) ≠ entry w (blacklistKey c u t) →
    ∃ kind, (entry w (tokenKey kind c u t)).isSome = true

/-- The patterns only select entries of this client code and user id. -/
def SelectsOwn (c u : String) (w : World) : Prop :=
  ∀ k, (entry w k).isSome = true → ClearDel c u k → BuiltFor c u k

/-- Another client code or user id has other keys. -/
theorem not_builtFor {kind : Kind} {c c' u u' t : String} (hu : NoColon u) (hu' : NoColon u')
    (ht : NoColon t) (hne : (c', u') ≠ (c, u)) : ¬ BuiltFor c u (tokenKey kind c' u' t) := by
  rintro ⟨kind', t', ht', h⟩
  obtain ⟨-, rfl, rfl, -⟩ := tokenKey_inj hu' hu ht ht' h
  exact hne rfl

theorem keepsToOwn_of_entries {c u : String} {w w' : World} (hu : NoColon u)
    (hentries : ∀ k, entry w' k ≠ entry w k → BuiltFor c u k)
    (htokens : ∀ t, entry w' (blacklistKey c u t) ≠ entry w (blacklistKey c u t) →
      ∃ kind, (entry w (tokenKey kind c u t)).isSome = true) : KeepsToOwn c u w w' := by
  refine ⟨hentries, fun kind c' u' t hu' ht hne => ?_, htokens⟩
  by_contra hchanged
  exact not_builtFor hu hu' ht hne (hentries _ hchanged)

section Loops

variable {env : Env} {c u : String} {w w' : World}

/-- What the blacklist loop has changed is the entry of a token it has read. -/
theorem Blacklists.changed (h : Blacklists env c u (Source c u w) w w') {k : String}
    (hk : entry w' k ≠ entry w k) : ∃ t, Source c u w t ∧ k = blacklistKey c u t := by
  by_contra hnone
  exact hk (h.find? fun t hs he => hnone ⟨t, hs, he⟩)

theorem Source.noColon {t : String} (h : Source c u w t) : NoColon t := by
  obtain ⟨-, k, -, rfl⟩ := h
  exact noColon_tokenOfKey k

theorem keepsToOwn_blacklisting (hu : NoColon u) (hown : SelectsOwn c u w)
    (h : Blacklists env c u (Source c u w) w w') : KeepsToOwn c u w w' := by
  refine keepsToOwn_of_entries hu (fun k hk => ?_) fun t ht => ?_
  · obtain ⟨t, hs, rfl⟩ := h.changed hk
    exact ⟨.blacklist, t, hs.noColon, rfl⟩
  · obtain ⟨t', ⟨-, k, hk, rfl⟩, hkey⟩ := h.changed ht
    obtain ⟨kind, t', ht', rfl⟩ := hown k hk.1 (Or.inl hk.2)
    rw [(String.append_right_inj _).mp hkey, tokenOfKey_tokenKey kind ht']
    exact ⟨kind, hk.1⟩

/-- A deletion loop leaves what is not live or does not match. -/
theorem Deletes.entry_kept {pattern : String} (h : Deletes pattern w w') {k : String}
    (hk : (entry w k).isSome = true → Glob.isMatch pattern k ≠ true) : entry w' k = entry w k := by
  rcases h.changed k with hsame | ⟨hnone, hmatch⟩
  · unfold entry
    rw [h.now, Store.find?_of_lookup_eq hsame]
  · have hdead : ¬ (entry w k).isSome = true := fun hl => hk hl hmatch
    have hdead' : ¬ (entry w' k).isSome = true := fun hl => hdead (h.live_before hl)
    rw [Option.not_isSome_iff_eq_none] at hdead hdead'
    exact hdead'.trans hdead.symm

/-- What the deletion loops have changed was live and is selected by a pattern. -/
theorem changed_of_deletes {w₁ : World}
    (h₁ : Deletes (getUserAccessTokenPrefix c u ++ ":*") w w₁)
    (h₂ : Deletes (getUserRefreshTokenPrefix c u ++ ":*") w₁ w') {k : String}
    (hk : entry w' k ≠ entry w k) : (entry w k).isSome = true ∧ ClearDel c u k := by
  by_contra hno
  refine hk ?_
  have hfirst := h₁.entry_kept fun hl hm => hno ⟨hl, Or.inl hm⟩
  have hsecond := h₂.entry_kept fun hl hm => hno ⟨h₁.live_before hl, Or.inr hm⟩
  exact hsecond.trans hfirst

theorem keepsToOwn_clearing {w₁ : World} (hu : NoColon u) (hown : SelectsOwn c u w)
    (h₁ : Deletes (getUserAccessTokenPrefix c u ++ ":*") w w₁)
    (h₂ : Deletes (getUserRefreshTokenPrefix c u ++ ":*") w₁ w') : KeepsToOwn c u w w' := by
  refine keepsToOwn_of_entries hu (fun k hk => ?_) fun t ht => ?_
  · obtain ⟨hl, hsel⟩ := changed_of_deletes h₁ h₂ hk
    exact hown k hl hsel
  · exact ⟨.blacklist, (changed_of_deletes h₁ h₂ ht).1⟩

end Loops

/-- Redis keeps its promise in the two iterations of `clearUserAllTokenCaches`. -/
structure ClearPromised (c u : String) (access refresh : List ScanAnswer) (w : World) : Prop where
  clearingAccess : Promised (getUserAccessTokenPrefix c u ++ ":*") deleteKeys access w
  clearingRefresh : Promised (getUserRefreshTokenPrefix c u ++ ":*") deleteKeys refresh
    (finalState ((deleteKeysByPattern access (getUserAccessTokenPrefix c u ++ ":*")).run w))

/-- Nothing that a pattern selects is left. -/
theorem run_clearUserAllTokenCaches {c u : String} {access refresh : List ScanAnswer} {w : World}
    (h : ClearPromised c u access refresh w) : ∃ w₁ w₂,
    (clearUserAllTokenCaches access refresh c u).run w = .ok () w₂ ∧
      Deletes (getUserAccessTokenPrefix c u ++ ":*") w w₁ ∧
      Deletes (getUserRefreshTokenPrefix c u ++ ":*") w₁ w₂ ∧
      ∀ k, ClearDel c u k → entry w₂ k = none := by
  obtain ⟨w₁, hrun₁, hw₁, hgone₁⟩ := run_deleteKeysByPattern h.clearingAccess
  have hrefresh := h.clearingRefresh
  rw [hrun₁, finalState_ok] at hrefresh
  obtain ⟨w₂, hrun₂, hw₂, hgone₂⟩ := run_deleteKeysByPattern hrefresh
  refine ⟨w₁, w₂, ?_, hw₁, hw₂, fun k hk => ?_⟩
  · simp only [clearUserAllTokenCaches, Async.run_bind, hrun₁, hrun₂]
  · rcases hk with hk | hk
    · refine Option.not_isSome_iff_eq_none.mp fun hl => ?_
      have hl₁ := hw₂.live_before hl
      rw [hgone₁ k hk] at hl₁
      cases hl₁
    · exact hgone₂ k hk

/-- The loops keep to their own entries exactly when the patterns select no others. -/
theorem loops_keep_to_own_iff (env : Env) {c u : String} (hu : NoColon u) {w : World}
    {blacklist access refresh : List ScanAnswer}
    (hb : Promised (getUserAccessTokenPrefix c u ++ ":*") (blacklistKeys env c u) blacklist w)
    (hcl : ClearPromised c u access refresh w) :
    (∃ w₁ w₂, (setUserAccessTokenBlacklistCache blacklist env c u).run w = .ok () w₁ ∧
      (clearUserAllTokenCaches access refresh c u).run w = .ok () w₂ ∧
      KeepsToOwn c u w w₁ ∧ KeepsToOwn c u w w₂) ↔ SelectsOwn c u w := by
  obtain ⟨w₁, hrun₁, hw₁, -⟩ := run_blacklisting hb
  obtain ⟨v, w₂, hrun₂, hv, hw₂, hgone⟩ := run_clearUserAllTokenCaches hcl
  constructor
  · rintro ⟨v₁, v₂, -, hclear, -, hown⟩ k hl hsel
    rw [hrun₂] at hclear
    cases hclear
    refine hown.entries k ?_
    rw [hgone k hsel]
    intro hnone
    rw [← hnone] at hl
    cases hl
  · exact fun hown => ⟨w₁, w₂, hrun₁, hrun₂, keepsToOwn_blacklisting hu hown hw₁,
      keepsToOwn_clearing hu hown hv hw₂⟩

/-- Without glob characters in the client code, the patterns select other entries only
when a text with a colon stands in the place of a token. -/
theorem selectsOwn_iff_of_plain {c u : String} (hc : Glob.Plain c) (hu : Glob.Plain u)
    (hcolon : NoColon u) (w : World) : SelectsOwn c u w ↔ TokensWithoutColon c u w := by
  constructor
  · rintro h t (hl | hl)
    · obtain ⟨kind, t', ht', hk⟩ := h _ hl
        (Or.inl ((isMatch_access hc hu _).mpr (hasPrefix_accessKey c u t)))
      rw [accessKey_eq] at hk
      rwa [(tokenKey_unique_of_code hcolon ht' hk).2.2]
    · obtain ⟨kind, t', ht', hk⟩ := h _ hl
        (Or.inr ((isMatch_refresh hc hu _).mpr (hasPrefix_refreshKey c u t)))
      rw [refreshKey_eq] at hk
      rwa [(tokenKey_unique_of_code hcolon ht' hk).2.2]
  · rintro h k hl (hsel | hsel)
    · obtain ⟨t, rfl⟩ := (isMatch_access hc hu k).mp hsel
      exact ⟨.access, t, h t (Or.inl hl), rfl⟩
    · obtain ⟨t, rfl⟩ := (isMatch_refresh hc hu k).mp hsel
      exact ⟨.refresh, t, h t (Or.inr hl), rfl⟩

/-- What a login does to the cache before it goes on, for every client code and user id. -/
structure SweptBy (c u : String) (w w' : World) : Prop where
  only : ∃ s, w' = { w with redis := s, draws := w.draws + 3 }
  gone : ∀ k, ClearDel c u k → entry w' k = none
  appeared : ∀ k, (entry w' k).isSome = true →
    (entry w k).isSome = true ∨ ∃ t, k = blacklistKey c u t
  kept : (∀ k, (entry w k).isSome = true → ¬ ClearDel c u k) → ∀ k, entry w' k = entry w k

theorem run_scanStart (env : Env) (w : World) :
    (Async.await (scanStart env)).run w =
      .ok (env.scanPlan w.draws) { w with draws := w.draws + 1 } := rfl

theorem run_deleteKeysByPattern_service (env : Env) (pattern : String) (w : World) : ∃ w',
    (Shared.deleteKeysByPattern env pattern).run w = .ok () w' ∧
      Deletes pattern { w with draws := w.draws + 1 } w' ∧
      ∀ k, Glob.isMatch pattern k = true → entry w' k = none := by
  have hpromised : Promised pattern deleteKeys (replay (env.scanPlan w.draws).replies)
      { w with draws := w.draws + 1 } := promised_replay _ runs_deleteKeys _
  obtain ⟨w', hrun, h, hgone⟩ := run_deleteKeysByPattern hpromised
  refine ⟨w', ?_, h, hgone⟩
  rw [deleteKeysByPattern_eq, Async.run_bind, run_scanStart]
  exact hrun

theorem run_sweep (env : Env) (c u : String) (w : World) : ∃ w₁ w', SweptBy c u w w' ∧
    (Shared.setUserAccessTokenBlacklistCache env c u).run w = .ok () w₁ ∧
    (Shared.clearUserAllTokenCaches env c u).run w₁ = .ok () w' := by
  obtain ⟨v₁, hrun₁, h₁, -⟩ := run_blacklisting
    (promised_replay (env.scanPlan w.draws) (runs_blacklistKeys env c u)
      { w with draws := w.draws + 1 })
  obtain ⟨v₂, hrun₂, h₂, hgone₂⟩ :=
    run_deleteKeysByPattern_service env (getUserAccessTokenPrefix c u ++ ":*") v₁
  obtain ⟨v₃, hrun₃, h₃, hgone₃⟩ :=
    run_deleteKeysByPattern_service env (getUserRefreshTokenPrefix c u ++ ":*") v₂
  refine ⟨v₁, v₃, ⟨?_, fun k hk => ?_, fun k hl => ?_, fun hidle k => ?_⟩, ?_, ?_⟩
  · obtain ⟨s₁, rfl⟩ := h₁.only
    obtain ⟨s₂, rfl⟩ := h₂.only
    obtain ⟨s₃, rfl⟩ := h₃.only
    exact ⟨s₃, rfl⟩
  · rcases hk with hk | hk
    · refine Option.not_isSome_iff_eq_none.mp fun hl => ?_
      have hl₂ : (entry v₂ k).isSome = true := h₃.live_before hl
      rw [hgone₂ k hk] at hl₂
      cases hl₂
    · exact hgone₃ k hk
  · have hl₁ : (entry v₁ k).isSome = true := h₂.live_before (h₃.live_before hl)
    by_cases hown : ∃ t, k = blacklistKey c u t
    · exact Or.inr hown
    · have hsame : entry v₁ k = entry w k := h₁.find? fun t _ he => hown ⟨t, he⟩
      rw [hsame] at hl₁
      exact Or.inl hl₁
  · have hsource : ∀ t, ¬ Source c u { w with draws := w.draws + 1 } t := by
      rintro t ⟨-, k', ⟨hl, hm⟩, -⟩
      exact hidle k' hl (Or.inl hm)
    have hmarked : entry v₁ k = entry w k := h₁.find? fun t ht => absurd ht (hsource t)
    have hfirst : entry v₂ k = entry v₁ k := by
      refine h₂.entry_kept fun hl hm => hidle k ?_ (Or.inl hm)
      rw [← hmarked]
      exact hl
    have hsecond : entry v₃ k = entry v₂ k := by
      refine h₃.entry_kept fun hl hm => hidle k ?_ (Or.inr hm)
      rw [← hmarked, ← hfirst]
      exact hl
    exact hsecond.trans (hfirst.trans hmarked)
  · rw [setUserAccessTokenBlacklistCache_eq, Async.run_bind, run_scanStart]
    exact hrun₁
  · simp only [Shared.clearUserAllTokenCaches, Async.run_bind, hrun₂, hrun₃]

theorem clearPromised_replay (c u : String) (access refresh : ScanPlan) (w : World) :
    ClearPromised c u (replay access.replies) (replay refresh.replies) w :=
  ⟨promised_replay _ runs_deleteKeys _, promised_replay _ runs_deleteKeys _⟩

theorem loops_keep_to_own_sample : NoColon User.sample.id ∧
    Promised (getUserAccessTokenPrefix "root" User.sample.id ++ ":*")
      (blacklistKeys Env.sample "root" User.sample.id) (replay stuttering.replies)
      (cachedWorld "jwt-1") ∧
    ClearPromised "root" User.sample.id (replay stuttering.replies) (replay stuttering.replies)
      (cachedWorld "jwt-1") ∧
    ∃ w₁ w₂, (setUserAccessTokenBlacklistCache (replay stuttering.replies) Env.sample "root"
        User.sample.id).run (cachedWorld "jwt-1") = .ok () w₁ ∧
      (clearUserAllTokenCaches (replay stuttering.replies) (replay stuttering.replies) "root"
        User.sample.id).run (cachedWorld "jwt-1") = .ok () w₂ ∧
      KeepsToOwn "root" User.sample.id (cachedWorld "jwt-1") w₁ ∧
      KeepsToOwn "root" User.sample.id (cachedWorld "jwt-1") w₂ := by
  have hid : NoColon User.sample.id := by decide
  have hb : Promised (getUserAccessTokenPrefix "root" User.sample.id ++ ":*")
      (blacklistKeys Env.sample "root" User.sample.id) (replay stuttering.replies)
      (cachedWorld "jwt-1") := promised_replay stuttering (runs_blacklistKeys _ _ _) _
  have hcl := clearPromised_replay "root" User.sample.id stuttering stuttering
    (cachedWorld "jwt-1")
  have hcolon := tokensWithoutColon_cachedWorld (t := "jwt-1") (by decide)
  have hown := (selectsOwn_iff_of_plain (by decide) (by decide) hid _).mpr hcolon
  exact ⟨hid, hb, hcl, (loops_keep_to_own_iff Env.sample hid hb hcl).mpr hown⟩

/-- The header `*` selects the entries of every client code: the token cached for `root`
is blacklisted for `*`, and its entry is deleted. -/
theorem star_reaches_root :
    Promised (getUserAccessTokenPrefix "*" User.sample.id ++ ":*")
      (blacklistKeys Env.sample "*" User.sample.id) (replay stuttering.replies)
      (cachedWorld "jwt-1") ∧
    ClearPromised "*" User.sample.id (replay stuttering.replies) (replay stuttering.replies)
      (cachedWorld "jwt-1") ∧
    ¬ ∃ w₁ w₂, (setUserAccessTokenBlacklistCache (replay stuttering.replies) Env.sample "*"
        User.sample.id).run (cachedWorld "jwt-1") = .ok () w₁ ∧
      (clearUserAllTokenCaches (replay stuttering.replies) (replay stuttering.replies) "*"
        User.sample.id).run (cachedWorld "jwt-1") = .ok () w₂ ∧
      KeepsToOwn "*" User.sample.id (cachedWorld "jwt-1") w₁ ∧
      KeepsToOwn "*" User.sample.id (cachedWorld "jwt-1") w₂ := by
  have hcl := clearPromised_replay "*" User.sample.id stuttering stuttering (cachedWorld "jwt-1")
  refine ⟨promised_replay stuttering (runs_blacklistKeys _ _ _) _, hcl, ?_⟩
  rintro ⟨w₁, w₂, -, hclear, -, hown⟩
  obtain ⟨v, w', hrun, -, -, hgone⟩ := run_clearUserAllTokenCaches hcl
  rw [hrun] at hclear
  cases hclear
  have hl : (entry (cachedWorld "jwt-1") (accessKey "root" User.sample.id "jwt-1")).isSome = true :=
    (find?_cachedWorld "jwt-1" _).mpr rfl
  have hsel : ClearDel "*" User.sample.id (accessKey "root" User.sample.id "jwt-1") :=
    Or.inl (by decide +kernel)
  have hid : NoColon User.sample.id := by decide
  have hother : (("root", User.sample.id) : String × String) ≠ ("*", User.sample.id) := by decide
  have hsame := hown.others .access "root" User.sample.id "jwt-1" hid (by decide) hother
  rw [← accessKey_eq, hgone _ hsel] at hsame
  rw [← hsame] at hl
  cases hl

end NestUserService.Shared.Scan
