import NestUserService.Lib.CursorLoop
import NestUserService.Shared.CacheSpec

/-!
# The scan loops, call by call

`setUserAccessTokenBlacklistCache` and `deleteKeysByPattern` with their cursor: every
SCAN call is answered by the server as it likes, a batch may be empty or repeat keys, and
the loop stops at the cursor `'0'`. What Redis promises of a full iteration is a
hypothesis on the run. The loops of `CustomCacheService` are these loops next to one such
server, which replays a plan.
-/

namespace NestUserService.Shared.Scan

open Lib NestUserService.Core

/-- The answer to one `SCAN cursor MATCH pattern COUNT 100`. -/
abbrev ScanAnswer := (pattern cursor : String) → World → Cursor.Reply String

/-- What a reply may hold: the live keys that match the pattern. -/
def Returnable (pattern : String) (w : World) (k : String) : Prop :=
  (w.redis.find? w.now k).isSome = true ∧ Glob.isMatch pattern k = true

/-- A call that is not answered. -/
def connectionClosed : Exn := .error "Connection is closed."

/-- The loop of one full iteration, from the cursor `'0'`. -/
def iteration (pattern : String) (body : List String → App Unit) (answers : List ScanAnswer) :
    App Unit :=
  Cursor.loop connectionClosed body (answers.map fun answer => answer pattern) "0"

/-- Redis's promise about the iteration that starts in `w`. -/
def Promised (pattern : String) (body : List String → App Unit) (answers : List ScanAnswer)
    (w : World) : Prop :=
  Cursor.Promised connectionClosed body (Returnable pattern)
    (answers.map fun answer => answer pattern) w

def blacklistKeys (env : Env) (clientCode userId : String) (keys : List String) : App Unit :=
  if keys.length > 0 then keys.forM (blacklistFound env clientCode userId) else pure ()

def setUserAccessTokenBlacklistCache (answers : List ScanAnswer) (env : Env)
    (clientCode userId : String) : App Unit :=
  iteration (getUserAccessTokenPrefix clientCode userId ++ ":*")
    (blacklistKeys env clientCode userId) answers

/-- `Promise.all(keys.map((key) => this.cacheManager.del(key)))`. -/
def deleteKeys (keys : List String) : App Unit :=
  if keys.length > 0 then keys.forM fun key => Async.await (cacheDel key) else pure ()

def deleteKeysByPattern (answers : List ScanAnswer) (pattern : String) : App Unit :=
  iteration pattern deleteKeys answers

def clearUserAllTokenCaches (access refresh : List ScanAnswer) (clientCode userId : String) :
    App Unit := do
  deleteKeysByPattern access (getUserAccessTokenPrefix clientCode userId ++ ":*")
  deleteKeysByPattern refresh (getUserRefreshTokenPrefix clientCode userId ++ ":*")

theorem blacklistKeys_eq (env : Env) (c u : String) (keys : List String) :
    blacklistKeys env c u keys = keys.forM (blacklistFound env c u) := by
  cases keys <;> rfl

theorem deleteKeys_eq (keys : List String) :
    deleteKeys keys = keys.forM fun key => Async.await (cacheDel key) := by
  cases keys <;> rfl

theorem only_trans {w w' w'' : World} (h : ∃ s, w' = { w with redis := s })
    (h' : ∃ s, w'' = { w' with redis := s }) : ∃ s, w'' = { w with redis := s } := by
  obtain ⟨s, rfl⟩ := h
  obtain ⟨s', rfl⟩ := h'
  exact ⟨s', rfl⟩

section Blacklist

variable (env : Env) (c u : String)

/-- The token has the entry that the loop writes. -/
def Blacklisted (t : String) (w : World) : Prop :=
  w.redis.lookup (blacklistKey c u t) =
    some (Entry.stamp (.text "blacklisted") w.now (blacklistTtl env))

/-- The token of a key is blacklisted, if it has one. -/
def BlacklistedKey (key : String) (w : World) : Prop :=
  tokenOfKey key ≠ "" → Blacklisted env c u (tokenOfKey key) w

variable (T : String → Prop)

/-- Only blacklist entries of tokens in `T` are written. -/
structure Blacklists (w w' : World) : Prop where
  only : ∃ s, w' = { w with redis := s }
  others : ∀ k, (∀ t, T t → k ≠ blacklistKey c u t) → w'.redis.lookup k = w.redis.lookup k
  kept : ∀ t, Blacklisted env c u t w → Blacklisted env c u t w'

variable {env c u T}

theorem Blacklists.now {w w' : World} (h : Blacklists env c u T w w') : w'.now = w.now := by
  obtain ⟨s, rfl⟩ := h.only
  rfl

theorem Blacklists.refl (w : World) : Blacklists env c u T w w :=
  ⟨⟨w.redis, rfl⟩, fun _ _ => rfl, fun _ h => h⟩

theorem Blacklists.trans {w w' w'' : World} (h : Blacklists env c u T w w')
    (h' : Blacklists env c u T w' w'') : Blacklists env c u T w w'' :=
  ⟨only_trans h.only h'.only, fun k hk => (h'.others k hk).trans (h.others k hk),
    fun t ht => h'.kept t (h.kept t ht)⟩

theorem links_blacklists : Cursor.Links (Blacklists env c u T) (BlacklistedKey env c u) :=
  ⟨Blacklists.refl, fun _ _ _ => Blacklists.trans, fun _ _ _ hw hk ht => hw.kept _ (hk ht)⟩

/-- What is seen of a key that is not such an entry stays the same. -/
theorem Blacklists.find? {w w' : World} (h : Blacklists env c u T w w') {k : String}
    (hk : ∀ t, T t → k ≠ blacklistKey c u t) :
    w'.redis.find? w'.now k = w.redis.find? w.now k := by
  rw [h.now, Store.find?_of_lookup_eq (h.others k hk)]

theorem blacklists_marking {key : String} (hkey : T (tokenOfKey key)) (w : World) :
    Blacklists env c u T w (marking env c u key w) := by
  refine ⟨⟨_, rfl⟩, fun k hk => lookup_marking_ne env w (hk _ hkey), fun t ht => ?_⟩
  by_cases hsame : blacklistKey c u t = blacklistKey c u (tokenOfKey key)
  · show (marking env c u key w).redis.lookup (blacklistKey c u t) = _
    rw [hsame]
    exact lookup_marking_self env c u key w
  · exact (lookup_marking_ne env w hsame).trans ht

theorem guarantees_blacklistFound {key : String} (hkey : tokenOfKey key ≠ "" → T (tokenOfKey key)) :
    Async.Guarantees (Blacklists env c u T) (fun _ => True) (blacklistFound env c u key) := by
  refine Async.Guarantees.ite (fun hne => ?_) fun _ => Async.Guarantees.pure trivial
  exact Async.Guarantees.await (fun w => blacklists_marking (hkey hne) w) fun _ _ _ _ => trivial

theorem run_blacklistFound (key : String) (w : World) :
    ∃ w', (blacklistFound env c u key).run w = .ok () w' ∧
      BlacklistedKey env c u key w' := by
  unfold blacklistFound
  by_cases hkey : tokenOfKey key ≠ ""
  · rw [if_pos hkey, Async.run_await, cacheSet_marking]
    exact ⟨_, rfl, fun _ => lookup_marking_self env c u key w⟩
  · rw [if_neg hkey]
    exact ⟨w, rfl, fun h => absurd h hkey⟩

/-- The tokens that the loop reads from the keys it can find. -/
def Source (c u : String) (w : World) (t : String) : Prop :=
  t ≠ "" ∧ ∃ k, Returnable (getUserAccessTokenPrefix c u ++ ":*") w k ∧ tokenOfKey k = t

/-- What the loop finds later gives no other tokens: its own entries end with a token it
has read before. -/
theorem Blacklists.source {w w' : World} (h : Blacklists env c u (Source c u w) w w') {k : String}
    (hk : Returnable (getUserAccessTokenPrefix c u ++ ":*") w' k) (ht : tokenOfKey k ≠ "") :
    Source c u w (tokenOfKey k) := by
  by_cases hother : ∀ t, Source c u w t → k ≠ blacklistKey c u t
  · refine ⟨ht, k, ⟨?_, hk.2⟩, rfl⟩
    rw [← h.find? hother]
    exact hk.1
  · have hown : ∃ t, Source c u w t ∧ k = blacklistKey c u t := by
      by_contra hnone
      exact hother fun t hs he => hnone ⟨t, hs, he⟩
    obtain ⟨t, hs, rfl⟩ := hown
    have hcolon : NoColon t := by
      obtain ⟨-, k', -, rfl⟩ := hs
      exact noColon_tokenOfKey k'
    rwa [tokenOfKey_blacklistKey hcolon]

/-- A full iteration only writes entries of tokens it can find, and blacklists every
token whose key is there throughout. -/
theorem run_blacklisting {answers : List ScanAnswer} {w : World}
    (h : Promised (getUserAccessTokenPrefix c u ++ ":*") (blacklistKeys env c u) answers w) :
    ∃ w', (setUserAccessTokenBlacklistCache answers env c u).run w = .ok () w' ∧
      Blacklists env c u (Source c u w) w w' ∧
      ∀ k, (∀ v, Blacklists env c u (Source c u w) w v →
        Returnable (getUserAccessTokenPrefix c u ++ ":*") v k) → BlacklistedKey env c u k w' := by
  have hlinks : Cursor.Links (Blacklists env c u (Source c u w)) (BlacklistedKey env c u) :=
    links_blacklists
  have hround : ∀ keys v, Blacklists env c u (Source c u w) w v →
      (∀ k ∈ keys, Returnable (getUserAccessTokenPrefix c u ++ ":*") v k) →
      ∃ v', Cursor.Round (Blacklists env c u (Source c u w)) (BlacklistedKey env c u)
        (blacklistKeys env c u keys) keys v v' := by
    intro keys v hv hkeys
    rw [blacklistKeys_eq]
    exact Cursor.Round.forM hlinks
      (fun k hk => guarantees_blacklistFound fun ht => hv.source (hkeys k hk) ht)
      run_blacklistFound v
  obtain ⟨w', hrun, hw, hall⟩ := Cursor.run_promised hlinks hround h
  exact ⟨w', hrun, hw, fun k hk => hall k fun v hv _ => hk v hv⟩

theorem isMatch_access (hc : Glob.Plain c) (hu : Glob.Plain u) (k : String) :
    Glob.isMatch (getUserAccessTokenPrefix c u ++ ":*") k = true ↔ HasPrefix (accessPattern c u) k := by
  rw [pattern_star]
  exact Glob.isMatch_plain_star (plain_accessPattern hc hu) k

theorem isMatch_refresh (hc : Glob.Plain c) (hu : Glob.Plain u) (k : String) :
    Glob.isMatch (getUserRefreshTokenPrefix c u ++ ":*") k = true ↔
      HasPrefix (refreshPattern c u) k := by
  rw [pattern_star]
  exact Glob.isMatch_plain_star (plain_refreshPattern hc hu) k

/-- Without glob characters every token whose entry is live at the start is blacklisted. -/
theorem run_setUserAccessTokenBlacklistCache (hc : Glob.Plain c) (hu : Glob.Plain u)
    {answers : List ScanAnswer} {w : World}
    (h : Promised (getUserAccessTokenPrefix c u ++ ":*") (blacklistKeys env c u) answers w) :
    ∃ w', (setUserAccessTokenBlacklistCache answers env c u).run w = .ok () w' ∧
      Blacklists env c u (Source c u w) w w' ∧
      ∀ t, t ≠ "" → NoColon t → (w.redis.find? w.now (accessKey c u t)).isSome = true →
        Blacklisted env c u t w' := by
  obtain ⟨w', hrun, hw, hall⟩ := run_blacklisting h
  refine ⟨w', hrun, hw, fun t ht hcolon hl => ?_⟩
  have hother : ∀ t', Source c u w t' → accessKey c u t ≠ blacklistKey c u t' :=
    fun t' _ => kind_ne (x := 'a') (y := 'b') rfl rfl (by decide)
  have hmarked := hall (accessKey c u t) fun v hv => by
    refine ⟨?_, (isMatch_access hc hu _).mpr (hasPrefix_accessKey c u t)⟩
    rw [hv.find? hother]
    exact hl
  rw [BlacklistedKey, tokenOfKey_accessKey hcolon] at hmarked
  exact hmarked ht

end Blacklist

/-- A deletion loop only deletes keys that match its pattern. -/
structure Deletes (pattern : String) (w w' : World) : Prop where
  only : ∃ s, w' = { w with redis := s }
  changed : ∀ k, w'.redis.lookup k = w.redis.lookup k ∨
    w'.redis.lookup k = none ∧ Glob.isMatch pattern k = true

theorem Deletes.now {pattern : String} {w w' : World} (h : Deletes pattern w w') :
    w'.now = w.now := by
  obtain ⟨s, rfl⟩ := h.only
  rfl

theorem Deletes.refl {pattern : String} (w : World) : Deletes pattern w w :=
  ⟨⟨w.redis, rfl⟩, fun _ => Or.inl rfl⟩

theorem Deletes.trans {pattern : String} {w w' w'' : World} (h : Deletes pattern w w')
    (h' : Deletes pattern w' w'') : Deletes pattern w w'' := by
  refine ⟨only_trans h.only h'.only, fun k => ?_⟩
  rcases h'.changed k with hk | hk
  · rw [hk]
    exact h.changed k
  · exact Or.inr hk

/-- What is live at the end was live all along. -/
theorem Deletes.live_before {pattern : String} {w w' : World} (h : Deletes pattern w w')
    {k : String} (hl : (w'.redis.find? w'.now k).isSome = true) :
    (w.redis.find? w.now k).isSome = true := by
  rcases h.changed k with hk | ⟨hk, -⟩
  · rwa [← h.now, ← Store.find?_of_lookup_eq hk]
  · simp [Store.find?, hk] at hl

theorem Deletes.kept {pattern : String} {w w' : World} (h : Deletes pattern w w') {k : String}
    (hk : Glob.isMatch pattern k ≠ true) : w'.redis.lookup k = w.redis.lookup k :=
  (h.changed k).resolve_right fun hdel => hk hdel.2

/-- The key has no entry. -/
def Deleted (key : String) (w : World) : Prop := w.redis.lookup key = none

theorem links_deletes (pattern : String) : Cursor.Links (Deletes pattern) Deleted := by
  refine ⟨Deletes.refl, fun _ _ _ => Deletes.trans, fun k w w' hw hk => ?_⟩
  rcases hw.changed k with hsame | ⟨hnone, -⟩
  · exact hsame.trans hk
  · exact hnone

theorem deletes_del {pattern key : String} (hkey : Glob.isMatch pattern key = true) (w : World) :
    Deletes pattern w { w with redis := w.redis.del key } := by
  refine ⟨⟨_, rfl⟩, fun k => ?_⟩
  by_cases hk : k = key
  · rw [hk]
    exact Or.inr ⟨Store.lookup_del_self _ _, hkey⟩
  · exact Or.inl (Store.lookup_del_ne _ hk)

/-- After a full iteration no key that matches is live. -/
theorem run_deleteKeysByPattern {pattern : String} {answers : List ScanAnswer} {w : World}
    (h : Promised pattern deleteKeys answers w) :
    ∃ w', (deleteKeysByPattern answers pattern).run w = .ok () w' ∧ Deletes pattern w w' ∧
      ∀ k, Glob.isMatch pattern k = true → w'.redis.find? w'.now k = none := by
  have hlinks := links_deletes pattern
  have hround : ∀ keys v, Deletes pattern w v → (∀ k ∈ keys, Returnable pattern v k) →
      ∃ v', Cursor.Round (Deletes pattern) Deleted (deleteKeys keys) keys v v' := by
    intro keys v _ hkeys
    rw [deleteKeys_eq]
    refine Cursor.Round.forM hlinks (fun k hk => ?_) (fun k v => ?_) v
    · exact Async.Guarantees.await (deletes_del (hkeys k hk).2) fun _ _ _ _ => trivial
    · exact ⟨{ v with redis := v.redis.del k }, rfl, Store.lookup_del_self _ _⟩
  obtain ⟨w', hrun, hw, hall⟩ := Cursor.run_promised hlinks hround h
  refine ⟨w', hrun, hw, fun k hk => Option.not_isSome_iff_eq_none.mp fun hl => ?_⟩
  have hnone : Deleted k w' := hall k fun v _ hv => ⟨hv.live_before hl, hk⟩
  rw [Store.find?, show w'.redis.lookup k = none from hnone] at hl
  cases hl

/-- The keys that one reply of a plan returns. -/
def selected (pattern : String) (reply : String → Bool) (w : World) : List String :=
  (w.redis.liveKeys w.now).filter fun k => reply k && Glob.isMatch pattern k

/-- The cursor is `'0'` at the last reply only. -/
def replay : List (String → Bool) → List ScanAnswer
  | [] => []
  | [reply] => [fun pattern _ w => ⟨"0", selected pattern reply w⟩]
  | reply :: next :: replies =>
    (fun pattern _ w => ⟨"1", selected pattern reply w⟩) :: replay (next :: replies)

theorem replies_ne_nil (plan : ScanPlan) : plan.replies ≠ [] := by
  intro hnil
  obtain ⟨reply, hreply, -⟩ := plan.covers ""
  rw [hnil] at hreply
  exact absurd hreply List.not_mem_nil

section Replay

variable {pattern : String} {body : List String → App Unit}

theorem loop_replay (replies : List (String → Bool)) (hne : replies ≠ []) (cursor : String) :
    Cursor.loop connectionClosed body ((replay replies).map fun answer => answer pattern) cursor =
      replies.forM fun reply => Async.await (scan pattern reply) >>= body := by
  induction replies generalizing cursor with
  | nil => exact absurd rfl hne
  | cons reply replies ih =>
    cases replies with
    | nil => rfl
    | cons next replies =>
      have hrest := ih (List.cons_ne_nil next replies) "1"
      have hmore : ∀ x y : App Unit, (if "1" ≠ "0" then x else y) = x :=
        fun x y => if_pos (by decide)
      have hbody : ∀ w : World,
          (Async.bind (body (selected pattern reply w)) fun _ => if "1" ≠ "0" then
            Cursor.loop connectionClosed body
              ((replay (next :: replies)).map fun answer => answer pattern) "1" else pure ()) =
            Async.bind (body (selected pattern reply w)) fun _ =>
              (next :: replies).forM fun reply => Async.await (scan pattern reply) >>= body := by
        intro w
        rw [hmore, hrest]
      exact congrArg (Async.step fun w => w) (funext hbody)

variable (pattern) in
/-- Every reply of the plan is an answer, with what it selects at the time of its call. -/
theorem mem_replies_replay (hbody : ∀ keys w, ∃ w', (body keys).run w = .ok () w')
    (replies : List (String → Bool)) (cursor : String) (w : World) :
    (∀ reply ∈ replies, ∃ r ∈ Cursor.replies body
      ((replay replies).map fun answer => answer pattern) cursor w,
        r.2.keys = selected pattern reply r.1) ∧
    (∀ r ∈ Cursor.replies body ((replay replies).map fun answer => answer pattern) cursor w,
      ∃ reply ∈ replies, r.2.keys = selected pattern reply r.1) ∧
    (replies ≠ [] → ∃ r ∈ Cursor.replies body
      ((replay replies).map fun answer => answer pattern) cursor w, r.2.cursor = "0") := by
  induction replies generalizing cursor w with
  | nil =>
    exact ⟨fun r hr => absurd hr List.not_mem_nil, fun r hr => absurd hr List.not_mem_nil,
      fun h => absurd rfl h⟩
  | cons reply replies ih =>
    obtain ⟨w', hw'⟩ := hbody (selected pattern reply w) w
    cases replies with
    | nil =>
      have heq : Cursor.replies body ((replay [reply]).map fun answer => answer pattern) cursor w =
          [(w, ⟨"0", selected pattern reply w⟩)] := by
        simp only [replay, List.map_cons, List.map_nil, Cursor.replies, hw']
        simp
      rw [heq]
      simp
    | cons next replies =>
      have heq : Cursor.replies body
          ((replay (reply :: next :: replies)).map fun answer => answer pattern) cursor w =
          (w, ⟨"1", selected pattern reply w⟩) :: Cursor.replies body
            ((replay (next :: replies)).map fun answer => answer pattern) "1" w' := by
        simp only [replay, List.map_cons, Cursor.replies, hw']
        simp
      obtain ⟨hall, hsel, hend⟩ := ih "1" w'
      rw [heq]
      refine ⟨fun r hr => ?_, fun r hr => ?_, fun _ => ?_⟩
      · rcases List.mem_cons.mp hr with rfl | hr
        · exact ⟨_, List.mem_cons_self, rfl⟩
        · obtain ⟨o, ho, hkeys⟩ := hall r hr
          exact ⟨o, List.mem_cons_of_mem _ ho, hkeys⟩
      · rcases List.mem_cons.mp hr with rfl | hr
        · exact ⟨reply, List.mem_cons_self, rfl⟩
        · obtain ⟨o, ho, hkeys⟩ := hsel r hr
          exact ⟨o, List.mem_cons_of_mem _ ho, hkeys⟩
      · obtain ⟨o, ho, h0⟩ := hend (List.cons_ne_nil next replies)
        exact ⟨o, List.mem_cons_of_mem _ ho, h0⟩

theorem mem_selected {reply : String → Bool} {w : World} {k : String} :
    k ∈ selected pattern reply w ↔ Returnable pattern w k ∧ reply k = true := by
  unfold selected Returnable
  rw [List.mem_filter, Store.mem_liveKeys, Bool.and_eq_true]
  constructor
  · exact fun ⟨hl, hr, hm⟩ => ⟨⟨hl, hm⟩, hr⟩
  · exact fun ⟨⟨hl, hm⟩, hr⟩ => ⟨hl, hr, hm⟩

/-- Such a server keeps Redis's promise. -/
theorem promised_replay (plan : ScanPlan) (hbody : ∀ keys w, ∃ w', (body keys).run w = .ok () w')
    (w : World) : Promised pattern body (replay plan.replies) w := by
  obtain ⟨hall, hsel, hend⟩ := mem_replies_replay pattern hbody plan.replies "0" w
  refine ⟨fun r hr k hk => ?_, fun k hk => ?_, hend (replies_ne_nil plan)⟩
  · obtain ⟨reply, -, hkeys⟩ := hsel r hr
    rw [hkeys] at hk
    exact (mem_selected.mp hk).1
  · obtain ⟨reply, hreply, hcovers⟩ := plan.covers k
    obtain ⟨r, hr, hkeys⟩ := hall reply hreply
    refine ⟨r, hr, ?_⟩
    rw [hkeys]
    exact mem_selected.mpr ⟨hk r.1 (Cursor.visited_of_mem_replies hr), hcovers⟩

end Replay

/-- The service's blacklist loop is the loop next to a server that replays a plan. -/
theorem setUserAccessTokenBlacklistCache_eq (env : Env) (c u : String) :
    Shared.setUserAccessTokenBlacklistCache env c u = (do
      let plan ← Async.await (scanStart env)
      setUserAccessTokenBlacklistCache (replay plan.replies) env c u) := by
  unfold Shared.setUserAccessTokenBlacklistCache setUserAccessTokenBlacklistCache iteration
  refine congrArg (Async.bind _) (funext fun plan => ?_)
  rw [loop_replay plan.replies (replies_ne_nil plan)]
  rw [show blacklistKeys env c u = fun keys => keys.forM (blacklistFound env c u) from
    funext (blacklistKeys_eq env c u)]
  rfl

/-- So is its deletion loop. -/
theorem deleteKeysByPattern_eq (env : Env) (pattern : String) :
    Shared.deleteKeysByPattern env pattern = (do
      let plan ← Async.await (scanStart env)
      deleteKeysByPattern (replay plan.replies) pattern) := by
  unfold Shared.deleteKeysByPattern deleteKeysByPattern iteration
  refine congrArg (Async.bind _) (funext fun plan => ?_)
  rw [loop_replay plan.replies (replies_ne_nil plan)]
  rw [show deleteKeys = fun keys => keys.forM fun key => Async.await (cacheDel key) from
    funext deleteKeys_eq]
  rfl

/-- How a session of the user is ended. -/
def blacklistAndClear (blacklist access refresh : List ScanAnswer) (env : Env)
    (clientCode userId : String) : App Unit := do
  setUserAccessTokenBlacklistCache blacklist env clientCode userId
  clearUserAllTokenCaches access refresh clientCode userId

/-- Redis keeps its promise in the three iterations that end the sessions of a user, each
in the state the one before it leaves. -/
structure AllPromised (env : Env) (c u : String) (blacklist access refresh : List ScanAnswer)
    (w : World) : Prop where
  blacklisting : Promised (getUserAccessTokenPrefix c u ++ ":*") (blacklistKeys env c u) blacklist w
  clearingAccess : Promised (getUserAccessTokenPrefix c u ++ ":*") deleteKeys access
    (finalState ((setUserAccessTokenBlacklistCache blacklist env c u).run w))
  clearingRefresh : Promised (getUserRefreshTokenPrefix c u ++ ":*") deleteKeys refresh
    (finalState ((do
      setUserAccessTokenBlacklistCache blacklist env c u
      deleteKeysByPattern access (getUserAccessTokenPrefix c u ++ ":*") : App Unit).run w))

theorem blacklistTtl_pos (env : Env) : 0 < blacklistTtl env := by
  unfold blacklistTtl
  split <;> omega

/-- No token that is cached for the user has a colon. -/
def TokensWithoutColon (c u : String) (w : World) : Prop :=
  ∀ t, (w.redis.find? w.now (accessKey c u t)).isSome = true ∨
    (w.redis.find? w.now (refreshKey c u t)).isSome = true → NoColon t

section Both

variable {env : Env} {c u : String} {blacklist access refresh : List ScanAnswer}

/-- The states between the three iterations. -/
theorem run_blacklistAndClear (hc : Glob.Plain c) (hu : Glob.Plain u) {w : World}
    (h : AllPromised env c u blacklist access refresh w) : ∃ w₁ w₂ w',
    (blacklistAndClear blacklist access refresh env c u).run w = .ok () w' ∧
      Blacklists env c u (Source c u w) w w₁ ∧
      (∀ t, t ≠ "" → NoColon t → (w.redis.find? w.now (accessKey c u t)).isSome = true →
        Blacklisted env c u t w₁) ∧
      Deletes (getUserAccessTokenPrefix c u ++ ":*") w₁ w₂ ∧
      (∀ t, w₂.redis.find? w₂.now (accessKey c u t) = none) ∧
      Deletes (getUserRefreshTokenPrefix c u ++ ":*") w₂ w' ∧
      ∀ t, w'.redis.find? w'.now (refreshKey c u t) = none := by
  obtain ⟨w₁, hrun₁, hw₁, hmarked⟩ := run_setUserAccessTokenBlacklistCache hc hu h.blacklisting
  have haccess := h.clearingAccess
  rw [hrun₁, finalState_ok] at haccess
  obtain ⟨w₂, hrun₂, hw₂, hgone₂⟩ := run_deleteKeysByPattern haccess
  have hrefresh := h.clearingRefresh
  simp only [Async.run_bind, hrun₁, hrun₂, finalState_ok] at hrefresh
  obtain ⟨w₃, hrun₃, hw₃, hgone₃⟩ := run_deleteKeysByPattern hrefresh
  refine ⟨w₁, w₂, w₃, ?_, hw₁, hmarked, hw₂, fun t => ?_, hw₃, fun t => ?_⟩
  · simp only [blacklistAndClear, clearUserAllTokenCaches, Async.run_bind, hrun₁, hrun₂, hrun₃]
  · exact hgone₂ _ ((isMatch_access hc hu _).mpr (hasPrefix_accessKey c u t))
  · exact hgone₃ _ ((isMatch_refresh hc hu _).mpr (hasPrefix_refreshKey c u t))

/-- The loops blacklist every token that is not empty and leave no access or refresh entry. -/
theorem scans_miss_nothing (env : Env) {c u : String} (hc : Glob.Plain c) (hu : Glob.Plain u)
    {w : World} (hcolon : TokensWithoutColon c u w) {blacklist access refresh : List ScanAnswer}
    (h : AllPromised env c u blacklist access refresh w) :
    ∃ w', (blacklistAndClear blacklist access refresh env c u).run w = .ok () w' ∧
      (∀ t, t ≠ "" → (w.redis.find? w.now (accessKey c u t)).isSome = true →
        (w'.redis.find? w'.now (blacklistKey c u t)).isSome = true) ∧
      ∀ t, w'.redis.find? w'.now (accessKey c u t) = none ∧
        w'.redis.find? w'.now (refreshKey c u t) = none := by
  obtain ⟨w₁, w₂, w₃, hrun, -, hmarked, hw₂, hgone₂, hw₃, hgone₃⟩ := run_blacklistAndClear hc hu h
  refine ⟨w₃, hrun, fun t ht hl => ?_, fun t => ⟨?_, hgone₃ t⟩⟩
  · have hentry : Blacklisted env c u t w₁ := hmarked t ht (hcolon t (Or.inl hl)) hl
    have hkept₂ := hw₂.kept fun hm => blacklistKey_not_access c u t ((isMatch_access hc hu _).mp hm)
    have hkept₃ := hw₃.kept fun hm =>
      blacklistKey_not_refresh c u t ((isMatch_refresh hc hu _).mp hm)
    have hlookup := (hkept₃.trans hkept₂).trans hentry
    have hnow : w₃.now = w₁.now := hw₃.now.trans hw₂.now
    have hpos := blacklistTtl_pos env
    have hlive : (Entry.stamp (CacheValue.text "blacklisted") w₁.now (blacklistTtl env)).live
        w₃.now = true := Entry.live_stamp (Or.inl (by omega))
    exact Option.isSome_iff_exists.mpr ⟨_, Store.find?_eq_some.mpr ⟨_, hlookup, hlive, rfl⟩⟩
  · refine Option.not_isSome_iff_eq_none.mp fun hl => ?_
    have hl₂ := hw₃.live_before hl
    rw [hgone₂ t] at hl₂
    cases hl₂

end Both

theorem runs_blacklistKeys (env : Env) (c u : String) (keys : List String) (w : World) :
    ∃ w', (blacklistKeys env c u keys).run w = .ok () w' := by
  rw [blacklistKeys_eq]
  have hlinks : Cursor.Links (Blacklists env c u fun _ => True) (BlacklistedKey env c u) :=
    links_blacklists
  obtain ⟨w', hround⟩ := Cursor.Round.forM hlinks
    (fun k _ => guarantees_blacklistFound fun _ => trivial) run_blacklistFound w
  exact ⟨w', hround.returns⟩

theorem runs_deleteKeys (keys : List String) (w : World) :
    ∃ w', (deleteKeys keys).run w = .ok () w' := by
  rw [deleteKeys_eq]
  induction keys generalizing w with
  | nil => exact ⟨w, rfl⟩
  | cons k keys ih => exact ih { w with redis := w.redis.del k }

/-- Servers that replay plans keep their promise in every state. -/
theorem allPromised_replay (env : Env) (c u : String) (blacklist access refresh : ScanPlan)
    (w : World) : AllPromised env c u (replay blacklist.replies) (replay access.replies)
      (replay refresh.replies) w :=
  ⟨promised_replay _ (runs_blacklistKeys env c u) _, promised_replay _ runs_deleteKeys _,
    promised_replay _ runs_deleteKeys _⟩

/-- An empty batch first, then everything twice. -/
def stuttering : ScanPlan :=
  ⟨[fun _ => false, fun _ => true, fun _ => true], fun _ => ⟨fun _ => true, by simp, rfl⟩⟩

/-- One access token of the sample user, cached for a second. -/
def cachedWorld (t : String) : World :=
  { World.sample with
    redis := Store.empty.put (accessKey "root" User.sample.id t)
      (Entry.stamp (.text "session") World.sample.now 1000) }

theorem find?_cachedWorld (t k : String) :
    ((cachedWorld t).redis.find? (cachedWorld t).now k).isSome = true ↔
      k = accessKey "root" User.sample.id t := by
  by_cases hk : k = accessKey "root" User.sample.id t
  · rw [hk]
    simp [cachedWorld, Store.find?, Entry.live, Entry.stamp]
  · simp only [hk, iff_false]
    rw [show (cachedWorld t).redis = Store.empty.put _ _ from rfl, Store.find?,
      Store.lookup_put_ne _ _ hk]
    simp [Store.empty, Store.lookup]

theorem tokensWithoutColon_cachedWorld {t : String} (ht : NoColon t) :
    TokensWithoutColon "root" User.sample.id (cachedWorld t) := by
  have hid : NoColon User.sample.id := by decide
  intro t' h
  rw [find?_cachedWorld, find?_cachedWorld, accessKey_eq, accessKey_eq, refreshKey_eq] at h
  rcases h with h | h
  · rw [(tokenKey_unique_of_code hid ht h).2.2]
    exact ht
  · exact absurd (tokenKey_unique_of_code hid ht h).1 (by decide)

theorem scans_miss_nothing_sample : ∃ w',
    (blacklistAndClear (replay stuttering.replies) (replay stuttering.replies)
      (replay stuttering.replies) Env.sample "root" User.sample.id).run (cachedWorld "jwt-1") =
        .ok () w' ∧
      (w'.redis.find? w'.now (blacklistKey "root" User.sample.id "jwt-1")).isSome = true ∧
      w'.redis.find? w'.now (accessKey "root" User.sample.id "jwt-1") = none := by
  have hlive := (find?_cachedWorld "jwt-1" _).mpr rfl
  have hcolon := tokensWithoutColon_cachedWorld (t := "jwt-1") (by decide)
  obtain ⟨w', hrun, hmarked, hgone⟩ := scans_miss_nothing Env.sample (by decide) (by decide) hcolon
    (allPromised_replay Env.sample "root" User.sample.id stuttering stuttering stuttering _)
  exact ⟨w', hrun, hmarked "jwt-1" (by decide) hlive, (hgone "jwt-1").1⟩

/-- An entry with no text after its last colon is deleted, and nothing is blacklisted for it. -/
theorem empty_token_skipped :
    TokensWithoutColon "root" User.sample.id (cachedWorld "") ∧
    AllPromised Env.sample "root" User.sample.id (replay stuttering.replies)
      (replay stuttering.replies) (replay stuttering.replies) (cachedWorld "") ∧
    ((cachedWorld "").redis.find? (cachedWorld "").now
      (accessKey "root" User.sample.id "")).isSome = true ∧
    ∃ w', (blacklistAndClear (replay stuttering.replies) (replay stuttering.replies)
      (replay stuttering.replies) Env.sample "root" User.sample.id).run (cachedWorld "") =
        .ok () w' ∧ w'.redis.find? w'.now (blacklistKey "root" User.sample.id "") = none := by
  have hpromised := allPromised_replay Env.sample "root" User.sample.id stuttering stuttering
    stuttering (cachedWorld "")
  obtain ⟨w₁, w₂, w', hrun, hw₁, -, hw₂, -, hw₃, -⟩ :=
    run_blacklistAndClear (by decide) (by decide) hpromised
  refine ⟨tokensWithoutColon_cachedWorld (by decide), hpromised,
    (find?_cachedWorld "" _).mpr rfl, w', hrun, ?_⟩
  have hother : ∀ t, Source "root" User.sample.id (cachedWorld "") t →
      blacklistKey "root" User.sample.id "" ≠ blacklistKey "root" User.sample.id t :=
    fun t ht h => ht.1 ((String.append_right_inj _).mp h).symm
  refine Option.not_isSome_iff_eq_none.mp fun hl => ?_
  have hl₁ := hw₂.live_before (hw₃.live_before hl)
  rw [hw₁.find? hother, find?_cachedWorld] at hl₁
  exact kind_ne (x := 'b') (y := 'a') rfl rfl (by decide) hl₁

end NestUserService.Shared.Scan
