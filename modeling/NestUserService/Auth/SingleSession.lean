import NestUserService.Lib.Pool
import NestUserService.Auth.Operations
import NestUserService.Auth.ValidateSpec

/-!
# One session for each user

Any number of logins of one user run next to each other, one await at a time. What a
login leaves is one valid refresh token and one access token that is not on the
blacklist, provided that no other login works between its first step and the write
of its access key. The rest of a login may overlap with anything.
-/

namespace NestUserService.Auth

open Lib NestUserService.Core Shared

namespace SingleSession

/-- The await that mints the tokens and creates the row. -/
def createSession (env : Env) (user : UserInfo) (ip : String) : Sync Minted := do
  let minted ← mint env user
  writeRoot fun db => db.createRefreshToken (minted.row user.id ip)
  return minted

/-- `login` up to the write of the access key. -/
def loginSection (env : Env) (user : UserInfo) (ip : String) (d ua : Option String) :
    App Minted := do
  invalidatePreviousRefreshTokens user.id
  setRootUserAccessTokenBlacklistCache env user.id
  clearUserTokenCache env user.id
  Async.await (sendMessage (loginText user.id ip))
  if user.isTwoFactorEnabled && !truthy d then
    throw deviceTokenMissing
  if user.isTwoFactorEnabled then
    let _ ← validateOrRegisterDevice env user.id d ip ua
  let minted ← Async.await (createSession env user ip)
  setUserAccessTokenCache env rootLoginClientCacheValue user.id minted.accessToken
    (minted.payload user ip)
  return minted

/-- What is left of `login`: the refresh key and the answer. -/
def loginRemainder (env : Env) (user : UserInfo) (ip : String) (minted : Minted) :
    App LoginResponse := do
  setUserRefreshTokenCache env rootLoginClientCacheValue user.id minted.refreshToken
    (minted.payload user ip)
  return minted.response none

/-- The arguments of one call of `login`. -/
structure LoginCall where
  user : UserInfo
  ip : String
  deviceToken : Option String := none
  userAgent : Option String := none

theorem login_cut (env : Env) (user : UserInfo) (ip : String) (d ua : Option String) :
    login env user ip d ua = loginSection env user ip d ua >>= loginRemainder env user ip := by
  unfold loginSection loginRemainder login generateTokens setUserAllTokenCache createSession
  simp only [Async.bind_assoc, Async.ite_bind, Async.throw_bind, Async.pure_bind]

/-- A call of `login`, cut after the write of the access key. -/
def LoginCall.call (env : Env) (l : LoginCall) : Call World Exn Minted LoginResponse where
  program := login env l.user l.ip l.deviceToken l.userAgent
  inside := loginSection env l.user l.ip l.deviceToken l.userAgent
  after := loginRemainder env l.user l.ip
  cut := login_cut env l.user l.ip l.deviceToken l.userAgent

/-- A login that no other call interrupts ends as `login` does. -/
theorem login_alone {ι : Type} [DecidableEq ι] (env : Env) (calls : ι → LoginCall)
    {p : Pool World Exn Minted LoginResponse ι} {i : ι} (hwait : p.threads i = .waiting)
    (hfree : p.Free) :
    Pool.Runs (fun i => (calls i).call env) (Elapses fun _ => True) Pool.Free p
      (p.settle i ((login env (calls i).user (calls i).ip (calls i).deviceToken
        (calls i).userAgent).run p.state)) :=
  Pool.runs_alone (fun i => (calls i).call env) _ _ hwait hfree

/-- What the code relies on: the signer's tokens hold no colon and carry their expiry
(`exp`, in seconds), and both caches keep an entry for the lifetime of a token. -/
structure TokenLifetimes (env : Env) (exp : String → Nat) : Prop where
  noColon : ∀ claims iat, NoColon (env.sign claims iat)
  ne : ∀ claims iat, env.sign claims iat ≠ ""
  expires : ∀ claims iat, exp (env.sign claims iat) = iat + env.accessTokenExpire
  access : env.accessTokenExpire * 1000 ≤ env.accessTokenCacheExpiresIn
  blacklist : env.accessTokenExpire * 1000 ≤ blacklistTtl env

/-- The token has expired, or `k` has an entry that is live until then. -/
def Lasting (exp : String → Nat) (T k : String) (w : World) : Prop :=
  exp T ≤ w.now / 1000 ∨ ∃ v t ttl, CacheValue.truthy v = true ∧
    w.redis.lookup k = some (Entry.stamp v t ttl) ∧ exp T * 1000 ≤ t + ttl

section Lasting

variable {exp : String → Nat} {T k : String} {w w' : World}

theorem Lasting.mono (h : Lasting exp T k w) (hnow : w.now ≤ w'.now)
    (hl : w'.redis.lookup k = w.redis.lookup k) : Lasting exp T k w' := by
  rcases h with h | ⟨v, t, ttl, hv, he, hx⟩
  · exact Or.inl (h.trans (Nat.div_le_div_right hnow))
  · exact Or.inr ⟨v, t, ttl, hv, hl.trans he, hx⟩

theorem Lasting.found (h : Lasting exp T k w) (hlive : w.now / 1000 < exp T) :
    ∃ v, v.truthy = true ∧ w.redis.find? w.now k = some v := by
  rcases h with h | ⟨v, t, ttl, hv, he, hx⟩
  · omega
  · have hnow : w.now < t + ttl := by omega
    exact ⟨v, hv, Store.find?_eq_some.mpr ⟨_, he, Entry.live_stamp (Or.inl hnow), rfl⟩⟩

theorem lasting_put {v : CacheValue} {ttl : Nat} (hv : v.truthy = true)
    (hx : exp T * 1000 ≤ w.now + ttl) :
    Lasting exp T k { w with redis := w.redis.put k (Entry.stamp v w.now ttl) } :=
  Or.inr ⟨v, w.now, ttl, hv, Store.lookup_put_self _ _ _, hx⟩

end Lasting

/-- A token that was signed at some time up to now. -/
structure Known (env : Env) (exp : String → Nat) (now : Nat) (T : String) : Prop where
  noColon : NoColon T
  ne : T ≠ ""
  expires : exp T ≤ now / 1000 + env.accessTokenExpire

theorem Known.mono {env : Env} {exp : String → Nat} {now now' : Nat} {T : String}
    (h : Known env exp now T) (hnow : now ≤ now') : Known env exp now' T :=
  ⟨h.noColon, h.ne, h.expires.trans (Nat.add_le_add_right (Nat.div_le_div_right hnow) _)⟩

/-- An entry of sufficient lifetime outlives the token. -/
theorem Known.lasts {env : Env} {exp : String → Nat} {now : Nat} {T : String}
    (h : Known env exp now T) {ttl : Nat} (httl : env.accessTokenExpire * 1000 ≤ ttl) :
    exp T * 1000 ≤ now + ttl :=
  calc exp T * 1000
    _ ≤ (now / 1000 + env.accessTokenExpire) * 1000 := Nat.mul_le_mul_right _ h.expires
    _ = now / 1000 * 1000 + env.accessTokenExpire * 1000 := Nat.add_mul _ _ _
    _ ≤ now + ttl := Nat.add_le_add (Nat.div_mul_le_self _ _) httl

/-- A token that is signed now expires after its lifetime. -/
theorem known_sign {env : Env} {exp : String → Nat} (hT : TokenLifetimes env exp)
    (claims : Claims) (now : Nat) : Known env exp now (env.sign claims (now / 1000)) :=
  ⟨hT.noColon _ _, hT.ne _ _, (hT.expires _ _).le⟩

theorem accessKey_ne_blacklistKey (c u t t' : String) : accessKey c u t ≠ blacklistKey c u t' :=
  fun h => blacklistKey_not_access c u t' (h ▸ hasPrefix_accessKey c u t)

/-- The valid rows of a user. -/
def validRows (w : World) (u : String) : List RefreshToken :=
  w.root.refreshToken.rows.filter fun r => r.userId == u && r.isValid

/-- No row of the user is valid. -/
def Closed (u : String) (w : World) : Prop :=
  ∀ r ∈ w.root.refreshToken.rows, r.userId = u → r.isValid = false

theorem Closed.validRows_eq {u : String} {w : World} (h : Closed u w) : validRows w u = [] := by
  unfold validRows
  rw [List.filter_eq_nil_iff]
  intro r hr
  by_cases hu : r.userId = u
  · simp [h r hr hu]
  · simp [hu]

section Phases

variable (env : Env) (exp : String → Nat) (u : String)

/-- The token is expired or on the blacklist of `root` until it is. -/
def Dead (T : String) (w : World) : Prop :=
  Lasting exp T (blacklistKey rootLoginClientCacheValue u T) w

/-- The token is expired or cached under `root` until it is. -/
def Cached (T : String) (w : World) : Prop :=
  Lasting exp T (accessKey rootLoginClientCacheValue u T) w

/-- Between logins: of the tokens in `S`, all but one are dead. -/
structure Single (S : Set Minted) (w : World) : Prop where
  rows : (validRows w u).length ≤ 1
  known : ∀ m ∈ S, Known env exp w.now m.accessToken
  kept : ∀ m ∈ S, Dead exp u m.accessToken w ∨ Cached exp u m.accessToken w
  one : ∀ m ∈ S, ∀ m' ∈ S, m.accessToken = m'.accessToken ∨
    Dead exp u m.accessToken w ∨ Dead exp u m'.accessToken w

/-- The previous sessions have been ended. -/
structure Ended (S : Set Minted) (w : World) : Prop where
  closed : Closed u w
  known : ∀ m ∈ S, Known env exp w.now m.accessToken
  dead : ∀ m ∈ S, Dead exp u m.accessToken w

/-- A row has been created for `m`. -/
structure Issued (S : Set Minted) (m : Minted) (w : World) : Prop where
  rows : (validRows w u).length ≤ 1
  known : ∀ m' ∈ insert m S, Known env exp w.now m'.accessToken
  dead : ∀ m' ∈ S, Dead exp u m'.accessToken w

/-- The steps of other logins that are past their section, and of the clock. -/
structure Trail (w w' : World) : Prop where
  now : w.now ≤ w'.now
  rows : w'.root.refreshToken = w.root.refreshToken
  redis : ∀ k, ¬ HasPrefix (refreshPattern rootLoginClientCacheValue u) k →
    w'.redis.lookup k = w.redis.lookup k

variable {env exp u}

theorem Trail.refl (w : World) : Trail u w w := ⟨Nat.le_refl _, rfl, fun _ _ => rfl⟩

theorem Trail.trans {w w' w'' : World} (h : Trail u w w') (h' : Trail u w' w'') :
    Trail u w w'' :=
  ⟨h.now.trans h'.now, h'.rows.trans h.rows, fun k hk => (h'.redis k hk).trans (h.redis k hk)⟩

theorem Trail.validRows_eq {w w' : World} (h : Trail u w w') : validRows w' u = validRows w u := by
  unfold validRows
  rw [h.rows]

theorem Trail.dead {w w' : World} (h : Trail u w w') {T : String} (hd : Dead exp u T w) :
    Dead exp u T w' :=
  hd.mono h.now (h.redis _ (blacklistKey_not_refresh _ _ _))

theorem Trail.cached {w w' : World} (h : Trail u w w') {T : String} (hc : Cached exp u T w) :
    Cached exp u T w' :=
  hc.mono h.now (h.redis _ (accessKey_not_refresh _ _ _))

variable {S : Set Minted}

theorem Single.mono {w w' : World} (h : Single env exp u S w) (hnow : w.now ≤ w'.now)
    (hrows : (validRows w' u).length ≤ 1)
    (hdead : ∀ T, Known env exp w.now T → Dead exp u T w → Dead exp u T w')
    (hcached : ∀ T, Cached exp u T w → Cached exp u T w') : Single env exp u S w' :=
  ⟨hrows, fun m hm => (h.known m hm).mono hnow,
    fun m hm => (h.kept m hm).imp (hdead _ (h.known m hm)) (hcached _),
    fun m hm m' hm' => (h.one m hm m' hm').imp id
      (Or.imp (hdead _ (h.known m hm)) (hdead _ (h.known m' hm')))⟩

theorem Ended.mono {w w' : World} (h : Ended env exp u S w) (hnow : w.now ≤ w'.now)
    (hclosed : Closed u w') (hdead : ∀ T, Dead exp u T w → Dead exp u T w') :
    Ended env exp u S w' :=
  ⟨hclosed, fun m hm => (h.known m hm).mono hnow, fun m hm => hdead _ (h.dead m hm)⟩

theorem Ended.single {w : World} (h : Ended env exp u S w) : Single env exp u S w :=
  ⟨by rw [h.closed.validRows_eq]; exact Nat.zero_le 1, h.known,
    fun m hm => Or.inl (h.dead m hm), fun m hm _ _ => Or.inr (Or.inl (h.dead m hm))⟩

theorem Closed.stable : Async.Stable (Trail u) (Closed u) := by
  intro w w' hr h r hm
  rw [hr.rows] at hm
  exact h r hm

theorem Single.stable : Async.Stable (Trail u) (Single env exp u S) := fun _ _ hr h =>
  h.mono hr.now (by rw [hr.validRows_eq]; exact h.rows) (fun _ _ => hr.dead) fun _ => hr.cached

theorem Ended.stable : Async.Stable (Trail u) (Ended env exp u S) := fun _ _ hr h =>
  h.mono hr.now (Closed.stable _ _ hr h.closed) fun _ => hr.dead

theorem Issued.stable (m : Minted) : Async.Stable (Trail u) (Issued env exp u S m) :=
  fun _ _ hr h => ⟨by rw [hr.validRows_eq]; exact h.rows,
    fun m' hm => (h.known m' hm).mono hr.now, fun m' hm => hr.dead (h.dead m' hm)⟩

/-- All rows of the user are invalid after the first step. -/
theorem closed_invalidate (w : World) :
    Closed u { w with root := w.root.invalidateRefreshTokens u } :=
  fun _ hr hu => Db.invalid_of_mem_invalidate hr hu

theorem invalidate_triple :
    Async.Triple (Trail u) (Single env exp u S) (invalidatePreviousRefreshTokens u)
      (fun _ w => Single env exp u S w ∧ Closed u w) (fun _ _ => False) := by
  refine Async.Triple.await Single.stable fun w h => ?_
  have hclosed := closed_invalidate (u := u) w
  exact ⟨h.mono (Nat.le_refl _) (by rw [hclosed.validRows_eq]; exact Nat.zero_le 1)
    (fun _ _ => id) fun _ => id, hclosed⟩

/-- A blacklist write keeps what lasts. -/
theorem single_marking {w : World} (hT : TokenLifetimes env exp)
    (h : Single env exp u S w ∧ Closed u w) (key : String) :
    Single env exp u S (marking env rootLoginClientCacheValue u key w) ∧
      Closed u (marking env rootLoginClientCacheValue u key w) := by
  refine ⟨h.1.mono (Nat.le_refl _) h.1.rows (fun T hk hd => ?_) (fun T hc => ?_), h.2⟩
  · by_cases hkey : blacklistKey rootLoginClientCacheValue u T =
        blacklistKey rootLoginClientCacheValue u (tokenOfKey key)
    · unfold Dead
      rw [hkey]
      exact lasting_put rfl (hk.lasts hT.blacklist)
    · exact Lasting.mono hd (Nat.le_refl _) (lookup_marking_ne env w hkey)
  · exact Lasting.mono hc (Nat.le_refl _)
      (lookup_marking_ne env w (accessKey_ne_blacklistKey _ _ _ _))

variable (env exp u S) in
/-- The blacklist loop at work: `m` is dead, or its access key is still to come. -/
def Marking (m : Minted) (pending : Prop) (w : World) : Prop :=
  (Single env exp u S w ∧ Closed u w) ∧ (m ∈ S → Dead exp u m.accessToken w ∨ pending)

theorem Marking.stable (m : Minted) (pending : Prop) :
    Async.Stable (Trail u) (Marking env exp u S m pending) := fun _ _ hr h =>
  ⟨⟨Single.stable _ _ hr h.1.1, Closed.stable _ _ hr h.1.2⟩, fun hm => (h.2 hm).imp hr.dead id⟩

theorem Marking.weaken {m : Minted} {p q : Prop} {w : World} (h : Marking env exp u S m p w)
    (hpq : m ∈ S → p → q) : Marking env exp u S m q w :=
  ⟨h.1, fun hm => (h.2 hm).imp id (hpq hm)⟩

/-- A token that is not dead has a live access key. -/
theorem Marking.dead_or_live {m : Minted} {p : Prop} {w : World} (h : Marking env exp u S m p w)
    (hm : m ∈ S) : Dead exp u m.accessToken w ∨
      (w.redis.find? w.now (accessKey rootLoginClientCacheValue u m.accessToken)).isSome = true := by
  rcases h.1.1.kept m hm with hd | hc
  · exact Or.inl hd
  · by_cases hlive : w.now / 1000 < exp m.accessToken
    · obtain ⟨v, -, hv⟩ := hc.found hlive
      exact Or.inr (by rw [hv]; rfl)
    · exact Or.inl (Or.inl (Nat.le_of_not_lt hlive))

theorem blacklistFound_triple (hT : TokenLifetimes env exp) (m : Minted) (later : Prop)
    (key : String) (keys : List String) :
    Async.Triple (Trail u)
      (Marking env exp u S m
        (accessKey rootLoginClientCacheValue u m.accessToken ∈ key :: keys ∨ later))
      (blacklistFound env rootLoginClientCacheValue u key)
      (fun _ => Marking env exp u S m
        (accessKey rootLoginClientCacheValue u m.accessToken ∈ keys ∨ later))
      (fun _ _ => False) := by
  unfold blacklistFound
  refine Async.Triple.ite (fun ht => ?_) (fun ht => ?_)
  · refine Async.Triple.await (Marking.stable m _) fun w h => ?_
    rw [cacheSet_marking]
    refine ⟨single_marking hT h.1 key, fun hm => ?_⟩
    have hknown := h.1.1.known m hm
    by_cases hkey : blacklistKey rootLoginClientCacheValue u m.accessToken =
        blacklistKey rootLoginClientCacheValue u (tokenOfKey key)
    · left
      unfold Dead
      rw [hkey]
      exact lasting_put rfl (hknown.lasts hT.blacklist)
    · refine (h.2 hm).imp (fun hd => ?_) (Or.imp (fun hk => ?_) id)
      · exact Lasting.mono hd (Nat.le_refl _) (lookup_marking_ne env w hkey)
      · refine (List.mem_cons.mp hk).resolve_left fun he => hkey ?_
        rw [← he, tokenOfKey_accessKey hknown.noColon]
  · rw [not_not] at ht
    refine Async.Triple.pure fun w h => h.weaken fun hm => Or.imp (fun hk => ?_) id
    have hknown := h.1.1.known m hm
    refine (List.mem_cons.mp hk).resolve_left fun he => hknown.ne ?_
    rwa [← he, tokenOfKey_accessKey hknown.noColon] at ht

theorem blacklistReply_triple (hT : TokenLifetimes env exp) (hu : Glob.Plain u) (m : Minted)
    (r : String → Bool) (rs : List (String → Bool)) :
    Async.Triple (Trail u)
      (Marking env exp u S m
        (∃ r' ∈ r :: rs, r' (accessKey rootLoginClientCacheValue u m.accessToken) = true))
      (blacklistReply env rootLoginClientCacheValue u r)
      (fun _ => Marking env exp u S m
        (∃ r' ∈ rs, r' (accessKey rootLoginClientCacheValue u m.accessToken) = true))
      (fun _ _ => False) := by
  let I : List String → World → Prop := fun keys => Marking env exp u S m
    (accessKey rootLoginClientCacheValue u m.accessToken ∈ keys ∨
      ∃ r' ∈ rs, r' (accessKey rootLoginClientCacheValue u m.accessToken) = true)
  refine Async.Triple.bind (Q := I) ?_ fun keys => ?_
  · refine Async.Triple.await (Marking.stable m _) fun w h => ⟨h.1, fun hm => ?_⟩
    rcases h.dead_or_live hm with hd | hl
    · exact Or.inl hd
    · refine (h.2 hm).imp id ?_
      rintro ⟨r', hr', hk⟩
      rcases List.mem_cons.mp hr' with rfl | hr'
      · left
        rw [pattern_star]
        exact (mem_reply (plain_accessPattern plain_root hu)).mpr
          ⟨hl, hk, hasPrefix_accessKey _ _ _⟩
      · exact Or.inr ⟨r', hr', hk⟩
  · exact (Async.Triple.forM (I := I) (fun key l => blacklistFound_triple hT m _ key l)
      keys).conseq (fun _ h => h)
      (fun _ w h => h.weaken fun _ hk => hk.resolve_left List.not_mem_nil) fun _ _ h => h

/-- The scan finds every token that is not dead. -/
theorem blacklist_triple (hT : TokenLifetimes env exp) (hu : Glob.Plain u) :
    Async.Triple (Trail u) (fun w => Single env exp u S w ∧ Closed u w)
      (setRootUserAccessTokenBlacklistCache env u) (fun _ => Ended env exp u S)
      (fun _ _ => False) := by
  have htoken (m : Minted) : Async.Triple (Trail u) (fun w => Single env exp u S w ∧ Closed u w)
      (setRootUserAccessTokenBlacklistCache env u) (fun _ => Marking env exp u S m False)
      (fun _ _ => False) := by
    let I : List (String → Bool) → World → Prop := fun rs => Marking env exp u S m
      (∃ r ∈ rs, r (accessKey rootLoginClientCacheValue u m.accessToken) = true)
    refine Async.Triple.bind (Q := fun plan => I plan.replies) ?_ fun plan => ?_
    · refine Async.Triple.await ?_ fun w h => ?_
      · exact fun w w' hr h => ⟨Single.stable _ _ hr h.1, Closed.stable _ _ hr h.2⟩
      · exact ⟨⟨h.1.mono (Nat.le_refl _) h.1.rows (fun _ _ => id) fun _ => id, h.2⟩,
          fun _ => Or.inr ((env.scanPlan w.draws).covers _)⟩
    · refine (Async.Triple.forM (I := I) (fun r rs => blacklistReply_triple hT hu m r rs)
        plan.replies).conseq (fun _ h => h) (fun _ w h => h.weaken ?_) fun _ _ h => h
      rintro - ⟨r, hr, -⟩
      exact List.not_mem_nil hr
  have hinhabited : Nonempty Minted := ⟨⟨"", "", 0, 0⟩⟩
  refine (Async.Triple.all htoken).conseq (fun _ h => h) (fun _ w h => ?_) fun _ _ h => h
  obtain ⟨hs, hc⟩ := (h (Classical.arbitrary Minted)).1
  exact ⟨hc, hs.known, fun m hm => ((h m).2 hm).resolve_right id⟩

theorem clear_triple (hu : Glob.Plain u) :
    Async.Triple (Trail u) (Ended env exp u S) (clearUserTokenCache env u)
      (fun _ => Ended env exp u S) (fun _ => Ended env exp u S) := by
  refine ((guarantees_clear (P := NoPut) env rootLoginClientCacheValue u).triple Ended.stable
    fun w w' hs h => ?_).conseq (fun _ h => h) (fun _ _ h => h.2) fun _ _ h => h
  cases hs with
  | keep n => exact h.mono (Nat.le_refl _) h.closed fun _ => id
  | put k v ttl hk => exact hk.elim
  | del k hk =>
    refine h.mono (Nat.le_refl _) h.closed fun T hd => ?_
    refine Lasting.mono hd (Nat.le_refl _) (Store.lookup_del_ne _ ?_)
    rintro rfl
    exact not_tokenKey_blacklistKey _ _ _ (tokenKey_of_clearDel plain_root hu hk)

/-- The device check issues nothing, even when it answers a theft. -/
theorem device_triple (user : UserInfo) (ip : String) (d ua : Option String) (hid : user.id = u) :
    Async.Triple (Trail u) (Ended env exp u S)
      (validateOrRegisterDevice env user.id d ip ua)
      (fun _ => Ended env exp u S) (fun _ => Ended env exp u S) := by
  let G : World → World → Prop := fun w w' => w'.now = w.now ∧ w'.redis = w.redis ∧
    (Closed u w → Closed u w')
  have hquiet (w w' : World) (h : SameTokens w w') : G w w' :=
    ⟨h.now, h.redis, fun hc r hr => hc r (by rwa [h.root] at hr)⟩
  have hinvalidate (w : World) : G w { w with root := w.root.invalidateRefreshTokens user.id } :=
    ⟨rfl, rfl, fun _ => hid ▸ closed_invalidate w⟩
  refine ((guarantees_validateOrRegisterDevice env hquiet hinvalidate d ip ua).triple Ended.stable
    fun w w' hs h => ?_).conseq (fun _ h => h) (fun _ _ h => h.2) fun _ _ h => h
  obtain ⟨hnow, hredis, hclosed⟩ := hs
  exact h.mono hnow.ge (hclosed h.closed) fun T hd => Lasting.mono hd hnow.ge (by rw [hredis])

theorem message_triple (message : String) :
    Async.Triple (Trail u) (Ended env exp u S) (Async.await (sendMessage message))
      (fun _ => Ended env exp u S) (fun _ _ => False) :=
  Async.Triple.await Ended.stable fun _ h => h.mono (Nat.le_refl _) h.closed fun _ => id

theorem create_triple (hT : TokenLifetimes env exp) (user : UserInfo) (ip : String) :
    Async.Triple (Trail u) (Ended env exp u S) (Async.await (createSession env user ip))
      (fun m => Issued env exp u S m) (fun _ => Ended env exp u S) := by
  refine Async.Triple.await Ended.stable fun w h => ?_
  simp only [createSession, mint, sync_bind, clock_apply, uuidv4_apply, sync_pure, writeRoot_apply]
  cases hcreate : w.root.createRefreshToken _ with
  | error e => exact h.mono (Nat.le_refl _) h.closed fun _ => id
  | ok db =>
    obtain ⟨hv, -, rfl⟩ := Db.createRefreshToken_ok hcreate
    refine ⟨?_, fun m' hm => ?_, h.dead⟩
    · unfold validRows Table.insert
      rw [List.filter_append, show w.root.refreshToken.rows.filter _ = [] from
        h.closed.validRows_eq, List.nil_append]
      exact List.length_filter_le _ _
    · rcases Set.mem_insert_iff.mp hm with rfl | hm
      · exact known_sign hT _ w.now
      · exact h.known m' hm

/-- The access key of the new token is written: a session again. -/
theorem cache_triple (hT : TokenLifetimes env exp) (user : UserInfo) (ip : String)
    (hid : user.id = u) (m : Minted) :
    Async.Triple (Trail u) (Issued env exp u S m)
      (setUserAccessTokenCache env rootLoginClientCacheValue user.id m.accessToken
        (m.payload user ip))
      (fun _ => Single env exp u (insert m S)) (fun _ _ => False) := by
  subst hid
  refine Async.Triple.await (Issued.stable m) fun w h => ?_
  have hdead {m' : Minted} (hm : m' ∈ S) : Dead exp user.id m'.accessToken { w with
      redis := w.redis.put (accessKey rootLoginClientCacheValue user.id m.accessToken)
        (Entry.stamp (m.payload user ip) w.now env.accessTokenCacheExpiresIn) } :=
    Lasting.mono (h.dead m' hm) (Nat.le_refl _)
      (Store.lookup_put_ne _ _ (accessKey_ne_blacklistKey _ _ _ _).symm)
  refine ⟨h.rows, h.known, fun m' hm => ?_, fun m₁ hm₁ m₂ hm₂ => ?_⟩
  · rcases Set.mem_insert_iff.mp hm with rfl | hm
    · exact Or.inr (lasting_put rfl ((h.known m' (Set.mem_insert m' S)).lasts hT.access))
    · exact Or.inl (hdead hm)
  · rcases Set.mem_insert_iff.mp hm₁ with rfl | hm₁
    · rcases Set.mem_insert_iff.mp hm₂ with rfl | hm₂
      · exact Or.inl rfl
      · exact Or.inr (Or.inr (hdead hm₂))
    · exact Or.inr (Or.inl (hdead hm₁))

/-- The section of a login restores `Single`, with its token added when it returns. -/
theorem section_triple (hT : TokenLifetimes env exp) (hu : Glob.Plain u) (user : UserInfo)
    (ip : String) (d ua : Option String) (hid : user.id = u) :
    Async.Triple (Trail u) (Single env exp u S) (loginSection env user ip d ua)
      (fun m => Single env exp u (insert m S)) (fun _ => Single env exp u S) := by
  subst hid
  have hgenerate : Async.Triple (Trail user.id) (Ended env exp user.id S)
      (do
        let minted ← Async.await (createSession env user ip)
        setUserAccessTokenCache env rootLoginClientCacheValue user.id minted.accessToken
          (minted.payload user ip)
        return minted)
      (fun m => Single env exp user.id (insert m S)) (fun _ => Single env exp user.id S) := by
    refine Async.Triple.bind ((create_triple hT user ip).conseq (fun _ h => h) (fun _ _ h => h)
      fun _ _ h => h.single) fun m => ?_
    refine Async.Triple.bind ((cache_triple hT user ip rfl m).conseq (fun _ h => h)
      (fun _ _ h => h) fun _ _ h => h.elim) fun _ => Async.Triple.pure fun _ h => h
  unfold loginSection
  refine Async.Triple.bind (invalidate_triple.conseq (fun _ h => h) (fun _ _ h => h)
    fun _ _ h => h.elim) fun _ => ?_
  refine Async.Triple.bind ((blacklist_triple hT hu).conseq (fun _ h => h) (fun _ _ h => h)
    fun _ _ h => h.elim) fun _ => ?_
  refine Async.Triple.bind ((clear_triple hu).conseq (fun _ h => h) (fun _ _ h => h)
    fun _ _ h => h.single) fun _ => ?_
  refine Async.Triple.bind ((message_triple _).conseq (fun _ h => h) (fun _ _ h => h)
    fun _ _ h => h.elim) fun _ => ?_
  refine Async.Triple.ite (fun _ => fun _ h => h.single) fun _ => ?_
  refine Async.Triple.ite (fun _ => ?_) fun _ => hgenerate
  exact Async.Triple.bind ((device_triple user ip d ua rfl).conseq (fun _ h => h)
    (fun _ _ h => h) fun _ _ h => h.single) fun _ => hgenerate

theorem guarantees_remainder (user : UserInfo) (ip : String) (hid : user.id = u) (m : Minted) :
    Async.Guarantees (Trail u) (fun a => m.response none = a)
      (loginRemainder env user ip m) := by
  subst hid
  refine Async.Guarantees.bind (V := fun _ => True) ?_ fun _ _ => rfl
  refine Async.Guarantees.await (fun w => ⟨Nat.le_refl _, rfl, fun k hk => ?_⟩)
    fun _ _ _ _ => trivial
  refine Store.lookup_put_ne _ _ ?_
  rintro rfl
  exact hk (hasPrefix_refreshKey _ _ _)

theorem elapses_trail (w w' : World) (h : Elapses (fun _ => True) w w') : Trail u w w' := by
  obtain ⟨t, rfl, hle, -⟩ := h
  exact ⟨hle, rfl, fun _ _ => rfl⟩

end Phases

/-- Some request with the unexpired token passes `validate` under `root`. -/
def Accepted (env : Env) (exp : String → Nat) (u : String) (w : World) (T : String) : Prop :=
  w.now / 1000 < exp T ∧ ∃ req payload, Carries req T rootLoginClientCacheValue ∧
    payload.id = some u ∧ (returned ((validate env req payload).run w)).isSome = true

theorem not_accepted_of_dead {env : Env} {exp : String → Nat} {u T : String} {w : World}
    (hu : u ≠ "") (hT : T ≠ "") (h : Dead exp u T w) : ¬ Accepted env exp u w T := by
  rintro ⟨hlive, req, payload, hc, hid, hret⟩
  obtain ⟨v, hv, hfind⟩ := h.found hlive
  have hb : Blacklisted w (req.tenantId.getD "undefined") payload.userId T := by
    rw [hc.tenant, userId_eq hid hu]
    unfold Blacklisted
    rw [hfind]
    exact hv
  rw [run_validate_blacklisted hc.token hc.access hT hb] at hret
  cases hret

/-- Logins of one user whose sections exclude each other, in any other order of their
awaits: whenever no section is open, so in particular when all calls have finished,
at most one row is valid and at most one returned token is accepted. -/
theorem single_session (env : Env) (exp : String → Nat) (u : String) {ι : Type} [DecidableEq ι]
    (calls : ι → LoginCall) (w : World) (p : Pool World Exn Minted LoginResponse ι)
    (hT : TokenLifetimes env exp) (hplain : Glob.Plain u) (hu : u ≠ "")
    (hcalls : ∀ i, (calls i).user.id = u) (hrows : (validRows w u).length ≤ 1)
    (hrun : Pool.Runs (fun i => (calls i).call env) (Elapses fun _ => True) Pool.Free
      (Pool.start w) p) (hfree : p.Free) :
    (validRows p.state u).length ≤ 1 ∧ ∀ i j a b, (p.threads i).returned = some a →
      (p.threads j).returned = some b → Accepted env exp u p.state a.accessToken →
      Accepted env exp u p.state b.accessToken → a.accessToken = b.accessToken := by
  have hstart : Single env exp u ∅ w :=
    ⟨hrows, fun _ hm => hm.elim, fun _ hm => hm.elim, fun _ hm => hm.elim⟩
  obtain ⟨S, hS, hout⟩ := Pool.runs_free (I := Single env exp u) (f := fun m => m.response none)
    Trail.refl (fun _ _ _ => Trail.trans) elapses_trail (fun _ => Single.stable)
    (fun i _ => section_triple hT hplain _ _ _ _ (hcalls i))
    (fun i m => guarantees_remainder _ _ (hcalls i) m) hstart hrun hfree
  refine ⟨hS.rows, fun i j a b ha hb hacca haccb => ?_⟩
  obtain ⟨m, hm, rfl⟩ := hout i a ha
  obtain ⟨m', hm', rfl⟩ := hout j b hb
  rcases hS.one m hm m' hm' with he | hd | hd
  · exact he
  · exact absurd hacca (not_accepted_of_dead hu (hS.known m hm).ne hd)
  · exact absurd haccb (not_accepted_of_dead hu (hS.known m' hm').ne hd)

/-- The expiry of a token of the sample signer, read from the digits at its end. -/
def sampleExpiry (T : String) : Nat :=
  Nat.ofDigitChars 10 (Text.lastPiece '-' T.toList) 0 + Env.sample.accessTokenExpire

theorem notMem_digits {c : Char} (hc : c.isDigit = false) (n : Nat) :
    c ∉ Nat.toDigits 10 n := by
  intro hm
  rw [Nat.isDigit_of_mem_toDigits (by decide) (by decide) hm] at hc
  cases hc

theorem sampleExpiry_of_toList {T : String} {l : List Char} {iat : Nat}
    (h : T.toList = l ++ '-' :: Nat.toDigits 10 iat) :
    sampleExpiry T = iat + Env.sample.accessTokenExpire := by
  unfold sampleExpiry
  rw [h, Text.lastPiece_append, Text.lastPiece_of_notMem (notMem_digits (by decide) iat),
    Nat.ofDigitChars_ten_toDigits]

theorem toList_withoutColons (a : String) (iat : Nat) :
    (withoutColons (a ++ "-" ++ toString iat)).toList =
      a.toList.filter (· ≠ ':') ++ '-' :: Nat.toDigits 10 iat := by
  have hdigits : (toString iat).toList = Nat.toDigits 10 iat := by
    rw [Nat.toString_eq_ofList_toDigits, String.toList_ofList]
  have hkeep : (Nat.toDigits 10 iat).filter (· ≠ ':') = Nat.toDigits 10 iat := by
    rw [List.filter_eq_self]
    intro c hc
    simp only [decide_eq_true_eq]
    rintro rfl
    exact notMem_digits (by decide) iat hc
  unfold withoutColons
  rw [String.toList_ofList, String.toList_append, String.toList_append, hdigits,
    List.filter_append, List.filter_append, hkeep, List.append_assoc]
  rfl

theorem withoutColons_ne (a : String) (iat : Nat) :
    withoutColons (a ++ "-" ++ toString iat) ≠ "" := by
  intro h
  have hl := congrArg String.toList h
  rw [toList_withoutColons] at hl
  exact List.append_ne_nil_of_right_ne_nil _ (List.cons_ne_nil _ _) hl

/-- The sample signer writes the issue time at the end of its tokens. -/
theorem sample_lifetimes : TokenLifetimes Env.sample sampleExpiry where
  noColon _ _ := noColon_withoutColons _
  ne claims iat := by cases claims <;> exact withoutColons_ne _ iat
  expires claims iat := by
    cases claims <;> exact sampleExpiry_of_toList (toList_withoutColons _ iat)
  access := by decide
  blacklist := by decide

/-- Two logins of one user from one address. -/
def twoLogins (_ : Bool) : LoginCall := { user := User.info User.sample, ip := "::1" }

def twoCalls (i : Bool) : Call World Exn Minted LoginResponse := (twoLogins i).call Env.sample

/-- The second login starts when the first has only its refresh key to write. -/
def staggered : Pool World Exn Minted LoginResponse Bool :=
  Pool.schedule twoCalls Pool.Free
    (List.replicate 11 false ++ List.replicate 8 true ++ [false] ++ List.replicate 8 true)
    (Pool.start World.sample)

theorem single_session_staggered :
    (validRows staggered.state User.sample.id).length ≤ 1 ∧ ∀ i j a b,
      (staggered.threads i).returned = some a → (staggered.threads j).returned = some b →
      Accepted Env.sample sampleExpiry User.sample.id staggered.state a.accessToken →
      Accepted Env.sample sampleExpiry User.sample.id staggered.state b.accessToken →
      a.accessToken = b.accessToken :=
  single_session Env.sample sampleExpiry User.sample.id twoLogins World.sample staggered
    sample_lifetimes (by decide) (by decide) (fun _ => rfl) (by decide)
    (Pool.schedule_runs _ _ _ _ _) (by decide +kernel)

/-- One login stops before it creates its row; the other one runs to its end. A second
later the first goes on. -/
def paused : Pool World Exn Minted LoginResponse Bool :=
  Pool.schedule twoCalls (fun _ => True) (List.replicate 9 true ++ List.replicate 12 false)
    (Pool.start World.sample)

def overlapped : Pool World Exn Minted LoginResponse Bool :=
  Pool.schedule twoCalls (fun _ => True) (List.replicate 3 true)
    { paused with state := { paused.state with now := 2000 } }

theorem runs_overlapped :
    Pool.Runs twoCalls (Elapses fun _ => True) (fun _ => True) (Pool.start World.sample)
      overlapped := by
  have hpaused : Pool.Runs twoCalls (Elapses fun _ => True) (fun _ => True)
      (Pool.start World.sample) paused := Pool.schedule_runs _ _ _ _ _
  have hnow : paused.state.now ≤ 2000 := by decide +kernel
  exact (hpaused.tail (.env ⟨2000, rfl, hnow, fun _ => trivial⟩)).trans
    (Pool.schedule_runs _ _ _ _ _)

/-- The token that each of the two logins returned. -/
def overlappedToken : Bool → String
  | false => "jwt-01JS447X6N835NZ80HCMEAKDDQ-1"
  | true => "jwt-01JS447X6N835NZ80HCMEAKDDQ-2"

theorem overlapped_facts :
    (∀ i, (overlapped.threads i).finished = true) ∧
    (validRows overlapped.state User.sample.id).length = 2 ∧
    (∀ i, (overlapped.threads i).returned.map LoginResponse.accessToken =
      some (overlappedToken i)) ∧
    ∀ i, overlapped.state.now / 1000 < sampleExpiry (overlappedToken i) ∧
      (returned ((validate Env.sample (bearerRequest (overlappedToken i) "root" "::1")
        ⟨some User.sample.id, none⟩).run overlapped.state)).isSome = true := by
  decide +kernel

theorem overlapped_accepted (i : Bool) : Accepted Env.sample sampleExpiry User.sample.id
    overlapped.state (overlappedToken i) := by
  obtain ⟨hlive, hvalid⟩ := overlapped_facts.2.2.2 i
  refine ⟨hlive, bearerRequest (overlappedToken i) "root" "::1", ⟨some User.sample.id, none⟩,
    ?_, rfl, hvalid⟩
  cases i <;> exact ⟨by decide, by decide, rfl⟩

/-- Both logins have finished, with two valid rows and two tokens that are accepted. -/
theorem overlapping_logins_both_live :
    Pool.Runs twoCalls (Elapses fun _ => True) (fun _ => True) (Pool.start World.sample) overlapped ∧
    (∀ i, (overlapped.threads i).finished = true) ∧
    (validRows overlapped.state User.sample.id).length = 2 ∧
    ∃ a b, (overlapped.threads false).returned = some a ∧
      (overlapped.threads true).returned = some b ∧ a.accessToken ≠ b.accessToken ∧
      Accepted Env.sample sampleExpiry User.sample.id overlapped.state a.accessToken ∧
      Accepted Env.sample sampleExpiry User.sample.id overlapped.state b.accessToken := by
  obtain ⟨hdone, hrows, htokens, -⟩ := overlapped_facts
  obtain ⟨a, ha, hatoken⟩ := Option.map_eq_some_iff.mp (htokens false)
  obtain ⟨b, hb, hbtoken⟩ := Option.map_eq_some_iff.mp (htokens true)
  refine ⟨runs_overlapped, hdone, hrows, a, b, ha, hb, ?_, ?_, ?_⟩
  · rw [hatoken, hbtoken]
    decide
  · rw [hatoken]
    exact overlapped_accepted false
  · rw [hbtoken]
    exact overlapped_accepted true

end SingleSession

end NestUserService.Auth
