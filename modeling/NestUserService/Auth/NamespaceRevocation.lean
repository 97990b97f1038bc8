import NestUserService.Auth.CoveredTokens
import NestUserService.Auth.SpentTokens

/-!
# Superseded tokens within one namespace

Logins into one namespace, refreshes and `validate` calls that name it run one after
the other. Any of them may stop at any await. Once a later call for the user has
returned, a token that was returned before is on the blacklist of the namespace until
it expires.
-/

namespace NestUserService.Auth.NamespaceRevocation

open Lib NestUserService.Core Shared
open SingleSession (TokenLifetimes Lasting Known lasting_put known_sign)

section Calls

variable {env : Env} {exp : String → Nat} {ns u : String} {K : Set String} {P : World → Prop}
  {α : Type}

/-- The token has been returned, and all earlier ones are dead. -/
def Renewed (env : Env) (exp : String → Nat) (ns u : String) (K : Set String) (T : String)
    (w : World) : Prop :=
  Live env exp ns u (insert T K) w ∧ AllDead exp ns u K w

theorem upheld_renewed (T : String) :
    Upheld env exp ns u (insert T K) (Renewed env exp ns u K T) :=
  ⟨fun _ h => h.1, fun w w' h hk => ⟨upheld_live.keeps w w' h.1 hk,
    fun T' hT' => hk.dead T' (Set.mem_insert_of_mem T hT') (h.2 T' hT')⟩⟩

theorem upheld_dead : Upheld env exp ns u K fun w =>
    Live env exp ns u K w ∧ AllDead exp ns u K w :=
  upheld_live.and_dead

theorem Upheld.idle (hP : Upheld env exp ns u K P) {x : App α} {Q : α → World → Prop} {w : World}
    (hx : Async.Moves (Elapses fun _ => True) Idle Q x w) (hw : P w) :
    Async.Moves (Elapses fun _ => True) (Keeps exp ns u K) (fun a v => Q a v ∧ P v) x w :=
  hx.keep hP.stable (fun v v' hv hi => ⟨keeps_of_idle v v' hi,
    hP.keeps v v' hv (keeps_of_idle v v' hi)⟩) hw

/-- The write of the access key. -/
theorem moves_renew (hT : TokenLifetimes env exp) (hid : NoColon u) {T : String}
    (p : TokenCachePayload) {w : World} (hw : Live env exp ns u K w ∧ AllDead exp ns u K w)
    (hknown : Known env exp w.now T) :
    Async.Moves (Elapses fun _ => True) (Keeps exp ns u K)
      (fun _ => Renewed env exp ns u K T) (setUserAccessTokenCache env ns u T (.payload p)) w := by
  have hP : Upheld env exp ns u K fun w => (Live env exp ns u K w ∧ AllDead exp ns u K w) ∧
      Known env exp w.now T := upheld_dead.and fun _ _ hle hk => hk.mono hle
  refine Async.Moves.await hP.stable ⟨hw, hknown⟩ fun v hv => ?_
  obtain ⟨⟨hlive, hdead⟩, hk⟩ := hv
  have hput : SafePut env ns (accessKey ns u T) (.payload p) env.accessTokenCacheExpiresIn :=
    ⟨.access, u, T, accessKey_eq ns u T, fun _ => ⟨rfl, hT.access⟩⟩
  have hkeeps : Keeps exp ns u K v { v with
      redis := v.redis.put (accessKey ns u T)
        (Entry.stamp (.payload p) v.now env.accessTokenCacheExpiresIn) } :=
    keeps_put hid hlive hput rfl rfl
  refine ⟨hkeeps, fun _ v' he => ?_⟩
  cases he
  have hdead' (T' : String) (hT' : T' ∈ K) := hkeeps.dead T' hT' (hdead T' hT')
  refine ⟨⟨fun T' hT' => ?_, fun T' hT' => ?_⟩, hdead'⟩
  · rcases Set.mem_insert_iff.mp hT' with rfl | hT'
    · exact hk
    · exact hlive.known T' hT'
  · rcases Set.mem_insert_iff.mp hT' with rfl | hT'
    · exact Or.inr (lasting_put rfl (hk.lasts hT.access))
    · exact Or.inl (hdead' T' hT')

/-- The end of a login of the user itself. -/
theorem moves_storeSession_self (hT : TokenLifetimes env exp) {user : UserInfo}
    (hid : NoColon user.id) (ip : String) {create : App Minted} (hcreate : Mints env exp create)
    {w : World} (hw : Live env exp ns user.id K w ∧ AllDead exp ns user.id K w) :
    Async.Moves (Elapses fun _ => True) (Keeps exp ns user.id K)
      (fun r => Renewed env exp ns user.id K r.accessToken)
      (storeSession env ns user ip create) w := by
  refine (upheld_dead.idle (hcreate w) hw).bind fun m v hv => ?_
  refine Async.Moves.bind (Q := fun _ => Renewed env exp ns user.id K m.accessToken) ?_
    fun _ v hv => Async.Moves.pure hv
  refine (moves_renew hT hid _ hv.2 hv.1).bind fun _ v hv => ?_
  have hrefresh := (upheld_renewed m.accessToken).moves hid
    (safely_setRefresh (D := NoDel) env ns user.id m.refreshToken
      (m.payload user ip)) (fun _ _ _ _ h => h.elim) hv
  refine (hrefresh.weaken fun s t h => h.subset (Set.subset_insert _ _)).bind fun _ v hv => ?_
  exact Async.Moves.pure hv

/-- The end of a login of another user. -/
theorem moves_storeSession_other (hT : TokenLifetimes env exp) (hid : NoColon u)
    (user : UserInfo) (ip : String) {create : App Minted} (hcreate : Mints env exp create)
    {w : World} (hw : Live env exp ns u K w) :
    Async.Moves (Elapses fun _ => True) (Keeps exp ns u K) (fun _ => Live env exp ns u K)
      (storeSession env ns user ip create) w := by
  refine (upheld_live.idle (hcreate w) hw).bind fun m v hv => ?_
  refine (upheld_live.moves hid (safely_setAll (D := NoDel) hT user.id m.accessToken
    m.refreshToken _) (fun _ _ _ _ h => h.elim) hv.2).bind fun _ v hv => Async.Moves.pure hv

theorem moves_gatedLogin (hP : Upheld env exp ns u K P) {message : String} {user : UserInfo}
    {d : Option String} {device : App String} {generate : App LoginResponse}
    {Q : LoginResponse → World → Prop}
    (hdevice : Async.Guarantees Idle (fun _ => True) device)
    (hgen : ∀ v, P v → Async.Moves (Elapses fun _ => True) (Keeps exp ns u K) Q generate v)
    {w : World} (hw : P w) :
    Async.Moves (Elapses fun _ => True) (Keeps exp ns u K) Q
      (gatedLogin message user d device generate) w := by
  have hmessage : Async.Guarantees Idle (fun _ => True) (Async.await (sendMessage message)) :=
    (quiet_sendMessage message).guarantees idle_of_sameTokens
  refine (hP.idle (hmessage.moves w) hw).bind fun _ v hv => ?_
  refine Async.Moves.ite (fun _ => Async.Moves.throw _ _) fun _ => ?_
  refine Async.Moves.ite (fun _ => ?_) fun _ => hgen v hv.2
  exact (hP.idle (hdevice.moves v) hv.2).bind fun _ v hv => hgen v hv.2

/-- What a returned token means for the user `u`. -/
def Returned (env : Env) (exp : String → Nat) (ns u : String) (K : Set String) (id T : String)
    (w : World) : Prop :=
  Live env exp ns u K w ∧ (id = u → Renewed env exp ns u K T w)

/-- Both logins: the previous sessions of the user are ended, and a session is stored. -/
theorem moves_login (hT : TokenLifetimes env exp) (hns : Glob.Plain ns) (hid : NoColon u)
    {user : UserInfo} (hplain : Glob.Plain user.id) (ip message : String) (d : Option String)
    {first : App Unit} {device : App String} {create : App Minted}
    (hfirst : Async.Guarantees Idle (fun _ => True) first)
    (hdevice : Async.Guarantees Idle (fun _ => True) device) (hcreate : Mints env exp create)
    {w : World} (hw : Live env exp ns u K w) :
    Async.Moves (Elapses fun _ => True) (Keeps exp ns u K)
      (fun r => Returned env exp ns u K user.id r.accessToken)
      (do
        first
        setUserAccessTokenBlacklistCache env ns user.id
        clearUserAllTokenCaches env ns user.id
        gatedLogin message user d device (storeSession env ns user ip create)) w := by
  have hclear : WritesSafely env ns (ClearDel ns user.id) (clearUserAllTokenCaches env ns user.id) :=
    steps_clear env ns user.id fun _ h => h
  refine (upheld_live.idle (hfirst.moves w) hw).bind fun _ v hv => ?_
  by_cases hu : user.id = u
  · subst hu
    refine (moves_blacklist hT hns hplain hid upheld_live hv.2).bind fun _ v hv => ?_
    refine (upheld_dead.moves hid hclear (fun w w' k h hk hnow hredis =>
      keeps_del_self hns hplain h.2 hk hnow hredis) hv).bind fun _ v hv => ?_
    refine moves_gatedLogin upheld_dead hdevice (fun v hv => ?_) hv
    refine (moves_storeSession_self hT hid ip hcreate hv).mono fun r v hr => ⟨?_, fun _ => hr⟩
    exact ⟨fun T hT' => hr.1.known T (Set.mem_insert_of_mem _ hT'),
      fun T hT' => hr.1.covered T (Set.mem_insert_of_mem _ hT')⟩
  · refine (upheld_live.moves hid (safely_blacklist (D := NoDel) hT user.id)
      (fun _ _ _ _ h => h.elim) hv.2).bind fun _ v hv => ?_
    refine (upheld_live.moves hid hclear (fun w w' k h hk hnow hredis =>
      keeps_del_other hns hid h hplain hu hk hnow hredis) hv).bind fun _ v hv => ?_
    refine moves_gatedLogin upheld_live hdevice (fun v hv => ?_) hv
    exact (moves_storeSession_other hT hid user ip hcreate hv).mono fun _ v hr =>
      ⟨hr, fun he => absurd he hu⟩

theorem moves_newAccessToken (hT : TokenLifetimes env exp) (hns : Glob.Plain ns)
    (hu : Glob.Plain u) (hid : NoColon u) (user : UserInfo) (ip : String) {w : World}
    (hw : Live env exp ns u K w) :
    Async.Moves (Elapses fun _ => True) (Keeps exp ns u K)
      (fun T => Returned env exp ns u K user.id T) (newAccessToken env ns user ip) w := by
  unfold newAccessToken
  refine Async.Moves.bind (Q := fun pT v => Live env exp ns u K v ∧ Known env exp v.now pT.2)
    (Async.Moves.await upheld_live.stable hw fun v hv => ⟨Keeps.refl v, fun pT v' he => ?_⟩)
    fun pT v hv => ?_
  · cases he
    exact ⟨hv, known_sign hT _ v.now⟩
  · obtain ⟨p, T⟩ := pT
    obtain ⟨hlive, hknown⟩ := hv
    have hP : Upheld env exp ns u K fun w => Live env exp ns u K w ∧ Known env exp w.now T :=
      upheld_live.and fun _ _ hle hk => hk.mono hle
    by_cases hself : user.id = u
    · rw [hself]
      refine (moves_blacklist hT hns hu hid hP ⟨hlive, hknown⟩).bind fun _ v hv => ?_
      obtain ⟨⟨hlive, hknown⟩, hdead⟩ := hv
      refine (moves_renew hT hid p ⟨hlive, hdead⟩ hknown).bind fun _ v hr => ?_
      refine Async.Moves.pure ⟨?_, fun _ => hr⟩
      exact ⟨fun T hT' => hr.1.known T (Set.mem_insert_of_mem _ hT'),
        fun T hT' => hr.1.covered T (Set.mem_insert_of_mem _ hT')⟩
    · refine (upheld_live.moves hid (safely_blacklist (D := NoDel) hT user.id)
        (fun _ _ _ _ h => h.elim) hlive).bind fun _ v hv => ?_
      refine (upheld_live.moves hid (safely_setAccess (D := NoDel) hT user.id T p)
        (fun _ _ _ _ h => h.elim) hv).bind fun _ v hr => ?_
      exact Async.Moves.pure ⟨hr, fun he => absurd he hself⟩

theorem safely_validate (hT : TokenLifetimes env exp) {req : Request} (payload : JwtPayload)
    (hreq : req.tenantId.getD "undefined" = ns) :
    WritesSafely env ns NoDel (validate env req payload) := by
  subst hreq
  exact steps_validate_of env req payload (fun u t r p => safely_setAll hT u t r p)
    fun u t p => safely_setAccess hT u t p

end Calls

/-- One call of the namespace. -/
inductive Act (ns : String) where
  | login (h : ns = rootLoginClientCacheValue) (user : UserInfo) (ip : String)
      (deviceToken userAgent : Option String)
  | tenantLogin (user : UserInfo) (ip : String) (deviceToken userAgent : Option String)
  | refresh (userId : String) (refreshToken : Arg) (ip : String)
  | validate (req : Request) (h : req.tenantId.getD "undefined" = ns) (payload : JwtPayload)

namespace Act

variable {ns : String}

/-- The call, with the user and the access token that it returns. -/
def program (env : Env) : Act ns → App (Option (String × String))
  | login _ user ip d ua => do
    let response ← Auth.login env user ip d ua
    return some (user.id, response.accessToken)
  | tenantLogin user ip d ua => do
    let response ← Auth.tenantLogin env ns user ip d ua
    return some (user.id, response.accessToken)
  | refresh userId refreshToken ip => do
    let token ← updateRefreshAccessToken env { clientCode := ns, userId, refreshToken, ip }
    return some (userId, token)
  | validate req _ payload => do
    let _ ← Auth.validate env req payload
    return none

/-- The id of the user that logs in holds no glob characters. -/
def PlainUser : Act ns → Prop
  | login _ user _ _ _ => Glob.Plain user.id
  | tenantLogin user _ _ _ => Glob.Plain user.id
  | _ => True

end Act

/-- A sequential run, with the tokens that were returned so far, the latest first. A call
may stop at any await, and time passes at any await and between the calls. -/
inductive Session (env : Env) (ns : String) (w₀ : World) : List (String × String) → World → Prop
  | start : Session env ns w₀ [] w₀
  | call {history : List (String × String)} {w w' : World} (h : Session env ns w₀ history w)
      (act : Act ns) (hplain : act.PlainUser) {result : Option (Option (String × String))}
      (hends : Async.Ends (Elapses fun _ => True) (act.program env) w result w') :
      Session env ns w₀ (result.join.toList ++ history) w'
  | elapse {history : List (String × String)} {w w' : World} (h : Session env ns w₀ history w)
      (htime : Elapses (fun _ => True) w w') : Session env ns w₀ history w'

section Session

variable {env : Env} {exp : String → Nat} {ns u : String} {K : Set String}

theorem moves_act (hT : TokenLifetimes env exp) (hns : Glob.Plain ns) (hu : Glob.Plain u)
    (hid : NoColon u) (act : Act ns) (hplain : act.PlainUser) {w : World}
    (hw : Live env exp ns u K w) :
    Async.Moves (Elapses fun _ => True) (Keeps exp ns u K)
      (fun result v => ∀ id T, result = some (id, T) → Returned env exp ns u K id T v)
      (act.program env) w := by
  have hreturn (id T : String) {v : World} (hr : Returned env exp ns u K id T v) (id' T' : String)
      (he : some (id, T) = some (id', T')) : Returned env exp ns u K id' T' v := by
    cases he
    exact hr
  cases act with
  | login hroot user ip d ua =>
    have huser : Glob.Plain user.id := hplain
    change Async.Moves _ _ _ (Auth.login env user ip d ua >>= fun r =>
      pure (some (user.id, r.accessToken))) w
    clear hplain
    subst hroot
    have hlogin := moves_login hT plain_root hid (K := K) huser ip (loginText user.id ip) d
      (idle_of_steps (steps_invalidate (u := user.id) fun _ _ => trivial))
      (idle_device env user.id d ip ua) (mints_root hT user ip) hw
    exact Async.Moves.bind hlogin fun r v hr => Async.Moves.pure (hreturn user.id r.accessToken hr)
  | tenantLogin user ip d ua =>
    have hlogin := moves_login hT hns hid (K := K) hplain ip (tenantLoginText ns user.id ip) d
      (idle_of_steps (steps_tenantInvalidate (c := ns) (u := user.id) fun _ _ => trivial))
      (idle_tenantDevice env user.id (d.getD "") (some ip) ua none)
      (mints_tenant hT ns user ip) hw
    rw [← tenantGenerateTokens_store] at hlogin
    exact Async.Moves.bind hlogin fun r v hr => Async.Moves.pure (hreturn user.id r.accessToken hr)
  | refresh userId refreshToken ip =>
    let cmd : UpdateRefreshAccessTokenCommand := { clientCode := ns, userId, refreshToken, ip }
    refine Async.Moves.bind (Q := fun T => Returned env exp ns u K userId T) ?_
      fun T v hr => Async.Moves.pure (hreturn userId T hr)
    rw [refresh_cut]
    refine (upheld_live.idle ((guarantees_subject env cmd).moves w) hw).bind fun user v hv => ?_
    refine (moves_newAccessToken hT hns hu hid user ip hv.2).mono fun T v hr => ?_
    rwa [show userId = user.id from hv.1.symm]
  | validate req hreq payload =>
    refine (upheld_live.moves hid (safely_validate hT payload hreq) (fun _ _ _ _ h => h.elim)
      hw).bind fun _ v _ => Async.Moves.pure fun id T he => ?_
    cases he

/-- The tokens that were returned for a user. -/
def tokensOf (history : List (String × String)) (u : String) : Set String :=
  {T | (u, T) ∈ history}

/-- Every token that was returned is covered, and all but the latest one are dead. -/
structure Superseded (env : Env) (exp : String → Nat) (ns u : String)
    (history : List (String × String)) (w : World) : Prop where
  live : Live env exp ns u (tokensOf history u) w
  dead : ∀ T ∈ tokensOf history u, history.lookup u ≠ some T → Dead exp ns u T w

theorem Superseded.keeps {history : List (String × String)} {w w' : World}
    (h : Superseded env exp ns u history w) (hk : Keeps exp ns u (tokensOf history u) w w') :
    Superseded env exp ns u history w' :=
  ⟨upheld_live.keeps w w' h.live hk, fun T hT hl => hk.dead T hT (h.dead T hT hl)⟩

/-- A token that is returned supersedes the earlier ones of its user. -/
theorem Superseded.returned {history : List (String × String)} {id T : String} {w : World}
    (h : Superseded env exp ns u history w)
    (hr : Returned env exp ns u (tokensOf history u) id T w) :
    Superseded env exp ns u ((id, T) :: history) w := by
  by_cases hid : id = u
  · subst hid
    obtain ⟨hlive, hdead⟩ := hr.2 rfl
    have htokens : tokensOf ((id, T) :: history) id = insert T (tokensOf history id) := by
      ext T'
      simp [tokensOf]
    refine ⟨by rwa [htokens], fun T' hT' hl => hdead T' ?_⟩
    rw [htokens] at hT'
    refine (Set.mem_insert_iff.mp hT').resolve_left ?_
    rintro rfl
    simp at hl
  · have hne : (u == id) = false := beq_eq_false_iff_ne.mpr (Ne.symm hid)
    have htokens : tokensOf ((id, T) :: history) u = tokensOf history u := by
      ext T'
      simp [tokensOf, Ne.symm hid]
    refine ⟨by rw [htokens]; exact h.live, fun T' hT' hl => ?_⟩
    rw [htokens] at hT'
    rw [List.lookup_cons, hne] at hl
    exact h.dead T' hT' hl

theorem Session.superseded (hT : TokenLifetimes env exp) (hns : Glob.Plain ns) (hu : Glob.Plain u)
    (hid : NoColon u) {w₀ w : World} {history : List (String × String)}
    (h : Session env ns w₀ history w) : Superseded env exp ns u history w := by
  induction h with
  | start =>
    refine ⟨⟨fun T hT => ?_, fun T hT => ?_⟩, fun T hT _ => ?_⟩ <;> cases hT
  | @call history w w' h act hplain result hends ih =>
    obtain ⟨hkeeps, hret⟩ := (moves_act hT hns hu hid act hplain ih.live).ends Keeps.refl Keeps.trans
      keeps_of_elapses hends
    have hkept := ih.keeps hkeeps
    cases result with
    | none => exact hkept
    | some result =>
      cases result with
      | none => exact hkept
      | some pair => exact hkept.returned (hret _ rfl pair.1 pair.2 rfl)
  | elapse h htime ih => exact ih.keeps (keeps_of_elapses _ _ htime)

end Session

/-- A token that was returned, is not expired and is not the latest one of its user is
refused. -/
theorem superseded_rejected (env : Env) (exp : String → Nat) (hT : TokenLifetimes env exp)
    {ns u : String} (hns : Glob.Plain ns) (hu : Glob.Plain u) (hid : NoColon u) {w₀ w : World}
    {history : List (String × String)} (h : Session env ns w₀ history w) {T : String}
    (hreturned : (u, T) ∈ history) (hlatest : history.lookup u ≠ some T)
    (hlive : w.now / 1000 < exp T) {req : Request} {payload : JwtPayload}
    (hreq : Carries req T ns) (huser : payload.userId = u) :
    (validate env req payload).run w = .error accessTokenRevoked w := by
  have hs := h.superseded hT hns hu hid
  have hne := (hs.live.known T hreturned).ne
  obtain ⟨v, hv, hfind⟩ := Lasting.found (hs.dead T hreturned hlatest) hlive
  refine run_validate_blacklisted hreq.token hreq.access hne ?_
  rw [hreq.tenant, huser]
  exact FreshTokens.blacklisted_iff.mpr ⟨v, hfind, hv⟩

def homeLogin : Act rootLoginClientCacheValue := .login rfl (User.info User.sample) "::1" none none

/-- A login from the given state, alone. -/
def loginFrom (w : World) : EStateM.Result Exn World (Option (String × String)) :=
  (homeLogin.program Env.sample).run w

/-- Five seconds after the first login. -/
def fiveSecondsLater : World := { finalState (loginFrom World.sample) with now := 6000 }

theorem two_logins_facts :
    returned (loginFrom World.sample) =
      some (some (User.sample.id, "jwt-01JS447X6N835NZ80HCMEAKDDQ-1")) ∧
    (finalState (loginFrom World.sample)).now ≤ 6000 ∧
    returned (loginFrom fiveSecondsLater) =
      some (some (User.sample.id, "jwt-01JS447X6N835NZ80HCMEAKDDQ-6")) ∧
    (finalState (loginFrom fiveSecondsLater)).now / 1000 <
      SingleSession.sampleExpiry "jwt-01JS447X6N835NZ80HCMEAKDDQ-1" := by
  decide +kernel

theorem session_two_logins : Session Env.sample rootLoginClientCacheValue World.sample
    [(User.sample.id, "jwt-01JS447X6N835NZ80HCMEAKDDQ-6"),
      (User.sample.id, "jwt-01JS447X6N835NZ80HCMEAKDDQ-1")]
    (finalState (loginFrom fiveSecondsLater)) := by
  obtain ⟨hfirst, hnow, hsecond, -⟩ := two_logins_facts
  have hplain : homeLogin.PlainUser := by
    change Glob.Plain User.sample.id
    decide
  have h₁ := Session.start.call homeLogin hplain
    (Async.Ends.of_run (elapses_refl fun _ => True) (ok_of_returned hfirst))
  have h₂ : Session Env.sample rootLoginClientCacheValue World.sample _ fiveSecondsLater :=
    h₁.elapse ⟨6000, rfl, hnow, fun _ => trivial⟩
  exact h₂.call homeLogin hplain
    (Async.Ends.of_run (elapses_refl fun _ => True) (ok_of_returned hsecond))

theorem first_login_rejected :
    (validate Env.sample (bearerRequest "jwt-01JS447X6N835NZ80HCMEAKDDQ-1" "root" "::1")
      ⟨some User.sample.id, none⟩).run (finalState (loginFrom fiveSecondsLater)) =
        .error accessTokenRevoked (finalState (loginFrom fiveSecondsLater)) :=
  superseded_rejected Env.sample SingleSession.sampleExpiry SingleSession.sample_lifetimes
    plain_root (by decide) (by decide) session_two_logins (by decide) (by decide)
    two_logins_facts.2.2.2 ⟨by decide, by decide, rfl⟩ rfl

end NestUserService.Auth.NamespaceRevocation
