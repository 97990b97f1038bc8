import Mathlib.Data.Set.Image
import NestUserService.Lib.Registry
import NestUserService.Auth.RootSteps
import NestUserService.Auth.TwoFactorQr

/-!
# The sessions of the root database

Calls that run one after the other treat the refresh tokens as a registry: a user has at
most one session, a session has the address and the expiry of its token, and the name of a
token is used once.
-/

namespace NestUserService.Auth.SessionRegistry

open Lib NestUserService.Core Shared

/-- What a refresh token is good for. -/
structure Grant where
  ip : Option String
  expiresAt : Nat

abbrev Sessions := Registry String String Grant

/-- A user signs in: the old session ends, and a new one begins unless the call fails. -/
inductive Grants (now : Nat) (u ip : String) (R : Sessions) : Option String → Sessions → Prop
  | issued (n : String) (hn : n ∉ R.used) :
      Grants now u ip R (some n) (R.issue u n ⟨some ip, now + minutes refreshTokenMinutes⟩ hn)
  | refused : Grants now u ip R none (R.close u)

/-- A rotation: of an unknown token, of one that is misused, or of the current one. -/
inductive Rotates (now : Nat) (token ip : String) (R : Sessions) : Option String → Sessions → Prop
  | unknown (h : ∀ u g, R.current u ≠ some (token, g)) : Rotates now token ip R none R
  | misused {u : String} {g : Grant} (h : R.current u = some (token, g))
      (hbad : g.expiresAt < now ∨ g.ip ≠ some ip) : Rotates now token ip R none (R.close u)
  | rotated {u : String} {g : Grant} {reply : Option String} {R' : Sessions}
      (h : R.current u = some (token, g)) (hlive : now ≤ g.expiresAt) (hip : g.ip = some ip)
      (hnew : Grants now u ip R reply R') : Rotates now token ip R reply R'

/-- What a call does to the sessions, by its kind and the refresh token that it answers. -/
def SessionStep (now : Nat) (R : Sessions) (reply : Option String) (R' : Sessions) : Call → Prop
  | .service (.login user ip _ _) => Grants now user.id ip R reply R'
  | .service (.handleTokenTheft u _ _) => reply = none ∧ R' = R.close u
  | .service (.revokeRefreshToken token) => reply = none ∧
    ((∃ u g, R.current u = some (token, g) ∧ R' = R.close u) ∨
      (∀ u g, R.current u ≠ some (token, g)) ∧ R' = R)
  | .service (.refresh _ u _ _) => reply = none ∧ (R' = R ∨ R' = R.close u)
  | .service (.tenantLogin ..) => reply = none ∧ R' = R
  | .service (.validate _ _) => reply = none ∧ R' = R
  | .service (.elapse _) => reply = none ∧ R' = R
  | .loginUser cmd => (reply = none ∧ R' = R) ∨ ∃ u, Grants now u cmd.ip R reply R'
  | .googleSocialCreateOrLogin cmd => (reply = none ∧ R' = R) ∨ ∃ u, Grants now u cmd.ip R reply R'
  | .login2faTrustedDeviceReg cmd => (reply = none ∧ R' = R) ∨ ∃ u, Grants now u cmd.ip R reply R'
  | .refreshTokens _ token ip => Rotates now token ip R reply R'
  | .verifyTwoFactorOtp _ => reply = none ∧ R' = R
  | .verifyGenerateTwoFactorQr _ => reply = none ∧ R' = R
  | .generateTwoFactorQR _ _ => reply = none ∧ R' = R

/-- The refresh tokens of the root database. -/
def tokens (w : World) : Set RefreshToken := {r | r ∈ w.root.refreshToken.rows}

def grantOf (r : RefreshToken) : Grant := ⟨r.ip, r.expiresAt⟩

/-- The valid rows are the current sessions, and all rows hold the names that were used. -/
structure Represents (R : Sessions) (rows : Set RefreshToken) : Prop where
  current : ∀ u n g, R.current u = some (n, g) ↔
    ∃ r ∈ rows, r.isValid = true ∧ r.userId = u ∧ r.token = n ∧ grantOf r = g
  used : ∀ n, n ∈ R.used ↔ ∃ r ∈ rows, r.token = n

section Rows

variable {R : Sessions} {rows : Set RefreshToken} {u : String}

/-- Ending the rows that `p` selects. -/
def ending (p : RefreshToken → Bool) (r : RefreshToken) : RefreshToken :=
  if p r then { r with isValid := false } else r

theorem mem_updateMany_invalidated {t : Table RefreshToken} {p : RefreshToken → Bool} :
    {r | r ∈ (t.updateMany p invalidated).rows} = Set.image (ending p) {r | r ∈ t.rows} := by
  ext r
  exact Table.mem_updateMany

theorem ending_token (p : RefreshToken → Bool) (r : RefreshToken) :
    (ending p r).token = r.token := by
  unfold ending
  split <;> rfl

theorem ending_valid {p : RefreshToken → Bool} {r : RefreshToken} :
    (ending p r).isValid = true ↔ r.isValid = true ∧ p r = false := by
  unfold ending
  cases hp : p r <;> simp

theorem ending_of_not {p : RefreshToken → Bool} {r : RefreshToken} (h : p r = false) :
    ending p r = r := by
  simp [ending, h]

theorem used_ending (h : Represents R rows) (p : RefreshToken → Bool) (n : String) :
    n ∈ R.used ↔ ∃ r ∈ Set.image (ending p) rows, r.token = n := by
  rw [h.used]
  constructor
  · rintro ⟨r, hr, rfl⟩
    exact ⟨ending p r, ⟨r, hr, rfl⟩, ending_token p r⟩
  · rintro ⟨_, ⟨r, hr, rfl⟩, hn⟩
    exact ⟨r, hr, (ending_token p r).symm.trans hn⟩

/-- To end the valid rows of a user is to close the session of the user. -/
theorem represents_close (h : Represents R rows) {p : RefreshToken → Bool}
    (hp : ∀ r ∈ rows, r.isValid = true → (p r = true ↔ r.userId = u)) :
    Represents (R.close u) (Set.image (ending p) rows) := by
  refine ⟨fun v n g => ?_, used_ending h p⟩
  rw [Registry.close_current]
  constructor
  · intro hv
    split at hv
    · cases hv
    · rename_i hne
      obtain ⟨r, hr, hvalid, rfl, rfl, rfl⟩ := (h.current v n g).mp hv
      have hno : p r = false := Bool.eq_false_iff.mpr fun hpr => hne ((hp r hr hvalid).mp hpr)
      exact ⟨r, ⟨r, hr, ending_of_not hno⟩, hvalid, rfl, rfl, rfl⟩
  · rintro ⟨_, ⟨r, hr, rfl⟩, hvalid, hv, hn, hg⟩
    obtain ⟨hvalid, hno⟩ := ending_valid.mp hvalid
    rw [ending_of_not hno] at hv hn hg
    have hne : v ≠ u := by
      rintro rfl
      rw [(hp r hr hvalid).mpr hv] at hno
      cases hno
    rw [if_neg hne]
    exact (h.current v n g).mpr ⟨r, hr, hvalid, hv, hn, hg⟩

/-- To end rows that are not valid changes nothing. -/
theorem represents_keep (h : Represents R rows) {p : RefreshToken → Bool}
    (hp : ∀ r ∈ rows, r.isValid = true → p r = false) :
    Represents R (Set.image (ending p) rows) := by
  refine ⟨fun v n g => ?_, used_ending h p⟩
  rw [h.current]
  constructor
  · rintro ⟨r, hr, hvalid, hrest⟩
    exact ⟨r, ⟨r, hr, ending_of_not (hp r hr hvalid)⟩, hvalid, hrest⟩
  · rintro ⟨_, ⟨r, hr, rfl⟩, hvalid, hrest⟩
    obtain ⟨hvalid, hno⟩ := ending_valid.mp hvalid
    rw [ending_of_not hno] at hrest
    exact ⟨r, hr, hvalid, hrest⟩

/-- A new row is a new session of a user without one. -/
theorem represents_issue (h : Represents (R.close u) rows) {row : RefreshToken}
    (hvalid : row.isValid = true) (hu : row.userId = u) (hnew : ∀ r ∈ rows, r.token ≠ row.token) :
    ∃ hn : row.token ∉ R.used,
      Represents (R.issue u row.token (grantOf row) hn) (insert row rows) := by
  have hn : row.token ∉ R.used := fun hused => by
    obtain ⟨r, hr, htoken⟩ := (h.used row.token).mp hused
    exact hnew r hr htoken
  refine ⟨hn, fun v n g => ?_, fun n => ?_⟩
  · have hold := h.current v n g
    rw [Registry.close_current] at hold
    rw [Registry.issue_current]
    by_cases hv : v = u
    · subst hv
      rw [if_pos rfl] at hold ⊢
      rw [Option.some.injEq, Prod.mk.injEq]
      constructor
      · rintro ⟨hrow, hg⟩
        exact ⟨row, Or.inl rfl, hvalid, hu, hrow, hg⟩
      · rintro ⟨r, rfl | hr, hrest⟩
        · exact hrest.2.2
        · cases hold.mpr ⟨r, hr, hrest⟩
    · rw [if_neg hv] at hold ⊢
      rw [hold]
      constructor
      · rintro ⟨r, hr, hrest⟩
        exact ⟨r, Or.inr hr, hrest⟩
      · rintro ⟨r, rfl | hr, hrvalid, hru, hrest⟩
        · exact absurd (hru.symm.trans hu) hv
        · exact ⟨r, hr, hrvalid, hru, hrest⟩
  · show n ∈ insert row.token R.used ↔ _
    rw [Set.mem_insert_iff]
    have hold : n ∈ R.used ↔ ∃ r ∈ rows, r.token = n := h.used n
    rw [hold]
    constructor
    · rintro (rfl | ⟨r, hr, htoken⟩)
      · exact ⟨row, Or.inl rfl, rfl⟩
      · exact ⟨r, Or.inr hr, htoken⟩
    · rintro ⟨r, rfl | hr, htoken⟩
      · exact Or.inl htoken.symm
      · exact Or.inr ⟨r, hr, htoken⟩

theorem close_close : (R.close u).close u = R.close u := by
  ext1
  · funext v
    rw [Registry.close_current, Registry.close_current]
    split <;> rfl
  · rfl

end Rows

def endUser (u : String) : RefreshToken → RefreshToken :=
  ending fun r => r.userId == u && r.isValid

theorem tokens_invalidate (w : World) (u : String) :
    tokens { w with root := w.root.invalidateRefreshTokens u } = Set.image (endUser u) (tokens w) :=
  mem_updateMany_invalidated

theorem endUser_endUser (u : String) (r : RefreshToken) : endUser u (endUser u r) = endUser u r := by
  apply ending_of_not
  cases hp : r.userId == u && r.isValid with
  | true => simp [endUser, ending, hp]
  | false =>
    rw [endUser, ending_of_not hp]
    exact hp

theorem represents_endUser {R : Sessions} {rows : Set RefreshToken} (h : Represents R rows)
    (u : String) : Represents (R.close u) (Set.image (endUser u) rows) :=
  represents_close h fun r _ hvalid => by simp [hvalid]

/-- The clock stands still, and at most the sessions of the user have ended. -/
structure EndsFor (u : String) (w w' : World) : Prop where
  now : w'.now = w.now
  rows : tokens w' = tokens w ∨ tokens w' = Set.image (endUser u) (tokens w)

section EndsFor

variable {u : String} {w w' w'' : World} {R : Sessions}

theorem EndsFor.refl (u : String) (w : World) : EndsFor u w w := ⟨rfl, Or.inl rfl⟩

theorem EndsFor.trans (h : EndsFor u w w') (h' : EndsFor u w' w'') : EndsFor u w w'' := by
  refine ⟨h'.now.trans h.now, ?_⟩
  rcases h'.rows with hr' | hr'
  · rw [hr']
    exact h.rows
  · right
    rcases h.rows with hr | hr
    · rw [hr', hr]
    · rw [hr', hr, Set.image_image]
      exact Set.image_congr fun r _ => endUser_endUser u r

theorem endsFor_of_sameTokens (w w' : World) (h : SameTokens w w') : EndsFor u w w' := by
  refine ⟨h.now, Or.inl ?_⟩
  unfold tokens
  rw [h.root]

theorem endsFor_invalidate (w : World) :
    EndsFor u w { w with root := w.root.invalidateRefreshTokens u } :=
  ⟨rfl, Or.inr (tokens_invalidate w u)⟩

theorem EndsFor.represents (h : EndsFor u w w') (hR : Represents R (tokens w)) :
    Represents R (tokens w') ∨ Represents (R.close u) (tokens w') := by
  rcases h.rows with hr | hr
  · rw [hr]
    exact Or.inl hR
  · rw [hr]
    exact Or.inr (represents_endUser hR u)

/-- Nothing is left to be ended. -/
theorem EndsFor.closed (h : EndsFor u w w') (hR : Represents (R.close u) (tokens w)) :
    Represents (R.close u) (tokens w') := by
  rcases h.represents hR with hsame | hclosed
  · exact hsame
  · rwa [close_close] at hclosed

theorem endsFor_of_cache {α : Type} {P : String → CacheValue → Nat → Prop} {D : String → Prop}
    {x : App α} (h : Async.Guarantees (CacheStep P D) (fun _ => True) x) :
    Async.Guarantees (EndsFor u) (fun _ => True) x := by
  refine h.mono (fun w w' hs => ?_) fun _ h => h
  cases hs with
  | keep n => exact ⟨rfl, Or.inl rfl⟩
  | put k v ttl hk => exact ⟨rfl, Or.inl rfl⟩
  | del k hk => exact ⟨rfl, Or.inl rfl⟩

end EndsFor

section Login

variable (env : Env) {R : Sessions}

/-- `login` between the end of the old sessions and the new tokens. -/
def loginChecks (user : UserInfo) (ip : String) (d ua : Option String) : App Unit := do
  setRootUserAccessTokenBlacklistCache env user.id
  clearUserTokenCache env user.id
  Async.await (sendMessage (loginText user.id ip))
  if user.isTwoFactorEnabled && !truthy d then
    throw deviceTokenMissing
  if user.isTwoFactorEnabled then
    let _ ← validateOrRegisterDevice env user.id d ip ua

theorem login_in_parts (user : UserInfo) (ip : String) (d ua : Option String) :
    login env user ip d ua = (do
      invalidatePreviousRefreshTokens user.id
      loginChecks env user ip d ua
      generateTokens env user ip) := by
  unfold loginChecks login
  simp only [Async.bind_assoc, Async.ite_bind, Async.throw_bind, Async.pure_bind]

theorem endsFor_loginChecks (user : UserInfo) (ip : String) (d ua : Option String) :
    Async.Guarantees (EndsFor user.id) (fun _ => True) (loginChecks env user ip d ua) := by
  have hblacklist : Async.Guarantees (EndsFor user.id) (fun _ => True)
      (setRootUserAccessTokenBlacklistCache env user.id) :=
    endsFor_of_cache (guarantees_blacklist (D := NoDel) env _ _)
  have hclear : Async.Guarantees (EndsFor user.id) (fun _ => True)
      (clearUserTokenCache env user.id) :=
    endsFor_of_cache (guarantees_clear (P := NoPut) env _ _)
  have hmessage := (quiet_sendMessage (loginText user.id ip)).guarantees
    (endsFor_of_sameTokens (u := user.id))
  have hdevice := guarantees_validateOrRegisterDevice env (endsFor_of_sameTokens (u := user.id))
    endsFor_invalidate d ip ua
  refine hblacklist.bind fun _ _ => hclear.bind fun _ _ => hmessage.bind fun _ _ =>
    Async.Guarantees.ite (fun _ => Async.Guarantees.throw _) fun _ =>
      Async.Guarantees.ite (fun _ => ?_) fun _ => Async.Guarantees.pure trivial
  exact hdevice.bind fun _ _ => Async.Guarantees.pure trivial

/-- The refresh token of an answer. -/
def granted : EStateM.Result Exn World LoginResponse → Option String
  | .ok response _ => some response.refreshToken
  | .error _ _ => none

/-- The new tokens of a user whose sessions have ended. -/
theorem generateTokens_grants (user : UserInfo) (ip : String) {w : World}
    (hR : Represents (R.close user.id) (tokens w)) :
    ∃ R', Grants w.now user.id ip R (granted ((generateTokens env user ip).run w)) R' ∧
      Represents R' (tokens (finalState ((generateTokens env user ip).run w))) := by
  rw [run_generateTokens]
  cases h : w.root.createRefreshToken ((minted env user w).row user.id ip) with
  | error e => exact ⟨_, .refused, hR⟩
  | ok db =>
    obtain ⟨hv, -, rfl⟩ := Db.createRefreshToken_ok h
    have hnew : ∀ r ∈ tokens w, r.token ≠ ((minted env user w).row user.id ip).token :=
      hv RefreshToken.token (by simp [Keyed.keys])
    obtain ⟨hn, hissued⟩ := represents_issue hR rfl rfl hnew
    refine ⟨_, .issued _ hn, ?_⟩
    have hrows : tokens (finalState (EStateM.Result.ok ((minted env user w).response none)
        { w with
          root := { w.root with refreshToken := w.root.refreshToken.insert _ hv }
          redis := withSession env rootLoginClientCacheValue user ip w
          draws := w.draws + 1 } : EStateM.Result Exn World LoginResponse)) =
        insert ((minted env user w).row user.id ip) (tokens w) := by
      ext r
      exact (Table.mem_insert hv).trans or_comm
    rw [hrows]
    exact hissued

/-- Whatever happens in between, a login ends the old session, and it begins a new one exactly
when it answers. -/
theorem login_grants (user : UserInfo) (ip : String) (d ua : Option String) {w : World}
    (hR : Represents R (tokens w) ∨ Represents (R.close user.id) (tokens w)) :
    ∃ R', Grants w.now user.id ip R (granted ((login env user ip d ua).run w)) R' ∧
      Represents R' (tokens (finalState ((login env user ip d ua).run w))) := by
  have hclosed : Represents (R.close user.id)
      (tokens { w with root := w.root.invalidateRefreshTokens user.id }) := by
    rcases hR with hR | hR
    · rw [tokens_invalidate]
      exact represents_endUser hR user.id
    · exact (endsFor_invalidate w).closed hR
  generalize hw₁ : ({ w with root := w.root.invalidateRefreshTokens user.id } : World) = w₁ at hclosed
  have hrun : (login env user ip d ua).run w =
      (loginChecks env user ip d ua >>= fun _ => generateTokens env user ip).run w₁ := by
    rw [login_in_parts, Async.run_bind, ← hw₁]
    rfl
  have hnow₁ : w₁.now = w.now := by rw [← hw₁]
  have hchecks := (endsFor_loginChecks env user ip d ua).run (EndsFor.refl _)
    (fun _ _ _ => EndsFor.trans) w₁
  rw [hrun, Async.run_bind]
  cases hc : (loginChecks env user ip d ua).run w₁ with
  | error e w₂ =>
    rw [hc] at hchecks
    exact ⟨_, .refused, hchecks.closed hclosed⟩
  | ok a w₂ =>
    rw [hc] at hchecks
    have hnow₂ : w₂.now = w.now := hchecks.now.trans hnow₁
    rw [← hnow₂]
    exact generateTokens_grants env user ip (hchecks.closed hclosed)

end Login

/-- Clock and refresh tokens are as before. -/
structure Still (w w' : World) : Prop where
  now : w'.now = w.now
  rows : tokens w' = tokens w

section Still

variable {α : Type}

theorem Still.refl (w : World) : Still w w := ⟨rfl, rfl⟩

theorem Still.trans {w w' w'' : World} (h : Still w w') (h' : Still w' w'') : Still w w'' :=
  ⟨h'.now.trans h.now, h'.rows.trans h.rows⟩

theorem Still.represents {w w' : World} (h : Still w w') {R : Sessions}
    (hR : Represents R (tokens w)) : Represents R (tokens w') := by
  rw [h.rows]
  exact hR

theorem still_of_sameTokens (w w' : World) (h : SameTokens w w') : Still w w' := by
  refine ⟨h.now, ?_⟩
  unfold tokens
  rw [h.root]

/-- Everything but the refresh tokens of the root may be touched. -/
def elsewhere : Scope where
  rows _ := False
  tenantRows _ _ := True
  put _ _ _ := True
  del _ := True

theorem still_of_steps {x : App α} (h : Steps elsewhere x) :
    Async.Guarantees Still (fun _ => True) x := by
  refine h.mono (fun w w' hs => ⟨hs.now, ?_⟩) fun _ h => h
  ext r
  exact hs.rows r not_false

theorem still_run {x : App α} (h : Async.Guarantees Still (fun _ => True) x) (w : World) :
    Still w (finalState (x.run w)) :=
  h.run Still.refl (fun _ _ _ => Still.trans) w

theorem quiet_registerTrustedDevice (env : Env) (userId deviceName ip userAgent : String) :
    Quiet (registerTrustedDevice env userId deviceName ip userAgent) :=
  (quiet_uuidv4 env).bind fun _ => quiet_clock.bind fun _ =>
    (quiet_writeRoot fun _ _ h => createTrustedDevice_refreshToken h).bind fun _ => quiet_pure _

theorem still_verifyOtp (env : Env) (cmd : VerifyTwoFactorOtpCommand) :
    Async.Guarantees Still (fun _ => True) (verifyTwoFactorOtp env cmd) := by
  have hupdate := (quiet_writeRoot fun _ _ h => updateUserById_refreshToken h :
    Quiet (writeRoot fun db => db.updateUserById cmd.userId (withTwoFactorEnabled true)))
  refine ((quiet_readRoot _).guarantees still_of_sameTokens).bind fun user _ => ?_
  cases user with
  | none => exact Async.Guarantees.throw _
  | some user =>
    refine Async.Guarantees.ite (fun _ => Async.Guarantees.throw _) fun _ =>
      Async.Guarantees.ite (fun _ => Async.Guarantees.throw _) fun _ => ?_
    exact (hupdate.guarantees still_of_sameTokens).bind fun _ _ =>
      (quiet_registerTrustedDevice env user.id _ _ _).guarantees still_of_sameTokens

theorem still_generateQr (env : TwoFactorEnv) (cmd : VerifyGenerateTwoFactorQrCommand) :
    Async.Guarantees Still (fun _ => True) (verifyGenerateTwoFactorQr env cmd) := by
  have hsecret : Quiet (generateSecret env cmd.email) := fun _ => ⟨rfl, rfl, rfl, fun _ => rfl⟩
  have hset (secret : String) : Quiet (setTwoFactorSecret cmd.userId secret) := by
    unfold setTwoFactorSecret
    cases cmd.userId with
    | none => exact SameTokens.refl
    | some id => exact quiet_writeRoot fun _ _ h => updateUserById_refreshToken h
  refine Async.Guarantees.ite (fun _ => Async.Guarantees.throw _) fun _ => ?_
  exact ((hsecret.bind fun p => (hset p.1).bind fun _ => quiet_pure p.2).guarantees
    still_of_sameTokens).bind fun _ _ => (quiet_queryRoot _).guarantees still_of_sameTokens

theorem still_validate (env : Env) (req : Request) (payload : JwtPayload) :
    Async.Guarantees Still (fun _ => True) (validate env req payload) :=
  still_of_steps (steps_validate env req payload fun _ _ _ _ _ => trivial)

end Still

/-- The program signs somebody in, or leaves the sessions alone. -/
def SignsIn (ip : String) (x : App LoginResponse) : Prop :=
  ∀ R w, Represents R (tokens w) → ∃ R', ((granted (x.run w) = none ∧ R' = R) ∨
    ∃ u, Grants w.now u ip R (granted (x.run w)) R') ∧ Represents R' (tokens (finalState (x.run w)))

section SignsIn

variable {ip : String}

theorem SignsIn.throw (e : Exn) : SignsIn ip (MonadExcept.throw e) :=
  fun R _ hR => ⟨R, Or.inl ⟨rfl, rfl⟩, hR⟩

theorem SignsIn.ite {c : Prop} [Decidable c] {x y : App LoginResponse} (hx : SignsIn ip x)
    (hy : SignsIn ip y) : SignsIn ip (if c then x else y) := by
  split
  · exact hx
  · exact hy

theorem SignsIn.after {α : Type} {x : App α} {f : α → App LoginResponse}
    (hx : Async.Guarantees Still (fun _ => True) x) (hf : ∀ a, SignsIn ip (f a)) :
    SignsIn ip (x >>= f) := by
  intro R w hR
  have hstill := still_run hx w
  rw [Async.run_bind]
  cases hxw : x.run w with
  | error e w' =>
    rw [hxw] at hstill
    exact ⟨R, Or.inl ⟨rfl, rfl⟩, hstill.represents hR⟩
  | ok a w' =>
    rw [hxw] at hstill
    have hR' : Represents R (tokens w') := hstill.represents hR
    have hrest := hf a R w' hR'
    rwa [show w'.now = w.now from hstill.now] at hrest

theorem signsIn_login (env : Env) (user : UserInfo) (d ua : Option String) :
    SignsIn ip (login env user ip d ua) := by
  intro R w hR
  obtain ⟨R', hgrants, hR'⟩ := login_grants env user ip d ua (Or.inl hR)
  exact ⟨R', Or.inr ⟨user.id, hgrants⟩, hR'⟩

/-- An answer may be completed. -/
theorem SignsIn.map {x : App LoginResponse} (hx : SignsIn ip x) {f : LoginResponse → LoginResponse}
    (hf : ∀ r, (f r).refreshToken = r.refreshToken) : SignsIn ip (x >>= fun r => pure (f r)) := by
  intro R w hR
  have hsame : granted ((x >>= fun r => pure (f r)).run w) = granted (x.run w) ∧
      finalState ((x >>= fun r => pure (f r)).run w) = finalState (x.run w) := by
    rw [Async.run_bind]
    cases x.run w with
    | ok r w' => exact ⟨congrArg some (hf r), rfl⟩
    | error e w' => exact ⟨rfl, rfl⟩
  rw [hsame.1, hsame.2]
  exact hx R w hR

/-- The checks of a password login leave the sessions alone, or have ended them. -/
theorem run_loginUserChecks (env : LoginEnv) (cmd : LoginUserCommand) (w : World) :
    (∃ e, (loginUserChecks env cmd).run w = .error e w) ∨
      ∃ user, (loginUserChecks env cmd).run w =
        .ok user { w with root := w.root.invalidateRefreshTokens user.id } := by
  unfold loginUserChecks
  rw [Async.run_bind, Async.run_await]
  have hfind := findUserByEmail_state env cmd.email w
  cases hf : findUserByEmail env cmd.email w with
  | error e w' =>
    rw [hf] at hfind
    obtain rfl : w = w' := hfind.symm
    exact Or.inl ⟨e, rfl⟩
  | ok found w' =>
    rw [hf] at hfind
    obtain rfl : w = w' := hfind.symm
    cases found with
    | none => exact Or.inl ⟨_, rfl⟩
    | some found =>
      obtain ⟨user, own⟩ := found
      dsimp only
      rw [Async.run_bind, Async.run_await]
      have hcompare := comparePassword_state env cmd.password user.password w
      cases hc : comparePassword env cmd.password user.password w with
      | error e w' =>
        rw [hc] at hcompare
        obtain rfl : w = w' := hcompare.symm
        exact Or.inl ⟨e, rfl⟩
      | ok isValid w' =>
        rw [hc] at hcompare
        obtain rfl : w = w' := hcompare.symm
        cases isValid with
        | false => exact Or.inl ⟨_, rfl⟩
        | true =>
          cases hv : user.verified with
          | false => exact Or.inl ⟨emailNotVerified, by simp⟩
          | true =>
            right
            exact ⟨User.info user, by simp [updateInvalidatePreviousRefreshTokens, User.info]⟩

theorem signsIn_loginUser (env : LoginEnv) (cmd : LoginUserCommand) :
    SignsIn cmd.ip (loginUser env cmd) := by
  intro R w hR
  unfold loginUser
  rw [Async.run_bind, Async.run_handle]
  rcases run_loginUserChecks env cmd w with ⟨e, hrun⟩ | ⟨user, hrun⟩
  · rw [hrun]
    exact ⟨R, Or.inl ⟨rfl, rfl⟩, hR⟩
  · rw [hrun]
    have hclosed : Represents (R.close user.id)
        (tokens { w with root := w.root.invalidateRefreshTokens user.id }) := by
      rw [tokens_invalidate]
      exact represents_endUser hR user.id
    obtain ⟨R', hgrants, hR'⟩ := login_grants env.toEnv user cmd.ip none none (Or.inr hclosed)
    exact ⟨R', Or.inr ⟨user.id, hgrants⟩, hR'⟩

theorem quiet_createSocialUser (env : LoginEnv) (row : User) : Quiet (createSocialUser env row) := by
  refine quiet_clock.bind fun now => quiet_writeRoot fun db db' h => ?_
  obtain ⟨hv, -, rfl⟩ := createSocialUserRow_ok h
  rfl

theorem still_createSocialAccount (env : LoginEnv) (cmd : GoogleSocialCreateOrLoginCommand)
    (user : Option (User × Option Tenant.Client)) (client : Option Tenant.Client) :
    Async.Guarantees Still (fun _ => True) (createSocialAccount env cmd user client) := by
  unfold createSocialAccount
  cases checkClient user client with
  | error e => exact Async.Guarantees.throw e
  | ok client =>
    refine Async.Guarantees.bind (V := fun _ => True)
      (Async.Guarantees.await (fun w => ⟨rfl, rfl⟩) fun _ _ _ _ => trivial) fun row _ => ?_
    exact ((quiet_createSocialUser env row).guarantees still_of_sameTokens).bind fun _ _ => Async.Guarantees.pure trivial

theorem signsIn_google (env : LoginEnv) (cmd : GoogleSocialCreateOrLoginCommand) :
    SignsIn cmd.ip (googleSocialCreateOrLogin env cmd) := by
  have hfind : Quiet (findUserByEmail env (.string cmd.email)) := fun w => by
    rw [findUserByEmail_state]
    exact SameTokens.refl w
  have hclient : Quiet (findByClientCode env cmd.clientCode) := by
    cases cmd.clientCode with
    | string code => exact quiet_clock.bind fun _ => quiet_pure _
    | _ => exact SameTokens.refl
  refine SignsIn.after (hfind.guarantees still_of_sameTokens) fun user =>
    SignsIn.after (hclient.guarantees still_of_sameTokens) fun client => ?_
  have hcreate : SignsIn cmd.ip (do
      let userInfo ← createSocialAccount env cmd user client
      login env.toEnv userInfo cmd.ip none none) :=
    .after (still_createSocialAccount env cmd user client) fun _ => signsIn_login _ _ _ _
  cases user.mapM (isPaidAccount client) with
  | error e => exact SignsIn.throw e
  | ok paid =>
    rcases user with - | user
    · exact hcreate
    · rcases paid with - | - | -
      · exact hcreate
      · exact hcreate
      · exact signsIn_login _ _ _ _

theorem signsIn_login2fa (env : Env) (cmd : Login2faTrustedDeviceRegCommand) :
    SignsIn cmd.ip (login2faTrustedDeviceReg env cmd) := by
  refine SignsIn.after ((quiet_readRoot _).guarantees still_of_sameTokens) fun user => ?_
  cases user with
  | none => exact SignsIn.throw _
  | some user =>
    have hdevice := quiet_registerTrustedDevice env user.id (cmd.deviceName.getD "Unknown device")
      cmd.ip cmd.userAgent
    refine SignsIn.ite (SignsIn.throw _) (SignsIn.ite (SignsIn.throw _) (SignsIn.after
      (hdevice.guarantees still_of_sameTokens) fun deviceToken => ?_))
    exact SignsIn.map (signsIn_login env _ none none) fun _ => rfl

end SignsIn

section Ends

variable {R : Sessions} {w : World}

/-- A valid row is the current session of its user. -/
theorem Represents.of_row (hR : Represents R (tokens w)) {r : RefreshToken} (hr : r ∈ tokens w)
    (hvalid : r.isValid = true) : R.current r.userId = some (r.token, grantOf r) :=
  (hR.current r.userId r.token (grantOf r)).mpr ⟨r, hr, hvalid, rfl, rfl, rfl⟩

/-- The valid rows with the token of a session are those of its user. -/
theorem Represents.same_row (hR : Represents R (tokens w)) {u token : String} {g : Grant}
    (hcurrent : R.current u = some (token, g)) {r : RefreshToken} (hr : r ∈ tokens w)
    (hvalid : r.isValid = true) : r.token = token ↔ r.userId = u := by
  have hrow := hR.of_row hr hvalid
  constructor
  · rintro rfl
    exact R.owner_unique hrow hcurrent
  · rintro rfl
    rw [hcurrent] at hrow
    simp only [Option.some.injEq, Prod.mk.injEq] at hrow
    exact hrow.1.symm

/-- To spend the token of a session closes it. -/
theorem spent_closes (hR : Represents R (tokens w)) {u token : String} {g : Grant}
    (hcurrent : R.current u = some (token, g)) :
    Represents (R.close u) (tokens { w with root := { w.root with
      refreshToken := w.root.refreshToken.updateMany (fun r => r.token == token)
        invalidated } }) := by
  have hrows : tokens { w with root := { w.root with
      refreshToken := w.root.refreshToken.updateMany (fun r => r.token == token)
        invalidated } } = Set.image (ending fun r => r.token == token) (tokens w) :=
    mem_updateMany_invalidated
  rw [hrows]
  refine represents_close hR fun r hr hvalid => ?_
  rw [beq_iff_eq]
  exact hR.same_row hcurrent hr hvalid

/-- To invalidate a token by its name closes the session that has it. -/
theorem represents_revoked (hR : Represents R (tokens w)) (token : String) :
    (∃ u g, R.current u = some (token, g) ∧
      Represents (R.close u) (Set.image (ending fun r => r.token == token) (tokens w))) ∨
    (∀ u g, R.current u ≠ some (token, g)) ∧
      Represents R (Set.image (ending fun r => r.token == token) (tokens w)) := by
  by_cases h : ∃ u g, R.current u = some (token, g)
  · obtain ⟨u, g, hcurrent⟩ := h
    refine Or.inl ⟨u, g, hcurrent, represents_close hR fun r hr hvalid => ?_⟩
    rw [beq_iff_eq]
    exact hR.same_row hcurrent hr hvalid
  · simp only [not_exists] at h
    refine Or.inr ⟨h, represents_keep hR fun r hr hvalid => ?_⟩
    rw [beq_eq_false_iff_ne]
    rintro rfl
    exact h _ _ (hR.of_row hr hvalid)

theorem theft_ends (env : Env) (u ip : String) (loc : Option String) :
    Async.Guarantees (EndsFor u) (fun _ => True) (handleTokenTheft env u ip loc) :=
  guarantees_handleTokenTheft env endsFor_of_sameTokens endsFor_invalidate ip loc

/-- The theft response ends the sessions of the user, and none of its other steps matters. -/
theorem theft_closes (env : Env) (u ip : String) (loc : Option String)
    (hR : Represents R (tokens w)) :
    Represents (R.close u) (tokens (finalState ((handleTokenTheft env u ip loc).run w))) := by
  have hclosed : Represents (R.close u)
      (tokens { w with root := w.root.invalidateRefreshTokens u }) := by
    rw [tokens_invalidate]
    exact represents_endUser hR u
  -- The program is one step, and the rest of it may only end sessions of the user.
  exact EndsFor.closed ((theft_ends env u ip loc w).2.run (EndsFor.refl u) (fun _ _ _ => EndsFor.trans) _) hclosed

theorem subjectFromDb_ends (env : Env) (cmd : UpdateRefreshAccessTokenCommand) :
    Async.Guarantees (EndsFor cmd.userId) (fun _ => True) (subjectFromDb env cmd) := by
  have hread : Async.Guarantees (EndsFor cmd.userId) (fun _ => True)
      (Async.await (readRoot fun db => db.findUserById cmd.userId)) :=
    (quiet_readRoot _).guarantees endsFor_of_sameTokens
  refine ((quiet_findValidRefreshToken env _).guarantees endsFor_of_sameTokens).bind
    fun record _ => ?_
  cases record with
  | none => exact Async.Guarantees.throw _
  | some record =>
    refine Async.Guarantees.ite (fun _ => Async.Guarantees.throw _) fun hid => ?_
    rw [not_not] at hid
    rw [hid]
    refine Async.Guarantees.ite (fun _ => (theft_ends env _ _ _).bind fun _ _ => ?_) fun _ => ?_
    all_goals
      refine hread.bind fun user _ => ?_
      cases user with
      | none => exact Async.Guarantees.throw _
      | some user => exact Async.Guarantees.pure trivial

theorem subjectFromCache_ends (env : Env) (cmd : UpdateRefreshAccessTokenCommand)
    (value : CacheValue) :
    Async.Guarantees (EndsFor cmd.userId) (fun _ => True) (subjectFromCache env cmd value) := by
  cases value with
  | text s => exact Async.Guarantees.throw _
  | payload record =>
    refine Async.Guarantees.ite (fun _ => Async.Guarantees.throw _) fun hid => ?_
    rw [not_not] at hid
    rw [hid]
    exact Async.Guarantees.ite
      (fun _ => (theft_ends env _ _ _).bind fun _ _ => Async.Guarantees.pure trivial)
      fun _ => Async.Guarantees.pure trivial

theorem refresh_ends (env : Env) (cmd : UpdateRefreshAccessTokenCommand) :
    Async.Guarantees (EndsFor cmd.userId) (fun _ => True) (updateRefreshAccessToken env cmd) := by
  have hsubject : Async.Guarantees (EndsFor cmd.userId) (fun _ => True) (refreshSubject env cmd) := by
    refine Async.Guarantees.bind (V := fun _ => True)
      (Async.Guarantees.await (EndsFor.refl _) fun _ _ _ _ => trivial) fun found _ => ?_
    cases found with
    | none => exact subjectFromDb_ends env cmd
    | some value =>
      exact Async.Guarantees.ite (fun _ => subjectFromCache_ends env cmd value)
        fun _ => subjectFromDb_ends env cmd
  have hnew (user : UserInfo) : Async.Guarantees (EndsFor cmd.userId) (fun _ => True)
      (newAccessToken env cmd.clientCode user cmd.ip) :=
    (still_of_steps (steps_newAccessToken env _ _ _ fun _ _ _ _ => trivial)).mono
      (fun _ _ h => ⟨h.now, Or.inl h.rows⟩) fun _ h => h
  rw [refresh_cut]
  exact hsubject.bind fun user _ => hnew user

/-- A token that no session has is unknown: there is no row, or the row is not valid. -/
theorem not_current (hR : Represents R (tokens w)) {token : String}
    (h : ∀ r ∈ tokens w, r.token = token → r.isValid = false) (u : String) (g : Grant) :
    R.current u ≠ some (token, g) := by
  intro hcurrent
  obtain ⟨r, hr, hvalid, -, htoken, -⟩ := (hR.current u token g).mp hcurrent
  rw [h r hr htoken] at hvalid
  cases hvalid

theorem findRefreshToken_spec (db : Db) (token : String) :
    (findRefreshToken db token = none ∧ ∀ r ∈ db.refreshToken.rows, r.token ≠ token) ∨
    ∃ r ∈ db.refreshToken.rows, findRefreshToken db token = some r ∧ r.token = token ∧
      ∀ r' ∈ db.refreshToken.rows, r'.token = token → r' = r := by
  cases hfind : findRefreshToken db token with
  | none =>
    refine Or.inl ⟨rfl, fun r hr htoken => ?_⟩
    have hno := Table.findFirst_eq_none.mp hfind r hr
    simp [htoken] at hno
  | some r =>
    obtain ⟨hr, htoken⟩ := Table.findFirst_mem hfind
    refine Or.inr ⟨r, hr, rfl, by simpa using htoken, fun r' hr' htoken' => ?_⟩
    have hkey := Table.findFirst_key (k := RefreshToken.token) (by simp [Keyed.keys]) hr'
    rw [htoken'] at hkey
    exact Option.some.inj (hkey.symm.trans hfind)

/-- The part of a rotation after the presented token was spent. -/
theorem rotate_grants (env : Env) (createdAt : String → String) (u ip : String)
    (hR : Represents (R.close u) (tokens w)) :
    ∃ R', Grants w.now u ip R (granted ((rotate env createdAt u ip).run w)) R' ∧
      Represents R' (tokens (finalState ((rotate env createdAt u ip).run w))) := by
  unfold rotate
  rw [Async.run_bind, Async.run_await, readRoot_apply]
  cases hu : w.root.findUserById u with
  | none => exact ⟨_, .refused, hR⟩
  | some user =>
    obtain rfl : user.id = u := (Db.findUserById_some hu).2
    exact generateTokens_grants env (wholeRow createdAt user) ip hR

theorem refreshTokens_rotates (env : Env) (createdAt : String → String) (token ip : String)
    (hR : Represents R (tokens w)) :
    ∃ R', Rotates w.now token ip R (granted ((refreshTokens env createdAt token ip).run w)) R' ∧
      Represents R' (tokens (finalState ((refreshTokens env createdAt token ip).run w))) := by
  unfold refreshTokens
  rw [Async.run_bind, Async.run_await, readRoot_apply]
  rcases findRefreshToken_spec w.root token with ⟨hfind, hno⟩ | ⟨r, hr, hfind, htoken, hsame⟩
  · rw [hfind]
    exact ⟨R, .unknown (not_current hR fun r hr h => absurd h (hno r hr)), hR⟩
  · rw [hfind]
    dsimp only
    cases hvalid : r.isValid with
    | false =>
      refine ⟨R, .unknown (not_current hR fun r' hr' h => ?_), hR⟩
      rw [hsame r' hr' h]
      exact hvalid
    | true =>
      have hcurrent : R.current r.userId = some (token, grantOf r) := by
        rw [← htoken]
        exact hR.of_row hr hvalid
      simp only [Bool.not_true, Bool.false_eq_true, if_false, Async.run_bind, Async.run_await,
        clock_apply]
      by_cases hexpired : r.expiresAt < w.now
      · rw [if_pos hexpired]
        refine ⟨_, .misused hcurrent (Or.inl hexpired), ?_⟩
        show Represents _ (tokens { w with root := w.root.invalidateRefreshTokens r.userId })
        rw [tokens_invalidate]
        exact represents_endUser hR r.userId
      · rw [if_neg hexpired]
        by_cases hip : r.ip = some ip
        · rw [if_neg (not_not.mpr hip), Async.run_bind, Async.run_await, writeRoot_apply,
            spendRefreshToken, Table.update_of_mem hr (by simpa using htoken)]
          obtain ⟨R', hgrants, hR'⟩ :=
            rotate_grants env createdAt r.userId ip (spent_closes hR hcurrent)
          exact ⟨R', .rotated hcurrent (Nat.not_lt.mp hexpired) hip hgrants, hR'⟩
        · rw [if_pos hip, Async.run_bind]
          have hclosed := theft_closes env r.userId ip none hR
          refine ⟨R.close r.userId, ?_, ?_⟩
          · cases (handleTokenTheft env r.userId ip none).run w with
            | ok _ _ => exact .misused hcurrent (Or.inr hip)
            | error _ _ => exact .misused hcurrent (Or.inr hip)
          · cases htheft : (handleTokenTheft env r.userId ip none).run w with
            | ok _ w' =>
              rw [htheft] at hclosed
              exact hclosed
            | error e w' =>
              rw [htheft] at hclosed
              exact hclosed

end Ends

section Calls

variable (env : TwoFactorEnv) {R : Sessions} {w : World}

/-- The refresh token that a call answers. -/
def reply : Call → World → Option String
  | .service (.login user ip d ua), w => granted ((login env.toEnv user ip d ua).run w)
  | .loginUser cmd, w => granted ((loginUser env.toLoginEnv cmd).run w)
  | .googleSocialCreateOrLogin cmd, w => granted ((googleSocialCreateOrLogin env.toLoginEnv cmd).run w)
  | .login2faTrustedDeviceReg cmd, w => granted ((login2faTrustedDeviceReg env.toEnv cmd).run w)
  | .refreshTokens createdAt token ip, w =>
    granted ((refreshTokens env.toEnv createdAt token ip).run w)
  | _, _ => none

/-- What a call does to the refresh tokens is a step of the registry. -/
theorem call_simulated (call : Call) (hR : Represents R (tokens w)) :
    ∃ R', SessionStep w.now R (reply env call w) R' call ∧
      Represents R' (tokens (call.exec env w)) := by
  have hquiet {α : Type} {x : App α} (hx : Async.Guarantees Still (fun _ => True) x) :
      ∃ R', (none = (none : Option String) ∧ R' = R) ∧
        Represents R' (tokens (finalState (x.run w))) :=
    ⟨R, ⟨rfl, rfl⟩, (still_run hx w).represents hR⟩
  cases call with
  | service op =>
    cases op with
    | login user ip d ua => exact login_grants env.toEnv user ip d ua (Or.inl hR)
    | handleTokenTheft u ip loc => exact ⟨_, ⟨rfl, rfl⟩, theft_closes env.toEnv u ip loc hR⟩
    | revokeRefreshToken token =>
      have hrows : tokens (Call.exec env (.service (.revokeRefreshToken token)) w) =
          Set.image (ending fun r => r.token == token) (tokens w) := mem_updateMany_invalidated
      rw [hrows]
      rcases represents_revoked hR token with ⟨u, g, hcurrent, hR'⟩ | ⟨hno, hR'⟩
      · exact ⟨_, ⟨rfl, Or.inl ⟨u, g, hcurrent, rfl⟩⟩, hR'⟩
      · exact ⟨_, ⟨rfl, Or.inr ⟨hno, rfl⟩⟩, hR'⟩
    | refresh c u token ip =>
      have hends := (refresh_ends env.toEnv (refreshCommand c u token ip)).run (EndsFor.refl _)
        (fun _ _ _ => EndsFor.trans) w
      rcases hends.represents hR with hR' | hR'
      · exact ⟨_, ⟨rfl, Or.inl rfl⟩, hR'⟩
      · exact ⟨_, ⟨rfl, Or.inr rfl⟩, hR'⟩
    | tenantLogin c user ip d ua =>
      exact hquiet (still_of_steps (steps_tenantLogin env.toEnv c user ip d ua
        (fun _ _ _ => trivial) (fun _ _ _ _ => trivial) fun _ _ => trivial))
    | validate req payload => exact hquiet (still_validate env.toEnv req payload)
    | elapse n => exact ⟨R, ⟨rfl, rfl⟩, hR⟩
  | loginUser cmd => exact signsIn_loginUser env.toLoginEnv cmd R w hR
  | googleSocialCreateOrLogin cmd => exact signsIn_google env.toLoginEnv cmd R w hR
  | login2faTrustedDeviceReg cmd => exact signsIn_login2fa env.toEnv cmd R w hR
  | refreshTokens createdAt token ip =>
    exact refreshTokens_rotates env.toEnv createdAt token ip hR
  | verifyTwoFactorOtp cmd => exact hquiet (still_verifyOtp env.toEnv cmd)
  | verifyGenerateTwoFactorQr cmd => exact hquiet (still_generateQr env cmd)
  | generateTwoFactorQR req payload =>
    exact hquiet ((still_validate env.toEnv req payload).bind fun _ _ => still_generateQr env _)

end Calls

/-- A call with the time at which it was made and the refresh token that it answered. -/
structure Label where
  now : Nat
  call : Call
  reply : Option String

/-- What is seen of calls that run one after the other. -/
def labels (env : TwoFactorEnv) : List Call → World → List Label
  | [], _ => []
  | call :: calls, w => ⟨w.now, call, reply env call w⟩ :: labels env calls (call.exec env w)

/-- The registry can go along. -/
def Accepts (R : Sessions) : List Label → Sessions → Prop
  | [], R' => R' = R
  | l :: trace, R' => ∃ R₁, SessionStep l.now R l.reply R₁ l.call ∧ Accepts R₁ trace R'

section Runs

variable (env : TwoFactorEnv)

/-- Every sequence of calls is one of the registry. -/
theorem accepted (calls : List Call) {R : Sessions} {w : World} (hR : Represents R (tokens w)) :
    ∃ R', Accepts R (labels env calls w) R' ∧
      Represents R' (tokens (Call.execAll env calls w)) := by
  induction calls generalizing R w with
  | nil => exact ⟨R, rfl, hR⟩
  | cons call calls ih =>
    obtain ⟨R₁, hstep, hR₁⟩ := call_simulated env call hR
    obtain ⟨R', hrest, hR'⟩ := ih hR₁
    exact ⟨R', ⟨R₁, hstep, hrest⟩, hR'⟩

/-- No user has two valid refresh tokens. -/
def AtMostOne (db : Db) : Prop :=
  ∀ r ∈ db.refreshToken.rows, ∀ r' ∈ db.refreshToken.rows, r.isValid = true →
    r'.isValid = true → r.userId = r'.userId → r = r'

instance (db : Db) : Decidable (AtMostOne db) :=
  inferInstanceAs (Decidable (∀ r ∈ db.refreshToken.rows, ∀ r' ∈ db.refreshToken.rows,
    r.isValid = true → r'.isValid = true → r.userId = r'.userId → r = r'))

/-- The valid refresh token of the user. -/
def currentRow (w : World) (u : String) : Option RefreshToken :=
  w.root.refreshToken.findFirst fun r => r.userId == u && r.isValid

theorem currentRow_iff {w : World} (h : AtMostOne w.root) {u : String} {r : RefreshToken} :
    currentRow w u = some r ↔ r ∈ tokens w ∧ r.isValid = true ∧ r.userId = u := by
  constructor
  · intro hfind
    obtain ⟨hr, hp⟩ := Table.findFirst_mem hfind
    simp only [Bool.and_eq_true, beq_iff_eq] at hp
    exact ⟨hr, hp.2, hp.1⟩
  · rintro ⟨hr, hv, hu⟩
    cases hfind : currentRow w u with
    | none =>
      have hno := Table.findFirst_eq_none.mp hfind r hr
      simp [hu, hv] at hno
    | some r' =>
      obtain ⟨hr', hp⟩ := Table.findFirst_mem hfind
      simp only [Bool.and_eq_true, beq_iff_eq] at hp
      rw [h r hr r' hr' hv hp.2 (hu.trans hp.1.symm)]

theorem currentRow_grant {w : World} (h : AtMostOne w.root) {u n : String} {g : Grant} :
    (currentRow w u).map (fun r => (r.token, grantOf r)) = some (n, g) ↔
      ∃ r ∈ tokens w, r.isValid = true ∧ r.userId = u ∧ r.token = n ∧ grantOf r = g := by
  simp only [Option.map_eq_some_iff, currentRow_iff h, Prod.mk.injEq]
  constructor
  · rintro ⟨r, ⟨hr, hv, hu⟩, hn, hg⟩
    exact ⟨r, hr, hv, hu, hn, hg⟩
  · rintro ⟨r, hr, hv, hu, hn, hg⟩
    exact ⟨r, ⟨hr, hv, hu⟩, hn, hg⟩

/-- No two rows have the same token. -/
theorem token_inj {w : World} {r r' : RefreshToken} (hr : r ∈ tokens w) (hr' : r' ∈ tokens w)
    (h : r'.token = r.token) : r' = r := by
  rcases findRefreshToken_spec w.root r.token with ⟨-, hno⟩ | ⟨r₀, -, -, -, hsame⟩
  · exact absurd rfl (hno r hr)
  · rw [hsame r hr rfl, hsame r' hr' h]

/-- The rows as a registry. -/
theorem exists_represents {w : World} (h : AtMostOne w.root) : ∃ R, Represents R (tokens w) := by
  refine ⟨⟨fun u => (currentRow w u).map fun r => (r.token, grantOf r),
    {n | ∃ r ∈ tokens w, r.token = n}, fun hc => ?_, fun hc hc' => ?_⟩,
    ⟨fun _ _ _ => currentRow_grant h, fun n => Iff.rfl⟩⟩
  · obtain ⟨r, hr, -, -, hn, -⟩ := (currentRow_grant h).mp hc
    exact ⟨r, hr, hn⟩
  · obtain ⟨r, hr, -, hu, hn, -⟩ := (currentRow_grant h).mp hc
    obtain ⟨r', hr', -, hu', hn', -⟩ := (currentRow_grant h).mp hc'
    rw [← hu, ← hu', token_inj hr hr' (hn'.trans hn.symm)]

/-- Represented rows are at most one for each user. -/
theorem Represents.atMostOne {R : Sessions} {w : World} (hR : Represents R (tokens w)) :
    AtMostOne w.root := by
  intro r hr r' hr' hv hv' hu
  have hrow := hR.of_row hr hv
  rw [hu, hR.of_row hr' hv'] at hrow
  simp only [Option.some.injEq, Prod.mk.injEq] at hrow
  exact (token_inj hr hr' hrow.1).symm

/-- From any state with at most one valid token for each user, calls that run one after the
other are a run of the session registry, with the same answers; in the end there is still at
most one valid token for each user. -/
theorem sessions_refine_registry (calls : List Call) {w : World} (hw : AtMostOne w.root) :
    ∃ R R', Represents R (tokens w) ∧ Accepts R (labels env calls w) R' ∧
      Represents R' (tokens (Call.execAll env calls w)) ∧
        AtMostOne (Call.execAll env calls w).root := by
  obtain ⟨R, hR⟩ := exists_represents hw
  obtain ⟨R', haccepts, hR'⟩ := accepted env calls hR
  exact ⟨R, R', hR, haccepts, hR', hR'.atMostOne⟩

def rotation : Call := .refreshTokens (fun _ => "") "r0" "10.0.0.1"

def rotationThenLogin : List Call :=
  [rotation, .service (.login (User.info User.sample) "10.0.0.1" none none), rotation]

theorem rotation_refines_registry : ∃ R R',
    Represents R (tokens (rotationWorld "secret")) ∧
      Accepts R (labels .sample rotationThenLogin (rotationWorld "secret")) R' ∧
        Represents R' (tokens (Call.execAll .sample rotationThenLogin (rotationWorld "secret"))) ∧
          AtMostOne (Call.execAll .sample rotationThenLogin (rotationWorld "secret")).root :=
  sessions_refine_registry .sample rotationThenLogin (by decide +kernel)

end Runs

end NestUserService.Auth.SessionRegistry
