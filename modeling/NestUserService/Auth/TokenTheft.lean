import NestUserService.Auth.Handlers

/-!
# The theft response

`handleTokenTheft` calls `notifySecurityTeam` with three arguments for its four
parameters: the user id arrives as client code, the suspicious address as user id and
the location as address. The first part computes what that call does on every state,
the second part follows it through the refresh handler.
-/

namespace NestUserService.Auth.TokenTheft

open Lib NestUserService.Core Shared

variable (env : Env) (w : World)

/-- The state when the alert starts to look for its user. -/
def reported (userId suspiciousIp : String) (locationText : Option String) : World :=
  { w with
    root := (w.root.invalidateRefreshTokens userId).ipUpsert suspiciousIp
    slack := w.slack ++ [suspiciousAccessText userId suspiciousIp locationText] }

/-- When no user has the address for an id, the update of the reset token fails. -/
theorem run_theft_missing (userId : String) {suspiciousIp : String} (locationText : Option String)
    (h : ∀ u ∈ w.root.user.rows, u.id ≠ suspiciousIp) :
    (handleTokenTheft env userId suspiciousIp locationText).run w =
      .error recordNotFound
        { reported w userId suspiciousIp locationText with draws := w.draws + 1 } := by
  have hupd (data : Patch User) :
      ((w.root.invalidateRefreshTokens userId).ipUpsert suspiciousIp).updateUserById suspiciousIp
        data = .error recordNotFound := by
    refine Db.updateUserById_missing ?_ data
    exact h
  simp [handleTokenTheft, invalidateUserTokens, notifySecurityTeam, hupd, reported]

/-- When a user does have that id, the alert goes to that user, with the location in
place of the address and without a location. -/
theorem run_theft_found {userId : String} {v : User} (locationText : Option String)
    (hv : v ∈ w.root.user.rows) :
    (handleTokenTheft env userId v.id locationText).run w =
      let resetToken := env.uuidv4 w.draws
      let mail : SecurityAlertEmail :=
        { mailTo := v.email, userName := v.name, suspiciousIp := locationText, resetToken
          expireMinutes, locationText := none }
      let w' := { reported w userId v.id locationText with
        root := { (reported w userId v.id locationText).root with
          user := w.root.user.updateMany (fun u => u.id == v.id)
            (withResetPassword resetToken (w.now + minutes expireMinutes)) }
        draws := w.draws + 1 }
      if env.mailAccepted mail then .ok () { w' with mails := w.mails ++ [mail] }
      else .error (.error "sendMail failed") w' := by
  have hfind : ((w.root.invalidateRefreshTokens userId).ipUpsert v.id).findUserById v.id = some v :=
    Db.findUserById_of_mem hv
  have hupd (data : Patch User) :
      ((w.root.invalidateRefreshTokens userId).ipUpsert v.id).updateUserById v.id data =
        .ok { (w.root.invalidateRefreshTokens userId).ipUpsert v.id with
          user := w.root.user.updateMany (fun u => u.id == v.id) data } := by
    refine Db.updateUserById_of_mem ?_ data
    exact hv
  simp [handleTokenTheft, invalidateUserTokens, notifySecurityTeam, hfind, hupd, reported,
    sendSecurityAlertEmail]

/-- What the response to a theft at `u` from `p` has to achieve. -/
structure Complete (u : User) (p : String) (l : Option String) (w' : World) : Prop where
  finishes : (handleTokenTheft env u.id p l).run w = .ok () w'
  invalid : ∀ r ∈ w'.root.refreshToken.rows, r.userId = u.id → r.isValid = false
  others : ∀ r, r.userId ≠ u.id →
    (r ∈ w'.root.refreshToken.rows ↔ r ∈ w.root.refreshToken.rows)
  denied : ∃ d ∈ w'.root.ipDenylist.rows, d.ip = p
  kept : ∀ d ∈ w.root.ipDenylist.rows, d ∈ w'.root.ipDenylist.rows
  alerted : ∃ u' ∈ w'.root.user.rows, u'.id = u.id ∧
    ∃ token, (∃ n, w.draws ≤ n ∧ token = env.uuidv4 n) ∧
      u'.resetPasswordToken = some token ∧
      u'.resetPasswordExpires = some (w.now + minutes 30) ∧
      w'.mails = w.mails ++ [{ mailTo := u.email, userName := u.name, suspiciousIp := some p
                               resetToken := token, expireMinutes := 30, locationText := l }]

/-- The response is never complete: without a user whose id is the address it throws,
and with one the mail carries the location for the address and no location. -/
theorem theft_response_never_complete (u : User) (p : String) (l : Option String) (w' : World) :
    ¬ Complete env w u p l w' := by
  intro h
  have hrun := h.finishes
  by_cases hp : ∃ v ∈ w.root.user.rows, v.id = p
  · obtain ⟨v, hv, rfl⟩ := hp
    rw [run_theft_found env w l hv] at hrun
    dsimp only at hrun
    split at hrun
    · cases hrun
      obtain ⟨-, -, -, token, -, -, -, hmails⟩ := h.alerted
      have hmail := List.singleton_inj.mp (List.append_cancel_left hmails)
      have hip : l = some v.id := congrArg SecurityAlertEmail.suspiciousIp hmail
      have hloc : none = l := congrArg SecurityAlertEmail.locationText hmail
      rw [← hloc] at hip
      cases hip
    · cases hrun
  · have hmiss : ∀ v ∈ w.root.user.rows, v.id ≠ p := fun v hv he => hp ⟨v, hv, he⟩
    rw [run_theft_missing env w _ l hmiss] at hrun
    cases hrun

/-- A refresh token issued to an address. -/
def victimRow : RefreshToken :=
  { token := "ea7e6a64", userId := User.sample.id, isValid := true, ip := some "::1", expiresAt := 9000 }

def victimWorld : World :=
  .start 1000 { Db.empty with
    user := .singleton User.sample, refreshToken := .singleton victimRow }

/-- The response to a foreign address throws instead of alerting the victim. -/
theorem theft_response_throws :
    ¬ ∃ w', Complete Env.sample victimWorld User.sample "2.2.2.2" none w' := by
  rintro ⟨w', h⟩
  have hmiss : ∀ v ∈ victimWorld.root.user.rows, v.id ≠ "2.2.2.2" := by decide
  have hrun := h.finishes
  rw [run_theft_missing Env.sample victimWorld _ none hmiss] at hrun
  cases hrun

/-- The record that the refresh handler consults. -/
inductive Consulted where
  | cached (value : CacheValue)
  | row (record : RefreshToken)

def Consulted.ip : Consulted → Option String
  | .cached (.payload p) => some p.ip
  | .cached (.text _) => none
  | .row r => r.ip

def Consulted.userId : Consulted → Option String
  | .cached value => value.id?
  | .row r => some r.userId

/-- The row that the handler reads on a cache miss. -/
def consultedRow (refreshToken : Arg) : Option Consulted :=
  match whereString env false refreshToken with
  | .ok filter => (w.root.findValidRefreshToken filter w.now).map .row
  | .error _ => none

def consulted (cmd : UpdateRefreshAccessTokenCommand) : Option Consulted :=
  match w.redis.find? w.now (refreshKey cmd.clientCode cmd.userId cmd.refreshToken.text) with
  | some value => if value.truthy then some (.cached value) else consultedRow env w cmd.refreshToken
  | none => consultedRow env w cmd.refreshToken

/-- A refusal that leaves the cache alone, and that invalidates the rows of the
command's user when the record is that user's. -/
def Refused (cmd : UpdateRefreshAccessTokenCommand) (record : Consulted)
    (r : EStateM.Result Exn World String) : Prop :=
  ∃ e w', r = .error e w' ∧ w'.redis = w.redis ∧
    (record.userId = some cmd.userId →
      ∀ row ∈ w'.root.refreshToken.rows, row.userId = cmd.userId → row.isValid = false)

variable {env w}

theorem refused_of_theft (cmd : UpdateRefreshAccessTokenCommand) (record : Consulted) :
    Refused w cmd record (.error recordNotFound
      { reported w cmd.userId cmd.ip none with draws := w.draws + 1 }) :=
  ⟨_, _, rfl, rfl, fun _ _ hrow hu => Db.invalid_of_mem_invalidate hrow hu⟩

theorem refused_of_other_user (cmd : UpdateRefreshAccessTokenCommand) (record : Consulted)
    (h : record.userId ≠ some cmd.userId) (e : Exn) : Refused w cmd record (.error e w) :=
  ⟨e, w, rfl, rfl, fun hu => absurd hu h⟩

theorem refreshFromCache_refused {cmd : UpdateRefreshAccessTokenCommand} {value : CacheValue}
    (hids : ∀ u ∈ w.root.user.rows, u.id ≠ cmd.ip)
    (hip : (Consulted.cached value).ip ≠ some cmd.ip) :
    Refused w cmd (.cached value) ((refreshFromCache env cmd value).run w) := by
  cases value with
  | text s => exact refused_of_other_user cmd _ (by simp [Consulted.userId, CacheValue.id?]) _
  | payload record =>
    by_cases hid : record.id = cmd.userId
    · have hne : record.ip ≠ cmd.ip := fun h => hip (by simp [Consulted.ip, h])
      have hrun := run_theft_missing env w cmd.userId none hids
      simpa [refreshFromCache, hid, hne, hrun] using refused_of_theft cmd _
    · have hout := refused_of_other_user (w := w) cmd
        (.cached (.payload record)) (by simpa [Consulted.userId, CacheValue.id?] using hid)
        invalidRefreshToken
      simpa [refreshFromCache, hid] using hout

theorem refreshFromDb_refused {cmd : UpdateRefreshAccessTokenCommand} {record : Consulted}
    (hids : ∀ u ∈ w.root.user.rows, u.id ≠ cmd.ip)
    (hrec : consultedRow env w cmd.refreshToken = some record) (hip : record.ip ≠ some cmd.ip) :
    Refused w cmd record ((refreshFromDb env cmd).run w) := by
  unfold consultedRow at hrec
  cases hf : whereString env false cmd.refreshToken with
  | error e => rw [hf] at hrec; cases hrec
  | ok filter =>
    rw [hf] at hrec
    obtain ⟨row, hrow, rfl⟩ := Option.map_eq_some_iff.mp hrec
    have hne : row.ip ≠ some cmd.ip := hip
    by_cases hid : row.userId = cmd.userId
    · have hrun := run_theft_missing env w cmd.userId none hids
      simpa [refreshFromDb, findValidRefreshToken, hf, hrow, Except.map, hid, hne, hrun] using
        refused_of_theft cmd _
    · have hout := refused_of_other_user (w := w) cmd (.row row)
        (by simpa [Consulted.userId] using hid) invalidRefreshToken
      simpa [refreshFromDb, findValidRefreshToken, hf, hrow, Except.map, hid] using hout

/-- A refresh command from an address that is not the one of the consulted record gets
no access token, and no cache entry is written; when the record is the user's own, all
root rows of that user are invalid afterwards. No user id may be the address itself. -/
theorem foreign_ip_refused (env : Env) (w : World) (cmd : UpdateRefreshAccessTokenCommand)
    (record : Consulted) (hids : ∀ u ∈ w.root.user.rows, u.id ≠ cmd.ip)
    (hrec : consulted env w cmd = some record) (hip : record.ip ≠ some cmd.ip) :
    Refused w cmd record ((updateRefreshAccessToken env cmd).run w) := by
  unfold consulted at hrec
  cases hc : w.redis.find? w.now (refreshKey cmd.clientCode cmd.userId cmd.refreshToken.text) with
  | none =>
    rw [hc] at hrec
    simpa [updateRefreshAccessToken, getRefreshTokenCache, cacheGet, hc] using
      refreshFromDb_refused hids hrec hip
  | some value =>
    rw [hc] at hrec
    by_cases ht : value.truthy = true
    · simp only [ht, if_true, Option.some.injEq] at hrec
      subst hrec
      simpa [updateRefreshAccessToken, getRefreshTokenCache, cacheGet, hc, ht] using
        refreshFromCache_refused hids hip
    · simp only [ht] at hrec
      simpa [updateRefreshAccessToken, getRefreshTokenCache, cacheGet, hc, ht] using
        refreshFromDb_refused hids hrec hip

def foreignCommand : UpdateRefreshAccessTokenCommand :=
  { clientCode := "root", userId := User.sample.id, refreshToken := .string "ea7e6a64", ip := "2.2.2.2" }

theorem foreign_ip_refused_sample :
    Refused victimWorld foreignCommand (.row victimRow)
      ((updateRefreshAccessToken Env.sample foreignCommand).run victimWorld) :=
  foreign_ip_refused Env.sample victimWorld foreignCommand (.row victimRow) (by decide) (by rfl)
    (by decide)

end NestUserService.Auth.TokenTheft
