import NestUserService.Auth.CallEffects

/-!
# All calls next to each other

The handlers and services that reach the databases or the token cache, as programs of one
pool. The clock is the environment. How far a call reaches is read off its arguments.
-/

namespace NestUserService.Auth

open Lib NestUserService.Core Shared

inductive GuardedRoute where
  | generateTwoFactorQR
  | verifyTwoFactorAuth (otp ip userAgent : String)
  | updateTrustedDevice (deviceId : Arg)
  | findOne

inductive ServiceCall where
  | route (route : GuardedRoute) (req : Request)
  | loginUser (cmd : LoginUserCommand)
  | googleSocialCreateOrLogin (cmd : GoogleSocialCreateOrLoginCommand)
  | login2faTrustedDeviceReg (cmd : Login2faTrustedDeviceRegCommand)
  | verifyTwoFactorOtp (cmd : VerifyTwoFactorOtpCommand)
  | verifyGenerateTwoFactorQr (cmd : VerifyGenerateTwoFactorQrCommand)
  | updateRefreshAccessToken (cmd : UpdateRefreshAccessTokenCommand)
  | updateResetPasswordRequest (cmd : UpdateResetPasswordRequestCommand)
  | updateResetPasswordConfirm (cmd : UpdateResetPasswordConfirmCommand)
  | verifyUserEmail (cmd : VerifyUserEmailCommand)
  | validate (req : Request) (payload : JwtPayload)
  | login (user : UserInfo) (ip : String) (deviceToken userAgent : Option String)
  | tenantLogin (clientCode : String) (user : UserInfo) (ip : String)
      (deviceToken userAgent : Option String)
  | refreshTokens (createdAt : String → String) (refreshToken ip : String)
  | revokeRefreshToken (refreshToken : String)
  | handleTokenTheft (userId suspiciousIp : String) (locationText : Option String)
  | tenantHandleTokenTheft (clientCode userId : String) (suspiciousIp locationText : Option String)

/-- What a call answers. -/
inductive Reply where
  | tokens (response : LoginResponse)
  | text (text : String)
  | reset (message : String) (event : ResetPasswordEvent)
  | image (data : List UInt8)
  | user (value : CacheValue)
  | info (user : User) (client : Tenant.Client)
  | done

/-- The handler of a route, for the user object that the guard has put into the request. -/
def GuardedRoute.handler (env : GuardEnv) (req : Request) (user : CacheValue) :
    GuardedRoute → App Reply
  | generateTwoFactorQR => do
    return .image (← verifyGenerateTwoFactorQr env.toTwoFactorEnv (qrCommand user))
  | verifyTwoFactorAuth otp ip userAgent => do
    return .text (← Auth.verifyTwoFactorAuth env user otp ip userAgent)
  | updateTrustedDevice deviceId => do
    return .text (← Auth.updateTrustedDevice env req user deviceId)
  | findOne => do
    let (user, client) ← Auth.findOne env user
    return .info user client

/-- A request to a guarded route: both middlewares, the guard, and the handler. -/
def GuardedRoute.serve (env : GuardEnv) (route : GuardedRoute) (req : Request) : App Reply :=
  match tenantMiddleware (accessTokenMiddleware req) with
  | .error e => throw e
  | .ok req => do
    let user ← jwtAuthGuard env req
    route.handler env req user

/-- The namespace of the tenant header; a refused request reaches nothing. -/
def Reach.ofRoute (req : Request) : Reach where
  databases _ := False
  namespaces c := ∃ req', tenantMiddleware (accessTokenMiddleware req) = .ok req' ∧
    c = req'.tenantId.getD "undefined"

theorem contained_handler {env : GuardEnv} {S : Reach} (r : GuardedRoute) (req : Request)
    (user : CacheValue) (hc : S.namespaces (req.tenantId.getD "undefined")) :
    Contained (PlainErrors env.toTwoFactorEnv) S (r.handler env req user) := by
  cases r with
  | generateTwoFactorQR => exact (contained_generateQr PlainErrors.toBuffer _).bind fun _ => .pure _
  | verifyTwoFactorAuth otp ip ua =>
    exact (contained_verifyTwoFactorAuth env user otp ip ua).bind fun _ => .pure _
  | updateTrustedDevice deviceId => exact (contained_refresh _ _ hc).bind fun _ => .pure _
  | findOne => exact (contained_findOne env user).bind fun _ => .pure _

theorem contained_serve (env : GuardEnv) (r : GuardedRoute) (req : Request) :
    Contained (PlainErrors env.toTwoFactorEnv) (.ofRoute req) (r.serve env req) := by
  unfold GuardedRoute.serve
  cases h : tenantMiddleware (accessTokenMiddleware req) with
  | error e =>
    rw [tenantMiddleware_error h]
    exact .refuse (by simp [httpExceptions])
  | ok req' =>
    have hc : (Reach.ofRoute req).namespaces (req'.tenantId.getD "undefined") := ⟨req', h, rfl⟩
    exact (contained_jwtAuthGuard env req' hc).bind fun user => contained_handler r req' user hc

namespace ServiceCall

def program (env : GuardEnv) : ServiceCall → App Reply
  | route r req => r.serve env req
  | loginUser cmd => do return .tokens (← Auth.loginUser env.toLoginEnv cmd)
  | googleSocialCreateOrLogin cmd => do
    return .tokens (← Auth.googleSocialCreateOrLogin env.toLoginEnv cmd)
  | login2faTrustedDeviceReg cmd => do
    return .tokens (← Auth.login2faTrustedDeviceReg env.toEnv cmd)
  | verifyTwoFactorOtp cmd => do return .text (← Auth.verifyTwoFactorOtp env.toEnv cmd)
  | verifyGenerateTwoFactorQr cmd => do
    return .image (← Auth.verifyGenerateTwoFactorQr env.toTwoFactorEnv cmd)
  | updateRefreshAccessToken cmd => do
    return .text (← Auth.updateRefreshAccessToken env.toEnv cmd)
  | updateResetPasswordRequest cmd => do
    let (message, event) ← Auth.updateResetPasswordRequest env.toLoginEnv cmd
    return .reset message event
  | updateResetPasswordConfirm cmd => do
    return .text (← Auth.updateResetPasswordConfirm env.toEnv cmd)
  | verifyUserEmail cmd => do return .tokens (← Auth.verifyUserEmail env.toEnv cmd)
  | validate req payload => do return .user (← Auth.validate env.toEnv req payload)
  | login user ip d ua => do return .tokens (← Auth.login env.toEnv user ip d ua)
  | tenantLogin c user ip d ua => do return .tokens (← Auth.tenantLogin env.toEnv c user ip d ua)
  | refreshTokens createdAt t ip => do
    return .tokens (← Auth.refreshTokens env.toEnv createdAt t ip)
  | revokeRefreshToken t => do
    Auth.revokeRefreshToken t
    return .done
  | handleTokenTheft u ip loc => do
    Auth.handleTokenTheft env.toEnv u ip loc
    return .done
  | tenantHandleTokenTheft c u ip loc => do
    Auth.tenantHandleTokenTheft env.toEnv c u ip loc
    return .done

/-- A tenant login reaches two databases when it checks a device: the one of its client
code, and the one whose code is the id of the user. -/
def reach (env : GuardEnv) : ServiceCall → Reach
  | route _ req => .ofRoute req
  | updateRefreshAccessToken cmd => .cache cmd.clientCode
  | verifyUserEmail cmd =>
    { databases c := decryptClientCode env.toEnv cmd.encryptedClientCode = .ok c
      namespaces c := decryptClientCode env.toEnv cmd.encryptedClientCode = .ok c }
  | validate req _ => .cache (req.tenantId.getD "undefined")
  | tenantLogin c user _ d _ =>
    { databases c' := c' = c ∨
        user.isTwoFactorEnabled = true ∧ truthy d = true ∧ c' = user.id
      namespaces c' := c' = c }
  | tenantHandleTokenTheft c _ _ _ => { databases c' := c' = c, namespaces _ := False }
  | _ => .root

/-- The steps of a call stay in its reach, and its exceptions are listed. -/
theorem contained (env : GuardEnv) (call : ServiceCall) :
    Contained (PlainErrors env.toTwoFactorEnv) (call.reach env) (call.program env) := by
  cases call with
  | route r req => exact contained_serve env r req
  | loginUser cmd => exact (contained_loginUser _ rfl cmd).bind fun _ => .pure _
  | googleSocialCreateOrLogin cmd => exact (contained_google _ rfl cmd).bind fun _ => .pure _
  | login2faTrustedDeviceReg cmd => exact (contained_login2fa _ rfl cmd).bind fun _ => .pure _
  | verifyTwoFactorOtp cmd => exact (contained_verifyOtp _ cmd).bind fun _ => .pure _
  | verifyGenerateTwoFactorQr cmd =>
    exact (contained_generateQr PlainErrors.toBuffer cmd).bind fun _ => .pure _
  | updateRefreshAccessToken cmd => exact (contained_refresh _ cmd rfl).bind fun _ => .pure _
  | updateResetPasswordRequest cmd => exact (contained_resetRequest _ cmd).bind fun _ => .pure _
  | updateResetPasswordConfirm cmd => exact (contained_resetConfirm _ cmd).bind fun _ => .pure _
  | verifyUserEmail cmd =>
    exact (contained_verifyUserEmail _ cmd PlainErrors.aesDecrypt fun c h => ⟨h, h⟩).bind fun _ => .pure _
  | validate req payload => exact (contained_validate _ req payload rfl).bind fun _ => .pure _
  | login user ip d ua => exact (contained_login _ rfl user ip d ua).bind fun _ => .pure _
  | tenantLogin c user ip d ua =>
    refine (contained_tenantLogin env.toEnv (Or.inl rfl) rfl user ip d ua fun htwo hd => ?_).bind
      fun _ => .pure _
    exact Or.inr ⟨htwo, hd, rfl⟩
  | refreshTokens createdAt t ip =>
    exact (contained_refreshTokens _ rfl createdAt t ip).bind fun _ => .pure _
  | revokeRefreshToken t => exact (contained_revoke t).bind fun _ => .pure _
  | handleTokenTheft u ip loc => exact (contained_theft _ u ip loc).bind fun _ => .pure _
  | tenantHandleTokenTheft c u ip loc =>
    exact (contained_tenantTheft env.toEnv rfl u ip loc).bind fun _ => .pure _

end ServiceCall

section Pool

variable {ι : Type} [DecidableEq ι]

/-- The calls before their first steps. -/
def ServiceCall.pool (env : GuardEnv) (calls : ι → ServiceCall) (w : World) :
    Threads World Exn Reply ι :=
  ⟨w, fun i => (calls i).program env⟩

/-- Any order of steps, with time passing in between. -/
abbrev Interleaved : Threads World Exn Reply ι → Threads World Exn Reply ι → Prop :=
  Threads.Runs (Elapses fun _ => True) fun _ _ => True

/-- The calls of the pool keep to one reach. -/
def Keeps (env : GuardEnv) (S : Reach) (p : Threads World Exn Reply ι) : Prop :=
  p.Conduct (fun _ => True) (fun _ => Effect S) (fun _ _ => True)
    fun _ => Listed (PlainErrors env.toTwoFactorEnv)

omit [DecidableEq ι] in
theorem ServiceCall.keeps (env : GuardEnv) (calls : ι → ServiceCall) (w : World) {S : Reach}
    (hS : ∀ i, S.Includes ((calls i).reach env)) : Keeps env S (ServiceCall.pool env calls w) :=
  fun i => Contained.mono ((calls i).contained env) (hS i)

/-- What every effect and the clock relate is related along every interleaving, and the
calls keep to their reach. -/
theorem Keeps.interleaved {env : GuardEnv} {S : Reach} {R : World → World → Prop}
    {p p' : Threads World Exn Reply ι} (h : Keeps env S p) (hrun : Interleaved p p')
    (hrefl : ∀ w, R w w) (htrans : ∀ w v u, R w v → R v u → R w u)
    (hclock : ∀ w t, R w { w with now := t }) (heffect : ∀ w w', Effect S w w' → R w w') :
    R p.state p'.state ∧ Keeps env S p' := by
  have hrelated := Threads.Conduct.runs h hrun trivial (fun _ _ _ _ => trivial)
    (fun _ _ _ _ _ => trivial) hrefl htrans (fun w w' he => ?_) fun _ w w' _ => heffect w w'
  · exact ⟨hrelated.1, hrelated.2.2⟩
  · obtain ⟨t, rfl, -⟩ := he
    exact hclock w t

/-- Everything is in this reach. -/
def Reach.all : Reach := ⟨fun _ => True, fun _ => True⟩

omit [DecidableEq ι] in
theorem ServiceCall.keeps_all (env : GuardEnv) (calls : ι → ServiceCall) (w : World) :
    Keeps env .all (ServiceCall.pool env calls w) :=
  ServiceCall.keeps env calls w fun _ => ⟨fun _ _ => trivial, fun _ _ => trivial⟩

/-- The calls still keep to their reach at any later time. -/
theorem ServiceCall.still_keeps {env : GuardEnv} {calls : ι → ServiceCall} {w : World}
    {p : Threads World Exn Reply ι} (hp : Interleaved (ServiceCall.pool env calls w) p) :
    Keeps env .all p :=
  ((ServiceCall.keeps_all env calls w).interleaved (R := fun _ _ => True) hp (fun _ => trivial)
    (fun _ _ _ _ _ => trivial) (fun _ _ => trivial) fun _ _ _ => trivial).2

/-- Whatever else runs, a failed call is answered with one of the fixed responses: an error
of Prisma, or of any other package, is not shown. -/
theorem failed_call_response (env : GuardEnv) (calls : ι → ServiceCall) (w : World)
    (henv : PlainErrors env.toTwoFactorEnv) {p : Threads World Exn Reply ι}
    (hp : Interleaved (ServiceCall.pool env calls w) p) {i : ι} {e : Exn}
    (hfail : p.rest i = .fail e) :
    httpExceptionFilter e ∈ internalServerError :: httpExceptions.map httpExceptionFilter := by
  have hkeeps := ServiceCall.still_keeps hp
  cases hhttp : e.isHttp with
  | true =>
    have hlisted : e ∈ httpExceptions := hkeeps.failed hfail henv hhttp
    exact List.mem_cons_of_mem _ (List.mem_map_of_mem hlisted)
  | false =>
    rw [filter_of_not_http hhttp]
    exact List.mem_cons_self

end Pool

def forgedRequest : Request := bearerRequest "forged" rootLoginClientCacheValue "::1"

def loginAndForgery : Bool → ServiceCall
  | false => .login (User.info User.sample) "::1" none none
  | true => .route .findOne forgedRequest

theorem plainErrors_sample : PlainErrors TwoFactorEnv.sample where
  aesDecrypt _ _ _ h := by cases h
  toBuffer _ _ h := by cases h

theorem forged_token_response : httpExceptionFilter invalidToken ∈
    internalServerError :: httpExceptions.map httpExceptionFilter :=
  failed_call_response .sample loginAndForgery World.sample plainErrors_sample
    (Threads.schedule_runs _ (fun _ _ => True) [false, true, false] _) (i := true) (by rfl)

end NestUserService.Auth
