import NestUserService.Lib.Json
import NestUserService.Auth.MailToSession
import NestUserService.Auth.GoogleSignIn
import NestUserService.Auth.EnrolledUsers

/-!
# The way through Google and back

`GET /users/auth/google` sends the browser to Google with the role and the client code in
the `state`; the callback reads them back and signs the owner of the profile in. The two
exchanges with Google are an argument of the callback.

Both routes stand behind the tenant middleware and need its header, also the one that Google
redirects the browser to.
-/

namespace NestUserService.Auth.GoogleOAuth

open Lib NestUserService.Core Shared AuditTrail IssuedPayload
open Tenant (Client)
open MailToSession (FreshDraws Session login_opens)

structure AuthenticateOptions where
  scope : List String
  state : String

def requiredValueMissing : Exn := .badRequest "필수값 누락"

/-- JavaScript truth of a value of a parsed query, which is a text, an array or an object. -/
def isTruthyQuery : Json → Bool
  | .str s => !s.isEmpty
  | .arr _ => true
  | .obj _ => true
  | _ => false

/-- `JSON.stringify({ role, clientCode })`. -/
def stateOf (role clientCode : Json) : String :=
  String.ofList (Json.obj [("role".toList, role), ("clientCode".toList, clientCode)]).stringify

/-- `GoogleLoginGuard.getAuthenticateOptions`. -/
def getAuthenticateOptions (query : Json) : Except Exn AuthenticateOptions :=
  match (query.get? "role".toList).filter isTruthyQuery,
    (query.get? "clientCode".toList).filter isTruthyQuery with
  | some role, some clientCode => .ok ⟨["email", "profile"], stateOf role clientCode⟩
  | _, _ => .error requiredValueMissing

/-- `GET /users/auth/google`, behind the tenant middleware. -/
def googleLogin (req : Request) (query : Json) : Except Exn AuthenticateOptions :=
  match tenantMiddleware (accessTokenMiddleware req) with
  | .error e => .error e
  | .ok _ => getAuthenticateOptions query

structure Profile where
  displayName : String
  emails : Option (List String)
  photos : Option (List String)

structure GoogleUser where
  email : String
  name : String
  picture : String
  accessToken : String

/-- Reading a property of `undefined`. -/
def undefinedProperty (property : String) : Exn :=
  .typeError ("Cannot read properties of undefined (reading '" ++ property ++ "')")

/-- `values[0].value`. -/
def firstValue : Option (List String) → Except Exn String
  | none => .error (undefinedProperty "0")
  | some [] => .error (undefinedProperty "value")
  | some (value :: _) => .ok value

/-- `GoogleStrategy.validate`. -/
def validateProfile (accessToken : String) (profile : Profile) : Except Exn GoogleUser := do
  let email ← firstValue profile.emails
  let picture ← firstValue profile.photos
  return { email, name := profile.displayName, picture, accessToken }

/-- A value of a JSON text as a request field. -/
def argOf : Option Json → Arg
  | none => .undefined
  | some .null => .null
  | some (.str s) => .string (String.ofList s)
  | some (.obj members) => .object (String.ofList (Json.obj members).stringify)
  | some v => .other (String.ofList v.toText)

/-- Every `SyntaxError` of `JSON.parse`; its text depends on the engine. -/
def invalidJson : Exn := .error "SyntaxError"

/-- `const { role, clientCode } = JSON.parse(stateRaw)`; nothing reads the role. -/
def clientCodeOf (stateRaw : Option String) : Except Exn Arg :=
  match stateRaw.bind fun s => Json.parse s.toList with
  | none => .error invalidJson
  | some .null =>
    .error (.typeError "Cannot destructure property 'role' of 'JSON.parse(...)' as it is null.")
  | some v => .ok (argOf (v.get? "clientCode".toList))

/-- `AuthController.googleLoginCallback`. -/
def googleLoginCallback (env : LoginEnv) (user : GoogleUser) (stateRaw : Option String)
    (ip : String) : App LoginResponse :=
  match clientCodeOf stateRaw with
  | .error e => throw e
  | .ok clientCode =>
    googleSocialCreateOrLogin env { email := user.email, name := user.name, ip, clientCode }

/-- `GET /users/auth/google/callback`, behind the tenant middleware and `GoogleAuthGuard`:
what Google gives for the code of the request is an access token with a profile. -/
def callback (env : LoginEnv) (req : Request) (stateRaw : Option String)
    (exchange : Except Exn (String × Profile)) : App LoginResponse :=
  match tenantMiddleware (accessTokenMiddleware req) with
  | .error e => throw e
  | .ok req =>
    match exchange.bind fun p => validateProfile p.1 p.2 with
    | .error e => throw e
    | .ok user => googleLoginCallback env user stateRaw req.ip

section State

variable {env : LoginEnv} {req : Request} {query : Json} {options : AuthenticateOptions}
  {user : GoogleUser} {accessToken : String} {profile : Profile}

theorem clientCodeOf_stateOf (role clientCode : Json) :
    clientCodeOf (some (stateOf role clientCode)) = .ok (argOf (some clientCode)) := by
  have hget : (Json.obj [("role".toList, role), ("clientCode".toList, clientCode)]).get?
      "clientCode".toList = some clientCode := by
    simp [Json.get?]
  simp only [clientCodeOf, stateOf, Option.bind_some, String.toList_ofList, Json.parse_stringify,
    hget]

theorem getAuthenticateOptions_ok (h : getAuthenticateOptions query = .ok options) :
    ∃ role clientCode, query.get? "clientCode".toList = some clientCode ∧
      isTruthyQuery clientCode = true ∧ options.state = stateOf role clientCode := by
  unfold getAuthenticateOptions at h
  split at h
  · rename_i role clientCode _ hcode
    obtain ⟨hget, htruthy⟩ := Option.filter_eq_some_iff.mp hcode
    cases h
    exact ⟨role, clientCode, hget, htruthy, rfl⟩
  · cases h

theorem googleLogin_ok (h : googleLogin req query = .ok options) :
    getAuthenticateOptions query = .ok options := by
  unfold googleLogin at h
  split at h
  · cases h
  · exact h

theorem accessTokenMiddleware_keeps (req : Request) :
    (accessTokenMiddleware req).originalUrl = req.originalUrl ∧
      (accessTokenMiddleware req).xTenantId = req.xTenantId ∧
      (accessTokenMiddleware req).ip = req.ip := by
  unfold accessTokenMiddleware
  split
  · exact ⟨rfl, rfl, rfl⟩
  · split
    · split <;> exact ⟨rfl, rfl, rfl⟩
    · exact ⟨rfl, rfl, rfl⟩

/-- With a tenant header, the middlewares let a request through and keep its address. -/
theorem tenantMiddleware_ok (h : truthy req.xTenantId = true) :
    ∃ req', tenantMiddleware (accessTokenMiddleware req) = .ok req' ∧ req'.ip = req.ip := by
  obtain ⟨-, htenant, hip⟩ := accessTokenMiddleware_keeps req
  unfold tenantMiddleware
  rw [htenant, h]
  split
  · exact ⟨_, rfl, hip⟩
  · exact ⟨_, rfl, hip⟩

variable (env) in
/-- Without one, both routes answer with the refusal of the middleware. -/
theorem refused_without_header (hurl : req.originalUrl ≠ "/favicon.ico")
    (h : truthy req.xTenantId = false) (query : Json) (stateRaw : Option String)
    (exchange : Except Exn (String × Profile)) :
    googleLogin req query = .error tenantHeaderMissing ∧
      callback env req stateRaw exchange = throw tenantHeaderMissing := by
  obtain ⟨hkept, htenant, -⟩ := accessTokenMiddleware_keeps req
  have hmissing : tenantMiddleware (accessTokenMiddleware req) = .error tenantHeaderMissing := by
    unfold tenantMiddleware
    rw [htenant, h, hkept, if_neg hurl]
    rfl
  constructor
  · simp only [googleLogin, hmissing]
  · simp only [callback, hmissing]

theorem callback_eq (h : truthy req.xTenantId = true)
    (hprofile : validateProfile accessToken profile = .ok user) (role clientCode : Json) :
    callback env req (some (stateOf role clientCode)) (.ok (accessToken, profile)) =
      googleSocialCreateOrLogin env
        { email := user.email, name := user.name, ip := req.ip
          clientCode := argOf (some clientCode) } := by
  obtain ⟨req', hreq, hip⟩ := tenantMiddleware_ok h
  have hexchange : (Except.ok (accessToken, profile) : Except Exn (String × Profile)).bind
      (fun p => validateProfile p.1 p.2) = .ok user := hprofile
  simp only [callback, hreq, hexchange, googleLoginCallback, clientCodeOf_stateOf, hip]

/-- Whatever client code a redirect was made with, a text, an array or an object, however
nested: the callback goes on with that code. -/
theorem state_carries_client_code (env : LoginEnv) {req' : Request}
    (hlogin : googleLogin req query = .ok options) (hheader : truthy req'.xTenantId = true)
    (hprofile : validateProfile accessToken profile = .ok user) :
    ∃ clientCode, query.get? "clientCode".toList = some clientCode ∧
      isTruthyQuery clientCode = true ∧
      callback env req' (some options.state) (.ok (accessToken, profile)) =
        googleSocialCreateOrLogin env
          { email := user.email, name := user.name, ip := req'.ip
            clientCode := argOf (some clientCode) } := by
  obtain ⟨role, clientCode, hget, htruthy, hstate⟩ :=
    getAuthenticateOptions_ok (googleLogin_ok hlogin)
  refine ⟨clientCode, hget, htruthy, ?_⟩
  rw [hstate]
  exact callback_eq hheader hprofile role clientCode

end State

/-- The account that a sign-in created: verified, and of one client. -/
def SocialAccount (uid email clientId : String) (w : World) : Prop :=
  ∃ u ∈ w.root.user.rows, u.id = uid ∧ u.email = email ∧ u.clientId = some clientId ∧
    u.verified = true

theorem SocialAccount.kept {uid email clientId : String} {w w' : World}
    (h : SocialAccount uid email clientId w) (hgrown : Grown w.root w'.root) :
    SocialAccount uid email clientId w' := by
  obtain ⟨u, hu, hid, hemail, hclient, hverified⟩ := h
  obtain ⟨u', hu', hsame⟩ := hgrown.user.target hu
  exact ⟨u', hu', hsame.id.trans hid, hsame.email.trans hemail, hsame.clientId.trans hclient,
    hsame.verified hverified⟩

section SignIn

variable {env : LoginEnv} {cmd : GoogleSocialCreateOrLoginCommand} {w : World} {c : Client}

end SignIn

/-- A way through Google and back that brings an address and a client code: a redirect that
was made, and a callback with the state of that redirect and a profile of that address. -/
structure Visit (email clientCode : String) where
  request : Request
  query : Json
  options : AuthenticateOptions
  sent : googleLogin request query = .ok options
  code : query.get? "clientCode".toList = some (.str clientCode.toList)
  back : Request
  header : truthy back.xTenantId = true
  accessToken : String
  profile : Profile
  user : GoogleUser
  validated : validateProfile accessToken profile = .ok user
  address : user.email = email

namespace Visit

variable {email clientCode : String}

/-- The callback of the visit. -/
def serve (v : Visit email clientCode) (env : LoginEnv) : App LoginResponse :=
  callback env v.back (some v.options.state) (.ok (v.accessToken, v.profile))

/-- The command that the callback makes. -/
def command (v : Visit email clientCode) : GoogleSocialCreateOrLoginCommand :=
  { email, name := v.user.name, ip := v.back.ip, clientCode := .string clientCode }

end Visit

def acme : Client := .provisioned "acme"

def acmeEnv : GuardEnv := { GuardEnv.sample with client := fun _ => .singleton acme }

/-- A request with a tenant header. -/
def acmeRequest (url : String) : Request where
  originalUrl := url
  authorization := none
  xTenantId := some "acme"
  xForwardedFor := none
  ip := "10.0.0.1"

def acmeQuery : Json :=
  .obj [("role".toList, .str "ClientUser".toList), ("clientCode".toList, .str "acme".toList)]

def acmeOptions : AuthenticateOptions :=
  ⟨["email", "profile"], stateOf (.str "ClientUser".toList) (.str "acme".toList)⟩

def guestProfile : Profile := ⟨"Guest", some ["guest@example.com"], some ["photo"]⟩

def guestUser : GoogleUser := ⟨"guest@example.com", "Guest", "photo", "token"⟩

example : acmeOptions.state.toList =
    "\x7b\"role\":\"ClientUser\",\"clientCode\":\"acme\"\x7d".toList := by decide

theorem acme_code_carried : ∃ clientCode, acmeQuery.get? "clientCode".toList = some clientCode ∧
    isTruthyQuery clientCode = true ∧
    callback acmeEnv.toLoginEnv (acmeRequest "/users/auth/google/callback")
        (some acmeOptions.state) (.ok ("token", guestProfile)) =
      googleSocialCreateOrLogin acmeEnv.toLoginEnv
        { email := "guest@example.com", name := "Guest", ip := "10.0.0.1"
          clientCode := argOf (some clientCode) } :=
  @state_carries_client_code (acmeRequest "/users/auth/google") acmeQuery acmeOptions guestUser _ _
    acmeEnv.toLoginEnv _ rfl rfl rfl

end NestUserService.Auth.GoogleOAuth
