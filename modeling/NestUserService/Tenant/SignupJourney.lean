import NestUserService.Auth.MailToSession
import NestUserService.Email.Mails
import NestUserService.Tenant.CompletedSignup

/-!
# From a sign-up to a session

The handlers of a sign-up share their host with others, and publish an event for a mail. The
form in the mail leads to the verify route, which works on the database that the handlers
have filled.
-/

namespace NestUserService.Tenant.SignupJourney

open Lib NestUserService.Core SignupLedger CompletedSignup SingleAdmin
open Auth.VerificationLink Auth.MailToSession
open Email (UserEvent link)

section Link

variable {aes : Aes256Cbc} {secretKey c encrypted : String} {iv : List UInt8}

/-- The handlers encrypt client codes with this cipher and key, for the IVs that are drawn. -/
structure Enciphers (config : Config) (aes : Aes256Cbc) (secretKey : String)
    (iv : Nat → List UInt8) : Prop where
  inverts : aes.Inverts
  key : (utf8 secretKey).length = 32
  length : ∀ n, (iv n).length = 16
  encrypt : ∀ c encrypted n, config.encryptClientCode c = .ok encrypted →
    encryptClientCode aes secretKey (iv n) c = .ok (encrypted n)

theorem digits_encrypted (hkey : (utf8 secretKey).length = 32) (hiv : iv.length = 16)
    (h : encryptClientCode aes secretKey iv c = .ok encrypted) :
    ∀ d ∈ encrypted.toList, Hex.IsDigit d ∨ d = '-' ∨ d = ':' := by
  rw [encryptClientCode_eq hkey hiv, Except.ok.injEq] at h
  rw [← h, String.toList_ofList]
  exact cipher_digits c

theorem digits_token {token : String} (h : UuidText token) :
    ∀ d ∈ token.toList, Hex.IsDigit d ∨ d = '-' ∨ d = ':' :=
  fun d hd => (h d hd).imp id Or.inl

theorem notMem_quote_url {token : String}
    (hcode : ∀ d ∈ encrypted.toList, Hex.IsDigit d ∨ d = '-' ∨ d = ':')
    (htoken : ∀ d ∈ token.toList, Hex.IsDigit d ∨ d = '-' ∨ d = ':') :
    '"' ∉ (verificationUrl encrypted token).toList := by
  have hpath : '"' ∉ verifyPath := by decide
  have hname : '"' ∉ "signupVerifyToken".toList := by decide
  have hname' : '"' ∉ "code".toList := by decide
  have hc : '"' ∉ encrypted.toList := notMem_hex (by decide) hcode (by decide) (by decide)
  have ht : '"' ∉ token.toList := notMem_hex (by decide) htoken (by decide) (by decide)
  rw [toList_verificationUrl]
  unfold linkFields
  rw [QueryString.render_two]
  simp only [List.mem_append, List.mem_cons, hpath, hname, hname', hc, ht, false_or, or_false,
    not_or]
  decide

theorem decrypt_encrypted (env : Env) (haes : aes.Inverts) (hkey : (utf8 secretKey).length = 32)
    (hiv : iv.length = 16) (h : encryptClientCode aes secretKey iv c = .ok encrypted) :
    Auth.decryptClientCode (withCipher env aes secretKey) (.string encrypted) = .ok c := by
  rw [encryptClientCode_eq hkey hiv, Except.ok.injEq] at h
  have hpieces : encrypted.toList.splitOn ':' = [Hex.encode iv, cipherText aes secretKey iv c] := by
    have hnone : ':' ∉ Hex.encode iv := Hex.notMem_encode (by decide) iv
    have hnone' : ':' ∉ cipherText aes secretKey iv c := Hex.notMem_encode (by decide) _
    rw [← h, String.toList_ofList, List.splitOn_append_cons_self, List.splitOn_eq_singleton hnone,
      List.splitOn_eq_singleton hnone']
    rfl
  unfold Auth.decryptClientCode
  dsimp only
  rw [hpieces]
  exact decryptPieces_cipherText haes hkey hiv c

/-- What the server reads from the form that is mailed to an announced user. -/
theorem link_of_announced {config : Config} {iv : Nat → List UInt8} {env : Env} {user : User}
    {s : Host} (hcipher : Enciphers config aes secretKey iv)
    (htoken : UuidText user.signupVerifyToken) (h : Announced config c user s) :
    ∃ event ∈ s.published, (UserEvent.userCreated event).handle.mailTo = user.email ∧
      ∃ url, link "action" (UserEvent.userCreated event).handle = some url ∧
        (queryFields url).get "signupVerifyToken" = .string user.signupVerifyToken ∧
        Auth.decryptClientCode (withCipher env aes secretKey) ((queryFields url).get "code") =
          .ok c := by
  obtain ⟨encrypted, n, henc, hmem⟩ := h
  have hencrypted := hcipher.encrypt c encrypted n henc
  have hcode := digits_encrypted hcipher.key (hcipher.length n) hencrypted
  have hdigits := digits_token htoken
  have hlink := Email.link_handle (.userCreated ⟨user.email, encrypted n, user.signupVerifyToken⟩)
    (notMem_quote_url hcode hdigits)
  have hfields : queryFields (verificationUrl (encrypted n) user.signupVerifyToken) =
      [("signupVerifyToken", .string user.signupVerifyToken), ("code", .string (encrypted n))] :=
    queryFields_verificationUrl (plain_of_digits hcode) (plain_of_digits hdigits)
  refine ⟨_, hmem, rfl, _, hlink, ?_, ?_⟩
  · exact congrArg (fun fields : Fields => fields.get "signupVerifyToken") hfields
  · refine Eq.trans (congrArg (fun fields : Fields => Auth.decryptClientCode
      (withCipher env aes secretKey) (fields.get "code")) hfields) ?_
    exact decrypt_encrypted env hcipher.inverts hcipher.key (hcipher.length n) hencrypted

end Link

/-- The service works on the users that the host has for the code. -/
structure Serves (env : Env) (config : Config) (c : String) (s : Host) (w : World) (db : Db) :
    Prop where
  tenant : w.tenants c = some db
  users : db.user.rows = users config c s
  draws : FreshDraws env w.draws db

variable {ι : Type} [DecidableEq ι] {config : Config} {calls : ι → HostCall} {s : Host}
  {guard : Threads Host Exn Unit ι → ι → Prop} {p : Threads Host Exn Unit ι}

/-- For a sign-up that has returned, next to whatever others, an event is published whose
mail goes to the address of the command. The form in it verifies the user and opens a
session. -/
theorem returned_signup_opens
    (hp : Threads.Runs (Meanwhile config) guard (HostCall.pool config calls s) p)
    (ht : Tied config (Set.range fun i => (calls i).clientCode) s) {i : ι} {signup : Signup}
    (hi : calls i = .signup signup) (hret : p.rest i = .ret ())
    {aes : Aes256Cbc} {secretKey : String} {iv : Nat → List UInt8}
    (hcipher : Enciphers config aes secretKey iv) (huuid : ∀ n, UuidText (config.uuidv1 n))
    (honly : ∀ u ∈ users config signup.clientCode p.state,
      ∀ v ∈ users config signup.clientCode p.state,
        v.signupVerifyToken = u.signupVerifyToken → v = u) (env : Env) :
    ∃ event ∈ p.state.published, (UserEvent.userCreated event).handle.mailTo = signup.email ∧
      ∃ url, link "action" (UserEvent.userCreated event).handle = some url ∧
        ∀ w db ip, Serves env config signup.clientCode p.state w db →
          ∃ response w' db' user,
            (Auth.verifyEmail (withCipher env aes secretKey) (queryFields url) ip).run w =
              .ok response w' ∧
            w'.tenants signup.clientCode = some db' ∧ user ∈ db'.user.rows ∧
            user.email = signup.email ∧ user.verified = true ∧
            Session db' user.id response := by
  have hleft := left_of_returned hp ht hret
  rw [hi] at hleft
  obtain ⟨user, hmem, hnew, hannounced⟩ := hleft
  obtain ⟨n, htoken⟩ := hnew.token
  obtain ⟨event, hevent, hmail, url, hlink, hread, hcode⟩ :=
    link_of_announced hcipher (htoken ▸ huuid n) hannounced
  refine ⟨event, hevent, hmail.trans hnew.email, url, hlink, fun w db ip hserves => ?_⟩
  obtain ⟨response, w', db', hrun, hdb', hrow, hsession⟩ := verify_opens hcode hread hserves.tenant
    (hserves.users ▸ hmem) rfl (hserves.users ▸ honly user hmem) hnew.verified hnew.twoFactor
    hserves.draws ip
  exact ⟨response, w', db', _, hrun, hdb', hrow, hnew.email, rfl, hsession⟩

/-- The uuids and the codes of the mails, for one key. -/
def mailing : Config :=
  { Config.sample with
    uuidv1 := fun _ => sampleToken
    encryptClientCode := fun c => .ok fun _ =>
      String.ofList (Hex.encode sampleIv ++ ':' :: cipherText .sample sampleKey sampleIv c) }

theorem enciphers_mailing : Enciphers mailing .sample sampleKey fun _ => sampleIv where
  inverts := sample_inverts
  key := by decide
  length _ := by decide
  encrypt c encrypted n h := by
    cases h
    exact encryptClientCode_eq (by decide) (by decide) c

def acmeSignup : Signup := .clientAdmin (.sample "acme")

def acmeCalls : Bool → HostCall
  | false => .signup acmeSignup
  | true => .getPrismaClientByCode "acme"

def acmeStart : Threads Host Exn Unit Bool :=
  HostCall.pool mailing acmeCalls (.start (.singleton (Client.paid "acme")))

/-- The other call comes before the URL is stored, and is refused. -/
def acmeSteps : Threads Host Exn Unit Bool :=
  Threads.schedule (fun _ _ => True) (List.replicate 4 false ++ List.replicate 4 true ++
    List.replicate 40 false) acmeStart

theorem acmeSteps_run : Threads.Runs (Meanwhile mailing) (fun _ _ => True) acmeStart acmeSteps :=
  Threads.schedule_runs _ _ _ _

/-- The service, on the users of the host. -/
def acmeDb : Db :=
  { Db.empty with user := (acmeSteps.state.tables (tenantDatabase mailing "acme")).2 }

def acmeWorld : World :=
  { World.start 1000 Db.empty with tenants := fun c => if c = "acme" then some acmeDb else none }

theorem serves_acme : Serves Env.sample mailing "acme" acmeSteps.state acmeWorld acmeDb where
  tenant := rfl
  users := rfl
  draws _ _ _ hr := absurd hr List.not_mem_nil

theorem acme_signup_opens : ∃ event ∈ acmeSteps.state.published,
    (UserEvent.userCreated event).handle.mailTo = "kim@acme" ∧
      ∃ url, link "action" (UserEvent.userCreated event).handle = some url ∧
        ∃ response w' db' user,
          (Auth.verifyEmail (withCipher Env.sample .sample sampleKey) (queryFields url)
            "10.0.0.1").run acmeWorld = .ok response w' ∧
          w'.tenants "acme" = some db' ∧ user ∈ db'.user.rows ∧ user.email = "kim@acme" ∧
          user.verified = true ∧ Session db' user.id response := by
  have hreturned : acmeSteps.Returned false := by decide +kernel
  obtain ⟨_, hret⟩ := hreturned
  have hone : (users mailing "acme" acmeSteps.state).length = 1 := by decide +kernel
  obtain ⟨user, huser⟩ := List.length_eq_one_iff.mp hone
  have honly : ∀ u ∈ users mailing "acme" acmeSteps.state,
      ∀ v ∈ users mailing "acme" acmeSteps.state, v.signupVerifyToken = u.signupVerifyToken →
        v = u := by
    rw [huser]
    intro u hu v hv _
    rw [List.mem_singleton.mp hu, List.mem_singleton.mp hv]
  have htied : Tied mailing (Set.range fun i => (acmeCalls i).clientCode)
      (.start (.singleton (Client.paid "acme"))) := tied_start (by decide)
  obtain ⟨event, hevent, hmail, url, hlink, hopens⟩ := returned_signup_opens (i := false)
    acmeSteps_run htied rfl hret enciphers_mailing (fun _ => uuidText_sample) honly Env.sample
  exact ⟨event, hevent, hmail, url, hlink, hopens acmeWorld acmeDb "10.0.0.1" serves_acme⟩

end NestUserService.Tenant.SignupJourney
