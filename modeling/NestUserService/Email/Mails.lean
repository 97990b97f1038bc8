import NestUserService.Lib.Markup
import NestUserService.Auth.LoginHandlers
import NestUserService.Auth.VerificationLink

/-!
# The mails of the two events

`UserEventsHandler` turns an event into a mail with one link.
-/

namespace NestUserService.Email

open Lib Auth

structure EmailOptions where
  mailTo : String
  subject : String
  html : String
  deriving DecidableEq

/-- A text with a link in an attribute. -/
def withLink (before name url after : String) : String :=
  before ++ (name ++ "=\"") ++ url ++ ("\"" ++ after)

def sendMemberJoinVerification (emailAddress encryptedClientCode signupVerifyToken : String) :
    EmailOptions where
  mailTo := emailAddress
  subject := "✨가입 인증 메일✨"
  html := withLink
    ("\n            가입확인 버튼를 누르시면 가입 인증이 완료됩니다.<br/>" ++
      "\n            <form ")
    "action" (VerificationLink.verificationUrl encryptedClientCode signupVerifyToken)
    (" method=\"POST\">" ++
      "\n                <button>가입확인</button>" ++
      "\n            </form>" ++
      "\n            ")

def sendResetPasswordEmail (email url : String) : EmailOptions where
  mailTo := email
  subject := "🔐 비밀번호 재설정 안내"
  html := withLink
    ("\n          아래 버튼을 클릭하면 비밀번호를 재설정할 수 있습니다.<br/>" ++
      "\n          <a ")
    "href" url
    (" style=\"display: inline-block; padding: 10px 20px; background-color: #4f46e5; " ++
        "color: white; text-decoration: none; border-radius: 6px;\">" ++
      "\n            비밀번호 재설정" ++
      "\n          </a>" ++
      "\n          <p>해당 링크는 30분 후 만료됩니다.</p>" ++
      "\n        ")

/-- The events of the handler, by their names. -/
inductive UserEvent where
  | userCreated (event : Tenant.UserCreatedEvent)
  | resetPassword (event : ResetPasswordEvent)

/-- `UserEventsHandler.handle`, with the mail that it sends. -/
def UserEvent.handle : UserEvent → EmailOptions
  | userCreated event =>
    sendMemberJoinVerification event.email event.encryptedClientCode event.signupVerifyToken
  | resetPassword event => sendResetPasswordEmail event.email event.url

/-- The attribute that holds the link of the mail. -/
def UserEvent.linkName : UserEvent → String
  | userCreated _ => "action"
  | resetPassword _ => "href"

def UserEvent.url : UserEvent → String
  | userCreated event =>
    VerificationLink.verificationUrl event.encryptedClientCode event.signupVerifyToken
  | resetPassword event => event.url

/-- The link of a mail, as the program of its reader finds it. -/
def link (name : String) (mail : EmailOptions) : Option String :=
  (Markup.attributeValue name.toList mail.html.toList).map String.ofList

theorem attributeValue_withLink {before name url after : String} {c : Char} {rest : List Char}
    (hname : name.toList = c :: rest) (hbefore : c ∉ before.toList) (hurl : '"' ∉ url.toList) :
    Markup.attributeValue name.toList (withLink before name url after).toList =
      some url.toList := by
  have htext : (withLink before name url after).toList =
      before.toList ++ (c :: (rest ++ ['=', '"']) ++ (url.toList ++ '"' :: after.toList)) := by
    have hquote : "=\"".toList = ['=', '"'] := rfl
    have hquote' : "\"".toList = ['"'] := rfl
    unfold withLink
    simp only [String.toList_append, hname, hquote, hquote', List.append_assoc, List.cons_append,
      List.nil_append]
  rw [htext, hname]
  exact Markup.attributeValue_append hbefore hurl after.toList

/-- Both mails go to the address of the event and lead to its URL. -/
theorem link_handle (event : UserEvent) (h : '"' ∉ event.url.toList) :
    link event.linkName event.handle = some event.url := by
  have hvalue : Markup.attributeValue event.linkName.toList event.handle.html.toList =
      some event.url.toList := by
    cases event with
    | userCreated event =>
      have hname : "action".toList = 'a' :: "ction".toList := rfl
      exact attributeValue_withLink hname (by decide) h
    | resetPassword event =>
      have hname : "href".toList = 'h' :: "ref".toList := rfl
      exact attributeValue_withLink hname (by decide) h
  unfold link
  rw [hvalue, Option.map_some, String.ofList_toList]

end NestUserService.Email
