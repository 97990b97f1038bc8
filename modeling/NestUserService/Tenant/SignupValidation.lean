import Mathlib.Data.List.Infix
import NestUserService.Core.World
import NestUserService.Lib.Text

/-!
# The validation of sign-up requests

The constraints of a user's fields are declared in three classes of their own. The DTO
classes use them as types only, `NameField['name']`, and a type leaves nothing to run: the
pipe runs the decorators of a DTO and of the class that it extends, which ask for presence.
-/

namespace NestUserService.Tenant.SignupValidation

open Lib NestUserService.Core

/-- Functions of third-party packages, and the Unicode normalisation form. -/
structure Validator where
  /-- `validator.isEmail`. -/
  isEmail : String → Bool
  /-- The count of characters of `validator.isLength`. -/
  length : String → Nat
  /-- `value.normalize('NFKC')`. -/
  nfkc : String → String

inductive Constraint where
  | isNotEmpty
  | isString
  | minLength (min : Nat)
  | maxLength (max : Nat)
  | isEmail
  | matches (pattern : String → Bool)
  | NotIn (property : String)
  | NotInclude (forbiddenWords : List String)

/-- A decorator on a property: a constraint, with its message when it has one, or
`@Transform`. -/
inductive Decorator where
  | constraint (property : String) (c : Constraint) (message : Option String)
  | transform (property : String) (f : Validator → Arg → Arg)

/-- A class with its own decorators, and the class that it extends. -/
inductive DtoClass where
  | base (own : List Decorator)
  | extending (own : List Decorator) (super : DtoClass)

/-- The decorators of a class and its ancestors. -/
def DtoClass.decorators : DtoClass → List Decorator
  | base own => own
  | extending own super => own ++ super.decorators

/-- `s.includes(word)`. -/
def includes (s word : String) : Bool := decide (word.toList <:+: s.toList)

def Constraint.holds (v : Validator) (object : Fields) (value : Arg) : Constraint → Bool
  | isNotEmpty =>
    match value with
    | .undefined => false
    | .null => false
    | .string s => s != ""
    | _ => true
  | isString =>
    match value with
    | .string _ => true
    | _ => false
  | minLength min =>
    match value with
    | .string s => decide (min ≤ v.length s)
    | _ => false
  | maxLength max =>
    match value with
    | .string s => decide (v.length s ≤ max)
    | _ => false
  | isEmail =>
    match value with
    | .string s => v.isEmail s
    | _ => false
  | .matches pattern =>
    match value with
    | .string s => pattern s
    | _ => false
  | NotIn property =>
    match value, object.get property with
    | .string s, .string related => !includes related s
    | _, _ => false
  | NotInclude words =>
    match value with
    | .string s => !words.any fun word => includes s word
    | _ => true

/-- A transformation is no constraint. -/
def Decorator.holds (v : Validator) (object : Fields) : Decorator → Bool
  | constraint property c _ => c.holds v object (object.get property)
  | transform _ _ => true

def Decorator.apply (v : Validator) (property : String) (value : Arg) : Decorator → Arg
  | constraint _ _ _ => value
  | transform p f => if p = property then f v value else value

/-- `plainToInstance`. -/
def plainToInstance (v : Validator) (metatype : DtoClass) (value : Fields) : Fields :=
  value.map fun field =>
    (field.1, metatype.decorators.foldl (fun x d => d.apply v field.1 x) field.2)

/-- `ValidationPipe.transform` with `transform: true`; it throws the failed constraints. A
body that is an array has none of the fields. -/
def validationPipe (v : Validator) (metatype : DtoClass) (value : Fields) :
    Except (List Decorator) Fields :=
  let entity := plainToInstance v metatype value
  match metatype.decorators.filter fun d => !d.holds v entity with
  | [] => .ok entity
  | errors => .error errors

/-- The characters of `/[\s\u200B-\u200D\uFEFF\u00A0]/`. -/
def isStripped (c : Char) : Bool :=
  Text.isSpace c || (0x200b ≤ c.toNat && c.toNat ≤ 0x200d) || c = '\ufeff' || c = '\u00a0'

/-- The `@Transform` of `NameField`. -/
def normalizeName (v : Validator) : Arg → Arg
  | .string value => .string (String.ofList ((v.nfkc value).toList.filter fun c => !isStripped c))
  | value => value

/-- `/^[A-Za-z\d!@#$%^&*()]{8,30}$/`. -/
def passwordPattern (s : String) : Bool :=
  decide (8 ≤ s.toList.length) && decide (s.toList.length ≤ 30) &&
    s.toList.all fun c => c.isAlpha || c.isDigit || c ∈ ['!', '@', '#', '$', '%', '^', '&', '*', '(', ')']

def forbiddenWords : List String := ["123456", "password", "qwerty"]

def NameField : DtoClass := .base
  [.constraint "name" .isString none,
    .constraint "name" (.minLength 2) none,
    .constraint "name" (.maxLength 30) none,
    .transform "name" normalizeName,
    .constraint "name" (.NotIn "password") (some "패스워드는 이름과 같은 문자열을 포함할 수 없습니다.")]

def EmailField : DtoClass := .base
  [.constraint "email" .isEmail none,
    .constraint "email" .isString none,
    .constraint "email" (.maxLength 60) none]

def PasswordField : DtoClass := .base
  [.constraint "password" .isString none,
    .constraint "password" (.matches passwordPattern)
      (some "비밀번호는 8~30자이며 영문자, 숫자, 특수문자만 포함할 수 있습니다."),
    .constraint "password" (.NotInclude forbiddenWords) (some "너무 쉬운 비밀번호입니다.")]

/-- The properties are typed `NameField['name']`, `EmailField['email']` and
`PasswordField['password']`; the types are erased. -/
def CreateUserDto : DtoClass := .base
  [.constraint "name" .isNotEmpty (some "이름은 필수입니다."),
    .constraint "email" .isNotEmpty (some "이메일은 필수입니다."),
    .constraint "password" .isNotEmpty (some "패스워드는 필수입니다.")]

def CreateClientUserDto : DtoClass := .extending
  [.constraint "clientCode" .isNotEmpty (some "클라이언트 코드는 필수입니다.")] CreateUserDto

def CreateClientAdminUserDto : DtoClass := .extending
  [.constraint "clientName" .isNotEmpty (some "클라이언트 이름은 필수입니다.")] CreateUserDto

inductive Route where
  | client
  | clientAdmins

def Route.dto : Route → DtoClass
  | client => CreateClientUserDto
  | clientAdmins => CreateClientAdminUserDto

/-- What a controller hands to its command. -/
structure Handed where
  name : Arg
  email : Arg
  password : Arg
  clientCode : String
  clientName : Arg := .undefined

/-- `ClientUsersController.createClientUser`, behind the pipe. -/
def postClient (v : Validator) (tenantId : String) (body : Fields) :
    Except (List Decorator) Handed := do
  let dto ← validationPipe v CreateClientUserDto body
  return {
    name := dto.get "name", email := dto.get "email", password := dto.get "password"
    clientCode := tenantId }

/-- `ClientAdminsController.createClientAdmin`, behind the pipe. -/
def postClientAdmins (v : Validator) (tenantId : String) (body : Fields) :
    Except (List Decorator) Handed := do
  let dto ← validationPipe v CreateClientAdminUserDto body
  return {
    name := dto.get "name", email := dto.get "email", password := dto.get "password"
    clientCode := tenantId, clientName := dto.get "clientName" }

def Route.post (v : Validator) (tenantId : String) (body : Fields) :
    Route → Except (List Decorator) Handed
  | client => postClient v tenantId body
  | clientAdmins => postClientAdmins v tenantId body

/-- The fields whose presence is asked for. -/
def Route.required : Route → List String
  | client => ["clientCode", "name", "email", "password"]
  | clientAdmins => ["clientName", "name", "email", "password"]

section Pipe

variable {v : Validator} {metatype : DtoClass} {value entity : Fields}

/-- The pipe accepts exactly the bodies that pass every constraint of the class and its
ancestors after every transformation of theirs. -/
theorem validationPipe_ok_iff : validationPipe v metatype value = .ok entity ↔
    plainToInstance v metatype value = entity ∧
      ∀ d ∈ metatype.decorators, d.holds v entity = true := by
  unfold validationPipe
  dsimp only
  cases herrors : metatype.decorators.filter fun d =>
      !d.holds v (plainToInstance v metatype value) with
  | nil =>
    have hall := List.filter_eq_nil_iff.mp herrors
    constructor
    · intro h
      cases h
      exact ⟨rfl, fun d hd => by simpa using hall d hd⟩
    · rintro ⟨rfl, -⟩
      rfl
  | cons d errors =>
    constructor
    · intro h
      cases h
    · rintro ⟨rfl, hall⟩
      have hd := List.mem_filter.mp (herrors ▸ List.mem_cons_self : d ∈ _)
      simp [hall d hd.1] at hd

theorem plainToInstance_of_noTransform
    (h : ∀ d ∈ metatype.decorators, ∀ property x, d.apply v property x = x) (value : Fields) :
    plainToInstance v metatype value = value := by
  have hfold : ∀ (ds : List Decorator) (property : String) (x : Arg),
      (∀ d ∈ ds, ∀ property x, d.apply v property x = x) →
        ds.foldl (fun x d => d.apply v property x) x = x := by
    intro ds property x hds
    induction ds with
    | nil => rfl
    | cons d ds ih =>
      rw [List.foldl_cons, hds d List.mem_cons_self]
      exact ih fun d' hd' => hds d' (List.mem_cons_of_mem _ hd')
  unfold plainToInstance
  have hid : ∀ field ∈ value, (field.1,
      metatype.decorators.foldl (fun x d => d.apply v field.1 x) field.2) = field :=
    fun field _ => Prod.ext rfl (hfold _ _ _ h)
  rw [List.map_congr_left hid, List.map_id']

end Pipe

/-- The value is refused by `@IsNotEmpty`. -/
def isMissing : Arg → Bool
  | .undefined => true
  | .null => true
  | .string s => s == ""
  | _ => false

theorem isNotEmpty_holds (v : Validator) (object : Fields) (value : Arg) :
    Constraint.isNotEmpty.holds v object value = !isMissing value := by
  cases value <;> rfl

/-- The decorators of a DTO and its base class ask for presence, and for nothing else. -/
theorem dto_decorators (route : Route) : ∀ d ∈ route.dto.decorators,
    ∃ property message, d = .constraint property .isNotEmpty message ∧
      property ∈ route.required := by
  intro d hd
  cases route <;>
  · simp only [Route.dto, CreateClientUserDto, CreateClientAdminUserDto, CreateUserDto,
      DtoClass.decorators, List.mem_append, List.mem_cons, List.not_mem_nil, or_false] at hd
    rcases hd with rfl | rfl | rfl | rfl <;> exact ⟨_, _, rfl, by decide⟩

theorem required_decorated (route : Route) : ∀ property ∈ route.required,
    ∃ message, .constraint property .isNotEmpty message ∈ route.dto.decorators := by
  intro property h
  cases route <;>
  · simp only [Route.required, List.mem_cons, List.not_mem_nil, or_false] at h
    rcases h with rfl | rfl | rfl | rfl
    · exact ⟨_, .head _⟩
    · exact ⟨_, .tail _ (.head _)⟩
    · exact ⟨_, .tail _ (.tail _ (.head _))⟩
    · exact ⟨_, .tail _ (.tail _ (.tail _ (.head _)))⟩

/-- The pipe accepts what was sent, whatever it is, once every required field is there. -/
theorem pipe_accepts_iff (v : Validator) (route : Route) (body entity : Fields) :
    validationPipe v route.dto body = .ok entity ↔
      body = entity ∧ ∀ field ∈ route.required, isMissing (body.get field) = false := by
  have hplain : plainToInstance v route.dto body = body := by
    apply plainToInstance_of_noTransform
    intro d hd property x
    obtain ⟨_, _, rfl, -⟩ := dto_decorators route d hd
    rfl
  have hholds : ∀ property message, (Decorator.constraint property .isNotEmpty message).holds v body =
      !isMissing (body.get property) := fun _ _ => isNotEmpty_holds v body _
  rw [validationPipe_ok_iff, hplain]
  apply and_congr_right
  rintro rfl
  constructor
  · intro h field hfield
    obtain ⟨message, hd⟩ := required_decorated route field hfield
    have hd := h _ hd
    rw [hholds] at hd
    simpa using hd
  · intro h d hd
    obtain ⟨property, message, rfl, hp⟩ := dto_decorators route d hd
    rw [hholds, h property hp]
    rfl

/-- A controller copies the fields of the DTO. -/
theorem post_eq (v : Validator) (route : Route) (tenantId : String) (body : Fields) :
    ∃ f : Fields → Handed, route.post v tenantId body = (validationPipe v route.dto body).map f ∧
      ∀ dto, (f dto).name = dto.get "name" ∧ (f dto).email = dto.get "email" ∧
        (f dto).password = dto.get "password" := by
  cases route with
  | client =>
    refine ⟨fun dto => ⟨dto.get "name", dto.get "email", dto.get "password", tenantId, .undefined⟩,
      ?_, fun _ => ⟨rfl, rfl, rfl⟩⟩
    show postClient v tenantId body = (validationPipe v CreateClientUserDto body).map _
    unfold postClient
    cases validationPipe v CreateClientUserDto body <;> rfl
  | clientAdmins =>
    refine ⟨fun dto => ⟨dto.get "name", dto.get "email", dto.get "password", tenantId,
      dto.get "clientName"⟩, ?_, fun _ => ⟨rfl, rfl, rfl⟩⟩
    show postClientAdmins v tenantId body = (validationPipe v CreateClientAdminUserDto body).map _
    unfold postClientAdmins
    cases validationPipe v CreateClientAdminUserDto body <;> rfl

/-- What is handed over is what was sent, and every required field was there. -/
theorem post_ok {v : Validator} {route : Route} {tenantId : String} {body : Fields} {handed : Handed}
    (h : route.post v tenantId body = .ok handed) :
    (handed.name = body.get "name" ∧ handed.email = body.get "email" ∧
      handed.password = body.get "password") ∧
      ∀ field ∈ route.required, isMissing (body.get field) = false := by
  obtain ⟨f, heq, hf⟩ := post_eq v route tenantId body
  rw [heq] at h
  cases hpipe : validationPipe v route.dto body with
  | error errors =>
    rw [hpipe] at h
    cases h
  | ok dto =>
    obtain ⟨rfl, hpresent⟩ := (pipe_accepts_iff v route body dto).mp hpipe
    rw [hpipe] at h
    cases h
    exact ⟨hf body, hpresent⟩

theorem post_of_present {v : Validator} {route : Route} (tenantId : String) {body : Fields}
    (h : ∀ field ∈ route.required, isMissing (body.get field) = false) :
    ∃ handed, route.post v tenantId body = .ok handed := by
  obtain ⟨f, heq, -⟩ := post_eq v route tenantId body
  rw [heq, (pipe_accepts_iff v route body body).mpr ⟨rfl, h⟩]
  exact ⟨f body, rfl⟩

def ValidName (v : Validator) (name password : Arg) : Prop :=
  ∃ s p, name = .string s ∧ password = .string p ∧ (2 ≤ v.length s ∧ v.length s ≤ 30) ∧
    (v.nfkc s = s ∧ ∀ c ∈ s.toList, isStripped c = false) ∧ includes p s = false

def ValidEmail (v : Validator) (email : Arg) : Prop :=
  ∃ s, email = .string s ∧ v.isEmail s = true ∧ v.length s ≤ 60

def ValidPassword (password : Arg) : Prop :=
  ∃ s, password = .string s ∧ passwordPattern s = true ∧
    ∀ word ∈ forbiddenWords, includes s word = false

/-- The values satisfy what `NameField`, `EmailField` and `PasswordField` declare. -/
structure ValidFields (v : Validator) (name email password : Arg) : Prop where
  name : ValidName v name password
  email : ValidEmail v email
  password : ValidPassword password

/-- Nothing is left for the transformation of the name to do. -/
def Normalized (v : Validator) (name : Arg) : Prop :=
  ∀ s, name = .string s → v.nfkc s = s ∧ ∀ c ∈ s.toList, isStripped c = false

/-- The plain reading of the decorators of the three field classes. -/
theorem validFields_iff (v : Validator) (o : Fields) :
    ValidFields v (o.get "name") (o.get "email") (o.get "password") ↔
      (∀ field ∈ [NameField, EmailField, PasswordField], ∀ d ∈ field.decorators,
        d.holds v o = true) ∧ Normalized v (o.get "name") := by
  have hsplit : ∀ name email password, ValidFields v name email password ↔
      (ValidName v name password ∧ ValidEmail v email) ∧ ValidPassword password :=
    fun _ _ _ => ⟨fun h => ⟨⟨h.name, h.email⟩, h.password⟩, fun h => ⟨h.1.1, h.1.2, h.2⟩⟩
  simp only [hsplit, NameField, EmailField, PasswordField, DtoClass.decorators, List.mem_cons,
    List.not_mem_nil, or_false, forall_eq_or_imp, forall_eq, Decorator.holds, Constraint.holds]
  generalize o.get "name" = name
  generalize o.get "email" = email
  generalize o.get "password" = password
  cases name with
  | string s =>
    cases email with
    | string e =>
      cases password with
      | string p =>
        simp only [ValidName, Arg.string.injEq, exists_and_left, ↓existsAndEq, true_and,
          exists_eq_left', ValidEmail, ValidPassword, decide_eq_true_eq, Bool.not_eq_eq_eq_not,
          Bool.not_true, List.any_eq_false, Bool.not_eq_true, Normalized, forall_eq']
        constructor
        · rintro ⟨⟨⟨⟨hmin, hmax⟩, hnorm, hname⟩, hemail⟩, hpassword⟩
          exact ⟨⟨⟨hmin, hmax, hname⟩, hemail, hpassword⟩, hnorm⟩
        · rintro ⟨⟨⟨hmin, hmax, hname⟩, hemail, hpassword⟩, hnorm⟩
          exact ⟨⟨⟨⟨hmin, hmax⟩, hnorm, hname⟩, hemail⟩, hpassword⟩
      | _ => simp [ValidName, ValidPassword]
    | _ => simp [ValidName, ValidEmail]
  | _ => simp [ValidName]

/-- The fields that a route hands over are valid exactly when the request is refused for a
missing field, or its fields were valid already. -/
theorem handed_valid_iff (v : Validator) (route : Route) (tenantId : String) (body : Fields) :
    (∀ handed, route.post v tenantId body = .ok handed →
      ValidFields v handed.name handed.email handed.password) ↔
    (∃ field ∈ route.required, isMissing (body.get field) = true) ∨
      ValidFields v (body.get "name") (body.get "email") (body.get "password") := by
  constructor
  · intro h
    by_cases hpresent : ∀ field ∈ route.required, isMissing (body.get field) = false
    · right
      obtain ⟨handed, hpost⟩ := post_of_present tenantId hpresent
      obtain ⟨⟨hname, hemail, hpassword⟩, -⟩ := post_ok hpost
      have hvalid := h handed hpost
      rwa [hname, hemail, hpassword] at hvalid
    · left
      simp only [not_forall, Bool.not_eq_false] at hpresent
      obtain ⟨field, hfield, hmissing⟩ := hpresent
      exact ⟨field, hfield, hmissing⟩
  · rintro h handed hpost
    obtain ⟨⟨hname, hemail, hpassword⟩, hpresent⟩ := post_ok hpost
    rcases h with ⟨field, hfield, hmissing⟩ | hvalid
    · rw [hpresent field hfield] at hmissing
      cases hmissing
    · rwa [hname, hemail, hpassword]

/-- A checker that is right about the addresses and the names of the sample below. -/
def Validator.sample : Validator where
  isEmail s := decide ('@' ∈ s.toList)
  length s := s.toList.length
  nfkc s := s

def laxBody : Fields :=
  [("name", .string "x"), ("email", .string "not-an-email"), ("password", .string "1"),
    ("clientCode", .string "acme")]

/-- A name of one letter, a text that is no address and a password of one digit pass. -/
theorem lax_body_accepted :
    Route.client.post Validator.sample "acme" laxBody =
        .ok ⟨.string "x", .string "not-an-email", .string "1", "acme", .undefined⟩ ∧
      ¬ ValidFields Validator.sample (.string "x") (.string "not-an-email") (.string "1") := by
  refine ⟨rfl, ?_⟩
  intro h
  obtain ⟨s, hs, hemail, -⟩ := h.email
  cases hs
  revert hemail
  decide

end NestUserService.Tenant.SignupValidation
