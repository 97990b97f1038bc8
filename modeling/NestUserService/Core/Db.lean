import NestUserService.Lib.Table

/-!
# The rows of the databases

The root database and every tenant database are generated from the same schema.
Columns that no modelled function reads or writes (`createdAt`, the surrogate ids of
tokens and devices) are left out. `none` stands for a NULL column.

Texts in a `where` or under a unique key are compared exactly. The migrations create the
tables with `utf8mb4_unicode_ci`, under which MySQL also takes two texts for equal that
differ only in case, accents or trailing blanks.

MySQL runs in strict mode: a value that is longer than its column fails. The lengths are
checked where a request brings the value, at new users and new devices. What the service
draws itself (uuids, hashes, signed tokens) and the address of a connection fit their columns.
-/

namespace NestUserService.Core

open Lib

inductive Role where
  | SuperAdmin
  | ClientAdmin
  | ClientUser
  deriving DecidableEq, Repr

structure User where
  id : String
  name : String
  email : String
  password : Option String
  signupVerifyToken : String
  verified : Bool
  role : Role
  twoFactorSecret : Option String
  isTwoFactorEnabled : Bool
  clientId : Option String
  resetPasswordToken : Option String
  resetPasswordExpires : Option Nat
  deriving DecidableEq

structure RefreshToken where
  token : String
  userId : String
  isValid : Bool
  ip : Option String
  expiresAt : Nat
  deriving DecidableEq

structure TrustedDevice where
  userId : String
  deviceToken : String
  deviceName : Option String
  ipAddress : Option String
  userAgent : Option String
  expiresAt : Nat
  deriving DecidableEq

structure IpDenylist where
  ip : String
  reason : String
  deriving DecidableEq

instance : Keyed User := ⟨[User.id, User.email]⟩
instance : Keyed RefreshToken := ⟨[RefreshToken.token]⟩
instance : Keyed TrustedDevice := ⟨[TrustedDevice.deviceToken]⟩
instance : Keyed IpDenylist := ⟨[IpDenylist.ip]⟩

structure Db where
  user : Table User
  refreshToken : Table RefreshToken
  trustedDevice : Table TrustedDevice
  ipDenylist : Table IpDenylist

/-- What a handler can throw: the Nest HTTP exceptions with their messages, a
JavaScript `TypeError`, Prisma's known request errors with their code, Prisma's
validation error, and a plain `Error`. -/
inductive Exn where
  | unauthorized (message : String)
  | forbidden (message : String)
  | badRequest (message : String)
  | notFound (message : String)
  | notAcceptable (message : String)
  | typeError (message : String)
  | prisma (code : String)
  | prismaValidation
  | error (message : String)
  deriving DecidableEq

/-- Prisma's code for an update of a record that does not exist. -/
def recordNotFound : Exn := .prisma "P2025"

/-- Prisma's code for a violated unique constraint. -/
def uniqueViolation : Exn := .prisma "P2002"

/-- Prisma's code for a violated foreign key. -/
def foreignKeyViolation : Exn := .prisma "P2003"

/-- Prisma's code for a value that is too long for its column. -/
def valueTooLong : Exn := .prisma "P2000"

def fits (n : Nat) (value : Option String) : Bool := value.all fun v => decide (v.length ≤ n)

def User.fits (row : User) : Bool :=
  Core.fits 191 (some row.id) && Core.fits 30 (some row.name) &&
    [some row.email, row.password, some row.signupVerifyToken].all (Core.fits 60)

def TrustedDevice.fits (row : TrustedDevice) : Bool :=
  [some row.userId, some row.deviceToken, row.deviceName, row.ipAddress, row.userAgent].all
    (Core.fits 191)

def invalidated : Patch RefreshToken where
  apply r := { r with isValid := false }
  keeps := by simp [Keyed.keys]

def withResetPassword (token : String) (expires : Nat) : Patch User where
  apply u := { u with resetPasswordToken := some token, resetPasswordExpires := some expires }
  keeps := by simp [Keyed.keys]

def withPassword (password : String) : Patch User where
  apply u := { u with
    password := some password, resetPasswordToken := none, resetPasswordExpires := none }
  keeps := by simp [Keyed.keys]

def withVerified : Patch User where
  apply u := { u with verified := true }
  keeps := by simp [Keyed.keys]

def withTwoFactorEnabled (value : Bool) : Patch User where
  apply u := { u with isTwoFactorEnabled := value }
  keeps := by simp [Keyed.keys]

namespace Db

/-- `user.findUnique({ where: { id } })`, and the `findFirst` spelling of it. -/
def findUserById (db : Db) (id : String) : Option User :=
  db.user.findFirst fun u => u.id == id

def findUserByEmail (db : Db) (email : String) : Option User :=
  db.user.findFirst fun u => u.email == email

/-- `user.update({ where: { id }, data })`. -/
def updateUserById (db : Db) (id : String) (data : Patch User) : Except Exn Db :=
  match db.user.update (fun u => u.id == id) data with
  | some t => .ok { db with user := t }
  | none => .error recordNotFound

/-- `user.update({ where: { email }, data })`. -/
def updateUserByEmail (db : Db) (email : String) (data : Patch User) : Except Exn Db :=
  match db.user.update (fun u => u.email == email) data with
  | some t => .ok { db with user := t }
  | none => .error recordNotFound

/-- `refreshToken.updateMany({ where: { userId, isValid: true }, data: { isValid: false } })`. -/
def invalidateRefreshTokens (db : Db) (userId : String) : Db :=
  { db with refreshToken :=
      db.refreshToken.updateMany (fun r => r.userId == userId && r.isValid) invalidated }

/-- `refreshToken.updateMany({ where: { token }, data: { isValid: false } })`. -/
def revokeRefreshToken (db : Db) (token : String) : Db :=
  { db with refreshToken := db.refreshToken.updateMany (fun r => r.token == token) invalidated }

/-- The first valid, unexpired row whose token passes the filter. -/
def findValidRefreshToken (db : Db) (token : Option String → Bool) (now : Nat) :
    Option RefreshToken :=
  db.refreshToken.findFirst fun r =>
    token (some r.token) && r.isValid && decide (now < r.expiresAt)

/-- The first row whose reset token passes the filter and has not expired; a NULL
expiry passes no comparison. -/
def findResetPasswordValidToken (db : Db) (token : Option String → Bool) (now : Nat) :
    Option User :=
  db.user.findFirst fun u =>
    token u.resetPasswordToken && u.resetPasswordExpires.any (fun t => decide (now ≤ t))

def findUserBySignupVerifyToken (db : Db) (token : Option String → Bool) : Option User :=
  db.user.findFirst fun u => token (some u.signupVerifyToken)

/-- The `refreshTokens` relation of a user. -/
def refreshTokensOf (db : Db) (userId : String) : List RefreshToken :=
  db.refreshToken.rows.filter fun r => r.userId == userId

/-- `refreshToken.create`, with the foreign key to `User`. -/
def createRefreshToken (db : Db) (row : RefreshToken) : Except Exn Db :=
  match db.refreshToken.create row with
  | none => .error uniqueViolation
  | some t =>
    if (db.findUserById row.userId).isSome then .ok { db with refreshToken := t }
    else .error foreignKeyViolation

def findDeviceToken (db : Db) (deviceToken : String) : Option TrustedDevice :=
  db.trustedDevice.findFirst fun d => d.deviceToken == deviceToken

/-- `trustedDevice.create`, with the foreign key to `User`. -/
def createTrustedDevice (db : Db) (row : TrustedDevice) : Except Exn Db :=
  if row.fits then
    match db.trustedDevice.create row with
    | none => .error uniqueViolation
    | some t =>
      if (db.findUserById row.userId).isSome then .ok { db with trustedDevice := t }
      else .error foreignKeyViolation
  else .error valueTooLong

/-- `ipDenylist.upsert` with an empty update. -/
def ipUpsert (db : Db) (ip : String) : Db :=
  { db with ipDenylist := db.ipDenylist.upsertKeep ⟨ip, "Token theft suspected"⟩ }

variable {db : Db} {u : User}

theorem findUserById_some {id : String} (h : db.findUserById id = some u) :
    u ∈ db.user.rows ∧ u.id = id := by
  obtain ⟨hm, hp⟩ := Table.findFirst_mem h
  exact ⟨hm, by simpa using hp⟩

theorem findUserById_of_mem (h : u ∈ db.user.rows) : db.findUserById u.id = some u :=
  Table.findFirst_key (k := User.id) (by simp [Keyed.keys]) h

theorem user_eq_of_id {v : User} (hu : u ∈ db.user.rows) (hv : v ∈ db.user.rows)
    (h : u.id = v.id) : u = v :=
  Table.eq_of_key (k := User.id) (by simp [Keyed.keys]) hu hv h

theorem user_eq_of_email {v : User} (hu : u ∈ db.user.rows) (hv : v ∈ db.user.rows)
    (h : u.email = v.email) : u = v :=
  Table.eq_of_key (k := User.email) (by simp [Keyed.keys]) hu hv h

theorem updateUserById_of_mem (h : u ∈ db.user.rows) (data : Patch User) :
    db.updateUserById u.id data =
      .ok { db with user := db.user.updateMany (fun v => v.id == u.id) data } := by
  unfold updateUserById
  rw [Table.update_of_mem h (by simp)]

theorem updateUserById_missing {id : String} (h : ∀ u ∈ db.user.rows, u.id ≠ id)
    (data : Patch User) : db.updateUserById id data = .error recordNotFound := by
  unfold updateUserById
  rw [Table.update_eq_none.mpr fun u hu => by simp [h u hu]]

theorem updateUserByEmail_of_mem (h : u ∈ db.user.rows) (data : Patch User) :
    db.updateUserByEmail u.email data =
      .ok { db with user := db.user.updateMany (fun v => v.email == u.email) data } := by
  unfold updateUserByEmail
  rw [Table.update_of_mem h (by simp)]

/-- A created row was not there before, and belongs to a user. -/
theorem createRefreshToken_ok {db' : Db} {row : RefreshToken}
    (h : db.createRefreshToken row = .ok db') :
    ∃ hv : db.refreshToken.Vacant row, (db.findUserById row.userId).isSome = true ∧
      db' = { db with refreshToken := db.refreshToken.insert row hv } := by
  unfold createRefreshToken at h
  by_cases hv : db.refreshToken.Vacant row
  · rw [Table.create_of_vacant hv] at h
    by_cases hu : (db.findUserById row.userId).isSome = true
    · simp only [hu, if_true, Except.ok.injEq] at h
      exact ⟨hv, hu, h.symm⟩
    · simp [hu] at h
  · rw [Table.create_of_not_vacant hv] at h
    cases h

theorem createRefreshToken_error {row : RefreshToken} {e : Exn}
    (h : db.createRefreshToken row = .error e) : ∃ code, e = .prisma code := by
  unfold createRefreshToken at h
  split at h
  · cases h
    exact ⟨_, rfl⟩
  · split at h
    · cases h
    · cases h
      exact ⟨_, rfl⟩

/-- A created row fits its columns, was not there before, and belongs to a user. -/
theorem createTrustedDevice_ok {db' : Db} {row : TrustedDevice}
    (h : db.createTrustedDevice row = .ok db') :
    ∃ hv : db.trustedDevice.Vacant row, row.fits = true ∧
      (db.findUserById row.userId).isSome = true ∧
      db' = { db with trustedDevice := db.trustedDevice.insert row hv } := by
  unfold createTrustedDevice at h
  by_cases hfits : row.fits = true
  · rw [if_pos hfits] at h
    by_cases hv : db.trustedDevice.Vacant row
    · rw [Table.create_of_vacant hv] at h
      by_cases hu : (db.findUserById row.userId).isSome = true
      · simp only [hu, if_true, Except.ok.injEq] at h
        exact ⟨hv, hfits, hu, h.symm⟩
      · simp [hu] at h
    · rw [Table.create_of_not_vacant hv] at h
      cases h
  · rw [if_neg hfits] at h
    cases h

theorem createTrustedDevice_of_vacant {row : TrustedDevice} (hfits : row.fits = true)
    (hv : db.trustedDevice.Vacant row) (hu : (db.findUserById row.userId).isSome = true) :
    db.createTrustedDevice row =
      .ok { db with trustedDevice := db.trustedDevice.insert row hv } := by
  unfold createTrustedDevice
  rw [if_pos hfits, Table.create_of_vacant hv]
  exact if_pos hu

theorem createTrustedDevice_error {row : TrustedDevice} {e : Exn}
    (h : db.createTrustedDevice row = .error e) : ∃ code, e = .prisma code := by
  unfold createTrustedDevice at h
  split at h
  · split at h
    · cases h
      exact ⟨_, rfl⟩
    · split at h
      · cases h
      · cases h
        exact ⟨_, rfl⟩
  · cases h
    exact ⟨_, rfl⟩

/-- Every row of the user is invalid after the update. -/
theorem invalid_of_mem_invalidate {userId : String} {r : RefreshToken}
    (hr : r ∈ (db.invalidateRefreshTokens userId).refreshToken.rows) (hu : r.userId = userId) :
    r.isValid = false := by
  obtain ⟨r₀, -, rfl⟩ := Table.mem_updateMany.mp hr
  by_cases hp : (r₀.userId == userId && r₀.isValid) = true
  · rw [if_pos hp]; rfl
  · rw [if_neg hp] at hu ⊢
    simpa [hu] using hp

/-- Rows of other users are as before. -/
theorem mem_invalidate_other {userId : String} {r : RefreshToken} (h : r.userId ≠ userId) :
    r ∈ (db.invalidateRefreshTokens userId).refreshToken.rows ↔ r ∈ db.refreshToken.rows := by
  unfold invalidateRefreshTokens
  rw [Table.mem_updateMany]
  constructor
  · rintro ⟨r₀, hr₀, rfl⟩
    by_cases hu : r₀.userId = userId
    · by_cases hv : r₀.isValid
      · exact absurd (by simp [hu, hv, invalidated]) h
      · simpa [hv] using hr₀
    · simpa [hu] using hr₀
  · exact fun hr => ⟨r, hr, by simp [h]⟩

end Db

end NestUserService.Core
