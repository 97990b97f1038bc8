import NestUserService.Lib.Ledger
import NestUserService.Auth.ServiceCalls

/-!
# The databases as ledgers

No call deletes a row. A refresh token keeps its owner, address and expiry, and is never
valid again after it was invalidated; devices and denied addresses are never changed; a
user keeps everything but the password, the reset token and the second factor.
-/

namespace NestUserService.Auth.AuditTrail

open Lib NestUserService.Core Shared

/-- The row is as before, or was invalidated. -/
def Faded (r r' : RefreshToken) : Prop := r' = r ∨ r' = { r with isValid := false }

/-- What never changes of a user; marks are set and not taken back. -/
structure SamePerson (u u' : User) : Prop where
  id : u'.id = u.id
  name : u'.name = u.name
  email : u'.email = u.email
  signupVerifyToken : u'.signupVerifyToken = u.signupVerifyToken
  role : u'.role = u.role
  clientId : u'.clientId = u.clientId
  verified : u.verified = true → u'.verified = true
  twoFactor : u.isTwoFactorEnabled = true → u'.isTwoFactorEnabled = true

/-- One database at two times. -/
structure Grown (db db' : Db) : Prop where
  user : Table.Extends SamePerson db.user db'.user
  refreshToken : Table.Extends Faded db.refreshToken db'.refreshToken
  trustedDevice : Table.Extends Eq db.trustedDevice db'.trustedDevice
  ipDenylist : Table.Extends Eq db.ipDenylist db'.ipDenylist

theorem faded_refl (r : RefreshToken) : Faded r r := Or.inl rfl

theorem faded_trans (r r' r'' : RefreshToken) (h : Faded r r') (h' : Faded r' r'') :
    Faded r r'' := by
  rcases h' with rfl | rfl
  · exact h
  · right
    rcases h with rfl | rfl
    · rfl
    · rfl

theorem samePerson_refl (u : User) : SamePerson u u := ⟨rfl, rfl, rfl, rfl, rfl, rfl, id, id⟩

theorem samePerson_trans (u u' u'' : User) (h : SamePerson u u') (h' : SamePerson u' u'') :
    SamePerson u u'' where
  id := h'.id.trans h.id
  name := h'.name.trans h.name
  email := h'.email.trans h.email
  signupVerifyToken := h'.signupVerifyToken.trans h.signupVerifyToken
  role := h'.role.trans h.role
  clientId := h'.clientId.trans h.clientId
  verified hv := h'.verified (h.verified hv)
  twoFactor ht := h'.twoFactor (h.twoFactor ht)

theorem samePerson_update {data : Patch User} (h : UserUpdate data) (u : User) :
    SamePerson u (data.apply u) := by
  cases h with
  | resetPassword token expires => exact ⟨rfl, rfl, rfl, rfl, rfl, rfl, id, id⟩
  | password password => exact ⟨rfl, rfl, rfl, rfl, rfl, rfl, id, id⟩
  | verified => exact ⟨rfl, rfl, rfl, rfl, rfl, rfl, fun _ => rfl, id⟩
  | twoFactorEnabled => exact ⟨rfl, rfl, rfl, rfl, rfl, rfl, id, fun _ => rfl⟩
  | twoFactorSecret secret => exact ⟨rfl, rfl, rfl, rfl, rfl, rfl, id, id⟩

theorem Grown.refl (db : Db) : Grown db db where
  user := .refl samePerson_refl _
  refreshToken := .refl faded_refl _
  trustedDevice := .refl (fun _ => rfl) _
  ipDenylist := .refl (fun _ => rfl) _

theorem Grown.trans {db db' db'' : Db} (h : Grown db db') (h' : Grown db' db'') :
    Grown db db'' where
  user := h.user.trans samePerson_trans h'.user
  refreshToken := h.refreshToken.trans faded_trans h'.refreshToken
  trustedDevice := h.trustedDevice.trans (fun _ _ _ => Eq.trans) h'.trustedDevice
  ipDenylist := h.ipDenylist.trans (fun _ _ _ => Eq.trans) h'.ipDenylist

/-- A statement appends rows, or changes rows where they are. -/
theorem grown_of_statement {db db' : Db} (h : Statement db db') : Grown db db' := by
  have hsame := Grown.refl db
  cases h with
  | keep => exact hsame
  | invalidate p =>
    refine { hsame with refreshToken := Table.extends_updateMany (fun r => ?_) _ }
    split
    · exact Or.inr rfl
    · exact Or.inl rfl
  | createRefreshToken h =>
    obtain ⟨hv, -, rfl⟩ := Db.createRefreshToken_ok h
    exact { hsame with refreshToken := Table.extends_insert faded_refl hv }
  | createTrustedDevice h =>
    obtain ⟨hv, -, -, rfl⟩ := Db.createTrustedDevice_ok h
    exact { hsame with trustedDevice := Table.extends_insert (fun _ => rfl) hv }
  | ipUpsert ip => exact { hsame with ipDenylist := Table.extends_upsertKeep (fun _ => rfl) _ _ }
  | updateUser p hdata =>
    refine { hsame with user := Table.extends_updateMany (fun u => ?_) _ }
    split
    · exact samePerson_update hdata u
    · exact samePerson_refl u
  | createUser h => exact { hsame with user := Table.extends_create samePerson_refl h }

/-- The root database and every tenant database have grown, and no database has come or
gone. -/
structure Recorded (w w' : World) : Prop where
  root : Grown w.root w'.root
  tenants : ∀ c, Option.Rel Grown (w.tenants c) (w'.tenants c)

theorem rel_refl (o : Option Db) : Option.Rel Grown o o := by
  cases o with
  | none => exact .none
  | some db => exact .some (.refl db)

theorem rel_trans {o o' o'' : Option Db} (h : Option.Rel Grown o o') (h' : Option.Rel Grown o' o'') :
    Option.Rel Grown o o'' := by
  cases h with
  | none => exact h'
  | some h =>
    cases h' with
    | some h' => exact .some (h.trans h')

theorem recorded_of_effect {S : Reach} {w w' : World} (h : Effect S w w') : Recorded w w' := by
  refine ⟨grown_of_statement h.root, fun c => ?_⟩
  obtain hc | ⟨-, db, db', hdb, hdb', hs⟩ := h.tenants c
  · rw [hc]
    exact rel_refl _
  · rw [hdb, hdb']
    exact .some (grown_of_statement hs)

section Runs

variable {ι : Type} [DecidableEq ι] (env : GuardEnv) (calls : ι → ServiceCall) (w : World)

theorem recorded_of_keeps {S : Reach} {p p' : Threads World Exn Reply ι} (h : Keeps env S p)
    (hrun : Interleaved p p') : Recorded p.state p'.state := by
  have hrefl (v : World) : Recorded v v := ⟨.refl _, fun c => rel_refl _⟩
  have htrans (v₁ v₂ v₃ : World) (h : Recorded v₁ v₂) (h' : Recorded v₂ v₃) : Recorded v₁ v₃ :=
    ⟨h.root.trans h'.root, fun c => rel_trans (h.tenants c) (h'.tenants c)⟩
  exact (h.interleaved hrun hrefl htrans (fun v t => ⟨.refl _, fun c => rel_refl _⟩)
    fun v v' => recorded_of_effect).1

/-- Between any two moments of any interleaving of any calls, the databases only grow. -/
theorem databases_only_grow {p p' : Threads World Exn Reply ι}
    (hp : Interleaved (ServiceCall.pool env calls w) p) (hp' : Interleaved p p') :
    Recorded p.state p'.state :=
  recorded_of_keeps env (ServiceCall.still_keeps hp) hp'

end Runs

def rotationAndLogin : Bool → ServiceCall
  | false => .refreshTokens (fun _ => "") "r0" "10.0.0.1"
  | true => .login (User.info User.sample) "10.0.0.1" none none

def begun : Threads World Exn Reply Bool :=
  Threads.schedule (fun _ _ => True) [false, true, false]
    (ServiceCall.pool .sample rotationAndLogin (rotationWorld "secret"))

def ended : Threads World Exn Reply Bool :=
  Threads.schedule (fun _ _ => True) (List.replicate 8 false) begun

theorem rotation_recorded :
    ended.Returned false ∧ Recorded begun.state ended.state :=
  ⟨by decide +kernel,
    databases_only_grow .sample rotationAndLogin (rotationWorld "secret")
      (Threads.schedule_runs _ _ _ _) (Threads.schedule_runs _ _ _ _)⟩

/-- Every refresh token and every device belongs to a user. -/
structure Referential (db : Db) : Prop where
  refreshToken : ∀ r ∈ db.refreshToken.rows, ∃ u ∈ db.user.rows, u.id = r.userId
  trustedDevice : ∀ d ∈ db.trustedDevice.rows, ∃ u ∈ db.user.rows, u.id = d.userId

theorem Grown.user_stays {db db' : Db} (h : Grown db db') {id : String}
    (hu : ∃ u ∈ db.user.rows, u.id = id) : ∃ u ∈ db'.user.rows, u.id = id := by
  obtain ⟨u, hu, rfl⟩ := hu
  obtain ⟨u', hu', hsame⟩ := h.user.target hu
  exact ⟨u', hu', hsame.id⟩

/-- The rows that a statement creates name a user; the others have been there before. -/
theorem new_rows {db db' : Db} (h : Statement db db') :
    (∀ r ∈ db'.refreshToken.rows, (∃ r₀ ∈ db.refreshToken.rows, r₀.userId = r.userId) ∨
      ∃ u ∈ db.user.rows, u.id = r.userId) ∧
    ∀ d ∈ db'.trustedDevice.rows, d ∈ db.trustedDevice.rows ∨ ∃ u ∈ db.user.rows, u.id = d.userId := by
  have hold : ∀ r ∈ db.refreshToken.rows, (∃ r₀ ∈ db.refreshToken.rows, r₀.userId = r.userId) ∨
      ∃ u ∈ db.user.rows, u.id = r.userId := fun r hr => Or.inl ⟨r, hr, rfl⟩
  have holdDevice : ∀ d ∈ db.trustedDevice.rows,
      d ∈ db.trustedDevice.rows ∨ ∃ u ∈ db.user.rows, u.id = d.userId := fun d hd => Or.inl hd
  have hfound {id : String} (hid : (db.findUserById id).isSome = true) :
      ∃ u ∈ db.user.rows, u.id = id := by
    obtain ⟨u, hu⟩ := Option.isSome_iff_exists.mp hid
    exact ⟨u, Db.findUserById_some hu⟩
  cases h with
  | keep => exact ⟨hold, holdDevice⟩
  | invalidate p =>
    refine ⟨fun r hr => ?_, holdDevice⟩
    obtain ⟨r₀, hr₀, rfl⟩ := Table.mem_updateMany.mp hr
    left
    refine ⟨r₀, hr₀, ?_⟩
    split <;> rfl
  | createRefreshToken h =>
    obtain ⟨hv, hid, rfl⟩ := Db.createRefreshToken_ok h
    refine ⟨fun r hr => ?_, holdDevice⟩
    rcases (Table.mem_insert hv).mp hr with hr | rfl
    · exact hold r hr
    · exact Or.inr (hfound hid)
  | createTrustedDevice h =>
    obtain ⟨hv, -, hid, rfl⟩ := Db.createTrustedDevice_ok h
    refine ⟨hold, fun d hd => ?_⟩
    rcases (Table.mem_insert hv).mp hd with hd | rfl
    · exact Or.inl hd
    · exact Or.inr (hfound hid)
  | ipUpsert ip => exact ⟨hold, holdDevice⟩
  | updateUser p hdata => exact ⟨hold, holdDevice⟩
  | createUser h => exact ⟨hold, holdDevice⟩

theorem referential_of_statement {db db' : Db} (h : Statement db db') (hdb : Referential db) :
    Referential db' := by
  have hgrown := grown_of_statement h
  obtain ⟨htokens, hdevices⟩ := new_rows h
  constructor
  · intro r hr
    rcases htokens r hr with ⟨r₀, hr₀, hid⟩ | hu
    · rw [← hid]
      exact hgrown.user_stays (hdb.refreshToken r₀ hr₀)
    · exact hgrown.user_stays hu
  · intro d hd
    rcases hdevices d hd with hold | hu
    · exact hgrown.user_stays (hdb.trustedDevice d hold)
    · exact hgrown.user_stays hu

/-- So it is in the root database and in every tenant database. -/
def Consistent (w : World) : Prop :=
  Referential w.root ∧ ∀ c db, w.tenants c = some db → Referential db

theorem consistent_of_effect {S : Reach} {w w' : World} (h : Effect S w w') (hw : Consistent w) :
    Consistent w' := by
  refine ⟨referential_of_statement h.root hw.1, fun c db' hdb' => ?_⟩
  obtain hc | ⟨-, db, db'', hdb, hdb'', hs⟩ := h.tenants c
  · exact hw.2 c db' (hc ▸ hdb')
  · obtain rfl := Option.some.inj (hdb''.symm.trans hdb')
    exact referential_of_statement hs (hw.2 c db hdb)

/-- No interleaving leaves a token or a device without its user. -/
theorem always_consistent {ι : Type} [DecidableEq ι] (env : GuardEnv) (calls : ι → ServiceCall)
    {w : World} (hw : Consistent w) {p : Threads World Exn Reply ι}
    (hp : Interleaved (ServiceCall.pool env calls w) p) : Consistent p.state :=
  ((ServiceCall.keeps_all env calls w).interleaved (R := fun v v' => Consistent v → Consistent v')
    hp (fun _ h => h) (fun _ _ _ h h' hv => h' (h hv)) (fun _ _ h => h)
    fun _ _ => consistent_of_effect).1 hw

theorem rotation_consistent : Consistent begun.state := by
  refine always_consistent .sample rotationAndLogin (w := rotationWorld "secret") ⟨?_, ?_⟩
    (Threads.schedule_runs _ _ _ _)
  · exact ⟨by decide +kernel, by decide +kernel⟩
  · intro c db h
    cases h

end NestUserService.Auth.AuditTrail
