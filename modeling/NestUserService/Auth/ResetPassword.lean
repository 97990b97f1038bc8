import NestUserService.Auth.Handlers

/-!
# Confirming a password reset

The confirm route hands the body's `resetPasswordToken` to a Prisma filter without
looking at it. The results below say exactly for which tables and bodies the row that
is rewritten is the one the token belongs to.
-/

namespace NestUserService.Auth.ResetPassword

open Lib NestUserService.Core

variable (env : Env) (w : World)

def after (body : Fields) : World := finalState ((resetPassword env body).run w)

/-- The repository's query selects the row for this value of the token field. -/
def Selects (token : Arg) (u : User) : Prop :=
  match whereString env true token with
  | .ok filter => filter u.resetPasswordToken = true ∧
      ∃ t, u.resetPasswordExpires = some t ∧ w.now ≤ t
  | .error _ => False

/-- The table with the password of `u` rewritten. -/
def rewritten (u : User) (password : String) : Table User :=
  w.root.user.updateMany (fun v => v.id == u.id) (withPassword password)

/-- The world after the password of `u` was set. -/
def confirmed (u : User) (password : String) : World :=
  { w with
    root := { w.root with user := rewritten w u (env.bcryptHash password w.draws) }
    draws := w.draws + 1 }

theorem selects_of_find {token : Arg} {filter : Option String → Bool} {u : User}
    (hf : whereString env true token = .ok filter)
    (hu : w.root.findResetPasswordValidToken filter w.now = some u) :
    u ∈ w.root.user.rows ∧ Selects env w token u := by
  obtain ⟨hm, hp⟩ := Table.findFirst_mem hu
  refine ⟨hm, ?_⟩
  obtain ⟨hp, he⟩ := Bool.and_eq_true_iff.mp hp
  simp only [Selects, hf]
  cases ht : u.resetPasswordExpires with
  | none => rw [ht] at he; cases he
  | some t => exact ⟨hp, t, rfl, by rw [ht] at he; simpa using he⟩

theorem not_selects_of_find {token : Arg} {filter : Option String → Bool}
    (hf : whereString env true token = .ok filter)
    (hn : w.root.findResetPasswordValidToken filter w.now = none) :
    ∀ u ∈ w.root.user.rows, ¬ Selects env w token u := by
  intro u hu hs
  simp only [Selects, hf] at hs
  obtain ⟨hp, t, ht, hle⟩ := hs
  have h := Table.findFirst_eq_none.mp hn u hu
  simp [hp, ht, hle] at h

theorem hashPassword_cases (newPassword : Arg) :
    (∃ p, newPassword = .string p) ∨
      (∀ p, newPassword ≠ .string p) ∧ ∃ e, hashPassword env newPassword w = .error e w := by
  cases newPassword with
  | string p => exact Or.inl ⟨p, rfl⟩
  | undefined => exact Or.inr ⟨by simp, _, rfl⟩
  | null => exact Or.inr ⟨by simp, _, rfl⟩
  | object o => exact Or.inr ⟨by simp, _, rfl⟩
  | other t => exact Or.inr ⟨by simp, _, rfl⟩

/-- All a confirmation can do: refuse and leave the world alone, or rewrite one row
that the query selects. -/
theorem confirm_cases (token newPassword : Arg) :
    ((∃ e, (updateResetPasswordConfirm env ⟨token, newPassword⟩).run w = .error e w) ∧
      ((∀ p, newPassword ≠ .string p) ∨ ∀ u ∈ w.root.user.rows, ¬ Selects env w token u)) ∨
    ∃ u p, u ∈ w.root.user.rows ∧ Selects env w token u ∧ newPassword = .string p ∧
      (updateResetPasswordConfirm env ⟨token, newPassword⟩).run w =
        .ok "비밀번호가 성공적으로 변경되었습니다." (confirmed env w u p) := by
  cases hf : whereString env true token with
  | error e =>
    refine Or.inl ⟨⟨e, ?_⟩, Or.inr fun u _ hs => ?_⟩
    · simp [updateResetPasswordConfirm, findResetPasswordValidToken, hf, Except.map]
    · simp only [Selects, hf] at hs
  | ok filter =>
    cases hu : w.root.findResetPasswordValidToken filter w.now with
    | none =>
      refine Or.inl ⟨⟨invalidResetToken, ?_⟩, Or.inr (not_selects_of_find env w hf hu)⟩
      simp [updateResetPasswordConfirm, findResetPasswordValidToken, hf, hu, Except.map]
    | some u =>
      obtain ⟨hm, hs⟩ := selects_of_find env w hf hu
      -- The handler repeats the expiry test of the query at the same instant.
      have hlive : ¬ u.resetPasswordExpires.getD 0 < w.now := by
        simp only [Selects, hf] at hs
        obtain ⟨-, t, ht, hle⟩ := hs
        simp [ht, hle]
      rcases hashPassword_cases env w newPassword with ⟨p, rfl⟩ | ⟨hne, e, he⟩
      · refine Or.inr ⟨u, p, hm, hs, rfl, ?_⟩
        simp [updateResetPasswordConfirm, findResetPasswordValidToken, hf, hu, Except.map, hlive,
          Db.updateUserById_of_mem hm, confirmed, rewritten]
      · refine Or.inl ⟨⟨e, ?_⟩, Or.inl hne⟩
        simp [updateResetPasswordConfirm, findResetPasswordValidToken, hf, hu, Except.map, hlive, he]

/-- A password changes only for the owner of the token, in time; success clears the
token and touches one row; refusal touches nothing. -/
structure Sound (body : Fields) : Prop where
  authorised : ∀ u ∈ w.root.user.rows, ∀ u' ∈ (after env w body).root.user.rows,
    u'.id = u.id → u'.password ≠ u.password →
    ∃ t, body.get "resetPasswordToken" = .string t ∧ u.resetPasswordToken = some t ∧
      ∃ e, u.resetPasswordExpires = some e ∧ w.now ≤ e
  cleared : ∀ m w', (resetPassword env body).run w = .ok m w' →
    ∃ u ∈ w.root.user.rows,
      (∃ u' ∈ w'.root.user.rows, u'.id = u.id ∧ u'.resetPasswordToken = none ∧
        u'.resetPasswordExpires = none) ∧
      ∀ v, v.id ≠ u.id → (v ∈ w'.root.user.rows ↔ v ∈ w.root.user.rows)
  refused : ∀ e w', (resetPassword env body).run w = .error e w' → w' = w

theorem mem_rewritten_other {u v : User} {p : String} (h : v.id ≠ u.id) :
    v ∈ (rewritten w u p).rows ↔ v ∈ w.root.user.rows := by
  unfold rewritten
  rw [Table.mem_updateMany]
  constructor
  · rintro ⟨r, hr, rfl⟩
    by_cases hid : r.id = u.id
    · exact absurd (by simp [hid, withPassword]) h
    · simpa [hid] using hr
  · exact fun hv => ⟨v, hv, by simp [h]⟩

theorem mem_rewritten_self {u : User} (hu : u ∈ w.root.user.rows) (p : String) :
    (withPassword p).apply u ∈ (rewritten w u p).rows :=
  Table.mem_updateMany.mpr ⟨u, hu, by simp⟩

/-- The row that is rewritten is the only one whose password differs afterwards. -/
theorem changed_is_selected {u v v' : User} {p : String}
    (hu : u ∈ w.root.user.rows) (hv : v ∈ w.root.user.rows) (hv' : v' ∈ (rewritten w u p).rows)
    (hid : v'.id = v.id) (hne : v'.password ≠ v.password) : v = u := by
  by_contra hvu
  have hne_id : v.id ≠ u.id := fun h => hvu (Db.user_eq_of_id hv hu h)
  have hm := (mem_rewritten_other w (v := v') (by rw [hid]; exact hne_id)).mp hv'
  exact hne (by rw [Db.user_eq_of_id hm hv hid])

/-- Confirmation is sound exactly when the body carries a token string, or nothing is
rewritten: the new password cannot be hashed, or the query selects no row. The only
assumption is that a freshly salted hash is not already stored. -/
theorem reset_sound_iff (body : Fields)
    (hfresh : ∀ u ∈ w.root.user.rows, ∀ p, u.password ≠ some (env.bcryptHash p w.draws)) :
    Sound env w body ↔
      (∃ t, body.get "resetPasswordToken" = .string t) ∨
      (∀ p, body.get "newPassword" ≠ .string p) ∨
      ∀ u ∈ w.root.user.rows, ¬ Selects env w (body.get "resetPasswordToken") u := by
  rcases confirm_cases env w (body.get "resetPasswordToken") (body.get "newPassword") with
    ⟨⟨e, he⟩, hno⟩ | ⟨u, p, hu, hs, hp, hok⟩
  · change (resetPassword env body).run w = _ at he
    refine iff_of_true ⟨?_, ?_, ?_⟩ (Or.inr hno)
    · intro v hv v' hv' hid hne
      simp only [after, he, finalState_error] at hv'
      exact absurd (by rw [Db.user_eq_of_id hv' hv hid]) hne
    · intro m w' h; rw [he] at h; cases h
    · intro e' w' h; rw [he] at h; cases h; rfl
  · change (resetPassword env body).run w = _ at hok
    constructor
    · intro h
      have hne : ((withPassword (env.bcryptHash p w.draws)).apply u).password ≠ u.password :=
        fun heq => hfresh u hu p heq.symm
      obtain ⟨t, ht, -⟩ := h.authorised u hu ((withPassword (env.bcryptHash p w.draws)).apply u)
        (by simp only [after, hok, finalState_ok]; exact mem_rewritten_self w hu _) rfl hne
      exact Or.inl ⟨t, ht⟩
    · rintro (⟨t, ht⟩ | hno | hno)
      · refine ⟨?_, ?_, ?_⟩
        · intro v hv v' hv' hid hne
          simp only [after, hok, finalState_ok] at hv'
          obtain rfl := changed_is_selected w hu hv hv' hid hne
          rw [ht] at hs
          simp only [Selects, whereString] at hs
          exact ⟨t, ht, by simpa using hs.1, hs.2⟩
        · intro m w' h
          rw [hok] at h
          cases h
          exact ⟨u, hu, ⟨_, mem_rewritten_self w hu _, rfl, rfl, rfl⟩,
            fun v hv => mem_rewritten_other w hv⟩
        · intro e w' h; rw [hok] at h; cases h
      · exact absurd hp (hno p)
      · exact absurd hs (hno u hu)

/-- A user with a pending reset. -/
def pendingUser : User :=
  { User.sample with
    resetPasswordToken := some "uuid-secret", resetPasswordExpires := some 1800000 }

def pendingWorld : World :=
  .start 1000 { Db.empty with user := .singleton pendingUser }

theorem reset_sound_with_token :
    Sound Env.sample pendingWorld
      [("resetPasswordToken", .string "uuid-secret"), ("newPassword", .string "n3wPassw0rd")] :=
  (reset_sound_iff Env.sample pendingWorld _ (by
    intro u hu p h
    obtain rfl : u = pendingUser := List.mem_singleton.mp hu
    have hb := congrArg (fun s => s.toList.head?) (Option.some.inj h)
    simp [Env.sample, pendingUser, User.sample, pendingWorld, World.start] at hb)).mpr (Or.inl ⟨_, rfl⟩)

/-- The body of the shipped form, which names the field `token`, sets the password of
whichever user has a reset pending. -/
theorem form_resets_without_token :
    ¬ Sound Env.sample pendingWorld (resetPasswordForm "wrong" "n3wPassw0rd") := by
  intro h
  obtain ⟨t, ht, -⟩ := h.authorised pendingUser (by decide)
    ((withPassword "bcrypt-0-n3wPassw0rd").apply pendingUser) (by decide) rfl (by decide)
  cases ht

end NestUserService.Auth.ResetPassword
