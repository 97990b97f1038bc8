import Mathlib.Data.List.Nodup
import Mathlib.Tactic.Common

/-!
# Rooms of a socket server

Sockets join rooms, and what is sent to a room goes to every socket that is in it at that
moment. What a socket has received is kept in order.
-/

namespace NestUserService.Lib

structure Rooms (σ ρ π : Type) where
  members : List (ρ × σ)
  inbox : σ → List π

namespace Rooms

variable {σ ρ π : Type} [DecidableEq σ] [DecidableEq ρ]

def empty : Rooms σ ρ π := ⟨[], fun _ => []⟩

def join (t : Rooms σ ρ π) (s : σ) (r : ρ) : Rooms σ ρ π :=
  { t with members := (r, s) :: t.members }

/-- The socket disconnects. -/
def leaveAll (t : Rooms σ ρ π) (s : σ) : Rooms σ ρ π :=
  { t with members := t.members.filter fun m => m.2 ≠ s }

def emit (t : Rooms σ ρ π) (r : ρ) (payload : π) : Rooms σ ρ π :=
  { t with inbox := fun s => if (r, s) ∈ t.members then t.inbox s ++ [payload] else t.inbox s }

variable (t : Rooms σ ρ π)

omit [DecidableEq σ] [DecidableEq ρ] in
@[simp] theorem members_empty : (empty : Rooms σ ρ π).members = [] := rfl

omit [DecidableEq σ] [DecidableEq ρ] in
theorem mem_join {s s' : σ} {r r' : ρ} :
    (r, s) ∈ (t.join s' r').members ↔ (r = r' ∧ s = s') ∨ (r, s) ∈ t.members := by
  simp [join]

omit [DecidableEq ρ] in
theorem mem_leaveAll {s s' : σ} {r : ρ} :
    (r, s) ∈ (t.leaveAll s').members ↔ (r, s) ∈ t.members ∧ s ≠ s' := by
  simp [leaveAll]

omit [DecidableEq σ] [DecidableEq ρ] in
@[simp] theorem inbox_join (s s' : σ) (r : ρ) : (t.join s' r).inbox s = t.inbox s := rfl

omit [DecidableEq ρ] in
@[simp] theorem inbox_leaveAll (s s' : σ) : (t.leaveAll s').inbox s = t.inbox s := rfl

@[simp] theorem members_emit (r : ρ) (payload : π) : (t.emit r payload).members = t.members := rfl

theorem inbox_emit_of_mem {r : ρ} {s : σ} (h : (r, s) ∈ t.members) (payload : π) :
    (t.emit r payload).inbox s = t.inbox s ++ [payload] := if_pos h

theorem inbox_emit_of_not_mem {r : ρ} {s : σ} (h : (r, s) ∉ t.members) (payload : π) :
    (t.emit r payload).inbox s = t.inbox s := if_neg h

theorem members_foldl_emit (payload : π) (rooms : List ρ) :
    (rooms.foldl (fun t r => t.emit r payload) t).members = t.members := by
  induction rooms generalizing t with
  | nil => rfl
  | cons r rooms ih =>
    rw [List.foldl_cons, ih]
    rfl

/-- One copy for each of the rooms that the socket is in. -/
theorem inbox_foldl_emit (payload : π) (rooms : List ρ) (s : σ) :
    (rooms.foldl (fun t r => t.emit r payload) t).inbox s =
      t.inbox s ++ List.replicate (rooms.countP fun r => (r, s) ∈ t.members) payload := by
  induction rooms generalizing t with
  | nil => simp
  | cons r rooms ih =>
    rw [List.foldl_cons, ih, members_emit]
    by_cases h : (r, s) ∈ t.members
    · rw [inbox_emit_of_mem t h, List.countP_cons_of_pos (by simpa using h), List.append_assoc]
      rfl
    · rw [inbox_emit_of_not_mem t h, List.countP_cons_of_neg (by simpa using h)]

/-- A socket that is in one of the rooms receives one copy. -/
theorem inbox_foldl_emit_once (payload : π) {rooms : List ρ} (hn : rooms.Nodup) {s : σ} {r : ρ}
    (hr : r ∈ rooms) (h : ∀ r' ∈ rooms, (r', s) ∈ t.members ↔ r' = r) :
    (rooms.foldl (fun t r => t.emit r payload) t).inbox s = t.inbox s ++ [payload] := by
  have hcount : (rooms.countP fun r' => (r', s) ∈ t.members) = rooms.count r := by
    rw [List.count_eq_countP]
    refine List.countP_congr fun r' hr' => ?_
    simpa using h r' hr'
  rw [inbox_foldl_emit, hcount, List.count_eq_one_of_mem hn hr]
  rfl

/-- A socket that is in none of the rooms receives nothing. -/
theorem inbox_foldl_emit_none (payload : π) {rooms : List ρ} {s : σ}
    (h : ∀ r ∈ rooms, (r, s) ∉ t.members) :
    (rooms.foldl (fun t r => t.emit r payload) t).inbox s = t.inbox s := by
  have hcount : (rooms.countP fun r => (r, s) ∈ t.members) = 0 :=
    List.countP_eq_zero.mpr fun r hr => by simpa using h r hr
  rw [inbox_foldl_emit, hcount, List.replicate_zero, List.append_nil]

end Rooms

end NestUserService.Lib
