import Mathlib.Data.List.Basic
import Mathlib.Tactic.Common

/-!
# A log whose entries are marked later

Some events of a history add an entry to a log, and some mark entries that are there
already. `log` reads the history forwards, so an entry is marked when a later event marks
it; a program adds to the end and marks what it has, which is `log_concat`.
-/

namespace NestUserService.Lib.MarkedLog

variable {ε α : Type} (entry : ε → Option α) (marks : ε → α → Bool)

/-- The entries of a history, each with whether a later event marks it. -/
def log : List ε → List (α × Bool)
  | [] => []
  | e :: later =>
    match entry e with
    | some a => (a, later.any fun e' => marks e' a) :: log later
    | none => log later

/-- One event on an existing log: it marks the entries and adds its own. -/
def extend (e : ε) (l : List (α × Bool)) : List (α × Bool) :=
  l.map (fun p => (p.1, p.2 || marks e p.1)) ++ (entry e).toList.map (·, false)

theorem log_cons_some {e : ε} {a : α} (h : entry e = some a) (later : List ε) :
    log entry marks (e :: later) =
      (a, later.any fun e' => marks e' a) :: log entry marks later := by
  simp [log, h]

theorem log_cons_none {e : ε} (h : entry e = none) (later : List ε) :
    log entry marks (e :: later) = log entry marks later := by
  simp [log, h]

theorem log_concat (h : List ε) (e : ε) :
    log entry marks (h ++ [e]) = extend entry marks e (log entry marks h) := by
  induction h with
  | nil => cases he : entry e <;> simp [log, extend, he]
  | cons e₀ h ih =>
    rw [List.cons_append]
    cases he : entry e₀ with
    | some a =>
      rw [log_cons_some entry marks he, log_cons_some entry marks he, ih]
      simp [extend, List.any_append]
    | none => rw [log_cons_none entry marks he, log_cons_none entry marks he, ih]

end NestUserService.Lib.MarkedLog
