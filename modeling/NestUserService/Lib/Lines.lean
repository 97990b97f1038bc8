import NestUserService.Lib.Text

/-!
# Lines of a text

A text and its lines, and pieces that occur in a text one after the other.
-/

namespace NestUserService.Lib.Lines

/-- `text.split('\n')`. -/
def lines (s : List Char) : List (List Char) := s.splitOn '\n'

/-- `lines.join('\n')`. -/
def joinLines (ls : List (List Char)) : List Char := List.intercalate ['\n'] ls

section

variable {l : List Char} {ls ls' : List (List Char)}

@[simp] theorem joinLines_singleton (l : List Char) : joinLines [l] = l :=
  List.intercalate_singleton

theorem joinLines_cons (h : ls ≠ []) : joinLines (l :: ls) = l ++ '\n' :: joinLines ls := by
  cases ls with
  | nil => exact absurd rfl h
  | cons l' ls =>
    unfold joinLines
    rw [List.intercalate_cons_cons, List.append_assoc, List.singleton_append]

theorem joinLines_append (h : ls ≠ []) (h' : ls' ≠ []) :
    joinLines (ls ++ ls') = joinLines ls ++ '\n' :: joinLines ls' := by
  induction ls with
  | nil => exact absurd rfl h
  | cons l ls ih =>
    cases hls : ls with
    | nil => rw [List.singleton_append, joinLines_cons h', joinLines_singleton]
    | cons l₂ ls₂ =>
      rw [← hls]
      have hne : ls ≠ [] := by simp [hls]
      rw [List.cons_append, joinLines_cons (by simp [hne]), ih hne, joinLines_cons hne,
        List.append_assoc, List.cons_append]

theorem lines_append (s t : List Char) : lines (s ++ '\n' :: t) = lines s ++ lines t :=
  List.splitOn_append_cons_self s t

theorem lines_of_notMem {s : List Char} (h : '\n' ∉ s) : lines s = [s] :=
  List.splitOn_eq_singleton h

theorem lines_joinLines (h : ls ≠ []) : lines (joinLines ls) = ls.flatMap lines := by
  induction ls with
  | nil => exact absurd rfl h
  | cons l ls ih =>
    cases hls : ls with
    | nil => simp
    | cons l₂ ls₂ =>
      rw [← hls]
      have hne : ls ≠ [] := by simp [hls]
      rw [joinLines_cons hne, lines_append, ih hne, List.flatMap_cons]

theorem flatMap_lines (h : ∀ l ∈ ls, '\n' ∉ l) : ls.flatMap lines = ls := by
  induction ls with
  | nil => rfl
  | cons l ls ih =>
    rw [List.flatMap_cons, lines_of_notMem (h l List.mem_cons_self),
      ih fun l' hl' => h l' (List.mem_cons_of_mem _ hl'), List.singleton_append]

/-- The first line is what stands before the first line break. -/
theorem lines_eq_cons (s : List Char) : ∃ rest, lines s = s.takeWhile (· ≠ '\n') :: rest := by
  by_cases h : '\n' ∈ s
  · obtain ⟨a, b, rfl, ha⟩ := List.eq_append_cons_of_mem h
    refine ⟨lines b, ?_⟩
    rw [lines_append, lines_of_notMem ha,
      List.takeWhile_append_of_pos (Text.decide_ne_of_notMem ha)]
    simp
  · refine ⟨[], ?_⟩
    rw [lines_of_notMem h, List.takeWhile_eq_self_iff.mpr (Text.decide_ne_of_notMem h)]

/-- A text without line breaks that occurs in joined lines occurs in one of them. -/
theorem infix_of_joinLines {k : List Char} (hk : '\n' ∉ k) (hne : k ≠ [])
    (h : k <:+: joinLines ls) : ∃ l ∈ ls, k <:+: l := by
  induction ls with
  | nil => exact absurd (List.infix_nil.mp h) hne
  | cons l ls ih =>
    cases hls : ls with
    | nil =>
      rw [hls, joinLines_singleton] at h
      exact ⟨l, List.mem_singleton.mpr rfl, h⟩
    | cons l₂ ls₂ =>
      rw [← hls]
      rw [joinLines_cons (by simp [hls]), Text.infix_append_cons hk] at h
      rcases h with h | h
      · exact ⟨l, List.mem_cons_self, h⟩
      · obtain ⟨l', hl', hin⟩ := ih h
        exact ⟨l', List.mem_cons_of_mem _ hl', hin⟩

end

theorem intercalate_ne_nil {α : Type} {sep t : List α} {texts : List (List α)} (h : t ≠ []) :
    List.intercalate sep (t :: texts) ≠ [] := by
  cases texts with
  | nil => rwa [List.intercalate_singleton]
  | cons t₂ texts =>
    rw [List.intercalate_cons_cons, List.append_assoc]
    exact List.append_ne_nil_of_left_ne_nil h _

theorem mem_of_mem_intercalate {α : Type} {x : α} {sep : List α} {texts : List (List α)}
    (h : x ∈ List.intercalate sep texts) : x ∈ sep ∨ ∃ t ∈ texts, x ∈ t := by
  induction texts with
  | nil => cases h
  | cons t texts ih =>
    cases texts with
    | nil =>
      rw [List.intercalate_singleton] at h
      exact .inr ⟨t, List.mem_cons_self, h⟩
    | cons t₂ texts =>
      rw [List.intercalate_cons_cons, List.mem_append, List.mem_append] at h
      rcases h with (h | h) | h
      · exact .inr ⟨t, List.mem_cons_self, h⟩
      · exact .inl h
      · rcases ih h with h | ⟨t', ht', h⟩
        · exact .inl h
        · exact .inr ⟨t', List.mem_cons_of_mem _ ht', h⟩

/-- Texts joined by a blank line. -/
theorem intercalate_blank {texts : List (List (List Char))} (h : ∀ t ∈ texts, t ≠ []) :
    List.intercalate ['\n', '\n'] (texts.map joinLines) =
      joinLines (List.intercalate [[]] texts) := by
  induction texts with
  | nil => rfl
  | cons t texts ih =>
    have ht := h t List.mem_cons_self
    have hrest := ih fun t' ht' => h t' (List.mem_cons_of_mem _ ht')
    cases texts with
    | nil => rw [List.map_singleton, List.intercalate_singleton, List.intercalate_singleton]
    | cons t₂ texts =>
      have hne : List.intercalate [[]] (t₂ :: texts) ≠ [] :=
        intercalate_ne_nil (h t₂ (List.mem_cons_of_mem _ List.mem_cons_self))
      rw [List.map_cons, List.map_cons, List.intercalate_cons_cons, ← List.map_cons, hrest,
        List.intercalate_cons_cons, List.append_assoc, List.append_assoc, List.singleton_append,
        joinLines_append ht (List.cons_ne_nil _ _), joinLines_cons hne]
      rfl

/-- The pieces occur in the text, one after the other. -/
inductive InOrder {α : Type} : List (List α) → List α → Prop where
  | nil (rest : List α) : InOrder [] rest
  | cons (gap piece : List α) {pieces : List (List α)} {rest : List α} :
      InOrder pieces rest → InOrder (piece :: pieces) (gap ++ (piece ++ rest))

theorem InOrder.gap {α : Type} {pieces : List (List α)} {text : List α} (h : InOrder pieces text)
    (gap : List α) : InOrder pieces (gap ++ text) := by
  cases h with
  | nil rest => exact .nil _
  | cons gap' piece h =>
    rw [← List.append_assoc]
    exact .cons _ piece h

theorem InOrder.append {α : Type} {pieces : List (List α)} {text : List α}
    (h : InOrder pieces text) (rest : List α) : InOrder pieces (text ++ rest) := by
  induction h with
  | nil _ => exact .nil _
  | cons gap piece h ih =>
    rw [List.append_assoc, List.append_assoc]
    exact .cons gap piece ih

end NestUserService.Lib.Lines
