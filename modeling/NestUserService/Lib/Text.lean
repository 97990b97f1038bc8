import Mathlib.Data.List.TakeWhile
import Mathlib.Tactic.Common

/-!
# Separated text

Facts about text that is cut at a separator: the piece after the last separator,
the piece after the first one, and the two words a white-space regular expression
captures. All of them are stated on character lists.
-/

namespace NestUserService.Lib.Text

variable {α : Type} [DecidableEq α]

/-- `s.split(sep).pop()`. -/
def lastPiece (sep : α) (s : List α) : List α := (s.splitOn sep).getLastD []

/-- `s.split(sep)[1]`. -/
def secondPiece (sep : α) (s : List α) : Option (List α) := (s.splitOn sep)[1]?

/-- Only the last separator matters for the last piece. -/
theorem lastPiece_append {sep : α} (a : List α) (b : List α) :
    lastPiece sep (a ++ sep :: b) = lastPiece sep b := by
  rw [lastPiece, List.splitOn_append_cons_self, lastPiece]
  obtain ⟨x, hx⟩ := Option.ne_none_iff_exists'.mp
    (mt List.getLast?_eq_none_iff.mp (List.splitOn_ne_nil sep b))
  rw [List.getLastD_eq_getLast?, List.getLastD_eq_getLast?, List.getLast?_append, hx]
  rfl

theorem lastPiece_of_notMem {sep : α} {s : List α} (h : sep ∉ s) : lastPiece sep s = s := by
  rw [lastPiece, List.splitOn_eq_singleton h]
  rfl

/-- The last piece holds no separator. -/
theorem notMem_lastPiece (sep : α) (s : List α) : sep ∉ lastPiece sep s := by
  induction s with
  | nil => exact List.not_mem_nil
  | cons x s ih =>
    by_cases hs : sep ∈ s
    · obtain ⟨a, b, rfl, -⟩ := List.eq_append_cons_of_mem hs
      rw [lastPiece_append] at ih
      rwa [← List.cons_append, lastPiece_append]
    · by_cases hx : sep = x
      · subst hx
        rwa [← List.nil_append (sep :: s), lastPiece_append]
      · have hcons : sep ∉ x :: s := by simp [hx, hs]
        rwa [lastPiece_of_notMem hcons]

/-- Two texts with the same piece after their last separator split there alike. -/
theorem append_sep_inj {sep : α} {a a' b b' : List α} (hb : sep ∉ b) (hb' : sep ∉ b')
    (h : a ++ sep :: b = a' ++ sep :: b') : a = a' ∧ b = b' := by
  have he : b = b' := by
    have hl := congrArg (lastPiece sep) h
    rwa [lastPiece_append, lastPiece_append, lastPiece_of_notMem hb,
      lastPiece_of_notMem hb'] at hl
  subst he
  exact ⟨List.append_cancel_right h, rfl⟩

/-- No piece holds a separator. -/
theorem notMem_of_mem_splitOn {sep : α} {s p : List α} (h : p ∈ s.splitOn sep) : sep ∉ p := by
  induction s generalizing p with
  | nil =>
    rw [List.splitOn_nil, List.mem_singleton] at h
    rw [h]
    exact List.not_mem_nil
  | cons x s ih =>
    rw [List.splitOn_cons_eq_if_modifyHead] at h
    split at h
    · rcases List.mem_cons.mp h with rfl | h
      · exact List.not_mem_nil
      · exact ih h
    · rename_i hx
      obtain ⟨q, qs, hqs⟩ := List.exists_cons_of_ne_nil (List.splitOn_ne_nil sep s)
      rw [hqs, List.modifyHead_cons] at h
      rw [hqs] at ih
      rcases List.mem_cons.mp h with rfl | h
      · rw [List.mem_cons, not_or]
        exact ⟨fun he => hx (beq_iff_eq.mpr he.symm), ih (List.mem_cons_self ..)⟩
      · exact ih (List.mem_cons_of_mem _ h)

omit [DecidableEq α] in
/-- A text without the separator lies on one side of it. -/
theorem infix_append_cons {sep : α} {k a b : List α} (h : sep ∉ k) :
    k <:+: a ++ sep :: b ↔ k <:+: a ∨ k <:+: b := by
  constructor
  · intro hk
    rcases List.infix_append_iff.mp hk with hk | hk | ⟨l₁, l₂, rfl, h₁, h₂⟩
    · exact Or.inl hk
    · rcases List.infix_cons_iff.mp hk with hk | hk
      · cases k with
        | nil => exact Or.inr (List.nil_infix)
        | cons x k =>
          rw [List.cons_prefix_cons] at hk
          exact absurd (List.mem_cons.mpr (Or.inl hk.1.symm)) h
      · exact Or.inr hk
    · cases l₂ with
      | nil =>
        rw [List.append_nil]
        exact Or.inl h₁.isInfix
      | cons x l₂ =>
        rw [List.cons_prefix_cons] at h₂
        exact absurd (List.mem_append.mpr (Or.inr (List.mem_cons.mpr (Or.inl h₂.1.symm)))) h
  · rintro (hk | hk)
    · exact hk.trans List.infix_append_left
    · exact hk.trans (List.infix_append_of_infix_right (List.suffix_cons _ _).isInfix)

theorem decide_ne_of_notMem {x : α} {l : List α} (h : x ∉ l) : ∀ c ∈ l, decide (c ≠ x) = true := by
  intro c hc
  rw [decide_eq_true_eq]
  rintro rfl
  exact h hc

omit [DecidableEq α] in
theorem map_fixed {f : α → α} {l : List α} (h : ∀ a ∈ l, f a = a) : l.map f = l := by
  have hid : l.map f = l.map id := List.map_congr_left h
  rw [hid, List.map_id]

omit [DecidableEq α] in
/-- A map that takes only the characters of a text to themselves neither adds nor removes
the text. -/
theorem infix_map_fixed {f : α → α} {t s : List α} (h : ∀ a ∈ t, ∀ c, f c = a ↔ c = a) :
    t <:+: s.map f ↔ t <:+: s := by
  rw [List.infix_map_iff]
  constructor
  · rintro ⟨l, hl, rfl⟩
    have hfixed : l.map f = l :=
      map_fixed fun c hc => ((h (f c) (List.mem_map_of_mem hc) c).mp rfl).symm
    rwa [hfixed]
  · intro ht
    have hfixed : t.map f = t := map_fixed fun a ha => (h a ha a).mpr rfl
    exact ⟨t, ht, hfixed.symm⟩

/-- The number of separators in it determines a piece at the end of a text. -/
theorem suffix_sep_inj {sep : α} {s a b : List α} (ha : sep :: a <:+ s) (hb : sep :: b <:+ s)
    (h : a.count sep = b.count sep) : a = b := by
  have hcut {u v : List α} (huv : sep :: u <:+ sep :: v) (hc : u.count sep = v.count sep) :
      u = v := by
    obtain ⟨p, hp⟩ := huv
    cases p with
    | nil => exact (List.cons.inj hp).2
    | cons x p =>
      have hv : p ++ sep :: u = v := (List.cons.inj hp).2
      rw [← hv, List.count_append, List.count_cons_self] at hc
      omega
  rcases List.suffix_or_suffix_of_suffix ha hb with hs | hs
  · exact hcut hs h
  · exact (hcut hs h.symm).symm

theorem secondPiece_append {sep : α} {a : List α} (b : List α) (h : sep ∉ a) :
    secondPiece sep (a ++ sep :: b) = some (b.takeWhile (· != sep)) := by
  rw [secondPiece, List.splitOn_append_cons_self, List.splitOn_eq_singleton h]
  change (b.splitOn sep)[0]? = _
  have hpos {l : List α} (hl : sep ∉ l) : ∀ c ∈ l, (c != sep) = true := by
    intro c hc
    rw [bne_iff_ne]
    rintro rfl
    exact hl hc
  by_cases hb : sep ∈ b
  · obtain ⟨u, v, rfl, hu⟩ := List.eq_append_cons_of_mem hb
    rw [List.splitOn_append_cons_self, List.splitOn_eq_singleton hu,
      List.takeWhile_append_of_pos (hpos hu)]
    simp
  · rw [List.splitOn_eq_singleton hb, List.takeWhile_eq_self_iff.mpr (hpos hb)]
    rfl

/-- The characters that `\s` matches in an ECMAScript regular expression. -/
def isSpace (c : Char) : Bool :=
  c ∈ ['\t', '\n', '\x0b', '\x0c', '\r', ' ', '\u00a0', '\u1680', '\u2028', '\u2029',
    '\u202f', '\u205f', '\u3000', '\ufeff'] ||
  (0x2000 ≤ c.toNat && c.toNat ≤ 0x200a)

theorem not_isSpace_of_any {s : List Char} (h : s.any isSpace = false) :
    ∀ c ∈ s, isSpace c = false :=
  fun c hc => Bool.eq_false_iff.mpr (List.any_eq_false.mp h c hc)

/-- The groups of the first match of `/(\S+)\s+(\S+)/`: leading white space is
skipped because the expression is not anchored, and every group is greedy. -/
def twoWords (s : List Char) : Option (List Char × List Char) :=
  let s := s.dropWhile isSpace
  let first := s.takeWhile (!isSpace ·)
  let rest := (s.dropWhile (!isSpace ·)).dropWhile isSpace
  let second := rest.takeWhile (!isSpace ·)
  if second.isEmpty then none else some (first, second)

theorem twoWords_append {a b : List Char} (ha : a ≠ []) (hs : ∀ c ∈ a, isSpace c = false) :
    twoWords (a ++ ' ' :: b) =
      if ((b.dropWhile isSpace).takeWhile (!isSpace ·)).isEmpty then none
      else some (a, (b.dropWhile isSpace).takeWhile (!isSpace ·)) := by
  obtain ⟨x, a, rfl⟩ := List.exists_cons_of_ne_nil ha
  have hx : isSpace x = false := hs x (by simp)
  have hall : ∀ c ∈ x :: a, (!isSpace c) = true := fun c hc => by simp [hs c hc]
  have hd : List.dropWhile isSpace (x :: a ++ ' ' :: b) = x :: a ++ ' ' :: b := by
    simp [hx]
  have hsp : isSpace ' ' = true := by decide
  unfold twoWords
  dsimp only
  rw [hd, List.takeWhile_append_of_pos hall, List.dropWhile_append_of_pos hall]
  simp [hsp]

/-- Two cuts agree when the stricter test holds on all of the laxer cut. -/
theorem takeWhile_eq_of_forall {p q : Char → Bool} (hpq : ∀ c, p c = true → q c = true)
    {s : List Char} (h : ∀ c ∈ s.takeWhile q, p c = true) : s.takeWhile p = s.takeWhile q := by
  induction s with
  | nil => rfl
  | cons c s ih =>
    by_cases hq : q c = true
    · rw [List.takeWhile_cons_of_pos hq] at h ⊢
      rw [List.takeWhile_cons_of_pos (h c (by simp)), ih fun d hd => h d (by simp [hd])]
    · have hp : ¬ p c = true := fun hp => hq (hpq c hp)
      rw [List.takeWhile_cons_of_neg hq, List.takeWhile_cons_of_neg hp]

theorem isSpace_of_mem_takeWhile {s : List Char} {c : Char} (h : c ∈ s.takeWhile (!isSpace ·)) :
    isSpace c = false := by
  simpa using List.mem_takeWhile_imp h

/-- The name that ends at the first single quote; a doubled quote stands for one. -/
def quotedName (q : α) : List α → Option (List α)
  | [] => none
  | c :: rest =>
    if c = q then
      match rest with
      | d :: rest' => if d = q then (quotedName q rest').map (q :: ·) else some []
      | [] => some []
    else (quotedName q rest).map (c :: ·)

theorem quotedName_cons {q c : α} (h : c ≠ q) (rest : List α) :
    quotedName q (c :: rest) = (quotedName q rest).map (c :: ·) := by
  cases rest <;> simp [quotedName, h]

theorem quotedName_concat {q : α} {s : List α} (h : q ∉ s) :
    quotedName q (s ++ [q]) = some s := by
  induction s with
  | nil => simp [quotedName]
  | cons c s ih =>
    rw [List.mem_cons, not_or] at h
    rw [List.cons_append, quotedName_cons (Ne.symm h.1), ih h.2]
    rfl

/-- Quotes in a name are paid for twice. -/
theorem length_quotedName {q : α} {l s : List α} (h : quotedName q l = some s) :
    s.length + s.count q + 1 ≤ l.length := by
  fun_induction quotedName q l generalizing s with
  | case1 => cases h
  | case2 rest' ih =>
    obtain ⟨s', hs, rfl⟩ := Option.map_eq_some_iff.mp h
    have := ih hs
    simp only [List.length_cons, List.count_cons_self]
    omega
  | case3 d rest' hd =>
    cases h
    simp
  | case4 =>
    cases h
    simp
  | case5 c rest hc ih =>
    obtain ⟨s', hs, rfl⟩ := Option.map_eq_some_iff.mp h
    have := ih hs
    rw [List.count_cons_of_ne hc]
    simp only [List.length_cons]
    omega

/-- A name put between quotes is read back exactly when it has none. -/
theorem quotedName_concat_iff {q : α} {s : List α} : quotedName q (s ++ [q]) = some s ↔ q ∉ s := by
  constructor
  · intro h
    have hlength := length_quotedName h
    rw [List.length_append, List.length_singleton] at hlength
    exact List.count_eq_zero.mp (by omega)
  · intro h
    exact quotedName_concat h

end NestUserService.Lib.Text
