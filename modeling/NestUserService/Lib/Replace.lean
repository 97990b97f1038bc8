import Mathlib.Data.List.Infix
import NestUserService.Lib.Lines

/-!
# Replacing matches of a pattern in a text

`String.prototype.replace` with a global pattern without groups. In the replacement text
four pairs of characters that begin with a dollar sign stand for something else; a text
without them stands for itself, and no other text does.
-/

namespace NestUserService.Lib.Replace

/-- The characters that mean something after a dollar sign. -/
def patternChars : List Char := ['$', '&', '\x60', '\x27']

section Expand

variable (matched before after : List Char)

/-- What a dollar sign and the next character stand for. -/
def meaning (c : Char) : Option (List Char) :=
  if c = '$' then some ['$']
  else if c = '&' then some matched
  else if c = '\x60' then some before
  else if c = '\x27' then some after
  else none

/-- `GetSubstitution`, for a match without groups. -/
def expand : List Char → List Char
  | [] => []
  | [c] => [c]
  | c :: d :: r =>
    if c = '$' then
      match meaning matched before after d with
      | some t => t ++ expand r
      | none => c :: expand (d :: r)
    else c :: expand (d :: r)

end Expand

/-- No pair of characters of the text stands for something else. -/
def Plain (s : List Char) : Prop := ∀ c ∈ patternChars, ¬ ['$', c] <:+: s

instance (s : List Char) : Decidable (Plain s) :=
  List.decidableBAll (fun c => ¬ ['$', c] <:+: s) patternChars

theorem Plain.of_infix {s t : List Char} (h : s <:+: t) (ht : Plain t) : Plain s :=
  fun c hc hs => ht c hc (hs.trans h)

theorem plain_of_notMem {s : List Char} (h : '$' ∉ s) : Plain s :=
  fun _ _ hs => h (hs.subset List.mem_cons_self)

/-- No pair reaches over another character. -/
theorem plain_append_cons {d : Char} (hd : d ∉ patternChars) {s t : List Char} :
    Plain (s ++ d :: t) ↔ Plain s ∧ Plain t := by
  have hpair : ∀ c ∈ patternChars, d ∉ ['$', c] := by
    intro c hc hmem
    rcases List.mem_cons.mp hmem with rfl | hmem
    · exact hd (by decide)
    · rw [List.mem_singleton.mp hmem] at hd
      exact hd hc
  constructor
  · intro h
    exact ⟨h.of_infix List.infix_append_left,
      h.of_infix ((List.suffix_cons d t).trans (List.suffix_append s _)).isInfix⟩
  · rintro ⟨hs, ht⟩ c hc hin
    rcases (Text.infix_append_cons (hpair c hc)).mp hin with hin | hin
    · exact hs c hc hin
    · exact ht c hc hin

section Expand

variable {matched before after : List Char}

theorem meaning_eq_none {c : Char} : meaning matched before after c = none ↔ c ∉ patternChars := by
  unfold meaning patternChars
  simp only [List.mem_cons, List.not_mem_nil, or_false, not_or]
  split_ifs <;> simp_all

theorem expand_cons {c : Char} (hc : c ≠ '$') (r : List Char) :
    expand matched before after (c :: r) = c :: expand matched before after r := by
  cases r with
  | nil => rfl
  | cons d r => exact if_neg hc

theorem expand_dollar {d : Char} (hd : d ∉ patternChars) (r : List Char) :
    expand matched before after ('$' :: d :: r) =
      '$' :: expand matched before after (d :: r) := by
  rw [expand, if_pos rfl, meaning_eq_none.mpr hd]

theorem expand_pair {d : Char} {t : List Char} (h : meaning matched before after d = some t)
    (r : List Char) :
    expand matched before after ('$' :: d :: r) = t ++ expand matched before after r := by
  rw [expand, if_pos rfl, h]

/-- A text without pairs stands for itself. -/
theorem expand_of_plain {s : List Char} (h : Plain s) : expand matched before after s = s := by
  induction s with
  | nil => rfl
  | cons c r ih =>
    have hr := ih (h.of_infix (List.suffix_cons c r).isInfix)
    by_cases hc : c = '$'
    · subst hc
      cases r with
      | nil => rfl
      | cons d r =>
        have hd : d ∉ patternChars := fun hd => h d hd (List.prefix_append ['$', d] r).isInfix
        rw [expand_dollar hd, hr]
    · rw [expand_cons hc, hr]

/-- Where no dollar sign ends the first part, two parts are expanded separately. -/
theorem expand_append {s : List Char} (h : s.getLast? ≠ some '$') (t : List Char) :
    expand matched before after (s ++ t) =
      expand matched before after s ++ expand matched before after t := by
  induction s using expand.induct matched before after with
  | case1 => rfl
  | case2 c =>
    have hc : c ≠ '$' := fun hc => h (by rw [hc]; rfl)
    exact expand_cons hc t
  | case3 d r u hu ih =>
    have hr : r.getLast? ≠ some '$' := by
      cases r with
      | nil => simp
      | cons x r => simpa [List.getLast?_cons_cons] using h
    rw [List.cons_append, List.cons_append, expand_pair hu, expand_pair hu, ih hr,
      List.append_assoc]
  | case4 d r hu ih =>
    have hd := meaning_eq_none.mp hu
    rw [List.getLast?_cons_cons] at h
    rw [List.cons_append, List.cons_append, expand_dollar hd, expand_dollar hd,
      ← List.cons_append, ih h, List.cons_append]
  | case5 c d r hc ih =>
    rw [List.getLast?_cons_cons] at h
    rw [List.cons_append, expand_cons hc, expand_cons hc, ih h, List.cons_append]

variable (hwords : ∀ t ∈ [matched, before, after], ∃ c r, t = c :: r ∧ c ≠ '$')

include hwords in
/-- What a pair other than two dollar signs stands for begins with something else. -/
theorem not_prefix_word {d : Char} {t : List Char} (hd : d ≠ '$')
    (h : meaning matched before after d = some t) (r u : List Char) : ¬ '$' :: r <+: t ++ u := by
  have ht : t ∈ [matched, before, after] := by
    unfold meaning at h
    rw [if_neg hd] at h
    split_ifs at h <;> cases h <;> simp
  obtain ⟨c, q, rfl, hc⟩ := hwords t ht
  intro hp
  rw [List.cons_append, List.cons_prefix_cons] at hp
  exact hc hp.1.symm

include hwords in
/-- No text is expanded to something that begins with a dollar sign and the text. -/
theorem not_prefix_expand (s : List Char) (n : Nat) :
    ¬ List.replicate (n + 1) '$' ++ s <+: expand matched before after s := by
  induction s using expand.induct matched before after generalizing n with
  | case1 => simp [expand]
  | case2 c =>
    intro h
    have hlen := h.length_le
    simp [expand] at hlen
  | case3 d r t ht ih =>
    rw [expand_pair ht]
    by_cases hd : d = '$'
    · -- one sign is taken off on the right, and two more stand before the rest
      subst hd
      have ht' : t = ['$'] := by
        cases ht
        rfl
      subst ht'
      intro h
      rw [List.replicate_succ, List.cons_append, List.singleton_append,
        List.cons_prefix_cons] at h
      have hrest : List.replicate n '$' ++ '$' :: '$' :: r = List.replicate (n + 1 + 1) '$' ++ r := by
        rw [List.replicate_succ', List.replicate_succ']
        simp
      rw [hrest] at h
      exact ih (n + 1) h.2
    · exact not_prefix_word hwords hd ht _ _
  | case4 d r hd ih =>
    rw [expand_dollar (meaning_eq_none.mp hd)]
    have hne : d ≠ '$' := by
      rintro rfl
      cases hd
    rw [expand_cons hne]
    intro h
    rw [List.replicate_succ, List.cons_append, List.cons_prefix_cons] at h
    cases n with
    | zero =>
      rw [List.replicate_zero, List.nil_append, List.cons_prefix_cons] at h
      exact hne h.2.1.symm
    | succ n =>
      rw [List.replicate_succ, List.cons_append, List.cons_prefix_cons] at h
      exact hne h.2.1.symm
  | case5 c d r hc ih =>
    rw [expand_cons hc]
    intro h
    rw [List.replicate_succ, List.cons_append, List.cons_prefix_cons] at h
    exact hc h.1.symm

theorem plain_cons {c : Char} {r : List Char} (h : ∀ d ∈ patternChars, ¬ ['$', d] <+: c :: r)
    (hr : Plain r) : Plain (c :: r) := by
  intro d hd hs
  rcases List.infix_cons_iff.mp hs with hs | hs
  · exact h d hd hs
  · exact hr d hd hs

include hwords in
/-- A text that begins what it is expanded to has no pair. -/
theorem plain_of_prefix {s : List Char} (h : s <+: expand matched before after s) : Plain s := by
  induction s using expand.induct matched before after with
  | case1 => exact plain_of_notMem List.not_mem_nil
  | case2 c =>
    intro d _ hs
    have hlen := hs.length_le
    simp at hlen
  | case3 d r t ht ih =>
    rw [expand_pair ht] at h
    by_cases hd : d = '$'
    · subst hd
      cases ht
      rw [List.singleton_append, List.cons_prefix_cons] at h
      exact absurd h.2 (not_prefix_expand hwords r 0)
    · exact absurd h (not_prefix_word hwords hd ht _ _)
  | case4 d r hd ih =>
    have hd := meaning_eq_none.mp hd
    rw [expand_dollar hd, List.cons_prefix_cons] at h
    apply plain_cons _ (ih h.2)
    intro x hx hs
    rw [List.cons_prefix_cons, List.cons_prefix_cons] at hs
    exact hd (hs.2.1 ▸ hx)
  | case5 c d r hc ih =>
    rw [expand_cons hc, List.cons_prefix_cons] at h
    apply plain_cons _ (ih h.2)
    intro x _ hs
    rw [List.cons_prefix_cons] at hs
    exact hc hs.1.symm

end Expand

section Matches

variable (len : List Char → Option Nat) (replacement : List Char)

/-- The scan from one place on, behind `before`; `skip` characters still belong to the last
match. No match is empty. -/
def replaceFrom : List Char → Nat → List Char → List Char
  | _, _, [] => []
  | before, skip + 1, c :: r => replaceFrom (before ++ [c]) skip r
  | before, 0, c :: r =>
    match len (c :: r) with
    | some (n + 1) =>
      expand ((c :: r).take (n + 1)) before ((c :: r).drop (n + 1)) replacement ++
        replaceFrom (before ++ [c]) n r
    | _ => c :: replaceFrom (before ++ [c]) 0 r

/-- `text.replace(pattern, replacement)`, for a global pattern whose match at the start of a
text has the length `len`. -/
def replaceAll (text : List Char) : List Char := replaceFrom len replacement [] 0 text

variable {len replacement}

/-- No match starts inside the first part of the text. -/
def NoMatch (len : List Char → Option Nat) (s rest : List Char) : Prop :=
  ∀ a b, s = a ++ b → b ≠ [] → len (b ++ rest) = none

theorem NoMatch.tail {c : Char} {s rest : List Char} (h : NoMatch len (c :: s) rest) :
    NoMatch len s rest := by
  rintro a b rfl hb
  exact h (c :: a) b rfl hb

theorem replaceFrom_noMatch {s rest : List Char} (h : NoMatch len s rest) (before : List Char) :
    replaceFrom len replacement before 0 (s ++ rest) =
      s ++ replaceFrom len replacement (before ++ s) 0 rest := by
  induction s generalizing before with
  | nil => simp
  | cons c s ih =>
    have hc : len (c :: (s ++ rest)) = none := h [] (c :: s) rfl (List.cons_ne_nil c s)
    rw [List.cons_append, replaceFrom, hc]
    dsimp only
    rw [ih h.tail, List.append_assoc, List.singleton_append, List.cons_append]

theorem replaceFrom_skip (s rest before : List Char) :
    replaceFrom len replacement before s.length (s ++ rest) =
      replaceFrom len replacement (before ++ s) 0 rest := by
  induction s generalizing before with
  | nil => simp
  | cons c s ih =>
    rw [List.length_cons, List.cons_append, replaceFrom, ih, List.append_assoc,
      List.singleton_append]

/-- With one match, the text around it stays as it is. -/
theorem replaceAll_once {pre found post : List Char} (hne : found ≠ [])
    (hpre : NoMatch len pre (found ++ post)) (hfound : len (found ++ post) = some found.length)
    (hpost : NoMatch len post []) :
    replaceAll len replacement (pre ++ (found ++ post)) =
      pre ++ (expand found pre post replacement ++ post) := by
  unfold replaceAll
  rw [replaceFrom_noMatch hpre, List.nil_append]
  cases found with
  | nil => exact absurd rfl hne
  | cons c found =>
    have hrest : replaceFrom len replacement (pre ++ [c] ++ found) 0 (post ++ []) =
        post ++ replaceFrom len replacement (pre ++ [c] ++ found ++ post) 0 [] :=
      replaceFrom_noMatch hpost _
    rw [List.append_nil, replaceFrom, List.append_nil] at hrest
    rw [List.cons_append, List.length_cons] at hfound
    rw [List.cons_append, replaceFrom, hfound]
    dsimp only
    rw [replaceFrom_skip, hrest, List.take_succ_cons, List.take_left, List.drop_succ_cons,
      List.drop_left]

end Matches

section Word

variable {len : List Char → Option Nat} {word : List Char}

/-- A text that ends a line, in which no line holds the word. -/
theorem noMatch_lines (hlen : ∀ s, ¬ word <+: s → len s = none) (hword : '\n' ∉ word)
    (hne : word ≠ []) {ls : List (List Char)} (hfree : ∀ l ∈ ls, ¬ word <:+: l) (rest : List Char) :
    NoMatch len (Lines.joinLines ls ++ ['\n']) rest := by
  intro a b hab hb
  apply hlen
  intro hp
  rcases List.eq_nil_or_concat b with rfl | ⟨b', c, rfl⟩
  · exact hb rfl
  · rw [List.concat_eq_append] at hab hp
    rw [← List.append_assoc] at hab
    obtain ⟨hlines, hlast⟩ := List.append_inj' hab rfl
    cases hlast
    rcases List.prefix_or_prefix_of_prefix hp (List.prefix_append (b' ++ ['\n']) rest) with hp | hp
    · rcases (Text.infix_append_cons hword).mp hp.isInfix with hin | hin
      · have hall : word <:+: Lines.joinLines ls := by
          rw [hlines]
          exact hin.trans (List.suffix_append a b').isInfix
        obtain ⟨l, hl, hl'⟩ := Lines.infix_of_joinLines hword hne hall
        exact hfree l hl hl'
      · exact hne (List.infix_nil.mp hin)
    · exact hword (hp.subset (by simp))

/-- The end of a text, in which no line holds the word. -/
theorem noMatch_end (hlen : ∀ s, ¬ word <+: s → len s = none) (hword : '\n' ∉ word)
    (hne : word ≠ []) {ls : List (List Char)} (hfree : ∀ l ∈ ls, ¬ word <:+: l) :
    NoMatch len (Lines.joinLines ls) [] := by
  intro a b hab _
  apply hlen
  intro hp
  rw [List.append_nil] at hp
  have hin : word <:+: Lines.joinLines ls := by
    rw [hab]
    exact hp.isInfix.trans (List.suffix_append a b).isInfix
  obtain ⟨l, hl, hl'⟩ := Lines.infix_of_joinLines hword hne hin
  exact hfree l hl hl'

end Word

end NestUserService.Lib.Replace
