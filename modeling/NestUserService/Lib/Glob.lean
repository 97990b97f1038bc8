import Mathlib.Data.List.Infix
import Mathlib.Tactic.Common

/-!
# Glob patterns

The pattern language of a key scan: `*`, `?`, bracket classes with ranges and
negation, and backslash escapes. A pattern is first read into tokens, then matched
against the whole text. An unclosed class ends with the pattern. `?` and a class stand
for one character of the text, where a server that matches bytes lets them stand for one
byte; the two agree on ASCII text.
-/

namespace NestUserService.Lib.Glob

inductive Tok where
  | lit (c : Char)
  | any
  | star
  | cls (negated : Bool) (ranges : List (Char × Char))
  deriving DecidableEq

/-- The rest of a bracket class, up to `]` or the end of the pattern. -/
def readClass : List Char → List (Char × Char) × List Char
  | [] => ([], [])
  | ']' :: p => ([], p)
  | '\\' :: c :: p => let r := readClass p; ((c, c) :: r.1, r.2)
  | a :: '-' :: b :: p =>
    let r := readClass p
    ((if a ≤ b then (a, b) else (b, a)) :: r.1, r.2)
  | c :: p => let r := readClass p; ((c, c) :: r.1, r.2)

/-- The tokens of a pattern; `n` bounds the number of tokens and is the length of
the pattern in `tokens`. -/
def tokensAux : Nat → List Char → List Tok
  | 0, _ => []
  | _ + 1, [] => []
  | n + 1, '*' :: p => .star :: tokensAux n p
  | n + 1, '?' :: p => .any :: tokensAux n p
  | n + 1, '[' :: '^' :: p => let r := readClass p; .cls true r.1 :: tokensAux n r.2
  | n + 1, '[' :: p => let r := readClass p; .cls false r.1 :: tokensAux n r.2
  | n + 1, '\\' :: c :: p => .lit c :: tokensAux n p
  | n + 1, c :: p => .lit c :: tokensAux n p

def tokens (p : List Char) : List Tok := tokensAux p.length p

def Tok.accepts (t : Tok) (c : Char) : Bool :=
  match t with
  | .lit d => c == d
  | .any => true
  | .star => false
  | .cls neg ranges => (ranges.any fun r => decide (r.1 ≤ c ∧ c ≤ r.2)) != neg

def matchToks : List Tok → List Char → Bool
  | [], s => s.isEmpty
  | .star :: ts, s => s.tails.any (matchToks ts)
  | _ :: _, [] => false
  | t :: ts, c :: s => t.accepts c && matchToks ts s

/-- `MATCH pattern` on a key. -/
def isMatch (pattern key : String) : Bool := matchToks (tokens pattern.toList) key.toList

/-- Characters that do not stand for themselves in a pattern. -/
def isSpecial (c : Char) : Bool := c == '*' || c == '?' || c == '[' || c == '\\'

/-- A text that, as a pattern, only matches itself. -/
def Plain (s : String) : Prop := ∀ c ∈ s.toList, isSpecial c = false

instance (s : String) : Decidable (Plain s) := List.decidableBAll _ s.toList

theorem plain_append {s t : String} : Plain (s ++ t) ↔ Plain s ∧ Plain t := by
  simp only [Plain, String.toList_append, List.mem_append]
  constructor
  · exact fun h => ⟨fun c hc => h c (Or.inl hc), fun c hc => h c (Or.inr hc)⟩
  · rintro ⟨hs, ht⟩ c (hc | hc)
    · exact hs c hc
    · exact ht c hc

theorem tokensAux_plain_cons {c : Char} (h : isSpecial c = false) (n : Nat) (p : List Char) :
    tokensAux (n + 1) (c :: p) = .lit c :: tokensAux n p := by
  simp only [isSpecial, Bool.or_eq_false_iff, beq_eq_false_iff_ne] at h
  obtain ⟨⟨⟨h1, h2⟩, h3⟩, h4⟩ := h
  rw [tokensAux.eq_def]
  split <;> simp_all

theorem tokens_plain_append {l : List Char} (h : ∀ c ∈ l, isSpecial c = false) (p : List Char) :
    tokens (l ++ p) = l.map Tok.lit ++ tokens p := by
  unfold tokens
  induction l with
  | nil => rfl
  | cons c l ih =>
    rw [List.cons_append, List.length_cons, tokensAux_plain_cons (h c (by simp)),
      ih fun d hd => h d (by simp [hd])]
    rfl

theorem matchToks_lits (l : List Char) (ts : List Tok) (s : List Char) :
    matchToks (l.map Tok.lit ++ ts) s = true ↔ ∃ r, s = l ++ r ∧ matchToks ts r = true := by
  induction l generalizing s with
  | nil => simp
  | cons c l ih =>
    cases s with
    | nil => simp [matchToks]
    | cons d s =>
      simp only [List.map_cons, List.cons_append, matchToks, Tok.accepts, Bool.and_eq_true,
        beq_iff_eq, ih, List.cons.injEq]
      constructor
      · rintro ⟨rfl, r, rfl, hr⟩
        exact ⟨r, ⟨rfl, rfl⟩, hr⟩
      · rintro ⟨r, ⟨rfl, rfl⟩, hr⟩
        exact ⟨rfl, r, rfl, hr⟩

/-- A plain prefix of the pattern is a prefix of every matching key, and the rest
of the pattern decides the rest of the key. -/
theorem isMatch_plain_append {l : String} (h : Plain l) (p key : String) :
    isMatch (l ++ p) key = true ↔ ∃ r, key = l ++ r ∧ isMatch p r = true := by
  unfold isMatch
  rw [String.toList_append, tokens_plain_append h, matchToks_lits]
  constructor
  · rintro ⟨r, hr, hm⟩
    refine ⟨String.ofList r, ?_, by simpa using hm⟩
    rw [← String.toList_inj, String.toList_append, hr, String.toList_ofList]
  · rintro ⟨r, rfl, hm⟩
    exact ⟨r.toList, String.toList_append, hm⟩

theorem isMatch_star (key : String) : isMatch "*" key = true := by
  change matchToks [.star] key.toList = true
  simp only [matchToks, List.any_eq_true, List.mem_tails]
  exact ⟨[], List.nil_suffix, rfl⟩

/-- `prefix*` is a prefix test when the prefix is plain. -/
theorem isMatch_plain_star {l : String} (h : Plain l) (key : String) :
    isMatch (l ++ "*") key = true ↔ ∃ r, key = l ++ r := by
  rw [isMatch_plain_append h]
  simp [isMatch_star]

example : isMatch "h[a-c]llo:*" "hbllo:42" = true := by decide

example : isMatch "h[^a-c]llo:*" "hbllo:42" = false := by decide

end NestUserService.Lib.Glob
