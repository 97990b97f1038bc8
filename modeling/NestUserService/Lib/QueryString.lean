import Mathlib.Data.List.TakeWhile
import NestUserService.Lib.Hex
import NestUserService.Lib.Utf8

/-!
# Query strings

The query of a URL and the pairs that a server reads from it: parts between ampersands,
each cut at its first equals sign and unescaped. Pairs of plain texts, put together
without escaping, are read back as they were.
-/

namespace NestUserService.Lib.QueryString

/-- The byte that three characters stand for. -/
def escaped (c a b : Char) : Option UInt8 :=
  if c = '%' then
    match Hex.value a, Hex.value b with
    | some x, some y => some (UInt8.ofNat (16 * x + y))
    | _, _ => none
  else none

/-- The bytes of a percent-encoded text; a percent sign without two digits is kept. -/
def percentBytes : List Char → List UInt8
  | c :: a :: b :: rest =>
    match escaped c a b with
    | some byte => byte :: percentBytes rest
    | none => String.utf8EncodeChar c ++ percentBytes (a :: b :: rest)
  | c :: rest => String.utf8EncodeChar c ++ percentBytes rest
  | [] => []

theorem percentBytes_cons {c : Char} (h : c ≠ '%') (rest : List Char) :
    percentBytes (c :: rest) = String.utf8EncodeChar c ++ percentBytes rest := by
  match rest with
  | [] => rfl
  | [_] => rfl
  | a :: b :: rest =>
    have he : escaped c a b = none := if_neg h
    rw [percentBytes, he]

def unescape (s : List Char) : List Char :=
  Utf8.decode (percentBytes (s.map fun c => if c = '+' then ' ' else c))

def parsePair (part : List Char) : List Char × List Char :=
  (unescape (part.takeWhile (· != '=')), unescape ((part.dropWhile (· != '=')).drop 1))

def parse (query : List Char) : List (List Char × List Char) :=
  ((query.splitOn '&').filter (!·.isEmpty)).map parsePair

/-- The part of a URL between the question mark and the fragment. -/
def query (url : List Char) : List Char :=
  ((url.takeWhile (· != '#')).dropWhile (· != '?')).drop 1

/-- Pairs put together without escaping. -/
def render (pairs : List (List Char × List Char)) : List Char :=
  ['&'].intercalate (pairs.map fun p => p.1 ++ '=' :: p.2)

theorem render_two (p q : List Char × List Char) :
    render [p, q] = p.1 ++ '=' :: p.2 ++ '&' :: (q.1 ++ '=' :: q.2) := by
  simp [render]

/-- No character of the text has a meaning in a query. -/
def Plain (s : List Char) : Prop := ∀ c ∈ s, c ∉ ['%', '+', '&', '=', '#']

instance (s : List Char) : Decidable (Plain s) :=
  List.decidableBAll (fun c => c ∉ ['%', '+', '&', '=', '#']) s

namespace Plain

variable {s : List Char}

theorem notMem (h : Plain s) {c : Char} (hc : c ∈ ['%', '+', '&', '=', '#']) : c ∉ s :=
  fun hs => h c hs hc

theorem percentBytes_eq (h : Plain s) : percentBytes s = Utf8.encode s := by
  induction s with
  | nil => rfl
  | cons c s ih =>
    have hc : c ≠ '%' := by
      rintro rfl
      exact h.notMem (by simp) List.mem_cons_self
    rw [percentBytes_cons hc, ih fun d hd => h d (List.mem_cons_of_mem c hd)]
    rfl

theorem unescape_eq (h : Plain s) : unescape s = s := by
  have hmap : s.map (fun c => if c = '+' then ' ' else c) = s := by
    conv_rhs => rw [← List.map_id s]
    apply List.map_congr_left
    intro c hc
    have hne : c ≠ '+' := by
      rintro rfl
      exact h.notMem (by simp) hc
    exact if_neg hne
  rw [unescape, hmap, h.percentBytes_eq, Utf8.decode_encode]

end Plain

theorem bne_of_notMem {a : Char} {k : List Char} (h : a ∉ k) : ∀ c ∈ k, (c != a) = true := by
  intro c hc
  rw [bne_iff_ne]
  intro heq
  subst heq
  exact h hc

theorem takeWhile_append_cons {a : Char} {k : List Char} (h : a ∉ k) (v : List Char) :
    (k ++ a :: v).takeWhile (· != a) = k := by
  rw [List.takeWhile_append_of_pos (bne_of_notMem h)]
  simp

theorem dropWhile_append_cons {a : Char} {k : List Char} (h : a ∉ k) (v : List Char) :
    (k ++ a :: v).dropWhile (· != a) = a :: v := by
  rw [List.dropWhile_append_of_pos (bne_of_notMem h)]
  simp

theorem parsePair_plain {k v : List Char} (hk : Plain k) (hv : Plain v) :
    parsePair (k ++ '=' :: v) = (k, v) := by
  have heq : '=' ∉ k := hk.notMem (by simp)
  rw [parsePair, takeWhile_append_cons heq, dropWhile_append_cons heq, List.drop_succ_cons,
    List.drop_zero, hk.unescape_eq, hv.unescape_eq]

theorem parse_render {pairs : List (List Char × List Char)} (hne : pairs ≠ [])
    (hplain : ∀ p ∈ pairs, Plain p.1 ∧ Plain p.2) : parse (render pairs) = pairs := by
  have hamp : ∀ part ∈ pairs.map (fun p => p.1 ++ '=' :: p.2), '&' ∉ part := by
    intro part hp
    obtain ⟨p, hm, rfl⟩ := List.mem_map.mp hp
    have hk : '&' ∉ p.1 := (hplain p hm).1.notMem (by simp)
    have hv : '&' ∉ p.2 := (hplain p hm).2.notMem (by simp)
    simp [hk, hv]
  rw [parse, render, List.splitOn_intercalate '&' hamp (by simpa using hne)]
  have hfilter : (pairs.map (fun p => p.1 ++ '=' :: p.2)).filter (!·.isEmpty) =
      pairs.map fun p => p.1 ++ '=' :: p.2 := by
    rw [List.filter_eq_self]
    intro part hp
    obtain ⟨p, -, rfl⟩ := List.mem_map.mp hp
    simp
  rw [hfilter, List.map_map]
  conv_rhs => rw [← List.map_id pairs]
  apply List.map_congr_left
  intro p hp
  exact parsePair_plain (hplain p hp).1 (hplain p hp).2

theorem query_append {path q : List Char} (hpath : '?' ∉ path) (hfrag : '#' ∉ path ++ '?' :: q) :
    query (path ++ '?' :: q) = q := by
  have hall : (path ++ '?' :: q).takeWhile (· != '#') = path ++ '?' :: q :=
    List.takeWhile_eq_self_iff.mpr (bne_of_notMem hfrag)
  rw [query, hall, dropWhile_append_cons hpath]
  rfl

end NestUserService.Lib.QueryString
