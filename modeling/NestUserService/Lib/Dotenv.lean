import Mathlib.Data.List.DropRight
import NestUserService.Lib.Text

/-!
# `KEY=value` files

Each line of the text assigns a value to a key. A `#` starts a comment, white space around
keys and values does not count, and the last assignment to a key is the one that holds.
-/

namespace NestUserService.Lib.Dotenv

open Text

def trim (s : List Char) : List Char := (s.dropWhile isSpace).rdropWhile isSpace

def uncomment (line : List Char) : List Char := line.takeWhile (· != '#')

/-- The assignment on a line, if it has one. -/
def assignment (line : List Char) : Option (String × String) :=
  let line := uncomment line
  if '=' ∈ line then
    some (String.ofList (trim (line.takeWhile (· != '='))),
      String.ofList (trim ((line.dropWhile (· != '=')).drop 1)))
  else none

def parse (text : String) : List (String × String) :=
  (text.toList.splitOn '\n').filterMap assignment

/-- The value of a key. -/
def get (text key : String) : Option String := (parse text).reverse.lookup key

/-- The value that a text on the right of the first `=` of a line stands for. -/
def readValue (s : String) : String := String.ofList (trim (uncomment s.toList))

/-- The text is read as a key when it stands on the left of a `=`. -/
structure IsKey (k : String) : Prop where
  comment : '#' ∉ k.toList
  equals : '=' ∉ k.toList
  line : '\n' ∉ k.toList
  trim : trim k.toList = k.toList

theorem isKey_iff {k : String} : IsKey k ↔
    '#' ∉ k.toList ∧ '=' ∉ k.toList ∧ '\n' ∉ k.toList ∧ Dotenv.trim k.toList = k.toList :=
  ⟨fun h => ⟨h.comment, h.equals, h.line, h.trim⟩, fun h => ⟨h.1, h.2.1, h.2.2.1, h.2.2.2⟩⟩

instance (k : String) : Decidable (IsKey k) := decidable_of_iff' _ isKey_iff

theorem parse_append (a b : String) : parse (a ++ "\n" ++ b) = parse a ++ parse b := by
  have htext : (a ++ "\n" ++ b).toList = a.toList ++ '\n' :: b.toList := by simp
  unfold parse
  rw [htext, List.splitOn_append_cons_self, List.filterMap_append]

theorem parse_line {s : String} (h : '\n' ∉ s.toList) : parse s = (assignment s.toList).toList := by
  unfold parse
  rw [List.splitOn_eq_singleton h]
  cases hline : assignment s.toList with
  | none => simp [hline]
  | some p => simp [hline]

theorem notMem_takeWhile_ne (a : Char) (s : List Char) : a ∉ s.takeWhile (· != a) := by
  intro h
  have hne := List.mem_takeWhile_imp h
  simp at hne

theorem takeWhile_ne_append {a : Char} {s : List Char} (h : a ∉ s) (t : List Char) :
    (s ++ t).takeWhile (· != a) = s ++ t.takeWhile (· != a) := by
  refine List.takeWhile_append_of_pos fun c hc => ?_
  rw [bne_iff_ne]
  rintro rfl
  exact h hc

/-- A key, a `=` and a value on one line are read as an assignment. -/
theorem parse_assignment {k v : String} (hk : IsKey k) (hv : '\n' ∉ v.toList) :
    parse (k ++ "=" ++ v) = [(k, readValue v)] := by
  have htext : (k ++ "=" ++ v).toList = k.toList ++ '=' :: v.toList := by simp
  have hline : '\n' ∉ (k ++ "=" ++ v).toList := by
    rw [htext]
    simp [hk.line, hv]
  have hcut : uncomment (k.toList ++ '=' :: v.toList) = k.toList ++ '=' :: uncomment v.toList := by
    unfold uncomment
    rw [takeWhile_ne_append hk.comment]
    rfl
  have hkey : (k.toList ++ '=' :: uncomment v.toList).takeWhile (· != '=') = k.toList := by
    rw [takeWhile_ne_append hk.equals]
    simp
  have hvalue : (k.toList ++ '=' :: uncomment v.toList).dropWhile (· != '=') =
      '=' :: uncomment v.toList := by
    have hsplit := List.takeWhile_append_dropWhile (p := (· != '='))
      (l := k.toList ++ '=' :: uncomment v.toList)
    rw [hkey] at hsplit
    exact List.append_cancel_left hsplit
  have hmem : '=' ∈ k.toList ++ '=' :: uncomment v.toList := by simp
  rw [parse_line hline, htext]
  unfold assignment
  dsimp only
  rw [hcut, if_pos hmem, hkey, hvalue, hk.trim, String.ofList_toList]
  rfl

theorem trim_sublist (s : List Char) : (trim s).Sublist s :=
  (List.rdropWhile_prefix _ _).sublist.trans (List.dropWhile_sublist _)

theorem dropWhile_eq_self_of_prefix {p : Char → Bool} {s t : List Char} (h : s <+: t)
    (ht : t.dropWhile p = t) : s.dropWhile p = s := by
  cases s with
  | nil => rfl
  | cons a s =>
    obtain ⟨u, rfl⟩ := h
    rw [List.cons_append, List.dropWhile_eq_self_iff] at ht
    rw [List.dropWhile_eq_self_iff]
    intro hl
    exact ht (by simp)

/-- Nothing is left to trim. -/
theorem trim_trim (s : List Char) : trim (trim s) = trim s := by
  have hstart : (trim s).dropWhile isSpace = trim s :=
    dropWhile_eq_self_of_prefix (List.rdropWhile_prefix _ _) (List.dropWhile_idempotent _ _)
  calc trim (trim s) = (trim s).rdropWhile isSpace := by rw [trim, hstart]
    _ = trim s := List.rdropWhile_idempotent _ _

theorem notMem_trim {a : Char} {s : List Char} (h : a ∉ s) : a ∉ trim s :=
  fun hm => h ((trim_sublist s).subset hm)

/-- Whatever the text is, the keys that are read are keys, and the values are on one line. -/
theorem isKey_of_mem {text k v : String} (h : (k, v) ∈ parse text) :
    IsKey k ∧ '\n' ∉ v.toList := by
  obtain ⟨line, hline, hassign⟩ := List.mem_filterMap.mp h
  have hbreak : '\n' ∉ line := notMem_of_mem_splitOn hline
  have huncomment : (uncomment line).Sublist line := List.takeWhile_sublist _
  unfold assignment at hassign
  dsimp only at hassign
  split at hassign
  · rw [Option.some.injEq, Prod.mk.injEq] at hassign
    obtain ⟨rfl, rfl⟩ := hassign
    rw [String.toList_ofList]
    refine ⟨⟨?_, ?_, ?_, ?_⟩, ?_⟩
    · rw [String.toList_ofList]
      refine notMem_trim fun hm => notMem_takeWhile_ne '#' line ?_
      exact (List.takeWhile_sublist _).subset hm
    · rw [String.toList_ofList]
      exact notMem_trim (notMem_takeWhile_ne '=' _)
    · rw [String.toList_ofList]
      refine notMem_trim fun hm => hbreak (huncomment.subset ?_)
      exact (List.takeWhile_sublist _).subset hm
    · rw [String.toList_ofList, trim_trim]
    · refine notMem_trim fun hm => hbreak (huncomment.subset ?_)
      exact ((List.drop_sublist _ _).trans (List.dropWhile_sublist _)).subset hm
  · cases hassign

theorem mem_of_get {text k v : String} (h : get text k = some v) : (k, v) ∈ parse text := by
  obtain ⟨l, l', hl, -⟩ := List.lookup_eq_some_iff.mp h
  have hm : (k, v) ∈ (parse text).reverse := by
    rw [hl]
    exact List.mem_append.mpr (Or.inr (List.mem_cons_self ..))
  exact List.mem_reverse.mp hm

/-- A key that is only assigned one value has it. -/
theorem get_of_unique {text k v : String} (h : (k, v) ∈ parse text)
    (hunique : ∀ v', (k, v') ∈ parse text → v' = v) : get text k = some v := by
  cases hget : get text k with
  | none =>
    have hne := List.lookup_eq_none_iff.mp hget (k, v) (List.mem_reverse.mpr h)
    simp at hne
  | some v' => rw [hunique v' (mem_of_get hget)]

end NestUserService.Lib.Dotenv
