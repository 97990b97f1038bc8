import Mathlib.Data.List.TakeDrop
import NestUserService.Lib.Text

/-!
# Relative paths

A directory is the list of the names on the way from the root of the file system, and a
relative path is resolved against it segment by segment. What the resolution leaves of the
directory is a prefix of it.
-/

namespace NestUserService.Lib.Path

def segments (text : String) : List String := (text.toList.splitOn '/').map String.ofList

/-- The segment names the directory it stands in. -/
def Idle (seg : String) : Prop := seg = "" ∨ seg = "."

instance (seg : String) : Decidable (Idle seg) := inferInstanceAs (Decidable (_ ∨ _))

def step (dir : List String) (seg : String) : List String :=
  if Idle seg then dir else if seg = ".." then dir.dropLast else dir ++ [seg]

/-- `path.resolve(dir, text)`, for a relative path. -/
def resolve (dir : List String) (text : String) : List String := (segments text).foldl step dir

/-- A relative path up to what it is resolved against: the directories it climbs, and the
names that it goes down from there. -/
structure Relative where
  climb : Nat
  names : List String

def Relative.step (p : Relative) (seg : String) : Relative :=
  if Idle seg then p
  else if seg = ".." then
    if p.names = [] then ⟨p.climb + 1, []⟩ else ⟨p.climb, p.names.dropLast⟩
  else ⟨p.climb, p.names ++ [seg]⟩

def relative (text : String) : Relative := (segments text).foldl Relative.step ⟨0, []⟩

/-- A directory, after a relative path has been followed from it. -/
def Relative.follow (p : Relative) (dir : List String) : List String :=
  dir.take (dir.length - p.climb) ++ p.names

theorem Relative.follow_step (p : Relative) (dir : List String) (seg : String) :
    (p.step seg).follow dir = Path.step (p.follow dir) seg := by
  unfold Relative.step Path.step Relative.follow
  split
  · rfl
  · split
    · split
      · rename_i hnames
        rw [hnames, List.append_nil, List.append_nil, List.dropLast_eq_take, List.take_take,
          List.length_take]
        have hlevel : min (min (dir.length - p.climb) dir.length - 1) (dir.length - p.climb) =
            dir.length - (p.climb + 1) := by omega
        rw [hlevel]
      · rename_i hnames
        rw [List.dropLast_append_of_ne_nil hnames]
    · rw [List.append_assoc]

/-- Resolving a path is following it. -/
theorem resolve_eq (dir : List String) (text : String) :
    resolve dir text = (relative text).follow dir := by
  have hfold (segs : List String) (p : Relative) :
      segs.foldl step (p.follow dir) = (segs.foldl Relative.step p).follow dir := by
    induction segs generalizing p with
    | nil => rfl
    | cons seg segs ih => rw [List.foldl_cons, List.foldl_cons, ← Relative.follow_step, ih]
  have hstart : (Relative.mk 0 []).follow dir = dir := by
    unfold Relative.follow
    rw [List.append_nil, Nat.sub_zero, List.take_length]
  unfold resolve relative
  rw [← hfold, hstart]

/-- A path that climbs alike from a deeper directory ends in the same one only at the root of
the file system. -/
theorem Relative.follow_eq_iff {p q : Relative} {dir deeper : List String}
    (hdeeper : dir.length < deeper.length) (hclimb : p.climb = q.climb)
    (hnames : p.names.length = q.names.length) :
    p.follow dir = q.follow deeper ↔ deeper.length ≤ p.climb ∧ p.names = q.names := by
  unfold Relative.follow
  rw [← hclimb]
  constructor
  · intro h
    have hlength := congrArg List.length h
    rw [List.length_append, List.length_append, List.length_take, List.length_take] at hlength
    have hroot : deeper.length ≤ p.climb := by omega
    have hnone : dir.length - p.climb = 0 := by omega
    have hnone' : deeper.length - p.climb = 0 := by omega
    rw [hnone, hnone', List.take_zero, List.take_zero, List.nil_append, List.nil_append] at h
    exact ⟨hroot, h⟩
  · rintro ⟨hroot, h⟩
    have hnone : dir.length - p.climb = 0 := by omega
    have hnone' : deeper.length - p.climb = 0 := by omega
    rw [hnone, hnone', List.take_zero, List.take_zero, h]

/-- A mapping of segments that leaves the special ones alone. -/
structure KeepsSpecial (f : String → String) : Prop where
  idle : ∀ s, Idle (f s) ↔ Idle s
  parent : ∀ s, f s = ".." ↔ s = ".."

def Relative.map (f : String → String) (p : Relative) : Relative := ⟨p.climb, p.names.map f⟩

theorem Relative.map_step {f : String → String} (hf : KeepsSpecial f) (p : Relative)
    (seg : String) : (p.map f).step (f seg) = (p.step seg).map f := by
  have hempty : (p.map f).names = [] ↔ p.names = [] := List.map_eq_nil_iff
  unfold Relative.step
  simp only [hf.idle, hf.parent, hempty]
  split
  · rfl
  · split
    · split
      · rfl
      · unfold Relative.map
        rw [List.map_dropLast]
    · unfold Relative.map
      rw [List.map_append]
      rfl

/-- The names of the changed path are the changed names. -/
theorem relative_map {f : String → String} (hf : KeepsSpecial f) {text text' : String}
    (h : segments text' = (segments text).map f) : relative text' = (relative text).map f := by
  have hfold (segs : List String) (p : Relative) :
      (segs.map f).foldl Relative.step (p.map f) = (segs.foldl Relative.step p).map f := by
    induction segs generalizing p with
    | nil => rfl
    | cons seg segs ih =>
      rw [List.map_cons, List.foldl_cons, List.foldl_cons, Relative.map_step hf, ih]
  unfold relative
  rw [h, ← hfold]
  rfl

theorem segments_append (a b : String) : segments (a ++ "/" ++ b) = segments a ++ segments b := by
  have htext : (a ++ "/" ++ b).toList = a.toList ++ '/' :: b.toList := by simp
  unfold segments
  rw [htext, List.splitOn_append_cons_self, List.map_append]

theorem resolve_append (dir : List String) (a b : String) :
    resolve dir (a ++ "/" ++ b) = resolve (resolve dir a) b := by
  unfold resolve
  rw [segments_append, List.foldl_append]

theorem segments_of_notMem {text : String} (h : '/' ∉ text.toList) : segments text = [text] := by
  unfold segments
  rw [List.splitOn_eq_singleton h, List.map_singleton, String.ofList_toList]

end NestUserService.Lib.Path
