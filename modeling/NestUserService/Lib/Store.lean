import Mathlib.Data.List.AList
import Mathlib.Tactic.Common

/-!
# A key-value store with expiry

Entries are kept in an association list; an entry is live strictly before its
expiry. `find?` and `liveKeys` only see live entries, as a client of the store
does. `lookup` is the stored entry whether live or not.
-/

namespace NestUserService.Lib

/-- A stored value, with the instant at which it stops being visible. -/
structure Entry (β : Type) where
  value : β
  expires : Option Nat
  deriving DecidableEq

namespace Entry

variable {β : Type}

def live (e : Entry β) (now : Nat) : Bool :=
  match e.expires with
  | none => true
  | some t => decide (now < t)

/-- The entry that `set` writes at `now`; a zero time-to-live means no expiry. -/
def stamp (v : β) (now ttl : Nat) : Entry β :=
  ⟨v, if ttl = 0 then none else some (now + ttl)⟩

theorem live_stamp {v : β} {now ttl t : Nat} (h : t < now + ttl ∨ ttl = 0) :
    (stamp v now ttl).live t = true := by
  unfold stamp live
  by_cases h0 : ttl = 0
  · simp [h0]
  · rcases h with h | h
    · simp [h0, h]
    · exact absurd h h0

theorem live_of_le {e : Entry β} {now now' : Nat} (hle : now ≤ now')
    (h : e.live now' = true) : e.live now = true := by
  unfold live at h ⊢
  cases ht : e.expires with
  | none => rfl
  | some t =>
    rw [ht] at h
    exact decide_eq_true (Nat.lt_of_le_of_lt hle (of_decide_eq_true h))

end Entry

structure Store (β : Type) where
  entries : AList (fun _ : String => Entry β)

namespace Store

variable {β : Type}

def empty : Store β := ⟨∅⟩

def lookup (s : Store β) (k : String) : Option (Entry β) := s.entries.lookup k

def find? (s : Store β) (now : Nat) (k : String) : Option β :=
  match s.lookup k with
  | some e => if e.live now then some e.value else none
  | none => none

def put (s : Store β) (k : String) (e : Entry β) : Store β := ⟨s.entries.insert k e⟩

def del (s : Store β) (k : String) : Store β := ⟨s.entries.erase k⟩

/-- The keys a client can enumerate at `now`. -/
def liveKeys (s : Store β) (now : Nat) : List String :=
  s.entries.keys.filter fun k => (s.find? now k).isSome

@[simp] theorem lookup_put_self (s : Store β) (k : String) (e : Entry β) :
    (s.put k e).lookup k = some e := AList.lookup_insert s.entries

theorem lookup_put_ne (s : Store β) {k k' : String} (e : Entry β) (h : k' ≠ k) :
    (s.put k e).lookup k' = s.lookup k' := AList.lookup_insert_ne h

@[simp] theorem lookup_del_self (s : Store β) (k : String) : (s.del k).lookup k = none :=
  AList.lookup_erase k s.entries

theorem lookup_del_ne (s : Store β) {k k' : String} (h : k' ≠ k) :
    (s.del k).lookup k' = s.lookup k' := AList.lookup_erase_ne h

theorem find?_of_lookup_eq {s s' : Store β} {now : Nat} {k k' : String}
    (h : s'.lookup k' = s.lookup k) : s'.find? now k' = s.find? now k := by
  unfold find?
  rw [h]

theorem find?_del_ne (s : Store β) {k k' : String} (now : Nat) (h : k' ≠ k) :
    (s.del k).find? now k' = s.find? now k' :=
  find?_of_lookup_eq (lookup_del_ne s h)

theorem find?_eq_some {s : Store β} {now : Nat} {k : String} {v : β} :
    s.find? now k = some v ↔ ∃ e, s.lookup k = some e ∧ e.live now = true ∧ e.value = v := by
  unfold find?
  cases h : s.lookup k with
  | none => simp
  | some e => by_cases hl : e.live now <;> simp [hl]

/-- An entry that is visible later was visible before, while it is not rewritten. -/
theorem find?_isSome_of_le {s s' : Store β} {now now' : Nat} {k : String}
    (hl : s'.lookup k = s.lookup k) (hle : now ≤ now') (h : (s'.find? now' k).isSome = true) :
    (s.find? now k).isSome = true := by
  obtain ⟨v, hv⟩ := Option.isSome_iff_exists.mp h
  obtain ⟨e, he, hlive, rfl⟩ := find?_eq_some.mp hv
  rw [hl] at he
  exact Option.isSome_iff_exists.mpr
    ⟨e.value, find?_eq_some.mpr ⟨e, he, Entry.live_of_le hle hlive, rfl⟩⟩

theorem mem_liveKeys {s : Store β} {now : Nat} {k : String} :
    k ∈ s.liveKeys now ↔ (s.find? now k).isSome = true := by
  unfold liveKeys
  rw [List.mem_filter]
  constructor
  · exact fun h => h.2
  · intro h
    refine ⟨?_, h⟩
    obtain ⟨v, hv⟩ := Option.isSome_iff_exists.mp h
    obtain ⟨e, he, -, -⟩ := find?_eq_some.mp hv
    exact AList.lookup_isSome.mp (by rw [show s.entries.lookup k = some e from he]; rfl)

end Store

end NestUserService.Lib
