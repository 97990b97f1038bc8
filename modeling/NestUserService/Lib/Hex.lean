import Mathlib.Tactic.Common

/-!
# Hexadecimal text of bytes

Two lowercase digits for each byte. Reading back accepts both cases, takes two digits at a
time and stops at the first pair that is not one.
-/

namespace NestUserService.Lib.Hex

def digit (n : Nat) : Char := if n < 10 then Char.ofNat (48 + n) else Char.ofNat (87 + n)

def value (c : Char) : Option Nat :=
  if '0' ≤ c ∧ c ≤ '9' then some (c.toNat - 48)
  else if 'a' ≤ c ∧ c ≤ 'f' then some (c.toNat - 87)
  else if 'A' ≤ c ∧ c ≤ 'F' then some (c.toNat - 55)
  else none

def encode (bs : List UInt8) : List Char :=
  bs.flatMap fun b => [digit (b.toNat / 16), digit (b.toNat % 16)]

def decode : List Char → List UInt8
  | a :: b :: rest =>
    match value a, value b with
    | some x, some y => UInt8.ofNat (16 * x + y) :: decode rest
    | _, _ => []
  | _ => []

theorem value_digit {n : Nat} (h : n < 16) : value (digit n) = some n := by
  have hall : ∀ m < 16, value (digit m) = some m := by decide
  exact hall n h

/-- The digits that are written. -/
def IsDigit (c : Char) : Prop := ∃ n < 16, c = digit n

theorem isDigit_of_mem_encode {bs : List UInt8} {c : Char} (h : c ∈ encode bs) : IsDigit c := by
  obtain ⟨b, -, hc⟩ := List.mem_flatMap.mp h
  have hb : b.toNat < 256 := b.toNat_lt
  rcases List.mem_cons.mp hc with rfl | hc
  · exact ⟨b.toNat / 16, by omega, rfl⟩
  · exact ⟨b.toNat % 16, by omega, List.mem_singleton.mp hc⟩

/-- A character that is no digit does not occur in the text of bytes. -/
theorem notMem_encode {c : Char} (h : ∀ n < 16, c ≠ digit n) (bs : List UInt8) :
    c ∉ encode bs := by
  intro hc
  obtain ⟨n, hn, rfl⟩ := isDigit_of_mem_encode hc
  exact h n hn rfl

theorem encode_append (bs bs' : List UInt8) : encode (bs ++ bs') = encode bs ++ encode bs' :=
  List.flatMap_append

theorem length_encode (bs : List UInt8) : (encode bs).length = 2 * bs.length := by
  induction bs with
  | nil => rfl
  | cons b bs ih =>
    have hcons : encode (b :: bs) = digit (b.toNat / 16) :: digit (b.toNat % 16) :: encode bs := rfl
    rw [hcons, List.length_cons, List.length_cons, List.length_cons, ih]
    omega

theorem decode_encode (bs : List UInt8) : decode (encode bs) = bs := by
  induction bs with
  | nil => rfl
  | cons b bs ih =>
    have hb : b.toNat < 256 := b.toNat_lt
    have hcons : encode (b :: bs) = digit (b.toNat / 16) :: digit (b.toNat % 16) :: encode bs := rfl
    have hbyte : UInt8.ofNat (16 * (b.toNat / 16) + b.toNat % 16) = b := by
      rw [show 16 * (b.toNat / 16) + b.toNat % 16 = b.toNat by omega, UInt8.ofNat_toNat]
    rw [hcons, decode, value_digit (by omega), value_digit (by omega)]
    dsimp only
    rw [hbyte, ih]

end NestUserService.Lib.Hex
