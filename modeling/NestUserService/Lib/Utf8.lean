import Mathlib.Tactic.Common

/-!
# UTF-8 as a stream

A decoder that takes one byte at a time, as the Encoding Standard describes it: it
remembers how many bytes of a character are still to come and which values the next one
may have. Ill-formed bytes become replacement characters. Text that was encoded is decoded
to itself, wherever the bytes are cut into chunks.
-/

namespace NestUserService.Lib.Utf8

def encode (s : List Char) : List UInt8 := s.flatMap String.utf8EncodeChar

def replacement : Char := '\uFFFD'

/-- What is remembered between two bytes. -/
structure Decoder where
  needed : Nat
  lower : Nat
  upper : Nat
  codePoint : Nat
  deriving DecidableEq

namespace Decoder

/-- Between two characters. -/
def start : Decoder := ⟨0, 0x80, 0xBF, 0⟩

/-- The first byte of a character. -/
def lead (b : Nat) : List Char × Decoder :=
  if b ≤ 0x7F then ([Char.ofNat b], start)
  else if 0xC2 ≤ b ∧ b ≤ 0xDF then ([], ⟨1, 0x80, 0xBF, b - 0xC0⟩)
  else if 0xE0 ≤ b ∧ b ≤ 0xEF then
    -- overlong forms and surrogates are excluded by the second byte
    ([], ⟨2, if b = 0xE0 then 0xA0 else 0x80, if b = 0xED then 0x9F else 0xBF, b - 0xE0⟩)
  else if 0xF0 ≤ b ∧ b ≤ 0xF4 then
    ([], ⟨3, if b = 0xF0 then 0x90 else 0x80, if b = 0xF4 then 0x8F else 0xBF, b - 0xF0⟩)
  else ([replacement], start)

def step (d : Decoder) (b : Nat) : List Char × Decoder :=
  if d.needed = 0 then lead b
  else if b < d.lower ∨ d.upper < b then (replacement :: (lead b).1, (lead b).2)
  else if d.needed = 1 then ([Char.ofNat (d.codePoint * 64 + (b - 0x80))], start)
  else ([], ⟨d.needed - 1, 0x80, 0xBF, d.codePoint * 64 + (b - 0x80)⟩)

/-- The characters that a chunk completes, and what is left over. -/
def write (d : Decoder) : List UInt8 → List Char × Decoder
  | [] => ([], d)
  | b :: bs =>
    let now := d.step b.toNat
    let later := write now.2 bs
    (now.1 ++ later.1, later.2)

/-- The end of the input; an unfinished character is replaced. -/
def finish (d : Decoder) : List Char := if d.needed = 0 then [] else [replacement]

theorem write_append (d : Decoder) (bs bs' : List UInt8) :
    d.write (bs ++ bs') =
      ((d.write bs).1 ++ ((d.write bs).2.write bs').1, ((d.write bs).2.write bs').2) := by
  induction bs generalizing d with
  | nil => rfl
  | cons b bs ih => simp [write, ih]

theorem step_start (b : Nat) : start.step b = lead b := rfl

theorem lead_one {b : Nat} (h : b ≤ 0x7F) : lead b = ([Char.ofNat b], start) := by
  simp [lead, h]

theorem lead_two {b : Nat} (h : 0xC2 ≤ b) (h' : b ≤ 0xDF) :
    lead b = ([], ⟨1, 0x80, 0xBF, b - 0xC0⟩) := by
  have hb : ¬ b ≤ 0x7F := by omega
  simp [lead, hb, h, h']

theorem lead_three {b : Nat} (h : 0xE0 ≤ b) (h' : b ≤ 0xEF) :
    lead b =
      ([], ⟨2, if b = 0xE0 then 0xA0 else 0x80, if b = 0xED then 0x9F else 0xBF, b - 0xE0⟩) := by
  have hb : ¬ b ≤ 0x7F := by omega
  have hb' : ¬ b ≤ 0xDF := by omega
  simp [lead, hb, hb', h, h']

theorem lead_four {b : Nat} (h : 0xF0 ≤ b) (h' : b ≤ 0xF4) :
    lead b =
      ([], ⟨3, if b = 0xF0 then 0x90 else 0x80, if b = 0xF4 then 0x8F else 0xBF, b - 0xF0⟩) := by
  have hb : ¬ b ≤ 0x7F := by omega
  have hb' : ¬ b ≤ 0xDF := by omega
  have hb'' : ¬ b ≤ 0xEF := by omega
  simp [lead, hb, hb', hb'', h, h']

theorem step_last {d : Decoder} {b : Nat} (hn : d.needed = 1) (hl : d.lower ≤ b)
    (hu : b ≤ d.upper) :
    d.step b = ([Char.ofNat (d.codePoint * 64 + (b - 0x80))], start) := by
  have h : ¬ (b < d.lower ∨ d.upper < b) := by omega
  simp [step, hn, h]

theorem step_inner {d : Decoder} {b n : Nat} (hn : d.needed = n + 2) (hl : d.lower ≤ b)
    (hu : b ≤ d.upper) :
    d.step b = ([], ⟨n + 1, 0x80, 0xBF, d.codePoint * 64 + (b - 0x80)⟩) := by
  have h : ¬ (b < d.lower ∨ d.upper < b) := by omega
  simp [step, hn, h]

theorem toNat_byte {n : Nat} (h : n < 256) : (UInt8.ofNat n).toNat = n := by
  simp [Nat.mod_eq_of_lt h]

/-- The code points of characters. -/
theorem charRange (c : Char) : c.toNat < 0xD800 ∨ 0xDFFF < c.toNat ∧ c.toNat < 0x110000 := c.valid

theorem write_encodeChar (c : Char) :
    start.write (String.utf8EncodeChar c) = ([c], start) := by
  have hrange := charRange c
  have hof : Char.ofNat c.toNat = c := Char.ofNat_toNat c
  have hval : c.val.toNat = c.toNat := rfl
  unfold String.utf8EncodeChar
  dsimp only
  rw [hval]
  by_cases h1 : c.toNat ≤ 0x7F
  · rw [if_pos h1]
    simp only [write, toNat_byte (show c.toNat < 256 by omega), step_start, lead_one h1, hof]
    rfl
  rw [if_neg h1]
  by_cases h2 : c.toNat ≤ 0x7FF
  · rw [if_pos h2]
    simp only [write]
    rw [toNat_byte (by omega), toNat_byte (by omega), step_start,
      lead_two (by omega) (by omega), step_last rfl (by dsimp only; omega) (by dsimp only; omega)]
    dsimp only
    rw [show (c.toNat / 64 % 0x20 + 0xc0 - 0xC0) * 64 + (c.toNat % 0x40 + 0x80 - 0x80) = c.toNat by
      omega, hof]
    rfl
  rw [if_neg h2]
  by_cases h3 : c.toNat ≤ 0xFFFF
  · rw [if_pos h3]
    simp only [write]
    rw [toNat_byte (by omega), toNat_byte (by omega), toNat_byte (by omega), step_start,
      lead_three (by omega) (by omega),
      step_inner (n := 0) rfl (by dsimp only; split <;> omega) (by dsimp only; split <;> omega),
      step_last rfl (by dsimp only; omega) (by dsimp only; omega)]
    dsimp only
    rw [show ((c.toNat / 4096 % 0x10 + 0xe0 - 0xE0) * 64 + (c.toNat / 64 % 0x40 + 0x80 - 0x80)) *
      64 + (c.toNat % 0x40 + 0x80 - 0x80) = c.toNat by omega, hof]
    rfl
  · rw [if_neg h3]
    simp only [write]
    rw [toNat_byte (by omega), toNat_byte (by omega), toNat_byte (by omega),
      toNat_byte (by omega), step_start, lead_four (by omega) (by omega),
      step_inner (n := 1) rfl (by dsimp only; split <;> omega) (by dsimp only; split <;> omega),
      step_inner (n := 0) rfl (by dsimp only; omega) (by dsimp only; omega),
      step_last rfl (by dsimp only; omega) (by dsimp only; omega)]
    dsimp only
    rw [show (((c.toNat / 262144 % 0x08 + 0xf0 - 0xF0) * 64 +
      (c.toNat / 4096 % 0x40 + 0x80 - 0x80)) * 64 + (c.toNat / 64 % 0x40 + 0x80 - 0x80)) * 64 +
      (c.toNat % 0x40 + 0x80 - 0x80) = c.toNat by omega, hof]
    rfl

theorem write_encode (s : List Char) : start.write (encode s) = (s, start) := by
  induction s with
  | nil => rfl
  | cons c s ih =>
    have hcons : encode (c :: s) = String.utf8EncodeChar c ++ encode s := List.flatMap_cons
    rw [hcons, write_append, write_encodeChar, ih]
    rfl

/-- Two chunks that make up encoded text are decoded to the text. -/
theorem write_chunks {bs bs' : List UInt8} {s : List Char} (h : bs ++ bs' = encode s) :
    (start.write bs).1 ++ (((start.write bs).2.write bs').1 ++
      ((start.write bs).2.write bs').2.finish) = s := by
  have hw := write_append start bs bs'
  rw [h, write_encode, Prod.mk.injEq] at hw
  rw [← hw.2, ← List.append_assoc, ← hw.1]
  exact List.append_nil s

end Decoder

/-- The text of complete input. -/
def decode (bs : List UInt8) : List Char :=
  (Decoder.start.write bs).1 ++ (Decoder.start.write bs).2.finish

theorem decode_encode (s : List Char) : decode (encode s) = s := by
  unfold decode
  rw [Decoder.write_encode]
  exact List.append_nil s

end NestUserService.Lib.Utf8
