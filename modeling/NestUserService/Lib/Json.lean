import NestUserService.Lib.Hex

/-!
# JSON texts

`JSON.stringify` without white space, and `JSON.parse` as a machine that reads one
character after the other with the open arrays and objects on a stack. What is written is
read back. Numbers are kept as they are written; escaped surrogates that have no partner
become the replacement character.
-/

namespace NestUserService.Lib

namespace Numeral

def skipDigits : List Char → Option (List Char)
  | [] => none
  | c :: s => if c.isDigit then some (s.dropWhile Char.isDigit) else none

/-- No digit follows a leading zero. -/
def skipInteger : List Char → Option (List Char)
  | '0' :: s => some s
  | s => skipDigits s

def skipFraction : List Char → Option (List Char)
  | '.' :: s => skipDigits s
  | s => some s

def skipExponent : List Char → Option (List Char)
  | [] => some []
  | c :: s =>
    if c = 'e' ∨ c = 'E' then
      if s.head? = some '+' ∨ s.head? = some '-' then skipDigits s.tail else skipDigits s
    else some (c :: s)

def skipNumber (s : List Char) : Option (List Char) :=
  skipInteger (if s.head? = some '-' then s.tail else s) >>= skipFraction >>= skipExponent

def isChar (c : Char) : Bool := c.isDigit || c ∈ ['+', '-', '.', 'e', 'E']

def IsValid (s : List Char) : Prop := (∀ c ∈ s, isChar c = true) ∧ skipNumber s = some []

instance (s : List Char) : Decidable (IsValid s) :=
  @instDecidableAnd _ _ (List.decidableBAll (fun c => isChar c = true) s) inferInstance

end Numeral

/-- The text of a JSON number. -/
structure Numeral where
  text : List Char
  valid : Numeral.IsValid text

/-- A number starts with a sign or a digit. -/
theorem Numeral.IsValid.cons {s : List Char} (h : Numeral.IsValid s) :
    ∃ c t, s = c :: t ∧ (c = '-' ∨ c.isDigit = true) := by
  cases s with
  | nil => exact absurd h.2 (by decide)
  | cons c t =>
    refine ⟨c, t, rfl, ?_⟩
    by_contra hno
    obtain ⟨hsign, hdigit⟩ := not_or.mp hno
    have hint : skipInteger (c :: t) = none := by
      unfold skipInteger
      split
      · rename_i heq
        obtain rfl : c = '0' := (List.cons.inj heq).1
        exact absurd (by decide) hdigit
      · exact if_neg hdigit
    have hskip : skipNumber (c :: t) = none := by
      have hhead : (c :: t).head? ≠ some '-' := by simpa using hsign
      rw [skipNumber, if_neg hhead, hint]
      rfl
    have hall := h.2
    rw [hskip] at hall
    cases hall

inductive Json where
  | null
  | bool (b : Bool)
  | num (n : Numeral)
  | str (s : List Char)
  | arr (items : List Json)
  | obj (members : List (List Char × Json))

namespace Json

/-- A property of a value; of equal keys the last one counts. -/
def get? (key : List Char) : Json → Option Json
  | obj members => members.reverse.lookup key
  | _ => none

/-- The letters of the short escapes, with the characters that they stand for. -/
def shortEscapes : List (Char × Char) :=
  [('"', '"'), ('\\', '\\'), ('b', Char.ofNat 8), ('t', Char.ofNat 9), ('n', Char.ofNat 10),
    ('f', Char.ofNat 12), ('r', Char.ofNat 13)]

def shortEscape? (c : Char) : Option Char :=
  (shortEscapes.find? fun p => p.2 = c).map Prod.fst

def escape (c : Char) : List Char :=
  match shortEscape? c with
  | some letter => ['\\', letter]
  | none =>
    if c.toNat < 32 then
      ['\\', 'u', '0', '0', Hex.digit (c.toNat / 16), Hex.digit (c.toNat % 16)]
    else [c]

def quote (s : List Char) : List Char := '"' :: (s.flatMap escape ++ ['"'])

mutual

def stringify : Json → List Char
  | null => "null".toList
  | bool true => "true".toList
  | bool false => "false".toList
  | num n => n.text
  | str s => quote s
  | arr [] => "[]".toList
  | arr (v :: items) => '[' :: (v.stringify ++ stringifyItems items)
  | obj [] => "\x7b\x7d".toList
  | obj ((k, v) :: members) =>
    '\x7b' :: (quote k ++ ':' :: (v.stringify ++ stringifyMembers members))

/-- The further items of an array. -/
def stringifyItems : List Json → List Char
  | [] => [']']
  | v :: items => ',' :: (v.stringify ++ stringifyItems items)

/-- The further members of an object. -/
def stringifyMembers : List (List Char × Json) → List Char
  | [] => ['\x7d']
  | (k, v) :: members => ',' :: (quote k ++ ':' :: (v.stringify ++ stringifyMembers members))

end

mutual

/-- `String(v)`; numbers as they are written. -/
def toText : Json → List Char
  | null => "null".toList
  | bool true => "true".toList
  | bool false => "false".toList
  | num n => n.text
  | str s => s
  | arr items => toTextItems items
  | obj _ => "[object Object]".toList

/-- The items of an array, joined with commas. -/
def toTextItems : List Json → List Char
  | [] => []
  | [null] => []
  | [v] => v.toText
  | null :: items => ',' :: toTextItems items
  | v :: items => v.toText ++ ',' :: toTextItems items

end

/-- A character of a text as it was read, or one `\u` escape. -/
inductive Piece where
  | char (c : Char)
  | unit (n : Nat)

def isHigh (n : Nat) : Bool := 0xD800 ≤ n && n < 0xDC00

def isLow (n : Nat) : Bool := 0xDC00 ≤ n && n < 0xE000

/-- The character of a unit that stands alone. -/
def ofUnit (n : Nat) : Char := if isHigh n || isLow n then Char.ofNat 0xFFFD else Char.ofNat n

def decode : List Piece → List Char
  | [] => []
  | .char c :: ps => c :: decode ps
  | .unit h :: .unit l :: ps =>
    if isHigh h && isLow l then
      Char.ofNat (0x10000 + (h - 0xD800) * 0x400 + (l - 0xDC00)) :: decode ps
    else ofUnit h :: decode (.unit l :: ps)
  | .unit n :: ps => ofUnit n :: decode ps

/-- An open array, or an open object with the key of its next member. The items and the
members that are complete stand in reverse. -/
inductive Frame where
  | arr (items : List Json)
  | obj (members : List (List Char × Json)) (key : List Char)

/-- What comes next. Texts, and the keys of objects, are collected in reverse. -/
inductive Mode where
  | value
  | first
  | firstKey
  | key
  | colon
  | after
  | text (isKey : Bool) (pieces : List Piece)
  | escaped (isKey : Bool) (pieces : List Piece)
  | hex (isKey : Bool) (pieces : List Piece) (n digits : Nat)
  | number (text : List Char)
  | word (rest : List Char) (v : Json)
  | done (v : Json)

structure Reader where
  stack : List Frame
  mode : Mode

/-- A value is complete. -/
def deliver (v : Json) : List Frame → Reader
  | [] => ⟨[], .done v⟩
  | .arr items :: stack => ⟨.arr (v :: items) :: stack, .after⟩
  | .obj members key :: stack => ⟨.obj ((key, v) :: members) key :: stack, .after⟩

def close (c : Char) : List Frame → Option Reader
  | .arr items :: stack => if c = ']' then some (deliver (arr items.reverse) stack) else none
  | .obj members _ :: stack => if c = '\x7d' then some (deliver (obj members.reverse) stack) else none
  | [] => none

/-- The first character of a value. -/
def open? (stack : List Frame) (c : Char) : Option Reader :=
  if c = '"' then some ⟨stack, .text false []⟩
  else if c = '[' then some ⟨.arr [] :: stack, .first⟩
  else if c = '\x7b' then some ⟨.obj [] [] :: stack, .firstKey⟩
  else if c = 'n' then some ⟨stack, .word "ull".toList null⟩
  else if c = 't' then some ⟨stack, .word "rue".toList (bool true)⟩
  else if c = 'f' then some ⟨stack, .word "alse".toList (bool false)⟩
  else if c = '-' ∨ c.isDigit then some ⟨stack, .number [c]⟩
  else none

def isSpace (c : Char) : Bool := c ∈ [' ', '\t', '\n', '\r']

/-- A character outside texts, numbers and words. -/
def between (r : Reader) (c : Char) : Option Reader :=
  if isSpace c then some r
  else match r.mode with
    | .value => open? r.stack c
    | .first => if c = ']' then close c r.stack else open? r.stack c
    | .firstKey =>
      if c = '\x7d' then close c r.stack
      else if c = '"' then some ⟨r.stack, .text true []⟩ else none
    | .key => if c = '"' then some ⟨r.stack, .text true []⟩ else none
    | .colon => if c = ':' then some ⟨r.stack, .value⟩ else none
    | .after =>
      if c = ',' then
        match r.stack with
        | .arr _ :: _ => some ⟨r.stack, .value⟩
        | .obj _ _ :: _ => some ⟨r.stack, .key⟩
        | [] => none
      else close c r.stack
    | _ => none

/-- A text has come to its end. -/
def endText (stack : List Frame) (isKey : Bool) (pieces : List Piece) : Option Reader :=
  if isKey then
    match stack with
    | .obj members _ :: stack => some ⟨.obj members (decode pieces.reverse) :: stack, .colon⟩
    | _ => none
  else some (deliver (str (decode pieces.reverse)) stack)

/-- A number comes to its end with the character after it. -/
def settle (r : Reader) : Option Reader :=
  match r.mode with
  | .number text =>
    if h : Numeral.IsValid text.reverse then some (deliver (num ⟨text.reverse, h⟩) r.stack) else none
  | _ => some r

def unescape? (letter : Char) : Option Char :=
  if letter = '/' then some '/' else shortEscapes.lookup letter

def step (r : Reader) (c : Char) : Option Reader :=
  match r.mode with
  | .text isKey pieces =>
    if c = '"' then endText r.stack isKey pieces
    else if c = '\\' then some { r with mode := .escaped isKey pieces }
    else if c.toNat < 32 then none
    else some { r with mode := .text isKey (.char c :: pieces) }
  | .escaped isKey pieces =>
    if c = 'u' then some { r with mode := .hex isKey pieces 0 0 }
    else (unescape? c).map fun d => { r with mode := .text isKey (.char d :: pieces) }
  | .hex isKey pieces n digits =>
    (Hex.value c).map fun d =>
      if digits = 3 then { r with mode := .text isKey (.unit (16 * n + d) :: pieces) }
      else { r with mode := .hex isKey pieces (16 * n + d) (digits + 1) }
  | .word (d :: rest) v =>
    if c = d then some (if rest = [] then deliver v r.stack else { r with mode := .word rest v })
    else none
  | .number text =>
    if Numeral.isChar c then some { r with mode := .number (c :: text) }
    else (settle r).bind fun r => between r c
  | _ => between r c

def read (r : Reader) (s : List Char) : Option Reader := s.foldlM step r

def finish (r : Reader) : Option Json :=
  (settle r).bind fun r =>
    match r.mode with
    | .done v => some v
    | _ => none

/-- `JSON.parse`; a text that is no JSON is refused. -/
def parse (s : List Char) : Option Json := (read ⟨[], .value⟩ s).bind finish

section RoundTrip

variable {stack : List Frame} {isKey : Bool} {pieces : List Piece} {r r' : Reader} {c : Char}

theorem read_cons (r : Reader) (c : Char) (s : List Char) :
    read r (c :: s) = (step r c).bind fun r => read r s := List.foldlM_cons

theorem read_append (r : Reader) (s t : List Char) :
    read r (s ++ t) = (read r s).bind fun r => read r t := List.foldlM_append

/-- The piece as which a character is read back. -/
def pieceOf (c : Char) : Piece :=
  if shortEscape? c = none ∧ c.toNat < 32 then .unit c.toNat else .char c

theorem shortEscape_some {letter : Char} (h : shortEscape? c = some letter) :
    letter ≠ 'u' ∧ unescape? letter = some c := by
  have hall : shortEscapes.all (fun p => p.1 ≠ 'u' ∧ unescape? p.1 = some p.2) = true := by decide
  obtain ⟨p, hp, rfl⟩ := Option.map_eq_some_iff.mp h
  obtain rfl : p.2 = c := by simpa using List.find?_some hp
  simpa using List.all_eq_true.mp hall p (List.mem_of_find?_eq_some hp)

theorem shortEscape_none (h : shortEscape? c = none) : c ≠ '"' ∧ c ≠ '\\' := by
  constructor
  · rintro rfl
    exact absurd h (by decide)
  · rintro rfl
    exact absurd h (by decide)

theorem read_escape (c : Char) : read ⟨stack, .text isKey pieces⟩ (escape c) =
    some ⟨stack, .text isKey (pieceOf c :: pieces)⟩ := by
  unfold escape pieceOf
  cases hs : shortEscape? c with
  | some letter =>
    obtain ⟨hu, hletter⟩ := shortEscape_some hs
    simp [read, step, hu, hletter]
  | none =>
    obtain ⟨hquote, hslash⟩ := shortEscape_none hs
    by_cases hc : c.toNat < 32
    · have hhigh := Hex.value_digit (n := c.toNat / 16) (by omega)
      have hlow := Hex.value_digit (n := c.toNat % 16) (by omega)
      have hzero : Hex.value '0' = some 0 := by decide
      have hsum : 16 * (c.toNat / 16) + c.toNat % 16 = c.toNat := by omega
      simp [read, step, hc, hzero, hhigh, hlow, hsum]
    · simp [read, step, hc, hquote, hslash]

theorem read_text (s : List Char) : read ⟨stack, .text isKey pieces⟩ (s.flatMap escape) =
    some ⟨stack, .text isKey ((s.map pieceOf).reverse ++ pieces)⟩ := by
  induction s generalizing pieces with
  | nil => rfl
  | cons c s ih =>
    rw [List.flatMap_cons, read_append, read_escape, Option.bind_some, ih]
    simp

theorem decode_pieceOf (s : List Char) : decode (s.map pieceOf) = s := by
  induction s with
  | nil => rfl
  | cons c s ih =>
    rw [List.map_cons]
    by_cases hc : shortEscape? c = none ∧ c.toNat < 32
    · have hhigh : isHigh c.toNat = false := by
        have hlt := hc.2
        simp [isHigh]
        omega
      have hlow : isLow c.toNat = false := by
        have hlt := hc.2
        simp [isLow]
        omega
      have hunit : ofUnit c.toNat = c := by simp [ofUnit, hhigh, hlow, Char.ofNat_toNat]
      rw [pieceOf, if_pos hc]
      -- A unit is looked at together with the piece after it.
      cases hrest : s.map pieceOf with
      | nil =>
        rw [hrest] at ih
        simp [decode, hunit, ← ih]
      | cons p ps =>
        rw [hrest] at ih
        cases p with
        | char d => simp [decode, hunit, ← ih]
        | unit n => simp [decode, hunit, hhigh, ← ih]
    · rw [pieceOf, if_neg hc, decode, ih]

theorem read_quoted (s : List Char) :
    read ⟨stack, .text isKey []⟩ (s.flatMap escape ++ ['"']) =
      endText stack isKey (s.map pieceOf).reverse := by
  rw [read_append, read_text, Option.bind_some, List.append_nil, read_cons]
  cases h : step ⟨stack, .text isKey (s.map pieceOf).reverse⟩ '"' with
  | none => exact h.symm
  | some r => exact h.symm

theorem endText_value (s : List Char) :
    endText stack false (s.map pieceOf).reverse = some (deliver (str s) stack) := by
  simp [endText, decode_pieceOf]

theorem read_key (members : List (List Char × Json)) (key s rest : List Char) :
    read ⟨.obj members key :: stack, .text true []⟩ (s.flatMap escape ++ ['"'] ++ ':' :: rest) =
      read ⟨.obj members s :: stack, .value⟩ rest := by
  rw [read_append, read_quoted]
  simp [endText, decode_pieceOf, read_cons, step, between, isSpace]

/-- The first character of a number has no other meaning. -/
theorem ne_of_sign (h : c = '-' ∨ c.isDigit = true) {d : Char}
    (hd : (d == '-' || d.isDigit) = false) : c ≠ d := by
  rintro rfl
  rcases h with rfl | hdigit
  · exact absurd hd (by decide)
  · simp [hdigit] at hd

theorem not_isSpace_of_sign (h : c = '-' ∨ c.isDigit = true) : isSpace c = false := by
  have hne {d : Char} (hd : (d == '-' || d.isDigit) = false) : c ≠ d := ne_of_sign h hd
  simp [isSpace, hne (d := ' ') (by decide), hne (d := '\t') (by decide),
    hne (d := '\n') (by decide), hne (d := '\r') (by decide)]

theorem step_number (h : c = '-' ∨ c.isDigit = true) :
    step ⟨stack, .value⟩ c = some ⟨stack, .number [c]⟩ := by
  have hne {d : Char} (hd : (d == '-' || d.isDigit) = false) : c ≠ d := ne_of_sign h hd
  simp [step, between, not_isSpace_of_sign h, open?, h, hne (d := '"') (by decide),
    hne (d := '[') (by decide), hne (d := '\x7b') (by decide), hne (d := 'n') (by decide),
    hne (d := 't') (by decide), hne (d := 'f') (by decide)]

theorem read_number {text s : List Char} (h : ∀ c ∈ s, Numeral.isChar c = true) :
    read ⟨stack, .number text⟩ s = some ⟨stack, .number (s.reverse ++ text)⟩ := by
  induction s generalizing text with
  | nil => rfl
  | cons c s ih =>
    have hc : step ⟨stack, .number text⟩ c = some ⟨stack, .number (c :: text)⟩ :=
      if_pos (h c List.mem_cons_self)
    rw [read_cons, hc, Option.bind_some, ih fun d hd => h d (List.mem_cons_of_mem c hd)]
    simp

/-- The character after a value is read as if the value were complete. -/
theorem read_settled (h : settle r = some r') (hmode : r'.mode = .after)
    (hc : Numeral.isChar c = false) (s : List Char) : read r (c :: s) = read r' (c :: s) := by
  obtain ⟨stack', mode'⟩ := r'
  obtain rfl : mode' = .after := hmode
  have hstep : step r c = step ⟨stack', .after⟩ c := by
    obtain ⟨stack, mode⟩ := r
    cases mode with
    | number text =>
      have hend : step ⟨stack, .number text⟩ c = (settle ⟨stack, .number text⟩).bind
          fun r => between r c := if_neg (by simp [hc])
      rw [hend, h]
      rfl
    | after =>
      cases h
      rfl
    | _ => cases h
  rw [read_cons, read_cons, hstep]

/-- The first character of a value. -/
theorem stringify_cons (v : Json) : ∃ c s, v.stringify = c :: s ∧ isSpace c = false ∧ c ≠ ']' := by
  cases v with
  | null => exact ⟨'n', _, rfl, by decide, by decide⟩
  | bool b =>
    cases b with
    | true => exact ⟨'t', _, rfl, by decide, by decide⟩
    | false => exact ⟨'f', _, rfl, by decide, by decide⟩
  | num n =>
    obtain ⟨c, s, hn, hc⟩ := n.valid.cons
    exact ⟨c, s, by rw [stringify, hn], not_isSpace_of_sign hc, ne_of_sign hc (by decide)⟩
  | str s => exact ⟨'"', _, by rw [stringify, quote], by decide, by decide⟩
  | arr items =>
    cases items with
    | nil => exact ⟨'[', _, by rw [stringify]; rfl, by decide, by decide⟩
    | cons v items => exact ⟨'[', _, by rw [stringify], by decide, by decide⟩
  | obj members =>
    cases members with
    | nil => exact ⟨'\x7b', _, by rw [stringify]; rfl, by decide, by decide⟩
    | cons m members => exact ⟨'\x7b', _, by rw [stringify], by decide, by decide⟩

theorem read_first (v : Json) (s : List Char) :
    read ⟨stack, .first⟩ (v.stringify ++ s) = read ⟨stack, .value⟩ (v.stringify ++ s) := by
  obtain ⟨c, t, hv, hspace, hclose⟩ := stringify_cons v
  have hstep : step ⟨stack, .first⟩ c = step ⟨stack, .value⟩ c := by
    simp [step, between, hspace, hclose]
  rw [hv, List.cons_append, read_cons, read_cons, hstep]

theorem settle_deliver (v : Json) (stack : List Frame) :
    settle (deliver v stack) = some (deliver v stack) := by
  cases stack with
  | nil => rfl
  | cons frame stack => cases frame <;> rfl

theorem read_after_items {v : Json} {done : List Json}
    (h : settle r = some (deliver v (.arr done :: stack))) (items : List Json) :
    read r (stringifyItems items) =
      read ⟨.arr (v :: done) :: stack, .after⟩ (stringifyItems items) := by
  cases items with
  | nil => exact read_settled h rfl (by decide) _
  | cons w items => exact read_settled h rfl (by decide) _

theorem read_after_members {v : Json} {done : List (List Char × Json)} {k : List Char}
    (h : settle r = some (deliver v (.obj done k :: stack)))
    (members : List (List Char × Json)) :
    read r (stringifyMembers members) =
      read ⟨.obj ((k, v) :: done) k :: stack, .after⟩ (stringifyMembers members) := by
  cases members with
  | nil => exact read_settled h rfl (by decide) _
  | cons m members => exact read_settled h rfl (by decide) _

mutual

/-- The text of a value is read as the value; a number is still open. -/
theorem read_stringify : ∀ (v : Json) (stack : List Frame), ∃ r,
    read ⟨stack, .value⟩ v.stringify = some r ∧ settle r = some (deliver v stack)
  | null, stack => ⟨_, rfl, settle_deliver null stack⟩
  | bool true, stack => ⟨_, rfl, settle_deliver (bool true) stack⟩
  | bool false, stack => ⟨_, rfl, settle_deliver (bool false) stack⟩
  | num n, stack => by
    obtain ⟨c, s, hn, hc⟩ := n.valid.cons
    have hall : ∀ d ∈ s, Numeral.isChar d = true := fun d hd => by
      exact n.valid.1 d (hn ▸ List.mem_cons_of_mem c hd)
    have htext : (s.reverse ++ [c]).reverse = n.text := by simp [hn]
    refine ⟨⟨stack, .number (s.reverse ++ [c])⟩, ?_, ?_⟩
    · rw [stringify, hn, read_cons, step_number hc, Option.bind_some, read_number hall]
    · simp only [settle, htext, dif_pos n.valid]
  | str s, stack => by
    refine ⟨_, ?_, settle_deliver (str s) stack⟩
    rw [stringify, quote, read_cons]
    exact (read_quoted s).trans (endText_value s)
  | arr [], stack => ⟨_, rfl, settle_deliver (arr []) stack⟩
  | arr (v :: items), stack => by
    refine ⟨_, ?_, settle_deliver (arr (v :: items)) stack⟩
    obtain ⟨r, hr, hsettle⟩ := read_stringify v (.arr [] :: stack)
    have hopen : step ⟨stack, .value⟩ '[' = some ⟨.arr [] :: stack, .first⟩ := rfl
    rw [stringify, read_cons, hopen, Option.bind_some, read_first, read_append, hr,
      Option.bind_some, read_after_items hsettle]
    exact read_items items [v] stack
  | obj [], stack => ⟨_, rfl, settle_deliver (obj []) stack⟩
  | obj ((k, v) :: members), stack => by
    refine ⟨_, ?_, settle_deliver (obj ((k, v) :: members)) stack⟩
    obtain ⟨r, hr, hsettle⟩ := read_stringify v (.obj [] k :: stack)
    have hopen : step ⟨stack, .value⟩ '\x7b' = some ⟨.obj [] [] :: stack, .firstKey⟩ := rfl
    have hkey : step ⟨.obj [] [] :: stack, .firstKey⟩ '"' =
        some ⟨.obj [] [] :: stack, .text true []⟩ := rfl
    rw [stringify, read_cons, hopen, Option.bind_some, quote, List.cons_append, read_cons, hkey,
      Option.bind_some, read_key, read_append, hr, Option.bind_some, read_after_members hsettle]
    exact read_members members [(k, v)] k stack

theorem read_items : ∀ (items done : List Json) (stack : List Frame),
    read ⟨.arr done :: stack, .after⟩ (stringifyItems items) =
      some (deliver (arr (done.reverse ++ items)) stack)
  | [], done, stack => by
    rw [stringifyItems, List.append_nil]
    rfl
  | v :: items, done, stack => by
    obtain ⟨r, hr, hsettle⟩ := read_stringify v (.arr done :: stack)
    have hcomma : step ⟨.arr done :: stack, .after⟩ ',' = some ⟨.arr done :: stack, .value⟩ := rfl
    rw [stringifyItems, read_cons, hcomma, Option.bind_some, read_append, hr, Option.bind_some,
      read_after_items hsettle]
    have hrest := read_items items (v :: done) stack
    rwa [List.reverse_cons, List.append_assoc] at hrest

theorem read_members : ∀ (members done : List (List Char × Json)) (key : List Char)
    (stack : List Frame), read ⟨.obj done key :: stack, .after⟩ (stringifyMembers members) =
      some (deliver (obj (done.reverse ++ members)) stack)
  | [], done, key, stack => by
    rw [stringifyMembers, List.append_nil]
    rfl
  | (k, v) :: members, done, key, stack => by
    obtain ⟨r, hr, hsettle⟩ := read_stringify v (.obj done k :: stack)
    have hcomma : step ⟨.obj done key :: stack, .after⟩ ',' = some ⟨.obj done key :: stack, .key⟩ :=
      rfl
    have hkey : step ⟨.obj done key :: stack, .key⟩ '"' =
        some ⟨.obj done key :: stack, .text true []⟩ := rfl
    rw [stringifyMembers, read_cons, hcomma, Option.bind_some, quote, List.cons_append, read_cons,
      hkey, Option.bind_some, read_key, read_append, hr, Option.bind_some,
      read_after_members hsettle]
    have hrest := read_members members ((k, v) :: done) k stack
    rwa [List.reverse_cons, List.append_assoc] at hrest

end

/-- What is written is read back. -/
theorem parse_stringify (v : Json) : parse v.stringify = some v := by
  obtain ⟨r, hr, hsettle⟩ := read_stringify v []
  rw [parse, hr, Option.bind_some, finish, hsettle]
  rfl

end RoundTrip

end Json

end NestUserService.Lib
