import Mathlib.Logic.Equiv.Basic
import NestUserService.Lib.QueryString
import NestUserService.Auth.Handlers

/-!
# The link in the verification mail

`encryptClientCode` and `decryptClientCode` down to their bytes, the URL that
`sendMemberJoinVerification` builds, and what the verify route reads from it. The cipher
is a parameter; how it cuts its output between `update` and `final` is left open.
-/

namespace NestUserService.Auth.VerificationLink

open Lib NestUserService.Core

/-- AES-256-CBC for a key, an IV and the data of one `update`. -/
structure Aes256Cbc where
  encryptUpdate : List UInt8 → List UInt8 → List UInt8 → List UInt8
  encryptFinal : List UInt8 → List UInt8 → List UInt8 → List UInt8
  decryptUpdate : List UInt8 → List UInt8 → List UInt8 → List UInt8
  decryptFinal : List UInt8 → List UInt8 → List UInt8 → Except Exn (List UInt8)

/-- Decryption with the same key and IV undoes encryption. -/
def Aes256Cbc.Inverts (aes : Aes256Cbc) : Prop :=
  ∀ key iv data, key.length = 32 → iv.length = 16 →
    ∃ rest, aes.decryptFinal key iv (aes.encryptUpdate key iv data ++ aes.encryptFinal key iv data)
        = .ok rest ∧
      aes.decryptUpdate key iv (aes.encryptUpdate key iv data ++ aes.encryptFinal key iv data) ++
        rest = data

/-- `Buffer.from(s)`. -/
def utf8 (s : String) : List UInt8 := Utf8.encode s.toList

/-- The checks of `createCipheriv` and `createDecipheriv`. -/
def createCipher (key iv : List UInt8) : Except Exn Unit :=
  if iv.length ≠ 16 then .error (.typeError "Invalid initialization vector")
  else if key.length ≠ 32 then .error (.error "Invalid key length")
  else .ok ()

/-- `encryptClientCode`, for the IV that was drawn. -/
def encryptClientCode (aes : Aes256Cbc) (secretKey : String) (iv : List UInt8)
    (clientCode : String) : Except Exn String := do
  createCipher (utf8 secretKey) iv
  let encrypted := Hex.encode (aes.encryptUpdate (utf8 secretKey) iv (utf8 clientCode)) ++
    Hex.encode (aes.encryptFinal (utf8 secretKey) iv (utf8 clientCode))
  return String.ofList (Hex.encode iv ++ ':' :: encrypted)

/-- The `length` of a string of the source, which counts UTF-16 units. -/
def utf16Length : List Char → Nat
  | [] => 0
  | c :: s => (if c.toNat < 65536 then 1 else 2) + utf16Length s

/-- `validateEncoding` of the cipher, for hexadecimal data of odd length. -/
def invalidHexLength (length : Nat) : Exn :=
  .typeError ("The argument 'encoding' is invalid for data of length " ++ toString length ++
    ". Received 'hex'")

/-- `decryptClientCode` after the `split`. The two calls share a string decoder. -/
def decryptPieces (aes : Aes256Cbc) (secretKey ivHex : String) (encryptedData : Option String) :
    Except Exn String := do
  let iv := Hex.decode ivHex.toList
  createCipher (utf8 secretKey) iv
  match encryptedData with
  | none => throw (.typeError ("The \"data\" argument must be of type string or an instance of " ++
      "Buffer, TypedArray, or DataView. Received undefined"))
  | some encryptedData =>
    let length := utf16Length encryptedData.toList
    if length % 2 ≠ 0 then throw (invalidHexLength length)
    let data := Hex.decode encryptedData.toList
    let (decrypted, decoder) := Utf8.Decoder.start.write (aes.decryptUpdate (utf8 secretKey) iv data)
    let last ← aes.decryptFinal (utf8 secretKey) iv data
    let (rest, decoder) := decoder.write last
    return String.ofList (decrypted ++ (rest ++ decoder.finish))

/-- The service with this cipher and key. -/
def withCipher (env : Env) (aes : Aes256Cbc) (secretKey : String) : Env :=
  { env with aesDecrypt := decryptPieces aes secretKey }

/-- The URL of `sendMemberJoinVerification`. -/
def verificationUrl (encryptedClientCode signupVerifyToken : String) : String :=
  "http://localhost:3000" ++ "/users/email/auth/verify?signupVerifyToken=" ++ signupVerifyToken ++
    "&code=" ++ encryptedClientCode

/-- The fields that the server reads from the query of a URL. -/
def queryFields (url : String) : Fields :=
  (QueryString.parse (QueryString.query url.toList)).map fun p =>
    (String.ofList p.1, .string (String.ofList p.2))

/-- The characters of a uuid. -/
def UuidText (token : String) : Prop := ∀ c ∈ token.toList, Hex.IsDigit c ∨ c = '-'

theorem createCipher_ok {key iv : List UInt8} (hkey : key.length = 32) (hiv : iv.length = 16) :
    createCipher key iv = .ok () := by
  simp [createCipher, hkey, hiv]

theorem utf16Length_of_short {s : List Char} (h : ∀ c ∈ s, c.toNat < 65536) :
    utf16Length s = s.length := by
  induction s with
  | nil => rfl
  | cons c s ih =>
    have hc : c.toNat < 65536 := h c List.mem_cons_self
    have hs : utf16Length s = s.length := ih fun d hd => h d (List.mem_cons_of_mem c hd)
    rw [utf16Length, if_pos hc, hs, List.length_cons]
    omega

theorem utf16Length_encode (bs : List UInt8) : utf16Length (Hex.encode bs) = 2 * bs.length := by
  have hshort : ∀ c ∈ Hex.encode bs, c.toNat < 65536 := by
    intro c hc
    obtain ⟨n, hn, rfl⟩ := Hex.isDigit_of_mem_encode hc
    exact (by decide : ∀ n < 16, (Hex.digit n).toNat < 65536) n hn
  rw [utf16Length_of_short hshort, Hex.length_encode]

/-- The text that `encryptClientCode` returns. -/
def cipherText (aes : Aes256Cbc) (secretKey : String) (iv : List UInt8) (clientCode : String) :
    List Char :=
  Hex.encode (aes.encryptUpdate (utf8 secretKey) iv (utf8 clientCode) ++
    aes.encryptFinal (utf8 secretKey) iv (utf8 clientCode))

section RoundTrip

variable {aes : Aes256Cbc} {secretKey : String} {iv : List UInt8}

theorem encryptClientCode_eq (hkey : (utf8 secretKey).length = 32) (hiv : iv.length = 16)
    (clientCode : String) :
    encryptClientCode aes secretKey iv clientCode =
      .ok (String.ofList (Hex.encode iv ++ ':' :: cipherText aes secretKey iv clientCode)) := by
  unfold encryptClientCode
  rw [createCipher_ok hkey hiv, cipherText, Hex.encode_append]
  rfl

theorem decryptPieces_cipherText (h : aes.Inverts) (hkey : (utf8 secretKey).length = 32)
    (hiv : iv.length = 16) (clientCode : String) :
    decryptPieces aes secretKey (String.ofList (Hex.encode iv))
      (some (String.ofList (cipherText aes secretKey iv clientCode))) = .ok clientCode := by
  obtain ⟨rest, hfinal, htext⟩ := h (utf8 secretKey) iv (utf8 clientCode) hkey hiv
  have heven : utf16Length (cipherText aes secretKey iv clientCode) % 2 = 0 := by
    rw [cipherText, utf16Length_encode]
    exact Nat.mul_mod_right 2 _
  have hchunks := Utf8.Decoder.write_chunks htext
  unfold decryptPieces
  simp only [String.toList_ofList, Hex.decode_encode, createCipher_ok hkey hiv, heven, ne_eq,
    not_true_eq_false, if_false]
  rw [cipherText, Hex.decode_encode, hfinal]
  exact congrArg Except.ok ((congrArg String.ofList hchunks).trans String.ofList_toList)

theorem notMem_hex {c : Char} (h : ∀ n < 16, c ≠ Hex.digit n) {s : List Char}
    (hs : ∀ d ∈ s, Hex.IsDigit d ∨ d = '-' ∨ d = ':') (hd : c ≠ '-') (hc : c ≠ ':') : c ∉ s := by
  intro hm
  rcases hs c hm with ⟨n, hn, rfl⟩ | rfl | rfl
  · exact h n hn rfl
  · exact hd rfl
  · exact hc rfl

/-- Hexadecimal digits, dashes and colons mean nothing in a query. -/
theorem plain_of_digits {s : List Char} (hs : ∀ d ∈ s, Hex.IsDigit d ∨ d = '-' ∨ d = ':') :
    QueryString.Plain s := by
  intro c hc hspecial
  revert hc
  simp only [List.mem_cons, List.not_mem_nil, or_false] at hspecial
  rcases hspecial with rfl | rfl | rfl | rfl | rfl <;>
    exact notMem_hex (by decide) hs (by decide) (by decide)

theorem cipher_digits (clientCode : String) :
    ∀ d ∈ Hex.encode iv ++ ':' :: cipherText aes secretKey iv clientCode,
      Hex.IsDigit d ∨ d = '-' ∨ d = ':' := by
  intro d hd
  rcases List.mem_append.mp hd with hd | hd
  · exact Or.inl (Hex.isDigit_of_mem_encode hd)
  · rcases List.mem_cons.mp hd with rfl | hd
    · exact Or.inr (Or.inr rfl)
    · exact Or.inl (Hex.isDigit_of_mem_encode hd)

/-- The URL before its query. -/
def verifyPath : List Char := "http://localhost:3000".toList ++ "/users/email/auth/verify".toList

def linkFields (code token : List Char) : List (List Char × List Char) :=
  [("signupVerifyToken".toList, token), ("code".toList, code)]

theorem toList_verificationUrl (code token : String) :
    (verificationUrl code token).toList =
      verifyPath ++ '?' :: QueryString.render (linkFields code.toList token.toList) := by
  have htoken : "/users/email/auth/verify?signupVerifyToken=".toList =
      "/users/email/auth/verify".toList ++ '?' :: ("signupVerifyToken".toList ++ ['=']) := by rfl
  have hcode : "&code=".toList = '&' :: ("code".toList ++ ['=']) := by rfl
  unfold verificationUrl verifyPath linkFields
  rw [QueryString.render_two, String.toList_append, String.toList_append, String.toList_append,
    String.toList_append, htoken, hcode]
  simp only [List.append_assoc, List.cons_append, List.nil_append]

theorem plain_linkFields {code token : List Char} (hcode : QueryString.Plain code)
    (htoken : QueryString.Plain token) :
    ∀ p ∈ linkFields code token, QueryString.Plain p.1 ∧ QueryString.Plain p.2 := by
  have hname : QueryString.Plain "signupVerifyToken".toList := by decide
  have hname' : QueryString.Plain "code".toList := by decide
  intro p hp
  rcases List.mem_cons.mp hp with rfl | hp
  · exact ⟨hname, htoken⟩
  · rw [List.mem_singleton.mp hp]
    exact ⟨hname', hcode⟩

theorem notMem_hash_link {code token : List Char} (hcode : QueryString.Plain code)
    (htoken : QueryString.Plain token) :
    '#' ∉ verifyPath ++ '?' :: QueryString.render (linkFields code token) := by
  have hpath : '#' ∉ verifyPath := by decide
  have hname : '#' ∉ "signupVerifyToken".toList := by decide
  have hname' : '#' ∉ "code".toList := by decide
  have hc : '#' ∉ code := hcode.notMem (by simp)
  have ht : '#' ∉ token := htoken.notMem (by simp)
  unfold linkFields
  rw [QueryString.render_two]
  simp only [List.mem_append, List.mem_cons, hpath, hname, hname', hc, ht, false_or, or_false,
    not_or]
  decide

/-- The query of the URL is read back as the two values that were put in. -/
theorem queryFields_verificationUrl {code token : String}
    (hcode : QueryString.Plain code.toList) (htoken : QueryString.Plain token.toList) :
    queryFields (verificationUrl code token) =
      [("signupVerifyToken", .string token), ("code", .string code)] := by
  have hpath : '?' ∉ verifyPath := by decide
  have hparse : QueryString.parse (QueryString.render (linkFields code.toList token.toList)) =
      linkFields code.toList token.toList :=
    QueryString.parse_render (List.cons_ne_nil _ _) (plain_linkFields hcode htoken)
  rw [queryFields, toList_verificationUrl,
    QueryString.query_append hpath (notMem_hash_link hcode htoken), hparse]
  simp only [linkFields, List.map_cons, List.map_nil, String.ofList_toList]

/-- The verify route gets back the token and, decrypted, the client code that the mail was
made for. -/
theorem verification_link_roundtrip (env : Env) (haes : aes.Inverts)
    (hkey : (utf8 secretKey).length = 32) (hiv : iv.length = 16) (clientCode : String)
    {token : String} (htoken : UuidText token) :
    ∃ encrypted, encryptClientCode aes secretKey iv clientCode = .ok encrypted ∧
      (queryFields (verificationUrl encrypted token)).get "signupVerifyToken" = .string token ∧
      decryptClientCode (withCipher env aes secretKey)
        ((queryFields (verificationUrl encrypted token)).get "code") = .ok clientCode := by
  let text := Hex.encode iv ++ ':' :: cipherText aes secretKey iv clientCode
  have hfields : queryFields (verificationUrl (String.ofList text) token) =
      [("signupVerifyToken", .string token), ("code", .string (String.ofList text))] := by
    apply queryFields_verificationUrl
    · rw [String.toList_ofList]
      exact plain_of_digits (cipher_digits clientCode)
    · exact plain_of_digits fun d hd => (htoken d hd).imp id Or.inl
  refine ⟨String.ofList text, encryptClientCode_eq hkey hiv clientCode, ?_, ?_⟩
  · rw [hfields]
    rfl
  · have hsplit : text.splitOn ':' =
        [Hex.encode iv, cipherText aes secretKey iv clientCode] := by
      have hiv' : ':' ∉ Hex.encode iv := Hex.notMem_encode (by decide) iv
      have htext : ':' ∉ cipherText aes secretKey iv clientCode := Hex.notMem_encode (by decide) _
      rw [List.splitOn_append_cons_self, List.splitOn_eq_singleton hiv',
        List.splitOn_eq_singleton htext]
      rfl
    rw [hfields]
    change decryptClientCode (withCipher env aes secretKey) (.string (String.ofList text)) = _
    unfold decryptClientCode
    dsimp only
    rw [String.toList_ofList, hsplit]
    exact decryptPieces_cipherText haes hkey hiv clientCode

end RoundTrip

/-- Padding to whole blocks: the number of added bytes is their value. -/
def pad (data : List UInt8) : List UInt8 :=
  data ++ List.replicate (16 - data.length % 16) (UInt8.ofNat (16 - data.length % 16))

def unpad (block : List UInt8) : List UInt8 :=
  block.take (block.length - (block.getLastD 0).toNat)

/-- The code "acme", and its encryption under `sampleKey` and `sampleIv`. -/
def samplePlain : List UInt8 := pad (utf8 "acme")

def sampleCipher : List UInt8 :=
  [206, 134, 145, 244, 243, 160, 73, 207, 59, 47, 191, 212, 61, 244, 150, 46]

def sampleKey : String := "your-32byte-secret-key-string!!!"

def sampleIv : List UInt8 := [0, 1, 2, 3, 4, 5, 6, 7, 8, 9, 10, 11, 12, 13, 14, 15]

def samplePerm (key iv : List UInt8) : Equiv.Perm (List UInt8) :=
  if key = utf8 sampleKey ∧ iv = sampleIv then Equiv.swap samplePlain sampleCipher
  else Equiv.refl _

/-- A cipher that has the right value for the sample key, IV and code. -/
def Aes256Cbc.sample : Aes256Cbc where
  encryptUpdate key iv data :=
    (samplePerm key iv (pad data)).take ((pad data).length - 16)
  encryptFinal key iv data :=
    (samplePerm key iv (pad data)).drop ((pad data).length - 16)
  decryptUpdate key iv data := (samplePerm key iv data).take (data.length - 16)
  decryptFinal key iv data := .ok (unpad ((samplePerm key iv data).drop (data.length - 16)))

theorem samplePerm_self (key iv data : List UInt8) :
    samplePerm key iv (samplePerm key iv data) = data := by
  unfold samplePerm
  split
  · exact Equiv.swap_apply_self _ _ _
  · rfl

theorem length_samplePerm (key iv data : List UInt8) :
    (samplePerm key iv data).length = data.length := by
  unfold samplePerm
  split
  · by_cases h : data = samplePlain
    · rw [h, Equiv.swap_apply_left]
      decide
    · by_cases h' : data = sampleCipher
      · rw [h', Equiv.swap_apply_right]
        decide
      · rw [Equiv.swap_apply_of_ne_of_ne h h']
  · rfl

theorem unpad_pad (data : List UInt8) :
    (pad data).take ((pad data).length - 16) ++ unpad ((pad data).drop ((pad data).length - 16)) =
      data := by
  obtain ⟨n, hn⟩ : ∃ n, n = 16 - data.length % 16 := ⟨_, rfl⟩
  have hbound : 0 < n ∧ n ≤ 16 ∧ 16 ≤ data.length + n := by omega
  obtain ⟨m, rfl⟩ := Nat.exists_eq_succ_of_ne_zero (Nat.pos_iff_ne_zero.mp hbound.1)
  have hpad : pad data = data ++ List.replicate (m + 1) (UInt8.ofNat (m + 1)) := by
    rw [pad, ← hn]
  have hbyte : (UInt8.ofNat (m + 1)).toNat = m + 1 := Utf8.Decoder.toNat_byte (by omega)
  rw [hpad, List.length_append, List.length_replicate]
  generalize hk : data.length + (m + 1) - 16 = k
  have hle : k ≤ data.length := by omega
  have hlast : (data.drop k ++ List.replicate (m + 1) (UInt8.ofNat (m + 1))).getLastD 0 =
      UInt8.ofNat (m + 1) := by
    rw [List.replicate_succ', ← List.append_assoc]
    exact List.getLastD_concat
  have hunpad : unpad (data.drop k ++ List.replicate (m + 1) (UInt8.ofNat (m + 1))) =
      data.drop k := by
    rw [unpad, hlast, hbyte, List.length_append, List.length_replicate, Nat.add_sub_cancel]
    exact List.take_left
  rw [List.take_append_of_le_length hle, List.drop_append_of_le_length hle, hunpad]
  exact List.take_append_drop k data

theorem sample_inverts : Aes256Cbc.sample.Inverts := by
  intro key iv data _ _
  have hlen : (samplePerm key iv (pad data)).length = (pad data).length := length_samplePerm _ _ _
  simp only [Aes256Cbc.sample, List.take_append_drop, samplePerm_self, hlen]
  exact ⟨_, rfl, unpad_pad data⟩

example : encryptClientCode .sample sampleKey sampleIv "acme" =
    .ok "000102030405060708090a0b0c0d0e0f:ce8691f4f3a049cf3b2fbfd43df4962e" := by
  decide +kernel

def sampleToken : String := "9b1deb4d-3b7d-4bad-9bdd-2b0d7b3dcb6d"

theorem uuidText_sample : UuidText sampleToken := by
  have hall : (sampleToken.toList.all fun c =>
      ((List.range 16).map Hex.digit).contains c || c == '-') = true := by decide
  intro c hc
  have h := List.all_eq_true.mp hall c hc
  rw [Bool.or_eq_true, List.contains_iff_mem, beq_iff_eq] at h
  refine h.imp (fun hm => ?_) id
  obtain ⟨n, hn, rfl⟩ := List.mem_map.mp hm
  exact ⟨n, List.mem_range.mp hn, rfl⟩

theorem verification_link_roundtrip_sample :
    ∃ encrypted, encryptClientCode .sample sampleKey sampleIv "acme" = .ok encrypted ∧
      (queryFields (verificationUrl encrypted sampleToken)).get "signupVerifyToken" =
        .string sampleToken ∧
      decryptClientCode (withCipher Env.sample .sample sampleKey)
        ((queryFields (verificationUrl encrypted sampleToken)).get "code") = .ok "acme" :=
  verification_link_roundtrip Env.sample sample_inverts (by decide) (by decide) "acme"
    uuidText_sample

end NestUserService.Auth.VerificationLink
