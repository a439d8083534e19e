import MaxKey.HexCodec

namespace MaxKey.ReciprocalUtils
open JavaException Effects OAuth2.Codecs

inductive Algorithm
  | DES
  | DESede
  | Blowfish
  | AES
  deriving DecidableEq

/-- What the platform provides. Its default charset turns texts into bytes as it likes. What is read
out of bytes in UTF-8 is specified for encodings only. A cipher takes keys of certain sizes, none of
them empty, and undoes under such a key what it does. -/
structure Platform where
  getBytes : String → List UInt8
  newString : List UInt8 → String
  newString_utf8Encode : ∀ text, newString (utf8Encode text) = text
  admits : Algorithm → ℕ → Bool
  admits_zero : ∀ algorithm, admits algorithm 0 = false
  encrypt : Algorithm → List UInt8 → List UInt8 → List UInt8
  decrypt : Algorithm → List UInt8 → List UInt8 → Option (List UInt8)
  decrypt_encrypt : ∀ algorithm key bytes, admits algorithm key.length = true →
    decrypt algorithm key (encrypt algorithm key bytes) = some bytes

/-! ### HexUtils -/

namespace HexUtils

def HEX_CHAR_TABLE : List Char := "0123456789abcdef".toList

def hexChar (i : ℕ) : Char := HEX_CHAR_TABLE.getD i '0'

def bytes2HexString (raw : Option (List UInt8)) : Except JavaException String :=
  raw.elim (.error nullPointer) fun raw =>
    .ok (String.ofList (raw.flatMap fun b => [hexChar (b.toNat >>> 4), hexChar (b.toNat &&& 0xF)]))

/-- The digit of a char as the byte that it is cut to: a char that is no digit is -1. -/
def digitOf (c : ℕ) : ℕ := (OAuth2.Character.digit (UInt16.ofNat c) % 256).toNat

def hexPairs : List ℕ → List UInt8
  | high :: low :: hex => UInt8.ofNat (digitOf high <<< 4 ||| digitOf low) :: hexPairs hex
  | _ => []

def hex2Bytes (hex : String) : List UInt8 := hexPairs (JavaText.utf16 hex)

end HexUtils

/-! ### The ciphers -/

def defaultKey : String := "l0JqT7NvIzP9oRaG4kFc1QmD_bWu3x8E5yS2h6"

/-- The length is that of the text, in chars. -/
def keyLengthCheck (secretKey : String) (algorithm : Algorithm) : Bool :=
  let length := (JavaText.utf16 secretKey).length
  match algorithm with
  | .DES => length = 8
  | .DESede => length = 24
  | .AES => length = 16
  | .Blowfish => length ≤ 16

section

variable (p : Platform)

/-- An empty key is refused, and null remains. -/
def generatorKey (secretKey : String) : Option (List UInt8) :=
  (some (p.getBytes secretKey)).filter fun bytes => bytes ≠ []

def generatorDefaultKey (algorithm : Algorithm) : Option (List UInt8) :=
  match algorithm with
  | .DES => generatorKey p (String.ofList (defaultKey.toList.take 8))
  | .AES | .Blowfish => generatorKey p (String.ofList (defaultKey.toList.take 16))
  | .DESede => generatorKey p (String.ofList (defaultKey.toList.take 24))

/-- Every exception is caught, and null is returned. -/
def encodeBytes (simpleBytes : List UInt8) (secretKey : Option (List UInt8)) (algorithm : Algorithm) :
    Option (List UInt8) :=
  (secretKey.filter fun key => p.admits algorithm key.length).map fun key =>
    p.encrypt algorithm key simpleBytes

def decoderBytes (ciphersBytes : List UInt8) (secretKey : Option (List UInt8))
    (algorithm : Algorithm) : Option (List UInt8) :=
  (secretKey.filter fun key => p.admits algorithm key.length).bind fun key =>
    p.decrypt algorithm key ciphersBytes

def encodeText (simple secretKey : String) (algorithm : Algorithm) : Option (List UInt8) :=
  if keyLengthCheck secretKey algorithm then
    encodeBytes p (utf8Encode simple) (generatorKey p secretKey) algorithm
  else none

/-- No text is made of a null. -/
def newText (bytes : Option (List UInt8)) : Except JavaException (Option String) :=
  bytes.elim (.error nullPointer) fun bytes => .ok (some (p.newString bytes))

def decoderText (ciphersBytes : List UInt8) (secretKey : String) (algorithm : Algorithm) :
    Except JavaException (Option String) :=
  if keyLengthCheck secretKey algorithm then
    newText p (decoderBytes p ciphersBytes (generatorKey p secretKey) algorithm)
  else .ok none

def encode2Hex (simple secretKey : String) (algorithm : Algorithm) :
    Except JavaException (Option String) :=
  if keyLengthCheck secretKey algorithm then
    some <$> HexUtils.bytes2HexString (encodeText p simple secretKey algorithm)
  else .ok none

def decoderHex (ciphers secretKey : String) (algorithm : Algorithm) :
    Except JavaException (Option String) :=
  if keyLengthCheck secretKey algorithm then
    decoderText p (HexUtils.hex2Bytes ciphers) secretKey algorithm
  else .ok none

/-- The text is written in the default charset. -/
def encodeByDefaultKey (simple : String) (algorithm : Algorithm) : Option (List UInt8) :=
  encodeBytes p (p.getBytes simple) (generatorDefaultKey p algorithm) algorithm

def encode2HexByDefaultKey (simple : String) (algorithm : Algorithm) :
    Except JavaException (Option String) :=
  some <$> HexUtils.bytes2HexString (encodeByDefaultKey p simple algorithm)

/-- The text is read in UTF-8. -/
def decoderHexByDefaultKey (ciphers : String) (algorithm : Algorithm) :
    Except JavaException (Option String) :=
  newText p (decoderBytes p (HexUtils.hex2Bytes ciphers) (generatorDefaultKey p algorithm) algorithm)

def encode (simple : String) : Except JavaException (Option String) :=
  encode2HexByDefaultKey p simple .AES

def decoder (ciphers : String) : Except JavaException (Option String) :=
  decoderHexByDefaultKey p ciphers .AES

end

/-! ### What is written is read back -/

/-- The writer returns a text, which the reader turns into the text that was written. -/
def ReadsBack (write read : String → Except JavaException (Option String)) (text : String) : Prop :=
  ∃ ciphers, write text = .ok (some ciphers) ∧ read ciphers = .ok (some text)

section

variable {p : Platform} {secretKey text : String} {algorithm : Algorithm}

namespace HexUtils

theorem digitOf_hexChar : ∀ i < 16, digitOf (hexChar i).toNat = i ∧ (hexChar i).toNat < 0x10000 := by
  decide +kernel

theorem utf16_hex (raw : List UInt8) :
    JavaText.utf16 (String.ofList (raw.flatMap fun b => [hexChar (b.toNat / 16), hexChar (b.toNat % 16)])) =
      raw.flatMap fun b => [(hexChar (b.toNat / 16)).toNat, (hexChar (b.toNat % 16)).toNat] := by
  unfold JavaText.utf16
  rw [String.toList_ofList, List.flatMap_assoc]
  apply List.flatMap_congr
  intro b _
  have hb := b.toNat_lt
  simp [(digitOf_hexChar (b.toNat / 16) (by omega)).2, (digitOf_hexChar (b.toNat % 16) (by omega)).2]

theorem hexPairs_flatMap (raw : List UInt8) : hexPairs (raw.flatMap fun b =>
    [(hexChar (b.toNat / 16)).toNat, (hexChar (b.toNat % 16)).toNat]) = raw := by
  induction raw with
  | nil => rfl
  | cons b raw ih =>
    have hb := b.toNat_lt
    have hjoin := OAuth2.Hex.join_nibbles b
    simp only [List.flatMap_cons, List.cons_append, List.nil_append, hexPairs, ih,
      (digitOf_hexChar (b.toNat / 16) (by omega)).1, (digitOf_hexChar (b.toNat % 16) (by omega)).1,
      hjoin, UInt8.ofNat_toNat]

theorem hex2Bytes_bytes2HexString (raw : List UInt8) :
    ∃ hex, bytes2HexString (some raw) = .ok hex ∧ hex2Bytes hex = raw := by
  refine ⟨_, rfl, ?_⟩
  have hnibbles : (fun b : UInt8 => [hexChar (b.toNat >>> 4), hexChar (b.toNat &&& 0xF)]) =
      fun b => [hexChar (b.toNat / 16), hexChar (b.toNat % 16)] := by
    funext b
    have hhigh : b.toNat >>> 4 = b.toNat / 16 := Nat.shiftRight_eq_div_pow b.toNat 4
    have hlow : b.toNat &&& 0xF = b.toNat % 16 := Nat.and_two_pow_sub_one_eq_mod b.toNat 4
    rw [hhigh, hlow]
  rw [hnibbles, hex2Bytes, utf16_hex, hexPairs_flatMap]

end HexUtils

/-- The bytes of the key are as many as the cipher takes. -/
def Fits (p : Platform) (secretKey : String) (algorithm : Algorithm) : Prop :=
  p.admits algorithm (p.getBytes secretKey).length = true

instance (p : Platform) (secretKey : String) (algorithm : Algorithm) :
    Decidable (Fits p secretKey algorithm) := inferInstanceAs (Decidable (_ = true))

theorem filter_generatorKey : ((generatorKey p secretKey).filter fun key =>
    p.admits algorithm key.length) =
      if Fits p secretKey algorithm then some (p.getBytes secretKey) else none := by
  unfold generatorKey Fits
  -- no key is made of no bytes, and no cipher takes such a key either
  by_cases hempty : p.getBytes secretKey = []
  · have hzero := p.admits_zero algorithm
    simp [hempty, hzero]
  · by_cases hadmits : p.admits algorithm (p.getBytes secretKey).length = true
    · simp [hempty, hadmits]
    · simp [hadmits]

theorem encodeBytes_eq (bytes : List UInt8) :
    encodeBytes p bytes (generatorKey p secretKey) algorithm =
      if Fits p secretKey algorithm then
        some (p.encrypt algorithm (p.getBytes secretKey) bytes) else none := by
  rw [encodeBytes, filter_generatorKey]
  split_ifs
  · rfl
  · rfl

theorem decoderBytes_encrypt (h : Fits p secretKey algorithm) (bytes : List UInt8) :
    decoderBytes p (p.encrypt algorithm (p.getBytes secretKey) bytes) (generatorKey p secretKey)
      algorithm = some bytes := by
  rw [decoderBytes, filter_generatorKey, if_pos h]
  exact p.decrypt_encrypt algorithm _ bytes h

/-- What goes through the cipher under a key and through the hexadecimal text comes back in UTF-8, if
the key fits. -/
theorem readsBack_iff {write read : String → Except JavaException (Option String)}
    {bytes : List UInt8}
    (hwrite : write text = some <$> HexUtils.bytes2HexString
      (encodeBytes p bytes (generatorKey p secretKey) algorithm))
    (hread : ∀ ciphers, read ciphers = newText p
      (decoderBytes p (HexUtils.hex2Bytes ciphers) (generatorKey p secretKey) algorithm)) :
    ReadsBack write read text ↔ Fits p secretKey algorithm ∧ p.newString bytes = text := by
  rw [encodeBytes_eq] at hwrite
  by_cases hfits : Fits p secretKey algorithm
  · obtain ⟨hex, hhex, hback⟩ :=
      HexUtils.hex2Bytes_bytes2HexString (p.encrypt algorithm (p.getBytes secretKey) bytes)
    have hwritten : write text = .ok (some hex) := by
      rw [hwrite, if_pos hfits, hhex]
      rfl
    -- the cipher undoes its work, and what is left is the charset
    have hdecoded : read hex = .ok (some (p.newString bytes)) := by
      rw [hread, hback, decoderBytes_encrypt hfits]
      rfl
    rw [ReadsBack, hwritten]
    constructor
    · rintro ⟨ciphers, hsame, hreads⟩
      rw [← Option.some.inj (Except.ok.inj hsame), hdecoded] at hreads
      exact ⟨hfits, Option.some.inj (Except.ok.inj hreads)⟩
    · rintro ⟨-, hsame⟩
      exact ⟨hex, rfl, by rw [hdecoded, hsame]⟩
  · rw [ReadsBack, hwrite, if_neg hfits]
    refine iff_of_false ?_ fun h => hfits h.1
    rintro ⟨ciphers, herror, -⟩
    cases herror

end

/-- A text that is encoded under a key of the length that is checked comes back exactly if the bytes of
the key in the default charset fit the cipher. Under the built-in key it comes back exactly if these
bytes do and the text in the default charset reads the same in UTF-8. -/
theorem reciprocal_iff (p : Platform) (secretKey text : String) (algorithm : Algorithm)
    (hlength : keyLengthCheck secretKey algorithm = true) :
    (ReadsBack (encode2Hex p · secretKey algorithm) (decoderHex p · secretKey algorithm) text ↔
      Fits p secretKey algorithm) ∧
    (ReadsBack (encode p) (decoder p) text ↔
      Fits p (String.ofList (defaultKey.toList.take 16)) .AES ∧ p.newString (p.getBytes text) = text) := by
  constructor
  · have hwrite : encode2Hex p text secretKey algorithm = some <$> HexUtils.bytes2HexString
        (encodeBytes p (utf8Encode text) (generatorKey p secretKey) algorithm) := by
      rw [encode2Hex, encodeText, if_pos hlength, if_pos hlength]
    have hread : ∀ ciphers, decoderHex p ciphers secretKey algorithm = newText p
        (decoderBytes p (HexUtils.hex2Bytes ciphers) (generatorKey p secretKey) algorithm) := by
      intro ciphers
      rw [decoderHex, decoderText, if_pos hlength, if_pos hlength]
    exact (readsBack_iff hwrite hread).trans (and_iff_left (p.newString_utf8Encode text))
  · exact readsBack_iff rfl fun _ => rfl

/-! ### A platform -/

/-- The AES cipher of a text under a key, and under the built-in one. -/
def testCipher (key : List UInt8) : List UInt8 :=
  if key = utf8Encode "0123456789abcdef" then
    [0x88, 0xda, 0x3e, 0xe1, 0x11, 0x3b, 0x9c, 0x49, 0xe9, 0x93, 0x7d, 0xfc, 0x09, 0x81, 0xa1, 0x73]
  else
    [0xf1, 0xc5, 0x97, 0xc4, 0x38, 0xcf, 0x23, 0x78, 0x45, 0x45, 0x46, 0x1d, 0x1c, 0x20, 0x6a, 0xf4]

/-- A bijection of the bytes that does to the text "secret" what AES does. -/
def swap (key bytes : List UInt8) : List UInt8 :=
  if bytes = utf8Encode "secret" then testCipher key
  else if bytes = testCipher key then utf8Encode "secret"
  else bytes

theorem swap_swap (key bytes : List UInt8) : swap key (swap key bytes) = bytes := by
  unfold swap
  split_ifs <;> simp_all

/-- A platform with a default charset. -/
def platformOf (getBytes : String → List UInt8) : Platform where
  getBytes := getBytes
  newString bytes := (utf8Decode bytes).toOption.getD "�"
  newString_utf8Encode text := by
    rw [utf8Decode_utf8Encode]
    rfl
  admits algorithm length :=
    match algorithm with
    | .DES => length = 8
    | .DESede => length = 24
    | .Blowfish => 0 < length ∧ length ≤ 56
    | .AES => length = 16 ∨ length = 24 ∨ length = 32
  admits_zero algorithm := by
    cases algorithm <;> rfl
  encrypt _ := swap
  decrypt _ key bytes := some (swap key bytes)
  decrypt_encrypt _ key bytes _ := congrArg some (swap_swap key bytes)

/-- ISO-8859-1, as far as it goes. -/
def latin1 (text : String) : List UInt8 :=
  text.toList.map fun c => if c.toNat < 256 then c.toNat.toUInt8 else 0x3F

theorem readsBack_secret :
    ReadsBack (encode2Hex (platformOf utf8Encode) · "0123456789abcdef" .AES)
      (decoderHex (platformOf utf8Encode) · "0123456789abcdef" .AES) "secret" ∧
    ReadsBack (encode (platformOf utf8Encode)) (decoder (platformOf utf8Encode)) "secret" := by
  have h := reciprocal_iff (platformOf utf8Encode) "0123456789abcdef" "secret" .AES (by decide +kernel)
  refine ⟨h.1.mpr (by decide +kernel), h.2.mpr ⟨by decide +kernel, ?_⟩⟩
  exact (platformOf utf8Encode).newString_utf8Encode "secret"

/-- A key of eight chars that has nine bytes gives no text, and a text in another charset than UTF-8
does not come back. -/
theorem accented :
    keyLengthCheck "clé45678" .DES = true ∧
    encode2Hex (platformOf utf8Encode) "secret" "clé45678" .DES = .error nullPointer ∧
    ¬ReadsBack (encode2Hex (platformOf utf8Encode) · "clé45678" .DES)
      (decoderHex (platformOf utf8Encode) · "clé45678" .DES) "secret" ∧
    ¬ReadsBack (encode (platformOf latin1)) (decoder (platformOf latin1)) "é" := by
  have herror : encode2Hex (platformOf utf8Encode) "secret" "clé45678" .DES = .error nullPointer := by
    decide +kernel
  have hlatin : ReadsBack (encode (platformOf latin1)) (decoder (platformOf latin1)) "é" ↔
      Fits (platformOf latin1) (String.ofList (defaultKey.toList.take 16)) .AES ∧
        (platformOf latin1).newString (latin1 "é") = "é" := readsBack_iff rfl fun _ => rfl
  refine ⟨by decide +kernel, herror, ?_, ?_⟩
  · rintro ⟨ciphers, hwritten, -⟩
    cases herror.symm.trans hwritten
  · rw [hlatin]
    decide +kernel

end MaxKey.ReciprocalUtils
