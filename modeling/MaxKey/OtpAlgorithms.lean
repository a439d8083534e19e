import Mathlib.Data.Nat.Size
import Mathlib.Tactic.IntervalCases
import Mathlib.Tactic.NormNum
import MaxKey.AccessTokenJson
import MaxKey.BigEndian
import MaxKey.HexCodec

namespace MaxKey.OtpAlgorithms
open JavaException Effects BigEndian OAuth2.Base64Codec

/-- The message authentication codes of the platform under their names. HmacSHA1 is one that every
platform has, so that its second name is never tried. -/
structure Provider where
  mac : String → Option (List UInt8 → List UInt8 → List UInt8)
  hmacSha1 : List UInt8 → List UInt8 → List UInt8
  mac_hmacSha1 : mac "HmacSHA1" = some hmacSha1
  length_hmacSha1 : ∀ key text, (hmacSha1 key text).length = 20

/-! ### Numbers of the platform -/

/-- Character.digit. -/
def digit (radix : ℕ) (c : Char) : Option ℕ :=
  let letter := (OAuth2.Character.letters.find? fun first =>
    first ≤ c.toNat ∧ c.toNat < first + 26).map fun first => c.toNat - first + 10
  ((OAuth2.Json.digit c).or letter).filter (· < radix)

/-- The number of a text that holds digits only. -/
def unsigned (radix : ℕ) (text : List Char) : Option ℕ :=
  if text = [] then none else (text.mapM (digit radix)).map (value radix)

namespace Integer

/-- The digits after a sign: hexadecimal, octal or decimal. -/
def magnitude : List Char → Option ℕ
  | '0' :: 'x' :: text => unsigned 16 text
  | '0' :: 'X' :: text => unsigned 16 text
  | '#' :: text => unsigned 16 text
  | '0' :: c :: text => unsigned 8 (c :: text)
  | text => unsigned 10 text

def decode (nm : String) : Except JavaException ℤ :=
  let value : Option ℤ := match nm.toList with
    | '-' :: text => (magnitude text).map fun n => -(n : ℤ)
    | '+' :: text => (magnitude text).map fun n => (n : ℤ)
    | text => (magnitude text).map fun n => (n : ℤ)
  (value.filter fun n => -2147483648 ≤ n ∧ n ≤ 2147483647).elim (.error numberFormat) .ok

end Integer

/-- BigInteger.toByteArray of a number that is not negative. -/
def toByteArray (n : ℕ) : List UInt8 := bytes (n.size / 8 + 1) n

/-! ### The steps that the generators share -/

/-- The loop that puts the moving factor into the text, from its last byte on. -/
def putMovingFactor : ℕ → ℤ → List UInt8 → List UInt8
  | 0, _, text => text
  | i + 1, movingFactor, text =>
    putMovingFactor i (movingFactor.shiftRight 8) (UInt8.ofNat (movingFactor % 256).toNat :: text)

def hmac_sha1 (p : Provider) (keyBytes text : List UInt8) : Except JavaException (List UInt8) :=
  if keyBytes = [] then .error (illegalArgument "Empty key") else .ok (p.hmacSha1 keyBytes text)

def byteAt (hash : List UInt8) (i : ℕ) : Except JavaException UInt8 :=
  (hash[i]?).elim (.error arrayIndexOutOfBounds) .ok

/-- The last four bits of a hash. -/
def offsetOf (hash : List UInt8) : Except JavaException ℕ := do
  let last ← byteAt hash (hash.length - 1)
  return last.toNat &&& 0xf

/-- The four bytes from the offset on, without the sign. -/
def binaryAt (hash : List UInt8) (offset : ℕ) : Except JavaException ℕ := do
  let first ← byteAt hash offset
  let second ← byteAt hash (offset + 1)
  let third ← byteAt hash (offset + 2)
  let fourth ← byteAt hash (offset + 3)
  return (first.toNat &&& 0x7f) <<< 24 ||| second.toNat <<< 16 ||| third.toNat <<< 8 ||| fourth.toNat

/-- The powers of ten that HOTP and TimeBasedOTP have, each in a table of its own. -/
def DIGITS_POWER : List ℕ :=
  [1, 10, 100, 1000, 10000, 100000, 1000000, 10000000, 100000000]

def powerAt (codeDigits : ℤ) : Except JavaException ℕ :=
  if codeDigits < 0 then .error arrayIndexOutOfBounds
  else (DIGITS_POWER[codeDigits.toNat]?).elim (.error arrayIndexOutOfBounds) .ok

/-- Zeros go before the number until the text has its length. -/
def padded (digits : ℤ) (otp : ℕ) : String :=
  String.ofList ((toString otp).toList.leftpad digits.toNat '0')

namespace HOTP

def doubleDigits : List ℕ := [0, 2, 4, 6, 8, 1, 3, 5, 7, 9]

/-- The sum over the last digits, every other one doubled. -/
def total : ℕ → ℕ → Bool → ℕ
  | 0, _, _ => 0
  | digits + 1, num, doubleDigit =>
    (if doubleDigit then doubleDigits.getD (num % 10) 0 else num % 10) +
      total digits (num / 10) !doubleDigit

def calcChecksum (num : ℕ) (digits : ℤ) : ℕ :=
  let result := total digits.toNat num true % 10
  if 0 < result then 10 - result else result

/-- The password for a text: its hash under the secret, truncated. -/
def ofText (p : Provider) (secret text : List UInt8) (codeDigits : ℤ) (addChecksum : Bool)
    (truncationOffset : ℤ) : Except JavaException String := do
  let digits := if addChecksum then codeDigits + 1 else codeDigits
  let hash ← hmac_sha1 p secret text
  let offset ← offsetOf hash
  let binary ← binaryAt hash
    (if 0 ≤ truncationOffset ∧ truncationOffset < (hash.length : ℤ) - 4 then truncationOffset.toNat
      else offset)
  let power ← powerAt codeDigits
  let otp := binary % power
  return padded digits (if addChecksum then otp * 10 + calcChecksum otp codeDigits else otp)

def generateOTP (p : Provider) (secret : List UInt8) (movingFactor codeDigits : ℤ)
    (addChecksum : Bool) (truncationOffset : ℤ) : Except JavaException String :=
  ofText p secret (putMovingFactor 8 movingFactor []) codeDigits addChecksum truncationOffset

end HOTP

namespace HmacOTP

/-- The remainder by a power of ten that is a floating point number: a power below one leaves less
than one. -/
def remainder (binary : ℕ) (codeDigits : ℤ) : ℕ :=
  if 0 ≤ codeDigits then binary % 10 ^ codeDigits.toNat else 0

def generateOTP (p : Provider) (secret : List UInt8) (movingFactor codeDigits : ℤ) :
    Except JavaException String := do
  let hash ← hmac_sha1 p secret (putMovingFactor 8 movingFactor [])
  let offset ← offsetOf hash
  let binary ← binaryAt hash offset
  return padded codeDigits (remainder binary codeDigits)

/-- The exceptions that are caught are never thrown. -/
def gen (p : Provider) (seed : List UInt8) (count digits : ℤ) : Except JavaException String :=
  generateOTP p seed count digits

end HmacOTP

namespace TimeBasedOTP

def hmac_sha (p : Provider) (crypto : String) (keyBytes text : List UInt8) :
    Except JavaException (List UInt8) :=
  (p.mac crypto).elim (.error (runtime "UndeclaredThrowableException")) fun mac =>
    if keyBytes = [] then .error (illegalArgument "Empty key") else .ok (mac keyBytes text)

/-- The first byte is that of the digits that were put before the text. -/
def hexStr2Bytes (hex : String) : Except JavaException (List UInt8) :=
  (unsigned 16 ('1' :: '0' :: hex.toList)).elim (.error numberFormat) fun n => .ok (toByteArray n).tail

/-- The password for a message: its hash under the key, truncated. -/
def ofBytes (p : Provider) (crypto : String) (k msg : List UInt8) (codeDigits : ℤ) :
    Except JavaException String := do
  let hash ← hmac_sha p crypto k msg
  let offset ← offsetOf hash
  let binary ← binaryAt hash offset
  let power ← powerAt codeDigits
  return padded codeDigits (binary % power)

/-- The time, filled with zeros up to eight bytes. -/
def messageOf (time : String) : Except JavaException (List UInt8) :=
  hexStr2Bytes (String.ofList (time.toList.leftpad 16 '0'))

def generateOTP (p : Provider) (key time returnDigits crypto : String) :
    Except JavaException String := do
  let codeDigits ← Integer.decode returnDigits
  let msg ← messageOf time
  let k ← hexStr2Bytes key
  ofBytes p crypto k msg codeDigits

def genOTP (p : Provider) (key time returnDigits : String) : Except JavaException String :=
  generateOTP p key time returnDigits "HmacSHA1"

def genOTPHmacSHA256 (p : Provider) (key time returnDigits : String) :
    Except JavaException String :=
  generateOTP p key time returnDigits "HmacSHA256"

def genOTPHmacSHA512 (p : Provider) (key time returnDigits : String) :
    Except JavaException String :=
  generateOTP p key time returnDigits "HmacSHA512"

end TimeBasedOTP

/-! ### Hexadecimal texts -/

/-- The encoder that the authenticators use, with letters in lower case. -/
def encodeHexString (data : List UInt8) : String :=
  String.ofList (data.flatMap fun b => [(b.toNat / 16).digitChar, (b.toNat % 16).digitChar])

/-- The character writes the digit, in either case. -/
def IsHexDigit (c : Char) (n : ℕ) : Prop := n < 16 ∧ (c = n.digitChar ∨ c = n.digitChar.toUpper)

/-- The text writes the digits. -/
def Spells (text : String) (ds : List ℕ) : Prop := List.Forall₂ IsHexDigit text.toList ds

/-- The text is an encoding of the bytes, two digits for each. -/
def EncodesBytes (text : String) (bs : List UInt8) : Prop :=
  Spells text ((bs.map UInt8.toNat).flatMap fun b => [b / 16, b % 16])

/-- The text is an encoding of the number in not more digits than eight bytes have. -/
def EncodesNumber (text : String) (n : ℕ) : Prop :=
  text.toList.length ≤ 16 ∧ ∃ ds, Spells text ds ∧ value 16 ds = n

section Hexadecimal

variable {c : Char} {n w : ℕ} {ds : List ℕ} {text : String} {chars : List Char} {bs : List UInt8}

theorem digit_of_isHexDigit (h : IsHexDigit c n) : digit 16 c = some n := by
  have hlower : ∀ n < 16, digit 16 n.digitChar = some n := by
    decide +kernel
  have hupper : ∀ n < 16, digit 16 n.digitChar.toUpper = some n := by
    decide +kernel
  obtain ⟨hlt, rfl | rfl⟩ := h
  · exact hlower n hlt
  · exact hupper n hlt

theorem mapM_digit (h : List.Forall₂ IsHexDigit chars ds) : chars.mapM (digit 16) = some ds := by
  induction h with
  | nil => rfl
  | cons hc _ ih => rw [List.mapM_cons, digit_of_isHexDigit hc, ih]; rfl

theorem lt_of_forall₂ (h : List.Forall₂ IsHexDigit chars ds) : ∀ d ∈ ds, d < 16 := by
  induction h with
  | nil => simp
  | cons hc _ ih => exact List.forall_mem_cons.mpr ⟨hc.1, ih⟩

theorem encodesBytes_encodeHexString (bs : List UInt8) : EncodesBytes (encodeHexString bs) bs := by
  unfold EncodesBytes Spells encodeHexString
  rw [String.toList_ofList]
  induction bs with
  | nil => exact .nil
  | cons b bs ih =>
    have hb := b.toNat_lt
    exact .cons ⟨by omega, .inl rfl⟩ (.cons ⟨by omega, .inl rfl⟩ ih)

/-- A byte that is positive comes before the bytes of the rest. -/
theorem toByteArray_eq {m n : ℕ} (hpos : 1 ≤ m) (hm : m < 128) (hn : n < 256 ^ w) :
    toByteArray (m * 256 ^ w + n) = UInt8.ofNat m :: bytes w n := by
  have hpow : 256 ^ w = 2 ^ (8 * w) := by
    norm_num [pow_mul]
  have hlow : 8 * w < (m * 256 ^ w + n).size := by
    rw [Nat.lt_size, ← hpow]
    calc 256 ^ w = 1 * 256 ^ w := (Nat.one_mul _).symm
      _ ≤ m * 256 ^ w := Nat.mul_le_mul_right _ hpos
      _ ≤ m * 256 ^ w + n := Nat.le_add_right _ _
  have hhigh : (m * 256 ^ w + n).size ≤ 8 * w + 7 := by
    rw [Nat.size_le, pow_add, ← hpow]
    calc m * 256 ^ w + n < m * 256 ^ w + 256 ^ w := by omega
      _ = (m + 1) * 256 ^ w := by ring
      _ ≤ 128 * 256 ^ w := Nat.mul_le_mul_right _ hm
      _ = 256 ^ w * 2 ^ 7 := by ring
  have hwidth : (m * 256 ^ w + n).size / 8 + 1 = w + 1 := by
    omega
  have hfirst : (m * 256 ^ w + n) / 256 ^ w = m := by
    rw [Nat.add_comm, Nat.add_mul_div_right _ _ (Nat.pow_pos (by decide)), Nat.div_eq_of_lt hn, Nat.zero_add]
  rw [toByteArray, hwidth, bytes_succ, hfirst, bytes_add_mul, Nat.mod_eq_of_lt (by omega : m < 256)]

namespace TimeBasedOTP

/-- An odd number of digits is read as if a zero went before them. -/
theorem hexStr2Bytes_of_spells (h : Spells text ds) :
    hexStr2Bytes text = .ok (bytes ((ds.length + 1) / 2) (value 16 ds)) := by
  have hlt := value_lt (lt_of_forall₂ h)
  have hsquare : ∀ w, 16 ^ (2 * w) = 256 ^ w := by
    intro w
    norm_num [pow_mul]
  have hone : digit 16 '1' = some 1 := by
    decide
  have hzero : digit 16 '0' = some 0 := by
    decide
  have hdigits : ('1' :: '0' :: text.toList).mapM (digit 16) = some (1 :: 0 :: ds) := by
    rw [List.mapM_cons, List.mapM_cons, hone, hzero, mapM_digit h]
    rfl
  have hvalue : value 16 (1 :: 0 :: ds) = 16 ^ (ds.length + 1) + value 16 ds := by
    rw [value_cons, value_cons, List.length_cons]
    ring
  have hbytes : (toByteArray (value 16 (1 :: 0 :: ds))).tail =
      bytes ((ds.length + 1) / 2) (value 16 ds) := by
    rw [hvalue]
    -- the digits 1 and 0 in front are a byte of their own, or half of one beside an odd digit
    obtain ⟨w, hw | hw⟩ := Nat.even_or_odd' ds.length
    · have hpow : 16 ^ (ds.length + 1) = 16 * 256 ^ w := by
        rw [hw, pow_succ', hsquare]
      have hless : value 16 ds < 256 ^ w := by
        rw [hw, hsquare] at hlt
        exact hlt
      rw [hpow, toByteArray_eq (by omega) (by omega) hless, List.tail_cons, hw]
      congr 1
      omega
    · have hpow : 16 ^ (ds.length + 1) = 1 * 256 ^ (w + 1) := by
        rw [hw, Nat.one_mul, Nat.add_assoc, ← hsquare]
        rfl
      have hless : value 16 ds < 256 ^ (w + 1) := by
        rw [hw] at hlt
        calc value 16 ds < 16 ^ (2 * w + 1) := hlt
          _ ≤ 16 ^ (2 * (w + 1)) := Nat.pow_le_pow_right (by omega) (by omega)
          _ = 256 ^ (w + 1) := hsquare (w + 1)
      rw [hpow, toByteArray_eq (by omega) (by omega) hless, List.tail_cons, hw]
      congr 1
      omega
  unfold hexStr2Bytes unsigned
  rw [if_neg (by simp), hdigits]
  exact congrArg Except.ok hbytes

theorem hexStr2Bytes_of_bytes (h : EncodesBytes text bs) : hexStr2Bytes text = .ok bs := by
  have hlength : ((bs.map UInt8.toNat).flatMap fun b => [b / 16, b % 16]).length =
      2 * bs.length := by
    simp [List.length_flatMap, Function.comp_def, Nat.mul_comm]
  have hhalf : (2 * bs.length + 1) / 2 = bs.length := by
    omega
  rw [hexStr2Bytes_of_spells h, hlength, hhalf, value_flatMap]
  exact congrArg Except.ok (bytes_number bs)

/-- The zeros in front fill the text up to eight bytes. -/
theorem messageOf_of_spells (h : Spells text ds) :
    messageOf text = .ok (bytes (max 8 ((ds.length + 1) / 2)) (value 16 ds)) := by
  have hzeros : ∀ k, List.Forall₂ IsHexDigit (List.replicate k '0') (List.replicate k 0) := by
    intro k
    induction k with
    | zero => exact .nil
    | succ k ih => exact .cons ⟨by decide, .inl rfl⟩ ih
  have hsame : text.toList.length = ds.length := h.length_eq
  have hpadded : Spells (String.ofList (text.toList.leftpad 16 '0'))
      (List.replicate (16 - ds.length) 0 ++ ds) := by
    unfold Spells
    rw [String.toList_ofList, List.leftpad, hsame]
    exact List.rel_append (hzeros _) h
  have hwidth : ((List.replicate (16 - ds.length) 0 ++ ds).length + 1) / 2 =
      max 8 ((ds.length + 1) / 2) := by
    rw [List.length_append, List.length_replicate]
    omega
  rw [messageOf, hexStr2Bytes_of_spells hpadded, hwidth, value_replicate_append]

theorem messageOf_eq (h : EncodesNumber text n) : messageOf text = .ok (bytes 8 n) := by
  obtain ⟨hlength, ds, hds, rfl⟩ := h
  have hsame : text.toList.length = ds.length := hds.length_eq
  have hwidth : max 8 ((ds.length + 1) / 2) = 8 := by
    omega
  rw [messageOf_of_spells hds, hwidth]

end TimeBasedOTP

end Hexadecimal

/-! ### Decimal texts -/

section Decimal

variable {c : Char} {cs : List Char} {n : ℕ} {d : ℤ}

theorem digit_json (h : c.isDigit = true) : OAuth2.Json.digit c = some (c.toNat - 48) := by
  have hrange : 48 ≤ c.toNat ∧ c.toNat ≤ 57 := Char.isDigit_iff_toNat.mp h
  have hfind : OAuth2.Json.zeroDigits.find? (fun first => first ≤ c.toNat ∧ c.toNat < first + 10) =
      some 48 := by
    have hfirst : 48 ≤ c.toNat ∧ c.toNat < 48 + 10 := by omega
    unfold OAuth2.Json.zeroDigits
    rw [List.find?_cons_of_pos (by simpa using hfirst)]
  rw [OAuth2.Json.digit, hfind]
  rfl

theorem digit_of_isDigit (h : c.isDigit = true) : digit 10 c = some (c.toNat - 48) := by
  have hrange : 48 ≤ c.toNat ∧ c.toNat ≤ 57 := Char.isDigit_iff_toNat.mp h
  have hless : c.toNat - 48 < 10 := by omega
  simp [digit, digit_json h, hless]

theorem mapM_digit_ten (h : ∀ c ∈ cs, c.isDigit = true) :
    cs.mapM (digit 10) = some (cs.map fun c => c.toNat - 48) := by
  induction cs with
  | nil => rfl
  | cons c cs ih =>
    rw [List.mapM_cons, digit_of_isDigit (h c List.mem_cons_self),
      ih fun x hx => h x (List.mem_cons_of_mem c hx)]
    rfl

theorem value_map (cs : List Char) :
    value 10 (cs.map fun c => c.toNat - 48) = Nat.ofDigitChars 10 cs 0 := by
  rw [Nat.ofDigitChars_eq_foldl, value, List.foldl_map]
  rfl

theorem unsigned_of_isDigit (hne : cs ≠ []) (h : ∀ c ∈ cs, c.isDigit = true) :
    unsigned 10 cs = some (Nat.ofDigitChars 10 cs 0) := by
  rw [unsigned, if_neg hne, mapM_digit_ten h, Option.map_some, value_map]

/-- A positive number is not written with a zero in front. -/
theorem toDigits_eq_cons (h : 0 < n) : ∃ c cs, Nat.toDigits 10 n = c :: cs ∧ c ≠ '0' := by
  induction n using Nat.strongRecOn with
  | ind n ih =>
    by_cases hn : n < 10
    · refine ⟨n.digitChar, [], Nat.toDigits_of_lt_base hn, ?_⟩
      intro hzero
      rw [Nat.digitChar_eq_zero] at hzero
      omega
    · obtain ⟨c, cs, hcs, hc⟩ := ih (n / 10) (by omega) (by omega)
      refine ⟨c, cs ++ [(n % 10).digitChar], ?_, hc⟩
      rw [Nat.toDigits_of_base_le (by decide) (by omega), hcs]
      rfl

namespace Integer

theorem magnitude_toDigits (n : ℕ) : magnitude (Nat.toDigits 10 n) = some n := by
  obtain rfl | hn := Nat.eq_zero_or_pos n
  · decide
  · have hdigits : ∀ c ∈ Nat.toDigits 10 n, c.isDigit = true :=
      fun c hc => Nat.isDigit_of_mem_toDigits (by decide) (by decide) hc
    have hunsigned := unsigned_of_isDigit Nat.toDigits_ne_nil hdigits
    rw [Nat.ofDigitChars_ten_toDigits] at hunsigned
    obtain ⟨c, cs, hcs, hc⟩ := toDigits_eq_cons hn
    rw [hcs] at hdigits hunsigned ⊢
    have hdigit : c.isDigit = true := hdigits c List.mem_cons_self
    have hhash : c ≠ '#' := by
      rintro rfl
      exact absurd hdigit (by decide)
    rw [← hunsigned]
    unfold magnitude
    split
    · exact absurd (List.cons.inj ‹_›).1 hc
    · exact absurd (List.cons.inj ‹_›).1 hc
    · exact absurd (List.cons.inj ‹_›).1 hhash
    · exact absurd (List.cons.inj ‹_›).1 hc
    · rfl

/-- The text of an int is decoded as the int. -/
theorem decode_toString (h : -2147483648 ≤ d ∧ d ≤ 2147483647) : decode (toString d) = .ok d := by
  have hvalue : ∀ value : Option ℤ, value = some d →
      (value.filter fun n => -2147483648 ≤ n ∧ n ≤ 2147483647).elim (.error numberFormat) .ok =
        (.ok d : Except JavaException ℤ) := by
    rintro _ rfl
    rw [Option.filter_some, if_pos (decide_eq_true h)]
    rfl
  apply hvalue
  obtain n | n := d
  · have htext : (toString (Int.ofNat n)).toList = Nat.toDigits 10 n := Nat.toList_repr
    have hsign : ∀ c ∈ Nat.toDigits 10 n, c ≠ '-' ∧ c ≠ '+' := by
      intro c hc
      have hdigit : c.isDigit = true := Nat.isDigit_of_mem_toDigits (by decide) (by decide) hc
      constructor
      · rintro rfl
        exact absurd hdigit (by decide)
      · rintro rfl
        exact absurd hdigit (by decide)
    rw [htext]
    split
    · rename_i heq
      exact absurd rfl (hsign '-' (by rw [heq]; exact List.mem_cons_self)).1
    · rename_i heq
      exact absurd rfl (hsign '+' (by rw [heq]; exact List.mem_cons_self)).2
    · rw [magnitude_toDigits]
      rfl
  · have htext : (toString (Int.negSucc n)).toList = '-' :: Nat.toDigits 10 (n + 1) := by
      rw [← Nat.toList_repr]
      exact String.toList_append
    rw [htext]
    simp only [magnitude_toDigits]
    rfl

end Integer

end Decimal

/-! ### The algorithm that the generators are to compute -/

/-- The number of the four bytes that begin where the last four bits of the hash say, without its
sign. -/
def dynamicTruncation (hash : List UInt8) : ℕ :=
  number ((hash.drop (number hash % 16)).take 4) % 2147483648

/-- The one-time password of RFC 4226. -/
def hotp (p : Provider) (secret : List UInt8) (counter digits : ℕ) : String :=
  padded digits (dynamicTruncation (p.hmacSha1 secret (bytes 8 counter)) % 10 ^ digits)

section Generators

variable {p : Provider} {secret hash : List UInt8} {counter d : ℕ} {truncationOffset : ℤ}

theorem isDigit_hotp : ∀ c ∈ (hotp p secret counter d).toList, c.isDigit = true := by
  intro c hc
  unfold hotp padded at hc
  rw [String.toList_ofList, List.leftpad, List.mem_append, List.mem_replicate] at hc
  obtain ⟨-, rfl⟩ | hc := hc
  · rfl
  · exact Nat.isDigit_of_mem_toDigits (by decide) (by decide) (Nat.toList_repr ▸ hc)

theorem length_hotp (h : 0 < d) : (hotp p secret counter d).toList.length = d := by
  have hless : dynamicTruncation (p.hmacSha1 secret (bytes 8 counter)) % 10 ^ d < 10 ^ d :=
    Nat.mod_lt _ (Nat.pow_pos (by decide))
  have hshort := (Nat.length_toDigits_le_iff (by decide) h).mpr hless
  unfold hotp padded
  rw [String.toList_ofList, List.length_leftpad, Int.toNat_natCast]
  exact max_eq_left (Nat.toList_repr ▸ hshort)

/-- Every turn of the loop takes one byte off the number. -/
theorem putMovingFactor_eq (w n : ℕ) (text : List UInt8) :
    putMovingFactor w n text = bytes w n ++ text := by
  induction w generalizing n text with
  | zero => rfl
  | succ w ih =>
    have hshift : Int.shiftRight n 8 = ((n / 256 : ℕ) : ℤ) := Int.shiftRight_eq_div_pow n 8
    have hbyte : ((n : ℤ) % 256).toNat = n % 256 := by
      omega
    rw [putMovingFactor, hshift, hbyte, ih, bytes_concat, List.append_assoc]
    rfl

theorem byteAt_of_lt {i : ℕ} (h : i < hash.length) : byteAt hash i = .ok hash[i] := by
  rw [byteAt, List.getElem?_eq_getElem h]
  rfl

theorem number_concat (bs : List UInt8) (b : UInt8) : number (bs ++ [b]) = number bs * 256 + b.toNat := by
  rw [number, List.map_append, List.map_singleton, value_concat]
  rfl

theorem offsetOf_eq (h : hash ≠ []) : offsetOf hash = .ok (number hash % 16) := by
  obtain ⟨bs, last, rfl⟩ := List.eq_nil_or_concat' hash |>.resolve_left h
  have hlast : (bs ++ [last]).length - 1 < (bs ++ [last]).length := by
    simp
  have hmask : last.toNat &&& 0xf = last.toNat % 16 := Nat.and_two_pow_sub_one_eq_mod last.toNat 4
  have hmod : number (bs ++ [last]) % 16 = last.toNat % 16 := by
    rw [number_concat]
    omega
  rw [offsetOf, byteAt_of_lt hlast, hmod, ← hmask]
  simp

/-- The shifted bytes are put together as in a number. -/
theorem binaryAt_eq {i : ℕ} (h : i + 4 ≤ hash.length) :
    binaryAt hash i = .ok (number ((hash.drop i).take 4) % 2147483648) := by
  have hbytes : (hash.drop i).take 4 = [hash[i], hash[i + 1], hash[i + 2], hash[i + 3]] := by
    rw [List.drop_eq_getElem_cons (by omega), List.drop_eq_getElem_cons (by omega),
      List.drop_eq_getElem_cons (by omega), List.drop_eq_getElem_cons (by omega)]
    rfl
  have hor : ∀ a b c e : ℕ, b < 256 → c < 256 → e < 256 →
      (a &&& 0x7f) <<< 24 ||| b <<< 16 ||| c <<< 8 ||| e =
        (((a * 256 + b) * 256 + c) * 256 + e) % 2147483648 := by
    intro a b c e hb hc he
    have hmask : a &&& 0x7f = a % 128 := Nat.and_two_pow_sub_one_eq_mod a 7
    have htwo : (a % 128) * 2 ^ 24 ||| b * 2 ^ 16 = (a % 128) * 2 ^ 24 + b * 2 ^ 16 :=
      or_eq_add 24 (by omega) (by omega)
    have hthree : ((a % 128) * 2 ^ 24 + b * 2 ^ 16) ||| c * 2 ^ 8 =
        (a % 128) * 2 ^ 24 + b * 2 ^ 16 + c * 2 ^ 8 := or_eq_add 16 (by omega) (by omega)
    have hfour : ((a % 128) * 2 ^ 24 + b * 2 ^ 16 + c * 2 ^ 8) ||| e =
        (a % 128) * 2 ^ 24 + b * 2 ^ 16 + c * 2 ^ 8 + e := or_eq_add 8 (by omega) (by omega)
    rw [hmask, Nat.shiftLeft_eq, Nat.shiftLeft_eq, Nat.shiftLeft_eq, htwo, hthree, hfour]
    omega
  have hnumber : number [hash[i], hash[i + 1], hash[i + 2], hash[i + 3]] =
      ((hash[i].toNat * 256 + hash[i + 1].toNat) * 256 + hash[i + 2].toNat) * 256 +
        hash[i + 3].toNat := by
    simp only [number, value, List.map_cons, List.map_nil, List.foldl_cons, List.foldl_nil]
    ring
  rw [hbytes, hnumber, ← hor _ _ _ _ (UInt8.toNat_lt _) (UInt8.toNat_lt _) (UInt8.toNat_lt _), binaryAt,
    byteAt_of_lt (by omega), byteAt_of_lt (by omega), byteAt_of_lt (by omega), byteAt_of_lt (by omega)]
  rfl

theorem dynamic_eq (h : hash.length = 20) : ∃ offset, offset < 16 ∧ offsetOf hash = .ok offset ∧
    binaryAt hash offset = .ok (dynamicTruncation hash) := by
  have hne : hash ≠ [] := by
    rintro rfl
    simp at h
  have hless : number hash % 16 < 16 := Nat.mod_lt _ (by decide)
  exact ⟨_, hless, offsetOf_eq hne, binaryAt_eq (by omega)⟩

theorem powerAt_of_le (h : d ≤ 8) : powerAt d = .ok (10 ^ d) := by
  interval_cases d <;> rfl

/-- The tables end with the power that eight digits need. -/
theorem powerAt_of_lt (h : 8 < d) : powerAt d = .error arrayIndexOutOfBounds := by
  have hnone : DIGITS_POWER[d]? = none := List.getElem?_eq_none h
  rw [powerAt, if_neg (by omega), Int.toNat_natCast, hnone]
  rfl

theorem hmac_sha1_eq (h : secret ≠ []) (text : List UInt8) :
    hmac_sha1 p secret text = .ok (p.hmacSha1 secret text) := if_neg h

/-- What HOTP does without a checksum and with a truncation that depends on the hash. -/
theorem HOTP.generateOTP_eq (h : secret ≠ []) (ht : truncationOffset < 0 ∨ 16 ≤ truncationOffset) :
    HOTP.generateOTP p secret counter d false truncationOffset =
      if d ≤ 8 then .ok (hotp p secret counter d) else .error arrayIndexOutOfBounds := by
  have hlength := p.length_hmacSha1 secret (bytes 8 counter)
  obtain ⟨offset, -, hoffset, hbinary⟩ := dynamic_eq hlength
  have hdynamic : ¬(0 ≤ truncationOffset ∧
      truncationOffset < ((p.hmacSha1 secret (bytes 8 counter)).length : ℤ) - 4) := by
    omega
  have htext : putMovingFactor 8 counter [] = bytes 8 counter := by
    rw [putMovingFactor_eq, List.append_nil]
  simp only [HOTP.generateOTP, HOTP.ofText, htext, hmac_sha1_eq h, bind, Except.bind, hoffset, if_neg hdynamic,
    hbinary]
  by_cases hd : d ≤ 8
  · rw [if_pos hd, powerAt_of_le hd]
    rfl
  · rw [if_neg hd, powerAt_of_lt (by omega)]

theorem HmacOTP.generateOTP_eq (h : secret ≠ []) :
    HmacOTP.generateOTP p secret counter d = .ok (hotp p secret counter d) := by
  have hlength := p.length_hmacSha1 secret (bytes 8 counter)
  obtain ⟨offset, -, hoffset, hbinary⟩ := dynamic_eq hlength
  have htext : putMovingFactor 8 counter [] = bytes 8 counter := by
    rw [putMovingFactor_eq, List.append_nil]
  have hremainder : ∀ binary, HmacOTP.remainder binary d = binary % 10 ^ d := by
    intro binary
    rw [HmacOTP.remainder, if_pos (Int.natCast_nonneg d), Int.toNat_natCast]
  simp only [HmacOTP.generateOTP, htext, hmac_sha1_eq h, bind, Except.bind, hoffset, hbinary,
    hremainder]
  rfl

theorem TimeBasedOTP.generateOTP_eq {key time : String} (h : secret ≠ [])
    (hkey : EncodesBytes key secret) (htime : EncodesNumber time counter) (hd : d ≤ 2147483647) :
    TimeBasedOTP.generateOTP p key time (toString (d : ℤ)) "HmacSHA1" =
      if d ≤ 8 then .ok (hotp p secret counter d) else .error arrayIndexOutOfBounds := by
  have hlength := p.length_hmacSha1 secret (bytes 8 counter)
  obtain ⟨offset, -, hoffset, hbinary⟩ := dynamic_eq hlength
  have hdigits : Integer.decode (toString (d : ℤ)) = .ok (d : ℤ) :=
    Integer.decode_toString ⟨by omega, by omega⟩
  have hhash : TimeBasedOTP.hmac_sha p "HmacSHA1" secret (bytes 8 counter) =
      .ok (p.hmacSha1 secret (bytes 8 counter)) := by
    rw [TimeBasedOTP.hmac_sha, p.mac_hmacSha1, Option.elim_some, if_neg h]
  simp only [TimeBasedOTP.generateOTP, TimeBasedOTP.ofBytes, hdigits,
    TimeBasedOTP.hexStr2Bytes_of_bytes hkey, TimeBasedOTP.messageOf_eq htime, bind, Except.bind, hhash,
    hoffset, hbinary]
  by_cases hle : d ≤ 8
  · rw [if_pos hle, powerAt_of_le hle]
    rfl
  · rw [if_neg hle, powerAt_of_lt (by omega)]

/-- The three generators return one text of so many decimal digits. -/
def Agree (p : Provider) (secret : List UInt8) (counter d : ℕ) (truncationOffset : ℤ)
    (key time : String) : Prop :=
  ∃ code : String,
    HOTP.generateOTP p secret counter d false truncationOffset = .ok code ∧
    HmacOTP.generateOTP p secret counter d = .ok code ∧
    TimeBasedOTP.generateOTP p key time (toString (d : ℤ)) "HmacSHA1" = .ok code ∧
    code.toList.length = d ∧ ∀ c ∈ code.toList, c.isDigit = true

end Generators

/-- The generators agree on a number of digits from four to ten as long as the tables have its power
of ten. -/
theorem agree_iff {p : Provider} {secret : List UInt8} {counter d : ℕ} {truncationOffset : ℤ}
    {key time : String} (hsecret : secret ≠ []) (hd : 4 ≤ d ∧ d ≤ 10)
    (ht : truncationOffset < 0 ∨ 16 ≤ truncationOffset) (hkey : EncodesBytes key secret)
    (htime : EncodesNumber time counter) :
    Agree p secret counter d truncationOffset key time ↔ d ≤ 8 := by
  have htotp := TimeBasedOTP.generateOTP_eq (p := p) hsecret hkey htime (d := d) (by omega)
  constructor
  · rintro ⟨code, hcode, -⟩
    rw [HOTP.generateOTP_eq hsecret ht] at hcode
    by_contra hle
    rw [if_neg hle] at hcode
    cases hcode
  · intro hle
    refine ⟨hotp p secret counter d, ?_, HmacOTP.generateOTP_eq hsecret, ?_, ?_, isDigit_hotp⟩
    · rw [HOTP.generateOTP_eq hsecret ht, if_pos hle]
    · rw [htotp, if_pos hle]
    · exact length_hotp (by omega)

/-! ### A hash of the standard -/

/-- The secret of the test values of RFC 4226. -/
def testSecret : List UInt8 := "12345678901234567890".toList.map fun c => c.toNat.toUInt8

/-- The hashes of some counters under that secret. -/
def testHash (text : List UInt8) : List UInt8 :=
  if number text = 7 then
    [0xa4, 0xfb, 0x96, 0x0c, 0x0b, 0xc0, 0x6e, 0x1e, 0xab, 0xb8, 0x04, 0xe5, 0xb3, 0x97, 0xcd, 0xc4,
      0xb4, 0x55, 0x96, 0xfa]
  else if number text = 10 then
    [0x9b, 0x9d, 0xd5, 0xef, 0x9a, 0x9a, 0xd2, 0x5d, 0xd7, 0x3b, 0xf9, 0xac, 0xce, 0xa6, 0x6f, 0x89,
      0xa1, 0x25, 0xe8, 0x73]
  else if number text = 16 then
    [0x2a, 0xdd, 0x83, 0x74, 0x26, 0x26, 0x47, 0xdb, 0xc2, 0x6c, 0xdc, 0xd0, 0x60, 0xb0, 0x9a, 0x55,
      0xbd, 0xf9, 0x1c, 0xbc]
  else
    [0xcc, 0x93, 0xcf, 0x18, 0x50, 0x8d, 0x94, 0x93, 0x4c, 0x64, 0xb6, 0x5d, 0x8b, 0xa7, 0x66, 0x7f,
      0xb7, 0xcd, 0xe4, 0xb0]

theorem length_testHash (text : List UInt8) : (testHash text).length = 20 := by
  unfold testHash
  split_ifs
  · rfl
  · rfl
  · rfl
  · rfl

def testProvider : Provider where
  mac crypto := if crypto = "HmacSHA1" then some fun _ text => testHash text else none
  hmacSha1 _ text := testHash text
  mac_hmacSha1 := if_pos rfl
  length_hmacSha1 _ := length_testHash

example : hotp testProvider testSecret 0 6 = "755224" := by
  decide +kernel

theorem encodesNumber_zero : EncodesNumber "0" 0 := by
  refine ⟨by decide, [0], ?_, rfl⟩
  exact .cons ⟨by decide, .inl rfl⟩ .nil

theorem agree_six :
    Agree testProvider testSecret 0 6 (-1) (encodeHexString testSecret) "0" :=
  (agree_iff (by decide) (by decide) (by decide) (encodesBytes_encodeHexString testSecret)
    encodesNumber_zero).mpr (by decide)

/-- Nine digits are within the range, but there is no power of ten for them. -/
theorem nine_digits : EncodesBytes (encodeHexString testSecret) testSecret ∧ EncodesNumber "0" 0 ∧
    ¬Agree testProvider testSecret 0 9 (-1) (encodeHexString testSecret) "0" := by
  refine ⟨encodesBytes_encodeHexString testSecret, encodesNumber_zero, ?_⟩
  rintro ⟨code, hcode, -⟩
  have herror : HOTP.generateOTP testProvider testSecret (0 : ℕ) (9 : ℕ) false (-1) =
      .error arrayIndexOutOfBounds := HOTP.generateOTP_eq (by decide) (by decide)
  rw [herror] at hcode
  cases hcode

end MaxKey.OtpAlgorithms
