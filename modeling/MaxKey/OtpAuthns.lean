import MaxKey.Logon
import MaxKey.OtpAlgorithms

namespace MaxKey.OtpAuthns
open OtpAlgorithms JavaException Effects BigEndian

/-- The settings of an authenticator. The number of digits is an int. -/
structure AbstractOptAuthn where
  interval : ℤ := 30
  digits : ℤ := 6
  crypto : String := "HmacSHA1"
  digits_int : -2147483648 ≤ digits ∧ digits ≤ 2147483647 := by decide

structure HotpOtpAuthn extends AbstractOptAuthn where
  addChecksum : Bool := false
  truncation : ℤ := -1

def parseLong (text : Option String) : Except JavaException ℤ :=
  (text.bind OAuth2.Json.longValueOf).elim (.error numberFormat) .ok

def orNull {α : Type} (a : Option α) : Except JavaException α := a.elim (.error nullPointer) .ok

/-- Long.toHexString and toUpperCase, in two's complement. -/
def toHexString (n : ℤ) : String :=
  String.ofList ((Nat.toDigits 16 (n % 18446744073709551616).toNat).map Char.toUpper)

/-- The password of TimeBasedOTP under the configured algorithm, and the empty text under another.
The time is asked for where the algorithm is known. -/
def AbstractOptAuthn.generate (a : AbstractOptAuthn) (p : Provider) (hexSharedSecret : String)
    (time : Except JavaException String) : Except JavaException String :=
  if JavaText.equalsIgnoreCase a.crypto "HmacSHA1" then
    time >>= fun time => TimeBasedOTP.genOTP p hexSharedSecret time (toString a.digits)
  else if JavaText.equalsIgnoreCase a.crypto "HmacSHA256" then
    time >>= fun time => TimeBasedOTP.genOTPHmacSHA256 p hexSharedSecret time (toString a.digits)
  else if JavaText.equalsIgnoreCase a.crypto "HmacSHA512" then
    time >>= fun time => TimeBasedOTP.genOTPHmacSHA512 p hexSharedSecret time (toString a.digits)
  else .ok ""

section

variable (p : Provider) (base32 : String → List UInt8)

namespace CounterBasedOtpAuthn

/-- The password that is expected. The stored counter is handed over as it is. -/
def expected (a : AbstractOptAuthn) (userInfo : UserInfo) : Except JavaException String := do
  let byteSharedSecret ← orNull (userInfo.sharedSecret.map base32)
  a.generate p (encodeHexString byteSharedSecret) (orNull userInfo.sharedCounter)

def validate (a : AbstractOptAuthn) (userInfo : UserInfo) (token : String) :
    Except JavaException Bool := do
  let counterBasedToken ← expected p base32 a userInfo
  return JavaText.equalsIgnoreCase token counterBasedToken

/-- The key and the message that the stored secret and counter are decoded to. -/
def decoded (userInfo : UserInfo) : Except JavaException (List UInt8 × List UInt8) := do
  let byteSharedSecret ← orNull (userInfo.sharedSecret.map base32)
  let time ← orNull userInfo.sharedCounter
  let msg ← TimeBasedOTP.messageOf time
  let k ← TimeBasedOTP.hexStr2Bytes (encodeHexString byteSharedSecret)
  return (k, msg)

end CounterBasedOtpAuthn

namespace HotpOtpAuthn

/-- A secret that is null is refused by the key, after the counter has been read. -/
def secretOf (userInfo : UserInfo) : Except JavaException (List UInt8) :=
  (userInfo.sharedSecret.map base32).elim (.error (illegalArgument "Missing argument")) .ok

def expected (a : HotpOtpAuthn) (userInfo : UserInfo) : Except JavaException String := do
  let counter ← parseLong userInfo.sharedCounter
  let byteSharedSecret ← secretOf base32 userInfo
  HOTP.generateOTP p byteSharedSecret counter a.digits a.addChecksum a.truncation

/-- The exceptions that are caught are never thrown. -/
def validate (a : HotpOtpAuthn) (userInfo : UserInfo) (token : String) :
    Except JavaException Bool := do
  let hotpToken ← expected p base32 a userInfo
  return JavaText.equalsIgnoreCase token hotpToken

/-- The key and the text that the stored secret and counter are decoded to. -/
def decoded (userInfo : UserInfo) : Except JavaException (List UInt8 × List UInt8) := do
  let counter ← parseLong userInfo.sharedCounter
  let byteSharedSecret ← secretOf base32 userInfo
  return (byteSharedSecret, putMovingFactor 8 counter [])

end HotpOtpAuthn

namespace TimeBasedOtpAuthn

/-- The steps since the epoch. -/
def timeStep (a : AbstractOptAuthn) (now : ℕ) : Except JavaException ℤ :=
  if a.interval = 0 then .error (runtime "/ by zero") else .ok (((now / 1000 : ℕ) : ℤ).tdiv a.interval)

def expected (a : AbstractOptAuthn) (now : ℕ) (userInfo : UserInfo) :
    Except JavaException String := do
  let byteSharedSecret ← orNull (userInfo.sharedSecret.map base32)
  a.generate p (encodeHexString byteSharedSecret) (toHexString <$> timeStep a now)

def validate (a : AbstractOptAuthn) (now : ℕ) (userInfo : UserInfo) (token : String) :
    Except JavaException Bool := do
  let timeBasedToken ← expected p base32 a now userInfo
  return JavaText.equalsIgnoreCase token timeBasedToken

end TimeBasedOtpAuthn

end

/-! ### Counters in decimal digits -/

section Counters

variable {text : String} {cs : List Char} {p : Provider} {base32 : String → List UInt8}
  {a : AbstractOptAuthn} {userInfo : UserInfo} {secret counter : String}

/-- The digits of a decimal text. -/
def digitsOf (text : String) : List ℕ := text.toList.map fun c => c.toNat - 48

/-- The text writes a counter: it has digits and nothing else. -/
def Decimal (text : String) : Prop := text.toList ≠ [] ∧ ∀ c ∈ text.toList, c.isDigit = true

instance (text : String) : Decidable (Decimal text) :=
  decidable_of_iff (text.toList ≠ [] ∧ text.toList.all Char.isDigit = true)
    (and_congr_right fun _ => List.all_eq_true)

theorem foldlM_digit (h : ∀ c ∈ cs, c.isDigit = true) (n : ℕ) :
    cs.foldlM (fun n c => (OAuth2.Json.digit c).map (10 * n + ·)) n =
      some (Nat.ofDigitChars 10 cs n) := by
  induction cs generalizing n with
  | nil => rfl
  | cons c cs ih =>
    rw [List.foldlM_cons, digit_json (h c List.mem_cons_self)]
    exact ih (fun x hx => h x (List.mem_cons_of_mem c hx)) _

theorem longValueOf_decimal (h : Decimal text) :
    OAuth2.Json.longValueOf text =
      (some (value 10 (digitsOf text) : ℤ)).filter fun n => OAuth2.IsLong n := by
  have hvalue : value 10 (digitsOf text) = Nat.ofDigitChars 10 text.toList 0 := value_map text.toList
  have hunsigned : OAuth2.Json.unsigned text.toList = some (value 10 (digitsOf text)) := by
    rw [OAuth2.Json.unsigned, if_neg h.1, foldlM_digit h.2, hvalue]
  have hminus : ∀ c ∈ text.toList, c ≠ '-' ∧ c ≠ '+' := by
    intro c hc
    constructor
    · rintro rfl
      exact absurd (h.2 '-' hc) (by decide)
    · rintro rfl
      exact absurd (h.2 '+' hc) (by decide)
  unfold OAuth2.Json.longValueOf
  split
  · rename_i heq
    exact absurd rfl (hminus '-' (by rw [heq]; exact List.mem_cons_self)).1
  · rename_i heq
    exact absurd rfl (hminus '+' (by rw [heq]; exact List.mem_cons_self)).2
  · rw [hunsigned]
    rfl

theorem spells_decimal (h : Decimal text) : Spells text (digitsOf text) := by
  have hdigit : ∀ c : Char, c.isDigit = true → IsHexDigit c (c.toNat - 48) := by
    intro c hc
    have hrange : 48 ≤ c.toNat ∧ c.toNat ≤ 57 := Char.isDigit_iff_toNat.mp hc
    refine ⟨by omega, .inl (Char.toNat_inj.mp ?_)⟩
    rw [Nat.toNat_digitChar_of_lt_ten (by omega)]
    omega
  unfold Spells digitsOf
  rw [List.forall₂_map_right_iff]
  exact List.forall₂_same.mpr fun c hc => hdigit c (h.2 c hc)

theorem length_digitsOf : (digitsOf text).length = text.toList.length := List.length_map _

theorem digitsOf_lt (h : Decimal text) : ∀ d ∈ digitsOf text, d < 10 := by
  intro d hd
  obtain ⟨c, hc, rfl⟩ := List.mem_map.mp hd
  have hrange : 48 ≤ c.toNat ∧ c.toNat ≤ 57 := Char.isDigit_iff_toNat.mp (h.2 c hc)
  omega

/-- A counter in decimal digits is read as a hexadecimal one. -/
theorem CounterBasedOtpAuthn.decoded_eq (hsecret : userInfo.sharedSecret = some secret)
    (hcounter : userInfo.sharedCounter = some counter) (h : Decimal counter) :
    CounterBasedOtpAuthn.decoded base32 userInfo = .ok (base32 secret,
      bytes (max 8 ((counter.toList.length + 1) / 2)) (value 16 (digitsOf counter))) := by
  have hmessage := TimeBasedOTP.messageOf_of_spells (spells_decimal h)
  have hkey := TimeBasedOTP.hexStr2Bytes_of_bytes (encodesBytes_encodeHexString (base32 secret))
  rw [length_digitsOf] at hmessage
  simp only [CounterBasedOtpAuthn.decoded, hsecret, hcounter, Option.map_some, orNull,
    Option.elim_some, bind, Except.bind, hmessage, hkey]
  rfl

/-- A counter in decimal digits is read as it is meant, if it is a long. -/
theorem HotpOtpAuthn.decoded_eq (hsecret : userInfo.sharedSecret = some secret)
    (hcounter : userInfo.sharedCounter = some counter) (h : Decimal counter) :
    HotpOtpAuthn.decoded base32 userInfo =
      if value 10 (digitsOf counter) < 9223372036854775808 then
        .ok (base32 secret, bytes 8 (value 10 (digitsOf counter))) else .error numberFormat := by
  have hlong : OAuth2.IsLong (value 10 (digitsOf counter) : ℤ) ↔
      value 10 (digitsOf counter) < 9223372036854775808 := by
    unfold OAuth2.IsLong
    omega
  have hparse : parseLong (some counter) =
      if value 10 (digitsOf counter) < 9223372036854775808 then
        .ok (value 10 (digitsOf counter) : ℤ) else .error numberFormat := by
    rw [parseLong, Option.bind_some, longValueOf_decimal h, Option.filter_some]
    by_cases hless : value 10 (digitsOf counter) < 9223372036854775808
    · rw [if_pos (decide_eq_true (hlong.mpr hless)), if_pos hless]
      rfl
    · rw [if_neg (by simpa using fun hl => hless (hlong.mp hl)), if_neg hless]
      rfl
  unfold HotpOtpAuthn.decoded HotpOtpAuthn.secretOf
  rw [hcounter, hsecret, hparse]
  by_cases hless : value 10 (digitsOf counter) < 9223372036854775808
  · rw [if_pos hless, if_pos hless]
    refine congrArg (fun text => Except.ok (base32 secret, text)) ?_
    rw [putMovingFactor_eq, List.append_nil]
  · rw [if_neg hless, if_neg hless]
    rfl

/-- A hash that decides on its truncation is treated alike by both generators. -/
theorem ofText_eq_ofBytes (k msg : List UInt8) (d : ℤ) :
    HOTP.ofText p k msg d false (-1) = TimeBasedOTP.ofBytes p "HmacSHA1" k msg d := by
  have hhash : TimeBasedOTP.hmac_sha p "HmacSHA1" k msg = hmac_sha1 p k msg := by
    rw [TimeBasedOTP.hmac_sha, p.mac_hmacSha1]
    rfl
  have hdynamic : ∀ hash : List UInt8, ¬((0 : ℤ) ≤ -1 ∧ (-1 : ℤ) < (hash.length : ℤ) - 4) := by
    intro hash
    omega
  unfold HOTP.ofText TimeBasedOTP.ofBytes
  rw [hhash]
  simp only [if_neg (hdynamic _)]
  rfl

/-- What is expected depends on what is decoded. -/
theorem CounterBasedOtpAuthn.expected_eq (h : JavaText.equalsIgnoreCase a.crypto "HmacSHA1" = true) :
    CounterBasedOtpAuthn.expected p base32 a userInfo =
      CounterBasedOtpAuthn.decoded base32 userInfo >>= fun x =>
        TimeBasedOTP.ofBytes p "HmacSHA1" x.1 x.2 a.digits := by
  have hgenerate : ∀ key time, TimeBasedOTP.genOTP p key time (toString a.digits) =
      TimeBasedOTP.messageOf time >>= fun msg => TimeBasedOTP.hexStr2Bytes key >>= fun k =>
        TimeBasedOTP.ofBytes p "HmacSHA1" k msg a.digits := by
    intro key time
    rw [TimeBasedOTP.genOTP, TimeBasedOTP.generateOTP, Integer.decode_toString a.digits_int]
    exact pure_bind a.digits _
  unfold CounterBasedOtpAuthn.expected CounterBasedOtpAuthn.decoded AbstractOptAuthn.generate
  simp only [if_pos h, hgenerate, bind_assoc, pure_bind]

theorem HotpOtpAuthn.expected_eq (a : HotpOtpAuthn) :
    HotpOtpAuthn.expected p base32 a userInfo =
      HotpOtpAuthn.decoded base32 userInfo >>= fun x =>
        HOTP.ofText p x.1 x.2 a.digits a.addChecksum a.truncation := by
  unfold HotpOtpAuthn.expected HotpOtpAuthn.decoded
  simp only [bind_assoc, pure_bind]
  rfl

/-- The two authenticators decode a user to the same key and message, and accept the same codes. -/
def Equivalent (p : Provider) (base32 : String → List UInt8) (a : AbstractOptAuthn)
    (userInfo : UserInfo) : Prop :=
  CounterBasedOtpAuthn.decoded base32 userInfo = HotpOtpAuthn.decoded base32 userInfo ∧
    ∀ token, CounterBasedOtpAuthn.validate p base32 a userInfo token = .ok true ↔
      HotpOtpAuthn.validate p base32 { toAbstractOptAuthn := a } userInfo token = .ok true

/-- The digits that are left after the zeros in front are one at most, and the text is no longer than
eight bytes in hexadecimal digits. -/
def SameInBothBases (counter : String) : Prop :=
  counter.toList.length ≤ 16 ∧ ∀ c ∈ counter.toList.dropLast, c = '0'

instance (counter : String) : Decidable (SameInBothBases counter) :=
  decidable_of_iff
    (counter.toList.length ≤ 16 ∧ (counter.toList.dropLast.all fun c => c = '0') = true)
    (and_congr_right fun _ => by simp)

theorem sameInBothBases_iff (h : Decimal counter) : SameInBothBases counter ↔
    counter.toList.length ≤ 16 ∧ value 16 (digitsOf counter) = value 10 (digitsOf counter) := by
  rw [SameInBothBases, value_eq_value_iff (by decide), digitsOf, ← List.map_dropLast, List.forall_mem_map]
  refine and_congr_right fun _ => forall₂_congr fun c hc => ?_
  have hrange : 48 ≤ c.toNat ∧ c.toNat ≤ 57 :=
    Char.isDigit_iff_toNat.mp (h.2 c (List.dropLast_subset _ hc))
  have hzero : c = '0' ↔ c.toNat = 48 := Char.toNat_inj.symm
  rw [hzero]
  omega

end Counters

/-- The two authenticators decode the same key and message exactly if the counter is the same number
in both bases and fits into eight bytes. -/
theorem decoded_eq_iff (base32 : String → List UInt8) {userInfo : UserInfo} {secret counter : String}
    (hsecret : userInfo.sharedSecret = some secret)
    (hcounter : userInfo.sharedCounter = some counter) (h : Decimal counter) :
    CounterBasedOtpAuthn.decoded base32 userInfo = HotpOtpAuthn.decoded base32 userInfo ↔
      SameInBothBases counter := by
  have hsixteen := value_lt (lt_of_forall₂ (spells_decimal h))
  have hten := value_mono (by decide : 10 ≤ 16) (digitsOf counter)
  rw [length_digitsOf] at hsixteen
  rw [sameInBothBases_iff h, CounterBasedOtpAuthn.decoded_eq hsecret hcounter h,
    HotpOtpAuthn.decoded_eq hsecret hcounter h]
  constructor
  · intro hdecoded
    -- a counter that is no long throws for one of them only
    split_ifs at hdecoded with hlong
    have hbytes := congrArg Prod.snd (Except.ok.inj hdecoded)
    have hlength := congrArg List.length hbytes
    simp only [length_bytes] at hlength
    have hshort : counter.toList.length ≤ 16 := by omega
    have hless : value 16 (digitsOf counter) < 256 ^ 8 := by
      calc value 16 (digitsOf counter) < 16 ^ counter.toList.length := hsixteen
        _ ≤ 16 ^ 16 := Nat.pow_le_pow_right (by decide) hshort
        _ = 256 ^ 8 := by norm_num
    have height : max 8 ((counter.toList.length + 1) / 2) = 8 := by omega
    rw [height] at hbytes
    exact ⟨hshort, bytes_inj hless (hten.trans_lt hless) hbytes⟩
  · intro ⟨hshort, heq⟩
    have hlong : value 10 (digitsOf counter) < 9223372036854775808 := by
      calc value 10 (digitsOf counter) < 10 ^ (digitsOf counter).length := value_lt (digitsOf_lt h)
        _ ≤ 10 ^ 16 := Nat.pow_le_pow_right (by decide) (length_digitsOf.trans_le hshort)
        _ < 9223372036854775808 := by norm_num
    have height : max 8 ((counter.toList.length + 1) / 2) = 8 := by omega
    rw [if_pos hlong, height, heq]

/-- The authenticators agree on a counter exactly if it is below ten and fits into eight bytes. -/
theorem equivalent_iff {p : Provider} {base32 : String → List UInt8} {a : AbstractOptAuthn}
    {userInfo : UserInfo} {secret counter : String}
    (hcrypto : JavaText.equalsIgnoreCase a.crypto "HmacSHA1" = true)
    (hsecret : userInfo.sharedSecret = some secret)
    (hcounter : userInfo.sharedCounter = some counter) (h : Decimal counter) :
    Equivalent p base32 a userInfo ↔ SameInBothBases counter := by
  rw [← decoded_eq_iff base32 hsecret hcounter h]
  constructor
  · exact fun hequivalent => hequivalent.1
  · intro hdecoded
    -- both make the same code of what they decode
    have hexpected : CounterBasedOtpAuthn.expected p base32 a userInfo =
        HotpOtpAuthn.expected p base32 { toAbstractOptAuthn := a } userInfo := by
      rw [CounterBasedOtpAuthn.expected_eq hcrypto, HotpOtpAuthn.expected_eq, hdecoded]
      refine congrArg (HotpOtpAuthn.decoded base32 userInfo >>= ·) ?_
      funext x
      exact (ofText_eq_ofBytes x.1 x.2 a.digits).symm
    refine ⟨hdecoded, fun token => ?_⟩
    rw [CounterBasedOtpAuthn.validate, HotpOtpAuthn.validate, hexpected]

/-- The test secret in Base32. -/
def testBase32 (text : String) : List UInt8 :=
  if text = "GEZDGNBVGY3TQOJQGEZDGNBVGY3TQOJQ" then testSecret else []

/-- A user with the test secret and a counter. -/
def frankAt (counter : String) : UserInfo :=
  { id := "1", username := "frank", sharedSecret := some "GEZDGNBVGY3TQOJQGEZDGNBVGY3TQOJQ"
    sharedCounter := some counter }

theorem equivalent_seven : Equivalent testProvider testBase32 {} (frankAt "7") :=
  (equivalent_iff (by decide) rfl rfl (by decide)).mpr (by decide)

/-- The counter ten is sixteen for the other authenticator, and the code is another one. -/
theorem ten_is_sixteen : Decimal "10" ∧
    HotpOtpAuthn.validate testProvider testBase32 {} (frankAt "10") "403154" = .ok true ∧
    CounterBasedOtpAuthn.validate testProvider testBase32 {} (frankAt "10") "403154" = .ok false ∧
    CounterBasedOtpAuthn.validate testProvider testBase32 {} (frankAt "10") "186581" = .ok true ∧
    ¬Equivalent testProvider testBase32 {} (frankAt "10") := by
  have hdecimal : Decimal "10" := by decide
  have hcounter : ∀ token, CounterBasedOtpAuthn.validate testProvider testBase32 {} (frankAt "10") token =
      .ok (JavaText.equalsIgnoreCase token "186581") := by
    intro token
    have hexpected : CounterBasedOtpAuthn.expected testProvider testBase32 {} (frankAt "10") =
        .ok "186581" := by
      rw [CounterBasedOtpAuthn.expected_eq (by decide), CounterBasedOtpAuthn.decoded_eq rfl rfl hdecimal]
      decide +kernel
    rw [CounterBasedOtpAuthn.validate, hexpected]
    rfl
  have hhotp : HotpOtpAuthn.validate testProvider testBase32 {} (frankAt "10") "403154" = .ok true := by
    decide +kernel
  have hother : CounterBasedOtpAuthn.validate testProvider testBase32 {} (frankAt "10") "403154" =
      .ok false := by
    rw [hcounter]
    decide
  refine ⟨hdecimal, hhotp, hother, ?_, ?_⟩
  · rw [hcounter]
    decide
  · intro hequivalent
    have haccepted := (hequivalent.2 "403154").mpr hhotp
    rw [hother] at haccepted
    cases haccepted

end MaxKey.OtpAuthns
