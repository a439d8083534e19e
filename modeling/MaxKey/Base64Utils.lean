import MaxKey.ReciprocalUtils

namespace MaxKey
open JavaException Effects OAuth2.Codecs

/-- What must be there, or else throws. -/
def present {α : Type} (e : JavaException) (a : Option α) : Except JavaException α :=
  a.elim (.error e) .ok

theorem present_eq_ok {α : Type} {e : JavaException} {o : Option α} {a : α} :
    present e o = .ok a ↔ o = some a := by
  cases o with
  | none => exact iff_of_false nofun nofun
  | some b => simp [present]

theorem present_some_bind {α β : Type} (e : JavaException) (a : α)
    (f : α → Except JavaException β) : (present e (some a) >>= f) = f a := rfl

/-! ### Hexadecimal texts of the codec library -/

namespace Hex
open ReciprocalUtils.HexUtils

def encodeHex (data : List UInt8) : String :=
  String.ofList (data.flatMap fun b => [hexChar (b.toNat / 16), hexChar (b.toNat % 16)])

/-- Character.digit for the radix 16, -1 for a char that is no digit. -/
def toDigit (c : ℕ) : ℤ := OAuth2.Character.digit (UInt16.ofNat c)

def decodePairs : List ℕ → Option (List UInt8)
  | [] => some []
  | [_] => none
  | high :: low :: data =>
    if toDigit high = -1 ∨ toDigit low = -1 then none
    else (decodePairs data).map fun bytes =>
      UInt8.ofNat ((toDigit high).toNat <<< 4 ||| (toDigit low).toNat) :: bytes

/-- `none` where a DecoderException is thrown. -/
def decodeHex (data : String) : Option (List UInt8) := decodePairs (JavaText.utf16 data)

theorem toDigit_hexChar : ∀ i < 16, toDigit (hexChar i).toNat = i := by
  decide +kernel

theorem decodeHex_encodeHex (data : List UInt8) : decodeHex (encodeHex data) = some data := by
  unfold decodeHex encodeHex
  rw [utf16_hex]
  induction data with
  | nil => rfl
  | cons b data ih =>
    have hb := b.toNat_lt
    have hhigh := toDigit_hexChar (b.toNat / 16) (by omega)
    have hlow := toDigit_hexChar (b.toNat % 16) (by omega)
    have hdigits : ¬((↑(b.toNat / 16) : ℤ) = -1 ∨ (↑(b.toNat % 16) : ℤ) = -1) := by omega
    simp only [List.flatMap_cons, List.cons_append, List.nil_append, decodePairs, hhigh, hlow,
      if_neg hdigits, ih, Option.map_some, Int.toNat_natCast, OAuth2.Hex.join_nibbles,
      UInt8.ofNat_toNat]

end Hex

/-! ### Base64Utils -/

/-- A character of the standard alphabet. -/
def IsBase64 (c : Char) : Prop := c.isAlphanum = true ∨ c = '+' ∨ c = '/'

instance : DecidablePred IsBase64 := fun _ => inferInstanceAs (Decidable (_ ∨ _ ∨ _))

/-- The Base64 of the codec library. What it encodes are characters of the alphabet, which every
default charset reads as themselves, and up to two equals signs that make their number a multiple of
four. What it decodes of other texts is left open. -/
structure Base64 where
  encodeBase64 : List UInt8 → String
  decodeBase64 : String → List UInt8
  encodeBase64_eq : ∀ bytes, ∃ core pad,
    encodeBase64 bytes = String.ofList (core ++ List.replicate pad '=') ∧
      (∀ c ∈ core, IsBase64 c) ∧ pad ≤ 2 ∧ 4 ∣ core.length + pad
  decodeBase64_encodeBase64 : ∀ bytes, decodeBase64 (encodeBase64 bytes) = bytes

namespace Base64Utils

variable (b64 : Base64)

def replace (old new : Char) (s : String) : String :=
  String.ofList (s.toList.map fun c => if c = old then new else c)

/-- An array that is null is encoded as null, of which no text is made. -/
def base64UrlEncode (simple : Option (List UInt8)) : Except JavaException String := do
  let simple ← present nullPointer simple
  let s ← present arrayIndexOutOfBounds (JavaText.split '=' (b64.encodeBase64 simple)).head?
  return replace '/' '_' (replace '+' '-' s)

/-- A text of an illegal length is logged only. -/
def base64UrlDecode (cipher : String) : List UInt8 :=
  let s := replace '_' '/' (replace '-' '+' cipher)
  let rest := (JavaText.utf16 s).length % 4
  b64.decodeBase64 (if rest = 2 then s ++ "==" else if rest = 3 then s ++ "=" else s)

/-- A character of the alphabet that is safe in a URL. -/
def urlSafe (c : Char) : Char := if c = '+' then '-' else if c = '/' then '_' else c

theorem ofList_replace (s : List Char) :
    replace '/' '_' (replace '+' '-' (String.ofList s)) = String.ofList (s.map urlSafe) := by
  unfold replace
  simp only [String.toList_ofList, List.map_map]
  congr 2
  funext c
  by_cases hplus : c = '+'
  · simp [urlSafe, hplus]
  · simp [urlSafe, hplus]

theorem ascii_of_isBase64 {c : Char} (h : IsBase64 c) : c.toNat < 128 := by
  rcases h with halpha | rfl | rfl
  · -- letters of either case, then digits
    have hranges : (decide (65 ≤ c.val ∧ c.val ≤ 90) || (decide (97 ≤ c.val) && decide (c.val ≤ 122)) ||
        (decide (48 ≤ c.val) && decide (c.val ≤ 57))) = true := halpha
    have hval : c.val.toNat = c.toNat := rfl
    simp only [Bool.or_eq_true, Bool.and_eq_true, decide_eq_true_eq, UInt32.le_iff_toNat_le,
      UInt32.reduceToNat, hval] at hranges
    omega
  · decide
  · decide

theorem ne_of_isBase64 {c d : Char} (h : IsBase64 c) (hd : ¬IsBase64 d) : c ≠ d := by
  intro hsame
  rw [hsame] at h
  exact hd h

/-- The standard alphabet is found again. -/
theorem replace_urlSafe {s : List Char} (h : ∀ c ∈ s, IsBase64 c) :
    replace '_' '/' (replace '-' '+' (String.ofList (s.map urlSafe))) = String.ofList s := by
  have hback : ∀ c ∈ s, (if (if urlSafe c = '-' then '+' else urlSafe c) = '_' then '/' else
      if urlSafe c = '-' then '+' else urlSafe c) = c := by
    intro c hc
    have hminus : c ≠ '-' := ne_of_isBase64 (h c hc) (by decide)
    have hunderscore : c ≠ '_' := ne_of_isBase64 (h c hc) (by decide)
    unfold urlSafe
    split_ifs <;> simp_all
  unfold replace
  simp only [String.toList_ofList, List.map_map]
  congr 1
  exact (List.map_congr_left hback).trans (List.map_id' s)

theorem utf16_ascii {s : List Char} (h : ∀ c ∈ s, c.toNat < 128) :
    (JavaText.utf16 (String.ofList s)).length = s.length := by
  unfold JavaText.utf16
  rw [String.toList_ofList]
  induction s with
  | nil => rfl
  | cons c s ih =>
    have hc := h c List.mem_cons_self
    have htail := ih fun d hd => h d (List.mem_cons_of_mem c hd)
    have hone : c.toNat < 0x10000 := by omega
    rw [List.flatMap_cons, if_pos hone, List.length_append, htail]
    exact Nat.add_comm 1 s.length

/-- What stands before the padding is the first part. -/
theorem split_padded {core : List Char} {pad : ℕ} (h : '=' ∉ core) (hempty : core = [] → pad = 0) :
    (JavaText.split '=' (String.ofList (core ++ List.replicate pad '='))).head? =
      some (String.ofList core) := by
  cases pad with
  | zero =>
    have hpart : JavaText.splitChars '=' core = [core] := if_neg h
    simp [JavaText.split, hpart]
  | succ n =>
    have htext : (String.ofList (core ++ List.replicate (n + 1) '=')).toList =
        (String.ofList core).toList ++ '=' :: List.replicate n '=' := by
      simp [List.replicate_succ]
    -- the parts are none only if all of them are empty, and the first one is not
    cases hhead : (JavaText.split '=' (String.ofList (core ++ List.replicate (n + 1) '='))).head? with
    | some part =>
      have hfirst : '=' ∉ (String.ofList core).toList := by
        rw [String.toList_ofList]
        exact h
      rw [List.head?_eq_getElem?] at hhead
      exact congrArg some (JavaText.head_split htext hfirst hhead)
    | none =>
      have hnone := List.map_eq_nil_iff.mp (List.head?_eq_none_iff.mp hhead)
      have hmem : '=' ∈ core ++ List.replicate (n + 1) '=' := by simp
      have hparts : (core ++ List.replicate (n + 1) '=').splitOn '=' =
          core :: (List.replicate n '=').splitOn '=' :=
        List.splitOn_append_cons_self_of_not_mem h _
      rw [String.toList_ofList, JavaText.splitChars, if_pos hmem, hparts] at hnone
      have hall := List.rdropWhile_eq_nil_iff.mp hnone core List.mem_cons_self
      have hnil : core = [] := List.isEmpty_iff.mp hall
      exact absurd (hempty hnil) (Nat.succ_ne_zero n)

theorem base64UrlEncode_core (bytes : List UInt8) : ∃ core : List Char,
    base64UrlEncode b64 (some bytes) = .ok (String.ofList (core.map urlSafe)) ∧
      (∀ c ∈ core, IsBase64 c) ∧
        base64UrlDecode b64 (String.ofList (core.map urlSafe)) = bytes := by
  obtain ⟨core, pad, hencoded, hcore, hpad, hfour⟩ := b64.encodeBase64_eq bytes
  have hequals : '=' ∉ core := fun hmem => ne_of_isBase64 (hcore _ hmem) (by decide) rfl
  have hempty : core = [] → pad = 0 := by
    rintro rfl
    rw [List.length_nil] at hfour
    omega
  have hfirst := hencoded ▸ split_padded hequals hempty
  have hlength := utf16_ascii fun c hc => ascii_of_isBase64 (hcore c hc)
  refine ⟨core, ?_, hcore, ?_⟩
  · rw [base64UrlEncode, present_some_bind, hfirst, present_some_bind, ofList_replace]
    rfl
  · rw [← b64.decodeBase64_encodeBase64 bytes, hencoded]
    unfold base64UrlDecode
    simp only [replace_urlSafe hcore, hlength]
    congr 1
    -- the length says how much padding there was
    match pad with
    | 0 => rw [if_neg (by omega), if_neg (by omega), List.replicate_zero, List.append_nil]
    | 1 =>
      rw [if_neg (by omega), if_pos (by omega), String.ofList_append]
      rfl
    | 2 =>
      rw [if_pos (by omega), String.ofList_append]
      rfl

/-- What is encoded for a URL is decoded again, and has no dot in it. -/
theorem base64UrlEncode_eq (bytes : List UInt8) : ∃ cipher,
    base64UrlEncode b64 (some bytes) = .ok cipher ∧ base64UrlDecode b64 cipher = bytes ∧
      '.' ∉ cipher.toList := by
  obtain ⟨core, hencode, hcore, hdecode⟩ := base64UrlEncode_core b64 bytes
  refine ⟨_, hencode, hdecode, ?_⟩
  rw [String.toList_ofList, List.mem_map]
  rintro ⟨c, hc, hdot⟩
  have hsame : c = '.' := by
    unfold urlSafe at hdot
    split_ifs at hdot
    · exact absurd hdot (by decide)
    · exact absurd hdot (by decide)
    · exact hdot
  exact ne_of_isBase64 (hcore c hc) (by decide) hsame

variable {b64}

theorem base64UrlEncode_eq_ok {simple : Option (List UInt8)} {cipher : String} :
    base64UrlEncode b64 simple = .ok cipher ↔
      ∃ bytes, simple = some bytes ∧ base64UrlEncode b64 (some bytes) = .ok cipher := by
  cases simple with
  | none => exact iff_of_false nofun nofun
  | some bytes => simp

theorem base64UrlDecode_of_encode {bytes : List UInt8} {cipher : String}
    (h : base64UrlEncode b64 (some bytes) = .ok cipher) :
    base64UrlDecode b64 cipher = bytes ∧ '.' ∉ cipher.toList := by
  obtain ⟨encoded, hencoded, hdecode, hdot⟩ := base64UrlEncode_eq b64 bytes
  rw [hencoded] at h
  exact Except.ok.inj h ▸ ⟨hdecode, hdot⟩

end Base64Utils

/-! ### A codec -/

namespace Base64
open OAuth2.Base64Codec

/-- A character of the alphabet for URLs as that of the standard one. -/
def standard (b : UInt8) : Char := if b = 45 then '+' else if b = 95 then '/' else Char.ofNat b.toNat

/-- A character of either alphabet as that for URLs; the others are ignored. -/
def sextet (c : Char) : Option UInt8 :=
  if c = '+' then some 45 else if c = '/' then some 95
  else (some (UInt8.ofNat c.toNat)).filter fun b => c.toNat < 128 && 0 ≤ urlSafeDecodabet b

theorem standard_spec {b : UInt8} (h : Safe b) :
    IsBase64 (standard b) ∧ sextet (standard b) = some b := by
  have hall : ∀ n < 256, 0 ≤ urlSafeDecodabet (UInt8.ofNat n) →
      IsBase64 (standard (UInt8.ofNat n)) ∧
        sextet (standard (UInt8.ofNat n)) = some (UInt8.ofNat n) := by
    decide +kernel
  have hb := hall b.toNat b.toNat_lt
  rw [UInt8.ofNat_toNat] at hb
  exact hb h.decodabet

/-- The encoding as characters of the alphabet and padding, from which the bytes come back. -/
theorem encodeBytesToBytes_core (bytes : List UInt8) : ∃ core pad,
    encodeBytesToBytes bytes = core ++ List.replicate pad equalsSign ∧ (∀ b ∈ core, Safe b) ∧
      pad ≤ 2 ∧ 4 ∣ core.length + pad ∧ urlDecode core = .ok bytes := by
  obtain ⟨core, hcore, hlength, hsafe⟩ := encodeBytesToBytes_eq bytes
  refine ⟨core, _, hcore, hsafe, by omega, ?_, ?_⟩
  · rw [hlength]
    split_ifs with hrest
    · omega
    · omega
  -- of the empty list the encoding for URLs makes no text
  · by_cases hempty : bytes = []
    · subst hempty
      rw [List.eq_nil_of_length_eq_zero hlength]
      rfl
    · obtain ⟨unpadded, hunpadded, -, -, hdecode⟩ := urlEncode_eq hempty
      have hstrip : (encodeBytesToBytes bytes).rdropWhile (· == equalsSign) = core := by
        rw [hcore, rdropWhile_core hsafe]
      unfold urlEncode at hunpadded
      split at hunpadded
      · cases hunpadded
      · rw [← hstrip, Except.ok.inj hunpadded, hdecode]

theorem not_mem_standard {core : List UInt8} (h : ∀ b ∈ core, Safe b) : '=' ∉ core.map standard := by
  intro hmem
  obtain ⟨b, hb, hchar⟩ := List.mem_map.mp hmem
  exact Base64Utils.ne_of_isBase64 (standard_spec (h b hb)).1 (by decide) hchar

theorem takeWhile_padded {core : List Char} (pad : ℕ) (h : '=' ∉ core) :
    (core ++ List.replicate pad '=').takeWhile (· ≠ '=') = core := by
  have hpad : (List.replicate pad '=').takeWhile (· ≠ '=') = [] := by
    cases pad with
    | zero => rfl
    | succ n => simp [List.replicate_succ]
  have hcore : ∀ c ∈ core, decide (c ≠ '=') = true := by
    intro c hc
    apply decide_eq_true
    rintro rfl
    exact h hc
  rw [List.takeWhile_append_of_pos hcore, hpad, List.append_nil]

theorem codec_text {bytes core : List UInt8} {pad : ℕ}
    (h : encodeBytesToBytes bytes = core ++ List.replicate pad equalsSign) :
    (encodeBytesToBytes bytes).map standard = core.map standard ++ List.replicate pad '=' := by
  rw [h, List.map_append, List.map_replicate]
  rfl

/-- The bytes that characters of the alphabet are decoded to; a last one that makes no byte is
dropped. -/
def decodeCore (core : List UInt8) : List UInt8 :=
  (urlDecode (if core.length % 4 = 1 then core.dropLast else core)).toOption.getD []

/-- The codec, which ignores characters of no alphabet. -/
def codec : Base64 where
  encodeBase64 bytes := String.ofList ((encodeBytesToBytes bytes).map standard)
  decodeBase64 text := decodeCore ((text.toList.takeWhile (· ≠ '=')).filterMap sextet)
  encodeBase64_eq bytes := by
    obtain ⟨core, pad, hcore, hsafe, hpad, hfour, -⟩ := encodeBytesToBytes_core bytes
    refine ⟨core.map standard, pad, ?_, ?_, hpad, ?_⟩
    · rw [codec_text hcore]
    · intro c hc
      obtain ⟨b, hb, rfl⟩ := List.mem_map.mp hc
      exact (standard_spec (hsafe b hb)).1
    · rw [List.length_map]
      exact hfour
  decodeBase64_encodeBase64 bytes := by
    obtain ⟨core, pad, hcore, hsafe, hpad, hfour, hdecode⟩ := encodeBytesToBytes_core bytes
    have hequals := not_mem_standard hsafe
    have hback : (core.map standard).filterMap sextet = core := by
      rw [List.filterMap_map]
      exact (List.filterMap_congr fun b hb => (standard_spec (hsafe b hb)).2).trans
        List.filterMap_some
    have hlength : core.length % 4 ≠ 1 := by omega
    simp only [String.toList_ofList, codec_text hcore, takeWhile_padded pad hequals, hback,
      decodeCore, if_neg hlength, hdecode]
    rfl

/-- The characters of an encoding for a URL. -/
def urlChars (bytes : List UInt8) : List Char :=
  ((encodeBytesToBytes bytes).filter (· ≠ equalsSign)).map fun b => Char.ofNat b.toNat

theorem urlSafe_standard : ∀ n < 256, 0 ≤ urlSafeDecodabet (UInt8.ofNat n) →
    Base64Utils.urlSafe (standard (UInt8.ofNat n)) = Char.ofNat n := by
  decide +kernel

theorem base64UrlEncode_codec (bytes : List UInt8) :
    Base64Utils.base64UrlEncode codec (some bytes) = .ok (String.ofList (urlChars bytes)) := by
  obtain ⟨core, pad, hcore, hsafe, hpad, hfour, -⟩ := encodeBytesToBytes_core bytes
  have hequals := not_mem_standard hsafe
  have hempty : core.map standard = [] → pad = 0 := by
    intro hnil
    rw [List.map_eq_nil_iff.mp hnil, List.length_nil] at hfour
    omega
  have hchars : urlChars bytes = (core.map standard).map Base64Utils.urlSafe := by
    have hkept : core.filter (· ≠ equalsSign) = core :=
      List.filter_eq_self.mpr fun b hb => decide_eq_true (hsafe b hb).ne_equalsSign
    have hpad : (List.replicate pad equalsSign).filter (· ≠ equalsSign) = [] := by simp
    rw [urlChars, hcore, List.filter_append, hkept, hpad, List.append_nil, List.map_map]
    apply List.map_congr_left
    intro b hb
    have hsame := urlSafe_standard b.toNat b.toNat_lt
    rw [UInt8.ofNat_toNat] at hsame
    exact (hsame (hsafe b hb).decodabet).symm
  have hfirst : (JavaText.split '=' (codec.encodeBase64 bytes)).head? =
      some (String.ofList (core.map standard)) := by
    rw [show codec.encodeBase64 bytes = _ from congrArg String.ofList (codec_text hcore)]
    exact Base64Utils.split_padded hequals hempty
  rw [Base64Utils.base64UrlEncode, present_some_bind, hfirst, present_some_bind,
    Base64Utils.ofList_replace, hchars]
  rfl

theorem sextet_replace (c : Char) :
    sextet (if (if c = '-' then '+' else c) = '_' then '/' else if c = '-' then '+' else c) =
      sextet c := by
  by_cases hminus : c = '-'
  · subst hminus
    decide +kernel
  · by_cases hunderscore : c = '_'
    · subst hunderscore
      decide +kernel
    · simp [hminus, hunderscore]

theorem decode_padded {s : List Char} (h : '=' ∉ s) (pad : ℕ) :
    codec.decodeBase64 (String.ofList (s ++ List.replicate pad '=')) =
      decodeCore (s.filterMap sextet) := by
  show decodeCore (((String.ofList (s ++ List.replicate pad '=')).toList.takeWhile
    (· ≠ '=')).filterMap sextet) = _
  rw [String.toList_ofList, takeWhile_padded pad h]

/-- Padding that is added to a text without an equals sign is not read. -/
theorem base64UrlDecode_codec {s : List Char} (h : '=' ∉ s) :
    Base64Utils.base64UrlDecode codec (String.ofList s) = decodeCore (s.filterMap sextet) := by
  let f (c : Char) : Char :=
    if (if c = '-' then '+' else c) = '_' then '/' else if c = '-' then '+' else c
  have hreplaced : Base64Utils.replace '_' '/' (Base64Utils.replace '-' '+' (String.ofList s)) =
      String.ofList (s.map f) := by
    simp only [Base64Utils.replace, String.toList_ofList, List.map_map]
    rfl
  have hequals : '=' ∉ s.map f := by
    intro hmem
    obtain ⟨c, hc, hchar⟩ := List.mem_map.mp hmem
    have hsame : c = '=' := by
      simp only [f] at hchar
      split_ifs at hchar <;> simp_all
    exact h (hsame ▸ hc)
  have hsextets : (s.map f).filterMap sextet = s.filterMap sextet := by
    rw [List.filterMap_map]
    exact List.filterMap_congr fun c _ => sextet_replace c
  have hdecode := decode_padded hequals
  rw [hsextets] at hdecode
  unfold Base64Utils.base64UrlDecode
  simp only [hreplaced]
  split_ifs
  · rw [← hdecode 2, String.ofList_append]
    rfl
  · rw [← hdecode 1, String.ofList_append]
    rfl
  · rw [← hdecode 0, List.replicate_zero, List.append_nil]

end Base64

end MaxKey
