import MaxKey.Base64Utils
import MaxKey.StandardBase64

namespace MaxKey.UrlSafeBase64
open JavaException Effects OAuth2.Base64Codec OAuth2.Codecs Base64Utils
open StandardBase64 (char padding)

/-- The loop over the groups writes the sextets in its own alphabet. -/
theorem encodeBytesToBytes_sextets (bytes : List UInt8) : encodeBytesToBytes bytes =
    (StandardBase64.sextets bytes).map alphabet ++
      List.replicate (padding bytes) equalsSign := by
  have hmask : ∀ m : ℕ, m &&& 0x3f = m % 64 := fun m => Nat.and_two_pow_sub_one_eq_mod m 6
  induction bytes using StandardBase64.sextets.induct with
  | case1 a b c bytes ih =>
    have ha := a.toNat_lt
    have hb := b.toNat_lt
    have hc := c.toNat_lt
    let n := a.toNat * 65536 + b.toNat * 256 + c.toNat
    have hfirst : n / 2 ^ 18 = a.toNat / 4 := by omega
    have hsecond : n / 2 ^ 12 % 64 = a.toNat % 4 * 16 + b.toNat / 16 := by omega
    have hthird : n / 2 ^ 6 % 64 = b.toNat % 16 * 4 + c.toNat / 64 := by omega
    have hfourth : n % 64 = c.toNat % 64 := by omega
    have hgroup : encode3to4 [a, b, c] = [alphabet (n / 2 ^ 18), alphabet (n / 2 ^ 12 % 64),
        alphabet (n / 2 ^ 6 % 64), alphabet (n % 64)] := by
      simp only [encode3to4, (inBuff_eq a b c).2, hmask, Nat.shiftRight_eq_div_pow, n]
    rw [encodeBytesToBytes, StandardBase64.sextets, StandardBase64.padding_cons, ih, hgroup, hfirst,
      hsecond, hthird, hfourth, List.map_append, List.append_assoc]
    rfl
  | case2 a b =>
    have ha := a.toNat_lt
    have hb := b.toNat_lt
    let n := a.toNat * 65536 + b.toNat * 256
    have hfirst : n / 2 ^ 18 = a.toNat / 4 := by omega
    have hsecond : n / 2 ^ 12 % 64 = a.toNat % 4 * 16 + b.toNat / 16 := by omega
    have hthird : n / 2 ^ 6 % 64 = b.toNat % 16 * 4 := by omega
    have hgroup : encodeBytesToBytes [a, b] = [alphabet (n / 2 ^ 18), alphabet (n / 2 ^ 12 % 64),
        alphabet (n / 2 ^ 6 % 64), equalsSign] := by
      simp only [encodeBytesToBytes, encode3to4, (inBuff_eq a b 0).1, hmask,
        Nat.shiftRight_eq_div_pow, n]
    rw [hgroup, hfirst, hsecond, hthird]
    rfl
  | case3 a =>
    have ha := a.toNat_lt
    let n := a.toNat * 65536
    have hfirst : n / 2 ^ 18 = a.toNat / 4 := by omega
    have hsecond : n / 2 ^ 12 % 64 = a.toNat % 4 * 16 := by omega
    have hgroup : encodeBytesToBytes [a] =
        [alphabet (n / 2 ^ 18), alphabet (n / 2 ^ 12 % 64), equalsSign, equalsSign] := by
      have hshift : a.toNat <<< 16 = a.toNat * 65536 := Nat.shiftLeft_eq _ _
      simp only [encodeBytesToBytes, encode3to4, hshift, hmask, Nat.shiftRight_eq_div_pow, n]
    rw [hgroup, hfirst, hsecond]
    rfl
  | case4 => rfl

/-- A sextet in the two alphabets: they are told apart by two characters. -/
theorem char_spec : ∀ i < 64, IsBase64 (char i) ∧
    urlSafe (char i) = Char.ofNat (alphabet i).toNat ∧
      ((urlSafe (char i)).isAlphanum = true ∨ urlSafe (char i) = '-' ∨ urlSafe (char i) = '_') := by
  decide +kernel

/-- What is encoded for a URL. -/
def urlText (bytes : List UInt8) : String :=
  String.ofList ((StandardBase64.sextets bytes).map fun i => urlSafe (char i))

theorem asciiText_sextets (bytes : List UInt8) :
    asciiText ((StandardBase64.sextets bytes).map alphabet) = urlText bytes := by
  unfold asciiText urlText
  rw [List.map_map]
  congr 1
  apply List.map_congr_left
  intro i hi
  exact (char_spec i (StandardBase64.sextets_lt bytes i hi)).2.1.symm

theorem safe_sextets (bytes : List UInt8) :
    ∀ b ∈ (StandardBase64.sextets bytes).map alphabet, Safe b := by
  intro b hb
  obtain ⟨i, hi, rfl⟩ := List.mem_map.mp hb
  exact safe_alphabet (StandardBase64.sextets_lt bytes i hi)

theorem urlEncode_sextets {bytes : List UInt8} (h : bytes ≠ []) :
    urlEncode bytes = .ok ((StandardBase64.sextets bytes).map alphabet) := by
  apply urlEncode_of_core _ (encodeBytesToBytes_sextets bytes) (safe_sextets bytes)
  intro hnil
  exact h (StandardBase64.sextets_eq_nil.mp (List.map_eq_nil_iff.mp hnil))

theorem base64UrlEncode_standard {b64 : Base64} {bytes : List UInt8}
    (h : b64.encodeBase64 bytes = StandardBase64.encode bytes) :
    base64UrlEncode b64 (some bytes) = .ok (urlText bytes) := by
  have hequals : '=' ∉ (StandardBase64.sextets bytes).map char := by
    intro hmem
    obtain ⟨i, hi, hchar⟩ := List.mem_map.mp hmem
    have hbase := (char_spec i (StandardBase64.sextets_lt bytes i hi)).1
    exact ne_of_isBase64 hbase (by decide) hchar
  have hempty : (StandardBase64.sextets bytes).map char = [] → padding bytes = 0 := by
    intro hnil
    rw [StandardBase64.sextets_eq_nil.mp (List.map_eq_nil_iff.mp hnil)]
    rfl
  have hfirst : (JavaText.split '=' (b64.encodeBase64 bytes)).head? =
      some (String.ofList ((StandardBase64.sextets bytes).map char)) := by
    rw [h]
    exact split_padded hequals hempty
  rw [base64UrlEncode, present_some_bind, hfirst, present_some_bind, ofList_replace, List.map_map]
  rfl

/-- The bytes of an encoding are the ASCII codes of its text. -/
theorem utf8Encode_urlText (bytes : List UInt8) :
    utf8Encode (urlText bytes) = (StandardBase64.sextets bytes).map alphabet := by
  rw [← asciiText_sextets]
  apply utf8Encode_asciiText
  intro b hb
  exact (safe_sextets bytes b hb).ascii

/-- With the standard Base64 of the codec library, bytes encoded for a URL are decoded again, in
letters, digits, '-' and '_' only. Bytes that are not empty are encoded by both implementations in
the same text, and each decodes what the other has encoded. -/
theorem base64Url_agree (b64 : Base64)
    (hstandard : ∀ bytes, b64.encodeBase64 bytes = StandardBase64.encode bytes)
    (bytes : List UInt8) :
    ∃ cipher, base64UrlEncode b64 (some bytes) = .ok cipher ∧ base64UrlDecode b64 cipher = bytes ∧
      (∀ c ∈ cipher.toList, c.isAlphanum = true ∨ c = '-' ∨ c = '_') ∧
      (bytes ≠ [] → ∃ encoded, urlEncode bytes = .ok encoded ∧ asciiText encoded = cipher ∧
        urlDecode (utf8Encode cipher) = .ok bytes ∧
          base64UrlDecode b64 (asciiText encoded) = bytes) := by
  have hencode := base64UrlEncode_standard (hstandard bytes)
  have hdecode := (base64UrlDecode_of_encode hencode).1
  refine ⟨urlText bytes, hencode, hdecode, ?_, ?_⟩
  · intro c hc
    rw [urlText, String.toList_ofList] at hc
    obtain ⟨i, hi, rfl⟩ := List.mem_map.mp hc
    exact (char_spec i (StandardBase64.sextets_lt bytes i hi)).2.2
  · intro hne
    have hurl := urlEncode_sextets hne
    obtain ⟨core, hcore, -, -, hback⟩ := urlEncode_eq hne
    rw [hurl] at hcore
    rw [← Except.ok.inj hcore] at hback
    refine ⟨_, hurl, asciiText_sextets bytes, ?_, ?_⟩
    · rw [utf8Encode_urlText]
      exact hback
    · rw [asciiText_sextets]
      exact hdecode

theorem standard_alphabet : ∀ i < 64, Base64.standard (alphabet i) = char i := by
  decide +kernel

/-- The codec encodes in the standard way. -/
theorem encodeBase64_codec (bytes : List UInt8) :
    Base64.codec.encodeBase64 bytes = StandardBase64.encode bytes := by
  show String.ofList ((encodeBytesToBytes bytes).map Base64.standard) = _
  rw [encodeBytesToBytes_sextets, StandardBase64.encode, List.map_append, List.map_map,
    List.map_replicate]
  congr 2
  apply List.map_congr_left
  intro i hi
  exact standard_alphabet i (StandardBase64.sextets_lt bytes i hi)

/-- Two bytes that are encoded with both characters of their own. -/
def testBytes : List UInt8 := [251, 255]

theorem base64Url_agree_codec : ∃ cipher,
    base64UrlEncode Base64.codec (some testBytes) = .ok cipher ∧
    base64UrlDecode Base64.codec cipher = testBytes ∧
    (∀ c ∈ cipher.toList, c.isAlphanum = true ∨ c = '-' ∨ c = '_') ∧
    (testBytes ≠ [] → ∃ encoded, urlEncode testBytes = .ok encoded ∧ asciiText encoded = cipher ∧
      urlDecode (utf8Encode cipher) = .ok testBytes ∧
        base64UrlDecode Base64.codec (asciiText encoded) = testBytes) :=
  base64Url_agree Base64.codec encodeBase64_codec testBytes

end MaxKey.UrlSafeBase64
