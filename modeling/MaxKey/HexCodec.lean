import MaxKey.Base64Codec

namespace MaxKey.OAuth2
open JavaException Effects

/-- The characters of a CharSequence, of which two surrogates make one. -/
def utf16Chars : List UInt16 → List Char
  | high :: low :: s =>
    if 0xD800 ≤ high.toNat ∧ high.toNat < 0xDC00 ∧ 0xDC00 ≤ low.toNat ∧ low.toNat < 0xE000 then
      Char.ofNat (0x10000 + (high.toNat - 0xD800) * 0x400 + (low.toNat - 0xDC00)) :: utf16Chars s
    else Char.ofNat high.toNat :: utf16Chars (low :: s)
  | s => s.map fun c => Char.ofNat c.toNat

namespace Character

/-- The zeros of the decimal digits that a char can be, of Unicode 6.2 as Java 8 has it. -/
def zeros : List ℕ :=
  [0x30, 0x660, 0x6F0, 0x7C0, 0x966, 0x9E6, 0xA66, 0xAE6, 0xB66, 0xBE6, 0xC66, 0xCE6, 0xD66, 0xE50,
    0xED0, 0xF20, 0x1040, 0x1090, 0x17E0, 0x1810, 0x1946, 0x19D0, 0x1A80, 0x1A90, 0x1B50, 0x1BB0,
    0x1C40, 0x1C50, 0xA620, 0xA8D0, 0xA900, 0xA9D0, 0xAA50, 0xABF0, 0xFF10]

/-- The letters A that stand for ten, the two of full width among them. -/
def letters : List ℕ := [0x41, 0x61, 0xFF21, 0xFF41]

/-- Character.digit for the radix 16. -/
def digit (c : UInt16) : ℤ :=
  match zeros.find? fun first => first ≤ c.toNat ∧ c.toNat < first + 10 with
  | some first => c.toNat - first
  | none =>
    match letters.find? fun letter => letter ≤ c.toNat ∧ c.toNat < letter + 6 with
    | some letter => c.toNat - letter + 10
    | none => -1

end Character

namespace Hex
open Character

/-- The sixteen characters that are written. -/
def HEX (i : ℕ) : UInt16 := ("0123456789abcdef".toList.map fun c => UInt16.ofNat c.toNat).getD i 0

def encode (bytes : List UInt8) : List UInt16 :=
  bytes.flatMap fun b => [HEX ((0xF0 &&& b.toNat) >>> 4), HEX (0x0F &&& b.toNat)]

/-- The loop over the pairs of characters. A digit zero is turned away with those that are none. -/
def decodePairs (e : JavaException) : List UInt16 → Except JavaException (List UInt8)
  | c :: d :: s => do
    let msb := digit c
    let lsb := digit d
    failIf (msb ≤ 0 ∨ lsb ≤ 0) e
    let rest ← decodePairs e s
    return UInt8.ofNat (msb.toNat <<< 4 ||| lsb.toNat) :: rest
  | _ => .ok []

def decode (s : List UInt16) : Except JavaException (List UInt8) := do
  failIf (s.length % 2 ≠ 0)
    (illegalArgument "Hex-encoded string must have an even number of characters")
  decodePairs (illegalArgument ("Non-hex character in input: " ++ String.ofList (utf16Chars s))) s

/-- A hexadecimal digit in either case. -/
def IsDigit (c : UInt16) : Prop :=
  (0x30 ≤ c.toNat ∧ c.toNat ≤ 0x39) ∨ (0x41 ≤ c.toNat ∧ c.toNat ≤ 0x46) ∨
    (0x61 ≤ c.toNat ∧ c.toNat ≤ 0x66)

instance : DecidablePred IsDigit := fun _ => inferInstanceAs (Decidable (_ ∨ _ ∨ _))

/-- Neither half of the byte is zero. -/
def BothNibbles (b : UInt8) : Prop := 0 < b.toNat / 16 ∧ 0 < b.toNat % 16

instance : DecidablePred BothNibbles := fun _ => inferInstanceAs (Decidable (_ ∧ _))

end Hex

namespace Codecs

def hexEncode (bytes : List UInt8) : List UInt16 := Hex.encode bytes

def hexDecode (s : List UInt16) : Except JavaException (List UInt8) := Hex.decode s

def b64UrlEncode (bytes : List UInt8) : Except JavaException (List UInt8) := urlEncode bytes

def b64UrlDecode (bytes : List UInt8) : Except JavaException (List UInt8) := urlDecode bytes

end Codecs

/-! ### Hexadecimal digits -/

namespace Hex
open Character

variable {e : JavaException} {bytes : List UInt8} {s : List UInt16}

theorem digit_HEX : ∀ i < 16, digit (HEX i) = i := by
  decide +kernel

theorem nibbles (b : UInt8) :
    (0xF0 &&& b.toNat) >>> 4 = b.toNat / 16 ∧ 0x0F &&& b.toNat = b.toNat % 16 := by
  have hall : ∀ n < 256, (0xF0 &&& n) >>> 4 = n / 16 ∧ 0x0F &&& n = n % 16 := by
    decide +kernel
  exact hall _ b.toNat_lt

theorem join_nibbles (b : UInt8) : (b.toNat / 16) <<< 4 ||| b.toNat % 16 = b.toNat := by
  have hadd := Base64Codec.or_eq_add (x := b.toNat / 16 * 2 ^ 4) (y := b.toNat % 16) 4
    (Nat.dvd_mul_left _ _) (Nat.mod_lt _ (by decide))
  rw [Nat.shiftLeft_eq, hadd]
  omega

/-- The digits of a byte are read as the byte, unless one of them is zero. -/
theorem decodePairs_cons (b : UInt8) :
    decodePairs e (encode (b :: bytes)) =
      if BothNibbles b then (b :: ·) <$> decodePairs e (encode bytes) else .error e := by
  have hb := b.toNat_lt
  obtain ⟨hhigh, hlow⟩ := nibbles b
  have hmsb : digit (HEX (b.toNat / 16)) = (b.toNat / 16 : ℕ) := digit_HEX _ (by omega)
  have hlsb : digit (HEX (b.toNat % 16)) = (b.toNat % 16 : ℕ) := digit_HEX _ (by omega)
  have hencode : encode (b :: bytes) =
      HEX (b.toNat / 16) :: HEX (b.toNat % 16) :: encode bytes := by
    unfold encode
    rw [List.flatMap_cons, hhigh, hlow]
    rfl
  rw [hencode, decodePairs, hmsb, hlsb, Int.toNat_natCast, Int.toNat_natCast, join_nibbles, UInt8.ofNat_toNat]
  unfold failIf
  by_cases hboth : BothNibbles b
  · have hpass : ¬(((b.toNat / 16 : ℕ) : ℤ) ≤ 0 ∨ ((b.toNat % 16 : ℕ) : ℤ) ≤ 0) := by
      have hpos := hboth
      unfold BothNibbles at hpos
      omega
    rw [if_pos hboth, if_neg hpass]
    rfl
  · have hstop : ((b.toNat / 16 : ℕ) : ℤ) ≤ 0 ∨ ((b.toNat % 16 : ℕ) : ℤ) ≤ 0 := by
      unfold BothNibbles at hboth
      omega
    rw [if_neg hboth, if_pos hstop]
    rfl

theorem length_encode (bytes : List UInt8) : (encode bytes).length = 2 * bytes.length := by
  induction bytes with
  | nil => rfl
  | cons b bytes ih =>
    have hcons : (encode (b :: bytes)).length = (encode bytes).length + 1 + 1 := by
      simp [encode]
    rw [hcons, ih, List.length_cons]
    omega

theorem decodePairs_encode_iff (bytes : List UInt8) :
    decodePairs e (encode bytes) = .ok bytes ↔ ∀ b ∈ bytes, BothNibbles b := by
  induction bytes with
  | nil => simp [encode, decodePairs]
  | cons b bytes ih =>
    rw [decodePairs_cons, List.forall_mem_cons, ← ih]
    split_ifs with hboth
    · cases hrest : decodePairs e (encode bytes) with
      | error e' => simp [hboth]
      | ok rest => simp [hboth]
    · simp [hboth]

theorem decode_encode_iff (bytes : List UInt8) :
    decode (encode bytes) = .ok bytes ↔ ∀ b ∈ bytes, BothNibbles b := by
  have heven : ¬(encode bytes).length % 2 ≠ 0 := by
    rw [length_encode]
    omega
  unfold decode failIf
  rw [if_neg heven]
  exact decodePairs_encode_iff bytes

/-- Pairs are turned away for a character that is no digit or zero. -/
theorem decodePairs_fails_iff (s : List UInt16) (heven : s.length % 2 = 0) :
    (∃ e', decodePairs e s = .error e') ↔ ∃ c ∈ s, digit c ≤ 0 := by
  induction s using decodePairs.induct with
  | case1 c d s ih =>
    have hrest := ih (by simp only [List.length_cons] at heven; omega)
    simp only [List.exists_mem_cons_iff, ← hrest]
    rw [decodePairs]
    by_cases hstop : digit c ≤ 0 ∨ digit d ≤ 0
    · have hfail : failIf (digit c ≤ 0 ∨ digit d ≤ 0) e = .error e := if_pos hstop
      rw [hfail, ← or_assoc]
      exact iff_of_true ⟨e, rfl⟩ (.inl hstop)
    · have hpass : failIf (digit c ≤ 0 ∨ digit d ≤ 0) e = .ok () := if_neg hstop
      rw [hpass, ← or_assoc, or_iff_right hstop]
      cases decodePairs e s with
      | error e' => exact iff_of_true ⟨e', rfl⟩ ⟨e', rfl⟩
      | ok rest => exact iff_of_false nofun nofun
  | case2 s hshort =>
    match s with
    | [] => simp [decodePairs]
    | [c] => simp at heven
    | c :: d :: s => exact absurd rfl (hshort c d s)

theorem decode_fails_iff (s : List UInt16) :
    (∃ e, decode s = .error e) ↔ s.length % 2 = 1 ∨ ∃ c ∈ s, digit c ≤ 0 := by
  unfold decode
  by_cases hodd : s.length % 2 = 1
  · have hne : s.length % 2 ≠ 0 := by omega
    refine iff_of_true ?_ (.inl hodd)
    rw [show failIf (s.length % 2 ≠ 0) _ = .error _ from if_pos hne]
    exact ⟨_, rfl⟩
  · have heven : s.length % 2 = 0 := by omega
    rw [show failIf (s.length % 2 ≠ 0) _ = .ok () from if_neg (not_not.mpr heven),
      or_iff_right hodd]
    exact decodePairs_fails_iff s heven

end Hex

/-! ### Characters that base 64 reads -/

namespace Base64Codec

variable {room i n : ℕ} {b4 out source pad : List UInt8}

/-- What the loop reads: it ends at an equals sign that is the last of four characters, white space
left out. -/
def readPart : ℕ → List UInt8 → List UInt8
  | _, [] => []
  | n, b :: source =>
    if urlSafeDecodabet b < -1 then b :: readPart n source
    else if n < 3 then b :: readPart (n + 1) source
    else if b = equalsSign then [b]
    else b :: readPart 0 source

theorem decode4to3_length {position : ℕ} (b4 : List UInt8) (h : position + 2 < room) :
    ∃ bytes, decode4to3 room position b4 = .ok bytes ∧ bytes.length ≤ 3 := by
  match b4 with
  | [w, x, y, z] =>
    rw [decode4to3_of_lt h]
    refine ⟨_, rfl, ?_⟩
    split_ifs <;> simp
  | [] | [_] | [_, _] | [_, _, _] => exact ⟨[], rfl, by simp⟩
  | _ :: _ :: _ :: _ :: _ :: _ => exact ⟨[], rfl, by simp⟩

/-- With room for three bytes a group, the loop fails for the characters only that it reads. -/
theorem decodeLoop_fails_iff (source : List UInt8)
    (hroom : 4 * out.length + 3 * (b4.length + source.length) ≤ 4 * room + 3)
    (hshort : b4.length < 4) :
    (∃ e, decodeLoop room b4 out i source = .error e) ↔
      ∃ b ∈ readPart b4.length source, urlSafeDecodabet b < -5 := by
  induction source generalizing b4 out i with
  | nil => simp [decodeLoop, readPart]
  | cons b source ih =>
    simp only [List.length_cons] at hroom
    rw [decodeLoop, readPart]
    by_cases hbad : urlSafeDecodabet b < -5
    · rw [if_pos hbad, if_pos (by omega)]
      exact iff_of_true ⟨_, rfl⟩ ⟨b, List.mem_cons_self, hbad⟩
    rw [if_neg hbad]
    split_ifs with hblank hpart hclose
    · rw [ih (by omega) hshort]
      simp [hbad]
    · rw [ih (by simp only [List.length_append, List.length_singleton]; omega)
        (by simp only [List.length_append, List.length_singleton]; omega)]
      simp [hbad]
    · have hspace : out.length + 2 < room := by omega
      obtain ⟨decoded, hdecoded, -⟩ := decode4to3_length (b4 ++ [b]) hspace
      rw [hdecoded]
      refine iff_of_false ?_ ?_
      · intro hfails
        obtain ⟨e, he⟩ := hfails
        cases he
      · simp [hbad]
    · have hspace : out.length + 2 < room := by omega
      obtain ⟨decoded, hdecoded, hthree⟩ := decode4to3_length (b4 ++ [b]) hspace
      rw [hdecoded]
      have hrest : (∃ e, decodeLoop room [] (out ++ decoded) (i + 1) source = .error e) ↔
          ∃ b ∈ readPart 0 source, urlSafeDecodabet b < -5 := by
        apply ih
        · simp only [List.length_append, List.length_nil]
          omega
        · decide
      simp only [List.exists_mem_cons_iff, or_iff_right hbad]
      exact hrest

theorem mem_of_mem_readPart {b : UInt8} (h : b ∈ readPart n source) : b ∈ source := by
  induction source generalizing n with
  | nil => exact h
  | cons c source ih =>
    rw [readPart] at h
    split_ifs at h
    all_goals
      rcases List.mem_cons.mp h with rfl | h
      · exact List.mem_cons_self
      · first | exact List.mem_cons_of_mem c (ih h) | cases h

/-- Equals signs that are put behind a text bring no other characters with them. -/
theorem readPart_padded (hpad : ∀ b ∈ pad, b = equalsSign) :
    (∃ b ∈ readPart n (source ++ pad), urlSafeDecodabet b < -5) ↔
      ∃ b ∈ readPart n source, urlSafeDecodabet b < -5 := by
  induction source generalizing n with
  | nil =>
    have hequals : ¬urlSafeDecodabet equalsSign < -5 := by decide
    refine iff_of_false ?_ ?_
    · intro ⟨b, hb, hbad⟩
      rw [hpad b (mem_of_mem_readPart hb)] at hbad
      exact hequals hbad
    · simp [readPart]
  | cons b source ih =>
    rw [List.cons_append, readPart, readPart]
    split_ifs
    · simp only [List.exists_mem_cons_iff, ih]
    · simp only [List.exists_mem_cons_iff, ih]
    · rfl
    · simp only [List.exists_mem_cons_iff, ih]

/-- Texts whose length is a multiple of four. -/
theorem decode_fails_iff (h : source.length % 4 = 0) :
    (∃ e, decode source = .error e) ↔ ∃ b ∈ readPart 0 source, urlSafeDecodabet b < -5 := by
  unfold decode
  by_cases hnil : source = []
  · rw [if_pos hnil, hnil]
    simp [readPart]
  · have hpos := List.length_pos_iff.mpr hnil
    rw [if_neg hnil, if_neg (by omega)]
    exact decodeLoop_fails_iff source (by simp only [List.length_nil]; omega) (by decide)

end Base64Codec

namespace Codecs
open Base64Codec

theorem urlDecode_fails_iff (b64 : List UInt8) :
    (∃ e, urlDecode b64 = .error e) ↔
      b64.length % 4 = 1 ∨ ∃ b ∈ readPart 0 b64, urlSafeDecodabet b < -5 := by
  have hpadded : ∀ pad : List UInt8, (∀ b ∈ pad, b = equalsSign) →
      (b64 ++ pad).length % 4 = 0 → ((∃ e, decode (b64 ++ pad) = .error e) ↔
        ∃ b ∈ readPart 0 b64, urlSafeDecodabet b < -5) := by
    intro pad hpad hlength
    rw [decode_fails_iff hlength]
    exact readPart_padded hpad
  unfold urlDecode
  split_ifs with hzero htwo hthree
  · have hall := hpadded [] nofun (by simpa using hzero)
    rw [List.append_nil] at hall
    rw [hall, or_iff_right (by omega)]
  · have hlength : (b64 ++ [equalsSign, equalsSign]).length % 4 = 0 := by
      simp only [List.length_append, List.length_cons, List.length_nil]
      omega
    rw [hpadded _ (by simp) hlength, or_iff_right (by omega)]
  · have hlength : (b64 ++ [equalsSign]).length % 4 = 0 := by
      simp only [List.length_append, List.length_cons, List.length_nil]
      omega
    rw [hpadded _ (by simp) hlength, or_iff_right (by omega)]
  · exact iff_of_true ⟨_, rfl⟩ (.inl (by omega))

/-- The characters of the URL-safe alphabet, and the sign that fills a text up. -/
def IsUrlSafe (b : UInt8) : Prop := b ∈ urlSafeAlphabet ∨ b = equalsSign

instance : DecidablePred IsUrlSafe := fun _ => inferInstanceAs (Decidable (_ ∨ _))

/-- Each pair of an encoder and a decoder gives the bytes back, and the decoders turn away what no
encoder writes: digits of an odd number, and characters outside of the alphabet. -/
structure Faithful (bytes : List UInt8) (s : List UInt16) (b64 : List UInt8) : Prop where
  hex : hexDecode (hexEncode bytes) = .ok bytes
  b64Url : b64UrlEncode bytes >>= b64UrlDecode = .ok bytes
  hexRefuses : s.length % 2 = 1 ∨ (∃ c ∈ s, ¬Hex.IsDigit c) → ∃ e, hexDecode s = .error e
  b64UrlRefuses : (∃ b ∈ b64, ¬IsUrlSafe b) → ∃ e, b64UrlDecode b64 = .error e

/-- No byte has a zero for one of its halves, and there is one. A foreign character comes with an
odd number, with a digit zero or with a character that is no digit anywhere; in base 64 it is not
white space, and stands before the equals sign at which the reading ends. -/
structure Faultless (bytes : List UInt8) (s : List UInt16) (b64 : List UInt8) : Prop where
  nibbles : ∀ b ∈ bytes, Hex.BothNibbles b
  nonempty : bytes ≠ []
  digits : (∃ c ∈ s, ¬Hex.IsDigit c) → s.length % 2 = 1 ∨ ∃ c ∈ s, Character.digit c ≤ 0
  characters : (∃ b ∈ b64, ¬IsUrlSafe b) →
    b64.length % 4 = 1 ∨ ∃ b ∈ readPart 0 b64, urlSafeDecodabet b < -5

theorem b64Url_iff (bytes : List UInt8) :
    b64UrlEncode bytes >>= b64UrlDecode = .ok bytes ↔ bytes ≠ [] := by
  by_cases hnil : bytes = []
  · rw [hnil]
    exact iff_of_false nofun fun h => h rfl
  · obtain ⟨core, hencode, -, -, hdecode⟩ := urlEncode_eq hnil
    unfold b64UrlEncode
    rw [hencode]
    exact iff_of_true hdecode hnil

theorem faithful_iff (bytes : List UInt8) (s : List UInt16) (b64 : List UInt8) :
    Faithful bytes s b64 ↔ Faultless bytes s b64 := by
  constructor
  · intro h
    constructor
    · exact (Hex.decode_encode_iff bytes).mp h.hex
    · exact (b64Url_iff bytes).mp h.b64Url
    · intro hforeign
      exact (Hex.decode_fails_iff s).mp (h.hexRefuses (.inr hforeign))
    · intro hforeign
      exact (urlDecode_fails_iff b64).mp (h.b64UrlRefuses hforeign)
  · intro h
    constructor
    · exact (Hex.decode_encode_iff bytes).mpr h.nibbles
    · exact (b64Url_iff bytes).mpr h.nonempty
    · intro hrefused
      apply (Hex.decode_fails_iff s).mpr
      rcases hrefused with hodd | hforeign
      · exact .inl hodd
      · exact h.digits hforeign
    · intro hforeign
      exact (urlDecode_fails_iff b64).mpr (h.characters hforeign)

/-- The byte 16 has a zero digit, the empty array has no last byte, and two digits one of full
width are read as 17. -/
theorem faithful_fails :
    hexDecode (hexEncode [16]) = .error (illegalArgument "Non-hex character in input: 10") ∧
      b64UrlEncode [] = .error arrayIndexOutOfBounds ∧
      hexDecode [0xFF11, 0xFF11] = .ok [17] ∧
      ¬ ∀ bytes s b64, Faithful bytes s b64 := by
  refine ⟨by decide +kernel, rfl, by decide +kernel, ?_⟩
  intro h
  have hempty := (h [] [] []).b64Url
  cases hempty

end Codecs
end MaxKey.OAuth2
