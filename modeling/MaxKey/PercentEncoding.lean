import Mathlib.Data.List.Flatten
import Mathlib.Data.Nat.Notation
import Mathlib.Tactic.SplitIfs

namespace PercentEncoding

/-! ### The bytes of a text -/

def utf8 (s : List Char) : List UInt8 := s.flatMap String.utf8EncodeChar

/-- The ranges of the bytes that can follow a first byte. -/
def continuation (b : UInt8) : List (UInt8 × UInt8) :=
  if 0xC2 ≤ b ∧ b ≤ 0xDF then [(0x80, 0xBF)]
  else if b = 0xE0 then [(0xA0, 0xBF), (0x80, 0xBF)]
  else if 0xE1 ≤ b ∧ b ≤ 0xEF then [(0x80, 0xBF), (0x80, 0xBF)]
  else if b = 0xF0 then [(0x90, 0xBF), (0x80, 0xBF), (0x80, 0xBF)]
  else if 0xF1 ≤ b ∧ b ≤ 0xF3 then [(0x80, 0xBF), (0x80, 0xBF), (0x80, 0xBF)]
  else if b = 0xF4 then [(0x80, 0x8F), (0x80, 0xBF), (0x80, 0xBF)]
  else []

/-- How many bytes belong to a first byte that starts no character. -/
def malformedLength : List (UInt8 × UInt8) → List UInt8 → ℕ
  | (low, high) :: ranges, b :: bytes =>
    if low ≤ b ∧ b ≤ high then malformedLength ranges bytes + 1 else 0
  | _, _ => 0

/-- Every malformed sequence is read as one replacement character. -/
def readUtf8 : ℕ → List UInt8 → List Char
  | 0, _ | _, [] => []
  | n + 1, b :: bytes =>
    match (b :: bytes).toByteArray.utf8DecodeChar? 0 with
    | some c => c :: readUtf8 n ((b :: bytes).drop c.utf8Size)
    | none => '\uFFFD' :: readUtf8 n (bytes.drop (malformedLength (continuation b) bytes))

def ofUtf8 (bytes : List UInt8) : List Char := readUtf8 bytes.length bytes

@[simp] theorem utf8_nil : utf8 [] = [] := rfl

theorem utf8_append (s t : List Char) : utf8 (s ++ t) = utf8 s ++ utf8 t := List.flatMap_append

theorem readUtf8_cons (c : Char) (bytes : List UInt8) (n : ℕ) :
    readUtf8 (n + 1) (String.utf8EncodeChar c ++ bytes) = c :: readUtf8 n bytes := by
  have hdecode : (String.utf8EncodeChar c ++ bytes).toByteArray.utf8DecodeChar? 0 = some c := by
    rw [List.toByteArray_append]
    exact ByteArray.utf8DecodeChar?_utf8EncodeChar_append
  have hdrop : (String.utf8EncodeChar c ++ bytes).drop c.utf8Size = bytes :=
    List.drop_left' (String.length_utf8EncodeChar c)
  cases hbytes : String.utf8EncodeChar c ++ bytes with
  | nil =>
    rw [hbytes] at hdecode
    cases hdecode
  | cons b rest =>
    rw [hbytes] at hdecode hdrop
    rw [readUtf8, hdecode]
    simp only [hdrop]

theorem readUtf8_utf8 (s : List Char) {n : ℕ} (h : (utf8 s).length ≤ n) :
    readUtf8 n (utf8 s) = s := by
  induction s generalizing n with
  | nil => cases n <;> rfl
  | cons c s ih =>
    have hlength : (utf8 (c :: s)).length = c.utf8Size + (utf8 s).length := by
      unfold utf8
      rw [List.flatMap_cons, List.length_append, String.length_utf8EncodeChar]
    have hpos := Char.utf8Size_pos c
    obtain ⟨m, rfl⟩ : ∃ m, n = m + 1 := ⟨n - 1, by omega⟩
    have hcons : utf8 (c :: s) = String.utf8EncodeChar c ++ utf8 s := List.flatMap_cons
    rw [hcons, readUtf8_cons, ih (by omega)]

/-- Well-formed bytes are read as the text that they are the bytes of. -/
theorem ofUtf8_utf8 (s : List Char) : ofUtf8 (utf8 s) = s := readUtf8_utf8 s (Nat.le_refl _)

theorem utf8_injective : Function.Injective utf8 := Function.LeftInverse.injective ofUtf8_utf8

/-- A surrogate and a truncated sequence are one character each, a byte that starts nothing too. -/
example : ofUtf8 [0x61, 0xED, 0xA0, 0x80, 0xE2, 0x82, 0x62, 0xC0, 0x80] =
    ['a', '\uFFFD', '\uFFFD', 'b', '\uFFFD', '\uFFFD'] := by decide +kernel

/-! ### Escapes -/

def hexDigit (n : ℕ) : Char := if n < 10 then Char.ofNat (48 + n) else Char.ofNat (55 + n)

def escape (b : UInt8) : List Char := ['%', hexDigit (b.toNat / 16), hexDigit (b.toNat % 16)]

/-- The upper-case digits. -/
def IsHexDigit (c : Char) : Prop := c.isDigit ∨ c ∈ ['A', 'B', 'C', 'D', 'E', 'F']

instance : DecidablePred IsHexDigit := fun _ => inferInstanceAs (Decidable (_ ∨ _))

theorem isHexDigit_hexDigit {n : ℕ} (h : n < 16) : IsHexDigit (hexDigit n) := by
  revert n
  decide

theorem mem_escape {b : UInt8} {c : Char} (h : c ∈ escape b) : c = '%' ∨ IsHexDigit c := by
  have hhigh : b.toNat / 16 < 16 := Nat.div_lt_of_lt_mul b.toNat_lt
  have hlow : b.toNat % 16 < 16 := Nat.mod_lt _ (by decide)
  rcases List.mem_cons.mp h with rfl | h
  · exact .inl rfl
  rcases List.mem_cons.mp h with rfl | h
  · exact .inr (isHexDigit_hexDigit hhigh)
  · rw [List.mem_singleton.mp h]
    exact .inr (isHexDigit_hexDigit hlow)

section Encoding

variable {unreserved : Char → Bool}

variable (unreserved) in
/-- Every other character is written by its bytes. -/
def encodeChar (c : Char) : List Char :=
  if unreserved c then [c] else (String.utf8EncodeChar c).flatMap escape

variable (unreserved) in
def encode (s : List Char) : List Char := s.flatMap (encodeChar unreserved)

theorem mem_encode {s : List Char} {c : Char} (h : c ∈ encode unreserved s) :
    unreserved c ∨ c = '%' ∨ IsHexDigit c := by
  obtain ⟨d, -, hd⟩ := List.mem_flatMap.mp h
  unfold encodeChar at hd
  split_ifs at hd with hsafe
  · rw [List.mem_singleton.mp hd]
    exact .inl hsafe
  · obtain ⟨b, -, hb⟩ := List.mem_flatMap.mp hd
    exact .inr (mem_escape hb)

end Encoding

/-! ### Reading escapes -/

section Decoding

variable (byte : Char → Char → Option UInt8) (plain : Char → Char)

/-- Escapes in a row are collected, since a character can be spread over several of them. -/
def decodeFrom : List UInt8 → List Char → Option (List Char)
  | bytes, [] => some (ofUtf8 bytes)
  | bytes, c :: s =>
    if c = '%' then
      match s with
      | high :: low :: s => (byte high low).bind fun b => decodeFrom (bytes ++ [b]) s
      | _ => none
    else (decodeFrom [] s).map fun t => ofUtf8 bytes ++ plain c :: t

def decode (s : List Char) : Option (List Char) := decodeFrom byte plain [] s

variable {byte plain}

theorem decodeFrom_escape (hbyte : ∀ b : UInt8,
    byte (hexDigit (b.toNat / 16)) (hexDigit (b.toNat % 16)) = some b)
    (more bytes : List UInt8) (s : List Char) :
    decodeFrom byte plain bytes (more.flatMap escape ++ s) =
      decodeFrom byte plain (bytes ++ more) s := by
  induction more generalizing bytes with
  | nil => rw [List.flatMap_nil, List.nil_append, List.append_nil]
  | cons b more ih =>
    have hcons : (b :: more).flatMap escape ++ s = '%' :: hexDigit (b.toNat / 16) ::
        hexDigit (b.toNat % 16) :: (more.flatMap escape ++ s) := rfl
    rw [hcons, decodeFrom, if_pos rfl, hbyte, Option.bind_some, ih, List.append_assoc,
      List.singleton_append]

theorem decodeFrom_of_ne {c : Char} (hc : c ≠ '%') (bytes : List UInt8) (s : List Char) :
    decodeFrom byte plain bytes (c :: s) =
      (decodeFrom byte plain [] s).map fun t => ofUtf8 bytes ++ plain c :: t := by
  rw [decodeFrom.eq_def]
  exact if_neg hc

/-- The characters that are waiting come first. -/
theorem decodeFrom_encode {unreserved : Char → Bool} (hplain : ∀ c, unreserved c → plain c = c)
    (hsign : unreserved '%' = false) (hbyte : ∀ b : UInt8,
    byte (hexDigit (b.toNat / 16)) (hexDigit (b.toNat % 16)) = some b) (s t : List Char) :
    decodeFrom byte plain (utf8 s) (encode unreserved t) = some (s ++ t) := by
  induction t generalizing s with
  | nil =>
    have hnil : encode unreserved [] = [] := rfl
    rw [hnil, decodeFrom, ofUtf8_utf8, List.append_nil]
  | cons c t ih =>
    have hcons : encode unreserved (c :: t) = encodeChar unreserved c ++ encode unreserved t :=
      List.flatMap_cons
    rw [hcons]
    unfold encodeChar
    split_ifs with hsafe
    · have hc : c ≠ '%' := by
        rintro rfl
        rw [hsign] at hsafe
        cases hsafe
      have hrest := ih []
      rw [utf8_nil, List.nil_append] at hrest
      -- a plain character ends the row of escapes
      rw [List.singleton_append, decodeFrom_of_ne hc, hrest, hplain c hsafe, ofUtf8_utf8]
      rfl
    · have hbytes : utf8 s ++ String.utf8EncodeChar c = utf8 (s ++ [c]) := by
        rw [utf8_append]
        exact congrArg (utf8 s ++ ·) (List.flatMap_singleton _ _).symm
      -- the bytes of this character join those that are waiting
      rw [decodeFrom_escape hbyte, hbytes, ih, List.append_assoc, List.singleton_append]

/-- Whatever text is encoded is decoded again. -/
theorem decode_encode {unreserved : Char → Bool} (hplain : ∀ c, unreserved c → plain c = c)
    (hsign : unreserved '%' = false) (hbyte : ∀ b : UInt8,
    byte (hexDigit (b.toNat / 16)) (hexDigit (b.toNat % 16)) = some b) (s : List Char) :
    decode byte plain (encode unreserved s) = some s :=
  decodeFrom_encode hplain hsign hbyte [] s

end Decoding

end PercentEncoding
