import Mathlib.Algebra.Group.Nat.Defs
import MaxKey.OAuth2

namespace MaxKey.OAuth2
open JavaException Effects

namespace Base64Codec

def equalsSign : UInt8 := 61

def urlSafeAlphabet : List UInt8 :=
  "ABCDEFGHIJKLMNOPQRSTUVWXYZabcdefghijklmnopqrstuvwxyz0123456789-_".toList.map
    fun c => UInt8.ofNat c.toNat

def alphabet (i : ℕ) : UInt8 := urlSafeAlphabet.getD i 0

/-- The six bits of a character; -5 for white space, -1 for the equals sign, -9 for the others. -/
def urlSafeDecodabet (b : UInt8) : ℤ :=
  let n : ℤ := b.toNat
  if n = 9 ∨ n = 10 ∨ n = 13 ∨ n = 32 then -5
  else if n = 45 then 62
  else if 48 ≤ n ∧ n ≤ 57 then n - 48 + 52
  else if n = 61 then -1
  else if 65 ≤ n ∧ n ≤ 90 then n - 65
  else if n = 95 then 63
  else if 97 ≤ n ∧ n ≤ 122 then n - 97 + 26
  else -9

/-- Up to three bytes as four characters. -/
def encode3to4 : List UInt8 → List UInt8
  | [a, b, c] =>
    let inBuff := a.toNat <<< 16 ||| b.toNat <<< 8 ||| c.toNat
    [alphabet (inBuff >>> 18), alphabet (inBuff >>> 12 &&& 0x3f), alphabet (inBuff >>> 6 &&& 0x3f),
      alphabet (inBuff &&& 0x3f)]
  | [a, b] =>
    let inBuff := a.toNat <<< 16 ||| b.toNat <<< 8
    [alphabet (inBuff >>> 18), alphabet (inBuff >>> 12 &&& 0x3f), alphabet (inBuff >>> 6 &&& 0x3f),
      equalsSign]
  | [a] =>
    let inBuff := a.toNat <<< 16
    [alphabet (inBuff >>> 18), alphabet (inBuff >>> 12 &&& 0x3f), equalsSign, equalsSign]
  | _ => []

def encodeBytesToBytes : List UInt8 → List UInt8
  | a :: b :: c :: source => encode3to4 [a, b, c] ++ encodeBytesToBytes source
  | source => encode3to4 source

/-- The value of a character in the table, as an unsigned byte. -/
def bits (b : UInt8) : ℕ := (urlSafeDecodabet b % 256).toNat

/-- Four characters as up to three bytes, for which there must be room. -/
def decode4to3 (room position : ℕ) : List UInt8 → Except JavaException (List UInt8)
  | [w, x, y, z] => do
    failIf (room ≤ position + 2) (illegalArgument ("Destination array with length " ++
      toString room ++ " cannot have offset of " ++ toString position ++
        " and still store three bytes."))
    if y = equalsSign then
      let outBuff := bits w <<< 18 ||| bits x <<< 12
      return [UInt8.ofNat (outBuff >>> 16)]
    else if z = equalsSign then
      let outBuff := bits w <<< 18 ||| bits x <<< 12 ||| bits y <<< 6
      return [UInt8.ofNat (outBuff >>> 16), UInt8.ofNat (outBuff >>> 8)]
    else
      let outBuff := bits w <<< 18 ||| bits x <<< 12 ||| bits y <<< 6 ||| bits z
      return [UInt8.ofNat (outBuff >>> 16), UInt8.ofNat (outBuff >>> 8), UInt8.ofNat outBuff]
  | _ => .ok []

/-- The loop over the source, with the characters of the group and the bytes so far. It ends behind
a group that ends in an equals sign. -/
def decodeLoop (room : ℕ) (b4 out : List UInt8) (i : ℕ) :
    List UInt8 → Except JavaException (List UInt8)
  | [] => .ok out
  | b :: source =>
    if urlSafeDecodabet b < -5 then .error (illegalArgument
      ("Bad Base64 input character decimal " ++ toString b ++ " in array position " ++ toString i))
    else if urlSafeDecodabet b < -1 then decodeLoop room b4 out (i + 1) source
    else if b4.length < 3 then decodeLoop room (b4 ++ [b]) out (i + 1) source
    else do
      let decoded ← decode4to3 room out.length (b4 ++ [b])
      if b = equalsSign then return out ++ decoded
      else decodeLoop room [] (out ++ decoded) (i + 1) source

def decode (source : List UInt8) : Except JavaException (List UInt8) :=
  if source = [] then .ok []
  else if source.length < 4 then .error (illegalArgument
    ("Base64-encoded string must have at least four characters, but length specified was " ++
      toString source.length))
  else decodeLoop (source.length * 3 / 4) [] [] 0 source

/-! ### One group -/

section Group

variable {a b c : UInt8} {room position : ℕ}

theorem or_eq_add {x y : ℕ} (i : ℕ) (hx : 2 ^ i ∣ x) (hy : y < 2 ^ i) : x ||| y = x + y := by
  obtain ⟨k, rfl⟩ := hx
  rw [Nat.mul_comm, ← Nat.shiftLeft_eq, Nat.shiftLeft_add_eq_or_of_lt hy]

/-- The bits of up to four characters, put together again. -/
theorem sextets (n : ℕ) :
    (n >>> 18) <<< 18 ||| (n >>> 12 &&& 0x3f) <<< 12 = n / 2 ^ 12 * 2 ^ 12 ∧
      n / 2 ^ 12 * 2 ^ 12 ||| (n >>> 6 &&& 0x3f) <<< 6 = n / 2 ^ 6 * 2 ^ 6 ∧
      n / 2 ^ 6 * 2 ^ 6 ||| (n &&& 0x3f) = n := by
  have hmask : ∀ m : ℕ, m &&& 0x3f = m % 2 ^ 6 := fun m => Nat.and_two_pow_sub_one_eq_mod m 6
  simp only [hmask, Nat.shiftLeft_eq, Nat.shiftRight_eq_div_pow]
  refine ⟨?_, ?_, ?_⟩
  · rw [or_eq_add 18 (Nat.dvd_mul_left _ _) (by omega)]
    omega
  · rw [or_eq_add 12 (Nat.dvd_mul_left _ _) (by omega)]
    omega
  · rw [or_eq_add 6 (Nat.dvd_mul_left _ _) (by omega)]
    omega

theorem alphabet_spec : ∀ i < 64, bits (alphabet i) = i ∧ 0 ≤ urlSafeDecodabet (alphabet i) ∧
    alphabet i ≠ equalsSign ∧ alphabet i ≠ 46 ∧ (alphabet i).toNat < 128 := by
  decide +kernel

theorem and_lt (m : ℕ) : m &&& 0x3f < 64 := by
  have hmask : m &&& 0x3f = m % 2 ^ 6 := Nat.and_two_pow_sub_one_eq_mod m 6
  omega

theorem ofNat_eq {n : ℕ} (h : n % 256 = a.toNat) : UInt8.ofNat n = a := by
  apply UInt8.toNat_inj.mp
  rw [UInt8.toNat_ofNat']
  exact h

/-- The numbers that the bytes of a group are in. -/
theorem inBuff_eq (a b c : UInt8) :
    a.toNat <<< 16 ||| b.toNat <<< 8 = a.toNat * 65536 + b.toNat * 256 ∧
      a.toNat <<< 16 ||| b.toNat <<< 8 ||| c.toNat =
        a.toNat * 65536 + b.toNat * 256 + c.toNat := by
  have hb := b.toNat_lt
  have hc := c.toNat_lt
  have htwo : a.toNat <<< 16 ||| b.toNat <<< 8 = a.toNat * 65536 + b.toNat * 256 := by
    simp only [Nat.shiftLeft_eq]
    have hadd := or_eq_add (x := a.toNat * 2 ^ 16) (y := b.toNat * 2 ^ 8) 16
      (Nat.dvd_mul_left _ _) (by omega)
    omega
  refine ⟨htwo, ?_⟩
  rw [htwo, or_eq_add 8 (by omega) (by omega)]

theorem decode4to3_of_lt {w x y z : UInt8} (h : position + 2 < room) :
    decode4to3 room position [w, x, y, z] = .ok
      (if y = equalsSign then [UInt8.ofNat ((bits w <<< 18 ||| bits x <<< 12) >>> 16)]
      else if z = equalsSign then
        [UInt8.ofNat ((bits w <<< 18 ||| bits x <<< 12 ||| bits y <<< 6) >>> 16),
          UInt8.ofNat ((bits w <<< 18 ||| bits x <<< 12 ||| bits y <<< 6) >>> 8)]
      else
        [UInt8.ofNat ((bits w <<< 18 ||| bits x <<< 12 ||| bits y <<< 6 ||| bits z) >>> 16),
          UInt8.ofNat ((bits w <<< 18 ||| bits x <<< 12 ||| bits y <<< 6 ||| bits z) >>> 8),
          UInt8.ofNat (bits w <<< 18 ||| bits x <<< 12 ||| bits y <<< 6 ||| bits z)]) := by
  unfold decode4to3 failIf
  rw [if_neg (Nat.not_le.mpr h)]
  dsimp only [bind, Except.bind]
  split_ifs <;> rfl

theorem decode4to3_three (h : position + 2 < room) :
    decode4to3 room position (encode3to4 [a, b, c]) = .ok [a, b, c] := by
  have ha := a.toNat_lt
  have hb := b.toNat_lt
  have hc := c.toNat_lt
  obtain ⟨-, hbuff⟩ := inBuff_eq a b c
  obtain ⟨htwo, hthree, hfour⟩ := sextets (a.toNat * 65536 + b.toNat * 256 + c.toNat)
  unfold encode3to4
  simp only [hbuff]
  generalize hn : a.toNat * 65536 + b.toNat * 256 + c.toNat = n at *
  have h0 : n >>> 18 < 64 := by
    rw [Nat.shiftRight_eq_div_pow]
    omega
  have hy := alphabet_spec _ (and_lt (n >>> 6))
  have hz := alphabet_spec _ (and_lt n)
  rw [decode4to3_of_lt h, if_neg hy.2.2.1, if_neg hz.2.2.1, (alphabet_spec _ h0).1,
    (alphabet_spec _ (and_lt (n >>> 12))).1, hy.1, hz.1, htwo, hthree, hfour]
  simp only [Nat.shiftRight_eq_div_pow]
  have hfirst : UInt8.ofNat (n / 2 ^ 16) = a := ofNat_eq (by omega)
  have hsecond : UInt8.ofNat (n / 2 ^ 8) = b := ofNat_eq (by omega)
  have hthird : UInt8.ofNat n = c := ofNat_eq (by omega)
  rw [hfirst, hsecond, hthird]

theorem decode4to3_two (h : position + 2 < room) :
    decode4to3 room position (encode3to4 [a, b]) = .ok [a, b] := by
  have ha := a.toNat_lt
  have hb := b.toNat_lt
  obtain ⟨hbuff, -⟩ := inBuff_eq a b 0
  obtain ⟨htwo, hthree, -⟩ := sextets (a.toNat * 65536 + b.toNat * 256)
  unfold encode3to4
  simp only [hbuff]
  generalize hn : a.toNat * 65536 + b.toNat * 256 = n at *
  have h0 : n >>> 18 < 64 := by
    rw [Nat.shiftRight_eq_div_pow]
    omega
  have hy := alphabet_spec _ (and_lt (n >>> 6))
  rw [decode4to3_of_lt h, if_neg hy.2.2.1, if_pos rfl, (alphabet_spec _ h0).1,
    (alphabet_spec _ (and_lt (n >>> 12))).1, hy.1, htwo, hthree]
  simp only [Nat.shiftRight_eq_div_pow]
  have hfirst : UInt8.ofNat (n / 2 ^ 6 * 2 ^ 6 / 2 ^ 16) = a := ofNat_eq (by omega)
  have hsecond : UInt8.ofNat (n / 2 ^ 6 * 2 ^ 6 / 2 ^ 8) = b := ofNat_eq (by omega)
  rw [hfirst, hsecond]

theorem decode4to3_one (h : position + 2 < room) :
    decode4to3 room position (encode3to4 [a]) = .ok [a] := by
  have ha := a.toNat_lt
  obtain ⟨htwo, -, -⟩ := sextets (a.toNat <<< 16)
  have hbuff : a.toNat <<< 16 = a.toNat * 65536 := Nat.shiftLeft_eq _ _
  unfold encode3to4
  dsimp only
  generalize hn : a.toNat <<< 16 = n at *
  have h0 : n >>> 18 < 64 := by
    rw [Nat.shiftRight_eq_div_pow]
    omega
  rw [decode4to3_of_lt h, if_pos rfl, (alphabet_spec _ h0).1,
    (alphabet_spec _ (and_lt (n >>> 12))).1, htwo]
  simp only [Nat.shiftRight_eq_div_pow]
  have hfirst : UInt8.ofNat (n / 2 ^ 12 * 2 ^ 12 / 2 ^ 16) = a := ofNat_eq (by omega)
  rw [hfirst]

/-! ### The loop -/

theorem decodeLoop_group {w x y z : UInt8} {out rest : List UInt8} {i : ℕ}
    (h : ∀ b ∈ [w, x, y, z], -1 ≤ urlSafeDecodabet b) :
    decodeLoop room [] out i (w :: x :: y :: z :: rest) =
      (decode4to3 room out.length [w, x, y, z] >>= fun decoded =>
        if z = equalsSign then .ok (out ++ decoded)
        else decodeLoop room [] (out ++ decoded) (i + 4) rest) := by
  have hlegal : ∀ b ∈ [w, x, y, z], ¬urlSafeDecodabet b < -5 ∧ ¬urlSafeDecodabet b < -1 := by
    intro b hb
    have hlow := h b hb
    omega
  simp only [List.forall_mem_cons] at hlegal
  obtain ⟨hw, hx, hy, hz, -⟩ := hlegal
  simp [decodeLoop, hw, hx, hy, hz]
  rfl

/-- A character of the alphabet: no padding, no period, and one byte of a text. -/
structure Safe (b : UInt8) : Prop where
  ne_equalsSign : b ≠ equalsSign
  decodabet : 0 ≤ urlSafeDecodabet b
  ne_period : b ≠ 46
  ascii : b.toNat < 128

theorem safe_alphabet {i : ℕ} (h : i < 64) : Safe (alphabet i) := by
  obtain ⟨-, hdecodabet, hequals, hperiod, hascii⟩ := alphabet_spec i h
  exact ⟨hequals, hdecodabet, hperiod, hascii⟩

theorem shift_lt {n : ℕ} (h : n < 2 ^ 24) : n >>> 18 < 64 := by
  rw [Nat.shiftRight_eq_div_pow]
  omega

/-- A group is one character more than its bytes, and padding. -/
theorem encode3to4_eq {source : List UInt8} (hpos : source ≠ []) (hlength : source.length ≤ 3) :
    ∃ core, encode3to4 source = core ++ List.replicate (3 - source.length) equalsSign ∧
      core.length = source.length + 1 ∧ ∀ b ∈ core, Safe b := by
  match source with
  | [a] =>
    have ha := a.toNat_lt
    have h0 : a.toNat <<< 16 >>> 18 < 64 := by
      apply shift_lt
      rw [Nat.shiftLeft_eq]
      omega
    refine ⟨[_, _], rfl, rfl, ?_⟩
    simp [safe_alphabet h0, safe_alphabet (and_lt _)]
  | [a, b] =>
    have ha := a.toNat_lt
    have hb := b.toNat_lt
    have h0 : (a.toNat <<< 16 ||| b.toNat <<< 8) >>> 18 < 64 := by
      apply shift_lt
      rw [(inBuff_eq a b 0).1]
      omega
    refine ⟨[_, _, _], rfl, rfl, ?_⟩
    simp [safe_alphabet h0, safe_alphabet (and_lt _)]
  | [a, b, c] =>
    have ha := a.toNat_lt
    have hb := b.toNat_lt
    have hc := c.toNat_lt
    have h0 : (a.toNat <<< 16 ||| b.toNat <<< 8 ||| c.toNat) >>> 18 < 64 := by
      apply shift_lt
      rw [(inBuff_eq a b c).2]
      omega
    refine ⟨[_, _, _, _], rfl, rfl, ?_⟩
    simp [safe_alphabet h0, safe_alphabet (and_lt _)]
  | _ :: _ :: _ :: _ :: _ =>
    simp only [List.length_cons] at hlength
    omega

theorem legal_encode3to4 {source : List UInt8} (hpos : source ≠ []) (hlength : source.length ≤ 3) :
    ∀ b ∈ encode3to4 source, -1 ≤ urlSafeDecodabet b := by
  obtain ⟨core, hcore, -, hsafe⟩ := encode3to4_eq hpos hlength
  rw [hcore]
  intro b hb
  rcases List.mem_append.mp hb with hb | hb
  · have hlow := (hsafe b hb).decodabet
    omega
  · rw [List.eq_of_mem_replicate hb]
    decide

/-- The bytes of one group come back, and the loop goes on behind a full group only. -/
theorem decodeLoop_encode3to4 {source out rest : List UInt8} {i : ℕ} (hpos : source ≠ [])
    (hlength : source.length ≤ 3) (hroom : out.length + 2 < room) :
    decodeLoop room [] out i (encode3to4 source ++ rest) =
      if source.length < 3 then .ok (out ++ source)
      else decodeLoop room [] (out ++ source) (i + 4) rest := by
  have hlegal := legal_encode3to4 hpos hlength
  match source with
  | [a] =>
    have hdecode := decode4to3_one (a := a) hroom
    show decodeLoop room [] out i (_ :: _ :: _ :: _ :: rest) = _
    rw [decodeLoop_group hlegal]
    exact congrArg (· >>= _) hdecode
  | [a, b] =>
    have hdecode := decode4to3_two (a := a) (b := b) hroom
    show decodeLoop room [] out i (_ :: _ :: _ :: _ :: rest) = _
    rw [decodeLoop_group hlegal]
    exact congrArg (· >>= _) hdecode
  | [a, b, c] =>
    have hdecode := decode4to3_three (a := a) (b := b) (c := c) hroom
    have hsafe := safe_alphabet (and_lt (a.toNat <<< 16 ||| b.toNat <<< 8 ||| c.toNat))
    show decodeLoop room [] out i (_ :: _ :: _ :: _ :: rest) = _
    rw [decodeLoop_group hlegal]
    refine (congrArg (· >>= _) hdecode).trans ?_
    exact if_neg hsafe.ne_equalsSign
  | _ :: _ :: _ :: _ :: _ =>
    simp only [List.length_cons] at hlength
    omega

end Group

/-! ### Whole texts -/

section Text

variable {room i : ℕ} {out : List UInt8}

/-- The induction is on the groups. The room is that of three bytes a group. -/
theorem decodeLoop_encodeBytesToBytes (bytes : List UInt8)
    (hroom : out.length + 3 * ((bytes.length + 2) / 3) ≤ room) :
    decodeLoop room [] out i (encodeBytesToBytes bytes) = .ok (out ++ bytes) := by
  induction bytes using encodeBytesToBytes.induct generalizing out i with
  | case1 a b c source ih =>
    have hthree : [a, b, c].length ≤ 3 := Nat.le_refl 3
    have hfull : ¬[a, b, c].length < 3 := Nat.lt_irrefl 3
    rw [encodeBytesToBytes, decodeLoop_encode3to4 (List.cons_ne_nil _ _) hthree]
    · rw [if_neg hfull, ih]
      · rw [List.append_assoc]
        rfl
      · simp only [List.length_append, List.length_cons, List.length_nil] at hroom ⊢
        omega
    · simp only [List.length_cons] at hroom
      omega
  | case2 source hshort =>
    have hencode : encodeBytesToBytes source = encode3to4 source ++ [] := by
      rw [List.append_nil, encodeBytesToBytes]
      exact hshort
    have hlength : source.length < 3 := by
      match source with
      | [] | [_] | [_, _] => simp
      | a :: b :: c :: rest => exact absurd rfl (hshort a b c rest)
    rw [hencode]
    by_cases hempty : source = []
    · rw [hempty]
      simp [encode3to4, decodeLoop]
    · have hpos := List.length_pos_iff.mpr hempty
      rw [decodeLoop_encode3to4 hempty (by omega) (by omega), if_pos hlength]

/-- The encoding without its padding: what is left over has a character more than its bytes. -/
theorem encodeBytesToBytes_eq (bytes : List UInt8) :
    ∃ core, encodeBytesToBytes bytes =
        core ++ List.replicate ((3 - bytes.length % 3) % 3) equalsSign ∧
      core.length = 4 * (bytes.length / 3) +
        (if bytes.length % 3 = 0 then 0 else bytes.length % 3 + 1) ∧ ∀ b ∈ core, Safe b := by
  induction bytes using encodeBytesToBytes.induct with
  | case1 a b c source ih =>
    obtain ⟨core, hcore, hlength, hsafe⟩ := ih
    obtain ⟨first, hfirst, hfour, hsafe'⟩ :=
      encode3to4_eq (List.cons_ne_nil a [b, c]) (Nat.le_refl 3)
    have hmod : (a :: b :: c :: source).length % 3 = source.length % 3 := by
      simp only [List.length_cons]
      omega
    have hdiv : (a :: b :: c :: source).length / 3 = source.length / 3 + 1 := by
      simp only [List.length_cons]
      omega
    refine ⟨first ++ core, ?_, ?_, ?_⟩
    · rw [encodeBytesToBytes, hfirst, hcore, hmod]
      simp
    · rw [hmod, hdiv, List.length_append, hlength, hfour]
      simp only [List.length_cons, List.length_nil]
      omega
    · intro b hb
      rcases List.mem_append.mp hb with hb | hb
      · exact hsafe' b hb
      · exact hsafe b hb
  | case2 source hshort =>
    have hencode : encodeBytesToBytes source = encode3to4 source := by
      rw [encodeBytesToBytes]
      exact hshort
    match source with
    | [] => exact ⟨[], rfl, rfl, nofun⟩
    | [a] =>
      obtain ⟨core, hcore, hlength, hsafe⟩ := encode3to4_eq (List.cons_ne_nil a []) (by simp)
      exact ⟨core, hencode.trans hcore, by simp [hlength], hsafe⟩
    | [a, b] =>
      obtain ⟨core, hcore, hlength, hsafe⟩ := encode3to4_eq (List.cons_ne_nil a [b]) (by simp)
      exact ⟨core, hencode.trans hcore, by simp [hlength], hsafe⟩
    | a :: b :: c :: rest => exact absurd rfl (hshort a b c rest)

end Text

end Base64Codec

namespace Codecs
open Base64Codec

/-- The loop over the equals signs looks for the last byte also where there is none. -/
def urlEncode (bytes : List UInt8) : Except JavaException (List UInt8) :=
  match encodeBytesToBytes bytes with
  | [] => .error arrayIndexOutOfBounds
  | b64Bytes => .ok (b64Bytes.rdropWhile (· == equalsSign))

def urlDecode (b64 : List UInt8) : Except JavaException (List UInt8) :=
  if b64.length % 4 = 0 then decode b64
  else if b64.length % 4 = 2 then decode (b64 ++ [equalsSign, equalsSign])
  else if b64.length % 4 = 3 then decode (b64 ++ [equalsSign])
  else .error (illegalArgument "Invalid Base64 string")

def utf8Encode (string : String) : List UInt8 := string.toList.flatMap String.utf8EncodeChar

def utf8Decode (bytes : List UInt8) : Except JavaException String :=
  match String.fromUTF8? bytes.toByteArray with
  | some string => .ok string
  | none => .error (runtime "java.nio.charset.MalformedInputException")

theorem rdropWhile_padding (core : List UInt8) (n : ℕ) :
    (core ++ List.replicate n equalsSign).rdropWhile (· == equalsSign) =
      core.rdropWhile (· == equalsSign) := by
  induction n with
  | zero => simp
  | succ n ih =>
    rw [List.replicate_succ', ← List.append_assoc, List.rdropWhile_concat_pos, ih]
    exact beq_self_eq_true equalsSign

/-- Only the padding is dropped. -/
theorem rdropWhile_core {core : List UInt8} (h : ∀ b ∈ core, Safe b) (n : ℕ) :
    (core ++ List.replicate n equalsSign).rdropWhile (· == equalsSign) = core := by
  rw [rdropWhile_padding, List.rdropWhile_eq_self_iff]
  intro hne hlast
  exact (h _ (List.getLast_mem hne)).ne_equalsSign (eq_of_beq hlast)

theorem urlEncode_of_core {bytes core : List UInt8} {n : ℕ} (hne : core ≠ [])
    (hcore : encodeBytesToBytes bytes = core ++ List.replicate n equalsSign)
    (hsafe : ∀ b ∈ core, Safe b) : urlEncode bytes = .ok core := by
  unfold urlEncode
  rw [hcore]
  split
  · rename_i hnil
    exact absurd (List.append_eq_nil_iff.mp hnil).1 hne
  · rw [rdropWhile_core hsafe]

/-- A text that is not empty is encoded in characters of the alphabet and decoded again. -/
theorem urlEncode_eq {bytes : List UInt8} (h : bytes ≠ []) :
    ∃ core, urlEncode bytes = .ok core ∧ core ≠ [] ∧ (∀ b ∈ core, Safe b) ∧
      urlDecode core = .ok bytes := by
  obtain ⟨core, hcore, hlength, hsafe⟩ := encodeBytesToBytes_eq bytes
  have hpos := List.length_pos_iff.mpr h
  have hnonempty : core ≠ [] := by
    intro hnil
    rw [hnil, List.length_nil] at hlength
    split_ifs at hlength
    omega
  have hdecode : decode (encodeBytesToBytes bytes) = .ok bytes := by
    have hne : encodeBytesToBytes bytes ≠ [] := by
      rw [hcore]
      exact List.append_ne_nil_of_left_ne_nil hnonempty _
    have hsize : (encodeBytesToBytes bytes).length = 4 * ((bytes.length + 2) / 3) := by
      rw [hcore, List.length_append, hlength, List.length_replicate]
      split_ifs <;> omega
    unfold decode
    rw [if_neg hne, if_neg (by omega), hsize]
    apply decodeLoop_encodeBytesToBytes
    simp only [List.length_nil]
    omega
  refine ⟨core, urlEncode_of_core hnonempty hcore hsafe, hnonempty, hsafe, ?_⟩
  · rw [← hdecode, hcore]
    unfold urlDecode
    -- as many characters are padded as there were
    have hmod : bytes.length % 3 < 3 := Nat.mod_lt _ (by decide)
    match hrest : bytes.length % 3, hmod with
    | 0, _ =>
      rw [hrest, if_pos rfl] at hlength
      rw [if_pos (by omega)]
      simp
    | 1, _ =>
      rw [hrest, if_neg (by decide)] at hlength
      rw [if_neg (by omega), if_pos (by omega)]
      rfl
    | 2, _ =>
      rw [hrest, if_neg (by decide)] at hlength
      rw [if_neg (by omega), if_neg (by omega), if_pos (by omega)]
      rfl

/-! ### Texts and bytes -/

theorem utf8Decode_utf8Encode (string : String) : utf8Decode (utf8Encode string) = .ok string := by
  have hbytes : (utf8Encode string).toByteArray = string.toByteArray := String.utf8Encode_toList
  have htext : String.fromUTF8? string.toByteArray = some string := dif_pos string.isValidUTF8
  unfold utf8Decode
  rw [hbytes, htext]

/-- The text of characters of the alphabet and periods. -/
def asciiText (bytes : List UInt8) : String := String.ofList (bytes.map fun b => Char.ofNat b.toNat)

theorem utf8Encode_asciiText {bytes : List UInt8} (h : ∀ b ∈ bytes, b.toNat < 128) :
    utf8Encode (asciiText bytes) = bytes := by
  unfold utf8Encode asciiText
  rw [String.toList_ofList, List.flatMap_map]
  have hchar : ∀ b ∈ bytes, String.utf8EncodeChar (Char.ofNat b.toNat) = [b] := by
    intro b hb
    have hascii : ∀ n < 128, String.utf8EncodeChar (Char.ofNat n) = [UInt8.ofNat n] := by
      decide +kernel
    rw [hascii _ (h b hb), UInt8.ofNat_toNat]
  rw [List.flatMap_congr hchar, List.flatMap_singleton']

end Codecs

end MaxKey.OAuth2
