import MaxKey.BasicEntryPoint
import MaxKey.UrlSafeBase64

namespace MaxKey.AuthorizationHeaderUtils
open JavaException Effects OAuth2.Codecs Base64Utils Realm

/-- A default charset that takes each character by itself, and those of ASCII as themselves. What
stands for another character has no colon in it, and is not the one byte that is widened to it. -/
structure Charset where
  encodeChar : Char → List UInt8
  encodeChar_ne_nil : ∀ c, encodeChar c ≠ []
  encodeChar_ascii : ∀ c : Char, c.toNat < 128 → encodeChar c = [UInt8.ofNat c.toNat]
  colon_notMem : ∀ c : Char, 128 ≤ c.toNat → 58 ∉ encodeChar c
  not_widened : ∀ (c : Char) (b : UInt8), encodeChar c = [b] → 128 ≤ b → c.toNat ≠ 0xFF00 + b.toNat

def Charset.getBytes (charset : Charset) (text : String) : List UInt8 :=
  text.toList.flatMap charset.encodeChar

variable (charset : Charset) (b64 : Base64)

def createBasic (username password : String) : String :=
  BASIC ++ b64.encodeBase64 (charset.getBytes (username ++ ":" ++ password))

/-- What the two functions together make of a name and a password. -/
def resolveCreated (username password : String) : Except JavaException (Option (List String)) :=
  resolveBasic (fun cipher => .ok (b64.decodeBase64 cipher))
    (createBasic charset b64 username password)

/-! ### Splitting at a separator -/

section

variable {sep : Char} {u p s : String}

theorem intercalate_replicate (part : List Char) (k : ℕ) :
    [sep].intercalate (part :: List.replicate k []) = part ++ List.replicate k sep := by
  induction k generalizing part with
  | zero => simp
  | succ k ih => simp [List.replicate_succ, ih]

/-- A split leaves two parts of a text with nothing but separators behind them. -/
theorem split_pair (h : JavaText.split sep s = [u, p]) :
    sep ∉ p.toList ∧ p ≠ "" ∧
      ∃ k, s.toList = u.toList ++ sep :: (p.toList ++ List.replicate k sep) := by
  have hmem : sep ∈ s.toList := by
    by_contra hmem
    rw [JavaText.split, JavaText.splitChars, if_neg hmem] at h
    exact absurd (congrArg List.length h) (by simp)
  have hchars : (s.toList.splitOn sep).rdropWhile List.isEmpty = [u.toList, p.toList] := by
    rw [JavaText.split, JavaText.splitChars, if_pos hmem] at h
    have hparts := congrArg (List.map String.toList) h
    rw [List.map_map] at hparts
    have hid : String.toList ∘ String.ofList = id := funext fun l => String.toList_ofList
    rw [hid, List.map_id] at hparts
    exact hparts
  have hsplit : (s.toList.splitOn sep).rdropWhile List.isEmpty ++
      (s.toList.splitOn sep).rtakeWhile List.isEmpty = s.toList.splitOn sep :=
    List.rdropWhile_append_rtakeWhile
  rw [hchars] at hsplit
  have hdropped : (s.toList.splitOn sep).rtakeWhile List.isEmpty =
      List.replicate ((s.toList.splitOn sep).rtakeWhile List.isEmpty).length [] := by
    apply List.eq_replicate_of_mem
    intro part hpart
    exact List.isEmpty_iff.mp (List.mem_rtakeWhile_imp hpart)
  refine ⟨?_, ?_, ((s.toList.splitOn sep).rtakeWhile List.isEmpty).length, ?_⟩
  · intro hsep
    have hp : p.toList ∈ s.toList.splitOn sep := by
      rw [← hsplit]
      simp
    exact absurd (JavaText.forall_not_of_mem_splitOnP hp sep hsep) (by simp)
  · rintro rfl
    have hlast := List.rdropWhile_last_not List.isEmpty (s.toList.splitOn sep) (by simp [hchars])
    simp only [hchars] at hlast
    exact hlast rfl
  · have hjoin : [sep].intercalate (s.toList.splitOn sep) = s.toList := List.intercalate_splitOn sep
    rw [← hsplit, hdropped, List.cons_append, List.singleton_append, List.intercalate_cons_cons,
      intercalate_replicate, List.append_assoc, List.singleton_append] at hjoin
    exact hjoin.symm

/-- Two parts without separators, the second not empty, are split. -/
theorem split_of_notMem (hu : sep ∉ u.toList) (hp : sep ∉ p.toList) (hne : p ≠ "")
    (hs : s.toList = u.toList ++ sep :: p.toList) : JavaText.split sep s = [u, p] := by
  have hmem : sep ∈ s.toList := by simp [hs]
  have hparts : s.toList.splitOn sep = [u.toList, p.toList] := by
    rw [hs, List.splitOn_append_cons_self_of_not_mem hu, List.splitOn_eq_singleton hp]
  have hlast : ¬p.toList.isEmpty = true := by
    intro hempty
    exact hne (String.toList_injective (List.isEmpty_iff.mp hempty))
  rw [JavaText.split, JavaText.splitChars, if_pos hmem, hparts]
  simp [hlast]

end

/-! ### Bytes widened to characters -/

def widen (b : UInt8) : Char :=
  if b < 128 then Char.ofNat b.toNat else Char.ofNat (0xFF00 + b.toNat)

theorem toList_bytes2String (bytes : List UInt8) :
    (bytes2String bytes).toList = bytes.map widen := String.toList_ofList

theorem toNat_ofNat {n : ℕ} (h : n.isValidChar) : (Char.ofNat n).toNat = n := by
  rw [Char.ofNat, dif_pos h]
  rfl

theorem toNat_widen (b : UInt8) :
    (widen b).toNat = if b < 128 then b.toNat else 0xFF00 + b.toNat := by
  have hb := b.toNat_lt
  unfold widen
  split_ifs with h
  · exact toNat_ofNat (.inl (by omega))
  · exact toNat_ofNat (.inr (by omega))

theorem widen_ofNat {c : Char} (hc : c.toNat < 128) : widen (UInt8.ofNat c.toNat) = c := by
  apply Char.toNat_inj.mp
  have hbyte : (UInt8.ofNat c.toNat).toNat = c.toNat := by
    rw [UInt8.toNat_ofNat']
    omega
  have hlt : UInt8.ofNat c.toNat < 128 := by
    rw [UInt8.lt_iff_toNat_lt, hbyte]
    exact hc
  rw [toNat_widen, if_pos hlt, hbyte]

theorem widen_eq_colon {b : UInt8} (h : widen b = ':') : b = 58 := by
  have hnat := congrArg Char.toNat h
  rw [toNat_widen] at hnat
  have hcolon : ':'.toNat = 58 := rfl
  split_ifs at hnat with hlt
  · apply UInt8.toNat_inj.mp
    rw [hnat]
    rfl
  · omega

section

variable {charset}

theorem map_widen_ascii {c : Char} (hc : c.toNat < 128) :
    (charset.encodeChar c).map widen = [c] := by
  rw [charset.encodeChar_ascii c hc, List.map_singleton, widen_ofNat hc]

/-- No other character is what its bytes are widened to. -/
theorem map_widen_ne {c : Char} (hc : 128 ≤ c.toNat) : (charset.encodeChar c).map widen ≠ [c] := by
  intro h
  obtain ⟨b, hb, hwiden⟩ := List.map_eq_singleton_iff.mp h
  have hnat := congrArg Char.toNat hwiden
  rw [toNat_widen] at hnat
  split_ifs at hnat with hlt
  · have hsmall := UInt8.lt_iff_toNat_lt.mp hlt
    have hbound : (128 : UInt8).toNat = 128 := rfl
    omega
  · exact charset.not_widened c b hb (UInt8.not_lt.mp hlt) hnat.symm

theorem length_le_length_flatMap (text : List Char) :
    text.length ≤ (text.flatMap charset.encodeChar).length := by
  induction text with
  | nil => exact Nat.zero_le _
  | cons c text ih =>
    have hbytes := List.length_pos_of_ne_nil (charset.encodeChar_ne_nil c)
    rw [List.flatMap_cons, List.length_append, List.length_cons]
    omega

/-- A text comes back from its bytes only in ASCII. -/
theorem map_widen_flatMap_iff {text : List Char} :
    (text.flatMap charset.encodeChar).map widen = text ↔ ∀ c ∈ text, c.toNat < 128 := by
  induction text with
  | nil => simp
  | cons c text ih =>
    rw [List.flatMap_cons, List.map_append, List.forall_mem_cons, ← ih]
    rcases Nat.lt_or_ge c.toNat 128 with hc | hc
    · rw [map_widen_ascii hc, List.singleton_append, List.cons_inj_right]
      exact (and_iff_right hc).symm
    · refine iff_of_false ?_ fun h => absurd h.1 (Nat.not_lt.mpr hc)
      intro h
      -- No character is lost, so each one before the end has a single byte.
      have hlength := congrArg List.length h
      have hrest := @length_le_length_flatMap charset text
      have hbytes := List.length_pos_of_ne_nil (charset.encodeChar_ne_nil c)
      simp only [List.length_append, List.length_map, List.length_cons] at hlength
      have hone : ((charset.encodeChar c).map widen).length = [c].length := by
        rw [List.length_map, List.length_singleton]
        omega
      exact map_widen_ne hc (List.append_inj_left h hone)

/-- The bytes have as many colons as the text. -/
theorem count_colon (text : List Char) :
    ((text.flatMap charset.encodeChar).map widen).count ':' = text.count ':' := by
  induction text with
  | nil => rfl
  | cons c text ih =>
    rw [List.flatMap_cons, List.map_append, List.count_append, ih]
    rcases Nat.lt_or_ge c.toNat 128 with hc | hc
    · rw [map_widen_ascii hc, ← List.count_append, List.singleton_append]
    · have hne : c ≠ ':' := by
        rintro rfl
        exact absurd hc (by decide)
      have hnone : ':' ∉ (charset.encodeChar c).map widen := by
        intro hmem
        obtain ⟨b, hb, hwiden⟩ := List.mem_map.mp hmem
        rw [widen_eq_colon hwiden] at hb
        exact charset.colon_notMem c hc hb
      rw [List.count_eq_zero_of_not_mem hnone, List.count_cons_of_ne hne, Nat.zero_add]

end

/-! ### The header that is created -/

section

variable {charset} {b64} {u p : String}

/-- An encoded text has no blank in it. -/
theorem blank_notMem_encodeBase64 (bytes : List UInt8) :
    ' ' ∉ (b64.encodeBase64 bytes).toList := by
  obtain ⟨core, pad, hencode, hcore, -⟩ := b64.encodeBase64_eq bytes
  rw [hencode, String.toList_ofList, List.mem_append]
  rintro (hmem | hmem)
  · exact absurd (hcore ' ' hmem) (by decide)
  · exact absurd (List.eq_of_mem_replicate hmem) (by decide)

/-- The blank leaves the encoded text as the second part of the header. -/
theorem decodeUserPass_createBasic
    (hstandard : ∀ bytes, b64.encodeBase64 bytes = StandardBase64.encode bytes) :
    decodeUserPass (fun cipher => .ok (b64.decodeBase64 cipher)) (createBasic charset b64 u p) =
      .ok (bytes2String (charset.getBytes (u ++ ":" ++ p))) := by
  let bytes := charset.getBytes (u ++ ":" ++ p)
  have hbytes : bytes ≠ [] := by
    have hlength := @length_le_length_flatMap charset (u ++ ":" ++ p).toList
    have htext : (u ++ ":" ++ p).toList.length = u.toList.length + (p.toList.length + 1) := by
      simp [String.toList_append]
    apply List.ne_nil_of_length_pos
    show 0 < ((u ++ ":" ++ p).toList.flatMap charset.encodeChar).length
    omega
  have hencode : b64.encodeBase64 bytes ≠ "" := by
    rw [hstandard, StandardBase64.encode]
    intro hempty
    have hchars := congrArg String.toList hempty
    rw [String.toList_ofList] at hchars
    have hsextets := List.map_eq_nil_iff.mp (List.append_eq_nil_iff.mp hchars).1
    exact hbytes (StandardBase64.sextets_eq_nil.mp hsextets)
  have hsplit : JavaText.split ' ' (createBasic charset b64 u p) =
      ["Basic", b64.encodeBase64 bytes] := by
    apply split_of_notMem (by decide) (blank_notMem_encodeBase64 bytes) hencode
    rw [createBasic, String.toList_append]
    rfl
  have hpart : partAt ["Basic", b64.encodeBase64 bytes] 1 = .ok (b64.encodeBase64 bytes) := rfl
  rw [decodeUserPass, hsplit, hpart]
  show (Except.ok (bytes2String (b64.decodeBase64 (b64.encodeBase64 bytes))) : Except _ _) = _
  rw [b64.decodeBase64_encodeBase64]

theorem isBasic_createBasic : isBasic (createBasic charset b64 u p) = true := by
  rw [isBasic, JavaText.startsWith, createBasic, String.toList_append]
  exact List.isPrefixOf_iff_prefix.mpr (List.prefix_append _ _)

theorem resolveCreated_eq
    (hstandard : ∀ bytes, b64.encodeBase64 bytes = StandardBase64.encode bytes) :
    resolveCreated charset b64 u p = .ok (some (JavaText.split ':'
      (bytes2String (charset.getBytes (u ++ ":" ++ p))))) := by
  rw [resolveCreated, resolveBasic, if_pos isBasic_createBasic,
    decodeUserPass_createBasic hstandard]
  rfl

/-- A user name and a password come back from a Basic header only where the password is not empty,
holds no colon, and both are ASCII. -/
theorem resolveCreated_iff (charset : Charset) (b64 : Base64)
    (hstandard : ∀ bytes, b64.encodeBase64 bytes = StandardBase64.encode bytes) (u p : String)
    (hu : ':' ∉ u.toList) :
    resolveCreated charset b64 u p = .ok (some [u, p]) ↔
      p ≠ "" ∧ ':' ∉ p.toList ∧ (∀ c ∈ u.toList, c.toNat < 128) ∧ ∀ c ∈ p.toList, c.toNat < 128 := by
  have htext : (u ++ ":" ++ p).toList = u.toList ++ ':' :: p.toList := by
    simp [String.toList_append]
  have hdecoded : (bytes2String (charset.getBytes (u ++ ":" ++ p))).toList =
      ((u.toList ++ ':' :: p.toList).flatMap charset.encodeChar).map widen := by
    rw [toList_bytes2String, Charset.getBytes, htext]
  have hascii : (∀ c ∈ u.toList ++ ':' :: p.toList, c.toNat < 128) ↔
      (∀ c ∈ u.toList, c.toNat < 128) ∧ ∀ c ∈ p.toList, c.toNat < 128 := by
    rw [List.forall_mem_append, List.forall_mem_cons]
    exact and_congr_right fun _ => and_iff_right (by decide)
  rw [resolveCreated_eq hstandard, Except.ok.injEq, Option.some.injEq, ← hascii]
  constructor
  · intro h
    obtain ⟨hp, hne, k, hchars⟩ := split_pair h
    refine ⟨hne, hp, ?_⟩
    -- The bytes have the one colon between name and password, so no separator was dropped.
    have hcount := @count_colon charset (u.toList ++ ':' :: p.toList)
    rw [← hdecoded, hchars] at hcount
    have hk : k = 0 := by
      simpa [List.count_append, List.count_eq_zero_of_not_mem hp] using hcount
    rw [hdecoded, hk, List.replicate_zero, List.append_nil] at hchars
    exact map_widen_flatMap_iff.mp hchars
  · rintro ⟨hne, hp, hall⟩
    apply split_of_notMem hu hp hne
    rw [hdecoded]
    exact map_widen_flatMap_iff.mpr hall

end

/-! ### UTF-8 as the default charset -/

theorem utf8EncodeChar_ascii {c : Char} (hc : c.toNat < 128) :
    String.utf8EncodeChar c = [UInt8.ofNat c.toNat] := by
  have hsize : c.utf8Size = 1 := by
    rw [Char.utf8Size_eq_one_iff, UInt32.le_iff_toNat_le]
    exact Nat.le_of_lt_succ hc
  rw [String.utf8EncodeChar_eq_singleton hsize]
  rfl

theorem le_or {b x m : UInt8} (h : b ≤ m) : b ≤ x ||| m := by
  rw [UInt8.le_iff_toNat_le] at h ⊢
  rw [UInt8.toNat_or]
  exact h.trans Nat.right_le_or

/-- The bytes of the other characters all have their first bit set, and there are at least two. -/
theorem utf8EncodeChar_of_ge {c : Char} (hc : 128 ≤ c.toNat) :
    2 ≤ (String.utf8EncodeChar c).length ∧ ∀ b ∈ String.utf8EncodeChar c, 128 ≤ b := by
  have hone : c.utf8Size ≠ 1 := by
    intro hsize
    rw [Char.utf8Size_eq_one_iff, UInt32.le_iff_toNat_le] at hsize
    exact absurd hc (Nat.not_le.mpr (Nat.lt_succ_of_le hsize))
  have hmarks : (128 : UInt8) ≤ 0x80 ∧ (128 : UInt8) ≤ 0xc0 ∧ (128 : UInt8) ≤ 0xe0 ∧
      (128 : UInt8) ≤ 0xf0 := by decide
  obtain ⟨h80, hc0, he0, hf0⟩ := hmarks
  rcases Char.utf8Size_eq c with h | h | h | h
  · exact absurd h hone
  · rw [String.utf8EncodeChar_eq_cons_cons h]
    simp [le_or h80, le_or hc0]
  · rw [String.utf8EncodeChar_eq_cons_cons_cons h]
    simp [le_or h80, le_or he0]
  · rw [String.utf8EncodeChar_eq_cons_cons_cons_cons h]
    simp [le_or h80, le_or hf0]

def Charset.utf8 : Charset where
  encodeChar := String.utf8EncodeChar
  encodeChar_ne_nil c h := by
    have hlength := congrArg List.length h
    rw [String.length_utf8EncodeChar] at hlength
    exact absurd hlength (Char.utf8Size_pos c).ne'
  encodeChar_ascii c hc := utf8EncodeChar_ascii hc
  colon_notMem c hc h := absurd ((utf8EncodeChar_of_ge hc).2 58 h) (by decide)
  not_widened c b hb hlarge h := by
    have hc : 128 ≤ c.toNat := by omega
    have htwo := (utf8EncodeChar_of_ge hc).1
    rw [hb, List.length_singleton] at htwo
    omega

open UrlSafeBase64 in
theorem resolveCreated_iff_admin :
    resolveCreated .utf8 .codec "admin" "maxkey" = .ok (some ["admin", "maxkey"]) ↔
      "maxkey" ≠ "" ∧ ':' ∉ "maxkey".toList ∧ (∀ c ∈ "admin".toList, c.toNat < 128) ∧
        ∀ c ∈ "maxkey".toList, c.toNat < 128 :=
  resolveCreated_iff .utf8 .codec encodeBase64_codec "admin" "maxkey" (by decide)

/-- A password with a colon comes back in two parts, an empty one not at all, and the two bytes of
an accented letter as characters of their own. -/
theorem resolveCreated_parts : ':' ∉ "admin".toList ∧
    resolveCreated .utf8 .codec "admin" "a:b" = .ok (some ["admin", "a", "b"]) ∧
    resolveCreated .utf8 .codec "admin" "" = .ok (some ["admin"]) ∧
    resolveCreated .utf8 .codec "admin" "é" = .ok (some ["admin", "\uffc3\uffa9"]) := by
  rw [resolveCreated_eq UrlSafeBase64.encodeBase64_codec,
    resolveCreated_eq UrlSafeBase64.encodeBase64_codec,
    resolveCreated_eq UrlSafeBase64.encodeBase64_codec]
  exact ⟨by decide, by decide +kernel⟩

end MaxKey.AuthorizationHeaderUtils
