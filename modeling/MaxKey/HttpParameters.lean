import MaxKey.BasicHeaders
import MaxKey.Delimited
import MaxKey.HexCodec
import MaxKey.PercentEncoding
import Mathlib.Data.Bool.AllAny
import Mathlib.Data.List.Sort
import Mathlib.Data.Prod.Lex

namespace MaxKey.Client
open PercentEncoding

/-! ### Encoding -/

namespace URLEncoder

def dontNeedEncoding (c : Char) : Bool := c.isAlphanum || c ∈ ['-', '_', '.', '*']

/-- What one character is written as. -/
def pieces (c : Char) : List (List Char) :=
  if c = ' ' then [['+']]
  else if dontNeedEncoding c then [[c]]
  else (String.utf8EncodeChar c).map escape

def encode (s : String) : String := String.ofList (s.toList.flatMap pieces).flatten

end URLEncoder

namespace URLDecoder
open OAuth2

def digit (c : Char) : Option ℕ :=
  if c.toNat < 0x10000 ∧ 0 ≤ Character.digit (UInt16.ofNat c.toNat) then
    some (Character.digit (UInt16.ofNat c.toNat)).toNat
  else none

/-- Integer.parseInt of the two characters to base 16, where a negative value is refused. -/
def parseByte (high low : Char) : Option UInt8 :=
  if high = '+' then (digit low).map UInt8.ofNat
  else if high = '-' then (digit low).bind fun n => if n = 0 then some 0 else none
  else (digit high).bind fun m => (digit low).map fun n => UInt8.ofNat (16 * m + n)

def plusToSpace (c : Char) : Char := if c = '+' then ' ' else c

/-- There is no text where an escape is incomplete or no number. -/
def decode (s : String) : Option String :=
  (PercentEncoding.decode parseByte plusToSpace s.toList).map String.ofList

example : decode "a+b%C3%A9%+5" = some "a bé\u0005" ∧ decode "%zz" = none ∧ decode "a%4" = none := by
  decide +kernel

end URLDecoder

namespace HttpEncoder

/-- The pattern is taken literally. The rest of an occurrence is skipped. -/
def replaceFrom (toReplace replacement : List Char) : ℕ → List Char → List Char
  | _, [] => []
  | skip + 1, _ :: s => replaceFrom toReplace replacement skip s
  | 0, c :: s =>
    if toReplace.isPrefixOf (c :: s) then
      replacement ++ replaceFrom toReplace replacement (toReplace.length - 1) s
    else c :: replaceFrom toReplace replacement 0 s

def applyRule (encoded toReplace replacement : String) : String :=
  String.ofList (replaceFrom toReplace.toList replacement.toList 0 encoded.toList)

/-- In the order in which the hash map holds them. -/
def ENCODING_RULES : List (String × String) := [("%7E", "~"), ("*", "%2A"), ("+", "%20")]

def encode (plain : String) : String :=
  ENCODING_RULES.foldl (fun encoded rule => applyRule encoded rule.1 rule.2)
    (URLEncoder.encode plain)

def decode (encoded : String) : Option String := URLDecoder.decode encoded

/-- The characters that are written as they are. -/
def unreserved (c : Char) : Bool := c.isAlphanum || c ∈ ['-', '.', '_', '~']

/-! A text that is put together from plain characters and escapes. -/

def IsPiece (piece : List Char) : Prop := (∃ c, piece = [c] ∧ c ≠ '%') ∨ ∃ b, piece = escape b

section Rules

variable {toReplace replacement : List Char}

theorem replaceFrom_skip (skipped s : List Char) :
    replaceFrom toReplace replacement skipped.length (skipped ++ s) =
      replaceFrom toReplace replacement 0 s := by
  induction skipped with
  | nil => rfl
  | cons c skipped ih => exact ih

theorem replaceFrom_of_other {c : Char} {s : List Char} (h : ¬toReplace <+: c :: s) :
    replaceFrom toReplace replacement 0 (c :: s) = c :: replaceFrom toReplace replacement 0 s := by
  rw [replaceFrom, if_neg]
  rwa [List.isPrefixOf_iff_prefix]

theorem replaceFrom_append (hne : toReplace ≠ []) (s : List Char) :
    replaceFrom toReplace replacement 0 (toReplace ++ s) =
      replacement ++ replaceFrom toReplace replacement 0 s := by
  cases hcons : toReplace with
  | nil => exact absurd hcons hne
  | cons c rest =>
    have hprefix : (c :: rest).isPrefixOf (c :: (rest ++ s)) = true :=
      List.isPrefixOf_iff_prefix.mpr ⟨s, rfl⟩
    rw [List.cons_append, replaceFrom, if_pos hprefix, List.length_cons, Nat.add_sub_cancel,
      replaceFrom_skip]

/-- A pattern that is a piece itself can only be met where a piece starts. -/
theorem replaceFrom_piece (hpattern : IsPiece toReplace)
    (hfirst : ∀ c ∈ toReplace.head?, ¬IsHexDigit c) {piece : List Char} (hpiece : IsPiece piece)
    (s : List Char) :
    replaceFrom toReplace replacement 0 (piece ++ s) =
      (if piece = toReplace then replacement else piece) ++
        replaceFrom toReplace replacement 0 s := by
  by_cases heq : piece = toReplace
  · have hne : toReplace ≠ [] := by
      rcases hpattern with ⟨c, rfl, -⟩ | ⟨b, rfl⟩ <;> exact List.cons_ne_nil _ _
    rw [if_pos heq, heq, replaceFrom_append hne]
  · rw [if_neg heq]
    -- no character of another piece starts an occurrence
    have hdigit : ∀ c t, IsHexDigit c → ¬toReplace <+: c :: t := by
      intro c t hc hprefix
      rcases hpattern with ⟨d, rfl, -⟩ | ⟨b, rfl⟩
      · exact hfirst d rfl ((List.cons_prefix_cons.mp hprefix).1 ▸ hc)
      · have h := (List.cons_prefix_cons.mp hprefix).1
        rw [← h] at hc
        exact absurd hc (by decide)
    rcases hpiece with ⟨c, rfl, hc⟩ | ⟨b, rfl⟩
    · have hother : ¬toReplace <+: c :: s := by
        intro hprefix
        rcases hpattern with ⟨d, rfl, -⟩ | ⟨b, rfl⟩
        · exact heq (congrArg (fun x => [x]) (List.cons_prefix_cons.mp hprefix).1.symm)
        · exact hc (List.cons_prefix_cons.mp hprefix).1.symm
      exact replaceFrom_of_other hother
    · have hother : ¬toReplace <+: escape b ++ s := by
        intro hprefix
        rcases hpattern with ⟨d, rfl, hd⟩ | ⟨a, rfl⟩
        · exact hd (List.cons_prefix_cons.mp hprefix).1
        · have hsame := List.prefix_of_prefix_length_le hprefix (List.prefix_append _ s) le_rfl
          exact heq (hsame.eq_of_length rfl).symm
      -- after the sign come two digits, and no pattern starts with a digit
      have hhigh := isHexDigit_hexDigit (Nat.div_lt_of_lt_mul b.toNat_lt : b.toNat / 16 < 16)
      have hlow := isHexDigit_hexDigit (Nat.mod_lt b.toNat (by decide : 0 < 16))
      unfold escape at hother ⊢
      simp only [List.cons_append, List.nil_append] at hother ⊢
      rw [replaceFrom_of_other hother, replaceFrom_of_other (hdigit _ _ hhigh),
        replaceFrom_of_other (hdigit _ _ hlow)]

theorem replaceFrom_flatten (hpattern : IsPiece toReplace)
    (hfirst : ∀ c ∈ toReplace.head?, ¬IsHexDigit c) {pieces : List (List Char)}
    (hpieces : ∀ piece ∈ pieces, IsPiece piece) :
    replaceFrom toReplace replacement 0 pieces.flatten =
      (pieces.map fun piece => if piece = toReplace then replacement else piece).flatten := by
  induction pieces with
  | nil => rfl
  | cons piece pieces ih =>
    rw [List.flatten_cons, List.map_cons, List.flatten_cons,
      replaceFrom_piece hpattern hfirst (hpieces piece List.mem_cons_self),
      ih fun other hother => hpieces other (List.mem_cons_of_mem _ hother)]

end Rules

/-- One rule after the other, on the pieces. -/
def ruled (piece : List Char) : List Char :=
  ENCODING_RULES.foldl (fun piece rule =>
    if piece = rule.1.toList then rule.2.toList else piece) piece

theorem applyRule_flatten {rule : String × String} (hrule : rule ∈ ENCODING_RULES)
    {pieces : List (List Char)} (hpieces : ∀ piece ∈ pieces, IsPiece piece) :
    let written := pieces.map fun piece => if piece = rule.1.toList then rule.2.toList else piece
    applyRule (String.ofList pieces.flatten) rule.1 rule.2 = String.ofList written.flatten ∧
      ∀ piece ∈ written, IsPiece piece := by
  intro written
  have hrules : ∀ rule ∈ ENCODING_RULES,
      (rule.1.toList = escape 0x7E ∨ rule.1.toList = ['*'] ∨ rule.1.toList = ['+']) ∧
      (rule.2.toList = ['~'] ∨ rule.2.toList = escape 0x2A ∨ rule.2.toList = escape 0x20) := by
    decide
  obtain ⟨hpattern, hreplacement⟩ := hrules rule hrule
  have hfirst : ∀ c ∈ rule.1.toList.head?, ¬IsHexDigit c := by
    rcases hpattern with h | h | h <;> rw [h] <;> rintro c ⟨⟩ <;> decide
  have hpatternPiece : IsPiece rule.1.toList := by
    rcases hpattern with h | h | h <;> rw [h]
    · exact .inr ⟨_, rfl⟩
    · exact .inl ⟨_, rfl, by decide⟩
    · exact .inl ⟨_, rfl, by decide⟩
  have hreplacementPiece : IsPiece rule.2.toList := by
    rcases hreplacement with h | h | h <;> rw [h]
    · exact .inl ⟨_, rfl, by decide⟩
    · exact .inr ⟨_, rfl⟩
    · exact .inr ⟨_, rfl⟩
  constructor
  · unfold applyRule
    rw [String.toList_ofList, replaceFrom_flatten hpatternPiece hfirst hpieces]
  · intro piece hpiece
    obtain ⟨before, hbefore, rfl⟩ := List.mem_map.mp hpiece
    split_ifs
    · exact hreplacementPiece
    · exact hpieces before hbefore

theorem foldl_applyRule {rules : List (String × String)} (hrules : ∀ rule ∈ rules,
    rule ∈ ENCODING_RULES) {pieces : List (List Char)} (hpieces : ∀ piece ∈ pieces, IsPiece piece) :
    rules.foldl (fun encoded rule => applyRule encoded rule.1 rule.2)
        (String.ofList pieces.flatten) =
      String.ofList (pieces.map fun piece => rules.foldl (fun piece rule =>
        if piece = rule.1.toList then rule.2.toList else piece) piece).flatten := by
  induction rules generalizing pieces with
  | nil =>
    simp only [List.foldl_nil, List.map_id']
  | cons rule rules ih =>
    obtain ⟨happly, hwritten⟩ := applyRule_flatten (hrules rule List.mem_cons_self) hpieces
    rw [List.foldl_cons, happly, ih (fun r hr => hrules r (List.mem_cons_of_mem _ hr)) hwritten,
      List.map_map]
    rfl

theorem isPiece_of_mem_pieces {c : Char} : ∀ piece ∈ URLEncoder.pieces c, IsPiece piece := by
  intro piece hpiece
  unfold URLEncoder.pieces at hpiece
  split_ifs at hpiece with hspace hsafe
  · rw [List.mem_singleton.mp hpiece]
    exact .inl ⟨_, rfl, by decide⟩
  · rw [List.mem_singleton.mp hpiece]
    refine .inl ⟨c, rfl, ?_⟩
    rintro rfl
    exact absurd hsafe (by decide)
  · obtain ⟨b, -, rfl⟩ := List.mem_map.mp hpiece
    exact .inr ⟨b, rfl⟩

/-- The byte of the tilde occurs in no other character. -/
theorem eq_of_mem_utf8EncodeChar {c : Char} (h : 0x7E ∈ String.utf8EncodeChar c) : c = '~' := by
  by_cases hc : c.toNat < 128
  · rw [AuthorizationHeaderUtils.utf8EncodeChar_ascii hc, List.mem_singleton] at h
    have hnat := congrArg UInt8.toNat h
    rw [UInt8.toNat_ofNat_of_lt' (Nat.lt_trans hc (by decide))] at hnat
    exact Char.toNat_inj.mp hnat.symm
  · have hge := (AuthorizationHeaderUtils.utf8EncodeChar_of_ge (Nat.le_of_not_lt hc)).2 _ h
    exact absurd hge (by decide)

theorem ruled_escape {b : UInt8} (hb : b ≠ 0x7E) : ruled (escape b) = escape b := by
  have hall : ∀ n < 256, UInt8.ofNat n ≠ 0x7E → ruled (escape (UInt8.ofNat n)) =
      escape (UInt8.ofNat n) := by decide +kernel
  have h := hall b.toNat b.toNat_lt
  rw [UInt8.ofNat_toNat] at h
  exact h hb

/-- What the rules make of one character. -/
theorem ruled_pieces (c : Char) :
    ((URLEncoder.pieces c).map ruled).flatten = encodeChar unreserved c := by
  unfold URLEncoder.pieces encodeChar
  by_cases hspace : c = ' '
  · rw [hspace]
    decide
  rw [if_neg hspace]
  by_cases hsafe : URLEncoder.dontNeedEncoding c
  · rw [if_pos hsafe]
    by_cases hstar : c = '*'
    · rw [hstar]
      decide
    · -- the other safe characters are left alone by all rules
      have hplus : c ≠ '+' := by
        rintro rfl
        exact absurd hsafe (by decide)
      have hplain : unreserved c := by
        simp only [URLEncoder.dontNeedEncoding, unreserved, Bool.or_eq_true, decide_eq_true_eq,
          List.mem_cons, List.not_mem_nil] at hsafe ⊢
        grind
      rw [if_pos hplain]
      simp [ruled, ENCODING_RULES, hstar, hplus]
  · rw [if_neg hsafe]
    by_cases htilde : c = '~'
    · rw [htilde]
      decide
    · -- the one escape that a rule knows is that of the tilde
      have hbytes : ∀ b ∈ String.utf8EncodeChar c, (ruled ∘ escape) b = escape b := by
        intro b hb
        apply ruled_escape
        rintro rfl
        exact htilde (eq_of_mem_utf8EncodeChar hb)
      have hplain : ¬unreserved c := by
        simp only [URLEncoder.dontNeedEncoding, unreserved, Bool.or_eq_true, decide_eq_true_eq,
          List.mem_cons, List.not_mem_nil] at hsafe ⊢
        grind
      rw [if_neg hplain, List.map_map, List.map_congr_left hbytes, List.flatMap_def]

/-- The rules turn the form encoding into the escapes of RFC 3986. -/
theorem toList_encode (plain : String) :
    (encode plain).toList = PercentEncoding.encode unreserved plain.toList := by
  have hpieces : ∀ piece ∈ plain.toList.flatMap URLEncoder.pieces, IsPiece piece := by
    intro piece hpiece
    obtain ⟨c, -, hc⟩ := List.mem_flatMap.mp hpiece
    exact isPiece_of_mem_pieces piece hc
  unfold encode URLEncoder.encode
  rw [foldl_applyRule (fun _ h => h) hpieces, String.toList_ofList]
  change ((plain.toList.flatMap URLEncoder.pieces).map ruled).flatten = _
  rw [List.map_flatMap, ← List.flatMap_id, List.flatMap_assoc]
  apply List.flatMap_congr
  intro c _
  rw [List.flatMap_id]
  exact ruled_pieces c

theorem isHexDigit_plain {c : Char} (h : IsHexDigit c) : unreserved c := by
  unfold unreserved
  rcases h with h | h
  · rw [Char.isAlphanum, h, Bool.or_true, Bool.true_or]
  · have hall : ∀ c ∈ ['A', 'B', 'C', 'D', 'E', 'F'], c.isAlphanum :=
      List.all_iff_forall_prop.mp (by decide)
    rw [hall c h, Bool.true_or]

theorem mem_encode {plain : String} {c : Char} (h : c ∈ (encode plain).toList) :
    unreserved c ∨ c = '%' := by
  rw [toList_encode] at h
  rcases PercentEncoding.mem_encode h with h | h | h
  · exact .inl h
  · exact .inr h
  · exact .inl (isHexDigit_plain h)

theorem notMem_encode {c : Char} (h : c ≠ '%' ∧ unreserved c = false) (plain : String) :
    c ∉ (encode plain).toList := by
  intro hc
  rcases mem_encode hc with hplain | hsign
  · rw [h.2] at hplain
    cases hplain
  · exact h.1 hsign

theorem parseByte_escape (b : UInt8) :
    URLDecoder.parseByte (hexDigit (b.toNat / 16)) (hexDigit (b.toNat % 16)) = some b := by
  have hall : ∀ n < 256, URLDecoder.parseByte (hexDigit (n / 16)) (hexDigit (n % 16)) =
      some (UInt8.ofNat n) := by decide +kernel
  rw [hall b.toNat b.toNat_lt, UInt8.ofNat_toNat]

/-- Every text is read back. -/
theorem decode_encode (plain : String) : decode (encode plain) = some plain := by
  have hplain : ∀ c, unreserved c → URLDecoder.plusToSpace c = c := by
    intro c hc
    unfold URLDecoder.plusToSpace
    rw [if_neg]
    rintro rfl
    exact absurd hc (by decide)
  unfold decode URLDecoder.decode
  rw [toList_encode, PercentEncoding.decode_encode hplain (by decide) parseByte_escape,
    Option.map_some, String.ofList_toList]

theorem encode_injective : Function.Injective encode := by
  intro s t h
  have hdecoded := congrArg decode h
  rw [decode_encode, decode_encode] at hdecoded
  exact Option.some.inj hdecoded

theorem toList_encode_eq_nil {plain : String} : (encode plain).toList = [] ↔ plain = "" := by
  have hempty : (encode "").toList = [] := by decide
  constructor
  · intro h
    exact encode_injective (String.toList_injective (h.trans hempty.symm))
  · rintro rfl
    exact hempty

end HttpEncoder

/-! ### Parameters and their order -/

structure Parameter where
  key : String
  value : String
  deriving DecidableEq

namespace Parameter

def asUrlEncodedPair (p : Parameter) : String :=
  HttpEncoder.encode p.key ++ "=" ++ HttpEncoder.encode p.value

/-- compareTo is not positive. -/
def le (p q : Parameter) : Prop :=
  if p.key = q.key then JavaText.textLe p.value q.value else JavaText.textLe p.key q.key

instance : DecidableRel le := fun _ _ => inferInstanceAs (Decidable (ite _ _ _))

end Parameter

section Utf16

/-- The code units of one character. -/
def codeUnits (c : Char) : List ℕ :=
  if c.toNat < 0x10000 then [c.toNat]
  else [0xD800 + (c.toNat - 0x10000) / 0x400, 0xDC00 + (c.toNat - 0x10000) % 0x400]

/-- No code unit of a character starts another one. -/
theorem codeUnits_append_inj {c d : Char} {x y : List ℕ}
    (h : codeUnits c ++ x = codeUnits d ++ y) : c = d ∧ x = y := by
  have hvalid : ∀ c : Char, c.toNat < 0xD800 ∨ 0xDFFF < c.toNat := fun c =>
    c.valid.imp id fun h => h.1
  have hmax : ∀ c : Char, c.toNat < 0x110000 := fun c => by
    have := c.valid
    unfold UInt32.isValidChar Nat.isValidChar at this
    change c.val.toNat < 0x110000
    omega
  unfold codeUnits at h
  split_ifs at h with hc hd hd
  · exact ⟨Char.toNat_inj.mp (List.cons.inj h).1, (List.cons.inj h).2⟩
  · have hhead := (List.cons.inj h).1
    have := hvalid c
    have := hmax d
    omega
  · have hhead := (List.cons.inj h).1
    have := hvalid d
    have := hmax c
    omega
  · obtain ⟨hhigh, htail⟩ := List.cons.inj h
    obtain ⟨hlow, hrest⟩ := List.cons.inj htail
    refine ⟨Char.toNat_inj.mp ?_, hrest⟩
    omega

theorem utf16_injective : Function.Injective JavaText.utf16 := by
  have hchars : ∀ s t : List Char, s.flatMap codeUnits = t.flatMap codeUnits → s = t := by
    have hne : ∀ c x, codeUnits c ++ x ≠ [] := by
      intro c x
      unfold codeUnits
      split_ifs <;> exact List.cons_ne_nil _ _
    intro s
    induction s with
    | nil =>
      intro t h
      cases t with
      | nil => rfl
      | cons d t => exact absurd h.symm (hne d _)
    | cons c s ih =>
      intro t h
      cases t with
      | nil => exact absurd h (hne c _)
      | cons d t =>
        rw [List.flatMap_cons, List.flatMap_cons] at h
        obtain ⟨rfl, hrest⟩ := codeUnits_append_inj h
        rw [ih t hrest]
  intro s t h
  exact String.toList_injective (hchars _ _ h)

end Utf16

namespace Parameter

def units (p : Parameter) : List ℕ ×ₗ List ℕ := toLex (JavaText.utf16 p.key, JavaText.utf16 p.value)

theorem units_injective : Function.Injective units := by
  intro p q h
  have hpair := congrArg ofLex h
  obtain ⟨hkey, hvalue⟩ := Prod.mk.inj hpair
  obtain ⟨k, v⟩ := p
  obtain rfl := utf16_injective hkey
  obtain rfl := utf16_injective hvalue
  rfl

/-- The order is lexicographic in key and value. -/
theorem le_iff {p q : Parameter} : p.le q ↔ p.units ≤ q.units := by
  unfold le units
  rw [Prod.Lex.toLex_le_toLex]
  split_ifs with hkey
  · have hsame : JavaText.utf16 p.key = JavaText.utf16 q.key := congrArg _ hkey
    simp only [hsame, lt_irrefl, false_or, true_and]
    rfl
  · have hne : JavaText.utf16 p.key ≠ JavaText.utf16 q.key := fun h => hkey (utf16_injective h)
    simp only [hne, false_and, or_false]
    exact le_iff_lt_or_eq.trans (or_iff_left hne)

instance : Std.Total le where
  total p q := by
    rw [le_iff, le_iff]
    exact le_total _ _

instance : IsTrans Parameter le where
  trans p q r := by
    rw [le_iff, le_iff, le_iff]
    exact le_trans

instance : Std.Antisymm le where
  antisymm p q := by
    rw [le_iff, le_iff]
    exact fun hpq hqp => units_injective (le_antisymm hpq hqp)

end Parameter

/-! ### Lists of parameters -/

namespace ParameterList
open Parameter

def asFormUrlEncodedString (params : List Parameter) : String :=
  if params = [] then ""
  else
    let builder := params.foldl (fun builder p => builder ++ "&" ++ p.asUrlEncodedPair) ""
    String.ofList (builder.toList.drop 1)

def asOauthBaseString (params : List Parameter) : String :=
  HttpEncoder.encode (asFormUrlEncodedString params)

def appendTo (params : List Parameter) (url : String) : String :=
  let queryString := asFormUrlEncodedString params
  if queryString = "" then url
  else url ++ (if '?' ∈ url.toList then "&" else "?") ++ queryString

def sort (params : List Parameter) : List Parameter := params.insertionSort le

/-- A part that is a lone sign has no key, and one that cannot be decoded is left out as well. -/
def parsePair (param : String) : Option Parameter := do
  let pair := JavaText.split '=' param
  let key ← pair[0]?.bind HttpEncoder.decode
  let value ← pair[1]?.elim (some "") HttpEncoder.decode
  return ⟨key, value⟩

def queryParts (queryString : Option String) : List String :=
  if queryString.getD "" = "" then [] else JavaText.split '&' (queryString.getD "")

/-- addQuerystring to an empty list. -/
def ofQuerystring (queryString : Option String) : List Parameter :=
  (queryParts queryString).filterMap parsePair

/-! The text of the parameters. -/

theorem notMem_pair (p : Parameter) {c : Char} (hc : c ≠ '%' ∧ HttpEncoder.unreserved c = false)
    (heq : c ≠ '=') : c ∉ p.asUrlEncodedPair.toList := by
  unfold asUrlEncodedPair
  rw [String.toList_append, String.toList_append, List.mem_append, List.mem_append]
  rintro ((h | h) | h)
  · exact HttpEncoder.notMem_encode hc _ h
  · exact heq (List.mem_singleton.mp h)
  · exact HttpEncoder.notMem_encode hc _ h

theorem eq_mem_pair (p : Parameter) : '=' ∈ p.asUrlEncodedPair.toList := by
  unfold asUrlEncodedPair
  rw [String.toList_append, String.toList_append]
  exact List.mem_append_left _ (List.mem_append_right _ List.mem_cons_self)

theorem pair_injective : Function.Injective asUrlEncodedPair := by
  rintro ⟨k, v⟩ ⟨k', v'⟩ h
  have heq : ∀ plain, '=' ∉ (HttpEncoder.encode plain).toList :=
    HttpEncoder.notMem_encode (by decide)
  have hchars := congrArg String.toList h
  unfold asUrlEncodedPair at hchars
  simp only [String.toList_append, List.append_assoc] at hchars
  obtain ⟨hkey, hvalue⟩ := JavaText.append_sep_inj (heq k) (heq k') hchars
  rw [HttpEncoder.encode_injective (String.toList_injective hkey),
    HttpEncoder.encode_injective (String.toList_injective hvalue)]

theorem toList_asFormUrlEncodedString (params : List Parameter) :
    (asFormUrlEncodedString params).toList =
      ['&'].intercalate (params.map fun p => p.asUrlEncodedPair.toList) := by
  have hbuilder : ∀ (ps : List Parameter) (b : String),
      (ps.foldl (fun builder p => builder ++ "&" ++ p.asUrlEncodedPair) b).toList =
        b.toList ++ (ps.map fun p => p.asUrlEncodedPair.toList).flatMap (['&'] ++ ·) := by
    intro ps
    induction ps with
    | nil => intro b; simp
    | cons p ps ih =>
      intro b
      rw [List.foldl_cons, ih, String.toList_append, String.toList_append, List.map_cons,
        List.flatMap_cons]
      simp
  unfold asFormUrlEncodedString
  cases params with
  | nil => rfl
  | cons p ps =>
    rw [if_neg (List.cons_ne_nil _ _), String.toList_ofList, hbuilder, List.map_cons,
      Delimited.intercalate_cons, List.flatMap_cons]
    rfl

theorem splitOn_form {params : List Parameter} (hne : params ≠ []) :
    (asFormUrlEncodedString params).toList.splitOn '&' =
      params.map fun p => p.asUrlEncodedPair.toList := by
  rw [toList_asFormUrlEncodedString, Delimited.splitOn_intercalate, Delimited.flatMap_splitOn]
  · intro part hpart
    obtain ⟨p, -, rfl⟩ := List.mem_map.mp hpart
    exact notMem_pair p (by decide) (by decide)
  · rwa [ne_eq, List.map_eq_nil_iff]

theorem asFormUrlEncodedString_eq_empty {params : List Parameter} :
    asFormUrlEncodedString params = "" ↔ params = [] := by
  constructor
  · intro h
    by_contra hne
    have hsplit := splitOn_form hne
    rw [h] at hsplit
    cases params with
    | nil => exact hne rfl
    | cons p ps =>
      have hhead : [] = p.asUrlEncodedPair.toList := (List.cons.inj hsplit).1
      have hmem := eq_mem_pair p
      rw [← hhead] at hmem
      cases hmem
  · rintro rfl
    rfl

theorem asFormUrlEncodedString_injective : Function.Injective asFormUrlEncodedString := by
  intro ps qs h
  by_cases hps : ps = []
  · rw [hps] at h ⊢
    exact (asFormUrlEncodedString_eq_empty.mp h.symm).symm
  · have hqs : qs ≠ [] := by
      rintro rfl
      exact hps (asFormUrlEncodedString_eq_empty.mp h)
    have hparts := splitOn_form hps
    rw [h, splitOn_form hqs] at hparts
    have hinj : Function.Injective fun p : Parameter => p.asUrlEncodedPair.toList := fun _ _ h =>
      pair_injective (String.toList_injective h)
    exact (List.map_injective_iff.mpr hinj hparts).symm

theorem sort_perm (params : List Parameter) : (sort params).Perm params :=
  List.perm_insertionSort le params

theorem sort_eq_sort_iff {ps qs : List Parameter} : sort ps = sort qs ↔ ps.Perm qs := by
  constructor
  · intro h
    exact (sort_perm ps).symm.trans (h ▸ sort_perm qs)
  · intro h
    exact List.Perm.eq_of_pairwise' (List.pairwise_insertionSort le ps)
      (List.pairwise_insertionSort le qs) ((sort_perm ps).trans (h.trans (sort_perm qs).symm))

theorem asOauthBaseString_sort_inj {ps qs : List Parameter} :
    asOauthBaseString (sort ps) = asOauthBaseString (sort qs) ↔ ps.Perm qs := by
  unfold asOauthBaseString
  rw [HttpEncoder.encode_injective.eq_iff, asFormUrlEncodedString_injective.eq_iff,
    sort_eq_sort_iff]

/-! Reading the parameters back. -/

theorem splitChars_eq {sep : Char} {s : List Char}
    (h : ∀ last ∈ (s.splitOn sep).getLast?, last ≠ []) :
    JavaText.splitChars sep s = s.splitOn sep := by
  unfold JavaText.splitChars
  split_ifs with hmem
  · change (s.splitOn sep).rdropWhile List.isEmpty = s.splitOn sep
    rw [List.rdropWhile_eq_self_iff]
    intro hne
    rw [List.isEmpty_iff]
    exact h _ (List.getLast?_eq_getLast_of_ne_nil hne)
  · rw [List.splitOn_eq_singleton hmem]

/-- What is left out on the way is the parameter with neither key nor value. -/
theorem parsePair_pair (p : Parameter) :
    parsePair p.asUrlEncodedPair = if p = ⟨"", ""⟩ then none else some p := by
  have heq : ∀ plain, '=' ∉ (HttpEncoder.encode plain).toList :=
    HttpEncoder.notMem_encode (by decide)
  obtain ⟨k, v⟩ := p
  have hsplit : (asUrlEncodedPair ⟨k, v⟩).toList.splitOn '=' =
      [(HttpEncoder.encode k).toList, (HttpEncoder.encode v).toList] := by
    unfold asUrlEncodedPair
    rw [String.toList_append, String.toList_append, List.append_assoc]
    change ((HttpEncoder.encode k).toList ++ '=' :: (HttpEncoder.encode v).toList).splitOn '=' = _
    rw [List.splitOn_append_cons_self, List.splitOn_eq_singleton (heq k),
      List.splitOn_eq_singleton (heq v), List.singleton_append]
  by_cases hv : v = ""
  · have hvalue := HttpEncoder.toList_encode_eq_nil.mpr hv
    have hdrop : JavaText.splitChars '=' (asUrlEncodedPair ⟨k, v⟩).toList =
        if k = "" then [] else [(HttpEncoder.encode k).toList] := by
      unfold JavaText.splitChars
      rw [if_pos (eq_mem_pair _), hsplit, hvalue]
      split_ifs with hk
      · rw [HttpEncoder.toList_encode_eq_nil.mpr hk]
        rfl
      · have hkey : ¬((HttpEncoder.encode k).toList.isEmpty = true) := by
          rw [List.isEmpty_iff, HttpEncoder.toList_encode_eq_nil]
          exact hk
        simp [hkey]
    unfold parsePair JavaText.split
    rw [hdrop, hv]
    split_ifs with hk hpair hpair
    · rfl
    · exact absurd (by rw [hk]) hpair
    · exact absurd (Parameter.mk.inj hpair).1 hk
    · simp [HttpEncoder.decode_encode]
  · have hdrop : JavaText.splitChars '=' (asUrlEncodedPair ⟨k, v⟩).toList =
        [(HttpEncoder.encode k).toList, (HttpEncoder.encode v).toList] := by
      rw [splitChars_eq, hsplit]
      rw [hsplit, List.getLast?_cons_cons, List.getLast?_singleton]
      intro last hlast
      rw [← Option.some.inj hlast, ne_eq, HttpEncoder.toList_encode_eq_nil]
      exact hv
    unfold parsePair JavaText.split
    rw [hdrop, if_neg fun hpair => hv (Parameter.mk.inj hpair).2]
    simp [HttpEncoder.decode_encode]

theorem filterMap_parsePair (params : List Parameter) :
    (params.map asUrlEncodedPair).filterMap parsePair = params.filter (· ≠ ⟨"", ""⟩) := by
  rw [List.filterMap_map, ← List.filterMap_eq_filter]
  apply List.filterMap_congr
  intro p _
  change parsePair p.asUrlEncodedPair = _
  rw [parsePair_pair]
  by_cases hp : p = ⟨"", ""⟩ <;> simp [hp, Option.guard]

/-- A text that does not end with the separator has no part to be dropped. -/
theorem getLast_splitOn_ne_nil {sep : Char} {s : List Char} (hne : s ≠ [])
    (hlast : s.getLast? ≠ some sep) : ∀ last ∈ (s.splitOn sep).getLast?, last ≠ [] := by
  rcases List.eq_nil_or_concat s with rfl | ⟨t, x, rfl⟩
  · exact absurd rfl hne
  · rw [List.concat_eq_append, List.getLast?_concat] at hlast
    have hx : sep ∉ [x] := by
      intro hmem
      exact hlast (congrArg some (List.mem_singleton.mp hmem).symm)
    obtain ⟨init, last, hinit⟩ : ∃ init last, t.splitOn sep = init ++ [last] :=
      ⟨_, _, (List.dropLast_append_getLast (List.splitOn_ne_nil sep t)).symm⟩
    rw [List.concat_eq_append,
      Delimited.splitOn_append sep hinit (List.splitOn_eq_singleton hx)]
    intro found hfound
    rw [List.getLast?_append_cons, List.getLast?_singleton] at hfound
    rw [← Option.some.inj hfound]
    exact List.append_ne_nil_of_right_ne_nil _ (List.cons_ne_nil _ _)

theorem queryParts_of_ne {s : String} (hne : s ≠ "")
    (h : ∀ last ∈ (s.toList.splitOn '&').getLast?, last ≠ []) :
    queryParts (some s) = (s.toList.splitOn '&').map String.ofList := by
  unfold queryParts JavaText.split
  rw [Option.getD_some, if_neg hne, splitChars_eq h]

theorem getLast_map_pair {params : List Parameter} :
    ∀ last ∈ (params.map fun p => p.asUrlEncodedPair.toList).getLast?, last ≠ [] := by
  intro last hlast
  obtain ⟨p, -, rfl⟩ := List.mem_map.mp (List.mem_of_mem_getLast? hlast)
  exact List.ne_nil_of_mem (eq_mem_pair p)

theorem map_ofList_pair (params : List Parameter) :
    (params.map fun p => p.asUrlEncodedPair.toList).map String.ofList =
      params.map asUrlEncodedPair := by
  rw [List.map_map]
  exact List.map_congr_left fun p _ => String.ofList_toList

/-- The written parameters are read back in their order. -/
theorem ofQuerystring_form (params : List Parameter) :
    ofQuerystring (some (asFormUrlEncodedString params)) = params.filter (· ≠ ⟨"", ""⟩) := by
  by_cases hparams : params = []
  · rw [hparams]
    rfl
  · have hne := mt asFormUrlEncodedString_eq_empty.mp hparams
    have hsplit := splitOn_form hparams
    unfold ofQuerystring
    rw [queryParts_of_ne hne (hsplit ▸ getLast_map_pair), hsplit, map_ofList_pair,
      filterMap_parsePair]

/-- They are read back as well where they are appended to a query. -/
theorem ofQuerystring_append {query : String} (hne : query ≠ "")
    (hlast : query.toList.getLast? ≠ some '&') {params : List Parameter} (hparams : params ≠ []) :
    ofQuerystring (some (query ++ "&" ++ asFormUrlEncodedString params)) =
      ofQuerystring (some query) ++ params.filter (· ≠ ⟨"", ""⟩) := by
  have hchars : query.toList ≠ [] := fun h => hne (String.toList_injective h)
  have hsplit : (query ++ "&" ++ asFormUrlEncodedString params).toList.splitOn '&' =
      query.toList.splitOn '&' ++ params.map fun p => p.asUrlEncodedPair.toList := by
    rw [String.toList_append, String.toList_append, List.append_assoc]
    change (query.toList ++ '&' :: (asFormUrlEncodedString params).toList).splitOn '&' = _
    rw [List.splitOn_append_cons_self, splitOn_form hparams]
  have hwhole : query ++ "&" ++ asFormUrlEncodedString params ≠ "" := by
    intro h
    have hnil := congrArg String.toList h
    rw [String.toList_append, String.toList_append] at hnil
    exact hchars (List.append_eq_nil_iff.mp (List.append_eq_nil_iff.mp hnil).1).1
  have hmap : (params.map fun p => p.asUrlEncodedPair.toList) ≠ [] := by
    rwa [ne_eq, List.map_eq_nil_iff]
  unfold ofQuerystring
  rw [queryParts_of_ne hwhole, queryParts_of_ne hne (getLast_splitOn_ne_nil hchars hlast), hsplit,
    List.map_append, List.filterMap_append, map_ofList_pair, filterMap_parsePair]
  rw [hsplit, List.getLast?_append_of_ne_nil _ hmap]
  exact getLast_map_pair

end ParameterList

end MaxKey.Client
