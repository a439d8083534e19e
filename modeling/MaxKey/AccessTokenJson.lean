import Mathlib.Algebra.Group.Int.Defs
import Mathlib.Algebra.Group.Nat.Defs
import MaxKey.ParameterLists

namespace MaxKey.OAuth2
open JavaException Effects OAuth2Utils

/-- A number that a `long` holds. -/
def IsLong (n : ℤ) : Prop := -2 ^ 63 ≤ n ∧ n < 2 ^ 63

instance (n : ℤ) : Decidable (IsLong n) := inferInstanceAs (Decidable (_ ∧ _))

/-- A value of a document. A reader takes the whole part of a decimal, or its literal. -/
inductive Json
  | null
  | bool (value : Bool)
  | number (value : ℤ)
  | decimal (whole : ℤ) (literal : String)
  | string (value : String)
  | array (elements : List Json)
  | object (fields : List (String × Json))

namespace Json

/-- The text of a scalar token. -/
def getText : Json → Option String
  | null => some "null"
  | bool value => some (if value then "true" else "false")
  | number value => some (toString value)
  | decimal _ literal => some literal
  | string value => some value
  | array _ | object _ => none

/-- The first digits of the decimal systems that a `char` can hold. -/
def zeroDigits : List ℕ :=
  [0x30, 0x660, 0x6F0, 0x7C0, 0x966, 0x9E6, 0xA66, 0xAE6, 0xB66, 0xBE6, 0xC66, 0xCE6, 0xD66, 0xDE6,
    0xE50, 0xED0, 0xF20, 0x1040, 0x1090, 0x17E0, 0x1810, 0x1946, 0x19D0, 0x1A80, 0x1A90, 0x1B50,
    0x1BB0, 0x1C40, 0x1C50, 0xA620, 0xA8D0, 0xA900, 0xA9D0, 0xA9F0, 0xAA50, 0xABF0, 0xFF10]

def digit (c : Char) : Option ℕ :=
  (zeroDigits.find? fun first => first ≤ c.toNat ∧ c.toNat < first + 10).map
    fun first => c.toNat - first

def unsigned (chars : List Char) : Option ℕ :=
  if chars = [] then none
  else chars.foldlM (fun n c => (digit c).map (10 * n + ·)) 0

/-- Long.valueOf, `none` where the format or the range is wrong. -/
def longValueOf (text : String) : Option ℤ :=
  let value : Option ℤ := match text.toList with
    | '-' :: digits => (unsigned digits).map fun n => -(n : ℤ)
    | '+' :: digits => (unsigned digits).map fun n => (n : ℤ)
    | digits => (unsigned digits).map fun n => (n : ℤ)
  value.filter fun n => IsLong n

/-- The number of a token, or that of its text where it is no number. A number out of range has no
text that is in range. -/
def getLongValue : Json → Option ℤ
  | number value => (some value).filter fun n => IsLong n
  | decimal whole _ => (some whole).filter fun n => IsLong n
  | json => json.getText.bind longValueOf

end Json

/-- How the mapper writes an object, and what it reads where no type is asked for. -/
structure ObjectMapper (α : Type) where
  writeValue : α → Json
  readValue : Json → α

/-- An expiring refresh token has an expiration, though it may be null. -/
structure DefaultOAuth2RefreshToken where
  value : Option String
  expiration : Option (Option ℤ) := none
  deriving DecidableEq

structure DefaultOAuth2AccessToken (α : Type) where
  value : Option String
  tokenType : Option String := some "bearer"
  expiration : Option ℤ := none
  refreshToken : Option DefaultOAuth2RefreshToken := none
  scope : Option (List String) := none
  additionalInformation : List (String × α) := []

variable {α : Type}

namespace OAuth2AccessTokenJackson2Serializer

def writeStringField (value : Option String) : Json := value.elim .null .string

def appendScope (scope : List String) (scopes s : String) : Except JavaException String := do
  failIf (s = "") (illegalArgument
    ("Scopes cannot be null or empty. Got [" ++ String.intercalate ", " scope ++ "]"))
  return scopes ++ s ++ " "

/-- Every scope with a blank behind it, but for the last blank. -/
def joinScopes (scope : List String) : Except JavaException String := do
  let scopes ← scope.foldlM (appendScope scope) ""
  return String.ofList scopes.toList.dropLast

def scopeField : Option (List String) → Except JavaException (List (String × Json))
  | none | some [] => .ok []
  | some scope => do
    let scopes ← joinScopes scope
    return [("scope", .string scopes)]

def secondsLeft (now expiration : ℤ) : ℤ := ((expiration - now).bmod (2 ^ 64)).tdiv 1000

/-- The fields of the document, in the order in which they are written. -/
def serialize (mapper : ObjectMapper α) (now : ℤ) (token : DefaultOAuth2AccessToken α) :
    Except JavaException (List (String × Json)) := do
  let scope ← scopeField token.scope
  let refreshToken := token.refreshToken.elim [] fun refreshToken =>
    [("refresh_token", writeStringField refreshToken.value)]
  let expiresIn := token.expiration.elim [] fun expiration =>
    [("expires_in", Json.number (secondsLeft now expiration))]
  return [("access_token", writeStringField token.value),
      ("token_type", writeStringField token.tokenType)] ++ refreshToken ++ expiresIn ++ scope ++
    token.additionalInformation.map fun entry => (entry.1, mapper.writeValue entry.2)

end OAuth2AccessTokenJackson2Serializer

namespace OAuth2AccessTokenJackson2Deserializer

/-- What the loop over the fields has found so far. -/
structure Found (α : Type) where
  tokenValue : Option String := none
  tokenType : Option String := none
  refreshToken : Option String := none
  expiresIn : Option ℤ := none
  scope : Option (List String) := none
  additionalInformation : List (String × α) := []

/-- A key that is there keeps its place and gets the new value. -/
def put (entries : List (String × α)) (key : String) (value : α) : List (String × α) :=
  if key ∈ entries.map Prod.fst then
    entries.map fun entry => if entry.1 = key then (key, value) else entry
  else entries ++ [(key, value)]

/-- One field. There is no result where the reader throws, and none for a structured value under
one of its own names, into which its loop would run. -/
def readField (mapper : ObjectMapper α) (found : Found α) (field : String × Json) :
    Option (Found α) :=
  if field.1 = "access_token" then
    field.2.getText.map fun text => { found with tokenValue := some text }
  else if field.1 = "token_type" then
    field.2.getText.map fun text => { found with tokenType := some text }
  else if field.1 = "refresh_token" then
    field.2.getText.map fun text => { found with refreshToken := some text }
  else if field.1 = "expires_in" then
    field.2.getLongValue.map fun seconds => { found with expiresIn := some seconds }
  else if field.1 = "scope" then
    field.2.getText.map fun text => { found with scope := some (parseParameterList (some text)) }
  else
    let information := put found.additionalInformation field.1 (mapper.readValue field.2)
    some { found with additionalInformation := information }

def deserialize (mapper : ObjectMapper α) (now : ℤ) (fields : List (String × Json)) :
    Option (DefaultOAuth2AccessToken α) := do
  let found ← fields.foldlM (readField mapper) {}
  return {
    value := found.tokenValue, tokenType := found.tokenType
    expiration := found.expiresIn.map fun seconds => (now + seconds * 1000).bmod (2 ^ 64)
    refreshToken := found.refreshToken.map fun value => { value := some value }
    scope := found.scope
    additionalInformation := found.additionalInformation }

/-- What has been found, with more entries of the map. -/
def Found.inform (found : Found α) (entries : List (String × α)) : Found α :=
  { found with additionalInformation := found.additionalInformation ++ entries }

end OAuth2AccessTokenJackson2Deserializer


section RoundTrip

variable {mapper : ObjectMapper α} {now later : ℤ} {token : DefaultOAuth2AccessToken α}
  {scope : List String} {entries info : List (String × α)} {key : String} {value : α}

open OAuth2AccessTokenJackson2Serializer OAuth2AccessTokenJackson2Deserializer

/-- The names that the reader takes for itself. -/
def reservedNames : List String :=
  ["access_token", "token_type", "refresh_token", "expires_in", "scope"]

/-- A token as the claim of the writer and the reader is about: scopes of the grammar, and a map
of additional information under other names than those of the reader. -/
structure Writable (token : DefaultOAuth2AccessToken α) : Prop where
  scope : ∀ scope ∈ token.scope, ∀ s ∈ scope, ScopeToken s
  date : ∀ e ∈ token.expiration, IsLong e
  free : ∀ entry ∈ token.additionalInformation, entry.1 ∉ reservedNames
  nodup : (token.additionalInformation.map Prod.fst).Nodup

/-! ### Writing -/

theorem appendScope_of_ne_empty {scopes s : String} (h : s ≠ "") :
    appendScope scope scopes s = .ok (scopes ++ s ++ " ") := by
  unfold appendScope failIf
  rw [if_neg h]
  rfl

variable (scope) in
/-- The characters that the loop has written. -/
theorem foldlM_appendScope {rest : List String} (start : String) (h : ∀ s ∈ rest, s ≠ "") :
    ∃ scopes, rest.foldlM (appendScope scope) start = .ok scopes ∧
      scopes.toList = start.toList ++ rest.flatMap fun s => s.toList ++ [' '] := by
  induction rest generalizing start with
  | nil => exact ⟨start, rfl, by simp⟩
  | cons s rest ih =>
    obtain ⟨scopes, hrun, hchars⟩ := ih (start ++ s ++ " ") fun x hx =>
      h x (List.mem_cons_of_mem s hx)
    refine ⟨scopes, ?_, ?_⟩
    · rw [List.foldlM_cons, appendScope_of_ne_empty (h s List.mem_cons_self)]
      exact hrun
    · rw [hchars]
      simp

theorem dropLast_flatMap (h : scope ≠ []) :
    (scope.flatMap fun s => s.toList ++ [' ']).dropLast =
      [' '].intercalate (scope.map String.toList) := by
  induction scope with
  | nil => exact absurd rfl h
  | cons s rest ih =>
    cases rest with
    | nil => simp
    | cons next rest =>
      have hrest := ih (List.cons_ne_nil _ _)
      have hne : ((next :: rest).flatMap fun s => s.toList ++ [' ']) ≠ [] := by simp
      rw [List.flatMap_cons, List.dropLast_append_of_ne_nil hne, hrest]
      simp only [List.map_cons, List.intercalate_cons_cons, List.append_assoc]

/-- The writer's own way to join scopes gives the formatted list. -/
theorem joinScopes_eq (hscope : scope ≠ []) (h : ∀ s ∈ scope, s ≠ "") :
    joinScopes scope = .ok (String.intercalate " " scope) := by
  obtain ⟨scopes, hrun, hchars⟩ := foldlM_appendScope scope "" h
  unfold joinScopes
  rw [hrun]
  show Except.ok (String.ofList scopes.toList.dropLast) = _
  rw [hchars, String.toList_empty, List.nil_append, dropLast_flatMap hscope]
  congr 1
  apply String.toList_injective
  rw [String.toList_ofList, toList_format]

/-- The field of the scopes, if there is one. -/
def writtenScope : Option (List String) → List (String × Json)
  | none | some [] => []
  | some scope => [("scope", .string (String.intercalate " " scope))]

theorem scopeField_eq {scopes : Option (List String)} (h : ∀ scope ∈ scopes, ∀ s ∈ scope, s ≠ "") :
    scopeField scopes = .ok (writtenScope scopes) := by
  match scopes with
  | none => rfl
  | some [] => rfl
  | some (s :: rest) =>
    have hjoin := joinScopes_eq (List.cons_ne_nil s rest) (h _ rfl)
    simp only [scopeField, hjoin]
    rfl

/-! ### Reading -/

variable {found : Found α} {fields fields' : List (String × Json)}

theorem readFields_append {found' : Found α}
    (h : fields.foldlM (readField mapper) found = some found') :
    (fields ++ fields').foldlM (readField mapper) found =
      fields'.foldlM (readField mapper) found' := by
  rw [List.foldlM_append, h]
  rfl

theorem getText_writeStringField (value : Option String) :
    (writeStringField value).getText = some (value.getD "null") := by
  cases value with
  | none => rfl
  | some value => rfl

/-- The entries as they are read again. -/
def reread (mapper : ObjectMapper α) (entries : List (String × α)) : List (String × α) :=
  entries.map fun entry => (entry.1, mapper.readValue (mapper.writeValue entry.2))

/-- A new key goes to the end of the map. -/
theorem put_of_not_mem (h : key ∉ entries.map Prod.fst) :
    put entries key value = entries ++ [(key, value)] := by
  unfold put
  rw [if_neg h]

variable (mapper) in
/-- The additional information is read entry by entry. The induction is on the entries. -/
theorem readFields_information (info : List (String × α)) (found : Found α)
    (hfree : ∀ entry ∈ info, entry.1 ∉ reservedNames)
    (hnodup : (found.additionalInformation.map Prod.fst ++ info.map Prod.fst).Nodup) :
    (info.map fun entry => (entry.1, mapper.writeValue entry.2)).foldlM (readField mapper) found =
      some (found.inform (reread mapper info)) := by
  induction info generalizing found with
  | nil => simp [Found.inform, reread]
  | cons entry rest ih =>
    obtain ⟨key, value⟩ := entry
    have hkey := hfree (key, value) List.mem_cons_self
    have hnew : key ∉ found.additionalInformation.map Prod.fst := by
      intro hmem
      exact (List.nodup_append'.mp hnodup).2.2 hmem List.mem_cons_self
    simp only [reservedNames, List.mem_cons, List.not_mem_nil, or_false, not_or] at hkey
    obtain ⟨haccess, htype, hrefresh, hexpires, hscope⟩ := hkey
    have hread : readField mapper found (key, mapper.writeValue value) =
        some (found.inform [(key, mapper.readValue (mapper.writeValue value))]) := by
      unfold readField
      simp only [if_neg haccess, if_neg htype, if_neg hrefresh, if_neg hexpires, if_neg hscope,
        put_of_not_mem hnew, Found.inform]
    have hrest := ih (found.inform [(key, mapper.readValue (mapper.writeValue value))])
      (fun x hx => hfree x (List.mem_cons_of_mem _ hx)) (by simpa [Found.inform] using hnodup)
    rw [List.map_cons, List.foldlM_cons, hread]
    refine hrest.trans ?_
    simp [Found.inform, reread]

/-- What comes back of a token. -/
def readBack (mapper : ObjectMapper α) (now later : ℤ) (token : DefaultOAuth2AccessToken α) :
    DefaultOAuth2AccessToken α where
  value := some (token.value.getD "null")
  tokenType := some (token.tokenType.getD "null")
  expiration := token.expiration.map fun e => (later + secondsLeft now e * 1000).bmod (2 ^ 64)
  refreshToken := token.refreshToken.map fun refreshToken =>
    { value := some (refreshToken.value.getD "null") }
  scope := (token.scope.filter (· ≠ [])).map fun scope =>
    parseParameterList (formatParameterList (some scope))
  additionalInformation := reread mapper token.additionalInformation

/-- Whole seconds, rounded towards zero. -/
theorem tdiv_thousand (n : ℤ) :
    (0 ≤ n ∨ n % 1000 = 0) ∧ n.tdiv 1000 = n / 1000 ∨
      n < 0 ∧ n % 1000 ≠ 0 ∧ n.tdiv 1000 = n / 1000 + 1 := by
  rw [Int.tdiv_eq_ediv]
  split_ifs with hround <;> rw [Int.dvd_iff_emod_eq_zero] at hround
  · exact .inl ⟨hround, Int.add_zero _⟩
  · rw [not_or] at hround
    exact .inr ⟨by omega, hround.2, rfl⟩

/-- Seconds that have been written are read as they are. -/
theorem getLongValue_secondsLeft (now e : ℤ) :
    (Json.number (secondsLeft now e)).getLongValue = some (secondsLeft now e) := by
  have hlong : IsLong (secondsLeft now e) := by
    have hlow := Int.le_bmod (x := e - now) (m := 2 ^ 64) (by decide)
    have hhigh := Int.bmod_lt (x := e - now) (m := 2 ^ 64) (by decide)
    have hdiv := tdiv_thousand ((e - now).bmod (2 ^ 64))
    unfold IsLong secondsLeft
    omega
  simp [Json.getLongValue, hlong]

theorem readField_scope (found : Found α) (scopes : Option (List String)) (h : found.scope = none) :
    (writtenScope scopes).foldlM (readField mapper) found =
      some { found with scope := (scopes.filter (· ≠ [])).map fun scope =>
        parseParameterList (formatParameterList (some scope)) } := by
  obtain ⟨_, _, _, _, _, _⟩ := found
  subst h
  match scopes with
  | none => rfl
  | some [] => rfl
  | some (s :: rest) => simp [writtenScope, readField, Json.getText, formatParameterList]

/-- The reader's own fields, of which three may be missing. -/
theorem readFields_own (mapper : ObjectMapper α) (now : ℤ) (token : DefaultOAuth2AccessToken α) :
    ([("access_token", writeStringField token.value),
        ("token_type", writeStringField token.tokenType)] ++
      token.refreshToken.elim [] (fun refreshToken =>
        [("refresh_token", writeStringField refreshToken.value)]) ++
      token.expiration.elim [] (fun e => [("expires_in", Json.number (secondsLeft now e))]) ++
      writtenScope token.scope).foldlM (readField mapper) {} = some {
        tokenValue := some (token.value.getD "null")
        tokenType := some (token.tokenType.getD "null")
        refreshToken := token.refreshToken.map (·.value.getD "null")
        expiresIn := token.expiration.map (secondsLeft now)
        scope := (token.scope.filter (· ≠ [])).map fun scope =>
          parseParameterList (formatParameterList (some scope)) } := by
  have hfirst : ([("access_token", writeStringField token.value),
      ("token_type", writeStringField token.tokenType)] ++
      token.refreshToken.elim [] (fun refreshToken =>
        [("refresh_token", writeStringField refreshToken.value)]) ++
      token.expiration.elim [] (fun e => [("expires_in", Json.number (secondsLeft now e))])).foldlM
        (readField mapper) {} = some {
          tokenValue := some (token.value.getD "null")
          tokenType := some (token.tokenType.getD "null")
          refreshToken := token.refreshToken.map (·.value.getD "null")
          expiresIn := token.expiration.map (secondsLeft now) } := by
    -- each field that is there is read into its own part
    cases token.refreshToken <;> cases token.expiration <;>
      simp [readField, getText_writeStringField, getLongValue_secondsLeft]
  rw [readFields_append hfirst, readField_scope _ _ rfl]

theorem deserialize_serialize (mapper : ObjectMapper α) (now later : ℤ) (h : Writable token) :
    ∃ fields, serialize mapper now token = .ok fields ∧
      deserialize mapper later fields = some (readBack mapper now later token) := by
  have hscopes : scopeField token.scope = .ok (writtenScope token.scope) :=
    scopeField_eq fun scope hscope s hs => (h.scope scope hscope s hs).ne_empty
  have hinformation := fun found hfound => readFields_information mapper
    token.additionalInformation found h.free hfound
  unfold serialize
  rw [hscopes]
  refine ⟨_, rfl, ?_⟩
  unfold deserialize
  rw [readFields_append (readFields_own mapper now token), hinformation _ (by simpa using h.nodup)]
  simp [readBack, Found.inform, Function.comp_def]

/-- The life that is left when the token is read, in whole seconds that are rounded down. -/
def wholeSeconds (now later expiration : ℤ) : ℤ := later + (expiration - now) / 1000 * 1000

/-- A token that has come back as it was written. -/
structure Restored (now later : ℤ) (token restored : DefaultOAuth2AccessToken α) : Prop where
  value : restored.value = token.value
  tokenType : restored.tokenType = token.tokenType
  refreshToken : restored.refreshToken.map (·.value) = token.refreshToken.map (·.value)
  scope : Option.Rel (fun read written => ∀ s : String, s ∈ read ↔ s ∈ written)
    restored.scope token.scope
  additionalInformation : restored.additionalInformation = token.additionalInformation
  expiration : restored.expiration = token.expiration.map (wholeSeconds now later)

/-- The tokens that survive. An expiration lies ahead or whole seconds behind, and no sum on the
way leaves the range of a `long`. -/
structure Survives (mapper : ObjectMapper α) (now later : ℤ) (token : DefaultOAuth2AccessToken α) :
    Prop where
  value : token.value ≠ none
  tokenType : token.tokenType ≠ none
  refreshToken : ∀ refreshToken ∈ token.refreshToken, refreshToken.value ≠ none
  nonempty : token.scope ≠ some []
  plus : ∀ scope ∈ token.scope, ∀ s ∈ scope, '+' ∉ s.toList
  additionalInformation : ∀ entry ∈ token.additionalInformation,
    mapper.readValue (mapper.writeValue entry.2) = entry.2
  expiration : ∀ e ∈ token.expiration, (now ≤ e ∨ (e - now) % 1000 = 0) ∧ IsLong (e - now) ∧
    IsLong (wholeSeconds now later e)

/-- A `long` keeps what is in range, and takes 2⁶⁴ from or to what is a little out of it. -/
theorem bmod_long {n : ℤ} (hlow : -2 ^ 65 < n) (hhigh : n < 2 ^ 65) :
    IsLong (n.bmod (2 ^ 64)) ∧ (n.bmod (2 ^ 64) = n ∨ n.bmod (2 ^ 64) = n + 2 ^ 64 ∨
      n.bmod (2 ^ 64) = n - 2 ^ 64 ∨ n.bmod (2 ^ 64) = n + 2 * 2 ^ 64 ∨
      n.bmod (2 ^ 64) = n - 2 * 2 ^ 64) := by
  unfold IsLong
  rw [Int.bmod_def]
  omega

theorem wholeSeconds_iff {e : ℤ} (hnow : IsLong now) (hlater : IsLong later) (he : IsLong e) :
    (later + secondsLeft now e * 1000).bmod (2 ^ 64) = wholeSeconds now later e ↔
      (now ≤ e ∨ (e - now) % 1000 = 0) ∧ IsLong (e - now) ∧ IsLong (wholeSeconds now later e) := by
  have hdiv := tdiv_thousand ((e - now).bmod (2 ^ 64))
  unfold secondsLeft wholeSeconds
  unfold IsLong at hnow hlater he
  obtain ⟨hlong, hspan⟩ := bmod_long (n := e - now) (by omega) (by omega)
  unfold IsLong at hlong
  obtain ⟨hlong', hsum⟩ := bmod_long (n := later + ((e - now).bmod (2 ^ 64)).tdiv 1000 * 1000)
    (by omega) (by omega)
  unfold IsLong at *
  -- no multiple of 2⁶⁴ as small as these is one of 1000
  constructor
  · intro heq
    rw [heq] at hsum hlong'
    have hround : (e - now) / 1000 = ((e - now).bmod (2 ^ 64)).tdiv 1000 := by omega
    have hleft : (e - now).bmod (2 ^ 64) = e - now := by omega
    rw [hleft] at hround hdiv hlong
    exact ⟨by omega, hlong, hlong'⟩
  · rintro ⟨hahead, hleft, hwhole⟩
    omega

/-! ### The round trip -/

theorem getD_null_iff (text : Option String) : some (text.getD "null") = text ↔ text ≠ none := by
  cases text with
  | none => simp
  | some text => simp

theorem map_eq_map_iff {β γ : Type} {f g : β → γ} (x : Option β) :
    x.map f = x.map g ↔ ∀ a ∈ x, f a = g a := by
  cases x with
  | none => simp
  | some a => simp

theorem reread_eq_iff (info : List (String × α)) : reread mapper info = info ↔
    ∀ entry ∈ info, mapper.readValue (mapper.writeValue entry.2) = entry.2 := by
  have hmap : reread mapper info = info.map id ↔ _ := List.map_inj_left
  rw [List.map_id] at hmap
  rw [hmap]
  refine forall₂_congr fun entry _ => ?_
  rw [id, Prod.ext_iff]
  simp

/-- A scope set comes back unless it is empty, which leaves no field, or holds a plus sign. -/
theorem readScope_iff (scopes : Option (List String))
    (h : ∀ scope ∈ scopes, ∀ s ∈ scope, ScopeToken s) :
    Option.Rel (fun read written => ∀ s : String, s ∈ read ↔ s ∈ written)
      ((scopes.filter (· ≠ [])).map fun scope =>
        parseParameterList (formatParameterList (some scope))) scopes ↔
      scopes ≠ some [] ∧ ∀ scope ∈ scopes, ∀ s ∈ scope, '+' ∉ s.toList := by
  match scopes with
  | none => simp
  | some [] =>
    have hfilter : (some ([] : List String)).filter (· ≠ []) = none := rfl
    simp only [hfilter, Option.map_none, Option.not_rel_none_some, ne_eq, not_true_eq_false,
      false_and]
  | some (s :: rest) =>
    have hfilter : (some (s :: rest)).filter (· ≠ []) = some (s :: rest) := rfl
    have hround := (parse_format_iff (s :: rest) (h _ rfl) "").1
    rw [hfilter, Option.map_some, Option.rel_some_some]
    simpa using hround

theorem restored_iff (hnow : IsLong now) (hlater : IsLong later) (h : Writable token) :
    Restored now later token (readBack mapper now later token) ↔
      Survives mapper now later token := by
  have hscope := readScope_iff token.scope h.scope
  have hrefresh : ((readBack mapper now later token).refreshToken.map (·.value) =
      token.refreshToken.map (·.value)) ↔ ∀ r ∈ token.refreshToken, r.value ≠ none := by
    rw [readBack, Option.map_map, map_eq_map_iff]
    exact forall₂_congr fun r _ => getD_null_iff r.value
  have hdates := map_eq_map_iff (f := fun e => (later + secondsLeft now e * 1000).bmod (2 ^ 64))
    (g := wholeSeconds now later) token.expiration
  have hdate : ∀ e ∈ token.expiration, _ := fun e he => wholeSeconds_iff hnow hlater (h.date e he)
  constructor
  · intro hback
    exact {
      value := (getD_null_iff _).mp hback.value
      tokenType := (getD_null_iff _).mp hback.tokenType
      refreshToken := hrefresh.mp hback.refreshToken
      nonempty := (hscope.mp hback.scope).1
      plus := (hscope.mp hback.scope).2
      additionalInformation := (reread_eq_iff _).mp hback.additionalInformation
      expiration := fun e he => (hdate e he).mp (hdates.mp hback.expiration e he) }
  · intro hkept
    exact {
      value := (getD_null_iff _).mpr hkept.value
      tokenType := (getD_null_iff _).mpr hkept.tokenType
      refreshToken := hrefresh.mpr hkept.refreshToken
      scope := hscope.mpr ⟨hkept.nonempty, hkept.plus⟩
      additionalInformation := (reread_eq_iff _).mpr hkept.additionalInformation
      expiration := hdates.mpr fun e he => (hdate e he).mpr (hkept.expiration e he) }

/-- The reader gives what comes back, whatever is asked of it. -/
theorem exists_restored_iff (mapper : ObjectMapper α) (now later : ℤ) (h : Writable token) :
    (∃ fields restored, serialize mapper now token = .ok fields ∧
      deserialize mapper later fields = some restored ∧ Restored now later token restored) ↔
        Restored now later token (readBack mapper now later token) := by
  obtain ⟨fields, hwrite, hread⟩ := deserialize_serialize mapper now later h
  constructor
  · rintro ⟨fields', restored, hwrite', hread', hrestored⟩
    have hfields : fields' = fields := Except.ok.inj (hwrite'.symm.trans hwrite)
    rw [hfields, hread] at hread'
    rw [Option.some.inj hread']
    exact hrestored
  · intro hrestored
    exact ⟨fields, _, hwrite, hread, hrestored⟩

/-- A token comes back as it was exactly if it has a value and a type, its refresh token, if any,
has a value, its scopes, if any, are not an empty set and hold no plus sign, the mapper reads every
additional value as it was, and the arithmetic on its expiration is exact. -/
theorem roundTrip_iff (mapper : ObjectMapper α) (hnow : IsLong now) (hlater : IsLong later)
    (h : Writable token) :
    (∃ fields restored, serialize mapper now token = .ok fields ∧
      deserialize mapper later fields = some restored ∧ Restored now later token restored) ↔
        Survives mapper now later token :=
  (exists_restored_iff mapper now later h).trans (restored_iff hnow hlater h)

end RoundTrip

/-- A mapper of texts. -/
def textMapper : ObjectMapper String where
  writeValue := .string
  readValue json := json.getText.getD ""

/-- A token of the kiosk with a refresh token, two scopes and an entry of the enhancer. -/
def kioskToken : DefaultOAuth2AccessToken String where
  value := some "2YotnFZFEjr1zCsicMWpAA"
  expiration := some 1700003600500
  refreshToken := some { value := some "tGzv3JOkF0XG5Qx2TlKWIA" }
  scope := some ["openid", "read"]
  additionalInformation := [("tenant", "kiosk")]

theorem writable_kioskToken : Writable kioskToken where
  scope := by decide +kernel
  date := by decide
  free := by decide
  nodup := by decide

open OAuth2AccessTokenJackson2Serializer OAuth2AccessTokenJackson2Deserializer

theorem roundTrip_kiosk :
    (∃ fields restored, serialize textMapper 1700000000000 kioskToken = .ok fields ∧
      deserialize textMapper 1700000002000 fields = some restored ∧
        Restored 1700000000000 1700000002000 kioskToken restored) ↔
          Survives textMapper 1700000000000 1700000002000 kioskToken :=
  roundTrip_iff textMapper (by decide) (by decide) writable_kioskToken

/-- A scope with a plus sign is written as it is and read as two. -/
theorem roundTrip_plus :
    ¬ ∀ token : DefaultOAuth2AccessToken String, Writable token →
      ∃ fields restored, serialize textMapper 1700000000000 token = .ok fields ∧
        deserialize textMapper 1700000002000 fields = some restored ∧
          Restored 1700000000000 1700000002000 token restored := by
  intro hround
  have hwritable : Writable { kioskToken with scope := some ["read+write"] } :=
    { writable_kioskToken with scope := by decide +kernel }
  have hback := (exists_restored_iff textMapper 1700000000000 1700000002000 hwritable).mp
    (hround _ hwritable)
  have hplus := ((restored_iff (by decide) (by decide) hwritable).mp hback).plus
  exact absurd (hplus _ rfl "read+write" List.mem_cons_self) (by decide)

end MaxKey.OAuth2
