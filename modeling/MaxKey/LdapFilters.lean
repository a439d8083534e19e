import Mathlib.Data.List.Basic

namespace LdapFilters

/-- What an item of a filter asserts of the values of its attribute. -/
inductive Assertion
  | present
  | equality (value : List UInt8)
  | substrings (pieces : List (List UInt8))
  deriving DecidableEq

/-- An equality, presence or substring item. -/
structure Item where
  name : String
  assertion : Assertion
  deriving DecidableEq

/-- The characters that stand for themselves in no value. -/
def special : List Char := ['*', '(', ')', '\\', '\x00']

def isDescription (c : Char) : Bool := c.isAlphanum || c = '-' || c = ';' || c = '.'

def hexDigit (c : Char) : Option UInt8 :=
  if c.isDigit then some (c.toNat - '0'.toNat).toUInt8
  else if 'a' ≤ c ∧ c ≤ 'f' then some (c.toNat - 'a'.toNat + 10).toUInt8
  else if 'A' ≤ c ∧ c ≤ 'F' then some (c.toNat - 'A'.toNat + 10).toUInt8
  else none

/-- The octets of a value: two hex digits behind a backslash are one, and any other character that
is not special is its encoding. -/
def unescape : List Char → Option (List UInt8)
  | [] => some []
  | '\\' :: first :: second :: text => do
    let high ← hexDigit first
    let low ← hexDigit second
    return (high * 16 + low) :: (← unescape text)
  | c :: text =>
    if c ∈ special then none else (unescape text).map (String.utf8EncodeChar c ++ ·)

/-- Asterisks alone assert presence, and between pieces any text. -/
def parseAssertion (value : List Char) : Option Assertion :=
  match value.splitOn '*' with
  | [[], []] => some .present
  | [piece] => (unescape piece).map .equality
  | pieces => (pieces.mapM unescape).map .substrings

/-- An item in its parentheses. -/
def parseItem (filter : List Char) : Option Item :=
  match filter with
  | '(' :: text =>
    let body := text.dropLast
    let name := body.takeWhile isDescription
    match body.dropWhile isDescription with
    | '=' :: value =>
      if text.getLast? = some ')' ∧ name ≠ [] then
        (parseAssertion value).map (Item.mk (String.ofList name))
      else none
    | _ => none
  | _ => none

/-- How the values of an attribute are matched. -/
structure MatchingRule where
  equal : List UInt8 → String → Bool
  substrings : List (List UInt8) → String → Bool

def Assertion.holds (rule : MatchingRule) (values : List String) : Assertion → Bool
  | .present => !values.isEmpty
  | .equality value => values.any (rule.equal value)
  | .substrings pieces => values.any (rule.substrings pieces)

/-- A value without special characters stands for itself. -/
theorem unescape_of_plain {text : List Char} (h : ∀ c ∈ text, c ∉ special) :
    unescape text = some (text.flatMap String.utf8EncodeChar) := by
  induction text with
  | nil => rfl
  | cons c text ih =>
    have hc : c ∉ special := h c List.mem_cons_self
    have htext := ih fun c hc => h c (List.mem_cons_of_mem _ hc)
    have hne : c ≠ '\\' := by
      intro hslash
      exact hc (hslash ▸ by decide)
    rw [unescape.eq_3 _ _ (fun _ _ _ hslash _ => hne hslash), if_neg hc, htext]
    rfl

theorem parseAssertion_of_plain {value : List Char} (h : ∀ c ∈ value, c ∉ special) :
    parseAssertion value = some (.equality (value.flatMap String.utf8EncodeChar)) := by
  have hstar : '*' ∉ value := fun hmem => h _ hmem (by decide)
  have hsplit : value.splitOn '*' = [value] := List.splitOn_eq_singleton hstar
  unfold parseAssertion
  rw [hsplit]
  simp only [unescape_of_plain h, Option.map_some]

/-- The filter that asks for a value without special characters is an equality. -/
theorem parseItem_of_plain {name value : List Char} (hne : name ≠ [])
    (hname : ∀ c ∈ name, isDescription c = true) (h : ∀ c ∈ value, c ∉ special) :
    parseItem ('(' :: (name ++ '=' :: value ++ [')'])) =
      some ⟨String.ofList name, .equality (value.flatMap String.utf8EncodeChar)⟩ := by
  have hlast : (name ++ '=' :: value ++ [')']).getLast? = some ')' := List.getLast?_concat
  have hbody : (name ++ '=' :: value ++ [')']).dropLast = name ++ '=' :: value :=
    List.dropLast_concat
  have htake : (name ++ '=' :: value).takeWhile isDescription = name := by
    rw [List.takeWhile_append_of_pos hname, List.takeWhile_cons_of_neg (by decide),
      List.append_nil]
  have hdrop : (name ++ '=' :: value).dropWhile isDescription = '=' :: value := by
    rw [List.dropWhile_append_of_pos hname, List.dropWhile_cons_of_neg (by decide)]
  simp only [parseItem, hlast, hbody, htake, hdrop, hne, ne_eq, not_false_eq_true, and_self,
    if_true, parseAssertion_of_plain h, Option.map_some]

end LdapFilters
