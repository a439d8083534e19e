import MaxKey.OAuth2

namespace MaxKey.OAuth2.OAuth2Utils

/-- The parts with blanks between them. -/
def formatParameterList : Option (List String) → Option String :=
  Option.map (String.intercalate " ")

/-- The characters between the parts of a list. -/
abbrev isSeparator (c : Char) : Bool := JavaText.isRegexSpace c || decide (c = '+')

/-- A scope as the grammar of the protocol has it. -/
structure ScopeToken (token : String) : Prop where
  ne_empty : token ≠ ""
  allowed : ∀ c ∈ token.toList, c.toNat = 0x21 ∨ (0x23 ≤ c.toNat ∧ c.toNat ≤ 0x5B) ∨
    (0x5D ≤ c.toNat ∧ c.toNat ≤ 0x7E)

instance (token : String) : Decidable (ScopeToken token) :=
  letI : Decidable (∀ c ∈ token.toList, c.toNat = 0x21 ∨ (0x23 ≤ c.toNat ∧ c.toNat ≤ 0x5B) ∨
      (0x5D ≤ c.toNat ∧ c.toNat ≤ 0x7E)) :=
    List.decidableBAll _ _
  decidable_of_iff (token ≠ "" ∧ ∀ c ∈ token.toList, c.toNat = 0x21 ∨
      (0x23 ≤ c.toNat ∧ c.toNat ≤ 0x5B) ∨ (0x5D ≤ c.toNat ∧ c.toNat ≤ 0x7E))
    ⟨fun h => ⟨h.1, h.2⟩, fun h => ⟨h.ne_empty, h.allowed⟩⟩

variable {values x : String} {scopes : List String}

theorem mem_parse_iff : x ∈ parseParameterList (some values) ↔
    JavaText.trim values ≠ "" ∧ x ∈ JavaText.splitAny isSeparator values := by
  unfold parseParameterList
  dsimp only
  split_ifs with hempty
  · simp [hempty]
  · rw [List.mem_dedup, List.mem_insertionSort]
    simp [hempty]

/-- A character that no trimming takes away keeps the text from being empty. -/
theorem trim_ne_empty {c : Char} (hc : c ∈ values.toList) (hblank : ¬c ≤ ' ') :
    JavaText.trim values ≠ "" := by
  intro hempty
  exact hblank (JavaText.le_of_trim_eq_empty hempty c hc)

theorem ScopeToken.blank_lt {token : String} (h : ScopeToken token) {c : Char}
    (hc : c ∈ token.toList) : 32 < c.toNat := by
  have hallowed := h.allowed c hc
  omega

/-- Of the separators the grammar allows the plus sign only. -/
theorem ScopeToken.not_separator {token : String} (h : ScopeToken token)
    (hplus : '+' ∉ token.toList) {c : Char} (hc : c ∈ token.toList) : isSeparator c = false := by
  have hlt := h.blank_lt hc
  have hspace : JavaText.isRegexSpace c = false := by
    have hblank : c ≠ ' ' := by
      intro heq
      rw [heq] at hlt
      exact absurd hlt (by decide)
    have hline : ¬c.toNat ≤ 13 := by omega
    simp [JavaText.isRegexSpace, hblank, hline]
  have hne : c ≠ '+' := by
    intro heq
    rw [heq] at hc
    exact hplus hc
  simp [isSeparator, hspace, hne]

/-- The characters of a formatted list. -/
theorem toList_format (scopes : List String) :
    (String.intercalate " " scopes).toList = [' '].intercalate (scopes.map String.toList) := by
  rw [String.toList_intercalate]
  rfl

theorem mem_format_of_mem {token : String} {c : Char} (htoken : token ∈ scopes)
    (hc : c ∈ token.toList) : c ∈ (String.intercalate " " scopes).toList := by
  rw [toList_format]
  induction scopes with
  | nil => cases htoken
  | cons first rest ih =>
    cases rest with
    | nil =>
      rw [List.mem_singleton.mp htoken] at hc
      simpa using hc
    | cons next rest =>
      rw [List.map_cons, List.map_cons, List.intercalate_cons_cons, List.append_assoc]
      rcases List.mem_cons.mp htoken with rfl | hrest
      · exact List.mem_append_left _ hc
      · exact List.mem_append_right _ (List.mem_append_right _ (ih hrest))

/-- Parts of the grammar without a plus sign come back as they went out. -/
theorem splitAny_format (hscopes : scopes ≠ []) (h : ∀ token ∈ scopes, ScopeToken token)
    (hplus : ∀ token ∈ scopes, '+' ∉ token.toList) :
    JavaText.splitAny isSeparator (String.intercalate " " scopes) = scopes := by
  obtain ⟨token, htoken⟩ := List.exists_mem_of_ne_nil scopes hscopes
  have hchars : token.toList ≠ [] := by
    intro hnil
    exact (h token htoken).ne_empty (String.toList_injective hnil)
  obtain ⟨c, hc⟩ := List.exists_mem_of_ne_nil _ hchars
  have hne : String.intercalate " " scopes ≠ "" := by
    intro hempty
    have hmem := mem_format_of_mem htoken hc
    rw [hempty] at hmem
    cases hmem
  have hparts : ∀ part ∈ scopes.map String.toList, ∀ c ∈ part, isSeparator c = false := by
    intro part hpart c hc
    obtain ⟨token, htoken, rfl⟩ := List.mem_map.mp hpart
    exact (h token htoken).not_separator (hplus token htoken) hc
  have hmap : scopes.map String.toList ≠ [] := by
    intro hnil
    exact hscopes (List.map_eq_nil_iff.mp hnil)
  -- no part is empty, so that none is dropped at the end
  have hlast : (scopes.map String.toList).rdropWhile List.isEmpty = scopes.map String.toList := by
    rw [List.rdropWhile_eq_self_iff]
    intro hl hempty
    obtain ⟨token, htoken, hlast⟩ := List.mem_map.mp (List.getLast_mem hl)
    rw [← hlast, List.isEmpty_iff] at hempty
    exact (h token htoken).ne_empty (String.toList_injective hempty)
  rw [JavaText.splitAny_of_ne_empty hne, toList_format,
    JavaText.splitOnP_intercalate (by decide) hmap hparts, hlast, List.map_map]
  have hid : String.ofList ∘ String.toList = id := by
    funext s
    exact String.ofList_toList
  rw [hid, List.map_id]

theorem mem_parse_format (h : ∀ token ∈ scopes, ScopeToken token)
    (hplus : ∀ token ∈ scopes, '+' ∉ token.toList) (x : String) :
    x ∈ parseParameterList (formatParameterList (some scopes)) ↔ x ∈ scopes := by
  show x ∈ parseParameterList (some (String.intercalate " " scopes)) ↔ x ∈ scopes
  rw [mem_parse_iff]
  by_cases hscopes : scopes = []
  · rw [hscopes]
    have hblank : JavaText.trim (String.intercalate " " []) = "" := by decide
    simp only [hblank, ne_eq, not_true_eq_false, false_and, List.not_mem_nil]
  · rw [splitAny_format hscopes h hplus]
    obtain ⟨token, htoken⟩ := List.exists_mem_of_ne_nil scopes hscopes
    have hchars : token.toList ≠ [] := by
      intro hnil
      exact (h token htoken).ne_empty (String.toList_injective hnil)
    obtain ⟨c, hc⟩ := List.exists_mem_of_ne_nil _ hchars
    have hlt := (h token htoken).blank_lt hc
    have htrim : JavaText.trim (String.intercalate " " scopes) ≠ "" := by
      apply trim_ne_empty (mem_format_of_mem htoken hc)
      intro hle
      have hle' : c.toNat ≤ 32 := hle
      omega
    exact and_iff_right htrim

/-- A part that holds a separator does not come back. -/
theorem not_mem_parse {token : String} {c : Char} (hc : c ∈ token.toList)
    (hsep : isSeparator c = true) : token ∉ parseParameterList (some values) := by
  intro htoken
  have hchars : isSeparator c = false := mem_parseParameterList htoken c hc
  rw [hsep] at hchars
  cases hchars

/-- Scopes of the grammar survive formatting and parsing exactly if none holds a plus sign. A text
is parsed without an empty part exactly if it is blank, or has no separator, at its beginning or
behind another one, from which on there is something else. -/
theorem parse_format_iff (scopes : List String) (h : ∀ token ∈ scopes, ScopeToken token)
    (values : String) :
    ((∀ x, x ∈ parseParameterList (formatParameterList (some scopes)) ↔ x ∈ scopes) ↔
        ∀ token ∈ scopes, '+' ∉ token.toList) ∧
      ("" ∉ parseParameterList (some values) ↔
        JavaText.trim values = "" ∨ ¬JavaText.Gap isSeparator values.toList) := by
  constructor
  · constructor
    · intro hround token htoken hplus
      exact not_mem_parse hplus (by decide) ((hround token).mpr htoken)
    · exact mem_parse_format h
  · rw [mem_parse_iff, not_and_or, not_not]
    by_cases hempty : JavaText.trim values = ""
    · simp [hempty]
    · have hne : values ≠ "" := by
        intro heq
        rw [heq] at hempty
        exact hempty (by decide)
      simp only [hempty, false_or, JavaText.empty_mem_splitAny hne]

theorem parse_format_openid :
    ((∀ x, x ∈ parseParameterList (formatParameterList (some ["openid", "read:user"])) ↔
        x ∈ ["openid", "read:user"]) ↔
      ∀ token ∈ ["openid", "read:user"], '+' ∉ token.toList) ∧
      ("" ∉ parseParameterList (some "openid profile") ↔
        JavaText.trim "openid profile" = "" ∨
          ¬JavaText.Gap isSeparator "openid profile".toList) :=
  parse_format_iff ["openid", "read:user"] (by decide +kernel) "openid profile"

/-- A scope with a plus sign comes back as two; a blank before the first scope as one more. -/
theorem parse_format_plus :
    (¬ ∀ scopes : List String, (∀ token ∈ scopes, ScopeToken token) →
      ∀ x, x ∈ parseParameterList (formatParameterList (some scopes)) ↔ x ∈ scopes) ∧
      ¬ ∀ values : String, "" ∉ parseParameterList (some values) := by
  constructor
  · intro hround
    have hplus := (hround ["read+write"] (by decide +kernel) "read").mp (by decide +kernel)
    exact absurd hplus (by decide)
  · intro hparts
    exact hparts " read" (by decide +kernel)

end MaxKey.OAuth2.OAuth2Utils
