import MaxKey.ConvertedClaims

namespace MaxKey.OAuth2.StringUtils

def collectionToCommaDelimitedString (names : List String) : String := String.intercalate "," names

/-- The texts between the commas, without trimming. -/
def parts (text : String) : List String := (text.toList.splitOn ',').map String.ofList

def commaDelimitedListToSet (text : String) : List String :=
  if text = "" then [] else (parts text).dedup

variable {text name : String} {names : List String}

theorem parts_append (text rest : String) :
    parts (text ++ "," ++ rest) = parts text ++ parts rest := by
  have hchars : (text ++ "," ++ rest).toList = text.toList ++ ',' :: rest.toList := by simp
  unfold parts
  rw [hchars, List.splitOn_append_cons_self, List.map_append]

theorem comma_notMem_of_mem_parts (h : name ∈ parts text) : ',' ∉ name.toList := by
  obtain ⟨chars, hchars, rfl⟩ := List.mem_map.mp h
  rw [List.splitOn_eq_splitOnP] at hchars
  intro hcomma
  rw [String.toList_ofList] at hcomma
  have hnot := JavaText.forall_not_of_mem_splitOnP hchars ',' hcomma
  exact absurd hnot (by decide)

theorem parts_of_comma_notMem (h : ',' ∉ name.toList) : parts name = [name] := by
  have hnot : ∀ c ∈ name.toList, (c == ',') = false := by
    intro c hc
    rw [beq_eq_false_iff_ne]
    intro heq
    exact h (heq ▸ hc)
  unfold parts
  rw [List.splitOn_eq_splitOnP, List.splitOnP_eq_singleton hnot, List.map_singleton,
    String.ofList_toList]

theorem join_cons_cons (name next : String) (rest : List String) :
    collectionToCommaDelimitedString (name :: next :: rest) =
      name ++ "," ++ collectionToCommaDelimitedString (next :: rest) := by
  apply String.toList_injective
  simp [collectionToCommaDelimitedString]

/-- The parts of a joined list are those of its members. The induction is on the members. -/
theorem parts_join (h : names ≠ []) :
    parts (collectionToCommaDelimitedString names) = names.flatMap parts := by
  induction names with
  | nil => exact absurd rfl h
  | cons name rest ih =>
    cases rest with
    | nil => simp [collectionToCommaDelimitedString]
    | cons next rest =>
      rw [join_cons_cons, parts_append, ih (List.cons_ne_nil _ _)]
      rfl

theorem mem_commaDelimitedListToSet (h : text ≠ "") :
    name ∈ commaDelimitedListToSet text ↔ name ∈ parts text := by
  rw [commaDelimitedListToSet, if_neg h, List.mem_dedup]

theorem join_ne_empty (h : JavaText.hasText (some (collectionToCommaDelimitedString names))) :
    collectionToCommaDelimitedString names ≠ "" := by
  intro hempty
  rw [hempty] at h
  exact absurd h (by decide)

/-- A list with text in it comes back exactly if none of its members has a comma. -/
theorem sameSet_commaDelimitedListToSet
    (h : JavaText.hasText (some (collectionToCommaDelimitedString names))) :
    SameSet (commaDelimitedListToSet (collectionToCommaDelimitedString names)) names ↔
      ∀ name ∈ names, ',' ∉ name.toList := by
  have hne := join_ne_empty h
  have hnames : names ≠ [] := by
    intro hnil
    rw [hnil] at hne
    exact hne rfl
  constructor
  · intro hsame name hname
    have hmem := (hsame name).mpr hname
    rw [mem_commaDelimitedListToSet hne] at hmem
    exact comma_notMem_of_mem_parts hmem
  · intro hcommas name
    have hflat : names.flatMap parts = names := by
      rw [List.flatMap_congr fun name hname => parts_of_comma_notMem (hcommas name hname),
        List.flatMap_singleton']
    rw [mem_commaDelimitedListToSet hne, parts_join hnames, hflat]

/-- Only an empty list and a single blank member make a text without text. -/
theorem hasText_join : JavaText.hasText (some (collectionToCommaDelimitedString names)) ↔
    names ≠ [] ∧ ∀ name, names = [name] → JavaText.hasText (some name) := by
  cases names with
  | nil => simp [collectionToCommaDelimitedString, JavaText.hasText]
  | cons name rest =>
    cases rest with
    | nil => simp [collectionToCommaDelimitedString]
    | cons next rest =>
      refine iff_of_true ?_ ⟨List.cons_ne_nil _ _, by simp⟩
      have hcomma : ',' ∈ (collectionToCommaDelimitedString (name :: next :: rest)).toList := by
        rw [join_cons_cons]
        simp
      simp only [JavaText.hasText, Option.any_some, List.any_eq_true]
      exact ⟨',', hcomma, by decide⟩

/-- A list that a column with commas gives back: no member has a comma, and a member that is alone
is not blank. -/
structure KeepsList (names : List String) : Prop where
  commas : ∀ name ∈ names, ',' ∉ name.toList
  alone : ∀ name, names = [name] → JavaText.hasText (some name)

/-- The set that the constructor reads out of a column, where blank columns are skipped. -/
def readSet (column : Option String) (byDefault : List String) : List String :=
  if JavaText.hasText column then commaDelimitedListToSet (column.getD "") else byDefault

theorem sameSet_readSet_nil :
    SameSet (readSet (some (collectionToCommaDelimitedString names)) []) names ↔
      KeepsList names := by
  unfold readSet
  split_ifs with h
  · rw [Option.getD_some, sameSet_commaDelimitedListToSet h]
    exact ⟨fun hcommas => ⟨hcommas, (hasText_join.mp h).2⟩, KeepsList.commas⟩
  · constructor
    · intro hsame
      have hnil : names = [] := by
        apply List.eq_nil_iff_forall_not_mem.mpr
        intro name hname
        exact List.not_mem_nil ((hsame name).mpr hname)
      rw [hnil]
      exact ⟨by simp, by simp⟩
    · intro hkeeps
      have hnil : names = [] := by
        by_contra hne
        exact h (hasText_join.mpr ⟨hne, hkeeps.alone⟩)
      rw [hnil]
      exact fun name => Iff.rfl

/-- With a default in place of a blank column the list has to have a member. -/
theorem sameSet_readSet_cons {other : String} {rest : List String}
    (hdefault : ∀ name, JavaText.hasText (some name) = false → ¬SameSet (other :: rest) [name]) :
    SameSet (readSet (some (collectionToCommaDelimitedString names)) (other :: rest)) names ↔
      names ≠ [] ∧ KeepsList names := by
  unfold readSet
  split_ifs with h
  · have hnames := hasText_join.mp h
    rw [Option.getD_some, sameSet_commaDelimitedListToSet h]
    exact ⟨fun hcommas => ⟨hnames.1, hcommas, hnames.2⟩, fun hkeeps => hkeeps.2.commas⟩
  · refine iff_of_false ?_ fun hkeeps => h (hasText_join.mpr ⟨hkeeps.1, hkeeps.2.alone⟩)
    intro hsame
    rw [hasText_join, not_and_or, not_not, not_forall] at h
    rcases h with rfl | ⟨name, hname⟩
    · exact List.not_mem_nil ((hsame other).mp List.mem_cons_self)
    · rw [Classical.not_imp, Bool.not_eq_true] at hname
      obtain ⟨rfl, hblank⟩ := hname
      exact hdefault name hblank hsame

end MaxKey.OAuth2.StringUtils
