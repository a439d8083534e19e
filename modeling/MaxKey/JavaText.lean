import Mathlib.Data.List.DropRight
import Mathlib.Data.List.Infix
import Mathlib.Data.List.Lex
import Mathlib.Data.Nat.Notation

namespace JavaText

/-- The first position at which `pat` occurs, `none` where indexOf answers -1. -/
def indexOf (pat : List Char) : List Char → Option ℕ
  | [] => if pat = [] then some 0 else none
  | c :: s => if pat.isPrefixOf (c :: s) then some 0 else (indexOf pat s).map (· + 1)

def contains (s pat : String) : Bool := (indexOf pat.toList s.toList).isSome

def startsWith (s pat : String) : Bool := pat.toList.isPrefixOf s.toList

/-- Splitting at a single character: the trailing empty parts are dropped, and a text
without the separator is its own single part. -/
def splitChars (sep : Char) (s : List Char) : List (List Char) :=
  if sep ∈ s then ((s.splitOn sep).reverse.dropWhile List.isEmpty).reverse else [s]

def split (sep : Char) (s : String) : List String := (splitChars sep s.toList).map String.ofList

/-- Splitting at every character of a class; the trailing empty parts are dropped. -/
def splitAny (sep : Char → Bool) (s : String) : List String :=
  if s.toList.any sep then
    ((s.toList.splitOnP sep).reverse.dropWhile List.isEmpty).reverse.map String.ofList
  else [s]

/-- The characters of the pattern class for blanks: blank, tab and line ends. -/
def isRegexSpace (c : Char) : Bool := c = ' ' || (9 ≤ c.toNat && c.toNat ≤ 13)

/-- Character.isWhitespace. -/
def isWhitespace (c : Char) : Bool :=
  (9 ≤ c.toNat && c.toNat ≤ 13) || (0x1C ≤ c.toNat && c.toNat ≤ 0x20) || c.toNat = 0x1680 ||
    (0x2000 ≤ c.toNat && c.toNat ≤ 0x200A && c.toNat ≠ 0x2007) || c.toNat = 0x2028 ||
    c.toNat = 0x2029 || c.toNat = 0x205F || c.toNat = 0x3000

def hasText (s : Option String) : Bool := s.any fun s => s.toList.any fun c => !isWhitespace c

def utf16 (s : String) : List ℕ :=
  s.toList.flatMap fun c =>
    if c.toNat < 0x10000 then [c.toNat]
    else [0xD800 + (c.toNat - 0x10000) / 0x400, 0xDC00 + (c.toNat - 0x10000) % 0x400]

/-- The natural order of strings: by UTF-16 code units. -/
def textLe (s t : String) : Prop := utf16 s ≤ utf16 t

instance : DecidableRel textLe := fun s t => inferInstanceAs (Decidable (utf16 s ≤ utf16 t))

/-- Every code point up to the blank is trimmed, at both ends. -/
def trim (s : String) : String :=
  String.ofList (((s.toList.dropWhile (· ≤ ' ')).reverse.dropWhile (· ≤ ' ')).reverse)

/-- The characters from `b` up to `e`, or `none` where substring throws. -/
def substring (s : String) (b e : ℕ) : Option String :=
  if b ≤ e ∧ e ≤ s.toList.length then some (String.ofList ((s.toList.take e).drop b)) else none

/-- The lower-case ASCII letter that equalsIgnoreCase compares a character as. The dotted
and dotless i, the long s and the Kelvin sign meet ASCII letters under case mapping. -/
def foldCase (c : Char) : Char :=
  if c = 'İ' ∨ c = 'ı' then 'i' else if c = 'ſ' then 's' else if c = 'K' then 'k' else c.toLower

/-- Case-insensitive equality with a text of ASCII characters. -/
def equalsIgnoreCase (s t : String) : Bool := s.toList.map foldCase = t.toList.map foldCase

theorem equalsIgnoreCase_self (s : String) : equalsIgnoreCase s s = true := decide_eq_true rfl

/-- Texts that are the same, ignoring case, compare alike. -/
theorem equalsIgnoreCase_congr {s t : String} (h : equalsIgnoreCase s t = true) (u : String) :
    equalsIgnoreCase s u = equalsIgnoreCase t u := by
  have hfold : s.toList.map foldCase = t.toList.map foldCase := of_decide_eq_true h
  simp only [equalsIgnoreCase, hfold]

theorem indexOf_isSome (pat s : List Char) : (indexOf pat s).isSome ↔ pat <:+: s := by
  induction s with
  | nil => by_cases h : pat = [] <;> simp [indexOf, h]
  | cons c s ih =>
    by_cases h : pat.isPrefixOf (c :: s)
    · rw [indexOf, if_pos h]
      exact iff_of_true rfl (List.isPrefixOf_iff_prefix.mp h).isInfix
    · rw [indexOf, if_neg h, Option.isSome_map, ih, List.infix_cons_iff]
      rw [List.isPrefixOf_iff_prefix] at h
      exact ⟨.inr, fun hs => hs.resolve_left h⟩

theorem contains_iff (s pat : String) : contains s pat ↔ pat.toList <:+: s.toList :=
  indexOf_isSome _ _

/-- The first part, when one is left, is what stands before the first separator. -/
theorem head_split {sep : Char} {s a part : String} {b : List Char}
    (hs : s.toList = a.toList ++ sep :: b) (ha : sep ∉ a.toList)
    (h : (split sep s)[0]? = some part) : part = a := by
  have hmem : sep ∈ s.toList := by simp [hs]
  have hparts : s.toList.splitOn sep = a.toList :: b.splitOn sep := by
    rw [hs]
    exact List.splitOn_append_cons_self_of_not_mem ha b
  obtain ⟨dropped, hprefix⟩ : splitChars sep s.toList <+: a.toList :: b.splitOn sep := by
    rw [splitChars, if_pos hmem, ← hparts]
    exact List.rdropWhile_prefix _ _
  rw [split, List.getElem?_map, Option.map_eq_some_iff] at h
  obtain ⟨chars, hchars, rfl⟩ := h
  rw [← List.head?_eq_getElem?] at hchars
  have hfirst := congrArg List.head? hprefix
  rw [List.head?_append, hchars] at hfirst
  have hsame : chars = a.toList := Option.some.inj hfirst
  rw [hsame, String.ofList_toList]

/-- Nothing is left of a text only where every character is trimmed. -/
theorem le_of_trim_eq_empty {s : String} (h : trim s = "") : ∀ c ∈ s.toList, c ≤ ' ' := by
  have hchars := congrArg String.toList h
  rw [trim, String.toList_ofList, String.toList_empty] at hchars
  have hdropped : ∀ c ∈ s.toList.dropWhile (· ≤ ' '), decide (c ≤ ' ') = true :=
    List.rdropWhile_eq_nil_iff.mp hchars
  intro c hc
  rw [← List.takeWhile_append_dropWhile (p := fun c => decide (c ≤ ' ')) (l := s.toList),
    List.mem_append] at hc
  rcases hc with htaken | hrest
  · have htrue := List.mem_takeWhile_imp (p := fun c => decide (c ≤ ' ')) htaken
    exact of_decide_eq_true htrue
  · exact of_decide_eq_true (hdropped c hrest)

theorem toList_trim (s : String) :
    (trim s).toList = (s.toList.dropWhile (· ≤ ' ')).rdropWhile (· ≤ ' ') :=
  String.toList_ofList

/-- What is left begins and ends with no character to trim. -/
theorem trim_trim (s : String) : trim (trim s) = trim s := by
  apply String.toList_injective
  have hhead : (trim s).toList.dropWhile (· ≤ ' ') = (trim s).toList := by
    rw [List.dropWhile_eq_self_iff]
    intro hpos
    have hinit : (trim s).toList <+: s.toList.dropWhile (· ≤ ' ') := by
      rw [toList_trim]
      exact List.rdropWhile_prefix _ _
    have hself := List.dropWhile_eq_self_iff.mp
      (List.dropWhile_idempotent (fun c : Char => decide (c ≤ ' ')) s.toList)
    rw [hinit.getElem hpos]
    exact hself (lt_of_lt_of_le hpos hinit.length_le)
  rw [toList_trim, hhead, toList_trim, List.rdropWhile_idempotent]

theorem mem_of_mem_trim {s : String} {c : Char} (h : c ∈ (trim s).toList) : c ∈ s.toList := by
  rw [toList_trim] at h
  have hdrop := (List.rdropWhile_prefix _ _).subset h
  exact (List.dropWhile_suffix _).subset hdrop

theorem splitAny_of_forall_not {sep : Char → Bool} {s : String}
    (h : ∀ c ∈ s.toList, sep c = false) : splitAny sep s = [s] := by
  have hany : ¬(s.toList.any sep = true) := by
    rw [List.any_eq_true]
    rintro ⟨c, hc, hsep⟩
    rw [h c hc] at hsep
    cases hsep
  rw [splitAny, if_neg hany]

theorem forall_not_of_mem_splitOnP {sep : Char → Bool} {s part : List Char}
    (h : part ∈ s.splitOnP sep) : ∀ c ∈ part, sep c = false := by
  induction s generalizing part with
  | nil =>
    rw [List.splitOnP_nil, List.mem_singleton] at h
    rw [h]
    intro c hc
    cases hc
  | cons x s ih =>
    rw [List.splitOnP_cons_eq_if_modifyHead] at h
    split_ifs at h with hx
    · rcases List.mem_cons.mp h with hnil | htail
      · rw [hnil]
        intro c hc
        cases hc
      · exact ih htail
    · cases hparts : s.splitOnP sep with
      | nil => exact absurd hparts (List.splitOnP_ne_nil sep s)
      | cons first rest =>
        rw [hparts, List.modifyHead_cons] at h
        rw [hparts] at ih
        rcases List.mem_cons.mp h with hhead | htail
        · rw [hhead]
          intro c hc
          rcases List.mem_cons.mp hc with heq | hfirst
          · rw [heq]
            exact Bool.eq_false_iff.mpr hx
          · exact ih List.mem_cons_self c hfirst
        · exact ih (List.mem_cons_of_mem first htail)

/-- The parts hold no separator. -/
theorem forall_not_of_mem_splitAny {sep : Char → Bool} {s part : String}
    (h : part ∈ splitAny sep s) : ∀ c ∈ part.toList, sep c = false := by
  unfold splitAny at h
  split_ifs at h with hany
  · obtain ⟨chars, hchars, rfl⟩ := List.mem_map.mp h
    have hkept := (List.dropWhile_sublist List.isEmpty).subset (List.mem_reverse.mp hchars)
    rw [String.toList_ofList]
    exact forall_not_of_mem_splitOnP (List.mem_reverse.mp hkept)
  · rw [List.mem_singleton.mp h]
    intro c hc
    by_contra hsep
    exact hany (List.any_eq_true.mpr ⟨c, hc, Bool.not_eq_false _ ▸ hsep⟩)

/-- Parts without separators can be read back from their joined form. -/
theorem splitOnP_intercalate {sep : Char → Bool} {c : Char} {parts : List (List Char)}
    (hc : sep c = true) (hparts : parts ≠ []) (h : ∀ part ∈ parts, ∀ x ∈ part, sep x = false) :
    ([c].intercalate parts).splitOnP sep = parts := by
  induction parts with
  | nil => exact absurd rfl hparts
  | cons part rest ih =>
    have hpart := h part List.mem_cons_self
    cases rest with
    | nil =>
      rw [List.intercalate_singleton]
      exact List.splitOnP_eq_singleton hpart
    | cons next rest =>
      have hrest := ih (List.cons_ne_nil _ _) fun x hx => h x (List.mem_cons_of_mem part hx)
      rw [List.intercalate_cons_cons, List.append_assoc, List.singleton_append,
        List.splitOnP_append_cons_of_forall_mem hpart c hc, hrest]

/-- Only the empty text is no part of its own. -/
theorem splitAny_of_ne_empty {sep : Char → Bool} {s : String} (h : s ≠ "") :
    splitAny sep s = ((s.toList.splitOnP sep).rdropWhile List.isEmpty).map String.ofList := by
  unfold splitAny
  split_ifs with hany
  · rfl
  · have hnone : ∀ c ∈ s.toList, sep c = false := by
      intro c hc
      rw [Bool.eq_false_iff]
      intro hsep
      exact hany (List.any_eq_true.mpr ⟨c, hc, hsep⟩)
    have hchars : ¬s.toList.isEmpty = true := by
      intro hempty
      apply h
      apply String.toList_injective
      exact List.isEmpty_iff.mp hempty
    rw [List.splitOnP_eq_singleton hnone, List.rdropWhile_singleton, if_neg hchars]
    simp

section Gaps

variable {sep : Char → Bool} {c : Char} {s : List Char}

/-- From a separator on, which stands at the beginning or behind another one, there is something
else. -/
def Gap (sep : Char → Bool) (s : List Char) : Prop :=
  ∃ p q, s = p ++ q ∧ (∀ c ∈ p.getLast?, sep c = true) ∧ (∃ c ∈ q.head?, sep c = true) ∧
    ∃ c ∈ q, sep c = false

/-- The same behind a first part that is not empty. -/
def LaterGap (sep : Char → Bool) (s : List Char) : Prop :=
  ∃ p q, s = p ++ q ∧ (∃ c ∈ p.getLast?, sep c = true) ∧ (∃ c ∈ q.head?, sep c = true) ∧
    ∃ c ∈ q, sep c = false

theorem not_gap_nil : ¬Gap sep [] := by
  rintro ⟨p, q, hs, -, ⟨c, hc, -⟩, -⟩
  rw [(List.nil_eq_append_iff.mp hs).2] at hc
  cases hc

theorem not_laterGap_nil : ¬LaterGap sep [] := by
  rintro ⟨p, q, hs, -, ⟨c, hc, -⟩, -⟩
  rw [(List.nil_eq_append_iff.mp hs).2] at hc
  cases hc

theorem gap_cons_of_sep (hc : sep c = true) : Gap sep (c :: s) ↔ ∃ x ∈ s, sep x = false := by
  constructor
  · rintro ⟨p, q, hs, -, -, x, hx, hsep⟩
    have hmem : x ∈ c :: s := hs ▸ List.mem_append_right p hx
    refine ⟨x, (List.mem_cons.mp hmem).resolve_left ?_, hsep⟩
    intro heq
    rw [heq, hc] at hsep
    cases hsep
  · rintro ⟨x, hx, hsep⟩
    refine ⟨[], c :: s, rfl, ?_, ⟨c, rfl, hc⟩, x, List.mem_cons_of_mem c hx, hsep⟩
    intro y hy
    cases hy

theorem laterGap_cons_of_sep (hc : sep c = true) : LaterGap sep (c :: s) ↔ Gap sep s := by
  constructor
  · rintro ⟨p, q, hs, ⟨y, hy, hsep⟩, hq⟩
    cases p with
    | nil => cases hy
    | cons x p =>
      refine ⟨p, q, (List.cons.inj hs).2, ?_, hq⟩
      intro z hz
      rw [List.getLast?_cons, Option.mem_def.mp hz] at hy
      have hlast : z = y := Option.some.inj hy
      rw [hlast]
      exact hsep
  · rintro ⟨p, q, rfl, hp, hq⟩
    refine ⟨c :: p, q, rfl, ?_, hq⟩
    rw [List.getLast?_cons]
    cases hlast : p.getLast? with
    | none => exact ⟨c, rfl, hc⟩
    | some y => exact ⟨y, rfl, hp y hlast⟩

theorem laterGap_cons_of_not (hc : sep c = false) : LaterGap sep (c :: s) ↔ LaterGap sep s := by
  constructor
  · rintro ⟨p, q, hs, ⟨y, hy, hsep⟩, hq⟩
    cases p with
    | nil => cases hy
    | cons x p =>
      obtain ⟨rfl, htail⟩ := List.cons.inj hs
      refine ⟨p, q, htail, ?_, hq⟩
      rw [List.getLast?_cons] at hy
      cases hlast : p.getLast? with
      | none =>
        rw [hlast] at hy
        have hfirst : c = y := Option.some.inj hy
        rw [hfirst, hsep] at hc
        cases hc
      | some z =>
        rw [hlast] at hy
        have hlast' : z = y := Option.some.inj hy
        rw [hlast']
        exact ⟨y, rfl, hsep⟩
  · rintro ⟨p, q, rfl, ⟨y, hy, hsep⟩, hq⟩
    refine ⟨c :: p, q, rfl, ⟨y, ?_, hsep⟩, hq⟩
    rw [List.getLast?_cons, Option.mem_def.mp hy]
    rfl

theorem gap_cons_of_not (hc : sep c = false) : Gap sep (c :: s) ↔ LaterGap sep s := by
  constructor
  · rintro ⟨p, q, hs, hp, hq⟩
    apply (laterGap_cons_of_not hc).mp
    refine ⟨p, q, hs, ?_, hq⟩
    cases hlast : p.getLast? with
    | none =>
      -- nothing before the separator: it would be the first character
      obtain ⟨⟨x, hx, hsep⟩, -⟩ := hq
      rw [List.getLast?_eq_none_iff.mp hlast, List.nil_append] at hs
      rw [← hs] at hx
      rw [← Option.some.inj hx, hc] at hsep
      cases hsep
    | some y => exact ⟨y, rfl, hp y hlast⟩
  · intro h
    obtain ⟨p, q, hs, ⟨y, hy, hsep⟩, hq⟩ := (laterGap_cons_of_not hc).mpr h
    refine ⟨p, q, hs, ?_, hq⟩
    intro z hz
    rw [← Option.some.inj (hy.symm.trans hz)]
    exact hsep

theorem rdropWhile_cons {α : Type*} (p : α → Bool) (x : α) (l : List α) :
    (x :: l).rdropWhile p =
      if l.rdropWhile p = [] then (if p x then [] else [x]) else x :: l.rdropWhile p := by
  induction l using List.reverseRecOn with
  | nil => simp [List.rdropWhile_singleton]
  | append_singleton l y ih =>
    rw [← List.cons_append, List.rdropWhile_concat, List.rdropWhile_concat]
    by_cases hy : p y
    · rw [if_pos hy, if_pos hy, ih]
    · simp [hy]

/-- The parts have something in them where the text has something but separators. -/
theorem rdropWhile_splitOnP_eq_nil :
    (s.splitOnP sep).rdropWhile List.isEmpty = [] ↔ ¬∃ x ∈ s, sep x = false := by
  rw [List.rdropWhile_eq_nil_iff]
  induction s with
  | nil => simp [List.splitOnP_nil]
  | cons c s ih =>
    rw [List.splitOnP_cons_eq_if_modifyHead]
    split_ifs with hc
    · simp only [List.mem_cons, forall_eq_or_imp, List.isEmpty_nil, true_and, ih]
      simp [hc]
    · cases hparts : s.splitOnP sep with
      | nil => exact absurd hparts (List.splitOnP_ne_nil sep s)
      | cons first rest => simp [Bool.eq_false_iff.mpr hc]

/-- The induction is on the text, for the parts together with those behind the first one. -/
theorem nil_mem_parts : (([] ∈ (s.splitOnP sep).rdropWhile List.isEmpty) ↔ Gap sep s) ∧
    (([] ∈ (s.splitOnP sep).tail.rdropWhile List.isEmpty) ↔ LaterGap sep s) := by
  induction s with
  | nil => simp [List.splitOnP_nil, List.rdropWhile_singleton, not_gap_nil, not_laterGap_nil]
  | cons c s ih =>
    rw [List.splitOnP_cons_eq_if_modifyHead]
    split_ifs with hc
    · rw [gap_cons_of_sep hc, laterGap_cons_of_sep hc, List.tail_cons, rdropWhile_cons]
      refine ⟨?_, ih.1⟩
      by_cases hrest : (s.splitOnP sep).rdropWhile List.isEmpty = []
      · have hnone := rdropWhile_splitOnP_eq_nil.mp hrest
        simp [hrest, hnone]
      · have hsome := not_not.mp (rdropWhile_splitOnP_eq_nil.not.mp hrest)
        simp [hrest, hsome]
    · have hfalse := Bool.eq_false_iff.mpr hc
      rw [gap_cons_of_not hfalse, laterGap_cons_of_not hfalse]
      cases hparts : s.splitOnP sep with
      | nil => exact absurd hparts (List.splitOnP_ne_nil sep s)
      | cons first rest =>
        rw [hparts] at ih
        rw [List.modifyHead_cons, List.tail_cons, rdropWhile_cons]
        refine ⟨?_, ih.2⟩
        rw [← ih.2, List.tail_cons]
        by_cases hrest : rest.rdropWhile List.isEmpty = []
        · simp [hrest]
        · simp [hrest]

/-- Which texts are split into parts one of which is empty. -/
theorem empty_mem_splitAny {s : String} (h : s ≠ "") :
    "" ∈ splitAny sep s ↔ Gap sep s.toList := by
  rw [splitAny_of_ne_empty h, ← nil_mem_parts.1, List.mem_map]
  constructor
  · rintro ⟨part, hpart, hempty⟩
    have hnil : part = [] := by simpa using congrArg String.toList hempty
    rwa [hnil] at hpart
  · intro hnil
    exact ⟨[], hnil, rfl⟩

end Gaps

/-- Texts that do not hold the separator can be read back from their joined form. -/
theorem append_sep_inj {sep : Char} {a b c d : List Char} (ha : sep ∉ a) (hc : sep ∉ c)
    (h : a ++ sep :: b = c ++ sep :: d) : a = c ∧ b = d := by
  induction a generalizing c with
  | nil =>
    cases c with
    | nil => exact ⟨rfl, (List.cons.inj h).2⟩
    | cons y c => exact absurd (List.cons.inj h).1 (fun e => hc (e ▸ List.mem_cons_self))
  | cons x a ih =>
    cases c with
    | nil => exact absurd (List.cons.inj h).1 (fun e => ha (e ▸ List.mem_cons_self))
    | cons y c =>
      simp only [List.cons_append, List.cons.injEq] at h
      simp only [List.mem_cons, not_or] at ha hc
      obtain ⟨hac, hbd⟩ := ih ha.2 hc.2 h.2
      exact ⟨by rw [h.1, hac], hbd⟩

end JavaText
