import MaxKey.Scanning

namespace MaxKey.XmlReader
open Scanning

/-! ### Characters and names -/

def inRanges (ranges : List (ℕ × ℕ)) (c : Char) : Bool :=
  ranges.any fun range => range.1 ≤ c.toNat ∧ c.toNat ≤ range.2

/-- The characters that a document may have at all. -/
def isChar : Char → Bool :=
  inRanges [(0x9, 0xA), (0xD, 0xD), (0x20, 0xD7FF), (0xE000, 0xFFFD), (0x10000, 0x10FFFF)]

def isSpace (c : Char) : Bool := c = ' ' ∨ c = '\t' ∨ c = '\n' ∨ c = '\r'

def isNameStart : Char → Bool :=
  inRanges [(0x41, 0x5A), (0x5F, 0x5F), (0x61, 0x7A), (0xC0, 0xD6), (0xD8, 0xF6), (0xF8, 0x2FF),
    (0x370, 0x37D), (0x37F, 0x1FFF), (0x200C, 0x200D), (0x2070, 0x218F), (0x2C00, 0x2FEF),
    (0x3001, 0xD7FF), (0xF900, 0xFDCF), (0xFDF0, 0xFFFD), (0x10000, 0xEFFFF)]

def isNameChar (c : Char) : Bool :=
  isNameStart c ||
    inRanges [(0x2D, 0x2E), (0x30, 0x39), (0xB7, 0xB7), (0x300, 0x36F), (0x203F, 0x2040)] c

/-- A name without a colon. -/
def isNCName (name : List Char) : Bool := name.head?.any isNameStart && name.all isNameChar

/-- A name, or a prefix, a colon and a name. -/
def isQName (name : List Char) : Bool :=
  if ':' ∈ name then
    isNCName (name.takeWhile (· ≠ ':')) && isNCName (name.dropWhile (· ≠ ':')).tail
  else isNCName name

theorem isNCName_iff {name : List Char} : isNCName name ↔
    (∃ c cs, name = c :: cs ∧ isNameStart c) ∧ ∀ c ∈ name, isNameChar c := by
  unfold isNCName
  rw [Bool.and_eq_true, List.all_eq_true]
  apply and_congr_left'
  cases name with
  | nil => simp
  | cons c cs => simp

theorem isQName_append {first second : List Char} (h : ':' ∉ first) :
    isQName (first ++ ':' :: second) = (isNCName first && isNCName second) := by
  unfold isQName
  rw [if_pos (List.mem_append_right first List.mem_cons_self), takeWhile_append_cons h,
    dropWhile_append_cons h, List.tail_cons]

def isNameOrColon (c : Char) : Bool := isNameChar c || c = ':'

/-- A name begins as one, and goes on with what a name may have. -/
theorem of_isQName {name : List Char} (h : isQName name) :
    (∃ c cs, name = c :: cs ∧ isNameStart c) ∧ ∀ c ∈ name, isNameOrColon c := by
  have hname : ∀ {c}, isNameChar c → isNameOrColon c := fun hc => by
    unfold isNameOrColon
    rw [hc, Bool.true_or]
  by_cases hcolon : ':' ∈ name
  · obtain ⟨first, second, rfl, hfirst⟩ := List.eq_append_cons_of_mem hcolon
    rw [isQName_append hfirst, Bool.and_eq_true, isNCName_iff, isNCName_iff] at h
    obtain ⟨⟨⟨c, cs, rfl, hstart⟩, hbefore⟩, -, hafter⟩ := h
    refine ⟨⟨c, cs ++ ':' :: second, rfl, hstart⟩, ?_⟩
    intro d hd
    rcases List.mem_append.mp hd with hd | hd
    · exact hname (hbefore d hd)
    · rcases List.mem_cons.mp hd with rfl | hd
      · rfl
      · exact hname (hafter d hd)
  · unfold isQName at h
    rw [if_neg hcolon, isNCName_iff] at h
    exact ⟨h.1, fun c hc => hname (h.2 c hc)⟩

/-! ### Text -/

def number (base : ℕ) (digits : List Char) : Option ℕ :=
  if digits = [] then none
  else digits.foldlM (fun value c => (digit base c).map (value * base + ·)) 0

/-- What a reference stands for, by what is between its ampersand and its semicolon. -/
def reference : List Char → Option Char
  | '#' :: 'x' :: digits =>
    (number 16 digits).bind fun n =>
      if n.isValidChar ∧ isChar (Char.ofNat n) then some (Char.ofNat n) else none
  | '#' :: digits =>
    (number 10 digits).bind fun n =>
      if n.isValidChar ∧ isChar (Char.ofNat n) then some (Char.ofNat n) else none
  | ['l', 't'] => some '<'
  | ['g', 't'] => some '>'
  | ['a', 'm', 'p'] => some '&'
  | ['a', 'p', 'o', 's'] => some '\x27'
  | ['q', 'u', 'o', 't'] => some '"'
  | _ => none

inductive TextState
  | plain
  | afterReturn
  | reference (name : List Char)
  deriving DecidableEq

/-- A line ends with a single character, and in a value every white character is a blank. -/
def plainStep (inValue : Bool) (c : Char) : Option (TextState × Option Char) :=
  if c = '&' then some (.reference [], none)
  else if c = '\r' then some (.afterReturn, some (if inValue then ' ' else '\n'))
  else if inValue ∧ (c = '\t' ∨ c = '\n') then some (.plain, some ' ')
  else if isChar c then some (.plain, some c)
  else none

def TextState.step (inValue : Bool) (s : TextState) (c : Char) :
    Option (TextState × Option Char) :=
  match s with
  | .plain => plainStep inValue c
  | .afterReturn => if c = '\n' then some (.plain, none) else plainStep inValue c
  | .reference name =>
    if c = ';' then (XmlReader.reference name).map fun d => (.plain, some d)
    else some (.reference (name ++ [c]), none)

def textDecoder (inValue : Bool) : Decoder TextState where
  step := TextState.step inValue
  accepts s := s = .plain ∨ s = .afterReturn

/-- The characters that stand for themselves between tags, and in a value. -/
def IsPlain (inValue : Bool) (c : Char) : Prop :=
  c ≠ '&' ∧ c ≠ '\r' ∧ ¬(inValue ∧ (c = '\t' ∨ c = '\n')) ∧ isChar c

instance (inValue : Bool) : DecidablePred (IsPlain inValue) := fun _ =>
  inferInstanceAs (Decidable (_ ∧ _ ∧ ¬_ ∧ _))

/-- What may stand between two tags as it is. -/
def IsText (text : List Char) : Prop :=
  '<' ∉ text ∧ ¬[']', ']', '>'] <:+: text ∧ ∀ c ∈ text, IsPlain false c

/-- What may stand between double quotes as it is. -/
def IsValue (text : List Char) : Prop := '<' ∉ text ∧ '"' ∉ text ∧ ∀ c ∈ text, IsPlain true c

theorem plainStep_self {inValue : Bool} {c : Char} {t : TextState}
    (h : plainStep inValue c = some (t, some c)) : t = .plain ∧ IsPlain inValue c := by
  unfold plainStep at h
  by_cases hreference : c = '&'
  · rw [if_pos hreference] at h
    cases h
  · by_cases hreturn : c = '\r'
    · subst hreturn
      rw [if_neg hreference, if_pos rfl] at h
      cases inValue <;> cases h
    · rw [if_neg hreference, if_neg hreturn] at h
      split_ifs at h with hspace hchar
      · have hblank : ' ' = c := Option.some.inj (Prod.mk.inj (Option.some.inj h)).2
        rw [← hblank] at hspace
        exact absurd hspace.2 (by decide)
      · exact ⟨(Prod.mk.inj (Option.some.inj h)).1.symm, hreference, hreturn, hspace, hchar⟩

theorem decode_iff {inValue : Bool} {text : List Char} :
    (textDecoder inValue).decode .plain text = some text ↔ ∀ c ∈ text, IsPlain inValue c := by
  have hself : ∀ c t, (textDecoder inValue).step .plain c = some (t, some c) → t = .plain :=
    fun c t h => (plainStep_self h).1
  rw [Decoder.decode_eq_self_iff (by rfl) hself]
  apply forall₂_congr
  intro c _
  constructor
  · intro h
    exact (plainStep_self h).2
  · intro ⟨hreference, hreturn, hspace, hchar⟩
    show plainStep inValue c = some (.plain, some c)
    unfold plainStep
    rw [if_neg hreference, if_neg hreturn, if_neg hspace, if_pos hchar]

/-! ### Documents -/

abbrev Attributes := List (List Char × List Char)

/-- What a streaming reader reports. Comments, CDATA sections, processing instructions and
declarations are refused. -/
inductive Event
  | startElement (name : List Char) (attributes : Attributes)
  | endElement (name : List Char)
  | characters (text : List Char)
  deriving DecidableEq

/-- The open elements, the innermost first, and the start tag that is being read, if any. -/
structure State where
  elements : List (List Char) := []
  rootSeen : Bool := false
  tag : Option (List Char × Attributes) := none
  deriving DecidableEq

def name (text : List Char) : List Char := text.takeWhile isNameOrColon

def afterName (text : List Char) : List Char := text.dropWhile isNameOrColon

def skip (text : List Char) : List Char := text.dropWhile isSpace

/-- What follows the character, if the text begins with it. -/
def after (c : Char) (text : List Char) : Option (List Char) :=
  if text.head? = some c then some text.tail else none

namespace State

def endTag (s : State) (text : List Char) : Option (List Event × State × List Char) :=
  if s.elements.head? = some (name text) then
    (after '>' (skip (afterName text))).map fun rest =>
      ([.endElement (name text)], { s with elements := s.elements.tail }, rest)
  else none

/-- A document has a single root. -/
def startTag (s : State) (text : List Char) : Option (List Event × State × List Char) :=
  if isQName (name text) ∧ (s.elements ≠ [] ∨ s.rootSeen = false) then
    some ([], { s with rootSeen := true, tag := some (name text, []) }, afterName text)
  else none

/-- Text up to the next tag. There is none but white space outside the root. -/
def characters (s : State) (text : List Char) : Option (List Event × State × List Char) :=
  if s.elements = [] then
    if (text.takeWhile (· ≠ '<')).all isSpace then some ([], s, text.dropWhile (· ≠ '<')) else none
  else if [']', ']', '>'] <:+: text.takeWhile (· ≠ '<') then none
  else
    ((textDecoder false).decode .plain (text.takeWhile (· ≠ '<'))).map fun decoded =>
      ([.characters decoded], s, text.dropWhile (· ≠ '<'))

def readAttribute (s : State) (tag : List Char × Attributes) (text : List Char) :
    Option (List Event × State × List Char) := do
  let value ← after '=' (skip (afterName text))
  let quote ← (skip value).head?
  let rest ← after quote ((skip value).tail.dropWhile (· ≠ quote))
  let raw := (skip value).tail.takeWhile (· ≠ quote)
  if (quote = '"' ∨ quote = '\x27') ∧ '<' ∉ raw ∧ isQName (name text) ∧
      name text ∉ tag.2.map Prod.fst then
    let decoded ← (textDecoder true).decode .plain raw
    return ([], { s with tag := some (tag.1, tag.2 ++ [(name text, decoded)]) }, rest)
  else none

/-- Inside a start tag. An empty element is reported like one with an end tag. -/
def inTag (s : State) (tag : List Char × Attributes) (c : Char) (text : List Char) :
    Option (List Event × State × List Char) :=
  if c = '>' then
    some ([.startElement tag.1 tag.2], { s with elements := tag.1 :: s.elements, tag := none }, text)
  else if c = '/' then
    (after '>' text).map fun rest =>
      ([.startElement tag.1 tag.2, .endElement tag.1], { s with tag := none }, rest)
  else if isSpace c then
    if (skip text).head? = some '>' ∨ (skip text).head? = some '/' then some ([], s, skip text)
    else s.readAttribute tag (skip text)
  else none

def inContent (s : State) (c : Char) (text : List Char) : Option (List Event × State × List Char) :=
  if c = '<' then
    if text.head? = some '/' then s.endTag text.tail else s.startTag text
  else s.characters (c :: text)

end State

def next (s : State) : List Char → Option (List Event × State × List Char)
  | [] => none
  | c :: cs => s.tag.elim (s.inContent c cs) fun tag => s.inTag tag c cs

variable {s t : State} {text rest : List Char} {es : List Event}

theorem after_eq_some {c : Char} : after c text = some rest ↔ text = c :: rest := by
  unfold after
  cases text with
  | nil => simp
  | cons d ds => simp [eq_comm]

theorem length_dropWhile_le (p : Char → Bool) (text : List Char) :
    (text.dropWhile p).length ≤ text.length := (List.dropWhile_suffix p).length_le

theorem State.readAttribute_eq_some {tag : List Char × Attributes} :
    s.readAttribute tag text = some (es, t, rest) ↔
      ∃ value quote decoded, after '=' (skip (afterName text)) = some value ∧
        (skip value).head? = some quote ∧
        after quote ((skip value).tail.dropWhile (· ≠ quote)) = some rest ∧
        ((quote = '"' ∨ quote = '\x27') ∧ '<' ∉ (skip value).tail.takeWhile (· ≠ quote) ∧
          isQName (name text) ∧ name text ∉ tag.2.map Prod.fst) ∧
        (textDecoder true).decode .plain ((skip value).tail.takeWhile (· ≠ quote)) = some decoded ∧
        [] = es ∧ { s with tag := some (tag.1, tag.2 ++ [(name text, decoded)]) } = t := by
  unfold readAttribute
  simp only [Option.bind_eq_bind, Option.bind_eq_some_iff]
  constructor
  · intro ⟨value, hvalue, quote, hquote, rest', hrest, h⟩
    split_ifs at h with hallowed
    · obtain ⟨decoded, hdecoded, h⟩ := Option.bind_eq_some_iff.mp h
      cases h
      exact ⟨value, quote, decoded, hvalue, hquote, hrest, hallowed, hdecoded, rfl, rfl⟩
  · intro ⟨value, quote, decoded, hvalue, hquote, hrest, hallowed, hdecoded, hes, ht⟩
    refine ⟨value, hvalue, quote, hquote, rest, hrest, ?_⟩
    rw [if_pos hallowed, hdecoded, ← hes, ← ht]
    rfl

theorem length_of_after {c : Char} (h : after c text = some rest) : rest.length < text.length := by
  rw [after_eq_some.mp h]
  exact Nat.lt_succ_self _

theorem State.length_of_readAttribute {tag : List Char × Attributes}
    (h : s.readAttribute tag text = some (es, t, rest)) : rest.length < text.length := by
  obtain ⟨value, quote, decoded, hvalue, -, hrest, -⟩ := readAttribute_eq_some.mp h
  have hfirst := length_of_after hvalue
  have hlast := length_of_after hrest
  have hname : (skip (afterName text)).length ≤ text.length :=
    (length_dropWhile_le _ _).trans (length_dropWhile_le _ _)
  have hraw : ((skip value).tail.dropWhile (· ≠ quote)).length ≤ value.length :=
    (length_dropWhile_le _ _).trans
      ((List.tail_sublist _).length_le.trans (length_dropWhile_le _ _))
  omega

theorem State.length_of_endTag (h : s.endTag text = some (es, t, rest)) :
    rest.length < text.length := by
  unfold endTag at h
  split_ifs at h
  obtain ⟨rest', hafter, h⟩ := Option.map_eq_some_iff.mp h
  cases h
  calc rest.length < (skip (afterName text)).length := length_of_after hafter
    _ ≤ (afterName text).length := length_dropWhile_le _ _
    _ ≤ text.length := length_dropWhile_le _ _

theorem State.length_of_startTag (h : s.startTag text = some (es, t, rest)) :
    rest.length ≤ text.length := by
  unfold startTag at h
  split_ifs at h
  cases h
  exact length_dropWhile_le _ _

theorem State.rest_of_characters (h : s.characters text = some (es, t, rest)) :
    rest = text.dropWhile (· ≠ '<') := by
  unfold characters at h
  split_ifs at h
  · cases h
    rfl
  · obtain ⟨decoded, -, h⟩ := Option.map_eq_some_iff.mp h
    cases h
    rfl

theorem State.length_of_inTag {tag : List Char × Attributes} {c : Char}
    (h : s.inTag tag c text = some (es, t, rest)) : rest.length ≤ text.length := by
  unfold inTag at h
  split_ifs at h
  · cases h
    exact le_rfl
  · obtain ⟨rest', hafter, h⟩ := Option.map_eq_some_iff.mp h
    cases h
    exact (length_of_after hafter).le
  · cases h
    exact length_dropWhile_le _ _
  · exact (length_of_readAttribute h).le.trans (length_dropWhile_le _ _)

theorem State.length_of_inContent {c : Char} (h : s.inContent c text = some (es, t, rest)) :
    rest.length ≤ text.length := by
  unfold inContent at h
  split_ifs at h with hopen hslash
  · exact (length_of_endTag h).le.trans (List.tail_sublist _).length_le
  · exact length_of_startTag h
  · rw [rest_of_characters h, List.dropWhile_cons_of_pos (by simpa using hopen)]
    exact length_dropWhile_le _ _

theorem length_of_next (h : next s text = some (es, t, rest)) : rest.length < text.length := by
  cases text with
  | nil => cases h
  | cons c cs =>
    apply Nat.lt_succ_of_le
    change s.tag.elim (s.inContent c cs) (fun tag => s.inTag tag c cs) = some (es, t, rest) at h
    cases htag : s.tag with
    | none =>
      rw [htag] at h
      exact State.length_of_inContent h
    | some tag =>
      rw [htag] at h
      exact State.length_of_inTag h

def reader : Scanner State Event where
  next := next
  accepts s := s.elements = [] ∧ s.rootSeen ∧ s.tag = none
  shrinks := length_of_next

/-- The events of a document. -/
def read (text : List Char) : Option (List Event) := reader.read {} text

/-! ### What is read as it was meant -/

/-- Content may stand here: inside an element, or where the root is still to come. -/
def Open (s : State) : Prop := s.tag = none ∧ (s.elements ≠ [] ∨ s.rootSeen = false)

def State.opened (s : State) (name : List Char) : State where
  elements := name :: s.elements
  rootSeen := true
  tag := none

/-- A step in a start tag reports it, or adds to its attributes. -/
theorem State.inTag_cases {n : List Char} {attributes : Attributes} {c : Char}
    (htag : s.tag = some (n, attributes)) (h : s.inTag (n, attributes) c text = some (es, t, rest)) :
    (∃ later, es = .startElement n attributes :: later) ∨
      (es = [] ∧ ∃ more, t.tag = some (n, attributes ++ more)) := by
  unfold inTag at h
  split_ifs at h
  · cases h
    exact .inl ⟨[], rfl⟩
  · obtain ⟨rest', -, h⟩ := Option.map_eq_some_iff.mp h
    cases h
    exact .inl ⟨[.endElement n], rfl⟩
  · cases h
    refine .inr ⟨rfl, [], ?_⟩
    rw [htag, List.append_nil]
  · obtain ⟨value, quote, decoded, -, -, -, -, -, hes, ht⟩ := readAttribute_eq_some.mp h
    refine .inr ⟨hes.symm, [(name (skip text), decoded)], ?_⟩
    rw [← ht]

/-- The tag is the next event, with the attributes read so far and those to come. -/
theorem read_inTag {n : List Char} {attributes : Attributes} (htag : s.tag = some (n, attributes))
    (h : reader.read s text = some es) :
    ∃ more later, es = .startElement n (attributes ++ more) :: later := by
  induction hlength : text.length using Nat.strong_induction_on generalizing s text es attributes with
  | _ length ih =>
    have hne : text ≠ [] := by
      rintro rfl
      rw [Scanner.read_nil] at h
      split_ifs at h with haccepts
      have hnone : s.tag = none := (of_decide_eq_true haccepts).2.2
      rw [htag] at hnone
      cases hnone
    obtain ⟨now, t, rest, later, hnext, hlater, rfl⟩ := Scanner.next_of_read hne h
    have hshort : rest.length < length := hlength ▸ length_of_next hnext
    cases text with
    | nil => exact absurd rfl hne
    | cons c cs =>
      change s.tag.elim (s.inContent c cs) (fun tag => s.inTag tag c cs) = _ at hnext
      rw [htag, Option.elim_some] at hnext
      rcases State.inTag_cases htag hnext with ⟨after, rfl⟩ | ⟨rfl, more, ht⟩
      · exact ⟨[], after ++ later, by rw [List.append_nil, List.cons_append]⟩
      · obtain ⟨others, last, hlast⟩ := ih rest.length hshort ht hlater rfl
        exact ⟨more ++ others, last, by rw [List.nil_append, hlast, List.append_assoc]⟩

theorem name_append {n : List Char} {c : Char} (rest : List Char) (h : ∀ c ∈ n, isNameOrColon c)
    (hc : isNameOrColon c = false) :
    name (n ++ c :: rest) = n ∧ afterName (n ++ c :: rest) = c :: rest := by
  have hstop : ¬isNameOrColon c = true := by rw [hc]; exact Bool.false_ne_true
  unfold name afterName
  rw [List.takeWhile_append_of_pos h, List.dropWhile_append_of_pos h,
    List.takeWhile_cons_of_neg hstop, List.dropWhile_cons_of_neg hstop, List.append_nil]
  exact ⟨rfl, rfl⟩

/-! ### Start tags -/

def State.inside (s : State) (name : List Char) : State :=
  { s with rootSeen := true, tag := some (name, []) }

theorem next_startTag {n : List Char} {c : Char} (hopen : Open s) (hn : isQName n)
    (hc : isNameOrColon c = false) :
    next s ('<' :: (n ++ c :: rest)) = some ([], s.inside n, c :: rest) := by
  obtain ⟨⟨d, ds, hname, hstart⟩, hall⟩ := of_isQName hn
  obtain ⟨hbefore, hafter⟩ := name_append rest hall hc
  have hslash : ¬(n ++ c :: rest).head? = some '/' := by
    rw [hname]
    intro h
    rw [Option.some.inj h] at hstart
    exact absurd hstart (by decide)
  show s.tag.elim (s.inContent '<' _) _ = _
  rw [hopen.1, Option.elim_none, State.inContent, if_pos rfl, if_neg hslash, State.startTag, hbefore,
    hafter, if_pos ⟨hn, hopen.2⟩]
  rfl

/-- Where a start tag is reported, there is one, and it has this name. -/
theorem startTag_of_read {n : List Char} {attributes : Attributes} {more : List Event}
    (hopen : Open s)
    (h : reader.read s ('<' :: text) = some (.startElement n attributes :: more)) :
    isQName n ∧ name text = n ∧
      reader.read (s.inside n) (afterName text) = some (.startElement n attributes :: more) := by
  obtain ⟨now, t, rest, later, hnext, hlater, hevents⟩ :=
    Scanner.next_of_read (List.cons_ne_nil _ _) h
  change s.tag.elim (s.inContent '<' text) _ = _ at hnext
  rw [hopen.1, Option.elim_none, State.inContent, if_pos rfl] at hnext
  split_ifs at hnext with hslash
  · unfold State.endTag at hnext
    split_ifs at hnext
    obtain ⟨rest', -, hnext⟩ := Option.map_eq_some_iff.mp hnext
    cases hnext
    cases hevents
  · unfold State.startTag at hnext
    split_ifs at hnext with hallowed
    cases hnext
    rw [List.nil_append] at hevents
    rw [hevents] at hlater
    obtain ⟨_, _, hfirst⟩ := read_inTag rfl hlater
    have hname : n = name text := (Event.startElement.inj (List.cons.inj hfirst).1).1
    rw [hname]
    exact ⟨hallowed.1, rfl, hname ▸ hlater⟩

theorem next_closeTag {n : List Char} {attributes : Attributes}
    (htag : s.tag = some (n, attributes)) :
    next s ('>' :: rest) = some ([.startElement n attributes],
      { s with elements := n :: s.elements, tag := none }, rest) := by
  show s.tag.elim _ (fun tag => s.inTag tag '>' rest) = _
  rw [htag, Option.elim_some, State.inTag, if_pos rfl]

/-- A start tag is reported with its name exactly if this is a name. -/
theorem exact_startTag {n : List Char} (hopen : Open s) :
    reader.Exact s ('<' :: (n ++ ['>'])) [.startElement n []] (s.opened n) (isQName n) := by
  have hread : ∀ rest, isQName n → reader.read s ('<' :: (n ++ ['>']) ++ rest) =
      (reader.read (s.opened n) rest).map ([.startElement n []] ++ ·) := by
    intro rest hn
    have hname : reader.next s ('<' :: (n ++ '>' :: rest)) = some ([], s.inside n, '>' :: rest) :=
      next_startTag hopen hn (by decide)
    have hclose : reader.next (s.inside n) ('>' :: rest) =
        some ([.startElement n []], s.opened n, rest) := next_closeTag (s := s.inside n) rfl
    rw [List.cons_append, List.append_assoc, List.singleton_append, Scanner.read_of_next hname,
      Scanner.read_of_next hclose, Option.map_map]
    rfl
  intro rest more
  constructor
  · intro h
    have hn : isQName n := (startTag_of_read hopen h).1
    rw [hread rest hn] at h
    obtain ⟨later, hlater, hevents⟩ := Option.map_eq_some_iff.mp h
    rw [← List.append_cancel_left hevents]
    exact ⟨hn, hlater⟩
  · intro ⟨hn, hmore⟩
    rw [hread rest hn, hmore]
    rfl

theorem skip_of_isNameStart {c : Char} (h : isNameStart c) : skip (c :: text) = c :: text := by
  have hspace : ¬isSpace c = true := by
    intro hspace
    unfold isSpace at hspace
    rcases of_decide_eq_true hspace with rfl | rfl | rfl | rfl
    · exact absurd h (by decide)
    · exact absurd h (by decide)
    · exact absurd h (by decide)
    · exact absurd h (by decide)
  exact List.dropWhile_cons_of_neg hspace

/-- The value of the first attribute goes up to the next quote, and is decoded. -/
theorem next_attribute {n k v : List Char} (rest : List Char) (htag : s.tag = some (n, [])) (hk : isQName k) :
    next s (' ' :: (k ++ '=' :: '"' :: (v ++ '"' :: rest))) =
      if '<' ∉ (v ++ '"' :: rest).takeWhile (· ≠ '"') then
        ((textDecoder true).decode .plain ((v ++ '"' :: rest).takeWhile (· ≠ '"'))).map fun decoded =>
          ([], { s with tag := some (n, [(k, decoded)]) },
            ((v ++ '"' :: rest).dropWhile (· ≠ '"')).tail)
      else none := by
  obtain ⟨⟨d, ds, hname, hstart⟩, hall⟩ := of_isQName hk
  obtain ⟨hbefore, hafter⟩ := name_append (c := '=') ('"' :: (v ++ '"' :: rest)) hall (by decide)
  have hskip : skip (k ++ '=' :: '"' :: (v ++ '"' :: rest)) = k ++ '=' :: '"' :: (v ++ '"' :: rest) := by
    rw [hname]
    exact skip_of_isNameStart hstart
  have hhead : ¬((k ++ '=' :: '"' :: (v ++ '"' :: rest)).head? = some '>' ∨
      (k ++ '=' :: '"' :: (v ++ '"' :: rest)).head? = some '/') := by
    rw [hname]
    intro h
    rcases h with h | h
    · rw [Option.some.inj h] at hstart
      exact absurd hstart (by decide)
    · rw [Option.some.inj h] at hstart
      exact absurd hstart (by decide)
  have hquote := dropWhile_eq_cons (List.mem_append_right v (List.mem_cons_self (a := '"') (l := rest)))
  show s.tag.elim _ (fun tag => s.inTag tag ' ' _) = _
  rw [htag, Option.elim_some, State.inTag, if_neg (by decide), if_neg (by decide), if_pos (by decide),
    hskip, if_neg hhead]
  have hequals : after '=' (skip ('=' :: '"' :: (v ++ '"' :: rest))) =
      some ('"' :: (v ++ '"' :: rest)) := rfl
  have hvalue : skip ('"' :: (v ++ '"' :: rest)) = '"' :: (v ++ '"' :: rest) := rfl
  unfold State.readAttribute
  rw [hbefore, hafter, hequals]
  show (do
    let quote ← (skip ('"' :: (v ++ '"' :: rest))).head?
    _) = _
  rw [hvalue]
  show (do
    let rest' ← after '"' ((v ++ '"' :: rest).dropWhile (· ≠ '"'))
    _) = _
  rw [hquote]
  show (if ('"' = '"' ∨ '"' = '\x27') ∧ '<' ∉ (v ++ '"' :: rest).takeWhile (· ≠ '"') ∧ isQName k ∧
    k ∉ [] then _ else none) = _
  by_cases hless : '<' ∈ (v ++ '"' :: rest).takeWhile (· ≠ '"')
  · rw [if_neg (fun h => h.2.1 hless), if_neg (not_not.mpr hless)]
  · rw [if_pos ⟨.inl rfl, hless, hk, List.not_mem_nil⟩, if_pos hless, List.tail_cons]
    exact Option.map_eq_bind.symm

/-- The attribute is reported with its value exactly if this has none but plain characters. -/
theorem exact_attribute {n k v : List Char} (hopen : Open s) (hn : isQName n) (hk : isQName k) :
    reader.Exact s ('<' :: (n ++ ' ' :: (k ++ '=' :: '"' :: (v ++ ['"', '>']))))
      [.startElement n [(k, v)]] (s.opened n) (IsValue v) := by
  intro rest more
  have htext : '<' :: (n ++ ' ' :: (k ++ '=' :: '"' :: (v ++ ['"', '>']))) ++ rest =
      '<' :: (n ++ ' ' :: (k ++ '=' :: '"' :: (v ++ '"' :: '>' :: rest))) := by simp
  have hname : reader.next s ('<' :: (n ++ ' ' :: (k ++ '=' :: '"' :: (v ++ '"' :: '>' :: rest)))) =
      some ([], s.inside n, ' ' :: (k ++ '=' :: '"' :: (v ++ '"' :: '>' :: rest))) :=
    next_startTag hopen hn (by decide)
  have hvalue := next_attribute (s := s.inside n) (v := v) ('>' :: rest) rfl hk
  have hread : '<' ∉ v → '"' ∉ v → (∀ c ∈ v, IsPlain true c) →
      reader.read (s.inside n) (' ' :: (k ++ '=' :: '"' :: (v ++ '"' :: '>' :: rest))) =
        (reader.read (s.opened n) rest).map ([.startElement n [(k, v)]] ++ ·) := by
    intro hless hquote hplain
    rw [takeWhile_append_cons hquote, dropWhile_append_cons hquote, if_pos hless,
      decode_iff.mpr hplain] at hvalue
    let filled : State := { s.inside n with tag := some (n, [(k, v)]) }
    have hstep : reader.next (s.inside n) (' ' :: (k ++ '=' :: '"' :: (v ++ '"' :: '>' :: rest))) =
      some ([], filled, '>' :: rest) := hvalue
    have hclose : reader.next filled ('>' :: rest) =
      some ([.startElement n [(k, v)]], s.opened n, rest) := next_closeTag (s := filled) rfl
    rw [Scanner.read_of_next_nil hstep, Scanner.read_of_next hclose]
  rw [htext, Scanner.read_of_next_nil hname]
  constructor
  · intro h
    obtain ⟨now, t, rest', later, hnext, hlater, hevents⟩ :=
      Scanner.next_of_read (List.cons_ne_nil _ _) h
    replace hnext := hvalue.symm.trans hnext
    split_ifs at hnext with hless
    obtain ⟨decoded, hdecoded, hnext⟩ := Option.map_eq_some_iff.mp hnext
    cases hnext
    obtain ⟨others, _, hfirst⟩ := read_inTag rfl hlater
    rw [hfirst] at hevents
    have hsame : decoded = v := by
      have hattributes := (Event.startElement.inj (List.cons.inj hevents).1).2
      exact (Prod.mk.inj (List.cons.inj hattributes).1).2
    subst hsame
    have hquote : '"' ∉ decoded := by
      intro hmem
      have hcut := length_takeWhile_lt ('"' :: '>' :: rest) hmem
      have hshort := Decoder.length_le_of_decode hdecoded
      omega
    rw [takeWhile_append_cons hquote] at hless hdecoded
    have hplain := decode_iff.mp hdecoded
    rw [hread hless hquote hplain] at h
    obtain ⟨later', hlater', hmore⟩ := Option.map_eq_some_iff.mp h
    rw [← List.append_cancel_left hmore]
    exact ⟨⟨hless, hquote, hplain⟩, hlater'⟩
  · intro ⟨⟨hless, hquote, hplain⟩, hmore⟩
    rw [hread hless hquote hplain, hmore]
    rfl

/-! ### Text -/

theorem next_endTag {n : List Char} {outer : List (List Char)} (htag : s.tag = none)
    (helements : s.elements = n :: outer) (hn : isQName n) :
    next s ('<' :: '/' :: (n ++ '>' :: rest)) =
      some ([.endElement n], { s with elements := outer }, rest) := by
  obtain ⟨hbefore, hafter⟩ := name_append (c := '>') rest (of_isQName hn).2 (by decide)
  have hskip : after '>' (skip ('>' :: rest)) = some rest := rfl
  have hstep : next s ('<' :: '/' :: (n ++ '>' :: rest)) = s.endTag (n ++ '>' :: rest) := by
    show s.tag.elim (s.inContent '<' ('/' :: (n ++ '>' :: rest))) _ = _
    rw [htag]
    rfl
  rw [hstep, State.endTag, hbefore, hafter, hskip, helements]
  exact if_pos rfl

/-- A tag is not reported as text. -/
theorem not_characters_of_read {found : List Char} {more : List Event} (htag : s.tag = none) :
    reader.read s ('<' :: text) ≠ some (.characters found :: more) := by
  intro h
  obtain ⟨now, t, rest, later, hnext, hlater, hevents⟩ :=
    Scanner.next_of_read (List.cons_ne_nil _ _) h
  change s.tag.elim (s.inContent '<' text) _ = _ at hnext
  rw [htag, Option.elim_none, State.inContent, if_pos rfl] at hnext
  split_ifs at hnext
  · unfold State.endTag at hnext
    split_ifs at hnext
    obtain ⟨rest', -, hnext⟩ := Option.map_eq_some_iff.mp hnext
    cases hnext
    cases hevents
  · unfold State.startTag at hnext
    split_ifs at hnext
    cases hnext
    obtain ⟨_, _, hfirst⟩ := read_inTag rfl hlater
    rw [hfirst] at hevents
    cases hevents

theorem next_characters {c : Char} (text : List Char) (htag : s.tag = none) (helements : s.elements ≠ [])
    (hc : c ≠ '<') : next s (c :: text) =
      if [']', ']', '>'] <:+: (c :: text).takeWhile (· ≠ '<') then none
      else
        ((textDecoder false).decode .plain ((c :: text).takeWhile (· ≠ '<'))).map fun decoded =>
          ([.characters decoded], s, (c :: text).dropWhile (· ≠ '<')) := by
  show s.tag.elim (s.inContent c text) _ = _
  rw [htag, Option.elim_none, State.inContent, if_neg hc, State.characters, if_neg helements]

theorem exact_endTag {n : List Char} {outer : List (List Char)} (htag : s.tag = none)
    (helements : s.elements = n :: outer) (hn : isQName n) :
    reader.Exact s ('<' :: '/' :: (n ++ ['>'])) [.endElement n] { s with elements := outer } True := by
  apply Scanner.Exact.of_next
  intro rest
  rw [List.cons_append, List.cons_append, List.append_assoc]
  exact next_endTag htag helements hn

/-- Text before a tag is reported as it is exactly if it has none but plain characters. -/
theorem read_text {later : List Event} (htag : s.tag = none) (helements : s.elements ≠ [])
    (hne : text ≠ []) :
    reader.read s (text ++ '<' :: rest) = some (.characters text :: later) ↔
      IsText text ∧ reader.read s ('<' :: rest) = some later := by
  obtain ⟨c, cs, rfl⟩ := List.exists_cons_of_ne_nil hne
  by_cases hc : c = '<'
  · subst hc
    apply iff_of_false
    · exact not_characters_of_read htag
    · intro h
      exact h.1.1 List.mem_cons_self
  · have hstep := next_characters (cs ++ '<' :: rest) htag helements hc
    rw [← List.cons_append] at hstep
    constructor
    · intro h
      obtain ⟨now, t, rest', events, hnext, hevents, hall⟩ :=
        Scanner.next_of_read (List.cons_ne_nil _ _) h
      replace hnext := hstep.symm.trans hnext
      split_ifs at hnext with hsection
      obtain ⟨decoded, hdecoded, hnext⟩ := Option.map_eq_some_iff.mp hnext
      cases hnext
      obtain ⟨hfirst, rfl⟩ := List.cons.inj hall
      rw [Event.characters.inj hfirst] at hdecoded
      have hless : '<' ∉ c :: cs := by
        intro hmem
        have hcut := length_takeWhile_lt ('<' :: rest) hmem
        have hshort := Decoder.length_le_of_decode hdecoded
        omega
      rw [takeWhile_append_cons hless] at hsection hdecoded
      rw [dropWhile_append_cons hless] at hevents
      exact ⟨⟨hless, hsection, decode_iff.mp hdecoded⟩, hevents⟩
    · intro ⟨⟨hless, hsection, hplain⟩, hlater⟩
      rw [takeWhile_append_cons hless, dropWhile_append_cons hless, if_neg hsection,
        decode_iff.mpr hplain] at hstep
      have hnext : reader.next s (c :: cs ++ '<' :: rest) =
        some ([.characters (c :: cs)], s, '<' :: rest) := hstep
      rw [Scanner.read_of_next hnext, hlater]
      rfl

/-- The events of a text, which is none if it is empty. -/
def textEvents (text : List Char) : List Event := if text = [] then [] else [.characters text]

/-- An element's text and its end tag. -/
theorem exact_text {n : List Char} {outer : List (List Char)} (htag : s.tag = none)
    (helements : s.elements = n :: outer) (hn : isQName n) :
    reader.Exact s (text ++ '<' :: '/' :: (n ++ ['>'])) (textEvents text ++ [.endElement n])
      { s with elements := outer } (IsText text) := by
  have hend := exact_endTag htag helements hn
  unfold textEvents
  by_cases hempty : text = []
  · rw [if_pos hempty, hempty]
    apply hend.congr (iff_of_true trivial _)
    exact ⟨List.not_mem_nil, by decide, List.forall_mem_nil _⟩
  · have hnested : s.elements ≠ [] := by
      rw [helements]
      exact List.cons_ne_nil _ _
    intro rest more
    rw [if_neg hempty, List.append_assoc, List.append_assoc, List.singleton_append]
    refine (read_text htag hnested hempty).trans (and_congr_right fun _ => ?_)
    exact (hend rest more).trans (and_iff_right trivial)

/-! ### Writing -/

/-- Inside these elements, between two tags. -/
def within (elements : List (List Char)) : State where
  elements := elements
  rootSeen := true

def startTag (name : List Char) : List Char := '<' :: (name ++ ['>'])

def endTag (name : List Char) : List Char := '<' :: '/' :: (name ++ ['>'])

def element (name text : List Char) : List Char := startTag name ++ (text ++ endTag name)

def elementEvents (name text : List Char) : List Event :=
  [.startElement name []] ++ (textEvents text ++ [.endElement name])

variable {n : List Char} {outer : List (List Char)}

theorem open_within (hne : outer ≠ []) : Open (within outer) := ⟨rfl, .inl hne⟩

theorem exact_element (hne : outer ≠ []) : reader.Exact (within outer) (element n text)
    (elementEvents n text) (within outer) (isQName n ∧ IsText text) := by
  apply Scanner.Exact.append_of (exact_startTag (open_within hne))
  intro hn
  exact exact_text rfl rfl hn

/-- A line end before a tag. -/
theorem exact_lineEnd (hne : outer ≠ []) {p : Prop}
    (h : reader.Exact (within outer) ('<' :: text) es t p) :
    reader.Exact (within outer) ('\r' :: '\n' :: '<' :: text) (.characters ['\n'] :: es) t p := by
  intro rest more
  have hnext : reader.next (within outer) ('\r' :: '\n' :: '<' :: (text ++ rest)) =
      some ([.characters ['\n']], within outer, '<' :: (text ++ rest)) := by
    have hnone : '<' ∉ ['\r', '\n'] := by decide
    have hraw : ('\r' :: '\n' :: '<' :: (text ++ rest)).takeWhile (· ≠ '<') = ['\r', '\n'] :=
      takeWhile_append_cons hnone
    have hrest : ('\r' :: '\n' :: '<' :: (text ++ rest)).dropWhile (· ≠ '<') = '<' :: (text ++ rest) :=
      dropWhile_append_cons hnone
    have hsection : ¬[']', ']', '>'] <:+: ['\r', '\n'] := by decide
    have hstep := next_characters (s := within outer) (c := '\r')
      ('\n' :: '<' :: (text ++ rest)) rfl hne (by decide)
    rw [hraw, hrest, if_neg hsection] at hstep
    exact hstep
  have htext := h rest more
  rw [List.cons_append] at htext
  rw [List.cons_append, List.cons_append, List.cons_append, Scanner.read_of_next hnext, ← htext,
    List.cons_append, ← List.singleton_append, ← Option.map_some]
  exact (Option.map_injective (List.append_right_injective _)).eq_iff

end MaxKey.XmlReader
