import MaxKey.Scanning

namespace MaxKey.JsonReader
open Scanning

/-! ### Strings -/

/-- Splits at the quote that ends the string; a quote behind a backslash does not. -/
def split : Bool → List Char → Option (List Char × List Char)
  | _, [] => none
  | true, c :: cs => (split false cs).map fun r => (c :: r.1, r.2)
  | false, c :: cs =>
    if c = '"' then some ([], cs)
    else (split (c = '\\') cs).map fun r => (c :: r.1, r.2)

inductive Mode
  | plain
  | escaped
  | unicode (value digits : ℕ)
  deriving DecidableEq

/-- Where the decoder of a string is, and the first half of a surrogate pair. -/
structure StringState where
  mode : Mode := .plain
  high : Option ℕ := none
  deriving DecidableEq

def escape (c : Char) : Option Char :=
  if c = '"' ∨ c = '\\' ∨ c = '/' then some c
  else if c = 'b' then some '\x08'
  else if c = 'f' then some '\x0c'
  else if c = 'n' then some '\n'
  else if c = 'r' then some '\r'
  else if c = 't' then some '\t'
  else none

/-- The unit of UTF-16 that an escape has named. -/
def codeUnit (high : Option ℕ) (unit : ℕ) : Option (StringState × Option Char) :=
  high.elim
    (if 0xD800 ≤ unit ∧ unit < 0xDC00 then some ({ high := some unit }, none)
    else if 0xDC00 ≤ unit ∧ unit < 0xE000 then none
    else some ({}, some (Char.ofNat unit)))
    fun first =>
      if 0xDC00 ≤ unit ∧ unit < 0xE000 then
        some ({}, some (Char.ofNat (0x10000 + (first - 0xD800) * 0x400 + (unit - 0xDC00))))
      else none

def StringState.step (s : StringState) (c : Char) : Option (StringState × Option Char) :=
  match s.mode with
  | .plain =>
    if c = '\\' then some ({ s with mode := .escaped }, none)
    else if s.high.isNone ∧ 32 ≤ c.toNat then some (s, some c) else none
  | .escaped =>
    if c = 'u' then some ({ s with mode := .unicode 0 0 }, none)
    else if s.high.isNone then (escape c).map fun d => ({}, some d) else none
  | .unicode value digits =>
    (digit 16 c).bind fun d =>
      if digits < 3 then some ({ s with mode := .unicode (value * 16 + d) (digits + 1) }, none)
      else codeUnit s.high (value * 16 + d)

def stringDecoder : Decoder StringState where
  step := StringState.step
  accepts s := s = {}

/-- The string whose opening quote has been read, and what follows its closing quote. -/
def quoted (text : List Char) : Option (List Char × List Char) :=
  (split false text).bind fun r => (stringDecoder.decode {} r.1).map fun string => (string, r.2)

/-- The characters that stand for themselves in a string. -/
def IsPlain (c : Char) : Prop := c ≠ '"' ∧ c ≠ '\\' ∧ 32 ≤ c.toNat

instance : DecidablePred IsPlain := fun _ => inferInstanceAs (Decidable (_ ∧ _ ∧ _))

variable {text raw rest rest' : List Char}

theorem eq_of_split {escaped : Bool} (h : split escaped text = some (raw, rest)) :
    text = raw ++ '"' :: rest := by
  fun_induction split escaped text generalizing raw with
  | case1 => cases h
  | case2 c cs ih =>
    obtain ⟨⟨raw', rest'⟩, htail, hcons⟩ := Option.map_eq_some_iff.mp h
    obtain ⟨rfl, rfl⟩ := Prod.mk.inj hcons
    rw [ih htail, List.cons_append]
  | case3 cs =>
    obtain ⟨rfl, rfl⟩ := Prod.mk.inj (Option.some.inj h)
    rw [List.nil_append]
  | case4 c cs hquote ih =>
    obtain ⟨⟨raw', rest'⟩, htail, hcons⟩ := Option.map_eq_some_iff.mp h
    obtain ⟨rfl, rfl⟩ := Prod.mk.inj hcons
    rw [ih htail, List.cons_append]

/-- A quote inside the string stands behind a backslash. -/
theorem quote_not_mem_of_split (h : split false text = some (raw, rest)) (hraw : '\\' ∉ raw) :
    '"' ∉ raw := by
  induction text generalizing raw with
  | nil => cases h
  | cons c cs ih =>
    unfold split at h
    split_ifs at h with hquote
    · rw [← (Prod.mk.inj (Option.some.inj h)).1]
      exact List.not_mem_nil
    · obtain ⟨⟨raw', rest'⟩, htail, hcons⟩ := Option.map_eq_some_iff.mp h
      obtain ⟨rfl, rfl⟩ := Prod.mk.inj hcons
      rw [List.mem_cons, not_or] at hraw
      rw [decide_eq_false (Ne.symm hraw.1)] at htail
      rw [List.mem_cons, not_or]
      exact ⟨Ne.symm hquote, ih htail hraw.2⟩

theorem split_of_plain (h : ∀ c ∈ text, IsPlain c) :
    split false (text ++ '"' :: rest) = some (text, rest) := by
  induction text with
  | nil => rfl
  | cons c cs ih =>
    obtain ⟨⟨hquote, hescape, -⟩, hcs⟩ := List.forall_mem_cons.mp h
    rw [List.cons_append, split, if_neg hquote, decide_eq_false hescape, ih hcs]
    rfl

theorem plain_iff {c : Char} : stringDecoder.Plain {} c ↔ c ≠ '\\' ∧ 32 ≤ c.toNat := by
  unfold Decoder.Plain
  show StringState.step {} c = some ({}, some c) ↔ _
  unfold StringState.step
  by_cases hescape : c = '\\'
  · simp [hescape]
  · simp [hescape]

theorem keeps_quote (s t : StringState) (d : Option Char) (h : s.step '"' = some (t, d)) :
    d = some '"' := by
  unfold StringState.step at h
  cases hmode : s.mode with
  | plain =>
    rw [hmode] at h
    simp only [Char.reduceEq, if_false] at h
    split_ifs at h
    exact (Prod.mk.inj (Option.some.inj h)).2.symm
  | escaped =>
    rw [hmode] at h
    simp only [Char.reduceEq, if_false] at h
    split_ifs at h
    exact (Prod.mk.inj (Option.some.inj h)).2.symm
  | unicode value digits =>
    rw [hmode] at h
    cases h

/-- The quote that is read as the closing one is the right one, or it comes too early, or it comes
after a quote that was taken for a character. -/
theorem closing_quote {after : List Char} (h : text ++ '"' :: rest = raw ++ '"' :: after) :
    (raw = text ∧ after = rest) ∨ raw.length < text.length ∨ text.count '"' < raw.count '"' := by
  rcases List.append_eq_append_iff.mp h with ⟨w, hraw, hrest⟩ | ⟨w, htext, hafter⟩
  · cases w with
    | nil =>
      left
      rw [List.append_nil] at hraw
      exact ⟨hraw, (List.cons.inj hrest).2.symm⟩
    | cons c w =>
      right
      right
      rw [hraw, ← (List.cons.inj hrest).1, List.count_append, List.count_cons_self]
      omega
  · cases w with
    | nil =>
      left
      rw [List.append_nil] at htext
      exact ⟨htext.symm, (List.cons.inj hafter).2⟩
    | cons c w =>
      right
      left
      rw [htext, List.length_append, List.length_cons]
      omega

theorem decode_iff : stringDecoder.decode {} text = some text ↔ ∀ c ∈ text, c ≠ '\\' ∧ 32 ≤ c.toNat := by
  have hself : ∀ c t, stringDecoder.step {} c = some (t, some c) → t = {} := by
    intro c t h
    change StringState.step {} c = some (t, some c) at h
    unfold StringState.step at h
    dsimp only at h
    split_ifs at h
    · cases h
    · exact (Prod.mk.inj (Option.some.inj h)).1.symm
  rw [Decoder.decode_eq_self_iff (by decide) hself]
  exact forall₂_congr fun c _ => plain_iff

/-- A text between quotes is read as itself exactly if it has none but plain characters. -/
theorem quoted_iff : quoted (text ++ '"' :: rest) = some (text, rest') ↔
    (∀ c ∈ text, IsPlain c) ∧ rest' = rest := by
  constructor
  · intro h
    obtain ⟨⟨raw, after⟩, hsplit, h⟩ := Option.bind_eq_some_iff.mp h
    obtain ⟨string, hdecode, h⟩ := Option.map_eq_some_iff.mp h
    obtain ⟨rfl, rfl⟩ := Prod.mk.inj h
    have hshort : string.length ≤ raw.length := Decoder.length_le_of_decode hdecode
    have hquotes : raw.count '"' ≤ string.count '"' :=
      Decoder.count_le_of_decode keeps_quote hdecode
    rcases closing_quote (eq_of_split hsplit) with ⟨rfl, rfl⟩ | hearly | hlate
    · have hplain := decode_iff.mp hdecode
      have hnone := quote_not_mem_of_split hsplit fun hmem => (hplain _ hmem).1 rfl
      exact ⟨fun c hc => ⟨fun hquote => hnone (hquote ▸ hc), hplain c hc⟩, rfl⟩
    · omega
    · omega
  · intro ⟨hplain, hrest⟩
    have hdecode : stringDecoder.decode {} text = some text := decode_iff.mpr fun c hc => (hplain c hc).2
    unfold quoted
    rw [split_of_plain hplain, Option.bind_some, hdecode, hrest]
    rfl

/-! ### Documents -/

/-- What a streaming reader reports. Numbers and the three words are not read. -/
inductive Event
  | startObject
  | endObject
  | startArray
  | endArray
  | fieldName (name : List Char)
  | valueString (text : List Char)
  deriving DecidableEq

inductive Context
  | object
  | array
  deriving DecidableEq

inductive Expected
  | value
  | valueOrEnd
  | name
  | nameOrEnd
  | colon
  | separator
  deriving DecidableEq

/-- The objects and arrays that are open, and what may come next. -/
structure State where
  contexts : List Context := []
  expected : Expected := .value
  deriving DecidableEq

namespace State

def takesValue (s : State) : Bool := s.expected = .value ∨ s.expected = .valueOrEnd

def takesName (s : State) : Bool := s.expected = .name ∨ s.expected = .nameOrEnd

def expect (s : State) (expected : Expected) : State := { s with expected }

/-- The innermost object or array ends here. -/
def close (s : State) (context : Context) (empty : Expected) : Option State :=
  if s.contexts.head? = some context ∧ (s.expected = .separator ∨ s.expected = empty) then
    some ⟨s.contexts.tail, .separator⟩
  else none

def punctuation (s : State) (c : Char) : Option (List Event × State) :=
  if c = '\x7b' ∧ s.takesValue then some ([.startObject], ⟨.object :: s.contexts, .nameOrEnd⟩)
  else if c = '[' ∧ s.takesValue then some ([.startArray], ⟨.array :: s.contexts, .valueOrEnd⟩)
  else if c = '\x7d' then (s.close .object .nameOrEnd).map fun t => ([.endObject], t)
  else if c = ']' then (s.close .array .valueOrEnd).map fun t => ([.endArray], t)
  else if c = ':' ∧ s.expected = .colon then some ([], s.expect .value)
  else if c = ',' ∧ s.expected = .separator then
    s.contexts.head?.map fun context =>
      ([], s.expect (if context = .object then .name else .value))
  else none

/-- A string is a value or the name of a field. -/
def string (s : State) (text : List Char) : Option (List Event × State) :=
  if s.takesValue then some ([.valueString text], s.expect .separator)
  else if s.takesName then some ([.fieldName text], s.expect .colon)
  else none

end State

def isSpace (c : Char) : Bool := c = ' ' ∨ c = '\t' ∨ c = '\n' ∨ c = '\r'

def next (s : State) : List Char → Option (List Event × State × List Char)
  | [] => none
  | c :: cs =>
    if isSpace c then some ([], s, cs)
    else if c = '"' then
      (quoted cs).bind fun r => (s.string r.1).map fun step => (step.1, step.2, r.2)
    else (s.punctuation c).map fun step => (step.1, step.2, cs)

theorem next_cons (s : State) (c : Char) (cs : List Char) : next s (c :: cs) =
    if isSpace c then some ([], s, cs)
    else if c = '"' then
      (quoted cs).bind fun r => (s.string r.1).map fun step => (step.1, step.2, r.2)
    else (s.punctuation c).map fun step => (step.1, step.2, cs) := rfl

theorem length_lt_of_quoted {string : List Char} (h : quoted text = some (string, rest)) :
    rest.length < text.length := by
  obtain ⟨⟨raw, after⟩, hsplit, h⟩ := Option.bind_eq_some_iff.mp h
  obtain ⟨_, _, h⟩ := Option.map_eq_some_iff.mp h
  have hrest : after = rest := (Prod.mk.inj h).2
  rw [eq_of_split hsplit, ← hrest, List.length_append, List.length_cons]
  omega

def reader : Scanner State Event where
  next := next
  accepts s := s = ⟨[], .separator⟩
  shrinks := by
    intro s text es t rest h
    cases text with
    | nil => cases h
    | cons c cs =>
      rw [List.length_cons]
      rw [next_cons] at h
      split_ifs at h
      · cases h
        omega
      · obtain ⟨⟨string, after⟩, hquoted, h⟩ := Option.bind_eq_some_iff.mp h
        obtain ⟨step, -, h⟩ := Option.map_eq_some_iff.mp h
        cases h
        exact (length_lt_of_quoted hquoted).trans (Nat.lt_succ_self _)
      · obtain ⟨step, -, h⟩ := Option.map_eq_some_iff.mp h
        cases h
        omega

/-- The events of a document. -/
def read (text : List Char) : Option (List Event) := reader.read {} text

variable {s t : State} {c : Char} {es : List Event}

theorem exact_space (h : isSpace c) : reader.Exact s [c] [] s True := by
  apply Scanner.Exact.of_next
  intro rest
  show next s (c :: rest) = _
  rw [next_cons, if_pos h]

theorem exact_punctuation (hspace : isSpace c = false) (hquote : c ≠ '"')
    (h : s.punctuation c = some (es, t)) : reader.Exact s [c] es t True := by
  apply Scanner.Exact.of_next
  intro rest
  show next s (c :: rest) = _
  rw [next_cons, hspace, if_neg Bool.false_ne_true, if_neg hquote, h]
  rfl

/-- A text in quotes is reported as it is exactly if it has none but plain characters. -/
theorem exact_string {event : List Char → Event} (hinj : Function.Injective event)
    (hstring : ∀ string, s.string string = some ([event string], t)) :
    reader.Exact s ('"' :: (text ++ ['"'])) [event text] t (∀ c ∈ text, IsPlain c) := by
  have hspace : isSpace '"' = false := by decide
  have hread : ∀ rest, reader.read s ('"' :: (text ++ ['"']) ++ rest) =
      (quoted (text ++ '"' :: rest)).bind fun r =>
        (reader.read t r.2).map ([event r.1] ++ ·) := by
    intro rest
    rw [List.cons_append, List.append_assoc, List.singleton_append, Scanner.read_cons]
    show (next s ('"' :: _)).bind _ = _
    rw [next_cons, hspace, if_neg Bool.false_ne_true, if_pos rfl, Option.bind_assoc]
    apply Option.bind_congr
    intro r _
    rw [hstring]
    rfl
  intro rest more
  rw [hread, Option.bind_eq_some_iff]
  constructor
  · intro ⟨⟨string, after⟩, hquoted, h⟩
    obtain ⟨later, hlater, hevents⟩ := Option.map_eq_some_iff.mp h
    obtain ⟨hevent, rfl⟩ := List.cons.inj hevents
    have hsame : string = text := hinj hevent
    rw [hsame] at hquoted
    obtain ⟨hplain, hafter⟩ := quoted_iff.mp hquoted
    rw [← hafter]
    exact ⟨hplain, hlater⟩
  · intro ⟨hplain, hmore⟩
    refine ⟨(text, rest), quoted_iff.mpr ⟨hplain, rfl⟩, ?_⟩
    rw [hmore]
    rfl

theorem exact_value (h : s.takesValue) : reader.Exact s ('"' :: (text ++ ['"']))
    [.valueString text] (s.expect .separator) (∀ c ∈ text, IsPlain c) := by
  apply exact_string fun _ _ => Event.valueString.inj
  intro string
  unfold State.string
  rw [if_pos h]

theorem exact_name (hvalue : s.takesValue = false) (h : s.takesName) :
    reader.Exact s ('"' :: (text ++ ['"'])) [.fieldName text] (s.expect .colon)
      (∀ c ∈ text, IsPlain c) := by
  apply exact_string fun _ _ => Event.fieldName.inj
  intro string
  unfold State.string
  rw [hvalue, if_neg Bool.false_ne_true, if_pos h]

theorem exact_spaces {blanks : List Char} (h : ∀ c ∈ blanks, isSpace c) :
    reader.Exact s blanks [] s True := by
  induction blanks with
  | nil => exact Scanner.Exact.nil
  | cons c cs ih =>
    obtain ⟨hc, hcs⟩ := List.forall_mem_cons.mp h
    exact ((exact_space hc).append (ih hcs)).congr and_self_iff

end MaxKey.JsonReader
