import Mathlib.Data.List.Pairwise
import MaxKey.DistinctSampling
import MaxKey.Domain
import MaxKey.Effects
import MaxKey.JavaText

namespace MaxKey.PasswordGen
open Effects DistinctSampling

def CHAR_LOWERCASE : List Char := "abcdefghijklmnopqrstuvwxyz".toList

def CHAR_UPPERCASE : List Char := "ABCDEFGHIJKLMNOPQRSTUVWXYZ".toList

def CHAR_NUMBERS : List Char := "0123456789".toList

def CHAR_SPECIAL : List Char := "~@#^()[]*$-+?_&=!%\x7b\x7d/".toList

def CHAR_DEFAULT : List Char := CHAR_LOWERCASE ++ CHAR_NUMBERS ++ CHAR_UPPERCASE

def DEFAULT_LENGTH : ℤ := 8

/-- What the loop of `gen` works on. -/
structure Loop where
  charString : List Char
  length : ℤ
  i : ℤ
  password : List Char
  deriving DecidableEq

/-- Where a run ends without a password: in an exception or, when every number drawn so far has
been used, at the head of a loop that goes on. -/
inductive Stop
  | exception (e : JavaException)
  | waiting (s : Loop)

/-- A generator works on the numbers that its source of randomness gives. -/
abbrev Random := EStateM Stop (List ℕ)

/-- Random.nextInt: any number below the bound. -/
def nextInt (bound drawn : ℕ) : Except JavaException ℕ :=
  if bound < 1 then .error (.illegalArgument "bound must be positive") else .ok (drawn % bound)

/-- One turn of the loop. -/
def turn (s : Loop) (drawn : ℕ) : Except JavaException Loop := do
  let randomPosition ← nextInt s.charString.length drawn
  let c ← (s.charString[randomPosition]?).elim (.error .stringIndexOutOfBounds) .ok
  -- duplicate check
  if JavaText.indexOf [c] s.password = none then
    .ok { s with password := s.password ++ [c], i := s.i + 1 }
  else .ok s

/-- The loop, which takes one number in each turn. -/
def loop : List ℕ → Loop → EStateM.Result Stop (List ℕ) (List Char)
  | [], s => if s.i < s.length then .error (.waiting s) [] else .ok s.password []
  | drawn :: rest, s =>
    if s.i < s.length then
      match turn s drawn with
      | .error e => .error (.exception e) rest
      | .ok t => loop rest t
    else .ok s.password (drawn :: rest)

def gen (charString : List Char) (length : ℤ) : Random (List Char) := fun drawn =>
  if length < 1 then .ok [] drawn else loop drawn ⟨charString, length, 0, []⟩

def genOfLength (length : ℤ) : Random (List Char) := gen CHAR_DEFAULT length

def genDefault : Random (List Char) := genOfLength DEFAULT_LENGTH

/-- The characters of each class, then these characters in a random order. -/
def genOfClasses (lowerCase upperCase numbers special : ℤ) : Random (List Char) := do
  let lowerCases ← gen CHAR_LOWERCASE lowerCase
  let digits ← gen CHAR_NUMBERS numbers
  let upperCases ← gen CHAR_UPPERCASE upperCase
  let specials ← gen CHAR_SPECIAL special
  let password := lowerCases ++ digits ++ upperCases ++ specials
  gen password password.length

/-! ### What a turn does -/

theorem indexOf_eq_none_iff (c : Char) (text : List Char) :
    JavaText.indexOf [c] text = none ↔ c ∉ text := by
  rw [← Option.not_isSome_iff_eq_none, JavaText.indexOf_isSome, List.singleton_infix_iff]

/-- The state after the character is chosen. -/
def Loop.choose (s : Loop) (c : Char) : Loop :=
  if c ∈ s.password then s else { s with password := s.password ++ [c], i := s.i + 1 }

theorem turn_eq {s : Loop} {drawn : ℕ} {c : Char}
    (hc : s.charString[drawn % s.charString.length]? = some c) :
    turn s drawn = .ok (s.choose c) := by
  have hlt : drawn % s.charString.length < s.charString.length :=
    (List.getElem?_eq_some_iff.mp hc).1
  have hposition : nextInt s.charString.length drawn = .ok (drawn % s.charString.length) :=
    if_neg (by omega)
  simp only [turn, bind, Except.bind, hposition, hc, Option.elim, indexOf_eq_none_iff, Loop.choose]
  by_cases hmem : c ∈ s.password
  · simp [hmem]
  · simp [hmem]

theorem turn_eq_ok {s t : Loop} {drawn : ℕ} (h : turn s drawn = .ok t) :
    ∃ c ∈ s.charString, t = s.choose c := by
  by_cases hpos : 0 < s.charString.length
  · have hlt := Nat.mod_lt drawn hpos
    have hc := List.getElem?_eq_getElem hlt
    rw [turn_eq hc] at h
    exact ⟨_, List.getElem_mem hlt, (Except.ok.inj h).symm⟩
  · have hbound : nextInt s.charString.length drawn = .error _ := if_pos (by omega)
    simp [turn, bind, Except.bind, hbound] at h

theorem exists_turn {s : Loop} {c : Char} (h : c ∈ s.charString) :
    ∃ randomPosition < s.charString.length, turn s randomPosition = .ok (s.choose c) := by
  obtain ⟨randomPosition, hlt, hc⟩ := List.mem_iff_getElem.mp h
  refine ⟨randomPosition, hlt, turn_eq ?_⟩
  rw [Nat.mod_eq_of_lt hlt, List.getElem?_eq_getElem hlt, hc]

/-- Some position has its choice appended. -/
def Progresses (s : Loop) : Prop :=
  ∃ randomPosition < s.charString.length, ∃ c,
    turn s randomPosition = .ok { s with password := s.password ++ [c], i := s.i + 1 }

theorem progresses_iff (s : Loop) :
    Progresses s ↔ ∃ c ∈ s.charString, c ∉ s.password := by
  constructor
  · intro h
    obtain ⟨randomPosition, -, c, hturn⟩ := h
    obtain ⟨d, hd, hchoose⟩ := turn_eq_ok hturn
    refine ⟨d, hd, fun hmem => ?_⟩
    rw [Loop.choose, if_pos hmem] at hchoose
    have hi := congrArg Loop.i hchoose
    simp only at hi
    omega
  · intro h
    obtain ⟨c, hc, hnew⟩ := h
    obtain ⟨randomPosition, hlt, hturn⟩ := exists_turn hc
    refine ⟨randomPosition, hlt, c, ?_⟩
    rw [hturn, Loop.choose, if_neg hnew]

/-! ### The states of one loop -/

/-- The states that a loop reaches: it keeps its arguments and holds a sample of the characters,
as long as its counter says. -/
structure Reached (charString : List Char) (length : ℤ) (s : Loop) : Prop where
  charString_eq : s.charString = charString
  length_eq : s.length = length
  sample : Sample charString s.password
  i_eq : s.i = s.password.length
  i_le : s.i ≤ length

variable {charString : List Char} {length : ℤ} {s t : Loop}

theorem reached_start (charString : List Char) (h : 0 ≤ length) :
    Reached charString length ⟨charString, length, 0, []⟩ where
  charString_eq := rfl
  length_eq := rfl
  sample := sample_nil charString
  i_eq := rfl
  i_le := h

theorem Reached.choose (h : Reached charString length s) (hlt : s.i < length) {c : Char}
    (hc : c ∈ charString) : Reached charString length (s.choose c) := by
  by_cases hmem : c ∈ s.password
  · rw [Loop.choose, if_pos hmem]
    exact h
  · rw [Loop.choose, if_neg hmem]
    have hnext := h.sample.take hc
    rw [take_of_notMem hmem] at hnext
    have hi := h.i_eq
    constructor
    · exact h.charString_eq
    · exact h.length_eq
    · exact hnext
    · simp [hi]
    · change s.i + 1 ≤ length
      omega

theorem Reached.turn (h : Reached charString length s) (hlt : s.i < length) {drawn : ℕ}
    (hturn : turn s drawn = .ok t) : Reached charString length t := by
  obtain ⟨c, hc, rfl⟩ := turn_eq_ok hturn
  rw [h.charString_eq] at hc
  exact h.choose hlt hc

theorem Reached.progresses_iff (h : Reached charString length s) :
    Progresses s ↔ s.i < charString.toFinset.card := by
  rw [PasswordGen.progresses_iff, h.charString_eq, h.sample.exists_new_iff, h.i_eq,
    Int.ofNat_lt]

theorem loop_of_not_lt (h : ¬s.i < s.length) (drawn : List ℕ) :
    loop drawn s = .ok s.password drawn := by
  cases drawn with
  | nil => exact if_neg h
  | cons n rest => exact if_neg h

theorem loop_nil_of_lt (h : s.i < s.length) : loop [] s = .error (.waiting s) [] := if_pos h

theorem loop_cons_of_ok (h : s.i < s.length) {n : ℕ} (hturn : turn s n = .ok t) (rest : List ℕ) :
    loop (n :: rest) s = loop rest t := by
  rw [loop, if_pos h, hturn]

theorem loop_cons_of_error (h : s.i < s.length) {n : ℕ} {e : JavaException}
    (hturn : turn s n = .error e) (rest : List ℕ) :
    loop (n :: rest) s = .error (.exception e) rest := by
  rw [loop, if_pos h, hturn]

/-- What a run of the loop may come to: a sample of the length asked for, a state reached before
that length, or an exception. -/
def Ends (charString : List Char) (length : ℤ) :
    EStateM.Result Stop (List ℕ) (List Char) → Prop
  | .ok password _ => Sample charString password ∧ password.length = length
  | .error (.waiting s) _ => Reached charString length s ∧ s.i < length
  | .error (.exception _) _ => True

theorem Reached.ends_of_not_lt (h : Reached charString length s) (hlt : ¬s.i < s.length)
    (drawn : List ℕ) : Ends charString length (loop drawn s) := by
  rw [loop_of_not_lt hlt]
  have hle := h.i_le
  rw [h.length_eq] at hlt
  refine ⟨h.sample, ?_⟩
  rw [← h.i_eq]
  omega

theorem Reached.ends (h : Reached charString length s) (drawn : List ℕ) :
    Ends charString length (loop drawn s) := by
  induction drawn generalizing s with
  | nil =>
    by_cases hlt : s.i < s.length
    · rw [loop_nil_of_lt hlt]
      rw [h.length_eq] at hlt
      exact ⟨h, hlt⟩
    · exact h.ends_of_not_lt hlt []
  | cons n rest ih =>
    by_cases hlt : s.i < s.length
    · cases hturn : PasswordGen.turn s n with
      | error e =>
        rw [loop_cons_of_error hlt hturn]
        trivial
      | ok t =>
        rw [loop_cons_of_ok hlt hturn]
        rw [h.length_eq] at hlt
        exact ih (h.turn hlt hturn)
    · exact h.ends_of_not_lt hlt (n :: rest)

/-- From every state reached, some numbers lead to any length that the request and the distinct
characters allow. -/
theorem Reached.exists_leads (h : Reached charString length s) {k : ℕ} (hge : s.password.length ≤ k)
    (hlength : k ≤ length) (hcard : k ≤ charString.toFinset.card) :
    ∃ drawn t, Reached charString length t ∧ t.i = k ∧
      ∀ rest, loop (drawn ++ rest) s = loop rest t := by
  induction k, hge using Nat.le_induction with
  | base => exact ⟨[], s, h, h.i_eq, fun rest => rfl⟩
  | succ k hge ih =>
    push_cast at hlength
    obtain ⟨drawn, t, ht, hi, hleads⟩ := ih (by omega) (by omega)
    have hlt : t.i < length := by omega
    obtain ⟨randomPosition, -, c, hturn⟩ := ht.progresses_iff.mpr (by omega)
    refine ⟨drawn ++ [randomPosition], _, ht.turn hlt hturn, ?_, fun rest => ?_⟩
    · simp [hi]
    · rw [List.append_assoc, hleads, List.singleton_append]
      rw [← ht.length_eq] at hlt
      exact loop_cons_of_ok hlt hturn rest

/-! ### Generators -/

variable {α β : Type}

/-- Every loop state that a generator reaches before the requested length makes progress. -/
def Progressive (x : Random α) : Prop :=
  ∀ drawn s rest, x drawn = .error (.waiting s) rest → Progresses s

/-- Some numbers bring a generator to its end. -/
def Completes (x : Random α) : Prop := ∃ drawn a, ∀ rest, x (drawn ++ rest) = .ok a rest

/-- Some numbers bring a generator to a loop state without progress. -/
def Sticks (x : Random α) : Prop :=
  ∃ drawn s, x drawn = .error (.waiting s) [] ∧ ¬Progresses s

theorem Progressive.bind {x : Random α} {f : α → Random β} (hx : Progressive x)
    (hf : ∀ drawn a rest, x drawn = .ok a rest → Progressive (f a)) : Progressive (x >>= f) := by
  intro drawn s rest h
  cases bind_eq_error.mp h with
  | inl h => exact hx drawn s rest h
  | inr h =>
    obtain ⟨a, used, ha, h⟩ := h
    exact hf drawn a used ha used s rest h

theorem Sticks.bind {x : Random α} (hx : Sticks x) (f : α → Random β) : Sticks (x >>= f) := by
  obtain ⟨drawn, s, h, hstuck⟩ := hx
  exact ⟨drawn, s, bind_of_error h, hstuck⟩

theorem Completes.bind_sticks {x : Random α} {f : α → Random β} (hx : Completes x)
    (hf : ∀ a, Sticks (f a)) : Sticks (x >>= f) := by
  obtain ⟨drawn, a, h⟩ := hx
  obtain ⟨more, s, hmore, hstuck⟩ := hf a
  refine ⟨drawn ++ more, s, ?_, hstuck⟩
  rw [bind_of_ok (h more), hmore]

theorem Completes.bind {x : Random α} {f : α → Random β} (hx : Completes x)
    (hf : ∀ drawn a rest, x drawn = .ok a rest → Completes (f a)) : Completes (x >>= f) := by
  obtain ⟨drawn, a, h⟩ := hx
  obtain ⟨more, b, hmore⟩ := hf (drawn ++ []) a [] (h [])
  refine ⟨drawn ++ more, b, fun rest => ?_⟩
  rw [List.append_assoc, bind_of_ok (h (more ++ rest)), hmore]

theorem Sticks.not_progressive {x : Random α} (hx : Sticks x) : ¬Progressive x := by
  intro hprogressive
  obtain ⟨drawn, s, h, hstuck⟩ := hx
  exact hstuck (hprogressive drawn s [] h)

theorem gen_of_lt {length : ℤ} (h : length < 1) (charString : List Char) :
    gen charString length = pure [] := funext fun _ => if_pos h

theorem gen_of_le {length : ℤ} (h : 1 ≤ length) (charString : List Char) (drawn : List ℕ) :
    gen charString length drawn = loop drawn ⟨charString, length, 0, []⟩ :=
  if_neg (by omega)

/-- What `gen` returns has the length asked for and no character twice. -/
theorem gen_ok {n : ℕ} {drawn rest : List ℕ} {password : List Char}
    (h : gen charString n drawn = .ok password rest) :
    Sample charString password ∧ password.length = n := by
  by_cases hlt : (n : ℤ) < 1
  · rw [gen_of_lt hlt] at h
    cases h
    refine ⟨sample_nil charString, ?_⟩
    change 0 = n
    omega
  · rw [gen_of_le (by omega)] at h
    have hends := (reached_start charString (by omega : 0 ≤ (n : ℤ))).ends drawn
    rw [h] at hends
    exact ⟨hends.1, Int.ofNat.inj hends.2⟩

example : gen ['a', 'b'] 2 [0, 2, 1, 5] = .ok ['a', 'b'] [5] := rfl

/-- With as many distinct characters as asked for the loop always makes progress. -/
theorem gen_progressive (hle : length ≤ charString.toFinset.card) :
    Progressive (gen charString length) := by
  intro drawn s rest h
  by_cases hlt : length < 1
  · rw [gen_of_lt hlt] at h
    cases h
  · rw [gen_of_le (by omega)] at h
    have hends := (reached_start charString (by omega : 0 ≤ length)).ends drawn
    rw [h] at hends
    apply hends.1.progresses_iff.mpr
    have hi := hends.2
    omega

theorem gen_completes (hle : length ≤ charString.toFinset.card) :
    Completes (gen charString length) := by
  by_cases hlt : length < 1
  · rw [gen_of_lt hlt]
    exact ⟨[], [], fun rest => rfl⟩
  · have hstart := reached_start charString (by omega : 0 ≤ length)
    obtain ⟨n, rfl⟩ := Int.eq_ofNat_of_zero_le (by omega : 0 ≤ length)
    obtain ⟨drawn, t, ht, hi, hleads⟩ := hstart.exists_leads (Nat.zero_le n) le_rfl (by omega)
    refine ⟨drawn, t.password, fun rest => ?_⟩
    rw [gen_of_le (by omega), hleads]
    apply loop_of_not_lt
    rw [ht.length_eq]
    omega

/-- With fewer distinct characters the loop comes to a state that it does not leave. -/
theorem gen_sticks (hlt : charString.toFinset.card < length) : Sticks (gen charString length) := by
  have hstart := reached_start charString (by omega : 0 ≤ length)
  obtain ⟨drawn, t, ht, hi, hleads⟩ :=
    hstart.exists_leads (Nat.zero_le charString.toFinset.card) (by omega) le_rfl
  refine ⟨drawn, t, ?_, ?_⟩
  · have hdrawn := hleads []
    rw [List.append_nil] at hdrawn
    rw [gen_of_le (by omega), hdrawn]
    apply loop_nil_of_lt
    rw [ht.length_eq]
    omega
  · rw [ht.progresses_iff]
    omega

/-- A string of distinct characters allows the lengths up to its own. -/
theorem gen_progressive_iff : Progressive (gen charString length) ↔
    length ≤ charString.toFinset.card := by
  constructor
  · intro h
    by_contra hlt
    exact (gen_sticks (by omega)).not_progressive h
  · exact gen_progressive

/-! ### The four classes -/

inductive CharClass
  | lowerCase
  | upperCase
  | numbers
  | special
  deriving DecidableEq

namespace CharClass

def chars : CharClass → List Char
  | lowerCase => CHAR_LOWERCASE
  | upperCase => CHAR_UPPERCASE
  | numbers => CHAR_NUMBERS
  | special => CHAR_SPECIAL

def all : List CharClass := [lowerCase, numbers, upperCase, special]

theorem mem_all (k : CharClass) : k ∈ all := by
  cases k with
  | lowerCase => decide
  | upperCase => decide
  | numbers => decide
  | special => decide

/-- No character is in two classes, or twice in one. -/
theorem nodup_all : (all.flatMap chars).Nodup := List.Nodup.of_map Char.toNat (by decide +kernel)

theorem nodup_chars (k : CharClass) : k.chars.Nodup :=
  (List.nodup_flatMap.mp nodup_all).1 k k.mem_all

theorem disjoint_chars {j k : CharClass} (h : j ≠ k) : j.chars.Disjoint k.chars := by
  have hpairwise : all.Pairwise (Function.onFun List.Disjoint chars) :=
    (List.nodup_flatMap.mp nodup_all).2
  have hsymm : Std.Symm (Function.onFun List.Disjoint chars) := ⟨fun _ _ hjk => hjk.symm⟩
  exact hpairwise.forall j.mem_all k.mem_all h

theorem card_chars (k : CharClass) : k.chars.toFinset.card = k.chars.length :=
  List.toFinset_card_of_nodup k.nodup_chars

end CharClass

/-- The default string has the characters of three classes. -/
theorem nodup_default : CHAR_DEFAULT.Nodup := by
  have hall : CharClass.all.flatMap CharClass.chars = CHAR_DEFAULT ++ CHAR_SPECIAL := rfl
  have hnodup := CharClass.nodup_all
  rw [hall] at hnodup
  exact hnodup.of_append_left

theorem genOfLength_progressive_iff : Progressive (genOfLength length) ↔ length ≤ 62 := by
  rw [genOfLength, gen_progressive_iff, List.toFinset_card_of_nodup nodup_default]
  rfl

/-- Eight of the sixty-two characters. -/
theorem genDefault_progressive : Progressive genDefault :=
  genOfLength_progressive_iff.mpr (by decide)

/-- The characters of one class count for that class and for no other. -/
theorem countP_part {j k : CharClass} {part : List Char} (h : part ⊆ j.chars) :
    part.countP (· ∈ k.chars) = if j = k then part.length else 0 := by
  split_ifs with hjk
  · rw [← hjk]
    apply List.countP_eq_length.mpr
    intro c hc
    exact decide_eq_true (h hc)
  · apply List.countP_eq_zero.mpr
    intro c hc hk
    exact CharClass.disjoint_chars hjk (h hc) (of_decide_eq_true hk)

/-- As many characters of each class as asked for, and no others. -/
structure Counted (lowerCase upperCase numbers special : ℕ) (password : List Char) : Prop where
  lowerCases : password.countP (· ∈ CHAR_LOWERCASE) = lowerCase
  upperCases : password.countP (· ∈ CHAR_UPPERCASE) = upperCase
  digits : password.countP (· ∈ CHAR_NUMBERS) = numbers
  specials : password.countP (· ∈ CHAR_SPECIAL) = special
  length : password.length = lowerCase + upperCase + numbers + special

/-- One part of the given length from each class. -/
structure Parts (lowerCase upperCase numbers special : ℕ)
    (lowerCases digits upperCases specials : List Char) : Prop where
  lowerCases : Sample CHAR_LOWERCASE lowerCases ∧ lowerCases.length = lowerCase
  digits : Sample CHAR_NUMBERS digits ∧ digits.length = numbers
  upperCases : Sample CHAR_UPPERCASE upperCases ∧ upperCases.length = upperCase
  specials : Sample CHAR_SPECIAL specials ∧ specials.length = special

variable {lowerCase upperCase numbers special : ℕ}
  {lowerCases digits upperCases specials : List Char}

theorem Parts.countP
    (h : Parts lowerCase upperCase numbers special lowerCases digits upperCases specials)
    (k : CharClass) :
    (lowerCases ++ digits ++ upperCases ++ specials).countP (· ∈ k.chars) =
      (if .lowerCase = k then lowerCase else 0) + (if .numbers = k then numbers else 0) +
        (if .upperCase = k then upperCase else 0) + (if .special = k then special else 0) := by
  have hlower := @countP_part .lowerCase k _ h.lowerCases.1.subset
  have hdigits := @countP_part .numbers k _ h.digits.1.subset
  have hupper := @countP_part .upperCase k _ h.upperCases.1.subset
  have hspecial := @countP_part .special k _ h.specials.1.subset
  rw [List.countP_append, List.countP_append, List.countP_append, hlower, hdigits, hupper, hspecial,
    h.lowerCases.2, h.digits.2, h.upperCases.2, h.specials.2]

theorem disjoint_parts {j k : CharClass} {p q : List Char} (hp : p ⊆ j.chars) (hq : q ⊆ k.chars)
    (hjk : j ≠ k) : p.Disjoint q := fun _ hcp hcq => CharClass.disjoint_chars hjk (hp hcp) (hq hcq)

theorem Parts.nodup
    (h : Parts lowerCase upperCase numbers special lowerCases digits upperCases specials) :
    (lowerCases ++ digits ++ upperCases ++ specials).Nodup := by
  have hlower : lowerCases ⊆ CharClass.lowerCase.chars := h.lowerCases.1.subset
  have hdigits : digits ⊆ CharClass.numbers.chars := h.digits.1.subset
  have hupper : upperCases ⊆ CharClass.upperCase.chars := h.upperCases.1.subset
  have hspecial : specials ⊆ CharClass.special.chars := h.specials.1.subset
  have hfirst : (lowerCases ++ digits).Nodup :=
    h.lowerCases.1.nodup.append h.digits.1.nodup (disjoint_parts hlower hdigits nofun)
  have hsecond : (lowerCases ++ digits ++ upperCases).Nodup := by
    apply hfirst.append h.upperCases.1.nodup
    apply List.disjoint_append_left.mpr
    exact ⟨disjoint_parts hlower hupper nofun, disjoint_parts hdigits hupper nofun⟩
  apply hsecond.append h.specials.1.nodup
  simp only [List.disjoint_append_left]
  refine ⟨⟨?_, ?_⟩, ?_⟩
  · exact disjoint_parts hlower hspecial nofun
  · exact disjoint_parts hdigits hspecial nofun
  · exact disjoint_parts hupper hspecial nofun

/-- A reordering of the parts has the counts. -/
theorem Parts.counted
    (h : Parts lowerCase upperCase numbers special lowerCases digits upperCases specials)
    {password : List Char}
    (hperm : password.Perm (lowerCases ++ digits ++ upperCases ++ specials)) :
    Counted lowerCase upperCase numbers special password where
  lowerCases := (hperm.countP_eq _).trans ((h.countP .lowerCase).trans (by simp))
  upperCases := (hperm.countP_eq _).trans ((h.countP .upperCase).trans (by simp))
  digits := (hperm.countP_eq _).trans ((h.countP .numbers).trans (by simp))
  specials := (hperm.countP_eq _).trans ((h.countP .special).trans (by simp))
  length := by
    rw [hperm.length_eq]
    simp only [List.length_append, h.lowerCases.2, h.digits.2, h.upperCases.2, h.specials.2]
    omega

/-- What the code should keep for the counts: progress in every loop state reached before the
requested length, and the counts in every password returned. -/
structure Lawful (lowerCase upperCase numbers special : ℕ) : Prop where
  progress : Progressive (genOfClasses lowerCase upperCase numbers special)
  counts : ∀ drawn password rest,
    genOfClasses lowerCase upperCase numbers special drawn = .ok password rest →
      Counted lowerCase upperCase numbers special password

/-- A run that returns has drawn a part from each class and puts the parts in some order. -/
theorem exists_parts {drawn rest : List ℕ} {password : List Char}
    (h : genOfClasses lowerCase upperCase numbers special drawn = .ok password rest) :
    ∃ lowerCases digits upperCases specials,
      Parts lowerCase upperCase numbers special lowerCases digits upperCases specials ∧
        password.Perm (lowerCases ++ digits ++ upperCases ++ specials) := by
  obtain ⟨lowerCases, drawn₁, hlower, h⟩ := bind_eq_ok.mp h
  obtain ⟨digits, drawn₂, hdigits, h⟩ := bind_eq_ok.mp h
  obtain ⟨upperCases, drawn₃, hupper, h⟩ := bind_eq_ok.mp h
  obtain ⟨specials, drawn₄, hspecial, h⟩ := bind_eq_ok.mp h
  obtain ⟨hsample, hlength⟩ := gen_ok h
  have hperm := hsample.perm hlength.ge
  refine ⟨lowerCases, digits, upperCases, specials, ?_, hperm⟩
  exact ⟨gen_ok hlower, gen_ok hdigits, gen_ok hupper, gen_ok hspecial⟩

theorem genOfClasses_counted {drawn rest : List ℕ} {password : List Char}
    (h : genOfClasses lowerCase upperCase numbers special drawn = .ok password rest) :
    Counted lowerCase upperCase numbers special password := by
  obtain ⟨_, _, _, _, hparts, hperm⟩ := exists_parts h
  exact hparts.counted hperm

/-- No class is asked for more characters than it has. -/
structure Fits (lowerCase upperCase numbers special : ℕ) : Prop where
  lowerCase_le : lowerCase ≤ CHAR_LOWERCASE.length
  upperCase_le : upperCase ≤ CHAR_UPPERCASE.length
  numbers_le : numbers ≤ CHAR_NUMBERS.length
  special_le : special ≤ CHAR_SPECIAL.length

theorem gen_chars_progressive (k : CharClass) {n : ℕ} (h : n ≤ k.chars.length) :
    Progressive (gen k.chars n) := by
  apply gen_progressive
  rw [k.card_chars]
  exact Int.ofNat_le.mpr h

theorem gen_chars_completes (k : CharClass) {n : ℕ} (h : n ≤ k.chars.length) :
    Completes (gen k.chars n) := by
  apply gen_completes
  rw [k.card_chars]
  exact Int.ofNat_le.mpr h

theorem gen_chars_sticks (k : CharClass) {n : ℕ} (h : ¬n ≤ k.chars.length) :
    Sticks (gen k.chars n) := by
  apply gen_sticks
  rw [k.card_chars]
  omega

/-- The characters drawn differ, so that the last loop has enough of them. -/
theorem Fits.progressive (h : Fits lowerCase upperCase numbers special) :
    Progressive (genOfClasses lowerCase upperCase numbers special) := by
  refine (gen_chars_progressive .lowerCase h.lowerCase_le).bind fun _ _ _ hlower => ?_
  refine (gen_chars_progressive .numbers h.numbers_le).bind fun _ _ _ hdigits => ?_
  refine (gen_chars_progressive .upperCase h.upperCase_le).bind fun _ _ _ hupper => ?_
  refine (gen_chars_progressive .special h.special_le).bind fun _ _ _ hspecial => ?_
  have hparts : Parts lowerCase upperCase numbers special _ _ _ _ :=
    ⟨gen_ok hlower, gen_ok hdigits, gen_ok hupper, gen_ok hspecial⟩
  apply gen_progressive
  rw [List.toFinset_card_of_nodup hparts.nodup]

/-- The first loop that is asked for too much is reached, and does not end. -/
theorem sticks_of_not_fits (h : ¬Fits lowerCase upperCase numbers special) :
    Sticks (genOfClasses lowerCase upperCase numbers special) := by
  by_cases hlower : lowerCase ≤ CHAR_LOWERCASE.length
  case neg => exact (gen_chars_sticks .lowerCase hlower).bind _
  refine (gen_chars_completes .lowerCase hlower).bind_sticks fun _ => ?_
  by_cases hnumbers : numbers ≤ CHAR_NUMBERS.length
  case neg => exact (gen_chars_sticks .numbers hnumbers).bind _
  refine (gen_chars_completes .numbers hnumbers).bind_sticks fun _ => ?_
  by_cases hupper : upperCase ≤ CHAR_UPPERCASE.length
  case neg => exact (gen_chars_sticks .upperCase hupper).bind _
  refine (gen_chars_completes .upperCase hupper).bind_sticks fun _ => ?_
  by_cases hspecial : special ≤ CHAR_SPECIAL.length
  case neg => exact (gen_chars_sticks .special hspecial).bind _
  exact absurd ⟨hlower, hupper, hnumbers, hspecial⟩ h

theorem length_le_of_sample (k : CharClass) {part : List Char} {n : ℕ}
    (h : Sample k.chars part ∧ part.length = n) : n ≤ k.chars.length := by
  have hle := h.1.length_le
  rw [k.card_chars, h.2] at hle
  exact hle

theorem Parts.fits
    (h : Parts lowerCase upperCase numbers special lowerCases digits upperCases specials) :
    Fits lowerCase upperCase numbers special where
  lowerCase_le := length_le_of_sample .lowerCase h.lowerCases
  upperCase_le := length_le_of_sample .upperCase h.upperCases
  numbers_le := length_le_of_sample .numbers h.digits
  special_le := length_le_of_sample .special h.specials

/-- Some stream lets the call return exactly where no class is asked for more than it has. -/
theorem completes_iff_fits : Completes (genOfClasses lowerCase upperCase numbers special) ↔
    Fits lowerCase upperCase numbers special := by
  constructor
  · intro h
    obtain ⟨drawn, password, hdrawn⟩ := h
    obtain ⟨_, _, _, _, hparts, -⟩ := exists_parts (hdrawn [])
    exact hparts.fits
  · intro h
    refine (gen_chars_completes .lowerCase h.lowerCase_le).bind fun _ _ _ hlower => ?_
    refine (gen_chars_completes .numbers h.numbers_le).bind fun _ _ _ hdigits => ?_
    refine (gen_chars_completes .upperCase h.upperCase_le).bind fun _ _ _ hupper => ?_
    refine (gen_chars_completes .special h.special_le).bind fun _ _ _ hspecial => ?_
    have hparts : Parts lowerCase upperCase numbers special _ _ _ _ :=
      ⟨gen_ok hlower, gen_ok hdigits, gen_ok hupper, gen_ok hspecial⟩
    apply gen_completes
    rw [List.toFinset_card_of_nodup hparts.nodup]

/-- Progress and counts are kept exactly where no class is asked for more characters than it
has. -/
theorem genOfClasses_lawful_iff (lowerCase upperCase numbers special : ℕ) :
    Lawful lowerCase upperCase numbers special ↔
      lowerCase ≤ 26 ∧ upperCase ≤ 26 ∧ numbers ≤ 10 ∧ special ≤ 21 := by
  constructor
  · intro h
    have hfits : Fits lowerCase upperCase numbers special := by
      by_contra hnot
      exact (sticks_of_not_fits hnot).not_progressive h.progress
    exact ⟨hfits.lowerCase_le, hfits.upperCase_le, hfits.numbers_le, hfits.special_le⟩
  · intro h
    obtain ⟨hlower, hupper, hnumbers, hspecial⟩ := h
    have hfits : Fits lowerCase upperCase numbers special := ⟨hlower, hupper, hnumbers, hspecial⟩
    exact ⟨hfits.progressive, fun _ _ _ => genOfClasses_counted⟩

/-- Twenty-seven different lower-case characters do not exist, and the loop looks for them. -/
theorem genOfClasses_not_lawful : ¬Lawful 27 0 0 0 := by
  intro h
  have hstuck : Sticks (genOfClasses (27 : ℕ) (0 : ℕ) (0 : ℕ) (0 : ℕ)) :=
    sticks_of_not_fits fun hfits => absurd hfits.lowerCase_le (by decide)
  exact hstuck.not_progressive h.progress

end MaxKey.PasswordGen
