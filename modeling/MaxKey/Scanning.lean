import Mathlib.Data.List.Infix
import Mathlib.Data.List.Flatten
import Mathlib.Order.Basic

namespace MaxKey.Scanning

/-- The value of a digit. -/
def digit (base : ℕ) (c : Char) : Option ℕ :=
  (if '0' ≤ c ∧ c ≤ '9' then some (c.toNat - '0'.toNat)
    else if 'a' ≤ c ∧ c ≤ 'f' then some (c.toNat - 'a'.toNat + 10)
    else if 'A' ≤ c ∧ c ≤ 'F' then some (c.toNat - 'A'.toNat + 10)
    else none).filter (· < base)

/-! ### Text up to a delimiter -/

section Until

variable {c : Char} {text rest : List Char}

theorem takeWhile_append_cons (h : c ∉ text) : (text ++ c :: rest).takeWhile (· ≠ c) = text := by
  have hbefore : ∀ d ∈ text, decide (d ≠ c) = true := fun d hd =>
    decide_eq_true fun hsame => h (hsame ▸ hd)
  rw [List.takeWhile_append_of_pos hbefore]
  simp

theorem dropWhile_append_cons (h : c ∉ text) :
    (text ++ c :: rest).dropWhile (· ≠ c) = c :: rest := by
  have hbefore : ∀ d ∈ text, decide (d ≠ c) = true := fun d hd =>
    decide_eq_true fun hsame => h (hsame ▸ hd)
  rw [List.dropWhile_append_of_pos hbefore]
  simp

theorem dropWhile_eq_cons (h : c ∈ text) :
    text.dropWhile (· ≠ c) = c :: (text.dropWhile (· ≠ c)).tail := by
  obtain ⟨first, second, rfl, hfirst⟩ := List.eq_append_cons_of_mem h
  rw [dropWhile_append_cons hfirst, List.tail_cons]

/-- A text that has the delimiter itself is cut short. -/
theorem length_takeWhile_lt (rest : List Char) (h : c ∈ text) :
    ((text ++ rest).takeWhile (· ≠ c)).length < text.length := by
  obtain ⟨first, second, rfl, hfirst⟩ := List.eq_append_cons_of_mem h
  rw [List.append_assoc, List.cons_append, takeWhile_append_cons hfirst, List.length_append,
    List.length_cons]
  omega

end Until

/-! ### Decoders -/

/-- A decoder takes a text character by character and gives at most one character for each. -/
structure Decoder (σ : Type*) where
  step : σ → Char → Option (σ × Option Char)
  accepts : σ → Bool

namespace Decoder

variable {σ : Type*} (D : Decoder σ) {s t : σ} {text out : List Char}

def decode (s : σ) : List Char → Option (List Char)
  | [] => if D.accepts s then some [] else none
  | c :: cs => (D.step s c).bind fun r => (decode r.1 cs).map (r.2.toList ++ ·)

/-- The decoder takes the character for itself, and is where it was. -/
def Plain (s : σ) (c : Char) : Prop := D.step s c = some (s, some c)

variable {D}

theorem decode_cons {c : Char} : D.decode s (c :: text) = some out ↔
    ∃ t d tail, D.step s c = some (t, d) ∧ D.decode t text = some tail ∧ d.toList ++ tail = out := by
  rw [decode, Option.bind_eq_some_iff]
  constructor
  · intro ⟨r, hstep, h⟩
    obtain ⟨tail, htail, hout⟩ := Option.map_eq_some_iff.mp h
    exact ⟨r.1, r.2, tail, hstep, htail, hout⟩
  · intro ⟨t, d, tail, hstep, htail, hout⟩
    exact ⟨(t, d), hstep, Option.map_eq_some_iff.mpr ⟨tail, htail, hout⟩⟩

theorem length_le_of_decode (h : D.decode s text = some out) : out.length ≤ text.length := by
  induction text generalizing s out with
  | nil =>
    unfold decode at h
    split_ifs at h
    rw [← Option.some.inj h]
  | cons c cs ih =>
    obtain ⟨t, d, tail, -, htail, rfl⟩ := decode_cons.mp h
    have hshort := ih htail
    have hone : d.toList.length ≤ 1 := by cases d <;> simp
    rw [List.length_append, List.length_cons]
    omega

/-- A character that is kept by the decoder of every state is not lost. -/
theorem count_le_of_decode {c : Char} (hkeep : ∀ s t d, D.step s c = some (t, d) → d = some c)
    (h : D.decode s text = some out) : text.count c ≤ out.count c := by
  induction text generalizing s out with
  | nil => exact Nat.zero_le _
  | cons x xs ih =>
    obtain ⟨t, d, tail, hstep, htail, rfl⟩ := decode_cons.mp h
    have hrest := ih htail
    rw [List.count_cons, List.count_append]
    by_cases hx : x = c
    · subst hx
      rw [hkeep s t d hstep]
      simp only [Option.toList_some, List.count_singleton_self, BEq.rfl, if_true]
      omega
    · have hzero : (if (x == c) = true then 1 else 0) = 0 := if_neg (by simpa using hx)
      omega

/-- A text is what it is decoded to exactly if each of its characters stands for itself. -/
theorem decode_eq_self_iff (haccepts : D.accepts s)
    (hself : ∀ c t, D.step s c = some (t, some c) → t = s) :
    D.decode s text = some text ↔ ∀ c ∈ text, D.Plain s c := by
  induction text with
  | nil =>
    unfold decode
    rw [if_pos haccepts]
    exact iff_of_true rfl (List.forall_mem_nil _)
  | cons c cs ih =>
    rw [decode_cons, List.forall_mem_cons, ← ih]
    unfold Plain
    constructor
    · intro ⟨t, d, tail, hstep, htail, hout⟩
      cases d with
      | none =>
        -- nothing makes up for a character that is dropped
        have hshort := length_le_of_decode htail
        have hlength := congrArg List.length hout
        simp only [Option.toList_none, List.nil_append, List.length_cons] at hlength
        omega
      | some d =>
        obtain ⟨rfl, rfl⟩ := List.cons.inj hout
        have hstay := hself d t hstep
        rw [hstay] at hstep htail
        exact ⟨hstep, htail⟩
    · intro ⟨hstep, htail⟩
      exact ⟨s, some c, cs, hstep, htail, rfl⟩

end Decoder

/-! ### Scanners -/

/-- A scanner takes some characters off the front of a text in each step, and reports events. -/
structure Scanner (σ ε : Type*) where
  next : σ → List Char → Option (List ε × σ × List Char)
  accepts : σ → Bool
  shrinks : ∀ {s text es t rest}, next s text = some (es, t, rest) → rest.length < text.length

namespace Scanner

variable {σ ε : Type*} (S : Scanner σ ε)

def run : ℕ → σ → List Char → Option (List ε)
  | _, s, [] => if S.accepts s then some [] else none
  | 0, _, _ :: _ => none
  | n + 1, s, c :: cs =>
    (S.next s (c :: cs)).bind fun step => (run n step.2.1 step.2.2).map (step.1 ++ ·)

/-- The events of a text, if it is accepted. No step takes nothing, so its length bounds the steps. -/
def read (s : σ) (text : List Char) : Option (List ε) := S.run text.length s text

variable {S} {s t u : σ} {text rest : List Char} {es more : List ε}

theorem run_eq_run {m n : ℕ} (hm : text.length ≤ m) (hn : text.length ≤ n) :
    S.run m s text = S.run n s text := by
  induction m generalizing n s text with
  | zero =>
    have hnil : text = [] := List.length_eq_zero_iff.mp (Nat.le_zero.mp hm)
    subst hnil
    cases n <;> rfl
  | succ m ih =>
    cases text with
    | nil => cases n <;> rfl
    | cons c cs =>
      cases n with
      | zero => simp at hn
      | succ n =>
        rw [run, run]
        apply Option.bind_congr
        intro ⟨es, t, rest⟩ hstep
        have hshort := S.shrinks hstep
        rw [List.length_cons] at hm hn hshort
        have hsame : S.run m t rest = S.run n t rest := ih (by omega) (by omega)
        rw [hsame]

theorem read_nil : S.read s [] = if S.accepts s then some [] else none := rfl

theorem read_cons {c : Char} {cs : List Char} : S.read s (c :: cs) =
    (S.next s (c :: cs)).bind fun step => (S.read step.2.1 step.2.2).map (step.1 ++ ·) := by
  unfold read
  rw [List.length_cons, run]
  apply Option.bind_congr
  intro ⟨es, t, rest⟩ hstep
  have hshort := S.shrinks hstep
  rw [List.length_cons] at hshort
  rw [run_eq_run (Nat.le_of_lt_succ hshort) le_rfl]

theorem read_of_next (h : S.next s text = some (es, t, rest)) :
    S.read s text = (S.read t rest).map (es ++ ·) := by
  cases text with
  | nil => exact absurd (S.shrinks h) (Nat.not_lt_zero _)
  | cons c cs => rw [read_cons, h, Option.bind_some]

theorem read_of_next_nil (h : S.next s text = some ([], t, rest)) :
    S.read s text = S.read t rest := by
  rw [read_of_next h]
  exact Option.map_id'

theorem next_of_read (hne : text ≠ []) (h : S.read s text = some es) : ∃ now t rest later,
    S.next s text = some (now, t, rest) ∧ S.read t rest = some later ∧ now ++ later = es := by
  cases text with
  | nil => exact absurd rfl hne
  | cons c cs =>
    rw [read_cons] at h
    obtain ⟨⟨now, t, rest⟩, hnext, h⟩ := Option.bind_eq_some_iff.mp h
    obtain ⟨later, hlater, hes⟩ := Option.map_eq_some_iff.mp h
    exact ⟨now, t, rest, later, hnext, hlater, hes⟩

variable (S) in
/-- The text is reported as these events, whatever follows it, exactly if the condition holds. -/
def Exact (s : σ) (text : List Char) (es : List ε) (t : σ) (p : Prop) : Prop :=
  ∀ rest more, S.read s (text ++ rest) = some (es ++ more) ↔ p ∧ S.read t rest = some more

namespace Exact

variable {text' : List Char} {es' : List ε} {p q : Prop}

theorem nil : S.Exact s [] [] s True := by
  intro rest more
  rw [true_and]
  rfl

/-- A second text is read from where the first has led, if it has been read as it was meant. -/
theorem append_of (h : S.Exact s text es t p) (h' : p → S.Exact t text' es' u q) :
    S.Exact s (text ++ text') (es ++ es') u (p ∧ q) := by
  intro rest more
  rw [List.append_assoc, List.append_assoc, h, and_assoc]
  apply and_congr_right
  intro hp
  exact h' hp rest more

theorem append (h : S.Exact s text es t p) (h' : S.Exact t text' es' u q) :
    S.Exact s (text ++ text') (es ++ es') u (p ∧ q) := h.append_of fun _ => h'

theorem congr (h : S.Exact s text es t p) (hpq : p ↔ q) : S.Exact s text es t q := by
  intro rest more
  rw [h, hpq]

theorem of_next (h : ∀ rest, S.next s (text ++ rest) = some (es, t, rest)) :
    S.Exact s text es t True := by
  intro rest more
  rw [read_of_next (h rest), true_and, ← Option.map_some]
  exact (Option.map_injective (List.append_right_injective es)).eq_iff

/-- Texts one after the other, each of which leaves the state as it is. -/
theorem flatMap {α : Type*} {items : List α} {f : α → List Char} {g : α → List ε} {p : α → Prop}
    (h : ∀ x ∈ items, S.Exact s (f x) (g x) s (p x)) :
    S.Exact s (items.flatMap f) (items.flatMap g) s (∀ x ∈ items, p x) := by
  induction items with
  | nil => exact nil.congr (iff_of_true trivial (List.forall_mem_nil p))
  | cons x xs ih =>
    rw [List.forall_mem_cons] at h ⊢
    exact h.1.append (ih h.2)

/-- Texts with a separator between them: the first is read from `s`, the others from `u`. -/
theorem intercalate {α : Type*} {sep : List Char} {f : α → List Char} {g : α → List ε} {p : α → Prop}
    (hsep : S.Exact t sep [] u True) {x : α} {xs : List α} (hfirst : S.Exact s (f x) (g x) t (p x))
    (hrest : ∀ y ∈ xs, S.Exact u (f y) (g y) t (p y)) :
    S.Exact s (sep.intercalate ((x :: xs).map f)) ((x :: xs).flatMap g) t (∀ y ∈ x :: xs, p y) := by
  induction xs generalizing s x with
  | nil =>
    rw [List.map_singleton, List.intercalate_singleton, List.flatMap_singleton]
    exact hfirst.congr List.forall_mem_singleton.symm
  | cons y ys ih =>
    obtain ⟨hy, hys⟩ := List.forall_mem_cons.mp hrest
    rw [List.map_cons, List.map_cons, List.intercalate_cons_cons, List.append_assoc,
      List.flatMap_cons, List.forall_mem_cons]
    apply (hfirst.append (hsep.append (ih hy hys))).congr
    rw [true_and]

/-- The whole text. -/
theorem read_iff (h : S.Exact s text es t p) (ht : S.accepts t) : S.read s text = some es ↔ p := by
  have hall := h [] []
  rw [List.append_nil, List.append_nil, read_nil, if_pos ht] at hall
  exact hall.trans (and_iff_left rfl)

end Exact

end Scanner

end MaxKey.Scanning
