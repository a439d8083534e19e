import Mathlib.Algebra.Group.Defs
import Mathlib.Data.Set.Function

namespace CheckDigits

variable {α M : Type*} [AddCancelCommMonoid M]

/-- The sum over a list whose members are weighed by turns. -/
def weigh (f g : α → M) : List α → M
  | [] => 0
  | a :: as => f a + weigh g f as

/-- A single wrong member: another one in its place, or two neighbours exchanged. -/
inductive SingleError : List α → List α → Prop
  | substituted (xs : List α) {a b : α} (ys : List α) (h : a ≠ b) :
    SingleError (xs ++ a :: ys) (xs ++ b :: ys)
  | transposed (xs : List α) {a b : α} (ys : List α) (h : a ≠ b) :
    SingleError (xs ++ a :: b :: ys) (xs ++ b :: a :: ys)

variable {f g : α → M} {s : Set α} {a b : α} {xs ys v w : List α}

/-- Another member in some place changes the sum, whichever weight has its turn there. -/
theorem weigh_substituted_iff (hf : s.InjOn f) (hg : s.InjOn g) (ha : a ∈ s) (hb : b ∈ s) :
    weigh f g (xs ++ a :: ys) = weigh f g (xs ++ b :: ys) ↔ a = b := by
  induction xs generalizing f g with
  | nil =>
    show f a + weigh g f ys = f b + weigh g f ys ↔ a = b
    rw [add_left_inj]
    exact hf.eq_iff ha hb
  | cons x xs ih =>
    show f x + weigh g f (xs ++ a :: ys) = f x + weigh g f (xs ++ b :: ys) ↔ a = b
    rw [add_right_inj]
    exact ih hg hf

/-- Two neighbours are exchanged without a trace exactly if the weights do not tell them apart; the
condition is the same for either turn. -/
theorem weigh_transposed_iff :
    weigh f g (xs ++ a :: b :: ys) = weigh f g (xs ++ b :: a :: ys) ↔ f a + g b = f b + g a := by
  induction xs generalizing f g with
  | nil =>
    show f a + (g b + weigh f g ys) = f b + (g a + weigh f g ys) ↔ _
    rw [← add_assoc, ← add_assoc, add_left_inj]
  | cons x xs ih =>
    show f x + weigh g f (xs ++ a :: b :: ys) = f x + weigh g f (xs ++ b :: a :: ys) ↔ _
    rw [add_right_inj, ih, add_comm (g a), add_comm (g b)]
    exact eq_comm

theorem SingleError.length_eq (h : SingleError v w) : v.length = w.length := by
  cases h with
  | substituted xs ys h => simp
  | transposed xs ys h => simp

/-- The lists arise from each other by an exchange of these two neighbours. -/
def Exchanged (a b : α) (v w : List α) : Prop :=
  ∃ xs ys, v = xs ++ a :: b :: ys ∧ w = xs ++ b :: a :: ys

end CheckDigits
