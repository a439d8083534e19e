import Mathlib.Algebra.BigOperators.Intervals
import Mathlib.Algebra.Order.BigOperators.Group.Finset
import Mathlib.Data.Nat.Notation

namespace Gregorian
open Finset

/-- Walks along intervals of the given lengths, from the interval `i` on: the interval that the
position `n` falls into, and its place there. -/
def locate (len : ℕ → ℕ) : ℕ → ℕ → ℕ → ℕ × ℕ
  | 0, i, n => (i, n)
  | fuel + 1, i, n => if n < len i then (i, n) else locate len fuel (i + 1) (n - len i)

variable {len : ℕ → ℕ} {fuel i n : ℕ}

theorem le_locate (len : ℕ → ℕ) (fuel i n : ℕ) : i ≤ (locate len fuel i n).1 := by
  induction fuel generalizing i n with
  | zero => exact le_rfl
  | succ fuel ih =>
    rw [locate]
    split_ifs with h
    · exact le_rfl
    · have hle := ih (i + 1) (n - len i)
      omega

/-- The position is the length of the intervals passed and the place in the next. -/
theorem locate_total (len : ℕ → ℕ) (fuel i n : ℕ) :
    ∑ k ∈ Ico i (locate len fuel i n).1, len k + (locate len fuel i n).2 = n := by
  induction fuel generalizing i n with
  | zero => simp [locate]
  | succ fuel ih =>
    rw [locate]
    split_ifs with h
    · simp
    · have htotal := ih (i + 1) (n - len i)
      have hle := le_locate len fuel (i + 1) (n - len i)
      rw [sum_eq_sum_Ico_succ_bot (by omega)]
      omega

/-- A position within the intervals walked along falls into one of them. -/
theorem locate_lt (h : n < ∑ k ∈ Ico i (i + fuel), len k) :
    (locate len fuel i n).1 < i + fuel ∧
      (locate len fuel i n).2 < len (locate len fuel i n).1 := by
  induction fuel generalizing i n with
  | zero => simp at h
  | succ fuel ih =>
    rw [sum_eq_sum_Ico_succ_bot (by omega)] at h
    rw [locate]
    split_ifs with hlt
    · exact ⟨by omega, hlt⟩
    · have hend : i + 1 + fuel = i + (fuel + 1) := by omega
      have hrest : n - len i < ∑ k ∈ Ico (i + 1) (i + 1 + fuel), len k := by
        rw [hend]
        omega
      obtain ⟨hinterval, hplace⟩ := ih hrest
      exact ⟨by omega, hplace⟩

/-! ### Dates -/

def isLeap (year : ℕ) : Bool := year % 4 = 0 ∧ (year % 100 ≠ 0 ∨ year % 400 = 0)

def daysInYear (year : ℕ) : ℕ := if isLeap year then 366 else 365

def daysInMonth (year : ℕ) : ℕ → ℕ
  | 2 => if isLeap year then 29 else 28
  | 4 | 6 | 9 | 11 => 30
  | _ => 31

@[ext] structure Date where
  year : ℕ
  month : ℕ
  day : ℕ
  deriving DecidableEq, Repr

/-- The date of a day counted from the first of January 1600. -/
def Date.ofDay (n : ℕ) : Date :=
  let year := locate daysInYear (n + 1) 1600 n
  let month := locate (daysInMonth year.1) 12 1 year.2
  ⟨year.1, month.1, month.2 + 1⟩

def Date.dayNumber (d : Date) : ℕ :=
  ∑ k ∈ Ico 1600 d.year, daysInYear k + (∑ k ∈ Ico 1 d.month, daysInMonth d.year k + (d.day - 1))

theorem dayNumber_ofDay (n : ℕ) : (Date.ofDay n).dayNumber = n := by
  have hyear := locate_total daysInYear (n + 1) 1600 n
  have hmonth := locate_total (daysInMonth (locate daysInYear (n + 1) 1600 n).1) 12 1
    (locate daysInYear (n + 1) 1600 n).2
  rw [Date.dayNumber, Date.ofDay]
  simp only [Nat.add_sub_cancel]
  omega

example : Date.ofDay 135140 = ⟨1970, 1, 1⟩ := by decide +kernel

theorem ofDay_injective : Function.Injective Date.ofDay := by
  intro m n h
  rw [← dayNumber_ofDay m, h, dayNumber_ofDay]

theorem sum_daysInMonth (year : ℕ) : ∑ k ∈ Ico 1 13, daysInMonth year k = daysInYear year := by
  simp only [sum_Ico_eq_sum_range, sum_range_succ, sum_range_zero, daysInMonth, daysInYear]
  split_ifs
  · rfl
  · rfl

theorem lt_sum_daysInYear (n : ℕ) : n < ∑ k ∈ Ico 1600 (1600 + (n + 1)), daysInYear k := by
  have hone : ∀ k, 1 ≤ daysInYear k := by
    intro k
    unfold daysInYear
    split_ifs
    · omega
    · omega
  calc n < ∑ _k ∈ Ico 1600 (1600 + (n + 1)), 1 := by
        rw [← card_eq_sum_ones, Nat.card_Ico]
        omega
    _ ≤ _ := sum_le_sum fun k _ => hone k

theorem daysInMonth_le (year month : ℕ) : daysInMonth year month ≤ 31 := by
  unfold daysInMonth
  split
  · split_ifs
    · omega
    · omega
  all_goals omega

/-- The months are those of a year, and the days those of a month. -/
theorem ofDay_bounds (n : ℕ) : (Date.ofDay n).month ≤ 12 ∧ (Date.ofDay n).day ≤ 31 := by
  have hyear := (locate_lt (lt_sum_daysInYear n)).2
  rw [← sum_daysInMonth] at hyear
  obtain ⟨hmonth, hday⟩ := @locate_lt (daysInMonth _) 12 1 _ hyear
  refine ⟨Nat.lt_succ_iff.mp hmonth, ?_⟩
  exact hday.trans_le (daysInMonth_le _ _)

/-! ### Times of day -/

@[ext] structure DateTime where
  date : Date
  hour : ℕ
  minute : ℕ
  second : ℕ
  deriving DecidableEq, Repr

/-- The date and time of a second counted from the beginning of the year 1600. -/
def DateTime.ofSecond (n : ℕ) : DateTime where
  date := .ofDay (n / 86400)
  hour := n % 86400 / 3600
  minute := n % 3600 / 60
  second := n % 60

theorem ofSecond_injective : Function.Injective DateTime.ofSecond := by
  intro m n h
  have hday := ofDay_injective (congrArg DateTime.date h)
  have hhour := congrArg DateTime.hour h
  have hminute := congrArg DateTime.minute h
  have hsecond := congrArg DateTime.second h
  simp only [DateTime.ofSecond] at hhour hminute hsecond
  omega

/-- Every part but the year has two digits. -/
theorem ofSecond_lt (n : ℕ) : (DateTime.ofSecond n).date.month < 100 ∧
    (DateTime.ofSecond n).date.day < 100 ∧ (DateTime.ofSecond n).hour < 100 ∧
      (DateTime.ofSecond n).minute < 100 ∧ (DateTime.ofSecond n).second < 100 := by
  have hdate := ofDay_bounds (n / 86400)
  simp only [DateTime.ofSecond]
  omega

end Gregorian
