import Mathlib.Data.ZMod.Basic
import MaxKey.BigEndian
import MaxKey.CheckDigits
import MaxKey.OtpAlgorithms

namespace MaxKey.OtpAlgorithms.HOTP
open BigEndian CheckDigits

/-- The checksum of the number that digits spell. -/
def checksum (ds : List ℕ) : ℕ := calcChecksum (value 10 ds) ds.length

/-- The last digit of an entry is the checksum of those before it. -/
def Matches (entry : List ℕ) : Prop := ∃ ds, entry = ds ++ [checksum ds]

/-- What a digit counts for, as it is and doubled. -/
def single (d : ℕ) : ZMod 10 := d

def double (d : ℕ) : ZMod 10 := doubleDigits.getD d 0

variable {ds entry : List ℕ} {c d : ℕ}

theorem injOn_single : {d | d < 10}.InjOn single := by
  intro a ha b hb h
  unfold single at h
  rw [ZMod.natCast_eq_natCast_iff', Nat.mod_eq_of_lt ha, Nat.mod_eq_of_lt hb] at h
  exact h

theorem injOn_double : {d | d < 10}.InjOn double := by
  intro a ha b hb
  have hall : ∀ a < 10, ∀ b < 10, double a = double b → a = b := by decide
  exact hall a ha b hb

/-- Of two different digits only 0 and 9 count for the same in either order. -/
theorem single_add_double_iff {a b : ℕ} (ha : a < 10) (hb : b < 10) (h : a ≠ b) :
    single a + double b = single b + double a ↔ (a = 0 ∧ b = 9) ∨ (a = 9 ∧ b = 0) := by
  have hall : ∀ a < 10, ∀ b < 10, a ≠ b →
      (single a + double b = single b + double a ↔ (a = 0 ∧ b = 9) ∨ (a = 9 ∧ b = 0)) := by
    decide
  exact hall a ha b hb h

/-- The loop sums up the digits from the last one on, which is doubled first. -/
theorem total_value (rs : List ℕ) (h : ∀ d ∈ rs, d < 10) (doubleDigit : Bool) :
    (total rs.length (value 10 rs.reverse) doubleDigit : ZMod 10) =
      if doubleDigit then weigh double single rs else weigh single double rs := by
  induction rs generalizing doubleDigit with
  | nil => simp [total, weigh]
  | cons r rs ih =>
    have hr : r < 10 := h r List.mem_cons_self
    have hrest := ih (fun d hd => h d (List.mem_cons_of_mem r hd)) !doubleDigit
    have hdiv : (value 10 rs.reverse * 10 + r) / 10 = value 10 rs.reverse := by omega
    have hmod : (value 10 rs.reverse * 10 + r) % 10 = r := by omega
    rw [List.reverse_cons, value_concat, List.length_cons, total, hdiv, hmod, Nat.cast_add, hrest]
    cases doubleDigit with
    | true => rfl
    | false => rfl

theorem calcChecksum_lt (num : ℕ) (digits : ℤ) : calcChecksum num digits < 10 := by
  unfold calcChecksum
  have hlt : total digits.toNat num true % 10 < 10 := Nat.mod_lt _ (by omega)
  simp only
  split_ifs
  · omega
  · exact hlt

/-- The checksum makes up for the sum. -/
theorem calcChecksum_add (num : ℕ) (digits : ℤ) :
    (calcChecksum num digits + total digits.toNat num true : ZMod 10) = 0 := by
  have hsum : 10 ∣ calcChecksum num digits + total digits.toNat num true := by
    unfold calcChecksum
    simp only
    split_ifs
    · omega
    · omega
  have hzero := (ZMod.natCast_eq_zero_iff _ 10).mpr hsum
  rw [← hzero, Nat.cast_add]

/-- An entry of digits matches exactly if its digits, weighed by turns from the last one on, make a
multiple of ten. -/
theorem matches_iff (h : ∀ d ∈ ds ++ [c], d < 10) :
    Matches (ds ++ [c]) ↔ weigh single double (ds ++ [c]).reverse = 0 := by
  have hds : ∀ d ∈ ds.reverse, d < 10 := fun d hd =>
    h d (List.mem_append_left _ (List.mem_reverse.mp hd))
  have hc : c < 10 := h c (by simp)
  have htotal := total_value ds.reverse hds true
  rw [List.reverse_reverse, List.length_reverse, if_pos rfl] at htotal
  have hweigh : weigh single double (ds ++ [c]).reverse =
      single c + total ds.length (value 10 ds) true := by
    rw [List.reverse_append, htotal]
    rfl
  have hmade : single (checksum ds) + total ds.length (value 10 ds) true = 0 :=
    calcChecksum_add (value 10 ds) ds.length
  have hsame : Matches (ds ++ [c]) ↔ c = checksum ds := by
    constructor
    · intro ⟨es, hes⟩
      obtain ⟨hinit, hlast⟩ := List.append_inj' hes rfl
      rw [hinit]
      exact List.singleton_inj.mp hlast
    · intro hlast
      exact ⟨ds, by rw [hlast]⟩
  rw [hsame, hweigh, ← hmade, add_left_inj]
  exact (injOn_single.eq_iff hc (calcChecksum_lt _ _)).symm

section

variable {v w : List ℕ}

theorem weigh_of_exchanged {a b : ℕ} (hab : single b + double a = single a + double b)
    (h : Exchanged a b v w) : weigh single double v.reverse = weigh single double w.reverse := by
  obtain ⟨xs, ys, hv, hw⟩ := h
  rw [hv, hw]
  simp only [List.reverse_append, List.reverse_cons, List.append_assoc, List.singleton_append]
  exact weigh_transposed_iff.mpr hab

/-- Seen from the last digit, a wrong entry leaves the sum as it is only by such an exchange. -/
theorem weigh_eq_iff (hv : ∀ d ∈ v, d < 10) (hw : ∀ d ∈ w, d < 10) (h : SingleError v w) :
    weigh single double v.reverse = weigh single double w.reverse ↔
      Exchanged 0 9 v w ∨ Exchanged 9 0 v w := by
  constructor
  · intro hsame
    cases h with
    | @substituted xs a b ys h =>
      simp only [List.reverse_append, List.reverse_cons, List.append_assoc,
        List.singleton_append] at hsame
      have ha : a < 10 := hv a (by simp)
      have hb : b < 10 := hw b (by simp)
      exact absurd ((weigh_substituted_iff injOn_single injOn_double ha hb).mp hsame) h
    | @transposed xs a b ys h =>
      simp only [List.reverse_append, List.reverse_cons, List.append_assoc,
        List.singleton_append] at hsame
      have ha : a < 10 := hv a (by simp)
      have hb : b < 10 := hv b (by simp)
      have hdigits := (single_add_double_iff hb ha h.symm).mp (weigh_transposed_iff.mp hsame)
      rcases hdigits with ⟨rfl, rfl⟩ | ⟨rfl, rfl⟩
      · exact .inr ⟨xs, ys, rfl, rfl⟩
      · exact .inl ⟨xs, ys, rfl, rfl⟩
  · intro hexchanged
    rcases hexchanged with hexchanged | hexchanged
    · exact weigh_of_exchanged (by decide) hexchanged
    · exact weigh_of_exchanged (by decide) hexchanged

end

/-- A single wrong entry is detected exactly if it is no exchange of a 0 and a 9 that stand next to
each other. -/
theorem not_matches_iff {entered : List ℕ} (h : ∀ d ∈ ds, d < 10) (hentered : ∀ d ∈ entered, d < 10)
    (herror : SingleError (ds ++ [checksum ds]) entered) :
    ¬Matches entered ↔ ¬(Exchanged 0 9 (ds ++ [checksum ds]) entered ∨
      Exchanged 9 0 (ds ++ [checksum ds]) entered) := by
  have hdigits : ∀ d ∈ ds ++ [checksum ds], d < 10 := by
    intro d hd
    rcases List.mem_append.mp hd with hd | hd
    · exact h d hd
    · rw [List.mem_singleton.mp hd]
      exact calcChecksum_lt _ _
  have hown : weigh single double (ds ++ [checksum ds]).reverse = 0 :=
    (matches_iff hdigits).mp ⟨ds, rfl⟩
  have hne : entered ≠ [] := by
    intro hnil
    have hlength := herror.length_eq
    rw [hnil, List.length_append, List.length_singleton, List.length_nil] at hlength
    omega
  rw [not_iff_not, ← weigh_eq_iff hdigits hentered herror, hown, eq_comm]
  rw [← List.dropLast_concat_getLast hne] at hentered ⊢
  exact matches_iff hentered

/-- A 1 that is taken for a 7. -/
theorem misread_noticed : ¬Matches [7, 9, 9, 2, 7, 3, 9, 8, 7, 7, 3] := by
  have hchecksum : checksum [7, 9, 9, 2, 7, 3, 9, 8, 7, 1] = 3 := by decide +kernel
  have herror : SingleError
      ([7, 9, 9, 2, 7, 3, 9, 8, 7, 1] ++ [checksum [7, 9, 9, 2, 7, 3, 9, 8, 7, 1]])
      [7, 9, 9, 2, 7, 3, 9, 8, 7, 7, 3] := by
    rw [hchecksum]
    exact .substituted [7, 9, 9, 2, 7, 3, 9, 8, 7] [3] (by decide)
  apply (not_matches_iff (by decide) (by decide) herror).mpr
  rw [hchecksum]
  -- there is no 0 in it
  intro hexchanged
  rcases hexchanged with ⟨xs, ys, hentry, -⟩ | ⟨xs, ys, hentry, -⟩
  · have hzero : 0 ∈ xs ++ 0 :: 9 :: ys := by simp
    rw [← hentry] at hzero
    exact absurd hzero (by decide)
  · have hzero : 0 ∈ xs ++ 9 :: 0 :: ys := by simp
    rw [← hentry] at hzero
    exact absurd hzero (by decide)

/-- The exchange of a 0 and a 9 is not noticed. -/
theorem zero_nine_exchanged : checksum [0, 9] = 1 ∧
    SingleError ([0, 9] ++ [checksum [0, 9]]) [9, 0, 1] ∧ Matches [9, 0, 1] := by
  have hchecksum : checksum [0, 9] = 1 := by decide +kernel
  refine ⟨hchecksum, ?_, [9, 0], by decide +kernel⟩
  rw [hchecksum]
  exact .transposed [] [1] (by decide)

end MaxKey.OtpAlgorithms.HOTP
