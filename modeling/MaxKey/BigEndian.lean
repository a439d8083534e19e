import Mathlib.Algebra.Order.Ring.Nat
import Mathlib.Data.List.Induction
import Mathlib.Tactic.Ring

namespace BigEndian

/-- The number that digits in the base `b` spell, the first of them the most significant. -/
def value (b : ℕ) (ds : List ℕ) : ℕ := ds.foldl (fun n d => b * n + d) 0

/-- The last `w` digits of a number in the base `b`. -/
def digits (b : ℕ) : ℕ → ℕ → List ℕ
  | 0, _ => []
  | w + 1, n => digits b w (n / b) ++ [n % b]

variable {b c d n w : ℕ} {ds es : List ℕ}

theorem foldl_eq (m : ℕ) (ds : List ℕ) :
    ds.foldl (fun n d => b * n + d) m = m * b ^ ds.length + value b ds := by
  induction ds generalizing m with
  | nil => simp [value]
  | cons d ds ih =>
    have hvalue : value b (d :: ds) = ds.foldl (fun n d => b * n + d) (b * 0 + d) := rfl
    rw [hvalue, List.foldl_cons, ih, ih (b * 0 + d), List.length_cons, pow_succ]
    ring

@[simp] theorem value_nil : value b [] = 0 := rfl

theorem value_append : value b (ds ++ es) = value b ds * b ^ es.length + value b es := by
  unfold value
  rw [List.foldl_append, foldl_eq]
  rfl

theorem value_cons : value b (d :: ds) = d * b ^ ds.length + value b ds := by
  have hone : value b [d] = d := by
    simp [value]
  rw [← List.singleton_append, value_append, hone]

theorem value_concat : value b (ds ++ [d]) = value b ds * b + d := by
  rw [value_append, value_cons, value_nil]
  simp

theorem value_replicate_append (k : ℕ) (ds : List ℕ) :
    value b (List.replicate k 0 ++ ds) = value b ds := by
  induction k with
  | zero => rfl
  | succ k ih =>
    rw [List.replicate_succ, List.cons_append, value_cons, ih]
    simp

/-- A numeral is less than the power of its length. -/
theorem value_lt (h : ∀ d ∈ ds, d < b) : value b ds < b ^ ds.length := by
  induction ds with
  | nil => exact Nat.one_pos
  | cons d ds ih =>
    have hd : d + 1 ≤ b := h d List.mem_cons_self
    have hds := ih fun e he => h e (List.mem_cons_of_mem d he)
    rw [value_cons, List.length_cons, pow_succ]
    calc d * b ^ ds.length + value b ds < d * b ^ ds.length + b ^ ds.length := by omega
      _ = b ^ ds.length * (d + 1) := by ring
      _ ≤ b ^ ds.length * b := Nat.mul_le_mul_left _ hd

theorem value_mono (h : b ≤ c) (ds : List ℕ) : value b ds ≤ value c ds := by
  induction ds with
  | nil => exact Nat.le_refl _
  | cons d ds ih =>
    rw [value_cons, value_cons]
    exact Nat.add_le_add (Nat.mul_le_mul_left d (Nat.pow_le_pow_left h _)) ih

theorem value_eq_zero (hb : 0 < b) : value b ds = 0 ↔ ∀ d ∈ ds, d = 0 := by
  induction ds with
  | nil => simp
  | cons d ds ih =>
    have hpow : b ^ ds.length ≠ 0 := (Nat.pow_pos hb).ne'
    rw [value_cons, Nat.add_eq_zero_iff, Nat.mul_eq_zero, or_iff_left hpow, ih, List.forall_mem_cons]

/-- A numeral means the same in two bases if nothing but zeros stands before its last digit. -/
theorem value_eq_value_iff (h : b < c) :
    value c ds = value b ds ↔ ∀ d ∈ ds.dropLast, d = 0 := by
  induction ds using List.reverseRecOn with
  | nil => simp
  | append_singleton ds d _ =>
    have hpos : 0 < c := by omega
    rw [value_concat, value_concat, List.dropLast_concat, ← value_eq_zero hpos]
    constructor
    · intro heq
      -- a digit other than zero before the last one weighs more in the larger base
      have hmono := value_mono h.le ds
      by_contra hne
      have hless : value b ds * b < value c ds * c := by
        calc value b ds * b ≤ value c ds * b := Nat.mul_le_mul_right b hmono
          _ < value c ds * c := Nat.mul_lt_mul_of_pos_left h (Nat.pos_of_ne_zero hne)
      omega
    · intro hzero
      have hmono := value_mono h.le ds
      have hnone : value b ds = 0 := by omega
      rw [hzero, hnone, Nat.zero_mul, Nat.zero_mul]

theorem length_digits (w n : ℕ) : (digits b w n).length = w := by
  induction w generalizing n with
  | zero => rfl
  | succ w ih => rw [digits, List.length_append, ih, List.length_singleton]

theorem digits_lt (hb : 0 < b) (w n : ℕ) : ∀ d ∈ digits b w n, d < b := by
  induction w generalizing n with
  | zero => simp [digits]
  | succ w ih =>
    intro d hd
    rw [digits, List.mem_append, List.mem_singleton] at hd
    obtain hd | rfl := hd
    · exact ih _ d hd
    · exact Nat.mod_lt n hb

theorem value_digits (w n : ℕ) : value b (digits b w n) = n % b ^ w := by
  induction w generalizing n with
  | zero => simp [digits, Nat.mod_one]
  | succ w ih =>
    rw [digits, value_concat, ih, pow_succ', Nat.mod_mul]
    ring

/-- Digits are those of the number that they spell. -/
theorem digits_value (h : ∀ d ∈ ds, d < b) : digits b ds.length (value b ds) = ds := by
  induction ds using List.reverseRecOn with
  | nil => rfl
  | append_singleton ds d ih =>
    have hd : d < b := h d (by simp)
    have hpos : 0 < b := by omega
    -- the last digit is the remainder, the others are those of the quotient
    have hdiv : (value b ds * b + d) / b = value b ds := by
      rw [Nat.add_comm, Nat.add_mul_div_right _ _ hpos, Nat.div_eq_of_lt hd, Nat.zero_add]
    have hmod : (value b ds * b + d) % b = d := by
      rw [Nat.add_comm, Nat.add_mul_mod_self_right, Nat.mod_eq_of_lt hd]
    rw [List.length_append, List.length_singleton, value_concat, digits, hdiv, hmod,
      ih fun e he => h e (List.mem_append_left _ he)]

/-- Of the digits before the last `w` ones nothing is seen in these. -/
theorem digits_add_mul (hb : 0 < b) (w m n : ℕ) : digits b w (m * b ^ w + n) = digits b w n := by
  induction w generalizing n with
  | zero => rfl
  | succ w ih =>
    have hshape : m * b ^ (w + 1) + n = n + b * (m * b ^ w) := by
      rw [pow_succ]
      ring
    rw [digits, digits, hshape, Nat.add_mul_mod_self_left, Nat.add_mul_div_left _ _ hb, Nat.add_comm,
      ih]

/-- The first of the digits is split off. -/
theorem digits_succ (w n : ℕ) : digits b (w + 1) n = n / b ^ w % b :: digits b w n := by
  induction w generalizing n with
  | zero => simp [digits]
  | succ w ih =>
    rw [digits, ih, Nat.div_div_eq_div_mul, ← pow_succ', List.cons_append]
    rfl

/-- Each digit in the base `c * c` is two in the base `c`. -/
theorem value_flatMap (ds : List ℕ) :
    value c (ds.flatMap fun d => [d / c, d % c]) = value (c * c) ds := by
  induction ds using List.reverseRecOn with
  | nil => rfl
  | append_singleton ds d ih =>
    have htwo : value c [d / c, d % c] = d := by
      rw [value_cons, value_cons, value_nil, List.length_singleton, List.length_nil, pow_one, pow_zero]
      have := Nat.div_add_mod' d c
      omega
    rw [List.flatMap_append, value_append, ih, List.flatMap_singleton, htwo, value_concat]
    simp [pow_two]

/-! ### Bytes -/

/-- The last `w` bytes of a number. -/
def bytes (w n : ℕ) : List UInt8 := (digits 256 w n).map UInt8.ofNat

/-- The number of a list of bytes. -/
def number (bs : List UInt8) : ℕ := value 256 (bs.map UInt8.toNat)

theorem length_bytes (w n : ℕ) : (bytes w n).length = w := by
  rw [bytes, List.length_map, length_digits]

theorem bytes_number (bs : List UInt8) : bytes bs.length (number bs) = bs := by
  have hlt : ∀ d ∈ bs.map UInt8.toNat, d < 256 := by
    intro d hd
    obtain ⟨a, -, rfl⟩ := List.mem_map.mp hd
    exact a.toNat_lt
  have hdigits := digits_value hlt
  rw [List.length_map] at hdigits
  have hsame : UInt8.ofNat ∘ UInt8.toNat = id := funext fun a => UInt8.ofNat_toNat
  rw [bytes, number, hdigits, List.map_map, hsame, List.map_id]

theorem number_bytes (h : n < 256 ^ w) : number (bytes w n) = n := by
  have hsame : ((digits 256 w n).map UInt8.ofNat).map UInt8.toNat = digits 256 w n := by
    rw [List.map_map]
    refine (List.map_congr_left fun d hd => ?_).trans (List.map_id _)
    have hlt : d < 256 := digits_lt (by decide) w n d hd
    exact UInt8.toNat_ofNat_of_lt' hlt
  rw [number, bytes, hsame, value_digits, Nat.mod_eq_of_lt h]

theorem bytes_succ (w n : ℕ) : bytes (w + 1) n = UInt8.ofNat (n / 256 ^ w % 256) :: bytes w n := by
  rw [bytes, digits_succ, List.map_cons]
  rfl

theorem bytes_concat (w n : ℕ) : bytes (w + 1) n = bytes w (n / 256) ++ [UInt8.ofNat (n % 256)] := by
  rw [bytes, digits, List.map_append]
  rfl

theorem bytes_add_mul (w m n : ℕ) : bytes w (m * 256 ^ w + n) = bytes w n := by
  rw [bytes, digits_add_mul (by decide)]
  rfl

theorem bytes_inj {m n : ℕ} (hm : m < 256 ^ w) (hn : n < 256 ^ w) (h : bytes w m = bytes w n) :
    m = n := by
  calc m = number (bytes w m) := (number_bytes hm).symm
    _ = number (bytes w n) := by rw [h]
    _ = n := number_bytes hn

end BigEndian
