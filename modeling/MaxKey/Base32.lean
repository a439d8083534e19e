import MaxKey.BigEndian
import Mathlib.Data.List.Basic

namespace Base32
open BigEndian

def alphabet : List Char := "ABCDEFGHIJKLMNOPQRSTUVWXYZ234567".toList

def char (i : ℕ) : Char := alphabet.getD i 'A'

/-- How many digits so many bytes have. -/
def width (length : ℕ) : ℕ := (8 * length + 4) / 5

/-- How many zero bits fill up the last digit. -/
def slack (length : ℕ) : ℕ := 5 * width length - 8 * length

/-- Base 32 of RFC 4648: the bytes as one number, filled up with zero bits to whole digits. -/
def encode (bs : List UInt8) : String :=
  String.ofList ((digits 32 (width bs.length) (number bs * 2 ^ slack bs.length)).map char ++
    List.replicate ((8 - width bs.length % 8) % 8) '=')

def digitOf (c : Char) : Option ℕ := if c ∈ alphabet then some (alphabet.idxOf c) else none

/-- Padding and whatever else is no digit is passed over. -/
def decode (text : String) : List UInt8 :=
  let ds := text.toList.filterMap digitOf
  bytes (5 * ds.length / 8) (value 32 ds / 2 ^ (5 * ds.length % 8))

theorem digitOf_char : ∀ i < 32, digitOf (char i) = some i := by
  decide +kernel

theorem char_mem : ∀ i < 32, char i ∈ alphabet := by
  decide +kernel

theorem filterMap_digitOf {ds : List ℕ} (h : ∀ d ∈ ds, d < 32) :
    (ds.map char).filterMap digitOf = ds := by
  rw [List.filterMap_map]
  have hsame : ds.filterMap (digitOf ∘ char) = ds.filterMap some :=
    List.filterMap_congr fun d hd => digitOf_char d (h d hd)
  rw [hsame, List.filterMap_some]

theorem filterMap_padding (n : ℕ) : (List.replicate n '=').filterMap digitOf = [] := by
  rw [List.filterMap_eq_nil_iff]
  intro c hc
  rw [(List.mem_replicate.mp hc).2]
  decide

theorem number_lt (bs : List UInt8) : number bs < 2 ^ (8 * bs.length) := by
  have hbytes : ∀ d ∈ bs.map UInt8.toNat, d < 256 := by
    intro d hd
    obtain ⟨a, -, rfl⟩ := List.mem_map.mp hd
    exact a.toNat_lt
  have hlt := value_lt hbytes
  rw [List.length_map] at hlt
  rw [pow_mul]
  exact hlt

/-- The digits have room for the bytes and the bits that fill them up. -/
theorem width_eq (length : ℕ) : 5 * width length = 8 * length + slack length ∧ slack length < 5 := by
  unfold slack width
  omega

theorem decode_encode (bs : List UInt8) : decode (encode bs) = bs := by
  obtain ⟨hwidth, hslack⟩ := width_eq bs.length
  have hdigits : ∀ d ∈ digits 32 (width bs.length) (number bs * 2 ^ slack bs.length), d < 32 :=
    digits_lt (by decide) _ _
  have hread : (encode bs).toList.filterMap digitOf =
      digits 32 (width bs.length) (number bs * 2 ^ slack bs.length) := by
    unfold encode
    rw [String.toList_ofList, List.filterMap_append, filterMap_digitOf hdigits, filterMap_padding,
      List.append_nil]
  have hroom : number bs * 2 ^ slack bs.length < 32 ^ width bs.length := by
    calc number bs * 2 ^ slack bs.length
        < 2 ^ (8 * bs.length) * 2 ^ slack bs.length :=
          Nat.mul_lt_mul_of_pos_right (number_lt bs) (Nat.pow_pos (by decide))
      _ = 2 ^ (5 * width bs.length) := by rw [← pow_add, hwidth]
      _ = 32 ^ width bs.length := pow_mul 2 5 _
  -- the zero bits are the remainder by eight of all bits
  have hcount : 5 * width bs.length / 8 = bs.length := by omega
  have hrest : 5 * width bs.length % 8 = slack bs.length := by omega
  unfold decode
  simp only [hread]
  rw [length_digits, value_digits, Nat.mod_eq_of_lt hroom, hcount, hrest,
    Nat.mul_div_cancel _ (Nat.pow_pos (by decide)), bytes_number]

theorem mem_encode {bs : List UInt8} {c : Char} (h : c ∈ (encode bs).toList) :
    c ∈ alphabet ∨ c = '=' := by
  unfold encode at h
  rw [String.toList_ofList, List.mem_append] at h
  rcases h with h | h
  · obtain ⟨d, hd, rfl⟩ := List.mem_map.mp h
    exact .inl (char_mem d (digits_lt (by decide) _ _ d hd))
  · exact .inr (List.mem_replicate.mp h).2

example : encode [0x66, 0x6F, 0x6F, 0x62] = "MZXW6YQ=" := by decide +kernel

end Base32
