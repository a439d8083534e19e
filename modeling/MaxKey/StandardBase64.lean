import Mathlib.Algebra.Group.Nat.Defs
import Mathlib.Data.List.Basic
import Mathlib.Data.Nat.Notation

namespace StandardBase64

def alphabet : List Char :=
  "ABCDEFGHIJKLMNOPQRSTUVWXYZabcdefghijklmnopqrstuvwxyz0123456789+/".toList

def char (i : ℕ) : Char := alphabet.getD i 'A'

/-- The bits of the bytes by sixes; zeros fill the last group. -/
def sextets : List UInt8 → List ℕ
  | a :: b :: c :: bytes =>
    [a.toNat / 4, a.toNat % 4 * 16 + b.toNat / 16, b.toNat % 16 * 4 + c.toNat / 64, c.toNat % 64] ++
      sextets bytes
  | [a, b] => [a.toNat / 4, a.toNat % 4 * 16 + b.toNat / 16, b.toNat % 16 * 4]
  | [a] => [a.toNat / 4, a.toNat % 4 * 16]
  | [] => []

/-- As many equals signs as there are bytes missing in the last group of three. -/
def padding (bytes : List UInt8) : ℕ := (3 - bytes.length % 3) % 3

def encode (bytes : List UInt8) : String :=
  String.ofList ((sextets bytes).map char ++ List.replicate (padding bytes) '=')

theorem sextets_lt (bytes : List UInt8) : ∀ i ∈ sextets bytes, i < 64 := by
  induction bytes using sextets.induct with
  | case1 a b c bytes ih =>
    have ha := a.toNat_lt
    have hb := b.toNat_lt
    have hc := c.toNat_lt
    intro i hi
    rw [sextets] at hi
    rcases List.mem_append.mp hi with hi | hi
    · simp only [List.mem_cons, List.not_mem_nil, or_false] at hi
      omega
    · exact ih i hi
  | case2 a b =>
    have ha := a.toNat_lt
    have hb := b.toNat_lt
    intro i hi
    simp only [sextets, List.mem_cons, List.not_mem_nil, or_false] at hi
    omega
  | case3 a =>
    have ha := a.toNat_lt
    intro i hi
    simp only [sextets, List.mem_cons, List.not_mem_nil, or_false] at hi
    omega
  | case4 => exact fun i hi => absurd hi List.not_mem_nil

theorem padding_cons (a b c : UInt8) (bytes : List UInt8) :
    padding (a :: b :: c :: bytes) = padding bytes := by
  unfold padding
  simp only [List.length_cons]
  omega

theorem sextets_eq_nil {bytes : List UInt8} : sextets bytes = [] ↔ bytes = [] := by
  match bytes with
  | [] => simp [sextets]
  | [a] => simp [sextets]
  | [a, b] => simp [sextets]
  | a :: b :: c :: bytes => simp [sextets]

end StandardBase64
