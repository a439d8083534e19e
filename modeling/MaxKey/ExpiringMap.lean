import Mathlib.Data.Nat.Notation
import Mathlib.Data.Option.Basic
import Mathlib.Logic.Function.Basic
import Mathlib.Tactic.SplitIfs

/-- A map that forgets: an entry keeps the instant at which it runs out. -/
structure ExpiringMap (κ α : Type) where
  now : ℕ := 0
  entries : κ → Option (α × ℕ) := fun _ => none

namespace ExpiringMap
open Function (update)

variable {κ κ' α β : Type}

def empty (κ α : Type) : ExpiringMap κ α := {}

/-- Replaces what stands under the key. -/
def put [DecidableEq κ] (m : ExpiringMap κ α) (lifetime : ℕ) (k : κ) (a : α) : ExpiringMap κ α :=
  { m with entries := update m.entries k (some (a, m.now + lifetime)) }

def get (m : ExpiringMap κ α) (k : κ) : Option α :=
  ((m.entries k).filter fun e => m.now < e.2).map Prod.fst

def remove [DecidableEq κ] (m : ExpiringMap κ α) (k : κ) : ExpiringMap κ α :=
  { m with entries := update m.entries k none }

def wait (m : ExpiringMap κ α) (seconds : ℕ) : ExpiringMap κ α := { m with now := m.now + seconds }

/-- The value stands under the key and has so many seconds left. -/
def Lives (m : ExpiringMap κ α) (k : κ) (a : α) (left : ℕ) : Prop :=
  m.entries k = some (a, m.now + left)

/-- Whatever stood under the key has been taken out. -/
def Vacant (m : ExpiringMap κ α) (k : κ) : Prop := m.entries k = none

variable {m : ExpiringMap κ α} {k j : κ} {a b : α} {n left : ℕ}

theorem lives_put [DecidableEq κ] (m : ExpiringMap κ α) (n : ℕ) (k : κ) (a : α) :
    (m.put n k a).Lives k a n :=
  Function.update_self _ _ _

theorem Lives.put [DecidableEq κ] (h : m.Lives k a left) (hne : k ≠ j) :
    (m.put n j b).Lives k a left :=
  (Function.update_of_ne hne _ _).trans h

theorem Lives.remove [DecidableEq κ] (h : m.Lives k a left) (hne : k ≠ j) :
    (m.remove j).Lives k a left :=
  (Function.update_of_ne hne _ _).trans h

theorem Lives.wait (h : m.Lives k a left) (hn : n ≤ left) : (m.wait n).Lives k a (left - n) := by
  have hsum : m.now + n + (left - n) = m.now + left := by omega
  show m.entries k = some (a, m.now + n + (left - n))
  rw [hsum]
  exact h

theorem Lives.get (h : m.Lives k a left) (hleft : 0 < left) : m.get k = some a := by
  have hlt : m.now < m.now + left := by omega
  unfold Lives at h
  simp [ExpiringMap.get, h, hlt, Option.filter_some]

theorem vacant_remove [DecidableEq κ] (m : ExpiringMap κ α) (k : κ) : (m.remove k).Vacant k :=
  Function.update_self _ _ _

theorem Vacant.put [DecidableEq κ] (h : m.Vacant k) (hne : k ≠ j) : (m.put n j b).Vacant k :=
  (Function.update_of_ne hne _ _).trans h

theorem Vacant.remove [DecidableEq κ] (h : m.Vacant k) : (m.remove j).Vacant k := by
  by_cases hkj : k = j
  · rw [hkj]
    exact vacant_remove m j
  · exact (Function.update_of_ne hkj _ _).trans h

theorem Vacant.wait (h : m.Vacant k) : (m.wait n).Vacant k := h

theorem Vacant.get (h : m.Vacant k) : m.get k = none := by
  unfold Vacant at h
  simp only [ExpiringMap.get, h, Option.filter_none, Option.map_none]

theorem get_put_self [DecidableEq κ] (m : ExpiringMap κ α) (n : ℕ) (k : κ) (a : α) :
    (m.put n k a).get k = none ∨ (m.put n k a).get k = some a := by
  have hentry : (m.put n k a).entries k = some (a, m.now + n) := Function.update_self _ _ _
  simp only [ExpiringMap.get, hentry, Option.filter_some]
  split_ifs
  · exact .inr rfl
  · exact .inl rfl

theorem get_put_of_ne [DecidableEq κ] (hne : k ≠ j) : (m.put n j b).get k = m.get k := by
  have hentry : (m.put n j b).entries k = m.entries k := Function.update_of_ne hne _ _
  simp only [ExpiringMap.get, hentry]
  rfl

theorem get_remove_of_ne [DecidableEq κ] (hne : k ≠ j) : (m.remove j).get k = m.get k := by
  have hentry : (m.remove j).entries k = m.entries k := Function.update_of_ne hne _ _
  simp only [ExpiringMap.get, hentry]
  rfl

theorem get_wait (m : ExpiringMap κ α) (k : κ) (n : ℕ) :
    (m.wait n).get k = none ∨ (m.wait n).get k = m.get k := by
  cases h : m.entries k with
  | none => simp [ExpiringMap.get, ExpiringMap.wait, h]
  | some e =>
    by_cases hlt : m.now + n < e.2
    · have hbefore : m.now < e.2 := by omega
      simp [ExpiringMap.get, ExpiringMap.wait, h, Option.filter_some, hlt, hbefore]
    · simp [ExpiringMap.get, ExpiringMap.wait, h, Option.filter_some, hlt]

/-- The second map is the first one written down with other keys and other values. -/
structure Embeds (f : κ → κ') (g : α → β) (m : ExpiringMap κ α) (m' : ExpiringMap κ' β) : Prop where
  now : m'.now = m.now
  entries : ∀ k, m'.entries (f k) = (m.entries k).map fun e => (g e.1, e.2)

variable {f : κ → κ'} {g : α → β} {m' : ExpiringMap κ' β}

theorem embeds_empty (f : κ → κ') (g : α → β) : Embeds f g (empty κ α) (empty κ' β) :=
  ⟨rfl, fun _ => rfl⟩

theorem Embeds.put [DecidableEq κ] [DecidableEq κ'] (h : Embeds f g m m')
    (hf : Function.Injective f) (n : ℕ) (k : κ) (a : α) :
    Embeds f g (m.put n k a) (m'.put n (f k) (g a)) := by
  refine ⟨h.now, fun j => ?_⟩
  by_cases hjk : j = k
  · simp only [ExpiringMap.put, hjk, Function.update_self, h.now, Option.map_some]
  · have hne : f j ≠ f k := fun heq => hjk (hf heq)
    simp only [ExpiringMap.put, Function.update_of_ne hjk, Function.update_of_ne hne, h.entries j]

theorem Embeds.remove [DecidableEq κ] [DecidableEq κ'] (h : Embeds f g m m')
    (hf : Function.Injective f) (k : κ) :
    Embeds f g (m.remove k) (m'.remove (f k)) := by
  refine ⟨h.now, fun j => ?_⟩
  by_cases hjk : j = k
  · simp only [ExpiringMap.remove, hjk, Function.update_self, Option.map_none]
  · have hne : f j ≠ f k := fun heq => hjk (hf heq)
    simp only [ExpiringMap.remove, Function.update_of_ne hjk, Function.update_of_ne hne, h.entries j]

theorem Embeds.wait (h : Embeds f g m m') (n : ℕ) : Embeds f g (m.wait n) (m'.wait n) :=
  ⟨congrArg (· + n) h.now, h.entries⟩

theorem Embeds.get (h : Embeds f g m m') (k : κ) : m'.get (f k) = (m.get k).map g := by
  have hk := h.entries k
  cases hentry : m.entries k with
  | none => simp only [ExpiringMap.get, hk, hentry, Option.map_none, Option.filter_none]
  | some e =>
    by_cases hlt : m.now < e.2
    · simp [ExpiringMap.get, hk, hentry, h.now, hlt, Option.filter_some]
    · simp [ExpiringMap.get, hk, hentry, h.now, hlt, Option.filter_some]

end ExpiringMap
