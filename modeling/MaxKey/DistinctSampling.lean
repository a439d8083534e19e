import Mathlib.Data.Finset.Card
import Mathlib.Data.List.Perm.Subperm

namespace DistinctSampling

variable {α : Type} [DecidableEq α] {alphabet taken : List α} {a : α}

/-- Adds an element at the end unless it has been taken before. -/
def take (taken : List α) (a : α) : List α := if a ∈ taken then taken else taken ++ [a]

/-- What has been taken from an alphabet so far, with no element twice. -/
structure Sample (alphabet taken : List α) : Prop where
  nodup : taken.Nodup
  subset : taken ⊆ alphabet

theorem take_of_mem (h : a ∈ taken) : take taken a = taken := if_pos h

theorem take_of_notMem (h : a ∉ taken) : take taken a = taken ++ [a] := if_neg h

omit [DecidableEq α] in
theorem sample_nil (alphabet : List α) : Sample alphabet [] where
  nodup := List.nodup_nil
  subset := List.nil_subset alphabet

theorem Sample.take (h : Sample alphabet taken) (ha : a ∈ alphabet) :
    Sample alphabet (take taken a) := by
  by_cases hmem : a ∈ taken
  · rw [take_of_mem hmem]
    exact h
  · rw [take_of_notMem hmem]
    refine ⟨?_, ?_⟩
    · apply List.nodup_append.mpr
      refine ⟨h.nodup, List.nodup_singleton a, ?_⟩
      intro b hb c hc hbc
      rw [hbc, List.mem_singleton.mp hc] at hb
      exact hmem hb
    · apply List.append_subset_of_subset_of_subset h.subset
      simpa using ha

/-- An alphabet holds as many elements to take as it has distinct ones. -/
theorem Sample.length_le (h : Sample alphabet taken) :
    taken.length ≤ alphabet.toFinset.card := by
  rw [← List.toFinset_card_of_nodup h.nodup]
  apply Finset.card_le_card
  intro a ha
  have hmem := h.subset (List.mem_toFinset.mp ha)
  exact List.mem_toFinset.mpr hmem

/-- There is an element left exactly until all the distinct ones are taken. -/
theorem Sample.exists_new_iff (h : Sample alphabet taken) :
    (∃ a ∈ alphabet, a ∉ taken) ↔ taken.length < alphabet.toFinset.card := by
  constructor
  · intro hnew
    obtain ⟨a, ha, hnew⟩ := hnew
    have hnext := (h.take ha).length_le
    rw [take_of_notMem hnew, List.length_append, List.length_singleton] at hnext
    omega
  · intro hlt
    rw [← List.toFinset_card_of_nodup h.nodup] at hlt
    obtain ⟨a, ha, hnew⟩ := Finset.exists_mem_notMem_of_card_lt_card hlt
    exact ⟨a, List.mem_toFinset.mp ha, fun hmem => hnew (List.mem_toFinset.mpr hmem)⟩

omit [DecidableEq α] in
/-- A sample as long as the alphabet is the alphabet in another order. -/
theorem Sample.perm (h : Sample alphabet taken) (hlen : alphabet.length ≤ taken.length) :
    taken.Perm alphabet :=
  (List.subperm_of_subset h.nodup h.subset).perm_of_length_le hlen

end DistinctSampling
