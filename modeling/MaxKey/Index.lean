import Mathlib.Data.List.Nodup
import Mathlib.Logic.Function.Basic

namespace Index

variable {κ ν τ : Type}

/-- The entries filed under a key. -/
def bucket (index : κ → Option (List τ)) (k : κ) : List τ := (index k).getD []

/-- A secondary index lists the entries of the primary one by a key that may be missing:
each bucket holds exactly the entries of its key, and each of them once. -/
structure Agrees (id : τ → ν) (primary : ν → Option τ) (keyOf : ν → Option κ)
    (index : κ → Option (List τ)) : Prop where
  nodup : ∀ k, ((bucket index k).map id).Nodup
  mem : ∀ k t, t ∈ bucket index k ↔ primary (id t) = some t ∧ keyOf (id t) = some k

variable {id : τ → ν} {primary : ν → Option τ} {keyOf : ν → Option κ}
  {index : κ → Option (List τ)} {k k' : κ} {t : τ} {v : ν}

theorem agrees_empty (id : τ → ν) (keyOf : ν → Option κ) :
    Agrees id (fun _ => none) keyOf (fun _ => none) where
  nodup _ := List.nodup_nil
  mem _ _ := by simp [bucket]

/-- No bucket holds an identity that the primary index lacks. -/
theorem Agrees.not_mem_of_fresh (h : Agrees id primary keyOf index) (hv : primary v = none)
    (k : κ) : v ∉ (bucket index k).map id := by
  intro hmem
  obtain ⟨t, ht, rfl⟩ := List.mem_map.mp hmem
  have hlive := ((h.mem k t).mp ht).1
  rw [hv] at hlive
  cases hlive

section

variable [DecidableEq ν]

/-- An entry without a key is in no bucket. -/
theorem Agrees.keyless (h : Agrees id primary keyOf index) (hkey : primary (id t) = none ∨
    keyOf (id t) = none) : Agrees id (Function.update primary (id t) (some t))
      (Function.update keyOf (id t) none) index := by
  refine ⟨h.nodup, fun k' t' => ?_⟩
  rw [h.mem k' t']
  by_cases hid : id t' = id t
  · rw [hid, Function.update_self, Function.update_self]
    refine iff_of_false ?_ fun hboth => by cases hboth.2
    rintro ⟨hlive', hkey'⟩
    rcases hkey with hnone | hnone
    · rw [hnone] at hlive'
      cases hlive'
    · rw [hnone] at hkey'
      cases hkey'
  · rw [Function.update_of_ne hid, Function.update_of_ne hid]

/-- An identity without a key leaves the primary index alone. -/
theorem Agrees.remove_keyless (h : Agrees id primary keyOf index) (hkey : keyOf v = none) :
    Agrees id (Function.update primary v none) (Function.update keyOf v none) index := by
  refine ⟨h.nodup, fun k' t' => ?_⟩
  rw [h.mem k' t']
  by_cases hid : id t' = v
  · rw [hid, Function.update_self, hkey]
    exact iff_of_false (fun hboth => by cases hboth.2) fun hboth => by cases hboth.1
  · rw [Function.update_of_ne hid, Function.update_of_ne hid]

end

variable [DecidableEq κ] [DecidableEq ν]

/-- Files an entry under a key, unless one of the same identity stands there. -/
def add (id : τ → ν) (k : κ) (t : τ) (index : κ → Option (List τ)) : κ → Option (List τ) :=
  Function.update index k <| some <|
    if id t ∈ (bucket index k).map id then bucket index k else bucket index k ++ [t]

/-- Takes the entries of an identity out of one bucket. -/
def remove (id : τ → ν) (k : κ) (v : ν) (index : κ → Option (List τ)) : κ → Option (List τ) :=
  match index k with
  | none => index
  | some entries => Function.update index k (some (entries.filter fun t => id t ≠ v))

theorem bucket_add_self : bucket (add id k t index) k =
    if id t ∈ (bucket index k).map id then bucket index k else bucket index k ++ [t] := by
  simp only [bucket, add, Function.update_self, Option.getD_some]

theorem bucket_add_of_ne (h : k' ≠ k) : bucket (add id k t index) k' = bucket index k' := by
  simp only [bucket, add, Function.update_of_ne h]

theorem bucket_remove_self :
    bucket (remove id k v index) k = (bucket index k).filter fun t => id t ≠ v := by
  unfold remove bucket
  cases h : index k with
  | none => simp only [h, Option.getD_none, List.filter_nil]
  | some entries => simp only [Function.update_self, Option.getD_some]

theorem bucket_remove_of_ne (h : k' ≠ k) : bucket (remove id k v index) k' = bucket index k' := by
  unfold remove
  cases index k with
  | none => rfl
  | some entries => simp only [bucket, Function.update_of_ne h]

/-- Filing keeps the identities of every bucket, and brings in that of the entry. -/
theorem mem_map_bucket_add : v ∈ (bucket (add id k t index) k').map id ↔
    (k' = k ∧ v = id t) ∨ v ∈ (bucket index k').map id := by
  by_cases hk : k' = k
  · rw [hk, bucket_add_self]
    split_ifs with hmem
    · constructor
      · exact .inr
      · rintro (⟨-, rfl⟩ | hold)
        · exact hmem
        · exact hold
    · simp [or_comm]
  · rw [bucket_add_of_ne hk]
    simp [hk]

/-- Taking an identity out leaves the others in their buckets. -/
theorem mem_map_bucket_remove {w : ν} (hw : w ≠ v) :
    w ∈ (bucket (remove id k v index) k').map id ↔ w ∈ (bucket index k').map id := by
  by_cases hk : k' = k
  · rw [hk, bucket_remove_self]
    simp only [List.mem_map, List.mem_filter, decide_eq_true_eq]
    constructor
    · rintro ⟨x, ⟨hx, -⟩, rfl⟩
      exact ⟨x, hx, rfl⟩
    · rintro ⟨x, hx, rfl⟩
      exact ⟨x, ⟨hx, hw⟩, rfl⟩
  · rw [bucket_remove_of_ne hk]

/-- An entry of a new identity that is filed under its key keeps the agreement. -/
theorem Agrees.add_fresh (h : Agrees id primary keyOf index) (hnew : primary (id t) = none)
    (k : κ) : Agrees id (Function.update primary (id t) (some t))
      (Function.update keyOf (id t) (some k)) (add id k t index) := by
  have hnot := h.not_mem_of_fresh hnew
  constructor
  · intro k'
    by_cases hk : k' = k
    · rw [hk, bucket_add_self, if_neg (hnot k), List.map_append, List.nodup_append_comm]
      exact List.nodup_cons.mpr ⟨hnot k, h.nodup k⟩
    · rw [bucket_add_of_ne hk]
      exact h.nodup k'
  · intro k' t'
    by_cases hid : id t' = id t
    · have hmem : t' ∉ bucket index k' := fun ht =>
        hnot k' (List.mem_map.mpr ⟨t', ht, hid⟩)
      rw [hid, Function.update_self, Function.update_self]
      by_cases hk : k' = k
      · rw [hk, bucket_add_self, if_neg (hnot k)]
        rw [hk] at hmem
        simp [hmem, eq_comm]
      · rw [bucket_add_of_ne hk]
        have hkey : ¬some k = some k' := fun heq => hk (Option.some.inj heq).symm
        exact iff_of_false hmem fun hboth => hkey hboth.2
    · rw [Function.update_of_ne hid, Function.update_of_ne hid, ← h.mem k' t']
      by_cases hk : k' = k
      · have hne : t' ≠ t := fun heq => hid (congrArg id heq)
        rw [hk, bucket_add_self, if_neg (hnot k), List.mem_append, List.mem_singleton]
        exact or_iff_left hne
      · rw [bucket_add_of_ne hk]

/-- Filing again what stands there under the same key changes no bucket. -/
theorem Agrees.add_again (h : Agrees id primary keyOf index) (hlive : primary (id t) = some t)
    (hkey : keyOf (id t) = some k) : Agrees id (Function.update primary (id t) (some t))
      (Function.update keyOf (id t) (some k)) (add id k t index) := by
  have hmem : id t ∈ (bucket index k).map id :=
    List.mem_map_of_mem ((h.mem k t).mpr ⟨hlive, hkey⟩)
  have hsame : ∀ k', bucket (add id k t index) k' = bucket index k' := by
    intro k'
    by_cases hk : k' = k
    · rw [hk, bucket_add_self, if_pos hmem]
    · exact bucket_add_of_ne hk
  rw [← hlive, ← hkey, Function.update_eq_self, Function.update_eq_self]
  constructor
  · intro k'
    rw [hsame]
    exact h.nodup k'
  · intro k' t'
    rw [hsame]
    exact h.mem k' t'

/-- An identity leaves the primary index and the bucket of its key. -/
theorem Agrees.remove (h : Agrees id primary keyOf index)
    (hkey : ∀ k', keyOf v = some k' → k' = k) : Agrees id (Function.update primary v none)
      (Function.update keyOf v none) (remove id k v index) := by
  constructor
  · intro k'
    by_cases hk : k' = k
    · rw [hk, bucket_remove_self]
      exact (h.nodup k).sublist (List.Sublist.map id List.filter_sublist)
    · rw [bucket_remove_of_ne hk]
      exact h.nodup k'
  · intro k' t'
    by_cases hid : id t' = v
    · rw [hid, Function.update_self]
      refine iff_of_false ?_ fun hboth => by cases hboth.1
      intro hmem
      by_cases hk : k' = k
      · rw [hk, bucket_remove_self] at hmem
        simp [hid] at hmem
      · rw [bucket_remove_of_ne hk] at hmem
        have hkey' := ((h.mem k' t').mp hmem).2
        rw [hid] at hkey'
        exact hk (hkey k' hkey')
    · rw [Function.update_of_ne hid, Function.update_of_ne hid, ← h.mem k' t']
      by_cases hk : k' = k
      · rw [hk, bucket_remove_self]
        simp [hid]
      · rw [bucket_remove_of_ne hk]

end Index
