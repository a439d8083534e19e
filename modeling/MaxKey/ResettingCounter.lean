import Mathlib.Data.List.Count
import Mathlib.Data.List.Induction
import Mathlib.Data.List.Infix
import Mathlib.Data.Nat.Notation
import MaxKey.Runs

namespace ResettingCounter
open Runs

variable {τ : Type} [DecidableEq τ] {m : ℕ} {t u : τ} {ts : List τ}

/-- A counter and the mark it was last counted up for. -/
structure State (τ : Type) where
  last : Option τ
  counter : ℕ

def State.start : State τ := ⟨none, 0⟩

/-- Counts modulo `m`, and starts again when the mark changes. -/
def State.next (m : ℕ) (s : State τ) (t : τ) : State τ where
  last := some t
  counter := ((if s.last = some t then s.counter else 0) + 1) % m

def State.stamp (m : ℕ) (s : State τ) (t : τ) : List (τ × ℕ) := [(t, (s.next m t).counter)]

def after (m : ℕ) (ts : List τ) : State τ := exec (State.next m) .start ts

/-- The marks with the number that each of them is given. -/
def stamps (m : ℕ) (ts : List τ) : List (τ × ℕ) :=
  (exec (logged (State.next m) (State.stamp m)) (.start, []) ts).2

/-- No mark comes back after another one: each is new or that of the step before. -/
def Grouped (ts : List τ) : Prop :=
  ∀ us t, us ++ [t] <+: ts → t ∈ us → us.getLast? = some t

theorem after_concat (m : ℕ) (ts : List τ) (t : τ) :
    after m (ts ++ [t]) = (after m ts).next m t := exec_append State.start ts [t]

theorem stamps_concat (m : ℕ) (ts : List τ) (t : τ) :
    stamps m (ts ++ [t]) = stamps m ts ++ [(t, ((after m ts).next m t).counter)] := by
  unfold stamps after
  rw [exec_append, exec_cons, exec_nil, logged, exec_logged, State.stamp]

/-- Each mark is stamped once. -/
theorem map_fst_stamps (m : ℕ) (ts : List τ) : (stamps m ts).map Prod.fst = ts := by
  induction ts using List.reverseRecOn with
  | nil => rfl
  | append_singleton ts t ih => rw [stamps_concat, List.map_append, ih, List.map_singleton]

theorem lt_of_mem_stamps (hm : 0 < m) {v : ℕ} (h : (t, v) ∈ stamps m ts) : v < m := by
  induction ts using List.reverseRecOn with
  | nil => exact absurd h List.not_mem_nil
  | append_singleton ts u ih =>
    rw [stamps_concat, List.mem_append, List.mem_singleton] at h
    cases h with
    | inl hbefore => exact ih hbefore
    | inr hnow =>
      have hv : v = ((after m ts).next m u).counter := congrArg Prod.snd hnow
      rw [hv]
      exact Nat.mod_lt _ hm

theorem last_after (m : ℕ) (ts : List τ) : (after m ts).last = ts.getLast? := by
  induction ts using List.reverseRecOn with
  | nil => rfl
  | append_singleton ts t ih => rw [after_concat, List.getLast?_concat, State.next]

omit [DecidableEq τ] in
theorem grouped_nil : Grouped ([] : List τ) := by
  intro us t h
  simp at h

omit [DecidableEq τ] in
theorem grouped_concat :
    Grouped (ts ++ [t]) ↔ Grouped ts ∧ (t ∈ ts → ts.getLast? = some t) := by
  constructor
  · intro h
    refine ⟨fun us u hus => h us u (hus.trans (List.prefix_append ts [t])), ?_⟩
    exact h ts t (List.prefix_refl _)
  · intro h us u hus
    cases List.prefix_concat_iff.mp hus with
    | inl heq =>
      obtain ⟨rfl, hu⟩ := List.append_inj' heq rfl
      cases hu
      exact h.2
    | inr hbefore => exact h.1 us u hbefore

theorem count_concat_self (ts : List τ) (t : τ) : (ts ++ [t]).count t = ts.count t + 1 := by
  rw [List.count_append, List.count_singleton_self]

theorem count_concat_of_ne (ts : List τ) (h : t ≠ u) : (ts ++ [u]).count t = ts.count t := by
  rw [List.count_append, List.count_singleton, beq_false_of_ne h.symm]
  rfl

/-- While no mark comes back, the counter has counted the mark it stands at. -/
theorem counter_after (h : Grouped ts) (hlast : ts.getLast? = some t) :
    (after m ts).counter = ts.count t % m := by
  induction ts using List.reverseRecOn with
  | nil => simp at hlast
  | append_singleton ts u ih =>
    rw [List.getLast?_concat] at hlast
    cases hlast
    obtain ⟨hts, hnew⟩ := grouped_concat.mp h
    rw [after_concat, State.next, last_after, count_concat_self]
    by_cases hbefore : ts.getLast? = some t
    · rw [if_pos hbefore, ih hts hbefore]
      simp
    · have hzero : ts.count t = 0 := List.count_eq_zero.mpr fun hmem => hbefore (hnew hmem)
      rw [if_neg hbefore, hzero]

/-- The number of the next mark: how often it has been counted, itself included. -/
theorem counter_next (h : Grouped (ts ++ [t])) :
    ((after m ts).next m t).counter = (ts.count t + 1) % m := by
  have hcounter := counter_after (m := m) h List.getLast?_concat
  rw [after_concat, count_concat_self] at hcounter
  exact hcounter

/-- The numbers that a mark has been given are those from one up to its count. -/
theorem mem_stamps_iff (h : Grouped ts) {v : ℕ} :
    (t, v) ∈ stamps m ts ↔ ∃ k, 1 ≤ k ∧ k ≤ ts.count t ∧ v = k % m := by
  induction ts using List.reverseRecOn with
  | nil =>
    constructor
    · intro hmem
      exact absurd hmem List.not_mem_nil
    · intro hk
      obtain ⟨k, hone, hle, -⟩ := hk
      rw [List.count_nil] at hle
      omega
  | append_singleton ts u ih =>
    rw [stamps_concat, List.mem_append, List.mem_singleton, ih (grouped_concat.mp h).1,
      counter_next h]
    by_cases htu : t = u
    · rw [htu, count_concat_self]
      constructor
      · intro hmem
        cases hmem with
        | inl hbefore =>
          obtain ⟨k, hone, hle, hv⟩ := hbefore
          exact ⟨k, hone, by omega, hv⟩
        | inr hnow => exact ⟨ts.count u + 1, by omega, le_rfl, congrArg Prod.snd hnow⟩
      · intro hk
        obtain ⟨k, hone, hle, hv⟩ := hk
        by_cases hlast : k = ts.count u + 1
        · right
          rw [hv, hlast]
        · exact .inl ⟨k, hone, by omega, hv⟩
    · rw [count_concat_of_ne ts htu]
      constructor
      · intro hmem
        exact hmem.resolve_right fun hnow => htu (congrArg Prod.fst hnow)
      · exact Or.inl

/-- Below the capacity the next stamp is new. -/
theorem next_notMem (h : Grouped (ts ++ [t])) (hlt : ts.count t < m) :
    (t, ((after m ts).next m t).counter) ∉ stamps m ts := by
  intro hmem
  rw [mem_stamps_iff (grouped_concat.mp h).1, counter_next h] at hmem
  obtain ⟨k, hone, hle, hsame⟩ := hmem
  have hdiff := Nat.sub_mod_eq_zero_of_mod_eq hsame
  rw [Nat.mod_eq_of_lt (by omega)] at hdiff
  omega

/-- A mark that comes back is given the number one again. -/
theorem next_mem_of_back (h : Grouped ts) (hmem : t ∈ ts) (hback : ts.getLast? ≠ some t) :
    (t, ((after m ts).next m t).counter) ∈ stamps m ts := by
  have hcount : 1 ≤ ts.count t := List.count_pos_iff.mpr hmem
  rw [mem_stamps_iff h, State.next, last_after, if_neg hback]
  exact ⟨1, le_rfl, hcount, rfl⟩

/-- At the capacity the counter begins anew. -/
theorem next_mem_of_full (hm : 0 < m) (h : Grouped (ts ++ [t])) (hfull : ts.count t = m) :
    (t, ((after m ts).next m t).counter) ∈ stamps m ts := by
  rw [mem_stamps_iff (grouped_concat.mp h).1, counter_next h, hfull]
  exact ⟨1, le_rfl, hm, Nat.add_mod_left m 1⟩

/-- No stamp is given twice exactly if no mark comes back after another one and none is counted
more often than the counter has numbers. -/
theorem nodup_stamps_iff (hm : 0 < m) (ts : List τ) :
    (stamps m ts).Nodup ↔ Grouped ts ∧ ∀ t, ts.count t ≤ m := by
  induction ts using List.reverseRecOn with
  | nil => exact iff_of_true List.nodup_nil ⟨grouped_nil, fun t => Nat.zero_le m⟩
  | append_singleton ts t ih =>
    rw [stamps_concat, (List.perm_append_singleton _ _).nodup_iff, List.nodup_cons, ih]
    constructor
    · intro h
      obtain ⟨hnew, hts, hcount⟩ := h
      have hgrouped : Grouped (ts ++ [t]) := by
        refine grouped_concat.mpr ⟨hts, fun hmem => ?_⟩
        by_contra hback
        exact hnew (next_mem_of_back hts hmem hback)
      refine ⟨hgrouped, fun u => ?_⟩
      have hu := hcount u
      by_cases hut : u = t
      · have hfull : ts.count t ≠ m := fun hfull => hnew (next_mem_of_full hm hgrouped hfull)
        rw [hut] at hu ⊢
        rw [count_concat_self]
        omega
      · rw [count_concat_of_ne ts hut]
        exact hu
    · intro h
      obtain ⟨hgrouped, hcount⟩ := h
      have ht := hcount t
      rw [count_concat_self] at ht
      refine ⟨next_notMem hgrouped ht, (grouped_concat.mp hgrouped).1, fun u => ?_⟩
      have hu := hcount u
      rw [List.count_append] at hu
      omega

/-- Marks that never go down do not come back. -/
theorem grouped_of_pairwise_le {ts : List ℕ} (h : ts.Pairwise (· ≤ ·)) : Grouped ts := by
  induction ts using List.reverseRecOn with
  | nil => exact grouped_nil
  | append_singleton ts t ih =>
    obtain ⟨hts, -, hle⟩ := List.pairwise_append.mp h
    refine grouped_concat.mpr ⟨ih hts, fun hmem => ?_⟩
    obtain ⟨us, u, rfl⟩ := (List.eq_nil_or_concat' ts).resolve_left (List.ne_nil_of_mem hmem)
    have hut : u ≤ t := hle u (by simp) t (by simp)
    have htu : t ≤ u := by
      cases List.mem_append.mp hmem with
      | inl hbefore => exact (List.pairwise_append.mp hts).2.2 t hbefore u (by simp)
      | inr hlast => exact (List.mem_singleton.mp hlast).le
    rw [List.getLast?_concat, le_antisymm hut htu]

theorem forall_count_map_le_iff {σ : Type} [DecidableEq σ] {f : τ → σ}
    (hf : Function.Injective f) :
    (∀ u, (ts.map f).count u ≤ m) ↔ ∀ t, ts.count t ≤ m := by
  constructor
  · intro h t
    rw [← List.count_map_of_injective ts f hf t]
    exact h (f t)
  · intro h u
    by_cases hu : u ∈ ts.map f
    · obtain ⟨t, -, rfl⟩ := List.mem_map.mp hu
      rw [List.count_map_of_injective ts f hf t]
      exact h t
    · rw [List.count_eq_zero_of_not_mem hu]
      exact Nat.zero_le m

omit [DecidableEq τ] in
/-- Marks may as well be told apart by anything that determines them. -/
theorem grouped_map_iff {σ : Type} {f : τ → σ} (hf : Function.Injective f) :
    Grouped (ts.map f) ↔ Grouped ts := by
  induction ts using List.reverseRecOn with
  | nil => exact iff_of_true grouped_nil grouped_nil
  | append_singleton ts t ih =>
    have hlast : (ts.map f).getLast? = some (f t) ↔ ts.getLast? = some t := by
      rw [List.getLast?_map, ← Option.map_some, (Option.map_injective hf).eq_iff]
    rw [List.map_append, List.map_singleton, grouped_concat, grouped_concat, ih, hlast,
      List.mem_map_of_injective hf]

end ResettingCounter
