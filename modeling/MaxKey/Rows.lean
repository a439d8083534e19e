import Mathlib.Data.List.Nodup

namespace Rows

variable {ρ κ ε : Type} {key : ρ → κ} {rows kept : List ρ} {row : ρ} {k : κ} {tooMany : ℕ → ε}

/-- No two rows have the same key, which no constraint of the table sees to. -/
def Single (key : ρ → κ) (rows : List ρ) : Prop := (rows.map key).Nodup

/-- A query for one row, for which an empty result is no error. -/
def queryForObject (tooMany : ℕ → ε) : List ρ → Except ε (Option ρ)
  | [] => .ok none
  | [row] => .ok (some row)
  | rows => .error (tooMany rows.length)

theorem single_nil : Single key [] := List.nodup_nil

theorem Single.sublist (h : Single key rows) (hsub : kept.Sublist rows) : Single key kept :=
  List.Nodup.sublist (hsub.map key) h

/-- A row comes in under a key that no row has. -/
theorem Single.insert (h : Single key rows) (hfree : ∀ r ∈ rows, key r ≠ key row) :
    Single key (rows ++ [row]) := by
  unfold Single
  rw [List.map_append]
  have hnew : key row ∉ rows.map key := by
    intro hmem
    obtain ⟨r, hr, hkey⟩ := List.mem_map.mp hmem
    exact hfree r hr hkey
  exact List.nodup_append_comm.mp (List.nodup_cons.mpr ⟨hnew, h⟩)

theorem mem_select [DecidableEq κ] : row ∈ rows.filter (key · = k) ↔ row ∈ rows ∧ key row = k := by
  simp

/-- A query by a key that no two rows have meets one row or none. -/
theorem Single.select_length_le [DecidableEq κ] (h : Single key rows) (k : κ) :
    (rows.filter (key · = k)).length ≤ 1 := by
  have hselected : Single key (rows.filter (key · = k)) := h.sublist List.filter_sublist
  match hrows : rows.filter (key · = k) with
  | [] => exact Nat.zero_le 1
  | [_] => exact Nat.le_refl 1
  | r :: r' :: rest =>
    have hr : key r = k := (mem_select.mp (hrows ▸ List.mem_cons_self)).2
    have hr' : key r' = k :=
      (mem_select.mp (hrows ▸ List.mem_cons_of_mem r List.mem_cons_self)).2
    rw [hrows] at hselected
    have hne : key r ∉ (r' :: rest).map key := (List.nodup_cons.mp hselected).1
    rw [hr, ← hr'] at hne
    exact absurd List.mem_cons_self hne

/-- A query by the key of a row meets that row. -/
theorem Single.select_eq [DecidableEq κ] (h : Single key rows) (hrow : row ∈ rows)
    (hkey : key row = k) : rows.filter (key · = k) = [row] := by
  have hmem : row ∈ rows.filter (key · = k) := mem_select.mpr ⟨hrow, hkey⟩
  have hlength := h.select_length_le k
  match hrows : rows.filter (key · = k) with
  | [] =>
    rw [hrows] at hmem
    simp at hmem
  | [r] =>
    rw [hrows] at hmem
    rw [List.mem_singleton.mp hmem]
  | _ :: _ :: rest =>
    rw [hrows] at hlength
    simp only [List.length_cons] at hlength
    omega

/-- A query for one row fails only where there are two. -/
theorem queryForObject_of_length_le (h : rows.length ≤ 1) :
    queryForObject tooMany rows = .ok rows.head? := by
  match rows with
  | [] => rfl
  | [_] => rfl
  | _ :: _ :: rest =>
    simp only [List.length_cons] at h
    omega

end Rows
