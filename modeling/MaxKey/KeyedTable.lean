import Mathlib.Data.List.Basic
import Mathlib.Data.List.Nodup
import Mathlib.Tactic.SplitIfs

/-- A relation whose primary key is `key`: no two rows carry the same key. -/
structure KeyedTable {ρ κ : Type} (key : ρ → κ) where
  rows : List ρ
  nodup_keys : (rows.map key).Nodup

/-- The order in which a query without ORDER BY hands out the matching rows. -/
structure RowOrder (ρ : Type) where
  scan : List ρ → List ρ
  perm : ∀ rows, (scan rows).Perm rows

namespace RowOrder

/-- Rows come out as they were put in. -/
def insertion (ρ : Type) : RowOrder ρ := ⟨id, fun _ => .refl _⟩

variable {ρ : Type}

@[simp] theorem mem_scan (o : RowOrder ρ) (rows : List ρ) (r : ρ) : r ∈ o.scan rows ↔ r ∈ rows :=
  (o.perm rows).mem_iff

end RowOrder

namespace KeyedTable

/-- Where a rewriting leaves the chosen rows alone, they are chosen before it as well as after. -/
theorem filter_map_eq {ρ : Type} {f : ρ → ρ} {p q : ρ → Bool} {rows : List ρ}
    (hpq : ∀ r ∈ rows, p (f r) = q r) (hkeep : ∀ r ∈ rows, q r = true → f r = r) :
    (rows.map f).filter p = rows.filter q := by
  have hfilter : rows.filter (p ∘ f) = rows.filter q := List.filter_congr hpq
  rw [List.filter_map, hfilter]
  conv_rhs => rw [← List.map_id (rows.filter q)]
  apply List.map_congr_left
  intro r hr
  rw [List.mem_filter] at hr
  exact hkeep r hr.1 hr.2

variable {ρ κ : Type} {key : ρ → κ}

instance [DecidableEq ρ] : DecidableEq (KeyedTable key) := fun s t =>
  decidable_of_iff (s.rows = t.rows) ⟨fun h => by cases s; cases t; simpa using h, congrArg rows⟩

def empty : KeyedTable key := ⟨[], List.nodup_nil⟩

def select (t : KeyedTable key) (p : ρ → Bool) : List ρ := t.rows.filter p

/-- Deletes the rows that satisfy `p`. -/
def delete (t : KeyedTable key) (p : ρ → Bool) : KeyedTable key where
  rows := t.rows.filter fun r => !p r
  nodup_keys := t.nodup_keys.sublist (List.Sublist.map key List.filter_sublist)

/-- Adds a row, or fails when its primary key is taken. -/
def insert [DecidableEq κ] (t : KeyedTable key) (r : ρ) : Option (KeyedTable key) :=
  if h : key r ∈ t.rows.map key then none
  else some ⟨t.rows ++ [r], by
    rw [List.map_append, List.nodup_append_comm]
    exact List.nodup_cons.mpr ⟨h, t.nodup_keys⟩⟩

/-- Adds several rows in one statement, or none of them. -/
def insertAll [DecidableEq κ] (t : KeyedTable key) (rs : List ρ) : Option (KeyedTable key) :=
  rs.foldlM insert t

/-- Rewrites the rows that satisfy `p`; the primary key does not change. -/
def update (t : KeyedTable key) (p : ρ → Bool) (f : ρ → ρ) (keep : ∀ r, key (f r) = key r) :
    KeyedTable key where
  rows := t.rows.map fun r => if p r then f r else r
  nodup_keys := by
    have h : (key ∘ fun r => if p r then f r else r) = key := by
      funext r
      by_cases hp : p r <;> simp [hp, keep]
    rw [List.map_map, h]
    exact t.nodup_keys

@[simp] theorem mem_select {t : KeyedTable key} {p : ρ → Bool} {r : ρ} :
    r ∈ t.select p ↔ r ∈ t.rows ∧ p r := List.mem_filter

@[simp] theorem mem_delete {t : KeyedTable key} {p : ρ → Bool} {r : ρ} :
    r ∈ (t.delete p).rows ↔ r ∈ t.rows ∧ p r = false := by
  simp [delete]

theorem insert_eq_none [DecidableEq κ] {t : KeyedTable key} {r : ρ} :
    t.insert r = none ↔ ∃ r' ∈ t.rows, key r' = key r := by
  rw [← List.mem_map]
  by_cases h : key r ∈ t.rows.map key
  · exact iff_of_true (dif_pos h) h
  · refine iff_of_false ?_ h
    rw [insert, dif_neg h]
    exact Option.some_ne_none _

theorem rows_insert [DecidableEq κ] {t t' : KeyedTable key} {r : ρ} (h : t.insert r = some t') :
    t'.rows = t.rows ++ [r] := by
  unfold insert at h
  split_ifs at h
  cases h
  rfl

theorem insert_isSome [DecidableEq κ] {t : KeyedTable key} {r : ρ} :
    (t.insert r).isSome ↔ key r ∉ t.rows.map key := by
  rw [← not_iff_not, Option.not_isSome_iff_eq_none, insert_eq_none, not_not, List.mem_map]

theorem rows_insertAll [DecidableEq κ] {t t' : KeyedTable key} {rs : List ρ}
    (h : t.insertAll rs = some t') : t'.rows = t.rows ++ rs := by
  induction rs generalizing t with
  | nil =>
    cases h
    exact (List.append_nil _).symm
  | cons r rs ih =>
    obtain ⟨u, hinsert, hrest⟩ := Option.bind_eq_some_iff.mp h
    rw [ih hrest, rows_insert hinsert, List.append_assoc, List.singleton_append]

/-- Whether rows go in is a matter of the keys alone. -/
theorem insertAll_isSome [DecidableEq κ] {t : KeyedTable key} {rs : List ρ} :
    (t.insertAll rs).isSome ↔ (t.rows.map key ++ rs.map key).Nodup := by
  constructor
  · intro h
    obtain ⟨t', ht'⟩ := Option.isSome_iff_exists.mp h
    rw [← List.map_append, ← rows_insertAll ht']
    exact t'.nodup_keys
  · intro h
    induction rs generalizing t with
    | nil => rfl
    | cons r rs ih =>
      rw [List.map_cons, List.append_cons] at h
      have hfree : key r ∉ t.rows.map key := by
        intro hmem
        have hnodup := (List.nodup_append.mp h).1
        exact (List.nodup_append.mp hnodup).2.2 _ hmem _ (List.mem_singleton_self _) rfl
      obtain ⟨u, hinsert⟩ := Option.isSome_iff_exists.mp (insert_isSome.mpr hfree)
      have hrest : (u.insertAll rs).isSome := by
        apply ih
        rw [rows_insert hinsert, List.map_append]
        exact h
      have hcons : t.insertAll (r :: rs) = u.insertAll rs := by
        change (t.insert r).bind (fun u => u.insertAll rs) = _
        rw [hinsert]
        rfl
      rw [hcons]
      exact hrest

theorem keys_update {t : KeyedTable key} {p : ρ → Bool} {f : ρ → ρ} {keep} :
    (t.update p f keep).rows.map key = t.rows.map key := by
  simp only [update, List.map_map]
  apply List.map_congr_left
  intro r _
  by_cases hp : p r = true
  · simp only [Function.comp_apply, if_pos hp, keep]
  · simp only [Function.comp_apply, if_neg hp]

theorem mem_insert_self [DecidableEq κ] {t t' : KeyedTable key} {r : ρ}
    (h : t.insert r = some t') : r ∈ t'.rows := by
  rw [rows_insert h]
  exact List.mem_append_right _ (List.mem_singleton_self r)

theorem mem_update {t : KeyedTable key} {p : ρ → Bool} {f : ρ → ρ} {keep} {r : ρ} :
    r ∈ (t.update p f keep).rows ↔ ∃ r' ∈ t.rows, (if p r' then f r' else r') = r := by
  simp [update]

theorem ext_rows {s t : KeyedTable key} (h : s.rows = t.rows) : s = t := by
  cases s
  cases t
  simpa using h

/-- An update that writes what is there already. -/
theorem update_eq_self {t : KeyedTable key} {p : ρ → Bool} {f : ρ → ρ} {keep} :
    t.update p f keep = t ↔ ∀ r ∈ t.rows, p r → f r = r := by
  have hrows : t.update p f keep = t ↔ t.rows.map (fun r => if p r then f r else r) = t.rows.map id := by
    rw [List.map_id]
    exact ⟨congrArg rows, fun h => ext_rows (s := t.update p f keep) h⟩
  rw [hrows, List.map_inj_left]
  apply forall₂_congr
  intro r _
  by_cases hp : p r = true
  · rw [if_pos hp]
    exact ⟨fun h _ => h, fun h => h hp⟩
  · rw [if_neg hp]
    exact iff_of_true rfl fun h => absurd h hp

/-- Frame condition: an update leaves the rows of the chosen keys alone exactly if it writes into
them what is there already. -/
theorem select_update_eq_iff {t : KeyedTable key} {p : ρ → Bool} {f : ρ → ρ} {keep}
    (q : κ → Bool) :
    (t.update p f keep).select (fun r => q (key r)) = t.select (fun r => q (key r)) ↔
      ∀ r ∈ t.rows, q (key r) → p r → f r = r := by
  have hkeys : (fun r => q (key r)) ∘ (fun r => if p r then f r else r) = fun r => q (key r) := by
    funext r
    by_cases hp : p r = true
    · simp only [Function.comp_apply, if_pos hp, keep]
    · simp only [Function.comp_apply, if_neg hp]
  have hrows : (t.update p f keep).select (fun r => q (key r)) =
      (t.select fun r => q (key r)).map fun r => if p r then f r else r := by
    rw [select, update, List.filter_map, hkeys, select]
  have hid := List.map_id (t.select fun r => q (key r))
  rw [hrows]
  conv_lhs => rhs; rw [← hid]
  rw [List.map_inj_left]
  simp only [mem_select, and_imp, id]
  apply forall₃_congr
  intro r _ _
  by_cases hp : p r = true
  · rw [if_pos hp]
    exact ⟨fun h _ => h, fun h => h hp⟩
  · rw [if_neg hp]
    exact iff_of_true rfl fun h => absurd h hp

theorem eq_of_key_eq (t : KeyedTable key) {r r' : ρ} (h : r ∈ t.rows) (h' : r' ∈ t.rows)
    (hk : key r = key r') : r = r' :=
  List.inj_on_of_nodup_map t.nodup_keys h h' hk

/-- Among the rows of a table, those of a list are told by their keys. -/
theorem key_mem_map_iff (t : KeyedTable key) {rs : List ρ} (hrs : rs ⊆ t.rows) {r : ρ}
    (h : r ∈ t.rows) : key r ∈ rs.map key ↔ r ∈ rs := by
  constructor
  · intro hkey
    obtain ⟨r', hr', heq⟩ := List.mem_map.mp hkey
    have hsame : r' = r := t.eq_of_key_eq (hrs hr') h heq
    exact hsame ▸ hr'
  · exact List.mem_map_of_mem

end KeyedTable
