import MaxKey.KeyedTable
import MaxKey.Realm
import Mathlib.Data.List.Dedup
import Mathlib.Data.Option.Basic

namespace MaxKey.Permissions
open JavaException Effects

/-- A row of ROLE_PERMISSIONS. -/
structure RolePermissions where
  id : String
  appId : Option String := none
  roleId : Option String := none
  resourceId : Option String := none
  status : Int := Realm.ACTIVE
  deriving DecidableEq

abbrev Table := KeyedTable RolePermissions.id

/-- How a text that may be null comes out when it is joined. -/
def text (s : Option String) : String := s.getD "null"

def RolePermissions.getUniqueId (p : RolePermissions) : String :=
  text p.appId ++ "_" ++ text p.roleId ++ "_" ++ text p.resourceId

def string2List (string : Option String) (sep : Char) : List String :=
  (string.elim [] fun s => if s = "" then [] else JavaText.split sep s).filter (· ≠ "")

section Mapper

/-- A condition on a column, left out of the query for a null or an empty value. -/
def asked (value column : Option String) : Bool :=
  value = none || value = some "" || column = value

def queryRolePermissions (id appId roleId : Option String) (t : Table) : List RolePermissions :=
  t.select fun p => p.status = Realm.ACTIVE && asked id (some p.id) && asked roleId p.roleId &&
    asked appId p.appId

def RolePermissions.erase (p : RolePermissions) : RolePermissions := { p with status := 9 }

theorem id_erase (p : RolePermissions) : p.erase.id = p.id := rfl

theorem status_erase (p : RolePermissions) : p.erase.status ≠ Realm.ACTIVE := by
  change (9 : Int) ≠ 1
  decide

def logisticDeleteRolePermissions (ps : List RolePermissions) (t : Table) : Table :=
  t.update (fun p => decide (p.id ∈ ps.map RolePermissions.id)) RolePermissions.erase id_erase

/-- One statement for all the rows. It fails as a whole on a taken primary key or a fault. -/
def insertRolePermissions (fault : Bool) (ps : List RolePermissions) :
    EStateM JavaException Table Bool := fun t =>
  ((t.insertAll ps).filter fun _ => !fault).elim (.error (dataAccess "ROLE_PERMISSIONS") t)
    (.ok (0 < ps.length))

/-- Nothing is sent to the database for no rows at all. -/
def insertAny (fault : Bool) (ps : List RolePermissions) : EStateM JavaException Table Bool :=
  if ps = [] then pure false else insertRolePermissions fault ps

end Mapper

inductive MessageType
  | success
  | error
  deriving DecidableEq

structure Message where
  message : String
  messageType : MessageType
  deriving DecidableEq

def INSERT_SUCCESS : String := "message.action.insert.success"

/-- What /permissions/savepermissions binds of a request. -/
structure Request where
  appId : Option String := none
  roleId : Option String := none
  resourceId : Option String := none

section Controller

variable (fold : Char → Char) (newId : ℕ → String)

/-- The comparison of texts up to the case mapping of Character. -/
def equalsIgnoreCase (s t : String) : Bool := s.toList.map fold = t.toList.map fold

def resourceIds (r : Request) : List String := string2List r.resourceId ','

/-- The rows that the ids of a request are made into. -/
def newRolePermissions (r : Request) : List RolePermissions :=
  (resourceIds r).mapIdx fun i resourceId =>
    { id := newId i, appId := r.appId, roleId := r.roleId, resourceId := some resourceId }

/-- The active permissions that the query of a request finds. -/
def permed (r : Request) (t : Table) : List RolePermissions :=
  queryRolePermissions none r.appId r.roleId t

/-- The new rows that the request's loop keeps. -/
def rolePermissionsList (r : Request) (t : Table) : List RolePermissions :=
  (newRolePermissions newId r).filter fun p =>
    !equalsIgnoreCase fold (text r.appId) (text p.resourceId) &&
      !decide (p.getUniqueId ∈ (permed r t).map RolePermissions.getUniqueId)

def deleteRolePermissionsList (r : Request) (t : Table) : List RolePermissions :=
  (permed r t).filter fun p =>
    !decide (p.getUniqueId ∈ (newRolePermissions newId r).map RolePermissions.getUniqueId)

def insert (fault : Bool) (r : Request) : EStateM JavaException Table Message := do
  let t ← get
  -- the loop dereferences the application id in its first round
  throwIf (r.appId = none ∧ resourceIds r ≠ []) nullPointer
  onlyIf (deleteRolePermissionsList newId r t ≠ [])
    (modify (logisticDeleteRolePermissions (deleteRolePermissionsList newId r t)))
  let inserted ← insertAny fault (rolePermissionsList fold newId r t)
  return if inserted then ⟨INSERT_SUCCESS, .success⟩ else ⟨INSERT_SUCCESS, .error⟩

end Controller

section Purpose

variable (fold : Char → Char) (newId : ℕ → String) (fault : Bool) (r : Request) (t : Table)

/-- A permission of the application and the role of a request. -/
def OfPair (p : RolePermissions) : Prop := p.appId = r.appId ∧ p.roleId = r.roleId

instance : DecidablePred (OfPair r) := fun p =>
  inferInstanceAs (Decidable (p.appId = r.appId ∧ p.roleId = r.roleId))

/-- The resources whose permission is active for the pair of the request, row by row. -/
def granted : List (Option String) :=
  (t.rows.filter fun p => p.status = Realm.ACTIVE ∧ OfPair r p).map RolePermissions.resourceId

/-- The distinct submitted ids other than the application's. -/
def requested : List (Option String) :=
  ((resourceIds r).dedup.map some).filter fun x => x ≠ r.appId

/-- The pair has the permissions that the request asks for, and no other pair has changed. -/
structure Reached (t' : Table) : Prop where
  granted : (granted r t').Perm (requested r)
  others : t'.rows.filter (fun p => ¬OfPair r p) = t.rows.filter fun p => ¬OfPair r p

def after : Table := final (insert fold newId fault r) t

def Succeeds : Prop :=
  ∃ m, outcome (insert fold newId fault r) t = .ok m ∧ m.messageType = .success

def InsertionFails : Prop :=
  outcome (insert fold newId fault r) t = .error (dataAccess "ROLE_PERMISSIONS")

structure Lawful : Prop where
  done : ¬InsertionFails fold newId fault r t → Reached r t (after fold newId fault r t)
  answer : Succeeds fold newId fault r t ↔ Reached r t (after fold newId fault r t)
  kept : InsertionFails fold newId fault r t → ∀ p ∈ t.rows, p.status = Realm.ACTIVE →
    p ∈ (after fold newId fault r t).rows

/-- A submitted id names a resource other than the application, and no row found has it. -/
def Fresh (p : RolePermissions) : Prop :=
  equalsIgnoreCase fold (text r.appId) (text p.resourceId) = false ∧
    p.getUniqueId ∉ (permed r t).map RolePermissions.getUniqueId

/-- A submitted id makes the row of a permission stay. -/
def Confirmed (p : RolePermissions) : Prop :=
  p.getUniqueId ∈ (newRolePermissions newId r).map RolePermissions.getUniqueId

instance : DecidablePred (Fresh fold r t) := fun _ => inferInstanceAs (Decidable (_ ∧ _))

instance : DecidablePred (Confirmed newId r) := fun p =>
  inferInstanceAs (Decidable (p.getUniqueId ∈ _))

/-- The rows of the ids that are fresh. -/
def fresh : List RolePermissions := (newRolePermissions newId r).filter fun p => Fresh fold r t p

/-- The rows found of the pair that stay. -/
def stays : List RolePermissions :=
  (permed r t).filter fun p => OfPair r p ∧ Confirmed newId r p

/-- The database does not take the fresh rows. -/
def Refused : Prop :=
  fault = true ∨ ¬(t.rows.map RolePermissions.id ++
    (fresh fold newId r t).map RolePermissions.id).Nodup

/-- The rows found and the rows to be added fit the request. -/
structure Clean : Prop where
  spared : ∀ p ∈ permed r t, ¬OfPair r p → Confirmed newId r p
  proper : ∀ p ∈ stays newId r t, p.resourceId ≠ none ∧ p.resourceId ≠ r.appId
  keptOnce : ((stays newId r t).map RolePermissions.resourceId).Nodup
  newOnce : ((fresh fold newId r t).map RolePermissions.resourceId).Nodup
  present : ∀ p ∈ newRolePermissions newId r, ¬Fresh fold r t p → p.resourceId ≠ r.appId →
    ∃ q ∈ permed r t, OfPair r q ∧ q.resourceId = p.resourceId

structure Suited : Prop where
  app : r.appId ≠ none
  some_new : fresh fold newId r t ≠ []
  writable : Refused fold newId fault r t → ∀ p ∈ permed r t, Confirmed newId r p
  clean : ¬Refused fold newId fault r t → Clean fold newId r t

end Purpose

section Runs

variable {fold : Char → Char} {newId : ℕ → String} {fault : Bool} {r : Request} {t : Table}

theorem rolePermissionsList_eq : rolePermissionsList fold newId r t = fresh fold newId r t := by
  unfold rolePermissionsList fresh
  apply List.filter_congr
  intro p _
  rw [Bool.eq_iff_iff, decide_eq_true_iff, Bool.and_eq_true, Bool.not_eq_true', Bool.not_eq_true',
    decide_eq_false_iff_not]
  rfl

theorem mem_permed {p : RolePermissions} : p ∈ permed r t ↔ p ∈ t.rows ∧ p.status = Realm.ACTIVE ∧
    asked r.roleId p.roleId ∧ asked r.appId p.appId := by
  simp [permed, queryRolePermissions, asked, and_assoc]

theorem mem_deleteRolePermissionsList {p : RolePermissions} :
    p ∈ deleteRolePermissionsList newId r t ↔ p ∈ permed r t ∧ ¬Confirmed newId r p := by
  simp [deleteRolePermissionsList, Confirmed]

theorem deleteRolePermissionsList_subset : deleteRolePermissionsList newId r t ⊆ t.rows := by
  intro p hp
  exact (mem_permed.mp (mem_deleteRolePermissionsList.mp hp).1).1

/-- The table after the deletion. -/
def erased (newId : ℕ → String) (r : Request) (t : Table) : Table :=
  logisticDeleteRolePermissions (deleteRolePermissionsList newId r t) t

theorem erased_of_nil (h : deleteRolePermissionsList newId r t = []) : erased newId r t = t := by
  have hrows : (erased newId r t).rows = t.rows := by
    simp [erased, logisticDeleteRolePermissions, KeyedTable.update, h]
  generalize erased newId r t = u at hrows
  cases u
  cases t
  simpa using hrows

theorem delete_apply :
    onlyIf (deleteRolePermissionsList newId r t ≠ [])
      (modify (logisticDeleteRolePermissions (deleteRolePermissionsList newId r t)) :
        EStateM JavaException Table Unit) t = .ok () (erased newId r t) := by
  rw [onlyIf_eq_ok]
  split_ifs with h
  · rfl
  · exact (erased_of_nil (not_not.mp h)).symm

theorem ids_erased : (erased newId r t).rows.map RolePermissions.id =
    t.rows.map RolePermissions.id := by
  unfold erased logisticDeleteRolePermissions
  exact KeyedTable.keys_update

theorem insertAll_erased : ((erased newId r t).insertAll (fresh fold newId r t)).isSome ↔
    (t.rows.map RolePermissions.id ++ (fresh fold newId r t).map RolePermissions.id).Nodup := by
  rw [KeyedTable.insertAll_isSome, ids_erased]

theorem insertRolePermissions_of_refused (h : Refused fold newId fault r t) :
    insertRolePermissions fault (fresh fold newId r t) (erased newId r t) =
      .error (dataAccess "ROLE_PERMISSIONS") (erased newId r t) := by
  have hnone : ((erased newId r t).insertAll (fresh fold newId r t)).filter (fun _ => !fault) =
      none := by
    rw [Option.filter_eq_none_iff]
    intro u hu
    rcases h with hfault | hkeys
    · simp [hfault]
    · exact absurd (insertAll_erased.mp (Option.isSome_iff_exists.mpr ⟨u, hu⟩)) hkeys
  simp only [insertRolePermissions, hnone, Option.elim_none]

theorem insertRolePermissions_of_taken (hsome : fresh fold newId r t ≠ [])
    (h : ¬Refused fold newId fault r t) : ∃ u : Table,
      insertRolePermissions fault (fresh fold newId r t) (erased newId r t) = .ok true u ∧
        u.rows = (erased newId r t).rows ++ fresh fold newId r t := by
  have hfault : fault = false := by
    rw [← Bool.not_eq_true]
    intro hfault
    exact h (.inl hfault)
  have hkeys := not_not.mp fun hkeys => h (.inr hkeys)
  obtain ⟨u, hu⟩ := Option.isSome_iff_exists.mp (insertAll_erased.mpr hkeys)
  have hpos : 0 < (fresh fold newId r t).length := List.length_pos_iff.mpr hsome
  refine ⟨u, ?_, KeyedTable.rows_insertAll hu⟩
  simp only [insertRolePermissions, hu, hfault, Bool.not_false, Option.filter_some, if_true,
    Option.elim_some, hpos, decide_true]

/-- The loop fails before anything is done. -/
theorem insert_of_missing (h : r.appId = none ∧ resourceIds r ≠ []) :
    insert fold newId fault r t = .error nullPointer t :=
  (bind_of_ok (get_apply t)).trans (bind_of_error (throwIf_of_true h nullPointer t))

theorem insert_of_bound (h : ¬(r.appId = none ∧ resourceIds r ≠ [])) :
    insert fold newId fault r t =
      (insertAny fault (fresh fold newId r t) >>= fun inserted =>
        (return if inserted then ⟨INSERT_SUCCESS, .success⟩ else ⟨INSERT_SUCCESS, .error⟩ :
          EStateM JavaException Table Message)) (erased newId r t) := by
  rw [← rolePermissionsList_eq, insert, bind_of_ok (get_apply t),
    bind_of_ok (throwIf_of_false h nullPointer t), bind_of_ok delete_apply]

theorem insert_of_stale (h : ¬(r.appId = none ∧ resourceIds r ≠ []))
    (hfresh : fresh fold newId r t = []) :
    insert fold newId fault r t = .ok ⟨INSERT_SUCCESS, .error⟩ (erased newId r t) := by
  rw [insert_of_bound h, insertAny, if_pos hfresh]
  rfl

theorem insert_of_refused (h : ¬(r.appId = none ∧ resourceIds r ≠ []))
    (hfresh : fresh fold newId r t ≠ []) (hrefused : Refused fold newId fault r t) :
    insert fold newId fault r t = .error (dataAccess "ROLE_PERMISSIONS") (erased newId r t) := by
  rw [insert_of_bound h, insertAny, if_neg hfresh]
  exact bind_of_error (insertRolePermissions_of_refused hrefused)

theorem insert_of_taken (h : ¬(r.appId = none ∧ resourceIds r ≠ []))
    (hfresh : fresh fold newId r t ≠ []) (htaken : ¬Refused fold newId fault r t) :
    ∃ u : Table, insert fold newId fault r t = .ok ⟨INSERT_SUCCESS, .success⟩ u ∧
      u.rows = (erased newId r t).rows ++ fresh fold newId r t := by
  obtain ⟨u, hu, hrows⟩ := insertRolePermissions_of_taken hfresh htaken
  refine ⟨u, ?_, hrows⟩
  rw [insert_of_bound h, insertAny, if_neg hfresh, bind_of_ok hu]
  rfl

end Runs

section Rows

variable {fold : Char → Char} {newId : ℕ → String} {r : Request} {t : Table} {p : RolePermissions}

/-- What the deletion makes of a row. -/
def mark (newId : ℕ → String) (r : Request) (t : Table) (p : RolePermissions) : RolePermissions :=
  if p ∈ deleteRolePermissionsList newId r t then p.erase else p

theorem rows_erased : (erased newId r t).rows = t.rows.map (mark newId r t) := by
  apply List.map_congr_left
  intro p hp
  have hsubset : deleteRolePermissionsList newId r t ⊆ t.rows := deleteRolePermissionsList_subset
  have hmem := t.key_mem_map_iff hsubset hp
  simp only [decide_eq_true_eq, hmem]
  rfl

theorem ofPair_mark : OfPair r (mark newId r t p) ↔ OfPair r p := by
  unfold mark
  split_ifs
  · exact Iff.rfl
  · exact Iff.rfl

theorem mem_permed_of_ofPair (h : p ∈ t.rows) (hactive : p.status = Realm.ACTIVE)
    (hpair : OfPair r p) : p ∈ permed r t := by
  rw [mem_permed]
  refine ⟨h, hactive, ?_, ?_⟩
  · simp [asked, hpair.2]
  · simp [asked, hpair.1]

theorem mark_eq_self : mark newId r t p = p ↔ (p ∈ permed r t → Confirmed newId r p) := by
  unfold mark
  split_ifs with hdelete
  · rw [mem_deleteRolePermissionsList] at hdelete
    refine iff_of_false ?_ fun h => hdelete.2 (h hdelete.1)
    intro heq
    have hactive := (mem_permed.mp hdelete.1).2.1
    rw [← heq] at hactive
    exact status_erase p hactive
  · rw [mem_deleteRolePermissionsList, not_and, not_not] at hdelete
    exact iff_of_true rfl hdelete

theorem status_mark (h : ¬(p ∈ permed r t → Confirmed newId r p)) :
    (mark newId r t p).status ≠ Realm.ACTIVE := by
  have hdelete : p ∈ deleteRolePermissionsList newId r t :=
    mem_deleteRolePermissionsList.mpr (Classical.not_imp.mp h)
  rw [mark, if_pos hdelete]
  exact status_erase p

theorem active_mark (h : p ∈ t.rows) :
    ((mark newId r t p).status = Realm.ACTIVE ∧ OfPair r (mark newId r t p)) ↔
      (OfPair r p ∧ Confirmed newId r p) ∧ p ∈ permed r t := by
  rw [ofPair_mark]
  constructor
  · rintro ⟨hactive, hpair⟩
    have hconfirmed : p ∈ permed r t → Confirmed newId r p := by
      by_contra hnot
      exact status_mark hnot hactive
    rw [mark_eq_self.mpr hconfirmed] at hactive
    -- a row of the pair that is active is found by the query
    have hpermed := mem_permed_of_ofPair h hactive hpair
    exact ⟨⟨hpair, hconfirmed hpermed⟩, hpermed⟩
  · rintro ⟨⟨hpair, hconfirmed⟩, hpermed⟩
    rw [mark_eq_self.mpr fun _ => hconfirmed]
    exact ⟨(mem_permed.mp hpermed).2.1, hpair⟩

/-- The rows of the pair that are active after the deletion. -/
theorem active_erased :
    ((erased newId r t).rows.filter fun p => p.status = Realm.ACTIVE ∧ OfPair r p) =
      stays newId r t := by
  have hstays : stays newId r t =
      t.rows.filter fun p => (OfPair r p ∧ Confirmed newId r p) ∧ p ∈ permed r t := by
    have hpermed : permed r t = t.rows.filter fun p => p ∈ permed r t := by
      apply List.filter_congr
      intro p hp
      simp [permed, queryRolePermissions, hp]
    conv_lhs => rw [stays, hpermed, List.filter_filter]
    simp only [Bool.decide_and]
  rw [rows_erased, hstays]
  apply KeyedTable.filter_map_eq
  · intro p hp
    exact decide_eq_decide.mpr (active_mark hp)
  · intro p _ hchosen
    exact mark_eq_self.mpr fun _ => (of_decide_eq_true hchosen).1.2

/-- The rows of other pairs are as they were if none of them is deleted. -/
theorem others_erased :
    ((erased newId r t).rows.filter fun p => ¬OfPair r p) = (t.rows.filter fun p => ¬OfPair r p) ↔
      ∀ p ∈ permed r t, ¬OfPair r p → Confirmed newId r p := by
  have hsame : ((fun p => decide ¬OfPair r p) ∘ mark newId r t) = fun p => decide ¬OfPair r p := by
    funext p
    exact decide_eq_decide.mpr (not_congr ofPair_mark)
  rw [rows_erased, List.filter_map, hsame]
  conv_lhs => rhs; rw [← List.map_id (t.rows.filter _)]
  rw [List.map_inj_left]
  constructor
  · intro h p hp hother
    have hmem : p ∈ t.rows.filter fun p => ¬OfPair r p :=
      List.mem_filter.mpr ⟨(mem_permed.mp hp).1, decide_eq_true hother⟩
    exact mark_eq_self.mp (h p hmem) hp
  · intro h p hmem
    have hother := of_decide_eq_true (List.mem_filter.mp hmem).2
    exact mark_eq_self.mpr fun hp => h p hp hother

theorem mem_newRolePermissions : p ∈ newRolePermissions newId r ↔ ∃ i, ∃ x : String,
    (resourceIds r)[i]? = some x ∧
      { id := newId i, appId := r.appId, roleId := r.roleId, resourceId := some x } = p := by
  unfold newRolePermissions
  rw [List.mem_mapIdx]
  constructor
  · rintro ⟨i, hi, rfl⟩
    exact ⟨i, _, List.getElem?_eq_getElem hi, rfl⟩
  · rintro ⟨i, x, hx, rfl⟩
    obtain ⟨hi, rfl⟩ := List.getElem?_eq_some_iff.mp hx
    exact ⟨i, hi, rfl⟩

theorem ofPair_of_mem_new (h : p ∈ newRolePermissions newId r) :
    p.status = Realm.ACTIVE ∧ OfPair r p := by
  obtain ⟨i, x, -, rfl⟩ := mem_newRolePermissions.mp h
  exact ⟨rfl, rfl, rfl⟩

theorem resourceId_of_mem_new (h : p ∈ newRolePermissions newId r) :
    ∃ x ∈ resourceIds r, p.resourceId = some x := by
  obtain ⟨i, x, hx, rfl⟩ := mem_newRolePermissions.mp h
  exact ⟨x, List.mem_of_getElem? hx, rfl⟩

theorem exists_new {x : String} (h : x ∈ resourceIds r) :
    ∃ p ∈ newRolePermissions newId r, p.resourceId = some x := by
  obtain ⟨i, hx⟩ := List.mem_iff_getElem?.mp h
  exact ⟨_, mem_newRolePermissions.mpr ⟨i, x, hx, rfl⟩, rfl⟩

theorem mem_fresh : p ∈ fresh fold newId r t ↔ p ∈ newRolePermissions newId r ∧ Fresh fold r t p := by
  rw [fresh, List.mem_filter, decide_eq_true_iff]

theorem mem_stays : p ∈ stays newId r t ↔ p ∈ permed r t ∧ OfPair r p ∧ Confirmed newId r p := by
  rw [stays, List.mem_filter, decide_eq_true_iff]

/-- Within a pair, the identifier of a permission tells the texts of the resources. -/
theorem getUniqueId_inj {p q : RolePermissions} (hp : OfPair r p) (hq : OfPair r q) :
    p.getUniqueId = q.getUniqueId ↔ text p.resourceId = text q.resourceId := by
  unfold RolePermissions.getUniqueId
  rw [hp.1, hp.2, hq.1, hq.2]
  constructor
  · intro h
    have hchars := congrArg String.toList h
    simp only [String.toList_append] at hchars
    exact String.toList_injective (List.append_cancel_left hchars)
  · intro h
    rw [h]

theorem mem_requested (newId : ℕ → String) {x : Option String} :
    x ∈ requested r ↔ (∃ p ∈ newRolePermissions newId r, p.resourceId = x) ∧ x ≠ r.appId := by
  rw [requested, List.mem_filter, decide_eq_true_iff, List.mem_map]
  refine and_congr_left' ?_
  constructor
  · rintro ⟨y, hy, rfl⟩
    exact exists_new (List.mem_dedup.mp hy)
  · rintro ⟨p, hp, rfl⟩
    obtain ⟨y, hy, heq⟩ := resourceId_of_mem_new hp
    exact ⟨y, List.mem_dedup.mpr hy, heq.symm⟩

theorem nodup_requested : (requested r).Nodup := by
  apply List.Nodup.filter
  exact (List.nodup_dedup _).map (Option.some_injective _)

end Rows

section Condition

variable {fold : Char → Char} {newId : ℕ → String} {fault : Bool} {r : Request} {t u : Table}

/-- Being a rearrangement of a list without repetition is a matter of repetitions and members. -/
theorem perm_iff_of_nodup {α : Type} {l₁ l₂ : List α} (h : l₂.Nodup) :
    l₁.Perm l₂ ↔ l₁.Nodup ∧ ∀ a, a ∈ l₁ ↔ a ∈ l₂ := by
  constructor
  · intro hperm
    exact ⟨hperm.nodup_iff.mpr h, fun a => hperm.mem_iff⟩
  · rintro ⟨hnodup, hmem⟩
    exact (List.perm_ext_iff_of_nodup hnodup h).mpr hmem

theorem granted_after (hrows : u.rows = (erased newId r t).rows ++ fresh fold newId r t) :
    granted r u = (stays newId r t ++ fresh fold newId r t).map RolePermissions.resourceId := by
  have hfresh : ((fresh fold newId r t).filter fun p => p.status = Realm.ACTIVE ∧ OfPair r p) =
      fresh fold newId r t := by
    apply List.filter_eq_self.mpr
    intro p hp
    exact decide_eq_true (ofPair_of_mem_new (mem_fresh.mp hp).1)
  rw [granted, hrows, List.filter_append, active_erased, hfresh]

theorem others_after (hrows : u.rows = (erased newId r t).rows ++ fresh fold newId r t) :
    (u.rows.filter fun p => ¬OfPair r p) = (erased newId r t).rows.filter fun p => ¬OfPair r p := by
  have hfresh : ((fresh fold newId r t).filter fun p => ¬OfPair r p) = [] := by
    apply List.filter_eq_nil_iff.mpr
    intro p hp hother
    exact of_decide_eq_true hother (ofPair_of_mem_new (mem_fresh.mp hp).1).2
  rw [hrows, List.filter_append, hfresh, List.append_nil]

/-- A row that stays is not added once more. -/
theorem stays_disjoint_fresh {p q : RolePermissions} (hp : p ∈ stays newId r t)
    (hq : q ∈ fresh fold newId r t) : p.resourceId ≠ q.resourceId := by
  intro heq
  rw [mem_stays] at hp
  rw [mem_fresh] at hq
  have hpair := (ofPair_of_mem_new hq.1).2
  have hid := (getUniqueId_inj hp.2.1 hpair).mpr (congrArg text heq)
  exact hq.2.2 (List.mem_map.mpr ⟨p, hp.1, hid⟩)

theorem nodup_after :
    ((stays newId r t ++ fresh fold newId r t).map RolePermissions.resourceId).Nodup ↔
      ((stays newId r t).map RolePermissions.resourceId).Nodup ∧
        ((fresh fold newId r t).map RolePermissions.resourceId).Nodup := by
  rw [List.map_append, List.nodup_append]
  constructor
  · intro h
    exact ⟨h.1, h.2.1⟩
  · intro h
    refine ⟨h.1, h.2, ?_⟩
    -- what stays and what is fresh cannot share a resource
    intro x hx y hy
    obtain ⟨p, hp, rfl⟩ := List.mem_map.mp hx
    obtain ⟨q, hq, rfl⟩ := List.mem_map.mp hy
    exact stays_disjoint_fresh hp hq

theorem fresh_congr {p q : RolePermissions} (hp : OfPair r p) (hq : OfPair r q)
    (h : p.resourceId = q.resourceId) : Fresh fold r t p ↔ Fresh fold r t q := by
  have hid := (getUniqueId_inj hp hq).mpr (congrArg text h)
  rw [Fresh, Fresh, h, hid]

theorem ne_appId_of_fresh {p : RolePermissions} (h : Fresh fold r t p) :
    p.resourceId ≠ r.appId := by
  intro heq
  have hdiffer := h.1
  rw [heq] at hdiffer
  exact of_decide_eq_false hdiffer rfl

/-- A row that stays has a submitted resource, unless it has none at all. -/
theorem exists_new_of_stays {p : RolePermissions} (h : p ∈ stays newId r t)
    (hsome : p.resourceId ≠ none) :
    ∃ q ∈ newRolePermissions newId r, q.resourceId = p.resourceId := by
  rw [mem_stays] at h
  obtain ⟨q, hq, hid⟩ := List.mem_map.mp h.2.2
  have htext := (getUniqueId_inj (ofPair_of_mem_new hq).2 h.2.1).mp hid
  obtain ⟨x, -, hx⟩ := resourceId_of_mem_new hq
  obtain ⟨y, hy⟩ := Option.ne_none_iff_exists'.mp hsome
  refine ⟨q, hq, ?_⟩
  rw [hx, hy] at htext ⊢
  exact congrArg some htext

theorem stays_of_permed {p q : RolePermissions} (hp : p ∈ newRolePermissions newId r)
    (hq : q ∈ permed r t) (hpair : OfPair r q) (h : q.resourceId = p.resourceId) :
    q ∈ stays newId r t := by
  have hid := (getUniqueId_inj (ofPair_of_mem_new hp).2 hpair).mpr (congrArg text h.symm)
  exact mem_stays.mpr ⟨hq, hpair, List.mem_map.mpr ⟨p, hp, hid⟩⟩

theorem mem_after {x : Option String} :
    x ∈ (stays newId r t ++ fresh fold newId r t).map RolePermissions.resourceId ↔
      (∃ p ∈ stays newId r t, p.resourceId = x) ∨ ∃ p ∈ fresh fold newId r t, p.resourceId = x := by
  rw [List.map_append, List.mem_append, List.mem_map, List.mem_map]

theorem members_after :
    (∀ x, x ∈ (stays newId r t ++ fresh fold newId r t).map RolePermissions.resourceId ↔
      x ∈ requested r) ↔
    (∀ p ∈ stays newId r t, p.resourceId ≠ none ∧ p.resourceId ≠ r.appId) ∧
      ∀ p ∈ newRolePermissions newId r, ¬Fresh fold r t p → p.resourceId ≠ r.appId →
        ∃ q ∈ permed r t, OfPair r q ∧ q.resourceId = p.resourceId := by
  constructor
  · intro h
    constructor
    · intro p hp
      have hrequested := (h _).mp (mem_after.mpr (.inl ⟨p, hp, rfl⟩))
      obtain ⟨⟨q, hq, heq⟩, hother⟩ := (mem_requested newId).mp hrequested
      obtain ⟨x, -, hx⟩ := resourceId_of_mem_new hq
      refine ⟨?_, hother⟩
      rw [← heq, hx]
      exact Option.some_ne_none x
    -- an id that is not fresh can only come from a row that stays
    · intro p hp hstale hother
      rcases mem_after.mp ((h _).mpr ((mem_requested newId).mpr ⟨⟨p, hp, rfl⟩, hother⟩)) with
        ⟨q, hq, heq⟩ | ⟨q, hq, heq⟩
      · rw [mem_stays] at hq
        exact ⟨q, hq.1, hq.2.1, heq⟩
      · rw [mem_fresh] at hq
        have hpairs : Fresh fold r t q ↔ Fresh fold r t p :=
          fresh_congr (ofPair_of_mem_new hq.1).2 (ofPair_of_mem_new hp).2 heq
        exact absurd (hpairs.mp hq.2) hstale
  · rintro ⟨hproper, hpresent⟩ x
    rw [mem_after, mem_requested newId]
    constructor
    · rintro (⟨p, hp, rfl⟩ | ⟨p, hp, rfl⟩)
      · exact ⟨exists_new_of_stays hp (hproper p hp).1, (hproper p hp).2⟩
      · rw [mem_fresh] at hp
        exact ⟨⟨p, hp.1, rfl⟩, ne_appId_of_fresh hp.2⟩
    · rintro ⟨⟨p, hp, rfl⟩, hother⟩
      by_cases hfresh : Fresh fold r t p
      · exact .inr ⟨p, mem_fresh.mpr ⟨hp, hfresh⟩, rfl⟩
      · obtain ⟨q, hq, hpair, heq⟩ := hpresent p hp hfresh hother
        exact .inl ⟨q, stays_of_permed hp hq hpair heq, heq⟩

/-- Where the rows go in, the purpose is reached exactly if they fit the rows found. -/
theorem reached_iff_clean (hrows : u.rows = (erased newId r t).rows ++ fresh fold newId r t) :
    Reached r t u ↔ Clean fold newId r t := by
  have hgranted : ((stays newId r t ++ fresh fold newId r t).map RolePermissions.resourceId).Perm
      (requested r) ↔ _ := perm_iff_of_nodup nodup_requested
  rw [nodup_after, members_after, ← granted_after hrows] at hgranted
  have hothers : _ ↔ ∀ p ∈ permed r t, ¬OfPair r p → Confirmed newId r p := others_erased
  constructor
  · intro h
    obtain ⟨hnodup, hproper, hpresent⟩ := hgranted.mp h.granted
    have hspared := hothers.mp ((others_after hrows).symm.trans h.others)
    exact ⟨hspared, hproper, hnodup.1, hnodup.2, hpresent⟩
  · intro h
    have hperm := hgranted.mpr ⟨⟨h.keptOnce, h.newOnce⟩, h.proper, h.present⟩
    exact ⟨hperm, (others_after hrows).trans (hothers.mpr h.spared)⟩

/-- Where the rows do not go in, the purpose is not reached. -/
theorem not_reached_erased (h : fresh fold newId r t ≠ []) : ¬Reached r t (erased newId r t) := by
  intro hreached
  obtain ⟨p, hp⟩ := List.exists_mem_of_ne_nil _ h
  rw [mem_fresh] at hp
  have hrequested : p.resourceId ∈ requested r :=
    (mem_requested newId).mpr ⟨⟨p, hp.1, rfl⟩, ne_appId_of_fresh hp.2⟩
  -- a fresh id is asked for, and only a row that stays could have it
  rw [← hreached.granted.mem_iff, granted, active_erased] at hrequested
  obtain ⟨q, hq, heq⟩ := List.mem_map.mp hrequested
  exact stays_disjoint_fresh hq (mem_fresh.mpr hp) heq

/-- What was active is still active after the deletion if nothing had to be deleted. -/
theorem kept_iff : (∀ p ∈ t.rows, p.status = Realm.ACTIVE → p ∈ (erased newId r t).rows) ↔
    ∀ p ∈ permed r t, Confirmed newId r p := by
  rw [rows_erased]
  constructor
  · intro h p hp
    have hrow := mem_permed.mp hp
    obtain ⟨q, hq, heq⟩ := List.mem_map.mp (h p hrow.1 hrow.2.1)
    -- the deletion keeps the ids, so that the row found again is the same one
    have hid : (mark newId r t q).id = q.id := by
      unfold mark
      split_ifs
      · exact id_erase q
      · rfl
    rw [heq] at hid
    have hsame := t.eq_of_key_eq hrow.1 hq hid
    rw [← hsame] at heq
    exact mark_eq_self.mp heq hp
  · intro h p hp _
    exact List.mem_map.mpr ⟨p, hp, mark_eq_self.mpr (h p)⟩

theorem resourceIds_ne_nil (h : fresh fold newId r t ≠ []) : resourceIds r ≠ [] := by
  intro hnil
  apply h
  rw [fresh, newRolePermissions, hnil]
  rfl

theorem lawful_of_ok {m : Message} (h : insert fold newId fault r t = .ok m u) :
    Lawful fold newId fault r t ↔ Reached r t u ∧ m.messageType = .success := by
  have hout : outcome (insert fold newId fault r) t = .ok m := by rw [outcome, h]
  have hafter : after fold newId fault r t = u := final_of_ok h
  have hfails : ¬InsertionFails fold newId fault r t := by
    intro hfails
    rw [InsertionFails, hout] at hfails
    cases hfails
  have hanswer : Succeeds fold newId fault r t ↔ m.messageType = .success := by
    constructor
    · rintro ⟨m', hm', hsuccess⟩
      rw [hout] at hm'
      cases hm'
      exact hsuccess
    · intro hsuccess
      exact ⟨m, hout, hsuccess⟩
  constructor
  · intro hlawful
    have hdone := hlawful.done hfails
    have hsuccess := hanswer.mp (hlawful.answer.mpr hdone)
    rw [hafter] at hdone
    exact ⟨hdone, hsuccess⟩
  · rintro ⟨hdone, hsuccess⟩
    rw [← hafter] at hdone
    exact ⟨fun _ => hdone, iff_of_true (hanswer.mpr hsuccess) hdone, fun hf => absurd hf hfails⟩

theorem not_succeeds_of_error {e : JavaException} (h : insert fold newId fault r t = .error e u) :
    ¬Succeeds fold newId fault r t := by
  rintro ⟨m, hm, -⟩
  rw [outcome, h] at hm
  cases hm

theorem not_lawful_of_error {e : JavaException} (h : insert fold newId fault r t = .error e u)
    (he : e ≠ dataAccess "ROLE_PERMISSIONS") : ¬Lawful fold newId fault r t := by
  intro hlawful
  have hfails : ¬InsertionFails fold newId fault r t := by
    intro hfails
    rw [InsertionFails, outcome, h] at hfails
    exact he (Except.error.inj hfails)
  exact not_succeeds_of_error h (hlawful.answer.mpr (hlawful.done hfails))

theorem lawful_of_refusal
    (h : insert fold newId fault r t = .error (dataAccess "ROLE_PERMISSIONS") u) :
    Lawful fold newId fault r t ↔
      ¬Reached r t u ∧ ∀ p ∈ t.rows, p.status = Realm.ACTIVE → p ∈ u.rows := by
  have hafter : after fold newId fault r t = u := final_of_error h
  have hfails : InsertionFails fold newId fault r t := by rw [InsertionFails, outcome, h]
  have hsilent := not_succeeds_of_error h
  rw [← hafter]
  constructor
  · intro hlawful
    exact ⟨fun hdone => hsilent (hlawful.answer.mpr hdone), hlawful.kept hfails⟩
  · rintro ⟨hdone, hkept⟩
    exact ⟨fun hf => absurd hfails hf, iff_of_false hsilent hdone, fun _ => hkept⟩

/-- The request leaves exactly what it asks for, reports it, and loses nothing when the database
refuses the new rows, if some id is new and the rows found fit. -/
theorem lawful_iff_suited : Lawful fold newId fault r t ↔ Suited fold newId fault r t := by
  -- a missing application id throws at the first resource
  by_cases hmissing : r.appId = none ∧ resourceIds r ≠ []
  · refine iff_of_false ?_ fun h => h.app hmissing.1
    exact not_lawful_of_error (insert_of_missing hmissing) nofun
  -- with nothing to insert the answer is an error
  by_cases hfresh : fresh fold newId r t = []
  · refine iff_of_false ?_ fun h => h.some_new hfresh
    rw [lawful_of_ok (insert_of_stale hmissing hfresh)]
    exact fun h => nomatch h.2
  have happ : r.appId ≠ none := by
    intro hnone
    exact hmissing ⟨hnone, resourceIds_ne_nil hfresh⟩
  by_cases hrefused : Refused fold newId fault r t
  · rw [lawful_of_refusal (insert_of_refused hmissing hfresh hrefused), kept_iff]
    constructor
    · intro h
      exact ⟨happ, hfresh, fun _ => h.2, fun htaken => absurd hrefused htaken⟩
    · intro h
      exact ⟨not_reached_erased hfresh, h.writable hrefused⟩
  · obtain ⟨u, hu, hrows⟩ := insert_of_taken hmissing hfresh hrefused
    rw [lawful_of_ok hu, reached_iff_clean hrows]
    constructor
    · intro h
      exact ⟨happ, hfresh, fun hr => absurd hr hrefused, fun _ => h.1⟩
    · intro h
      exact ⟨h.clean hrefused, rfl⟩

end Condition

/-! ## A page that is saved once more -/

def page : Request :=
  { appId := some "mgt", roleId := some "admin", resourceId := some "mgt,users,groups" }

def saved : Table where
  rows :=
    [{ id := "1", appId := some "mgt", roleId := some "admin", resourceId := some "users" },
     { id := "2", appId := some "mgt", roleId := some "admin", resourceId := some "groups" },
     { id := "3", appId := some "mgt", roleId := some "admin", resourceId := some "roles" }]
  nodup_keys := by decide

/-- Taking a permission back is reported as a failure. -/
theorem revoking : ¬Lawful JavaText.foldCase (fun _ => "4") false page saved := by
  have hbound : ¬(page.appId = none ∧ resourceIds page ≠ []) := fun h => nomatch h.1
  have hfresh : fresh JavaText.foldCase (fun _ => "4") page saved = [] := by decide +kernel
  rw [lawful_of_ok (insert_of_stale hbound hfresh)]
  exact fun h => nomatch h.2

end MaxKey.Permissions
