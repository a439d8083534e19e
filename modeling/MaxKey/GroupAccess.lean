import MaxKey.GroupMembers
import MaxKey.Runs
import MaxKey.SingleSignOn

namespace MaxKey.GroupAccess
open Effects Runs GroupMembers

structure Groups where
  id : String
  name : Option String := none
  deriving DecidableEq

structure GroupPrivileges where
  id : Option String := none
  groupId : Option String := none
  appId : Option String := none
  deriving DecidableEq

/-- The tables that decide which applications a user has. -/
structure Console where
  userInfo : KeyedTable UserInfo.id := .empty
  apps : KeyedTable Apps.id := .empty
  groups : KeyedTable Groups.id := .empty
  groupMember : List GroupMember := []
  groupPrivileges : List GroupPrivileges := []

/-- Work on the rows of one table. -/
abbrev Rows (ρ : Type) := EStateM JavaException (List ρ)

section Controllers

variable {ρ : Type}

/-- Whether a row has been deleted; `fails` tells which of the statements fail, by their places. -/
def remove (fails : ℕ → Bool) (key : ρ → Option String) (i : ℕ) (id : String) : Rows ρ Bool := do
  if fails i then return false
  else
    let rows ← get
    set (rows.filter fun r => key r ≠ some id)
    return rows.any fun r => key r = some id

/-- Deletes by each of the ids, from the index i on. The result is that of the last pass. -/
def removeEach (fails : ℕ → Bool) (key : ρ → Option String) : ℕ → List String → Bool → Rows ρ Bool
  | _, [], result => pure result
  | i, id :: ids, _ => do
    let result ← remove fails key i id
    removeEach fails key (i + 1) ids result

/-- What becomes of the deletions is not looked at. -/
def deleteGroupMember (fails : ℕ → Bool) (groupMember : Option GroupMember) :
    Rows GroupMember Message :=
  match groupMember.bind GroupMember.id with
  | none => return ⟨"传入参数为空", .error⟩
  | some groupMemberIds => do
    let _ ← removeEach fails GroupMember.id 0 (JavaText.split ',' groupMemberIds) true
    return INSERT_SUCCESS

def insertPrivilege (service : Service) (i : ℕ) (newGroupApp : GroupPrivileges) :
    Rows GroupPrivileges Bool := do
  if service.fails i then return false
  else
    modify fun rows => rows ++ [newGroupApp]
    return true

def newGroupApp (service : Service) (groupId : String) (i : ℕ) (appId : String) :
    GroupPrivileges := ⟨service.generateId i, groupId, appId⟩

def insertPrivileges (service : Service) (groupId : String) :
    ℕ → List String → Bool → Rows GroupPrivileges Bool
  | _, [], result => pure result
  | i, appId :: arrAppIds, _ => do
    let result ← insertPrivilege service i (newGroupApp service groupId i appId)
    insertPrivileges service groupId (i + 1) arrAppIds result

def insertGroupApp (service : Service) (groupApp : Option GroupPrivileges) :
    Rows GroupPrivileges Message :=
  match groupApp.bind fun groupApp => groupApp.groupId.map fun groupId => (groupApp, groupId) with
  | none => return ⟨"传入参数为空", .error⟩
  | some (groupApp, groupId) =>
    match groupApp.appId with
    | none => return INSERT_SUCCESS
    | some appIds => do
      let result ← insertPrivileges service groupId 0 (JavaText.split ',' appIds) true
      if result then return INSERT_SUCCESS else return INSERT_ERROR

def deleteGroupApp (fails : ℕ → Bool) (groupApp : Option GroupPrivileges) :
    Rows GroupPrivileges Message :=
  match groupApp.bind GroupPrivileges.id with
  | none => return ⟨"传入参数为空", .error⟩
  | some privilegesIds => do
    let result ← removeEach fails GroupPrivileges.id 0 (JavaText.split ',' privilegesIds) true
    if result then return INSERT_SUCCESS else return INSERT_ERROR

end Controllers

/-! ### What the console lists -/

section Lists

variable (console : Console)

/-- A parameter that is null or empty is left out of the query. -/
def asked (parameter : Option String) (p : String → Bool) : Bool :=
  parameter.all fun value => value = "" || p value

/-- The group of the member, where it is one that is asked for. -/
def inAskedGroup (groupId groupName : Option String) (gm : GroupMember) : Bool :=
  console.groups.rows.any fun g =>
    decide (gm.groupId = some g.id) && asked groupId (fun id => decide (g.id = id)) &&
      asked groupName fun name => decide (g.name = some name)

def allMemberInGroup : List (Option String × UserInfo) :=
  console.userInfo.rows.map fun u => (some u.id, u)

/-- Each member with the id of its row. -/
def memberInGroup (groupId groupName : Option String) : List (Option String × UserInfo) :=
  (console.groupMember.filter fun gm =>
      decide (gm.type = some "USER") && inAskedGroup console groupId groupName gm).flatMap fun gm =>
    (console.userInfo.select fun u => gm.memberId = some u.id).map fun u => (gm.id, u)

def memberNotInGroup (groupId groupName : Option String) : List UserInfo :=
  console.userInfo.select fun u => !console.groupMember.any fun gm =>
    decide (gm.memberId = some u.id) && decide (gm.type = some "USER") &&
      inAskedGroup console groupId groupName gm

/-- All users are members of the group of all users, and also where no group is asked for. -/
def queryMemberInGroup (groupId groupName : Option String) : List (Option String × UserInfo) :=
  match groupId with
  | none => allMemberInGroup console
  | some id =>
    if id = "" ∨ id = "ALL_USER_GROUP" then allMemberInGroup console
    else memberInGroup console groupId groupName

/-- The applications of the group, each with its privilege; what else may be asked for is left to
the caller. -/
def appsInGroup (groupId : Option String) : List (GroupPrivileges × Apps) :=
  (console.groupPrivileges.filter fun gp => gp.groupId.isSome ∧ gp.groupId = groupId).flatMap
    fun gp => (console.apps.select fun app => gp.appId = some app.id).map fun app => (gp, app)

def appsNotInGroup (groupId : Option String) : List Apps :=
  console.apps.select fun app => !console.groupPrivileges.any fun gp =>
    decide (gp.appId = some app.id) && (gp.groupId.isSome && decide (gp.groupId = groupId))

/-- The tables as the applications of a user are looked up in them. -/
def tables : SingleSignOn.Tables where
  apps := console.apps
  userInfo := console.userInfo
  groups := console.groups.rows.map Groups.id
  groupPrivileges := console.groupPrivileges.filterMap fun gp =>
    gp.groupId.bind fun groupId => gp.appId.map fun appId => (groupId, appId)
  groupMember := console.groupMember.filterMap fun gm =>
    gm.memberId.bind fun memberId => gm.groupId.map fun groupId => (memberId, groupId)

/-- The applications that the signed-on user is shown. -/
def queryAccessableApps (username : String) : List Apps :=
  SingleSignOn.AppsMapper.queryMyApps (tables console) none (some username)

end Lists

/-! ### Requests to the console -/

/-- What the controllers are asked for. What else changes users or applications may leave them in
any way. -/
inductive Request
  | addGroup (group : Groups)
  | updateGroup (group : Groups)
  | deleteGroup (id : String)
  | insertGroupUser (service : Service) (groupMember : Option GroupMember)
  | deleteGroupMember (fails : ℕ → Bool) (groupMember : Option GroupMember)
  | insertGroupApp (service : Service) (groupApp : Option GroupPrivileges)
  | deleteGroupApp (fails : ℕ → Bool) (groupApp : Option GroupPrivileges)
  | elsewhere (userInfo : KeyedTable UserInfo.id) (apps : KeyedTable Apps.id)

/-- A group that is deleted leaves its members and its privileges behind. -/
def step (console : Console) : Request → Console
  | .addGroup group => { console with groups := (console.groups.insert group).getD console.groups }
  | .updateGroup group => { console with
      groups := console.groups.update (fun g => g.id = group.id)
        (fun g => { g with name := group.name }) fun _ => rfl }
  | .deleteGroup id => { console with groups := console.groups.delete fun g => g.id = id }
  | .insertGroupUser service groupMember => { console with
      groupMember := final (GroupMembers.insertGroupUser service groupMember) console.groupMember }
  | .deleteGroupMember fails groupMember => { console with
      groupMember := final (GroupAccess.deleteGroupMember fails groupMember) console.groupMember }
  | .insertGroupApp service groupApp => { console with
      groupPrivileges := final (GroupAccess.insertGroupApp service groupApp) console.groupPrivileges }
  | .deleteGroupApp fails groupApp => { console with
      groupPrivileges := final (GroupAccess.deleteGroupApp fails groupApp) console.groupPrivileges }
  | .elsewhere userInfo apps => { console with userInfo := userInfo, apps := apps }

/-! ### The rows that a request puts in and takes out -/

/-- The request lists the id among those of rows to be deleted, and this deletion does not fail. -/
def Removes (fails : ℕ → Bool) (listed id : Option String) : Prop :=
  ∃ ids i x, listed = some ids ∧ (x, i) ∈ (JavaText.split ',' ids).zipIdx ∧ fails i = false ∧
    id = some x

/-- The request lists the member, with a name for it, and this insertion does not fail. -/
def Request.insertsMember : Request → GroupMember → Prop
  | .insertGroupUser service (some groupMember), gm =>
    groupMember.groupId ≠ none ∧ ∃ i id name, (id, i) ∈ (listedIds groupMember).zipIdx ∧
      (listedNames groupMember)[i]? = some name ∧ service.fails i = false ∧
      gm = newGroupMember service groupMember i id name
  | _, _ => False

def Request.deletesMember : Request → GroupMember → Prop
  | .deleteGroupMember fails groupMember, gm => Removes fails (groupMember.bind GroupMember.id) gm.id
  | _, _ => False

def Request.insertsPrivilege : Request → GroupPrivileges → Prop
  | .insertGroupApp service (some groupApp), gp =>
    ∃ groupId appIds i appId, groupApp.groupId = some groupId ∧ groupApp.appId = some appIds ∧
      (appId, i) ∈ (JavaText.split ',' appIds).zipIdx ∧ service.fails i = false ∧
      gp = newGroupApp service groupId i appId
  | _, _ => False

def Request.deletesPrivilege : Request → GroupPrivileges → Prop
  | .deleteGroupApp fails groupApp, gp => Removes fails (groupApp.bind GroupPrivileges.id) gp.id
  | _, _ => False

section Loops

variable {ρ : Type} {fails : ℕ → Bool} {key : ρ → Option String} {rows : List ρ} {r : ρ}

/-- What a loop does at some place of a list it does at the first one or later. -/
theorem exists_mem_zipIdx_cons {α : Type} {P : ℕ → α → Prop} {a : α} {as : List α} {i : ℕ} :
    (∃ k x, (x, k) ∈ (a :: as).zipIdx i ∧ P k x) ↔
      P i a ∨ ∃ k x, (x, k) ∈ as.zipIdx (i + 1) ∧ P k x := by
  simp only [List.zipIdx_cons, List.mem_cons, Prod.mk.injEq]
  constructor
  · rintro ⟨k, x, ⟨rfl, rfl⟩ | hx, hrest⟩
    · exact .inl hrest
    · exact .inr ⟨k, x, hx, hrest⟩
  · rintro (hrest | ⟨k, x, hx, hrest⟩)
    · exact ⟨i, a, .inl ⟨rfl, rfl⟩, hrest⟩
    · exact ⟨k, x, .inr hx, hrest⟩

theorem remove_eq (i : ℕ) (id : String) : ∃ result, remove fails key i id rows =
    .ok result (if fails i then rows else rows.filter fun r => key r ≠ some id) := by
  by_cases hfails : fails i = true
  · refine ⟨false, ?_⟩
    rw [remove, if_pos hfails, if_pos hfails]
    rfl
  · refine ⟨rows.any fun r => key r = some id, ?_⟩
    rw [remove, if_neg hfails, if_neg hfails]
    rfl

/-- The loop takes out the rows of the ids that it reaches without failing. -/
theorem mem_removeEach (i : ℕ) (ids : List String) (result : Bool) :
    ∃ result', ∃ rows', removeEach fails key i ids result rows = .ok result' rows' ∧
      (r ∈ rows' ↔ r ∈ rows ∧
        ¬∃ k x, (x, k) ∈ ids.zipIdx i ∧ fails k = false ∧ key r = some x) := by
  induction ids generalizing i result rows with
  | nil => exact ⟨result, rows, rfl, by simp⟩
  | cons id ids ih =>
    obtain ⟨removed, hremove⟩ := @remove_eq ρ fails key rows i id
    obtain ⟨result', rows', hrest, hmem⟩ :=
      @ih (if fails i then rows else rows.filter fun r => key r ≠ some id) (i + 1) removed
    refine ⟨result', rows', ?_, ?_⟩
    · rw [removeEach, bind_of_ok hremove, hrest]
    · rw [hmem, exists_mem_zipIdx_cons]
      cases fails i <;> simp [and_assoc]

/-- Deleting by a list of ids, whatever is made of the last result. -/
theorem mem_final_removeEach {listed : Option String} {otherwise : Message}
    {reply : Bool → Rows ρ Message} (hreply : ∀ result rows, final (reply result) rows = rows) :
    r ∈ final (match listed with
        | none => pure otherwise
        | some ids => removeEach fails key 0 (JavaText.split ',' ids) true >>= reply) rows ↔
      r ∈ rows ∧ ¬Removes fails listed (key r) := by
  cases listed with
  | none =>
    have hnone : ¬Removes fails none (key r) := by
      rintro ⟨ids, i, x, heq, -⟩
      cases heq
    exact (and_iff_left hnone).symm
  | some ids =>
    obtain ⟨result, rows', hrun, hmem⟩ :=
      @mem_removeEach ρ fails key rows r 0 (JavaText.split ',' ids) true
    have hfinal : final (removeEach fails key 0 (JavaText.split ',' ids) true >>= reply) rows =
        rows' := by
      rw [final, bind_of_ok hrun]
      exact hreply result rows'
    have hremoves : Removes fails (some ids) (key r) ↔
        ∃ k x, (x, k) ∈ (JavaText.split ',' ids).zipIdx ∧ fails k = false ∧ key r = some x := by
      constructor
      · rintro ⟨ids', k, x, heq, hx, hk, hkey⟩
        cases heq
        exact ⟨k, x, hx, hk, hkey⟩
      · rintro ⟨k, x, hx, hk, hkey⟩
        exact ⟨ids, k, x, rfl, hx, hk, hkey⟩
    dsimp only
    rw [hfinal, hmem, hremoves]

end Loops

theorem mem_deleteGroupMember {fails : ℕ → Bool} {groupMember : Option GroupMember}
    {rows : List GroupMember} {gm : GroupMember} :
    gm ∈ final (deleteGroupMember fails groupMember) rows ↔
      gm ∈ rows ∧ ¬Removes fails (groupMember.bind GroupMember.id) gm.id :=
  mem_final_removeEach (fun _ _ => rfl)

theorem mem_deleteGroupApp {fails : ℕ → Bool} {groupApp : Option GroupPrivileges}
    {rows : List GroupPrivileges} {gp : GroupPrivileges} :
    gp ∈ final (deleteGroupApp fails groupApp) rows ↔
      gp ∈ rows ∧ ¬Removes fails (groupApp.bind GroupPrivileges.id) gp.id := by
  apply mem_final_removeEach
  intro result rows
  cases result <;> rfl

/-- The loop puts in the listed members that have a name and do not fail, also where it is left
early for want of a name. -/
theorem mem_insertMembers {service : Service} {groupMember : GroupMember} {names : List String}
    {inserted : List GroupMember} {gm : GroupMember} (i : ℕ) (ids : List String) (result : Bool) :
    gm ∈ final (insertMembers service groupMember names i ids result) inserted ↔
      gm ∈ inserted ∨ ∃ k id name, (id, k) ∈ ids.zipIdx i ∧ names[k]? = some name ∧
        service.fails k = false ∧ gm = newGroupMember service groupMember k id name := by
  induction ids generalizing i result inserted with
  | nil => simp [insertMembers, final]
  | cons id ids ih =>
    have hfirst : (∃ k x name, (x, k) ∈ (id :: ids).zipIdx i ∧ names[k]? = some name ∧
          service.fails k = false ∧ gm = newGroupMember service groupMember k x name) ↔
        (∃ name, names[i]? = some name ∧ service.fails i = false ∧
          gm = newGroupMember service groupMember i id name) ∨
        ∃ k x name, (x, k) ∈ ids.zipIdx (i + 1) ∧ names[k]? = some name ∧
          service.fails k = false ∧ gm = newGroupMember service groupMember k x name := by
      simp only [exists_and_left, exists_mem_zipIdx_cons]
    cases hname : names[i]? with
    | none =>
      -- no later place has a name either
      have hlater : ∀ k x, (x, k) ∈ (id :: ids).zipIdx i → names[k]? = none := by
        intro k x hx
        rw [List.getElem?_eq_none_iff] at hname ⊢
        exact hname.trans (List.le_snd_of_mem_zipIdx hx)
      have hleft : insertMembers service groupMember names i (id :: ids) result inserted =
          .error .arrayIndexOutOfBounds inserted := by
        rw [insertMembers, Realm.partAt, hname]
        rfl
      rw [final_of_error hleft]
      refine (or_iff_left ?_).symm
      rintro ⟨k, x, name, hx, hk, -⟩
      rw [hlater k x hx] at hk
      cases hk
    | some name =>
      have hpass :=
        @insertMembers_cons service groupMember inserted names ids i id name result hname
      rw [hfirst, final, hpass]
      change gm ∈ final (insertMembers service groupMember names (i + 1) ids (!service.fails i)) _ ↔ _
      rw [ih, hname]
      cases hfails : service.fails i <;> simp [or_assoc]

theorem mem_insertGroupUser {service : Service} {groupMember : Option GroupMember}
    {rows : List GroupMember} {gm : GroupMember} :
    gm ∈ final (insertGroupUser service groupMember) rows ↔
      (Request.insertGroupUser service groupMember).insertsMember gm ∨ gm ∈ rows := by
  cases groupMember with
  | none => exact (or_iff_right id).symm
  | some groupMember =>
    rw [Request.insertsMember]
    by_cases hgroup : groupMember.groupId = none
    · have hstays : final (insertGroupUser service (some groupMember)) rows = rows := by
        simp only [insertGroupUser, hgroup, if_true]
        rfl
      rw [hstays]
      exact (or_iff_right fun h => h.1 hgroup).symm
    · rw [or_comm, and_iff_right hgroup]
      cases hids : groupMember.memberId with
      | none =>
        have hstays : final (insertGroupUser service (some groupMember)) rows = rows := by
          simp only [insertGroupUser, hgroup, if_false, hids]
          rfl
        rw [hstays]
        simp [listedIds, hids]
      | some memberIds =>
        cases hnames : groupMember.memberName with
        | none =>
          have hstays : final (insertGroupUser service (some groupMember)) rows = rows := by
            simp only [insertGroupUser, hgroup, if_false, hids, hnames]
            rfl
          rw [hstays]
          simp [listedNames, hnames]
        | some memberNames =>
          have hreply : ∀ result : Bool, Leaves (id : List GroupMember → _)
              (if result then pure INSERT_SUCCESS else pure INSERT_ERROR : Inserts Message) := by
            intro result rows
            cases result <;> rfl
          rw [insertGroupUser_listed hgroup hids hnames]
          have hfinal := final_bind_of_leaves hreply (x := insertMembers service groupMember
            (listedNames groupMember) 0 (listedIds groupMember) true) rows
          rw [show final _ rows = _ from hfinal]
          exact mem_insertMembers 0 _ true

theorem mem_insertPrivileges {service : Service} {groupId : String} {rows : List GroupPrivileges}
    {gp : GroupPrivileges} (i : ℕ) (ids : List String) (result : Bool) :
    gp ∈ final (insertPrivileges service groupId i ids result) rows ↔
      gp ∈ rows ∨ ∃ k id, (id, k) ∈ ids.zipIdx i ∧ service.fails k = false ∧
        gp = newGroupApp service groupId k id := by
  induction ids generalizing i result rows with
  | nil => simp [insertPrivileges, final]
  | cons id ids ih =>
    have hinsert : insertPrivilege service i (newGroupApp service groupId i id) rows =
        .ok (!service.fails i)
          (if service.fails i then rows else rows ++ [newGroupApp service groupId i id]) := by
      unfold insertPrivilege
      cases service.fails i <;> rfl
    rw [insertPrivileges, final, bind_of_ok hinsert, exists_mem_zipIdx_cons]
    change gp ∈ final (insertPrivileges service groupId (i + 1) ids (!service.fails i)) _ ↔ _
    rw [ih]
    cases service.fails i <;> simp [or_assoc]

theorem mem_insertGroupApp {service : Service} {groupApp : Option GroupPrivileges}
    {rows : List GroupPrivileges} {gp : GroupPrivileges} :
    gp ∈ final (insertGroupApp service groupApp) rows ↔
      (Request.insertGroupApp service groupApp).insertsPrivilege gp ∨ gp ∈ rows := by
  rcases groupApp with - | ⟨rowId, groupId, appIds⟩
  · exact (or_iff_right id).symm
  · rw [Request.insertsPrivilege]
    cases groupId with
    | none =>
      refine (or_iff_right ?_).symm
      rintro ⟨groupId, appIds, i, appId, hgroup, -⟩
      cases hgroup
    | some groupId =>
      cases appIds with
      | none =>
        refine (or_iff_right ?_).symm
        rintro ⟨groupId, appIds, i, appId, -, happs, -⟩
        cases happs
      | some appIds =>
        have hreply : ∀ result : Bool, Leaves (id : List GroupPrivileges → _)
            (if result then pure INSERT_SUCCESS else pure INSERT_ERROR :
              Rows GroupPrivileges Message) := by
          intro result rows
          cases result <;> rfl
        have hfinal := final_bind_of_leaves hreply
          (x := insertPrivileges service groupId 0 (JavaText.split ',' appIds) true) rows
        rw [show final (insertGroupApp service (some ⟨rowId, groupId, appIds⟩)) rows = _ from hfinal]
        refine (mem_insertPrivileges 0 _ true).trans ?_
        rw [or_comm]
        simp

/-! ### The rows along a run -/

variable {console : Console} {requests : List Request}

theorem mem_groupMember_step (console : Console) (request : Request) (gm : GroupMember) :
    gm ∈ (step console request).groupMember ↔
      request.insertsMember gm ∨ gm ∈ console.groupMember ∧ ¬request.deletesMember gm := by
  cases request with
  | insertGroupUser service groupMember =>
    exact mem_insertGroupUser.trans (or_congr_right (and_iff_left id).symm)
  | deleteGroupMember fails groupMember => exact mem_deleteGroupMember.trans (or_iff_right id).symm
  | _ => simp [step, Request.insertsMember, Request.deletesMember]

theorem mem_groupPrivileges_step (console : Console) (request : Request) (gp : GroupPrivileges) :
    gp ∈ (step console request).groupPrivileges ↔
      request.insertsPrivilege gp ∨ gp ∈ console.groupPrivileges ∧ ¬request.deletesPrivilege gp := by
  cases request with
  | insertGroupApp service groupApp =>
    exact mem_insertGroupApp.trans (or_congr_right (and_iff_left id).symm)
  | deleteGroupApp fails groupApp => exact mem_deleteGroupApp.trans (or_iff_right id).symm
  | _ => simp [step, Request.insertsPrivilege, Request.deletesPrivilege]

/-- The row has been there from the start or has been put in by a request, and no request since has
taken it out. -/
def MemberHeld (console : Console) (requests : List Request) (gm : GroupMember) : Prop :=
  (gm ∈ console.groupMember ∧ ∀ request ∈ requests, ¬request.deletesMember gm) ∨
    AddedSince step (fun _ => Request.insertsMember) Request.deletesMember console requests gm

def PrivilegeHeld (console : Console) (requests : List Request) (gp : GroupPrivileges) : Prop :=
  (gp ∈ console.groupPrivileges ∧ ∀ request ∈ requests, ¬request.deletesPrivilege gp) ∨
    AddedSince step (fun _ => Request.insertsPrivilege) Request.deletesPrivilege console requests gp

theorem mem_groupMember_exec (console : Console) (requests : List Request) (gm : GroupMember) :
    gm ∈ (exec step console requests).groupMember ↔ MemberHeld console requests gm :=
  exec_ledger (H := fun console gm => gm ∈ console.groupMember) mem_groupMember_step console
    requests gm

theorem mem_groupPrivileges_exec (console : Console) (requests : List Request)
    (gp : GroupPrivileges) :
    gp ∈ (exec step console requests).groupPrivileges ↔ PrivilegeHeld console requests gp :=
  exec_ledger (H := fun console gp => gp ∈ console.groupPrivileges) mem_groupPrivileges_step
    console requests gp

/-! ### What the lists and the user's applications come from -/

/-- A privilege of the group for the application. -/
def Opens (gp : GroupPrivileges) (groupId : String) (app : Apps) : Prop :=
  gp.groupId = some groupId ∧ gp.appId = some app.id

/-- The user's place in the group. -/
def Places (gm : GroupMember) (groupId : String) (u : UserInfo) : Prop :=
  gm.memberId = some u.id ∧ gm.groupId = some groupId

theorem mem_tables_groupPrivileges {groupId appId : String} :
    (groupId, appId) ∈ (tables console).groupPrivileges ↔
      ∃ gp ∈ console.groupPrivileges, gp.groupId = some groupId ∧ gp.appId = some appId := by
  simp [tables, Option.bind_eq_some_iff]

theorem isMember_tables {username groupId : String} :
    SingleSignOn.isMember (tables console) none (some username) groupId = true ↔
      ∃ u ∈ console.userInfo.rows, (username = "" ∨ u.username = username) ∧
        ∃ gm ∈ console.groupMember, Places gm groupId u := by
  simp only [SingleSignOn.isMember, tables, List.any_eq_true, List.mem_filterMap, Bool.and_eq_true,
    decide_eq_true_eq, Option.bind_eq_some_iff, Option.map_eq_some_iff, Option.all_none,
    Option.all_some, and_true, Bool.or_eq_true, Places]
  constructor
  · rintro ⟨row, ⟨gm, hgm, memberId, hmember, groupId', hgroup, rfl⟩, rfl, u, hu, hid, hname⟩
    exact ⟨u, hu, hname, gm, hgm, hmember.trans (congrArg some hid), hgroup⟩
  · rintro ⟨u, hu, hname, gm, hgm, hmember, hgroup⟩
    exact ⟨_, ⟨gm, hgm, u.id, hmember, groupId, hgroup, rfl⟩, rfl, u, hu, rfl, hname⟩

theorem mem_queryAccessableApps {username : String} {app : Apps} :
    app ∈ queryAccessableApps console username ↔ app ∈ console.apps.rows ∧
      ∃ group ∈ console.groups.rows, (∃ gp ∈ console.groupPrivileges, Opens gp group.id app) ∧
        (group.id = "ALL_USER_GROUP" ∨ ∃ u ∈ console.userInfo.rows,
          (username = "" ∨ u.username = username) ∧
            ∃ gm ∈ console.groupMember, Places gm group.id u) := by
  have hgroups : ∀ groupId, (tables console).groups.contains groupId = true ↔
      ∃ group ∈ console.groups.rows, group.id = groupId := by
    intro groupId
    rw [List.contains_iff_mem]
    exact List.mem_map
  rw [queryAccessableApps, SingleSignOn.AppsMapper.queryMyApps, KeyedTable.mem_select]
  refine and_congr_right fun _ => ?_
  simp only [List.any_eq_true, Prod.exists, Bool.and_eq_true, Bool.or_eq_true, decide_eq_true_eq,
    mem_tables_groupPrivileges, hgroups, isMember_tables]
  constructor
  · rintro ⟨groupId, appId, ⟨gp, hgp, hgroup, happ⟩, ⟨rfl, group, hmem, rfl⟩, hopen⟩
    exact ⟨group, hmem, ⟨gp, hgp, hgroup, happ⟩, hopen⟩
  · rintro ⟨group, hmem, ⟨gp, hgp, hgroup, happ⟩, hopen⟩
    exact ⟨group.id, app.id, ⟨gp, hgp, hgroup, happ⟩, ⟨rfl, group, hmem, rfl⟩, hopen⟩

theorem mem_appsInGroup {groupId : String} {app : Apps} :
    (∃ gp, (gp, app) ∈ appsInGroup console (some groupId)) ↔
      app ∈ console.apps.rows ∧ ∃ gp ∈ console.groupPrivileges, Opens gp groupId app := by
  simp only [appsInGroup, List.mem_flatMap, List.mem_filter, List.mem_map, KeyedTable.mem_select,
    decide_eq_true_eq, Prod.mk.injEq, Opens]
  constructor
  · rintro ⟨gp, gp', ⟨hgp, -, hgroup⟩, app', ⟨happ, hopens⟩, rfl, rfl⟩
    exact ⟨happ, gp', hgp, hgroup, hopens⟩
  · rintro ⟨happ, gp, hgp, hgroup, hopens⟩
    exact ⟨gp, gp, ⟨hgp, by rw [hgroup]; rfl, hgroup⟩, app, ⟨happ, hopens⟩, rfl, rfl⟩

/-- The members that are listed are users, and no group goes without an id. -/
structure Tidy (console : Console) : Prop where
  users : ∀ gm ∈ console.groupMember, gm.type = some "USER"
  named : ∀ group ∈ console.groups.rows, group.id ≠ ""

theorem inAskedGroup_iff (htidy : Tidy console) {group : Groups}
    (hgroup : group ∈ console.groups.rows) {gm : GroupMember} :
    inAskedGroup console (some group.id) none gm = true ↔ gm.groupId = some group.id := by
  simp only [inAskedGroup, asked, List.any_eq_true, Bool.and_eq_true, decide_eq_true_eq,
    Option.all_some, Option.all_none, Bool.or_eq_true, htidy.named group hgroup, false_or, and_true]
  constructor
  · rintro ⟨g, -, hgm, hg⟩
    exact hgm.trans (congrArg some hg)
  · exact fun hgm => ⟨group, hgroup, hgm, rfl⟩

theorem mem_queryMemberInGroup (htidy : Tidy console) {group : Groups}
    (hgroup : group ∈ console.groups.rows) {u : UserInfo} :
    (∃ id, (id, u) ∈ queryMemberInGroup console (some group.id) none) ↔
      u ∈ console.userInfo.rows ∧ (group.id = "ALL_USER_GROUP" ∨
        ∃ gm ∈ console.groupMember, Places gm group.id u) := by
  rw [queryMemberInGroup]
  split_ifs with hall
  · have hid : group.id = "ALL_USER_GROUP" := hall.resolve_left (htidy.named group hgroup)
    simp [allMemberInGroup, hid]
  · simp only [memberInGroup, List.mem_flatMap, List.mem_filter, List.mem_map,
      KeyedTable.mem_select, Bool.and_eq_true, decide_eq_true_eq, Prod.mk.injEq,
      inAskedGroup_iff htidy hgroup, Places, (not_or.mp hall).2, false_or]
    constructor
    · rintro ⟨id, gm, ⟨hgm, -, hplace⟩, u', ⟨hu, hmember⟩, -, rfl⟩
      exact ⟨hu, gm, hgm, hmember, hplace⟩
    · rintro ⟨hu, gm, hgm, hmember, hplace⟩
      exact ⟨gm.id, gm, ⟨hgm, htidy.users gm hgm, hplace⟩, u, ⟨hu, hmember⟩, rfl, rfl⟩

/-- The console also lists who is not in the group, and which applications are not. -/
theorem mem_memberNotInGroup (htidy : Tidy console) {group : Groups}
    (hgroup : group ∈ console.groups.rows) (hall : group.id ≠ "ALL_USER_GROUP") {u : UserInfo} :
    u ∈ memberNotInGroup console (some group.id) none ↔ u ∈ console.userInfo.rows ∧
      ¬∃ id, (id, u) ∈ queryMemberInGroup console (some group.id) none := by
  rw [mem_queryMemberInGroup htidy hgroup, memberNotInGroup, KeyedTable.mem_select]
  refine and_congr_right fun hu => ?_
  simp only [Bool.not_eq_true', List.any_eq_false, hu, hall, true_and, false_or, not_exists, not_and]
  refine forall₂_congr fun gm hgm => ?_
  simp only [Bool.and_eq_true, decide_eq_true_eq, inAskedGroup_iff htidy hgroup,
    htidy.users gm hgm, and_true, Places, not_and]

theorem mem_appsNotInGroup {groupId : String} {app : Apps} :
    app ∈ appsNotInGroup console (some groupId) ↔ app ∈ console.apps.rows ∧
      ¬∃ gp, (gp, app) ∈ appsInGroup console (some groupId) := by
  rw [mem_appsInGroup, appsNotInGroup, KeyedTable.mem_select]
  refine and_congr_right fun happ => ?_
  simp only [Bool.not_eq_true', List.any_eq_false, happ, true_and, not_exists, not_and]
  refine forall₂_congr fun gp _ => ?_
  simp only [Bool.and_eq_true, decide_eq_true_eq, Opens]
  constructor
  · rintro h ⟨hplace, hopens⟩
    exact h ⟨hopens, by rw [hplace]; rfl, hplace⟩
  · rintro h ⟨hopens, -, hplace⟩
    exact h ⟨hplace, hopens⟩

/-! ### Runs of the console -/

/-- A group that is added has an id. -/
def Request.Named : Request → Prop
  | .addGroup group => group.id ≠ ""
  | _ => True

theorem tidy_step (console : Console) (request : Request) (hnamed : request.Named)
    (htidy : Tidy console) : Tidy (step console request) := by
  constructor
  · intro gm hgm
    rcases (mem_groupMember_step console request gm).mp hgm with hinserts | ⟨hheld, -⟩
    · cases request with
      | insertGroupUser service groupMember =>
        cases groupMember with
        | none => exact hinserts.elim
        | some groupMember =>
          obtain ⟨-, i, id, name, -, -, -, rfl⟩ := hinserts
          rfl
      | _ => exact hinserts.elim
    · exact htidy.users gm hheld
  · intro group hgroup
    cases request with
    | addGroup added =>
      cases hinsert : console.groups.insert added with
      | none =>
        rw [step, hinsert] at hgroup
        exact htidy.named group hgroup
      | some groups =>
        rw [step, hinsert] at hgroup
        rcases List.mem_append.mp (KeyedTable.rows_insert hinsert ▸ hgroup) with hold | hnew
        · exact htidy.named group hold
        · rw [List.mem_singleton.mp hnew]
          exact hnamed
    | updateGroup updated =>
      obtain ⟨before, hbefore, rfl⟩ := List.mem_map.mp hgroup
      split_ifs
      · exact htidy.named before hbefore
      · exact htidy.named before hbefore
    | deleteGroup id => exact htidy.named group (KeyedTable.mem_delete.mp hgroup).1
    | _ => exact htidy.named group hgroup

theorem tidy_exec (hnamed : ∀ request ∈ requests, request.Named) (htidy : Tidy console) :
    Tidy (exec step console requests) :=
  exec_invariant tidy_step
    (meets_of_forall console fun request hrequest _ => hnamed request hrequest) htidy

/-- Whatever the console has been asked for, a user is shown the applications that its lists have in
a group beside the user. -/
theorem console_lists_decide_apps (htidy : Tidy console)
    (hnamed : ∀ request ∈ requests, request.Named) {u : UserInfo}
    (hu : u ∈ (exec step console requests).userInfo.rows) (hname : u.username ≠ "") (app : Apps) :
    app ∈ queryAccessableApps (exec step console requests) u.username ↔
      ∃ group ∈ (exec step console requests).groups.rows,
        (∃ gp, (gp, app) ∈ appsInGroup (exec step console requests) (some group.id)) ∧
        ∃ id v, v.username = u.username ∧
          (id, v) ∈ queryMemberInGroup (exec step console requests) (some group.id) none := by
  have hrun := tidy_exec hnamed htidy
  rw [mem_queryAccessableApps]
  constructor
  · rintro ⟨happ, group, hgroup, hopens, hall | ⟨v, hv, hnamed, hplace⟩⟩
    · obtain ⟨id, hid⟩ := (mem_queryMemberInGroup hrun hgroup).mpr ⟨hu, .inl hall⟩
      exact ⟨group, hgroup, mem_appsInGroup.mpr ⟨happ, hopens⟩, id, u, rfl, hid⟩
    · obtain ⟨id, hid⟩ := (mem_queryMemberInGroup hrun hgroup).mpr ⟨hv, .inr hplace⟩
      exact ⟨group, hgroup, mem_appsInGroup.mpr ⟨happ, hopens⟩, id, v,
        hnamed.resolve_left hname, hid⟩
  · rintro ⟨group, hgroup, hlisted, id, v, hv, hmember⟩
    obtain ⟨happ, hopens⟩ := mem_appsInGroup.mp hlisted
    obtain ⟨hmem, hplace⟩ := (mem_queryMemberInGroup hrun hgroup).mp ⟨id, hmember⟩
    refine ⟨happ, group, hgroup, hopens, ?_⟩
    exact hplace.imp_right fun hplace => ⟨v, hmem, .inr hv, hplace⟩

def ann : UserInfo := { id := "u1", username := "ann" }

def board : Apps := { id := "board" }

def always : Service := ⟨toString, fun _ => false⟩

/-- The first of the two members is not inserted, and the first of the two privileges is taken back. -/
def openings : List Request :=
  [.elsewhere ⟨[ann], List.nodup_singleton _⟩ ⟨[board], List.nodup_singleton _⟩,
    .addGroup ⟨"staff", none⟩,
    .insertGroupUser testService
      (some { groupId := "staff", memberId := "u0,u1", memberName := "Bob,Ann" }),
    .insertGroupApp always (some { groupId := "staff", appId := "wiki,board" }),
    .deleteGroupApp (fun _ => false) (some { id := "0" })]

theorem ann_is_shown_the_board : board ∈ queryAccessableApps (exec step {} openings) "ann" := by
  have htidy : Tidy {} := ⟨fun _ h => absurd h List.not_mem_nil, fun _ h => absurd h List.not_mem_nil⟩
  have hnamed : ∀ request ∈ openings, request.Named := by
    simp [openings, Request.Named]
  refine (console_lists_decide_apps htidy hnamed (u := ann) (by decide +kernel) (by decide)
    board).mpr ⟨⟨"staff", none⟩, by decide +kernel,
      ⟨⟨some "1", some "staff", some "board"⟩, by decide +kernel⟩, some "1", ann, rfl, ?_⟩
  decide +kernel

/-- Whatever the console has been asked for, a user is shown the applications that privileges were
given for, to groups that the user was put in, as far as neither has been taken back. -/
theorem shown_iff_granted (console : Console) (requests : List Request) (username : String)
    (app : Apps) :
    app ∈ queryAccessableApps (exec step console requests) username ↔
      app ∈ (exec step console requests).apps.rows ∧
      ∃ group ∈ (exec step console requests).groups.rows,
        (∃ gp, PrivilegeHeld console requests gp ∧ Opens gp group.id app) ∧
        (group.id = "ALL_USER_GROUP" ∨ ∃ u ∈ (exec step console requests).userInfo.rows,
          (username = "" ∨ u.username = username) ∧
            ∃ gm, MemberHeld console requests gm ∧ Places gm group.id u) := by
  simp only [mem_queryAccessableApps, mem_groupPrivileges_exec, mem_groupMember_exec]

end MaxKey.GroupAccess
