import MaxKey.BasicEntryPoint

namespace MaxKey.GroupMembers
open JavaException Effects Realm

inductive MessageType
  | info
  | error
  deriving DecidableEq

structure Message where
  message : String
  messageType : MessageType
  deriving DecidableEq

structure GroupMember where
  id : Option String := none
  groupId : Option String := none
  groupName : Option String := none
  memberId : Option String := none
  memberName : Option String := none
  type : Option String := none
  deriving DecidableEq

/-- What the service has inserted so far. -/
abbrev Inserts := EStateM JavaException (List GroupMember)

/-- The ids that are generated, and which of the insertions fail, by their places in the loop. -/
structure Service where
  generateId : ℕ → String
  fails : ℕ → Bool

def INSERT_SUCCESS : Message := ⟨"message.action.insert.success", .info⟩

def INSERT_ERROR : Message := ⟨"message.action.insert.error", .error⟩

section Controller

variable (service : Service)

def insert (i : ℕ) (groupMember : GroupMember) : Inserts Bool := do
  if service.fails i then return false
  else
    modify fun inserted => inserted ++ [groupMember]
    return true

def newGroupMember (groupMember : GroupMember) (i : ℕ) (memberId memberName : String) :
    GroupMember where
  id := service.generateId i
  groupId := groupMember.groupId
  groupName := groupMember.groupName
  memberId := memberId
  memberName := memberName
  type := some "USER"

/-- The loop from its index i on. Each pass overwrites the result. -/
def insertMembers (groupMember : GroupMember) (arrMemberNames : List String) :
    ℕ → List String → Bool → Inserts Bool
  | _, [], result => pure result
  | i, memberId :: arrMemberIds, _ => do
    let memberName ← orError (partAt arrMemberNames i)
    let result ← insert service i (newGroupMember service groupMember i memberId memberName)
    insertMembers groupMember arrMemberNames (i + 1) arrMemberIds result

def insertGroupUser (groupMember : Option GroupMember) : Inserts Message :=
  match groupMember with
  | none => return ⟨"传入参数为空", .error⟩
  | some groupMember => do
    if groupMember.groupId = none then return ⟨"传入参数为空", .error⟩
    else
      match groupMember.memberId with
      | none => return INSERT_SUCCESS
      | some memberIds =>
        let memberNames ← orThrow nullPointer groupMember.memberName
        let result ← insertMembers service groupMember (JavaText.split ',' memberNames) 0
          (JavaText.split ',' memberIds) true
        if result then return INSERT_SUCCESS else return INSERT_ERROR

end Controller

/-! ### The members that a request lists -/

/-- The ids of the listed members, as far as split reads them. -/
def listedIds (groupMember : GroupMember) : List String :=
  groupMember.memberId.elim [] (JavaText.split ',')

/-- No names at all count as none, not even for an empty list. -/
def listedNames (groupMember : GroupMember) : List String :=
  groupMember.memberName.elim [] (JavaText.split ',')

variable {service : Service} {groupMember : GroupMember} {inserted inserted' : List GroupMember}
  {names ids : List String}

/-- The listed members from the index i on, each with the name at its own place. -/
def members (service : Service) (groupMember : GroupMember) (names : List String) (i : ℕ)
    (ids : List String) : List (ℕ × GroupMember) :=
  (ids.zip (names.drop i)).zipIdx i |>.map fun entry =>
    (entry.2, newGroupMember service groupMember entry.2 entry.1.1 entry.1.2)

/-- Every listed member has a name and is inserted with it, and nothing else is. -/
def EveryInserted (service : Service) (groupMember : GroupMember)
    (inserted inserted' : List GroupMember) : Prop :=
  (listedIds groupMember).length ≤ (listedNames groupMember).length ∧
    inserted' = inserted ++
      (members service groupMember (listedNames groupMember) 0 (listedIds groupMember)).map Prod.snd

/-- The request ends in one of the two messages: it reports success where every listed member was
inserted, and an error where not. -/
def Reported (service : Service) (groupMember : GroupMember) (inserted : List GroupMember) : Prop :=
  ∃ message inserted', insertGroupUser service (some groupMember) inserted = .ok message inserted' ∧
    (message = INSERT_SUCCESS ∨ message = INSERT_ERROR) ∧
    (message = INSERT_SUCCESS ↔ EveryInserted service groupMember inserted inserted')

/-! ### The loop -/

/-- What the loop returns: the outcome of its last pass. -/
def lastResult (service : Service) (i n : ℕ) (result : Bool) : Bool :=
  if n = 0 then result else !service.fails (i + n - 1)

theorem members_cons {i : ℕ} {id name : String} (hname : names[i]? = some name) :
    members service groupMember names i (id :: ids) =
      (i, newGroupMember service groupMember i id name) ::
        members service groupMember names (i + 1) ids := by
  obtain ⟨hi, hget⟩ := List.getElem?_eq_some_iff.mp hname
  unfold members
  rw [List.drop_eq_getElem_cons hi, hget, List.zip_cons_cons, List.zipIdx_cons, List.map_cons]

/-- One pass, where there is a name for the member. -/
theorem insertMembers_cons {i : ℕ} {id name : String} {result : Bool} (hname : names[i]? = some name) :
    insertMembers service groupMember names i (id :: ids) result inserted =
      insertMembers service groupMember names (i + 1) ids (!service.fails i)
        (if service.fails i then inserted
          else inserted ++ [newGroupMember service groupMember i id name]) := by
  rw [insertMembers, BasicEntryPoint.partAt_eq_ok.mpr hname, orError_ok_bind]
  by_cases hfails : service.fails i = true
  · have hinsert : insert service i (newGroupMember service groupMember i id name) inserted =
        .ok false inserted := by
      rw [insert, if_pos hfails]
      rfl
    rw [bind_of_ok hinsert, if_pos hfails, hfails]
    rfl
  · have hinsert : insert service i (newGroupMember service groupMember i id name) inserted =
        .ok true (inserted ++ [newGroupMember service groupMember i id name]) := by
      rw [insert, if_neg hfails]
      rfl
    rw [bind_of_ok hinsert, if_neg hfails, Bool.eq_false_iff.mpr hfails]
    rfl

/-- With names enough the loop inserts what does not fail, and returns its last outcome. -/
theorem insertMembers_ok {i : ℕ} {result : Bool} (h : i + ids.length ≤ names.length) :
    insertMembers service groupMember names i ids result inserted =
      .ok (lastResult service i ids.length result) (inserted ++
        ((members service groupMember names i ids).filter fun m => !service.fails m.1).map Prod.snd) := by
  induction ids generalizing i result inserted with
  | nil => simp [insertMembers, lastResult, members]
  | cons id ids ih =>
    rw [List.length_cons] at h
    have hi : i < names.length := by omega
    have hname := List.getElem?_eq_getElem hi
    have hlast : lastResult service (i + 1) ids.length (!service.fails i) =
        lastResult service i (ids.length + 1) result := by
      unfold lastResult
      rw [if_neg (Nat.succ_ne_zero _)]
      split_ifs with hnone
      · rw [hnone]
        rfl
      · congr 2
        omega
    rw [insertMembers_cons hname, ih (by omega), members_cons hname, hlast]
    by_cases hfails : service.fails i = true
    · rw [if_pos hfails, List.filter_cons_of_neg (by simp [hfails]), List.length_cons]
    · rw [if_neg hfails, List.filter_cons_of_pos (by simp [hfails]), List.map_cons,
        List.append_assoc, List.singleton_append, List.length_cons]

/-- Without a name for some member the loop leaves the array. -/
theorem insertMembers_error {i : ℕ} {result : Bool} (hi : i ≤ names.length)
    (h : names.length < i + ids.length) : ∃ inserted',
      insertMembers service groupMember names i ids result inserted =
        .error arrayIndexOutOfBounds inserted' := by
  induction ids generalizing i result inserted with
  | nil => exact absurd h (by simpa using hi)
  | cons id ids ih =>
    rw [List.length_cons] at h
    rcases Nat.lt_or_ge i names.length with hlt | hge
    · rw [insertMembers_cons (List.getElem?_eq_getElem hlt)]
      exact ih hlt (by omega)
    · have hnone : names[i]? = none := List.getElem?_eq_none hge
      refine ⟨inserted, ?_⟩
      rw [insertMembers, partAt, hnone]
      rfl

/-! ### What is reported -/

/-- All that the loop inserts is all that is listed only where no insertion fails. -/
theorem filter_members_eq {i : ℕ} (h : i + ids.length ≤ names.length) :
    ((members service groupMember names i ids).filter fun m => !service.fails m.1).map Prod.snd =
        (members service groupMember names i ids).map Prod.snd ↔
      ∀ k < ids.length, service.fails (i + k) = false := by
  induction ids generalizing i with
  | nil => simp [members]
  | cons id ids ih =>
    rw [List.length_cons] at h
    have hi : i < names.length := by omega
    have hshift : ∀ k, i + 1 + k = i + (k + 1) := by
      intro k
      omega
    rw [members_cons (List.getElem?_eq_getElem hi), List.length_cons, Nat.forall_lt_succ_left]
    by_cases hfails : service.fails i = true
    · refine iff_of_false ?_ fun hall => absurd hall.1 (by simp [hfails])
      intro heq
      rw [List.filter_cons_of_neg (by simp [hfails])] at heq
      have hlength := congrArg List.length heq
      have hle := List.length_filter_le (fun m => !service.fails m.1)
        (members service groupMember names (i + 1) ids)
      simp only [List.length_map, List.length_cons] at hlength
      omega
    · rw [List.filter_cons_of_pos (by simp [hfails]), List.map_cons, List.map_cons,
        List.cons_inj_right, ih (by omega)]
      simp only [hshift]
      exact (and_iff_right (Bool.eq_false_iff.mpr hfails)).symm

/-- The names suffice for the ids, and a last insertion that succeeds has no failed one before it. -/
def Tellable (service : Service) (groupMember : GroupMember) : Prop :=
  groupMember.memberId = none ∨ groupMember.memberName ≠ none ∧
    (listedIds groupMember).length ≤ (listedNames groupMember).length ∧
    ((∀ k < (listedIds groupMember).length, service.fails k = false) ∨
      0 < (listedIds groupMember).length ∧ service.fails ((listedIds groupMember).length - 1) = true)

theorem insertGroupUser_listed {memberIds memberNames : String} (hgroup : groupMember.groupId ≠ none)
    (hids : groupMember.memberId = some memberIds)
    (hnames : groupMember.memberName = some memberNames) :
    insertGroupUser service (some groupMember) =
      insertMembers service groupMember (listedNames groupMember) 0 (listedIds groupMember) true >>=
        fun result => if result then pure INSERT_SUCCESS else pure INSERT_ERROR := by
  unfold insertGroupUser listedNames listedIds
  simp only [hgroup, if_false, hids, hnames, orThrow_some_bind, Option.elim_some]

/-- Where there are names enough, the message depends on the last insertion alone. -/
theorem insertGroupUser_ok {memberIds memberNames : String} (hgroup : groupMember.groupId ≠ none)
    (hids : groupMember.memberId = some memberIds)
    (hnames : groupMember.memberName = some memberNames)
    (h : (listedIds groupMember).length ≤ (listedNames groupMember).length) :
    ∃ inserted', insertGroupUser service (some groupMember) inserted =
        .ok (if lastResult service 0 (listedIds groupMember).length true then INSERT_SUCCESS
          else INSERT_ERROR) inserted' ∧
      (EveryInserted service groupMember inserted inserted' ↔
        ∀ k < (listedIds groupMember).length, service.fails k = false) := by
  have henough : 0 + (listedIds groupMember).length ≤ (listedNames groupMember).length := by omega
  let listed := members service groupMember (listedNames groupMember) 0 (listedIds groupMember)
  refine ⟨inserted ++ (listed.filter fun m => !service.fails m.1).map Prod.snd, ?_, ?_⟩
  · rw [insertGroupUser_listed hgroup hids hnames, bind_of_ok (insertMembers_ok henough)]
    split_ifs <;> rfl
  · rw [EveryInserted, List.append_cancel_left_eq, filter_members_eq henough]
    simp only [Nat.zero_add]
    exact and_iff_right h

theorem lastResult_eq_true {n : ℕ} : lastResult service 0 n true = true ↔
    n = 0 ∨ service.fails (n - 1) = false := by
  unfold lastResult
  split_ifs with hn
  · simp [hn]
  · simp [hn]

theorem success_iff {result : Bool} :
    (if result = true then INSERT_SUCCESS else INSERT_ERROR) = INSERT_SUCCESS ↔ result = true := by
  split_ifs with h
  · exact iff_of_true rfl h
  · exact iff_of_false (by decide) h

/-- The last insertion tells of all of them where none fails, or where it fails itself. -/
theorem last_tells_iff {n : ℕ} : (lastResult service 0 n true = true ↔
      ∀ k < n, service.fails k = false) ↔
    (∀ k < n, service.fails k = false) ∨ 0 < n ∧ service.fails (n - 1) = true := by
  rw [lastResult_eq_true]
  rcases Nat.eq_zero_or_pos n with hzero | hpos
  · simp [hzero]
  · have hlast : (∀ k < n, service.fails k = false) → service.fails (n - 1) = false :=
      fun hall => hall (n - 1) (by omega)
    have hne : n ≠ 0 := by omega
    cases hfails : service.fails (n - 1) with
    | true => simpa [hne, hpos, hfails] using hlast
    | false => simp [hne]

theorem reported_of_listed {memberIds memberNames : String} (hgroup : groupMember.groupId ≠ none)
    (hids : groupMember.memberId = some memberIds)
    (hnames : groupMember.memberName = some memberNames) :
    Reported service groupMember inserted ↔ Tellable service groupMember := by
  have htellable : Tellable service groupMember ↔
      (listedIds groupMember).length ≤ (listedNames groupMember).length ∧
        ((∀ k < (listedIds groupMember).length, service.fails k = false) ∨
          0 < (listedIds groupMember).length ∧
            service.fails ((listedIds groupMember).length - 1) = true) := by
    simp [Tellable, hids, hnames]
  rw [htellable]
  rcases Nat.lt_or_ge (listedNames groupMember).length (listedIds groupMember).length with hlt | hle
  · refine iff_of_false ?_ fun h => absurd h.1 (Nat.not_le.mpr hlt)
    rintro ⟨message, after, hrun, -⟩
    obtain ⟨after', herror⟩ := @insertMembers_error service groupMember inserted
      (listedNames groupMember) (listedIds groupMember) 0 true (Nat.zero_le _) (by omega)
    rw [insertGroupUser_listed hgroup hids hnames, bind_of_error herror] at hrun
    cases hrun
  · obtain ⟨after, hrun, hevery⟩ := @insertGroupUser_ok service groupMember inserted _ _ hgroup hids
      hnames hle
    rw [← last_tells_iff, ← hevery, ← success_iff]
    refine ⟨?_, fun htold => ⟨_, after, hrun, ?_, htold.2⟩⟩
    · rintro ⟨message, after', hrun', -, htold⟩
      rw [hrun] at hrun'
      cases hrun'
      exact ⟨hle, htold⟩
    · split_ifs
      · exact .inl rfl
      · exact .inr rfl

theorem reported_of_group (hgroup : groupMember.groupId ≠ none) :
    Reported service groupMember inserted ↔ Tellable service groupMember := by
  cases hids : groupMember.memberId with
  | none =>
    refine iff_of_true ⟨INSERT_SUCCESS, inserted, ?_, .inl rfl, ?_⟩ (.inl hids)
    · simp [insertGroupUser, hgroup, hids]
    · simp [EveryInserted, listedIds, members, hids]
  | some memberIds =>
    cases hnames : groupMember.memberName with
    | none =>
      refine iff_of_false ?_ ?_
      · rintro ⟨message, after, hrun, -⟩
        simp [insertGroupUser, hgroup, hids, hnames, orThrow, bind_apply] at hrun
      · simp [Tellable, hids, hnames]
    | some memberNames => exact reported_of_listed hgroup hids hnames

/-- A request for a group is answered by what has come of it where it lists no members, or where it
has a name for each of them and the last insertion fails if one does. -/
theorem reported_iff (service : Service) (groupId : String) (groupMember : GroupMember)
    (inserted : List GroupMember) :
    Reported service { groupMember with groupId := some groupId } inserted ↔
      Tellable service groupMember :=
  reported_of_group (Option.some_ne_none groupId)

def testService : Service where
  generateId i := toString i
  fails i := i = 0

/-- The first of two members is not inserted, and the second makes the answer a success. -/
theorem failure_hidden :
    insertGroupUser testService (some { groupId := "g", memberId := "a,b", memberName := "A,B" }) [] =
      .ok INSERT_SUCCESS [{ id := some "1", groupId := "g", memberId := "b", memberName := "B"
                            type := "USER" }] := by
  rfl

end MaxKey.GroupMembers
