import MaxKey.PasswordChanges
import MaxKey.Runs

namespace MaxKey

/-- A user as a request brings it; a field that is not given is null. -/
structure UserInfoBody where
  id : Option String := none
  username : Option String := none
  password : Option String := none
  decipherable : Option String := none
  displayName : Option String := none
  email : Option String := none
  mobile : Option String := none
  windowsAccount : Option String := none
  employeeNumber : Option String := none
  sharedSecret : Option String := none
  sharedCounter : Option String := none
  status : Int := 0

namespace UserInfoBody

/-- What an update makes of a row: the columns that are given are written. -/
def write (b : UserInfoBody) (u : UserInfo) : UserInfo :=
  { u with
    username := b.username.getD u.username
    password := b.password.getD u.password
    decipherable := b.decipherable.or u.decipherable
    displayName := b.displayName.or u.displayName
    email := b.email.or u.email
    mobile := b.mobile.or u.mobile
    windowsAccount := b.windowsAccount.or u.windowsAccount
    employeeNumber := b.employeeNumber.or u.employeeNumber
    sharedSecret := b.sharedSecret.or u.sharedSecret
    sharedCounter := b.sharedCounter.or u.sharedCounter
    status := b.status }

theorem id_write (b : UserInfoBody) (u : UserInfo) : (b.write u).id = u.id := rfl

/-- The row of a new user; a null password is the text null in what is encoded. -/
def row (b : UserInfoBody) (generatedId username : String) : UserInfo :=
  { id := b.id.getD generatedId, username, password := b.password.getD "null"
    displayName := b.displayName, email := b.email, mobile := b.mobile, isLocked := 0
    windowsAccount := b.windowsAccount, employeeNumber := b.employeeNumber
    sharedSecret := b.sharedSecret, sharedCounter := b.sharedCounter, status := b.status }

end UserInfoBody

namespace UserInfoService
open WebContext JavaException Effects

/-- More than one row is an error of the mapper; a comparison with a null finds nothing. -/
def loadByUsername (username : Option String) : Web (Option UserInfo) := do
  match (← get).database.userInfo.select fun u => some u.username = username with
  | [] => return none
  | [u] => return some u
  | _ => throw (runtime "org.apache.ibatis.exceptions.TooManyResultsException")

def get (id : String) : Web (Option UserInfo) := do
  return ((← EStateM.get).database.userInfo.select (·.id = id)).head?

/-- UPDATE USERINFO SET the given columns WHERE ID = ?; a failing statement is swallowed. -/
def update (fails : Bool) (b : UserInfoBody) : Web Bool := do
  match b.id with
  | none => return false
  | some id =>
    if fails then return false
    else
      let found := !((← EStateM.get).database.userInfo.select (·.id = id)).isEmpty
      Realm.updateById id b.write b.id_write
      return found

/-- The mapper has no statement of this name, and the exception that says so is swallowed. -/
def logisticDeleteAllByCid (_cid : String) : Web Unit :=
  tryCatch (throw (runtime ("Invalid bound statement (not found): " ++
    "org.maxkey.persistence.mapper.UserInfoMapper.logisticDeleteAllByCid"))) fun _ => pure ()

end UserInfoService

namespace RestApiUserInfoController
open WebContext JavaException Effects

variable (c : PasswordChanges.Config)

/-- The record is touched without a test for null. -/
def getUser (id : String) : Web UserInfo := do
  let loadUserInfo ← Realm.nonNull (← UserInfoService.get id)
  return { loadUserInfo with decipherable := none }

/-- The object of the request goes into the table as it is where its user name is known; else its
password is encoded first. A row without a user name is not taken. -/
def save (fails : Bool) (now generatedId : String) (b : UserInfoBody) : Web UserInfoBody := do
  match ← UserInfoService.loadByUsername b.username with
  | some _ =>
    let _ ← UserInfoService.update fails b
    return b
  | none =>
    let userInfo := b.row generatedId (b.username.getD "null")
    let encoded := UserInfoService.passwordEncoder c.service now userInfo
    let _ ← UserInfoService.insert c.service (fails || b.username.isNone) now userInfo
    return { b with
      id := some userInfo.id, password := some encoded.password
      decipherable := encoded.decipherable }

/-- The user is created, or replaced under the id that the object has. -/
def create (fails : Bool) (now generatedId : String) (b : UserInfoBody) : Web UserInfoBody :=
  save c fails now generatedId b

/-- The id of the path is not looked at. -/
def replace (fails : Bool) (now generatedId _id : String) (b : UserInfoBody) : Web UserInfoBody :=
  save c fails now generatedId b

def delete (id : String) : Web Unit := UserInfoService.logisticDeleteAllByCid id

end RestApiUserInfoController

namespace RestApiUserInfo
open WebContext JavaException Effects RestApiUserInfoController PasswordChanges

abbrev Table := KeyedTable UserInfo.id

inductive Request
  | getUser (id : String)
  | create (fails : Bool) (now generatedId : String) (body : UserInfoBody)
  | replace (fails : Bool) (now generatedId id : String) (body : UserInfoBody)
  | delete (id : String)

def step (c : PasswordChanges.Config) (w : World) : Request → World
  | .getUser id => final (getUser id) w
  | .create fails now generatedId body => final (create c fails now generatedId body) w
  | .replace fails now generatedId id body => final (replace c fails now generatedId id body) w
  | .delete id => final (delete id) w

def users (w : World) : Table := w.database.userInfo

/-- The record lets this password pass and no other one. -/
def Exactly (c : PasswordChanges.Config) (u : UserInfo) (password : String) : Prop :=
  ∀ x, accepts c u x ↔ x = password

/-- The user of the object has a record with this password. -/
def Stored (c : PasswordChanges.Config) (b : UserInfoBody) (password : String) (t : Table) : Prop :=
  ∃ u ∈ t.rows, some u.username = b.username ∧ Exactly c u password

/-- The records of the other ids are the same. -/
def SameOthers (id : String) (t t' : Table) : Prop :=
  ∀ u, u.id ≠ id → (u ∈ t'.rows ↔ u ∈ t.rows)

/-- What each request is to do. -/
def Lawful (c : PasswordChanges.Config) (w : World) : Request → Prop
  | .getUser id => (∀ u ∈ (users w).rows, u.id ≠ id) → (outcome (getUser id) w).isOk
  | .create fails now generatedId body => ∀ password ∈ body.password,
    Stored c body password (users (step c w (.create fails now generatedId body)))
  | .replace fails now generatedId id body =>
    (∀ password ∈ body.password,
      Stored c body password (users (step c w (.replace fails now generatedId id body)))) ∧
    SameOthers id (users w) (users (step c w (.replace fails now generatedId id body)))
  | .delete id =>
    (∀ u ∈ (users (step c w (.delete id))).rows, u.id = id → u.status ≠ Realm.ACTIVE) ∧
    SameOthers id (users w) (users (step c w (.delete id)))

/-- The user name of the object is in the table. -/
def Known (b : UserInfoBody) (t : Table) : Prop := ∃ u ∈ t.rows, some u.username = b.username

/-- A row can be made of the object, and its id is free. -/
def Insertable (fails : Bool) (generatedId : String) (b : UserInfoBody) (t : Table) : Prop :=
  ¬fails ∧ b.username.isSome ∧ ∀ u ∈ t.rows, u.id ≠ b.id.getD generatedId

/-- The update is made, and writes to this row. -/
def Reached (fails : Bool) (b : UserInfoBody) (t : Table) (u : UserInfo) : Prop :=
  ¬fails ∧ b.id = some u.id ∧ (t.select fun v => some v.username = b.username).length = 1

instance (b : UserInfoBody) (t : Table) : Decidable (Known b t) :=
  inferInstanceAs (Decidable (∃ u ∈ t.rows, _))

instance (fails : Bool) (generatedId : String) (b : UserInfoBody) (t : Table) :
    Decidable (Insertable fails generatedId b t) := inferInstanceAs (Decidable (_ ∧ _ ∧ _))

instance (fails : Bool) (b : UserInfoBody) (t : Table) (u : UserInfo) :
    Decidable (Reached fails b t u) := inferInstanceAs (Decidable (_ ∧ _ ∧ _))

/-- A new user can be inserted. A known one has the password already in a record that is not
reached, or in a reached one, if the text of the password is its own encoding. -/
def Encodes (c : PasswordChanges.Config) (fails : Bool) (generatedId : String) (b : UserInfoBody)
    (password : String) (t : Table) : Prop :=
  if Known b t then
    (∃ u ∈ t.rows, some u.username = b.username ∧ ¬Reached fails b t u ∧ Exactly c u password) ∨
      ∃ u ∈ t.rows, Reached fails b t u ∧ Exactly c (b.write u) password
  else Insertable fails generatedId b t

/-- What is written is written to the id of the path, or is there already. -/
def Aimed (fails : Bool) (generatedId id : String) (b : UserInfoBody) (t : Table) : Prop :=
  if Known b t then ∀ u ∈ t.rows, Reached fails b t u → u.id = id ∨ b.write u = u
  else Insertable fails generatedId b t → b.id.getD generatedId = id

/-- When a request does what it is to do. -/
def Suited (c : PasswordChanges.Config) (w : World) : Request → Prop
  | .getUser id => ∃ u ∈ (users w).rows, u.id = id
  | .create fails _ generatedId body =>
    ∀ password ∈ body.password, Encodes c fails generatedId body password (users w)
  | .replace fails _ generatedId id body =>
    (∀ password ∈ body.password, Encodes c fails generatedId body password (users w)) ∧
      Aimed fails generatedId id body (users w)
  | .delete id => ∀ u ∈ (users w).rows, u.id = id → u.status ≠ Realm.ACTIVE

section Requests

variable {c : PasswordChanges.Config} {fails : Bool} {now generatedId : String} {b : UserInfoBody}
  {password : String} {w : World} {t : Table}

theorem getUser_isOk {id : String} :
    (outcome (getUser id) w).isOk ↔ ∃ u ∈ (users w).rows, u.id = id := by
  have hget : UserInfoService.get id w = .ok ((users w).select (·.id = id)).head? w := rfl
  unfold getUser outcome
  rw [bind_of_ok hget]
  cases hhead : ((users w).select (·.id = id)).head? with
  | none =>
    apply iff_of_false
    · intro hok
      cases hok
    · intro ⟨u, hu, hid⟩
      rw [List.head?_eq_none_iff] at hhead
      have hmem : u ∈ (users w).select (·.id = id) :=
        KeyedTable.mem_select.mpr ⟨hu, decide_eq_true hid⟩
      rw [hhead] at hmem
      cases hmem
  | some u =>
    obtain ⟨hu, hid⟩ := KeyedTable.mem_select.mp (List.mem_of_mem_head? hhead)
    exact iff_of_true rfl ⟨u, hu, of_decide_eq_true hid⟩

theorem select_eq_nil (h : ¬Known b t) : t.select (fun u => some u.username = b.username) = [] := by
  rw [List.eq_nil_iff_forall_not_mem]
  intro u hu
  obtain ⟨hmem, hname⟩ := KeyedTable.mem_select.mp hu
  exact h ⟨u, hmem, of_decide_eq_true hname⟩

/-- A user name that no row has leads to the insertion. -/
theorem final_save_of_unknown (h : ¬Known b (users w)) :
    final (save c fails now generatedId b) w =
      final (UserInfoService.insert c.service (fails || b.username.isNone) now
        (b.row generatedId (b.username.getD "null"))) w := by
  let userInfo := b.row generatedId (b.username.getD "null")
  have hload : UserInfoService.loadByUsername b.username w = .ok none w := by
    have hnone : w.database.userInfo.select (fun u => some u.username = b.username) = [] :=
      select_eq_nil h
    unfold UserInfoService.loadByUsername
    rw [bind_of_ok (get_apply w), hnone]
    rfl
  have hreturn := final_bind_of_leaves (g := fun t => t)
    (x := UserInfoService.insert c.service (fails || b.username.isNone) now userInfo)
    (f := fun _ => (pure { b with
      id := some userInfo.id
      password := some (UserInfoService.passwordEncoder c.service now userInfo).password
      decipherable := (UserInfoService.passwordEncoder c.service now userInfo).decipherable } :
        Web UserInfoBody)) (fun _ => leaves_pure _) w
  refine Eq.trans ?_ hreturn
  unfold final save
  rw [bind_of_ok hload]

/-- What the statement and the primary key ask for. -/
theorem insertable_iff {u : UserInfo} (hid : u.id = b.id.getD generatedId) :
    Insertable fails generatedId b t ↔
      (fails || b.username.isNone) = false ∧ t.insert u ≠ none := by
  have hwrites : (fails || b.username.isNone) = false ↔ ¬fails ∧ b.username.isSome := by
    cases b.username with
    | none => simp
    | some name => simp
  have hfree : t.insert u ≠ none ↔ ∀ v ∈ t.rows, v.id ≠ b.id.getD generatedId := by
    rw [Ne, KeyedTable.insert_eq_none, hid]
    simp only [not_exists, not_and, ne_eq]
  rw [hwrites, hfree, and_assoc]
  rfl

/-- A new user goes into the table with an encoded password. -/
theorem users_save_of_unknown (h : ¬Known b (users w)) :
    (users (final (save c fails now generatedId b) w)).rows =
      if Insertable fails generatedId b (users w) then (users w).rows ++
        [UserInfoService.passwordEncoder c.service now (b.row generatedId (b.username.getD "null"))]
      else (users w).rows := by
  let userInfo := b.row generatedId (b.username.getD "null")
  let encoded := UserInfoService.passwordEncoder c.service now userInfo
  have hiff : Insertable fails generatedId b (users w) ↔
      (fails || b.username.isNone) = false ∧ w.database.userInfo.insert encoded ≠ none :=
    insertable_iff rfl
  rw [final_save_of_unknown h, final, insert_apply]
  cases hinsert : w.database.userInfo.insert encoded with
  | none =>
    rw [if_neg fun hinsertable => (hiff.mp hinsertable).2 hinsert]
  | some rows =>
    by_cases hwrites : (fails || b.username.isNone) = true
    · have hnot : ¬Insertable fails generatedId b (users w) := by
        intro hinsertable
        rw [(hiff.mp hinsertable).1] at hwrites
        cases hwrites
      rw [if_neg hnot]
      simp only [hwrites, if_true]
    · have hinsertable : Insertable fails generatedId b (users w) := by
        apply hiff.mpr
        exact ⟨Bool.eq_false_iff.mpr hwrites, by simp [hinsert]⟩
      rw [if_pos hinsertable]
      simp only [hwrites]
      exact KeyedTable.rows_insert hinsert

/-- A user name that one row has leads to the update. -/
theorem final_save_of_one {u : UserInfo}
    (h : (users w).select (fun u => some u.username = b.username) = [u]) :
    final (save c fails now generatedId b) w = final (UserInfoService.update fails b) w := by
  have hload : UserInfoService.loadByUsername b.username w = .ok (some u) w := by
    have hone : w.database.userInfo.select (fun u => some u.username = b.username) = [u] := h
    unfold UserInfoService.loadByUsername
    rw [bind_of_ok (get_apply w), hone]
    rfl
  have hreturn := final_bind_of_leaves (g := fun t => t)
    (x := UserInfoService.update fails b)
    (f := fun _ => (pure b : Web UserInfoBody)) (fun _ => leaves_pure _) w
  refine Eq.trans ?_ hreturn
  unfold final save
  rw [bind_of_ok hload]

/-- A user name that several rows have is an error. -/
theorem final_save_of_many {u v : UserInfo} {rest : List UserInfo}
    (h : (users w).select (fun u => some u.username = b.username) = u :: v :: rest) :
    final (save c fails now generatedId b) w = w := by
  have hthrow : UserInfoService.loadByUsername b.username w =
      .error (runtime "org.apache.ibatis.exceptions.TooManyResultsException") w := by
    have hmany : w.database.userInfo.select (fun u => some u.username = b.username) =
      u :: v :: rest := h
    unfold UserInfoService.loadByUsername
    rw [bind_of_ok (get_apply w), hmany]
    rfl
  unfold save
  exact final_of_error (bind_of_error hthrow)

/-- An update without an id, or that fails, does nothing. -/
theorem final_update_of_idle (h : fails ∨ b.id = none) :
    final (UserInfoService.update fails b) w = w := by
  unfold UserInfoService.update
  cases hid : b.id with
  | none => rfl
  | some id =>
    have hf : fails = true := by
      rcases h with hf | hnone
      · exact hf
      · rw [hid] at hnone
        cases hnone
    simp only [hf, if_true]
    rfl

theorem users_update {id : String} (hf : ¬fails) (hid : b.id = some id) :
    users (final (UserInfoService.update fails b) w) =
      (users w).update (·.id = id) b.write b.id_write := by
  unfold UserInfoService.update
  rw [hid]
  simp only [hf]
  rfl

theorem mem_of_unreached (hnone : ∀ u ∈ t.rows, ¬Reached fails b t u) {v : UserInfo} :
    v ∈ t.rows ↔ ∃ u ∈ t.rows, (if Reached fails b t u then b.write u else u) = v := by
  constructor
  · intro hv
    exact ⟨v, hv, if_neg (hnone v hv)⟩
  · intro ⟨u, hu, hif⟩
    rw [if_neg (hnone u hu)] at hif
    rw [← hif]
    exact hu

/-- An update that is not idle reaches the row of its id. -/
theorem mem_users_update (hone : ((users w).select fun u => some u.username = b.username).length = 1)
    {v : UserInfo} :
    v ∈ (users (final (UserInfoService.update fails b) w)).rows ↔
      ∃ u ∈ (users w).rows, (if Reached fails b (users w) u then b.write u else u) = v := by
  have hreached : ∀ u, Reached fails b (users w) u ↔ ¬fails ∧ b.id = some u.id := by
    intro u
    simp [Reached, hone]
  by_cases hidle : fails = true ∨ b.id = none
  · rw [final_update_of_idle hidle]
    apply mem_of_unreached
    intro u _ hu
    obtain ⟨hf, hid⟩ := (hreached u).mp hu
    rcases hidle with hfails | hnone
    · exact hf hfails
    · rw [hnone] at hid
      cases hid
  · rw [not_or] at hidle
    obtain ⟨id, hid⟩ := Option.ne_none_iff_exists'.mp hidle.2
    have hiff : ∀ u : UserInfo, Reached fails b (users w) u ↔ decide (u.id = id) = true := by
      intro u
      rw [hreached, hid, decide_eq_true_eq, Option.some.injEq]
      exact ⟨fun h => h.2.symm, fun h => ⟨hidle.1, h.symm⟩⟩
    rw [users_update hidle.1 hid, KeyedTable.mem_update]
    simp only [hiff]

/-- The row that is reached takes what is given. -/
theorem mem_users_save_of_known (h : Known b (users w)) {v : UserInfo} :
    v ∈ (users (final (save c fails now generatedId b) w)).rows ↔
      ∃ u ∈ (users w).rows, (if Reached fails b (users w) u then b.write u else u) = v := by
  obtain ⟨known, hknown, hname⟩ := h
  have hmem : known ∈ (users w).select fun u => some u.username = b.username :=
    KeyedTable.mem_select.mpr ⟨hknown, decide_eq_true hname⟩
  cases hfound : (users w).select fun u => some u.username = b.username with
  | nil =>
    rw [hfound] at hmem
    cases hmem
  | cons u₀ rest =>
    cases rest with
    | nil =>
      rw [final_save_of_one hfound]
      apply mem_users_update
      rw [hfound]
      rfl
    | cons u₁ rest =>
      rw [final_save_of_many hfound]
      apply mem_of_unreached
      intro u _ hu
      have hlength := hu.2.2
      rw [hfound] at hlength
      simp at hlength

/-- The row of a new user takes the password of the request and no other one. -/
theorem exactly_of_encoded (hc : Encoders c) (hpassword : b.password = some password)
    (username : String) :
    Exactly c (UserInfoService.passwordEncoder c.service now (b.row generatedId username))
      password := by
  intro x
  rw [accepts_iff]
  change c.realm.passwordMatches (Realm.rawPassword username x)
    (c.recovery.encode (Realm.rawPassword username (b.password.getD "null"))) ↔ _
  rw [hc.matches_encode, rawPassword_inj, hpassword, Option.getD_some]

theorem stored_of_known (hknown : Known b (users w)) :
    Stored c b password (users (final (save c fails now generatedId b) w)) ↔
      (∃ u ∈ (users w).rows, some u.username = b.username ∧ ¬Reached fails b (users w) u ∧
        Exactly c u password) ∨
      ∃ u ∈ (users w).rows, Reached fails b (users w) u ∧ Exactly c (b.write u) password := by
  constructor
  · intro ⟨v, hv, hname, hexactly⟩
    obtain ⟨u, hu, hif⟩ := (mem_users_save_of_known hknown).mp hv
    by_cases hreached : Reached fails b (users w) u
    · rw [if_pos hreached] at hif
      rw [← hif] at hexactly
      exact .inr ⟨u, hu, hreached, hexactly⟩
    · rw [if_neg hreached] at hif
      rw [← hif] at hname hexactly
      exact .inl ⟨u, hu, hname, hreached, hexactly⟩
  · intro h
    rcases h with ⟨u, hu, hname, hreached, hexactly⟩ | ⟨u, hu, hreached, hexactly⟩
    · refine ⟨u, ?_, hname, hexactly⟩
      exact (mem_users_save_of_known hknown).mpr ⟨u, hu, if_neg hreached⟩
    · refine ⟨b.write u, ?_, ?_, hexactly⟩
      · exact (mem_users_save_of_known hknown).mpr ⟨u, hu, if_pos hreached⟩
      · obtain ⟨known, -, hname⟩ := hknown
        change some (b.username.getD u.username) = b.username
        rw [← hname]
        rfl

theorem stored_of_unknown (hc : Encoders c) (hpassword : b.password = some password)
    (hknown : ¬Known b (users w)) :
    Stored c b password (users (final (save c fails now generatedId b) w)) ↔
      Insertable fails generatedId b (users w) := by
  constructor
  · intro ⟨v, hv, hname, _⟩
    by_contra hnot
    rw [users_save_of_unknown hknown, if_neg hnot] at hv
    exact hknown ⟨v, hv, hname⟩
  · intro hinsertable
    let encoded := UserInfoService.passwordEncoder c.service now
      (b.row generatedId (b.username.getD "null"))
    refine ⟨encoded, ?_, ?_, exactly_of_encoded hc hpassword _⟩
    · rw [users_save_of_unknown hknown, if_pos hinsertable]
      exact List.mem_append_right _ (List.mem_singleton_self _)
    · obtain ⟨name, hname⟩ := Option.isSome_iff_exists.mp hinsertable.2.1
      change some (b.username.getD "null") = b.username
      rw [hname]
      rfl

/-- The password that is stored of a user is the one of the request exactly in these cases. -/
theorem stored_iff (hc : Encoders c) (hpassword : b.password = some password) :
    Stored c b password (users (final (save c fails now generatedId b) w)) ↔
      Encodes c fails generatedId b password (users w) := by
  unfold Encodes
  by_cases hknown : Known b (users w)
  · rw [if_pos hknown]
    exact stored_of_known hknown
  · rw [if_neg hknown]
    exact stored_of_unknown hc hpassword hknown

theorem sameOthers_of_known {id : String} (hknown : Known b (users w)) :
    SameOthers id (users w) (users (final (save c fails now generatedId b) w)) ↔
      ∀ u ∈ (users w).rows, Reached fails b (users w) u → u.id = id ∨ b.write u = u := by
  constructor
  · intro h u hu hreached
    by_cases hid : u.id = id
    · exact .inl hid
    · obtain ⟨v, hv, hif⟩ := (mem_users_save_of_known hknown).mp ((h u hid).mpr hu)
      have hkey : v.id = u.id := by
        rw [← hif]
        split_ifs
        · exact (b.id_write v).symm
        · rfl
      rw [KeyedTable.eq_of_key_eq _ hv hu hkey, if_pos hreached] at hif
      exact .inr hif
  · intro haimed v hid
    rw [mem_users_save_of_known hknown]
    constructor
    · intro ⟨u, hu, hif⟩
      by_cases hreached : Reached fails b (users w) u
      · rw [if_pos hreached] at hif
        rcases haimed u hu hreached with hpath | hsame
        · rw [← hif, b.id_write] at hid
          exact absurd hpath hid
        · rw [← hif, hsame]
          exact hu
      · rw [if_neg hreached] at hif
        rw [← hif]
        exact hu
    · intro hv
      refine ⟨v, hv, ?_⟩
      by_cases hreached : Reached fails b (users w) v
      · rw [if_pos hreached]
        exact (haimed v hv hreached).resolve_left hid
      · exact if_neg hreached

theorem sameOthers_of_unknown {id : String} (hknown : ¬Known b (users w)) :
    SameOthers id (users w) (users (final (save c fails now generatedId b) w)) ↔
      (Insertable fails generatedId b (users w) → b.id.getD generatedId = id) := by
  let encoded := UserInfoService.passwordEncoder c.service now
    (b.row generatedId (b.username.getD "null"))
  constructor
  · intro h hinsertable
    by_contra hid
    have hnew : encoded ∈ (users (final (save c fails now generatedId b) w)).rows := by
      rw [users_save_of_unknown hknown, if_pos hinsertable]
      exact List.mem_append_right _ (List.mem_singleton_self _)
    exact hinsertable.2.2 encoded ((h encoded hid).mp hnew) rfl
  · intro haimed v hid
    rw [users_save_of_unknown hknown]
    by_cases hinsertable : Insertable fails generatedId b (users w)
    · have hne : v ≠ encoded := by
        intro hv
        rw [hv] at hid
        exact hid (haimed hinsertable)
      rw [if_pos hinsertable, List.mem_append, List.mem_singleton]
      exact or_iff_left hne
    · rw [if_neg hinsertable]

/-- The other records are the same exactly where what is written goes to the id, or is there. -/
theorem sameOthers_iff {id : String} :
    SameOthers id (users w) (users (final (save c fails now generatedId b) w)) ↔
      Aimed fails generatedId id b (users w) := by
  unfold Aimed
  by_cases hknown : Known b (users w)
  · rw [if_pos hknown]
    exact sameOthers_of_known hknown
  · rw [if_neg hknown]
    exact sameOthers_of_unknown hknown

/-- A request does what it is to do exactly where it is suited. -/
theorem lawful_iff (hc : Encoders c) (w : World) (a : Request) : Lawful c w a ↔ Suited c w a := by
  cases a with
  | getUser id =>
    simp only [Lawful, Suited]
    rw [getUser_isOk]
    constructor
    · intro h
      by_contra hnone
      apply hnone
      apply h
      intro u hu hid
      exact hnone ⟨u, hu, hid⟩
    · intro hknown _
      exact hknown
  | create fails now generatedId body =>
    refine forall₂_congr fun password hpassword => ?_
    exact stored_iff hc hpassword
  | replace fails now generatedId id body =>
    refine and_congr (forall₂_congr fun password hpassword => ?_) sameOthers_iff
    exact stored_iff hc hpassword
  | delete id =>
    have hquiet : users (step c w (.delete id)) = users w := rfl
    simp only [Lawful, Suited, hquiet]
    constructor
    · intro h
      exact h.1
    · intro h
      exact ⟨h, fun _ _ => Iff.rfl⟩

end Requests

section Examples

def ann : UserInfo := { id := "1", username := "ann", password := "#old@ann", status := Realm.ACTIVE }

def office : World where
  database :=
    { userInfo := ⟨[ann], by decide⟩, historyLogin := [], groupMember := [], passwordPolicy := [] }
  session := { id := "s" }

def newcomer : UserInfoBody :=
  { id := some "2", username := some "bob", password := some "secret" }

def annAnew : UserInfoBody := { id := some "1", username := some "ann", password := some "new" }

end Examples

end RestApiUserInfo

end MaxKey
