import MaxKey.SafeEndpoints

namespace MaxKey.ProfileUpdates
open WebContext JavaException Effects SafeEndpoints

/-- The fields of a form that go into a record as they are. -/
structure Profile where
  displayName : Option String := none
  nickName : Option String := none
  nameZhSpell : Option String := none
  nameZhShortSpell : Option String := none
  givenName : Option String := none
  middleName : Option String := none
  familyName : Option String := none
  honorificPrefix : Option String := none
  honorificSuffix : Option String := none
  formattedName : Option String := none
  married : Option ℤ := some 0
  gender : Option ℤ := some 0
  birthDate : Option String := none
  idType : Option ℤ := some 0
  idCardNo : Option String := none
  webSite : Option String := none
  locale : Option String := none
  timeZone : Option String := none
  preferredLanguage : Option String := none
  windowsAccount : Option String := none
  workCountry : Option String := none
  workRegion : Option String := none
  workLocality : Option String := none
  workStreetAddress : Option String := none
  workAddressFormatted : Option String := none
  workEmail : Option String := none
  workPhoneNumber : Option String := none
  workPostalCode : Option String := none
  workFax : Option String := none
  homeCountry : Option String := none
  homeRegion : Option String := none
  homeLocality : Option String := none
  homeStreetAddress : Option String := none
  homeAddressFormatted : Option String := none
  homeEmail : Option String := none
  homePhoneNumber : Option String := none
  homePostalCode : Option String := none
  homeFax : Option String := none
  extraAttribute : Option String := none
  modifiedBy : Option String := none
  deriving DecidableEq

/-- The form that the parameters of a request are bound to. -/
structure UserInfo where
  id : Option String := none
  picture : Option (List UInt8) := none
  profile : Profile := {}

/-- A row of USERINFO, with the columns that the statement writes. -/
structure Row where
  id : String
  picture : Option (List UInt8) := none
  profile : Profile := {}
  modifiedDate : Option String := none
  deriving DecidableEq

/-- The id of the user of the session, the message that the session shows next, and the table. -/
structure State where
  currentUser : String
  message : Option (String × MessageType) := none
  userInfo : KeyedTable Row.id

abbrev Action := EStateM JavaException State

/-- The form, the time, and whether the statement fails. -/
structure Request where
  userInfo : UserInfo
  fails : Bool := false
  now : String

/-- What the statement makes of the record. A picture is written if there is one. -/
def written (r : Request) (row : Row) : Row where
  id := row.id
  picture := r.userInfo.picture.or row.picture
  profile := r.userInfo.profile
  modifiedDate := some r.now

theorem written_id (r : Request) (row : Row) : (written r row).id = row.id := rfl

/-- The record is the one with the id of the form. -/
def updateProfile (r : Request) : Action ℕ := do
  if r.fails then throw (runtime "org.springframework.dao.DataIntegrityViolationException")
  else
    let s ← get
    let selects := fun row : Row => decide (r.userInfo.id = some row.id)
    set { s with userInfo := s.userInfo.update selects (written r) (written_id r) }
    return (s.userInfo.select selects).length

/-- The errors of the binding are not looked at, and only the message of a success is kept. -/
def updatebasic (r : Request) : Action Response := do
  if (← updateProfile r) > 0 then
    modify fun s => { s with message := some ("message.action.update.success", .success) }
  return .view "forward:forwardMyProfile"

/-- The records of all users but the one of the session. -/
def others (own : String) (table : KeyedTable Row.id) : List Row := table.select (·.id ≠ own)

/-- The record has all values of the form already. -/
structure Holds (r : Request) (row : Row) : Prop where
  picture : ∀ picture ∈ r.userInfo.picture, row.picture = some picture
  profile : row.profile = r.userInfo.profile
  modifiedDate : row.modifiedDate = some r.now

section

variable {r : Request} {row : Row} {s : State}

theorem written_eq_self : written r row = row ↔ Holds r row := by
  obtain ⟨id, picture, profile, modifiedDate⟩ := row
  have hpicture : r.userInfo.picture.or picture = picture ↔
      ∀ p ∈ r.userInfo.picture, picture = some p := by
    cases hform : r.userInfo.picture with
    | none => simp
    | some p => simp [eq_comm]
  simp only [written, Row.mk.injEq, true_and, hpicture]
  constructor
  · intro ⟨h, hprofile, hdate⟩
    exact ⟨h, hprofile.symm, hdate.symm⟩
  · intro h
    exact ⟨h.picture, h.profile.symm, h.modifiedDate.symm⟩

/-- The table after a request. -/
def updated (r : Request) (s : State) : KeyedTable Row.id :=
  s.userInfo.update (fun row => decide (r.userInfo.id = some row.id)) (written r) (written_id r)

theorem updateProfile_of_fails (h : r.fails = true) (s : State) : updateProfile r s =
    .error (runtime "org.springframework.dao.DataIntegrityViolationException") s := by
  unfold updateProfile
  rw [if_pos h]
  rfl

theorem updateProfile_of_not_fails (h : r.fails = false) (s : State) : updateProfile r s =
    .ok (s.userInfo.select fun row => decide (r.userInfo.id = some row.id)).length
      { s with userInfo := updated r s } := by
  unfold updateProfile
  rw [h]
  rfl

theorem userInfo_updatebasic (r : Request) (s : State) :
    (final (updatebasic r) s).userInfo = if r.fails then s.userInfo else updated r s := by
  by_cases hfails : r.fails = true
  · rw [if_pos hfails]
    unfold updatebasic
    rw [final_of_error (bind_of_error (updateProfile_of_fails hfails s))]
  · rw [if_neg hfails]
    rw [Bool.not_eq_true] at hfails
    have hwritten := updateProfile_of_not_fails hfails s
    unfold updatebasic
    simp only [final, bind_of_ok hwritten]
    -- the message of a success is kept beside the table
    split_ifs
    · rfl
    · rfl

end

/-- An update of the profile leaves the records of the other users alone exactly if it fails, or the
form has the id of the session's user, or the record with the id of the form, if there is one, has
all values of the form already. -/
theorem others_updatebasic_iff (r : Request) (s : State) :
    others s.currentUser (final (updatebasic r) s).userInfo = others s.currentUser s.userInfo ↔
      r.fails = true ∨ r.userInfo.id = some s.currentUser ∨
        ∀ row ∈ s.userInfo.rows, r.userInfo.id = some row.id → Holds r row := by
  rw [userInfo_updatebasic]
  by_cases hfails : r.fails = true
  · rw [if_pos hfails]
    exact iff_of_true rfl (.inl hfails)
  · have hframe : others s.currentUser (updated r s) = others s.currentUser s.userInfo ↔
        ∀ row ∈ s.userInfo.rows, row.id ≠ s.currentUser → r.userInfo.id = some row.id →
          Holds r row := by
      have hupdate : others s.currentUser (updated r s) = others s.currentUser s.userInfo ↔
          ∀ row ∈ s.userInfo.rows, decide (row.id ≠ s.currentUser) = true →
            decide (r.userInfo.id = some row.id) = true → written r row = row :=
        KeyedTable.select_update_eq_iff fun id => decide (id ≠ s.currentUser)
      rw [hupdate]
      simp only [decide_eq_true_eq, written_eq_self]
    rw [if_neg hfails, hframe]
    constructor
    · intro h
      right
      by_cases hown : r.userInfo.id = some s.currentUser
      · exact .inl hown
      · right
        intro row hrow hid
        apply h row hrow _ hid
        intro hsame
        exact hown (hsame ▸ hid)
    · intro h row hrow hother hid
      rcases h with hfailed | hown | hholds
      · exact absurd hfailed hfails
      · have hsame := Option.some.inj (hid.symm.trans hown)
        exact absurd hsame hother
      · exact hholds row hrow hid

/-! ### The record of another user -/

def testState : State where
  currentUser := "mallory"
  userInfo :=
    ⟨[⟨"alice", none, { workEmail := some "alice@corp" }, none⟩, ⟨"mallory", none, {}, none⟩],
      by decide⟩

/-- A form with the id of another user. -/
def testRequest : Request where
  userInfo := { id := some "alice", profile := { workEmail := some "mallory@evil" } }
  now := "2020-11-01 10:00:00"

theorem alice_overwritten :
    others testState.currentUser (final (updatebasic testRequest) testState).userInfo =
      [⟨"alice", none, { workEmail := some "mallory@evil" }, some "2020-11-01 10:00:00"⟩] ∧
    others testState.currentUser (final (updatebasic testRequest) testState).userInfo ≠
      others testState.currentUser testState.userInfo := by
  decide +kernel

end MaxKey.ProfileUpdates
