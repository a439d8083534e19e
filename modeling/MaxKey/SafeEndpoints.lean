import MaxKey.PasswordChanges

namespace MaxKey.SafeEndpoints
open WebContext JavaException Effects PasswordChanges

inductive MessageType
  | success
  | error
  deriving DecidableEq

inductive Response
  | message (code : String) (messageType : MessageType)
  | redirect (url : String)
  | view (name : String)
  deriving DecidableEq

/-- The parameters of a request, the time, and whether the update statement fails. -/
structure Request where
  oldPassword : Option String := none
  newPassword : Option String := none
  confirmPassword : Option String := none
  fails : Bool := false
  now : String

/-- A parameter that Spring does not go without. -/
def required (parameter : Option String) : Web String :=
  orThrow (runtime "org.springframework.web.bind.MissingServletRequestParameterException") parameter

def changePasswod (c : Config) (request : Request) : Web Response := do
  let oldPassword ← required request.oldPassword
  let newPassword ← required request.newPassword
  let confirmPassword ← required request.confirmPassword
  if ← SafeController.changeUserPassword c request.fails request.now (some oldPassword) newPassword
      confirmPassword then
    return .message "message.action.update.success" .success
  else return .message "message.action.update.error" .error

/-- The pages that a login leads to: the old password is optional, and an error is not shown. -/
def changeFromPage (page : String) (c : Config) (request : Request) : Web Response := do
  let newPassword ← required request.newPassword
  let confirmPassword ← required request.confirmPassword
  if ← SafeController.changeUserPassword c request.fails request.now request.oldPassword newPassword
      confirmPassword then
    return .redirect "/index"
  else return .view page

def changeExpiredPassword : Config → Request → Web Response := changeFromPage "passwordExpired"

def changeInitPassword : Config → Request → Web Response := changeFromPage "passwordInitial"

inductive Endpoint
  | changePasswod
  | changeExpiredPassword
  | changeInitPassword
  deriving DecidableEq

def Endpoint.handle (c : Config) (request : Request) : Endpoint → Web Response
  | .changePasswod => SafeEndpoints.changePasswod c request
  | .changeExpiredPassword => SafeEndpoints.changeExpiredPassword c request
  | .changeInitPassword => SafeEndpoints.changeInitPassword c request

/-- The user is told that the password was changed, or sent on. -/
def reportsSuccess : Except JavaException Response → Bool
  | .ok response => response = .message "message.action.update.success" .success ∨
      response = .redirect "/index"
  | .error _ => false

section

variable (c : Config) (request : Request) (e : Endpoint) (w : World)

/-- The old password of the request is the one of the record. -/
def OldMatches (u : UserInfo) : Prop :=
  ∃ old, request.oldPassword = some old ∧
    c.realm.passwordMatches (Realm.rawPassword u.username old) u.password = true

/-- No record's password changes without its old password and a confirmation, success is reported
exactly if the store has changed, and the session's user has the password of its record. -/
structure Sound : Prop where
  guarded : ∀ u ∈ w.database.userInfo.rows,
    ∀ u' ∈ (final (e.handle c request) w).database.userInfo.rows, u'.id = u.id →
      u'.password ≠ u.password →
        OldMatches c request u ∧ request.newPassword = request.confirmPassword
  reported : reportsSuccess (outcome (e.handle c request) w) = true ↔
    (final (e.handle c request) w).database.userInfo ≠ w.database.userInfo
  agrees : ∀ v, (final (e.handle c request) w).session.currentUser = some v →
    ∀ u' ∈ (final (e.handle c request) w).database.userInfo.rows, u'.id = v.id →
      u'.password = v.password

/-- The request passes the checks, with this password to be set: the old password is compared with
the one in the session, and need not be there for the pages. -/
def Accepted (v : UserInfo) (new : String) : Prop :=
  request.newPassword = some new ∧ request.confirmPassword = some new ∧
    request.oldPassword.elim (e ≠ .changePasswod) fun old =>
      c.realm.passwordMatches (Realm.rawPassword v.username old) v.password = true

/-- The session's user with the new password encoded. -/
def encoded (v : UserInfo) (new : String) : UserInfo :=
  UserInfoService.passwordEncoder c.service request.now { v with password := new }

/-- What the statement makes of the record. -/
def written (v : UserInfo) (new : String) (u : UserInfo) : UserInfo :=
  { u with
    password := (encoded c request v new).password
    decipherable := (encoded c request v new).decipherable
    passwordSetType := 0
    passwordLastSetTime := some request.now }

theorem written_id (v : UserInfo) (new : String) (u : UserInfo) :
    (written c request v new u).id = u.id := rfl

/-- The state after a request that passes the checks. -/
def changed (v : UserInfo) (new : String) : World :=
  { w with
    session := { w.session with currentUser := some (encoded c request v new) }
    database :=
      if request.fails then w.database
      else
        { w.database with
          userInfo := w.database.userInfo.update (·.id = v.id) (written c request v new)
            (written_id c request v new) } }

variable {c} {request} {e} {w}

variable (c) (request) in
theorem changeUserPassword_apply {v : UserInfo} (hv : w.session.currentUser = some v)
    (old : Option String) (new confirm : String) :
    SafeController.changeUserPassword c request.fails request.now old new confirm w =
      if new = confirm ∧ old.all (fun old => c.realm.passwordMatches
          (Realm.rawPassword v.username old) v.password) then .ok true (changed c request w v new)
      else .ok false w := by
  have huser : getUserInfo w = .ok w.session.currentUser w := rfl
  have hcurrent : Realm.nonNull w.session.currentUser w = .ok v w := by
    rw [hv]
    rfl
  unfold SafeController.changeUserPassword
  rw [bind_of_ok huser, bind_of_ok hcurrent]
  by_cases hconfirm : new = confirm
  · rw [if_pos hconfirm]
    by_cases hold : old.all (fun old => c.realm.passwordMatches
        (Realm.rawPassword v.username old) v.password) = true
    · rw [if_pos hold, if_pos ⟨hconfirm, hold⟩]
      unfold changed
      cases hfails : request.fails with
      | true => rfl
      | false => rfl
    · rw [if_neg hold, if_neg (fun h => hold h.2)]
      rfl
  · rw [if_neg hconfirm, if_neg (fun h => hconfirm h.1)]
    rfl

theorem changeUserPassword_of_null (hv : w.session.currentUser = none) (old : Option String)
    (new confirm : String) :
    SafeController.changeUserPassword c request.fails request.now old new confirm w =
      .error nullPointer w := by
  have huser : getUserInfo w = .ok w.session.currentUser w := rfl
  have hcurrent : Realm.nonNull w.session.currentUser w = .error nullPointer w := by
    rw [hv]
    rfl
  unfold SafeController.changeUserPassword
  rw [bind_of_ok huser, bind_of_error hcurrent]

theorem required_some {parameter : Option String} {value : String} (h : parameter = some value) :
    required parameter w = .ok value w := by
  rw [h]
  rfl

theorem required_none {parameter : Option String} (h : parameter = none) : required parameter w =
    .error (runtime "org.springframework.web.bind.MissingServletRequestParameterException") w := by
  rw [h]
  rfl

/-- An accepted request is reported as a success, whatever has become of the update. -/
theorem handle_of_accepted {v : UserInfo} {new : String} (hv : w.session.currentUser = some v)
    (h : Accepted c request e v new) :
    ∃ response, e.handle c request w = .ok response (changed c request w v new) ∧
      reportsSuccess (.ok response) = true := by
  obtain ⟨hnew, hconfirm, hold⟩ := h
  have hall : request.oldPassword.all (fun old => c.realm.passwordMatches
      (Realm.rawPassword v.username old) v.password) = true := by
    cases hrequest : request.oldPassword with
    | none => rfl
    | some old =>
      rw [hrequest] at hold
      exact hold
  have hchange : SafeController.changeUserPassword c request.fails request.now request.oldPassword new
      new w = .ok true (changed c request w v new) := by
    rw [changeUserPassword_apply c request hv, if_pos ⟨rfl, hall⟩]
  have hpage : ∀ page, changeFromPage page c request w =
      .ok (.redirect "/index") (changed c request w v new) := by
    intro page
    unfold changeFromPage
    rw [bind_of_ok (required_some hnew), bind_of_ok (required_some hconfirm), bind_of_ok hchange]
    rfl
  cases e with
  | changePasswod =>
    refine ⟨.message "message.action.update.success" .success, ?_, by decide⟩
    cases hrequest : request.oldPassword with
    | none =>
      rw [hrequest] at hold
      exact absurd rfl hold
    | some old =>
      rw [hrequest] at hchange
      show SafeEndpoints.changePasswod c request w = _
      unfold SafeEndpoints.changePasswod
      rw [bind_of_ok (required_some hrequest), bind_of_ok (required_some hnew),
        bind_of_ok (required_some hconfirm), bind_of_ok hchange]
      rfl
  | changeExpiredPassword => exact ⟨.redirect "/index", hpage "passwordExpired", by decide⟩
  | changeInitPassword => exact ⟨.redirect "/index", hpage "passwordInitial", by decide⟩

/-- The computation leaves the state as it is and reports no success. -/
def Rejects (x : Web Response) (w : World) : Prop :=
  (∃ response, x w = .ok response w ∧ reportsSuccess (.ok response) = false) ∨
    ∃ exception, x w = .error exception w

/-- A parameter that is there is used, and one that is not ends the request. -/
theorem rejects_required {parameter : Option String} {f : String → Web Response}
    (h : ∀ value, parameter = some value → Rejects (f value) w) :
    Rejects (required parameter >>= f) w := by
  cases hparameter : parameter with
  | none => exact .inr ⟨_, bind_of_error (required_none rfl)⟩
  | some value =>
    have hvalue := h value hparameter
    unfold Rejects at hvalue ⊢
    rw [bind_of_ok (required_some rfl)]
    exact hvalue

/-- The checks fail, or nobody is logged in. -/
theorem rejects_change {old : Option String} {new confirm : String} {f : Bool → Web Response}
    (h : ∀ v, w.session.currentUser = some v → ¬(new = confirm ∧ old.all (fun old =>
      c.realm.passwordMatches (Realm.rawPassword v.username old) v.password)))
    (hf : Rejects (f false) w) :
    Rejects (SafeController.changeUserPassword c request.fails request.now old new confirm >>= f) w := by
  cases hv : w.session.currentUser with
  | none => exact .inr ⟨_, bind_of_error (changeUserPassword_of_null hv old new confirm)⟩
  | some v =>
    have hrun := changeUserPassword_apply c request hv old new confirm
    rw [if_neg (h v hv)] at hrun
    unfold Rejects at hf ⊢
    rw [bind_of_ok hrun]
    exact hf

theorem accepted_of_checks {v : UserInfo} {new confirm : String}
    (hnew : request.newPassword = some new) (hconfirm : request.confirmPassword = some confirm)
    (hold : request.oldPassword = none → e ≠ .changePasswod)
    (h : new = confirm ∧ request.oldPassword.all (fun old =>
      c.realm.passwordMatches (Realm.rawPassword v.username old) v.password)) :
    Accepted c request e v new := by
  obtain ⟨rfl, hall⟩ := h
  refine ⟨hnew, hconfirm, ?_⟩
  cases hrequest : request.oldPassword with
  | none => exact hold hrequest
  | some old =>
    rw [hrequest] at hall
    exact hall

theorem rejects_of_not_accepted
    (h : ∀ v, w.session.currentUser = some v → ∀ new, ¬Accepted c request e v new) :
    Rejects (e.handle c request) w := by
  have hpage : ∀ page, e ≠ .changePasswod → Rejects (changeFromPage page c request) w := by
    intro page he
    apply rejects_required
    intro new hnew
    apply rejects_required
    intro confirm hconfirm
    apply rejects_change
    · intro v hv hchecks
      exact h v hv new (accepted_of_checks hnew hconfirm (fun _ => he) hchecks)
    · exact .inl ⟨.view page, rfl, by simp [reportsSuccess]⟩
  cases e with
  | changePasswod =>
    apply rejects_required
    intro old hold
    apply rejects_required
    intro new hnew
    apply rejects_required
    intro confirm hconfirm
    apply rejects_change
    · intro v hv hchecks
      have hgiven : request.oldPassword = none → Endpoint.changePasswod ≠ .changePasswod := by
        intro hnone
        rw [hold] at hnone
        cases hnone
      rw [← hold] at hchecks
      exact h v hv new (accepted_of_checks hnew hconfirm hgiven hchecks)
    · exact .inl ⟨.message "message.action.update.error" .error, rfl, by decide⟩
  | changeExpiredPassword => exact hpage "passwordExpired" nofun
  | changeInitPassword => exact hpage "passwordInitial" nofun

/-- A request that is not accepted changes nothing and reports no success. -/
theorem handle_of_not_accepted
    (h : ∀ v, w.session.currentUser = some v → ∀ new, ¬Accepted c request e v new) :
    final (e.handle c request) w = w ∧ reportsSuccess (outcome (e.handle c request) w) = false := by
  unfold outcome
  rcases rejects_of_not_accepted h with ⟨response, hrun, hreport⟩ | ⟨exception, hrun⟩
  · rw [final_of_ok hrun, hrun]
    exact ⟨rfl, hreport⟩
  · rw [final_of_error hrun, hrun]
    exact ⟨rfl, rfl⟩

variable (c) (request) (e) (w) in
/-- An accepted request finds a record that the statement changes, with a password that it knows
where it sets another. Where the request is not accepted, session and record agree before. -/
structure Meets : Prop where
  accepted : ∀ v new, w.session.currentUser = some v → Accepted c request e v new →
    request.fails = false ∧ ∃ u ∈ w.database.userInfo.rows, u.id = v.id ∧
      written c request v new u ≠ u ∧
      ((encoded c request v new).password ≠ u.password → OldMatches c request u)
  rejected : ∀ v, w.session.currentUser = some v → (∀ new, ¬Accepted c request e v new) →
    ∀ u ∈ w.database.userInfo.rows, u.id = v.id → u.password = v.password

/-- The table after an accepted request. -/
theorem userInfo_changed (v : UserInfo) (new : String) (hfails : request.fails = false) :
    (changed c request w v new).database.userInfo =
      w.database.userInfo.update (·.id = v.id) (written c request v new)
        (written_id c request v new) := by
  unfold changed
  rw [hfails]
  rfl

theorem changed_ne_iff {v : UserInfo} {new : String} :
    (changed c request w v new).database.userInfo ≠ w.database.userInfo ↔
      request.fails = false ∧ ∃ u ∈ w.database.userInfo.rows, u.id = v.id ∧
        written c request v new u ≠ u := by
  cases hfails : request.fails with
  | true =>
    have hsame : (changed c request w v new).database.userInfo = w.database.userInfo := by
      unfold changed
      rw [hfails]
      rfl
    apply iff_of_false (not_not.mpr hsame)
    intro h
    cases h.1
  | false =>
    rw [userInfo_changed v new hfails, Ne, KeyedTable.update_eq_self]
    push Not
    simp only [decide_eq_true_eq, true_and]

/-- The record of the session's user, as the statement leaves it. -/
theorem mem_changed {v u' : UserInfo} {new : String} (hfails : request.fails = false)
    (hu' : u' ∈ (changed c request w v new).database.userInfo.rows) :
    ∃ u ∈ w.database.userInfo.rows, u.id = u'.id ∧
      u' = if u.id = v.id then written c request v new u else u := by
  rw [userInfo_changed v new hfails, KeyedTable.mem_update] at hu'
  obtain ⟨u, hu, rfl⟩ := hu'
  refine ⟨u, hu, ?_, ?_⟩
  · split_ifs
    · rfl
    · rfl
  · simp only [decide_eq_true_eq]

theorem sound_of_accepted {v : UserInfo} {new : String} (hv : w.session.currentUser = some v)
    (h : Accepted c request e v new) : Sound c request e w ↔
      request.fails = false ∧ ∃ u ∈ w.database.userInfo.rows, u.id = v.id ∧
        written c request v new u ≠ u ∧
        ((encoded c request v new).password ≠ u.password → OldMatches c request u) := by
  obtain ⟨response, hrun, hreport⟩ := handle_of_accepted hv h
  have hfinal : final (e.handle c request) w = changed c request w v new := final_of_ok hrun
  have houtcome : outcome (e.handle c request) w = .ok response := by
    unfold outcome
    rw [hrun]
  constructor
  · intro hsound
    have hne := hsound.reported.mp (by rw [houtcome, hreport])
    rw [hfinal, changed_ne_iff] at hne
    obtain ⟨hfails, u, hu, hid, hwritten⟩ := hne
    refine ⟨hfails, u, hu, hid, hwritten, ?_⟩
    intro hpassword
    have hmem : written c request v new u ∈ (final (e.handle c request) w).database.userInfo.rows := by
      rw [hfinal, userInfo_changed v new hfails, KeyedTable.mem_update]
      exact ⟨u, hu, if_pos (by simpa using hid)⟩
    exact (hsound.guarded u hu _ hmem rfl hpassword).1
  · intro ⟨hfails, u, hu, hid, hwritten, hold⟩
    have hrow : ∀ r ∈ w.database.userInfo.rows, r.id = v.id → r = u := fun r hr hrid =>
      KeyedTable.eq_of_key_eq _ hr hu (hrid.trans hid.symm)
    constructor
    · intro r hr r' hr' hsame hpassword
      rw [hfinal] at hr'
      obtain ⟨r₀, hr₀, hid₀, rfl⟩ := mem_changed hfails hr'
      have hr₀r : r₀ = r := KeyedTable.eq_of_key_eq _ hr₀ hr (hid₀.trans hsame)
      rw [hr₀r] at hpassword
      by_cases hrid : r.id = v.id
      · rw [if_pos hrid, hrow r hr hrid] at hpassword
        rw [hrow r hr hrid]
        exact ⟨hold hpassword, h.1.trans h.2.1.symm⟩
      · rw [if_neg hrid] at hpassword
        exact absurd rfl hpassword
    · rw [houtcome, hfinal, hreport, changed_ne_iff]
      exact iff_of_true rfl ⟨hfails, u, hu, hid, hwritten⟩
    · intro v' hv' r' hr' hid'
      rw [hfinal] at hv' hr'
      cases hv'
      obtain ⟨r₀, hr₀, hid₀, rfl⟩ := mem_changed hfails hr'
      have hrid : r₀.id = v.id := hid₀.trans hid'
      rw [if_pos hrid]
      rfl

theorem sound_of_not_accepted
    (h : ∀ v, w.session.currentUser = some v → ∀ new, ¬Accepted c request e v new) :
    Sound c request e w ↔ ∀ v, w.session.currentUser = some v →
      ∀ u ∈ w.database.userInfo.rows, u.id = v.id → u.password = v.password := by
  obtain ⟨hfinal, hreport⟩ := handle_of_not_accepted h
  constructor
  · intro hsound v hv u hu hid
    apply hsound.agrees v
    · rw [hfinal]
      exact hv
    · rw [hfinal]
      exact hu
    · exact hid
  · intro hagrees
    constructor
    · intro u hu u' hu' hid hpassword
      rw [hfinal] at hu'
      rw [KeyedTable.eq_of_key_eq _ hu' hu hid] at hpassword
      exact absurd rfl hpassword
    · rw [hreport, hfinal]
      exact iff_of_false Bool.false_ne_true (fun hne => hne rfl)
    · intro v hv
      rw [hfinal] at hv ⊢
      exact hagrees v hv

/-- A request is sound exactly if it meets the condition. -/
theorem sound_iff (c : Config) (request : Request) (e : Endpoint) (w : World) :
    Sound c request e w ↔ Meets c request e w := by
  by_cases hany : ∃ v, w.session.currentUser = some v ∧ ∃ new, Accepted c request e v new
  · obtain ⟨v, hv, new, haccepted⟩ := hany
    rw [sound_of_accepted hv haccepted]
    constructor
    · intro hmeets
      constructor
      · intro v' new' hv' haccepted'
        have hsame : v' = v := Option.some.inj (hv'.symm.trans hv)
        have hnew : new' = new := Option.some.inj (haccepted'.1.symm.trans haccepted.1)
        rw [hsame, hnew]
        exact hmeets
      · intro v' hv' hnone
        have hsame : v' = v := Option.some.inj (hv'.symm.trans hv)
        rw [hsame] at hnone
        exact absurd haccepted (hnone new)
    · intro hmeets
      exact hmeets.accepted v new hv haccepted
  · have hnone : ∀ v, w.session.currentUser = some v → ∀ new, ¬Accepted c request e v new :=
      fun v hv new haccepted => hany ⟨v, hv, new, haccepted⟩
    rw [sound_of_not_accepted hnone]
    constructor
    · intro hagrees
      exact ⟨fun v new hv haccepted => absurd haccepted (hnone v hv new),
        fun v hv _ => hagrees v hv⟩
    · intro hmeets v hv
      exact hmeets.rejected v hv (hnone v hv)

end

/-- The session of the one user. -/
def desk : World := { reception.world with session := { id := "s", currentUser := some erin } }

def failing : Request :=
  { oldPassword := some "old", newPassword := some "new", confirmPassword := some "new"
    fails := true, now := "now" }

def withoutOld : Request :=
  { newPassword := some "new", confirmPassword := some "new", now := "now" }

/-- A failed update is reported as a success, and a page sets a password without the old one. -/
theorem failing_reported : ¬Sound sample failing .changePasswod desk ∧
    ¬Sound sample withoutOld .changeInitPassword desk := by
  constructor
  · intro h
    have hreport : reportsSuccess (outcome (Endpoint.changePasswod.handle sample failing) desk) = true :=
      rfl
    exact h.reported.mp hreport rfl
  · intro h
    have hrow : encoded sample withoutOld erin "new" ∈
        (final (Endpoint.changeInitPassword.handle sample withoutOld) desk).database.userInfo.rows :=
      List.mem_singleton_self _
    have hpassword : (encoded sample withoutOld erin "new").password ≠ erin.password := by decide
    obtain ⟨⟨old, hold, -⟩, -⟩ := h.guarded erin (List.mem_singleton_self _) _ hrow rfl hpassword
    cases hold

end MaxKey.SafeEndpoints
