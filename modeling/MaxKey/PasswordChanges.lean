import MaxKey.ForgotPassword
import MaxKey.UserInfoService

namespace MaxKey.PasswordChanges
open WebContext JavaException Effects

/-- The controllers and the realm share one password encoder and one reciprocal cipher. -/
structure Config where
  realm : Realm.Config
  recovery : ForgotPassword.Config

def Config.service (c : Config) : UserInfoService.Config where
  encode := c.recovery.encode
  reciprocalEncode := c.recovery.reciprocalEncode

/-- A row of REGISTRATION; the work e-mail becomes the user name. -/
structure Registration where
  id : String
  workEmail : String
  deriving DecidableEq

structure Portal where
  world : World
  optTokenStore : OptToken.OptTokenStore := fun _ => none
  registrations : KeyedTable Registration.id := KeyedTable.empty

abbrev Action := EStateM JavaException Portal

def web {α : Type} (x : Web α) : Action α :=
  focus Portal.world (fun world s => { s with world }) x

theorem web_eq_ok {α : Type} {x : Web α} {s s' : Portal} {a : α} :
    web x s = .ok a s' ↔ ∃ w, x s.world = .ok a w ∧ { s with world := w } = s' := focus_eq_ok

/-- The part of the portal that the recovery controller works on. -/
def recovery {α : Type} (x : ForgotPassword.Recovery α) : Action α :=
  focus
    (fun s => { userInfo := s.world.database.userInfo, optTokenStore := s.optTokenStore })
    (fun r s =>
      { s with
        world := { s.world with database := { s.world.database with userInfo := r.userInfo } }
        optTokenStore := r.optTokenStore }) x

/-- The object of the session is the one that gets encoded, whatever becomes of the update. -/
def SafeController.changeUserPassword (c : Config) (fails : Bool) (now : String)
    (oldPassword : Option String) (newPassword confirmPassword : String) : Web Bool := do
  let userInfo ← Realm.nonNull (← getUserInfo)
  if newPassword = confirmPassword then
    if oldPassword.all fun old => c.realm.passwordMatches
        (Realm.rawPassword userInfo.username old) userInfo.password then
      let userInfo := { userInfo with password := newPassword }
      let _ ← UserInfoService.changePassword c.service fails now userInfo
      setUserInfo (some (UserInfoService.passwordEncoder c.service now userInfo))
      return true
    else return false
  else return false

/-- The record that the registration is turned into, with its password already encoded. -/
def registered (c : Config) (now generatedId password : String) (r : Registration) : UserInfo :=
  let raw := Realm.rawPassword r.workEmail password
  { id := generatedId, username := r.workEmail, email := some r.workEmail, isLocked := 0
    decipherable := some (c.recovery.reciprocalEncode raw), password := c.recovery.encode raw
    passwordLastSetTime := some now }

/-- What the page shows as activate: 1 for done, 2 for an unknown id, 0 for unequal passwords. -/
def RegistrationController.setPassWord (c : Config) (fails : Bool) (now generatedId id password
    confirmpassword : String) : Action Int := do
  if password = confirmpassword then
    match (← get).registrations.select (·.id = id) with
    | registration :: _ =>
      let _ ← web (UserInfoService.insert c.service fails now
        (registered c now generatedId password registration))
      modify fun s => { s with registrations := s.registrations.delete (·.id = id) }
      return 1
    | [] => return 2
  else return 0

/-- The operations that set a password. -/
inductive Operation
  | insert (fails : Bool) (now : String) (userInfo : UserInfo)
  | changeUserPassword (session : HttpSession) (fails : Bool) (now : String)
      (oldPassword : Option String) (newPassword confirmPassword : String)
  | resetPassWord (r : ForgotPassword.SetPassword)
  | activate (fails : Bool) (now generatedId id password confirmpassword : String)

/-- Runs an operation and says whether it reports success. -/
def perform (c : Config) : Operation → Action Bool
  | .insert fails now userInfo => web (UserInfoService.insert c.service fails now userInfo)
  | .changeUserPassword session fails now oldPassword newPassword confirmPassword => do
    modify fun s => { s with world := { s.world with session } }
    web (SafeController.changeUserPassword c fails now oldPassword newPassword confirmPassword)
  | .resetPassWord r => do
    return (← recovery (ForgotPassword.setPassWord c.recovery r)) = .success
  | .activate fails now generatedId id password confirmpassword => do
    return (← RegistrationController.setPassWord c fails now generatedId id password
      confirmpassword) = 1

/-- The account whose password an operation sets, and the password. -/
def Operation.account : Operation → Option String
  | .insert _ _ userInfo => some userInfo.id
  | .changeUserPassword session .. => session.currentUser.map UserInfo.id
  | .resetPassWord r => some r.userId
  | .activate _ _ generatedId .. => some generatedId

def Operation.password : Operation → String
  | .insert _ _ userInfo => userInfo.password
  | .changeUserPassword _ _ _ _ newPassword _ => newPassword
  | .resetPassWord r => r.password
  | .activate _ _ _ _ password _ => password

/-- The realm lets this password pass for the record. -/
def accepts (c : Config) (u : UserInfo) (password : String) : Prop :=
  ∀ request w, Realm.passwordMatches c.realm request u password w = .ok () w

/-- The account has a record, and it holds this password and no other. -/
def Holds (c : Config) (t : KeyedTable UserInfo.id) (id : Option String) (password : String) :
    Prop :=
  ∃ u ∈ t.rows, some u.id = id ∧ (∀ x, accepts c u x ↔ x = password) ∧
    ∃ d, u.decipherable = some d ∧
      c.realm.decoder d = .ok (Realm.rawPassword u.username password)

theorem accepts_iff (c : Config) (u : UserInfo) (password : String) :
    accepts c u password ↔
      c.realm.passwordMatches (Realm.rawPassword u.username password) u.password := by
  constructor
  · intro h
    have hrun := h { userAgent := none, newSessionId := "", loginSessionId := "" }
      { database := ⟨KeyedTable.empty, [], [], []⟩, session := { id := "" } }
    unfold Realm.passwordMatches at hrun
    exact not_not.mp (onlyIf_throw_eq_ok.mp hrun).1
  · intro h request w
    unfold Realm.passwordMatches
    exact onlyIf_throw_eq_ok.mpr ⟨not_not.mpr h, rfl⟩

theorem rawPassword_inj (username x y : String) :
    Realm.rawPassword username x = Realm.rawPassword username y ↔ x = y := by
  unfold Realm.rawPassword
  rw [String.append_left_inj, String.append_left_inj]

theorem rawPassword_username_inj (u v password : String) :
    Realm.rawPassword u password = Realm.rawPassword v password ↔ u = v := by
  unfold Realm.rawPassword
  rw [String.append_right_inj]

def Portal.userInfo (s : Portal) : KeyedTable UserInfo.id := s.world.database.userInfo

/-- What an operation that reports success needs of the state before it: that the update reaches
the row of the account and the name in the encoding is the one of that row, and that nothing is
encoded twice. Where nothing is written, the record held the password before. -/
def Encoded (c : Config) (s : Portal) : Operation → Prop
  | .insert .. => True
  | .changeUserPassword session fails _ _ newPassword _ =>
    if fails then Holds c s.userInfo (session.currentUser.map UserInfo.id) newPassword
    else ∃ u ∈ s.userInfo.rows, ∃ v, session.currentUser = some v ∧ u.id = v.id ∧
      u.username = v.username
  | .resetPassWord r =>
    if r.fails then Holds c s.userInfo (some r.userId) r.password
    else ∃ u ∈ s.userInfo.rows, u.id = r.userId ∧ u.username = r.username
  | .activate fails _ generatedId id password _ =>
    if fails ∨ ∃ u ∈ s.userInfo.rows, u.id = generatedId then
      Holds c s.userInfo (some generatedId) password
    else ∃ r ∈ s.registrations.rows, r.id = id ∧
      c.recovery.encode (Realm.rawPassword r.workEmail password) = password

/-- What is assumed of the library: an encoding matches the text it was made of and no other, and
the reciprocal cipher is undone by its decoder. -/
structure Encoders (c : Config) : Prop where
  matches_encode : ∀ x y, c.realm.passwordMatches x (c.recovery.encode y) ↔ x = y
  decoder_encode : ∀ y, c.realm.decoder (c.recovery.reciprocalEncode y) = .ok y

/-- A record that holds the encoding of a text holds the password that the text is made of. -/
theorem holds_encoded {c : Config} (hc : Encoders c) {t : KeyedTable UserInfo.id}
    {u : UserInfo} {y password : String} (hu : u ∈ t.rows)
    (hpassword : u.password = c.recovery.encode y)
    (hdecipherable : u.decipherable = some (c.recovery.reciprocalEncode y)) :
    Holds c t (some u.id) password ↔ y = Realm.rawPassword u.username password := by
  constructor
  · rintro ⟨v, hv, hid, haccepts, -⟩
    have hvu : v = u := KeyedTable.eq_of_key_eq t hv hu (Option.some.inj hid)
    have hself := (haccepts password).mpr rfl
    rw [accepts_iff, hvu, hpassword, hc.matches_encode] at hself
    exact hself.symm
  · intro hy
    refine ⟨u, hu, rfl, ?_, _, hdecipherable, ?_⟩
    · intro x
      rw [accepts_iff, hpassword, hc.matches_encode, hy, rawPassword_inj]
    · rw [hc.decoder_encode, hy]

/-- An update that writes the encoding of a password into the row of an account. -/
theorem holds_update {c : Config} (hc : Encoders c) {t : KeyedTable UserInfo.id}
    {id username password : String} {f : UserInfo → UserInfo} (keep : ∀ u, (f u).id = u.id)
    (name : ∀ u, (f u).username = u.username)
    (hpassword : ∀ u, (f u).password = c.recovery.encode (Realm.rawPassword username password))
    (hdecipherable : ∀ u, (f u).decipherable =
      some (c.recovery.reciprocalEncode (Realm.rawPassword username password))) :
    Holds c (t.update (·.id = id) f keep) (some id) password ↔
      ∃ u ∈ t.rows, u.id = id ∧ u.username = username := by
  have hholds : ∀ u ∈ t.rows, u.id = id →
      (Holds c (t.update (·.id = id) f keep) (some id) password ↔ u.username = username) := by
    intro u hu hid
    have hrow : f u ∈ (t.update (·.id = id) f keep).rows :=
      KeyedTable.mem_update.mpr ⟨u, hu, by simp [hid]⟩
    have h : Holds c _ _ password ↔ _ :=
      holds_encoded hc hrow (hpassword u) (hdecipherable u)
    rw [keep, hid, name, rawPassword_username_inj] at h
    exact h.trans eq_comm
  constructor
  · intro h
    have hfound := h
    obtain ⟨v, hv, hid, -⟩ := hfound
    obtain ⟨u, hu, huv⟩ := KeyedTable.mem_update.mp hv
    have huid : u.id = id := by
      rw [← Option.some.inj hid, ← huv]
      split_ifs
      · exact (keep u).symm
      · rfl
    exact ⟨u, hu, huid, (hholds u hu huid).mp h⟩
  · rintro ⟨u, hu, hid, hname⟩
    exact (hholds u hu hid).mpr hname

theorem insert_apply (c : UserInfoService.Config) (fails : Bool) (now : String)
    (userInfo : UserInfo) (w : World) :
    UserInfoService.insert c fails now userInfo w =
      match w.database.userInfo.insert (UserInfoService.passwordEncoder c now userInfo) with
      | none => .ok false w
      | some rows =>
        if fails then .ok false w
        else .ok true { w with database := { w.database with userInfo := rows } } := by
  unfold UserInfoService.insert
  rw [bind_of_ok (get_apply w)]
  cases w.database.userInfo.insert (UserInfoService.passwordEncoder c now userInfo) with
  | none => rfl
  | some rows =>
    simp only
    split_ifs <;> rfl

/-- The row that the service stores holds the password that came with the object. -/
theorem holds_insert {c : Config} (hc : Encoders c) {t rows : KeyedTable UserInfo.id}
    {userInfo : UserInfo} {now password : String}
    (h : t.insert (UserInfoService.passwordEncoder c.service now userInfo) = some rows) :
    Holds c rows (some userInfo.id) password ↔
      Realm.rawPassword userInfo.username userInfo.password =
        Realm.rawPassword userInfo.username password := by
  have hmem := KeyedTable.mem_insert_self h
  exact holds_encoded (u := UserInfoService.passwordEncoder c.service now userInfo) hc hmem rfl rfl

/-- The table after an update that fails or goes through. -/
theorem final_changePassword (c : UserInfoService.Config) (fails : Bool) (now : String)
    (userInfo : UserInfo) (w : World) :
    (final (UserInfoService.changePassword c fails now userInfo) w).database.userInfo =
      if fails then w.database.userInfo
      else w.database.userInfo.update (·.id = userInfo.id) (fun u =>
        { u with
          password := (UserInfoService.passwordEncoder c now userInfo).password
          decipherable := (UserInfoService.passwordEncoder c now userInfo).decipherable
          passwordSetType := 0
          passwordLastSetTime := some now }) fun _ => rfl := by
  unfold UserInfoService.changePassword
  simp only
  split_ifs <;> rfl

theorem holds_changePassword {c : Config} (hc : Encoders c) (fails : Bool) (now : String)
    (userInfo : UserInfo) (w : World) :
    Holds c (final (UserInfoService.changePassword c.service fails now userInfo) w).database.userInfo
        (some userInfo.id) userInfo.password ↔
      if fails then Holds c w.database.userInfo (some userInfo.id) userInfo.password
      else ∃ u ∈ w.database.userInfo.rows, u.id = userInfo.id ∧ u.username = userInfo.username := by
  rw [final_changePassword]
  split_ifs
  · exact Iff.rfl
  · apply holds_update hc
    · exact fun _ => rfl
    · exact fun _ => rfl
    · exact fun _ => rfl

theorem insert_reports {c : Config} (hc : Encoders c) {fails : Bool} {now : String}
    {userInfo : UserInfo} {s s' : Portal}
    (h : perform c (.insert fails now userInfo) s = .ok true s') :
    Holds c s'.userInfo (some userInfo.id) userInfo.password := by
  obtain ⟨w, hrun, rfl⟩ := web_eq_ok.mp h
  rw [insert_apply] at hrun
  cases hinsert : s.world.database.userInfo.insert
      (UserInfoService.passwordEncoder c.service now userInfo) with
  | none =>
    rw [hinsert] at hrun
    cases hrun
  | some rows =>
    rw [hinsert] at hrun
    simp only at hrun
    split_ifs at hrun <;> cases hrun
    exact (holds_insert hc hinsert).mpr rfl

/-- The session names the user, and the table is the one that the service leaves. -/
theorem changeUserPassword_eq_ok {c : Config} {fails : Bool} {now : String}
    {oldPassword : Option String} {newPassword confirmPassword : String} {w w' : World}
    (h : SafeController.changeUserPassword c fails now oldPassword newPassword confirmPassword w =
      .ok true w') :
    ∃ userInfo, w.session.currentUser = some userInfo ∧
      w'.database.userInfo = (final (UserInfoService.changePassword c.service fails now
        { userInfo with password := newPassword }) w).database.userInfo := by
  unfold SafeController.changeUserPassword at h
  obtain ⟨current, w₁, hcurrent, h⟩ := bind_eq_ok.mp h
  cases hcurrent
  obtain ⟨userInfo, w₂, huser, h⟩ := bind_eq_ok.mp h
  obtain ⟨hsession, rfl⟩ := orThrow_eq_ok.mp huser
  refine ⟨userInfo, hsession, ?_⟩
  split_ifs at h
  · obtain ⟨found, w₂, hchange, h⟩ := bind_eq_ok.mp h
    obtain ⟨_, w₃, hset, hreturn⟩ := bind_eq_ok.mp h
    cases hset
    cases hreturn
    rw [final_of_ok hchange]
  · cases h
  · cases h

theorem changeUserPassword_reports {c : Config} (hc : Encoders c) {session : HttpSession}
    {fails : Bool} {now : String} {oldPassword : Option String}
    {newPassword confirmPassword : String} {s s' : Portal}
    (h : perform c (.changeUserPassword session fails now oldPassword newPassword confirmPassword) s =
      .ok true s') :
    Holds c s'.userInfo (session.currentUser.map UserInfo.id) newPassword ↔
      Encoded c s (.changeUserPassword session fails now oldPassword newPassword
        confirmPassword) := by
  obtain ⟨_, s₁, hsession, hrun⟩ := bind_eq_ok.mp h
  cases hsession
  obtain ⟨w, hweb, rfl⟩ := web_eq_ok.mp hrun
  obtain ⟨userInfo, huser, htable⟩ := changeUserPassword_eq_ok hweb
  have hchange := holds_changePassword hc fails now { userInfo with password := newPassword }
    { s.world with session }
  have huser' : session.currentUser = some userInfo := huser
  rw [← htable] at hchange
  simp only [Encoded, huser', Option.map_some]
  split_ifs at hchange ⊢ with hfails
  · exact hchange
  · refine hchange.trans (exists_congr fun u => and_congr_right fun _ => ?_)
    constructor
    · intro hrow
      exact ⟨userInfo, rfl, hrow⟩
    · rintro ⟨v, hv, hrow⟩
      cases hv
      exact hrow

/-- A successful reset has written the row with the request's userId, unless the statement
failed. -/
theorem setPassWord_eq_ok {c : ForgotPassword.Config} {r : ForgotPassword.SetPassword}
    {s s' : ForgotPassword.State} (h : ForgotPassword.setPassWord c r s = .ok .success s') :
    s' = if r.fails then s
      else s.updatePassword r.userId (ForgotPassword.passwordEncoder c r.username r.password)
        fun _ => rfl := by
  unfold ForgotPassword.setPassWord at h
  split_ifs at h
  · rw [bind_of_ok (get_apply s)] at h
    split_ifs at h
    · obtain ⟨found, s₁, hchange, hreturn⟩ := bind_eq_ok.mp h
      cases hreturn
      unfold ForgotPassword.changePassword at hchange
      split_ifs at hchange ⊢
      · cases hchange
        rfl
      · cases hchange
        rfl
    · cases h
  · cases h

theorem setPassWord_reports {c : Config} (hc : Encoders c) {r : ForgotPassword.SetPassword}
    {s s' : Portal} (h : perform c (.resetPassWord r) s = .ok true s') :
    Holds c s'.userInfo (some r.userId) r.password ↔ Encoded c s (.resetPassWord r) := by
  obtain ⟨result, s₁, hrun, hreturn⟩ := bind_eq_ok.mp h
  obtain ⟨t, hset, rfl⟩ := focus_eq_ok.mp hrun
  have hsuccess : result = .success := by
    injection hreturn with hdecide
    exact of_decide_eq_true hdecide
  subst hsuccess
  cases hreturn
  change Holds c t.userInfo (some r.userId) r.password ↔ _
  rw [setPassWord_eq_ok hset]
  simp only [Encoded]
  split_ifs
  · exact Iff.rfl
  · apply holds_update hc
    · exact fun _ => rfl
    · exact fun _ => rfl
    · exact fun _ => rfl
    · exact fun _ => rfl

/-- A registration that is activated was there, and the insert was tried. -/
theorem activate_eq_ok {c : Config} {fails : Bool}
    {now generatedId id password confirmpassword : String} {s s' : Portal}
    (h : RegistrationController.setPassWord c fails now generatedId id password confirmpassword s =
      .ok 1 s') :
    ∃ r ∈ s.registrations.rows, r.id = id ∧
      s'.userInfo = (final (UserInfoService.insert c.service fails now
        (registered c now generatedId password r)) s.world).database.userInfo := by
  unfold RegistrationController.setPassWord at h
  split_ifs at h
  · rw [bind_of_ok (get_apply s)] at h
    cases hselect : s.registrations.select (·.id = id) with
    | nil =>
      rw [hselect] at h
      cases h
    | cons r rest =>
      rw [hselect] at h
      obtain ⟨_, s₁, hinsert, h⟩ := bind_eq_ok.mp h
      obtain ⟨w, hweb, rfl⟩ := web_eq_ok.mp hinsert
      obtain ⟨_, s₂, hremove, hreturn⟩ := bind_eq_ok.mp h
      cases hremove
      cases hreturn
      have hmem : r ∈ s.registrations.select (·.id = id) := by
        rw [hselect]
        exact List.mem_cons_self
      obtain ⟨hr, hid⟩ := KeyedTable.mem_select.mp hmem
      refine ⟨r, hr, of_decide_eq_true hid, ?_⟩
      rw [final_of_ok hweb]
      rfl
  · cases h

theorem activate_reports {c : Config} (hc : Encoders c) {fails : Bool}
    {now generatedId id password confirmpassword : String} {s s' : Portal}
    (h : perform c (.activate fails now generatedId id password confirmpassword) s = .ok true s') :
    Holds c s'.userInfo (some generatedId) password ↔
      Encoded c s (.activate fails now generatedId id password confirmpassword) := by
  obtain ⟨result, s₁, hrun, hreturn⟩ := bind_eq_ok.mp h
  have hone : result = 1 := by
    injection hreturn with hdecide
    exact of_decide_eq_true hdecide
  subst hone
  cases hreturn
  obtain ⟨r, hr, hid, htable⟩ := activate_eq_ok hrun
  have honly : ∀ r' ∈ s.registrations.rows, r'.id = id → r' = r := by
    intro r' hr' hid'
    exact KeyedTable.eq_of_key_eq s.registrations hr' hr (hid'.trans hid.symm)
  have hrun := insert_apply c.service fails now (registered c now generatedId password r) s.world
  rw [htable]
  simp only [Encoded]
  -- the controller reports success whether or not the insert went through
  cases hinsert : s.world.database.userInfo.insert (UserInfoService.passwordEncoder c.service now
      (registered c now generatedId password r)) with
  | none =>
    rw [hinsert] at hrun
    rw [final_of_ok hrun, if_pos (.inr (KeyedTable.insert_eq_none.mp hinsert))]
    rfl
  | some rows =>
    have hfresh : ¬∃ u ∈ s.userInfo.rows, u.id = generatedId := by
      intro htaken
      have hnone := KeyedTable.insert_eq_none (t := s.world.database.userInfo)
        (r := UserInfoService.passwordEncoder c.service now
          (registered c now generatedId password r)) |>.mpr htaken
      rw [hnone] at hinsert
      cases hinsert
    rw [hinsert] at hrun
    cases fails with
    | true =>
      rw [final_of_ok hrun, if_pos (.inl rfl)]
      rfl
    | false =>
      have hnot : ¬(false = true ∨ ∃ u ∈ s.userInfo.rows, u.id = generatedId) := by
        rintro (h | h)
        · cases h
        · exact hfresh h
      rw [final_of_ok hrun, if_neg hnot]
      -- the insert encodes what the controller has already encoded
      refine (holds_insert hc hinsert).trans ?_
      rw [rawPassword_inj]
      constructor
      · intro hsame
        exact ⟨r, hr, hid, hsame⟩
      · rintro ⟨r', hr', hid', hsame⟩
        rw [honly r' hr' hid'] at hsame
        exact hsame

/-- After each operation that reports success the account holds the password, and the decoder
gives it back with the user name, exactly where the encoding was made once and with the name of
the record. -/
theorem holds_iff_encoded {c : Config} (hc : Encoders c) (op : Operation) {s s' : Portal}
    (h : perform c op s = .ok true s') :
    Holds c s'.userInfo op.account op.password ↔ Encoded c s op := by
  cases op with
  | insert fails now userInfo => exact iff_of_true (insert_reports hc h) trivial
  | changeUserPassword session fails now oldPassword newPassword confirmPassword =>
    exact changeUserPassword_reports hc h
  | resetPassWord r => exact setPassWord_reports hc h
  | activate fails now generatedId id password confirmpassword => exact activate_reports hc h

/-- An encoder that marks what it encodes. -/
def sample : Config where
  realm :=
    { encode := ("#" ++ ·), passwordMatches := fun raw stored => stored = "#" ++ raw
      decoder := .ok, parseDateTime := fun _ => none, otpValidate := fun _ _ => .ok false
      captcha := false, mfa := false, remeberMe := false }
  recovery :=
    { encode := ("#" ++ ·), reciprocalEncode := id, emailRegex := fun _ => false
      mailInterval := 30, smsInterval := 30, optSmsProvider := "SmsOtpAuthnAliyun" }

theorem encoders_sample : Encoders sample where
  matches_encode x y := by
    change decide ("#" ++ y = "#" ++ x) = true ↔ x = y
    rw [decide_eq_true_eq, String.append_right_inj]
    exact eq_comm
  decoder_encode _ := rfl

def erin : UserInfo := { id := "1", username := "erin", password := "#old@erin" }

/-- One user, and a registration that waits for its password. -/
def reception : Portal where
  world :=
    { database :=
        { userInfo := ⟨[erin], by decide⟩, historyLogin := [], groupMember := []
          passwordPolicy := [] }
      session := { id := "s" } }
  registrations := ⟨[{ id := "r", workEmail := "new@erin" }], by decide⟩

def erinChanges : Operation :=
  .changeUserPassword { id := "s", currentUser := some erin } false "now" (some "old") "new" "new"

def newcomerActivates : Operation := .activate false "now" "2" "r" "secret" "secret"

theorem holds_of_erinChanges :
    Holds sample (final (perform sample erinChanges) reception).userInfo (some "1") "new" := by
  have hreports : perform sample erinChanges reception =
      .ok true (final (perform sample erinChanges) reception) := rfl
  refine (holds_iff_encoded encoders_sample erinChanges hreports).mpr ?_
  exact ⟨erin, List.mem_singleton_self erin, erin, rfl, rfl, rfl⟩

/-- The registration is reported as activated, and the new user cannot log in. -/
theorem newcomerActivates_not_holds :
    perform sample newcomerActivates reception =
        .ok true (final (perform sample newcomerActivates) reception) ∧
      ¬Holds sample (final (perform sample newcomerActivates) reception).userInfo (some "2")
        "secret" := by
  have hreports : perform sample newcomerActivates reception =
      .ok true (final (perform sample newcomerActivates) reception) := rfl
  refine ⟨hreports, ?_⟩
  intro h
  have hencoded := (activate_reports encoders_sample hreports).mp h
  have hfresh : ¬(false = true ∨ ∃ u ∈ reception.userInfo.rows, u.id = "2") := by decide
  simp only [Encoded] at hencoded
  rw [if_neg hfresh] at hencoded
  obtain ⟨r, hr, -, hsame⟩ := hencoded
  cases List.mem_singleton.mp hr
  exact absurd hsame (by decide)

end MaxKey.PasswordChanges
