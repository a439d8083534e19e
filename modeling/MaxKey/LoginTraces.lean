import MaxKey.Comparisons

namespace MaxKey.LoginTraces
open WebContext Realm Logon Lockouts Comparisons JavaException Effects

/-- The user that the login log gets where nobody has the name, with the password for a name. -/
def unknownUser (request : HttpRequest) (password : Option String) : UserInfo :=
  { id := request.generatedId, username := password.getD "", displayName := some "not exist"
    loginCount := 0 }

def logUnknown (request : HttpRequest) (password : Option String) : Web Unit :=
  insertLoginHistory request (some (unknownUser request password)) "Local Login" ""
    "login.error.username" "user not exist"

/-- The checks of the form alone. -/
def formValid (c : Config) (form : BasicAuthentication) : Web Unit := do
  sessionValid form.sessionId
  authTypeValid form.authType
  captchaValid c form.captcha form.authType
  emptyPasswordValid form.password
  emptyUsernameValid form.username

instance (c : Config) (form : BasicAuthentication) (session : HttpSession) :
    Decidable (formAllows c form session) := inferInstanceAs (Decidable (_ ∧ _))

/-- The form is in order, and nobody has the name that it brings. -/
def asksUnknown (c : Config) (request : HttpRequest) (form : BasicAuthentication) (w : World) :
    Prop :=
  formAllows c form w.session ∧ ¬request.faults.selectUserInfo ∧ findUser w form.username = none

instance (c : Config) (request : HttpRequest) (form : BasicAuthentication) (w : World) :
    Decidable (asksUnknown c request form w) := inferInstanceAs (Decidable (_ ∧ _))

/-- The row that the login log gets, where the header has its parts and the database takes it. -/
def loginRow (request : HttpRequest) (userInfo : UserInfo) (type provider code message : String) :
    Option HistoryLogin :=
  match request.userAgent.map browserPlatform with
  | some (.ok (browser, platform)) =>
    if request.faults.insertHistoryLogin then none
    else some
      { sessionId := request.loginSessionId, uid := userInfo.id, username := userInfo.username
        displayName := userInfo.displayName, loginType := type, message, code, provider
        sourceIp := request.ipAddress, browser, platform, application := "Browser"
        loginTime := request.now }
  | _ => none

theorem id_counted (request : HttpRequest) (userInfo u : UserInfo) :
    { u with loginCount := userInfo.loginCount + 1, lastLoginTime := some request.now
             lastLoginIp := request.ipAddress, online := ONLINE }.id = u.id := rfl

/-- What the log makes of the database. -/
def logTo (request : HttpRequest) (userInfo : UserInfo) (type provider code message : String)
    (db : Database) : Database :=
  (loginRow request userInfo type provider code message).elim db fun row =>
    { db with
      historyLogin := db.historyLogin ++ [row]
      userInfo :=
        if request.faults.updateUserInfo then db.userInfo
        else db.userInfo.update (·.id = userInfo.id) (fun u =>
          { u with loginCount := userInfo.loginCount + 1, lastLoginTime := some request.now
                   lastLoginIp := request.ipAddress, online := ONLINE })
            (id_counted request userInfo) }

section Log

theorem insertLoginHistory_database (request : HttpRequest) (userInfo : UserInfo)
    (type provider code message : String) (w : World) :
    (final (insertLoginHistory request (some userInfo) type provider code message) w).database =
      logTo request userInfo type provider code message w.database := by
  unfold logTo loginRow
  cases hagent : request.userAgent with
  | none =>
    simp [final, insertLoginHistory, bind_apply, modifySession, nonNull, orThrow, hagent]
  | some userAgent =>
    cases hparts : browserPlatform userAgent with
    | error e =>
      simp [final, insertLoginHistory, bind_apply, modifySession, nonNull, orThrow, orError, hagent,
        hparts]
    | ok parts =>
      cases hinsert : request.faults.insertHistoryLogin <;>
        cases hupdate : request.faults.updateUserInfo <;>
        simp [final, insertLoginHistory, bind_apply, modifySession, modifyDatabase, updateById,
          nonNull, orThrow, orError, throwIf, hagent, hparts, hinsert, hupdate]

theorem insertLoginHistory_none_database (request : HttpRequest)
    (type provider code message : String) (w : World) :
    (final (insertLoginHistory request none type provider code message) w).database =
      w.database := by
  cases hagent : request.userAgent with
  | none =>
    simp [final, insertLoginHistory, bind_apply, modifySession, nonNull, orThrow, hagent]
  | some userAgent =>
    cases hparts : browserPlatform userAgent with
    | error e =>
      simp [final, insertLoginHistory, bind_apply, modifySession, nonNull, orThrow, orError, hagent,
        hparts]
    | ok parts =>
      simp [final, insertLoginHistory, bind_apply, modifySession, nonNull, orThrow, orError, hagent,
        hparts]

theorem historyWritable_iff (request : HttpRequest) (userInfo : UserInfo)
    (type provider code message : String) : historyWritable request (some userInfo) = true ↔
      (loginRow request userInfo type provider code message).isSome ∧
        ¬request.faults.updateUserInfo := by
  unfold historyWritable loginRow
  cases request.userAgent with
  | none => simp
  | some userAgent =>
    cases hparts : browserPlatform userAgent with
    | error e => simp [Except.isOk, Except.toBool, hparts]
    | ok parts =>
      cases request.faults.insertHistoryLogin <;> simp [Except.isOk, Except.toBool, hparts]

end Log

section Checks

variable {c : Config} {request : HttpRequest} {form : BasicAuthentication} {w w' : World}

theorem leaves_formValid {β : Type} (g : World → β) (c : Config) (form : BasicAuthentication) :
    Leaves g (formValid c form) := by
  refine leaves_bind (leaves_sessionValid _ _) fun _ => leaves_bind (leaves_throwIf _ _) fun _ => ?_
  refine leaves_bind (leaves_captchaValid _ _ _ _) fun _ => ?_
  exact leaves_bind (leaves_throwIf _ _) fun _ => leaves_throwIf _ _

theorem formValid_eq_ok {u : Unit} :
    formValid c form w = .ok u w' ↔ formAllows c form w.session ∧ w = w' := by
  unfold formValid formAllows
  simp only [bind_eq_ok, sessionValid_eq_ok, authTypeValid_eq_ok, captchaValid_eq_ok,
    emptyPasswordValid, emptyUsernameValid, throwIf_eq_ok]
  constructor
  · rintro ⟨_, _, ⟨hid, rfl⟩, _, _, ⟨htype, rfl⟩, _, _, ⟨hcaptcha, rfl⟩, _, _, ⟨hpassword, rfl⟩, hname,
      rfl⟩
    exact ⟨⟨hid, htype, hcaptcha, hpassword, hname⟩, rfl⟩
  · rintro ⟨⟨hid, htype, hcaptcha, hpassword, hname⟩, rfl⟩
    exact ⟨(), w, ⟨hid, rfl⟩, (), w, ⟨htype, rfl⟩, (), w, ⟨hcaptcha, rfl⟩, (), w, ⟨hpassword, rfl⟩,
      hname, rfl⟩

theorem precheck_eq (c : Config) (request : HttpRequest) (form : BasicAuthentication) :
    precheck c request form = formValid c form >>= fun _ => do
      let loaded ← loadUserInfo request form.username
      let userInfo ← userinfoValid request loaded form.password
      tftcaptchaValid c form.otpCaptcha form.authType userInfo
      return userInfo := by
  simp only [precheck, formValid, bind_assoc]

/-- Nobody's name is logged before it is refused. -/
theorem precheck_of_asksUnknown (h : asksUnknown c request form w) :
    precheck c request form w =
      (logUnknown request form.password >>= fun _ =>
        (throw (badCredentials "login.error.username") : Web UserInfo)) w := by
  obtain ⟨hform, hloads, hnobody⟩ := h
  have hvalid : formValid c form w = .ok () w := formValid_eq_ok.mpr ⟨hform, rfl⟩
  have hload : loadUserInfo request form.username w = .ok none w := by
    rw [loadUserInfo_returns hloads, hnobody]
  rw [precheck_eq, bind_of_ok hvalid, bind_of_ok hload]
  have hrefuse : userinfoValid request none form.password = (logUnknown request form.password >>=
      fun _ => throw (badCredentials "login.error.username")) := rfl
  rw [hrefuse, throw_bind]

/-- Up to the password policy only the refusal of an unknown name leaves a trace. -/
theorem final_precheck (c : Config) (request : HttpRequest) (form : BasicAuthentication)
    (w : World) : final (precheck c request form) w =
      if asksUnknown c request form w then final (logUnknown request form.password) w else w := by
  split_ifs with hasks
  · have hthrow := final_bind_of_leaves (g := id) (x := logUnknown request form.password)
      (f := fun _ => (throw (badCredentials "login.error.username") : Web UserInfo))
      (fun _ => leaves_throw _) w
    refine Eq.trans ?_ hthrow
    simp only [final, precheck_of_asksUnknown hasks]
    rfl
  · rw [precheck_eq]
    cases hvalid : formValid c form w with
    | error e w₁ =>
      have hsame := leaves_formValid id c form w
      rw [final_of_error hvalid] at hsame
      rw [final_of_error (bind_of_error hvalid)]
      exact hsame
    | ok u w₁ =>
      obtain ⟨hform, hsame⟩ := formValid_eq_ok.mp hvalid
      subst hsame
      by_cases hloads : request.faults.selectUserInfo = true
      · rw [final_of_error ((bind_of_ok hvalid).trans (bind_of_error (loadUserInfo_throws hloads _ _)))]
      · have hload := loadUserInfo_returns hloads form.username w
        cases hfind : findUser w form.username with
        | none => exact absurd ⟨hform, hloads, hfind⟩ hasks
        | some userInfo =>
          -- a known user is read, and the one-time code checked
          rw [hfind] at hload
          have hcheck := leaves_bind (leaves_tftcaptchaValid id c form.otpCaptcha form.authType userInfo)
            (fun _ => leaves_pure userInfo) w
          refine Eq.trans ?_ hcheck
          simp only [final, bind_of_ok hvalid, bind_of_ok hload]
          rfl

/-- The user whom the request brings before the password policy. -/
def broughtUser (c : Config) (request : HttpRequest) (form : BasicAuthentication) (w : World) :
    Option UserInfo :=
  if formAllows c form w.session ∧ ¬request.faults.selectUserInfo then
    (findUser w form.username).filter fun userInfo =>
      decide (c.mfa → isTfa form.authType → codeValid c form.otpCaptcha userInfo)
  else none

theorem precheck_eq_ok_iff {userInfo : UserInfo} :
    precheck c request form w = .ok userInfo w' ↔
      broughtUser c request form w = some userInfo ∧ w = w' := by
  rw [precheck_eq_ok]
  unfold broughtUser
  split_ifs with hgo
  · simp only [hgo.1, hgo.2, Option.filter_eq_some_iff, decide_eq_true_eq, Bool.false_eq_true,
      not_false_eq_true, true_and]
  · rw [not_and] at hgo
    refine iff_of_false ?_ ?_
    · rintro ⟨⟨hform, hloads, -⟩, -⟩
      exact hgo hform hloads
    · simp

/-- What the checks of the credentials leave: the log of an unknown name, or what the checks of the
user leave. -/
theorem final_checkCredentials (c : Config) (request : HttpRequest) (form : BasicAuthentication)
    (w : World) : final (checkCredentials c request form) w =
      if asksUnknown c request form w then final (logUnknown request form.password) w
      else (broughtUser c request form w).elim w fun userInfo =>
        final (judge c request form userInfo) w := by
  rw [checkCredentials_eq]
  have hfirst := final_precheck c request form w
  cases hrun : precheck c request form w with
  | error e w₁ =>
    have hnobody : broughtUser c request form w = none := by
      cases hbrought : broughtUser c request form w with
      | none => rfl
      | some userInfo => cases hrun.symm.trans (precheck_eq_ok_iff.mpr ⟨hbrought, rfl⟩)
    rw [final_of_error (bind_of_error hrun), hnobody, ← final_of_error hrun, hfirst]
    rfl
  | ok userInfo w₁ =>
    obtain ⟨hbrought, hsame⟩ := precheck_eq_ok_iff.mp hrun
    subst hsame
    have hasks : ¬asksUnknown c request form w := by
      intro hasks
      have hfind := (precheck_eq_ok.mp hrun).1.2.2.1
      cases hasks.2.2.symm.trans hfind
    have hreturn := final_bind_of_leaves (g := id) (x := judge c request form userInfo)
      (f := fun _ => pure userInfo) (fun _ => leaves_pure _) w
    rw [if_neg hasks, hbrought]
    refine Eq.trans ?_ hreturn
    simp only [final, bind_of_ok hrun]
    rfl

end Checks

section Authenticate

variable {c : Config} {request : HttpRequest} {s s' : LogonState} {a : UserAuthentication}

/-- The checks of the credentials pass. -/
def accepts (c : Config) (request : HttpRequest) (form : BasicAuthentication) (w : World) : Bool :=
  (outcome (checkCredentials c request form) w).isOk

/-- A failing attempt hands on the form as it came, over what the checks of it leave. -/
theorem attempt_of_fails
    (h : accepts c request s.authentication s.world → request.faults.selectGroups) :
    attempt c request s = .ok (.basic s.authentication)
      { s with world := final (checkCredentials c request s.authentication) s.world } := by
  have hget : doInternalAuthenticate c request s = (do
      let userInfo ← web (checkCredentials c request s.authentication)
      let _ ← web (grantAuthority request userInfo)
      web (setUserInfo (some userInfo))
      modify fun r : LogonState =>
        { r with authentication := { s.authentication with authenticated := true } }
      web (createRemeberMe c request s.authentication)
      let authorities ← web (grantAuthority request userInfo)
      return { principal := .basic { s.authentication with authenticated := true }
               credentials := some "PASSWORD", authorities := authorities
               authenticated := true } : Logon.Attempt UsernamePasswordAuthenticationToken) s :=
    bind_of_ok (get_apply s)
  cases hcheck : checkCredentials c request s.authentication s.world with
  | error e w =>
    have hthrow : doInternalAuthenticate c request s = .error e { s with world := w } :=
      hget.trans (bind_of_error (web_of_error hcheck))
    rw [attempt_of_error hthrow, final_of_error hcheck]
  | ok userInfo w =>
    have hgroups : request.faults.selectGroups = true := by
      apply h
      simp [accepts, outcome, hcheck, Except.isOk, Except.toBool]
    have hgrant : web (grantAuthority request userInfo) { s with world := w } = .error
        (dataAccess "GROUPS") { s with world := w } :=
      web_of_error (grantAuthority_throws hgroups userInfo w)
    have hthrow : doInternalAuthenticate c request s =
        .error (dataAccess "GROUPS") { s with world := w } :=
      hget.trans ((bind_of_ok (web_of_ok hcheck)).trans (bind_of_error hgrant))
    rw [attempt_of_error hthrow, final_of_ok hcheck]

end Authenticate

end MaxKey.LoginTraces
