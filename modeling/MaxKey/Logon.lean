import MaxKey.Realm
import MaxKey.Runs

namespace MaxKey.Logon
open WebContext Realm JavaException Effects

/-- A /logon.do request at work: the shared world, and the login form object that the
setters filled from the request. -/
structure LogonState where
  world : World
  authentication : BasicAuthentication

abbrev Attempt := EStateM JavaException LogonState

def web {α : Type} (x : Web α) : Attempt α :=
  focus LogonState.world (fun world s => { s with world := world }) x

theorem web_of_ok {α : Type} {x : Web α} {s : LogonState} {a : α} {w : World}
    (h : x s.world = .ok a w) : web x s = .ok a { s with world := w } := focus_of_ok h

theorem web_of_error {α : Type} {x : Web α} {s : LogonState} {e : JavaException} {w : World}
    (h : x s.world = .error e w) : web x s = .error e { s with world := w } := focus_of_error h

def sessionValid (sessionId : Option String) : Web Unit := do
  let session ← getSession
  throwIf (sessionId ≠ some session.id) (badCredentials "login.error.session")

def authTypeValid (authType : Option String) : Web Unit :=
  throwIf (¬authType.any fun t =>
      JavaText.equalsIgnoreCase t "basic" || JavaText.equalsIgnoreCase t "tfa")
    (badCredentials "login.error.authtype")

def captchaValid (c : Config) (captcha authType : Option String) : Web Unit :=
  onlyIf (c.captcha ∧ authType.any (JavaText.equalsIgnoreCase · "basic")) do
    let session ← getSession
    let kaptcha ← nonNull session.kaptcha
    throwIf (captcha ≠ some kaptcha) (badCredentials "login.error.captcha")

def emptyPasswordValid (password : Option String) : Web Unit :=
  throwIf (password = none ∨ password = some "") (badCredentials "login.error.password.null")

def emptyUsernameValid (username : Option String) : Web Unit :=
  throwIf (username = none ∨ username = some "") (badCredentials "login.error.username.null")

/-- The password stands where the caller passes the user name for the log, as in the source. -/
def userinfoValid (request : HttpRequest) (userInfo : Option UserInfo)
    (username : Option String) : Web UserInfo := do
  match userInfo with
  | some userInfo => return userInfo
  | none =>
    let loginUser : UserInfo :=
      { id := request.generatedId, username := username.getD "", displayName := some "not exist"
        loginCount := 0 }
    insertLoginHistory request (some loginUser) "Local Login" "" "login.error.username"
      "user not exist"
    throw (badCredentials "login.error.username")

def tftcaptchaValid (c : Config) (otpCaptcha authType : Option String) (userInfo : UserInfo) :
    Web Unit :=
  onlyIf (c.mfa ∧ authType.any (JavaText.equalsIgnoreCase · "tfa")) do
    let encoded ← nonNull userInfo.sharedSecret
    let sharedSecret ← orError (c.decoder encoded)
    match otpCaptcha with
    | none => throw (badCredentials "login.error.captcha")
    | some otpCaptcha =>
      let valid ← orError
        (c.otpValidate { userInfo with sharedSecret := some sharedSecret } otpCaptcha)
      throwIf (¬valid) (badCredentials "login.error.captcha")

/-- The checks of doInternalAuthenticate, up to the comparison of the password. -/
def checkCredentials (c : Config) (request : HttpRequest) (auth : BasicAuthentication) :
    Web UserInfo := do
  sessionValid auth.sessionId
  authTypeValid auth.authType
  captchaValid c auth.captcha auth.authType
  emptyPasswordValid auth.password
  emptyUsernameValid auth.username
  let userInfo ← loadUserInfo request auth.username
  let userInfo ← userinfoValid request userInfo auth.password
  tftcaptchaValid c auth.otpCaptcha auth.authType userInfo
  passwordPolicyValid c request userInfo
  passwordMatches c request userInfo (auth.password.getD "")
  return userInfo

/-- The remember-me record is stored and the session forgets the wish for it. -/
def createRemeberMe (c : Config) (request : HttpRequest) (auth : BasicAuthentication) :
    Web Unit :=
  onlyIf (c.remeberMe ∧ auth.remeberMe = some "remeberMe") do
    modifySession fun s => { s with remeberMe := auth.username }
    throwIf request.faults.saveRemeberMe (dataAccess "REMEMBER_ME")
    modifySession fun s => { s with remeberMe := none }

/-- The form object is marked as authenticated before the last steps, which can still throw. -/
def doInternalAuthenticate (c : Config) (request : HttpRequest) :
    Attempt UsernamePasswordAuthenticationToken := do
  let auth := (← get).authentication
  let userInfo ← web (checkCredentials c request auth)
  let _ ← web (grantAuthority request userInfo)
  web (setUserInfo (some userInfo))
  modify fun s => { s with authentication := { auth with authenticated := true } }
  web (createRemeberMe c request auth)
  let authorities ← web (grantAuthority request userInfo)
  return { principal := .basic { auth with authenticated := true }, credentials := some "PASSWORD"
           authorities := authorities, authenticated := true }

/-- The part of authenticate that runs for an authenticated object: the session is replaced
and takes the user of the old session together with the authentication at hand. -/
def switchSession (request : HttpRequest) (authentication : UserAuthentication) :
    Web UserInfo := do
  let session ← getSession
  let userInfo := session.currentUser
  invalidate request
  modifySession fun s => { s with currentUserSessionId := some request.newSessionId }
  insertLoginHistory request userInfo "Local Login" "" "xe00000004" "success"
  modifySession fun s => { s with firstSavedRequest := session.firstSavedRequest }
  WebContext.setAuthentication (.user authentication)
  setUserInfo userInfo
  setPasswordSetType session.currentLoginUserPasswordSetType
  nonNull userInfo

def credentials : UserAuthentication → Option String
  | .basic auth => auth.password
  | .token token => token.credentials

/-- Every exception of the credential checks is caught, and the form object stays at hand. -/
def attempt (c : Config) (request : HttpRequest) : Attempt UserAuthentication := do
  let token ← tryCatch (some <$> doInternalAuthenticate c request) fun _ => pure none
  let form := (← get).authentication
  return token.elim (.basic form) .token

/-- What decides is the flag of the object at hand: the token's, or the form object's own. -/
def authenticate (c : Config) (request : HttpRequest) : Attempt UserAuthentication := do
  let authentication ← attempt c request
  if authentication.isAuthenticated then
    let userInfo ← web (switchSession request authentication)
    return .token
      { principal := .name userInfo.username, credentials := credentials authentication
        authorities := authentication.getAuthorities.getD [], authenticated := true }
  else
    return authentication

section Checks

variable {β : Type} (g : World → β)

theorem leaves_sessionValid (sessionId : Option String) : Leaves g (sessionValid sessionId) := by
  apply leaves_bind
  · exact leaves_bind leaves_get fun _ => leaves_pure _
  · intro _
    exact leaves_throwIf _ _

theorem leaves_captchaValid (c : Config) (captcha authType : Option String) :
    Leaves g (captchaValid c captcha authType) := by
  apply leaves_onlyIf
  apply leaves_bind
  · exact leaves_bind leaves_get fun _ => leaves_pure _
  · intro session
    exact leaves_bind (leaves_orThrow _ _) fun _ => leaves_throwIf _ _

theorem leaves_tftcaptchaValid (c : Config) (otpCaptcha authType : Option String)
    (userInfo : UserInfo) : Leaves g (tftcaptchaValid c otpCaptcha authType userInfo) := by
  apply leaves_onlyIf
  apply leaves_bind (leaves_orThrow _ _)
  intro encoded
  apply leaves_bind (leaves_orError _)
  intro sharedSecret
  cases otpCaptcha with
  | none => exact leaves_throw _
  | some otpCaptcha => exact leaves_bind (leaves_orError _) fun _ => leaves_throwIf _ _

/-- An unknown user is logged. -/
theorem leaves_userinfoValid {request : HttpRequest} (userInfo : Option UserInfo)
    (username : Option String)
    (hlog : ∀ user type provider code message,
      Leaves g (insertLoginHistory request user type provider code message)) :
    Leaves g (userinfoValid request userInfo username) := by
  cases userInfo with
  | some userInfo => exact leaves_pure _
  | none => exact leaves_bind (hlog _ _ _ _ _) fun _ => leaves_throw _

end Checks

theorem leaves_checkCredentials (c : Config) (request : HttpRequest) (auth : BasicAuthentication) :
    Leaves World.identity (checkCredentials c request auth) := by
  refine leaves_bind (leaves_sessionValid _ _) fun _ => leaves_bind (leaves_throwIf _ _) fun _ => ?_
  refine leaves_bind (leaves_captchaValid _ _ _ _) fun _ => ?_
  refine leaves_bind (leaves_throwIf _ _) fun _ => leaves_bind (leaves_throwIf _ _) fun _ => ?_
  refine leaves_bind (leaves_loadUserInfo _ _ _) fun userInfo => ?_
  refine leaves_bind (leaves_userinfoValid _ _ _ ?_) fun userInfo => ?_
  · exact insertLoginHistory_identity request
  refine leaves_bind (leaves_tftcaptchaValid _ _ _ _ _) fun _ => ?_
  refine leaves_bind (leaves_passwordPolicyValid _ _ _) fun _ => ?_
  exact leaves_bind (leaves_passwordMatches _ _ _ _) fun _ => leaves_pure _

/-- The user whose password is accepted is the one that the form names. -/
theorem checkCredentials_returns {c : Config} {request : HttpRequest} {auth : BasicAuthentication}
    {userInfo : UserInfo} {w w' : World}
    (h : checkCredentials c request auth w = .ok userInfo w') :
    some userInfo.username = auth.username := by
  unfold checkCredentials at h
  obtain ⟨_, w₁, -, h⟩ := bind_eq_ok.mp h
  obtain ⟨_, w₂, -, h⟩ := bind_eq_ok.mp h
  obtain ⟨_, w₃, -, h⟩ := bind_eq_ok.mp h
  obtain ⟨_, w₄, -, h⟩ := bind_eq_ok.mp h
  obtain ⟨_, w₅, -, h⟩ := bind_eq_ok.mp h
  obtain ⟨loaded, w₆, hload, h⟩ := bind_eq_ok.mp h
  obtain ⟨user, w₇, hvalid, h⟩ := bind_eq_ok.mp h
  obtain ⟨_, w₈, -, h⟩ := bind_eq_ok.mp h
  obtain ⟨_, w₉, -, h⟩ := bind_eq_ok.mp h
  obtain ⟨_, w₁₀, -, h⟩ := bind_eq_ok.mp h
  cases h
  cases loaded with
  | none =>
    obtain ⟨_, _, -, hthrow⟩ := bind_eq_ok.mp hvalid
    cases hthrow
  | some loaded =>
    cases hvalid
    exact (findUser_eq_some (loadUserInfo_eq_ok hload).symm).2

/-- The session that authenticate starts, with nobody in it yet. -/
def freshSession (request : HttpRequest) (w : World) : World :=
  { w with session :=
      { id := request.newSessionId, currentUserSessionId := some request.newSessionId } }

/-- What the new session takes from the old one, once the login is logged. -/
def takeOver (authentication : UserAuthentication) (session : HttpSession) : Web UserInfo := do
  modifySession fun s => { s with firstSavedRequest := session.firstSavedRequest }
  WebContext.setAuthentication (.user authentication)
  setUserInfo session.currentUser
  setPasswordSetType session.currentLoginUserPasswordSetType
  nonNull session.currentUser

theorem switchSession_eq (request : HttpRequest) (a : UserAuthentication) (w : World) :
    switchSession request a w =
      (insertLoginHistory request w.session.currentUser "Local Login" "" "xe00000004" "success" >>=
        fun _ => takeOver a w.session) (freshSession request w) := rfl

/-- To what no write to the session touches, only the log of the login matters. -/
theorem final_switchSession_of_leaves {γ : Type} {g : World → γ}
    (hsession : ∀ f, Leaves g (modifySession f)) (request : HttpRequest) (a : UserAuthentication)
    (w : World) : g (final (switchSession request a) w) =
      g (final (insertLoginHistory request w.session.currentUser "Local Login" "" "xe00000004"
        "success") (freshSession request w)) := by
  have htake : Leaves g (takeOver a w.session) := by
    refine leaves_bind (hsession _) fun _ => leaves_bind (hsession _) fun _ => ?_
    refine leaves_bind (hsession _) fun _ => leaves_bind (hsession _) fun _ => ?_
    exact leaves_orThrow _ _
  unfold final
  rw [switchSession_eq]
  exact final_bind_of_leaves (fun _ => htake) (freshSession request w)

/-- The new session takes over the user and the object at hand together, or neither. -/
theorem switchSession_identity (request : HttpRequest) (a : UserAuthentication) (w : World) :
    (final (switchSession request a) w).identity =
      if historyWritable request w.session.currentUser then
        (w.session.currentUser, some (.user a)) else (none, none) := by
  let w₁ := freshSession request w
  let history := insertLoginHistory request w.session.currentUser "Local Login" "" "xe00000004"
    "success"
  have hleaves : (final history w₁).identity = w₁.identity :=
    insertLoginHistory_identity _ _ _ _ _ _ w₁
  have hreturns := insertLoginHistory_returns request w.session.currentUser "Local Login" ""
    "xe00000004" "success" w₁
  have hstart := switchSession_eq request a w
  cases hrun : history w₁ with
  | ok _ w₂ =>
    have hwritable := hreturns.mp ⟨w₂, hrun⟩
    rw [if_pos hwritable]
    have hnext := hstart.trans (bind_of_ok hrun)
    unfold final
    rw [hnext]
    cases huser : w.session.currentUser with
    | none => simp [historyWritable, huser] at hwritable
    | some user =>
      unfold takeOver
      rw [huser]
      rfl
  | error e w₂ =>
    have hnot : ¬historyWritable request w.session.currentUser = true := by
      rw [← hreturns]
      rintro ⟨w₃, h⟩
      exact absurd (hrun.symm.trans h) (by simp)
    rw [final_of_error hrun] at hleaves
    rw [if_neg hnot, final_of_error (hstart.trans (bind_of_error hrun))]
    exact hleaves

/-- What decides whether a new session is started is the flag of the object at hand. -/
theorem final_authenticate {c : Config} {request : HttpRequest} {s s' : LogonState}
    {a : UserAuthentication} (h : attempt c request s = .ok a s') :
    (final (authenticate c request) s).world =
      if a.isAuthenticated then final (switchSession request a) s'.world else s'.world := by
  have hstart : authenticate c request s = (if a.isAuthenticated then do
      let userInfo ← web (switchSession request a)
      return .token
        { principal := .name userInfo.username, credentials := credentials a
          authorities := a.getAuthorities.getD [], authenticated := true }
      else return a : Attempt UserAuthentication) s' := bind_of_ok h
  by_cases ha : a.isAuthenticated = true
  · rw [if_pos ha]
    rw [if_pos ha] at hstart
    cases hswitch : switchSession request a s'.world with
    | ok userInfo w =>
      have hreturn := hstart.trans (bind_of_ok (web_of_ok hswitch))
      rw [final_of_ok hreturn, final_of_ok hswitch]
    | error e w =>
      have hthrow := hstart.trans (bind_of_error (web_of_error hswitch))
      rw [final_of_error hthrow, final_of_error hswitch]
  · rw [if_neg ha] at hstart ⊢
    rw [final_of_ok hstart]

theorem authenticate_identity {c : Config} {request : HttpRequest} {s s' : LogonState}
    {a : UserAuthentication} (h : attempt c request s = .ok a s') :
    (final (authenticate c request) s).world.identity =
      if a.isAuthenticated then
        if historyWritable request s'.world.session.currentUser then
          (s'.world.session.currentUser, some (.user a)) else (none, none)
      else s'.world.identity := by
  rw [final_authenticate h, ← switchSession_identity]
  split_ifs
  · rfl
  · rfl

theorem leaves_createRemeberMe (c : Config) (request : HttpRequest) (auth : BasicAuthentication) :
    Leaves World.identity (createRemeberMe c request auth) := by
  refine leaves_onlyIf _ (leaves_bind (leaves_modify fun _ => rfl) fun _ => ?_)
  exact leaves_bind (leaves_throwIf _ _) fun _ => leaves_modify fun _ => rfl

theorem attempt_of_error {c : Config} {request : HttpRequest} {s s' : LogonState}
    {e : JavaException} (h : doInternalAuthenticate c request s = .error e s') :
    attempt c request s = .ok (.basic s'.authentication) s' := by
  have hmap : (some <$> doInternalAuthenticate c request) s = .error e s' := by
    rw [← bind_pure_comp, bind_of_error h]
  rw [attempt, bind_of_ok ((tryCatch_of_error hmap).trans (pure_apply none s'))]
  rfl

theorem attempt_of_ok {c : Config} {request : HttpRequest} {s s' : LogonState}
    {token : UsernamePasswordAuthenticationToken}
    (h : doInternalAuthenticate c request s = .ok token s') :
    attempt c request s = .ok (.token token) s' := by
  have hmap : (some <$> doInternalAuthenticate c request) s = .ok (some token) s' := by
    rw [← bind_pure_comp, bind_of_ok h, pure_apply]
  rw [attempt, bind_of_ok (tryCatch_of_ok hmap)]
  rfl

/-- A form that is accepted has a password. -/
theorem checkCredentials_password {c : Config} {request : HttpRequest} {auth : BasicAuthentication}
    {userInfo : UserInfo} {w w' : World}
    (h : checkCredentials c request auth w = .ok userInfo w') : auth.password.isSome := by
  unfold checkCredentials at h
  obtain ⟨_, w₁, -, h⟩ := bind_eq_ok.mp h
  obtain ⟨_, w₂, -, h⟩ := bind_eq_ok.mp h
  obtain ⟨_, w₃, -, h⟩ := bind_eq_ok.mp h
  obtain ⟨_, w₄, hpassword, -⟩ := bind_eq_ok.mp h
  cases hp : auth.password with
  | some password => rfl
  | none =>
    have hempty : auth.password = none ∨ auth.password = some "" := .inl hp
    have hthrow := throwIf_of_true hempty (badCredentials "login.error.password.null") w₃
    exact absurd (hthrow.symm.trans hpassword) nofun

/-- The principal of the token is the form itself. -/
theorem doInternalAuthenticate_returns {c : Config} {request : HttpRequest} {s s' : LogonState}
    {token : UsernamePasswordAuthenticationToken}
    (h : doInternalAuthenticate c request s = .ok token s') :
    token.principal = .basic { s.authentication with authenticated := true } ∧
      s.authentication.password.isSome := by
  unfold doInternalAuthenticate at h
  rw [bind_of_ok (get_apply s)] at h
  obtain ⟨userInfo, s₁, hcheck, h⟩ := bind_eq_ok.mp h
  obtain ⟨_, s₂, -, h⟩ := bind_eq_ok.mp h
  obtain ⟨_, s₃, -, h⟩ := bind_eq_ok.mp h
  obtain ⟨_, s₄, -, h⟩ := bind_eq_ok.mp h
  obtain ⟨_, s₅, -, h⟩ := bind_eq_ok.mp h
  obtain ⟨authorities, s₆, -, h⟩ := bind_eq_ok.mp h
  cases h
  constructor
  · rfl
  · cases hworld : checkCredentials c request s.authentication s.world with
    | ok user w => exact checkCredentials_password hworld
    | error e w => exact absurd ((web_of_error hworld).symm.trans hcheck) nofun

/-- The user whose password doInternalAuthenticate accepts in this call. -/
def acceptedUser (c : Config) (request : HttpRequest) (s : LogonState) : Option UserInfo :=
  match checkCredentials c request s.authentication s.world with
  | .ok userInfo _ => some userInfo
  | .error _ _ => none

theorem acceptedUser_eq_some {c : Config} {request : HttpRequest} {s : LogonState}
    {userInfo : UserInfo} (h : acceptedUser c request s = some userInfo) :
    ∃ w, checkCredentials c request s.authentication s.world = .ok userInfo w := by
  unfold acceptedUser at h
  split at h
  · cases h
    exact ⟨_, ‹_›⟩
  · cases h

/-- Rejected credentials, or groups that cannot be read, leave the session as it was and the
form object at hand with the flag it came with. -/
theorem attempt_unset {c : Config} {request : HttpRequest} {s : LogonState}
    (h : acceptedUser c request s = none ∨ request.faults.selectGroups) :
    ∃ s', attempt c request s = .ok (.basic s.authentication) s' ∧
      s'.world.identity = s.world.identity := by
  have hleaves := leaves_checkCredentials c request s.authentication s.world
  cases hcheck : checkCredentials c request s.authentication s.world with
  | error e w =>
    have hthrow : doInternalAuthenticate c request s = .error e { s with world := w } :=
      (bind_of_ok (get_apply s)).trans (bind_of_error (web_of_error hcheck))
    rw [final_of_error hcheck] at hleaves
    exact ⟨{ s with world := w }, attempt_of_error hthrow, hleaves⟩
  | ok userInfo w =>
    have hf : request.faults.selectGroups = true := by
      refine h.resolve_left fun hnone => ?_
      simp [acceptedUser, hcheck] at hnone
    have hgrant : web (grantAuthority request userInfo) { s with world := w } =
        .error (dataAccess "GROUPS") { s with world := w } :=
      web_of_error (grantAuthority_throws hf userInfo w)
    have hthrow : doInternalAuthenticate c request s =
        .error (dataAccess "GROUPS") { s with world := w } := by
      rw [doInternalAuthenticate, bind_of_ok (get_apply s), bind_of_ok (web_of_ok hcheck),
        bind_of_error hgrant]
    rw [final_of_ok hcheck] at hleaves
    exact ⟨{ s with world := w }, attempt_of_error hthrow, hleaves⟩

/-- Otherwise the session has the accepted user, and an object for that user is at hand. -/
theorem attempt_set {c : Config} {request : HttpRequest} {s : LogonState} {userInfo : UserInfo}
    (h : acceptedUser c request s = some userInfo) (hf : ¬request.faults.selectGroups) :
    ∃ a s', attempt c request s = .ok a s' ∧ a.isAuthenticated ∧
      a.getPrincipal.username = some userInfo.username ∧
        s'.world.identity = (some userInfo, s.world.session.currentAuthentication) := by
  obtain ⟨w, hcheck⟩ := acceptedUser_eq_some h
  have hname := checkCredentials_returns hcheck
  have hidentity := leaves_checkCredentials c request s.authentication s.world
  rw [final_of_ok hcheck] at hidentity
  have hgrant : web (grantAuthority request userInfo) { s with world := w } =
      .ok (authoritiesOf w userInfo) { s with world := w } :=
    web_of_ok (grantAuthority_returns hf userInfo w)
  let w₁ : World := { w with session := { w.session with currentUser := some userInfo } }
  let auth : BasicAuthentication := { s.authentication with authenticated := true }
  have hw₁ : w₁.identity = (some userInfo, s.world.session.currentAuthentication) :=
    congrArg (fun i => (some userInfo, i.2)) hidentity
  have hstart : doInternalAuthenticate c request s =
      (do web (createRemeberMe c request s.authentication)
          let authorities ← web (grantAuthority request userInfo)
          return { principal := .basic auth, credentials := some "PASSWORD"
                   authorities := authorities, authenticated := true } :
        Attempt UsernamePasswordAuthenticationToken) ⟨w₁, auth⟩ := by
    rw [doInternalAuthenticate, bind_of_ok (get_apply s), bind_of_ok (web_of_ok hcheck),
      bind_of_ok hgrant]
    rfl
  have hleaves := leaves_createRemeberMe c request s.authentication w₁
  cases hremember : createRemeberMe c request s.authentication w₁ with
  | error e w₂ =>
    rw [final_of_error hremember] at hleaves
    have hthrow := hstart.trans (bind_of_error (web_of_error hremember))
    exact ⟨_, _, attempt_of_error hthrow, rfl, hname.symm, hleaves.trans hw₁⟩
  | ok _ w₂ =>
    rw [final_of_ok hremember] at hleaves
    have hreturn := hstart.trans ((bind_of_ok (web_of_ok hremember)).trans
      (bind_of_ok (web_of_ok (grantAuthority_returns hf userInfo w₂))))
    exact ⟨_, _, attempt_of_ok hreturn, rfl, hname.symm, hleaves.trans hw₁⟩

theorem authenticate_unset {c : Config} {request : HttpRequest} {s : LogonState}
    (h : acceptedUser c request s = none ∨ request.faults.selectGroups) :
    (final (authenticate c request) s).world.identity =
      if s.authentication.authenticated then
        if historyWritable request s.world.session.currentUser then
          (s.world.session.currentUser, some (.user (.basic s.authentication))) else (none, none)
      else s.world.identity := by
  obtain ⟨s', hattempt, hidentity⟩ := attempt_unset h
  have huser : s'.world.session.currentUser = s.world.session.currentUser :=
    congrArg Prod.fst hidentity
  rw [authenticate_identity hattempt, huser, hidentity]
  rfl

theorem authenticate_set {c : Config} {request : HttpRequest} {s : LogonState}
    {userInfo : UserInfo} (h : acceptedUser c request s = some userInfo)
    (hf : ¬request.faults.selectGroups) :
    ∃ a : UserAuthentication, a.getPrincipal.username = some userInfo.username ∧
      (final (authenticate c request) s).world.identity =
        if historyWritable request (some userInfo) then (some userInfo, some (.user a))
        else (none, none) := by
  obtain ⟨a, s', hattempt, hauth, hname, hidentity⟩ := attempt_set h hf
  have huser : s'.world.session.currentUser = some userInfo := congrArg Prod.fst hidentity
  refine ⟨a, hname, ?_⟩
  rw [authenticate_identity hattempt, if_pos hauth, huser]

/-- An Authentication that authenticate leaves in the session was there before, or it stands
for the user whose password was accepted. -/
def PrincipalAccepted (c : Config) (request : HttpRequest) (s : LogonState) : Prop :=
  ∀ a, (final (authenticate c request) s).world.session.currentAuthentication = some a →
    s.world.session.currentAuthentication = some a ∨
      ∃ userInfo, acceptedUser c request s = some userInfo ∧
        a.principalName = some userInfo.username

/-- The request brings the flag itself: no password was accepted, the session has a user for
whom the login log can be written, and it does not hold this very object yet. -/
def FlagForged (c : Config) (request : HttpRequest) (s : LogonState) : Prop :=
  acceptedUser c request s = none ∧ s.authentication.authenticated ∧
    historyWritable request s.world.session.currentUser ∧
      s.world.session.currentAuthentication ≠ some (.user (.basic s.authentication))

/-- Authentication and UserInfo of a session name the same user, or both are absent. -/
def OneUser (i : Option UserInfo × Option Authentication) : Prop :=
  i.2.map Authentication.principalName = i.1.map fun userInfo => some userInfo.username

instance : DecidablePred OneUser := fun i =>
  inferInstanceAs (Decidable (i.2.map Authentication.principalName = i.1.map _))

theorem principalAccepted_iff (c : Config) (request : HttpRequest) (s : LogonState) :
    PrincipalAccepted c request s ↔ ¬FlagForged c request s := by
  have hafter : ∀ i, (final (authenticate c request) s).world.identity = i →
      (PrincipalAccepted c request s ↔ ∀ a, i.2 = some a →
        s.world.session.currentAuthentication = some a ∨
          ∃ userInfo, acceptedUser c request s = some userInfo ∧
            a.principalName = some userInfo.username) := by
    rintro i rfl
    exact Iff.rfl
  cases haccepted : acceptedUser c request s with
  | some userInfo =>
    have hnot : ¬FlagForged c request s := fun h => by
      rw [FlagForged, haccepted] at h
      exact absurd h.1 (Option.some_ne_none _)
    refine iff_of_true ?_ hnot
    by_cases hf : request.faults.selectGroups = true
    · obtain ⟨w, hcheck⟩ := acceptedUser_eq_some haccepted
      have hname := checkCredentials_returns hcheck
      rw [hafter _ (authenticate_unset (.inr hf))]
      intro a ha
      split_ifs at ha
      · cases ha
        exact .inr ⟨userInfo, haccepted, hname.symm⟩
      · exact .inl ha
    · obtain ⟨b, hname, hidentity⟩ := authenticate_set haccepted hf
      rw [hafter _ hidentity]
      intro a ha
      split_ifs at ha
      cases ha
      exact .inr ⟨userInfo, haccepted, hname⟩
  | none =>
    rw [hafter _ (authenticate_unset (.inl haccepted)), FlagForged, haccepted]
    by_cases hauth : s.authentication.authenticated = true
    · by_cases hwritable : historyWritable request s.world.session.currentUser = true
      · simp [hauth, hwritable]
      · simp [hauth, hwritable]
    · simp [hauth, World.identity]

/-- What happens in one session: the login form, the login services that need no password,
the token endpoint's authentications, logout, a new one-time password secret, and whatever
other sessions do to the database. -/
inductive SessionAction
  | logon (request : HttpRequest) (form : BasicAuthentication)
  | login (request : HttpRequest) (username : Option String)
      (type provider code message : String)
  | authenticateAtTokenEndpoint (authentication : Authentication)
  | logout (request : HttpRequest)
  | changeSharedSecret (sharedSecret : String) (sharedCounter : Option String)
  | elsewhere (database : Database)

/-- The session ends unless closing the login log fails. -/
def logoutModelAndView (request : HttpRequest) : Web Unit := do
  Realm.logout request
  invalidate request

/-- A new secret is stored and set on the session's user. -/
def changeSharedSecret (sharedSecret : String) (sharedCounter : Option String) : Web Unit := do
  let session ← getSession
  let userInfo ← nonNull session.currentUser
  let sharedCounter := sharedCounter.orElse fun _ => userInfo.sharedCounter
  let change (u : UserInfo) := { u with sharedSecret := some sharedSecret, sharedCounter }
  updateById userInfo.id change fun _ => rfl
  setUserInfo (some (change userInfo))

def step (c : Config) (w : World) : SessionAction → World
  | .logon request form => (final (authenticate c request) ⟨w, form⟩).world
  | .login request username type provider code message =>
    final (Realm.setAuthentication request username type provider code message) w
  | .authenticateAtTokenEndpoint authentication =>
    final (WebContext.setAuthentication authentication) w
  | .logout request => final (logoutModelAndView request) w
  | .changeSharedSecret sharedSecret sharedCounter =>
    final (changeSharedSecret sharedSecret sharedCounter) w
  | .elsewhere database => { w with database }

def currentName (w : World) : Option String := w.session.currentUser.map UserInfo.username

/-- The form's own flag counts only for the session's own user, the groups of a user who is
logged in can be read, and a client authenticates only where the session's user bears its
name. -/
def KeepsOneUser (c : Config) (w : World) : SessionAction → Prop
  | .logon request form =>
    (acceptedUser c request ⟨w, form⟩ = none ∨ request.faults.selectGroups) →
      form.authenticated → historyWritable request w.session.currentUser →
        form.username = currentName w
  | .login request username _ _ _ _ =>
    request.faults.selectUserInfo ∨ ¬request.faults.selectGroups ∨ findUser w username = none
  | .authenticateAtTokenEndpoint authentication =>
    w.session.currentUser.isSome ∧ authentication.principalName = currentName w
  | _ => True

theorem oneUser_none : OneUser (none, none) := rfl

theorem logon_oneUser {c : Config} {request : HttpRequest} {form : BasicAuthentication} {w : World}
    (h : KeepsOneUser c w (.logon request form)) (hw : OneUser w.identity) :
    OneUser (step c w (.logon request form)).identity := by
  by_cases hunset : acceptedUser c request ⟨w, form⟩ = none ∨ request.faults.selectGroups = true
  · rw [step, authenticate_unset hunset]
    split_ifs with hauth hwritable
    · have hname := h hunset hauth hwritable
      cases huser : w.session.currentUser with
      | none => simp [historyWritable, huser] at hwritable
      | some user =>
        rw [currentName, huser] at hname
        exact congrArg some hname
    · exact oneUser_none
    · exact hw
  · rw [not_or] at hunset
    obtain ⟨user, huser⟩ := Option.ne_none_iff_exists'.mp hunset.1
    obtain ⟨a, hname, hidentity⟩ := authenticate_set huser hunset.2
    rw [step, hidentity]
    split_ifs
    · exact congrArg some hname
    · exact oneUser_none

theorem step_oneUser (c : Config) (w : World) (action : SessionAction)
    (h : KeepsOneUser c w action) (hw : OneUser w.identity) :
    OneUser (step c w action).identity := by
  cases action with
  | logon request form => exact logon_oneUser h hw
  | login request username type provider code message =>
    rw [step, setAuthentication_identity]
    by_cases hselect : request.faults.selectUserInfo = true
    · rw [if_pos hselect]
      exact hw
    rw [if_neg hselect]
    cases hfind : findUser w username with
    | none => exact hw
    | some user =>
      have hgroups : ¬request.faults.selectGroups = true :=
        (h.resolve_left hselect).resolve_right (by simp [hfind])
      simp only [if_neg hgroups]
      exact rfl
  | authenticateAtTokenEndpoint authentication =>
    obtain ⟨huser, hname⟩ := h
    obtain ⟨user, huser⟩ := Option.isSome_iff_exists.mp huser
    rw [currentName, huser] at hname
    change some authentication.principalName = w.session.currentUser.map _
    rw [huser, hname]
    rfl
  | logout request =>
    -- a log-out that throws leaves the identity, and one that returns leaves none
    have hleaves := leaves_logout request w
    cases hrun : Realm.logout request w with
    | ok _ w' =>
      have hreturn : logoutModelAndView request w = invalidate request w' := bind_of_ok hrun
      simp only [step, final, hreturn]
      exact oneUser_none
    | error e w' =>
      rw [final_of_error hrun] at hleaves
      have hthrow : logoutModelAndView request w = .error e w' := bind_of_error hrun
      rw [step, final_of_error hthrow, hleaves]
      exact hw
  | changeSharedSecret sharedSecret sharedCounter =>
    have hsession : getSession w = .ok w.session w := rfl
    rw [step, changeSharedSecret]
    simp only [final, bind_of_ok hsession]
    cases huser : w.session.currentUser with
    | none => exact hw
    | some user =>
      rw [World.identity, huser] at hw
      exact hw
  | elsewhere database => exact hw

/-- Every authenticate leaves an Authentication that was there before or whose user's password
it accepted, unless the request forged the flag; and in every run whose actions keep to one
user, the session's Authentication and UserInfo name the same user. -/
theorem authentication_accepted_and_oneUser (c : Config) :
    (∀ request s, PrincipalAccepted c request s ↔ ¬FlagForged c request s) ∧
    (∀ w actions, OneUser w.identity → Runs.Meets (step c) (KeepsOneUser c) w actions →
      OneUser (Runs.exec (step c) w actions).identity) := by
  refine ⟨principalAccepted_iff c, fun w actions hw h => ?_⟩
  exact Runs.exec_invariant (I := fun w => OneUser w.identity) (step_oneUser c) h hw

def alice : UserInfo := { id := "1", username := "alice", password := "wonder@alice" }

def admin : UserInfo := { id := "2", username := "admin", password := "secret@admin" }

/-- A realm with two users that stores passwords as they are. -/
def plainRealm : Config where
  encode := id
  passwordMatches raw stored := raw = stored
  decoder := .ok
  parseDateTime _ := none
  otpValidate _ _ := .ok true
  captcha := false
  mfa := false
  remeberMe := false

def twoUsers : Database where
  userInfo := ⟨[alice, admin], by decide⟩
  historyLogin := []
  groupMember := []
  passwordPolicy := [{ attempts := 6, expiration := 0 }]

def browser : HttpRequest :=
  { userAgent := some "curl", newSessionId := "s2", loginSessionId := "h1" }

/-- A session of alice, and a form that names admin and sets the flag. -/
def flagged : LogonState where
  world :=
    { database := twoUsers
      session :=
        { id := "s1", currentUser := some alice
          currentAuthentication := some (loginToken alice ["ROLE_USER"]) } }
  authentication :=
    { username := some "admin", password := some "guess", sessionId := some "s1"
      authType := some "basic", authenticated := true }

theorem flagged_logon_becomes_admin :
    ¬PrincipalAccepted plainRealm browser flagged ∧
      ¬OneUser (final (authenticate plainRealm browser) flagged).world.identity := by
  refine ⟨fun h => ?_, by decide⟩
  have hrejected : acceptedUser plainRealm browser flagged = none := by decide
  have hafter := h (.user (.basic flagged.authentication)) (by decide)
  rcases hafter with hbefore | ⟨userInfo, haccepted, -⟩
  · exact absurd hbefore (by decide)
  · exact absurd (hrejected.symm.trans haccepted) (Option.some_ne_none _).symm

/-- A header login of admin, after alice came with her password and left. -/
theorem oneUser_of_logon_logout :
    let visit : BasicAuthentication :=
      { username := some "alice", password := some "wonder", sessionId := some "s1"
        authType := some "basic" }
    OneUser (Runs.exec (step plainRealm) ⟨twoUsers, { id := "s1" }, none⟩
      [.logon browser visit, .logout browser,
        .login browser (some "admin") "HttpHeader" "" "" "success"]).identity := by
  intro visit
  refine (authentication_accepted_and_oneUser plainRealm).2 _ _ rfl ⟨?_, trivial, ?_, trivial⟩
  · intro _ hflag
    cases hflag
  · exact .inr (.inl (by decide))

end MaxKey.Logon
