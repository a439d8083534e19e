import MaxKey.WebContext

namespace MaxKey.Realm
open WebContext JavaException Effects

/-- What the realm and the authentication provider are wired with. The password encoder,
the reciprocal cipher, the date parser and the one-time code check are library code. -/
structure Config where
  encode : String → String
  passwordMatches : String → String → Bool
  decoder : String → Except JavaException String
  parseDateTime : String → Option Int
  otpValidate : UserInfo → String → Except JavaException Bool
  captcha : Bool
  mfa : Bool
  remeberMe : Bool

def PASSWORD_NORMAL : Int := 0
def PASSWORD_EXPIRED : Int := 3
def ACTIVE : Int := 1
def LOCK : Int := 5
def ONLINE : Int := 1
def OFFLINE : Int := 0

/-- Dereferences a value that may be null. -/
def nonNull {α : Type} (a : Option α) : Web α := orThrow nullPointer a

def rawPassword (username password : String) : String := password ++ "@" ++ username

def partAt (parts : List String) (i : ℕ) : Except JavaException String :=
  match parts[i]? with
  | some part => .ok part
  | none => .error arrayIndexOutOfBounds

def substringOf (s : String) (b e : ℕ) : Except JavaException String :=
  match JavaText.substring s b e with
  | some part => .ok part
  | none => .error stringIndexOutOfBounds

/-- The last part that mentions the browser, cut before its first dot. -/
def browserName (token : String) (parts : List String) : Except JavaException String :=
  parts.foldlM (fun browser part =>
    if JavaText.contains part token then
      match JavaText.indexOf ['.'] (JavaText.trim part).toList with
      | some i => substringOf (JavaText.trim part) 0 i
      | none => .error stringIndexOutOfBounds
    else .ok browser) ""

def platformName (parts : List String) : Except JavaException String := do
  let first ← partAt parts 1
  let first ← substringOf first 1 first.toList.length
  let second ← partAt parts 2
  let third ← partAt parts 3
  let third ← if third.toList.length = 0 then .error stringIndexOutOfBounds
    else substringOf third 0 (third.toList.length - 1)
  return JavaText.trim (first ++ " " ++ second ++ " " ++ third)

/-- Browser and platform out of the User-Agent header, as insertLoginHistory reads it. -/
def browserPlatform (userAgent : String) : Except JavaException (String × String) :=
  let mentions (token : String) : Bool :=
    (JavaText.indexOf token.toList userAgent.toList).any (0 < ·)
  if mentions "MSIE" then do
    let parts := JavaText.split ';' userAgent
    return (JavaText.trim (← partAt parts 1), JavaText.trim (← partAt parts 2))
  else if mentions "Trident" then do
    let parts := JavaText.split ';' userAgent
    let browser ← partAt (JavaText.split ')' (← partAt parts 3)) 0
    let platform ← partAt (JavaText.split '(' (← partAt parts 0)) 1
    return ("MSIE/" ++ browser, platform)
  else if mentions "Chrome" then do
    let parts := JavaText.split ' ' userAgent
    return (← browserName "Chrome" parts, ← platformName parts)
  else if mentions "Firefox" then do
    let parts := JavaText.split ' ' userAgent
    return (← browserName "Firefox" parts, ← platformName parts)
  else .ok ("", "")

/-- UPDATE USERINFO SET ... WHERE ID = ? -/
def updateById (id : String) (f : UserInfo → UserInfo) (keep : ∀ u, (f u).id = u.id) : Web Unit :=
  modifyDatabase fun db => { db with userInfo := db.userInfo.update (·.id = id) f keep }

/-- The login log: a row of HISTORY_LOGIN, then the login columns of the user's row. The last login
time of the object itself is read for ID tokens only, and is one of their inputs. -/
def insertLoginHistory (request : HttpRequest) (userInfo : Option UserInfo)
    (type provider code message : String) : Web Unit := do
  modifySession fun s => { s with currentUserSessionId := some request.loginSessionId }
  let userAgent ← nonNull request.userAgent
  let (browser, platform) ← orError (browserPlatform userAgent)
  let userInfo ← nonNull userInfo
  let row : HistoryLogin :=
    { sessionId := request.loginSessionId, uid := userInfo.id
      username := userInfo.username, displayName := userInfo.displayName, loginType := type
      message := message, code := code, provider := provider, sourceIp := request.ipAddress
      browser := browser, platform := platform, application := "Browser"
      loginTime := request.now }
  throwIf request.faults.insertHistoryLogin (dataAccess "HISTORY_LOGIN")
  modifyDatabase fun db => { db with historyLogin := db.historyLogin ++ [row] }
  throwIf request.faults.updateUserInfo (dataAccess "USERINFO")
  updateById userInfo.id (fun u =>
    { u with loginCount := userInfo.loginCount + 1, lastLoginTime := some request.now
             lastLoginIp := request.ipAddress, online := ONLINE }) fun _ => rfl

/-- The login log goes through: the header has the parts the code takes from it, there is a
user, and the database takes both statements. -/
def historyWritable (request : HttpRequest) (userInfo : Option UserInfo) : Bool :=
  request.userAgent.any (fun userAgent => (browserPlatform userAgent).isOk) &&
    userInfo.isSome && !request.faults.insertHistoryLogin && !request.faults.updateUserInfo

/-- An observation that the login log cannot touch stays as it is. -/
theorem leaves_insertLoginHistory {β : Type} {g : World → β} (request : HttpRequest)
    (userInfo : Option UserInfo) (type provider code message : String)
    (hsession : ∀ id, Leaves g (modifySession fun s => { s with currentUserSessionId := id }))
    (hhistory : ∀ row, Leaves g
      (modifyDatabase fun db => { db with historyLogin := db.historyLogin ++ [row] }))
    (hcount : ∀ id count, Leaves g
      (updateById id (fun u =>
        { u with loginCount := count, lastLoginTime := some request.now
                 lastLoginIp := request.ipAddress, online := ONLINE }) fun _ => rfl)) :
    Leaves g (insertLoginHistory request userInfo type provider code message) := by
  unfold insertLoginHistory
  refine leaves_bind (hsession _) fun _ => ?_
  refine leaves_bind (leaves_orThrow _ _) fun _ => ?_
  refine leaves_bind (leaves_orError _) fun _ => ?_
  refine leaves_bind (leaves_orThrow _ _) fun _ => ?_
  refine leaves_bind (leaves_throwIf _ _) fun _ => ?_
  refine leaves_bind (hhistory _) fun _ => ?_
  refine leaves_bind (leaves_throwIf _ _) fun _ => ?_
  exact hcount _ _

theorem insertLoginHistory_identity (request : HttpRequest) (userInfo : Option UserInfo)
    (type provider code message : String) :
    Leaves World.identity (insertLoginHistory request userInfo type provider code message) :=
  leaves_insertLoginHistory _ _ _ _ _ _ (fun _ => leaves_modify fun _ => rfl)
    (fun _ => leaves_modify fun _ => rfl) fun _ _ => leaves_modify fun _ => rfl

/-- The login log goes through exactly when it is writable. -/
theorem insertLoginHistory_returns (request : HttpRequest) (userInfo : Option UserInfo)
    (type provider code message : String) (w : World) :
    (∃ w', insertLoginHistory request userInfo type provider code message w = .ok () w') ↔
      historyWritable request userInfo := by
  cases hua : request.userAgent with
  | none => simp [insertLoginHistory, historyWritable, bind_apply, modifySession, nonNull, orThrow, hua]
  | some userAgent =>
    cases hb : browserPlatform userAgent with
    | error e =>
      simp [insertLoginHistory, historyWritable, bind_apply, modifySession, nonNull, orThrow, orError,
        hua, hb, Except.isOk, Except.toBool]
    | ok parts =>
      cases userInfo with
      | none =>
        simp [insertLoginHistory, historyWritable, bind_apply, modifySession, nonNull, orThrow, orError,
          hua, hb]
      | some user =>
        cases hi : request.faults.insertHistoryLogin <;>
          cases hu : request.faults.updateUserInfo <;>
          simp [insertLoginHistory, historyWritable, bind_apply, modifySession, modifyDatabase,
            updateById, nonNull, orThrow, orError, throwIf, hua, hb, hi, hu, Except.isOk, Except.toBool]

/-- The first row of USERINFO with this user name. -/
def findUser (w : World) (username : Option String) : Option UserInfo :=
  (w.database.userInfo.select fun u => some u.username = username).head?

def loadUserInfo (request : HttpRequest) (username : Option String) : Web (Option UserInfo) := do
  throwIf request.faults.selectUserInfo (dataAccess "USERINFO")
  return findUser (← get) username

theorem findUser_eq_some {w : World} {username : Option String} {u : UserInfo}
    (h : findUser w username = some u) :
    u ∈ w.database.userInfo.rows ∧ some u.username = username := by
  have hmem := List.mem_of_mem_head? h
  rwa [KeyedTable.mem_select, decide_eq_true_eq] at hmem

theorem leaves_loadUserInfo {β : Type} (g : World → β) (request : HttpRequest)
    (username : Option String) : Leaves g (loadUserInfo request username) :=
  leaves_bind (leaves_throwIf _ _) fun _ => leaves_bind leaves_get fun _ => leaves_pure _

theorem loadUserInfo_throws {request : HttpRequest} (h : request.faults.selectUserInfo)
    (username : Option String) (w : World) :
    loadUserInfo request username w = .error (dataAccess "USERINFO") w :=
  bind_of_error (throwIf_of_true h _ _)

theorem loadUserInfo_returns {request : HttpRequest} (h : ¬request.faults.selectUserInfo)
    (username : Option String) (w : World) :
    loadUserInfo request username w = .ok (findUser w username) w :=
  bind_of_ok (throwIf_of_false h _ _)

theorem loadUserInfo_eq_ok {request : HttpRequest} {username : Option String} {w w' : World}
    {userInfo : Option UserInfo} (h : loadUserInfo request username w = .ok userInfo w') :
    userInfo = findUser w username := by
  by_cases hf : request.faults.selectUserInfo = true
  · rw [loadUserInfo_throws hf] at h
    cases h
  · rw [loadUserInfo_returns hf] at h
    cases h
    rfl

def getPasswordPolicy (request : HttpRequest) : Web PasswordPolicy := do
  match (← get).cachedPasswordPolicy with
  | some policy => return policy
  | none =>
    throwIf request.faults.selectPasswordPolicy (dataAccess "PASSWORD_POLICY")
    match (← get).database.passwordPolicy with
    | [policy] =>
      modify fun w => { w with cachedPasswordPolicy := some policy }
      return policy
    | _ => throw (dataAccess "PASSWORD_POLICY")

/-- The policy is cached, and nothing else is changed. -/
theorem leaves_getPasswordPolicy_of {γ : Type} {g : World → γ}
    (hcache : ∀ w policy, g { w with cachedPasswordPolicy := some policy } = g w)
    (request : HttpRequest) : Leaves g (getPasswordPolicy request) := by
  refine leaves_bind leaves_get fun w => ?_
  split
  · exact leaves_pure _
  · refine leaves_bind (leaves_throwIf _ _) fun _ => leaves_bind leaves_get fun w => ?_
    split
    · exact leaves_bind (leaves_modify fun w => hcache w _) fun _ => leaves_pure _
    · exact leaves_throw _

theorem leaves_getPasswordPolicy (request : HttpRequest) :
    Leaves World.identity (getPasswordPolicy request) :=
  leaves_getPasswordPolicy_of (fun _ _ => rfl) request

/-- Errors of the update are swallowed. -/
def lockUser (request : HttpRequest) (userInfo : UserInfo) : Web Unit :=
  onlyIf (userInfo.id ≠ "" ∧ ¬request.faults.updateUserInfo) do
    updateById userInfo.id (fun u => { u with isLocked := LOCK }) fun _ => rfl

theorem leaves_lockUser (request : HttpRequest) (userInfo : UserInfo) :
    Leaves World.identity (lockUser request userInfo) :=
  leaves_onlyIf _ (leaves_modify fun _ => rfl)

/-- Nothing in the repository calls this. -/
def unlockUser (request : HttpRequest) (userInfo : UserInfo) : Web Unit :=
  onlyIf (userInfo.id ≠ "" ∧ ¬request.faults.updateUserInfo) do
    updateById userInfo.id (fun u => { u with isLocked := ACTIVE }) fun _ => rfl

/-- Nothing in the repository calls this either. -/
def resetBadPasswordCountAndLockout (request : HttpRequest) (userInfo : UserInfo) : Web Unit :=
  onlyIf (userInfo.id ≠ "" ∧ ¬request.faults.updateUserInfo) do
    updateById userInfo.id (fun u => { u with badPasswordCount := 0, isLocked := ACTIVE })
      fun _ => rfl

/-- Errors of the update and of the login log are swallowed. -/
def setBadPasswordCount (request : HttpRequest) (userInfo : UserInfo) : Web Unit :=
  onlyIf (userInfo.id ≠ "" ∧ ¬request.faults.updateUserInfo) do
    let badPasswordCount := userInfo.badPasswordCount + 1
    updateById userInfo.id (fun u => { u with badPasswordCount }) fun _ => rfl
    tryCatch (insertLoginHistory request (some { userInfo with badPasswordCount })
      "Local Login" "" "xe00000004" "password error") fun _ => pure ()

theorem leaves_setBadPasswordCount (request : HttpRequest) (userInfo : UserInfo) :
    Leaves World.identity (setBadPasswordCount request userInfo) := by
  refine leaves_onlyIf _ (leaves_bind (leaves_modify fun _ => rfl) fun _ => ?_)
  exact leaves_tryCatch (insertLoginHistory_identity _ _ _ _ _ _) fun _ => leaves_pure _

def setPasswordSetType (value : Option Int) : Web Unit :=
  modifySession fun s => { s with currentLoginUserPasswordSetType := value }

/-- Too many failed attempts lock the user and refuse the login. -/
def attemptsValid (request : HttpRequest) (policy : PasswordPolicy) (userInfo : UserInfo) :
    Web Unit :=
  onlyIf (userInfo.badPasswordCount ≥ policy.attempts) do
    lockUser request userInfo
    throw (badCredentials ("login.error.attempts " ++ toString userInfo.badPasswordCount))

/-- An expired password is only marked in the session. -/
def expirationValid (c : Config) (request : HttpRequest) (policy : PasswordPolicy)
    (userInfo : UserInfo) : Web Unit :=
  onlyIf (policy.expiration > 0) do
    let lastSet ← nonNull userInfo.passwordLastSetTime
    let lastSet ← orError (substringOf lastSet 0 19)
    match c.parseDateTime lastSet with
    | none => throw (illegalArgument lastSet)
    | some time =>
      onlyIf ((request.now - time).tdiv 86400000 > policy.expiration)
        (setPasswordSetType (some PASSWORD_EXPIRED))

def passwordPolicyValid (c : Config) (request : HttpRequest) (userInfo : UserInfo) :
    Web Unit := do
  let policy ← getPasswordPolicy request
  attemptsValid request policy userInfo
  if userInfo.passwordSetType ≠ PASSWORD_NORMAL then
    setPasswordSetType (some userInfo.passwordSetType)
  else
    setPasswordSetType (some PASSWORD_NORMAL)
    expirationValid c request policy userInfo

theorem leaves_setPasswordSetType (value : Option Int) :
    Leaves World.identity (setPasswordSetType value) := leaves_modify fun _ => rfl

theorem leaves_expirationValid (c : Config) (request : HttpRequest) (policy : PasswordPolicy)
    (userInfo : UserInfo) :
    Leaves World.identity (expirationValid c request policy userInfo) := by
  refine leaves_onlyIf _ (leaves_bind (leaves_orThrow _ _) fun lastSet => ?_)
  refine leaves_bind (leaves_orError _) fun lastSet => ?_
  split
  · exact leaves_throw _
  · exact leaves_onlyIf _ (leaves_setPasswordSetType _)

theorem leaves_passwordPolicyValid (c : Config) (request : HttpRequest) (userInfo : UserInfo) :
    Leaves World.identity (passwordPolicyValid c request userInfo) := by
  refine leaves_bind (leaves_getPasswordPolicy request) fun policy => leaves_bind ?_ fun _ => ?_
  · exact leaves_onlyIf _ (leaves_bind (leaves_lockUser _ _) fun _ => leaves_throw _)
  · refine leaves_ite (leaves_setPasswordSetType _) ?_
    exact leaves_bind (leaves_setPasswordSetType _) fun _ => leaves_expirationValid _ _ _ _

def passwordMatches (c : Config) (request : HttpRequest) (userInfo : UserInfo)
    (password : String) : Web Unit :=
  onlyIf (¬c.passwordMatches (rawPassword userInfo.username password) userInfo.password) do
    setBadPasswordCount request userInfo
    throw (badCredentials "login.error.password")

theorem leaves_passwordMatches (c : Config) (request : HttpRequest) (userInfo : UserInfo)
    (password : String) : Leaves World.identity (passwordMatches c request userInfo password) :=
  leaves_onlyIf _ (leaves_bind (leaves_setBadPasswordCount _ _) fun _ => leaves_throw _)

def authoritiesOf (w : World) (userInfo : UserInfo) : List String :=
  "ROLE_USER" :: ((w.database.groupMember.filter (·.1 = userInfo.id)).map (·.2)).dedup

def grantAuthority (request : HttpRequest) (userInfo : UserInfo) : Web (List String) := do
  throwIf request.faults.selectGroups (dataAccess "GROUPS")
  return authoritiesOf (← get) userInfo

theorem leaves_grantAuthority {β : Type} (g : World → β) (request : HttpRequest)
    (userInfo : UserInfo) : Leaves g (grantAuthority request userInfo) :=
  leaves_bind (leaves_throwIf _ _) fun _ => leaves_bind leaves_get fun _ => leaves_pure _

theorem grantAuthority_throws {request : HttpRequest} (h : request.faults.selectGroups)
    (userInfo : UserInfo) (w : World) :
    grantAuthority request userInfo w = .error (dataAccess "GROUPS") w :=
  bind_of_error (throwIf_of_true h _ _)

theorem grantAuthority_returns {request : HttpRequest} (h : ¬request.faults.selectGroups)
    (userInfo : UserInfo) (w : World) :
    grantAuthority request userInfo w = .ok (authoritiesOf w userInfo) w :=
  bind_of_ok (throwIf_of_false h _ _)

/-- The authentication that a login service puts into the session. -/
def loginToken (userInfo : UserInfo) (authorities : List String) : Authentication :=
  .user (.token
    { principal := .basic { username := some userInfo.username, authenticated := true }
      credentials := some "PASSWORD", authorities := authorities, authenticated := true })

/-- Logs a user in without a password, for the login services that verified the user
by other means. -/
def setAuthentication (request : HttpRequest) (username : Option String)
    (type provider code message : String) : Web Bool := do
  match ← loadUserInfo request username with
  | none => return true
  | some loaded =>
    setUserInfo (some loaded)
    let authorities ← grantAuthority request loaded
    WebContext.setAuthentication (loginToken loaded authorities)
    setUserInfo (some loaded)
    insertLoginHistory request (some loaded) type provider code message
    return true

section SetAuthentication

variable {request : HttpRequest} {w : World} {username : Option String} {u : UserInfo}
  (type provider code message : String)

theorem setAuthentication_of_none (hf : ¬request.faults.selectUserInfo = true)
    (hfind : findUser w username = none) :
    setAuthentication request username type provider code message w = .ok true w := by
  have hload := loadUserInfo_returns hf username w
  rw [hfind] at hload
  exact bind_of_ok hload

/-- The user of the session is set before the groups are read. -/
theorem setAuthentication_of_some (hf : ¬request.faults.selectUserInfo = true)
    (hfind : findUser w username = some u) :
    setAuthentication request username type provider code message w =
      (do let authorities ← grantAuthority request u
          WebContext.setAuthentication (loginToken u authorities)
          setUserInfo (some u)
          insertLoginHistory request (some u) type provider code message
          return true : Web Bool) { w with session := { w.session with currentUser := some u } } := by
  have hload := loadUserInfo_returns hf username w
  rw [hfind] at hload
  exact bind_of_ok hload

/-- Once the groups are read, only the login log is left. -/
theorem setAuthentication_of_groups (hf : ¬request.faults.selectUserInfo = true)
    (hfind : findUser w username = some u) (hg : ¬request.faults.selectGroups = true) :
    setAuthentication request username type provider code message w =
      (insertLoginHistory request (some u) type provider code message >>=
        fun _ => pure true : Web Bool)
        { w with session := { w.session with
          currentUser := some u
          currentAuthentication := some (loginToken u (authoritiesOf w u)) } } := by
  rw [setAuthentication_of_some type provider code message hf hfind,
    bind_of_ok (grantAuthority_returns hg u _)]
  rfl

end SetAuthentication

/-- The session's user is set before the groups are read, its Authentication only after. -/
theorem setAuthentication_identity (request : HttpRequest) (username : Option String)
    (type provider code message : String) (w : World) :
    (final (setAuthentication request username type provider code message) w).identity =
      if request.faults.selectUserInfo then w.identity else
      match findUser w username with
      | none => w.identity
      | some u =>
        if request.faults.selectGroups then (some u, w.session.currentAuthentication)
        else (some u, some (loginToken u (authoritiesOf w u))) := by
  by_cases hf : request.faults.selectUserInfo = true
  · rw [if_pos hf, setAuthentication, final_of_error (bind_of_error (loadUserInfo_throws hf _ _))]
  rw [if_neg hf]
  cases hfind : findUser w username with
  | none => rw [final_of_ok (setAuthentication_of_none type provider code message hf hfind)]
  | some u =>
    by_cases hg : request.faults.selectGroups = true
    · -- the user stays when the groups cannot be read
      have hrun := setAuthentication_of_some type provider code message hf hfind
      simp only [if_pos hg]
      rw [final_of_error (hrun.trans (bind_of_error (grantAuthority_throws hg u _)))]
      rfl
    · have hrest := setAuthentication_of_groups type provider code message hf hfind hg
      have hleaves : Leaves World.identity
          (insertLoginHistory request (some u) type provider code message >>=
            fun _ => (pure true : Web Bool)) :=
        leaves_bind (insertLoginHistory_identity _ _ _ _ _ _) fun _ => leaves_pure _
      have hfinal := hleaves { w with session := { w.session with
        currentUser := some u
        currentAuthentication := some (loginToken u (authoritiesOf w u)) } }
      simp only [if_neg hg]
      simp only [final] at hfinal ⊢
      rw [hrest]
      exact hfinal

/-- setAuthentication only ever returns true: for a user that it logs in as for an unknown one. -/
theorem setAuthentication_eq_ok {request : HttpRequest} {w : World} {username : Option String}
    {type provider code message : String} {b : Bool} :
    (∃ w', setAuthentication request username type provider code message w = .ok b w') ↔
      b = true ∧ ¬request.faults.selectUserInfo ∧ ∀ user ∈ findUser w username,
        ¬request.faults.selectGroups ∧ historyWritable request (some user) := by
  by_cases hf : request.faults.selectUserInfo = true
  · have hthrow : setAuthentication request username type provider code message w =
        .error (dataAccess "USERINFO") w := bind_of_error (loadUserInfo_throws hf username w)
    refine iff_of_false ?_ fun h => h.2.1 hf
    rintro ⟨w', h⟩
    cases hthrow.symm.trans h
  cases hfind : findUser w username with
  | none =>
    rw [setAuthentication_of_none type provider code message hf hfind]
    constructor
    · intro ⟨w', h⟩
      cases h
      exact ⟨rfl, hf, by simp⟩
    · intro ⟨htrue, _⟩
      exact ⟨w, by rw [htrue]⟩
  | some u =>
    by_cases hg : request.faults.selectGroups = true
    · have hthrow := (setAuthentication_of_some type provider code message hf hfind).trans
        (bind_of_error (grantAuthority_throws hg u _))
      refine iff_of_false ?_ fun h => (h.2.2 u rfl).1 hg
      intro ⟨w', h⟩
      cases hthrow.symm.trans h
    · have hreturns := insertLoginHistory_returns request (some u) type provider code message
        { w with session := { w.session with
          currentUser := some u
          currentAuthentication := some (loginToken u (authoritiesOf w u)) } }
      -- what is left is the login log, whose failure is thrown on
      rw [setAuthentication_of_groups type provider code message hf hfind hg]
      simp only [hf, hg, Option.mem_some_iff, forall_eq', Bool.false_eq_true, not_false_eq_true,
        true_and, ← hreturns]
      constructor
      · intro ⟨w', h⟩
        obtain ⟨_, w₃, hlog, hpure⟩ := bind_eq_ok.mp h
        cases hpure
        exact ⟨rfl, w', hlog⟩
      · intro ⟨htrue, w', hlog⟩
        rw [htrue]
        exact ⟨w', bind_of_ok hlog⟩

/-- The ID of the account that a user name stands for. -/
def ownerOf (w : World) (username : Option String) : Option String :=
  (findUser w username).map UserInfo.id

/-- A statement that changes neither ID nor USERNAME of any row keeps every owner. -/
theorem leaves_updateById_ownerOf (id : String) (f : UserInfo → UserInfo)
    (keep : ∀ u, (f u).id = u.id) (name : ∀ u, (f u).username = u.username) :
    Leaves ownerOf (updateById id f keep) := by
  refine leaves_modify fun w => funext fun username => ?_
  simp only [ownerOf, findUser, KeyedTable.select, KeyedTable.update, List.filter_map,
    List.head?_map, Option.map_map]
  have hid : (UserInfo.id ∘ fun u : UserInfo => if decide (u.id = id) then f u else u) =
      UserInfo.id := by
    funext u
    by_cases h : u.id = id <;> simp [h, keep]
  have hname : ((fun u : UserInfo => decide (some u.username = username)) ∘
      fun u : UserInfo => if decide (u.id = id) then f u else u) =
        fun u => decide (some u.username = username) := by
    funext u
    by_cases h : u.id = id <;> simp [h, name]
  rw [hid, hname]

theorem setAuthentication_ownerOf (request : HttpRequest) (username : Option String)
    (type provider code message : String) :
    Leaves ownerOf (setAuthentication request username type provider code message) := by
  refine leaves_bind (leaves_loadUserInfo _ _ _) fun loaded => ?_
  cases loaded with
  | none => exact leaves_pure _
  | some u =>
    refine leaves_bind (leaves_modify fun _ => rfl) fun _ => ?_
    refine leaves_bind (leaves_grantAuthority _ _ _) fun _ => ?_
    refine leaves_bind (leaves_modify fun _ => rfl) fun _ => ?_
    refine leaves_bind (leaves_modify fun _ => rfl) fun _ => ?_
    refine leaves_bind (leaves_insertLoginHistory _ _ _ _ _ _ (fun _ => leaves_modify fun _ => rfl)
      (fun _ => leaves_modify fun _ => rfl) fun _ _ => ?_) fun _ => leaves_pure _
    exact leaves_updateById_ownerOf _ _ _ fun _ => rfl

/-- The remember-me cookie is removed with its stored record, and the login log is closed. -/
def closeLoginHistory (request : HttpRequest) : Web Unit := do
  throwIf request.faults.removeRemeberMe (dataAccess "REMEMBER_ME")
  throwIf request.faults.updateHistoryLogin (dataAccess "HISTORY_LOGIN")

def logout (request : HttpRequest) : Web Unit := do
  let session ← getSession
  match session.currentUser with
  | none => return ()
  | some userInfo =>
    onlyIf session.currentUserSessionId.isSome (closeLoginHistory request)
    throwIf request.faults.updateUserInfo (dataAccess "USERINFO")
    updateById userInfo.id (fun u => { u with online := OFFLINE }) fun _ => rfl

theorem leaves_logout (request : HttpRequest) : Leaves World.identity (logout request) := by
  refine leaves_bind (leaves_bind leaves_get fun _ => leaves_pure _) fun session => ?_
  split
  · exact leaves_pure _
  · refine leaves_bind (leaves_onlyIf _ ?_) fun _ => ?_
    · exact leaves_bind (leaves_throwIf _ _) fun _ => leaves_throwIf _ _
    · exact leaves_bind (leaves_throwIf _ _) fun _ => leaves_modify fun _ => rfl

end MaxKey.Realm
