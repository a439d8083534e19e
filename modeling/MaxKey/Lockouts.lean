import MaxKey.Logon

namespace MaxKey.Lockouts
open WebContext Realm Logon JavaException Effects

/-- The checks of doInternalAuthenticate that come before the password policy. -/
def precheck (c : Config) (request : HttpRequest) (auth : BasicAuthentication) : Web UserInfo := do
  sessionValid auth.sessionId
  authTypeValid auth.authType
  captchaValid c auth.captcha auth.authType
  emptyPasswordValid auth.password
  emptyUsernameValid auth.username
  let userInfo ← loadUserInfo request auth.username
  let userInfo ← userinfoValid request userInfo auth.password
  tftcaptchaValid c auth.otpCaptcha auth.authType userInfo
  return userInfo

/-- The policy that the realm decides by: the one it keeps, else the single row of the table. -/
def policyOf (w : World) : Option PasswordPolicy :=
  match w.cachedPasswordPolicy with
  | some policy => some policy
  | none =>
    match w.database.passwordPolicy with
    | [policy] => some policy
    | _ => none

/-- ID and BADPASSWORDCOUNT of the record that a user name stands for. -/
def standing (username : Option String) (w : World) : Option (String × Int) :=
  (findUser w username).map fun u => (u.id, u.badPasswordCount)

/-- All that decides whether too many attempts have failed. -/
def account (username : Option String) (w : World) :
    Option (String × Int) × Option PasswordPolicy := (standing username w, policyOf w)

theorem findUser_updateById (id : String) (f : UserInfo → UserInfo) (keep : ∀ u, (f u).id = u.id)
    (name : ∀ u, (f u).username = u.username) (username : Option String) (w : World) :
    findUser (final (updateById id f keep) w) username =
      (findUser w username).map fun u => if u.id = id then f u else u := by
  have hname : ((fun u : UserInfo => decide (some u.username = username)) ∘
      fun u : UserInfo => if u.id = id then f u else u) =
        fun u => decide (some u.username = username) := by
    funext u
    by_cases h : u.id = id <;> simp [h, name]
  change ((KeyedTable.update _ _ f keep).select _).head? = _
  simp only [findUser, KeyedTable.select, KeyedTable.update, List.filter_map, List.head?_map,
    decide_eq_true_eq, hname]

/-- A statement that sets neither USERNAME nor BADPASSWORDCOUNT does not touch the account. -/
theorem leaves_updateById_account (username : Option String) (id : String)
    (f : UserInfo → UserInfo) (keep : ∀ u, (f u).id = u.id)
    (name : ∀ u, (f u).username = u.username)
    (count : ∀ u, (f u).badPasswordCount = u.badPasswordCount) :
    Leaves (account username) (updateById id f keep) := by
  intro w
  have hpolicy : policyOf (final (updateById id f keep) w) = policyOf w := rfl
  have hsame : ((fun u : UserInfo => (u.id, u.badPasswordCount)) ∘
      fun u => if u.id = id then f u else u) = fun u => (u.id, u.badPasswordCount) := by
    funext u
    by_cases h : u.id = id
    · simp [h, keep, count]
    · simp [h]
  unfold account standing
  rw [findUser_updateById id f keep name, hpolicy, Option.map_map, hsame]

theorem leaves_modifySession_account (username : Option String) (f : HttpSession → HttpSession) :
    Leaves (account username) (modifySession f) := leaves_modify fun _ => rfl

theorem leaves_insertLoginHistory_account (username : Option String) (request : HttpRequest)
    (userInfo : Option UserInfo) (type provider code message : String) :
    Leaves (account username)
      (insertLoginHistory request userInfo type provider code message) := by
  apply leaves_insertLoginHistory
  · intro id
    exact leaves_modifySession_account username _
  · intro row
    exact leaves_modify fun _ => rfl
  · intro id count
    exact leaves_updateById_account username id _ _ (fun _ => rfl) fun _ => rfl

theorem leaves_getPasswordPolicy_account (username : Option String) (request : HttpRequest) :
    Leaves (account username) (getPasswordPolicy request) := by
  intro w
  cases hcached : w.cachedPasswordPolicy with
  | some policy =>
    have hrun : getPasswordPolicy request w = .ok policy w := by
      rw [getPasswordPolicy, bind_of_ok (get_apply w), hcached]
      rfl
    rw [final_of_ok hrun]
  | none =>
    by_cases hf : request.faults.selectPasswordPolicy = true
    · have hrun : getPasswordPolicy request w = .error (dataAccess "PASSWORD_POLICY") w := by
        rw [getPasswordPolicy, bind_of_ok (get_apply w), hcached]
        exact bind_of_error (throwIf_of_true hf _ _)
      rw [final_of_error hrun]
    · have hread := throwIf_of_false hf (dataAccess "PASSWORD_POLICY") w
      rcases hrows : w.database.passwordPolicy with _ | ⟨policy, _ | ⟨other, rows⟩⟩
      all_goals
        simp only [final, getPasswordPolicy, bind_apply, get_apply, hcached, hread, hrows,
          throw_apply, modify_apply, pure_apply]
      simp only [account, standing, policyOf, hcached, hrows, findUser]

/-- The policy is read where there is one, unless it has to be read first and cannot be. -/
def policyReadable (request : HttpRequest) (w : World) : Prop :=
  w.cachedPasswordPolicy.isSome ∨ ¬request.faults.selectPasswordPolicy

instance (request : HttpRequest) (w : World) : Decidable (policyReadable request w) :=
  inferInstanceAs (Decidable (_ ∨ _))

theorem getPasswordPolicy_returns {request : HttpRequest} {w : World} {policy : PasswordPolicy}
    (hpolicy : policyOf w = some policy) (hread : policyReadable request w) :
    ∃ w', getPasswordPolicy request w = .ok policy w' := by
  unfold policyOf at hpolicy
  cases hcached : w.cachedPasswordPolicy with
  | some kept =>
    rw [hcached] at hpolicy
    cases hpolicy
    refine ⟨w, ?_⟩
    rw [getPasswordPolicy, bind_of_ok (get_apply w), hcached]
    rfl
  | none =>
    rw [hcached] at hpolicy
    have hf : ¬request.faults.selectPasswordPolicy = true := by
      refine hread.resolve_left ?_
      simp [hcached]
    have hrow : w.database.passwordPolicy = [policy] := by
      rcases hrows : w.database.passwordPolicy with _ | ⟨row, _ | ⟨other, rows⟩⟩
      all_goals simp [hrows] at hpolicy
      rw [hpolicy]
    refine ⟨{ w with cachedPasswordPolicy := some policy }, ?_⟩
    rw [getPasswordPolicy, bind_of_ok (get_apply w), hcached]
    refine (bind_of_ok (throwIf_of_false hf _ _)).trans ?_
    rw [bind_of_ok (get_apply w), hrow]
    rfl

theorem getPasswordPolicy_throws {request : HttpRequest} {w : World}
    (hread : ¬policyReadable request w) :
    getPasswordPolicy request w = .error (dataAccess "PASSWORD_POLICY") w := by
  unfold policyReadable at hread
  rw [not_or, not_not] at hread
  have hcached : w.cachedPasswordPolicy = none := by simpa using hread.1
  rw [getPasswordPolicy, bind_of_ok (get_apply w), hcached]
  exact bind_of_error (throwIf_of_true hread.2 _ _)

theorem leaves_attemptsValid_account (username : Option String) (request : HttpRequest)
    (policy : PasswordPolicy) (userInfo : UserInfo) :
    Leaves (account username) (attemptsValid request policy userInfo) := by
  refine leaves_onlyIf _ (leaves_bind (leaves_onlyIf _ ?_) fun _ => leaves_throw _)
  exact leaves_updateById_account username _ _ _ (fun _ => rfl) fun _ => rfl

theorem leaves_passwordPolicyValid_account (username : Option String) (c : Config)
    (request : HttpRequest) (userInfo : UserInfo) :
    Leaves (account username) (passwordPolicyValid c request userInfo) := by
  refine leaves_bind (leaves_getPasswordPolicy_account _ _) fun policy => ?_
  refine leaves_bind (leaves_attemptsValid_account _ _ _ _) fun _ => ?_
  refine leaves_ite (leaves_modifySession_account _ _) ?_
  refine leaves_bind (leaves_modifySession_account _ _) fun _ => ?_
  refine leaves_onlyIf _ (leaves_bind (leaves_orThrow _ _) fun lastSet => ?_)
  refine leaves_bind (leaves_orError _) fun lastSet => ?_
  split
  · exact leaves_throw _
  · exact leaves_onlyIf _ (leaves_modifySession_account _ _)

theorem leaves_precheck_account (username : Option String) (c : Config) (request : HttpRequest)
    (auth : BasicAuthentication) : Leaves (account username) (precheck c request auth) := by
  refine leaves_bind (leaves_sessionValid _ _) fun _ => leaves_bind (leaves_throwIf _ _) fun _ => ?_
  refine leaves_bind (leaves_captchaValid _ _ _ _) fun _ => ?_
  refine leaves_bind (leaves_throwIf _ _) fun _ => leaves_bind (leaves_throwIf _ _) fun _ => ?_
  refine leaves_bind (leaves_loadUserInfo _ _ _) fun userInfo => ?_
  refine leaves_bind (leaves_userinfoValid _ _ _ ?_) fun userInfo => ?_
  · exact leaves_insertLoginHistory_account username request
  exact leaves_bind (leaves_tftcaptchaValid _ _ _ _ _) fun _ => leaves_pure _

/-- The row that the user name stands for is read as the user to check. -/
theorem triple_userinfoValid (request : HttpRequest) (password username : Option String)
    (w : World) (loaded : Option UserInfo) :
    Triple (fun v => v = w ∧ loaded = findUser w username) (userinfoValid request loaded password)
      (fun u v => v = w ∧ findUser w username = some u) fun _ => True := by
  cases loaded with
  | some loaded => exact triple_pure fun v hv => ⟨hv.1, hv.2.symm⟩
  | none =>
    refine triple_bind (M := fun _ _ => True) ?_ fun _ => triple_throw fun _ _ => trivial
    intro v _
    cases insertLoginHistory request (some _) "Local Login" "" "login.error.username"
      "user not exist" v <;> trivial

/-- Up to the password policy a login that goes on has read the record and written nothing. -/
theorem precheck_returns {c : Config} {request : HttpRequest} {auth : BasicAuthentication}
    {userInfo : UserInfo} {w w' : World}
    (h : precheck c request auth w = .ok userInfo w') :
    w' = w ∧ findUser w auth.username = some userInfo := by
  have hreads : ∀ {α : Type} {pre : World → Prop} {x : Web α}, Leaves id x →
      Triple pre x (fun _ => pre) fun _ => True := by
    intro α pre x hx
    exact triple_of_reads hx fun _ _ => trivial
  have htriple : Triple (fun v => v = w) (precheck c request auth)
      (fun u v => v = w ∧ findUser w auth.username = some u) fun _ => True := by
    apply triple_bind (hreads (leaves_sessionValid _ _))
    intro _
    apply triple_bind (hreads (leaves_throwIf _ _))
    intro _
    apply triple_bind (hreads (leaves_captchaValid _ _ _ _))
    intro _
    apply triple_bind (hreads (leaves_throwIf _ _))
    intro _
    apply triple_bind (hreads (leaves_throwIf _ _))
    intro _
    apply triple_bind (M := fun loaded v => v = w ∧ loaded = findUser w auth.username)
    · apply triple_bind (hreads (leaves_throwIf _ _))
      intro _
      apply triple_bind (M := fun v v' => v = w ∧ v' = w)
      · exact triple_get fun _ h => ⟨h, h⟩
      · intro v
        apply triple_pure
        intro v' hv
        rw [hv.1]
        exact ⟨hv.2, rfl⟩
    intro loaded
    apply triple_bind (triple_userinfoValid _ _ _ _ _)
    intro u
    apply triple_bind (hreads (leaves_tftcaptchaValid _ _ _ _ _))
    intro _
    exact triple_pure fun _ hv => hv
  have hrun := htriple w rfl
  rw [h] at hrun
  exact hrun

/-- What passwordPolicyValid throws against a user who failed too often, and nobody else. -/
def refuses {α : Type} : Except JavaException α → Bool
  | .error e => e.isAuthenticationException
  | .ok _ => false

theorem passwordPolicyValid_of_unreadable {c : Config} {request : HttpRequest}
    {userInfo : UserInfo} {w : World} (hread : ¬policyReadable request w) :
    passwordPolicyValid c request userInfo w = .error (dataAccess "PASSWORD_POLICY") w :=
  bind_of_error (getPasswordPolicy_throws hread)

theorem expirationValid_throws {c : Config} {request : HttpRequest} {policy : PasswordPolicy}
    {userInfo : UserInfo} {w w' : World} {e : JavaException}
    (h : expirationValid c request policy userInfo w = .error e w') :
    e.isAuthenticationException = false := by
  unfold expirationValid onlyIf at h
  split_ifs at h with hexpires
  · rcases bind_eq_error.mp h with hnull | ⟨lastSet, w₁, -, h⟩
    · cases hset : userInfo.passwordLastSetTime with
      | none =>
        rw [hset] at hnull
        cases hnull
        rfl
      | some lastSet =>
        rw [hset] at hnull
        cases hnull
    rcases bind_eq_error.mp h with hshort | ⟨day, w₂, -, h⟩
    · cases hcut : substringOf lastSet 0 19 with
      | ok day =>
        rw [hcut] at hshort
        cases hshort
      | error e' =>
        rw [hcut] at hshort
        cases hshort
        unfold substringOf at hcut
        split at hcut <;> cases hcut
        rfl
    · cases htime : c.parseDateTime day with
      | none =>
        rw [htime] at h
        cases h
        rfl
      | some time =>
        rw [htime] at h
        simp only at h
        split_ifs at h <;> cases h
  · cases h

/-- A readable policy refuses exactly the users whose count has come up to its attempts. -/
theorem passwordPolicyValid_refuses_iff (c : Config) {request : HttpRequest}
    (userInfo : UserInfo) {w : World} {policy : PasswordPolicy}
    (hpolicy : policyOf w = some policy) (hread : policyReadable request w) :
    refuses (outcome (passwordPolicyValid c request userInfo) w) ↔
      policy.attempts ≤ userInfo.badPasswordCount := by
  obtain ⟨w₁, hget⟩ := getPasswordPolicy_returns hpolicy hread
  have hstart : outcome (passwordPolicyValid c request userInfo) w =
      outcome (do
        attemptsValid request policy userInfo
        if userInfo.passwordSetType ≠ PASSWORD_NORMAL then
          setPasswordSetType (some userInfo.passwordSetType)
        else
          setPasswordSetType (some PASSWORD_NORMAL)
          expirationValid c request policy userInfo) w₁ := by
    unfold outcome
    rw [passwordPolicyValid, bind_of_ok hget]
  by_cases hcount : policy.attempts ≤ userInfo.badPasswordCount
  · refine iff_of_true ?_ hcount
    -- the user is locked on the way to the exception
    have hthrow : ∃ w₂, attemptsValid request policy userInfo w₁ = .error (badCredentials
        ("login.error.attempts " ++ toString userInfo.badPasswordCount)) w₂ := by
      unfold attemptsValid
      rw [onlyIf, if_pos hcount]
      unfold lockUser onlyIf
      split_ifs
      · exact ⟨_, rfl⟩
      · exact ⟨_, rfl⟩
    obtain ⟨w₂, hthrow⟩ := hthrow
    rw [hstart]
    unfold outcome
    rw [bind_of_error hthrow]
    rfl
  · refine iff_of_false ?_ hcount
    have hgo : attemptsValid request policy userInfo w₁ = .ok () w₁ := by
      unfold attemptsValid
      rw [onlyIf, if_neg hcount]
      rfl
    rw [hstart]
    unfold outcome
    rw [bind_of_ok hgo]
    -- what is thrown from here on is no refusal of the count
    split_ifs with htype
    · exact Bool.false_ne_true
    · have hset : setPasswordSetType (some PASSWORD_NORMAL) w₁ = .ok () { w₁ with session :=
          { w₁.session with currentLoginUserPasswordSetType := some PASSWORD_NORMAL } } := rfl
      rw [bind_of_ok hset]
      cases hexpire : expirationValid c request policy userInfo { w₁ with session :=
          { w₁.session with currentLoginUserPasswordSetType := some PASSWORD_NORMAL } } with
      | ok _ _ => exact Bool.false_ne_true
      | error e w₂ =>
        have hkind := expirationValid_throws hexpire
        simp [refuses, hkind]

/-- A statement that sets BADPASSWORDCOUNT on the row of the account. -/
theorem updateById_account_of_eq {username : Option String} {id : String}
    {f : UserInfo → UserInfo} {keep : ∀ u, (f u).id = u.id} {count count' : Int}
    (name : ∀ u, (f u).username = u.username) (set : ∀ u, (f u).badPasswordCount = count')
    {w : World} (h : standing username w = some (id, count)) :
    account username (final (updateById id f keep) w) = (some (id, count'), policyOf w) := by
  have hpolicy : policyOf (final (updateById id f keep) w) = policyOf w := rfl
  obtain ⟨u, hfind, hu⟩ := Option.map_eq_some_iff.mp h
  have hid : u.id = id := (Prod.mk.inj hu).1
  unfold account standing
  rw [findUser_updateById id f keep name, hpolicy, hfind]
  simp only [Option.map_some, hid, if_true, keep, set]

/-- A statement on another row does not touch the account. -/
theorem updateById_account_of_ne {username : Option String} {id : String}
    {f : UserInfo → UserInfo} {keep : ∀ u, (f u).id = u.id}
    (name : ∀ u, (f u).username = u.username) {w : World}
    (h : ∀ r, standing username w = some r → r.1 ≠ id) :
    account username (final (updateById id f keep) w) = account username w := by
  have hpolicy : policyOf (final (updateById id f keep) w) = policyOf w := rfl
  unfold account standing
  rw [findUser_updateById id f keep name, hpolicy]
  cases hfind : findUser w username with
  | none => rfl
  | some u =>
    have hid : u.id ≠ id := by
      apply h (u.id, u.badPasswordCount)
      rw [standing, hfind]
      rfl
    simp only [Option.map_some, if_neg hid]

/-- Records of different names are different rows. -/
theorem findUser_id_ne {w : World} {username other : Option String} {u v : UserInfo}
    (hu : findUser w username = some u) (hv : findUser w other = some v) (h : username ≠ other) :
    u.id ≠ v.id := by
  obtain ⟨hmem, hname⟩ := findUser_eq_some hu
  obtain ⟨hmem', hname'⟩ := findUser_eq_some hv
  intro hid
  rw [KeyedTable.eq_of_key_eq w.database.userInfo hmem hmem' hid] at hname
  exact h (hname.symm.trans hname')

/-- The count is all of the account that a failed attempt writes. -/
theorem setBadPasswordCount_writes (username : Option String) (request : HttpRequest)
    (userInfo : UserInfo) (w : World) :
    account username (final (setBadPasswordCount request userInfo) w) =
      if userInfo.id ≠ "" ∧ ¬request.faults.updateUserInfo then
        account username (final (updateById userInfo.id (fun u =>
          { u with badPasswordCount := userInfo.badPasswordCount + 1 }) fun _ => rfl) w)
      else account username w := by
  unfold setBadPasswordCount onlyIf
  split_ifs with hgo
  · refine final_bind_of_leaves (fun _ => ?_) w
    exact leaves_tryCatch (leaves_insertLoginHistory_account _ _ _ _ _ _ _) fun _ => leaves_pure _
  · rfl

/-- The failed attempt is counted in the record that it was read from. -/
theorem setBadPasswordCount_account {username : Option String} {request : HttpRequest}
    {userInfo : UserInfo} {w : World}
    (h : standing username w = some (userInfo.id, userInfo.badPasswordCount)) :
    account username (final (setBadPasswordCount request userInfo) w) =
      if userInfo.id ≠ "" ∧ ¬request.faults.updateUserInfo then
        (some (userInfo.id, userInfo.badPasswordCount + 1), policyOf w)
      else account username w := by
  rw [setBadPasswordCount_writes]
  split_ifs with hgo
  · refine updateById_account_of_eq ?_ ?_ h
    · exact fun _ => rfl
    · exact fun _ => rfl
  · rfl

/-- A login attempt: its request, the session that it runs in, and the form that it sends. -/
structure LoginAttempt where
  request : HttpRequest
  session : HttpSession
  form : BasicAuthentication

def LoginAttempt.enter (a : LoginAttempt) (w : World) : LogonState :=
  { world := { w with session := a.session }, authentication := a.form }

def login (c : Config) (a : LoginAttempt) (w : World) : World :=
  (final (doInternalAuthenticate c a.request) (a.enter w)).world

/-- doInternalAuthenticate returns a token. -/
def logsIn (c : Config) (a : LoginAttempt) (w : World) : Bool :=
  (outcome (doInternalAuthenticate c a.request) (a.enter w)).isOk

/-- What an attempt comes to; undecided where a check other than these two stops it. -/
inductive Verdict
  | undecided
  | refused
  | wrong
  | right
  deriving DecidableEq

/-- The password policy, then the password. -/
def judge (c : Config) (request : HttpRequest) (auth : BasicAuthentication) (userInfo : UserInfo) :
    Web Unit := do
  passwordPolicyValid c request userInfo
  Realm.passwordMatches c request userInfo (auth.password.getD "")

theorem checkCredentials_eq (c : Config) (request : HttpRequest) (auth : BasicAuthentication) :
    checkCredentials c request auth = precheck c request auth >>= fun userInfo => do
      judge c request auth userInfo
      return userInfo := by
  simp only [checkCredentials, precheck, judge, bind_assoc, pure_bind]

def judgement (c : Config) (request : HttpRequest) (auth : BasicAuthentication)
    (userInfo : UserInfo) (w : World) : Verdict :=
  match passwordPolicyValid c request userInfo w with
  | .error e _ => if e.isAuthenticationException then .refused else .undecided
  | .ok _ _ =>
    let password := rawPassword userInfo.username (auth.password.getD "")
    if c.passwordMatches password userInfo.password then .right else .wrong

def verdict (c : Config) (a : LoginAttempt) (w : World) : Verdict :=
  match precheck c a.request a.form (a.enter w).world with
  | .error _ _ => .undecided
  | .ok userInfo w₁ => judgement c a.request a.form userInfo w₁

/-- The user that an attempt brings before passwordPolicyValid. -/
def arrives (c : Config) (a : LoginAttempt) (w : World) : Option UserInfo :=
  match precheck c a.request a.form (a.enter w).world with
  | .error _ _ => none
  | .ok userInfo _ => some userInfo

/-- The attempt gets as far as the comparison of the count with the policy. -/
def checked (c : Config) (a : LoginAttempt) (w : World) : Prop :=
  (arrives c a w).isSome ∧ policyReadable a.request w

instance (c : Config) (a : LoginAttempt) (w : World) : Decidable (checked c a w) :=
  inferInstanceAs (Decidable (_ ∧ _))

theorem account_enter (username : Option String) (a : LoginAttempt) (w : World) :
    account username (a.enter w).world = account username w := rfl

theorem arrives_eq_some {c : Config} {a : LoginAttempt} {w : World} {userInfo : UserInfo}
    (h : arrives c a w = some userInfo) :
    precheck c a.request a.form (a.enter w).world = .ok userInfo (a.enter w).world ∧
      standing a.form.username w = some (userInfo.id, userInfo.badPasswordCount) := by
  unfold arrives at h
  cases hrun : precheck c a.request a.form (a.enter w).world with
  | error e w₁ =>
    rw [hrun] at h
    cases h
  | ok u w₁ =>
    rw [hrun] at h
    cases h
    obtain ⟨hsame, hfind⟩ := precheck_returns hrun
    rw [hsame]
    refine ⟨rfl, ?_⟩
    change findUser w a.form.username = some userInfo at hfind
    rw [standing, hfind]
    rfl

theorem judgement_refused_iff {c : Config} {request : HttpRequest} {auth : BasicAuthentication}
    {userInfo : UserInfo} {w : World} : judgement c request auth userInfo w = .refused ↔
      refuses (outcome (passwordPolicyValid c request userInfo) w) := by
  unfold judgement outcome
  cases passwordPolicyValid c request userInfo w with
  | ok _ w₁ =>
    simp only [refuses, Bool.false_eq_true, iff_false]
    split_ifs <;> decide
  | error e w₁ =>
    cases hkind : e.isAuthenticationException <;> simp [refuses, hkind]

/-- At the check, a login is refused exactly when the count has come up to the limit. -/
theorem verdict_refused_iff {c : Config} {a : LoginAttempt} {w : World} {policy : PasswordPolicy}
    {id : String} {count : Int}
    (haccount : account a.form.username w = (some (id, count), some policy))
    (hchecked : checked c a w) : verdict c a w = .refused ↔ policy.attempts ≤ count := by
  obtain ⟨hstanding, hpolicy⟩ := Prod.mk.inj haccount
  obtain ⟨userInfo, harrives⟩ := Option.isSome_iff_exists.mp hchecked.1
  obtain ⟨hrun, hrecord⟩ := arrives_eq_some harrives
  have hcount : userInfo.badPasswordCount = count :=
    (Prod.mk.inj (Option.some.inj (hrecord.symm.trans hstanding))).2
  have hpolicy' : policyOf (a.enter w).world = some policy := hpolicy
  have hread : policyReadable a.request (a.enter w).world := hchecked.2
  have hrefuses := passwordPolicyValid_refuses_iff c userInfo hpolicy' hread
  have hverdict : verdict c a w = judgement c a.request a.form userInfo (a.enter w).world := by
    rw [verdict, hrun]
  rw [hverdict, judgement_refused_iff, hrefuses, hcount]

theorem verdict_of_unchecked {c : Config} {a : LoginAttempt} {w : World}
    (h : ¬checked c a w) : verdict c a w = .undecided := by
  unfold checked at h
  rw [not_and_or] at h
  cases hrun : precheck c a.request a.form (a.enter w).world with
  | error e w₁ => rw [verdict, hrun]
  | ok userInfo w₁ =>
    have hread : ¬policyReadable a.request w₁ := by
      rw [(precheck_returns hrun).1]
      refine h.resolve_left fun hnone => hnone ?_
      rw [arrives, hrun]
      rfl
    simp only [verdict, hrun, judgement, passwordPolicyValid_of_unreadable hread]
    rfl

theorem final_web {α : Type} (x : Web α) (s : LogonState) :
    final (web x) s = { s with world := final x s.world } := final_focus x s

theorem leaves_web {α β : Type} {x : Web α} {g : World → β} (h : Leaves g x) :
    Leaves (fun s : LogonState => g s.world) (web x) := leaves_focus (fun _ _ => rfl) h

/-- What follows the credential checks leaves the account alone. -/
theorem login_account_checkCredentials (username : Option String) (c : Config) (a : LoginAttempt)
    (w : World) : account username (login c a w) =
      account username (final (checkCredentials c a.request a.form) (a.enter w).world) := by
  have hremember : Leaves (account username) (createRemeberMe c a.request a.form) := by
    refine leaves_onlyIf _ (leaves_bind (leaves_modifySession_account _ _) fun _ => ?_)
    exact leaves_bind (leaves_throwIf _ _) fun _ => leaves_modifySession_account _ _
  have hgrant : ∀ u, Leaves (fun s : LogonState => account username s.world)
      (web (grantAuthority a.request u)) := fun u => leaves_web (leaves_grantAuthority _ _ u)
  have hrest : ∀ u, Leaves (fun s : LogonState => account username s.world) (do
      let _ ← web (grantAuthority a.request u)
      web (setUserInfo (some u))
      modify fun s : LogonState =>
        { s with authentication := { a.form with authenticated := true } }
      web (createRemeberMe c a.request a.form)
      let authorities ← web (grantAuthority a.request u)
      return { principal := .basic { a.form with authenticated := true }
               credentials := some "PASSWORD", authorities := authorities
               authenticated := true } : Logon.Attempt UsernamePasswordAuthenticationToken) := by
    intro u
    refine leaves_bind (hgrant u) fun _ => ?_
    refine leaves_bind (leaves_web (leaves_modifySession_account _ _)) fun _ => ?_
    refine leaves_bind (leaves_modify fun _ => rfl) fun _ => ?_
    exact leaves_bind (leaves_web hremember) fun _ => leaves_bind (hgrant u) fun _ => leaves_pure _
  have hbody : account username (final (web (checkCredentials c a.request a.form) >>= _)
      (a.enter w)).world = _ := final_bind_of_leaves hrest (a.enter w)
  refine Eq.trans ?_ (hbody.trans ?_)
  · unfold login final doInternalAuthenticate
    rw [bind_of_ok (get_apply _)]
    rfl
  · rw [final_web]

/-- Of the two checks only a wrong password changes the count. -/
theorem judge_account {username : Option String} {c : Config} {request : HttpRequest}
    {auth : BasicAuthentication} {userInfo : UserInfo} {w : World}
    (hstanding : standing username w = some (userInfo.id, userInfo.badPasswordCount)) :
    account username (final (judge c request auth userInfo) w) =
      if judgement c request auth userInfo w = .wrong ∧ userInfo.id ≠ "" ∧
          ¬request.faults.updateUserInfo then
        (some (userInfo.id, userInfo.badPasswordCount + 1), policyOf w)
      else account username w := by
  have hvalid := leaves_passwordPolicyValid_account username c request userInfo w
  unfold judge judgement
  cases hpolicy : passwordPolicyValid c request userInfo w with
  | error e w₁ =>
    rw [final_of_error hpolicy] at hvalid
    have hnot : ¬(if e.isAuthenticationException then Verdict.refused else Verdict.undecided) =
        .wrong := by split_ifs <;> decide
    rw [final_of_error (bind_of_error hpolicy), if_neg fun h => hnot h.1]
    exact hvalid
  | ok _ w₁ =>
    rw [final_of_ok hpolicy] at hvalid
    rw [final, bind_of_ok hpolicy]
    change account _ (final (Realm.passwordMatches _ _ _ _) w₁) = _
    have hstanding₁ : standing username w₁ = some (userInfo.id, userInfo.badPasswordCount) :=
      (Prod.mk.inj hvalid).1.trans hstanding
    have hpolicy₁ : policyOf w₁ = policyOf w := (Prod.mk.inj hvalid).2
    unfold Realm.passwordMatches
    by_cases hmatches : c.passwordMatches
        (rawPassword userInfo.username (auth.password.getD "")) userInfo.password = true
    · rw [onlyIf, if_neg (not_not.mpr hmatches)]
      simp only [hmatches, if_true, reduceCtorEq, false_and, if_false]
      exact hvalid
    · have hcount : account username (final (setBadPasswordCount request userInfo) w₁) = _ :=
        setBadPasswordCount_account hstanding₁
      rw [onlyIf, if_pos hmatches]
      refine (final_bind_of_leaves (fun _ => leaves_throw _) w₁).trans ?_
      simp only [hcount, hvalid, hpolicy₁, if_neg hmatches, true_and]

/-- The two checks of one user leave the account of another alone. -/
theorem judge_account_of_ne {username : Option String} {c : Config} {request : HttpRequest}
    {auth : BasicAuthentication} {userInfo : UserInfo} {w : World}
    (h : ∀ r, standing username w = some r → r.1 ≠ userInfo.id) :
    account username (final (judge c request auth userInfo) w) = account username w := by
  have hvalid := leaves_passwordPolicyValid_account username c request userInfo w
  unfold judge
  cases hpolicy : passwordPolicyValid c request userInfo w with
  | error e w₁ =>
    rw [final_of_error hpolicy] at hvalid
    rw [final_of_error (bind_of_error hpolicy)]
    exact hvalid
  | ok _ w₁ =>
    rw [final_of_ok hpolicy] at hvalid
    have hstanding : standing username w₁ = standing username w := (Prod.mk.inj hvalid).1
    rw [final, bind_of_ok hpolicy]
    change account _ (final (Realm.passwordMatches _ _ _ _) w₁) = _
    rw [← hstanding] at h
    refine Eq.trans ?_ hvalid
    unfold Realm.passwordMatches onlyIf
    split_ifs
    · rfl
    · refine (final_bind_of_leaves (fun _ => leaves_throw _) w₁).trans ?_
      rw [setBadPasswordCount_writes]
      split_ifs
      · refine updateById_account_of_ne ?_ h
        exact fun _ => rfl
      · rfl

/-- A login changes the count only where it ends at a wrong password. -/
theorem login_account {c : Config} {a : LoginAttempt} {w : World} {id : String} {count : Int}
    (hstanding : standing a.form.username w = some (id, count)) :
    account a.form.username (login c a w) =
      if verdict c a w = .wrong ∧ id ≠ "" ∧ ¬a.request.faults.updateUserInfo then
        (some (id, count + 1), policyOf w)
      else account a.form.username w := by
  rw [login_account_checkCredentials, checkCredentials_eq]
  have hprecheck := leaves_precheck_account a.form.username c a.request a.form (a.enter w).world
  rw [account_enter] at hprecheck
  cases hrun : precheck c a.request a.form (a.enter w).world with
  | error e w₁ =>
    rw [final_of_error hrun] at hprecheck
    have hverdict : verdict c a w = .undecided := by rw [verdict, hrun]
    rw [final_of_error (bind_of_error hrun), hverdict, if_neg (by simp)]
    exact hprecheck
  | ok userInfo w₁ =>
    have harrives : arrives c a w = some userInfo := by rw [arrives, hrun]
    obtain ⟨hsame, hrecord⟩ := arrives_eq_some harrives
    cases hrun.symm.trans hsame
    have hverdict : verdict c a w = judgement c a.request a.form userInfo (a.enter w).world := by
      rw [verdict, hrun]
    obtain ⟨hid, hcount⟩ := Prod.mk.inj (Option.some.inj (hstanding.symm.trans hrecord))
    rw [hverdict, hid, hcount, ← account_enter a.form.username a w]
    rw [final, bind_of_ok hrun]
    change account _ (final _ _) = _
    refine (final_bind_of_leaves (fun _ => leaves_pure _) _).trans ?_
    exact judge_account hrecord

/-- Nobody's login changes the account of another user. -/
theorem login_account_of_ne {c : Config} {a : LoginAttempt} {w : World} {username : Option String}
    (h : a.form.username ≠ username) : account username (login c a w) = account username w := by
  rw [login_account_checkCredentials, checkCredentials_eq]
  have hprecheck := leaves_precheck_account username c a.request a.form (a.enter w).world
  rw [account_enter] at hprecheck
  cases hrun : precheck c a.request a.form (a.enter w).world with
  | error e w₁ =>
    rw [final_of_error hrun] at hprecheck
    rw [final_of_error (bind_of_error hrun)]
    exact hprecheck
  | ok userInfo w₁ =>
    obtain ⟨hsame, hfind⟩ := precheck_returns hrun
    rw [final_of_ok hrun] at hprecheck
    rw [final, bind_of_ok hrun]
    change account _ (final _ _) = _
    refine (final_bind_of_leaves (fun _ => leaves_pure _) _).trans ?_
    have hother : ∀ r, standing username w₁ = some r → r.1 ≠ userInfo.id := by
      intro r hr
      rw [hsame] at hr
      obtain ⟨u, hu, hrow⟩ := Option.map_eq_some_iff.mp hr
      rw [← hrow]
      exact findUser_id_ne hu hfind h.symm
    exact (judge_account_of_ne hother).trans hprecheck

theorem judgement_of_judge {c : Config} {request : HttpRequest} {auth : BasicAuthentication}
    {userInfo : UserInfo} {w w' : World} (h : judge c request auth userInfo w = .ok () w') :
    judgement c request auth userInfo w = .right := by
  obtain ⟨_, w₁, hpolicy, hpassword⟩ := bind_eq_ok.mp h
  unfold Realm.passwordMatches at hpassword
  have hmatches := not_not.mp (onlyIf_throw_eq_ok.mp hpassword).1
  simp only [judgement, hpolicy, hmatches, if_true]

theorem verdict_of_logsIn {c : Config} {a : LoginAttempt} {w : World}
    (h : logsIn c a w) : verdict c a w = .right := by
  have hcheck : ∃ u w₁, checkCredentials c a.request a.form (a.enter w).world = .ok u w₁ := by
    cases hcheck : checkCredentials c a.request a.form (a.enter w).world with
    | ok u w₁ => exact ⟨u, w₁, rfl⟩
    | error e w₁ =>
      have hthrow : doInternalAuthenticate c a.request (a.enter w) =
          .error e { a.enter w with world := w₁ } :=
        (bind_of_ok (get_apply _)).trans (bind_of_error (web_of_error hcheck))
      unfold logsIn outcome at h
      rw [hthrow] at h
      exact absurd h Bool.false_ne_true
  obtain ⟨u, w₁, hcheck⟩ := hcheck
  rw [checkCredentials_eq] at hcheck
  obtain ⟨userInfo, w₂, hrun, hjudge⟩ := bind_eq_ok.mp hcheck
  obtain ⟨_, w₃, hjudge, -⟩ := bind_eq_ok.mp hjudge
  rw [verdict, hrun]
  exact judgement_of_judge hjudge

/-- What there is to know of a user's attempts: the wrong passwords that still count, those that
were recorded at all, and since when there are too many. -/
structure Tally where
  due : Int
  recorded : Int
  lockedAt : Option ℕ := none
  deriving DecidableEq

/-- A lock that has stood for its duration lapses, and with it the failures that led to it. -/
def Tally.lapse (duration now : ℕ) (t : Tally) : Tally :=
  match t.lockedAt with
  | some since => if since + duration ≤ now then { t with due := 0, lockedAt := none } else t
  | none => t

def Tally.succeed (t : Tally) : Tally := { t with due := 0, lockedAt := none }

/-- The failure that comes up to the limit starts the lock. -/
def Tally.fail (attempts : Int) (records : Bool) (now : ℕ) (t : Tally) : Tally :=
  { due := t.due + 1
    recorded := if records then t.recorded + 1 else t.recorded
    lockedAt := t.lockedAt <|> if attempts ≤ t.due + 1 then some now else none }

structure Watch where
  world : World
  tally : Tally

/-- One attempt after the other of the user with this ID. -/
def step (c : Config) (policy : PasswordPolicy) (duration : ℕ) (id : String) (s : Watch)
    (a : LoginAttempt) : Watch :=
  let tally := s.tally.lapse duration a.request.now
  { world := login c a s.world
    tally :=
      if logsIn c a s.world then tally.succeed
      else if verdict c a s.world = .wrong then
        tally.fail policy.attempts (id ≠ "" ∧ ¬a.request.faults.updateUserInfo) a.request.now
      else tally }

/-- A login is refused when as many wrong passwords as the policy allows are due, and only then. -/
def RefusedWhenDue (c : Config) (policy : PasswordPolicy) (duration : ℕ) (s : Watch)
    (a : LoginAttempt) : Prop :=
  checked c a s.world → (verdict c a s.world = .refused ↔
    policy.attempts ≤ (s.tally.lapse duration a.request.now).due)

instance (c : Config) (policy : PasswordPolicy) (duration : ℕ) (s : Watch) (a : LoginAttempt) :
    Decidable (RefusedWhenDue c policy duration s a) := inferInstanceAs (Decidable (_ → _))

/-- The wrong passwords recorded over the whole life of the account come up to the limit
together with those that are due. -/
def RecordedAsDue (c : Config) (policy : PasswordPolicy) (duration : ℕ) (s : Watch)
    (a : LoginAttempt) : Prop :=
  checked c a s.world → (policy.attempts ≤ s.tally.recorded ↔
    policy.attempts ≤ (s.tally.lapse duration a.request.now).due)

instance (c : Config) (policy : PasswordPolicy) (duration : ℕ) (s : Watch) (a : LoginAttempt) :
    Decidable (RecordedAsDue c policy duration s a) := inferInstanceAs (Decidable (_ → _))

theorem lapse_recorded (duration now : ℕ) (t : Tally) :
    (t.lapse duration now).recorded = t.recorded := by
  unfold Tally.lapse
  cases t.lockedAt with
  | none => rfl
  | some since =>
    simp only
    split_ifs <;> rfl

/-- The record of the user has all the failures that were recorded, and the policy stands. -/
def Follows (policy : PasswordPolicy) (user : UserInfo) (s : Watch) : Prop :=
  account (some user.username) s.world = (some (user.id, s.tally.recorded), some policy)

/-- No success and no lapse ever takes a failure off the record. -/
theorem step_follows {c : Config} {policy : PasswordPolicy} {duration : ℕ} {user : UserInfo}
    {s : Watch} {a : LoginAttempt} (ha : a.form.username = some user.username)
    (hs : Follows policy user s) :
    Follows policy user (step c policy duration user.id s a) := by
  obtain ⟨hstanding, hpolicy⟩ := Prod.mk.inj hs
  rw [← ha] at hstanding
  have hlogin := login_account (c := c) hstanding
  rw [hpolicy, ha, hs] at hlogin
  change account _ (login c a s.world) = _
  have hrecorded := lapse_recorded duration a.request.now s.tally
  rw [hlogin]
  by_cases hwrong : verdict c a s.world = .wrong
  · have hfails : ¬logsIn c a s.world = true := by
      intro h
      exact absurd (hwrong.symm.trans (verdict_of_logsIn h)) (by decide)
    have htally : (step c policy duration user.id s a).tally.recorded =
        if user.id ≠ "" ∧ ¬a.request.faults.updateUserInfo then s.tally.recorded + 1
        else s.tally.recorded := by
      unfold step
      simp only [if_neg hfails, if_pos hwrong, Tally.fail, hrecorded, decide_eq_true_eq]
    rw [htally]
    simp only [hwrong, true_and]
    split_ifs <;> rfl
  · have htally : (step c policy duration user.id s a).tally.recorded = s.tally.recorded := by
      unfold step
      simp only [if_neg hwrong]
      split_ifs <;> exact hrecorded
    rw [if_neg fun h => hwrong h.1, htally]

/-- Along every run of attempts of one user, each that comes to the check is refused when enough
wrong passwords are due and only then, if and only if at each the recorded ones and those due come
up to the limit together. -/
theorem refusedWhenDue_iff (c : Config) (duration : ℕ) {w : World} {policy : PasswordPolicy}
    {user : UserInfo} (due : Int) (lockedAt : Option ℕ) {as : List LoginAttempt}
    (hpolicy : policyOf w = some policy) (huser : findUser w (some user.username) = some user)
    (has : ∀ a ∈ as, a.form.username = some user.username) :
    Runs.Meets (step c policy duration user.id) (RefusedWhenDue c policy duration)
        ⟨w, { due, recorded := user.badPasswordCount, lockedAt }⟩ as ↔
      Runs.Meets (step c policy duration user.id) (RecordedAsDue c policy duration)
        ⟨w, { due, recorded := user.badPasswordCount, lockedAt }⟩ as := by
  apply Runs.meets_congr (I := Follows policy user)
  · intro s a ha hs
    exact step_follows (has a ha) hs
  · intro s a ha hs
    unfold Follows at hs
    rw [← has a ha] at hs
    unfold RefusedWhenDue RecordedAsDue
    refine forall_congr' fun hchecked => ?_
    rw [verdict_refused_iff hs hchecked]
  · unfold Follows account standing
    rw [huser, hpolicy]
    rfl

/-- A store of one user, the policy of two attempts, and the plain password comparison. -/
def plain : Config where
  encode := id
  passwordMatches raw stored := raw = stored
  decoder encoded := .ok encoded
  parseDateTime _ := none
  otpValidate _ _ := .ok false
  captcha := false
  mfa := false
  remeberMe := false

def twice : PasswordPolicy := { attempts := 2, expiration := 0 }

def erin : UserInfo := { id := "1", username := "erin", password := "right@erin" }

def erinOnly : World where
  database :=
    { userInfo := ⟨[erin], by decide⟩, historyLogin := [], groupMember := []
      passwordPolicy := [twice] }
  session := { id := "s" }

def entering (password : String) : LoginAttempt where
  request := { userAgent := none, newSessionId := "t", loginSessionId := "u" }
  session := { id := "s" }
  form :=
    { username := some "erin", password := some password, sessionId := some "s"
      authType := some "basic" }

/-- Two failures of the user are refused from then on. -/
theorem refusedWhenDue_of_twoFailures :
    Runs.Meets (step plain twice 3600000 "1") (RefusedWhenDue plain twice 3600000)
      ⟨erinOnly, { due := 0, recorded := 0 }⟩
      [entering "right", entering "wrong", entering "wrong", entering "right"] := by
  have huser : findUser erinOnly (some erin.username) = some erin := by decide
  refine (refusedWhenDue_iff plain 3600000 0 none rfl huser ?_).mpr ?_
  · decide
  · decide +kernel

/-- Each failure is followed by a success, yet the second failure locks the user out. -/
theorem alternating_not_refusedWhenDue :
    ¬Runs.Meets (step plain twice 3600000 "1") (RefusedWhenDue plain twice 3600000)
      ⟨erinOnly, { due := 0, recorded := 0 }⟩
      [entering "wrong", entering "right", entering "wrong", entering "right"] := by
  decide +kernel

end MaxKey.Lockouts
