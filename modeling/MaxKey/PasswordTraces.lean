import MaxKey.LoginTraces

namespace MaxKey.PasswordTraces
open WebContext Realm Logon Lockouts Comparisons LoginTraces JavaException Effects

/-- The form with one password or another. -/
def withPassword (form : BasicAuthentication) (password : Option String) : BasicAuthentication :=
  { form with password }

def entry (form : BasicAuthentication) (w : World) (password : Option String) : LogonState :=
  { world := w, authentication := withPassword form password }

/-- How the attempt comes out: logged in, or an exception. -/
def result (c : Config) (request : HttpRequest) (s : LogonState) : Except JavaException Unit :=
  (outcome (doInternalAuthenticate c request) s).map fun _ => ()

/-- What the attempt leaves in the database. -/
def persisted (c : Config) (request : HttpRequest) (s : LogonState) : Database :=
  (final (authenticate c request) s).world.database

def isEmpty (password : Option String) : Prop := password = none ∨ password = some ""

instance (password : Option String) : Decidable (isEmpty password) :=
  inferInstanceAs (Decidable (_ ∨ _))

/-- The log of a login goes to the user of the session. -/
def logSession (request : HttpRequest) (user : Option UserInfo) (db : Database) : Database :=
  user.elim db fun u => logTo request u "Local Login" "" "xe00000004" "success" db

section Results

variable {c : Config} {request : HttpRequest} {s : LogonState} {w w₁ : World}
  {userInfo : UserInfo} {e : JavaException}

theorem switchSession_database (a : UserAuthentication) (w : World) :
    (final (switchSession request a) w).database =
      logSession request w.session.currentUser w.database := by
  have hsession : ∀ f, Leaves World.database (modifySession f) := by
    intro f
    apply leaves_modify
    exact fun _ => rfl
  refine (final_switchSession_of_leaves hsession request a w).trans ?_
  unfold logSession
  cases w.session.currentUser with
  | none => exact insertLoginHistory_none_database _ _ _ _ _ (freshSession request w)
  | some u => exact insertLoginHistory_database _ _ _ _ _ _ (freshSession request w)

/-- A failing attempt leaves what its checks leave, and with a forged flag the log of a login. -/
theorem persisted_of_fails
    (h : accepts c request s.authentication s.world → request.faults.selectGroups) :
    persisted c request s =
      let db := (final (checkCredentials c request s.authentication) s.world).database
      if s.authentication.authenticated then logSession request s.world.session.currentUser db
      else db := by
  have hidentity := leaves_checkCredentials c request s.authentication s.world
  have huser : (final (checkCredentials c request s.authentication) s.world).session.currentUser =
      s.world.session.currentUser := (Prod.mk.inj hidentity).1
  unfold persisted
  rw [final_authenticate (attempt_of_fails h)]
  change (if s.authentication.authenticated = true then _ else _ : World).database = _
  simp only
  split_ifs
  · rw [switchSession_database, huser]
  · rfl

theorem doInternalAuthenticate_of_accepts (hcheck : checkCredentials c request s.authentication
    s.world = .ok userInfo w₁) (hgroups : ¬request.faults.selectGroups) :
    let w₂ := { w₁ with session := { w₁.session with currentUser := some userInfo } }
    doInternalAuthenticate c request s = (do
      web (createRemeberMe c request s.authentication)
      let authorities ← web (grantAuthority request userInfo)
      return { principal := .basic { s.authentication with authenticated := true }
               credentials := some "PASSWORD", authorities := authorities
               authenticated := true } : Logon.Attempt UsernamePasswordAuthenticationToken)
      { world := w₂, authentication := { s.authentication with authenticated := true } } := by
  have hgrant := web_of_ok (s := { s with world := w₁ }) (grantAuthority_returns hgroups userInfo w₁)
  unfold doInternalAuthenticate
  rw [bind_of_ok (get_apply s), bind_of_ok (web_of_ok hcheck), bind_of_ok hgrant]
  rfl

/-- An accepted login is logged for its user, whatever becomes of the remember-me record. -/
theorem persisted_of_accepts (hcheck : checkCredentials c request s.authentication s.world =
    .ok userInfo w₁) (hgroups : ¬request.faults.selectGroups) :
    persisted c request s = logSession request (some userInfo) w₁.database := by
  let w₂ := { w₁ with session := { w₁.session with currentUser := some userInfo } }
  have hrun := doInternalAuthenticate_of_accepts hcheck hgroups
  have hremember : ∀ {β : Type} {g : World → β}, (∀ w f, g (final (modifySession f) w) = g w) →
      Leaves g (createRemeberMe c request s.authentication) := by
    intro β g hsession
    refine leaves_onlyIf _ (leaves_bind (fun w => hsession w _) fun _ => ?_)
    exact leaves_bind (leaves_throwIf _ _) fun _ w => hsession w _
  have hdatabase : (final (createRemeberMe c request s.authentication) w₂).database = w₁.database :=
    hremember (g := World.database) (fun _ _ => rfl) w₂
  have huser : (final (createRemeberMe c request s.authentication) w₂).session.currentUser =
      some userInfo := (Prod.mk.inj (leaves_createRemeberMe c request s.authentication w₂)).1
  have hattempt : ∃ a t, attempt c request s = .ok a t ∧ a.isAuthenticated = true ∧
      t.world = final (createRemeberMe c request s.authentication) w₂ := by
    cases hkept : createRemeberMe c request s.authentication w₂ with
    | error e w₃ =>
      have hthrow := hrun.trans (bind_of_error (web_of_error hkept))
      exact ⟨_, _, attempt_of_error hthrow, rfl, (final_of_error hkept).symm⟩
    | ok _ w₃ =>
      have hgrant := grantAuthority_returns hgroups userInfo w₃
      have hreturn := hrun.trans ((bind_of_ok (web_of_ok hkept)).trans
        (bind_of_ok (web_of_ok hgrant)))
      exact ⟨_, _, attempt_of_ok hreturn, rfl, (final_of_ok hkept).symm⟩
  obtain ⟨a, t, hrun, hflag, hworld⟩ := hattempt
  unfold persisted
  rw [final_authenticate hrun, if_pos hflag, switchSession_database, hworld, huser, hdatabase]

theorem result_of_error
    (h : checkCredentials c request s.authentication s.world = .error e w₁) :
    result c request s = .error e := by
  have hthrow : doInternalAuthenticate c request s = .error e { s with world := w₁ } :=
    (bind_of_ok (get_apply s)).trans (bind_of_error (web_of_error h))
  unfold result outcome
  rw [hthrow]
  rfl

/-- What comes after the checks of the credentials only fails in the database. -/
theorem result_of_ok (h : checkCredentials c request s.authentication s.world = .ok userInfo w₁) :
    result c request s = .ok () ∨ ∃ table, result c request s = .error (dataAccess table) := by
  by_cases hgroups : request.faults.selectGroups = true
  · have hgrant : web (grantAuthority request userInfo) { s with world := w₁ } = .error
        (dataAccess "GROUPS") { s with world := w₁ } :=
      web_of_error (grantAuthority_throws hgroups userInfo w₁)
    have hthrow : doInternalAuthenticate c request s =
        .error (dataAccess "GROUPS") { s with world := w₁ } :=
      (bind_of_ok (get_apply s)).trans ((bind_of_ok (web_of_ok h)).trans (bind_of_error hgrant))
    refine .inr ⟨"GROUPS", ?_⟩
    unfold result outcome
    rw [hthrow]
    rfl
  · have hrun := doInternalAuthenticate_of_accepts h hgroups
    let w₂ := { w₁ with session := { w₁.session with currentUser := some userInfo } }
    unfold result outcome
    rw [hrun]
    cases hkept : createRemeberMe c request s.authentication w₂ with
    | error e w₃ =>
      rw [bind_of_error (web_of_error hkept)]
      right
      unfold createRemeberMe onlyIf at hkept
      split_ifs at hkept
      · rcases bind_eq_error.mp hkept with hset | ⟨_, w₄, -, hkept⟩
        · cases hset
        · rcases bind_eq_error.mp hkept with hsave | ⟨_, w₅, -, hforget⟩
          · unfold throwIf at hsave
            split_ifs at hsave
            · cases hsave
              exact ⟨"REMEMBER_ME", rfl⟩
            · cases hsave
          · cases hforget
      · cases hkept
    | ok _ w₃ =>
      rw [bind_of_ok (web_of_ok hkept),
        bind_of_ok (web_of_ok (grantAuthority_returns hgroups userInfo w₃))]
      exact .inl rfl

end Results

section Exceptions

variable {c : Config} {request : HttpRequest} {form : BasicAuthentication} {userInfo : UserInfo}
  {w w' : World} {e : JavaException}

theorem getPasswordPolicy_throws_eq (h : getPasswordPolicy request w = .error e w') :
    e = dataAccess "PASSWORD_POLICY" := by
  unfold getPasswordPolicy at h
  rw [bind_of_ok (get_apply w)] at h
  cases hcached : w.cachedPasswordPolicy with
  | some policy =>
    rw [hcached] at h
    cases h
  | none =>
    rw [hcached] at h
    rcases bind_eq_error.mp h with hread | ⟨_, w₁, -, h⟩
    · unfold throwIf at hread
      split_ifs at hread
      · cases hread
        rfl
      · cases hread
    · rw [bind_of_ok (get_apply w₁)] at h
      rcases hrows : w₁.database.passwordPolicy with _ | ⟨policy, _ | ⟨other, rows⟩⟩
      all_goals rw [hrows] at h
      all_goals cases h
      all_goals rfl

/-- What goes wrong while the wrong password is counted is swallowed. -/
theorem passwordMatches_throws {password : String}
    (h : Realm.passwordMatches c request userInfo password w = .error e w') :
    e = badCredentials "login.error.password" := by
  unfold Realm.passwordMatches onlyIf at h
  split_ifs at h
  · cases h
  · rcases bind_eq_error.mp h with hcount | ⟨_, w₁, -, hrefuse⟩
    · unfold setBadPasswordCount onlyIf at hcount
      split_ifs at hcount
      · rcases bind_eq_error.mp hcount with hset | ⟨_, w₂, -, hlog⟩
        · cases hset
        · let log := insertLoginHistory request (some { userInfo with
            badPasswordCount := userInfo.badPasswordCount + 1 }) "Local Login" "" "xe00000004"
            "password error"
          change tryCatch log (fun _ => pure ()) w₂ = _ at hlog
          cases hrun : log w₂ with
          | ok _ w₃ =>
            rw [tryCatch_of_ok hrun] at hlog
            cases hlog
          | error e' w₃ =>
            rw [tryCatch_of_error hrun] at hlog
            cases hlog
      · cases hcount
    · cases hrefuse
      rfl

/-- The password policy and the wrong password have exceptions of their own; no other exception of
these checks is an AuthenticationException. -/
theorem judge_throws (h : judge c request form userInfo w = .error e w') :
    (∃ count : Int, e = badCredentials ("login.error.attempts " ++ toString count)) ∨
      e = badCredentials "login.error.password" ∨ e.isAuthenticationException = false := by
  rcases bind_eq_error.mp h with hpolicy | ⟨_, w₁, -, hpassword⟩
  · rcases bind_eq_error.mp hpolicy with hget | ⟨policy, w₂, -, hpolicy⟩
    · rw [getPasswordPolicy_throws_eq hget]
      exact .inr (.inr rfl)
    · rcases bind_eq_error.mp hpolicy with hattempts | ⟨_, w₃, -, hpolicy⟩
      · unfold attemptsValid onlyIf at hattempts
        split_ifs at hattempts
        · left
          refine ⟨userInfo.badPasswordCount, ?_⟩
          rcases bind_eq_error.mp hattempts with hlock | ⟨_, w₄, -, hrefuse⟩
          · unfold lockUser onlyIf at hlock
            split_ifs at hlock
            · cases hlock
            · cases hlock
          · cases hrefuse
            rfl
        · cases hattempts
      · right
        right
        split_ifs at hpolicy
        · cases hpolicy
        · rcases bind_eq_error.mp hpolicy with hset | ⟨_, w₄, -, hexpires⟩
          · cases hset
          · exact expirationValid_throws hexpires
  · right
    left
    exact passwordMatches_throws hpassword

theorem attempts_ne_null (text : String) :
    "login.error.attempts " ++ text ≠ "login.error.password.null" := by
  intro h
  have hstart := congrArg (fun s : String => s.toList.take 13) h
  simp only [String.toList_append] at hstart
  exact absurd hstart (by simp)

/-- The refusal of an empty password is no exception of the checks that come later. -/
theorem judge_ne_null (h : judge c request form userInfo w = .error e w') :
    e ≠ badCredentials "login.error.password.null" := by
  intro hnull
  rcases judge_throws h with ⟨count, hrefused⟩ | hwrong | hother
  · exact attempts_ne_null _ (badCredentials.inj (hrefused.symm.trans hnull))
  · exact absurd (hwrong.symm.trans hnull) (by decide)
  · rw [hnull] at hother
    cases hother

end Exceptions

/-- Someone unknown is asked for, and the database takes the row about it. -/
def LogsUnknown (c : Config) (request : HttpRequest) (form : BasicAuthentication) (w : World) : Prop :=
  asksUnknown c request form w ∧
    (loginRow request (unknownUser request none) "Local Login" "" "login.error.username"
      "user not exist").isSome

instance (c : Config) (request : HttpRequest) (form : BasicAuthentication) (w : World) :
    Decidable (LogsUnknown c request form w) := inferInstanceAs (Decidable (_ ∧ _))

section Pairs

variable {c : Config} {request : HttpRequest} {form : BasicAuthentication} {w : World}
  {p p' : Option String}

theorem formAllows_withPassword (session : HttpSession) (h : isEmpty p ↔ isEmpty p') :
    formAllows c (withPassword form p) session ↔ formAllows c (withPassword form p') session := by
  refine and_congr_right fun _ => and_congr_right fun _ => and_congr_right fun _ => ?_
  exact and_congr_left fun _ => not_congr h

theorem formValid_withPassword (h : isEmpty p ↔ isEmpty p') :
    formValid c (withPassword form p) = formValid c (withPassword form p') := by
  have hpassword : emptyPasswordValid p = emptyPasswordValid p' := by
    unfold emptyPasswordValid throwIf
    exact if_congr h rfl rfl
  unfold formValid withPassword
  simp only [hpassword]

theorem asksUnknown_withPassword (h : isEmpty p ↔ isEmpty p') :
    asksUnknown c request (withPassword form p) w ↔
      asksUnknown c request (withPassword form p') w :=
  and_congr_left fun _ => formAllows_withPassword w.session h

/-- For a user who exists the password does not matter before it is compared. -/
theorem precheck_withPassword (h : isEmpty p ↔ isEmpty p')
    (hasks : ¬asksUnknown c request (withPassword form p) w) :
    precheck c request (withPassword form p) w = precheck c request (withPassword form p') w := by
  rw [precheck_eq, precheck_eq, formValid_withPassword h]
  cases hvalid : formValid c (withPassword form p') w with
  | error e w₁ => rw [bind_of_error hvalid, bind_of_error hvalid]
  | ok u w₁ =>
    obtain ⟨hform, hsame⟩ := formValid_eq_ok.mp hvalid
    subst hsame
    rw [bind_of_ok hvalid, bind_of_ok hvalid]
    by_cases hloads : request.faults.selectUserInfo = true
    · have hthrow := loadUserInfo_throws hloads form.username w
      exact (bind_of_error hthrow).trans (bind_of_error hthrow).symm
    · have hload := loadUserInfo_returns hloads form.username w
      cases hfind : findUser w form.username with
      | none => exact absurd ⟨(formAllows_withPassword _ h).mpr hform, hloads, hfind⟩ hasks
      | some userInfo =>
        rw [hfind] at hload
        change (loadUserInfo request form.username >>= _) w =
          (loadUserInfo request form.username >>= _) w
        rw [bind_of_ok hload, bind_of_ok hload]
        rfl

/-- A right and a wrong password do not come out alike. -/
theorem result_ne_of_wrong {userInfo : UserInfo} {w₁ w₂ : World} {u : Unit}
    (hpre : precheck c request (withPassword form p) w = .ok userInfo w₁)
    (hpre' : precheck c request (withPassword form p') w = .ok userInfo w₁)
    (hpolicy : passwordPolicyValid c request userInfo w₁ = .ok u w₂)
    (hright : c.passwordMatches (rawPassword userInfo.username (p.getD "")) userInfo.password = true)
    (hwrong : ¬c.passwordMatches (rawPassword userInfo.username (p'.getD "")) userInfo.password) :
    result c request (entry form w p) ≠ result c request (entry form w p') := by
  have haccepts : checkCredentials c request (withPassword form p) w = .ok userInfo w₂ := by
    have hjudge : judge c request (withPassword form p) userInfo w₁ = .ok () w₂ := by
      refine (bind_of_ok hpolicy).trans ?_
      exact onlyIf_throw_eq_ok.mpr ⟨not_not.mpr hright, rfl⟩
    rw [checkCredentials_eq, bind_of_ok hpre, bind_of_ok hjudge]
    rfl
  have hrefuses : ∃ w₃, checkCredentials c request (withPassword form p') w =
      .error (badCredentials "login.error.password") w₃ := by
    cases hcompare : Realm.passwordMatches c request userInfo (p'.getD "") w₂ with
    | ok _ w₃ => exact absurd (onlyIf_throw_eq_ok.mp hcompare).1 (not_not.mpr hwrong)
    | error e w₃ =>
      rw [passwordMatches_throws hcompare] at hcompare
      have hjudge : judge c request (withPassword form p') userInfo w₁ = .error _ w₃ :=
        (bind_of_ok hpolicy).trans hcompare
      rw [checkCredentials_eq, bind_of_ok hpre']
      exact ⟨w₃, bind_of_error hjudge⟩
  obtain ⟨w₃, hrefuses⟩ := hrefuses
  have hresult : result c request (entry form w p') = _ := result_of_error hrefuses
  rw [hresult]
  rcases result_of_ok (s := entry form w p) haccepts with hreturn | ⟨table, hthrow⟩
  · rw [hreturn]
    simp
  · rw [hthrow]
    simp

/-- Attempts that come out alike are checked alike, unless they ask for someone unknown. -/
theorem checkCredentials_withPassword (h : isEmpty p ↔ isEmpty p')
    (hasks : ¬asksUnknown c request (withPassword form p) w)
    (hresult : result c request (entry form w p) = result c request (entry form w p')) :
    checkCredentials c request (withPassword form p) w =
      checkCredentials c request (withPassword form p') w := by
  have hsame := precheck_withPassword h hasks
  rw [checkCredentials_eq, checkCredentials_eq]
  cases hpre : precheck c request (withPassword form p) w with
  | error e w₁ => rw [bind_of_error hpre, bind_of_error (hsame.symm.trans hpre)]
  | ok userInfo w₁ =>
    have hpre' := hsame.symm.trans hpre
    rw [bind_of_ok hpre, bind_of_ok hpre']
    suffices hjudge : judge c request (withPassword form p) userInfo w₁ =
        judge c request (withPassword form p') userInfo w₁ by
      rw [bind_apply, hjudge]
      rfl
    cases hpolicy : passwordPolicyValid c request userInfo w₁ with
    | error e w₂ => exact (bind_of_error hpolicy).trans (bind_of_error hpolicy).symm
    | ok u w₂ =>
      have hmatches : c.passwordMatches (rawPassword userInfo.username (p.getD ""))
          userInfo.password = c.passwordMatches (rawPassword userInfo.username (p'.getD ""))
            userInfo.password := by
        cases hright : c.passwordMatches (rawPassword userInfo.username (p.getD ""))
            userInfo.password <;>
          cases hright' : c.passwordMatches (rawPassword userInfo.username (p'.getD ""))
            userInfo.password
        · rfl
        · have hne := result_ne_of_wrong hpre' hpre hpolicy hright' (by simp [hright])
          exact absurd hresult.symm hne
        · have hne := result_ne_of_wrong hpre hpre' hpolicy hright (by simp [hright'])
          exact absurd hresult hne
        · rfl
      have hcompare : Realm.passwordMatches c request userInfo (p.getD "") =
          Realm.passwordMatches c request userInfo (p'.getD "") := by
        unfold Realm.passwordMatches onlyIf
        exact if_congr (by rw [hmatches]) rfl rfl
      unfold judge withPassword
      simp only [hcompare]

/-- What is checked alike is persisted alike. -/
theorem persisted_congr (h : checkCredentials c request (withPassword form p) w =
    checkCredentials c request (withPassword form p') w) :
    persisted c request (entry form w p) = persisted c request (entry form w p') := by
  by_cases hfails : accepts c request (withPassword form p) w → request.faults.selectGroups
  · have hfails' : accepts c request (withPassword form p') w → request.faults.selectGroups := by
      unfold accepts outcome at hfails ⊢
      rw [← h]
      exact hfails
    rw [persisted_of_fails (s := entry form w p) hfails,
      persisted_of_fails (s := entry form w p') hfails']
    simp only [entry, final, h]
    rfl
  · rw [Classical.not_imp] at hfails
    obtain ⟨haccepts, hgroups⟩ := hfails
    cases hcheck : checkCredentials c request (withPassword form p) w with
    | error e w₁ => simp [accepts, outcome, hcheck, Except.isOk, Except.toBool] at haccepts
    | ok userInfo w₁ =>
      have hcheck' := h.symm.trans hcheck
      rw [persisted_of_accepts (s := entry form w p) hcheck hgroups,
        persisted_of_accepts (s := entry form w p') hcheck' hgroups]

theorem not_accepts_of_precheck (h : broughtUser c request form w = none) :
    accepts c request form w → request.faults.selectGroups := by
  intro haccepts
  cases hcheck : checkCredentials c request form w with
  | error e w₁ => simp [accepts, outcome, hcheck, Except.isOk, Except.toBool] at haccepts
  | ok userInfo w₁ =>
    rw [checkCredentials_eq] at hcheck
    obtain ⟨u, w₂, hpre, -⟩ := bind_eq_ok.mp hcheck
    cases h.symm.trans (precheck_eq_ok_iff.mp hpre).1

/-- Who asks for someone unknown brings no user. -/
theorem broughtUser_of_asksUnknown (h : asksUnknown c request form w) :
    broughtUser c request form w = none := by
  unfold broughtUser
  rw [h.2.2]
  simp

/-- Whether the row goes in does not depend on the user. -/
theorem isSome_loginRow (request : HttpRequest) (u u' : UserInfo)
    {type provider code message : String} :
    (loginRow request u type provider code message).isSome =
      (loginRow request u' type provider code message).isSome := by
  unfold loginRow
  split
  · split_ifs
    · rfl
    · rfl
  · rfl

theorem username_of_loginRow {userInfo : UserInfo} {type provider code message : String}
    {row : HistoryLogin} (h : loginRow request userInfo type provider code message = some row) :
    row.username = userInfo.username := by
  unfold loginRow at h
  split at h
  · split_ifs at h
    cases h
    rfl
  · cases h

theorem logTo_of_loginRow {userInfo : UserInfo} {type provider code message : String}
    {db : Database} (h : loginRow request userInfo type provider code message = none) :
    logTo request userInfo type provider code message db = db := by
  unfold logTo
  rw [h, Option.elim_none]

theorem historyLogin_logTo (request : HttpRequest) (userInfo : UserInfo)
    (type provider code message : String) (db : Database) :
    (logTo request userInfo type provider code message db).historyLogin =
      db.historyLogin ++ (loginRow request userInfo type provider code message).toList := by
  unfold logTo
  cases loginRow request userInfo type provider code message with
  | none => simp
  | some row => rfl

theorem historyLogin_logSession (request : HttpRequest) (user : Option UserInfo) (db : Database) :
    (logSession request user db).historyLogin = db.historyLogin ++ (user.bind fun u =>
      loginRow request u "Local Login" "" "xe00000004" "success").toList := by
  cases user with
  | none => simp [logSession]
  | some u => exact historyLogin_logTo request u _ _ _ _ db

/-- The row about someone unknown, who goes by the password. -/
def unknownRow (request : HttpRequest) (q : Option String) : Option HistoryLogin :=
  loginRow request (unknownUser request q) "Local Login" "" "login.error.username" "user not exist"

def unknownLog (request : HttpRequest) (q : Option String) (db : Database) : Database :=
  logTo request (unknownUser request q) "Local Login" "" "login.error.username" "user not exist" db

theorem isSome_unknownRow (request : HttpRequest) (p q : Option String) :
    (unknownRow request p).isSome = (unknownRow request q).isSome := isSome_loginRow request _ _

/-- Where the row goes in, only the update that follows it can fail. -/
theorem insertLoginHistory_throws {userInfo : UserInfo} {type provider code message : String}
    {w w₁ : World} {e : JavaException}
    (h : insertLoginHistory request (some userInfo) type provider code message w = .error e w₁)
    (hrow : (loginRow request userInfo type provider code message).isSome) :
    e = dataAccess "USERINFO" := by
  unfold loginRow at hrow
  cases hagent : request.userAgent with
  | none => simp [hagent] at hrow
  | some userAgent =>
    cases hparts : browserPlatform userAgent with
    | error e' => simp [hagent, hparts] at hrow
    | ok parts =>
      cases hinsert : request.faults.insertHistoryLogin with
      | true => simp [hagent, hparts, hinsert] at hrow
      | false =>
        cases hupdate : request.faults.updateUserInfo <;>
          simp [insertLoginHistory, bind_apply, modifySession, modifyDatabase, updateById, nonNull,
            orThrow, orError, throwIf, hagent, hparts, hinsert, hupdate] at h
        exact h.1.symm

/-- A form that is in order but for the empty password is refused for that. -/
theorem checkCredentials_of_isEmpty (hp : isEmpty p)
    (hform : formAllows c (withPassword form p') w.session) :
    checkCredentials c request (withPassword form p) w =
      .error (badCredentials "login.error.password.null") w := by
  obtain ⟨hid, htype, hcaptcha, -, -⟩ := hform
  have hsession : sessionValid (withPassword form p).sessionId w = .ok () w :=
    sessionValid_eq_ok.mpr ⟨hid, rfl⟩
  have hauthType : authTypeValid (withPassword form p).authType w = .ok () w :=
    authTypeValid_eq_ok.mpr ⟨htype, rfl⟩
  have hkaptcha : captchaValid c (withPassword form p).captcha (withPassword form p).authType w =
      .ok () w := captchaValid_eq_ok.mpr ⟨hcaptcha, rfl⟩
  unfold checkCredentials
  rw [bind_of_ok hsession, bind_of_ok hauthType, bind_of_ok hkaptcha]
  exact bind_of_error (throwIf_of_true hp _ w)

theorem error_of_result {e : JavaException} (h : result c request (entry form w p) = .error e)
    (hrefused : ∀ table, e ≠ dataAccess table) :
    ∃ w₁, checkCredentials c request (withPassword form p) w = .error e w₁ := by
  cases hrun : checkCredentials c request (withPassword form p) w with
  | ok userInfo w₁ =>
    rcases result_of_ok (s := entry form w p) hrun with hreturn | ⟨table, hthrow⟩
    · cases hreturn.symm.trans h
    · exact absurd (Except.error.inj (h.symm.trans hthrow)) (hrefused table)
  | error e' w₁ =>
    have hresult : result c request (entry form w p) = .error e' := result_of_error hrun
    rw [Except.error.inj (h.symm.trans hresult)]
    exact ⟨w₁, rfl⟩

/-- Where someone unknown gets the refusal of an empty password, the log has failed before the
row. -/
theorem unknownRow_of_null {w₁ : World} (hasks : asksUnknown c request (withPassword form p) w)
    (hrun : checkCredentials c request (withPassword form p) w =
      .error (badCredentials "login.error.password.null") w₁) : unknownRow request p = none := by
  by_contra hsome
  have hthrow := precheck_of_asksUnknown hasks
  rw [checkCredentials_eq] at hrun
  cases hlog : logUnknown request p w with
  | ok _ w₂ =>
    have hrefuse := hthrow.trans (bind_of_ok hlog)
    have hsame := (EStateM.Result.error.inj (hrun.symm.trans (bind_of_error hrefuse))).1
    exact absurd hsame (by decide)
  | error e' w₂ =>
    have hrefuse := hthrow.trans (bind_of_error hlog)
    cases hrun.symm.trans (bind_of_error hrefuse)
    cases insertLoginHistory_throws hlog (Option.isSome_iff_ne_none.mpr hsome)

/-- No other request gets the refusal of an empty password, unless it leaves nothing either. -/
theorem final_of_null
    (hcheck : result c request (entry form w p) =
      .error (badCredentials "login.error.password.null")) :
    broughtUser c request (withPassword form p) w = none ∧
      (final (checkCredentials c request (withPassword form p)) w).database = w.database ∧
        ¬LogsUnknown c request (withPassword form p) w := by
  obtain ⟨w₁, hrun⟩ := error_of_result hcheck fun _ => nofun
  have hfinal := final_checkCredentials c request (withPassword form p) w
  by_cases hasks : asksUnknown c request (withPassword form p) w
  · have hrow := unknownRow_of_null hasks hrun
    refine ⟨broughtUser_of_asksUnknown hasks, ?_, ?_⟩
    · rw [hfinal, if_pos hasks]
      exact (insertLoginHistory_database request (unknownUser request p) _ _ _ _ w).trans
        (logTo_of_loginRow hrow)
    · intro ⟨_, hsome⟩
      have hsame : (unknownRow request p).isSome := by
        rw [isSome_unknownRow request p none]
        exact hsome
      rw [hrow] at hsame
      cases hsame
  · have hlogs : ¬LogsUnknown c request (withPassword form p) w := fun h => hasks h.1
    rw [if_neg hasks] at hfinal
    cases hbrought : broughtUser c request (withPassword form p) w with
    | none =>
      rw [hbrought] at hfinal
      refine ⟨rfl, ?_, hlogs⟩
      rw [hfinal]
      rfl
    | some userInfo =>
      have hpre := precheck_eq_ok_iff.mpr ⟨hbrought, rfl⟩
      rw [checkCredentials_eq, bind_of_ok hpre] at hrun
      rcases bind_eq_error.mp hrun with hjudge | ⟨_, w₂, -, hpure⟩
      · exact absurd rfl (judge_ne_null hjudge)
      · cases hpure

/-- An empty password is refused as such; what comes out alike leaves no more than it does. -/
theorem persisted_of_isEmpty (hp : isEmpty p)
    (hresult : result c request (entry form w p) = result c request (entry form w p')) :
    persisted c request (entry form w p) = persisted c request (entry form w p') ∧
      ¬LogsUnknown c request (withPassword form p') w := by
  have hform : ¬formAllows c (withPassword form p) w.session := fun h => h.2.2.2.1 hp
  have hbrought : broughtUser c request (withPassword form p) w = none := by
    unfold broughtUser
    rw [if_neg fun h => hform h.1]
  have hfinal : final (checkCredentials c request (withPassword form p)) w = w := by
    rw [final_checkCredentials, if_neg fun h => hform h.1, hbrought]
    rfl
  suffices hother : broughtUser c request (withPassword form p') w = none ∧
      (final (checkCredentials c request (withPassword form p')) w).database = w.database ∧
        ¬LogsUnknown c request (withPassword form p') w by
    obtain ⟨hbrought', hdatabase, hlogs⟩ := hother
    refine ⟨?_, hlogs⟩
    rw [persisted_of_fails (s := entry form w p) (not_accepts_of_precheck hbrought),
      persisted_of_fails (s := entry form w p') (not_accepts_of_precheck hbrought')]
    simp only [entry, hfinal, hdatabase]
    rfl
  by_cases hform' : formAllows c (withPassword form p') w.session
  · apply final_of_null
    rw [← hresult]
    exact result_of_error (s := entry form w p) (checkCredentials_of_isEmpty hp hform')
  · have hbrought' : broughtUser c request (withPassword form p') w = none := by
      unfold broughtUser
      rw [if_neg fun h => hform' h.1]
    refine ⟨hbrought', ?_, fun h => hform' h.1.1⟩
    rw [final_checkCredentials, if_neg fun h => hform' h.1, hbrought']
    rfl

/-- All that an attempt for someone unknown leaves is the row about it, and what the session's user
adds. -/
theorem persisted_eq_unknownLog (hasks : asksUnknown c request (withPassword form p) w) :
    persisted c request (entry form w p) = if form.authenticated then
      logSession request w.session.currentUser (unknownLog request p w.database)
      else unknownLog request p w.database := by
  have hfails := not_accepts_of_precheck (broughtUser_of_asksUnknown hasks)
  have hfinal : (final (checkCredentials c request (withPassword form p)) w).database =
      unknownLog request p w.database := by
    rw [final_checkCredentials, if_pos hasks]
    exact insertLoginHistory_database request (unknownUser request p) _ _ _ _ w
  rw [persisted_of_fails (s := entry form w p) hfails]
  simp only [entry, hfinal]
  rfl

/-- What is left tells which row went in. -/
theorem unknownRow_of_persisted (hasks : asksUnknown c request (withPassword form p) w)
    (hasks' : asksUnknown c request (withPassword form p') w)
    (hsame : persisted c request (entry form w p) = persisted c request (entry form w p')) :
    unknownRow request p = unknownRow request p' := by
  have hhistory : ∀ q, (if form.authenticated then
      logSession request w.session.currentUser (unknownLog request q w.database)
      else unknownLog request q w.database).historyLogin =
      w.database.historyLogin ++ (unknownRow request q).toList ++ if form.authenticated then
        (w.session.currentUser.bind fun u =>
          loginRow request u "Local Login" "" "xe00000004" "success").toList else [] := by
    intro q
    unfold unknownLog unknownRow
    split_ifs
    · rw [historyLogin_logSession, historyLogin_logTo]
    · rw [historyLogin_logTo, List.append_nil]
  rw [persisted_eq_unknownLog hasks, persisted_eq_unknownLog hasks'] at hsame
  have hrows := congrArg Database.historyLogin hsame
  rw [hhistory, hhistory] at hrows
  have hlists := List.append_cancel_left (List.append_cancel_right hrows)
  simpa only [Option.head?_toList] using congrArg List.head? hlists

theorem unknownLog_congr (hasks : asksUnknown c request (withPassword form p) w)
    (hnames : LogsUnknown c request (withPassword form p) w → p.getD "" = p'.getD "") :
    unknownLog request p w.database = unknownLog request p' w.database := by
  by_cases hlogs : LogsUnknown c request (withPassword form p) w
  · have huser : unknownUser request p = unknownUser request p' := by
      unfold unknownUser
      rw [hnames hlogs]
    simp only [unknownLog, huser]
  · have hnone : ∀ q, unknownRow request q = none := by
      intro q
      rw [← Option.not_isSome_iff_eq_none, isSome_unknownRow request q none]
      exact fun hsome => hlogs ⟨hasks, hsome⟩
    exact (logTo_of_loginRow (hnone p)).trans (logTo_of_loginRow (hnone p')).symm

/-- Two attempts that ask for someone unknown leave the same exactly where no row goes in or the two
passwords read the same there. -/
theorem persisted_of_asksUnknown (hasks : asksUnknown c request (withPassword form p) w)
    (hasks' : asksUnknown c request (withPassword form p') w) :
    persisted c request (entry form w p) = persisted c request (entry form w p') ↔
      (LogsUnknown c request (withPassword form p) w → p.getD "" = p'.getD "") := by
  constructor
  · intro hsame hlogs
    have hrow := unknownRow_of_persisted hasks hasks' hsame
    have hsome : (unknownRow request p).isSome := by
      rw [isSome_unknownRow request p none]
      exact hlogs.2
    obtain ⟨row, hlogged⟩ := Option.isSome_iff_exists.mp hsome
    -- the name in the row is the password
    have hname := username_of_loginRow hlogged
    have hname' := username_of_loginRow (hrow.symm.trans hlogged)
    exact hname.symm.trans hname'
  · intro hnames
    rw [persisted_eq_unknownLog hasks, persisted_eq_unknownLog hasks', unknownLog_congr hasks hnames]

/-- Two attempts that differ in the password and come out alike leave the same in the database
exactly where they log nobody unknown, or bring the same password. -/
theorem persisted_eq_iff (c : Config) (request : HttpRequest) (form : BasicAuthentication)
    (w : World) (p p' : Option String)
    (hresult : result c request (entry form w p) = result c request (entry form w p')) :
    persisted c request (entry form w p) = persisted c request (entry form w p') ↔
      (LogsUnknown c request (withPassword form p) w → p.getD "" = p'.getD "") := by
  by_cases hempty : isEmpty p ↔ isEmpty p'
  · by_cases hasks : asksUnknown c request (withPassword form p) w
    · exact persisted_of_asksUnknown hasks ((asksUnknown_withPassword hempty).mp hasks)
    · have hsame := persisted_congr (checkCredentials_withPassword hempty hasks hresult)
      exact iff_of_true hsame fun h => absurd h.1 hasks
  · by_cases hp : isEmpty p
    · have hform : ¬formAllows c (withPassword form p) w.session := fun h => h.2.2.2.1 hp
      have hsame := (persisted_of_isEmpty hp hresult).1
      exact iff_of_true hsame fun h => absurd h.1.1 hform
    · have hp' : isEmpty p' := by
        by_contra h
        exact hempty (iff_of_false hp h)
      obtain ⟨hsame, hlogs⟩ := persisted_of_isEmpty hp' hresult.symm
      exact iff_of_true hsame.symm fun h => absurd h hlogs

end Pairs

/-- A request with a header that the login log can read. -/
def browsing : HttpRequest := { (entering "").request with userAgent := some "curl" }

def named (username : String) : BasicAuthentication :=
  { (entering "").form with username := some username }

/-- Two wrong passwords of a known user leave the same row. -/
theorem persisted_of_erin :
    result plain browsing (entry (named "erin") erinOnly (some "letmein")) =
        result plain browsing (entry (named "erin") erinOnly (some "hunter2")) ∧
      persisted plain browsing (entry (named "erin") erinOnly (some "letmein")) =
        persisted plain browsing (entry (named "erin") erinOnly (some "hunter2")) := by
  have hresult : result plain browsing (entry (named "erin") erinOnly (some "letmein")) =
      result plain browsing (entry (named "erin") erinOnly (some "hunter2")) := by decide +kernel
  refine ⟨hresult, (persisted_eq_iff plain browsing (named "erin") erinOnly _ _ hresult).mpr ?_⟩
  decide +kernel

/-- For a mistyped user name the log keeps the password, in place of the name. -/
theorem persisted_differs :
    result plain browsing (entry (named "erim") erinOnly (some "letmein")) =
        result plain browsing (entry (named "erim") erinOnly (some "hunter2")) ∧
      (persisted plain browsing (entry (named "erim") erinOnly (some "letmein"))).historyLogin.map
        HistoryLogin.username = ["letmein"] ∧
      persisted plain browsing (entry (named "erim") erinOnly (some "letmein")) ≠
        persisted plain browsing (entry (named "erim") erinOnly (some "hunter2")) := by
  decide +kernel

end MaxKey.PasswordTraces
