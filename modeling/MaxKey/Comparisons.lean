import MaxKey.Lockouts

namespace MaxKey.Comparisons
open WebContext Realm Logon Lockouts JavaException Effects

def isBasic (authType : Option String) : Bool := authType.any (JavaText.equalsIgnoreCase · "basic")

def isTfa (authType : Option String) : Bool := authType.any (JavaText.equalsIgnoreCase · "tfa")

/-- The one-time code of the request is the one that the user's secret gives. -/
def codeValid (c : Config) (otpCaptcha : Option String) (userInfo : UserInfo) : Bool :=
  userInfo.sharedSecret.any fun encoded =>
    match c.decoder encoded with
    | .error _ => false
    | .ok sharedSecret => otpCaptcha.any fun otpCaptcha =>
      match c.otpValidate { userInfo with sharedSecret := some sharedSecret } otpCaptcha with
      | .error _ => false
      | .ok valid => valid

/-- The check of the expiration gets through, whatever it finds. -/
def expirationReadable (c : Config) (policy : PasswordPolicy) (userInfo : UserInfo) : Bool :=
  decide (policy.expiration ≤ 0) || userInfo.passwordLastSetTime.any fun lastSet =>
    match substringOf lastSet 0 19 with
    | .error _ => false
    | .ok lastSet => (c.parseDateTime lastSet).isSome

/-- The policy can be read, and lets the user go on. -/
def policyAllows (c : Config) (request : HttpRequest) (w : World) (userInfo : UserInfo) : Prop :=
  policyReadable request w ∧ ∃ policy ∈ policyOf w, userInfo.badPasswordCount < policy.attempts ∧
    (userInfo.passwordSetType = PASSWORD_NORMAL → expirationReadable c policy userInfo)

instance (c : Config) (request : HttpRequest) (w : World) (userInfo : UserInfo) :
    Decidable (policyAllows c request w userInfo) :=
  inferInstanceAs (Decidable (_ ∧ ∃ policy ∈ policyOf w, _))

/-- The form passes the checks that come before the user is loaded. -/
def formAllows (c : Config) (form : BasicAuthentication) (session : HttpSession) : Prop :=
  form.sessionId = some session.id ∧ (isBasic form.authType ∨ isTfa form.authType) ∧
    (c.captcha → isBasic form.authType → session.kaptcha.isSome ∧ form.captcha = session.kaptcha) ∧
      ¬(form.password = none ∨ form.password = some "") ∧
        ¬(form.username = none ∨ form.username = some "")

/-- All that a request needs for its password to be compared with that of the user. -/
structure Admitted (c : Config) (request : HttpRequest) (form : BasicAuthentication) (w : World)
    (userInfo : UserInfo) : Prop where
  form_allows : formAllows c form w.session
  loads : ¬request.faults.selectUserInfo
  found : findUser w form.username = some userInfo
  code : c.mfa → isTfa form.authType → codeValid c form.otpCaptcha userInfo
  policy : policyAllows c request w userInfo

/-- The user with whose password that of the request is compared, if it gets that far. -/
def comparedWith (c : Config) (request : HttpRequest) (form : BasicAuthentication) (w : World) :
    Option UserInfo :=
  match precheck c request form w with
  | .error _ _ => none
  | .ok userInfo w₁ =>
    match passwordPolicyValid c request userInfo w₁ with
    | .error _ _ => none
    | .ok _ _ => some userInfo

section Checks

variable {c : Config} {request : HttpRequest} {w w' : World}

theorem sessionValid_eq_ok {sessionId : Option String} {u : Unit} :
    sessionValid sessionId w = .ok u w' ↔ sessionId = some w.session.id ∧ w = w' := by
  have hsession : getSession w = .ok w.session w := rfl
  rw [sessionValid, bind_of_ok hsession, throwIf_eq_ok, not_not]

theorem authTypeValid_eq_ok {authType : Option String} {u : Unit} :
    authTypeValid authType w = .ok u w' ↔ (isBasic authType ∨ isTfa authType) ∧ w = w' := by
  rw [authTypeValid, throwIf_eq_ok, not_not]
  cases authType with
  | none => simp [isBasic, isTfa]
  | some authType => simp [isBasic, isTfa]

theorem captchaValid_eq_ok {captcha authType : Option String} {u : Unit} :
    captchaValid c captcha authType w = .ok u w' ↔
      (c.captcha → isBasic authType →
        w.session.kaptcha.isSome ∧ captcha = w.session.kaptcha) ∧ w = w' := by
  have hsession : getSession w = .ok w.session w := rfl
  rw [captchaValid, onlyIf_eq_ok]
  split_ifs with hasked
  · rw [bind_of_ok hsession]
    obtain ⟨hcaptcha, hbasic⟩ := hasked
    have hbasic : isBasic authType = true := hbasic
    cases hkaptcha : w.session.kaptcha with
    | none => simp [nonNull, orThrow, bind_apply, hcaptcha, hbasic]
    | some kaptcha => simp [nonNull, orThrow, throwIf_eq_ok, hcaptcha, hbasic]
  · rw [not_and] at hasked
    simp only [iff_and_self]
    intro _ hcaptcha hbasic
    exact absurd hbasic (hasked hcaptcha)

theorem userinfoValid_eq_ok {loaded : Option UserInfo} {username : Option String}
    {userInfo : UserInfo} :
    userinfoValid request loaded username w = .ok userInfo w' ↔ loaded = some userInfo ∧ w = w' := by
  cases loaded with
  | some loaded => simp [userinfoValid]
  | none =>
    refine iff_of_false ?_ ?_
    · intro h
      obtain ⟨_, _, -, hthrow⟩ := bind_eq_ok.mp h
      cases hthrow
    · simp

theorem loadUserInfo_eq_ok_iff {username : Option String} {loaded : Option UserInfo} :
    loadUserInfo request username w = .ok loaded w' ↔
      ¬request.faults.selectUserInfo ∧ loaded = findUser w username ∧ w = w' := by
  by_cases hf : request.faults.selectUserInfo = true
  · simp [loadUserInfo_throws hf, hf]
  · simp [loadUserInfo_returns hf, hf, eq_comm]

theorem tftcaptchaValid_eq_ok {otpCaptcha authType : Option String} {userInfo : UserInfo}
    {u : Unit} :
    tftcaptchaValid c otpCaptcha authType userInfo w = .ok u w' ↔
      (c.mfa → isTfa authType → codeValid c otpCaptcha userInfo) ∧ w = w' := by
  rw [tftcaptchaValid, onlyIf_eq_ok]
  split_ifs with hasked
  · obtain ⟨hmfa, htfa⟩ := hasked
    have htfa : isTfa authType = true := htfa
    simp only [hmfa, htfa, codeValid, forall_const]
    cases userInfo.sharedSecret with
    | none => simp [nonNull, orThrow, bind_apply]
    | some encoded =>
      cases hdecoded : c.decoder encoded with
      | error e => simp [nonNull, orThrow, orError, bind_apply, hdecoded]
      | ok sharedSecret =>
        cases otpCaptcha with
        | none => simp [nonNull, orThrow, orError, hdecoded]
        | some otpCaptcha =>
          cases hvalid : c.otpValidate { userInfo with sharedSecret := some sharedSecret }
              otpCaptcha with
          | error e => simp [nonNull, orThrow, orError, bind_apply, hdecoded, hvalid]
          | ok valid => simp [nonNull, orThrow, orError, throwIf_eq_ok, hdecoded, hvalid]
  · rw [not_and] at hasked
    simp only [iff_and_self]
    intro _ hmfa htfa
    exact absurd htfa (hasked hmfa)

/-- What the request passes before the policy is read, it passes without a trace. -/
theorem precheck_eq_ok {form : BasicAuthentication} {userInfo : UserInfo} :
    precheck c request form w = .ok userInfo w' ↔
      (formAllows c form w.session ∧ ¬request.faults.selectUserInfo ∧
        findUser w form.username = some userInfo ∧
          (c.mfa → isTfa form.authType → codeValid c form.otpCaptcha userInfo)) ∧ w = w' := by
  unfold precheck formAllows
  simp only [bind_eq_ok, sessionValid_eq_ok, authTypeValid_eq_ok, captchaValid_eq_ok,
    emptyPasswordValid, emptyUsernameValid, throwIf_eq_ok, loadUserInfo_eq_ok_iff,
    userinfoValid_eq_ok, tftcaptchaValid_eq_ok, pure_apply, EStateM.Result.ok.injEq]
  constructor
  · rintro ⟨_, _, ⟨hid, rfl⟩, _, _, ⟨htype, rfl⟩, _, _, ⟨hcaptcha, rfl⟩, _, _, ⟨hpassword, rfl⟩, _, _,
      ⟨hname, rfl⟩, _, _, ⟨hloads, rfl, rfl⟩, user, _, ⟨hfound, rfl⟩, _, _, ⟨hcode, rfl⟩, rfl, rfl⟩
    exact ⟨⟨⟨hid, htype, hcaptcha, hpassword, hname⟩, hloads, hfound, hcode⟩, rfl⟩
  · rintro ⟨⟨⟨hid, htype, hcaptcha, hpassword, hname⟩, hloads, hfound, hcode⟩, rfl⟩
    exact ⟨(), w, ⟨hid, rfl⟩, (), w, ⟨htype, rfl⟩, (), w, ⟨hcaptcha, rfl⟩, (), w, ⟨hpassword, rfl⟩,
      (), w, ⟨hname, rfl⟩, _, w, ⟨hloads, rfl, rfl⟩, userInfo, w, ⟨hfound, rfl⟩, (), w, ⟨hcode, rfl⟩,
      rfl, rfl⟩

theorem getPasswordPolicy_returns_iff {policy : PasswordPolicy} :
    (∃ w', getPasswordPolicy request w = .ok policy w') ↔
      policyReadable request w ∧ policyOf w = some policy := by
  constructor
  · rintro ⟨w', hget⟩
    have hread : policyReadable request w := by
      by_contra hread
      rw [getPasswordPolicy_throws hread] at hget
      cases hget
    refine ⟨hread, ?_⟩
    cases hpolicy : policyOf w with
    | some kept =>
      obtain ⟨w₁, hkept⟩ := getPasswordPolicy_returns hpolicy hread
      rw [hkept] at hget
      cases hget
      rfl
    | none =>
      -- without a policy in memory the table has one row, or the query throws
      unfold policyOf at hpolicy
      cases hcached : w.cachedPasswordPolicy with
      | some kept => simp [hcached] at hpolicy
      | none =>
        rw [hcached] at hpolicy
        rw [getPasswordPolicy, bind_of_ok (get_apply w), hcached] at hget
        obtain ⟨_, w₁, hfault, hget⟩ := bind_eq_ok.mp hget
        obtain ⟨-, hsame⟩ := throwIf_eq_ok.mp hfault
        subst hsame
        rw [bind_of_ok (get_apply w)] at hget
        rcases hrows : w.database.passwordPolicy with _ | ⟨row, _ | ⟨other, rows⟩⟩
        · rw [hrows] at hget
          cases hget
        · simp [hrows] at hpolicy
        · rw [hrows] at hget
          cases hget
  · rintro ⟨hread, hpolicy⟩
    exact getPasswordPolicy_returns hpolicy hread

theorem attemptsValid_eq_ok {policy : PasswordPolicy} {userInfo : UserInfo} {u : Unit} :
    attemptsValid request policy userInfo w = .ok u w' ↔
      userInfo.badPasswordCount < policy.attempts ∧ w = w' := by
  rw [attemptsValid, onlyIf_throw_eq_ok, ge_iff_le, Int.not_le]

theorem expirationValid_returns_iff {policy : PasswordPolicy} {userInfo : UserInfo} :
    (∃ u w', expirationValid c request policy userInfo w = .ok u w') ↔
      expirationReadable c policy userInfo := by
  simp only [expirationValid, onlyIf_eq_ok, expirationReadable, Bool.or_eq_true, decide_eq_true_eq]
  by_cases hexpires : policy.expiration > 0
  · have hpositive : ¬policy.expiration ≤ 0 := Int.not_le.mpr hexpires
    simp only [if_pos hexpires, hpositive, false_or]
    cases userInfo.passwordLastSetTime with
    | none => simp [nonNull, orThrow, bind_apply]
    | some lastSet =>
      cases hcut : substringOf lastSet 0 19 with
      | error e => simp [nonNull, orThrow, orError, bind_apply, hcut]
      | ok day =>
        cases htime : c.parseDateTime day with
        | none => simp [nonNull, orThrow, orError, hcut, htime]
        | some time =>
          simp only [nonNull, orThrow, orError, pure_bind, hcut, htime, onlyIf_eq_ok, Option.any_some,
            Option.isSome_some, iff_true]
          split_ifs
          · exact ⟨(), _, rfl⟩
          · exact ⟨(), w, rfl⟩
  · have hnever : policy.expiration ≤ 0 := Int.not_lt.mp hexpires
    simp [hexpires, hnever]

theorem passwordPolicyValid_returns_iff {userInfo : UserInfo} :
    (∃ u w', passwordPolicyValid c request userInfo w = .ok u w') ↔
      policyAllows c request w userInfo := by
  unfold passwordPolicyValid policyAllows
  constructor
  · rintro ⟨u, w', hvalid⟩
    obtain ⟨policy, w₁, hget, hvalid⟩ := bind_eq_ok.mp hvalid
    obtain ⟨hread, hpolicy⟩ := getPasswordPolicy_returns_iff.mp ⟨w₁, hget⟩
    obtain ⟨_, w₂, hattempts, hvalid⟩ := bind_eq_ok.mp hvalid
    obtain ⟨hcount, -⟩ := attemptsValid_eq_ok.mp hattempts
    refine ⟨hread, policy, hpolicy, hcount, ?_⟩
    intro hnormal
    rw [if_neg (not_not.mpr hnormal)] at hvalid
    obtain ⟨_, w₃, -, hexpires⟩ := bind_eq_ok.mp hvalid
    exact expirationValid_returns_iff.mp ⟨u, w', hexpires⟩
  · rintro ⟨hread, policy, hpolicy, hcount, hexpires⟩
    obtain ⟨w₁, hget⟩ := getPasswordPolicy_returns hpolicy hread
    have hattempts : attemptsValid request policy userInfo w₁ = .ok () w₁ :=
      attemptsValid_eq_ok.mpr ⟨hcount, rfl⟩
    rw [bind_of_ok hget, bind_of_ok hattempts]
    split_ifs with htype
    · exact ⟨(), _, rfl⟩
    · have hreadable := hexpires (not_not.mp htype)
      exact expirationValid_returns_iff.mpr hreadable

/-- The password is compared exactly for an admitted request. -/
theorem comparedWith_eq_some_iff {form : BasicAuthentication} {userInfo : UserInfo} :
    comparedWith c request form w = some userInfo ↔ Admitted c request form w userInfo := by
  unfold comparedWith
  cases hcheck : precheck c request form w with
  | error e w₁ =>
    refine iff_of_false ?_ ?_
    · simp
    · intro h
      have hpass := precheck_eq_ok.mpr ⟨⟨h.form_allows, h.loads, h.found, h.code⟩, rfl⟩
      cases hcheck.symm.trans hpass
  | ok user w₁ =>
    obtain ⟨⟨hform, hloads, hfound, hcode⟩, hsame⟩ := precheck_eq_ok.mp hcheck
    subst hsame
    simp only
    have hpolicy : (∃ u w₂, passwordPolicyValid c request user w = .ok u w₂) ↔
        policyAllows c request w user := passwordPolicyValid_returns_iff
    cases hrun : passwordPolicyValid c request user w with
    | error e w₂ =>
      refine iff_of_false ?_ ?_
      · simp
      · intro h
        have huser : user = userInfo := Option.some.inj (hfound.symm.trans h.found)
        subst huser
        obtain ⟨_, w₃, hpass⟩ := hpolicy.mpr h.policy
        cases hrun.symm.trans hpass
    | ok u w₂ =>
      simp only [Option.some.injEq]
      constructor
      · intro huser
        subst huser
        exact ⟨hform, hloads, hfound, hcode, hpolicy.mp ⟨u, w₂, hrun⟩⟩
      · intro h
        exact Option.some.inj (hfound.symm.trans h.found)

end Checks

end MaxKey.Comparisons
