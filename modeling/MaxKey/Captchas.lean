import MaxKey.Comparisons

namespace MaxKey.Captchas
open WebContext Realm Logon Lockouts Comparisons JavaException Effects

/-- Integer.valueOf of the single character at `i`. -/
def digitAt (text : String) (i : ℕ) : Except JavaException ℕ := do
  let part ← substringOf text i (i + 1)
  match part.toList with
  | [c] => if c.isDigit then .ok (c.toNat - '0'.toNat) else .error numberFormat
  | _ => .error numberFormat

/-- What the answer to a captcha has to be: its text, or the value of the exercise that the first
two digits of the text give. -/
def captchaAnswer (arithmetic : Bool) (text : String) : Except JavaException String :=
  if arithmetic then do
    let intParamA ← digitAt text 0
    let intParamB ← digitAt text 1
    if intParamA > intParamB ∧ (intParamA + intParamB) % 5 > 3 then
      return toString (intParamA - intParamB)
    else
      return toString (intParamA + intParamB)
  else return text

/-- The request /captcha. Its exceptions are logged; the text comes from the captcha library. -/
def captchaHandleRequest (arithmetic : Bool) (text : String) : Web Unit :=
  tryCatch (do
    let answer ← orError (captchaAnswer arithmetic text)
    modifySession fun s => { s with kaptcha := some answer }) fun _ => pure ()

/-- A session, and how many comparisons of a password its present captcha has let through. -/
structure Watch where
  world : World
  comparisons : ℕ

/-- What happens in one session, and what other requests do to the database meanwhile. -/
inductive Action
  | captcha (arithmetic : Bool) (text : String)
  | logon (request : HttpRequest) (form : BasicAuthentication)
  | elsewhere (database : Database)

def carriesCaptcha (form : BasicAuthentication) (w : World) : Bool :=
  form.captcha.isSome && form.captcha = w.session.kaptcha

/-- With MFA on, the one-time code of the request is valid for the user that it names. -/
def carriesCode (c : Config) (form : BasicAuthentication) (w : World) : Bool :=
  c.mfa && (findUser w form.username).any (codeValid c form.otpCaptcha)

/-- The password is compared, and it is the captcha that the request has to show for it. -/
def spendsCaptcha (c : Config) (request : HttpRequest) (form : BasicAuthentication) (w : World) :
    Bool :=
  (comparedWith c request form w).isSome && carriesCaptcha form w && !carriesCode c form w

def step (c : Config) (s : Watch) : Action → Watch
  | .captcha arithmetic text =>
    { world := final (captchaHandleRequest arithmetic text) s.world
      comparisons := if (captchaAnswer arithmetic text).isOk then 0 else s.comparisons }
  | .logon request form =>
    { world := (final (authenticate c request) ⟨s.world, form⟩).world
      comparisons :=
        if spendsCaptcha c request form s.world then s.comparisons + 1 else s.comparisons }
  | .elsewhere database => { s with world := { s.world with database } }

/-- The request is refused with a BadCredentialsException. -/
def refused (c : Config) (request : HttpRequest) (form : BasicAuthentication) (w : World) : Bool :=
  match outcome (doInternalAuthenticate c request) ⟨w, form⟩ with
  | .error (badCredentials _) => true
  | _ => false

/-- A password is compared only against a captcha or a one-time code, no captcha lets two
comparisons through, and where the session has none the request is refused, unless a second factor
stands in for it. -/
def Guarded (c : Config) (s : Watch) (action : Action) : Prop :=
  (step c s action).comparisons ≤ 1 ∧
    match action with
    | .logon request form =>
      ((comparedWith c request form s.world).isSome →
        carriesCaptcha form s.world ∨ carriesCode c form s.world) ∧
      (s.world.session.kaptcha = none → ¬(c.mfa ∧ isTfa form.authType) →
        refused c request form s.world)
    | _ => True

/-- A request of type "tfa" comes with MFA on; one of type "basic" comes to a session that has a
captcha, and if it is let through to the comparison by that captcha, then it is the first. A request
that does not know the session's id may come as it is. -/
def Careful (c : Config) (s : Watch) : Action → Prop
  | .logon request form =>
    form.sessionId = some s.world.session.id →
      (isTfa form.authType → c.mfa) ∧
      (isBasic form.authType → s.world.session.kaptcha.isSome ∧
        ((∃ userInfo ∈ findUser s.world form.username,
          Admitted c request form s.world userInfo) → ¬carriesCode c form s.world →
            s.comparisons = 0))
  | _ => True

instance (c : Config) (request : HttpRequest) (form : BasicAuthentication) (w : World)
    (userInfo : UserInfo) : Decidable (Admitted c request form w userInfo) :=
  decidable_of_iff _ comparedWith_eq_some_iff

instance (c : Config) (s : Watch) : DecidablePred (Guarded c s)
  | .captcha _ _ | .elsewhere _ => inferInstanceAs (Decidable (_ ∧ True))
  | .logon _ _ => inferInstanceAs (Decidable (_ ∧ (_ → _) ∧ (_ → _)))

instance (c : Config) (s : Watch) : DecidablePred (Careful c s)
  | .captcha _ _ | .elsewhere _ => isTrue trivial
  | .logon _ _ => inferInstanceAs (Decidable (_ → (_ → _) ∧ (_ → _)))

theorem carriesCode_of_admitted {c : Config} {request : HttpRequest} {form : BasicAuthentication}
    {w : World} {userInfo : UserInfo} (h : Admitted c request form w userInfo) (hmfa : c.mfa)
    (htfa : isTfa form.authType) : carriesCode c form w := by
  have hcode := h.code hmfa htfa
  simp only [carriesCode, hmfa, h.found, Option.any_some, hcode, Bool.and_self]

theorem carriesCaptcha_of_admitted {c : Config} {request : HttpRequest}
    {form : BasicAuthentication} {w : World} {userInfo : UserInfo} (hc : c.captcha)
    (h : Admitted c request form w userInfo) (hbasic : isBasic form.authType) :
    carriesCaptcha form w := by
  obtain ⟨hsome, hsame⟩ := h.form_allows.2.2.1 hc hbasic
  simp only [carriesCaptcha, hsame, hsome, decide_true, Bool.and_self]

/-- With careful requests the captcha of a session counts at most one comparison. -/
theorem step_comparisons {c : Config} {s : Watch} {action : Action} (h : Careful c s action)
    (hs : s.comparisons ≤ 1) : (step c s action).comparisons ≤ 1 := by
  cases action with
  | captcha arithmetic text =>
    simp only [step]
    split_ifs
    · exact Nat.zero_le 1
    · exact hs
  | logon request form =>
    simp only [step]
    split_ifs with hspends
    · simp only [spendsCaptcha, Bool.and_eq_true, Bool.not_eq_true', Option.isSome_iff_exists]
        at hspends
      obtain ⟨⟨⟨userInfo, hcompared⟩, -⟩, hcode⟩ := hspends
      have hadmitted := comparedWith_eq_some_iff.mp hcompared
      obtain ⟨htfa, hbasic⟩ := h hadmitted.form_allows.1
      -- a second factor would have brought its code, so the captcha was asked for
      have hnot : ¬isTfa form.authType = true := by
        intro ht
        have hvalid := carriesCode_of_admitted hadmitted (htfa ht) ht
        rw [hcode] at hvalid
        exact absurd hvalid Bool.false_ne_true
      have hasked := (hbasic (hadmitted.form_allows.2.1.resolve_right hnot)).2
      have hfirst := hasked ⟨userInfo, hadmitted.found, hadmitted⟩
      rw [hcode] at hfirst
      have hzero := hfirst Bool.false_ne_true
      omega
    · exact hs
  | elsewhere database => exact hs

theorem refused_of_precheck {c : Config} {request : HttpRequest} {form : BasicAuthentication}
    {w w' : World} {message : String}
    (h : precheck c request form w = .error (badCredentials message) w') :
    refused c request form w := by
  have hcheck : checkCredentials c request form w = .error (badCredentials message) w' := by
    rw [checkCredentials_eq, bind_of_error h]
  have hthrow : doInternalAuthenticate c request ⟨w, form⟩ =
      .error (badCredentials message) ⟨w', form⟩ :=
    (bind_of_ok (get_apply _)).trans (bind_of_error (web_of_error hcheck))
  unfold refused outcome
  rw [hthrow]

theorem sessionValid_throws {sessionId : Option String} {w : World}
    (h : sessionId ≠ some w.session.id) :
    sessionValid sessionId w = .error (badCredentials "login.error.session") w := by
  have hsession : getSession w = .ok w.session w := rfl
  rw [sessionValid, bind_of_ok hsession, throwIf_of_true h]

theorem refused_of_sessionId (c : Config) (request : HttpRequest) {form : BasicAuthentication}
    {w : World} (h : form.sessionId ≠ some w.session.id) : refused c request form w := by
  apply refused_of_precheck
  exact bind_of_error (sessionValid_throws h)

theorem refused_of_authType (c : Config) (request : HttpRequest) {form : BasicAuthentication}
    {w : World} (hsession : form.sessionId = some w.session.id)
    (hbasic : ¬isBasic form.authType = true) (htfa : ¬isTfa form.authType = true) :
    refused c request form w := by
  have hsession : sessionValid form.sessionId w = .ok () w :=
    sessionValid_eq_ok.mpr ⟨hsession, rfl⟩
  have htype : authTypeValid form.authType w = .error (badCredentials "login.error.authtype") w := by
    apply throwIf_of_true
    cases hauth : form.authType with
    | none => simp
    | some authType =>
      rw [hauth] at hbasic htfa
      simp only [isBasic, isTfa, Option.any_some] at hbasic htfa
      simp [hbasic, htfa]
  apply refused_of_precheck
  exact (bind_of_ok hsession).trans (bind_of_error htype)

/-- Along every run of careful requests passwords are compared only as the captcha guards it. -/
theorem guarded_of_careful {c : Config} (hc : c.captcha) {s : Watch} {actions : List Action}
    (hs : s.comparisons ≤ 1) (h : Runs.Meets (step c) (Careful c) s actions) :
    Runs.Meets (step c) (Guarded c) s actions := by
  apply Runs.meets_of_invariant (I := fun s => s.comparisons ≤ 1) _ _ h hs
  · intro s action hcareful hs
    exact step_comparisons hcareful hs
  · intro s action hcareful hs
    refine ⟨step_comparisons hcareful hs, ?_⟩
    cases action with
    | captcha arithmetic text => trivial
    | elsewhere database => trivial
    | logon request form =>
      constructor
      · intro hcompares
        obtain ⟨userInfo, hcompared⟩ := Option.isSome_iff_exists.mp hcompares
        have hadmitted := comparedWith_eq_some_iff.mp hcompared
        have hmfa := (hcareful hadmitted.form_allows.1).1
        rcases hadmitted.form_allows.2.1 with hbasic | htfa
        · exact .inl (carriesCaptcha_of_admitted hc hadmitted hbasic)
        · exact .inr (carriesCode_of_admitted hadmitted (hmfa htfa) htfa)
      · intro hnone hfactor
        by_cases hsession : form.sessionId = some s.world.session.id
        · obtain ⟨htfa, hbasic⟩ := hcareful hsession
          have hnotTfa : ¬isTfa form.authType = true := fun ht => hfactor ⟨htfa ht, ht⟩
          have hnotBasic : ¬isBasic form.authType = true := by
            intro hb
            have hsome := (hbasic hb).1
            rw [hnone] at hsome
            cases hsome
          exact refused_of_authType c request hsession hnotBasic hnotTfa
        · exact refused_of_sessionId c request hsession

/-- The login form with its captcha, and MFA as the installation has it. -/
def withCaptcha (mfa : Bool) : Config :=
  { plain with captcha := true, mfa, otpValidate := fun _ code => .ok (code = "987654") }

def frank : UserInfo :=
  { id := "1", username := "frank", password := "right@frank", sharedSecret := some "seed" }

def frankOnly : Watch where
  world :=
    { database :=
        { userInfo := ⟨[frank], by decide⟩, historyLogin := [], groupMember := []
          passwordPolicy := [{ attempts := 5, expiration := 0 }] }
      session := { id := "s" } }
  comparisons := 0

def submitting (authType password : String) (captcha otpCaptcha : Option String) : Action :=
  .logon { userAgent := none, newSessionId := "t", loginSessionId := "u" }
    { username := some "frank", password := some password, sessionId := some "s"
      captcha, otpCaptcha, authType := some authType }

/-- A wrong password on the first captcha, then the right one with a one-time code. -/
theorem guarded_of_secondFactor :
    Runs.Meets (step (withCaptcha true)) (Guarded (withCaptcha true)) frankOnly
      [.captcha false "7421", submitting "basic" "wrong" (some "7421") none,
        .captcha true "8500", submitting "TFA" "right" none (some "987654")] := by
  apply guarded_of_careful rfl (Nat.zero_le 1)
  decide +kernel

/-- Without MFA the type "tfa" gets a password compared against nothing, one captcha serves for two
comparisons, and a request to a session without captcha ends in a NullPointerException. -/
theorem unguarded_comparisons :
    ¬Runs.Meets (step (withCaptcha false)) (Guarded (withCaptcha false)) frankOnly
      [.captcha false "7421", submitting "tfa" "wrong" none none] ∧
    ¬Runs.Meets (step (withCaptcha true)) (Guarded (withCaptcha true)) frankOnly
      [.captcha false "7421", submitting "basic" "wrong" (some "7421") none,
        submitting "basic" "worse" (some "7421") none] ∧
    ¬Runs.Meets (step (withCaptcha true)) (Guarded (withCaptcha true)) frankOnly
      [submitting "basic" "right" (some "7421") none] := by
  decide +kernel

end MaxKey.Captchas
