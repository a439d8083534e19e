import MaxKey.KeyedTable
import MaxKey.Effects
import MaxKey.OptToken
import MaxKey.Runs

namespace MaxKey.ForgotPassword
open OptToken JavaException Effects

/-- What the controller is wired with. The encoder, the reciprocal cipher and the e-mail
pattern are library code. -/
structure Config where
  encode : String → String
  reciprocalEncode : String → String
  emailRegex : String → Bool
  mailInterval : Int
  smsInterval : Int
  optSmsProvider : String

structure State where
  userInfo : KeyedTable UserInfo.id
  optTokenStore : OptTokenStore

abbrev Recovery := EStateM JavaException State

def NOTFOUND : Int := 1
def EMAIL : Int := 2
def MOBILE : Int := 3
def CAPTCHAERROR : Int := 4

inductive PasswordResetResult
  | success
  | captchaError
  | passwordError
  deriving DecidableEq

/-- The model of the page forgotpassword/resetpwd. -/
structure ResetPage where
  userId : String
  username : String
  emailMobile : String
  forgotType : Int
  deriving DecidableEq

/-- WHERE EMAIL = ? OR MOBILE = ?, for at most one row. -/
def queryUserInfoByEmailMobile (emailMobile : String) : Recovery (Option UserInfo) := do
  match (← get).userInfo.select fun u =>
      u.email = some emailMobile ∨ u.mobile = some emailMobile with
  | [] => return none
  | [userInfo] => return some userInfo
  | _ => throw (dataAccess "TooManyResultsException")

/-- The service and the kind of code that an address gets. -/
def chosenOptAuthn (c : Config) (emailMobile : String) : OptAuthn × Int :=
  if c.emailRegex emailMobile then (.mailOtpAuthn, EMAIL) else (smsOtpAuthn c.optSmsProvider, MOBILE)

/-- The request /forgotpassword/emailmobile; `kaptcha` is the captcha of the session. -/
def email (c : Config) (kaptcha : Option String) (emailMobile captcha : String) (d : Delivery)
    (now : ℕ) : Recovery ResetPage := do
  let kaptcha ← orThrow nullPointer kaptcha
  if captcha = kaptcha then
    match ← queryUserInfoByEmailMobile emailMobile with
    | none => return { userId := "", username := "", emailMobile, forgotType := NOTFOUND }
    | some userInfo =>
      let (authn, forgotType) := chosenOptAuthn c emailMobile
      modify fun s =>
        { s with optTokenStore := (produce authn s.optTokenStore userInfo d now).1 }
      return { userId := userInfo.id, username := userInfo.username, emailMobile, forgotType }
  else
    return { userId := "", username := "", emailMobile, forgotType := CAPTCHAERROR }

def rawPassword (username password : String) : String := password ++ "@" ++ username

/-- The columns that the changePassword statement sets; the name in the encoding is given. -/
def passwordEncoder (c : Config) (username password : String) (u : UserInfo) : UserInfo :=
  { u with password := c.encode (rawPassword username password)
           decipherable := some (c.reciprocalEncode (rawPassword username password))
           passwordSetType := 0 }

def State.updatePassword (s : State) (id : String) (f : UserInfo → UserInfo)
    (keep : ∀ u, (f u).id = u.id) : State :=
  { s with userInfo := s.userInfo.update (·.id = id) f keep }

/-- The row is found by its ID alone. A failing statement is swallowed. -/
def changePassword (c : Config) (fails : Bool) (id username password : String) :
    Recovery Bool := do
  if fails then return false
  else
    let found := !((← get).userInfo.select (·.id = id)).isEmpty
    modify fun s => s.updatePassword id (passwordEncoder c username password) fun _ => rfl
    return found

/-- The fields of a /forgotpassword/setpassword request, and whether its update fails. -/
structure SetPassword where
  userId : String
  username : String
  forgotType : Int
  password : String
  confirmpassword : String
  captcha : String
  now : ℕ
  fails : Bool := false
  deriving DecidableEq

/-- The code is checked against the user name of the request, by the service of its type. -/
def validates (c : Config) (s : OptTokenStore) (r : SetPassword) : Bool :=
  r.forgotType = EMAIL && validate s r.username r.captcha "EMAIL" c.mailInterval r.now ||
    r.forgotType = MOBILE && validate s r.username r.captcha "SMS" c.smsInterval r.now

def setPassWord (c : Config) (r : SetPassword) : Recovery PasswordResetResult := do
  if r.password = r.confirmpassword then
    if validates c (← get).optTokenStore r then
      let _ ← changePassword c r.fails r.userId r.username r.password
      return .success
    else return .captchaError
  else return .passwordError

inductive Request
  | emailMobile (kaptcha : Option String) (emailMobile captcha : String) (d : Delivery) (now : ℕ)
  | setPassword (r : SetPassword)

def step (c : Config) (s : State) : Request → State
  | .emailMobile kaptcha emailMobile captcha d now =>
    final (email c kaptcha emailMobile captcha d now) s
  | .setPassword r => final (setPassWord c r) s

/-- The single row that the address query finds. -/
def findByEmailMobile (s : State) (emailMobile : String) : Option UserInfo :=
  match s.userInfo.select fun u => u.email = some emailMobile ∨ u.mobile = some emailMobile with
  | [userInfo] => some userInfo
  | _ => none

/-- The code that a request issues, with the ID of the account it issues it for. -/
def issues (c : Config) (s : State) : Request → List (String × String)
  | .emailMobile kaptcha emailMobile captcha d _ =>
    match findByEmailMobile s emailMobile with
    | some userInfo =>
      match producedToken (chosenOptAuthn c emailMobile).1 userInfo d with
      | some (some code) => if kaptcha = some captcha then [(userInfo.id, code)] else []
      | _ => []
    | none => []
  | .setPassword _ => []

theorem findByEmailMobile_mem {s : State} {emailMobile : String} {u : UserInfo}
    (h : findByEmailMobile s emailMobile = some u) : u ∈ s.userInfo.rows := by
  unfold findByEmailMobile at h
  split at h
  · rename_i hselect
    cases h
    have hmem : u ∈ [u] := List.mem_singleton_self u
    rw [← hselect, KeyedTable.mem_select] at hmem
    exact hmem.1
  · cases h

/-- An emailmobile request stores a code when its captcha is right and one account has the
address; otherwise it changes nothing. -/
theorem step_emailMobile (c : Config) (s : State) (kaptcha : Option String)
    (emailMobile captcha : String) (d : Delivery) (now : ℕ) :
    step c s (.emailMobile kaptcha emailMobile captcha d now) =
      match findByEmailMobile s emailMobile with
      | some userInfo =>
        if kaptcha = some captcha then
          { s with optTokenStore :=
              (produce (chosenOptAuthn c emailMobile).1 s.optTokenStore userInfo d now).1 }
        else s
      | none => s := by
  cases kaptcha with
  | none => cases findByEmailMobile s emailMobile <;> rfl
  | some kaptcha =>
    by_cases hcaptcha : captcha = kaptcha
    · subst hcaptcha
      simp only [step, email, orThrow, pure_bind, if_true]
      unfold findByEmailMobile queryUserInfoByEmailMobile
      simp only [final, bind_apply, get_apply]
      generalize s.userInfo.select _ = rows
      rcases rows with _ | ⟨u, _ | ⟨v, rows⟩⟩ <;> rfl
    · have hne : ¬some kaptcha = some captcha := fun h => hcaptcha (Option.some.inj h).symm
      simp only [step, email, orThrow, pure_bind, if_neg hcaptcha, if_neg hne]
      cases findByEmailMobile s emailMobile <;> rfl

/-- Whether a setpassword request gets as far as the update. -/
def changes (c : Config) (s : State) (r : SetPassword) : Bool :=
  r.password = r.confirmpassword && validates c s.optTokenStore r && !r.fails

/-- An accepted setpassword request rewrites the account with its userId, whoever the code
was checked for. -/
theorem step_setPassword (c : Config) (s : State) (r : SetPassword) :
    step c s (.setPassword r) =
      if changes c s r then
        s.updatePassword r.userId (passwordEncoder c r.username r.password) fun _ => rfl
      else s := by
  by_cases hconfirm : r.password = r.confirmpassword
  · by_cases hvalid : validates c s.optTokenStore r = true
    · by_cases hfails : r.fails = true
      · have hnot : ¬changes c s r = true := by simp [changes, hfails]
        simp only [step, setPassWord, changePassword, if_pos hconfirm, if_neg hnot, final,
          bind_apply, get_apply, if_pos hvalid, if_pos hfails, pure_apply]
      · have hchanges : changes c s r = true := by simp [changes, hconfirm, hvalid, hfails]
        simp only [step, setPassWord, changePassword, if_pos hconfirm, if_pos hchanges, final,
          bind_apply, get_apply, if_pos hvalid, if_neg hfails, pure_apply, modify_apply]
    · have hnot : ¬changes c s r = true := by simp [changes, hvalid]
      simp only [step, setPassWord, if_pos hconfirm, if_neg hnot, final, bind_apply, get_apply,
        if_neg hvalid, pure_apply]
  · have hnot : ¬changes c s r = true := by simp [changes, hconfirm]
    simp only [step, setPassWord, if_neg hconfirm, if_neg hnot, final, pure_apply]

/-- Every stored code was issued for an account that bears the name it is stored under. -/
def StoreIssued (s : State × List (String × String)) : Prop :=
  ∀ key entry code, s.1.optTokenStore key = some entry → entry.otp.token = some code →
    ∃ u ∈ s.1.userInfo.rows, u.username = entry.otp.username ∧ (u.id, code) ∈ s.2

abbrev loggedStep (c : Config) := Runs.logged (step c) (issues c)

theorem mem_updatePassword (s : State) (id : String) (f : UserInfo → UserInfo)
    (keep : ∀ u, (f u).id = u.id) (v : UserInfo) :
    v ∈ (s.updatePassword id f keep).userInfo.rows ↔
      ∃ u ∈ s.userInfo.rows, (if u.id = id then f u else u) = v := by
  simp only [State.updatePassword, KeyedTable.mem_update, decide_eq_true_eq]

theorem loggedStep_storeIssued (c : Config) (s : State × List (String × String)) (r : Request)
    (hs : StoreIssued s) : StoreIssued (loggedStep c s r) := by
  intro key entry code hentry hcode
  cases r with
  | emailMobile kaptcha emailMobile captcha d now =>
    simp only [loggedStep, Runs.logged, issues, step_emailMobile] at hentry ⊢
    have hold : s.1.optTokenStore key = some entry → ∀ log, ∃ u ∈ s.1.userInfo.rows,
        u.username = entry.otp.username ∧ (u.id, code) ∈ s.2 ++ log := by
      intro h log
      obtain ⟨u, hu, hname, hlog⟩ := hs key entry code h hcode
      exact ⟨u, hu, hname, List.mem_append_left log hlog⟩
    cases hfind : findByEmailMobile s.1 emailMobile with
    | none =>
      rw [hfind] at hentry
      exact hold hentry _
    | some userInfo =>
      rw [hfind] at hentry
      by_cases hkaptcha : kaptcha = some captcha
      · simp only [if_pos hkaptcha] at hentry ⊢
        rcases produce_eq_some hentry with h | ⟨hname, htoken⟩
        · exact hold h _
        · rw [htoken, hcode]
          refine ⟨userInfo, findByEmailMobile_mem hfind, hname.symm, ?_⟩
          exact List.mem_append_right _ (List.mem_singleton_self _)
      · simp only [if_neg hkaptcha] at hentry ⊢
        exact hold hentry _
  | setPassword r =>
    simp only [loggedStep, Runs.logged, issues, List.append_nil, step_setPassword] at hentry ⊢
    split at hentry
    · rw [if_pos ‹_›]
      obtain ⟨u, hu, hname, hlog⟩ := hs key entry code hentry hcode
      refine ⟨if u.id = r.userId then passwordEncoder c r.username r.password u else u, ?_, ?_, ?_⟩
      · exact (mem_updatePassword _ _ _ _ _).mpr ⟨u, hu, rfl⟩
      · split <;> exact hname
      · split <;> exact hlog
    · rw [if_neg ‹_›]
      exact hs key entry code hentry hcode

def codeOf : Request → Option String
  | .setPassword r => some r.captcha
  | .emailMobile .. => none

/-- A password changes only where the code of the request was issued for that very account. -/
def ChangesIssued (c : Config) (s : State × List (String × String)) (r : Request) : Prop :=
  ∀ u ∈ s.1.userInfo.rows, ∀ v ∈ (step c s.1 r).userInfo.rows, v.id = u.id →
    v.password ≠ u.password → ∃ code, codeOf r = some code ∧ (u.id, code) ∈ s.2

/-- The key under which the code of a request is looked up. -/
def requestKey (r : SetPassword) : String :=
  tokenKey r.username (if r.forgotType = EMAIL then "EMAIL" else "SMS") (some r.captcha)

/-- When a code is accepted, the entry behind it carries this code and the name of the account
with the request's userId, and no other account has this name. -/
def NamesItsAccount (c : Config) (s : State × List (String × String)) : Request → Prop
  | .setPassword r =>
    changes c s.1 r → ∀ u ∈ s.1.userInfo.rows, u.id = r.userId →
      ∀ entry, s.1.optTokenStore (requestKey r) = some entry →
        entry.otp.token = some r.captcha ∧ entry.otp.username = u.username ∧
          ∀ v ∈ s.1.userInfo.rows, v.username = u.username → v = u
  | .emailMobile .. => True

theorem changes_entry {c : Config} {s : State} {r : SetPassword} (h : changes c s r) :
    ∃ entry, s.optTokenStore (requestKey r) = some entry := by
  simp only [changes, validates, Bool.and_eq_true, Bool.or_eq_true, decide_eq_true_eq] at h
  obtain ⟨⟨-, hvalid⟩, -⟩ := h
  rcases hvalid with ⟨htype, hvalid⟩ | ⟨htype, hvalid⟩
  · rw [requestKey, if_pos htype]
    exact validate_eq_true hvalid
  · rw [requestKey, if_neg (by rw [htype]; decide)]
    exact validate_eq_true hvalid

theorem changesIssued_of_namesItsAccount (c : Config) (s : State × List (String × String))
    (r : Request) (h : NamesItsAccount c s r) (hs : StoreIssued s) : ChangesIssued c s r := by
  intro u hu v hv hid hpassword
  cases r with
  | emailMobile kaptcha emailMobile captcha d now =>
    have hrows : (step c s.1 (.emailMobile kaptcha emailMobile captcha d now)).userInfo =
        s.1.userInfo := by
      rw [step_emailMobile]
      split
      · split <;> rfl
      · rfl
    rw [hrows] at hv
    rw [KeyedTable.eq_of_key_eq s.1.userInfo hv hu hid] at hpassword
    exact absurd rfl hpassword
  | setPassword r =>
    rw [step_setPassword] at hv
    split at hv
    · rename_i hchanges
      obtain ⟨u', hu', rfl⟩ := (mem_updatePassword _ _ _ _ _).mp hv
      have hsame : u' = u := by
        refine KeyedTable.eq_of_key_eq s.1.userInfo hu' hu ?_
        split at hid <;> exact hid
      subst hsame
      by_cases huser : u'.id = r.userId
      · obtain ⟨entry, hentry⟩ := changes_entry hchanges
        obtain ⟨htoken, hname, hunique⟩ := h hchanges u' hu huser entry hentry
        obtain ⟨w, hw, hwname, hlog⟩ := hs _ entry _ hentry htoken
        rw [hunique w hw (hwname.trans hname)] at hlog
        exact ⟨r.captcha, rfl, hlog⟩
      · rw [if_neg huser] at hpassword
        exact absurd rfl hpassword
    · rw [KeyedTable.eq_of_key_eq s.1.userInfo hv hu hid] at hpassword
      exact absurd rfl hpassword

/-- From an empty store, in every run whose accepted requests name the account that their code
is stored for, each password that changes was reset with a code issued for its account. -/
theorem resets_only_issued (c : Config) (users : KeyedTable UserInfo.id) (rs : List Request)
    (h : Runs.Meets (loggedStep c) (NamesItsAccount c) (⟨users, fun _ => none⟩, []) rs) :
    Runs.Meets (loggedStep c) (ChangesIssued c) (⟨users, fun _ => none⟩, []) rs := by
  refine Runs.meets_of_invariant (I := StoreIssued) ?_ (changesIssued_of_namesItsAccount c) h ?_
  · exact fun s r _ hs => loggedStep_storeIssued c s r hs
  · intro key entry code hentry
    cases hentry

def owner : UserInfo := { id := "1", username := "owner", mobile := some "13800000001" }

def victim : UserInfo := { id := "2", username := "victim", mobile := some "13800000002" }

def smsRecovery : Config where
  encode := id
  reciprocalEncode := id
  emailRegex _ := false
  mailInterval := 30
  smsInterval := 30
  optSmsProvider := "SmsOtpAuthnAliyun"

/-- The owner's own code for the owner's own name, one second after it was sent. -/
def ownReset : SetPassword :=
  { userId := "1", username := "owner", forgotType := 3, password := "new"
    confirmpassword := "new", captcha := "123456", now := 1000 }

def ownCode : Request :=
  .emailMobile (some "k") "13800000001" "k" { token := "123456", delivered := true } 0

def ownersAndVictims : KeyedTable UserInfo.id := ⟨[owner, victim], by decide⟩

theorem own_code_resets_victim :
    ¬Runs.Meets (loggedStep smsRecovery) (ChangesIssued smsRecovery)
      (⟨ownersAndVictims, fun _ => none⟩, [])
      [ownCode, .setPassword { ownReset with userId := "2" }] := by
  rintro ⟨-, h, -⟩
  have hchanged := h victim (by decide)
    (passwordEncoder smsRecovery "owner" "new" victim) (by decide) rfl (by decide)
  obtain ⟨code, hcode, hlog⟩ := hchanged
  cases hcode
  exact absurd hlog (by decide)

theorem own_code_resets_owner :
    Runs.Meets (loggedStep smsRecovery) (ChangesIssued smsRecovery)
      (⟨ownersAndVictims, fun _ => none⟩, []) [ownCode, .setPassword ownReset] := by
  refine resets_only_issued smsRecovery ownersAndVictims _ ⟨trivial, ?_, trivial⟩
  intro _ u hu hid entry hentry
  have hstored : (step smsRecovery ⟨ownersAndVictims, fun _ => none⟩ ownCode).optTokenStore
      (requestKey ownReset) = some
        { otp := { id := "owner_SMS_123456", type := "SMS", token := some "123456"
                   username := "owner", receiver := some "13800000001", createTime := 0 }
          storedAt := 0 } := by decide
  cases hstored.symm.trans hentry
  rcases List.mem_pair.mp hu with rfl | rfl
  · refine ⟨rfl, rfl, fun v hv hname => ?_⟩
    rcases List.mem_pair.mp hv with rfl | rfl
    · rfl
    · exact absurd hname (by decide)
  · exact absurd hid (by decide)

end MaxKey.ForgotPassword
