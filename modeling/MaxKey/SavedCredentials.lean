import MaxKey.Runs
import MaxKey.SignOnAccess
import MaxKey.UserInfoService

namespace MaxKey.SavedCredentials
open JavaException Effects Runs SingleSignOn AuthorizeBaseEndpoint SignOnAccess

/-- What is wired: the endpoints, the password encoder, and a cipher whose decoder undoes it. -/
structure Wiring where
  endpoints : SingleSignOn.Config
  passwordEncoder : String → String
  encode : String → String
  decoder_encode : ∀ text, endpoints.decoder (some (encode text)) = .ok text

/-- The tables, and the session of the browser that asks. -/
structure Session where
  db : Tables
  browser : Browser := {}

abbrev Action := EStateM JavaException Session

def isNotEmpty (text : String) : Bool := JavaText.trim text ≠ ""

def onBrowser {α : Type} (x : SingleSignOn.Action α) : Action α :=
  focus Session.browser (fun browser s => { s with browser }) x

/-- A row that the database does not take is reported as false. -/
def AccountsService.insert (fails : Bool) (account : Accounts) : Action Bool := do
  if fails then return false
  else
    modify fun s => { s with db := { s.db with accounts := s.db.accounts ++ [account] } }
    return true

/-- A request to /authz/credential: the session it comes with, its fields, and whether the database
refuses the row. -/
structure CredentialRequest where
  userInfo : UserInfo
  browser : Browser := {}
  appId : String
  identity_username : String
  identity_password : String
  redirect_uri : String := ""
  fails : Bool := false

/-- The row that a request inserts. -/
def CredentialRequest.account (encode : String → String) (r : CredentialRequest) : Accounts where
  uid := some r.userInfo.id
  appId := some r.appId
  username := some r.userInfo.username
  relatedUsername := some r.identity_username
  relatedPassword := some (encode r.identity_password)

def AuthorizeCredentialEndpoint.authorizeCredential (encode : String → String)
    (r : CredentialRequest) : Action Response := do
  onlyIf (isNotEmpty r.identity_username ∧ isNotEmpty r.identity_password) do
    let application ← onBrowser (getApp (← get).db r.appId)
    -- the name of the application is copied
    let _ ← orThrow nullPointer application
    let _ ← AccountsService.insert r.fails (r.account encode)
  return .redirect r.redirect_uri

def ConstantsProtocols.DESKTOP : String := "Desktop"
def ConstantsProtocols.FORMBASED : String := "Form_Based"

/-- What is done to the shared password before the row of an application is written. -/
def BaseAppContorller.encodeSharedPassword (encode : String → String) (application : Apps) :
    Except JavaException Apps := do
  if application.credential ≠ Apps.SHARED then
    let protocol ← application.protocol.elim (.error nullPointer) .ok
    if protocol = ConstantsProtocols.DESKTOP ∨ protocol = ConstantsProtocols.FORMBASED then
      return { application with
        sharedPassword := application.sharedPassword.map fun password =>
          if isNotEmpty password then encode password else password }
    else return application
  else return application

/-- An application as an administrator enters it, and the row that is written for it. -/
structure SavedApp (encode : String → String) where
  entered : Apps
  row : Apps
  saved : BaseAppContorller.encodeSharedPassword encode entered = .ok row

/-- A request changes the tables, whether it is answered or throws. -/
def step (encode : String → String) (db : Tables) (r : CredentialRequest) : Tables :=
  (final (AuthorizeCredentialEndpoint.authorizeCredential encode r) ⟨db, r.browser⟩).db

/-- A request saves its two texts if neither is blank, its application is found, and the database
takes the row. -/
def CredentialRequest.saves (db : Tables) (r : CredentialRequest) : Bool :=
  isNotEmpty r.identity_username && isNotEmpty r.identity_password &&
    (served db r.browser r.appId).isSome && !r.fails

/-- The pairs that a user saves for an application, in their order. -/
def savedPairs (db : Tables) (requests : List CredentialRequest) (uid appId : String) :
    List (String × String) :=
  (requests.filter fun r => (r.userInfo.id = uid && r.appId = appId) && r.saves db).map fun r =>
    (r.identity_username, r.identity_password)

/-- What the account of a user, whose password is the one entered, is to be under each policy. The
pair of a shared application and the attribute of a user may be null. -/
structure Submitted (userInfo : UserInfo) (application : Apps) (last : Option (String × String))
    (account : Option Accounts) : Prop where
  userDefined : application.credential = Apps.USER_DEFINED →
    account.map (fun a => (a.relatedUsername, a.relatedPassword)) =
      last.map fun pair => (some pair.1, some pair.2)
  shared : application.credential = Apps.SHARED →
    ∃ a ∈ account, a.relatedUsername = application.sharedUsername ∧
      a.relatedPassword = application.sharedPassword
  system : application.credential = Apps.SYSTEM →
    ∃ a ∈ account,
      a.relatedUsername = application.systemUserAttr.bind (systemUserAttr userInfo) ∧
      a.relatedPassword = some userInfo.password
  own : application.credential = Apps.NONE →
    ∃ a ∈ account, a.relatedUsername = some userInfo.username ∧ a.relatedPassword ≠ none

variable (w : Wiring) (now : String) (userInfo : UserInfo) (app : SavedApp w.encode)
  (start : Tables) (requests : List CredentialRequest)

/-- The record of a user whose password is set. -/
def Wiring.record : UserInfo :=
  UserInfoService.passwordEncoder ⟨w.passwordEncoder, w.encode⟩ now userInfo

/-- The tables after the requests, of which the table of accounts was empty. -/
def Wiring.tables : Tables := exec (step w.encode) { start with accounts := [] } requests

/-- Every session that is served with the application gets the right account, and what was saved
before the last pair is replaced. -/
structure Lawful : Prop where
  submitted : ∀ s id, served (w.tables start requests) s id = some app.row →
    ∃ account t,
      getAccounts w.endpoints (w.tables start requests) (w.record now userInfo) id s =
        .ok account t ∧
      Submitted userInfo app.entered
        (savedPairs start requests userInfo.id app.row.id).getLast? account
  replaced : ∀ a ∈ (w.tables start requests).accounts,
    a.uid = some userInfo.id → a.appId = some app.row.id →
      ∃ pair ∈ (savedPairs start requests userInfo.id app.row.id).getLast?,
        a.relatedUsername = some pair.1 ∧ a.relatedPassword = some (w.encode pair.2)

/-- All that the user saves for the application is the one pair; the policy is not the one of the
system nor none; and a shared password is there and is what the cipher makes of it as it was
entered. -/
structure Kept : Prop where
  one : ∀ pair ∈ savedPairs start requests userInfo.id app.row.id,
    some pair = (savedPairs start requests userInfo.id app.row.id).getLast?
  not_system : app.entered.credential ≠ Apps.SYSTEM
  not_none : app.entered.credential ≠ Apps.NONE
  plain : app.entered.credential = Apps.SHARED → ∃ password,
    app.entered.sharedPassword = some password ∧
      w.endpoints.decoder (some password) = .ok password

section Saving

variable {db : Tables} {r : CredentialRequest} {encode : String → String}

/-- The rows that an insert leaves. -/
theorem insert_apply (fails : Bool) (account : Accounts) (s : Session) :
    ∃ done, AccountsService.insert fails account s = .ok done
      { s with
        db := { s.db with accounts := s.db.accounts ++ if fails then [] else [account] } } := by
  cases fails with
  | false => exact ⟨true, rfl⟩
  | true =>
    have hnothing : s.db.accounts ++ [] = s.db.accounts := List.append_nil _
    refine ⟨false, ?_⟩
    simp only [if_pos, hnothing]
    rfl

/-- The application is looked up in the session that the request comes with. -/
theorem onBrowser_getApp (s : Session) (id : String) :
    onBrowser (getApp s.db id) s =
      .ok (served s.db s.browser id)
        { s with browser := { s.browser with app := served s.db s.browser id } } :=
  focus_of_ok (getApp_apply id s.browser)

/-- One step: a request that saves adds its row, and any other leaves the tables as they were. -/
theorem step_eq (encode : String → String) (db : Tables) (r : CredentialRequest) :
    step encode db r =
      if r.saves db then { db with accounts := db.accounts ++ [r.account encode] } else db := by
  unfold step final AuthorizeCredentialEndpoint.authorizeCredential onlyIf
  by_cases htexts : isNotEmpty r.identity_username ∧ isNotEmpty r.identity_password
  · have hlookup := onBrowser_getApp ⟨db, r.browser⟩ r.appId
    rw [if_pos htexts, bind_assoc, bind_of_ok (get_apply _), bind_assoc,
      bind_of_ok hlookup]
    cases happ : served db r.browser r.appId with
    | none =>
      have hsaves : r.saves db = false := by simp [CredentialRequest.saves, happ]
      rw [hsaves]
      rfl
    | some app =>
      have hsaves : r.saves db = !r.fails := by simp [CredentialRequest.saves, happ, htexts]
      obtain ⟨done, hinsert⟩ := insert_apply r.fails (r.account encode)
        ⟨db, { r.browser with app := some app }⟩
      rw [orThrow_some_bind, bind_assoc, bind_of_ok hinsert, hsaves]
      cases hfails : r.fails with
      | false => rfl
      | true => simp
  · have hsaves : r.saves db = false := by
      simp only [CredentialRequest.saves, Bool.and_eq_false_iff]
      grind
    rw [if_neg htexts, hsaves]
    rfl

/-- What a request may save does not depend on the accounts. -/
theorem saves_accounts (accounts : List Accounts) :
    CredentialRequest.saves { db with accounts } = CredentialRequest.saves db := rfl

/-- The rows of the requests that save. -/
def inserted (encode : String → String) (db : Tables) (requests : List CredentialRequest) :
    List Accounts :=
  (requests.filter (CredentialRequest.saves db)).map (CredentialRequest.account encode)

/-- Run: the rows of the requests that save are added in their order. -/
theorem exec_step (encode : String → String) (db : Tables) (requests : List CredentialRequest) :
    exec (step encode) db requests =
      { db with accounts := db.accounts ++ inserted encode db requests } := by
  induction requests generalizing db with
  | nil => simp [inserted]
  | cons r requests ih =>
    rw [exec_cons, step_eq, ih]
    by_cases hsaves : r.saves db = true
    · simp [inserted, hsaves, saves_accounts]
    · simp [inserted, hsaves]

end Saving

section Rows

variable {now userInfo app start requests}

/-- The two columns of a row that an adapter reads. -/
def related (a : Accounts) : Option String × Option String := (a.relatedUsername, a.relatedPassword)

/-- The columns of the row that keeps a pair. -/
def Wiring.sealed (pair : String × String) : Option String × Option String :=
  (some pair.1, some (w.encode pair.2))

theorem encode_injective : Function.Injective w.encode := by
  intro x y hxy
  have hx := w.decoder_encode x
  rw [hxy, w.decoder_encode y] at hx
  exact (Except.ok.inj hx).symm

theorem sealed_injective : Function.Injective w.sealed := by
  intro p q hsealed
  have hname : p.1 = q.1 := Option.some.inj (congrArg Prod.fst hsealed)
  have hpassword : p.2 = q.2 := encode_injective w (Option.some.inj (congrArg Prod.snd hsealed))
  exact Prod.ext hname hpassword

theorem tables_accounts :
    (w.tables start requests).accounts = inserted w.encode start requests := by
  rw [Wiring.tables, exec_step]
  exact List.nil_append _

/-- The rows of a user and an application keep the pairs that the user saved for it. -/
theorem related_rows (uid appId : String) :
    ((w.tables start requests).accounts.filter fun a =>
      a.uid = some uid ∧ a.appId = some appId).map related =
      (savedPairs start requests uid appId).map w.sealed := by
  have hrow : (fun a : Accounts => decide (a.uid = some uid ∧ a.appId = some appId)) ∘
      CredentialRequest.account w.encode = fun r => r.userInfo.id = uid && r.appId = appId := by
    funext r
    simp [CredentialRequest.account]
  rw [tables_accounts, inserted, savedPairs, List.filter_map, hrow, List.filter_filter,
    List.map_map, List.map_map]
  rfl

theorem loadAccount_tables (uid appId : String) :
    (loadAccount (w.tables start requests) uid appId).map related =
      (savedPairs start requests uid appId).head?.map w.sealed := by
  rw [loadAccount, ← List.head?_filter, ← List.head?_map, related_rows, List.head?_map]

/-- All rows keep the last pair exactly if every pair that was saved is the last one. -/
theorem replaced_iff (uid appId : String) :
    (∀ a ∈ (w.tables start requests).accounts, a.uid = some uid → a.appId = some appId →
      ∃ pair ∈ (savedPairs start requests uid appId).getLast?,
        a.relatedUsername = some pair.1 ∧ a.relatedPassword = some (w.encode pair.2)) ↔
      ∀ pair ∈ savedPairs start requests uid appId,
        some pair = (savedPairs start requests uid appId).getLast? := by
  have hrows : (∀ row ∈ ((w.tables start requests).accounts.filter fun a =>
        a.uid = some uid ∧ a.appId = some appId).map related,
          ∃ pair ∈ (savedPairs start requests uid appId).getLast?, row = w.sealed pair) ↔
      ∀ row ∈ (savedPairs start requests uid appId).map w.sealed,
        ∃ pair ∈ (savedPairs start requests uid appId).getLast?, row = w.sealed pair := by
    rw [related_rows]
  rw [List.forall_mem_map, List.forall_mem_map] at hrows
  have hsealed : ∀ pair : String × String,
      (∃ pair' ∈ (savedPairs start requests uid appId).getLast?, w.sealed pair = w.sealed pair') ↔
        some pair = (savedPairs start requests uid appId).getLast? := by
    intro pair
    simp [(sealed_injective w).eq_iff, eq_comm]
  simp only [hsealed] at hrows
  rw [← hrows]
  simp [related, Wiring.sealed, List.mem_filter]

end Rows

section Policies

variable {c : SingleSignOn.Config} {db : Tables} {u : UserInfo} {application : Apps}
  {s t : Browser} {id : String} {account : Option Accounts}

theorem getAccounts_undefined (h : served db s id = some application)
    (hpolicy : application.credential = Apps.USER_DEFINED)
    (hload : loadAccount db u.id application.id = none) :
    getAccounts c db u id s = .ok none { s with app := some application } := by
  unfold getAccounts
  rw [bind_of_ok (getApp_apply id s), h, orThrow_some_bind, if_pos hpolicy, hload]
  rfl

theorem getAccounts_userDefined {a : Accounts} {password : String}
    (h : served db s id = some application)
    (hpolicy : application.credential = Apps.USER_DEFINED)
    (hload : loadAccount db u.id application.id = some a)
    (hdecoder : c.decoder a.relatedPassword = .ok password) :
    getAccounts c db u id s =
      .ok (some { a with relatedPassword := some password })
        { s with app := some application } := by
  unfold getAccounts
  rw [bind_of_ok (getApp_apply id s), h, orThrow_some_bind, if_pos hpolicy, hload]
  simp only [hdecoder, orError_ok_bind]
  rfl

theorem getAccounts_shared (h : served db s id = some application)
    (hpolicy : application.credential = Apps.SHARED) :
    getAccounts c db u id s = .ok account t ↔
      ∃ password, c.decoder application.sharedPassword = .ok password ∧
        account = some
          { relatedUsername := application.sharedUsername, relatedPassword := some password } ∧
        t = { s with app := some application } := by
  have huser : application.credential ≠ Apps.USER_DEFINED := by rw [hpolicy]; decide
  unfold getAccounts
  rw [bind_of_ok (getApp_apply id s), h, orThrow_some_bind, if_neg huser, if_pos hpolicy]
  constructor
  · intro hok
    obtain ⟨password, t', hdecoder, hpure⟩ := bind_eq_ok.mp hok
    obtain ⟨hpassword, hstate⟩ := orError_eq_ok.mp hdecoder
    cases hpure
    exact ⟨password, hpassword, rfl, hstate.symm⟩
  · intro ⟨password, hpassword, haccount, hstate⟩
    rw [hpassword, orError_ok_bind, haccount, hstate]
    rfl

/-- The password of the system is the decipherable one, with the name of the user behind it. -/
theorem getAccounts_system (h : served db s id = some application)
    (hpolicy : application.credential = Apps.SYSTEM)
    (hok : getAccounts c db u id s = .ok account t) :
    ∃ username password, c.decoder u.decipherable = .ok password ∧
      account = some { username, relatedPassword := some password } := by
  have huser : application.credential ≠ Apps.USER_DEFINED := by rw [hpolicy]; decide
  have hshared : application.credential ≠ Apps.SHARED := by rw [hpolicy]; decide
  unfold getAccounts at hok
  rw [bind_of_ok (getApp_apply id s), h, orThrow_some_bind, if_neg huser, if_neg hshared,
    if_pos hpolicy] at hok
  obtain ⟨attr, t', -, hrest⟩ := bind_eq_ok.mp hok
  obtain ⟨password, t'', hdecoder, hpure⟩ := bind_eq_ok.mp hrest
  cases hpure
  exact ⟨systemUserAttr u attr, password, (orError_eq_ok.mp hdecoder).1, rfl⟩

theorem getAccounts_none (h : served db s id = some application)
    (hpolicy : application.credential = Apps.NONE) :
    getAccounts c db u id s =
      .ok (some { username := some u.username, relatedPassword := some u.username })
        { s with app := some application } := by
  have huser : application.credential ≠ Apps.USER_DEFINED := by rw [hpolicy]; decide
  have hshared : application.credential ≠ Apps.SHARED := by rw [hpolicy]; decide
  have hsystem : application.credential ≠ Apps.SYSTEM := by rw [hpolicy]; decide
  unfold getAccounts
  rw [bind_of_ok (getApp_apply id s), h, orThrow_some_bind, if_neg huser, if_neg hshared,
    if_neg hsystem, if_pos hpolicy]
  rfl

/-- An application of no policy has an account without anything. -/
theorem getAccounts_other (h : served db s id = some application)
    (huser : application.credential ≠ Apps.USER_DEFINED)
    (hshared : application.credential ≠ Apps.SHARED)
    (hsystem : application.credential ≠ Apps.SYSTEM)
    (hnone : application.credential ≠ Apps.NONE) :
    getAccounts c db u id s = .ok (some {}) { s with app := some application } := by
  unfold getAccounts
  rw [bind_of_ok (getApp_apply id s), h, orThrow_some_bind, if_neg huser, if_neg hshared,
    if_neg hsystem, if_neg hnone]
  rfl

end Policies

section Applications

variable {encode : String → String} (app : SavedApp encode)

/-- The row of an application keeps its policy. -/
theorem SavedApp.row_credential : app.row.credential = app.entered.credential := by
  have hsaved := app.saved
  unfold BaseAppContorller.encodeSharedPassword at hsaved
  split at hsaved
  · obtain ⟨protocol, -, hrow⟩ := except_bind_eq_ok.mp hsaved
    split at hrow
    · have hcredential := congrArg Apps.credential (Except.ok.inj hrow)
      exact hcredential.symm
    · have hcredential := congrArg Apps.credential (Except.ok.inj hrow)
      exact hcredential.symm
  · have hcredential := congrArg Apps.credential (Except.ok.inj hsaved)
    exact hcredential.symm

/-- The shared password of an application that shares it is written as it was entered. -/
theorem SavedApp.row_of_shared (hpolicy : app.entered.credential = Apps.SHARED) :
    app.row = app.entered := by
  have hsaved := app.saved
  unfold BaseAppContorller.encodeSharedPassword at hsaved
  rw [if_neg (not_not.mpr hpolicy)] at hsaved
  exact (Except.ok.inj hsaved).symm

end Applications

section Law

variable {w now userInfo app start requests}

/-- The password behind which the name of the user stands is not the one that was entered. -/
theorem rawPassword_ne (username password : String) :
    Realm.rawPassword username password ≠ password := by
  intro hraw
  have hlength := congrArg String.length hraw
  simp only [Realm.rawPassword, String.length_append] at hlength
  have hat : "@".length = 1 := rfl
  omega

theorem decoder_record : w.endpoints.decoder (w.record now userInfo).decipherable =
    .ok (Realm.rawPassword userInfo.username userInfo.password) := w.decoder_encode _

/-- Where the pairs are one, the first row of the user has the last of them. -/
theorem head?_eq_getLast? {α : Type} {pairs : List α}
    (hone : ∀ pair ∈ pairs, some pair = pairs.getLast?) : pairs.head? = pairs.getLast? := by
  cases pairs with
  | nil => rfl
  | cons pair pairs => exact hone pair List.mem_cons_self

section OneSession

variable {db : Tables} {s t : Browser} {id : String} {last : Option (String × String)}
  {account : Option Accounts} (hserved : served db s id = some app.row)
include hserved

theorem not_system_of_submitted
    (hok : getAccounts w.endpoints db (w.record now userInfo) id s = .ok account t)
    (h : Submitted userInfo app.entered last account) :
    app.entered.credential ≠ Apps.SYSTEM := by
  intro hpolicy
  obtain ⟨username, password, hdecoder, haccount⟩ :=
    getAccounts_system hserved (app.row_credential.trans hpolicy) hok
  obtain ⟨a, ha, -, hpassword⟩ := h.system hpolicy
  rw [haccount] at ha
  cases ha
  rw [decoder_record] at hdecoder
  have hraw := Except.ok.inj hdecoder
  exact rawPassword_ne _ _ (hraw.trans (Option.some.inj hpassword))

theorem not_none_of_submitted
    (hok : getAccounts w.endpoints db (w.record now userInfo) id s = .ok account t)
    (h : Submitted userInfo app.entered last account) :
    app.entered.credential ≠ Apps.NONE := by
  intro hpolicy
  rw [getAccounts_none hserved (app.row_credential.trans hpolicy)] at hok
  obtain ⟨a, ha, husername, -⟩ := h.own hpolicy
  cases hok
  cases ha
  cases husername

theorem plain_of_submitted
    (hok : getAccounts w.endpoints db (w.record now userInfo) id s = .ok account t)
    (h : Submitted userInfo app.entered last account)
    (hpolicy : app.entered.credential = Apps.SHARED) :
    ∃ password, app.entered.sharedPassword = some password ∧
      w.endpoints.decoder (some password) = .ok password := by
  obtain ⟨password, hdecoder, haccount, -⟩ :=
    (getAccounts_shared hserved (app.row_credential.trans hpolicy)).mp hok
  obtain ⟨a, ha, -, hpassword⟩ := h.shared hpolicy
  rw [haccount] at ha
  cases ha
  have hplain : app.entered.sharedPassword = some password := hpassword.symm
  rw [app.row_of_shared hpolicy, hplain] at hdecoder
  exact ⟨password, hplain, hdecoder⟩

variable (now userInfo last)

/-- An application that shares its account submits it where its password survives. -/
theorem submitted_shared {password : String} (hpolicy : app.entered.credential = Apps.SHARED)
    (hplain : app.entered.sharedPassword = some password)
    (hdecoder : w.endpoints.decoder (some password) = .ok password) :
    ∃ account t, getAccounts w.endpoints db (w.record now userInfo) id s = .ok account t ∧
      Submitted userInfo app.entered last account := by
  have hrow := app.row_of_shared hpolicy
  refine ⟨_, _, (getAccounts_shared hserved (app.row_credential.trans hpolicy)).mpr
    ⟨password, by rw [hrow, hplain, hdecoder], rfl, rfl⟩, ?_⟩
  constructor
  case shared => exact fun _ => ⟨_, rfl, by rw [hrow], hplain.symm⟩
  -- the policy is no other one
  all_goals
    intro hother
    rw [hpolicy] at hother
    exact absurd hother (by decide)

/-- Of an application that has none of the policies nothing is expected. -/
theorem submitted_other (huser : app.entered.credential ≠ Apps.USER_DEFINED)
    (hshared : app.entered.credential ≠ Apps.SHARED)
    (hsystem : app.entered.credential ≠ Apps.SYSTEM)
    (hnone : app.entered.credential ≠ Apps.NONE) :
    ∃ account t, getAccounts w.endpoints db (w.record now userInfo) id s = .ok account t ∧
      Submitted userInfo app.entered last account := by
  have hok : getAccounts w.endpoints db (w.record now userInfo) id s =
      .ok (some {}) { s with app := some app.row } := by
    rw [← app.row_credential] at huser hshared hsystem hnone
    exact getAccounts_other hserved huser hshared hsystem hnone
  exact ⟨_, _, hok, fun h => absurd h huser, fun h => absurd h hshared,
    fun h => absurd h hsystem, fun h => absurd h hnone⟩

end OneSession

variable (now) in
/-- The account that the user defined is the one that was saved last, where all saved ones are. -/
theorem submitted_userDefined (hpolicy : app.entered.credential = Apps.USER_DEFINED)
    (hone : ∀ pair ∈ savedPairs start requests userInfo.id app.row.id,
      some pair = (savedPairs start requests userInfo.id app.row.id).getLast?)
    {s : Browser} {id : String} (h : served (w.tables start requests) s id = some app.row) :
    ∃ account t,
      getAccounts w.endpoints (w.tables start requests) (w.record now userInfo) id s =
        .ok account t ∧
      Submitted userInfo app.entered
        (savedPairs start requests userInfo.id app.row.id).getLast? account := by
  have hsubmitted : ∀ account : Option Accounts,
      account.map related = (savedPairs start requests userInfo.id app.row.id).getLast?.map
        (fun pair => (some pair.1, some pair.2)) →
      Submitted userInfo app.entered
        (savedPairs start requests userInfo.id app.row.id).getLast? account := by
    intro account hrelated
    refine ⟨fun _ => hrelated, ?_, ?_, ?_⟩
    all_goals
      intro hother
      rw [hpolicy] at hother
      exact absurd hother (by decide)
  have hload : (loadAccount (w.tables start requests) userInfo.id app.row.id).map related =
      (savedPairs start requests userInfo.id app.row.id).head?.map w.sealed :=
    loadAccount_tables w userInfo.id app.row.id
  rw [head?_eq_getLast? hone] at hload
  have hcredential := app.row_credential.trans hpolicy
  cases hlast : (savedPairs start requests userInfo.id app.row.id).getLast? with
  | none =>
    rw [hlast, Option.map_none, Option.map_eq_none_iff] at hload
    rw [hlast] at hsubmitted
    exact ⟨none, _, getAccounts_undefined h hcredential hload, hsubmitted none rfl⟩
  | some pair =>
    rw [hlast, Option.map_some] at hload
    rw [hlast] at hsubmitted
    obtain ⟨a, ha, hrelated⟩ := Option.map_eq_some_iff.mp hload
    have husername : a.relatedUsername = some pair.1 := congrArg Prod.fst hrelated
    have hpassword : a.relatedPassword = some (w.encode pair.2) := congrArg Prod.snd hrelated
    have hdecoder : w.endpoints.decoder a.relatedPassword = .ok pair.2 := by
      rw [hpassword, w.decoder_encode]
    refine ⟨_, _, getAccounts_userDefined h hcredential ha hdecoder, hsubmitted _ ?_⟩
    simp only [Option.map_some, related, husername]

end Law

/-- For every user, application and run of requests, single sign-on submits what the policy says and
what is saved again replaces what was saved before, exactly if the policy is neither the one of the
system nor none, the user saved one pair only, and a shared password survives its decoding. -/
theorem lawful_iff_kept :
    Lawful w now userInfo app start requests ↔ Kept w userInfo app start requests := by
  constructor
  · intro h
    have hserved : served (w.tables start requests) { app := some app.row } app.row.id =
        some app.row := served_of_kept rfl (JavaText.equalsIgnoreCase_self _)
    obtain ⟨account, t, hok, hsubmitted⟩ := h.submitted _ _ hserved
    exact ⟨(replaced_iff w userInfo.id app.row.id).mp h.replaced,
      not_system_of_submitted hserved hok hsubmitted, not_none_of_submitted hserved hok hsubmitted,
      plain_of_submitted hserved hok hsubmitted⟩
  · intro h
    refine ⟨?_, (replaced_iff w userInfo.id app.row.id).mpr h.one⟩
    intro s id hserved
    by_cases huser : app.entered.credential = Apps.USER_DEFINED
    · exact submitted_userDefined now huser h.one hserved
    · by_cases hshared : app.entered.credential = Apps.SHARED
      · obtain ⟨password, hplain, hdecoder⟩ := h.plain hshared
        exact submitted_shared now userInfo _ hserved hshared hplain hdecoder
      · exact submitted_other now userInfo _ hserved huser hshared h.not_system h.not_none

section Examples

def backwards (text : String) : String := String.ofList text.toList.reverse

theorem backwards_backwards (text : String) : backwards (backwards text) = text := by
  simp [backwards]

/-- A cipher that turns a text around. -/
def turning : Wiring where
  endpoints :=
    { SignOnAccess.wiring with
      decoder := fun text => text.elim (.error nullPointer) fun text => .ok (backwards text) }
  passwordEncoder := backwards
  encode := backwards
  decoder_encode text := by
    simp [backwards_backwards]

def mailWith (credential : Int) : SavedApp turning.encode where
  entered := { mail with credential }
  row := { mail with credential }
  saved := by
    by_cases h : credential = Apps.SHARED
    · simp [BaseAppContorller.encodeSharedPassword, h]; rfl
    · simp [BaseAppContorller.encodeSharedPassword, h]; rfl

def save (name password : String) : CredentialRequest :=
  { userInfo := ann, appId := "mail", identity_username := name, identity_password := password }

/-- The name of the user is missing where there is to be nothing else, and the first pair stays
beside the second where the account is defined by the user. -/
theorem not_lawful :
    ¬Lawful turning "" ann (mailWith Apps.NONE) SignOnAccess.tables [] ∧
      ¬Lawful turning "" ann (mailWith Apps.USER_DEFINED) SignOnAccess.tables
        [save "ann" "old", save "ann" "new"] := by
  constructor
  · intro h
    have hserved : served (turning.tables SignOnAccess.tables [])
        { app := some (mailWith Apps.NONE).row } "mail" = some (mailWith Apps.NONE).row :=
      served_of_kept rfl (JavaText.equalsIgnoreCase_self "mail")
    obtain ⟨account, t, hok, hsubmitted⟩ := h.submitted _ _ hserved
    rw [getAccounts_none hserved rfl] at hok
    obtain ⟨a, ha, husername, -⟩ := hsubmitted.own rfl
    cases hok
    cases ha
    cases husername
  · intro h
    have hone := (replaced_iff turning ann.id "mail").mp h.replaced ("ann", "old")
    exact absurd hone (by decide)

end Examples

end MaxKey.SavedCredentials
