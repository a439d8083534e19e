import MaxKey.Logon

namespace MaxKey.AuthorizationHeaderUtils
open Realm

def BASIC : String := "Basic "

def isBasic (basic : String) : Bool := JavaText.startsWith basic BASIC

/-- Each byte is widened with its sign, so one from 128 on becomes a character above U+FF7F. -/
def bytes2String (bytes : List UInt8) : String :=
  String.ofList (bytes.map fun b =>
    if b < 128 then Char.ofNat b.toNat else Char.ofNat (0xFF00 + b.toNat))

variable (decodeBase64 : String → Except JavaException (List UInt8))

/-- The text that a Basic header carries. -/
def decodeUserPass (basic : String) : Except JavaException String := do
  let bytes ← decodeBase64 (← partAt (JavaText.split ' ' basic) 1)
  return bytes2String bytes

/-- `none` where the header is of another scheme. -/
def resolveBasic (basic : String) : Except JavaException (Option (List String)) :=
  if isBasic basic then do
    return some (JavaText.split ':' (← decodeUserPass decodeBase64 basic))
  else .ok none

end MaxKey.AuthorizationHeaderUtils

namespace MaxKey.BasicEntryPoint
open WebContext Realm JavaException Effects AuthorizationHeaderUtils

/-- The authentication of the security context: a token with its principal, null or the text
of its toString, or an object of another class. -/
inductive ContextAuthentication
  | usernamePassword (principal : Option String)
  | other

structure Request where
  request : HttpRequest
  servletPath : String
  authorization : Option String
  securityContext : Option ContextAuthentication := none

def skipRequestURI : List String :=
  ["/oauth/v20/token", "/oauth/v10a/request_token", "/oauth/v10a/access_token"]

def skips (requestPath : String) : Bool :=
  skipRequestURI.any fun uri => JavaText.contains uri requestPath

/-- The security context already holds this user. -/
def authenticatedAs (username : String) :
    Option ContextAuthentication → Except JavaException Bool
  | none => .ok false
  | some (.usernamePassword (some lastSessionUserName)) => .ok (lastSessionUserName = username)
  | some (.usernamePassword none) => .error nullPointer
  | some .other => .error classCast

variable (decodeBase64 : String → Except JavaException (List UInt8))

/-- The first two parts of the decoded header. -/
def usernamePassword (basicCredential : String) : Except JavaException (String × String) := do
  match ← resolveBasic decodeBase64 basicCredential with
  | none => .error nullPointer
  | some parts => return (← partAt parts 0, ← partAt parts 1)

/-- Logs the named user in; the password has no part in it. -/
def authenticate (request : Request) (username : String) : Web Bool := do
  let isAuthenticated ← orError (authenticatedAs username request.securityContext)
  if isAuthenticated then return true
  else
    let _ ← Realm.setAuthentication request.request (some username) "Basic" "" "" "success"
    return true

def preHandle (enable : Bool) (request : Request) : Web Bool := do
  if ¬enable ∨ skips request.servletPath then return true
  else
    match request.authorization with
    | none => return false
    | some basicCredential =>
      if basicCredential ≠ "" ∧ isBasic basicCredential then
        let (username, password) ← orError (usernamePassword decodeBase64 basicCredential)
        if username = "" ∨ password = "" then return false
        else authenticate request username
      else return false

/-- The header holds Basic credentials: the user name stands before the first colon. -/
def Carries (request : Request) (username password : String) : Prop :=
  ∃ basicCredential ∈ request.authorization, isBasic basicCredential ∧ ':' ∉ username.toList ∧
    decodeUserPass decodeBase64 basicCredential = .ok (username ++ ":" ++ password)

/-- The request carries the user's name with a password that the realm accepts for the user. -/
def Verified (c : Config) (request : Request) (w : World) (user : UserInfo) : Prop :=
  findUser w (some user.username) = some user ∧
    ∃ password, Carries decodeBase64 request user.username password ∧
      c.passwordMatches (rawPassword user.username password) user.password

/-- The header is of no use to the entry point, which turns the request away. -/
def TurnedAway (request : Request) : Prop :=
  ∀ basicCredential ∈ request.authorization, isBasic basicCredential →
    ∃ username password, usernamePassword decodeBase64 basicCredential = .ok (username, password) ∧
      (username = "" ∨ password = "")

/-- The session's user comes from verified credentials only, and a request without them
changes nothing, ends in no exception and passes on the three paths alone. -/
structure Guarded (c : Config) (request : Request) (w : World) : Prop where
  user : ∀ user, (final (preHandle decodeBase64 true request) w).session.currentUser = some user →
    w.session.currentUser = some user ∨ Verified decodeBase64 c request w user
  others : (∀ user, ¬Verified decodeBase64 c request w user) →
    (final (preHandle decodeBase64 true request) w).session.currentUser = w.session.currentUser ∧
    ∃ passed w', preHandle decodeBase64 true request w = .ok passed w' ∧
      (passed → request.servletPath ∈ skipRequestURI)

section Outcomes

variable {request : Request} {w : World}

theorem preHandle_skips (h : skips request.servletPath) :
    preHandle decodeBase64 true request w = .ok true w := by
  rw [preHandle, if_pos (.inr h)]
  rfl

theorem preHandle_notBasic (h : ¬skips request.servletPath)
    (hbasic : ∀ basicCredential ∈ request.authorization, ¬isBasic basicCredential) :
    preHandle decodeBase64 true request w = .ok false w := by
  rw [preHandle, if_neg (by simpa using h)]
  cases hauth : request.authorization with
  | none => rfl
  | some basicCredential =>
    have hscheme := hbasic basicCredential hauth
    exact congrFun (if_neg fun hb => hscheme hb.2) w

theorem isBasic_ne_empty {basicCredential : String} (h : isBasic basicCredential) :
    basicCredential ≠ "" := by
  rintro rfl
  exact absurd h (by decide)

theorem preHandle_basic {basicCredential : String} (h : ¬skips request.servletPath)
    (hauth : request.authorization = some basicCredential) (hbasic : isBasic basicCredential) :
    preHandle decodeBase64 true request w =
      match usernamePassword decodeBase64 basicCredential with
      | .error e => .error e w
      | .ok (username, password) =>
        if username = "" ∨ password = "" then .ok false w else authenticate request username w := by
  rw [preHandle, if_neg (by simpa using h)]
  simp only [hauth, isBasic_ne_empty hbasic, hbasic, ne_eq, not_false_eq_true, and_self, if_true]
  cases usernamePassword decodeBase64 basicCredential with
  | error e => rfl
  | ok parts =>
    refine (bind_of_ok (a := parts) (t := w) rfl).trans ?_
    exact apply_ite (fun x : Web Bool => x w) _ _ _

theorem partAt_eq_ok {parts : List String} {i : ℕ} {part : String} :
    partAt parts i = .ok part ↔ parts[i]? = some part := by
  cases h : parts[i]? <;> simp [partAt, h]

theorem authenticate_passes {username : String} {passed : Bool} {w' : World}
    (h : authenticate request username w = .ok passed w') : passed = true := by
  obtain ⟨isAuthenticated, _, -, h⟩ := bind_eq_ok.mp h
  cases isAuthenticated with
  | true =>
    cases h
    rfl
  | false =>
    obtain ⟨_, _, -, h⟩ := bind_eq_ok.mp h
    cases h
    rfl

/-- The login leaves the session's user, or sets the one who bears the name. -/
theorem authenticate_user (request : Request) (username : String) :
    (final (authenticate request username) w).session.currentUser = w.session.currentUser ∨
      ∃ user, findUser w (some username) = some user ∧
        (final (authenticate request username) w).session.currentUser = some user := by
  cases hcontext : authenticatedAs username request.securityContext with
  | error e =>
    have hthrow : authenticate request username w = .error e w := by
      rw [authenticate, hcontext]
      rfl
    rw [final_of_error hthrow]
    exact .inl rfl
  | ok isAuthenticated =>
    cases isAuthenticated with
    | true =>
      have hreturn : authenticate request username w = .ok true w := by
        rw [authenticate, hcontext]
        rfl
      rw [final_of_ok hreturn]
      exact .inl rfl
    | false =>
      let login := Realm.setAuthentication request.request (some username) "Basic" "" "" "success"
      have hrun : authenticate request username w = (login >>= fun _ => pure true) w := by
        rw [authenticate, hcontext]
        rfl
      have hidentity := final_bind_of_leaves (g := World.identity) (x := login)
        (f := fun _ => (pure true : Web Bool)) (fun _ => leaves_pure _) w
      rw [setAuthentication_identity] at hidentity
      simp only [final] at hidentity
      rw [← hrun] at hidentity
      have huser : (final (authenticate request username) w).session.currentUser = _ :=
        congrArg Prod.fst hidentity
      by_cases hselect : request.request.faults.selectUserInfo = true
      · rw [if_pos hselect] at huser
        exact .inl huser
      rw [if_neg hselect] at huser
      cases hfind : findUser w (some username) with
      | none =>
        rw [hfind] at huser
        exact .inl huser
      | some user =>
        refine .inr ⟨user, rfl, ?_⟩
        rw [huser, hfind]
        by_cases hgroups : request.request.faults.selectGroups = true <;> simp [hgroups]

/-- The user name is the first part of the decoded header. -/
theorem usernamePassword_fst {basicCredential username password : String} {parts : List String}
    (hresolve : resolveBasic decodeBase64 basicCredential = .ok (some parts))
    (h : usernamePassword decodeBase64 basicCredential = .ok (username, password)) :
    parts[0]? = some username := by
  rw [usernamePassword, hresolve] at h
  change (partAt parts 0 >>= fun username => partAt parts 1 >>= fun password =>
    pure (username, password)) = _ at h
  cases hfirst : partAt parts 0 with
  | error e =>
    rw [hfirst] at h
    cases h
  | ok first =>
    rw [hfirst] at h
    cases hsecond : partAt parts 1 with
    | error e =>
      rw [hsecond] at h
      cases h
    | ok second =>
      rw [hsecond] at h
      cases h
      exact partAt_eq_ok.mp hfirst

/-- Credentials in the header name the user that the first part names. -/
theorem username_of_carries {basicCredential username password user carried : String}
    (hauth : request.authorization = some basicCredential)
    (hparts : usernamePassword decodeBase64 basicCredential = .ok (username, password))
    (h : Carries decodeBase64 request user carried) : username = user := by
  obtain ⟨header, hheader, hbasic, hcolon, hdecode⟩ := h
  have hsame : header = basicCredential := Option.some.inj (hheader.symm.trans hauth)
  subst hsame
  let parts := JavaText.split ':' (user ++ ":" ++ carried)
  have hresolve : resolveBasic decodeBase64 header = .ok (some parts) := by
    rw [resolveBasic, if_pos hbasic, hdecode]
    rfl
  have hfirst := usernamePassword_fst decodeBase64 hresolve hparts
  refine JavaText.head_split (b := carried.toList) ?_ hcolon hfirst
  simp

end Outcomes

/-- What one request does: it passes or is turned away as it came, it throws as it came, or
it logs in the user that the header names, and then never is turned away. -/
theorem preHandle_cases (request : Request) (w : World) :
    (skips request.servletPath ∧ preHandle decodeBase64 true request w = .ok true w) ∨
    (¬skips request.servletPath ∧ TurnedAway decodeBase64 request ∧
      preHandle decodeBase64 true request w = .ok false w) ∨
    (¬skips request.servletPath ∧ ¬TurnedAway decodeBase64 request ∧
      ((∃ e, preHandle decodeBase64 true request w = .error e w) ∨
        ∃ header username password, request.authorization = some header ∧
          usernamePassword decodeBase64 header = .ok (username, password) ∧
          preHandle decodeBase64 true request w = authenticate request username w)) := by
  by_cases hskip : skips request.servletPath = true
  · exact .inl ⟨hskip, preHandle_skips decodeBase64 hskip⟩
  refine .inr ?_
  by_cases hbasic : ∀ header ∈ request.authorization, ¬isBasic header
  · refine .inl ⟨hskip, ?_, preHandle_notBasic decodeBase64 hskip hbasic⟩
    intro header hheader hscheme
    exact absurd hscheme (hbasic header hheader)
  push Not at hbasic
  obtain ⟨header, hauth, hscheme⟩ := hbasic
  have hrun := preHandle_basic (w := w) decodeBase64 hskip hauth hscheme
  have haway : TurnedAway decodeBase64 request ↔ ∃ username password,
      usernamePassword decodeBase64 header = .ok (username, password) ∧
        (username = "" ∨ password = "") := by
    refine ⟨fun h => h header hauth hscheme, fun h header' hauth' _ => ?_⟩
    rwa [Option.some.inj (hauth'.symm.trans hauth)]
  rw [haway]
  cases hparts : usernamePassword decodeBase64 header with
  | error e =>
    rw [hparts] at hrun
    exact .inr ⟨hskip, by simp, .inl ⟨e, hrun⟩⟩
  | ok parts =>
    obtain ⟨username, password⟩ := parts
    by_cases hempty : username = "" ∨ password = ""
    · simp only [hparts, if_pos hempty] at hrun
      exact .inl ⟨hskip, ⟨username, password, rfl, hempty⟩, hrun⟩
    · simp only [hparts, if_neg hempty] at hrun
      refine .inr ⟨hskip, ?_, .inr ⟨header, username, password, hauth, hparts, hrun⟩⟩
      rintro ⟨_, _, hsame, hempty'⟩
      cases hsame
      exact hempty hempty'

theorem guarded_of_unchanged {c : Config} {request : Request} {w : World} {passed : Bool}
    (h : preHandle decodeBase64 true request w = .ok passed w)
    (hpath : passed → request.servletPath ∈ skipRequestURI) : Guarded decodeBase64 c request w where
  user user huser := by
    rw [final_of_ok h] at huser
    exact .inl huser
  others _ := by
    rw [final_of_ok h]
    exact ⟨rfl, passed, w, h, hpath⟩

theorem guarded_of_verified {c : Config} {request : Request} {w : World} {user : UserInfo}
    (h : Verified decodeBase64 c request w user) : Guarded decodeBase64 c request w where
  user found hfound := by
    obtain ⟨hfind, carried, hcarries, haccepts⟩ := h
    rcases preHandle_cases decodeBase64 request w with
      ⟨-, hrun⟩ | ⟨-, -, hrun⟩ | ⟨-, -, ⟨e, hrun⟩ | ⟨header, username, password, hauth, hparts, hrun⟩⟩
    · rw [final_of_ok hrun] at hfound
      exact .inl hfound
    · rw [final_of_ok hrun] at hfound
      exact .inl hfound
    · rw [final_of_error hrun] at hfound
      exact .inl hfound
    · have hname := username_of_carries decodeBase64 hauth hparts hcarries
      subst hname
      have hlogin := authenticate_user request user.username (w := w)
      simp only [final, hrun] at hfound hlogin
      rcases hlogin with hsame | ⟨user', hfind', hset⟩
      · exact .inl (hsame.symm.trans hfound)
      · have huser : user' = user := Option.some.inj (hfind'.symm.trans hfind)
        have hfound' : user' = found := Option.some.inj (hset.symm.trans hfound)
        subst huser hfound'
        exact .inr ⟨hfind, carried, hcarries, haccepts⟩
  others hnone := absurd h (hnone user)

/-- The entry point guards the session exactly when the request carries verified credentials,
or goes to one of the three paths, or is turned away. -/
theorem preHandle_guarded_iff (c : Config) (request : Request) (w : World) :
    Guarded decodeBase64 c request w ↔
      (∃ user, Verified decodeBase64 c request w user) ∨
      request.servletPath ∈ skipRequestURI ∨
      (¬skips request.servletPath ∧ TurnedAway decodeBase64 request) := by
  constructor
  · intro h
    by_cases hverified : ∃ user, Verified decodeBase64 c request w user
    · exact .inl hverified
    obtain ⟨-, passed, w', hrun, hpath⟩ := h.others (not_exists.mp hverified)
    refine .inr ?_
    rcases preHandle_cases decodeBase64 request w with
      ⟨-, hskips⟩ | ⟨hskip, haway, -⟩ | ⟨-, -, ⟨e, hthrow⟩ | ⟨header, username, password, -, -, hlogin⟩⟩
    · rw [hskips] at hrun
      cases hrun
      exact .inl (hpath rfl)
    · exact .inr ⟨hskip, haway⟩
    · rw [hthrow] at hrun
      cases hrun
    · have hpassed := authenticate_passes (hlogin.symm.trans hrun)
      exact .inl (hpath hpassed)
  · rintro (⟨user, hverified⟩ | hpath | ⟨hskip, haway⟩)
    · exact guarded_of_verified decodeBase64 hverified
    · have hskip : skips request.servletPath := by
        refine List.any_eq_true.mpr ⟨request.servletPath, hpath, ?_⟩
        exact (JavaText.contains_iff _ _).mpr (List.infix_refl _)
      exact guarded_of_unchanged decodeBase64 (preHandle_skips decodeBase64 hskip) fun _ => hpath
    · rcases preHandle_cases decodeBase64 request w with
        ⟨hskip', -⟩ | ⟨-, -, hrun⟩ | ⟨-, haway', -⟩
      · exact absurd hskip' hskip
      · exact guarded_of_unchanged decodeBase64 hrun (by simp)
      · exact absurd haway haway'

/-- The library's decoder on the one token below. -/
def decodeGuess (token : String) : Except JavaException (List UInt8) :=
  if token = "YWRtaW46Z3Vlc3M=" then .ok ("admin:guess".toList.map fun c => c.toNat.toUInt8)
  else .ok []

/-- A request for the index page with the header of admin and a guessed password. -/
def guess : Request where
  request := Logon.browser
  servletPath := "/index"
  authorization := some "Basic YWRtaW46Z3Vlc3M="

theorem guessed_password_logs_in :
    ¬Guarded decodeGuess Logon.plainRealm guess ⟨Logon.twoUsers, { id := "s1" }, none⟩ ∧
      (final (preHandle decodeGuess true guess)
        ⟨Logon.twoUsers, { id := "s1" }, none⟩).session.currentUser = some Logon.admin := by
  have hlogin : (final (preHandle decodeGuess true guess)
      ⟨Logon.twoUsers, { id := "s1" }, none⟩).session.currentUser = some Logon.admin := by decide
  refine ⟨fun h => ?_, hlogin⟩
  rcases h.user Logon.admin hlogin with hbefore | ⟨-, password, hcarries, haccepts⟩
  · cases hbefore
  · obtain ⟨header, hheader, -, -, hdecode⟩ := hcarries
    have hsame : "Basic YWRtaW46Z3Vlc3M=" = header := Option.some.inj hheader
    subst hsame
    have htext : decodeUserPass decodeGuess "Basic YWRtaW46Z3Vlc3M=" = .ok "admin:guess" := by
      decide
    rw [htext] at hdecode
    have hjoined : "admin:guess" = "admin" ++ ":" ++ password := Except.ok.inj hdecode
    have hguess : password = "guess" := by
      have hlists := congrArg String.toList hjoined
      rw [String.toList_append, show "admin:guess" = "admin" ++ ":" ++ "guess" by decide,
        String.toList_append] at hlists
      exact String.toList_inj.mp (List.append_cancel_left hlists).symm
    subst hguess
    exact absurd haccepts (by decide)

end MaxKey.BasicEntryPoint
