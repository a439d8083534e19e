import MaxKey.AuthorizationEndpoint
import MaxKey.Logon
import MaxKey.TokenEndpoint

namespace MaxKey.PermissionAdapter
open WebContext Effects

/-- The first request that is turned away is remembered. -/
def turnAway (savedRequest : Option String) : Web Bool := do
  modifySession fun s => { s with firstSavedRequest := s.firstSavedRequest.orElse fun _ => savedRequest }
  return false

/-- A request passes when the session holds an Authentication with authorities; whose it is
and whether it is authenticated is not asked. -/
def preHandle (savedRequest : Option String) : Web Bool := do
  match (← getSession).currentAuthentication with
  | none => turnAway savedRequest
  | some authentication =>
    if authentication.getAuthorities.isNone then turnAway savedRequest
    else
      modifySession fun s => { s with firstSavedRequest := none }
      return true

theorem leaves_turnAway (savedRequest : Option String) :
    Leaves World.identity (turnAway savedRequest) :=
  leaves_bind (leaves_modify fun _ => rfl) fun _ => leaves_pure _

theorem leaves_preHandle (savedRequest : Option String) :
    Leaves World.identity (preHandle savedRequest) := by
  refine leaves_bind (leaves_bind leaves_get fun _ => leaves_pure _) fun session => ?_
  split
  · exact leaves_turnAway _
  · refine leaves_ite (leaves_turnAway _) ?_
    exact leaves_bind (leaves_modify fun _ => rfl) fun _ => leaves_pure _

theorem preHandle_passes {savedRequest : Option String} {w w' : World}
    (h : preHandle savedRequest w = .ok true w') : w.session.currentAuthentication.isSome := by
  obtain ⟨session, w₁, hsession, h⟩ := bind_eq_ok.mp h
  cases hsession
  cases hauth : w.session.currentAuthentication with
  | none =>
    rw [hauth] at h
    cases h
  | some authentication => rfl

end MaxKey.PermissionAdapter

namespace MaxKey.ClientSessions
open Logon Realm Effects TokenEndpoint AuthorizationEndpoint

structure Config (σ : Type) where
  realm : Realm.Config
  client : ClientAuthentication.Config
  endpoint : AuthorizationEndpoint.Config σ

/-- A session with the endpoint's state, and what its login code last put into it. -/
structure State (σ : Type) where
  endpoint : EndpointState σ
  loggedIn : Option Authentication := none

/-- The actions of a session's user: everything but the token endpoint. -/
def isUserAction : SessionAction → Bool
  | .authenticateAtTokenEndpoint _ => false
  | _ => true

/-- Nothing fills the security context, so requests come without one. -/
inductive Action
  | user (action : SessionAction) (h : isUserAction action)
  | token (services : Services) (parameters : Parameters)
  | permission (savedRequest : Option String)
  | authorize (parameters : Parameters) (now : ℕ) (generatedCode : String)
  | approveOrDeny (parameters : Parameters) (now : ℕ) (generatedCode : String)

variable {σ : Type}

def tokenRequestOf (parameters : Parameters) : ClientAuthentication.Request :=
  { parameters := parameters }

def authorizationRequestOf (parameters : Parameters) (now : ℕ) (generatedCode : String) :
    AuthorizationEndpoint.Request :=
  { parameters := parameters, now := now, generatedCode := generatedCode }

/-- A login or logout; the pending request goes with its session. -/
def userStep (c : Realm.Config) (s : State σ) (action : SessionAction) : State σ :=
  let world := Logon.step c s.endpoint.world action
  let session := s.endpoint.world.session
  { endpoint :=
      { s.endpoint with
        world := world
        pending := if world.session.id = session.id then s.endpoint.pending else none }
    loggedIn :=
      if world.session.currentAuthentication = session.currentAuthentication then s.loggedIn
      else world.session.currentAuthentication }

def step (c : Config σ) (s : State σ) : Action → State σ
  | .user action _ => userStep c.realm s action
  | .token services parameters =>
    let world := final (tokenRequest c.client services (tokenRequestOf parameters)) s.endpoint.world
    { s with endpoint := { s.endpoint with world := world } }
  | .permission savedRequest =>
    let world := final (PermissionAdapter.preHandle savedRequest) s.endpoint.world
    { s with endpoint := { s.endpoint with world := world } }
  | .authorize parameters now generatedCode =>
    let request := authorizationRequestOf parameters now generatedCode
    { s with endpoint := final (authorize c.endpoint request) s.endpoint }
  | .approveOrDeny parameters now generatedCode =>
    let request := authorizationRequestOf parameters now generatedCode
    { s with endpoint := final (approveOrDeny c.endpoint request) s.endpoint }

def nameOf (authentication : Option Authentication) : Option (Option String) :=
  authentication.map Authentication.principalName

/-- The session's Authentication names the user who is logged in, and there is none otherwise. -/
def OnlyUsers (s : State σ) : Prop :=
  nameOf s.endpoint.world.session.currentAuthentication = nameOf s.loggedIn

/-- A client authenticates in this session only where the user who is logged in bears its
name. -/
def ClientIsUser (c : Config σ) (s : State σ) : Action → Prop
  | .token _ parameters => ¬ClientAuthentication.isPassword (tokenRequestOf parameters) →
    ∀ clientId, ClientAuthentication.Verified c.client (tokenRequestOf parameters) clientId →
      nameOf s.loggedIn = some (some clientId)
  | _ => True

/-- The new codes are for the user who is logged in, and no token is answered. -/
def IssuesToUser (s : State σ) (run : Endpoint σ View) : Prop :=
  (∀ view s', run s.endpoint = .ok view s' → view.isToken = false) ∧
  ((final run s.endpoint).issuedCodes = s.endpoint.issuedCodes ∨
    ∃ code authentication, nameOf s.loggedIn = some authentication.getPrincipal.username ∧
      (final run s.endpoint).issuedCodes = s.endpoint.issuedCodes ++ [(code, authentication)])

/-- Only a user who is logged in passes and is issued codes, and only a client whose secret
was verified is issued tokens. -/
def Separate (c : Config σ) (s : State σ) : Action → Prop
  | .user .. => True
  | .token services parameters => ∀ issuance token w',
    tokenRequest c.client services (tokenRequestOf parameters) s.endpoint.world =
        .ok (some (issuance, token)) w' →
      ∃ clientId, issuance.clientId = some clientId ∧
        ClientAuthentication.Verified c.client (tokenRequestOf parameters) clientId
  | .permission savedRequest => ∀ w',
    PermissionAdapter.preHandle savedRequest s.endpoint.world = .ok true w' → s.loggedIn.isSome
  | .authorize parameters now generatedCode =>
    IssuesToUser s (authorize c.endpoint (authorizationRequestOf parameters now generatedCode))
  | .approveOrDeny parameters now generatedCode =>
    IssuesToUser s (approveOrDeny c.endpoint (authorizationRequestOf parameters now generatedCode))

theorem nameOf_isSome {s : State σ} (h : OnlyUsers s) :
    s.endpoint.world.session.currentAuthentication.isSome = s.loggedIn.isSome := by
  have hsome := congrArg Option.isSome h
  simpa only [nameOf, Option.isSome_map] using hsome

theorem issuesToUser_of_issues {s : State σ} {run : Endpoint σ View} (h : OnlyUsers s)
    (htoken : ∀ view s', run s.endpoint = .ok view s' → view.isToken = false)
    (hissues : Issues s.endpoint (final run s.endpoint)) : IssuesToUser s run := by
  refine ⟨htoken, ?_⟩
  rcases hissues with hsame | ⟨authentication, principal, code, request, hsession, hprincipal, hmore⟩
  · exact .inl hsame
  · refine .inr ⟨code, ⟨request, some (.basic principal)⟩, ?_, hmore⟩
    rw [← h, hsession]
    simp only [nameOf, Option.map_some, Authentication.principalName, hprincipal]
    rfl

theorem securityContext_tokenRequestOf (parameters : Parameters) :
    ¬ClientAuthentication.Trusted (tokenRequestOf parameters) := by
  rintro ⟨_, h, -⟩
  cases h

/-- A token request leaves the session's Authentication, or puts a verified client there. -/
theorem token_authentication (c : ClientAuthentication.Config) (services : Services)
    (parameters : Parameters) (w : World) :
    let request := tokenRequestOf parameters
    let after := final (tokenRequest c services request) w
    after.session.currentAuthentication = w.session.currentAuthentication ∨
    ¬ClientAuthentication.isPassword request ∧ ∃ user authentication,
      ClientAuthentication.Verified c request user.username ∧
      after.session.currentAuthentication =
        some (ClientAuthentication.clientToken user authentication) := by
  intro request after
  have hafter := final_tokenRequest (fun w => w.session.currentAuthentication) c services request w
  change after.session.currentAuthentication = _ at hafter
  rw [hafter]
  by_cases hpassword : ClientAuthentication.isPassword request = true
  · have hcontext : request.securityContext = none := rfl
    obtain ⟨e, he, hrun⟩ := authenticateUser_alone (c := c) (w := w) hcontext
    have hfilter : ClientAuthentication.doFilter c request w = .ok true w := by
      rw [ClientAuthentication.doFilter_password c hpassword, hrun]
      exact if_pos he
    rw [final_of_ok hfilter]
    exact .inl rfl
  · have hfilter := ClientAuthentication.doFilter_client c hpassword w
    rcases ClientAuthentication.authenticateClient_cases c hpassword w with
      ⟨htrusted, -⟩ | ⟨-, e, hrun⟩ | ⟨-, user, authentication, hverified, hrun⟩
    · exact absurd htrusted (securityContext_tokenRequestOf parameters)
    · simp only [hrun] at hfilter
      split_ifs at hfilter
      · rw [final_of_ok hfilter]
        exact .inl rfl
      · rw [final_of_error hfilter]
        exact .inl rfl
    · rw [hrun] at hfilter
      rw [final_of_ok hfilter]
      exact .inr ⟨hpassword, user, authentication, hverified, rfl⟩

theorem onlyUsers_of_leaves {s : State σ} {world : World} (h : OnlyUsers s)
    (hworld : world.identity = s.endpoint.world.identity) :
    OnlyUsers { s with endpoint := { s.endpoint with world := world } } := by
  have hauth : world.session.currentAuthentication = _ := congrArg Prod.snd hworld
  rw [OnlyUsers, hauth]
  exact h

theorem userStep_onlyUsers (c : Realm.Config) (s : State σ) (action : SessionAction)
    (h : OnlyUsers s) : OnlyUsers (userStep c s action) := by
  let session := (Logon.step c s.endpoint.world action).session
  by_cases hsame : session.currentAuthentication =
      s.endpoint.world.session.currentAuthentication
  · have hlogin : (userStep c s action).loggedIn = s.loggedIn := if_pos hsame
    rw [OnlyUsers, hlogin, ← h]
    exact congrArg nameOf hsame
  · have hlogin : (userStep c s action).loggedIn = session.currentAuthentication := if_neg hsame
    rw [OnlyUsers, hlogin]
    rfl

theorem step_onlyUsers (c : Config σ) (s : State σ) (action : Action)
    (hclient : ClientIsUser c s action) (h : OnlyUsers s) : OnlyUsers (step c s action) := by
  cases action with
  | user action haction => exact userStep_onlyUsers c.realm s action h
  | token services parameters =>
    rcases token_authentication c.client services parameters s.endpoint.world with
      hsame | ⟨hpassword, user, authentication, hverified, hstored⟩
    · rw [OnlyUsers]
      exact (congrArg nameOf hsame).trans h
    · have hname := hclient hpassword user.username hverified
      rw [OnlyUsers]
      exact (congrArg nameOf hstored).trans hname.symm
  | permission savedRequest =>
    exact onlyUsers_of_leaves h (PermissionAdapter.leaves_preHandle savedRequest _)
  | authorize parameters now generatedCode =>
    have hworld := leaves_authorize (g := EndpointState.world) (fun _ _ _ => rfl) c.endpoint
      (authorizationRequestOf parameters now generatedCode) s.endpoint
    rw [OnlyUsers, step]
    simp only [hworld]
    exact h
  | approveOrDeny parameters now generatedCode =>
    have hworld := leaves_approveOrDeny c.endpoint
      (authorizationRequestOf parameters now generatedCode) s.endpoint
    rw [OnlyUsers, step]
    simp only [hworld]
    exact h

theorem step_separate (c : Config σ) (s : State σ) (action : Action) (h : OnlyUsers s) :
    Separate c s action := by
  cases action with
  | user action haction => trivial
  | token services parameters =>
    intro issuance token w' hissued
    by_cases hpassword : ClientAuthentication.isPassword (tokenRequestOf parameters) = true
    · obtain ⟨w₁, -, hpost⟩ := tokenRequest_reached hissued
      exact absurd hpost (postAccessToken_password hpassword)
    · have hguarded := (guarded_client_iff (c := c.client) (s := services)
        (w := s.endpoint.world) hpassword).mpr (securityContext_tokenRequestOf parameters)
      exact hguarded.issued issuance token w' hissued
  | permission savedRequest =>
    intro w' hpass
    rw [← nameOf_isSome h]
    exact PermissionAdapter.preHandle_passes hpass
  | authorize parameters now generatedCode =>
    exact issuesToUser_of_issues h (fun _ _ => authorize_isToken rfl) (authorize_issues _ _ _)
  | approveOrDeny parameters now generatedCode =>
    exact issuesToUser_of_issues h (fun _ _ => approveOrDeny_isToken rfl) (approveOrDeny_issues _ _ _)

/-- In a session that starts without a login, as long as clients authenticate only under the
name of the user who is logged in: only users pass and get codes, only verified clients get
tokens, and the session's Authentication names the user. -/
theorem clients_and_users_separate (c : Config σ) (s : State σ) (actions : List Action)
    (hsession : s.endpoint.world.session.currentAuthentication = none) (hlogin : s.loggedIn = none)
    (h : Runs.Meets (step c) (ClientIsUser c) s actions) :
    Runs.Meets (step c) (Separate c) s actions ∧ OnlyUsers (Runs.exec (step c) s actions) := by
  have hstart : OnlyUsers s := by rw [OnlyUsers, hsession, hlogin]
  constructor
  · exact Runs.meets_of_invariant (step_onlyUsers c) (fun s action _ => step_separate c s action) h
      hstart
  · exact Runs.exec_invariant (step_onlyUsers c) h hstart

def oneClientSession : Config Unit where
  realm := plainRealm
  client := oneClientConfig
  endpoint :=
    { clients := oneClient, resolveRedirect := fun uri _ => .ok uri
      handler := defaultUserApprovalHandler Unit
      createAccessToken := fun _ => .error .nullPointer }

def fresh : State Unit := { endpoint := { world := ⟨twoUsers, { id := "s1" }, none⟩, approvals := () } }

def credentials (clientSecret : String) : Action :=
  .token noServices
    [("grant_type", "client_credentials"), ("client_id", "app"), ("client_secret", clientSecret)]

/-- A client authenticates in a fresh session, and the next protected request passes. -/
theorem client_passes_as_user :
    fresh.loggedIn = none ∧ ¬Runs.Meets (step oneClientSession) (Separate oneClientSession) fresh
      [credentials "s3cret", .permission none] := by
  refine ⟨rfl, fun h => ?_⟩
  obtain ⟨-, hpermission, -⟩ := h
  have hpasses := hpermission (step oneClientSession fresh (credentials "s3cret")).endpoint.world rfl
  exact absurd hpasses (by decide)

/-- alice logs in, a client fails to authenticate in her session, and she goes on. -/
theorem rejected_client_leaves_alice :
    let actions : List Action :=
      [.user (.login browser (some "alice") "Kerberos" "" "" "success") rfl, credentials "guess",
        .permission none]
    Runs.Meets (step oneClientSession) (Separate oneClientSession) fresh actions ∧
      OnlyUsers (Runs.exec (step oneClientSession) fresh actions) := by
  intro actions
  refine clients_and_users_separate oneClientSession fresh actions rfl rfl ⟨trivial, ?_, trivial, trivial⟩
  rintro - clientId ⟨name, secret, details, hpresented, haccepted, -⟩
  cases hpresented
  cases haccepted

end MaxKey.ClientSessions
