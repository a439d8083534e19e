import MaxKey.OAuth2
import MaxKey.Realm

namespace MaxKey.AuthorizationEndpoint
open OAuth2 JavaException Effects

/-- How approvals are remembered, over a store of them. Every handler's isApproved reads the
approved flag of the request. -/
structure UserApprovalHandler (σ : Type) where
  checkForPreApproval : ℕ → AuthorizationRequest → BasicAuthentication → σ →
    Except JavaException AuthorizationRequest
  updateAfterApproval : ℕ → AuthorizationRequest → BasicAuthentication → σ →
    AuthorizationRequest × σ
  getUserApprovalRequest : AuthorizationRequest → BasicAuthentication → σ →
    Option (List (String × String))

/-- Approves by the one parameter of the approval form and remembers nothing. -/
def defaultUserApprovalHandler (σ : Type) : UserApprovalHandler σ where
  checkForPreApproval _ request _ _ := .ok request
  updateAfterApproval _ request _ store :=
    let flag := request.approvalParameters.get "user_oauth_approval"
    let approved := flag.any fun flag => flag.toList.map Char.toLower = "true".toList
    ({ request with approved := approved }, store)
  getUserApprovalRequest _ _ _ := none

/-- The request that waits for approval in the session. A request parameter of the same name
takes its place in the model. -/
inductive Pending
  | request (authorizationRequest : AuthorizationRequest)
  | text (value : String)
  deriving DecidableEq

structure EndpointState (σ : Type) where
  world : World
  pending : Option Pending := none
  approvals : σ
  issuedCodes : List (String × OAuth2Authentication) := []

/-- What one request brings: its parameters, the clock, the code that is generated for it, and
the authentication of its security context. -/
structure Request where
  parameters : Parameters
  now : ℕ := 0
  generatedCode : String := ""
  securityContext : Option UserAuthentication := none

/-- What the endpoint answers: a redirect with a query or a fragment, or the approval page. -/
inductive View
  | code (redirectUri : String) (query : Parameters)
  | accessToken (redirectUri : String) (token : OAuth2AccessToken)
  | error (redirectUri : String) (query : Parameters) (fragment : Bool)
  | approvalPage (model : Parameters) (scopes : Option (List (String × String)))

structure Config (σ : Type) where
  clients : ClientDetailsService
  resolveRedirect : Option String → ClientDetails → Except JavaException (Option String)
  handler : UserApprovalHandler σ
  createAccessToken : OAuth2Authentication → Except JavaException OAuth2AccessToken

abbrev Endpoint (σ : Type) := EStateM JavaException (EndpointState σ)

variable {σ : Type}

def web {α : Type} (x : Web α) : Endpoint σ α :=
  focus EndpointState.world (fun world s => { s with world := world }) x

/-- The cast to Principal, which a null passes and Spring's User does not. -/
def principalOf : Principal → Except JavaException (Option BasicAuthentication)
  | .basic authentication => .ok (some authentication)
  | .name none => .ok none
  | _ => .error classCast

def sessionPrincipal : Endpoint σ (Option BasicAuthentication) := do
  let authentication ← web (WebContext.getAuthentication >>= Realm.nonNull)
  orError (principalOf authentication.getPrincipal)

def withState (state : Option String) (query : Parameters) : Parameters :=
  match state with
  | some state => query ++ [("state", state)]
  | none => query

/-- Only an OAuth2Exception is sent back to the client. -/
def getUnsuccessfulRedirect (request : AuthorizationRequest) (failure : JavaException)
    (fragment : Bool) : Except JavaException View :=
  match failure, request.redirectUri with
  | .oauth2 errorCode message, some redirectUri =>
    .ok (.error redirectUri
      (withState request.state [("error", errorCode), ("error_description", message)]) fragment)
  | .oauth2 .., none =>
    .error (insufficientAuthentication "Authorization failure, and no redirect URI.")
  | failure, _ => .error failure

/-- The token of the implicit grant is for the user of the security context. -/
def grantImplicit (c : Config σ) (request : Request) (authorizationRequest : AuthorizationRequest) :
    Except JavaException OAuth2AccessToken := do
  let client ← c.clients.loadClientByClientId authorizationRequest.clientId
  failIf (client.authorizedGrantTypes ≠ [] ∧ "implicit" ∉ client.authorizedGrantTypes)
    (invalidClient "Unauthorized grant type: implicit")
  match request.securityContext with
  | none => .error (insufficientAuthentication "There is no currently logged in user")
  | some userAuth =>
    failIf (¬userAuth.isAuthenticated)
      (insufficientAuthentication "There is no currently logged in user")
    c.createAccessToken ⟨authorizationRequest.createOAuth2Request, some userAuth⟩

def getImplicitGrantResponse (c : Config σ) (request : Request)
    (authorizationRequest : AuthorizationRequest) : Except JavaException View :=
  match grantImplicit c request authorizationRequest with
  | .ok token => .ok (.accessToken (authorizationRequest.redirectUri.getD "") token)
  | .error e => getUnsuccessfulRedirect authorizationRequest e true

/-- The query of the redirect: the code, the state, and the service of a CAS request. -/
def successfulQuery (request : AuthorizationRequest) (code : String) : Parameters :=
  let query := withState request.state [("code", code)]
  match request.requestParameters.get "service" with
  | some service => query ++ [("service", service)]
  | none => query

/-- A code is issued for the request and the user who is its principal. -/
def getAuthorizationCodeResponse (request : Request) (authorizationRequest : AuthorizationRequest)
    (principal : BasicAuthentication) : Endpoint σ View := do
  let combinedAuth : OAuth2Authentication :=
    ⟨authorizationRequest.createOAuth2Request, some (.basic principal)⟩
  modify fun s => { s with issuedCodes := s.issuedCodes ++ [(request.generatedCode, combinedAuth)] }
  return .code (authorizationRequest.redirectUri.getD "")
    (successfulQuery authorizationRequest request.generatedCode)

def respond (c : Config σ) (request : Request) (authorizationRequest : AuthorizationRequest)
    (principal : BasicAuthentication) : Endpoint σ View :=
  if "token" ∈ authorizationRequest.responseTypes then
    orError (getImplicitGrantResponse c request authorizationRequest)
  else getAuthorizationCodeResponse request authorizationRequest principal

/-- The page shows the parameters of the request, which stays in the session meanwhile. -/
def getUserApprovalPageResponse (c : Config σ) (authorizationRequest : AuthorizationRequest)
    (principal : BasicAuthentication) : Endpoint σ View := do
  let model := authorizationRequest.requestParameters
  let scopes := c.handler.getUserApprovalRequest authorizationRequest principal (← get).approvals
  let pending := match model.get "authorizationRequest" with
    | some value => Pending.text value
    | none => .request authorizationRequest
  modify fun s => { s with pending := some pending }
  return .approvalPage model scopes

/-- The request after the checks of the client and its redirect. -/
def checkedRequest (c : Config σ) (authorizationRequest : AuthorizationRequest) :
    Except JavaException AuthorizationRequest := do
  let client ← c.clients.loadClientByClientId authorizationRequest.clientId
  let resolvedRedirect ← c.resolveRedirect
    (authorizationRequest.requestParameters.get "redirect_uri") client
  failIf (¬JavaText.hasText resolvedRedirect) (redirectMismatch
    "A redirectUri must be either supplied or preconfigured in the ClientDetails")
  validateScope authorizationRequest.scope client.scope
  return { authorizationRequest with redirectUri := resolvedRedirect }

/-- The principal must be authenticated before its authorization can be completed. -/
def authenticatedPrincipal (principal : Option BasicAuthentication) :
    Except JavaException BasicAuthentication :=
  match principal with
  | some authentication =>
    if authentication.authenticated then .ok authentication
    else .error (insufficientAuthentication
      "User must be authenticated with Spring Security before authorization can be completed.")
  | none => .error (insufficientAuthentication
      "User must be authenticated with Spring Security before authorization can be completed.")

/-- The request that the parameters make, of a response type that the endpoint knows. -/
def requestedAuthorization (c : Config σ) (parameters : Parameters) :
    Except JavaException AuthorizationRequest := do
  let authorizationRequest ← RequestFactory.createAuthorizationRequest c.clients parameters
  failIf ("token" ∉ authorizationRequest.responseTypes ∧ "code" ∉ authorizationRequest.responseTypes)
    (unsupportedResponseType
      ("Unsupported response types: " ++ toString authorizationRequest.responseTypes))
  failIf (authorizationRequest.clientId = none) (invalidClient "A client id must be provided")
  return authorizationRequest

/-- What is decided about a request before its response, with the approvals as they are. -/
def preApproved (c : Config σ) (request : Request) (principal : Option BasicAuthentication)
    (approvals : σ) : Except JavaException (AuthorizationRequest × BasicAuthentication) := do
  let authorizationRequest ← requestedAuthorization c request.parameters
  let principal ← authenticatedPrincipal principal
  let authorizationRequest ← checkedRequest c authorizationRequest
  let authorizationRequest ← c.handler.checkForPreApproval request.now authorizationRequest principal
    approvals
  return (authorizationRequest, principal)

def authorize (c : Config σ) (request : Request) : Endpoint σ View := do
  let principal ← sessionPrincipal
  let (authorizationRequest, principal) ← orError
    (preApproved c request principal (← get).approvals)
  if authorizationRequest.approved then respond c request authorizationRequest principal
  else getUserApprovalPageResponse c authorizationRequest principal

/-- The request in the session. -/
def pendingRequest : Option Pending → Except JavaException AuthorizationRequest
  | some (.request authorizationRequest) => .ok authorizationRequest
  | some (.text _) => .error classCast
  | none => .error (invalidRequest "Cannot approve uninitialized authorization request.")

/-- What follows the user's decision. -/
def respondAfterApproval (c : Config σ) (request : Request)
    (authorizationRequest : AuthorizationRequest) (principal : BasicAuthentication) :
    Endpoint σ View :=
  if authorizationRequest.redirectUri = none then
    throw (invalidRequest "Cannot approve request when no redirect URI is provided.")
  else if ¬authorizationRequest.approved then
    orError (getUnsuccessfulRedirect authorizationRequest (userDenied "User denied access")
      ("token" ∈ authorizationRequest.responseTypes))
  else respond c request authorizationRequest principal

/-- The session's request takes the decision in place. -/
def takeDecision (c : Config σ) (request : Request) (principal : BasicAuthentication) :
    Endpoint σ AuthorizationRequest := do
  let authorizationRequest ← orError (pendingRequest (← get).pending)
  let decided := { authorizationRequest with approvalParameters := request.parameters }
  let (authorizationRequest, approvals) :=
    c.handler.updateAfterApproval request.now decided principal (← get).approvals
  modify fun s => { s with pending := some (.request authorizationRequest), approvals := approvals }
  return authorizationRequest

/-- The request leaves the session only when a response is returned. -/
def approve (c : Config σ) (request : Request) (principal : BasicAuthentication) :
    Endpoint σ View := do
  let authorizationRequest ← takeDecision c request principal
  let view ← respondAfterApproval c request authorizationRequest principal
  modify fun s => { s with pending := none }
  return view

def approveOrDeny (c : Config σ) (request : Request) : Endpoint σ View := do
  match ← sessionPrincipal with
  | some principal => approve c request principal
  | none =>
    throw (insufficientAuthentication
      "User must be authenticated with Spring Security before authorizing an access token.")

section Results

variable {c : Config σ} {request : Request} {s : EndpointState σ}

/-- The session's principal is read, or the code throws; nothing changes. -/
theorem sessionPrincipal_cases (s : EndpointState σ) :
    (∃ e, sessionPrincipal s = .error e s) ∨
    ∃ authentication principal, s.world.session.currentAuthentication = some authentication ∧
      principalOf authentication.getPrincipal = .ok principal ∧
      sessionPrincipal s = .ok principal s := by
  have hget : WebContext.getAuthentication s.world =
      .ok s.world.session.currentAuthentication s.world := rfl
  cases hsession : s.world.session.currentAuthentication with
  | none =>
    rw [hsession] at hget
    have hread : web (WebContext.getAuthentication >>= Realm.nonNull) s = .error nullPointer s :=
      focus_of_error (bind_of_ok hget)
    exact .inl ⟨nullPointer, bind_of_error hread⟩
  | some authentication =>
    rw [hsession] at hget
    have hread : web (WebContext.getAuthentication >>= Realm.nonNull) s = .ok authentication s :=
      focus_of_ok (bind_of_ok hget)
    have hrun : sessionPrincipal s = orError (principalOf authentication.getPrincipal) s :=
      bind_of_ok hread
    rw [hrun]
    cases hprincipal : principalOf authentication.getPrincipal with
    | error e => exact .inl ⟨e, rfl⟩
    | ok principal => exact .inr ⟨authentication, principal, rfl, hprincipal, rfl⟩

theorem principalOf_eq_some {principal : Principal} {authentication : BasicAuthentication}
    (h : principalOf principal = .ok (some authentication)) : principal = .basic authentication := by
  cases principal with
  | basic found => exact congrArg Principal.basic (Option.some.inj (Except.ok.inj h))
  | user details => cases h
  | name value => cases value <;> cases h

/-- The codes of `s'` are those of `s`, or one more for the principal. -/
def IssuesFor (principal : BasicAuthentication) (s s' : EndpointState σ) : Prop :=
  s'.issuedCodes = s.issuedCodes ∨ ∃ code authorizationRequest,
    s'.issuedCodes = s.issuedCodes ++ [(code, ⟨authorizationRequest, some (.basic principal)⟩)]

theorem respond_issues (authorizationRequest : AuthorizationRequest)
    (principal : BasicAuthentication) (s : EndpointState σ) :
    IssuesFor principal s (final (respond c request authorizationRequest principal) s) := by
  unfold respond
  split
  · exact .inl (leaves_orError (g := EndpointState.issuedCodes) _ s)
  · exact .inr ⟨request.generatedCode, _, rfl⟩

/-- Without a user in the security context the implicit grant never answers with a token. -/
theorem respond_noToken (hcontext : request.securityContext = none)
    (authorizationRequest : AuthorizationRequest) (principal : BasicAuthentication)
    {redirectUri : String} {token : OAuth2AccessToken} {s' : EndpointState σ} :
    respond c request authorizationRequest principal s ≠ .ok (.accessToken redirectUri token) s' := by
  unfold respond
  split
  · have hgrant : ∀ token, grantImplicit c request authorizationRequest ≠ .ok token := by
      intro token h
      obtain ⟨client, -, h⟩ := except_bind_eq_ok.mp h
      obtain ⟨_, -, h⟩ := except_bind_eq_ok.mp h
      rw [hcontext] at h
      cases h
    intro h
    cases hgranted : grantImplicit c request authorizationRequest with
    | ok token => exact hgrant token hgranted
    | error e =>
      simp only [getImplicitGrantResponse, hgranted, getUnsuccessfulRedirect] at h
      split at h <;> cases h
  · intro h
    cases h

theorem leaves_respond {β : Type} {g : EndpointState σ → β}
    (hg : ∀ s codes, g { s with issuedCodes := codes } = g s)
    (authorizationRequest : AuthorizationRequest) (principal : BasicAuthentication) :
    Leaves g (respond c request authorizationRequest principal) := by
  unfold respond
  split
  · exact leaves_orError _
  · exact leaves_bind (leaves_modify fun s => hg s _) fun _ => leaves_pure _

theorem leaves_respondAfterApproval {β : Type} {g : EndpointState σ → β}
    (hg : ∀ s codes, g { s with issuedCodes := codes } = g s)
    (authorizationRequest : AuthorizationRequest) (principal : BasicAuthentication) :
    Leaves g (respondAfterApproval c request authorizationRequest principal) := by
  refine leaves_ite (leaves_throw _) (leaves_ite (leaves_orError _) ?_)
  exact leaves_respond hg _ _

theorem leaves_sessionPrincipal {β : Type} (g : EndpointState σ → β) :
    Leaves g (sessionPrincipal (σ := σ)) := by
  intro s
  rcases sessionPrincipal_cases s with ⟨e, h⟩ | ⟨_, _, -, -, h⟩
  · rw [final_of_error h]
  · rw [final_of_ok h]

/-- An authorization changes neither the session's authentication, nor the database, nor the
approvals. -/
theorem leaves_authorize {β : Type} {g : EndpointState σ → β}
    (hg : ∀ s pending codes, g { s with pending := pending, issuedCodes := codes } = g s)
    (c : Config σ) (request : Request) : Leaves g (authorize c request) := by
  refine leaves_bind (leaves_sessionPrincipal _) fun principal => ?_
  refine leaves_bind leaves_get fun _ => leaves_bind (leaves_orError _) fun decided => ?_
  refine leaves_ite (leaves_respond (fun s codes => hg s s.pending codes) _ _) ?_
  refine leaves_bind leaves_get fun _ => leaves_bind (leaves_modify fun s => ?_) fun _ => ?_
  · exact hg s _ s.issuedCodes
  · exact leaves_pure _

theorem leaves_takeDecision {β : Type} {g : EndpointState σ → β}
    (hg : ∀ s pending approvals, g { s with pending := pending, approvals := approvals } = g s)
    (principal : BasicAuthentication) : Leaves g (takeDecision c request principal) := by
  refine leaves_bind leaves_get fun _ => leaves_bind (leaves_orError _) fun pending => ?_
  refine leaves_bind leaves_get fun _ => leaves_bind (leaves_modify fun s => ?_) fun _ => ?_
  · exact hg s _ _
  · exact leaves_pure _

theorem takeDecision_eq (c : Config σ) (request : Request) (principal : BasicAuthentication)
    (s : EndpointState σ) :
    takeDecision c request principal s = match pendingRequest s.pending with
      | .error e => .error e s
      | .ok waiting =>
        let decided := c.handler.updateAfterApproval request.now
          { waiting with approvalParameters := request.parameters } principal s.approvals
        .ok decided.1 { s with pending := some (.request decided.1), approvals := decided.2 } := by
  unfold takeDecision
  rw [bind_of_ok (get_apply s)]
  cases pendingRequest s.pending with
  | error e => rfl
  | ok waiting => rfl

theorem leaves_approveOrDeny (c : Config σ) (request : Request) :
    Leaves EndpointState.world (approveOrDeny c request) := by
  refine leaves_bind (leaves_sessionPrincipal _) fun principal => ?_
  cases principal with
  | none => exact leaves_throw _
  | some principal =>
    refine leaves_bind (leaves_takeDecision (fun _ _ _ => rfl) _) fun _ => ?_
    refine leaves_bind (leaves_respondAfterApproval (fun _ _ => rfl) _ _) fun view => ?_
    exact leaves_bind (leaves_modify fun _ => rfl) fun _ => leaves_pure _

theorem authenticatedPrincipal_eq_ok {principal : Option BasicAuthentication}
    {found : BasicAuthentication} (h : authenticatedPrincipal principal = .ok found) :
    principal = some found := by
  cases principal with
  | none => cases h
  | some authentication =>
    simp only [authenticatedPrincipal] at h
    split_ifs at h
    exact congrArg some (Except.ok.inj h)

theorem preApproved_principal {principal : Option BasicAuthentication} {approvals : σ}
    {decided : AuthorizationRequest × BasicAuthentication}
    (h : preApproved c request principal approvals = .ok decided) : principal = some decided.2 := by
  obtain ⟨_, -, h⟩ := except_bind_eq_ok.mp h
  obtain ⟨found, hfound, h⟩ := except_bind_eq_ok.mp h
  obtain ⟨_, -, h⟩ := except_bind_eq_ok.mp h
  obtain ⟨_, -, h⟩ := except_bind_eq_ok.mp h
  rw [← Except.ok.inj h]
  exact authenticatedPrincipal_eq_ok hfound

/-- The codes of `s'` are those of `s`, or one more for the principal of the session. -/
def Issues (s s' : EndpointState σ) : Prop :=
  s'.issuedCodes = s.issuedCodes ∨ ∃ authentication principal code authorizationRequest,
    s.world.session.currentAuthentication = some authentication ∧
    authentication.getPrincipal = .basic principal ∧
    s'.issuedCodes = s.issuedCodes ++ [(code, ⟨authorizationRequest, some (.basic principal)⟩)]

theorem issues_of_issuesFor {s s' : EndpointState σ} {authentication : Authentication}
    {principal : BasicAuthentication}
    (hsession : s.world.session.currentAuthentication = some authentication)
    (hprincipal : authentication.getPrincipal = .basic principal) (h : IssuesFor principal s s') :
    Issues s s' := by
  rcases h with hsame | ⟨code, authorizationRequest, hmore⟩
  · exact .inl hsame
  · exact .inr ⟨authentication, principal, code, authorizationRequest, hsession, hprincipal, hmore⟩

/-- An answer of authorize comes from a request that was decided for the session's principal. -/
theorem authorize_eq (c : Config σ) (request : Request) {principal : Option BasicAuthentication}
    (hrun : sessionPrincipal s = .ok principal s) :
    authorize c request s = match preApproved c request principal s.approvals with
      | .error e => .error e s
      | .ok decided =>
        if decided.1.approved then respond c request decided.1 decided.2 s
        else getUserApprovalPageResponse c decided.1 decided.2 s := by
  have hstart : authorize c request s =
      (orError (preApproved c request principal s.approvals) >>= fun decided =>
        if decided.1.approved then respond c request decided.1 decided.2
        else getUserApprovalPageResponse c decided.1 decided.2) s := bind_of_ok hrun
  rw [hstart]
  cases preApproved c request principal s.approvals with
  | error e => rfl
  | ok decided =>
    refine (bind_of_ok (a := decided) (t := s) rfl).trans ?_
    exact apply_ite (fun x : Endpoint σ View => x s) _ _ _

theorem authorize_issues (c : Config σ) (request : Request) (s : EndpointState σ) :
    Issues s (final (authorize c request) s) := by
  rcases sessionPrincipal_cases s with ⟨e, h⟩ | ⟨authentication, principal, hsession, hcast, h⟩
  · have hthrow : authorize c request s = .error e s := bind_of_error h
    rw [final_of_error hthrow]
    exact .inl rfl
  · have hrun := authorize_eq c request h
    cases hdecided : preApproved c request principal s.approvals with
    | error e =>
      rw [hdecided] at hrun
      rw [final_of_error hrun]
      exact .inl rfl
    | ok decided =>
      have hprincipal := preApproved_principal hdecided
      rw [hprincipal] at hcast
      rw [hdecided] at hrun
      simp only [final, hrun]
      split_ifs
      · exact issues_of_issuesFor hsession (principalOf_eq_some hcast) (respond_issues _ _ s)
      · exact .inl rfl

/-- A step that leaves the codes alone does not matter to what the next one issues. -/
theorem issuesFor_bind {α β : Type} {x : Endpoint σ α} {f : α → Endpoint σ β}
    {principal : BasicAuthentication} (hx : Leaves EndpointState.issuedCodes x)
    (hf : ∀ a t, IssuesFor principal t (final (f a) t)) : IssuesFor principal s (final (x >>= f) s) := by
  have hs := hx s
  cases h : x s with
  | error e t =>
    rw [final_of_error h] at hs
    rw [final_of_error (bind_of_error h)]
    exact .inl hs
  | ok a t =>
    rw [final_of_ok h] at hs
    have ht := hf a t
    simp only [IssuesFor, hs] at ht
    simpa only [IssuesFor, final, bind_of_ok h] using ht

theorem respondAfterApproval_issues (c : Config σ) (request : Request)
    (authorizationRequest : AuthorizationRequest) (principal : BasicAuthentication)
    (s : EndpointState σ) :
    IssuesFor principal s
      (final (respondAfterApproval c request authorizationRequest principal) s) := by
  unfold respondAfterApproval
  by_cases hredirect : authorizationRequest.redirectUri = none
  · rw [if_pos hredirect]
    exact .inl rfl
  · rw [if_neg hredirect]
    by_cases happroved : authorizationRequest.approved = true
    · rw [if_neg (not_not.mpr happroved)]
      exact respond_issues _ _ s
    · rw [if_pos happroved]
      exact .inl (leaves_orError (g := EndpointState.issuedCodes) _ s)

theorem approve_issues (principal : BasicAuthentication) (s : EndpointState σ) :
    IssuesFor principal s (final (approve c request principal) s) := by
  refine issuesFor_bind (leaves_takeDecision (fun _ _ _ => rfl) _) fun authorizationRequest t => ?_
  have hcodes := final_bind_of_leaves (g := EndpointState.issuedCodes)
    (x := respondAfterApproval c request authorizationRequest principal)
    (f := fun view => do
      modify fun s : EndpointState σ => { s with pending := none }
      return view)
    (fun _ => leaves_bind (leaves_modify fun _ => rfl) fun _ => leaves_pure _) t
  have hissues := respondAfterApproval_issues c request authorizationRequest principal t
  simp only [IssuesFor] at hissues ⊢
  rwa [hcodes]

theorem approveOrDeny_issues (c : Config σ) (request : Request) (s : EndpointState σ) :
    Issues s (final (approveOrDeny c request) s) := by
  rcases sessionPrincipal_cases s with ⟨e, h⟩ | ⟨authentication, principal, hsession, hcast, h⟩
  · have hthrow : approveOrDeny c request s = .error e s := bind_of_error h
    rw [final_of_error hthrow]
    exact .inl rfl
  cases principal with
  | none =>
    have hthrow : approveOrDeny c request s = .error (insufficientAuthentication
        "User must be authenticated with Spring Security before authorizing an access token.") s :=
      bind_of_ok h
    rw [final_of_error hthrow]
    exact .inl rfl
  | some principal =>
    have hrun : approveOrDeny c request s = approve c request principal s := bind_of_ok h
    simp only [final, hrun]
    exact issues_of_issuesFor hsession (principalOf_eq_some hcast) (approve_issues principal s)

/-- The view is not a token of the implicit grant. -/
def View.isToken : View → Bool
  | accessToken .. => true
  | _ => false

theorem respond_isToken (hcontext : request.securityContext = none)
    {authorizationRequest : AuthorizationRequest} {principal : BasicAuthentication} {view : View}
    {s' : EndpointState σ} (h : respond c request authorizationRequest principal s = .ok view s') :
    view.isToken = false := by
  cases view with
  | accessToken redirectUri token => exact absurd h (respond_noToken hcontext _ _)
  | _ => rfl

theorem authorize_isToken (hcontext : request.securityContext = none) {view : View}
    {s' : EndpointState σ} (h : authorize c request s = .ok view s') : view.isToken = false := by
  rcases sessionPrincipal_cases s with ⟨e, hrun⟩ | ⟨_, principal, -, -, hrun⟩
  · have hthrow : authorize c request s = .error e s := bind_of_error hrun
    rw [hthrow] at h
    cases h
  · rw [authorize_eq c request hrun] at h
    cases hdecided : preApproved c request principal s.approvals with
    | error e =>
      rw [hdecided] at h
      cases h
    | ok decided =>
      simp only [hdecided] at h
      split_ifs at h
      · exact respond_isToken hcontext h
      · cases h
        rfl

theorem approveOrDeny_isToken (hcontext : request.securityContext = none) {view : View}
    {s' : EndpointState σ} (h : approveOrDeny c request s = .ok view s') : view.isToken = false := by
  obtain ⟨principal, t, -, h⟩ := bind_eq_ok.mp h
  cases principal with
  | none => cases h
  | some principal =>
    obtain ⟨authorizationRequest, t', -, h⟩ := bind_eq_ok.mp h
    obtain ⟨answer, t'', hanswer, h⟩ := bind_eq_ok.mp h
    have hview : answer = view := by
      cases h
      rfl
    subst hview
    unfold respondAfterApproval at hanswer
    by_cases hredirect : authorizationRequest.redirectUri = none
    · rw [if_pos hredirect] at hanswer
      cases hanswer
    rw [if_neg hredirect] at hanswer
    by_cases happroved : authorizationRequest.approved = true
    · rw [if_neg (not_not.mpr happroved)] at hanswer
      exact respond_isToken hcontext hanswer
    · rw [if_pos happroved] at hanswer
      cases hredirected : authorizationRequest.redirectUri with
      | none => exact absurd hredirected hredirect
      | some redirectUri =>
        simp only [getUnsuccessfulRedirect, userDenied, hredirected] at hanswer
        cases hanswer
        rfl

end Results

end MaxKey.AuthorizationEndpoint
