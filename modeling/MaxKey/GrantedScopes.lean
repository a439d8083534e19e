import MaxKey.ScopedTokens
import MaxKey.SharedApprovals
import MaxKey.TokenEndpoint

namespace MaxKey.GrantedScopes
open OAuth2 OAuth2Utils AuthorizationEndpoint JavaException Effects

/-- The token services as a request finds them: after these calls, with what it draws itself. -/
structure Service where
  calls : List DefaultTokenServices.Call := []
  m : Moment
  genuine : DefaultTokenServices.Genuine calls

/-- The two endpoints, for clients that use one registry and sessions that never change. -/
structure System (ι : Type) where
  clients : ClientDetailsService
  resolveRedirect : Option String → ClientDetails → Except JavaException (Option String)
  handler : ApprovalStoreUserApprovalHandler
  database : Database
  sessions : ι → HttpSession
  digest : String → String
  tokenServices : DefaultTokenServices
  flushInterval : ℤ := 1000

/-- The waiting requests, the approvals and the codes that can be turned in. -/
abbrev State := SharedApprovals.State

variable {ι : Type} (sys : System ι)

def System.store (service : Service) : InMemoryTokenStore :=
  sys.tokenServices.run sys.digest sys.flushInterval service.calls

def System.createAccessToken (service : Service) (authentication : OAuth2Authentication) :
    Except JavaException OAuth2AccessToken :=
  outcome (sys.tokenServices.createAccessToken sys.digest service.m authentication)
    (sys.store service)

def System.authorizations (service : Service) : SharedApprovals.System ι where
  clients := sys.clients
  resolveRedirect := sys.resolveRedirect
  createAccessToken := sys.createAccessToken service
  handler := sys.handler
  database := sys.database
  sessions := sys.sessions

/-- A code stands for the authentication that was stored for it last. -/
def consumeAuthorizationCode (s : State ι) (code : String) :
    Except JavaException OAuth2Authentication :=
  match s.issuedCodes.reverse.lookup code with
  | some authentication => .ok authentication
  | none => .error (invalidGrant ("Invalid authorization code: " ++ code))

/-- The store of refresh tokens is a concurrent map, which has no null key. -/
def System.refreshAccessToken (service : Service) (tokenRequest : TokenRequest) :
    Option String → Except JavaException OAuth2AccessToken
  | some refreshToken =>
    outcome (sys.tokenServices.refreshAccessToken sys.digest service.m refreshToken tokenRequest)
      (sys.store service)
  | none =>
    if sys.tokenServices.supportRefreshToken then .error nullPointer
    else .error (invalidGrant "Invalid refresh token: null")

def System.tokens (s : State ι) (service : Service) : TokenEndpoint.Services where
  clients := sys.clients
  consumeAuthorizationCode := consumeAuthorizationCode s
  tokenServices
    | .create authentication => sys.createAccessToken service authentication
    | .refresh refreshToken tokenRequest => sys.refreshAccessToken service tokenRequest refreshToken

/-- The approvals may change in any way between the requests, and a code goes when it has been
used or has run out. -/
inductive Event (ι : Type)
  | authorization (event : SharedApprovals.Event ι) (service : Service)
  | postAccessToken (clientId : String) (request : ClientAuthentication.Request)
      (service : Service)
  | approvals (approvals : InMemoryApprovalStore)
  | gone (code : String)

def step [DecidableEq ι] (s : State ι) : Event ι → State ι
  | .authorization event service => SharedApprovals.step (sys.authorizations service) s event
  | .postAccessToken _ _ _ => s
  | .approvals approvals => { s with approvals := approvals }
  | .gone code => { s with issuedCodes := s.issuedCodes.filter fun issued => issued.1 ≠ code }

/-- The scopes are some of the client's, and of those that the parameters name. -/
structure Within (client : ClientDetails) (parameters : Parameters) (scope : List String) :
    Prop where
  nonempty : scope ≠ []
  registered : scope ⊆ client.scope
  named : parseParameterList (parameters.get "scope") ≠ [] →
    scope ⊆ parseParameterList (parameters.get "scope")

def Scoped (clients : ClientDetailsService) (clientId : Option String) (parameters : Parameters)
    (scope : List String) : Prop :=
  ∀ client, clients.loadClientByClientId clientId = .ok client → client.scope ≠ [] →
    Within client parameters scope

/-- The authorization request that an event is about. -/
def asked (s : State ι) : SharedApprovals.Event ι → Option (Option String × Parameters)
  | .authorize _ request => some (request.parameters.get "client_id", request.parameters)
  | .approveOrDeny i _ =>
    match s.pending i with
    | some (.request waiting) => some (waiting.clientId, waiting.requestParameters)
    | _ => none

/-- A token that comes of the event has the scopes that it may have. -/
def Kept (s : State ι) : Event ι → Prop
  | .authorization event service => ∀ redirectUri token s',
      SharedApprovals.run (sys.authorizations service) event
        (s.enter (sys.authorizations service) event.session) =
          .ok (.accessToken redirectUri token) s' →
      ∃ clientId parameters, asked s event = some (clientId, parameters) ∧
        Scoped sys.clients clientId parameters token.scope
  | .postAccessToken clientId request service => ∀ authentication token,
      TokenEndpoint.grantFor (sys.tokens s service) request clientId =
        .ok (.create authentication, token) →
      if request.parameters.get "grant_type" = some "authorization_code" then
        ∃ code storedAuth, request.parameters.get "code" = some code ∧
          consumeAuthorizationCode s code = .ok storedAuth ∧
          token.scope = storedAuth.oAuth2Request.scope ∧
          Scoped sys.clients storedAuth.oAuth2Request.clientId
            storedAuth.oAuth2Request.requestParameters token.scope
      else Scoped sys.clients (some clientId) request.parameters token.scope
  | .approvals _ | .gone _ => True

/-- The name of every BasicAuthentication. -/
def userName : String := BasicAuthentication.getName {}

/-- Where decisions settle a request, they approve some of its scopes; and a scope that is
approved alone is not parsed into others. -/
def Decided (request : AuthorizationRequest) (now : ℕ) (approvals : InMemoryApprovalStore) : Prop :=
  WhenOk (sys.handler.autoApproved request) fun approved =>
    let userApprovals := approvals.getApprovals userName (request.clientId.getD "")
    let scopes := ApprovalStoreUserApprovalHandler.approvedScopes now request userApprovals
      (approved.getD [])
    ApprovalStoreUserApprovalHandler.actedUpon now request userApprovals = true →
      scopes ≠ [] ∧ normalizeScope scopes = scopes

/-- No grant meets a token of other scopes under its key. -/
def Unmixed (service : Service) (authentication : OAuth2Authentication) : Prop :=
  Runs.Meets (sys.tokenServices.call sys.digest)
    (DefaultTokenServices.GrantsSameScopes sys.digest) { flushInterval := sys.flushInterval }
    service.calls ∧
  DefaultTokenServices.SameScopes sys.digest (sys.store service) service.m.now authentication

/-- The implicit grant is for the users of the security context. -/
def UnmixedImplicit (service : Service) (request : Request)
    (authorizationRequest : AuthorizationRequest) : Prop :=
  "token" ∈ authorizationRequest.responseTypes → ∀ user ∈ request.securityContext,
    Unmixed sys service ⟨authorizationRequest.createOAuth2Request, some user⟩

/-- What a token request asks the token services for. -/
def UnmixedGrant (s : State ι) (service : Service) (clientId : String) (parameters : Parameters) :
    Prop :=
  if parameters.get "grant_type" = some "authorization_code" then
    ∀ code ∈ parameters.get "code", WhenOk (consumeAuthorizationCode s code) (Unmixed sys service)
  else
    WhenOk (sys.clients.loadClientByClientId (some clientId)) fun authenticated =>
      WhenOk (RequestFactory.createTokenRequest sys.clients parameters authenticated) fun request =>
        WhenOk (sys.clients.loadClientByClientId request.clientId) fun client =>
          Unmixed sys service ⟨createOAuth2Request client request, none⟩

/-- The decisions before and in the event leave scopes as they are, and no token of other scopes
stands in for the one that is asked for. -/
def Settled (s : State ι) : Event ι → Prop
  | .authorization (.authorize _ request) service =>
    let c := (sys.authorizations service).config
    WhenOk (requestedAuthorization c request.parameters) fun requested =>
      WhenOk (checkedRequest c requested) fun checked =>
        Decided sys checked request.now s.approvals ∧
        WhenOk (sys.handler.checkForPreApproval request.now checked userName s.approvals)
          (UnmixedImplicit sys service request)
  | .authorization (.approveOrDeny i request) service =>
    WhenOk (pendingRequest (s.pending i)) fun waiting =>
      let waiting := { waiting with approvalParameters := request.parameters }
      normalizeScope (sys.handler.consented waiting) = sys.handler.consented waiting ∧
      UnmixedImplicit sys service request
        (sys.handler.updateAfterApproval request.now waiting userName s.approvals).1
  | .postAccessToken clientId request service =>
    UnmixedGrant sys s service clientId request.parameters
  | .approvals _ | .gone _ => True

section Requests

variable {sys} {σ : Type} {c : Config σ} {clients : ClientDetailsService} {clientId : Option String}
  {parameters : Parameters} {scope scope' : List String}
  {requested checked authorizationRequest : AuthorizationRequest} {now : ℕ}
  {approvals : InMemoryApprovalStore}

theorem Scoped.subset (h : Scoped clients clientId parameters scope) (hsub : scope' ⊆ scope)
    (hne : scope' ≠ []) : Scoped clients clientId parameters scope' := by
  intro client hload hregistered
  have hwithin := h client hload hregistered
  exact ⟨hne, List.Subset.trans hsub hwithin.registered,
    fun hnamed => List.Subset.trans hsub (hwithin.named hnamed)⟩

/-- What a parameter names, or what the client has, once it is parsed and validated. -/
theorem scoped_of_validated {client : ClientDetails} {scopes : List String} {u : Unit}
    (hscopes : scopes = if parseParameterList (parameters.get "scope") = [] then client.scope
      else parseParameterList (parameters.get "scope"))
    {validated : ClientDetails} (hload : clients.loadClientByClientId clientId = .ok validated)
    (h : validateScope (normalizeScope scopes) validated.scope = .ok u) :
    Scoped clients clientId parameters (normalizeScope scopes) := by
  obtain ⟨hne, hsub⟩ := validateScope_eq_ok h
  intro client' hload' hregistered
  have hsame : client' = validated := Except.ok.inj (hload'.symm.trans hload)
  rw [hsame] at hregistered ⊢
  refine ⟨hne, hsub hregistered, fun hnamed => ?_⟩
  rw [if_neg hnamed] at hscopes
  rw [hscopes, normalizeScope_parseParameterList]
  exact List.Subset.refl _

/-- A request whose scopes may be granted as they are. -/
structure Proper (clients : ClientDetailsService) (request : AuthorizationRequest) : Prop where
  clientId : request.clientId ≠ none
  redirectUri : request.redirectUri ≠ none
  nonempty : request.scope ≠ []
  parsed : normalizeScope request.scope = request.scope
  bounded : Scoped clients request.clientId request.requestParameters request.scope

/-- The request stays that of its client and its parameters. -/
structure Continues (request' request : AuthorizationRequest) : Prop where
  clientId : request'.clientId = request.clientId
  requestParameters : request'.requestParameters = request.requestParameters
  redirectUri : request'.redirectUri = request.redirectUri
  responseTypes : request'.responseTypes = request.responseTypes

theorem continues_refl (request : AuthorizationRequest) : Continues request request :=
  ⟨rfl, rfl, rfl, rfl⟩

theorem requestedAuthorization_eq_ok (h : requestedAuthorization c parameters = .ok requested) :
    requested.clientId = parameters.get "client_id" ∧ requested.clientId ≠ none ∧
      requested.requestParameters = parameters ∧
      ∃ (client : ClientDetails) (scopes : List String),
        requested.scope = normalizeScope scopes ∧
        scopes = if parseParameterList (parameters.get "scope") = [] then client.scope
          else parseParameterList (parameters.get "scope") := by
  obtain ⟨created, hcreated, h⟩ := except_bind_eq_ok.mp h
  obtain ⟨_, -, h⟩ := except_bind_eq_ok.mp h
  obtain ⟨_, hclient, h⟩ := except_bind_eq_ok.mp h
  rw [← Except.ok.inj h]
  have hnamed := failIf_eq_ok.mp hclient
  obtain ⟨scopes, hextract, hcreated⟩ := except_bind_eq_ok.mp hcreated
  obtain ⟨client', -, hcreated⟩ := except_bind_eq_ok.mp hcreated
  obtain ⟨client, -, hscopes⟩ := RequestFactory.extractScopes_eq_ok hextract
  rw [← Except.ok.inj hcreated] at hnamed ⊢
  exact ⟨rfl, hnamed, rfl, client, scopes, rfl, hscopes⟩

theorem checkedRequest_proper (h : requestedAuthorization c parameters = .ok requested)
    (hchecked : checkedRequest c requested = .ok checked) :
    Proper c.clients checked ∧ checked.clientId = parameters.get "client_id" ∧
      checked.requestParameters = parameters := by
  obtain ⟨hclient, hnamed, hparameters, client, scopes, hscope, hscopes⟩ :=
    requestedAuthorization_eq_ok h
  obtain ⟨validated, hload, hchecked⟩ := except_bind_eq_ok.mp hchecked
  obtain ⟨resolved, -, hchecked⟩ := except_bind_eq_ok.mp hchecked
  obtain ⟨_, hredirect, hchecked⟩ := except_bind_eq_ok.mp hchecked
  obtain ⟨_, hvalid, hchecked⟩ := except_bind_eq_ok.mp hchecked
  rw [← Except.ok.inj hchecked]
  rw [hscope] at hvalid
  refine ⟨⟨hnamed, ?_, ?_, ?_, ?_⟩, hclient, hparameters⟩
  · intro hnone
    have hresolved : resolved = none := hnone
    rw [hresolved] at hredirect
    exact failIf_eq_ok.mp hredirect Bool.false_ne_true
  · rw [show requested.scope = normalizeScope scopes from hscope]
    exact (validateScope_eq_ok hvalid).1
  · show normalizeScope requested.scope = requested.scope
    rw [hscope, normalizeScope_normalizeScope]
  · show Scoped c.clients requested.clientId requested.requestParameters requested.scope
    rw [hscope, hparameters]
    exact scoped_of_validated hscopes hload hvalid

/-- Some of the scopes, in the order in which a set is walked. -/
theorem Proper.setScope (h : Proper clients authorizationRequest) {scopes : List String}
    (hsub : scopes ⊆ authorizationRequest.scope) (hne : scopes ≠ [])
    (hparsed : normalizeScope scopes = scopes) (order : RowOrder String) (approved : Bool) :
    Proper clients { authorizationRequest.setScope (order.scan scopes) with approved := approved } := by
  have hperm := order.perm scopes
  have hscope : normalizeScope (order.scan scopes) = order.scan scopes :=
    normalizeScope_of_perm hperm hparsed
  have hnonempty : order.scan scopes ≠ [] := fun hnil => hne (List.Perm.nil_eq (hnil ▸ hperm)).symm
  refine ⟨h.clientId, h.redirectUri, ?_, ?_, ?_⟩
  · show normalizeScope (order.scan scopes) ≠ []
    rw [hscope]
    exact hnonempty
  · exact normalizeScope_normalizeScope _
  · show Scoped clients authorizationRequest.clientId authorizationRequest.requestParameters
      (normalizeScope (order.scan scopes))
    rw [hscope]
    exact h.bounded.subset (List.Subset.trans hperm.subset hsub) hnonempty

theorem checkStored_proper {handler : ApprovalStoreUserApprovalHandler}
    (h : Proper clients authorizationRequest) {userApprovals : List Approval}
    {approved : List String}
    (hdecided : ApprovalStoreUserApprovalHandler.actedUpon now authorizationRequest userApprovals =
      true →
        let scopes := ApprovalStoreUserApprovalHandler.approvedScopes now authorizationRequest
          userApprovals approved
        scopes ≠ [] ∧ normalizeScope scopes = scopes) :
    Proper clients (handler.checkStored now authorizationRequest userApprovals approved) ∧
      Continues (handler.checkStored now authorizationRequest userApprovals approved)
        authorizationRequest := by
  rw [ApprovalStoreUserApprovalHandler.checkStored_eq]
  split_ifs with hacted
  · obtain ⟨hne, hparsed⟩ := hdecided hacted
    have hsub : ApprovalStoreUserApprovalHandler.approvedScopes now authorizationRequest
        userApprovals approved ⊆ authorizationRequest.scope :=
      ApprovalStoreUserApprovalHandler.approvedScopes_subset userApprovals approved
    exact ⟨h.setScope hsub hne hparsed handler.scopes true, rfl, rfl, rfl, rfl⟩
  · exact ⟨h, continues_refl _⟩

/-- What the stored approvals settle leaves a proper request. -/
theorem checkForPreApproval_proper (h : Proper clients checked)
    (hdecided : Decided sys checked now approvals)
    (hfound : sys.handler.checkForPreApproval now checked userName approvals =
      .ok authorizationRequest) :
    Proper clients authorizationRequest ∧ Continues authorizationRequest checked := by
  obtain ⟨approved, happroved, hfound⟩ := except_bind_eq_ok.mp hfound
  unfold Decided at hdecided
  rw [happroved] at hdecided
  dsimp only at hfound
  cases approved with
  | none =>
    rw [← Except.ok.inj hfound]
    exact checkStored_proper h hdecided
  | some approved =>
    simp only at hfound
    split_ifs at hfound
    · rw [← Except.ok.inj hfound]
      exact ⟨⟨h.clientId, h.redirectUri, h.nonempty, h.parsed, h.bounded⟩, rfl, rfl, rfl, rfl⟩
    · rw [← Except.ok.inj hfound]
      exact checkStored_proper h hdecided

/-- A decision leaves a proper request, or it is a denial. -/
theorem updateAfterApproval_proper {waiting : AuthorizationRequest} (h : Proper clients waiting)
    (hparsed : normalizeScope (sys.handler.consented waiting) = sys.handler.consented waiting) :
    let decided := (sys.handler.updateAfterApproval now waiting userName approvals).1
    Continues decided waiting ∧ (decided.approved = false ∨ Proper clients decided) := by
  rw [ApprovalStoreUserApprovalHandler.updateAfterApproval_fst_eq]
  refine ⟨⟨rfl, rfl, rfl, rfl⟩, ?_⟩
  by_cases hdenied : sys.handler.consented waiting = []
  · left
    simp [hdenied, h.nonempty]
  · right
    exact h.setScope ApprovalStoreUserApprovalHandler.consented_subset hdenied hparsed _ _

end Requests

section Endpoint

variable {σ : Type} {c : Config σ} {clients : ClientDetailsService} {s s' : EndpointState σ}
  {request : Request} {principal : BasicAuthentication}
  {authorizationRequest : AuthorizationRequest} {token : OAuth2AccessToken} {redirectUri : String}

/-- An authentication for whose scopes a token may be issued. -/
structure Grantable (clients : ClientDetailsService) (authentication : OAuth2Authentication) :
    Prop where
  clientId : authentication.oAuth2Request.clientId ≠ none
  bounded : Scoped clients authentication.oAuth2Request.clientId
    authentication.oAuth2Request.requestParameters authentication.oAuth2Request.scope

theorem Proper.grantable (h : Proper clients authorizationRequest)
    (user : Option UserAuthentication) :
    Grantable clients ⟨authorizationRequest.createOAuth2Request, user⟩ where
  clientId := h.clientId
  bounded := by
    show Scoped clients authorizationRequest.clientId authorizationRequest.requestParameters
      (normalizeScope authorizationRequest.scope)
    rw [h.parsed]
    exact h.bounded

/-- The request that waits, and the codes. -/
structure Held (clients : ClientDetailsService) (s : EndpointState σ) : Prop where
  pending : ∀ waiting, s.pending = some (.request waiting) → Proper clients waiting
  codes : ∀ issued ∈ s.issuedCodes, Grantable clients issued.2

theorem respond_held (h : Held clients s) (hproper : Proper clients authorizationRequest) :
    Held clients (final (respond c request authorizationRequest principal) s) := by
  unfold respond
  split
  · have hsame : final (orError (getImplicitGrantResponse c request authorizationRequest) :
        Endpoint σ View) s = s := leaves_orError (g := id) _ s
    rw [hsame]
    exact h
  · refine ⟨h.pending, fun issued hissued => ?_⟩
    rcases List.mem_append.mp hissued with hold | hnew
    · exact h.codes issued hold
    · rw [List.mem_singleton.mp hnew]
      exact hproper.grantable _

/-- A token that is answered was created for the request and a user of the security context. -/
theorem respond_token
    (h : respond c request authorizationRequest principal s =
      .ok (.accessToken redirectUri token) s') :
    "token" ∈ authorizationRequest.responseTypes ∧ ∃ user ∈ request.securityContext,
      c.createAccessToken ⟨authorizationRequest.createOAuth2Request, some user⟩ = .ok token := by
  unfold respond at h
  split at h
  · rename_i htoken
    refine ⟨htoken, ?_⟩
    cases hgrant : grantImplicit c request authorizationRequest with
    | error e =>
      simp only [getImplicitGrantResponse, hgrant, getUnsuccessfulRedirect] at h
      split at h <;> cases h
    | ok granted =>
      simp only [getImplicitGrantResponse, hgrant] at h
      cases h
      obtain ⟨client, -, hgrant⟩ := except_bind_eq_ok.mp hgrant
      obtain ⟨_, -, hgrant⟩ := except_bind_eq_ok.mp hgrant
      cases huser : request.securityContext with
      | none =>
        rw [huser] at hgrant
        cases hgrant
      | some user =>
        rw [huser] at hgrant
        obtain ⟨_, -, hgrant⟩ := except_bind_eq_ok.mp hgrant
        exact ⟨user, rfl, hgrant⟩
  · cases h

theorem approvalPage_held (c : Config σ) (principal : BasicAuthentication) (h : Held clients s)
    (hproper : Proper clients authorizationRequest) :
    Held clients (final (getUserApprovalPageResponse c authorizationRequest principal) s) := by
  refine ⟨fun waiting hwaiting => ?_, h.codes⟩
  have hpending : some (match authorizationRequest.requestParameters.get "authorizationRequest" with
      | some value => Pending.text value
      | none => .request authorizationRequest) = some (.request waiting) := hwaiting
  split at hpending
  · cases hpending
  · cases hpending
    exact hproper

/-- A decision is a denial, or leaves a request that may be granted. -/
def Decides (clients : ClientDetailsService) (waiting decided : AuthorizationRequest) : Prop :=
  Continues decided waiting ∧ (decided.approved = false ∨ Proper clients decided)

/-- A denial answers with an error, and a request without a redirect does not wait. -/
theorem respondAfterApproval_cases {waiting : AuthorizationRequest}
    (hproper : Proper clients waiting) (hdecides : Decides clients waiting authorizationRequest) :
    (∃ uri query fragment,
      respondAfterApproval c request authorizationRequest principal s =
        .ok (.error uri query fragment) s) ∨
    Proper clients authorizationRequest ∧
      respondAfterApproval c request authorizationRequest principal s =
        respond c request authorizationRequest principal s := by
  obtain ⟨hcontinues, hdecision⟩ := hdecides
  have hredirect : authorizationRequest.redirectUri ≠ none := by
    rw [hcontinues.redirectUri]
    exact hproper.redirectUri
  unfold respondAfterApproval
  rw [if_neg hredirect]
  cases happroved : authorizationRequest.approved with
  | false =>
    left
    obtain ⟨uri, huri⟩ := Option.ne_none_iff_exists'.mp hredirect
    rw [if_pos Bool.false_ne_true]
    simp only [getUnsuccessfulRedirect, userDenied, huri]
    exact ⟨uri, _, _, rfl⟩
  | true =>
    right
    rw [if_neg (not_not.mpr rfl)]
    exact ⟨hdecision.resolve_left (by rw [happroved]; exact Bool.noConfusion), rfl⟩

/-- The waiting request after the decision, and the approvals. -/
def decidedBy (c : Config σ) (request : Request) (principal : BasicAuthentication)
    (waiting : AuthorizationRequest) (approvals : σ) : AuthorizationRequest × σ :=
  c.handler.updateAfterApproval request.now
    { waiting with approvalParameters := request.parameters } principal approvals

theorem approve_of_waiting {waiting : AuthorizationRequest}
    (hwaiting : s.pending = some (.request waiting)) :
    approve c request principal s =
      (respondAfterApproval c request (decidedBy c request principal waiting s.approvals).1
        principal >>= fun view => do
          modify fun s : EndpointState σ => { s with pending := none }
          return view)
        { s with
          pending := some (.request (decidedBy c request principal waiting s.approvals).1)
          approvals := (decidedBy c request principal waiting s.approvals).2 } := by
  have htake := takeDecision_eq c request principal s
  rw [hwaiting] at htake
  exact bind_of_ok htake

theorem approve_of_not_waiting (hwaiting : ∀ waiting, s.pending ≠ some (.request waiting)) :
    ∃ e, approve c request principal s = .error e s := by
  have htake := takeDecision_eq c request principal s
  cases hpending : s.pending with
  | none =>
    rw [hpending] at htake
    exact ⟨_, bind_of_error htake⟩
  | some found =>
    rw [hpending] at htake
    cases found with
    | text value => exact ⟨_, bind_of_error htake⟩
    | request waiting => exact absurd hpending (hwaiting waiting)

theorem held_of_codes (h : ∀ issued ∈ s.issuedCodes, Grantable clients issued.2) :
    Held clients { s with pending := none } where
  pending _ hnone := by cases hnone
  codes := h

theorem Held.decided (h : Held clients s) (hproper : Proper clients authorizationRequest)
    (approvals : σ) :
    Held clients { s with pending := some (.request authorizationRequest), approvals := approvals }
    where
  pending _ hsame := by
    cases hsame
    exact hproper
  codes := h.codes

/-- The waiting request goes when there is a view. -/
theorem held_bind {x : Endpoint σ View} (h : Held clients (final x s)) :
    Held clients (final (x >>= fun view => do
      modify fun s : EndpointState σ => { s with pending := none }
      return view) s) := by
  cases hview : x s with
  | ok view t =>
    rw [final_of_ok hview] at h
    simp only [final, bind_of_ok hview]
    exact held_of_codes h.codes
  | error e t =>
    rw [final_of_error hview] at h
    simp only [final, bind_of_error hview]
    exact h

/-- A decision about the waiting request leaves a proper one, or none. -/
theorem approve_held (h : Held clients s)
    (hdecides : ∀ waiting, s.pending = some (.request waiting) →
      Decides clients waiting (decidedBy c request principal waiting s.approvals).1) :
    Held clients (final (approve c request principal) s) := by
  by_cases hwaiting : ∃ waiting, s.pending = some (.request waiting)
  · obtain ⟨waiting, hwaiting⟩ := hwaiting
    simp only [final, approve_of_waiting hwaiting]
    rcases respondAfterApproval_cases (h.pending waiting hwaiting) (hdecides waiting hwaiting) with
      ⟨uri, query, fragment, hdenied⟩ | ⟨hproper, hresponds⟩
    · rw [bind_of_ok hdenied]
      exact held_of_codes h.codes
    · refine held_bind ?_
      simp only [final, hresponds]
      exact respond_held (h.decided hproper _) hproper
  · obtain ⟨e, hrun⟩ := approve_of_not_waiting (not_exists.mp hwaiting)
    rw [final_of_error hrun]
    exact h

/-- A token that a decision brings is for the request that it leaves. -/
theorem approve_token (h : Held clients s)
    (hdecides : ∀ waiting, s.pending = some (.request waiting) →
      Decides clients waiting (decidedBy c request principal waiting s.approvals).1)
    (hrun : approve c request principal s = .ok (.accessToken redirectUri token) s') :
    ∃ waiting, s.pending = some (.request waiting) ∧
      let decided := (decidedBy c request principal waiting s.approvals).1
      Continues decided waiting ∧ Proper clients decided ∧ "token" ∈ decided.responseTypes ∧
        ∃ user ∈ request.securityContext,
          c.createAccessToken ⟨decided.createOAuth2Request, some user⟩ = .ok token := by
  by_cases hwaiting : ∃ waiting, s.pending = some (.request waiting)
  · obtain ⟨waiting, hwaiting⟩ := hwaiting
    refine ⟨waiting, hwaiting, (hdecides waiting hwaiting).1, ?_⟩
    rw [approve_of_waiting hwaiting] at hrun
    obtain ⟨view, t, hview, hreturn⟩ := bind_eq_ok.mp hrun
    have hsame : view = .accessToken redirectUri token := by
      cases hreturn
      rfl
    rw [hsame] at hview
    rcases respondAfterApproval_cases (h.pending waiting hwaiting) (hdecides waiting hwaiting) with
      ⟨uri, query, fragment, hdenied⟩ | ⟨hproper, hresponds⟩
    · rw [hdenied] at hview
      cases hview
    · exact ⟨hproper, respond_token (hresponds.symm.trans hview)⟩
  · obtain ⟨e, hthrow⟩ := approve_of_not_waiting (not_exists.mp hwaiting)
    rw [hthrow] at hrun
    cases hrun

end Endpoint

section Runs

variable {sys} {s : State ι} {service : Service} {i : ι} {request : Request}
  {token : OAuth2AccessToken} {redirectUri : String} {s' : EndpointState InMemoryApprovalStore}

/-- What waits in the sessions and what has a code may be granted. -/
structure AllHeld (clients : ClientDetailsService) (s : State ι) : Prop where
  pending : ∀ i waiting, s.pending i = some (.request waiting) → Proper clients waiting
  codes : ∀ issued ∈ s.issuedCodes, Grantable clients issued.2

theorem AllHeld.enter (h : AllHeld sys.clients s) (service : Service) (i : ι) :
    Held sys.clients (s.enter (sys.authorizations service) i) := ⟨h.pending i, h.codes⟩

/-- What is decided about a request before its response may be granted. -/
theorem preApproved_proper {principal : Option BasicAuthentication}
    {decided : AuthorizationRequest × BasicAuthentication}
    (hsettled : Settled sys s (.authorization (.authorize i request) service))
    (h : preApproved (sys.authorizations service).config request principal s.approvals =
      .ok decided) :
    Proper sys.clients decided.1 ∧ decided.1.clientId = request.parameters.get "client_id" ∧
      decided.1.requestParameters = request.parameters ∧
      UnmixedImplicit sys service request decided.1 := by
  obtain ⟨requested, hrequested, h⟩ := except_bind_eq_ok.mp h
  obtain ⟨principal, -, h⟩ := except_bind_eq_ok.mp h
  obtain ⟨checked, hchecked, h⟩ := except_bind_eq_ok.mp h
  obtain ⟨found, hfound, h⟩ := except_bind_eq_ok.mp h
  have hpreApproval : sys.handler.checkForPreApproval request.now checked userName s.approvals =
      .ok found := hfound
  unfold Settled at hsettled
  simp only [hrequested, hchecked, hpreApproval, WhenOk] at hsettled
  obtain ⟨hproper, hclient, hparameters⟩ := checkedRequest_proper hrequested hchecked
  obtain ⟨hfinal, hcontinues⟩ := checkForPreApproval_proper hproper hsettled.1 hpreApproval
  rw [← Except.ok.inj h]
  exact ⟨hfinal, hcontinues.clientId.trans hclient, hcontinues.requestParameters.trans hparameters,
    hsettled.2⟩

theorem authorize_held (h : AllHeld sys.clients s)
    (hsettled : Settled sys s (.authorization (.authorize i request) service)) :
    Held sys.clients (final (authorize (sys.authorizations service).config request)
      (s.enter (sys.authorizations service) i)) := by
  have hheld := h.enter service i
  rcases sessionPrincipal_cases (s.enter (sys.authorizations service) i) with
    ⟨e, hrun⟩ | ⟨_, principal, -, -, hrun⟩
  · have hthrow : authorize (sys.authorizations service).config request
        (s.enter (sys.authorizations service) i) = .error e _ := bind_of_error hrun
    rw [final_of_error hthrow]
    exact hheld
  · simp only [final, authorize_eq (sys.authorizations service).config request hrun]
    cases hdecided : preApproved (sys.authorizations service).config request principal
        (s.enter (sys.authorizations service) i).approvals with
    | error e => exact hheld
    | ok decided =>
      have hproper := (preApproved_proper hsettled hdecided).1
      dsimp only
      split_ifs
      · exact respond_held hheld hproper
      · exact approvalPage_held (sys.authorizations service).config decided.2 hheld hproper

theorem authorize_token
    (hsettled : Settled sys s (.authorization (.authorize i request) service))
    (h : authorize (sys.authorizations service).config request
      (s.enter (sys.authorizations service) i) = .ok (.accessToken redirectUri token) s') :
    ∃ decided user, Proper sys.clients decided ∧
      decided.clientId = request.parameters.get "client_id" ∧
      decided.requestParameters = request.parameters ∧
      Unmixed sys service ⟨decided.createOAuth2Request, some user⟩ ∧
      sys.createAccessToken service ⟨decided.createOAuth2Request, some user⟩ = .ok token := by
  rcases sessionPrincipal_cases (s.enter (sys.authorizations service) i) with
    ⟨e, hrun⟩ | ⟨_, principal, -, -, hrun⟩
  · have hthrow : authorize (sys.authorizations service).config request
        (s.enter (sys.authorizations service) i) = .error e _ := bind_of_error hrun
    rw [hthrow] at h
    cases h
  · rw [authorize_eq (sys.authorizations service).config request hrun] at h
    cases hdecided : preApproved (sys.authorizations service).config request principal
        (s.enter (sys.authorizations service) i).approvals with
    | error e =>
      rw [hdecided] at h
      cases h
    | ok decided =>
      simp only [hdecided] at h
      split_ifs at h
      · obtain ⟨hproper, hclient, hparameters, hunmixed⟩ := preApproved_proper hsettled hdecided
        obtain ⟨htoken, user, huser, hcreate⟩ := respond_token h
        exact ⟨decided.1, user, hproper, hclient, hparameters, hunmixed htoken user huser, hcreate⟩
      · cases h

/-- The decisions that the condition admits. -/
theorem decides_of_settled (h : AllHeld sys.clients s)
    (hsettled : Settled sys s (.authorization (.approveOrDeny i request) service))
    (principal : BasicAuthentication) {waiting : AuthorizationRequest}
    (hwaiting : s.pending i = some (.request waiting)) :
    let decided := (decidedBy (sys.authorizations service).config request principal waiting
      s.approvals).1
    Decides sys.clients waiting decided ∧ UnmixedImplicit sys service request decided := by
  have hproper := h.pending i waiting hwaiting
  unfold Settled at hsettled
  simp only [hwaiting, pendingRequest, WhenOk] at hsettled
  have hasked : Proper sys.clients { waiting with approvalParameters := request.parameters } :=
    ⟨hproper.clientId, hproper.redirectUri, hproper.nonempty, hproper.parsed, hproper.bounded⟩
  intro decided
  have hdecision : decided.approved = false ∨ Proper sys.clients decided :=
    (updateAfterApproval_proper hasked hsettled.1).2
  exact ⟨⟨⟨rfl, rfl, rfl, rfl⟩, hdecision⟩, hsettled.2⟩

theorem approveOrDeny_held (h : AllHeld sys.clients s)
    (hsettled : Settled sys s (.authorization (.approveOrDeny i request) service)) :
    Held sys.clients (final (approveOrDeny (sys.authorizations service).config request)
      (s.enter (sys.authorizations service) i)) := by
  have hheld := h.enter service i
  rcases sessionPrincipal_cases (s.enter (sys.authorizations service) i) with
    ⟨e, hrun⟩ | ⟨_, principal, -, -, hrun⟩
  · have hthrow : approveOrDeny (sys.authorizations service).config request
        (s.enter (sys.authorizations service) i) = .error e _ := bind_of_error hrun
    rw [final_of_error hthrow]
    exact hheld
  cases principal with
  | none =>
    have hthrow : approveOrDeny (sys.authorizations service).config request
        (s.enter (sys.authorizations service) i) = .error _ _ := bind_of_ok hrun
    rw [final_of_error hthrow]
    exact hheld
  | some principal =>
    have happrove : approveOrDeny (sys.authorizations service).config request
        (s.enter (sys.authorizations service) i) =
          approve (sys.authorizations service).config request principal
            (s.enter (sys.authorizations service) i) := bind_of_ok hrun
    simp only [final, happrove]
    refine approve_held hheld fun waiting hwaiting => ?_
    exact (decides_of_settled h hsettled principal hwaiting).1

theorem approveOrDeny_token (h : AllHeld sys.clients s)
    (hsettled : Settled sys s (.authorization (.approveOrDeny i request) service))
    (hrun : approveOrDeny (sys.authorizations service).config request
      (s.enter (sys.authorizations service) i) = .ok (.accessToken redirectUri token) s') :
    ∃ waiting decided user, s.pending i = some (.request waiting) ∧
      Continues decided waiting ∧ Proper sys.clients decided ∧
      Unmixed sys service ⟨decided.createOAuth2Request, some user⟩ ∧
      sys.createAccessToken service ⟨decided.createOAuth2Request, some user⟩ = .ok token := by
  obtain ⟨principal, t, hprincipal, hrun⟩ := bind_eq_ok.mp hrun
  have hstate : t = s.enter (sys.authorizations service) i := by
    have hleaves := leaves_sessionPrincipal (g := id) (s.enter (sys.authorizations service) i)
    rw [final_of_ok hprincipal] at hleaves
    exact hleaves
  rw [hstate] at hrun
  cases principal with
  | none => cases hrun
  | some principal =>
    obtain ⟨waiting, hwaiting, hcontinues, hproper, htoken, user, huser, hcreate⟩ :=
      approve_token (h.enter service i)
        (fun waiting hwaiting => (decides_of_settled h hsettled principal hwaiting).1) hrun
    have hunmixed := (decides_of_settled h hsettled principal hwaiting).2
    exact ⟨waiting, _, user, hwaiting, hcontinues, hproper, hunmixed htoken user huser, hcreate⟩

end Runs

section Tokens

variable {sys} {s : State ι} {service : Service} {clientId : String} {token : OAuth2AccessToken}
  {request : ClientAuthentication.Request} {authentication : OAuth2Authentication}

/-- A code is turned in for the authentication that it was stored with, but for its parameters. -/
theorem authorizationCodeGranter_eq_ok {services : TokenEndpoint.Services} {client : ClientDetails}
    {tokenRequest : TokenRequest}
    (h : (TokenEndpoint.authorizationCodeGranter services).issuance client tokenRequest =
      .ok (.create authentication)) :
    ∃ code storedAuth, tokenRequest.requestParameters.get "code" = some code ∧
      services.consumeAuthorizationCode code = .ok storedAuth ∧
      authentication = { storedAuth with
        oAuth2Request := { storedAuth.oAuth2Request with
          requestParameters := storedAuth.oAuth2Request.requestParameters.putAll
            tokenRequest.requestParameters } } := by
  obtain ⟨code, hcode, h⟩ := except_bind_eq_ok.mp h
  obtain ⟨storedAuth, hstored, h⟩ := except_bind_eq_ok.mp h
  obtain ⟨registered, -, h⟩ := except_bind_eq_ok.mp h
  obtain ⟨matching, -, h⟩ := except_bind_eq_ok.mp h
  obtain ⟨_, -, h⟩ := except_bind_eq_ok.mp h
  obtain ⟨_, -, h⟩ := except_bind_eq_ok.mp h
  refine ⟨code, storedAuth, ?_, hstored, ?_⟩
  · cases hget : tokenRequest.requestParameters.get "code" with
    | none =>
      rw [hget] at hcode
      cases hcode
    | some found =>
      rw [hget] at hcode
      rw [Except.ok.inj hcode]
  · cases h
    rfl

theorem mem_of_consume {code : String} (h : consumeAuthorizationCode s code = .ok authentication) :
    (code, authentication) ∈ s.issuedCodes := by
  unfold consumeAuthorizationCode at h
  split at h
  · rename_i found hfound
    rw [← Except.ok.inj h]
    obtain ⟨before, after, hsplit, -⟩ := List.lookup_eq_some_iff.mp hfound
    have hmem : (code, found) ∈ s.issuedCodes.reverse := by
      rw [hsplit]
      simp
    exact List.mem_reverse.mp hmem
  · cases h

/-- A token that is created where no grants mix has the scopes that were asked for. -/
theorem scope_of_unmixed (hkeeps : sys.tokenServices.KeepsTokens)
    (hunmixed : Unmixed sys service authentication)
    (hclient : authentication.oAuth2Request.clientId ≠ none)
    (h : sys.createAccessToken service authentication = .ok token) :
    token.scope = authentication.oAuth2Request.scope :=
  DefaultTokenServices.scope_of_run hkeeps sys.flushInterval service.genuine hunmixed.1 hclient
    hunmixed.2 h

/-- A code is turned in for its own scopes. -/
theorem code_kept (hkeeps : sys.tokenServices.KeepsTokens) (h : AllHeld sys.clients s)
    {client : ClientDetails} {tokenRequest : TokenRequest} {created : OAuth2AccessToken}
    (hissuance : (TokenEndpoint.authorizationCodeGranter (sys.tokens s service)).issuance client
      tokenRequest = .ok (.create authentication))
    (hunmixed : ∀ code ∈ tokenRequest.requestParameters.get "code",
      WhenOk (consumeAuthorizationCode s code) (Unmixed sys service))
    (hcreated : sys.createAccessToken service authentication = .ok created) :
    ∃ code storedAuth, tokenRequest.requestParameters.get "code" = some code ∧
      consumeAuthorizationCode s code = .ok storedAuth ∧
      created.scope = storedAuth.oAuth2Request.scope ∧
      Scoped sys.clients storedAuth.oAuth2Request.clientId
        storedAuth.oAuth2Request.requestParameters created.scope := by
  obtain ⟨code, storedAuth, hcode, hstored, hsame⟩ := authorizationCodeGranter_eq_ok hissuance
  have hconsumed : consumeAuthorizationCode s code = .ok storedAuth := hstored
  have hgrantable := h.codes (code, storedAuth) (mem_of_consume hconsumed)
  have hcode_unmixed := hunmixed code hcode
  rw [hconsumed] at hcode_unmixed
  -- the parameters are no part of the key
  have hunmixed' : Unmixed sys service authentication := by
    rw [hsame]
    exact hcode_unmixed
  have hscope : created.scope = storedAuth.oAuth2Request.scope := by
    rw [scope_of_unmixed hkeeps hunmixed' (by rw [hsame]; exact hgrantable.clientId) hcreated, hsame]
  refine ⟨code, storedAuth, hcode, hconsumed, hscope, ?_⟩
  rw [hscope]
  exact hgrantable.bounded

/-- A client that acts for itself is granted what it asks for. -/
theorem clientCredentials_kept (hkeeps : sys.tokenServices.KeepsTokens)
    {authenticated client : ClientDetails} {tokenRequest : TokenRequest} {u : Unit}
    {created : OAuth2AccessToken}
    (hload : sys.clients.loadClientByClientId (some clientId) = .ok authenticated)
    (hrequest : RequestFactory.createTokenRequest sys.clients request.parameters authenticated =
      .ok tokenRequest)
    (hvalid : validateScope tokenRequest.scope authenticated.scope = .ok u)
    (hunmixed : Unmixed sys service ⟨createOAuth2Request client tokenRequest, none⟩)
    (hcreated : sys.createAccessToken service ⟨createOAuth2Request client tokenRequest, none⟩ =
      .ok created) : Scoped sys.clients (some clientId) request.parameters created.scope := by
  have hclient : (createOAuth2Request client tokenRequest).clientId ≠ none :=
    Option.some_ne_none client.clientId
  obtain ⟨-, registered, scopes, hscope, hscopes⟩ := RequestFactory.createTokenRequest_scope hrequest
  have hcreated_scope : created.scope = normalizeScope tokenRequest.scope :=
    scope_of_unmixed hkeeps hunmixed hclient hcreated
  rw [hcreated_scope, hscope, normalizeScope_normalizeScope]
  rw [hscope] at hvalid
  exact scoped_of_validated hscopes hload hvalid

theorem postAccessToken_kept (hkeeps : sys.tokenServices.KeepsTokens) (h : AllHeld sys.clients s)
    (hunmixed : UnmixedGrant sys s service clientId request.parameters) :
    Kept sys s (.postAccessToken clientId request service) := by
  intro authentication token hgrant
  obtain ⟨authenticated, tokenRequest, hload, hrequest, -, hvalid, hgranted⟩ :=
    TokenEndpoint.grantFor_eq_ok hgrant
  have htype := (RequestFactory.createTokenRequest_eq_ok hrequest).2
  have hparameters := (RequestFactory.createTokenRequest_scope hrequest).1
  obtain ⟨g, hg, hgtype, client, hclient, hissuance, created, hcreated, rfl⟩ :=
    TokenEndpoint.grantFirst_eq_ok hgranted
  have hget : ∀ grantType : String, grantType ≠ "" → grantType = tokenRequest.grantType.getD "" →
      request.parameters.get "grant_type" = some grantType := by
    intro grantType hne hsame
    rw [← htype]
    cases hgiven : tokenRequest.grantType with
    | none =>
      rw [hgiven] at hsame
      exact absurd hsame hne
    | some given =>
      rw [hgiven] at hsame
      rw [hsame]
      rfl
  simp only [TokenEndpoint.granters, List.mem_cons, List.not_mem_nil, or_false] at hg
  -- one case for each granter, in the order in which they are asked
  rcases hg with rfl | rfl | rfl | rfl
  · have hcode : request.parameters.get "grant_type" = some "authorization_code" :=
      hget "authorization_code" (by decide) hgtype
    rw [if_pos hcode]
    rw [UnmixedGrant, if_pos hcode] at hunmixed
    rw [← hparameters] at hunmixed ⊢
    exact code_kept hkeeps h hissuance hunmixed hcreated
  · cases hissuance
  · unfold TokenEndpoint.implicitTokenGranter at hissuance
    split_ifs at hissuance
  · have hcredentials : request.parameters.get "grant_type" = some "client_credentials" :=
      hget "client_credentials" (by decide) hgtype
    have hnot : ¬request.parameters.get "grant_type" = some "authorization_code" := by
      rw [hcredentials]
      decide
    have hnarrowed : TokenEndpoint.grantedScope request.parameters tokenRequest =
        tokenRequest.scope := by
      unfold TokenEndpoint.grantedScope
      rw [hcredentials]
      rfl
    rw [if_neg hnot]
    rw [UnmixedGrant, if_neg hnot] at hunmixed
    rw [hnarrowed] at hissuance hclient
    have hasked := TokenEndpoint.Issuance.create.inj (Except.ok.inj hissuance)
    have hload' : (sys.tokens s service).clients = sys.clients := rfl
    rw [hload'] at hload hrequest hclient
    simp only [hload, hrequest, hclient, WhenOk] at hunmixed
    rw [← hasked] at hcreated
    have hkept : Scoped sys.clients (some clientId) request.parameters created.scope :=
      clientCredentials_kept hkeeps hload hrequest hvalid hunmixed hcreated
    exact hkept

end Tokens

section Results

variable {sys} {s : State ι} {event : Event ι}

/-- A token has the scopes of what it was created for. -/
theorem kept_of_allHeld (hkeeps : sys.tokenServices.KeepsTokens) (h : AllHeld sys.clients s)
    (hsettled : Settled sys s event) : Kept sys s event := by
  have hscope : ∀ {service : Service} {request : AuthorizationRequest} {user} {token},
      Proper sys.clients request → Unmixed sys service ⟨request.createOAuth2Request, some user⟩ →
      sys.createAccessToken service ⟨request.createOAuth2Request, some user⟩ = .ok token →
        Scoped sys.clients request.clientId request.requestParameters token.scope := by
    intro service request user token hproper hunmixed hcreate
    have hgrantable := hproper.grantable (some user)
    rw [scope_of_unmixed hkeeps hunmixed hgrantable.clientId hcreate]
    exact hgrantable.bounded
  cases event with
  | authorization event service =>
    intro redirectUri token s' hrun
    cases event with
    | authorize i request =>
      obtain ⟨decided, user, hproper, hclient, hparameters, hunmixed, hcreate⟩ :=
        authorize_token hsettled hrun
      refine ⟨_, _, rfl, ?_⟩
      rw [← hclient, ← hparameters]
      exact hscope hproper hunmixed hcreate
    | approveOrDeny i request =>
      obtain ⟨waiting, decided, user, hwaiting, hcontinues, hproper, hunmixed, hcreate⟩ :=
        approveOrDeny_token h hsettled hrun
      refine ⟨waiting.clientId, waiting.requestParameters, by simp only [asked, hwaiting], ?_⟩
      rw [← hcontinues.clientId, ← hcontinues.requestParameters]
      exact hscope hproper hunmixed hcreate
  | postAccessToken clientId request service => exact postAccessToken_kept hkeeps h hsettled
  | approvals approvals => trivial
  | gone code => trivial

theorem allHeld_start (clients : ClientDetailsService) (approvals : InMemoryApprovalStore) :
    AllHeld clients ({ approvals := approvals } : State ι) where
  pending _ _ h := by cases h
  codes _ h := by cases h

variable [DecidableEq ι]

theorem allHeld_leave {i : ι} {t : EndpointState InMemoryApprovalStore}
    (h : AllHeld sys.clients s) (ht : Held sys.clients t) : AllHeld sys.clients (s.leave i t) where
  pending j waiting hwaiting := by
    have hpending : Function.update s.pending i t.pending j = some (.request waiting) := hwaiting
    by_cases hji : j = i
    · rw [hji, Function.update_self] at hpending
      exact ht.pending waiting hpending
    · rw [Function.update_of_ne hji] at hpending
      exact h.pending j waiting hpending
  codes := ht.codes

theorem allHeld_step (h : AllHeld sys.clients s) (hsettled : Settled sys s event) :
    AllHeld sys.clients (step sys s event) := by
  cases event with
  | authorization event service =>
    cases event with
    | authorize i request => exact allHeld_leave h (authorize_held h hsettled)
    | approveOrDeny i request => exact allHeld_leave h (approveOrDeny_held h hsettled)
  | postAccessToken clientId request service => exact h
  | approvals approvals => exact ⟨h.pending, h.codes⟩
  | gone code =>
    refine ⟨h.pending, fun issued hissued => h.codes issued ?_⟩
    exact (List.mem_filter.mp hissued).1

/-- In a run whose decisions leave scopes as they are and whose grants do not mix, every token has
scopes of its client, of its request and of its code. -/
theorem scopes_kept (sys : System ι) (hkeeps : sys.tokenServices.KeepsTokens)
    (approvals : InMemoryApprovalStore) (events : List (Event ι)) (event : Event ι)
    (h : Runs.Meets (step sys) (Settled sys) { approvals := approvals } (events ++ [event])) :
    Kept sys (Runs.exec (step sys) { approvals := approvals } events) event := by
  obtain ⟨hbefore, hlast⟩ := (Runs.meets_append _ _ _).mp h
  refine kept_of_allHeld hkeeps ?_ hlast.1
  refine Runs.exec_invariant (I := AllHeld sys.clients) ?_ hbefore (allHeld_start _ _)
  exact fun s e hsettled hs => allHeld_step hs hsettled

end Results

instance (service : Service) : DecidablePred (Unmixed sys service) := fun _ =>
  inferInstanceAs (Decidable (_ ∧ _))

instance (service : Service) (request : Request) : DecidablePred (UnmixedImplicit sys service request) :=
  fun _ => inferInstanceAs (Decidable (_ ∈ _ → ∀ _ ∈ _, Unmixed _ _ _))

instance (request : AuthorizationRequest) (now : ℕ) (approvals : InMemoryApprovalStore) :
    Decidable (Decided sys request now approvals) :=
  inferInstanceAs (Decidable (WhenOk _ fun _ => _ = _ → _ ≠ _ ∧ _ = _))

instance (s : State ι) (service : Service) (clientId : String) (parameters : Parameters) :
    Decidable (UnmixedGrant sys s service clientId parameters) :=
  inferInstanceAs (Decidable (if _ = _ then ∀ _ ∈ _, WhenOk _ (Unmixed _ _)
    else WhenOk _ fun _ => WhenOk _ fun _ => WhenOk _ fun _ => Unmixed _ _ _))

instance (s : State ι) : DecidablePred (Settled sys s)
  | .authorization (.authorize _ _) _ =>
    inferInstanceAs (Decidable (WhenOk _ fun _ => WhenOk _ fun _ => Decided _ _ _ _ ∧
      WhenOk _ (UnmixedImplicit _ _ _)))
  | .authorization (.approveOrDeny _ _) _ =>
    inferInstanceAs (Decidable (WhenOk _ fun _ => _ = _ ∧ UnmixedImplicit _ _ _ _))
  | .postAccessToken _ _ _ => inferInstanceAs (Decidable (UnmixedGrant _ _ _ _ _))
  | .approvals _ => isTrue trivial
  | .gone _ => isTrue trivial

def registry : ClientDetailsService where
  loadClientByClientId id :=
    if id = some "app" then
      .ok { clientId := "app", scope := ["read", "write"]
            authorizedGrantTypes := ["authorization_code", "implicit"]
            registeredRedirectUri := some ["https://app.example/cb"] }
    else .error (noSuchClient "No client with requested id")
  no_authenticationException id e h := by
    split_ifs at h
    cases h
    rfl

def aliceToken : UsernamePasswordAuthenticationToken :=
  ⟨.basic { username := some "alice", authenticated := true }, none, [], true⟩

/-- One client, and alice in one session. -/
def alice : System Unit where
  clients := registry
  resolveRedirect uri _ := .ok uri
  handler := { isMatch := fun scope auto => scope = auto, monthLater := fun now => now + 2678400000 }
  database := ⟨⟨[], List.nodup_nil⟩, [], [], []⟩
  sessions _ := { id := "alice", currentAuthentication := some (.user (.token aliceToken)) }
  digest := id
  tokenServices := {}

theorem keepsTokens_alice : alice.tokenServices.KeepsTokens := by
  intro enhancer h
  cases h

/-- Nothing has been called before. -/
def idle : Service := { m := ⟨1000, "t1", "r1"⟩, genuine := by decide }

def code : String := "0a1b2c3d-4e5f-4a6b-8c7d-9e0f1a2b3c4d"

def ask (responseType : String) : Event Unit :=
  .authorization (.authorize () {
    parameters := [("client_id", "app"), ("response_type", responseType),
      ("redirect_uri", "https://app.example/cb")]
    securityContext := some (.token aliceToken) }) idle

def answer (approvals : Parameters) : Event Unit :=
  .authorization (.approveOrDeny () { parameters := approvals, generatedCode := code }) idle

/-- The code is turned in with another scope than the one that alice has approved. -/
def turnIn : Event Unit :=
  .postAccessToken "app" { parameters := [("grant_type", "authorization_code"), ("code", code),
    ("redirect_uri", "https://app.example/cb"), ("scope", "write")] } idle

theorem scopes_kept_for_code :
    Kept alice (Runs.exec (step alice) { approvals := fun _ => [] }
      [ask "code", answer [("scope.read", "true")]]) turnIn :=
  scopes_kept alice keepsTokens_alice (fun _ => []) _ turnIn (by decide +kernel)

def tokenScope : View → Option (List String)
  | .accessToken _ token => some token.scope
  | _ => none

/-- Where alice has denied all scopes, the next request is approved with none. -/
theorem denied_request_gets_token :
    ¬ ∀ (sys : System Unit), sys.tokenServices.KeepsTokens →
      ∀ (approvals : InMemoryApprovalStore) (events : List (Event Unit)) (event : Event Unit),
        Kept sys (Runs.exec (step sys) { approvals := approvals } events) event := by
  intro h
  let s := Runs.exec (step alice) { approvals := fun _ => [] } [ask "token", answer []]
  let again : SharedApprovals.Event Unit := .authorize () {
    parameters := [("client_id", "app"), ("response_type", "token"),
      ("redirect_uri", "https://app.example/cb")]
    securityContext := some (.token aliceToken) }
  have hkept : Kept alice s (.authorization again idle) :=
    h alice keepsTokens_alice (fun _ => []) [ask "token", answer []] (.authorization again idle)
  have hempty : (outcome (SharedApprovals.run (alice.authorizations idle) again)
      (s.enter (alice.authorizations idle) ())).toOption.bind tokenScope = some [] := by
    decide +kernel
  unfold outcome at hempty
  cases hrun : SharedApprovals.run (alice.authorizations idle) again
      (s.enter (alice.authorizations idle) ()) with
  | error e t =>
    rw [hrun] at hempty
    cases hempty
  | ok view t =>
    rw [hrun] at hempty
    cases view with
    | accessToken redirectUri token =>
      have hnone : token.scope = [] := Option.some.inj hempty
      obtain ⟨clientId, parameters, hasked, hbounded⟩ := hkept redirectUri token t hrun
      cases hasked
      exact (hbounded _ rfl (by decide)).nonempty hnone
    | code redirectUri query => cases hempty
    | error redirectUri query fragment => cases hempty
    | approvalPage model scopes => cases hempty

end MaxKey.GrantedScopes
