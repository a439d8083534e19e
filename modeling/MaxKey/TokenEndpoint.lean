import MaxKey.ClientAuthentication

namespace MaxKey.TokenEndpoint
open OAuth2 JavaException Effects WebContext Realm ClientAuthentication

/-- What a granter asks of the token services: a token for an authentication, or a new one
for a refresh token. -/
inductive Issuance
  | create (authentication : OAuth2Authentication)
  | refresh (refreshToken : Option String) (tokenRequest : TokenRequest)

/-- The client that the token is for. The token services check that a refresh token belongs
to the client of the request. -/
def Issuance.clientId : Issuance → Option String
  | create authentication => authentication.oAuth2Request.clientId
  | refresh _ tokenRequest => tokenRequest.clientId

/-- What the endpoint works with: the code store and the token services answer as they do at
the time of the request. -/
structure Services where
  clients : ClientDetailsService
  consumeAuthorizationCode : String → Except JavaException OAuth2Authentication
  tokenServices : Issuance → Except JavaException OAuth2AccessToken

def required {α : Type} (e : JavaException) : Option α → Except JavaException α
  | some a => .ok a
  | none => .error e

def startsWithAny (redirectUri : Option String) (redirectUris : List String) :
    Except JavaException Bool :=
  match redirectUris, redirectUri with
  | [], _ => .ok false
  | _, some uri => .ok (redirectUris.any fun stored => JavaText.startsWith uri stored)
  | _, none => .error nullPointer

structure TokenGranter where
  grantType : String
  issuance : ClientDetails → TokenRequest → Except JavaException Issuance
  returned : OAuth2AccessToken → OAuth2AccessToken := id

def authorizationCodeGranter (s : Services) : TokenGranter where
  grantType := "authorization_code"
  issuance client tokenRequest := do
    let parameters := tokenRequest.requestParameters
    let redirectUri := parameters.get "redirect_uri"
    let code ← required (invalidRequest "An authorization code must be supplied.")
      (parameters.get "code")
    let storedAuth ← s.consumeAuthorizationCode code
    let pending := storedAuth.oAuth2Request
    let registered ← required nullPointer client.registeredRedirectUri
    let matching ← startsWithAny redirectUri registered
    failIf ((redirectUri.isSome ∨ (pending.requestParameters.get "redirect_uri").isSome) ∧ ¬matching)
      (redirectMismatch "Redirect URI mismatch.")
    failIf (tokenRequest.clientId.isSome ∧ tokenRequest.clientId ≠ pending.clientId)
      (invalidClient "Client ID mismatch")
    let combined := pending.requestParameters.putAll parameters
    return .create { storedAuth with oAuth2Request := { pending with requestParameters := combined } }

def refreshTokenGranter : TokenGranter where
  grantType := "refresh_token"
  issuance _ tokenRequest :=
    .ok (.refresh (tokenRequest.requestParameters.get "refresh_token") tokenRequest)

/-- The endpoint passes no ImplicitTokenRequest, so the granter fails on every request. -/
def implicitTokenGranter (securityContext : Option Authentication) : TokenGranter where
  grantType := "implicit"
  issuance _ _ :=
    if securityContext.any Authentication.isAuthenticated then
      .error (illegalState
        "An ImplicitTokenRequest is required here. Caller needs to wrap the TokenRequest.")
    else .error (insufficientAuthentication "There is no currently logged in user")

/-- No refresh token comes back to a client that acts for itself. -/
def clientCredentialsTokenGranter : TokenGranter where
  grantType := "client_credentials"
  issuance client tokenRequest := .ok (.create ⟨createOAuth2Request client tokenRequest, none⟩)
  returned token := { token with refreshToken := none }

/-- AbstractTokenGranter.grant -/
def TokenGranter.grant (g : TokenGranter) (s : Services) (grantType : String)
    (tokenRequest : TokenRequest) : Except JavaException (Option (Issuance × OAuth2AccessToken)) :=
  if g.grantType ≠ grantType then .ok none
  else do
    let client ← s.clients.loadClientByClientId tokenRequest.clientId
    failIf (client.authorizedGrantTypes ≠ [] ∧ grantType ∉ client.authorizedGrantTypes)
      (invalidClient ("Unauthorized grant type: " ++ grantType))
    let issuance ← g.issuance client tokenRequest
    let token ← s.tokenServices issuance
    return some (issuance, g.returned token)

/-- CompositeTokenGranter.grant: the first granter that answers. -/
def grantFirst (s : Services) (grantType : String) (tokenRequest : TokenRequest) :
    List TokenGranter → Except JavaException (Option (Issuance × OAuth2AccessToken))
  | [] => .ok none
  | g :: granters => do
    match ← g.grant s grantType tokenRequest with
    | some token => return some token
    | none => grantFirst s grantType tokenRequest granters

def granters (s : Services) (securityContext : Option Authentication) : List TokenGranter :=
  [authorizationCodeGranter s, refreshTokenGranter, implicitTokenGranter securityContext,
    clientCredentialsTokenGranter]

/-- The client id out of the principal of the session's authentication. -/
def getClientId : Principal → Except JavaException String
  | .basic client =>
    if client.authenticated then required nullPointer client.username
    else .error (insufficientAuthentication "The client is not authenticated.")
  | .name none =>
    .error (insufficientAuthentication
      "There is no client authentication. Try adding an appropriate authentication filter.")
  | _ => .error classCast

def uuidMatches (uuidString : String) : Bool :=
  let parts := uuidString.toList.splitOn '-'
  parts.map List.length = [8, 4, 4, 4, 12] &&
    parts.all fun part => part.all fun c => ('0' ≤ c && c ≤ '9') || ('a' ≤ c && c ≤ 'z')

/-- The scope that the grant works with; an authorization code brings its own. -/
def grantedScope (parameters : Parameters) (tokenRequest : TokenRequest) : List String :=
  if parameters.get "grant_type" = some "refresh_token" ∧
      (parameters.get "refresh_token").isSome then
    normalizeScope (OAuth2Utils.parseParameterList (parameters.get "scope"))
  else if parameters.get "grant_type" = some "authorization_code" ∧
      (parameters.get "code").isSome then []
  else tokenRequest.scope

/-- The endpoint for a client id: the checks of the request, then the grant. -/
def grantFor (s : Services) (request : Request) (clientId : String) :
    Except JavaException (Issuance × OAuth2AccessToken) := do
  let parameters := request.parameters
  let authenticatedClient ← s.clients.loadClientByClientId (some clientId)
  let tokenRequest ← RequestFactory.createTokenRequest s.clients parameters authenticatedClient
  failIf (clientId ≠ "" ∧ some clientId ≠ tokenRequest.clientId)
    (invalidClient "Given client ID does not match authenticated client")
  validateScope tokenRequest.scope authenticatedClient.scope
  let grantType := tokenRequest.grantType.getD ""
  failIf (¬JavaText.hasText tokenRequest.grantType) (invalidRequest "Missing grant type")
  failIf (grantType = "implicit")
    (invalidGrant "Implicit grant type not supported from token endpoint")
  let code ← required nullPointer (parameters.get "code")
  failIf (¬uuidMatches code) (invalidRequest "The code is not valid format .")
  let tokenRequest := { tokenRequest with scope := grantedScope parameters tokenRequest }
  match ← grantFirst s grantType tokenRequest (granters s request.securityContext) with
  | some token => return token
  | none => .error (unsupportedGrantType ("Unsupported grant type: " ++ grantType))

/-- The token, and what it was issued for. -/
def postAccessToken (s : Services) (request : Request) : Web (Issuance × OAuth2AccessToken) := do
  let authentication ← nonNull (← getAuthentication)
  orError (getClientId authentication.getPrincipal >>= grantFor s request)

section Grants

variable {s : Services} {tokenRequest : TokenRequest}

/-- Of each granter: the token is for the client of the request. -/
def ForClient (g : TokenGranter) : Prop := ∀ client tokenRequest issuance,
  some client.clientId = tokenRequest.clientId → g.issuance client tokenRequest = .ok issuance →
    issuance.clientId = tokenRequest.clientId

theorem authorizationCodeGranter_forClient : ForClient (authorizationCodeGranter s) := by
  intro client tokenRequest issuance hclient h
  dsimp only [authorizationCodeGranter] at h
  obtain ⟨code, -, h⟩ := except_bind_eq_ok.mp h
  obtain ⟨storedAuth, -, h⟩ := except_bind_eq_ok.mp h
  obtain ⟨registered, -, h⟩ := except_bind_eq_ok.mp h
  obtain ⟨hmatch, -, h⟩ := except_bind_eq_ok.mp h
  obtain ⟨_, -, h⟩ := except_bind_eq_ok.mp h
  obtain ⟨_, hmismatch, h⟩ := except_bind_eq_ok.mp h
  have hsame := failIf_eq_ok.mp hmismatch
  have hpending : tokenRequest.clientId = storedAuth.oAuth2Request.clientId := by
    by_contra hne
    exact hsame ⟨by rw [← hclient]; rfl, hne⟩
  have hissuance := Except.ok.inj h
  rw [← hissuance]
  exact hpending.symm

theorem granters_forClient (securityContext : Option Authentication) :
    ∀ g ∈ granters s securityContext, ForClient g := by
  intro g hg
  simp only [granters, List.mem_cons, List.not_mem_nil, or_false] at hg
  rcases hg with rfl | rfl | rfl | rfl
  · exact authorizationCodeGranter_forClient
  · intro client tokenRequest issuance _ h
    rw [← Except.ok.inj h]
    rfl
  · intro client tokenRequest issuance _ h
    unfold implicitTokenGranter at h
    split_ifs at h
  · intro client tokenRequest issuance hclient h
    rw [← Except.ok.inj h]
    exact hclient

/-- A token comes from one of the granters, for its own grant type. -/
theorem grantFirst_eq_ok {grantType : String} {gs : List TokenGranter} {issuance : Issuance}
    {token : OAuth2AccessToken}
    (h : grantFirst s grantType tokenRequest gs = .ok (some (issuance, token))) :
    ∃ g ∈ gs, g.grantType = grantType ∧
      ∃ client, s.clients.loadClientByClientId tokenRequest.clientId = .ok client ∧
        g.issuance client tokenRequest = .ok issuance ∧
        ∃ created, s.tokenServices issuance = .ok created ∧ token = g.returned created := by
  induction gs with
  | nil => cases h
  | cons g gs ih =>
    obtain ⟨granted, hgrant, h⟩ := except_bind_eq_ok.mp h
    cases granted with
    | none =>
      obtain ⟨g', hg', hgranted⟩ := ih h
      exact ⟨g', List.mem_cons_of_mem g hg', hgranted⟩
    | some granted =>
      cases h
      unfold TokenGranter.grant at hgrant
      split_ifs at hgrant with htype
      · cases hgrant
      obtain ⟨client, hload, hgrant⟩ := except_bind_eq_ok.mp hgrant
      obtain ⟨_, -, hgrant⟩ := except_bind_eq_ok.mp hgrant
      obtain ⟨issuance', hissuance, hgrant⟩ := except_bind_eq_ok.mp hgrant
      obtain ⟨created, hcreated, hgrant⟩ := except_bind_eq_ok.mp hgrant
      cases hgrant
      exact ⟨g, List.mem_cons_self, not_not.mp htype, client, hload, hissuance, created, hcreated,
        rfl⟩

theorem grantFirst_clientId {grantType : String} {gs : List TokenGranter}
    (hclient : ∀ client, s.clients.loadClientByClientId tokenRequest.clientId = .ok client →
      some client.clientId = tokenRequest.clientId)
    (hgs : ∀ g ∈ gs, ForClient g) {issuance : Issuance} {token : OAuth2AccessToken}
    (h : grantFirst s grantType tokenRequest gs = .ok (some (issuance, token))) :
    issuance.clientId = tokenRequest.clientId := by
  obtain ⟨g, hg, -, client, hload, hissuance, -⟩ := grantFirst_eq_ok h
  exact hgs g hg client tokenRequest issuance (hclient client hload) hissuance

/-- What the endpoint has checked by the time that a granter is asked. -/
theorem grantFor_eq_ok {request : Request} {clientId : String} {issuance : Issuance}
    {token : OAuth2AccessToken} (h : grantFor s request clientId = .ok (issuance, token)) :
    ∃ authenticated tokenRequest, s.clients.loadClientByClientId (some clientId) = .ok authenticated ∧
      RequestFactory.createTokenRequest s.clients request.parameters authenticated =
        .ok tokenRequest ∧
      ¬(clientId ≠ "" ∧ some clientId ≠ tokenRequest.clientId) ∧
      validateScope tokenRequest.scope authenticated.scope = .ok () ∧
      grantFirst s (tokenRequest.grantType.getD "")
        { tokenRequest with scope := grantedScope request.parameters tokenRequest }
        (granters s request.securityContext) = .ok (some (issuance, token)) := by
  obtain ⟨authenticated, hload, h⟩ := except_bind_eq_ok.mp h
  obtain ⟨tokenRequest, hrequest, h⟩ := except_bind_eq_ok.mp h
  obtain ⟨_, hmatch, h⟩ := except_bind_eq_ok.mp h
  obtain ⟨_, hvalid, h⟩ := except_bind_eq_ok.mp h
  obtain ⟨_, -, h⟩ := except_bind_eq_ok.mp h
  obtain ⟨_, -, h⟩ := except_bind_eq_ok.mp h
  obtain ⟨code, -, h⟩ := except_bind_eq_ok.mp h
  obtain ⟨_, -, h⟩ := except_bind_eq_ok.mp h
  obtain ⟨granted, hgrant, h⟩ := except_bind_eq_ok.mp h
  cases granted with
  | none => cases h
  | some granted =>
    cases h
    exact ⟨authenticated, tokenRequest, hload, hrequest, failIf_eq_ok.mp hmatch, hvalid, hgrant⟩

/-- The endpoint issues tokens for the client that it takes out of the session. -/
theorem grantFor_clientId {request : Request} {clientId : String} (hid : clientId ≠ "")
    {issuance : Issuance} {token : OAuth2AccessToken}
    (h : grantFor s request clientId = .ok (issuance, token)) :
    issuance.clientId = some clientId := by
  obtain ⟨client, tokenRequest, hload, hrequest, hmatch, -, hgrant⟩ := grantFor_eq_ok h
  have hsame : some clientId = tokenRequest.clientId := by
    by_contra hne
    exact hmatch ⟨hid, hne⟩
  have hclient := (RequestFactory.createTokenRequest_eq_ok hrequest).1
  let narrowed : TokenRequest :=
    { tokenRequest with scope := grantedScope request.parameters tokenRequest }
  have hnarrowed : narrowed.clientId = some clientId := hsame.symm
  have hown : ∀ client', s.clients.loadClientByClientId narrowed.clientId = .ok client' →
      some client'.clientId = narrowed.clientId := by
    intro client' hload'
    rw [hnarrowed, hload] at hload'
    rw [← Except.ok.inj hload', hnarrowed, hsame, hclient]
  exact (grantFirst_clientId hown (granters_forClient _) hgrant).trans hnarrowed

/-- No granter answers a password request. -/
theorem grantFor_password {request : Request} (h : isPassword request) (clientId : String)
    (token : Issuance × OAuth2AccessToken) : grantFor s request clientId ≠ .ok token := by
  intro hgrant
  obtain ⟨_, tokenRequest, -, hrequest, -, -, hfirst⟩ := grantFor_eq_ok hgrant
  have htype : tokenRequest.grantType.getD "" = "password" := by
    rw [(RequestFactory.createTokenRequest_eq_ok hrequest).2, of_decide_eq_true h]
    rfl
  rw [htype] at hfirst
  cases hfirst

end Grants

/-- The endpoint behind its filter; `none` where the filter ends the request. -/
def tokenRequest (c : ClientAuthentication.Config) (s : Services) (request : Request) :
    Web (Option (Issuance × OAuth2AccessToken)) := do
  if ← doFilter c request then return some (← postAccessToken s request)
  else return none

/-- A token is issued only for a client whose secret the filter verified for this request, and
the request reaches the endpoint only if the verification did not fail. -/
structure Guarded (c : ClientAuthentication.Config) (s : Services) (request : Request)
    (w : World) : Prop where
  issued : ∀ issuance token w', tokenRequest c s request w = .ok (some (issuance, token)) w' →
    ∃ clientId, issuance.clientId = some clientId ∧ Verified c request clientId
  reached : ∀ w', doFilter c request w = .ok true w' →
    (∃ w'', attempt c request w = .ok () w'') ∧ ∃ clientId, Verified c request clientId

/-- A password request carries a client's name and secret beside an authenticated security
context, and any other request finds no trusted client in it. -/
def VerifiedFirst (c : ClientAuthentication.Config) (request : Request) : Prop :=
  if isPassword request then
    (∃ clientId, Verified c request clientId) ∧ request.securityContext.isSome
  else ¬Trusted request

variable {c : ClientAuthentication.Config} {s : Services} {request : Request} {w : World}

theorem tokenRequest_reached {token : Issuance × OAuth2AccessToken} {w' : World}
    (h : tokenRequest c s request w = .ok (some token) w') :
    ∃ w₁, doFilter c request w = .ok true w₁ ∧ postAccessToken s request w₁ = .ok token w' := by
  obtain ⟨passed, w₁, hfilter, h⟩ := bind_eq_ok.mp h
  cases passed with
  | false => cases h
  | true =>
    obtain ⟨token', w₂, hpost, h⟩ := bind_eq_ok.mp h
    cases h
    exact ⟨w₁, hfilter, hpost⟩

theorem postAccessToken_password (h : isPassword request) {token : Issuance × OAuth2AccessToken}
    {w' : World} : postAccessToken s request w ≠ .ok token w' := by
  intro hpost
  obtain ⟨found, w₁, -, hpost⟩ := bind_eq_ok.mp hpost
  obtain ⟨authentication, w₂, -, hpost⟩ := bind_eq_ok.mp hpost
  cases hgrant : getClientId authentication.getPrincipal >>= grantFor s request with
  | error e =>
    rw [hgrant] at hpost
    cases hpost
  | ok token' =>
    obtain ⟨clientId, -, hgrant⟩ := except_bind_eq_ok.mp hgrant
    exact grantFor_password h clientId token' hgrant

theorem leaves_postAccessToken {β : Type} (g : World → β) (s : Services) (request : Request) :
    Leaves g (postAccessToken s request) := by
  refine leaves_bind (leaves_bind (leaves_bind leaves_get fun _ => leaves_pure _) fun _ => ?_)
    fun _ => leaves_bind (leaves_orThrow _ _) fun _ => leaves_orError _
  exact leaves_pure _

/-- The endpoint itself changes nothing, so the state is what the filter leaves. -/
theorem final_tokenRequest {β : Type} (g : World → β) (c : ClientAuthentication.Config)
    (s : Services) (request : Request) (w : World) :
    g (final (tokenRequest c s request) w) = g (final (doFilter c request) w) := by
  refine final_bind_of_leaves (fun passed => ?_) w
  refine leaves_ite ?_ (leaves_pure _)
  exact leaves_bind (leaves_postAccessToken g s request) fun _ => leaves_pure _

/-- The endpoint answers for the client whose id stands in the session. -/
theorem postAccessToken_clientId {user : User} {authentication : Authentication}
    (hsession : w.session.currentAuthentication = some (clientToken user authentication))
    {issuance : Issuance} {token : OAuth2AccessToken} {w' : World}
    (h : postAccessToken s request w = .ok (issuance, token) w') :
    issuance.clientId = some user.username := by
  have hget : getAuthentication w = .ok (some (clientToken user authentication)) w :=
    congrArg (EStateM.Result.ok · w) hsession
  have hrun : postAccessToken s request w = orError (grantFor s request user.username) w :=
    bind_of_ok hget
  rw [hrun] at h
  cases hgrant : grantFor s request user.username with
  | error e =>
    rw [hgrant] at h
    cases h
  | ok granted =>
    rw [hgrant] at h
    cases h
    exact grantFor_clientId user.username_ne_empty hgrant

/-- The principal that a password request leaves is no Principal, so no token comes of it. -/
theorem postAccessToken_user {authentication : Authentication} {user : User}
    (hsession : w.session.currentAuthentication = some authentication)
    (hprincipal : authentication.getPrincipal = .user user) :
    postAccessToken s request w = .error classCast w := by
  have hget : getAuthentication w = .ok (some authentication) w :=
    congrArg (EStateM.Result.ok · w) hsession
  have hrun : postAccessToken s request w =
      orError (getClientId authentication.getPrincipal >>= grantFor s request) w := bind_of_ok hget
  rw [hrun, hprincipal]
  rfl

theorem authenticateUser_rejected
    (h : accepted (loadUserByUsername c.clients c.decoder) (request.parameters.get "username")
      (request.parameters.get "password") = none) :
    ∃ e, e.isAuthenticationException ∧ authenticateUser c request w = .error e w := by
  obtain ⟨e, hreject, he⟩ := c.authenticationManager.rejects _ _ h
  refine ⟨e, he, ?_⟩
  rw [authenticateUser, hreject]
  rfl

theorem authenticateUser_alone (h : request.securityContext = none) :
    ∃ e, e.isAuthenticationException ∧ authenticateUser c request w = .error e w := by
  cases haccepted : accepted (loadUserByUsername c.clients c.decoder)
      (request.parameters.get "username") (request.parameters.get "password") with
  | none => exact authenticateUser_rejected haccepted
  | some details =>
    obtain ⟨token, user, haccept, -⟩ := c.authenticationManager.accepts _ _ _ haccepted
    refine ⟨noClientAuthentication, rfl, ?_⟩
    rw [authenticateUser, haccept]
    refine (bind_of_ok (a := token) (t := w) rfl).trans ?_
    rw [h]
    rfl

/-- An accepted user beside an authenticated client is put into the session, unless the
registry fails. -/
theorem authenticateUser_accepted {details : User}
    (h : accepted (loadUserByUsername c.clients c.decoder) (request.parameters.get "username")
      (request.parameters.get "password") = some details)
    (hcontext : request.securityContext.isSome) :
    (∃ e, e.isAuthenticationException = false ∧ authenticateUser c request w = .error e w) ∨
    ∃ authentication user, authentication.getPrincipal = .user user ∧
      authenticateUser c request w = setAuthentication authentication w := by
  obtain ⟨token, user, haccept, hprincipal, -⟩ := c.authenticationManager.accepts _ _ _ h
  obtain ⟨clientAuth, hclient⟩ := Option.isSome_iff_exists.mp hcontext
  let map := request.parameters.put "client_id" clientAuth.getName
  cases hcreate : RequestFactory.createAuthorizationRequest c.clients map with
  | error e =>
    refine .inl ⟨e, RequestFactory.createAuthorizationRequest_error hcreate, ?_⟩
    rw [authenticateUser, haccept]
    refine (bind_of_ok (a := token) (t := w) rfl).trans ?_
    simp only [hclient]
    change (orError (RequestFactory.createAuthorizationRequest c.clients map) >>= _) w = _
    rw [hcreate]
    rfl
  | ok authorizationRequest =>
    let stored := storedOAuth2Request request clientAuth authorizationRequest
    refine .inr ⟨.oauth2 ⟨stored, some (.token token)⟩, user, hprincipal, ?_⟩
    rw [authenticateUser, haccept]
    refine (bind_of_ok (a := token) (t := w) rfl).trans ?_
    simp only [hclient]
    change (orError (RequestFactory.createAuthorizationRequest c.clients map) >>= _) w = _
    rw [hcreate]
    exact bind_of_ok (a := authorizationRequest) (t := w) rfl

theorem attempt_password (h : isPassword request) : attempt c request = authenticateUser c request :=
  if_pos h

theorem verified_password (h : isPassword request) :
    (∃ clientId, Verified c request clientId) ↔
      (accepted (loadUserByUsername c.clients c.decoder) (request.parameters.get "username")
        (request.parameters.get "password")).isSome := by
  have hpresented : presented request =
      some (request.parameters.get "username", request.parameters.get "password") := if_pos h
  rw [Option.isSome_iff_exists]
  constructor
  · rintro ⟨clientId, name, secret, details, hsame, haccepted, -⟩
    rw [hpresented] at hsame
    cases hsame
    exact ⟨details, haccepted⟩
  · rintro ⟨details, haccepted⟩
    exact ⟨details.username, _, _, details, hpresented, haccepted, rfl⟩

/-- An attempt that fails and is caught reaches the endpoint all the same. -/
theorem not_guarded_of_caught (hpassword : isPassword request) {e : JavaException}
    (he : e.isAuthenticationException) (h : authenticateUser c request w = .error e w) :
    ¬Guarded c s request w := by
  intro hguarded
  have hreached : doFilter c request w = .ok true w := by
    rw [doFilter_password c hpassword, h]
    exact if_pos he
  obtain ⟨⟨w', hattempt⟩, -⟩ := hguarded.reached w hreached
  rw [attempt_password hpassword, h] at hattempt
  cases hattempt

theorem guarded_password_iff (hpassword : isPassword request) :
    Guarded c s request w ↔
      (∃ clientId, Verified c request clientId) ∧ request.securityContext.isSome := by
  rw [verified_password hpassword]
  cases haccepted : accepted (loadUserByUsername c.clients c.decoder)
      (request.parameters.get "username") (request.parameters.get "password") with
  | none =>
    obtain ⟨e, he, hrun⟩ := authenticateUser_rejected (w := w) haccepted
    exact iff_of_false (not_guarded_of_caught hpassword he hrun) (by simp)
  | some details =>
    by_cases hcontext : request.securityContext.isSome = true
    · refine iff_of_true ?_ ⟨rfl, hcontext⟩
      have hverified : ∃ clientId, Verified c request clientId :=
        (verified_password hpassword).mpr (by rw [haccepted]; rfl)
      rcases authenticateUser_accepted (w := w) haccepted hcontext with
        ⟨e, he, hrun⟩ | ⟨authentication, user, hprincipal, hrun⟩
      · have hfilter : doFilter c request w = .error e w := by
          rw [doFilter_password c hpassword, hrun]
          exact if_neg (by simp [he])
        constructor
        · intro issuance token w' h
          obtain ⟨w₁, hreached, -⟩ := tokenRequest_reached h
          rw [hfilter] at hreached
          cases hreached
        · intro w' hreached
          rw [hfilter] at hreached
          cases hreached
      · have hfilter : doFilter c request w =
            .ok true (final (setAuthentication authentication) w) := by
          rw [doFilter_password c hpassword, hrun]
          rfl
        constructor
        · intro issuance token w' h
          obtain ⟨w₁, hreached, hpost⟩ := tokenRequest_reached h
          rw [hfilter] at hreached
          cases hreached
          rw [postAccessToken_user rfl hprincipal] at hpost
          cases hpost
        · intro w' _
          exact ⟨⟨_, (attempt_password hpassword).symm ▸ hrun⟩, hverified⟩
    · obtain ⟨e, he, hrun⟩ := authenticateUser_alone (c := c) (w := w)
        (Option.not_isSome_iff_eq_none.mp hcontext)
      exact iff_of_false (not_guarded_of_caught hpassword he hrun) (fun h => hcontext h.2)

theorem attempt_client (h : ¬isPassword request) :
    attempt c request = authenticateClient c request := if_neg h

/-- A trusted client is taken over without its secret. -/
theorem not_verified_of_trusted (hpassword : ¬isPassword request) (h : Trusted request)
    (clientId : String) : ¬Verified c request clientId := by
  rintro ⟨name, secret, details, hpresented, -⟩
  obtain ⟨authentication, hsecurity, hauth, -⟩ := h
  have hcontext : request.securityContext.any Authentication.isAuthenticated :=
    (Option.any_eq_true _ _).mpr ⟨authentication, hsecurity, hauth⟩
  rw [presented, if_neg hpassword, if_pos hcontext] at hpresented
  cases hpresented

theorem guarded_client_iff (hpassword : ¬isPassword request) :
    Guarded c s request w ↔ ¬Trusted request := by
  rcases authenticateClient_cases c hpassword w with
    ⟨htrusted, w', hrun⟩ | ⟨htrusted, e, hrun⟩ | ⟨htrusted, user, authentication, hverified, hrun⟩
  · refine iff_of_false ?_ (not_not.mpr htrusted)
    intro hguarded
    have hfilter : doFilter c request w = .ok true w' := by rw [doFilter_client c hpassword, hrun]
    obtain ⟨-, clientId, hverified⟩ := hguarded.reached w' hfilter
    exact not_verified_of_trusted hpassword htrusted clientId hverified
  · refine iff_of_true ?_ htrusted
    have hfilter : ∀ w', doFilter c request w ≠ .ok true w' := by
      intro w'
      rw [doFilter_client c hpassword, hrun]
      simp only
      split_ifs <;> simp
    constructor
    · intro issuance token w' h
      obtain ⟨w₁, hreached, -⟩ := tokenRequest_reached h
      exact absurd hreached (hfilter w₁)
    · intro w' hreached
      exact absurd hreached (hfilter w')
  · refine iff_of_true ?_ htrusted
    have hfilter : doFilter c request w =
        .ok true (final (setAuthentication (clientToken user authentication)) w) := by
      rw [doFilter_client c hpassword, hrun]
      rfl
    constructor
    · intro issuance token w' h
      obtain ⟨w₁, hreached, hpost⟩ := tokenRequest_reached h
      rw [hfilter] at hreached
      cases hreached
      exact ⟨user.username, postAccessToken_clientId rfl hpost, hverified⟩
    · intro w' _
      exact ⟨⟨_, (attempt_client hpassword).symm ▸ hrun⟩, user.username, hverified⟩

/-- The endpoint is guarded exactly when its filter verifies the client first. -/
theorem tokenRequest_guarded_iff (c : ClientAuthentication.Config) (s : Services)
    (request : Request) (w : World) : Guarded c s request w ↔ VerifiedFirst c request := by
  by_cases hpassword : isPassword request = true
  · rw [VerifiedFirst, if_pos hpassword]
    exact guarded_password_iff hpassword
  · rw [VerifiedFirst, if_neg hpassword]
    exact guarded_client_iff hpassword

/-- A manager that answers as documented; the credentials are erased from its principal. -/
def daoManager (load : String → Except JavaException User) : AuthenticationManager load where
  authenticate name secret :=
    match accepted load name secret with
    | some details =>
      .ok {
        principal := .user { details with password := none }, credentials := none
        authorities := details.authorities, authenticated := true }
    | none => .error (badCredentials "Bad credentials")
  accepts name secret details h := by simp [h]
  rejects name secret h := by simp [h, isAuthenticationException]

/-- One client, whose secret is stored as it is. -/
def oneClient : ClientDetailsService where
  loadClientByClientId id :=
    if id = some "app" then
      .ok { clientId := "app", clientSecret := some "s3cret", scope := ["read"]
            registeredRedirectUri := some ["https://app.example/cb"] }
    else .error (noSuchClient "No client with requested id")
  no_authenticationException id e h := by
    split_ifs at h
    cases h
    rfl

def oneClientConfig : ClientAuthentication.Config where
  clients := oneClient
  decoder := .ok
  authenticationManager := daoManager _

/-- No code is valid, and no token comes. -/
def noServices : Services where
  clients := oneClient
  consumeAuthorizationCode _ := .error (invalidGrant "Invalid authorization code")
  tokenServices _ := .error (invalidGrant "Invalid refresh token")

def wrongPassword : Request where
  parameters := [("grant_type", "password"), ("username", "app"), ("password", "guess")]

def idle : World where
  database := ⟨KeyedTable.empty, [], [], []⟩
  session := { id := "s1" }

/-- A password request with a wrong secret goes on to the endpoint. -/
theorem wrong_password_reaches_endpoint :
    ¬Guarded oneClientConfig noServices wrongPassword idle ∧
      doFilter oneClientConfig wrongPassword idle = .ok true idle := by
  have hreached : doFilter oneClientConfig wrongPassword idle = .ok true idle := by rfl
  refine ⟨fun h => ?_, hreached⟩
  obtain ⟨⟨w', hattempt⟩, -⟩ := h.reached idle hreached
  have hfails : attempt oneClientConfig wrongPassword idle =
      .error (badCredentials "Bad credentials") idle := by rfl
  rw [hfails] at hattempt
  cases hattempt

/-! ### The form of the code -/

/-- The session's client passes the checks of the endpoint that do not read the code, and a granter
answers its request with the token. -/
def Accepted (s : Services) (request : Request) (w : World) (token : Issuance × OAuth2AccessToken) :
    Prop :=
  ∃ authentication clientId client tokenRequest,
    w.session.currentAuthentication = some authentication ∧
    getClientId authentication.getPrincipal = .ok clientId ∧
    s.clients.loadClientByClientId (some clientId) = .ok client ∧
    RequestFactory.createTokenRequest s.clients request.parameters client = .ok tokenRequest ∧
    ¬(clientId ≠ "" ∧ some clientId ≠ tokenRequest.clientId) ∧
    validateScope tokenRequest.scope client.scope = .ok () ∧
    JavaText.hasText tokenRequest.grantType ∧
    tokenRequest.grantType ≠ some "implicit" ∧
    grantFirst s (tokenRequest.grantType.getD "")
      { tokenRequest with scope := grantedScope request.parameters tokenRequest }
      (granters s request.securityContext) = .ok (some token)

/-- The request is answered with the token, and with no exception outside of OAuth2. -/
structure Answered (s : Services) (request : Request) (w : World)
    (token : Issuance × OAuth2AccessToken) : Prop where
  token : postAccessToken s request w = .ok token w
  exceptions : ∀ e w', postAccessToken s request w = .error e w' → e.isOAuth2Exception = true

theorem ok_bind {α β : Type} (a : α) (k : α → Except JavaException β) : (Except.ok a >>= k) = k a := rfl

/-- What is left of the endpoint for an accepted request is the test of the code. -/
theorem postAccessToken_of_accepted {token : Issuance × OAuth2AccessToken}
    (h : Accepted s request w token) :
    postAccessToken s request w = orError (do
      let code ← required nullPointer (request.parameters.get "code")
      failIf (¬uuidMatches code) (invalidRequest "The code is not valid format .")
      return token) w := by
  obtain ⟨authentication, clientId, client, tokenRequest, hsession, hid, hload, hrequest, hmatch, hscope,
    htext, himplicit, hgrant⟩ := h
  have hget : getAuthentication w = .ok (some authentication) w :=
    congrArg (EStateM.Result.ok · w) hsession
  have htype : tokenRequest.grantType.getD "" ≠ "implicit" := by
    intro hgetD
    cases htype : tokenRequest.grantType with
    | none =>
      rw [htype] at hgetD
      exact absurd hgetD (by decide)
    | some grantType =>
      rw [htype] at hgetD
      exact himplicit (htype.trans (congrArg some hgetD))
  have hrun : postAccessToken s request w = orError (grantFor s request clientId) w := by
    have hstart : postAccessToken s request w =
        orError (getClientId authentication.getPrincipal >>= grantFor s request) w := bind_of_ok hget
    rw [hstart, hid]
    rfl
  rw [hrun]
  apply congrFun
  apply congrArg
  unfold grantFor
  simp only [hload, hrequest, hscope, hgrant, failIf, if_neg hmatch, if_neg (not_not.mpr htext),
    if_neg htype, ok_bind]

theorem postAccessToken_of_uuid {token : Issuance × OAuth2AccessToken} {code : String}
    (h : Accepted s request w token) (hcode : request.parameters.get "code" = some code)
    (hform : uuidMatches code) : postAccessToken s request w = .ok token w := by
  rw [postAccessToken_of_accepted h, hcode]
  simp only [required, failIf, ok_bind, if_neg (not_not.mpr hform)]
  rfl

theorem postAccessToken_of_malformed {token : Issuance × OAuth2AccessToken} {code : String}
    (h : Accepted s request w token) (hcode : request.parameters.get "code" = some code)
    (hform : ¬uuidMatches code) : postAccessToken s request w =
      .error (invalidRequest "The code is not valid format .") w := by
  rw [postAccessToken_of_accepted h, hcode]
  simp only [required, failIf, ok_bind, if_pos hform]
  rfl

/-- The pattern is matched against null. -/
theorem postAccessToken_of_absent {token : Issuance × OAuth2AccessToken}
    (h : Accepted s request w token) (hcode : request.parameters.get "code" = none) :
    postAccessToken s request w = .error nullPointer w := by
  rw [postAccessToken_of_accepted h, hcode]
  rfl

/-- A request that a granter would accept is answered exactly if it carries a code in the form of a
UUID, though its grant type is another than that of the codes. -/
theorem answered_iff_uuid (s : Services) (request : Request) (w : World)
    (token : Issuance × OAuth2AccessToken)
    (_ : request.parameters.get "grant_type" ≠ some "authorization_code")
    (h : Accepted s request w token) :
    Answered s request w token ↔
      ∃ code, request.parameters.get "code" = some code ∧ uuidMatches code := by
  constructor
  · intro hanswered
    have hok := hanswered.token
    cases hcode : request.parameters.get "code" with
    | none =>
      rw [postAccessToken_of_absent h hcode] at hok
      cases hok
    | some code =>
      refine ⟨code, rfl, ?_⟩
      by_contra hform
      rw [postAccessToken_of_malformed h hcode hform] at hok
      cases hok
  · intro ⟨code, hcode, hform⟩
    have hok := postAccessToken_of_uuid h hcode hform
    refine ⟨hok, ?_⟩
    intro e w' herror
    rw [hok] at herror
    cases herror

/-- A refresh, with or without a code beside it. -/
def refreshing (code : Option String) : Request where
  parameters := [("grant_type", "refresh_token"), ("refresh_token", "r1")] ++
    (code.map fun code => ("code", code)).toList

/-- The token services know every refresh token. -/
def knowing : Services where
  clients := oneClient
  consumeAuthorizationCode _ := .error (invalidGrant "Invalid authorization code")
  tokenServices _ := .ok { value := "t1", expiration := some 43200000, scope := ["read"] }

def app : Authentication :=
  .user (.token ⟨.basic { username := some "app", authenticated := true }, none, [], true⟩)

/-- The filter has left the client in the session. -/
def verified : World where
  database := ⟨KeyedTable.empty, [], [], []⟩
  session := { id := "s1", currentAuthentication := some app }

def refreshed (code : Option String) : Issuance × OAuth2AccessToken :=
  (.refresh (some "r1") ⟨(refreshing code).parameters, some "app", [], some "refresh_token"⟩,
    { value := "t1", expiration := some 43200000, scope := ["read"] })

theorem accepted_refreshing (code : Option String) :
    Accepted knowing (refreshing code) verified (refreshed code) := by
  let client : ClientDetails :=
    { clientId := "app", clientSecret := some "s3cret", scope := ["read"]
      registeredRedirectUri := some ["https://app.example/cb"] }
  let tokenRequest : TokenRequest :=
    ⟨(refreshing code).parameters, some "app", ["read"], some "refresh_token"⟩
  refine ⟨app, "app", client, tokenRequest, rfl, rfl, rfl, ?_, fun h => h.2 rfl, rfl, rfl, ?_, ?_⟩
  · cases code with
    | none => rfl
    | some code => rfl
  · intro himplicit
    exact absurd (Option.some.inj himplicit) (by decide)
  · cases code with
    | none => rfl
    | some code => rfl

theorem answered_iff_uuid_refreshing :
    Answered knowing (refreshing (some "0f8fad5b-d9cb-469f-a165-70867728950e")) verified
        (refreshed (some "0f8fad5b-d9cb-469f-a165-70867728950e")) ↔
      ∃ code, (refreshing (some "0f8fad5b-d9cb-469f-a165-70867728950e")).parameters.get "code" =
        some code ∧ uuidMatches code :=
  answered_iff_uuid knowing _ verified _ (by decide) (accepted_refreshing _)

/-- A refresh without a code ends in a NullPointerException. -/
theorem refresh_without_code :
    ¬ ∀ (s : Services) (request : Request) (w : World) (token : Issuance × OAuth2AccessToken),
      request.parameters.get "grant_type" ≠ some "authorization_code" →
        Accepted s request w token → Answered s request w token := by
  intro h
  have hanswered := h knowing (refreshing none) verified (refreshed none) (by decide)
    (accepted_refreshing none)
  have hthrown : postAccessToken knowing (refreshing none) verified = .error nullPointer verified :=
    postAccessToken_of_absent (accepted_refreshing none) rfl
  exact absurd (hanswered.exceptions _ _ hthrown) (by decide)

end MaxKey.TokenEndpoint
