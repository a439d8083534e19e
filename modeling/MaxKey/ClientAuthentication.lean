import MaxKey.OAuth2
import MaxKey.Realm

namespace MaxKey.ClientAuthentication
open OAuth2 JavaException Effects WebContext Realm

/-- ClientDetailsUserDetailsService: a client as a user, its secret decoded. -/
def loadUserByUsername (clients : ClientDetailsService)
    (decoder : String → Except JavaException String) (username : String) :
    Except JavaException User :=
  match clients.loadClientByClientId (some username) with
  | .error (.noSuchClient message) => .error (usernameNotFound message)
  | .error e => .error e
  | .ok clientDetails => do
    let clientSecret := clientDetails.clientSecret.getD ""
    let clientSecret ← if JavaText.trim clientSecret = "" then .ok "" else decoder clientSecret
    if h : username ≠ "" then .ok ⟨username, some clientSecret, clientDetails.authorities, h⟩
    else .error (illegalArgument "Cannot pass null or empty values to constructor")

/-- The client of this name, when the secret is the one it has. -/
def accepted (load : String → Except JavaException User) (name secret : Option String) :
    Option User :=
  match load (name.getD "NONE_PROVIDED") with
  | .ok details => if secret.isSome ∧ secret = details.password then some details else none
  | .error _ => none

/-- The library's ProviderManager over a DaoAuthenticationProvider without password encoding:
it accepts a user with the stored password, whose name its principal keeps, and answers
everything else with an AuthenticationException. -/
structure AuthenticationManager (load : String → Except JavaException User) where
  authenticate : Option String → Option String →
    Except JavaException UsernamePasswordAuthenticationToken
  accepts : ∀ name secret details, accepted load name secret = some details →
    ∃ token user, authenticate name secret = .ok token ∧ token.principal = .user user ∧
      user.username = details.username
  rejects : ∀ name secret, accepted load name secret = none →
    ∃ e, authenticate name secret = .error e ∧ e.isAuthenticationException

structure Config where
  clients : ClientDetailsService
  decoder : String → Except JavaException String
  authenticationManager : AuthenticationManager (loadUserByUsername clients decoder)

/-- A request to the token endpoint, with the authentication of its security context. -/
structure Request where
  parameters : Parameters
  securityContext : Option Authentication := none

def isPassword (request : Request) : Bool := request.parameters.get "grant_type" = some "password"

/-- The name and the secret that the filter has verified for this request, if any. -/
def presented (request : Request) : Option (Option String × Option String) :=
  if isPassword request then
    some (request.parameters.get "username", request.parameters.get "password")
  else if request.securityContext.any Authentication.isAuthenticated then none
  else
    (request.parameters.get "client_id").map fun clientId =>
      (some (JavaText.trim clientId), some ((request.parameters.get "client_secret").getD ""))

variable (c : Config)

def clientCredentials (request : Request) : Except JavaException Authentication :=
  let verified : Except JavaException Authentication :=
    match request.parameters.get "client_id" with
    | none => .error (badCredentials "No client credentials presented")
    | some clientId => do
      let clientSecret := (request.parameters.get "client_secret").getD ""
      let token ← c.authenticationManager.authenticate (some (JavaText.trim clientId))
        (some clientSecret)
      return .user (.token token)
  match request.securityContext with
  | some authentication => if authentication.isAuthenticated then .ok authentication else verified
  | none => verified

/-- The cast of a principal to Spring's User. -/
def userOf : Principal → Except JavaException User
  | .user details => .ok details
  | .name none => .error nullPointer
  | _ => .error classCast

theorem userOf_eq_ok {principal : Principal} {user : User} (h : userOf principal = .ok user) :
    principal = .user user := by
  cases principal with
  | user details => exact congrArg Principal.user (Except.ok.inj h)
  | name value => cases value <;> cases h
  | basic authentication => cases h

/-- What a verified client leaves in the session: its id in the place of a user name. -/
def clientToken (user : User) (authentication : Authentication) : Authentication :=
  .user (.token
    { principal := .basic { username := some user.username, authenticated := true }
      credentials := authentication.getCredentials
      authorities := authentication.getAuthorities.getD [], authenticated := true })

/-- The branch of every grant type but password. -/
def authenticateClient (request : Request) : Web Unit := do
  let authentication ← orError (clientCredentials c request)
  let user ← orError (userOf authentication.getPrincipal)
  setAuthentication (clientToken user authentication)

def noClientAuthentication : JavaException :=
  badCredentials
    "No client authentication found. Remember to put a filter upstream of the TokenEndpointAuthenticationFilter."

/-- The request that stands beside the user: the scope of the parameters, and approved when
the client is authenticated. -/
def storedOAuth2Request (request : Request) (clientAuth : Authentication)
    (authorizationRequest : AuthorizationRequest) : OAuth2Request :=
  let scope := OAuth2Utils.parseParameterList (request.parameters.get "scope")
  let authorizationRequest := authorizationRequest.setScope scope
  if clientAuth.isAuthenticated then { authorizationRequest with approved := true }.createOAuth2Request
  else authorizationRequest.createOAuth2Request

/-- The body of usernamepassword, before its catch. -/
def authenticateUser (request : Request) : Web Unit := do
  let authResult ← orError (c.authenticationManager.authenticate
    (request.parameters.get "username") (request.parameters.get "password"))
  match request.securityContext with
  | none => throw noClientAuthentication
  | some clientAuth =>
    let map := request.parameters.put "client_id" clientAuth.getName
    let authorizationRequest ← orError (RequestFactory.createAuthorizationRequest c.clients map)
    setAuthentication
      (.oauth2 ⟨storedOAuth2Request request clientAuth authorizationRequest,
        some (.token authResult)⟩)

/-- A failed authentication is swallowed here. -/
def usernamepassword (request : Request) : Web Unit :=
  tryCatch (authenticateUser c request) fun failed =>
    if failed.isAuthenticationException then pure () else throw failed

def authenticate (request : Request) : Web Unit :=
  if isPassword request then usernamepassword c request else authenticateClient c request

/-- Whether the request goes on to the endpoint. -/
def doFilter (request : Request) : Web Bool :=
  tryCatch (do authenticate c request; return true) fun failed =>
    if failed.isAuthenticationException then return false else throw failed

/-- The filter's attempt to authenticate the request, before any catch. -/
def attempt (request : Request) : Web Unit :=
  if isPassword request then authenticateUser c request else authenticateClient c request

/-- The filter verified the secret of this client for this very request. -/
def Verified (request : Request) (clientId : String) : Prop :=
  ∃ name secret details, presented request = some (name, secret) ∧
    accepted (loadUserByUsername c.clients c.decoder) name secret = some details ∧
    details.username = clientId

theorem doFilter_of_ok {request : Request} {w w' : World}
    (h : authenticate c request w = .ok () w') : doFilter c request w = .ok true w' :=
  tryCatch_of_ok (bind_of_ok h)

theorem doFilter_of_error {request : Request} {w w' : World} {e : JavaException}
    (h : authenticate c request w = .error e w') :
    doFilter c request w = if e.isAuthenticationException then .ok false w' else .error e w' := by
  have hcatch := tryCatch_of_error (h := fun failed : JavaException =>
    if failed.isAuthenticationException then return false else throw failed)
    (bind_of_error (f := fun _ => (pure true : Web Bool)) h)
  refine hcatch.trans ?_
  exact apply_ite (fun x : Web Bool => x w') _ _ _

/-- In the password branch the request goes on even though its authentication failed. -/
theorem doFilter_password {request : Request} (h : isPassword request) (w : World) :
    doFilter c request w = match authenticateUser c request w with
      | .ok _ w' => .ok true w'
      | .error e w' => if e.isAuthenticationException then .ok true w' else .error e w' := by
  have hbranch : authenticate c request = usernamepassword c request := if_pos h
  cases huser : authenticateUser c request w with
  | ok u w' =>
    have hrun : authenticate c request w = .ok () w' := by
      rw [hbranch]
      exact tryCatch_of_ok huser
    exact doFilter_of_ok c hrun
  | error e w' =>
    have hrun : authenticate c request w =
        (if e.isAuthenticationException then pure () else throw e : Web Unit) w' := by
      rw [hbranch]
      exact tryCatch_of_error huser
    by_cases he : e.isAuthenticationException = true
    · simp only [if_pos he] at hrun ⊢
      exact doFilter_of_ok c hrun
    · simp only [if_neg he] at hrun ⊢
      exact (doFilter_of_error c hrun).trans (if_neg he)

/-- In the other branch a failed authentication ends the request. -/
theorem doFilter_client {request : Request} (h : ¬isPassword request) (w : World) :
    doFilter c request w = match authenticateClient c request w with
      | .ok _ w' => .ok true w'
      | .error e w' => if e.isAuthenticationException then .ok false w' else .error e w' := by
  have hbranch : authenticate c request = authenticateClient c request := if_neg h
  cases hclient : authenticateClient c request w with
  | ok u w' => exact doFilter_of_ok c (hbranch ▸ hclient)
  | error e w' => exact doFilter_of_error c (hbranch ▸ hclient)

/-- The security context holds a client that somebody else authenticated. -/
def Trusted (request : Request) : Prop :=
  ∃ authentication ∈ request.securityContext, authentication.isAuthenticated ∧
    ∃ details, authentication.getPrincipal = .user details

/-- Nobody else authenticated the request, so its credentials are the presented ones. -/
theorem clientCredentials_of_presented {request : Request} (h : ¬isPassword request)
    (hcontext : ¬request.securityContext.any Authentication.isAuthenticated) :
    clientCredentials c request = match presented request with
      | none => .error (badCredentials "No client credentials presented")
      | some (name, secret) =>
        (c.authenticationManager.authenticate name secret).map fun token => .user (.token token) := by
  have hverified : clientCredentials c request = match request.parameters.get "client_id" with
      | none => .error (badCredentials "No client credentials presented")
      | some clientId => (c.authenticationManager.authenticate (some (JavaText.trim clientId))
          (some ((request.parameters.get "client_secret").getD ""))).map
            fun token => .user (.token token) := by
    unfold clientCredentials
    cases hsecurity : request.securityContext with
    | none => rfl
    | some authentication =>
      have hnot : ¬authentication.isAuthenticated := by simpa [hsecurity] using hcontext
      exact if_neg hnot
  rw [hverified, presented, if_neg h, if_neg hcontext]
  cases request.parameters.get "client_id" <;> rfl

theorem authenticateClient_of_ok {request : Request} {authentication : Authentication} {user : User}
    (h : clientCredentials c request = .ok authentication)
    (hprincipal : authentication.getPrincipal = .user user) (w : World) :
    authenticateClient c request w = setAuthentication (clientToken user authentication) w := by
  rw [authenticateClient, h]
  refine (bind_of_ok (a := authentication) (t := w) rfl).trans ?_
  rw [hprincipal]
  exact bind_of_ok (a := user) (t := w) rfl

/-- Outside the password branch the filter verifies the presented secret, unless the security
context is authenticated; the verified client then stands in the session. -/
theorem authenticateClient_cases {request : Request} (h : ¬isPassword request) (w : World) :
    (Trusted request ∧ ∃ w', authenticateClient c request w = .ok () w') ∨
    (¬Trusted request ∧ ∃ e, authenticateClient c request w = .error e w) ∨
    (¬Trusted request ∧ ∃ user authentication, Verified c request user.username ∧
      authenticateClient c request w =
        setAuthentication (clientToken user authentication) w) := by
  -- an authentication that is there already is taken, whatever the request presents
  by_cases hcontext : request.securityContext.any Authentication.isAuthenticated = true
  · obtain ⟨authentication, hsecurity, hauth⟩ := (Option.any_eq_true _ _).mp hcontext
    have hcredentials : clientCredentials c request = .ok authentication := by
      unfold clientCredentials
      rw [hsecurity]
      exact if_pos hauth
    cases huser : userOf authentication.getPrincipal with
    | ok user =>
      have hprincipal := userOf_eq_ok huser
      refine .inl ⟨⟨authentication, hsecurity, hauth, user, hprincipal⟩, ?_⟩
      exact ⟨_, authenticateClient_of_ok c hcredentials hprincipal w⟩
    | error e =>
      refine .inr (.inl ⟨?_, e, ?_⟩)
      · rintro ⟨authentication', hsecurity', -, details, hprincipal⟩
        have hsame := Option.some.inj (hsecurity.symm.trans hsecurity')
        rw [hsame, hprincipal] at huser
        cases huser
      · rw [authenticateClient, hcredentials]
        refine (bind_of_ok (a := authentication) (t := w) rfl).trans ?_
        rw [huser]
        rfl
  · have htrusted : ¬Trusted request := by
      rintro ⟨authentication, hsecurity, hauth, -⟩
      exact hcontext ((Option.any_eq_true _ _).mpr ⟨authentication, hsecurity, hauth⟩)
    have hcredentials := clientCredentials_of_presented c h hcontext
    cases hpresented : presented request with
    | none =>
      rw [hpresented] at hcredentials
      refine .inr (.inl ⟨htrusted, badCredentials "No client credentials presented", ?_⟩)
      rw [authenticateClient, hcredentials]
      rfl
    | some credentials =>
      obtain ⟨name, secret⟩ := credentials
      rw [hpresented] at hcredentials
      cases haccepted : accepted (loadUserByUsername c.clients c.decoder) name secret with
      | none =>
        obtain ⟨e, hreject, -⟩ := c.authenticationManager.rejects name secret haccepted
        refine .inr (.inl ⟨htrusted, e, ?_⟩)
        rw [authenticateClient, hcredentials]
        simp only [hreject]
        rfl
      | some details =>
        obtain ⟨token, user, haccept, hprincipal, hname⟩ :=
          c.authenticationManager.accepts name secret details haccepted
        simp only [haccept] at hcredentials
        refine .inr (.inr ⟨htrusted, user, .user (.token token), ?_, ?_⟩)
        · exact ⟨name, secret, details, hpresented, haccepted, hname.symm⟩
        · exact authenticateClient_of_ok c hcredentials hprincipal w

end MaxKey.ClientAuthentication
