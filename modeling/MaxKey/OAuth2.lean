import MaxKey.Domain
import MaxKey.Effects
import MaxKey.JavaText
import Mathlib.Data.List.Dedup
import Mathlib.Data.List.Sort

namespace MaxKey.OAuth2
open JavaException Effects

/-- A registered client. The sets keep the order in which the code walks them. -/
structure ClientDetails where
  clientId : String
  clientSecret : Option String := none
  scope : List String := []
  resourceIds : List String := []
  authorizedGrantTypes : List String := ["authorization_code", "refresh_token"]
  registeredRedirectUri : Option (List String) := none
  authorities : List String := []
  autoApproveScopes : Option (List String) := none
  accessTokenValiditySeconds : Option Int := none
  refreshTokenValiditySeconds : Option Int := none

/-- The registry of clients: a lookup answers, or fails with an exception of the registry or
of the database. -/
structure ClientDetailsService where
  loadClientByClientId : Option String → Except JavaException ClientDetails
  no_authenticationException : ∀ id e, loadClientByClientId id = .error e →
    e.isAuthenticationException = false

/-- A refresh token; one with an expiration is an ExpiringOAuth2RefreshToken. -/
structure OAuth2RefreshToken where
  value : String
  expiration : Option ℕ := none
  deriving DecidableEq

structure OAuth2AccessToken where
  value : String
  expiration : Option ℕ := none
  refreshToken : Option OAuth2RefreshToken := none
  scope : List String := []
  deriving DecidableEq

namespace OAuth2Utils

/-- The set of texts between blanks and plus signs, in its natural order. -/
def parseParameterList : Option String → List String
  | none => []
  | some values =>
    if JavaText.trim values = "" then []
    else
      ((JavaText.splitAny (fun c => JavaText.isRegexSpace c || c = '+') values).insertionSort
        JavaText.textLe).dedup

end OAuth2Utils

open OAuth2Utils

/-- A single scope that holds a blank or a comma is parsed as a list. -/
def normalizeScope (scope : List String) : List String :=
  match scope with
  | [value] =>
    if JavaText.contains value " " || JavaText.contains value "," then parseParameterList (some value)
    else scope
  | _ => scope

theorem mem_parseParameterList {values scope : String}
    (h : scope ∈ parseParameterList (some values)) :
    ∀ c ∈ scope.toList, (JavaText.isRegexSpace c || decide (c = '+')) = false := by
  unfold parseParameterList at h
  dsimp only at h
  split_ifs at h with hempty
  · cases h
  · rw [List.mem_dedup, List.mem_insertionSort] at h
    exact JavaText.forall_not_of_mem_splitAny h

/-- A single scope without separators is parsed as itself. -/
theorem parseParameterList_of_forall_not {scope : String} (hcomma : JavaText.contains scope ",")
    (h : ∀ c ∈ scope.toList, (JavaText.isRegexSpace c || decide (c = '+')) = false) :
    parseParameterList (some scope) = [scope] := by
  have hmem : ',' ∈ scope.toList := by
    have hinside := (JavaText.contains_iff scope ",").mp hcomma
    exact hinside.subset List.mem_cons_self
  have htrim : JavaText.trim scope ≠ "" := by
    intro hempty
    exact absurd (JavaText.le_of_trim_eq_empty hempty ',' hmem) (by decide)
  unfold parseParameterList
  dsimp only
  rw [if_neg htrim, JavaText.splitAny_of_forall_not h]
  rfl

/-- What comes out of a parameter is parsed no further. -/
theorem normalizeScope_parseParameterList (values : Option String) :
    normalizeScope (parseParameterList values) = parseParameterList values := by
  cases values with
  | none => rfl
  | some values =>
    match hscopes : parseParameterList (some values) with
    | [] => rfl
    | _ :: _ :: _ => rfl
    | [value] =>
      have hchars := mem_parseParameterList (hscopes ▸ List.mem_cons_self)
      unfold normalizeScope
      dsimp only
      split_ifs with hlist
      · rcases (Bool.or_eq_true _ _).mp hlist with hblank | hcomma
        · have hinside := (JavaText.contains_iff value " ").mp hblank
          exact absurd (hchars ' ' (hinside.subset List.mem_cons_self)) (by decide)
        · exact parseParameterList_of_forall_not hcomma hchars
      · rfl

/-- A scope set that has been through a request's constructor stays as it is in the next one. -/
theorem normalizeScope_normalizeScope (scope : List String) :
    normalizeScope (normalizeScope scope) = normalizeScope scope := by
  match scope with
  | [] => rfl
  | _ :: _ :: _ => rfl
  | [value] =>
    have hcases : normalizeScope [value] = [value] ∨
        normalizeScope [value] = parseParameterList (some value) := by
      unfold normalizeScope
      dsimp only
      split_ifs
      · exact .inr rfl
      · exact .inl rfl
    rcases hcases with hsame | hparsed
    · rw [hsame, hsame]
    · rw [hparsed, normalizeScope_parseParameterList]

/-- In what order a set is walked does not matter to it. -/
theorem normalizeScope_of_perm {scope scope' : List String} (hperm : scope'.Perm scope)
    (h : normalizeScope scope = scope) : normalizeScope scope' = scope' := by
  match scope' with
  | [] => rfl
  | _ :: _ :: _ => rfl
  | [value] =>
    have hsame : scope = [value] := List.perm_singleton.mp hperm.symm
    rw [← hsame, h]

theorem mem_normalizeScope_of_perm {scope scope' : List String} (hperm : scope'.Perm scope)
    (x : String) : x ∈ normalizeScope scope' ↔ x ∈ normalizeScope scope := by
  match scope, scope' with
  | [], scope' => rw [List.perm_nil.mp hperm]
  | [value], scope' => rw [List.perm_singleton.mp hperm]
  | scope, [] => rw [List.nil_perm.mp hperm]
  | scope, [value] => rw [List.singleton_perm.mp hperm]
  | _ :: _ :: _, _ :: _ :: _ => exact hperm.mem_iff

/-- A set that a request takes for one that holds all its scopes is taken as it is. -/
theorem mem_of_mem_normalizeScope {scope : List String} (h : ∀ x ∈ scope, x ∈ normalizeScope scope)
    {x : String} (hx : x ∈ normalizeScope scope) : x ∈ scope := by
  match scope with
  | [] => exact hx
  | _ :: _ :: _ => exact hx
  | [value] =>
    have hvalue := h value List.mem_cons_self
    unfold normalizeScope at hvalue hx
    dsimp only at hvalue hx
    split_ifs at hvalue hx with hlist
    · have hchars := mem_parseParameterList hvalue
      rcases (Bool.or_eq_true _ _).mp hlist with hblank | hcomma
      · have hinside := (JavaText.contains_iff value " ").mp hblank
        exact absurd (hchars ' ' (hinside.subset List.mem_cons_self)) (by decide)
      · rwa [parseParameterList_of_forall_not hcomma hchars] at hx
    · exact hx

structure AuthorizationRequest where
  requestParameters : Parameters
  approvalParameters : Parameters := []
  clientId : Option String
  scope : List String
  resourceIds : List String := []
  authorities : List String := []
  approved : Bool := false
  state : Option String
  redirectUri : Option String
  responseTypes : List String
  deriving DecidableEq

def AuthorizationRequest.setScope (request : AuthorizationRequest) (scope : List String) :
    AuthorizationRequest := { request with scope := normalizeScope scope }

def AuthorizationRequest.createOAuth2Request (request : AuthorizationRequest) : OAuth2Request :=
  { requestParameters := request.requestParameters, clientId := request.clientId
    authorities := request.authorities, approved := request.approved
    scope := normalizeScope request.scope, resourceIds := request.resourceIds
    redirectUri := request.redirectUri, responseTypes := request.responseTypes }

/-- The request of a token without a user; the secrets are dropped from its parameters. -/
def createOAuth2Request (client : ClientDetails) (request : TokenRequest) : OAuth2Request :=
  let parameters := (request.requestParameters.remove "password").remove "client_secret"
  { requestParameters := parameters.put "grant_type" (request.grantType.getD "")
    clientId := some client.clientId, authorities := client.authorities, approved := true
    scope := normalizeScope request.scope, resourceIds := client.resourceIds }

namespace RequestFactory

variable (clients : ClientDetailsService)

/-- Without a requested scope the client's registered scopes are taken. -/
def extractScopes (parameters : Parameters) (clientId : Option String) :
    Except JavaException (List String) := do
  let scopes := parseParameterList (parameters.get "scope")
  let client ← clients.loadClientByClientId clientId
  return if scopes = [] then client.scope else scopes

def createAuthorizationRequest (parameters : Parameters) :
    Except JavaException AuthorizationRequest := do
  let clientId := parameters.get "client_id"
  let scopes ← extractScopes clients parameters clientId
  let client ← clients.loadClientByClientId clientId
  return {
    requestParameters := parameters, clientId := clientId, scope := normalizeScope scopes
    resourceIds := client.resourceIds, authorities := client.authorities
    state := parameters.get "state", redirectUri := parameters.get "redirect_uri"
    responseTypes := parseParameterList (parameters.get "response_type") }

/-- The client that a token request names must be the authenticated one. -/
def requestedClient (parameters : Parameters) (authenticatedClient : ClientDetails) :
    Except JavaException String :=
  match parameters.get "client_id" with
  | none => .ok authenticatedClient.clientId
  | some clientId =>
    if clientId = authenticatedClient.clientId then .ok clientId
    else .error (invalidClient "Given client ID does not match authenticated client")

def createTokenRequest (parameters : Parameters) (authenticatedClient : ClientDetails) :
    Except JavaException TokenRequest := do
  let clientId ← requestedClient parameters authenticatedClient
  let scopes ← extractScopes clients parameters (some clientId)
  return {
    requestParameters := parameters, clientId := some clientId, scope := normalizeScope scopes
    grantType := parameters.get "grant_type" }

variable {clients}

theorem extractScopes_eq_ok {parameters : Parameters} {clientId : Option String}
    {scopes : List String} (h : extractScopes clients parameters clientId = .ok scopes) :
    ∃ client, clients.loadClientByClientId clientId = .ok client ∧
      scopes = if parseParameterList (parameters.get "scope") = [] then client.scope
        else parseParameterList (parameters.get "scope") := by
  obtain ⟨client, hload, hreturn⟩ := except_bind_eq_ok.mp h
  exact ⟨client, hload, (Except.ok.inj hreturn).symm⟩

theorem extractScopes_error {parameters : Parameters} {clientId : Option String}
    {e : JavaException} (h : extractScopes clients parameters clientId = .error e) :
    clients.loadClientByClientId clientId = .error e := by
  rcases except_bind_eq_error.mp h with hload | ⟨client, -, hreturn⟩
  · exact hload
  · cases hreturn

/-- Only the registry can fail, so no exception of an authentication comes out. -/
theorem createAuthorizationRequest_error {parameters : Parameters} {e : JavaException}
    (h : createAuthorizationRequest clients parameters = .error e) :
    e.isAuthenticationException = false := by
  refine clients.no_authenticationException (parameters.get "client_id") e ?_
  rcases except_bind_eq_error.mp h with hscopes | ⟨scopes, -, h⟩
  · exact extractScopes_error hscopes
  rcases except_bind_eq_error.mp h with hload | ⟨client, -, hreturn⟩
  · exact hload
  · cases hreturn

theorem requestedClient_eq_ok {parameters : Parameters} {client : ClientDetails}
    {clientId : String} (h : requestedClient parameters client = .ok clientId) :
    clientId = client.clientId := by
  unfold requestedClient at h
  split at h
  · exact (Except.ok.inj h).symm
  · split_ifs at h with hsame
    exact (Except.ok.inj h).symm.trans hsame

/-- A token request is made in the name of the authenticated client. -/
theorem createTokenRequest_eq_ok {parameters : Parameters} {client : ClientDetails}
    {request : TokenRequest} (h : createTokenRequest clients parameters client = .ok request) :
    request.clientId = some client.clientId ∧ request.grantType = parameters.get "grant_type" := by
  obtain ⟨clientId, hclient, h⟩ := except_bind_eq_ok.mp h
  obtain ⟨scopes, -, hreturn⟩ := except_bind_eq_ok.mp h
  have hrequest := Except.ok.inj hreturn
  rw [← hrequest, requestedClient_eq_ok hclient]
  exact ⟨rfl, rfl⟩

theorem createTokenRequest_scope {parameters : Parameters} {client : ClientDetails}
    {request : TokenRequest} (h : createTokenRequest clients parameters client = .ok request) :
    request.requestParameters = parameters ∧
      ∃ (registered : ClientDetails) (scopes : List String),
        request.scope = normalizeScope scopes ∧
          scopes = if parseParameterList (parameters.get "scope") = [] then registered.scope
            else parseParameterList (parameters.get "scope") := by
  obtain ⟨clientId, -, h⟩ := except_bind_eq_ok.mp h
  obtain ⟨scopes, hextract, hreturn⟩ := except_bind_eq_ok.mp h
  obtain ⟨registered, -, hscopes⟩ := extractScopes_eq_ok hextract
  have hrequest := Except.ok.inj hreturn
  rw [← hrequest]
  exact ⟨rfl, registered, scopes, rfl, hscopes⟩

end RequestFactory

/-- The first requested scope that the client lacks is named. -/
def validateScope (requestScopes clientScopes : List String) : Except JavaException Unit :=
  match requestScopes.find? (fun scope => clientScopes ≠ [] ∧ scope ∉ clientScopes) with
  | some scope => .error (invalidScope ("Invalid scope: " ++ scope))
  | none =>
    if requestScopes = [] then
      .error (invalidScope
        "Empty scope (either the client or the user is not allowed the requested scopes)")
    else .ok ()

theorem validateScope_eq_ok {requestScopes clientScopes : List String} {u : Unit}
    (h : validateScope requestScopes clientScopes = .ok u) :
    requestScopes ≠ [] ∧ (clientScopes ≠ [] → requestScopes ⊆ clientScopes) := by
  unfold validateScope at h
  split at h
  · cases h
  · rename_i hfind
    split_ifs at h with hempty
    refine ⟨hempty, fun hclient scope hscope => ?_⟩
    have hvalid := List.find?_eq_none.mp hfind scope hscope
    by_contra hforeign
    exact hvalid (decide_eq_true ⟨hclient, hforeign⟩)

end MaxKey.OAuth2
