import MaxKey.AccessTokenConverter
import MaxKey.ApprovalStore
import MaxKey.JwtHelper
import MaxKey.TokenRuns

namespace MaxKey.OAuth2
open JavaException Effects

/-- The interface of the approval stores, over the state of an implementation. -/
structure ApprovalStore (σ : Type) where
  getApprovals : String → String → σ → Except JavaException (List Approval)
  revokeApprovals : List Approval → EStateM JavaException σ Unit

def Approval.isApproved (approval : Approval) (now : ℕ) : Bool :=
  now < approval.expiresAt && approval.status = .approved

def ExtractedAuthentication.requestParameters (a : ExtractedAuthentication) : Parameters :=
  a.grantType.elim [] (fun grantType => [("grant_type", grantType)]) ++
    a.clientId.elim [] fun clientId => [("client_id", clientId)]

/-- The authentication of the extracted parts. Of an element of a set that is no text it has what
the element prints as, of a principal the name. -/
def ExtractedAuthentication.toOAuth2Authentication (a : ExtractedAuthentication) :
    OAuth2Authentication where
  oAuth2Request := {
    requestParameters := a.requestParameters, clientId := a.clientId, authorities := a.authorities
    approved := true, scope := a.scope.map Element.valueOf
    resourceIds := a.resourceIds.map Element.valueOf }
  userAuthentication := a.userAuthentication.map fun user => .token {
    principal := .name (some user.name), credentials := some "N/A"
    authorities := user.authorities, authenticated := true }

/-- The mapper of the claims, and what signs and verifies them. -/
structure JwtAccessTokenConverter where
  tokenConverter : DefaultAccessTokenConverter := {}
  formatMap : Claims → Except JavaException String
  parseMap : String → Except JavaException Claims
  json : JsonFactory
  signer : Signer
  verifier : SignatureVerifier

namespace JwtAccessTokenConverter

variable (converter : JwtAccessTokenConverter)

/-- The token of some claims. -/
def encodeClaims (claims : Claims) : Except JavaException String :=
  match converter.formatMap claims with
  | .error _ => .error (illegalState "Cannot convert access token to JSON")
  | .ok content => JwtHelper.encode converter.json content converter.signer >>= Jwt.getEncoded

def encode (accessToken : DefaultOAuth2AccessToken Claim) (authentication : OAuth2Authentication) :
    Except JavaException String :=
  converter.encodeClaims (converter.tokenConverter.convertAccessToken accessToken authentication)

/-- The claims of a token that is verified. An expiration may come as an Integer, which is the same
number. -/
def readClaims (token : Option String) : Except JavaException Claims := do
  let token ← token.elim (.error nullPointer) .ok
  let jwt ← JwtHelper.decodeAndVerify converter.json token converter.verifier
  let content ← jwt.getClaims
  converter.parseMap content

def decode (token : Option String) : Except JavaException Claims :=
  match converter.readClaims token with
  | .ok claims => .ok claims
  | .error _ => .error (invalidToken "Cannot convert access token to JSON")

def tokenId (value : Option String) : Claim := value.elim .null .text

/-- The token with its value as its id, unless it has one. -/
def withTokenId (accessToken : DefaultOAuth2AccessToken Claim) : DefaultOAuth2AccessToken Claim :=
  let info : Claims := accessToken.additionalInformation
  { accessToken with
    additionalInformation :=
      if info.get "jti" = none then info.put "jti" (tokenId accessToken.value) else info }

/-- A copy of the access token that is encoded for the refresh token. -/
def encodedRefreshToken (accessToken : DefaultOAuth2AccessToken Claim) (value : Option String) :
    DefaultOAuth2AccessToken Claim :=
  { accessToken with
    value := value
    additionalInformation :=
      Claims.put accessToken.additionalInformation "jti" (tokenId value) }

def enhanceRefreshToken (accessToken : DefaultOAuth2AccessToken Claim)
    (authentication : OAuth2Authentication) (refreshToken : DefaultOAuth2RefreshToken) :
    Except JavaException DefaultOAuth2RefreshToken := do
  let encoded := encodedRefreshToken accessToken refreshToken.value
  let token ← converter.encode encoded authentication
  match refreshToken.expiration with
  | none => return { value := some token }
  | some expiration => do
    let token ← converter.encode { encoded with expiration := expiration } authentication
    return { value := some token, expiration := some expiration }

def enhance (accessToken : DefaultOAuth2AccessToken Claim)
    (authentication : OAuth2Authentication) :
    Except JavaException (DefaultOAuth2AccessToken Claim) := do
  let result := withTokenId accessToken
  let value ← converter.encode result authentication
  let refreshToken ← accessToken.refreshToken.mapM
    (converter.enhanceRefreshToken accessToken authentication)
  return { result with value := some value, refreshToken := refreshToken }

end JwtAccessTokenConverter

structure JwtTokenStore (σ : Type) where
  jwtTokenEnhancer : JwtAccessTokenConverter
  approvalStore : Option (ApprovalStore σ) := none

def OAuth2RefreshToken.toDefault (refreshToken : OAuth2RefreshToken) :
    DefaultOAuth2RefreshToken where
  value := some refreshToken.value
  expiration := refreshToken.expiration.map fun e => some (e : ℤ)

/-- An expiring token without an expiration is expired. -/
def DefaultOAuth2RefreshToken.isExpired (refreshToken : DefaultOAuth2RefreshToken) (now : ℕ) :
    Bool :=
  match refreshToken.expiration with
  | none => false
  | some expiration => expiration.all (· < (now : ℤ))

def ExtractedAccessToken.isExpired (token : ExtractedAccessToken) (now : ℕ) : Bool :=
  token.expiration.any (· < (now : ℤ))

namespace JwtTokenStore
open DefaultTokenServices DefaultAccessTokenConverter

variable {σ : Type} (store : JwtTokenStore σ)

/-! ### The store -/

def readAuthentication (token : Option String) : Except JavaException OAuth2Authentication := do
  let claims ← store.jwtTokenEnhancer.decode token
  let found ← store.jwtTokenEnhancer.tokenConverter.extractAuthentication claims
  return found.toOAuth2Authentication

def readAccessToken (tokenValue : String) : Except JavaException ExtractedAccessToken := do
  let claims ← store.jwtTokenEnhancer.decode (some tokenValue)
  extractAccessToken tokenValue claims

/-- The approvals of a user for the scopes of a token. -/
def approvalsOf (now : ℕ) (auth : OAuth2Authentication) (user : UserAuthentication) :
    List Approval :=
  auth.oAuth2Request.scope.map fun scope => {
    userId := user.getName, clientId := auth.oAuth2Request.clientId.getD "", scope := scope
    expiresAt := now, status := .approved }

def remove (now : ℕ) (token : Option String) : EStateM JavaException σ Unit :=
  match store.approvalStore with
  | none => pure ()
  | some approvalStore => do
    let auth ← orError (store.readAuthentication token)
    match auth.userAuthentication with
    | none => pure ()
    | some user => approvalStore.revokeApprovals (approvalsOf now auth user)

def removeAccessToken (now : ℕ) (token : ExtractedAccessToken) : EStateM JavaException σ Unit :=
  store.remove now (some token.value)

def removeRefreshToken (now : ℕ) (token : DefaultOAuth2RefreshToken) :
    EStateM JavaException σ Unit :=
  store.remove now token.value

def removeAccessTokenUsingRefreshToken (now : ℕ) (refreshToken : DefaultOAuth2RefreshToken) :
    EStateM JavaException σ Unit :=
  store.removeRefreshToken now refreshToken

/-- The user has approved all scopes of the token, as far as there are a store and a user. -/
def allApproved (now : ℕ) (tokenValue : String) (s : σ) : Except JavaException Bool :=
  match store.approvalStore with
  | none => .ok true
  | some approvalStore => do
    let authentication ← store.readAuthentication (some tokenValue)
    match authentication.userAuthentication with
    | none => return true
    | some user => do
      let request := authentication.oAuth2Request
      let approvals ← approvalStore.getApprovals user.getName (request.clientId.getD "") s
      let approvedScopes := (approvals.filter (·.isApproved now)).map Approval.scope
      return request.scope.all (approvedScopes.contains ·)

/-- Whatever the token is, it is read as an expiring refresh token. -/
def readRefreshToken (now : ℕ) (tokenValue : String) (s : σ) :
    Except JavaException (Option DefaultOAuth2RefreshToken) := do
  let encodedRefreshToken ← store.readAccessToken tokenValue
  let approved ← store.allApproved now tokenValue s
  return if approved then some {
    value := some encodedRefreshToken.value, expiration := some encodedRefreshToken.expiration }
  else none

def readAuthenticationForRefreshToken (token : DefaultOAuth2RefreshToken) :
    Except JavaException OAuth2Authentication :=
  store.readAuthentication token.value

/-! ### The services over it, with the converter as the enhancer -/

variable (services : DefaultTokenServices)

def createRefreshToken (m : Moment) (request : OAuth2Request) :
    Except JavaException (Option DefaultOAuth2RefreshToken) :=
  (services.createRefreshToken m request).map (·.map OAuth2RefreshToken.toDefault)

/-- A token with its own refresh token, before it is enhanced. -/
def bareToken (m : Moment) (request : OAuth2Request)
    (refreshToken : Option DefaultOAuth2RefreshToken) :
    Except JavaException (DefaultOAuth2AccessToken Claim) := do
  let validitySeconds ← services.getAccessTokenValiditySeconds request
  return {
    value := some m.accessTokenValue
    expiration := (expiration m.now validitySeconds).map fun e => (e : ℤ)
    refreshToken := refreshToken, scope := some request.scope }

def newAccessToken (m : Moment) (authentication : OAuth2Authentication)
    (refreshToken : Option DefaultOAuth2RefreshToken) :
    Except JavaException (DefaultOAuth2AccessToken Claim) := do
  let token ← bareToken services m authentication.oAuth2Request refreshToken
  store.jwtTokenEnhancer.enhance token authentication

/-- The store has no token of an authentication, and keeps none. -/
def createAccessToken (m : Moment) (authentication : OAuth2Authentication) :
    Except JavaException (DefaultOAuth2AccessToken Claim) := do
  let refreshToken ← createRefreshToken services m authentication.oAuth2Request
  store.newAccessToken services m authentication refreshToken

def dropExpired (now : ℕ) (refreshToken : DefaultOAuth2RefreshToken) :
    EStateM JavaException σ Unit :=
  onlyIf (refreshToken.isExpired now) (do
    store.removeRefreshToken now refreshToken
    throw (invalidToken
      ("Invalid refresh token (expired): " ++ refreshToken.value.getD "null")))

/-- The refresh token and its authentication, once they are checked against the request. -/
def readForRefresh (now : ℕ) (refreshTokenValue : String) (request : TokenRequest) (s : σ) :
    Except JavaException (DefaultOAuth2RefreshToken × OAuth2Authentication) := do
  let invalid := invalidGrant ("Invalid refresh token: " ++ refreshTokenValue)
  failIf (services.supportRefreshToken = false) invalid
  let found ← store.readRefreshToken now refreshTokenValue s
  let refreshToken ← found.elim (.error invalid) .ok
  let stored ← store.readAuthenticationForRefreshToken refreshToken
  let authentication ← services.reauthenticated stored
  let clientId := authentication.oAuth2Request.clientId
  failIf (clientId = none ∨ clientId ≠ request.clientId)
    (invalidGrant ("Wrong client for this refresh token: " ++ refreshTokenValue))
  return (refreshToken, authentication)

def rotate (m : Moment) (request : OAuth2Request) (refreshToken : DefaultOAuth2RefreshToken) :
    EStateM JavaException σ (Option DefaultOAuth2RefreshToken) :=
  if services.reuseRefreshToken then return some refreshToken
  else do
    store.removeRefreshToken m.now refreshToken
    orError (createRefreshToken services m request)

def refreshAccessToken (m : Moment) (refreshTokenValue : String) (request : TokenRequest) :
    EStateM JavaException σ (DefaultOAuth2AccessToken Claim) := do
  let s ← get
  let found ← orError (store.readForRefresh services m.now refreshTokenValue request s)
  store.removeAccessTokenUsingRefreshToken m.now found.1
  store.dropExpired m.now found.1
  let authentication ← orError (createRefreshedAuthentication found.2 request)
  let refreshToken ← store.rotate services m authentication.oAuth2Request found.1
  orError (store.newAccessToken services m authentication refreshToken)

def dropExpiredAccess (now : ℕ) (accessToken : ExtractedAccessToken) :
    EStateM JavaException σ Unit :=
  onlyIf (accessToken.isExpired now) (do
    store.removeAccessToken now accessToken
    throw (invalidToken ("Access token expired: " ++ accessToken.value)))

def loadAuthentication (now : ℕ) (accessTokenValue : String) :
    EStateM JavaException σ OAuth2Authentication := do
  let accessToken ← orError (store.readAccessToken accessTokenValue)
  store.dropExpiredAccess now accessToken
  let result ← orError (store.readAuthentication (some accessToken.value))
  orError (services.checkClient result.oAuth2Request.clientId)
  return result

end JwtTokenStore

end MaxKey.OAuth2
