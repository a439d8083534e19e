import MaxKey.TokenRuns

namespace MaxKey.OAuth2
open JavaException Effects

/-- The interface of the token stores, over the state of an implementation. The time is for
stores that expire their tokens. -/
structure TokenStore (σ : Type) where
  getAccessToken : ℕ → OAuth2Authentication → EStateM JavaException σ (Option OAuth2AccessToken)
  storeAccessToken : ℕ → OAuth2AccessToken → OAuth2Authentication → EStateM JavaException σ Unit
  readAccessToken : String → EStateM JavaException σ (Option OAuth2AccessToken)
  removeAccessToken : String → EStateM JavaException σ Unit
  readAuthentication : String → EStateM JavaException σ (Option OAuth2Authentication)
  storeRefreshToken : OAuth2RefreshToken → OAuth2Authentication → EStateM JavaException σ Unit
  readRefreshToken : String → EStateM JavaException σ (Option OAuth2RefreshToken)
  removeRefreshToken : String → EStateM JavaException σ Unit
  readAuthenticationForRefreshToken : String → EStateM JavaException σ (Option OAuth2Authentication)
  removeAccessTokenUsingRefreshToken : String → EStateM JavaException σ Unit

namespace TokenStore
open DefaultTokenServices

section Services

variable {σ : Type} (store : TokenStore σ) (services : DefaultTokenServices)

def issue (m : Moment) (authentication : OAuth2Authentication)
    (existing : Option OAuth2RefreshToken) : EStateM JavaException σ OAuth2AccessToken := do
  let refreshToken ← orError (services.renewRefreshToken m authentication.oAuth2Request existing)
  let accessToken ← orError (services.newAccessToken m authentication refreshToken)
  store.storeAccessToken m.now accessToken authentication
  accessToken.refreshToken.forM fun refreshToken =>
    store.storeRefreshToken refreshToken authentication
  return accessToken

def createAccessToken (m : Moment) (authentication : OAuth2Authentication) :
    EStateM JavaException σ OAuth2AccessToken := do
  let existingAccessToken ← store.getAccessToken m.now authentication
  match existingAccessToken with
  | none => store.issue services m authentication none
  | some existing =>
    if existing.isExpired m.now then do
      existing.refreshToken.forM fun refreshToken => store.removeRefreshToken refreshToken.value
      store.removeAccessToken existing.value
      store.issue services m authentication existing.refreshToken
    else do
      store.storeAccessToken m.now existing authentication
      return existing

def readForRefresh (refreshTokenValue : String) (request : TokenRequest) :
    EStateM JavaException σ (OAuth2RefreshToken × OAuth2Authentication) := do
  let invalid := invalidGrant ("Invalid refresh token: " ++ refreshTokenValue)
  throwIf (services.supportRefreshToken = false) invalid
  let found ← store.readRefreshToken refreshTokenValue
  let refreshToken ← orThrow invalid found
  let stored ← store.readAuthenticationForRefreshToken refreshToken.value
  let stored ← orThrow nullPointer stored
  let authentication ← orError (services.reauthenticated stored)
  let clientId := authentication.oAuth2Request.clientId
  throwIf (clientId = none ∨ clientId ≠ request.clientId)
    (invalidGrant ("Wrong client for this refresh token: " ++ refreshTokenValue))
  return (refreshToken, authentication)

def dropExpired (now : ℕ) (refreshToken : OAuth2RefreshToken) : EStateM JavaException σ Unit :=
  onlyIf (refreshToken.isExpired now) (do
    store.removeRefreshToken refreshToken.value
    throw (invalidToken ("Invalid refresh token (expired): " ++ refreshToken.value)))

def rotate (m : Moment) (request : OAuth2Request) (refreshToken : OAuth2RefreshToken) :
    EStateM JavaException σ (Option OAuth2RefreshToken) :=
  if services.reuseRefreshToken then return some refreshToken
  else do
    store.removeRefreshToken refreshToken.value
    orError (services.createRefreshToken m request)

def reissue (m : Moment) (authentication : OAuth2Authentication)
    (refreshToken : OAuth2RefreshToken) : EStateM JavaException σ OAuth2AccessToken := do
  let refreshToken ← store.rotate services m authentication.oAuth2Request refreshToken
  let accessToken ← orError (services.newAccessToken m authentication refreshToken)
  store.storeAccessToken m.now accessToken authentication
  onlyIf (services.reuseRefreshToken = false) (do
    let refreshToken ← orThrow nullPointer refreshToken
    store.storeRefreshToken refreshToken authentication)
  return accessToken

def refreshAccessToken (m : Moment) (refreshTokenValue : String) (request : TokenRequest) :
    EStateM JavaException σ OAuth2AccessToken := do
  let found ← store.readForRefresh services refreshTokenValue request
  store.removeAccessTokenUsingRefreshToken found.1.value
  store.dropExpired m.now found.1
  let authentication ← orError (createRefreshedAuthentication found.2 request)
  store.reissue services m authentication found.1

def revokeToken (tokenValue : String) : EStateM JavaException σ Bool := do
  let found ← store.readAccessToken tokenValue
  match found with
  | none => return false
  | some accessToken => do
    accessToken.refreshToken.forM fun refreshToken => store.removeRefreshToken refreshToken.value
    store.removeAccessToken accessToken.value
    return true

def loadAuthentication (now : ℕ) (accessTokenValue : String) :
    EStateM JavaException σ OAuth2Authentication := do
  let invalid := invalidToken ("Invalid access token: " ++ accessTokenValue)
  let found ← store.readAccessToken accessTokenValue
  let accessToken ← orThrow invalid found
  onlyIf (accessToken.isExpired now) (do
    store.removeAccessToken accessToken.value
    throw (invalidToken ("Access token expired: " ++ accessTokenValue)))
  let stored ← store.readAuthentication accessToken.value
  let result ← orThrow invalid stored
  orError (services.checkClient result.oAuth2Request.clientId)
  return result

/-- The exceptions that a refresh does not roll back for. -/
def noRollbackFor : JavaException → Bool
  | oauth2 code _ => code = "invalid_token" || code = "invalid_grant"
  | _ => false

/-- A call of the services, whose transactions are managed or are not. -/
def call (managed : Bool) (s : σ) : Call → σ
  | .operation (.createAccessToken m a) =>
    final (transaction (fun _ => managed) (store.createAccessToken services m a)) s
  | .operation (.refreshAccessToken m value request) =>
    final (transaction (fun e => managed && !noRollbackFor e)
      (store.refreshAccessToken services m value request)) s
  | .operation (.revokeToken value) => final (store.revokeToken value) s
  | .loadAuthentication now value => final (store.loadAuthentication services now value) s

end Services

section InMemory
open InMemoryTokenStore

/-- The store in memory as an implementation. -/
def inMemory (digest : String → String) : TokenStore InMemoryTokenStore where
  getAccessToken := InMemoryTokenStore.getAccessToken digest
  storeAccessToken := InMemoryTokenStore.storeAccessToken digest
  readAccessToken value := do
    let s ← get
    return s.accessTokenStore value
  removeAccessToken := InMemoryTokenStore.removeAccessToken digest
  readAuthentication value := do
    let s ← get
    return s.authenticationStore value
  storeRefreshToken refreshToken a := modify (InMemoryTokenStore.storeRefreshToken refreshToken a)
  readRefreshToken value := do
    let s ← get
    return s.refreshTokenStore value
  removeRefreshToken value := modify (InMemoryTokenStore.removeRefreshToken value)
  readAuthenticationForRefreshToken value := do
    let s ← get
    return s.refreshTokenAuthenticationStore value
  removeAccessTokenUsingRefreshToken := InMemoryTokenStore.removeAccessTokenUsingRefreshToken digest

variable (digest : String → String) (services : DefaultTokenServices)

/-- The reads of a refresh leave the store as it is. -/
theorem inMemory_readForRefresh (value : String) (request : TokenRequest)
    (s : InMemoryTokenStore) :
    (inMemory digest).readForRefresh services value request s =
      (orError (services.readForRefresh s value request) : StoreM _) s := by
  unfold readForRefresh DefaultTokenServices.readForRefresh
  simp only [orError_bind, orError_failIf, orError_elim]
  by_cases hsupport : services.supportRefreshToken = false
  · rw [bind_of_error (throwIf_of_true hsupport _ s), bind_of_error (throwIf_of_true hsupport _ s)]
  · rw [bind_of_ok (throwIf_of_false hsupport _ s), bind_of_ok (throwIf_of_false hsupport _ s)]
    cases hkept : s.refreshTokenStore value with
    | none =>
      have hread : (inMemory digest).readRefreshToken value s = .ok none s :=
        congrArg (EStateM.Result.ok · s) hkept
      rw [bind_of_ok hread]
      rfl
    | some refreshToken =>
      have hread : (inMemory digest).readRefreshToken value s = .ok (some refreshToken) s :=
        congrArg (EStateM.Result.ok · s) hkept
      rw [bind_of_ok hread]
      simp only [orThrow_some_bind, orError_ok_bind]
      cases hstored : s.refreshTokenAuthenticationStore refreshToken.value with
      | none =>
        have hread' : (inMemory digest).readAuthenticationForRefreshToken refreshToken.value s =
            .ok none s := congrArg (EStateM.Result.ok · s) hstored
        rw [bind_of_ok hread']
        rfl
      | some stored =>
        have hread' : (inMemory digest).readAuthenticationForRefreshToken refreshToken.value s =
            .ok (some stored) s := congrArg (EStateM.Result.ok · s) hstored
        rw [bind_of_ok hread']
        rfl

theorem inMemory_refreshAccessToken (m : Moment) (value : String) (request : TokenRequest) :
    (inMemory digest).refreshAccessToken services m value request =
      services.refreshAccessToken digest m value request := by
  funext s
  have hread := inMemory_readForRefresh digest services value request s
  show (((inMemory digest).readForRefresh services value request) >>= _) s =
    (orError (services.readForRefresh s value request) >>= _) s
  cases hfound : services.readForRefresh s value request with
  | error e =>
    rw [hfound] at hread
    rw [bind_of_error hread]
    rfl
  | ok found =>
    rw [hfound] at hread
    rw [bind_of_ok hread]
    rfl

/-- The authentication is read after the check for expiry, which then has changed nothing. -/
theorem inMemory_loadAuthentication (now : ℕ) (value : String) :
    (inMemory digest).loadAuthentication services now value =
      services.loadAuthentication digest now value := by
  funext s
  show (orThrow _ (s.accessTokenStore value) >>= _) s =
    (orThrow _ (s.accessTokenStore value) >>= _) s
  cases hlive : s.accessTokenStore value with
  | none => rfl
  | some accessToken =>
    show (onlyIf (accessToken.isExpired now) _ >>= _) s =
      (onlyIf (accessToken.isExpired now) _ >>= _) s
    by_cases hexpired : accessToken.isExpired now
    · simp only [onlyIf, if_pos hexpired, throw_bind]
      rfl
    · simp only [onlyIf, if_neg hexpired]
      rfl

/-- Over the store in memory, which no transaction covers, the services are those that were
written for it. -/
theorem inMemory_call (s : InMemoryTokenStore) (c : Call) :
    (inMemory digest).call services false s c = services.call digest s c := by
  cases c with
  | operation op =>
    cases op with
    | createAccessToken m a =>
      exact final_transaction_of_never ((inMemory digest).createAccessToken services m a) s
    | refreshAccessToken m value request =>
      have hcall := final_transaction_of_never
        ((inMemory digest).refreshAccessToken services m value request) s
      rw [inMemory_refreshAccessToken] at hcall
      show final (transaction (fun _ => false)
        ((inMemory digest).refreshAccessToken services m value request)) s = _
      rw [inMemory_refreshAccessToken]
      exact hcall
    | revokeToken value => rfl
  | loadAuthentication now value =>
    show final ((inMemory digest).loadAuthentication services now value) s = _
    rw [inMemory_loadAuthentication]
    rfl

end InMemory

end TokenStore

end MaxKey.OAuth2
