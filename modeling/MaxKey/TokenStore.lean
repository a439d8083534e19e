import MaxKey.Index
import MaxKey.OAuth2
import Mathlib.Data.List.Sort

namespace MaxKey.OAuth2
open JavaException Effects

/-- The text of a key for which an authentication holds one token: user name if there is a
user, client and scopes. Its digest is the key. -/
def keyText (authentication : OAuth2Authentication) : String :=
  let request := authentication.oAuth2Request
  let username := if authentication.isClientOnly then "" else "username=" ++ authentication.getName ++ ", "
  "\x7b" ++ username ++ "client_id=" ++ request.clientId.getD "null" ++
    ", scope=" ++ String.intercalate " " request.scope ++ "\x7d"

structure TokenExpiry where
  value : String
  expiry : ℕ
  deriving DecidableEq

/-- The maps of the store. The expiry queue is kept in order of time; a value has at most
one entry in it. -/
structure InMemoryTokenStore where
  accessTokenStore : String → Option OAuth2AccessToken := fun _ => none
  authenticationToAccessTokenStore : String → Option OAuth2AccessToken := fun _ => none
  userNameToAccessTokenStore : String → Option (List OAuth2AccessToken) := fun _ => none
  clientIdToAccessTokenStore : String → Option (List OAuth2AccessToken) := fun _ => none
  refreshTokenStore : String → Option OAuth2RefreshToken := fun _ => none
  accessTokenToRefreshTokenStore : String → Option String := fun _ => none
  authenticationStore : String → Option OAuth2Authentication := fun _ => none
  refreshTokenAuthenticationStore : String → Option OAuth2Authentication := fun _ => none
  refreshTokenToAccessTokenStore : String → Option String := fun _ => none
  expiryQueue : List TokenExpiry := []
  expiryMap : String → Option TokenExpiry := fun _ => none
  flushInterval : ℤ := 1000
  flushCounter : ℤ := 0

namespace InMemoryTokenStore
open Function (update)

abbrev StoreM := EStateM JavaException InMemoryTokenStore

def approvalKey (clientId : String) (userName : Option String) : String :=
  clientId ++ match userName with
    | none => ""
    | some name => ":" ++ name

def getApprovalKey (authentication : OAuth2Authentication) : String :=
  approvalKey (authentication.oAuth2Request.clientId.getD "null")
    (some (authentication.userAuthentication.elim "" UserAuthentication.getName))

/-- Tokens are equal when their values are. -/
def addToCollection (key : String) (token : OAuth2AccessToken) :
    (String → Option (List OAuth2AccessToken)) → String → Option (List OAuth2AccessToken) :=
  Index.add OAuth2AccessToken.value key token

def removeFromCollection (key : String) (removed : Option OAuth2AccessToken)
    (store : String → Option (List OAuth2AccessToken)) : String → Option (List OAuth2AccessToken) :=
  match removed with
  | none => store
  | some token => Index.remove OAuth2AccessToken.value key token.value store

def findTokensByClientIdAndUserName (s : InMemoryTokenStore) (clientId : String)
    (userName : Option String) : List OAuth2AccessToken :=
  (s.userNameToAccessTokenStore (approvalKey clientId userName)).getD []

def findTokensByClientId (s : InMemoryTokenStore) (clientId : String) : List OAuth2AccessToken :=
  (s.clientIdToAccessTokenStore clientId).getD []

variable (digest : String → String)

def extractKey (authentication : OAuth2Authentication) : String := digest (keyText authentication)

/-- Takes a token out of the maps that its value is the key of. -/
def dropToken (tokenValue : String) (s : InMemoryTokenStore) : InMemoryTokenStore :=
  { s with
    accessTokenStore := update s.accessTokenStore tokenValue none
    accessTokenToRefreshTokenStore := update s.accessTokenToRefreshTokenStore tokenValue none
    authenticationStore := update s.authenticationStore tokenValue none }

/-- The user index is looked up under the name of the whole authentication. -/
def unindexUser (authentication : OAuth2Authentication) (removed : Option OAuth2AccessToken)
    (s : InMemoryTokenStore) : InMemoryTokenStore :=
  { s with
    authenticationToAccessTokenStore :=
      update s.authenticationToAccessTokenStore (extractKey digest authentication) none
    userNameToAccessTokenStore :=
      removeFromCollection authentication.getName removed s.userNameToAccessTokenStore }

def unindexClient (authentication : OAuth2Authentication) (removed : Option OAuth2AccessToken)
    (clientId : String) (s : InMemoryTokenStore) : InMemoryTokenStore :=
  { s with
    clientIdToAccessTokenStore :=
      removeFromCollection clientId removed s.clientIdToAccessTokenStore
    authenticationToAccessTokenStore :=
      update s.authenticationToAccessTokenStore (extractKey digest authentication) none }

/-- The client index is a concurrent map, which has no null key. -/
def unindex (authentication : OAuth2Authentication) (removed : Option OAuth2AccessToken) :
    StoreM Unit := do
  modify (unindexUser digest authentication removed)
  let clientId ← orThrow nullPointer authentication.oAuth2Request.clientId
  modify (unindexClient digest authentication removed clientId)

def removeAccessToken (tokenValue : String) : StoreM Unit := do
  let s ← get
  modify (dropToken tokenValue)
  match s.authenticationStore tokenValue with
  | none => pure ()
  | some authentication => unindex digest authentication (s.accessTokenStore tokenValue)

/-- Takes what has expired from the front of the queue. -/
def poll (now : ℕ) : List TokenExpiry → StoreM Unit
  | [] => pure ()
  | first :: rest => onlyIf (first.expiry ≤ now) (do
      modify fun s => { s with expiryQueue := rest }
      removeAccessToken digest first.value
      poll now rest)

def flush (now : ℕ) : StoreM Unit := do
  let s ← get
  poll digest now s.expiryQueue

def countInsert (now : ℕ) : StoreM Unit := do
  modify fun s => { s with flushCounter := s.flushCounter + 1 }
  let s ← get
  onlyIf (s.flushInterval ≤ s.flushCounter) (do
    flush digest now
    modify fun s => { s with flushCounter := 0 })

def putToken (token : OAuth2AccessToken) (authentication : OAuth2Authentication)
    (s : InMemoryTokenStore) : InMemoryTokenStore :=
  { s with
    accessTokenStore := update s.accessTokenStore token.value (some token)
    authenticationStore := update s.authenticationStore token.value (some authentication)
    authenticationToAccessTokenStore :=
      update s.authenticationToAccessTokenStore (extractKey digest authentication) (some token)
    userNameToAccessTokenStore :=
      if authentication.isClientOnly then s.userNameToAccessTokenStore
      else addToCollection (getApprovalKey authentication) token s.userNameToAccessTokenStore }

def indexClient (token : OAuth2AccessToken) (clientId : String) (s : InMemoryTokenStore) :
    InMemoryTokenStore :=
  { s with clientIdToAccessTokenStore := addToCollection clientId token s.clientIdToAccessTokenStore }

/-- A new expiry takes the place of the one that the token had. -/
def putExpiry (token : OAuth2AccessToken) (s : InMemoryTokenStore) : InMemoryTokenStore :=
  match token.expiration with
  | none => s
  | some expiration =>
    let expiry : TokenExpiry := ⟨token.value, expiration⟩
    let queue := match s.expiryMap token.value with
      | none => s.expiryQueue
      | some old => s.expiryQueue.erase old
    { s with
      expiryMap := update s.expiryMap token.value (some expiry)
      expiryQueue := queue.orderedInsert (fun x y => x.expiry ≤ y.expiry) expiry }

def linkRefreshToken (token : OAuth2AccessToken) (s : InMemoryTokenStore) : InMemoryTokenStore :=
  match token.refreshToken with
  | none => s
  | some refreshToken =>
    { s with
      refreshTokenToAccessTokenStore :=
        update s.refreshTokenToAccessTokenStore refreshToken.value (some token.value)
      accessTokenToRefreshTokenStore :=
        update s.accessTokenToRefreshTokenStore token.value (some refreshToken.value) }

def storeAccessToken (now : ℕ) (token : OAuth2AccessToken)
    (authentication : OAuth2Authentication) : StoreM Unit := do
  countInsert digest now
  modify (putToken digest token authentication)
  let clientId ← orThrow nullPointer authentication.oAuth2Request.clientId
  modify (indexClient token clientId)
  modify (putExpiry token)
  modify (linkRefreshToken token)

/-- A token that is found under another key than that of its stored authentication is
stored once more. -/
def getAccessToken (now : ℕ) (authentication : OAuth2Authentication) :
    StoreM (Option OAuth2AccessToken) := do
  let s ← get
  let key := extractKey digest authentication
  match s.authenticationToAccessTokenStore key with
  | none => return none
  | some token => do
    let stored ← orThrow nullPointer (s.authenticationStore token.value)
    onlyIf (key ≠ extractKey digest stored) (storeAccessToken digest now token authentication)
    return some token

def storeRefreshToken (refreshToken : OAuth2RefreshToken) (authentication : OAuth2Authentication)
    (s : InMemoryTokenStore) : InMemoryTokenStore :=
  { s with
    refreshTokenStore := update s.refreshTokenStore refreshToken.value (some refreshToken)
    refreshTokenAuthenticationStore :=
      update s.refreshTokenAuthenticationStore refreshToken.value (some authentication) }

def removeRefreshToken (tokenValue : String) (s : InMemoryTokenStore) : InMemoryTokenStore :=
  { s with
    refreshTokenStore := update s.refreshTokenStore tokenValue none
    refreshTokenAuthenticationStore := update s.refreshTokenAuthenticationStore tokenValue none
    refreshTokenToAccessTokenStore := update s.refreshTokenToAccessTokenStore tokenValue none }

def removeAccessTokenUsingRefreshToken (refreshToken : String) : StoreM Unit := do
  let s ← get
  modify fun s => { s with
    refreshTokenToAccessTokenStore := update s.refreshTokenToAccessTokenStore refreshToken none }
  match s.refreshTokenToAccessTokenStore refreshToken with
  | none => pure ()
  | some accessToken => removeAccessToken digest accessToken

end InMemoryTokenStore

end MaxKey.OAuth2
