import Mathlib.Data.List.Basic

namespace MaxKey

/-- The exceptions that the modelled code throws or lets through. An internationalised
message is kept as its message key. -/
inductive JavaException
  | badCredentials (message : String)
  | insufficientAuthentication (message : String)
  | usernameNotFound (message : String)
  | nullPointer
  | arrayIndexOutOfBounds
  | indexOutOfBounds
  | stringIndexOutOfBounds
  | classCast
  | arrayStore
  | numberFormat
  | illegalArgument (message : String)
  | illegalState (message : String)
  | concurrentModification
  | runtime (message : String)
  | exception (message : String)
  | dataAccess (message : String)
  | jedisData (message : String)
  | noSuchClient (message : String)
  | oauth2 (errorCode message : String)
  deriving DecidableEq, Repr

namespace JavaException

/-- The subclasses of AuthenticationException. -/
def isAuthenticationException : JavaException → Bool
  | badCredentials _ | insufficientAuthentication _ | usernameNotFound _ => true
  | _ => false

/-- The subclasses of ClientRegistrationException. -/
def isClientRegistrationException : JavaException → Bool
  | noSuchClient _ => true
  | _ => false

/-- The subclasses of OAuth2Exception. -/
def isOAuth2Exception : JavaException → Bool
  | oauth2 _ _ => true
  | _ => false

def invalidRequest (message : String) : JavaException := oauth2 "invalid_request" message
def invalidClient (message : String) : JavaException := oauth2 "invalid_client" message
def invalidGrant (message : String) : JavaException := oauth2 "invalid_grant" message
def invalidScope (message : String) : JavaException := oauth2 "invalid_scope" message
def invalidToken (message : String) : JavaException := oauth2 "invalid_token" message
def redirectMismatch (message : String) : JavaException :=
  oauth2 "redirect_uri_mismatch" message
def unsupportedGrantType (message : String) : JavaException :=
  oauth2 "unsupported_grant_type" message
def unsupportedResponseType (message : String) : JavaException :=
  oauth2 "unsupported_response_type" message
def userDenied (message : String) : JavaException := oauth2 "access_denied" message

end JavaException

/-- A row of USERINFO: what UserInfoRowMapper reads of it, and the ONLINE column. -/
structure UserInfo where
  id : String
  username : String
  password : String := ""
  decipherable : Option String := none
  displayName : Option String := none
  email : Option String := none
  mobile : Option String := none
  windowsAccount : Option String := none
  employeeNumber : Option String := none
  passwordSetType : Int := 0
  passwordLastSetTime : Option String := none
  badPasswordCount : Int := 0
  isLocked : Int := 1
  sharedSecret : Option String := none
  sharedCounter : Option String := none
  loginCount : Int := 0
  lastLoginTime : Option ℕ := none
  lastLoginIp : Option String := none
  online : Int := 0
  status : Int := 0
  deriving DecidableEq, Repr

/-- The login form object. All of its fields have setters that the request can bind. -/
structure BasicAuthentication where
  username : Option String := none
  password : Option String := none
  sessionId : Option String := none
  captcha : Option String := none
  otpCaptcha : Option String := none
  remeberMe : Option String := none
  authType : Option String := none
  jwtToken : Option String := none
  grantedAuthority : Option (List String) := some ["ROLE_USER", "ORDINARY_USER"]
  authenticated : Bool := false
  deriving DecidableEq, Repr

/-- Spring's UserDetails implementation, the principal of a verified client. Its constructor
refuses an empty user name. -/
structure User where
  username : String
  password : Option String
  authorities : List String
  username_ne_empty : username ≠ ""
  deriving DecidableEq, Repr

inductive Principal
  | basic (authentication : BasicAuthentication)
  | user (details : User)
  | name (value : Option String)
  deriving DecidableEq, Repr

structure UsernamePasswordAuthenticationToken where
  principal : Principal
  credentials : Option String
  authorities : List String
  authenticated : Bool
  deriving DecidableEq, Repr

/-- An authentication that is not itself an OAuth2Authentication. -/
inductive UserAuthentication
  | basic (authentication : BasicAuthentication)
  | token (token : UsernamePasswordAuthenticationToken)
  deriving DecidableEq, Repr

/-- A map of request parameters; an earlier entry hides a later one of the same name. -/
abbrev Parameters := List (String × String)

namespace Parameters

def get (parameters : Parameters) (name : String) : Option String := parameters.lookup name

def put (parameters : Parameters) (name value : String) : Parameters := (name, value) :: parameters

def remove (parameters : Parameters) (name : String) : Parameters :=
  parameters.filter fun entry => entry.1 ≠ name

/-- The entries of `new` override those of `old`. -/
def putAll (old new : Parameters) : Parameters := new ++ old

end Parameters

structure TokenRequest where
  requestParameters : Parameters
  clientId : Option String
  scope : List String
  grantType : Option String
  deriving DecidableEq, Repr

structure OAuth2Request where
  requestParameters : Parameters := []
  clientId : Option String
  authorities : List String := []
  approved : Bool := false
  scope : List String := []
  resourceIds : List String := []
  redirectUri : Option String := none
  responseTypes : List String := []
  refresh : Option TokenRequest := none
  deriving DecidableEq, Repr

structure OAuth2Authentication where
  oAuth2Request : OAuth2Request
  userAuthentication : Option UserAuthentication
  deriving DecidableEq, Repr

inductive Authentication
  | user (authentication : UserAuthentication)
  | oauth2 (authentication : OAuth2Authentication)
  deriving DecidableEq, Repr

namespace BasicAuthentication

/-- Every BasicAuthentication has this one name. -/
def getName (_ : BasicAuthentication) : String := "Basic Authentication"

end BasicAuthentication

namespace Principal

/-- AbstractAuthenticationToken.getName over the principal's runtime type. -/
def getName : Principal → String
  | basic authentication => authentication.getName
  | user details => details.username
  | name value => value.getD ""

/-- The user name that a principal stands for. -/
def username : Principal → Option String
  | basic authentication => authentication.username
  | user details => some details.username
  | name value => value

end Principal

namespace UserAuthentication

def getPrincipal : UserAuthentication → Principal
  | basic authentication => .name authentication.username
  | token t => t.principal

def getName : UserAuthentication → String
  | basic authentication => authentication.getName
  | token t => t.principal.getName

def getAuthorities : UserAuthentication → Option (List String)
  | basic authentication => authentication.grantedAuthority
  | token t => some t.authorities

def getCredentials : UserAuthentication → Option String
  | basic authentication => authentication.password
  | token t => t.credentials

def isAuthenticated : UserAuthentication → Bool
  | basic authentication => authentication.authenticated
  | token t => t.authenticated

end UserAuthentication

namespace OAuth2Authentication

def isClientOnly (a : OAuth2Authentication) : Bool := a.userAuthentication.isNone

def getPrincipal (a : OAuth2Authentication) : Principal :=
  match a.userAuthentication with
  | none => .name a.oAuth2Request.clientId
  | some user => user.getPrincipal

def getName (a : OAuth2Authentication) : String := a.getPrincipal.getName

def getAuthorities (a : OAuth2Authentication) : List String :=
  match a.userAuthentication with
  | none => a.oAuth2Request.authorities
  | some user => user.getAuthorities.getD []

def isAuthenticated (a : OAuth2Authentication) : Bool :=
  a.oAuth2Request.approved && a.userAuthentication.all UserAuthentication.isAuthenticated

end OAuth2Authentication

namespace Authentication

def getPrincipal : Authentication → Principal
  | user a => a.getPrincipal
  | oauth2 a => a.getPrincipal

def getName : Authentication → String
  | user a => a.getName
  | oauth2 a => a.getName

def getAuthorities : Authentication → Option (List String)
  | user a => a.getAuthorities
  | oauth2 a => some a.getAuthorities

def getCredentials : Authentication → Option String
  | user a => a.getCredentials
  | oauth2 _ => some ""

def isAuthenticated : Authentication → Bool
  | user a => a.isAuthenticated
  | oauth2 a => a.isAuthenticated

/-- The user name under which the authentication stands in a session. -/
def principalName (a : Authentication) : Option String := a.getPrincipal.username

end Authentication

end MaxKey
