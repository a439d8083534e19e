import MaxKey.AccessTokenJson

namespace MaxKey.OAuth2
open JavaException Effects

/-- An object in a collection. One that is no text counts by what it prints as. -/
inductive Element
  | null
  | text (value : String)
  | object (printed : String)
  deriving DecidableEq

/-- A value of a map of claims. An object of another class counts by its name as a principal. -/
inductive Claim
  | null
  | text (value : String)
  | number (value : ℤ)
  | collection (elements : List Element)
  | object (name : String)
  deriving DecidableEq

/-- A map of claims; an earlier entry hides a later one of the same name. -/
abbrev Claims := List (String × Claim)

namespace Element

/-- String.valueOf. -/
def valueOf : Element → String
  | null => "null"
  | text value => value
  | object printed => printed

end Element

namespace Claim

def texts (values : List String) : Claim := collection (values.map .text)

/-- The cast to a text. -/
def asText : Claim → Except JavaException (Option String)
  | null => .ok none
  | text value => .ok (some value)
  | _ => .error classCast

/-- The cast to a collection, which is copied into a set. -/
def asSet : Claim → Except JavaException (List Element)
  | null => .error nullPointer
  | collection elements => .ok elements.dedup
  | _ => .error classCast

/-- The name of a token whose principal the value is. -/
def getName : Claim → String
  | null => ""
  | text value => value
  | number value => toString value
  | collection elements => "[" ++ String.intercalate ", " (elements.map Element.valueOf) ++ "]"
  | object name => name

end Claim

namespace Claims

def get (claims : Claims) (name : String) : Option Claim := claims.lookup name

def put (claims : Claims) (name : String) (claim : Claim) : Claims := (name, claim) :: claims

/-- Nothing is put where there is nothing. -/
def putSome (claims : Claims) (name : String) (claim : Option Claim) : Claims :=
  claim.elim claims (claims.put name)

def remove (claims : Claims) (name : String) : Claims := claims.filter fun entry => entry.1 ≠ name

/-- The entries of `new` override those of `old`. -/
def putAll (old new : Claims) : Claims := new ++ old

end Claims

namespace AuthorityUtils

/-- The parts between commas, trimmed, without the empty ones. -/
def tokenizeToStringArray (text : String) : List String :=
  ((text.toList.splitOn ',').map fun part => JavaText.trim (String.ofList part)).filter (· ≠ "")

def createAuthority (role : Option String) : Except JavaException String :=
  if JavaText.hasText role then .ok (role.getD "")
  else .error (illegalArgument "A granted authority textual representation is required")

def createAuthorityList (roles : List (Option String)) : Except JavaException (List String) :=
  roles.mapM createAuthority

def commaSeparatedStringToAuthorityList (text : String) : Except JavaException (List String) :=
  createAuthorityList ((tokenizeToStringArray text).map some)

/-- The copy of a collection into an array of texts. -/
def toStringArray (elements : List Element) : Except JavaException (List (Option String)) :=
  elements.mapM fun element =>
    match element with
    | .null => .ok none
    | .text value => .ok (some value)
    | .object _ => .error arrayStore

end AuthorityUtils

open AuthorityUtils

structure DefaultUserAuthenticationConverter where
  defaultAuthorities : Option (List String) := none
  userDetailsService : Option (Option String → Except JavaException User) := none

structure DefaultAccessTokenConverter where
  userTokenConverter : DefaultUserAuthenticationConverter := {}
  includeGrantType : Bool := false

/-- The token of a user as it comes out of a map, by the name of its principal. -/
structure ExtractedUser where
  name : String
  authorities : List String
  deriving DecidableEq

structure ExtractedAccessToken where
  value : String
  expiration : Option ℤ
  scope : Option (List Element)
  additionalInformation : Claims

/-- An authentication as it comes out of a map, with sets of what the collections held. -/
structure ExtractedAuthentication where
  grantType : Option String
  clientId : Option String
  authorities : List String
  scope : List Element
  resourceIds : List Element
  userAuthentication : Option ExtractedUser
  deriving DecidableEq

def ExtractedAuthentication.getAuthorities (a : ExtractedAuthentication) : List String :=
  a.userAuthentication.elim a.authorities (·.authorities)

namespace DefaultUserAuthenticationConverter

variable (converter : DefaultUserAuthenticationConverter)

def convertUserAuthentication (user : UserAuthentication) : Claims :=
  let authorities := user.getAuthorities.getD []
  Claims.putSome [("user_name", .text user.getName)] "authorities"
    (if authorities = [] then none else some (.texts authorities))

/-- The authorities of a claim, as a list with commas in both cases. -/
def readAuthorities : Claim → Except JavaException (List String)
  | .text authorities => commaSeparatedStringToAuthorityList authorities
  | .collection authorities =>
    commaSeparatedStringToAuthorityList (String.intercalate "," (authorities.map Element.valueOf))
  | _ => .error (illegalArgument "Authorities must be either a String or a Collection")

def getAuthorities (claims : Claims) : Except JavaException (List String) :=
  (claims.get "authorities").elim (.ok (converter.defaultAuthorities.getD [])) readAuthorities

def extractAuthentication (claims : Claims) : Except JavaException (Option ExtractedUser) :=
  match claims.get "user_name" with
  | none => .ok none
  | some principal => do
    let authorities ← converter.getAuthorities claims
    match converter.userDetailsService with
    | none => return some { name := principal.getName, authorities := authorities }
    | some loadUserByUsername => do
      let username ← principal.asText
      let user ← loadUserByUsername username
      return some { name := user.username, authorities := user.authorities }

end DefaultUserAuthenticationConverter

namespace DefaultAccessTokenConverter

variable (converter : DefaultAccessTokenConverter)

/-- Tries to discover the grant type, also that of a response type. -/
def getGrantType (request : OAuth2Request) : Option String :=
  match request.requestParameters.get "grant_type" with
  | some grantType => some grantType
  | none =>
    match request.requestParameters.get "response_type" with
    | some response => if JavaText.contains response "token" then some "implicit" else none
    | none => none

/-- The claims of a user, or the authorities of a client. -/
def convertOwner (authentication : OAuth2Authentication) : Claims :=
  match authentication.userAuthentication with
  | some user => DefaultUserAuthenticationConverter.convertUserAuthentication user
  | none =>
    let authorities := authentication.oAuth2Request.authorities
    Claims.putSome [] "authorities" (if authorities = [] then none else some (.texts authorities))

def convertAccessToken (token : DefaultOAuth2AccessToken Claim)
    (authentication : OAuth2Authentication) : Claims :=
  let clientToken := authentication.oAuth2Request
  let information : Claims := token.additionalInformation
  let response := (convertOwner authentication).putSome "scope" (token.scope.map .texts)
  let response := response.putSome "jti" (information.get "jti")
  let response := response.putSome "exp" (token.expiration.map fun e => .number (e.tdiv 1000))
  let response := response.putSome "grant_type"
    (if converter.includeGrantType then (getGrantType clientToken).map .text else none)
  let response := response.putAll information
  let response := response.put "client_id" (clientToken.clientId.elim .null .text)
  response.putSome "aud"
    (if clientToken.resourceIds = [] then none else some (.texts clientToken.resourceIds))

/-- The date of a number of seconds. -/
def extractExpiration : Claim → Except JavaException ℤ
  | .null => .error nullPointer
  | .number seconds => .ok ((seconds * 1000).bmod (2 ^ 64))
  | _ => .error classCast

/-- The scope of a token; a null is passed over. -/
def extractScope : Option Claim → Except JavaException (Option (List Element))
  | none | some .null => .ok none
  | some claim => claim.asSet.map some

def extractAccessToken (value : String) (claims : Claims) :
    Except JavaException ExtractedAccessToken := do
  let info := (((claims.remove "exp").remove "aud").remove "client_id").remove "scope"
  let expiration ← (claims.get "exp").mapM extractExpiration
  let info := info.putSome "jti" (claims.get "jti")
  let scope ← extractScope (claims.get "scope")
  return { value := value, expiration := expiration, scope := scope, additionalInformation := info }

/-- A set of one text that holds a blank or a comma is parsed as a list. -/
def setScope : List Element → Except JavaException (List Element)
  | [.null] => .error nullPointer
  | [.object _] => .error classCast
  | [.text value] => .ok ((normalizeScope [value]).map .text)
  | scope => .ok scope

/-- The authorities of a client. -/
def extractAuthorities (claims : Claims) : Except JavaException (List String) :=
  match claims.get "authorities" with
  | none => .ok []
  | some (.collection authorities) => do
    let roles ← toStringArray authorities
    createAuthorityList roles
  | some .null => .error nullPointer
  | some _ => .error classCast

def extractClientAuthorities (user : Option ExtractedUser) (claims : Claims) :
    Except JavaException (List String) :=
  if user = none then extractAuthorities claims else .ok []

def extractGrantType (claims : Claims) : Except JavaException (Option String) :=
  if converter.includeGrantType then
    (claims.get "grant_type").elim (.ok none) Claim.asText
  else .ok none

def extractAuthentication (claims : Claims) : Except JavaException ExtractedAuthentication := do
  let scope ← ((claims.get "scope").mapM Claim.asSet).map (·.getD [])
  let user ← converter.userTokenConverter.extractAuthentication claims
  let clientId ← (claims.get "client_id").elim (.ok none) Claim.asText
  let grantType ← converter.extractGrantType claims
  let resourceIds ← ((claims.get "aud").mapM Claim.asSet).map (·.getD [])
  let authorities ← extractClientAuthorities user claims
  let scope ← setScope scope
  return {
    grantType := grantType, clientId := clientId, authorities := authorities, scope := scope
    resourceIds := resourceIds, userAuthentication := user }

end DefaultAccessTokenConverter

end MaxKey.OAuth2
