import MaxKey.AccessTokenJson
import MaxKey.Apps
import MaxKey.Realm

namespace MaxKey

/-- The account of a user in an application. -/
structure Accounts where
  uid : Option String := none
  appId : Option String := none
  username : Option String := none
  relatedUsername : Option String := none
  relatedPassword : Option String := none
  deriving DecidableEq

/-- A row of APPS_TOKEN_BASED_DETAILS, with the adapter that is set from the application. -/
structure AppsTokenBasedDetails where
  id : String
  redirectUri : Option String := none
  tokenType : Option String := none
  cookieName : Option String := none
  algorithm : Option String := none
  algorithmKey : Option String := none
  expires : Option String := none
  isAdapter : Int := 0
  adapter : Option String := none
  deriving DecidableEq

/-- The application with what an endpoint adds to it: form-based and desktop details are joined with
the row of the application. -/
structure AppsDetails extends Apps where
  appUser : Option Accounts := none
  deriving DecidableEq

namespace SingleSignOn
open Realm JavaException Effects

/-- The tables. What the rows of the form-based and the desktop details hold besides their ID is
read by the adapters alone. -/
structure Tables where
  apps : KeyedTable Apps.id := .empty
  formBasedDetails : List String := []
  desktopDetails : List String := []
  tokenBasedDetails : KeyedTable AppsTokenBasedDetails.id := .empty
  accounts : List Accounts := []
  groups : List String := []
  groupPrivileges : List (String × String) := []
  groupMember : List (String × String) := []
  userInfo : KeyedTable UserInfo.id := .empty

/-- What an adapter is handed as the application. -/
inductive AppObject
  | formBased (details : AppsDetails)
  | desktop (details : AppsDetails)
  | extendApi (details : AppsDetails)
  | tokenBased (details : AppsTokenBasedDetails)

structure View where
  name : String
  objects : List (String × String)
  deriving DecidableEq

structure AuthorizeAdapter where
  generateInfo : UserInfo → AppObject → Except JavaException String
  encrypt : String → Option String → Option String → Except JavaException String
  sign : String → AppObject → Except JavaException String
  authorize : UserInfo → AppObject → String → Except JavaException View

/-- What the endpoints are wired with. A class that is no adapter throws where it is first used. -/
structure Config where
  decoder : Option String → Except JavaException String
  newInstance : Option String → Except JavaException AuthorizeAdapter
  defaultFormBasedAdapter : AuthorizeAdapter
  defaultTokenBasedAdapter : AuthorizeAdapter
  defaultDesktopAdapter : AuthorizeAdapter
  cookieName : Option String → Except JavaException String
  domainName : String

structure Cookie where
  name : String
  value : String
  maxAge : Int
  domain : String
  deriving DecidableEq

/-- The session of the browser, and the cookie that the response carries. -/
structure Browser where
  app : Option Apps := none
  singleSignOnAppId : Option String := none
  cookie : Option Cookie := none
  deriving DecidableEq

inductive Endpoint
  | formBased
  | tokenBased
  | desktop
  | extendApi
  deriving DecidableEq

/-- A model and view: a page of an adapter, a redirect, a forward to an endpoint or elsewhere, or
null. -/
inductive Response
  | view (v : View)
  | redirect (url : String)
  | forward (endpoint : Endpoint) (id : String)
  | elsewhere (path : String)
  | null
  deriving DecidableEq

abbrev Action := EStateM JavaException Browser

def isTrue (value : Int) : Bool := value = 1

/-- How a null is joined to a text. -/
def textOf (s : Option String) : String := s.getD "null"

/-- Integer.parseInt. -/
def parseInt (text : Option String) : Except JavaException Int :=
  match (text.bind OAuth2.Json.longValueOf).filter fun n => -2147483648 ≤ n ∧ n ≤ 2147483647 with
  | some n => .ok n
  | none => .error numberFormat

namespace AuthorizeBaseEndpoint

/-- The session keeps an application, which serves every id that agrees with its own ignoring
case; the ids of applications are generated, of ASCII characters. -/
def getApp (db : Tables) (id : String) : Action (Option Apps) := do
  match (← get).app with
  | some app =>
    if JavaText.equalsIgnoreCase app.id id then return some app
    else
      let found := AppsService.get db.apps id
      modify fun s => { s with app := found }
      return found
  | none =>
    let found := AppsService.get db.apps id
    modify fun s => { s with app := found }
    return found

def loadAccount (db : Tables) (uid appId : String) : Option Accounts :=
  db.accounts.find? fun account => account.uid = some uid ∧ account.appId = some appId

/-- The user's attribute that the application names. -/
def systemUserAttr (userInfo : UserInfo) (attr : String) : Option String :=
  if JavaText.equalsIgnoreCase attr "uid" then some userInfo.id
  else if JavaText.equalsIgnoreCase attr "username" then some userInfo.username
  else if JavaText.equalsIgnoreCase attr "employeeNumber" then userInfo.employeeNumber
  else if JavaText.equalsIgnoreCase attr "email" then userInfo.email
  else if JavaText.equalsIgnoreCase attr "windowsAccount" then userInfo.windowsAccount
  else none

/-- The account of the user in the application: `none` where it is yet to be defined. -/
def getAccounts (c : Config) (db : Tables) (userInfo : UserInfo) (id : String) :
    Action (Option Accounts) := do
  let application ← orThrow nullPointer (← getApp db id)
  if application.credential = Apps.USER_DEFINED then
    match loadAccount db userInfo.id application.id with
    | none => return none
    | some account =>
      let password ← orError (c.decoder account.relatedPassword)
      return some { account with relatedPassword := some password }
  else if application.credential = Apps.SHARED then
    let password ← orError (c.decoder application.sharedPassword)
    return some
      { relatedUsername := application.sharedUsername, relatedPassword := some password }
  else if application.credential = Apps.SYSTEM then
    let attr ← orThrow nullPointer application.systemUserAttr
    let password ← orError (c.decoder userInfo.decipherable)
    return some { username := systemUserAttr userInfo attr, relatedPassword := some password }
  else if application.credential = Apps.NONE then
    return some
      { username := some userInfo.username, relatedPassword := some userInfo.username }
  else return some {}

def generateInitCredentialModelAndView (appId redirect_uri : String) : Response :=
  .redirect ("/authz/credential/forward?appId=" ++ appId ++ "&redirect_uri=" ++ redirect_uri)

end AuthorizeBaseEndpoint

open AuthorizeBaseEndpoint

variable (c : Config) (db : Tables) (userInfo : UserInfo)

/-- The row of the application, where it is active and has a row of details. -/
def getAppDetails (details : List String) (id : String) : Option AppsDetails :=
  if details.contains id then
    ((AppsService.get db.apps id).filter fun app => app.status = ACTIVE).map fun app =>
      { toApps := app }
  else none

/-- The text that an account is signed on with. -/
def accountText (appUser : Accounts) : String :=
  textOf appUser.relatedUsername ++ "." ++ textOf appUser.relatedPassword

def chooseAdapter (isAdapter : Int) (adapter : Option String) (byDefault : AuthorizeAdapter) :
    Except JavaException AuthorizeAdapter :=
  if isTrue isAdapter then c.newInstance adapter else .ok byDefault

def FormBasedAuthorizeEndpoint.authorize (id : String) : Action Response := do
  let formBasedDetails := getAppDetails db db.formBasedDetails id
  let application ← getApp db id
  let formBasedDetails ← orThrow nullPointer formBasedDetails
  let application ← orThrow nullPointer application
  let formBasedDetails :=
    { formBasedDetails with adapter := application.adapter, isAdapter := application.isAdapter }
  match ← getAccounts c db userInfo formBasedDetails.id with
  | none => return generateInitCredentialModelAndView id ("/authorize/formbased/" ++ id)
  | some appUser =>
    let formBasedDetails := { formBasedDetails with appUser := some appUser }
    let adapter ← orError
      (chooseAdapter c formBasedDetails.isAdapter formBasedDetails.adapter c.defaultFormBasedAdapter)
    return .view (← orError
      (adapter.authorize userInfo (.formBased formBasedDetails) (accountText appUser)))

/-- The details are read whatever the status of the application. -/
def TokenBasedAuthorizeEndpoint.authorize (id : String) : Action Response := do
  let tokenBasedDetails := (db.tokenBasedDetails.select fun details => details.id = id).head?
  let application ← getApp db id
  let tokenBasedDetails ← orThrow nullPointer tokenBasedDetails
  let application ← orThrow nullPointer application
  let tokenBasedDetails :=
    { tokenBasedDetails with adapter := application.adapter, isAdapter := application.isAdapter }
  let adapter ← orError (chooseAdapter c tokenBasedDetails.isAdapter tokenBasedDetails.adapter
    c.defaultTokenBasedAdapter)
  let tokenData ← orError (adapter.generateInfo userInfo (.tokenBased tokenBasedDetails))
  let encryptTokenData ← orError
    (adapter.encrypt tokenData tokenBasedDetails.algorithmKey tokenBasedDetails.algorithm)
  let signTokenData ← orError (adapter.sign encryptTokenData (.tokenBased tokenBasedDetails))
  let tokenType ← orThrow nullPointer tokenBasedDetails.tokenType
  if JavaText.equalsIgnoreCase tokenType "POST" then
    return .view (← orError
      (adapter.authorize userInfo (.tokenBased tokenBasedDetails) signTokenData))
  else
    let name ← orError (c.cookieName tokenBasedDetails.cookieName)
    let expires ← orError (parseInt tokenBasedDetails.expires)
    let cookie : Cookie :=
      { name, value := signTokenData, maxAge := (expires * 60).bmod (2 ^ 32)
        domain := c.domainName }
    modify fun s => { s with cookie := some cookie }
    let redirectUri ← orThrow nullPointer tokenBasedDetails.redirectUri
    if JavaText.contains redirectUri c.domainName then return .redirect redirectUri
    else return .null

def DesktopAuthorizeEndpoint.authorize (id : String) : Action Response := do
  let desktopDetails ← orThrow nullPointer (getAppDetails db db.desktopDetails id)
  match ← getAccounts c db userInfo desktopDetails.id with
  | none => return generateInitCredentialModelAndView id ("/authorize/desktop/" ++ id)
  | some appUser =>
    let desktopDetails := { desktopDetails with appUser := some appUser }
    let adapter ← orError
      (chooseAdapter c desktopDetails.isAdapter desktopDetails.adapter c.defaultDesktopAdapter)
    let paramString ← orError (adapter.generateInfo userInfo (.desktop desktopDetails))
    let encryptParamString ← orError (adapter.encrypt paramString none none)
    let signParamString ← orError (adapter.sign encryptParamString (.desktop desktopDetails))
    return .view (← orError
      (adapter.authorize userInfo (.desktop desktopDetails) signParamString))

def ExtendApiAuthorizeEndpoint.authorize (id : String) : Action Response := do
  let apps ← orThrow nullPointer (← getApp db id)
  if isTrue apps.isAdapter then
    match ← getAccounts c db userInfo apps.id with
    | none => return generateInitCredentialModelAndView id ("/authorize/api/" ++ id)
    | some appUser =>
      let adapter ← orError (c.newInstance apps.adapter)
      return .view (← orError (adapter.authorize userInfo
        (.extendApi { toApps := apps, appUser := some appUser }) (accountText appUser)))
  else
    let application ← orThrow nullPointer (← getApp db id)
    return .redirect (textOf application.loginUrl)

/-- Where the protocol of an application leads to; `none` where there is no model and view. -/
def AuthorizeEndpoint.modelAndView (application : Apps) (id protocol : String) : Option Response :=
  if JavaText.equalsIgnoreCase protocol "Extend_API" then some (.forward .extendApi id)
  else if JavaText.equalsIgnoreCase protocol "Form_Based" then some (.forward .formBased id)
  else if JavaText.equalsIgnoreCase protocol "OAuth_v2.0" then
    some (.elsewhere ("/authz/oauthv20/" ++ application.id))
  else if JavaText.equalsIgnoreCase protocol "OpenID_Connect" then none
  else if JavaText.equalsIgnoreCase protocol "SAML_v2.0" then
    some (.elsewhere ("/authz/saml20/idpinit/" ++ application.id))
  else if JavaText.equalsIgnoreCase protocol "Token_Based" then some (.forward .tokenBased id)
  else if JavaText.equalsIgnoreCase protocol "CAS" then some (.elsewhere ("/authz/cas/" ++ id))
  else if JavaText.equalsIgnoreCase protocol "Desktop" then some (.forward .desktop id)
  else if JavaText.equalsIgnoreCase protocol "Basic" then
    some (.redirect (textOf application.loginUrl))
  else none

/-- The name of the view is logged, so that a model and view that is null throws. -/
def AuthorizeEndpoint.authorize (id : String) : Action Response := do
  let application ← getApp db id
  modify fun s => { s with singleSignOnAppId := some id }
  let application ← orThrow nullPointer application
  let protocol ← orThrow nullPointer application.protocol
  orThrow nullPointer (modelAndView application id protocol)

def serve (endpoint : Endpoint) (id : String) : Action Response :=
  match endpoint with
  | .formBased => FormBasedAuthorizeEndpoint.authorize c db userInfo id
  | .tokenBased => TokenBasedAuthorizeEndpoint.authorize c db userInfo id
  | .desktop => DesktopAuthorizeEndpoint.authorize c db userInfo id
  | .extendApi => ExtendApiAuthorizeEndpoint.authorize c db userInfo id

/-- A request for an application, to an endpoint or to /authz/{id}. -/
inductive Request
  | direct (endpoint : Endpoint) (id : String)
  | through (id : String)

def Request.id : Request → String
  | .direct _ id | .through id => id

def respond : Request → Action Response
  | .direct endpoint id => serve c db userInfo endpoint id
  | .through id => do
    match ← AuthorizeEndpoint.authorize db id with
    | .forward endpoint id => serve c db userInfo endpoint id
    | response => return response

/-- The groups of the user of this id and name; an id or a name that is null or empty is not
compared. -/
def isMember (userId username : Option String) (groupId : String) : Bool :=
  db.groupMember.any fun member => decide (member.2 = groupId) &&
    db.userInfo.rows.any fun u => decide (member.1 = u.id) &&
      userId.all (fun id => id = "" || u.id = id) &&
      username.all fun name => name = "" || u.username = name

/-- The applications that are granted to a group of the user. -/
def AppsMapper.queryMyApps (userId username : Option String) : List Apps :=
  db.apps.select fun app => db.groupPrivileges.any fun privilege =>
    decide (privilege.2 = app.id) && db.groups.contains privilege.1 &&
      (privilege.1 = "ALL_USER_GROUP" || isMember db userId username privilege.1)

end SingleSignOn

end MaxKey
