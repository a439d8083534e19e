import MaxKey.Redis
import MaxKey.TokenStore
import Mathlib.Algebra.Group.Nat.Defs

namespace MaxKey.OAuth2
open JavaException Effects Redis

/-- What the store hands to ObjectTransformer. -/
inductive Serializable
  | accessToken (token : OAuth2AccessToken)
  | refreshToken (token : OAuth2RefreshToken)
  | authentication (authentication : OAuth2Authentication)
  | text (value : String)

/-- Serialisation as hexadecimal text. -/
structure ObjectTransformer where
  serialize : Serializable → String
  deserialize : String → Except JavaException Serializable
  deserialize_serialize : ∀ object, deserialize (serialize object) = .ok object
  hexadecimal : ∀ object, ':' ∉ (serialize object).toList

/-- One connection: its commands run at once, its pipeline holds the replies of what has been
queued on the pipeline itself. -/
structure RedisConnection where
  database : Database := fun _ => none
  pipeline : List (Option String) := []

abbrev RedisM := EStateM JavaException RedisConnection

namespace RedisConnection

def wrongType : JavaException :=
  jedisData "WRONGTYPE Operation against a key holding the wrong kind of value"

def command (f : Database → Database) : RedisM Unit :=
  modify fun c => { c with database := f c.database }

def set (key value : String) : RedisM Unit := command fun db => db.set key value

def get (key : String) : RedisM (Option String) := do
  let c ← MonadState.get
  orThrow wrongType (c.database.get key)

def expire (key : String) (seconds : ℤ) : RedisM Unit := command fun db => db.expire key seconds

def delete (key : String) : RedisM Unit := command fun db => db.del key

def lRange (key : String) : RedisM (List String) := do
  let c ← MonadState.get
  orThrow wrongType (c.database.lrange key)

def lRem (key : String) (count : ℕ) (value : String) : RedisM Unit := do
  let c ← MonadState.get
  let database ← orThrow wrongType (c.database.lrem key count value)
  command fun _ => database

def openPipeline : RedisM Unit := modify fun c => { c with pipeline := [] }

def closePipeline : RedisM (List (Option String)) := do
  let c ← MonadState.get
  modify fun c => { c with pipeline := [] }
  return c.pipeline

variable (transformer : ObjectTransformer)

def setObject (key : String) (object : Serializable) : RedisM Unit :=
  set key (transformer.serialize object)

def rPush (key : String) (object : Serializable) : RedisM Unit := do
  let c ← MonadState.get
  let database ← orThrow wrongType (c.database.rpush key (transformer.serialize object))
  command fun _ => database

/-- The caller's cast fails on an object of another class. -/
def getObject {α : Type} (cast : Serializable → Option α) (key : String) : RedisM (Option α) := do
  match ← get key with
  | none => return none
  | some value => do
    let object ← orError (transformer.deserialize value)
    let result ← orThrow classCast (cast object)
    return some result

end RedisConnection

def Serializable.toAccessToken : Serializable → Option OAuth2AccessToken
  | accessToken token => some token
  | _ => none

def Serializable.toRefreshToken : Serializable → Option OAuth2RefreshToken
  | refreshToken token => some token
  | _ => none

def Serializable.toAuthentication : Serializable → Option OAuth2Authentication
  | authentication a => some a
  | _ => none

def Serializable.toText : Serializable → Option String
  | text value => some value
  | _ => none

namespace RedisTokenStore
open RedisConnection
open InMemoryTokenStore (extractKey approvalKey getApprovalKey)

/-- The families of keys. -/
inductive Family
  | access
  | authToAccess
  | auth
  | refreshAuth
  | accessToRefresh
  | refresh
  | refreshToAccess
  | clientIdToAccess
  | unameToAccess
  deriving DecidableEq

def Family.text : Family → String
  | access => "REDIS_OAUTH_V20_access:"
  | authToAccess => "REDIS_OAUTH_V20_auth_to_access:"
  | auth => "REDIS_OAUTH_V20_auth:"
  | refreshAuth => "REDIS_OAUTH_V20_refresh_auth:"
  | accessToRefresh => "REDIS_OAUTH_V20_access_to_refresh:"
  | refresh => "REDIS_OAUTH_V20_refresh:"
  | refreshToAccess => "REDIS_OAUTH_V20_refresh_to_access:"
  | clientIdToAccess => "REDIS_OAUTH_V20_client_id_to_access:"
  | unameToAccess => "REDIS_OAUTH_V20_uname_to_access:"

def Family.key (f : Family) (name : String) : String := f.text ++ name

/-- Whole seconds, as an int of 32 bits. -/
def secondsUntil (now expiration : ℕ) : ℤ := (((expiration : ℤ) - now).tdiv 1000).bmod (2 ^ 32)

def clientKey (authentication : OAuth2Authentication) : String :=
  Family.clientIdToAccess.key (authentication.oAuth2Request.clientId.getD "null")

variable (transformer : ObjectTransformer) (digest : String → String)

def linkRefreshToken (now : ℕ) (token : OAuth2AccessToken) (refreshToken : OAuth2RefreshToken) :
    RedisM Unit := do
  let refreshToAccessKey := Family.refreshToAccess.key refreshToken.value
  set refreshToAccessKey token.value
  let accessToRefreshKey := Family.accessToRefresh.key token.value
  set accessToRefreshKey refreshToken.value
  refreshToken.expiration.forM fun expiration => do
    let seconds := secondsUntil now expiration
    expire refreshToAccessKey seconds
    expire accessToRefreshKey seconds

def storeAccessToken (now : ℕ) (token : OAuth2AccessToken)
    (authentication : OAuth2Authentication) : RedisM Unit := do
  let accessKey := Family.access.key token.value
  let authKey := Family.auth.key token.value
  let authToAccessKey := Family.authToAccess.key (extractKey digest authentication)
  let approvalKey := Family.unameToAccess.key (getApprovalKey authentication)
  let clientId := clientKey authentication
  openPipeline
  setObject transformer accessKey (.accessToken token)
  setObject transformer authKey (.authentication authentication)
  setObject transformer authToAccessKey (.accessToken token)
  onlyIf (authentication.isClientOnly = false) (rPush transformer approvalKey (.accessToken token))
  rPush transformer clientId (.accessToken token)
  token.expiration.forM fun expiration => do
    let seconds := secondsUntil now expiration
    expire accessKey seconds
    expire authKey seconds
    expire authToAccessKey seconds
    expire clientId seconds
    expire approvalKey seconds
  token.refreshToken.forM fun refreshToken => linkRefreshToken now token refreshToken
  let _ ← closePipeline
  return ()

def readAuthentication (token : String) : RedisM (Option OAuth2Authentication) :=
  getObject transformer Serializable.toAuthentication (Family.auth.key token)

def readAccessToken (tokenValue : String) : RedisM (Option OAuth2AccessToken) :=
  getObject transformer Serializable.toAccessToken (Family.access.key tokenValue)

def getAccessToken (now : ℕ) (authentication : OAuth2Authentication) :
    RedisM (Option OAuth2AccessToken) := do
  let key := extractKey digest authentication
  match ← getObject transformer Serializable.toAccessToken (Family.authToAccess.key key) with
  | none => return none
  | some accessToken => do
    let stored ← readAuthentication transformer accessToken.value
    let stored ← orThrow nullPointer stored
    onlyIf (key ≠ extractKey digest stored)
      (storeAccessToken transformer digest now accessToken authentication)
    return some accessToken

/-- A reply of the pipeline by its position. -/
def reply (results : List (Option String)) (position : ℕ) : RedisM (Option String) :=
  orThrow indexOutOfBounds results[position]?

/-- What is removed once the authentication has been deserialised. -/
def unindex (access : Option String) (authentication : OAuth2Authentication) : RedisM Unit := do
  let key := extractKey digest authentication
  let unameKey := Family.unameToAccess.key (getApprovalKey authentication)
  openPipeline
  delete (Family.authToAccess.key key)
  lRem unameKey 1 (access.getD "")
  lRem (clientKey authentication) 1 (access.getD "")
  delete (Family.access.key key)
  let _ ← closePipeline
  return ()

def removeAccessToken (tokenValue : String) : RedisM Unit := do
  openPipeline
  delete (Family.access.key tokenValue)
  delete (Family.accessToRefresh.key tokenValue)
  delete (Family.auth.key tokenValue)
  let results ← closePipeline
  let access ← reply results 0
  let auth ← reply results 1
  let auth ← orThrow nullPointer auth
  let object ← orError (transformer.deserialize auth)
  let authentication ← orThrow classCast object.toAuthentication
  unindex digest access authentication

def storeRefreshToken (now : ℕ) (refreshToken : OAuth2RefreshToken)
    (authentication : OAuth2Authentication) : RedisM Unit := do
  let refreshKey := Family.refresh.key refreshToken.value
  let refreshAuthKey := Family.refreshAuth.key refreshToken.value
  openPipeline
  setObject transformer refreshKey (.refreshToken refreshToken)
  setObject transformer refreshAuthKey (.authentication authentication)
  refreshToken.expiration.forM fun expiration => do
    let seconds := secondsUntil now expiration
    expire refreshKey seconds
    expire refreshAuthKey seconds
  let _ ← closePipeline
  return ()

def readRefreshToken (tokenValue : String) : RedisM (Option OAuth2RefreshToken) :=
  getObject transformer Serializable.toRefreshToken (Family.refresh.key tokenValue)

def removeRefreshToken (tokenValue : String) : RedisM Unit := do
  openPipeline
  delete (Family.refresh.key tokenValue)
  delete (Family.refreshAuth.key tokenValue)
  delete (Family.refreshToAccess.key tokenValue)
  delete (Family.accessToRefresh.key tokenValue)
  let _ ← closePipeline
  return ()

def removeAccessTokenUsingRefreshToken (refreshToken : String) : RedisM Unit := do
  let key := Family.refreshToAccess.key refreshToken
  openPipeline
  let _ ← get key
  delete key
  let results ← closePipeline
  let bytes ← reply results 0
  let bytes ← orThrow nullPointer bytes
  let object ← orError (transformer.deserialize bytes)
  let accessToken ← orThrow classCast object.toText
  removeAccessToken transformer digest accessToken

/-- Each element of the list is taken for a key. -/
def getObjects : List String → RedisM (List (Option OAuth2AccessToken))
  | [] => return []
  | str :: rest => do
    let accessToken ← getObject transformer Serializable.toAccessToken str
    let accessTokens ← getObjects rest
    return accessToken :: accessTokens

def findTokensByClientIdAndUserName (clientId : String) (userName : Option String) :
    RedisM (List (Option OAuth2AccessToken)) := do
  let stringList ← lRange (Family.unameToAccess.key (approvalKey clientId userName))
  getObjects transformer stringList

def findTokensByClientId (clientId : String) : RedisM (List (Option OAuth2AccessToken)) := do
  let stringList ← lRange (Family.clientIdToAccess.key clientId)
  getObjects transformer stringList

end RedisTokenStore

end MaxKey.OAuth2
