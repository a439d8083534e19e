import MaxKey.Domain
import MaxKey.Effects
import MaxKey.JavaText
import MaxKey.KeyedTable

namespace MaxKey

/-- The attributes of an HTTP session that the login code reads and writes. -/
structure HttpSession where
  id : String
  currentUser : Option UserInfo := none
  currentAuthentication : Option Authentication := none
  currentUserSessionId : Option String := none
  currentLoginUserPasswordSetType : Option Int := none
  firstSavedRequest : Option String := none
  kaptcha : Option String := none
  remeberMe : Option String := none
  authenticationException : Option JavaException := none
  deriving DecidableEq

/-- A row of HISTORY_LOGIN, without its generated primary key. -/
structure HistoryLogin where
  sessionId : String
  uid : String
  username : String
  displayName : Option String
  loginType : String
  message : String
  code : String
  provider : String
  sourceIp : Option String
  browser : String
  platform : String
  application : String
  loginTime : ℕ
  deriving DecidableEq

structure PasswordPolicy where
  attempts : Int
  expiration : Int
  deriving DecidableEq

structure Database where
  userInfo : KeyedTable UserInfo.id
  historyLogin : List HistoryLogin
  groupMember : List (String × String)
  passwordPolicy : List PasswordPolicy
  deriving DecidableEq

/-- The JDBC calls of one request that fail with a DataAccessException. -/
structure JdbcFaults where
  selectUserInfo : Bool := false
  selectGroups : Bool := false
  selectPasswordPolicy : Bool := false
  insertHistoryLogin : Bool := false
  updateUserInfo : Bool := false
  saveRemeberMe : Bool := false
  removeRemeberMe : Bool := false
  readRemeberMe : Bool := false
  updateHistoryLogin : Bool := false
  deriving DecidableEq

/-- What a request brings besides its parameters: headers, the clock, the identifiers that
are generated while it runs, and the database calls that fail. -/
structure HttpRequest where
  userAgent : Option String
  ipAddress : Option String := none
  now : ℕ := 0
  newSessionId : String
  loginSessionId : String
  generatedId : String := ""
  faults : JdbcFaults := {}
  deriving DecidableEq

/-- Everything one request works on. The realm keeps the policy that it read first. -/
structure World where
  database : Database
  session : HttpSession
  cachedPasswordPolicy : Option PasswordPolicy := none
  deriving DecidableEq

/-- Who the session is logged in as: its UserInfo and its Authentication. -/
def World.identity (w : World) : Option UserInfo × Option Authentication :=
  (w.session.currentUser, w.session.currentAuthentication)

abbrev Web := EStateM JavaException World

namespace WebContext

def getSession : Web HttpSession := do return (← get).session

def modifySession (f : HttpSession → HttpSession) : Web Unit :=
  modify fun w => { w with session := f w.session }

def modifyDatabase (f : Database → Database) : Web Unit :=
  modify fun w => { w with database := f w.database }

def setUserInfo (userInfo : Option UserInfo) : Web Unit :=
  modifySession fun s => { s with currentUser := userInfo }

def getUserInfo : Web (Option UserInfo) := do return (← getSession).currentUser

def setAuthentication (authentication : Authentication) : Web Unit :=
  modifySession fun s => { s with currentAuthentication := some authentication }

def getAuthentication : Web (Option Authentication) := do
  return (← getSession).currentAuthentication

def isAuthenticated : Web Bool := do return (← getUserInfo).isSome

/-- The old session ends; the next access starts one with a new id and no attributes. -/
def invalidate (request : HttpRequest) : Web Unit :=
  modifySession fun _ => { id := request.newSessionId }

end WebContext

end MaxKey
