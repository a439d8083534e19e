import MaxKey.Realm

namespace MaxKey.UserInfoService
open WebContext JavaException Effects

/-- What the service is wired with: the password encoder and the reciprocal cipher. -/
structure Config where
  encode : String → String
  reciprocalEncode : String → String

def STOP : Int := 12

/-- The password of the object at hand is replaced by its encoding. -/
def passwordEncoder (c : Config) (now : String) (userInfo : UserInfo) : UserInfo :=
  let raw := Realm.rawPassword userInfo.username userInfo.password
  { userInfo with
    password := c.encode raw
    decipherable := some (c.reciprocalEncode raw)
    passwordLastSetTime := some now }

/-- A row that the database does not take, or whose ID is taken, is reported as false. -/
def insert (c : Config) (fails : Bool) (now : String) (userInfo : UserInfo) : Web Bool := do
  let userInfo := passwordEncoder c now userInfo
  match (← get).database.userInfo.insert userInfo with
  | none => return false
  | some rows =>
    if fails then return false
    else
      modifyDatabase fun db => { db with userInfo := rows }
      return true

/-- UPDATE USERINFO SET PASSWORD, DECIPHERABLE, PASSWORDSETTYPE, PASSWORDLASTSETTIME WHERE ID = ?;
a failing statement is swallowed. -/
def changePassword (c : Config) (fails : Bool) (now : String) (userInfo : UserInfo) :
    Web Bool := do
  let userInfo := passwordEncoder c now userInfo
  if fails then return false
  else
    let found := !((← get).database.userInfo.select (·.id = userInfo.id)).isEmpty
    Realm.updateById userInfo.id (fun u =>
      { u with
        password := userInfo.password
        decipherable := userInfo.decipherable
        passwordSetType := 0
        passwordLastSetTime := some now }) fun _ => rfl
    return found

/-- Locks the user for an administrator; errors of the update are swallowed. -/
def locked (fails : Bool) (userInfo : UserInfo) : Web Unit :=
  onlyIf (userInfo.id ≠ "" ∧ ¬fails) do
    Realm.updateById userInfo.id (fun u => { u with isLocked := STOP }) fun _ => rfl

/-- The mapper has no statement of this name, and the exception that says so is swallowed. -/
def unlock (userInfo : UserInfo) : Web Unit :=
  onlyIf (userInfo.id ≠ "") do
    tryCatch (throw (runtime
      "Invalid bound statement (not found): org.maxkey.persistence.mapper.UserInfoMapper.unlock"))
      fun _ => pure ()

theorem leaves_unlock {β : Type} (g : World → β) (userInfo : UserInfo) :
    Leaves g (unlock userInfo) :=
  leaves_onlyIf _ (leaves_tryCatch (leaves_throw _) fun _ => leaves_pure _)

end MaxKey.UserInfoService
