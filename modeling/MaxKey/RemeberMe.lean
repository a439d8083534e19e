import MaxKey.ExpiringMap
import MaxKey.Realm

namespace MaxKey

/-- What a remember-me cookie says, and what the stores keep. A cookie can leave anything out;
the time is in milliseconds. -/
structure RemeberMe where
  id : Option String := none
  username : Option String := none
  authKey : Option String := none
  lastLogin : Option ℕ := none
  deriving DecidableEq, Repr

/-- A row of REMEMBER_ME; its columns are NOT NULL. -/
structure RemeberMeRow where
  id : String
  username : String
  authKey : String
  lastLogin : ℕ
  deriving DecidableEq

namespace RemeberMe
open WebContext Realm JavaException Effects

def ONE_DAY : ℕ := 60 * 60 * 24
def ONE_WEEK : ℕ := ONE_DAY * 7
def TWO_WEEK : ℕ := ONE_DAY * 14
def ONE_YEAR : ℕ := 60 * 60 * 24 * 365

/-- A store of remember-me records, at the instant `now` in milliseconds. -/
structure Store (σ : Type) where
  save : JdbcFaults → ℕ → RemeberMe → σ → Except JavaException σ
  update : JdbcFaults → ℕ → RemeberMe → σ → Except JavaException σ
  read : JdbcFaults → ℕ → RemeberMe → σ → Except JavaException (Option RemeberMe)
  remove : JdbcFaults → String → σ → Except JavaException σ

def nonNullName (username : Option String) : Except JavaException String :=
  username.elim (.error nullPointer) .ok

namespace InMemoryRemeberMeService

/-- Duration.ofMinutes over a constant that counts seconds. -/
def timeToLive : ℕ := TWO_WEEK * 60 * 1000

def put (now : ℕ) (r : RemeberMe) (m : ExpiringMap String RemeberMe) :
    Except JavaException (ExpiringMap String RemeberMe) := do
  return ({ m with now }).put timeToLive (← nonNullName r.username) r

end InMemoryRemeberMeService

open InMemoryRemeberMeService in
/-- The cache takes no null key. -/
def InMemoryRemeberMeService : Store (ExpiringMap String RemeberMe) where
  save _ := put
  update _ := put
  read _ now r m := do return ({ m with now }).get (← nonNullName r.username)
  remove _ username m := .ok (m.remove username)

namespace RedisRemeberMeService

def serviceTicketValiditySeconds : ℕ := TWO_WEEK
def PREFIX : String := "REDIS_REMEBER_ME_SERVICE_"

def key (username : Option String) : String := PREFIX ++ username.getD "null"

def setexObject (faults : JdbcFaults) (now : ℕ) (r : RemeberMe) (m : ExpiringMap String RemeberMe) :
    Except JavaException (ExpiringMap String RemeberMe) := do
  failIf faults.saveRemeberMe (runtime "JedisConnectionException")
  return ({ m with now }).put (serviceTicketValiditySeconds * 1000) (key r.username) r

end RedisRemeberMeService

open RedisRemeberMeService in
/-- A record is written in serialised form and read back the same. -/
def RedisRemeberMeService : Store (ExpiringMap String RemeberMe) where
  save := setexObject
  update := setexObject
  read faults now r m := do
    failIf faults.readRemeberMe (runtime "JedisConnectionException")
    return ({ m with now }).get (key r.username)
  remove faults username m := do
    failIf faults.removeRemeberMe (runtime "JedisConnectionException")
    return m.remove (key (some username))

namespace JdbcRemeberMeService

def rowOf (r : RemeberMe) : Except JavaException RemeberMeRow :=
  match r.id, r.username, r.authKey, r.lastLogin with
  | some id, some username, some authKey, some lastLogin => .ok { id, username, authKey, lastLogin }
  | _, _, _, _ => .error (dataAccess "REMEMBER_ME")

/-- What getDate makes of LASTLOGIN: the day begins at midnight, `offset` milliseconds ahead of
the clock. -/
def getDate (offset t : ℕ) : ℕ := t - (t + offset) % (ONE_DAY * 1000)

def toRemeberMe (offset : ℕ) (row : RemeberMeRow) : RemeberMe :=
  { id := some row.id, username := some row.username, authKey := some row.authKey
    lastLogin := some (getDate offset row.lastLogin) }

def matching (r : RemeberMe) (row : RemeberMeRow) : Bool :=
  some row.id = r.id ∧ some row.username = r.username ∧ some row.authKey = r.authKey

end JdbcRemeberMeService

open JdbcRemeberMeService in
/-- A comparison with a null finds nothing. -/
def JdbcRemeberMeService (offset : ℕ) : Store (KeyedTable RemeberMeRow.id) where
  save faults _ r t := do
    failIf faults.saveRemeberMe (dataAccess "REMEMBER_ME")
    let row ← rowOf r
    (t.insert row).elim (.error (dataAccess "REMEMBER_ME")) .ok
  update faults _ r t := do
    failIf faults.saveRemeberMe (dataAccess "REMEMBER_ME")
    match r.authKey, r.lastLogin with
    | some authKey, some lastLogin =>
      return t.update (fun row => some row.id = r.id) (fun row => { row with authKey, lastLogin })
        fun _ => rfl
    | _, _ => .error (dataAccess "REMEMBER_ME")
  read faults _ r t := do
    failIf faults.readRemeberMe (dataAccess "REMEMBER_ME")
    return (t.select (matching r)).head?.map (toRemeberMe offset)
  remove faults username t := do
    failIf faults.removeRemeberMe (dataAccess "REMEMBER_ME")
    return t.delete fun row => row.username = username

/-- How a record is written into a cookie: as JSON, encrypted, in base64. What is no JSON is read as
a record without any field. -/
structure Codec where
  encode : RemeberMe → String
  decode : String → Except JavaException RemeberMe
  decode_encode : ∀ r, decode (encode r) = .ok r

/-- A request at work: the world, the store, and the cookie that the response carries. -/
structure ServiceState (σ : Type) where
  world : World
  store : σ
  cookie : Option String := none

abbrev Service (σ : Type) := EStateM JavaException (ServiceState σ)

variable {σ : Type}

def web {α : Type} (x : Web α) : Service σ α :=
  focus ServiceState.world (fun world s => { s with world := world }) x

/-- Runs an operation of the store. -/
def persist (f : σ → Except JavaException σ) : Service σ Unit := do
  let store ← orError (f (← get).store)
  modify fun s => { s with store := store }

def addCookie (value : Option String) : Service σ Unit := modify fun s => { s with cookie := value }

/-- Remembers the session's user, where the session asks for it. -/
def createRemeberMe (c : Config) (service : Store σ) (codec : Codec) (request : HttpRequest)
    (authKey id : String) : Service σ Bool := do
  let session ← web getSession
  onlyIf (session.remeberMe.isSome ∧ c.remeberMe) do
    let user ← web (nonNull session.currentUser)
    let r : RemeberMe :=
      { id := some id, username := some user.username, authKey := some authKey
        lastLogin := some request.now }
    persist (service.save request.faults request.now r)
    addCookie (some (codec.encode r))
    web (modifySession fun s => { s with remeberMe := none })
  return true

/-- The record goes on under a new key. -/
def updateRemeberMe (service : Store σ) (codec : Codec) (request : HttpRequest) (authKey : String)
    (r : RemeberMe) : Service σ Bool := do
  let r := { r with authKey := some authKey, lastLogin := some request.now }
  persist (service.update request.faults request.now r)
  addCookie (some (codec.encode r))
  return true

/-- The stored record has not run out; a record without a last login counts from now. -/
def unexpired (validity now : ℕ) (stored : RemeberMe) : Prop :=
  now < stored.lastLogin.getD now + validity * 1000

instance (validity now : ℕ) (stored : RemeberMe) : Decidable (unexpired validity now stored) :=
  inferInstanceAs (Decidable (_ < _))

def login (service : Store σ) (codec : Codec) (validity : ℕ) (request : HttpRequest)
    (authKey remeberMe : String) : Service σ Bool := do
  let cookie ← orError (codec.decode remeberMe)
  let stored ← orError (service.read request.faults request.now cookie (← get).store)
  match stored with
  | none => return false
  | some stored =>
    if unexpired validity request.now stored then
      if ← web (Realm.setAuthentication request stored.username "RemeberMe" "" "" "success") then
        updateRemeberMe service codec request authKey cookie
      else return false
    else return false

def removeRemeberMe (service : Store σ) (request : HttpRequest) : Service σ Bool := do
  addCookie none
  let session ← web getSession
  let user ← web (nonNull session.currentUser)
  persist (service.remove request.faults user.username)
  return true

section Outcomes

variable {s : ServiceState σ}

theorem persist_of_ok {f : σ → Except JavaException σ} {store : σ} (h : f s.store = .ok store) :
    persist f s = .ok () { s with store } := by
  unfold persist
  rw [bind_of_ok (get_apply s), h]
  rfl

theorem persist_of_error {f : σ → Except JavaException σ} {e : JavaException}
    (h : f s.store = .error e) : persist f s = .error e s := by
  unfold persist
  rw [bind_of_ok (get_apply s), h]
  rfl

theorem leaves_persist_world (f : σ → Except JavaException σ) :
    Leaves ServiceState.world (persist f) := by
  apply leaves_bind leaves_get
  intro s
  apply leaves_bind (leaves_orError _)
  intro store
  apply leaves_modify
  exact fun _ => rfl

/-- The stored record that a cookie is good for. -/
def accepted (service : Store σ) (codec : Codec) (validity : ℕ) (request : HttpRequest)
    (remeberMe : String) (store : σ) : Option RemeberMe :=
  match codec.decode remeberMe with
  | .error _ => none
  | .ok cookie =>
    match service.read request.faults request.now cookie store with
    | .ok (some stored) => if unexpired validity request.now stored then some stored else none
    | _ => none

variable {service : Store σ} {codec : Codec} {validity : ℕ} {request : HttpRequest}
  {authKey remeberMe : String}

theorem accepted_eq_some {cookie stored : RemeberMe} {store : σ}
    (hcookie : codec.decode remeberMe = .ok cookie) :
    accepted service codec validity request remeberMe store = some stored ↔
      service.read request.faults request.now cookie store = .ok (some stored) ∧
        unexpired validity request.now stored := by
  unfold accepted
  rw [hcookie]
  simp only
  cases hread : service.read request.faults request.now cookie store with
  | error e => simp
  | ok found =>
    cases found with
    | none => simp
    | some found =>
      simp only [Option.ite_none_right_eq_some, Option.some.injEq, Except.ok.injEq]
      constructor
      · rintro ⟨h, rfl⟩
        exact ⟨rfl, h⟩
      · rintro ⟨rfl, h⟩
        exact ⟨h, rfl⟩

/-- A cookie that is good logs its user in and goes on under a new key. -/
theorem login_of_accepted {stored : RemeberMe}
    (h : accepted service codec validity request remeberMe s.store = some stored) :
    login service codec validity request authKey remeberMe s =
      (web (Realm.setAuthentication request stored.username "RemeberMe" "" "" "success") >>=
        fun b => if b then do
          let cookie ← orError (codec.decode remeberMe)
          updateRemeberMe service codec request authKey cookie
        else pure false) s := by
  cases hcookie : codec.decode remeberMe with
  | error e => simp [accepted, hcookie] at h
  | ok cookie =>
    obtain ⟨hread, hdate⟩ := (accepted_eq_some hcookie).mp h
    unfold login
    rw [hcookie, orError_ok_bind, bind_of_ok (get_apply s), hread, orError_ok_bind]
    exact congrFun (if_pos hdate) s

/-- Any other cookie is refused or throws, and nothing happens. -/
theorem login_of_not_accepted
    (h : accepted service codec validity request remeberMe s.store = none) :
    final (login service codec validity request authKey remeberMe) s = s ∧
      outcome (login service codec validity request authKey remeberMe) s ≠ .ok true := by
  cases hcookie : codec.decode remeberMe with
  | error e =>
    have hthrow : login service codec validity request authKey remeberMe s = .error e s := by
      rw [login, hcookie]
      rfl
    simp [final, outcome, hthrow]
  | ok cookie =>
    have hstart : login service codec validity request authKey remeberMe s =
        (orError (service.read request.faults request.now cookie s.store) >>= fun stored =>
          match stored with
          | none => pure false
          | some stored =>
            if unexpired validity request.now stored then do
              if ← web (Realm.setAuthentication request stored.username "RemeberMe" "" "" "success")
              then updateRemeberMe service codec request authKey cookie
              else return false
            else return false : Service σ Bool) s := by
      rw [login, hcookie, orError_ok_bind, bind_of_ok (get_apply s)]
    cases hread : service.read request.faults request.now cookie s.store with
    | error e =>
      rw [hread] at hstart
      simp [final, outcome, hstart.trans (bind_of_error rfl)]
    | ok found =>
      rw [hread] at hstart
      cases found with
      | none =>
        have hrefuse := hstart.trans (bind_of_ok rfl)
        simp [final, outcome, hrefuse]
      | some stored =>
        have hdate : ¬unexpired validity request.now stored := by
          intro hdate
          rw [(accepted_eq_some hcookie).mpr ⟨hread, hdate⟩] at h
          cases h
        have hrefuse := hstart.trans ((bind_of_ok rfl).trans (congrFun (if_neg hdate) s))
        simp [final, outcome, hrefuse]

end Outcomes

namespace PlainText

/-- A field of a record in the clear: every character is announced, and the end is marked. -/
def writeField : Option (List Char) → List Char
  | none => ['-']
  | some chars => '+' :: (chars.flatMap fun c => ['.', c]) ++ ['!']

def readChars : List Char → Option (List Char × List Char)
  | '.' :: c :: rest => (readChars rest).map fun read => (c :: read.1, read.2)
  | '!' :: rest => some ([], rest)
  | _ => none

def readField : List Char → Option (Option (List Char) × List Char)
  | '-' :: rest => some (none, rest)
  | '+' :: rest => (readChars rest).map fun read => (some read.1, read.2)
  | _ => none

theorem readChars_append (chars rest : List Char) :
    readChars ((chars.flatMap fun c => ['.', c]) ++ '!' :: rest) = some (chars, rest) := by
  induction chars with
  | nil => rfl
  | cons c chars ih =>
    simp only [List.flatMap_cons, List.cons_append, List.nil_append, readChars, ih, Option.map_some]

theorem readField_writeField (field : Option (List Char)) (rest : List Char) :
    readField (writeField field ++ rest) = some (field, rest) := by
  cases field with
  | none => rfl
  | some chars =>
    have hchars := readChars_append chars rest
    simp only [writeField, List.cons_append, List.append_assoc, List.nil_append, readField, hchars,
      Option.map_some]

def write (r : RemeberMe) : List Char :=
  writeField (r.id.map String.toList) ++ writeField (r.username.map String.toList) ++
    writeField (r.authKey.map String.toList) ++ writeField (r.lastLogin.map (Nat.toDigits 10))

def read (text : List Char) : Option RemeberMe := do
  let (id, text) ← readField text
  let (username, text) ← readField text
  let (authKey, text) ← readField text
  let (lastLogin, _) ← readField text
  return { id := id.map String.ofList, username := username.map String.ofList
           authKey := authKey.map String.ofList
           lastLogin := lastLogin.map fun digits => Nat.ofDigitChars 10 digits 0 }

theorem read_write (r : RemeberMe) : read (write r) = some r := by
  have hlast := readField_writeField (r.lastLogin.map (Nat.toDigits 10)) []
  rw [List.append_nil] at hlast
  simp only [read, write, List.append_assoc, readField_writeField, hlast, Option.bind_eq_bind,
    Option.bind_some, Option.map_map, Function.comp_def, String.ofList_toList,
    Nat.ofDigitChars_ten_toDigits, Option.map_id']
  rfl

end PlainText

/-- Records written in the clear. -/
def plainText : Codec where
  encode r := String.ofList (PlainText.write r)
  decode text := .ok ((PlainText.read text.toList).getD {})
  decode_encode r := by simp only [String.toList_ofList, PlainText.read_write, Option.getD_some]

end RemeberMe

end MaxKey
