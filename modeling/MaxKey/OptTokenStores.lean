import MaxKey.Effects
import MaxKey.KeyedTable
import MaxKey.OptToken
import MaxKey.Realm
import MaxKey.Runs

namespace MaxKey.OptTokenStores
open JavaException Effects OptToken
open Function (update)

/-- A store takes what is sent, a drawn id and the time; it is asked for a user's token and type,
with an interval in seconds and the time. -/
structure AbstractOptTokenStore (σ : Type) where
  store : UserInfo → Option String → Option String → String → String → ℕ →
    EStateM JavaException σ Unit
  validate : String → String → String → ℤ → ℕ → EStateM JavaException σ Bool

def InMemoryOptTokenStore : AbstractOptTokenStore OptTokenStore where
  store userInfo token receiver type _ now := modify fun s => OptToken.store s userInfo token receiver type now
  validate username token type interval now := do
    let s ← get
    return OptToken.validate s username token type interval now

def PREFIX : String := "REDIS_OTP_SERVICE_"

/-- Five times ONE_MINUTE, in seconds. -/
def validitySeconds : ℕ := 60 * 5

def redisKey (username type : String) (token : Option String) : String :=
  PREFIX ++ tokenKey username type token

/-- What the server still holds under a key. -/
def getObject (s : OptTokenStore) (key : String) (now : ℕ) : Option CachedOtp :=
  (s key).filter fun entry => now < entry.storedAt + validitySeconds * 1000

/-- An entry is deleted when it is asked for. The interval is not looked at. -/
def RedisOptTokenStore : AbstractOptTokenStore OptTokenStore where
  store userInfo token receiver type _ now := modify fun s =>
    update s (redisKey userInfo.username type token) (some
      { otp := { id := tokenKey userInfo.username type token, type, token
                 username := userInfo.username, receiver, createTime := now / 1000 }
        storedAt := now })
  validate username token type _ now := do
    let s ← get
    modify fun s => update s (redisKey username type (some token)) none
    return (getObject s (redisKey username type (some token)) now).isSome

/-- A row of ONE_TIME_PASSWORD. The creation time is the one that is sent. -/
structure OneTimePasswordRow where
  id : String
  optType : String
  username : String
  token : String
  receiver : Option String
  createTime : ℕ
  status : Int := Realm.ACTIVE
  deriving DecidableEq

abbrev OneTimePasswords := KeyedTable OneTimePasswordRow.id

/-- What the database and its driver do: which rows are taken, which creation time is read out of
the text of the column, and which number a text is sent as. -/
structure Driver where
  takes : OneTimePasswordRow → Bool
  createTime : ℕ → Except JavaException ℕ
  number : String → Option ℤ

def incorrectResultSize : JavaException := dataAccess "Incorrect result size"

/-- The single row of a query; it fails for none and for several. -/
def queryForObject (rows : List OneTimePasswordRow) : Except JavaException OneTimePasswordRow :=
  match rows with
  | [row] => .ok row
  | _ => .error incorrectResultSize

/-- The active rows of a user's token and type. -/
def activeRows (username token type : String) (t : OneTimePasswords) : List OneTimePasswordRow :=
  t.select fun row => row.status = Realm.ACTIVE && row.username = username && row.token = token &&
    row.optType = type

def OneTimePasswordRow.delete (row : OneTimePasswordRow) : OneTimePasswordRow :=
  { row with status := 9 }

theorem id_delete (row : OneTimePasswordRow) : row.delete.id = row.id := rfl

/-- The type goes into this statement as a number. -/
def deleteRows (driver : Driver) (username token : String) (number : ℤ) (t : OneTimePasswords) :
    OneTimePasswords :=
  t.update (fun row => row.username = username && row.token = token &&
    driver.number row.optType = some number) OneTimePasswordRow.delete id_delete

/-- The full seconds between two times, as the text of them is read as an int. -/
def standardSeconds (created now : ℕ) : Except JavaException ℤ :=
  let seconds := ((now : ℤ) - created).tdiv 1000
  if -2147483648 ≤ seconds ∧ seconds ≤ 2147483647 then .ok seconds else .error numberFormat

def JdbcOptTokenStore (driver : Driver) : AbstractOptTokenStore OneTimePasswords where
  store userInfo token receiver type id now := do
    let token ← orThrow (dataAccess "ONE_TIME_PASSWORD") token
    let row : OneTimePasswordRow :=
      { id, optType := type, username := userInfo.username, token, receiver, createTime := now }
    let t ← get
    let inserted ← orThrow (dataAccess "ONE_TIME_PASSWORD")
      ((t.insert row).filter fun _ => driver.takes row)
    set inserted
  validate username token type interval now := do
    let t ← get
    let row ← orError (queryForObject (activeRows username token type t))
    let number ← orThrow (dataAccess "ONE_TIME_PASSWORD") (driver.number type)
    modify (deleteRows driver username token number)
    let created ← orError (driver.createTime row.createTime)
    let seconds ← orError (standardSeconds created now)
    return seconds ≤ interval

/-- What a user is asked for. -/
structure Code where
  username : String
  type : String
  token : String
  deriving DecidableEq

inductive Call
  | store (userInfo : UserInfo) (token receiver : Option String) (type id : String) (now : ℕ)
  | validate (username token type : String) (interval : ℤ) (now : ℕ)

variable {σ : Type}

/-- A store with what has been stored and when, and what has been accepted and not stored since. -/
structure Watch (σ : Type) where
  state : σ
  history : List (Code × ℕ) := []
  used : List Code := []

def step (api : AbstractOptTokenStore σ) (s : Watch σ) : Call → Watch σ
  | .store userInfo token receiver type id now =>
    let run := api.store userInfo token receiver type id now
    let stored := if (outcome run s.state).isOk then
      (token.map fun token => (⟨userInfo.username, type, token⟩ : Code)).toList else []
    { state := final run s.state
      history := stored.map (fun code => (code, now)) ++ s.history
      used := s.used.filter (· ∉ stored) }
  | .validate username token type interval now =>
    let run := api.validate username token type interval now
    { s with
      state := final run s.state
      used := if outcome run s.state = .ok true then ⟨username, type, token⟩ :: s.used else s.used }

/-- An accepted token is answered with false until it is stored again. -/
def AcceptedOnce (api : AbstractOptTokenStore σ) (s : Watch σ) : Call → Prop
  | .store .. => True
  | .validate username token type interval now => ⟨username, type, token⟩ ∈ s.used →
    outcome (api.validate username token type interval now) s.state = .ok false

/-- The token has been stored for the user and the type, at most so many seconds ago. -/
def Fresh (s : Watch σ) (code : Code) (interval : ℤ) (now : ℕ) : Prop :=
  ∃ stored, (code, stored) ∈ s.history ∧ (now : ℤ) - stored ≤ interval * 1000

/-- Only what is fresh is accepted, and what is not fresh is answered with false. -/
def Trustworthy (api : AbstractOptTokenStore σ) (s : Watch σ) : Call → Prop
  | .store .. => True
  | .validate username token type interval now =>
    let answer := outcome (api.validate username token type interval now) s.state
    (answer = .ok true → Fresh s ⟨username, type, token⟩ interval now) ∧
      (¬Fresh s ⟨username, type, token⟩ interval now → answer = .ok false)

/-- The code that an entry has been stored for, where its token is not null. -/
def codeOf (entry : CachedOtp) : Option Code :=
  entry.otp.token.map fun token => ⟨entry.otp.username, entry.otp.type, token⟩

/-- An entry of the very code, no older than the interval. -/
def Fits (code : Code) (interval : ℤ) (now : ℕ) (entry : CachedOtp) : Prop :=
  codeOf entry = some code ∧ (now : ℤ) - entry.storedAt ≤ interval * 1000

/-- What an entry says has been stored when it says. -/
def Recorded (s : Watch OptTokenStore) : Prop :=
  ∀ key entry code, s.state key = some entry → codeOf entry = some code →
    (code, entry.storedAt) ∈ s.history

theorem fresh_of_fits {s : Watch OptTokenStore} {key : String} {entry : CachedOtp} {code : Code}
    {interval : ℤ} {now : ℕ} (h : Recorded s) (hentry : s.state key = some entry)
    (hfits : Fits code interval now entry) : Fresh s code interval now :=
  ⟨entry.storedAt, h key entry code hentry hfits.1, hfits.2⟩

section Caches

variable {s t : Watch OptTokenStore} {key : String} {entry : CachedOtp} {code : Code}

theorem Recorded.put (h : Recorded s) (hstate : t.state = update s.state key (some entry))
    (hhistory : t.history = (codeOf entry).toList.map (fun code => (code, entry.storedAt)) ++ s.history) :
    Recorded t := by
  intro k e c hentry hcode
  rw [hhistory, List.mem_append]
  rw [hstate, Function.update_apply] at hentry
  split_ifs at hentry
  · left
    rw [← Option.some.inj hentry] at hcode ⊢
    rw [hcode]
    exact List.mem_singleton_self _
  · exact .inr (h k e c hentry hcode)

theorem Recorded.remove (h : Recorded s) (hstate : t.state = update s.state key none)
    (hhistory : t.history = s.history) : Recorded t := by
  intro k e c hentry hcode
  rw [hhistory]
  rw [hstate, Function.update_apply] at hentry
  split_ifs at hentry
  exact h k e c hentry hcode

end Caches

section InMemory

/-- An accepted token comes back when its entry has gone or is too old. -/
def ComesLate (s : Watch OptTokenStore) : Call → Prop
  | .store .. => True
  | .validate username token type interval now => ⟨username, type, token⟩ ∈ s.used →
    ∀ otp ∈ lookup s.state (tokenKey username type (some token)) now,
      interval < ((now : ℤ) - otp.createTime * 1000).tdiv 1000

/-- An entry that lives and is not too old in full seconds is the right one, and not too old. -/
def FindsFitting (s : Watch OptTokenStore) : Call → Prop
  | .store .. => True
  | .validate username token type interval now =>
    ∀ entry, s.state (tokenKey username type (some token)) = some entry →
      now < entry.storedAt + TIME_TO_LIVE →
      ((now : ℤ) - entry.otp.createTime * 1000).tdiv 1000 ≤ interval →
      Fits ⟨username, type, token⟩ interval now entry

variable {s : Watch OptTokenStore} {username token type : String} {interval : ℤ} {now : ℕ}

theorem outcome_validate_inMemory (s : OptTokenStore) :
    outcome (InMemoryOptTokenStore.validate username token type interval now) s =
      .ok (OptToken.validate s username token type interval now) := rfl

theorem validate_eq_false {s : OptTokenStore} :
    OptToken.validate s username token type interval now = false ↔
      ∀ otp ∈ lookup s (tokenKey username type (some token)) now,
        interval < ((now : ℤ) - otp.createTime * 1000).tdiv 1000 := by
  unfold OptToken.validate
  cases lookup s (tokenKey username type (some token)) now with
  | none => simp
  | some otp => simp

theorem lookup_eq_some {s : OptTokenStore} {key : String} {otp : OneTimePassword} :
    lookup s key now = some otp ↔
      ∃ entry, s key = some entry ∧ now < entry.storedAt + TIME_TO_LIVE ∧ entry.otp = otp := by
  unfold lookup
  cases s key with
  | none => simp
  | some entry => simp

theorem acceptedOnce_inMemory (s : Watch OptTokenStore) (c : Call) :
    AcceptedOnce InMemoryOptTokenStore s c ↔ ComesLate s c := by
  cases c with
  | store => exact Iff.rfl
  | validate username token type interval now =>
    refine imp_congr_right fun _ => ?_
    rw [outcome_validate_inMemory, Except.ok.injEq, validate_eq_false]

/-- What an accepted token was found under. -/
theorem entry_of_validate {s : OptTokenStore}
    (h : OptToken.validate s username token type interval now = true) :
    ∃ entry, s (tokenKey username type (some token)) = some entry ∧
      now < entry.storedAt + TIME_TO_LIVE ∧
        ((now : ℤ) - entry.otp.createTime * 1000).tdiv 1000 ≤ interval := by
  by_contra hnone
  have hfalse : OptToken.validate s username token type interval now = false := by
    rw [validate_eq_false]
    intro otp hotp
    rw [Option.mem_def, lookup_eq_some] at hotp
    obtain ⟨entry, hentry, hlive, rfl⟩ := hotp
    by_contra hage
    exact hnone ⟨entry, hentry, hlive, Int.not_lt.mp hage⟩
  rw [hfalse] at h
  cases h

theorem recorded_inMemory (h : Recorded s) (c : Call) :
    Recorded (step InMemoryOptTokenStore s c) := by
  cases c with
  | store userInfo token receiver type id now =>
    have hstate : (step InMemoryOptTokenStore s (.store userInfo token receiver type id now)).state =
        update s.state (tokenKey userInfo.username type token) (some _) := rfl
    apply h.put hstate
    rfl
  | validate username token type interval now => exact h

theorem trustworthy_inMemory (h : Recorded s) (c : Call) (hc : FindsFitting s c) :
    Trustworthy InMemoryOptTokenStore s c := by
  cases c with
  | store => trivial
  | validate username token type interval now =>
    have haccepted : OptToken.validate s.state username token type interval now = true →
        Fresh s ⟨username, type, token⟩ interval now := by
      intro htrue
      obtain ⟨entry, hentry, hlive, hage⟩ := entry_of_validate htrue
      exact fresh_of_fits h hentry (hc entry hentry hlive hage)
    refine ⟨fun hok => haccepted (Except.ok.inj hok), fun hstale => ?_⟩
    rw [outcome_validate_inMemory]
    cases hanswer : OptToken.validate s.state username token type interval now with
    | true => exact absurd (haccepted hanswer) hstale
    | false => rfl

end InMemory

section Redis

/-- What an accepted token finds under its key has not been put there for another code. -/
def FindsOwn (s : Watch OptTokenStore) : Call → Prop
  | .store .. => True
  | .validate username token type _ now => ⟨username, type, token⟩ ∈ s.used →
    ∀ entry ∈ getObject s.state (redisKey username type (some token)) now,
      codeOf entry = some ⟨username, type, token⟩

/-- What is found under a key has been put there for the very code, within the interval. -/
def FindsYoung (s : Watch OptTokenStore) : Call → Prop
  | .store .. => True
  | .validate username token type interval now =>
    ∀ entry ∈ getObject s.state (redisKey username type (some token)) now,
      Fits ⟨username, type, token⟩ interval now entry

/-- Entries stand under the keys of their codes, and those of accepted codes are gone. -/
structure Deposited (s : Watch OptTokenStore) : Prop where
  recorded : Recorded s
  keyed : ∀ key entry code, s.state key = some entry → codeOf entry = some code →
    key = redisKey code.username code.type (some code.token)
  unused : ∀ key entry code, s.state key = some entry → codeOf entry = some code → code ∉ s.used

variable {s : Watch OptTokenStore} {username token type : String} {interval : ℤ} {now : ℕ}

theorem outcome_validate_redis (s : OptTokenStore) :
    outcome (RedisOptTokenStore.validate username token type interval now) s =
      .ok (getObject s (redisKey username type (some token)) now).isSome := rfl

theorem state_of_getObject {s : OptTokenStore} {key : String} {entry : CachedOtp}
    (h : entry ∈ getObject s key now) : s key = some entry :=
  Option.eq_some_of_filter_eq_some h

theorem deposited_redis (h : Deposited s) (c : Call) : Deposited (step RedisOptTokenStore s c) := by
  cases c with
  | store userInfo token receiver type id now =>
    let entry : CachedOtp :=
      { otp := { id := tokenKey userInfo.username type token, type, token
                 username := userInfo.username, receiver, createTime := now / 1000 }
        storedAt := now }
    have hstate : (step RedisOptTokenStore s (.store userInfo token receiver type id now)).state =
        update s.state (redisKey userInfo.username type token) (some entry) := rfl
    -- a code that is stored again is no longer one that was accepted
    have hused : ∀ code, code ∈ (step RedisOptTokenStore s
        (.store userInfo token receiver type id now)).used ↔
          code ∈ s.used ∧ code ∉ (codeOf entry).toList := by
      intro code
      show code ∈ s.used.filter (· ∉ (codeOf entry).toList) ↔ _
      rw [List.mem_filter, decide_eq_true_iff]
    constructor
    · exact h.recorded.put hstate rfl
    · intro k e code hentry hcode
      rw [hstate, Function.update_apply] at hentry
      split_ifs at hentry with hk
      · rw [← Option.some.inj hentry] at hcode
        obtain ⟨x, hx, rfl⟩ := Option.map_eq_some_iff.mp hcode
        rw [hk]
        exact congrArg (redisKey userInfo.username type) hx
      · exact h.keyed k e code hentry hcode
    · intro k e code hentry hcode hmem
      rw [hused] at hmem
      rw [hstate, Function.update_apply] at hentry
      split_ifs at hentry
      · rw [← Option.some.inj hentry] at hcode
        exact hmem.2 (Option.mem_toList.mpr hcode)
      · exact h.unused k e code hentry hcode hmem.1
  | validate username token type interval now =>
    have hstate : (step RedisOptTokenStore s (.validate username token type interval now)).state =
        update s.state (redisKey username type (some token)) none := rfl
    constructor
    · exact h.recorded.remove hstate rfl
    · intro k e code hentry hcode
      rw [hstate, Function.update_apply] at hentry
      split_ifs at hentry
      exact h.keyed k e code hentry hcode
    · intro k e code hentry hcode hmem
      rw [hstate, Function.update_apply] at hentry
      split_ifs at hentry with hk
      have hkey := h.keyed k e code hentry hcode
      have hunused := h.unused k e code hentry hcode
      -- the key of the code that has just been accepted is empty
      simp only [step] at hmem
      split_ifs at hmem
      · rcases List.mem_cons.mp hmem with rfl | hold
        · exact hk hkey
        · exact hunused hold
      · exact hunused hmem

theorem acceptedOnce_redis (h : Deposited s) (c : Call) :
    AcceptedOnce RedisOptTokenStore s c ↔ FindsOwn s c := by
  cases c with
  | store => exact Iff.rfl
  | validate username token type interval now =>
    refine imp_congr_right fun hused => ?_
    rw [outcome_validate_redis, Except.ok.injEq, Option.isSome_eq_false_iff, Option.isNone_iff_eq_none]
    constructor
    · intro hnone entry hentry
      rw [hnone] at hentry
      cases hentry
    -- an entry under the key of an accepted code would be of another code
    · intro hown
      by_contra hsome
      obtain ⟨entry, hentry⟩ := Option.ne_none_iff_exists'.mp hsome
      exact h.unused _ entry _ (state_of_getObject hentry) (hown entry hentry) hused

theorem trustworthy_redis (h : Recorded s) (c : Call) (hc : FindsYoung s c) :
    Trustworthy RedisOptTokenStore s c := by
  cases c with
  | store => trivial
  | validate username token type interval now =>
    have haccepted : ∀ entry ∈ getObject s.state (redisKey username type (some token)) now,
        Fresh s ⟨username, type, token⟩ interval now := by
      intro entry hentry
      exact fresh_of_fits h (state_of_getObject hentry) (hc entry hentry)
    refine ⟨fun hok => ?_, fun hstale => ?_⟩
    · obtain ⟨entry, hentry⟩ := Option.isSome_iff_exists.mp (Except.ok.inj hok)
      exact haccepted entry hentry
    · rw [outcome_validate_redis, Except.ok.injEq, Option.isSome_eq_false_iff,
        Option.isNone_iff_eq_none]
      by_contra hsome
      obtain ⟨entry, hentry⟩ := Option.ne_none_iff_exists'.mp hsome
      exact hstale (haccepted entry hentry)

end Redis

section Jdbc

/-- An accepted token does not come back before it is stored again. -/
def StaysAway (s : Watch OneTimePasswords) : Call → Prop
  | .store .. => True
  | .validate username token type _ _ => ⟨username, type, token⟩ ∉ s.used

/-- There is one active row, the type is a number, the age can be told, and what is not too old in
full seconds is not too old. -/
def FindsOne (driver : Driver) (s : Watch OneTimePasswords) : Call → Prop
  | .store .. => True
  | .validate username token type interval now =>
    ∃ row number created seconds, activeRows username token type s.state = [row] ∧
      driver.number type = some number ∧ driver.createTime row.createTime = .ok created ∧
      standardSeconds created now = .ok seconds ∧
      (seconds ≤ interval → (now : ℤ) - row.createTime ≤ interval * 1000)

def OneTimePasswordRow.code (row : OneTimePasswordRow) : Code := ⟨row.username, row.optType, row.token⟩

/-- Rows have been stored when they say, and none is active for an accepted code. -/
structure Entered (s : Watch OneTimePasswords) : Prop where
  recorded : ∀ row ∈ s.state.rows, (row.code, row.createTime) ∈ s.history
  spent : ∀ code ∈ s.used, ∀ row ∈ s.state.rows, row.code = code → row.status ≠ Realm.ACTIVE

variable {driver : Driver} {s : Watch OneTimePasswords} {t t' : OneTimePasswords}
  {username token type : String} {interval : ℤ} {now : ℕ} {row : OneTimePasswordRow}

theorem mem_activeRows : row ∈ activeRows username token type t ↔
    row ∈ t.rows ∧ row.status = Realm.ACTIVE ∧ row.code = ⟨username, type, token⟩ := by
  simp only [activeRows, OneTimePasswordRow.code, KeyedTable.mem_select, Bool.and_eq_true,
    decide_eq_true_eq, Code.mk.injEq]
  tauto

/-- What the age of a row says. -/
def judged (driver : Driver) (interval : ℤ) (now : ℕ) (row : OneTimePasswordRow) :
    Except JavaException Bool := do
  let created ← driver.createTime row.createTime
  let seconds ← standardSeconds created now
  return seconds ≤ interval

theorem judged_of_ok {created : ℕ} {seconds : ℤ}
    (hcreated : driver.createTime row.createTime = .ok created)
    (hseconds : standardSeconds created now = .ok seconds) :
    judged driver interval now row = .ok (decide (seconds ≤ interval)) := by
  unfold judged
  rw [hcreated]
  change (standardSeconds created now >>= fun seconds => _) = _
  rw [hseconds]
  rfl

/-- A single row of a known number is deleted, and its age decides. -/
theorem validate_of_row (hrow : activeRows username token type t = [row]) {number : ℤ}
    (hnumber : driver.number type = some number) :
    (JdbcOptTokenStore driver).validate username token type interval now t =
      (orError (judged driver interval now row) : EStateM JavaException OneTimePasswords Bool)
        (deleteRows driver username token number t) := by
  have hjudged : (orError (judged driver interval now row) :
      EStateM JavaException OneTimePasswords Bool) = (do
        let created ← orError (driver.createTime row.createTime)
        let seconds ← orError (standardSeconds created now)
        return seconds ≤ interval) := by
    unfold judged
    rw [orError_bind]
    refine congrArg _ (funext fun created => ?_)
    rw [orError_bind]
    rfl
  rw [hjudged]
  unfold JdbcOptTokenStore
  dsimp only
  rw [bind_of_ok (get_apply t), hrow]
  unfold queryForObject
  dsimp only
  rw [orError_ok_bind, hnumber, orThrow_some_bind, bind_of_ok (modify_apply _ t)]

theorem validate_of_no_row (h : ∀ row, activeRows username token type t ≠ [row]) :
    (JdbcOptTokenStore driver).validate username token type interval now t =
      .error incorrectResultSize t := by
  have hquery : queryForObject (activeRows username token type t) = .error incorrectResultSize := by
    unfold queryForObject
    split
    · exact absurd ‹_› (h _)
    · rfl
  unfold JdbcOptTokenStore
  dsimp only
  rw [bind_of_ok (get_apply t), hquery]
  rfl

theorem validate_of_no_number (hrow : activeRows username token type t = [row])
    (hnumber : driver.number type = none) :
    (JdbcOptTokenStore driver).validate username token type interval now t =
      .error (dataAccess "ONE_TIME_PASSWORD") t := by
  unfold JdbcOptTokenStore
  dsimp only
  rw [bind_of_ok (get_apply t), hrow]
  unfold queryForObject
  dsimp only
  rw [orError_ok_bind, hnumber]
  rfl

/-- A validation fails on the rows as they are, or deletes those of the code. -/
theorem validate_cases (driver : Driver) (username token type : String) (interval : ℤ) (now : ℕ)
    (t : OneTimePasswords) :
    (∃ e, (JdbcOptTokenStore driver).validate username token type interval now t = .error e t) ∨
      ∃ row number, driver.number type = some number ∧
        (JdbcOptTokenStore driver).validate username token type interval now t =
          (orError (judged driver interval now row) : EStateM JavaException OneTimePasswords Bool)
            (deleteRows driver username token number t) := by
  -- the query takes a single row, and no other number of them
  by_cases h : ∃ row, activeRows username token type t = [row]
  · obtain ⟨row, hrow⟩ := h
    cases hnumber : driver.number type with
    | none => exact .inl ⟨_, validate_of_no_number hrow hnumber⟩
    | some number => exact .inr ⟨row, number, rfl, validate_of_row hrow hnumber⟩
  · exact .inl ⟨_, validate_of_no_row (not_exists.mp h)⟩

theorem final_orError {α : Type} (r : Except JavaException α) (t : OneTimePasswords) :
    final (orError r : EStateM JavaException OneTimePasswords α) t = t :=
  leaves_orError (g := id) r t

/-- What is deleted was there, and is a row of the code no longer. -/
theorem mem_deleteRows {number : ℤ} {driver : Driver} :
    row ∈ (deleteRows driver username token number t).rows ↔
      ∃ old ∈ t.rows, (if old.username = username ∧ old.token = token ∧
        driver.number old.optType = some number then old.delete else old) = row := by
  rw [deleteRows, KeyedTable.mem_update]
  simp only [Bool.and_eq_true, decide_eq_true_eq, and_assoc]

theorem status_delete (row : OneTimePasswordRow) : row.delete.status ≠ Realm.ACTIVE := by
  change (9 : ℤ) ≠ 1
  decide

theorem recorded_deleteRows {history : List (Code × ℕ)} {number : ℤ}
    (h : ∀ row ∈ t.rows, (row.code, row.createTime) ∈ history) :
    ∀ row ∈ (deleteRows driver username token number t).rows,
      (row.code, row.createTime) ∈ history := by
  intro row hrow
  obtain ⟨old, hold, rfl⟩ := mem_deleteRows.mp hrow
  split_ifs
  · exact h old hold
  · exact h old hold

theorem spent_deleteRows {code : Code} {number : ℤ}
    (h : ∀ row ∈ t.rows, row.code = code → row.status ≠ Realm.ACTIVE) :
    ∀ row ∈ (deleteRows driver username token number t).rows,
      row.code = code → row.status ≠ Realm.ACTIVE := by
  intro row hrow hcode
  obtain ⟨old, hold, rfl⟩ := mem_deleteRows.mp hrow
  -- a row that the statement meets is inactive now, any other is as it was
  split_ifs at hcode ⊢
  · exact status_delete old
  · exact h old hold hcode

/-- No row of the code is active once its rows are deleted. -/
theorem deleteRows_spends {number : ℤ} (hnumber : driver.number type = some number) :
    ∀ row ∈ (deleteRows driver username token number t).rows,
      row.code = ⟨username, type, token⟩ → row.status ≠ Realm.ACTIVE := by
  intro row hrow hcode
  obtain ⟨old, hold, rfl⟩ := mem_deleteRows.mp hrow
  split_ifs at hcode ⊢ with hmatch
  · exact status_delete old
  -- a row of the code has its number, so that the statement meets it
  · obtain ⟨rfl, rfl, rfl⟩ := Code.mk.inj hcode
    exact absurd ⟨rfl, rfl, hnumber⟩ hmatch

/-- A row goes in, or the store fails and nothing changes. -/
theorem store_cases (driver : Driver) (userInfo : UserInfo) (token receiver : Option String)
    (type id : String) (now : ℕ) (t : OneTimePasswords) :
    (∃ e, (JdbcOptTokenStore driver).store userInfo token receiver type id now t = .error e t) ∨
      ∃ x t', token = some x ∧
        (JdbcOptTokenStore driver).store userInfo token receiver type id now t = .ok () t' ∧
        t'.rows = t.rows ++ [⟨id, type, userInfo.username, x, receiver, now, Realm.ACTIVE⟩] := by
  unfold JdbcOptTokenStore
  dsimp only
  cases token with
  | none => exact .inl ⟨_, rfl⟩
  | some x =>
    rw [orThrow_some_bind, bind_of_ok (get_apply t)]
    let row : OneTimePasswordRow := ⟨id, type, userInfo.username, x, receiver, now, Realm.ACTIVE⟩
    cases hinsert : (t.insert row).filter fun _ => driver.takes row with
    | none => exact .inl ⟨_, rfl⟩
    | some t' =>
      have hsome : t.insert row = some t' := Option.eq_some_of_filter_eq_some hinsert
      exact .inr ⟨x, t', rfl, rfl, KeyedTable.rows_insert hsome⟩

theorem entered_of_error {run : EStateM JavaException OneTimePasswords Unit} {e : JavaException}
    (h : run t = .error e t) : final run t = t ∧ (outcome run t).isOk = false := by
  unfold final outcome
  rw [h]
  exact ⟨rfl, rfl⟩

theorem entered_store (h : Entered s) (userInfo : UserInfo) (token receiver : Option String)
    (type id : String) (now : ℕ) :
    Entered (step (JdbcOptTokenStore driver) s (.store userInfo token receiver type id now)) := by
  rcases store_cases driver userInfo token receiver type id now s.state with
    ⟨e, hrun⟩ | ⟨x, t', rfl, hrun, hrows⟩
  · obtain ⟨hfinal, hfails⟩ := entered_of_error hrun
    constructor
    · simpa [step, hfinal, hfails] using h.recorded
    · simpa [step, hfinal, hfails] using h.spent
  · have hfinal : final ((JdbcOptTokenStore driver).store userInfo (some x) receiver type id now)
        s.state = t' := final_of_ok hrun
    have hok : (outcome ((JdbcOptTokenStore driver).store userInfo (some x) receiver type id now)
        s.state).isOk = true := by
      unfold outcome
      rw [hrun]
      rfl
    constructor
    · intro row hrow
      simp only [step, hfinal, hok, if_true, hrows, Option.map_some, Option.toList_some,
        List.map_cons, List.map_nil, List.mem_append, List.mem_singleton] at hrow ⊢
      rcases hrow with hold | rfl
      · exact .inr (h.recorded row hold)
      · exact .inl rfl
    -- the row that goes in is of the code that is stored, and that is accepted no longer
    · intro code hcode row hrow heq
      simp only [step, hfinal, hok, if_true, hrows, Option.map_some, Option.toList_some,
        List.mem_append, List.mem_singleton, List.mem_filter, decide_eq_true_eq] at hcode hrow
      rcases hrow with hold | rfl
      · exact h.spent code hcode.1 row hold heq
      · exact absurd heq.symm hcode.2

theorem entered_validate (h : Entered s) (username token type : String) (interval : ℤ) (now : ℕ) :
    Entered (step (JdbcOptTokenStore driver) s (.validate username token type interval now)) := by
  rcases validate_cases driver username token type interval now s.state with
    ⟨e, hrun⟩ | ⟨row, number, hnumber, hrun⟩
  · have hfinal : final ((JdbcOptTokenStore driver).validate username token type interval now)
        s.state = s.state := final_of_error hrun
    have hnot : outcome ((JdbcOptTokenStore driver).validate username token type interval now)
        s.state ≠ .ok true := by
      unfold outcome
      rw [hrun]
      exact nofun
    constructor
    · simpa [step, hfinal, hnot] using h.recorded
    · simpa [step, hfinal, hnot] using h.spent
  · have hfinal : final ((JdbcOptTokenStore driver).validate username token type interval now)
        s.state = deleteRows driver username token number s.state := by
      rw [← final_orError (judged driver interval now row) (deleteRows _ _ _ _ _)]
      unfold final
      rw [hrun]
    constructor
    · simp only [step, hfinal]
      exact recorded_deleteRows h.recorded
    -- the codes accepted before stay spent, and the one accepted now has lost its rows
    · intro code hcode
      simp only [step, hfinal] at hcode ⊢
      split_ifs at hcode
      · rcases List.mem_cons.mp hcode with rfl | hold
        · exact deleteRows_spends hnumber
        · exact spent_deleteRows (h.spent code hold)
      · exact spent_deleteRows (h.spent code hcode)

theorem entered_jdbc (h : Entered s) (c : Call) : Entered (step (JdbcOptTokenStore driver) s c) := by
  cases c with
  | store userInfo token receiver type id now => exact entered_store h userInfo token receiver type id now
  | validate username token type interval now =>
    exact entered_validate h username token type interval now

/-- A token that has been accepted is not found any more, and that raises an exception. -/
theorem acceptedOnce_jdbc (driver : Driver) (h : Entered s) (c : Call) :
    AcceptedOnce (JdbcOptTokenStore driver) s c ↔ StaysAway s c := by
  cases c with
  | store => exact Iff.rfl
  | validate username token type interval now =>
    constructor
    · intro hfalse hused
      have hnone : ∀ row, activeRows username token type s.state ≠ [row] := by
        intro row hrow
        have hmem : row ∈ activeRows username token type s.state := by
          rw [hrow]
          exact List.mem_singleton_self row
        obtain ⟨hrows, hactive, hcode⟩ := mem_activeRows.mp hmem
        exact h.spent _ hused row hrows hcode hactive
      have hanswer := hfalse hused
      unfold outcome at hanswer
      rw [validate_of_no_row hnone] at hanswer
      cases hanswer
    · intro haway hused
      exact absurd hused haway

theorem trustworthy_jdbc (driver : Driver) (h : Entered s) (c : Call) (hc : FindsOne driver s c) :
    Trustworthy (JdbcOptTokenStore driver) s c := by
  cases c with
  | store => trivial
  | validate username token type interval now =>
    obtain ⟨row, number, created, seconds, hrow, hnumber, hcreated, hseconds, hage⟩ := hc
    have hmem : row ∈ activeRows username token type s.state := by
      rw [hrow]
      exact List.mem_singleton_self row
    obtain ⟨hrows, -, hcode⟩ := mem_activeRows.mp hmem
    have hanswer : outcome ((JdbcOptTokenStore driver).validate username token type interval now)
        s.state = .ok (decide (seconds ≤ interval)) := by
      unfold outcome
      rw [validate_of_row hrow hnumber, judged_of_ok hcreated hseconds]
      rfl
    have hfresh : seconds ≤ interval → Fresh s ⟨username, type, token⟩ interval now := by
      intro hle
      refine ⟨row.createTime, ?_, hage hle⟩
      rw [← hcode]
      exact h.recorded row hrows
    refine ⟨fun hok => ?_, fun hstale => ?_⟩
    · rw [hanswer] at hok
      exact hfresh (of_decide_eq_true (Except.ok.inj hok))
    · rw [hanswer, Except.ok.injEq, decide_eq_false_iff_not]
      exact fun hle => hstale (hfresh hle)

end Jdbc

/-! ## Runs of the three stores -/

def emptyCache : Watch OptTokenStore := { state := fun _ => none }

def emptyTable : Watch OneTimePasswords := { state := KeyedTable.empty }

theorem recorded_empty : Recorded emptyCache := by
  intro key entry code hentry
  cases hentry

theorem deposited_empty : Deposited emptyCache where
  recorded := recorded_empty
  keyed _ _ _ hentry := by cases hentry
  unused _ _ _ hentry := by cases hentry

theorem entered_empty : Entered emptyTable where
  recorded _ hrow := by cases hrow
  spent _ hcode := by cases hcode

/-- A stored token is accepted once and answered with false ever after, in any of the stores,
exactly along the runs in which: for the first, an accepted token comes back too late; for the
second, it does not find what was put for another code; for the third, it does not come back. -/
theorem accepted_once_iff (driver : Driver) (calls : List Call) :
    (Runs.Meets (step InMemoryOptTokenStore) (AcceptedOnce InMemoryOptTokenStore) emptyCache calls ↔
      Runs.Meets (step InMemoryOptTokenStore) ComesLate emptyCache calls) ∧
    (Runs.Meets (step RedisOptTokenStore) (AcceptedOnce RedisOptTokenStore) emptyCache calls ↔
      Runs.Meets (step RedisOptTokenStore) FindsOwn emptyCache calls) ∧
    (Runs.Meets (step (JdbcOptTokenStore driver)) (AcceptedOnce (JdbcOptTokenStore driver))
        emptyTable calls ↔
      Runs.Meets (step (JdbcOptTokenStore driver)) StaysAway emptyTable calls) := by
  refine ⟨?_, ?_, ?_⟩
  · apply Runs.meets_congr (I := fun _ => True)
    · exact fun _ _ _ _ => trivial
    · exact fun s c _ _ => acceptedOnce_inMemory s c
    · trivial
  · apply Runs.meets_congr (I := Deposited)
    · exact fun s c _ hs => deposited_redis hs c
    · exact fun s c _ hs => acceptedOnce_redis hs c
    · exact deposited_empty
  · apply Runs.meets_congr (I := Entered)
    · exact fun s c _ hs => entered_jdbc hs c
    · exact fun s c _ hs => acceptedOnce_jdbc driver hs c
    · exact entered_empty

def ann : UserInfo := { id := "1", username := "ann" }

/-- The cache accepts the same code twice. -/
theorem accepted_twice :
    ¬ ∀ calls, Runs.Meets (step InMemoryOptTokenStore) (AcceptedOnce InMemoryOptTokenStore)
      emptyCache calls := by
  intro h
  let calls : List Call := [.store ann (some "123456") none "EMAIL" "" 0,
    .validate "ann" "123456" "EMAIL" 300 1000]
  have hrun := h (calls ++ [.validate "ann" "123456" "EMAIL" 300 2000])
  rw [Runs.meets_append] at hrun
  have hused : (⟨"ann", "EMAIL", "123456"⟩ : Code) ∈
      (Runs.exec (step InMemoryOptTokenStore) emptyCache calls).used := by decide +kernel
  have hagain : outcome (InMemoryOptTokenStore.validate "ann" "123456" "EMAIL" 300 2000)
      (Runs.exec (step InMemoryOptTokenStore) emptyCache calls).state = .ok true := by
    decide +kernel
  have hanswer := hrun.2.1 hused
  rw [hagain] at hanswer
  cases hanswer

/-- Each store accepts only what is fresh, and answers false to the rest, along every run in which:
for the first, an entry that is not too old in full seconds is of the very code and not too old; for
the second, the entry found is; for the third, there is one row, of a known type and age. -/
theorem trustworthy_runs (driver : Driver) (calls : List Call) :
    (Runs.Meets (step InMemoryOptTokenStore) FindsFitting emptyCache calls →
      Runs.Meets (step InMemoryOptTokenStore) (Trustworthy InMemoryOptTokenStore) emptyCache calls) ∧
    (Runs.Meets (step RedisOptTokenStore) FindsYoung emptyCache calls →
      Runs.Meets (step RedisOptTokenStore) (Trustworthy RedisOptTokenStore) emptyCache calls) ∧
    (Runs.Meets (step (JdbcOptTokenStore driver)) (FindsOne driver) emptyTable calls →
      Runs.Meets (step (JdbcOptTokenStore driver)) (Trustworthy (JdbcOptTokenStore driver))
        emptyTable calls) := by
  refine ⟨fun h => ?_, fun h => ?_, fun h => ?_⟩
  · apply Runs.meets_of_invariant (I := Recorded) _ _ h recorded_empty
    · exact fun s c _ hs => recorded_inMemory hs c
    · exact fun s c hc hs => trustworthy_inMemory hs c hc
  · apply Runs.meets_of_invariant (I := Deposited) _ _ h deposited_empty
    · exact fun s c _ hs => deposited_redis hs c
    · exact fun s c hc hs => trustworthy_redis hs.recorded c hc
  · apply Runs.meets_of_invariant (I := Entered) _ _ h entered_empty
    · exact fun s c _ hs => entered_jdbc hs c
    · exact fun s c hc hs => trustworthy_jdbc driver hs c hc

/-- Another user's code is accepted in the cache, one that is too old in the second store, and the
third throws for one that has never been stored. -/
theorem mistaken :
    (¬ ∀ calls, Runs.Meets (step InMemoryOptTokenStore) (Trustworthy InMemoryOptTokenStore)
      emptyCache calls) ∧
    (¬ ∀ calls, Runs.Meets (step RedisOptTokenStore) (Trustworthy RedisOptTokenStore)
      emptyCache calls) ∧
    ∀ driver, ¬ ∀ calls, Runs.Meets (step (JdbcOptTokenStore driver))
      (Trustworthy (JdbcOptTokenStore driver)) emptyTable calls := by
  refine ⟨?_, ?_, ?_⟩
  · intro h
    let stored : Call := .store { id := "2", username := "ann_SMS" } (some "123456") none "SMS" "" 0
    -- both keys are ann_SMS_SMS_123456
    have hrun := (h [stored, .validate "ann" "SMS_123456" "SMS" 300 1000]).2.1
    have haccepted : outcome (InMemoryOptTokenStore.validate "ann" "SMS_123456" "SMS" 300 1000)
        (step InMemoryOptTokenStore emptyCache stored).state = .ok true := by decide +kernel
    obtain ⟨time, hmem, -⟩ := hrun.1 haccepted
    have hother := Prod.mk.inj (List.mem_singleton.mp hmem)
    exact absurd hother.1 (by decide)
  · intro h
    let stored : Call := .store ann (some "123456") none "SMS" "" 0
    have hrun := (h [stored, .validate "ann" "123456" "SMS" 60 200000]).2.1
    have haccepted : outcome (RedisOptTokenStore.validate "ann" "123456" "SMS" 60 200000)
        (step RedisOptTokenStore emptyCache stored).state = .ok true := by decide +kernel
    obtain ⟨time, hmem, hage⟩ := hrun.1 haccepted
    have htime : time = 0 := (Prod.mk.inj (List.mem_singleton.mp hmem)).2
    rw [htime] at hage
    exact absurd hage (by decide)
  · intro driver h
    have hrun := (h [.validate "ann" "123456" "SMS" 300 0]).1
    have hstale : ¬Fresh emptyTable ⟨"ann", "SMS", "123456"⟩ 300 0 := by
      rintro ⟨time, hmem, -⟩
      cases hmem
    have hanswer := hrun.2 hstale
    unfold outcome at hanswer
    have hnone : ∀ row, activeRows "ann" "123456" "SMS" emptyTable.state ≠ [row] := by
      intro row hrow
      cases hrow
    rw [validate_of_no_row hnone] at hanswer
    cases hanswer

/-- A driver that reads whole seconds, and a number out of the digits of a text. -/
def plainDriver : Driver where
  takes _ := true
  createTime sent := .ok (sent / 1000 * 1000)
  number text := (text.toList.foldlM (fun n (c : Char) =>
    if c.isDigit then some (10 * n + (c.toNat - 48)) else none) 0).map Int.ofNat

def oneCode : List Call :=
  [.store ann (some "123456") none "1" "10" 0, .validate "ann" "123456" "1" 300 1000]

theorem trustworthy_oneCode :
    Runs.Meets (step InMemoryOptTokenStore) (Trustworthy InMemoryOptTokenStore) emptyCache oneCode ∧
    Runs.Meets (step RedisOptTokenStore) (Trustworthy RedisOptTokenStore) emptyCache oneCode ∧
    Runs.Meets (step (JdbcOptTokenStore plainDriver)) (Trustworthy (JdbcOptTokenStore plainDriver))
      emptyTable oneCode := by
  obtain ⟨hcache, hserver, htable⟩ := trustworthy_runs plainDriver oneCode
  refine ⟨hcache ⟨trivial, ?_, trivial⟩, hserver ⟨trivial, ?_, trivial⟩, htable ⟨trivial, ?_, trivial⟩⟩
  · intro entry hentry _ _
    rw [← Option.some.inj hentry]
    exact ⟨rfl, by decide⟩
  · intro entry hentry
    rw [← Option.some.inj (state_of_getObject hentry)]
    exact ⟨rfl, by decide⟩
  · exact ⟨⟨"10", "1", "ann", "123456", none, 0, Realm.ACTIVE⟩, 1, 0, 1, by decide +kernel,
      by decide +kernel, rfl, rfl, fun _ => by decide⟩

end MaxKey.OptTokenStores
