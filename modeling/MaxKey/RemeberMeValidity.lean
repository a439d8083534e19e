import MaxKey.RemeberMeStores

namespace MaxKey.RemeberMeValidity
open WebContext Realm RemeberMe RemeberMeRuns RemeberMeStores JavaException Effects
open Function (update)

variable {σ : Type}

/-- Integer.parseInt of a text of digits. -/
def parseInt (digits : String) : Except JavaException ℕ :=
  let n := Nat.ofDigitChars 10 digits.toList 0
  if n ≤ 2147483647 then .ok n else .error numberFormat

/-- The validity that a text configures: a number of seconds or the name of a constant; another text
changes nothing. -/
def setValidity (remeberMeValidity : ℕ) (validity : Option String) : Except JavaException ℕ :=
  match validity with
  | none => .error nullPointer
  | some validity =>
    if validity ≠ "" ∧ validity.toList.all Char.isDigit then parseInt validity
    else if JavaText.equalsIgnoreCase validity "ONE_DAY" then .ok ONE_DAY
    else if JavaText.equalsIgnoreCase validity "ONE_WEEK" then .ok ONE_WEEK
    else if JavaText.equalsIgnoreCase validity "TWO_WEEK" then .ok TWO_WEEK
    else if JavaText.equalsIgnoreCase validity "ONE_YEAR" then .ok ONE_YEAR
    else .ok remeberMeValidity

/-- Less than the validity has passed since the cookie was issued or renewed. -/
def inTime (validity now : ℕ) (cookie : RemeberMe) : Prop :=
  now < cookie.lastLogin.getD 0 + validity * 1000

instance (validity now : ℕ) (cookie : RemeberMe) : Decidable (inTime validity now cookie) :=
  inferInstanceAs (Decidable (_ < _))

/-- A login accepts the last cookie of a user in time, and not later. -/
def AcceptsInTime (service : Store σ) (codec : Codec) (validity : ℕ) (s : Watch σ) : Action → Prop
  | .login world request authKey text =>
    ∀ cookie ∈ (codec.decode text).toOption, s.issued (nameOf cookie) = some cookie →
      (outcome (login service codec validity request authKey text) { world, store := s.store } =
        .ok true ↔ inTime validity request.now cookie)
  | _ => True

instance (service : Store σ) (codec : Codec) (validity : ℕ) (s : Watch σ) :
    DecidablePred (AcceptsInTime service codec validity s)
  | .login _ _ _ text => inferInstanceAs (Decidable
      (∀ cookie ∈ (codec.decode text).toOption, _ = some cookie → (_ ↔ _)))
  | .create _ _ _ _ _ | .update _ _ _ _ | .remove _ _ => isTrue trivial

/-- As long as the last cookie of a user is in time, the store can be read and holds its record, and
the user can be logged in. -/
def KeptInTime {service : Store σ} (k : KeyedByName service) (codec : Codec) (validity : ℕ)
    (s : Watch σ) : Action → Prop
  | .login world request authKey text =>
    ∀ cookie ∈ (codec.decode text).toOption, s.issued (nameOf cookie) = some cookie →
      inTime validity request.now cookie →
        request.now < cookie.lastLogin.getD 0 + k.timeToLive ∧ k.readable request.faults cookie ∧
          goesThrough service request world s.store cookie.username
            (renewed request authKey cookie)
  | _ => True

instance {service : Store σ} (k : KeyedByName service) (codec : Codec) (validity : ℕ)
    (s : Watch σ) : DecidablePred (KeptInTime k codec validity s)
  | .login _ _ _ text => inferInstanceAs (Decidable
      (∀ cookie ∈ (codec.decode text).toOption, _ = some cookie → _ → _))
  | .create _ _ _ _ _ | .update _ _ _ _ | .remove _ _ => isTrue trivial

section Keyed

variable {service : Store σ} {k : KeyedByName service} {codec : Codec} {validity : ℕ}
  {s : Watch σ} {a : Action}

/-- What it takes for the last cookie of a user to be accepted. -/
theorem login_last_iff {world : World} {request : HttpRequest} {authKey text : String}
    {cookie : RemeberMe} (h : Holds k s) (hcookie : cookie ∈ (codec.decode text).toOption)
    (hlast : s.issued (nameOf cookie) = some cookie) :
    outcome (login service codec validity request authKey text) { world, store := s.store } =
      .ok true ↔
        k.readable request.faults cookie ∧ isGood k validity request.now cookie ∧
          goesThrough service request world s.store cookie.username
            (renewed request authKey cookie) := by
  rw [login_iff h]
  constructor
  · intro ⟨found, hfound, hreadable, last, hissued, hgood, hgoes⟩
    cases hcookie.symm.trans hfound
    cases hlast.symm.trans hissued
    exact ⟨hreadable, hgood, hgoes⟩
  · intro ⟨hreadable, hgood, hgoes⟩
    exact ⟨cookie, hcookie, hreadable, cookie, hlast, hgood, hgoes⟩

theorem acceptsInTime_iff (h : Holds k s) :
    AcceptsInTime service codec validity s a ↔ KeptInTime k codec validity s a := by
  cases a with
  | login world request authKey text =>
    simp only [AcceptsInTime, KeptInTime]
    refine forall₂_congr fun cookie hcookie => forall_congr' fun hlast => ?_
    rw [login_last_iff h hcookie hlast]
    -- no cookie is accepted later, so that it is left to accept it in time
    refine iff_def.trans ?_
    rw [and_iff_right fun haccepted => haccepted.2.1.1]
    apply imp_congr_right
    intro htime
    constructor
    · intro ⟨hreadable, hgood, hgoes⟩
      exact ⟨hgood.2, hreadable, hgoes⟩
    · intro ⟨hlives, hreadable, hgoes⟩
      exact ⟨hreadable, ⟨htime, hlives⟩, hgoes⟩
  | create _ _ _ _ _ => rfl
  | update _ _ _ _ => rfl
  | remove _ _ => rfl

end Keyed

namespace Jdbc
open RemeberMeStores.Jdbc JdbcRemeberMeService

def CreatesOrLogsIn : Action → Prop
  | .create _ _ _ _ _ | .login _ _ _ _ => True
  | .update _ _ _ _ | .remove _ _ => False

instance : DecidablePred CreatesOrLogsIn
  | .create _ _ _ _ _ | .login _ _ _ _ => isTrue trivial
  | .update _ _ _ _ | .remove _ _ => isFalse not_false

/-- As long as the last cookie of a user is in time, it is so from the beginning of its day as well,
the table can be read, and the user can be logged in. -/
def KeptByDay (offset : ℕ) (codec : Codec) (validity : ℕ) (s : Watch Table) : Action → Prop
  | .login world request authKey text =>
    ∀ cookie ∈ (codec.decode text).toOption, s.issued (nameOf cookie) = some cookie →
      inTime validity request.now cookie →
        request.now < getDate offset (cookie.lastLogin.getD 0) + validity * 1000 ∧
          ¬request.faults.readRemeberMe ∧
          goesThrough (JdbcRemeberMeService offset) request world s.store cookie.username
            (renewed request authKey cookie)
  | _ => True

instance (offset : ℕ) (codec : Codec) (validity : ℕ) (s : Watch Table) :
    DecidablePred (KeptByDay offset codec validity s)
  | .login _ _ _ text => inferInstanceAs (Decidable
      (∀ cookie ∈ (codec.decode text).toOption, _ = some cookie → _ → _))
  | .create _ _ _ _ _ | .update _ _ _ _ | .remove _ _ => isTrue trivial

variable {offset : ℕ} {codec : Codec} {validity : ℕ} {s : Watch Table} {a : Action}

theorem backed_step (ha : CreatesOrLogsIn a) (h : Backed s) :
    Backed (step (JdbcRemeberMeService offset) codec validity s a) := by
  have heffect := effect_step (JdbcRemeberMeService offset) codec validity s a
  generalize step (JdbcRemeberMeService offset) codec validity s a = s' at heffect
  cases heffect with
  | nothing => exact h
  | create hwish huser hsave =>
    obtain ⟨row, hrow, hrows⟩ := save_eq_ok hsave
    cases hrow
    exact backed_of_save h hrows
  | login hcookie haccepted hupdate =>
    obtain ⟨row, hrow, hid, hname, -⟩ := row_of_accepted haccepted hcookie
    rw [update_eq_ok hupdate]
    exact backed_of_renew h hrow hid hname
  | update hupdate => exact ha.elim
  | remove huser hremove => exact ha.elim

/-- The first row that agrees with the last cookie of a user is the one that backs it. -/
theorem head_matching {cookie : RemeberMe} {row : RemeberMeRow} (hrow : row ∈ s.store.rows)
    (hrecord : recordOf row = cookie) :
    (s.store.select (matching cookie)).head? = some row := by
  have hmem : row ∈ s.store.select (matching cookie) := by
    rw [KeyedTable.mem_select, ← hrecord]
    exact ⟨hrow, by simp [matching, recordOf]⟩
  cases hhead : (s.store.select (matching cookie)).head? with
  | none =>
    rw [List.head?_eq_none_iff.mp hhead] at hmem
    cases hmem
  | some found =>
    obtain ⟨hold, hmatch⟩ := KeyedTable.mem_select.mp (List.mem_of_mem_head? hhead)
    have hids : some found.id = some row.id := by
      rw [← hrecord] at hmatch
      exact (of_decide_eq_true hmatch).1
    rw [KeyedTable.eq_of_key_eq s.store hold hrow (Option.some.inj hids)]

/-- What is read for the last cookie of a user is its row, and the row has forgotten the time of
day. -/
theorem accepted_iff {request : HttpRequest} {text : String} {cookie stored : RemeberMe}
    (h : Backed s) (hcookie : codec.decode text = .ok cookie)
    (hlast : s.issued (nameOf cookie) = some cookie) :
    accepted (JdbcRemeberMeService offset) codec validity request text s.store = some stored ↔
      ¬request.faults.readRemeberMe ∧
        { cookie with lastLogin := some (getDate offset (cookie.lastLogin.getD 0)) } = stored ∧
        request.now < getDate offset (cookie.lastLogin.getD 0) + validity * 1000 := by
  obtain ⟨row, hrow, -, hrecord⟩ := h _ _ hlast
  have hread : (JdbcRemeberMeService offset).read request.faults request.now cookie s.store =
      if request.faults.readRemeberMe then .error (dataAccess "REMEMBER_ME")
      else .ok (some (toRemeberMe offset row)) := by
    change (failIf _ _ >>= fun _ => _) = _
    rw [head_matching hrow hrecord]
    by_cases hfault : request.faults.readRemeberMe = true
    · simp [failIf, hfault]
    · simp [failIf, hfault]
  rw [accepted_eq_some hcookie, hread]
  by_cases hfault : request.faults.readRemeberMe = true
  · simp [hfault]
  · rw [if_neg hfault, ← hrecord]
    simp only [Except.ok.injEq, Option.some.injEq]
    constructor
    · rintro ⟨rfl, hdue⟩
      exact ⟨hfault, rfl, hdue⟩
    · rintro ⟨-, rfl, hdue⟩
      exact ⟨rfl, hdue⟩

theorem decode_of_mem {text : String} {cookie : RemeberMe}
    (h : cookie ∈ (codec.decode text).toOption) : codec.decode text = .ok cookie := by
  cases hdecode : codec.decode text with
  | error e =>
    rw [hdecode] at h
    cases h
  | ok found =>
    rw [hdecode] at h
    exact congrArg Except.ok (Option.some.inj h)

theorem login_last_iff {world : World} {request : HttpRequest} {authKey text : String}
    {cookie : RemeberMe} (h : Backed s) (hcookie : codec.decode text = .ok cookie)
    (hlast : s.issued (nameOf cookie) = some cookie) :
    outcome (login (JdbcRemeberMeService offset) codec validity request authKey text)
      { world, store := s.store } = .ok true ↔
        ¬request.faults.readRemeberMe ∧
          request.now < getDate offset (cookie.lastLogin.getD 0) + validity * 1000 ∧
          goesThrough (JdbcRemeberMeService offset) request world s.store cookie.username
            (renewed request authKey cookie) := by
  rw [login_eq_true_iff]
  constructor
  · intro ⟨found, stored, hfound, haccepted, hgoes⟩
    cases hcookie.symm.trans hfound
    obtain ⟨hreadable, hstored, hdue⟩ := (accepted_iff h hcookie hlast).mp haccepted
    rw [← hstored] at hgoes
    exact ⟨hreadable, hdue, hgoes⟩
  · intro ⟨hreadable, hdue, hgoes⟩
    have haccepted := (accepted_iff h hcookie hlast).mpr ⟨hreadable, rfl, hdue⟩
    exact ⟨cookie, _, hcookie, haccepted, hgoes⟩

theorem acceptsInTime_iff (h : Backed s) :
    AcceptsInTime (JdbcRemeberMeService offset) codec validity s a ↔
      KeptByDay offset codec validity s a := by
  cases a with
  | login world request authKey text =>
    simp only [AcceptsInTime, KeptByDay]
    refine forall₂_congr fun cookie hmem => forall_congr' fun hlast => ?_
    rw [login_last_iff h (decode_of_mem hmem) hlast]
    -- the day begins no later than the instant, so that no cookie is accepted later
    have hday : getDate offset (cookie.lastLogin.getD 0) ≤ cookie.lastLogin.getD 0 :=
      Nat.sub_le _ _
    have hnotLater (hdue : request.now < getDate offset (cookie.lastLogin.getD 0) +
        validity * 1000) : inTime validity request.now cookie := by
      unfold inTime
      omega
    refine iff_def.trans ?_
    rw [and_iff_right fun haccepted => hnotLater haccepted.2.1]
    exact imp_congr_right fun _ => and_left_comm
  | create _ _ _ _ _ => rfl
  | update _ _ _ _ => rfl
  | remove _ _ => rfl

end Jdbc

/-- From empty stores and over every validity that can be configured, a run accepts the last cookies
in time and not later, exactly where each of them is kept as long: within the time to live of the
cache and of Redis, and by the beginning of its day in the database. -/
theorem acceptsInTime_runs (codec : Codec) (configured : Option String) :
    WhenOk (setValidity TWO_WEEK configured) fun validity =>
      (∀ as, Runs.Meets (step InMemoryRemeberMeService codec validity)
          (AcceptsInTime InMemoryRemeberMeService codec validity) ⟨.empty _ _, fun _ => none⟩ as ↔
        Runs.Meets (step InMemoryRemeberMeService codec validity)
          (KeptInTime inMemory codec validity) ⟨.empty _ _, fun _ => none⟩ as) ∧
      (∀ as, Runs.Meets (step RedisRemeberMeService codec validity)
          (AcceptsInTime RedisRemeberMeService codec validity) ⟨.empty _ _, fun _ => none⟩ as ↔
        Runs.Meets (step RedisRemeberMeService codec validity)
          (KeptInTime redis codec validity) ⟨.empty _ _, fun _ => none⟩ as) ∧
      ∀ offset as, (∀ a ∈ as, Jdbc.CreatesOrLogsIn a) →
        (Runs.Meets (step (JdbcRemeberMeService offset) codec validity)
            (AcceptsInTime (JdbcRemeberMeService offset) codec validity) ⟨.empty, fun _ => none⟩ as ↔
          Runs.Meets (step (JdbcRemeberMeService offset) codec validity)
            (Jdbc.KeptByDay offset codec validity) ⟨.empty, fun _ => none⟩ as) := by
  cases setValidity TWO_WEEK configured with
  | error e => trivial
  | ok validity =>
    refine ⟨?_, ?_, ?_⟩
    · intro as
      apply Runs.meets_congr (I := Holds inMemory)
      · exact fun s a _ hs => holds_step hs
      · exact fun s a _ hs => acceptsInTime_iff hs
      · exact ⟨fun _ => rfl, by simp⟩
    · intro as
      apply Runs.meets_congr (I := Holds redis)
      · exact fun s a _ hs => holds_step hs
      · exact fun s a _ hs => acceptsInTime_iff hs
      · exact ⟨fun _ => rfl, by simp⟩
    · intro offset as has
      apply Runs.meets_congr (I := RemeberMeStores.Jdbc.Backed)
      · exact fun s a ha hs => Jdbc.backed_step (has a ha) hs
      · exact fun s a _ hs => Jdbc.acceptsInTime_iff hs
      · intro u r hr
        cases hr

section Examples

def halfPastEleven : ℕ := (23 * 60 + 30) * 60 * 1000

/-- A cookie of the evening that is brought within the hour. -/
def evening : List Action :=
  [creating halfPastEleven "a" "1",
    bringing (halfPastEleven + 600000) "b" { first with lastLogin := some halfPastEleven }]

/-- Two weeks are not too long for any of the stores. -/
theorem acceptsInTime_of_evening :
    Runs.Meets (step InMemoryRemeberMeService plainText TWO_WEEK)
      (AcceptsInTime InMemoryRemeberMeService plainText TWO_WEEK) ⟨.empty _ _, fun _ => none⟩
      evening ∧
    Runs.Meets (step RedisRemeberMeService plainText TWO_WEEK)
      (AcceptsInTime RedisRemeberMeService plainText TWO_WEEK) ⟨.empty _ _, fun _ => none⟩
      evening ∧
    Runs.Meets (step (JdbcRemeberMeService 0) plainText TWO_WEEK)
      (AcceptsInTime (JdbcRemeberMeService 0) plainText TWO_WEEK) ⟨.empty, fun _ => none⟩
      evening := by
  have hruns := acceptsInTime_runs plainText (some "TWO_WEEK")
  have hconfigured : setValidity TWO_WEEK (some "TWO_WEEK") = .ok TWO_WEEK := by decide +kernel
  rw [hconfigured] at hruns
  refine ⟨(hruns.1 evening).mpr ?_, (hruns.2.1 evening).mpr ?_,
    (hruns.2.2 0 evening ?_).mpr ?_⟩
  · decide +kernel
  · decide +kernel
  · decide +kernel
  · decide +kernel

/-- A year is more than Redis keeps a record, and 99999999 seconds more than the cache does; of an
hour the database leaves nothing to a cookie of the evening. -/
theorem rejected_in_time :
    setValidity TWO_WEEK (some "ONE_YEAR") = .ok ONE_YEAR ∧
    ¬Runs.Meets (step RedisRemeberMeService plainText ONE_YEAR)
      (AcceptsInTime RedisRemeberMeService plainText ONE_YEAR) ⟨.empty _ _, fun _ => none⟩
      [creating 10 "a" "1", bringing (15 * ONE_DAY * 1000) "b" first] ∧
    setValidity TWO_WEEK (some "99999999") = .ok 99999999 ∧
    ¬Runs.Meets (step InMemoryRemeberMeService plainText 99999999)
      (AcceptsInTime InMemoryRemeberMeService plainText 99999999) ⟨.empty _ _, fun _ => none⟩
      [creating 10 "a" "1", bringing 73000000000 "b" first] ∧
    setValidity TWO_WEEK (some "3600") = .ok 3600 ∧
    ¬Runs.Meets (step (JdbcRemeberMeService 0) plainText 3600)
      (AcceptsInTime (JdbcRemeberMeService 0) plainText 3600) ⟨.empty, fun _ => none⟩
      evening := by
  decide +kernel

end Examples

end MaxKey.RemeberMeValidity
