import MaxKey.Domain
import Mathlib.Algebra.Order.Ring.Int

namespace MaxKey.ValidityPeriods
open JavaException

def IsInt (n : ℤ) : Prop := -2147483648 ≤ n ∧ n ≤ 2147483647

def IsLong (n : ℤ) : Prop := -9223372036854775808 ≤ n ∧ n ≤ 9223372036854775807

instance (n : ℤ) : Decidable (IsLong n) := inferInstanceAs (Decidable (_ ∧ _))

/-- The product of two ints. -/
def intTimes (a b : ℤ) : ℤ := (a * b).bmod 4294967296

/-- The sum of two longs. -/
def longPlus (a b : ℤ) : ℤ := (a + b).bmod 18446744073709551616

/-- FieldUtils.safeAdd: none where the sum is no long and an ArithmeticException is thrown. -/
def safeAdd (a b : ℤ) : Option ℤ := if IsLong (a + b) then some (a + b) else none

/-- What is set of the conditions of an assertion. -/
structure Conditions where
  notBefore : ℤ
  notOnOrAfter : ℤ
  audienceURI : String

/-- The clock is read twice. -/
def generateConditions (audienceUrl : String) (validInSeconds created now : ℤ) : Option Conditions := do
  let notOnOrAfter ← safeAdd now (intTimes validInSeconds 1000)
  return ⟨created, notOnOrAfter, audienceUrl⟩

structure SubjectConfirmationData where
  recipient : String
  inResponseTo : Option String
  notOnOrAfter : ℤ
  address : String

/-- DateTime.plusSeconds multiplies longs. -/
def builderSubjectConfirmation (recipient : String) (inResponseTo : Option String)
    (validInSeconds : ℤ) (clientAddress : String) (now : ℤ) : Option SubjectConfirmationData := do
  let notOnOrAfter ← safeAdd now (validInSeconds * 1000)
  return ⟨recipient, inResponseTo, notOnOrAfter, clientAddress⟩

/-- The claims of the user info that all scopes have beside the subject. -/
structure UserInfoClaims where
  jwtID : String
  audience : List String
  issueTime : ℤ
  expirationTime : ℤ

def issuedClaims (jwtID clientId : String) (accessTokenValiditySeconds : Option ℤ) (issued now : ℤ) :
    Except JavaException UserInfoClaims :=
  match accessTokenValiditySeconds with
  | none => .error nullPointer
  | some seconds => .ok ⟨jwtID, [clientId], issued, longPlus now (intTimes seconds 1000)⟩

/-- The instants at which the clock is read. Later readings are not before earlier ones. -/
structure Clock where
  created : ℤ
  conditions : ℤ
  subject : ℤ
  issued : ℤ
  expiration : ℤ
  created_le : created ≤ conditions
  issued_le : issued ≤ expiration
  long : ∀ t ∈ [created, conditions, subject, issued, expiration], IsLong t

/-- Each expiry is as many seconds after the reading of its clock, and not before what is issued. -/
structure Lifetimes (validity : ℤ) (clock : Clock) (audienceUrl recipient clientAddress jwtID clientId : String)
    (inResponseTo : Option String) : Prop where
  conditions : ∃ c, generateConditions audienceUrl validity clock.created clock.conditions = some c ∧
    c.notOnOrAfter = clock.conditions + validity * 1000 ∧ c.notBefore ≤ c.notOnOrAfter
  subject : ∃ d, builderSubjectConfirmation recipient inResponseTo validity clientAddress clock.subject =
    some d ∧ d.notOnOrAfter = clock.subject + validity * 1000 ∧ clock.subject ≤ d.notOnOrAfter
  userInfo : ∃ claims, issuedClaims jwtID clientId (some validity) clock.issued clock.expiration = .ok claims ∧
    claims.expirationTime = clock.expiration + validity * 1000 ∧ claims.issueTime ≤ claims.expirationTime

/-- The milliseconds fit an int, and the clock has not come near the end of the longs. -/
def Fits (validity : ℤ) (clock : Clock) : Prop :=
  validity ≤ 2147483 ∧ ∀ t ∈ [clock.conditions, clock.subject, clock.expiration],
    IsLong (t + validity * 1000)

section

variable {a b n validity : ℤ}

theorem intTimes_eq_iff (ha : 0 ≤ a) (hint : IsInt a) : intTimes a 1000 = a * 1000 ↔ a ≤ 2147483 := by
  unfold intTimes
  unfold IsInt at hint
  rw [Int.bmod_def]
  omega

theorem longPlus_eq_iff : longPlus a b = a + b ↔ IsLong (a + b) := by
  unfold longPlus IsLong
  rw [Int.bmod_def]
  omega

theorem safeAdd_eq_some {sum : ℤ} : safeAdd a b = some sum ↔ IsLong (a + b) ∧ a + b = sum := by
  unfold safeAdd
  split_ifs with h
  · simp only [Option.some.injEq, h, true_and]
  · simp only [h, false_and]

/-- The conditions are right exactly if the product is no other int. -/
theorem conditions_iff (hlow : 0 ≤ validity) (hint : IsInt validity) (audienceUrl : String)
    {created now : ℤ} (hle : created ≤ now) :
    (∃ c, generateConditions audienceUrl validity created now = some c ∧
        c.notOnOrAfter = now + validity * 1000 ∧ c.notBefore ≤ c.notOnOrAfter) ↔
      validity ≤ 2147483 ∧ IsLong (now + validity * 1000) := by
  unfold generateConditions
  rw [← intTimes_eq_iff hlow hint]
  constructor
  · intro ⟨c, hc, hexpiry, _⟩
    obtain ⟨notOnOrAfter, hsum, hc⟩ := Option.bind_eq_some_iff.mp hc
    obtain ⟨hlong, hadd⟩ := safeAdd_eq_some.mp hsum
    have hvalue : c.notOnOrAfter = notOnOrAfter := by rw [← Option.some.inj hc]
    have hproduct : intTimes validity 1000 = validity * 1000 := by omega
    rw [hproduct] at hlong
    exact ⟨hproduct, hlong⟩
  · intro ⟨hproduct, hlong⟩
    rw [hproduct]
    have hsum : safeAdd now (validity * 1000) = some (now + validity * 1000) :=
      safeAdd_eq_some.mpr ⟨hlong, rfl⟩
    rw [hsum]
    refine ⟨_, rfl, rfl, ?_⟩
    show created ≤ now + validity * 1000
    omega

theorem subject_iff (hlow : 0 ≤ validity) (recipient clientAddress : String)
    (inResponseTo : Option String) (now : ℤ) :
    (∃ d, builderSubjectConfirmation recipient inResponseTo validity clientAddress now = some d ∧
        d.notOnOrAfter = now + validity * 1000 ∧ now ≤ d.notOnOrAfter) ↔
      IsLong (now + validity * 1000) := by
  unfold builderSubjectConfirmation
  constructor
  · intro ⟨d, hd, _⟩
    obtain ⟨notOnOrAfter, hsum, -⟩ := Option.bind_eq_some_iff.mp hd
    exact (safeAdd_eq_some.mp hsum).1
  · intro hlong
    have hsum : safeAdd now (validity * 1000) = some (now + validity * 1000) :=
      safeAdd_eq_some.mpr ⟨hlong, rfl⟩
    rw [hsum]
    refine ⟨_, rfl, rfl, ?_⟩
    show now ≤ now + validity * 1000
    omega

theorem userInfo_iff (hlow : 0 ≤ validity) (hint : IsInt validity) (jwtID clientId : String)
    {issued now : ℤ} (hle : issued ≤ now) :
    (∃ claims, issuedClaims jwtID clientId (some validity) issued now = .ok claims ∧
        claims.expirationTime = now + validity * 1000 ∧ claims.issueTime ≤ claims.expirationTime) ↔
      validity ≤ 2147483 ∧ IsLong (now + validity * 1000) := by
  have hproduct := intTimes_eq_iff hlow hint
  constructor
  · intro ⟨claims, hok, hexpiry, _⟩
    have hvalue : longPlus now (intTimes validity 1000) = now + validity * 1000 := by
      rw [← hexpiry, ← Except.ok.inj hok]
    have hsame : intTimes validity 1000 = validity * 1000 := by
      -- no multiple of 2⁶⁴ lies between the two products
      unfold longPlus intTimes at hvalue
      unfold intTimes
      unfold IsInt at hint
      rw [Int.bmod_def, Int.bmod_def] at hvalue
      rw [Int.bmod_def]
      omega
    rw [hsame] at hvalue
    exact ⟨hproduct.mp hsame, longPlus_eq_iff.mp hvalue⟩
  · intro ⟨hsmall, hlong⟩
    have hvalue : longPlus now (intTimes validity 1000) = now + validity * 1000 := by
      rw [hproduct.mpr hsmall]
      exact longPlus_eq_iff.mpr hlong
    refine ⟨_, rfl, hvalue, ?_⟩
    show issued ≤ longPlus now (intTimes validity 1000)
    omega

end

/-- For every validity that is a non-negative int: all expiries are exact exactly if it fits an int in
milliseconds. -/
theorem lifetimes_iff (validity : ℤ) (clock : Clock)
    (audienceUrl recipient clientAddress jwtID clientId : String) (inResponseTo : Option String)
    (hlow : 0 ≤ validity) (hint : IsInt validity) :
    Lifetimes validity clock audienceUrl recipient clientAddress jwtID clientId inResponseTo ↔
      Fits validity clock := by
  have hconditions := conditions_iff hlow hint audienceUrl clock.created_le
  have hsubject := subject_iff hlow recipient clientAddress inResponseTo clock.subject
  have huserInfo := userInfo_iff hlow hint jwtID clientId clock.issued_le
  unfold Fits
  rw [List.forall_mem_cons, List.forall_mem_cons, List.forall_mem_singleton]
  constructor
  · intro h
    obtain ⟨hsmall, hfirst⟩ := hconditions.mp h.conditions
    exact ⟨hsmall, hfirst, hsubject.mp h.subject, (huserInfo.mp h.userInfo).2⟩
  · intro ⟨hsmall, hfirst, hsecond, hthird⟩
    exact ⟨hconditions.mpr ⟨hsmall, hfirst⟩, hsubject.mpr hsecond, huserInfo.mpr ⟨hsmall, hthird⟩⟩

/-- A clock that stands still in January 2021. -/
def frozen : Clock where
  created := 1610000000000
  conditions := 1610000000000
  subject := 1610000000000
  issued := 1610000000000
  expiration := 1610000000000
  created_le := le_refl _
  issued_le := le_refl _
  long := by decide

theorem lifetimes_iff_month :
    Lifetimes 2147483 frozen "https://sp.example" "https://sp.example/acs" "10.0.0.1" "n1" "app" none ↔
      Fits 2147483 frozen :=
  lifetimes_iff 2147483 frozen _ _ _ _ _ none (by decide) (by unfold IsInt; decide)

/-- One second more, and the conditions have run out before they begin. -/
theorem conditions_run_out :
    ¬ ∀ (validity : ℤ) (clock : Clock) (audienceUrl recipient clientAddress jwtID clientId : String)
      (inResponseTo : Option String), 0 ≤ validity → IsInt validity →
        Lifetimes validity clock audienceUrl recipient clientAddress jwtID clientId inResponseTo := by
  intro h
  obtain ⟨c, hc, hexpiry, -⟩ := (h 2147484 frozen "" "" "" "" "" none (by decide)
    (by unfold IsInt; decide)).conditions
  have hwrapped : generateConditions "" 2147484 frozen.created frozen.conditions =
      some ⟨1610000000000, 1607852516704, ""⟩ := by rfl
  rw [← Option.some.inj (hwrapped.symm.trans hc)] at hexpiry
  exact absurd hexpiry (by decide)

end MaxKey.ValidityPeriods
