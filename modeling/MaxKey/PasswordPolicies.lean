import MaxKey.Effects
import MaxKey.JavaText

namespace MaxKey.PasswordPolicies
open Effects

/-- What the platform knows of chars and of case. A char is in one of the classes at most. -/
structure CharacterData where
  isDigit : ℕ → Bool
  isLowerCase : ℕ → Bool
  isUpperCase : ℕ → Bool
  toLowerCase : String → String
  foldCase : Char → Char
  not_lowerCase_of_digit : ∀ ch, isDigit ch = true → isLowerCase ch = false
  not_upperCase_of_digit : ∀ ch, isDigit ch = true → isUpperCase ch = false
  not_upperCase_of_lowerCase : ∀ ch, isLowerCase ch = true → isUpperCase ch = false

/-- A row of PASSWORD_POLICY as far as a new password is checked against it. -/
structure PasswordPolicy where
  minLength : ℤ
  maxLength : ℤ
  lowerCase : ℤ
  upperCase : ℤ
  digits : ℤ
  specialChar : ℤ
  username : ℤ
  simplePasswords : Option String

/-- The error code of a PasswordPolicyException with its value, or the NullPointerException. -/
inductive CheckException
  | passwordPolicy (errorCode : String) (filedValue : Option ℤ)
  | nullPointer
  deriving DecidableEq

open CheckException

structure Counts where
  numCount : ℕ
  upperCount : ℕ
  lowerCount : ℕ
  spacil : ℕ

namespace CharacterData

variable (data : CharacterData)

def equalsIgnoreCase (s t : String) : Bool := s.toList.map data.foldCase = t.toList.map data.foldCase

/-- One pass of the loop. -/
def count (counts : Counts) (ch : ℕ) : Counts :=
  if data.isDigit ch then { counts with numCount := counts.numCount + 1 }
  else if data.isLowerCase ch then { counts with lowerCount := counts.lowerCount + 1 }
  else if data.isUpperCase ch then { counts with upperCount := counts.upperCount + 1 }
  else { counts with spacil := counts.spacil + 1 }

def counts (chPwd : List ℕ) : Counts := chPwd.foldl data.count ⟨0, 0, 0, 0⟩

def given (text : Option String) : Except CheckException String := text.elim (.error nullPointer) .ok

def containsUsername (newPassword username : String) : Bool :=
  JavaText.contains (data.toLowerCase newPassword) (data.toLowerCase username)

/-- The rule on the user name, which is read only where the rule is on. -/
def checkUsername (policy : PasswordPolicy) (username : Option String) (newPassword : String) :
    Except CheckException Unit :=
  if policy.username = 1 then do
    let username ← given username
    failIf (data.containsUsername newPassword username) (passwordPolicy "XW00000001" none)
  else .ok ()

def check (policy : PasswordPolicy) (username newPassword oldPassword : Option String) :
    Except CheckException Unit := do
  -- Whichever rule comes first reads the new password.
  let newPassword ← given newPassword
  data.checkUsername policy username newPassword
  failIf (∃ old ∈ oldPassword, data.equalsIgnoreCase newPassword old)
    (passwordPolicy "XW00000002" none)
  let chPwd := JavaText.utf16 newPassword
  failIf (chPwd.length < policy.minLength) (passwordPolicy "XW00000003" policy.minLength)
  failIf (chPwd.length > policy.maxLength) (passwordPolicy "XW00000004" policy.maxLength)
  let counts := data.counts chPwd
  failIf (counts.numCount < policy.digits) (passwordPolicy "XW00000005" policy.digits)
  failIf (counts.lowerCount < policy.lowerCase) (passwordPolicy "XW00000006" policy.lowerCase)
  failIf (counts.upperCount < policy.upperCase) (passwordPolicy "XW00000007" policy.upperCase)
  failIf (counts.spacil < policy.specialChar) (passwordPolicy "XW00000008" policy.specialChar)

/-! ### What a policy asks of a password -/

/-- A char of none of the three classes. -/
def isSpecial (ch : ℕ) : Bool :=
  !data.isDigit ch && !data.isLowerCase ch && !data.isUpperCase ch

/-- The constraints on a new password, but for the list of simple ones. -/
structure Constraints (policy : PasswordPolicy) (username newPassword : String)
    (oldPassword : Option String) : Prop where
  username : policy.username = 1 → ¬data.containsUsername newPassword username
  oldPassword : ∀ old ∈ oldPassword, ¬data.equalsIgnoreCase newPassword old
  minLength : policy.minLength ≤ (JavaText.utf16 newPassword).length
  maxLength : (JavaText.utf16 newPassword).length ≤ policy.maxLength
  digits : policy.digits ≤ (JavaText.utf16 newPassword).countP data.isDigit
  lowerCase : policy.lowerCase ≤ (JavaText.utf16 newPassword).countP data.isLowerCase
  upperCase : policy.upperCase ≤ (JavaText.utf16 newPassword).countP data.isUpperCase
  specialChar : policy.specialChar ≤ (JavaText.utf16 newPassword).countP data.isSpecial

/-- All that is configured: the list holds the passwords that must not be chosen. -/
def Complies (entries : Option String → List String) (policy : PasswordPolicy)
    (username newPassword : String) (oldPassword : Option String) : Prop :=
  data.Constraints policy username newPassword oldPassword ∧
    newPassword ∉ entries policy.simplePasswords

variable {data} {policy : PasswordPolicy} {username newPassword : String} {oldPassword : Option String}

/-- A char counts for one class. -/
theorem class_add (ch : ℕ) :
    (if data.isDigit ch then 1 else 0) + (if data.isLowerCase ch then 1 else 0) +
      (if data.isUpperCase ch then 1 else 0) + (if data.isSpecial ch then 1 else 0) = 1 := by
  have hlower := data.not_lowerCase_of_digit ch
  have hupper := data.not_upperCase_of_digit ch
  have hcase := data.not_upperCase_of_lowerCase ch
  unfold isSpecial
  grind

theorem countP_add (chPwd : List ℕ) :
    chPwd.countP data.isDigit + chPwd.countP data.isLowerCase + chPwd.countP data.isUpperCase +
      chPwd.countP data.isSpecial = chPwd.length := by
  induction chPwd with
  | nil => rfl
  | cons ch chPwd ih =>
    have hone := @class_add data ch
    simp only [List.countP_cons, List.length_cons]
    omega

/-- One pass adds to the counter of the char's class. -/
theorem count_eq (start : Counts) (ch : ℕ) :
    data.count start ch =
      { numCount := start.numCount + if data.isDigit ch then 1 else 0
        upperCount := start.upperCount + if data.isUpperCase ch then 1 else 0
        lowerCount := start.lowerCount + if data.isLowerCase ch then 1 else 0
        spacil := start.spacil + if data.isSpecial ch then 1 else 0 } := by
  unfold count isSpecial
  by_cases hdigit : data.isDigit ch = true
  · have hlower := data.not_lowerCase_of_digit ch hdigit
    have hupper := data.not_upperCase_of_digit ch hdigit
    simp [hdigit, hlower, hupper]
  by_cases hlower : data.isLowerCase ch = true
  · have hupper := data.not_upperCase_of_lowerCase ch hlower
    simp [hdigit, hlower, hupper]
  by_cases hupper : data.isUpperCase ch = true
  · simp [hdigit, hlower, hupper]
  · simp [hdigit, hlower, hupper]

theorem foldl_count (chPwd : List ℕ) (start : Counts) :
    chPwd.foldl data.count start =
      { numCount := start.numCount + chPwd.countP data.isDigit
        upperCount := start.upperCount + chPwd.countP data.isUpperCase
        lowerCount := start.lowerCount + chPwd.countP data.isLowerCase
        spacil := start.spacil + chPwd.countP data.isSpecial } := by
  induction chPwd generalizing start with
  | nil => rfl
  | cons ch chPwd ih =>
    rw [List.foldl_cons, ih, count_eq, Counts.mk.injEq]
    simp only [List.countP_cons]
    omega

theorem counts_eq (chPwd : List ℕ) :
    data.counts chPwd =
      { numCount := chPwd.countP data.isDigit, upperCount := chPwd.countP data.isUpperCase
        lowerCount := chPwd.countP data.isLowerCase, spacil := chPwd.countP data.isSpecial } := by
  rw [counts, foldl_count]
  simp only [Nat.zero_add]

theorem checkUsername_eq_ok {u : Unit} :
    data.checkUsername policy (some username) newPassword = .ok u ↔
      (policy.username = 1 → ¬data.containsUsername newPassword username) := by
  unfold checkUsername
  split_ifs with h
  · exact failIf_eq_ok.trans (imp_iff_right h).symm
  · exact iff_of_true rfl fun hone => absurd hone h

/-- The check enforces every constraint but the list. -/
theorem check_eq_ok : data.check policy (some username) (some newPassword) oldPassword = .ok () ↔
    data.Constraints policy username newPassword oldPassword := by
  have hgiven : given (some newPassword) = .ok newPassword := rfl
  rw [check, hgiven]
  simp only [except_bind_eq_ok, failIf_eq_ok, checkUsername_eq_ok, counts_eq, Except.ok.injEq,
    exists_and_left, exists_eq_left', exists_const, Int.not_lt, not_exists, not_and, gt_iff_lt]
  constructor
  · rintro ⟨husername, hold, hmin, hmax, hdigits, hlower, hupper, hspecial⟩
    exact ⟨husername, hold, hmin, hmax, hdigits, hlower, hupper, hspecial⟩
  · intro h
    exact ⟨h.username, h.oldPassword, h.minLength, h.maxLength, h.digits, h.lowerCase, h.upperCase,
      h.specialChar⟩

/-- The check meets what is configured unless the list alone forbids the password. The classes that
it counts divide the chars of the password among them. -/
theorem check_complies_iff (data : CharacterData) (entries : Option String → List String)
    (policy : PasswordPolicy) (username newPassword : String) (oldPassword : Option String) :
    ((data.check policy (some username) (some newPassword) oldPassword = .ok () ↔
        data.Complies entries policy username newPassword oldPassword) ↔
      newPassword ∉ entries policy.simplePasswords ∨
        ¬data.Constraints policy username newPassword oldPassword) ∧
    (let chPwd := JavaText.utf16 newPassword;
      chPwd.countP data.isDigit + chPwd.countP data.isLowerCase + chPwd.countP data.isUpperCase +
        chPwd.countP data.isSpecial = chPwd.length) := by
  refine ⟨?_, countP_add _⟩
  rw [check_eq_ok, Complies]
  tauto

end CharacterData

/-! ### A password of the list -/

/-- The chars of ASCII. -/
def ascii : CharacterData where
  isDigit ch := decide (48 ≤ ch ∧ ch ≤ 57)
  isLowerCase ch := decide (97 ≤ ch ∧ ch ≤ 122)
  isUpperCase ch := decide (65 ≤ ch ∧ ch ≤ 90)
  toLowerCase := String.map Char.toLower
  foldCase := Char.toLower
  not_lowerCase_of_digit ch h := by
    have hdigit := of_decide_eq_true h
    exact decide_eq_false (by omega)
  not_upperCase_of_digit ch h := by
    have hdigit := of_decide_eq_true h
    exact decide_eq_false (by omega)
  not_upperCase_of_lowerCase ch h := by
    have hlower := of_decide_eq_true h
    exact decide_eq_false (by omega)

def testPolicy : PasswordPolicy where
  minLength := 6
  maxLength := 20
  lowerCase := 1
  upperCase := 0
  digits := 1
  specialChar := 0
  username := 1
  simplePasswords := some "passw0rd"

/-- The listed password is accepted, with the whole text as the one entry of the list. -/
theorem check_listed :
    ascii.check testPolicy (some "admin") (some "passw0rd") none = .ok () ∧
      ¬ascii.Complies Option.toList testPolicy "admin" "passw0rd" none := by
  refine ⟨by decide +kernel, fun h => h.2 ?_⟩
  exact List.mem_singleton_self _

end MaxKey.PasswordPolicies
