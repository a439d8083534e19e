import MaxKey.Comparisons
import MaxKey.OtpAuthns
import MaxKey.Runs

namespace MaxKey.OtpReplays
open WebContext Realm Logon Comparisons OtpAlgorithms OtpAuthns JavaException Effects

/-- The authenticator of the second factor, with its settings. -/
inductive OptAuthn
  | hotp (a : HotpOtpAuthn)
  | counterBased (a : AbstractOptAuthn)
  | timeBased (a : AbstractOptAuthn)

variable (p : Provider) (base32 : String → List UInt8)

/-- The code that an authenticator expects from a user. -/
def expected (a : OptAuthn) (now : ℕ) (userInfo : UserInfo) : Except JavaException String :=
  match a with
  | .hotp a => HotpOtpAuthn.expected p base32 a userInfo
  | .counterBased a => CounterBasedOtpAuthn.expected p base32 a userInfo
  | .timeBased a => TimeBasedOtpAuthn.expected p base32 a now userInfo

def validate (a : OptAuthn) (now : ℕ) (userInfo : UserInfo) (token : String) :
    Except JavaException Bool :=
  match a with
  | .hotp a => HotpOtpAuthn.validate p base32 a userInfo token
  | .counterBased a => CounterBasedOtpAuthn.validate p base32 a userInfo token
  | .timeBased a => TimeBasedOtpAuthn.validate p base32 a now userInfo token

theorem validate_eq (a : OptAuthn) (now : ℕ) (userInfo : UserInfo) (token : String) :
    validate p base32 a now userInfo token =
      expected p base32 a now userInfo >>= fun code => return JavaText.equalsIgnoreCase token code := by
  cases a with
  | hotp a => rfl
  | counterBased a => rfl
  | timeBased a => rfl

/-- The moving factor of a user, as the authenticator reads it: the counter, or the time step. -/
def movingFactor (a : OptAuthn) (now : ℕ) (userInfo : UserInfo) : Option ℤ :=
  match a with
  | .hotp _ => (parseLong userInfo.sharedCounter).toOption
  | .counterBased _ => userInfo.sharedCounter.bind fun time =>
      (TimeBasedOTP.messageOf time).toOption.map fun msg => (BigEndian.number msg : ℤ)
  | .timeBased a => (TimeBasedOtpAuthn.timeStep a now).toOption

/-- What goes on around the second factor: a code is checked for the user of a name, or anything else
changes the world: the rest of a login, a new secret, an update from outside. -/
inductive Event
  | check (username otpCaptcha authType : Option String) (now : ℕ)
  | elsewhere (world : World)

/-- The world, and from which moving factor the codes of the users have been accepted, the last of
them first. -/
structure Watch where
  world : World
  accepted : List (String × Option ℤ) := []

/-- The realm as it checks a code at a time. -/
def realmAt (c : Config) (a : OptAuthn) (now : ℕ) : Config :=
  { c with otpValidate := validate p base32 a now }

/-- What a check that succeeds is remembered by, if a code was asked for. -/
def accept (c : Config) (a : OptAuthn) (authType : Option String) (now : ℕ) (userInfo : UserInfo) :
    EStateM.Result JavaException World Unit → List (String × Option ℤ)
  | .ok _ _ => if c.mfa ∧ isTfa authType then [(userInfo.id, movingFactor a now userInfo)] else []
  | .error _ _ => []

def step (c : Config) (a : OptAuthn) (s : Watch) : Event → Watch
  | .check username otpCaptcha authType now =>
    (findUser s.world username).elim s fun userInfo =>
      let check := tftcaptchaValid (realmAt p base32 c a now) otpCaptcha authType userInfo
      { world := final check s.world
        accepted := accept c a authType now userInfo (check s.world) ++ s.accepted }
  | .elsewhere world => { s with world }

/-- The factor is an earlier one. -/
def Before (m n : Option ℤ) : Prop := ∃ i j, m = some i ∧ n = some j ∧ i < j

/-- Every code of a user was accepted at a factor above those of his codes before. -/
def Increasing (accepted : List (String × Option ℤ)) : Prop :=
  accepted.Pairwise fun later earlier => earlier.1 = later.1 → Before earlier.2 later.2

/-- The request brings the code of the present factor of the user. -/
def Brings (a : OptAuthn) (now : ℕ) (c : Config) (otpCaptcha : Option String) (userInfo : UserInfo) :
    Prop :=
  ∃ encoded sharedSecret token code, userInfo.sharedSecret = some encoded ∧
    c.decoder encoded = .ok sharedSecret ∧ otpCaptcha = some token ∧
    expected p base32 a now { userInfo with sharedSecret := some sharedSecret } = .ok code ∧
    JavaText.equalsIgnoreCase token code = true

/-- Where the code of the present factor comes, the factor is above those of the user's codes that
were accepted. -/
def MovedOn (c : Config) (a : OptAuthn) (s : Watch) : Event → Prop
  | .check username otpCaptcha authType now =>
    ∀ userInfo, findUser s.world username = some userInfo → c.mfa → isTfa authType →
      Brings p base32 a now c otpCaptcha userInfo →
        ∀ entry ∈ s.accepted, entry.1 = userInfo.id → Before entry.2 (movingFactor a now userInfo)
  | .elsewhere _ => True

section Step

variable {p base32} {c : Config} {a : OptAuthn} {s : Watch} {w : World} {userInfo : UserInfo}
  {otpCaptcha authType : Option String} {now : ℕ}

theorem validate_eq_ok {token : String} : validate p base32 a now userInfo token = .ok true ↔
    ∃ code, expected p base32 a now userInfo = .ok code ∧
      JavaText.equalsIgnoreCase token code = true := by
  rw [validate_eq]
  cases expected p base32 a now userInfo with
  | error e => simp [bind, Except.bind]
  | ok code => simp [bind, Except.bind, pure, Except.pure]

/-- A code is valid if the authenticator expects it. -/
theorem codeValid_iff : codeValid (realmAt p base32 c a now) otpCaptcha userInfo = true ↔
    Brings p base32 a now c otpCaptcha userInfo := by
  unfold codeValid Brings realmAt
  cases userInfo.sharedSecret with
  | none => simp
  | some encoded =>
    cases hdecoded : c.decoder encoded with
    | error e => simp [hdecoded]
    | ok sharedSecret =>
      cases otpCaptcha with
      | none => simp [hdecoded]
      | some token =>
        have hvalid : (∃ code, expected p base32 a now
            { userInfo with sharedSecret := some sharedSecret } = .ok code ∧
              JavaText.equalsIgnoreCase token code = true) ↔
            validate p base32 a now { userInfo with sharedSecret := some sharedSecret } token =
              .ok true := validate_eq_ok.symm
        cases hanswer : validate p base32 a now
            { userInfo with sharedSecret := some sharedSecret } token with
        | error e =>
          rw [hanswer] at hvalid
          simpa [hdecoded, hanswer] using hvalid
        | ok valid =>
          rw [hanswer] at hvalid
          simpa [hdecoded, hanswer] using hvalid.symm

/-- A check leaves the world as it is, the moving factors of all users with it. -/
theorem world_check : (final (tftcaptchaValid c otpCaptcha authType userInfo) w) = w :=
  leaves_tftcaptchaValid id c otpCaptcha authType userInfo w

theorem world_step (username : Option String) :
    (step p base32 c a s (.check username otpCaptcha authType now)).world = s.world := by
  rw [step]
  cases findUser s.world username with
  | none => rfl
  | some userInfo => exact world_check

/-- However many codes are checked, nobody's counter is moved. -/
theorem world_of_checks {events : List Event}
    (h : ∀ e ∈ events, ∃ username otpCaptcha authType now,
      e = .check username otpCaptcha authType now) :
    (Runs.exec (step p base32 c a) s events).world = s.world := by
  induction events generalizing s with
  | nil => rfl
  | cons e events ih =>
    obtain ⟨username, otpCaptcha, authType, now, rfl⟩ := h e List.mem_cons_self
    rw [Runs.exec_cons, ih fun e he => h e (List.mem_cons_of_mem _ he), world_step]

open Classical in
theorem accept_eq : accept c a authType now userInfo
      (tftcaptchaValid (realmAt p base32 c a now) otpCaptcha authType userInfo w) =
    if c.mfa ∧ isTfa authType ∧ Brings p base32 a now c otpCaptcha userInfo then
      [(userInfo.id, movingFactor a now userInfo)] else [] := by
  have hok : ∀ u w', tftcaptchaValid (realmAt p base32 c a now) otpCaptcha authType userInfo w =
      .ok u w' → c.mfa → isTfa authType → Brings p base32 a now c otpCaptcha userInfo := by
    intro u w' hrun hmfa htfa
    exact codeValid_iff.mp ((tftcaptchaValid_eq_ok.mp hrun).1 hmfa htfa)
  have hrun : Brings p base32 a now c otpCaptcha userInfo →
      tftcaptchaValid (realmAt p base32 c a now) otpCaptcha authType userInfo w = .ok () w := by
    intro hbrings
    exact tftcaptchaValid_eq_ok.mpr ⟨fun _ _ => codeValid_iff.mpr hbrings, rfl⟩
  -- a check that asks for no code accepts without remembering one
  by_cases h : c.mfa ∧ isTfa authType ∧ Brings p base32 a now c otpCaptcha userInfo
  · rw [if_pos h, hrun h.2.2, accept, if_pos ⟨h.1, h.2.1⟩]
  · rw [if_neg h]
    cases hcheck : tftcaptchaValid (realmAt p base32 c a now) otpCaptcha authType userInfo w with
    | error e w' => rfl
    | ok u w' =>
      refine if_neg fun hasked => h ⟨hasked.1, hasked.2, ?_⟩
      exact hok u w' hcheck hasked.1 hasked.2

/-- One event keeps the factors increasing exactly if the factor of an accepted code has moved on. -/
theorem step_increasing (e : Event) : Increasing (step p base32 c a s e).accepted ↔
    Increasing s.accepted ∧ MovedOn p base32 c a s e := by
  cases e with
  | elsewhere world => exact (and_iff_left trivial).symm
  | check username otpCaptcha authType now =>
    cases hfound : findUser s.world username with
    | none => simp [step, MovedOn, hfound]
    | some userInfo =>
      have haccepted : (step p base32 c a s (.check username otpCaptcha authType now)).accepted =
          accept c a authType now userInfo
            (tftcaptchaValid (realmAt p base32 c a now) otpCaptcha authType userInfo s.world) ++
              s.accepted := by
        rw [step, hfound]
        rfl
      have hmoved : MovedOn p base32 c a s (.check username otpCaptcha authType now) ↔
          (c.mfa ∧ isTfa authType ∧ Brings p base32 a now c otpCaptcha userInfo →
            ∀ entry ∈ s.accepted, entry.1 = userInfo.id →
              Before entry.2 (movingFactor a now userInfo)) := by
        simp [MovedOn, hfound]
      rw [haccepted, accept_eq, hmoved]
      -- one accepted code more, at the present factor, or none
      by_cases h : c.mfa ∧ isTfa authType ∧ Brings p base32 a now c otpCaptcha userInfo
      · rw [if_pos h, List.singleton_append, Increasing, List.pairwise_cons, forall_prop_of_true h,
          and_comm]
        rfl
      · rw [if_neg h, List.nil_append, forall_prop_of_false h, and_true]

end Step

/-- In the runs of events that start with no code accepted, the factors of the accepted codes of a
user increase exactly if each of his codes comes when his factor has moved on: nothing in the checks
moves it. -/
theorem increasing_iff (c : Config) (a : OptAuthn) (w : World) (events : List Event) :
    Increasing (Runs.exec (step p base32 c a) ⟨w, []⟩ events).accepted ↔
      Runs.Meets (step p base32 c a) (MovedOn p base32 c a) ⟨w, []⟩ events := by
  have hstep : ∀ (s : Watch) (e : Event), Increasing (step p base32 c a s e).accepted ↔
      Increasing s.accepted ∧ MovedOn p base32 c a s e := fun _ e => step_increasing e
  have hrun := Runs.exec_iff_meets (P := fun s : Watch => Increasing s.accepted) hstep ⟨w, []⟩ events
  rw [hrun]
  exact and_iff_right List.Pairwise.nil

/-- A realm that asks for the second factor. -/
def tfaRealm : Config := { plainRealm with mfa := true }

/-- A world whose one user has the test secret. -/
def frankAlone : World where
  database :=
    { userInfo := ⟨[frankAt "0"], by decide⟩, historyLogin := [], groupMember := []
      passwordPolicy := [{ attempts := 5, expiration := 0 }] }
  session := { id := "s" }

/-- Somebody who has seen the code of frank brings it once more. -/
theorem replayed :
    (Runs.exec (step testProvider testBase32 tfaRealm (.hotp {})) ⟨frankAlone, []⟩
      [.check (some "frank") (some "755224") (some "tfa") 0,
        .check (some "frank") (some "755224") (some "tfa") 0]).accepted =
          [("1", some 0), ("1", some 0)] ∧
    ¬Increasing [("1", some 0), ("1", some 0)] := by
  constructor
  · decide +kernel
  · intro h
    obtain ⟨i, j, hi, hj, hless⟩ :=
      (List.pairwise_cons.mp h).1 ("1", some 0) List.mem_cons_self rfl
    rw [← Option.some.inj hi, ← Option.some.inj hj] at hless
    exact Int.lt_irrefl 0 hless

end MaxKey.OtpReplays
