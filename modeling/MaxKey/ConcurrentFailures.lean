import MaxKey.Comparisons
import MaxKey.SnapshotCounters

namespace MaxKey.ConcurrentFailures
open WebContext Realm Logon Lockouts Comparisons JavaException Effects Interleaving SnapshotCounters

/-- What the requests of different sessions share: the database, and the policy that the realm
keeps. -/
structure Shared where
  database : Database
  cachedPasswordPolicy : Option PasswordPolicy := none
  deriving DecidableEq

/-- The world of an attempt, with the session that is its own. -/
def Shared.world (s : Shared) (session : HttpSession) : World :=
  { database := s.database, session, cachedPasswordPolicy := s.cachedPasswordPolicy }

def share (w : World) : Shared := ⟨w.database, w.cachedPasswordPolicy⟩

/-- How far an attempt has come: it is to load its user, to check the loaded record, or to count the
wrong password on it. -/
inductive Thread
  | load (a : LoginAttempt)
  | check (a : LoginAttempt) (userInfo : UserInfo)
  | count (a : LoginAttempt) (userInfo : UserInfo)
  | counted
  | ended

/-- The steps of checkCredentials, with the database free for others in between. -/
def next (c : Config) : Thread → Shared → Thread × Shared
  | .load a, s =>
    match precheck c a.request a.form (s.world a.session) with
    | .error _ w => (.ended, share w)
    | .ok userInfo w => (.check { a with session := w.session } userInfo, share w)
  | .check a userInfo, s =>
    match passwordPolicyValid c a.request userInfo (s.world a.session) with
    | .error _ w => (.ended, share w)
    | .ok _ w =>
      if c.passwordMatches (rawPassword userInfo.username (a.form.password.getD ""))
          userInfo.password then
        (.ended, share w)
      else (.count { a with session := w.session } userInfo, share w)
  | .count a userInfo, s =>
    (.counted, share (final (setBadPasswordCount a.request userInfo) (s.world a.session)))
  | .counted, s => (.counted, s)
  | .ended, s => (.ended, s)

def program (c : Config) : Program LoginAttempt Thread Shared where
  begin := .load
  next _ := next c

theorem world_share (w : World) : (share w).world w.session = w := rfl

section Next

variable {c : Config} {a : LoginAttempt} {userInfo : UserInfo} {s : Shared} {w : World}
  {e : JavaException} {u : Unit}

theorem next_load_of_error (h : precheck c a.request a.form (s.world a.session) = .error e w) :
    next c (.load a) s = (.ended, share w) := by simp only [next, h]

theorem next_load_of_ok (h : precheck c a.request a.form (s.world a.session) = .ok userInfo w) :
    next c (.load a) s = (.check { a with session := w.session } userInfo, share w) := by
  simp only [next, h]

theorem next_check_of_error
    (h : passwordPolicyValid c a.request userInfo (s.world a.session) = .error e w) :
    next c (.check a userInfo) s = (.ended, share w) := by simp only [next, h]

theorem next_check_of_ok
    (h : passwordPolicyValid c a.request userInfo (s.world a.session) = .ok u w) :
    next c (.check a userInfo) s =
      if c.passwordMatches (rawPassword userInfo.username (a.form.password.getD ""))
          userInfo.password then (.ended, share w)
      else (.count { a with session := w.session } userInfo, share w) := by simp only [next, h]

end Next

/-- The steps of an attempt that nobody comes in between of. -/
def serial (c : Config) (a : LoginAttempt) (s : Shared) : Thread × Shared :=
  let loaded := next c (.load a) s
  let checked := next c loaded.1 loaded.2
  next c checked.1 checked.2

theorem serial_eq {c : Config} {a : LoginAttempt} {s s₁ s₂ : Shared} {t t' : Thread}
    (hload : next c (.load a) s = (t, s₁)) (hcheck : next c t s₁ = (t', s₂)) :
    serial c a s = next c t' s₂ := by simp only [serial, hload, hcheck]

/-- The steps together leave what checkCredentials leaves. -/
theorem serial_shared (c : Config) (a : LoginAttempt) (s : Shared) :
    (serial c a s).2 =
      share (final (checkCredentials c a.request a.form) (s.world a.session)) := by
  rw [checkCredentials_eq]
  cases hload : precheck c a.request a.form (s.world a.session) with
  | error e w =>
    rw [serial_eq (next_load_of_error hload) rfl, final_of_error (bind_of_error hload)]
    rfl
  | ok userInfo w =>
    have hjudge : final (precheck c a.request a.form >>= fun userInfo => do
        judge c a.request a.form userInfo
        return userInfo) (s.world a.session) = final (judge c a.request a.form userInfo) w := by
      have hreturn := final_bind_of_leaves (g := id) (x := judge c a.request a.form userInfo)
        (f := fun _ => pure userInfo) (fun _ => leaves_pure _) w
      refine Eq.trans ?_ hreturn
      simp only [final, bind_of_ok hload]
      rfl
    rw [hjudge]
    have hworld : (share w).world w.session = w := world_share w
    cases hcheck : passwordPolicyValid c a.request userInfo w with
    | error e w₁ =>
      have hstop : next c (.check { a with session := w.session } userInfo) (share w) =
          (.ended, share w₁) := next_check_of_error hcheck
      have hthrow : judge c a.request a.form userInfo w = .error e w₁ := bind_of_error hcheck
      rw [serial_eq (next_load_of_ok hload) hstop, final_of_error hthrow]
      rfl
    | ok u w₁ =>
      have hpass := next_check_of_ok (a := { a with session := w.session }) (s := share w) hcheck
      have hcompare : final (judge c a.request a.form userInfo) w =
          final (Realm.passwordMatches c a.request userInfo (a.form.password.getD "")) w₁ := by
        simp only [final, judge, bind_of_ok hcheck]
      rw [hcompare, Realm.passwordMatches]
      by_cases hright : c.passwordMatches
          (rawPassword userInfo.username (a.form.password.getD "")) userInfo.password = true
      · rw [if_pos hright] at hpass
        rw [serial_eq (next_load_of_ok hload) hpass, onlyIf, if_neg (not_not.mpr hright)]
        rfl
      · -- a wrong password is counted before the exception
        rw [if_neg hright] at hpass
        rw [serial_eq (next_load_of_ok hload) hpass, onlyIf, if_pos hright]
        have hthrow := final_bind_of_leaves (g := id)
          (x := setBadPasswordCount a.request userInfo)
          (f := fun _ => (throw (badCredentials "login.error.password") : Web Unit))
          (fun _ => leaves_throw _) w₁
        exact congrArg share hthrow.symm

def phase : Thread → Phase
  | .load _ => .begun
  | .check _ userInfo => .read userInfo.badPasswordCount
  | .count _ userInfo => .passed userInfo.badPasswordCount
  | .counted => .written
  | .ended => .stopped

/-- The stored count of the user. -/
def stored (username : String) (s : Shared) : ℤ :=
  ((s.database.userInfo.select fun u => some u.username = some username).head?.map
    UserInfo.badPasswordCount).getD 0

/-- The attempt is one of the user, and the database takes its update. -/
def Attempts (user : UserInfo) : Thread → Prop
  | .load a => a.form.username = some user.username ∧ ¬a.request.faults.updateUserInfo
  | .check a userInfo | .count a userInfo =>
    userInfo.id = user.id ∧ ¬a.request.faults.updateUserInfo
  | _ => True

/-- The user keeps the ID, and the policy stands. -/
def Stands (user : UserInfo) (policy : PasswordPolicy) (s : Shared) : Prop :=
  account (some user.username) (s.world { id := "" }) =
    (some (user.id, stored user.username s), some policy)

instance (user : UserInfo) (policy : PasswordPolicy) (s : Shared) :
    Decidable (Stands user policy s) := inferInstanceAs (Decidable (_ = _))

theorem account_world (username : Option String) (w : World) (session : HttpSession) :
    account username ((share w).world session) = account username w := rfl

theorem stands_of_account {user : UserInfo} {policy : PasswordPolicy} {w : World} {n : ℤ}
    (h : account (some user.username) w = (some (user.id, n), some policy)) :
    Stands user policy (share w) ∧ stored user.username (share w) = n := by
  have hcount : stored user.username (share w) = n := by
    have hstanding := (Prod.mk.inj h).1
    obtain ⟨u, hfind, hu⟩ := Option.map_eq_some_iff.mp hstanding
    unfold stored
    change ((findUser w (some user.username)).map _).getD 0 = n
    rw [hfind]
    exact (Prod.mk.inj hu).2
  refine ⟨?_, hcount⟩
  unfold Stands
  rw [account_world, h, hcount]

section Steps

variable {c : Realm.Config} {user : UserInfo} {policy : PasswordPolicy} {s : Shared}
  {a : LoginAttempt} {userInfo : UserInfo}

theorem account_of_stands (hs : Stands user policy s) :
    account (some user.username) (s.world a.session) =
      (some (user.id, stored user.username s), some policy) := hs

/-- The first step leaves the account, and takes a snapshot of the record. -/
theorem step_load (hs : Stands user policy s)
    (ha : a.form.username = some user.username) (hf : ¬a.request.faults.updateUserInfo) :
    Stands user policy (next c (.load a) s).2 ∧ Attempts user (next c (.load a) s).1 ∧
      Follows policy.attempts .begun (stored user.username s) (phase (next c (.load a) s).1)
        (stored user.username (next c (.load a) s).2) := by
  have hleaves := leaves_precheck_account (some user.username) c a.request a.form
    (s.world a.session)
  rw [account_of_stands hs] at hleaves
  cases hload : precheck c a.request a.form (s.world a.session) with
  | error e w =>
    rw [final_of_error hload] at hleaves
    obtain ⟨hstands, hcount⟩ := stands_of_account hleaves
    rw [next_load_of_error hload]
    refine ⟨hstands, trivial, ?_⟩
    rw [hcount]
    exact .stop _ _ rfl rfl
  | ok userInfo w =>
    rw [final_of_ok hload] at hleaves
    obtain ⟨hstands, hcount⟩ := stands_of_account hleaves
    obtain ⟨hsame, hfind⟩ := precheck_returns hload
    rw [ha, ← hsame] at hfind
    -- the snapshot is the record that the account stands for
    have hstanding : standing (some user.username) w =
        some (userInfo.id, userInfo.badPasswordCount) := by
      rw [standing, hfind]
      rfl
    have hrecord := hstanding.symm.trans (Prod.mk.inj hleaves).1
    obtain ⟨hid, hsnapshot⟩ := Prod.mk.inj (Option.some.inj hrecord)
    rw [next_load_of_ok hload]
    refine ⟨hstands, ⟨hid, hf⟩, ?_⟩
    rw [hcount]
    change Follows _ _ _ (.read userInfo.badPasswordCount) _
    rw [hsnapshot]
    exact .read _

/-- The second step leaves the account as well, and lets the attempt on below the limit only. -/
theorem step_check (hs : Stands user policy s)
    (hid : userInfo.id = user.id) (hf : ¬a.request.faults.updateUserInfo) :
    Stands user policy (next c (.check a userInfo) s).2 ∧
      Attempts user (next c (.check a userInfo) s).1 ∧
      Follows policy.attempts (.read userInfo.badPasswordCount) (stored user.username s)
        (phase (next c (.check a userInfo) s).1)
        (stored user.username (next c (.check a userInfo) s).2) := by
  have haccount := account_of_stands (a := a) hs
  have hleaves := leaves_passwordPolicyValid_account (some user.username) c a.request userInfo
    (s.world a.session)
  rw [haccount] at hleaves
  cases hcheck : passwordPolicyValid c a.request userInfo (s.world a.session) with
  | error e w =>
    rw [final_of_error hcheck] at hleaves
    obtain ⟨hstands, hcount⟩ := stands_of_account hleaves
    rw [next_check_of_error hcheck]
    refine ⟨hstands, trivial, ?_⟩
    rw [hcount]
    exact .stop _ _ rfl rfl
  | ok u w =>
    rw [final_of_ok hcheck] at hleaves
    obtain ⟨hstands, hcount⟩ := stands_of_account hleaves
    obtain ⟨-, standing, hpolicy, hbelow, -⟩ := passwordPolicyValid_returns_iff.mp ⟨u, w, hcheck⟩
    have hsame : policy = standing :=
      Option.some.inj ((Prod.mk.inj haccount).2.symm.trans hpolicy)
    rw [next_check_of_ok hcheck]
    split_ifs with hright
    · refine ⟨hstands, trivial, ?_⟩
      rw [hcount]
      exact .stop _ _ rfl rfl
    · refine ⟨hstands, ⟨hid, hf⟩, ?_⟩
      rw [hcount, hsame]
      exact .pass _ _ hbelow

/-- The third step writes the snapshot plus one, whatever the record has by then. -/
theorem step_count (hs : Stands user policy s) (hempty : user.id ≠ "")
    (hid : userInfo.id = user.id) (hf : ¬a.request.faults.updateUserInfo) :
    Stands user policy (next c (.count a userInfo) s).2 ∧
      stored user.username (next c (.count a userInfo) s).2 = userInfo.badPasswordCount + 1 := by
  have haccount := account_of_stands (a := a) hs
  have hwrites := setBadPasswordCount_writes (some user.username) a.request userInfo
    (s.world a.session)
  have hgo : userInfo.id ≠ "" ∧ ¬a.request.faults.updateUserInfo = true := by
    rw [hid]
    exact ⟨hempty, hf⟩
  have hstanding : standing (some user.username) (s.world a.session) =
      some (userInfo.id, stored user.username s) := by
    rw [hid]
    exact (Prod.mk.inj haccount).1
  rw [if_pos hgo] at hwrites
  have hset : account (some user.username) (final (updateById userInfo.id (fun u =>
      { u with badPasswordCount := userInfo.badPasswordCount + 1 }) fun _ => rfl)
      (s.world a.session)) =
        (some (userInfo.id, userInfo.badPasswordCount + 1), policyOf (s.world a.session)) := by
    refine updateById_account_of_eq ?_ ?_ hstanding
    · exact fun _ => rfl
    · exact fun _ => rfl
  apply stands_of_account
  rw [hwrites, hset, hid, (Prod.mk.inj haccount).2]

end Steps

section Runs

variable {c : Realm.Config} {user : UserInfo} {policy : PasswordPolicy}

/-- The attempts work on the stored count as threads do that each take a snapshot of it. -/
theorem program_counts (hempty : user.id ≠ "") :
    Counts (program c) phase (stored user.username) policy.attempts (Stands user policy)
      (Attempts user) := by
  have hstep : ∀ t s, Stands user policy s → Attempts user t →
      Stands user policy (next c t s).2 ∧ Attempts user (next c t s).1 ∧
        Follows policy.attempts (phase t) (stored user.username s) (phase (next c t s).1)
          (stored user.username (next c t s).2) := by
    intro t s hs ht
    cases t with
    | load a => exact step_load hs ht.1 ht.2
    | check a userInfo => exact step_check hs ht.1 ht.2
    | count a userInfo =>
      obtain ⟨hstands, hcount⟩ := step_count (c := c) hs hempty ht.1 ht.2
      refine ⟨hstands, trivial, ?_⟩
      rw [hcount]
      exact .write _ _
    | counted => exact ⟨hs, trivial, .stay _ _⟩
    | ended => exact ⟨hs, trivial, .stay _ _⟩
  constructor
  · intro _ t s hs ht
    exact (hstep t s hs ht).1
  · intro _ t s hs ht
    exact (hstep t s hs ht).2.1
  · intro _ t s hs ht
    exact (hstep t s hs ht).2.2

/-- The attempt tried a wrong password, and the password is counted. -/
def isCounted (t : Thread) : Bool := (phase t).isWritten

/-- The attempt tried a wrong password that is still to be counted. -/
def isCounting (t : Thread) : Bool := (phase t).isPassed

/-- A wrong password, and a user whom the policy lets go on. -/
def tries (c : Realm.Config) (a : LoginAttempt) (userInfo : UserInfo) (s : Shared) : Prop :=
  policyAllows c a.request (s.world a.session) userInfo ∧
    ¬c.passwordMatches (rawPassword userInfo.username (a.form.password.getD "")) userInfo.password

instance (c : Realm.Config) (a : LoginAttempt) (userInfo : UserInfo) (s : Shared) :
    Decidable (tries c a userInfo s) := inferInstanceAs (Decidable (_ ∧ _))

/-- What an attempt needs to try a wrong password: nobody else has one to count, and the record is
as it was loaded. -/
def Undisturbed (c : Realm.Config) (username : String) (threads : List Thread) (s : Shared) :
    Thread → Prop
  | .check a userInfo => tries c a userInfo s →
      stored username s = userInfo.badPasswordCount ∧ ∀ t ∈ threads, ¬isCounting t
  | _ => True

instance (c : Realm.Config) (username : String) (threads : List Thread) (s : Shared) :
    DecidablePred (Undisturbed c username threads s)
  | .check _ _ => inferInstanceAs (Decidable (_ → _))
  | .load _ | .count _ _ | .counted | .ended => isTrue trivial

/-- The attempts are those of one user, whose updates the database takes, and none comes between
the load of another that tries a wrong password and its count. -/
def InTurn (c : Realm.Config) (username : String) (s : Interleaving.Config Shared Thread) :
    Move LoginAttempt → Prop
  | .start a => a.form.username = some username ∧ ¬a.request.faults.updateUserInfo
  | .advance k => ∀ t ∈ s.threads[k]?, Undisturbed c username s.threads s.shared t

instance (c : Realm.Config) (username : String) (s : Interleaving.Config Shared Thread) :
    DecidablePred (InTurn c username s)
  | .start _ => inferInstanceAs (Decidable (_ ∧ _))
  | .advance _ => inferInstanceAs (Decidable (∀ t ∈ _, _))

theorem exclusive_of_inTurn {s : Interleaving.Config Shared Thread} {m : Move LoginAttempt}
    (h : InTurn c user.username s m) :
    Exclusive (program c) phase (stored user.username) (Attempts user) s m := by
  cases m with
  | start a => exact ⟨h, rfl⟩
  | advance k =>
    intro t ht n hread hpass
    have hturn := h t ht
    cases t with
    | check a userInfo =>
      have hn : userInfo.badPasswordCount = n := Phase.read.inj hread
      have htries : tries c a userInfo s.shared := by
        change phase (next c (.check a userInfo) s.shared).1 = _ at hpass
        cases hcheck : passwordPolicyValid c a.request userInfo (s.shared.world a.session) with
        | error e w =>
          rw [next_check_of_error hcheck] at hpass
          cases hpass
        | ok u w =>
          rw [next_check_of_ok hcheck] at hpass
          split_ifs at hpass with hright
          · cases hpass
          · exact ⟨passwordPolicyValid_returns_iff.mp ⟨u, w, hcheck⟩, hright⟩
      obtain ⟨hfresh, halone⟩ := hturn htries
      rw [← hn]
      refine ⟨hfresh, ?_⟩
      intro u hu
      exact Bool.not_eq_true _ ▸ halone u hu
    | load _ => cases hread
    | count _ _ => cases hread
    | counted => cases hread
    | ended => cases hread

/-- The stored count is that of before and one for each wrong password counted, and the wrong
passwords tried stay within the limit of the policy. -/
def CountsEach (username : String) (policy : PasswordPolicy) (s : Shared)
    (r : Interleaving.Config Shared Thread) : Prop :=
  stored username r.shared = stored username s + r.threads.countP isCounted ∧
    stored username s + (r.threads.countP isCounted + r.threads.countP isCounting) ≤
      max (stored username s) policy.attempts

instance (username : String) (policy : PasswordPolicy) (s : Shared)
    (r : Interleaving.Config Shared Thread) : Decidable (CountsEach username policy s r) :=
  inferInstanceAs (Decidable (_ ∧ _))

/-- Attempts of one user that take turns are all counted, and are refused at the limit. -/
theorem countsEach_of_inTurn (c : Realm.Config) {user : UserInfo} {policy : PasswordPolicy}
    {s : Shared} {moves : List (Move LoginAttempt)} (hempty : user.id ≠ "")
    (hs : Stands user policy s)
    (hmoves : Runs.Meets (program c).move (InTurn c user.username) ⟨s, []⟩ moves) :
    CountsEach user.username policy s (Runs.exec (program c).move ⟨s, []⟩ moves) := by
  have hmeets : Runs.Meets (program c).move
      (Exclusive (program c) phase (stored user.username) (Attempts user)) ⟨s, []⟩ moves := by
    refine Runs.meets_of_invariant (I := fun _ => True) ?_ ?_ hmoves trivial
    · intro _ _ _ _
      trivial
    · intro r m hm _
      exact exclusive_of_inTurn hm
  have hcounts : Counts (program c) phase (stored user.username) policy.attempts
      (Stands user policy) (Attempts user) := program_counts hempty
  have hexact := exact_of_exclusive hcounts hs hmeets
  constructor
  · exact hexact.count_eq
  · have hlimited := hexact.limited
    unfold isCounted isCounting
    omega

end Runs

/-- Two attempts with the wrong password. -/
def bothStart : List (Move LoginAttempt) :=
  [.start (entering "first guess"), .start (entering "second guess")]

def atOnce : Shared := share erinOnly

/-- Attempts one after the other leave a count of two, and the third is refused. -/
theorem countsEach_of_turns :
    CountsEach "erin" twice atOnce (Runs.exec (program plain).move ⟨atOnce, []⟩
      (bothStart ++ [.advance 0, .advance 0, .advance 0, .advance 1, .advance 1, .advance 1,
        .start (entering "third guess"), .advance 2, .advance 2, .advance 2])) := by
  change CountsEach erin.username twice atOnce _
  refine countsEach_of_inTurn plain ?_ ?_ ?_
  · decide
  · decide +kernel
  · decide +kernel

/-- Where the second attempt loads the user before the first is counted, one count is lost. -/
theorem countsEach_lost :
    ¬CountsEach "erin" twice atOnce (Runs.exec (program plain).move ⟨atOnce, []⟩
      (bothStart ++ [.advance 0, .advance 1, .advance 0, .advance 1, .advance 0, .advance 1,
        .start (entering "third guess"), .advance 2, .advance 2, .advance 2])) := by
  decide +kernel

end MaxKey.ConcurrentFailures
