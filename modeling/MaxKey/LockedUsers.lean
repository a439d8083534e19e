import MaxKey.Lockouts
import MaxKey.UserInfoService

namespace MaxKey.LockedUsers
open WebContext Realm Logon Lockouts JavaException Effects

/-- What administrators and users do about accounts. -/
inductive Operation
  | login (a : LoginAttempt)
  | setAuthentication (request : HttpRequest) (session : HttpSession) (username : Option String)
      (type provider code message : String)
  | locked (fails : Bool) (userInfo : UserInfo)
  | lockUser (request : HttpRequest) (userInfo : UserInfo)
  | unlock (userInfo : UserInfo)
  | unlockUser (request : HttpRequest) (userInfo : UserInfo)
  | resetBadPasswordCountAndLockout (request : HttpRequest) (userInfo : UserInfo)
  | changePassword (fails : Bool) (now : String) (userInfo : UserInfo)

/-- The realm and the service of one deployment. -/
structure Deployment where
  realm : Realm.Config
  service : UserInfoService.Config

def perform (d : Deployment) (w : World) : Operation → World
  | .login a => Lockouts.login d.realm a w
  | .setAuthentication request session username type provider code message =>
    final (setAuthentication request username type provider code message) { w with session }
  | .locked fails userInfo => final (UserInfoService.locked fails userInfo) w
  | .lockUser request userInfo => final (lockUser request userInfo) w
  | .unlock userInfo => final (UserInfoService.unlock userInfo) w
  | .unlockUser request userInfo => final (unlockUser request userInfo) w
  | .resetBadPasswordCountAndLockout request userInfo =>
    final (resetBadPasswordCountAndLockout request userInfo) w
  | .changePassword fails now userInfo =>
    final (UserInfoService.changePassword d.service fails now userInfo) w

/-- The accounts, with what was last done to one of them: whether it is locked, and how many wrong
passwords came in since it was unlocked. -/
structure Watch where
  world : World
  locked : Bool := false
  failuresSince : Option ℕ := none

def Watch.lock (s : Watch) : Watch := { s with locked := true, failuresSince := none }

def Watch.unlock (s : Watch) : Watch := { s with locked := false, failuresSince := some 0 }

/-- The statement reaches the row of the user. -/
def reaches (id : String) (fails : Bool) (userInfo : UserInfo) : Bool :=
  userInfo.id = id && id ≠ "" && !fails

/-- What an operation means for the user of this name, whose record has this ID. -/
def note (d : Deployment) (id username : String) (s : Watch) : Operation → Watch
  | .login a =>
    if a.form.username = some username then
      match verdict d.realm a s.world with
      | .refused => if id ≠ "" && !a.request.faults.updateUserInfo then s.lock else s
      | .wrong => { s with failuresSince := s.failuresSince.map (· + 1) }
      | _ => s
    else s
  | .setAuthentication .. => s
  | .locked fails userInfo => if reaches id fails userInfo then s.lock else s
  | .lockUser request userInfo =>
    if reaches id request.faults.updateUserInfo userInfo then s.lock else s
  | .unlock userInfo => if reaches id false userInfo then s.unlock else s
  | .unlockUser request userInfo =>
    if reaches id request.faults.updateUserInfo userInfo then { s with locked := false } else s
  | .resetBadPasswordCountAndLockout _ userInfo => if reaches id false userInfo then s.unlock else s
  | .changePassword .. => s

def step (d : Deployment) (id username : String) (s : Watch) (op : Operation) : Watch :=
  { note d id username s op with world := perform d s.world op }

/-- Everything but the count speaks for the login: the checks before it, the right password, and
all that the database is asked. -/
def rightLogin (c : Realm.Config) (policy : PasswordPolicy) (a : LoginAttempt) (w : World) : Bool :=
  match arrives c a w with
  | none => false
  | some userInfo =>
    policyReadable a.request w &&
    c.passwordMatches (rawPassword userInfo.username (a.form.password.getD "")) userInfo.password &&
    (userInfo.passwordSetType ≠ PASSWORD_NORMAL ||
      (outcome (expirationValid c a.request policy userInfo) (a.enter w).world).isOk) &&
    !a.request.faults.selectGroups && !a.request.faults.saveRemeberMe

/-- Nobody logs in to the account while it is locked, and once unlocked the right password does,
as long as fewer wrong ones follow than the policy allows. -/
def Heeds (d : Deployment) (policy : PasswordPolicy) (username : String) (s : Watch) :
    Operation → Prop
  | .login a => a.form.username = some username →
    (s.locked → ¬logsIn d.realm a s.world) ∧
      ∀ k ∈ s.failuresSince, (k : Int) < policy.attempts → rightLogin d.realm policy a s.world →
        logsIn d.realm a s.world
  | op@(.setAuthentication _ session name _ _ _ _) => name = some username → s.locked →
    (perform d s.world op).identity = (session.currentUser, session.currentAuthentication)
  | _ => True

/-- Only a user with too many failures on record is locked, and nobody logs him in without a
password meanwhile; only a user without any is unlocked by the service; the reset goes through. -/
def Counted (policy : PasswordPolicy) (id username : String) (s : Watch) : Operation → Prop
  | .locked fails userInfo => reaches id fails userInfo →
    ∀ r ∈ standing (some username) s.world, policy.attempts ≤ r.2
  | .lockUser request userInfo => reaches id request.faults.updateUserInfo userInfo →
    ∀ r ∈ standing (some username) s.world, policy.attempts ≤ r.2
  | .setAuthentication _ _ name _ _ _ _ => name = some username → ¬s.locked
  | .unlock userInfo => reaches id false userInfo →
    ∀ r ∈ standing (some username) s.world, r.2 ≤ 0
  | .resetBadPasswordCountAndLockout request userInfo => reaches id false userInfo →
    ¬request.faults.updateUserInfo
  | _ => True

theorem leaves_setAuthentication_account (name : Option String) (request : HttpRequest)
    (username : Option String) (type provider code message : String) :
    Leaves (account name) (setAuthentication request username type provider code message) := by
  refine leaves_bind (leaves_loadUserInfo _ _ _) fun loaded => ?_
  cases loaded with
  | none => exact leaves_pure _
  | some u =>
    refine leaves_bind (leaves_modifySession_account _ _) fun _ => ?_
    refine leaves_bind (leaves_grantAuthority _ _ _) fun _ => ?_
    refine leaves_bind (leaves_modifySession_account _ _) fun _ => ?_
    refine leaves_bind (leaves_modifySession_account _ _) fun _ => ?_
    exact leaves_bind (leaves_insertLoginHistory_account _ _ _ _ _ _ _) fun _ => leaves_pure _

theorem leaves_changePassword_account (name : Option String) (c : UserInfoService.Config)
    (fails : Bool) (now : String) (userInfo : UserInfo) :
    Leaves (account name) (UserInfoService.changePassword c fails now userInfo) := by
  refine leaves_ite (leaves_pure _) (leaves_bind leaves_get fun w => ?_)
  refine leaves_bind (leaves_updateById_account _ _ _ _ ?_ ?_) fun _ => leaves_pure _
  · exact fun _ => rfl
  · exact fun _ => rfl

/-- A statement that sets ISLOCKED alone leaves the account alone. -/
theorem leaves_onlyIf_isLocked (name : Option String) (p : Prop) [Decidable p] (id : String)
    (value : Int) :
    Leaves (account name)
      (onlyIf p (updateById id (fun u => { u with isLocked := value }) fun _ => rfl)) :=
  leaves_onlyIf _ (leaves_updateById_account _ _ _ _ (fun _ => rfl) fun _ => rfl)

/-- The reset sets the count of the row that it reaches, and of no other. -/
theorem resetBadPasswordCountAndLockout_account {username id : String} {count : Int}
    {request : HttpRequest} {userInfo : UserInfo} {w : World}
    (h : standing (some username) w = some (id, count)) :
    account (some username) (final (resetBadPasswordCountAndLockout request userInfo) w) =
      if reaches id request.faults.updateUserInfo userInfo then (some (id, 0), policyOf w)
      else account (some username) w := by
  unfold resetBadPasswordCountAndLockout onlyIf reaches
  by_cases hid : userInfo.id = id
  · subst hid
    split_ifs with hgo hreach hreach
    · refine updateById_account_of_eq ?_ ?_ h
      · exact fun _ => rfl
      · exact fun _ => rfl
    · simp [hgo] at hreach
    · exact absurd (by simpa using hreach) hgo
    · rfl
  · have hnot : ¬(decide (userInfo.id = id) && decide (id ≠ "") &&
        !request.faults.updateUserInfo) = true := by simp [hid]
    rw [if_neg hnot]
    split_ifs
    · refine updateById_account_of_ne ?_ ?_
      · exact fun _ => rfl
      · intro r hr
        cases hr.symm.trans h
        exact Ne.symm hid
    · rfl

/-- The record shows enough failures while the user is locked, and no more than came in since he
was unlocked. -/
def Follows (policy : PasswordPolicy) (id username : String) (s : Watch) : Prop :=
  ∃ count, account (some username) s.world = (some (id, count), some policy) ∧
    (s.locked → policy.attempts ≤ count) ∧ ∀ k ∈ s.failuresSince, count ≤ (k : Int)

theorem follows_lock {policy : PasswordPolicy} {id username : String} {s : Watch} {w : World}
    {count : Int} (haccount : account (some username) w = (some (id, count), some policy))
    (hcount : policy.attempts ≤ count) :
    Follows policy id username { s.lock with world := w } := by
  refine ⟨count, haccount, fun _ => hcount, ?_⟩
  intro k hk
  cases hk

theorem follows_unlock {policy : PasswordPolicy} {id username : String} {s : Watch} {w : World}
    {count : Int} (haccount : account (some username) w = (some (id, count), some policy))
    (hcount : count ≤ 0) : Follows policy id username { s.unlock with world := w } := by
  refine ⟨count, haccount, ?_, ?_⟩
  · intro h
    cases h
  · intro k hk
    cases hk
    exact hcount

theorem login_follows {d : Deployment} {policy : PasswordPolicy} {id username : String}
    {s : Watch} {a : LoginAttempt} (hs : Follows policy id username s) :
    Follows policy id username (step d id username s (.login a)) := by
  obtain ⟨count, haccount, hlocked, hsince⟩ := hs
  obtain ⟨hstanding, hpolicy⟩ := Prod.mk.inj haccount
  unfold step note perform
  by_cases hname : a.form.username = some username
  · rw [← hname] at hstanding
    have hlogin := login_account (c := d.realm) hstanding
    rw [hname, hpolicy, haccount] at hlogin
    simp only [if_pos hname]
    cases hverdict : verdict d.realm a s.world with
    | undecided =>
      rw [hverdict, if_neg (by simp)] at hlogin
      exact ⟨count, hlogin, hlocked, hsince⟩
    | right =>
      rw [hverdict, if_neg (by simp)] at hlogin
      exact ⟨count, hlogin, hlocked, hsince⟩
    | refused =>
      rw [hverdict, if_neg (by simp)] at hlogin
      have hchecked : checked d.realm a s.world := by
        by_contra hnot
        exact absurd (hverdict.symm.trans (verdict_of_unchecked hnot)) (by decide)
      rw [← hname] at haccount
      have hcount := (verdict_refused_iff haccount hchecked).mp hverdict
      simp only
      split_ifs
      · exact follows_lock hlogin hcount
      · exact ⟨count, hlogin, hlocked, hsince⟩
    | wrong =>
      -- the record may fail to be written, so that the count grows by one or not at all
      have hgrows : ∃ count', account (some username) (Lockouts.login d.realm a s.world) =
          (some (id, count'), some policy) ∧ count ≤ count' ∧ count' ≤ count + 1 := by
        split_ifs at hlogin
        · exact ⟨count + 1, hlogin, by omega, by omega⟩
        · exact ⟨count, hlogin, by omega, by omega⟩
      obtain ⟨count', haccount', hle, hsucc⟩ := hgrows
      refine ⟨count', haccount', ?_, ?_⟩
      · intro h
        have hcount := hlocked h
        omega
      · intro k hk
        obtain ⟨j, hj, hjk⟩ := Option.map_eq_some_iff.mp hk
        have hcount := hsince j hj
        omega
  · simp only [if_neg hname]
    exact ⟨count, (login_account_of_ne hname).trans haccount, hlocked, hsince⟩

theorem step_follows {d : Deployment} {policy : PasswordPolicy} {id username : String}
    {s : Watch} {op : Operation} (hop : Counted policy id username s op)
    (hs : Follows policy id username s) :
    Follows policy id username (step d id username s op) := by
  have hstart := hs
  obtain ⟨count, haccount, hlocked, hsince⟩ := hstart
  obtain ⟨hstanding, hpolicy⟩ := Prod.mk.inj haccount
  -- what a statement that leaves the account alone has to be shown for
  have hkeep : ∀ w, account (some username) w = account (some username) s.world →
      Follows policy id username { s with world := w } := fun w hw =>
    ⟨count, hw.trans haccount, hlocked, hsince⟩
  cases op with
  | login a => exact login_follows hs
  | setAuthentication request session name type provider code message =>
    exact hkeep _ (leaves_setAuthentication_account _ _ _ _ _ _ _ _)
  | changePassword fails now userInfo =>
    exact hkeep _ (leaves_changePassword_account _ _ _ _ _ _)
  | locked fails userInfo =>
    have hsame := leaves_onlyIf_isLocked (some username) (userInfo.id ≠ "" ∧ ¬fails) userInfo.id
      UserInfoService.STOP s.world
    simp only [step, note]
    split_ifs with hreach
    · exact follows_lock (hsame.trans haccount) (hop hreach _ hstanding)
    · exact hkeep _ hsame
  | lockUser request userInfo =>
    have hsame := leaves_onlyIf_isLocked (some username)
      (userInfo.id ≠ "" ∧ ¬request.faults.updateUserInfo) userInfo.id LOCK s.world
    simp only [step, note]
    split_ifs with hreach
    · exact follows_lock (hsame.trans haccount) (hop hreach _ hstanding)
    · exact hkeep _ hsame
  | unlock userInfo =>
    have hsame := UserInfoService.leaves_unlock (account (some username)) userInfo s.world
    simp only [step, note]
    split_ifs with hreach
    · exact follows_unlock (hsame.trans haccount) (hop hreach _ hstanding)
    · exact hkeep _ hsame
  | unlockUser request userInfo =>
    have hsame := leaves_onlyIf_isLocked (some username)
      (userInfo.id ≠ "" ∧ ¬request.faults.updateUserInfo) userInfo.id ACTIVE s.world
    simp only [step, note]
    split_ifs with hreach
    · refine ⟨count, hsame.trans haccount, ?_, hsince⟩
      intro h
      cases h
    · exact hkeep _ hsame
  | resetBadPasswordCountAndLockout request userInfo =>
    have hreset : account (some username)
        (final (resetBadPasswordCountAndLockout request userInfo) s.world) = _ :=
      resetBadPasswordCountAndLockout_account hstanding
    simp only [step, note]
    split_ifs with hreach
    · have hthrough : reaches id request.faults.updateUserInfo userInfo = true := by
        have hfault := hop hreach
        simpa [reaches, hfault] using hreach
      rw [if_pos hthrough, hpolicy] at hreset
      exact follows_unlock hreset (Int.le_refl 0)
    · have hnot : ¬reaches id request.faults.updateUserInfo userInfo = true := by
        intro h
        refine hreach ?_
        simp only [reaches, Bool.and_eq_true] at h ⊢
        exact ⟨h.1, rfl⟩
      rw [if_neg hnot] at hreset
      exact hkeep _ hreset

/-- Whether the expiry can be decided does not depend on the world. -/
theorem outcome_expirationValid (c : Realm.Config) (request : HttpRequest)
    (policy : PasswordPolicy) (userInfo : UserInfo) (w w' : World) :
    outcome (expirationValid c request policy userInfo) w =
      outcome (expirationValid c request policy userInfo) w' := by
  unfold expirationValid onlyIf
  split_ifs with hexpires
  · cases userInfo.passwordLastSetTime with
    | none => rfl
    | some lastSet =>
      simp only [nonNull, orThrow_some_bind]
      cases substringOf lastSet 0 19 with
      | error e => rfl
      | ok day =>
        simp only [orError_ok_bind]
        cases c.parseDateTime day with
        | none => rfl
        | some time =>
          simp only
          split_ifs <;> rfl
  · rfl

theorem returns_of_isOk {α : Type} {x : Web α} {w : World} (h : (outcome x w).isOk) :
    ∃ a w', x w = .ok a w' := by
  unfold outcome at h
  cases hrun : x w with
  | ok a w' => exact ⟨a, w', rfl⟩
  | error e w' =>
    rw [hrun] at h
    cases h

theorem passwordPolicyValid_returns {c : Realm.Config} {request : HttpRequest}
    {userInfo : UserInfo} {w : World} {policy : PasswordPolicy}
    (hpolicy : policyOf w = some policy) (hread : policyReadable request w)
    (hcount : userInfo.badPasswordCount < policy.attempts)
    (hexpiry : userInfo.passwordSetType ≠ PASSWORD_NORMAL ∨
      (outcome (expirationValid c request policy userInfo) w).isOk) :
    ∃ w', passwordPolicyValid c request userInfo w = .ok () w' := by
  obtain ⟨w₁, hget⟩ := getPasswordPolicy_returns hpolicy hread
  have hgo : attemptsValid request policy userInfo w₁ = .ok () w₁ := by
    unfold attemptsValid
    rw [onlyIf, if_neg (by omega)]
    rfl
  unfold passwordPolicyValid
  rw [bind_of_ok hget, bind_of_ok hgo]
  split_ifs with htype
  · exact ⟨_, rfl⟩
  · have hok := hexpiry.resolve_left htype
    rw [outcome_expirationValid c request policy userInfo w { w₁ with session :=
      { w₁.session with currentLoginUserPasswordSetType := some PASSWORD_NORMAL } }] at hok
    obtain ⟨_, w₂, hexpire⟩ := returns_of_isOk hok
    exact ⟨w₂, hexpire⟩

theorem createRemeberMe_returns (c : Realm.Config) {request : HttpRequest}
    (auth : BasicAuthentication) (h : ¬request.faults.saveRemeberMe) (w : World) :
    ∃ w', createRemeberMe c request auth w = .ok () w' := by
  unfold createRemeberMe onlyIf
  split_ifs
  · have hsaved := throwIf_of_false h (dataAccess "REMEMBER_ME")
      { w with session := { w.session with remeberMe := auth.username } }
    exact ⟨_, bind_of_ok hsaved⟩
  · exact ⟨w, rfl⟩

theorem logsIn_of_rightLogin {c : Realm.Config} {policy : PasswordPolicy} {a : LoginAttempt}
    {w : World} (hpolicy : policyOf w = some policy)
    (hcount : ∀ r ∈ standing a.form.username w, r.2 < policy.attempts)
    (h : rightLogin c policy a w) : logsIn c a w := by
  unfold rightLogin at h
  cases harrives : arrives c a w with
  | none =>
    rw [harrives] at h
    cases h
  | some userInfo =>
    rw [harrives] at h
    simp only [Bool.and_eq_true, decide_eq_true_eq, Bool.or_eq_true, Bool.not_eq_true'] at h
    obtain ⟨⟨⟨⟨hread, hmatches⟩, hexpiry⟩, hgroups⟩, hsave⟩ := h
    obtain ⟨hprecheck, hstanding⟩ := arrives_eq_some harrives
    -- the checks are passed one by one, in the states that they leave
    obtain ⟨w₁, hvalid⟩ := passwordPolicyValid_returns (c := c) (w := (a.enter w).world) hpolicy
      hread (hcount _ hstanding) hexpiry
    have hpassword : Realm.passwordMatches c a.request userInfo (a.form.password.getD "") w₁ =
        .ok () w₁ := by
      unfold Realm.passwordMatches
      rw [onlyIf, if_neg (not_not.mpr hmatches)]
      rfl
    have hcheck : checkCredentials c a.request a.form (a.enter w).world = .ok userInfo w₁ := by
      rw [checkCredentials_eq, bind_of_ok hprecheck]
      exact bind_of_ok ((bind_of_ok hvalid).trans hpassword)
    have hgroups' : ¬a.request.faults.selectGroups = true := by simp [hgroups]
    have hsave' : ¬a.request.faults.saveRemeberMe = true := by simp [hsave]
    have hgrant := grantAuthority_returns hgroups' userInfo
    let w₂ : World := { w₁ with session := { w₁.session with currentUser := some userInfo } }
    obtain ⟨w₃, hremember⟩ := createRemeberMe_returns c a.form hsave' w₂
    let auth : BasicAuthentication := { a.form with authenticated := true }
    have hrun : doInternalAuthenticate c a.request (a.enter w) =
        (do web (createRemeberMe c a.request a.form)
            let authorities ← web (grantAuthority a.request userInfo)
            return { principal := .basic auth, credentials := some "PASSWORD"
                     authorities := authorities, authenticated := true } :
          Logon.Attempt UsernamePasswordAuthenticationToken) ⟨w₂, auth⟩ := by
      have hlogon : web (checkCredentials c a.request (a.enter w).authentication) (a.enter w) = _ :=
        web_of_ok hcheck
      rw [doInternalAuthenticate, bind_of_ok (get_apply _), bind_of_ok hlogon,
        bind_of_ok (web_of_ok (hgrant w₁))]
      rfl
    have hremembers : web (createRemeberMe c a.request a.form) ⟨w₂, auth⟩ = _ :=
      web_of_ok hremember
    unfold logsIn outcome
    rw [hrun, bind_of_ok hremembers, bind_of_ok (web_of_ok (hgrant w₃))]
    rfl

theorem heeds_of_follows {d : Deployment} {policy : PasswordPolicy} {id username : String}
    {s : Watch} {op : Operation} (hop : Counted policy id username s op)
    (hs : Follows policy id username s) : Heeds d policy username s op := by
  obtain ⟨count, haccount, hlocked, hsince⟩ := hs
  cases op with
  | login a =>
    intro hname
    rw [← hname] at haccount
    obtain ⟨hstanding, hpolicy⟩ := Prod.mk.inj haccount
    refine ⟨?_, ?_⟩
    · intro h hsucceeds
      have hright := verdict_of_logsIn hsucceeds
      by_cases hchecked : checked d.realm a s.world
      · have hrefused := (verdict_refused_iff haccount hchecked).mpr (hlocked h)
        exact absurd (hright.symm.trans hrefused) (by decide)
      · exact absurd (hright.symm.trans (verdict_of_unchecked hchecked)) (by decide)
    · intro k hk hfewer hright
      refine logsIn_of_rightLogin hpolicy ?_ hright
      intro r hr
      have hcount := hsince k hk
      cases hr.symm.trans hstanding
      omega
  | setAuthentication request session name type provider code message =>
    intro hname h
    exact absurd h (hop hname)
  | _ => trivial

/-- From any state in which the user is neither locked nor just unlocked, in every run whose steps
meet the condition nobody logs in to a locked account, and the unlocked user does. -/
theorem heeds_of_counted (d : Deployment) {w : World} {policy : PasswordPolicy} {user : UserInfo}
    (hpolicy : policyOf w = some policy) (huser : findUser w (some user.username) = some user)
    {ops : List Operation}
    (h : Runs.Meets (step d user.id user.username) (Counted policy user.id user.username)
      { world := w } ops) :
    Runs.Meets (step d user.id user.username) (Heeds d policy user.username)
      { world := w } ops := by
  refine Runs.meets_of_invariant (I := Follows policy user.id user.username) ?_ ?_ h ?_
  · exact fun s op => step_follows
  · exact fun s op => heeds_of_follows
  · refine ⟨user.badPasswordCount, ?_, ?_, ?_⟩
    · unfold account standing
      rw [huser, hpolicy]
      rfl
    · intro h
      cases h
    · intro k hk
      cases hk

def plainDeployment : Deployment where
  realm := plain
  service := { encode := id, reciprocalEncode := id }

/-- Two failures lock the account, the right password is refused, and after the reset it is not. -/
theorem heeds_of_reset :
    Runs.Meets (step plainDeployment "1" "erin") (Heeds plainDeployment twice "erin")
      { world := erinOnly }
      [.login (entering "wrong"), .login (entering "wrong"), .login (entering "right"),
        .lockUser (entering "right").request erin,
        .resetBadPasswordCountAndLockout (entering "right").request erin,
        .login (entering "right")] := by
  have huser : findUser erinOnly (some erin.username) = some erin := by decide
  refine heeds_of_counted plainDeployment rfl huser ⟨trivial, trivial, trivial, ?_, ?_, ?_, ?_⟩
  · intro _
    decide +kernel
  · intro _ h
    cases h
  · trivial
  · trivial

/-- The password is accepted from a locked user, and so is no password at all; a user who is
unlocked stays refused. -/
theorem locked_not_heeds :
    ¬Runs.Meets (step plainDeployment "1" "erin") (Heeds plainDeployment twice "erin")
        { world := erinOnly } [.locked false erin, .login (entering "right")] ∧
      ¬Runs.Meets (step plainDeployment "1" "erin") (Heeds plainDeployment twice "erin")
        { world := erinOnly }
        [.lockUser (entering "right").request erin,
          .setAuthentication (entering "right").request { id := "s" } (some "erin")
            "RemeberMe" "" "xe00000004" "success"] ∧
      ¬Runs.Meets (step plainDeployment "1" "erin") (Heeds plainDeployment twice "erin")
        { world := erinOnly }
        [.login (entering "wrong"), .login (entering "wrong"), .unlock erin,
          .login (entering "right")] := by
  refine ⟨?_, ?_, ?_⟩
  · intro h
    have hlogin := (h.2.1 rfl).1 (by decide)
    exact hlogin (by decide +kernel)
  · intro h
    have hsession := h.2.1 rfl (by decide)
    revert hsession
    decide +kernel
  · intro h
    have hfree := (h.2.2.2.1 rfl).2 0 (by decide +kernel) (by decide) (by decide +kernel)
    revert hfree
    decide +kernel

end MaxKey.LockedUsers
