import MaxKey.LoginTraces

namespace MaxKey.LoginStatistics
open WebContext Realm Logon Lockouts Comparisons LoginTraces JavaException Effects

/-- LASTLOGINTIME, LASTLOGINIP, LOGINCOUNT and ONLINE of a record. -/
structure Statistics where
  lastLoginTime : Option ℕ
  lastLoginIp : Option String
  loginCount : Int
  online : Int
  deriving DecidableEq

end MaxKey.LoginStatistics

namespace MaxKey

def UserInfo.statistics (u : UserInfo) : LoginStatistics.Statistics :=
  ⟨u.lastLoginTime, u.lastLoginIp, u.loginCount, u.online⟩

end MaxKey

namespace MaxKey.LoginStatistics
open WebContext Realm Logon Lockouts Comparisons LoginTraces JavaException Effects

/-- The statistics of all records, by ID. -/
def statistics (w : World) : List (String × Statistics) :=
  w.database.userInfo.rows.map fun u => (u.id, u.statistics)

/-- What the login log of a user writes. -/
def logged (request : HttpRequest) (userInfo : UserInfo) : Statistics :=
  ⟨some request.now, request.ipAddress, userInfo.loginCount + 1, ONLINE⟩

/-- The login log writes on the row with the ID of the user. -/
def overwrite (request : HttpRequest) (userInfo : UserInfo) (row : String × Statistics) :
    String × Statistics :=
  if row.1 = userInfo.id then (row.1, logged request userInfo) else row

/-- The rows after the login log of some users, in turn. -/
def overwriteAll (request : HttpRequest) (users : List UserInfo) (rows : List (String × Statistics)) :
    List (String × Statistics) :=
  users.foldl (fun rows u => rows.map (overwrite request u)) rows

/-- The user that a failing check logs: nobody's name, or the wrong password of a user. -/
def failureLogged (c : Config) (request : HttpRequest) (form : BasicAuthentication) (w : World) :
    Option UserInfo :=
  if asksUnknown c request form w then some (unknownUser request form.password)
  else (broughtUser c request form w).filter fun userInfo =>
    decide (policyAllows c request w userInfo ∧ userInfo.id ≠ "" ∧
      ¬c.passwordMatches (rawPassword userInfo.username (form.password.getD "")) userInfo.password)

def logWritable (request : HttpRequest) : Bool :=
  historyWritable request (some (unknownUser request none))

/-- The attempt fails: a check of the credentials throws, or the groups cannot be read. -/
def Fails (c : Config) (request : HttpRequest) (s : LogonState) : Prop :=
  accepts c request s.authentication s.world → request.faults.selectGroups

instance (c : Config) (request : HttpRequest) (s : LogonState) : Decidable (Fails c request s) :=
  inferInstanceAs (Decidable (_ → _))

/-- The users that the login log gets in a failing attempt, in turn. A form that comes with its
authenticated flag set has the user of the session logged as well. -/
def usersLogged (c : Config) (request : HttpRequest) (s : LogonState) : List UserInfo :=
  if logWritable request then
    (failureLogged c request s.authentication s.world).toList ++
      if s.authentication.authenticated then s.world.session.currentUser.toList else []
  else []

/-- The last of the users with this ID. -/
def lastOf (users : List UserInfo) (id : String) : Option UserInfo :=
  (users.filter (·.id = id)).getLast?

/-- Every record that a failing attempt logs has what the last of its logs would write. -/
def Silent (c : Config) (request : HttpRequest) (s : LogonState) : Prop :=
  ∀ row ∈ s.world.database.userInfo.rows, ∀ u ∈ lastOf (usersLogged c request s) row.id,
    row.statistics = logged request u

instance (c : Config) (request : HttpRequest) (s : LogonState) : Decidable (Silent c request s) :=
  inferInstanceAs (Decidable (∀ row ∈ _, ∀ u ∈ lastOf _ _, _))

section Writes

variable {request : HttpRequest} {w w' : World}

theorem statistics_of_database (h : w.database = w'.database) : statistics w = statistics w' := by
  unfold statistics
  rw [h]

/-- Statements that set none of the four columns. -/
theorem leaves_updateById_statistics (id : String) (f : UserInfo → UserInfo)
    (keep : ∀ u, (f u).id = u.id) (same : ∀ u, (f u).statistics = u.statistics) :
    Leaves statistics (updateById id f keep) := by
  apply leaves_modify
  intro w
  unfold statistics KeyedTable.update
  rw [List.map_map]
  apply List.map_congr_left
  intro u _
  by_cases h : u.id = id
  · simp [h, keep, same]
  · simp [h]

theorem statistics_insertLoginHistory (userInfo : UserInfo) (type provider code message : String)
    (w : World) :
    statistics (final (insertLoginHistory request (some userInfo) type provider code message) w) =
      if logWritable request then (statistics w).map (overwrite request userInfo)
      else statistics w := by
  have hdatabase := insertLoginHistory_database request userInfo type provider code message w
  have hwritable : logWritable request = true ↔ _ :=
    historyWritable_iff request userInfo type provider code message
  unfold statistics
  rw [hdatabase]
  unfold logTo
  cases hrow : loginRow request userInfo type provider code message with
  | none =>
    have hnot : ¬logWritable request = true := by
      rw [hwritable, hrow]
      simp
    rw [if_neg hnot, Option.elim_none]
  | some row =>
    rw [hrow] at hwritable
    rw [Option.elim_some]
    by_cases hf : request.faults.updateUserInfo = true
    · rw [if_neg fun h => (hwritable.mp h).2 hf]
      simp only [if_pos hf]
    · rw [if_pos (hwritable.mpr ⟨rfl, hf⟩)]
      simp only [if_neg hf, KeyedTable.update, List.map_map]
      apply List.map_congr_left
      intro u _
      by_cases hid : u.id = userInfo.id
      · simp [hid, overwrite, logged, UserInfo.statistics]
      · simp [hid, overwrite]

theorem leaves_modifySession_statistics (f : HttpSession → HttpSession) :
    Leaves statistics (modifySession f) := by
  apply leaves_modify
  exact fun _ => rfl

theorem leaves_getPasswordPolicy_statistics (request : HttpRequest) :
    Leaves statistics (getPasswordPolicy request) :=
  leaves_getPasswordPolicy_of (fun _ _ => rfl) request

/-- The policy locks a user and marks the session, and neither is among the statistics. -/
theorem leaves_passwordPolicyValid_statistics (c : Config) (request : HttpRequest)
    (userInfo : UserInfo) : Leaves statistics (passwordPolicyValid c request userInfo) := by
  refine leaves_bind (leaves_getPasswordPolicy_statistics _) fun policy => leaves_bind ?_ fun _ => ?_
  · refine leaves_onlyIf _ (leaves_bind (leaves_onlyIf _ ?_) fun _ => leaves_throw _)
    apply leaves_updateById_statistics
    exact fun _ => rfl
  · refine leaves_ite (leaves_modifySession_statistics _) ?_
    refine leaves_bind (leaves_modifySession_statistics _) fun _ => ?_
    refine leaves_onlyIf _ (leaves_bind (leaves_orThrow _ _) fun lastSet => ?_)
    refine leaves_bind (leaves_orError _) fun lastSet => ?_
    split
    · exact leaves_throw _
    · exact leaves_onlyIf _ (leaves_modifySession_statistics _)

/-- The count of wrong passwords is none of the statistics, but the log that follows it writes them. -/
theorem statistics_setBadPasswordCount (userInfo : UserInfo) (w : World) :
    statistics (final (setBadPasswordCount request userInfo) w) =
      if logWritable request ∧ userInfo.id ≠ "" then (statistics w).map (overwrite request userInfo)
      else statistics w := by
  unfold setBadPasswordCount onlyIf
  by_cases hgo : userInfo.id ≠ "" ∧ ¬request.faults.updateUserInfo = true
  · rw [if_pos hgo]
    let counted := { userInfo with badPasswordCount := userInfo.badPasswordCount + 1 }
    let w₁ := final (updateById userInfo.id (fun u =>
      { u with badPasswordCount := userInfo.badPasswordCount + 1 }) fun _ => rfl) w
    have hcount : statistics w₁ = statistics w := by
      apply leaves_updateById_statistics
      exact fun _ => rfl
    have hlog : statistics (final (insertLoginHistory request (some counted) "Local Login" ""
        "xe00000004" "password error") w₁) = _ := statistics_insertLoginHistory counted _ _ _ _ w₁
    rw [hcount] at hlog
    have htry := final_tryCatch_pure (insertLoginHistory request (some counted) "Local Login" ""
      "xe00000004" "password error") () w₁
    refine (congrArg statistics htry).trans ?_
    rw [hlog]
    simp only [hgo.1, ne_eq, not_false_eq_true, and_true]
    rfl
  · rw [if_neg hgo]
    have hnot : ¬(logWritable request = true ∧ userInfo.id ≠ "") := by
      rintro ⟨hwritable, hempty⟩
      have hf := (historyWritable_iff request (unknownUser request none) "" "" "" "").mp hwritable
      exact hgo ⟨hempty, hf.2⟩
    rw [if_neg hnot]
    rfl

/-- Of the two checks of a user only a wrong password is logged. -/
theorem statistics_judge (c : Config) (form : BasicAuthentication) (userInfo : UserInfo)
    (w : World) :
    statistics (final (judge c request form userInfo) w) =
      if logWritable request ∧ policyAllows c request w userInfo ∧ userInfo.id ≠ "" ∧
          ¬c.passwordMatches (rawPassword userInfo.username (form.password.getD ""))
            userInfo.password then
        (statistics w).map (overwrite request userInfo)
      else statistics w := by
  have hpolicy := leaves_passwordPolicyValid_statistics c request userInfo w
  unfold judge
  cases hrun : passwordPolicyValid c request userInfo w with
  | error e w₁ =>
    rw [final_of_error hrun] at hpolicy
    have hrefused : ¬policyAllows c request w userInfo := by
      intro h
      obtain ⟨u, w₂, hpass⟩ := passwordPolicyValid_returns_iff.mpr h
      cases hrun.symm.trans hpass
    rw [final_of_error (bind_of_error hrun), if_neg fun h => hrefused h.2.1]
    exact hpolicy
  | ok u w₁ =>
    rw [final_of_ok hrun] at hpolicy
    have hallowed : policyAllows c request w userInfo :=
      passwordPolicyValid_returns_iff.mp ⟨u, w₁, hrun⟩
    rw [final, bind_of_ok hrun]
    change statistics (final (Realm.passwordMatches _ _ _ _) w₁) = _
    unfold Realm.passwordMatches onlyIf
    by_cases hright : c.passwordMatches
        (rawPassword userInfo.username (form.password.getD "")) userInfo.password = true
    · rw [if_neg (not_not.mpr hright), if_neg fun h => h.2.2.2 hright]
      exact hpolicy
    · rw [if_pos hright]
      have hthrow := final_bind_of_leaves (g := statistics)
        (x := setBadPasswordCount request userInfo)
        (f := fun _ => (throw (badCredentials "login.error.password") : Web Unit))
        (fun _ => leaves_throw _) w₁
      rw [hthrow, statistics_setBadPasswordCount, hpolicy]
      simp only [hallowed, hright, Bool.false_eq_true, not_false_eq_true, and_true, true_and]

/-- The checks of the credentials write on what the user has whom they log. -/
theorem statistics_checkCredentials (c : Config) (form : BasicAuthentication) (w : World) :
    statistics (final (checkCredentials c request form) w) =
      overwriteAll request
        (if logWritable request then (failureLogged c request form w).toList else [])
        (statistics w) := by
  rw [final_checkCredentials]
  unfold failureLogged
  split_ifs with hasks hwritable hwritable
  · refine (statistics_insertLoginHistory _ _ _ _ _ w).trans ?_
    rw [if_pos hwritable]
    rfl
  · refine (statistics_insertLoginHistory _ _ _ _ _ w).trans ?_
    rw [if_neg hwritable]
    rfl
  · cases broughtUser c request form w with
    | none => rfl
    | some userInfo =>
      refine (statistics_judge c form userInfo w).trans ?_
      simp only [hwritable, true_and, Option.filter_some, decide_eq_true_eq]
      split_ifs
      · rfl
      · rfl
  · cases broughtUser c request form w with
    | none => rfl
    | some userInfo =>
      refine (statistics_judge c form userInfo w).trans ?_
      rw [if_neg fun h => hwritable h.1]
      rfl

/-- The session that authenticate starts is logged for the user of the old one. -/
theorem statistics_switchSession (a : UserAuthentication) (w : World) :
    statistics (final (switchSession request a) w) =
      overwriteAll request (if logWritable request then w.session.currentUser.toList else [])
        (statistics w) := by
  refine (final_switchSession_of_leaves leaves_modifySession_statistics request a w).trans ?_
  cases w.session.currentUser with
  | none =>
    have hnobody : statistics (final (insertLoginHistory request none "Local Login" ""
        "xe00000004" "success") (freshSession request w)) = statistics w :=
      statistics_of_database (insertLoginHistory_none_database _ _ _ _ _ _)
    rw [hnobody]
    split_ifs
    · rfl
    · rfl
  | some userInfo =>
    rw [statistics_insertLoginHistory]
    split_ifs
    · rfl
    · rfl

end Writes

section Attempts

variable {c : Config} {request : HttpRequest} {s : LogonState}

/-- Of several logs a row has what the last one with its ID wrote. -/
theorem overwriteAll_eq (request : HttpRequest) (users : List UserInfo)
    (rows : List (String × Statistics)) : overwriteAll request users rows =
      rows.map fun row => (row.1, (lastOf users row.1).elim row.2 (logged request)) := by
  induction users using List.reverseRecOn with
  | nil => simp [overwriteAll, lastOf]
  | append_singleton users u ih =>
    have hlast : overwriteAll request (users ++ [u]) rows =
        (overwriteAll request users rows).map (overwrite request u) := List.foldl_concat ..
    rw [hlast, ih, List.map_map]
    apply List.map_congr_left
    intro row _
    by_cases hid : row.1 = u.id
    · simp [overwrite, lastOf, hid]
    · have hne : ¬u.id = row.1 := fun h => hid h.symm
      simp [overwrite, lastOf, hid, hne]

theorem statistics_of_fails (h : Fails c request s) :
    statistics (final (authenticate c request) s).world =
      overwriteAll request (usersLogged c request s) (statistics s.world) := by
  have hcheck : statistics (final (checkCredentials c request s.authentication) s.world) = _ :=
    statistics_checkCredentials c s.authentication s.world
  have hidentity := leaves_checkCredentials c request s.authentication s.world
  rw [final_authenticate (attempt_of_fails h)]
  unfold usersLogged
  change statistics (if s.authentication.authenticated = true then _ else _) = _
  split_ifs with hforged hwritable hwritable
  · rw [statistics_switchSession, hcheck, if_pos hwritable, if_pos hwritable]
    have huser : (final (checkCredentials c request s.authentication) s.world).session.currentUser =
        s.world.session.currentUser := (Prod.mk.inj hidentity).1
    rw [huser]
    exact (List.foldl_append ..).symm
  · rw [statistics_switchSession, hcheck, if_neg hwritable, if_neg hwritable]
    rfl
  · rw [hcheck, if_pos hwritable, List.append_nil]
  · rw [hcheck, if_neg hwritable]

/-- The log of a wrong password always changes the record, which counts one login more. -/
theorem not_silent_of_known {userInfo : UserInfo} (hwritable : logWritable request)
    (hforged : s.authentication.authenticated = false)
    (hlogged : failureLogged c request s.authentication s.world = some userInfo)
    (hknown : userInfo ∈ s.world.database.userInfo.rows) : ¬Silent c request s := by
  intro hsilent
  have hlast : lastOf (usersLogged c request s) userInfo.id = some userInfo := by
    simp [usersLogged, lastOf, hwritable, hforged, hlogged]
  have hsame := congrArg Statistics.loginCount (hsilent userInfo hknown userInfo hlast)
  change userInfo.loginCount = userInfo.loginCount + 1 at hsame
  omega

/-- A failing attempt leaves the statistics of every user alone exactly where each record that it
logs has what is written already. -/
theorem failing_keeps_statistics_iff (c : Config) (request : HttpRequest) (s : LogonState) :
    (Fails c request s →
      statistics (final (authenticate c request) s).world = statistics s.world) ↔
        (Fails c request s → Silent c request s) := by
  refine forall_congr' fun h => ?_
  rw [statistics_of_fails h, overwriteAll_eq]
  unfold statistics Silent
  rw [List.map_map, List.map_inj_left]
  refine forall₂_congr fun row _ => ?_
  simp only [Function.comp_apply, Prod.mk.injEq, true_and]
  cases lastOf (usersLogged c request s) row.id with
  | none => simp
  | some u => simp [eq_comm]

end Attempts

/-- A login as erin at the time 7 from the address 10.0.0.9. -/
def guessing (password : String) : LogonState × HttpRequest :=
  let attempt := entering password
  (attempt.enter erinOnly,
    { attempt.request with userAgent := some "curl", now := 7, ipAddress := some "10.0.0.9" })

/-- After a wrong password the record of the user says that she has logged in just now. -/
theorem wrongPassword_updates_statistics :
    ¬(Fails plain (guessing "wrong").2 (guessing "wrong").1 →
      statistics (final (authenticate plain (guessing "wrong").2) (guessing "wrong").1).world =
        statistics (guessing "wrong").1.world) := by
  decide +kernel

end MaxKey.LoginStatistics
