import MaxKey.RemeberMe
import MaxKey.Runs

namespace MaxKey.RemeberMeRuns
open WebContext Realm RemeberMe JavaException Effects
open Function (update)

variable {σ : Type}

/-- A request to a remember-me service, with the session and the database that it finds. -/
inductive Action
  | create (c : Config) (world : World) (request : HttpRequest) (authKey newId : String)
  | login (world : World) (request : HttpRequest) (authKey cookie : String)
  | update (world : World) (request : HttpRequest) (authKey : String) (r : RemeberMe)
  | remove (world : World) (request : HttpRequest)

def Action.world : Action → World
  | .create _ world _ _ _ | .login world _ _ _ | .update world _ _ _ | .remove world _ => world

def respond (service : Store σ) (codec : Codec) (validity : ℕ) : Action → Service σ Bool
  | .create c _ request authKey newId => createRemeberMe c service codec request authKey newId
  | .login _ request authKey cookie => login service codec validity request authKey cookie
  | .update _ request authKey r => updateRemeberMe service codec request authKey r
  | .remove _ request => removeRemeberMe service request

/-- The user name of a record as the stores write it into a key. -/
def nameOf (r : RemeberMe) : String := r.username.getD "null"

/-- The store, and for every user the cookie issued last, unless it has been removed since. -/
structure Watch (σ : Type) where
  store : σ
  issued : String → Option RemeberMe := fun _ => none

def Watch.enter (s : Watch σ) (a : Action) : ServiceState σ := { world := a.world, store := s.store }

/-- What a response makes known: a cookie that it issues, or that its user has none any more. -/
def note (codec : Codec) (issued : String → Option RemeberMe) (a : Action)
    (cookie : Option String) (returned : Bool) : String → Option RemeberMe :=
  match a, cookie.map codec.decode with
  | .remove world _, _ =>
    if returned then world.session.currentUser.elim issued fun u => update issued u.username none
    else issued
  | _, some (.ok r) => update issued (nameOf r) (some r)
  | _, _ => issued

def step (service : Store σ) (codec : Codec) (validity : ℕ) (s : Watch σ) (a : Action) : Watch σ :=
  let run := respond service codec validity a
  { store := (final run (s.enter a)).store
    issued := note codec s.issued a (final run (s.enter a)).cookie
      (outcome run (s.enter a)).isOk }

/-- The record that a cookie goes on with. -/
def renewed (request : HttpRequest) (authKey : String) (cookie : RemeberMe) : RemeberMe :=
  { cookie with authKey := some authKey, lastLogin := some request.now }

theorem nameOf_renewed (request : HttpRequest) (authKey : String) (cookie : RemeberMe) :
    nameOf (renewed request authKey cookie) = nameOf cookie := rfl

/-- The record of a new cookie. -/
def newRecord (request : HttpRequest) (authKey newId : String) (user : UserInfo) : RemeberMe :=
  { id := some newId, username := some user.username, authKey := some authKey
    lastLogin := some request.now }

section Operations

variable {service : Store σ} {codec : Codec} {validity : ℕ} {request : HttpRequest}
  {s : ServiceState σ} {authKey newId text : String} {stored : RemeberMe}

/-- What a session that asks to be remembered is served with. -/
def remember (service : Store σ) (codec : Codec) (request : HttpRequest) (authKey newId : String)
    (session : HttpSession) : Service σ Unit := do
  let user ← RemeberMe.web (nonNull session.currentUser)
  persist (service.save request.faults request.now (newRecord request authKey newId user))
  addCookie (some (codec.encode (newRecord request authKey newId user)))
  RemeberMe.web (modifySession fun s => { s with remeberMe := none })

theorem final_remember (service : Store σ) (codec : Codec) (request : HttpRequest)
    (authKey newId : String) (s : ServiceState σ) :
    let t := final (remember service codec request authKey newId s.world.session) s
    (t.store = s.store ∧ t.cookie = s.cookie) ∨ ∃ user ∈ s.world.session.currentUser,
      service.save request.faults request.now (newRecord request authKey newId user) s.store =
        .ok t.store ∧ t.cookie = some (codec.encode (newRecord request authKey newId user)) := by
  unfold remember
  cases huser : s.world.session.currentUser with
  | none =>
    have hthrow : (RemeberMe.web (nonNull none) : Service σ UserInfo) s = .error nullPointer s := rfl
    rw [final_of_error (bind_of_error hthrow)]
    exact .inl ⟨rfl, rfl⟩
  | some user =>
    have hreturn : (RemeberMe.web (nonNull (some user)) : Service σ UserInfo) s = .ok user s := rfl
    rw [final, bind_of_ok hreturn]
    cases hsave : service.save request.faults request.now (newRecord request authKey newId user)
        s.store with
    | error e =>
      rw [bind_of_error (persist_of_error hsave)]
      exact .inl ⟨rfl, rfl⟩
    | ok store =>
      rw [bind_of_ok (persist_of_ok hsave)]
      exact .inr ⟨user, rfl, hsave, rfl⟩

/-- A record is saved and issued, or nothing happens. -/
theorem final_createRemeberMe (c : Config) (service : Store σ) (codec : Codec)
    (request : HttpRequest) (authKey newId : String) (s : ServiceState σ) :
    let t := final (createRemeberMe c service codec request authKey newId) s
    (t.store = s.store ∧ t.cookie = s.cookie) ∨
      (s.world.session.remeberMe.isSome ∧ c.remeberMe) ∧ ∃ user ∈ s.world.session.currentUser,
        service.save request.faults request.now (newRecord request authKey newId user) s.store =
          .ok t.store ∧ t.cookie = some (codec.encode (newRecord request authKey newId user)) := by
  let wish := s.world.session.remeberMe.isSome ∧ c.remeberMe
  let body := onlyIf wish (remember service codec request authKey newId s.world.session)
  intro t
  -- what is returned does not matter to the final state
  have ht : t = final body s := final_bind_of_leaves (g := fun t => t) (x := body)
    (f := fun _ => (pure true : Service σ Bool)) (fun _ => leaves_pure _) s
  by_cases hwish : wish
  · have hbody : body = remember service codec request authKey newId s.world.session := if_pos hwish
    rw [ht, hbody]
    rcases final_remember service codec request authKey newId s with hnothing | hissued
    · exact .inl hnothing
    · exact .inr ⟨hwish, hissued⟩
  · have hbody : body = pure () := if_neg hwish
    rw [ht, hbody]
    exact .inl ⟨rfl, rfl⟩

/-- A cookie goes on under a new key, or nothing happens. -/
theorem updateRemeberMe_of_ok {r : RemeberMe} {store : σ}
    (h : service.update request.faults request.now (renewed request authKey r) s.store = .ok store) :
    updateRemeberMe service codec request authKey r s =
      .ok true { s with store, cookie := some (codec.encode (renewed request authKey r)) } :=
  bind_of_ok (persist_of_ok h)

theorem updateRemeberMe_of_error {r : RemeberMe} {e : JavaException}
    (h : service.update request.faults request.now (renewed request authKey r) s.store = .error e) :
    updateRemeberMe service codec request authKey r s = .error e s :=
  bind_of_error (persist_of_error h)

theorem final_updateRemeberMe (service : Store σ) (codec : Codec) (request : HttpRequest)
    (authKey : String) (r : RemeberMe) (s : ServiceState σ) :
    let t := final (updateRemeberMe service codec request authKey r) s
    (t.store = s.store ∧ t.cookie = s.cookie) ∨
      service.update request.faults request.now (renewed request authKey r) s.store = .ok t.store ∧
        t.cookie = some (codec.encode (renewed request authKey r)) := by
  cases hupdate : service.update request.faults request.now (renewed request authKey r) s.store with
  | error e =>
    rw [final_of_error (updateRemeberMe_of_error hupdate)]
    exact .inl ⟨rfl, rfl⟩
  | ok store =>
    rw [final_of_ok (updateRemeberMe_of_ok hupdate)]
    exact .inr ⟨rfl, rfl⟩

/-- The user of a record can be logged in, and the record goes on. -/
def goesThrough (service : Store σ) (request : HttpRequest) (world : World) (store : σ)
    (username : Option String) (next : RemeberMe) : Prop :=
  ¬request.faults.selectUserInfo ∧
    (∀ user ∈ findUser world username,
      ¬request.faults.selectGroups ∧ historyWritable request (some user)) ∧
    (service.update request.faults request.now next store).isOk

instance (service : Store σ) (request : HttpRequest) (world : World) (store : σ)
    (username : Option String) (next : RemeberMe) :
    Decidable (goesThrough service request world store username next) :=
  inferInstanceAs (Decidable (_ ∧ (∀ user ∈ findUser world username, _) ∧ _))

section Accepted

variable {cookie : RemeberMe} {w : World}

/-- A cookie that is good throws with the login of its user, or goes on. -/
theorem login_of_setAuthentication_error {e : JavaException}
    (haccepted : accepted service codec validity request text s.store = some stored)
    (hset : Realm.setAuthentication request stored.username "RemeberMe" "" "" "success" s.world =
      .error e w) :
    login service codec validity request authKey text s = .error e { s with world := w } :=
  (login_of_accepted haccepted).trans (bind_of_error (focus_of_error hset))

theorem login_of_setAuthentication_ok {b : Bool}
    (haccepted : accepted service codec validity request text s.store = some stored)
    (hcookie : codec.decode text = .ok cookie)
    (hset : Realm.setAuthentication request stored.username "RemeberMe" "" "" "success" s.world =
      .ok b w) :
    login service codec validity request authKey text s =
      updateRemeberMe service codec request authKey cookie { s with world := w } := by
  have htrue : b = true := (setAuthentication_eq_ok.mp ⟨w, hset⟩).1
  have hnext : login service codec validity request authKey text s = _ :=
    (login_of_accepted haccepted).trans (bind_of_ok (focus_of_ok hset))
  rw [hnext, htrue, hcookie]
  rfl

end Accepted

/-- A login goes on under a new key, or nothing happens to the store and the cookie. -/
theorem final_login (service : Store σ) (codec : Codec) (validity : ℕ) (request : HttpRequest)
    (authKey text : String) (s : ServiceState σ) :
    let t := final (login service codec validity request authKey text) s
    (t.store = s.store ∧ t.cookie = s.cookie) ∨
      ∃ cookie stored, codec.decode text = .ok cookie ∧
        accepted service codec validity request text s.store = some stored ∧
        service.update request.faults request.now (renewed request authKey cookie) s.store =
          .ok t.store ∧ t.cookie = some (codec.encode (renewed request authKey cookie)) := by
  intro t
  cases haccepted : accepted service codec validity request text s.store with
  | none =>
    have hsame : t = s := (login_of_not_accepted haccepted).1
    rw [hsame]
    exact .inl ⟨rfl, rfl⟩
  | some stored =>
    obtain ⟨cookie, hcookie⟩ : ∃ cookie, codec.decode text = .ok cookie := by
      cases hcookie : codec.decode text with
      | error e => simp [accepted, hcookie] at haccepted
      | ok cookie => exact ⟨cookie, rfl⟩
    cases hset : Realm.setAuthentication request stored.username "RemeberMe" "" "" "success"
        s.world with
    | error e w =>
      have hend : t = { s with world := w } :=
        final_of_error (login_of_setAuthentication_error haccepted hset)
      rw [hend]
      exact .inl ⟨rfl, rfl⟩
    | ok b w =>
      have hnext : login service codec validity request authKey text s = _ :=
        login_of_setAuthentication_ok haccepted hcookie hset
      cases hupdate : service.update request.faults request.now
          (renewed request authKey cookie) s.store with
      | error e =>
        have hend : t = { s with world := w } := final_of_error
          (hnext.trans (updateRemeberMe_of_error (s := { s with world := w }) hupdate))
        rw [hend]
        exact .inl ⟨rfl, rfl⟩
      | ok store =>
        have hend : t = { s with
            world := w, store := store
            cookie := some (codec.encode (renewed request authKey cookie)) } := final_of_ok
          (hnext.trans (updateRemeberMe_of_ok (s := { s with world := w }) hupdate))
        rw [hend]
        exact .inr ⟨cookie, stored, hcookie, rfl, hupdate, rfl⟩

/-- What it takes for a cookie to be accepted. -/
theorem login_eq_true_iff :
    outcome (login service codec validity request authKey text) s = .ok true ↔
      ∃ cookie stored, codec.decode text = .ok cookie ∧
        accepted service codec validity request text s.store = some stored ∧
        goesThrough service request s.world s.store stored.username
          (renewed request authKey cookie) := by
  cases haccepted : accepted service codec validity request text s.store with
  | none =>
    have hrefused : outcome (login service codec validity request authKey text) s ≠ .ok true :=
      (login_of_not_accepted haccepted).2
    exact iff_of_false hrefused (by simp)
  | some stored =>
    obtain ⟨cookie, hcookie⟩ : ∃ cookie, codec.decode text = .ok cookie := by
      cases hcookie : codec.decode text with
      | error e => simp [accepted, hcookie] at haccepted
      | ok cookie => exact ⟨cookie, rfl⟩
    simp only [hcookie, Except.ok.injEq, Option.some.injEq, exists_and_left, exists_eq_left']
    unfold outcome goesThrough
    cases hset : Realm.setAuthentication request stored.username "RemeberMe" "" "" "success"
        s.world with
    | error e w =>
      rw [login_of_setAuthentication_error haccepted hset]
      refine iff_of_false (by simp) ?_
      rintro ⟨hloads, huser, -⟩
      obtain ⟨w', hreturns⟩ := setAuthentication_eq_ok.mpr ⟨rfl, hloads, huser⟩
      cases hset.symm.trans hreturns
    | ok b w =>
      obtain ⟨-, hloads, huser⟩ := setAuthentication_eq_ok.mp ⟨w, hset⟩
      rw [login_of_setAuthentication_ok haccepted hcookie hset]
      cases hupdate : service.update request.faults request.now
          (renewed request authKey cookie) s.store with
      | error e =>
        rw [updateRemeberMe_of_error (s := { s with world := w }) hupdate]
        simp [Except.isOk, Except.toBool]
      | ok store =>
        rw [updateRemeberMe_of_ok (s := { s with world := w }) hupdate]
        exact iff_of_true rfl ⟨hloads, huser, rfl⟩

/-- The store drops the records of the session's user, or nothing happens. -/
theorem final_removeRemeberMe (service : Store σ) (request : HttpRequest) (s : ServiceState σ) :
    let x := removeRemeberMe service request
    (final x s).cookie = none ∧
      ((outcome x s).isOk = false ∧ (final x s).store = s.store ∨
        (outcome x s).isOk = true ∧ ∃ user ∈ s.world.session.currentUser,
          service.remove request.faults user.username s.store = .ok (final x s).store) := by
  intro x
  have hstart : x s = (RemeberMe.web (nonNull s.world.session.currentUser) >>= fun user => do
      persist (service.remove request.faults user.username)
      return true : Service σ Bool) { s with cookie := none } := rfl
  cases huser : s.world.session.currentUser with
  | none =>
    rw [huser] at hstart
    have hthrow : x s = .error nullPointer { s with cookie := none } :=
      hstart.trans (bind_of_error rfl)
    rw [final_of_error hthrow, outcome, hthrow]
    exact ⟨rfl, .inl ⟨rfl, rfl⟩⟩
  | some user =>
    rw [huser] at hstart
    have hnext := hstart.trans (bind_of_ok rfl)
    cases hremove : service.remove request.faults user.username s.store with
    | error e =>
      have hthrow : x s = .error e { s with cookie := none } :=
        hnext.trans (bind_of_error (persist_of_error (s := { s with cookie := none }) hremove))
      rw [final_of_error hthrow, outcome, hthrow]
      exact ⟨rfl, .inl ⟨rfl, rfl⟩⟩
    | ok store =>
      have hreturn : x s = .ok true { s with cookie := none, store := store } :=
        hnext.trans (bind_of_ok (persist_of_ok (s := { s with cookie := none }) hremove))
      rw [final_of_ok hreturn, outcome, hreturn]
      exact ⟨rfl, .inr ⟨rfl, user, rfl, hremove⟩⟩

end Operations

/-- All that an action can do to the store and to what is known of it. -/
inductive Effect (service : Store σ) (codec : Codec) (validity : ℕ) (s : Watch σ) :
    Action → Watch σ → Prop
  | nothing (a : Action) : Effect service codec validity s a s
  | create {c : Config} {world : World} {request : HttpRequest} {authKey newId : String}
      {user : UserInfo} {store : σ} (hwish : world.session.remeberMe.isSome ∧ c.remeberMe)
      (huser : user ∈ world.session.currentUser)
      (hsave : service.save request.faults request.now (newRecord request authKey newId user)
        s.store = .ok store) :
      Effect service codec validity s (.create c world request authKey newId)
        ⟨store, update s.issued user.username (some (newRecord request authKey newId user))⟩
  | login {world : World} {request : HttpRequest} {authKey text : String}
      {cookie stored : RemeberMe} {store : σ} (hcookie : codec.decode text = .ok cookie)
      (haccepted : accepted service codec validity request text s.store = some stored)
      (hupdate : service.update request.faults request.now (renewed request authKey cookie)
        s.store = .ok store) :
      Effect service codec validity s (.login world request authKey text)
        ⟨store, update s.issued (nameOf cookie) (some (renewed request authKey cookie))⟩
  | update {world : World} {request : HttpRequest} {authKey : String} {r : RemeberMe} {store : σ}
      (hupdate : service.update request.faults request.now (renewed request authKey r) s.store =
        .ok store) :
      Effect service codec validity s (.update world request authKey r)
        ⟨store, update s.issued (nameOf r) (some (renewed request authKey r))⟩
  | remove {world : World} {request : HttpRequest} {user : UserInfo} {store : σ}
      (huser : user ∈ world.session.currentUser)
      (hremove : service.remove request.faults user.username s.store = .ok store) :
      Effect service codec validity s (.remove world request)
        ⟨store, update s.issued user.username none⟩

section Step

variable {service : Store σ} {codec : Codec} {validity : ℕ} {s : Watch σ} {a : Action}

/-- An action that issues no cookie and removes nothing. -/
theorem step_of_nothing
    (hstore : (final (respond service codec validity a) (s.enter a)).store = s.store)
    (hcookie : (final (respond service codec validity a) (s.enter a)).cookie = none)
    (hremove : ∀ world request, a = .remove world request →
      (outcome (respond service codec validity a) (s.enter a)).isOk = false) :
    step service codec validity s a = s := by
  have hissued : (step service codec validity s a).issued = s.issued := by
    change note _ _ _ _ _ = _
    rw [hcookie]
    cases a with
    | create _ _ _ _ _ => rfl
    | login _ _ _ _ => rfl
    | update _ _ _ _ => rfl
    | remove world request =>
      rw [hremove world request rfl]
      rfl
  have hsame : (step service codec validity s a).store = s.store := hstore
  calc step service codec validity s a
      = ⟨(step service codec validity s a).store, (step service codec validity s a).issued⟩ := rfl
    _ = s := by rw [hsame, hissued]

/-- An action that issues a cookie. -/
theorem step_of_issue {r : RemeberMe} {store : σ}
    (hstore : (final (respond service codec validity a) (s.enter a)).store = store)
    (hcookie : (final (respond service codec validity a) (s.enter a)).cookie = some (codec.encode r))
    (hissues : ∀ world request, a ≠ .remove world request) :
    step service codec validity s a = ⟨store, update s.issued (nameOf r) (some r)⟩ := by
  have hissued : (step service codec validity s a).issued =
      update s.issued (nameOf r) (some r) := by
    change note _ _ _ _ _ = _
    rw [hcookie]
    cases a with
    | remove world request => exact absurd rfl (hissues world request)
    | create _ _ _ _ _ => simp only [note, Option.map_some, codec.decode_encode]
    | login _ _ _ _ => simp only [note, Option.map_some, codec.decode_encode]
    | update _ _ _ _ => simp only [note, Option.map_some, codec.decode_encode]
  have hnext : (step service codec validity s a).store = store := hstore
  calc step service codec validity s a
      = ⟨(step service codec validity s a).store, (step service codec validity s a).issued⟩ := rfl
    _ = _ := by rw [hnext, hissued]

/-- Nothing is issued, and nothing is removed. -/
theorem effect_of_nothing (hremove : ∀ world request, a ≠ .remove world request)
    (hnothing : (final (respond service codec validity a) (s.enter a)).store = s.store ∧
      (final (respond service codec validity a) (s.enter a)).cookie = none) :
    Effect service codec validity s a (step service codec validity s a) := by
  have hquiet : step service codec validity s a = s :=
    step_of_nothing hnothing.1 hnothing.2 fun world request h => absurd h (hremove world request)
  rw [hquiet]
  exact .nothing a

theorem effect_create (c : Config) (world : World) (request : HttpRequest)
    (authKey newId : String) :
    Effect service codec validity s (.create c world request authKey newId)
      (step service codec validity s (.create c world request authKey newId)) := by
  let a : Action := .create c world request authKey newId
  rcases final_createRemeberMe c service codec request authKey newId (s.enter a) with
    hnothing | ⟨hwish, user, huser, hsave, hcookie⟩
  · exact effect_of_nothing (fun _ _ => nofun) hnothing
  · have hissue : step service codec validity s a = _ :=
      step_of_issue rfl hcookie fun _ _ => nofun
    rw [hissue]
    exact .create hwish huser hsave

theorem effect_login (world : World) (request : HttpRequest) (authKey text : String) :
    Effect service codec validity s (.login world request authKey text)
      (step service codec validity s (.login world request authKey text)) := by
  let a : Action := .login world request authKey text
  rcases final_login service codec validity request authKey text (s.enter a) with
    hnothing | ⟨cookie, stored, htext, haccepted, hupdate, hcookie⟩
  · exact effect_of_nothing (fun _ _ => nofun) hnothing
  · have hissue : step service codec validity s a = _ :=
      step_of_issue rfl hcookie fun _ _ => nofun
    rw [hissue, nameOf_renewed]
    exact .login htext haccepted hupdate

theorem effect_update (world : World) (request : HttpRequest) (authKey : String) (r : RemeberMe) :
    Effect service codec validity s (.update world request authKey r)
      (step service codec validity s (.update world request authKey r)) := by
  let a : Action := .update world request authKey r
  rcases final_updateRemeberMe service codec request authKey r (s.enter a) with
    hnothing | ⟨hupdate, hcookie⟩
  · exact effect_of_nothing (fun _ _ => nofun) hnothing
  · have hissue : step service codec validity s a = _ :=
      step_of_issue rfl hcookie fun _ _ => nofun
    rw [hissue, nameOf_renewed]
    exact .update hupdate

theorem effect_remove (world : World) (request : HttpRequest) :
    Effect service codec validity s (.remove world request)
      (step service codec validity s (.remove world request)) := by
  let a : Action := .remove world request
  obtain ⟨hcookie, ⟨hthrows, hstore⟩ | ⟨hreturned, user, huser, hremove⟩⟩ :=
    final_removeRemeberMe service request (s.enter a)
  · have hquiet : step service codec validity s a = s :=
      step_of_nothing hstore hcookie fun _ _ _ => hthrows
    change Effect service codec validity s a (step service codec validity s a)
    rw [hquiet]
    exact .nothing a
  · have hcurrent : world.session.currentUser = some user := huser
    have hissued : (step service codec validity s a).issued =
        update s.issued user.username none := by
      change (if (outcome (removeRemeberMe service request) (s.enter a)).isOk = true then
        world.session.currentUser.elim s.issued fun u => update s.issued u.username none
        else s.issued) = _
      rw [if_pos hreturned, hcurrent]
      rfl
    have hend : step service codec validity s a =
        ⟨(final (removeRemeberMe service request) (s.enter a)).store,
          update s.issued user.username none⟩ := by
      rw [← hissued]
      rfl
    change Effect service codec validity s a (step service codec validity s a)
    rw [hend]
    exact .remove huser hremove

end Step

theorem effect_step (service : Store σ) (codec : Codec) (validity : ℕ) (s : Watch σ) (a : Action) :
    Effect service codec validity s a (step service codec validity s a) := by
  cases a with
  | create c world request authKey newId => exact effect_create c world request authKey newId
  | login world request authKey text => exact effect_login world request authKey text
  | update world request authKey r => exact effect_update world request authKey r
  | remove world request => exact effect_remove world request

end MaxKey.RemeberMeRuns
