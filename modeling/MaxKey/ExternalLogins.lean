import MaxKey.Lockouts
import MaxKey.RemeberMe

namespace MaxKey.ExternalLogins
open WebContext Realm RemeberMe JavaException Effects

structure JWTClaimsSet where
  issuer : Option String := none
  subject : Option String := none
  expirationTime : Option ℕ := none

/-- A JWT as the library hands it out, with the verdict on its signature under the signer's default
key. A `none` stands for an exception that the login service catches. -/
structure SignedJWT where
  verify : Option Bool
  getJWTClaimsSet : Option JWTClaimsSet

structure KerberosToken where
  principal : Option String
  notOnOrAfter : ℕ

structure KerberosProxy where
  userdomain : String
  crypto : String

/-- What the login services are wired with. A Kerberos token is decrypted under the key of its
domain, or under none. -/
structure Setup (σ : Type) where
  config : Config
  service : Store σ
  codec : Codec
  validity : ℕ
  parseJwt : String → Option SignedJWT
  issuer : String
  kerberosProxys : List KerberosProxy := []
  readKerberosToken : Option String → String → Except JavaException KerberosToken

variable {σ : Type}

namespace JwtLoginService

/-- The subject of a token that is signed, issued here and still valid. -/
def login (setup : Setup σ) (request : HttpRequest) (jwt : String) : Web Bool :=
  match setup.parseJwt jwt with
  | none => return false
  | some signedJWT =>
    if signedJWT.verify ≠ some true then return false
    else
      match signedJWT.getJWTClaimsSet with
      | none => return false
      | some jwtClaimsSet => do
        let issuer ← nonNull jwtClaimsSet.issuer
        if issuer ≠ setup.issuer then return false
        else
          match jwtClaimsSet.subject with
          | none => return false
          | some username =>
            let expirationTime ← nonNull jwtClaimsSet.expirationTime
            if request.now < expirationTime then
              if ← Realm.setAuthentication request (some username) "Jwt" "" "" "success" then
                return true
              else return false
            else return false

end JwtLoginService

namespace RemoteKerberosService

def readToken (setup : Setup σ) (kerberosToken kerberosUserDomain : String) :
    Except JavaException KerberosToken :=
  let proxy := setup.kerberosProxys.find? fun proxy =>
    JavaText.equalsIgnoreCase proxy.userdomain kerberosUserDomain
  setup.readKerberosToken (proxy.map KerberosProxy.crypto) kerberosToken

def login (setup : Setup σ) (request : HttpRequest)
    (kerberosToken kerberosUserDomain : String) : Web Bool := do
  let token ← orError (readToken setup kerberosToken kerberosUserDomain)
  if request.now < token.notOnOrAfter then
    Realm.setAuthentication request token.principal "Kerberos" kerberosUserDomain "" "success"
  else return false

end RemoteKerberosService

/-- The logins that need no password. The other callers of setAuthentication pass a user name that
they have from elsewhere. -/
inductive ExternalLogin
  | remeberMe (cookie authKey : String)
  | jwt (jwt : String)
  | kerberos (kerberosToken kerberosUserDomain : String)
  | caller (username : Option String) (type provider code message : String)

def perform (setup : Setup σ) (request : HttpRequest) : ExternalLogin → Service σ Bool
  | .remeberMe cookie authKey =>
    RemeberMe.login setup.service setup.codec setup.validity request authKey cookie
  | .jwt jwt => RemeberMe.web (JwtLoginService.login setup request jwt)
  | .kerberos token domain => RemeberMe.web (RemoteKerberosService.login setup request token domain)
  | .caller username type provider code message =>
    RemeberMe.web (Realm.setAuthentication request username type provider code message)

/-- The permission check in front of the index, which looks at the Authentication alone. -/
def permits (identity : Option UserInfo × Option Authentication) : Bool :=
  identity.2.any (·.getAuthorities.isSome)

/-- There is an Authentication for this user. -/
def Authenticated (username : Option String) (a : Option Authentication) : Prop :=
  ∃ authentication ∈ a,
    authentication.principalName = username ∧ authentication.getAuthorities.isSome

/-- The session holds both a UserInfo and an Authentication for this user. -/
def LoggedIn (username : Option String) (identity : Option UserInfo × Option Authentication) :
    Prop :=
  (∃ user ∈ identity.1, some user.username = username) ∧ Authenticated username identity.2

instance (username : Option String) (a : Option Authentication) :
    Decidable (Authenticated username a) := inferInstanceAs (Decidable (∃ authentication ∈ a, _))

instance (username : Option String) (identity : Option UserInfo × Option Authentication) :
    Decidable (LoggedIn username identity) :=
  inferInstanceAs (Decidable ((∃ user ∈ identity.1, _) ∧ _))

/-- The user name that a login calls setAuthentication with, once its credential is accepted. -/
def asks (setup : Setup σ) (request : HttpRequest) (s : ServiceState σ) :
    ExternalLogin → Option (Option String)
  | .remeberMe cookie _ =>
    (accepted setup.service setup.codec setup.validity request cookie s.store).map
      RemeberMe.username
  | .jwt jwt => do
    let signedJWT ← setup.parseJwt jwt
    let jwtClaimsSet ← signedJWT.getJWTClaimsSet
    let username ← jwtClaimsSet.subject
    let expirationTime ← jwtClaimsSet.expirationTime
    if signedJWT.verify = some true ∧ jwtClaimsSet.issuer = some setup.issuer ∧
        request.now < expirationTime then some (some username)
    else none
  | .kerberos token domain =>
    match RemoteKerberosService.readToken setup token domain with
    | .error _ => none
    | .ok token => if request.now < token.notOnOrAfter then some token.principal else none
  | .caller username _ _ _ _ => some username

/-- What is left to do after setAuthentication: a remember-me record goes on under a new key. -/
def finish (setup : Setup σ) (request : HttpRequest) : ExternalLogin → Service σ Bool
  | .remeberMe cookie authKey => do
    let r ← orError (setup.codec.decode cookie)
    updateRemeberMe setup.service setup.codec request authKey r
  | _ => return true

/-- The store takes the renewed record. -/
def finishes (setup : Setup σ) (request : HttpRequest) (store : σ) : ExternalLogin → Bool
  | .remeberMe cookie authKey =>
    match setup.codec.decode cookie with
    | .error _ => false
    | .ok r => (setup.service.update request.faults request.now
        { r with authKey := some authKey, lastLogin := some request.now } store).isOk
  | _ => true

section Outcomes

variable {setup : Setup σ} {s : ServiceState σ} {x : ExternalLogin}

/-- A login whose credential is accepted is setAuthentication with what is left to do. -/
theorem perform_of_asks {username : Option String} (h : asks setup request s x = some username) :
    ∃ type provider code message, perform setup request x s =
      (RemeberMe.web (Realm.setAuthentication request username type provider code message) >>=
        fun b => if b then finish setup request x else pure false) s := by
  cases x with
  | remeberMe cookie authKey =>
    obtain ⟨stored, haccepted, hname⟩ := Option.map_eq_some_iff.mp h
    rw [← hname]
    exact ⟨_, _, _, _, login_of_accepted haccepted⟩
  | jwt jwt =>
    simp only [asks, Option.bind_eq_bind, Option.bind_eq_some_iff, Option.ite_none_right_eq_some,
      Option.some.injEq] at h
    obtain ⟨signedJWT, hparse, claims, hclaims, subject, hsubject, expirationTime, hexpires,
      ⟨hverify, hissuer, hnow⟩, rfl⟩ := h
    refine ⟨"Jwt", "", "", "success", ?_⟩
    refine Eq.trans ?_ (congrFun (bind_ite_pure _) s).symm
    have hlogin : JwtLoginService.login setup request jwt =
        (Realm.setAuthentication request (some subject) "Jwt" "" "" "success" >>= fun b =>
          if b then pure true else pure false : Web Bool) := by
      simp only [JwtLoginService.login, hparse, hverify, hclaims, hissuer, hsubject, hexpires,
        nonNull, orThrow, pure_bind, ne_eq, not_true_eq_false, if_false, if_pos hnow]
    rw [perform, hlogin, bind_ite_pure]
  | kerberos token domain =>
    unfold asks at h
    cases htoken : RemoteKerberosService.readToken setup token domain with
    | error e => simp [htoken] at h
    | ok kerberosToken =>
      simp only [htoken, Option.ite_none_right_eq_some, Option.some.injEq] at h
      obtain ⟨hnow, rfl⟩ := h
      refine ⟨"Kerberos", domain, "", "success", ?_⟩
      refine Eq.trans ?_ (congrFun (bind_ite_pure _) s).symm
      have hlogin : RemoteKerberosService.login setup request token domain =
          Realm.setAuthentication request kerberosToken.principal "Kerberos" domain "" "success" := by
        rw [RemoteKerberosService.login, htoken, orError_ok_bind, if_pos hnow]
      rw [perform, hlogin]
  | caller name type provider code message =>
    cases h
    exact ⟨type, provider, code, message, (congrFun (bind_ite_pure _) s).symm⟩

theorem jwt_of_refused {jwt : String} {w : World} (h : asks setup request s (.jwt jwt) = none) :
    final (JwtLoginService.login setup request jwt) w = w ∧
      outcome (JwtLoginService.login setup request jwt) w ≠ .ok true := by
  unfold JwtLoginService.login
  unfold asks at h
  cases hparse : setup.parseJwt jwt with
  | none => simp [final, outcome]
  | some signedJWT =>
    by_cases hverify : signedJWT.verify = some true
    · simp only [hverify, ne_eq, not_true_eq_false, if_false]
      cases hclaims : signedJWT.getJWTClaimsSet with
      | none => simp [final, outcome]
      | some claims =>
        cases hissuer : claims.issuer with
        | none => simp [final, outcome, nonNull, orThrow, bind_apply, hissuer]
        | some issuer =>
          by_cases hsame : issuer = setup.issuer
          · simp only [nonNull, orThrow, pure_bind, hissuer, hsame, not_true_eq_false, if_false]
            cases hsubject : claims.subject with
            | none => simp [final, outcome]
            | some subject =>
              cases hexpires : claims.expirationTime with
              | none => simp [final, outcome, bind_apply]
              | some expirationTime =>
                have hlate : ¬request.now < expirationTime := by
                  intro hnow
                  simp [hparse, hverify, hclaims, hissuer, hsame, hsubject, hexpires, hnow] at h
                simp [final, outcome, hlate]
          · simp [final, outcome, nonNull, orThrow, hissuer, hsame]
    · simp [final, outcome, hverify]

theorem kerberos_of_refused {token domain : String} {w : World}
    (h : asks setup request s (.kerberos token domain) = none) :
    final (RemoteKerberosService.login setup request token domain) w = w ∧
      outcome (RemoteKerberosService.login setup request token domain) w ≠ .ok true := by
  unfold RemoteKerberosService.login
  unfold asks at h
  cases htoken : RemoteKerberosService.readToken setup token domain with
  | error e => simp [final, outcome, orError, bind_apply]
  | ok kerberosToken =>
    have hlate : ¬request.now < kerberosToken.notOnOrAfter := by
      intro hnow
      simp [htoken, hnow] at h
    simp [final, outcome, orError, hlate]

/-- A refused login does nothing. -/
theorem perform_of_refused (h : asks setup request s x = none) :
    final (perform setup request x) s = s ∧ outcome (perform setup request x) s ≠ .ok true := by
  cases x with
  | remeberMe cookie authKey =>
    exact login_of_not_accepted (Option.map_eq_none_iff.mp h)
  | jwt jwt =>
    obtain ⟨hfinal, houtcome⟩ := jwt_of_refused h
    refine ⟨(final_focus _ s).trans ?_, fun hok => houtcome ((outcome_focus _ s).symm.trans hok)⟩
    rw [hfinal]
  | kerberos token domain =>
    obtain ⟨hfinal, houtcome⟩ := kerberos_of_refused h
    refine ⟨(final_focus _ s).trans ?_, fun hok => houtcome ((outcome_focus _ s).symm.trans hok)⟩
    rw [hfinal]
  | caller name type provider code message => cases h

theorem leaves_finish_world : Leaves ServiceState.world (finish setup request x) := by
  cases x with
  | remeberMe cookie authKey =>
    apply leaves_bind (leaves_orError _)
    intro r
    apply leaves_bind (leaves_persist_world _)
    intro _
    apply leaves_bind
    · apply leaves_modify
      exact fun _ => rfl
    · exact fun _ => leaves_pure _
  | jwt _ => exact leaves_pure _
  | kerberos _ _ => exact leaves_pure _
  | caller _ _ _ _ _ => exact leaves_pure _

theorem finish_eq_ok {s : ServiceState σ} :
    outcome (finish setup request x) s = .ok true ↔ finishes setup request s.store x := by
  cases x with
  | remeberMe cookie authKey =>
    unfold outcome
    cases hdecode : setup.codec.decode cookie with
    | error e =>
      have hthrow : finish setup request (.remeberMe cookie authKey) s = .error e s := by
        rw [finish, hdecode]
        rfl
      simp [hthrow, finishes, hdecode]
    | ok r =>
      let renewed : RemeberMe := { r with authKey := some authKey, lastLogin := some request.now }
      have hstart : finish setup request (.remeberMe cookie authKey) s =
          (persist (setup.service.update request.faults request.now renewed) >>= fun _ =>
            addCookie (some (setup.codec.encode renewed)) >>= fun _ => pure true) s := by
        rw [finish, hdecode]
        rfl
      have hfinishes : finishes setup request s.store (.remeberMe cookie authKey) =
          (setup.service.update request.faults request.now renewed s.store).isOk := by
        rw [finishes, hdecode]
      rw [hstart, hfinishes]
      cases hupdate : setup.service.update request.faults request.now renewed s.store with
      | error e =>
        rw [bind_of_error (persist_of_error hupdate)]
        simp [Except.isOk, Except.toBool]
      | ok store =>
        rw [bind_of_ok (persist_of_ok hupdate)]
        exact iff_of_true rfl rfl
  | jwt _ => exact iff_of_true rfl rfl
  | kerberos _ _ => exact iff_of_true rfl rfl
  | caller _ _ _ _ _ => exact iff_of_true rfl rfl

/-- An accepted login returns true where setAuthentication does and the record can go on. -/
theorem perform_eq_ok {username : Option String} (h : asks setup request s x = some username) :
    outcome (perform setup request x) s = .ok true ↔
      (¬request.faults.selectUserInfo ∧ ∀ user ∈ findUser s.world username,
        ¬request.faults.selectGroups ∧ historyWritable request (some user)) ∧
          finishes setup request s.store x := by
  obtain ⟨type, provider, code, message, hperform⟩ := perform_of_asks h
  have hreturns : (∃ w', Realm.setAuthentication request username type provider code message
      s.world = .ok true w') ↔ _ := setAuthentication_eq_ok
  simp only [true_and] at hreturns
  rw [← hreturns]
  unfold outcome
  rw [hperform]
  cases hrun : Realm.setAuthentication request username type provider code message s.world with
  | error e w =>
    have hweb : RemeberMe.web (Realm.setAuthentication request username type provider code message) s =
        .error e { s with world := w } := focus_of_error hrun
    rw [bind_of_error hweb]
    simp
  | ok b w =>
    have hweb : RemeberMe.web (Realm.setAuthentication request username type provider code message) s =
        .ok b { s with world := w } := focus_of_ok hrun
    have htrue : b = true := (setAuthentication_eq_ok.mp ⟨w, hrun⟩).1
    have hfinish : outcome (finish setup request x) { s with world := w } = .ok true ↔
        finishes setup request s.store x := finish_eq_ok
    unfold outcome at hfinish
    rw [bind_of_ok hweb, if_pos htrue, hfinish, htrue]
    exact iff_and_self.mpr fun _ => ⟨w, rfl⟩

/-- After an accepted login the session holds what setAuthentication has put there. -/
theorem perform_identity {username : Option String} (h : asks setup request s x = some username) :
    (final (perform setup request x) s).world.identity =
      if request.faults.selectUserInfo then s.world.identity else
      match findUser s.world username with
      | none => s.world.identity
      | some u =>
        if request.faults.selectGroups then (some u, s.world.session.currentAuthentication)
        else (some u, some (loginToken u (authoritiesOf s.world u))) := by
  obtain ⟨type, provider, code, message, hperform⟩ := perform_of_asks h
  have hrest : ∀ b, Leaves (fun s : ServiceState σ => s.world.identity)
      (if b = true then finish setup request x else pure false) := by
    intro b
    apply leaves_ite
    · intro s
      exact congrArg World.identity (leaves_finish_world s)
    · exact leaves_pure _
  have hbody : (final (RemeberMe.web (Realm.setAuthentication request username type provider code
      message) >>= fun b => if b = true then finish setup request x else pure false) s).world.identity =
        _ := final_bind_of_leaves hrest s
  refine Eq.trans ?_ (setAuthentication_identity request username type provider code message s.world)
  refine Eq.trans ?_ (hbody.trans ?_)
  · unfold final
    rw [hperform]
  · rw [RemeberMe.web, final_focus]

end Outcomes

/-- A login returns true exactly where the session holds both for its user afterwards. -/
def Truthful (setup : Setup σ) (request : HttpRequest) (s : ServiceState σ) (x : ExternalLogin) :
    Prop :=
  outcome (perform setup request x) s = .ok true ↔ ∃ username ∈ asks setup request s x,
    LoggedIn username (final (perform setup request x) s).world.identity

/-- There is a record of the user to log in, or the session is that user's already; once the user is
loaded the groups can be read, the login log written and the record renewed. A login that fails
earlier must not find the session logged in as that user before it. -/
def Settles (setup : Setup σ) (request : HttpRequest) (s : ServiceState σ) (x : ExternalLogin) :
    Prop :=
  ∀ username ∈ asks setup request s x,
    if request.faults.selectUserInfo then ¬LoggedIn username s.world.identity
    else
      match findUser s.world username with
      | none => finishes setup request s.store x ↔ LoggedIn username s.world.identity
      | some user =>
        if request.faults.selectGroups then
          ¬Authenticated username s.world.session.currentAuthentication
        else historyWritable request (some user) ∧ finishes setup request s.store x

/-- What /login does after its check of the session's user: the logins it tries, one after the other
until one returns true. -/
def tryLogins (setup : Setup σ) (request : HttpRequest) :
    List ExternalLogin → Bool → Service σ Bool
  | [], isAuthenticated => return isAuthenticated
  | x :: xs, isAuthenticated => do
    let isAuthenticated ←
      if isAuthenticated then pure true else perform setup request x
    tryLogins setup request xs isAuthenticated

/-- The page /login of the portal: true stands for the redirect to the index. -/
def portalLogin (setup : Setup σ) (request : HttpRequest) (xs : List ExternalLogin) :
    Service σ Bool := do
  let isAuthenticated ← RemeberMe.web WebContext.isAuthenticated
  tryLogins setup request xs isAuthenticated

/-- That of the management application asks the session again. -/
def manageLogin (setup : Setup σ) (request : HttpRequest) (xs : List ExternalLogin) :
    Service σ Bool := do
  let _ ← portalLogin setup request xs
  RemeberMe.web WebContext.isAuthenticated

/-- What /login gets of a request. -/
structure LoginRequest where
  remeberMe : Option String := none
  kerberosToken : Option String := none
  kerberosUserDomain : Option String := none
  jwt : Option String := none
  isKerberos : Bool := false
  authKey : String

def given (parameter : Option String) : Option String := parameter.filter (· ≠ "")

/-- The logins that /login of the portal tries. -/
def portalLogins (setup : Setup σ) (r : LoginRequest) : List ExternalLogin :=
  (if setup.config.remeberMe then
    ((given r.remeberMe).map fun cookie => ExternalLogin.remeberMe cookie r.authKey).toList
  else []) ++
  if r.isKerberos then
    ((given r.kerberosUserDomain).bind fun domain =>
      (given r.kerberosToken).map fun token => ExternalLogin.kerberos token domain).toList
  else []

/-- Those of the management application. -/
def manageLogins (setup : Setup σ) (r : LoginRequest) : List ExternalLogin :=
  ((given r.jwt).map ExternalLogin.jwt).toList ++
  if setup.config.remeberMe then
    ((given r.remeberMe).map fun cookie => ExternalLogin.remeberMe cookie r.authKey).toList
  else []

/-- A redirect to the index gets through the permission check. -/
def Admits (page : Service σ Bool) (s : ServiceState σ) : Prop :=
  outcome page s = .ok true → permits (final page s).world.identity

/-- The login is reached: all before it return false. -/
def Tried (setup : Setup σ) (request : HttpRequest) (s : ServiceState σ) (xs : List ExternalLogin)
    (x : ExternalLogin) : Prop :=
  ∃ ys zs, xs = ys ++ x :: zs ∧ ∀ y ∈ ys, outcome (perform setup request y) s = .ok false

/-- No login that returns true does so for a user without a record. -/
def Known (setup : Setup σ) (request : HttpRequest) (s : ServiceState σ) (x : ExternalLogin) : Prop :=
  ∀ username ∈ asks setup request s x, ¬request.faults.selectUserInfo →
    finishes setup request s.store x → (findUser s.world username).isSome

theorem truthful_iff (setup : Setup σ) (request : HttpRequest) (s : ServiceState σ)
    (x : ExternalLogin) : Truthful setup request s x ↔ Settles setup request s x := by
  unfold Truthful Settles
  cases hasks : asks setup request s x with
  | none =>
    have hrefused := (perform_of_refused hasks).2
    simp [hrefused]
  | some username =>
    simp only [Option.mem_some_iff, forall_eq', exists_eq_left']
    rw [perform_eq_ok hasks, perform_identity hasks]
    by_cases hf : request.faults.selectUserInfo = true
    · simp [hf]
    · simp only [hf, if_false, Bool.false_eq_true, not_false_eq_true, true_and]
      cases hfind : findUser s.world username with
      | none => simp
      | some user =>
        have hname : some user.username = username := (findUser_eq_some hfind).2
        by_cases hg : request.faults.selectGroups = true
        · simp [hg, LoggedIn, hname]
        · simp [hg, LoggedIn, Authenticated, hname, loginToken, Authentication.principalName,
            Authentication.getPrincipal, UserAuthentication.getPrincipal, Principal.username,
            Authentication.getAuthorities, UserAuthentication.getAuthorities]

section Pages

variable {setup : Setup σ} {request : HttpRequest} {s : ServiceState σ} {x : ExternalLogin}

theorem finish_returns {b : Bool} {t : ServiceState σ}
    (h : finish setup request x s = .ok b t) : b = true := by
  cases x with
  | remeberMe cookie authKey =>
    obtain ⟨r, s₁, -, hupdate⟩ := bind_eq_ok.mp h
    obtain ⟨_, s₂, -, hcookie⟩ := bind_eq_ok.mp hupdate
    obtain ⟨_, s₃, -, hpure⟩ := bind_eq_ok.mp hcookie
    cases hpure
    rfl
  | jwt _ => cases h; rfl
  | kerberos _ _ => cases h; rfl
  | caller _ _ _ _ _ => cases h; rfl

/-- A login that returns false was refused, and did nothing. -/
theorem perform_eq_false {t : ServiceState σ} (h : perform setup request x s = .ok false t) :
    asks setup request s x = none ∧ t = s := by
  cases hasks : asks setup request s x with
  | none =>
    have hsame := (perform_of_refused hasks).1
    rw [final_of_ok h] at hsame
    exact ⟨rfl, hsame⟩
  | some username =>
    -- an accepted login returns true or throws
    obtain ⟨type, provider, code, message, hperform⟩ := perform_of_asks hasks
    obtain ⟨b, s₁, hlogin, hrest⟩ := bind_eq_ok.mp (hperform.symm.trans h)
    obtain ⟨w, hlogin, -⟩ := focus_eq_ok.mp hlogin
    have htrue : b = true := (setAuthentication_eq_ok.mp ⟨w, hlogin⟩).1
    rw [if_pos htrue] at hrest
    cases finish_returns hrest

/-- A login that does not return true knows its user, or it has none. -/
theorem known_of_not_ok (h : outcome (perform setup request x) s ≠ .ok true) :
    Known setup request s x := by
  intro username hasks hf hfinishes
  by_contra hnone
  rw [Option.not_isSome_iff_eq_none] at hnone
  apply h
  rw [perform_eq_ok hasks, hnone]
  exact ⟨⟨hf, by simp⟩, hfinishes⟩

/-- After a login that returns true the permission check passes for a user with a record; for one
without, where it did before. -/
theorem permits_of_perform (h : outcome (perform setup request x) s = .ok true) :
    permits (final (perform setup request x) s).world.identity ↔
      Known setup request s x ∨ permits s.world.identity := by
  cases hasks : asks setup request s x with
  | none => exact absurd h (perform_of_refused hasks).2
  | some username =>
    obtain ⟨⟨hf, hgoes⟩, hfinishes⟩ := (perform_eq_ok hasks).mp h
    rw [perform_identity hasks, if_neg hf]
    unfold Known
    rw [hasks]
    cases hfind : findUser s.world username with
    | none => simp [hf, hfinishes, hfind]
    | some user =>
      have hg := (hgoes user hfind).1
      simp only [if_neg hg]
      refine iff_of_true rfl (.inl ?_)
      rintro name ⟨⟩ - -
      rw [hfind]
      rfl

theorem tried_cons {xs : List ExternalLogin} {y : ExternalLogin} :
    Tried setup request s (x :: xs) y ↔
      y = x ∨ outcome (perform setup request x) s = .ok false ∧ Tried setup request s xs y := by
  constructor
  · rintro ⟨ys, zs, hsplit, hfalse⟩
    cases ys with
    | nil => exact .inl (List.cons.inj hsplit).1.symm
    | cons z ys =>
      obtain ⟨rfl, hrest⟩ := List.cons.inj hsplit
      refine .inr ⟨hfalse x List.mem_cons_self, ys, zs, hrest, ?_⟩
      exact fun y hy => hfalse y (List.mem_cons_of_mem _ hy)
  · rintro (rfl | ⟨hx, ys, zs, rfl, hfalse⟩)
    · exact ⟨[], xs, rfl, by simp⟩
    · exact ⟨x :: ys, zs, rfl, List.forall_mem_cons.mpr ⟨hx, hfalse⟩⟩

theorem tryLogins_true (xs : List ExternalLogin) :
    tryLogins setup request xs true s = .ok true s := by
  induction xs with
  | nil => rfl
  | cons x xs ih => exact ih

theorem tryLogins_cons (x : ExternalLogin) (xs : List ExternalLogin) :
    tryLogins setup request (x :: xs) false = perform setup request x >>= fun isAuthenticated =>
      tryLogins setup request xs isAuthenticated := rfl

/-- Where the session has no user yet, the first login that is not refused decides. -/
theorem admits_tryLogins (xs : List ExternalLogin) :
    Admits (tryLogins setup request xs false) s ↔
      ∀ x, Tried setup request s xs x → Known setup request s x ∨ permits s.world.identity := by
  induction xs with
  | nil =>
    refine iff_of_true ?_ ?_
    · intro h
      cases h
    · rintro x ⟨ys, zs, hsplit, -⟩
      cases ys with
      | nil => cases hsplit
      | cons => cases hsplit
  | cons x xs ih =>
    unfold Admits at ih ⊢
    simp only [tried_cons, forall_eq_or_imp, and_imp, tryLogins_cons]
    cases hrun : perform setup request x s with
    | error e t =>
      have hknown : Known setup request s x := known_of_not_ok (by simp [outcome, hrun])
      simp [outcome, bind_of_error hrun, hrun, hknown]
    | ok isAuthenticated t =>
      cases isAuthenticated with
      | true =>
        have hok : outcome (perform setup request x) s = .ok true := by simp [outcome, hrun]
        have hpermits := permits_of_perform hok
        rw [final_of_ok hrun] at hpermits
        have hpage : (perform setup request x >>= fun isAuthenticated =>
            tryLogins setup request xs isAuthenticated) s = .ok true t :=
          (bind_of_ok hrun).trans (tryLogins_true xs)
        have hnot : outcome (perform setup request x) s ≠ .ok false := by simp [hok]
        rw [final_of_ok hpage, outcome, hpage]
        simp only [forall_const, hnot, false_implies, implies_true, and_true]
        exact hpermits
      | false =>
        obtain ⟨hrefused, hsame⟩ := perform_eq_false hrun
        subst hsame
        have hfalse : outcome (perform setup request x) t = .ok false := by simp [outcome, hrun]
        have hknown : Known setup request t x := known_of_not_ok (by simp [hfalse])
        have hpage : (perform setup request x >>= fun isAuthenticated =>
            tryLogins setup request xs isAuthenticated) t = tryLogins setup request xs false t :=
          bind_of_ok hrun
        unfold outcome final at ih ⊢
        rw [hpage]
        simp only [hknown, true_or, true_and]
        refine ih.trans ?_
        simp only [outcome] at hfalse
        simp [hfalse]

theorem isAuthenticated_apply (s : ServiceState σ) :
    RemeberMe.web WebContext.isAuthenticated s = .ok s.world.session.currentUser.isSome s := rfl

/-- The portal's page redirects to the index only where the permission check passes there, if and
only if no user stands in the session without an Authentication and the login that it comes to is
not one of a user without a record. -/
theorem admits_portalLogin (xs : List ExternalLogin) :
    Admits (portalLogin setup request xs) s ↔
      permits s.world.identity ∨ s.world.session.currentUser = none ∧
        ∀ x, Tried setup request s xs x → Known setup request s x := by
  have hpage : portalLogin setup request xs s =
      tryLogins setup request xs s.world.session.currentUser.isSome s := bind_of_ok rfl
  unfold Admits outcome final
  rw [hpage]
  cases huser : s.world.session.currentUser with
  | some user =>
    rw [Option.isSome_some, tryLogins_true]
    simp
  | none =>
    have hadmits : Admits (tryLogins setup request xs false) s ↔ _ := admits_tryLogins xs
    unfold Admits outcome final at hadmits
    rw [Option.isSome_none, hadmits]
    by_cases hpermits : permits s.world.identity = true
    · simp [hpermits]
    · simp [hpermits]

/-- A login that returns true leaves no user in the session, or one who is permitted. -/
theorem permits_of_currentUser {t : ServiceState σ} {b : Bool}
    (h : perform setup request x s = .ok b t) (hs : s.world.session.currentUser = none)
    (ht : t.world.session.currentUser.isSome) : permits t.world.identity := by
  cases b with
  | false =>
    rw [(perform_eq_false h).2, hs] at ht
    cases ht
  | true =>
    have hok : outcome (perform setup request x) s = .ok true := by simp [outcome, h]
    have hpermits := permits_of_perform hok
    rw [final_of_ok h] at hpermits
    refine hpermits.mpr (.inl ?_)
    intro username hasks hf hfinishes
    by_contra hnone
    rw [Option.not_isSome_iff_eq_none] at hnone
    have hidentity := perform_identity hasks
    rw [final_of_ok h, if_neg hf, hnone] at hidentity
    have huser : t.world.session.currentUser = s.world.session.currentUser :=
      congrArg Prod.fst hidentity
    rw [huser, hs] at ht
    cases ht

theorem permits_of_tryLogins {xs : List ExternalLogin} {t : ServiceState σ} {b : Bool}
    (h : tryLogins setup request xs false s = .ok b t) (hs : s.world.session.currentUser = none)
    (ht : t.world.session.currentUser.isSome) : permits t.world.identity := by
  induction xs with
  | nil =>
    cases h
    rw [hs] at ht
    cases ht
  | cons x xs ih =>
    rw [tryLogins_cons] at h
    obtain ⟨isAuthenticated, s₁, hrun, h⟩ := bind_eq_ok.mp h
    cases isAuthenticated with
    | true =>
      rw [tryLogins_true] at h
      cases h
      exact permits_of_currentUser hrun hs ht
    | false =>
      rw [(perform_eq_false hrun).2] at h
      exact ih h

/-- The page of the management application errs only where the session had its user without an
Authentication before. -/
theorem admits_manageLogin (xs : List ExternalLogin) :
    Admits (manageLogin setup request xs) s ↔
      permits s.world.identity ∨ s.world.session.currentUser = none := by
  have hpage : portalLogin setup request xs s =
      tryLogins setup request xs s.world.session.currentUser.isSome s := bind_of_ok rfl
  unfold Admits
  cases huser : s.world.session.currentUser with
  | some user =>
    have hend : manageLogin setup request xs s = .ok true s := by
      rw [manageLogin, bind_of_ok (hpage.trans (by rw [huser]; exact tryLogins_true xs)),
        isAuthenticated_apply, huser]
      rfl
    simp [outcome, final, hend]
  | none =>
    refine iff_of_true ?_ (.inr rfl)
    intro h
    rw [huser] at hpage
    unfold outcome at h
    unfold final
    cases hrun : tryLogins setup request xs false s with
    | error e t =>
      have hthrow : manageLogin setup request xs s = .error e t :=
        bind_of_error (hpage.trans hrun)
      simp [hthrow] at h
    | ok b t =>
      have hend : manageLogin setup request xs s = .ok t.world.session.currentUser.isSome t := by
        rw [manageLogin, bind_of_ok (hpage.trans hrun), isAuthenticated_apply]
      simp only [hend, Except.ok.injEq] at h ⊢
      exact permits_of_tryLogins hrun huser h

end Pages

/-- A login without a password is truthful exactly where it settles; the portal's /login redirects
only to where the permission check lets through, exactly where the session was coherent and the
login that it comes to knows its user; and that of the management application where the session was
coherent. -/
theorem externalLogin_truthful_iff (setup : Setup σ) (request : HttpRequest) (s : ServiceState σ) :
    (∀ x, Truthful setup request s x ↔ Settles setup request s x) ∧
    (∀ r, Admits (portalLogin setup request (portalLogins setup r)) s ↔
      permits s.world.identity ∨ s.world.session.currentUser = none ∧
        ∀ x, Tried setup request s (portalLogins setup r) x → Known setup request s x) ∧
    ∀ r, Admits (manageLogin setup request (manageLogins setup r)) s ↔
      permits s.world.identity ∨ s.world.session.currentUser = none := by
  refine ⟨fun x => truthful_iff setup request s x, ?_, ?_⟩
  · exact fun r => admits_portalLogin _
  · exact fun r => admits_manageLogin _

/-- The portal over a cache, where one cookie is known and everybody has left. -/
def deserted : Setup (ExpiringMap String RemeberMe) where
  config := { Lockouts.plain with remeberMe := true }
  service := InMemoryRemeberMeService
  codec := plainText
  validity := TWO_WEEK
  parseJwt _ := some
    { verify := some true
      getJWTClaimsSet := some
        { issuer := some "maxkey", subject := some "gone", expirationTime := some 300000 } }
  issuer := "maxkey"
  readKerberosToken _ _ := .error nullPointer

def remembered : RemeberMe :=
  { id := some "1", username := some "gone", authKey := some "key", lastLogin := some 0 }

def nobody : ServiceState (ExpiringMap String RemeberMe) where
  world :=
    { database :=
        { userInfo := .empty, historyLogin := [], groupMember := [], passwordPolicy := [] }
      session := { id := "s" } }
  store := { entries := fun name =>
    if name = "gone" then some (remembered, InMemoryRemeberMeService.timeToLive) else none }

/-- A user who was deleted after the JWT and the cookie were issued: both logins return true over a
session that stays empty, and /login redirects to the index that sends back to it. -/
theorem deletedUser_redirects :
    let request : HttpRequest := { userAgent := none, newSessionId := "t", loginSessionId := "u" }
    let cookie := plainText.encode remembered
    ¬Truthful deserted request nobody (.jwt "token") ∧
    ¬Truthful deserted request nobody (.remeberMe cookie "renewed") ∧
    ¬Admits (portalLogin deserted request (portalLogins deserted
      { remeberMe := some cookie, authKey := "renewed" })) nobody := by
  unfold Truthful Admits
  decide +kernel

end MaxKey.ExternalLogins
