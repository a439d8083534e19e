import MaxKey.SingleSignOn

namespace MaxKey.SignOnAccess
open JavaException Effects SingleSignOn AuthorizeBaseEndpoint

variable (c : SingleSignOn.Config) (db : Tables) (userInfo : UserInfo)

/-- The application is active, and one of those that the user is shown. -/
def Permitted (id : String) : Prop :=
  ∃ app ∈ AppsMapper.queryMyApps db none (some userInfo.username),
    app.id = id ∧ app.status = Realm.ACTIVE

/-- The page of an adapter or a cookie is handed out. -/
def HandsOut : EStateM.Result JavaException Browser Response → Prop
  | .ok (.view _) _ => True
  | .ok _ s | .error _ s => s.cookie.isSome

/-- A request ends without an exception, and nothing is handed out. -/
def Quiet (x : Action Response) (s : Browser) : Prop :=
  (∃ response t, x s = .ok response t) ∧ ¬HandsOut (x s)

/-- Only what is permitted is handed out, and any other request is refused. -/
structure Guarded (r : Request) (s : Browser) : Prop where
  only : HandsOut (respond c db userInfo r s) → Permitted db userInfo r.id
  refused : ¬Permitted db userInfo r.id → Quiet (respond c db userInfo r) s

theorem guarded_iff_quiet {r : Request} {s : Browser} :
    Guarded c db userInfo r s ↔
      Permitted db userInfo r.id ∨ Quiet (respond c db userInfo r) s := by
  constructor
  · intro h
    by_cases hpermitted : Permitted db userInfo r.id
    · exact .inl hpermitted
    · exact .inr (h.refused hpermitted)
  · intro h
    rcases h with hpermitted | hquiet
    · exact ⟨fun _ => hpermitted, fun hnot => absurd hpermitted hnot⟩
    · exact ⟨fun hhands => absurd hhands hquiet.2, fun _ => hquiet⟩

/-- The application that a request is served with. -/
def served (s : Browser) (id : String) : Option Apps :=
  (s.app.filter fun app => JavaText.equalsIgnoreCase app.id id).or (AppsService.get db.apps id)

/-- The account of the user in the application is yet to be defined. -/
def AwaitsAccount (app : Apps) : Prop :=
  app.credential = Apps.USER_DEFINED ∧ loadAccount db userInfo.id app.id = none

/-- An endpoint has nothing to hand out for an application. -/
def WithheldBy (endpoint : Endpoint) (app : Apps) (id : String) : Prop :=
  match endpoint with
  | .formBased => (getAppDetails db db.formBasedDetails id).isSome ∧ AwaitsAccount db userInfo app
  | .tokenBased => False
  | .desktop => (getAppDetails db db.desktopDetails id).isSome ∧ AwaitsAccount db userInfo app
  | .extendApi => SingleSignOn.isTrue app.isAdapter → AwaitsAccount db userInfo app

/-- The protocol of the applications of an endpoint. -/
def protocolOf : Endpoint → String
  | .formBased => "Form_Based"
  | .tokenBased => "Token_Based"
  | .desktop => "Desktop"
  | .extendApi => "Extend_API"

/-- The protocols that lead to none of the endpoints. -/
def otherProtocols : List String := ["OAuth_v2.0", "SAML_v2.0", "CAS", "Basic"]

/-- There is an application to serve the request with, and the endpoint that is asked, or that its
protocol leads to, has nothing to hand out; or the protocol leads to none of the endpoints. -/
def Withheld (s : Browser) : Request → Prop
  | .direct endpoint id => ∃ app ∈ served db s id, WithheldBy db userInfo endpoint app id
  | .through id => ∃ app ∈ served db s id, ∃ protocol ∈ app.protocol,
    (∃ name ∈ otherProtocols, JavaText.equalsIgnoreCase protocol name) ∨
      ∃ endpoint, JavaText.equalsIgnoreCase protocol (protocolOf endpoint) ∧
        WithheldBy db userInfo endpoint app id

section Lookups

variable {db} {s t : Browser} {app : Apps} {id : String}

/-- The id of what a request is served with agrees with the one asked for, ignoring case. -/
theorem sameId_of_served (h : served db s id = some app) :
    JavaText.equalsIgnoreCase app.id id = true := by
  rcases Option.or_eq_some_iff.mp h with hkept | ⟨-, hfound⟩
  · exact (Option.filter_eq_some_iff.mp hkept).2
  · rw [(AppsService.get_eq_some hfound).2]
    exact JavaText.equalsIgnoreCase_self id

theorem served_of_kept (hkept : s.app = some app)
    (hid : JavaText.equalsIgnoreCase app.id id = true) : served db s id = some app := by
  simp only [served, hkept, Option.filter_some, hid, if_true, Option.some_or]

/-- The application that is kept goes on to serve the id that it was looked up for. -/
theorem served_again (h : served db s id = some app) (hkept : t.app = some app) :
    served db t id = some app := served_of_kept hkept (sameId_of_served h)

/-- One step of a lookup: what the session keeps afterwards is what the request is served with. -/
theorem getApp_apply (id : String) (s : Browser) :
    getApp db id s = .ok (served db s id) { s with app := served db s id } := by
  unfold getApp
  rw [bind_of_ok (get_apply s)]
  cases hkept : s.app with
  | none =>
    have hserved : served db s id = AppsService.get db.apps id := by
      simp only [served, hkept, Option.filter_none, Option.none_or]
    rw [hserved]
    rfl
  | some app =>
    by_cases hid : JavaText.equalsIgnoreCase app.id id = true
    · have hs : s = { s with app := some app } := by rw [← hkept]
      rw [served_of_kept hkept hid, ← hs]
      exact congrFun (if_pos hid) s
    · have hserved : served db s id = AppsService.get db.apps id := by
        simp only [served, hkept, Option.filter_some, if_neg hid, Option.none_or]
      rw [hserved]
      exact congrFun (if_neg hid) s

end Lookups

section Composition

variable {α : Type} {x : Action α} {f : α → Action Response} {s t : Browser}

theorem quiet_bind_of_ok {a : α} (h : x s = .ok a t) : Quiet (x >>= f) s ↔ Quiet (f a) t := by
  simp only [Quiet, bind_of_ok h]

theorem not_quiet_of_error {y : Action Response} {e : JavaException} (h : y s = .error e t) :
    ¬Quiet y s := by
  intro hquiet
  obtain ⟨response, u, hok⟩ := hquiet.1
  rw [h] at hok
  cases hok

/-- A request is quiet where its first step returns, and what follows is quiet. -/
theorem quiet_bind : Quiet (x >>= f) s ↔ ∃ a t, x s = .ok a t ∧ Quiet (f a) t := by
  cases h : x s with
  | ok a t =>
    rw [quiet_bind_of_ok h]
    refine ⟨fun hquiet => ⟨a, t, rfl, hquiet⟩, ?_⟩
    intro ⟨b, u, hok, hquiet⟩
    cases hok
    exact hquiet
  | error e t =>
    apply iff_of_false (not_quiet_of_error (bind_of_error h))
    intro ⟨b, u, hok, _⟩
    cases hok

theorem quiet_orThrow {o : Option α} {e : JavaException} :
    Quiet (orThrow e o >>= f) s ↔ ∃ a ∈ o, Quiet (f a) s := by
  cases o with
  | none =>
    apply iff_of_false (not_quiet_of_error (bind_of_error rfl))
    intro ⟨a, ha, _⟩
    cases ha
  | some a =>
    rw [orThrow_some_bind]
    exact ⟨fun hquiet => ⟨a, rfl, hquiet⟩, fun ⟨b, hb, hquiet⟩ => Option.some.inj hb ▸ hquiet⟩

theorem quiet_getApp {f : Option Apps → Action Response} {id : String} :
    Quiet (getApp db id >>= f) s ↔
      Quiet (f (served db s id)) { s with app := served db s id } :=
  quiet_bind_of_ok (getApp_apply id s)

theorem not_quiet_bind (hf : ∀ a t, ¬Quiet (f a) t) : ¬Quiet (x >>= f) s := by
  intro hquiet
  obtain ⟨a, t, -, hrest⟩ := quiet_bind.mp hquiet
  exact hf a t hrest

theorem not_quiet_view (v : View) : ¬Quiet (pure (.view v)) s := fun hquiet => hquiet.2 trivial

theorem handsOut_ok {response : Response} :
    HandsOut (.ok response s) ↔ (∃ v, response = .view v) ∨ s.cookie.isSome := by
  cases response with
  | view v => exact iff_of_true trivial (.inl ⟨v, rfl⟩)
  | redirect url => simp [HandsOut]
  | forward endpoint id => simp [HandsOut]
  | elsewhere path => simp [HandsOut]
  | null => simp [HandsOut]

theorem not_quiet_of_cookie {y : Action Response} (hcookie : s.cookie.isSome)
    (hy : Leaves Browser.cookie y) : ¬Quiet y s := by
  intro hquiet
  obtain ⟨⟨response, t, hok⟩, hnot⟩ := hquiet
  have hsame : t.cookie = s.cookie := final_of_ok hok ▸ hy s
  apply hnot
  rw [hok, handsOut_ok, hsame]
  exact .inr hcookie

/-- An answer that is no page of an adapter is quiet where the response carries no cookie. -/
theorem quiet_pure {response : Response} (hview : ∀ v, response ≠ .view v)
    (hcookie : s.cookie = none) : Quiet (pure response) s := by
  refine ⟨⟨response, s, rfl⟩, ?_⟩
  rw [pure_apply, handsOut_ok, hcookie]
  intro hhands
  rcases hhands with ⟨v, hv⟩ | hsome
  · exact hview v hv
  · cases hsome

end Composition

section AccountsOfUser

variable {s t : Browser} {app : Apps} {id : String}

theorem some_of_orError {α : Type} {r : Except JavaException α} {g : α → Accounts} :
    (orError r >>= fun a => pure (some (g a)) : Action (Option Accounts)) s ≠ .ok none t := by
  intro hok
  obtain ⟨a, u, -, hpure⟩ := bind_eq_ok.mp hok
  cases hpure

theorem exists_served_of_getAccounts {appUser : Option Accounts}
    (h : getAccounts c db userInfo id s = .ok appUser t) : ∃ app, served db s id = some app := by
  unfold getAccounts at h
  rw [bind_of_ok (getApp_apply id s)] at h
  obtain ⟨app, u, happ, -⟩ := bind_eq_ok.mp h
  exact ⟨app, (orThrow_eq_ok.mp happ).1⟩

/-- The account is null only where it is user-defined and yet to be defined. -/
theorem getAccounts_eq_none (h : served db s id = some app) :
    getAccounts c db userInfo id s = .ok none t ↔
      AwaitsAccount db userInfo app ∧ t = { s with app := some app } := by
  unfold getAccounts
  rw [bind_of_ok (getApp_apply id s), h, orThrow_some_bind]
  by_cases huser : app.credential = Apps.USER_DEFINED
  · rw [if_pos huser]
    cases haccount : loadAccount db userInfo.id app.id with
    | none =>
      have hawaits : AwaitsAccount db userInfo app := ⟨huser, haccount⟩
      simp only [pure_apply, hawaits, true_and, EStateM.Result.ok.injEq, eq_comm]
    | some account =>
      apply iff_of_false some_of_orError
      intro ⟨hawaits, _⟩
      rw [hawaits.2] at haccount
      cases haccount
  · apply iff_of_false ?_ fun hawaits => huser hawaits.1.1
    rw [if_neg huser]
    split_ifs with hshared hsystem hnone
    · exact some_of_orError
    · intro hok
      obtain ⟨attr, u, -, hrest⟩ := bind_eq_ok.mp hok
      exact some_of_orError hrest
    · exact nofun
    · exact nofun

/-- Asking for the account is quiet, and signing on with one is not. -/
theorem quiet_getAccounts {f : Option Accounts → Action Response} (hcookie : s.cookie = none)
    (hasked : ∀ t, t.cookie = none → Quiet (f none) t)
    (hshown : ∀ appUser t, ¬Quiet (f (some appUser)) t) :
    Quiet (getAccounts c db userInfo id >>= f) s ↔
      ∃ app ∈ served db s id, AwaitsAccount db userInfo app := by
  rw [quiet_bind]
  constructor
  · intro ⟨appUser, t, hok, hquiet⟩
    cases appUser with
    | none =>
      obtain ⟨app, happ⟩ := exists_served_of_getAccounts c db userInfo hok
      exact ⟨app, happ, ((getAccounts_eq_none c db userInfo happ).mp hok).1⟩
    | some appUser => exact absurd hquiet (hshown appUser t)
  · intro ⟨app, happ, hawaits⟩
    have hok := (getAccounts_eq_none c db userInfo happ).mpr ⟨hawaits, rfl⟩
    exact ⟨none, _, hok, hasked _ hcookie⟩

end AccountsOfUser

section Endpoints

variable {s : Browser} {app : Apps} {id : String}

theorem getAppDetails_id {details : List String} {appDetails : AppsDetails}
    (h : getAppDetails db details id = some appDetails) : appDetails.id = id := by
  unfold getAppDetails at h
  split_ifs at h
  obtain ⟨app, happ, rfl⟩ := Option.map_eq_some_iff.mp h
  exact (AppsService.get_eq_some (Option.filter_eq_some_iff.mp happ).1).2

theorem quiet_credential (hcookie : s.cookie = none) (redirect_uri : String) :
    Quiet (pure (generateInitCredentialModelAndView id redirect_uri)) s :=
  quiet_pure (fun _ => nofun) hcookie

/-- A page of an adapter is never quiet, whatever becomes of the adapter. -/
theorem not_quiet_page (r : Except JavaException View) :
    ¬Quiet (orError r >>= fun v => pure (.view v)) s := not_quiet_bind fun v _ => not_quiet_view v

theorem formBased_quiet_iff (hcookie : s.cookie = none) :
    Quiet (FormBasedAuthorizeEndpoint.authorize c db userInfo id) s ↔
      ∃ app ∈ served db s id, WithheldBy db userInfo .formBased app id := by
  unfold FormBasedAuthorizeEndpoint.authorize
  simp only [quiet_getApp, quiet_orThrow]
  cases hdetails : getAppDetails db db.formBasedDetails id with
  | none => simp [WithheldBy, hdetails]
  | some details =>
    cases happ : served db s id with
    | none => simp
    | some app =>
      simp only [Option.mem_some_iff, exists_eq_left', getAppDetails_id db hdetails]
      have hagain : served db { s with app := some app } id = some app := served_again happ rfl
      rw [quiet_getAccounts c db userInfo]
      · simp [WithheldBy, hdetails, hagain]
      · exact hcookie
      · exact fun t ht => quiet_credential ht _
      · exact fun appUser t => not_quiet_bind fun adapter u => not_quiet_page _

theorem desktop_quiet_iff (hcookie : s.cookie = none) :
    Quiet (DesktopAuthorizeEndpoint.authorize c db userInfo id) s ↔
      ∃ app ∈ served db s id, WithheldBy db userInfo .desktop app id := by
  unfold DesktopAuthorizeEndpoint.authorize
  rw [quiet_orThrow]
  cases hdetails : getAppDetails db db.desktopDetails id with
  | none => simp [WithheldBy, hdetails]
  | some details =>
    simp only [Option.mem_some_iff, exists_eq_left', getAppDetails_id db hdetails]
    rw [quiet_getAccounts c db userInfo hcookie]
    · simp [WithheldBy, hdetails]
    · exact fun t ht => quiet_credential ht _
    · intro appUser t
      refine not_quiet_bind fun adapter u => ?_
      refine not_quiet_bind fun paramString u => ?_
      refine not_quiet_bind fun encryptParamString u => ?_
      exact not_quiet_bind fun signParamString u => not_quiet_page _

/-- A token is always handed out, in a page or in a cookie. -/
theorem tokenBased_not_quiet : ¬Quiet (TokenBasedAuthorizeEndpoint.authorize c db userInfo id) s := by
  unfold TokenBasedAuthorizeEndpoint.authorize
  refine not_quiet_bind fun application u => ?_
  refine not_quiet_bind fun tokenBasedDetails u => ?_
  refine not_quiet_bind fun application u => ?_
  refine not_quiet_bind fun adapter u => ?_
  refine not_quiet_bind fun tokenData u => ?_
  refine not_quiet_bind fun encryptTokenData u => ?_
  refine not_quiet_bind fun signTokenData u => ?_
  refine not_quiet_bind fun tokenType u => ?_
  split_ifs with hpost
  · exact not_quiet_page _
  · refine not_quiet_bind fun name u => ?_
    refine not_quiet_bind fun expires u => ?_
    rw [quiet_bind_of_ok (modify_apply _ u)]
    apply not_quiet_of_cookie rfl
    apply leaves_bind (leaves_orThrow _ _)
    intro redirectUri
    exact leaves_ite (leaves_pure _) (leaves_pure _)

theorem extendApi_quiet_iff (hcookie : s.cookie = none) :
    Quiet (ExtendApiAuthorizeEndpoint.authorize c db userInfo id) s ↔
      ∃ app ∈ served db s id, WithheldBy db userInfo .extendApi app id := by
  unfold ExtendApiAuthorizeEndpoint.authorize
  simp only [quiet_getApp, quiet_orThrow]
  cases happ : served db s id with
  | none => simp
  | some app =>
    simp only [Option.mem_some_iff, exists_eq_left']
    split_ifs with hadapter
    · have hself : served db { s with app := some app } app.id = some app :=
        served_of_kept rfl (JavaText.equalsIgnoreCase_self app.id)
      rw [quiet_getAccounts c db userInfo]
      · simp [WithheldBy, hadapter, hself]
      · exact hcookie
      · exact fun t ht => quiet_credential ht _
      · exact fun appUser t => not_quiet_bind fun adapter u => not_quiet_page _
    · have hagain : served db { s with app := some app } id = some app := served_again happ rfl
      apply iff_of_true
      · rw [quiet_getApp, hagain, quiet_orThrow]
        exact ⟨app, rfl, quiet_pure (fun _ => nofun) hcookie⟩
      · exact fun h => absurd h hadapter

/-- What an endpoint does with a request depends on the application it is served with alone. -/
theorem serve_quiet_iff (endpoint : Endpoint) (hcookie : s.cookie = none) :
    Quiet (serve c db userInfo endpoint id) s ↔
      ∃ app ∈ served db s id, WithheldBy db userInfo endpoint app id := by
  cases endpoint with
  | formBased => exact formBased_quiet_iff c db userInfo hcookie
  | tokenBased =>
    apply iff_of_false (tokenBased_not_quiet c db userInfo)
    exact fun ⟨app, _, hwithheld⟩ => hwithheld
  | desktop => exact desktop_quiet_iff c db userInfo hcookie
  | extendApi => exact extendApi_quiet_iff c db userInfo hcookie

end Endpoints

section Protocols

variable {s : Browser} {app : Apps} {id protocol name : String}

/-- The session is sent to another place, which hands out nothing here. -/
def Elsewhere : Response → Prop
  | .redirect _ | .elsewhere _ => True
  | _ => False

theorem modelAndView_congr (h : JavaText.equalsIgnoreCase protocol name = true) :
    AuthorizeEndpoint.modelAndView app id protocol =
      AuthorizeEndpoint.modelAndView app id name := by
  simp only [AuthorizeEndpoint.modelAndView, JavaText.equalsIgnoreCase_congr h]

theorem modelAndView_protocolOf (endpoint : Endpoint) :
    AuthorizeEndpoint.modelAndView app id (protocolOf endpoint) = some (.forward endpoint id) := by
  cases endpoint with
  | formBased => rfl
  | tokenBased => rfl
  | desktop => rfl
  | extendApi => rfl

theorem modelAndView_other (h : name ∈ otherProtocols) :
    ∃ response, AuthorizeEndpoint.modelAndView app id name = some response ∧
      Elsewhere response := by
  simp only [otherProtocols, List.mem_cons, List.not_mem_nil, or_false] at h
  rcases h with rfl | rfl | rfl | rfl
  · exact ⟨_, rfl, trivial⟩
  · exact ⟨_, rfl, trivial⟩
  · exact ⟨_, rfl, trivial⟩
  · exact ⟨_, rfl, trivial⟩

/-- Every model and view there is comes from the protocol of an endpoint or from another one. -/
theorem protocol_of_modelAndView {response : Response}
    (h : AuthorizeEndpoint.modelAndView app id protocol = some response) :
    (∃ name ∈ otherProtocols, JavaText.equalsIgnoreCase protocol name) ∨
      ∃ endpoint, JavaText.equalsIgnoreCase protocol (protocolOf endpoint) := by
  unfold AuthorizeEndpoint.modelAndView at h
  split_ifs at h with hextend hform hoauth hopenid hsaml htoken hcas hdesktop hbasic
  · exact .inr ⟨.extendApi, hextend⟩
  · exact .inr ⟨.formBased, hform⟩
  · exact .inl ⟨"OAuth_v2.0", by decide +kernel, hoauth⟩
  · exact .inl ⟨"SAML_v2.0", by decide +kernel, hsaml⟩
  · exact .inr ⟨.tokenBased, htoken⟩
  · exact .inl ⟨"CAS", by decide +kernel, hcas⟩
  · exact .inr ⟨.desktop, hdesktop⟩
  · exact .inl ⟨"Basic", by decide +kernel, hbasic⟩

/-- The session that /authz/{id} forwards with. -/
def kept (s : Browser) (app : Apps) (id : String) : Browser :=
  { s with app := some app, singleSignOnAppId := some id }

/-- What follows on a model and view. -/
def follow : Response → Action Response
  | .forward endpoint id => serve c db userInfo endpoint id
  | response => pure response

theorem quiet_through :
    Quiet (respond c db userInfo (.through id)) s ↔
      ∃ app ∈ served db s id, ∃ protocol ∈ app.protocol,
        ∃ response ∈ AuthorizeEndpoint.modelAndView app id protocol,
          Quiet (follow c db userInfo response) (kept s app id) := by
  have hrespond : respond c db userInfo (.through id) =
      AuthorizeEndpoint.authorize db id >>= follow c db userInfo := rfl
  rw [hrespond, AuthorizeEndpoint.authorize]
  simp only [bind_assoc, quiet_getApp, quiet_bind_of_ok (modify_apply _ _), quiet_orThrow]
  cases happ : served db s id with
  | none => simp
  | some app => simp only [Option.mem_some_iff, exists_eq_left', kept]

theorem quiet_follow_forward {endpoint : Endpoint} (happ : served db s id = some app)
    (hcookie : s.cookie = none) :
    Quiet (follow c db userInfo (.forward endpoint id)) (kept s app id) ↔
      WithheldBy db userInfo endpoint app id := by
  have hagain : served db (kept s app id) id = some app := served_again happ rfl
  rw [follow, serve_quiet_iff c db userInfo endpoint (show (kept s app id).cookie = none from hcookie),
    hagain]
  simp

theorem quiet_follow_elsewhere {response : Response} (h : Elsewhere response)
    (hcookie : s.cookie = none) : Quiet (follow c db userInfo response) s := by
  cases response with
  | redirect url => exact quiet_pure (fun _ => nofun) hcookie
  | elsewhere path => exact quiet_pure (fun _ => nofun) hcookie
  | view v => exact h.elim
  | forward endpoint id => exact h.elim
  | null => exact h.elim

theorem through_quiet_iff (hcookie : s.cookie = none) :
    Quiet (respond c db userInfo (.through id)) s ↔ Withheld db userInfo s (.through id) := by
  rw [quiet_through]
  constructor
  · intro ⟨app, happ, protocol, hprotocol, response, hresponse, hquiet⟩
    refine ⟨app, happ, protocol, hprotocol, ?_⟩
    rcases protocol_of_modelAndView hresponse with hother | ⟨endpoint, hendpoint⟩
    · exact .inl hother
    · rw [modelAndView_congr hendpoint, modelAndView_protocolOf] at hresponse
      obtain rfl := Option.some.inj hresponse
      exact .inr ⟨endpoint, hendpoint, (quiet_follow_forward c db userInfo happ hcookie).mp hquiet⟩
  · intro ⟨app, happ, protocol, hprotocol, hleads⟩
    refine ⟨app, happ, protocol, hprotocol, ?_⟩
    rcases hleads with ⟨name, hname, hsame⟩ | ⟨endpoint, hsame, hwithheld⟩
    · rw [modelAndView_congr hsame]
      obtain ⟨response, hresponse, helsewhere⟩ := modelAndView_other hname
      exact ⟨response, hresponse, quiet_follow_elsewhere c db userInfo helsewhere hcookie⟩
    · rw [modelAndView_congr hsame, modelAndView_protocolOf]
      exact ⟨_, rfl, (quiet_follow_forward c db userInfo happ hcookie).mpr hwithheld⟩

end Protocols

/-- For every state of the session and of the tables: a request is guarded where the application is
permitted to the user, or nothing is handed out anyway. -/
theorem guarded_iff (r : Request) (app : Option Apps) (singleSignOnAppId : Option String) :
    Guarded c db userInfo r ⟨app, singleSignOnAppId, none⟩ ↔
      Permitted db userInfo r.id ∨ Withheld db userInfo ⟨app, singleSignOnAppId, none⟩ r := by
  rw [guarded_iff_quiet]
  cases r with
  | direct endpoint id => exact or_congr_right (serve_quiet_iff c db userInfo endpoint rfl)
  | through id => exact or_congr_right (through_quiet_iff c db userInfo rfl)

section Examples

def ann : UserInfo := { id := "1", username := "ann" }

/-- An active application that is granted to no group, and an inactive one that is granted to all
users. -/
def mail : Apps := { id := "mail", protocol := some "Form_Based", status := Realm.ACTIVE }

def board : Apps := { id := "board", protocol := some "Token_Based", status := 2 }

def tables : Tables :=
  { apps := ⟨[mail, board], by decide⟩, formBasedDetails := ["mail"]
    tokenBasedDetails := ⟨[{ id := "board", tokenType := some "POST" }], by decide⟩
    groups := ["ALL_USER_GROUP"], groupPrivileges := [("ALL_USER_GROUP", "board")]
    userInfo := ⟨[ann], by decide⟩ }

def submit (name : String) : AuthorizeAdapter where
  generateInfo userInfo _ := .ok userInfo.username
  encrypt data _ _ := .ok data
  sign data _ := .ok data
  authorize _ _ data := .ok ⟨name, [("token", data)]⟩

def wiring : SingleSignOn.Config where
  decoder text := .ok (text.getD "")
  newInstance _ := .error nullPointer
  defaultFormBasedAdapter := submit "authorize/formbased_sso_submint"
  defaultTokenBasedAdapter := submit "authorize/tokenbased_sso_submint"
  defaultDesktopAdapter := submit "authorize/desktop_sso_execute"
  cookieName name := .ok (name.getD "")
  domainName := "maxkey.top"

theorem nothing_permitted (id : String) : ¬Permitted tables ann id := by
  have hmine : AppsMapper.queryMyApps tables none (some ann.username) = [board] := by decide
  intro ⟨app, happ, _, hactive⟩
  rw [hmine, List.mem_singleton] at happ
  rw [happ] at hactive
  exact absurd hactive (by decide)

/-- The page is handed out for an application that is granted to no group and for one that is
inactive, and an unknown id throws. -/
theorem unguarded :
    ¬Guarded wiring tables ann (.direct .formBased "mail") {} ∧
      ¬Guarded wiring tables ann (.through "board") {} ∧
      ¬Guarded wiring tables ann (.direct .desktop "unknown") {} := by
  have hmail : HandsOut (respond wiring tables ann (.direct .formBased "mail") {}) := trivial
  have hboard : HandsOut (respond wiring tables ann (.through "board") {}) := trivial
  have hunknown : respond wiring tables ann (.direct .desktop "unknown") {} =
      .error nullPointer {} := rfl
  refine ⟨?_, ?_, ?_⟩
  · exact fun hguarded => nothing_permitted "mail" (hguarded.only hmail)
  · exact fun hguarded => nothing_permitted "board" (hguarded.only hboard)
  · intro hguarded
    exact not_quiet_of_error hunknown (hguarded.refused (nothing_permitted "unknown"))

end Examples

end MaxKey.SignOnAccess
