import MaxKey.CasTickets
import MaxKey.KeyedTable
import MaxKey.Logon

namespace MaxKey.CasEndpoints
open CasTickets JavaException Effects

/-- What a StringBuffer appends for a text that may be null. -/
def text (s : Option String) : String := s.getD "null"

def textOfAll (texts : List String) : String := texts.foldr (· ++ ·) ""

/-- The response as the builder collects it. The attributes are a map to lists of values. -/
structure CasServiceResponse where
  code : Option String := none
  description : Option String := none
  result : Bool := false
  user : Option String := none
  ticket : Option String := none
  format : String := "xml"
  proxies : List String := []
  casAttributes : List (String × List (Option String)) := []
  deriving DecidableEq

namespace CasServiceResponse

/-- One more value for the attribute, or its first one. -/
def setAttribute (r : CasServiceResponse) (attr : String) (value : Option String) :
    CasServiceResponse :=
  if (r.casAttributes.lookup attr).isSome then
    { r with casAttributes := r.casAttributes.map fun entry =>
        if entry.1 = attr then (entry.1, entry.2 ++ [value]) else entry }
  else { r with casAttributes := r.casAttributes ++ [(attr, [value])] }

/-- The text of CAS 1.0. -/
def service10ResponseBuilder (r : CasServiceResponse) : String :=
  if r.result then "yes" ++ "\n" ++ text r.user else "no" ++ "\n" ++ "\n"

def xmlAttribute (key : String) (value : Option String) : String :=
  "<cas:" ++ key ++ ">" ++ text value ++ "</cas:" ++ key ++ ">\r\n"

/-- What follows the user in XML; `attributes` are those of the response in the order of the map. -/
def xmlAfterUser (r : CasServiceResponse) (attributes : List (String × List (Option String))) :
    String :=
  r.ticket.elim "" (fun ticket =>
      "<cas:proxyGrantingTicket>" ++ ticket ++ "</cas:proxyGrantingTicket>") ++
    (if attributes = [] then "" else
      "<cas:attributes>" ++
        textOfAll (attributes.map fun entry => textOfAll (entry.2.map (xmlAttribute entry.1))) ++
        "</cas:attributes>") ++
    (if r.proxies = [] then "" else
      "<cas:proxies>" ++
        textOfAll (r.proxies.map fun proxy => "<cas:proxy>" ++ proxy ++ "</cas:proxy>") ++
        "</cas:proxies>")

def serviceResponseXmlBuilder (r : CasServiceResponse)
    (attributes : List (String × List (Option String))) : String :=
  "<cas:serviceResponse xmlns:cas=\"http://www.yale.edu/tp/cas\">" ++
    (if r.result then
      "<cas:authenticationSuccess>" ++ "<cas:user>" ++ text r.user ++ "</cas:user>" ++
        r.xmlAfterUser attributes ++ "</cas:authenticationSuccess>"
    else
      "<cas:authenticationFailure code=\"" ++ text r.code ++ "\">" ++ text r.description ++
        "</cas:authenticationFailure>") ++
    "</cas:serviceResponse>"

def quoted (value : Option String) : String := "\"" ++ text value ++ "\""

def jsonValues : List (Option String) → String
  | [value] => quoted value
  | values => "[" ++ ",".intercalate (values.map quoted) ++ "]"

/-- The document in JSON. -/
def serviceResponseJsonBuilder (r : CasServiceResponse)
    (attributes : List (String × List (Option String))) : String :=
  "\x7b\"serviceResponse\" :\x7b" ++
    (if r.result then
      "\"authenticationSuccess\" : \x7b" ++ "\"user\" : " ++ quoted r.user ++
        r.ticket.elim "" (fun ticket => ",\"proxyGrantingTicket\" : " ++ quoted (some ticket)) ++
        (if attributes = [] then "" else
          ",\"attributes\" : \x7b" ++
            ",".intercalate (attributes.map fun entry =>
              "\"" ++ entry.1 ++ "\":" ++ jsonValues entry.2) ++ "\x7d") ++
        (if r.proxies = [] then "" else
          ",\"proxies\" : [ " ++
            ",".intercalate (r.proxies.map fun proxy => quoted (some proxy)) ++ "]") ++
        "\x7d"
    else
      "\"authenticationFailure\" : \x7b" ++ "\"code\" : " ++ quoted r.code ++
        ",\"description\" : " ++ quoted r.description ++ "\x7d") ++
    "\x7d" ++ "\x7d"

def serviceResponseBuilder (order : RowOrder (String × List (Option String)))
    (r : CasServiceResponse) : String :=
  if JavaText.equalsIgnoreCase r.format "xml" then
    r.serviceResponseXmlBuilder (order.scan r.casAttributes)
  else r.serviceResponseJsonBuilder (order.scan r.casAttributes)

end CasServiceResponse

/-- What BasicAuthentication.toString prints behind the password. -/
def fieldsAfterPassword (a : BasicAuthentication) : String :=
  ", sessionId=" ++ text a.sessionId ++
    ", captcha=" ++ text a.captcha ++
    ", otpCaptcha=" ++ text a.otpCaptcha ++
    ", remeberMe=" ++ text a.remeberMe ++
    ", authType=" ++ text a.authType ++
    ", jwtToken=" ++ text a.jwtToken ++
    ", grantedAuthority=" ++
      text (a.grantedAuthority.map fun roles => "[" ++ ", ".intercalate roles ++ "]") ++
    ", authenticated=" ++ (if a.authenticated then "true" else "false") ++ "]"

def basicToString (a : BasicAuthentication) : String :=
  "BasicAuthentication [username=" ++ text a.username ++
    ", password=" ++ text a.password ++ fieldsAfterPassword a

/-- An adapter sets attributes out of the user's record, in this order, or throws. -/
abbrev Adapter := Option UserInfo → Except JavaException (List (String × Option String))

/-- What the endpoints are wired with: how Spring's User prints, the order in which a HashMap
hands out its entries, the class that an application names as its adapter (a null where there
is none, an exception where it is something else), and the user table. -/
structure Config where
  userToString : User → String
  attributeOrder : RowOrder (String × List (Option String))
  newInstance : Option String → Except JavaException (Option Adapter)
  loadByUsername : Option String → Except JavaException (Option UserInfo)

/-- storedTicket.getAuthentication().getPrincipal() -/
def principal (ticket : Ticket) : Except JavaException Principal :=
  ticket.authentication.elim (.error nullPointer) fun a => .ok a.getPrincipal

/-- ((BasicAuthentication) principal).getUsername() -/
def getUsername : Principal → Except JavaException (Option String)
  | .basic authentication => .ok authentication.username
  | .user _ | .name (some _) => .error classCast
  | .name none => .error nullPointer

/-- principal.toString() -/
def principalToString (c : Config) : Principal → Except JavaException String
  | .basic authentication => .ok (basicToString authentication)
  | .user details => .ok (c.userToString details)
  | .name (some name) => .ok name
  | .name none => .error nullPointer

def success (user : Option String) : CasServiceResponse := { result := true, user := user }

/-- The attributes of an application with an adapter. -/
def generateInfo (c : Config) (ticket : Ticket) (user : Option String) (r : CasServiceResponse) :
    Except JavaException CasServiceResponse := do
  let casDetails ← ticket.casDetails.elim (.error nullPointer) .ok
  if casDetails.isAdapter = 1 then
    let adapter ← c.newInstance casDetails.adapter
    let userInfo ← c.loadByUsername user
    let adapter ← adapter.elim (.error nullPointer) .ok
    let attributes ← adapter userInfo
    return attributes.foldl (fun r a => r.setAttribute a.1 a.2) r
  else return r

def notRecognized (ticketId : String) : CasServiceResponse :=
  { code := some "INVALID_TICKET"
    description := some ("Ticket " ++ ticketId ++ " not recognized") }

/-- /validate, with the ticket that consumeTicket has returned, if any. -/
def Cas10.validate : Option Ticket → Except JavaException CasServiceResponse
  | some ticket => do
    let user ← getUsername (← principal ticket)
    return success user
  | none => return {}

def Cas20.serviceValidate (c : Config) (ticketId : String) :
    Option Ticket → Except JavaException CasServiceResponse
  | some ticket => do
    let user ← getUsername (← principal ticket)
    generateInfo c ticket user (success user)
  | none => return notRecognized ticketId

/-- The one endpoint that reports the principal as it prints. -/
def Cas20.proxyValidate (c : Config) (ticketId : String) :
    Option Ticket → Except JavaException CasServiceResponse
  | some ticket => do
    let user ← principalToString c (← principal ticket)
    return success (some user)
  | none => return notRecognized ticketId

def Cas30.serviceValidate (c : Config) (ticketId : String) :
    Option Ticket → Except JavaException CasServiceResponse :=
  Cas20.serviceValidate c ticketId

def Cas30.proxyValidate (c : Config) (ticketId : String) :
    Option Ticket → Except JavaException CasServiceResponse :=
  Cas20.serviceValidate c ticketId

inductive Endpoint
  | validate
  | serviceValidate
  | proxyValidate
  | p3ServiceValidate
  | p3ProxyValidate
  deriving DecidableEq

namespace Endpoint

/-- What the endpoint makes of the ticket. -/
def answer (c : Config) (ticketId : String) (stored : Option Ticket) :
    Endpoint → Except JavaException CasServiceResponse
  | validate => Cas10.validate stored
  | serviceValidate => Cas20.serviceValidate c ticketId stored
  | proxyValidate => Cas20.proxyValidate c ticketId stored
  | p3ServiceValidate => Cas30.serviceValidate c ticketId stored
  | p3ProxyValidate => Cas30.proxyValidate c ticketId stored

/-- The document that is sent. -/
def document (c : Config) (r : CasServiceResponse) : Endpoint → String
  | validate => r.service10ResponseBuilder
  | serviceValidate | proxyValidate | p3ServiceValidate | p3ProxyValidate =>
    r.serviceResponseBuilder c.attributeOrder

/-- What the client of the endpoint gets for a ticket, if no exception ends the request. -/
def response (c : Config) (ticketId : String) (stored : Option Ticket) (e : Endpoint) :
    Except JavaException String := do
  let r ← e.answer c ticketId stored
  return e.document c r

end Endpoint

/-- The parameters of a request. None but the ticket is read. -/
structure ValidationRequest where
  ticket : String
  service : String
  pgtUrl : Option String := none
  renew : Option String := none
  format : String := "xml"

section Requests

variable {σ : Type} (services : TicketServices σ)

/-- Whatever consumeTicket throws leaves the endpoint without a ticket. -/
def storedTicket (ticketId : String) : EStateM JavaException (State σ) (Option Ticket) :=
  tryCatch (some <$> services.consumeTicket ticketId) fun _ => pure none

def Endpoint.handle (c : Config) (request : ValidationRequest) (e : Endpoint) :
    EStateM JavaException (State σ) CasServiceResponse := do
  let stored ← storedTicket services request.ticket
  orError (e.answer c request.ticket stored)

end Requests

/-- CasAuthorizeEndpoint.grantingTicket: the ticket for the authentication of the session and
the application that the login was for. -/
def grantingTicket (session : HttpSession) (casDetails : AppsCasDetails) : Ticket :=
  .serviceTicketImpl session.currentAuthentication (some casDetails)

section Names

variable {c : Config} {ticketId ticketId' : String} {r r' : CasServiceResponse} {ticket : Ticket}
  {form form' : BasicAuthentication} {e e' : Endpoint}

@[simp] theorem setAttribute_user (r : CasServiceResponse) (attr : String)
    (value : Option String) : (r.setAttribute attr value).user = r.user := by
  unfold CasServiceResponse.setAttribute
  split_ifs <;> rfl

@[simp] theorem setAttribute_result (r : CasServiceResponse) (attr : String)
    (value : Option String) : (r.setAttribute attr value).result = r.result := by
  unfold CasServiceResponse.setAttribute
  split_ifs <;> rfl

theorem setAttributes_user_result (attributes : List (String × Option String))
    (r : CasServiceResponse) :
    (attributes.foldl (fun r a => r.setAttribute a.1 a.2) r).user = r.user ∧
      (attributes.foldl (fun r a => r.setAttribute a.1 a.2) r).result = r.result := by
  induction attributes generalizing r with
  | nil => exact ⟨rfl, rfl⟩
  | cons a attributes ih =>
    have hrest := ih (r.setAttribute a.1 a.2)
    rw [setAttribute_user, setAttribute_result] at hrest
    exact hrest

/-- An adapter adds attributes to a response and changes neither its outcome nor its user. -/
theorem generateInfo_keeps {user : Option String} (h : generateInfo c ticket user r = .ok r') :
    r'.user = r.user ∧ r'.result = r.result := by
  unfold generateInfo at h
  obtain ⟨casDetails, -, h⟩ := except_bind_eq_ok.mp h
  split_ifs at h
  · obtain ⟨adapter, -, h⟩ := except_bind_eq_ok.mp h
    obtain ⟨userInfo, -, h⟩ := except_bind_eq_ok.mp h
    obtain ⟨adapter, -, h⟩ := except_bind_eq_ok.mp h
    obtain ⟨attributes, -, h⟩ := except_bind_eq_ok.mp h
    rw [← Except.ok.inj h]
    exact setAttributes_user_result attributes r
  · rw [← Except.ok.inj h]
    exact ⟨rfl, rfl⟩

/-- A ticket that is found is answered with success or with an exception. -/
theorem answer_some (h : e.answer c ticketId (some ticket) = .ok r) : r.result = true := by
  have hservice : Cas20.serviceValidate c ticketId (some ticket) = .ok r → r.result = true := by
    intro h
    obtain ⟨principal, -, h⟩ := except_bind_eq_ok.mp h
    obtain ⟨user, -, h⟩ := except_bind_eq_ok.mp h
    exact (generateInfo_keeps h).2
  cases e with
  | validate =>
    obtain ⟨principal, -, h⟩ := except_bind_eq_ok.mp h
    obtain ⟨user, -, h⟩ := except_bind_eq_ok.mp h
    rw [← Except.ok.inj h]
    rfl
  | serviceValidate => exact hservice h
  | proxyValidate =>
    obtain ⟨principal, -, h⟩ := except_bind_eq_ok.mp h
    obtain ⟨user, -, h⟩ := except_bind_eq_ok.mp h
    rw [← Except.ok.inj h]
    rfl
  | p3ServiceValidate => exact hservice h
  | p3ProxyValidate => exact hservice h

/-- Without a ticket every endpoint answers with a failure. -/
theorem answer_none (c : Config) (ticketId : String) (e : Endpoint) :
    ∃ r, e.answer c ticketId none = .ok r ∧ r.result = false := by
  cases e with
  | validate => exact ⟨{}, rfl, rfl⟩
  | _ => exact ⟨notRecognized ticketId, rfl, rfl⟩

/-- The ticket of a password login: the principal is the form. -/
def formTicket (token : UsernamePasswordAuthenticationToken) (casDetails : AppsCasDetails) : Ticket :=
  .serviceTicketImpl (some (.user (.token token))) (some casDetails)

variable {token token' : UsernamePasswordAuthenticationToken} {casDetails : AppsCasDetails}

/-- The name that an endpoint reports for a form. -/
def Endpoint.reportedUser (form : BasicAuthentication) : Endpoint → Option String
  | .proxyValidate => some (basicToString form)
  | _ => form.username

/-- The endpoints but one see of a form its user name only. -/
theorem answer_of_username (htoken : token.principal = .basic form) (he : e ≠ .proxyValidate) :
    e.answer c ticketId (some (formTicket token casDetails)) =
      if e = .validate then .ok (success form.username)
      else generateInfo c (formTicket token casDetails) form.username (success form.username) := by
  have hprincipal : principal (formTicket token casDetails) = .ok (.basic form) :=
    congrArg Except.ok htoken
  cases e with
  | proxyValidate => exact absurd rfl he
  | validate =>
    simp only [Endpoint.answer, Cas10.validate, hprincipal, if_true]
    rfl
  | _ =>
    simp only [Endpoint.answer, Cas20.serviceValidate, Cas30.serviceValidate, Cas30.proxyValidate,
      hprincipal, reduceCtorEq, if_false]
    rfl

theorem answer_proxyValidate (htoken : token.principal = .basic form) :
    Endpoint.answer c ticketId (some (formTicket token casDetails)) .proxyValidate =
      .ok (success (some (basicToString form))) := by
  have hprincipal : principal (formTicket token casDetails) = .ok (.basic form) :=
    congrArg Except.ok htoken
  simp only [Endpoint.answer, Cas20.proxyValidate, hprincipal]
  rfl

theorem reportedUser_of_ne (he : e ≠ .proxyValidate) : e.reportedUser form = form.username := by
  cases e with
  | proxyValidate => exact absurd rfl he
  | _ => rfl

/-- The user in the answer is the reported one. -/
theorem answer_formTicket (htoken : token.principal = .basic form)
    (h : e.answer c ticketId (some (formTicket token casDetails)) = .ok r) :
    r.user = e.reportedUser form := by
  by_cases he : e = .proxyValidate
  · rw [he, answer_proxyValidate htoken] at h
    rw [← Except.ok.inj h, he]
    rfl
  · rw [answer_of_username htoken he] at h
    rw [reportedUser_of_ne he]
    split_ifs at h
    · rw [← Except.ok.inj h]
      rfl
    · exact (generateInfo_keeps h).1

/-- A form prints longer than its user name is. -/
theorem basicToString_ne_username (form : BasicAuthentication) :
    some (basicToString form) ≠ form.username := by
  intro h
  have hlength : (basicToString form).length = (text form.username).length := by rw [← h, text]; rfl
  have hprefix : "BasicAuthentication [username=".length = 30 := by decide +kernel
  unfold basicToString at hlength
  rw [String.length_append, String.length_append, String.length_append, String.length_append,
    hprefix] at hlength
  have hlonger : ∀ name a b d : ℕ, 30 + name + a + b + d ≠ name := by
    intro name a b d
    omega
  exact hlonger _ _ _ _ hlength

/-- Two forms that differ in the password at most print the same exactly when it prints the same. -/
theorem basicToString_inj (hform : form' = { form with password := form'.password }) :
    basicToString form = basicToString form' ↔ text form.password = text form'.password := by
  have hname : form'.username = form.username := by rw [hform]
  have hrest : fieldsAfterPassword form' = fieldsAfterPassword form := by
    rw [hform]
    rfl
  unfold basicToString
  rw [hname, hrest]
  refine ⟨fun h => ?_, fun h => by rw [h]⟩
  have hlist := congrArg String.toList h
  simp only [String.toList_append, List.append_assoc, List.append_cancel_left_eq,
    List.append_cancel_right_eq] at hlist
  exact String.toList_injective hlist

/-- The document of a success that reports nothing but a name tells the name. -/
theorem document_proxyValidate_inj {name name' : String} :
    Endpoint.document c (success (some name)) .proxyValidate =
      Endpoint.document c (success (some name')) .proxyValidate ↔ name = name' := by
  refine ⟨fun h => ?_, fun h => by rw [h]⟩
  have hxml : JavaText.equalsIgnoreCase "xml" "xml" = true := by decide +kernel
  have hrest : ∀ name, (success (some name)).xmlAfterUser (c.attributeOrder.scan []) =
      (success none).xmlAfterUser (c.attributeOrder.scan []) := fun _ => rfl
  have hdocument : ∀ name, Endpoint.document c (success (some name)) .proxyValidate =
      "<cas:serviceResponse xmlns:cas=\"http://www.yale.edu/tp/cas\">" ++
        ("<cas:authenticationSuccess>" ++ "<cas:user>" ++ name ++ "</cas:user>" ++
          (success none).xmlAfterUser (c.attributeOrder.scan []) ++ "</cas:authenticationSuccess>") ++
        "</cas:serviceResponse>" := by
    intro name
    rw [← hrest name]
    exact if_pos hxml
  rw [hdocument, hdocument] at h
  have hlist := congrArg String.toList h
  simp only [String.toList_append, List.append_assoc, List.append_cancel_left_eq,
    List.append_cancel_right_eq] at hlist
  exact String.toList_injective hlist

end Names

section Logins
open Logon

/-- A login with a password: the realm accepts the form, and the session has its token. -/
structure Login (c : Realm.Config) (request : HttpRequest) (s : LogonState)
    (token : UsernamePasswordAuthenticationToken) : Prop where
  accepted : ∃ t, doInternalAuthenticate c request s = .ok token t
  session : (final (authenticate c request) s).world.session.currentAuthentication =
    some (.user (.token token))

/-- The ticket that is granted to the session after the login. -/
def loginTicket (c : Realm.Config) (request : HttpRequest) (s : LogonState)
    (casDetails : AppsCasDetails) : Ticket :=
  grantingTicket (final (authenticate c request) s).world.session casDetails

variable {c : Realm.Config} {request : HttpRequest} {s s' : LogonState}
  {token token' : UsernamePasswordAuthenticationToken}

theorem Login.ticket (h : Login c request s token) (casDetails : AppsCasDetails) :
    loginTicket c request s casDetails = formTicket token casDetails := by
  unfold loginTicket grantingTicket formTicket
  rw [h.session]

theorem Login.principal (h : Login c request s token) :
    token.principal = .basic { s.authentication with authenticated := true } := by
  obtain ⟨t, ht⟩ := h.accepted
  exact (doInternalAuthenticate_returns ht).1

theorem Login.password (h : Login c request s token) : s.authentication.password.isSome := by
  obtain ⟨t, ht⟩ := h.accepted
  exact (doInternalAuthenticate_returns ht).2

/-- Where an accepted form can be logged, the login is one. -/
theorem login_of_accepted {t : LogonState} (h : doInternalAuthenticate c request s = .ok token t)
    (hauth : token.authenticated) (hhistory : Realm.historyWritable request t.world.session.currentUser) :
    Login c request s token := by
  have hidentity := authenticate_identity (attempt_of_ok h)
  have hflag : (UserAuthentication.token token).isAuthenticated = true := hauth
  rw [if_pos hflag, if_pos hhistory] at hidentity
  exact ⟨⟨t, h⟩, congrArg Prod.snd hidentity⟩

theorem text_inj {p q : Option String} (hp : p.isSome) (hq : q.isSome) :
    text p = text q ↔ p = q := by
  obtain ⟨a, rfl⟩ := Option.isSome_iff_exists.mp hp
  obtain ⟨b, rfl⟩ := Option.isSome_iff_exists.mp hq
  simp [text]

/-- Two logins whose forms differ in the password at most get the same answers from every
endpoint but one, which prints the password; and that one reports another user name. -/
theorem responses_iff (cas : Config) (casDetails : AppsCasDetails) (ticketId ticketId' : String)
    (hform : s'.authentication =
      { s.authentication with password := s'.authentication.password })
    (h : Login c request s token) (h' : Login c request s' token') :
    (∀ e : Endpoint,
      e.response cas ticketId (some (loginTicket c request s casDetails)) =
        e.response cas ticketId' (some (loginTicket c request s' casDetails)) ↔
      e ≠ .proxyValidate ∨ s.authentication.password = s'.authentication.password) ∧
    ∀ (e e' : Endpoint) (r r' : CasServiceResponse),
      e.answer cas ticketId (some (loginTicket c request s casDetails)) = .ok r →
      e'.answer cas ticketId (some (loginTicket c request s casDetails)) = .ok r' →
      (r.user = r'.user ↔ (e = .proxyValidate ↔ e' = .proxyValidate)) := by
  rw [h.ticket, h'.ticket]
  have hprincipal := h.principal
  have hprincipal' := h'.principal
  constructor
  · intro e
    -- proxyValidate alone prints the principal, in which the password stands
    by_cases he : e = .proxyValidate
    · rw [he]
      simp only [Endpoint.response, answer_proxyValidate hprincipal,
        answer_proxyValidate hprincipal', ne_eq, not_true_eq_false, false_or]
      rw [← text_inj h.password h'.password]
      have hprinted : ({ s'.authentication with authenticated := true } : BasicAuthentication) =
          { s.authentication with
            authenticated := true, password := s'.authentication.password } := by
        rw [hform]
      have hinj : basicToString { s.authentication with authenticated := true } =
          basicToString { s'.authentication with authenticated := true } ↔
          text s.authentication.password = text s'.authentication.password :=
        basicToString_inj hprinted
      rw [← hinj, ← document_proxyValidate_inj (c := cas)]
      exact ⟨Except.ok.inj, congrArg Except.ok⟩
    · have hname : s'.authentication.username = s.authentication.username := by rw [hform]
      refine iff_of_true ?_ (.inl he)
      simp only [Endpoint.response, answer_of_username hprincipal he,
        answer_of_username hprincipal' he, hname]
      rfl
  · intro e e' r r' hr hr'
    rw [answer_formTicket hprincipal hr, answer_formTicket hprincipal hr']
    -- what is printed for the principal is never the bare user name
    have hne := basicToString_ne_username { s.authentication with authenticated := true }
    by_cases he : e = .proxyValidate
    · by_cases he' : e' = .proxyValidate
      · rw [he, he']
        exact iff_of_true rfl Iff.rfl
      · rw [he, reportedUser_of_ne he']
        exact iff_of_false hne fun h => he' (h.mp rfl)
    · rw [reportedUser_of_ne he]
      by_cases he' : e' = .proxyValidate
      · rw [he']
        exact iff_of_false (Ne.symm hne) fun h => he (h.mpr rfl)
      · rw [reportedUser_of_ne he']
        exact iff_of_true rfl (iff_of_false he he')

/-- Endpoints without adapters. -/
def plainCas : Config where
  userToString := User.username
  attributeOrder := RowOrder.insertion _
  newInstance _ := .ok none
  loadByUsername _ := .ok none

def wiki : AppsCasDetails := { id := "app", service := some "https://wiki" }

/-- alice comes with a password that is the stored one. -/
def visit (password : String) : LogonState where
  world :=
    { database :=
        { twoUsers with
          userInfo := ⟨[{ alice with password := Realm.rawPassword "alice" password }], by simp⟩ }
      session := { id := "s1" } }
  authentication :=
    { username := some "alice", password := some password, sessionId := some "s1"
      authType := some "basic" }

def visitToken (password : String) : UsernamePasswordAuthenticationToken where
  principal := .basic { (visit password).authentication with authenticated := true }
  credentials := some "PASSWORD"
  authorities := ["ROLE_USER"]
  authenticated := true

theorem visit_login_wonder : Login plainRealm browser (visit "wonder") (visitToken "wonder") :=
  ⟨⟨_, rfl⟩, by decide +kernel⟩

theorem visit_login_marvel : Login plainRealm browser (visit "marvel") (visitToken "marvel") :=
  ⟨⟨_, rfl⟩, by decide +kernel⟩

theorem responses_of_two_passwords :
    Endpoint.response plainCas "ST-1-" (some (loginTicket plainRealm browser (visit "wonder") wiki))
        .serviceValidate =
      Endpoint.response plainCas "ST-2-" (some (loginTicket plainRealm browser (visit "marvel") wiki))
        .serviceValidate := by
  have hform : (visit "marvel").authentication =
      { (visit "wonder").authentication with
        password := (visit "marvel").authentication.password } := rfl
  have hresponses := responses_iff plainCas wiki "ST-1-" "ST-2-" hform visit_login_wonder
    visit_login_marvel
  exact (hresponses.1 .serviceValidate).mpr (.inl nofun)

/-- /proxyValidate tells the two logins apart, and reports no user name that another endpoint
reports. -/
theorem proxyValidate_prints_password :
    Login plainRealm browser (visit "wonder") (visitToken "wonder") ∧
    Login plainRealm browser (visit "marvel") (visitToken "marvel") ∧
    Endpoint.response plainCas "ST-1-" (some (loginTicket plainRealm browser (visit "wonder") wiki))
        .proxyValidate ≠
      Endpoint.response plainCas "ST-2-" (some (loginTicket plainRealm browser (visit "marvel") wiki))
        .proxyValidate ∧
    (Endpoint.answer plainCas "ST-1-" (some (loginTicket plainRealm browser (visit "wonder") wiki))
        .proxyValidate).toOption.map CasServiceResponse.user ≠
      (Endpoint.answer plainCas "ST-1-" (some (loginTicket plainRealm browser (visit "wonder") wiki))
        .serviceValidate).toOption.map CasServiceResponse.user :=
  ⟨visit_login_wonder, visit_login_marvel, by decide +kernel, by decide +kernel⟩

end Logins

end MaxKey.CasEndpoints
