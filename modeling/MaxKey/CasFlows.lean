import MaxKey.CasValidations

namespace MaxKey.CasFlows
open CasTickets CasEndpoints JavaException Effects Runs
open CasValidations (final_handle handle_of_some handle_of_not_some)

/-- What a session holds of its user, and of the application that it is signing on to. -/
structure Session where
  authentication : Option Authentication := none
  casDetails : Option AppsCasDetails := none

/-- The registered applications, with the active ones among them, the sessions, and the tickets. -/
structure State (σ : Type) where
  casDetails : KeyedTable AppsCasDetails.id := .empty
  active : String → Bool := fun _ => false
  sessions : String → Session := fun _ => {}
  tickets : CasTickets.State σ

/-- What the site is wired with. The query by the properties of an example reads the rows of
APPS_CAS_DETAILS alone, whatever the applications are otherwise. -/
structure Site (σ : Type) where
  endpoints : CasEndpoints.Config
  services : TicketServices σ
  query : KeyedTable AppsCasDetails.id → Option String → List AppsCasDetails
  query_sound : ∀ table service, ∀ details ∈ query table service,
    (∃ row ∈ table.rows, row.id = details.id ∧ row.service = details.service) ∧
      ∀ url ∈ service, details.service = some url

abbrev Flow (σ α : Type) := EStateM JavaException (State σ) α

section Endpoints

variable {σ : Type} (site : Site σ)

def State.setSession (sessionId : String) (session : Session) (s : State σ) : State σ :=
  { s with sessions := Function.update s.sessions sessionId session }

def State.setCasDetails (sessionId : String) (casDetails : Option AppsCasDetails) (s : State σ) :
    State σ :=
  s.setSession sessionId { s.sessions sessionId with casDetails := casDetails }

/-- The attribute is set before the application is looked at. -/
def buildCasModelAndView (sessionId : String) (casDetails : Option AppsCasDetails) :
    Flow σ String := do
  modify (State.setCasDetails sessionId casDetails)
  let _ ← orThrow nullPointer casDetails
  return "redirect:/authz/cas/granting"

/-- The one application of the service, be it active or not. -/
def queried (s : State σ) (casService : Option String) : Option AppsCasDetails :=
  match site.query s.casDetails casService with
  | [casDetails] => some casDetails
  | _ => none

def getAppDetails (s : State σ) (id : String) : Option AppsCasDetails :=
  if s.active id then (s.casDetails.select fun casDetails => casDetails.id = id).head? else none

def casLogin (sessionId : String) (casService : Option String) : Flow σ String := do
  let s ← get
  buildCasModelAndView sessionId (queried site s casService)

def authorize (sessionId id : String) : Flow σ String := do
  let s ← get
  buildCasModelAndView sessionId (getAppDetails s id)

/-- The ticket for what the session holds. -/
def serviceTicket (session : Session) : Ticket :=
  .serviceTicketImpl session.authentication session.casDetails

def redirection (casDetails : AppsCasDetails) (ticket : String) : String :=
  "redirect:" ++ text casDetails.service ++ "?" ++ "ticket" ++ "=" ++ ticket

/-- The ticket is created before the application is looked at. -/
def grantingTicket (sessionId : String) (random : List Int8) : Flow σ String := do
  let s ← get
  let ticket ← focus State.tickets (fun tickets s => { s with tickets := tickets })
    (site.services.createTicket (serviceTicket (s.sessions sessionId)) random)
  let casDetails ← orThrow nullPointer (s.sessions sessionId).casDetails
  return redirection casDetails ticket

def validation (e : Endpoint) (request : ValidationRequest) : Flow σ CasServiceResponse :=
  focus State.tickets (fun tickets s => { s with tickets := tickets })
    (e.handle site.services site.endpoints request)

/-- What goes on at the site. Who a session belongs to is decided elsewhere, and so is which
applications there are. -/
inductive Event
  | authenticated (sessionId : String) (authentication : Option Authentication)
  | invalidated (sessionId : String)
  | registered (casDetails : KeyedTable AppsCasDetails.id) (active : String → Bool)
  | casLogin (sessionId : String) (casService : Option String)
  | authorize (sessionId id : String)
  | grantingTicket (sessionId : String) (random : List Int8)
  | validation (e : Endpoint) (request : ValidationRequest)
  | wait (seconds : ℕ)

def step (s : State σ) : Event → State σ
  | .authenticated sessionId authentication =>
    s.setSession sessionId { s.sessions sessionId with authentication := authentication }
  | .invalidated sessionId => s.setSession sessionId {}
  | .registered casDetails active => { s with casDetails := casDetails, active := active }
  | .casLogin sessionId casService => final (CasFlows.casLogin site sessionId casService) s
  | .authorize sessionId id => final (CasFlows.authorize sessionId id) s
  | .grantingTicket sessionId random => final (CasFlows.grantingTicket site sessionId random) s
  | .validation e request => final (CasFlows.validation site e request) s
  | .wait seconds =>
    { s with tickets := { s.tickets with
        tickets := site.services.wait seconds s.tickets.tickets } }

def start : State σ := { tickets := site.services.start }

end Endpoints

/-- How many seconds go by. -/
def elapsed (events : List Event) : ℕ :=
  (events.map fun
    | .wait seconds => seconds
    | _ => 0).sum

/-- The event presents the ticket for validation. -/
def Event.Presents (event : Event) (ticketId : String) : Prop :=
  ∃ e request, event = .validation e request ∧ request.ticket = ticketId

/-- The session asks for the application, which the tables have then. -/
def Chooses {σ : Type} (site : Site σ) (s : State σ) (event : Event)
    (choice : String × AppsCasDetails) : Prop :=
  (∃ casService, event = .casLogin choice.1 casService ∧ queried site s casService = some choice.2) ∨
    ∃ id, event = .authorize choice.1 id ∧ getAppDetails s id = some choice.2

/-- The service of the application is registered. -/
def Registered {σ : Type} (s : State σ) (casDetails : AppsCasDetails) : Prop :=
  ∃ row ∈ s.casDetails.rows, row.id = casDetails.id ∧ row.service = casDetails.service

/-- The session asks for an application, or ends. -/
def Event.ChangesChoice (event : Event) (choice : String × AppsCasDetails) : Prop :=
  (∃ casService, event = .casLogin choice.1 casService) ∨ (∃ id, event = .authorize choice.1 id) ∨
    event = .invalidated choice.1

/-- The session gets another user or none, or ends. -/
def Event.ChangesUser (event : Event) (user : String × Authentication) : Prop :=
  (∃ authentication, event = .authenticated user.1 authentication) ∨ event = .invalidated user.1

section Steps

variable {σ : Type} {site : Site σ} {s : State σ} {sessionId : String}

theorem final_buildCasModelAndView (casDetails : Option AppsCasDetails) :
    final (buildCasModelAndView sessionId casDetails) s = s.setCasDetails sessionId casDetails := by
  cases casDetails <;> rfl

theorem step_casLogin (casService : Option String) :
    step site s (.casLogin sessionId casService) =
      s.setCasDetails sessionId (queried site s casService) :=
  final_buildCasModelAndView _

theorem step_authorize (id : String) :
    step site s (.authorize sessionId id) = s.setCasDetails sessionId (getAppDetails s id) :=
  final_buildCasModelAndView _

/-- The ticket stays whatever becomes of the redirect. -/
theorem step_grantingTicket (random : List Int8) :
    step site s (.grantingTicket sessionId random) = { s with
      tickets := final
        (site.services.createTicket (serviceTicket (s.sessions sessionId)) random) s.tickets } := by
  have hrest : ∀ ticket, Leaves (id : State σ → _) (do
      let casDetails ← orThrow nullPointer (s.sessions sessionId).casDetails
      return redirection casDetails ticket) :=
    fun ticket => leaves_bind (leaves_orThrow _ _) fun _ => leaves_pure _
  exact (final_bind_of_leaves hrest s).trans (final_focus _ _)

theorem step_validation (e : Endpoint) (request : ValidationRequest) :
    step site s (.validation e request) = { s with
      tickets := final (site.services.consumeTicket request.ticket) s.tickets } := by
  have hfinal := final_handle site.endpoints site.services s.tickets e request
  rw [← hfinal]
  exact final_focus _ _

/-- Whether a session has chosen an application is a matter of what it asked for last. -/
theorem chosen_step (s : State σ) (event : Event) (choice : String × AppsCasDetails) :
    ((step site s event).sessions choice.1).casDetails = some choice.2 ↔
      Chooses site s event choice ∨
        (s.sessions choice.1).casDetails = some choice.2 ∧ ¬event.ChangesChoice choice := by
  obtain ⟨sessionId, casDetails⟩ := choice
  cases event with
  | authenticated other authentication =>
    by_cases hother : sessionId = other <;>
      simp [step, State.setSession, Chooses, Event.ChangesChoice, hother]
  | invalidated other =>
    by_cases hother : sessionId = other
    · simp [step, State.setSession, Chooses, Event.ChangesChoice, hother]
    · simp [step, State.setSession, Chooses, Event.ChangesChoice, hother, Ne.symm hother]
  | casLogin other casService =>
    rw [step_casLogin]
    by_cases hother : sessionId = other
    · simp [State.setCasDetails, State.setSession, Chooses, Event.ChangesChoice, hother]
    · simp [State.setCasDetails, State.setSession, Chooses, Event.ChangesChoice, hother,
        Ne.symm hother]
  | authorize other id =>
    rw [step_authorize]
    by_cases hother : sessionId = other
    · simp [State.setCasDetails, State.setSession, Chooses, Event.ChangesChoice, hother]
    · simp [State.setCasDetails, State.setSession, Chooses, Event.ChangesChoice, hother,
        Ne.symm hother]
  | grantingTicket other random =>
    rw [step_grantingTicket]
    simp [Chooses, Event.ChangesChoice]
  | validation e request =>
    rw [step_validation]
    simp [Chooses, Event.ChangesChoice]
  | _ => simp [step, Chooses, Event.ChangesChoice]

theorem signedOn_step (s : State σ) (event : Event) (user : String × Authentication) :
    ((step site s event).sessions user.1).authentication = some user.2 ↔
      event = .authenticated user.1 (some user.2) ∨
        (s.sessions user.1).authentication = some user.2 ∧ ¬event.ChangesUser user := by
  obtain ⟨sessionId, authentication⟩ := user
  cases event with
  | authenticated other changed =>
    by_cases hother : sessionId = other
    · simp [step, State.setSession, Event.ChangesUser, hother]
    · simp [step, State.setSession, Event.ChangesUser, hother, Ne.symm hother]
  | invalidated other =>
    by_cases hother : sessionId = other
    · simp [step, State.setSession, Event.ChangesUser, hother]
    · simp [step, State.setSession, Event.ChangesUser, hother, Ne.symm hother]
  | casLogin other casService =>
    rw [step_casLogin]
    by_cases hother : sessionId = other <;>
      simp [State.setCasDetails, State.setSession, Event.ChangesUser, hother]
  | authorize other id =>
    rw [step_authorize]
    by_cases hother : sessionId = other <;>
      simp [State.setCasDetails, State.setSession, Event.ChangesUser, hother]
  | grantingTicket other random =>
    rw [step_grantingTicket]
    simp [Event.ChangesUser]
  | validation e request =>
    rw [step_validation]
    simp [Event.ChangesUser]
  | _ => simp [step, Event.ChangesUser]

end Steps

section Tickets

variable {σ : Type} {site : Site σ}

/-- What an event asks of the ticket services. -/
def Event.action (s : State σ) : Event → Option Action
  | .grantingTicket sessionId random =>
    some (.createTicket (serviceTicket (s.sessions sessionId)) random)
  | .validation _ request => some (.consumeTicket request.ticket)
  | .wait seconds => some (.wait seconds)
  | _ => none

theorem tickets_step (s : State σ) (event : Event) :
    (step site s event).tickets = (event.action s).elim s.tickets (site.services.step s.tickets) := by
  cases event with
  | casLogin sessionId casService =>
    rw [step_casLogin]
    rfl
  | authorize sessionId id =>
    rw [step_authorize]
    rfl
  | grantingTicket sessionId random =>
    rw [step_grantingTicket]
    rfl
  | validation e request =>
    rw [step_validation]
    rfl
  | _ => rfl

theorem elapsed_append (as bs : List Event) : elapsed (as ++ bs) = elapsed as + elapsed bs := by
  simp [elapsed]

/-- The ticket has been created for what a session held, and has not been presented since; its time
runs from its creation on. -/
def CreatedAt (site : Site σ) (validitySeconds : ℕ) (s : State σ) (events : List Event)
    (ticketId : String) (ticket : Ticket) (deadline : ℕ) : Prop :=
  ∃ before sessionId random after, events = before ++ .grantingTicket sessionId random :: after ∧
    ticket = serviceTicket ((exec (step site) s before).sessions sessionId) ∧
    ticketId = drawId ticket (exec (step site) s before).tickets.count random ∧
    deadline = elapsed before + validitySeconds ∧ ∀ event ∈ after, ¬event.Presents ticketId

/-- The clock of the cache runs with the events, and its tickets have been created by them. -/
structure Issued (site : Site σ) (validitySeconds : ℕ) (s : State σ) (events : List Event)
    (m : ExpiringMap String Ticket) : Prop where
  now : m.now = elapsed events
  entries : ∀ ticketId ticket deadline, m.entries ticketId = some (ticket, deadline) →
    CreatedAt site validitySeconds s events ticketId ticket deadline

variable {n deadline : ℕ} {s : State σ} {events : List Event} {event : Event} {ticketId : String}
  {ticket : Ticket}

theorem CreatedAt.append (h : CreatedAt site n s events ticketId ticket deadline)
    (hspared : ¬event.Presents ticketId) :
    CreatedAt site n s (events ++ [event]) ticketId ticket deadline := by
  obtain ⟨before, sessionId, random, after, rfl, hticket, hid, hdeadline, hafter⟩ := h
  refine ⟨before, sessionId, random, after ++ [event], by simp, hticket, hid, hdeadline, ?_⟩
  intro other hother
  rcases List.mem_append.mp hother with hold | hnew
  · exact hafter other hold
  · rw [List.mem_singleton.mp hnew]
    exact hspared

theorem issued_step {m : CasTickets.State (ExpiringMap String Ticket)}
    (hcount : (exec (step site) s events).tickets.count = m.count)
    (h : Issued site n s events m.tickets) :
    Issued site n s (events ++ [event])
      ((event.action (exec (step site) s events)).elim m ((cache n).step m)).tickets := by
  have hnow := h.now
  cases event with
  | grantingTicket sessionId random =>
    constructor
    · have hsame : elapsed (events ++ [.grantingTicket sessionId random]) = elapsed events := by
        simp [elapsed]
      rw [hsame]
      exact hnow
    · intro ticketId ticket deadline hentry
      by_cases hid : ticketId = drawId (serviceTicket ((exec (step site) s events).sessions
          sessionId)) m.count random
      · rw [hid] at hentry ⊢
        have hput := (Function.update_self (f := m.tickets.entries) _ _).symm.trans hentry
        obtain ⟨rfl, rfl⟩ := Prod.mk.inj (Option.some.inj hput)
        refine ⟨events, sessionId, random, [], rfl, rfl, ?_, ?_, ?_⟩
        · rw [hcount]
        · rw [hnow]
        · exact fun _ h => absurd h List.not_mem_nil
      · have hold : m.tickets.entries ticketId = some (ticket, deadline) :=
          (Function.update_of_ne hid _ _).symm.trans hentry
        refine (h.entries ticketId ticket deadline hold).append ?_
        rintro ⟨e, request, heq, -⟩
        cases heq
  | validation e request =>
    have hstep := cache_consumeTicket n m request.ticket
    constructor
    · have hsame : elapsed (events ++ [.validation e request]) = elapsed events := by
        simp [elapsed]
      rw [Event.action, Option.elim_some, hstep, hsame]
      exact hnow
    · intro ticketId ticket deadline hentry
      rw [Event.action, Option.elim_some, hstep] at hentry
      by_cases hid : ticketId = request.ticket
      · rw [hid] at hentry
        cases (ExpiringMap.vacant_remove m.tickets request.ticket).symm.trans hentry
      · have hold : m.tickets.entries ticketId = some (ticket, deadline) :=
          (Function.update_of_ne hid _ _).symm.trans hentry
        refine (h.entries ticketId ticket deadline hold).append ?_
        rintro ⟨e', request', heq, hpresents⟩
        cases heq
        exact hid hpresents.symm
  | wait seconds =>
    constructor
    · have hwait : elapsed (events ++ [.wait seconds]) = elapsed events + seconds := by
        simp [elapsed]
      rw [hwait, ← hnow]
      rfl
    · intro ticketId ticket deadline hentry
      refine (h.entries ticketId ticket deadline hentry).append ?_
      rintro ⟨e, request, heq, -⟩
      cases heq
  | _ =>
    constructor
    · rw [elapsed_append]
      exact hnow
    · intro ticketId ticket deadline hentry
      refine (h.entries ticketId ticket deadline hentry).append ?_
      rintro ⟨e, request, heq, -⟩
      cases heq

/-- A back end that answers as the cache does holds what the cache holds, after any events. -/
theorem issued_run {R : ExpiringMap String Ticket → σ → Prop}
    (hsimulates : Simulates (cache n) site.services R) (events : List Event) :
    ∃ m : CasTickets.State (ExpiringMap String Ticket),
      Related R m (exec (step site) (start site) events).tickets ∧
        Issued site n (start site) events m.tickets := by
  refine exec_history (I := fun events (s : State σ) => ∃ m : CasTickets.State (ExpiringMap String Ticket),
    Related R m s.tickets ∧ Issued site n (start site) events m.tickets) ?_ ?_ events
  · refine ⟨(cache n).start, ⟨rfl, hsimulates.empty⟩, rfl, ?_⟩
    intro ticketId ticket deadline hentry
    cases hentry
  · rintro events event ⟨m, hrelated, hissued⟩
    refine ⟨_, ?_, issued_step hrelated.1 hissued⟩
    rw [tickets_step]
    cases event.action (exec (step site) (start site) events) with
    | none => exact hrelated
    | some action => exact hsimulates.step hrelated action

/-- The table never finds anything. -/
theorem jdbc_run {β : Type} {transformer : ObjectTransformer β} {table : CasTicketTable}
    {site : Site (List (CasTicketRow β))}
    (hservices : site.services = JdbcTicketServices transformer table) (events : List Event) :
    ∀ row ∈ (exec (step site) (start site) events).tickets.tickets, row.id = none := by
  refine exec_induction (I := fun s : State (List (CasTicketRow β)) =>
    ∀ row ∈ s.tickets.tickets, row.id = none) ?_ ?_ events
  · intro s event h
    rw [tickets_step]
    cases event.action s with
    | none => exact h
    | some action =>
      rw [hservices]
      exact jdbc_step transformer table h action
  · intro row hrow
    rw [start, hservices] at hrow
    cases hrow

end Tickets

section Answers

variable {c : CasEndpoints.Config} {e : Endpoint} {ticketId : String} {ticket : Ticket}
  {r : CasServiceResponse}

/-- How the endpoint names the user of a ticket. -/
def userOf (c : CasEndpoints.Config) (e : Endpoint) (principal : Principal) :
    Except JavaException (Option String) :=
  match e with
  | .proxyValidate => some <$> principalToString c principal
  | _ => getUsername principal

/-- A success names the user of the ticket; the endpoints with attributes look for the application
as well. -/
theorem answer_success (h : e.answer c ticketId (some ticket) = .ok r) :
    ∃ authentication, ticket.authentication = some authentication ∧
      userOf c e authentication.getPrincipal = .ok r.user ∧
      (ticket.casDetails = none → e = .validate ∨ e = .proxyValidate) := by
  have hprincipal : ∀ p, principal ticket = .ok p →
      ∃ authentication, ticket.authentication = some authentication ∧
        authentication.getPrincipal = p := by
    intro p hp
    unfold principal at hp
    cases hauthentication : ticket.authentication with
    | none =>
      rw [hauthentication] at hp
      cases hp
    | some authentication =>
      rw [hauthentication] at hp
      exact ⟨authentication, rfl, Except.ok.inj hp⟩
  have hservice : Cas20.serviceValidate c ticketId (some ticket) = .ok r →
      ∃ authentication, ticket.authentication = some authentication ∧
        getUsername authentication.getPrincipal = .ok r.user ∧ ticket.casDetails ≠ none := by
    intro hservice
    obtain ⟨p, hp, hrest⟩ := except_bind_eq_ok.mp hservice
    obtain ⟨user, huser, hinfo⟩ := except_bind_eq_ok.mp hrest
    obtain ⟨authentication, hsome, rfl⟩ := hprincipal p hp
    refine ⟨authentication, hsome, ?_, ?_⟩
    · rw [huser, (generateInfo_keeps hinfo).1]
      rfl
    · intro hnone
      unfold generateInfo at hinfo
      rw [hnone] at hinfo
      cases hinfo
  cases e with
  | validate =>
    obtain ⟨p, hp, hrest⟩ := except_bind_eq_ok.mp h
    obtain ⟨user, huser, hreturn⟩ := except_bind_eq_ok.mp hrest
    obtain ⟨authentication, hsome, rfl⟩ := hprincipal p hp
    refine ⟨authentication, hsome, ?_, fun _ => .inl rfl⟩
    rw [← Except.ok.inj hreturn]
    exact huser
  | proxyValidate =>
    obtain ⟨p, hp, hrest⟩ := except_bind_eq_ok.mp h
    obtain ⟨user, huser, hreturn⟩ := except_bind_eq_ok.mp hrest
    obtain ⟨authentication, hsome, rfl⟩ := hprincipal p hp
    refine ⟨authentication, hsome, ?_, fun _ => .inr rfl⟩
    rw [← Except.ok.inj hreturn, userOf, huser]
    rfl
  | serviceValidate | p3ServiceValidate | p3ProxyValidate =>
    obtain ⟨authentication, hsome, huser, hdetails⟩ := hservice h
    exact ⟨authentication, hsome, huser, fun hnone => absurd hnone hdetails⟩

end Answers

theorem simulates_refl (n : ℕ) : Simulates (cache n) (cache n) Eq where
  validity := rfl
  empty := rfl
  store {m s} heq ticketId ticket := ⟨_, _, rfl, rfl, by rw [heq]⟩
  find heq ticketId := by rw [heq]
  delete heq ticketId found := by rw [heq]
  wait heq seconds := by rw [heq]

section Origin

variable {σ : Type} {site : Site σ} {e : Endpoint} {request : ValidationRequest}
  {r : CasServiceResponse}

/-- What goes before a success for the ticket. A session that belonged to the user has been granted
it, and the ticket has been sent to the service of the application that the session had asked for.
Who is not asked for the application may also succeed with a ticket that was not sent to anyone. -/
structure Granted (site : Site σ) (before : List Event) (sessionId : String) (random : List Int8)
    (e : Endpoint) (ticketId : String) (user : Option String) : Prop where
  user : ∃ authentication, userOf site.endpoints e authentication.getPrincipal = .ok user ∧
    AddedSince (step site)
      (fun _ event (user : String × Authentication) => event = .authenticated user.1 (some user.2))
      Event.ChangesUser (start site) before (sessionId, authentication)
  sent : (∃ casDetails, AddedSince (step site)
      (fun s event choice => Chooses site s event choice ∧ Registered s choice.2)
      Event.ChangesChoice (start site) before (sessionId, casDetails) ∧
      outcome (grantingTicket site sessionId random) (exec (step site) (start site) before) =
        .ok (redirection casDetails ticketId)) ∨
    ((exec (step site) (start site) before).sessions sessionId).casDetails = none ∧
      (e = .validate ∨ e = .proxyValidate)

theorem signedOn_exec {events : List Event} {sessionId : String} {authentication : Authentication}
    (h : ((exec (step site) (start site) events).sessions sessionId).authentication =
      some authentication) :
    AddedSince (step site)
      (fun _ event (user : String × Authentication) => event = .authenticated user.1 (some user.2))
      Event.ChangesUser (start site) events (sessionId, authentication) := by
  have hledger := exec_ledger (H := fun (s : State σ) (user : String × Authentication) =>
    (s.sessions user.1).authentication = some user.2) (@signedOn_step σ site) (start site) events
    (sessionId, authentication)
  rcases hledger.mp h with ⟨hstart, -⟩ | hsince
  · cases hstart
  · exact hsince

theorem registered_of_chooses {s : State σ} {event : Event} {choice : String × AppsCasDetails}
    (h : Chooses site s event choice) : Registered s choice.2 := by
  rcases h with ⟨casService, -, hqueried⟩ | ⟨id, -, hactive⟩
  · unfold queried at hqueried
    split at hqueried
    · rename_i casDetails hquery
      have hsound := site.query_sound s.casDetails casService casDetails
        (hquery ▸ List.mem_singleton_self casDetails)
      rw [← Option.some.inj hqueried]
      exact hsound.1
    · cases hqueried
  · unfold getAppDetails at hactive
    split_ifs at hactive
    have hmem := (KeyedTable.mem_select.mp (List.mem_of_mem_head? hactive)).1
    exact ⟨choice.2, hmem, rfl, rfl⟩

theorem chosen_exec {events : List Event} {sessionId : String} {casDetails : AppsCasDetails}
    (h : ((exec (step site) (start site) events).sessions sessionId).casDetails = some casDetails) :
    AddedSince (step site)
      (fun s event choice => Chooses site s event choice ∧ Registered s choice.2)
      Event.ChangesChoice (start site) events (sessionId, casDetails) := by
  have hledger := exec_ledger (H := fun (s : State σ) (choice : String × AppsCasDetails) =>
    (s.sessions choice.1).casDetails = some choice.2) (@chosen_step σ site) (start site) events
    (sessionId, casDetails)
  rcases hledger.mp h with ⟨hstart, -⟩ | ⟨before, event, after, heq, hchooses, hkept⟩
  · cases hstart
  · exact ⟨before, event, after, heq, ⟨hchooses, registered_of_chooses hchooses⟩, hkept⟩

/-- The store keeps every ticket that it is given. -/
theorem outcome_grantingTicket {s : State σ} {sessionId : String} {random : List Int8}
    {casDetails : AppsCasDetails} {tickets : σ}
    (hdetails : (s.sessions sessionId).casDetails = some casDetails)
    (hstore : site.services.store (drawId (serviceTicket (s.sessions sessionId)) s.tickets.count
      random) (serviceTicket (s.sessions sessionId)) s.tickets.tickets = .ok tickets) :
    outcome (grantingTicket site sessionId random) s = .ok (redirection casDetails
      (drawId (serviceTicket (s.sessions sessionId)) s.tickets.count random)) := by
  have hcreate : focus State.tickets (fun tickets (s : State σ) => { s with tickets := tickets })
      (site.services.createTicket (serviceTicket (s.sessions sessionId)) random) s =
        .ok _ { s with tickets := ⟨(getNextValue s.tickets.count).2, tickets⟩ } :=
    focus_of_ok (createTicket_of_ok hstore)
  unfold grantingTicket
  rw [outcome, bind_of_ok (get_apply s), bind_of_ok hcreate, hdetails]
  rfl

/-- Without a ticket that is found there is no success. -/
theorem found_of_success {s : State σ} (h : outcome (validation site e request) s = .ok r)
    (hresult : r.result = true) : ∃ ticket,
      site.services.find request.ticket s.tickets.tickets = .ok (some ticket) ∧
        e.answer site.endpoints request.ticket (some ticket) = .ok r := by
  unfold validation at h
  rw [outcome_focus] at h
  by_cases hfind : ∃ ticket, site.services.find request.ticket s.tickets.tickets = .ok (some ticket)
  · obtain ⟨ticket, hfind⟩ := hfind
    rw [handle_of_some hfind] at h
    exact ⟨ticket, hfind, h⟩
  · rw [not_exists] at hfind
    rw [handle_of_not_some hfind] at h
    obtain ⟨r', hr', hfailure⟩ := answer_none site.endpoints request.ticket e
    rw [Except.ok.inj (h.symm.trans hr'), hfailure] at hresult
    cases hresult

theorem entry_of_get {m : ExpiringMap String Ticket} {ticketId : String} {ticket : Ticket}
    (h : m.get ticketId = some ticket) :
    ∃ deadline, m.entries ticketId = some (ticket, deadline) ∧ m.now < deadline := by
  obtain ⟨⟨found, deadline⟩, hentry, rfl⟩ := Option.map_eq_some_iff.mp h
  obtain ⟨hsome, hlives⟩ := Option.filter_eq_some_iff.mp hentry
  exact ⟨deadline, hsome, of_decide_eq_true hlives⟩

/-- A ticket that is validated with success was granted before to a session of the user that is
named, has not been presented since, and has not run out. -/
theorem granted_of_simulates {n : ℕ} {R : ExpiringMap String Ticket → σ → Prop}
    (hsimulates : Simulates (cache n) site.services R) {events : List Event}
    (h : outcome (validation site e request) (exec (step site) (start site) events) = .ok r)
    (hresult : r.result = true) :
    ∃ before sessionId random after, events = before ++ .grantingTicket sessionId random :: after ∧
      Granted site before sessionId random e request.ticket r.user ∧
      (∀ event ∈ after, ¬event.Presents request.ticket) ∧ elapsed after < n := by
  obtain ⟨m, ⟨-, hR⟩, hissued⟩ := issued_run hsimulates events
  obtain ⟨ticket, hfind, hanswer⟩ := found_of_success h hresult
  have hget : m.tickets.get request.ticket = some ticket :=
    Except.ok.inj ((hsimulates.find hR request.ticket).symm.trans hfind)
  obtain ⟨deadline, hentry, hlives⟩ := entry_of_get hget
  obtain ⟨before, sessionId, random, after, rfl, rfl, hid, hdeadline, hafter⟩ :=
    hissued.entries _ _ _ hentry
  obtain ⟨authentication, hauthentication, huser, hdetails⟩ := answer_success hanswer
  refine ⟨before, sessionId, random, after, rfl, ?_, hafter, ?_⟩
  · refine ⟨⟨authentication, huser, signedOn_exec hauthentication⟩, ?_⟩
    cases hchosen : ((exec (step site) (start site) before).sessions sessionId).casDetails with
    | none => exact .inr ⟨rfl, hdetails hchosen⟩
    | some casDetails =>
      obtain ⟨m', ⟨-, hR'⟩, -⟩ := issued_run hsimulates before
      obtain ⟨-, tickets, -, hstore, -⟩ := hsimulates.store hR'
        (drawId (serviceTicket ((exec (step site) (start site) before).sessions sessionId))
          (exec (step site) (start site) before).tickets.count random)
        (serviceTicket ((exec (step site) (start site) before).sessions sessionId))
      left
      refine ⟨casDetails, chosen_exec hchosen, ?_⟩
      rw [outcome_grantingTicket hchosen hstore, hid]
  · rw [hissued.now, hdeadline, elapsed_append] at hlives
    have hgranting : elapsed (.grantingTicket sessionId random :: after) = elapsed after := by
      simp [elapsed]
    omega

/-- A ticket that one of the CAS endpoints validates with success was granted before to a session of
the user that is named, has not been presented since, and has not run out; whatever goes on in any
number of sessions, and over any of the back ends. -/
theorem validated_ticket_was_granted {β : Type} {b : BackEnd β} {site : Site b.Store}
    (hservices : site.services = b.services) {events : List Event} {e : Endpoint}
    {request : ValidationRequest} {r : CasServiceResponse}
    (h : outcome (validation site e request) (exec (step site) (start site) events) = .ok r)
    (hresult : r.result = true) :
    ∃ before sessionId random after, events = before ++ .grantingTicket sessionId random :: after ∧
      Granted site before sessionId random e request.ticket r.user ∧
      (∀ event ∈ after, ¬event.Presents request.ticket) ∧
      ∀ limit ∈ b.services.validitySeconds, elapsed after < limit := by
  cases b with
  | inMemory =>
    have hsame : Simulates (cache 60) site.services Eq := by
      rw [hservices]
      exact simulates_refl 60
    obtain ⟨before, sessionId, random, after, heq, hgranted, hspared, htime⟩ :=
      granted_of_simulates hsame h hresult
    refine ⟨before, sessionId, random, after, heq, hgranted, hspared, ?_⟩
    rintro limit ⟨⟩
    exact htime
  | redis transformer =>
    have hredis := simulates_redis transformer
    rw [show RedisTicketServices transformer = site.services from hservices.symm] at hredis
    obtain ⟨before, sessionId, random, after, heq, hgranted, hspared, htime⟩ :=
      granted_of_simulates hredis h hresult
    refine ⟨before, sessionId, random, after, heq, hgranted, hspared, ?_⟩
    rintro limit ⟨⟩
    exact htime
  | jdbc transformer table =>
    obtain ⟨ticket, hfind, -⟩ := found_of_success h hresult
    have hnone := jdbc_find transformer table (jdbc_run hservices events) request.ticket
    rw [hservices] at hfind
    cases hnone.symm.trans hfind

end Origin

/-- A site whose query finds the one row of the service. -/
def wikiSite : Site (BackEnd.inMemory : BackEnd Unit).Store where
  endpoints := plainCas
  services := (BackEnd.inMemory : BackEnd Unit).services
  query table service := table.select fun row => service.all fun url => row.service = some url
  query_sound table service details h := by
    obtain ⟨hmem, hservice⟩ := KeyedTable.mem_select.mp h
    refine ⟨⟨details, hmem, rfl, rfl⟩, fun url hurl => ?_⟩
    rw [Option.mem_def.mp hurl] at hservice
    exact of_decide_eq_true hservice

def alice : Authentication :=
  .user (.token
    { principal := .basic { username := some "alice" }, credentials := none
      authorities := ["ROLE_USER"], authenticated := true })

/-- alice signs on, asks for the wiki by its service, and comes back with the ticket. -/
def wikiLogin : List Event :=
  [.registered ⟨[wiki], List.nodup_singleton _⟩ fun _ => true, .authenticated "s1" (some alice),
    .casLogin "s1" (some "https://wiki"), .grantingTicket "s1" [0], .wait 59]

def wikiRequest : ValidationRequest := { ticket := "ST-1-a", service := "https://wiki" }

theorem wiki_ticket_was_granted :
    ∃ before sessionId random after,
      wikiLogin = before ++ .grantingTicket sessionId random :: after ∧
      Granted wikiSite before sessionId random .serviceValidate "ST-1-a" (some "alice") ∧
      (∀ event ∈ after, ¬event.Presents "ST-1-a") ∧
      ∀ limit ∈ some 60, elapsed after < limit := by
  have hvalid : outcome (validation wikiSite .serviceValidate wikiRequest)
      (exec (step wikiSite) (start wikiSite) wikiLogin) = .ok (success (some "alice")) := by
    rfl
  exact validated_ticket_was_granted (b := (BackEnd.inMemory : BackEnd Unit)) rfl hvalid rfl

end MaxKey.CasFlows
