import MaxKey.CasEndpoints

namespace MaxKey.CasValidations
open CasTickets CasEndpoints JavaException Effects Runs
open Function (update)

/-- What goes on at the endpoints: a ticket is granted, a request comes to one of the five
endpoints, and time passes. -/
inductive Event
  | createTicket (ticket : Ticket) (random : List Int8)
  | validation (e : Endpoint) (request : ValidationRequest)
  | wait (seconds : ℕ)

/-- Which tickets have been issued and not consumed since, by their ids. -/
abbrev Ledger := String → Option Ticket

/-- The state of the services, and a ledger that is kept beside it. -/
structure Books (σ : Type) where
  state : State σ
  ledger : Ledger

section Runs

variable {σ : Type} (c : Config) (services : TicketServices σ)

/-- What an event enters into the ledger. -/
def entered (s : State σ) (ledger : Ledger) : Event → Ledger
  | .createTicket ticket random =>
    match outcome (services.createTicket ticket random) s with
    | .ok ticketId => update ledger ticketId (some ticket)
    | .error _ => ledger
  | .validation _ request =>
    match outcome (services.consumeTicket request.ticket) s with
    | .ok _ => update ledger request.ticket none
    | .error _ => ledger
  | .wait _ => ledger

def next (s : State σ) : Event → State σ
  | .createTicket ticket random => final (services.createTicket ticket random) s
  | .validation e request => final (e.handle services c request) s
  | .wait seconds => { s with tickets := services.wait seconds s.tickets }

def step (books : Books σ) (event : Event) : Books σ :=
  ⟨next c services books.state event, entered services books.state books.ledger event⟩

def run (events : List Event) : Books σ :=
  exec (step c services) ⟨services.start, fun _ => none⟩ events

end Runs

/-- The service that the ticket was issued for. -/
def issuedFor (ticket : Ticket) : Option String := ticket.casDetails.bind AppsCasDetails.service

/-- A service ticket that was issued for the service. -/
def IsServiceTicketFor (service : String) (ticket : Ticket) : Prop :=
  ticket.getClass = .serviceTicketImpl ∧ issuedFor ticket = some service

/-- The request presents a ticket that is outstanding, is a service ticket and was issued for the
service that the request names. -/
def Entitled (ledger : Ledger) (request : ValidationRequest) : Prop :=
  ∃ ticket, ledger request.ticket = some ticket ∧ IsServiceTicketFor request.service ticket

/-- A success is for the entitled only, and all others are told of a failure. -/
structure Conforms {σ : Type} (c : Config) (services : TicketServices σ) (books : Books σ)
    (e : Endpoint) (request : ValidationRequest) : Prop where
  success : ∀ r, outcome (e.handle services c request) books.state = .ok r → r.result = true →
    Entitled books.ledger request
  failure : ¬Entitled books.ledger request →
    ∃ r, outcome (e.handle services c request) books.state = .ok r ∧ r.result = false

section Handle

variable {σ : Type} {c : Config} {services : TicketServices σ} {s : State σ} {e : Endpoint}
  {request : ValidationRequest} {ticket : Ticket}

/-- What the endpoint gets to see, and what its request leaves of the store. -/
theorem storedTicket_eq (services : TicketServices σ) (ticketId : String) (s : State σ) :
    storedTicket services ticketId s =
      .ok (outcome (services.consumeTicket ticketId) s).toOption
        (final (services.consumeTicket ticketId) s) := by
  unfold storedTicket
  cases h : services.consumeTicket ticketId s with
  | ok ticket s' =>
    have hmap : (some <$> services.consumeTicket ticketId) s = .ok (some ticket) s' := by
      rw [← bind_pure_comp, bind_of_ok h, pure_apply]
    rw [tryCatch_of_ok hmap]
    simp only [outcome, final, h, Except.toOption]
  | error e s' =>
    have hmap : (some <$> services.consumeTicket ticketId) s = .error e s' := by
      rw [← bind_pure_comp, bind_of_error h]
    rw [tryCatch_of_error hmap, pure_apply]
    simp only [outcome, final, h, Except.toOption]

theorem outcome_orError {ε α : Type} (r : Except ε α) (s : σ) :
    outcome (orError r : EStateM ε σ α) s = r := by
  cases r with
  | ok a => rfl
  | error e => rfl

theorem handle_eq (c : Config) (services : TicketServices σ) (s : State σ) (e : Endpoint)
    (request : ValidationRequest) :
    e.handle services c request s =
      orError (e.answer c request.ticket
        (outcome (services.consumeTicket request.ticket) s).toOption)
          (final (services.consumeTicket request.ticket) s) := by
  unfold Endpoint.handle
  exact bind_of_ok (storedTicket_eq services request.ticket s)

/-- The answer is what the endpoint makes of the ticket that it has consumed. -/
theorem outcome_handle (c : Config) (services : TicketServices σ) (s : State σ) (e : Endpoint)
    (request : ValidationRequest) :
    outcome (e.handle services c request) s =
      e.answer c request.ticket (outcome (services.consumeTicket request.ticket) s).toOption := by
  have hanswer := outcome_orError (s := final (services.consumeTicket request.ticket) s)
    (e.answer c request.ticket (outcome (services.consumeTicket request.ticket) s).toOption)
  unfold outcome at hanswer ⊢
  rw [handle_eq]
  exact hanswer

theorem final_handle (c : Config) (services : TicketServices σ) (s : State σ) (e : Endpoint)
    (request : ValidationRequest) :
    final (e.handle services c request) s = final (services.consumeTicket request.ticket) s := by
  have hleaves := leaves_orError (g := id) (σ := State σ)
    (e.answer c request.ticket (outcome (services.consumeTicket request.ticket) s).toOption)
    (final (services.consumeTicket request.ticket) s)
  unfold final at hleaves ⊢
  rw [handle_eq]
  exact hleaves

/-- Who is found a ticket gets a success or an exception. -/
theorem handle_of_some (hfind : services.find request.ticket s.tickets = .ok (some ticket)) :
    outcome (e.handle services c request) s = e.answer c request.ticket (some ticket) := by
  have hconsume : outcome (services.consumeTicket request.ticket) s = .ok ticket := by
    simp only [outcome, consumeTicket_of_some hfind]
  rw [outcome_handle, hconsume]
  rfl

theorem handle_of_not_some
    (hfind : ∀ ticket, services.find request.ticket s.tickets ≠ .ok (some ticket)) :
    outcome (e.handle services c request) s = e.answer c request.ticket none := by
  rw [outcome_handle]
  match h : services.find request.ticket s.tickets with
  | .ok (some ticket) => exact absurd h (hfind ticket)
  | .ok none =>
    have hconsume : outcome (services.consumeTicket request.ticket) s =
        .error (TicketServices.invalidCode request.ticket) := by
      simp only [outcome, consumeTicket_of_none h]
    rw [hconsume]
    rfl
  | .error e' =>
    have hconsume : outcome (services.consumeTicket request.ticket) s = .error e' := by
      simp only [outcome, consumeTicket_of_error h]
    rw [hconsume]
    rfl

end Handle

section Backed

variable {σ : Type} {c : Config} {services : TicketServices σ} {books : Books σ}

/-- What the store finds under an id is outstanding under it. -/
def Backed (services : TicketServices σ) (books : Books σ) : Prop :=
  ∀ ticketId ticket, services.find ticketId books.state.tickets = .ok (some ticket) →
    books.ledger ticketId = some ticket

theorem backed_start (hlaw : SingleEntry services) :
    Backed services ⟨services.start, fun _ => none⟩ := by
  intro ticketId ticket hfind
  exact absurd ((hlaw.empty ticketId).symm.trans hfind) nofun

theorem backed_createTicket (hlaw : SingleEntry services) (h : Backed services books)
    (ticket : Ticket) (random : List Int8) :
    Backed services (step c services books (.createTicket ticket random)) := by
  intro ticketId found hfind
  cases hstore : services.store (drawId ticket books.state.count random) ticket
      books.state.tickets with
  | error e =>
    have hcreate := createTicket_of_error hstore
    simp only [step, next, entered, final_of_error hcreate] at hfind
    simp only [step, entered, outcome, hcreate]
    exact h ticketId found hfind
  | ok tickets =>
    have hcreate := createTicket_of_ok hstore
    simp only [step, next, final_of_ok hcreate] at hfind
    simp only [step, entered, outcome, hcreate]
    by_cases hid : ticketId = drawId ticket books.state.count random
    · rw [hid] at hfind ⊢
      rw [Function.update_self]
      rcases hlaw.storeSelf hstore with hnone | hsome
      · cases hnone.symm.trans hfind
      · rw [hfind] at hsome
        exact (Except.ok.inj hsome).symm
    · rw [Function.update_of_ne hid]
      rw [hlaw.store hstore hid] at hfind
      exact h ticketId found hfind

theorem backed_validation (hlaw : SingleEntry services) (h : Backed services books) (e : Endpoint)
    (request : ValidationRequest) : Backed services (step c services books (.validation e request)) := by
  intro ticketId found hfind
  simp only [step, next, final_handle] at hfind
  simp only [step, entered]
  -- the ticket that the request presents is gone, and the others are as before
  have hdeleted : ∀ consumed, services.find ticketId
      (services.delete request.ticket consumed books.state.tickets) = .ok (some found) →
        ticketId ≠ request.ticket ∧ books.ledger ticketId = some found := by
    intro consumed hfound
    have hne : ticketId ≠ request.ticket := by
      intro hid
      rw [hid, hlaw.delete] at hfound
      cases hfound
    rw [hlaw.deleteOther hne] at hfound
    exact ⟨hne, h ticketId found hfound⟩
  match hpresent : services.find request.ticket books.state.tickets with
  | .error e' =>
    have hconsume := consumeTicket_of_error hpresent
    rw [final_of_error hconsume] at hfind
    simp only [outcome, hconsume]
    exact h ticketId found hfind
  | .ok none =>
    have hconsume := consumeTicket_of_none hpresent
    rw [final_of_error hconsume] at hfind
    simp only [outcome, hconsume]
    exact (hdeleted none hfind).2
  | .ok (some ticket) =>
    have hconsume := consumeTicket_of_some hpresent
    rw [final_of_ok hconsume] at hfind
    simp only [outcome, hconsume]
    have hother := hdeleted (some ticket) hfind
    rw [Function.update_of_ne hother.1]
    exact hother.2

theorem backed_step (hlaw : SingleEntry services) (books : Books σ) (event : Event)
    (h : Backed services books) : Backed services (step c services books event) := by
  cases event with
  | createTicket ticket random => exact backed_createTicket hlaw h ticket random
  | validation e request => exact backed_validation hlaw h e request
  | wait seconds =>
    intro ticketId found hfind
    rcases hlaw.wait ticketId seconds books.state.tickets with hnone | hsame
    · exact absurd (hnone.symm.trans hfind) nofun
    · exact h ticketId found (hsame.symm.trans hfind)

/-- Along every run the store finds outstanding tickets only. -/
theorem backed_run (hlaw : SingleEntry services) (events : List Event) :
    Backed services (run c services events) :=
  exec_induction (backed_step hlaw) (backed_start hlaw) events

/-- With outstanding tickets only, a request is answered as it should be exactly when what is
found under its id is a service ticket for its service. -/
theorem conforms_iff (h : Backed services books) (e : Endpoint) (request : ValidationRequest) :
    Conforms c services books e request ↔
      ∀ ticket, services.find request.ticket books.state.tickets = .ok (some ticket) →
        IsServiceTicketFor request.service ticket := by
  constructor
  · intro hconforms ticket hfind
    by_contra hnot
    have hnotEntitled : ¬Entitled books.ledger request := by
      intro ⟨other, hledger, hother⟩
      rw [h _ _ hfind] at hledger
      rw [Option.some.inj hledger] at hnot
      exact hnot hother
    obtain ⟨r, hanswer, hresult⟩ := hconforms.failure hnotEntitled
    rw [handle_of_some hfind] at hanswer
    rw [answer_some hanswer] at hresult
    cases hresult
  · intro hservice
    by_cases hfound : ∃ ticket, services.find request.ticket books.state.tickets = .ok (some ticket)
    · obtain ⟨ticket, hfind⟩ := hfound
      have hentitled : Entitled books.ledger request :=
        ⟨ticket, h _ _ hfind, hservice ticket hfind⟩
      exact ⟨fun _ _ _ => hentitled, fun hnot => absurd hentitled hnot⟩
    · have hnone := handle_of_not_some (c := c) (e := e) (not_exists.mp hfound)
      obtain ⟨r, hanswer, hresult⟩ := answer_none c request.ticket e
      rw [hanswer] at hnone
      constructor
      · intro r' hr' hsuccess
        rw [hnone] at hr'
        rw [← Except.ok.inj hr', hresult] at hsuccess
        cases hsuccess
      · exact fun _ => ⟨r, hnone, hresult⟩

end Backed

section BackEnds

variable {β : Type} {c : Config}

/-- The rows of the table keep no id, and so it finds nothing. -/
theorem jdbc_run (transformer : ObjectTransformer β) (table : CasTicketTable) (events : List Event) :
    ∀ row ∈ (run c (JdbcTicketServices transformer table) events).state.tickets, row.id = none := by
  refine exec_induction (I := fun books : Books (List (CasTicketRow β)) =>
    ∀ row ∈ books.state.tickets, row.id = none) ?_ ?_ events
  · intro books event h
    cases event with
    | createTicket ticket random =>
      exact jdbc_step transformer table h (.createTicket ticket random)
    | validation e request =>
      have hconsumed := jdbc_step transformer table h (.consumeTicket request.ticket)
      simp only [step, next, final_handle]
      exact hconsumed
    | wait seconds => exact h
  · intro row hrow
    exact absurd hrow List.not_mem_nil

/-- Over every back end and after every run, a request is answered as it should be exactly when
the ticket that is stored under its id, if there is one, is a service ticket for its service. -/
theorem validations_conform_iff (b : BackEnd β) (events : List Event) (e : Endpoint)
    (request : ValidationRequest) :
    Conforms c b.services (run c b.services events) e request ↔
      ∀ ticket, b.services.find request.ticket (run c b.services events).state.tickets =
          .ok (some ticket) → IsServiceTicketFor request.service ticket := by
  apply conforms_iff
  cases b with
  | inMemory => exact backed_run (singleEntry_cache 60) events
  | redis transformer => exact backed_run (singleEntry_redis transformer) events
  | jdbc transformer table =>
    intro ticketId ticket hfind
    have hnone := jdbc_find transformer table (jdbc_run (c := c) transformer table events) ticketId
    exact absurd (hnone.symm.trans hfind) nofun

/-- A ticket that was issued for one service is accepted for another one. -/
theorem otherService_succeeds :
    let services := InMemoryTicketServices
    let granted := grantingTicket
      { id := "s1", currentAuthentication := some (Realm.loginToken Logon.alice []) } wiki
    let books := run plainCas services [.createTicket granted []]
    let request : ValidationRequest := { ticket := "ST-1-", service := "https://shop" }
    (outcome (Endpoint.handle services plainCas request .validate) books.state).toOption =
        some (success (some "alice")) ∧
      ¬Conforms plainCas services books .validate request := by
  intro services granted books request
  have hanswer : (outcome (Endpoint.handle services plainCas request .validate)
      books.state).toOption = some (success (some "alice")) := by decide +kernel
  refine ⟨hanswer, ?_⟩
  intro hconforms
  have hledger : books.ledger "ST-1-" = some granted := by decide +kernel
  have hok : outcome (Endpoint.handle services plainCas request .validate) books.state =
      .ok (success (some "alice")) := by
    cases hrun : outcome (Endpoint.handle services plainCas request .validate) books.state with
    | error e =>
      rw [hrun] at hanswer
      cases hanswer
    | ok r =>
      rw [hrun] at hanswer
      exact congrArg Except.ok (Option.some.inj hanswer)
  obtain ⟨ticket, houtstanding, -, hservice⟩ := hconforms.success _ hok rfl
  have hticket := houtstanding.symm.trans hledger
  rw [Option.some.inj hticket] at hservice
  exact absurd hservice (by decide +kernel)

end BackEnds

end MaxKey.CasValidations
