import MaxKey.ApprovalStore
import MaxKey.Noninterference

namespace MaxKey.SharedApprovals
open OAuth2 AuthorizationEndpoint JavaException Effects Noninterference

/-- The sessions that share one endpoint, which never changes who is logged in. -/
structure System (ι : Type) where
  clients : ClientDetailsService
  resolveRedirect : Option String → ClientDetails → Except JavaException (Option String)
  createAccessToken : OAuth2Authentication → Except JavaException OAuth2AccessToken
  handler : ApprovalStoreUserApprovalHandler
  database : Database
  sessions : ι → HttpSession

structure State (ι : Type) where
  pending : ι → Option Pending := fun _ => none
  approvals : InMemoryApprovalStore := fun _ => []
  issuedCodes : List (String × OAuth2Authentication) := []

inductive Event (ι : Type)
  | authorize (session : ι) (request : Request)
  | approveOrDeny (session : ι) (request : Request)

variable {ι : Type}

def Event.session : Event ι → ι
  | authorize i _ | approveOrDeny i _ => i

def Event.isDecision : Event ι → Bool
  | authorize .. => false
  | approveOrDeny .. => true

variable (sys : System ι)

def System.config : Config InMemoryApprovalStore where
  clients := sys.clients
  resolveRedirect := sys.resolveRedirect
  handler := sys.handler.toUserApprovalHandler
  createAccessToken := sys.createAccessToken

def State.enter (s : State ι) (i : ι) : EndpointState InMemoryApprovalStore :=
  { world := ⟨sys.database, sys.sessions i, none⟩, pending := s.pending i, approvals := s.approvals
    issuedCodes := s.issuedCodes }

def run : Event ι → Endpoint InMemoryApprovalStore View
  | .authorize _ request => authorize sys.config request
  | .approveOrDeny _ request => approveOrDeny sys.config request

section Endpoint

/-- The same user in the same session, with stores that agree on the keys `P`. -/
structure Same (P : String × String → Prop) (s t : EndpointState InMemoryApprovalStore) : Prop where
  world : s.world = t.world
  pending : s.pending = t.pending
  approvals : ∀ key, P key → s.approvals key = t.approvals key

variable {sys} {P : String × String → Prop} {s t : EndpointState InMemoryApprovalStore}
  {request : Request}

theorem alike_web {α : Type} (x : Web α) : Alike (Same P) (web x) (web x) := by
  intro s t h
  unfold web focus
  rw [h.world]
  cases x t.world with
  | ok a w => exact ⟨rfl, rfl, h.pending, h.approvals⟩
  | error e w => exact ⟨rfl, rfl, h.pending, h.approvals⟩

theorem alike_sessionPrincipal : Alike (Same P) sessionPrincipal sessionPrincipal :=
  alike_bind (alike_web _) fun _ => alike_orError _

theorem alike_respond (authorizationRequest : AuthorizationRequest)
    (principal : BasicAuthentication) :
    Alike (Same P) (respond sys.config request authorizationRequest principal)
      (respond sys.config request authorizationRequest principal) := by
  refine alike_ite (alike_orError _) (alike_bind (alike_modify fun s t h => ?_) fun _ => alike_pure _)
  exact ⟨h.world, h.pending, h.approvals⟩

theorem requestedAuthorization_eq_ok {c : Config InMemoryApprovalStore} {parameters : Parameters}
    {authorizationRequest : AuthorizationRequest}
    (h : requestedAuthorization c parameters = .ok authorizationRequest) :
    ∃ clientId, parameters.get "client_id" = some clientId ∧
      authorizationRequest.clientId = some clientId := by
  obtain ⟨created, hcreated, h⟩ := except_bind_eq_ok.mp h
  obtain ⟨_, -, h⟩ := except_bind_eq_ok.mp h
  obtain ⟨_, hclient, hreturn⟩ := except_bind_eq_ok.mp h
  rw [← Except.ok.inj hreturn]
  obtain ⟨scopes, -, hcreated⟩ := except_bind_eq_ok.mp hcreated
  obtain ⟨client, -, hcreated⟩ := except_bind_eq_ok.mp hcreated
  have hsame : created.clientId = parameters.get "client_id" := by
    rw [← Except.ok.inj hcreated]
  cases hid : parameters.get "client_id" with
  | none => exact absurd (hsame.trans hid) (failIf_eq_ok.mp hclient)
  | some clientId => exact ⟨clientId, rfl, hsame.trans hid⟩

theorem checkedRequest_clientId {c : Config InMemoryApprovalStore}
    {authorizationRequest checked : AuthorizationRequest}
    (h : checkedRequest c authorizationRequest = .ok checked) :
    checked.clientId = authorizationRequest.clientId := by
  obtain ⟨client, -, h⟩ := except_bind_eq_ok.mp h
  obtain ⟨resolved, -, h⟩ := except_bind_eq_ok.mp h
  obtain ⟨_, -, h⟩ := except_bind_eq_ok.mp h
  obtain ⟨_, -, h⟩ := except_bind_eq_ok.mp h
  rw [← Except.ok.inj h]

/-- The keys at which a request reads the store. -/
def Reads (P : String × String → Prop) (request : Request) : Prop :=
  ∀ clientId ∈ request.parameters.get "client_id", P ("Basic Authentication", clientId)

theorem preApproved_congr {principal : Option BasicAuthentication} {x y : InMemoryApprovalStore}
    (hreads : Reads P request) (h : ∀ key, P key → x key = y key) :
    preApproved sys.config request principal x = preApproved sys.config request principal y := by
  refine except_bind_congr fun requested hrequested => ?_
  refine except_bind_congr fun principal _ => except_bind_congr fun checked hchecked => ?_
  obtain ⟨clientId, hparameter, hclient⟩ := requestedAuthorization_eq_ok hrequested
  have hkey : x (principal.getName, checked.clientId.getD "") =
      y (principal.getName, checked.clientId.getD "") := by
    rw [checkedRequest_clientId hchecked, hclient]
    exact h _ (hreads clientId hparameter)
  have hsame : sys.config.handler.checkForPreApproval request.now checked principal x =
      sys.config.handler.checkForPreApproval request.now checked principal y :=
    ApprovalStoreUserApprovalHandler.checkForPreApproval_congr hkey
  rw [hsame]

theorem preApproved_clientId {principal : Option BasicAuthentication} {x : InMemoryApprovalStore}
    {decided : AuthorizationRequest × BasicAuthentication}
    (h : preApproved sys.config request principal x = .ok decided) :
    ∃ clientId, request.parameters.get "client_id" = some clientId ∧
      decided.1.clientId = some clientId := by
  obtain ⟨requested, hrequested, h⟩ := except_bind_eq_ok.mp h
  obtain ⟨principal, -, h⟩ := except_bind_eq_ok.mp h
  obtain ⟨checked, hchecked, h⟩ := except_bind_eq_ok.mp h
  obtain ⟨found, hfound, h⟩ := except_bind_eq_ok.mp h
  obtain ⟨clientId, hparameter, hclient⟩ := requestedAuthorization_eq_ok hrequested
  refine ⟨clientId, hparameter, ?_⟩
  rw [← Except.ok.inj h, ← hclient, ← checkedRequest_clientId hchecked]
  exact ApprovalStoreUserApprovalHandler.checkForPreApproval_clientId hfound

theorem alike_approvalPage (sys : System ι) (authorizationRequest : AuthorizationRequest)
    (principal : BasicAuthentication)
    (hkey : P (principal.getName, authorizationRequest.clientId.getD "")) :
    Alike (Same P) (getUserApprovalPageResponse sys.config authorizationRequest principal)
      (getUserApprovalPageResponse sys.config authorizationRequest principal) := by
  refine alike_get fun s t h => ?_
  have hscopes : sys.config.handler.getUserApprovalRequest authorizationRequest principal s.approvals =
      sys.config.handler.getUserApprovalRequest authorizationRequest principal t.approvals := by
    refine congrArg some (ApprovalStoreUserApprovalHandler.getUserApprovalRequest_congr ?_)
    exact h.approvals _ hkey
  simp only [hscopes]
  refine alike_bind (alike_modify fun s t h => ?_) (fun _ => alike_pure _) s t h
  exact ⟨h.world, rfl, h.approvals⟩

/-- An authorization reads the store only where the stores agree. -/
theorem alike_authorize (hreads : Reads P request) :
    Alike (Same P) (authorize sys.config request) (authorize sys.config request) := by
  refine alike_bind alike_sessionPrincipal fun principal => alike_get fun s t h => ?_
  rw [preApproved_congr hreads h.approvals]
  cases hdecided : preApproved sys.config request principal t.approvals with
  | error e => exact ⟨rfl, h⟩
  | ok decided =>
    obtain ⟨clientId, hparameter, hclient⟩ := preApproved_clientId hdecided
    have hkey : P (decided.2.getName, decided.1.clientId.getD "") := by
      rw [hclient]
      exact hreads clientId hparameter
    have hpage := alike_approvalPage sys decided.1 decided.2 hkey
    exact alike_ite (alike_respond decided.1 decided.2) hpage s t h

theorem alike_respondAfterApproval (authorizationRequest : AuthorizationRequest)
    (principal : BasicAuthentication) :
    Alike (Same P) (respondAfterApproval sys.config request authorizationRequest principal)
      (respondAfterApproval sys.config request authorizationRequest principal) :=
  alike_ite (alike_throw _) (alike_ite (alike_orError _) (alike_respond _ _))

/-- A decision is taken without a look into the store, and adds the same to both. -/
theorem alike_takeDecision (principal : BasicAuthentication) :
    Alike (Same P) (takeDecision sys.config request principal)
      (takeDecision sys.config request principal) := by
  refine alike_get fun s t h => ?_
  rw [h.pending]
  refine matched_bind (alike_orError _ s t h) fun authorizationRequest => alike_get fun s t h => ?_
  refine alike_bind (alike_modify fun _ _ h' => ?_) (fun _ => alike_pure _) s t h
  refine ⟨h'.world, rfl, fun key hkey => ?_⟩
  exact ApprovalStoreUserApprovalHandler.updateAfterApproval_congr (h.approvals key hkey)

theorem alike_approveOrDeny :
    Alike (Same P) (approveOrDeny sys.config request) (approveOrDeny sys.config request) := by
  refine alike_bind alike_sessionPrincipal fun principal => ?_
  cases principal with
  | none => exact alike_throw _
  | some principal =>
    refine alike_bind (alike_takeDecision principal) fun authorizationRequest => ?_
    refine alike_bind (alike_respondAfterApproval _ _) fun view => ?_
    refine alike_bind (alike_modify fun s t h => ?_) fun _ => alike_pure _
    exact ⟨h.world, rfl, h.approvals⟩

theorem takeDecision_approvals {key : String × String} (principal : BasicAuthentication)
    (h : ∀ waiting, s.pending = some (.request waiting) → waiting.clientId.getD "" ≠ key.2) :
    (final (takeDecision sys.config request principal) s).approvals key = s.approvals key := by
  simp only [final, takeDecision_eq]
  cases hpending : s.pending with
  | none => rfl
  | some pending =>
    cases pending with
    | text value => rfl
    | request waiting =>
      have hclient := h waiting hpending
      refine ApprovalStoreUserApprovalHandler.updateAfterApproval_of_ne ?_ s.approvals
      exact fun heq => hclient (congrArg Prod.snd heq)

/-- A decision is recorded for the client of the request that waits. -/
theorem approveOrDeny_approvals {key : String × String}
    (h : ∀ waiting, s.pending = some (.request waiting) → waiting.clientId.getD "" ≠ key.2) :
    (final (approveOrDeny sys.config request) s).approvals key = s.approvals key := by
  rcases sessionPrincipal_cases s with ⟨e, hsession⟩ | ⟨_, principal, -, -, hsession⟩
  · have hthrow : approveOrDeny sys.config request s = .error e s := bind_of_error hsession
    rw [final_of_error hthrow]
  cases principal with
  | none =>
    have hthrow : approveOrDeny sys.config request s = .error (insufficientAuthentication
        "User must be authenticated with Spring Security before authorizing an access token.") s :=
      bind_of_ok hsession
    rw [final_of_error hthrow]
  | some principal =>
    have hrun : approveOrDeny sys.config request s = approve sys.config request principal s :=
      bind_of_ok hsession
    have htake := final_bind_of_leaves (g := fun u : EndpointState InMemoryApprovalStore => u.approvals key)
      (x := takeDecision sys.config request principal)
      (f := fun authorizationRequest => do
        let view ← respondAfterApproval sys.config request authorizationRequest principal
        modify fun s : EndpointState InMemoryApprovalStore => { s with pending := none }
        return view)
      (fun _ => leaves_bind (leaves_respondAfterApproval (fun _ _ => rfl) _ _) fun _ =>
        leaves_bind (leaves_modify fun _ => rfl) fun _ => leaves_pure _) s
    have hsame : final (approveOrDeny sys.config request) s =
        final (approve sys.config request principal) s := by simp only [final, hrun]
    rw [hsame]
    exact htake.trans (takeDecision_approvals principal h)

end Endpoint

/-- The user of a session, as its Authentication names him. -/
def userName (i : ι) : Option String :=
  (sys.sessions i).currentAuthentication.bind Authentication.principalName

def isOf (user : String) (i : ι) : Bool := userName sys i = some user

/-- What the sessions of the others are answered. -/
def seenByOthers (user : String) (s : State ι) (e : Event ι) :
    List (ι × Except JavaException View) :=
  if isOf sys user e.session then []
  else [(e.session, outcome (run sys e) (s.enter sys e.session))]

def decidesAs (user : String) (e : Event ι) : Bool := e.isDecision && isOf sys user e.session

/-- The client that a decision of the user is about. -/
def decidedClients (user : String) (s : State ι) (e : Event ι) : List String :=
  match s.pending e.session with
  | some (.request request) => if decidesAs sys user e then [request.clientId.getD ""] else []
  | _ => []

/-- Another user's request names no client that the user has decided about. -/
def Apart (user : String) (s : State ι × List String) : Event ι → Prop
  | .authorize i request => isOf sys user i = true ∨
      ∀ clientId ∈ request.parameters.get "client_id", clientId ∉ s.2
  | .approveOrDeny .. => True

instance (user : String) (s : State ι × List String) : DecidablePred (Apart sys user s)
  | .authorize _ _ => inferInstanceAs (Decidable (_ ∨ ∀ _ ∈ _, _))
  | .approveOrDeny _ _ => isTrue trivial

section Interference

variable {sys} {user : String}

/-- Beside the run, a run without the decisions of the user: the others have the same waiting
requests, and the stores agree on the clients that he has not decided about. -/
structure Related (sys : System ι) (user : String) (s : State ι × List String) (t : State ι) :
    Prop where
  pending : ∀ i, isOf sys user i = false → s.1.pending i = t.pending i
  approvals : ∀ name clientId, clientId ∉ s.2 →
    s.1.approvals (name, clientId) = t.approvals (name, clientId)

variable {s : State ι × List String} {t : State ι}

theorem Related.same (h : Related sys user s t) {i : ι} (hi : isOf sys user i = false) :
    Same (fun key => key.2 ∉ s.2) (s.1.enter sys i) (t.enter sys i) :=
  ⟨rfl, h.pending i hi, fun key hkey => h.approvals key.1 key.2 hkey⟩

theorem decidedClients_of_not {e : Event ι} (he : decidesAs sys user e = false) (s : State ι) :
    decidedClients sys user s e = [] := by
  unfold decidedClients
  split
  · rw [he]
    rfl
  · rfl

/-- The others are answered the same in both runs. -/
theorem alike_run {e : Event ι} (he : isOf sys user e.session = false) (hapart : Apart sys user s e) :
    Alike (Same fun key => key.2 ∉ s.2) (run sys e) (run sys e) := by
  cases e with
  | authorize i request =>
    have hreads : Reads (fun key => key.2 ∉ s.2) request := by
      rcases hapart with hof | hreads
      · exact absurd (hof.symm.trans he) Bool.noConfusion
      · exact hreads
    exact alike_authorize hreads
  | approveOrDeny i request => exact alike_approveOrDeny

end Interference

variable [DecidableEq ι]

def State.leave (s : State ι) (i : ι) (t : EndpointState InMemoryApprovalStore) : State ι :=
  { pending := Function.update s.pending i t.pending, approvals := t.approvals
    issuedCodes := t.issuedCodes }

def step (s : State ι) (e : Event ι) : State ι :=
  s.leave e.session (final (run sys e) (s.enter sys e.session))

section Runs

variable {sys} {user : String} {s : State ι × List String} {t : State ι}

/-- What happens in the user's sessions does not reach the waiting requests of the others. -/
theorem pending_step_of_isOf (s : State ι) {e : Event ι} {i : ι}
    (he : isOf sys user e.session = true) (hi : isOf sys user i = false) :
    (step sys s e).pending i = s.pending i := by
  have hne : i ≠ e.session := by
    intro heq
    rw [heq, he] at hi
    cases hi
  exact Function.update_of_ne hne _ _

theorem related_decision {e : Event ι} (he : decidesAs sys user e = true)
    (h : Related sys user s t) :
    Related sys user (Runs.logged (step sys) (decidedClients sys user) s e) t := by
  obtain ⟨hdecision, hof⟩ := Bool.and_eq_true_iff.mp he
  cases e with
  | authorize i request => cases hdecision
  | approveOrDeny i request =>
    constructor
    · intro j hj
      exact (pending_step_of_isOf s.1 hof hj).trans (h.pending j hj)
    · intro name clientId hclient
      obtain ⟨hbefore, hnow⟩ := not_or.mp (fun hmem => hclient (List.mem_append.mpr hmem))
      refine Eq.trans ?_ (h.approvals name clientId hbefore)
      refine approveOrDeny_approvals (s := s.1.enter sys i) fun waiting hwaiting heq => ?_
      have hdecided : decidedClients sys user s.1 (.approveOrDeny i request) =
          [waiting.clientId.getD ""] := by
        have hpending : s.1.pending i = some (.request waiting) := hwaiting
        simp only [decidedClients, Event.session, hpending, he, if_true]
      rw [hdecided] at hnow
      exact hnow (List.mem_singleton.mpr heq.symm)

/-- Matching answers keep the runs related. -/
theorem related_of_same {e : Event ι}
    (hlog : decidedClients sys user s.1 e = []) (h : Related sys user s t)
    (hsame : Same (fun key => key.2 ∉ s.2) (final (run sys e) (s.1.enter sys e.session))
      (final (run sys e) (t.enter sys e.session))) :
    Related sys user (Runs.logged (step sys) (decidedClients sys user) s e) (step sys t e) := by
  constructor
  · intro j hj
    by_cases hji : j = e.session
    · rw [hji]
      simp only [Runs.logged, step, State.leave, Function.update_self, hsame.pending]
    · simp only [Runs.logged, step, State.leave, Function.update_of_ne hji, h.pending j hj]
  · intro name clientId hclient
    simp only [Runs.logged, hlog, List.append_nil] at hclient ⊢
    exact hsame.approvals (name, clientId) hclient

theorem related_step {e : Event ι} (he : decidesAs sys user e = false)
    (hapart : Apart sys user s e) (h : Related sys user s t) :
    seenByOthers sys user s.1 e = seenByOthers sys user t e ∧
      Related sys user (Runs.logged (step sys) (decidedClients sys user) s e) (step sys t e) := by
  have hlog := decidedClients_of_not he s.1
  cases hof : isOf sys user e.session with
  | false =>
    have hmatched := alike_run hof hapart _ _ (h.same hof)
    constructor
    · simp only [seenByOthers, hof, hmatched.outcome]
    · exact related_of_same hlog h hmatched.final
  | true =>
    refine ⟨by simp only [seenByOthers, hof, if_true], ?_, ?_⟩
    · intro j hj
      have hsame := pending_step_of_isOf s.1 hof hj
      exact (hsame.trans (h.pending j hj)).trans (pending_step_of_isOf t hof hj).symm
    · intro name clientId hclient
      cases e with
      | approveOrDeny i request =>
        have hdecides : isOf sys user i = false := he
        exact absurd (hof.symm.trans hdecides) Bool.noConfusion
      | authorize i request =>
        have hleaves := leaves_authorize (g := EndpointState.approvals) (fun _ _ _ => rfl) sys.config
          request
        simp only [Runs.logged, hlog, List.append_nil] at hclient ⊢
        have hleft := congrFun (hleaves (s.1.enter sys i)) (name, clientId)
        have hright := congrFun (hleaves (t.enter sys i)) (name, clientId)
        exact (hleft.trans (h.approvals name clientId hclient)).trans hright.symm

end Runs

/-- As long as nobody else asks for a client that the user has decided about, the others are
answered as if he had never decided. -/
theorem decisions_do_not_interfere (user : String) (s : State ι) (events : List (Event ι))
    (h : Runs.Meets (Runs.logged (step sys) (decidedClients sys user)) (Apart sys user) (s, [])
      events) :
    seen (step sys) (seenByOthers sys user) s events =
      seen (step sys) (seenByOthers sys user) s (events.filter fun e => !decidesAs sys user e) := by
  have hstart : Related sys user (s, []) s := ⟨fun _ _ => rfl, fun _ _ _ => rfl⟩
  have hseen := seen_logged (step sys) (seenByOthers sys user) (decidedClients sys user) (s, [])
    events
  rw [← hseen]
  refine seen_purge (decidesAs sys user) (fun s e he => ?_) ?_ ?_ h hstart
  · exact if_pos (Bool.and_eq_true_iff.mp he).2
  · exact fun s t e he hR => related_decision he hR
  · exact fun s t e he hapart hR => related_step he hapart hR

def registry : ClientDetailsService where
  loadClientByClientId id :=
    if id = some "app" ∨ id = some "mail" then .ok { clientId := id.getD "", scope := ["read"] }
    else .error (noSuchClient "No client with requested id")
  no_authenticationException id e h := by
    split_ifs at h
    cases h
    rfl

def sessionOf (name : String) : HttpSession :=
  { id := name
    currentAuthentication := some (.user (.token
      ⟨.basic { username := some name, authenticated := true }, none, [], true⟩)) }

/-- alice in one session and bob in the other. -/
def aliceAndBob : System Bool where
  clients := registry
  resolveRedirect uri _ := .ok uri
  createAccessToken _ := .error nullPointer
  handler := { isMatch := fun scope auto => scope = auto, monthLater := fun now => now + 2678400000 }
  database := ⟨⟨[], List.nodup_nil⟩, [], [], []⟩
  sessions isAlice := sessionOf (if isAlice then "alice" else "bob")

def ask (clientId : String) : Request :=
  { parameters := [("client_id", clientId), ("response_type", "code"), ("scope", "read"),
      ("redirect_uri", "https://app.example/cb")] }

def consent : Request := { parameters := [("scope.read", "true")] }

/-- alice and bob decide about a client each, and bob is asked about his only once. -/
theorem two_clients_do_not_interfere :
    let events : List (Event Bool) := [.authorize true (ask "app"), .approveOrDeny true consent,
      .authorize false (ask "mail"), .approveOrDeny false consent, .authorize false (ask "mail")]
    seen (step aliceAndBob) (seenByOthers aliceAndBob "alice") {} events =
      seen (step aliceAndBob) (seenByOthers aliceAndBob "alice") {}
        (events.filter fun e => !decidesAs aliceAndBob "alice" e) :=
  decisions_do_not_interfere aliceAndBob "alice" {} _ (by decide)

def isCode : View → Bool
  | .code .. => true
  | _ => false

/-- After alice's consent bob gets a code for the same client without being asked. -/
theorem consent_of_another_user_counts :
    ¬ ∀ (user : String) (events : List (Event Bool)),
      seen (step aliceAndBob) (seenByOthers aliceAndBob user) {} events =
        seen (step aliceAndBob) (seenByOthers aliceAndBob user) {}
          (events.filter fun e => !decidesAs aliceAndBob user e) := by
  intro h
  have hsame := h "alice" [.authorize true (ask "app"), .approveOrDeny true consent,
    .authorize false (ask "app")]
  have hcodes := congrArg (List.map fun answer => answer.2.toOption.any isCode) hsame
  exact absurd hcodes (by decide)

end MaxKey.SharedApprovals
