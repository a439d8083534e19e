import MaxKey.ApprovalStore
import MaxKey.CodeGrants
import MaxKey.TokenOrigins

namespace MaxKey.CodeFlows
open OAuth2 JavaException Effects Runs AuthorizationEndpoint CodeGrants
open AuthorizationCodes (CodeServices Shared StoredCode Admitted)
open InMemoryTokenStore (Stored StoreM)
open TokenEndpoint (Issuance)

section Endpoint

variable {σ : Type} {c : AuthorizationEndpoint.Config σ} {request : AuthorizationEndpoint.Request}
  {s : EndpointState σ}

/-- The client of the request is there, and the redirect URI is one that is resolved for it. -/
def Checked (c : AuthorizationEndpoint.Config σ) (r : AuthorizationRequest) : Prop :=
  ∃ client requested, c.clients.loadClientByClientId r.clientId = .ok client ∧
    c.resolveRedirect requested client = .ok r.redirectUri ∧ JavaText.hasText r.redirectUri = true

/-- A handler decides about a request and leaves its client and its redirect URI alone. -/
structure Keeps (handler : UserApprovalHandler σ) : Prop where
  checkForPreApproval : ∀ now r principal approvals r',
    handler.checkForPreApproval now r principal approvals = .ok r' →
      r'.clientId = r.clientId ∧ r'.redirectUri = r.redirectUri
  updateAfterApproval : ∀ now r principal approvals,
    (handler.updateAfterApproval now r principal approvals).1.clientId = r.clientId ∧
      (handler.updateAfterApproval now r principal approvals).1.redirectUri = r.redirectUri

theorem Checked.congr {r r' : AuthorizationRequest} (h : Checked c r)
    (hsame : r'.clientId = r.clientId ∧ r'.redirectUri = r.redirectUri) : Checked c r' := by
  unfold Checked
  rw [hsame.1, hsame.2]
  exact h

theorem keeps_default (σ : Type) : Keeps (defaultUserApprovalHandler σ) where
  checkForPreApproval _ _ _ _ _ h := by
    rw [← Except.ok.inj h]
    exact ⟨rfl, rfl⟩
  updateAfterApproval _ _ _ _ := ⟨rfl, rfl⟩

theorem keeps_approvalStore (handler : ApprovalStoreUserApprovalHandler) :
    Keeps handler.toUserApprovalHandler where
  checkForPreApproval now r principal approvals r' h := by
    have hstored : ∀ userApprovals approved,
        (handler.checkStored now r userApprovals approved).clientId = r.clientId ∧
          (handler.checkStored now r userApprovals approved).redirectUri = r.redirectUri := by
      intro userApprovals approved
      rw [ApprovalStoreUserApprovalHandler.checkStored_eq]
      split_ifs
      · exact ⟨rfl, rfl⟩
      · exact ⟨rfl, rfl⟩
    obtain ⟨approved, -, h⟩ := except_bind_eq_ok.mp h
    dsimp only at h
    split at h
    · rw [← Except.ok.inj h]
      exact hstored _ _
    · split_ifs at h
      · rw [← Except.ok.inj h]
        exact ⟨rfl, rfl⟩
      · rw [← Except.ok.inj h]
        exact hstored _ _
  updateAfterApproval _ _ _ _ := ⟨rfl, rfl⟩

/-- A waiting request has been checked. -/
def Waiting (c : AuthorizationEndpoint.Config σ) (pending : Option Pending) : Prop :=
  ∀ r, pending = some (.request r) → Checked c r

/-- The authentication of a code: the approved request, for the principal. -/
def combinedAuth (r : AuthorizationRequest) (principal : BasicAuthentication) :
    OAuth2Authentication := ⟨r.createOAuth2Request, some (.basic principal)⟩

/-- The endpoint has sent the code for an approved request of the session's principal to the
redirect URI of the request's client. -/
def Sent (c : AuthorizationEndpoint.Config σ) (s : EndpointState σ)
    (result : Except JavaException View) (code : String) (a : OAuth2Authentication) : Prop :=
  ∃ authentication principal r, s.world.session.currentAuthentication = some authentication ∧
    authentication.getPrincipal = .basic principal ∧ r.approved = true ∧ Checked c r ∧
    a = combinedAuth r principal ∧
    result = .ok (.code (r.redirectUri.getD "") (successfulQuery r code))

/-- What a request to the endpoint does: the codes stay, or one more has been sent. -/
structure Answers (c : AuthorizationEndpoint.Config σ) (code : String) (x : Endpoint σ View)
    (s : EndpointState σ) : Prop where
  waiting : Waiting c s.pending → Waiting c (final x s).pending
  codes : Waiting c s.pending → (final x s).issuedCodes = s.issuedCodes ∨
    ∃ a, (final x s).issuedCodes = s.issuedCodes ++ [(code, a)] ∧ Sent c s (outcome x s) code a

/-- The code is put away and sent, or the request is answered without one. -/
theorem respond_cases (c : AuthorizationEndpoint.Config σ) (request : AuthorizationEndpoint.Request)
    (r : AuthorizationRequest) (principal : BasicAuthentication) (s : EndpointState σ) :
    (final (respond c request r principal) s = s) ∨
    respond c request r principal s =
      .ok (.code (r.redirectUri.getD "") (successfulQuery r request.generatedCode))
        { s with issuedCodes := s.issuedCodes ++
          [(request.generatedCode, combinedAuth r principal)] } := by
  unfold respond
  split
  · exact .inl (leaves_orError (g := id) _ s)
  · exact .inr rfl

theorem checkedRequest_checked {r r' : AuthorizationRequest}
    (h : AuthorizationEndpoint.checkedRequest c r = .ok r') : Checked c r' := by
  obtain ⟨client, hload, h⟩ := except_bind_eq_ok.mp h
  obtain ⟨redirect, hresolve, h⟩ := except_bind_eq_ok.mp h
  obtain ⟨_, htext, h⟩ := except_bind_eq_ok.mp h
  obtain ⟨_, -, h⟩ := except_bind_eq_ok.mp h
  rw [← Except.ok.inj h]
  exact ⟨client, _, hload, hresolve, not_not.mp (failIf_eq_ok.mp htext)⟩

theorem preApproved_checked (hkeeps : Keeps c.handler) {principal : Option BasicAuthentication}
    {approvals : σ} {decided : AuthorizationRequest × BasicAuthentication}
    (h : preApproved c request principal approvals = .ok decided) : Checked c decided.1 := by
  obtain ⟨_, -, h⟩ := except_bind_eq_ok.mp h
  obtain ⟨_, -, h⟩ := except_bind_eq_ok.mp h
  obtain ⟨checked, hchecked, h⟩ := except_bind_eq_ok.mp h
  obtain ⟨r, hdecided, h⟩ := except_bind_eq_ok.mp h
  rw [← Except.ok.inj h]
  exact (checkedRequest_checked hchecked).congr (hkeeps.checkForPreApproval _ _ _ _ _ hdecided)

theorem answers_of_final {code : String} {x : Endpoint σ View} (h : final x s = s) :
    Answers c code x s := by
  constructor
  · rw [h]
    exact id
  · rw [h]
    exact fun _ => .inl rfl

theorem final_congr {α : Type} {x y : Endpoint σ α} (h : x s = y s) : final x s = final y s := by
  simp only [final, h]

theorem waiting_page {r : AuthorizationRequest} {principal : BasicAuthentication}
    (h : Checked c r) : Waiting c (final (getUserApprovalPageResponse c r principal) s).pending := by
  intro r' hr'
  cases hvalue : r.requestParameters.get "authorizationRequest" with
  | some value =>
    rw [getUserApprovalPageResponse, hvalue] at hr'
    cases Option.some.inj hr'
  | none =>
    rw [getUserApprovalPageResponse, hvalue] at hr'
    cases Option.some.inj hr'
    exact h

theorem authorize_answers (hkeeps : Keeps c.handler) (request : AuthorizationEndpoint.Request)
    (s : EndpointState σ) : Answers c request.generatedCode (authorize c request) s := by
  rcases sessionPrincipal_cases s with ⟨e, h⟩ | ⟨authentication, principal, hsession, hcast, h⟩
  · have hthrow : authorize c request s = .error e s := bind_of_error h
    exact answers_of_final (final_of_error hthrow)
  have hrun := authorize_eq c request h
  cases hdecided : preApproved c request principal s.approvals with
  | error e =>
    rw [hdecided] at hrun
    exact answers_of_final (final_of_error hrun)
  | ok decided =>
    have hprincipal := preApproved_principal hdecided
    rw [hprincipal] at hcast
    have hchecked := preApproved_checked hkeeps hdecided
    rw [hdecided] at hrun
    dsimp only at hrun
    split_ifs at hrun with happroved
    · rcases respond_cases c request decided.1 decided.2 s with hsame | hcode
      · exact answers_of_final ((final_congr hrun).trans hsame)
      · have hanswer := hrun.trans hcode
        constructor
        · rw [final_of_ok hanswer]
          exact id
        · intro _
          rw [final_of_ok hanswer, outcome_of_ok hanswer]
          exact .inr ⟨_, rfl, authentication, decided.2, decided.1, hsession,
            principalOf_eq_some hcast, happroved, hchecked, rfl, rfl⟩
    · -- the request waits in the session for the user's decision
      have hpage := final_congr hrun
      constructor
      · intro _ r hr
        rw [hpage] at hr
        exact waiting_page hchecked r hr
      · intro _
        rw [hpage]
        exact .inl rfl

theorem respondAfterApproval_cases (c : AuthorizationEndpoint.Config σ)
    (request : AuthorizationEndpoint.Request) (r : AuthorizationRequest)
    (principal : BasicAuthentication) (s : EndpointState σ) :
    final (respondAfterApproval c request r principal) s = s ∨
    r.approved = true ∧ respondAfterApproval c request r principal s =
      .ok (.code (r.redirectUri.getD "") (successfulQuery r request.generatedCode))
        { s with issuedCodes := s.issuedCodes ++
          [(request.generatedCode, combinedAuth r principal)] } := by
  unfold respondAfterApproval
  split_ifs with hredirect happroved
  · exact .inl rfl
  · rcases respond_cases c request r principal s with hsame | hcode
    · exact .inl hsame
    · exact .inr ⟨happroved, hcode⟩
  · exact .inl (leaves_orError (g := id) _ s)

/-- After the decision: an answer without a code, or the code, and no request waits. -/
theorem approve_answers (hkeeps : Keeps c.handler) (request : AuthorizationEndpoint.Request)
    {authentication : Authentication} {principal : BasicAuthentication}
    (hsession : s.world.session.currentAuthentication = some authentication)
    (hprincipal : authentication.getPrincipal = .basic principal) :
    Answers c request.generatedCode (approve c request principal) s := by
  have hdecide := takeDecision_eq c request principal s
  cases hpending : pendingRequest s.pending with
  | error e =>
    rw [hpending] at hdecide
    exact answers_of_final (final_of_error (bind_of_error hdecide))
  | ok waiting =>
    rw [hpending] at hdecide
    dsimp only at hdecide
    have hupdate := hkeeps.updateAfterApproval request.now
      { waiting with approvalParameters := request.parameters } principal s.approvals
    generalize c.handler.updateAfterApproval request.now
      { waiting with approvalParameters := request.parameters } principal s.approvals = decided
      at hdecide hupdate
    have hchecked (h : Waiting c s.pending) : Checked c decided.1 := by
      refine Checked.congr (h waiting ?_) hupdate
      cases hs : s.pending with
      | none =>
        rw [hs] at hpending
        cases hpending
      | some p =>
        rw [hs] at hpending
        cases p with
        | request r => exact congrArg (some ∘ Pending.request) (Except.ok.inj hpending)
        | text value => cases hpending
    let t : EndpointState σ :=
      { s with pending := some (.request decided.1), approvals := decided.2 }
    have hrun : approve c request principal s = (respondAfterApproval c request decided.1 principal >>=
        fun view => do
          modify fun s => { s with pending := none }
          return view) t := bind_of_ok hdecide
    have hwaiting : Waiting c s.pending → Waiting c t.pending := by
      intro h r hr
      cases hr
      exact hchecked h
    rcases respondAfterApproval_cases c request decided.1 principal t with
      hsame | ⟨happroved, hcode⟩
    · cases hrespond : respondAfterApproval c request decided.1 principal t with
      | error e u =>
        rw [final_of_error hrespond] at hsame
        have hanswer := hrun.trans (bind_of_error hrespond)
        constructor
        · rw [final_of_error hanswer, hsame]
          exact hwaiting
        · rw [final_of_error hanswer, hsame]
          exact fun _ => .inl rfl
      | ok view u =>
        rw [final_of_ok hrespond] at hsame
        have hanswer : approve c request principal s = .ok view { u with pending := none } :=
          hrun.trans (bind_of_ok hrespond)
        rw [hsame] at hanswer
        constructor
        · rw [final_of_ok hanswer]
          intro _ r hr
          cases hr
        · rw [final_of_ok hanswer]
          exact fun _ => .inl rfl
    · have hanswer := hrun.trans (bind_of_ok hcode)
      constructor
      · rw [final_of_ok hanswer]
        intro _ r hr
        cases hr
      · intro h
        rw [final_of_ok hanswer, outcome_of_ok hanswer]
        exact .inr ⟨_, rfl, authentication, principal, decided.1, hsession, hprincipal, happroved,
          hchecked h, rfl, rfl⟩

theorem approveOrDeny_answers (hkeeps : Keeps c.handler) (request : AuthorizationEndpoint.Request)
    (s : EndpointState σ) : Answers c request.generatedCode (approveOrDeny c request) s := by
  rcases sessionPrincipal_cases s with ⟨e, h⟩ | ⟨authentication, principal, hsession, hcast, h⟩
  · have hthrow : approveOrDeny c request s = .error e s := bind_of_error h
    exact answers_of_final (final_of_error hthrow)
  cases principal with
  | none =>
    have hthrow : approveOrDeny c request s = .error (insufficientAuthentication
        "User must be authenticated with Spring Security before authorizing an access token.") s :=
      bind_of_ok h
    exact answers_of_final (final_of_error hthrow)
  | some principal =>
    have hrun : approveOrDeny c request s = approve c request principal s := bind_of_ok h
    have happrove := approve_answers hkeeps request hsession (principalOf_eq_some hcast)
    have houtcome : outcome (approveOrDeny c request) s = outcome (approve c request principal) s := by
      simp only [outcome, hrun]
    constructor
    · rw [final_congr hrun]
      exact happrove.waiting
    · rw [final_congr hrun, houtcome]
      exact happrove.codes

end Endpoint

/-- The endpoints of a site with what they are wired to: token services without an authentication
manager, and a handler that only decides. -/
structure Config (σ : Type) where
  endpoint : AuthorizationEndpoint.Config σ
  keeps : Keeps endpoint.handler
  filter : ClientAuthentication.Config
  codeServices : CodeServices
  tokenServices : DefaultTokenServices
  noManager : tokenServices.authenticationManager = none
  digest : String → String

/-- The browsers' sessions, each with the request that waits in it, and what they share. -/
structure Site (σ : Type) where
  database : Database
  cachedPasswordPolicy : Option PasswordPolicy := none
  sessions : ℕ → HttpSession
  pending : ℕ → Option Pending := fun _ => none
  approvals : σ
  backend : Backend InMemoryTokenStore := { tokens := {} }

/-- What comes to a site. Nothing in the program puts an authentication into the security context
of a request. Elsewhere a browser may log in or out, and the waiting request may go with the
session. -/
inductive Event (σ : Type)
  | authorize (browser : ℕ) (parameters : Parameters) (now : ℕ) (generatedCode : String)
  | approveOrDeny (browser : ℕ) (parameters : Parameters) (now : ℕ) (generatedCode : String)
  | token (browser : ℕ) (parameters : Parameters) (m : Moment)
  | loadAuthentication (now : ℕ) (value : String)
  | revokeToken (value : String)
  | elsewhere (browser : ℕ) (world : World) (approvals : σ) (keeps : Bool)
  | wait (seconds : ℕ)

variable {σ : Type}

namespace Site

def world (s : Site σ) (browser : ℕ) : World :=
  ⟨s.database, s.sessions browser, s.cachedPasswordPolicy⟩

def putWorld (browser : ℕ) (w : World) (s : Site σ) : Site σ :=
  { s with
    database := w.database, cachedPasswordPolicy := w.cachedPasswordPolicy
    sessions := Function.update s.sessions browser w.session }

def endpointState (s : Site σ) (browser : ℕ) : EndpointState σ :=
  { world := s.world browser, pending := s.pending browser, approvals := s.approvals }

end Site

/-- The token services behind the granters; the stores have no null key. -/
def Config.grant (c : Config σ) (m : Moment) : Issuance → StoreM OAuth2AccessToken
  | .create a => c.tokenServices.createAccessToken c.digest m a
  | .refresh (some value) request => c.tokenServices.refreshAccessToken c.digest m value request
  | .refresh none _ => do
    throwIf (c.tokenServices.supportRefreshToken = false) (invalidGrant "Invalid refresh token: null")
    throw nullPointer

def Config.granting (c : Config σ) (m : Moment) : Granting InMemoryTokenStore where
  clients := c.endpoint.clients
  codeServices := c.codeServices
  tokenServices := c.grant m

/-- A request to the authorization endpoint: its browser, the code that is drawn for it, and what
the endpoint does with it. -/
def Event.endpoint (c : Config σ) : Event σ → Option (ℕ × String × Endpoint σ View)
  | .authorize browser parameters now code =>
    some (browser, code, AuthorizationEndpoint.authorize c.endpoint ⟨parameters, now, code, none⟩)
  | .approveOrDeny browser parameters now code =>
    some (browser, code, AuthorizationEndpoint.approveOrDeny c.endpoint ⟨parameters, now, code, none⟩)
  | _ => none

/-- The request of a client to the token endpoint. -/
def Config.tokenRequest (c : Config σ) (parameters : Parameters) (m : Moment) :=
  CodeGrants.tokenRequest c.filter (c.granting m) ⟨parameters, none⟩

/-- A request to the authorization endpoint. The code that is issued goes into the store. -/
def Site.atEndpoint (c : Config σ) (browser : ℕ) (x : Endpoint σ View) (s : Site σ) : Site σ :=
  let t := final x (s.endpointState browser)
  { s.putWorld browser t.world with
    pending := Function.update s.pending browser t.pending
    approvals := t.approvals
    backend := { s.backend with
      codes := t.issuedCodes.foldl (fun codes issued => c.codeServices.store issued.1 issued.2 codes)
        s.backend.codes } }

def step (c : Config σ) (s : Site σ) : Event σ → Site σ
  | .authorize browser parameters now code =>
    s.atEndpoint c browser (AuthorizationEndpoint.authorize c.endpoint ⟨parameters, now, code, none⟩)
  | .approveOrDeny browser parameters now code => s.atEndpoint c browser
    (AuthorizationEndpoint.approveOrDeny c.endpoint ⟨parameters, now, code, none⟩)
  | .token browser parameters m =>
    let t := final (c.tokenRequest parameters m) (s.world browser, s.backend)
    { s.putWorld browser t.1 with backend := t.2 }
  | .loadAuthentication now value =>
    { s with backend := { s.backend with
      tokens := final (c.tokenServices.loadAuthentication c.digest now value) s.backend.tokens } }
  | .revokeToken value =>
    { s with backend := { s.backend with
      tokens := final (DefaultTokenServices.revokeToken c.digest value) s.backend.tokens } }
  | .elsewhere browser world approvals keeps =>
    { s.putWorld browser world with
      pending := if keeps then s.pending else Function.update s.pending browser none
      approvals := approvals }
  | .wait seconds =>
    { s with backend := { s.backend with
      codes := { s.backend.codes with now := s.backend.codes.now + seconds } } }

/-- The event is a request by which the principal of a browser's session has the code sent for an
approved request of theirs. -/
def Issued (c : Config σ) (row : StoredCode) (s : Site σ) (e : Event σ) : Prop :=
  ∃ browser x, e.endpoint c = some (browser, row.code, x) ∧
    Sent c.endpoint (s.endpointState browser) (outcome x (s.endpointState browser)) row.code
      row.authentication ∧
    row.expires = c.codeServices.validitySeconds.map (s.backend.codes.now + ·)

/-- The event is a request of a client that has turned in its secret. -/
def ByClient (c : Config σ) (clientId : String) (_ : Site σ) (e : Event σ) : Prop :=
  ∃ browser parameters m, e = .token browser parameters m ∧
    ClientAuthentication.Verified c.filter ⟨parameters, none⟩ clientId

/-- The event is a request that is answered with a token for the code. -/
def Exchanges (c : Config σ) (code : String) (s : Site σ) (e : Event σ) : Prop :=
  ∃ browser parameters m token t, e = .token browser parameters m ∧
    parameters.get "grant_type" = some "authorization_code" ∧ parameters.get "code" = some code ∧
    c.tokenRequest parameters m (s.world browser, s.backend) = .ok (some token) t

/-- In the run from `s₀` something has happened. -/
def Happened (c : Config σ) (s₀ : Site σ) (as : List (Event σ)) (E : Site σ → Event σ → Prop) :
    Prop := ∃ before e after, as = before ++ e :: after ∧ E (exec (step c) s₀ before) e

/-- The code has been sent in the run, and no token has been given for it since. -/
def Outstanding (c : Config σ) (s₀ : Site σ) (as : List (Event σ)) (row : StoredCode) : Prop :=
  ∃ before e after, as = before ++ e :: after ∧ Issued c row (exec (step c) s₀ before) e ∧
    Meets (step c) (fun s e => ¬Exchanges c row.code s e) (step c (exec (step c) s₀ before) e) after

/-- The authentication is for a client that has turned in its secret, and for itself or for
the user who approved its request. -/
def Granted (c : Config σ) (s₀ : Site σ) (as : List (Event σ)) (a : OAuth2Authentication) : Prop :=
  ∃ clientId, a.oAuth2Request.clientId = some clientId ∧
    Happened c s₀ as (ByClient c clientId) ∧
    (a.userAuthentication = none ∨
      ∃ row, Happened c s₀ as (Issued c row) ∧
        DefaultTokenServices.Inherits row.authentication a)

section Runs

variable {c : Config σ} {s₀ : Site σ} {as : List (Event σ)} {e : Event σ}

theorem step_of_endpoint {s : Site σ} {browser : ℕ} {code : String} {x : Endpoint σ View}
    (h : e.endpoint c = some (browser, code, x)) : step c s e = s.atEndpoint c browser x := by
  cases e with
  | authorize =>
    cases h
    rfl
  | approveOrDeny =>
    cases h
    rfl
  | _ => cases h

theorem answers_of_endpoint {browser : ℕ} {code : String}
    {x : Endpoint σ View} (h : e.endpoint c = some (browser, code, x)) (s : EndpointState σ) :
    Answers c.endpoint code x s := by
  cases e with
  | authorize browser parameters now code =>
    cases h
    exact authorize_answers c.keeps ⟨parameters, now, code, none⟩ s
  | approveOrDeny browser parameters now code =>
    cases h
    exact approveOrDeny_answers c.keeps ⟨parameters, now, code, none⟩ s
  | _ => cases h

/-- What has happened before the last event, or at it. -/
theorem Happened.append {E : Site σ → Event σ → Prop} (h : Happened c s₀ as E) (e : Event σ) :
    Happened c s₀ (as ++ [e]) E := happened_append h

theorem happened_last {E : Site σ → Event σ → Prop} (h : E (exec (step c) s₀ as) e) :
    Happened c s₀ (as ++ [e]) E := ⟨as, e, [], rfl, h⟩

theorem Granted.append {a : OAuth2Authentication} (h : Granted c s₀ as a) (e : Event σ) :
    Granted c s₀ (as ++ [e]) a := by
  obtain ⟨clientId, hclient, hverified, hfor⟩ := h
  refine ⟨clientId, hclient, hverified.append e, hfor.imp_right ?_⟩
  rintro ⟨row, hissued, hsame⟩
  exact ⟨row, hissued.append e, hsame⟩

theorem Outstanding.append {row : StoredCode} (h : Outstanding c s₀ as row)
    (he : ¬Exchanges c row.code (exec (step c) s₀ as) e) : Outstanding c s₀ (as ++ [e]) row := by
  obtain ⟨before, issued, after, rfl, hissued, hsince⟩ := h
  refine ⟨before, issued, after ++ [e], by simp, hissued, ?_⟩
  rw [exec_append] at he
  exact (meets_append _ _ _).mpr ⟨hsince, he, trivial⟩

theorem Outstanding.happened {row : StoredCode} (h : Outstanding c s₀ as row) :
    Happened c s₀ as (Issued c row) := by
  obtain ⟨before, issued, after, heq, hissued, -⟩ := h
  exact ⟨before, issued, after, heq, hissued⟩

/-- The invariant of a run: waiting requests have been checked, stored codes are outstanding, and
the authentications of stored tokens have been granted. -/
structure Traced (c : Config σ) (s₀ : Site σ) (as : List (Event σ)) (s : Site σ) : Prop where
  waiting : ∀ browser, Waiting c.endpoint (s.pending browser)
  codes : ∀ row ∈ s.backend.codes.codes, Outstanding c s₀ as row
  tokens : Stored (Granted c s₀ as) s.backend.tokens

theorem mem_store {services : CodeServices} {code : String} {a : OAuth2Authentication} {t : Shared}
    {row : StoredCode} (h : row ∈ (services.store code a t).codes) :
    row ∈ t.codes ∨ row = ⟨code, a, services.validitySeconds.map (t.now + ·)⟩ := by
  cases services with
  | jdbc =>
    rcases List.mem_cons.mp h with hnew | hold
    · exact .inr hnew
    · exact .inl hold
  | inMemory =>
    rcases List.mem_cons.mp h with hnew | hold
    · exact .inr hnew
    · exact .inl (List.mem_of_mem_filter hold)
  | redis =>
    rcases List.mem_cons.mp h with hnew | hold
    · exact .inr hnew
    · exact .inl (List.mem_of_mem_filter hold)

theorem traced_endpoint {browser : ℕ} {code : String}
    {x : Endpoint σ View} (hx : e.endpoint c = some (browser, code, x))
    (h : Traced c s₀ as (exec (step c) s₀ as)) :
    Traced c s₀ (as ++ [e]) (step c (exec (step c) s₀ as) e) := by
  have hstep := step_of_endpoint (s := exec (step c) s₀ as) hx
  have hnone : ∀ row, ¬Exchanges c row (exec (step c) s₀ as) e := by
    rintro row ⟨_, _, _, _, _, rfl, -⟩
    cases hx
  have hissued : ∀ row, Issued c row (exec (step c) s₀ as) e → Outstanding c s₀ (as ++ [e]) row :=
    fun row hrow => ⟨as, e, [], rfl, hrow, trivial⟩
  rw [hstep]
  generalize hs : exec (step c) s₀ as = s at h hnone hissued
  have hanswers := answers_of_endpoint hx (s.endpointState browser)
  have hwaiting := hanswers.waiting (h.waiting browser)
  have hcodes := hanswers.codes (h.waiting browser)
  constructor
  · intro browser'
    by_cases hsame : browser' = browser
    · subst hsame
      simpa only [Site.atEndpoint, Function.update_self] using hwaiting
    · simpa only [Site.atEndpoint, Function.update_of_ne hsame] using h.waiting browser'
  · intro row hrow
    have hold : ∀ row ∈ s.backend.codes.codes, Outstanding c s₀ (as ++ [e]) row :=
      fun row hrow => (h.codes row hrow).append (hs ▸ hnone row.code)
    rcases hcodes with hsame | ⟨a, hmore, hsent⟩
    · simp only [Site.atEndpoint, hsame] at hrow
      exact hold row hrow
    · simp only [Site.atEndpoint, hmore] at hrow
      rcases mem_store hrow with hmem | rfl
      · exact hold row hmem
      · exact hissued _ ⟨browser, x, hx, hsent, rfl⟩
  · exact h.tokens.mono fun a ha => ha.append e

/-- What a verified client may be granted at this event. -/
theorem grants_of_traced {browser : ℕ} {parameters : Parameters} {m : Moment} {clientId : String}
    (hverified : ClientAuthentication.Verified c.filter ⟨parameters, none⟩ clientId) :
    Grants (Outstanding c s₀ as) (Granted c s₀ (as ++ [.token browser parameters m])) clientId := by
  have hclient : Happened c s₀ (as ++ [.token browser parameters m]) (ByClient c clientId) :=
    happened_last ⟨browser, parameters, m, rfl, hverified⟩
  constructor
  · rintro row a hrow hissued ⟨more, rfl⟩
    refine ⟨clientId, hissued, hclient, .inr ⟨row, hrow.happened.append _, ?_⟩⟩
    exact ⟨rfl, rfl, rfl, rfl⟩
  · intro a huser hown
    exact ⟨clientId, hown, hclient, .inl huser⟩

theorem Granted.inherits {a b : OAuth2Authentication} (h : Granted c s₀ as a)
    (hsame : DefaultTokenServices.Inherits a b) : Granted c s₀ as b := by
  obtain ⟨clientId, hclient, hverified, hfor⟩ := h
  refine ⟨clientId, hsame.client.trans hclient, hverified, ?_⟩
  rcases hfor with hown | ⟨row, hissued, hrow⟩
  · exact .inl (hsame.user.trans hown)
  · exact .inr ⟨row, hissued, hrow.trans hsame⟩

/-- Each grant stores only what has been granted. -/
theorem issues_granted (m : Moment) :
    Issues (c.granting m) (Granted c s₀ as) (Stored (Granted c s₀ as)) := by
  intro issuance hissuance
  match issuance with
  | .create a => exact DefaultTokenServices.triple_createAccessToken_stored m hissuance
  | .refresh (some value) request =>
    exact DefaultTokenServices.triple_refreshAccessToken_stored c.noManager
      (fun a b ha hsame => ha.inherits hsame) m value request
  | .refresh none _ =>
    refine triple_bind (M := fun _ => Stored (Granted c s₀ as)) ?_ fun _ => triple_throw fun _ hs => hs
    exact triple_onlyIf (x := throw _) (fun _ => triple_throw fun _ hs => hs) fun _ _ hs => hs

/-- What a request to the token endpoint leaves of the codes, and what it stores. -/
theorem tokenRequest_traced (h : Traced c s₀ as (exec (step c) s₀ as)) {s : Site σ} (hs : exec (step c) s₀ as = s)
    (browser : ℕ) (parameters : Parameters) (m : Moment) :
    Both (Rows (· ∈ s.backend.codes.codes))
      (Stored (Granted c s₀ (as ++ [.token browser parameters m])))
      (final (c.tokenRequest parameters m) (s.world browser, s.backend)).2 := by
  rw [hs] at h
  have hstart : Both (Rows (· ∈ s.backend.codes.codes))
      (Stored (Granted c s₀ (as ++ [.token browser parameters m]))) s.backend :=
    ⟨fun _ hrow => hrow, h.tokens.mono fun a ha => ha.append _⟩
  rcases @tokenRequest_cases _ c.filter (c.granting m) ⟨parameters, none⟩ rfl
    (s.world browser) s.backend with hrefused | ⟨clientId, w', hid, hverified, hrun⟩
  · rw [Config.tokenRequest, hrefused.2]
    exact hstart
  · have htraced : Grants (Outstanding c s₀ as) (Granted c s₀ (as ++ [.token browser parameters m]))
        clientId := grants_of_traced hverified
    have hgrants : Grants (· ∈ s.backend.codes.codes)
        (Granted c s₀ (as ++ [.token browser parameters m])) clientId :=
      ⟨fun row a hrow => htraced.continued row a (h.codes row hrow), htraced.own⟩
    have hgrant := triple_grantFor hid hgrants (issues_granted m) ⟨parameters, none⟩
    have hfinal := final_of_triple hgrant hstart
    have hsame : (final (c.tokenRequest parameters m) (s.world browser, s.backend)).2 =
        final (grantFor (c.granting m) ⟨parameters, none⟩ clientId) s.backend := by
      have hanswer := final_bind_of_leaves (g := Prod.snd)
        (x := onBackend (grantFor (c.granting m) ⟨parameters, none⟩ clientId))
        (f := fun token => pure (some token)) (fun _ => leaves_pure _) (w', s.backend)
      rw [onBackend, final_focus] at hanswer
      refine Eq.trans ?_ hanswer
      simp only [final, Config.tokenRequest, hrun, onBackend]
    rw [hsame]
    exact hfinal

/-- A code for which the endpoint answers with a token is deleted, whatever else is stored. -/
theorem exchanged_of_answered {s : Site σ} {browser : ℕ} {parameters : Parameters} {m : Moment}
    (htype : parameters.get "grant_type" = some "authorization_code") {issuance : Issuance}
    {token : OAuth2AccessToken} {t : World × Backend InMemoryTokenStore}
    (h : c.tokenRequest parameters m (s.world browser, s.backend) =
      .ok (some (issuance, token)) t) :
    ∃ clientId row, ClientAuthentication.Verified c.filter ⟨parameters, none⟩ clientId ∧
      Exchanged (c.granting m) ⟨parameters, none⟩ clientId s.backend t.2 row issuance := by
  rcases @tokenRequest_cases _ c.filter (c.granting m) ⟨parameters, none⟩ rfl
    (s.world browser) s.backend with hrefused | ⟨clientId, w', hid, hverified, hrun⟩
  · exact absurd h (hrefused.1 _ t)
  · have hanswer := hrun.symm.trans h
    obtain ⟨granted, t', hfocus, hreturn⟩ := bind_eq_ok.mp hanswer
    cases hreturn
    obtain ⟨b', hgrant, rfl⟩ := focus_eq_ok.mp hfocus
    obtain ⟨row, hrow⟩ := @grantFor_code _ _ ⟨parameters, none⟩ _ hid htype _ _ _ _ hgrant
    exact ⟨clientId, row, hverified, hrow⟩

theorem traced_token (h : Traced c s₀ as (exec (step c) s₀ as)) (browser : ℕ) (parameters : Parameters) (m : Moment) :
    Traced c s₀ (as ++ [.token browser parameters m])
      (step c (exec (step c) s₀ as) (.token browser parameters m)) := by
  generalize hs : exec (step c) s₀ as = s at h
  have hboth := tokenRequest_traced (hs ▸ h) hs browser parameters m
  constructor
  · exact h.waiting
  · intro row hrow
    have hrow : row ∈ (final (c.tokenRequest parameters m)
        (s.world browser, s.backend)).2.codes.codes := hrow
    refine (h.codes row (hboth.1 row hrow)).append ?_
    rintro ⟨browser', parameters', m', ⟨issuance, token⟩, t, heq, htype, hcode, hanswer⟩
    cases heq
    rw [hs] at hanswer
    obtain ⟨clientId, sent, -, hexchanged⟩ := exchanged_of_answered htype hanswer
    rw [final_of_ok hanswer, hexchanged.gone] at hrow
    have hsame : row.code = sent.code :=
      Option.some.inj (hcode.symm.trans hexchanged.presented)
    exact of_decide_eq_true (List.mem_filter.mp hrow).2 hsame
  · exact hboth.2

/-- The step lemma of the run. -/
theorem traced_step (e : Event σ) (h : Traced c s₀ as (exec (step c) s₀ as)) :
    Traced c s₀ (as ++ [e]) (step c (exec (step c) s₀ as) e) := by
  have hcodes (hnone : ∀ code, ¬Exchanges c code (exec (step c) s₀ as) e) :
      ∀ row ∈ (exec (step c) s₀ as).backend.codes.codes, Outstanding c s₀ (as ++ [e]) row :=
    fun row hrow => (h.codes row hrow).append (hnone row.code)
  have htokens := h.tokens.mono fun a ha => ha.append e
  cases e with
  | authorize => exact traced_endpoint rfl h
  | approveOrDeny => exact traced_endpoint rfl h
  | token browser parameters m => exact traced_token h browser parameters m
  | loadAuthentication now value =>
    refine ⟨h.waiting, hcodes ?_, ?_⟩
    · rintro code ⟨_, _, _, _, _, heq, -⟩
      cases heq
    · have hload := @DefaultTokenServices.triple_loadAuthentication_stored
        (Granted c s₀ (as ++ [.loadAuthentication now value])) c.digest c.tokenServices now value
      exact final_of_triple (triple_mono hload (fun _ hs => hs) (fun _ _ hs => hs.1) fun _ hs => hs)
        htokens
  | revokeToken value =>
    refine ⟨h.waiting, hcodes ?_, ?_⟩
    · rintro code ⟨_, _, _, _, _, heq, -⟩
      cases heq
    · exact final_of_triple (DefaultTokenServices.triple_revokeToken_stored value) htokens
  | elsewhere browser world approvals keeps =>
    refine ⟨fun browser' => ?_, hcodes ?_, htokens⟩
    · cases keeps with
      | true => exact h.waiting browser'
      | false =>
        by_cases hsame : browser' = browser
        · subst hsame
          intro r hr
          simp [step] at hr
        · simpa [step, Function.update_of_ne hsame] using h.waiting browser'
    · rintro code ⟨_, _, _, _, _, heq, -⟩
      cases heq
  | wait seconds =>
    refine ⟨h.waiting, hcodes ?_, htokens⟩
    rintro code ⟨_, _, _, _, _, heq, -⟩
    cases heq

/-- No code, no token and no waiting request. -/
structure Site.Empty (s : Site σ) : Prop where
  pending : ∀ browser, s.pending browser = none
  codes : s.backend.codes.codes = []
  tokens : s.backend.tokens = {}

/-- The run lemma. -/
theorem traced_exec (h : s₀.Empty) (as : List (Event σ)) :
    Traced c s₀ as (exec (step c) s₀ as) := by
  refine exec_history ?_ (fun as e h => traced_step e h) as
  constructor
  · intro browser r hr
    rw [h.pending browser] at hr
    cases hr
  · intro row hrow
    rw [h.codes] at hrow
    cases hrow
  · rw [h.tokens]
    exact InMemoryTokenStore.stored_empty

end Runs

/-! ### The site of one client -/

def oneClientSite : Config Unit where
  endpoint :=
    { clients := TokenEndpoint.oneClient, resolveRedirect := fun uri _ => .ok uri
      handler := defaultUserApprovalHandler Unit
      createAccessToken := fun _ => .error nullPointer }
  keeps := keeps_default Unit
  filter := TokenEndpoint.oneClientConfig
  codeServices := .inMemory
  tokenServices := {}
  noManager := rfl
  digest := id

/-- alice is logged in in one of the browsers. -/
def aliceLoggedIn : Site Unit where
  database := ⟨KeyedTable.empty, [], [], []⟩
  sessions browser :=
    { id := toString browser
      currentAuthentication := if browser = 0 then
          some (.user (.token
            { principal := .basic { username := some "alice", authenticated := true }
              credentials := none, authorities := [], authenticated := true }))
        else none }
  approvals := ()

def drawnCode : String := "0f3c8a52-9d41-4b7e-8c60-2f1d5e9a7b34"

/-- alice approves the client's request. -/
def approval : List (Event Unit) :=
  [.authorize 0 [("response_type", "code"), ("client_id", "app"), ("scope", "read"),
      ("redirect_uri", "https://app.example/cb")] 1000 "",
    .approveOrDeny 0 [("user_oauth_approval", "true")] 2000 drawnCode, .wait 30]

/-- The client turns in its secret and a code. -/
def exchange : Parameters :=
  [("grant_type", "authorization_code"), ("client_id", "app"), ("client_secret", "s3cret"),
    ("code", drawnCode), ("redirect_uri", "https://app.example/cb")]

theorem aliceLoggedIn_empty : aliceLoggedIn.Empty := ⟨fun _ => rfl, rfl, rfl⟩

/-- A code that is exchanged for a token was sent for an approved request of the user whom the
token is for, to the redirect URI of the client that now turns in its secret; it has not been
exchanged since and has not expired. -/
theorem code_exchange_has_origin (c : Config σ) {s₀ : Site σ} (hempty : s₀.Empty)
    (as : List (Event σ)) (browser : ℕ) (parameters : Parameters) (m : Moment)
    (htype : parameters.get "grant_type" = some "authorization_code")
    {answer : Issuance × OAuth2AccessToken}
    (h : outcome (c.tokenRequest parameters m)
      ((exec (step c) s₀ as).world browser, (exec (step c) s₀ as).backend) = .ok (some answer)) :
    ∃ clientId row b', ClientAuthentication.Verified c.filter ⟨parameters, none⟩ clientId ∧
      Exchanged (c.granting m) ⟨parameters, none⟩ clientId (exec (step c) s₀ as).backend b' row
        answer.1 ∧ Outstanding c s₀ as row := by
  have htraced := traced_exec (c := c) hempty as
  generalize exec (step c) s₀ as = s at h htraced
  cases hrun : c.tokenRequest parameters m (s.world browser, s.backend) with
  | error e t =>
    rw [outcome_of_error hrun] at h
    cases h
  | ok found t =>
    rw [outcome_of_ok hrun] at h
    cases h
    obtain ⟨clientId, row, hverified, hexchanged⟩ := exchanged_of_answered htype hrun
    exact ⟨clientId, row, t.2, hverified, hexchanged, htraced.codes row hexchanged.stored⟩

/-- The client exchanges alice's code. -/
theorem alice_code_was_sent : ∃ clientId row,
    ClientAuthentication.Verified oneClientSite.filter ⟨exchange, none⟩ clientId ∧
      Outstanding oneClientSite aliceLoggedIn approval row := by
  have hanswered : (outcome (oneClientSite.tokenRequest exchange ⟨3000, "t", "r"⟩)
      ((exec (step oneClientSite) aliceLoggedIn approval).world 1,
        (exec (step oneClientSite) aliceLoggedIn approval).backend)).toOption.join.isSome = true := by
    decide +kernel
  cases h : outcome (oneClientSite.tokenRequest exchange ⟨3000, "t", "r"⟩)
      ((exec (step oneClientSite) aliceLoggedIn approval).world 1,
        (exec (step oneClientSite) aliceLoggedIn approval).backend) with
  | error e =>
    rw [h] at hanswered
    cases hanswered
  | ok found =>
    cases found with
    | none =>
      rw [h] at hanswered
      cases hanswered
    | some answer =>
      obtain ⟨clientId, row, -, hverified, -, hrow⟩ := code_exchange_has_origin oneClientSite
        aliceLoggedIn_empty approval 1 exchange ⟨3000, "t", "r"⟩ (by decide) h
      exact ⟨clientId, row, hverified, hrow⟩

/-- Whatever comes to the site, a token that its services accept is for a client that turned in
its secret, and speaks for no user or for one who approved a request of this client. -/
theorem accepted_token_was_granted (c : Config σ) {s₀ : Site σ} (hempty : s₀.Empty)
    (as : List (Event σ)) (now : ℕ) (value : String) {a : OAuth2Authentication}
    (h : (outcome (c.tokenServices.loadAuthentication c.digest now value)
      (exec (step c) s₀ as).backend.tokens).toOption = some a) : Granted c s₀ as a := by
  have htokens := (traced_exec (c := c) hempty as).tokens
  have hload := @DefaultTokenServices.triple_loadAuthentication_stored (Granted c s₀ as) c.digest
    c.tokenServices now value _ htokens
  unfold outcome at h
  cases hrun : c.tokenServices.loadAuthentication c.digest now value
      (exec (step c) s₀ as).backend.tokens with
  | error e t =>
    rw [hrun] at h
    cases h
  | ok found t =>
    rw [hrun] at h hload
    cases h
    exact hload.2

/-- The token that the client gets for the code speaks for alice. -/
theorem alice_token_was_granted : ∃ a : OAuth2Authentication,
    a.userAuthentication = some (.basic { username := some "alice", authenticated := true }) ∧
      Granted oneClientSite aliceLoggedIn (approval ++ [.token 1 exchange ⟨3000, "t", "r"⟩]) a := by
  have haccepted : (outcome (oneClientSite.tokenServices.loadAuthentication oneClientSite.digest 4000
        "t") (exec (step oneClientSite) aliceLoggedIn
          (approval ++ [.token 1 exchange ⟨3000, "t", "r"⟩])).backend.tokens).toOption.map
      OAuth2Authentication.userAuthentication =
        some (some (.basic { username := some "alice", authenticated := true })) := by
    decide +kernel
  obtain ⟨a, h, huser⟩ := Option.map_eq_some_iff.mp haccepted
  exact ⟨a, huser, accepted_token_was_granted oneClientSite aliceLoggedIn_empty _ 4000 "t" h⟩

end MaxKey.CodeFlows
