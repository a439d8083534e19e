import MaxKey.AuthorizationCodes
import MaxKey.AuthorizationEndpoint
import MaxKey.Runs

namespace MaxKey.CodeGrants
open OAuth2 JavaException Effects Runs TokenEndpoint
open AuthorizationCodes (CodeServices Shared StoredCode getOAuth2Authentication Admitted)
open ClientAuthentication (doFilter clientToken isPassword Verified)
open WebContext (setAuthentication)

/-- What is behind the token endpoint: the stored codes, and what the token services keep. -/
structure Backend (τ : Type) where
  codes : Shared := {}
  tokens : τ

/-- The services behind the endpoint, which change what they keep. -/
structure Granting (τ : Type) where
  clients : ClientDetailsService
  codeServices : CodeServices
  tokenServices : Issuance → EStateM JavaException τ OAuth2AccessToken

abbrev Grant (τ : Type) := EStateM JavaException (Backend τ)

variable {τ : Type}

def onCodes {α : Type} (x : EStateM JavaException Shared α) : Grant τ α :=
  focus Backend.codes (fun codes b => { b with codes := codes }) x

def onTokens {α : Type} (x : EStateM JavaException τ α) : Grant τ α :=
  focus Backend.tokens (fun tokens b => { b with tokens := tokens }) x

/-- consumeAuthorizationCode with both halves of remove. Only the table is not asked to delete
what it has not found. -/
def consumeAuthorizationCode (services : CodeServices) (code : String) :
    EStateM JavaException Shared OAuth2Authentication := do
  let found ← orError (services.get code (← get))
  onlyIf (services ≠ .jdbc ∨ found ≠ none) (modify (CodeServices.delete code))
  orError (CodeServices.consumed code found)

/-- The services as they answer at a moment. -/
def Granting.asOf (g : Granting τ) (b : Backend τ) : Services where
  clients := g.clients
  consumeAuthorizationCode code := outcome (consumeAuthorizationCode g.codeServices code) b.codes
  tokenServices issuance := outcome (g.tokenServices issuance) b.tokens

structure Granter (τ : Type) where
  grantType : String
  issuance : ClientDetails → TokenRequest → Grant τ Issuance
  returned : OAuth2AccessToken → OAuth2AccessToken := id

/-- A granter that consumes nothing. -/
def ofTokenGranter (granter : TokenGranter) : Granter τ where
  grantType := granter.grantType
  issuance client tokenRequest := orError (granter.issuance client tokenRequest)
  returned := granter.returned

/-- The code is gone before its authentication is checked against the request. -/
def codeGranter (g : Granting τ) : Granter τ where
  grantType := "authorization_code"
  issuance client tokenRequest := do
    let code ← orThrow (invalidRequest "An authorization code must be supplied.")
      (tokenRequest.requestParameters.get "code")
    let storedAuth ← onCodes (consumeAuthorizationCode g.codeServices code)
    orError (getOAuth2Authentication (g.asOf (← get)) storedAuth client tokenRequest)

def Granter.grant (granter : Granter τ) (g : Granting τ) (grantType : String)
    (tokenRequest : TokenRequest) : Grant τ (Option (Issuance × OAuth2AccessToken)) :=
  if granter.grantType ≠ grantType then return none
  else do
    let client ← orError (g.clients.loadClientByClientId tokenRequest.clientId)
    throwIf (client.authorizedGrantTypes ≠ [] ∧ grantType ∉ client.authorizedGrantTypes)
      (invalidClient ("Unauthorized grant type: " ++ grantType))
    let issuance ← granter.issuance client tokenRequest
    let token ← onTokens (g.tokenServices issuance)
    return some (issuance, granter.returned token)

def grantFirst (g : Granting τ) (grantType : String) (tokenRequest : TokenRequest) :
    List (Granter τ) → Grant τ (Option (Issuance × OAuth2AccessToken))
  | [] => return none
  | granter :: granters => do
    match ← granter.grant g grantType tokenRequest with
    | some token => return some token
    | none => grantFirst g grantType tokenRequest granters

def granters (g : Granting τ) (securityContext : Option Authentication) : List (Granter τ) :=
  [codeGranter g, ofTokenGranter refreshTokenGranter,
    ofTokenGranter (implicitTokenGranter securityContext),
    ofTokenGranter clientCredentialsTokenGranter]

/-- The checks that the endpoint makes before it asks a granter. -/
def checkedRequest (clients : ClientDetailsService) (parameters : Parameters) (clientId : String) :
    Except JavaException TokenRequest := do
  let authenticatedClient ← clients.loadClientByClientId (some clientId)
  let tokenRequest ← RequestFactory.createTokenRequest clients parameters authenticatedClient
  failIf (clientId ≠ "" ∧ some clientId ≠ tokenRequest.clientId)
    (invalidClient "Given client ID does not match authenticated client")
  validateScope tokenRequest.scope authenticatedClient.scope
  let grantType := tokenRequest.grantType.getD ""
  failIf (¬JavaText.hasText tokenRequest.grantType) (invalidRequest "Missing grant type")
  failIf (grantType = "implicit")
    (invalidGrant "Implicit grant type not supported from token endpoint")
  let code ← required nullPointer (parameters.get "code")
  failIf (¬uuidMatches code) (invalidRequest "The code is not valid format .")
  return { tokenRequest with scope := grantedScope parameters tokenRequest }

def grantFor (g : Granting τ) (request : ClientAuthentication.Request) (clientId : String) :
    Grant τ (Issuance × OAuth2AccessToken) := do
  let tokenRequest ← orError (checkedRequest g.clients request.parameters clientId)
  let grantType := tokenRequest.grantType.getD ""
  let token ← grantFirst g grantType tokenRequest (granters g request.securityContext)
  orThrow (unsupportedGrantType ("Unsupported grant type: " ++ grantType)) token

def onSession {α : Type} (x : Web α) : EStateM JavaException (World × Backend τ) α :=
  focus Prod.fst (fun w s => (w, s.2)) x

def onBackend {α : Type} (x : Grant τ α) : EStateM JavaException (World × Backend τ) α :=
  focus Prod.snd (fun b s => (s.1, b)) x

/-- The client that the filter has left in the session. -/
def sessionClient : Web String := do
  let authentication ← Realm.nonNull (← WebContext.getAuthentication)
  orError (getClientId authentication.getPrincipal)

/-- A request to the token endpoint, through its filter. -/
def tokenRequest (c : ClientAuthentication.Config) (g : Granting τ)
    (request : ClientAuthentication.Request) :
    EStateM JavaException (World × Backend τ) (Option (Issuance × OAuth2AccessToken)) := do
  if ← onSession (doFilter c request) then
    let clientId ← onSession sessionClient
    return some (← onBackend (grantFor g request clientId))
  else return none

section Agreement

variable {g : Granting τ} {request : ClientAuthentication.Request} {α β : Type}

theorem outcome_orError_bind {ε σ : Type} (r : Except ε α) (f : α → EStateM ε σ β) (s : σ) :
    outcome (orError r >>= f) s = r >>= fun a => outcome (f a) s := by
  cases r with
  | ok a => rfl
  | error e => rfl

theorem outcome_orThrow_bind {σ : Type} (e : JavaException) (o : Option α)
    (f : α → EStateM JavaException σ β) (s : σ) :
    outcome (orThrow e o >>= f) s = required e o >>= fun a => outcome (f a) s := by
  cases o with
  | some a => rfl
  | none => rfl

theorem outcome_throwIf_bind {ε σ : Type} (p : Prop) [Decidable p] (e : ε)
    (f : Unit → EStateM ε σ β) (s : σ) :
    outcome (throwIf p e >>= f) s = failIf p e >>= fun u => outcome (f u) s := by
  rw [← orError_failIf, outcome_orError_bind]

theorem issuance_of_consumed {s s' : Services} {storedAuth : OAuth2Authentication}
    {client : ClientDetails} {tokenRequest : TokenRequest} {code : String}
    (hcode : tokenRequest.requestParameters.get "code" = some code)
    (hconsume : s.consumeAuthorizationCode code = .ok storedAuth) :
    (authorizationCodeGranter s).issuance client tokenRequest =
      getOAuth2Authentication s' storedAuth client tokenRequest := by
  simp only [getOAuth2Authentication, AuthorizationCodes.pending, authorizationCodeGranter, hcode,
    required, bind, Except.bind, hconsume]

/-- The granter answers what it would answer with the code as it was found. -/
theorem outcome_codeGranter (client : ClientDetails) (tokenRequest : TokenRequest)
    (b : Backend τ) : outcome ((codeGranter g).issuance client tokenRequest) b =
      (authorizationCodeGranter (g.asOf b)).issuance client tokenRequest := by
  have hstart := outcome_orThrow_bind (invalidRequest "An authorization code must be supplied.")
    (tokenRequest.requestParameters.get "code") (fun code => do
      let storedAuth ← onCodes (consumeAuthorizationCode g.codeServices code)
      orError (getOAuth2Authentication (g.asOf (← get)) storedAuth client tokenRequest)) b
  refine hstart.trans ?_
  cases hcode : tokenRequest.requestParameters.get "code" with
  | none =>
    simp only [authorizationCodeGranter, hcode]
    rfl
  | some code =>
    have hfocus : outcome (onCodes (consumeAuthorizationCode g.codeServices code)) b =
        (g.asOf b).consumeAuthorizationCode code := outcome_focus _ b
    cases hconsume : onCodes (consumeAuthorizationCode g.codeServices code) b with
    | error e t =>
      rw [outcome_of_error hconsume] at hfocus
      simp only [authorizationCodeGranter, hcode, required, bind, Except.bind, ← hfocus]
      exact outcome_of_error (bind_of_error hconsume)
    | ok storedAuth t =>
      rw [outcome_of_ok hconsume] at hfocus
      rw [@issuance_of_consumed _ (g.asOf t) _ _ _ _ hcode hfocus.symm]
      exact (outcome_bind_of_ok hconsume _).trans (outcome_orError _ t)

/-- At a moment the granter answers as the plain one does, without touching the tokens. -/
structure Agrees (b : Backend τ) (granter : Granter τ) (plain : TokenGranter) : Prop where
  grantType : granter.grantType = plain.grantType
  returned : granter.returned = plain.returned
  issuance : ∀ client tokenRequest,
    outcome (granter.issuance client tokenRequest) b = plain.issuance client tokenRequest
  tokens : ∀ client tokenRequest, Leaves Backend.tokens (granter.issuance client tokenRequest)

theorem agrees_ofTokenGranter (b : Backend τ) (plain : TokenGranter) :
    Agrees b (ofTokenGranter plain) plain where
  grantType := rfl
  returned := rfl
  issuance _ _ := outcome_orError _ b
  tokens _ _ := leaves_orError _

theorem agrees_codeGranter (b : Backend τ) :
    Agrees b (codeGranter g) (authorizationCodeGranter (g.asOf b)) where
  grantType := rfl
  returned := rfl
  issuance client tokenRequest := outcome_codeGranter client tokenRequest b
  tokens client tokenRequest := by
    refine leaves_bind (leaves_orThrow _ _) fun code => leaves_bind (fun s => ?_) fun _ =>
      leaves_bind leaves_get fun _ => leaves_orError _
    rw [onCodes, final_focus]

theorem agrees_granters (b : Backend τ) (securityContext : Option Authentication) :
    List.Forall₂ (Agrees b) (granters g securityContext)
      (TokenEndpoint.granters (g.asOf b) securityContext) :=
  .cons (agrees_codeGranter b) (.cons (agrees_ofTokenGranter b _)
    (.cons (agrees_ofTokenGranter b _) (.cons (agrees_ofTokenGranter b _) .nil)))

theorem outcome_grant {granter : Granter τ} {plain : TokenGranter} {b : Backend τ}
    (h : Agrees b granter plain) (grantType : String) (tokenRequest : TokenRequest) :
    outcome (granter.grant g grantType tokenRequest) b =
      plain.grant (g.asOf b) grantType tokenRequest := by
  unfold Granter.grant TokenGranter.grant
  rw [h.grantType]
  split_ifs with htype
  · rfl
  · rw [outcome_orError_bind]
    refine congrArg _ (funext fun client => ?_)
    rw [outcome_throwIf_bind]
    refine congrArg _ (funext fun _ => ?_)
    have hissuance := h.issuance client tokenRequest
    have htokens := h.tokens client tokenRequest b
    cases hrun : granter.issuance client tokenRequest b with
    | error e t =>
      rw [outcome_of_error hrun] at hissuance
      rw [outcome_of_error (bind_of_error hrun), ← hissuance]
      rfl
    | ok issuance t =>
      rw [outcome_of_ok hrun] at hissuance
      rw [final_of_ok hrun] at htokens
      rw [outcome_bind_of_ok hrun, ← hissuance, ← h.returned]
      refine (outcome_map _ _ t).trans ?_
      rw [onTokens, outcome_focus, htokens]
      rfl

/-- A granter of another grant type changes nothing. -/
theorem grant_eq_none {granter : Granter τ} {grantType : String} {tokenRequest : TokenRequest}
    {b b' : Backend τ} (h : granter.grant g grantType tokenRequest b = .ok none b') : b' = b := by
  unfold Granter.grant at h
  split_ifs at h with htype
  · cases h
    rfl
  · obtain ⟨_, _, -, h⟩ := bind_eq_ok.mp h
    obtain ⟨_, _, -, h⟩ := bind_eq_ok.mp h
    obtain ⟨_, _, -, h⟩ := bind_eq_ok.mp h
    obtain ⟨_, _, -, h⟩ := bind_eq_ok.mp h
    cases h

theorem outcome_grantFirst {b : Backend τ} {gs : List (Granter τ)} {plain : List TokenGranter}
    (h : List.Forall₂ (Agrees b) gs plain) (grantType : String) (tokenRequest : TokenRequest) :
    outcome (grantFirst g grantType tokenRequest gs) b =
      TokenEndpoint.grantFirst (g.asOf b) grantType tokenRequest plain := by
  induction h with
  | nil => rfl
  | @cons granter plain gs plains hagrees _ ih =>
    have hgrant := outcome_grant (g := g) hagrees grantType tokenRequest
    rw [grantFirst, TokenEndpoint.grantFirst, ← hgrant]
    cases hrun : granter.grant g grantType tokenRequest b with
    | error e t => rw [outcome_of_error (bind_of_error hrun), outcome_of_error hrun]; rfl
    | ok granted t =>
      rw [outcome_bind_of_ok hrun, outcome_of_ok hrun]
      cases granted with
      | some token => rfl
      | none =>
        rw [grant_eq_none hrun]
        exact ih

theorem grantFor_eq (s : Services) (request : ClientAuthentication.Request) (clientId : String) :
    TokenEndpoint.grantFor s request clientId =
      (checkedRequest s.clients request.parameters clientId >>= fun tokenRequest => do
        let token ← TokenEndpoint.grantFirst s (tokenRequest.grantType.getD "") tokenRequest
          (TokenEndpoint.granters s request.securityContext)
        required (unsupportedGrantType
          ("Unsupported grant type: " ++ tokenRequest.grantType.getD "")) token) := by
  unfold checkedRequest
  simp only [bind_assoc, pure_bind]
  -- step by step the same, up to the granters
  iterate 9 refine congrArg _ (funext fun _ => ?_)
  rename_i token
  cases token with
  | some token => rfl
  | none => rfl

theorem outcome_grantFor (request : ClientAuthentication.Request) (clientId : String)
    (b : Backend τ) : outcome (grantFor g request clientId) b =
      TokenEndpoint.grantFor (g.asOf b) request clientId := by
  rw [grantFor_eq, grantFor, outcome_orError_bind]
  refine congrArg _ (funext fun tokenRequest => ?_)
  have hfirst := outcome_grantFirst (g := g) (agrees_granters (g := g) b request.securityContext)
    (tokenRequest.grantType.getD "") tokenRequest
  rw [← hfirst]
  cases hrun : grantFirst g (tokenRequest.grantType.getD "") tokenRequest
      (granters g request.securityContext) b with
  | error e t =>
    rw [outcome_of_error hrun]
    exact outcome_of_error (bind_of_error hrun)
  | ok granted t =>
    rw [outcome_of_ok hrun]
    refine (outcome_bind_of_ok hrun _).trans ?_
    cases granted with
    | some token => rfl
    | none => rfl

end Agreement

section Invariants

variable {g : Granting τ} {request : ClientAuthentication.Request} {clientId : String}
  {C : Shared → Prop} {I : τ → Prop}

/-- What holds of the codes and of the tokens. -/
def Both (C : Shared → Prop) (I : τ → Prop) (b : Backend τ) : Prop := C b.codes ∧ I b.tokens

theorem triple_onCodes {α : Type} {x : EStateM JavaException Shared α} {P : α → Prop}
    (hx : Triple C x (fun a s => C s ∧ P a) C) :
    Triple (Both C I) (onCodes x) (fun a b => Both C I b ∧ P a) (Both C I) := by
  intro b hb
  have h := hx b.codes hb.1
  unfold onCodes focus
  cases hrun : x b.codes with
  | ok a s =>
    rw [hrun] at h
    exact ⟨⟨h.1, hb.2⟩, h.2⟩
  | error e s =>
    rw [hrun] at h
    exact ⟨h, hb.2⟩

theorem triple_onTokens {α : Type} {x : EStateM JavaException τ α}
    (hx : Triple I x (fun _ => I) I) :
    Triple (Both C I) (onTokens x) (fun _ => Both C I) (Both C I) := by
  intro b hb
  have h := hx b.tokens hb.2
  unfold onTokens focus
  cases hrun : x b.tokens with
  | ok a s =>
    rw [hrun] at h
    exact ⟨hb.1, h⟩
  | error e s =>
    rw [hrun] at h
    exact ⟨hb.1, h⟩

/-- The authentication of a code with other parameters. -/
def Continues (stored a : OAuth2Authentication) : Prop :=
  ∃ parameters, a = ⟨{ stored.oAuth2Request with requestParameters := parameters },
    stored.userAuthentication⟩

/-- What may be granted to a client: what its codes stand for, and its own doing. -/
structure Grants (R : StoredCode → Prop) (Q : OAuth2Authentication → Prop) (clientId : String) :
    Prop where
  continued : ∀ row a, R row → row.authentication.oAuth2Request.clientId = some clientId →
    Continues row.authentication a → Q a
  own : ∀ a, a.userAuthentication = none → a.oAuth2Request.clientId = some clientId → Q a

/-- An issuance of what may be granted. -/
def Issuance.Of (Q : OAuth2Authentication → Prop) : Issuance → Prop
  | .create a => Q a
  | .refresh _ _ => True

/-- What holds of every stored code. -/
def Rows (R : StoredCode → Prop) (s : Shared) : Prop := ∀ row ∈ s.codes, R row

variable {R : StoredCode → Prop} {Q : OAuth2Authentication → Prop} {services : CodeServices} {code : String}
  {client : ClientDetails} {tokenRequest : TokenRequest}

theorem get_eq_ok {s : Shared} {a : OAuth2Authentication}
    (h : services.get code s = .ok (some a)) : ∃ row ∈ s.codes, row.code = code ∧
      row.expires.all (s.now < ·) ∧ row.authentication = a := by
  unfold CodeServices.get at h
  split at h
  · cases h
  · cases h
  · rename_i row rest _ hfound
    have hrow : row ∈ s.codes.filter fun row => row.code = code ∧ row.expires.all (s.now < ·) := by
      rw [hfound]
      exact List.mem_cons_self
    obtain ⟨hmem, hlive⟩ := List.mem_filter.mp hrow
    have hlive := of_decide_eq_true hlive
    exact ⟨row, hmem, hlive.1, hlive.2, Option.some.inj (Except.ok.inj h)⟩

/-- A code that is turned in is stored, has not expired and is gone afterwards. -/
theorem consume_eq_ok {s t : Shared} {a : OAuth2Authentication}
    (h : consumeAuthorizationCode services code s = .ok a t) :
    (∃ row ∈ s.codes, row.code = code ∧ row.expires.all (s.now < ·) ∧ row.authentication = a) ∧
      t = CodeServices.delete code s := by
  have hrun : consumeAuthorizationCode services code s = (orError (services.get code s) >>=
      fun found => do
        onlyIf (services ≠ .jdbc ∨ found ≠ none) (modify (CodeServices.delete code))
        orError (CodeServices.consumed code found)) s := bind_of_ok (get_apply s)
  rw [hrun] at h
  cases hfound : services.get code s with
  | error e =>
    rw [hfound] at h
    cases h
  | ok found =>
    rw [hfound, orError_ok_bind] at h
    cases found with
    | none =>
      obtain ⟨_, _, -, h⟩ := bind_eq_ok.mp h
      cases h
    | some stored =>
      have hdelete : onlyIf (services ≠ .jdbc ∨ some stored ≠ none)
          (modify (CodeServices.delete code)) =
            (modify (CodeServices.delete code) : EStateM JavaException Shared Unit) :=
        if_pos (.inr (by simp))
      rw [hdelete] at h
      cases h
      exact ⟨get_eq_ok hfound, rfl⟩

theorem rows_delete {s : Shared} (h : Rows R s) : Rows R (CodeServices.delete code s) :=
  fun row hrow => h row (List.mem_of_mem_filter hrow)

theorem triple_consume :
    Triple (Rows R) (consumeAuthorizationCode services code)
      (fun a s => Rows R s ∧ ∃ row, R row ∧ row.authentication = a) (Rows R) := by
  refine triple_bind (M := fun t s => t = s ∧ Rows R s) (triple_get fun s hs => ⟨rfl, hs⟩)
    fun s => ?_
  let found (o : Option OAuth2Authentication) (s : Shared) : Prop :=
    Rows R s ∧ ∀ a ∈ o, ∃ row, R row ∧ row.authentication = a
  refine triple_bind (M := found) ?_ fun o => ?_
  · refine triple_orError (fun o ho t ht => ⟨ht.2, fun a ha => ?_⟩) fun t ht => ht.2
    rw [Option.mem_def.mp ha] at ho
    obtain ⟨row, hrow, -, -, hsame⟩ := get_eq_ok ho
    exact ⟨row, ht.2 row (ht.1 ▸ hrow), hsame⟩
  · refine triple_bind (M := fun _ => found o) ?_ fun _ => ?_
    · exact triple_onlyIf (fun _ => triple_modify fun s hs => ⟨rows_delete hs.1, hs.2⟩)
        fun _ s hs => hs
    · refine triple_orError (fun a ha s hs => ⟨hs.1, ?_⟩) fun s hs => hs.1
      cases o with
      | none => cases ha
      | some stored =>
        cases ha
        exact hs.2 a rfl

/-- What the granter hands on of a code: its authentication, for its own client. -/
theorem issuance_eq_ok {s : Services} {storedAuth : OAuth2Authentication} {issuance : Issuance}
    (h : getOAuth2Authentication s storedAuth client tokenRequest = .ok issuance) :
    ∃ a, issuance = .create a ∧ Continues storedAuth a := by
  obtain ⟨code, -, h⟩ := except_bind_eq_ok.mp h
  obtain ⟨stored, hstored, h⟩ := except_bind_eq_ok.mp h
  have hpending : storedAuth = stored := Except.ok.inj hstored
  rw [← hpending] at h
  obtain ⟨_, -, h⟩ := except_bind_eq_ok.mp h
  obtain ⟨_, -, h⟩ := except_bind_eq_ok.mp h
  obtain ⟨_, -, h⟩ := except_bind_eq_ok.mp h
  obtain ⟨_, -, h⟩ := except_bind_eq_ok.mp h
  exact ⟨_, (Except.ok.inj h).symm, _, rfl⟩

/-- Asked for the client's own request, the granter issues only what may be granted. -/
def Within (R : StoredCode → Prop) (Q : OAuth2Authentication → Prop) (I : τ → Prop)
    (clientId : String) (granter : Granter τ) : Prop := ∀ (client : ClientDetails) (tokenRequest : TokenRequest),
  some client.clientId = tokenRequest.clientId → tokenRequest.clientId = some clientId →
    Triple (Both (Rows R) I) (granter.issuance client tokenRequest)
      (fun issuance b => Both (Rows R) I b ∧ Issuance.Of Q issuance) (Both (Rows R) I)

theorem within_codeGranter (hQ : Grants R Q clientId) : Within R Q I clientId (codeGranter g) := by
  intro client tokenRequest _ hclient
  refine triple_bind (M := fun _ => Both (Rows R) I)
    (triple_orThrow (fun _ _ _ hb => hb) fun _ _ hb => hb) fun code => ?_
  refine triple_bind (triple_onCodes triple_consume) fun storedAuth => ?_
  refine triple_bind (M := fun _ b => Both (Rows R) I b ∧ ∃ row, R row ∧
    row.authentication = storedAuth) (triple_get fun _ hb => hb) fun b => ?_
  refine triple_orError (fun issuance hissuance _ hb => ⟨hb.1, ?_⟩) fun _ hb => hb.1
  have hadmitted := AuthorizationCodes.admitted_of_granted hissuance
  obtain ⟨a, rfl, ha⟩ := issuance_eq_ok hissuance
  obtain ⟨row, hrow, rfl⟩ := hb.2
  exact hQ.continued row a hrow (hadmitted.clientId clientId hclient) ha

theorem within_ofTokenGranter {plain : TokenGranter}
    (h : ∀ client tokenRequest issuance, some client.clientId = tokenRequest.clientId →
      tokenRequest.clientId = some clientId → plain.issuance client tokenRequest = .ok issuance →
        Issuance.Of Q issuance) : Within R Q I clientId (ofTokenGranter plain) := by
  intro client tokenRequest hsame hclient
  refine triple_orError (fun issuance hissuance _ hb => ⟨hb, ?_⟩) fun _ hb => hb
  exact h client tokenRequest issuance hsame hclient hissuance

theorem within_granters (hQ : Grants R Q clientId) (securityContext : Option Authentication) :
    ∀ granter ∈ granters g securityContext, Within R Q I clientId granter := by
  intro granter hgranter
  simp only [granters, List.mem_cons, List.not_mem_nil, or_false] at hgranter
  rcases hgranter with rfl | rfl | rfl | rfl
  · exact within_codeGranter hQ
  · refine within_ofTokenGranter fun _ _ issuance _ _ h => ?_
    rw [← Except.ok.inj h]
    trivial
  · refine within_ofTokenGranter fun _ _ issuance _ _ h => ?_
    unfold implicitTokenGranter at h
    split_ifs at h
  · refine within_ofTokenGranter fun client tokenRequest issuance hsame hclient h => ?_
    rw [← Except.ok.inj h]
    exact hQ.own _ rfl (hsame.trans hclient)

/-- Calls of the token services that issue only what may be granted keep the invariant. -/
def Issues (g : Granting τ) (Q : OAuth2Authentication → Prop) (I : τ → Prop) : Prop :=
  ∀ issuance, Issuance.Of Q issuance → Triple I (g.tokenServices issuance) (fun _ => I) I

/-- The client of a request is the one that the services know by its id. -/
def Known (clients : ClientDetailsService) (tokenRequest : TokenRequest) : Prop :=
  ∀ client, clients.loadClientByClientId tokenRequest.clientId = .ok client →
    some client.clientId = tokenRequest.clientId

theorem triple_grant {granter : Granter τ} (h : Within R Q I clientId granter)
    (hissues : Issues g Q I) (grantType : String) (hknown : Known g.clients tokenRequest)
    (hclient : tokenRequest.clientId = some clientId) :
    Triple (Both (Rows R) I) (granter.grant g grantType tokenRequest)
      (fun _ => Both (Rows R) I) (Both (Rows R) I) := by
  unfold Granter.grant
  split_ifs
  · exact triple_pure fun _ hb => hb
  · refine triple_bind (M := fun client b => Both (Rows R) I b ∧
        some client.clientId = tokenRequest.clientId) ?_ fun client => ?_
    · exact triple_orError (fun client hload _ hb => ⟨hb, hknown client hload⟩) fun _ hb => hb
    refine triple_bind (M := fun _ b => Both (Rows R) I b ∧
        some client.clientId = tokenRequest.clientId) ?_ fun _ => ?_
    · exact triple_onlyIf (x := throw _) (fun _ => triple_throw fun _ hb => hb.1) fun _ _ hb => hb
    intro b hb
    have hissuance := h client tokenRequest hb.2 hclient
    refine triple_bind hissuance (fun issuance => ?_) b hb.1
    refine triple_bind (M := fun _ => Both (Rows R) I) (fun b hb => ?_) fun _ =>
      triple_pure fun _ hb => hb
    exact triple_onTokens (hissues issuance hb.2) b hb.1

/-- The induction is on the granters; one of another grant type leaves things as they are. -/
theorem triple_grantFirst {gs : List (Granter τ)} (h : ∀ granter ∈ gs, Within R Q I clientId granter)
    (hissues : Issues g Q I) (grantType : String) (hknown : Known g.clients tokenRequest)
    (hclient : tokenRequest.clientId = some clientId) :
    Triple (Both (Rows R) I) (grantFirst g grantType tokenRequest gs)
      (fun _ => Both (Rows R) I) (Both (Rows R) I) := by
  induction gs with
  | nil => exact triple_pure fun _ hb => hb
  | cons granter gs ih =>
    have hfirst := triple_grant (h granter List.mem_cons_self) hissues grantType hknown hclient
    refine triple_bind hfirst fun granted => ?_
    cases granted with
    | some token => exact triple_pure fun _ hb => hb
    | none => exact ih fun granter hmem => h granter (List.mem_cons_of_mem _ hmem)

theorem checkedRequest_eq_ok {clients : ClientDetailsService} {parameters : Parameters}
    (h : checkedRequest clients parameters clientId = .ok tokenRequest) :
    ∃ client scopes, clients.loadClientByClientId (some clientId) = .ok client ∧
      RequestFactory.createTokenRequest clients parameters client =
        .ok { tokenRequest with scope := scopes } ∧
      ¬(clientId ≠ "" ∧ some clientId ≠ tokenRequest.clientId) := by
  obtain ⟨client, hload, h⟩ := except_bind_eq_ok.mp h
  obtain ⟨created, hcreate, h⟩ := except_bind_eq_ok.mp h
  obtain ⟨_, hmatch, h⟩ := except_bind_eq_ok.mp h
  obtain ⟨_, -, h⟩ := except_bind_eq_ok.mp h
  obtain ⟨_, -, h⟩ := except_bind_eq_ok.mp h
  obtain ⟨_, -, h⟩ := except_bind_eq_ok.mp h
  obtain ⟨_, -, h⟩ := except_bind_eq_ok.mp h
  obtain ⟨_, -, h⟩ := except_bind_eq_ok.mp h
  rw [← Except.ok.inj h]
  exact ⟨client, created.scope, hload, hcreate, failIf_eq_ok.mp hmatch⟩

theorem checkedRequest_client {clients : ClientDetailsService} {parameters : Parameters}
    (hid : clientId ≠ "") (h : checkedRequest clients parameters clientId = .ok tokenRequest) :
    tokenRequest.clientId = some clientId ∧ Known clients tokenRequest ∧
      tokenRequest.requestParameters = parameters ∧
      tokenRequest.grantType = parameters.get "grant_type" := by
  obtain ⟨client, scopes, hload, hcreate, hmatch⟩ := checkedRequest_eq_ok h
  have hclient : tokenRequest.clientId = some clientId := by
    by_contra hne
    exact hmatch ⟨hid, fun h => hne h.symm⟩
  have hcreated := RequestFactory.createTokenRequest_eq_ok hcreate
  refine ⟨hclient, fun client' hload' => ?_, (RequestFactory.createTokenRequest_scope hcreate).1,
    hcreated.2⟩
  rw [hclient, hload] at hload'
  rw [← Except.ok.inj hload']
  exact hcreated.1.symm

/-- Whatever comes of a request, only what may be granted is stored. -/
theorem triple_grantFor (hid : clientId ≠ "") (hQ : Grants R Q clientId) (hissues : Issues g Q I)
    (request : ClientAuthentication.Request) :
    Triple (Both (Rows R) I) (grantFor g request clientId)
      (fun _ => Both (Rows R) I) (Both (Rows R) I) := by
  refine triple_bind (M := fun tokenRequest b => Both (Rows R) I b ∧
      tokenRequest.clientId = some clientId ∧ Known g.clients tokenRequest)
    ?_ fun tokenRequest => ?_
  · refine triple_orError (fun tokenRequest hchecked _ hb => ?_) fun _ hb => hb
    obtain ⟨hclient, hknown, -⟩ := checkedRequest_client hid hchecked
    exact ⟨hb, hclient, hknown⟩
  · intro b hb
    have hgranters := within_granters (g := g) (I := I) hQ request.securityContext
    refine triple_bind (triple_grantFirst hgranters hissues _ hb.2.2 hb.2.1) (fun token => ?_) b hb.1
    exact triple_orThrow (fun _ _ _ hb => hb) fun _ _ hb => hb

/-- What has come of a code for which the endpoint answers with a token. -/
structure Exchanged (g : Granting τ) (request : ClientAuthentication.Request) (clientId : String)
    (b b' : Backend τ) (row : StoredCode) (issuance : Issuance) : Prop where
  presented : request.parameters.get "code" = some row.code
  stored : row ∈ b.codes.codes
  live : row.expires.all (b.codes.now < ·) = true
  gone : b'.codes = CodeServices.delete row.code b.codes
  continued : ∃ a, issuance = .create a ∧ Continues row.authentication a
  issuedFor : row.authentication.oAuth2Request.clientId = some clientId
  redirectUri : ∃ client tokenRequest, g.clients.loadClientByClientId (some clientId) = .ok client ∧
    tokenRequest.requestParameters = request.parameters ∧
    Admitted row.authentication.oAuth2Request client tokenRequest

theorem grantFirst_code {grantType : String} (htype : grantType = "authorization_code")
    {securityContext : Option Authentication} {b b' : Backend τ}
    {issuance : Issuance} {token : OAuth2AccessToken}
    (h : grantFirst g grantType tokenRequest (granters g securityContext) b =
      .ok (some (issuance, token)) b') :
    ∃ client b₁, g.clients.loadClientByClientId tokenRequest.clientId = .ok client ∧
      (codeGranter g).issuance client tokenRequest b = .ok issuance b₁ ∧ b'.codes = b₁.codes := by
  subst htype
  obtain ⟨granted, b₂, hgrant, h⟩ := bind_eq_ok.mp h
  have hbranch : (codeGranter g).grant g "authorization_code" tokenRequest = _ :=
    if_neg (not_not.mpr rfl)
  rw [hbranch] at hgrant
  obtain ⟨client, b₃, hclient, hgrant⟩ := bind_eq_ok.mp hgrant
  obtain ⟨_, b₄, hthrow, hgrant⟩ := bind_eq_ok.mp hgrant
  obtain ⟨issuance', b₅, hissuance, hgrant⟩ := bind_eq_ok.mp hgrant
  obtain ⟨created, b₆, htokens, hgrant⟩ := bind_eq_ok.mp hgrant
  cases hgrant
  cases h
  obtain ⟨hload, rfl⟩ := orError_eq_ok.mp hclient
  obtain ⟨-, rfl⟩ := throwIf_eq_ok.mp hthrow
  obtain ⟨tokens, -, rfl⟩ := focus_eq_ok.mp htokens
  exact ⟨client, b₅, hload, hissuance, rfl⟩

theorem grantFor_code (hid : clientId ≠ "") (htype : request.parameters.get "grant_type" =
      some "authorization_code") {b b' : Backend τ} {issuance : Issuance} {token : OAuth2AccessToken}
    (h : grantFor g request clientId b = .ok (issuance, token) b') :
    ∃ row, Exchanged g request clientId b b' row issuance := by
  obtain ⟨tokenRequest, b₁, hrequest, h⟩ := bind_eq_ok.mp h
  obtain ⟨hchecked, rfl⟩ := orError_eq_ok.mp hrequest
  obtain ⟨hclient, -, hparameters, hgrantType⟩ := checkedRequest_client hid hchecked
  obtain ⟨granted, b₂, hgrant, hanswer⟩ := bind_eq_ok.mp h
  obtain ⟨hgranted, rfl⟩ := orThrow_eq_ok.mp hanswer
  rw [hgranted] at hgrant
  have hcode : tokenRequest.grantType.getD "" = "authorization_code" := by
    rw [hgrantType, htype]
    rfl
  obtain ⟨client, b₃, hload, hissuance, hcodes⟩ := grantFirst_code hcode hgrant
  obtain ⟨code, b₄, hcode, hissuance⟩ := bind_eq_ok.mp hissuance
  obtain ⟨hsupplied, rfl⟩ := orThrow_eq_ok.mp hcode
  obtain ⟨storedAuth, b₅, hfocus, hissuance⟩ := bind_eq_ok.mp hissuance
  obtain ⟨codes, hconsume, rfl⟩ := focus_eq_ok.mp hfocus
  obtain ⟨_, b₆, hget, hchecks⟩ := bind_eq_ok.mp hissuance
  cases hget
  obtain ⟨hissued, rfl⟩ := orError_eq_ok.mp hchecks
  obtain ⟨⟨row, hrow, rfl, hlive, rfl⟩, rfl⟩ := consume_eq_ok hconsume
  have hadmitted := AuthorizationCodes.admitted_of_granted hissued
  refine ⟨row, hparameters ▸ hsupplied, hrow, hlive, hcodes, issuance_eq_ok hissued, ?_, ?_⟩
  · exact hadmitted.clientId clientId hclient
  · exact ⟨client, tokenRequest, hclient ▸ hload, hparameters, hadmitted⟩

end Invariants

section Requests

variable {c : ClientAuthentication.Config} {g : Granting τ} {request : ClientAuthentication.Request}
  {w : World} {b : Backend τ}

/-- No granter is there for a password request, which therefore changes nothing. -/
theorem grantFor_isPassword (h : isPassword request) (clientId : String)
    (b : Backend τ) : ∃ e, grantFor g request clientId b = .error e b := by
  unfold grantFor
  cases hchecked : checkedRequest g.clients request.parameters clientId with
  | error e => exact ⟨e, rfl⟩
  | ok tokenRequest =>
    obtain ⟨_, _, -, hcreate, -⟩ := checkedRequest_eq_ok hchecked
    have htype : tokenRequest.grantType.getD "" = "password" := by
      have hcreated : tokenRequest.grantType = request.parameters.get "grant_type" :=
        (RequestFactory.createTokenRequest_eq_ok hcreate).2
      rw [hcreated, of_decide_eq_true h]
      rfl
    refine ⟨unsupportedGrantType ("Unsupported grant type: " ++ "password"), ?_⟩
    refine (bind_of_ok (a := tokenRequest) (t := b) rfl).trans ?_
    rw [htype]
    exact bind_of_ok (a := none) (t := b) rfl

/-- The request comes to an end without a token, and what is behind the endpoint stays as it is. -/
def Refused (c : ClientAuthentication.Config) (g : Granting τ)
    (request : ClientAuthentication.Request) (w : World) (b : Backend τ) : Prop :=
  (∀ token s, tokenRequest c g request (w, b) ≠ .ok (some token) s) ∧
    (final (tokenRequest c g request) (w, b)).2 = b

theorem refused_of_error {s : World × Backend τ} {e : JavaException}
    (h : tokenRequest c g request (w, b) = .error e s) (hs : s.2 = b) : Refused c g request w b := by
  refine ⟨fun token t ht => ?_, by rw [final_of_error h, hs]⟩
  rw [h] at ht
  cases ht

theorem refused_of_filtered {w' : World} (h : doFilter c request w = .ok false w') :
    Refused c g request w b := by
  have hsession : onSession (doFilter c request) (w, b) = .ok false (w', b) := focus_of_ok h
  have hrun : tokenRequest c g request (w, b) = .ok none (w', b) := bind_of_ok hsession
  refine ⟨fun token s hs => ?_, by rw [final_of_ok hrun]⟩
  rw [hrun] at hs
  cases hs

theorem refused_of_thrown {w' : World} {e : JavaException}
    (h : doFilter c request w = .error e w') : Refused c g request w b :=
  refused_of_error (bind_of_error (focus_of_error h)) rfl

theorem tokenRequest_of_filter {w' : World} (h : doFilter c request w = .ok true w') :
    tokenRequest c g request (w, b) = (do
      let clientId ← onSession sessionClient
      return some (← onBackend (grantFor g request clientId))) (w', b) := by
  have hsession : onSession (doFilter c request) (w, b) = .ok true (w', b) := focus_of_ok h
  exact bind_of_ok hsession

/-- The client of the session is read, or the endpoint fails on what stands there. -/
theorem sessionClient_apply (w : World) : ∃ r, sessionClient w = orError r w ∧
    ∀ s : Services, postAccessToken s request w = orError (r >>= TokenEndpoint.grantFor s request) w := by
  have hget : WebContext.getAuthentication w = .ok w.session.currentAuthentication w := rfl
  cases hsession : w.session.currentAuthentication with
  | none =>
    rw [hsession] at hget
    have hthrow : (Realm.nonNull none : Web Authentication) w = .error nullPointer w := rfl
    refine ⟨.error nullPointer, (bind_of_ok hget).trans (bind_of_error hthrow), fun s => ?_⟩
    exact (bind_of_ok hget).trans (bind_of_error hthrow)
  | some authentication =>
    rw [hsession] at hget
    exact ⟨getClientId authentication.getPrincipal, bind_of_ok hget, fun s => bind_of_ok hget⟩

/-- Over stores that change, the endpoint answers a request as it does over services that answer
as the stores stand when the request comes. -/
theorem outcome_tokenRequest (c : ClientAuthentication.Config) (g : Granting τ)
    (request : ClientAuthentication.Request) (w : World) (b : Backend τ) :
    outcome (tokenRequest c g request) (w, b) =
      outcome (TokenEndpoint.tokenRequest c (g.asOf b) request) w := by
  cases hfilter : doFilter c request w with
  | error e w' =>
    have hsession : onSession (doFilter c request) (w, b) = .error e (w', b) := focus_of_error hfilter
    have hrun : tokenRequest c g request (w, b) = .error e (w', b) := bind_of_error hsession
    have hplain : TokenEndpoint.tokenRequest c (g.asOf b) request w = .error e w' :=
      bind_of_error hfilter
    rw [outcome_of_error hrun, outcome_of_error hplain]
  | ok passed w' =>
    cases passed with
    | false =>
      have hsession : onSession (doFilter c request) (w, b) = .ok false (w', b) :=
        focus_of_ok hfilter
      have hrun : tokenRequest c g request (w, b) = .ok none (w', b) := bind_of_ok hsession
      have hplain : TokenEndpoint.tokenRequest c (g.asOf b) request w = .ok none w' :=
        bind_of_ok hfilter
      rw [outcome_of_ok hrun, outcome_of_ok hplain]
    | true =>
      obtain ⟨r, hclient, hpost⟩ := @sessionClient_apply request w'
      have hplain : TokenEndpoint.tokenRequest c (g.asOf b) request w =
          (orError (r >>= TokenEndpoint.grantFor (g.asOf b) request) >>=
            fun token => pure (some token)) w' := by
        have hpassed : TokenEndpoint.tokenRequest c (g.asOf b) request w =
            (postAccessToken (g.asOf b) request >>= fun token => pure (some token)) w' :=
          bind_of_ok hfilter
        rw [hpassed, bind_apply, hpost (g.asOf b), ← bind_apply]
      have hrun := tokenRequest_of_filter (g := g) (b := b) hfilter
      cases r with
      | error e =>
        have hsession : onSession sessionClient (w', b) = .error e (w', b) := focus_of_error hclient
        rw [outcome_of_error (hrun.trans (bind_of_error hsession)), outcome_of_error hplain]
      | ok clientId =>
        have hsession : onSession sessionClient (w', b) = .ok clientId (w', b) :=
          focus_of_ok hclient
        have hgrant : outcome (tokenRequest c g request) (w, b) = outcome
            (onBackend (grantFor g request clientId) >>= fun token => pure (some token)) (w', b) := by
          simp only [outcome, hrun.trans (bind_of_ok hsession)]
        have hplain' : outcome (TokenEndpoint.tokenRequest c (g.asOf b) request) w = outcome
            (orError (TokenEndpoint.grantFor (g.asOf b) request clientId) >>=
              fun token => (pure (some token) : Web _)) w' := by
          simp only [outcome, hplain]
          rfl
        rw [hgrant, hplain', outcome_map, outcome_map, outcome_orError, onBackend, outcome_focus,
          outcome_grantFor]

theorem refused_password (h : isPassword request) (w : World) (b : Backend τ) :
    Refused c g request w b := by
  cases hfilter : doFilter c request w with
  | error e w' => exact refused_of_thrown hfilter
  | ok passed w' =>
    cases passed with
    | false => exact refused_of_filtered hfilter
    | true =>
      have hrun := tokenRequest_of_filter (g := g) (b := b) hfilter
      cases hclient : sessionClient w' with
      | error e w'' =>
        have hthrow := hrun.trans (bind_of_error (focus_of_error hclient))
        exact refused_of_error hthrow rfl
      | ok clientId w'' =>
        obtain ⟨e, hgrant⟩ := grantFor_isPassword (g := g) h clientId b
        have hthrow := hrun.trans ((bind_of_ok (focus_of_ok hclient)).trans
          (bind_of_error (focus_of_error hgrant)))
        exact refused_of_error hthrow rfl

/-- A request is granted for the client whose secret the filter has verified, or it does not come
as far as the granters. -/
theorem tokenRequest_cases (hcontext : request.securityContext = none) (w : World) (b : Backend τ) :
    Refused c g request w b ∨
    ∃ clientId w', clientId ≠ "" ∧ Verified c request clientId ∧
      tokenRequest c g request (w, b) =
        (onBackend (grantFor g request clientId) >>= fun token => pure (some token)) (w', b) := by
  by_cases hpassword : isPassword request = true
  · exact .inl (refused_password hpassword w b)
  rcases ClientAuthentication.authenticateClient_cases c hpassword w with
    ⟨⟨authentication, hmem, -⟩, -⟩ | ⟨-, e, hrun⟩ | ⟨-, user, authentication, hverified, hrun⟩
  · rw [hcontext] at hmem
    cases hmem
  · have hfilter := ClientAuthentication.doFilter_client c hpassword w
    rw [hrun] at hfilter
    dsimp only at hfilter
    split_ifs at hfilter
    · exact .inl (refused_of_filtered hfilter)
    · exact .inl (refused_of_thrown hfilter)
  · have hfilter : doFilter c request w =
        .ok true (final (setAuthentication (clientToken user authentication)) w) := by
      rw [ClientAuthentication.doFilter_client c hpassword, hrun]
      rfl
    generalize hw' : final (setAuthentication (clientToken user authentication)) w = w' at hfilter
    have hclient : sessionClient w' = .ok user.username w' := by
      rw [← hw']
      rfl
    have hsession : onSession sessionClient (w', b) = .ok user.username (w', b) :=
      focus_of_ok hclient
    refine .inr ⟨user.username, w', user.username_ne_empty, hverified, ?_⟩
    exact (tokenRequest_of_filter hfilter).trans (bind_of_ok hsession)

end Requests

end MaxKey.CodeGrants
