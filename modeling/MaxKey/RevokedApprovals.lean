import MaxKey.TokenApprovals

namespace MaxKey.OAuth2
open JavaException Effects InMemoryTokenStore TokenRegistry

/-- The authentication of a user at a client. -/
def Belongs (clientId userName : String) (a : OAuth2Authentication) : Prop :=
  a.oAuth2Request.clientId = some clientId ∧ ∃ user ∈ a.userAuthentication, user.getName = userName

instance (clientId userName : String) : DecidablePred (Belongs clientId userName) :=
  fun a => inferInstanceAs (Decidable (a.oAuth2Request.clientId = some clientId ∧
    ∃ user ∈ a.userAuthentication, user.getName = userName))

namespace TokenApprovalStore

variable {digest : String → String} {order : RowOrder OAuth2AccessToken} {s t : InMemoryTokenStore}
  {g : TokenRegistry} {used : List String} {v : String} {a : OAuth2Authentication}
  {approval : Approval} {tokens : List OAuth2AccessToken}

theorem getApprovalKey_of_belongs {clientId userName : String} (h : Belongs clientId userName a) :
    a.isClientOnly = false ∧ getApprovalKey a = approvalKey clientId (some userName) := by
  obtain ⟨hclient, user, huser, hname⟩ := h
  rw [Option.mem_def] at huser
  constructor
  · unfold OAuth2Authentication.isClientOnly
    rw [huser]
    rfl
  · unfold getApprovalKey
    rw [hclient, huser, ← hname]
    rfl

variable (digest) in
theorem removeAccessToken_apply (hnamed : Named s.registry) (v : String) :
    ∃ t, removeAccessToken digest v s = .ok () t ∧ t.registry = drop digest v s.registry := by
  have hdrop : Triple (fun t => t.registry = s.registry) (removeAccessToken digest v)
      (fun _ t => t.registry = drop digest v s.registry) fun _ => False :=
    triple_removeAccessToken_registry hnamed
  have hregistry := hdrop s rfl
  cases hrun : removeAccessToken digest v s with
  | error e t =>
    rw [hrun] at hregistry
    exact hregistry.elim
  | ok u t =>
    rw [hrun] at hregistry
    exact ⟨t, rfl, hregistry⟩

/-- A removal touches no bucket but that of the authentication's name. -/
theorem bucket_of_removeAccessToken {key : String} {u : Unit}
    (hrun : removeAccessToken digest v s = .ok u t)
    (hkey : ∀ a, s.authenticationStore v = some a → a.getName ≠ key) :
    Index.bucket t.userNameToAccessTokenStore key =
      Index.bucket s.userNameToAccessTokenStore key := by
  have hbucket : Triple (fun t => t = s) (removeAccessToken digest v)
      (fun _ t => Index.bucket t.userNameToAccessTokenStore key =
        Index.bucket s.userNameToAccessTokenStore key) fun _ => True := by
    refine triple_bind_of_ok (get_apply s) (triple_bind_of_ok (modify_apply _ s) ?_)
    cases ha : s.authenticationStore v with
    | none => exact triple_pure fun t ht => by rw [ht]; rfl
    | some a =>
      have hunindexed : Index.bucket (removeFromCollection a.getName (s.accessTokenStore v)
          s.userNameToAccessTokenStore) key = Index.bucket s.userNameToAccessTokenStore key := by
        cases s.accessTokenStore v with
        | none => rfl
        | some token => exact Index.bucket_remove_of_ne fun heq => hkey a ha heq.symm
      refine triple_bind (M := fun _ t => Index.bucket t.userNameToAccessTokenStore key =
        Index.bucket s.userNameToAccessTokenStore key) (triple_modify fun t ht => ?_) fun _ => ?_
      · rw [ht]
        exact hunindexed
      · refine triple_bind ?_ fun clientId => triple_modify fun t ht => ht
        exact triple_orThrow (fun _ _ _ ht => ht) fun _ _ _ => trivial
  have hsame := hbucket s rfl
  rw [hrun] at hsame
  exact hsame

/-- The tokens of an approval's client among those walked are gone. -/
def Gone (clientId : String) (tokens : List OAuth2AccessToken) (s : InMemoryTokenStore) : Prop :=
  ∀ token ∈ tokens, ∀ a, s.authenticationStore token.value = some a →
    a.oAuth2Request.clientId ≠ some clientId

/-- A token that leaves the walked set by its removal is the only one there. -/
def Walkable (approval : Approval) (tokens : List OAuth2AccessToken) (s : InMemoryTokenStore) :
    Prop :=
  ∀ token ∈ tokens, ∀ a, s.authenticationStore token.value = some a →
    a.oAuth2Request.clientId = some approval.clientId →
      a.getName = approvalKey approval.clientId (some approval.userId) → tokens = [token]

variable (digest) in
/-- One token of the walk: what is looked for goes, and the walk can go on. -/
theorem revokeToken_apply {token : OAuth2AccessToken} {rest : List OAuth2AccessToken}
    (hnamed : Named s.registry) (hwalk : Walkable approval (token :: rest) s) :
    ∃ u, revokeTokens digest approval (token :: rest) s = revokeTokens digest approval rest u ∧
      TokenRegistry.Fewer u.registry s.registry ∧ Gone approval.clientId [token] u := by
  have hremove : ∃ u, (onlyIf ((s.authenticationStore token.value).any
        (·.oAuth2Request.clientId = some approval.clientId))
        (removeAccessToken digest token.value) : StoreM Unit) s = .ok () u ∧
      TokenRegistry.Fewer u.registry s.registry ∧ Gone approval.clientId [token] u ∧
      (rest = [] ∨ u.findTokensByClientIdAndUserName approval.clientId (some approval.userId) =
        s.findTokensByClientIdAndUserName approval.clientId (some approval.userId)) := by
    unfold onlyIf
    split_ifs with hfound
    · obtain ⟨a, ha, hclient⟩ := (Option.any_eq_true _ _).mp hfound
      obtain ⟨u, hrun, hregistry⟩ := removeAccessToken_apply digest hnamed token.value
      have hdropped : TokenRegistry.Fewer u.registry s.registry := by
        rw [hregistry]
        exact fewer_drop token.value
      refine ⟨u, hrun, hdropped, ?_, ?_⟩
      · intro x hx b hb
        rw [List.mem_singleton.mp hx] at hb
        have hdrop : u.registry.authentication token.value = some b := hb
        rw [hregistry] at hdrop
        exact absurd rfl (authentication_drop.mp hdrop).1
      · by_cases hname : a.getName = approvalKey approval.clientId (some approval.userId)
        · have hone := hwalk token List.mem_cons_self a ha (of_decide_eq_true hclient) hname
          exact .inl (List.cons.inj hone).2
        · right
          have hbucket := bucket_of_removeAccessToken hrun (fun b hb heq => by
            rw [Option.some.inj (hb.symm.trans ha)] at heq
            exact hname heq)
          exact hbucket
    · refine ⟨s, rfl, TokenRegistry.fewer_refl _, ?_, .inr rfl⟩
      intro x hx b hb hclient
      rw [List.mem_singleton.mp hx] at hb
      apply hfound
      rw [hb]
      exact decide_eq_true hclient
  obtain ⟨u, hrun, hfewer, hgone, hgoes⟩ := hremove
  refine ⟨u, ?_, hfewer, hgone⟩
  have hnot : ¬(rest ≠ [] ∧
      u.findTokensByClientIdAndUserName approval.clientId (some approval.userId) ≠
        s.findTokensByClientIdAndUserName approval.clientId (some approval.userId)) := by
    rintro ⟨hmore, hchanged⟩
    exact hgoes.elim hmore hchanged
  rw [revokeTokens, bind_of_ok (get_apply s), bind_of_ok hrun, bind_of_ok (get_apply u),
    bind_of_ok (throwIf_of_false hnot _ u)]

variable (digest) in
/-- The walk comes to its end, and takes out what it looks for. The induction is on the tokens
that are left; what later removals do not bring back stays gone. -/
theorem revokeTokens_apply (hnamed : Named s.registry) (hwalk : Walkable approval tokens s) :
    ∃ t, revokeTokens digest approval tokens s = .ok () t ∧
      TokenRegistry.Fewer t.registry s.registry ∧ Gone approval.clientId tokens t := by
  induction tokens generalizing s with
  | nil =>
    refine ⟨s, rfl, TokenRegistry.fewer_refl _, ?_⟩
    intro token htoken
    cases htoken
  | cons token rest ih =>
    obtain ⟨u, hstep, hfewer, hgone⟩ := revokeToken_apply digest hnamed hwalk
    have hrest : Walkable approval rest u := by
      intro x hx a ha hclient hname
      have hbefore := hfewer.authentication _ a ha
      have hone := hwalk x (List.mem_cons_of_mem _ hx) a hbefore hclient hname
      rw [(List.cons.inj hone).2] at hx
      cases hx
    obtain ⟨t, hrun, hfewer', hgone'⟩ := ih (hnamed.of_fewer hfewer) hrest
    refine ⟨t, hstep.trans hrun, hfewer'.trans hfewer, ?_⟩
    intro x hx a ha
    rcases List.mem_cons.mp hx with rfl | hx
    · exact hgone x List.mem_cons_self a (hfewer'.authentication _ a ha)
    · exact hgone' x hx a ha

/-- A state that a revocation may leave. -/
def Thinned (digest : String → String) (g : TokenRegistry) (s : InMemoryTokenStore) : Prop :=
  Dropped digest g s ∧ UsersFiled s

theorem triple_removeAccessToken_thinned (hnamed : Named g) (v : String) :
    Triple (Thinned digest g) (removeAccessToken digest v) (fun _ => Thinned digest g)
      (Thinned digest g) := by
  intro t ht
  have hdropped : Triple (Dropped digest g) (removeAccessToken digest v)
      (fun _ => Dropped digest g) (Dropped digest g) := triple_drop hnamed
  have hkeeps : Triple UsersFiled (removeAccessToken digest v) (fun _ => UsersFiled) UsersFiled :=
    triple_removeAccessToken_filed v
  have hdrop := hdropped t ht.1
  have hfiled := hkeeps t ht.2
  cases hrun : removeAccessToken digest v t with
  | ok u t' =>
    rw [hrun] at hdrop hfiled
    exact ⟨hdrop, hfiled⟩
  | error e t' =>
    rw [hrun] at hdrop hfiled
    exact ⟨hdrop, hfiled⟩

/-- Whether or not its walks come to their ends, a revocation only drops tokens. -/
theorem triple_revokeApprovals_thinned (hnamed : Named g) (approvals : List Approval) :
    Triple (Thinned digest g) (revokeApprovals digest order approvals)
      (fun _ => Thinned digest g) (Thinned digest g) :=
  triple_revokeApprovals fun _ _ _ _ token _ => triple_removeAccessToken_thinned hnamed token.value

variable (digest order) in
/-- What stands for an approval before its revocation is walked over without a break. -/
theorem revokeApproval_apply (hnamed : Named s.registry) (hwalk : Walkable approval
      (s.findTokensByClientIdAndUserName approval.clientId (some approval.userId)) s) :
    ∃ t, revokeApproval digest order approval s = .ok () t ∧
      TokenRegistry.Fewer t.registry s.registry ∧ Gone approval.clientId
        (s.findTokensByClientIdAndUserName approval.clientId (some approval.userId)) t := by
  let found := s.findTokensByClientIdAndUserName approval.clientId (some approval.userId)
  have hperm : (order.scan found).Perm found := order.perm found
  have hscan : Walkable approval (order.scan found) s := by
    intro token htoken a ha hclient hname
    have hone := hwalk token (hperm.mem_iff.mp htoken) a ha hclient hname
    have hsingle : (order.scan found).Perm [token] := by
      rw [← hone]
      exact hperm
    exact List.perm_singleton.mp hsingle
  obtain ⟨t, hrun, hfewer, hgone⟩ := revokeTokens_apply digest hnamed hscan
  refine ⟨t, ?_, hfewer, ?_⟩
  · rw [revokeApproval, bind_of_ok (get_apply s)]
    exact hrun
  · intro token htoken
    exact hgone token (hperm.mem_iff.mpr htoken)

variable (digest order) in
/-- The tokens of the approval's user and client are all among those that are found. -/
theorem revokeApproval_clears (hnamed : Named s.registry) (hfiled : UsersFiled s)
    (hwalk : Walkable approval
      (s.findTokensByClientIdAndUserName approval.clientId (some approval.userId)) s) :
    ∃ t, revokeApproval digest order approval s = .ok () t ∧
      TokenRegistry.Fewer t.registry s.registry ∧
        ∀ v a, t.registry.authentication v = some a →
          ¬Belongs approval.clientId approval.userId a := by
  obtain ⟨t, hrun, hfewer, hgone⟩ := revokeApproval_apply digest order hnamed hwalk
  refine ⟨t, hrun, hfewer, ?_⟩
  intro v a ha hbelongs
  obtain ⟨huser, hkey⟩ := getApprovalKey_of_belongs hbelongs
  have hmem := hfiled.filed v a (hfewer.authentication v a ha) huser
  rw [hkey] at hmem
  obtain ⟨token, htoken, hvalue⟩ := List.mem_map.mp hmem
  rw [← hvalue] at ha
  exact hgone token htoken a ha hbelongs.1

end TokenApprovalStore

namespace DefaultTokenServices

/-- What happens to the token store of a deployment that lists its approvals from the tokens. -/
inductive Action
  | call (c : Call)
  | revokeApprovals (approvals : List Approval)

def Action.drawn : Action → List String
  | .call c => c.drawn
  | .revokeApprovals _ => []

section

variable (digest : String → String) (services : DefaultTokenServices)
  (order : RowOrder OAuth2AccessToken)

def act (s : InMemoryTokenStore) : Action → InMemoryTokenStore
  | .call c => services.call digest s c
  | .revokeApprovals approvals =>
    final (TokenApprovalStore.revokeApprovals digest order approvals) s

def Action.calls (actions : List Action) : List Call :=
  actions.filterMap fun action =>
    match action with
    | .call c => some c
    | .revokeApprovals _ => none

/-- The requests that a client makes without its user: it presents what it has. -/
def Call.Continues : Call → Prop
  | .loadAuthentication _ _ | .operation (.refreshAccessToken _ _ _) => True
  | .operation (.createAccessToken _ _) | .operation (.revokeToken _) => False

/-- The call accepts an access token, or yields one, that has the authentication. -/
def Gives (s : InMemoryTokenStore) (a : OAuth2Authentication) : Call → Prop
  | .loadAuthentication now v => outcome (services.loadAuthentication digest now v) s = .ok a
  | .operation (.refreshAccessToken m value request) => ∃ token,
      outcome (services.refreshAccessToken digest m value request) s = .ok token ∧
        (final (services.refreshAccessToken digest m value request) s).authenticationStore
          token.value = some a
  | .operation (.createAccessToken _ _) | .operation (.revokeToken _) => False

/-- Authenticating a user again gives the same user. -/
def KeepsUsers : Prop :=
  ∀ authenticate ∈ services.authenticationManager, ∀ user authorities user',
    authenticate user authorities = .ok user' → user'.getName = user.getName

/-- What is there when the approvals of a user at a client are revoked: no refresh token of
both that the services would take, and no token that leaves the set of all of them while the
revocation walks it. -/
structure Revocable (clientId userName : String) (s : InMemoryTokenStore) : Prop where
  refreshless : services.supportRefreshToken = true → ∀ r x a, s.refreshTokenStore r = some x →
    s.refreshTokenAuthenticationStore r = some a → ¬Belongs clientId userName a
  walkable : ∀ token ∈ s.findTokensByClientIdAndUserName clientId (some userName),
    ∀ a ∈ s.authenticationStore token.value, a.oAuth2Request.clientId = some clientId →
      a.getName = approvalKey clientId (some userName) →
        s.findTokensByClientIdAndUserName clientId (some userName) = [token]

end

section

variable {digest : String → String} {services : DefaultTokenServices}
  {order : RowOrder OAuth2AccessToken} {s : InMemoryTokenStore} {g g' : TokenRegistry}
  {used : List String} {clientId userName : String} {a b : OAuth2Authentication} {m : Moment}
  {token : OAuth2AccessToken} {value : String} {request : TokenRequest}
  {o : Option OAuth2AccessToken}

/-- Nothing in the registry opens a way back for the user at the client. -/
structure Closed (services : DefaultTokenServices) (clientId userName : String)
    (g : TokenRegistry) : Prop where
  token : ∀ v a, g.authentication v = some a → ¬Belongs clientId userName a
  refreshToken : services.supportRefreshToken = true → ∀ r x a, g.refreshToken r = some x →
    g.refreshAuthentication r = some a → ¬Belongs clientId userName a

theorem Closed.fewer (h : Closed services clientId userName g) (hg : TokenRegistry.Fewer g' g) :
    Closed services clientId userName g' where
  token v a ha := h.token v a (hg.authentication v a ha)
  refreshToken hsupport r x a hx ha := by
    rw [hg.refreshToken] at hx
    rw [hg.refreshAuthentication] at ha
    exact h.refreshToken hsupport r x a hx ha

theorem Closed.withdraw (h : Closed services clientId userName g) (r : String) :
    Closed services clientId userName (withdraw digest r g) := by
  have hunlinked : Closed services clientId userName
      { g with linked := Function.update g.linked r none } := ⟨h.token, h.refreshToken⟩
  unfold TokenRegistry.withdraw
  cases g.linked r with
  | none => exact hunlinked
  | some v => exact hunlinked.fewer (fewer_drop v)

theorem Closed.forget (h : Closed services clientId userName g) (r : String) :
    Closed services clientId userName (forget r g) where
  token := h.token
  refreshToken hsupport w x a hx ha := by
    obtain ⟨hw, hold⟩ := refreshToken_forget.mp hx
    simp only [TokenRegistry.forget, Function.update_of_ne hw] at ha
    exact h.refreshToken hsupport w x a hold ha

theorem Closed.put (h : Closed services clientId userName g) (ha : ¬Belongs clientId userName a) :
    Closed services clientId userName (put digest token a g) where
  token v b hb := by
    simp only [TokenRegistry.put, Function.update_apply] at hb
    split_ifs at hb
    · rw [← Option.some.inj hb]
      exact ha
    · exact h.token v b hb
  refreshToken := h.refreshToken

theorem Closed.keep {y : OAuth2RefreshToken} (h : Closed services clientId userName g)
    (ha : ¬Belongs clientId userName a) : Closed services clientId userName (keep y a g) where
  token := h.token
  refreshToken hsupport r x b hx hb := by
    simp only [TokenRegistry.keep, Function.update_apply] at hx hb
    split_ifs at hx hb
    · rw [← Option.some.inj hb]
      exact ha
    · exact h.refreshToken hsupport r x b hx hb

/-- A refresh keeps the client and the user of the refresh token. -/
theorem belongs_of_refreshed (hsame : services.KeepsUsers)
    (hauth : services.reauthenticated a = .ok b) {c : OAuth2Authentication}
    (hnarrow : createRefreshedAuthentication b request = .ok c)
    (h : Belongs clientId userName c) : Belongs clientId userName a := by
  have husers : c.userAuthentication = b.userAuthentication := by
    unfold createRefreshedAuthentication at hnarrow
    dsimp only at hnarrow
    split_ifs at hnarrow
    · rw [← Except.ok.inj hnarrow]
    · rw [← Except.ok.inj hnarrow]
  have hclient := (createRefreshedAuthentication_eq_ok hnarrow).1
  obtain ⟨hc, user, huser, hname⟩ := h
  rw [hclient, reauthenticated_request hauth] at hc
  refine ⟨hc, ?_⟩
  rw [husers, Option.mem_def] at huser
  unfold reauthenticated at hauth
  split at hauth
  · rename_i authenticate stored hmanager hstored
    obtain ⟨user', hagain, hb⟩ := except_bind_eq_ok.mp hauth
    rw [← Except.ok.inj hb] at huser
    rw [← Option.some.inj huser] at hname
    exact ⟨stored, hstored, (hsame authenticate hmanager _ _ _ hagain).symm.trans hname⟩
  · rw [← Except.ok.inj hauth] at huser
    exact ⟨user, huser, hname⟩

theorem closed_reissued {x : OAuth2RefreshToken} (h : Closed services clientId userName g)
    (ha : ¬Belongs clientId userName a) (hr : Reissued digest services m a x g o g') :
    Closed services clientId userName g' := by
  cases hr with
  | failed hreuse hnew => exact h
  | forgotten hrotate hnew => exact h.forget x.value
  | unrotated token vs hrotate hcreate hnew =>
    exact ((h.forget x.value).fewer (fewer_dropAll vs)).put ha
  | reused token vs hreuse hnew => exact (h.fewer (fewer_dropAll vs)).put ha
  | rotated y token vs hrotate hcreate hnew =>
    exact (((h.forget x.value).fewer (fewer_dropAll vs)).put ha).keep ha

/-- A refresh takes nothing of the user at the client, and so it stores nothing of both. -/
theorem closed_refreshed (hsame : services.KeepsUsers) (hsound : Sound digest used s.registry)
    (h : Closed services clientId userName s.registry)
    (hr : Refreshed digest services m value request s o g') :
    Closed services clientId userName g' := by
  cases hr with
  | refused hread => exact h
  | expired found hread hexpired => exact (h.withdraw found.1.value).forget found.1.value
  | denied found hread hnarrow => exact h.withdraw found.1.value
  | reissued found a hread hlive hnarrow hreissued =>
    have hreadable := readable_of_ok hread
    obtain ⟨b, hb, hauth, -⟩ := hreadable.stored
    have hvalue := hsound.refresh_value_eq value found.1 hreadable.refreshToken
    rw [hvalue] at hb
    have hstored : ¬Belongs clientId userName b :=
      h.refreshToken hreadable.supported value found.1 b hreadable.refreshToken hb
    apply closed_reissued (h.withdraw found.1.value) _ hreissued
    intro ha
    exact hstored (belongs_of_refreshed hsame hauth hnarrow ha)

theorem closed_call (hsame : services.KeepsUsers) (hsound : Sound digest used s.registry)
    (h : Closed services clientId userName s.registry) {c : Call} (hc : c.Continues) :
    Closed services clientId userName (services.call digest s c).registry := by
  cases c with
  | operation op =>
    cases op with
    | createAccessToken m a => exact hc.elim
    | refreshAccessToken m value request =>
      exact closed_refreshed hsame hsound h (refreshed services hsound m value request)
    | revokeToken v => exact hc.elim
  | loadAuthentication now v =>
    obtain ⟨vs, hregistry⟩ := loadAuthentication_registry services hsound now v
    show Closed services clientId userName
      (final (services.loadAuthentication digest now v) s).registry
    rw [hregistry]
    exact h.fewer (fewer_dropAll vs)

/-- From a closed registry no request of the client gives a token of the user. -/
theorem not_belongs_of_gives (hsame : services.KeepsUsers)
    (hsound : Sound digest used s.registry) (h : Closed services clientId userName s.registry)
    {c : Call} (hc : c.Continues) (hgives : Gives digest services s a c) :
    ¬Belongs clientId userName a := by
  cases c with
  | operation op =>
    cases op with
    | createAccessToken m a => exact hc.elim
    | refreshAccessToken m value request =>
      obtain ⟨token, -, hstored⟩ := hgives
      have hclosed := closed_refreshed hsame hsound h (refreshed services hsound m value request)
      exact hclosed.token token.value a hstored
    | revokeToken v => exact hc.elim
  | loadAuthentication now v =>
    have hloads : outcome (services.loadAuthentication digest now v) s = .ok a := hgives
    have hloaded := (loadAuthentication_eq_ok hsound).mp hloads
    exact h.token v a hloaded.2.1

variable (services order) in
/-- Calls and revocations keep the registry sound and the tokens filed. -/
theorem sound_act (hkeeps : services.KeepsTokens) (h : Sound digest used s.registry)
    (hfiled : UsersFiled s) (action : Action) (hname : ∀ c ∈ Action.calls [action], c.Named)
    (hfresh : ∀ v ∈ action.drawn, v ∉ used) :
    Sound digest (used ++ action.drawn) (act digest services order s action).registry ∧
      UsersFiled (act digest services order s action) := by
  cases action with
  | call c =>
    have hsound := (sound_call hkeeps h c (hname c List.mem_cons_self) hfresh).1
    exact ⟨hsound, usersFiled_call hfiled c⟩
  | revokeApprovals approvals =>
    have hnamed : Named s.registry := h.named
    have hthinned : TokenApprovalStore.Thinned digest s.registry
        (act digest services order s (.revokeApprovals approvals)) :=
      final_of_triple (TokenApprovalStore.triple_revokeApprovals_thinned hnamed approvals)
        ⟨dropped_of_eq rfl, hfiled⟩
    obtain ⟨⟨vs, hregistry⟩, hstill⟩ := hthinned
    rw [hregistry, Action.drawn, List.append_nil]
    exact ⟨h.dropAll vs, hstill⟩

variable (order) in
/-- The induction is on the run. -/
theorem sound_acts (hkeeps : services.KeepsTokens) {actions : List Action}
    (hcalls : Genuine (Action.calls actions)) (h : Sound digest used s.registry) (hfiled : UsersFiled s)
    (hnew : ∀ v ∈ (Action.calls actions).flatMap Call.drawn, v ∉ used) :
    Sound digest (used ++ (Action.calls actions).flatMap Call.drawn)
        (Runs.exec (act digest services order) s actions).registry ∧
      UsersFiled (Runs.exec (act digest services order) s actions) := by
  induction actions generalizing s used with
  | nil =>
    rw [show Action.calls [] = [] from rfl, List.flatMap_nil, List.append_nil]
    exact ⟨h, hfiled⟩
  | cons action actions ih =>
    cases action with
    | call c =>
      have hsplit : Action.calls (.call c :: actions) = c :: Action.calls actions := rfl
      rw [hsplit] at hcalls hnew ⊢
      obtain ⟨⟨hname, hfresh⟩, hrest, hnew'⟩ := genuine_cons hcalls hnew
      have hone : ∀ c' ∈ Action.calls [.call c], c'.Named := by
        intro c' hc'
        rw [List.mem_singleton.mp hc']
        exact hname
      obtain ⟨hsound, hstill⟩ := sound_act services order hkeeps h hfiled (.call c) hone hfresh
      rw [List.flatMap_cons, ← List.append_assoc]
      exact ih hrest hsound hstill hnew'
    | revokeApprovals approvals =>
      obtain ⟨hsound, hstill⟩ := sound_act services order hkeeps h hfiled
        (.revokeApprovals approvals) (fun c hc => by cases hc) (fun v hv => by cases hv)
      rw [Action.drawn, List.append_nil] at hsound
      exact ih hcalls hsound hstill hnew

/-- A revocation that walks all its tokens leaves no way back. -/
theorem closed_revoked (hsound : Sound digest used s.registry) (hfiled : UsersFiled s)
    (approval : Approval) (approvals : List Approval)
    (h : Revocable services approval.clientId approval.userId s) :
    Closed services approval.clientId approval.userId
      (act digest services order s (.revokeApprovals (approval :: approvals))).registry := by
  have hnamed : Named s.registry := hsound.named
  obtain ⟨t, hrun, hfewer, hgone⟩ := TokenApprovalStore.revokeApproval_clears digest order
    hnamed hfiled h.walkable
  have hstart : Closed services approval.clientId approval.userId t.registry := by
    constructor
    · exact hgone
    · intro hsupport r x a hx ha
      rw [hfewer.refreshToken] at hx
      rw [hfewer.refreshAuthentication] at ha
      exact h.refreshless hsupport r x a hx ha
  have hthin : Triple (TokenApprovalStore.Thinned digest s.registry)
      (TokenApprovalStore.revokeApproval digest order approval)
      (fun _ => TokenApprovalStore.Thinned digest s.registry)
      (TokenApprovalStore.Thinned digest s.registry) :=
    TokenApprovalStore.triple_revokeApproval fun _ _ token _ =>
      TokenApprovalStore.triple_removeAccessToken_thinned hnamed token.value
  have hthinned := hthin s ⟨dropped_of_eq rfl, hfiled⟩
  rw [hrun] at hthinned
  -- what the other approvals revoke only drops more
  have hrest : TokenApprovalStore.Thinned digest t.registry
      (final (TokenApprovalStore.revokeApprovals digest order approvals) t) :=
    final_of_triple (TokenApprovalStore.triple_revokeApprovals_thinned (hnamed.of_fewer hfewer)
      approvals) ⟨dropped_of_eq rfl, hthinned.2⟩
  obtain ⟨⟨vs, hregistry⟩, -⟩ := hrest
  have hfirst : act digest services order s (.revokeApprovals (approval :: approvals)) =
      final (TokenApprovalStore.revokeApprovals digest order approvals) t := by
    show final (TokenApprovalStore.revokeApprovals digest order (approval :: approvals)) s = _
    unfold final
    rw [TokenApprovalStore.revokeApprovals, bind_of_ok hrun]
  rw [hfirst, hregistry]
  exact hstart.fewer (fewer_dropAll vs)

end

/-- An app and a kiosk, which is not registered for refresh tokens. -/
def appAndKiosk : ClientDetailsService where
  loadClientByClientId id :=
    if id = some "kiosk" then .ok { clientId := "kiosk", authorizedGrantTypes := ["password"] }
    else if id = some "app" then .ok { clientId := "app" }
    else .error (noSuchClient "No client with requested id")
  no_authenticationException id e h := by
    split_ifs at h
    cases h
    rfl

def kioskServices : DefaultTokenServices :=
  { supportRefreshToken := true, clientDetailsService := some appAndKiosk }

def userAt (clientId name : String) : OAuth2Authentication :=
  ⟨{ clientId := some clientId, approved := true, scope := ["read"] },
    some (.token ⟨.name (some name), none, ["ROLE_USER"], true⟩)⟩

/-- Alice at both clients. -/
def aliceTwice : List Action :=
  [.call (.operation (.createAccessToken ⟨1000, "t1", "r1"⟩ (userAt "kiosk" "alice"))),
    .call (.operation (.createAccessToken ⟨2000, "t2", "r2"⟩ (userAt "app" "alice")))]

def aliceTwiceStore : InMemoryTokenStore :=
  Runs.exec (act id kioskServices (.insertion OAuth2AccessToken)) {} aliceTwice

def refreshRequest (clientId : String) : TokenRequest := ⟨[], some clientId, [], none⟩

theorem keepsTokens_kioskServices : kioskServices.KeepsTokens := by
  intro enhancer h
  cases h

theorem keepsUsers_kioskServices : kioskServices.KeepsUsers := by
  intro authenticate h
  cases h

end DefaultTokenServices

end MaxKey.OAuth2
