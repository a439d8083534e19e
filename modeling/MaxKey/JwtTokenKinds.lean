import MaxKey.JwtTokenClaims

namespace MaxKey.OAuth2
open JavaException Effects

namespace JwtTokenStore
open DefaultTokenServices DefaultAccessTokenConverter JwtAccessTokenConverter

section Reading

variable {σ : Type} {store : JwtTokenStore σ} {services : DefaultTokenServices}
  {a back : OAuth2Authentication} {expiration : Option ℤ} {v : String}

theorem readAuthentication_eq (h : store.jwtTokenEnhancer.Carries a expiration v) :
    store.readAuthentication (some v) = store.jwtTokenEnhancer.comesBack a := by
  obtain ⟨parsed, hdecode, hget⟩ := h
  have hback : ∀ name, name ≠ "jti" → name ≠ "exp" → parsed.get name =
      (store.jwtTokenEnhancer.tokenConverter.convertAccessToken {
        value := none, scope := some a.oAuth2Request.scope } a).get name := by
    intro name hjti hexp
    rw [hget name hjti]
    exact get_convertAccessToken_of_ne_exp store.jwtTokenEnhancer.tokenConverter a expiration _ hexp
  have hsame := extractAuthentication_congr store.jwtTokenEnhancer.tokenConverter hback
  unfold readAuthentication comesBack
  dsimp only [bind, Except.bind]
  rw [hdecode]
  dsimp only
  rw [hsame]
  rfl

/-- The value reads as an access token with its expiration in whole seconds. -/
theorem readAccessToken_eq (h : store.jwtTokenEnhancer.Carries a expiration v)
    (hdate : ∀ e ∈ expiration, IsLong e) :
    ∃ read, store.readAccessToken v = .ok read ∧ read.value = v ∧
      read.expiration = expiration.map wholeSecond := by
  obtain ⟨parsed, hdecode, hget⟩ := h
  obtain ⟨-, -, hscope, hexp, -⟩ := get_convertAccessToken store.jwtTokenEnhancer.tokenConverter {
    value := none, expiration := expiration, scope := some a.oAuth2Request.scope } a
  rw [← hget "scope" (by decide)] at hscope
  rw [← hget "exp" (by decide)] at hexp
  have hdates : (parsed.get "exp").mapM extractExpiration = .ok (expiration.map wholeSecond) := by
    rw [hexp]
    cases expiration with
    | none => rfl
    | some e =>
      show (some (Claim.number (e.tdiv 1000))).mapM extractExpiration = _
      rw [Option.mapM_some, extractExpiration_tdiv (hdate e rfl)]
      rfl
  have hscopes : extractScope (parsed.get "scope") =
      .ok (some (a.oAuth2Request.scope.map Element.text).dedup) := by
    rw [hscope]
    rfl
  have hread : ∃ read, extractAccessToken v parsed = .ok read ∧ read.value = v ∧
      read.expiration = expiration.map wholeSecond :=
    ⟨_, extractAccessToken_eq_ok.mpr ⟨_, _, hdates, hscopes, rfl⟩, rfl, rfl⟩
  unfold readAccessToken
  dsimp only [bind, Except.bind]
  rw [hdecode]
  exact hread

theorem comesBack_clientId {converter : JwtAccessTokenConverter}
    (h : converter.comesBack a = .ok back) :
    back.oAuth2Request.clientId = a.oAuth2Request.clientId := by
  obtain ⟨hclient, -⟩ := get_convertAccessToken converter.tokenConverter {
    value := none, scope := some a.oAuth2Request.scope } a
  unfold comesBack at h
  dsimp only at h
  cases hfound : converter.tokenConverter.extractAuthentication
      (converter.tokenConverter.convertAccessToken {
        value := none, scope := some a.oAuth2Request.scope } a) with
  | error e =>
    rw [hfound] at h
    cases h
  | ok found =>
    rw [hfound] at h
    obtain ⟨_, _, clientId, _, _, _, _, -, -, hclientId, -, -, -, -, hparts⟩ :=
      (extractAuthentication_eq_ok converter.tokenConverter).mp hfound
    have hback : found.toOAuth2Authentication = back := Except.ok.inj h
    rw [hclient] at hclientId
    have hsame : a.oAuth2Request.clientId = clientId := by
      cases hid : a.oAuth2Request.clientId with
      | none =>
        rw [hid] at hclientId
        exact Except.ok.inj hclientId
      | some id =>
        rw [hid] at hclientId
        exact Except.ok.inj hclientId
    rw [← hback, hparts, hsame]
    rfl

/-- The client is registered, if a registry is asked. -/
def KnownClient (services : DefaultTokenServices) (clientId : Option String) : Prop :=
  ∀ clients ∈ services.clientDetailsService, ∃ client,
    clients.loadClientByClientId clientId = .ok client

theorem clientSetting_eq_ok {α : Type} (byDefault : α) (setting : ClientDetails → Option α)
    (request : OAuth2Request) : (∃ value, services.clientSetting byDefault setting request =
      .ok value) ↔ KnownClient services request.clientId := by
  unfold clientSetting KnownClient
  cases services.clientDetailsService with
  | none => exact iff_of_true ⟨_, rfl⟩ nofun
  | some clients =>
    dsimp only
    cases hload : clients.loadClientByClientId request.clientId with
    | ok client =>
      refine iff_of_true ⟨_, rfl⟩ ?_
      rintro _ ⟨⟩
      exact ⟨client, hload⟩
    | error e =>
      refine iff_of_false nofun ?_
      intro hknown
      obtain ⟨client, hclient⟩ := hknown clients rfl
      cases hload.symm.trans hclient

theorem createRefreshToken_eq_ok (m : Moment) {request : OAuth2Request}
    (hknown : KnownClient services request.clientId) :
    ∃ refreshToken, createRefreshToken services m request = .ok refreshToken := by
  have hsettings := fun byDefault setting =>
    (clientSetting_eq_ok (α := Bool) byDefault setting request).mpr hknown
  obtain ⟨supported, hsupported⟩ := hsettings services.supportRefreshToken fun client =>
    some (client.authorizedGrantTypes.contains "refresh_token")
  obtain ⟨validity, hvalidity⟩ := (clientSetting_eq_ok services.refreshTokenValiditySeconds
    ClientDetails.refreshTokenValiditySeconds request).mpr hknown
  unfold createRefreshToken DefaultTokenServices.createRefreshToken isSupportRefreshToken
    getRefreshTokenValiditySeconds
  dsimp only [bind, Except.bind]
  rw [hsupported]
  cases supported with
  | false => exact ⟨_, rfl⟩
  | true =>
    dsimp only
    rw [if_pos rfl, hvalidity]
    exact ⟨_, rfl⟩

theorem bareToken_eq_ok (m : Moment) (request : OAuth2Request)
    (refreshToken : Option DefaultOAuth2RefreshToken) :
    (∃ bare, bareToken services m request refreshToken = .ok bare) ↔
      KnownClient services request.clientId := by
  rw [← clientSetting_eq_ok services.accessTokenValiditySeconds
    ClientDetails.accessTokenValiditySeconds request]
  unfold bareToken getAccessTokenValiditySeconds
  constructor
  · rintro ⟨bare, hbare⟩
    obtain ⟨validity, hvalidity, -⟩ := except_bind_eq_ok.mp hbare
    exact ⟨validity, hvalidity⟩
  · rintro ⟨validity, hvalidity⟩
    rw [hvalidity]
    exact ⟨_, rfl⟩

theorem bareToken_carries_nothing {m : Moment} {request : OAuth2Request}
    {refreshToken : Option DefaultOAuth2RefreshToken} {bare : DefaultOAuth2AccessToken Claim}
    (h : bareToken services m request refreshToken = .ok bare) :
    bare.scope = some request.scope ∧ bare.additionalInformation = [] := by
  obtain ⟨validity, -, hreturn⟩ := except_bind_eq_ok.mp h
  rw [← Except.ok.inj hreturn]
  exact ⟨rfl, rfl⟩

/-- A token is issued to every client that is registered. -/
theorem newAccessToken_eq_ok (hworks : store.jwtTokenEnhancer.Works) (m : Moment)
    (refreshToken : Option DefaultOAuth2RefreshToken)
    (hknown : KnownClient services a.oAuth2Request.clientId) :
    ∃ token, store.newAccessToken services m a refreshToken = .ok token := by
  obtain ⟨bare, hbare⟩ := (bareToken_eq_ok m a.oAuth2Request refreshToken).mpr hknown
  obtain ⟨-, hinfo⟩ := bareToken_carries_nothing hbare
  obtain ⟨token, htoken⟩ := hworks.enhance_eq_ok a hinfo
  refine ⟨token, ?_⟩
  unfold newAccessToken
  rw [hbare]
  exact htoken

theorem checkClient_eq_ok {clientId : Option String} (hknown : KnownClient services clientId) :
    services.checkClient clientId = .ok () := by
  unfold checkClient
  cases hclients : services.clientDetailsService with
  | none => rfl
  | some clients =>
    obtain ⟨client, hload⟩ := hknown clients hclients
    dsimp only
    rw [hload]

/-- The approvals of the user contain the scopes of the token. -/
def Approves (store : JwtTokenStore σ) (now : ℕ) (back : OAuth2Authentication) (s : σ) : Prop :=
  match store.approvalStore, back.userAuthentication with
  | some approvalStore, some user =>
    ∃ approvals, approvalStore.getApprovals user.getName
        (back.oAuth2Request.clientId.getD "") s = .ok approvals ∧
      ∀ scope ∈ back.oAuth2Request.scope, ∃ approval ∈ approvals,
        approval.isApproved now ∧ approval.scope = scope
  | _, _ => True

/-- What a removal does to the approvals. -/
def revocation (store : JwtTokenStore σ) (now : ℕ) (back : OAuth2Authentication) :
    EStateM JavaException σ Unit :=
  match store.approvalStore, back.userAuthentication with
  | some approvalStore, some user => approvalStore.revokeApprovals (approvalsOf now back user)
  | _, _ => pure ()

/-- A token that is used for a refresh is removed once, or twice where it is replaced. -/
def Revocable (store : JwtTokenStore σ) (services : DefaultTokenServices) (now : ℕ)
    (back : OAuth2Authentication) (s : σ) : Prop :=
  ∃ t, store.revocation now back s = .ok () t ∧
    (services.reuseRefreshToken = false → ∃ u, store.revocation now back t = .ok () u)

theorem remove_eq (now : ℕ) (hback : store.readAuthentication (some v) = .ok back) :
    store.remove now (some v) = store.revocation now back := by
  unfold remove revocation
  cases store.approvalStore with
  | none => rfl
  | some approvalStore =>
    dsimp only
    rw [hback, orError_ok_bind]
    cases back.userAuthentication with
    | none => rfl
    | some user => rfl

theorem allApproved_iff (now : ℕ) (s : σ) (hback : store.readAuthentication (some v) = .ok back) :
    store.allApproved now v s = .ok true ↔ store.Approves now back s := by
  unfold allApproved Approves
  cases store.approvalStore with
  | none => exact iff_of_true rfl trivial
  | some approvalStore =>
    dsimp only [bind, Except.bind]
    rw [hback]
    dsimp only
    cases back.userAuthentication with
    | none => exact iff_of_true rfl trivial
    | some user =>
      dsimp only
      cases approvalStore.getApprovals user.getName (back.oAuth2Request.clientId.getD "") s with
      | error e =>
        refine iff_of_false nofun ?_
        rintro ⟨approvals, hget, -⟩
        cases hget
      | ok approvals =>
        have hall : (back.oAuth2Request.scope.all
            (((approvals.filter (·.isApproved now)).map Approval.scope).contains ·)) = true ↔
            ∀ scope ∈ back.oAuth2Request.scope, ∃ approval ∈ approvals,
              approval.isApproved now ∧ approval.scope = scope := by
          simp [List.all_eq_true, and_assoc]
        constructor
        · intro h
          exact ⟨approvals, rfl, hall.mp (Except.ok.inj h)⟩
        · rintro ⟨_, hsame, h⟩
          rw [← Except.ok.inj hsame] at h
          exact congrArg Except.ok (hall.mpr h)

/-- A use of a token for a refresh that nothing but the lifetime of the token stands against. The
token gives `back` as its authentication. -/
structure Admits (store : JwtTokenStore σ) (services : DefaultTokenServices) (now : ℕ)
    (request : TokenRequest) (s : σ) (back : OAuth2Authentication) : Prop where
  supported : services.supportRefreshToken = true
  approved : store.Approves now back s
  reauthenticated : ∃ b, services.reauthenticated back = .ok b
  client : back.oAuth2Request.clientId ≠ none ∧ back.oAuth2Request.clientId = request.clientId
  revocable : store.Revocable services now back s
  scope : ∀ scope ∈ request.scope, scope ∈ normalizeScope back.oAuth2Request.scope

theorem reauthenticated_request {b : OAuth2Authentication}
    (h : services.reauthenticated back = .ok b) : b.oAuth2Request = back.oAuth2Request := by
  unfold reauthenticated at h
  split at h
  · obtain ⟨user, -, hreturn⟩ := except_bind_eq_ok.mp h
    rw [← Except.ok.inj hreturn]
  · rw [Except.ok.inj h]

theorem createRefreshedAuthentication_iff (request : TokenRequest) :
    (∃ b, createRefreshedAuthentication a request = .ok b) ↔
      ∀ scope ∈ request.scope, scope ∈ normalizeScope a.oAuth2Request.scope := by
  unfold createRefreshedAuthentication
  dsimp only
  split_ifs with hnil hall
  · refine iff_of_true ⟨_, rfl⟩ ?_
    rw [hnil]
    exact nofun
  · refine iff_of_true ⟨_, rfl⟩ fun scope hscope => ?_
    exact List.contains_iff_mem.mp (List.all_eq_true.mp hall scope hscope)
  · refine iff_of_false ?_ fun hscopes => hall (List.all_eq_true.mpr fun scope hscope => ?_)
    · intro h
      obtain ⟨b, hb⟩ := h
      exact hb
    · exact List.contains_iff_mem.mpr (hscopes scope hscope)

theorem createRefreshedAuthentication_clientId {b : OAuth2Authentication} {request : TokenRequest}
    (h : createRefreshedAuthentication a request = .ok b) :
    b.oAuth2Request.clientId = a.oAuth2Request.clientId := by
  unfold createRefreshedAuthentication at h
  dsimp only at h
  split_ifs at h
  · rw [← Except.ok.inj h]
    rfl
  · rw [← Except.ok.inj h]
    rfl

/-- The refresh token that the value is read as. -/
def readAs (v : String) (expiration : Option ℤ) : DefaultOAuth2RefreshToken where
  value := some v
  expiration := some (expiration.map wholeSecond)

theorem readRefreshToken_eq_some (h : store.jwtTokenEnhancer.Carries a expiration v)
    (hdate : ∀ e ∈ expiration, IsLong e) {now : ℕ} {s : σ} {r : DefaultOAuth2RefreshToken} :
    store.readRefreshToken now v s = .ok (some r) ↔
      store.allApproved now v s = .ok true ∧ r = readAs v expiration := by
  obtain ⟨read, hread, hvalue, hexpiration⟩ := readAccessToken_eq h hdate
  have hresult : store.readRefreshToken now v s = (store.allApproved now v s).map
      fun approved => if approved then some (readAs v expiration) else none := by
    unfold readRefreshToken readAs
    dsimp only [bind, Except.bind]
    rw [hread, ← hvalue, ← hexpiration]
    rfl
  rw [hresult]
  cases store.allApproved now v s with
  | error e => exact iff_of_false nofun fun hall => nomatch hall.1
  | ok approved =>
    cases approved with
    | false => exact iff_of_false nofun fun hall => nomatch hall.1
    | true =>
      constructor
      · intro hsome
        exact ⟨rfl, (Option.some.inj (Except.ok.inj hsome)).symm⟩
      · rintro ⟨-, rfl⟩
        rfl

/-- What is found for a refresh is the value itself, with the whole seconds of its expiration. -/
theorem readForRefresh_eq_ok (h : store.jwtTokenEnhancer.Carries a expiration v)
    (hdate : ∀ e ∈ expiration, IsLong e) {now : ℕ} {request : TokenRequest} {s : σ}
    {found : DefaultOAuth2RefreshToken × OAuth2Authentication} :
    store.readForRefresh services now v request s = .ok found ↔
      services.supportRefreshToken = true ∧ ∃ back,
        store.jwtTokenEnhancer.comesBack a = .ok back ∧ store.Approves now back s ∧
        services.reauthenticated back = .ok found.2 ∧
        (back.oAuth2Request.clientId ≠ none ∧ back.oAuth2Request.clientId = request.clientId) ∧
        found.1 = readAs v expiration := by
  have hback := readAuthentication_eq h
  have hstoredback : store.readAuthenticationForRefreshToken (readAs v expiration) =
      store.jwtTokenEnhancer.comesBack a := hback
  unfold readForRefresh
  simp only [except_bind_eq_ok, failIf_eq_ok, not_or, not_not]
  constructor
  · rintro ⟨_, hsupported, x, hx, refreshToken, hfound, stored, hstored, b, hb, _, hclient, hreturn⟩
    have hsome : x = some refreshToken := by
      cases x with
      | none => cases hfound
      | some r => rw [Except.ok.inj hfound]
    rw [hsome] at hx
    obtain ⟨happroved, hr⟩ := (readRefreshToken_eq_some h hdate).mp hx
    rw [hr, hstoredback] at hstored
    rw [reauthenticated_request hb] at hclient
    rw [← Except.ok.inj hreturn]
    have happroves := (allApproved_iff now s (hback.trans hstored)).mp happroved
    exact ⟨Bool.of_not_eq_false hsupported, stored, hstored, happroves, hb, hclient, hr⟩
  · rintro ⟨hsupported, back, hcomes, happroves, hb, hclient, hr⟩
    have happroved := (allApproved_iff now s (hback.trans hcomes)).mpr happroves
    have hread := (readRefreshToken_eq_some h hdate).mpr ⟨happroved, rfl⟩
    rw [← reauthenticated_request hb] at hclient
    refine ⟨(), by simp [hsupported], _, hread, _, rfl, back, ?_, found.2, hb, (), hclient, ?_⟩
    · rw [hstoredback]
      exact hcomes
    · rw [← hr]
      rfl

/-- The token is not expired exactly in the whole seconds that it has, if it has any. -/
theorem isExpired_readAs (now : ℕ) :
    ¬(readAs v expiration).isExpired now = true ↔ ∃ e ∈ expiration, (now : ℤ) ≤ wholeSecond e := by
  unfold readAs DefaultOAuth2RefreshToken.isExpired
  cases expiration with
  | none => simp
  | some e => simp

/-- A rotation returns exactly if the token, where it is not used again, can be removed. -/
theorem rotate_iff {m : Moment} {request : OAuth2Request}
    (hknown : KnownClient services request.clientId) {refreshToken : DefaultOAuth2RefreshToken}
    {s : σ} :
    (∃ r t, store.rotate services m request refreshToken s = .ok r t) ↔
      (services.reuseRefreshToken = false →
        ∃ t, store.removeRefreshToken m.now refreshToken s = .ok () t) := by
  unfold rotate
  cases hreuse : services.reuseRefreshToken with
  | true => exact iff_of_true ⟨_, _, rfl⟩ nofun
  | false =>
    rw [if_neg Bool.false_ne_true]
    constructor
    · intro ⟨r, t, hrotate⟩ _
      obtain ⟨_, u, hremoved, -⟩ := bind_eq_ok.mp hrotate
      exact ⟨u, hremoved⟩
    · intro hremoves
      obtain ⟨t, ht⟩ := hremoves rfl
      obtain ⟨r, hr⟩ := createRefreshToken_eq_ok m hknown
      refine ⟨r, t, ?_⟩
      rw [bind_of_ok ht]
      exact orError_eq_ok.mpr ⟨hr, rfl⟩

/-- A token that carries the authentication is accepted for a refresh exactly if the request is
admitted and the last whole second of its expiration, which it must have, is not over. -/
theorem refreshAccessToken_iff (hworks : store.jwtTokenEnhancer.Works)
    (h : store.jwtTokenEnhancer.Carries a expiration v) (hdate : ∀ e ∈ expiration, IsLong e)
    (hknown : KnownClient services a.oAuth2Request.clientId) (m : Moment) (request : TokenRequest)
    (s : σ) :
    (∃ token t, store.refreshAccessToken services m v request s = .ok token t) ↔
      (∃ back, store.jwtTokenEnhancer.comesBack a = .ok back ∧
        store.Admits services m.now request s back) ∧
      ∃ e ∈ expiration, (m.now : ℤ) ≤ wholeSecond e := by
  have hback := readAuthentication_eq h
  have hremove : ∀ back, store.jwtTokenEnhancer.comesBack a = .ok back →
      store.removeRefreshToken m.now (readAs v expiration) = store.revocation m.now back :=
    fun back hcomes => remove_eq m.now (hback.trans hcomes)
  have hrefreshedKnown : ∀ back, store.jwtTokenEnhancer.comesBack a = .ok back → ∀ {b c},
      services.reauthenticated back = .ok b → createRefreshedAuthentication b request = .ok c →
        KnownClient services c.oAuth2Request.clientId := by
    intro back hcomes b c hb hrefreshed
    rw [createRefreshedAuthentication_clientId hrefreshed, reauthenticated_request hb,
      comesBack_clientId hcomes]
    exact hknown
  unfold refreshAccessToken removeAccessTokenUsingRefreshToken dropExpired
  constructor
  · rintro ⟨token, t, hrun⟩
    -- each step of the run returned: read back what each needed
    obtain ⟨_, _, hget, hrun⟩ := bind_eq_ok.mp hrun
    cases hget
    obtain ⟨found, _, hfound, hrun⟩ := bind_eq_ok.mp hrun
    obtain ⟨hread, rfl⟩ := orError_eq_ok.mp hfound
    obtain ⟨hsupported, back, hcomes, happroves, hb, hclient, hr⟩ :=
      (readForRefresh_eq_ok h hdate).mp hread
    rw [hr] at hrun
    obtain ⟨_, u, hremoved, hrun⟩ := bind_eq_ok.mp hrun
    obtain ⟨_, _, hdrop, hrun⟩ := bind_eq_ok.mp hrun
    obtain ⟨hlive, rfl⟩ := onlyIf_throw_eq_ok.mp hdrop
    obtain ⟨b, _, hrefreshed, hrun⟩ := bind_eq_ok.mp hrun
    obtain ⟨hnarrowed, rfl⟩ := orError_eq_ok.mp hrefreshed
    obtain ⟨_, w, hrotate, -⟩ := bind_eq_ok.mp hrun
    rw [hremove back hcomes] at hremoved
    have hscope := (createRefreshedAuthentication_iff request).mp ⟨b, hnarrowed⟩
    rw [reauthenticated_request hb] at hscope
    refine ⟨⟨back, hcomes, hsupported, happroves, ⟨_, hb⟩, hclient, ⟨u, hremoved, ?_⟩, hscope⟩,
      (isExpired_readAs m.now).mp hlive⟩
    intro hreuse
    obtain ⟨x, hagain⟩ := (rotate_iff (hrefreshedKnown back hcomes hb hnarrowed)).mp
      ⟨_, w, hrotate⟩ hreuse
    rw [hremove back hcomes] at hagain
    exact ⟨x, hagain⟩
  · rintro ⟨⟨back, hcomes, hadmits⟩, hlive⟩
    -- the steps return one after the other, where a rotation removes the token once more
    obtain ⟨b, hb⟩ := hadmits.reauthenticated
    obtain ⟨u, hremoved, hagain⟩ := hadmits.revocable
    have hfound : store.readForRefresh services m.now v request s = .ok (readAs v expiration, b) :=
      (readForRefresh_eq_ok h hdate).mpr
        ⟨hadmits.supported, back, hcomes, hadmits.approved, hb, hadmits.client, rfl⟩
    have hscope := hadmits.scope
    rw [← reauthenticated_request hb] at hscope
    obtain ⟨c, hrefreshed⟩ := (createRefreshedAuthentication_iff request).mpr hscope
    have hknown' := hrefreshedKnown back hcomes hb hrefreshed
    have hrotate : ∃ r w, store.rotate services m c.oAuth2Request (readAs v expiration) u =
        .ok r w := by
      apply (rotate_iff hknown').mpr
      intro hreuse
      rw [hremove back hcomes]
      exact hagain hreuse
    obtain ⟨r, w, hrotate⟩ := hrotate
    obtain ⟨token, htoken⟩ := newAccessToken_eq_ok hworks m r hknown'
    refine ⟨token, w, ?_⟩
    rw [bind_of_ok (get_apply s), bind_of_ok (orError_eq_ok.mpr ⟨hfound, rfl⟩)]
    dsimp only
    rw [hremove back hcomes, bind_of_ok hremoved,
      bind_of_ok (onlyIf_throw_eq_ok.mpr ⟨(isExpired_readAs m.now).mpr hlive, rfl⟩),
      bind_of_ok (orError_eq_ok.mpr ⟨hrefreshed, rfl⟩), bind_of_ok hrotate]
    exact orError_eq_ok.mpr ⟨htoken, rfl⟩

theorem loadAuthentication_iff (h : store.jwtTokenEnhancer.Carries a expiration v)
    (hdate : ∀ e ∈ expiration, IsLong e) (hknown : KnownClient services a.oAuth2Request.clientId)
    (now : ℕ) (s : σ) :
    (∃ b t, store.loadAuthentication services now v s = .ok b t) ↔
      (∃ back, store.jwtTokenEnhancer.comesBack a = .ok back) ∧
        ∀ e ∈ expiration, (now : ℤ) ≤ wholeSecond e := by
  obtain ⟨read, hread, hvalue, hexpiration⟩ := readAccessToken_eq h hdate
  have hback := readAuthentication_eq h
  have hexpired : ¬read.isExpired now = true ↔ ∀ e ∈ expiration, (now : ℤ) ≤ wholeSecond e := by
    unfold ExtractedAccessToken.isExpired
    rw [hexpiration]
    cases expiration with
    | none => simp
    | some e => simp
  unfold loadAuthentication dropExpiredAccess
  rw [hread, orError_ok_bind, hvalue, hback]
  constructor
  · rintro ⟨b, t, hrun⟩
    obtain ⟨_, _, hdrop, hrun⟩ := bind_eq_ok.mp hrun
    obtain ⟨hlive, rfl⟩ := onlyIf_throw_eq_ok.mp hdrop
    obtain ⟨back, _, hcomes, -⟩ := bind_eq_ok.mp hrun
    exact ⟨⟨back, (orError_eq_ok.mp hcomes).1⟩, hexpired.mp hlive⟩
  · rintro ⟨⟨back, hcomes⟩, hlive⟩
    have hclient : KnownClient services back.oAuth2Request.clientId := by
      rw [comesBack_clientId hcomes]
      exact hknown
    refine ⟨back, s, ?_⟩
    rw [bind_of_ok (onlyIf_throw_eq_ok.mpr ⟨hexpired.mpr hlive, rfl⟩), hcomes, orError_ok_bind,
      checkClient_eq_ok hclient]
    rfl

end Reading

section Kinds

variable {σ : Type} (store : JwtTokenStore σ) (services : DefaultTokenServices)

/-- The value is accepted for a refresh. -/
def Refreshes (later : Moment) (v : String) (request : TokenRequest) (s : σ) : Prop :=
  ∃ token t, store.refreshAccessToken services later v request s = .ok token t

/-- The value is accepted as that of an access token. -/
def Loads (now : ℕ) (v : String) (s : σ) : Prop :=
  ∃ b t, store.loadAuthentication services now v s = .ok b t

/-- The request is admitted for a token of the authentication. -/
def Admissible (now : ℕ) (a : OAuth2Authentication) (request : TokenRequest) (s : σ) : Prop :=
  ∃ back, store.jwtTokenEnhancer.comesBack a = .ok back ∧ store.Admits services now request s back

/-- At a later use neither token of an issue does what the other one is for, and a request that is
admitted is refused exactly if the refresh token itself has expired. -/
structure KeptApart (a : OAuth2Authentication) (token : DefaultOAuth2AccessToken Claim)
    (later : Moment) (request : TokenRequest) (s : σ) : Prop where
  access : ∀ v ∈ token.value, ¬store.Refreshes services later v request s
  refresh : ∀ r ∈ token.refreshToken, ∀ v ∈ r.value, ¬store.Loads services later.now v s
  lifetime : ∀ r ∈ token.refreshToken, ∀ v ∈ r.value,
    store.Admissible services later.now a request s →
      (¬store.Refreshes services later v request s ↔ r.isExpired later.now)

/-- The expiration that is encoded is over when that of the refresh token is. A token without one
has that of the access token, which then must not be over. -/
def OwnLifetime (token : DefaultOAuth2AccessToken Claim) (r : DefaultOAuth2RefreshToken)
    (now : ℕ) : Prop :=
  match r.expiration with
  | none => ∃ e ∈ token.expiration, (now : ℤ) ≤ wholeSecond e
  | some expiration => ∀ e ∈ expiration, ((now : ℤ) ≤ wholeSecond e ↔ (now : ℤ) ≤ e)

/-- The uses at which the kinds are kept apart. Whatever would be admitted comes when the access
token is over, or the access token never expires, which a refresh token must. What a refresh token
gives back is asked for when the expiration in it is over. -/
structure Separated (a : OAuth2Authentication) (token : DefaultOAuth2AccessToken Claim)
    (later : Moment) (request : TokenRequest) (s : σ) : Prop where
  access : store.Admissible services later.now a request s →
    ∀ e ∈ token.expiration, wholeSecond e < later.now
  refresh : ∀ r ∈ token.refreshToken, (∃ back, store.jwtTokenEnhancer.comesBack a = .ok back) →
    ∃ e ∈ r.expiration.getD token.expiration, wholeSecond e < later.now
  lifetime : ∀ r ∈ token.refreshToken, store.Admissible services later.now a request s →
    OwnLifetime token r later.now

/-- The dates of a token. -/
structure Dated (token : DefaultOAuth2AccessToken Claim) : Prop where
  access : ∀ e ∈ token.expiration, IsLong e
  refresh : ∀ r ∈ token.refreshToken, ∀ expiration ∈ r.expiration, ∀ e ∈ expiration, IsLong e

variable {store services} {m : Moment} {a : OAuth2Authentication}
  {refreshToken : Option DefaultOAuth2RefreshToken} {token : DefaultOAuth2AccessToken Claim}

theorem newAccessToken_carries (hworks : store.jwtTokenEnhancer.Works)
    (hreads : ∀ bare, bareToken services m a.oAuth2Request refreshToken = .ok bare →
      ∀ x ∈ encodedTokens bare, store.jwtTokenEnhancer.ReadsBack
        (store.jwtTokenEnhancer.tokenConverter.convertAccessToken x a))
    (hissue : store.newAccessToken services m a refreshToken = .ok token) :
    KnownClient services a.oAuth2Request.clientId ∧
      (∃ v, token.value = some v ∧ store.jwtTokenEnhancer.Carries a token.expiration v) ∧
      ∀ r ∈ token.refreshToken, ∃ v, r.value = some v ∧
        store.jwtTokenEnhancer.Carries a (r.expiration.getD token.expiration) v := by
  obtain ⟨bare, hbare, henhance⟩ := except_bind_eq_ok.mp hissue
  obtain ⟨hscope, hinfo⟩ := bareToken_carries_nothing hbare
  have hknown := (bareToken_eq_ok m a.oAuth2Request refreshToken).mp ⟨bare, hbare⟩
  exact ⟨hknown, hworks.carries_enhance hscope hinfo (hreads bare hbare) henhance⟩

/-- Every new access token comes from the one method, be it for a grant or for a refresh. -/
theorem createAccessToken_issues (h : store.createAccessToken services m a = .ok token) :
    ∃ refreshToken, store.newAccessToken services m a refreshToken = .ok token := by
  obtain ⟨refreshToken, -, hissue⟩ := except_bind_eq_ok.mp h
  exact ⟨refreshToken, hissue⟩

theorem refreshAccessToken_issues {v : String} {request : TokenRequest} {s t : σ}
    (h : store.refreshAccessToken services m v request s = .ok token t) :
    ∃ a refreshToken, store.newAccessToken services m a refreshToken = .ok token := by
  obtain ⟨_, _, -, h⟩ := bind_eq_ok.mp h
  obtain ⟨_, _, -, h⟩ := bind_eq_ok.mp h
  obtain ⟨_, _, -, h⟩ := bind_eq_ok.mp h
  obtain ⟨_, _, -, h⟩ := bind_eq_ok.mp h
  obtain ⟨b, _, -, h⟩ := bind_eq_ok.mp h
  obtain ⟨refreshToken, _, -, h⟩ := bind_eq_ok.mp h
  exact ⟨b, refreshToken, (orError_eq_ok.mp h).1⟩

theorem ownLifetime_iff (r : DefaultOAuth2RefreshToken) (now : ℕ) :
    (¬(∃ e ∈ r.expiration.getD token.expiration, (now : ℤ) ≤ wholeSecond e) ↔
      r.isExpired now = true) ↔ OwnLifetime token r now := by
  unfold OwnLifetime DefaultOAuth2RefreshToken.isExpired
  cases r.expiration with
  | none => simp
  | some expiration =>
    cases expiration with
    | none => simp
    | some e =>
      simp
      omega

/-- The two kinds of tokens are kept apart at a later use exactly if the use is separated. -/
theorem kinds_apart_iff (hworks : store.jwtTokenEnhancer.Works)
    (hreads : ∀ bare, bareToken services m a.oAuth2Request refreshToken = .ok bare →
      ∀ x ∈ encodedTokens bare, store.jwtTokenEnhancer.ReadsBack
        (store.jwtTokenEnhancer.tokenConverter.convertAccessToken x a))
    (hissue : store.newAccessToken services m a refreshToken = .ok token) (hdated : Dated token)
    (later : Moment) (request : TokenRequest) (s : σ) :
    store.KeptApart services a token later request s ↔
      store.Separated services a token later request s := by
  obtain ⟨hknown, ⟨v, hv, hcarries⟩, hrefresh⟩ := newAccessToken_carries hworks hreads hissue
  have haccess : store.Refreshes services later v request s ↔
      store.Admissible services later.now a request s ∧
        ∃ e ∈ token.expiration, (later.now : ℤ) ≤ wholeSecond e :=
    refreshAccessToken_iff hworks hcarries hdated.access hknown later request s
  have hdates : ∀ r ∈ token.refreshToken, ∀ e ∈ r.expiration.getD token.expiration, IsLong e := by
    intro r hr
    cases hexpiration : r.expiration with
    | none => exact hdated.access
    | some expiration => exact hdated.refresh r hr expiration hexpiration
  constructor
  · intro hkept
    -- a token in the wrong place would be served there, against the first premise of each part
    refine ⟨?_, ?_, ?_⟩
    · intro hadmissible e he
      by_contra hlive
      exact hkept.access v hv (haccess.mpr ⟨hadmissible, e, he, not_lt.mp hlive⟩)
    · intro r hr hback
      obtain ⟨w, hw, hcarried⟩ := hrefresh r hr
      have hloads := hkept.refresh r hr w hw
      by_contra hlive
      apply hloads
      apply (loadAuthentication_iff hcarried (hdates r hr) hknown later.now s).mpr
      refine ⟨hback, fun e he => not_lt.mp fun hover => hlive ⟨e, he, hover⟩⟩
    · intro r hr hadmissible
      obtain ⟨w, hw, hcarried⟩ := hrefresh r hr
      have hown := hkept.lifetime r hr w hw hadmissible
      have hrefreshes := refreshAccessToken_iff hworks hcarried (hdates r hr) hknown later request s
      rw [← ownLifetime_iff, ← hown]
      apply not_congr
      exact ⟨fun hlive => hrefreshes.mpr ⟨hadmissible, hlive⟩, fun h => (hrefreshes.mp h).2⟩
  · intro hseparated
    refine ⟨?_, ?_, ?_⟩
    · intro w hw hrefreshes
      have hsame : v = w := Option.some.inj (hv.symm.trans hw)
      rw [← hsame] at hrefreshes
      obtain ⟨hadmissible, e, he, hlive⟩ := haccess.mp hrefreshes
      exact absurd (hseparated.access hadmissible e he) (not_lt.mpr hlive)
    · intro r hr w hw hloads
      obtain ⟨w', hw', hcarried⟩ := hrefresh r hr
      have hsame : w' = w := Option.some.inj (hw'.symm.trans hw)
      rw [hsame] at hcarried
      obtain ⟨hback, hlive⟩ :=
        (loadAuthentication_iff hcarried (hdates r hr) hknown later.now s).mp hloads
      obtain ⟨e, he, hover⟩ := hseparated.refresh r hr hback
      exact absurd hover (not_lt.mpr (hlive e he))
    · intro r hr w hw hadmissible
      obtain ⟨w', hw', hcarried⟩ := hrefresh r hr
      have hsame : w' = w := Option.some.inj (hw'.symm.trans hw)
      rw [hsame] at hcarried
      have hrefreshes := refreshAccessToken_iff hworks hcarried (hdates r hr) hknown later request s
      rw [← (ownLifetime_iff r later.now).mpr (hseparated.lifetime r hr hadmissible)]
      apply not_congr
      exact ⟨fun h => (hrefreshes.mp h).2, fun hlive => hrefreshes.mpr ⟨hadmissible, hlive⟩⟩

end Kinds

/-! ### The tokens of a kiosk -/

/-- The document of some claims, whose texts need no escapes. -/
def printed (claims : Claims) : String :=
  let element : Element → String
    | .text value => "\"" ++ value ++ "\""
    | element => element.valueOf
  let claim : Claim → String
    | .null => "null"
    | .text value => "\"" ++ value ++ "\""
    | .number value => toString value
    | .collection elements => "[" ++ String.intercalate "," (elements.map element) ++ "]"
    | .object name => name
  "\x7b" ++ String.intercalate "," ((claims.map Prod.fst).dedup.map fun name =>
    "\"" ++ name ++ "\":" ++ claim ((claims.get name).getD .null)) ++ "\x7d"

/-- A signer whose signature is the end of what is signed, behind a mark. -/
def sealSigner : Signer where
  algorithm := "HMACSHA256"
  sign input := .ok (83 :: input.drop (input.length - 4))

/-- A converter with a mapper that knows two documents. -/
def kioskConverter (first second : Claims) : JwtAccessTokenConverter where
  formatMap claims := .ok (printed claims)
  parseMap content :=
    if content = printed first then .ok first
    else if content = printed second then .ok second
    else .error (illegalArgument "Cannot parse json")
  json := JwtHelper.twoDocuments
  signer := sealSigner
  verifier input crypto :=
    if sealSigner.sign input = .ok crypto then .ok ()
    else .error (runtime "Calculated signature did not match actual value")

theorem kioskConverter_works (first second : Claims) : (kioskConverter first second).Works where
  writes claims _ := by
    refine ⟨printed claims, rfl, ?_⟩
    intro hempty
    have hchars := congrArg String.toList hempty
    simp [printed] at hchars
  header := ⟨"HS256", rfl, JwtHelper.twoDocuments_reads⟩
  signs input := ⟨_, rfl, List.cons_ne_nil _ _⟩
  verifies input crypto := by
    show (if sealSigner.sign input = .ok crypto then _ else _) = _ ↔ sealSigner.sign input = _
    split_ifs with hsame
    · exact iff_of_true rfl hsame
    · exact iff_of_false nofun hsame

def kioskServices : DefaultTokenServices where
  supportRefreshToken := true
  refreshTokenValiditySeconds := 0
  accessTokenValiditySeconds := 3600

def kioskMoment : Moment := ⟨1700000000000, "a1", "r1"⟩

/-- The claims of alice's tokens. -/
def kioskClaims (id : String) : Claims :=
  DefaultAccessTokenConverter.convertAccessToken {} {
    value := some id, expiration := some 1700003600000, scope := some ["read"]
    additionalInformation := [("jti", .text id)] } (signedIn "alice" appRequest)

def kioskStore : JwtTokenStore Unit where
  jwtTokenEnhancer := kioskConverter (kioskClaims "a1") (kioskClaims "r1")

def refreshRequest : TokenRequest := ⟨[], some "app", [], none⟩

theorem kioskConverter_readsBack (first second : Claims) (h : printed first ≠ printed second) :
    (kioskConverter first second).ReadsBack first ∧
      (kioskConverter first second).ReadsBack second := by
  constructor
  · intro content hcontent
    rw [← Except.ok.inj hcontent]
    exact ⟨first, if_pos rfl, fun _ => rfl⟩
  · intro content hcontent
    rw [← Except.ok.inj hcontent]
    exact ⟨second, (if_neg h.symm).trans (if_pos rfl), fun _ => rfl⟩

theorem kioskStore_readsBack (bare : DefaultOAuth2AccessToken Claim)
    (h : bareToken kioskServices kioskMoment (signedIn "alice" appRequest).oAuth2Request
      (some { value := some "r1" }) = .ok bare) :
    ∀ x ∈ encodedTokens bare, kioskStore.jwtTokenEnhancer.ReadsBack
      (kioskStore.jwtTokenEnhancer.tokenConverter.convertAccessToken x
        (signedIn "alice" appRequest)) := by
  have hdocuments := kioskConverter_readsBack (kioskClaims "a1") (kioskClaims "r1")
    (by decide +kernel)
  rw [← Except.ok.inj h]
  intro x hx
  rcases List.mem_cons.mp hx with rfl | hx
  · exact hdocuments.1
  · rw [List.mem_singleton.mp hx]
    exact hdocuments.2

theorem kioskStore_issues : ∃ token, kioskStore.newAccessToken kioskServices kioskMoment
    (signedIn "alice" appRequest) (some { value := some "r1" }) = .ok token :=
  newAccessToken_eq_ok (kioskConverter_works _ _) kioskMoment _ nofun

theorem kioskStore_dates {token : DefaultOAuth2AccessToken Claim}
    (h : kioskStore.newAccessToken kioskServices kioskMoment (signedIn "alice" appRequest)
      (some { value := some "r1" }) = .ok token) :
    token.expiration = some 1700003600000 ∧ ∃ r ∈ token.refreshToken, r.expiration = none := by
  obtain ⟨bare, hbare, henhance⟩ := except_bind_eq_ok.mp h
  obtain ⟨haccess, hrefresh⟩ := enhance_expiration henhance
  rw [← Except.ok.inj hbare] at haccess hrefresh
  obtain ⟨r, hr, hexpiration⟩ := Option.map_eq_some_iff.mp hrefresh
  exact ⟨haccess, r, hr, hexpiration⟩

theorem kioskStore_dated {token : DefaultOAuth2AccessToken Claim}
    (h : kioskStore.newAccessToken kioskServices kioskMoment (signedIn "alice" appRequest)
      (some { value := some "r1" }) = .ok token) : Dated token := by
  obtain ⟨haccess, r, hr, hexpiration⟩ := kioskStore_dates h
  constructor
  · rw [haccess]
    decide
  · intro r' hr' e he
    rw [Option.some.inj (hr'.symm.trans hr), hexpiration] at he
    cases he

theorem kinds_apart_kiosk : ∃ token, kioskStore.newAccessToken kioskServices kioskMoment
    (signedIn "alice" appRequest) (some { value := some "r1" }) = .ok token ∧
      (kioskStore.KeptApart kioskServices (signedIn "alice" appRequest) token
          ⟨1700000001000, "a2", "r2"⟩ refreshRequest () ↔
        kioskStore.Separated kioskServices (signedIn "alice" appRequest) token
          ⟨1700000001000, "a2", "r2"⟩ refreshRequest ()) := by
  obtain ⟨token, hissue⟩ := kioskStore_issues
  exact ⟨token, hissue, kinds_apart_iff (kioskConverter_works _ _) kioskStore_readsBack hissue
    (kioskStore_dated hissue) ⟨1700000001000, "a2", "r2"⟩ refreshRequest ()⟩

/-- What alice's tokens give back of her authentication. -/
theorem kioskStore_comesBack : ∃ back,
    kioskStore.jwtTokenEnhancer.comesBack (signedIn "alice" appRequest) = .ok back ∧
      ∀ now, kioskStore.Admits kioskServices now refreshRequest () back := by
  have hcomes : kioskStore.jwtTokenEnhancer.comesBack (signedIn "alice" appRequest) = .ok {
      oAuth2Request := {
        requestParameters := [("client_id", "app")], clientId := some "app", approved := true
        scope := ["read"] }
      userAuthentication := some (.token {
        principal := .name (some "Basic Authentication"), credentials := some "N/A"
        authorities := ["ROLE_USER", "ORDINARY_USER"], authenticated := true }) } := by
    decide +kernel
  refine ⟨_, hcomes, fun now => ?_⟩
  exact {
    supported := rfl, approved := trivial, reauthenticated := ⟨_, rfl⟩, client := by decide
    revocable := ⟨(), rfl, nofun⟩, scope := nofun }

/-- A second after the issue the access token refreshes and the refresh token loads alice's
authentication. When the access token is over, the refresh token is refused, though it never
expires. -/
theorem kinds_interchange :
    (¬ ∀ later token, kioskStore.newAccessToken kioskServices kioskMoment
      (signedIn "alice" appRequest) (some { value := some "r1" }) = .ok token →
        ∀ v ∈ token.value, ¬kioskStore.Refreshes kioskServices later v refreshRequest ()) ∧
      (¬ ∀ now token, kioskStore.newAccessToken kioskServices kioskMoment
        (signedIn "alice" appRequest) (some { value := some "r1" }) = .ok token →
          ∀ r ∈ token.refreshToken, ∀ v ∈ r.value, ¬kioskStore.Loads kioskServices now v ()) ∧
      ¬ ∀ later token, kioskStore.newAccessToken kioskServices kioskMoment
        (signedIn "alice" appRequest) (some { value := some "r1" }) = .ok token →
          ∀ r ∈ token.refreshToken, ∀ v ∈ r.value, kioskStore.Admissible kioskServices later.now
            (signedIn "alice" appRequest) refreshRequest () →
              (¬kioskStore.Refreshes kioskServices later v refreshRequest () ↔
                r.isExpired later.now) := by
  have hworks := kioskConverter_works (kioskClaims "a1") (kioskClaims "r1")
  obtain ⟨token, hissue⟩ := kioskStore_issues
  obtain ⟨hknown, ⟨v, hv, hcarries⟩, hrefresh⟩ :=
    newAccessToken_carries hworks kioskStore_readsBack hissue
  obtain ⟨hexpiration, r, hr, hnever⟩ := kioskStore_dates hissue
  obtain ⟨w, hw, hcarried⟩ := hrefresh r hr
  obtain ⟨back, hcomes, hadmits⟩ := kioskStore_comesBack
  rw [hexpiration] at hcarries hcarried
  rw [hnever] at hcarried
  refine ⟨?_, ?_, ?_⟩
  · intro hnone
    refine hnone ⟨1700000001000, "a2", "r2"⟩ token hissue v hv ?_
    apply (refreshAccessToken_iff hworks hcarries (by decide) hknown _ refreshRequest ()).mpr
    exact ⟨⟨back, hcomes, hadmits _⟩, _, rfl, by decide⟩
  · intro hnone
    refine hnone 1700000001000 token hissue r hr w hw ?_
    apply (loadAuthentication_iff hcarried (by decide) hknown _ ()).mpr
    exact ⟨⟨back, hcomes⟩, by decide⟩
  · intro hown
    have hlate := hown ⟨1700003600001, "a2", "r2"⟩ token hissue r hr w hw ⟨back, hcomes, hadmits _⟩
    have hrefused : ¬kioskStore.Refreshes kioskServices ⟨1700003600001, "a2", "r2"⟩ w
        refreshRequest () := by
      intro hrefreshes
      obtain ⟨-, e, he, hlive⟩ := (refreshAccessToken_iff hworks hcarried (by decide) hknown
        ⟨1700003600001, "a2", "r2"⟩ refreshRequest ()).mp hrefreshes
      rw [← Option.some.inj he] at hlive
      exact absurd hlive (by decide)
    have hexpired := hlate.mp hrefused
    unfold DefaultOAuth2RefreshToken.isExpired at hexpired
    rw [hnever] at hexpired
    cases hexpired

end JwtTokenStore

end MaxKey.OAuth2
