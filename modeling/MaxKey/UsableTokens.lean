import MaxKey.TokenGrants

namespace MaxKey.OAuth2
open JavaException Effects InMemoryTokenStore TokenRegistry

namespace DefaultTokenServices

/-- Refresh tokens are supported, the enhancer adds to every token, and every user of a stored
token authenticates anew. -/
structure Cooperative (services : DefaultTokenServices) : Prop where
  supports : services.supportRefreshToken = true
  keeps : services.KeepsTokens
  enhances : ∀ enhancer ∈ services.accessTokenEnhancer, ∀ token a,
    ∃ enhanced, enhancer.enhance token a = .ok enhanced
  reauthenticates : ∀ a, ∃ b, services.reauthenticated a = .ok b

variable (digest : String → String) (services : DefaultTokenServices)

/-- A grant finds no token under its key but one of the same client. -/
def SameClient (s : InMemoryTokenStore) : Call → Prop
  | .operation (.createAccessToken _ a) =>
    ∀ token ∈ s.authenticationToAccessTokenStore (extractKey digest a),
      ∀ b ∈ s.authenticationStore token.value, b.oAuth2Request.clientId = a.oAuth2Request.clientId
  | _ => True

instance (s : InMemoryTokenStore) : DecidablePred (SameClient digest s)
  | .operation (.createAccessToken _ _) =>
    inferInstanceAs (Decidable (∀ _ ∈ _, ∀ _ ∈ _, _ = _))
  | .operation (.refreshAccessToken _ _ _) | .operation (.revokeToken _)
  | .loadAuthentication _ _ => isTrue trivial

/-- The call neither uses up nor revokes the refresh token, and is not later than `now`. -/
def Spares (r : String) (now : ℕ) (s : InMemoryTokenStore) : Call → Prop
  | .operation (.createAccessToken m _) => m.now ≤ now
  | .operation (.refreshAccessToken _ value _) => value ≠ r
  | .operation (.revokeToken v) => ∀ t ∈ s.accessTokenStore v, ∀ y ∈ t.refreshToken, y.value ≠ r
  | .loadAuthentication _ _ => True

instance (r : String) (now : ℕ) (s : InMemoryTokenStore) : DecidablePred (Spares r now s)
  | .operation (.createAccessToken m _) => inferInstanceAs (Decidable (m.now ≤ now))
  | .operation (.refreshAccessToken _ value _) => inferInstanceAs (Decidable (value ≠ r))
  | .operation (.revokeToken _) => inferInstanceAs (Decidable (∀ _ ∈ _, ∀ _ ∈ _, _ ≠ r))
  | .loadAuthentication _ _ => isTrue trivial

/-- The token that the last call of a run has created for an authentication can be used at once,
is created again, and can be refreshed as long as its refresh token lives. -/
structure StandsFor (flushInterval : ℤ) (calls : List Call) (m : Moment) (a : OAuth2Authentication)
    (t : OAuth2AccessToken) : Prop where
  live : t.isExpired m.now = false
  loads : ∀ now, t.isExpired now = false →
    outcome (services.loadAuthentication digest now t.value)
      (services.run digest flushInterval calls) = .ok a
  again : ∀ m', t.isExpired m'.now = false →
    outcome (services.createAccessToken digest m' a) (services.run digest flushInterval calls) =
      .ok t
  refreshes : ∀ r ∈ t.refreshToken, ∀ after m' request, Genuine (calls ++ after) →
    Runs.Meets (services.call digest) (SameClient digest)
      (services.run digest flushInterval calls) after →
    Runs.Meets (services.call digest) (Spares r.value m'.now)
      (services.run digest flushInterval calls) after →
    r.isExpired m'.now = false → request.clientId = a.oAuth2Request.clientId →
      request.scope = [] → ∃ t', outcome (services.refreshAccessToken digest m' r.value request)
        (services.run digest flushInterval (calls ++ after)) = .ok t'

section Settings

variable {services} {request request' : OAuth2Request} {a : OAuth2Authentication} {m : Moment}
  {token : OAuth2AccessToken} {r : Option OAuth2RefreshToken}

/-- A setting is read from the client alone. -/
theorem clientSetting_congr {α : Type} {byDefault : α} {setting : ClientDetails → Option α}
    (h : request.clientId = request'.clientId) :
    services.clientSetting byDefault setting request =
      services.clientSetting byDefault setting request' := by
  unfold clientSetting
  rw [h]

theorem checkClient_of_setting {α : Type} {byDefault value : α}
    {setting : ClientDetails → Option α}
    (h : services.clientSetting byDefault setting request = .ok value) :
    services.checkClient request.clientId = .ok () := by
  unfold clientSetting at h
  unfold checkClient
  cases hclients : services.clientDetailsService with
  | none => rfl
  | some clients =>
    simp only [hclients] at h
    obtain ⟨client, hclient, -⟩ := except_bind_eq_ok.mp h
    simp only [hclient]

/-- A registered client has every setting. -/
theorem setting_of_checkClient {α : Type} (byDefault : α) (setting : ClientDetails → Option α)
    (h : services.checkClient request.clientId = .ok ()) :
    ∃ value, services.clientSetting byDefault setting request = .ok value := by
  unfold checkClient at h
  unfold clientSetting
  cases hclients : services.clientDetailsService with
  | none => exact ⟨byDefault, rfl⟩
  | some clients =>
    simp only [hclients] at h
    cases hclient : clients.loadClientByClientId request.clientId with
    | ok client =>
      refine ⟨(setting client).getD byDefault, ?_⟩
      simp only [hclient]
      rfl
    | error e =>
      simp only [hclient] at h
      split_ifs at h

theorem newAccessToken_of_checkClient (hservices : Cooperative services) (m : Moment)
    (r : Option OAuth2RefreshToken)
    (h : services.checkClient a.oAuth2Request.clientId = .ok ()) :
    ∃ token, services.newAccessToken m a r = .ok token := by
  obtain ⟨validity, hvalidity⟩ :=
    setting_of_checkClient services.accessTokenValiditySeconds
      ClientDetails.accessTokenValiditySeconds h
  have hseconds : services.getAccessTokenValiditySeconds a.oAuth2Request = .ok validity := hvalidity
  unfold newAccessToken
  dsimp only
  rw [hseconds]
  cases henhancer : services.accessTokenEnhancer with
  | none => exact ⟨_, rfl⟩
  | some enhancer => exact hservices.enhances enhancer henhancer _ a

theorem checkClient_of_newAccessToken (h : services.newAccessToken m a r = .ok token) :
    services.checkClient a.oAuth2Request.clientId = .ok () := by
  obtain ⟨validity, hvalidity, -⟩ := except_bind_eq_ok.mp h
  exact checkClient_of_setting hvalidity

theorem createRefreshToken_of_supported (m : Moment)
    (h : services.isSupportRefreshToken request = .ok true) :
    ∃ y, services.createRefreshToken m request = .ok (some y) := by
  obtain ⟨validity, hvalidity⟩ :=
    setting_of_checkClient services.refreshTokenValiditySeconds
      ClientDetails.refreshTokenValiditySeconds (checkClient_of_setting h)
  have hseconds : services.getRefreshTokenValiditySeconds request = .ok validity := hvalidity
  unfold createRefreshToken
  rw [h]
  refine ⟨⟨m.refreshTokenValue, expiration m.now validity⟩, ?_⟩
  show (do let validitySeconds ← services.getRefreshTokenValiditySeconds request; _) = _
  rw [hseconds]
  rfl

/-- A new token has not expired at the moment of its creation. -/
theorem not_expired_of_new (hkeeps : services.KeepsTokens)
    (h : services.newAccessToken m a r = .ok token) : token.isExpired m.now = false := by
  obtain ⟨validity, -, htoken⟩ := newAccessToken_eq_ok hkeeps h
  rw [htoken]
  unfold OAuth2AccessToken.isExpired expiration
  dsimp only
  split_ifs with hpositive
  · rw [Option.any_some, decide_eq_false_iff_not]
    omega
  · rfl

/-- What has not expired had not before. -/
theorem not_expired_of_le {y : OAuth2RefreshToken} {now later : ℕ} (hle : now ≤ later)
    (h : y.isExpired later = false) : y.isExpired now = false := by
  unfold OAuth2RefreshToken.isExpired at h ⊢
  cases hexpiration : y.expiration with
  | none => rfl
  | some expiration =>
    rw [hexpiration, Option.any_some, decide_eq_false_iff_not] at h
    rw [Option.any_some, decide_eq_false_iff_not]
    omega

end Settings

section Invariant

variable {digest} {services} {used : List String} {s : InMemoryTokenStore}
  {g g' : TokenRegistry} {m : Moment} {a b : OAuth2Authentication} {token t : OAuth2AccessToken}
  {x : OAuth2RefreshToken} {r value : String} {request : TokenRequest}
  {o : Option OAuth2AccessToken} {calls after : List Call}

/-- The clients of live tokens are registered, those of refresh tokens may refresh, and a token
has the client of the refresh token that it carries. -/
structure Served (services : DefaultTokenServices) (g : TokenRegistry) : Prop where
  client : ∀ v a, g.authentication v = some a →
    services.checkClient a.oAuth2Request.clientId = .ok ()
  kept : ∀ r x, g.refreshToken r = some x → ∃ b, g.refreshAuthentication r = some b ∧
    services.isSupportRefreshToken b.oAuth2Request = .ok true
  carried : ∀ v t r, g.token v = some t → Carries t r → ∃ a b, g.authentication v = some a ∧
    g.refreshAuthentication r = some b ∧ a.oAuth2Request.clientId = b.oAuth2Request.clientId

theorem Served.shrink (h : Served services g) (hg : Shrinks g' g) (hs : Sound digest used g') :
    Served services g' where
  client v a ha := by
    obtain ⟨t, ht⟩ := hs.live_of_authentication ha
    rw [(hg.token v t ht).2] at ha
    exact h.client v a ha
  kept r x hx := by
    obtain ⟨hkept, hauth⟩ := hg.refreshToken r x hx
    rw [hauth]
    exact h.kept r x hkept
  carried v t r ht hr := by
    obtain ⟨hlive, hauth⟩ := hg.token v t ht
    -- what a live token carries is kept, so its authentication is the old one
    obtain ⟨y, hy⟩ := Option.ne_none_iff_exists'.mp (hs.kept_of_carries ht hr)
    rw [hauth, (hg.refreshToken r y hy).2]
    exact h.carried v t r hlive hr

theorem Served.put (h : Served services g)
    (ha : services.checkClient a.oAuth2Request.clientId = .ok ())
    (ht : ∀ r, Carries t r → ∃ b, g.refreshAuthentication r = some b ∧
      a.oAuth2Request.clientId = b.oAuth2Request.clientId) :
    Served services (put digest t a g) where
  client v b hb := by
    simp only [TokenRegistry.put, Function.update_apply] at hb
    split_ifs at hb
    · rw [← Option.some.inj hb]
      exact ha
    · exact h.client v b hb
  kept := h.kept
  carried v x r hx hr := by
    rcases token_put.mp hx with ⟨rfl, rfl⟩ | ⟨hne, hold⟩
    · obtain ⟨b, hb⟩ := ht r hr
      exact ⟨a, b, Function.update_self _ _ _, hb⟩
    · obtain ⟨c, b, hauth, hb⟩ := h.carried v x r hold hr
      exact ⟨c, b, (Function.update_of_ne hne _ _).trans hauth, hb⟩

/-- A token goes in with a refresh token that no live token carries. -/
theorem Served.issue (h : Served services g)
    (ha : services.checkClient a.oAuth2Request.clientId = .ok ())
    (hy : ∀ y ∈ t.refreshToken, Unused y.value g ∧
      services.isSupportRefreshToken a.oAuth2Request = .ok true) :
    Served services (TokenRegistry.issue digest t a g) := by
  unfold TokenRegistry.issue
  cases hcarried : t.refreshToken with
  | none =>
    apply h.put ha
    rintro r ⟨y, hmem, -⟩
    rw [hcarried] at hmem
    cases hmem
  | some y =>
    obtain ⟨hunused, hsupported⟩ := hy y hcarried
    constructor
    · intro v b hb
      simp only [keep, TokenRegistry.put, Function.update_apply] at hb
      split_ifs at hb
      · rw [← Option.some.inj hb]
        exact ha
      · exact h.client v b hb
    · intro r x hx
      simp only [keep, Function.update_apply] at hx ⊢
      split_ifs at hx ⊢
      · exact ⟨a, rfl, hsupported⟩
      · exact h.kept r x hx
    · intro v x r hx hr
      rcases token_put.mp (show (TokenRegistry.put digest t a g).token v = some x from hx) with
        ⟨rfl, rfl⟩ | ⟨hne, hold⟩
      · obtain ⟨z, hz, rfl⟩ := hr
        have hzy : y = z := Option.some.inj (hcarried.symm.trans hz)
        rw [← hzy]
        exact ⟨a, a, Function.update_self _ _ _, Function.update_self _ _ _, rfl⟩
      · obtain ⟨c, b, hauth, hb, hclient⟩ := h.carried v x r hold hr
        have hother : r ≠ y.value := fun heq => hunused v x hold (heq ▸ hr)
        exact ⟨c, b, (Function.update_of_ne hne _ _).trans hauth,
          (Function.update_of_ne hother _ _).trans hb, hclient⟩

/-- The refresh token of a creation may be refreshed by the client of the creation. -/
theorem supported_of_renewed {y : OAuth2RefreshToken} (h : Sound digest used g)
    (hserved : Served services g)
    (hsame : ∀ x, g.current (extractKey digest a) = some x →
      ∀ b, g.authentication x.value = some b → b.oAuth2Request.clientId = a.oAuth2Request.clientId)
    (hrenew : services.renewRefreshToken m a.oAuth2Request
      ((superseded digest m.now a g).bind OAuth2AccessToken.refreshToken) = .ok (some y)) :
    services.isSupportRefreshToken a.oAuth2Request = .ok true := by
  rcases renewRefreshToken_eq_ok hrenew with hold | hcreate
  · obtain ⟨x, hsuperseded, hcarried⟩ := Option.bind_eq_some_iff.mp hold
    have hcurrent := (current_of_superseded hsuperseded).1
    have hlive := (h.current_stored _ x hcurrent).1
    obtain ⟨c, b, hc, hb, hclient⟩ := hserved.carried _ x y.value hlive ⟨y, hcarried, rfl⟩
    obtain ⟨b', hb', hsupported⟩ := hserved.kept y.value y (h.kept _ x hlive y hcarried)
    have hbb : b' = b := Option.some.inj (hb'.symm.trans hb)
    rw [hbb] at hsupported
    have hclients : a.oAuth2Request.clientId = b.oAuth2Request.clientId :=
      (hsame x hcurrent c hc).symm.trans hclient
    exact (clientSetting_congr hclients).trans hsupported
  · exact (createRefreshToken_eq_ok hcreate).2.1

theorem served_created (hservices : Cooperative services) (h : Sound digest used g)
    (hserved : Served services g) (hfresh : m.refreshTokenValue ∉ used)
    (hsame : ∀ x, g.current (extractKey digest a) = some x →
      ∀ b, g.authentication x.value = some b → b.oAuth2Request.clientId = a.oAuth2Request.clientId)
    (hc : Created digest services m a g o g') : Served services g' := by
  have hcleared : Served services (cleared digest m.now a g) :=
    hserved.shrink (shrinks_cleared m.now a g) (sound_cleared h m.now a)
  cases hc with
  | existing token vs hcurrent hlive =>
    obtain ⟨hstored, b, hb, -⟩ := h.current_stored _ token hcurrent
    have hclient := hsame token hcurrent b hb
    have hcheck := hserved.client token.value b hb
    rw [hclient] at hcheck
    have hpruned : Served services (dropAll digest vs g) :=
      hserved.shrink (shrinks_dropAll vs) (h.dropAll vs)
    have hfewer : TokenRegistry.Fewer (dropAll digest vs g) g := fewer_dropAll vs
    apply hpruned.put hcheck
    intro r hr
    obtain ⟨c, b', hc, hb', hclient'⟩ := hserved.carried _ token r hstored hr
    have hcb : c = b := Option.some.inj (hc.symm.trans hb)
    rw [hcb, hclient] at hclient'
    rw [hfewer.refreshAuthentication]
    exact ⟨b', hb', hclient'⟩
  | issued token vs r hdead hrenew hnew =>
    have hpruned : Served services (dropAll digest vs (cleared digest m.now a g)) :=
      hcleared.shrink (shrinks_dropAll vs) ((sound_cleared h m.now a).dropAll vs)
    apply hpruned.issue (checkClient_of_newAccessToken hnew)
    intro y hy
    rw [(newAccessToken_carries hservices.keeps hnew).2] at hy
    rw [Option.mem_def.mp hy] at hrenew
    have hunused := (unused_cleared h hfresh hrenew).1
    exact ⟨hunused.of_fewer (fewer_dropAll vs), supported_of_renewed h hserved hsame hrenew⟩
  | failed hdead hnew => exact hcleared

theorem served_refreshed (hservices : Cooperative services) (h : Sound digest used s.registry)
    (hserved : Served services s.registry) (hfresh : m.refreshTokenValue ∉ used)
    (hr : Refreshed digest services m value request s o g') : Served services g' := by
  have hwithdrawn : ∀ r, Served services (withdraw digest r s.registry) :=
    fun r => hserved.shrink (shrinks_withdraw r s.registry) (h.withdraw r)
  have hsound : ∀ r, Sound digest used (forget r (withdraw digest r s.registry)) :=
    fun r => (h.withdraw r).forget (unused_withdraw h r)
  have hforgotten : ∀ r, Served services (forget r (withdraw digest r s.registry)) :=
    fun r => (hwithdrawn r).shrink (shrinks_forget r _) (hsound r)
  have hpruned : ∀ r vs, Served services
      (dropAll digest vs (forget r (withdraw digest r s.registry))) :=
    fun r vs => (hforgotten r).shrink (shrinks_dropAll vs) ((hsound r).dropAll vs)
  cases hr with
  | refused hread => exact hserved
  | expired found hread hexpired => exact hforgotten found.1.value
  | denied found hread hnarrow => exact hwithdrawn found.1.value
  | reissued found a hread hlive hnarrow hreissued =>
    cases hreissued with
    | failed hreuse hnew => exact hwithdrawn found.1.value
    | forgotten hrotate hnew => exact hforgotten found.1.value
    | unrotated token vs hrotate hcreate hnew =>
      apply (hpruned found.1.value vs).put (checkClient_of_newAccessToken hnew)
      rintro r ⟨y, hy, -⟩
      rw [(newAccessToken_carries hservices.keeps hnew).2] at hy
      cases hy
    | reused token vs hreuse hnew =>
      have hbefore : Served services (dropAll digest vs (withdraw digest found.1.value s.registry)) :=
        (hwithdrawn found.1.value).shrink (shrinks_dropAll vs) ((h.withdraw _).dropAll vs)
      have hfewer : TokenRegistry.Fewer (dropAll digest vs (withdraw digest found.1.value s.registry))
          (withdraw digest found.1.value s.registry) := fewer_dropAll vs
      apply hbefore.put (checkClient_of_newAccessToken hnew)
      rintro r ⟨y, hy, rfl⟩
      rw [(newAccessToken_carries hservices.keeps hnew).2] at hy
      obtain ⟨b, hb, -, hrequest⟩ := (readable_of_ok hread).stored
      rw [← Option.some.inj hy, hfewer.refreshAuthentication]
      refine ⟨b, ?_, ?_⟩
      · rw [refreshAuthentication_withdraw]
        exact hb
      · rw [(createRefreshedAuthentication_eq_ok hnarrow).1, hrequest]
    | rotated y token vs hrotate hcreate hnew =>
      -- the client of the new refresh token was checked when the token was made
      have hcarried := (newAccessToken_carries hservices.keeps hnew).2
      obtain ⟨hvalue, hsupported, -⟩ := createRefreshToken_eq_ok hcreate
      rw [← issue_of_carried hcarried]
      apply (hpruned found.1.value vs).issue (checkClient_of_newAccessToken hnew)
      intro z hz
      rw [hcarried] at hz
      rw [← Option.some.inj hz, hvalue]
      exact ⟨unused_of_fresh ((hsound found.1.value).dropAll vs) hfresh, hsupported⟩

theorem served_call (hservices : Cooperative services) (h : Sound digest used s.registry)
    (hserved : Served services s.registry) (c : Call) (hname : c.Named)
    (hfresh : ∀ v ∈ c.drawn, v ∉ used) (hsame : SameClient digest s c) :
    Served services (services.call digest s c).registry := by
  have hsound := (sound_call hservices.keeps h c hname hfresh).1
  cases c with
  | operation op =>
    cases op with
    | createAccessToken m a =>
      exact served_created hservices h hserved (hfresh m.refreshTokenValue (by simp [Call.drawn]))
        hsame (created services h hname m)
    | refreshAccessToken m value request =>
      exact served_refreshed hservices h hserved
        (hfresh m.refreshTokenValue (by simp [Call.drawn])) (refreshed services h m value request)
    | revokeToken v => exact hserved.shrink (shrinks_revokeToken h v) hsound
  | loadAuthentication now v =>
    exact hserved.shrink (shrinks_loadAuthentication services h now v) hsound

/-! ### Refresh tokens that are spared -/

/-- The refresh token is kept, for a grant of the client. -/
def Keeps (x : OAuth2RefreshToken) (clientId : Option String) (g : TokenRegistry) : Prop :=
  g.refreshToken x.value = some x ∧ ∃ b, g.refreshAuthentication x.value = some b ∧
    b.oAuth2Request.clientId = clientId

variable {clientId : Option String}

theorem Keeps.fewer (h : Keeps x clientId g) (hg : TokenRegistry.Fewer g' g) :
    Keeps x clientId g' := by
  unfold Keeps
  rw [hg.refreshToken, hg.refreshAuthentication]
  exact h

theorem Keeps.withdraw (h : Keeps x clientId g) (r : String) :
    Keeps x clientId (withdraw digest r g) := by
  unfold Keeps
  rw [refreshToken_withdraw, refreshAuthentication_withdraw]
  exact h

theorem Keeps.forget (h : Keeps x clientId g) (hr : x.value ≠ r) :
    Keeps x clientId (forget r g) := by
  obtain ⟨hx, b, hb, hclient⟩ := h
  exact ⟨refreshToken_forget.mpr ⟨hr, hx⟩, b, (Function.update_of_ne hr _ _).trans hb, hclient⟩

theorem Keeps.retire (h : Keeps x clientId g) (ht : ¬Carries t x.value) :
    Keeps x clientId (retire digest t g) := by
  unfold TokenRegistry.retire
  cases hcarried : t.refreshToken with
  | none => exact h.fewer (fewer_drop t.value)
  | some y =>
    have hne : x.value ≠ y.value := fun heq => ht ⟨y, hcarried, heq.symm⟩
    exact (h.forget hne).fewer (fewer_drop t.value)

theorem Keeps.keep {y : OAuth2RefreshToken} (h : Keeps x clientId g) (hy : x.value ≠ y.value) :
    Keeps x clientId (keep y a g) := by
  obtain ⟨hx, b, hb, hclient⟩ := h
  exact ⟨(Function.update_of_ne hy _ _).trans hx, b, (Function.update_of_ne hy _ _).trans hb,
    hclient⟩

theorem keeps_issue (ht : t.refreshToken = some x) (ha : a.oAuth2Request.clientId = clientId) :
    Keeps x clientId (TokenRegistry.issue digest t a g) := by
  rw [issue_of_carried ht]
  exact ⟨Function.update_self _ _ _, a, Function.update_self _ _ _, ha⟩

theorem Keeps.issue (h : Keeps x clientId g) (ht : ∀ y ∈ t.refreshToken, x.value ≠ y.value) :
    Keeps x clientId (TokenRegistry.issue digest t a g) := by
  unfold TokenRegistry.issue
  cases hcarried : t.refreshToken with
  | none => exact h
  | some y =>
    have hput : Keeps x clientId (put digest t a g) := h
    exact hput.keep (ht y hcarried)

theorem Keeps.cleared {now : ℕ} (h : Keeps x clientId g)
    (hother : ∀ t, superseded digest now a g = some t → ¬Carries t x.value) :
    Keeps x clientId (cleared digest now a g) := by
  unfold DefaultTokenServices.cleared
  cases hsuperseded : superseded digest now a g with
  | none => exact h
  | some t => exact h.retire (hother t hsuperseded)

/-- A creation that takes over the refresh token of an expired token keeps it for its client. -/
theorem renewed_of_superseded (h : Sound digest used g) (hserved : Served services g)
    (hx : Keeps x clientId g) (hlive : x.isExpired m.now = false)
    (hsame : ∀ x, g.current (extractKey digest a) = some x →
      ∀ b, g.authentication x.value = some b → b.oAuth2Request.clientId = a.oAuth2Request.clientId)
    (ht : superseded digest m.now a g = some t) (hcarries : Carries t x.value) :
    services.renewRefreshToken m a.oAuth2Request
        ((superseded digest m.now a g).bind OAuth2AccessToken.refreshToken) = .ok (some x) ∧
      a.oAuth2Request.clientId = clientId := by
  have hcurrent := (current_of_superseded ht).1
  have hstored := (h.current_stored _ t hcurrent).1
  obtain ⟨c, b, hc, hb, hclient⟩ := hserved.carried _ t x.value hstored hcarries
  obtain ⟨hkept, b', hb', hclient'⟩ := hx
  obtain ⟨y, hy, hvalue⟩ := hcarries
  have hyx : y = x := by
    have hkept' := h.kept _ t hstored y hy
    rw [hvalue, hkept] at hkept'
    exact (Option.some.inj hkept').symm
  constructor
  · have hnot : ¬x.isExpired m.now = true := by
      rw [hlive]
      exact Bool.noConfusion
    rw [ht, Option.bind_some, Option.mem_def.mp hy, hyx, renewRefreshToken, if_neg hnot]
  · have hbb : b = b' := Option.some.inj (hb.symm.trans hb')
    rw [← hclient', ← hbb, ← hclient]
    exact (hsame t hcurrent c hc).symm

theorem keeps_created (hservices : Cooperative services) (h : Sound digest used g)
    (hserved : Served services g) (hfresh : m.refreshTokenValue ∉ used) (hx : Keeps x clientId g)
    (hlive : x.isExpired m.now = false)
    (hsame : ∀ x, g.current (extractKey digest a) = some x →
      ∀ b, g.authentication x.value = some b → b.oAuth2Request.clientId = a.oAuth2Request.clientId)
    (hc : Created digest services m a g o g') : Keeps x clientId g' := by
  have hused : x.value ∈ used := h.used_refreshToken _ (by rw [hx.1]; exact Option.some_ne_none x)
  cases hc with
  | existing token vs hcurrent hnotExpired =>
    have hpruned : Keeps x clientId (dropAll digest vs g) := hx.fewer (fewer_dropAll vs)
    exact hpruned
  | issued token vs r hdead hrenew hnew =>
    have hcarried := (newAccessToken_carries hservices.keeps hnew).2
    by_cases hown : ∃ t, superseded digest m.now a g = some t ∧ Carries t x.value
    · obtain ⟨t, ht, hcarries⟩ := hown
      obtain ⟨hrenewed, hclient⟩ := renewed_of_superseded h hserved hx hlive hsame ht hcarries
      rw [hrenewed] at hrenew
      rw [← Except.ok.inj hrenew] at hcarried
      exact keeps_issue hcarried hclient
    · have hother : ∀ t, superseded digest m.now a g = some t → ¬Carries t x.value :=
        fun t ht hcarries => hown ⟨t, ht, hcarries⟩
      have hpruned : Keeps x clientId (dropAll digest vs (cleared digest m.now a g)) :=
        (hx.cleared hother).fewer (fewer_dropAll vs)
      apply hpruned.issue
      intro y hy heq
      rw [hcarried] at hy
      rw [Option.mem_def.mp hy] at hrenew
      rcases renewRefreshToken_eq_ok hrenew with hold | hcreate
      · obtain ⟨t, ht, hty⟩ := Option.bind_eq_some_iff.mp hold
        exact hother t ht ⟨y, hty, heq.symm⟩
      · rw [heq, (createRefreshToken_eq_ok hcreate).1] at hused
        exact hfresh hused
  | failed hdead hnew =>
    apply hx.cleared
    intro t ht hcarries
    obtain ⟨hrenewed, hclient⟩ := renewed_of_superseded h hserved hx hlive hsame ht hcarries
    obtain ⟨hkept, b, hb, hbclient⟩ := hx
    obtain ⟨b', hb', hsupported⟩ := hserved.kept x.value x hkept
    have hcheck := checkClient_of_setting hsupported
    rw [Option.some.inj (hb'.symm.trans hb), hbclient, ← hclient] at hcheck
    obtain ⟨token, htoken⟩ := newAccessToken_of_checkClient hservices m (some x) hcheck
    exact hnew (some x) hrenewed token htoken

theorem keeps_refreshed (h : Sound digest used s.registry)
    (hfresh : m.refreshTokenValue ∉ used) (hx : Keeps x clientId s.registry)
    (hother : value ≠ x.value) (hr : Refreshed digest services m value request s o g') :
    Keeps x clientId g' := by
  have hused : x.value ∈ used := h.used_refreshToken _ (by rw [hx.1]; exact Option.some_ne_none x)
  have hwithdrawn : ∀ r, Keeps x clientId (withdraw digest r s.registry) := fun r => hx.withdraw r
  have hforgotten : ∀ found, services.readForRefresh s value request = .ok found →
      Keeps x clientId (forget found.1.value (withdraw digest found.1.value s.registry)) := by
    intro found hread
    apply (hwithdrawn found.1.value).forget
    rw [h.refresh_value_eq value found.1 (readable_of_ok hread).refreshToken]
    exact hother.symm
  cases hr with
  | refused hread => exact hx
  | expired found hread hexpired => exact hforgotten found hread
  | denied found hread hnarrow => exact hwithdrawn found.1.value
  | reissued found a hread hlive hnarrow hreissued =>
    have hpruned : ∀ vs, Keeps x clientId
        (dropAll digest vs (forget found.1.value (withdraw digest found.1.value s.registry))) :=
      fun vs => (hforgotten found hread).fewer (fewer_dropAll vs)
    cases hreissued with
    | failed hreuse hnew => exact hwithdrawn found.1.value
    | forgotten hrotate hnew => exact hforgotten found hread
    | unrotated token vs hrotate hcreate hnew => exact hpruned vs
    | reused token vs hreuse hnew =>
      have hbefore : Keeps x clientId
          (dropAll digest vs (withdraw digest found.1.value s.registry)) :=
        (hwithdrawn found.1.value).fewer (fewer_dropAll vs)
      exact hbefore
    | rotated y token vs hrotate hcreate hnew =>
      have hput : Keeps x clientId (put digest token a (dropAll digest vs
        (forget found.1.value (withdraw digest found.1.value s.registry)))) := hpruned vs
      apply hput.keep
      intro heq
      rw [heq, (createRefreshToken_eq_ok hcreate).1] at hused
      exact hfresh hused

theorem keeps_call (hservices : Cooperative services) (h : Sound digest used s.registry)
    (hserved : Served services s.registry) (c : Call) (hname : c.Named)
    (hfresh : ∀ v ∈ c.drawn, v ∉ used) (hsame : SameClient digest s c) {now : ℕ}
    (hspares : Spares x.value now s c) (hlive : x.isExpired now = false)
    (hx : Keeps x clientId s.registry) :
    Keeps x clientId (services.call digest s c).registry := by
  cases c with
  | operation op =>
    cases op with
    | createAccessToken m a =>
      exact keeps_created hservices h hserved (hfresh m.refreshTokenValue (by simp [Call.drawn]))
        hx (not_expired_of_le hspares hlive) hsame (created services h hname m)
    | refreshAccessToken m value request =>
      exact keeps_refreshed h (hfresh m.refreshTokenValue (by simp [Call.drawn])) hx hspares
        (refreshed services h m value request)
    | revokeToken v =>
      show Keeps x clientId (final (revokeToken digest v) s).registry
      rw [(revokeToken_apply h v).2, revoked]
      cases hrevoked : s.registry.token v with
      | none => exact hx
      | some t =>
        apply hx.retire
        rintro ⟨y, hy, hvalue⟩
        exact hspares t hrevoked y hy hvalue
  | loadAuthentication now' v =>
    obtain ⟨vs, hregistry⟩ := loadAuthentication_registry services h now' v
    show Keeps x clientId (final (services.loadAuthentication digest now' v) s).registry
    rw [hregistry]
    exact hx.fewer (fewer_dropAll vs)

/-- A kept refresh token is accepted from its client. -/
theorem readForRefresh_of_keeps (hservices : Cooperative services)
    (h : Sound digest used s.registry) (hx : Keeps x clientId s.registry)
    (hclient : request.clientId = clientId) :
    ∃ found, services.readForRefresh s x.value request = .ok found := by
  obtain ⟨hkept, b, hb, hbclient⟩ := hx
  obtain ⟨b', hb', hname⟩ := h.refresh_authenticated x.value (by
    rw [hkept]
    exact Option.some_ne_none x)
  have hbb : b' = b := Option.some.inj (hb'.symm.trans hb)
  rw [hbb] at hname
  have hstored : s.refreshTokenStore x.value = some x := hkept
  have hauth : s.refreshTokenAuthenticationStore x.value = some b := hb
  obtain ⟨c, hc⟩ := hservices.reauthenticates b
  have hrequest := reauthenticated_request hc
  refine ⟨(x, c), except_bind_eq_ok.mpr ⟨(), ?_, except_bind_eq_ok.mpr ⟨x, ?_,
    except_bind_eq_ok.mpr ⟨c, ?_, except_bind_eq_ok.mpr ⟨(), ?_, rfl⟩⟩⟩⟩⟩
  · rw [failIf_eq_ok, hservices.supports]
    exact Bool.noConfusion
  · rw [hstored]
    rfl
  · rw [hauth]
    exact hc
  · rw [failIf_eq_ok, hrequest, hbclient, hclient]
    rw [hbclient] at hname
    exact fun hor => hor.elim hname fun hne => hne rfl

/-- Without a scope a refresh of a kept refresh token goes through. -/
theorem refresh_of_keeps (hservices : Cooperative services) (h : Sound digest used s.registry)
    (hserved : Served services s.registry) (hx : Keeps x clientId s.registry)
    (hlive : x.isExpired m.now = false) (hclient : request.clientId = clientId)
    (hscope : request.scope = []) :
    ∃ t, outcome (services.refreshAccessToken digest m x.value request) s = .ok t := by
  obtain ⟨found, hfound⟩ := readForRefresh_of_keeps hservices h hx hclient
  have hsame : found.1 = x :=
    Option.some.inj ((readable_of_ok hfound).refreshToken.symm.trans hx.1)
  obtain ⟨b, hb, -, hrequest⟩ := (readable_of_ok hfound).stored
  obtain ⟨b', hb', hsupported⟩ := hserved.kept x.value x hx.1
  rw [hsame] at hb
  rw [Option.some.inj (hb'.symm.trans hb), hrequest] at hsupported
  have hrefreshed := refreshed services h m x.value request
  cases houtcome : outcome (services.refreshAccessToken digest m x.value request) s with
  | ok t => exact ⟨t, rfl⟩
  | error e =>
    rw [houtcome] at hrefreshed
    exfalso
    generalize (final (services.refreshAccessToken digest m x.value request) s).registry = g'
      at hrefreshed
    cases hrefreshed with
    | refused hread => exact hread found hfound
    | expired found' hread hexpired =>
      rw [← Except.ok.inj (hfound.symm.trans hread), hsame, hlive] at hexpired
      cases hexpired
    | denied found' hread hnarrow =>
      apply hnarrow
      unfold createRefreshedAuthentication
      dsimp only
      rw [if_pos hscope]
    | reissued found' a hread hnotExpired hnarrow hreissued =>
      rw [← Except.ok.inj (hfound.symm.trans hread)] at hnarrow
      have ha := (createRefreshedAuthentication_eq_ok hnarrow).1
      have hsupport : services.isSupportRefreshToken a.oAuth2Request = .ok true :=
        (clientSetting_congr ha).trans hsupported
      have hcheck := checkClient_of_setting hsupport
      obtain ⟨y, hy⟩ := createRefreshToken_of_supported m hsupport
      cases hreissued with
      | failed hreuse hnew =>
        obtain ⟨token, htoken⟩ := newAccessToken_of_checkClient hservices m (some found'.1) hcheck
        exact hnew token htoken
      | forgotten hrotate hnew =>
        obtain ⟨token, htoken⟩ := newAccessToken_of_checkClient hservices m (some y) hcheck
        exact hnew (some y) hy token htoken
      | unrotated token vs hrotate hcreate hnew =>
        rw [hy] at hcreate
        cases hcreate

theorem served_run (hservices : Cooperative services) (hcalls : Genuine calls)
    (h : Sound digest used s.registry) (hnew : ∀ v ∈ calls.flatMap Call.drawn, v ∉ used)
    (hserved : Served services s.registry)
    (hsame : Runs.Meets (services.call digest) (SameClient digest) s calls) :
    Served services (Runs.exec (services.call digest) s calls).registry := by
  apply invariant_run hservices.keeps (I := fun s => Served services s.registry) ?_ hcalls h hnew
    hsame hserved
  intro used s c hsound hname hfresh hsame hserved
  exact served_call hservices hsound hserved c hname hfresh hsame

/-- A refresh token that the run spares is kept: the conditions of both are met along the run. -/
theorem keeps_run (hservices : Cooperative services) (hcalls : Genuine calls)
    (h : Sound digest used s.registry) (hnew : ∀ v ∈ calls.flatMap Call.drawn, v ∉ used)
    (hserved : Served services s.registry)
    (hsame : Runs.Meets (services.call digest) (SameClient digest) s calls) {now : ℕ}
    (hspares : Runs.Meets (services.call digest) (Spares x.value now) s calls)
    (hlive : x.isExpired now = false) (hx : Keeps x clientId s.registry) :
    Keeps x clientId (Runs.exec (services.call digest) s calls).registry := by
  have hboth : Served services (Runs.exec (services.call digest) s calls).registry ∧
      Keeps x clientId (Runs.exec (services.call digest) s calls).registry := by
    have hmeets := (Runs.meets_and s calls).mpr ⟨hsame, hspares⟩
    apply invariant_run hservices.keeps
      (I := fun s => Served services s.registry ∧ Keeps x clientId s.registry) ?_ hcalls h hnew
      hmeets ⟨hserved, hx⟩
    intro used s c hsound hname hfresh hmeets hboth
    constructor
    · exact served_call hservices hsound hboth.1 c hname hfresh hmeets.1
    · exact keeps_call hservices hsound hboth.1 c hname hfresh hmeets.1 hmeets.2 hlive hboth.2
  exact hboth.2

theorem served_start (services : DefaultTokenServices) (flushInterval : ℤ) :
    Served services (registry { flushInterval := flushInterval }) where
  client _ _ h := by cases h
  kept _ _ h := by cases h
  carried _ _ _ h := by cases h

/-- The refresh token that a live token carries is kept for the token's client. -/
theorem keeps_of_carried {v : String} {r : OAuth2RefreshToken} (h : Sound digest used g)
    (hserved : Served services g) (hlive : g.token v = some t)
    (hauth : g.authentication v = some a) (hr : r ∈ t.refreshToken) :
    Keeps r a.oAuth2Request.clientId g := by
  obtain ⟨c, b, hc, hb, hclients⟩ := hserved.carried v t r.value hlive ⟨r, hr, rfl⟩
  have hca : c = a := Option.some.inj (hc.symm.trans hauth)
  rw [hca] at hclients
  constructor
  · exact h.kept v t hlive r hr
  · exact ⟨b, hb, hclients.symm⟩

theorem current_of_created (h : Created digest services m a g (some t) g') :
    g'.current (extractKey digest a) = some t := by
  cases h with
  | existing _ vs hcurrent hlive => exact Function.update_self _ _ _
  | issued _ vs r hdead hrenew hnew => exact (issue_self t a _).2.2

theorem not_expired_of_created (hkeeps : services.KeepsTokens)
    (h : Created digest services m a g (some t) g') : t.isExpired m.now = false := by
  cases h with
  | existing _ vs hfound hnotExpired => exact hnotExpired
  | issued _ vs r hdead hrenew hnew => exact not_expired_of_new hkeeps hnew

/-- As long as the current token of its key lives, a creation returns it. -/
theorem created_of_current (h : Created digest services m a g o g')
    (hcurrent : g.current (extractKey digest a) = some t) (hlive : t.isExpired m.now = false) :
    o = some t := by
  have hsuperseded : superseded digest m.now a g ≠ g.current (extractKey digest a) := by
    intro hdead
    rw [hcurrent] at hdead
    have hexpired := (current_of_superseded hdead).2
    rw [hlive] at hexpired
    cases hexpired
  cases h with
  | existing token vs hfound hnotExpired => exact hfound.symm.trans hcurrent
  | issued token vs r hdead hrenew hnew => exact absurd hdead hsuperseded
  | failed hdead hnew => exact absurd hdead hsuperseded

/-- In runs whose grants find under their keys only tokens of their own client, a created token
stands for its authentication. -/
theorem created_token_stands_for (hservices : Cooperative services) (flushInterval : ℤ)
    (before : List Call) (m : Moment) (a : OAuth2Authentication) (t : OAuth2AccessToken)
    (hcalls : Genuine (before ++ [.operation (.createAccessToken m a)]))
    (hsame : Runs.Meets (services.call digest) (SameClient digest)
      { flushInterval := flushInterval } (before ++ [.operation (.createAccessToken m a)]))
    (hcreated : outcome (services.createAccessToken digest m a)
      (services.run digest flushInterval before) = .ok t) :
    StandsFor digest services flushInterval (before ++ [.operation (.createAccessToken m a)])
      m a t := by
  have hkeeps := hservices.keeps
  have hsplit := around digest hkeeps flushInterval hcalls
  have hname : a.oAuth2Request.clientId ≠ none := hsplit.named
  have hcase := created services hsplit.sound hname m
  rw [hcreated] at hcase
  obtain ⟨hlive, hauth⟩ := token_of_created hcase
  have hcurrent := current_of_created hcase
  have hsound := hsplit.sound_end
  -- the invariants hold where the call begins, and so where it ends
  have hserved := served_run hservices hcalls (sound_start digest flushInterval)
    (fun _ _ hmem => by cases hmem) (served_start services flushInterval) hsame
  have hend : services.run digest flushInterval
      (before ++ [.operation (.createAccessToken m a)]) =
      final (services.createAccessToken digest m a) (services.run digest flushInterval before) := by
    rw [run, Runs.exec_append]
    rfl
  have hstate : services.run digest flushInterval
    (before ++ [.operation (.createAccessToken m a)]) = Runs.exec (services.call digest)
      { flushInterval := flushInterval } (before ++ [.operation (.createAccessToken m a)]) := rfl
  rw [← hstate] at hserved
  rw [← hend] at hlive hauth hcurrent
  constructor
  · exact not_expired_of_created hkeeps hcase
  · intro now hnotExpired
    rw [loadAuthentication_eq_ok hsound]
    exact ⟨⟨t, hlive, hnotExpired⟩, hauth, hserved.client _ a hauth⟩
  · intro m' hnotExpired
    have hagain := created_of_current (created services hsound hname m') hcurrent hnotExpired
    cases houtcome : outcome (services.createAccessToken digest m' a)
        (services.run digest flushInterval (before ++ [.operation (.createAccessToken m a)])) with
    | ok t' =>
      rw [houtcome] at hagain
      rw [Option.some.inj hagain]
    | error e =>
      rw [houtcome] at hagain
      cases hagain
  · intro r hr after m' request hgenuine hafter hspares hnotExpired hclient hscope
    -- later calls draw other values, so that they leave the refresh token alone
    have hkept := keeps_of_carried hsound hserved hlive hauth hr
    obtain ⟨-, hrest, hdisjoint⟩ := genuine_append.mp hgenuine
    have hnew : ∀ v ∈ after.flatMap Call.drawn, v ∉ (before ++
        [Call.operation (.createAccessToken m a)]).flatMap Call.drawn := by
      intro v hv hmem
      exact hdisjoint v hmem hv
    have hserved' := served_run hservices hrest hsound hnew hserved hafter
    have hkept' := keeps_run hservices hrest hsound hnew hserved hafter hspares hnotExpired hkept
    have hsound' := sound_of_genuine digest hkeeps flushInterval hgenuine
    have hrun : services.run digest flushInterval
        ((before ++ [.operation (.createAccessToken m a)]) ++ after) =
        Runs.exec (services.call digest) (services.run digest flushInterval
          (before ++ [.operation (.createAccessToken m a)])) after := by
      rw [run, Runs.exec_append]
    rw [hrun] at hsound' ⊢
    exact refresh_of_keeps hservices hsound' hserved' hkept' hnotExpired hclient hscope

theorem cooperative_refreshing : Cooperative refreshing where
  supports := rfl
  keeps := keepsTokens_refreshing
  enhances _ h := by cases h
  reauthenticates a := by
    refine ⟨a, ?_⟩
    cases h : a.userAuthentication with
    | none => simp only [reauthenticated, refreshing]
    | some user => simp only [reauthenticated, refreshing]

/-- A token that is built around the refresh token of an expired one. -/
theorem created_token_stands_for_readWrite :
    StandsFor id refreshing 1000
      [.operation (.createAccessToken ⟨1000, "t1", "r1"⟩ (signedIn "alice" readWrite)),
        .operation (.createAccessToken ⟨50000000, "t2", "r2"⟩ (signedIn "alice" readWrite))]
      ⟨50000000, "t2", "r2"⟩ (signedIn "alice" readWrite)
      ⟨"t2", some 93200000, some ⟨"r1", some 2592001000⟩, ["read", "write"]⟩ :=
  created_token_stands_for cooperative_refreshing 1000
    [.operation (.createAccessToken ⟨1000, "t1", "r1"⟩ (signedIn "alice" readWrite))]
    ⟨50000000, "t2", "r2"⟩ (signedIn "alice" readWrite)
    ⟨"t2", some 93200000, some ⟨"r1", some 2592001000⟩, ["read", "write"]⟩
    (by decide) (by decide) (by decide)

/-- A user name can hold what stands between the name and the scope in the text of a key: the
second client gets the token of the first, whose refresh token it may not use. -/
theorem created_token_of_another_client :
    ¬ ∀ (services : DefaultTokenServices) (before : List Call) (m : Moment)
      (a : OAuth2Authentication) (t : OAuth2AccessToken), Cooperative services →
        Genuine (before ++ [.operation (.createAccessToken m a)]) →
          outcome (services.createAccessToken id m a) (services.run id 1000 before) = .ok t →
            StandsFor id services 1000 (before ++ [.operation (.createAccessToken m a)]) m a t := by
  intro h
  let first : OAuth2Authentication := signedIn "u" { appRequest with
    clientId := some "c1", scope := ["a,", "client_id=c2,", "scope=y"] }
  let second : OAuth2Authentication := signedIn "u, client_id=c1, scope=a" { appRequest with
    clientId := some "c2", scope := ["y"] }
  have hstands := h refreshing [.operation (.createAccessToken ⟨1000, "t1", "r1"⟩ first)]
    ⟨2000, "t2", "r2"⟩ second
    ⟨"t1", some 43201000, some ⟨"r1", some 2592001000⟩, ["a,", "client_id=c2,", "scope=y"]⟩
    cooperative_refreshing (by decide) (by decide)
  obtain ⟨t, ht⟩ := hstands.refreshes ⟨"r1", some 2592001000⟩ rfl [] ⟨3000, "t3", "r3"⟩
    ⟨[], some "c2", [], none⟩ (by decide) trivial trivial rfl rfl rfl
  have herror : (outcome (refreshing.refreshAccessToken id ⟨3000, "t3", "r3"⟩ "r1"
      ⟨[], some "c2", [], none⟩)
      (refreshing.run id 1000 [.operation (.createAccessToken ⟨1000, "t1", "r1"⟩ first),
        .operation (.createAccessToken ⟨2000, "t2", "r2"⟩ second)])).toOption = none := by decide
  rw [show outcome (refreshing.refreshAccessToken id ⟨3000, "t3", "r3"⟩ "r1"
      ⟨[], some "c2", [], none⟩)
      (refreshing.run id 1000 [.operation (.createAccessToken ⟨1000, "t1", "r1"⟩ first),
        .operation (.createAccessToken ⟨2000, "t2", "r2"⟩ second)]) = .ok t from ht] at herror
  cases herror

end Invariant

end DefaultTokenServices

end MaxKey.OAuth2
