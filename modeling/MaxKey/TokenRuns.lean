import MaxKey.TokenEffects

namespace MaxKey.OAuth2
open JavaException Effects InMemoryTokenStore TokenRegistry

namespace DefaultTokenServices

variable (digest : String → String) (services : DefaultTokenServices)

/-- A client that is gone from the registry makes its tokens invalid. -/
def checkClient (clientId : Option String) : Except JavaException Unit :=
  match services.clientDetailsService with
  | none => .ok ()
  | some clients =>
    match clients.loadClientByClientId clientId with
    | .ok _ => .ok ()
    | .error e =>
      if e.isClientRegistrationException then
        .error (invalidToken ("Client not valid: " ++ clientId.getD "null"))
      else .error e

def loadAuthentication (now : ℕ) (accessTokenValue : String) : StoreM OAuth2Authentication := do
  let s ← get
  let invalid := invalidToken ("Invalid access token: " ++ accessTokenValue)
  let accessToken ← orThrow invalid (s.accessTokenStore accessTokenValue)
  onlyIf (accessToken.isExpired now) (do
    removeAccessToken digest accessToken.value
    throw (invalidToken ("Access token expired: " ++ accessTokenValue)))
  let result ← orThrow invalid (s.authenticationStore accessToken.value)
  orError (services.checkClient result.oAuth2Request.clientId)
  return result

/-- A call of the services. -/
inductive Call
  | operation (op : Operation)
  | loadAuthentication (now : ℕ) (value : String)

def call (s : InMemoryTokenStore) : Call → InMemoryTokenStore
  | .operation op => services.step digest s op
  | .loadAuthentication now value => final (services.loadAuthentication digest now value) s

/-- The access token that a call returns, if it returns one. -/
def returned (s : InMemoryTokenStore) : Call → Option OAuth2AccessToken
  | .operation (.createAccessToken m a) =>
    (outcome (services.createAccessToken digest m a) s).toOption
  | .operation (.refreshAccessToken m value request) =>
    (outcome (services.refreshAccessToken digest m value request) s).toOption
  | .operation (.revokeToken _) | .loadAuthentication _ _ => none

/-- The random values that a call draws. -/
def Call.drawn : Call → List String
  | .operation (.createAccessToken m _) | .operation (.refreshAccessToken m _ _) =>
    [m.accessTokenValue, m.refreshTokenValue]
  | .operation (.revokeToken _) | .loadAuthentication _ _ => []

/-- The authentication of a grant names its client. -/
def Call.Named : Call → Prop
  | .operation (.createAccessToken _ a) => a.oAuth2Request.clientId ≠ none
  | _ => True

instance : DecidablePred Call.Named
  | .operation (.createAccessToken _ a) =>
    inferInstanceAs (Decidable (a.oAuth2Request.clientId ≠ none))
  | .operation (.refreshAccessToken _ _ _) | .operation (.revokeToken _)
  | .loadAuthentication _ _ => isTrue trivial

/-- What the callers and the random generator see to: grants name their client, and no value is
drawn twice. -/
structure Genuine (calls : List Call) : Prop where
  named : ∀ c ∈ calls, c.Named
  fresh : (calls.flatMap Call.drawn).Nodup

instance (calls : List Call) : Decidable (Genuine calls) :=
  decidable_of_iff ((∀ c ∈ calls, c.Named) ∧ (calls.flatMap Call.drawn).Nodup)
    ⟨fun h => ⟨h.1, h.2⟩, fun h => ⟨h.named, h.fresh⟩⟩

/-- What the enhancer adds is no part of the token here. -/
def KeepsTokens : Prop :=
  ∀ enhancer ∈ services.accessTokenEnhancer, ∀ token a enhanced,
    enhancer.enhance token a = .ok enhanced → enhanced = token

/-- The enhancer of OpenID Connect: the id token goes to the additional information. -/
def oidcIdTokenEnhancer
    (idToken : OAuth2AccessToken → OAuth2Authentication → Except JavaException (Option String)) :
    TokenEnhancer where
  enhance token a :=
    if a.oAuth2Request.scope.contains "openid" then do
      let _ ← idToken token a
      return token
    else return token
  keeps_value token a enhanced h := by
    split_ifs at h
    · obtain ⟨_, -, h⟩ := except_bind_eq_ok.mp h
      rw [← Except.ok.inj h]
    · rw [← Except.ok.inj h]

theorem keepsTokens_oidcIdTokenEnhancer
    (idToken : OAuth2AccessToken → OAuth2Authentication → Except JavaException (Option String))
    (h : services.accessTokenEnhancer = some (oidcIdTokenEnhancer idToken)) :
    services.KeepsTokens := by
  intro enhancer henhancer token a enhanced henhance
  rw [h] at henhancer
  rw [← Option.some.inj henhancer] at henhance
  unfold oidcIdTokenEnhancer at henhance
  dsimp only at henhance
  split_ifs at henhance
  · obtain ⟨_, -, henhance⟩ := except_bind_eq_ok.mp henhance
    exact (Except.ok.inj henhance).symm
  · exact (Except.ok.inj henhance).symm

section Steps

variable {digest} {services} {used : List String} {s : InMemoryTokenStore} {g g' g₁ : TokenRegistry}
  {m : Moment} {a b : OAuth2Authentication} {token : OAuth2AccessToken} {value : String}
  {request : TokenRequest} {o : Option OAuth2AccessToken} {r : Option OAuth2RefreshToken}
  {y : OAuth2RefreshToken}

theorem newAccessToken_eq_ok (hkeeps : services.KeepsTokens)
    (h : services.newAccessToken m a r = .ok token) :
    ∃ validity, services.getAccessTokenValiditySeconds a.oAuth2Request = .ok validity ∧
      token = ⟨m.accessTokenValue, expiration m.now validity, r, a.oAuth2Request.scope⟩ := by
  obtain ⟨validity, hvalidity, h⟩ := except_bind_eq_ok.mp h
  refine ⟨validity, hvalidity, ?_⟩
  dsimp only at h
  split at h
  · exact (Except.ok.inj h).symm
  · rename_i enhancer henhancer
    exact hkeeps enhancer henhancer _ _ _ h

theorem newAccessToken_carries (hkeeps : services.KeepsTokens)
    (h : services.newAccessToken m a r = .ok token) :
    token.value = m.accessTokenValue ∧ token.refreshToken = r := by
  obtain ⟨validity, -, htoken⟩ := newAccessToken_eq_ok hkeeps h
  rw [htoken]
  exact ⟨rfl, rfl⟩

theorem createRefreshToken_eq_ok {request : OAuth2Request}
    (h : services.createRefreshToken m request = .ok (some y)) :
    y.value = m.refreshTokenValue ∧ services.isSupportRefreshToken request = .ok true ∧
      ∃ validity, services.getRefreshTokenValiditySeconds request = .ok validity ∧
        y.expiration = expiration m.now validity := by
  obtain ⟨supported, hsupported, h⟩ := except_bind_eq_ok.mp h
  split_ifs at h with htrue
  · obtain ⟨validity, hvalidity, h⟩ := except_bind_eq_ok.mp h
    have hy := Option.some.inj (Except.ok.inj h)
    rw [htrue] at hsupported
    rw [← hy]
    exact ⟨rfl, hsupported, validity, hvalidity, rfl⟩
  · cases h

/-- The refresh token of a new access token is the old one, or new like it. -/
theorem renewRefreshToken_eq_ok {request : OAuth2Request} {existing : Option OAuth2RefreshToken}
    (h : services.renewRefreshToken m request existing = .ok (some y)) :
    existing = some y ∨ services.createRefreshToken m request = .ok (some y) := by
  unfold renewRefreshToken at h
  split at h
  · exact .inr h
  · split_ifs at h
    · exact .inr h
    · exact .inl (Except.ok.inj h)

theorem current_of_superseded {now : ℕ} (h : superseded digest now a g = some token) :
    g.current (extractKey digest a) = some token ∧ token.isExpired now = true :=
  Option.filter_eq_some_iff.mp h

theorem sound_cleared (h : Sound digest used g) (now : ℕ) (a : OAuth2Authentication) :
    Sound digest used (cleared digest now a g) := by
  unfold cleared
  cases hsuperseded : superseded digest now a g with
  | none => exact h
  | some token =>
    have hlive := (h.current_stored _ token (current_of_superseded hsuperseded).1).1
    exact h.retire hlive

theorem continues_cleared {drawn : List String} (now : ℕ) (a : OAuth2Authentication)
    (g : TokenRegistry) : Continues drawn g (cleared digest now a g) := by
  unfold cleared
  cases superseded digest now a g with
  | none => exact continues_refl g
  | some token => exact (continues_refl g).retire token

/-- A value that was never drawn is carried by no live token. -/
theorem unused_of_fresh {r : String} (h : Sound digest used g) (hr : r ∉ used) : Unused r g := by
  intro w x hx hcarries
  exact hr (h.used_refreshToken r (h.kept_of_carries hx hcarries))

/-- What a new token carries is carried by no live token any more. -/
theorem unused_cleared (h : Sound digest used g) (hr : m.refreshTokenValue ∉ used)
    (hrenew : services.renewRefreshToken m a.oAuth2Request
      ((superseded digest m.now a g).bind OAuth2AccessToken.refreshToken) = .ok (some y)) :
    Unused y.value (cleared digest m.now a g) ∧
      (g.refreshToken y.value ≠ none ∨ y.value = m.refreshTokenValue) := by
  rcases renewRefreshToken_eq_ok hrenew with hold | hcreate
  · obtain ⟨token, hsuperseded, hcarried⟩ := Option.bind_eq_some_iff.mp hold
    have hlive := (h.current_stored _ token (current_of_superseded hsuperseded).1).1
    have hcarries : Carries token y.value := ⟨y, hcarried, rfl⟩
    refine ⟨?_, .inl (h.kept_of_carries hlive hcarries)⟩
    rw [cleared, hsuperseded]
    exact unused_retire h hlive hcarries
  · have hvalue := (createRefreshToken_eq_ok hcreate).1
    rw [hvalue]
    exact ⟨unused_of_fresh (sound_cleared h m.now a) hr, .inr rfl⟩

/-- A new token fits where its refresh token is carried by no live one. -/
theorem fits_of_new (hkeeps : services.KeepsTokens) (h : Sound digest used g)
    (hname : a.oAuth2Request.clientId ≠ none) (hvalue : m.accessTokenValue ∉ used)
    (hnew : services.newAccessToken m a r = .ok token) (hr : ∀ y ∈ r, Unused y.value g) :
    Fits digest token a g := by
  obtain ⟨hvalue_eq, hcarried⟩ := newAccessToken_carries hkeeps hnew
  have hfresh : token.value ∉ used := by
    rw [hvalue_eq]
    exact hvalue
  apply fits_of_fresh h hfresh hname
  rintro v ⟨y, hy, rfl⟩
  rw [hcarried] at hy
  exact hr y hy

/-- A new token that is stored alone: the refresh token that it carries is there. -/
theorem sound_put_new (vs : List String) (hkeeps : services.KeepsTokens) (h : Sound digest used g₁)
    (hcontinues : Continues [m.accessTokenValue, m.refreshTokenValue] g g₁)
    (hname : a.oAuth2Request.clientId ≠ none) (hvalue : m.accessTokenValue ∉ used)
    (hnew : services.newAccessToken m a r = .ok token)
    (hr : ∀ y ∈ r, Unused y.value g₁ ∧ g₁.refreshToken y.value = some y) :
    Sound digest (used ++ [m.accessTokenValue, m.refreshTokenValue])
        (put digest token a (dropAll digest vs g₁)) ∧
      Continues [m.accessTokenValue, m.refreshTokenValue] g
        (put digest token a (dropAll digest vs g₁)) := by
  obtain ⟨hvalue_eq, hcarried⟩ := newAccessToken_carries hkeeps hnew
  have hfewer : Fewer (dropAll digest vs g₁) g₁ := fewer_dropAll vs
  have hsound := h.dropAll vs
  have hfits := fits_of_new hkeeps hsound hname hvalue hnew fun y hy =>
    (hr y hy).1.of_fewer hfewer
  constructor
  · apply (hsound.mono fun v hv => List.mem_append_left _ hv).put hfits
    · intro y hy
      rw [hcarried] at hy
      rw [hfewer.refreshToken]
      exact (hr y hy).2
    · simp [hvalue_eq]
  · apply (hcontinues.fewer hfewer).put
    simp [hvalue_eq]

/-- A new token that is stored with its refresh token, which is kept already or new as well. -/
theorem sound_issue_new (vs : List String) (hkeeps : services.KeepsTokens)
    (h : Sound digest used g₁)
    (hcontinues : Continues [m.accessTokenValue, m.refreshTokenValue] g g₁)
    (hname : a.oAuth2Request.clientId ≠ none) (hvalue : m.accessTokenValue ∉ used)
    (hnew : services.newAccessToken m a r = .ok token) (hunused : ∀ y ∈ r, Unused y.value g₁)
    (hr : ∀ y ∈ r, g.refreshToken y.value ≠ none ∧ y.value ∈ used ∨
      y.value = m.refreshTokenValue) :
    Sound digest (used ++ [m.accessTokenValue, m.refreshTokenValue])
        (TokenRegistry.issue digest token a (dropAll digest vs g₁)) ∧
      Continues [m.accessTokenValue, m.refreshTokenValue] g
        (TokenRegistry.issue digest token a (dropAll digest vs g₁)) := by
  obtain ⟨hvalue_eq, hcarried⟩ := newAccessToken_carries hkeeps hnew
  have hfewer : Fewer (dropAll digest vs g₁) g₁ := fewer_dropAll vs
  have hsound := h.dropAll vs
  have hfits := fits_of_new hkeeps hsound hname hvalue hnew fun y hy =>
    (hunused y hy).of_fewer hfewer
  rw [← hcarried] at hr
  constructor
  · apply (hsound.mono fun v hv => List.mem_append_left _ hv).issue hfits
    · simp [hvalue_eq]
    · intro y hy
      rcases hr y hy with ⟨-, hused⟩ | hdrawn
      · exact List.mem_append_left _ hused
      · simp [hdrawn]
  · apply (hcontinues.fewer hfewer).issue
    · simp [hvalue_eq]
    · intro y hy
      rcases hr y hy with ⟨hkept, -⟩ | hdrawn
      · exact .inl hkept
      · simp [hdrawn]

/-- A creation keeps the registry sound, and brings nothing back. -/
theorem sound_created (hkeeps : services.KeepsTokens) (h : Sound digest used g)
    (hname : a.oAuth2Request.clientId ≠ none) (hvalue : m.accessTokenValue ∉ used)
    (hrefresh : m.refreshTokenValue ∉ used) (hc : Created digest services m a g o g') :
    Sound digest (used ++ [m.accessTokenValue, m.refreshTokenValue]) g' ∧
      Continues [m.accessTokenValue, m.refreshTokenValue] g g' := by
  have hsub : ∀ v ∈ used, v ∈ used ++ [m.accessTokenValue, m.refreshTokenValue] :=
    fun v hv => List.mem_append_left _ hv
  have hcontinues : Continues [m.accessTokenValue, m.refreshTokenValue] g
      (cleared digest m.now a g) := continues_cleared m.now a g
  cases hc with
  | existing token vs hcurrent hlive =>
    have hstored := (h.current_stored _ token hcurrent).1
    have hfewer : Fewer (dropAll digest vs g) g := fewer_dropAll vs
    have hfits := (fits_of_current h hname hcurrent).of_fewer hfewer
    have hused : token.value ∈ used := h.used_token _ (by rw [hstored]; exact Option.some_ne_none _)
    refine ⟨Sound.mono ((h.dropAll vs).put hfits ?_ hused) hsub, ?_⟩
    · rw [hfewer.refreshToken]
      exact h.kept _ token hstored
    · exact ((continues_refl g).fewer hfewer).put (.inl hstored)
  | issued token vs r hdead hrenew hnew =>
    apply sound_issue_new vs hkeeps (sound_cleared h m.now a) hcontinues hname hvalue hnew
    · intro y hy
      rw [Option.mem_def.mp hy] at hrenew
      exact (unused_cleared h hrefresh hrenew).1
    · intro y hy
      rw [Option.mem_def.mp hy] at hrenew
      rcases (unused_cleared h hrefresh hrenew).2 with hkept | hdrawn
      · exact .inl ⟨hkept, h.used_refreshToken _ hkept⟩
      · exact .inr hdrawn
  | failed hdead hnew => exact ⟨(sound_cleared h m.now a).mono hsub, hcontinues⟩

theorem sound_reissued {x : OAuth2RefreshToken} (hkeeps : services.KeepsTokens)
    (h : Sound digest used g) (hname : a.oAuth2Request.clientId ≠ none)
    (hvalue : m.accessTokenValue ∉ used) (hrefresh : m.refreshTokenValue ∉ used)
    (hunused : Unused x.value g) (hkept : g.refreshToken x.value = some x)
    (hr : Reissued digest services m a x g o g') :
    Sound digest (used ++ [m.accessTokenValue, m.refreshTokenValue]) g' ∧
      Continues [m.accessTokenValue, m.refreshTokenValue] g g' := by
  have hsub : ∀ v ∈ used, v ∈ used ++ [m.accessTokenValue, m.refreshTokenValue] :=
    fun v hv => List.mem_append_left _ hv
  have hforget := h.forget hunused
  have hcontinues : Continues [m.accessTokenValue, m.refreshTokenValue] g (forget x.value g) :=
    (continues_refl g).forget x.value
  cases hr with
  | failed hreuse hnew => exact ⟨h.mono hsub, continues_refl g⟩
  | forgotten hrotate hnew => exact ⟨hforget.mono hsub, hcontinues⟩
  | unrotated token vs hrotate hcreate hnew =>
    apply sound_put_new vs hkeeps hforget hcontinues hname hvalue hnew
    intro y hy
    cases hy
  | reused token vs hreuse hnew =>
    apply sound_put_new vs hkeeps h (continues_refl g) hname hvalue hnew
    intro y hy
    rw [← Option.some.inj hy]
    exact ⟨hunused, hkept⟩
  | rotated y token vs hrotate hcreate hnew =>
    have hcarried := (newAccessToken_carries hkeeps hnew).2
    have hy := (createRefreshToken_eq_ok hcreate).1
    rw [← issue_of_carried hcarried]
    apply sound_issue_new vs hkeeps hforget hcontinues hname hvalue hnew
    · intro z hz
      rw [← Option.some.inj hz, hy]
      exact unused_of_fresh hforget hrefresh
    · intro z hz
      rw [← Option.some.inj hz]
      exact .inr hy

/-- A refresh keeps the registry sound, and brings nothing back. -/
theorem sound_refreshed (hkeeps : services.KeepsTokens) (h : Sound digest used s.registry)
    (hvalue : m.accessTokenValue ∉ used) (hrefresh : m.refreshTokenValue ∉ used)
    (hr : Refreshed digest services m value request s o g') :
    Sound digest (used ++ [m.accessTokenValue, m.refreshTokenValue]) g' ∧
      Continues [m.accessTokenValue, m.refreshTokenValue] s.registry g' := by
  have hsub : ∀ v ∈ used, v ∈ used ++ [m.accessTokenValue, m.refreshTokenValue] :=
    fun v hv => List.mem_append_left _ hv
  have hwithdraw : ∀ r, Continues [m.accessTokenValue, m.refreshTokenValue] s.registry
      (withdraw digest r s.registry) := fun r => (continues_refl s.registry).withdraw r
  cases hr with
  | refused hread => exact ⟨h.mono hsub, continues_refl _⟩
  | expired found hread hexpired =>
    have hunused := unused_withdraw h found.1.value
    refine ⟨Sound.mono ((h.withdraw found.1.value).forget hunused) hsub, ?_⟩
    exact (hwithdraw found.1.value).forget found.1.value
  | denied found hread hnarrow =>
    exact ⟨(h.withdraw found.1.value).mono hsub, hwithdraw found.1.value⟩
  | reissued found a hread hlive hnarrow hreissued =>
    have hreadable := readable_of_ok hread
    have hname : a.oAuth2Request.clientId ≠ none := by
      rw [(createRefreshedAuthentication_eq_ok hnarrow).1]
      exact hreadable.named
    have hkept : (withdraw digest found.1.value s.registry).refreshToken found.1.value =
        some found.1 := by
      rw [refreshToken_withdraw, h.refresh_value_eq value found.1 hreadable.refreshToken]
      exact hreadable.refreshToken
    obtain ⟨hsound, hcontinues⟩ := sound_reissued hkeeps (h.withdraw found.1.value) hname hvalue
      hrefresh (unused_withdraw h found.1.value) hkept hreissued
    exact ⟨hsound, (hwithdraw found.1.value).trans hcontinues⟩

/-! ### Loading -/

theorem loadAuthentication_of_none {v : String} {now : ℕ} (hnone : s.registry.token v = none) :
    loadAuthentication digest services now v s =
      .error (invalidToken ("Invalid access token: " ++ v)) s := by
  have hstored : s.accessTokenStore v = none := hnone
  unfold loadAuthentication
  rw [bind_of_ok (get_apply s), hstored]
  rfl

/-- A live token that has not expired is looked up without a write. -/
theorem loadAuthentication_of_live {v : String} {now : ℕ} (h : Sound digest used s.registry)
    (hlive : s.registry.token v = some token) (hexpired : token.isExpired now = false)
    (ha : s.registry.authentication v = some a) :
    loadAuthentication digest services now v s =
      (do orError (services.checkClient a.oAuth2Request.clientId)
          return a : StoreM OAuth2Authentication) s := by
  have hstored : s.accessTokenStore v = some token := hlive
  have hauth : s.authenticationStore token.value = some a := by
    rw [h.value_eq v token hlive]
    exact ha
  have hnot : ¬token.isExpired now = true := by
    rw [hexpired]
    exact Bool.noConfusion
  unfold loadAuthentication
  rw [bind_of_ok (get_apply s), hstored, orThrow_some_bind, onlyIf, if_neg hnot, pure_bind, hauth,
    orThrow_some_bind]

theorem triple_loadAuthentication_expired {v : String} {now : ℕ} (h : Sound digest used s.registry)
    (hlive : s.registry.token v = some token) (hexpired : token.isExpired now = true) :
    Triple (fun t => t = s) (loadAuthentication digest services now v) (fun _ _ => False)
      (fun t => t.registry = drop digest v s.registry) := by
  have hstored : s.accessTokenStore v = some token := hlive
  have hnamed : Named s.registry := h.named
  refine triple_bind_of_ok (get_apply s) ?_
  dsimp only
  rw [hstored, orThrow_some_bind, onlyIf, if_pos hexpired, bind_assoc]
  have hremove : Triple (fun t => t.registry = s.registry)
      (removeAccessToken digest token.value)
      (fun _ t => t.registry = drop digest v s.registry)
      (fun t => t.registry = drop digest v s.registry) := by
    rw [← h.value_eq v token hlive]
    exact triple_removeAccessToken_registry hnamed
  refine triple_bind (triple_mono hremove (fun t ht => by rw [ht]) (fun _ _ ht => ht)
    fun _ ht => ht) fun _ => ?_
  intro t ht
  exact ht

/-- A token is accepted as long as it lives, has not expired and has a registered client. -/
theorem loadAuthentication_eq_ok {v : String} {now : ℕ} (h : Sound digest used s.registry) :
    outcome (services.loadAuthentication digest now v) s = .ok a ↔
      (∃ token, s.registry.token v = some token ∧ token.isExpired now = false) ∧
        s.registry.authentication v = some a ∧
          services.checkClient a.oAuth2Request.clientId = .ok () := by
  cases hlive : s.registry.token v with
  | none =>
    unfold outcome
    rw [loadAuthentication_of_none hlive]
    simp
  | some token =>
    obtain ⟨b, hb⟩ := h.authentication_of_live hlive
    unfold outcome
    cases hexpired : token.isExpired now with
    | true =>
      have hrun : Triple (fun t => t = s) (loadAuthentication digest services now v)
          (fun _ _ => False) _ := triple_loadAuthentication_expired h hlive hexpired
      have hs := hrun s rfl
      cases hload : loadAuthentication digest services now v s with
      | ok c t =>
        rw [hload] at hs
        exact hs.elim
      | error e t => simp [hexpired]
    | false =>
      rw [loadAuthentication_of_live h hlive hexpired hb]
      cases hcheck : services.checkClient b.oAuth2Request.clientId with
      | error e =>
        simp only [hb, Option.some.injEq]
        constructor
        · intro hok
          cases hok
        · rintro ⟨-, rfl, hok⟩
          rw [hcheck] at hok
          cases hok
      | ok _ =>
        simp only [hb, Option.some.injEq]
        constructor
        · intro hok
          have hba : b = a := Except.ok.inj hok
          rw [← hba]
          exact ⟨⟨token, rfl, hexpired⟩, rfl, hcheck⟩
        · rintro ⟨-, rfl, -⟩
          rfl

variable (services) in
/-- Loading takes nothing but an expired token out. -/
theorem loadAuthentication_registry (h : Sound digest used s.registry) (now : ℕ) (v : String) :
    ∃ vs, (final (services.loadAuthentication digest now v) s).registry =
      dropAll digest vs s.registry := by
  cases hlive : s.registry.token v with
  | none =>
    rw [final_of_error (loadAuthentication_of_none hlive)]
    exact ⟨[], rfl⟩
  | some token =>
    obtain ⟨b, hb⟩ := h.authentication_of_live hlive
    cases hexpired : token.isExpired now with
    | true =>
      have hrun : Triple (fun t => t = s) (loadAuthentication digest services now v)
          (fun _ t => t.registry = drop digest v s.registry)
          (fun t => t.registry = drop digest v s.registry) :=
        triple_mono (triple_loadAuthentication_expired h hlive hexpired) (fun _ ht => ht)
          (fun _ _ hfalse => hfalse.elim) fun _ ht => ht
      exact ⟨[v], final_of_triple hrun rfl⟩
    | false =>
      refine ⟨[], ?_⟩
      have hleaves : Leaves registry (do
          orError (services.checkClient b.oAuth2Request.clientId)
          return b : StoreM OAuth2Authentication) :=
        leaves_bind (leaves_orError _) fun _ => leaves_pure _
      have hsame := hleaves s
      unfold final at hsame ⊢
      rw [loadAuthentication_of_live h hlive hexpired hb]
      exact hsame

/-! ### Runs -/

/-- Every call keeps the registry sound, and brings nothing back. -/
theorem sound_call (hkeeps : services.KeepsTokens) (h : Sound digest used s.registry) (c : Call)
    (hname : c.Named) (hfresh : ∀ v ∈ c.drawn, v ∉ used) :
    Sound digest (used ++ c.drawn) (services.call digest s c).registry ∧
      Continues c.drawn s.registry (services.call digest s c).registry := by
  cases c with
  | operation op =>
    cases op with
    | createAccessToken m a =>
      have hvalue := hfresh m.accessTokenValue (by simp [Call.drawn])
      have hrefresh := hfresh m.refreshTokenValue (by simp [Call.drawn])
      exact sound_created hkeeps h hname hvalue hrefresh (created services h hname m)
    | refreshAccessToken m value request =>
      have hvalue := hfresh m.accessTokenValue (by simp [Call.drawn])
      have hrefresh := hfresh m.refreshTokenValue (by simp [Call.drawn])
      exact sound_refreshed hkeeps h hvalue hrefresh (refreshed services h m value request)
    | revokeToken v =>
      have hregistry := (revokeToken_apply h v).2
      show Sound digest (used ++ []) (final (revokeToken digest v) s).registry ∧
        Continues [] s.registry (final (revokeToken digest v) s).registry
      rw [hregistry, List.append_nil, revoked]
      cases hlive : s.registry.token v with
      | none => exact ⟨h, continues_refl _⟩
      | some token =>
        have hvalue := h.value_eq v token hlive
        rw [← hvalue] at hlive
        exact ⟨h.retire hlive, (continues_refl _).retire token⟩
  | loadAuthentication now v =>
    obtain ⟨vs, hregistry⟩ := loadAuthentication_registry services h now v
    show Sound digest (used ++ []) (final (services.loadAuthentication digest now v) s).registry ∧
      Continues [] s.registry (final (services.loadAuthentication digest now v) s).registry
    rw [hregistry, List.append_nil]
    exact ⟨h.dropAll vs, (continues_refl _).fewer (fewer_dropAll vs)⟩

theorem genuine_append {before after : List Call} :
    Genuine (before ++ after) ↔ Genuine before ∧ Genuine after ∧
      ∀ v ∈ before.flatMap Call.drawn, v ∉ after.flatMap Call.drawn := by
  constructor
  · intro h
    have hnodup := h.fresh
    rw [List.flatMap_append, List.nodup_append'] at hnodup
    obtain ⟨hbefore, hafter, hdisjoint⟩ := hnodup
    exact ⟨⟨fun c hc => h.named c (List.mem_append_left _ hc), hbefore⟩,
      ⟨fun c hc => h.named c (List.mem_append_right _ hc), hafter⟩, fun v hv hv' => hdisjoint hv hv'⟩
  · rintro ⟨hbefore, hafter, hdisjoint⟩
    refine ⟨fun c hc => ?_, ?_⟩
    · rcases List.mem_append.mp hc with hc | hc
      · exact hbefore.named c hc
      · exact hafter.named c hc
    · rw [List.flatMap_append, List.nodup_append']
      exact ⟨hbefore.fresh, hafter.fresh, fun v hv hv' => hdisjoint v hv hv'⟩

/-- The first call of a run of new values, and what is left for the calls after it. -/
theorem genuine_cons {c : Call} {calls : List Call} (hcalls : Genuine (c :: calls))
    (hnew : ∀ v ∈ (c :: calls).flatMap Call.drawn, v ∉ used) :
    (c.Named ∧ ∀ v ∈ c.drawn, v ∉ used) ∧
      Genuine calls ∧ ∀ v ∈ calls.flatMap Call.drawn, v ∉ used ++ c.drawn := by
  obtain ⟨hone, hrest, hdisjoint⟩ := genuine_append.mp (show Genuine ([c] ++ calls) from hcalls)
  rw [List.flatMap_cons] at hnew
  constructor
  · constructor
    · exact hone.named c List.mem_cons_self
    · intro v hv
      exact hnew v (List.mem_append_left _ hv)
  · refine ⟨hrest, ?_⟩
    intro v hv hmem
    rcases List.mem_append.mp hmem with hused | hdrawn
    · exact hnew v (List.mem_append_right _ hv) hused
    · apply hdisjoint v _ hv
      simpa using hdrawn

/-- The induction is on the run. -/
theorem sound_run (hkeeps : services.KeepsTokens) {calls : List Call} (hcalls : Genuine calls)
    (h : Sound digest used s.registry) (hnew : ∀ v ∈ calls.flatMap Call.drawn, v ∉ used) :
    Sound digest (used ++ calls.flatMap Call.drawn)
        (Runs.exec (services.call digest) s calls).registry ∧
      Continues (calls.flatMap Call.drawn) s.registry
        (Runs.exec (services.call digest) s calls).registry := by
  induction calls generalizing s used with
  | nil =>
    rw [List.flatMap_nil, List.append_nil]
    exact ⟨h, continues_refl _⟩
  | cons c calls ih =>
    obtain ⟨⟨hname, hfresh⟩, hrest, hnew'⟩ := genuine_cons hcalls hnew
    obtain ⟨hsound, hcontinues⟩ := sound_call hkeeps h c hname hfresh
    obtain ⟨hend, hcontinues'⟩ := ih hrest hsound hnew'
    rw [List.flatMap_cons]
    rw [List.append_assoc] at hend
    refine ⟨hend, ?_⟩
    have hfirst := hcontinues.mono fun v hv => List.mem_append_left (calls.flatMap Call.drawn) hv
    have hsecond := hcontinues'.mono fun v hv => List.mem_append_right c.drawn hv
    exact hfirst.trans hsecond

/-- What guarded calls keep in sound stores holds after every guarded run; soundness goes along
in the induction. -/
theorem invariant_run (hkeeps : services.KeepsTokens) {I : InMemoryTokenStore → Prop}
    {ok : InMemoryTokenStore → Call → Prop}
    (preserve : ∀ used s c, Sound digest used s.registry → c.Named → (∀ v ∈ c.drawn, v ∉ used) →
      ok s c → I s → I (services.call digest s c))
    {calls : List Call} (hcalls : Genuine calls) (h : Sound digest used s.registry)
    (hnew : ∀ v ∈ calls.flatMap Call.drawn, v ∉ used)
    (hmeets : Runs.Meets (services.call digest) ok s calls) (hI : I s) :
    I (Runs.exec (services.call digest) s calls) := by
  induction calls generalizing s used with
  | nil => exact hI
  | cons c calls ih =>
    obtain ⟨⟨hname, hfresh⟩, hrest, hnew'⟩ := genuine_cons hcalls hnew
    have hsound := (sound_call hkeeps h c hname hfresh).1
    have hnext := preserve used s c h hname hfresh hmeets.1 hI
    exact ih hrest hsound hnew' hmeets.2 hnext

end Steps

end DefaultTokenServices

end MaxKey.OAuth2
