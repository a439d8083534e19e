import MaxKey.TokenRegistry
import MaxKey.TokenServices

namespace MaxKey.OAuth2
open Effects InMemoryTokenStore TokenRegistry

namespace TokenRegistry

/-- Every stored authentication names a client. -/
def Named (g : TokenRegistry) : Prop :=
  ∀ v a, g.authentication v = some a → a.oAuth2Request.clientId ≠ none

theorem Named.of_fewer {g' g : TokenRegistry} (h : Named g) (hg : Fewer g' g) : Named g' :=
  fun v a ha => h v a (hg.authentication v a ha)

theorem dropAll_append (digest : String → String) (vs : List String) (v : String)
    (g : TokenRegistry) :
    dropAll digest (vs ++ [v]) g = drop digest v (dropAll digest vs g) := by
  simp only [dropAll, List.foldl_append, List.foldl_cons, List.foldl_nil]

end TokenRegistry

namespace InMemoryTokenStore

variable {digest : String → String} {s t : InMemoryTokenStore} {g : TokenRegistry} {v : String}
  {a : OAuth2Authentication} {token : OAuth2AccessToken} {now : ℕ} {fail : InMemoryTokenStore → Prop}

/-- A state whose registry is `g` but for dropped tokens. -/
def Dropped (digest : String → String) (g : TokenRegistry) (s : InMemoryTokenStore) : Prop :=
  ∃ vs, s.registry = dropAll digest vs g

theorem dropped_of_eq (h : s.registry = g) : Dropped digest g s := ⟨[], h⟩

/-- With the client of its authentication named, a removal goes through. -/
theorem triple_removeAccessToken_registry (hnamed : Named g) :
    Triple (fun t => t.registry = g) (removeAccessToken digest v)
      (fun _ t => t.registry = drop digest v g) fail := by
  intro t ht
  subst ht
  unfold removeAccessToken
  rw [bind_of_ok (get_apply t), bind_of_ok (modify_apply _ t)]
  cases ha : t.authenticationStore v with
  | none =>
    show (dropToken v t).registry = drop digest v t.registry
    have hauth : t.registry.authentication v = none := ha
    simp only [drop, hauth]
    rfl
  | some a =>
    obtain ⟨clientId, hclient⟩ := Option.ne_none_iff_exists'.mp (hnamed v a ha)
    have hauth : t.registry.authentication v = some a := ha
    simp only [unindex, hclient, orThrow]
    show registry _ = drop digest v t.registry
    simp only [drop, hauth]
    exact congrArg (fun current => ({ t.registry with
      token := Function.update t.accessTokenStore v none
      authentication := Function.update t.authenticationStore v none
      current := current } : TokenRegistry)) (Function.update_idem _ _ _)

theorem triple_drop (hnamed : Named g) :
    Triple (Dropped digest g) (removeAccessToken digest v) (fun _ => Dropped digest g) fail := by
  intro t ⟨vs, ht⟩
  have hdrop : Triple (fun u => u.registry = dropAll digest vs g) (removeAccessToken digest v)
      (fun _ => Dropped digest g) fail := by
    have hfewer : TokenRegistry.Fewer (dropAll digest vs g) g := TokenRegistry.fewer_dropAll vs
    have hstill := hnamed.of_fewer hfewer
    refine triple_mono (triple_removeAccessToken_registry hstill) (fun _ h => h) ?_ fun _ h => h
    intro _ u hu
    exact ⟨vs ++ [v], hu.trans (dropAll_append digest vs v g).symm⟩
  exact hdrop t ht

/-- The induction is on the queue. -/
theorem triple_poll_registry (hnamed : Named g) (queue : List TokenExpiry) :
    Triple (Dropped digest g) (poll digest now queue) (fun _ => Dropped digest g) fail := by
  induction queue with
  | nil => exact triple_pure fun _ h => h
  | cons first rest ih =>
    refine triple_onlyIf (fun _ => ?_) fun _ _ h => h
    refine triple_bind (M := fun _ => Dropped digest g) (triple_modify fun _ h => h) fun _ => ?_
    exact triple_bind (triple_drop hnamed) fun _ => ih

theorem triple_countInsert_registry (hnamed : Named g) :
    Triple (Dropped digest g) (countInsert digest now) (fun _ => Dropped digest g) fail := by
  refine triple_bind (M := fun _ => Dropped digest g) (triple_modify fun _ h => h) fun _ => ?_
  refine triple_bind (M := fun _ => Dropped digest g) (triple_get fun _ h => h) fun s => ?_
  refine triple_onlyIf (fun _ => ?_) fun _ _ h => h
  refine triple_bind (M := fun _ => Dropped digest g) ?_ fun _ => triple_modify fun _ h => h
  refine triple_bind (M := fun _ => Dropped digest g) (triple_get fun _ h => h) fun t => ?_
  exact triple_poll_registry hnamed t.expiryQueue

/-- The clocks and indexes that an insertion sets do not show in the registry. -/
theorem registry_inserted (clientId : String) (s : InMemoryTokenStore) :
    (linkRefreshToken token (putExpiry token (indexClient token clientId
      (putToken digest token a s)))).registry = put digest token a s.registry := by
  unfold linkRefreshToken putExpiry put
  cases token.expiration with
  | none => cases token.refreshToken <;> rfl
  | some expiration => cases token.refreshToken <;> rfl

/-- What an insertion leaves of the registry: what it flushes goes, and the token is put in. -/
theorem triple_storeAccessToken_registry (hnamed : Named g) (ha : a.oAuth2Request.clientId ≠ none) :
    Triple (fun t => t.registry = g) (storeAccessToken digest now token a)
      (fun _ t => ∃ vs, t.registry = put digest token a (dropAll digest vs g)) fail := by
  obtain ⟨clientId, hclient⟩ := Option.ne_none_iff_exists'.mp ha
  intro t ht
  have hcounted : Triple (Dropped digest g) (countInsert digest now) (fun _ => Dropped digest g)
      fun _ => False := triple_countInsert_registry hnamed
  have hcount := hcounted t (dropped_of_eq ht)
  unfold storeAccessToken
  cases hrun : countInsert digest now t with
  | error e u =>
    rw [hrun] at hcount
    exact absurd hcount id
  | ok _ u =>
    rw [hrun] at hcount
    obtain ⟨vs, hu⟩ := hcount
    rw [bind_of_ok hrun, hclient]
    exact ⟨vs, (registry_inserted clientId u).trans (congrArg (put digest token a) hu)⟩

/-- The look-up does not write: a current token is filed under the key of its authentication. -/
theorem getAccessToken_apply {used : List String} (h : Sound digest used s.registry) (now : ℕ)
    (a : OAuth2Authentication) :
    getAccessToken digest now a s = .ok (s.registry.current (extractKey digest a)) s := by
  unfold getAccessToken
  rw [bind_of_ok (get_apply s)]
  cases hfound : s.authenticationToAccessTokenStore (extractKey digest a) with
  | none =>
    have hnone : s.registry.current (extractKey digest a) = none := hfound
    rw [hnone]
    rfl
  | some token =>
    have hsome : s.registry.current (extractKey digest a) = some token := hfound
    obtain ⟨-, b, hb, hkey⟩ := h.current_stored _ token hsome
    have hstored : s.authenticationStore token.value = some b := hb
    rw [hsome]
    simp only [hstored, orThrow, pure_bind, hkey, onlyIf, ne_eq, not_true_eq_false,
      if_false, pure_apply]

theorem triple_withdraw (r : String) (hnamed : Named g) :
    Triple (fun t => t.registry = g) (removeAccessTokenUsingRefreshToken digest r)
      (fun _ t => t.registry = withdraw digest r g) fail := by
  intro t ht
  subst ht
  unfold removeAccessTokenUsingRefreshToken
  rw [bind_of_ok (get_apply t), bind_of_ok (modify_apply _ t)]
  cases hlinked : t.refreshTokenToAccessTokenStore r with
  | none =>
    show registry _ = withdraw digest r t.registry
    have hnone : t.registry.linked r = none := hlinked
    simp only [withdraw, hnone]
    rfl
  | some v =>
    have hsome : t.registry.linked r = some v := hlinked
    let unlinked : TokenRegistry :=
      { t.registry with linked := Function.update t.registry.linked r none }
    have hwithdraw : withdraw digest r t.registry = drop digest v unlinked := by
      simp only [withdraw, hsome, unlinked]
    have hstill : Named unlinked := hnamed
    have hremove : Triple (fun u => u.registry = unlinked) (removeAccessToken digest v)
        (fun _ u => u.registry = drop digest v unlinked) fail :=
      triple_removeAccessToken_registry hstill
    rw [hwithdraw]
    exact hremove _ rfl

end InMemoryTokenStore

namespace DefaultTokenServices

variable (digest : String → String) (services : DefaultTokenServices)

/-- The current token of an authentication, once it has expired. -/
def superseded (now : ℕ) (a : OAuth2Authentication) (g : TokenRegistry) :
    Option OAuth2AccessToken := (g.current (extractKey digest a)).filter (·.isExpired now)

/-- An expired token makes way with its refresh token. -/
def cleared (now : ℕ) (a : OAuth2Authentication) (g : TokenRegistry) : TokenRegistry :=
  match superseded digest now a g with
  | none => g
  | some token => retire digest token g

/-- What a creation returns, if it returns, and the registry that it leaves. -/
inductive Created (m : Moment) (a : OAuth2Authentication) (g : TokenRegistry) :
    Option OAuth2AccessToken → TokenRegistry → Prop
  | existing (token : OAuth2AccessToken) (vs : List String)
      (hcurrent : g.current (extractKey digest a) = some token)
      (hlive : token.isExpired m.now = false) :
      Created m a g (some token) (put digest token a (dropAll digest vs g))
  | issued (token : OAuth2AccessToken) (vs : List String) (r : Option OAuth2RefreshToken)
      (hdead : superseded digest m.now a g = g.current (extractKey digest a))
      (hrenew : services.renewRefreshToken m a.oAuth2Request
        ((superseded digest m.now a g).bind OAuth2AccessToken.refreshToken) = .ok r)
      (hnew : services.newAccessToken m a r = .ok token) :
      Created m a g (some token)
        (TokenRegistry.issue digest token a (dropAll digest vs (cleared digest m.now a g)))
  | failed (hdead : superseded digest m.now a g = g.current (extractKey digest a))
      (hnew : ∀ r, services.renewRefreshToken m a.oAuth2Request
        ((superseded digest m.now a g).bind OAuth2AccessToken.refreshToken) = .ok r →
          ∀ token, services.newAccessToken m a r ≠ .ok token) :
      Created m a g none (cleared digest m.now a g)

/-- What is left once a refresh token has been accepted and its scopes are settled. -/
inductive Reissued (m : Moment) (a : OAuth2Authentication) (r : OAuth2RefreshToken)
    (g : TokenRegistry) : Option OAuth2AccessToken → TokenRegistry → Prop
  | failed (hreuse : services.reuseRefreshToken = true)
      (hnew : ∀ token, services.newAccessToken m a (some r) ≠ .ok token) : Reissued m a r g none g
  | forgotten (hrotate : services.reuseRefreshToken = false)
      (hnew : ∀ y, services.createRefreshToken m a.oAuth2Request = .ok y →
        ∀ token, services.newAccessToken m a y ≠ .ok token) :
      Reissued m a r g none (forget r.value g)
  | unrotated (token : OAuth2AccessToken) (vs : List String)
      (hrotate : services.reuseRefreshToken = false)
      (hcreate : services.createRefreshToken m a.oAuth2Request = .ok none)
      (hnew : services.newAccessToken m a none = .ok token) :
      Reissued m a r g none (put digest token a (dropAll digest vs (forget r.value g)))
  | reused (token : OAuth2AccessToken) (vs : List String)
      (hreuse : services.reuseRefreshToken = true)
      (hnew : services.newAccessToken m a (some r) = .ok token) :
      Reissued m a r g (some token) (put digest token a (dropAll digest vs g))
  | rotated (y : OAuth2RefreshToken) (token : OAuth2AccessToken) (vs : List String)
      (hrotate : services.reuseRefreshToken = false)
      (hcreate : services.createRefreshToken m a.oAuth2Request = .ok (some y))
      (hnew : services.newAccessToken m a (some y) = .ok token) :
      Reissued m a r g (some token)
        (keep y a (put digest token a (dropAll digest vs (forget r.value g))))

/-- What a refresh returns, if it returns, and the registry that it leaves. -/
inductive Refreshed (m : Moment) (value : String) (request : TokenRequest)
    (s : InMemoryTokenStore) : Option OAuth2AccessToken → TokenRegistry → Prop
  | refused (hread : ∀ found, services.readForRefresh s value request ≠ .ok found) :
      Refreshed m value request s none s.registry
  | expired (found : OAuth2RefreshToken × OAuth2Authentication)
      (hread : services.readForRefresh s value request = .ok found)
      (hexpired : found.1.isExpired m.now = true) :
      Refreshed m value request s none
        (forget found.1.value (withdraw digest found.1.value s.registry))
  | denied (found : OAuth2RefreshToken × OAuth2Authentication)
      (hread : services.readForRefresh s value request = .ok found)
      (hnarrow : ∀ a, createRefreshedAuthentication found.2 request ≠ .ok a) :
      Refreshed m value request s none (withdraw digest found.1.value s.registry)
  | reissued (found : OAuth2RefreshToken × OAuth2Authentication) (a : OAuth2Authentication)
      {o : Option OAuth2AccessToken} {g : TokenRegistry}
      (hread : services.readForRefresh s value request = .ok found)
      (hlive : found.1.isExpired m.now = false)
      (hnarrow : createRefreshedAuthentication found.2 request = .ok a)
      (h : Reissued digest services m a found.1 (withdraw digest found.1.value s.registry) o g) :
      Refreshed m value request s o g

section Outcomes

variable {digest} {services} {used : List String} {s : InMemoryTokenStore} {g : TokenRegistry}
  {m : Moment} {a b : OAuth2Authentication} {token : OAuth2AccessToken} {value : String}
  {request : TokenRequest} {found : OAuth2RefreshToken × OAuth2Authentication}

/-- A new token, stored with the refresh token that it carries. -/
theorem triple_issue_registry {existing : Option OAuth2RefreshToken} (hnamed : Named g)
    (ha : a.oAuth2Request.clientId ≠ none) {R : Option OAuth2AccessToken → TokenRegistry → Prop}
    (hissued : ∀ token vs r, services.renewRefreshToken m a.oAuth2Request existing = .ok r →
      services.newAccessToken m a r = .ok token →
        R (some token) (TokenRegistry.issue digest token a (dropAll digest vs g)))
    (hfailed : (∀ r, services.renewRefreshToken m a.oAuth2Request existing = .ok r →
      ∀ token, services.newAccessToken m a r ≠ .ok token) → R none g) :
    Triple (fun t => t.registry = g) (services.issue digest m a existing)
      (fun token t => R (some token) t.registry) (fun t => R none t.registry) := by
  intro t ht
  unfold DefaultTokenServices.issue
  cases hrenew : services.renewRefreshToken m a.oAuth2Request existing with
  | error e =>
    show R none t.registry
    rw [ht]
    refine hfailed fun r hr => ?_
    rw [hrenew] at hr
    cases hr
  | ok r =>
    rw [orError_ok_bind]
    cases hnew : services.newAccessToken m a r with
    | error e =>
      show R none t.registry
      rw [ht]
      refine hfailed fun r' hr' token htoken => ?_
      rw [hrenew] at hr'
      rw [← Except.ok.inj hr', hnew] at htoken
      cases htoken
    | ok token =>
      rw [orError_ok_bind]
      have hstore : Triple (fun t => t.registry = g) (storeAccessToken digest m.now token a)
          (fun _ t => ∃ vs, t.registry = put digest token a (dropAll digest vs g))
          (fun t => R none t.registry) := triple_storeAccessToken_registry hnamed ha
      refine triple_bind hstore (fun _ u ⟨vs, hu⟩ => ?_) t ht
      have hregistry := hissued token vs r hrenew hnew
      unfold TokenRegistry.issue at hregistry
      cases hcarried : token.refreshToken with
      | none =>
        rw [hcarried] at hregistry
        rw [← hu] at hregistry
        exact hregistry
      | some y =>
        rw [hcarried] at hregistry
        rw [← hu] at hregistry
        exact hregistry

theorem triple_retire (hnamed : Named g) (token : OAuth2AccessToken) :
    Triple (fun t => t.registry = g) (do
        token.refreshToken.forM fun r => modify (removeRefreshToken r.value)
        removeAccessToken digest token.value)
      (fun _ t => t.registry = retire digest token g) fail := by
  unfold retire
  cases hcarried : token.refreshToken with
  | none => exact triple_removeAccessToken_registry hnamed
  | some r =>
    have hstill : Named (forget r.value g) := hnamed
    refine triple_bind (M := fun _ t => t.registry = forget r.value g) (triple_modify fun t ht => ?_)
      fun _ => triple_removeAccessToken_registry hstill
    rw [← ht]
    rfl

theorem named_retire (hnamed : Named g) (token : OAuth2AccessToken) :
    Named (retire digest token g) := by
  unfold retire
  cases token.refreshToken with
  | none => exact hnamed.of_fewer (fewer_drop _)
  | some r =>
    have hstill : Named (forget r.value g) := hnamed
    exact hstill.of_fewer (fewer_drop _)

theorem named_cleared (hnamed : Named g) (now : ℕ) (a : OAuth2Authentication) :
    Named (cleared digest now a g) := by
  unfold cleared
  cases superseded digest now a g with
  | none => exact hnamed
  | some token => exact named_retire hnamed token

variable (services) in
/-- A creation without a live token of its key. -/
theorem triple_issue_created (hnamed : Named g) (ha : a.oAuth2Request.clientId ≠ none)
    (hdead : superseded digest m.now a g = g.current (extractKey digest a)) :
    Triple (fun t => t.registry = cleared digest m.now a g) (services.issue digest m a
        ((superseded digest m.now a g).bind OAuth2AccessToken.refreshToken))
      (fun token t => Created digest services m a g (some token) t.registry)
      (fun t => Created digest services m a g none t.registry) :=
  triple_issue_registry (named_cleared hnamed m.now a) ha
    (fun token vs r hr htoken => .issued token vs r hdead hr htoken) (.failed hdead)

variable (services) in
/-- Every creation is one of the cases. -/
theorem created (h : Sound digest used s.registry) (ha : a.oAuth2Request.clientId ≠ none)
    (m : Moment) :
    Created digest services m a s.registry
      (outcome (services.createAccessToken digest m a) s).toOption
      (final (services.createAccessToken digest m a) s).registry := by
  refine outcome_of_triple
    (R := fun o t => Created digest services m a s.registry o t.registry)
    (triple_bind_of_ok (getAccessToken_apply h m.now a) ?_)
  refine triple_mono (P := fun t => t.registry = s.registry) ?_ (fun t ht => by rw [ht])
    (fun _ _ ht => ht) fun _ ht => ht
  have hnamed : Named s.registry := h.named
  cases hcurrent : s.registry.current (extractKey digest a) with
  | none =>
    have hsuperseded : superseded digest m.now a s.registry = none := by
      rw [superseded, hcurrent]
      rfl
    have hissue := triple_issue_created services hnamed ha
      (hsuperseded.trans hcurrent.symm)
    rw [cleared, hsuperseded] at hissue
    exact hissue
  | some token =>
    dsimp only
    split_ifs with hexpired
    · have hsuperseded : superseded digest m.now a s.registry = some token := by
        rw [superseded, hcurrent, Option.filter_some, if_pos hexpired]
      have hissue := triple_issue_created services hnamed ha
        (hsuperseded.trans hcurrent.symm)
      rw [cleared, hsuperseded] at hissue
      have hretire := triple_bind (triple_retire hnamed token) fun _ => hissue
      simpa only [bind_assoc, Option.bind_some] using hretire
    · have hstore : Triple (fun t => t.registry = s.registry)
          (storeAccessToken digest m.now token a)
          (fun _ t => ∃ vs, t.registry = put digest token a (dropAll digest vs s.registry))
          (fun t => Created digest services m a s.registry none t.registry) :=
        triple_storeAccessToken_registry hnamed ha
      refine triple_bind hstore fun _ => triple_pure ?_
      rintro t ⟨vs, ht⟩
      rw [ht]
      exact .existing token vs hcurrent (Bool.eq_false_iff.mpr hexpired)

theorem reauthenticated_request (h : services.reauthenticated a = .ok b) :
    b.oAuth2Request = a.oAuth2Request := by
  unfold reauthenticated at h
  split at h
  · obtain ⟨user, -, h⟩ := except_bind_eq_ok.mp h
    rw [← Except.ok.inj h]
  · rw [← Except.ok.inj h]

/-- What a refresh reads before it changes anything. -/
structure Readable (services : DefaultTokenServices) (g : TokenRegistry) (value : String)
    (request : TokenRequest) (found : OAuth2RefreshToken × OAuth2Authentication) : Prop where
  supported : services.supportRefreshToken = true
  refreshToken : g.refreshToken value = some found.1
  stored : ∃ b, g.refreshAuthentication found.1.value = some b ∧
    services.reauthenticated b = .ok found.2 ∧ b.oAuth2Request = found.2.oAuth2Request
  named : found.2.oAuth2Request.clientId ≠ none
  client : found.2.oAuth2Request.clientId = request.clientId

theorem readable_of_ok (h : services.readForRefresh s value request = .ok found) :
    Readable services s.registry value request found := by
  obtain ⟨_, hsupported, h⟩ := except_bind_eq_ok.mp h
  obtain ⟨refreshToken, hrefresh, h⟩ := except_bind_eq_ok.mp h
  obtain ⟨authentication, hauth, h⟩ := except_bind_eq_ok.mp h
  obtain ⟨_, hclient, h⟩ := except_bind_eq_ok.mp h
  have hfound := Except.ok.inj h
  rw [failIf_eq_ok] at hsupported hclient
  have hnamed := not_or.mp hclient
  rw [← hfound]
  refine ⟨by simpa using hsupported, ?_, ?_, hnamed.1, not_not.mp hnamed.2⟩
  · cases hstored : s.refreshTokenStore value with
    | none =>
      rw [hstored] at hrefresh
      cases hrefresh
    | some r =>
      rw [hstored] at hrefresh
      rw [← Except.ok.inj hrefresh]
      exact hstored
  · cases hstored : s.refreshTokenAuthenticationStore refreshToken.value with
    | none =>
      rw [hstored] at hauth
      cases hauth
    | some b =>
      rw [hstored] at hauth
      exact ⟨b, hstored, hauth, (reauthenticated_request hauth).symm⟩

/-- The client stays; the scopes are the stored ones or among them. -/
theorem createRefreshedAuthentication_eq_ok
    (h : createRefreshedAuthentication a request = .ok b) :
    b.oAuth2Request.clientId = a.oAuth2Request.clientId ∧
      (b.oAuth2Request.scope = normalizeScope a.oAuth2Request.scope ∨
        request.scope ⊆ normalizeScope a.oAuth2Request.scope ∧
          b.oAuth2Request.scope = normalizeScope request.scope) := by
  unfold createRefreshedAuthentication at h
  dsimp only at h
  split_ifs at h with hall hnarrow
  · rw [← Except.ok.inj h]
    exact ⟨rfl, .inl rfl⟩
  · rw [← Except.ok.inj h]
    refine ⟨rfl, .inr ⟨fun scope hscope => ?_, rfl⟩⟩
    have hcontains := List.all_eq_true.mp hnarrow scope hscope
    exact List.contains_iff_mem.mp hcontains

/-- A refresh with the refresh token that stays. -/
theorem triple_reissue_reused {r : OAuth2RefreshToken} (hnamed : Named g)
    (ha : a.oAuth2Request.clientId ≠ none) (hreuse : services.reuseRefreshToken = true) :
    Triple (fun t => t.registry = g) (services.reissue digest m a r)
      (fun token t => Reissued digest services m a r g (some token) t.registry)
      (fun t => Reissued digest services m a r g none t.registry) := by
  have hrotate : services.rotate m a.oAuth2Request r = pure (some r) := by
    unfold rotate
    rw [if_pos hreuse]
  unfold reissue
  rw [hrotate, pure_bind]
  cases hnew : services.newAccessToken m a (some r) with
  | error e =>
    intro t ht
    show Reissued digest services m a r g none t.registry
    rw [ht]
    refine .failed hreuse fun token htoken => ?_
    rw [hnew] at htoken
    cases htoken
  | ok token =>
    have hstore : Triple (fun t => t.registry = g) (storeAccessToken digest m.now token a)
        (fun _ t => ∃ vs, t.registry = put digest token a (dropAll digest vs g))
        (fun t => Reissued digest services m a r g none t.registry) :=
      triple_storeAccessToken_registry hnamed ha
    have hskip : ¬services.reuseRefreshToken = false := by
      rw [hreuse]
      exact Bool.noConfusion
    rw [orError_ok_bind]
    refine triple_bind hstore fun _ => ?_
    rw [onlyIf, if_neg hskip]
    rintro t ⟨vs, ht⟩
    show Reissued digest services m a r g (some token) t.registry
    rw [ht]
    exact .reused token vs hreuse hnew

/-- A refresh whose refresh token makes way for a new one. -/
theorem triple_reissue_rotated {r : OAuth2RefreshToken} (hnamed : Named g)
    (ha : a.oAuth2Request.clientId ≠ none) (hrotate : services.reuseRefreshToken = false) :
    Triple (fun t => t.registry = g) (services.reissue digest m a r)
      (fun token t => Reissued digest services m a r g (some token) t.registry)
      (fun t => Reissued digest services m a r g none t.registry) := by
  intro t ht
  have hreuse : ¬services.reuseRefreshToken = true := by
    rw [hrotate]
    exact Bool.noConfusion
  -- the old refresh token goes before a new one is made
  let u := removeRefreshToken r.value t
  have hu : u.registry = forget r.value g := by
    rw [← ht]
    rfl
  have hstart : services.reissue digest m a r t = (do
      let y ← orError (services.createRefreshToken m a.oAuth2Request)
      let accessToken ← orError (services.newAccessToken m a y)
      storeAccessToken digest m.now accessToken a
      onlyIf (services.reuseRefreshToken = false) (do
        let refreshToken ← orThrow JavaException.nullPointer y
        modify (storeRefreshToken refreshToken a))
      return accessToken : StoreM OAuth2AccessToken) u := by
    unfold reissue rotate
    rw [if_neg hreuse, bind_assoc]
    exact bind_of_ok (modify_apply _ t)
  rw [hstart]
  have hforgotten : (∀ y, services.createRefreshToken m a.oAuth2Request = .ok y →
      ∀ token, services.newAccessToken m a y ≠ .ok token) →
        Reissued digest services m a r g none u.registry := by
    intro hnew
    rw [hu]
    exact .forgotten hrotate hnew
  cases hcreate : services.createRefreshToken m a.oAuth2Request with
  | error e =>
    refine hforgotten fun y hy => ?_
    rw [hcreate] at hy
    cases hy
  | ok y =>
    rw [orError_ok_bind]
    cases hnew : services.newAccessToken m a y with
    | error e =>
      refine hforgotten fun y' hy' token htoken => ?_
      rw [hcreate] at hy'
      rw [← Except.ok.inj hy', hnew] at htoken
      cases htoken
    | ok token =>
      rw [orError_ok_bind, onlyIf, if_pos hrotate]
      have hstore : Triple (fun t => t.registry = forget r.value g)
          (storeAccessToken digest m.now token a)
          (fun _ t => ∃ vs, t.registry = put digest token a (dropAll digest vs (forget r.value g)))
          (fun t => Reissued digest services m a r g none t.registry) :=
        triple_storeAccessToken_registry hnamed ha
      apply triple_bind hstore _ u hu
      rintro - w ⟨vs, hw⟩
      -- without a new refresh token the call throws when it comes to store it
      cases y with
      | none =>
        show Reissued digest services m a r g none w.registry
        rw [hw]
        exact .unrotated token vs hrotate hcreate hnew
      | some y =>
        show Reissued digest services m a r g (some token) (keep y a w.registry)
        rw [hw]
        exact .rotated y token vs hrotate hcreate hnew

variable (services) in
/-- Every refresh is one of the cases. -/
theorem refreshed (h : Sound digest used s.registry) (m : Moment) (value : String)
    (request : TokenRequest) :
    Refreshed digest services m value request s
      (outcome (services.refreshAccessToken digest m value request) s).toOption
      (final (services.refreshAccessToken digest m value request) s).registry := by
  refine outcome_of_triple
    (R := fun o t => Refreshed digest services m value request s o t.registry)
    (triple_bind_of_ok (get_apply s) ?_)
  cases hread : services.readForRefresh s value request with
  | error e =>
    intro t ht
    show Refreshed digest services m value request s none t.registry
    rw [ht]
    refine .refused fun found hfound => ?_
    rw [hread] at hfound
    cases hfound
  | ok found =>
    rw [orError_ok_bind]
    have hnamed : Named s.registry := h.named
    have hwithdraw : Triple (fun t => t.registry = s.registry)
        (removeAccessTokenUsingRefreshToken digest found.1.value)
        (fun _ t => t.registry = withdraw digest found.1.value s.registry)
        (fun t => Refreshed digest services m value request s none t.registry) :=
      triple_withdraw found.1.value hnamed
    refine triple_mono (P := fun t => t.registry = s.registry) ?_ (fun t ht => by rw [ht])
      (fun _ _ ht => ht) fun _ ht => ht
    refine triple_bind hwithdraw fun _ => ?_
    have hstill : Named (withdraw digest found.1.value s.registry) :=
      (h.withdraw found.1.value).named
    -- the token is withdrawn before its expiration is looked at
    by_cases hexpired : found.1.isExpired m.now = true
    · rw [dropExpired, onlyIf, if_pos hexpired]
      intro t ht
      show Refreshed digest services m value request s none (forget found.1.value t.registry)
      rw [ht]
      exact .expired found hread hexpired
    · rw [dropExpired, onlyIf, if_neg hexpired, pure_bind]
      have hlive : found.1.isExpired m.now = false := Bool.eq_false_iff.mpr hexpired
      -- nothing is written between here and the new token
      cases hnarrow : createRefreshedAuthentication found.2 request with
      | error e =>
        intro t ht
        show Refreshed digest services m value request s none t.registry
        rw [ht]
        refine .denied found hread fun a ha => ?_
        rw [hnarrow] at ha
        cases ha
      | ok a =>
        rw [orError_ok_bind]
        have hclient : a.oAuth2Request.clientId ≠ none := by
          rw [(createRefreshedAuthentication_eq_ok hnarrow).1]
          exact (readable_of_ok hread).named
        have hreissue : Triple
            (fun t => t.registry = withdraw digest found.1.value s.registry)
            (services.reissue digest m a found.1)
            (fun token t => Reissued digest services m a found.1
              (withdraw digest found.1.value s.registry) (some token) t.registry)
            (fun t => Reissued digest services m a found.1
              (withdraw digest found.1.value s.registry) none t.registry) := by
          cases hreuse : services.reuseRefreshToken with
          | true => exact triple_reissue_reused hstill hclient hreuse
          | false => exact triple_reissue_rotated hstill hclient hreuse
        exact triple_mono hreissue (fun _ ht => ht)
          (fun token t ht => .reissued found a hread hlive hnarrow ht)
          (fun t ht => .reissued found a hread hlive hnarrow ht)

/-- A revocation takes the token with the refresh token that it carries. -/
def revoked (digest : String → String) (v : String) (g : TokenRegistry) : TokenRegistry :=
  match g.token v with
  | none => g
  | some token => retire digest token g

theorem revokeToken_apply (h : Sound digest used s.registry) (v : String) :
    outcome (revokeToken digest v) s = .ok (s.registry.token v).isSome ∧
      (final (revokeToken digest v) s).registry = revoked digest v s.registry := by
  have hnamed : Named s.registry := h.named
  have hrun : Triple (fun t => t = s) (revokeToken digest v)
      (fun b t => b = (s.registry.token v).isSome ∧ t.registry = revoked digest v s.registry)
      fun _ => False := by
    refine triple_bind_of_ok (get_apply s) ?_
    unfold revoked
    cases hlive : s.registry.token v with
    | none =>
      have hstored : s.accessTokenStore v = none := hlive
      rw [hstored]
      exact triple_pure fun t ht => ⟨rfl, by rw [ht]⟩
    | some token =>
      have hstored : s.accessTokenStore v = some token := hlive
      rw [hstored]
      have hretire : Triple (fun t => t.registry = s.registry) (do
          token.refreshToken.forM fun r => modify (removeRefreshToken r.value)
          removeAccessToken digest token.value)
        (fun _ t => t.registry = retire digest token s.registry) (fun _ => False) :=
        triple_retire hnamed token
      dsimp only
      rw [← bind_assoc]
      refine triple_bind (triple_mono hretire (fun t ht => by rw [ht]) (fun _ _ ht => ht)
        fun _ ht => ht) fun _ => ?_
      exact triple_pure fun t ht => ⟨rfl, ht⟩
  have hs := hrun s rfl
  unfold outcome final
  cases hxs : revokeToken digest v s with
  | ok b t =>
    rw [hxs] at hs
    exact ⟨by rw [hs.1], hs.2⟩
  | error e t =>
    rw [hxs] at hs
    exact hs.elim

end Outcomes

end DefaultTokenServices

end MaxKey.OAuth2
