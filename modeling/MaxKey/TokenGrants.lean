import MaxKey.TokenLifetimes

namespace MaxKey.OAuth2
open JavaException Effects InMemoryTokenStore TokenRegistry

namespace DefaultTokenServices

/-- The client stays and no scope is added. -/
structure Within (request bound : OAuth2Request) : Prop where
  clientId : request.clientId = bound.clientId
  scope : request.scope ⊆ bound.scope

instance (request bound : OAuth2Request) : Decidable (Within request bound) :=
  decidable_of_iff (request.clientId = bound.clientId ∧ request.scope ⊆ bound.scope)
    ⟨fun h => ⟨h.1, h.2⟩, fun h => ⟨h.1, h.2⟩⟩

theorem within_refl (request : OAuth2Request) : Within request request := ⟨rfl, List.Subset.refl _⟩

theorem Within.trans {request bound wider : OAuth2Request} (h : Within request bound)
    (h' : Within bound wider) : Within request wider :=
  ⟨h.clientId.trans h'.clientId, List.Subset.trans h.scope h'.scope⟩

/-- The record of a run: what each refresh token was first authorised for, and what the token
was authorised for that its chain of refreshes began with. -/
structure Grants where
  first : String → Option OAuth2Request := fun _ => none
  original : String → Option OAuth2Request := fun _ => none

/-- What a kept refresh token is authorised for. -/
def authorised (s : InMemoryTokenStore) (r : String) : Option OAuth2Request :=
  match s.refreshTokenStore r with
  | none => none
  | some _ => (s.refreshTokenAuthenticationStore r).map OAuth2Authentication.oAuth2Request

/-- A refresh token that a refresh brings continues the chain of the one that was used. -/
def Call.origin (grants : Grants) (request : OAuth2Request) : Call → Option OAuth2Request
  | .operation (.refreshAccessToken _ value _) => grants.original value
  | _ => some request

/-- Refresh tokens that are kept for the first time after a call enter the record. -/
def Grants.record (grants : Grants) (c : Call) (s : InMemoryTokenStore) : Grants where
  first r := grants.first r <|> authorised s r
  original r :=
    match grants.first r with
    | some _ => grants.original r
    | none => (authorised s r).bind fun request => c.origin grants request

/-- A token with these scopes, stored with this request, is within what its refresh token was
first authorised for, and that within the first grant of the chain. -/
def Grants.Bound (grants : Grants) (r : String) (scope : List String) (request : OAuth2Request) :
    Prop :=
  ∃ first original, grants.first r = some first ∧ grants.original r = some original ∧
    Within first original ∧ Within request first ∧ scope ⊆ first.scope

variable (digest : String → String) (services : DefaultTokenServices)

/-- The record at the end of a run. -/
def granted : InMemoryTokenStore → Grants → List Call → Grants
  | _, grants, [] => grants
  | s, grants, c :: calls =>
    granted (services.call digest s c) (grants.record c (services.call digest s c)) calls

/-- Every refresh that succeeds stays within the grants of its refresh token, and so does every
live token that carries one. -/
structure WithinGrants (s : InMemoryTokenStore) (grants : Grants) : Prop where
  refreshed : ∀ m value request token, normalizeScope request.scope = request.scope →
    outcome (services.refreshAccessToken digest m value request) s = .ok token →
      ∃ a, (final (services.refreshAccessToken digest m value request) s).authenticationStore
        token.value = some a ∧ grants.Bound value token.scope a.oAuth2Request
  carried : ∀ v token r, s.accessTokenStore v = some token → Carries token r →
    ∃ a, s.authenticationStore v = some a ∧ grants.Bound r token.scope a.oAuth2Request

/-- A grant finds no token under its key but one that was stored for the client and the scopes
of the grant. -/
def SameGrant (s : InMemoryTokenStore) : Call → Prop
  | .operation (.createAccessToken _ a) =>
    ∀ token ∈ s.authenticationToAccessTokenStore (extractKey digest a),
      ∀ b ∈ s.authenticationStore token.value, Within a.oAuth2Request b.oAuth2Request
  | _ => True

instance (s : InMemoryTokenStore) : DecidablePred (SameGrant digest s)
  | .operation (.createAccessToken _ _) =>
    inferInstanceAs (Decidable (∀ _ ∈ _, ∀ _ ∈ _, Within _ _))
  | .operation (.refreshAccessToken _ _ _) | .operation (.revokeToken _)
  | .loadAuthentication _ _ => isTrue trivial

/-- The scope sets of a call are as the constructors of the requests leave them. -/
def Call.Constructed : Call → Prop
  | .operation (.createAccessToken _ a) =>
    normalizeScope a.oAuth2Request.scope = a.oAuth2Request.scope
  | .operation (.refreshAccessToken _ _ request) => normalizeScope request.scope = request.scope
  | _ => True

instance : DecidablePred Call.Constructed
  | .operation (.createAccessToken _ a) =>
    inferInstanceAs (Decidable (normalizeScope a.oAuth2Request.scope = a.oAuth2Request.scope))
  | .operation (.refreshAccessToken _ _ request) =>
    inferInstanceAs (Decidable (normalizeScope request.scope = request.scope))
  | .operation (.revokeToken _) | .loadAuthentication _ _ => isTrue trivial

section Bounds

variable {digest} {services} {used : List String} {s : InMemoryTokenStore}
  {g g' : TokenRegistry} {first first' : String → Option OAuth2Request} {grants : Grants}
  {m : Moment} {a b : OAuth2Authentication} {token t : OAuth2AccessToken} {value r : String}
  {request : TokenRequest} {o : Option OAuth2AccessToken} {calls : List Call}

/-- Kept refresh tokens and the live tokens that carry them are within the first grants. -/
structure Bounded (first : String → Option OAuth2Request) (g : TokenRegistry) : Prop where
  kept : ∀ r x, g.refreshToken r = some x → ∃ b f, g.refreshAuthentication r = some b ∧
    normalizeScope b.oAuth2Request.scope = b.oAuth2Request.scope ∧ first r = some f ∧
      Within b.oAuth2Request f
  live : ∀ v t r, g.token v = some t → Carries t r → ∃ a f, g.authentication v = some a ∧
    first r = some f ∧ Within a.oAuth2Request f ∧ t.scope ⊆ f.scope

/-- What is left is as it was. -/
structure Shrinks (g' g : TokenRegistry) : Prop where
  token : ∀ v t, g'.token v = some t →
    g.token v = some t ∧ g'.authentication v = g.authentication v
  refreshToken : ∀ r x, g'.refreshToken r = some x →
    g.refreshToken r = some x ∧ g'.refreshAuthentication r = g.refreshAuthentication r

theorem shrinks_refl (g : TokenRegistry) : Shrinks g g :=
  ⟨fun _ _ h => ⟨h, rfl⟩, fun _ _ h => ⟨h, rfl⟩⟩

theorem Shrinks.trans {g₀ : TokenRegistry} (h : Shrinks g' g) (h' : Shrinks g g₀) :
    Shrinks g' g₀ where
  token v t ht := by
    obtain ⟨hlive, hauth⟩ := h.token v t ht
    obtain ⟨hlive', hauth'⟩ := h'.token v t hlive
    exact ⟨hlive', hauth.trans hauth'⟩
  refreshToken r x hx := by
    obtain ⟨hkept, hauth⟩ := h.refreshToken r x hx
    obtain ⟨hkept', hauth'⟩ := h'.refreshToken r x hkept
    exact ⟨hkept', hauth.trans hauth'⟩

theorem shrinks_of_fewer (h : TokenRegistry.Fewer g' g) : Shrinks g' g where
  token v t ht := by
    rcases h.token v with hnone | ⟨htoken, hauth⟩
    · rw [hnone] at ht
      cases ht
    · rw [htoken] at ht
      exact ⟨ht, hauth⟩
  refreshToken r x hx := by
    rw [h.refreshToken] at hx
    rw [h.refreshAuthentication]
    exact ⟨hx, rfl⟩

theorem shrinks_dropAll (vs : List String) : Shrinks (dropAll digest vs g) g :=
  shrinks_of_fewer (fewer_dropAll vs)

theorem shrinks_forget (r : String) (g : TokenRegistry) : Shrinks (forget r g) g where
  token _ _ ht := ⟨ht, rfl⟩
  refreshToken w x hx := by
    obtain ⟨hne, hkept⟩ := refreshToken_forget.mp hx
    exact ⟨hkept, Function.update_of_ne hne _ _⟩

theorem shrinks_retire (t : OAuth2AccessToken) (g : TokenRegistry) :
    Shrinks (retire digest t g) g := by
  unfold retire
  cases t.refreshToken with
  | none => exact shrinks_of_fewer (fewer_drop t.value)
  | some y => exact (shrinks_of_fewer (fewer_drop t.value)).trans (shrinks_forget y.value g)

theorem shrinks_withdraw (r : String) (g : TokenRegistry) : Shrinks (withdraw digest r g) g := by
  unfold withdraw
  cases g.linked r with
  | none => exact ⟨fun _ _ h => ⟨h, rfl⟩, fun _ _ h => ⟨h, rfl⟩⟩
  | some v =>
    -- the link that goes is no part of what is compared
    have hdrop : Shrinks (drop digest v { g with linked := Function.update g.linked r none })
        { g with linked := Function.update g.linked r none } := shrinks_of_fewer (fewer_drop v)
    exact ⟨hdrop.token, hdrop.refreshToken⟩

theorem shrinks_cleared (now : ℕ) (a : OAuth2Authentication) (g : TokenRegistry) :
    Shrinks (cleared digest now a g) g := by
  unfold cleared
  cases superseded digest now a g with
  | none => exact shrinks_refl g
  | some token => exact shrinks_retire token g

theorem shrinks_revokeToken (h : Sound digest used s.registry) (v : String) :
    Shrinks (final (revokeToken digest v) s).registry s.registry := by
  rw [(revokeToken_apply h v).2, revoked]
  cases s.registry.token v with
  | none => exact shrinks_refl _
  | some token => exact shrinks_retire token _

variable (services) in
theorem shrinks_loadAuthentication (h : Sound digest used s.registry) (now : ℕ) (v : String) :
    Shrinks (final (services.loadAuthentication digest now v) s).registry s.registry := by
  obtain ⟨vs, hregistry⟩ := loadAuthentication_registry services h now v
  rw [hregistry]
  exact shrinks_dropAll vs

theorem Bounded.shrink (h : Bounded first g) (hg : Shrinks g' g) : Bounded first g' where
  kept r x hx := by
    obtain ⟨hkept, hauth⟩ := hg.refreshToken r x hx
    rw [hauth]
    exact h.kept r x hkept
  live v t r ht hr := by
    obtain ⟨hlive, hauth⟩ := hg.token v t ht
    rw [hauth]
    exact h.live v t r hlive hr

/-- The record grows. -/
theorem Bounded.mono (h : Bounded first g) (hsub : ∀ r f, first r = some f → first' r = some f) :
    Bounded first' g where
  kept r x hx := by
    obtain ⟨b, f, hauth, hsame, hfirst, hwithin⟩ := h.kept r x hx
    exact ⟨b, f, hauth, hsame, hsub r f hfirst, hwithin⟩
  live v t r ht hr := by
    obtain ⟨a, f, hauth, hfirst, hwithin, hscope⟩ := h.live v t r ht hr
    exact ⟨a, f, hauth, hsub r f hfirst, hwithin, hscope⟩

theorem Bounded.put (h : Bounded first g) (ht : ∀ r, Carries t r → ∃ f, first r = some f ∧
    Within a.oAuth2Request f ∧ t.scope ⊆ f.scope) : Bounded first (put digest t a g) where
  kept := h.kept
  live v x r hx hr := by
    rcases token_put.mp hx with ⟨rfl, rfl⟩ | ⟨hne, hold⟩
    · obtain ⟨f, hf⟩ := ht r hr
      exact ⟨a, f, Function.update_self _ _ _, hf⟩
    · obtain ⟨b, f, hauth, hf⟩ := h.live v x r hold hr
      exact ⟨b, f, (Function.update_of_ne hne _ _).trans hauth, hf⟩

theorem Bounded.keep {y : OAuth2RefreshToken} {f : OAuth2Request} (h : Bounded first g)
    (hscope : normalizeScope a.oAuth2Request.scope = a.oAuth2Request.scope)
    (hf : first y.value = some f) (hwithin : Within a.oAuth2Request f) :
    Bounded first (keep y a g) where
  kept r x hx := by
    simp only [TokenRegistry.keep, Function.update_apply] at hx ⊢
    split_ifs at hx ⊢ with hr
    · rw [hr]
      exact ⟨a, f, rfl, hscope, hf, hwithin⟩
    · exact h.kept r x hx
  live := h.live

theorem Bounded.issue (h : Bounded first g)
    (hscope : normalizeScope a.oAuth2Request.scope = a.oAuth2Request.scope)
    (ht : t.scope = a.oAuth2Request.scope)
    (hy : ∀ y ∈ t.refreshToken, ∃ f, first y.value = some f ∧ Within a.oAuth2Request f) :
    Bounded first (TokenRegistry.issue digest t a g) := by
  have hput : Bounded first (TokenRegistry.put digest t a g) := by
    apply h.put
    rintro r ⟨y, hmem, rfl⟩
    obtain ⟨f, hf, hwithin⟩ := hy y hmem
    refine ⟨f, hf, hwithin, ?_⟩
    rw [ht]
    exact hwithin.scope
  unfold TokenRegistry.issue
  cases hcarried : t.refreshToken with
  | none => exact hput
  | some y =>
    obtain ⟨f, hf, hwithin⟩ := hy y hcarried
    exact hput.keep hscope hf hwithin

theorem scope_newAccessToken {y : Option OAuth2RefreshToken} (hkeeps : services.KeepsTokens)
    (hnew : services.newAccessToken m a y = .ok token) : token.scope = a.oAuth2Request.scope := by
  obtain ⟨validity, -, htoken⟩ := newAccessToken_eq_ok hkeeps hnew
  rw [htoken]

/-- A creation keeps the bounds, once its new refresh token is in the record. -/
theorem bounded_created (hkeeps : services.KeepsTokens) (h : Sound digest used g)
    (hb : Bounded first g) (hused : ∀ r, first r ≠ none → r ∈ used)
    (hfresh : m.refreshTokenValue ∉ used)
    (hscope : normalizeScope a.oAuth2Request.scope = a.oAuth2Request.scope)
    (hsame : ∀ x, g.current (extractKey digest a) = some x →
      ∀ b, g.authentication x.value = some b → Within a.oAuth2Request b.oAuth2Request)
    (hc : Created digest services m a g o g') (hsub : ∀ r f, first r = some f → first' r = some f)
    (hnew : ∀ r b, g'.refreshToken r ≠ none → g'.refreshAuthentication r = some b →
      first r = none → first' r = some b.oAuth2Request) : Bounded first' g' := by
  -- what the current token carries may be carried on under the new authentication
  have hcarry : ∀ x r, g.current (extractKey digest a) = some x → Carries x r →
      ∃ f, first r = some f ∧ Within a.oAuth2Request f ∧ x.scope ⊆ f.scope := by
    intro x r hcurrent hr
    obtain ⟨b, f, hauth, hf, hwithin, hx⟩ :=
      hb.live _ x r (h.current_stored _ x hcurrent).1 hr
    exact ⟨f, hf, (hsame x hcurrent b hauth).trans hwithin, hx⟩
  cases hc with
  | existing token vs hcurrent hlive =>
    apply ((hb.shrink (shrinks_dropAll vs)).mono hsub).put
    intro r hr
    obtain ⟨f, hf, hbound⟩ := hcarry token r hcurrent hr
    exact ⟨f, hsub r f hf, hbound⟩
  | issued token vs r hdead hrenew hnewToken =>
    have hcleared : Bounded first (cleared digest m.now a g) :=
      hb.shrink (shrinks_cleared m.now a g)
    have hbefore : Bounded first (dropAll digest vs (cleared digest m.now a g)) :=
      hcleared.shrink (shrinks_dropAll vs)
    apply (hbefore.mono hsub).issue hscope (scope_newAccessToken hkeeps hnewToken)
    intro y hy
    have hkeep : TokenRegistry.issue digest token a (dropAll digest vs (cleared digest m.now a g)) =
        keep y a (put digest token a (dropAll digest vs (cleared digest m.now a g))) :=
      issue_of_carried (Option.mem_def.mp hy) a _
    cases hfirst : first y.value with
    | none =>
      refine ⟨a.oAuth2Request, hnew y.value a ?_ ?_ hfirst, within_refl _⟩
      · rw [hkeep]
        simp only [keep, Function.update_self]
        exact Option.some_ne_none y
      · rw [hkeep]
        exact Function.update_self _ _ _
    | some f =>
      rw [(newAccessToken_carries hkeeps hnewToken).2] at hy
      rw [Option.mem_def.mp hy] at hrenew
      rcases renewRefreshToken_eq_ok hrenew with hold | hcreate
      · obtain ⟨x, hsuperseded, hcarried⟩ := Option.bind_eq_some_iff.mp hold
        obtain ⟨f', hf', hbound⟩ :=
          hcarry x y.value (current_of_superseded hsuperseded).1 ⟨y, hcarried, rfl⟩
        exact ⟨f', hsub _ _ hf', hbound.1⟩
      · have hmem := hused y.value (by rw [hfirst]; exact Option.some_ne_none f)
        rw [(createRefreshToken_eq_ok hcreate).1] at hmem
        exact absurd hmem hfresh
  | failed hdead hnewToken => exact (hb.shrink (shrinks_cleared m.now a g)).mono hsub

/-- What a refresh settles on is within the first grant of its refresh token. -/
theorem within_narrowed {found : OAuth2RefreshToken × OAuth2Authentication}
    (h : Sound digest used s.registry) (hb : Bounded first s.registry)
    (hrequest : normalizeScope request.scope = request.scope)
    (hread : services.readForRefresh s value request = .ok found)
    (hnarrow : createRefreshedAuthentication found.2 request = .ok a) :
    found.1.value = value ∧ normalizeScope a.oAuth2Request.scope = a.oAuth2Request.scope ∧
      ∃ f, first value = some f ∧ Within a.oAuth2Request f := by
  have hreadable := readable_of_ok hread
  have hvalue := h.refresh_value_eq value found.1 hreadable.refreshToken
  obtain ⟨b, hstored, -, hrequests⟩ := hreadable.stored
  obtain ⟨b', f, hauth, hsame, hfirst, hwithin⟩ := hb.kept value found.1 hreadable.refreshToken
  rw [hvalue] at hstored
  have hbb : b' = b := Option.some.inj (hauth.symm.trans hstored)
  rw [hbb, hrequests] at hsame hwithin
  obtain ⟨hclient, hscopes⟩ := createRefreshedAuthentication_eq_ok hnarrow
  refine ⟨hvalue, ?_, f, hfirst, ⟨hclient.trans hwithin.clientId, ?_⟩⟩
  · rcases hscopes with hall | ⟨-, hnarrowed⟩
    · rw [hall, normalizeScope_normalizeScope]
    · rw [hnarrowed, normalizeScope_normalizeScope]
  · rw [hsame] at hscopes
    rcases hscopes with hall | ⟨hsubset, hnarrowed⟩
    · rw [hall]
      exact hwithin.scope
    · rw [hnarrowed, hrequest]
      exact List.Subset.trans hsubset hwithin.scope

/-- A refresh keeps the bounds, once its new refresh token is in the record. -/
theorem bounded_refreshed (hkeeps : services.KeepsTokens) (h : Sound digest used s.registry)
    (hb : Bounded first s.registry) (hused : ∀ r, first r ≠ none → r ∈ used)
    (hfresh : m.refreshTokenValue ∉ used)
    (hrequest : normalizeScope request.scope = request.scope)
    (hr : Refreshed digest services m value request s o g')
    (hsub : ∀ r f, first r = some f → first' r = some f)
    (hnew : ∀ r b, g'.refreshToken r ≠ none → g'.refreshAuthentication r = some b →
      first r = none → first' r = some b.oAuth2Request) : Bounded first' g' := by
  have hwithdrawn : ∀ r, Bounded first (withdraw digest r s.registry) :=
    fun r => hb.shrink (shrinks_withdraw r s.registry)
  have hforgotten : ∀ r, Bounded first (forget r (withdraw digest r s.registry)) :=
    fun r => (hwithdrawn r).shrink (shrinks_forget r _)
  have hpruned : ∀ r vs, Bounded first
      (dropAll digest vs (forget r (withdraw digest r s.registry))) :=
    fun r vs => (hforgotten r).shrink (shrinks_dropAll vs)
  cases hr with
  | refused hread => exact hb.mono hsub
  | expired found hread hexpired => exact (hforgotten found.1.value).mono hsub
  | denied found hread hnarrow => exact (hwithdrawn found.1.value).mono hsub
  | reissued found a hread hlive hnarrow hreissued =>
    obtain ⟨hvalue, hscope, f, hf, hwithin⟩ := within_narrowed h hb hrequest hread hnarrow
    cases hreissued with
    | failed hreuse hnewToken => exact (hwithdrawn found.1.value).mono hsub
    | forgotten hrotate hnewToken => exact (hforgotten found.1.value).mono hsub
    | unrotated token vs hrotate hcreate hnewToken =>
      apply ((hpruned found.1.value vs).mono hsub).put
      rintro r ⟨y, hy, -⟩
      rw [(newAccessToken_carries hkeeps hnewToken).2] at hy
      cases hy
    | reused token vs hreuse hnewToken =>
      -- the old refresh token stays, with the request that it was first drawn for
      have hbefore : Bounded first
          (dropAll digest vs (withdraw digest found.1.value s.registry)) :=
        (hwithdrawn found.1.value).shrink (shrinks_dropAll vs)
      apply (hbefore.mono hsub).put
      rintro r ⟨y, hy, rfl⟩
      rw [(newAccessToken_carries hkeeps hnewToken).2] at hy
      rw [← Option.some.inj hy, hvalue, scope_newAccessToken hkeeps hnewToken]
      exact ⟨f, hsub _ _ hf, hwithin, hwithin.scope⟩
    | rotated y token vs hrotate hcreate hnewToken =>
      -- the new refresh token is recorded with the narrowed request
      have hy : first y.value = none := by
        by_contra hseen
        have hmem := hused y.value hseen
        rw [(createRefreshToken_eq_ok hcreate).1] at hmem
        exact hfresh hmem
      have hfirst : first' y.value = some a.oAuth2Request := by
        refine hnew y.value a ?_ (Function.update_self _ _ _) hy
        simp only [keep, Function.update_self]
        exact Option.some_ne_none y
      refine (((hpruned found.1.value vs).mono hsub).put ?_).keep hscope hfirst (within_refl _)
      rintro r ⟨z, hz, rfl⟩
      rw [(newAccessToken_carries hkeeps hnewToken).2] at hz
      rw [← Option.some.inj hz, scope_newAccessToken hkeeps hnewToken]
      exact ⟨a.oAuth2Request, hfirst, within_refl _, List.Subset.refl _⟩

theorem authorised_eq_some {f : OAuth2Request} : authorised s r = some f ↔
    s.registry.refreshToken r ≠ none ∧
      ∃ b, s.registry.refreshAuthentication r = some b ∧ b.oAuth2Request = f := by
  have hsame : s.registry.refreshToken r = s.refreshTokenStore r := rfl
  have hauth : s.registry.refreshAuthentication r = s.refreshTokenAuthenticationStore r := rfl
  rw [hsame, hauth]
  unfold authorised
  cases s.refreshTokenStore r with
  | none => simp
  | some x => simp

theorem record_first (grants : Grants) (c : Call) (s : InMemoryTokenStore) {f : OAuth2Request}
    (h : grants.first r = some f) : (grants.record c s).first r = some f := by
  simp only [Grants.record, h]
  rfl

theorem record_first_of_none {c : Call} (h : grants.first r = none) :
    (grants.record c s).first r = authorised s r := by
  simp only [Grants.record, h]
  rfl

/-- A refresh token that a refresh brings is stored for what the refresh has settled on. -/
theorem kept_of_refreshed (h : Refreshed digest services m value request s o g')
    (hr : g'.refreshToken r ≠ none) : s.registry.refreshToken r ≠ none ∨
      ∃ found a, services.readForRefresh s value request = .ok found ∧
        createRefreshedAuthentication found.2 request = .ok a ∧
          g'.refreshAuthentication r = some a := by
  have hback : ∀ g₁, Shrinks g₁ s.registry → g₁.refreshToken r ≠ none →
      s.registry.refreshToken r ≠ none := by
    intro g₁ hg hkept
    obtain ⟨x, hx⟩ := Option.ne_none_iff_exists'.mp hkept
    rw [(hg.refreshToken r x hx).1]
    exact Option.some_ne_none x
  have hwithdraw : ∀ r', Shrinks (withdraw digest r' s.registry) s.registry :=
    fun r' => shrinks_withdraw r' s.registry
  have hforget : ∀ r', Shrinks (forget r' (withdraw digest r' s.registry)) s.registry :=
    fun r' => (shrinks_forget r' _).trans (hwithdraw r')
  have hpruned : ∀ r' vs,
      Shrinks (dropAll digest vs (forget r' (withdraw digest r' s.registry))) s.registry :=
    fun r' vs => (shrinks_dropAll vs).trans (hforget r')
  cases h with
  | refused hread => exact .inl hr
  | expired found hread hexpired => exact .inl (hback _ (hforget found.1.value) hr)
  | denied found hread hnarrow => exact .inl (hback _ (hwithdraw found.1.value) hr)
  | reissued found a hread hlive hnarrow hreissued =>
    cases hreissued with
    | failed hreuse hnew => exact .inl (hback _ (hwithdraw found.1.value) hr)
    | forgotten hrotate hnew => exact .inl (hback _ (hforget found.1.value) hr)
    | unrotated token vs hrotate hcreate hnew =>
      exact .inl (hback _ (hpruned found.1.value vs) hr)
    | reused token vs hreuse hnew =>
      have hshrinks : Shrinks (dropAll digest vs (withdraw digest found.1.value s.registry))
          s.registry := (shrinks_dropAll vs).trans (hwithdraw found.1.value)
      exact .inl (hback _ hshrinks hr)
    | rotated y token vs hrotate hcreate hnew =>
      by_cases heq : r = y.value
      · refine .inr ⟨found, a, hread, hnarrow, ?_⟩
        rw [heq]
        exact Function.update_self _ _ _
      · simp only [keep, Function.update_of_ne heq] at hr
        exact .inl (hback _ (hpruned found.1.value vs) hr)

/-- What holds along a run beside the soundness of the registry. -/
structure Covered (digest : String → String) (used : List String) (s : InMemoryTokenStore)
    (grants : Grants) : Prop where
  sound : Sound digest used s.registry
  bounded : Bounded grants.first s.registry
  ordered : ∀ r f, grants.first r = some f → ∃ o, grants.original r = some o ∧ Within f o
  used : ∀ r, grants.first r ≠ none → r ∈ used

theorem ordered_record {c : Call} (h : Covered digest used s grants) {s' : InMemoryTokenStore}
    (hnew : ∀ r f, grants.first r = none → authorised s' r = some f →
      ∃ o, c.origin grants f = some o ∧ Within f o) (r : String) (f : OAuth2Request)
    (hf : (grants.record c s').first r = some f) :
    ∃ o, (grants.record c s').original r = some o ∧ Within f o := by
  cases hfirst : grants.first r with
  | some f' =>
    rw [record_first grants c s' hfirst] at hf
    obtain ⟨o, ho, hwithin⟩ := h.ordered r f' hfirst
    refine ⟨o, ?_, Option.some.inj hf ▸ hwithin⟩
    simp only [Grants.record, hfirst]
    exact ho
  | none =>
    rw [record_first_of_none hfirst] at hf
    obtain ⟨o, ho, hwithin⟩ := hnew r f hfirst hf
    refine ⟨o, ?_, hwithin⟩
    simp only [Grants.record, hfirst, hf, Option.bind_some]
    exact ho

/-- With the bounds on its registry, the state after a call is covered by the new record. -/
theorem covered_record {c : Call} (h : Covered digest used s grants) {s' : InMemoryTokenStore}
    (hsound : Sound digest (used ++ c.drawn) s'.registry)
    (hbounded : Bounded (grants.record c s').first s'.registry)
    (hnew : ∀ r f, grants.first r = none → authorised s' r = some f →
      ∃ o, c.origin grants f = some o ∧ Within f o) :
    Covered digest (used ++ c.drawn) s' (grants.record c s') where
  sound := hsound
  bounded := hbounded
  ordered := ordered_record h hnew
  used r hr := by
    cases hfirst : grants.first r with
    | some f =>
      exact List.mem_append_left _ (h.used r (by rw [hfirst]; exact Option.some_ne_none f))
    | none =>
      rw [record_first_of_none hfirst] at hr
      obtain ⟨f, hf⟩ := Option.ne_none_iff_exists'.mp hr
      exact hsound.used_refreshToken r (authorised_eq_some.mp hf).1

theorem covered_call (hkeeps : services.KeepsTokens) (h : Covered digest used s grants) (c : Call)
    (hname : c.Named) (hfresh : ∀ v ∈ c.drawn, v ∉ used) (hconstructed : c.Constructed)
    (hsame : SameGrant digest s c) :
    Covered digest (used ++ c.drawn) (services.call digest s c)
      (grants.record c (services.call digest s c)) := by
  have hsound := (sound_call hkeeps h.sound c hname hfresh).1
  have hsub : ∀ r f, grants.first r = some f →
      (grants.record c (services.call digest s c)).first r = some f :=
    fun r f => record_first grants c _
  have hrecord : ∀ r b, (services.call digest s c).registry.refreshToken r ≠ none →
      (services.call digest s c).registry.refreshAuthentication r = some b →
        grants.first r = none →
          (grants.record c (services.call digest s c)).first r = some b.oAuth2Request := by
    intro r b hkept hauth hfirst
    rw [record_first_of_none hfirst]
    exact authorised_eq_some.mpr ⟨hkept, b, hauth, rfl⟩
  have hself : ∀ f : OAuth2Request, ∃ o, some f = some o ∧ Within f o :=
    fun f => ⟨f, rfl, within_refl f⟩
  cases c with
  | operation op =>
    cases op with
    | createAccessToken m a =>
      refine covered_record h hsound ?_ fun r f _ _ => hself f
      exact bounded_created hkeeps h.sound h.bounded h.used
        (hfresh m.refreshTokenValue (by simp [Call.drawn])) hconstructed hsame
        (created services h.sound hname m) hsub hrecord
    | refreshAccessToken m value request =>
      have hrefreshed := refreshed services h.sound m value request
      refine covered_record h hsound ?_ fun r f hfirst hf => ?_
      · exact bounded_refreshed hkeeps h.sound h.bounded h.used
          (hfresh m.refreshTokenValue (by simp [Call.drawn])) hconstructed hrefreshed hsub hrecord
      · obtain ⟨hkept, b, hb, rfl⟩ := authorised_eq_some.mp hf
        rcases kept_of_refreshed hrefreshed hkept with hold | ⟨found, a, hread, hnarrow, ha⟩
        · obtain ⟨x, hx⟩ := Option.ne_none_iff_exists'.mp hold
          obtain ⟨_, f', -, -, hf', -⟩ := h.bounded.kept r x hx
          rw [hfirst] at hf'
          cases hf'
        · obtain ⟨-, -, f', hf', hwithin⟩ :=
            within_narrowed h.sound h.bounded hconstructed hread hnarrow
          obtain ⟨o, ho, hwithin'⟩ := h.ordered value f' hf'
          have hab : a = b := Option.some.inj (ha.symm.trans hb)
          rw [← hab]
          exact ⟨o, ho, hwithin.trans hwithin'⟩
    | revokeToken v =>
      refine covered_record h hsound ?_ fun r f _ _ => hself f
      exact (h.bounded.shrink (shrinks_revokeToken h.sound v)).mono hsub
  | loadAuthentication now v =>
    refine covered_record h hsound ?_ fun r f _ _ => hself f
    exact (h.bounded.shrink (shrinks_loadAuthentication services h.sound now v)).mono hsub

/-- The induction is on the run. -/
theorem covered_run (hkeeps : services.KeepsTokens) (hcalls : Genuine calls)
    (h : Covered digest used s grants) (hnew : ∀ v ∈ calls.flatMap Call.drawn, v ∉ used)
    (hconstructed : ∀ c ∈ calls, c.Constructed)
    (hmeets : Runs.Meets (services.call digest) (SameGrant digest) s calls) :
    ∃ used', Covered digest used' (Runs.exec (services.call digest) s calls)
      (granted digest services s grants calls) := by
  induction calls generalizing s used grants with
  | nil => exact ⟨used, h⟩
  | cons c calls ih =>
    obtain ⟨⟨hname, hfresh⟩, hrest, hnew'⟩ := genuine_cons hcalls hnew
    have hcall := covered_call hkeeps h c hname hfresh (hconstructed c List.mem_cons_self) hmeets.1
    apply ih hrest hcall hnew' _ hmeets.2
    intro c' hc'
    exact hconstructed c' (List.mem_cons_of_mem c hc')

theorem covered_start (digest : String → String) (flushInterval : ℤ) :
    Covered digest [] { flushInterval := flushInterval } {} where
  sound := sound_start digest flushInterval
  bounded := by
    constructor
    · intro r x hx
      cases hx
    · intro v t r ht
      cases ht
  ordered _ _ h := by cases h
  used _ h := absurd rfl h

theorem scope_of_reissued {x : OAuth2RefreshToken} (hkeeps : services.KeepsTokens)
    (h : Reissued digest services m a x g (some token) g') :
    token.scope = a.oAuth2Request.scope := by
  cases h with
  | reused _ vs hreuse hnew => exact scope_newAccessToken hkeeps hnew
  | rotated y _ vs hrotate hcreate hnew => exact scope_newAccessToken hkeeps hnew

theorem withinGrants_of_covered (hkeeps : services.KeepsTokens) (h : Covered digest used s grants) :
    WithinGrants digest services s grants where
  refreshed m value request token hrequest hok := by
    have hrefreshed := refreshed services h.sound m value request
    rw [hok] at hrefreshed
    cases hrefreshed with
    | reissued found a hread hlive hnarrow hreissued =>
      obtain ⟨-, -, f, hf, hwithin⟩ := within_narrowed h.sound h.bounded hrequest hread hnarrow
      obtain ⟨o, ho, hwithin'⟩ := h.ordered value f hf
      refine ⟨a, (token_of_reissued hreissued).2, f, o, hf, ho, hwithin', hwithin, ?_⟩
      rw [scope_of_reissued hkeeps hreissued]
      exact hwithin.scope
  carried v token r ht hr := by
    obtain ⟨a, f, ha, hf, hwithin, hscope⟩ := h.bounded.live v token r ht hr
    obtain ⟨o, ho, hwithin'⟩ := h.ordered r f hf
    exact ⟨a, ha, f, o, hf, ho, hwithin', hwithin, hscope⟩

/-- No chain of refreshes leaves its first grant, in runs whose grants find under their keys only
tokens of the same client and of no fewer scopes. -/
theorem refreshes_within_grants (hkeeps : services.KeepsTokens) (flushInterval : ℤ)
    (calls : List Call) (hcalls : Genuine calls) (hconstructed : ∀ c ∈ calls, c.Constructed)
    (hmeets : Runs.Meets (services.call digest) (SameGrant digest)
      { flushInterval := flushInterval } calls) :
    WithinGrants digest services (services.run digest flushInterval calls)
      (granted digest services { flushInterval := flushInterval } {} calls) := by
  obtain ⟨used, hcovered⟩ := covered_run hkeeps hcalls (covered_start digest flushInterval)
    (fun _ _ hmem => by cases hmem) hconstructed hmeets
  exact withinGrants_of_covered hkeeps hcovered

/-- With refresh tokens that are not reused, the chain goes on from the second to the third. -/
theorem refreshes_within_grants_rotating :
    WithinGrants id { supportRefreshToken := true, reuseRefreshToken := false }
      (run id { supportRefreshToken := true, reuseRefreshToken := false } 1000
        (refreshingRun.take 2 ++ [refresh ⟨3000, "t3", "r3"⟩ "r2" []]))
      (granted id { supportRefreshToken := true, reuseRefreshToken := false }
        { flushInterval := 1000 } {}
        (refreshingRun.take 2 ++ [refresh ⟨3000, "t3", "r3"⟩ "r2" []])) :=
  refreshes_within_grants (fun _ h => by cases h) 1000 _ (by decide) (by decide) (by decide)

/-- The text of a key does not tell the scope "a b" from the scopes "a" and "b". When the token
of the one grant has expired, the other takes its refresh token over. -/
theorem refresh_token_changes_grant :
    ¬ ∀ (services : DefaultTokenServices) (calls : List Call), services.KeepsTokens →
      Genuine calls → (∀ c ∈ calls, c.Constructed) →
        WithinGrants id services (run id services 1000 calls)
          (granted id services { flushInterval := 1000 } {} calls) := by
  intro h
  let joined : OAuth2Request := { appRequest with scope := ["a b", "c"] }
  let apart : OAuth2Request := { appRequest with scope := ["a", "b", "c"] }
  have hgrants := h refreshing
    [.operation (.createAccessToken ⟨1000, "t1", "r1"⟩ (signedIn "alice" joined)),
      .operation (.createAccessToken ⟨50000000, "t2", "r2"⟩ (signedIn "alice" apart))]
    keepsTokens_refreshing (by decide) (by decide)
  obtain ⟨a, ha, first, original, hfirst, -, -, -, hscope⟩ := hgrants.refreshed
    ⟨50001000, "t3", "r3"⟩ "r1" ⟨[], some "app", [], none⟩
    ⟨"t3", some 93201000, some ⟨"r1", some 2592001000⟩, ["a", "b", "c"]⟩ rfl (by decide)
  have hjoined : first = joined := (Option.some.inj hfirst).symm
  rw [hjoined] at hscope
  exact absurd (hscope List.mem_cons_self) (by decide)

end Bounds

end DefaultTokenServices

end MaxKey.OAuth2
