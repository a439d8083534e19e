import MaxKey.TokenInvariants

namespace MaxKey.OAuth2
open JavaException Effects InMemoryTokenStore
open Function (update)

namespace InMemoryTokenStore

/-- Every stored authentication, of an access token or of a refresh token, has the property. -/
structure Stored (Q : OAuth2Authentication → Prop) (s : InMemoryTokenStore) : Prop where
  access : ∀ v a, s.authenticationStore v = some a → Q a
  refresh : ∀ v a, s.refreshTokenAuthenticationStore v = some a → Q a

variable {Q : OAuth2Authentication → Prop} {digest : String → String} {s : InMemoryTokenStore}
  {a : OAuth2Authentication} {now : ℕ}

theorem stored_empty : Stored Q {} := by
  constructor
  · intro v a h
    cases h
  · intro v a h
    cases h

theorem Stored.congr {t : InMemoryTokenStore} (h : Stored Q s)
    (haccess : t.authenticationStore = s.authenticationStore)
    (hrefresh : t.refreshTokenAuthenticationStore = s.refreshTokenAuthenticationStore) :
    Stored Q t := by
  constructor
  · rw [haccess]
    exact h.access
  · rw [hrefresh]
    exact h.refresh

theorem Stored.mono {P : OAuth2Authentication → Prop} (h : Stored Q s) (hmono : ∀ a, Q a → P a) :
    Stored P s :=
  ⟨fun v a ha => hmono a (h.access v a ha), fun v a ha => hmono a (h.refresh v a ha)⟩

/-- What a map holds after an update it held before, or it is what was put there. -/
theorem of_update {α β : Type} [DecidableEq α] {f : α → Option β} {P : β → Prop} {k : α}
    {o : Option β} (h : ∀ v b, f v = some b → P b) (ho : ∀ b ∈ o, P b) :
    ∀ v b, update f k o v = some b → P b := by
  intro v b hb
  by_cases hv : v = k
  · rw [hv, Function.update_self] at hb
    exact ho b hb
  · rw [Function.update_of_ne hv] at hb
    exact h v b hb

theorem Stored.dropToken (h : Stored Q s) (v : String) : Stored Q (dropToken v s) :=
  ⟨of_update h.access (fun _ hb => by cases hb), h.refresh⟩

theorem Stored.putToken (h : Stored Q s) (token : OAuth2AccessToken) (ha : Q a) :
    Stored Q (putToken digest token a s) :=
  ⟨of_update h.access (fun _ hb => Option.some.inj hb ▸ ha), h.refresh⟩

theorem Stored.storeRefreshToken (h : Stored Q s) (r : OAuth2RefreshToken) (ha : Q a) :
    Stored Q (storeRefreshToken r a s) :=
  ⟨h.access, of_update h.refresh (fun _ hb => Option.some.inj hb ▸ ha)⟩

theorem Stored.removeRefreshToken (h : Stored Q s) (r : String) :
    Stored Q (removeRefreshToken r s) :=
  ⟨h.access, of_update h.refresh (fun _ hb => by cases hb)⟩

theorem stored_removing : Removing digest (Stored Q) where
  remove v := by
    refine triple_bind (M := fun _ => Stored Q) (triple_get fun _ hs => hs) fun s => ?_
    refine triple_bind (M := fun _ => Stored Q) (triple_modify fun t ht => ht.dropToken v)
      fun _ => ?_
    cases s.authenticationStore v with
    | none => exact triple_pure fun _ hs => hs
    | some a =>
      refine triple_bind (M := fun _ => Stored Q) (triple_modify fun t ht => ht.congr rfl rfl)
        fun _ => ?_
      refine triple_bind (M := fun _ => Stored Q)
        (triple_orThrow (fun _ _ _ hs => hs) fun _ _ hs => hs) fun clientId => ?_
      exact triple_modify fun t ht => ht.congr rfl rfl
  clocks _ _ _ _ hs := hs.congr rfl rfl
  link _ _ _ hs := hs.congr rfl rfl

theorem Stored.putExpiry (h : Stored Q s) (token : OAuth2AccessToken) : Stored Q (putExpiry token s) := by
  unfold InMemoryTokenStore.putExpiry
  cases token.expiration with
  | none => exact h
  | some expiration => exact h.congr rfl rfl

theorem Stored.linkRefreshToken (h : Stored Q s) (token : OAuth2AccessToken) :
    Stored Q (linkRefreshToken token s) := by
  unfold InMemoryTokenStore.linkRefreshToken
  cases token.refreshToken with
  | none => exact h
  | some r => exact h.congr rfl rfl

theorem triple_storeAccessToken_stored (token : OAuth2AccessToken) (ha : Q a) :
    Triple (Stored Q) (storeAccessToken digest now token a) (fun _ => Stored Q) (Stored Q) := by
  refine triple_bind stored_removing.countInsert fun _ => ?_
  refine triple_bind (M := fun _ => Stored Q) (triple_modify fun s hs => hs.putToken token ha)
    fun _ => ?_
  refine triple_bind (M := fun _ => Stored Q)
    (triple_orThrow (fun _ _ _ hs => hs) fun _ _ hs => hs) fun clientId => ?_
  refine triple_bind (M := fun _ => Stored Q) (triple_modify fun s hs => hs.congr rfl rfl) fun _ => ?_
  refine triple_bind (M := fun _ => Stored Q) (triple_modify fun s hs => hs.putExpiry token)
    fun _ => ?_
  exact triple_modify fun s hs => hs.linkRefreshToken token

theorem triple_getAccessToken_stored (ha : Q a) :
    Triple (Stored Q) (getAccessToken digest now a) (fun _ => Stored Q) (Stored Q) := by
  refine triple_bind (M := fun _ => Stored Q) (triple_get fun _ hs => hs) fun s => ?_
  dsimp only
  cases s.authenticationToAccessTokenStore (extractKey digest a) with
  | none => exact triple_pure fun _ hs => hs
  | some token =>
    refine triple_bind (M := fun _ => Stored Q) ?_ fun stored => ?_
    · exact triple_orThrow (fun _ _ _ hs => hs) fun _ _ hs => hs
    · refine triple_bind (M := fun _ => Stored Q) ?_ fun _ => triple_pure fun _ hs => hs
      exact triple_onlyIf (fun _ => triple_storeAccessToken_stored token ha) fun _ _ hs => hs

end InMemoryTokenStore

namespace DefaultTokenServices

variable {Q : OAuth2Authentication → Prop} {digest : String → String}
  {services : DefaultTokenServices} {m : Moment} {a : OAuth2Authentication}

theorem triple_issue_stored (ha : Q a) (existing : Option OAuth2RefreshToken) :
    Triple (Stored Q) (services.issue digest m a existing) (fun _ => Stored Q) (Stored Q) := by
  refine triple_bind (triple_orError_keeps _) fun refreshToken => ?_
  refine triple_bind (triple_orError_keeps _) fun token => ?_
  refine triple_bind (triple_storeAccessToken_stored token ha) fun _ => ?_
  refine triple_bind (triple_forM fun r => ?_) fun _ => triple_pure fun _ hs => hs
  exact triple_modify fun s hs => hs.storeRefreshToken r ha

theorem triple_createAccessToken_stored (m : Moment) (ha : Q a) :
    Triple (Stored Q) (services.createAccessToken digest m a) (fun _ => Stored Q) (Stored Q) := by
  refine triple_bind (triple_getAccessToken_stored ha) fun existing => ?_
  cases existing with
  | none => exact triple_issue_stored ha none
  | some existing =>
    dsimp only
    split_ifs
    · refine triple_bind (M := fun _ => Stored Q) (triple_forM fun r =>
        triple_modify fun s hs => hs.removeRefreshToken r.value) fun _ => ?_
      refine triple_bind (stored_removing.remove existing.value) fun _ => ?_
      exact triple_issue_stored ha existing.refreshToken
    · refine triple_bind (triple_storeAccessToken_stored existing ha) fun _ => ?_
      exact triple_pure fun _ hs => hs

theorem triple_reissue_stored (ha : Q a) (r : OAuth2RefreshToken) :
    Triple (Stored Q) (services.reissue digest m a r) (fun _ => Stored Q) (Stored Q) := by
  have hrotate : Triple (Stored Q) (services.rotate m a.oAuth2Request r) (fun _ => Stored Q)
      (Stored Q) := by
    unfold rotate
    split_ifs
    · exact triple_pure fun _ hs => hs
    · refine triple_bind (M := fun _ => Stored Q) ?_ fun _ => triple_orError_keeps _
      exact triple_modify fun s hs => hs.removeRefreshToken r.value
  refine triple_bind hrotate fun y => ?_
  refine triple_bind (triple_orError_keeps _) fun token => ?_
  refine triple_bind (triple_storeAccessToken_stored token ha) fun _ => ?_
  refine triple_bind (M := fun _ => Stored Q) ?_ fun _ => triple_pure fun _ hs => hs
  refine triple_onlyIf (fun _ => ?_) fun _ _ hs => hs
  refine triple_bind (M := fun _ => Stored Q)
    (triple_orThrow (fun _ _ _ hs => hs) fun _ _ hs => hs) fun y => ?_
  exact triple_modify fun s hs => hs.storeRefreshToken y ha

/-- For the same user and client, after the same approval. -/
structure Inherits (a b : OAuth2Authentication) : Prop where
  user : b.userAuthentication = a.userAuthentication
  client : b.oAuth2Request.clientId = a.oAuth2Request.clientId
  redirectUri : b.oAuth2Request.redirectUri = a.oAuth2Request.redirectUri
  approved : b.oAuth2Request.approved = a.oAuth2Request.approved

theorem Inherits.trans {a b c : OAuth2Authentication} (h : Inherits a b) (h' : Inherits b c) :
    Inherits a c where
  user := h'.user.trans h.user
  client := h'.client.trans h.client
  redirectUri := h'.redirectUri.trans h.redirectUri
  approved := h'.approved.trans h.approved

theorem inherits_of_refreshed {b : OAuth2Authentication} {request : TokenRequest}
    (h : createRefreshedAuthentication a request = .ok b) : Inherits a b := by
  unfold createRefreshedAuthentication at h
  dsimp only at h
  split_ifs at h
  · rw [← Except.ok.inj h]
    exact ⟨rfl, rfl, rfl, rfl⟩
  · rw [← Except.ok.inj h]
    exact ⟨rfl, rfl, rfl, rfl⟩

/-- Without a manager the stored authentication of the refresh token is taken as it is. -/
theorem readForRefresh_stored (hmanager : services.authenticationManager = none)
    {s : InMemoryTokenStore} {value : String} {request : TokenRequest}
    {found : OAuth2RefreshToken × OAuth2Authentication}
    (h : services.readForRefresh s value request = .ok found) :
    s.refreshTokenAuthenticationStore found.1.value = some found.2 := by
  obtain ⟨_, -, h⟩ := except_bind_eq_ok.mp h
  obtain ⟨r, -, h⟩ := except_bind_eq_ok.mp h
  obtain ⟨a, hread, h⟩ := except_bind_eq_ok.mp h
  obtain ⟨_, -, h⟩ := except_bind_eq_ok.mp h
  rw [← Except.ok.inj h]
  cases hstored : s.refreshTokenAuthenticationStore r.value with
  | none =>
    rw [hstored] at hread
    cases hread
  | some stored =>
    rw [hstored] at hread
    simp only [Option.elim, reauthenticated, hmanager] at hread
    exact congrArg some (Except.ok.inj hread)

/-- A refresh stores only what goes on from a stored authentication. -/
theorem triple_refreshAccessToken_stored (hmanager : services.authenticationManager = none)
    (hsame : ∀ a b, Q a → Inherits a b → Q b) (m : Moment) (value : String)
    (request : TokenRequest) :
    Triple (Stored Q) (services.refreshAccessToken digest m value request) (fun _ => Stored Q)
      (Stored Q) := by
  refine triple_bind (M := fun s t => s = t ∧ Stored Q t) (triple_get fun _ hs => ⟨rfl, hs⟩)
    fun s => ?_
  refine triple_bind (M := fun found t => Stored Q t ∧ Q found.2) ?_ fun found => ?_
  · refine triple_orError (fun found hfound t ht => ⟨ht.2, ?_⟩) fun t ht => ht.2
    have hs : Stored Q s := ht.1 ▸ ht.2
    exact hs.refresh _ _ (readForRefresh_stored hmanager hfound)
  · intro t ht
    refine triple_bind (stored_removing.removeUsingRefreshToken found.1.value) (fun _ => ?_) t ht.1
    refine triple_bind (M := fun _ => Stored Q) ?_ fun _ => ?_
    · refine triple_onlyIf (fun _ => ?_) fun _ _ hs => hs
      refine triple_bind (M := fun _ => Stored Q) ?_ fun _ => triple_throw fun _ hs => hs
      exact triple_modify fun s hs => hs.removeRefreshToken found.1.value
    · refine triple_bind (M := fun b t => Stored Q t ∧ Q b) ?_ fun b => ?_
      · refine triple_orError (fun b hb t hs => ⟨hs, ?_⟩) fun _ hs => hs
        exact hsame _ b ht.2 (inherits_of_refreshed hb)
      · intro t hb
        exact triple_reissue_stored hb.2 found.1 t hb.1

theorem triple_revokeToken_stored (value : String) :
    Triple (Stored Q) (revokeToken digest value) (fun _ => Stored Q) (Stored Q) := by
  refine triple_bind (M := fun _ => Stored Q) (triple_get fun _ hs => hs) fun s => ?_
  cases s.accessTokenStore value with
  | none => exact triple_pure fun _ hs => hs
  | some token =>
    refine triple_bind (M := fun _ => Stored Q) (triple_forM fun r =>
      triple_modify fun s hs => hs.removeRefreshToken r.value) fun _ => ?_
    refine triple_bind (stored_removing.remove token.value) fun _ => ?_
    exact triple_pure fun _ hs => hs

/-- What the services answer for an access token is stored. -/
theorem triple_loadAuthentication_stored (now : ℕ) (value : String) :
    Triple (Stored Q) (services.loadAuthentication digest now value)
      (fun a s => Stored Q s ∧ Q a) (Stored Q) := by
  refine triple_bind (M := fun s t => s = t ∧ Stored Q t) (triple_get fun _ hs => ⟨rfl, hs⟩)
    fun s => ?_
  intro t ht
  have hs : Stored Q s := ht.1 ▸ ht.2
  refine triple_bind (M := fun _ => Stored Q) (triple_orThrow (fun _ _ _ hs => hs) fun _ _ hs => hs)
    (fun token => ?_) t ht.2
  refine triple_bind (M := fun _ => Stored Q) ?_ fun _ => ?_
  · refine triple_onlyIf (fun _ => ?_) fun _ _ hs => hs
    exact triple_bind (stored_removing.remove token.value) fun _ => triple_throw fun _ hs => hs
  · refine triple_bind (M := fun a t => Stored Q t ∧ Q a) ?_ fun a => ?_
    · exact triple_orThrow (fun a ha _ ht => ⟨ht, hs.access _ a ha⟩) fun _ _ ht => ht
    · refine triple_bind (M := fun _ t => Stored Q t ∧ Q a) ?_ fun _ => triple_pure fun _ ht => ht
      exact triple_orError (fun _ _ _ ht => ht) fun _ ht => ht.1

end DefaultTokenServices

end MaxKey.OAuth2
