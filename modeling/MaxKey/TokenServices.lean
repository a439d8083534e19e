import MaxKey.Runs
import MaxKey.TokenIndexes

namespace MaxKey.OAuth2
open JavaException Effects InMemoryTokenStore

/-- What a request draws from outside: the time and two random values. -/
structure Moment where
  now : ℕ
  accessTokenValue : String
  refreshTokenValue : String

/-- A token enhancer adds to a new token and keeps its value. -/
structure TokenEnhancer where
  enhance : OAuth2AccessToken → OAuth2Authentication → Except JavaException OAuth2AccessToken
  keeps_value : ∀ token a enhanced, enhance token a = .ok enhanced → enhanced.value = token.value

structure DefaultTokenServices where
  supportRefreshToken : Bool := false
  reuseRefreshToken : Bool := true
  refreshTokenValiditySeconds : ℤ := 60 * 60 * 24 * 30
  accessTokenValiditySeconds : ℤ := 60 * 60 * 12
  clientDetailsService : Option ClientDetailsService := none
  accessTokenEnhancer : Option TokenEnhancer := none
  authenticationManager :
    Option (UserAuthentication → List String → Except JavaException UserAuthentication) := none

def OAuth2AccessToken.isExpired (token : OAuth2AccessToken) (now : ℕ) : Bool :=
  token.expiration.any (· < now)

def OAuth2RefreshToken.isExpired (token : OAuth2RefreshToken) (now : ℕ) : Bool :=
  token.expiration.any (· < now)

namespace DefaultTokenServices

variable (digest : String → String) (services : DefaultTokenServices)

/-- A setting of the client, with a default where the client or the registry gives none. -/
def clientSetting {α : Type} (byDefault : α) (setting : ClientDetails → Option α)
    (request : OAuth2Request) : Except JavaException α :=
  match services.clientDetailsService with
  | none => .ok byDefault
  | some clients => do
    let client ← clients.loadClientByClientId request.clientId
    return (setting client).getD byDefault

def isSupportRefreshToken : OAuth2Request → Except JavaException Bool :=
  services.clientSetting services.supportRefreshToken fun client =>
    some (client.authorizedGrantTypes.contains "refresh_token")

def getRefreshTokenValiditySeconds : OAuth2Request → Except JavaException ℤ :=
  services.clientSetting services.refreshTokenValiditySeconds
    ClientDetails.refreshTokenValiditySeconds

def getAccessTokenValiditySeconds : OAuth2Request → Except JavaException ℤ :=
  services.clientSetting services.accessTokenValiditySeconds
    ClientDetails.accessTokenValiditySeconds

/-- A validity that is not positive means that the token does not expire. -/
def expiration (now : ℕ) (validitySeconds : ℤ) : Option ℕ :=
  if 0 < validitySeconds then some (now + (validitySeconds * 1000).toNat) else none

def createRefreshToken (m : Moment) (request : OAuth2Request) :
    Except JavaException (Option OAuth2RefreshToken) := do
  let supported ← services.isSupportRefreshToken request
  if supported then do
    let validitySeconds ← services.getRefreshTokenValiditySeconds request
    return some ⟨m.refreshTokenValue, expiration m.now validitySeconds⟩
  else return none

/-- The refresh token of an expired access token is used on until it expires itself. -/
def renewRefreshToken (m : Moment) (request : OAuth2Request) :
    Option OAuth2RefreshToken → Except JavaException (Option OAuth2RefreshToken)
  | none => services.createRefreshToken m request
  | some refreshToken =>
    if refreshToken.isExpired m.now then services.createRefreshToken m request
    else .ok (some refreshToken)

def newAccessToken (m : Moment) (authentication : OAuth2Authentication)
    (refreshToken : Option OAuth2RefreshToken) : Except JavaException OAuth2AccessToken := do
  let request := authentication.oAuth2Request
  let validitySeconds ← services.getAccessTokenValiditySeconds request
  let token : OAuth2AccessToken :=
    { value := m.accessTokenValue, expiration := expiration m.now validitySeconds
      refreshToken := refreshToken, scope := request.scope }
  match services.accessTokenEnhancer with
  | none => return token
  | some enhancer => enhancer.enhance token authentication

def issue (m : Moment) (authentication : OAuth2Authentication)
    (existing : Option OAuth2RefreshToken) : StoreM OAuth2AccessToken := do
  let refreshToken ← orError (services.renewRefreshToken m authentication.oAuth2Request existing)
  let accessToken ← orError (services.newAccessToken m authentication refreshToken)
  storeAccessToken digest m.now accessToken authentication
  accessToken.refreshToken.forM fun refreshToken =>
    modify (storeRefreshToken refreshToken authentication)
  return accessToken

def createAccessToken (m : Moment) (authentication : OAuth2Authentication) :
    StoreM OAuth2AccessToken := do
  let existingAccessToken ← getAccessToken digest m.now authentication
  match existingAccessToken with
  | none => services.issue digest m authentication none
  | some existing =>
    if existing.isExpired m.now then do
      existing.refreshToken.forM fun refreshToken => modify (removeRefreshToken refreshToken.value)
      removeAccessToken digest existing.value
      services.issue digest m authentication existing.refreshToken
    else do
      -- stored again in case the authentication has changed
      storeAccessToken digest m.now existing authentication
      return existing

/-- The user authentication of a stored token gets a chance to authenticate anew. -/
def reauthenticated (authentication : OAuth2Authentication) :
    Except JavaException OAuth2Authentication :=
  match services.authenticationManager, authentication.userAuthentication with
  | some authenticate, some user => do
    let user ← authenticate user authentication.getAuthorities
    return { authentication with userAuthentication := some user }
  | _, _ => .ok authentication

/-- The stored refresh token and its authentication, once they are checked against the
request. -/
def readForRefresh (s : InMemoryTokenStore) (refreshTokenValue : String) (request : TokenRequest) :
    Except JavaException (OAuth2RefreshToken × OAuth2Authentication) := do
  let invalid := invalidGrant ("Invalid refresh token: " ++ refreshTokenValue)
  failIf (services.supportRefreshToken = false) invalid
  let refreshToken ← (s.refreshTokenStore refreshTokenValue).elim (.error invalid) .ok
  let stored := s.refreshTokenAuthenticationStore refreshToken.value
  let authentication ← stored.elim (.error nullPointer) services.reauthenticated
  let clientId := authentication.oAuth2Request.clientId
  failIf (clientId = none ∨ clientId ≠ request.clientId)
    (invalidGrant ("Wrong client for this refresh token: " ++ refreshTokenValue))
  return (refreshToken, authentication)

def refreshedRequest (request : OAuth2Request) (tokenRequest : TokenRequest) : OAuth2Request :=
  { request with scope := normalizeScope request.scope, refresh := some tokenRequest }

def narrowScope (request : OAuth2Request) (scope : List String) : OAuth2Request :=
  { request with scope := normalizeScope scope }

def createRefreshedAuthentication (authentication : OAuth2Authentication) (request : TokenRequest) :
    Except JavaException OAuth2Authentication :=
  let clientAuth := refreshedRequest authentication.oAuth2Request request
  if request.scope = [] then .ok { authentication with oAuth2Request := clientAuth }
  else if request.scope.all (clientAuth.scope.contains ·) then
    .ok { authentication with oAuth2Request := narrowScope clientAuth request.scope }
  else
    .error (invalidScope ("Unable to narrow the scope of the client authentication to [" ++
      String.intercalate ", " request.scope ++ "]."))

def dropExpired (now : ℕ) (refreshToken : OAuth2RefreshToken) : StoreM Unit :=
  onlyIf (refreshToken.isExpired now) (do
    modify (removeRefreshToken refreshToken.value)
    throw (invalidToken ("Invalid refresh token (expired): " ++ refreshToken.value)))

/-- Refresh tokens that are not reused are replaced. -/
def rotate (m : Moment) (request : OAuth2Request) (refreshToken : OAuth2RefreshToken) :
    StoreM (Option OAuth2RefreshToken) :=
  if services.reuseRefreshToken then return some refreshToken
  else do
    modify (removeRefreshToken refreshToken.value)
    orError (services.createRefreshToken m request)

def reissue (m : Moment) (authentication : OAuth2Authentication)
    (refreshToken : OAuth2RefreshToken) : StoreM OAuth2AccessToken := do
  let refreshToken ← services.rotate m authentication.oAuth2Request refreshToken
  let accessToken ← orError (services.newAccessToken m authentication refreshToken)
  storeAccessToken digest m.now accessToken authentication
  onlyIf (services.reuseRefreshToken = false) (do
    let refreshToken ← orThrow nullPointer refreshToken
    modify (storeRefreshToken refreshToken authentication))
  return accessToken

def refreshAccessToken (m : Moment) (refreshTokenValue : String) (request : TokenRequest) :
    StoreM OAuth2AccessToken := do
  let s ← get
  let found ← orError (services.readForRefresh s refreshTokenValue request)
  removeAccessTokenUsingRefreshToken digest found.1.value
  dropExpired m.now found.1
  let authentication ← orError (createRefreshedAuthentication found.2 request)
  services.reissue digest m authentication found.1

def revokeToken (tokenValue : String) : StoreM Bool := do
  let s ← get
  match s.accessTokenStore tokenValue with
  | none => return false
  | some accessToken => do
    accessToken.refreshToken.forM fun refreshToken =>
      modify (removeRefreshToken refreshToken.value)
    removeAccessToken digest accessToken.value
    return true

inductive Operation
  | createAccessToken (m : Moment) (authentication : OAuth2Authentication)
  | refreshAccessToken (m : Moment) (refreshTokenValue : String) (request : TokenRequest)
  | revokeToken (tokenValue : String)

def step (s : InMemoryTokenStore) : Operation → InMemoryTokenStore
  | .createAccessToken m authentication => final (services.createAccessToken digest m authentication) s
  | .refreshAccessToken m value request => final (services.refreshAccessToken digest m value request) s
  | .revokeToken value => final (revokeToken digest value) s

/-- What is stored is new, or a stored token again under the keys that it has; what is removed
was filed under the name that removal looks up. -/
def Regular (s : InMemoryTokenStore) : Operation → Prop
  | .createAccessToken m a =>
    Separable a ∧ s.accessTokenStore m.accessTokenValue = none ∧ Flushable s m.now ∧
      ∀ token ∈ s.authenticationToAccessTokenStore (extractKey digest a),
        if token.isExpired m.now then Removable s token.value
        else ∀ b ∈ s.authenticationStore token.value, userKey b = userKey a ∧ clientKey b = clientKey a
  | .refreshAccessToken m value request =>
    WhenOk (services.readForRefresh s value request) fun found =>
      Separable found.2 ∧ s.accessTokenStore m.accessTokenValue = none ∧ Flushable s m.now ∧
        ∀ accessToken ∈ s.refreshTokenToAccessTokenStore found.1.value, Removable s accessToken
  | .revokeToken value => Removable s value

instance (s : InMemoryTokenStore) : DecidablePred (Regular digest services s)
  | .createAccessToken _ _ => inferInstanceAs (Decidable (_ ∧ _ ∧ _ ∧ ∀ _ ∈ _, _))
  | .refreshAccessToken _ _ _ =>
    inferInstanceAs (Decidable (WhenOk _ fun _ => _ ∧ _ ∧ _ ∧ ∀ _ ∈ _, _))
  | .revokeToken value => inferInstanceAs (Decidable (Removable s value))

section Agreement

variable {digest} {services} {s t : InMemoryTokenStore} {a : OAuth2Authentication} {m : Moment}
  {token : OAuth2AccessToken} {existing : Option OAuth2RefreshToken}

theorem newAccessToken_value {refreshToken : Option OAuth2RefreshToken}
    (h : services.newAccessToken m a refreshToken = .ok token) :
    token.value = m.accessTokenValue := by
  obtain ⟨validity, -, h⟩ := except_bind_eq_ok.mp h
  dsimp only at h
  split at h
  · rw [← Except.ok.inj h]
  · rename_i enhancer _
    exact enhancer.keeps_value _ _ _ h

theorem storable_of_new {refreshToken : Option OAuth2RefreshToken}
    (h : services.newAccessToken m a refreshToken = .ok token)
    (hfresh : s.accessTokenStore m.accessTokenValue = none) : Storable digest s token a := by
  left
  rw [newAccessToken_value h]
  exact hfresh

theorem pruned_removeRefreshToken {value : String} (h : Pruned digest s t) :
    Pruned digest s (removeRefreshToken value t) :=
  ⟨⟨h.1.1.congr rfl rfl rfl rfl rfl, h.1.2.token, h.1.2.authentication⟩, h.2⟩

theorem triple_storeRefreshToken (refreshToken : OAuth2RefreshToken) (a : OAuth2Authentication) :
    Triple (Consistent digest) (modify (storeRefreshToken refreshToken a) : StoreM Unit)
      (fun _ => Consistent digest) (Consistent digest) :=
  triple_modify fun _ ht => ht.congr rfl rfl rfl rfl rfl

theorem triple_orError_pruned {α : Type} (r : Except JavaException α) :
    Triple (Pruned digest s) (orError r) (fun a t => r = .ok a ∧ Pruned digest s t)
      (Consistent digest) :=
  triple_orError (fun _ hr _ ht => ⟨hr, ht⟩) fun _ ht => ht.consistent

/-- A token with a new value goes into the store. -/
theorem triple_storeNew {refreshToken : Option OAuth2RefreshToken} (hsep : Separable a)
    (hfresh : s.accessTokenStore m.accessTokenValue = none) (hflush : Flushable s m.now)
    (token : OAuth2AccessToken) :
    Triple (fun t => services.newAccessToken m a refreshToken = .ok token ∧ Pruned digest s t)
      (storeAccessToken digest m.now token a) (fun _ => Consistent digest) (Consistent digest) := by
  intro t ⟨htoken, ht⟩
  exact triple_storeAccessToken hflush (storable_of_new htoken hfresh) hsep t ht

theorem triple_issue (hsep : Separable a) (hfresh : s.accessTokenStore m.accessTokenValue = none)
    (hflush : Flushable s m.now) :
    Triple (Pruned digest s) (services.issue digest m a existing) (fun _ => Consistent digest)
      (Consistent digest) := by
  refine triple_bind (triple_orError_pruned _) fun refreshToken => ?_
  refine triple_bind (triple_mono (triple_orError_pruned _) (fun _ ht => ht.2) (fun _ _ ht => ht)
    fun _ ht => ht) fun token => ?_
  refine triple_bind (triple_storeNew hsep hfresh hflush token) fun _ => ?_
  refine triple_bind (triple_forM fun refreshToken => ?_) fun _ => ?_
  · exact triple_storeRefreshToken refreshToken a
  · exact triple_pure fun t ht => ht

theorem triple_createAccessToken (hs : Consistent digest s)
    (h : Regular digest services s (.createAccessToken m a)) :
    Triple (fun t => t = s) (services.createAccessToken digest m a) (fun _ => Consistent digest)
      (Consistent digest) := by
  obtain ⟨hsep, hfresh, hflush, hexisting⟩ := h
  refine triple_bind_of_ok (hs.getAccessToken m.now a) ?_
  refine triple_mono (P := Pruned digest s) ?_ (fun t ht => ht ▸ hs.pruned) (fun _ _ ht => ht)
    fun _ ht => ht
  cases hfound : s.authenticationToAccessTokenStore (extractKey digest a) with
  | none => exact triple_issue hsep hfresh hflush
  | some existing =>
    have hkeys := hexisting existing hfound
    dsimp only
    split_ifs with hexpired
    · rw [if_pos hexpired] at hkeys
      refine triple_bind (triple_forM fun refreshToken => ?_) fun _ => ?_
      · exact triple_modify fun t ht => pruned_removeRefreshToken ht
      · exact triple_bind (triple_prune hkeys) fun _ => triple_issue hsep hfresh hflush
    · rw [if_neg hexpired] at hkeys
      obtain ⟨hlive, b, hb, hkey⟩ := hs.mapped _ existing hfound
      have hstorable : Storable digest s existing a := by
        refine .inr ⟨hlive, fun b' hb' => ?_⟩
        have hsame : b = b' := Option.some.inj (hb.symm.trans hb')
        obtain ⟨huser, hclient⟩ := hkeys b' hb'
        exact ⟨huser, hclient, hsame ▸ hkey⟩
      have hstore := triple_storeAccessToken hflush hstorable hsep
      exact triple_bind hstore fun _ => triple_pure fun _ ht => ht

theorem separable_of_refreshed {b : OAuth2Authentication} {request : TokenRequest}
    (h : createRefreshedAuthentication a request = .ok b) (hsep : Separable a) : Separable b := by
  unfold createRefreshedAuthentication at h
  dsimp only at h
  split_ifs at h
  · rw [← Except.ok.inj h]
    exact hsep
  · rw [← Except.ok.inj h]
    exact hsep

theorem triple_removeAccessTokenUsingRefreshToken {refreshToken : String}
    (h : ∀ accessToken ∈ s.refreshTokenToAccessTokenStore refreshToken, Removable s accessToken)
    (hs : Consistent digest s) :
    Triple (fun t => t = s) (removeAccessTokenUsingRefreshToken digest refreshToken)
      (fun _ => Pruned digest s) (Consistent digest) := by
  refine triple_bind_of_ok (get_apply s) (triple_bind_of_ok (modify_apply _ s) ?_)
  refine triple_mono (P := Pruned digest s) ?_ (fun t ht => ?_) (fun _ _ ht => ht) fun _ ht => ht
  · cases hlinked : s.refreshTokenToAccessTokenStore refreshToken with
    | none => exact triple_pure fun _ ht => ht
    | some accessToken => exact triple_prune (h accessToken hlinked)
  · have hfew := fewer_refl s
    rw [ht]
    exact ⟨⟨hs.congr rfl rfl rfl rfl rfl, hfew.token, hfew.authentication⟩, rfl⟩

theorem triple_dropExpired (now : ℕ) (refreshToken : OAuth2RefreshToken) :
    Triple (Pruned digest s) (dropExpired now refreshToken) (fun _ => Pruned digest s)
      (Consistent digest) := by
  refine triple_onlyIf (fun _ => ?_) fun _ _ ht => ht
  refine triple_bind (M := fun _ => Pruned digest s) ?_ fun _ => ?_
  · exact triple_modify fun t ht => pruned_removeRefreshToken ht
  · exact triple_throw fun t ht => ht.consistent

theorem triple_rotate (m : Moment) (request : OAuth2Request) (refreshToken : OAuth2RefreshToken) :
    Triple (Pruned digest s) (services.rotate m request refreshToken) (fun _ => Pruned digest s)
      (Consistent digest) := by
  unfold rotate
  split_ifs
  · exact triple_pure fun _ ht => ht
  · refine triple_bind (M := fun _ => Pruned digest s) ?_ fun _ => ?_
    · exact triple_modify fun t ht => pruned_removeRefreshToken ht
    · exact triple_orError (fun _ _ _ ht => ht) fun t ht => ht.consistent

theorem triple_reissue (hsep : Separable a)
    (hfresh : s.accessTokenStore m.accessTokenValue = none) (hflush : Flushable s m.now)
    (refreshToken : OAuth2RefreshToken) :
    Triple (Pruned digest s) (services.reissue digest m a refreshToken)
      (fun _ => Consistent digest) (Consistent digest) := by
  refine triple_bind (triple_rotate m a.oAuth2Request refreshToken) fun refreshToken => ?_
  refine triple_bind (triple_orError_pruned _) fun token => ?_
  refine triple_bind (triple_storeNew hsep hfresh hflush token) fun _ => ?_
  refine triple_bind (M := fun _ => Consistent digest) ?_ fun _ => triple_pure fun _ ht => ht
  refine triple_onlyIf (fun _ => ?_) fun _ _ ht => ht
  refine triple_bind (M := fun _ => Consistent digest) ?_ fun refreshToken => ?_
  · exact triple_orThrow (fun _ _ _ ht => ht) fun _ _ ht => ht
  · exact triple_storeRefreshToken refreshToken a

theorem triple_refreshAccessToken {value : String} {request : TokenRequest}
    (hs : Consistent digest s)
    (h : Regular digest services s (.refreshAccessToken m value request)) :
    Triple (fun t => t = s) (services.refreshAccessToken digest m value request)
      (fun _ => Consistent digest) (Consistent digest) := by
  refine triple_bind_of_ok (get_apply s) ?_
  have hfound : WhenOk (services.readForRefresh s value request) _ := h
  cases hread : services.readForRefresh s value request with
  | error e =>
    intro t ht
    rw [ht]
    exact hs
  | ok found =>
    rw [hread] at hfound
    obtain ⟨hsep, hfresh, hflush, hlinked⟩ := hfound
    refine triple_bind_of_ok (pure_apply found s) ?_
    refine triple_bind (triple_removeAccessTokenUsingRefreshToken hlinked hs) fun _ => ?_
    refine triple_bind (triple_dropExpired m.now found.1) fun _ => ?_
    refine triple_bind (triple_orError_pruned _) fun a t ht => ?_
    have hrefreshed := separable_of_refreshed ht.1 hsep
    exact triple_reissue hrefreshed hfresh hflush found.1 t ht.2

theorem triple_revokeToken {value : String} (hs : Consistent digest s) (h : Removable s value) :
    Triple (fun t => t = s) (revokeToken digest value) (fun _ => Consistent digest)
      (Consistent digest) := by
  refine triple_bind_of_ok (get_apply s) ?_
  refine triple_mono (P := Pruned digest s) ?_ (fun t ht => ht ▸ hs.pruned) (fun _ _ ht => ht)
    fun _ ht => ht
  cases hlive : s.accessTokenStore value with
  | none => exact triple_pure fun _ ht => ht.consistent
  | some token =>
    rw [← hs.value_eq value token hlive] at h
    refine triple_bind (triple_forM fun refreshToken => ?_) fun _ => ?_
    · exact triple_modify fun t ht => pruned_removeRefreshToken ht
    · exact triple_bind (triple_prune h) fun _ => triple_pure fun _ ht => ht.consistent

theorem consistent_step (op : Operation) (h : Regular digest services s op)
    (hs : Consistent digest s) : Consistent digest (services.step digest s op) := by
  cases op with
  | createAccessToken m a => exact final_of_triple (triple_createAccessToken hs h) rfl
  | refreshAccessToken m value request =>
    exact final_of_triple (triple_refreshAccessToken hs h) rfl
  | revokeToken value => exact final_of_triple (triple_revokeToken hs h) rfl

end Agreement

/-- Both searches find exactly the tokens of the primary index that they are asked for, each
of them once. -/
def SearchesAgree (s : InMemoryTokenStore) : Prop :=
  (∀ c u, ((s.findTokensByClientIdAndUserName c (some u)).map OAuth2AccessToken.value).Nodup ∧
    ∀ token, token ∈ s.findTokensByClientIdAndUserName c (some u) ↔
      s.accessTokenStore token.value = some token ∧
        ∃ a, s.authenticationStore token.value = some a ∧ a.oAuth2Request.clientId = some c ∧
          ∃ user, a.userAuthentication = some user ∧ user.getName = u) ∧
  ∀ c, ((s.findTokensByClientId c).map OAuth2AccessToken.value).Nodup ∧
    ∀ token, token ∈ s.findTokensByClientId c ↔
      s.accessTokenStore token.value = some token ∧
        ∃ a, s.authenticationStore token.value = some a ∧ a.oAuth2Request.clientId = some c

theorem searchesAgree_of_consistent {digest : String → String} {s : InMemoryTokenStore}
    (h : Consistent digest s) : SearchesAgree s := by
  constructor
  · intro c u
    exact ⟨h.users.nodup _, h.mem_findTokensByClientIdAndUserName c u⟩
  · intro c
    exact ⟨h.clients.nodup c, h.mem_findTokensByClientId c⟩

/-- In every run whose operations are regular the searches agree with the primary index. -/
theorem searches_agree (flushInterval : ℤ) (ops : List Operation)
    (h : Runs.Meets (services.step digest) (Regular digest services)
      { flushInterval := flushInterval } ops) :
    SearchesAgree (Runs.exec (services.step digest) { flushInterval := flushInterval } ops) := by
  have hstart := consistent_empty digest flushInterval
  refine searchesAgree_of_consistent (Runs.exec_invariant ?_ h hstart)
  intro s op hop hs
  exact consistent_step op hop hs

def signedIn (name : String) (request : OAuth2Request) : OAuth2Authentication :=
  ⟨request, some (.basic { username := some name, authenticated := true })⟩

def appRequest : OAuth2Request := { clientId := some "app", approved := true, scope := ["read"] }

/-- A user's token, one of the client itself that is refreshed, and its revocation. -/
def mixedRun : List Operation :=
  [.createAccessToken ⟨1000, "t1", "r1"⟩ (signedIn "alice" appRequest),
    .createAccessToken ⟨2000, "t2", "r2"⟩ ⟨appRequest, none⟩,
    .refreshAccessToken ⟨3000, "t3", "r3"⟩ "r2" ⟨[], some "app", [], none⟩,
    .revokeToken "t3"]

theorem searches_agree_mixedRun :
    SearchesAgree (Runs.exec (step id { supportRefreshToken := true }) { flushInterval := 3 }
      mixedRun) :=
  searches_agree id { supportRefreshToken := true } 3 mixedRun (by decide)

/-- Removal looks for alice's token under her name, where it was never filed: after its
revocation the search still finds it. -/
theorem revoked_token_still_found :
    ¬ ∀ (digest : String → String) (services : DefaultTokenServices) (ops : List Operation),
      SearchesAgree (Runs.exec (services.step digest) {} ops) := by
  intro h
  let token : OAuth2AccessToken := ⟨"t1", some 43201000, none, ["read"]⟩
  have hrun := h id {} [.createAccessToken ⟨1000, "t1", "r1"⟩ (signedIn "alice" appRequest),
    .revokeToken "t1"]
  have hfound := (hrun.1 "app" "Basic Authentication").2 token
  exact absurd (hfound.mp (by decide)).1 (by decide)

end DefaultTokenServices

end MaxKey.OAuth2
