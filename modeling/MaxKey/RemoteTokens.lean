import MaxKey.ConvertedClaims
import MaxKey.TokenLifetimes

namespace MaxKey.OAuth2
open JavaException Effects AuthorityUtils InMemoryTokenStore TokenRegistry
open DefaultAccessTokenConverter
open DefaultTokenServices (Call Genuine refreshing refreshingRun keepsTokens_refreshing signedIn
  refreshedRequest narrowScope readWrite)

/-! ### The token services behind an endpoint -/

/-- The token as the converter gets it. An id token is all that is ever added to it. -/
def OAuth2AccessToken.described (token : OAuth2AccessToken) (idToken : Option String) :
    DefaultOAuth2AccessToken Claim where
  value := some token.value
  expiration := token.expiration.map Int.ofNat
  scope := some token.scope
  additionalInformation := (idToken.map fun text => ("id_token", Claim.text text)).toList

structure CheckTokenEndpoint where
  resourceServerTokenServices : DefaultTokenServices
  accessTokenConverter : DefaultAccessTokenConverter := {}
  idToken : String → Option String := fun _ => none

namespace CheckTokenEndpoint

variable (digest : String → String) (endpoint : CheckTokenEndpoint)

def checkToken (now : ℕ) (value : String) : StoreM Claims := do
  let s ← get
  let token ← orThrow (invalidToken "Token was not recognised") (s.accessTokenStore value)
  throwIf (token.isExpired now) (invalidToken "Token has expired")
  let authentication ←
    endpoint.resourceServerTokenServices.loadAuthentication digest now token.value
  return endpoint.accessTokenConverter.convertAccessToken
    (token.described (endpoint.idToken token.value)) authentication

end CheckTokenEndpoint

/-- A value that a document holds as it is. -/
def Claim.IsPlain : Claim → Prop
  | .text _ => True
  | .collection elements => ∃ names : List String, elements = names.map .text
  | _ => False

/-- The way of an answer to the resource server. A failed request fails there too, or it is
answered with the description of an error. -/
structure Transport where
  carry : Claims → Claims
  failure : JavaException → Except JavaException Claims
  get_carry : ∀ claims name, (∀ claim ∈ claims.get name, claim.IsPlain) →
    (carry claims).get name = claims.get name
  get_failure : ∀ e claims, failure e = .ok claims → claims.get "error" ≠ none

structure RemoteTokenServices where
  restTemplate : Transport

namespace RemoteTokenServices

variable (remote : RemoteTokenServices)

def tokenConverter : DefaultAccessTokenConverter := {}

def postForMap (checkToken : StoreM Claims) : StoreM Claims := fun s =>
  match checkToken s with
  | .ok claims t => .ok (remote.restTemplate.carry claims) t
  | .error e t => orError (remote.restTemplate.failure e) t

def loadAuthentication (checkToken : String → StoreM Claims) (accessToken : String) :
    StoreM ExtractedAuthentication := do
  let map ← remote.postForMap (checkToken accessToken)
  throwIf (map.get "error" ≠ none) (invalidToken accessToken)
  throwIf (map.get "client_id" = none)
    (illegalState "Client id must be present in response from auth server")
  orError (tokenConverter.extractAuthentication map)

end RemoteTokenServices

/-! ### What the resource server is told -/

/-- The authorities of an authentication can be read from a document. -/
def Tellable (a : OAuth2Authentication) : Prop :=
  match a.userAuthentication with
  | none => ∀ authority ∈ a.oAuth2Request.authorities, JavaText.hasText (some authority)
  | some user => ∀ part ∈ (user.getAuthorities.getD []).flatMap tokenizeToStringArray,
      JavaText.hasText (some part)

/-- A scope that is alone is read as a list of scopes. -/
def toldScope (scope : List String) : List Element :=
  match scope.dedup with
  | [value] => (normalizeScope [value]).map .text
  | values => values.map .text

def toldUser (user : UserAuthentication) : ExtractedUser where
  name := user.getName
  authorities := (user.getAuthorities.getD []).flatMap tokenizeToStringArray

/-- The client with the scope of the token, and a user by name and single authorities. -/
def told (token : OAuth2AccessToken) (a : OAuth2Authentication) : ExtractedAuthentication where
  grantType := none
  clientId := a.oAuth2Request.clientId
  authorities := if a.isClientOnly then a.oAuth2Request.authorities else []
  scope := toldScope token.scope
  resourceIds := a.oAuth2Request.resourceIds.dedup.map .text
  userAuthentication := a.userAuthentication.map toldUser

/-- The claims about a token on the way to the resource server. -/
structure Carried (token : OAuth2AccessToken) (a : OAuth2Authentication) (clientId : String)
    (map : Claims) : Prop where
  client : a.oAuth2Request.clientId = some clientId
  clientId : map.get "client_id" = some (.text clientId)
  error : map.get "error" = none
  scope : map.get "scope" = some (.texts token.scope)
  resourceIds : map.get "aud" = authoritiesClaim a.oAuth2Request.resourceIds
  userName : map.get "user_name" = a.userAuthentication.map fun user => .text user.getName
  authorities : map.get "authorities" = authoritiesClaim a.getAuthorities

section Extraction

variable {token : OAuth2AccessToken} {a : OAuth2Authentication} {clientId : String} {map : Claims}

theorem setScope_told (scope : List String) :
    setScope (scope.map Element.text).dedup = .ok (toldScope scope) := by
  rw [List.dedup_map_of_injective text_injective]
  unfold toldScope
  split
  · next value hvalue =>
    rw [hvalue]
    rfl
  · next hmany =>
    cases hscope : scope.dedup with
    | nil => rfl
    | cons first rest =>
      cases rest with
      | nil => exact absurd hscope (hmany first)
      | cons second others => rfl

theorem resourceIds_told (resourceIds : List String) :
    ((authoritiesClaim resourceIds).mapM Claim.asSet).map (·.getD []) =
      .ok (resourceIds.dedup.map .text) := by
  unfold authoritiesClaim
  split_ifs with hempty
  · rw [hempty]
    rfl
  · rw [← List.dedup_map_of_injective text_injective]
    rfl

/-- Where no authorities are written, none are read. -/
theorem getAuthorities_told {authorities parts : List String}
    (h : map.get "authorities" = authoritiesClaim authorities) :
    DefaultUserAuthenticationConverter.getAuthorities {} map = .ok parts ↔
      (∀ part ∈ parts, JavaText.hasText (some part)) ∧
        authorities.flatMap tokenizeToStringArray = parts := by
  unfold DefaultUserAuthenticationConverter.getAuthorities
  rw [h]
  unfold authoritiesClaim
  split_ifs with hempty
  · rw [hempty]
    constructor
    · intro hparts
      rw [← Except.ok.inj hparts]
      exact ⟨nofun, rfl⟩
    · rintro ⟨-, rfl⟩
      rfl
  · exact readAuthorities_texts

theorem clientAuthorities_told {authorities roles : List String}
    (h : map.get "authorities" = authoritiesClaim authorities) :
    extractAuthorities map = .ok roles ↔
      (∀ role ∈ roles, JavaText.hasText (some role)) ∧ roles = authorities := by
  unfold extractAuthorities
  rw [h]
  unfold authoritiesClaim
  by_cases hempty : authorities = []
  · rw [if_pos hempty, hempty]
    constructor
    · intro hroles
      rw [← Except.ok.inj hroles]
      exact ⟨nofun, rfl⟩
    · rintro ⟨-, rfl⟩
      rfl
  · rw [if_neg hempty]
    constructor
    · intro hroles
      obtain ⟨hmap, htext⟩ := roles_eq_ok.mp hroles
      exact ⟨htext, (List.map_injective_iff.mpr text_injective hmap).symm⟩
    · rintro ⟨htext, rfl⟩
      exact roles_eq_ok.mpr ⟨rfl, htext⟩

/-- The owner is read exactly if the authorities can be, as a user or as a client. -/
theorem owner_told (h : Carried token a clientId map) {user : Option ExtractedUser}
    {roles : List String} :
    (DefaultUserAuthenticationConverter.extractAuthentication {} map = .ok user ∧
      (if user = none then extractAuthorities map else .ok []) = .ok roles) ↔
    Tellable a ∧ user = a.userAuthentication.map toldUser ∧
      roles = if a.isClientOnly then a.oAuth2Request.authorities else [] := by
  have hname := h.userName
  have hclaim := h.authorities
  unfold Tellable OAuth2Authentication.isClientOnly
  unfold OAuth2Authentication.getAuthorities at hclaim
  cases huser : a.userAuthentication with
  | none =>
    rw [huser] at hname hclaim
    have hnone : DefaultUserAuthenticationConverter.extractAuthentication {} map = .ok none :=
      extractUser_eq_none.mpr hname
    rw [hnone]
    constructor
    · rintro ⟨hok, hroles⟩
      have heq := Except.ok.inj hok
      rw [if_pos heq.symm, clientAuthorities_told hclaim] at hroles
      obtain ⟨htext, rfl⟩ := hroles
      exact ⟨htext, heq.symm, rfl⟩
    · rintro ⟨htext, rfl, rfl⟩
      exact ⟨rfl, (clientAuthorities_told hclaim).mpr ⟨htext, rfl⟩⟩
  | some owner =>
    rw [huser] at hname hclaim
    constructor
    · rintro ⟨hok, hroles⟩
      cases user with
      | none => rw [extractUser_eq_none.mp hok] at hname; cases hname
      | some found =>
        obtain ⟨parts, hparts, rfl⟩ := (extractUser_eq_some hname).mp hok
        obtain ⟨htext, rfl⟩ := (getAuthorities_told hclaim).mp hparts
        exact ⟨htext, rfl, (Except.ok.inj hroles).symm⟩
    · rintro ⟨htext, rfl, rfl⟩
      refine ⟨(extractUser_eq_some hname).mpr ?_, rfl⟩
      exact ⟨_, (getAuthorities_told hclaim).mpr ⟨htext, rfl⟩, rfl⟩

/-- What is extracted on the far side is a function of the authentication and its token. -/
theorem extract_carried (h : Carried token a clientId map) {found : ExtractedAuthentication} :
    DefaultAccessTokenConverter.extractAuthentication {} map = .ok found ↔
      Tellable a ∧ found = told token a := by
  rw [extractAuthentication_eq_ok]
  have hscope : ((map.get "scope").mapM Claim.asSet).map (·.getD []) =
      .ok (token.scope.map Element.text).dedup := by
    rw [h.scope]
    rfl
  have hclient : (map.get "client_id").elim (.ok none) Claim.asText =
      .ok a.oAuth2Request.clientId := by
    rw [h.clientId, h.client]
    rfl
  have hids : ((map.get "aud").mapM Claim.asSet).map (·.getD []) =
      .ok (a.oAuth2Request.resourceIds.dedup.map .text) := by
    rw [h.resourceIds]
    exact resourceIds_told _
  constructor
  · rintro ⟨elements, user, client, grantType, ids, roles, set, helements, huser, hclient', hgrant,
      hids', hroles, hset, rfl⟩
    rw [hscope] at helements
    rw [hclient] at hclient'
    rw [hids] at hids'
    rw [← Except.ok.inj helements, setScope_told] at hset
    obtain ⟨htellable, rfl, rfl⟩ := (owner_told h).mp ⟨huser, hroles⟩
    rw [← Except.ok.inj hset, ← Except.ok.inj hclient', ← Except.ok.inj hids',
      ← Except.ok.inj hgrant]
    exact ⟨htellable, rfl⟩
  · rintro ⟨htellable, rfl⟩
    obtain ⟨huser, hroles⟩ := (owner_told h).mpr ⟨htellable, rfl, rfl⟩
    exact ⟨_, _, _, none, _, _, _, hscope, huser, hclient, rfl, hids, hroles,
      setScope_told token.scope, rfl⟩

end Extraction

/-! ### The two services -/

section Agreement

variable {digest : String → String} {endpoint : CheckTokenEndpoint} {remote : RemoteTokenServices}
  {used : List String} {s : InMemoryTokenStore} {now : ℕ} {value : String}

/-- The token is there, and the services behind the endpoint accept it. -/
def AcceptedWith (digest : String → String) (services : DefaultTokenServices) (now : ℕ)
    (value : String) (s : InMemoryTokenStore) (token : OAuth2AccessToken)
    (a : OAuth2Authentication) : Prop :=
  s.accessTokenStore value = some token ∧
    outcome (services.loadAuthentication digest now value) s = .ok a

variable (endpoint now value) in
/-- The endpoint reads the store: it turns away an expired token before one could be removed. -/
theorem checkToken_apply (h : Sound digest used s.registry) :
    ∃ r, endpoint.checkToken digest now value s = orError r s ∧ ∀ claims, r = .ok claims ↔
      ∃ token a, AcceptedWith digest endpoint.resourceServerTokenServices now value s token a ∧
        claims = endpoint.accessTokenConverter.convertAccessToken
          (token.described (endpoint.idToken token.value)) a := by
  unfold AcceptedWith
  simp only [DefaultTokenServices.loadAuthentication_eq_ok h]
  unfold CheckTokenEndpoint.checkToken
  rw [bind_of_ok (get_apply s)]
  cases hstored : s.accessTokenStore value with
  | none =>
    refine ⟨.error (invalidToken "Token was not recognised"), rfl, ?_⟩
    intro claims
    refine iff_of_false nofun ?_
    rintro ⟨token, a, ⟨hnone, -⟩, -⟩
    cases hnone
  | some token =>
    have hlive : s.registry.token value = some token := hstored
    have hvalue := h.value_eq value token hlive
    obtain ⟨b, hb⟩ := h.authentication_of_live hlive
    cases hexpired : token.isExpired now with
    | true =>
      refine ⟨.error (invalidToken "Token has expired"), ?_, ?_⟩
      · rw [orThrow_some_bind, bind_of_error (throwIf_of_true hexpired _ s)]
        rfl
      · intro claims
        refine iff_of_false nofun ?_
        rintro ⟨found, a, ⟨hfound, ⟨live, hlive', hnot⟩, -⟩, -⟩
        rw [hlive] at hlive'
        rw [← Option.some.inj hlive', hexpired] at hnot
        cases hnot
    | false =>
      have hnot : ¬token.isExpired now = true := by
        rw [hexpired]
        exact Bool.noConfusion
      have hload : endpoint.resourceServerTokenServices.loadAuthentication digest now value s = _ :=
        DefaultTokenServices.loadAuthentication_of_live h hlive hexpired hb
      refine ⟨endpoint.resourceServerTokenServices.checkClient b.oAuth2Request.clientId >>=
        fun _ => .ok (endpoint.accessTokenConverter.convertAccessToken
          (token.described (endpoint.idToken token.value)) b), ?_, ?_⟩
      · rw [orThrow_some_bind, bind_of_ok (throwIf_of_false hnot _ s), hvalue, orError_bind]
        rw [bind_apply, hload, ← bind_apply, bind_assoc]
        rfl
      · intro claims
        rw [except_bind_eq_ok]
        constructor
        · rintro ⟨_, hclient, hclaims⟩
          exact ⟨token, b, ⟨rfl, ⟨token, hlive, hexpired⟩, hb, hclient⟩,
            (Except.ok.inj hclaims).symm⟩
        · rintro ⟨found, a, ⟨hfound, -, ha, hclient⟩, rfl⟩
          rw [hb] at ha
          obtain rfl := Option.some.inj hfound
          obtain rfl := Option.some.inj ha
          exact ⟨(), hclient, rfl⟩

theorem get_described (token : OAuth2AccessToken) (idToken : Option String) {name : String}
    (hname : name ≠ "id_token") :
    Claims.get (token.described idToken).additionalInformation name = none := by
  unfold OAuth2AccessToken.described
  cases idToken with
  | none => rfl
  | some text => exact Claims.get_put_of_ne hname

theorem get_error (converter : DefaultAccessTokenConverter) (token : OAuth2AccessToken)
    (idToken : Option String) (a : OAuth2Authentication) :
    (converter.convertAccessToken (token.described idToken) a).get "error" = none := by
  have howner := get_convertOwner a "error" (by decide) (by decide)
  have hinfo := get_described token idToken (show "error" ≠ "id_token" by decide)
  unfold convertAccessToken
  simp [howner, hinfo]

theorem isPlain_of_authoritiesClaim {names : List String} :
    ∀ claim ∈ authoritiesClaim names, claim.IsPlain := by
  intro claim hclaim
  unfold authoritiesClaim at hclaim
  split_ifs at hclaim
  · cases hclaim
  · rw [← Option.some.inj hclaim]
    exact ⟨names, rfl⟩

/-- The claims that the resource server reads reach it as the endpoint has written them. -/
theorem carried (transport : Transport) (converter : DefaultAccessTokenConverter)
    (token : OAuth2AccessToken) (idToken : Option String) {a : OAuth2Authentication}
    {clientId : String} (hclient : a.oAuth2Request.clientId = some clientId) :
    Carried token a clientId
      (transport.carry (converter.convertAccessToken (token.described idToken) a)) := by
  obtain ⟨hid, haud, hscope, -, -, huser, hauthorities⟩ :=
    get_convertAccessToken converter (token.described idToken) a
  rw [get_described token idToken (by decide), Option.or_none] at haud
  rw [get_described token idToken (by decide), Option.none_or] at hscope huser hauthorities
  rw [hclient] at hid
  have hcarry := transport.get_carry (converter.convertAccessToken (token.described idToken) a)
  constructor
  · exact hclient
  · rw [hcarry _ (by rw [hid]; rintro _ ⟨⟩; trivial), hid]
    rfl
  · have herror := get_error converter token idToken a
    rw [hcarry _ (by rw [herror]; exact nofun), herror]
  · rw [hcarry _ (by rw [hscope]; rintro _ ⟨⟩; exact ⟨_, rfl⟩), hscope]
    rfl
  · rw [hcarry _ (by rw [haud]; exact isPlain_of_authoritiesClaim), haud]
  · rw [hcarry _ _, huser]
    rw [huser]
    intro claim hclaim
    obtain ⟨user, -, rfl⟩ := Option.map_eq_some_iff.mp hclaim
    trivial
  · rw [hcarry _ (by rw [hauthorities]; exact isPlain_of_authoritiesClaim), hauthorities]

/-- Who is stored names its client, so that the claims arrive whole. -/
theorem carried_of_accepted (h : Sound digest used s.registry) (remote : RemoteTokenServices)
    (endpoint : CheckTokenEndpoint) {token : OAuth2AccessToken} {a : OAuth2Authentication}
    (haccepted : AcceptedWith digest endpoint.resourceServerTokenServices now value s token a) :
    ∃ clientId, Carried token a clientId (remote.restTemplate.carry
      (endpoint.accessTokenConverter.convertAccessToken
        (token.described (endpoint.idToken token.value)) a)) := by
  obtain ⟨-, ha, -⟩ := (DefaultTokenServices.loadAuthentication_eq_ok h).mp haccepted.2
  obtain ⟨clientId, hclient⟩ := Option.ne_none_iff_exists'.mp (h.named value a ha)
  exact ⟨clientId, carried remote.restTemplate endpoint.accessTokenConverter token _ hclient⟩

/-- The answer of the endpoint as it arrives. -/
def RemoteTokenServices.received (remote : RemoteTokenServices) :
    Except JavaException Claims → Except JavaException Claims
  | .ok claims => .ok (remote.restTemplate.carry claims)
  | .error e => remote.restTemplate.failure e

/-- What the resource server makes of the answer. -/
def RemoteTokenServices.read (remote : RemoteTokenServices) (value : String)
    (r : Except JavaException Claims) : Except JavaException ExtractedAuthentication := do
  let map ← remote.received r
  failIf (map.get "error" ≠ none) (invalidToken value)
  failIf (map.get "client_id" = none)
    (illegalState "Client id must be present in response from auth server")
  RemoteTokenServices.tokenConverter.extractAuthentication map

variable (remote) in
theorem loadAuthentication_apply {checkToken : String → StoreM Claims}
    {r : Except JavaException Claims} (h : checkToken value s = orError r s) :
    remote.loadAuthentication checkToken value s = orError (remote.read value r) s := by
  have hpost : remote.postForMap (checkToken value) s = orError (remote.received r) s := by
    unfold RemoteTokenServices.postForMap
    rw [h]
    cases r with
    | ok claims => rfl
    | error e => rfl
  unfold RemoteTokenServices.loadAuthentication RemoteTokenServices.read
  rw [bind_apply, hpost, ← bind_apply, orError_bind]
  simp only [orError_bind, orError_failIf]

/-- A failed request is an error on the far side, and an answer is read from its claims. -/
theorem read_eq_ok {r : Except JavaException Claims} {found : ExtractedAuthentication} :
    remote.read value r = .ok found ↔ ∃ claims, r = .ok claims ∧
      (remote.restTemplate.carry claims).get "error" = none ∧
      (remote.restTemplate.carry claims).get "client_id" ≠ none ∧
      DefaultAccessTokenConverter.extractAuthentication {}
        (remote.restTemplate.carry claims) = .ok found := by
  unfold RemoteTokenServices.read
  simp only [except_bind_eq_ok, failIf_eq_ok, not_not]
  cases r with
  | ok claims =>
    constructor
    · rintro ⟨map, hmap, _, herror, _, hclient, hfound⟩
      rw [← Except.ok.inj hmap] at herror hclient hfound
      exact ⟨claims, rfl, herror, hclient, hfound⟩
    · rintro ⟨claims', hclaims, herror, hclient, hfound⟩
      obtain rfl := Except.ok.inj hclaims
      exact ⟨_, rfl, (), herror, (), hclient, hfound⟩
  | error e =>
    refine iff_of_false ?_ nofun
    rintro ⟨map, hmap, _, herror, -⟩
    exact remote.restTemplate.get_failure e map hmap herror

variable (digest endpoint) in
/-- A token is accepted from afar exactly if it is accepted by the services behind the endpoint and
its authorities can be read there. Whoever asks is told the same client, the scope of the token, the
resources and the user, and asking changes nothing in the store. -/
theorem remote_agrees (hkeeps : endpoint.resourceServerTokenServices.KeepsTokens)
    (flushInterval : ℤ) {calls : List Call} (hcalls : Genuine calls) (remote : RemoteTokenServices)
    (now : ℕ) (value : String) :
    let s := endpoint.resourceServerTokenServices.run digest flushInterval calls
    let load := remote.loadAuthentication (endpoint.checkToken digest now) value
    (∀ found, outcome load s = .ok found ↔ ∃ token a,
      AcceptedWith digest endpoint.resourceServerTokenServices now value s token a ∧
        Tellable a ∧ found = told token a) ∧ final load s = s := by
  intro s load
  have hsound := DefaultTokenServices.sound_of_genuine digest hkeeps flushInterval hcalls
  obtain ⟨r, hr, hclaims⟩ := checkToken_apply endpoint now value hsound
  have hload : load s = orError (remote.read value r) s := loadAuthentication_apply remote hr
  have hfinal : final load s = s := by
    have hreads := leaves_orError (g := id) (remote.read value r) s
    unfold final at hreads ⊢
    rw [hload]
    exact hreads
  refine ⟨?_, hfinal⟩
  intro found
  have houtcome : outcome load s = remote.read value r := by
    rw [← outcome_orError (remote.read value r) s]
    simp only [outcome, hload]
  rw [houtcome, read_eq_ok]
  simp only [hclaims]
  constructor
  · rintro ⟨_, ⟨token, a, haccepted, rfl⟩, -, -, hfound⟩
    obtain ⟨clientId, hcarried⟩ := carried_of_accepted hsound remote endpoint haccepted
    exact ⟨token, a, haccepted, (extract_carried hcarried).mp hfound⟩
  · rintro ⟨token, a, haccepted, htold⟩
    obtain ⟨clientId, hcarried⟩ := carried_of_accepted hsound remote endpoint haccepted
    refine ⟨_, ⟨token, a, haccepted, rfl⟩, hcarried.error, ?_,
      (extract_carried hcarried).mpr htold⟩
    rw [hcarried.clientId]
    exact Option.some_ne_none _

/-- A way that leaves answers and errors as they are. -/
def Transport.direct : Transport where
  carry := id
  failure := .error
  get_carry _ _ _ := rfl
  get_failure _ _ h := nomatch h

/-- The narrowed token of a user, whom the resource server cannot tell from any other one. -/
theorem narrowed_token_is_told :
    outcome (RemoteTokenServices.loadAuthentication ⟨.direct⟩
        (CheckTokenEndpoint.checkToken id ⟨refreshing, {}, fun _ => none⟩ 2500) "t2")
      (refreshing.run id 1000 (refreshingRun.take 2)) = .ok {
        grantType := none, clientId := some "app", authorities := [], scope := [.text "read"]
        resourceIds := []
        userAuthentication := some
          { name := "Basic Authentication", authorities := ["ROLE_USER", "ORDINARY_USER"] } } := by
  let request := refreshedRequest readWrite ⟨[], some "app", ["read"], none⟩
  let token : OAuth2AccessToken := ⟨"t2", some 43202000, some ⟨"r1", some 2592001000⟩, ["read"]⟩
  have hagrees := remote_agrees id ⟨refreshing, {}, fun _ => none⟩ keepsTokens_refreshing 1000
    (show Genuine (refreshingRun.take 2) by decide) ⟨.direct⟩ 2500 "t2"
  have htext : ∀ part ∈ ["ROLE_USER", "ORDINARY_USER"].flatMap tokenizeToStringArray,
      JavaText.hasText (some part) := by decide +kernel
  exact (hagrees.1 _).mpr ⟨token, signedIn "alice" (narrowScope request ["read"]),
    ⟨by decide +kernel, by decide +kernel⟩, htext, by decide +kernel⟩

end Agreement

end MaxKey.OAuth2
