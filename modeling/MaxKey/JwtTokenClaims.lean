import MaxKey.ConvertedClaims
import MaxKey.JwtRoundTrip
import MaxKey.JwtTokenStore

namespace MaxKey.OAuth2
open JavaException Effects JwtHeaderHelper

/-- A claim that a document carries as it is. -/
def Claim.Plain : Claim → Prop
  | .collection elements => ∀ element ∈ elements, ∃ value, element = .text value
  | .object _ => False
  | _ => True

def Claims.Plain (claims : Claims) : Prop := ∀ entry ∈ claims, entry.2.Plain

section Plain
open DefaultAccessTokenConverter

variable {claims : Claims} {name : String}

theorem plain_texts (values : List String) : (Claim.texts values).Plain := by
  intro element helement
  obtain ⟨value, -, hvalue⟩ := List.mem_map.mp helement
  exact ⟨value, hvalue.symm⟩

theorem plain_ite_texts (values : List String) :
    ∀ c ∈ (if values = [] then none else some (Claim.texts values)), c.Plain := by
  intro c hc
  split_ifs at hc
  · cases hc
  · rw [← Option.some.inj hc]
    exact plain_texts values

theorem plain_singleton {claim : Claim} (h : claim.Plain) : Claims.Plain [(name, claim)] := by
  intro entry hentry
  rw [List.mem_singleton.mp hentry]
  exact h

theorem plain_tokenId (value : Option String) :
    (JwtAccessTokenConverter.tokenId value).Plain := by
  cases value with
  | none => trivial
  | some value => trivial

theorem Claims.Plain.put (h : claims.Plain) {claim : Claim} (hclaim : claim.Plain) :
    (claims.put name claim).Plain := by
  intro entry hentry
  rcases List.mem_cons.mp hentry with rfl | hold
  · exact hclaim
  · exact h entry hold

theorem Claims.Plain.putSome (h : claims.Plain) {claim : Option Claim}
    (hclaim : ∀ c ∈ claim, c.Plain) : (claims.putSome name claim).Plain := by
  cases claim with
  | none => exact h
  | some claim => exact h.put (hclaim claim rfl)

theorem Claims.Plain.putAll {old new : Claims} (hold : old.Plain) (hnew : new.Plain) :
    (old.putAll new).Plain := by
  intro entry hentry
  rcases List.mem_append.mp hentry with hmem | hmem
  · exact hnew entry hmem
  · exact hold entry hmem

theorem Claims.Plain.get (h : claims.Plain) : ∀ c ∈ claims.get name, c.Plain := by
  intro c hc
  obtain ⟨front, back, hsplit, -⟩ := List.lookup_eq_some_iff.mp hc
  apply h (name, c)
  rw [hsplit]
  exact List.mem_append_right front List.mem_cons_self

theorem plain_convertOwner (a : OAuth2Authentication) : (convertOwner a).Plain := by
  unfold convertOwner
  split
  · apply Claims.Plain.putSome _ (plain_ite_texts _)
    intro entry hentry
    rw [List.mem_singleton.mp hentry]
    trivial
  · apply Claims.Plain.putSome _ (plain_ite_texts _)
    intro entry hentry
    cases hentry

/-- What an enhancer adds stays what it is, and all the rest is plain. -/
theorem plain_convertAccessToken (converter : DefaultAccessTokenConverter)
    {x : DefaultOAuth2AccessToken Claim} (a : OAuth2Authentication)
    (hinfo : Claims.Plain x.additionalInformation) : (converter.convertAccessToken x a).Plain := by
  have hscope : ∀ c ∈ x.scope.map Claim.texts, c.Plain := by
    intro c hc
    obtain ⟨scope, -, rfl⟩ := Option.map_eq_some_iff.mp hc
    exact plain_texts scope
  have hexpiration : ∀ c ∈ x.expiration.map fun e => Claim.number (e.tdiv 1000), c.Plain := by
    intro c hc
    obtain ⟨e, -, rfl⟩ := Option.map_eq_some_iff.mp hc
    trivial
  have hgrant : ∀ c ∈ (if converter.includeGrantType then
      (getGrantType a.oAuth2Request).map Claim.text else none), c.Plain := by
    intro c hc
    split_ifs at hc
    · obtain ⟨grantType, -, rfl⟩ := Option.map_eq_some_iff.mp hc
      trivial
    · cases hc
  have hclient : (a.oAuth2Request.clientId.elim Claim.null Claim.text).Plain := by
    cases a.oAuth2Request.clientId with
    | none => trivial
    | some clientId => trivial
  -- the claims as they are put one after the other
  unfold convertAccessToken
  apply Claims.Plain.putSome _ (plain_ite_texts _)
  apply Claims.Plain.put _ hclient
  apply Claims.Plain.putAll _ hinfo
  apply Claims.Plain.putSome _ hgrant
  apply Claims.Plain.putSome _ hexpiration
  exact ((plain_convertOwner a).putSome hscope).putSome hinfo.get

end Plain

namespace DefaultAccessTokenConverter

/-- An entry of the claims depends on the scope, on the additional entry of its name, and that of
the expiration on the expiration. -/
theorem get_convertAccessToken_congr (converter : DefaultAccessTokenConverter)
    (a : OAuth2Authentication) {x y : DefaultOAuth2AccessToken Claim} {name : String}
    (hscope : x.scope = y.scope) (hexpiration : name = "exp" → x.expiration = y.expiration)
    (hinfo : Claims.get x.additionalInformation name = Claims.get y.additionalInformation name) :
    (converter.convertAccessToken x a).get name = (converter.convertAccessToken y a).get name := by
  unfold convertAccessToken
  rw [hscope]
  by_cases haud : name = "aud"
  · rw [haud] at hinfo ⊢
    simp [hinfo]
  by_cases hclient : name = "client_id"
  · rw [hclient]
    simp
  by_cases hgrant : name = "grant_type"
  · rw [hgrant] at hinfo ⊢
    simp [hinfo]
  by_cases hexp : name = "exp"
  · rw [hexpiration hexp]
    rw [hexp] at hinfo ⊢
    simp [hinfo]
  by_cases hjti : name = "jti"
  · rw [hjti] at hinfo ⊢
    simp [hinfo]
  simp [haud, hclient, hgrant, hexp, hjti, hinfo]

end DefaultAccessTokenConverter

namespace JwtAccessTokenConverter

variable (converter : JwtAccessTokenConverter)

/-- What the converter relies on. Plain claims are written as a text, the header of the signer is
read as it is written, and the verifier takes what the signer signs. -/
structure Works : Prop where
  writes : ∀ claims : Claims, claims.Plain →
    ∃ content, converter.formatMap claims = .ok content ∧ content ≠ ""
  header : ∃ alg, sigAlg converter.signer.algorithm = .ok alg ∧
    converter.json.Reads (fieldsOf { alg := alg })
  signs : ∀ input, ∃ crypto, converter.signer.sign input = .ok crypto ∧ crypto ≠ []
  verifies : ∀ input crypto,
    converter.verifier input crypto = .ok () ↔ converter.signer.sign input = .ok crypto

/-- What is written of these claims is read with the same entries. -/
def ReadsBack (claims : Claims) : Prop :=
  ∀ content, converter.formatMap claims = .ok content →
    ∃ parsed : Claims, converter.parseMap content = .ok parsed ∧
      ∀ name, parsed.get name = claims.get name

/-- The tokens that are encoded when an access token is enhanced, with what they carry in the
end. -/
def encodedTokens (accessToken : DefaultOAuth2AccessToken Claim) :
    List (DefaultOAuth2AccessToken Claim) :=
  withTokenId accessToken :: accessToken.refreshToken.toList.map fun refreshToken =>
    { encodedRefreshToken accessToken refreshToken.value with
      expiration := refreshToken.expiration.getD accessToken.expiration }

/-- An authentication as the claims of its tokens give it back. -/
def comesBack (authentication : OAuth2Authentication) : Except JavaException OAuth2Authentication :=
  let claims := converter.tokenConverter.convertAccessToken
    { value := none, scope := some authentication.oAuth2Request.scope } authentication
  (converter.tokenConverter.extractAuthentication claims).map
    ExtractedAuthentication.toOAuth2Authentication

/-- The value is a token for the authentication, with this expiration in its claims. -/
def Carries (authentication : OAuth2Authentication) (expiration : Option ℤ) (value : String) :
    Prop :=
  ∃ parsed : Claims, converter.decode (some value) = .ok parsed ∧
    ∀ name, name ≠ "jti" → parsed.get name =
      (converter.tokenConverter.convertAccessToken {
        value := none, expiration := expiration
        scope := some authentication.oAuth2Request.scope } authentication).get name

section Codec

variable {converter} {claims : Claims} {value : String} {a : OAuth2Authentication}
  {x : DefaultOAuth2AccessToken Claim}

theorem Works.roundTrip (h : converter.Works) {content : String} (hcontent : content ≠ "") :
    JwtHelper.RoundTrip converter.json converter.signer converter.verifier content := by
  obtain ⟨alg, halg, hheader⟩ := h.header
  have hjson : ∀ alg, sigAlg converter.signer.algorithm = .ok alg →
      converter.json.Reads (fieldsOf { alg := alg }) := by
    intro alg' halg'
    rw [← Except.ok.inj (halg.symm.trans halg')]
    exact hheader
  apply (JwtHelper.roundTrip_content_iff hjson h.verifies).mpr
  exact ⟨hcontent, alg, halg, fun input _ => h.signs input⟩

theorem Works.encodeClaims_eq_ok (h : converter.Works) (hplain : claims.Plain) :
    ∃ token, converter.encodeClaims claims = .ok token := by
  obtain ⟨content, hwrite, hcontent⟩ := h.writes claims hplain
  obtain ⟨jwt, token, -, hjwt, hencoded, -⟩ := h.roundTrip hcontent
  refine ⟨token, ?_⟩
  unfold encodeClaims
  rw [hwrite]
  dsimp only
  rw [hjwt]
  exact hencoded

/-- The claims of a token are those that it was made of. -/
theorem Works.decode_eq_ok (h : converter.Works) (hplain : claims.Plain)
    (hreads : converter.ReadsBack claims) (hencode : converter.encodeClaims claims = .ok value) :
    ∃ parsed : Claims, converter.decode (some value) = .ok parsed ∧
      ∀ name, parsed.get name = claims.get name := by
  obtain ⟨content, hwrite, hcontent⟩ := h.writes claims hplain
  obtain ⟨jwt, token, jwt', hjwt, hencoded, hverified, hclaims⟩ := h.roundTrip hcontent
  unfold encodeClaims at hencode
  rw [hwrite] at hencode
  dsimp only at hencode
  rw [hjwt] at hencode
  have hvalue : value = token := Except.ok.inj (hencode.symm.trans hencoded)
  obtain ⟨parsed, hparse, hsame⟩ := hreads content hwrite
  refine ⟨parsed, ?_, hsame⟩
  unfold decode readClaims
  rw [hvalue]
  dsimp only [Option.elim, bind, Except.bind]
  rw [hverified]
  dsimp only
  rw [hclaims]
  dsimp only
  rw [hparse]

end Codec

section Carries
open DefaultAccessTokenConverter

variable {converter} {a : OAuth2Authentication} {x : DefaultOAuth2AccessToken Claim}
  {value : String} {expiration : Option ℤ}

/-- The id of a token shows nowhere else in its claims. -/
theorem get_convertAccessToken_of_ne_jti (converter : DefaultAccessTokenConverter) {id : Claim}
    (hscope : x.scope = some a.oAuth2Request.scope)
    (hinfo : x.additionalInformation = [("jti", id)])
    {name : String} (hname : name ≠ "jti") :
    (converter.convertAccessToken x a).get name = (converter.convertAccessToken {
      value := none, expiration := x.expiration
      scope := some a.oAuth2Request.scope } a).get name := by
  apply get_convertAccessToken_congr converter a hscope
  · exact fun _ => rfl
  · rw [hinfo]
    simp [Claims.get, List.lookup_cons, beq_false_of_ne hname]

theorem Works.carries (h : converter.Works) {id : Claim} (hid : id.Plain)
    (hscope : x.scope = some a.oAuth2Request.scope)
    (hinfo : x.additionalInformation = [("jti", id)])
    (hreads : converter.ReadsBack (converter.tokenConverter.convertAccessToken x a))
    (hencode : converter.encode x a = .ok value) : converter.Carries a x.expiration value := by
  have hplain := plain_convertAccessToken converter.tokenConverter (x := x) a (by
    rw [hinfo]
    exact plain_singleton hid)
  obtain ⟨parsed, hdecode, hsame⟩ := h.decode_eq_ok hplain hreads hencode
  refine ⟨parsed, hdecode, fun name hname => ?_⟩
  rw [hsame]
  exact get_convertAccessToken_of_ne_jti converter.tokenConverter hscope hinfo hname

theorem Works.encode_eq_ok (h : converter.Works) (a : OAuth2Authentication)
    (hinfo : Claims.Plain x.additionalInformation) : ∃ token, converter.encode x a = .ok token :=
  h.encodeClaims_eq_ok (plain_convertAccessToken converter.tokenConverter a hinfo)

theorem withTokenId_of_bare (hinfo : x.additionalInformation = []) :
    withTokenId x = { x with additionalInformation := [("jti", tokenId x.value)] } := by
  unfold withTokenId
  rw [hinfo]
  rfl

theorem encodedRefreshToken_of_bare (hinfo : x.additionalInformation = []) (v : Option String) :
    encodedRefreshToken x v =
      { x with value := v, additionalInformation := [("jti", tokenId v)] } := by
  unfold encodedRefreshToken
  rw [hinfo]
  rfl

theorem Works.enhanceRefreshToken_eq_ok (h : converter.Works) (a : OAuth2Authentication)
    (hinfo : x.additionalInformation = []) (r : DefaultOAuth2RefreshToken) :
    ∃ r', converter.enhanceRefreshToken x a r = .ok r' := by
  have hplain : Claims.Plain [("jti", tokenId r.value)] := plain_singleton (plain_tokenId r.value)
  unfold enhanceRefreshToken
  rw [encodedRefreshToken_of_bare hinfo]
  obtain ⟨v, hv⟩ := h.encode_eq_ok (x := { x with
    value := r.value, additionalInformation := [("jti", tokenId r.value)] }) a hplain
  dsimp only [bind, Except.bind]
  rw [hv]
  dsimp only
  cases r.expiration with
  | none => exact ⟨_, rfl⟩
  | some e =>
    obtain ⟨v', hv'⟩ := h.encode_eq_ok (x := { x with
      value := r.value, expiration := e, additionalInformation := [("jti", tokenId r.value)] }) a
      hplain
    dsimp only
    rw [hv']
    exact ⟨_, rfl⟩

/-- A token that carries nothing yet is enhanced. -/
theorem Works.enhance_eq_ok (h : converter.Works) (a : OAuth2Authentication)
    (hinfo : x.additionalInformation = []) : ∃ token, converter.enhance x a = .ok token := by
  unfold enhance
  rw [withTokenId_of_bare hinfo]
  obtain ⟨v, hv⟩ := h.encode_eq_ok
    (x := { x with additionalInformation := [("jti", tokenId x.value)] }) a
    (plain_singleton (plain_tokenId x.value))
  dsimp only [bind, Except.bind]
  rw [hv]
  dsimp only
  cases x.refreshToken with
  | none => exact ⟨_, rfl⟩
  | some r =>
    obtain ⟨r', hr'⟩ := h.enhanceRefreshToken_eq_ok a hinfo r
    rw [Option.mapM_some, hr']
    exact ⟨_, rfl⟩

/-- The refresh token carries its own expiration if it has one, otherwise that of the access
token. -/
theorem Works.carries_refreshToken (h : converter.Works) {r r' : DefaultOAuth2RefreshToken}
    (hscope : x.scope = some a.oAuth2Request.scope) (hinfo : x.additionalInformation = [])
    (hreads : converter.ReadsBack (converter.tokenConverter.convertAccessToken {
      encodedRefreshToken x r.value with expiration := r.expiration.getD x.expiration } a))
    (henhance : converter.enhanceRefreshToken x a r = .ok r') :
    r'.expiration = r.expiration ∧
      ∃ v, r'.value = some v ∧ converter.Carries a (r.expiration.getD x.expiration) v := by
  unfold enhanceRefreshToken at henhance
  rw [encodedRefreshToken_of_bare hinfo] at henhance hreads
  obtain ⟨v, hv, henhance⟩ := except_bind_eq_ok.mp henhance
  cases hexpiration : r.expiration with
  | none =>
    rw [hexpiration] at henhance hreads
    rw [← Except.ok.inj henhance]
    refine ⟨rfl, v, rfl, ?_⟩
    exact h.carries (x := { x with
      value := r.value, additionalInformation := [("jti", tokenId r.value)] })
      (plain_tokenId r.value) hscope rfl hreads hv
  | some e =>
    rw [hexpiration] at henhance hreads
    obtain ⟨v', hv', henhance⟩ := except_bind_eq_ok.mp henhance
    rw [← Except.ok.inj henhance]
    refine ⟨rfl, v', rfl, ?_⟩
    exact h.carries (x := { x with
      value := r.value, expiration := e, additionalInformation := [("jti", tokenId r.value)] })
      (plain_tokenId r.value) hscope rfl hreads hv'

/-- Both values of an enhanced token carry the one authentication. -/
theorem Works.carries_enhance (h : converter.Works) {token : DefaultOAuth2AccessToken Claim}
    (hscope : x.scope = some a.oAuth2Request.scope) (hinfo : x.additionalInformation = [])
    (hreads : ∀ y ∈ encodedTokens x,
      converter.ReadsBack (converter.tokenConverter.convertAccessToken y a))
    (henhance : converter.enhance x a = .ok token) :
    (∃ v, token.value = some v ∧ converter.Carries a token.expiration v) ∧
      ∀ r ∈ token.refreshToken, ∃ v, r.value = some v ∧
        converter.Carries a (r.expiration.getD token.expiration) v := by
  unfold enhance at henhance
  have hown := hreads _ List.mem_cons_self
  rw [withTokenId_of_bare hinfo] at henhance hown
  obtain ⟨v, hv, henhance⟩ := except_bind_eq_ok.mp henhance
  obtain ⟨refreshToken, hrefresh, henhance⟩ := except_bind_eq_ok.mp henhance
  rw [← Except.ok.inj henhance]
  refine ⟨⟨v, rfl, h.carries (plain_tokenId x.value) hscope rfl hown hv⟩, ?_⟩
  intro r' hr'
  have hissued : refreshToken = some r' := hr'
  rw [hissued] at hrefresh
  cases hr : x.refreshToken with
  | none =>
    rw [hr] at hrefresh
    cases hrefresh
  | some r =>
    rw [hr, Option.mapM_some] at hrefresh
    obtain ⟨r'', hr'', hsome⟩ := except_bind_eq_ok.mp hrefresh
    have hsame : r'' = r' := Option.some.inj (Except.ok.inj hsome)
    rw [hsame] at hr''
    have hmem : { encodedRefreshToken x r.value with
        expiration := r.expiration.getD x.expiration } ∈ encodedTokens x := by
      unfold encodedTokens
      rw [hr]
      exact List.mem_cons_of_mem _ List.mem_cons_self
    obtain ⟨hexpiration, v', hv', hcarries⟩ :=
      h.carries_refreshToken hscope hinfo (hreads _ hmem) hr''
    rw [hexpiration]
    exact ⟨v', hv', hcarries⟩

/-- A new token and its refresh token keep the expirations that they have been given. -/
theorem enhance_expiration {token : DefaultOAuth2AccessToken Claim}
    (h : converter.enhance x a = .ok token) :
    token.expiration = x.expiration ∧
      token.refreshToken.map DefaultOAuth2RefreshToken.expiration =
        x.refreshToken.map DefaultOAuth2RefreshToken.expiration := by
  obtain ⟨v, -, h⟩ := except_bind_eq_ok.mp h
  obtain ⟨refreshToken, hrefresh, h⟩ := except_bind_eq_ok.mp h
  rw [← Except.ok.inj h]
  refine ⟨rfl, ?_⟩
  cases hr : x.refreshToken with
  | none =>
    rw [hr] at hrefresh
    rw [← Except.ok.inj hrefresh]
  | some r =>
    rw [hr, Option.mapM_some] at hrefresh
    obtain ⟨r', hr', hsome⟩ := except_bind_eq_ok.mp hrefresh
    rw [← Except.ok.inj hsome]
    obtain ⟨w, -, hr'⟩ := except_bind_eq_ok.mp hr'
    cases hexpiration : r.expiration with
    | none =>
      rw [hexpiration] at hr'
      rw [← Except.ok.inj hr']
      exact congrArg some hexpiration.symm
    | some e =>
      rw [hexpiration] at hr'
      obtain ⟨w', -, hr'⟩ := except_bind_eq_ok.mp hr'
      rw [← Except.ok.inj hr']
      exact congrArg some hexpiration.symm

end Carries

end JwtAccessTokenConverter

/-- The last moment of a token whose expiration is kept in whole seconds. -/
def wholeSecond (e : ℤ) : ℤ := e.tdiv 1000 * 1000

theorem extractExpiration_tdiv {e : ℤ} (h : IsLong e) :
    DefaultAccessTokenConverter.extractExpiration (.number (e.tdiv 1000)) =
      .ok (wholeSecond e) := by
  have hdiv := tdiv_thousand e
  have hback : (e.tdiv 1000 * 1000).bmod (2 ^ 64) = e.tdiv 1000 * 1000 := by
    unfold IsLong at h
    rw [Int.bmod_def]
    omega
  unfold DefaultAccessTokenConverter.extractExpiration wholeSecond
  dsimp only
  rw [hback]

namespace DefaultAccessTokenConverter

theorem extractAuthentication_congr (converter : DefaultAccessTokenConverter)
    {claims claims' : Claims}
    (h : ∀ name, name ≠ "jti" → name ≠ "exp" → claims.get name = claims'.get name) :
    converter.extractAuthentication claims = converter.extractAuthentication claims' := by
  have hscope := h "scope" (by decide) (by decide)
  have hname := h "user_name" (by decide) (by decide)
  have hauthorities := h "authorities" (by decide) (by decide)
  have hclient := h "client_id" (by decide) (by decide)
  have hgrant := h "grant_type" (by decide) (by decide)
  have haud := h "aud" (by decide) (by decide)
  unfold extractAuthentication DefaultUserAuthenticationConverter.extractAuthentication
    DefaultUserAuthenticationConverter.getAuthorities extractClientAuthorities extractAuthorities
    extractGrantType
  rw [hscope, hname, hauthorities, hclient, hgrant, haud]

theorem get_convertAccessToken_of_ne_exp (converter : DefaultAccessTokenConverter)
    (a : OAuth2Authentication) (expiration : Option ℤ) (scope : Option (List String))
    {name : String} (hname : name ≠ "exp") :
    (converter.convertAccessToken {
      value := none, expiration := expiration, scope := scope } a).get name =
      (converter.convertAccessToken { value := none, scope := scope } a).get name := by
  apply get_convertAccessToken_congr
  · rfl
  · exact fun hexp => absurd hexp hname
  · rfl

end DefaultAccessTokenConverter

end MaxKey.OAuth2
