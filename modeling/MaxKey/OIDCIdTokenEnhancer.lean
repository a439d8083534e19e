import MaxKey.AccessTokenConverter
import MaxKey.Base64Codec

namespace MaxKey.OAuth2
open JavaException Effects

/-- A value of a claims set. -/
inductive JwtClaim
  | null
  | text (value : String)
  | texts (values : List (Option String))
  | date (value : ℤ)
  | number (value : ℤ)
  | flag (value : Bool)
  | jwk (document : String)
  deriving DecidableEq

/-- The claims of an id token; an earlier entry hides a later one of the same name. -/
abbrev JWTClaimsSet := List (String × JwtClaim)

namespace JWTClaimsSet

def claim (set : JWTClaimsSet) (name : String) (value : JwtClaim) : JWTClaimsSet :=
  (name, value) :: set

/-- Nothing is set where there is nothing. -/
def claimSome (set : JWTClaimsSet) (name : String) (value : Option JwtClaim) : JWTClaimsSet :=
  value.elim set (set.claim name)

def get (set : JWTClaimsSet) (name : String) : Option JwtClaim := set.lookup name

/-- The issuer as a verifier reads it, which is a text or none. -/
def getIssuer (set : JWTClaimsSet) : Option String :=
  match set.get "iss" with
  | some (.text issuer) => some issuer
  | _ => none

end JWTClaimsSet

/-- An id token. There is no signature or cipher text as long as it is not signed or encrypted. -/
inductive JWT
  | plain (claims : JWTClaimsSet)
  | signed (alg : String) (claims : JWTClaimsSet) (signature : Option String)
  | encrypted (alg enc : String) (claims : JWTClaimsSet) (cipherText : Option String)
  deriving DecidableEq

def JWT.claims : JWT → JWTClaimsSet
  | plain claims => claims
  | signed _ claims _ => claims
  | encrypted _ _ claims _ => claims

/-- A signature with an algorithm, none where the library fails. -/
abbrev JWSSigner := String → JWTClaimsSet → Option String

/-- A cipher text with an algorithm and a method, none where the library fails. -/
abbrev JWEEncrypter := String → String → JWTClaimsSet → Option String

structure DefaultJwtSigningAndValidationService where
  defaultSignerKeyId : Option String
  defaultAlgorithm : Option String
  signers : String → Option JWSSigner
  publicKeys : String → Option String

structure DefaultJwtEncryptionAndDecryptionService where
  defaultEncryptionKeyId : Option String
  encrypters : String → Option JWEEncrypter

/-- What the libraries compute: the text of a token, hashes, their encoding, and the service of a
set of keys, unless its document is refused. -/
structure Libraries where
  compact : JWT → String
  digest : String → List UInt8 → List UInt8
  encode : List UInt8 → String
  parseJWKSet : String → Option DefaultJwtEncryptionAndDecryptionService

/-- A client with the settings of its id tokens. -/
structure OIDCClientDetails extends ClientDetails where
  idTokenEncryptedAlgorithm : Option String := none
  idTokenEncryptionMethod : Option String := none
  jwksUri : Option String := none

structure OIDCIdTokenEnhancer where
  issuer : String
  jwtSignerService : DefaultJwtSigningAndValidationService
  loadClientByClientId : Option String → Except JavaException OIDCClientDetails
  decoder : Option String → Except JavaException (Option String)
  parseDateTime : Option String → Except JavaException ℤ
  libraries : Libraries

/-- What a call draws from outside: the time, a random id, and the last login time of the user of
the session, if there is a user. -/
structure IdTokenMoment where
  now : ℤ
  jwtID : String
  lastLoginTime : Option (Option String)

/-- What a token informs about: what it did before, and an id token that has been added, by its
text. -/
inductive Information (α : Type)
  | kept (value : α)
  | idToken (token : JWT)

namespace JWT

/-- The text of a token that has been signed or encrypted. -/
def serialize (libraries : Libraries) : JWT → Except JavaException String
  | signed _ _ none =>
    .error (illegalState "The JWS object must be in a signed or verified state")
  | encrypted _ _ _ none =>
    .error (illegalState "The JWE object must be in an encrypted or decrypted state")
  | token => .ok (libraries.compact token)

/-- The header of a signed token. -/
def newJWSHeader : Option String → Except JavaException String
  | none => .error (illegalArgument "The algorithm \"alg\" header parameter must not be null")
  | some alg =>
    if alg = "none" then
      .error (illegalArgument "The JWS algorithm \"alg\" cannot be \"none\"")
    else .ok alg

end JWT

namespace IdTokenHashUtils

def hashAlg (signingAlg : String) : Option String :=
  if signingAlg = "HS256" ∨ signingAlg = "ES256" ∨ signingAlg = "RS256" then some "SHA-256"
  else if signingAlg = "ES384" ∨ signingAlg = "HS384" ∨ signingAlg = "RS384" then some "SHA-384"
  else if signingAlg = "ES512" ∨ signingAlg = "HS512" ∨ signingAlg = "RS512" then some "SHA-512"
  else none

/-- The left half of the hash. -/
def getHash (libraries : Libraries) (signingAlg : String) (bytes : List UInt8) : Option String :=
  (hashAlg signingAlg).map fun alg =>
    let hash := libraries.digest alg bytes
    libraries.encode (hash.take (hash.length / 2))

def getAccessTokenHash (libraries : Libraries) (signingAlg : String) (jwt : JWT) :
    Except JavaException (Option String) := do
  let token ← jwt.serialize libraries
  return getHash libraries signingAlg (Codecs.utf8Encode token)

end IdTokenHashUtils

namespace DefaultJwtSigningAndValidationService

/-- A failure of the library leaves the token unsigned. -/
def signJwt (service : DefaultJwtSigningAndValidationService) (alg : String)
    (claims : JWTClaimsSet) : Except JavaException JWT :=
  match service.defaultSignerKeyId with
  | none =>
    .error (illegalState "Tried to call default signing with no default signer ID set")
  | some id =>
    match service.signers id with
    | none => .error nullPointer
    | some sign => .ok (.signed alg claims (sign alg claims))

end DefaultJwtSigningAndValidationService

namespace DefaultJwtEncryptionAndDecryptionService

def encryptJwt (service : DefaultJwtEncryptionAndDecryptionService) (alg enc : String)
    (claims : JWTClaimsSet) : Except JavaException JWT :=
  match service.defaultEncryptionKeyId with
  | none =>
    .error (illegalState "Tried to call default encryption with no default encrypter ID set")
  | some id =>
    match service.encrypters id with
    | none => .error nullPointer
    | some encrypt => .ok (.encrypted alg enc claims (encrypt alg enc claims))

end DefaultJwtEncryptionAndDecryptionService

/-- The builder puts a null for the key into a map that takes none. -/
def SymmetricSigningAndValidationServiceBuilder.serviceBuilder :
    Option String → Except JavaException (Option DefaultJwtSigningAndValidationService)
  | none => .ok none
  | some _ => .error nullPointer

/-- Whatever the address is, the document that is parsed is an empty text. -/
def RecipientJwtEncryptionAndDecryptionServiceBuilder.serviceBuilder (libraries : Libraries)
    (_jwksUri : String) : Option DefaultJwtEncryptionAndDecryptionService :=
  libraries.parseJWKSet ""

/-- How the id tokens of a client are encrypted, if they are. -/
def OIDCClientDetails.encryption (client : OIDCClientDetails) : Option (String × String × String) :=
  match client.idTokenEncryptedAlgorithm, client.idTokenEncryptionMethod, client.jwksUri with
  | some alg, some enc, some jwksUri =>
    if alg ≠ "none" ∧ enc ≠ "none" ∧ 4 < (JavaText.utf16 jwksUri).length then
      some (alg, enc, jwksUri)
    else none
  | _, _, _ => none

namespace OIDCIdTokenEnhancer

variable {α : Type} (enhancer : OIDCIdTokenEnhancer)

/-- The login time, where it was asked for. -/
def authTime (m : IdTokenMoment) (extensions : Claims) : Except JavaException (Option JwtClaim) :=
  if (extensions.get "max_age").isSome ∨ (extensions.get "idtoken").isSome then do
    let lastLoginTime ← m.lastLoginTime.elim (.error nullPointer) .ok
    let loginDate ← enhancer.parseDateTime lastLoginTime
    return some (.number (loginDate.tdiv 1000))
  else .ok none

def nonceClaim (extensions : Claims) : Except JavaException (Option JwtClaim) := do
  let nonce ← (extensions.get "nonce").elim (.ok none) Claim.asText
  return (nonce.filter (· ≠ "")).map .text

def subJwk : Option JwtClaim :=
  if JavaText.equalsIgnoreCase enhancer.issuer "https://self-issued.me" then
    let key := enhancer.jwtSignerService.defaultSignerKeyId.bind
      enhancer.jwtSignerService.publicKeys
    some (key.elim .null .jwk)
  else none

/-- The claims of every id token. The issuer is the name of one of them. -/
def commonClaims (m : IdTokenMoment) (extensions : Claims) (accessToken : DefaultOAuth2AccessToken α)
    (authentication : OAuth2Authentication) : Except JavaException JWTClaimsSet := do
  let builder : JWTClaimsSet := []
  let builder := builder.claim "sub" (.text authentication.getName)
  let builder := builder.claim "exp" (accessToken.expiration.elim .null .date)
  let builder := builder.claim enhancer.issuer (.flag true)
  let builder := builder.claim "iat" (.date m.now)
  let builder := builder.claim "aud" (.texts [authentication.oAuth2Request.clientId])
  let builder := builder.claim "jti" (.text m.jwtID)
  let builder := builder.claimSome "sub_jwk" enhancer.subJwk
  let authTime ← enhancer.authTime m extensions
  let builder := builder.claimSome "auth_time" authTime
  let nonce ← nonceClaim extensions
  return builder.claimSome "nonce" nonce

/-- The hash is that of the id token itself, before it is signed. -/
def withTokenHash (signingAlg : String) (request : OAuth2Request) (builder : JWTClaimsSet) :
    Except JavaException JWTClaimsSet :=
  if "token" ∈ request.responseTypes then do
    let signed := JWT.signed signingAlg builder none
    let atHash ← IdTokenHashUtils.getAccessTokenHash enhancer.libraries signingAlg signed
    return builder.claim "at_hash" (atHash.elim .null .text)
  else .ok builder

def encryptIdToken (alg enc jwksUri : String) (builder : JWTClaimsSet) :
    Except JavaException (Option JWT) :=
  let service := RecipientJwtEncryptionAndDecryptionServiceBuilder.serviceBuilder
    enhancer.libraries jwksUri
  service.mapM fun service => service.encryptJwt alg enc builder

/-- A token that is signed with the secret of the client. -/
def signSymmetric (signingAlg : String) (client : OIDCClientDetails) (builder : JWTClaimsSet) :
    Except JavaException (Option JWT) := do
  let secret ← enhancer.decoder client.clientSecret
  let service ← SymmetricSigningAndValidationServiceBuilder.serviceBuilder secret
  service.mapM fun service =>
    service.signJwt signingAlg (builder.claim "kid" (.text "SYMMETRIC-KEY"))

def signIdToken (signingAlg : Option String) (client : OIDCClientDetails)
    (builder : JWTClaimsSet) : Except JavaException (Option JWT) :=
  match signingAlg with
  | none => .ok (some (.plain builder))
  | some alg =>
    if alg = "HS256" ∨ alg = "HS384" ∨ alg = "HS512" then
      enhancer.signSymmetric alg client builder
    else do
      let service := enhancer.jwtSignerService
      let kid := service.defaultSignerKeyId.elim .null .text
      let token ← service.signJwt alg (builder.claim "kid" kid)
      return some token

def newIdToken (m : IdTokenMoment) (extensions : Claims) (accessToken : DefaultOAuth2AccessToken α)
    (authentication : OAuth2Authentication) : Except JavaException (Option JWT) := do
  let client ← enhancer.loadClientByClientId authentication.oAuth2Request.clientId
  let builder ← enhancer.commonClaims m extensions accessToken authentication
  let signingAlg := enhancer.jwtSignerService.defaultAlgorithm
  let alg ← JWT.newJWSHeader signingAlg
  let builder ← enhancer.withTokenHash alg authentication.oAuth2Request builder
  match client.encryption with
  | some (alg, enc, jwksUri) => enhancer.encryptIdToken alg enc jwksUri builder
  | none => enhancer.signIdToken signingAlg client builder

/-- A token with what it informs about. -/
def inform (accessToken : DefaultOAuth2AccessToken α) (idToken : Option JWT) :
    DefaultOAuth2AccessToken (Information α) where
  value := accessToken.value
  tokenType := accessToken.tokenType
  expiration := accessToken.expiration
  refreshToken := accessToken.refreshToken
  scope := accessToken.scope
  additionalInformation :=
    let kept := accessToken.additionalInformation.map fun entry => (entry.1, .kept entry.2)
    idToken.elim kept fun idToken =>
      OAuth2AccessTokenJackson2Deserializer.put kept "id_token" (.idToken idToken)

def enhance (m : IdTokenMoment) (extensions : Claims) (accessToken : DefaultOAuth2AccessToken α)
    (authentication : OAuth2Authentication) :
    Except JavaException (DefaultOAuth2AccessToken (Information α)) :=
  if "openid" ∈ authentication.oAuth2Request.scope then do
    let idToken ← enhancer.newIdToken m extensions accessToken authentication
    let _ ← idToken.mapM fun idToken => idToken.serialize enhancer.libraries
    return inform accessToken idToken
  else .ok (inform accessToken none)

/-- The id token that has been added. -/
def addedIdToken (token : DefaultOAuth2AccessToken (Information α)) : Option JWT :=
  match token.additionalInformation.lookup "id_token" with
  | some (.idToken idToken) => some idToken
  | _ => none

/-! ### What is issued -/

section Claims

variable {set : JWTClaimsSet} {name other : String} {value : JwtClaim}

@[simp] theorem get_nil : JWTClaimsSet.get [] name = none := rfl

@[simp] theorem get_claim_self : (set.claim name value).get name = some value := by
  simp [JWTClaimsSet.claim, JWTClaimsSet.get]

@[simp] theorem get_claim_of_ne (h : other ≠ name) :
    (set.claim name value).get other = set.get other := by
  simp [JWTClaimsSet.claim, JWTClaimsSet.get, List.lookup_cons, beq_false_of_ne h]

@[simp] theorem get_claimSome_of_ne (value : Option JwtClaim) (h : other ≠ name) :
    (set.claimSome name value).get other = set.get other := by
  cases value with
  | none => rfl
  | some value => exact get_claim_of_ne h

@[simp] theorem get_claimSome_self (value : Option JwtClaim) :
    (set.claimSome name value).get name = value.or (set.get name) := by
  cases value with
  | none => rfl
  | some value => exact get_claim_self

theorem getIssuer_eq_none : set.getIssuer = none ↔ ∀ issuer, set.get "iss" ≠ some (.text issuer) := by
  unfold JWTClaimsSet.getIssuer
  split
  · rename_i issuer hissuer
    exact iff_of_false nofun fun h => h issuer hissuer
  · rename_i hother
    exact iff_of_true rfl hother

end Claims

section Issue

variable {enhancer} {m : IdTokenMoment} {extensions : MaxKey.OAuth2.Claims}
  {accessToken : DefaultOAuth2AccessToken α} {a : OAuth2Authentication} {jwt : JWT}
  {builder : JWTClaimsSet}

/-- The claims of every id token, by name. A claim that has the name of the issuer keeps its value
only if it is set later. -/
theorem commonClaims_get (h : enhancer.commonClaims m extensions accessToken a = .ok builder) :
    (∀ issuer, builder.get "iss" ≠ some (.text issuer)) ∧
      builder.get "aud" = some (.texts [a.oAuth2Request.clientId]) ∧
      (enhancer.issuer ≠ "sub" → builder.get "sub" = some (.text a.getName)) ∧
      (enhancer.issuer ≠ "exp" →
        builder.get "exp" = some (accessToken.expiration.elim .null .date)) ∧
      (enhancer.issuer ≠ "nonce" → nonceClaim extensions = .ok (builder.get "nonce")) := by
  obtain ⟨authTime, -, h⟩ := except_bind_eq_ok.mp h
  obtain ⟨nonce, hnonce, h⟩ := except_bind_eq_ok.mp h
  rw [← Except.ok.inj h]
  refine ⟨?_, ?_, ?_, ?_, ?_⟩
  · intro issuer
    by_cases hname : enhancer.issuer = "iss"
    · simp [hname]
    · simp [Ne.symm hname]
  · simp
  · intro hname
    simp [hname.symm]
  · intro hname
    simp [hname.symm]
  · intro hname
    rw [hnonce]
    simp [hname.symm]

/-- A header is made for an algorithm that is one. -/
theorem newJWSHeader_eq_ok {signingAlg : Option String} {alg : String} :
    JWT.newJWSHeader signingAlg = .ok alg ↔ signingAlg = some alg ∧ alg ≠ "none" := by
  unfold JWT.newJWSHeader
  split
  · exact iff_of_false nofun nofun
  · split_ifs with hnone
    · refine iff_of_false nofun ?_
      rintro ⟨hsome, halg⟩
      exact halg ((Option.some.inj hsome).symm.trans hnone)
    · constructor
      · intro h
        rw [← Except.ok.inj h]
        exact ⟨rfl, hnone⟩
      · rintro ⟨hsome, -⟩
        rw [Option.some.inj hsome]

/-- A token that is to have a hash is hashed unsigned, which the library refuses. -/
theorem withTokenHash_eq_ok {alg : String} {request : OAuth2Request} {result : JWTClaimsSet} :
    enhancer.withTokenHash alg request builder = .ok result ↔
      "token" ∉ request.responseTypes ∧ builder = result := by
  unfold withTokenHash
  split_ifs with htoken
  · exact iff_of_false nofun fun h => h.1 htoken
  · exact ⟨fun h => ⟨htoken, Except.ok.inj h⟩, fun h => congrArg Except.ok h.2⟩

/-- How a token with these claims is secured: encrypted with a key that has been parsed from an
empty document, or signed with the key of the server. -/
def Secures (client : OIDCClientDetails) (alg : String) (builder : JWTClaimsSet) (jwt : JWT) :
    Prop :=
  match client.encryption with
  | some (keyAlg, enc, _) => ∃ service, enhancer.libraries.parseJWKSet "" = some service ∧
    service.encryptJwt keyAlg enc builder = .ok jwt
  | none => ¬(alg = "HS256" ∨ alg = "HS384" ∨ alg = "HS512") ∧
    enhancer.jwtSignerService.signJwt alg (builder.claim "kid"
      (enhancer.jwtSignerService.defaultSignerKeyId.elim .null .text)) = .ok jwt

/-- No token is signed with the secret of a client. -/
theorem signSymmetric_ne_some {alg : String} {client : OIDCClientDetails} :
    enhancer.signSymmetric alg client builder ≠ .ok (some jwt) := by
  intro h
  obtain ⟨secret, -, hbuild⟩ := except_bind_eq_ok.mp h
  obtain ⟨service, hservice, hsign⟩ := except_bind_eq_ok.mp hbuild
  cases secret with
  | none =>
    rw [← Except.ok.inj hservice] at hsign
    cases hsign
  | some secret => cases hservice

theorem signIdToken_eq_some {alg : String} {client : OIDCClientDetails} :
    enhancer.signIdToken (some alg) client builder = .ok (some jwt) ↔
      ¬(alg = "HS256" ∨ alg = "HS384" ∨ alg = "HS512") ∧
        enhancer.jwtSignerService.signJwt alg (builder.claim "kid"
          (enhancer.jwtSignerService.defaultSignerKeyId.elim .null .text)) = .ok jwt := by
  unfold signIdToken
  dsimp only
  split_ifs with hsymmetric
  · exact iff_of_false signSymmetric_ne_some fun h => h.1 hsymmetric
  · constructor
    · intro h
      obtain ⟨token, htoken, hreturn⟩ := except_bind_eq_ok.mp h
      rw [← Option.some.inj (Except.ok.inj hreturn)]
      exact ⟨hsymmetric, htoken⟩
    · rintro ⟨-, htoken⟩
      rw [htoken]
      rfl

theorem encryptIdToken_eq_some {keyAlg enc jwksUri : String} :
    enhancer.encryptIdToken keyAlg enc jwksUri builder = .ok (some jwt) ↔
      ∃ service, enhancer.libraries.parseJWKSet "" = some service ∧
        service.encryptJwt keyAlg enc builder = .ok jwt := by
  unfold encryptIdToken RecipientJwtEncryptionAndDecryptionServiceBuilder.serviceBuilder
  cases enhancer.libraries.parseJWKSet "" with
  | none => exact iff_of_false nofun nofun
  | some service =>
    dsimp only
    rw [Option.mapM_some]
    constructor
    · intro h
      obtain ⟨token, htoken, hreturn⟩ := except_bind_eq_ok.mp h
      rw [← Option.some.inj (Except.ok.inj hreturn)]
      exact ⟨service, rfl, htoken⟩
    · rintro ⟨_, hsome, htoken⟩
      rw [Option.some.inj hsome, htoken]
      rfl

/-- An id token is made exactly for a known client, with all common claims, with an algorithm, not
for the response type of an access token, and where it is secured. -/
theorem newIdToken_eq_some :
    enhancer.newIdToken m extensions accessToken a = .ok (some jwt) ↔
      ∃ client builder alg,
        enhancer.loadClientByClientId a.oAuth2Request.clientId = .ok client ∧
        enhancer.commonClaims m extensions accessToken a = .ok builder ∧
        enhancer.jwtSignerService.defaultAlgorithm = some alg ∧ alg ≠ "none" ∧
        "token" ∉ a.oAuth2Request.responseTypes ∧ enhancer.Secures client alg builder jwt := by
  have hsecures : ∀ client alg builder, (match client.encryption with
      | some (alg, enc, jwksUri) => enhancer.encryptIdToken alg enc jwksUri builder
      | none => enhancer.signIdToken (some alg) client builder) = .ok (some jwt) ↔
        enhancer.Secures client alg builder jwt := by
    intro client alg builder
    unfold Secures
    cases client.encryption with
    | none => exact signIdToken_eq_some
    | some settings => exact encryptIdToken_eq_some
  unfold newIdToken
  simp only [except_bind_eq_ok, newJWSHeader_eq_ok, withTokenHash_eq_ok]
  constructor
  · rintro ⟨client, hclient, builder, hbuilder, alg, ⟨halg, hnone⟩, _, ⟨htoken, rfl⟩, hsecured⟩
    rw [halg] at hsecured
    exact ⟨client, builder, alg, hclient, hbuilder, halg, hnone, htoken,
      (hsecures client alg builder).mp hsecured⟩
  · rintro ⟨client, builder, alg, hclient, hbuilder, halg, hnone, htoken, hsecured⟩
    refine ⟨client, hclient, builder, hbuilder, alg, ⟨halg, hnone⟩, builder, ⟨htoken, rfl⟩, ?_⟩
    rw [halg]
    exact (hsecures client alg builder).mpr hsecured

/-- The claims of a secured token are those that it was made of, and perhaps the id of a key. -/
theorem Secures.get_claims {client : OIDCClientDetails} {alg name : String}
    (h : enhancer.Secures client alg builder jwt) (hname : name ≠ "kid") :
    jwt.claims.get name = builder.get name := by
  unfold Secures at h
  split at h
  · obtain ⟨service, -, hencrypt⟩ := h
    unfold DefaultJwtEncryptionAndDecryptionService.encryptJwt at hencrypt
    split at hencrypt
    · cases hencrypt
    · split at hencrypt
      · cases hencrypt
      · rw [← Except.ok.inj hencrypt]
        rfl
  · obtain ⟨-, hsign⟩ := h
    unfold DefaultJwtSigningAndValidationService.signJwt at hsign
    split at hsign
    · cases hsign
    · split at hsign
      · cases hsign
      · rw [← Except.ok.inj hsign]
        exact get_claim_of_ne hname

/-- The entries that a token had hold no id token that has been added. -/
theorem lookup_kept (entries : List (String × α)) (name : String) :
    (entries.map fun entry => (entry.1, Information.kept entry.2)).lookup name =
      (entries.lookup name).map .kept := by
  induction entries with
  | nil => rfl
  | cons entry rest ih =>
    rw [List.map_cons, List.lookup_cons, List.lookup_cons, ih]
    split
    · rfl
    · rfl

theorem lookup_put_self {β : Type} (entries : List (String × β)) (key : String) (value : β) :
    (OAuth2AccessTokenJackson2Deserializer.put entries key value).lookup key = some value := by
  unfold OAuth2AccessTokenJackson2Deserializer.put
  split_ifs with hkey
  · induction entries with
    | nil => cases hkey
    | cons entry rest ih =>
      rw [List.map_cons]
      by_cases hfirst : entry.1 = key
      · rw [if_pos hfirst, List.lookup_cons_self]
      · have hrest : key ∈ rest.map Prod.fst := by
          rcases List.mem_cons.mp hkey with hsame | hrest
          · exact absurd hsame.symm hfirst
          · exact hrest
        rw [if_neg hfirst, List.lookup_cons, beq_false_of_ne (Ne.symm hfirst)]
        exact ih hrest
  · rw [List.lookup_append, List.lookup_cons_self]
    have hnone : entries.lookup key = none := by
      apply List.lookup_eq_none_iff.mpr
      intro entry hentry
      have hne : key ≠ entry.1 := fun hsame => hkey (hsame ▸ List.mem_map_of_mem hentry)
      simpa using hne
    rw [hnone]
    rfl

theorem addedIdToken_inform (idToken : Option JWT) :
    addedIdToken (inform accessToken idToken) = idToken := by
  unfold addedIdToken inform
  cases idToken with
  | none =>
    dsimp only [Option.elim]
    rw [lookup_kept]
    cases accessToken.additionalInformation.lookup "id_token" with
    | none => rfl
    | some value => rfl
  | some idToken =>
    dsimp only [Option.elim]
    rw [lookup_put_self]

/-- A call adds an id token exactly if it makes one that has been signed or encrypted. -/
theorem enhance_adds_iff (hopenid : "openid" ∈ a.oAuth2Request.scope) :
    (∃ result, enhancer.enhance m extensions accessToken a = .ok result ∧
      addedIdToken result = some jwt) ↔
      enhancer.newIdToken m extensions accessToken a = .ok (some jwt) ∧
        ∃ text, jwt.serialize enhancer.libraries = .ok text := by
  unfold enhance
  rw [if_pos hopenid]
  constructor
  · rintro ⟨result, hresult, hadded⟩
    obtain ⟨idToken, hnew, h⟩ := except_bind_eq_ok.mp hresult
    obtain ⟨texts, htexts, hreturn⟩ := except_bind_eq_ok.mp h
    rw [← Except.ok.inj hreturn, addedIdToken_inform] at hadded
    rw [hadded, Option.mapM_some] at htexts
    obtain ⟨text, htext, -⟩ := except_bind_eq_ok.mp htexts
    rw [hadded] at hnew
    exact ⟨hnew, text, htext⟩
  · rintro ⟨hnew, text, htext⟩
    refine ⟨inform accessToken (some jwt), ?_, addedIdToken_inform (some jwt)⟩
    rw [hnew]
    dsimp only [bind, Except.bind]
    rw [Option.mapM_some, htext]
    rfl

/-- Every id token lacks the issuer. Its other claims are as they should be, unless the issuer is
the name of one. -/
theorem added_claims {result : DefaultOAuth2AccessToken (Information α)}
    (hopenid : "openid" ∈ a.oAuth2Request.scope)
    (hresult : enhancer.enhance m extensions accessToken a = .ok result)
    (hadded : addedIdToken result = some jwt) :
    jwt.claims.getIssuer = none ∧
      jwt.claims.get "aud" = some (.texts [a.oAuth2Request.clientId]) ∧
      (enhancer.issuer ≠ "sub" → jwt.claims.get "sub" = some (.text a.getName)) ∧
      (enhancer.issuer ≠ "exp" →
        jwt.claims.get "exp" = some (accessToken.expiration.elim .null .date)) ∧
      (enhancer.issuer ≠ "nonce" → nonceClaim extensions = .ok (jwt.claims.get "nonce")) := by
  obtain ⟨hnew, -⟩ := (enhance_adds_iff hopenid).mp ⟨result, hresult, hadded⟩
  obtain ⟨client, builder, alg, -, hbuilder, -, -, -, hsecures⟩ := newIdToken_eq_some.mp hnew
  obtain ⟨hiss, haud, hsub, hexp, hnonce⟩ := commonClaims_get hbuilder
  rw [getIssuer_eq_none, hsecures.get_claims (by decide), hsecures.get_claims (by decide),
    hsecures.get_claims (by decide), hsecures.get_claims (by decide),
    hsecures.get_claims (by decide)]
  exact ⟨hiss, haud, hsub, hexp, hnonce⟩

/-- For the response type of an access token every call fails. -/
theorem enhance_token_fails (hopenid : "openid" ∈ a.oAuth2Request.scope)
    (htoken : "token" ∈ a.oAuth2Request.responseTypes) :
    ∃ e, enhancer.enhance m extensions accessToken a = .error e := by
  cases hresult : enhancer.enhance m extensions accessToken a with
  | error e => exact ⟨e, rfl⟩
  | ok result =>
    unfold enhance at hresult
    rw [if_pos hopenid] at hresult
    obtain ⟨idToken, hnew, -⟩ := except_bind_eq_ok.mp hresult
    obtain ⟨client, -, h⟩ := except_bind_eq_ok.mp hnew
    obtain ⟨builder, -, h⟩ := except_bind_eq_ok.mp h
    obtain ⟨alg, -, h⟩ := except_bind_eq_ok.mp h
    obtain ⟨hashed, hhash, -⟩ := except_bind_eq_ok.mp h
    exact absurd htoken (withTokenHash_eq_ok.mp hhash).1

/-- A token is secured as the client or the server is configured. -/
def AsConfigured (client : OIDCClientDetails) : JWT → Prop
  | .encrypted alg enc _ cipherText =>
    cipherText ≠ none ∧ ∃ jwksUri, client.encryption = some (alg, enc, jwksUri)
  | .signed alg _ signature => signature ≠ none ∧ client.encryption = none ∧
    enhancer.jwtSignerService.defaultAlgorithm = some alg
  | .plain _ => client.encryption = none ∧
    (enhancer.jwtSignerService.defaultAlgorithm = none ∨
      enhancer.jwtSignerService.defaultAlgorithm = some "none")

variable (enhancer) (m) (extensions) (accessToken) (a)

/-- The claims that an id token should have. -/
structure FullClaims (claims : JWTClaimsSet) : Prop where
  iss : claims.get "iss" = some (.text enhancer.issuer)
  aud : claims.get "aud" = some (.texts [a.oAuth2Request.clientId])
  sub : claims.get "sub" = some (.text a.getName)
  exp : claims.get "exp" = some (accessToken.expiration.elim .null .date)
  nonce : nonceClaim extensions = .ok (claims.get "nonce")
  atHash : "token" ∈ a.oAuth2Request.responseTypes → ∃ alg value,
    enhancer.jwtSignerService.defaultAlgorithm = some alg ∧ accessToken.value = some value ∧
      claims.get "at_hash" = (IdTokenHashUtils.getHash enhancer.libraries alg
        (Codecs.utf8Encode value)).map .text

/-- A call adds an id token that is secured as configured, has all its claims and passes the check
of the issuer. -/
def AddsIdToken : Prop :=
  ∃ result client jwt, enhancer.enhance m extensions accessToken a = .ok result ∧
    enhancer.loadClientByClientId a.oAuth2Request.clientId = .ok client ∧
    addedIdToken result = some jwt ∧ enhancer.AsConfigured client jwt ∧
    enhancer.FullClaims extensions accessToken a jwt.claims ∧
    jwt.claims.getIssuer = some enhancer.issuer

/-- No call adds the id token that it should add. For the response type of an access token it adds
none at all, and those that are added otherwise have no issuer. -/
theorem enhance_never (hopenid : "openid" ∈ a.oAuth2Request.scope) :
    ¬enhancer.AddsIdToken m extensions accessToken a ∧
      ("token" ∈ a.oAuth2Request.responseTypes →
        ∃ e, enhancer.enhance m extensions accessToken a = .error e) ∧
      ∀ result jwt, enhancer.enhance m extensions accessToken a = .ok result →
        addedIdToken result = some jwt → jwt.claims.getIssuer = none := by
  have hissuer : ∀ result jwt, enhancer.enhance m extensions accessToken a = .ok result →
      addedIdToken result = some jwt → jwt.claims.getIssuer = none :=
    fun result jwt hresult hadded => (added_claims hopenid hresult hadded).1
  refine ⟨?_, enhance_token_fails hopenid, hissuer⟩
  intro hadds
  obtain ⟨result, client, jwt, hresult, -, hadded, -, -, hchecked⟩ := hadds
  rw [hissuer result jwt hresult hadded] at hchecked
  cases hchecked

end Issue

/-- Libraries with a signer of the server. -/
def rsaEnhancer : OIDCIdTokenEnhancer where
  issuer := "https://sso.maxkey.top/maxkey"
  jwtSignerService := {
    defaultSignerKeyId := some "maxkey_rsa", defaultAlgorithm := some "RS256"
    signers := fun id => if id = "maxkey_rsa" then some fun _ _ => some "c2lnbmVk" else none
    publicKeys := fun _ => none }
  loadClientByClientId := fun
    | some id => .ok { clientId := id }
    | none => .error (noSuchClient "null")
  decoder := .ok
  parseDateTime _ := .ok 1700000000000
  libraries := {
    compact := fun _ => "eyJhbGciOiJSUzI1NiJ9.e30.c2lnbmVk", digest := fun _ bytes => bytes
    encode := fun _ => "", parseJWKSet := fun _ => none }

def appMoment : IdTokenMoment := ⟨1700000000000, "id1", none⟩

def appToken : DefaultOAuth2AccessToken String :=
  { value := some "a1", expiration := some 1700003600000 }

/-- A client that acts for itself and asks for an id token. -/
def appAuthentication (responseTypes : List String) : OAuth2Authentication where
  oAuth2Request := { clientId := some "app", scope := ["openid"], responseTypes := responseTypes }
  userAuthentication := none

theorem enhance_never_app :
    ¬rsaEnhancer.AddsIdToken appMoment [] appToken (appAuthentication ["code"]) ∧
      ("token" ∈ (appAuthentication ["code"]).oAuth2Request.responseTypes →
        ∃ e, rsaEnhancer.enhance appMoment [] appToken (appAuthentication ["code"]) = .error e) ∧
      ∀ result jwt,
        rsaEnhancer.enhance appMoment [] appToken (appAuthentication ["code"]) = .ok result →
          addedIdToken result = some jwt → jwt.claims.getIssuer = none :=
  enhance_never rsaEnhancer appMoment [] appToken (appAuthentication ["code"]) (by decide)

/-- The id token for a code has no issuer, and for an access token the call fails. -/
theorem enhance_fails :
    (∃ result jwt,
      rsaEnhancer.enhance appMoment [] appToken (appAuthentication ["code"]) = .ok result ∧
        addedIdToken result = some jwt ∧ jwt.claims.getIssuer ≠ some rsaEnhancer.issuer) ∧
      (∃ e, rsaEnhancer.enhance appMoment [] appToken (appAuthentication ["code", "token"]) =
        .error e) ∧
      ¬ ∀ responseTypes, rsaEnhancer.AddsIdToken appMoment [] appToken
        (appAuthentication responseTypes) := by
  have hopenid : "openid" ∈ (appAuthentication ["code"]).oAuth2Request.scope := by decide
  have hsecures : ∃ jwt text, rsaEnhancer.newIdToken appMoment [] appToken
      (appAuthentication ["code"]) = .ok (some jwt) ∧
        jwt.serialize rsaEnhancer.libraries = .ok text := by
    refine ⟨_, _, newIdToken_eq_some.mpr ⟨{ clientId := "app" }, _, "RS256", rfl, rfl, rfl,
      by decide, by decide, by decide, rfl⟩, rfl⟩
  obtain ⟨jwt, text, hnew, htext⟩ := hsecures
  obtain ⟨result, hresult, hadded⟩ := (enhance_adds_iff hopenid).mpr ⟨hnew, text, htext⟩
  obtain ⟨hissuer, -⟩ := added_claims hopenid hresult hadded
  refine ⟨⟨result, jwt, hresult, hadded, ?_⟩, enhance_token_fails (by decide) (by decide), ?_⟩
  · rw [hissuer]
    exact nofun
  · intro hall
    obtain ⟨result', client, jwt', hresult', -, hadded', -, -, hchecked⟩ := hall ["code"]
    rw [(added_claims hopenid hresult' hadded').1] at hchecked
    cases hchecked

end OIDCIdTokenEnhancer

end MaxKey.OAuth2
