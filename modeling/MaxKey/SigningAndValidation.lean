import MaxKey.Base64Utils
import MaxKey.OIDCIdTokenEnhancer

namespace MaxKey.OAuth2
open JavaException Effects Base64Utils

/-- Whether a signature verifies, none where the library throws. -/
abbrev JWSVerifier := String → JWTClaimsSet → String → Option Bool

/-- A key of the libraries: the signer that is made of a private one, the verifier, what is public of
it, and whether the libraries take it or throw. Of a key of another kind nothing is made. -/
structure JWK where
  accepted : Bool := true
  signer : Option JWSSigner := none
  verifier : Option JWSVerifier := none
  publicJWK : Option String := none

structure SigningAndValidationService extends DefaultJwtSigningAndValidationService where
  verifiers : List JWSVerifier

/-- The keys are those of a map, and a single one is the default signer. -/
def buildSignersAndVerifiers (keys : List (String × JWK)) : Option SigningAndValidationService :=
  if keys.all fun entry => entry.2.accepted then
    some {
      defaultSignerKeyId := if keys.length = 1 then keys.head?.map Prod.fst else none
      defaultAlgorithm := none
      signers := fun id => (keys.lookup id).bind JWK.signer
      publicKeys := fun id => (keys.lookup id).bind JWK.publicJWK
      verifiers := keys.filterMap fun entry => entry.2.verifier }
  else none

/-- A verifier that throws is passed over. An unsigned token is refused before the first of them. -/
def SigningAndValidationService.validateSignature (service : SigningAndValidationService)
    (alg : String) (claims : JWTClaimsSet) (signature : Option String) : Except JavaException Bool := do
  if service.verifiers.isEmpty then return false
  let signature ← present (illegalState "The JWS object must be in a signed or verified state")
    signature
  return service.verifiers.any fun verify => verify alg claims signature = some true

namespace SymmetricSigningAndValidationServiceBuilder

def SYMMETRIC_KEY : String := "SYMMETRIC-KEY"

/-- An immutable map of one entry takes no null value. -/
def immutableMapOf (key : String) (value : Option JWK) : Except JavaException (List (String × JWK)) := do
  let value ← present nullPointer value
  return [(key, value)]

/-- The service over the key that the builder makes of a secret, null where the libraries throw. -/
def serviceOver (jwk : String → Option JWK) (sharedSecret : Option String) :
    Except JavaException (Option SigningAndValidationService) :=
  sharedSecret.elim (.ok none) fun secret => do
    let keys ← immutableMapOf SYMMETRIC_KEY (jwk secret)
    return buildSignersAndVerifiers keys

/-- The key of a secret is still to be made: it is null. -/
def nullKey (_sharedSecret : String) : Option JWK := none

theorem serviceBuilder_eq (sharedSecret : Option String) : serviceBuilder sharedSecret =
    Option.map SigningAndValidationService.toDefaultJwtSigningAndValidationService <$>
      serviceOver nullKey sharedSecret := by
  cases sharedSecret with
  | none => rfl
  | some secret => rfl

end SymmetricSigningAndValidationServiceBuilder

/-! ### A service of one key -/

/-- The service signs with HS256, and validates exactly what is a signature under its secret. -/
structure SignsUnder (service : SigningAndValidationService)
    (verifies : String → JWTClaimsSet → String → Bool) : Prop where
  signed : ∀ claims, ∃ signature,
    service.signJwt "HS256" claims = .ok (.signed "HS256" claims (some signature)) ∧
      verifies "HS256" claims signature = true
  validated : ∀ alg claims signature,
    service.validateSignature alg claims (some signature) = .ok (verifies alg claims signature)

section

variable {jwk : String → Option JWK} {key : JWK} {secret id : String} {sign : JWSSigner}
  {verify : JWSVerifier} {service : SigningAndValidationService}

theorem buildSignersAndVerifiers_single (id : String) (h : key.accepted = true) :
    ∃ service, buildSignersAndVerifiers [(id, key)] = some service ∧
      service.defaultSignerKeyId = some id ∧ service.signers id = key.signer ∧
        service.verifiers = key.verifier.toList := by
  have hall : [(id, key)].all (fun entry => entry.2.accepted) = true := by simp [h]
  rw [buildSignersAndVerifiers, if_pos hall]
  refine ⟨_, rfl, rfl, ?_, ?_⟩
  · simp
  · cases hverifier : key.verifier with
    | none => simp [hverifier]
    | some verify => simp [hverifier]

/-- A signer and a verifier of the same key match. -/
theorem signsUnder_of_key (hid : service.defaultSignerKeyId = some id)
    (hsigner : service.signers id = some sign) (hverifiers : service.verifiers = [verify])
    (hmatch : ∀ claims, ∃ signature, sign "HS256" claims = some signature ∧
      verify "HS256" claims signature = some true) :
    SignsUnder service fun alg claims signature => verify alg claims signature = some true := by
  constructor
  · intro claims
    obtain ⟨signature, hsigned, hverified⟩ := hmatch claims
    refine ⟨signature, ?_, decide_eq_true hverified⟩
    unfold DefaultJwtSigningAndValidationService.signJwt
    simp only [hid, hsigner, hsigned]
  · intro alg claims signature
    unfold SigningAndValidationService.validateSignature
    simp only [hverifiers, present_some_bind, List.isEmpty_cons, Bool.false_eq_true, if_false,
      List.any_cons, List.any_nil, Bool.or_false]
    rfl

end

namespace SymmetricSigningAndValidationServiceBuilder

variable {jwk : String → Option JWK} {key : JWK} {secret : String} {sign : JWSSigner}
  {verify : JWSVerifier}

theorem serviceOver_null (h : jwk secret = none) :
    serviceOver jwk (some secret) = .error nullPointer := by
  rw [serviceOver, Option.elim_some, h]
  rfl

theorem serviceOver_key (h : jwk secret = some key) :
    serviceOver jwk (some secret) = .ok (buildSignersAndVerifiers [(SYMMETRIC_KEY, key)]) := by
  rw [serviceOver, Option.elim_some, h]
  rfl

/-- Over a key of the secret that the libraries take, the builder would give the service. -/
theorem exists_signsUnder (hkey : jwk secret = some key) (haccepted : key.accepted = true)
    (hsigner : key.signer = some sign) (hverifier : key.verifier = some verify)
    (hmatch : ∀ claims, ∃ signature, sign "HS256" claims = some signature ∧
      verify "HS256" claims signature = some true) :
    ∃ service, serviceOver jwk (some secret) = .ok (some service) ∧
      SignsUnder service fun alg claims signature => verify alg claims signature = some true := by
  obtain ⟨service, hservice, hid, hsigners, hverifiers⟩ :=
    buildSignersAndVerifiers_single SYMMETRIC_KEY haccepted
  rw [hsigner] at hsigners
  rw [hverifier] at hverifiers
  refine ⟨service, ?_, signsUnder_of_key hid hsigners hverifiers hmatch⟩
  rw [serviceOver_key hkey, hservice]

end SymmetricSigningAndValidationServiceBuilder

end MaxKey.OAuth2
