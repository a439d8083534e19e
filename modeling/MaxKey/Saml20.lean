import MaxKey.Interleaving
import MaxKey.JavaText
import Mathlib.Logic.Function.Basic

namespace MaxKey.Saml20
open Interleaving

/-- The signature algorithms of SignatureConstants that the code names, and DSA's. -/
inductive SignatureAlgorithm
  | rsaSha1 | rsaSha256 | rsaSha384 | rsaSha512 | rsaMd5 | rsaRipemd160
  | dsaSha1 | ecdsaSha1 | ecdsaSha256 | ecdsaSha384 | ecdsaSha512
  | hmacMd5 | hmacSha1 | hmacSha256 | hmacSha384 | hmacSha512 | hmacRipemd160
  deriving DecidableEq

inductive DigestMethod
  | md5 | sha1 | sha256 | sha384 | sha512 | ripemd160
  deriving DecidableEq

/-- The first entry of a table whose name a setting is, in any case of letters. -/
def lookUp {α : Type} (table : List (String × α)) (setting : String) : Option α :=
  (table.find? fun entry => JavaText.equalsIgnoreCase setting entry.1).map Prod.snd

open SignatureAlgorithm in
/-- The algorithm that AssertionGenerator sets for a setting, if it sets one. -/
def signatureAlgorithm : String → Option SignatureAlgorithm :=
  lookUp [("RSAwithSHA1", rsaSha1), ("RSAwithSHA256", rsaSha256), ("RSAwithSHA384", rsaSha384),
    ("RSAwithSHA512", rsaSha512), ("RSAwithMD5", rsaMd5), ("RSAwithRIPEMD160", rsaRipemd160),
    ("DSAwithSHA1", ecdsaSha1), ("ECDSAwithSHA256", ecdsaSha256),
    ("ECDSAwithSHA384", ecdsaSha384), ("ECDSAwithSHA512", ecdsaSha512), ("HMAC-MD5", hmacMd5),
    ("HMAC-SHA1", hmacSha1), ("HMAC-SHA256", hmacSha256), ("HMAC-SHA384", hmacSha384),
    ("HMAC-SHA512", hmacSha512), ("HMAC-RIPEMD160", hmacRipemd160)]

open DigestMethod in
def digestMethod : String → Option DigestMethod :=
  lookUp [("MD5", md5), ("SHA1", sha1), ("SHA256", sha256), ("SHA384", sha384),
    ("SHA512", sha512), ("RIPEMD-160", ripemd160)]

/-- The columns of APPS_SAML_V20_DETAILS that single sign-on reads. The validity is the number
that its text stands for. -/
structure AppsSAML20Details where
  signature : Option String := some "RSAwithSHA1"
  digestMethod : Option String := some "SHA1"
  keyStore : Option String
  spAcsUrl : Option String
  audience : Option String
  validityInterval : Option ℤ := some 30
  binding : Option String
  encrypted : Bool := false
  deriving DecidableEq

structure AuthnRequestInfo where
  assertionConumerURL : Option String := some ""
  authnRequestID : Option String := none
  deriving DecidableEq

structure Signature where
  signatureAlgorithm : Option SignatureAlgorithm
  digestMethod : DigestMethod
  signingCredential : String
  deriving DecidableEq

/-- The subject, its attributes and the times of an assertion are left out. -/
structure Assertion where
  recipient : Option String
  inResponseTo : Option String
  audience : Option String
  validInSeconds : ℤ
  signature : Option Signature
  deriving DecidableEq

structure Response where
  destination : Option String
  inResponseTo : Option String
  assertion : Option Assertion
  deriving DecidableEq

/-- What goes to the encoder: the response, the endpoint's location, and the relay state. -/
structure Message where
  response : Response
  location : Option String
  relayState : Option String
  deriving DecidableEq

def generateAssertion (details : AppsSAML20Details) (inResponseTo : Option String)
    (validInSeconds : ℤ) (signature : Option Signature) : Assertion :=
  ⟨details.spAcsUrl, inResponseTo, details.audience, validInSeconds, signature⟩

/-- No credential of the service provider is ever set, and without one an assertion that is to be
encrypted is dropped. -/
def generateAuthnResponse (details : AppsSAML20Details) (info : AuthnRequestInfo)
    (validInSeconds : ℤ) (signature : Option Signature) : Response where
  destination := details.spAcsUrl
  inResponseTo := info.authnRequestID
  assertion :=
    if details.encrypted then none
    else some (generateAssertion details info.authnRequestID validInSeconds signature)

/-- The two extract adapters. -/
inductive Extract
  | post
  | redirect
  deriving DecidableEq

/-- The two binding adapters. -/
inductive Binding
  | post
  | postSimpleSign
  deriving DecidableEq

/-- The controllers that have a field `bindingAdapter`. -/
inductive Endpoint
  | singleSignOn
  | idpInit
  | assertion
  deriving DecidableEq

/-- The fields of an extract adapter. Both resolvers stand for the key store that they go by. -/
structure ExtractBindingAdapter where
  saml20Detail : Cell (Option AppsSAML20Details) := ⟨none, none⟩
  credentialResolver : Option String := none
  securityPolicyResolver : Option String := none

structure BindingAdapter where
  authnRequestInfo : Cell (Option AuthnRequestInfo) := ⟨none, none⟩
  extractBindingAdapter : Option Extract := none
  relayState : Cell (Option String) := ⟨none, none⟩
  signingCredential : Option String := none

/-- A request that was accepted: its thread, the application that it names, its id, and the
relay state that it carries. -/
structure Accepted where
  number : ℕ
  appId : String
  requestId : Option String
  relayState : Option String
  deriving DecidableEq

/-- What all requests share: the adapters, the controllers, the digest method of the global
security configuration and the attribute samlv20Adapter. The history tells which request of a
session was accepted last. -/
structure Shared (ι : Type) where
  extract : Extract → ExtractBindingAdapter := fun _ => {}
  binding : Binding → BindingAdapter := fun _ => {}
  bindingAdapter : Endpoint → Option Binding := fun _ => none
  signatureReferenceDigestMethod : Cell DigestMethod := ⟨.sha1, none⟩
  samlv20Adapter : ι → Option Binding := fun _ => none
  latest : ι → Option Accepted := fun _ => none

/-- Who begins: a service provider with its message, or the identity provider. -/
inductive Initiator
  | sp (samlRequest : String)
  | idp
  deriving DecidableEq

/-- A single sign-on request of a session. -/
structure SignOn (ι : Type) where
  session : ι
  appId : String
  initiator : Initiator
  extract : Extract
  relayState : Option String
  deriving DecidableEq

inductive Request (ι : Type)
  | authorizePost (i : ι) (appId samlRequest : String) (relayState : Option String)
  | authorizeRedirect (i : ι) (appId samlRequest : String) (relayState : Option String)
  | authorizeIdpInit (i : ι) (appId : String) (relayState : Option String)
  | assertion (i : ι)

/-- The setters that a sign-on calls on the adapter in the field of its controller, which it
reads again for each. -/
inductive Setter
  | authnRequestInfo
  | extractBindingAdapter
  | relayState
  | sessionAttribute
  deriving DecidableEq

/-- Where a request stands: each constructor is the access to a shared field that comes next.
`asked` is the session's latest request at the time at which the details were read. -/
inductive Thread (ι : Type)
  | setSaml20Detail (r : SignOn ι)
  | setCredentialResolver (r : SignOn ι) (details : AppsSAML20Details) (keyStore : String)
  | setSecurityPolicyResolver (r : SignOn ι) (details : AppsSAML20Details) (keyStore : String)
  | extractSAMLMessage (r : SignOn ι) (samlRequest : String)
  | getBinding (r : SignOn ι) (info : AuthnRequestInfo)
  | setBindingAdapter (r : SignOn ι) (info : AuthnRequestInfo) (b : Binding)
  | getBindingAdapter (r : SignOn ι) (info : AuthnRequestInfo) (setter : Setter)
  | call (r : SignOn ι) (info : AuthnRequestInfo) (setter : Setter) (b : Binding)
  | getCredentialResolver (r : SignOn ι) (info : AuthnRequestInfo) (b : Binding)
  | buildCredentialResolver (r : SignOn ι) (info : AuthnRequestInfo) (b : Binding)
      (resolver : Option String)
  | getAttribute (i : ι)
  | getSaml20Details (i : ι)
  | getExtractBindingAdapter (i : ι) (b : Binding)
  | getSaml20Detail (i : ι) (e : Extract)
  | getAdapterOfInfo (i : ι) (asked : Option Accepted) (details : AppsSAML20Details)
  | getAuthnRequestInfo (i : ι) (asked : Option Accepted) (details : AppsSAML20Details)
      (b : Binding)
  | getAdapterToSign (i : ι) (asked : Option Accepted) (details : AppsSAML20Details)
      (info : AuthnRequestInfo)
  | getSigningCredential (i : ι) (asked : Option Accepted) (details : AppsSAML20Details)
      (info : AuthnRequestInfo) (validInSeconds : ℤ) (b : Binding)
  | setSignatureReferenceDigestMethod (i : ι) (asked : Option Accepted)
      (details : AppsSAML20Details) (info : AuthnRequestInfo) (validInSeconds : ℤ)
      (credential signature : String)
  | setSignature (i : ι) (asked : Option Accepted) (details : AppsSAML20Details)
      (info : AuthnRequestInfo) (validInSeconds : ℤ) (credential signature digest : String)
  | getAdapterToSend (i : ι) (asked : Option Accepted) (response : Response)
      (location : Option String)
  | sendSAMLMessage (i : ι) (asked : Option Accepted) (response : Response)
      (location : Option String) (b : Binding)
  | sent (i : ι) (message : Message)
  | finished
  deriving DecidableEq

/-- What the code calls outside: the applications' records; which key stores load; what a
decoder and the validators make of a message, by the adapter, the key store of its policy and
the time; and the signing credential that a resolver finds, which may be null, or an exception. -/
structure System where
  getAppDetails : String → Option AppsSAML20Details
  loads : String → Bool
  extractSAMLMessage : ℕ → Extract → Option String → String → Option AuthnRequestInfo
  resolveSingle : String → Except Unit (Option String)

namespace SignOn

def endpoint {ι : Type} (r : SignOn ι) : Endpoint :=
  match r.initiator with
  | .sp _ => .singleSignOn
  | .idp => .idpInit

/-- The relay state that is handed on; an identity provider's request hands on none. -/
def handedOn {ι : Type} (r : SignOn ι) : Option String :=
  match r.initiator with
  | .sp _ => r.relayState
  | .idp => none

end SignOn

variable {ι : Type} [DecidableEq ι]

namespace Shared
open Function (update)

def setExtract (s : Shared ι) (e : Extract) (f : ExtractBindingAdapter → ExtractBindingAdapter) :
    Shared ι := { s with extract := update s.extract e (f (s.extract e)) }

def setBinding (s : Shared ι) (b : Binding) (f : BindingAdapter → BindingAdapter) : Shared ι :=
  { s with binding := update s.binding b (f (s.binding b)) }

def setField (s : Shared ι) (endpoint : Endpoint) (b : Option Binding) : Shared ι :=
  { s with bindingAdapter := update s.bindingAdapter endpoint b }

/-- The history moves on to a request that is accepted. -/
def accept (s : Shared ι) (k : ℕ) (r : SignOn ι) (requestId : Option String) : Shared ι :=
  { s with latest := update s.latest r.session (some ⟨k, r.appId, requestId, r.relayState⟩) }

end Shared

def bindingOf (binding : String) : Binding :=
  if "PostSimpleSign".toList.isSuffixOf binding.toList then .postSimpleSign else .post

/-- With the details at hand, a sign-on chooses the adapter that will answer. -/
def chooseBinding (r : SignOn ι) (info : AuthnRequestInfo) (details : Option AppsSAML20Details) :
    Thread ι :=
  match details.bind AppsSAML20Details.binding with
  | none => .finished
  | some binding => .setBindingAdapter r info (bindingOf binding)

variable (sys : System)

/-- The null key store of an application ends the request. -/
def setSaml20Detail (k : ℕ) (r : SignOn ι) (s : Shared ι) : Thread ι × Shared ι :=
  match sys.getAppDetails r.appId with
  | none => (.finished, s)
  | some details =>
    match details.keyStore with
    | none => (.finished, s)
    | some keyStore =>
      let s' := s.setExtract r.extract ({ · with saml20Detail := .write k (some details) })
      (if sys.loads keyStore then .setCredentialResolver r details keyStore else .finished, s')

/-- A service provider's message is still to be decoded; an identity provider's request is
accepted. -/
def setSecurityPolicyResolver (k : ℕ) (r : SignOn ι) (details : AppsSAML20Details)
    (keyStore : String) (s : Shared ι) : Thread ι × Shared ι :=
  let s' := s.setExtract r.extract ({ · with securityPolicyResolver := some keyStore })
  match r.initiator with
  | .sp samlRequest => (.extractSAMLMessage r samlRequest, s')
  | .idp => (chooseBinding r {} (some details), s'.accept k r none)

def extractSAMLMessage (k : ℕ) (r : SignOn ι) (samlRequest : String) (s : Shared ι) :
    Thread ι × Shared ι :=
  let policy := (s.extract r.extract).securityPolicyResolver
  match sys.extractSAMLMessage k r.extract policy samlRequest with
  | none => (.finished, s)
  | some info => (.getBinding r info, s.accept k r info.authnRequestID)

def call (k : ℕ) (r : SignOn ι) (info : AuthnRequestInfo) (b : Binding) (s : Shared ι) :
    Setter → Thread ι × Shared ι
  | .authnRequestInfo =>
    (.getBindingAdapter r info .extractBindingAdapter,
      s.setBinding b ({ · with authnRequestInfo := .write k (some info) }))
  | .extractBindingAdapter =>
    (.getCredentialResolver r info b,
      s.setBinding b ({ · with extractBindingAdapter := some r.extract }))
  | .relayState =>
    (.getBindingAdapter r info .sessionAttribute,
      s.setBinding b ({ · with relayState := .write k r.handedOn }))
  | .sessionAttribute =>
    -- the request is forwarded to the assertion endpoint
    (.getAttribute r.session,
      { s with samlv20Adapter := Function.update s.samlv20Adapter r.session (some b) })

/-- An exception leaves the signing credential as it is. -/
def buildCredentialResolver (r : SignOn ι) (info : AuthnRequestInfo) (b : Binding)
    (resolver : Option String) (s : Shared ι) : Thread ι × Shared ι :=
  let setter := if r.handedOn = none then Setter.sessionAttribute else .relayState
  (.getBindingAdapter r info setter,
    match (resolver.elim (.error ()) sys.resolveSingle : Except Unit (Option String)) with
    | .error _ => s
    | .ok credential => s.setBinding b ({ · with signingCredential := credential }))

/-- The assertion goes out unsigned when a null pointer stops its signing. -/
def unsigned (i : ι) (asked : Option Accepted) (details : AppsSAML20Details)
    (info : AuthnRequestInfo) (validInSeconds : ℤ) : Thread ι :=
  .getAdapterToSend i asked (generateAuthnResponse details info validInSeconds none)
    details.spAcsUrl

def getSigningCredential (i : ι) (asked : Option Accepted) (details : AppsSAML20Details)
    (info : AuthnRequestInfo) (validInSeconds : ℤ) (b : Binding) (s : Shared ι) : Thread ι :=
  match (s.binding b).signingCredential, details.signature with
  | some credential, some signature =>
    .setSignatureReferenceDigestMethod i asked details info validInSeconds credential signature
  | _, _ => unsigned i asked details info validInSeconds

/-- A digest that the code does not know leaves the global digest method as it is. -/
def setSignatureReferenceDigestMethod (k : ℕ) (i : ι) (asked : Option Accepted)
    (details : AppsSAML20Details) (info : AuthnRequestInfo) (validInSeconds : ℤ)
    (credential signature : String) (s : Shared ι) : Thread ι × Shared ι :=
  match details.digestMethod with
  | none => (unsigned i asked details info validInSeconds, s)
  | some digest =>
    (.setSignature i asked details info validInSeconds credential signature digest,
      match digestMethod digest with
      | none => s
      | some m => { s with signatureReferenceDigestMethod := .write k m })

/-- The signature takes the global digest method. What is registered there for the name of the
setting has no reader. -/
def setSignature (i : ι) (asked : Option Accepted) (details : AppsSAML20Details)
    (info : AuthnRequestInfo) (validInSeconds : ℤ) (credential signature : String)
    (s : Shared ι) : Thread ι :=
  let signed : Signature :=
    ⟨signatureAlgorithm signature, s.signatureReferenceDigestMethod.value, credential⟩
  .getAdapterToSend i asked (generateAuthnResponse details info validInSeconds (some signed))
    details.spAcsUrl

/-- One step of the request with the number `k`. A null pointer or an exception that is not
caught ends a request. -/
def next (k : ℕ) : Thread ι → Shared ι → Thread ι × Shared ι
  | .setSaml20Detail r, s => setSaml20Detail sys k r s
  | .setCredentialResolver r details keyStore, s =>
    (.setSecurityPolicyResolver r details keyStore,
      s.setExtract r.extract ({ · with credentialResolver := some keyStore }))
  | .setSecurityPolicyResolver r details keyStore, s =>
    setSecurityPolicyResolver k r details keyStore s
  | .extractSAMLMessage r samlRequest, s => extractSAMLMessage sys k r samlRequest s
  | .getBinding r info, s =>
    -- the details are those that the extract adapter holds now
    (chooseBinding r info (s.extract r.extract).saml20Detail.value, s)
  | .setBindingAdapter r info b, s =>
    (.getBindingAdapter r info .authnRequestInfo, s.setField r.endpoint (some b))
  | .getBindingAdapter r info setter, s =>
    (match s.bindingAdapter r.endpoint with
      | none => .finished
      | some b => .call r info setter b, s)
  | .call r info setter b, s => call k r info b s setter
  | .getCredentialResolver r info b, s =>
    (.buildCredentialResolver r info b (s.extract r.extract).credentialResolver, s)
  | .buildCredentialResolver r info b resolver, s =>
    buildCredentialResolver sys r info b resolver s
  | .getAttribute i, s => (.getSaml20Details i, s.setField .assertion (s.samlv20Adapter i))
  | .getSaml20Details i, s =>
    (match s.bindingAdapter .assertion with
      | none => .finished
      | some b => .getExtractBindingAdapter i b, s)
  | .getExtractBindingAdapter i b, s =>
    (match (s.binding b).extractBindingAdapter with
      | none => .finished
      | some e => .getSaml20Detail i e, s)
  | .getSaml20Detail i e, s =>
    (match (s.extract e).saml20Detail.value with
      | none => .finished
      | some details => .getAdapterOfInfo i (s.latest i) details, s)
  | .getAdapterOfInfo i asked details, s =>
    (match s.bindingAdapter .assertion with
      | none => .finished
      | some b => .getAuthnRequestInfo i asked details b, s)
  | .getAuthnRequestInfo i asked details b, s =>
    (match (s.binding b).authnRequestInfo.value with
      | none => .finished
      | some info => .getAdapterToSign i asked details info, s)
  | .getAdapterToSign i asked details info, s =>
    (match details.validityInterval, s.bindingAdapter .assertion with
      | none, _ => .finished
      | some validInSeconds, none => unsigned i asked details info validInSeconds
      | some validInSeconds, some b =>
        .getSigningCredential i asked details info validInSeconds b, s)
  | .getSigningCredential i asked details info validInSeconds b, s =>
    (getSigningCredential i asked details info validInSeconds b s, s)
  | .setSignatureReferenceDigestMethod i asked details info validInSeconds credential signature, s =>
    setSignatureReferenceDigestMethod k i asked details info validInSeconds credential signature s
  | .setSignature i asked details info validInSeconds credential signature _, s =>
    (setSignature i asked details info validInSeconds credential signature s, s)
  | .getAdapterToSend i asked response location, s =>
    (match s.bindingAdapter .assertion with
      | none => .finished
      | some b => .sendSAMLMessage i asked response location b, s)
  | .sendSAMLMessage i _ response location b, s =>
    (.sent i ⟨response, location, (s.binding b).relayState.value⟩, s)
  | .sent i message, s => (.sent i message, s)
  | .finished, s => (.finished, s)

omit [DecidableEq ι] in
def begin : Request ι → Thread ι
  | .authorizePost i appId samlRequest relayState =>
    .setSaml20Detail ⟨i, appId, .sp samlRequest, .post, relayState⟩
  | .authorizeRedirect i appId samlRequest relayState =>
    .setSaml20Detail ⟨i, appId, .sp samlRequest, .redirect, relayState⟩
  | .authorizeIdpInit i appId relayState => .setSaml20Detail ⟨i, appId, .idp, .redirect, relayState⟩
  | .assertion i => .getAttribute i

def program : Program (Request ι) (Thread ι) (Shared ι) := ⟨begin, next sys⟩

end MaxKey.Saml20
