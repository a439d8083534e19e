import MaxKey.Effects
import MaxKey.Domain
import MaxKey.Saml20

namespace MaxKey.Saml20.Responses
open Effects Runs

/-- A credential is an entry of a key store. -/
structure Credential where
  keyStore : String
  entry : String
  deriving DecidableEq

/-- A signature has a value once it is computed. -/
structure Signature where
  signatureAlgorithm : Option SignatureAlgorithm
  digestMethod : DigestMethod
  signingCredential : Credential
  keyInfo : String
  signatureValue : Option String := none
  deriving DecidableEq

/-- What an assertion says about the user of the session. -/
structure Statements where
  nameID : String
  attributes : List (String × String)
  deriving DecidableEq

structure Assertion where
  statements : Statements
  recipient : Option String
  inResponseTo : Option String
  audience : Option String
  validInSeconds : ℤ
  signature : Option Signature := none
  deriving DecidableEq

/-- An encrypted assertion, by what it was made of. -/
structure EncryptedAssertion where
  assertion : Assertion
  encryptionCredential : Option Credential
  deriving DecidableEq

structure Response where
  destination : Option String
  inResponseTo : Option String
  status : String
  assertions : List Assertion := []
  encryptedAssertions : List EncryptedAssertion := []
  deriving DecidableEq

/-- What goes to the encoder. -/
structure Message where
  response : Response
  location : Option String
  relayState : Option String
  signingCredential : Option Credential
  deriving DecidableEq

def SUCCESS_URI : String := "urn:oasis:names:tc:SAML:2.0:status:Success"

/-- The fields of an extract adapter. The resolver stands for its key store. -/
structure ExtractBindingAdapter where
  saml20Detail : Option AppsSAML20Details := none
  credentialResolver : Option String := none

structure BindingAdapter where
  authnRequestInfo : Option AuthnRequestInfo := none
  extractBindingAdapter : Option Extract := none
  relayState : Option String := none
  signingCredential : Option Credential := none
  spSigningCredential : Option Credential := none

/-- What stays from one request to the next. -/
structure Idp (ι : Type) where
  extract : Extract → ExtractBindingAdapter := fun _ => {}
  binding : Binding → BindingAdapter := fun _ => {}
  signatureReferenceDigestMethod : DigestMethod := .sha1
  samlv20Adapter : ι → Option Binding := fun _ => none

/-- What the records and the libraries come to in one request: each may fail by itself. An
encrypter refuses a null credential. -/
structure Outcomes where
  getAppDetails : String → Option AppsSAML20Details
  loads : String → Except JavaException Unit
  extractSAMLMessage : Extract → String → Except JavaException AuthnRequestInfo
  resolveSingle : String → Except JavaException (Option String)
  statements : AppsSAML20Details → Except JavaException Statements
  generateKeyInfo : Credential → Except JavaException String
  marshall : Except JavaException Unit
  signObject : Except JavaException String
  encrypt : Option Credential → Except JavaException Unit
  encrypt_none : encrypt none ≠ .ok ()
  encode : Except JavaException Unit

namespace Idp

variable {ι : Type}

def setExtract (s : Idp ι) (e : Extract) (f : ExtractBindingAdapter → ExtractBindingAdapter) :
    Idp ι := { s with extract := Function.update s.extract e (f (s.extract e)) }

def setBinding (s : Idp ι) (b : Binding) (f : BindingAdapter → BindingAdapter) : Idp ι :=
  { s with binding := Function.update s.binding b (f (s.binding b)) }

end Idp

variable {ι : Type} (o : Outcomes)

/-- AssertionGenerator's signature, before it is computed. A digest that the code does not know
leaves the global digest method as it is. -/
def signature (details : AppsSAML20Details) (b : Binding) :
    EStateM JavaException (Idp ι) Signature := do
  let s ← get
  let credential ← orThrow .nullPointer (s.binding b).signingCredential
  let keyInfo ← orError (o.generateKeyInfo credential)
  let setting ← orThrow .nullPointer details.signature
  let digest ← orThrow .nullPointer details.digestMethod
  let method := (digestMethod digest).getD s.signatureReferenceDigestMethod
  modify fun s => { s with signatureReferenceDigestMethod := method }
  return ⟨signatureAlgorithm setting, method, credential, keyInfo, none⟩

/-- The signature is already in the assertion when it is computed. -/
def signed (assertion : Assertion) (signature : Signature) : Assertion :=
  match o.marshall >>= fun _ => o.signObject with
  | .ok value =>
    { assertion with signature := some { signature with signatureValue := some value } }
  | .error _ => { assertion with signature := some signature }

/-- An exception while the assertion is signed is logged, and the assertion is returned. -/
def generateAssertion (details : AppsSAML20Details) (b : Binding) (inResponseTo : Option String)
    (validInSeconds : ℤ) : EStateM JavaException (Idp ι) Assertion := do
  let statements ← orError (o.statements details)
  let assertion : Assertion :=
    { statements, recipient := details.spAcsUrl, inResponseTo, audience := details.audience
      validInSeconds }
  tryCatch (signature o details b >>= fun signature => pure (signed o assertion signature))
    fun _ => pure assertion

/-- An exception while the assertion is encrypted is logged, and the response goes without it. -/
def generateAuthnResponse (details : AppsSAML20Details) (info : AuthnRequestInfo) (b : Binding) :
    EStateM JavaException (Idp ι) Response := do
  let validInSeconds ← orThrow .numberFormat details.validityInterval
  let assertion ← generateAssertion o details b info.authnRequestID validInSeconds
  let s ← get
  let response : Response :=
    { destination := details.spAcsUrl, inResponseTo := info.authnRequestID
      status := SUCCESS_URI }
  if details.encrypted then
    match o.encrypt (s.binding b).spSigningCredential with
    | .ok _ =>
      return { response with
        encryptedAssertions := [⟨assertion, (s.binding b).spSigningCredential⟩] }
    | .error _ => return response
  else return { response with assertions := [assertion] }

/-- AssertionEndpoint.assertion -/
def assertion (i : ι) : EStateM JavaException (Idp ι) Message := do
  let s ← get
  let b ← orThrow .nullPointer (s.samlv20Adapter i)
  let e ← orThrow .nullPointer (s.binding b).extractBindingAdapter
  let details ← orThrow .nullPointer (s.extract e).saml20Detail
  let info ← orThrow (.exception "") (s.binding b).authnRequestInfo
  let response ← generateAuthnResponse o details info b
  orError o.encode
  return ⟨response, details.spAcsUrl, (s.binding b).relayState, (s.binding b).signingCredential⟩

/-- The details are set before the key store turns out not to load. -/
def extractSaml20Detail (e : Extract) (appId : String) :
    EStateM JavaException (Idp ι) AppsSAML20Details := do
  let details ← orThrow (.exception "") (o.getAppDetails appId)
  let keyStore ← orThrow .nullPointer details.keyStore
  modify fun s => s.setExtract e ({ · with saml20Detail := some details })
  orError (o.loads keyStore)
  modify fun s => s.setExtract e ({ · with credentialResolver := some keyStore })
  return details

/-- A null credential is stored before it is refused. -/
def buildCredentialResolver (b : Binding) (credentialResolver : Option String) :
    EStateM JavaException (Idp ι) Unit := do
  let keyStore ← orThrow .nullPointer credentialResolver
  let entry ← orError (o.resolveSingle keyStore)
  modify fun s => s.setBinding b
    ({ · with signingCredential := entry.map (Credential.mk keyStore) })
  throwIf (entry = none) (.illegalArgument "The validated object is null")

/-- An exception of the resolver is printed and dropped. -/
def setExtractBindingAdapter (b : Binding) (e : Extract) : EStateM JavaException (Idp ι) Unit := do
  modify fun s => s.setBinding b ({ · with extractBindingAdapter := some e })
  let s ← get
  tryCatch (buildCredentialResolver o b (s.extract e).credentialResolver) fun _ => pure ()

def requestInfo (e : Extract) : Initiator → Except JavaException AuthnRequestInfo
  | .sp samlRequest => o.extractSAMLMessage e samlRequest
  | .idp => .ok {}

/-- What SingleSignOnEndpoint and IdpInitEndpoint do before they forward to the assertion. -/
def signOn [DecidableEq ι] (r : SignOn ι) : EStateM JavaException (Idp ι) Unit := do
  let details ← extractSaml20Detail o r.extract r.appId
  let info ← orError (requestInfo o r.extract r.initiator)
  let binding ← orThrow .nullPointer details.binding
  modify fun s => s.setBinding (bindingOf binding) ({ · with authnRequestInfo := some info })
  setExtractBindingAdapter o (bindingOf binding) r.extract
  modify fun s => match r.handedOn with
    | some relayState => s.setBinding (bindingOf binding) ({ · with relayState := some relayState })
    | none => s
  modify fun s => { s with
    samlv20Adapter := Function.update s.samlv20Adapter r.session (some (bindingOf binding)) }

/-- The sign-on that a request is, unless it goes to the assertion right away. -/
def signOnOf : Request ι → Option (SignOn ι)
  | .authorizePost i appId samlRequest relayState =>
    some ⟨i, appId, .sp samlRequest, .post, relayState⟩
  | .authorizeRedirect i appId samlRequest relayState =>
    some ⟨i, appId, .sp samlRequest, .redirect, relayState⟩
  | .authorizeIdpInit i appId relayState => some ⟨i, appId, .idp, .redirect, relayState⟩
  | .assertion _ => none

def sessionOf : Request ι → ι
  | .authorizePost i _ _ _ | .authorizeRedirect i _ _ _ | .authorizeIdpInit i _ _
  | .assertion i => i

/-- The answer to a request, or the exception with which it ends. -/
def handle [DecidableEq ι] (r : Request ι) : EStateM JavaException (Idp ι) Message := do
  (signOnOf r).forM (signOn o)
  assertion o (sessionOf r)

def step [DecidableEq ι] (s : Idp ι) (request : Outcomes × Request ι) : Idp ι :=
  final (handle request.1 request.2) s

/-- The assertion is signed, with a credential of the application's own key store. -/
def SignedFor (details : AppsSAML20Details) (assertion : Assertion) : Prop :=
  ∃ signature ∈ assertion.signature, signature.signatureValue.isSome ∧
    details.keyStore = some signature.signingCredential.keyStore

/-- A SUCCESS response with exactly one assertion, signed for the application, and encrypted
where the application asks for it. -/
structure Proper (details : AppsSAML20Details) (response : Response) : Prop where
  status : response.status = SUCCESS_URI
  signed : ∃ assertion, SignedFor details assertion ∧
    if details.encrypted then response.assertions = [] ∧
      ∃ credential, response.encryptedAssertions = [⟨assertion, some credential⟩]
    else response.assertions = [assertion] ∧ response.encryptedAssertions = []

/-- The application that a request is for: the one that it names, else that of the session. -/
def applicationOf (r : Request ι) (s : Idp ι) : Option AppsSAML20Details :=
  match signOnOf r with
  | some signOn => o.getAppDetails signOn.appId
  | none => do
    let b ← s.samlv20Adapter (sessionOf r)
    let e ← (s.binding b).extractBindingAdapter
    (s.extract e).saml20Detail

/-- The credential that a resolver leaves: what it finds, null included, or the one of before. -/
def resolved (keyStore : String) (cached : Option Credential) : Option Credential :=
  match o.resolveSingle keyStore with
  | .ok entry => entry.map (Credential.mk keyStore)
  | .error _ => cached

def credentialOf (r : Request ι) (s : Idp ι) : Option Credential :=
  match signOnOf r with
  | some signOn => do
    let details ← o.getAppDetails signOn.appId
    let keyStore ← details.keyStore
    let binding ← details.binding
    resolved o keyStore (s.binding (bindingOf binding)).signingCredential
  | none => do
    let b ← s.samlv20Adapter (sessionOf r)
    (s.binding b).signingCredential

/-- What signing takes: a credential of the application's key store, both settings, and
libraries that do not fail. -/
structure Signs (details : AppsSAML20Details) (credential : Option Credential) : Prop where
  credential : ∃ c ∈ credential, details.keyStore = some c.keyStore ∧
    ∃ keyInfo, o.generateKeyInfo c = .ok keyInfo
  signature : details.signature ≠ none
  digestMethod : details.digestMethod ≠ none
  marshall : o.marshall = .ok ()
  signObject : ∃ value, o.signObject = .ok value

/-- The application does not ask for encryption, and nothing fails that signing takes. -/
structure Sound (r : Request ι) (s : Idp ι) : Prop where
  plain : ∀ details ∈ applicationOf o r s, details.encrypted = false
  signs : ∀ details ∈ applicationOf o r s, Signs o details (credentialOf o r s)

section Generation

variable {o} {details : AppsSAML20Details} {info : AuthnRequestInfo} {b : Binding} {s t : Idp ι}

/-- The signature that AssertionGenerator makes, and when it makes one. -/
theorem signature_eq_ok {made : Signature} : signature o details b s = .ok made t ↔
    ∃ c keyInfo setting digest, (s.binding b).signingCredential = some c ∧
      o.generateKeyInfo c = .ok keyInfo ∧ details.signature = some setting ∧
      details.digestMethod = some digest ∧
      made = ⟨signatureAlgorithm setting,
        (digestMethod digest).getD s.signatureReferenceDigestMethod, c, keyInfo, none⟩ ∧
      t = { s with signatureReferenceDigestMethod :=
        (digestMethod digest).getD s.signatureReferenceDigestMethod } := by
  unfold signature
  constructor
  · intro h
    obtain ⟨_, _, hget, h⟩ := bind_eq_ok.mp h
    cases hget
    obtain ⟨c, _, hfirst, h⟩ := bind_eq_ok.mp h
    obtain ⟨hc, rfl⟩ := orThrow_eq_ok.mp hfirst
    obtain ⟨keyInfo, _, hsecond, h⟩ := bind_eq_ok.mp h
    obtain ⟨hinfo, rfl⟩ := orError_eq_ok.mp hsecond
    obtain ⟨setting, _, hthird, h⟩ := bind_eq_ok.mp h
    obtain ⟨hsetting, rfl⟩ := orThrow_eq_ok.mp hthird
    obtain ⟨digest, _, hlast, h⟩ := bind_eq_ok.mp h
    obtain ⟨hdigest, rfl⟩ := orThrow_eq_ok.mp hlast
    cases h
    exact ⟨c, keyInfo, setting, digest, hc, hinfo, hsetting, hdigest, rfl, rfl⟩
  · intro h
    obtain ⟨c, keyInfo, setting, digest, hc, hinfo, hsetting, hdigest, rfl, rfl⟩ := h
    rw [bind_of_ok (get_apply s), hc, orThrow_some_bind, hinfo, orError_ok_bind, hsetting,
      orThrow_some_bind, hdigest, orThrow_some_bind]
    rfl

/-- A signature counts once its value is computed. -/
theorem signedFor_signed {made : Signature} (hnone : made.signatureValue = none)
    (assertion : Assertion) :
    SignedFor details (signed o assertion made) ↔ o.marshall = .ok () ∧
      (∃ value, o.signObject = .ok value) ∧
        details.keyStore = some made.signingCredential.keyStore := by
  unfold signed
  cases hmarshall : o.marshall with
  | error e =>
    refine iff_of_false ?_ fun h => nomatch h.1
    intro hsigned
    obtain ⟨_, hmem, hvalue, -⟩ := hsigned
    rw [← Option.some.inj hmem, hnone] at hvalue
    cases hvalue
  | ok u =>
    cases hsign : o.signObject with
    | error e =>
      refine iff_of_false ?_ fun h => nomatch h.2.1
      intro hsigned
      obtain ⟨_, hmem, hvalue, -⟩ := hsigned
      rw [← Option.some.inj hmem, hnone] at hvalue
      cases hvalue
    | ok value =>
      constructor
      · intro hsigned
        obtain ⟨_, hmem, -, hstore⟩ := hsigned
        rw [← Option.some.inj hmem] at hstore
        exact ⟨rfl, ⟨value, rfl⟩, hstore⟩
      · intro h
        exact ⟨_, rfl, rfl, h.2.2⟩

/-- An assertion is signed for its application exactly if nothing fails that signing takes. -/
theorem signedFor_generateAssertion {inResponseTo : Option String} {validInSeconds : ℤ}
    {made : Assertion}
    (h : generateAssertion o details b inResponseTo validInSeconds s = .ok made t) :
    SignedFor details made ↔ Signs o details (s.binding b).signingCredential := by
  obtain ⟨statements, _, hstatements, h⟩ := bind_eq_ok.mp h
  obtain ⟨-, rfl⟩ := orError_eq_ok.mp hstatements
  cases hsignature : signature o details b s with
  | ok unsigned u =>
    have hbody : ∀ f : Signature → Assertion,
        (signature o details b >>= fun made => pure (f made)) s = .ok (f unsigned) u := by
      intro f
      exact bind_of_ok hsignature
    rw [tryCatch_of_ok (hbody _)] at h
    cases h
    obtain ⟨c, keyInfo, setting, digest, hc, hinfo, hsetting, hdigest, rfl, -⟩ :=
      signature_eq_ok.mp hsignature
    rw [signedFor_signed rfl]
    constructor
    · intro hsigned
      refine ⟨⟨c, hc, hsigned.2.2, keyInfo, hinfo⟩, ?_, ?_, hsigned.1, hsigned.2.1⟩
      · rw [hsetting]
        exact Option.some_ne_none setting
      · rw [hdigest]
        exact Option.some_ne_none digest
    · intro hsigns
      obtain ⟨c', hc', hstore, -⟩ := hsigns.credential
      rw [hc] at hc'
      rw [← Option.some.inj hc'] at hstore
      exact ⟨hsigns.marshall, hsigns.signObject, hstore⟩
  | error e u =>
    -- the assertion is returned as it was before the signature
    rw [tryCatch_of_error (bind_of_error hsignature)] at h
    cases h
    refine iff_of_false ?_ ?_
    · intro hsigned
      obtain ⟨_, hmem, -⟩ := hsigned
      cases hmem
    · intro hsigns
      obtain ⟨c, hc, -, keyInfo, hinfo⟩ := hsigns.credential
      obtain ⟨setting, hsetting⟩ := Option.ne_none_iff_exists'.mp hsigns.signature
      obtain ⟨digest, hdigest⟩ := Option.ne_none_iff_exists'.mp hsigns.digestMethod
      have hok := signature_eq_ok.mpr ⟨c, keyInfo, setting, digest, hc, hinfo, hsetting, hdigest,
        rfl, rfl⟩
      rw [hsignature] at hok
      cases hok

/-- What the generators leave alone. -/
def kept (s : Idp ι) : (Extract → ExtractBindingAdapter) × (Binding → BindingAdapter) :=
  (s.extract, s.binding)

theorem leaves_signature (o : Outcomes) (details : AppsSAML20Details) (b : Binding) :
    Leaves kept (signature (ι := ι) o details b) := by
  apply leaves_bind leaves_get
  intro s
  apply leaves_bind (leaves_orThrow _ _)
  intro c
  apply leaves_bind (leaves_orError _)
  intro keyInfo
  apply leaves_bind (leaves_orThrow _ _)
  intro setting
  apply leaves_bind (leaves_orThrow _ _)
  intro digest
  apply leaves_bind
  · apply leaves_modify
    exact fun _ => rfl
  intro _
  exact leaves_pure _

theorem leaves_generateAssertion (o : Outcomes) (details : AppsSAML20Details) (b : Binding)
    (inResponseTo : Option String) (validInSeconds : ℤ) :
    Leaves kept (generateAssertion (ι := ι) o details b inResponseTo validInSeconds) := by
  apply leaves_bind (leaves_orError _)
  intro statements
  apply leaves_tryCatch
  · apply leaves_bind (leaves_signature o details b)
    intro made
    exact leaves_pure _
  · intro e
    exact leaves_pure _

/-- As long as no credential of a service provider is set, a response is proper exactly if the
application asks for no encryption and the assertion is signed. -/
theorem proper_generateAuthnResponse {response : Response}
    (h : generateAuthnResponse o details info b s = .ok response t)
    (hsp : (s.binding b).spSigningCredential = none) :
    Proper details response ↔
      details.encrypted = false ∧ Signs o details (s.binding b).signingCredential := by
  obtain ⟨validInSeconds, _, hvalid, h⟩ := bind_eq_ok.mp h
  obtain ⟨-, rfl⟩ := orThrow_eq_ok.mp hvalid
  obtain ⟨made, u, hmade, h⟩ := bind_eq_ok.mp h
  have hkept := leaves_generateAssertion o details b info.authnRequestID validInSeconds s
  rw [final_of_ok hmade] at hkept
  have hbinding : u.binding = s.binding := congrArg Prod.snd hkept
  rw [bind_of_ok (get_apply u), hbinding, hsp] at h
  cases hencrypted : details.encrypted with
  | true =>
    refine iff_of_false ?_ fun h => nomatch h.1
    intro hproper
    obtain ⟨assertion, -, hshape⟩ := hproper.signed
    rw [if_pos hencrypted] at hshape
    obtain ⟨-, credential, hone⟩ := hshape
    rw [if_pos hencrypted] at h
    -- no credential is set, so that the encrypter fails and the response stays empty
    cases hfails : o.encrypt none with
    | ok _ => exact o.encrypt_none hfails
    | error e =>
      rw [hfails] at h
      cases h
      cases hone
  | false =>
    have hplain : ¬details.encrypted = true := by
      rw [hencrypted]
      exact Bool.false_ne_true
    rw [if_neg hplain] at h
    cases h
    rw [← signedFor_generateAssertion hmade, and_iff_right rfl]
    constructor
    · intro hproper
      obtain ⟨assertion, hsigned, hshape⟩ := hproper.signed
      rw [if_neg hplain] at hshape
      rw [(List.cons.inj hshape.1).1]
      exact hsigned
    · intro hsigned
      refine ⟨rfl, made, hsigned, ?_⟩
      rw [if_neg hplain]
      exact ⟨rfl, rfl⟩

/-- What the assertion endpoint goes by where it answers. -/
theorem assertion_eq_ok {i : ι} {message : Message} (h : assertion o i s = .ok message t) :
    ∃ b e details info u, s.samlv20Adapter i = some b ∧
      (s.binding b).extractBindingAdapter = some e ∧ (s.extract e).saml20Detail = some details ∧
        generateAuthnResponse o details info b s = .ok message.response u := by
  obtain ⟨_, _, hget, h⟩ := bind_eq_ok.mp h
  cases hget
  obtain ⟨b, _, hfirst, h⟩ := bind_eq_ok.mp h
  obtain ⟨hb, rfl⟩ := orThrow_eq_ok.mp hfirst
  obtain ⟨e, _, hsecond, h⟩ := bind_eq_ok.mp h
  obtain ⟨he, rfl⟩ := orThrow_eq_ok.mp hsecond
  obtain ⟨details, _, hthird, h⟩ := bind_eq_ok.mp h
  obtain ⟨hdetails, rfl⟩ := orThrow_eq_ok.mp hthird
  obtain ⟨info, _, hfourth, h⟩ := bind_eq_ok.mp h
  obtain ⟨hinfo, rfl⟩ := orThrow_eq_ok.mp hfourth
  obtain ⟨response, u, hresponse, h⟩ := bind_eq_ok.mp h
  obtain ⟨_, _, -, h⟩ := bind_eq_ok.mp h
  cases h
  exact ⟨b, e, details, info, u, hb, he, hdetails, hresponse⟩

end Generation

section SignOns

variable {o} {details : AppsSAML20Details} {b : Binding} {e : Extract} {s t : Idp ι}

@[simp] theorem setBinding_extract (s : Idp ι) (b : Binding)
    (f : BindingAdapter → BindingAdapter) : (s.setBinding b f).extract = s.extract := rfl

@[simp] theorem setBinding_binding_self (s : Idp ι) (b : Binding)
    (f : BindingAdapter → BindingAdapter) : (s.setBinding b f).binding b = f (s.binding b) :=
  Function.update_self _ _ _

@[simp] theorem setExtract_binding (s : Idp ι) (e : Extract)
    (f : ExtractBindingAdapter → ExtractBindingAdapter) :
    (s.setExtract e f).binding = s.binding := rfl

@[simp] theorem setExtract_extract_self (s : Idp ι) (e : Extract)
    (f : ExtractBindingAdapter → ExtractBindingAdapter) :
    (s.setExtract e f).extract e = f (s.extract e) := Function.update_self _ _ _

theorem extractSaml20Detail_eq_ok {appId : String}
    (h : extractSaml20Detail o e appId s = .ok details t) :
    o.getAppDetails appId = some details ∧ ∃ keyStore, details.keyStore = some keyStore ∧
      t.binding = s.binding ∧ (t.extract e).saml20Detail = some details ∧
        (t.extract e).credentialResolver = some keyStore := by
  obtain ⟨found, _, hfirst, h⟩ := bind_eq_ok.mp h
  obtain ⟨hfound, rfl⟩ := orThrow_eq_ok.mp hfirst
  obtain ⟨keyStore, _, hsecond, h⟩ := bind_eq_ok.mp h
  obtain ⟨hkeyStore, rfl⟩ := orThrow_eq_ok.mp hsecond
  obtain ⟨_, _, hset, h⟩ := bind_eq_ok.mp h
  cases hset
  obtain ⟨_, _, hloads, h⟩ := bind_eq_ok.mp h
  obtain ⟨-, rfl⟩ := orError_eq_ok.mp hloads
  cases h
  refine ⟨hfound, keyStore, hkeyStore, ?_, ?_, ?_⟩
  · simp
  · simp
  · simp

/-- The adapter's credential after a resolver was handed to it, whether or not it failed. -/
theorem buildCredentialResolver_final (o : Outcomes) (b : Binding) (keyStore : String)
    (s : Idp ι) :
    ((final (buildCredentialResolver o b (some keyStore)) s).binding b).signingCredential =
      resolved o keyStore (s.binding b).signingCredential := by
  unfold buildCredentialResolver resolved
  rw [orThrow_some_bind]
  cases o.resolveSingle keyStore with
  | error e => rfl
  | ok entry =>
    rw [orError_ok_bind]
    cases entry with
    | none => simp [final, bind_apply, throwIf]
    | some entry => simp [final, bind_apply, throwIf]

/-- What a resolver does not change. -/
theorem leaves_buildCredentialResolver {γ : Type} {g : Idp ι → γ} (b : Binding)
    (resolver : Option String)
    (hg : ∀ s credential, g (s.setBinding b ({ · with signingCredential := credential })) = g s) :
    Leaves g (buildCredentialResolver o b resolver) := by
  apply leaves_bind (leaves_orThrow _ _)
  intro keyStore
  apply leaves_bind (leaves_orError _)
  intro entry
  apply leaves_bind
  · apply leaves_modify
    intro s
    exact hg s _
  · intro _
    exact leaves_throwIf _ _

/-- The adapter takes over the extract adapter, and the credential that its resolver leaves. -/
theorem setExtractBindingAdapter_eq_ok {keyStore : String}
    (h : setExtractBindingAdapter o b e s = .ok () t)
    (hkeyStore : (s.extract e).credentialResolver = some keyStore) :
    t.extract = s.extract ∧ (t.binding b).extractBindingAdapter = some e ∧
      (t.binding b).signingCredential = resolved o keyStore (s.binding b).signingCredential := by
  have hfinal := final_of_ok h
  unfold setExtractBindingAdapter at hfinal
  -- the extract adapter is stored before its resolver is asked
  have hsteps : ∀ f : Idp ι → EStateM JavaException (Idp ι) Unit,
      final (modify (fun s => s.setBinding b ({ · with extractBindingAdapter := some e })) >>=
        fun _ => get >>= f) s =
      final (f (s.setBinding b ({ · with extractBindingAdapter := some e })))
        (s.setBinding b ({ · with extractBindingAdapter := some e })) := by
    intro f
    rfl
  rw [hsteps, final_tryCatch_pure, setBinding_extract, hkeyStore] at hfinal
  have hextract := leaves_buildCredentialResolver (o := o) (g := Idp.extract) b (some keyStore)
    (fun _ _ => rfl) (s.setBinding b ({ · with extractBindingAdapter := some e }))
  have hadapter := leaves_buildCredentialResolver (o := o)
    (g := fun s => (s.binding b).extractBindingAdapter) b (some keyStore) (by simp)
    (s.setBinding b ({ · with extractBindingAdapter := some e }))
  have hcredential := buildCredentialResolver_final o b keyStore
    (s.setBinding b ({ · with extractBindingAdapter := some e }))
  rw [hfinal] at hextract hadapter hcredential
  refine ⟨hextract, ?_, ?_⟩
  · simpa using hadapter
  · simpa using hcredential

/-- What a sign-on leaves for the assertion: the application that it names, and the credential
that its resolver leaves. -/
structure SignedOn (o : Outcomes) (r : SignOn ι) (s t : Idp ι) (details : AppsSAML20Details)
    (keyStore binding : String) : Prop where
  getAppDetails : o.getAppDetails r.appId = some details
  getKeyStore : details.keyStore = some keyStore
  getBinding : details.binding = some binding
  samlv20Adapter : t.samlv20Adapter r.session = some (bindingOf binding)
  extractBindingAdapter : (t.binding (bindingOf binding)).extractBindingAdapter = some r.extract
  saml20Detail : (t.extract r.extract).saml20Detail = some details
  signingCredential : (t.binding (bindingOf binding)).signingCredential =
    resolved o keyStore (s.binding (bindingOf binding)).signingCredential

theorem signOn_eq_ok [DecidableEq ι] {r : SignOn ι} (h : signOn o r s = .ok () t) :
    ∃ details keyStore binding, SignedOn o r s t details keyStore binding := by
  obtain ⟨details, u, hextract, h⟩ := bind_eq_ok.mp h
  obtain ⟨hdetails, keyStore, hkeyStore, hbindings, hdetail, hresolver⟩ :=
    extractSaml20Detail_eq_ok hextract
  obtain ⟨info, _, hinfo, h⟩ := bind_eq_ok.mp h
  obtain ⟨-, rfl⟩ := orError_eq_ok.mp hinfo
  obtain ⟨binding, _, hfirst, h⟩ := bind_eq_ok.mp h
  obtain ⟨hbinding, rfl⟩ := orThrow_eq_ok.mp hfirst
  obtain ⟨_, _, hset, h⟩ := bind_eq_ok.mp h
  cases hset
  obtain ⟨_, v, hadapter, h⟩ := bind_eq_ok.mp h
  obtain ⟨hsame, htaken, hcredential⟩ := setExtractBindingAdapter_eq_ok hadapter
    (by simpa using hresolver)
  obtain ⟨_, _, hrelay, h⟩ := bind_eq_ok.mp h
  cases hrelay
  cases h
  -- a relay state is handed on or not, which none of the facts is about
  refine ⟨details, keyStore, binding, hdetails, hkeyStore, hbinding, ?_, ?_, ?_, ?_⟩
  · exact Function.update_self _ _ _
  · cases r.handedOn with
    | none => exact htaken
    | some relayState => simpa using htaken
  · have hdetail' : (v.extract r.extract).saml20Detail = some details := by
      rw [hsame]
      exact hdetail
    cases r.handedOn with
    | none => exact hdetail'
    | some relayState => exact hdetail'
  · have hcredential' : (v.binding (bindingOf binding)).signingCredential =
        resolved o keyStore (s.binding (bindingOf binding)).signingCredential := by
      rw [hcredential, setBinding_binding_self, hbindings]
    cases r.handedOn with
    | none => exact hcredential'
    | some relayState => simpa using hcredential'

end SignOns

section Requests

variable [DecidableEq ι] {o} {r : Request ι} {s t : Idp ι} {message : Message}

/-- The credentials of service providers that the adapters hold. -/
def spCredentials (s : Idp ι) (b : Binding) : Option Credential :=
  (s.binding b).spSigningCredential

omit [DecidableEq ι] in
theorem spCredentials_setBinding {b : Binding} {f : BindingAdapter → BindingAdapter}
    (hf : ∀ adapter, (f adapter).spSigningCredential = adapter.spSigningCredential) (s : Idp ι) :
    spCredentials (s.setBinding b f) = spCredentials s := by
  funext b'
  unfold spCredentials Idp.setBinding
  by_cases hb : b' = b
  · simp only [hb, Function.update_self, hf]
  · simp only [Function.update_of_ne hb]

omit [DecidableEq ι] in
theorem leaves_extractSaml20Detail (o : Outcomes) (e : Extract) (appId : String) :
    Leaves (spCredentials (ι := ι)) (extractSaml20Detail o e appId) := by
  apply leaves_bind (leaves_orThrow _ _)
  intro details
  apply leaves_bind (leaves_orThrow _ _)
  intro keyStore
  apply leaves_bind
  · apply leaves_modify
    exact fun _ => rfl
  intro _
  apply leaves_bind (leaves_orError _)
  intro _
  apply leaves_bind
  · apply leaves_modify
    exact fun _ => rfl
  intro _
  exact leaves_pure _

omit [DecidableEq ι] in
theorem leaves_setExtractBindingAdapter (o : Outcomes) (b : Binding) (e : Extract) :
    Leaves (spCredentials (ι := ι)) (setExtractBindingAdapter o b e) := by
  apply leaves_bind
  · apply leaves_modify
    apply spCredentials_setBinding
    exact fun _ => rfl
  intro _
  apply leaves_bind leaves_get
  intro s
  apply leaves_tryCatch
  · apply leaves_buildCredentialResolver
    intro s credential
    apply spCredentials_setBinding
    exact fun _ => rfl
  · intro e
    exact leaves_pure _

theorem leaves_signOn (o : Outcomes) (r : SignOn ι) : Leaves spCredentials (signOn o r) := by
  apply leaves_bind (leaves_extractSaml20Detail o r.extract r.appId)
  intro details
  apply leaves_bind (leaves_orError _)
  intro info
  apply leaves_bind (leaves_orThrow _ _)
  intro binding
  apply leaves_bind
  · apply leaves_modify
    apply spCredentials_setBinding
    exact fun _ => rfl
  intro _
  apply leaves_bind (leaves_setExtractBindingAdapter o _ _)
  intro _
  apply leaves_bind
  · apply leaves_modify
    intro s
    cases r.handedOn with
    | none => rfl
    | some relayState =>
      apply spCredentials_setBinding
      exact fun _ => rfl
  intro _
  apply leaves_modify
  exact fun _ => rfl

omit [DecidableEq ι] in
theorem leaves_assertion (o : Outcomes) (i : ι) : Leaves kept (assertion o i) := by
  apply leaves_bind leaves_get
  intro s
  apply leaves_bind (leaves_orThrow _ _)
  intro b
  apply leaves_bind (leaves_orThrow _ _)
  intro e
  apply leaves_bind (leaves_orThrow _ _)
  intro details
  apply leaves_bind (leaves_orThrow _ _)
  intro info
  apply leaves_bind
  · apply leaves_bind (leaves_orThrow _ _)
    intro validInSeconds
    apply leaves_bind (leaves_generateAssertion _ _ _ _ _)
    intro made
    apply leaves_bind leaves_get
    intro u
    apply leaves_ite
    · cases o.encrypt (u.binding b).spSigningCredential with
      | ok _ => exact leaves_pure _
      | error e => exact leaves_pure _
    · exact leaves_pure _
  · intro response
    apply leaves_bind (leaves_orError _)
    intro _
    exact leaves_pure _

theorem leaves_signOns (o : Outcomes) (r : Request ι) :
    Leaves spCredentials ((signOnOf r).forM (signOn o)) := by
  cases signOnOf r with
  | none => exact leaves_pure _
  | some signOn => exact leaves_signOn o signOn

theorem leaves_handle (o : Outcomes) (r : Request ι) : Leaves spCredentials (handle o r) := by
  apply leaves_bind (leaves_signOns o r)
  · intro _ s
    have hkept := leaves_assertion o (sessionOf r) s
    have hbinding : (final (assertion o (sessionOf r)) s).binding = s.binding :=
      congrArg Prod.snd hkept
    funext b
    rw [spCredentials, hbinding]
    rfl

/-- No request sets the credential of a service provider. -/
theorem spCredentials_exec (requests : List (Outcomes × Request ι)) :
    spCredentials (exec step {} requests) = fun _ => none := by
  apply exec_induction (I := fun s : Idp ι => spCredentials s = fun _ => none)
  · intro s request hs
    exact (leaves_handle request.1 request.2 s).trans hs
  · rfl

omit [DecidableEq ι] in
theorem sessionOf_of_signOnOf {signOn : SignOn ι} (h : signOnOf r = some signOn) :
    sessionOf r = signOn.session := by
  cases r with
  | assertion i => cases h
  | _ =>
    cases h
    rfl

/-- The application and the credential that the assertion endpoint finds are those of the request,
in the state before it. -/
theorem found_of_signOns {b : Binding} {e : Extract} {details : AppsSAML20Details} {w : Unit}
    (h : (signOnOf r).forM (signOn o) s = .ok w t) (hb : t.samlv20Adapter (sessionOf r) = some b)
    (he : (t.binding b).extractBindingAdapter = some e)
    (hdetails : (t.extract e).saml20Detail = some details) :
    applicationOf o r s = some details ∧ credentialOf o r s = (t.binding b).signingCredential := by
  unfold applicationOf credentialOf
  cases hr : signOnOf r with
  | none =>
    rw [hr] at h
    cases h
    simp [hb, he, hdetails]
  | some signOn =>
    rw [hr] at h
    obtain ⟨details', keyStore, binding, hsigned⟩ := signOn_eq_ok h
    -- the sign-on has stored its own adapters in the session
    rw [sessionOf_of_signOnOf hr, hsigned.samlv20Adapter] at hb
    cases hb
    rw [hsigned.extractBindingAdapter] at he
    cases he
    rw [hsigned.saml20Detail] at hdetails
    cases hdetails
    simp [hsigned.getAppDetails, hsigned.getKeyStore, hsigned.getBinding,
      hsigned.signingCredential]

/-- The response to a request, by the state that the request finds. -/
theorem proper_iff (hsp : spCredentials s = fun _ => none) (h : handle o r s = .ok message t) :
    (∃ details ∈ applicationOf o r s, Proper details message.response) ↔ Sound o r s := by
  obtain ⟨_, u, hsignOn, h⟩ := bind_eq_ok.mp h
  obtain ⟨b, e, details, info, v, hb, he, hdetails, hresponse⟩ := assertion_eq_ok h
  have hnone : (u.binding b).spSigningCredential = none := by
    have hleft := leaves_signOns o r s
    rw [final_of_ok hsignOn] at hleft
    exact congrFun (hleft.trans hsp) b
  have hproper := proper_generateAuthnResponse hresponse hnone
  have hfound := found_of_signOns hsignOn hb he hdetails
  constructor
  · intro hanswer
    obtain ⟨details', hdetails', hresponse'⟩ := hanswer
    rw [hfound.1] at hdetails'
    cases hdetails'
    obtain ⟨hplain, hsigns⟩ := hproper.mp hresponse'
    refine ⟨?_, ?_⟩
    · intro details' hdetails'
      rw [hfound.1] at hdetails'
      cases hdetails'
      exact hplain
    · intro details' hdetails'
      rw [hfound.1] at hdetails'
      cases hdetails'
      rw [hfound.2]
      exact hsigns
  · intro hsound
    have hsigns := hsound.signs details hfound.1
    rw [hfound.2] at hsigns
    exact ⟨details, hfound.1, hproper.mpr ⟨hsound.plain details hfound.1, hsigns⟩⟩

/-- Along every run, whatever failed before, the response to a request is proper exactly if its
application asks for no encryption and nothing fails that signing takes. -/
theorem proper_response_iff (requests : List (Outcomes × Request ι))
    (h : handle o r (exec step {} requests) = .ok message t) :
    (∃ details ∈ applicationOf o r (exec step {} requests), Proper details message.response) ↔
      Sound o r (exec step {} requests) := by
  apply proper_iff _ h
  exact spCredentials_exec requests

end Requests

def wiki : AppsSAML20Details where
  keyStore := some "wiki.jks"
  spAcsUrl := some "https://wiki/acs"
  audience := some "wiki"
  binding := some "Redirect-Post"

def mail : AppsSAML20Details where
  keyStore := some "mail.jks"
  spAcsUrl := some "https://mail/acs"
  audience := some "mail"
  binding := some "Redirect-Post"

/-- A request in which nothing fails. -/
def working : Outcomes where
  getAppDetails id := if id = "wiki" then some wiki else if id = "mail" then some mail else none
  loads _ := .ok ()
  extractSAMLMessage _ _ := .ok { authnRequestID := some "request" }
  resolveSingle _ := .ok (some "idp")
  statements _ := .ok ⟨"user", []⟩
  generateKeyInfo c := .ok c.entry
  marshall := .ok ()
  signObject := .ok "value"
  encrypt credential :=
    if credential = none then .error (.illegalArgument "Key encryption credential may not be null")
    else .ok ()
  encrypt_none := by simp
  encode := .ok ()

/-- A request in which the key store's entry cannot be read. -/
def unreadable : Outcomes :=
  { working with resolveSingle := fun _ => .error (.exception "Could not retrieve entry") }

theorem proper_wiki : ∃ message t,
    handle working (.authorizeRedirect () "wiki" "saml" none) (exec step {} []) =
        .ok message t ∧
      ∃ details ∈ applicationOf working (.authorizeRedirect () "wiki" "saml" none)
          (exec step {} []), Proper details message.response := by
  refine ⟨_, _, rfl, ?_⟩
  refine (proper_response_iff [] rfl).mpr ⟨?_, ?_⟩
  · intro details hdetails
    cases hdetails
    rfl
  · intro details hdetails
    cases hdetails
    refine ⟨⟨⟨"wiki.jks", "idp"⟩, ?_, rfl, "idp", rfl⟩, ?_, ?_, rfl, "value", rfl⟩
    · decide
    · decide
    · decide

/-- After a sign-on to the first application the second one's assertion is signed with the first
one's credential. -/
theorem mail_not_proper : ∃ message t,
    handle unreadable (.authorizeRedirect () "mail" "saml" none)
        (exec step {} [(working, .authorizeRedirect () "wiki" "saml" none)]) = .ok message t ∧
      ¬∃ details ∈ applicationOf unreadable (.authorizeRedirect () "mail" "saml" none)
          (exec step {} [(working, .authorizeRedirect () "wiki" "saml" none)]),
        Proper details message.response := by
  refine ⟨_, _, rfl, ?_⟩
  intro hanswer
  obtain ⟨details, hdetails, hproper⟩ := hanswer
  cases hdetails
  obtain ⟨assertion, hsigned, hone, -⟩ := hproper.signed
  obtain ⟨signature, hsignature, -, hstore⟩ := hsigned
  cases hone
  cases hsignature
  exact absurd hstore (by decide)

end MaxKey.Saml20.Responses
