import MaxKey.Saml20

namespace MaxKey.Saml20
open Interleaving

variable {ι : Type} [DecidableEq ι]

/-- The algorithm that a setting names. The code's table has two names wrong. -/
def namedAlgorithm (setting : String) : Option SignatureAlgorithm :=
  if JavaText.equalsIgnoreCase setting "DSAwithSHA1" then some .dsaSha1
  else if JavaText.equalsIgnoreCase setting "ECDSAwithSHA1" then some .ecdsaSha1
  else signatureAlgorithm setting

/-- The signature has the algorithms that the application's settings name. A digest that is not
known names none. -/
def SignedFor (details : AppsSAML20Details) (signature : Signature) : Prop :=
  (∃ setting ∈ details.signature, signature.signatureAlgorithm = namedAlgorithm setting) ∧
    ∃ setting ∈ details.digestMethod, ∀ m ∈ digestMethod setting, signature.digestMethod = m

/-- The response and its assertion are for the request of this id at this application. -/
structure RespondsTo (details : AppsSAML20Details) (requestId : Option String)
    (response : Response) : Prop where
  inResponseTo : response.inResponseTo = requestId
  destination : response.destination = details.spAcsUrl
  assertion : ∀ assertion ∈ response.assertion, assertion.inResponseTo = requestId ∧
    assertion.recipient = details.spAcsUrl ∧ assertion.audience = details.audience ∧
      ∀ signature ∈ assertion.signature, SignedFor details signature

/-- The message answers a request: it goes to the application that the request named, responds
to its id, and carries its relay state. -/
def Answers (sys : System) (a : Accepted) (message : Message) : Prop :=
  (∃ details, sys.getAppDetails a.appId = some details ∧
    RespondsTo details a.requestId message.response ∧ message.location = details.spAcsUrl) ∧
    message.relayState = a.relayState

/-- What a request sends with its next step. -/
def sends (t : Thread ι) (s : Shared ι) : Option (ι × Message) :=
  match t with
  | .sendSAMLMessage i _ response location b =>
    some (i, ⟨response, location, (s.binding b).relayState.value⟩)
  | _ => none

/-- What a session is sent answers its latest request. -/
def Proper (sys : System) (c : Config (Shared ι) (Thread ι)) : Move (Request ι) → Prop
  | .start _ => True
  | .advance k => ∀ t ∈ c.threads[k]?, ∀ sent ∈ sends t c.shared,
      ∃ a ∈ c.shared.latest sent.1, Answers sys a sent.2

/-- The fields that an answer is made of were written last by the session's latest request,
which stays the same until the answer is sent: the details, the request info and the relay
state, for which a request that carries none must find that none was ever set. The digest method
is the one that this answer has set, and the setting of the signature is in the table. -/
def Own (k : ℕ) : Thread ι → Shared ι → Prop
  | .getSaml20Detail i e, s =>
    ∃ a ∈ s.latest i, (s.extract e).saml20Detail.writer = some a.number
  | .getAuthnRequestInfo i asked _ b, s =>
    s.latest i = asked ∧ ∃ a ∈ asked, (s.binding b).authnRequestInfo.writer = some a.number
  | .setSignature _ _ _ _ _ _ signature digest, s =>
    signatureAlgorithm signature = namedAlgorithm signature ∧
      (digestMethod digest ≠ none → s.signatureReferenceDigestMethod.writer = some k)
  | .sendSAMLMessage i asked _ _ b, s =>
    s.latest i = asked ∧ ∃ a ∈ asked, (s.binding b).relayState.writer = some a.number ∨
      a.relayState = none ∧ (s.binding b).relayState.value = none
  | _, _ => True

instance (k : ℕ) (t : Thread ι) (s : Shared ι) : Decidable (Own k t s) :=
  match t with
  | .getSaml20Detail _ _ => inferInstanceAs (Decidable (∃ _ ∈ _, _ = _))
  | .getAuthnRequestInfo _ _ _ _ => inferInstanceAs (Decidable (_ = _ ∧ ∃ _ ∈ _, _ = _))
  | .setSignature .. => inferInstanceAs (Decidable (_ = _ ∧ (_ ≠ _ → _ = _)))
  | .sendSAMLMessage .. => inferInstanceAs (Decidable (_ = _ ∧ ∃ _ ∈ _, _ = _ ∨ _ = _ ∧ _ = _))
  | .setSaml20Detail .. | .setCredentialResolver .. | .setSecurityPolicyResolver ..
  | .extractSAMLMessage .. | .getBinding .. | .setBindingAdapter .. | .getBindingAdapter ..
  | .call .. | .getCredentialResolver .. | .buildCredentialResolver .. | .getAttribute ..
  | .getSaml20Details .. | .getExtractBindingAdapter .. | .getAdapterOfInfo ..
  | .getAdapterToSign .. | .getSigningCredential .. | .setSignatureReferenceDigestMethod ..
  | .getAdapterToSend .. | .sent .. | .finished => isTrue trivial

section Outline

variable {sys : System} {k n : ℕ} {s s' : Shared ι}

/-- What the fields say about the latest requests, among the first `n` threads: a field that a
latest request wrote last holds what that request brought. -/
structure Recorded (sys : System) (n : ℕ) (s : Shared ι) : Prop where
  latest_lt : ∀ i a, s.latest i = some a → a.number < n
  saml20Detail_lt : ∀ e w, (s.extract e).saml20Detail.writer = some w → w < n
  authnRequestInfo_lt : ∀ b w, (s.binding b).authnRequestInfo.writer = some w → w < n
  relayState_lt : ∀ b w, (s.binding b).relayState.writer = some w → w < n
  saml20Detail : ∀ i a, s.latest i = some a → ∀ e,
    (s.extract e).saml20Detail.writer = some a.number →
      (s.extract e).saml20Detail.value = sys.getAppDetails a.appId
  authnRequestInfo : ∀ i a, s.latest i = some a → ∀ b,
    (s.binding b).authnRequestInfo.writer = some a.number →
      (s.binding b).authnRequestInfo.value.map AuthnRequestInfo.authnRequestID = some a.requestId
  relayState : ∀ i a, s.latest i = some a → ∀ b,
    (s.binding b).relayState.writer = some a.number →
      (s.binding b).relayState.value = a.relayState

/-- A sign-on that is not accepted yet: of the fields it may have written the details only, with
those of its application. -/
structure Unaccepted (sys : System) (k : ℕ) (r : SignOn ι) (s : Shared ι) : Prop where
  latest : ∀ i a, s.latest i = some a → a.number ≠ k
  saml20Detail : ∀ e, (s.extract e).saml20Detail.writer = some k →
    (s.extract e).saml20Detail.value = sys.getAppDetails r.appId
  authnRequestInfo : ∀ b, (s.binding b).authnRequestInfo.writer ≠ some k
  relayState : ∀ b, (s.binding b).relayState.writer ≠ some k

/-- An accepted sign-on, if it is still its session's latest, is recorded as it is. -/
def AcceptedAs (k : ℕ) (r : SignOn ι) (info : AuthnRequestInfo) (s : Shared ι) : Prop :=
  ∀ i a, s.latest i = some a → a.number = k →
    a.appId = r.appId ∧ a.requestId = info.authnRequestID ∧ a.relayState = r.relayState

/-- The details are those of the application that the request named. -/
def DetailsOf (sys : System) (asked : Option Accepted) (details : AppsSAML20Details) : Prop :=
  ∀ a ∈ asked, sys.getAppDetails a.appId = some details

def InfoOf (asked : Option Accepted) (info : AuthnRequestInfo) : Prop :=
  ∀ a ∈ asked, info.authnRequestID = a.requestId

/-- What holds of a request where it stands, whatever the others do. -/
def Here (sys : System) (k : ℕ) : Thread ι → Shared ι → Prop
  | .setSaml20Detail r, s | .setCredentialResolver r _ _, s | .setSecurityPolicyResolver r _ _, s
  | .extractSAMLMessage r _, s => Unaccepted sys k r s
  | .getBinding r info, s | .setBindingAdapter r info _, s | .getCredentialResolver r info _, s
  | .buildCredentialResolver r info _ _, s => AcceptedAs k r info s
  | .getBindingAdapter r info setter, s | .call r info setter _, s =>
    AcceptedAs k r info s ∧ (setter = .relayState → r.handedOn = r.relayState)
  | .getAdapterOfInfo _ asked details, _ | .getAuthnRequestInfo _ asked details _, _ =>
    DetailsOf sys asked details
  | .getAdapterToSign _ asked details info, _
  | .getSigningCredential _ asked details info _ _, _ =>
    DetailsOf sys asked details ∧ InfoOf asked info
  | .setSignatureReferenceDigestMethod _ asked details info _ _ signature, _ =>
    DetailsOf sys asked details ∧ InfoOf asked info ∧ details.signature = some signature
  | .setSignature _ asked details info _ _ signature digest, s =>
    DetailsOf sys asked details ∧ InfoOf asked info ∧ details.signature = some signature ∧
      details.digestMethod = some digest ∧ ∀ m ∈ digestMethod digest,
        s.signatureReferenceDigestMethod.writer = some k →
          s.signatureReferenceDigestMethod.value = m
  | .getAdapterToSend _ asked response location, _
  | .sendSAMLMessage _ asked response location _, _ =>
    ∀ a ∈ asked, ∃ details, sys.getAppDetails a.appId = some details ∧
      RespondsTo details a.requestId response ∧ location = details.spAcsUrl
  | .getAttribute _, _ | .getSaml20Details _, _ | .getExtractBindingAdapter _ _, _
  | .getSaml20Detail _ _, _ | .sent _ _, _ | .finished, _ => True

/-- All that the thread with the number `k` may change of what the assertions speak about. -/
structure Writes (k : ℕ) (s s' : Shared ι) : Prop where
  saml20Detail : ∀ e, (s.extract e).saml20Detail.Touched k (s'.extract e).saml20Detail
  authnRequestInfo : ∀ b, (s.binding b).authnRequestInfo.Touched k (s'.binding b).authnRequestInfo
  relayState : ∀ b, (s.binding b).relayState.Touched k (s'.binding b).relayState
  digestMethod : s.signatureReferenceDigestMethod.Touched k s'.signatureReferenceDigestMethod
  latest : ∀ i, s'.latest i = s.latest i ∨ ∃ a, s'.latest i = some a ∧ a.number = k

omit [DecidableEq ι] in
/-- A step that leaves these fields alone. -/
theorem writes_of_same (hextract : s'.extract = s.extract) (hbinding : s'.binding = s.binding)
    (hdigest : s'.signatureReferenceDigestMethod = s.signatureReferenceDigestMethod)
    (hlatest : s'.latest = s.latest) : Writes k s s' := by
  refine ⟨?_, ?_, ?_, ?_, ?_⟩
  · intro e
    rw [hextract]
    exact Cell.touched_refl k _
  · intro b
    rw [hbinding]
    exact Cell.touched_refl k _
  · intro b
    rw [hbinding]
    exact Cell.touched_refl k _
  · rw [hdigest]
    exact Cell.touched_refl k _
  · intro i
    exact .inl (congrFun hlatest i)

omit [DecidableEq ι] in
theorem writes_refl (k : ℕ) (s : Shared ι) : Writes k s s := writes_of_same rfl rfl rfl rfl

omit [DecidableEq ι] in
theorem writes_setExtract (e : Extract) (f : ExtractBindingAdapter → ExtractBindingAdapter)
    (hf : ∀ x : ExtractBindingAdapter, x.saml20Detail.Touched k (f x).saml20Detail) :
    Writes k s (s.setExtract e f) := by
  refine { writes_refl k s with saml20Detail := fun e' => ?_ }
  by_cases he : e' = e
  · rw [he]
    simpa only [Shared.setExtract, Function.update_self] using hf (s.extract e)
  · simp only [Shared.setExtract, Function.update_of_ne he]
    exact Cell.touched_refl k _

omit [DecidableEq ι] in
theorem writes_setBinding (b : Binding) (f : BindingAdapter → BindingAdapter)
    (hinfo : ∀ x : BindingAdapter, x.authnRequestInfo.Touched k (f x).authnRequestInfo)
    (hrelay : ∀ x : BindingAdapter, x.relayState.Touched k (f x).relayState) :
    Writes k s (s.setBinding b f) := by
  refine { writes_refl k s with authnRequestInfo := fun b' => ?_, relayState := fun b' => ?_ }
  · by_cases hb : b' = b
    · rw [hb]
      simpa only [Shared.setBinding, Function.update_self] using hinfo (s.binding b)
    · simp only [Shared.setBinding, Function.update_of_ne hb]
      exact Cell.touched_refl k _
  · by_cases hb : b' = b
    · rw [hb]
      simpa only [Shared.setBinding, Function.update_self] using hrelay (s.binding b)
    · simp only [Shared.setBinding, Function.update_of_ne hb]
      exact Cell.touched_refl k _

theorem latest_accept (s : Shared ι) (k : ℕ) (r : SignOn ι) (requestId : Option String) (i : ι) :
    (s.accept k r requestId).latest i = s.latest i ∨
      (s.accept k r requestId).latest i = some ⟨k, r.appId, requestId, r.relayState⟩ := by
  by_cases hi : i = r.session
  · rw [hi]
    exact .inr (Function.update_self _ _ _)
  · exact .inl (Function.update_of_ne hi _ _)

theorem Writes.accept (h : Writes k s s') (r : SignOn ι) (requestId : Option String) :
    Writes k s (s'.accept k r requestId) := by
  refine { h with latest := fun i => ?_ }
  rcases latest_accept s' k r requestId i with hsame | hnew
  · rw [hsame]
    exact h.latest i
  · exact .inr ⟨_, hnew, rfl⟩

theorem writes_next (sys : System) (k : ℕ) (t : Thread ι) (s : Shared ι) :
    Writes k s (next sys k t s).2 := by
  cases t with
  | setSaml20Detail r =>
    dsimp only [next, setSaml20Detail]
    split
    · exact writes_refl k s
    · split
      · exact writes_refl k s
      · dsimp only
        apply writes_setExtract
        intro x
        exact Cell.touched_write k _ _
  | setCredentialResolver r details keyStore =>
    dsimp only [next]
    apply writes_setExtract
    intro x
    exact Cell.touched_refl k _
  | setSecurityPolicyResolver r details keyStore =>
    have hpolicy : Writes k s (s.setExtract r.extract
        ({ · with securityPolicyResolver := some keyStore })) := by
      apply writes_setExtract
      intro x
      exact Cell.touched_refl k _
    dsimp only [next, setSecurityPolicyResolver]
    split
    · exact hpolicy
    · exact hpolicy.accept r none
  | extractSAMLMessage r samlRequest =>
    dsimp only [next, extractSAMLMessage]
    split
    · exact writes_refl k s
    · exact (writes_refl k s).accept r _
  | call r info setter b =>
    dsimp only [next]
    cases setter with
    | authnRequestInfo =>
      dsimp only [call]
      apply writes_setBinding
      · exact fun x => Cell.touched_write k _ _
      · exact fun x => Cell.touched_refl k _
    | extractBindingAdapter =>
      dsimp only [call]
      apply writes_setBinding
      · exact fun x => Cell.touched_refl k _
      · exact fun x => Cell.touched_refl k _
    | relayState =>
      dsimp only [call]
      apply writes_setBinding
      · exact fun x => Cell.touched_refl k _
      · exact fun x => Cell.touched_write k _ _
    | sessionAttribute => exact writes_of_same rfl rfl rfl rfl
  | buildCredentialResolver r info b resolver =>
    dsimp only [next, buildCredentialResolver]
    split
    · exact writes_refl k s
    · apply writes_setBinding
      · exact fun x => Cell.touched_refl k _
      · exact fun x => Cell.touched_refl k _
  | setSignatureReferenceDigestMethod i asked details info validInSeconds credential signature =>
    dsimp only [next, setSignatureReferenceDigestMethod]
    split
    · exact writes_refl k s
    · dsimp only
      split
      · exact writes_refl k s
      · exact { writes_refl k s with digestMethod := Cell.touched_write k _ _ }
  | setBindingAdapter r info b => exact writes_of_same rfl rfl rfl rfl
  | getAttribute i => exact writes_of_same rfl rfl rfl rfl
  | getBinding | getBindingAdapter | getCredentialResolver | getSaml20Details
  | getExtractBindingAdapter | getSaml20Detail | getAdapterOfInfo | getAuthnRequestInfo
  | getAdapterToSign | getSigningCredential | setSignature | getAdapterToSend | sendSAMLMessage
  | sent | finished => exact writes_refl k s

omit [DecidableEq ι] in
/-- What one thread writes does not touch what holds of another. -/
theorem here_of_writes {j : ℕ} (hj : j ≠ k) (h : Writes k s s') {u : Thread ι}
    (hu : Here sys j u s) : Here sys j u s' := by
  have hlatest : ∀ i a, s'.latest i = some a → a.number = j → s.latest i = some a := by
    intro i a ha hnumber
    rcases h.latest i with hsame | ⟨a', ha', hk⟩
    · rw [← hsame]
      exact ha
    · rw [ha'] at ha
      rw [Option.some.inj ha] at hk
      exact absurd (hnumber.symm.trans hk) hj
  have hunaccepted : ∀ {r : SignOn ι}, Unaccepted sys j r s → Unaccepted sys j r s' := by
    intro r hr
    refine ⟨fun i a ha hnumber => ?_, fun e => ?_, fun b => ?_, fun b => ?_⟩
    · exact hr.latest i a (hlatest i a ha hnumber) hnumber
    · exact (h.saml20Detail e).value (P := fun value => value = _) hj (hr.saml20Detail e)
    · exact (h.authnRequestInfo b).writer_ne hj (hr.authnRequestInfo b)
    · exact (h.relayState b).writer_ne hj (hr.relayState b)
  have haccepted : ∀ {r : SignOn ι} {info}, AcceptedAs j r info s → AcceptedAs j r info s' := by
    intro r info hr i a ha hnumber
    exact hr i a (hlatest i a ha hnumber) hnumber
  cases u with
  | setSaml20Detail | setCredentialResolver | setSecurityPolicyResolver | extractSAMLMessage =>
    exact hunaccepted hu
  | getBinding | setBindingAdapter | getCredentialResolver | buildCredentialResolver =>
    exact haccepted hu
  | getBindingAdapter | call => exact ⟨haccepted hu.1, hu.2⟩
  | setSignature i asked details info validInSeconds credential signature digest =>
    refine ⟨hu.1, hu.2.1, hu.2.2.1, hu.2.2.2.1, fun m hm => ?_⟩
    exact h.digestMethod.value (P := fun value => value = m) hj (hu.2.2.2.2 m hm)
  | getAdapterOfInfo | getAuthnRequestInfo | getAdapterToSign | getSigningCredential
  | setSignatureReferenceDigestMethod | getAdapterToSend | sendSAMLMessage => exact hu
  | getAttribute | getSaml20Details | getExtractBindingAdapter | getSaml20Detail | sent
  | finished => trivial

omit [DecidableEq ι] in
theorem Recorded.congr (h : Recorded sys n s)
    (hdetail : ∀ e, (s'.extract e).saml20Detail = (s.extract e).saml20Detail)
    (hinfo : ∀ b, (s'.binding b).authnRequestInfo = (s.binding b).authnRequestInfo)
    (hrelay : ∀ b, (s'.binding b).relayState = (s.binding b).relayState)
    (hlatest : s'.latest = s.latest) : Recorded sys n s' where
  latest_lt := by simpa only [hlatest] using h.latest_lt
  saml20Detail_lt := by simpa only [hdetail] using h.saml20Detail_lt
  authnRequestInfo_lt := by simpa only [hinfo] using h.authnRequestInfo_lt
  relayState_lt := by simpa only [hrelay] using h.relayState_lt
  saml20Detail := by simpa only [hlatest, hdetail] using h.saml20Detail
  authnRequestInfo := by simpa only [hlatest, hinfo] using h.authnRequestInfo
  relayState := by simpa only [hlatest, hrelay] using h.relayState

omit [DecidableEq ι] in
theorem saml20Detail_setExtract (e e' : Extract) (f : ExtractBindingAdapter → ExtractBindingAdapter)
    (hf : ∀ x, (f x).saml20Detail = x.saml20Detail) :
    ((s.setExtract e f).extract e').saml20Detail = (s.extract e').saml20Detail := by
  by_cases he : e' = e
  · rw [he]
    simp only [Shared.setExtract, Function.update_self, hf]
  · simp only [Shared.setExtract, Function.update_of_ne he]

omit [DecidableEq ι] in
/-- A request that is not accepted yet writes its details, which no latest request did. -/
theorem recorded_setSaml20Detail {r : SignOn ι} (hk : k < n) (h : Recorded sys n s)
    (hhere : Unaccepted sys k r s) {details : AppsSAML20Details}
    (hdetails : sys.getAppDetails r.appId = some details) :
    let s' := s.setExtract r.extract ({ · with saml20Detail := .write k (some details) })
    Recorded sys n s' ∧ Unaccepted sys k r s' := by
  intro s'
  have hself : (s'.extract r.extract).saml20Detail = .write k (some details) := by
    simp only [s', Shared.setExtract, Function.update_self]
  have hother : ∀ e, e ≠ r.extract → (s'.extract e).saml20Detail = (s.extract e).saml20Detail := by
    intro e he
    simp only [s', Shared.setExtract, Function.update_of_ne he]
  constructor
  · refine { h with saml20Detail_lt := fun e w hw => ?_, saml20Detail := fun i a ha e hw => ?_ }
    · by_cases he : e = r.extract
      · rw [he, hself] at hw
        rw [← Option.some.inj hw]
        exact hk
      · rw [hother e he] at hw
        exact h.saml20Detail_lt e w hw
    · by_cases he : e = r.extract
      · rw [he, hself] at hw
        exact absurd (Option.some.inj hw).symm (hhere.latest i a ha)
      · rw [hother e he] at hw ⊢
        exact h.saml20Detail i a ha e hw
  · refine { hhere with saml20Detail := fun e hw => ?_ }
    by_cases he : e = r.extract
    · rw [he, hself, hdetails]
      rfl
    · rw [hother e he] at hw ⊢
      exact hhere.saml20Detail e hw

/-- The session's history moves on to a request that has written nothing but its details. -/
theorem recorded_accept {r : SignOn ι} (info : AuthnRequestInfo) (hk : k < n)
    (h : Recorded sys n s) (hhere : Unaccepted sys k r s) :
    Recorded sys n (s.accept k r info.authnRequestID) ∧
      AcceptedAs k r info (s.accept k r info.authnRequestID) := by
  have hcases := latest_accept s k r info.authnRequestID
  constructor
  · refine { h with latest_lt := ?_, saml20Detail := ?_, authnRequestInfo := ?_, relayState := ?_ }
    · intro i a ha
      rcases hcases i with hsame | hnew
      · exact h.latest_lt i a (hsame.symm.trans ha)
      · rw [← Option.some.inj (hnew.symm.trans ha)]
        exact hk
    · intro i a ha e hw
      rcases hcases i with hsame | hnew
      · exact h.saml20Detail i a (hsame.symm.trans ha) e hw
      · rw [← Option.some.inj (hnew.symm.trans ha)] at hw ⊢
        exact hhere.saml20Detail e hw
    · intro i a ha b hw
      rcases hcases i with hsame | hnew
      · exact h.authnRequestInfo i a (hsame.symm.trans ha) b hw
      · rw [← Option.some.inj (hnew.symm.trans ha)] at hw
        exact absurd hw (hhere.authnRequestInfo b)
    · intro i a ha b hw
      rcases hcases i with hsame | hnew
      · exact h.relayState i a (hsame.symm.trans ha) b hw
      · rw [← Option.some.inj (hnew.symm.trans ha)] at hw
        exact absurd hw (hhere.relayState b)
  · intro i a ha hnumber
    rcases hcases i with hsame | hnew
    · exact absurd hnumber (hhere.latest i a (hsame.symm.trans ha))
    · rw [← Option.some.inj (hnew.symm.trans ha)]
      exact ⟨rfl, rfl, rfl⟩

omit [DecidableEq ι] in
/-- What an accepted request writes into an adapter is what its history says of it. -/
theorem recorded_setBinding (b : Binding) (f : BindingAdapter → BindingAdapter) (hk : k < n)
    (h : Recorded sys n s)
    (hinfo : (f (s.binding b)).authnRequestInfo = (s.binding b).authnRequestInfo ∨
      (f (s.binding b)).authnRequestInfo.writer = some k ∧
        ∀ i a, s.latest i = some a → a.number = k →
          (f (s.binding b)).authnRequestInfo.value.map AuthnRequestInfo.authnRequestID =
            some a.requestId)
    (hrelay : (f (s.binding b)).relayState = (s.binding b).relayState ∨
      (f (s.binding b)).relayState.writer = some k ∧
        ∀ i a, s.latest i = some a → a.number = k →
          (f (s.binding b)).relayState.value = a.relayState) :
    Recorded sys n (s.setBinding b f) := by
  have hself : (s.setBinding b f).binding b = f (s.binding b) := Function.update_self _ _ _
  have hother : ∀ b', b' ≠ b → (s.setBinding b f).binding b' = s.binding b' :=
    fun b' hb => Function.update_of_ne hb _ _
  refine { h with authnRequestInfo_lt := fun b' w hw => ?_, relayState_lt := fun b' w hw => ?_,
                  authnRequestInfo := fun i a ha b' hw => ?_,
                  relayState := fun i a ha b' hw => ?_ }
  · by_cases hb : b' = b
    · rw [hb, hself] at hw
      rcases hinfo with hsame | ⟨hwritten, -⟩
      · rw [hsame] at hw
        exact h.authnRequestInfo_lt b w hw
      · rw [← Option.some.inj (hwritten.symm.trans hw)]
        exact hk
    · rw [hother b' hb] at hw
      exact h.authnRequestInfo_lt b' w hw
  · by_cases hb : b' = b
    · rw [hb, hself] at hw
      rcases hrelay with hsame | ⟨hwritten, -⟩
      · rw [hsame] at hw
        exact h.relayState_lt b w hw
      · rw [← Option.some.inj (hwritten.symm.trans hw)]
        exact hk
    · rw [hother b' hb] at hw
      exact h.relayState_lt b' w hw
  · by_cases hb : b' = b
    · rw [hb, hself] at hw ⊢
      rcases hinfo with hsame | ⟨hwritten, hvalue⟩
      · rw [hsame] at hw ⊢
        exact h.authnRequestInfo i a ha b hw
      · exact hvalue i a ha (Option.some.inj (hwritten.symm.trans hw)).symm
    · rw [hother b' hb] at hw ⊢
      exact h.authnRequestInfo i a ha b' hw
  · by_cases hb : b' = b
    · rw [hb, hself] at hw ⊢
      rcases hrelay with hsame | ⟨hwritten, hvalue⟩
      · rw [hsame] at hw ⊢
        exact h.relayState i a ha b hw
      · exact hvalue i a ha (Option.some.inj (hwritten.symm.trans hw)).symm
    · rw [hother b' hb] at hw ⊢
      exact h.relayState i a ha b' hw

omit [DecidableEq ι] in
theorem handedOn_eq {r : SignOn ι} (h : r.handedOn ≠ none) : r.handedOn = r.relayState := by
  unfold SignOn.handedOn at h ⊢
  split at h
  · rfl
  · exact absurd rfl h

omit [DecidableEq ι] in
theorem respondsTo_generate {details : AppsSAML20Details} {info : AuthnRequestInfo}
    {requestId : Option String} {signature : Option Signature} (validInSeconds : ℤ)
    (hid : info.authnRequestID = requestId)
    (hsigned : ∀ x ∈ signature, SignedFor details x) :
    RespondsTo details requestId (generateAuthnResponse details info validInSeconds signature) := by
  refine ⟨hid, rfl, fun assertion hassertion => ?_⟩
  unfold generateAuthnResponse at hassertion
  dsimp only at hassertion
  split_ifs at hassertion
  · cases hassertion
  · rw [← Option.some.inj hassertion]
    exact ⟨hid, rfl, rfl, hsigned⟩

omit [DecidableEq ι] in
/-- With the details and the id of the request, whatever is sent responds to it. -/
theorem here_generated {i : ι} {asked : Option Accepted} {details : AppsSAML20Details}
    {info : AuthnRequestInfo} {signature : Option Signature} (validInSeconds : ℤ)
    (hdetails : DetailsOf sys asked details) (hinfo : InfoOf asked info)
    (hsigned : ∀ x ∈ signature, SignedFor details x) :
    Here sys k (.getAdapterToSend i asked
      (generateAuthnResponse details info validInSeconds signature) details.spAcsUrl) s := by
  intro a ha
  exact ⟨details, hdetails a ha, respondsTo_generate validInSeconds (hinfo a ha) hsigned, rfl⟩

omit [DecidableEq ι] in
theorem here_chooseBinding {r : SignOn ι} {info : AuthnRequestInfo} (h : AcceptedAs k r info s)
    (details : Option AppsSAML20Details) : Here sys k (chooseBinding r info details) s := by
  unfold chooseBinding
  split
  · trivial
  · exact h

omit [DecidableEq ι] in
theorem outline_setSaml20Detail (r : SignOn ι) (hk : k < n) (h : Recorded sys n s)
    (hhere : Unaccepted sys k r s) :
    Recorded sys n (setSaml20Detail sys k r s).2 ∧
      Here sys k (setSaml20Detail sys k r s).1 (setSaml20Detail sys k r s).2 := by
  unfold setSaml20Detail
  cases hdetails : sys.getAppDetails r.appId with
  | none => exact ⟨h, trivial⟩
  | some details =>
    dsimp only
    cases details.keyStore with
    | none => exact ⟨h, trivial⟩
    | some keyStore =>
      obtain ⟨hrecorded, hunaccepted⟩ := recorded_setSaml20Detail hk h hhere hdetails
      refine ⟨hrecorded, ?_⟩
      dsimp only
      split_ifs
      · exact hunaccepted
      · trivial

omit [DecidableEq ι] in
theorem Unaccepted.congr {r : SignOn ι} (h : Unaccepted sys k r s)
    (hdetail : ∀ e, (s'.extract e).saml20Detail = (s.extract e).saml20Detail)
    (hbinding : s'.binding = s.binding) (hlatest : s'.latest = s.latest) :
    Unaccepted sys k r s' where
  latest := by simpa only [hlatest] using h.latest
  saml20Detail := by simpa only [hdetail] using h.saml20Detail
  authnRequestInfo := by simpa only [hbinding] using h.authnRequestInfo
  relayState := by simpa only [hbinding] using h.relayState

theorem outline_setSecurityPolicyResolver (r : SignOn ι) (details : AppsSAML20Details)
    (keyStore : String) (hk : k < n) (h : Recorded sys n s) (hhere : Unaccepted sys k r s) :
    Recorded sys n (setSecurityPolicyResolver k r details keyStore s).2 ∧
      Here sys k (setSecurityPolicyResolver k r details keyStore s).1
        (setSecurityPolicyResolver k r details keyStore s).2 := by
  have hdetail := fun e => saml20Detail_setExtract (s := s) r.extract e
    ({ · with securityPolicyResolver := some keyStore }) fun _ => rfl
  have hrecorded := h.congr hdetail (fun _ => rfl) (fun _ => rfl) rfl
  have hunaccepted := hhere.congr hdetail rfl rfl
  unfold setSecurityPolicyResolver
  dsimp only
  split
  · exact ⟨hrecorded, hunaccepted⟩
  · -- an identity provider's request has no id
    obtain ⟨haccept, has⟩ := recorded_accept {} hk hrecorded hunaccepted
    exact ⟨haccept, here_chooseBinding has (some details)⟩

theorem outline_extractSAMLMessage (r : SignOn ι) (samlRequest : String) (hk : k < n)
    (h : Recorded sys n s) (hhere : Unaccepted sys k r s) :
    Recorded sys n (extractSAMLMessage sys k r samlRequest s).2 ∧
      Here sys k (extractSAMLMessage sys k r samlRequest s).1
        (extractSAMLMessage sys k r samlRequest s).2 := by
  unfold extractSAMLMessage
  dsimp only
  split
  · exact ⟨h, trivial⟩
  · exact recorded_accept _ hk h hhere

theorem outline_call (r : SignOn ι) (info : AuthnRequestInfo) (b : Binding) (setter : Setter)
    (hk : k < n) (h : Recorded sys n s) (hhere : Here sys k (.call r info setter b) s) :
    Recorded sys n (call k r info b s setter).2 ∧
      Here sys k (call k r info b s setter).1 (call k r info b s setter).2 := by
  obtain ⟨haccepted, hrelay⟩ := hhere
  cases setter with
  | authnRequestInfo =>
    dsimp only [call]
    constructor
    · refine recorded_setBinding b _ hk h (.inr ⟨rfl, fun i a ha hnumber => ?_⟩) (.inl rfl)
      rw [(haccepted i a ha hnumber).2.1]
      rfl
    · exact ⟨haccepted, fun heq => by cases heq⟩
  | extractBindingAdapter =>
    dsimp only [call]
    constructor
    · exact recorded_setBinding b _ hk h (.inl rfl) (.inl rfl)
    · exact haccepted
  | relayState =>
    dsimp only [call]
    constructor
    · refine recorded_setBinding b _ hk h (.inl rfl) (.inr ⟨rfl, fun i a ha hnumber => ?_⟩)
      rw [(haccepted i a ha hnumber).2.2]
      exact hrelay rfl
    · exact ⟨haccepted, fun heq => by cases heq⟩
  | sessionAttribute => exact ⟨h.congr (fun _ => rfl) (fun _ => rfl) (fun _ => rfl) rfl, trivial⟩

omit [DecidableEq ι] in
theorem outline_buildCredentialResolver (r : SignOn ι) (info : AuthnRequestInfo) (b : Binding)
    (resolver : Option String) (hk : k < n) (h : Recorded sys n s)
    (hhere : AcceptedAs k r info s) :
    Recorded sys n (buildCredentialResolver sys r info b resolver s).2 ∧
      Here sys k (buildCredentialResolver sys r info b resolver s).1
        (buildCredentialResolver sys r info b resolver s).2 := by
  have hsetter : (if r.handedOn = none then Setter.sessionAttribute else .relayState) = .relayState →
      r.handedOn = r.relayState := by
    intro heq
    split_ifs at heq with hnone
    exact handedOn_eq hnone
  unfold buildCredentialResolver
  dsimp only
  split
  · exact ⟨h, hhere, hsetter⟩
  · exact ⟨recorded_setBinding b _ hk h (.inl rfl) (.inl rfl), hhere, hsetter⟩

omit [DecidableEq ι] in
theorem here_getSaml20Detail {i : ι} {e : Extract} (hown : Own k (.getSaml20Detail i e) s)
    (h : Recorded sys n s) {details : AppsSAML20Details}
    (hvalue : (s.extract e).saml20Detail.value = some details) :
    DetailsOf sys (s.latest i) details := by
  obtain ⟨a, ha, hwriter⟩ := hown
  intro a' ha'
  rw [Option.some.inj (Option.mem_def.mp ha' |>.symm.trans ha), ← hvalue]
  exact (h.saml20Detail i a ha e hwriter).symm

omit [DecidableEq ι] in
theorem here_getAuthnRequestInfo {i : ι} {asked : Option Accepted} {details : AppsSAML20Details}
    {b : Binding} (hown : Own k (.getAuthnRequestInfo i asked details b) s)
    (h : Recorded sys n s) {info : AuthnRequestInfo}
    (hvalue : (s.binding b).authnRequestInfo.value = some info) : InfoOf asked info := by
  obtain ⟨hlatest, a, ha, hwriter⟩ := hown
  intro a' ha'
  have hid := h.authnRequestInfo i a (hlatest.trans ha) b hwriter
  rw [hvalue] at hid
  rw [Option.some.inj (Option.mem_def.mp ha' |>.symm.trans ha)]
  exact Option.some.inj hid

/-- One step leads from one assertion to the next. -/
theorem outline_next (t : Thread ι) (hk : k < n) (hown : Own k t s) (h : Recorded sys n s)
    (hhere : Here sys k t s) :
    Recorded sys n (next sys k t s).2 ∧ Here sys k (next sys k t s).1 (next sys k t s).2 := by
  have hsame : ∀ s' : Shared ι, s'.extract = s.extract → s'.binding = s.binding →
      s'.latest = s.latest → Recorded sys n s' := by
    intro s' hextract hbinding hlatest
    exact h.congr (by simp [hextract]) (by simp [hbinding]) (by simp [hbinding]) hlatest
  cases t with
  | setSaml20Detail r => exact outline_setSaml20Detail r hk h hhere
  | setCredentialResolver r details keyStore =>
    have hdetail := fun e => saml20Detail_setExtract (s := s) r.extract e
      ({ · with credentialResolver := some keyStore }) fun _ => rfl
    exact ⟨h.congr hdetail (fun _ => rfl) (fun _ => rfl) rfl,
      Unaccepted.congr hhere hdetail rfl rfl⟩
  | setSecurityPolicyResolver r details keyStore =>
    exact outline_setSecurityPolicyResolver r details keyStore hk h hhere
  | extractSAMLMessage r samlRequest => exact outline_extractSAMLMessage r samlRequest hk h hhere
  | getBinding r info => exact ⟨h, here_chooseBinding hhere _⟩
  | setBindingAdapter r info b =>
    exact ⟨hsame _ rfl rfl rfl, hhere, fun heq => by cases heq⟩
  | getBindingAdapter r info setter =>
    refine ⟨h, ?_⟩
    dsimp only [next]
    split
    · trivial
    · exact hhere
  | call r info setter b => exact outline_call r info b setter hk h hhere
  | getCredentialResolver r info b => exact ⟨h, hhere⟩
  | buildCredentialResolver r info b resolver =>
    exact outline_buildCredentialResolver r info b resolver hk h hhere
  | getAttribute i => exact ⟨hsame _ rfl rfl rfl, trivial⟩
  | getSaml20Details i =>
    refine ⟨h, ?_⟩
    dsimp only [next]
    split
    · trivial
    · trivial
  | getExtractBindingAdapter i b =>
    refine ⟨h, ?_⟩
    dsimp only [next]
    split
    · trivial
    · trivial
  | getSaml20Detail i e =>
    -- the details are the session's own only if its latest request wrote the field last
    refine ⟨h, ?_⟩
    dsimp only [next]
    split
    · trivial
    · rename_i details hvalue
      exact here_getSaml20Detail hown h hvalue
  | getAdapterOfInfo i asked details =>
    refine ⟨h, ?_⟩
    dsimp only [next]
    split
    · trivial
    · exact hhere
  | getAuthnRequestInfo i asked details b =>
    refine ⟨h, ?_⟩
    dsimp only [next]
    split
    · trivial
    · rename_i info hvalue
      exact ⟨hhere, here_getAuthnRequestInfo hown h hvalue⟩
  | getAdapterToSign i asked details info =>
    refine ⟨h, ?_⟩
    dsimp only [next]
    split
    · trivial
    · exact here_generated _ hhere.1 hhere.2 fun x hx => by cases hx
    · exact hhere
  | getSigningCredential i asked details info validInSeconds b =>
    refine ⟨h, ?_⟩
    dsimp only [next, getSigningCredential]
    split
    · rename_i credential signature hcredential hsignature
      exact ⟨hhere.1, hhere.2, hsignature⟩
    · exact here_generated _ hhere.1 hhere.2 fun x hx => by cases hx
  | setSignatureReferenceDigestMethod i asked details info validInSeconds credential signature =>
    obtain ⟨hdetails, hinfo, hsignature⟩ := hhere
    dsimp only [next, setSignatureReferenceDigestMethod]
    split
    · exact ⟨h, here_generated _ hdetails hinfo fun x hx => by cases hx⟩
    · rename_i digest hdigest
      cases hm : digestMethod digest with
      | none =>
        refine ⟨h, hdetails, hinfo, hsignature, hdigest, fun m hmem => ?_⟩
        rw [hm] at hmem
        cases hmem
      | some m =>
        refine ⟨hsame _ rfl rfl rfl, hdetails, hinfo, hsignature, hdigest, fun m' hmem _ => ?_⟩
        rw [hm] at hmem
        exact Option.some.inj hmem
  | setSignature i asked details info validInSeconds credential signature digest =>
    -- the digest method that counts is the one in the shared cell, which this thread has written
    obtain ⟨hdetails, hinfo, hsignature, hdigest, hmethod⟩ := hhere
    refine ⟨h, here_generated _ hdetails hinfo fun x hx => ?_⟩
    rw [← Option.some.inj hx]
    refine ⟨⟨signature, hsignature, hown.1⟩, digest, hdigest, fun m hm => ?_⟩
    have hknown : digestMethod digest ≠ none := by
      rw [Option.mem_def.mp hm]
      exact Option.some_ne_none m
    exact hmethod m hm (hown.2 hknown)
  | getAdapterToSend i asked response location =>
    refine ⟨h, ?_⟩
    dsimp only [next]
    split
    · trivial
    · exact hhere
  | sendSAMLMessage | sent | finished => exact ⟨h, trivial⟩

/-- The outline is kept by every move whose thread meets its condition. -/
theorem outline_program (c : Config (Shared ι) (Thread ι)) (m : Move (Request ι))
    (hm : Program.Guarded Own c m) (h : Program.Outline (Recorded sys) (Here sys) c) :
    Program.Outline (Recorded sys) (Here sys) ((program sys).move c m) := by
  refine Program.outline_move ?_ ?_ ?_ c m hm h
  · intro n request s hs
    have hunaccepted : ∀ r : SignOn ι, Unaccepted sys n r s := by
      intro r
      refine ⟨fun i a ha hnumber => ?_, fun e hw => ?_, fun b hw => ?_, fun b hw => ?_⟩
      · exact absurd (hs.latest_lt i a ha) (by omega)
      · exact absurd (hs.saml20Detail_lt e n hw) (Nat.lt_irrefl n)
      · exact Nat.lt_irrefl n (hs.authnRequestInfo_lt b n hw)
      · exact Nat.lt_irrefl n (hs.relayState_lt b n hw)
    constructor
    · exact { hs with
        latest_lt := fun i a ha => Nat.lt_succ_of_lt (hs.latest_lt i a ha)
        saml20Detail_lt := fun e w hw => Nat.lt_succ_of_lt (hs.saml20Detail_lt e w hw)
        authnRequestInfo_lt := fun b w hw => Nat.lt_succ_of_lt (hs.authnRequestInfo_lt b w hw)
        relayState_lt := fun b w hw => Nat.lt_succ_of_lt (hs.relayState_lt b w hw) }
    · cases request with
      | authorizePost | authorizeRedirect | authorizeIdpInit => exact hunaccepted _
      | assertion i => trivial
  · intro n k t s hk hown hs hhere
    exact outline_next t hk hown hs hhere
  · intro k t j u s hj hu
    exact here_of_writes hj (writes_next sys k t s) hu

omit [DecidableEq ι] in
/-- What is sent answers the session's latest request. -/
theorem answers_of_own {t : Thread ι} (hown : Own k t s) (h : Recorded sys n s)
    (hhere : Here sys k t s) (sent : ι × Message) (hsent : sent ∈ sends t s) :
    ∃ a ∈ s.latest sent.1, Answers sys a sent.2 := by
  unfold sends at hsent
  split at hsent
  · rename_i i asked response location b
    obtain ⟨hlatest, a, ha, hrelay⟩ := hown
    rw [← Option.some.inj hsent]
    refine ⟨a, hlatest.trans ha, hhere a ha, ?_⟩
    rcases hrelay with hwriter | ⟨hnone, hvalue⟩
    · exact h.relayState i a (hlatest.trans ha) b hwriter
    · show (s.binding b).relayState.value = a.relayState
      rw [hvalue, hnone]
  · cases hsent

end Outline

/-- Before the first request. -/
def initial : Config (Shared ι) (Thread ι) := ⟨{}, []⟩

omit [DecidableEq ι] in
theorem outline_initial (sys : System) :
    Program.Outline (Recorded sys) (Here sys) (initial : Config (Shared ι) (Thread ι)) := by
  refine ⟨⟨?_, ?_, ?_, ?_, ?_, ?_, ?_⟩, fun k t hk => by cases hk⟩
  · exact fun i a ha => by cases ha
  · exact fun e w hw => by cases hw
  · exact fun b w hw => by cases hw
  · exact fun b w hw => by cases hw
  · exact fun i a ha => by cases ha
  · exact fun i a ha => by cases ha
  · exact fun i a ha => by cases ha

def mail : AppsSAML20Details where
  signature := some "RSAwithSHA256"
  digestMethod := some "SHA256"
  keyStore := some "keys of mail"
  spAcsUrl := some "https://mail/acs"
  audience := some "mail"
  binding := some "Post-Post"

def wiki : AppsSAML20Details where
  keyStore := some "keys of wiki"
  spAcsUrl := some "https://wiki/acs"
  audience := some "wiki"
  binding := some "IdpInit-PostSimpleSign"

/-- Two applications, one for each binding adapter. A message is the id of its request. -/
def twoApplications : System where
  getAppDetails appId := List.lookup appId [("mail", mail), ("wiki", wiki)]
  loads _ := true
  extractSAMLMessage _ _ _ samlRequest := some ⟨some "", some samlRequest⟩
  resolveSingle keyStore := .ok (some keyStore)

def answerOf (appId : String) (algorithm : SignatureAlgorithm) (digest : DigestMethod)
    (requestId relayState : Option String) : Message :=
  let url := some ("https://" ++ appId ++ "/acs")
  let signature := ⟨some algorithm, digest, "keys of " ++ appId⟩
  ⟨⟨url, requestId, some ⟨url, requestId, some appId, 30, some signature⟩⟩, url, relayState⟩

/-- A sign-on at the mail with a relay state and one at the wiki that the identity provider
begins. The steps up to the answers are taken in turns. -/
def inTurns : List (Move (Request Bool)) :=
  .start (.authorizePost true "mail" "q1" (some "inbox")) ::
    .start (.authorizeIdpInit false "wiki" none) ::
    (List.replicate 12 [.advance 0, .advance 1]).flatten ++ List.replicate 16 (.advance 0) ++
    List.replicate 12 (.advance 1)

/-- One sign-on at the mail after the other, up to the second answer. The second request carries
no relay state. -/
def oneAfterTheOther : List (Move (Request Bool)) :=
  .start (.authorizePost true "mail" "q1" (some "inbox")) :: List.replicate 28 (.advance 0) ++
    .start (.authorizePost false "mail" "q2" none) :: List.replicate 25 (.advance 1)

end MaxKey.Saml20
