import MaxKey.Interleaving
import MaxKey.Logon
import MaxKey.Socials

namespace MaxKey.SocialSignOnEndpoint
open Socials Interleaving Effects

structure SocialSignOnProvider where
  provider : String
  providerName : String
  deriving DecidableEq

/-- A client of one provider's protocol. -/
structure AuthRequest where
  provider : String
  deriving DecidableEq

/-- The parameters of a callback request that go to the provider. -/
structure AuthCallback where
  code : Option String
  authCode : Option String := none
  oauthToken : Option String := none
  authorizationCode : Option String := none
  oauthVerifier : Option String := none
  state : Option String := none
  deriving DecidableEq

inductive SignOnType
  | logon
  | bind
  deriving DecidableEq

/-- The fields of the controller, one object for all requests. The field accountJsonString is
never set. -/
structure Controller where
  provider : Option String := none
  authRequest : Cell (Option AuthRequest) := ⟨none, none⟩
  socialSignOnProvider : Option SocialSignOnProvider := none
  accountId : Cell (Option String) := ⟨none, none⟩

structure Attributes where
  oauthService : Cell (Option AuthRequest) := ⟨none, none⟩
  provider : Option SocialSignOnProvider := none
  type : Option SignOnType := none

/-- What the requests share. The history tells which request of a session found its provider
last. -/
structure Shared (ι : Type) where
  controller : Controller := {}
  attributes : ι → Attributes := fun _ => {}
  sessions : ι → HttpSession
  database : Database
  cachedPasswordPolicy : Option PasswordPolicy := none
  socials : Table
  lastStarted : ι → Option (ℕ × String) := fun _ => none

/-- A callback request: the provider in its path, the parameters for the provider, and what a
login or a bind needs besides. -/
structure Callback where
  provider : String
  parameters : AuthCallback
  http : HttpRequest
  rowId : String := ""
  deriving DecidableEq

inductive Request (ι : Type)
  | authorize (i : ι) (provider : String)
  | bind (i : ι) (provider : String)
  | callback (i : ι) (c : Callback)

/-- Where a request stands: each constructor is the access to a field, an attribute or a
service that comes next. -/
inductive Thread (ι : Type)
  | setType (i : ι) (provider : String) (type : SignOnType)
  | lookUp (i : ι) (provider : String)
  | storeService (i : ι) (provider : String) (found : SocialSignOnProvider)
  | storeProvider (i : ι) (found : SocialSignOnProvider)
  | setProvider (i : ι) (c : Callback)
  | takeService (i : ι) (c : Callback)
  | takeProvider (i : ι) (c : Callback)
  | removeService (i : ι) (c : Callback)
  | removeProvider (i : ι) (c : Callback)
  | login (i : ι) (c : Callback)
  | getAccountId (i : ι) (c : Callback) (response : Option (Option String))
  | buildToken (i : ι) (c : Callback)
  | readType (i : ι) (c : Callback) (token : SocialsAssociate)
  | socialSignOn (i : ι) (c : Callback) (token : SocialsAssociate)
  | socialBind (i : ι) (c : Callback) (token : SocialsAssociate)
  | finished
  deriving DecidableEq

/-- The registered providers, and what a provider answers to a callback: the data of its
response, if any, with the account id, which may be null. -/
structure System where
  get : String → Option SocialSignOnProvider
  answer : String → AuthCallback → Option (Option String)
  order : RowOrder SocialsAssociate

def supportedProviders : List String :=
  ["WeChatOpen", "sinaweibo", "qq", "Alipay", "Twitter", "google", "microsoft", "Linkedin",
    "DingTalk"]

def getAuthRequest (provider : String) : Option AuthRequest :=
  if supportedProviders.any (JavaText.equalsIgnoreCase provider ·) then some ⟨provider⟩ else none

variable {ι : Type} [DecidableEq ι]

namespace Shared

def setController (s : Shared ι) (f : Controller → Controller) : Shared ι :=
  { s with controller := f s.controller }

def setAttributes (s : Shared ι) (i : ι) (f : Attributes → Attributes) : Shared ι :=
  { s with attributes := Function.update s.attributes i (f (s.attributes i)) }

/-- What the services see of the state in a request of a session. -/
def enter (s : Shared ι) (i : ι) : SocialWorld :=
  ⟨⟨s.database, s.sessions i, s.cachedPasswordPolicy⟩, s.socials⟩

def leave (s : Shared ι) (i : ι) (w : SocialWorld) : Shared ι :=
  { s with
    database := w.world.database, cachedPasswordPolicy := w.world.cachedPasswordPolicy
    sessions := Function.update s.sessions i w.world.session, socials := w.socials }

end Shared

variable (sys : System)

/-- The provider is found, and its auth request goes into the controller's field. -/
def lookUp (k : ℕ) (i : ι) (provider : String) (s : Shared ι) : Thread ι × Shared ι :=
  match sys.get provider with
  | none => (.finished, s)
  | some found =>
    let started := Function.update s.lastStarted i (some (k, provider))
    (.storeService i provider found,
      { s.setController ({ · with authRequest := .write k (getAuthRequest provider) }) with
        lastStarted := started })

def login (i : ι) (c : Callback) (s : Shared ι) : Thread ι × Shared ι :=
  match s.controller.authRequest.value with
  | none => (.finished, s)
  | some request => (.getAccountId i c (sys.answer request.provider c.parameters), s)

/-- Every provider's account id is the uuid of the user in the response. -/
def getAccountId (k : ℕ) (i : ι) (c : Callback) (response : Option (Option String))
    (s : Shared ι) : Thread ι × Shared ι :=
  match s.controller.socialSignOnProvider, response with
  | some _, some uuid => (.buildToken i c, s.setController ({ · with accountId := .write k uuid }))
  | _, _ => (.finished, s)

def readType (i : ι) (c : Callback) (token : SocialsAssociate) (s : Shared ι) : Thread ι :=
  if (s.attributes i).type = some .bind then .socialBind i c token else .socialSignOn i c token

/-- The name of the provider is read once a row is found. -/
def signOn (i : ι) (c : Callback) (token : SocialsAssociate) (s : Shared ι) : Shared ι :=
  let run := fun providerName =>
    s.leave i (final (Socials.socialSignOn sys.order c.http none providerName token) (s.enter i))
  match s.controller.socialSignOnProvider with
  | some found => run found.providerName
  | none =>
    if (Service.get sys.order s.socials token.provider token.socialuid).isSome then s else run ""

def bind (i : ι) (c : Callback) (token : SocialsAssociate) (s : Shared ι) : Shared ι :=
  s.leave i (final (Socials.socialBind none c.rowId token) (s.enter i))

/-- One step of the request with the number `k`. A null pointer ends a request. -/
def next (k : ℕ) : Thread ι → Shared ι → Thread ι × Shared ι
  | .setType i provider type, s =>
    (.lookUp i provider, s.setAttributes i ({ · with type := some type }))
  | .lookUp i provider, s => lookUp sys k i provider s
  | .storeService i _ found, s =>
    -- what the field holds now is stored, whoever wrote it
    let service := s.controller.authRequest.value
    (.storeProvider i found, s.setAttributes i ({ · with oauthService := .write k service }))
  | .storeProvider i found, s =>
    (.finished, s.setAttributes i ({ · with provider := some found }))
  | .setProvider i c, s =>
    (.takeService i c, s.setController ({ · with provider := some c.provider }))
  | .takeService i c, s =>
    let service := (s.attributes i).oauthService.value
    (.takeProvider i c, s.setController ({ · with authRequest := .write k service }))
  | .takeProvider i c, s =>
    let found := (s.attributes i).provider
    (.removeService i c, s.setController ({ · with socialSignOnProvider := found }))
  | .removeService i c, s =>
    (.removeProvider i c, s.setAttributes i ({ · with oauthService := ⟨none, none⟩ }))
  | .removeProvider i c, s => (.login i c, s.setAttributes i ({ · with provider := none }))
  | .login i c, s => login sys i c s
  | .getAccountId i c response, s => getAccountId k i c response s
  | .buildToken i c, s =>
    (.readType i c { provider := c.provider, socialuid := s.controller.accountId.value }, s)
  | .readType i c token, s => (readType i c token s, s)
  | .socialSignOn i c token, s => (.finished, signOn sys i c token s)
  | .socialBind i c token, s => (.finished, bind i c token s)
  | .finished, s => (.finished, s)

/-- The redirect to the provider at the end of an authorization changes nothing. -/
def begin : Request ι → Thread ι
  | .authorize i provider => .setType i provider .logon
  | .bind i provider => .setType i provider .bind
  | .callback i c => .setProvider i c

def program : Program (Request ι) (Thread ι) (Shared ι) := ⟨begin, next sys⟩

/-- Each field that a request reads still holds what the request itself put there, and a
callback comes from the provider that its session started last. -/
def Own (k : ℕ) : Thread ι → Shared ι → Prop
  | .storeService _ _ _, s => s.controller.authRequest.writer = some k
  | .takeService i c, s =>
    let service := (s.attributes i).oauthService
    service.value = none ∨
      ∃ started ∈ s.lastStarted i, service.writer = some started.1 ∧ started.2 = c.provider
  | .login _ _, s => s.controller.authRequest.writer = some k
  | .buildToken _ _, s => s.controller.accountId.writer = some k
  | .socialSignOn i c _, s | .socialBind i c _, s =>
    ∃ started ∈ s.lastStarted i, started.2 = c.provider
  | _, _ => True

instance (k : ℕ) (t : Thread ι) (s : Shared ι) : Decidable (Own k t s) :=
  match t with
  | .storeService _ _ _ | .login _ _ | .buildToken _ _ => inferInstanceAs (Decidable (_ = some k))
  | .takeService _ _ => inferInstanceAs (Decidable (_ ∨ ∃ _ ∈ _, _ ∧ _))
  | .socialSignOn _ _ _ | .socialBind _ _ _ => inferInstanceAs (Decidable (∃ _ ∈ _, _))
  | .setType .. | .lookUp .. | .storeProvider .. | .setProvider .. | .takeProvider ..
  | .removeService .. | .removeProvider .. | .getAccountId .. | .readType .. | .finished =>
    isTrue trivial

section Outline

variable {sys} {k n : ℕ} {s s' : Shared ι}

/-- What the session attributes say about the history, among the first `n` threads. -/
structure Recorded (n : ℕ) (s : Shared ι) : Prop where
  writer_lt : ∀ i w, (s.attributes i).oauthService.writer = some w → w < n
  started_lt : ∀ i started, s.lastStarted i = some started → started.1 < n
  stored : ∀ i started, s.lastStarted i = some started →
    (s.attributes i).oauthService.writer = some started.1 →
    (s.attributes i).oauthService.value = getAuthRequest started.2

/-- What holds of a request where it stands, whatever the others do. -/
def Here (sys : System) (k : ℕ) : Thread ι → Shared ι → Prop
  | .setType _ _ _, s | .lookUp _ _, s =>
    (∀ i, (s.attributes i).oauthService.writer ≠ some k) ∧
      ∀ i started, s.lastStarted i = some started → started.1 ≠ k
  | .storeService i provider _, s =>
    (∀ j started, s.lastStarted j = some started → started.1 = k → j = i ∧ started.2 = provider) ∧
      (s.controller.authRequest.writer = some k →
        s.controller.authRequest.value = getAuthRequest provider)
  | .takeProvider _ c, s | .removeService _ c, s | .removeProvider _ c, s | .login _ c, s =>
    s.controller.authRequest.writer = some k →
      ∀ request, s.controller.authRequest.value = some request →
        getAuthRequest c.provider = some request
  | .getAccountId _ c response, _ => response = sys.answer c.provider c.parameters
  | .buildToken _ c, s => s.controller.accountId.writer = some k →
      sys.answer c.provider c.parameters = some s.controller.accountId.value
  | .readType _ c token, _ | .socialSignOn _ c token, _ | .socialBind _ c token, _ =>
    token.provider = c.provider ∧ sys.answer c.provider c.parameters = some token.socialuid
  | _, _ => True

/-- All that the thread with the number `k` may change of what the assertions speak about. -/
structure Writes (k : ℕ) (s s' : Shared ι) : Prop where
  authRequest : s'.controller.authRequest = s.controller.authRequest ∨
    s'.controller.authRequest.writer = some k
  accountId : s'.controller.accountId = s.controller.accountId ∨
    s'.controller.accountId.writer = some k
  oauthService : ∀ i, (s'.attributes i).oauthService = (s.attributes i).oauthService ∨
    (s'.attributes i).oauthService.writer = some k ∨ (s'.attributes i).oauthService.writer = none
  lastStarted : ∀ i, s'.lastStarted i = s.lastStarted i ∨ ∃ p, s'.lastStarted i = some (k, p)

omit [DecidableEq ι] in
theorem writes_refl (k : ℕ) (s : Shared ι) : Writes k s s :=
  ⟨.inl rfl, .inl rfl, fun _ => .inl rfl, fun _ => .inl rfl⟩

theorem writes_setAttributes {i : ι} {f : Attributes → Attributes}
    (h : (f (s.attributes i)).oauthService = (s.attributes i).oauthService ∨
      (f (s.attributes i)).oauthService.writer = some k ∨
      (f (s.attributes i)).oauthService.writer = none) : Writes k s (s.setAttributes i f) := by
  refine ⟨.inl rfl, .inl rfl, fun j => ?_, fun _ => .inl rfl⟩
  by_cases hj : j = i
  · subst hj
    simpa only [Shared.setAttributes, Function.update_self] using h
  · simp only [Shared.setAttributes, Function.update_of_ne hj, true_or]

theorem writes_lookUp (i : ι) (provider : String) :
    Writes k s (lookUp sys k i provider s).2 := by
  unfold lookUp
  cases sys.get provider with
  | none => exact writes_refl k s
  | some found =>
    refine ⟨.inr rfl, .inl rfl, fun _ => .inl rfl, fun j => ?_⟩
    by_cases hj : j = i
    · subst hj
      exact .inr ⟨provider, Function.update_self _ _ _⟩
    · exact .inl (Function.update_of_ne hj _ _)

omit [DecidableEq ι] in
theorem writes_login (i : ι) (c : Callback) : Writes k s (login sys i c s).2 := by
  unfold login
  split
  · exact writes_refl k s
  · exact writes_refl k s

omit [DecidableEq ι] in
theorem writes_getAccountId (i : ι) (c : Callback) (response : Option (Option String)) :
    Writes k s (getAccountId k i c response s).2 := by
  unfold getAccountId
  split
  · exact ⟨.inl rfl, .inr rfl, fun _ => .inl rfl, fun _ => .inl rfl⟩
  · exact writes_refl k s

theorem writes_leave (i : ι) (w : SocialWorld) : Writes k s (s.leave i w) :=
  ⟨.inl rfl, .inl rfl, fun _ => .inl rfl, fun _ => .inl rfl⟩

theorem writes_signOn (i : ι) (c : Callback) (token : SocialsAssociate) :
    Writes k s (signOn sys i c token s) := by
  unfold signOn
  dsimp only
  split
  · exact writes_leave i _
  · split
    · exact writes_refl k s
    · exact writes_leave i _

theorem writes_next (sys : System) (k : ℕ) (t : Thread ι) (s : Shared ι) :
    Writes k s (next sys k t s).2 := by
  cases t with
  | setType i provider type =>
    dsimp only [next]
    exact writes_setAttributes (.inl rfl)
  | lookUp i provider => exact writes_lookUp i provider
  | storeService i provider found =>
    dsimp only [next]
    exact writes_setAttributes (.inr (.inl rfl))
  | storeProvider i found =>
    dsimp only [next]
    exact writes_setAttributes (.inl rfl)
  | takeService i c => exact ⟨.inr rfl, .inl rfl, fun _ => .inl rfl, fun _ => .inl rfl⟩
  | removeService i c =>
    dsimp only [next]
    exact writes_setAttributes (.inr (.inr rfl))
  | removeProvider i c =>
    dsimp only [next]
    exact writes_setAttributes (.inl rfl)
  | login i c => exact writes_login i c
  | getAccountId i c response => exact writes_getAccountId i c response
  | socialSignOn i c token => exact writes_signOn i c token
  | socialBind i c token => exact writes_leave i _
  | setProvider i c | takeProvider i c =>
    exact ⟨.inl rfl, .inl rfl, fun _ => .inl rfl, fun _ => .inl rfl⟩
  | buildToken i c | readType i c token | finished => exact writes_refl k s

omit [DecidableEq ι] in
/-- What one thread writes does not touch what holds of another: the assertions about a field
ask who wrote it. -/
theorem here_of_writes {j : ℕ} (hj : j ≠ k) (h : Writes k s s') {u : Thread ι}
    (hu : Here sys j u s) : Here sys j u s' := by
  have hkj : ¬k = j := fun heq => hj heq.symm
  have hservice : (∀ i, (s.attributes i).oauthService.writer ≠ some j) →
      ∀ i, (s'.attributes i).oauthService.writer ≠ some j := by
    intro hs i
    rcases h.oauthService i with heq | heq | heq
    · rw [heq]
      exact hs i
    · rw [heq]
      simpa using hkj
    · rw [heq]
      simp
  have hstarted : ∀ i started, s'.lastStarted i = some started → started.1 = j →
      s.lastStarted i = some started := by
    intro i started hs' hj'
    rcases h.lastStarted i with heq | ⟨p, heq⟩
    · rw [← heq]
      exact hs'
    · rw [heq] at hs'
      have hfirst := congrArg Prod.fst (Option.some.inj hs')
      exact absurd (hfirst.trans hj') hkj
  have hrequest : s.controller.authRequest.Touched k s'.controller.authRequest := h.authRequest
  have haccount : s.controller.accountId.Touched k s'.controller.accountId := h.accountId
  cases u with
  | setType | lookUp =>
    refine ⟨hservice hu.1, fun i started hs' heq => ?_⟩
    exact hu.2 i started (hstarted i started hs' heq) heq
  | storeService i provider found =>
    refine ⟨fun i' started hs' heq => ?_, hrequest.value (P := fun value => value = _) hj hu.2⟩
    exact hu.1 i' started (hstarted i' started hs' heq) heq
  | takeProvider i c | removeService i c | removeProvider i c | login i c =>
    exact hrequest.value
      (P := fun value => ∀ request, value = some request → _ = some request) hj hu
  | buildToken i c => exact haccount.value (P := fun value => _ = some value) hj hu
  | getAccountId | readType | socialSignOn | socialBind => exact hu
  | storeProvider | setProvider | takeService | finished => trivial

omit [DecidableEq ι] in
theorem Recorded.congr (h : Recorded n s)
    (hservice : ∀ i, (s'.attributes i).oauthService = (s.attributes i).oauthService)
    (hstarted : s'.lastStarted = s.lastStarted) : Recorded n s' := by
  refine ⟨fun i => ?_, fun i => ?_, fun i => ?_⟩
  · rw [hservice]
    exact h.writer_lt i
  · rw [hstarted]
    exact h.started_lt i
  · rw [hservice, hstarted]
    exact h.stored i

theorem oauthService_setAttributes (i j : ι) (f : Attributes → Attributes)
    (h : ∀ a, (f a).oauthService = a.oauthService) :
    ((s.setAttributes i f).attributes j).oauthService = (s.attributes j).oauthService := by
  by_cases hj : j = i
  · subst hj
    simp only [Shared.setAttributes, Function.update_self, h]
  · simp only [Shared.setAttributes, Function.update_of_ne hj]

omit [DecidableEq ι] in
theorem getAuthRequest_provider {provider : String} {request : AuthRequest}
    (h : getAuthRequest provider = some request) : request.provider = provider := by
  unfold getAuthRequest at h
  split_ifs at h
  rw [← Option.some.inj h]

/-- The history moves on to the request that found its provider. -/
theorem recorded_lookUp {i : ι} {provider : String} (hk : k < n) (h : Recorded n s)
    (hhere : Here sys k (.lookUp i provider) s) :
    Recorded n (lookUp sys k i provider s).2 ∧
      Here sys k (lookUp sys k i provider s).1 (lookUp sys k i provider s).2 := by
  have hhistory : ∀ {j started},
      Function.update s.lastStarted i (some (k, provider)) j = some started →
        j = i ∧ (k, provider) = started ∨ s.lastStarted j = some started := by
    intro j started hs
    by_cases hj : j = i
    · rw [hj, Function.update_self] at hs
      exact .inl ⟨hj, Option.some.inj hs⟩
    · rw [Function.update_of_ne hj] at hs
      exact .inr hs
  unfold lookUp
  cases sys.get provider with
  | none => exact ⟨h, trivial⟩
  | some found =>
    refine ⟨⟨h.writer_lt, fun j started hs => ?_, fun j started hs hwriter => ?_⟩, ?_, fun _ => rfl⟩
    · rcases hhistory hs with ⟨-, rfl⟩ | hold
      · exact hk
      · exact h.started_lt j started hold
    · rcases hhistory hs with ⟨-, rfl⟩ | hold
      · exact absurd hwriter (hhere.1 j)
      · exact h.stored j started hold hwriter
    · intro j started hs heq
      rcases hhistory hs with ⟨hj, rfl⟩ | hold
      · exact ⟨hj, rfl⟩
      · exact absurd heq (hhere.2 j started hold)

/-- A start that reads its own auth request stores the one of its provider. -/
theorem recorded_storeService {i : ι} {provider : String} {found : SocialSignOnProvider}
    (hk : k < n) (hown : s.controller.authRequest.writer = some k) (h : Recorded n s)
    (hhere : Here sys k (.storeService i provider found) s) :
    Recorded n (next sys k (.storeService i provider found) s).2 := by
  dsimp only [next, Shared.setAttributes]
  refine ⟨fun j w hw => ?_, h.started_lt, fun j started hs hwriter => ?_⟩
  · by_cases hj : j = i
    · simp only [hj, Function.update_self] at hw
      rw [← Option.some.inj hw]
      exact hk
    · simp only [Function.update_of_ne hj] at hw
      exact h.writer_lt j w hw
  · by_cases hj : j = i
    · simp only [hj, Function.update_self] at hwriter ⊢
      have hstarted := (hhere.1 j started hs (Option.some.inj hwriter).symm).2
      rw [hstarted]
      exact hhere.2 hown
    · simp only [Function.update_of_ne hj] at hwriter ⊢
      exact h.stored j started hs hwriter

/-- What a callback takes out of the session is the auth request of the provider in its path. -/
theorem here_takeService {i : ι} {c : Callback} (hown : Own k (.takeService i c) s)
    (h : Recorded n s) :
    Here sys k (next sys k (.takeService i c) s).1 (next sys k (.takeService i c) s).2 := by
  intro _ request hrequest
  have hvalue : (s.attributes i).oauthService.value = some request := hrequest
  rcases hown with hnone | ⟨started, hs, hwriter, hprovider⟩
  · rw [hnone] at hvalue
    cases hvalue
  · rw [← hprovider, ← h.stored i started hs hwriter]
    exact hvalue

omit [DecidableEq ι] in
theorem here_login {i : ι} {c : Callback} (hown : s.controller.authRequest.writer = some k)
    (hhere : Here sys k (.login i c) s) :
    Here sys k (login sys i c s).1 (login sys i c s).2 := by
  unfold login
  cases hvalue : s.controller.authRequest.value with
  | none => trivial
  | some request =>
    have hprovider := getAuthRequest_provider (hhere hown request hvalue)
    show sys.answer request.provider c.parameters = sys.answer c.provider c.parameters
    rw [hprovider]

omit [DecidableEq ι] in
theorem here_getAccountId {i : ι} {c : Callback} {response : Option (Option String)}
    (hhere : Here sys k (.getAccountId i c response) s) :
    Here sys k (getAccountId k i c response s).1 (getAccountId k i c response s).2 := by
  unfold getAccountId
  split
  · exact fun _ => hhere.symm
  · trivial

theorem recorded_removeService (i : ι) (h : Recorded n s) :
    Recorded n (s.setAttributes i ({ · with oauthService := ⟨none, none⟩ })) := by
  refine ⟨fun j w hw => ?_, h.started_lt, fun j started hs hwriter => ?_⟩
  · by_cases hj : j = i
    · simp only [Shared.setAttributes, hj, Function.update_self] at hw
      cases hw
    · simp only [Shared.setAttributes, Function.update_of_ne hj] at hw
      exact h.writer_lt j w hw
  · by_cases hj : j = i
    · simp only [Shared.setAttributes, hj, Function.update_self] at hwriter
      cases hwriter
    · simp only [Shared.setAttributes, Function.update_of_ne hj] at hwriter ⊢
      exact h.stored j started hs hwriter

theorem recorded_signOn (i : ι) (c : Callback) (token : SocialsAssociate) (h : Recorded n s) :
    Recorded n (signOn sys i c token s) := by
  unfold signOn
  dsimp only
  split
  · exact h.congr (fun _ => rfl) rfl
  · split
    · exact h
    · exact h.congr (fun _ => rfl) rfl

/-- One step leads from one assertion to the next. -/
theorem outline_next (t : Thread ι) (hk : k < n) (hown : Own k t s) (h : Recorded n s)
    (hhere : Here sys k t s) :
    Recorded n (next sys k t s).2 ∧ Here sys k (next sys k t s).1 (next sys k t s).2 := by
  have hkept : ∀ i f, (∀ a : Attributes, (f a).oauthService = a.oauthService) →
      Recorded n (s.setAttributes i f) := fun i f hf =>
    h.congr (fun j => oauthService_setAttributes i j f hf) rfl
  cases t with
  | setType i provider type =>
    dsimp only [next]
    refine ⟨hkept i _ (by intro _; rfl), fun j => ?_, hhere.2⟩
    rw [oauthService_setAttributes i j _ (by intro _; rfl)]
    exact hhere.1 j
  | lookUp i provider => exact recorded_lookUp hk h hhere
  | storeService i provider found => exact ⟨recorded_storeService hk hown h hhere, trivial⟩
  | storeProvider i found =>
    dsimp only [next]
    exact ⟨hkept i _ (by intro _; rfl), trivial⟩
  | setProvider i c => exact ⟨h.congr (fun _ => rfl) rfl, trivial⟩
  | takeService i c => exact ⟨h.congr (fun _ => rfl) rfl, here_takeService hown h⟩
  | takeProvider i c => exact ⟨h.congr (fun _ => rfl) rfl, hhere⟩
  | removeService i c => exact ⟨recorded_removeService i h, hhere⟩
  | removeProvider i c =>
    dsimp only [next]
    exact ⟨hkept i _ (by intro _; rfl), hhere⟩
  | login i c =>
    refine ⟨?_, here_login hown hhere⟩
    dsimp only [next, login]
    split
    · exact h
    · exact h
  | getAccountId i c response =>
    refine ⟨?_, here_getAccountId hhere⟩
    dsimp only [next, getAccountId]
    split
    · exact h.congr (fun _ => rfl) rfl
    · exact h
  | buildToken i c => exact ⟨h, rfl, hhere hown⟩
  | readType i c token =>
    refine ⟨h, ?_⟩
    dsimp only [next, readType]
    split
    · exact hhere
    · exact hhere
  | socialSignOn i c token => exact ⟨recorded_signOn i c token h, trivial⟩
  | socialBind i c token => exact ⟨h.congr (fun _ => rfl) rfl, trivial⟩
  | finished => exact ⟨h, trivial⟩

/-- The outline is kept by every move whose thread meets its condition. -/
theorem outline_program (c : Config (Shared ι) (Thread ι)) (m : Move (Request ι))
    (hm : Program.Guarded Own c m) (h : Program.Outline Recorded (Here sys) c) :
    Program.Outline Recorded (Here sys) ((program sys).move c m) := by
  refine Program.outline_move ?_ ?_ ?_ c m hm h
  · intro n request s hs
    refine ⟨⟨fun i w hw => ?_, fun i started hstarted => ?_, hs.stored⟩, ?_⟩
    · exact Nat.lt_succ_of_lt (hs.writer_lt i w hw)
    · exact Nat.lt_succ_of_lt (hs.started_lt i started hstarted)
    · have hunwritten : (∀ i, (s.attributes i).oauthService.writer ≠ some n) ∧
          ∀ i started, s.lastStarted i = some started → started.1 ≠ n := by
        refine ⟨fun i hw => ?_, fun i started hstarted => ?_⟩
        · exact absurd (hs.writer_lt i n hw) (Nat.lt_irrefl n)
        · exact Nat.ne_of_lt (hs.started_lt i started hstarted)
      cases request with
      | authorize i provider => exact hunwritten
      | bind i provider => exact hunwritten
      | callback i c => trivial
  · intro n k t s hk hown hs hhere
    exact outline_next t hk hown hs hhere
  · intro k t j u s hj hu
    exact here_of_writes hj (writes_next sys k t s) hu

end Outline

namespace Shared

/-- Who a session is logged in as. -/
def identity (s : Shared ι) (i : ι) : Option UserInfo × Option Authentication :=
  (s.enter i).world.identity

end Shared

/-- The account that a provider returned for this very callback, of the provider that the
session started last. -/
def Earned (s : Shared ι) (i : ι) (c : Callback) (provider socialuid : String) : Prop :=
  (∃ started ∈ s.lastStarted i, started.2 = provider) ∧
    sys.answer provider c.parameters = some (some socialuid)

/-- Whom a login with a row of the table leaves the session as. -/
def signedOn (c : Callback) (username providerName : String) (w : World) :
    Option UserInfo × Option Authentication :=
  (final (Realm.setAuthentication c.http (some username) "Social Sign On" providerName
    "xe00000004" "success") w).identity

/-- A step logs a session in, or binds an account to its user, with an earned account only:
in as the user of a row of this account, and this account to the user of the session. -/
structure Justified (t : Thread ι) (s s' : Shared ι) : Prop where
  login : ∀ i, s'.identity i = s.identity i ∨
    ∃ c token provider socialuid, t = .socialSignOn i c token ∧
      Earned sys s i c provider socialuid ∧
      ∃ row ∈ s.socials.rows, row.link.account = (provider, some socialuid) ∧
        ∃ name, s'.identity i = signedOn c row.username name (s.enter i).world
  bind : ∀ link ∈ links s'.socials, link ∈ links s.socials ∨
    ∃ i c token provider socialuid, t = .socialBind i c token ∧
      Earned sys s i c provider socialuid ∧
      ∃ user, (s.sessions i).currentUser = some user ∧
        link = ⟨user.id, user.username, provider, some socialuid⟩

/-- What the step that a move takes must keep to. -/
def Proper (c : Config (Shared ι) (Thread ι)) : Move (Request ι) → Prop
  | .start _ => True
  | .advance k => ∀ t ∈ c.threads[k]?, Justified sys t c.shared (next sys k t c.shared).2

section Justified

variable {sys} {k : ℕ} {s s' : Shared ι}

omit [DecidableEq ι] in
theorem justified_of_eq {t : Thread ι} (hidentity : ∀ i, s'.identity i = s.identity i)
    (hlinks : links s'.socials = links s.socials) : Justified sys t s s' := by
  refine ⟨fun i => .inl (hidentity i), fun link hlink => .inl ?_⟩
  rw [← hlinks]
  exact hlink

theorem identity_leave_self (i : ι) (w : SocialWorld) :
    (s.leave i w).identity i = w.world.identity := by
  simp only [Shared.identity, Shared.leave, Shared.enter, Function.update_self]

theorem identity_leave_of_ne {i j : ι} (h : j ≠ i) (w : SocialWorld) :
    (s.leave i w).identity j = s.identity j := by
  simp only [Shared.identity, Shared.leave, Shared.enter, Function.update_of_ne h]
  rfl

/-- The run of a sign-on under any name of the provider. -/
theorem justified_socialSignOn {i : ι} {c : Callback} {token : SocialsAssociate}
    (hearned : ∀ x, token.socialuid = some x → Earned sys s i c token.provider x)
    (providerName : String) :
    Justified sys (.socialSignOn i c token) s (s.leave i
      (final (Socials.socialSignOn sys.order c.http none providerName token) (s.enter i))) := by
  have hidentity := socialSignOn_identity sys.order c.http none providerName token (s.enter i)
  have hlinks : links (s.leave i (final (Socials.socialSignOn sys.order c.http none providerName
      token) (s.enter i))).socials = links s.socials :=
    socialSignOn_links sys.order c.http none providerName token (s.enter i)
  refine ⟨fun j => ?_, fun link hlink => .inl ?_⟩
  · by_cases hj : j = i
    · subst hj
      rw [identity_leave_self, hidentity]
      cases hget : Service.get sys.order (s.enter j).socials token.provider token.socialuid with
      | none => exact .inl rfl
      | some row =>
        obtain ⟨hrow, hprovider, hsocial⟩ := Service.get_eq_some hget
        obtain ⟨x, hx⟩ := Service.isSome_of_get hget
        have haccount : row.link.account = (token.provider, some x) :=
          Prod.ext hprovider (hsocial.trans hx)
        exact .inr ⟨c, token, token.provider, x, rfl, hearned x hx, row, hrow, haccount,
          providerName, rfl⟩
    · exact .inl (identity_leave_of_ne hj _)
  · rw [← hlinks]
    exact hlink

theorem justified_signOn {i : ι} {c : Callback} {token : SocialsAssociate}
    (hearned : ∀ x, token.socialuid = some x → Earned sys s i c token.provider x) :
    Justified sys (.socialSignOn i c token) s (signOn sys i c token s) := by
  unfold signOn
  dsimp only
  split
  · exact justified_socialSignOn hearned _
  · split
    · exact justified_of_eq (fun _ => rfl) rfl
    · exact justified_socialSignOn hearned _

/-- A bind adds the one row of its token; its delete only takes rows out. -/
theorem links_replaced {row : SocialsAssociate} {t : Table} {link : Link}
    (h : link ∈ links (replaced row t)) :
    link ∈ links t ∨ link = row.link ∧ row.socialuid.isSome := by
  have hdelete : ∀ {l}, l ∈ links (Service.delete t row.uid row.provider) → l ∈ links t := by
    intro l hl
    rw [links_delete] at hl
    exact (List.mem_filter.mp hl).1
  unfold replaced at h
  dsimp only at h
  cases hinsert : Service.insert (Service.delete t row.uid row.provider) row with
  | none =>
    rw [hinsert] at h
    exact .inl (hdelete h)
  | some t' =>
    rw [hinsert, Option.getD_some, links_insert hinsert, List.mem_append,
      List.mem_singleton] at h
    rcases h with hold | hnew
    · exact .inl (hdelete hold)
    · refine .inr ⟨hnew, ?_⟩
      by_contra hnull
      rw [Service.insert, if_neg hnull] at hinsert
      cases hinsert

theorem justified_bind {i : ι} {c : Callback} {token : SocialsAssociate}
    (hearned : ∀ x, token.socialuid = some x → Earned sys s i c token.provider x) :
    Justified sys (.socialBind i c token) s (bind i c token s) := by
  have hfinal := final_socialBind none c.rowId token (s.enter i)
  unfold bind
  cases huser : (s.enter i).world.session.currentUser with
  | none =>
    rw [huser] at hfinal
    rw [hfinal]
    refine justified_of_eq (fun j => ?_) rfl
    by_cases hj : j = i
    · rw [hj, identity_leave_self]
      rfl
    · exact identity_leave_of_ne hj _
  | some user =>
    rw [huser] at hfinal
    rw [hfinal]
    refine ⟨fun j => .inl ?_, fun link hlink => ?_⟩
    · by_cases hj : j = i
      · rw [hj, identity_leave_self]
        rfl
      · exact identity_leave_of_ne hj _
    · rcases links_replaced hlink with hold | ⟨hnew, hsome⟩
      · exact .inl hold
      · obtain ⟨x, hx⟩ := Option.isSome_iff_exists.mp hsome
        refine .inr ⟨i, c, token, token.provider, x, rfl, hearned x hx, user, huser, ?_⟩
        rw [hnew, ← hx]
        rfl

omit [DecidableEq ι] in
theorem earned_of_own {i : ι} {c : Callback} {token : SocialsAssociate}
    (hown : ∃ started ∈ s.lastStarted i, started.2 = c.provider)
    (hhere : token.provider = c.provider ∧
      sys.answer c.provider c.parameters = some token.socialuid)
    (x : String) (hx : token.socialuid = some x) : Earned sys s i c token.provider x := by
  rw [hx] at hhere
  rw [hhere.1]
  exact ⟨hown, hhere.2⟩

/-- Only the last step of a callback logs in or binds. -/
theorem justified_next (t : Thread ι) (hown : Own k t s) (hhere : Here sys k t s) :
    Justified sys t s (next sys k t s).2 := by
  cases t with
  | socialSignOn i c token => exact justified_signOn (earned_of_own hown hhere)
  | socialBind i c token => exact justified_bind (earned_of_own hown hhere)
  | lookUp i provider =>
    dsimp only [next, lookUp]
    split
    · exact justified_of_eq (fun _ => rfl) rfl
    · exact justified_of_eq (fun _ => rfl) rfl
  | login i c =>
    dsimp only [next, login]
    split
    · exact justified_of_eq (fun _ => rfl) rfl
    · exact justified_of_eq (fun _ => rfl) rfl
  | getAccountId i c response =>
    dsimp only [next, getAccountId]
    split
    · exact justified_of_eq (fun _ => rfl) rfl
    · exact justified_of_eq (fun _ => rfl) rfl
  | setType | storeService | storeProvider | setProvider | takeService | takeProvider
  | removeService | removeProvider | buildToken | readType | finished =>
    exact justified_of_eq (fun _ => rfl) rfl

end Justified

/-- Nothing has been started yet. -/
def initial (database : Database) (cachedPasswordPolicy : Option PasswordPolicy) (socials : Table)
    (sessions : ι → HttpSession) : Config (Shared ι) (Thread ι) :=
  ⟨{ sessions, database, cachedPasswordPolicy, socials }, []⟩

omit [DecidableEq ι] in
theorem outline_initial (database : Database) (cachedPasswordPolicy : Option PasswordPolicy)
    (socials : Table) (sessions : ι → HttpSession) :
    Program.Outline Recorded (Here sys)
      (initial database cachedPasswordPolicy socials sessions) := by
  refine ⟨⟨fun i w hw => ?_, fun i started hs => ?_, fun i started hs => ?_⟩, fun k t hk => ?_⟩
  · cases hw
  · cases hs
  · cases hs
  · cases hk

/-- While no request reads what another one put into the controller, and callbacks come from
the provider that their session started last, every login and every bind is earned. -/
theorem callbacks_use_earned_accounts (database : Database)
    (cachedPasswordPolicy : Option PasswordPolicy) (socials : Table) (sessions : ι → HttpSession)
    (moves : List (Move (Request ι)))
    (h : Runs.Meets (program sys).move (Program.Guarded Own)
      (initial database cachedPasswordPolicy socials sessions) moves) :
    Runs.Meets (program sys).move (Proper sys)
      (initial database cachedPasswordPolicy socials sessions) moves := by
  refine Runs.meets_of_invariant (I := Program.Outline Recorded (Here sys)) outline_program ?_ h
    (outline_initial sys database cachedPasswordPolicy socials sessions)
  intro c m hm hc
  cases m with
  | start request => trivial
  | advance k =>
    intro t ht
    exact justified_next t (hm t ht) (hc.thread k t ht)

/-- A provider returns the code as the account id. -/
def echoing : System where
  get provider := some ⟨provider, provider⟩
  answer _ parameters := some parameters.code
  order := .insertion _

/-- alice's account at Google has the number 7. -/
def aliceAtGoogle : Table :=
  ⟨[{ id := "r1", uid := Logon.alice.id, username := Logon.alice.username, provider := "google",
      socialuid := some "7" }], by simp⟩

def alone : Config (Shared Unit) (Thread Unit) :=
  initial Logon.twoUsers none aliceAtGoogle fun _ => { id := "s1" }

def fromGoogle : Callback := ⟨"google", { code := some "7" }, Logon.browser, ""⟩

/-- A provider is started, and Google's callback comes back, but for its last step. -/
def untilSignOn (provider : String) : List (Move (Request Unit)) :=
  .start (.authorize () provider) :: List.replicate 4 (.advance 0) ++
    .start (.callback () fromGoogle) :: List.replicate 9 (.advance 1)

/-- Started and called back at Google, alice is logged in. -/
theorem google_logs_in_alice :
    let moves := untilSignOn "google" ++ [.advance 1]
    Runs.Meets (program echoing).move (Proper echoing) alone moves ∧
      ((Runs.exec (program echoing).move alone moves).shared.sessions ()).currentUser
        = some Logon.alice := by
  intro moves
  refine ⟨callbacks_use_earned_accounts echoing Logon.twoUsers none aliceAtGoogle _ moves ?_, ?_⟩
  · decide
  · decide

/-- The session started QQ and calls back at Google's path: QQ's answer 7 is looked up among
Google's accounts, and alice is logged in. -/
theorem qq_answer_logs_in_google_user :
    let moves := untilSignOn "qq" ++ [.advance 1]
    ¬Runs.Meets (program echoing).move (Proper echoing) alone moves ∧
      ((Runs.exec (program echoing).move alone moves).shared.sessions ()).currentUser
        = some Logon.alice := by
  intro moves
  refine ⟨fun h => ?_, by decide +kernel⟩
  let before := Runs.exec (program echoing).move alone (untilSignOn "qq")
  have hlast : Proper echoing before (.advance 1) := ((Runs.meets_append _ _ _).mp h).2.1
  let token : SocialsAssociate := { provider := "google", socialuid := some "7" }
  have hthread : before.threads[1]? = some (.socialSignOn () fromGoogle token) := by
    decide +kernel
  have hlogin := (hlast _ hthread).login ()
  rcases hlogin with hsame | ⟨c, token, provider, x, -, ⟨hstarted, -⟩, row, hrow, haccount, -⟩
  · exact absurd (congrArg Prod.fst hsame) (by decide +kernel)
  · -- the only row is Google's, and QQ was started last
    have hgoogle : ∀ row ∈ before.shared.socials.rows, row.provider = "google" := by decide +kernel
    have hqq : ∀ started ∈ before.shared.lastStarted (), started.2 = "qq" := by decide +kernel
    obtain ⟨started, hmem, rfl⟩ := hstarted
    have hprovider : row.provider = started.2 := congrArg Prod.fst haccount
    rw [hgoogle row hrow, hqq started hmem] at hprovider
    exact absurd hprovider (by decide)

end MaxKey.SocialSignOnEndpoint
