import MaxKey.Effects
import MaxKey.HttpParameters
import MaxKey.JavaUrl
import MaxKey.StandardBase64

namespace MaxKey.Client
open JavaException Effects PercentEncoding

/-! ### Requests -/

inductive HttpVerb
  | GET | POST | PUT | DELETE | HEAD | OPTIONS | TRACE | PATCH
  deriving DecidableEq

def HttpVerb.name : HttpVerb → String
  | GET => "GET"
  | POST => "POST"
  | PUT => "PUT"
  | DELETE => "DELETE"
  | HEAD => "HEAD"
  | OPTIONS => "OPTIONS"
  | TRACE => "TRACE"
  | PATCH => "PATCH"

structure OAuthRequest where
  verb : HttpVerb
  url : String
  querystringParams : List Parameter := []
  bodyParams : List Parameter := []
  headers : List (String × String) := []
  oauthParameters : List Parameter := []
  deriving DecidableEq

/-- The query of an address. A fragment is no part of it. -/
def getQuery (url : String) : Option String :=
  let spec := (JavaText.trim url).toList.takeWhile (· ≠ '#')
  if '?' ∈ spec then some (String.ofList (spec.dropWhile (· ≠ '?')).tail) else none

def isLineTerminator (c : Char) : Bool := c ∈ ['\n', '\r', '\u0085', '\u2028', '\u2029']

/-- Each match of the pattern reaches from a question mark to the end of the line. -/
def withoutQueries : Bool → List Char → List Char
  | _, [] => []
  | true, c :: s => if isLineTerminator c then c :: withoutQueries false s else withoutQueries true s
  | false, c :: s => if c = '?' then withoutQueries true s else c :: withoutQueries false s

/-- The port is written at the end or before a path. -/
def namesPort (url port : String) : Bool :=
  port.toList.isSuffixOf url.toList || JavaText.contains url (port ++ "/")

namespace OAuthRequest

variable (handlers : JavaUrl.Handlers) (request : OAuthRequest)

def getCompleteUrl : String := ParameterList.appendTo request.querystringParams request.url

def getQueryStringParams : Except JavaException (List Parameter) :=
  match JavaUrl.new handlers request.url with
  | none => .error (runtime "Malformed URL")
  | some _ => .ok (ParameterList.ofQuerystring (getQuery request.url) ++ request.querystringParams)

def getSanitizedUrl : String :=
  let stripped := String.ofList (withoutQueries false request.url.toList)
  if JavaText.startsWith request.url "http://" && namesPort request.url ":80" then
    HttpEncoder.applyRule stripped ":80" ""
  else if JavaText.startsWith request.url "https://" && namesPort request.url ":443" then
    HttpEncoder.applyRule stripped ":443" ""
  else stripped

def addParameter (key value : String) : OAuthRequest :=
  { request with
    oauthParameters := request.oauthParameters.filter (·.key ≠ key) ++ [⟨key, value⟩] }

def addOAuthParameter (key value : String) : Except JavaException OAuthRequest :=
  if JavaText.startsWith key "oauth_" ∨ key = "scope" then .ok (request.addParameter key value)
  else .error (illegalArgument
    "OAuth parameters must either be 'scope' or start with 'oauth_'")

def addQuerystringParameter (key value : String) : OAuthRequest :=
  { request with querystringParams := request.querystringParams ++ [⟨key, value⟩] }

def addHeader (key value : String) : OAuthRequest :=
  { request with headers := request.headers.filter (·.1 ≠ key) ++ [(key, value)] }

def toText : String := "@OAuthRequest(" ++ request.verb.name ++ ", " ++ request.url ++ ")"

end OAuthRequest

/-! ### What is signed -/

/-- The order in which a hash map yields its entries. -/
structure HashOrder where
  entrySet : List Parameter → List Parameter
  perm : ∀ params, (entrySet params).Perm params

namespace BaseStringExtractorImpl

variable (handlers : JavaUrl.Handlers) (order : HashOrder)

def checkPreconditions (request : OAuthRequest) : Except JavaException Unit :=
  if request.oauthParameters = [] then
    .error (runtime ("Could not find oauth parameters in request: " ++ request.toText ++
      ". OAuth parameters must be specified with the addOAuthParameter() method"))
  else .ok ()

def getSortedAndEncodedParams (request : OAuthRequest) : Except JavaException String := do
  let query ← request.getQueryStringParams handlers
  let params := query ++ request.bodyParams ++ order.entrySet request.oauthParameters
  return ParameterList.asOauthBaseString (ParameterList.sort params)

def extract (request : OAuthRequest) : Except JavaException String := do
  checkPreconditions request
  let verb := HttpEncoder.encode request.verb.name
  let url := HttpEncoder.encode request.getSanitizedUrl
  let params ← getSortedAndEncodedParams handlers order request
  return verb ++ "&" ++ url ++ "&" ++ params

end BaseStringExtractorImpl

namespace HeaderExtractorImpl

variable (order : HashOrder)

def extract (request : OAuthRequest) : Except JavaException String := do
  BaseStringExtractorImpl.checkPreconditions request
  let pairs := (order.entrySet request.oauthParameters).map fun p =>
    p.key ++ "=\"" ++ HttpEncoder.encode p.value ++ "\""
  return "OAuth " ++ ", ".intercalate pairs

end HeaderExtractorImpl

/-! ### Signatures -/

def checkEmptyString (string errorMsg : String) : Except JavaException Unit :=
  if JavaText.trim string = "" then .error (illegalArgument errorMsg) else .ok ()

structure SignatureService where
  getSignatureMethod : String
  getSignature : (baseString apiSecret tokenSecret : String) → Except JavaException String

def signatureException (baseString : String) : JavaException :=
  runtime ("Error while signing string: " ++ baseString)

/-- The key of both services. -/
def keyString (apiSecret tokenSecret : String) : String :=
  HttpEncoder.encode apiSecret ++ "&" ++ HttpEncoder.encode tokenSecret

/-- The bytes of the key and of the text. -/
def macInput (baseString apiSecret tokenSecret : String) : List UInt8 × List UInt8 :=
  (utf8 (keyString apiSecret tokenSecret).toList, utf8 baseString.toList)

def HMACSha1SignatureService (mac : List UInt8 → List UInt8 → List UInt8) : SignatureService where
  getSignatureMethod := "HMAC-SHA1"
  getSignature baseString apiSecret tokenSecret :=
    (do
      checkEmptyString baseString "Base string cant be null or empty string"
      checkEmptyString apiSecret "Api secret cant be null or empty string"
      let input := macInput baseString apiSecret tokenSecret
      let bytes := mac input.1 input.2
      return HttpEncoder.applyRule (StandardBase64.encode bytes) "\r\n" "").mapError
        fun _ => signatureException baseString

def PlaintextSignatureService : SignatureService where
  getSignatureMethod := "PLAINTEXT"
  getSignature baseString apiSecret tokenSecret :=
    (do
      checkEmptyString apiSecret "Api secret cant be null or empty string"
      return keyString apiSecret tokenSecret).mapError fun _ => signatureException baseString

inductive SignatureType
  | Header | QueryString
  deriving DecidableEq

structure OAuthConfig where
  apiKey : String
  apiSecret : String
  signatureType : Option SignatureType := none
  scope : Option String := none

structure Token where
  token : String
  secret : String
  deriving DecidableEq

def SIGNATURE : String := "oauth_signature"

structure OAuth10aServiceImpl where
  config : OAuthConfig
  signatureService : SignatureService
  handlers : JavaUrl.Handlers
  order : HashOrder

namespace OAuth10aServiceImpl

variable (service : OAuth10aServiceImpl) (timestamp nonce : String)

def getSignature (request : OAuthRequest) (token : Token) : Except JavaException String := do
  let baseString ← BaseStringExtractorImpl.extract service.handlers service.order request
  service.signatureService.getSignature baseString service.config.apiSecret token.secret

/-- The parameters that are signed with the request. -/
def addUnsigned (request : OAuthRequest) : Except JavaException OAuthRequest := do
  let request ← request.addOAuthParameter "oauth_timestamp" timestamp
  let request ← request.addOAuthParameter "oauth_nonce" nonce
  let request ← request.addOAuthParameter "oauth_consumer_key" service.config.apiKey
  let request ← request.addOAuthParameter "oauth_signature_method"
    service.signatureService.getSignatureMethod
  let request ← request.addOAuthParameter "oauth_version" "1.0"
  match service.config.scope with
  | some scope => request.addOAuthParameter "scope" scope
  | none => return request

def addOAuthParams (request : OAuthRequest) (token : Token) : Except JavaException OAuthRequest := do
  let request ← service.addUnsigned timestamp nonce request
  let signature ← service.getSignature request token
  request.addOAuthParameter SIGNATURE signature

/-- A service that is built without a type of signature fails at this point. -/
def appendSignature (request : OAuthRequest) : Except JavaException OAuthRequest :=
  match service.config.signatureType with
  | none => .error nullPointer
  | some .Header => do
    let oauthHeader ← HeaderExtractorImpl.extract service.order request
    return request.addHeader "Authorization" oauthHeader
  | some .QueryString =>
    .ok ((service.order.entrySet request.oauthParameters).foldl (fun request entry =>
      request.addQuerystringParameter entry.key entry.value) request)

/-- Two-legged calls have an empty token, which is not sent. -/
def addToken (token : Token) (request : OAuthRequest) : Except JavaException OAuthRequest :=
  if token = ⟨"", ""⟩ then .ok request else request.addOAuthParameter "oauth_token" token.token

def signRequest (token : Token) (request : OAuthRequest) : Except JavaException OAuthRequest := do
  let request ← addToken token request
  let request ← service.addOAuthParams timestamp nonce request token
  service.appendSignature request

end OAuth10aServiceImpl

/-! ### The signed text stands for one request -/

/-- The base string of a request with the given parameters. -/
def canonical (verb : HttpVerb) (url : String) (params : List Parameter) : String :=
  HttpEncoder.encode verb.name ++ "&" ++ HttpEncoder.encode url ++ "&" ++
    ParameterList.asOauthBaseString (ParameterList.sort params)

theorem name_injective : Function.Injective HttpVerb.name := by
  intro v w h
  cases v <;> cases w <;> first | rfl | exact absurd h (by decide)

theorem encode_sep_inj {a b c d : String}
    (h : HttpEncoder.encode a ++ ("&" ++ c) = HttpEncoder.encode b ++ ("&" ++ d)) :
    a = b ∧ c = d := by
  have hamp : ∀ plain, '&' ∉ (HttpEncoder.encode plain).toList :=
    HttpEncoder.notMem_encode (by decide)
  have hchars := congrArg String.toList h
  simp only [String.toList_append] at hchars
  obtain ⟨hfirst, hrest⟩ := JavaText.append_sep_inj (hamp a) (hamp b) hchars
  exact ⟨HttpEncoder.encode_injective (String.toList_injective hfirst),
    String.toList_injective hrest⟩

theorem canonical_eq_iff {v v' : HttpVerb} {u u' : String} {ps ps' : List Parameter} :
    canonical v u ps = canonical v' u' ps' ↔ v = v' ∧ u = u' ∧ ps.Perm ps' := by
  constructor
  · intro h
    unfold canonical at h
    simp only [String.append_assoc] at h
    obtain ⟨hverb, hrest⟩ := encode_sep_inj h
    obtain ⟨hurl, hparams⟩ := encode_sep_inj hrest
    exact ⟨name_injective hverb, hurl, ParameterList.asOauthBaseString_sort_inj.mp hparams⟩
  · rintro ⟨rfl, rfl, hperm⟩
    unfold canonical
    rw [ParameterList.asOauthBaseString_sort_inj.mpr hperm]

theorem keyString_eq_iff {a a' t t' : String} : keyString a t = keyString a' t' ↔ a = a' ∧ t = t' := by
  constructor
  · intro h
    unfold keyString at h
    simp only [String.append_assoc] at h
    obtain ⟨hsecret, htoken⟩ := encode_sep_inj h
    exact ⟨hsecret, HttpEncoder.encode_injective htoken⟩
  · rintro ⟨rfl, rfl⟩
    rfl

section Extraction

variable {handlers : JavaUrl.Handlers} {order : HashOrder} {request : OAuthRequest}

theorem extract_eq_ok {base : String} :
    BaseStringExtractorImpl.extract handlers order request = .ok base ↔
      request.oauthParameters ≠ [] ∧ ∃ query, request.getQueryStringParams handlers = .ok query ∧
        base = canonical request.verb request.getSanitizedUrl
          (query ++ request.bodyParams ++ request.oauthParameters) := by
  -- the order of the hash map is lost in the sorted list
  have hsort : ∀ query : List Parameter, ParameterList.asOauthBaseString (ParameterList.sort
      (query ++ request.bodyParams ++ order.entrySet request.oauthParameters)) =
      ParameterList.asOauthBaseString (ParameterList.sort
        (query ++ request.bodyParams ++ request.oauthParameters)) := fun query =>
    ParameterList.asOauthBaseString_sort_inj.mpr ((order.perm _).append_left _)
  unfold BaseStringExtractorImpl.extract BaseStringExtractorImpl.checkPreconditions
    BaseStringExtractorImpl.getSortedAndEncodedParams canonical
  simp only [except_bind_eq_ok, hsort]
  constructor
  · rintro ⟨_, hcheck, _, ⟨query, hquery, hparams⟩, hbase⟩
    split_ifs at hcheck with hempty
    obtain rfl := Except.ok.inj hparams
    exact ⟨hempty, query, hquery, (Except.ok.inj hbase).symm⟩
  · rintro ⟨hne, query, hquery, rfl⟩
    exact ⟨(), if_neg hne, _, ⟨query, hquery, rfl⟩, rfl⟩

variable {handlers' : JavaUrl.Handlers} {order' : HashOrder} {request' : OAuthRequest}

/-- The bytes that are signed are the same for two requests exactly if the secrets, the verbs and
the addresses are, and the parameters up to their order, wherever they stand. -/
theorem macInput_eq_iff {base base' apiSecret apiSecret' tokenSecret tokenSecret' : String}
    (h : BaseStringExtractorImpl.extract handlers order request = .ok base)
    (h' : BaseStringExtractorImpl.extract handlers' order' request' = .ok base') :
    macInput base apiSecret tokenSecret = macInput base' apiSecret' tokenSecret' ↔
      (apiSecret = apiSecret' ∧ tokenSecret = tokenSecret') ∧ request.verb = request'.verb ∧
        request.getSanitizedUrl = request'.getSanitizedUrl ∧
        ∃ query query', request.getQueryStringParams handlers = .ok query ∧
          request'.getQueryStringParams handlers' = .ok query' ∧
          (query ++ request.bodyParams ++ request.oauthParameters).Perm
            (query' ++ request'.bodyParams ++ request'.oauthParameters) := by
  have hutf8 : ∀ s t : String, utf8 s.toList = utf8 t.toList ↔ s = t := fun s t =>
    ⟨fun h => String.toList_injective (utf8_injective h), fun h => h ▸ rfl⟩
  obtain ⟨-, query, hquery, rfl⟩ := extract_eq_ok.mp h
  obtain ⟨-, query', hquery', rfl⟩ := extract_eq_ok.mp h'
  unfold macInput
  rw [Prod.mk.injEq, hutf8, hutf8, keyString_eq_iff, canonical_eq_iff]
  refine and_congr_right fun _ => and_congr_right fun _ => and_congr_right fun _ => ?_
  constructor
  · exact fun hperm => ⟨query, query', hquery, hquery', hperm⟩
  · rintro ⟨q, q', hq, hq', hperm⟩
    rw [hquery] at hq
    rw [hquery'] at hq'
    rwa [Except.ok.inj hq, Except.ok.inj hq']

end Extraction

/-- Another value is another text, wherever the parameter stands. -/
theorem macInput_of_changed_value :
    macInput "PUT&http%3A%2F%2Fp.example%2Fl&a%3D1%26scope%3D" "s" "t" ≠
      macInput "PUT&http%3A%2F%2Fp.example%2Fl&a%3D2%26scope%3D" "s" "t" := by
  let inBody : OAuthRequest := { verb := .PUT, url := "http://p.example:80/l"
                                 bodyParams := [⟨"a", "1"⟩], oauthParameters := [⟨"scope", ""⟩] }
  let inQuery : OAuthRequest := { verb := .PUT, url := "http://p.example/l?a=%32"
                                  oauthParameters := [⟨"scope", ""⟩] }
  have order : HashOrder := ⟨id, fun _ => List.Perm.refl _⟩
  have hbody : inBody.getQueryStringParams JavaUrl.web = .ok [] := by decide +kernel
  have hquery : inQuery.getQueryStringParams JavaUrl.web = .ok [⟨"a", "2"⟩] := by decide +kernel
  have hextract : BaseStringExtractorImpl.extract JavaUrl.web order inBody = .ok
      "PUT&http%3A%2F%2Fp.example%2Fl&a%3D1%26scope%3D" :=
    extract_eq_ok.mpr ⟨by decide, [], hbody, by decide +kernel⟩
  have hextract' : BaseStringExtractorImpl.extract JavaUrl.web order inQuery = .ok
      "PUT&http%3A%2F%2Fp.example%2Fl&a%3D2%26scope%3D" :=
    extract_eq_ok.mpr ⟨by decide, [⟨"a", "2"⟩], hquery, by decide +kernel⟩
  intro h
  obtain ⟨-, -, -, query, query', hq, hq', hperm⟩ := (macInput_eq_iff hextract hextract').mp h
  rw [hbody] at hq
  rw [hquery] at hq'
  rw [← Except.ok.inj hq, ← Except.ok.inj hq'] at hperm
  exact absurd (hperm.mem_iff.mp (show ⟨"a", "1"⟩ ∈ _ by decide)) (by decide)

/-! ### The address that is sent -/

/-- An address that is sent as it stands, with a query that more can be appended to. -/
structure Sendable (url : String) : Prop where
  plain : ∀ c ∈ url.toList, ' ' < c ∧ c ≠ '#' ∧ isLineTerminator c = false
  query : ∀ query, getQuery url = some query → query ≠ "" ∧ query.toList.getLast? ≠ some '&'
  http : JavaText.startsWith url "http://" → ¬":80".toList <:+ url.toList
  https : JavaText.startsWith url "https://" → ¬":443".toList <:+ url.toList

section Appending

variable {url : String} {params : List Parameter}

theorem lt_of_unreserved {c : Char} (h : HttpEncoder.unreserved c) : ' ' < c := by
  unfold HttpEncoder.unreserved at h
  rw [Bool.or_eq_true, decide_eq_true_eq] at h
  rcases h with h | h
  · have halphanum : c.isAlphanum = (decide ('A'.val ≤ c.val ∧ c.val ≤ 'Z'.val) ||
        (decide ('a'.val ≤ c.val) && decide (c.val ≤ 'z'.val)) ||
        (decide ('0'.val ≤ c.val) && decide (c.val ≤ '9'.val))) := rfl
    simp only [halphanum, Bool.or_eq_true, Bool.and_eq_true, decide_eq_true_eq,
      UInt32.le_iff_toNat_le] at h
    rw [Char.lt_def, UInt32.lt_iff_toNat_lt]
    change 32 < c.val.toNat
    change ((65 ≤ c.val.toNat ∧ c.val.toNat ≤ 90) ∨ (97 ≤ c.val.toNat ∧ c.val.toNat ≤ 122)) ∨
      (48 ≤ c.val.toNat ∧ c.val.toNat ≤ 57) at h
    omega
  · have hall : ∀ c ∈ ['-', '.', '_', '~'], ' ' < c := List.all_iff_forall_prop.mp (by decide)
    exact hall c h

theorem mem_form {c : Char} (h : c ∈ (ParameterList.asFormUrlEncodedString params).toList) :
    HttpEncoder.unreserved c ∨ c ∈ ['%', '=', '&'] := by
  by_cases hamp : c = '&'
  · rw [hamp]
    exact .inr (by decide)
  by_cases heq : c = '='
  · rw [heq]
    exact .inr (by decide)
  by_contra hnot
  rw [not_or] at hnot
  have hc : c ≠ '%' ∧ HttpEncoder.unreserved c = false := by
    refine ⟨?_, Bool.eq_false_iff.mpr hnot.1⟩
    rintro rfl
    exact hnot.2 (by decide)
  rw [ParameterList.toList_asFormUrlEncodedString] at h
  have hparts : ∀ parts : List (List Char), c ∈ ['&'].intercalate parts →
      ∃ part ∈ parts, c ∈ part := by
    intro parts hmem
    cases parts with
    | nil => cases hmem
    | cons part parts =>
      rw [Delimited.intercalate_cons, List.mem_append] at hmem
      rcases hmem with hmem | hmem
      · exact ⟨part, List.mem_cons_self, hmem⟩
      · obtain ⟨other, hother, hin⟩ := List.mem_flatMap.mp hmem
        rcases List.mem_append.mp hin with hin | hin
        · exact absurd (List.mem_singleton.mp hin) hamp
        · exact ⟨other, List.mem_cons_of_mem _ hother, hin⟩
  obtain ⟨part, hpart, hmem⟩ := hparts _ h
  obtain ⟨p, -, rfl⟩ := List.mem_map.mp hpart
  exact ParameterList.notMem_pair p hc heq hmem

/-- What every character of a written query is. -/
theorem plain_of_mem_form {c : Char}
    (h : c ∈ (ParameterList.asFormUrlEncodedString params).toList) :
    (' ' < c ∧ c ≠ '#' ∧ isLineTerminator c = false) ∧ c ≠ '?' ∧ c ≠ ':' := by
  rcases mem_form h with hplain | hsign
  · have hne : ∀ x, HttpEncoder.unreserved x = false → c ≠ x := by
      rintro x hx rfl
      rw [hx] at hplain
      cases hplain
    refine ⟨⟨lt_of_unreserved hplain, hne _ (by decide), ?_⟩, hne _ (by decide), hne _ (by decide)⟩
    unfold isLineTerminator
    rw [decide_eq_false_iff_not]
    intro hmem
    have hall : ∀ x ∈ ['\n', '\r', '\u0085', '\u2028', '\u2029'],
        HttpEncoder.unreserved x = false := List.all_iff_forall_prop.mp (by decide)
    exact hne c (hall c hmem) rfl
  · have hall : ∀ c ∈ ['%', '=', '&'],
        (' ' < c ∧ c ≠ '#' ∧ isLineTerminator c = false) ∧ c ≠ '?' ∧ c ≠ ':' :=
      List.all_iff_forall_prop.mp (by decide)
    exact hall c hsign

theorem trim_of_plain {text : String} (h : ∀ c ∈ text.toList, ' ' < c) :
    JavaText.trim text = text := by
  have hfalse : ∀ c ∈ text.toList, ¬(decide (c ≤ ' ') = true) := fun c hc =>
    fun hle => absurd (of_decide_eq_true hle) (Char.not_le.mpr (h c hc))
  apply String.toList_injective
  rw [JavaText.toList_trim]
  have hdrop : text.toList.dropWhile (fun c => decide (c ≤ ' ')) = text.toList := by
    rw [List.dropWhile_eq_self_iff]
    intro hpos
    exact hfalse _ (List.getElem_mem hpos)
  rw [hdrop, List.rdropWhile_eq_self_iff]
  intro hne
  exact hfalse _ (List.getLast_mem hne)

theorem getQuery_of_plain {text : String} (h : ∀ c ∈ text.toList, ' ' < c ∧ c ≠ '#') :
    getQuery text =
      if '?' ∈ text.toList then some (String.ofList (text.toList.dropWhile (· ≠ '?')).tail)
      else none := by
  have htake : text.toList.takeWhile (fun c => decide (c ≠ '#')) = text.toList := by
    rw [List.takeWhile_eq_self_iff]
    intro c hc
    exact decide_eq_true (h c hc).2
  unfold getQuery
  rw [trim_of_plain fun c hc => (h c hc).1, htake]

theorem withoutQueries_of_plain {s : List Char} (h : ∀ c ∈ s, isLineTerminator c = false) :
    withoutQueries true s = [] ∧ withoutQueries false s = s.takeWhile (· ≠ '?') := by
  induction s with
  | nil => exact ⟨rfl, rfl⟩
  | cons c s ih =>
    obtain ⟨hinside, houtside⟩ := ih fun d hd => h d (List.mem_cons_of_mem _ hd)
    have hc : ¬(isLineTerminator c = true) := Bool.eq_false_iff.mp (h c List.mem_cons_self)
    constructor
    · rw [withoutQueries, if_neg hc, hinside]
    · rw [withoutQueries, List.takeWhile_cons]
      by_cases hquery : c = '?'
      · rw [if_pos hquery, hinside, hquery]
        rfl
      · rw [if_neg hquery, houtside, if_pos (decide_eq_true hquery)]

/-- The sign that the written parameters are appended with. -/
def separator (url : String) : Char := if '?' ∈ url.toList then '&' else '?'

theorem toList_appendTo (hparams : params ≠ []) :
    (ParameterList.appendTo params url).toList = url.toList ++
      separator url :: (ParameterList.asFormUrlEncodedString params).toList := by
  have hne := mt ParameterList.asFormUrlEncodedString_eq_empty.mp hparams
  unfold ParameterList.appendTo separator
  rw [if_neg hne, String.toList_append, String.toList_append]
  split_ifs <;> simp

theorem plain_appendTo (h : Sendable url) (hparams : params ≠ []) :
    ∀ c ∈ (ParameterList.appendTo params url).toList,
      ' ' < c ∧ c ≠ '#' ∧ isLineTerminator c = false := by
  intro c hc
  rw [toList_appendTo hparams, List.mem_append, List.mem_cons] at hc
  rcases hc with hc | rfl | hc
  · exact h.plain c hc
  · unfold separator
    split_ifs <;> decide
  · exact (plain_of_mem_form hc).1

theorem dropWhile_appendTo (hparams : params ≠ []) :
    (ParameterList.appendTo params url).toList.dropWhile (· ≠ '?') =
      url.toList.dropWhile (· ≠ '?') ++
        separator url :: (ParameterList.asFormUrlEncodedString params).toList := by
  rw [toList_appendTo hparams]
  by_cases hquery : '?' ∈ url.toList
  · have hdrop : url.toList.dropWhile (· ≠ '?') ≠ [] := by
      rw [ne_eq, List.dropWhile_eq_nil_iff]
      intro hall
      exact of_decide_eq_true (hall '?' hquery) rfl
    rw [List.dropWhile_append, if_neg (by rwa [List.isEmpty_iff])]
  · have hall : ∀ c ∈ url.toList, decide (c ≠ '?') = true := by
      intro c hc
      apply decide_eq_true
      rintro rfl
      exact hquery hc
    rw [List.dropWhile_append_of_pos hall, List.dropWhile_eq_nil_iff.mpr hall, List.nil_append]
    unfold separator
    rw [if_neg hquery]
    rfl

/-- Nothing of the query is lost, and the parameters are read after it. -/
theorem ofQuerystring_appendTo (h : Sendable url) (hblank : ⟨"", ""⟩ ∉ params) :
    ParameterList.ofQuerystring (getQuery (ParameterList.appendTo params url)) =
      ParameterList.ofQuerystring (getQuery url) ++ params := by
  by_cases hparams : params = []
  · rw [hparams, List.append_nil]
    rfl
  have hkept : params.filter (· ≠ ⟨"", ""⟩) = params := by
    rw [List.filter_eq_self]
    intro p hp
    apply decide_eq_true
    rintro rfl
    exact hblank hp
  have hmem : '?' ∈ (ParameterList.appendTo params url).toList := by
    rw [toList_appendTo hparams, List.mem_append, List.mem_cons]
    unfold separator
    by_cases hquery : '?' ∈ url.toList
    · exact .inl hquery
    · rw [if_neg hquery]
      exact .inr (.inl rfl)
  have hcomplete := getQuery_of_plain fun c hc =>
    ⟨(plain_appendTo h hparams c hc).1, (plain_appendTo h hparams c hc).2.1⟩
  have hown := getQuery_of_plain fun c hc => ⟨(h.plain c hc).1, (h.plain c hc).2.1⟩
  rw [if_pos hmem, dropWhile_appendTo hparams] at hcomplete
  rw [hcomplete]
  unfold separator
  by_cases hquery : '?' ∈ url.toList
  · rw [if_pos hquery] at hown ⊢
    obtain ⟨hne, hlast⟩ := h.query _ hown
    have hdrop : url.toList.dropWhile (· ≠ '?') ≠ [] := by
      intro hnil
      rw [hnil] at hne
      exact hne rfl
    have htext : String.ofList (url.toList.dropWhile (· ≠ '?') ++
        '&' :: (ParameterList.asFormUrlEncodedString params).toList).tail =
        String.ofList (url.toList.dropWhile (· ≠ '?')).tail ++ "&" ++
          ParameterList.asFormUrlEncodedString params := by
      apply String.toList_injective
      rw [String.toList_ofList, List.tail_append_of_ne_nil hdrop, String.toList_append,
        String.toList_append, String.toList_ofList, List.append_assoc]
      rfl
    rw [htext, ParameterList.ofQuerystring_append hne hlast hparams, hkept, hown]
  · rw [if_neg hquery] at hown ⊢
    have hdrop : url.toList.dropWhile (· ≠ '?') = [] := by
      rw [List.dropWhile_eq_nil_iff]
      intro c hc
      apply decide_eq_true
      rintro rfl
      exact hquery hc
    rw [hdrop, List.nil_append, List.tail_cons, String.ofList_toList,
      ParameterList.ofQuerystring_form, hkept, hown]
    rfl

/-! The address without the query and a default port. -/

theorem prefix_append_cons_iff {pat s t : List Char} {c : Char} (hc : c ∉ pat) :
    pat <+: s ++ c :: t ↔ pat <+: s := by
  constructor
  · intro h
    rcases List.prefix_or_prefix_of_prefix h (⟨t, by simp⟩ : s ++ [c] <+: s ++ c :: t) with h' | h'
    · rcases List.prefix_concat_iff.mp h' with heq | hpre
      · exact absurd (heq ▸ List.mem_append_right _ List.mem_cons_self) hc
      · exact hpre
    · exact absurd (h'.subset (List.mem_append_right _ List.mem_cons_self)) hc
  · exact fun h => h.trans (List.prefix_append _ _)

theorem infix_append_cons {pat s t : List Char} {c : Char} (hc : c ∉ pat)
    (h : pat <:+: s ++ c :: t) : pat <:+: s ∨ pat <:+: t := by
  induction s with
  | nil =>
    rcases List.infix_cons_iff.mp h with h | h
    · have hnil := (prefix_append_cons_iff (s := []) hc).mp h
      exact .inl hnil.isInfix
    · exact .inr h
  | cons d s ih =>
    rcases List.infix_cons_iff.mp h with h | h
    · have hown := (prefix_append_cons_iff (s := d :: s) hc).mp h
      exact .inl hown.isInfix
    · exact (ih h).imp (fun hin => hin.trans (List.suffix_cons d s).isInfix) id

theorem namesPort_appendTo {port : String} (hport : port = ":80" ∨ port = ":443")
    (hend : ¬port.toList <:+ url.toList) (hparams : params ≠ []) :
    namesPort (ParameterList.appendTo params url) port = namesPort url port := by
  have hfacts : ∀ port ∈ [":80", ":443"], ':' ∈ port.toList ∧ '=' ∉ port.toList ∧
      ∀ url, separator url ∉ (port ++ "/").toList := by
    have hsigns : ∀ port ∈ [":80", ":443"], ':' ∈ port.toList ∧ '=' ∉ port.toList ∧
        '&' ∉ (port ++ "/").toList ∧ '?' ∉ (port ++ "/").toList := by decide
    intro port hmem
    obtain ⟨hcolon, heq, hamp, hquery⟩ := hsigns port hmem
    refine ⟨hcolon, heq, fun url => ?_⟩
    unfold separator
    split_ifs
    · exact hamp
    · exact hquery
  obtain ⟨hcolon, heq, hsep⟩ := hfacts port (by simpa using hport)
  have hnotIn : ':' ∉ (ParameterList.asFormUrlEncodedString params).toList :=
    fun hmem => (plain_of_mem_form hmem).2.2 rfl
  have hequals : '=' ∈ (ParameterList.asFormUrlEncodedString params).toList := by
    cases params with
    | nil => exact absurd rfl hparams
    | cons p ps =>
      rw [ParameterList.toList_asFormUrlEncodedString, List.map_cons,
        Delimited.intercalate_cons]
      exact List.mem_append_left _ (ParameterList.eq_mem_pair p)
  unfold namesPort
  rw [Bool.eq_iff_iff, Bool.or_eq_true, Bool.or_eq_true, List.isSuffixOf_iff_suffix,
    List.isSuffixOf_iff_suffix, JavaText.contains_iff, JavaText.contains_iff,
    toList_appendTo hparams]
  have hnotEnd : ¬port.toList <:+ url.toList ++
      separator url :: (ParameterList.asFormUrlEncodedString params).toList := by
    intro h
    have hform : (ParameterList.asFormUrlEncodedString params).toList <:+ url.toList ++
        separator url :: (ParameterList.asFormUrlEncodedString params).toList :=
      (List.suffix_cons _ _).trans (List.suffix_append _ _)
    rcases List.suffix_or_suffix_of_suffix h hform with h | h
    · exact hnotIn (h.subset hcolon)
    · exact heq (h.subset hequals)
  refine or_congr (iff_of_false hnotEnd hend) ?_
  constructor
  · intro h
    refine (infix_append_cons (hsep url) h).resolve_right fun h => hnotIn (h.subset ?_)
    rw [String.toList_append]
    exact List.mem_append_left _ hcolon
  · exact fun h => h.trans (List.prefix_append _ _).isInfix

theorem startsWith_appendTo {scheme : String} (hscheme : '&' ∉ scheme.toList ∧ '?' ∉ scheme.toList)
    (hparams : params ≠ []) :
    JavaText.startsWith (ParameterList.appendTo params url) scheme =
      JavaText.startsWith url scheme := by
  have hsep : separator url ∉ scheme.toList := by
    unfold separator
    split_ifs
    · exact hscheme.1
    · exact hscheme.2
  unfold JavaText.startsWith
  rw [Bool.eq_iff_iff, List.isPrefixOf_iff_prefix, List.isPrefixOf_iff_prefix,
    toList_appendTo hparams, prefix_append_cons_iff hsep]

theorem withoutQueries_appendTo (h : Sendable url) (hparams : params ≠ []) :
    withoutQueries false (ParameterList.appendTo params url).toList =
      withoutQueries false url.toList := by
  have hcomplete := fun c hc => (plain_appendTo h hparams c hc).2.2
  rw [(withoutQueries_of_plain hcomplete).2, (withoutQueries_of_plain fun c hc => (h.plain c hc).2.2).2,
    toList_appendTo hparams]
  by_cases hquery : '?' ∈ url.toList
  · have htake : (url.toList.takeWhile (· ≠ '?')).length ≠ url.toList.length := by
      intro hlength
      have hself := (List.takeWhile_prefix fun c => decide (c ≠ '?')).eq_of_length hlength
      exact of_decide_eq_true (List.takeWhile_eq_self_iff.mp hself '?' hquery) rfl
    rw [List.takeWhile_append, if_neg htake]
  · have hall : ∀ c ∈ url.toList, decide (c ≠ '?') = true := by
      intro c hc
      apply decide_eq_true
      rintro rfl
      exact hquery hc
    rw [List.takeWhile_append_of_pos hall, List.takeWhile_eq_self_iff.mpr hall]
    unfold separator
    rw [if_neg hquery, List.takeWhile_cons, if_neg (by decide), List.append_nil]

/-- The address that is signed is the same one before and after. -/
theorem getSanitizedUrl_appendTo {request complete : OAuthRequest} (h : Sendable request.url)
    (hurl : complete.url = ParameterList.appendTo params request.url) :
    complete.getSanitizedUrl = request.getSanitizedUrl := by
  by_cases hparams : params = []
  · rw [hparams] at hurl
    have hsame : complete.url = request.url := hurl
    unfold OAuthRequest.getSanitizedUrl
    rw [hsame]
  have hport : ∀ scheme port : String, ('&' ∉ scheme.toList ∧ '?' ∉ scheme.toList) →
      (port = ":80" ∨ port = ":443") →
      (JavaText.startsWith request.url scheme → ¬port.toList <:+ request.url.toList) →
      (JavaText.startsWith (ParameterList.appendTo params request.url) scheme &&
        namesPort (ParameterList.appendTo params request.url) port) =
      (JavaText.startsWith request.url scheme && namesPort request.url port) := by
    intro scheme port hscheme hport hend
    rw [startsWith_appendTo hscheme hparams]
    cases hstart : JavaText.startsWith request.url scheme with
    | false => rfl
    | true => rw [namesPort_appendTo hport (hend hstart) hparams]
  unfold OAuthRequest.getSanitizedUrl
  rw [hurl, withoutQueries_appendTo h hparams, hport _ _ (by decide) (.inl rfl) h.http,
    hport _ _ (by decide) (.inr rfl) h.https]

end Appending

/-! ### Signing -/

/-- More parameters are signed than before, with names of their own. -/
structure Extends (request unsigned : OAuthRequest) : Prop where
  verb : unsigned.verb = request.verb
  url : unsigned.url = request.url
  querystringParams : unsigned.querystringParams = request.querystringParams
  bodyParams : unsigned.bodyParams = request.bodyParams
  oauthParameters : ∀ p ∈ unsigned.oauthParameters,
    p ∈ request.oauthParameters ∨ p.key ≠ SIGNATURE ∧ p.key ≠ ""

section Signing

variable {request unsigned next sent : OAuthRequest} {service : OAuth10aServiceImpl}
  {timestamp nonce : String} {token : Token}

theorem Extends.refl (request : OAuthRequest) : Extends request request :=
  ⟨rfl, rfl, rfl, rfl, fun _ => .inl⟩

theorem addOAuthParameter_eq_ok {key value : String}
    (h : request.addOAuthParameter key value = .ok next) : next = request.addParameter key value := by
  unfold OAuthRequest.addOAuthParameter at h
  split_ifs at h
  exact (Except.ok.inj h).symm

theorem Extends.addOAuthParameter {key value : String} (h : Extends request unsigned)
    (hkey : key ≠ SIGNATURE ∧ key ≠ "") (hadd : unsigned.addOAuthParameter key value = .ok next) :
    Extends request next := by
  rw [addOAuthParameter_eq_ok hadd]
  refine ⟨h.verb, h.url, h.querystringParams, h.bodyParams, ?_⟩
  intro p hp
  rcases List.mem_append.mp hp with hp | hp
  · exact h.oauthParameters p (List.mem_of_mem_filter hp)
  · rw [List.mem_singleton.mp hp]
    exact .inr hkey

theorem addUnsigned_extends (h : Extends request unsigned)
    (hadd : service.addUnsigned timestamp nonce unsigned = .ok next) : Extends request next := by
  unfold OAuth10aServiceImpl.addUnsigned at hadd
  simp only [except_bind_eq_ok] at hadd
  obtain ⟨_, htimestamp, _, hnonce, _, hkey, _, hmethod, _, hversion, hscope⟩ := hadd
  have hall := ((((h.addOAuthParameter (by decide) htimestamp).addOAuthParameter (by decide)
    hnonce).addOAuthParameter (by decide) hkey).addOAuthParameter (by decide)
    hmethod).addOAuthParameter (by decide) hversion
  cases hconfig : service.config.scope with
  | none =>
    rw [hconfig] at hscope
    rw [← Except.ok.inj hscope]
    exact hall
  | some scope =>
    rw [hconfig] at hscope
    exact hall.addOAuthParameter (by decide) hscope

/-- The signature is over the request with all parameters but itself. -/
theorem signRequest_eq_ok (h : service.signRequest timestamp nonce token request = .ok sent) :
    ∃ unsigned base signature, Extends request unsigned ∧
      BaseStringExtractorImpl.extract service.handlers service.order unsigned = .ok base ∧
      service.signatureService.getSignature base service.config.apiSecret token.secret =
        .ok signature ∧
      service.appendSignature (unsigned.addParameter SIGNATURE signature) = .ok sent := by
  unfold OAuth10aServiceImpl.signRequest OAuth10aServiceImpl.addOAuthParams
    OAuth10aServiceImpl.getSignature at h
  simp only [except_bind_eq_ok] at h
  obtain ⟨first, hfirst, signed, ⟨unsigned, hunsigned, signature, ⟨base, hbase, hsignature⟩,
    hsigned⟩, hsent⟩ := h
  have hextends : Extends request first := by
    unfold OAuth10aServiceImpl.addToken at hfirst
    split_ifs at hfirst
    · rw [← Except.ok.inj hfirst]
      exact .refl request
    · exact (Extends.refl request).addOAuthParameter (by decide) hfirst
  rw [addOAuthParameter_eq_ok hsigned] at hsent
  exact ⟨unsigned, base, signature, addUnsigned_extends hextends hunsigned, hbase, hsignature, hsent⟩

theorem foldl_addQuerystringParameter (entries : List Parameter) (request : OAuthRequest) :
    entries.foldl (fun request entry => request.addQuerystringParameter entry.key entry.value)
        request =
      { request with querystringParams := request.querystringParams ++ entries } := by
  induction entries generalizing request with
  | nil => rw [List.foldl_nil, List.append_nil]
  | cons entry entries ih =>
    rw [List.foldl_cons, ih]
    simp [OAuthRequest.addQuerystringParameter]

/-- The signature goes where the type of signature says, with everything that was signed. -/
theorem appendSignature_eq_ok (h : service.appendSignature unsigned = .ok sent) :
    (service.config.signatureType = some .Header ∧ sent.verb = unsigned.verb ∧
      sent.url = unsigned.url ∧ sent.querystringParams = unsigned.querystringParams ∧
      sent.bodyParams = unsigned.bodyParams ∧ sent.oauthParameters = unsigned.oauthParameters) ∨
    service.config.signatureType = some .QueryString ∧ sent.verb = unsigned.verb ∧
      sent.url = unsigned.url ∧ sent.bodyParams = unsigned.bodyParams ∧
      sent.querystringParams =
        unsigned.querystringParams ++ service.order.entrySet unsigned.oauthParameters := by
  unfold OAuth10aServiceImpl.appendSignature at h
  cases htype : service.config.signatureType with
  | none =>
    rw [htype] at h
    cases h
  | some type =>
    rw [htype] at h
    cases type with
    | Header =>
      obtain ⟨header, -, hsent⟩ := except_bind_eq_ok.mp h
      rw [← Except.ok.inj hsent]
      exact .inl ⟨rfl, rfl, rfl, rfl, rfl, rfl⟩
    | QueryString =>
      rw [← Except.ok.inj h, foldl_addQuerystringParameter]
      exact .inr ⟨rfl, rfl, rfl, rfl, rfl⟩

end Signing

/-! ### Checking what arrives -/

/-- The request as it arrives: the address is complete, and a header brings the parameters back. -/
def received (signatureType : Option SignatureType) (sent : OAuthRequest) : OAuthRequest where
  verb := sent.verb
  url := sent.getCompleteUrl
  bodyParams := sent.bodyParams
  oauthParameters := if signatureType = some .Header then sent.oauthParameters else []

/-- The only signature among the parameters is the one over all others. -/
def Verifies (service : OAuth10aServiceImpl) (token : Token) (request : OAuthRequest) : Prop :=
  ∃ query signature, request.getQueryStringParams service.handlers = .ok query ∧
    let params := query ++ request.bodyParams ++ request.oauthParameters
    params.filter (·.key = SIGNATURE) = [⟨SIGNATURE, signature⟩] ∧
    service.signatureService.getSignature
      (canonical request.verb request.getSanitizedUrl (params.filter (·.key ≠ SIGNATURE)))
      service.config.apiSecret token.secret = .ok signature

section Checking

variable {request unsigned sent : OAuthRequest} {service : OAuth10aServiceImpl} {token : Token}

theorem filter_signature {params others : List Parameter} {signature : String}
    (hperm : params.Perm (others ++ [⟨SIGNATURE, signature⟩]))
    (hothers : ∀ p ∈ others, p.key ≠ SIGNATURE) :
    params.filter (·.key = SIGNATURE) = [⟨SIGNATURE, signature⟩] ∧
      (params.filter (·.key ≠ SIGNATURE)).Perm others := by
  have hnone : others.filter (·.key = SIGNATURE) = [] := by
    rw [List.filter_eq_nil_iff]
    intro p hp hkey
    exact hothers p hp (of_decide_eq_true hkey)
  have hall : others.filter (·.key ≠ SIGNATURE) = others := by
    rw [List.filter_eq_self]
    exact fun p hp => decide_eq_true (hothers p hp)
  have hkept : [(⟨SIGNATURE, signature⟩ : Parameter)].filter (·.key = SIGNATURE) =
      [⟨SIGNATURE, signature⟩] := by simp
  have hdropped : [(⟨SIGNATURE, signature⟩ : Parameter)].filter (·.key ≠ SIGNATURE) = [] := by simp
  have hown := hperm.filter (·.key = SIGNATURE)
  have hrest := hperm.filter (·.key ≠ SIGNATURE)
  rw [List.filter_append, hnone, List.nil_append, hkept] at hown
  rw [List.filter_append, hall, hdropped, List.append_nil] at hrest
  exact ⟨List.perm_singleton.mp hown, hrest⟩

theorem oauthParameters_signed (hfresh : ∀ p ∈ unsigned.oauthParameters, p.key ≠ SIGNATURE)
    (signature : String) : (unsigned.addParameter SIGNATURE signature).oauthParameters =
      unsigned.oauthParameters ++ [⟨SIGNATURE, signature⟩] := by
  have hkept : unsigned.oauthParameters.filter (·.key ≠ SIGNATURE) = unsigned.oauthParameters := by
    rw [List.filter_eq_self]
    exact fun p hp => decide_eq_true (hfresh p hp)
  exact congrArg (· ++ [⟨SIGNATURE, signature⟩]) hkept

/-- The parameters that are added on the way to the signature have names. -/
theorem blank_notMem_signed
    (hblank : ⟨"", ""⟩ ∉ request.querystringParams ++ request.oauthParameters)
    (hextends : Extends request unsigned) (signature : String) :
    ⟨"", ""⟩ ∉ unsigned.querystringParams ++
      (unsigned.oauthParameters ++ [⟨SIGNATURE, signature⟩]) := by
  rw [List.mem_append, not_or] at hblank
  rw [List.mem_append, List.mem_append, hextends.querystringParams]
  rintro (h | h | h)
  · exact hblank.1 h
  · rcases hextends.oauthParameters _ h with h | h
    · exact hblank.2 h
    · exact h.2 rfl
  · exact absurd (Parameter.mk.inj (List.mem_singleton.mp h)).1 (by decide)

/-- All parameters that were signed arrive, and the signature with them. -/
theorem parameters_received {signature : String} (hurl : Sendable request.url)
    (hblank : ⟨"", ""⟩ ∉ request.querystringParams ++ request.oauthParameters)
    (hextends : Extends request unsigned)
    (happend : service.appendSignature (unsigned.addParameter SIGNATURE signature) = .ok sent)
    (hfresh : ∀ p ∈ unsigned.oauthParameters, p.key ≠ SIGNATURE) :
    let arrived := received service.config.signatureType sent
    arrived.verb = unsigned.verb ∧ arrived.getSanitizedUrl = unsigned.getSanitizedUrl ∧
      (ParameterList.ofQuerystring (getQuery arrived.url) ++ arrived.bodyParams ++
        arrived.oauthParameters).Perm
      (ParameterList.ofQuerystring (getQuery unsigned.url) ++ unsigned.querystringParams ++
        unsigned.bodyParams ++ unsigned.oauthParameters ++ [⟨SIGNATURE, signature⟩]) := by
  intro arrived
  have hnew := oauthParameters_signed hfresh signature
  have hnotBlank := blank_notMem_signed hblank hextends signature
  have hsendable : Sendable unsigned.url := hextends.url ▸ hurl
  rcases appendSignature_eq_ok happend with
    ⟨htype, hverb, hsent, hquery, hbody, hoauth⟩ | ⟨htype, hverb, hsent, hbody, hquery⟩
  · have hcomplete : arrived.url = ParameterList.appendTo unsigned.querystringParams unsigned.url := by
      change ParameterList.appendTo sent.querystringParams sent.url = _
      rw [hquery, hsent]
      rfl
    have hparams : arrived.oauthParameters =
        unsigned.oauthParameters ++ [⟨SIGNATURE, signature⟩] := by
      change (if service.config.signatureType = some .Header then sent.oauthParameters else []) = _
      rw [if_pos htype, hoauth, hnew]
    have hbodies : arrived.bodyParams = unsigned.bodyParams := hbody
    refine ⟨hverb, getSanitizedUrl_appendTo hsendable hcomplete, ?_⟩
    rw [hcomplete, hparams, hbodies, ofQuerystring_appendTo hsendable fun h =>
      hnotBlank (List.mem_append_left _ h)]
    simp
  · have hentries := service.order.perm (unsigned.oauthParameters ++ [⟨SIGNATURE, signature⟩])
    have hcomplete : arrived.url = ParameterList.appendTo (unsigned.querystringParams ++
        service.order.entrySet (unsigned.oauthParameters ++ [⟨SIGNATURE, signature⟩]))
        unsigned.url := by
      change ParameterList.appendTo sent.querystringParams sent.url = _
      rw [hquery, hsent, hnew]
      rfl
    have hparams : arrived.oauthParameters = [] := by
      change (if service.config.signatureType = some .Header then sent.oauthParameters else []) = _
      rw [htype, if_neg (by decide)]
    have hbodies : arrived.bodyParams = unsigned.bodyParams := hbody
    refine ⟨hverb, getSanitizedUrl_appendTo hsendable hcomplete, ?_⟩
    rw [hcomplete, hparams, hbodies, ofQuerystring_appendTo hsendable, List.append_nil]
    · -- the entries have changed places with the body
      rw [← List.append_assoc, List.append_assoc _ unsigned.oauthParameters, List.append_assoc,
        List.append_assoc _ unsigned.bodyParams]
      exact ((hentries.append_right _).trans List.perm_append_comm).append_left _
    · intro h
      apply hnotBlank
      rw [List.mem_append] at h ⊢
      exact h.imp id hentries.mem_iff.mp

variable {timestamp nonce : String}

end Checking

/-! ### A photo that is added to a list -/

def photos : OAuth10aServiceImpl where
  config := { apiKey := "key", apiSecret := "kd&94", signatureType := some .Header }
  signatureService := PlaintextSignatureService
  handlers := JavaUrl.web
  order := ⟨id, fun _ => List.Perm.refl _⟩

def photoRequest : OAuthRequest where
  verb := .POST
  url := "http://photos.example:80/list?size=a+b"
  querystringParams := [⟨"file", "a~b c"⟩]
  bodyParams := [⟨"tag", ""⟩]

def photoParameters : List Parameter :=
  [⟨"oauth_token", "tok"⟩, ⟨"oauth_timestamp", "12"⟩, ⟨"oauth_nonce", "7"⟩,
    ⟨"oauth_consumer_key", "key"⟩, ⟨"oauth_signature_method", "PLAINTEXT"⟩,
    ⟨"oauth_version", "1.0"⟩, ⟨SIGNATURE, "kd%2694&s"⟩]

def photoSent : OAuthRequest :=
  { photoRequest with
    headers := [("Authorization", "OAuth oauth_token=\"tok\", oauth_timestamp=\"12\", " ++
      "oauth_nonce=\"7\", oauth_consumer_key=\"key\", oauth_signature_method=\"PLAINTEXT\", " ++
      "oauth_version=\"1.0\", oauth_signature=\"kd%252694%26s\"")]
    oauthParameters := photoParameters }

theorem photoRequest_sendable : Sendable photoRequest.url where
  plain := List.all_iff_forall_prop.mp (by decide)
  query query h := by
    have hquery : getQuery photoRequest.url = some "size=a+b" := by decide +kernel
    rw [hquery] at h
    rw [← Option.some.inj h]
    decide
  http _ := by decide
  https h := absurd h (by decide)

end MaxKey.Client
