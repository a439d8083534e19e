import MaxKey.SignOnAccess
import MaxKey.SigningAndValidation
import MaxKey.TokenUtils

namespace MaxKey.SignedTokens
open JavaException Effects SingleSignOn AuthorizeBaseEndpoint SignOnAccess ReciprocalUtils
open Base64Utils OAuth2 OAuth2.Codecs

/-! ### What is sent -/

/-- The data is in the cookie of the response. -/
def InCookie (s : Browser) (data : String) : Prop := ∃ cookie ∈ s.cookie, cookie.value = data

/-- The data is sent, on the page of an adapter or in a cookie. -/
def Sends : EStateM.Result JavaException Browser Response → String → Prop
  | .ok (.view v) s, data => ("token", data) ∈ v.objects ∨ ("encoderParam", data) ∈ v.objects ∨
      InCookie s data
  | .ok _ s, data | .error _ s, data => InCookie s data

section Composition

variable {α : Type} {x : Action α} {f : α → Action Response} {s t : Browser} {data : String}

theorem sends_bind_of_ok {a : α} (h : x s = .ok a t) :
    Sends ((x >>= f) s) data ↔ Sends (f a t) data := by rw [bind_of_ok h]

theorem not_inCookie (h : s.cookie = none) : ¬InCookie s data := by
  intro ⟨cookie, hcookie, _⟩
  rw [h] at hcookie
  cases hcookie

theorem not_sends_error {e : JavaException} (h : s.cookie = none) :
    ¬Sends (.error e s) data := not_inCookie h

theorem sends_orThrow {e : JavaException} {o : Option α} (hcookie : s.cookie = none) :
    Sends ((orThrow e o >>= f) s) data ↔ ∃ a, o = some a ∧ Sends (f a s) data := by
  cases o with
  | none => exact iff_of_false (not_sends_error hcookie) nofun
  | some a => simp [orThrow_some_bind]

theorem sends_orError {r : Except JavaException α} (hcookie : s.cookie = none) :
    Sends ((orError r >>= f) s) data ↔ ∃ a, r = .ok a ∧ Sends (f a s) data := by
  cases r with
  | error e => exact iff_of_false (not_sends_error hcookie) nofun
  | ok a => simp [orError_ok_bind]

theorem cookie_of_leaves {a : α} (hx : Leaves Browser.cookie x) (hcookie : s.cookie = none)
    (h : x s = .ok a t) : t.cookie = none := by rw [← hcookie, ← hx s, final_of_ok h]

theorem sends_bind (hx : Leaves Browser.cookie x) (hcookie : s.cookie = none) :
    Sends ((x >>= f) s) data ↔
      ∃ a t, x s = .ok a t ∧ t.cookie = none ∧ Sends (f a t) data := by
  cases h : x s with
  | ok a t =>
    have hnone : t.cookie = none := cookie_of_leaves hx hcookie h
    rw [sends_bind_of_ok h]
    constructor
    · exact fun hsent => ⟨a, t, rfl, hnone, hsent⟩
    · rintro ⟨_, _, ⟨⟩, -, hsent⟩
      exact hsent
  | error e t =>
    -- what throws here has written no cookie
    have hnone : t.cookie = none := by rw [← hcookie, ← hx s, final_of_error h]
    rw [bind_of_error h]
    apply iff_of_false (not_sends_error hnone)
    intro ⟨a, u, hok, _⟩
    cases hok

theorem sends_page {r : Except JavaException View} (hcookie : s.cookie = none) :
    Sends ((orError r >>= fun v => pure (.view v) : Action Response) s) data ↔
      ∃ v, r = .ok v ∧ (("token", data) ∈ v.objects ∨ ("encoderParam", data) ∈ v.objects) := by
  rw [sends_orError hcookie]
  refine exists_congr fun v => and_congr_right fun _ => ?_
  have hnone : ¬InCookie s data := not_inCookie hcookie
  simp [Sends, hnone]

end Composition

section Endpoints

variable (c : SingleSignOn.Config) (db : Tables) (userInfo : UserInfo)

/-- How a token is sent, once it is made. -/
def deliver (adapter : AuthorizeAdapter) (details : AppsTokenBasedDetails) (signTokenData : String) :
    Action Response := do
  let tokenType ← orThrow nullPointer details.tokenType
  if JavaText.equalsIgnoreCase tokenType "POST" then
    return .view (← orError (adapter.authorize userInfo (.tokenBased details) signTokenData))
  else
    let name ← orError (c.cookieName details.cookieName)
    let expires ← orError (parseInt details.expires)
    let cookie : Cookie :=
      { name, value := signTokenData, maxAge := (expires * 60).bmod (2 ^ 32)
        domain := c.domainName }
    modify fun s => { s with cookie := some cookie }
    let redirectUri ← orThrow nullPointer details.redirectUri
    if JavaText.contains redirectUri c.domainName then return .redirect redirectUri
    else return .null

variable {s : Browser} {id data : String}

/-- The details with what the endpoint sets in them. -/
def withAdapter (details : AppsTokenBasedDetails) (app : Apps) : AppsTokenBasedDetails :=
  { details with adapter := app.adapter, isAdapter := app.isAdapter }

/-- What a token-based request is served with. -/
structure ServedTokenBased (s : Browser) (id : String) (details : AppsTokenBasedDetails) (app : Apps)
    (adapter : AuthorizeAdapter) : Prop where
  found : (db.tokenBasedDetails.select fun details => details.id = id).head? = some details
  served : served db s id = some app
  chosen : chooseAdapter c app.isAdapter app.adapter c.defaultTokenBasedAdapter = .ok adapter

theorem tokenBased_eq : TokenBasedAuthorizeEndpoint.authorize c db userInfo id = (do
    let application ← getApp db id
    let details ← orThrow nullPointer
      (db.tokenBasedDetails.select fun details => details.id = id).head?
    let application ← orThrow nullPointer application
    let adapter ← orError (chooseAdapter c application.isAdapter application.adapter
      c.defaultTokenBasedAdapter)
    let token ← orError (adapter.signTokenData userInfo
      (.tokenBased (withAdapter details application)) details.algorithmKey details.algorithm)
    deliver c userInfo adapter (withAdapter details application) token) := by
  simp only [AuthorizeAdapter.signTokenData, orError_bind, bind_assoc]
  rfl

/-- A token-based request sends what is delivered of the token. -/
theorem sends_tokenBased (hcookie : s.cookie = none) :
    Sends (TokenBasedAuthorizeEndpoint.authorize c db userInfo id s) data ↔
      ∃ details app adapter, ServedTokenBased c db s id details app adapter ∧
        ∃ token, adapter.signTokenData userInfo (.tokenBased (withAdapter details app))
            details.algorithmKey details.algorithm = .ok token ∧
          Sends (deliver c userInfo adapter (withAdapter details app) token
            { s with app := served db s id }) data := by
  have hkept : { s with app := served db s id }.cookie = none := hcookie
  rw [tokenBased_eq, sends_bind_of_ok (getApp_apply id s)]
  simp only [sends_orThrow hkept, sends_orError hkept]
  constructor
  · rintro ⟨details, hdetails, app, happ, adapter, hadapter, hsent⟩
    exact ⟨details, app, adapter, ⟨hdetails, happ, hadapter⟩, hsent⟩
  · rintro ⟨details, app, adapter, ⟨hdetails, happ, hadapter⟩, hsent⟩
    exact ⟨details, hdetails, app, happ, adapter, hadapter, hsent⟩

/-- There is a page to submit the token from, or a cookie to put it in. -/
def Deliverable (details : AppsTokenBasedDetails) : Prop :=
  ∃ tokenType, details.tokenType = some tokenType ∧
    (JavaText.equalsIgnoreCase tokenType "POST" = true ∨
      (∃ name, c.cookieName details.cookieName = .ok name) ∧
        ∃ expires, parseInt details.expires = .ok expires)

theorem mem_submitPage {page token : String} {app : AppObject} {v : View}
    (h : submitPage page app token = .ok v) :
    ("token", data) ∈ v.objects ∨ ("encoderParam", data) ∈ v.objects ↔ data = token := by
  obtain ⟨details, -, hv⟩ := except_bind_eq_ok.mp h
  rw [← Except.ok.inj hv]
  simp

/-- The cookie is sent whatever becomes of the redirect. -/
theorem sends_behind_cookie {token : String} {redirectUri : Option String}
    (hcookie : s.cookie.map Cookie.value = some token) :
    Sends ((do
      let redirectUri ← orThrow nullPointer redirectUri
      if JavaText.contains redirectUri c.domainName then return .redirect redirectUri
      else return .null : Action Response) s) data ↔ data = token := by
  have hin : InCookie s data ↔ data = token := by
    obtain ⟨cookie, hsome, hvalue⟩ := Option.map_eq_some_iff.mp hcookie
    unfold InCookie
    rw [hsome]
    simp [hvalue, eq_comm]
  -- a redirect that is missing throws after the cookie is written
  cases redirectUri with
  | none => exact hin
  | some url =>
    rw [orThrow_some_bind]
    split_ifs
    · exact hin
    · exact hin

theorem sends_deliver {adapter : AuthorizeAdapter} {details : AppsTokenBasedDetails}
    {page token : String} (hcookie : s.cookie = none)
    (hpage : adapter.authorize = fun _ => submitPage page) :
    Sends (deliver c userInfo adapter details token s) data ↔ Deliverable c details ∧ data = token := by
  unfold deliver Deliverable
  rw [sends_orThrow hcookie, ← exists_and_right]
  refine exists_congr fun tokenType => ?_
  rw [and_assoc]
  refine and_congr_right fun _ => ?_
  -- the token is on the page, or in the cookie
  by_cases hpost : JavaText.equalsIgnoreCase tokenType "POST" = true
  · rw [if_pos hpost, sends_page hcookie, hpage]
    simp only [hpost, true_or, true_and]
    constructor
    · rintro ⟨v, hv, hmem⟩
      exact (mem_submitPage hv).mp hmem
    · intro hsame
      have hmade : submitPage page (.tokenBased details) token = .ok ⟨page,
          details.redirectUri.toList.map (fun url => ("action", url)) ++ [("token", token)]⟩ := rfl
      exact ⟨_, hmade, (mem_submitPage hmade).mpr hsame⟩
  · rw [if_neg hpost, sends_orError hcookie]
    simp only [hpost, Bool.false_eq_true, false_or]
    rw [and_assoc, ← exists_and_right]
    refine exists_congr fun name => and_congr_right fun _ => ?_
    rw [sends_orError hcookie, ← exists_and_right]
    refine exists_congr fun expires => and_congr_right fun _ => ?_
    exact (sends_bind_of_ok (modify_apply _ s)).trans (sends_behind_cookie c rfl)

/-- The details with the account of the user. -/
def withAccount (details : AppsDetails) (appUser : Accounts) : AppsDetails :=
  { details with appUser := some appUser }

/-- How a program is started, once the account is known. -/
def launch (id : String) (details : AppsDetails) : Option Accounts → Action Response
  | none => pure (generateInitCredentialModelAndView id ("/authorize/desktop/" ++ id))
  | some appUser => do
    let adapter ← orError
      (chooseAdapter c details.isAdapter details.adapter c.defaultDesktopAdapter)
    let token ← orError
      (adapter.signTokenData userInfo (.desktop (withAccount details appUser)) none none)
    return .view (← orError
      (adapter.authorize userInfo (.desktop (withAccount details appUser)) token))

theorem desktop_eq : DesktopAuthorizeEndpoint.authorize c db userInfo id = (do
    let details ← orThrow nullPointer (getAppDetails db db.desktopDetails id)
    let appUser ← getAccounts c db userInfo details.id
    launch c userInfo id details appUser) := by
  unfold DesktopAuthorizeEndpoint.authorize
  congr 1
  funext details
  congr 1
  funext appUser
  cases appUser with
  | none => rfl
  | some appUser =>
    simp only [launch, AuthorizeAdapter.signTokenData, orError_bind, bind_assoc]
    rfl

theorem leaves_getApp (id : String) : Leaves Browser.cookie (getApp db id) := by
  intro s
  rw [final_of_ok (getApp_apply id s)]

theorem leaves_getAccounts (id : String) :
    Leaves Browser.cookie (getAccounts c db userInfo id) := by
  unfold getAccounts
  apply leaves_bind (leaves_getApp db id)
  intro application
  apply leaves_bind (leaves_orThrow _ _)
  intro application
  -- the account of the user, the shared one, the one of the system, or none
  apply leaves_ite
  · cases loadAccount db userInfo.id application.id with
    | none => exact leaves_pure _
    | some account => exact leaves_bind (leaves_orError _) fun _ => leaves_pure _
  apply leaves_ite
  · exact leaves_bind (leaves_orError _) fun _ => leaves_pure _
  apply leaves_ite
  · apply leaves_bind (leaves_orThrow _ _)
    intro attr
    exact leaves_bind (leaves_orError _) fun _ => leaves_pure _
  · exact leaves_ite (leaves_pure _) (leaves_pure _)

/-- What a desktop request is served with. -/
structure ServedDesktop (s : Browser) (id : String) (details : AppsDetails) (appUser : Accounts)
    (adapter : AuthorizeAdapter) : Prop where
  found : getAppDetails db db.desktopDetails id = some details
  account : ∃ t, getAccounts c db userInfo details.id s = .ok (some appUser) t
  chosen : chooseAdapter c details.isAdapter details.adapter c.defaultDesktopAdapter = .ok adapter

/-- A desktop request sends what a page of the adapter shows of the token. -/
theorem sends_desktop (hcookie : s.cookie = none) :
    Sends (DesktopAuthorizeEndpoint.authorize c db userInfo id s) data ↔
      ∃ details appUser adapter, ServedDesktop c db userInfo s id details appUser adapter ∧
        ∃ token, adapter.signTokenData userInfo (.desktop (withAccount details appUser)) none none =
            .ok token ∧
          ∃ v, adapter.authorize userInfo (.desktop (withAccount details appUser)) token = .ok v ∧
            (("token", data) ∈ v.objects ∨ ("encoderParam", data) ∈ v.objects) := by
  rw [desktop_eq, sends_orThrow hcookie]
  constructor
  · rintro ⟨details, hfound, hsent⟩
    obtain ⟨appUser, t, haccount, hnone, hsent⟩ :=
      (sends_bind (leaves_getAccounts c db userInfo details.id) hcookie).mp hsent
    -- without an account the user is sent to define one
    cases appUser with
    | none => exact absurd hsent (not_inCookie hnone)
    | some appUser =>
      obtain ⟨adapter, hchosen, hsent⟩ := (sends_orError hnone).mp hsent
      obtain ⟨token, htoken, hsent⟩ := (sends_orError hnone).mp hsent
      exact ⟨details, appUser, adapter, ⟨hfound, ⟨t, haccount⟩, hchosen⟩, token, htoken,
        (sends_page hnone).mp hsent⟩
  · rintro ⟨details, appUser, adapter, ⟨hfound, ⟨t, haccount⟩, hchosen⟩, token, htoken, hpage⟩
    have hnone : t.cookie = none :=
      cookie_of_leaves (leaves_getAccounts c db userInfo details.id) hcookie haccount
    refine ⟨details, hfound, ?_⟩
    rw [sends_bind_of_ok haccount]
    exact (sends_orError hnone).mpr ⟨adapter, hchosen, (sends_orError hnone).mpr ⟨token, htoken,
      (sends_page hnone).mpr hpage⟩⟩

end Endpoints

/-! ### What verifies -/

/-- The adapters of the two kinds of sign-on. -/
inductive AdapterClass
  | tokenBasedSimple
  | tokenBasedDefault
  | tokenBasedJWT
  | tokenBasedJWTHS256
  | desktopDefault
  | desktopQQ

def AdapterClass.adapter (e : Environment) : AdapterClass → AuthorizeAdapter
  | tokenBasedSimple => tokenBasedSimpleAdapter e
  | tokenBasedDefault => tokenBasedDefaultAdapter e
  | tokenBasedJWT => tokenBasedJWTAdapter e
  | tokenBasedJWTHS256 => tokenBasedJWTHS256Adapter e
  | desktopDefault => desktopDefaultAdapter e
  | desktopQQ => desktopQQAdapter e

/-- The column ISSIGNATURE of the applications, as the objects have it: the table that token-based
details are read from is without it. -/
def loaded (e : Environment) (isSignature : Apps → Int) : Environment :=
  { e with getters := { e.getters with
      isSignature := fun
        | .tokenBased _ => 0
        | .formBased details | .desktop details | .extendApi details =>
          isSignature details.toApps } }

/-- The verifiers of the three kinds of signatures: of data with the key store, of an algorithm and
claims with the key of the provider, and with a shared secret. The first two accept what the keys of
the environment sign. -/
structure Verifiers (e : Environment) where
  keyStore : List UInt8 → List UInt8 → Bool
  provider : String → JWTClaimsSet → String → Bool
  sharedSecret : String → String → JWTClaimsSet → String → Bool
  keyStore_sign : ∀ sign data, e.keyStoreLoader = .usable sign → keyStore data (sign data) = true
  provider_sign : ∀ id signer alg claims signature,
    e.jwtSignerService.defaultSignerKeyId = some id →
    e.jwtSignerService.signers id = some signer → signer alg claims = some signature →
    provider alg claims signature = true

/-- The token carries a signature that verifies. -/
def Verifies (e : Environment) (v : Verifiers e) (algorithmKey : Option String) (token : String) :
    AdapterClass → Prop
  | .tokenBasedJWT => ∃ alg claims signature,
    token = e.libraries.compact (.signed alg claims (some signature)) ∧
      v.provider alg claims signature = true
  | .tokenBasedJWTHS256 => ∃ secret claims signature,
    passwordDecoder e algorithmKey = .ok secret ∧
      token = e.libraries.compact (.signed "HS256" claims (some signature)) ∧
        v.sharedSecret secret "HS256" claims signature = true
  | _ => ∃ first second data, token = first ++ "." ++ second ∧
    base64UrlDecode e.base64 first = utf8Encode data ∧
      v.keyStore (e.platform.getBytes data) (base64UrlDecode e.base64 second) = true

/-- The application asks for a signature, itself or through its adapter. -/
def Requires (isSignature : Apps → Int) (app : Apps) (cls : AdapterClass) : Prop :=
  isTrue (isSignature app) = true ∨ cls = .tokenBasedJWT ∨ cls = .tokenBasedJWTHS256

section Chains

variable {e : Environment} {isSignature : Apps → Int} {v : Verifiers e} {userInfo : UserInfo}
  {details : AppsTokenBasedDetails} {data token : String} {algorithmKey name : Option String}

/-- The key of the details can be read, and is admissible for their algorithm. -/
def Encrypts (e : Environment) (algorithmKey name : Option String) : Prop :=
  ∃ key algorithm, passwordDecoder e algorithmKey = .ok key ∧
    name.bind algorithmOf = some algorithm ∧ Admissible e.platform key algorithm

theorem exists_encrypt_iff :
    (∃ token, AbstractAuthorizeAdapter.encrypt e data algorithmKey name = .ok token) ↔
      Encrypts e algorithmKey name := by
  constructor
  · rintro ⟨token, htoken⟩
    obtain ⟨key, hkey, -⟩ := except_bind_eq_ok.mp htoken
    obtain ⟨algorithm, hname, hadmissible, -⟩ := (encrypt_eq_ok hkey).mp htoken
    exact ⟨key, algorithm, hkey, hname, hadmissible⟩
  · rintro ⟨key, algorithm, hkey, hname, hadmissible⟩
    obtain ⟨token, htoken, -⟩ := base64UrlEncode_eq e.base64 (e.platform.encrypt algorithm
      (e.platform.getBytes key) (utf8Encode (Hex.encodeHex (utf8Encode data))))
    exact ⟨token, (encrypt_eq_ok hkey).mpr ⟨algorithm, hname, hadmissible, htoken⟩⟩

theorem not_mem_encrypt (h : AbstractAuthorizeAdapter.encrypt e data algorithmKey name = .ok token) :
    '.' ∉ token.toList := by
  obtain ⟨key, hkey, -⟩ := except_bind_eq_ok.mp h
  obtain ⟨algorithm, -, -, htoken⟩ := (encrypt_eq_ok hkey).mp h
  exact (base64UrlDecode_of_encode htoken).2

/-- Without a dot there is no signature of the key store. -/
theorem not_verifies (hdot : '.' ∉ token.toList) {cls : AdapterClass}
    (hjwt : cls ≠ .tokenBasedJWT) (hs256 : cls ≠ .tokenBasedJWTHS256) :
    ¬Verifies e v algorithmKey token cls := by
  have hnone : ¬∃ first second data, token = first ++ "." ++ second ∧
      base64UrlDecode e.base64 first = utf8Encode data ∧
        v.keyStore (e.platform.getBytes data) (base64UrlDecode e.base64 second) = true := by
    rintro ⟨first, second, data, rfl, -⟩
    exact hdot (by simp)
  cases cls with
  | tokenBasedJWT => exact absurd rfl hjwt
  | tokenBasedJWTHS256 => exact absurd rfl hs256
  | tokenBasedSimple => exact hnone
  | tokenBasedDefault => exact hnone
  | desktopDefault => exact hnone
  | desktopQQ => exact hnone

theorem signJwt_eq_ok {service : DefaultJwtSigningAndValidationService} {alg : String}
    {claims : JWTClaimsSet} {jwt : JWT} (h : service.signJwt alg claims = .ok jwt) :
    ∃ id signer, service.defaultSignerKeyId = some id ∧ service.signers id = some signer ∧
      jwt = .signed alg claims (signer alg claims) := by
  unfold DefaultJwtSigningAndValidationService.signJwt at h
  cases hid : service.defaultSignerKeyId with
  | none =>
    rw [hid] at h
    cases h
  | some id =>
    rw [hid] at h
    cases hsigner : service.signers id with
    | none =>
      simp only [hsigner] at h
      cases h
    | some signer =>
      simp only [hsigner] at h
      exact ⟨id, signer, rfl, hsigner, (Except.ok.inj h).symm⟩

/-- A token that the service has not signed has no text. -/
theorem serialize_signed {libraries : Libraries} {alg : String} {claims : JWTClaimsSet}
    {signature : Option String} (h : (JWT.signed alg claims signature).serialize libraries = .ok token) :
    ∃ value, signature = some value ∧ token = libraries.compact (.signed alg claims (some value)) := by
  cases signature with
  | none => cases h
  | some value => exact ⟨value, rfl, (Except.ok.inj h).symm⟩

theorem verifies_jwt {app : AppObject}
    (h : (tokenBasedJWTAdapter (loaded e isSignature)).signTokenData userInfo app algorithmKey name =
      .ok token) : Verifies e v algorithmKey token .tokenBasedJWT := by
  obtain ⟨info, hinfo, tokenString, hencrypted, hsigned⟩ := signTokenData_eq_ok.mp h
  obtain rfl : info = tokenString := Except.ok.inj hencrypted
  obtain rfl : info = token := Except.ok.inj hsigned
  obtain ⟨details, -, hinfo⟩ := except_bind_eq_ok.mp hinfo
  obtain ⟨expires, -, hinfo⟩ := except_bind_eq_ok.mp hinfo
  obtain ⟨alg, -, hinfo⟩ := except_bind_eq_ok.mp hinfo
  obtain ⟨jwt, hjwt, htext⟩ := except_bind_eq_ok.mp hinfo
  -- a token that could not be signed has no text to send
  obtain ⟨id, signer, hid, hsigner, rfl⟩ := signJwt_eq_ok hjwt
  obtain ⟨signature, hsignature, hcompact⟩ := serialize_signed htext
  exact ⟨alg, _, signature, hcompact, v.provider_sign id signer alg _ signature hid hsigner hsignature⟩

theorem newText_ne_none {p : Platform} {bytes : Option (List UInt8)} : newText p bytes ≠ .ok none := by
  cases bytes with
  | none => exact nofun
  | some bytes => exact nofun

/-- There is no service for any secret, and no token without one. -/
theorem not_hs256 {app : AppObject} : (tokenBasedJWTHS256Adapter (loaded e isSignature)).signTokenData
    userInfo app algorithmKey name ≠ .ok token := by
  intro h
  obtain ⟨info, hinfo, -⟩ := signTokenData_eq_ok.mp h
  obtain ⟨details, -, hinfo⟩ := except_bind_eq_ok.mp hinfo
  obtain ⟨expires, -, hinfo⟩ := except_bind_eq_ok.mp hinfo
  obtain ⟨key, -, hinfo⟩ := except_bind_eq_ok.mp hinfo
  obtain ⟨sharedSecret, hsecret, hinfo⟩ := except_bind_eq_ok.mp hinfo
  obtain ⟨service, hservice, -⟩ := except_bind_eq_ok.mp hinfo
  -- the decoder gives a text or throws, and for a text the builder throws
  cases sharedSecret with
  | none => exact newText_ne_none hsecret
  | some secret => cases hservice

/-- The encrypting adapters leave a token-based application without a signature. -/
theorem signTokenData_encrypting {adapter : AuthorizeAdapter}
    (h : adapter ∈ TokenUtils.encryptingAdapters (loaded e isSignature)) :
    adapter.signTokenData userInfo (.tokenBased details) algorithmKey name = .ok token ↔
      ∃ info, adapter.generateInfo userInfo (.tokenBased details) = .ok info ∧
        AbstractAuthorizeAdapter.encrypt (loaded e isSignature) info algorithmKey name = .ok token := by
  obtain ⟨hencrypt, hsign⟩ := TokenUtils.encrypting h
  -- token-based details are loaded without the column
  have hunsigned : ∀ data, AbstractAuthorizeAdapter.sign (loaded e isSignature) data
      (.tokenBased details) = .ok data := fun data => rfl
  rw [signTokenData_eq_ok, hencrypt, hsign]
  simp only [hunsigned, Except.ok.injEq, exists_eq_right]

/-- The information of a token that is encrypted can be made. -/
def Generates (details : AppsTokenBasedDetails) : AdapterClass → Prop
  | .tokenBasedSimple => True
  | .tokenBasedDefault => ∃ expires, parseInt details.expires = .ok expires
  | _ => False

variable (e isSignature userInfo) in
theorem exists_generateInfo {cls : AdapterClass} (h : Generates details cls) :
    cls.adapter (loaded e isSignature) ∈ TokenUtils.encryptingAdapters (loaded e isSignature) ∧
      ∃ info, (cls.adapter (loaded e isSignature)).generateInfo userInfo (.tokenBased details) =
        .ok info := by
  cases cls with
  | tokenBasedSimple => exact ⟨List.mem_cons_self, _, rfl⟩
  | tokenBasedDefault =>
    obtain ⟨expires, hexpires⟩ := h
    refine ⟨List.mem_cons_of_mem _ List.mem_cons_self, ?_⟩
    exact ⟨_, except_bind_eq_ok.mpr ⟨details, rfl, except_bind_eq_ok.mpr ⟨expires, hexpires, rfl⟩⟩⟩
  | tokenBasedJWT => exact h.elim
  | tokenBasedJWTHS256 => exact h.elim
  | desktopDefault => exact h.elim
  | desktopQQ => exact h.elim

/-- A token that is made for a token-based application is submitted from a page, and it is encrypted
only, or its signature verifies. -/
theorem tokenBased_cases {cls : AdapterClass}
    (h : (cls.adapter (loaded e isSignature)).signTokenData userInfo (.tokenBased details)
      algorithmKey name = .ok token) :
    (∃ page, (cls.adapter (loaded e isSignature)).authorize = fun _ => submitPage page) ∧
      (Generates details cls ∧ Encrypts e algorithmKey name ∨
        Verifies e v algorithmKey token cls) := by
  cases cls with
  | tokenBasedSimple =>
    obtain ⟨info, -, hencrypted⟩ := (signTokenData_encrypting List.mem_cons_self).mp h
    exact ⟨⟨_, rfl⟩, .inl ⟨trivial, exists_encrypt_iff.mp ⟨token, hencrypted⟩⟩⟩
  | tokenBasedDefault =>
    obtain ⟨info, hinfo, hencrypted⟩ :=
      (signTokenData_encrypting (List.mem_cons_of_mem _ List.mem_cons_self)).mp h
    obtain ⟨found, hfound, hinfo⟩ := except_bind_eq_ok.mp hinfo
    obtain rfl : details = found := Except.ok.inj hfound
    obtain ⟨expires, hexpires, -⟩ := except_bind_eq_ok.mp hinfo
    exact ⟨⟨_, rfl⟩, .inl ⟨⟨expires, hexpires⟩, exists_encrypt_iff.mp ⟨token, hencrypted⟩⟩⟩
  | tokenBasedJWT => exact ⟨⟨_, rfl⟩, .inr (verifies_jwt h)⟩
  | tokenBasedJWTHS256 => exact absurd h not_hs256
  | desktopDefault =>
    obtain ⟨info, hinfo, -⟩ := signTokenData_eq_ok.mp h
    cases hinfo
  | desktopQQ =>
    obtain ⟨info, hinfo, -⟩ := signTokenData_eq_ok.mp h
    cases hinfo

end Chains

/-! ### Programs that are started -/

section Desktop

variable {e : Environment} {isSignature : Apps → Int} {v : Verifiers e} {userInfo : UserInfo}
  {details : AppsDetails} {appUser : Accounts} {data token page : String}

theorem hexChar_ne_dot (i : ℕ) : HexUtils.hexChar i ≠ '.' := by
  by_cases hi : i < 16
  · have hdigit : ∀ i < 16, HexUtils.hexChar i ≠ '.' := by decide
    exact hdigit i hi
  · have hlength : HexUtils.HEX_CHAR_TABLE.length = 16 := by decide
    have hnone : HexUtils.HEX_CHAR_TABLE[i]? = none := List.getElem?_eq_none (by omega)
    rw [HexUtils.hexChar, List.getD_eq_getElem?_getD, hnone]
    decide

theorem not_mem_hex {raw : Option (List UInt8)} (h : HexUtils.bytes2HexString raw = .ok token) :
    '.' ∉ token.toList := by
  cases raw with
  | none => cases h
  | some raw =>
    rw [← Except.ok.inj h, String.toList_ofList]
    intro hmem
    obtain ⟨b, -, hdigits⟩ := List.mem_flatMap.mp hmem
    rcases List.mem_pair.mp hdigits with hhigh | hlow
    · exact hexChar_ne_dot _ hhigh.symm
    · exact hexChar_ne_dot _ hlow.symm

/-- The types of the name and of the password of the program are there. -/
def Launches (e : Environment) (details : AppsDetails) (appUser : Accounts) : Prop :=
  (∃ type, (e.getters.desktopContents (withAccount details appUser)).usernameType = some type) ∧
    ∃ type, (e.getters.desktopContents (withAccount details appUser)).passwordType = some type

theorem exists_desktopInfo_iff : (∃ info, DesktopDefaultAdapter.generateInfo (loaded e isSignature)
    userInfo (.desktop (withAccount details appUser)) = .ok info) ↔ Launches e details appUser := by
  constructor
  · intro ⟨info, hinfo⟩
    obtain ⟨found, hfound, hinfo⟩ := except_bind_eq_ok.mp hinfo
    obtain rfl : withAccount details appUser = found := Except.ok.inj hfound
    obtain ⟨usernameType, husername, hinfo⟩ := except_bind_eq_ok.mp hinfo
    obtain ⟨passwordType, hpassword, -⟩ := except_bind_eq_ok.mp hinfo
    exact ⟨⟨usernameType, present_eq_ok.mp husername⟩, ⟨passwordType, present_eq_ok.mp hpassword⟩⟩
  · intro ⟨⟨usernameType, husername⟩, ⟨passwordType, hpassword⟩⟩
    let info := (loaded e isSignature).writeValueAsString (HashMap.entrySet
      (DesktopDefaultAdapter.beanMap (loaded e isSignature) (withAccount details appUser) appUser))
    refine ⟨info, except_bind_eq_ok.mpr ⟨withAccount details appUser, rfl, ?_⟩⟩
    apply except_bind_eq_ok.mpr ⟨usernameType, present_eq_ok.mpr husername, _⟩
    exact except_bind_eq_ok.mpr ⟨passwordType, present_eq_ok.mpr hpassword, rfl⟩

theorem mem_executePage {view : View}
    (h : executePage page (.desktop (withAccount details appUser)) token = .ok view) :
    ("token", data) ∈ view.objects ∨ ("encoderParam", data) ∈ view.objects ↔ data = token := by
  rw [← Except.ok.inj h]
  simp

theorem shown_iff {adapter : AuthorizeAdapter} (hpage : adapter.authorize = fun _ => executePage page) :
    (∃ view, adapter.authorize userInfo (.desktop (withAccount details appUser)) token = .ok view ∧
      (("token", data) ∈ view.objects ∨ ("encoderParam", data) ∈ view.objects)) ↔ data = token := by
  rw [hpage]
  constructor
  · intro ⟨view, hview, hmem⟩
    exact (mem_executePage hview).mp hmem
  · intro hsame
    have hmade : executePage page (.desktop (withAccount details appUser)) token =
        .ok ⟨page, appUser.relatedUsername.toList.map (fun text => ("username", text)) ++
          appUser.relatedPassword.toList.map (fun text => ("password", text)) ++
            [("encoderParam", token)]⟩ := rfl
    exact ⟨_, hmade, (mem_executePage hmade).mpr hsame⟩

/-- Every exception of an unusable key store is caught. -/
theorem sign_unusable {app : AppObject} (hkeyStore : e.keyStoreLoader = .unusable) :
    AbstractAuthorizeAdapter.sign e data app = .ok data := by
  by_cases hsignature : isTrue (e.getters.isSignature app) = true
  · have hfailed : AbstractAuthorizeAdapter.signed e data = .error (exception "") := by
      rw [AbstractAuthorizeAdapter.signed, hkeyStore]
      rfl
    have hpresent : e.keyStoreLoader.isMissing = false := by rw [hkeyStore]; rfl
    rw [sign_eq hsignature, hpresent, hfailed]
    rfl
  · rw [AbstractAuthorizeAdapter.sign, if_neg hsignature]

variable (isSignature userInfo page) in
theorem exists_unsigned (hkeyStore : e.keyStoreLoader = .unusable)
    (hlaunches : Launches e details appUser) : ∃ token,
      (desktopAdapter (loaded e isSignature) page).signTokenData userInfo
        (.desktop (withAccount details appUser)) none none = .ok token ∧ '.' ∉ token.toList := by
  obtain ⟨info, hinfo⟩ : ∃ info, DesktopDefaultAdapter.generateInfo (loaded e isSignature) userInfo
      (.desktop (withAccount details appUser)) = .ok info := exists_desktopInfo_iff.mpr hlaunches
  obtain ⟨hex, hhex, -⟩ := HexUtils.hex2Bytes_bytes2HexString (e.platform.getBytes info)
  have hunsigned : AbstractAuthorizeAdapter.sign (loaded e isSignature) hex
      (.desktop (withAccount details appUser)) = .ok hex := sign_unusable hkeyStore
  exact ⟨hex, signTokenData_eq_ok.mpr ⟨info, hinfo, hex, hhex, hunsigned⟩, not_mem_hex hhex⟩

variable (v) in
/-- What is signed with a usable key store verifies, and a missing one throws. -/
theorem verifies_sign (hsignature : isTrue (isSignature details.toApps) = true)
    (hkeyStore : e.keyStoreLoader ≠ .unusable)
    (h : AbstractAuthorizeAdapter.sign (loaded e isSignature) data
      (.desktop (withAccount details appUser)) = .ok token) : ∃ first second data,
      token = first ++ "." ++ second ∧ base64UrlDecode e.base64 first = utf8Encode data ∧
        v.keyStore (e.platform.getBytes data) (base64UrlDecode e.base64 second) = true := by
  have hloaded : (loaded e isSignature).keyStoreLoader = e.keyStoreLoader := rfl
  have hasks : isTrue ((loaded e isSignature).getters.isSignature
      (.desktop (withAccount details appUser))) = true := hsignature
  rw [sign_eq hasks, hloaded] at h
  cases hstate : e.keyStoreLoader with
  | missing =>
    rw [hstate] at h
    cases h
  | unusable => exact absurd hstate hkeyStore
  | usable sign =>
    have hmade : (loaded e isSignature).keyStoreLoader.certSign (e.platform.getBytes data) =
        some (sign (e.platform.getBytes data)) := by
      rw [hloaded, hstate]
      rfl
    obtain ⟨first, second, hsigned, -, -, hdata, hsecond⟩ := signed_of_some hmade
    rw [hstate, hsigned] at h
    have hsecond : base64UrlDecode e.base64 second = sign (e.platform.getBytes data) := hsecond
    refine ⟨first, second, data, (Except.ok.inj h).symm, hdata, ?_⟩
    rw [hsecond]
    exact v.keyStore_sign sign _ hstate

/-- Desktop details are no token-based details: only the desktop adapters make something of them. -/
theorem desktop_cases {cls : AdapterClass} {algorithmKey name : Option String}
    (h : (cls.adapter (loaded e isSignature)).signTokenData userInfo
      (.desktop (withAccount details appUser)) algorithmKey name = .ok token) :
    (cls = .desktopDefault ∨ cls = .desktopQQ) ∧
      ∃ info hex, DesktopDefaultAdapter.generateInfo (loaded e isSignature) userInfo
          (.desktop (withAccount details appUser)) = .ok info ∧
        AbstractAuthorizeAdapter.sign (loaded e isSignature) hex
          (.desktop (withAccount details appUser)) = .ok token := by
  obtain ⟨info, hinfo, hex, -, hsign⟩ := signTokenData_eq_ok.mp h
  -- token-based adapters throw at desktop details
  cases cls with
  | tokenBasedSimple => cases hinfo
  | tokenBasedDefault => cases hinfo
  | tokenBasedJWT => cases hinfo
  | tokenBasedJWTHS256 => cases hinfo
  | desktopDefault => exact ⟨.inl rfl, info, hex, hinfo, hsign⟩
  | desktopQQ => exact ⟨.inr rfl, info, hex, hinfo, hsign⟩

theorem adapter_desktop {cls : AdapterClass} (h : cls = .desktopDefault ∨ cls = .desktopQQ) :
    ∃ page, cls.adapter e = desktopAdapter e page := by
  rcases h with rfl | rfl
  · exact ⟨_, rfl⟩
  · exact ⟨_, rfl⟩

end Desktop

section Guarded

variable (e : Environment) (isSignature : Apps → Int) (v : Verifiers e) (c : SingleSignOn.Config)
  (db : Tables) (userInfo : UserInfo) (s : Browser) (id : String)

/-- Whatever a token-based request sends for an application that requires a signature verifies. -/
def GuardedTokenBased : Prop :=
  ∀ details app cls,
    ServedTokenBased c db s id details app (cls.adapter (loaded e isSignature)) →
    Requires isSignature app cls → ∀ data,
    Sends (TokenBasedAuthorizeEndpoint.authorize c db userInfo id s) data →
    Verifies e v details.algorithmKey data cls

/-- The application asks for a signature, has an adapter that encrypts, and all that the token is
made and sent with is there. -/
def UnsignedTokenBased : Prop :=
  ∃ details app cls, ServedTokenBased c db s id details app (cls.adapter (loaded e isSignature)) ∧
    Requires isSignature app cls ∧ Generates details cls ∧
      Encrypts e details.algorithmKey details.algorithm ∧ Deliverable c (withAdapter details app)

theorem served_unique {details details' : AppsTokenBasedDetails} {app app' : Apps}
    {adapter adapter' : AuthorizeAdapter} (h : ServedTokenBased c db s id details app adapter)
    (h' : ServedTokenBased c db s id details' app' adapter') :
    details' = details ∧ app' = app ∧ adapter' = adapter := by
  obtain rfl : details' = details := Option.some.inj (h'.found.symm.trans h.found)
  obtain rfl : app' = app := Option.some.inj (h'.served.symm.trans h.served)
  exact ⟨rfl, rfl, Except.ok.inj (h'.chosen.symm.trans h.chosen)⟩

/-- The token of the served application is what is sent of it. -/
theorem sends_served {details : AppsTokenBasedDetails} {app : Apps} {adapter : AuthorizeAdapter}
    {data : String} (hcookie : s.cookie = none)
    (hserved : ServedTokenBased c db s id details app adapter) :
    Sends (TokenBasedAuthorizeEndpoint.authorize c db userInfo id s) data ↔
      ∃ token, adapter.signTokenData userInfo (.tokenBased (withAdapter details app))
          details.algorithmKey details.algorithm = .ok token ∧
        Sends (deliver c userInfo adapter (withAdapter details app) token
          { s with app := served db s id }) data := by
  rw [sends_tokenBased c db userInfo hcookie]
  constructor
  · intro ⟨details', app', adapter', hserved', hsent⟩
    obtain ⟨rfl, rfl, rfl⟩ := served_unique c db s id hserved hserved'
    exact hsent
  · intro hsent
    exact ⟨details, app, adapter, hserved, hsent⟩

theorem guardedTokenBased_iff (hcookie : s.cookie = none) :
    GuardedTokenBased e isSignature v c db userInfo s id ↔
      ¬UnsignedTokenBased e isSignature c db s id := by
  have hkept : { s with app := served db s id }.cookie = none := hcookie
  constructor
  · intro hguarded ⟨details, app, cls, hserved, hrequires, hgenerates, hencrypts, hdeliver⟩
    have hgenerates' : Generates (withAdapter details app) cls := hgenerates
    -- such a token is made and delivered, and has no dot
    obtain ⟨hmem, info, hinfo⟩ := exists_generateInfo e isSignature userInfo hgenerates'
    obtain ⟨token, hencrypted⟩ : ∃ token, AbstractAuthorizeAdapter.encrypt
        (loaded e isSignature) info details.algorithmKey details.algorithm = .ok token :=
      exists_encrypt_iff.mpr hencrypts
    have htoken := (signTokenData_encrypting hmem).mpr ⟨info, hinfo, hencrypted⟩
    obtain ⟨⟨page, hpage⟩, -⟩ := tokenBased_cases (v := v) htoken
    have hsent : Sends (TokenBasedAuthorizeEndpoint.authorize c db userInfo id s) token := by
      rw [sends_served c db userInfo s id hcookie hserved]
      exact ⟨token, htoken, (sends_deliver c userInfo hkept hpage).mpr ⟨hdeliver, rfl⟩⟩
    have hdot : '.' ∉ token.toList := not_mem_encrypt hencrypted
    have hverifies := hguarded details app cls hserved hrequires token hsent
    apply not_verifies hdot _ _ hverifies
    · rintro rfl
      exact hgenerates
    · rintro rfl
      exact hgenerates
  · intro hsigned details app cls hserved hrequires data hsent
    obtain ⟨token, htoken, hsent⟩ := (sends_served c db userInfo s id hcookie hserved).mp hsent
    obtain ⟨⟨page, hpage⟩, hcases⟩ := tokenBased_cases (v := v) htoken
    obtain ⟨hdeliver, rfl⟩ := (sends_deliver c userInfo hkept hpage).mp hsent
    apply hcases.resolve_left
    intro ⟨hgenerates, hencrypts⟩
    exact hsigned ⟨details, app, cls, hserved, hrequires, hgenerates, hencrypts, hdeliver⟩

/-- Whatever a desktop request sends for an application that requires a signature verifies. -/
def GuardedDesktop : Prop :=
  ∀ details appUser cls,
    ServedDesktop c db userInfo s id details appUser (cls.adapter (loaded e isSignature)) →
    Requires isSignature details.toApps cls → ∀ data,
    Sends (DesktopAuthorizeEndpoint.authorize c db userInfo id s) data →
    Verifies e v none data cls

/-- The key store is unusable, and a program is started for an application that asks for a signature. -/
def UnsignedDesktop : Prop :=
  e.keyStoreLoader = .unusable ∧ ∃ details appUser, ∃ cls : AdapterClass,
    ServedDesktop c db userInfo s id details appUser (cls.adapter (loaded e isSignature)) ∧
      isTrue (isSignature details.toApps) = true ∧
        (cls = .desktopDefault ∨ cls = .desktopQQ) ∧ Launches e details appUser

/-- The token of the started program is what is sent of it. -/
theorem sends_launched {details : AppsDetails} {appUser : Accounts} {adapter : AuthorizeAdapter}
    {data : String} (hcookie : s.cookie = none)
    (hserved : ServedDesktop c db userInfo s id details appUser adapter) :
    Sends (DesktopAuthorizeEndpoint.authorize c db userInfo id s) data ↔
      ∃ token, adapter.signTokenData userInfo (.desktop (withAccount details appUser)) none none =
          .ok token ∧
        ∃ view, adapter.authorize userInfo (.desktop (withAccount details appUser)) token = .ok view ∧
          (("token", data) ∈ view.objects ∨ ("encoderParam", data) ∈ view.objects) := by
  rw [sends_desktop c db userInfo hcookie]
  constructor
  · intro ⟨details', appUser', adapter', hserved', hsent⟩
    obtain rfl : details' = details := Option.some.inj (hserved'.found.symm.trans hserved.found)
    obtain ⟨t, haccount⟩ := hserved.account
    obtain ⟨t', haccount'⟩ := hserved'.account
    have hsame : EStateM.Result.ok (some appUser') t' = .ok (some appUser) t :=
      haccount'.symm.trans haccount
    injection hsame with hsome
    obtain rfl : appUser' = appUser := Option.some.inj hsome
    obtain rfl : adapter' = adapter := Except.ok.inj (hserved'.chosen.symm.trans hserved.chosen)
    exact hsent
  · intro hsent
    exact ⟨details, appUser, adapter, hserved, hsent⟩

theorem guardedDesktop_iff (hcookie : s.cookie = none) :
    GuardedDesktop e isSignature v c db userInfo s id ↔
      ¬UnsignedDesktop e isSignature c db userInfo s id := by
  constructor
  · intro hguarded ⟨hkeyStore, details, appUser, cls, hserved, hsignature, hcls, hlaunches⟩
    -- what is shown is the hexadecimal text alone
    obtain ⟨page, hadapter⟩ := adapter_desktop (e := loaded e isSignature) hcls
    obtain ⟨token, htoken, hdot⟩ := exists_unsigned isSignature userInfo page hkeyStore hlaunches
    have hsent : Sends (DesktopAuthorizeEndpoint.authorize c db userInfo id s) token := by
      rw [sends_launched c db userInfo s id hcookie hserved, hadapter]
      exact ⟨token, htoken, (shown_iff rfl).mpr rfl⟩
    have hverifies := hguarded details appUser cls hserved (.inl hsignature) token hsent
    apply not_verifies hdot _ _ hverifies
    · rintro rfl
      exact hcls.elim nofun nofun
    · rintro rfl
      exact hcls.elim nofun nofun
  · intro hsigned details appUser cls hserved hrequires data hsent
    obtain ⟨token, htoken, hshown⟩ := (sends_launched c db userInfo s id hcookie hserved).mp hsent
    obtain ⟨hcls, info, hex, hinfo, hsign⟩ := desktop_cases htoken
    have hsignature : isTrue (isSignature details.toApps) = true := by
      apply hrequires.resolve_right
      rcases hcls with rfl | rfl
      · exact nofun
      · exact nofun
    -- a token was made, so that the program can be started
    have hkeyStore : e.keyStoreLoader ≠ .unusable := by
      intro hunusable
      exact hsigned ⟨hunusable, details, appUser, cls, hserved, hsignature, hcls,
        exists_desktopInfo_iff.mp ⟨info, hinfo⟩⟩
    have hverifies := verifies_sign v hsignature hkeyStore hsign
    obtain ⟨page, hadapter⟩ := adapter_desktop (e := loaded e isSignature) hcls
    rw [hadapter] at hshown
    obtain rfl : data = token := (shown_iff rfl).mp hshown
    rcases hcls with rfl | rfl
    · exact hverifies
    · exact hverifies

end Guarded

open SymmetricSigningAndValidationServiceBuilder in
/-- For every state of the session, of the tables, of the key store and of the keys: what a token-based
request sends for an application that requires a signature verifies, unless its token is encrypted
only; what a desktop request sends verifies, unless the key store is unusable; and there is no service
of a shared secret. -/
theorem signed_iff (e : Environment) (isSignature : Apps → Int) (v : Verifiers e)
    (c : SingleSignOn.Config) (db : Tables) (userInfo : UserInfo) (app : Option Apps)
    (singleSignOnAppId : Option String) (id : String) :
    (GuardedTokenBased e isSignature v c db userInfo ⟨app, singleSignOnAppId, none⟩ id ↔
      ¬UnsignedTokenBased e isSignature c db ⟨app, singleSignOnAppId, none⟩ id) ∧
    (GuardedDesktop e isSignature v c db userInfo ⟨app, singleSignOnAppId, none⟩ id ↔
      ¬UnsignedDesktop e isSignature c db userInfo ⟨app, singleSignOnAppId, none⟩ id) ∧
    ∀ secret, secret ≠ "" → ¬∃ service, serviceOver nullKey (some secret) = .ok (some service) ∧
      SignsUnder service (v.sharedSecret secret) := by
  refine ⟨?_, ?_, ?_⟩
  · exact guardedTokenBased_iff e isSignature v c db userInfo _ id rfl
  · exact guardedDesktop_iff e isSignature v c db userInfo _ id rfl
  · intro secret _ ⟨service, hservice, _⟩
    rw [serviceOver_null rfl] at hservice
    cases hservice

section Examples

/-- What is signed with the keys verifies, and nothing else. -/
def exactVerifiers (e : Environment) : Verifiers e where
  keyStore data signature := e.keyStoreLoader.certSign data = some signature
  provider alg claims signature :=
    ((e.jwtSignerService.defaultSignerKeyId.bind e.jwtSignerService.signers).bind fun signer =>
      signer alg claims) = some signature
  sharedSecret secret _ _ signature := signature = secret
  keyStore_sign sign data hkeyStore := by
    rw [hkeyStore]
    exact decide_eq_true rfl
  provider_sign id signer alg claims signature hid hsigner hsignature := by
    rw [hid, Option.bind_some, hsigner, Option.bind_some]
    exact decide_eq_true hsignature

/-- A server that signs, and one with an unusable key store. -/
def signing : Environment := TokenUtils.testEnvironment 1

def broken : Environment :=
  { signing with
    keyStoreLoader := .unusable
    getters := { signing.getters with
      desktopContents := fun _ =>
        { usernameType := some "SIMPLE", passwordType := some "SIMPLE" } } }

/-- Every application asks for a signature. -/
def always (_ : Apps) : Int := 1

def wiringOf (e : Environment) : SingleSignOn.Config :=
  { wiring with
    defaultTokenBasedAdapter := tokenBasedSimpleAdapter (loaded e always)
    defaultDesktopAdapter := desktopDefaultAdapter (loaded e always) }

def crm : Apps := { id := "crm", status := Realm.ACTIVE }

def crmTables : Tables :=
  { apps := ⟨[crm], by decide⟩
    desktopDetails := ["crm"]
    tokenBasedDetails := ⟨[TokenUtils.crm], by decide⟩ }

open SymmetricSigningAndValidationServiceBuilder in
/-- A usable key store is not asked for the signature of a token, an unusable one sends a program its
parameters unsigned, and a secret has no service. -/
theorem unsigned :
    ¬GuardedTokenBased signing always (exactVerifiers signing) (wiringOf signing) crmTables ann {}
      "crm" ∧
    ¬GuardedDesktop broken always (exactVerifiers broken) (wiringOf broken) crmTables ann {} "crm" ∧
    ¬∃ service, serviceOver nullKey (some "secret") = .ok (some service) ∧
      SignsUnder service ((exactVerifiers signing).sharedSecret "secret") := by
  have hencrypts : Encrypts signing TokenUtils.crm.algorithmKey TokenUtils.crm.algorithm :=
    ⟨TokenUtils.testKey, .AES, TokenUtils.passwordDecoder_crm 1, rfl, TokenUtils.admissible_testKey⟩
  have htoken : UnsignedTokenBased signing always (wiringOf signing) crmTables {} "crm" :=
    ⟨TokenUtils.crm, crm, .tokenBasedSimple, ⟨by decide, by decide, rfl⟩, .inl rfl, trivial,
      hencrypts, "POST", rfl, .inl (by decide +kernel)⟩
  have hprogram : UnsignedDesktop broken always (wiringOf broken) crmTables ann {} "crm" :=
    ⟨rfl, { toApps := crm }, { username := some "ann", relatedPassword := some "ann" }, .desktopDefault,
      ⟨by decide, ⟨_, rfl⟩, rfl⟩, rfl, .inl rfl, ⟨_, rfl⟩, ⟨_, rfl⟩⟩
  refine ⟨?_, ?_, ?_⟩
  · intro hguarded
    exact (guardedTokenBased_iff _ _ _ _ _ _ _ _ rfl).mp hguarded htoken
  · intro hguarded
    exact (guardedDesktop_iff _ _ _ _ _ _ _ _ rfl).mp hguarded hprogram
  · intro ⟨service, hservice, _⟩
    cases hservice

end Examples

end MaxKey.SignedTokens
