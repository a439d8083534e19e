import Mathlib.Data.List.Sort
import MaxKey.Base64Utils
import MaxKey.OIDCIdTokenEnhancer
import MaxKey.SingleSignOn

namespace MaxKey.SingleSignOn
open JavaException Effects ReciprocalUtils Base64Utils OAuth2 OAuth2.Codecs

/-- What a row of APPS_TOKEN_BASED_DETAILS says of the contents of a token. -/
structure TokenContents where
  uid : Int := 0
  username : Int := 0
  email : Int := 0
  windowsAccount : Int := 0
  employeeNumber : Int := 0
  departmentId : Int := 0
  department : Int := 0

/-- What a row of APPS_DESKTOP_DETAILS says of the program that is started. -/
structure DesktopContents where
  programPath : Option String := none
  parameter : Option String := none
  preUsername : Option String := none
  usernameType : Option String := none
  usernameParameter : Option String := none
  prePassword : Option String := none
  passwordType : Option String := none
  passwordParameter : Option String := none
  preSubmit : Option String := none
  submitType : Option String := none
  submitKey : Option String := none

/-- The getters of what the objects hold besides. -/
structure Getters where
  isSignature : AppObject → Int
  tokenContents : AppsTokenBasedDetails → TokenContents
  desktopContents : AppsDetails → DesktopContents
  departmentId : UserInfo → Option String
  department : UserInfo → Option String
  workEmail : UserInfo → Option String
  locale : UserInfo → Option String

/-- The key store with the name and the password of an entry: its bean is missing, or every signature
throws, or it signs. -/
inductive KeyStoreLoader
  | missing
  | unusable
  | usable (sign : List UInt8 → List UInt8)

namespace KeyStoreLoader

def isMissing : KeyStoreLoader → Bool
  | missing => true
  | _ => false

/-- The signature of CertSigner, `none` where it throws. -/
def certSign : KeyStoreLoader → List UInt8 → Option (List UInt8)
  | usable sign, data => some (sign data)
  | _, _ => none

end KeyStoreLoader

/-- What an adapter uses: the platform and the libraries, the beans, and what it draws while it
serves one request. -/
structure Environment where
  platform : Platform
  base64 : Base64
  writeValueAsString : List (String × Option String) → String
  toUtc : ℤ → String
  libraries : Libraries
  getters : Getters
  keyStoreLoader : KeyStoreLoader
  jwtSignerService : DefaultJwtSigningAndValidationService
  issuer : Option String
  now : ℤ
  uuid : String

namespace HashMap

def hashCode (key : String) : ℕ :=
  (JavaText.utf16 key).foldl (fun hash c => (31 * hash + c) % 4294967296) 0

def bucket (buckets : ℕ) (key : String) : ℕ :=
  (hashCode key ^^^ (hashCode key >>> 16)) % buckets

/-- The entries of a map of up to twenty-four keys, from one bucket to the next. -/
def entrySet {α : Type} (entries : List (String × α)) : List (String × α) :=
  let buckets := if entries.length ≤ 12 then 16 else 32
  entries.insertionSort fun a b => bucket buckets a.1 ≤ bucket buckets b.1

end HashMap

def tokenBasedDetails : AppObject → Except JavaException AppsTokenBasedDetails
  | .tokenBased details => .ok details
  | _ => .error classCast

def desktopDetails : AppObject → Except JavaException AppsDetails
  | .desktop details => .ok details
  | _ => .error classCast

/-- The algorithm of a name, if there is one. -/
def algorithmOf (name : String) : Option Algorithm :=
  if name = "DES" then some .DES else if name = "DESede" then some .DESede
  else if name = "Blowfish" then some .Blowfish else if name = "AES" then some .AES else none

section Adapters

variable (e : Environment)

def passwordDecoder (encodedPassword : Option String) : Except JavaException String := do
  let encodedPassword ← present nullPointer encodedPassword
  let simple ← decoder e.platform encodedPassword
  present nullPointer simple

namespace AbstractAuthorizeAdapter

/-- The data, encoded, and its signature. -/
def signed (data : String) : Except JavaException String := do
  let signature ← present (exception "") (e.keyStoreLoader.certSign (e.platform.getBytes data))
  let token ← base64UrlEncode e.base64 (some (utf8Encode data))
  let signature ← base64UrlEncode e.base64 (some signature)
  return token ++ "." ++ signature

/-- Every exception but that of a missing bean is caught, and leaves the data as it is. -/
def sign (data : String) (app : AppObject) : Except JavaException String :=
  if isTrue (e.getters.isSignature app) then do
    failIf e.keyStoreLoader.isMissing (runtime "No bean named 'keyStoreLoader' available")
    return (signed e data).toOption.getD data
  else .ok data

/-- An algorithm of another name gives no bytes, of which no text is made. -/
def encrypt (data : String) (algorithmKey algorithm : Option String) :
    Except JavaException String := do
  let algorithmKey ← passwordDecoder e algorithmKey
  let algorithm ← present nullPointer (algorithm.bind algorithmOf)
  let encodeData := encodeText e.platform (Hex.encodeHex (utf8Encode data)) algorithmKey algorithm
  base64UrlEncode e.base64 encodeData

end AbstractAuthorizeAdapter

/-- The page that a token is submitted with. -/
def submitPage (name : String) (app : AppObject) (data : String) : Except JavaException View := do
  let details ← tokenBasedDetails app
  let action := details.redirectUri.toList.map fun url => ("action", url)
  return ⟨name, action ++ [("token", data)]⟩

namespace TokenBasedSimpleAdapter

/-- The attribute of the user that a token carries. -/
def tokenUsername (userInfo : UserInfo) (details : AppsTokenBasedDetails) : String :=
  let contents := e.getters.tokenContents details
  if isTrue contents.uid then userInfo.id
  else if isTrue contents.username then userInfo.username
  else if isTrue contents.email then textOf userInfo.email
  else if isTrue contents.windowsAccount then textOf userInfo.windowsAccount
  else if isTrue contents.employeeNumber then textOf userInfo.employeeNumber
  else if isTrue contents.departmentId then textOf (e.getters.departmentId userInfo)
  else ""

def generateInfo (userInfo : UserInfo) (app : AppObject) : Except JavaException String := do
  let details ← tokenBasedDetails app
  return tokenUsername e userInfo details ++ "@@" ++ e.toUtc e.now

end TokenBasedSimpleAdapter

def tokenBasedSimpleAdapter : AuthorizeAdapter where
  generateInfo := TokenBasedSimpleAdapter.generateInfo e
  encrypt := AbstractAuthorizeAdapter.encrypt e
  sign := AbstractAuthorizeAdapter.sign e
  authorize _ := submitPage "authorize/tokenbased_sso_submint"

namespace TokenBasedDefaultAdapter

/-- An attribute, where the details ask for it. -/
def flagged (flag : Int) (name : String) (value : Option String) : List (String × Option String) :=
  if isTrue flag then [(name, value)] else []

def beanMap (userInfo : UserInfo) (details : AppsTokenBasedDetails) (expires : ℤ) :
    List (String × Option String) :=
  let contents := e.getters.tokenContents details
  [("randomId", some e.uuid)] ++
    flagged contents.uid "uid" (some userInfo.id) ++
    flagged contents.username "username" (some userInfo.username) ++
    flagged contents.email "email" userInfo.email ++
    flagged contents.windowsAccount "windowsAccount" userInfo.windowsAccount ++
    flagged contents.employeeNumber "employeeNumber" userInfo.employeeNumber ++
    flagged contents.departmentId "departmentId" (e.getters.departmentId userInfo) ++
    flagged contents.department "department" (e.getters.department userInfo) ++
    [("displayName", userInfo.displayName), ("at", some (e.toUtc e.now)),
      ("expires", some (e.toUtc (e.now + expires * 60000)))]

def generateInfo (userInfo : UserInfo) (app : AppObject) : Except JavaException String := do
  let details ← tokenBasedDetails app
  let expires ← parseInt details.expires
  return e.writeValueAsString (HashMap.entrySet (beanMap e userInfo details expires))

end TokenBasedDefaultAdapter

def tokenBasedDefaultAdapter : AuthorizeAdapter where
  generateInfo := TokenBasedDefaultAdapter.generateInfo e
  encrypt := AbstractAuthorizeAdapter.encrypt e
  sign := AbstractAuthorizeAdapter.sign e
  authorize _ := submitPage "authorize/tokenbased_sso_submint"

/-- The claims of a token, with the key that it is to be signed with. -/
def jwtClaims (userInfo : UserInfo) (details : AppsTokenBasedDetails) (expires : ℤ)
    (kid : Option String) : JWTClaimsSet :=
  let text (value : Option String) : JwtClaim := value.elim .null .text
  [("kid", text kid), ("locale", text (e.getters.locale userInfo)),
    ("external_id", .text userInfo.id), ("user_id", .text userInfo.id),
    ("name", .text userInfo.username), ("email", text (e.getters.workEmail userInfo)),
    ("exp", .date (e.now + expires * 60000)), ("iat", .date e.now), ("jti", .text e.uuid),
    ("aud", .texts [some details.id]), ("sub", .text userInfo.username), ("iss", text e.issuer)]

namespace TokenBasedJWTAdapter

def generateInfo (userInfo : UserInfo) (app : AppObject) : Except JavaException String := do
  let details ← tokenBasedDetails app
  let service := e.jwtSignerService
  let expires ← parseInt details.expires
  let claims := jwtClaims e userInfo details expires service.defaultSignerKeyId
  let signingAlg ← JWT.newJWSHeader service.defaultAlgorithm
  let jwtToken ← service.signJwt signingAlg claims
  jwtToken.serialize e.libraries

end TokenBasedJWTAdapter

/-- A token that is not encrypted, and signed already. -/
def jwtAdapter (generateInfo : UserInfo → AppObject → Except JavaException String) :
    AuthorizeAdapter where
  generateInfo := generateInfo
  encrypt data _ _ := .ok data
  sign data _ := .ok data
  authorize _ := submitPage "authorize/tokenbased_jwt_sso_submint"

def tokenBasedJWTAdapter : AuthorizeAdapter := jwtAdapter (TokenBasedJWTAdapter.generateInfo e)

namespace TokenBasedJWTHS256Adapter

/-- Without a service a token stays plain. -/
def signWith (service : Option DefaultJwtSigningAndValidationService) (claims : JWTClaimsSet) :
    Except JavaException JWT :=
  service.elim (.ok (.plain claims)) fun service => service.signJwt "HS256" claims

def generateInfo (userInfo : UserInfo) (app : AppObject) : Except JavaException String := do
  let details ← tokenBasedDetails app
  let expires ← parseInt details.expires
  let claims := jwtClaims e userInfo details expires (some "SYMMETRIC-KEY")
  let algorithmKey ← present nullPointer details.algorithmKey
  let sharedSecret ← decoder e.platform algorithmKey
  let service ← SymmetricSigningAndValidationServiceBuilder.serviceBuilder sharedSecret
  let jwtToken ← signWith service claims
  jwtToken.serialize e.libraries

end TokenBasedJWTHS256Adapter

def tokenBasedJWTHS256Adapter : AuthorizeAdapter :=
  jwtAdapter (TokenBasedJWTHS256Adapter.generateInfo e)

namespace DesktopDefaultAdapter

def beanMap (details : AppsDetails) (appUser : Accounts) : List (String × Option String) :=
  let contents := e.getters.desktopContents details
  [("randomId", some e.uuid), ("programPath", contents.programPath),
    ("parameter", contents.parameter), ("preUsername", contents.preUsername),
    ("usernameType", contents.usernameType), ("usernameParameter", contents.usernameParameter),
    ("username", appUser.relatedUsername), ("prePassword", contents.prePassword),
    ("passwordType", contents.passwordType), ("passwordParameter", contents.passwordParameter),
    ("password", appUser.relatedPassword), ("preSubmit", contents.preSubmit),
    ("submitType", contents.submitType), ("submitKey", contents.submitKey)]

/-- The parameters of the types are looked at for a line that is not sent. -/
def generateInfo (_userInfo : UserInfo) (app : AppObject) : Except JavaException String := do
  let details ← desktopDetails app
  let contents := e.getters.desktopContents details
  let _ ← present nullPointer contents.usernameType
  let _ ← present nullPointer contents.passwordType
  let appUser ← present nullPointer details.appUser
  return e.writeValueAsString (HashMap.entrySet (beanMap e details appUser))

def encrypt (data : String) : Except JavaException String :=
  HexUtils.bytes2HexString (some (e.platform.getBytes data))

end DesktopDefaultAdapter

/-- The page that the program is started from. -/
def executePage (name : String) (app : AppObject) (data : String) : Except JavaException View := do
  let details ← desktopDetails app
  let appUser ← present nullPointer details.appUser
  let username := appUser.relatedUsername.toList.map fun text => ("username", text)
  let password := appUser.relatedPassword.toList.map fun text => ("password", text)
  return ⟨name, username ++ password ++ [("encoderParam", data)]⟩

/-- The desktop adapters differ in their page. -/
def desktopAdapter (name : String) : AuthorizeAdapter where
  generateInfo := DesktopDefaultAdapter.generateInfo e
  encrypt data _ _ := DesktopDefaultAdapter.encrypt e data
  sign := AbstractAuthorizeAdapter.sign e
  authorize _ := executePage name

def desktopDefaultAdapter : AuthorizeAdapter := desktopAdapter e "authorize/desktop_sso_execute"

def desktopQQAdapter : AuthorizeAdapter := desktopAdapter e "authorize/desktop_qq_sso_execute"

/-- What an endpoint makes of the information for a user before it is sent. -/
def AuthorizeAdapter.signTokenData (adapter : AuthorizeAdapter) (userInfo : UserInfo)
    (app : AppObject) (algorithmKey algorithm : Option String) : Except JavaException String := do
  let tokenData ← adapter.generateInfo userInfo app
  let encryptTokenData ← adapter.encrypt tokenData algorithmKey algorithm
  adapter.sign encryptTokenData app

end Adapters

/-! ### What is encrypted -/

section

variable {e : Environment} {data token key : String} {algorithmKey name : Option String}
  {algorithm : Algorithm} {app : AppObject}

/-- The key is one of the algorithm, for the check and for the cipher. -/
def Admissible (p : Platform) (key : String) (algorithm : Algorithm) : Prop :=
  keyLengthCheck key algorithm = true ∧ Fits p key algorithm

theorem encodeText_eq_some {p : Platform} {simple : String} {bytes : List UInt8} :
    encodeText p simple key algorithm = some bytes ↔ Admissible p key algorithm ∧
      p.encrypt algorithm (p.getBytes key) (utf8Encode simple) = bytes := by
  rw [encodeText, encodeBytes_eq]
  unfold Admissible
  by_cases hlength : keyLengthCheck key algorithm = true
  · by_cases hfits : Fits p key algorithm
    · simp [hlength, hfits]
    · simp [hlength, hfits]
  · simp [hlength]

/-- What encryption gives under the key: the encoded cipher text, if the key is admissible. -/
theorem encrypt_eq_ok (hkey : passwordDecoder e algorithmKey = .ok key) :
    AbstractAuthorizeAdapter.encrypt e data algorithmKey name = .ok token ↔
      ∃ algorithm, name.bind algorithmOf = some algorithm ∧ Admissible e.platform key algorithm ∧
        base64UrlEncode e.base64 (some (e.platform.encrypt algorithm (e.platform.getBytes key)
          (utf8Encode (Hex.encodeHex (utf8Encode data))))) = .ok token := by
  unfold AbstractAuthorizeAdapter.encrypt
  rw [hkey]
  simp only [except_bind_eq_ok, Except.ok.injEq, exists_eq_left', present_eq_ok]
  refine exists_congr fun algorithm => and_congr_right fun _ => ?_
  rw [base64UrlEncode_eq_ok]
  simp only [encodeText_eq_some, and_assoc, exists_and_left, exists_eq_left']

/-! ### What is signed -/

/-- The signature that is made for an application, if it asks for one and one can be made. -/
def signatureOf (e : Environment) (app : AppObject) (data : String) : Option (List UInt8) :=
  if isTrue (e.getters.isSignature app) then e.keyStoreLoader.certSign (e.platform.getBytes data)
  else none

/-- A token is the data alone, or the data and its signature, both encoded, with a dot between. -/
def Carries (e : Environment) (app : AppObject) (data token : String) : Prop :=
  (signatureOf e app data).elim (token = data) fun signature => ∃ first second,
    token = first ++ "." ++ second ∧ '.' ∉ first.toList ∧ '.' ∉ second.toList ∧
      base64UrlDecode e.base64 first = utf8Encode data ∧
        base64UrlDecode e.base64 second = signature

theorem signed_of_some {signature : List UInt8}
    (h : e.keyStoreLoader.certSign (e.platform.getBytes data) = some signature) : ∃ first second,
      AbstractAuthorizeAdapter.signed e data = .ok (first ++ "." ++ second) ∧
        '.' ∉ first.toList ∧ '.' ∉ second.toList ∧
          base64UrlDecode e.base64 first = utf8Encode data ∧
            base64UrlDecode e.base64 second = signature := by
  obtain ⟨first, hfirst, hdata, hdot⟩ := base64UrlEncode_eq e.base64 (utf8Encode data)
  obtain ⟨second, hsecond, hsignature, hdot'⟩ := base64UrlEncode_eq e.base64 signature
  refine ⟨first, second, ?_, hdot, hdot', hdata, hsignature⟩
  rw [AbstractAuthorizeAdapter.signed, h, present_some_bind, hfirst]
  simp only [bind, Except.bind, hsecond, pure, Except.pure]

/-- Signing throws only where the bean is missing. -/
theorem sign_eq (h : isTrue (e.getters.isSignature app) = true) :
    AbstractAuthorizeAdapter.sign e data app =
      if e.keyStoreLoader.isMissing then
        .error (runtime "No bean named 'keyStoreLoader' available")
      else .ok ((AbstractAuthorizeAdapter.signed e data).toOption.getD data) := by
  rw [AbstractAuthorizeAdapter.sign, if_pos h, failIf]
  split_ifs
  · rfl
  · rfl

theorem exists_sign (h : isTrue (e.getters.isSignature app) = true → e.keyStoreLoader.isMissing = false) :
    ∃ token, AbstractAuthorizeAdapter.sign e data app = .ok token := by
  by_cases hsignature : isTrue (e.getters.isSignature app) = true
  · refine ⟨_, (sign_eq hsignature).trans (if_neg ?_)⟩
    rw [h hsignature]
    exact Bool.false_ne_true
  · exact ⟨data, if_neg hsignature⟩

theorem carries_of_sign (h : AbstractAuthorizeAdapter.sign e data app = .ok token) :
    Carries e app data token := by
  unfold Carries signatureOf
  by_cases hsignature : isTrue (e.getters.isSignature app) = true
  · rw [sign_eq hsignature] at h
    rw [if_pos hsignature]
    split_ifs at h
    have htoken := Except.ok.inj h
    cases hmade : e.keyStoreLoader.certSign (e.platform.getBytes data) with
    | none =>
      -- the exception is caught, and the data stays
      rw [AbstractAuthorizeAdapter.signed, hmade] at htoken
      exact htoken.symm
    | some signature =>
      obtain ⟨first, second, hsigned, hparts⟩ := signed_of_some hmade
      rw [hsigned] at htoken
      exact ⟨first, second, htoken.symm, hparts⟩
  · rw [AbstractAuthorizeAdapter.sign, if_neg hsignature] at h
    rw [if_neg hsignature]
    exact (Except.ok.inj h).symm

theorem signTokenData_eq_ok {adapter : AuthorizeAdapter} {userInfo : UserInfo} :
    adapter.signTokenData userInfo app algorithmKey name = .ok token ↔
      ∃ info, adapter.generateInfo userInfo app = .ok info ∧
        ∃ tokenString, adapter.encrypt info algorithmKey name = .ok tokenString ∧
          adapter.sign tokenString app = .ok token := by
  simp only [AuthorizeAdapter.signTokenData, except_bind_eq_ok]

end

end MaxKey.SingleSignOn
