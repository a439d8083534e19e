import MaxKey.Apps
import MaxKey.Base64Codec
import MaxKey.BasicEntryPoint
import MaxKey.StoreInterface

namespace MaxKey.AuthorizationHeaderUtils
open Realm

def BEARER : String := "Bearer "

def isBearer (bearer : String) : Bool := JavaText.startsWith bearer BEARER

/-- `none` where the header is of another scheme. -/
def resolveBearer (bearer : String) : Except JavaException (Option String) :=
  if isBearer bearer then do
    return some (← partAt (JavaText.split ' ' bearer) 1)
  else .ok none

end MaxKey.AuthorizationHeaderUtils

namespace MaxKey.PermissionAdapters
open Realm JavaException Effects AuthorizationHeaderUtils OAuth2 OAuth2.Codecs

/-- A request at an interceptor: the store that it reads, and where the request is forwarded to. -/
structure Exchange (σ : Type) where
  store : σ
  forwards : List String := []

abbrev Interceptor (σ : Type) := EStateM JavaException (Exchange σ)

variable {σ : Type}

def forwardToLogin : Interceptor σ Bool := do
  modify fun x => { x with forwards := x.forwards ++ ["/login"] }
  return false

/-- The header is looked into without a test for null. -/
def ofHeader {α : Type} (resolve : String → Except JavaException α) (authorization : Option String) :
    Except JavaException α := authorization.elim (.error nullPointer) resolve

namespace RestApiPermissionAdapter

variable (decodeBase64 : String → Except JavaException (List UInt8)) (encode : String → String)

/-- The secret that is stored for an application, letter case aside. -/
def sameSecret (app : Apps) (password : String) : Bool :=
  app.secret.any fun secret => JavaText.equalsIgnoreCase (encode password) secret

/-- The credentials are looked at where there are two parts; the application's secret is logged
before the test for null. -/
def preHandle (authorization : Option String) : Interceptor (KeyedTable Apps.id) Bool := do
  let basicUserPass ← orError (ofHeader (resolveBasic decodeBase64) authorization)
  match basicUserPass with
  | some [id, password] =>
    let app ← orThrow nullPointer (AppsService.get (← get).store id)
    if sameSecret encode app password then return true else forwardToLogin
  | _ => forwardToLogin

end RestApiPermissionAdapter

namespace Oauth20ApiPermissionAdapter

variable (store : TokenStore σ) (services : DefaultTokenServices)
  (readNull : EStateM JavaException σ (Option OAuth2AccessToken))

/-- A null is looked up like a token; what a store has for it is its own affair. -/
def loadAuthentication (now : ℕ) : Option String → EStateM JavaException σ OAuth2Authentication
  | some accessToken => store.loadAuthentication services now accessToken
  | none =>
    let ofNull : TokenStore σ := { store with readAccessToken := fun _ => readNull }
    ofNull.loadAuthentication services now "null"

/-- What is loaded is never null, so that no request comes to the forward. -/
def preHandle (now : ℕ) (authorization : Option String) : Interceptor σ Bool := do
  let accessToken ← orError (ofHeader resolveBearer authorization)
  let authentication ← focus Exchange.store (fun s x => { x with store := s })
    (some <$> loadAuthentication store services readNull now accessToken)
  if authentication.isSome then return true else forwardToLogin

end Oauth20ApiPermissionAdapter

/-- The request passes exactly where it is authorized, and any other one is forwarded to the
login. -/
structure Answers {σ : Type} (authorized : Prop) (x : Interceptor σ Bool) (s : Exchange σ) :
    Prop where
  passes : outcome x s = .ok true ↔ authorized
  forwarded : ¬authorized →
    outcome x s = .ok false ∧ (final x s).forwards = s.forwards ++ ["/login"]

section Answers

variable {authorized : Prop} {x : Interceptor σ Bool} {s t : Exchange σ}

theorem answers_of_true (h : x s = .ok true t) : Answers authorized x s ↔ authorized := by
  have hpass : outcome x s = .ok true := by simp only [outcome, h]
  constructor
  · intro hanswers
    exact hanswers.passes.mp hpass
  · intro hauthorized
    exact ⟨iff_of_true hpass hauthorized, fun hnot => absurd hauthorized hnot⟩

theorem answers_of_forward (h : x s = forwardToLogin s) : Answers authorized x s ↔ ¬authorized := by
  have hrefuse : outcome x s = .ok false := by
    rw [outcome, h]
    rfl
  have hforward : (final x s).forwards = s.forwards ++ ["/login"] := by
    rw [final, h]
    rfl
  have hnot : outcome x s ≠ .ok true := by
    rw [hrefuse]
    simp
  constructor
  · intro hanswers hauthorized
    exact hnot (hanswers.passes.mpr hauthorized)
  · intro hnone
    exact ⟨iff_of_false hnot hnone, fun _ => ⟨hrefuse, hforward⟩⟩

theorem not_answers_of_error {e : JavaException} (h : x s = .error e t) :
    ¬Answers authorized x s := by
  intro hanswers
  have hthrow : outcome x s = .error e := by simp only [outcome, h]
  by_cases hauthorized : authorized
  · have hpass := hanswers.passes.mpr hauthorized
    rw [hthrow] at hpass
    cases hpass
  · have hrefuse := (hanswers.forwarded hauthorized).1
    rw [hthrow] at hrefuse
    cases hrefuse

end Answers

namespace RestApiPermissionAdapter

variable (decodeBase64 : String → Except JavaException (List UInt8)) (encode : String → String)

/-- The header is a Basic one, with these bytes in base64. -/
def Carries (authorization : Option String) (bytes : List UInt8) : Prop :=
  ∃ basic ∈ authorization, isBasic basic ∧
    ∃ token, (JavaText.split ' ' basic)[1]? = some token ∧ decodeBase64 token = .ok bytes

/-- Basic credentials: the id stands before the first colon, and the text is in UTF-8. -/
def Presents (authorization : Option String) (id password : String) : Prop :=
  ':' ∉ id.toList ∧ Carries decodeBase64 authorization (utf8Encode (id ++ ":" ++ password))

/-- The credentials belong to an application. -/
def Authorized (apps : KeyedTable Apps.id) (authorization : Option String) : Prop :=
  ∃ id password, Presents decodeBase64 authorization id password ∧
    ∃ app ∈ AppsService.get apps id, app.secret = some (encode password)

/-- What is left of the bytes where each is a character and every colon a border. -/
def ReadAs (authorization : Option String) (id password : String) : Prop :=
  ∃ bytes, Carries decodeBase64 authorization bytes ∧
    JavaText.split ':' (bytes2String bytes) = [id, password]

/-- There is a header, a Basic one can be decoded, the application that is read from it exists, and
it does not matter to the secret how the header is read and whether letter case counts. -/
structure Legible (apps : KeyedTable Apps.id) (authorization : Option String) : Prop where
  present : authorization.isSome
  decodes : ∀ basic ∈ authorization, isBasic basic → ∃ bytes,
    Carries decodeBase64 authorization bytes
  known : ∀ id password, ReadAs decodeBase64 authorization id password →
    (AppsService.get apps id).isSome
  agrees : (∃ id password, ReadAs decodeBase64 authorization id password ∧
      ∃ app ∈ AppsService.get apps id, sameSecret encode app password) ↔
    Authorized decodeBase64 encode apps authorization

variable {decodeBase64 encode} {basic token : String} {bytes : List UInt8}
  {x : Exchange (KeyedTable Apps.id)}

theorem carries_iff (hbasic : isBasic basic) (htoken : (JavaText.split ' ' basic)[1]? = some token)
    (hbytes : decodeBase64 token = .ok bytes) {b : List UInt8} :
    Carries decodeBase64 (some basic) b ↔ b = bytes := by
  constructor
  · rintro ⟨header, hheader, -, found, hfound, hb⟩
    cases hheader
    cases htoken.symm.trans hfound
    exact Except.ok.inj (hb.symm.trans hbytes)
  · rintro rfl
    exact ⟨basic, rfl, hbasic, token, htoken, hbytes⟩

theorem readAs_iff (hbasic : isBasic basic) (htoken : (JavaText.split ' ' basic)[1]? = some token)
    (hbytes : decodeBase64 token = .ok bytes) {id password : String} :
    ReadAs decodeBase64 (some basic) id password ↔
      JavaText.split ':' (bytes2String bytes) = [id, password] := by
  unfold ReadAs
  simp only [carries_iff hbasic htoken hbytes, exists_eq_left]

/-- ASCII is read as it was written. -/
theorem bytes2String_utf8Encode {text : String} (h : ∀ b ∈ utf8Encode text, b < 128) :
    bytes2String (utf8Encode text) = text := by
  have hascii : bytes2String (utf8Encode text) = asciiText (utf8Encode text) := by
    unfold bytes2String asciiText
    congr 1
    apply List.map_congr_left
    intro b hb
    exact if_pos (h b hb)
  have hsame : utf8Encode (asciiText (utf8Encode text)) = utf8Encode text :=
    utf8Encode_asciiText fun b hb => UInt8.lt_iff_toNat_lt.mp (h b hb)
  have hdecode := utf8Decode_utf8Encode (asciiText (utf8Encode text))
  rw [hsame, utf8Decode_utf8Encode] at hdecode
  rw [hascii]
  exact (Except.ok.inj hdecode).symm

/-- Credentials in ASCII are read as they are presented, unless the password is empty or has a
colon in it. -/
theorem readAs_of_presents {authorization : Option String} {id password : String}
    (h : Presents decodeBase64 authorization id password)
    (hascii : ∀ b ∈ utf8Encode (id ++ ":" ++ password), b < 128) (hempty : password ≠ "")
    (hcolon : ':' ∉ password.toList) : ReadAs decodeBase64 authorization id password := by
  refine ⟨_, h.2, ?_⟩
  rw [bytes2String_utf8Encode hascii]
  have hchars : (id ++ ":" ++ password).toList = id.toList ++ ':' :: password.toList := by simp
  have hparts : (id.toList ++ ':' :: password.toList).splitOn ':' = [id.toList, password.toList] := by
    rw [List.splitOn_append_cons_self_of_not_mem h.1]
    rw [List.splitOn_eq_singleton hcolon]
  have hlast : password.toList.isEmpty = false := by
    cases hlist : password.toList with
    | nil => exact absurd (String.toList_inj.mp hlist) hempty
    | cons c rest => rfl
  unfold JavaText.split JavaText.splitChars
  rw [hchars, if_pos (by simp), hparts]
  simp [hlast]

/-- A header of another scheme has nothing to read. -/
theorem not_carries_of_other (hbasic : ¬isBasic basic) : ¬Carries decodeBase64 (some basic) bytes := by
  rintro ⟨header, hheader, hscheme, -⟩
  cases hheader
  exact hbasic hscheme

theorem resolveBasic_eq (hbasic : isBasic basic)
    (htoken : (JavaText.split ' ' basic)[1]? = some token) (hbytes : decodeBase64 token = .ok bytes) :
    ofHeader (resolveBasic decodeBase64) (some basic) =
      .ok (some (JavaText.split ':' (bytes2String bytes))) := by
  change resolveBasic decodeBase64 basic = _
  rw [resolveBasic, if_pos hbasic, decodeUserPass, partAt, htoken]
  change (decodeBase64 token >>= _ : Except JavaException _) >>= _ = _
  rw [hbytes]
  rfl

theorem preHandle_of_two {authorization : Option String} {id password : String}
    (h : ofHeader (resolveBasic decodeBase64) authorization = .ok (some [id, password])) :
    preHandle decodeBase64 encode authorization x =
      (orThrow nullPointer (AppsService.get x.store id) >>= fun app =>
        if sameSecret encode app password then pure true else forwardToLogin) x := by
  unfold preHandle
  rw [h]
  rfl

theorem preHandle_of_other {authorization : Option String} {found : Option (List String)}
    (h : ofHeader (resolveBasic decodeBase64) authorization = .ok found)
    (hother : ∀ id password, found ≠ some [id, password]) :
    preHandle decodeBase64 encode authorization x = forwardToLogin x := by
  unfold preHandle
  rw [h, orError_ok_bind]
  split
  · exact absurd rfl (hother _ _)
  · rfl

theorem preHandle_of_throw {authorization : Option String} {e : JavaException}
    (h : ofHeader (resolveBasic decodeBase64) authorization = .error e) :
    preHandle decodeBase64 encode authorization x = .error e x := by
  unfold preHandle
  rw [h]
  rfl

/-- A header whose token is missing or no base64 ends in an exception. -/
theorem resolveBasic_throws (hbasic : isBasic basic)
    (h : ∀ bytes, ¬Carries decodeBase64 (some basic) bytes) :
    ∃ e, ofHeader (resolveBasic decodeBase64) (some basic) = .error e := by
  cases hresolve : ofHeader (resolveBasic decodeBase64) (some basic) with
  | error e => exact ⟨e, rfl⟩
  | ok parts =>
    change resolveBasic decodeBase64 basic = _ at hresolve
    rw [resolveBasic, if_pos hbasic] at hresolve
    obtain ⟨_, hdecode, -⟩ := except_bind_eq_ok.mp hresolve
    obtain ⟨token, htoken, hdecode⟩ := except_bind_eq_ok.mp hdecode
    obtain ⟨bytes, hbytes, -⟩ := except_bind_eq_ok.mp hdecode
    exact absurd ⟨basic, rfl, hbasic, token, BasicEntryPoint.partAt_eq_ok.mp htoken, hbytes⟩ (h bytes)

section Bytes

variable {apps : KeyedTable Apps.id} {forwards : List String}

/-- Credentials that read as an id and a password. -/
theorem answers_iff_of_two {id password : String} (hbasic : isBasic basic)
    (htoken : (JavaText.split ' ' basic)[1]? = some token) (hbytes : decodeBase64 token = .ok bytes)
    (htwo : JavaText.split ':' (bytes2String bytes) = [id, password]) :
    Answers (Authorized decodeBase64 encode apps (some basic))
        (preHandle decodeBase64 encode (some basic)) ⟨apps, forwards⟩ ↔
      (AppsService.get apps id).isSome ∧
        ((∃ app ∈ AppsService.get apps id, sameSecret encode app password) ↔
          Authorized decodeBase64 encode apps (some basic)) := by
  have hresolve := resolveBasic_eq hbasic htoken hbytes
  rw [htwo] at hresolve
  have hrun : preHandle decodeBase64 encode (some basic) ⟨apps, forwards⟩ = _ :=
    preHandle_of_two hresolve
  cases hget : AppsService.get apps id with
  | none =>
    rw [hget] at hrun
    refine iff_of_false (not_answers_of_error (hrun.trans (bind_of_error rfl))) ?_
    simp
  | some app =>
    rw [hget, orThrow_some_bind] at hrun
    simp only [Option.isSome_some, Option.mem_some_iff, exists_eq_left', true_and]
    by_cases hsame : sameSecret encode app password = true
    · rw [if_pos hsame] at hrun
      rw [answers_of_true hrun, iff_true_left hsame]
    · rw [if_neg hsame] at hrun
      rw [answers_of_forward hrun, iff_false_left hsame]

/-- Credentials of another number of parts. -/
theorem answers_iff_of_other (hbasic : isBasic basic)
    (htoken : (JavaText.split ' ' basic)[1]? = some token) (hbytes : decodeBase64 token = .ok bytes)
    (hother : ∀ id password, JavaText.split ':' (bytes2String bytes) ≠ [id, password]) :
    Answers (Authorized decodeBase64 encode apps (some basic))
        (preHandle decodeBase64 encode (some basic)) ⟨apps, forwards⟩ ↔
      ¬Authorized decodeBase64 encode apps (some basic) := by
  apply answers_of_forward
  apply preHandle_of_other (resolveBasic_eq hbasic htoken hbytes)
  intro id password hsame
  exact hother id password (Option.some.inj hsame)

/-- What a decodable header has to meet, whatever it reads as. -/
theorem legible_iff (hbasic : isBasic basic) (htoken : (JavaText.split ' ' basic)[1]? = some token)
    (hbytes : decodeBase64 token = .ok bytes) :
    Legible decodeBase64 encode apps (some basic) ↔
      (∀ id password, ReadAs decodeBase64 (some basic) id password →
        (AppsService.get apps id).isSome) ∧
      ((∃ id password, ReadAs decodeBase64 (some basic) id password ∧
          ∃ app ∈ AppsService.get apps id, sameSecret encode app password) ↔
        Authorized decodeBase64 encode apps (some basic)) := by
  have hcarries : ∃ bytes, Carries decodeBase64 (some basic) bytes :=
    ⟨bytes, (carries_iff hbasic htoken hbytes).mpr rfl⟩
  constructor
  · intro h
    exact ⟨h.known, h.agrees⟩
  · intro ⟨hknown, hagrees⟩
    exact ⟨rfl, fun _ hheader _ => Option.some.inj hheader ▸ hcarries, hknown, hagrees⟩

theorem legible_iff_of_two {id password : String} (hbasic : isBasic basic)
    (htoken : (JavaText.split ' ' basic)[1]? = some token) (hbytes : decodeBase64 token = .ok bytes)
    (htwo : JavaText.split ':' (bytes2String bytes) = [id, password]) :
    Legible decodeBase64 encode apps (some basic) ↔
      (AppsService.get apps id).isSome ∧
        ((∃ app ∈ AppsService.get apps id, sameSecret encode app password) ↔
          Authorized decodeBase64 encode apps (some basic)) := by
  -- there is one reading only
  have hone : ∀ {id' password'}, ReadAs decodeBase64 (some basic) id' password' ↔
      id' = id ∧ password' = password := by
    intro id' password'
    rw [readAs_iff hbasic htoken hbytes, htwo]
    simp only [List.cons.injEq, and_true]
    exact ⟨fun h => ⟨h.1.symm, h.2.symm⟩, fun h => ⟨h.1.symm, h.2.symm⟩⟩
  rw [legible_iff hbasic htoken hbytes]
  simp only [hone, exists_and_left, and_assoc, exists_eq_left, and_imp]
  apply and_congr_left'
  constructor
  · intro h
    exact h id password rfl rfl
  · intro h id' _ hid _
    rw [hid]
    exact h

theorem legible_iff_of_other (hbasic : isBasic basic)
    (htoken : (JavaText.split ' ' basic)[1]? = some token) (hbytes : decodeBase64 token = .ok bytes)
    (hother : ∀ id password, JavaText.split ':' (bytes2String bytes) ≠ [id, password]) :
    Legible decodeBase64 encode apps (some basic) ↔
      ¬Authorized decodeBase64 encode apps (some basic) := by
  have hnone : ∀ id password, ¬ReadAs decodeBase64 (some basic) id password := by
    intro id password hread
    exact hother id password ((readAs_iff hbasic htoken hbytes).mp hread)
  rw [legible_iff hbasic htoken hbytes]
  simp only [hnone, false_and, exists_false, false_iff, false_implies, implies_true, true_and]

/-- A header of another scheme is forwarded, as one that has nothing to read. -/
theorem answers_iff_of_scheme (hbasic : ¬isBasic basic) :
    Answers (Authorized decodeBase64 encode apps (some basic))
        (preHandle decodeBase64 encode (some basic)) ⟨apps, forwards⟩ ↔
      Legible decodeBase64 encode apps (some basic) := by
  have hnone : ∀ bytes, ¬Carries decodeBase64 (some basic) bytes :=
    fun _ => not_carries_of_other hbasic
  have hnot : ¬Authorized decodeBase64 encode apps (some basic) := by
    intro ⟨id, password, hpresents, _⟩
    exact hnone _ hpresents.2
  have hresolve : ofHeader (resolveBasic decodeBase64) (some basic) = .ok none := if_neg hbasic
  have hforward : preHandle decodeBase64 encode (some basic) ⟨apps, forwards⟩ =
      forwardToLogin ⟨apps, forwards⟩ := preHandle_of_other hresolve (by simp)
  rw [answers_of_forward hforward]
  refine iff_of_true hnot ⟨rfl, ?_, ?_, ?_⟩
  · intro header hheader hscheme
    cases hheader
    exact absurd hscheme hbasic
  · intro id password ⟨bytes, hcarries, _⟩
    exact absurd hcarries (hnone bytes)
  · apply iff_of_false _ hnot
    intro ⟨id, password, ⟨bytes, hcarries, _⟩, _⟩
    exact hnone bytes hcarries

theorem answers_iff_of_bytes (hbasic : isBasic basic)
    (htoken : (JavaText.split ' ' basic)[1]? = some token) (hbytes : decodeBase64 token = .ok bytes) :
    Answers (Authorized decodeBase64 encode apps (some basic))
        (preHandle decodeBase64 encode (some basic)) ⟨apps, forwards⟩ ↔
      Legible decodeBase64 encode apps (some basic) := by
  by_cases htwo : ∃ id password, JavaText.split ':' (bytes2String bytes) = [id, password]
  · obtain ⟨id, password, htwo⟩ := htwo
    rw [answers_iff_of_two hbasic htoken hbytes htwo, legible_iff_of_two hbasic htoken hbytes htwo]
  · have hother : ∀ id password, JavaText.split ':' (bytes2String bytes) ≠ [id, password] :=
      fun id password h => htwo ⟨id, password, h⟩
    rw [answers_iff_of_other hbasic htoken hbytes hother,
      legible_iff_of_other hbasic htoken hbytes hother]

end Bytes

theorem answers_iff (apps : KeyedTable Apps.id) (authorization : Option String)
    (forwards : List String) :
    Answers (Authorized decodeBase64 encode apps authorization)
        (preHandle decodeBase64 encode authorization) ⟨apps, forwards⟩ ↔
      Legible decodeBase64 encode apps authorization := by
  cases authorization with
  | none =>
    apply iff_of_false (not_answers_of_error (preHandle_of_throw rfl))
    intro hlegible
    cases hlegible.present
  | some basic =>
    by_cases hbasic : isBasic basic = true
    · by_cases hcarries : ∃ bytes, Carries decodeBase64 (some basic) bytes
      · obtain ⟨bytes, header, hheader, -, token, htoken, hbytes⟩ := hcarries
        cases hheader
        exact answers_iff_of_bytes hbasic htoken hbytes
      · obtain ⟨e, hthrow⟩ := resolveBasic_throws hbasic (not_exists.mp hcarries)
        apply iff_of_false (not_answers_of_error (preHandle_of_throw hthrow))
        intro hlegible
        exact hcarries (hlegible.decodes basic rfl hbasic)
    · exact answers_iff_of_scheme hbasic

end RestApiPermissionAdapter

namespace Oauth20ApiPermissionAdapter

/-- A Bearer header, with its second part. -/
def Bears (authorization : Option String) (value : String) : Prop :=
  ∃ bearer ∈ authorization, isBearer bearer ∧ (JavaText.split ' ' bearer)[1]? = some value

/-- The store has a token of this value that has not expired, with an authentication. -/
def LiveFor (store : TokenStore σ) (now : ℕ) (s : σ) (value : String) (a : OAuth2Authentication) :
    Prop :=
  ∃ token t u, store.readAccessToken value s = .ok (some token) t ∧ token.isExpired now = false ∧
    store.readAuthentication token.value t = .ok (some a) u

def Authorized (store : TokenStore σ) (now : ℕ) (s : σ) (authorization : Option String) : Prop :=
  ∃ value, Bears authorization value ∧ ∃ a, LiveFor store now s value a

/-- The token is live, and its client is still registered. -/
def Served (store : TokenStore σ) (services : DefaultTokenServices) (now : ℕ) (s : σ)
    (authorization : Option String) : Prop :=
  ∃ value, Bears authorization value ∧ ∃ a, LiveFor store now s value a ∧
    services.checkClient a.oAuth2Request.clientId = .ok ()

variable {store : TokenStore σ} {services : DefaultTokenServices}
  {readNull : EStateM JavaException σ (Option OAuth2AccessToken)} {now : ℕ}

theorem loadAuthentication_returns {s : σ} {value : String} :
    (∃ a t, store.loadAuthentication services now value s = .ok a t) ↔
      ∃ a, LiveFor store now s value a ∧
        services.checkClient a.oAuth2Request.clientId = .ok () := by
  unfold TokenStore.loadAuthentication
  constructor
  · intro ⟨a, t, h⟩
    obtain ⟨found, t₁, hread, h⟩ := bind_eq_ok.mp h
    obtain ⟨token, t₂, htoken, h⟩ := bind_eq_ok.mp h
    obtain ⟨rfl, rfl⟩ := orThrow_eq_ok.mp htoken
    obtain ⟨_, t₃, hexpired, h⟩ := bind_eq_ok.mp h
    obtain ⟨hlive, rfl⟩ := onlyIf_throw_eq_ok.mp hexpired
    obtain ⟨stored, t₄, hstored, h⟩ := bind_eq_ok.mp h
    obtain ⟨b, t₅, hresult, h⟩ := bind_eq_ok.mp h
    obtain ⟨rfl, rfl⟩ := orThrow_eq_ok.mp hresult
    obtain ⟨_, t₆, hclient, -⟩ := bind_eq_ok.mp h
    obtain ⟨hclient, -⟩ := orError_eq_ok.mp hclient
    exact ⟨b, ⟨token, _, _, hread, Bool.eq_false_iff.mpr hlive, hstored⟩, hclient⟩
  · intro ⟨a, ⟨token, t, u, hread, hlive, hstored⟩, hclient⟩
    refine ⟨a, u, ?_⟩
    have hkept : ¬token.isExpired now = true := Bool.eq_false_iff.mp hlive
    rw [bind_of_ok hread, orThrow_some_bind, bind_of_ok (onlyIf_throw_eq_ok.mpr ⟨hkept, rfl⟩),
      bind_of_ok hstored, orThrow_some_bind, hclient]
    rfl

variable (store services readNull now) in
/-- The adapter returns what is loaded, or throws. -/
theorem preHandle_of_value (s : σ) {authorization value : Option String} (forwards : List String)
    (h : ofHeader resolveBearer authorization = .ok value) :
    ((∃ a t, loadAuthentication store services readNull now value s = .ok a t) ∧
      ∃ t, preHandle store services readNull now authorization ⟨s, forwards⟩ =
        .ok true ⟨t, forwards⟩) ∨
    ((∀ a t, loadAuthentication store services readNull now value s ≠ .ok a t) ∧
      ∃ e t, preHandle store services readNull now authorization ⟨s, forwards⟩ = .error e t) := by
  let load : Interceptor σ (Option OAuth2Authentication) :=
    focus Exchange.store (fun s x => { x with store := s })
      (some <$> loadAuthentication store services readNull now value)
  have hstart : preHandle store services readNull now authorization ⟨s, forwards⟩ =
      (load >>= fun authentication =>
        if authentication.isSome then pure true else forwardToLogin) ⟨s, forwards⟩ := by
    unfold preHandle
    rw [h]
    rfl
  cases hload : loadAuthentication store services readNull now value s with
  | ok a t =>
    have hmap : (some <$> loadAuthentication store services readNull now value) s = .ok (some a) t := by
      change EStateM.map _ _ _ = _
      simp only [EStateM.map, hload]
    have hloaded : load ⟨s, forwards⟩ = .ok (some a) ⟨t, forwards⟩ := focus_of_ok hmap
    exact .inl ⟨⟨a, t, rfl⟩, t, hstart.trans (bind_of_ok hloaded)⟩
  | error e t =>
    have hmap : (some <$> loadAuthentication store services readNull now value) s = .error e t := by
      change EStateM.map _ _ _ = _
      simp only [EStateM.map, hload]
    have hthrown : load ⟨s, forwards⟩ = .error e ⟨t, forwards⟩ := focus_of_error hmap
    exact .inr ⟨by simp, e, _, hstart.trans (bind_of_error hthrown)⟩

theorem bears_iff {authorization : Option String} {value : String} :
    Bears authorization value ↔ ofHeader resolveBearer authorization = .ok (some value) := by
  cases authorization with
  | none =>
    constructor
    · intro ⟨bearer, hnone, _⟩
      cases hnone
    · intro hthrow
      cases hthrow
  | some bearer =>
    have hbears : Bears (some bearer) value ↔
        isBearer bearer ∧ (JavaText.split ' ' bearer)[1]? = some value := by
      simp only [Bears, Option.mem_some_iff, exists_eq_left']
    rw [hbears]
    change _ ↔ resolveBearer bearer = _
    unfold resolveBearer
    by_cases hscheme : isBearer bearer = true
    · rw [if_pos hscheme, ← BasicEntryPoint.partAt_eq_ok]
      cases partAt (JavaText.split ' ' bearer) 1 with
      | error e => exact iff_of_false (by simp) (by simp [bind, Except.bind])
      | ok part => simp [hscheme, bind, Except.bind, pure, Except.pure]
    · rw [if_neg hscheme]
      simp [hscheme]

theorem answers_iff (s : σ) (authorization : Option String) (forwards : List String) :
    Answers (Authorized store now s authorization)
        (preHandle store services readNull now authorization) ⟨s, forwards⟩ ↔
      Served store services now s authorization := by
  cases hresolve : ofHeader resolveBearer authorization with
  | error e =>
    have hthrow : preHandle store services readNull now authorization ⟨s, forwards⟩ =
        .error e ⟨s, forwards⟩ := by
      unfold preHandle
      rw [hresolve]
      rfl
    refine iff_of_false (not_answers_of_error hthrow) ?_
    intro ⟨value, hbears, _⟩
    rw [bears_iff.mp hbears] at hresolve
    cases hresolve
  | ok value =>
    have hsame : ∀ value', Bears authorization value' → value = some value' := by
      intro value' hbears
      exact Except.ok.inj (hresolve.symm.trans (bears_iff.mp hbears))
    rcases preHandle_of_value store services readNull now s forwards hresolve with
      ⟨hloads, t, hrun⟩ | ⟨hnever, e, t, hrun⟩
    · rw [answers_of_true hrun]
      constructor
      · intro ⟨value', hbears, _⟩
        rw [hsame value' hbears] at hloads
        exact ⟨value', hbears, loadAuthentication_returns.mp hloads⟩
      · intro ⟨value', hbears, a, hlive, _⟩
        exact ⟨value', hbears, a, hlive⟩
    · refine iff_of_false (not_answers_of_error hrun) ?_
      intro ⟨value', hbears, hserved⟩
      obtain ⟨a, t', hloaded⟩ := loadAuthentication_returns.mpr hserved
      rw [hsame value' hbears] at hnever
      exact hnever a t' hloaded

end Oauth20ApiPermissionAdapter

/-- The adapter of applications answers as it should exactly where the header is legible, and the
adapter of tokens exactly where there is a live token of a registered client. -/
theorem preHandle_answers_iff (decodeBase64 : String → Except JavaException (List UInt8))
    (encode : String → String) (store : TokenStore σ) (services : DefaultTokenServices)
    (readNull : EStateM JavaException σ (Option OAuth2AccessToken)) :
    (∀ apps authorization forwards,
      Answers (RestApiPermissionAdapter.Authorized decodeBase64 encode apps authorization)
          (RestApiPermissionAdapter.preHandle decodeBase64 encode authorization) ⟨apps, forwards⟩ ↔
        RestApiPermissionAdapter.Legible decodeBase64 encode apps authorization) ∧
    ∀ now s authorization forwards,
      Answers (Oauth20ApiPermissionAdapter.Authorized store now s authorization)
          (Oauth20ApiPermissionAdapter.preHandle store services readNull now authorization)
          ⟨s, forwards⟩ ↔
        Oauth20ApiPermissionAdapter.Served store services now s authorization :=
  ⟨RestApiPermissionAdapter.answers_iff, fun _ => Oauth20ApiPermissionAdapter.answers_iff⟩

section Examples

/-- Without a header both adapters throw, and so do an unknown application and an unknown token. -/
theorem unanswered :
    (∀ apps, ¬Answers
      (RestApiPermissionAdapter.Authorized BasicEntryPoint.decodeGuess id apps none)
      (RestApiPermissionAdapter.preHandle BasicEntryPoint.decodeGuess id none) ⟨apps, []⟩) ∧
    ¬Answers (RestApiPermissionAdapter.Authorized BasicEntryPoint.decodeGuess id .empty
        (some "Basic YWRtaW46Z3Vlc3M="))
      (RestApiPermissionAdapter.preHandle BasicEntryPoint.decodeGuess id
        (some "Basic YWRtaW46Z3Vlc3M=")) ⟨.empty, []⟩ ∧
    ¬Answers (Oauth20ApiPermissionAdapter.Authorized (TokenStore.inMemory id) 0 {} none)
      (Oauth20ApiPermissionAdapter.preHandle (TokenStore.inMemory id) {} (throw nullPointer) 0 none)
      ⟨{}, []⟩ ∧
    ¬Answers (Oauth20ApiPermissionAdapter.Authorized (TokenStore.inMemory id) 0 {} (some "Bearer x"))
      (Oauth20ApiPermissionAdapter.preHandle (TokenStore.inMemory id) {} (throw nullPointer) 0
        (some "Bearer x")) ⟨{}, []⟩ := by
  refine ⟨?_, ?_, ?_, ?_⟩
  · intro apps
    exact not_answers_of_error rfl
  · exact not_answers_of_error rfl
  · exact not_answers_of_error rfl
  · exact not_answers_of_error rfl

end Examples

end MaxKey.PermissionAdapters
