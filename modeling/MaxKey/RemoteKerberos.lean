import MaxKey.ExternalLogins
import MaxKey.ReciprocalUtils

namespace MaxKey.RemoteKerberos
open WebContext JavaException Effects ExternalLogins

structure KerberosToken where
  principal : Option String := none
  fullPrincipal : Option String := none
  notOnOrAfter : Option String := none
  userDomain : Option String := none
  deriving DecidableEq

/-- The libraries that the service calls. Jackson reads a bean, or null, or throws an IOException
(`none`); for a null text it throws something else. Joda-Time reads a date in milliseconds. -/
structure Library where
  platform : ReciprocalUtils.Platform
  foldCase : Char → Char
  readValue : String → Option (Option KerberosToken)
  nullContent : JavaException
  parseDateTime : String → Except JavaException ℤ

namespace Library

variable (lib : Library)

def equalsIgnoreCase (s t : String) : Bool := s.toList.map lib.foldCase = t.toList.map lib.foldCase

/-- The bean that is given comes back where Jackson throws an IOException. -/
def json2Object (json : Option String) (bean : KerberosToken) :
    Except JavaException (Option KerberosToken) :=
  match json with
  | none => .error lib.nullContent
  | some json => .ok ((lib.readValue json).getD (some bean))

/-- A date made of null is the time at which it is made. -/
def toUtcDate (now : ℕ) (date : Option String) : Except JavaException ℤ :=
  date.elim (.ok now) lib.parseDateTime

def aesDecoder (ciphers secretKey : String) : Except JavaException (Option String) :=
  ReciprocalUtils.decoderHex lib.platform ciphers secretKey .AES

def findProxy (kerberosProxys : List KerberosProxy) (kerberosUserDomain : String) :
    Option KerberosProxy :=
  kerberosProxys.find? fun proxy => lib.equalsIgnoreCase proxy.userdomain kerberosUserDomain

/-- The text of the token, null for a domain without a proxy. -/
def decoderKerberosToken (kerberosProxys : List KerberosProxy)
    (kerberosTokenString kerberosUserDomain : String) : Except JavaException (Option String) :=
  (lib.findProxy kerberosProxys kerberosUserDomain).elim (.ok none) fun proxy =>
    lib.aesDecoder kerberosTokenString proxy.crypto

def login (kerberosProxys : List KerberosProxy) (request : HttpRequest)
    (kerberosTokenString kerberosUserDomain : String) : Web Bool := do
  let decoderKerberosToken ← orError
    (lib.decoderKerberosToken kerberosProxys kerberosTokenString kerberosUserDomain)
  let kerberosToken ← orError (lib.json2Object decoderKerberosToken {})
  let kerberosToken ← orThrow nullPointer kerberosToken
  let notOnOrAfter ← orError (lib.toUtcDate request.now kerberosToken.notOnOrAfter)
  if request.now < notOnOrAfter then
    Realm.setAuthentication request kerberosToken.principal "Kerberos" kerberosUserDomain "" "success"
  else return false

/-! ### Which tokens are accepted -/

/-- The domain has a proxy, and the token decrypts under its key to this text. -/
def Decrypts (kerberosProxys : List KerberosProxy) (kerberosTokenString kerberosUserDomain : String)
    (json : String) : Prop :=
  ∃ proxy, lib.findProxy kerberosProxys kerberosUserDomain = some proxy ∧
    lib.aesDecoder kerberosTokenString proxy.crypto = .ok (some json)

/-- The text is a JSON token, which is not out of date. -/
def Current (now : ℕ) (json : String) (kerberosToken : KerberosToken) : Prop :=
  lib.readValue json = some (some kerberosToken) ∧
    ∃ date ∈ kerberosToken.notOnOrAfter, ∃ notOnOrAfter, lib.parseDateTime date = .ok notOnOrAfter ∧
      now < notOnOrAfter

def Accepted (kerberosProxys : List KerberosProxy) (now : ℕ)
    (kerberosTokenString kerberosUserDomain : String) (kerberosToken : KerberosToken) : Prop :=
  ∃ json, lib.Decrypts kerberosProxys kerberosTokenString kerberosUserDomain json ∧
    lib.Current now json kerberosToken

/-- The principal of an accepted token is logged in; on anything else false is returned, and nothing
happens. -/
structure Lawful (kerberosProxys : List KerberosProxy) (request : HttpRequest) (w : World)
    (kerberosTokenString kerberosUserDomain : String) : Prop where
  accepts : ∀ kerberosToken,
    lib.Accepted kerberosProxys request.now kerberosTokenString kerberosUserDomain kerberosToken →
      lib.login kerberosProxys request kerberosTokenString kerberosUserDomain w =
        Realm.setAuthentication request kerberosToken.principal "Kerberos" kerberosUserDomain ""
          "success" w
  rejects : (∀ kerberosToken,
    ¬lib.Accepted kerberosProxys request.now kerberosTokenString kerberosUserDomain kerberosToken) →
      lib.login kerberosProxys request kerberosTokenString kerberosUserDomain w = .ok false w

/-- The token decrypts, to something else than the JSON null, and its date, if it has one, is a
date. -/
def Readable (kerberosProxys : List KerberosProxy)
    (kerberosTokenString kerberosUserDomain : String) : Prop :=
  ∃ json, lib.Decrypts kerberosProxys kerberosTokenString kerberosUserDomain json ∧
    ∀ bean ∈ lib.readValue json, ∃ kerberosToken ∈ bean, ∀ date ∈ kerberosToken.notOnOrAfter,
      ∃ notOnOrAfter, lib.parseDateTime date = .ok notOnOrAfter

variable {lib} {kerberosProxys : List KerberosProxy} {request : HttpRequest} {w : World}
  {token domain json : String}

theorem decoderKerberosToken_eq_ok :
    lib.decoderKerberosToken kerberosProxys token domain = .ok (some json) ↔
      lib.Decrypts kerberosProxys token domain json := by
  unfold decoderKerberosToken Decrypts
  cases lib.findProxy kerberosProxys domain with
  | none => simp
  | some proxy => simp

/-- Once there is a bean with a date, the login is decided by the clock. -/
theorem login_of_date {kerberosToken : KerberosToken} {notOnOrAfter : ℤ}
    (hdecrypts : lib.Decrypts kerberosProxys token domain json)
    (hbean : (lib.readValue json).getD (some {}) = some kerberosToken)
    (hdate : lib.toUtcDate request.now kerberosToken.notOnOrAfter = .ok notOnOrAfter) :
    lib.login kerberosProxys request token domain w =
      if request.now < notOnOrAfter then
        Realm.setAuthentication request kerberosToken.principal "Kerberos" domain "" "success" w
      else .ok false w := by
  rw [login, decoderKerberosToken_eq_ok.mpr hdecrypts, orError_ok_bind, json2Object, hbean,
    orError_ok_bind, orThrow_some_bind, hdate, orError_ok_bind]
  exact apply_ite (fun x : Web Bool => x w) _ _ _

/-- A login that returns at all has come to the date. -/
theorem readable_of_ok {b : Bool} {w' : World}
    (h : lib.login kerberosProxys request token domain w = .ok b w') :
    lib.Readable kerberosProxys token domain := by
  cases htext : lib.decoderKerberosToken kerberosProxys token domain with
  | error e =>
    rw [login, htext] at h
    cases h
  | ok text =>
    cases text with
    | none =>
      rw [login, htext, orError_ok_bind] at h
      cases h
    | some json =>
      refine ⟨json, decoderKerberosToken_eq_ok.mp htext, ?_⟩
      intro bean hbean
      simp only [Option.mem_def] at hbean
      rw [login, htext, orError_ok_bind, json2Object, hbean, Option.getD_some, orError_ok_bind] at h
      cases bean with
      | none => cases h
      | some kerberosToken =>
        refine ⟨kerberosToken, rfl, ?_⟩
        intro date hdate
        simp only [Option.mem_def] at hdate
        rw [orThrow_some_bind, toUtcDate, hdate, Option.elim_some] at h
        cases hparse : lib.parseDateTime date with
        | error e =>
          rw [hparse] at h
          cases h
        | ok notOnOrAfter => exact ⟨notOnOrAfter, rfl⟩

theorem readable_of_accepted {now : ℕ} {kerberosToken : KerberosToken}
    (h : lib.Accepted kerberosProxys now token domain kerberosToken) :
    lib.Readable kerberosProxys token domain := by
  obtain ⟨json, hdecrypts, hread, date, hdate, notOnOrAfter, hparse, -⟩ := h
  refine ⟨json, hdecrypts, ?_⟩
  intro bean hbean
  have hsame : some kerberosToken = bean := Option.some.inj (hread.symm.trans hbean)
  refine ⟨kerberosToken, hsame.symm, ?_⟩
  intro date' hdate'
  have hone : date = date' := Option.some.inj (hdate.symm.trans hdate')
  exact ⟨notOnOrAfter, hone ▸ hparse⟩

/-- An accepted token logs its principal in. -/
theorem login_of_accepted {kerberosToken : KerberosToken}
    (h : lib.Accepted kerberosProxys request.now token domain kerberosToken) :
    lib.login kerberosProxys request token domain w =
      Realm.setAuthentication request kerberosToken.principal "Kerberos" domain "" "success" w := by
  obtain ⟨json, hdecrypts, hread, date, hdate, notOnOrAfter, hparse, hnow⟩ := h
  have hbean : (lib.readValue json).getD (some {}) = some kerberosToken := by
    rw [hread, Option.getD_some]
  have hutc : lib.toUtcDate request.now kerberosToken.notOnOrAfter = .ok notOnOrAfter := by
    rw [toUtcDate, hdate, Option.elim_some, hparse]
  rw [login_of_date hdecrypts hbean hutc, if_pos hnow]

/-- A readable token that is not accepted has no date, or an old one. -/
theorem login_of_readable (h : lib.Readable kerberosProxys token domain)
    (hnot : ∀ kerberosToken,
      ¬lib.Accepted kerberosProxys request.now token domain kerberosToken) :
    lib.login kerberosProxys request token domain w = .ok false w := by
  obtain ⟨json, hdecrypts, hbeans⟩ := h
  have hpresent : ¬(request.now : ℤ) < request.now := lt_irrefl _
  cases hread : lib.readValue json with
  | none =>
    have hbean : (lib.readValue json).getD (some {}) = some {} := by rw [hread, Option.getD_none]
    rw [login_of_date hdecrypts hbean rfl, if_neg hpresent]
  | some bean =>
    obtain ⟨kerberosToken, hgiven, hdates⟩ := hbeans bean hread
    have hbean : (lib.readValue json).getD (some {}) = some kerberosToken := by
      rw [hread, Option.getD_some, hgiven]
    cases hdate : kerberosToken.notOnOrAfter with
    | none =>
      have hutc : lib.toUtcDate request.now kerberosToken.notOnOrAfter = .ok request.now := by
        rw [hdate]
        rfl
      rw [login_of_date hdecrypts hbean hutc, if_neg hpresent]
    | some date =>
      obtain ⟨notOnOrAfter, hparse⟩ := hdates date hdate
      have hutc : lib.toUtcDate request.now kerberosToken.notOnOrAfter = .ok notOnOrAfter := by
        rw [toUtcDate, hdate, Option.elim_some, hparse]
      have hlate : ¬(request.now : ℤ) < notOnOrAfter := by
        intro hnow
        rw [hgiven] at hread
        exact hnot kerberosToken ⟨json, hdecrypts, hread, date, hdate, notOnOrAfter, hparse, hnow⟩
      rw [login_of_date hdecrypts hbean hutc, if_neg hlate]

/-- The login is lawful exactly on the tokens that can be read up to their date. -/
theorem kerberosLogin_lawful_iff (lib : Library) (kerberosProxys : List KerberosProxy) (request : HttpRequest)
    (w : World) (kerberosTokenString kerberosUserDomain : String) :
    lib.Lawful kerberosProxys request w kerberosTokenString kerberosUserDomain ↔
      lib.Readable kerberosProxys kerberosTokenString kerberosUserDomain := by
  constructor
  · intro h
    by_cases haccepted : ∃ kerberosToken, lib.Accepted kerberosProxys request.now
        kerberosTokenString kerberosUserDomain kerberosToken
    · obtain ⟨kerberosToken, haccepted⟩ := haccepted
      exact readable_of_accepted haccepted
    · exact readable_of_ok (h.rejects (not_exists.mp haccepted))
  · intro h
    exact ⟨fun kerberosToken => login_of_accepted, login_of_readable h⟩

/-! ### The service among the other logins -/

/-- How the login pages have a token read, with a date before the epoch as long gone. -/
def readKerberosToken (lib : Library) (now : ℕ) (crypto : Option String)
    (kerberosTokenString : String) : Except JavaException ExternalLogins.KerberosToken := do
  let decoderKerberosToken ← crypto.elim (.ok none) (lib.aesDecoder kerberosTokenString)
  let kerberosToken ← lib.json2Object decoderKerberosToken {}
  let kerberosToken ← kerberosToken.elim (.error nullPointer) .ok
  let notOnOrAfter ← lib.toUtcDate now kerberosToken.notOnOrAfter
  .ok ⟨kerberosToken.principal, notOnOrAfter.toNat⟩

/-- For domains whose case is that of ASCII the login pages call this login. -/
theorem login_eq_service {σ : Type} {setup : Setup σ} (hfold : lib.foldCase = JavaText.foldCase)
    (hread : setup.readKerberosToken = lib.readKerberosToken request.now) :
    RemoteKerberosService.login setup request token domain =
      lib.login setup.kerberosProxys request token domain := by
  have hsame : lib.equalsIgnoreCase = JavaText.equalsIgnoreCase := by
    funext s t
    rw [equalsIgnoreCase, hfold]
    rfl
  have htext : ∀ proxy : Option KerberosProxy,
      (proxy.map KerberosProxy.crypto).elim (.ok none) (lib.aesDecoder token) =
        proxy.elim (.ok none) fun proxy => lib.aesDecoder token proxy.crypto := by
    intro proxy
    cases proxy with
    | none => rfl
    | some proxy => rfl
  rw [RemoteKerberosService.login, RemoteKerberosService.readToken, hread, login,
    decoderKerberosToken, findProxy, hsame]
  unfold readKerberosToken
  simp only [htext, orError_bind, orError_elim, bind_assoc, orError_ok_bind, Int.lt_toNat]

end Library

/-- A platform without proxies. -/
def testLibrary : Library where
  platform := ReciprocalUtils.platformOf OAuth2.Codecs.utf8Encode
  foldCase := JavaText.foldCase
  readValue _ := none
  nullContent := illegalArgument "argument \"content\" is null"
  parseDateTime _ := .error (illegalArgument "Invalid format")

/-- The login for a domain that is not configured throws. -/
theorem unknownDomain_throws :
    let request : HttpRequest := { userAgent := none, newSessionId := "t", loginSessionId := "u" }
    testLibrary.login [] request "00" "CONNSEC" nobody.world =
      .error (illegalArgument "argument \"content\" is null") nobody.world :=
  rfl

end MaxKey.RemoteKerberos
