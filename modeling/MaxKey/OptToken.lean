import Mathlib.Logic.Function.Basic
import MaxKey.Domain
import MaxKey.JavaText

namespace MaxKey.OptToken

structure OneTimePassword where
  id : String
  type : String
  token : Option String
  username : String
  receiver : Option String
  createTime : ℕ
  deriving DecidableEq

/-- A cache entry, with the time in milliseconds at which it was put. -/
structure CachedOtp where
  otp : OneTimePassword
  storedAt : ℕ
  deriving DecidableEq

abbrev OptTokenStore := String → Option CachedOtp

/-- Duration.ofMinutes of five times ONE_MINUTE, which is itself sixty. -/
def TIME_TO_LIVE : ℕ := 300 * 60 * 1000

/-- A null token is written into the key as the text null. -/
def tokenKey (username type : String) (token : Option String) : String :=
  username ++ "_" ++ type ++ "_" ++ token.getD "null"

/-- The creation time is kept to the second. -/
def store (s : OptTokenStore) (userInfo : UserInfo) (token receiver : Option String)
    (type : String) (now : ℕ) : OptTokenStore :=
  let key := tokenKey userInfo.username type token
  Function.update s key (some
    { otp := { id := key, type, token, username := userInfo.username, receiver
               createTime := now / 1000 }
      storedAt := now })

/-- The entry under a key, while the cache still holds it. -/
def lookup (s : OptTokenStore) (key : String) (now : ℕ) : Option OneTimePassword :=
  match s key with
  | some entry => if now < entry.storedAt + TIME_TO_LIVE then some entry.otp else none
  | none => none

/-- A stored code is accepted while its age in full seconds is at most the interval. It is
not removed. -/
def validate (s : OptTokenStore) (username token type : String) (interval : Int) (now : ℕ) :
    Bool :=
  match lookup s (tokenKey username type (some token)) now with
  | some otp => ((now : Int) - otp.createTime * 1000).tdiv 1000 ≤ interval
  | none => false

/-- The one-time code services that send a code and store it. -/
inductive OptAuthn
  | mailOtpAuthn
  | smsOtpAuthnAliyun
  | smsOtpAuthnTencentCloud
  | smsOtpAuthnYunxin
  deriving DecidableEq

def OptAuthn.optType : OptAuthn → String
  | .mailOtpAuthn => "EMAIL"
  | _ => "SMS"

def smsOtpAuthn (optSmsProvider : String) : OptAuthn :=
  if JavaText.equalsIgnoreCase optSmsProvider "SmsOtpAuthnAliyun" then .smsOtpAuthnAliyun
  else if JavaText.equalsIgnoreCase optSmsProvider "SmsOtpAuthnTencentCloud" then
    .smsOtpAuthnTencentCloud
  else .smsOtpAuthnYunxin

/-- How sending goes: the generated code, whether the mail server or the SMS service takes the
message, and the code in the reply of a service that generates codes itself. -/
structure Delivery where
  token : String
  delivered : Bool
  obj : Option String := none

/-- The token that produce stores; `none` where it gives up before storing. -/
def producedToken (authn : OptAuthn) (userInfo : UserInfo) (d : Delivery) :
    Option (Option String) :=
  let address := if authn = .mailOtpAuthn then userInfo.email.isSome
    else userInfo.mobile.any (· ≠ "")
  if address ∧ d.delivered then
    some (if authn = .smsOtpAuthnYunxin then d.obj else some d.token)
  else none

/-- The mobile number is recorded as the receiver of every code, a mailed one included. -/
def produce (authn : OptAuthn) (s : OptTokenStore) (userInfo : UserInfo) (d : Delivery)
    (now : ℕ) : OptTokenStore × Bool :=
  match producedToken authn userInfo d with
  | some token => (store s userInfo token userInfo.mobile authn.optType now, true)
  | none => (s, false)

theorem store_eq_some {s : OptTokenStore} {userInfo : UserInfo} {token receiver : Option String}
    {type key : String} {now : ℕ} {entry : CachedOtp}
    (h : store s userInfo token receiver type now key = some entry) :
    s key = some entry ∨ entry.otp.username = userInfo.username ∧ entry.otp.token = token := by
  unfold store at h
  by_cases hkey : key = tokenKey userInfo.username type token
  · subst hkey
    rw [Function.update_self] at h
    cases h
    exact .inr ⟨rfl, rfl⟩
  · rw [Function.update_of_ne hkey] at h
    exact .inl h

theorem produce_eq_some {authn : OptAuthn} {s : OptTokenStore} {userInfo : UserInfo} {d : Delivery}
    {now : ℕ} {key : String} {entry : CachedOtp}
    (h : (produce authn s userInfo d now).1 key = some entry) :
    s key = some entry ∨
      entry.otp.username = userInfo.username ∧
        producedToken authn userInfo d = some entry.otp.token := by
  unfold produce at h
  cases hp : producedToken authn userInfo d with
  | none =>
    rw [hp] at h
    exact .inl h
  | some token =>
    rw [hp] at h
    refine (store_eq_some h).imp_right fun hentry => ?_
    exact ⟨hentry.1, congrArg some hentry.2.symm⟩

/-- A code is accepted only on account of the entry under its key. -/
theorem validate_eq_true {s : OptTokenStore} {username token type : String} {interval : Int}
    {now : ℕ} (h : validate s username token type interval now) :
    ∃ entry, s (tokenKey username type (some token)) = some entry := by
  unfold validate lookup at h
  split at h
  · split at *
    · exact ⟨_, ‹_›⟩
    · simp_all
  · cases h

end MaxKey.OptToken
