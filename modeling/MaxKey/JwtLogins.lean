import MaxKey.Base64Utils
import MaxKey.ExternalLogins

namespace MaxKey.ExternalLogins.JwtLoginService
open WebContext Realm RemeberMe JavaException Effects

variable {σ : Type}

def jwtTokenValidation (setup : Setup σ) (now : ℕ) (jwt : String) : Except JavaException Bool :=
  match setup.parseJwt jwt with
  | none => .ok false
  | some signedJWT =>
    match signedJWT.verify with
    | none => .ok false
    | some loginResult =>
      match signedJWT.getJWTClaimsSet with
      -- The exception is caught with the result of the verification still in place.
      | none => .ok loginResult
      | some jwtClaimsSet =>
        if loginResult then do
          let issuer ← present nullPointer jwtClaimsSet.issuer
          if issuer ≠ setup.issuer then return false
          else
            let expirationTime ← present nullPointer jwtClaimsSet.expirationTime
            return now < expirationTime
        else .ok false

/-- The text is a signed JWT of the configured issuer, under the configured key, not yet expired. -/
def Valid (setup : Setup σ) (now : ℕ) (jwt : String) : Prop :=
  ∃ signedJWT jwtClaimsSet expirationTime, setup.parseJwt jwt = some signedJWT ∧
    signedJWT.verify = some true ∧ signedJWT.getJWTClaimsSet = some jwtClaimsSet ∧
    jwtClaimsSet.issuer = some setup.issuer ∧ jwtClaimsSet.expirationTime = some expirationTime ∧
    now < expirationTime

/-- Both functions accept valid texts only, and reject all others without an exception. -/
structure Sound (setup : Setup σ) (request : HttpRequest) (w : World) (jwt : String) : Prop where
  validation : jwtTokenValidation setup request.now jwt = .ok true → Valid setup request.now jwt
  login : ∀ w', JwtLoginService.login setup request jwt w = .ok true w' → Valid setup request.now jwt
  rejects : ¬Valid setup request.now jwt → jwtTokenValidation setup request.now jwt = .ok false ∧
    JwtLoginService.login setup request jwt w = .ok false w

/-- A JWT with a good signature has claims, an issuer among them, and an expiration time too where
it is issued here. -/
def Readable (setup : Setup σ) (jwt : String) : Prop :=
  ∀ signedJWT ∈ setup.parseJwt jwt, signedJWT.verify = some true →
    ∃ jwtClaimsSet ∈ signedJWT.getJWTClaimsSet, jwtClaimsSet.issuer ≠ none ∧
      (jwtClaimsSet.issuer = some setup.issuer → jwtClaimsSet.expirationTime ≠ none)

section Outcomes

variable {setup : Setup σ} {request : HttpRequest} {w : World} {jwt : String} {now : ℕ}
  {signedJWT : SignedJWT} {jwtClaimsSet : JWTClaimsSet} {issuer : String}

theorem rejects_of_parse (hparse : setup.parseJwt jwt = none) :
    jwtTokenValidation setup now jwt = .ok false ∧
      JwtLoginService.login setup request jwt w = .ok false w := by
  simp [jwtTokenValidation, JwtLoginService.login, hparse]

/-- Neither function goes beyond a signature that is not good. -/
theorem rejects_of_verify (hparse : setup.parseJwt jwt = some signedJWT)
    (hverify : signedJWT.verify ≠ some true) : jwtTokenValidation setup now jwt = .ok false ∧
      JwtLoginService.login setup request jwt w = .ok false w := by
  constructor
  · cases hresult : signedJWT.verify with
    | none => simp only [jwtTokenValidation, hparse, hresult]
    | some loginResult =>
      have hfalse : loginResult = false := by
        rw [Bool.eq_false_iff]
        intro htrue
        exact hverify (htrue ▸ hresult)
      cases hclaims : signedJWT.getJWTClaimsSet with
      | none => simp [jwtTokenValidation, hparse, hresult, hclaims, hfalse]
      | some jwtClaimsSet => simp [jwtTokenValidation, hparse, hresult, hclaims, hfalse]
  · simp [JwtLoginService.login, hparse, hverify]

/-- With a good signature the validation depends on the issuer and the expiration time. -/
theorem validation_of_claims (hparse : setup.parseJwt jwt = some signedJWT)
    (hverify : signedJWT.verify = some true)
    (hclaims : signedJWT.getJWTClaimsSet = some jwtClaimsSet) :
    jwtTokenValidation setup now jwt = (do
      let issuer ← present nullPointer jwtClaimsSet.issuer
      if issuer ≠ setup.issuer then return false
      else
        let expirationTime ← present nullPointer jwtClaimsSet.expirationTime
        return now < expirationTime) := by
  simp only [jwtTokenValidation, hparse, hverify, hclaims, if_true]

theorem rejects_of_issuer (hparse : setup.parseJwt jwt = some signedJWT)
    (hverify : signedJWT.verify = some true)
    (hclaims : signedJWT.getJWTClaimsSet = some jwtClaimsSet)
    (hissuer : jwtClaimsSet.issuer = some issuer) (hother : issuer ≠ setup.issuer) :
    jwtTokenValidation setup now jwt = .ok false ∧
      JwtLoginService.login setup request jwt w = .ok false w := by
  constructor
  · rw [validation_of_claims hparse hverify hclaims, hissuer, present_some_bind, if_pos hother]
    rfl
  · simp [JwtLoginService.login, hparse, hverify, hclaims, hissuer, hother, nonNull, orThrow]

/-- A token that has expired is rejected, whether or not it has a subject. -/
theorem rejects_of_expired {expirationTime : ℕ} (hparse : setup.parseJwt jwt = some signedJWT)
    (hverify : signedJWT.verify = some true)
    (hclaims : signedJWT.getJWTClaimsSet = some jwtClaimsSet)
    (hissuer : jwtClaimsSet.issuer = some setup.issuer)
    (hexpires : jwtClaimsSet.expirationTime = some expirationTime)
    (hlate : ¬request.now < expirationTime) :
    jwtTokenValidation setup request.now jwt = .ok false ∧
      JwtLoginService.login setup request jwt w = .ok false w := by
  constructor
  · rw [validation_of_claims hparse hverify hclaims, hissuer, present_some_bind,
      if_neg (not_not_intro rfl), hexpires, present_some_bind, decide_eq_false hlate]
    rfl
  · cases hsubject : jwtClaimsSet.subject with
    | none => simp [JwtLoginService.login, hparse, hverify, hclaims, hissuer, hsubject, nonNull, orThrow]
    | some subject =>
      simp [JwtLoginService.login, hparse, hverify, hclaims, hissuer, hsubject, hexpires, hlate,
        nonNull, orThrow]

/-- A readable text is valid or rejected. -/
theorem valid_or_rejects (h : Readable setup jwt) : Valid setup request.now jwt ∨
    jwtTokenValidation setup request.now jwt = .ok false ∧
      JwtLoginService.login setup request jwt w = .ok false w := by
  cases hparse : setup.parseJwt jwt with
  | none => exact .inr (rejects_of_parse hparse)
  | some signedJWT =>
    by_cases hverify : signedJWT.verify = some true
    · obtain ⟨jwtClaimsSet, hclaims, hgiven, htime⟩ := h signedJWT hparse hverify
      obtain ⟨issuer, hissuer⟩ := Option.ne_none_iff_exists'.mp hgiven
      by_cases hsame : issuer = setup.issuer
      · rw [hsame] at hissuer
        obtain ⟨expirationTime, hexpires⟩ := Option.ne_none_iff_exists'.mp (htime hissuer)
        by_cases hnow : request.now < expirationTime
        · exact .inl ⟨signedJWT, jwtClaimsSet, expirationTime, hparse, hverify, hclaims, hissuer,
            hexpires, hnow⟩
        · exact .inr (rejects_of_expired hparse hverify hclaims hissuer hexpires hnow)
      · exact .inr (rejects_of_issuer hparse hverify hclaims hissuer hsame)
    · exact .inr (rejects_of_verify hparse hverify)

/-- A valid text has the claims that are read. -/
theorem readable_of_valid (h : Valid setup now jwt) : Readable setup jwt := by
  obtain ⟨signedJWT, jwtClaimsSet, expirationTime, hparse, -, hclaims, hissuer, hexpires, -⟩ := h
  intro other hother _
  have hsame : signedJWT = other := Option.some.inj (hparse.symm.trans hother)
  rw [← hsame]
  refine ⟨jwtClaimsSet, hclaims, ?_, fun _ => ?_⟩
  · rw [hissuer]
    exact Option.some_ne_none _
  · rw [hexpires]
    exact Option.some_ne_none _

/-- Without one of the claims the validation accepts, or throws. -/
theorem readable_of_validation (h : jwtTokenValidation setup now jwt = .ok false) :
    Readable setup jwt := by
  intro signedJWT hparse hverify
  cases hclaims : signedJWT.getJWTClaimsSet with
  | none =>
    simp only [Option.mem_def] at hparse
    simp [jwtTokenValidation, hparse, hverify, hclaims] at h
  | some jwtClaimsSet =>
    rw [validation_of_claims hparse hverify hclaims] at h
    refine ⟨jwtClaimsSet, rfl, ?_, ?_⟩
    · intro hissuer
      rw [hissuer] at h
      cases h
    · intro hissuer hexpires
      rw [hissuer, present_some_bind, if_neg (not_not_intro rfl), hexpires] at h
      cases h

end Outcomes

/-- The functions are sound on every text but a JWT with a good signature whose payload is no set of
claims, or lacks the issuer, or lacks the expiration time of a token issued here. -/
theorem jwtLogin_sound_iff (setup : Setup σ) (request : HttpRequest) (w : World) (jwt : String) :
    Sound setup request w jwt ↔ Readable setup jwt := by
  constructor
  · intro h
    by_cases hvalid : Valid setup request.now jwt
    · exact readable_of_valid hvalid
    · exact readable_of_validation (h.rejects hvalid).1
  · intro h
    have hcases := @valid_or_rejects σ setup request w jwt h
    refine ⟨fun hok => ?_, fun w' hok => ?_, hcases.resolve_left⟩
    · refine hcases.resolve_right fun hrejects => ?_
      rw [hrejects.1] at hok
      cases hok
    · refine hcases.resolve_right fun hrejects => ?_
      rw [hrejects.2] at hok
      cases hok

/-- A JWT with a good signature over a payload that is not JSON. -/
def noClaims : Setup (ExpiringMap String RemeberMe) :=
  { deserted with parseJwt := fun _ => some { verify := some true, getJWTClaimsSet := none } }

theorem noClaims_validated :
    jwtTokenValidation noClaims 0 "a.b.c" = .ok true ∧ ¬Valid noClaims 0 "a.b.c" := by
  refine ⟨rfl, ?_⟩
  rintro ⟨signedJWT, jwtClaimsSet, expirationTime, hparse, -, hclaims, -⟩
  cases hparse
  cases hclaims

end MaxKey.ExternalLogins.JwtLoginService
