import MaxKey.Rows
import MaxKey.StoreInterface

namespace MaxKey.OAuth2
open JavaException Effects Rows

/-- A row of oauth_access_token. The columns `token` and `authentication` hold what they were
written with, serialised. -/
structure AccessTokenRow where
  tokenId : String
  token : OAuth2AccessToken
  authenticationId : String
  userName : Option String
  clientId : Option String
  authentication : OAuth2Authentication
  refreshToken : Option String
  deriving DecidableEq

/-- A row of oauth_refresh_token. -/
structure RefreshTokenRow where
  tokenId : String
  token : OAuth2RefreshToken
  authentication : OAuth2Authentication
  deriving DecidableEq

/-- The two tables of the store, neither with a key. -/
structure JdbcTokenStore where
  oauthAccessToken : List AccessTokenRow := []
  oauthRefreshToken : List RefreshTokenRow := []
  deriving DecidableEq

namespace JdbcTokenStore

abbrev JdbcM := EStateM JavaException JdbcTokenStore

section Operations

def incorrectResultSize (actual : ℕ) : JavaException :=
  dataAccess ("Incorrect result size: expected 1, actual " ++ toString actual)

/-- JdbcTemplate.queryForObject. -/
def queryForObject {ρ : Type} (select : JdbcTokenStore → List ρ) : JdbcM (Option ρ) := do
  let s ← get
  orError (Rows.queryForObject incorrectResultSize (select s))

-- the digest is the one of `extractTokenKey` and of the key generator, which are both MD5
variable (digest : String → String)

def readAccessToken (tokenValue : String) : JdbcM (Option OAuth2AccessToken) := do
  let row ← queryForObject fun s => s.oauthAccessToken.filter (·.tokenId = digest tokenValue)
  return row.map AccessTokenRow.token

def removeAccessToken (tokenValue : String) : JdbcM Unit :=
  modify fun s => { s with
    oauthAccessToken := s.oauthAccessToken.filter (·.tokenId ≠ digest tokenValue) }

def readAuthentication (token : String) : JdbcM (Option OAuth2Authentication) := do
  let row ← queryForObject fun s => s.oauthAccessToken.filter (·.tokenId = digest token)
  return row.map AccessTokenRow.authentication

/-- The row that is inserted for a token. -/
def rowOf (token : OAuth2AccessToken) (authentication : OAuth2Authentication) : AccessTokenRow where
  tokenId := digest token.value
  token := token
  authenticationId := InMemoryTokenStore.extractKey digest authentication
  userName := if authentication.isClientOnly then none else some authentication.getName
  clientId := authentication.oAuth2Request.clientId
  authentication := authentication
  refreshToken := token.refreshToken.map fun refreshToken => digest refreshToken.value

def storeAccessToken (token : OAuth2AccessToken) (authentication : OAuth2Authentication) :
    JdbcM Unit := do
  let existing ← readAccessToken digest token.value
  onlyIf (existing ≠ none) (removeAccessToken digest token.value)
  modify fun s => { s with
    oauthAccessToken := s.oauthAccessToken ++ [rowOf digest token authentication] }

/-- A token that is found under another key than that of its stored authentication is
stored once more. -/
def getAccessToken (authentication : OAuth2Authentication) : JdbcM (Option OAuth2AccessToken) := do
  let key := InMemoryTokenStore.extractKey digest authentication
  let row ← queryForObject fun s => s.oauthAccessToken.filter (·.authenticationId = key)
  match row.map AccessTokenRow.token with
  | none => return none
  | some accessToken => do
    let found ← readAuthentication digest accessToken.value
    let stored ← orThrow nullPointer found
    onlyIf (key ≠ InMemoryTokenStore.extractKey digest stored) (do
      removeAccessToken digest accessToken.value
      storeAccessToken digest accessToken authentication)
    return some accessToken

def storeRefreshToken (refreshToken : OAuth2RefreshToken) (authentication : OAuth2Authentication) :
    JdbcM Unit :=
  modify fun s => { s with
    oauthRefreshToken := s.oauthRefreshToken ++
      [⟨digest refreshToken.value, refreshToken, authentication⟩] }

def readRefreshToken (token : String) : JdbcM (Option OAuth2RefreshToken) := do
  let row ← queryForObject fun s => s.oauthRefreshToken.filter (·.tokenId = digest token)
  return row.map RefreshTokenRow.token

def removeRefreshToken (token : String) : JdbcM Unit :=
  modify fun s => { s with
    oauthRefreshToken := s.oauthRefreshToken.filter (·.tokenId ≠ digest token) }

def readAuthenticationForRefreshToken (value : String) : JdbcM (Option OAuth2Authentication) := do
  let row ← queryForObject fun s => s.oauthRefreshToken.filter (·.tokenId = digest value)
  return row.map RefreshTokenRow.authentication

def removeAccessTokenUsingRefreshToken (refreshToken : String) : JdbcM Unit :=
  modify fun s => { s with
    oauthAccessToken :=
      s.oauthAccessToken.filter (·.refreshToken ≠ some (digest refreshToken)) }

/-- The store as an implementation of the interface. -/
def tokenStore : TokenStore JdbcTokenStore where
  getAccessToken _ := getAccessToken digest
  storeAccessToken _ := storeAccessToken digest
  readAccessToken := readAccessToken digest
  removeAccessToken := removeAccessToken digest
  readAuthentication := readAuthentication digest
  storeRefreshToken := storeRefreshToken digest
  readRefreshToken := readRefreshToken digest
  removeRefreshToken := removeRefreshToken digest
  readAuthenticationForRefreshToken := readAuthenticationForRefreshToken digest
  removeAccessTokenUsingRefreshToken := removeAccessTokenUsingRefreshToken digest

end Operations

/-- What holds of the first table whatever was done: a row is the one that is written for its
token and its authentication, and no two have the same token id. -/
structure Tidy (digest : String → String) (rows : List AccessTokenRow) : Prop where
  written : ∀ row ∈ rows, row = rowOf digest row.token row.authentication
  tokenId : Single AccessTokenRow.tokenId rows

section Specifications

variable {digest : String → String} {s : JdbcTokenStore} {rows kept : List AccessTokenRow}
  {row : AccessTokenRow} {token : OAuth2AccessToken} {a : OAuth2Authentication}

theorem tidy_nil : Tidy digest [] := ⟨fun _ h => by simp at h, single_nil⟩

theorem Tidy.sublist (h : Tidy digest rows) (hsub : kept.Sublist rows) : Tidy digest kept :=
  ⟨fun row hrow => h.written row (hsub.subset hrow), h.tokenId.sublist hsub⟩

theorem Tidy.insert (h : Tidy digest rows)
    (hother : ∀ row ∈ rows, row.tokenId ≠ digest token.value) :
    Tidy digest (rows ++ [rowOf digest token a]) where
  written row hrow := by
    rcases List.mem_append.mp hrow with hold | hnew
    · exact h.written row hold
    · rw [List.mem_singleton.mp hnew]
      rfl
  tokenId := h.tokenId.insert hother

theorem Tidy.tokenId_eq (h : Tidy digest rows) (hrow : row ∈ rows) :
    row.tokenId = digest row.token.value := by rw [h.written row hrow]; rfl

theorem Tidy.authenticationId_eq (h : Tidy digest rows) (hrow : row ∈ rows) :
    row.authenticationId = InMemoryTokenStore.extractKey digest row.authentication := by
  rw [h.written row hrow]
  rfl

/-- A query changes nothing. -/
theorem leaves_queryForObject {ρ β : Type} (select : JdbcTokenStore → List ρ)
    (g : JdbcTokenStore → β) : Leaves g (queryForObject select) := by
  refine leaves_bind leaves_get fun s => ?_
  exact leaves_orError _

theorem queryForObject_of_length_le {ρ : Type} {select : JdbcTokenStore → List ρ}
    {selected : List ρ} (h : select s = selected) (hle : selected.length ≤ 1) :
    queryForObject select s = .ok selected.head? s := by
  unfold queryForObject
  rw [bind_of_ok (get_apply s), h, Rows.queryForObject_of_length_le hle]
  rfl

theorem queryForObject_of_two {ρ : Type} {select : JdbcTokenStore → List ρ} {r r' : ρ}
    {rest : List ρ} (h : select s = r :: r' :: rest) :
    queryForObject select s = .error (incorrectResultSize (rest.length + 2)) s := by
  unfold queryForObject
  rw [bind_of_ok (get_apply s), h]
  rfl

theorem readAccessToken_apply (h : Tidy digest s.oauthAccessToken) (value : String) :
    readAccessToken digest value s = .ok
      ((s.oauthAccessToken.filter (·.tokenId = digest value)).head?.map AccessTokenRow.token) s := by
  have hle := h.tokenId.select_length_le (digest value)
  unfold readAccessToken
  rw [bind_of_ok (queryForObject_of_length_le rfl hle)]
  rfl

theorem readAuthentication_apply (h : Tidy digest s.oauthAccessToken) (value : String) :
    readAuthentication digest value s = .ok
      ((s.oauthAccessToken.filter (·.tokenId = digest value)).head?.map
        AccessTokenRow.authentication) s := by
  have hle := h.tokenId.select_length_le (digest value)
  unfold readAuthentication
  rw [bind_of_ok (queryForObject_of_length_le rfl hle)]
  rfl

/-- The row that is inserted takes the place of the one with its token id, if there is one. -/
theorem storeAccessToken_apply (h : Tidy digest s.oauthAccessToken) :
    storeAccessToken digest token a s = .ok () { s with
      oauthAccessToken := s.oauthAccessToken.filter (·.tokenId ≠ digest token.value) ++
        [rowOf digest token a] } := by
  unfold storeAccessToken
  rw [bind_of_ok (readAccessToken_apply h token.value)]
  cases hselected : (s.oauthAccessToken.filter (·.tokenId = digest token.value)).head? with
  | none =>
    have hnone := List.head?_eq_none_iff.mp hselected
    have hall : s.oauthAccessToken.filter (·.tokenId ≠ digest token.value) =
        s.oauthAccessToken := by
      apply List.filter_eq_self.mpr
      intro row hrow
      have hne := List.filter_eq_nil_iff.mp hnone row hrow
      simpa using hne
    rw [hall]
    rfl
  | some row => rfl

/-- Where a query by the authentication meets one row, the row's token is the answer, and it is
not stored once more. -/
theorem getAccessToken_cases (h : Tidy digest s.oauthAccessToken) (a : OAuth2Authentication) :
    (1 < (s.oauthAccessToken.filter
        (·.authenticationId = InMemoryTokenStore.extractKey digest a)).length ∧
      ∃ e, getAccessToken digest a s = .error e s) ∨
    ((∀ row ∈ s.oauthAccessToken,
        row.authenticationId ≠ InMemoryTokenStore.extractKey digest a) ∧
      getAccessToken digest a s = .ok none s) ∨
    ∃ row, s.oauthAccessToken.filter
        (·.authenticationId = InMemoryTokenStore.extractKey digest a) = [row] ∧
      getAccessToken digest a s = .ok (some row.token) s := by
  match hselected : s.oauthAccessToken.filter
      (·.authenticationId = InMemoryTokenStore.extractKey digest a) with
  | [] =>
    refine .inr (.inl ⟨?_, ?_⟩)
    · intro row hrow hkey
      have hne := List.filter_eq_nil_iff.mp hselected row hrow
      simp [hkey] at hne
    · have hnone : ([] : List AccessTokenRow).length ≤ 1 := Nat.zero_le 1
      exact bind_of_ok (queryForObject_of_length_le hselected hnone)
  | [row] =>
    have hmem := mem_select.mp (hselected ▸ List.mem_cons_self : row ∈ s.oauthAccessToken.filter _)
    have hread := readAuthentication_apply h row.token.value
    rw [h.tokenId.select_eq hmem.1 (h.tokenId_eq hmem.1)] at hread
    have hkey := (h.authenticationId_eq hmem.1).symm.trans hmem.2
    refine .inr (.inr ⟨row, hselected, ?_⟩)
    have hone : [row].length ≤ 1 := Nat.le_refl 1
    refine (bind_of_ok (queryForObject_of_length_le hselected hone)).trans ?_
    show (readAuthentication digest row.token.value >>= _) s = _
    rw [bind_of_ok hread]
    show (onlyIf (_ ≠ InMemoryTokenStore.extractKey digest row.authentication) _ >>= _) s = _
    simp only [onlyIf, hkey, ne_eq, not_true_eq_false, if_false]
    rfl
  | row :: row' :: rest =>
    refine .inl ⟨?_, incorrectResultSize (rest.length + 2), ?_⟩
    · simp only [hselected, List.length_cons]
      omega
    · exact bind_of_error (queryForObject_of_two hselected)

end Specifications

end JdbcTokenStore

end MaxKey.OAuth2
