import MaxKey.CommaLists
import MaxKey.KeyedTable

namespace MaxKey.OAuth2
open JavaException Effects AuthorityUtils StringUtils
open DefaultAccessTokenConverter (OneAuthority oneAuthority_iff)

/-- The columns of apps_oauth_client_details. -/
inductive Column
  | client_id
  | client_secret
  | resource_ids
  | scope
  | authorized_grant_types
  | web_server_redirect_uri
  | authorities
  | access_token_validity
  | refresh_token_validity
  | additional_information
  | autoapprove
  | idtokensigningalgorithm
  | idtokenencryptedalgorithm
  | idtokenencryptionmethod
  | userinfosigningalgorithm
  | userinfocryptedalgorithm
  | userinfoencryptionmethod
  | jwksuri
  deriving DecidableEq

inductive Value
  | null
  | text (s : String)
  | number (n : Int)
  deriving DecidableEq

namespace Value

def ofText : Option String → Value
  | some s => text s
  | none => null

def ofNumber : Option Int → Value
  | some n => number n
  | none => null

def getString : Value → Option String
  | null => none
  | text s => some s
  | number n => some (toString n)

/-- The value of a numeric column, where it is not null. -/
def getInt : Value → Option Int
  | number n => some n
  | _ => none

@[simp] theorem getString_ofText (s : Option String) : (ofText s).getString = s := by
  cases s with
  | none => rfl
  | some s => rfl

@[simp] theorem getInt_ofNumber (n : Option Int) : (ofNumber n).getInt = n := by
  cases n with
  | none => rfl
  | some n => rfl

end Value

abbrev Row := Column → Value

abbrev ClientTable := KeyedTable fun row : Row => row .client_id

def CLIENT_FIELDS_FOR_UPDATE : List Column :=
  [.resource_ids, .scope, .authorized_grant_types, .web_server_redirect_uri, .authorities,
    .access_token_validity, .refresh_token_validity, .additional_information, .autoapprove,
    .idtokensigningalgorithm, .idtokenencryptedalgorithm, .idtokenencryptionmethod,
    .userinfosigningalgorithm, .userinfocryptedalgorithm, .userinfoencryptionmethod, .jwksuri]

def CLIENT_FIELDS : List Column := .client_secret :: CLIENT_FIELDS_FOR_UPDATE

/-- The statement's columns take the parameters in order; the others keep their values. -/
def setColumns (columns : List Column) (values : List Value) (row : Row) : Row := fun column =>
  ((columns.zip values).lookup column).getD (row column)

/-- The details of a client with what only this store knows of: the information of any kind,
and the settings of OpenID Connect. -/
structure BaseClientDetails (ι : Type) extends ClientDetails where
  additionalInformation : ι
  idTokenSigningAlgorithm : Option String := none
  idTokenEncryptedAlgorithm : Option String := none
  idTokenEncryptionMethod : Option String := none
  userInfoSigningAlgorithm : Option String := none
  userInfoEncryptedAlgorithm : Option String := none
  userInfoEncryptionMethod : Option String := none
  jwksUri : Option String := none

/-- What the service takes from the platform: the JSON mapper, the password encoder, the regular
expressions, and the order in which a hash set is walked. -/
structure JdbcClientDetailsService (ι : Type) where
  write : ι → Option String
  read : String → Option ι
  noInformation : ι
  encode : String → String
  isMatch : String → String → Except JavaException Bool
  hashOrder : RowOrder String

/-- The authorities out of a column. -/
def readAuthorities (column : Option String) : Except JavaException (List String) :=
  if JavaText.hasText column then commaSeparatedStringToAuthorityList (column.getD "") else .ok []

namespace BaseClientDetails

/-- The constructor from the columns. A grant type column without text stands for the defaults. -/
def ofColumns {ι : Type} (noInformation : ι) (clientId resourceIds scopes grantTypes authorities
    redirectUris : Option String) : Except JavaException (BaseClientDetails ι) := do
  let authorities ← readAuthorities authorities
  return {
    clientId := clientId.getD ""
    resourceIds := readSet resourceIds []
    scope := readSet scopes []
    authorizedGrantTypes := readSet grantTypes ["authorization_code", "refresh_token"]
    authorities
    registeredRedirectUri :=
      if JavaText.hasText redirectUris then
        some (commaDelimitedListToSet (redirectUris.getD ""))
      else none
    additionalInformation := noInformation }

end BaseClientDetails

namespace JdbcClientDetailsService

variable {ι : Type} (service : JdbcClientDetailsService ι)

/-- The elements of a hash set in the order in which it is walked. -/
def hashSet (elements : List String) : List String := service.hashOrder.scan elements.dedup

/-- The first entry decides that is "true" or, as a pattern, matches the scope. -/
def approves : List String → String → Except JavaException Bool
  | [], _ => .ok false
  | auto :: rest, scope =>
    if auto = "true" then .ok true
    else do if ← service.isMatch scope auto then return true else approves rest scope

def isAutoApprove (client : ClientDetails) (scope : String) : Except JavaException Bool :=
  match client.autoApproveScopes with
  | none => .ok false
  | some patterns => service.approves patterns scope

def approvedScopes (client : ClientDetails) : List String → Except JavaException (List String)
  | [] => .ok []
  | scope :: rest => do
    let approved ← service.isAutoApprove client scope
    let others ← approvedScopes client rest
    return if approved then scope :: others else others

def getAutoApproveScopes (client : ClientDetails) : Except JavaException String := do
  if ← service.isAutoApprove client "true" then return "true"
  else
    let scopes ← service.approvedScopes client client.scope
    return collectionToCommaDelimitedString (service.hashSet scopes)

/-- The parameters of the update. Information that cannot be written leaves its column null. -/
def fieldsForUpdate (client : BaseClientDetails ι) (autoApprove : String) : List Value :=
  [.text (collectionToCommaDelimitedString client.resourceIds),
    .text (collectionToCommaDelimitedString client.scope),
    .text (collectionToCommaDelimitedString client.authorizedGrantTypes),
    .ofText (client.registeredRedirectUri.map collectionToCommaDelimitedString),
    .text (collectionToCommaDelimitedString client.authorities),
    .ofNumber client.accessTokenValiditySeconds, .ofNumber client.refreshTokenValiditySeconds,
    .ofText (service.write client.additionalInformation), .text autoApprove,
    .ofText client.idTokenSigningAlgorithm, .ofText client.idTokenEncryptedAlgorithm,
    .ofText client.idTokenEncryptionMethod, .ofText client.userInfoSigningAlgorithm,
    .ofText client.userInfoEncryptedAlgorithm, .ofText client.userInfoEncryptionMethod,
    .ofText client.jwksUri, .text client.clientId]

def getFieldsForUpdate (client : BaseClientDetails ι) : Except JavaException (List Value) := do
  let autoApprove ← service.getAutoApproveScopes client.toClientDetails
  return service.fieldsForUpdate client autoApprove

def getFields (client : BaseClientDetails ι) : Except JavaException (List Value) := do
  let fields ← service.getFieldsForUpdate client
  return .ofText (client.clientSecret.map service.encode) :: fields

def addClientDetails (t : ClientTable) (client : BaseClientDetails ι) :
    Except JavaException ClientTable := do
  let fields ← service.getFields client
  match t.insert (setColumns (CLIENT_FIELDS ++ [.client_id]) fields fun _ => .null) with
  | some t' => return t'
  | none => throw (runtime ("Client already exists: " ++ client.clientId))

theorem setColumns_client_id (values : List Value) (row : Row) :
    setColumns CLIENT_FIELDS_FOR_UPDATE values row .client_id = row .client_id := by
  have hnone : (CLIENT_FIELDS_FOR_UPDATE.zip values).lookup .client_id = none := by
    rw [List.lookup_eq_none_iff]
    intro entry hentry
    have hcolumn := (List.of_mem_zip hentry).1
    rw [bne_iff_ne]
    intro heq
    rw [← heq] at hcolumn
    exact absurd hcolumn (by decide)
  rw [setColumns, hnone]
  rfl

def updateClientDetails (t : ClientTable) (client : BaseClientDetails ι) :
    Except JavaException ClientTable := do
  let fields ← service.getFieldsForUpdate client
  if (t.select (· .client_id = .text client.clientId)).length = 1 then
    return t.update (· .client_id = .text client.clientId)
      (setColumns CLIENT_FIELDS_FOR_UPDATE fields) (setColumns_client_id fields)
  else throw (noSuchClient ("No client found with id = " ++ client.clientId))

/-- ClientDetailsRowMapper: the first columns are read by their position in the select. -/
def mapRow (row : Row) : Except JavaException (BaseClientDetails ι) := do
  let rs (i : ℕ) : Value := (((.client_id :: CLIENT_FIELDS).map row)[i - 1]?).getD .null
  let details ← BaseClientDetails.ofColumns service.noInformation (rs 1).getString
    (rs 3).getString (rs 4).getString (rs 5).getString (rs 7).getString (rs 6).getString
  return { details with
    clientSecret := (rs 2).getString
    accessTokenValiditySeconds := (rs 8).getInt
    refreshTokenValiditySeconds := (rs 9).getInt
    idTokenEncryptedAlgorithm := (row .idtokenencryptedalgorithm).getString
    idTokenEncryptionMethod := (row .idtokenencryptionmethod).getString
    idTokenSigningAlgorithm := (row .idtokensigningalgorithm).getString
    userInfoEncryptedAlgorithm := (row .userinfocryptedalgorithm).getString
    userInfoEncryptionMethod := (row .userinfoencryptionmethod).getString
    userInfoSigningAlgorithm := (row .userinfosigningalgorithm).getString
    jwksUri := (row .jwksuri).getString
    additionalInformation :=
      ((rs 10).getString.bind service.read).getD details.additionalInformation
    autoApproveScopes := (rs 11).getString.map fun scopes =>
      service.hashSet (commaDelimitedListToSet scopes) }

def loadClientByClientId (t : ClientTable) (clientId : String) :
    Except JavaException (BaseClientDetails ι) :=
  match t.select (· .client_id = .text clientId) with
  | row :: _ => service.mapRow row
  | [] => .error (noSuchClient ("No client with requested id: " ++ clientId))

/-- What each column is meant to hold, whatever the position of its parameter. -/
def written (client : BaseClientDetails ι) (autoApprove : String) : Row
  | .client_id => .text client.clientId
  | .client_secret => .ofText (client.clientSecret.map service.encode)
  | .resource_ids => .text (collectionToCommaDelimitedString client.resourceIds)
  | .scope => .text (collectionToCommaDelimitedString client.scope)
  | .authorized_grant_types =>
    .text (collectionToCommaDelimitedString client.authorizedGrantTypes)
  | .web_server_redirect_uri =>
    .ofText (client.registeredRedirectUri.map collectionToCommaDelimitedString)
  | .authorities => .text (collectionToCommaDelimitedString client.authorities)
  | .access_token_validity => .ofNumber client.accessTokenValiditySeconds
  | .refresh_token_validity => .ofNumber client.refreshTokenValiditySeconds
  | .additional_information => .ofText (service.write client.additionalInformation)
  | .autoapprove => .text autoApprove
  | .idtokensigningalgorithm => .ofText client.idTokenSigningAlgorithm
  | .idtokenencryptedalgorithm => .ofText client.idTokenEncryptedAlgorithm
  | .idtokenencryptionmethod => .ofText client.idTokenEncryptionMethod
  | .userinfosigningalgorithm => .ofText client.userInfoSigningAlgorithm
  | .userinfocryptedalgorithm => .ofText client.userInfoEncryptedAlgorithm
  | .userinfoencryptionmethod => .ofText client.userInfoEncryptionMethod
  | .jwksuri => .ofText client.jwksUri

variable {service} {client : BaseClientDetails ι} {t t' : ClientTable} {row : Row}

/-- The row of a client holds what belongs into each column, up to the secret. -/
structure Stored (service : JdbcClientDetailsService ι) (client : BaseClientDetails ι)
    (autoApprove : String) (row : Row) : Prop where
  approved : service.getAutoApproveScopes client.toClientDetails = .ok autoApprove
  columns : ∀ column, column ≠ .client_secret →
    row column = service.written client autoApprove column

theorem setColumns_insert (service : JdbcClientDetailsService ι) (client : BaseClientDetails ι)
    (autoApprove : String) (row : Row) :
    setColumns (CLIENT_FIELDS ++ [.client_id])
      (.ofText (client.clientSecret.map service.encode) ::
        service.fieldsForUpdate client autoApprove) row = service.written client autoApprove := by
  funext column
  cases column <;> rfl

theorem setColumns_update (service : JdbcClientDetailsService ι) (client : BaseClientDetails ι)
    (autoApprove : String) {row : Row} (hrow : row .client_id = .text client.clientId)
    {column : Column} (h : column ≠ .client_secret) :
    setColumns CLIENT_FIELDS_FOR_UPDATE (service.fieldsForUpdate client autoApprove) row column =
      service.written client autoApprove column := by
  cases column with
  | client_secret => exact absurd rfl h
  | client_id => exact (setColumns_client_id _ row).trans hrow
  | _ => rfl

theorem stored_add (h : service.addClientDetails t client = .ok t') :
    ∃ autoApprove, ∃ row ∈ t'.rows, Stored service client autoApprove row := by
  obtain ⟨fields, hfields, hinsert⟩ := except_bind_eq_ok.mp h
  obtain ⟨forUpdate, hupdate, hsecret⟩ := except_bind_eq_ok.mp hfields
  obtain ⟨autoApprove, happrove, hvalues⟩ := except_bind_eq_ok.mp hupdate
  cases hvalues
  cases hsecret
  cases hrows : t.insert (setColumns (CLIENT_FIELDS ++ [.client_id])
      (.ofText (client.clientSecret.map service.encode) ::
        service.fieldsForUpdate client autoApprove) fun _ => .null) with
  | none =>
    rw [hrows] at hinsert
    cases hinsert
  | some rows =>
    rw [hrows] at hinsert
    cases hinsert
    refine ⟨autoApprove, _, KeyedTable.mem_insert_self hrows, happrove, ?_⟩
    intro column _
    rw [setColumns_insert]

theorem stored_update (h : service.updateClientDetails t client = .ok t') :
    ∃ autoApprove, ∃ row ∈ t'.rows, Stored service client autoApprove row := by
  obtain ⟨fields, hupdate, hrow⟩ := except_bind_eq_ok.mp h
  obtain ⟨autoApprove, happrove, hvalues⟩ := except_bind_eq_ok.mp hupdate
  cases hvalues
  split_ifs at hrow with hcount
  cases hrow
  obtain ⟨row, hone⟩ := List.length_eq_one_iff.mp hcount
  have hmem : row ∈ t.select (· .client_id = .text client.clientId) := by
    rw [hone]
    exact List.mem_singleton_self row
  obtain ⟨hrow, hid⟩ := KeyedTable.mem_select.mp hmem
  rw [decide_eq_true_eq] at hid
  refine ⟨autoApprove, _, KeyedTable.mem_update.mpr ⟨row, hrow, rfl⟩, happrove, ?_⟩
  intro column hcolumn
  rw [if_pos (decide_eq_true hid)]
  exact setColumns_update service client autoApprove hid hcolumn

/-- The client is read back from the one row with its id. -/
theorem load_of_stored {autoApprove : String} (hrow : row ∈ t.rows)
    (hstored : Stored service client autoApprove row) :
    service.loadClientByClientId t client.clientId = service.mapRow row := by
  have hid : row .client_id = .text client.clientId := hstored.columns .client_id (by decide)
  have hmem : row ∈ t.select (· .client_id = .text client.clientId) :=
    KeyedTable.mem_select.mpr ⟨hrow, decide_eq_true hid⟩
  unfold loadClientByClientId
  cases hselect : t.select (· .client_id = .text client.clientId) with
  | nil =>
    rw [hselect] at hmem
    cases hmem
  | cons first rest =>
    have hfirst : first ∈ t.select (· .client_id = .text client.clientId) := by
      rw [hselect]
      exact List.mem_cons_self
    obtain ⟨hfirst, hid'⟩ := KeyedTable.mem_select.mp hfirst
    rw [decide_eq_true_eq] at hid'
    rw [KeyedTable.eq_of_key_eq t hfirst hrow (hid'.trans hid.symm)]

/-- Authorities come back exactly if each is one part of a list with commas. -/
theorem readAuthorities_iff (names : List String) :
    (∃ parts, readAuthorities (some (collectionToCommaDelimitedString names)) = .ok parts ∧
      SameSet parts names) ↔ ∀ name ∈ names, OneAuthority name := by
  unfold readAuthorities
  split_ifs with htext
  · rw [← oneAuthority_iff]
    have hread : ∀ parts, commaSeparatedStringToAuthorityList
        ((some (collectionToCommaDelimitedString names)).getD "") = .ok parts ↔
          (∀ part ∈ parts, JavaText.hasText part) ∧
            names.flatMap tokenizeToStringArray = parts := by
      intro parts
      unfold commaSeparatedStringToAuthorityList
      rw [Option.getD_some, collectionToCommaDelimitedString, tokenize_intercalate,
        createAuthorityList_eq_ok,
        (List.map_injective_iff.mpr (Option.some_injective String)).eq_iff]
    constructor
    · rintro ⟨parts, hparts, hsame⟩
      obtain ⟨htexts, rfl⟩ := (hread parts).mp hparts
      exact ⟨htexts, hsame⟩
    · rintro ⟨htexts, hsame⟩
      exact ⟨_, (hread _).mpr ⟨htexts, rfl⟩, hsame⟩
  · constructor
    · rintro ⟨parts, hparts, hsame⟩ name hname
      cases hparts
      exact absurd ((hsame name).mpr hname) List.not_mem_nil
    · intro hone
      have hnil : names = [] := by
        by_contra hne
        refine htext (hasText_join.mpr ⟨hne, ?_⟩)
        rintro name rfl
        exact (hone name (List.mem_singleton_self name)).text
      exact ⟨[], rfl, hnil ▸ fun _ => Iff.rfl⟩

/-- The details that the row of a client is read as, once its authorities are. -/
def loaded (service : JdbcClientDetailsService ι) (client : BaseClientDetails ι)
    (autoApprove : String) (secret : Option String) (authorities : List String) :
    BaseClientDetails ι where
  clientId := client.clientId
  clientSecret := secret
  scope := readSet (some (collectionToCommaDelimitedString client.scope)) []
  resourceIds := readSet (some (collectionToCommaDelimitedString client.resourceIds)) []
  authorizedGrantTypes :=
    readSet (some (collectionToCommaDelimitedString client.authorizedGrantTypes))
      ["authorization_code", "refresh_token"]
  registeredRedirectUri :=
    if JavaText.hasText (client.registeredRedirectUri.map collectionToCommaDelimitedString) then
      some (commaDelimitedListToSet
        ((client.registeredRedirectUri.map collectionToCommaDelimitedString).getD ""))
    else none
  authorities := authorities
  autoApproveScopes := some (service.hashSet (commaDelimitedListToSet autoApprove))
  accessTokenValiditySeconds := client.accessTokenValiditySeconds
  refreshTokenValiditySeconds := client.refreshTokenValiditySeconds
  additionalInformation :=
    ((service.write client.additionalInformation).bind service.read).getD service.noInformation
  idTokenSigningAlgorithm := client.idTokenSigningAlgorithm
  idTokenEncryptedAlgorithm := client.idTokenEncryptedAlgorithm
  idTokenEncryptionMethod := client.idTokenEncryptionMethod
  userInfoSigningAlgorithm := client.userInfoSigningAlgorithm
  userInfoEncryptedAlgorithm := client.userInfoEncryptedAlgorithm
  userInfoEncryptionMethod := client.userInfoEncryptionMethod
  jwksUri := client.jwksUri

theorem mapRow_of_stored {autoApprove : String} (hstored : Stored service client autoApprove row) :
    service.mapRow row =
      readAuthorities (some (collectionToCommaDelimitedString client.authorities)) >>=
        fun authorities => .ok
          (loaded service client autoApprove (row .client_secret).getString authorities) := by
  have hcolumn : ∀ column, column ≠ .client_secret →
      row column = service.written client autoApprove column := hstored.columns
  have hpositions : service.mapRow row = BaseClientDetails.ofColumns service.noInformation
      (row .client_id).getString (row .resource_ids).getString (row .scope).getString
      (row .authorized_grant_types).getString (row .authorities).getString
      (row .web_server_redirect_uri).getString >>= fun details => .ok { details with
        clientSecret := (row .client_secret).getString
        accessTokenValiditySeconds := (row .access_token_validity).getInt
        refreshTokenValiditySeconds := (row .refresh_token_validity).getInt
        idTokenEncryptedAlgorithm := (row .idtokenencryptedalgorithm).getString
        idTokenEncryptionMethod := (row .idtokenencryptionmethod).getString
        idTokenSigningAlgorithm := (row .idtokensigningalgorithm).getString
        userInfoEncryptedAlgorithm := (row .userinfocryptedalgorithm).getString
        userInfoEncryptionMethod := (row .userinfoencryptionmethod).getString
        userInfoSigningAlgorithm := (row .userinfosigningalgorithm).getString
        jwksUri := (row .jwksuri).getString
        additionalInformation := ((row .additional_information).getString.bind service.read).getD
          details.additionalInformation
        autoApproveScopes := (row .autoapprove).getString.map fun scopes =>
          service.hashSet (commaDelimitedListToSet scopes) } := rfl
  rw [hpositions]
  rw [hcolumn .client_id (by decide), hcolumn .resource_ids (by decide), hcolumn .scope (by decide),
    hcolumn .authorized_grant_types (by decide), hcolumn .authorities (by decide),
    hcolumn .web_server_redirect_uri (by decide), hcolumn .access_token_validity (by decide),
    hcolumn .refresh_token_validity (by decide), hcolumn .idtokenencryptedalgorithm (by decide),
    hcolumn .idtokenencryptionmethod (by decide), hcolumn .idtokensigningalgorithm (by decide),
    hcolumn .userinfocryptedalgorithm (by decide), hcolumn .userinfoencryptionmethod (by decide),
    hcolumn .userinfosigningalgorithm (by decide), hcolumn .jwksuri (by decide),
    hcolumn .additional_information (by decide), hcolumn .autoapprove (by decide)]
  simp only [written, Value.getString_ofText, Value.getInt_ofNumber]
  unfold BaseClientDetails.ofColumns
  change (readAuthorities
    (some (collectionToCommaDelimitedString client.authorities)) >>= _) >>= _ = _
  cases readAuthorities (some (collectionToCommaDelimitedString client.authorities)) with
  | error e => rfl
  | ok authorities => rfl

/-- The scopes of a client that it approves by itself, as a hash set. -/
def approvedSet (service : JdbcClientDetailsService ι) (client : ClientDetails) : List String :=
  service.hashSet (client.scope.filter fun scope => service.isAutoApprove client scope = .ok true)

/-- A client that approves the word "true" approves each of its scopes. Otherwise the approved
scopes, taken as patterns, match themselves and no other scope. -/
structure KeepsAutoApprove (service : JdbcClientDetailsService ι) (client : ClientDetails) :
    Prop where
  all : service.isAutoApprove client "true" = .ok true →
    ∀ scope ∈ client.scope, service.isAutoApprove client scope = .ok true
  named : service.isAutoApprove client "true" = .ok false → service.approvedSet client ≠ [""]
  matched : service.isAutoApprove client "true" = .ok false → ∀ scope ∈ client.scope,
    service.approves (service.hashSet (service.approvedSet client)) scope =
      .ok (decide (scope ∈ service.approvedSet client))

theorem approvedScopes_eq_ok {client : ClientDetails} {scopes approved : List String}
    (h : service.approvedScopes client scopes = .ok approved) :
    approved = scopes.filter fun scope => service.isAutoApprove client scope = .ok true := by
  induction scopes generalizing approved with
  | nil => exact (Except.ok.inj h).symm
  | cons scope rest ih =>
    obtain ⟨answer, hanswer, h⟩ := except_bind_eq_ok.mp h
    obtain ⟨others, hothers, h⟩ := except_bind_eq_ok.mp h
    rw [← Except.ok.inj h, ih hothers]
    cases answer with
    | true => simp [hanswer]
    | false => simp [hanswer]

theorem isAutoApprove_of_approvedScopes {client : ClientDetails} {scopes approved : List String}
    (h : service.approvedScopes client scopes = .ok approved) :
    ∀ scope ∈ scopes, ∃ answer, service.isAutoApprove client scope = .ok answer := by
  induction scopes generalizing approved with
  | nil =>
    intro scope hscope
    cases hscope
  | cons first rest ih =>
    obtain ⟨answer, hanswer, h⟩ := except_bind_eq_ok.mp h
    obtain ⟨others, hothers, -⟩ := except_bind_eq_ok.mp h
    intro scope hscope
    cases List.mem_cons.mp hscope with
    | inl heq => exact ⟨answer, heq ▸ hanswer⟩
    | inr hrest => exact ih hothers scope hrest

theorem nodup_hashSet (elements : List String) : (service.hashSet elements).Nodup :=
  (service.hashOrder.perm _).nodup_iff.mpr (List.nodup_dedup elements)

theorem mem_hashSet {elements : List String} {x : String} :
    x ∈ service.hashSet elements ↔ x ∈ elements := by
  rw [hashSet, RowOrder.mem_scan, List.mem_dedup]

theorem hashSet_singleton (x : String) : service.hashSet [x] = [x] := by
  have hperm := service.hashOrder.perm [x].dedup
  rw [List.dedup_eq_self.mpr (List.nodup_singleton x)] at hperm
  unfold hashSet
  rw [List.dedup_eq_self.mpr (List.nodup_singleton x)]
  exact List.perm_singleton.mp hperm

/-- A set without commas is read from its column as it was joined, unless the empty text is alone
in it. -/
theorem commaDelimitedListToSet_join {names : List String} (hnodup : names.Nodup)
    (hcommas : ∀ name ∈ names, ',' ∉ name.toList) (hempty : names ≠ [""]) :
    commaDelimitedListToSet (collectionToCommaDelimitedString names) = names := by
  cases names with
  | nil => decide
  | cons name rest =>
    have hne : collectionToCommaDelimitedString (name :: rest) ≠ "" := by
      cases rest with
      | nil =>
        intro h
        refine hempty ?_
        rw [show name = "" by simpa [collectionToCommaDelimitedString] using h]
      | cons next rest =>
        intro h
        rw [join_cons_cons] at h
        have hchars := congrArg String.toList h
        simp at hchars
    have hflat : (name :: rest).flatMap parts = name :: rest := by
      rw [List.flatMap_congr fun name hname => parts_of_comma_notMem (hcommas name hname),
        List.flatMap_singleton']
    rw [commaDelimitedListToSet, if_neg hne, parts_join (List.cons_ne_nil _ _), hflat,
      List.dedup_eq_self.mpr hnodup]

/-- Where the word "true" is stored every scope is approved. -/
theorem keepsAutoApprove_of_true {client : ClientDetails}
    (htrue : service.isAutoApprove client "true" = .ok true) :
    (∀ scope ∈ client.scope,
      service.approves (service.hashSet (commaDelimitedListToSet "true")) scope =
        service.isAutoApprove client scope) ↔ KeepsAutoApprove service client := by
  have hset : service.hashSet (commaDelimitedListToSet "true") = ["true"] := by
    rw [show commaDelimitedListToSet "true" = ["true"] by decide, hashSet_singleton]
  rw [hset]
  constructor
  · intro h
    refine ⟨fun _ scope hscope => (h scope hscope).symm, ?_, ?_⟩
    · intro hfalse
      cases htrue.symm.trans hfalse
    · intro hfalse
      cases htrue.symm.trans hfalse
  · intro h scope hscope
    rw [h.all htrue scope hscope]
    rfl

theorem mem_approvedSet {client : ClientDetails} {scope : String} :
    scope ∈ service.approvedSet client ↔
      scope ∈ client.scope ∧ service.isAutoApprove client scope = .ok true := by
  rw [approvedSet, mem_hashSet, List.mem_filter, decide_eq_true_eq]

/-- A client approves each of its own scopes exactly if it is in the set. -/
theorem isAutoApprove_eq_mem {client : ClientDetails} {approved : List String}
    (h : service.approvedScopes client client.scope = .ok approved) :
    ∀ scope ∈ client.scope, service.isAutoApprove client scope =
      .ok (decide (scope ∈ service.approvedSet client)) := by
  intro scope hscope
  obtain ⟨answer, hanswer⟩ := isAutoApprove_of_approvedScopes h scope hscope
  rw [hanswer]
  cases answer with
  | true => rw [decide_eq_true (mem_approvedSet.mpr ⟨hscope, hanswer⟩)]
  | false =>
    have hnot : scope ∉ service.approvedSet client := by
      intro hmem
      cases hanswer.symm.trans (mem_approvedSet.mp hmem).2
    rw [decide_eq_false hnot]

/-- The empty text alone is joined to a column without text, and is approved no more. -/
theorem not_approves_of_empty {client : ClientDetails} (h : service.approvedSet client = [""]) :
    "" ∈ client.scope ∧ service.approves (service.hashSet (commaDelimitedListToSet
      (collectionToCommaDelimitedString (service.approvedSet client)))) "" ≠
        service.isAutoApprove client "" := by
  have hmem : "" ∈ service.approvedSet client := by
    rw [h]
    exact List.mem_singleton_self _
  obtain ⟨hscope, happroved⟩ := mem_approvedSet.mp hmem
  refine ⟨hscope, ?_⟩
  rw [happroved, h]
  have hnone : service.hashSet (commaDelimitedListToSet
      (collectionToCommaDelimitedString [""])) = [] := by
    apply List.eq_nil_iff_forall_not_mem.mpr
    intro x hx
    rw [mem_hashSet] at hx
    cases hx
  rw [hnone]
  intro hlost
  cases hlost

theorem keepsAutoApprove_iff {client : ClientDetails} {autoApprove : String}
    (happrove : service.getAutoApproveScopes client = .ok autoApprove)
    (hcommas : ∀ scope ∈ client.scope, ',' ∉ scope.toList) :
    (∀ scope ∈ client.scope,
      service.approves (service.hashSet (commaDelimitedListToSet autoApprove)) scope =
        service.isAutoApprove client scope) ↔ KeepsAutoApprove service client := by
  obtain ⟨answer, hanswer, happrove⟩ := except_bind_eq_ok.mp happrove
  cases answer with
  | true =>
    cases happrove
    exact keepsAutoApprove_of_true hanswer
  | false =>
    obtain ⟨approved, hscopes, hjoin⟩ := except_bind_eq_ok.mp happrove
    cases hjoin
    have hset : service.hashSet approved = service.approvedSet client := by
      rw [approvedScopes_eq_ok hscopes]
      rfl
    rw [hset]
    by_cases hempty : service.approvedSet client = [""]
    · have hlost := not_approves_of_empty hempty
      exact iff_of_false (fun h => hlost.2 (h "" hlost.1)) fun h => h.named hanswer hempty
    · have hread : commaDelimitedListToSet (collectionToCommaDelimitedString
          (service.approvedSet client)) = service.approvedSet client := by
        apply commaDelimitedListToSet_join (nodup_hashSet _) _ hempty
        exact fun scope hscope => hcommas scope (mem_approvedSet.mp hscope).1
      rw [hread]
      have hself := isAutoApprove_eq_mem hscopes
      constructor
      · intro h
        refine ⟨?_, fun _ => hempty, fun _ scope hscope => ?_⟩
        · intro htrue
          cases hanswer.symm.trans htrue
        · rw [h scope hscope, hself scope hscope]
      · intro h scope hscope
        rw [h.matched hanswer scope hscope, hself scope hscope]

/-- What a caller sees of a client that was stored and loaded. -/
structure SameDetails (service : JdbcClientDetailsService ι)
    (details client : BaseClientDetails ι) : Prop where
  clientId : details.clientId = client.clientId
  scope : SameSet details.scope client.scope
  resourceIds : SameSet details.resourceIds client.resourceIds
  authorizedGrantTypes : SameSet details.authorizedGrantTypes client.authorizedGrantTypes
  registeredRedirectUri :
    SameSet (details.registeredRedirectUri.getD []) (client.registeredRedirectUri.getD [])
  authorities : SameSet details.authorities client.authorities
  accessTokenValiditySeconds :
    details.accessTokenValiditySeconds = client.accessTokenValiditySeconds
  refreshTokenValiditySeconds :
    details.refreshTokenValiditySeconds = client.refreshTokenValiditySeconds
  additionalInformation : details.additionalInformation = client.additionalInformation
  autoApprove : ∀ scope ∈ client.scope,
    service.isAutoApprove details.toClientDetails scope =
      service.isAutoApprove client.toClientDetails scope

/-- The clients that the columns keep. -/
structure Keeps (service : JdbcClientDetailsService ι) (client : BaseClientDetails ι) : Prop where
  scope : KeepsList client.scope
  resourceIds : KeepsList client.resourceIds
  authorizedGrantTypes : client.authorizedGrantTypes ≠ [] ∧ KeepsList client.authorizedGrantTypes
  registeredRedirectUri : KeepsList (client.registeredRedirectUri.getD [])
  authorities : ∀ name ∈ client.authorities, OneAuthority name
  additionalInformation :
    ((service.write client.additionalInformation).bind service.read).getD service.noInformation =
      client.additionalInformation
  autoApprove : KeepsAutoApprove service client.toClientDetails

theorem sameSet_grantTypes {names : List String} :
    SameSet (readSet (some (collectionToCommaDelimitedString names))
      ["authorization_code", "refresh_token"]) names ↔ names ≠ [] ∧ KeepsList names := by
  apply sameSet_readSet_cons
  intro name _ hsame
  have hcode := (hsame "authorization_code").mp (by decide)
  have hrefresh := (hsame "refresh_token").mp (by decide)
  rw [List.mem_singleton] at hcode hrefresh
  exact absurd (hcode.trans hrefresh.symm) (by decide)

theorem sameSet_redirectUris (uris : Option (List String)) :
    SameSet ((if JavaText.hasText (uris.map collectionToCommaDelimitedString) then
      some (commaDelimitedListToSet ((uris.map collectionToCommaDelimitedString).getD ""))
      else none).getD []) (uris.getD []) ↔ KeepsList (uris.getD []) := by
  cases uris with
  | none => exact iff_of_true (fun _ => Iff.rfl) ⟨by simp, by simp⟩
  | some uris =>
    have hread : (if JavaText.hasText ((some uris).map collectionToCommaDelimitedString) then
        some (commaDelimitedListToSet (((some uris).map collectionToCommaDelimitedString).getD ""))
        else none).getD [] = readSet (some (collectionToCommaDelimitedString uris)) [] := by
      unfold readSet
      rw [Option.map_some]
      split_ifs <;> rfl
    rw [hread, Option.getD_some, sameSet_readSet_nil]

/-- The loaded details are those of the client exactly if each collection comes back. -/
theorem sameDetails_loaded {autoApprove : String} {secret : Option String}
    {authorities : List String}
    (happrove : service.getAutoApproveScopes client.toClientDetails = .ok autoApprove)
    (hauthorities : SameSet authorities client.authorities ↔
      ∀ name ∈ client.authorities, OneAuthority name) :
    SameDetails service (loaded service client autoApprove secret authorities) client ↔
      Keeps service client := by
  constructor
  · intro h
    have hscope : KeepsList client.scope := sameSet_readSet_nil.mp h.scope
    refine ⟨hscope, ?_, ?_, ?_, ?_, h.additionalInformation, ?_⟩
    · exact sameSet_readSet_nil.mp h.resourceIds
    · exact sameSet_grantTypes.mp h.authorizedGrantTypes
    · exact (sameSet_redirectUris _).mp h.registeredRedirectUri
    · exact hauthorities.mp h.authorities
    · exact (keepsAutoApprove_iff happrove hscope.commas).mp h.autoApprove
  · intro h
    refine ⟨rfl, ?_, ?_, ?_, ?_, ?_, rfl, rfl, h.additionalInformation, ?_⟩
    · exact sameSet_readSet_nil.mpr h.scope
    · exact sameSet_readSet_nil.mpr h.resourceIds
    · exact sameSet_grantTypes.mpr h.authorizedGrantTypes
    · exact (sameSet_redirectUris _).mpr h.registeredRedirectUri
    · exact hauthorities.mpr h.authorities
    · exact (keepsAutoApprove_iff happrove h.scope.commas).mpr h.autoApprove

/-- A client that was added or updated is loaded again as it was exactly if its columns keep it. -/
theorem loadClientByClientId_iff
    (h : service.addClientDetails t client = .ok t' ∨
      service.updateClientDetails t client = .ok t') :
    (∃ details, service.loadClientByClientId t' client.clientId = .ok details ∧
      SameDetails service details client) ↔ Keeps service client := by
  obtain ⟨autoApprove, row, hrow, hstored⟩ := h.elim stored_add stored_update
  rw [load_of_stored hrow hstored, mapRow_of_stored hstored]
  have hread := readAuthorities_iff client.authorities
  constructor
  · intro hload
    obtain ⟨details, hdetails, hsame⟩ := hload
    obtain ⟨authorities, hauthorities, hdetails⟩ := except_bind_eq_ok.mp hdetails
    cases hdetails
    have hone := hread.mp ⟨authorities, hauthorities, hsame.authorities⟩
    exact (sameDetails_loaded hstored.approved (iff_of_true hsame.authorities hone)).mp hsame
  · intro hkeeps
    obtain ⟨authorities, hauthorities, hsame⟩ := hread.mpr hkeeps.authorities
    refine ⟨_, except_bind_eq_ok.mpr ⟨authorities, hauthorities, rfl⟩, ?_⟩
    exact (sameDetails_loaded hstored.approved (iff_of_true hsame hkeeps.authorities)).mpr hkeeps

/-- A service whose information is already text, with patterns that match themselves. -/
def plainService : JdbcClientDetailsService String where
  write := some
  read := some
  noInformation := "\x7b\x7d"
  encode := id
  isMatch scope auto := .ok (scope = auto)
  hashOrder := .insertion String

/-- The table after the first client was added. -/
def tableOf (client : BaseClientDetails String) : ClientTable :=
  match plainService.addClientDetails KeyedTable.empty client with
  | .ok t => t
  | .error _ => KeyedTable.empty

def portalClient : BaseClientDetails String where
  clientId := "portal"
  scope := ["read", "all"]
  authorizedGrantTypes := ["authorization_code"]
  registeredRedirectUri := some ["https://portal/back"]
  authorities := ["ROLE_CLIENT"]
  autoApproveScopes := some ["read"]
  accessTokenValiditySeconds := some 600
  additionalInformation := "\x7b\x7d"

def kioskClient : BaseClientDetails String where
  clientId := "kiosk"
  scope := ["read"]
  authorizedGrantTypes := ["authorization_code"]
  registeredRedirectUri := some ["https://kiosk/back?ids=1,2"]
  additionalInformation := "\x7b\x7d"

theorem keeps_portalClient : Keeps plainService portalClient where
  scope := ⟨by decide, by simp [portalClient]⟩
  resourceIds := ⟨by simp [portalClient], by simp [portalClient]⟩
  authorizedGrantTypes := by
    refine ⟨by decide, by decide, ?_⟩
    intro name hname
    rw [← (List.cons.inj hname).1]
    decide
  registeredRedirectUri := by
    refine ⟨by decide, ?_⟩
    intro name hname
    rw [← (List.cons.inj hname).1]
    decide
  authorities := by
    intro name hname
    rw [List.mem_singleton.mp hname]
    exact ⟨by decide, by decide⟩
  additionalInformation := rfl
  autoApprove := by
    have hother : plainService.isAutoApprove portalClient.toClientDetails "true" = .ok false := by
      decide
    refine ⟨?_, ?_, ?_⟩
    · intro htrue
      cases hother.symm.trans htrue
    · decide
    · decide

theorem load_portalClient : ∃ details,
    plainService.loadClientByClientId (tableOf portalClient) "portal" = .ok details ∧
      SameDetails plainService details portalClient := by
  have hadd : plainService.addClientDetails KeyedTable.empty portalClient =
      .ok (tableOf portalClient) := rfl
  exact (loadClientByClientId_iff (Or.inl hadd)).mpr keeps_portalClient

/-- A redirect URI with a comma comes back as two. -/
theorem load_kioskClient :
    plainService.addClientDetails KeyedTable.empty kioskClient = .ok (tableOf kioskClient) ∧
      ¬∃ details, plainService.loadClientByClientId (tableOf kioskClient) "kiosk" = .ok details ∧
        SameDetails plainService details kioskClient := by
  refine ⟨rfl, ?_⟩
  intro hloaded
  obtain ⟨details, hload, hsame⟩ := hloaded
  have huris : details.registeredRedirectUri = some ["https://kiosk/back?ids=1", "2"] := by
    rw [← Except.ok.inj hload]
    decide +kernel
  have hsecond := hsame.registeredRedirectUri "2"
  rw [huris] at hsecond
  have hmem : "2" ∈ kioskClient.registeredRedirectUri.getD [] := hsecond.mp (by decide)
  exact absurd hmem (by decide)

end JdbcClientDetailsService

end MaxKey.OAuth2
