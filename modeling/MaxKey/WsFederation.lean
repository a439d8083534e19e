import MaxKey.Base64Utils
import MaxKey.Realm

namespace MaxKey.WsFederation
open WebContext JavaException Effects

/-! ### Assertions as OpenSAML hands them out -/

/-- An attribute value: an XSAny with its text, which may be null, or an object of another class. -/
inductive XMLObject
  | xsAny (textContent : Option String)
  | other
  deriving DecidableEq

structure Attribute where
  attributeName : Option String
  attributeValues : List XMLObject

/-- The conditions, with the URIs of the audiences of each restriction. Instants are in
milliseconds. -/
structure Conditions where
  notBefore : Option ℤ := none
  notOnOrAfter : Option ℤ := none
  audienceRestrictionConditions : List (List (Option String)) := []

/-- An assertion, with the methods of its authentication statements. -/
structure Assertion where
  id : Option String := none
  issuer : Option String := none
  issueInstant : Option ℤ := none
  conditions : Option Conditions := none
  authenticationStatements : List (Option String) := []
  attributeStatements : List (List Attribute) := []

/-! ### Credentials -/

inductive Value
  | text (text : String)
  | list (itemList : List (Option String))
  deriving DecidableEq

def Value.toString : Value → String
  | .text textContent => textContent
  | .list itemList => "[" ++ String.intercalate ", " (itemList.map (·.getD "null")) ++ "]"

/-- A HashMap, whose keys and values may be null. -/
abbrev Attributes := List (Option String × Option Value)

namespace Attributes

def containsKey (attributes : Attributes) (name : Option String) : Bool :=
  attributes.any fun entry => entry.1 = name

def get (attributes : Attributes) (name : Option String) : Option Value :=
  (attributes.find? fun entry => entry.1 = name).bind Prod.snd

def remove (attributes : Attributes) (name : Option String) : Attributes :=
  attributes.filter fun entry => entry.1 ≠ name

def put (attributes : Attributes) (name : Option String) (value : Option Value) : Attributes :=
  attributes.remove name ++ [(name, value)]

end Attributes

structure WsFederationCredential where
  audience : Option String
  authenticationMethod : Option String
  id : Option String
  issuer : Option String
  issuedOn : Option ℤ
  notBefore : Option ℤ
  notOnOrAfter : Option ℤ
  retrievedOn : ℤ
  attributes : Attributes

/-- What the service is wired with, and how texts are folded where their case is ignored. -/
structure WsFederationConfiguration where
  identifier : String
  principal : String
  relyingParty : String
  upnSuffix : Option String := none
  tolerance : ℤ := 10000
  attributeMutator : Option (Attributes → Option String → Except JavaException Attributes) := none
  parseTokenFromString : String → Except JavaException (Option Assertion)
  validateSignature : Assertion → Bool
  foldCase : Char → Char

namespace WsFederationConfiguration

variable (config : WsFederationConfiguration)

def equalsIgnoreCase (s t : String) : Bool :=
  s.toList.map config.foldCase = t.toList.map config.foldCase

def modifyAttributes (attributes : Attributes) : Except JavaException Attributes :=
  config.attributeMutator.elim (.ok attributes) fun mutator => mutator attributes config.upnSuffix

end WsFederationConfiguration

namespace WsFederationUtils

def first {α : Type} (items : List α) : Except JavaException α :=
  present indexOutOfBounds items.head?

def textOf : XMLObject → Except JavaException (Option String)
  | .xsAny textContent => .ok textContent
  | .other => .error classCast

/-- An attribute of one value is a text, one of several a list; one without values is left out. -/
def addAttribute (attributes : Attributes) (item : Attribute) : Except JavaException Attributes := do
  match ← item.attributeValues.mapM textOf with
  | [] => return attributes
  | [textContent] => return attributes.put item.attributeName (textContent.map .text)
  | itemList => return attributes.put item.attributeName (some (.list itemList))

/-- The text is made for the log alone, but not of a null. -/
def checkToString (credential : WsFederationCredential) : Except JavaException Unit :=
  failIf ((∃ entry ∈ credential.attributes, entry.2 = none) ∨ credential.issuedOn = none ∨
    credential.notBefore = none ∨ credential.notOnOrAfter = none) nullPointer

/-- The first audience of the first restriction. -/
def audienceOf (conditions : Option Conditions) : Except JavaException (Option String) :=
  conditions.elim (.ok none) fun conditions => do
    first (← first conditions.audienceRestrictionConditions)

def createCredentialFromToken (now : ℤ) (assertion : Assertion) :
    Except JavaException WsFederationCredential := do
  let audience ← audienceOf assertion.conditions
  let statement ← first assertion.attributeStatements
  let attributes ← statement.foldlM addAttribute []
  let credential : WsFederationCredential :=
    { audience
      authenticationMethod := assertion.authenticationStatements.head?.join
      id := assertion.id
      issuer := assertion.issuer
      issuedOn := assertion.issueInstant
      notBefore := assertion.conditions.bind Conditions.notBefore
      notOnOrAfter := assertion.conditions.bind Conditions.notOnOrAfter
      retrievedOn := now
      attributes }
  checkToString credential
  return credential

end WsFederationUtils

/-- A null as the end of the validity is the present. -/
def WsFederationCredential.isValid (credential : WsFederationCredential)
    (config : WsFederationConfiguration) : Except JavaException Bool := do
  let audience ← present nullPointer credential.audience
  if ¬config.equalsIgnoreCase audience config.relyingParty then return false
  else
    let issuer ← present nullPointer credential.issuer
    if ¬config.equalsIgnoreCase issuer config.identifier then return false
    else
      let issuedOn ← present nullPointer credential.issuedOn
      if issuedOn < credential.retrievedOn - config.tolerance ∨
          issuedOn > credential.retrievedOn + config.tolerance then return false
      else return ¬∃ notOnOrAfter ∈ credential.notOnOrAfter, credential.retrievedOn > notOnOrAfter

namespace WsFederationServiceImpl
open WsFederationUtils

variable (config : WsFederationConfiguration)

/-- The login with an assertion whose signature is valid. -/
def loginAssertion (request : HttpRequest) (assertion : Assertion) : Web Bool := do
  let credential ← orError (createCredentialFromToken request.now assertion)
  if ← orError (credential.isValid config) then
    let attributes ← orError (config.modifyAttributes credential.attributes)
    let name ← orThrow nullPointer (attributes.get (some ""))
    Realm.setAuthentication request (some name.toString) "WsFederation" "" "" "success"
  else return false

def login (request : HttpRequest) (wsFederationWA : Option String)
    (wsFederationWResult : String) : Web Bool := do
  if wsFederationWA.any fun wa => JavaText.trim wa ≠ "" ∧ config.equalsIgnoreCase wa "wsignin1.0" then
    match ← orError (config.parseTokenFromString wsFederationWResult) with
    | none => return false
    | some assertion =>
      if config.validateSignature assertion then loginAssertion config request assertion
      else return false
  else return false

end WsFederationServiceImpl

/-! ### What an assertion says -/

section

variable (config : WsFederationConfiguration) (now : ℤ) (assertion : Assertion)

def text : XMLObject → Option String
  | .xsAny textContent => textContent
  | .other => none

def putTexts (attributes : Attributes) (item : Attribute) : Attributes :=
  match item.attributeValues.map text with
  | [] => attributes
  | [textContent] => attributes.put item.attributeName (textContent.map .text)
  | itemList => attributes.put item.attributeName (some (.list itemList))

def attributesOf (statement : List Attribute) : Attributes := statement.foldl putTexts []

/-- The URI of the first audience, if there is one, which may be null. -/
def firstAudience (conditions : Conditions) : Option (Option String) :=
  conditions.audienceRestrictionConditions.head?.bind List.head?

/-- The assertion has all that a credential is printed with. -/
structure Complete (conditions : Conditions) (statement : List Attribute) : Prop where
  issueInstant : assertion.issueInstant ≠ none
  conditions_eq : assertion.conditions = some conditions
  notBefore : conditions.notBefore ≠ none
  notOnOrAfter : conditions.notOnOrAfter ≠ none
  audience : firstAudience conditions ≠ none
  statement_eq : assertion.attributeStatements.head? = some statement
  values : ∀ item ∈ statement, .other ∉ item.attributeValues
  texts : ∀ entry ∈ attributesOf statement, entry.2 ≠ none

/-- The audience and the issuer are the configured ones, the issue instant is within the tolerance,
and the present within the validity. -/
structure Valid : Prop where
  audience : ∃ conditions audience, assertion.conditions = some conditions ∧
    firstAudience conditions = some (some audience) ∧
      config.equalsIgnoreCase audience config.relyingParty
  issuer : ∃ issuer, assertion.issuer = some issuer ∧
    config.equalsIgnoreCase issuer config.identifier
  issueInstant : ∃ issueInstant, assertion.issueInstant = some issueInstant ∧
    now - config.tolerance ≤ issueInstant ∧ issueInstant ≤ now + config.tolerance
  validity : ∃ conditions notBefore notOnOrAfter, assertion.conditions = some conditions ∧
    conditions.notBefore = some notBefore ∧ conditions.notOnOrAfter = some notOnOrAfter ∧
      notBefore ≤ now ∧ now < notOnOrAfter

/-- The user name in the attribute that the configuration calls the principal, as the configured
mutator leaves it. -/
def Names (username : String) : Prop :=
  ∃ statement attributes value, assertion.attributeStatements.head? = some statement ∧
    config.modifyAttributes (attributesOf statement) = .ok attributes ∧
    attributes.get (some config.principal) = some value ∧ value.toString = username

/-- With a valid assertion a login logs the user in that it names. With any other it returns false,
and nothing happens. -/
structure Lawful (now : ℤ) (w : World) (login : Web Bool) : Prop where
  accepts : Valid config now assertion → ∃ username w' user, login w = .ok true w' ∧
    Names config assertion username ∧ w'.session.currentUser = some user ∧ user.username = username
  rejects : ¬Valid config now assertion → login w = .ok false w

end

/-! ### The credential of an assertion -/

section

open WsFederationUtils

variable {config : WsFederationConfiguration} {now : ℤ} {assertion : Assertion}
  {conditions : Conditions} {statement : List Attribute} {attributes : Attributes}

theorem textOf_eq_ok {value : XMLObject} {textContent : Option String} :
    textOf value = .ok textContent ↔ value ≠ .other ∧ textContent = text value := by
  cases value with
  | xsAny content => simp [textOf, text, eq_comm]
  | other => simp [textOf]

theorem mapM_textOf_eq_ok {values : List XMLObject} {texts : List (Option String)} :
    values.mapM textOf = .ok texts ↔ .other ∉ values ∧ texts = values.map text := by
  induction values generalizing texts with
  | nil => simp [pure, Except.pure, eq_comm]
  | cons value values ih =>
    rw [List.mapM_cons]
    simp only [except_bind_eq_ok, ih, textOf_eq_ok, List.mem_cons, not_or, List.map_cons]
    constructor
    · rintro ⟨_, ⟨hvalue, rfl⟩, _, ⟨hvalues, rfl⟩, hcons⟩
      exact ⟨⟨Ne.symm hvalue, hvalues⟩, (Except.ok.inj hcons).symm⟩
    · rintro ⟨⟨hvalue, hvalues⟩, rfl⟩
      exact ⟨_, ⟨Ne.symm hvalue, rfl⟩, _, ⟨hvalues, rfl⟩, rfl⟩

theorem addAttribute_eq_ok {item : Attribute} {attributes' : Attributes} :
    addAttribute attributes item = .ok attributes' ↔
      .other ∉ item.attributeValues ∧ attributes' = putTexts attributes item := by
  have hput : ∀ texts : List (Option String), (match texts with
      | [] => pure attributes
      | [textContent] => pure (attributes.put item.attributeName (textContent.map .text))
      | itemList => pure (attributes.put item.attributeName (some (.list itemList))) :
        Except JavaException Attributes) = .ok (match texts with
      | [] => attributes
      | [textContent] => attributes.put item.attributeName (textContent.map .text)
      | itemList => attributes.put item.attributeName (some (.list itemList))) := by
    intro texts
    match texts with
    | [] => rfl
    | [_] => rfl
    | _ :: _ :: _ => rfl
  rw [addAttribute, except_bind_eq_ok]
  simp only [hput, mapM_textOf_eq_ok, Except.ok.injEq, putTexts]
  constructor
  · rintro ⟨_, ⟨hvalues, rfl⟩, rfl⟩
    exact ⟨hvalues, rfl⟩
  · rintro ⟨hvalues, rfl⟩
    exact ⟨_, ⟨hvalues, rfl⟩, rfl⟩

theorem foldlM_addAttribute_eq_ok {attributes' : Attributes} :
    statement.foldlM addAttribute attributes = .ok attributes' ↔
      (∀ item ∈ statement, .other ∉ item.attributeValues) ∧
        attributes' = statement.foldl putTexts attributes := by
  induction statement generalizing attributes with
  | nil => simp [pure, Except.pure, eq_comm]
  | cons item statement ih =>
    rw [List.foldlM_cons, except_bind_eq_ok, List.forall_mem_cons, List.foldl_cons]
    simp only [ih, addAttribute_eq_ok]
    constructor
    · rintro ⟨_, ⟨hitem, rfl⟩, hrest, heq⟩
      exact ⟨⟨hitem, hrest⟩, heq⟩
    · rintro ⟨⟨hitem, hrest⟩, heq⟩
      exact ⟨_, ⟨hitem, rfl⟩, hrest, heq⟩

theorem first_eq_ok {α : Type} {items : List α} {a : α} :
    first items = .ok a ↔ items.head? = some a :=
  present_eq_ok

theorem audienceOf_eq_ok {audience : Option String} :
    audienceOf (some conditions) = .ok audience ↔ firstAudience conditions = some audience := by
  rw [audienceOf, Option.elim_some, except_bind_eq_ok, firstAudience, Option.bind_eq_some_iff]
  simp only [first_eq_ok]

/-- The credential of a complete assertion. -/
def credentialOf (now : ℤ) (assertion : Assertion) (conditions : Conditions)
    (statement : List Attribute) : WsFederationCredential where
  audience := (firstAudience conditions).join
  authenticationMethod := assertion.authenticationStatements.head?.join
  id := assertion.id
  issuer := assertion.issuer
  issuedOn := assertion.issueInstant
  notBefore := conditions.notBefore
  notOnOrAfter := conditions.notOnOrAfter
  retrievedOn := now
  attributes := attributesOf statement

theorem createCredentialFromToken_eq_ok {credential : WsFederationCredential} :
    createCredentialFromToken now assertion = .ok credential ↔ ∃ conditions statement,
      Complete assertion conditions statement ∧
        credential = credentialOf now assertion conditions statement := by
  rw [createCredentialFromToken]
  simp only [except_bind_eq_ok, first_eq_ok, foldlM_addAttribute_eq_ok, checkToString, failIf_eq_ok,
    not_or, not_exists, not_and]
  constructor
  · rintro ⟨audience, haudience, statement, hstatement, _, ⟨hvalues, rfl⟩, _,
      ⟨htexts, hissued, hbefore, hafter⟩, hcredential⟩
    cases hconditions : assertion.conditions with
    | none =>
      rw [hconditions] at hbefore
      exact absurd rfl hbefore
    | some conditions =>
      rw [hconditions] at haudience hbefore hafter hcredential
      have hfirst := audienceOf_eq_ok.mp haudience
      refine ⟨conditions, statement,
        ⟨hissued, hconditions, hbefore, hafter, ?_, hstatement, hvalues, htexts⟩, ?_⟩
      · rw [hfirst]
        exact Option.some_ne_none _
      · rw [← Except.ok.inj hcredential, credentialOf, hfirst]
        rfl
  · rintro ⟨conditions, statement, h, rfl⟩
    obtain ⟨audience, haudience⟩ := Option.ne_none_iff_exists'.mp h.audience
    refine ⟨audience, ?_, statement, h.statement_eq, _, ⟨h.values, rfl⟩, (), ⟨h.texts,
      h.issueInstant, ?_, ?_⟩, ?_⟩
    · rw [h.conditions_eq]
      exact audienceOf_eq_ok.mpr haudience
    · rw [h.conditions_eq]
      exact h.notBefore
    · rw [h.conditions_eq]
      exact h.notOnOrAfter
    · rw [h.conditions_eq, credentialOf, haudience]
      rfl

/-- The credential is refused: its audience is another one, or its issuer, or it was issued too long
ago or too far ahead, or its validity is over. -/
def Refused (config : WsFederationConfiguration) (now : ℤ) (assertion : Assertion)
    (conditions : Conditions) : Prop :=
  ∃ audience, firstAudience conditions = some (some audience) ∧
    (config.equalsIgnoreCase audience config.relyingParty → ∃ issuer,
      assertion.issuer = some issuer ∧ (config.equalsIgnoreCase issuer config.identifier →
        (∃ issueInstant ∈ assertion.issueInstant, issueInstant < now - config.tolerance ∨
          now + config.tolerance < issueInstant) ∨
        ∃ notOnOrAfter ∈ conditions.notOnOrAfter, notOnOrAfter < now))

/-- The checks of a credential whose instants are there. -/
theorem isValid_eq {issueInstant notOnOrAfter : ℤ}
    (hissued : assertion.issueInstant = some issueInstant)
    (hafter : conditions.notOnOrAfter = some notOnOrAfter) :
    (credentialOf now assertion conditions statement).isValid config = (do
      let audience ← present nullPointer (firstAudience conditions).join
      if ¬config.equalsIgnoreCase audience config.relyingParty then return false
      else
        let issuer ← present nullPointer assertion.issuer
        if ¬config.equalsIgnoreCase issuer config.identifier then return false
        else return ¬(issueInstant < now - config.tolerance ∨ now + config.tolerance < issueInstant) ∧
          ¬notOnOrAfter < now) := by
  simp only [WsFederationCredential.isValid, credentialOf, hissued, hafter, present_some_bind]
  congr 1
  funext audience
  congr 1
  congr 1
  funext issuer
  congr 1
  split_ifs with hdrift
  · simp [hdrift]
  · simp [hdrift]

theorem isValid_of_valid (h : Complete assertion conditions statement)
    (hvalid : Valid config now assertion) :
    (credentialOf now assertion conditions statement).isValid config = .ok true := by
  obtain ⟨conditions', audience, hconditions, haudience, hparty⟩ := hvalid.audience
  obtain ⟨issuer, hissuer, hidentifier⟩ := hvalid.issuer
  obtain ⟨issueInstant, hissued, hearly, hlate⟩ := hvalid.issueInstant
  obtain ⟨conditions'', notBefore, notOnOrAfter, hconditions', -, hafter, -, hnow⟩ :=
    hvalid.validity
  rw [h.conditions_eq] at hconditions hconditions'
  rw [← Option.some.inj hconditions] at haudience
  rw [← Option.some.inj hconditions'] at hafter
  have hdrift :
      ¬(issueInstant < now - config.tolerance ∨ now + config.tolerance < issueInstant) := by omega
  have hover : ¬notOnOrAfter < now := by omega
  rw [isValid_eq hissued hafter, haudience, hissuer, Option.join_some, present_some_bind,
    if_neg (not_not_intro hparty), present_some_bind, if_neg (not_not_intro hidentifier)]
  exact congrArg Except.ok (decide_eq_true ⟨hdrift, hover⟩)

theorem isValid_eq_false (h : Complete assertion conditions statement) :
    (credentialOf now assertion conditions statement).isValid config = .ok false ↔
      Refused config now assertion conditions := by
  obtain ⟨issueInstant, hissued⟩ := Option.ne_none_iff_exists'.mp h.issueInstant
  obtain ⟨notOnOrAfter, hafter⟩ := Option.ne_none_iff_exists'.mp h.notOnOrAfter
  have htimes : ((∃ i ∈ assertion.issueInstant, i < now - config.tolerance ∨
        now + config.tolerance < i) ∨ ∃ i ∈ conditions.notOnOrAfter, i < now) ↔
      ¬(¬(issueInstant < now - config.tolerance ∨ now + config.tolerance < issueInstant) ∧
        ¬notOnOrAfter < now) := by
    simp only [hissued, hafter, Option.mem_some_iff, exists_eq_left']
    tauto
  rw [isValid_eq hissued hafter, Refused, htimes]
  simp only [except_bind_eq_ok, present_eq_ok, Option.join_eq_some_iff]
  apply exists_congr
  intro audience
  apply and_congr_right
  intro _
  by_cases hparty : config.equalsIgnoreCase audience config.relyingParty = true
  · rw [if_neg (not_not_intro hparty), except_bind_eq_ok, imp_iff_right hparty]
    simp only [present_eq_ok]
    apply exists_congr
    intro issuer
    apply and_congr_right
    intro _
    by_cases hidentifier : config.equalsIgnoreCase issuer config.identifier = true
    · rw [if_neg (not_not_intro hidentifier), imp_iff_right hidentifier]
      show (Except.ok _ : Except JavaException Bool) = _ ↔ _
      rw [Except.ok.injEq, decide_eq_false_iff_not]
    · rw [if_pos hidentifier]
      exact iff_of_true rfl fun heq => absurd heq hidentifier
  · rw [if_pos hparty]
    exact iff_of_true rfl fun heq => absurd heq hparty

theorem not_valid_of_refused (h : Complete assertion conditions statement)
    (hrefused : Refused config now assertion conditions) : ¬Valid config now assertion := by
  intro hvalid
  have htrue := isValid_of_valid h hvalid
  rw [(isValid_eq_false h).mpr hrefused] at htrue
  cases htrue

end

/-! ### The login -/

/-- The session is opened for this user name, or without a user of the name stays with the user of
the other one. -/
def Opens (request : HttpRequest) (w : World) (name username : String) : Prop :=
  ¬request.faults.selectUserInfo ∧
    match Realm.findUser w (some name) with
    | none => ∃ user ∈ w.session.currentUser, user.username = username
    | some user => ¬request.faults.selectGroups ∧ Realm.historyWritable request (some user) ∧
        name = username

/-- The attribute without a name holds a name that opens the session for the user whose name is in
that of the principal. -/
def LogsIn (config : WsFederationConfiguration) (request : HttpRequest) (w : World)
    (statement : List Attribute) : Prop :=
  ∃ attributes name username, config.modifyAttributes (attributesOf statement) = .ok attributes ∧
    attributes.get (some "") = some name ∧ attributes.get (some config.principal) = some username ∧
    Opens request w name.toString username.toString

section

open WsFederationUtils WsFederationServiceImpl

variable {config : WsFederationConfiguration} {request : HttpRequest} {w : World}
  {assertion : Assertion} {conditions : Conditions} {statement : List Attribute}

theorem opens_iff {name username type provider code message : String} :
    Opens request w name username ↔ ∃ w' user,
      Realm.setAuthentication request (some name) type provider code message w = .ok true w' ∧
        w'.session.currentUser = some user ∧ user.username = username := by
  have hreturns : (∃ w', Realm.setAuthentication request (some name) type provider code message w =
      .ok true w') ↔ _ := Realm.setAuthentication_eq_ok
  have hidentity :=
    Realm.setAuthentication_identity request (some name) type provider code message w
  unfold Opens
  by_cases hselect : request.faults.selectUserInfo = true
  · refine iff_of_false (fun h => h.1 hselect) ?_
    rintro ⟨w', user, hrun, -⟩
    exact (hreturns.mp ⟨w', hrun⟩).2.1 hselect
  rw [if_neg hselect] at hidentity
  cases hfind : Realm.findUser w (some name) with
  | none =>
    rw [hfind] at hreturns hidentity
    obtain ⟨w', hrun⟩ := hreturns.mpr ⟨rfl, hselect, by simp⟩
    rw [final_of_ok hrun] at hidentity
    have hcurrent : w'.session.currentUser = w.session.currentUser := congrArg Prod.fst hidentity
    simp only [hselect, Bool.false_eq_true, not_false_eq_true, true_and, hrun,
      EStateM.Result.ok.injEq]
    constructor
    · rintro ⟨user, huser, hname⟩
      exact ⟨w', user, rfl, hcurrent.trans huser, hname⟩
    · rintro ⟨_, user, rfl, huser, hname⟩
      exact ⟨user, hcurrent.symm.trans huser, hname⟩
  | some found =>
    rw [hfind] at hreturns hidentity
    have hfound : found.username = name := Option.some.inj (Realm.findUser_eq_some hfind).2
    constructor
    · rintro ⟨-, hgroups, hhistory, hname⟩
      obtain ⟨w', hrun⟩ := hreturns.mpr ⟨rfl, hselect, fun user huser =>
        Option.some.inj huser ▸ ⟨hgroups, hhistory⟩⟩
      rw [final_of_ok hrun] at hidentity
      simp only [hgroups, if_false, Bool.false_eq_true] at hidentity
      exact ⟨w', found, hrun, congrArg Prod.fst hidentity, hfound.trans hname⟩
    · rintro ⟨w', user, hrun, hcurrent, hname⟩
      obtain ⟨hgroups, hhistory⟩ := (hreturns.mp ⟨w', hrun⟩).2.2 found rfl
      rw [final_of_ok hrun] at hidentity
      simp only [hgroups, if_false, Bool.false_eq_true] at hidentity
      have hsame : some found = some user :=
        (congrArg Prod.fst hidentity).symm.trans hcurrent
      rw [← Option.some.inj hsame] at hname
      exact ⟨hselect, hgroups, hhistory, hfound.symm.trans hname⟩

/-- The login is decided by the credential, once there is one. -/
theorem loginAssertion_of_complete (h : Complete assertion conditions statement) :
    loginAssertion config request assertion =
      (orError ((credentialOf request.now assertion conditions statement).isValid config) >>=
        fun valid => if valid then
          orError (config.modifyAttributes (attributesOf statement)) >>= fun attributes =>
            orThrow nullPointer (attributes.get (some "")) >>= fun name =>
              Realm.setAuthentication request (some name.toString) "WsFederation" "" "" "success"
        else pure false) := by
  have hcreate := createCredentialFromToken_eq_ok.mpr
    ⟨conditions, statement, h, Eq.refl (credentialOf request.now assertion conditions statement)⟩
  rw [loginAssertion, hcreate, orError_ok_bind]
  rfl

theorem complete_of_ok {b : Bool} {w' : World}
    (h : loginAssertion config request assertion w = .ok b w') :
    ∃ conditions statement, Complete assertion conditions statement := by
  cases hcreate : createCredentialFromToken request.now assertion with
  | error e =>
    rw [loginAssertion, hcreate] at h
    cases h
  | ok credential =>
    obtain ⟨conditions, statement, hcomplete, -⟩ := createCredentialFromToken_eq_ok.mp hcreate
    exact ⟨conditions, statement, hcomplete⟩

/-- A login that returns false was refused. -/
theorem refused_of_false {w' : World} (h : Complete assertion conditions statement)
    (hfalse : loginAssertion config request assertion w = .ok false w') :
    Refused config request.now assertion conditions := by
  rw [loginAssertion_of_complete h] at hfalse
  cases hvalid : (credentialOf request.now assertion conditions statement).isValid config with
  | error e =>
    rw [hvalid] at hfalse
    cases hfalse
  | ok valid =>
    cases valid with
    | false => exact (isValid_eq_false h).mp hvalid
    | true =>
      rw [hvalid, orError_ok_bind, if_pos rfl] at hfalse
      obtain ⟨attributes, w₁, -, hfalse⟩ := bind_eq_ok.mp hfalse
      obtain ⟨name, w₂, -, hfalse⟩ := bind_eq_ok.mp hfalse
      cases (Realm.setAuthentication_eq_ok.mp ⟨w', hfalse⟩).1

/-- A valid assertion opens the session, or the login does not return. -/
theorem logsIn_iff (h : Complete assertion conditions statement)
    (hvalid : Valid config request.now assertion) :
    LogsIn config request w statement ↔ ∃ username w' user,
      loginAssertion config request assertion w = .ok true w' ∧ Names config assertion username ∧
        w'.session.currentUser = some user ∧ user.username = username := by
  rw [loginAssertion_of_complete h, isValid_of_valid h hvalid, orError_ok_bind, if_pos rfl]
  constructor
  · rintro ⟨attributes, name, username, hmodify, hname, husername, hopens⟩
    obtain ⟨w', user, hrun, hcurrent, huser⟩ := opens_iff.mp hopens
    refine ⟨username.toString, w', user, ?_, ⟨statement, attributes, username, h.statement_eq,
      hmodify, husername, rfl⟩, hcurrent, huser⟩
    rw [hmodify, orError_ok_bind, hname, orThrow_some_bind]
    exact hrun
  · rintro ⟨_, w', user, hrun, ⟨statement', attributes, username, hstatement, hmodify, husername,
      rfl⟩, hcurrent, huser⟩
    rw [h.statement_eq] at hstatement
    rw [← Option.some.inj hstatement] at hmodify
    rw [hmodify, orError_ok_bind] at hrun
    cases hname : attributes.get (some "") with
    | none =>
      rw [hname] at hrun
      cases hrun
    | some name =>
      rw [hname, orThrow_some_bind] at hrun
      exact ⟨attributes, name, username, hmodify, hname, husername,
        opens_iff.mpr ⟨w', user, hrun, hcurrent, huser⟩⟩

theorem lawful_of_assertion : Lawful config assertion request.now w
      (loginAssertion config request assertion) ↔
    ∃ conditions statement, Complete assertion conditions statement ∧
      (Refused config request.now assertion conditions ∨
        Valid config request.now assertion ∧ LogsIn config request w statement) := by
  constructor
  · intro h
    by_cases hvalid : Valid config request.now assertion
    · obtain ⟨username, w', user, hrun, hnames⟩ := h.accepts hvalid
      obtain ⟨conditions, statement, hcomplete⟩ := complete_of_ok hrun
      exact ⟨conditions, statement, hcomplete, .inr ⟨hvalid,
        (logsIn_iff hcomplete hvalid).mpr ⟨username, w', user, hrun, hnames⟩⟩⟩
    · have hrun := h.rejects hvalid
      obtain ⟨conditions, statement, hcomplete⟩ := complete_of_ok hrun
      exact ⟨conditions, statement, hcomplete, .inl (refused_of_false hcomplete hrun)⟩
  · rintro ⟨conditions, statement, hcomplete, hrefused | ⟨hvalid, hlogsIn⟩⟩
    · refine ⟨fun hvalid => absurd hvalid (not_valid_of_refused hcomplete hrefused), fun _ => ?_⟩
      rw [loginAssertion_of_complete hcomplete, (isValid_eq_false hcomplete).mpr hrefused,
        orError_ok_bind]
      rfl
    · exact ⟨fun _ => (logsIn_iff hcomplete hvalid).mp hlogsIn, fun hnot => absurd hvalid hnot⟩

/-- A sign-in with an assertion whose signature is valid is lawful exactly where the assertion is
complete and either refused, or valid and its attribute without a name fit to log the user in. -/
theorem wsFederationLogin_lawful_iff (config : WsFederationConfiguration) (request : HttpRequest)
    (w : World) (wsFederationWA wsFederationWResult : String) (assertion : Assertion)
    (hsignIn : JavaText.trim wsFederationWA ≠ "" ∧
      config.equalsIgnoreCase wsFederationWA "wsignin1.0" = true)
    (hparse : config.parseTokenFromString wsFederationWResult = .ok (some assertion))
    (hsignature : config.validateSignature assertion = true) :
    Lawful config assertion request.now w
        (login config request (some wsFederationWA) wsFederationWResult) ↔
      ∃ conditions statement, Complete assertion conditions statement ∧
        (Refused config request.now assertion conditions ∨
          Valid config request.now assertion ∧ LogsIn config request w statement) := by
  have hlogin : login config request (some wsFederationWA) wsFederationWResult =
      loginAssertion config request assertion := by
    rw [login, Option.any_some, if_pos (decide_eq_true hsignIn), hparse, orError_ok_bind]
    exact if_pos hsignature
  rw [hlogin]
  exact lawful_of_assertion

end

/-! ### The mutator that comes with the service -/

namespace WsFedAttributeMutatorImpl

/-- String.replace by the empty text: a text that is found is skipped. -/
def removeText (target : List Char) : ℕ → List Char → List Char
  | _, [] => []
  | skip + 1, _ :: s => removeText target skip s
  | 0, c :: s =>
    if target.isPrefixOf (c :: s) then removeText target (target.length - 1) s
    else c :: removeText target 0 s

def attributeMapping (attributes : Attributes) (oldName newName : String) : Attributes :=
  if attributes.containsKey oldName then
    (attributes.put newName (attributes.get oldName)).remove oldName
  else attributes

def modifyAttributes (attributes : Attributes) (upnSuffix : Option String) :
    Except JavaException Attributes := do
  let attributes ←
    if attributes.containsKey "upn" then do
      let upn ← present nullPointer (attributes.get "upn")
      let suffix := "@" ++ upnSuffix.getD "null"
      pure (attributes.put "upn"
        (some (.text (String.ofList (removeText suffix.toList 0 upn.toString.toList)))))
    else pure attributes
  let attributes := attributeMapping attributes "surname" "LastName"
  let attributes := attributeMapping attributes "givenname" "FirstName"
  let attributes := attributeMapping attributes "Group" "Groups"
  return attributeMapping attributes "employeeNumber" "UDC_IDENTIFIER"

end WsFedAttributeMutatorImpl

/-- An assertion for the user admin, at the time 1000. -/
def testAssertion : Assertion where
  issuer := "http://adfs.maxkey.top/adfs/services/trust"
  issueInstant := some 1000
  conditions := some
    { notBefore := some 1000
      notOnOrAfter := some 2000
      audienceRestrictionConditions := [["urn:federation:connsec"]] }
  attributeStatements := [[⟨some "upn", [.xsAny "admin@maxkey.org"]⟩]]

def testConfig : WsFederationConfiguration where
  identifier := "http://adfs.maxkey.top/adfs/services/trust"
  principal := "upn"
  relyingParty := "urn:federation:connsec"
  upnSuffix := "maxkey.org"
  attributeMutator := some WsFedAttributeMutatorImpl.modifyAttributes
  parseTokenFromString _ := .ok (some testAssertion)
  validateSignature _ := true
  foldCase := JavaText.foldCase

def testRequest : HttpRequest where
  userAgent := none
  now := 1000
  newSessionId := "t"
  loginSessionId := "u"

def testWorld : World where
  database := { userInfo := .empty, historyLogin := [], groupMember := [], passwordPolicy := [] }
  session := { id := "s" }

theorem wsFederationLogin_lawful_iff_test :
    Lawful testConfig testAssertion testRequest.now testWorld
        (WsFederationServiceImpl.login testConfig testRequest (some "wsignin1.0") "") ↔
      ∃ conditions statement, Complete testAssertion conditions statement ∧
        (Refused testConfig testRequest.now testAssertion conditions ∨
          Valid testConfig testRequest.now testAssertion ∧
            LogsIn testConfig testRequest testWorld statement) :=
  wsFederationLogin_lawful_iff testConfig testRequest testWorld "wsignin1.0" "" testAssertion
    (by decide +kernel) rfl rfl

/-- A valid assertion that names its user as configured ends in an exception. -/
theorem valid_throws : Valid testConfig testRequest.now testAssertion ∧
    Names testConfig testAssertion "admin" ∧
    WsFederationServiceImpl.login testConfig testRequest (some "wsignin1.0") "" testWorld =
      .error nullPointer testWorld := by
  refine ⟨⟨?_, ?_, ?_, ?_⟩, ?_, rfl⟩
  · exact ⟨_, _, rfl, rfl, rfl⟩
  · exact ⟨_, rfl, rfl⟩
  · exact ⟨_, rfl, by decide +kernel, by decide +kernel⟩
  · exact ⟨_, _, _, rfl, rfl, rfl, by decide +kernel, by decide +kernel⟩
  · exact ⟨_, _, .text "admin", rfl, rfl, rfl, rfl⟩

end MaxKey.WsFederation
