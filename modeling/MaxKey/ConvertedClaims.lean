import MaxKey.AccessTokenConverter

namespace MaxKey.OAuth2
open JavaException Effects AuthorityUtils OAuth2Utils

/-- Lists that stand for one set. -/
def SameSet {α : Type} (xs ys : List α) : Prop := ∀ x, x ∈ xs ↔ x ∈ ys

namespace Claims

variable {claims old new : Claims} {name other : String} {claim : Claim}

@[simp] theorem get_put_self : (claims.put name claim).get name = some claim := by
  simp [get, put]

@[simp] theorem get_put_of_ne (h : other ≠ name) :
    (claims.put name claim).get other = claims.get other := by
  simp [get, put, List.lookup_cons, beq_false_of_ne h]

@[simp] theorem get_putSome_self (value : Option Claim) :
    (claims.putSome name value).get name = value.or (claims.get name) := by
  cases value with
  | none => rfl
  | some claim => exact get_put_self

@[simp] theorem get_putSome_of_ne (value : Option Claim) (h : other ≠ name) :
    (claims.putSome name value).get other = claims.get other := by
  cases value with
  | none => rfl
  | some claim => exact get_put_of_ne h

@[simp] theorem get_putAll : (old.putAll new).get name = (new.get name).or (old.get name) :=
  List.lookup_append

end Claims

section Tokens

variable {text part role : String} {names roles : List String}

/-! ### Lists with commas -/

/-- A token has no comma and no blank at its ends. -/
theorem tokenize_of_mem (h : part ∈ tokenizeToStringArray text) :
    tokenizeToStringArray part = [part] := by
  unfold tokenizeToStringArray at h
  obtain ⟨hmap, hne⟩ := List.mem_filter.mp h
  obtain ⟨chars, hchars, rfl⟩ := List.mem_map.mp hmap
  have hcomma : ∀ c ∈ (JavaText.trim (String.ofList chars)).toList, (c == ',') = false := by
    intro c hc
    have hmem := JavaText.mem_of_mem_trim hc
    rw [String.toList_ofList] at hmem
    rw [List.splitOn_eq_splitOnP] at hchars
    exact JavaText.forall_not_of_mem_splitOnP hchars c hmem
  unfold tokenizeToStringArray
  rw [List.splitOn_eq_splitOnP, List.splitOnP_eq_singleton hcomma, List.map_singleton,
    String.ofList_toList, JavaText.trim_trim, List.filter_singleton, hne]
  rfl

theorem tokenize_append (text rest : String) : tokenizeToStringArray (text ++ "," ++ rest) =
    tokenizeToStringArray text ++ tokenizeToStringArray rest := by
  have hchars : (text ++ "," ++ rest).toList = text.toList ++ ',' :: rest.toList := by simp
  unfold tokenizeToStringArray
  rw [hchars, List.splitOn_append_cons_self, List.map_append, List.filter_append]

/-- The tokens of a joined list are those of its parts. The induction is on the parts. -/
theorem tokenize_intercalate (names : List String) :
    tokenizeToStringArray (String.intercalate "," names) =
      names.flatMap tokenizeToStringArray := by
  induction names with
  | nil => decide
  | cons name rest ih =>
    cases rest with
    | nil => simp
    | cons next rest =>
      have hjoin : String.intercalate "," (name :: next :: rest) =
          name ++ "," ++ String.intercalate "," (next :: rest) := by
        apply String.toList_injective
        simp
      rw [hjoin, tokenize_append, ih]
      rfl

theorem createAuthority_eq_ok {text : Option String} :
    createAuthority text = .ok role ↔ JavaText.hasText role ∧ text = some role := by
  unfold createAuthority
  cases text with
  | none => simp [JavaText.hasText]
  | some text =>
    split_ifs with htext
    · constructor
      · intro hrole
        have heq : text = role := Except.ok.inj hrole
        rw [← heq]
        exact ⟨htext, rfl⟩
      · rintro ⟨-, heq⟩
        rw [Option.some.inj heq]
        rfl
    · refine iff_of_false nofun ?_
      rintro ⟨hrole, heq⟩
      exact htext (heq ▸ hrole)

/-- Exactly the texts that are not blank become authorities. The induction is on the roles. -/
theorem createAuthorityList_eq_ok {texts : List (Option String)} :
    createAuthorityList texts = .ok roles ↔
      (∀ role ∈ roles, JavaText.hasText role) ∧ texts = roles.map some := by
  unfold createAuthorityList
  induction texts generalizing roles with
  | nil =>
    rw [List.mapM_nil]
    constructor
    · intro h
      rw [← Except.ok.inj h]
      simp
    · rintro ⟨-, h⟩
      rw [List.map_eq_nil_iff.mp h.symm]
      rfl
  | cons text rest ih =>
    rw [List.mapM_cons, except_bind_eq_ok]
    simp only [except_bind_eq_ok, createAuthority_eq_ok, ih]
    constructor
    · rintro ⟨first, ⟨hfirst, rfl⟩, others, ⟨hothers, rfl⟩, hreturn⟩
      rw [← Except.ok.inj hreturn]
      exact ⟨List.forall_mem_cons.mpr ⟨hfirst, hothers⟩, rfl⟩
    · rintro ⟨htext, heq⟩
      cases roles with
      | nil => cases heq
      | cons first others =>
        obtain ⟨hfirst, hothers⟩ := List.forall_mem_cons.mp htext
        rw [List.map_cons] at heq
        obtain ⟨hhead, htail⟩ := List.cons.inj heq
        exact ⟨first, ⟨hfirst, hhead⟩, others, ⟨hothers, htail⟩, rfl⟩

/-- Only texts and nulls go into an array of texts. -/
theorem toStringArray_texts (names : List String) :
    toStringArray (names.map .text) = .ok (names.map some) := by
  unfold toStringArray
  induction names with
  | nil => rfl
  | cons name rest ih =>
    rw [List.map_cons, List.mapM_cons, ih]
    rfl

theorem eq_texts_of_toStringArray {elements : List Element} (h : toStringArray elements = .ok
    (roles.map some)) : elements = roles.map .text := by
  unfold toStringArray at h
  induction elements generalizing roles with
  | nil =>
    rw [List.mapM_nil] at h
    rw [List.map_eq_nil_iff.mp (Except.ok.inj h).symm]
    rfl
  | cons element rest ih =>
    rw [List.mapM_cons, except_bind_eq_ok] at h
    obtain ⟨first, hfirst, h⟩ := h
    obtain ⟨others, hothers, hreturn⟩ := except_bind_eq_ok.mp h
    cases roles with
    | nil => cases Except.ok.inj hreturn
    | cons role roles =>
      obtain ⟨hrole, hroles⟩ := List.cons.inj (Except.ok.inj hreturn)
      rw [hroles] at hothers
      rw [List.map_cons, ← ih hothers]
      cases element with
      | null => rw [← Except.ok.inj hfirst] at hrole; cases hrole
      | text value =>
        rw [← Except.ok.inj hfirst] at hrole
        rw [Option.some.inj hrole]
      | object printed => cases hfirst

end Tokens

namespace DefaultAccessTokenConverter

/-! ### What the map leaves as it is -/

/-- The seconds of a date. -/
def seconds (date : ℤ) : ℤ := date.tdiv 1000

/-- A text that a request takes for one scope also where it is the only one. -/
def OneScope (value : String) : Prop :=
  JavaText.contains value " " ∨ JavaText.contains value "," →
    ∀ c ∈ value.toList, isSeparator c = false

/-- A text that is one authority in a list with commas. -/
structure OneAuthority (text : String) : Prop where
  token : tokenizeToStringArray text = [text]
  text : JavaText.hasText text

/-- An entry for the expiration has its seconds. -/
def KeepsExpiration (info : Claims) (expiration : Option ℤ) : Prop :=
  ∀ claim ∈ info.get "exp", ∃ n, claim = .number n ∧
    expiration.map seconds = some (seconds ((n * 1000).bmod (2 ^ 64)))

/-- An entry for the scope is a collection of the same scopes, and a scope that is alone is no
list. -/
structure KeepsScope (info : Claims) (scope : List String) : Prop where
  entry : ∀ claim ∈ info.get "scope", ∃ elements, claim = .collection elements ∧
    SameSet elements (scope.map .text)
  one : ∀ value, scope.dedup = [value] → OneScope value

/-- An entry for the resources of a client without resources is an empty collection. -/
def KeepsResourceIds (info : Claims) (resourceIds : List String) : Prop :=
  resourceIds = [] → ∀ claim ∈ info.get "aud", claim = .collection []

/-- An entry for a grant type that is read is a text. -/
def KeepsGrantType (converter : DefaultAccessTokenConverter) (info : Claims) : Prop :=
  converter.includeGrantType = true →
    ∀ claim ∈ info.get "grant_type", ∃ text, claim.asText = .ok text

/-- A client has no entry for a user name, and no authority that is blank. -/
structure KeepsClient (info : Claims) (authorities : List String) : Prop where
  nameless : info.get "user_name" = none
  text : ∀ authority ∈ authorities, JavaText.hasText authority
  entry : ∀ claim ∈ info.get "authorities", ∃ names, claim = .texts names ∧
    SameSet names authorities

/-- The authorities of a user are read as they are. -/
structure KeepsAuthorities (converter : DefaultUserAuthenticationConverter) (info : Claims)
    (authorities : List String) : Prop where
  written : info.get "authorities" = none → ∀ authority ∈ authorities, OneAuthority authority
  byDefault : info.get "authorities" = none → authorities = [] →
    converter.defaultAuthorities.getD [] = []
  entry : ∀ claim ∈ info.get "authorities", ∃ parts,
    DefaultUserAuthenticationConverter.readAuthorities claim = .ok parts ∧
      SameSet parts authorities

/-- The authorities of a user can be read, whatever they are. -/
structure ReadsAuthorities (info : Claims) (authorities : List String) : Prop where
  written : info.get "authorities" = none →
    ∀ authority ∈ authorities, ∀ part ∈ tokenizeToStringArray authority, JavaText.hasText part
  entry : ∀ claim ∈ info.get "authorities", ∃ parts,
    DefaultUserAuthenticationConverter.readAuthorities claim = .ok parts

/-- An entry for the user name has the same name. Where there is a service for user details, it
knows the user by that name, and with the same authorities. -/
def KeepsUser (converter : DefaultUserAuthenticationConverter) (info : Claims)
    (user : UserAuthentication) : Prop :=
  let principal := (info.get "user_name").getD (.text user.getName)
  let authorities := user.getAuthorities.getD []
  match converter.userDetailsService with
  | none => principal.getName = user.getName ∧ KeepsAuthorities converter info authorities
  | some loadUserByUsername => ReadsAuthorities info authorities ∧
      ∃ username details, principal.asText = .ok username ∧
        loadUserByUsername username = .ok details ∧ details.username = user.getName ∧
          SameSet details.authorities authorities

/-- The additional information and the shape of the texts leave the token as it is. -/
structure Undisturbed (converter : DefaultAccessTokenConverter)
    (token : DefaultOAuth2AccessToken Claim) (authentication : OAuth2Authentication) : Prop where
  expiration : KeepsExpiration token.additionalInformation token.expiration
  scope : KeepsScope token.additionalInformation (token.scope.getD [])
  resourceIds :
    KeepsResourceIds token.additionalInformation authentication.oAuth2Request.resourceIds
  grantType : KeepsGrantType converter token.additionalInformation
  owner : match authentication.userAuthentication with
    | none => KeepsClient token.additionalInformation authentication.oAuth2Request.authorities
    | some user => KeepsUser converter.userTokenConverter token.additionalInformation user

section Components

variable {info : Claims} {scope names authorities : List String} {value : String}

theorem sameSet_normalizeScope (value : String) :
    SameSet (normalizeScope [value]) [value] ↔ OneScope value := by
  have hlist : (JavaText.contains value " " || JavaText.contains value ",") = true ↔
      JavaText.contains value " " ∨ JavaText.contains value "," := by rw [Bool.or_eq_true]
  unfold normalizeScope OneScope
  dsimp only
  rw [← hlist]
  split_ifs with hparsed
  · rw [forall_prop_of_true hparsed]
    constructor
    · intro hsame
      exact mem_parseParameterList ((hsame value).mpr List.mem_cons_self)
    · intro hchars
      rcases hlist.mp hparsed with hblank | hcomma
      · have hinside := (JavaText.contains_iff value " ").mp hblank
        exact absurd (hchars ' ' (hinside.subset List.mem_cons_self)) (by decide)
      · rw [parseParameterList_of_forall_not hcomma hchars]
        intro x
        rfl
  · exact iff_of_true (fun x => Iff.rfl) fun hlist => absurd hlist hparsed

theorem sameSet_map_text : SameSet (names.map Element.text) (authorities.map Element.text) ↔
    SameSet names authorities := by
  have hinj : Function.Injective Element.text := fun a b h => Element.text.inj h
  constructor
  · intro hsame name
    have hname := hsame (.text name)
    rwa [List.mem_map_of_injective hinj, List.mem_map_of_injective hinj] at hname
  · intro hsame element
    simp only [List.mem_map, hsame _]

theorem text_injective : Function.Injective Element.text := fun _ _ h => Element.text.inj h

/-- The copy of a collection of texts, but for the order. -/
theorem dedup_perm {elements : List Element} (h : SameSet elements (scope.map .text)) :
    elements.dedup.Perm (scope.dedup.map .text) := by
  rw [← List.dedup_map_of_injective text_injective,
    List.perm_ext_iff_of_nodup (List.nodup_dedup _) (List.nodup_dedup _)]
  intro element
  rw [List.mem_dedup, List.mem_dedup, h element]

/-- A set becomes a request's scope as it is, unless its one text is parsed. -/
theorem setScope_iff {elements : List Element} (h : SameSet elements (scope.map .text)) :
    (∃ set, setScope elements.dedup = .ok set ∧ SameSet set (scope.map .text)) ↔
      ∀ value, scope.dedup = [value] → OneScope value := by
  have hperm := dedup_perm h
  have hsame : SameSet elements.dedup (scope.map .text) := by
    intro element
    rw [List.mem_dedup, h element]
  match hscope : scope.dedup with
  | [] =>
    rw [hscope] at hperm
    rw [List.perm_nil.mp hperm] at hsame ⊢
    exact iff_of_true ⟨[], rfl, hsame⟩ nofun
  | [value] =>
    rw [hscope] at hperm
    have hvalue : SameSet scope [value] := by
      intro x
      rw [← hscope, List.mem_dedup]
    have hset : setScope elements.dedup = .ok ((normalizeScope [value]).map .text) := by
      rw [List.perm_singleton.mp hperm]
      rfl
    have hone : SameSet ((normalizeScope [value]).map Element.text) (scope.map .text) ↔
        OneScope value := by
      rw [sameSet_map_text, ← sameSet_normalizeScope]
      exact forall_congr' fun x => by rw [hvalue x]
    rw [hset]
    constructor
    · rintro ⟨set, hok, hsame⟩ value' hvalue'
      rw [← (List.cons.inj hvalue').1]
      rw [← Except.ok.inj hok] at hsame
      exact hone.mp hsame
    · intro hscope
      exact ⟨_, rfl, hone.mpr (hscope value rfl)⟩
  | value :: next :: rest =>
    rw [hscope] at hperm
    have hlength := hperm.length_eq
    match helements : elements.dedup with
    | [] => rw [helements] at hlength; cases hlength
    | [_] => rw [helements] at hlength; cases hlength
    | first :: second :: others =>
      rw [helements] at hsame
      have hset : setScope (first :: second :: others) = .ok (first :: second :: others) := by
        cases first <;> rfl
      exact iff_of_true ⟨_, hset, hsame⟩ nofun

variable (info) in
theorem expiration_iff {expiration : Option ℤ} (hdate : ∀ e ∈ expiration, IsLong e) :
    (∃ date, ((info.get "exp").or (expiration.map fun e => .number (e.tdiv 1000))).mapM
      extractExpiration = .ok date ∧ date.map seconds = expiration.map seconds) ↔
        KeepsExpiration info expiration := by
  unfold KeepsExpiration
  cases info.get "exp" with
  | none =>
    refine iff_of_true ?_ nofun
    cases expiration with
    | none => exact ⟨none, rfl, rfl⟩
    | some e =>
      refine ⟨_, rfl, ?_⟩
      have hlong := hdate e rfl
      have hdiv := tdiv_thousand e
      unfold IsLong at hlong
      have hback : (e.tdiv 1000 * 1000).bmod (2 ^ 64) = e.tdiv 1000 * 1000 := by
        rw [Int.bmod_def]
        omega
      show some (((e.tdiv 1000 * 1000).bmod (2 ^ 64)).tdiv 1000) = some (e.tdiv 1000)
      rw [hback, Int.mul_tdiv_cancel _ (by decide)]
  | some claim =>
    rw [Option.some_or]
    constructor
    · rintro ⟨date, hdate, hsame⟩ claim' hclaim
      rw [← Option.some.inj hclaim]
      cases claim with
      | number n =>
        rw [← Except.ok.inj hdate] at hsame
        exact ⟨n, rfl, hsame.symm⟩
      | null | text | collection | object => cases hdate
    · intro hentry
      obtain ⟨n, rfl, hsame⟩ := hentry claim rfl
      exact ⟨_, rfl, hsame.symm⟩

/-- Whichever claim for the scope is in the map, it is a collection of the scopes. -/
theorem scopeClaim_of_keeps {scope : Option (List String)} {claim : Claim}
    (h : KeepsScope info (scope.getD []))
    (hclaim : (info.get "scope").or (scope.map .texts) = some claim) :
    ∃ elements, claim = .collection elements ∧
      SameSet elements ((scope.getD []).map .text) := by
  cases hinfo : info.get "scope" with
  | some entry =>
    rw [hinfo, Option.some_or] at hclaim
    rw [← Option.some.inj hclaim]
    exact h.entry entry hinfo
  | none =>
    rw [hinfo, Option.none_or] at hclaim
    obtain ⟨scope, rfl, rfl⟩ := Option.map_eq_some_iff.mp hclaim
    exact ⟨scope.map .text, rfl, fun x => Iff.rfl⟩

theorem sameSet_dedup {elements elements' : List Element} :
    SameSet elements.dedup elements' ↔ SameSet elements elements' :=
  forall_congr' fun x => by rw [List.mem_dedup]

variable (info) in
theorem scope_iff (scope : Option (List String)) :
    (∃ read elements set, extractScope ((info.get "scope").or (scope.map .texts)) = .ok read ∧
      (((info.get "scope").or (scope.map .texts)).mapM Claim.asSet).map (·.getD []) = .ok elements ∧
      setScope elements = .ok set ∧ SameSet (read.getD []) ((scope.getD []).map .text) ∧
      SameSet set ((scope.getD []).map .text)) ↔ KeepsScope info (scope.getD []) := by
  cases hclaim : (info.get "scope").or (scope.map .texts) with
  | none =>
    obtain ⟨hinfo, hscope⟩ := Option.or_eq_none_iff.mp hclaim
    rw [Option.map_eq_none_iff.mp hscope]
    refine iff_of_true ⟨none, [], [], rfl, rfl, rfl, ?_, ?_⟩ ⟨?_, nofun⟩
    · exact fun x => Iff.rfl
    · exact fun x => Iff.rfl
    · rw [hinfo]
      exact nofun
  | some claim =>
    constructor
    · rintro ⟨read, elements, set, hread, helements, hset, hsame, hsame'⟩
      cases claim with
      | collection found =>
        rw [← Except.ok.inj hread] at hsame
        rw [← Except.ok.inj helements] at hset
        have hfound : SameSet found ((scope.getD []).map .text) := sameSet_dedup.mp hsame
        refine ⟨?_, (setScope_iff hfound).mp ⟨set, hset, hsame'⟩⟩
        intro entry hentry
        rw [hentry, Option.some_or] at hclaim
        exact ⟨found, Option.some.inj hclaim, hfound⟩
      -- a null is no scope of a token, but the copy of a null fails
      | null => cases helements
      | text | number | object => cases hread
    · intro hkeeps
      obtain ⟨found, rfl, hfound⟩ := scopeClaim_of_keeps hkeeps hclaim
      obtain ⟨set, hset, hsame⟩ := (setScope_iff hfound).mpr hkeeps.one
      exact ⟨_, _, set, rfl, rfl, hset, sameSet_dedup.mpr hfound, hsame⟩

variable (info) in
theorem resourceIds_iff (resourceIds : List String) :
    (∃ set, ((((if resourceIds = [] then none else some (Claim.texts resourceIds)).or
      (info.get "aud")).mapM Claim.asSet).map (·.getD [])) = .ok set ∧
        SameSet set (resourceIds.map .text)) ↔ KeepsResourceIds info resourceIds := by
  unfold KeepsResourceIds
  by_cases hempty : resourceIds = []
  · rw [if_pos hempty, Option.none_or, forall_prop_of_true hempty, hempty]
    cases info.get "aud" with
    | none => exact iff_of_true ⟨[], rfl, fun x => Iff.rfl⟩ nofun
    | some claim =>
      constructor
      · rintro ⟨set, hset, hsame⟩ claim' hclaim
        rw [← Option.some.inj hclaim]
        cases claim with
        | collection found =>
          rw [← Except.ok.inj hset] at hsame
          have hfound : SameSet found [] := sameSet_dedup.mp hsame
          rw [List.eq_nil_iff_forall_not_mem.mpr fun x hx => List.not_mem_nil ((hfound x).mp hx)]
        | null | text | number | object => cases hset
      · intro hentry
        rw [hentry claim rfl]
        exact ⟨[], rfl, fun x => Iff.rfl⟩
  · rw [if_neg hempty, Option.some_or]
    exact iff_of_true ⟨_, rfl, sameSet_dedup.mpr fun x => Iff.rfl⟩ fun h => absurd h hempty

variable (info) in
theorem grantType_iff (converter : DefaultAccessTokenConverter) (grantType : Option String) :
    (∃ found, (if converter.includeGrantType then
      ((info.get "grant_type").or (if converter.includeGrantType then grantType.map .text
        else none)).elim (.ok none) Claim.asText else .ok none) = .ok found) ↔
        KeepsGrantType converter info := by
  unfold KeepsGrantType
  cases converter.includeGrantType with
  | false => exact iff_of_true ⟨none, rfl⟩ nofun
  | true =>
    rw [forall_prop_of_true rfl, if_pos rfl, if_pos rfl]
    cases info.get "grant_type" with
    | none =>
      refine iff_of_true ?_ nofun
      cases grantType with
      | none => exact ⟨none, rfl⟩
      | some text => exact ⟨some text, rfl⟩
    | some claim =>
      rw [Option.some_or]
      constructor
      · rintro hfound claim' hclaim
        rw [← Option.some.inj hclaim]
        exact hfound
      · exact fun hentry => hentry claim rfl

/-! ### The owner -/

open DefaultUserAuthenticationConverter

variable {userConverter : DefaultUserAuthenticationConverter} {claims : Claims}

/-- The claim for authorities that a converter writes. -/
def authoritiesClaim (authorities : List String) : Option Claim :=
  if authorities = [] then none else some (.texts authorities)

theorem readAuthorities_texts {parts : List String} : readAuthorities (.texts names) = .ok parts ↔
    (∀ part ∈ parts, JavaText.hasText part) ∧ names.flatMap tokenizeToStringArray = parts := by
  have hprinted : (names.map Element.text).map Element.valueOf = names := by
    rw [List.map_map]
    exact List.map_id names
  show commaSeparatedStringToAuthorityList
    (String.intercalate "," ((names.map Element.text).map Element.valueOf)) = .ok parts ↔ _
  unfold commaSeparatedStringToAuthorityList
  rw [hprinted, tokenize_intercalate, createAuthorityList_eq_ok,
    (List.map_injective_iff.mpr (Option.some_injective String)).eq_iff]

/-- Authorities survive as parts of a list exactly if each is one part. -/
theorem oneAuthority_iff (names : List String) :
    ((∀ part ∈ names.flatMap tokenizeToStringArray, JavaText.hasText part) ∧
      SameSet (names.flatMap tokenizeToStringArray) names) ↔ ∀ name ∈ names, OneAuthority name := by
  constructor
  · rintro ⟨htext, hsame⟩ name hname
    have hpart := (hsame name).mpr hname
    obtain ⟨whole, -, hmem⟩ := List.mem_flatMap.mp hpart
    exact ⟨tokenize_of_mem hmem, htext name hpart⟩
  · intro hone
    have hflat : names.flatMap tokenizeToStringArray = names := by
      rw [List.flatMap_congr fun name hname => (hone name hname).token, List.flatMap_singleton']
    rw [hflat]
    exact ⟨fun name hname => (hone name hname).text, fun x => Iff.rfl⟩

/-- What is read goes back to an entry of the additional information, to the authorities that were
written, or to the default ones. -/
theorem exists_authorities_iff (P : List String → Prop)
    (hclaim : claims.get "authorities" =
      (info.get "authorities").or (authoritiesClaim authorities)) :
    (∃ parts, userConverter.getAuthorities claims = .ok parts ∧ P parts) ↔
      (∀ claim ∈ info.get "authorities", ∃ parts, readAuthorities claim = .ok parts ∧ P parts) ∧
      (info.get "authorities" = none →
        if authorities = [] then P (userConverter.defaultAuthorities.getD [])
        else (∀ part ∈ authorities.flatMap tokenizeToStringArray, JavaText.hasText part) ∧
          P (authorities.flatMap tokenizeToStringArray)) := by
  unfold getAuthorities
  rw [hclaim]
  cases info.get "authorities" with
  | some claim => simp
  | none =>
    rw [Option.none_or]
    unfold authoritiesClaim
    split_ifs with hempty
    · simp
    · simp [readAuthorities_texts, and_assoc]

theorem keepsAuthorities_iff
    (hclaim : claims.get "authorities" =
      (info.get "authorities").or (authoritiesClaim authorities)) :
    (∃ parts, userConverter.getAuthorities claims = .ok parts ∧ SameSet parts authorities) ↔
      KeepsAuthorities userConverter info authorities := by
  rw [exists_authorities_iff (fun parts => SameSet parts authorities) hclaim]
  constructor
  · intro ⟨hentry, hnone⟩
    refine ⟨?_, ?_, hentry⟩
    · intro hinfo
      have hread := hnone hinfo
      split_ifs at hread with hempty
      · rw [hempty]
        exact fun _ => nofun
      · exact (oneAuthority_iff authorities).mp hread
    · intro hinfo hempty
      have hread := hnone hinfo
      rw [if_pos hempty, hempty] at hread
      exact List.eq_nil_iff_forall_not_mem.mpr fun x hx => List.not_mem_nil ((hread x).mp hx)
  · intro hkeeps
    refine ⟨hkeeps.entry, ?_⟩
    intro hinfo
    split_ifs with hempty
    · rw [hkeeps.byDefault hinfo hempty, hempty]
      exact fun _ => Iff.rfl
    · exact (oneAuthority_iff authorities).mpr (hkeeps.written hinfo)

theorem readsAuthorities_iff
    (hclaim : claims.get "authorities" =
      (info.get "authorities").or (authoritiesClaim authorities)) :
    (∃ parts, userConverter.getAuthorities claims = .ok parts) ↔
      ReadsAuthorities info authorities := by
  have hiff : (∃ parts, userConverter.getAuthorities claims = .ok parts ∧ True) ↔ _ :=
    exists_authorities_iff (fun _ => True) hclaim
  simp only [and_true] at hiff
  rw [hiff]
  constructor
  · intro ⟨hentry, hnone⟩
    refine ⟨?_, hentry⟩
    intro hinfo authority hauthority part hpart
    have hread := hnone hinfo
    rw [if_neg (List.ne_nil_of_mem hauthority)] at hread
    exact hread part (List.mem_flatMap.mpr ⟨authority, hauthority, hpart⟩)
  · intro hreads
    refine ⟨hreads.entry, ?_⟩
    intro hinfo
    split_ifs
    intro part hpart
    obtain ⟨authority, hauthority, hmem⟩ := List.mem_flatMap.mp hpart
    exact hreads.written hinfo authority hauthority part hmem

/-- The roles of a collection are its texts, of which none is blank. -/
theorem roles_eq_ok {elements : List Element} {roles : List String} :
    (toStringArray elements >>= createAuthorityList) = .ok roles ↔
      elements = roles.map .text ∧ ∀ role ∈ roles, JavaText.hasText (some role) := by
  rw [except_bind_eq_ok]
  simp only [createAuthorityList_eq_ok]
  constructor
  · rintro ⟨texts, harray, htext, rfl⟩
    exact ⟨eq_texts_of_toStringArray harray, htext⟩
  · rintro ⟨rfl, htext⟩
    exact ⟨_, toStringArray_texts roles, htext, rfl⟩

theorem clientAuthorities_iff
    (hclaim : claims.get "authorities" =
      (info.get "authorities").or (authoritiesClaim authorities)) :
    (∃ roles, extractAuthorities claims = .ok roles ∧ SameSet roles authorities) ↔
      (∀ authority ∈ authorities, JavaText.hasText (some authority)) ∧
        ∀ claim ∈ info.get "authorities", ∃ names, claim = .texts names ∧
          SameSet names authorities := by
  unfold extractAuthorities
  rw [hclaim]
  cases info.get "authorities" with
  | some claim =>
    rw [Option.some_or]
    constructor
    · rintro ⟨roles, hroles, hsame⟩
      cases claim with
      | collection elements =>
        obtain ⟨helements, htext⟩ := roles_eq_ok.mp hroles
        refine ⟨fun authority h => htext authority ((hsame authority).mpr h), ?_⟩
        intro claim' hentry
        rw [← Option.some.inj hentry, helements]
        exact ⟨roles, rfl, hsame⟩
      | null | text | number | object => cases hroles
    · rintro ⟨htext, hentry⟩
      obtain ⟨names, rfl, hsame⟩ := hentry claim rfl
      have hnames : ∀ name ∈ names, JavaText.hasText (some name) :=
        fun name h => htext name ((hsame name).mp h)
      exact ⟨names, roles_eq_ok.mpr ⟨rfl, hnames⟩, hsame⟩
  | none =>
    rw [Option.none_or]
    unfold authoritiesClaim
    by_cases hempty : authorities = []
    · rw [if_pos hempty, hempty]
      exact iff_of_true ⟨[], rfl, fun x => Iff.rfl⟩ ⟨nofun, nofun⟩
    · rw [if_neg hempty]
      constructor
      · rintro ⟨roles, hroles, -⟩
        obtain ⟨hmap, htext⟩ := roles_eq_ok.mp hroles
        rw [List.map_injective_iff.mpr text_injective hmap]
        exact ⟨htext, nofun⟩
      · rintro ⟨htext, -⟩
        exact ⟨authorities, roles_eq_ok.mpr ⟨rfl, htext⟩, fun x => Iff.rfl⟩

theorem extractUser_eq_none :
    userConverter.extractAuthentication claims = .ok none ↔ claims.get "user_name" = none := by
  unfold DefaultUserAuthenticationConverter.extractAuthentication
  cases claims.get "user_name" with
  | none => exact iff_of_true rfl rfl
  | some principal =>
    refine iff_of_false ?_ nofun
    intro hnone
    obtain ⟨parts, -, huser⟩ := except_bind_eq_ok.mp hnone
    cases hservice : userConverter.userDetailsService with
    | none =>
      rw [hservice] at huser
      cases Except.ok.inj huser
    | some loadUserByUsername =>
      rw [hservice] at huser
      obtain ⟨username, -, huser⟩ := except_bind_eq_ok.mp huser
      obtain ⟨details, -, hreturn⟩ := except_bind_eq_ok.mp huser
      cases Except.ok.inj hreturn

/-- A client comes back as a client with its authorities. -/
theorem client_iff (hname : claims.get "user_name" = info.get "user_name")
    (hclaim : claims.get "authorities" =
      (info.get "authorities").or (authoritiesClaim authorities)) :
    (∃ user roles, userConverter.extractAuthentication claims = .ok user ∧
      (if user = none then extractAuthorities claims else .ok []) = .ok roles ∧
        user.map ExtractedUser.name = none ∧
          SameSet (user.elim roles ExtractedUser.authorities) authorities) ↔
      KeepsClient info authorities := by
  constructor
  · rintro ⟨user, roles, huser, hroles, hnone, hsame⟩
    rw [Option.map_eq_none_iff.mp hnone] at huser hroles hsame
    rw [if_pos rfl] at hroles
    obtain ⟨htext, hentry⟩ := (clientAuthorities_iff hclaim).mp ⟨roles, hroles, hsame⟩
    rw [extractUser_eq_none, hname] at huser
    exact ⟨huser, htext, hentry⟩
  · intro hkeeps
    have huser : userConverter.extractAuthentication claims = .ok none := by
      rw [extractUser_eq_none, hname, hkeeps.nameless]
    obtain ⟨roles, hroles, hsame⟩ := (clientAuthorities_iff hclaim).mpr ⟨hkeeps.text, hkeeps.entry⟩
    exact ⟨none, roles, huser, hroles, rfl, hsame⟩

/-- What a user comes back as. -/
theorem extractUser_eq_some {principal : Claim} {found : ExtractedUser}
    (hprincipal : claims.get "user_name" = some principal) :
    userConverter.extractAuthentication claims = .ok (some found) ↔
      ∃ parts, userConverter.getAuthorities claims = .ok parts ∧
        match userConverter.userDetailsService with
        | none => found = { name := principal.getName, authorities := parts }
        | some loadUserByUsername => ∃ username details, principal.asText = .ok username ∧
            loadUserByUsername username = .ok details ∧
              found = { name := details.username, authorities := details.authorities } := by
  unfold DefaultUserAuthenticationConverter.extractAuthentication
  simp only [hprincipal, except_bind_eq_ok]
  refine exists_congr fun parts => and_congr_right fun _ => ?_
  cases userConverter.userDetailsService with
  | none =>
    constructor
    · intro hreturn
      exact (Option.some.inj (Except.ok.inj hreturn)).symm
    · rintro rfl
      rfl
  | some loadUserByUsername =>
    simp only [except_bind_eq_ok]
    constructor
    · rintro ⟨username, hname, details, hload, hreturn⟩
      exact ⟨username, details, hname, hload, (Option.some.inj (Except.ok.inj hreturn)).symm⟩
    · rintro ⟨username, details, hname, hload, rfl⟩
      exact ⟨username, hname, details, hload, rfl⟩

theorem user_iff {user : UserAuthentication}
    (hname : claims.get "user_name" = (info.get "user_name").or (some (.text user.getName)))
    (hclaim : claims.get "authorities" =
      (info.get "authorities").or (authoritiesClaim (user.getAuthorities.getD []))) :
    (∃ found roles, userConverter.extractAuthentication claims = .ok found ∧
      (if found = none then extractAuthorities claims else .ok []) = .ok roles ∧
        found.map ExtractedUser.name = some user.getName ∧
          SameSet (found.elim roles ExtractedUser.authorities) (user.getAuthorities.getD [])) ↔
      KeepsUser userConverter info user := by
  have hprincipal : claims.get "user_name" =
      some ((info.get "user_name").getD (.text user.getName)) := by
    rw [hname]
    cases info.get "user_name" <;> rfl
  have hfound : (∃ found roles, userConverter.extractAuthentication claims = .ok found ∧
      (if found = none then extractAuthorities claims else .ok []) = .ok roles ∧
        found.map ExtractedUser.name = some user.getName ∧
          SameSet (found.elim roles ExtractedUser.authorities) (user.getAuthorities.getD [])) ↔
      ∃ found, userConverter.extractAuthentication claims = .ok (some found) ∧
        found.name = user.getName ∧ SameSet found.authorities (user.getAuthorities.getD []) := by
    constructor
    · rintro ⟨found, roles, hfound, -, hsome, hsame⟩
      obtain ⟨found, rfl, hname⟩ := Option.map_eq_some_iff.mp hsome
      exact ⟨found, hfound, hname, hsame⟩
    · rintro ⟨found, hfound, hname, hsame⟩
      exact ⟨some found, [], hfound, rfl, congrArg some hname, hsame⟩
  rw [hfound]
  simp only [extractUser_eq_some hprincipal]
  unfold KeepsUser
  cases userConverter.userDetailsService with
  | none =>
    simp only []
    rw [← keepsAuthorities_iff hclaim]
    constructor
    · rintro ⟨found, ⟨parts, hparts, rfl⟩, hname, hsame⟩
      exact ⟨hname, parts, hparts, hsame⟩
    · rintro ⟨hname, parts, hparts, hsame⟩
      exact ⟨_, ⟨parts, hparts, rfl⟩, hname, hsame⟩
  | some loadUserByUsername =>
    simp only []
    rw [← readsAuthorities_iff hclaim]
    constructor
    · rintro ⟨found, ⟨parts, hparts, username, details, hcast, hload, rfl⟩, hname, hsame⟩
      exact ⟨⟨parts, hparts⟩, username, details, hcast, hload, hname, hsame⟩
    · rintro ⟨⟨parts, hparts⟩, username, details, hcast, hload, hname, hsame⟩
      exact ⟨_, ⟨parts, hparts, username, details, hcast, hload, rfl⟩, hname, hsame⟩

end Components

section RoundTrip

variable (converter : DefaultAccessTokenConverter) (token : DefaultOAuth2AccessToken Claim)
  (authentication : OAuth2Authentication)

/-! ### The claims of a token -/

theorem get_convertOwner (name : String) (huser : name ≠ "user_name")
    (hauthorities : name ≠ "authorities") : (convertOwner authentication).get name = none := by
  unfold convertOwner
  split
  · rw [DefaultUserAuthenticationConverter.convertUserAuthentication,
      Claims.get_putSome_of_ne _ hauthorities]
    exact Claims.get_put_of_ne huser
  · rw [Claims.get_putSome_of_ne _ hauthorities]
    rfl

theorem get_authorities : (convertOwner authentication).get "authorities" =
    authoritiesClaim authentication.getAuthorities := by
  unfold convertOwner OAuth2Authentication.getAuthorities
  cases authentication.userAuthentication with
  | none => exact (Claims.get_putSome_self _).trans Option.or_none
  | some user => exact (Claims.get_putSome_self _).trans Option.or_none

theorem get_userName : (convertOwner authentication).get "user_name" =
    authentication.userAuthentication.map fun user => .text user.getName := by
  unfold convertOwner
  cases authentication.userAuthentication with
  | none => exact Claims.get_putSome_of_ne _ (by decide)
  | some user => exact (Claims.get_putSome_of_ne _ (by decide)).trans Claims.get_put_self

/-- The claims in a converted map: an entry of the additional information comes before what was put
earlier, but behind the client and its resources. -/
theorem get_convertAccessToken :
    let claims := converter.convertAccessToken token authentication
    let info : Claims := token.additionalInformation
    let request := authentication.oAuth2Request
    claims.get "client_id" = some (request.clientId.elim .null .text) ∧
      claims.get "aud" = (authoritiesClaim request.resourceIds).or (info.get "aud") ∧
      claims.get "scope" = (info.get "scope").or (token.scope.map .texts) ∧
      claims.get "exp" =
        (info.get "exp").or (token.expiration.map fun e => .number (e.tdiv 1000)) ∧
      claims.get "grant_type" = (info.get "grant_type").or
        (if converter.includeGrantType then (getGrantType request).map .text else none) ∧
      claims.get "user_name" = (info.get "user_name").or
        (authentication.userAuthentication.map fun user => .text user.getName) ∧
      claims.get "authorities" =
        (info.get "authorities").or (authoritiesClaim authentication.getAuthorities) := by
  have hscope := get_convertOwner authentication "scope" (by decide) (by decide)
  have hexp := get_convertOwner authentication "exp" (by decide) (by decide)
  have hgrant := get_convertOwner authentication "grant_type" (by decide) (by decide)
  have haud := get_convertOwner authentication "aud" (by decide) (by decide)
  have hname := get_userName authentication
  have hauthorities := get_authorities authentication
  unfold convertAccessToken
  simp [hscope, hexp, hgrant, haud, hname, hauthorities, authoritiesClaim]

/-- What is extracted is the client, the user and the access of the token. -/
structure GivenBack (read : ExtractedAccessToken) (found : ExtractedAuthentication) : Prop where
  clientId : found.clientId = authentication.oAuth2Request.clientId
  tokenScope : SameSet (read.scope.getD []) ((token.scope.getD []).map .text)
  scope : SameSet found.scope ((token.scope.getD []).map .text)
  resourceIds : SameSet found.resourceIds (authentication.oAuth2Request.resourceIds.map .text)
  userName : found.userAuthentication.map ExtractedUser.name =
    authentication.userAuthentication.map UserAuthentication.getName
  authorities : SameSet found.getAuthorities authentication.getAuthorities
  expiration : read.expiration.map seconds = token.expiration.map seconds

/-- The owner comes back, be it a client or a user. -/
theorem owner_iff {claims : Claims} {info : Claims}
    (hname : claims.get "user_name" = (info.get "user_name").or
      (authentication.userAuthentication.map fun user => .text user.getName))
    (hclaim : claims.get "authorities" =
      (info.get "authorities").or (authoritiesClaim authentication.getAuthorities)) :
    (∃ user roles, converter.userTokenConverter.extractAuthentication claims = .ok user ∧
      (if user = none then extractAuthorities claims else .ok []) = .ok roles ∧
        user.map ExtractedUser.name =
          authentication.userAuthentication.map UserAuthentication.getName ∧
        SameSet (user.elim roles ExtractedUser.authorities) authentication.getAuthorities) ↔
      match authentication.userAuthentication with
      | none => KeepsClient info authentication.oAuth2Request.authorities
      | some user => KeepsUser converter.userTokenConverter info user := by
  unfold OAuth2Authentication.getAuthorities at hclaim ⊢
  cases huser : authentication.userAuthentication with
  | none =>
    rw [huser] at hname hclaim
    exact client_iff (hname.trans Option.or_none) hclaim
  | some user =>
    rw [huser] at hname hclaim
    exact user_iff hname hclaim

theorem extractAccessToken_eq_ok {claims : Claims} {value : String} {read : ExtractedAccessToken} :
    extractAccessToken value claims = .ok read ↔
      ∃ date scope, (claims.get "exp").mapM extractExpiration = .ok date ∧
        extractScope (claims.get "scope") = .ok scope ∧ read = {
          value := value, expiration := date, scope := scope
          additionalInformation :=
            Claims.putSome
              ((((claims.remove "exp").remove "aud").remove "client_id").remove "scope")
              "jti" (claims.get "jti") } := by
  unfold extractAccessToken
  simp only [except_bind_eq_ok]
  constructor
  · rintro ⟨date, hdate, scope, hscope, hreturn⟩
    exact ⟨date, scope, hdate, hscope, (Except.ok.inj hreturn).symm⟩
  · rintro ⟨date, scope, hdate, hscope, rfl⟩
    exact ⟨date, hdate, scope, hscope, rfl⟩

theorem extractAuthentication_eq_ok {claims : Claims} {found : ExtractedAuthentication} :
    converter.extractAuthentication claims = .ok found ↔
      ∃ elements user clientId grantType resourceIds roles set,
        ((claims.get "scope").mapM Claim.asSet).map (·.getD []) = .ok elements ∧
        converter.userTokenConverter.extractAuthentication claims = .ok user ∧
        (claims.get "client_id").elim (.ok none) Claim.asText = .ok clientId ∧
        (if converter.includeGrantType then
          (claims.get "grant_type").elim (.ok none) Claim.asText else .ok none) = .ok grantType ∧
        ((claims.get "aud").mapM Claim.asSet).map (·.getD []) = .ok resourceIds ∧
        (if user = none then extractAuthorities claims else .ok []) = .ok roles ∧
        setScope elements = .ok set ∧ found = {
          grantType := grantType, clientId := clientId, authorities := roles, scope := set
          resourceIds := resourceIds, userAuthentication := user } := by
  unfold extractAuthentication
  simp only [except_bind_eq_ok]
  constructor
  · rintro ⟨elements, helements, user, huser, clientId, hclient, grantType, hgrant, ids, hids,
      roles, hroles, set, hset, hreturn⟩
    exact ⟨elements, user, clientId, grantType, ids, roles, set, helements, huser, hclient, hgrant,
      hids, hroles, hset, (Except.ok.inj hreturn).symm⟩
  · rintro ⟨elements, user, clientId, grantType, ids, roles, set, helements, huser, hclient, hgrant,
      hids, hroles, hset, rfl⟩
    exact ⟨elements, helements, user, huser, clientId, hclient, grantType, hgrant, ids, hids,
      roles, hroles, set, hset, rfl⟩

/-- The token and its authentication come back from the claims exactly if the additional
information leaves the claims as they are, texts that are alone are no lists, and the authorities
are single parts of a list. -/
theorem convert_extract_iff (value : String) (hdate : ∀ e ∈ token.expiration, IsLong e) :
    (∃ read found,
      extractAccessToken value (converter.convertAccessToken token authentication) = .ok read ∧
      converter.extractAuthentication (converter.convertAccessToken token authentication) =
        .ok found ∧ GivenBack token authentication read found) ↔
      Undisturbed converter token authentication := by
  obtain ⟨hclient, haud, hscope, hexp, hgrant, hname, hauthorities⟩ :=
    get_convertAccessToken converter token authentication
  generalize converter.convertAccessToken token authentication = claims at *
  have howner := owner_iff converter authentication hname hauthorities
  have hexpiration := expiration_iff token.additionalInformation hdate
  rw [← hexp] at hexpiration
  have hscopes := scope_iff token.additionalInformation token.scope
  rw [← hscope] at hscopes
  have hresources := resourceIds_iff token.additionalInformation
    authentication.oAuth2Request.resourceIds
  unfold authoritiesClaim at haud
  rw [← haud] at hresources
  have hgrants := grantType_iff token.additionalInformation converter
    (getGrantType authentication.oAuth2Request)
  rw [← hgrant] at hgrants
  have hid : (claims.get "client_id").elim (.ok none) Claim.asText =
      .ok authentication.oAuth2Request.clientId := by
    rw [hclient]
    cases authentication.oAuth2Request.clientId <;> rfl
  simp only [extractAccessToken_eq_ok, extractAuthentication_eq_ok]
  constructor
  · rintro ⟨read, found, ⟨date, scope, hdate', hread, rfl⟩, ⟨elements, user, clientId, grantType,
      ids, roles, set, helements, huser, hclientId, hgrantType, hids, hroles, hset, rfl⟩, hgiven⟩
    have hkept := hscopes.mp
      ⟨scope, elements, set, hread, helements, hset, hgiven.tokenScope, hgiven.scope⟩
    exact {
      expiration := hexpiration.mp ⟨date, hdate', hgiven.expiration⟩
      scope := hkept
      resourceIds := hresources.mp ⟨ids, hids, hgiven.resourceIds⟩
      grantType := hgrants.mp ⟨grantType, hgrantType⟩
      owner := howner.mp ⟨user, roles, huser, hroles, hgiven.userName, hgiven.authorities⟩ }
  · intro hkept
    obtain ⟨date, hdate', hexpiration⟩ := hexpiration.mpr hkept.expiration
    obtain ⟨scope, elements, set, hread, helements, hset, htoken, hsame⟩ := hscopes.mpr hkept.scope
    obtain ⟨ids, hids, hresources⟩ := hresources.mpr hkept.resourceIds
    obtain ⟨grantType, hgrantType⟩ := hgrants.mpr hkept.grantType
    obtain ⟨user, roles, huser, hroles, hname, hauthorities⟩ := howner.mpr hkept.owner
    exact ⟨_, _, ⟨date, scope, hdate', hread, rfl⟩, ⟨elements, user, _, grantType, ids, roles, set,
      helements, huser, hid, hgrantType, hids, hroles, hset, rfl⟩, {
        clientId := rfl, tokenScope := htoken, scope := hsame, resourceIds := hresources
        userName := hname, authorities := hauthorities, expiration := hexpiration }⟩


end RoundTrip

/-- A token of a client for itself, with an entry of an enhancer. -/
def stockToken (entry : String × Claim) : DefaultOAuth2AccessToken Claim where
  value := some "6hmuMPqQc9oEL7wJlXEqlA"
  expiration := some 1700003600500
  scope := some ["read", "write"]
  additionalInformation := [entry]

def stockClient : OAuth2Authentication where
  oAuth2Request := {
    clientId := some "stock", authorities := ["ROLE_CLIENT"], approved := true
    scope := ["read", "write"], resourceIds := ["items"] }
  userAuthentication := none

theorem convert_extract_stock :
    (∃ read found, extractAccessToken "6hmuMPqQc9oEL7wJlXEqlA"
        (convertAccessToken {} (stockToken ("tenant", .text "south")) stockClient) = .ok read ∧
      extractAuthentication {}
        (convertAccessToken {} (stockToken ("tenant", .text "south")) stockClient) = .ok found ∧
      GivenBack (stockToken ("tenant", .text "south")) stockClient read found) ↔
      Undisturbed {} (stockToken ("tenant", .text "south")) stockClient :=
  convert_extract_iff {} (stockToken ("tenant", .text "south")) stockClient
    "6hmuMPqQc9oEL7wJlXEqlA" (by decide)

/-- An entry with the name of the claim for the user makes a client's token that of a user. -/
theorem convert_extract_admin :
    ¬ ∀ (token : DefaultOAuth2AccessToken Claim) (authentication : OAuth2Authentication),
      (∀ e ∈ token.expiration, IsLong e) →
        ∃ read found,
          extractAccessToken "6hmuMPqQc9oEL7wJlXEqlA"
            (convertAccessToken {} token authentication) = .ok read ∧
          extractAuthentication {} (convertAccessToken {} token authentication) = .ok found ∧
          GivenBack token authentication read found := by
  intro hall
  obtain ⟨read, found, -, hfound, hgiven⟩ :=
    hall (stockToken ("user_name", .text "admin")) stockClient (by decide)
  have hadmin : extractAuthentication {}
      (convertAccessToken {} (stockToken ("user_name", .text "admin")) stockClient) = .ok {
        grantType := none, clientId := some "stock", authorities := []
        scope := [.text "read", .text "write"], resourceIds := [.text "items"]
        userAuthentication := some { name := "admin", authorities := ["ROLE_CLIENT"] } } := by
    decide +kernel
  have hname := hgiven.userName
  rw [← Except.ok.inj (hadmin.symm.trans hfound)] at hname
  cases hname

end DefaultAccessTokenConverter

end MaxKey.OAuth2
