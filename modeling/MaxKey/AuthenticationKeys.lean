import MaxKey.Delimited
import MaxKey.ScopedTokens
import Mathlib.Data.String.Basic

namespace MaxKey.OAuth2.AuthenticationKeys
open JavaException Effects InMemoryTokenStore TokenRegistry DefaultTokenServices Delimited

/-- The principal's name, if the authentication is not that of a client alone. -/
def userName (a : OAuth2Authentication) : Option String :=
  if a.isClientOnly then none else some a.getName

/-- Both are of the same client and user, and for the same scopes. -/
structure SameHolder (a b : OAuth2Authentication) : Prop where
  clientId : a.oAuth2Request.clientId = b.oAuth2Request.clientId
  scope : ∀ x, x ∈ a.oAuth2Request.scope ↔ x ∈ b.oAuth2Request.scope
  userName : userName a = userName b

/-- A missing client id is written as the word null. -/
def client (a : OAuth2Authentication) : List Char := (a.oAuth2Request.clientId.getD "null").toList

def scopes (a : OAuth2Authentication) : List Char :=
  (String.intercalate " " a.oAuth2Request.scope).toList

/-- What follows the user name. -/
def clientAndScopes (a : OAuth2Authentication) : List Char :=
  client a ++ (", scope=".toList ++ scopes a)

/-- The scopes in the order of their iteration, taken apart at the blanks. No scope is written as an
empty one. -/
def words (scope : List String) : List (List Char) :=
  (if scope = [] then [[]] else scope.map String.toList).flatMap (List.splitOn ' ')

/-- Nothing lets the keys of the two be confused, and nothing keeps those of the same holder apart. -/
structure ToldApart (a b : OAuth2Authentication) : Prop where
  userName : ∀ u ∈ userName a, ∀ v ∈ userName b,
    ¬ Shifted ", client_id=".toList (u.toList, clientAndScopes a) (v.toList, clientAndScopes b)
  clientId : AuthenticationKeys.userName a = AuthenticationKeys.userName b →
    ¬ Shifted ", scope=".toList (client a, scopes a) (client b, scopes b)
  noClient : AuthenticationKeys.userName a = AuthenticationKeys.userName b →
    words a.oAuth2Request.scope = words b.oAuth2Request.scope → client a = client b →
      a.oAuth2Request.clientId = b.oAuth2Request.clientId
  scope : AuthenticationKeys.userName a = AuthenticationKeys.userName b →
    a.oAuth2Request.clientId = b.oAuth2Request.clientId →
      (words a.oAuth2Request.scope = words b.oAuth2Request.scope ↔
        ∀ x, x ∈ a.oAuth2Request.scope ↔ x ∈ b.oAuth2Request.scope)

section Keys

variable {a b : OAuth2Authentication}

theorem toList_scopes (scope : List String) : (String.intercalate " " scope).toList =
    [' '].intercalate (if scope = [] then [[]] else scope.map String.toList) := by
  rw [String.toList_intercalate]
  by_cases hscope : scope = []
  · rw [hscope]
    rfl
  · rw [if_neg hscope]
    rfl

theorem scopes_eq_iff : scopes a = scopes b ↔
    words a.oAuth2Request.scope = words b.oAuth2Request.scope := by
  have hparts : ∀ scope : List String,
      (if scope = [] then [[]] else scope.map String.toList) ≠ [] := by
    intro scope
    by_cases hscope : scope = []
    · rw [if_pos hscope]
      exact List.cons_ne_nil _ _
    · rw [if_neg hscope]
      exact fun h => hscope (List.map_eq_nil_iff.mp h)
  unfold scopes
  rw [toList_scopes, toList_scopes]
  exact intercalate_eq_iff (hparts _) (hparts _)

theorem toList_keyText (a : OAuth2Authentication) : (keyText a).toList = ['\x7b'] ++
    ((userName a).elim [] (fun u => "username=".toList ++ (u.toList ++ ", ".toList)) ++
      ("client_id=".toList ++ (clientAndScopes a ++ ['\x7d']))) := by
  unfold keyText userName clientAndScopes client scopes
  by_cases hclient : a.isClientOnly
  · simp only [hclient, if_true, String.toList_append, List.append_assoc, Option.elim_none]
    rfl
  · simp only [hclient, if_false, String.toList_append, List.append_assoc, Option.elim_some,
      Bool.false_eq_true]
    rfl

theorem cancel_around {α : Type*} (before x m m' y after x' y' : List α) :
    before ++ (x ++ m) ++ (m' ++ (y ++ after)) = before ++ (x' ++ m) ++ (m' ++ (y' ++ after)) ↔
      x ++ ((m ++ m') ++ y) = x' ++ ((m ++ m') ++ y') := by
  constructor
  · intro h
    apply (List.append_left_inj after).mp
    apply (List.append_right_inj before).mp
    simpa only [List.append_assoc] using h
  · intro h
    have hafter := congrArg (fun text => before ++ (text ++ after)) h
    simpa only [List.append_assoc] using hafter

/-- Two keys agree exactly if their fields do, or if the one text can be read as the other. -/
theorem keyText_eq_iff : keyText a = keyText b ↔
    (userName a = userName b ∧ (client a = client b ∧ scopes a = scopes b ∨
        Shifted ", scope=".toList (client a, scopes a) (client b, scopes b))) ∨
      ∃ u ∈ userName a, ∃ v ∈ userName b,
        Shifted ", client_id=".toList (u.toList, clientAndScopes a) (v.toList, clientAndScopes b) := by
  have htail : clientAndScopes a = clientAndScopes b ↔ client a = client b ∧ scopes a = scopes b ∨
      Shifted ", scope=".toList (client a, scopes a) (client b, scopes b) := by
    have happend := append_eq_iff (c := ',') (w := " scope=".toList) (p := (client a, scopes a))
      (q := (client b, scopes b)) (by decide)
    rw [Prod.mk.injEq] at happend
    exact happend
  rw [← String.toList_inj, toList_keyText, toList_keyText, List.append_cancel_left_eq]
  cases ha : userName a with
  | none =>
    cases hb : userName b with
    | none =>
      simp only [Option.elim_none, List.nil_append, List.append_cancel_left_eq,
        List.append_cancel_right_eq, htail, true_and, Option.not_mem_none, false_and, exists_false,
        or_false]
    | some v =>
      simp only [Option.elim_none, Option.elim_some, List.nil_append, reduceCtorEq, false_and,
        Option.not_mem_none, exists_false, or_false, iff_false]
      intro h
      cases (List.cons.inj h).1
  | some u =>
    cases hb : userName b with
    | none =>
      simp only [Option.elim_none, Option.elim_some, List.nil_append, reduceCtorEq, false_and,
        Option.not_mem_none, exists_false, and_false, or_false, iff_false]
      intro h
      cases (List.cons.inj h).1
    | some v =>
      have happend := append_eq_iff (c := ',') (w := " client_id=".toList)
        (p := (u.toList, clientAndScopes a)) (q := (v.toList, clientAndScopes b)) (by decide)
      rw [Prod.mk.injEq, String.toList_inj, htail] at happend
      simp only [Option.elim_some, Option.some.injEq, Option.mem_some, exists_eq_left']
      rw [cancel_around]
      exact happend

/-- The keys of two authentications tell whether they are of one holder exactly if the two are told
apart. -/
theorem keyText_iff_sameHolder : (keyText a = keyText b ↔ SameHolder a b) ↔ ToldApart a b := by
  have hholder : SameHolder a b ↔ userName a = userName b ∧
      a.oAuth2Request.clientId = b.oAuth2Request.clientId ∧
        ∀ x, x ∈ a.oAuth2Request.scope ↔ x ∈ b.oAuth2Request.scope :=
    ⟨fun h => ⟨h.userName, h.clientId, h.scope⟩, fun h => ⟨h.2.1, h.2.2, h.1⟩⟩
  have hclient : a.oAuth2Request.clientId = b.oAuth2Request.clientId → client a = client b :=
    fun h => congrArg (fun c : Option String => (c.getD "null").toList) h
  constructor
  · intro h
    rw [keyText_eq_iff, hholder, scopes_eq_iff] at h
    constructor
    · intro u hu v hv hshift
      -- where the separator is shifted the two names differ
      have hsame := (h.mp (.inr ⟨u, hu, v, hv, hshift⟩)).1
      have hne := hshift.fst_ne (by decide)
      rw [Option.mem_def.mp hu, Option.mem_def.mp hv] at hsame
      exact hne (congrArg String.toList (Option.some.inj hsame))
    · intro huser hshift
      have hsame := (h.mp (.inl ⟨huser, .inr hshift⟩)).2.1
      exact hshift.fst_ne (by decide) (hclient hsame)
    · intro huser hwords hsame
      exact (h.mp (.inl ⟨huser, .inl ⟨hsame, hwords⟩⟩)).2.1
    · intro huser hsame
      constructor
      · intro hwords
        exact (h.mp (.inl ⟨huser, .inl ⟨hclient hsame, hwords⟩⟩)).2.2
      · intro hscope
        rcases h.mpr ⟨huser, hsame, hscope⟩ with ⟨-, ⟨-, hwords⟩ | hshift⟩ | ⟨u, hu, v, hv, hshift⟩
        · exact hwords
        · exact absurd (hclient hsame) (hshift.fst_ne (by decide))
        · have hnames : u = v :=
            Option.some.inj ((Option.mem_def.mp hu).symm.trans (huser.trans (Option.mem_def.mp hv)))
          exact absurd (congrArg String.toList hnames) (hshift.fst_ne (by decide))
  · intro h
    rw [keyText_eq_iff, hholder, scopes_eq_iff]
    constructor
    · rintro (⟨huser, ⟨hsame, hwords⟩ | hshift⟩ | ⟨u, hu, v, hv, hshift⟩)
      · have hid := h.noClient huser hwords hsame
        exact ⟨huser, hid, (h.scope huser hid).mp hwords⟩
      · exact absurd hshift (h.clientId huser)
      · exact absurd hshift (h.userName u hu v hv)
    · intro ⟨huser, hid, hscope⟩
      exact .inl ⟨huser, .inl ⟨hclient hid, (h.scope huser hid).mpr hscope⟩⟩

theorem extractKey_eq_iff {digest : String → String} (hinj : Function.Injective digest) :
    extractKey digest a = extractKey digest b ↔ keyText a = keyText b := hinj.eq_iff

end Keys

/-- Names without the words of the key, and scopes without blanks in the order of a tree set. -/
structure Plain (a : OAuth2Authentication) : Prop where
  userName : ∀ u ∈ userName a, ¬ ", client_id=".toList <:+: u.toList
  clientId : ∃ c, a.oAuth2Request.clientId = some c ∧ c ≠ "null" ∧ ¬ ", scope=".toList <:+: c.toList
  scope : ∀ x ∈ a.oAuth2Request.scope, x ≠ "" ∧ ' ' ∉ x.toList
  sorted : a.oAuth2Request.scope.Pairwise (· < ·)

section Plain

variable {a b : OAuth2Authentication} {scope scope' : List String}

theorem words_of_plain (h : ∀ x ∈ scope, x ≠ "" ∧ ' ' ∉ x.toList) :
    words scope = if scope = [] then [[]] else scope.map String.toList := by
  apply flatMap_splitOn
  intro part hpart
  by_cases hscope : scope = []
  · rw [if_pos hscope, List.mem_singleton] at hpart
    rw [hpart]
    exact List.not_mem_nil
  · rw [if_neg hscope] at hpart
    obtain ⟨x, hx, rfl⟩ := List.mem_map.mp hpart
    exact (h x hx).2

theorem words_inj_of_plain (h : ∀ x ∈ scope, x ≠ "" ∧ ' ' ∉ x.toList)
    (h' : ∀ x ∈ scope', x ≠ "" ∧ ' ' ∉ x.toList) : words scope = words scope' ↔ scope = scope' := by
  have hempty : ∀ s : List String, (∀ x ∈ s, x ≠ "" ∧ ' ' ∉ x.toList) →
      [[]] ≠ s.map String.toList := by
    intro s hs hsame
    obtain ⟨x, hx, hnil⟩ := List.mem_map.mp (hsame ▸ List.mem_singleton_self ([] : List Char))
    exact (hs x hx).1 (String.toList_eq_nil_iff.mp hnil)
  rw [words_of_plain h, words_of_plain h']
  by_cases hscope : scope = []
  · by_cases hscope' : scope' = []
    · simp only [hscope, hscope']
    · rw [if_pos hscope, if_neg hscope', hscope]
      exact iff_of_false (hempty scope' h') (Ne.symm hscope')
  · by_cases hscope' : scope' = []
    · rw [if_neg hscope, if_pos hscope', hscope']
      exact iff_of_false (hempty scope h).symm hscope
    · rw [if_neg hscope, if_neg hscope', (List.map_injective_iff.mpr fun _ _ => String.toList_injective).eq_iff]

theorem eq_of_sorted_of_mem_iff (h : scope.Pairwise (· < ·)) (h' : scope'.Pairwise (· < ·)) :
    (∀ x, x ∈ scope ↔ x ∈ scope') ↔ scope = scope' := by
  constructor
  · intro hmem
    have hnodup : ∀ s : List String, s.Pairwise (· < ·) → s.Nodup :=
      fun s hs => hs.imp fun hlt => ne_of_lt hlt
    have hperm := (List.perm_ext_iff_of_nodup (hnodup _ h) (hnodup _ h')).mpr hmem
    exact hperm.eq_of_pairwise (fun x y _ _ hxy hyx => absurd hyx (lt_asymm hxy)) h h'
  · intro hsame x
    rw [hsame]

theorem toldApart_of_plain (ha : Plain a) (hb : Plain b) : ToldApart a b where
  userName u hu v hv := not_shifted_of_not_infix (ha.userName u hu) (hb.userName v hv)
  clientId _ := by
    obtain ⟨c, hc, -, hpart⟩ := ha.clientId
    obtain ⟨d, hd, -, hpart'⟩ := hb.clientId
    apply not_shifted_of_not_infix
    · unfold client
      rw [hc]
      exact hpart
    · unfold client
      rw [hd]
      exact hpart'
  noClient _ _ hclient := by
    obtain ⟨c, hc, -⟩ := ha.clientId
    obtain ⟨d, hd, -⟩ := hb.clientId
    unfold client at hclient
    rw [hc, hd] at hclient ⊢
    exact congrArg some (String.toList_inj.mp hclient)
  scope _ _ := by
    rw [words_inj_of_plain ha.scope hb.scope, eq_of_sorted_of_mem_iff ha.sorted hb.sorted]

end Plain

/-- For each value of a token, the authentication that it was first stored for. -/
abbrev Record := String → Option OAuth2Authentication

def Record.after (first : Record) (s : InMemoryTokenStore) : Record := fun v =>
  first v <|> s.authenticationStore v

variable (digest : String → String) (services : DefaultTokenServices)

/-- A run beside its record. -/
def step (r : InMemoryTokenStore × Record) (c : Call) : InMemoryTokenStore × Record :=
  (services.call digest r.1 c, r.2.after (services.call digest r.1 c))

/-- A creation returns no token that was issued before for another user, client or scope set. -/
def ReturnsOwn (r : InMemoryTokenStore × Record) : Call → Prop
  | .operation (.createAccessToken m a) => ∀ token,
      outcome (services.createAccessToken digest m a) r.1 = .ok token →
        ∀ b ∈ r.2 token.value, SameHolder a b
  | _ => True

/-- The authentication of a creation and that of the token it finds are told apart by their keys. -/
def FindsToldApart (r : InMemoryTokenStore × Record) : Call → Prop
  | .operation (.createAccessToken m a) =>
      ∀ token ∈ r.1.authenticationToAccessTokenStore (extractKey digest a),
        token.isExpired m.now = false → ∀ b ∈ r.1.authenticationStore token.value, ToldApart a b
  | _ => True

section Runs

variable {digest} {services} {used : List String} {s : InMemoryTokenStore} {first first' : Record}
  {g g' : TokenRegistry} {m : Moment} {a b : OAuth2Authentication} {token t : OAuth2AccessToken}
  {value : String} {request : TokenRequest} {o : Option OAuth2AccessToken} {calls : List Call}

theorem SameHolder.refl (a : OAuth2Authentication) : SameHolder a a := ⟨rfl, fun _ => Iff.rfl, rfl⟩

theorem SameHolder.trans {c : OAuth2Authentication} (h : SameHolder a b) (h' : SameHolder b c) :
    SameHolder a c :=
  ⟨h.clientId.trans h'.clientId, fun x => (h.scope x).trans (h'.scope x), h.userName.trans h'.userName⟩

/-- Every live token is stored for the holder that it was first stored for. -/
def Owned (first : Record) (g : TokenRegistry) : Prop :=
  ∀ v t, g.token v = some t → ∃ a b, g.authentication v = some a ∧ first v = some b ∧ SameHolder a b

theorem Owned.shrink (h : Owned first g) (hg : Shrinks g' g) : Owned first g' := by
  intro v t ht
  obtain ⟨hlive, hauth⟩ := hg.token v t ht
  rw [hauth]
  exact h v t hlive

theorem Owned.mono (h : Owned first g) (hsub : ∀ v b, first v = some b → first' v = some b) :
    Owned first' g := by
  intro v t ht
  obtain ⟨a, b, ha, hb, hholder⟩ := h v t ht
  exact ⟨a, b, ha, hsub v b hb, hholder⟩

theorem Owned.put (h : Owned first g) (hfirst : ∃ b, first t.value = some b ∧ SameHolder a b) :
    Owned first (TokenRegistry.put digest t a g) := by
  intro v x hx
  rcases token_put.mp hx with ⟨rfl, -⟩ | ⟨hne, hold⟩
  · obtain ⟨b, hb, hholder⟩ := hfirst
    exact ⟨a, b, Function.update_self _ _ _, hb, hholder⟩
  · obtain ⟨a', b, ha, hb, hholder⟩ := h v x hold
    exact ⟨a', b, (Function.update_of_ne hne _ _).trans ha, hb, hholder⟩

theorem Owned.keep {y : OAuth2RefreshToken} (h : Owned first g) :
    Owned first (TokenRegistry.keep y a g) := h

theorem Owned.issue (h : Owned first g) (hfirst : ∃ b, first t.value = some b ∧ SameHolder a b) :
    Owned first (TokenRegistry.issue digest t a g) := by
  unfold TokenRegistry.issue
  cases t.refreshToken with
  | none => exact h.put hfirst
  | some y => exact (h.put hfirst).keep

/-- A record that has grown by the tokens that are live now. -/
structure Grown (first first' : Record) (g : TokenRegistry) : Prop where
  kept : ∀ v b, first v = some b → first' v = some b
  entered : ∀ v a, first v = none → g.authentication v = some a → first' v = some a

theorem grown_after (first : Record) (s : InMemoryTokenStore) : Grown first (first.after s) s.registry where
  kept v b hb := by
    unfold Record.after
    rw [hb]
    rfl
  entered v a hnone ha := by
    unfold Record.after
    rw [hnone]
    exact ha

/-- A token under a value that was never used enters the record for its own authentication. -/
theorem first_of_new (hgrown : Grown first first' g') (hnone : first t.value = none)
    (hauth : g'.authentication t.value = some a) : ∃ b, first' t.value = some b ∧ SameHolder a b :=
  ⟨a, hgrown.entered t.value a hnone hauth, SameHolder.refl a⟩

theorem value_newAccessToken {y : Option OAuth2RefreshToken} (hkeeps : services.KeepsTokens)
    (hnew : services.newAccessToken m a y = .ok token) : token.value = m.accessTokenValue := by
  obtain ⟨validity, -, htoken⟩ := newAccessToken_eq_ok hkeeps hnew
  rw [htoken]

/-- Of the tokens that a creation may return, one that was there has the holder that it was first
issued to. -/
theorem sameHolder_of_created (hinj : Function.Injective digest) (hkeeps : services.KeepsTokens)
    (h : Sound digest used g) (howned : Owned first g) (hnone : first m.accessTokenValue = none)
    (hfound : ∀ x, g.current (extractKey digest a) = some x → x.isExpired m.now = false →
      ∀ b, g.authentication x.value = some b → ToldApart a b)
    (hc : Created digest services m a g (some token) g') (hb : first token.value = some b) :
    SameHolder a b := by
  cases hc with
  | existing _ vs hcurrent hlive =>
    obtain ⟨hstored, c, hc, hkey⟩ := h.current_stored _ token hcurrent
    obtain ⟨c', b', hc', hb', hholder⟩ := howned token.value token hstored
    have hstoredFor : c = c' := Option.some.inj (hc.symm.trans hc')
    have hfirst : b = b' := Option.some.inj (hb.symm.trans hb')
    have htold := hfound token hcurrent hlive c hc
    have hsame := keyText_iff_sameHolder.mpr htold
    have hac := hsame.mp ((extractKey_eq_iff hinj).mp hkey.symm)
    rw [hfirst]
    exact hac.trans (hstoredFor ▸ hholder)
  | issued _ vs r hdead hrenew hnew =>
    rw [value_newAccessToken hkeeps hnew, hnone] at hb
    cases hb

/-- A creation keeps the tokens with their holders, once its new token is in the record. -/
theorem owned_created (hkeeps : services.KeepsTokens) (h : Sound digest used g)
    (howned : Owned first g) (hnone : first m.accessTokenValue = none)
    (hgrown : Grown first first' g') (hc : Created digest services m a g o g')
    (hreturned : ∀ token ∈ o, ∀ b ∈ first token.value, SameHolder a b) : Owned first' g' := by
  cases hc with
  | existing token vs hcurrent hlive =>
    have hpruned : Owned first' (dropAll digest vs g) :=
      (howned.shrink (shrinks_dropAll vs)).mono hgrown.kept
    obtain ⟨-, b, -, hb, -⟩ := howned token.value token (h.current_stored _ token hcurrent).1
    exact hpruned.put ⟨b, hgrown.kept _ b hb, hreturned token rfl b hb⟩
  | issued token vs r hdead hrenew hnew =>
    have hcleared : Owned first (cleared digest m.now a g) :=
      howned.shrink (shrinks_cleared m.now a g)
    have hpruned : Owned first' (dropAll digest vs (cleared digest m.now a g)) :=
      (hcleared.shrink (shrinks_dropAll vs)).mono hgrown.kept
    apply hpruned.issue
    apply first_of_new hgrown
    · rw [value_newAccessToken hkeeps hnew]
      exact hnone
    · exact (issue_self token a (dropAll digest vs (cleared digest m.now a g))).2.1
  | failed hdead hnew => exact (howned.shrink (shrinks_cleared m.now a g)).mono hgrown.kept

theorem owned_refreshed (hkeeps : services.KeepsTokens) (howned : Owned first s.registry)
    (hnone : first m.accessTokenValue = none) (hgrown : Grown first first' g')
    (hr : Refreshed digest services m value request s o g') : Owned first' g' := by
  have hwithdrawn : ∀ r, Owned first' (withdraw digest r s.registry) :=
    fun r => (howned.mono hgrown.kept).shrink (shrinks_withdraw r s.registry)
  have hforgotten : ∀ r, Owned first' (forget r (withdraw digest r s.registry)) :=
    fun r => (hwithdrawn r).shrink (shrinks_forget r _)
  have hpruned : ∀ r vs, Owned first' (dropAll digest vs (forget r (withdraw digest r s.registry))) :=
    fun r vs => (hforgotten r).shrink (shrinks_dropAll vs)
  -- the new token is under a value that was never used
  have hfresh : ∀ (token : OAuth2AccessToken) (y : Option OAuth2RefreshToken) (a : OAuth2Authentication),
      services.newAccessToken m a y = .ok token → first token.value = none := by
    intro token y a hnew
    rw [value_newAccessToken hkeeps hnew]
    exact hnone
  cases hr with
  | refused hread => exact howned.mono hgrown.kept
  | expired found hread hexpired => exact hforgotten found.1.value
  | denied found hread hnarrow => exact hwithdrawn found.1.value
  | reissued found a hread hlive hnarrow hreissued =>
    cases hreissued with
    | failed hreuse hnew => exact hwithdrawn found.1.value
    | forgotten hrotate hnew => exact hforgotten found.1.value
    | unrotated token vs hrotate hcreate hnew =>
      apply (hpruned found.1.value vs).put
      exact first_of_new hgrown (hfresh _ _ _ hnew) (Function.update_self _ _ _)
    | reused token vs hreuse hnew =>
      have hbefore : Owned first' (dropAll digest vs (withdraw digest found.1.value s.registry)) :=
        (hwithdrawn found.1.value).shrink (shrinks_dropAll vs)
      apply hbefore.put
      exact first_of_new hgrown (hfresh _ _ _ hnew) (Function.update_self _ _ _)
    | rotated y token vs hrotate hcreate hnew =>
      apply Owned.keep
      apply (hpruned found.1.value vs).put
      exact first_of_new hgrown (hfresh _ _ _ hnew) (Function.update_self _ _ _)

/-- What holds along a run. -/
structure Held (digest : String → String) (used : List String) (r : InMemoryTokenStore × Record) :
    Prop where
  sound : Sound digest used r.1.registry
  owned : Owned r.2 r.1.registry
  used : ∀ v, r.2 v ≠ none → v ∈ used

theorem returnsOwn_of_held (hinj : Function.Injective digest) (hkeeps : services.KeepsTokens)
    {r : InMemoryTokenStore × Record} (h : Held digest used r) (c : Call) (hname : c.Named)
    (hfresh : ∀ v ∈ c.drawn, v ∉ used) (hfinds : FindsToldApart digest r c) :
    ReturnsOwn digest services r c := by
  cases c with
  | operation op =>
    cases op with
    | createAccessToken m a =>
      intro token hok b hb
      have hcreated := created services h.sound hname m
      rw [hok] at hcreated
      refine sameHolder_of_created hinj hkeeps h.sound h.owned ?_ hfinds hcreated hb
      by_contra hsome
      exact hfresh m.accessTokenValue (by simp [Call.drawn]) (h.used _ hsome)
    | refreshAccessToken m value request => trivial
    | revokeToken v => trivial
  | loadAuthentication now v => trivial

theorem held_step (hkeeps : services.KeepsTokens) {r : InMemoryTokenStore × Record}
    (h : Held digest used r) (c : Call) (hname : c.Named) (hfresh : ∀ v ∈ c.drawn, v ∉ used)
    (hreturns : ReturnsOwn digest services r c) :
    Held digest (used ++ c.drawn) (step digest services r c) := by
  have hsound := (sound_call hkeeps h.sound c hname hfresh).1
  have hgrown := grown_after r.2 (services.call digest r.1 c)
  have hnew : ∀ v ∈ c.drawn, r.2 v = none := by
    intro v hv
    by_contra hsome
    exact hfresh v hv (h.used v hsome)
  constructor
  · exact hsound
  · cases c with
    | operation op =>
      cases op with
      | createAccessToken m a =>
        have hcreated := created services h.sound hname m
        refine owned_created hkeeps h.sound h.owned (hnew _ (by simp [Call.drawn])) hgrown hcreated ?_
        intro token htoken b hb
        refine hreturns token ?_ b hb
        cases hout : outcome (services.createAccessToken digest m a) r.1 with
        | error e =>
          rw [hout] at htoken
          cases htoken
        | ok returned =>
          rw [hout] at htoken
          rw [Option.some.inj htoken]
      | refreshAccessToken m value request =>
        have hrefreshed := refreshed services h.sound m value request
        exact owned_refreshed hkeeps h.owned (hnew _ (by simp [Call.drawn])) hgrown hrefreshed
      | revokeToken v => exact (h.owned.shrink (shrinks_revokeToken h.sound v)).mono hgrown.kept
    | loadAuthentication now v =>
      exact (h.owned.shrink (shrinks_loadAuthentication services h.sound now v)).mono hgrown.kept
  · intro v hv
    cases hfirst : r.2 v with
    | some b => exact List.mem_append_left _ (h.used v (by rw [hfirst]; exact Option.some_ne_none b))
    | none =>
      have hafter : (step digest services r c).2 v =
          (services.call digest r.1 c).registry.authentication v := by
        show (r.2 v <|> (services.call digest r.1 c).authenticationStore v) = _
        rw [hfirst]
        rfl
      rw [hafter] at hv
      exact hsound.used_token v fun hnone => hv ((hsound.authenticated v).mp hnone)

/-- The induction is on the run. -/
theorem returnsOwn_run (hinj : Function.Injective digest) (hkeeps : services.KeepsTokens)
    {r : InMemoryTokenStore × Record} (hcalls : Genuine calls) (h : Held digest used r)
    (hnew : ∀ v ∈ calls.flatMap Call.drawn, v ∉ used)
    (hmeets : Runs.Meets (step digest services) (FindsToldApart digest) r calls) :
    Runs.Meets (step digest services) (ReturnsOwn digest services) r calls := by
  induction calls generalizing r used with
  | nil => trivial
  | cons c calls ih =>
    obtain ⟨⟨hname, hfresh⟩, hrest, hnew'⟩ := genuine_cons hcalls hnew
    have hreturns := returnsOwn_of_held hinj hkeeps h c hname hfresh hmeets.1
    have hstep := held_step hkeeps h c hname hfresh hreturns
    exact ⟨hreturns, ih hrest hstep hnew' hmeets.2⟩

theorem held_start (digest : String → String) (flushInterval : ℤ) :
    Held digest [] ({ flushInterval := flushInterval }, fun _ => none) where
  sound := sound_start digest flushInterval
  owned _ _ ht := by cases ht
  used _ h := absurd rfl h

end Runs

/-- Keys tell holders exactly where the two authentications are told apart, and in every run whose
creations find only tokens of such the tokens that they return were issued for the same holder. -/
theorem keys_tell_holders (hinj : Function.Injective digest) (hkeeps : services.KeepsTokens)
    (flushInterval : ℤ) (calls : List Call) (hcalls : Genuine calls)
    (hmeets : Runs.Meets (step digest services) (FindsToldApart digest)
      ({ flushInterval := flushInterval }, fun _ => none) calls) :
    (∀ a b, (extractKey digest a = extractKey digest b ↔ SameHolder a b) ↔ ToldApart a b) ∧
      Runs.Meets (step digest services) (ReturnsOwn digest services)
        ({ flushInterval := flushInterval }, fun _ => none) calls := by
  constructor
  · intro a b
    rw [extractKey_eq_iff hinj]
    exact keyText_iff_sameHolder
  · exact returnsOwn_run hinj hkeeps hcalls (held_start digest flushInterval)
      (fun v hv hmem => by cases hmem) hmeets

def alice : OAuth2Authentication := signedIn "alice" readWrite

theorem plain_alice : Plain alice where
  userName u hu := by
    rw [← Option.some.inj hu]
    decide +kernel
  clientId := ⟨"app", rfl, by decide, by decide +kernel⟩
  scope := by decide +kernel
  sorted := by decide +kernel

/-- The second creation for alice returns the token of the first. -/
def granting : List Call :=
  [.operation (.createAccessToken ⟨1000, "t1", "r1"⟩ alice),
    .operation (.createAccessToken ⟨2000, "t2", "r2"⟩ (signedIn "bob" readWrite)),
    .operation (.createAccessToken ⟨3000, "t3", "r3"⟩ alice)]

theorem keys_tell_holders_granting :
    (∀ a b, (extractKey id a = extractKey id b ↔ SameHolder a b) ↔ ToldApart a b) ∧
      Runs.Meets (step id refreshing) (ReturnsOwn id refreshing)
        ({ flushInterval := 1000 }, fun _ => none) granting := by
  apply keys_tell_holders id refreshing Function.injective_id keepsTokens_refreshing 1000 granting
    (by decide)
  refine ⟨?_, ?_, ?_, trivial⟩
  · intro token htoken
    cases htoken
  · intro token htoken
    have hnone : (Runs.exec (refreshing.call id) { flushInterval := 1000 }
        (granting.take 1)).authenticationToAccessTokenStore
          (extractKey id (signedIn "bob" readWrite)) = none := by decide +kernel
    exact absurd (htoken.symm.trans hnone) (Option.some_ne_none token)
  · intro token htoken hlive b hb
    have hfound : ((Runs.exec (refreshing.call id) { flushInterval := 1000 }
        (granting.take 2)).authenticationToAccessTokenStore (extractKey id alice)).map (·.value) =
          some "t1" := by decide +kernel
    have hvalue : token.value = "t1" := by
      have hmap := congrArg (Option.map (·.value)) (Option.mem_def.mp htoken)
      exact Option.some.inj (hmap.symm.trans hfound)
    have hstored : (Runs.exec (refreshing.call id) { flushInterval := 1000 }
        (granting.take 2)).authenticationStore "t1" = some alice := by decide +kernel
    rw [hvalue] at hb
    have halice : alice = b := Option.some.inj (hstored.symm.trans hb)
    rw [← halice]
    exact toldApart_of_plain plain_alice plain_alice

/-- The scopes of the one client, in the order of their set, continue the name of the one user to that
of the other. -/
def evil : OAuth2Authentication :=
  signedIn "x" { appRequest with clientId := some "evil", scope := ["a,", "client_id=app,", "scope=read"] }

def victim : OAuth2Authentication := signedIn "x, client_id=evil, scope=a" appRequest

/-- Scopes in another order have another key, and one user may get the token of another at another
client. -/
theorem keys_confuse_holders :
    (∃ a b, SameHolder a b ∧ extractKey id a ≠ extractKey id b) ∧
      ¬ ∀ (digest : String → String) (services : DefaultTokenServices), Function.Injective digest →
        services.KeepsTokens → ∀ (flushInterval : ℤ) (calls : List Call), Genuine calls →
          Runs.Meets (step digest services) (ReturnsOwn digest services)
            ({ flushInterval := flushInterval }, fun _ => none) calls := by
  constructor
  · refine ⟨alice, signedIn "alice" { appRequest with scope := ["write", "read"] }, ⟨rfl, ?_, rfl⟩,
      by decide +kernel⟩
    intro x
    exact ⟨fun h => (List.Perm.swap "write" "read" []).subset h,
      fun h => (List.Perm.swap "read" "write" []).subset h⟩
  · intro h
    have hrun := h id refreshing Function.injective_id keepsTokens_refreshing 1000
      [.operation (.createAccessToken ⟨1000, "t1", "r1"⟩ evil),
        .operation (.createAccessToken ⟨2000, "t2", "r2"⟩ victim)] (by decide)
    have hholder : SameHolder victim evil := by
      apply hrun.2.1 ⟨"t1", some 43201000, some ⟨"r1", some 2592001000⟩,
        ["a,", "client_id=app,", "scope=read"]⟩
      · decide +kernel
      · rfl
    exact absurd hholder.clientId (by decide)

end MaxKey.OAuth2.AuthenticationKeys
