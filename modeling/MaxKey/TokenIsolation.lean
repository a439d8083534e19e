import MaxKey.RevokedApprovals

namespace MaxKey.OAuth2.TokenIsolation
open JavaException Effects InMemoryTokenStore TokenRegistry

/-- What changes the token store: the calls of its interface, and the revocation of approvals. -/
inductive Operation
  | getAccessToken (now : ℕ) (authentication : OAuth2Authentication)
  | storeAccessToken (now : ℕ) (token : OAuth2AccessToken) (authentication : OAuth2Authentication)
  | storeRefreshToken (token : OAuth2RefreshToken) (authentication : OAuth2Authentication)
  | removeAccessToken (tokenValue : String)
  | removeRefreshToken (tokenValue : String)
  | removeAccessTokenUsingRefreshToken (refreshToken : String)
  | revokeApprovals (approvals : List Approval)

/-- An access token and the authentication that it was issued for. -/
abbrev Issue := OAuth2AccessToken × OAuth2Authentication

section

variable (digest : String → String) (order : RowOrder OAuth2AccessToken)

def step (s : InMemoryTokenStore) : Operation → InMemoryTokenStore
  | .getAccessToken now a => final (InMemoryTokenStore.getAccessToken digest now a) s
  | .storeAccessToken now token a => final (InMemoryTokenStore.storeAccessToken digest now token a) s
  | .storeRefreshToken token a => InMemoryTokenStore.storeRefreshToken token a s
  | .removeAccessToken v => final (InMemoryTokenStore.removeAccessToken digest v) s
  | .removeRefreshToken v => InMemoryTokenStore.removeRefreshToken v s
  | .removeAccessTokenUsingRefreshToken r =>
    final (InMemoryTokenStore.removeAccessTokenUsingRefreshToken digest r) s
  | .revokeApprovals approvals => final (TokenApprovalStore.revokeApprovals digest order approvals) s

/-- What an operation stores. A look-up stores what it finds under a key that is not that of
the stored authentication. -/
def issues (s : InMemoryTokenStore) : Operation → List Issue
  | .storeAccessToken _ token a => [(token, a)]
  | .getAccessToken _ a =>
    match s.authenticationToAccessTokenStore (extractKey digest a) with
    | none => []
    | some token =>
      match s.authenticationStore token.value with
      | none => []
      | some stored => if extractKey digest a = extractKey digest stored then [] else [(token, a)]
  | _ => []

/-- A run beside the record of what was issued in it. -/
def record : InMemoryTokenStore × List Issue → Operation → InMemoryTokenStore × List Issue :=
  Runs.logged (step digest order) (issues digest)

/-- The authentications that come in name their clients. -/
def Operation.Named : Operation → Prop
  | .storeAccessToken _ _ a | .getAccessToken _ a => a.oAuth2Request.clientId ≠ none
  | _ => True

/-- The client and the user that an authentication is of. -/
def owner (a : OAuth2Authentication) : Option (String × String) :=
  a.oAuth2Request.clientId.bind fun clientId =>
    a.userAuthentication.map fun user => (clientId, user.getName)

/-- The value was issued for another user or at another client. -/
def Foreign (clientId userName : String) (issued : List Issue) (v : String) : Prop :=
  ∃ x ∈ issued, x.1.value = v ∧ ∃ o ∈ owner x.2, o ≠ (clientId, userName)

/-- No search by client and user, no listing and no revocation of approvals meets a token that
was issued for another user or at another client. -/
structure Isolated (r : InMemoryTokenStore × List Issue) : Prop where
  found : ∀ c u, ∀ token ∈ r.1.findTokensByClientIdAndUserName c (some u),
    ¬Foreign c u r.2 token.value
  listed : ∀ c u, ∀ approval ∈ TokenApprovalStore.getApprovals order r.1 u c,
    ∃ token : OAuth2AccessToken, approval.scope ∈ token.scope ∧ approval.expiresAt = token.expiration ∧
      (∃ x ∈ r.2, x.1.value = token.value) ∧ ¬Foreign c u r.2 token.value
  revoked : ∀ c u (approvals : List Approval),
    (∀ approval ∈ approvals, approval.clientId = c ∧ approval.userId = u) → ∀ v,
      r.1.accessTokenStore v ≠ none →
        (step digest order r.1 (.revokeApprovals approvals)).accessTokenStore v = none →
          ¬Foreign c u r.2 v

/-- What is stored has a key in which client and user can be told apart, and its value was not
issued for another before. -/
def OwnKey (r : InMemoryTokenStore × List Issue) (op : Operation) : Prop :=
  ∀ x ∈ issues digest r.1 op, Separable x.2 ∧ ∀ o ∈ owner x.2, ¬Foreign o.1 o.2 r.2 x.1.value

instance : DecidablePred Operation.Named
  | .storeAccessToken _ _ a | .getAccessToken _ a =>
    inferInstanceAs (Decidable (a.oAuth2Request.clientId ≠ none))
  | .storeRefreshToken _ _ | .removeAccessToken _ | .removeRefreshToken _
  | .removeAccessTokenUsingRefreshToken _ | .revokeApprovals _ => isTrue trivial

instance (clientId userName : String) (issued : List Issue) (v : String) :
    Decidable (Foreign clientId userName issued v) :=
  inferInstanceAs (Decidable (∃ x ∈ issued, x.1.value = v ∧ ∃ o ∈ owner x.2, o ≠ _))

instance (r : InMemoryTokenStore × List Issue) : DecidablePred (OwnKey digest r) := fun op =>
  inferInstanceAs (Decidable (∀ x ∈ issues digest r.1 op,
    Separable x.2 ∧ ∀ o ∈ owner x.2, ¬Foreign o.1 o.2 r.2 x.1.value))

end

section

variable {digest : String → String} {order : RowOrder OAuth2AccessToken}
  {s t : InMemoryTokenStore} {v k : String} {a : OAuth2Authentication}
  {token : OAuth2AccessToken} {now : ℕ} {issued : List Issue}

/-! ### Keys -/

/-- A colon in the client or in the user lets the key be read in another way. -/
theorem exists_same_key {c u : String} (h : ':' ∈ c.toList ∨ ':' ∈ u.toList) :
    ∃ c' u', (c', u') ≠ (c, u) ∧ approvalKey c' (some u') = approvalKey c (some u) := by
  rcases h with hc | hu
  · obtain ⟨p, q, hsplit⟩ := List.append_of_mem hc
    refine ⟨String.ofList p, String.ofList (q ++ ':' :: u.toList), ?_, ?_⟩
    · intro hsame
      have hlength := congrArg (fun x => x.1.toList.length) hsame
      simp [hsplit] at hlength
    · apply String.toList_injective
      simp [approvalKey, hsplit]
  · obtain ⟨p, q, hsplit⟩ := List.append_of_mem hu
    refine ⟨String.ofList (c.toList ++ ':' :: p), String.ofList q, ?_, ?_⟩
    · intro hsame
      have hlength := congrArg (fun x => x.1.toList.length) hsame
      simp at hlength
    · apply String.toList_injective
      simp [approvalKey, hsplit]

theorem owner_eq_some {c u : String} : owner a = some (c, u) ↔
    ∃ user, a.oAuth2Request.clientId = some c ∧ a.userAuthentication = some user ∧
      user.getName = u := by
  unfold owner
  constructor
  · intro h
    obtain ⟨d, hd, h⟩ := Option.bind_eq_some_iff.mp h
    obtain ⟨user, huser, h⟩ := Option.map_eq_some_iff.mp h
    obtain ⟨rfl, rfl⟩ := Prod.mk.inj h
    exact ⟨user, hd, huser, rfl⟩
  · rintro ⟨user, hc, huser, rfl⟩
    rw [hc, huser]
    rfl

/-- The key under which the token of an owner is filed. -/
theorem getApprovalKey_of_owner {c u : String} (h : owner a = some (c, u)) :
    a.isClientOnly = false ∧ getApprovalKey a = approvalKey c (some u) := by
  obtain ⟨user, hc, huser, hname⟩ := owner_eq_some.mp h
  exact TokenApprovalStore.getApprovalKey_of_belongs ⟨hc, user, huser, hname⟩

/-- A key of the user index is that of an owner. -/
theorem owner_of_userKey (hname : a.oAuth2Request.clientId ≠ none) (hkey : userKey a = some k) :
    ∃ c u, owner a = some (c, u) ∧ approvalKey c (some u) = k := by
  obtain ⟨c, hc⟩ := Option.ne_none_iff_exists'.mp hname
  cases huser : a.userAuthentication with
  | none => simp [userKey, OAuth2Authentication.isClientOnly, huser] at hkey
  | some user =>
    have howner : owner a = some (c, user.getName) := owner_eq_some.mpr ⟨user, hc, huser, rfl⟩
    obtain ⟨honly, happroval⟩ := getApprovalKey_of_owner howner
    rw [userKey, honly, happroval] at hkey
    exact ⟨c, user.getName, howner, Option.some.inj hkey⟩

/-- In the key of an owner whose parts hold no colon the owner can be read. -/
theorem owner_eq_of_key {c u d n : String} (hsep : Separable a) (howner : owner a = some (c, u))
    (hkey : approvalKey c (some u) = approvalKey d (some n)) : (c, u) = (d, n) := by
  obtain ⟨user, hc, huser, rfl⟩ := owner_eq_some.mp howner
  obtain ⟨c', hc', hcolon, hname⟩ := hsep user huser
  have hsame : c' = c := Option.some.inj ((Option.mem_def.mp hc').symm.trans hc)
  rw [hsame] at hcolon
  obtain ⟨rfl, rfl⟩ := approvalKey_inj hcolon hname hkey
  rfl

/-! ### Buckets -/

/-- No bucket of the user index has got a token that it did not have. -/
def Shrunk (s t : InMemoryTokenStore) : Prop :=
  ∀ k, ∀ token ∈ Index.bucket t.userNameToAccessTokenStore k,
    token ∈ Index.bucket s.userNameToAccessTokenStore k

theorem shrunk_refl (s : InMemoryTokenStore) : Shrunk s s := fun _ _ h => h

theorem mem_removeFromCollection {key : String} {removed : Option OAuth2AccessToken}
    {store : String → Option (List OAuth2AccessToken)}
    (h : token ∈ Index.bucket (removeFromCollection key removed store) k) :
    token ∈ Index.bucket store k := by
  cases removed with
  | none => exact h
  | some x =>
    by_cases hk : k = key
    · rw [hk] at h ⊢
      rw [removeFromCollection, Index.bucket_remove_self] at h
      exact List.mem_of_mem_filter h
    · rw [removeFromCollection, Index.bucket_remove_of_ne hk] at h
      exact h

theorem triple_removeAccessToken_shrunk (v : String) :
    Triple (Shrunk s) (removeAccessToken digest v) (fun _ => Shrunk s) (Shrunk s) := by
  refine triple_bind (M := fun _ => Shrunk s) (triple_get fun _ h => h) fun t => ?_
  refine triple_bind (M := fun _ => Shrunk s) (triple_modify fun _ h => h) fun _ => ?_
  cases t.authenticationStore v with
  | none => exact triple_pure fun _ h => h
  | some a =>
    refine triple_bind (M := fun _ => Shrunk s) (triple_modify fun u hu => ?_) fun _ => ?_
    · intro k token htoken
      exact hu k token (mem_removeFromCollection htoken)
    · refine triple_bind (M := fun _ => Shrunk s) ?_ fun clientId => triple_modify fun _ h => h
      exact triple_orThrow (fun _ _ _ h => h) fun _ _ h => h

theorem removing_shrunk (digest : String → String) (s : InMemoryTokenStore) :
    Removing digest (Shrunk s) where
  remove := triple_removeAccessToken_shrunk
  clocks _ _ _ _ h := h
  link _ _ _ h := h

/-- A bucket may have got the token that was stored, if its key is that of the authentication. -/
def Grown (s : InMemoryTokenStore) (x : Issue) (t : InMemoryTokenStore) : Prop :=
  ∀ k, ∀ token ∈ Index.bucket t.userNameToAccessTokenStore k,
    token ∈ Index.bucket s.userNameToAccessTokenStore k ∨ token = x.1 ∧ userKey x.2 = some k

theorem grown_putToken (h : Shrunk s t) : Grown s (token, a) (putToken digest token a t) := by
  intro k x hx
  unfold putToken at hx
  cases huser : a.isClientOnly with
  | true =>
    simp only [huser, if_true] at hx
    exact .inl (h k x hx)
  | false =>
    simp only [huser, Bool.false_eq_true, if_false] at hx
    by_cases hk : k = getApprovalKey a
    · rw [hk, addToCollection, Index.bucket_add_self] at hx
      split_ifs at hx
      · rw [hk]
        exact .inl (h _ x hx)
      · rcases List.mem_append.mp hx with hold | hnew
        · rw [hk]
          exact .inl (h _ x hold)
        · right
          rw [hk]
          refine ⟨List.mem_singleton.mp hnew, ?_⟩
          simp [userKey, huser]
    · rw [addToCollection, Index.bucket_add_of_ne hk] at hx
      exact .inl (h k x hx)

/-- The user index is set before the client index, which a missing client makes fail. -/
theorem triple_storeAccessToken_grown (now : ℕ) (token : OAuth2AccessToken)
    (a : OAuth2Authentication) :
    Triple (fun t => t = s) (storeAccessToken digest now token a)
      (fun _ => Grown s (token, a)) (Grown s (token, a)) := by
  have hcount : Triple (fun t => t = s) (countInsert digest now) (fun _ => Shrunk s)
      (Grown s (token, a)) := by
    refine triple_mono (removing_shrunk digest s).countInsert (fun t ht => ?_) (fun _ _ h => h) fun t ht => ?_
    · rw [ht]
      exact shrunk_refl s
    · intro k x hx
      exact .inl (ht k x hx)
  refine triple_bind hcount fun _ => ?_
  refine triple_bind (M := fun _ => Grown s (token, a)) (triple_modify fun _ h => grown_putToken h)
    fun _ => ?_
  refine triple_bind (M := fun _ => Grown s (token, a)) (triple_orThrow (fun _ _ _ h => h)
    fun _ _ h => h) fun clientId => ?_
  refine triple_bind (M := fun _ => Grown s (token, a)) (triple_modify fun _ h => h) fun _ => ?_
  refine triple_bind (M := fun _ => Grown s (token, a)) (triple_modify fun t h => ?_) fun _ =>
    triple_modify fun t h => ?_
  · unfold putExpiry
    cases token.expiration with
    | none => exact h
    | some expiration => exact h
  · unfold linkRefreshToken
    cases token.refreshToken with
    | none => exact h
    | some refreshToken => exact h

variable (digest order) in
/-- A look-up stores what the record says that it stores. -/
theorem getAccessToken_step (now : ℕ) (a : OAuth2Authentication) (s : InMemoryTokenStore) :
    (issues digest s (.getAccessToken now a) = [] ∧ step digest order s (.getAccessToken now a) = s) ∨
      ∃ token, issues digest s (.getAccessToken now a) = [(token, a)] ∧
        step digest order s (.getAccessToken now a) =
          step digest order s (.storeAccessToken now token a) := by
  have hrun : ∀ o, s.authenticationToAccessTokenStore (extractKey digest a) = o →
      InMemoryTokenStore.getAccessToken digest now a s = (match o with
        | none => return none
        | some token => do
          let stored ← orThrow nullPointer (s.authenticationStore token.value)
          onlyIf (extractKey digest a ≠ extractKey digest stored)
            (storeAccessToken digest now token a)
          return some token : StoreM (Option OAuth2AccessToken)) s := by
    rintro o rfl
    rfl
  cases hcurrent : s.authenticationToAccessTokenStore (extractKey digest a) with
  | none =>
    left
    have hnone := hrun none hcurrent
    exact ⟨by simp only [issues, hcurrent], final_of_ok hnone⟩
  | some token =>
    have hsome := hrun (some token) hcurrent
    cases hstored : s.authenticationStore token.value with
    | none =>
      left
      simp only [hstored, orThrow] at hsome
      exact ⟨by simp only [issues, hcurrent, hstored],
        final_of_error (hsome.trans (bind_of_error rfl))⟩
    | some stored =>
      simp only [hstored, orThrow_some_bind] at hsome
      by_cases hkey : extractKey digest a = extractKey digest stored
      · left
        refine ⟨by simp only [issues, hcurrent, hstored, if_pos hkey], ?_⟩
        rw [onlyIf, if_neg (not_not.mpr hkey), pure_bind] at hsome
        exact final_of_ok hsome
      · right
        refine ⟨token, by simp only [issues, hcurrent, hstored, if_neg hkey], ?_⟩
        rw [onlyIf, if_pos hkey] at hsome
        show final (InMemoryTokenStore.getAccessToken digest now a) s =
          final (storeAccessToken digest now token a) s
        unfold final
        rw [hsome]
        cases hstore : storeAccessToken digest now token a s with
        | ok u t => rw [bind_of_ok hstore, pure_apply]
        | error e t => rw [bind_of_error hstore]

/-- After a step every token of a bucket was there before, or the step has stored it under the
key of the bucket. -/
theorem bucket_step (op : Operation) (h : token ∈ Index.bucket
      (step digest order s op).userNameToAccessTokenStore k) :
    token ∈ Index.bucket s.userNameToAccessTokenStore k ∨
      ∃ x ∈ issues digest s op, x.1 = token ∧ userKey x.2 = some k := by
  have hstore : ∀ now x a, Grown s (x, a) (step digest order s (.storeAccessToken now x a)) :=
    fun now x a => final_of_triple (triple_storeAccessToken_grown now x a) rfl
  have hshrunk : Shrunk s (step digest order s op) →
      token ∈ Index.bucket s.userNameToAccessTokenStore k := fun hop => hop k token h
  cases op with
  | getAccessToken now a =>
    rcases getAccessToken_step digest order now a s with ⟨-, hsame⟩ | ⟨x, hissues, hsame⟩
    · rw [hsame] at h
      exact .inl h
    · rw [hsame] at h
      rcases hstore now x a k token h with hold | ⟨rfl, hkey⟩
      · exact .inl hold
      · refine .inr ⟨(token, a), ?_, rfl, hkey⟩
        rw [hissues]
        exact List.mem_cons_self
  | storeAccessToken now x a =>
    rcases hstore now x a k token h with hold | ⟨rfl, hkey⟩
    · exact .inl hold
    · exact .inr ⟨(token, a), List.mem_cons_self, rfl, hkey⟩
  | storeRefreshToken r a => exact .inl (hshrunk (shrunk_refl s))
  | removeAccessToken v =>
    exact .inl (hshrunk (final_of_triple (triple_removeAccessToken_shrunk v) (shrunk_refl s)))
  | removeRefreshToken v => exact .inl (hshrunk (shrunk_refl s))
  | removeAccessTokenUsingRefreshToken r =>
    have hremove := (removing_shrunk digest s).removeUsingRefreshToken r
    exact .inl (hshrunk (final_of_triple hremove (shrunk_refl s)))
  | revokeApprovals approvals =>
    have hrevoke : Triple (Shrunk s) (TokenApprovalStore.revokeApprovals digest order approvals)
        (fun _ => Shrunk s) (Shrunk s) :=
      TokenApprovalStore.triple_revokeApprovals fun _ _ _ _ token _ =>
        triple_removeAccessToken_shrunk token.value
    exact .inl (hshrunk (final_of_triple hrevoke (shrunk_refl s)))

/-! ### What every step keeps -/

/-- Stored authentications name their clients, and the tokens of users are filed. -/
structure Orderly (s : InMemoryTokenStore) : Prop where
  named : TokenRegistry.Named s.registry
  filed : UsersFiled s

theorem orderly_empty (flushInterval : ℤ) : Orderly { flushInterval := flushInterval } where
  named _ _ h := by cases h
  filed := filed_empty flushInterval

theorem orderly_thinned (h : Orderly s)
    (ht : TokenApprovalStore.Thinned digest s.registry t) : Orderly t := by
  obtain ⟨⟨vs, hregistry⟩, hfiled⟩ := ht
  refine ⟨?_, hfiled⟩
  rw [hregistry]
  exact h.named.of_fewer (fewer_dropAll vs)

variable (digest order) in
theorem registry_storeAccessToken (h : Orderly s) (hname : a.oAuth2Request.clientId ≠ none)
    (now : ℕ) (token : OAuth2AccessToken) :
    ∃ vs, (step digest order s (.storeAccessToken now token a)).registry =
      put digest token a (dropAll digest vs s.registry) := by
  have hstore : Triple (fun t => t.registry = s.registry) (storeAccessToken digest now token a)
      (fun _ t => ∃ vs, t.registry = put digest token a (dropAll digest vs s.registry))
      (fun t => ∃ vs, t.registry = put digest token a (dropAll digest vs s.registry)) :=
    triple_storeAccessToken_registry h.named hname
  exact final_of_triple hstore rfl

variable (digest order) in
theorem orderly_storeAccessToken (h : Orderly s) (hname : a.oAuth2Request.clientId ≠ none)
    (now : ℕ) (token : OAuth2AccessToken) :
    Orderly (step digest order s (.storeAccessToken now token a)) := by
  obtain ⟨vs, hregistry⟩ := registry_storeAccessToken digest order h hname now token
  constructor
  · rw [hregistry]
    intro v b hb
    simp only [put, Function.update_apply] at hb
    split_ifs at hb
    · rw [← Option.some.inj hb]
      exact hname
    · exact (h.named.of_fewer (fewer_dropAll vs)) v b hb
  · exact final_of_triple ((usersFiled_stable digest).storeAccessToken token a) h.filed

theorem orderly_step (h : Orderly s) (op : Operation) (hname : op.Named) :
    Orderly (step digest order s op) := by
  have hstart : TokenApprovalStore.Thinned digest s.registry s := ⟨dropped_of_eq rfl, h.filed⟩
  cases op with
  | getAccessToken now a =>
    rcases getAccessToken_step digest order now a s with ⟨-, hsame⟩ | ⟨x, -, hsame⟩
    · rw [hsame]
      exact h
    · rw [hsame]
      exact orderly_storeAccessToken digest order h hname now x
  | storeAccessToken now x a => exact orderly_storeAccessToken digest order h hname now x
  | storeRefreshToken r a => exact ⟨h.named, h.filed.congr rfl rfl rfl⟩
  | removeAccessToken v =>
    exact orderly_thinned h (final_of_triple
      (TokenApprovalStore.triple_removeAccessToken_thinned h.named v) hstart)
  | removeRefreshToken v => exact ⟨h.named, h.filed.congr rfl rfl rfl⟩
  | removeAccessTokenUsingRefreshToken r =>
    have hwithdraw : Triple (fun t => t.registry = s.registry)
        (removeAccessTokenUsingRefreshToken digest r)
        (fun _ t => t.registry = withdraw digest r s.registry)
        (fun t => t.registry = withdraw digest r s.registry) := triple_withdraw r h.named
    have hregistry := final_of_triple hwithdraw rfl
    refine ⟨?_, final_of_triple ((usersFiled_stable digest).removeUsingRefreshToken r) h.filed⟩
    show TokenRegistry.Named (final (removeAccessTokenUsingRefreshToken digest r) s).registry
    rw [hregistry]
    unfold withdraw
    have hunlinked : TokenRegistry.Named
        { s.registry with linked := Function.update s.registry.linked r none } := h.named
    cases s.registry.linked r with
    | none => exact hunlinked
    | some v => exact hunlinked.of_fewer (fewer_drop v)
  | revokeApprovals approvals =>
    exact orderly_thinned h (final_of_triple
      (TokenApprovalStore.triple_revokeApprovals_thinned h.named approvals) hstart)

variable (digest order) in
/-- What is stored for a user is found under the key of the authentication. -/
theorem mem_bucket_of_stored (h : Orderly s) (hname : a.oAuth2Request.clientId ≠ none)
    (huser : a.isClientOnly = false) (now : ℕ) (token : OAuth2AccessToken) :
    token.value ∈ (Index.bucket (step digest order s
      (.storeAccessToken now token a)).userNameToAccessTokenStore (getApprovalKey a)).map
        OAuth2AccessToken.value := by
  have hfiled := (orderly_storeAccessToken digest order h hname now token).filed
  obtain ⟨vs, hregistry⟩ := registry_storeAccessToken digest order h hname now token
  apply hfiled.filed token.value a _ huser
  show (step digest order s (.storeAccessToken now token a)).registry.authentication token.value =
    some a
  rw [hregistry]
  exact Function.update_self _ _ _

/-! ### The invariant -/

/-- Every token of a bucket was issued under its key, and no value was issued for two owners. -/
structure Owned (r : InMemoryTokenStore × List Issue) : Prop where
  orderly : Orderly r.1
  named : ∀ x ∈ r.2, x.2.oAuth2Request.clientId ≠ none
  issued : ∀ k, ∀ token ∈ Index.bucket r.1.userNameToAccessTokenStore k,
    ∃ x ∈ r.2, x.1.value = token.value ∧ userKey x.2 = some k
  separable : ∀ x ∈ r.2, Separable x.2
  own : ∀ x ∈ r.2, ∀ o ∈ owner x.2, ¬Foreign o.1 o.2 r.2 x.1.value

theorem owned_empty (flushInterval : ℤ) : Owned ({ flushInterval := flushInterval }, []) where
  orderly := orderly_empty flushInterval
  named _ h := by cases h
  issued _ _ h := by cases h
  separable _ h := by cases h
  own _ h := by cases h

/-- An operation stores at most one token. -/
theorem issues_unique {op : Operation} {x y : Issue} (hx : x ∈ issues digest s op)
    (hy : y ∈ issues digest s op) : x = y := by
  cases op with
  | storeAccessToken now token a =>
    exact (List.mem_singleton.mp hx).trans (List.mem_singleton.mp hy).symm
  | getAccessToken now a =>
    rcases getAccessToken_step digest (.insertion _) now a s with ⟨hnone, -⟩ | ⟨token, hone, -⟩
    · rw [hnone] at hx
      cases hx
    · rw [hone] at hx hy
      exact (List.mem_singleton.mp hx).trans (List.mem_singleton.mp hy).symm
  | _ => cases hx

theorem named_of_mem_issues {op : Operation} (hname : op.Named) {x : Issue}
    (hx : x ∈ issues digest s op) : x.2.oAuth2Request.clientId ≠ none := by
  cases op with
  | storeAccessToken now token a =>
    rw [List.mem_singleton.mp hx]
    exact hname
  | getAccessToken now a =>
    rcases getAccessToken_step digest (.insertion _) now a s with ⟨hnone, -⟩ | ⟨token, hone, -⟩
    · rw [hnone] at hx
      cases hx
    · rw [hone] at hx
      rw [List.mem_singleton.mp hx]
      exact hname
  | _ => cases hx

theorem owned_record {r : InMemoryTokenStore × List Issue} (h : Owned r) (op : Operation)
    (hname : op.Named) (hown : OwnKey digest r op) : Owned (record digest order r op) where
  orderly := orderly_step h.orderly op hname
  named x hx := by
    rcases List.mem_append.mp hx with hold | hnew
    · exact h.named x hold
    · exact named_of_mem_issues hname hnew
  issued k token htoken := by
    rcases bucket_step op htoken with hold | ⟨x, hx, rfl, hkey⟩
    · obtain ⟨x, hx, hvalue⟩ := h.issued k token hold
      exact ⟨x, List.mem_append_left _ hx, hvalue⟩
    · exact ⟨x, List.mem_append_right _ hx, rfl, hkey⟩
  separable x hx := by
    rcases List.mem_append.mp hx with hold | hnew
    · exact h.separable x hold
    · exact (hown x hnew).1
  own x hx o ho := by
    rintro ⟨y, hy, hvalue, o', ho', hne⟩
    rcases List.mem_append.mp hx with hold | hnew
    · rcases List.mem_append.mp hy with hold' | hnew'
      · exact h.own x hold o ho ⟨y, hold', hvalue, o', ho', hne⟩
      · -- a new issue of an old value: the new one is refused by the condition
        exact (hown y hnew').2 o' ho' ⟨x, hold, hvalue.symm, o, ho, fun heq => hne heq.symm⟩
    · rcases List.mem_append.mp hy with hold' | hnew'
      · exact (hown x hnew).2 o ho ⟨y, hold', hvalue, o', ho', hne⟩
      · rw [issues_unique hnew' hnew] at ho'
        exact hne (Option.some.inj ((Option.mem_def.mp ho').symm.trans (Option.mem_def.mp ho)))

/-! ### Isolation -/

/-- A removal by a revocation takes a token out that the search has found. -/
def Taken (s : InMemoryTokenStore) (k : String) (t : InMemoryTokenStore) : Prop :=
  Shrunk s t ∧ ∀ v, t.accessTokenStore v = none → s.accessTokenStore v = none ∨
    v ∈ (Index.bucket s.userNameToAccessTokenStore k).map OAuth2AccessToken.value

theorem triple_removeAccessToken_taken
    (hv : v ∈ (Index.bucket s.userNameToAccessTokenStore k).map OAuth2AccessToken.value) :
    Triple (Taken s k) (removeAccessToken digest v) (fun _ => Taken s k) (Taken s k) := by
  refine triple_bind (M := fun _ => Taken s k) (triple_get fun _ h => h) fun t => ?_
  refine triple_bind (M := fun _ => Taken s k) (triple_modify fun u hu => ?_) fun _ => ?_
  · refine ⟨hu.1, ?_⟩
    intro w hw
    simp only [dropToken, Function.update_apply] at hw
    split_ifs at hw with hsame
    · rw [hsame]
      exact .inr hv
    · exact hu.2 w hw
  cases t.authenticationStore v with
  | none => exact triple_pure fun _ h => h
  | some a =>
    refine triple_bind (M := fun _ => Taken s k) (triple_modify fun u hu => ?_) fun _ => ?_
    · refine ⟨?_, hu.2⟩
      intro k' token htoken
      exact hu.1 k' token (mem_removeFromCollection htoken)
    · refine triple_bind (M := fun _ => Taken s k) ?_ fun clientId => triple_modify fun _ h => h
      exact triple_orThrow (fun _ _ _ h => h) fun _ _ h => h

variable (digest order) in
theorem taken_revokeApprovals {c u : String} {approvals : List Approval}
    (h : ∀ approval ∈ approvals, approval.clientId = c ∧ approval.userId = u) :
    Taken s (approvalKey c (some u)) (step digest order s (.revokeApprovals approvals)) := by
  have hrevoke : Triple (Taken s (approvalKey c (some u)))
      (TokenApprovalStore.revokeApprovals digest order approvals)
      (fun _ => Taken s (approvalKey c (some u))) (Taken s (approvalKey c (some u))) := by
    apply TokenApprovalStore.triple_revokeApprovals
    intro approval happroval t ht token htoken
    obtain ⟨hc, hu⟩ := h approval happroval
    rw [hc, hu] at htoken
    apply triple_removeAccessToken_taken
    exact List.mem_map_of_mem (ht.1 _ token htoken)
  apply final_of_triple hrevoke
  exact ⟨shrunk_refl s, fun v hv => .inl hv⟩

/-- From the invariant: the key that finds a token is that of its only owner. -/
theorem Owned.isolated {r : InMemoryTokenStore × List Issue} (h : Owned r) :
    Isolated digest order r := by
  have hfound : ∀ c u, ∀ token ∈ r.1.findTokensByClientIdAndUserName c (some u),
      (∃ x ∈ r.2, x.1.value = token.value) ∧ ¬Foreign c u r.2 token.value := by
    intro c u token htoken
    obtain ⟨x, hx, hvalue, hkey⟩ := h.issued _ token htoken
    obtain ⟨c', u', howner, hsame⟩ := owner_of_userKey (h.named x hx) hkey
    have hpair := owner_eq_of_key (h.separable x hx) howner hsame
    obtain ⟨rfl, rfl⟩ := Prod.mk.inj hpair
    have hown := h.own x hx _ howner
    rw [hvalue] at hown
    exact ⟨⟨x, hx, hvalue⟩, hown⟩
  constructor
  · intro c u token htoken
    exact (hfound c u token htoken).2
  · intro c u approval happroval
    obtain ⟨token, htoken, -, -, hscope, hexpires⟩ := TokenApprovalStore.mem_getApprovals happroval
    exact ⟨token, hscope, hexpires, hfound c u token htoken⟩
  · intro c u approvals happrovals v hlive hgone
    have htaken : Taken r.1 (approvalKey c (some u)) _ :=
      taken_revokeApprovals digest order happrovals
    have hmem := (htaken.2 v hgone).resolve_left hlive
    obtain ⟨token, htoken, rfl⟩ := List.mem_map.mp hmem
    exact (hfound c u token htoken).2

variable (order) in
/-- What an operation stores for an owner is found by the key of the owner. -/
theorem found_of_issued {r : InMemoryTokenStore × List Issue} (h : Orderly r.1) {op : Operation}
    (hname : op.Named) {x : Issue} (hx : x ∈ issues digest r.1 op) {c u : String}
    (howner : owner x.2 = some (c, u)) :
    ∃ token ∈ Index.bucket (step digest order r.1 op).userNameToAccessTokenStore
      (approvalKey c (some u)), token.value = x.1.value := by
  obtain ⟨huser, hkey⟩ := getApprovalKey_of_owner howner
  have hstored : ∀ now token a, x = (token, a) → a.oAuth2Request.clientId ≠ none →
      ∃ token' ∈ Index.bucket (step digest order r.1
        (.storeAccessToken now token a)).userNameToAccessTokenStore (approvalKey c (some u)),
          token'.value = x.1.value := by
    rintro now token a rfl hnamed
    have hmem := mem_bucket_of_stored digest order h hnamed huser now token
    rw [hkey] at hmem
    exact List.mem_map.mp hmem
  cases op with
  | storeAccessToken now token a => exact hstored now token a (List.mem_singleton.mp hx) hname
  | getAccessToken now a =>
    rcases getAccessToken_step digest order now a r.1 with ⟨hnone, -⟩ | ⟨token, hone, hsame⟩
    · rw [hnone] at hx
      cases hx
    · rw [hone] at hx
      rw [hsame]
      exact hstored now token a (List.mem_singleton.mp hx) hname
  | _ => cases hx

variable (order) in
/-- Where isolation holds after a step, the step has kept the condition. -/
theorem ownKey_of_isolated {r : InMemoryTokenStore × List Issue} (h : Orderly r.1)
    {op : Operation} (hname : op.Named)
    (hisolated : Isolated digest order (record digest order r op)) :
    OwnKey digest r op := by
  intro x hx
  have hrecorded : x ∈ (record digest order r op).2 := List.mem_append_right _ hx
  constructor
  · intro user huser
    obtain ⟨c, hc⟩ := Option.ne_none_iff_exists'.mp (named_of_mem_issues hname hx)
    have howner : owner x.2 = some (c, user.getName) := owner_eq_some.mpr ⟨user, hc, huser, rfl⟩
    obtain ⟨token, htoken, hvalue⟩ := found_of_issued order h hname hx howner
    refine ⟨c, hc, not_or.mp ?_⟩
    intro hcolon
    -- another owner has the same key, and finds this one's token
    obtain ⟨c', u', hne, hkey⟩ := exists_same_key hcolon
    rw [← hkey] at htoken
    apply hisolated.found c' u' token htoken
    exact ⟨x, hrecorded, hvalue.symm, (c, user.getName), howner, hne.symm⟩
  · rintro ⟨c, u⟩ ho ⟨y, hy, hvalue, hforeign⟩
    obtain ⟨token, htoken, htoken'⟩ := found_of_issued order h hname hx ho
    apply hisolated.found c u token htoken
    exact ⟨y, List.mem_append_left _ hy, hvalue.trans htoken'.symm, hforeign⟩

/-- The induction is on the run: every prefix of the rest is one of the whole. -/
theorem ownKeys_of_isolated {r : InMemoryTokenStore × List Issue} {ops : List Operation}
    (hnamed : ∀ op ∈ ops, op.Named) (h : Orderly r.1)
    (hisolated : ∀ before, before <+: ops →
      Isolated digest order (Runs.exec (record digest order) r before)) :
    Runs.Meets (record digest order) (OwnKey digest) r ops := by
  induction ops generalizing r with
  | nil => trivial
  | cons op ops ih =>
    have hop := hnamed op List.mem_cons_self
    constructor
    · apply ownKey_of_isolated order h hop
      exact hisolated [op] ⟨ops, rfl⟩
    · apply ih (fun op' hop' => hnamed op' (List.mem_cons_of_mem op hop'))
      · exact orderly_step h op hop
      · intro before hbefore
        exact hisolated (op :: before) (List.cons_prefix_cons.mpr ⟨rfl, hbefore⟩)

end

open DefaultTokenServices (userAt)

/-- Two users at one client, one of them at another client too, and a revocation. -/
def twoUsers : List Operation :=
  [.storeAccessToken 1000 ⟨"t1", none, none, ["read"]⟩ (userAt "app" "alice"),
    .storeAccessToken 2000 ⟨"t2", none, none, ["read"]⟩ (userAt "app" "bob"),
    .getAccessToken 3000 (userAt "app" "alice"),
    .storeAccessToken 4000 ⟨"t3", none, none, ["read"]⟩ (userAt "kiosk" "alice"),
    .revokeApprovals [⟨"alice", "app", "read", 0, .approved⟩]]

end MaxKey.OAuth2.TokenIsolation
