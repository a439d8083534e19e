import MaxKey.ApprovalStore
import MaxKey.TokenInvariants

namespace MaxKey.OAuth2
open JavaException Effects InMemoryTokenStore

/-- An approval that a token implies. Where the token does not expire, it does not either. -/
structure ImpliedApproval where
  userId : String
  clientId : String
  scope : String
  expiresAt : Option ℕ
  status : ApprovalStatus
  deriving DecidableEq

/-- Two approvals are equal whatever their times are. -/
def ImpliedApproval.equals (a b : ImpliedApproval) : Bool :=
  a.userId = b.userId && a.clientId = b.clientId && a.scope = b.scope && a.status = b.status

namespace TokenApprovalStore

variable (digest : String → String) (order : RowOrder OAuth2AccessToken)

/-- The approvals of all scopes of a token that has an authentication. -/
def implied (s : InMemoryTokenStore) (userId clientId : String) (token : OAuth2AccessToken) :
    List ImpliedApproval :=
  match s.authenticationStore token.value with
  | none => []
  | some _ => token.scope.map fun scope => ⟨userId, clientId, scope, token.expiration, .approved⟩

/-- An equal approval keeps its place in the set. -/
def insert (result : List ImpliedApproval) (approval : ImpliedApproval) : List ImpliedApproval :=
  if result.any approval.equals then result else result ++ [approval]

def getApprovals (s : InMemoryTokenStore) (userId clientId : String) : List ImpliedApproval :=
  let tokens := order.scan (s.findTokensByClientIdAndUserName clientId (some userId))
  (tokens.flatMap (implied s userId clientId)).foldl insert []

/-- The set that is walked is a view of the store's own. A removal that has changed it shows
when the walk goes on. -/
def revokeTokens (approval : Approval) : List OAuth2AccessToken → StoreM Unit
  | [] => pure ()
  | token :: rest => do
    let s ← get
    let authentication := s.authenticationStore token.value
    onlyIf (authentication.any (·.oAuth2Request.clientId = some approval.clientId))
      (removeAccessToken digest token.value)
    let t ← get
    throwIf (rest ≠ [] ∧
        t.findTokensByClientIdAndUserName approval.clientId (some approval.userId) ≠
          s.findTokensByClientIdAndUserName approval.clientId (some approval.userId))
      concurrentModification
    revokeTokens approval rest

def revokeApproval (approval : Approval) : StoreM Unit := do
  let s ← get
  revokeTokens digest approval
    (order.scan (s.findTokensByClientIdAndUserName approval.clientId (some approval.userId)))

/-- Where the walk comes to its end, the answer is always true. -/
def revokeApprovals : List Approval → StoreM Bool
  | [] => return true
  | approval :: rest => do
    revokeApproval digest order approval
    revokeApprovals rest

section Invariants

variable {digest : String → String} {order : RowOrder OAuth2AccessToken}
  {I : InMemoryTokenStore → Prop} {approval : Approval}

/-- What the removals of the walked tokens keep is kept, whether or not the walk breaks off. -/
theorem triple_revokeTokens {tokens : List OAuth2AccessToken}
    (hremove : ∀ token ∈ tokens, Triple I (removeAccessToken digest token.value) (fun _ => I) I) :
    Triple I (revokeTokens digest approval tokens) (fun _ => I) I := by
  induction tokens with
  | nil => exact triple_pure fun _ h => h
  | cons token rest ih =>
    have hfirst := hremove token List.mem_cons_self
    have hrest := ih fun x hx => hremove x (List.mem_cons_of_mem token hx)
    refine triple_bind (M := fun _ => I) (triple_get fun _ h => h) fun s => ?_
    refine triple_bind (M := fun _ => I) (triple_onlyIf (fun _ => hfirst) fun _ _ h => h) fun _ => ?_
    refine triple_bind (M := fun _ => I) (triple_get fun _ h => h) fun t => ?_
    refine triple_bind (M := fun _ => I) ?_ fun _ => hrest
    unfold throwIf
    split_ifs
    · exact triple_throw fun _ h => h
    · exact triple_pure fun _ h => h

theorem triple_revokeApproval (hremove : ∀ s, I s →
      ∀ token ∈ s.findTokensByClientIdAndUserName approval.clientId (some approval.userId),
        Triple I (removeAccessToken digest token.value) (fun _ => I) I) :
    Triple I (revokeApproval digest order approval) (fun _ => I) I := by
  intro s hs
  have hwalk : Triple I (revokeTokens digest approval (order.scan
      (s.findTokensByClientIdAndUserName approval.clientId (some approval.userId))))
      (fun _ => I) I := by
    apply triple_revokeTokens
    intro token htoken
    exact hremove s hs token ((order.mem_scan _ token).mp htoken)
  exact hwalk s hs

theorem triple_revokeApprovals {approvals : List Approval}
    (hremove : ∀ approval ∈ approvals, ∀ s, I s →
      ∀ token ∈ s.findTokensByClientIdAndUserName approval.clientId (some approval.userId),
        Triple I (removeAccessToken digest token.value) (fun _ => I) I) :
    Triple I (revokeApprovals digest order approvals) (fun _ => I) I := by
  induction approvals with
  | nil => exact triple_pure fun _ h => h
  | cons approval rest ih =>
    refine triple_bind (triple_revokeApproval (hremove approval List.mem_cons_self)) fun _ => ?_
    exact ih fun other hother => hremove other (List.mem_cons_of_mem approval hother)

end Invariants

/-- Every approval of the listing comes from a token that is found. -/
theorem mem_getApprovals {order : RowOrder OAuth2AccessToken} {s : InMemoryTokenStore}
    {userId clientId : String} {approval : ImpliedApproval}
    (h : approval ∈ getApprovals order s userId clientId) :
    ∃ token ∈ s.findTokensByClientIdAndUserName clientId (some userId),
      approval.userId = userId ∧ approval.clientId = clientId ∧ approval.scope ∈ token.scope ∧
        approval.expiresAt = token.expiration := by
  have hinserted : ∀ new old : List ImpliedApproval, approval ∈ new.foldl insert old →
      approval ∈ old ∨ approval ∈ new := by
    intro new
    induction new with
    | nil => exact fun old hold => .inl hold
    | cons first rest ih =>
      intro old hmem
      rcases ih _ hmem with hinsert | hrest
      · unfold insert at hinsert
        split_ifs at hinsert
        · exact .inl hinsert
        · rcases List.mem_append.mp hinsert with hold | hfirst
          · exact .inl hold
          · exact .inr (List.mem_cons.mpr (.inl (List.mem_singleton.mp hfirst)))
      · exact .inr (List.mem_cons_of_mem first hrest)
  have himplied := (hinserted _ [] h).resolve_left List.not_mem_nil
  obtain ⟨token, htoken, hmem⟩ := List.mem_flatMap.mp himplied
  refine ⟨token, (order.mem_scan _ token).mp htoken, ?_⟩
  unfold implied at hmem
  split at hmem
  · cases hmem
  · obtain ⟨scope, hscope, rfl⟩ := List.mem_map.mp hmem
    exact ⟨rfl, rfl, hscope, rfl⟩

end TokenApprovalStore

namespace InMemoryTokenStore

variable {digest : String → String} {s t : InMemoryTokenStore} {v : String}
  {a : OAuth2Authentication} {token : OAuth2AccessToken} {now : ℕ}

/-- Every token of a user can be found under the approval key of its authentication. -/
structure UsersFiled (s : InMemoryTokenStore) : Prop where
  value_eq : ∀ v t, s.accessTokenStore v = some t → t.value = v
  filed : ∀ v a, s.authenticationStore v = some a → a.isClientOnly = false →
    v ∈ (Index.bucket s.userNameToAccessTokenStore (getApprovalKey a)).map OAuth2AccessToken.value

theorem filed_empty (flushInterval : ℤ) : UsersFiled { flushInterval := flushInterval } where
  value_eq _ _ h := by cases h
  filed _ _ h := by cases h

theorem UsersFiled.congr (h : UsersFiled s) (htokens : t.accessTokenStore = s.accessTokenStore)
    (hauths : t.authenticationStore = s.authenticationStore)
    (husers : t.userNameToAccessTokenStore = s.userNameToAccessTokenStore) : UsersFiled t := by
  constructor
  · rw [htokens]
    exact h.value_eq
  · rw [hauths, husers]
    exact h.filed

/-- Removal takes the identity of the removed token out of one bucket and nothing else. -/
theorem UsersFiled.removed {key : String} (h : UsersFiled s)
    (htokens : t.accessTokenStore = Function.update s.accessTokenStore v none)
    (hauths : t.authenticationStore = Function.update s.authenticationStore v none)
    (husers : t.userNameToAccessTokenStore =
      removeFromCollection key (s.accessTokenStore v) s.userNameToAccessTokenStore) :
    UsersFiled t := by
  constructor
  · intro w x hx
    rw [htokens, Function.update_apply] at hx
    split_ifs at hx
    exact h.value_eq w x hx
  · intro w b hb huser
    rw [hauths, Function.update_apply] at hb
    split_ifs at hb with hw
    have hfiled := h.filed w b hb huser
    rw [husers]
    cases hremoved : s.accessTokenStore v with
    | none => exact hfiled
    | some token =>
      have hne : w ≠ token.value := by
        rw [h.value_eq v token hremoved]
        exact hw
      exact (Index.mem_map_bucket_remove hne).mpr hfiled

theorem UsersFiled.putToken (h : UsersFiled s) (token : OAuth2AccessToken) (a : OAuth2Authentication) :
    UsersFiled (putToken digest token a s) := by
  constructor
  · intro w x hx
    simp only [InMemoryTokenStore.putToken, Function.update_apply] at hx
    split_ifs at hx with hw
    · rw [hw, Option.some.inj hx]
    · exact h.value_eq w x hx
  · intro w b hb huser
    simp only [InMemoryTokenStore.putToken, Function.update_apply] at hb ⊢
    split_ifs at hb with hw
    · have hba := Option.some.inj hb
      rw [hba, huser, hw]
      apply Index.mem_map_bucket_add.mpr
      exact .inl ⟨rfl, rfl⟩
    · have hfiled := h.filed w b hb huser
      split_ifs
      · exact hfiled
      · exact Index.mem_map_bucket_add.mpr (.inr hfiled)

theorem triple_removeAccessToken_filed (v : String) :
    Triple UsersFiled (removeAccessToken digest v) (fun _ => UsersFiled) UsersFiled := by
  intro s hs
  unfold removeAccessToken
  rw [bind_of_ok (get_apply s), bind_of_ok (modify_apply _ s)]
  cases ha : s.authenticationStore v with
  | none =>
    -- a value without authentication leaves the index alone
    constructor
    · intro w x hx
      simp only [dropToken, Function.update_apply] at hx
      split_ifs at hx
      exact hs.value_eq w x hx
    · intro w b hb huser
      simp only [dropToken, Function.update_apply] at hb
      split_ifs at hb
      exact hs.filed w b hb huser
  | some a =>
    have hunindexed : UsersFiled (unindexUser digest a (s.accessTokenStore v) (dropToken v s)) :=
      hs.removed rfl rfl rfl
    have hunindex : Triple (fun u => u = dropToken v s) (unindex digest a (s.accessTokenStore v))
        (fun _ => UsersFiled) UsersFiled := by
      refine triple_bind (M := fun _ => UsersFiled) (triple_modify fun u hu => ?_) fun _ => ?_
      · rw [hu]
        exact hunindexed
      · refine triple_bind (M := fun _ => UsersFiled) ?_ fun clientId => ?_
        · exact triple_orThrow (fun _ _ _ h => h) fun _ _ h => h
        · exact triple_modify fun u hu => hu.congr rfl rfl rfl
    exact hunindex _ rfl

theorem usersFiled_stable (digest : String → String) : Stable digest UsersFiled where
  remove := triple_removeAccessToken_filed
  clocks _ _ _ _ h := h.congr rfl rfl rfl
  put _ token a h := h.putToken token a
  index _ _ _ h := h.congr rfl rfl rfl
  link _ _ _ h := h.congr rfl rfl rfl
  keep _ _ _ h := h.congr rfl rfl rfl
  forget _ _ h := h.congr rfl rfl rfl

end InMemoryTokenStore

namespace DefaultTokenServices

variable {digest : String → String} {services : DefaultTokenServices} {s : InMemoryTokenStore}

/-- Every call of the services keeps the tokens filed. -/
theorem usersFiled_call (h : UsersFiled s) (c : Call) : UsersFiled (services.call digest s c) :=
  stable_call (usersFiled_stable digest) h c

end DefaultTokenServices

end MaxKey.OAuth2
