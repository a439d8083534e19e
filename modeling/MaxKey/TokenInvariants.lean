import MaxKey.TokenRuns

namespace MaxKey.OAuth2
open JavaException Effects InMemoryTokenStore

namespace InMemoryTokenStore

variable {digest : String → String} {I : InMemoryTokenStore → Prop} {now : ℕ}

/-- A property that removals keep, and that depends neither on the clocks nor on which tokens
go together. -/
structure Removing (digest : String → String) (I : InMemoryTokenStore → Prop) : Prop where
  remove : ∀ v, Triple I (removeAccessToken digest v) (fun _ => I) I
  clocks : ∀ s queue expiries counter, I s →
    I { s with expiryQueue := queue, expiryMap := expiries, flushCounter := counter }
  link : ∀ s access refresh, I s → I { s with
    refreshTokenToAccessTokenStore := access, accessTokenToRefreshTokenStore := refresh }

/-- A property that every write to the store keeps. -/
structure Stable (digest : String → String) (I : InMemoryTokenStore → Prop) : Prop
    extends Removing digest I where
  put : ∀ s token a, I s → I (putToken digest token a s)
  index : ∀ s token clientId, I s → I (indexClient token clientId s)
  keep : ∀ s r a, I s → I (storeRefreshToken r a s)
  forget : ∀ s r, I s → I (removeRefreshToken r s)

/-- The induction is on the queue. -/
theorem Removing.poll (h : Removing digest I) (queue : List TokenExpiry) :
    Triple I (poll digest now queue) (fun _ => I) I := by
  induction queue with
  | nil => exact triple_pure fun _ hs => hs
  | cons first rest ih =>
    refine triple_onlyIf (fun _ => ?_) fun _ _ hs => hs
    refine triple_bind (M := fun _ => I) (triple_modify fun s hs => ?_) fun _ => ?_
    · exact h.clocks s rest s.expiryMap s.flushCounter hs
    · exact triple_bind (h.remove first.value) fun _ => ih

theorem Removing.countInsert (h : Removing digest I) :
    Triple I (countInsert digest now) (fun _ => I) I := by
  have hcount : ∀ counter s, I s → I { s with flushCounter := counter } := fun counter s hs =>
    h.clocks s s.expiryQueue s.expiryMap counter hs
  refine triple_bind (M := fun _ => I) (triple_modify fun s hs => hcount _ s hs) fun _ => ?_
  refine triple_bind (M := fun _ => I) (triple_get fun _ hs => hs) fun s => ?_
  refine triple_onlyIf (fun _ => ?_) fun _ _ hs => hs
  refine triple_bind (M := fun _ => I) ?_ fun _ => triple_modify fun s hs => hcount 0 s hs
  refine triple_bind (M := fun _ => I) (triple_get fun _ hs => hs) fun t => ?_
  exact h.poll t.expiryQueue

theorem Removing.removeUsingRefreshToken (h : Removing digest I) (r : String) :
    Triple I (removeAccessTokenUsingRefreshToken digest r) (fun _ => I) I := by
  refine triple_bind (M := fun _ => I) (triple_get fun _ hs => hs) fun s => ?_
  refine triple_bind (M := fun _ => I) (triple_modify fun t ht => ?_) fun _ => ?_
  · exact h.link t _ t.accessTokenToRefreshTokenStore ht
  · cases s.refreshTokenToAccessTokenStore r with
    | none => exact triple_pure fun _ hs => hs
    | some v => exact h.remove v

theorem Stable.putExpiry (h : Stable digest I) {s : InMemoryTokenStore}
    (token : OAuth2AccessToken) (hs : I s) : I (putExpiry token s) := by
  unfold InMemoryTokenStore.putExpiry
  cases token.expiration with
  | none => exact hs
  | some expiration => exact h.clocks s _ _ s.flushCounter hs

theorem Stable.linkRefreshToken (h : Stable digest I) {s : InMemoryTokenStore}
    (token : OAuth2AccessToken) (hs : I s) : I (linkRefreshToken token s) := by
  unfold InMemoryTokenStore.linkRefreshToken
  cases token.refreshToken with
  | none => exact hs
  | some r => exact h.link s _ _ hs

theorem Stable.storeAccessToken (h : Stable digest I) (token : OAuth2AccessToken)
    (a : OAuth2Authentication) :
    Triple I (storeAccessToken digest now token a) (fun _ => I) I := by
  refine triple_bind h.countInsert fun _ => ?_
  refine triple_bind (M := fun _ => I) (triple_modify fun s hs => h.put s token a hs) fun _ => ?_
  refine triple_bind (M := fun _ => I) (triple_orThrow (fun _ _ _ hs => hs) fun _ _ hs => hs)
    fun clientId => ?_
  refine triple_bind (M := fun _ => I) (triple_modify fun s hs => h.index s token clientId hs)
    fun _ => ?_
  refine triple_bind (M := fun _ => I) (triple_modify fun s hs => h.putExpiry token hs) fun _ => ?_
  exact triple_modify fun s hs => h.linkRefreshToken token hs

theorem Stable.getAccessToken (h : Stable digest I) (a : OAuth2Authentication) :
    Triple I (getAccessToken digest now a) (fun _ => I) I := by
  refine triple_bind (M := fun _ => I) (triple_get fun _ hs => hs) fun s => ?_
  dsimp only
  cases s.authenticationToAccessTokenStore (extractKey digest a) with
  | none => exact triple_pure fun _ hs => hs
  | some token =>
    refine triple_bind (M := fun _ => I) ?_ fun stored => ?_
    · exact triple_orThrow (fun _ _ _ hs => hs) fun _ _ hs => hs
    · refine triple_bind (M := fun _ => I) ?_ fun _ => triple_pure fun _ hs => hs
      exact triple_onlyIf (fun _ => h.storeAccessToken token a) fun _ _ hs => hs

end InMemoryTokenStore

namespace DefaultTokenServices

variable {digest : String → String} {services : DefaultTokenServices}
  {I : InMemoryTokenStore → Prop} {m : Moment} {a : OAuth2Authentication}

/-- What a computation reads or fails with does not bear on an invariant. -/
theorem triple_orError_keeps {α : Type} (r : Except JavaException α) :
    Triple I (orError r : StoreM α) (fun _ => I) I :=
  triple_orError (fun _ _ _ hs => hs) fun _ hs => hs

section Calls

variable (h : Stable digest I)

include h

theorem triple_retire_stable (token : OAuth2AccessToken) :
    Triple I (token.refreshToken.forM fun r => modify (removeRefreshToken r.value) : StoreM Unit)
      (fun _ => I) I :=
  triple_forM fun r => triple_modify fun s hs => h.forget s r.value hs

theorem triple_issue_stable (existing : Option OAuth2RefreshToken) :
    Triple I (services.issue digest m a existing) (fun _ => I) I := by
  refine triple_bind (triple_orError_keeps _) fun refreshToken => ?_
  refine triple_bind (triple_orError_keeps _) fun token => ?_
  refine triple_bind (h.storeAccessToken token a) fun _ => ?_
  refine triple_bind (triple_forM fun r => ?_) fun _ => triple_pure fun _ hs => hs
  exact triple_modify fun s hs => h.keep s r a hs

theorem triple_createAccessToken_stable (m : Moment) (a : OAuth2Authentication) :
    Triple I (services.createAccessToken digest m a) (fun _ => I) I := by
  refine triple_bind (h.getAccessToken a) fun existing => ?_
  cases existing with
  | none => exact triple_issue_stable h none
  | some existing =>
    dsimp only
    split_ifs
    · refine triple_bind (triple_retire_stable h existing) fun _ => ?_
      refine triple_bind (h.remove existing.value) fun _ => ?_
      exact triple_issue_stable h existing.refreshToken
    · refine triple_bind (h.storeAccessToken existing a) fun _ => ?_
      exact triple_pure fun _ hs => hs

theorem triple_reissue_stable (r : OAuth2RefreshToken) :
    Triple I (services.reissue digest m a r) (fun _ => I) I := by
  have hrotate : Triple I (services.rotate m a.oAuth2Request r) (fun _ => I) I := by
    unfold rotate
    split_ifs
    · exact triple_pure fun _ hs => hs
    · refine triple_bind (M := fun _ => I) ?_ fun _ => triple_orError_keeps _
      exact triple_modify fun s hs => h.forget s r.value hs
  refine triple_bind hrotate fun y => ?_
  refine triple_bind (triple_orError_keeps _) fun token => ?_
  refine triple_bind (h.storeAccessToken token a) fun _ => ?_
  refine triple_bind (M := fun _ => I) ?_ fun _ => triple_pure fun _ hs => hs
  refine triple_onlyIf (fun _ => ?_) fun _ _ hs => hs
  refine triple_bind (M := fun _ => I) (triple_orThrow (fun _ _ _ hs => hs) fun _ _ hs => hs)
    fun y => ?_
  exact triple_modify fun s hs => h.keep s y a hs

theorem triple_refreshAccessToken_stable (m : Moment) (value : String) (request : TokenRequest) :
    Triple I (services.refreshAccessToken digest m value request) (fun _ => I) I := by
  refine triple_bind (M := fun _ => I) (triple_get fun _ hs => hs) fun s => ?_
  refine triple_bind (triple_orError_keeps _) fun found => ?_
  refine triple_bind (h.removeUsingRefreshToken found.1.value) fun _ => ?_
  refine triple_bind (M := fun _ => I) ?_ fun _ => ?_
  · refine triple_onlyIf (fun _ => ?_) fun _ _ hs => hs
    refine triple_bind (M := fun _ => I) ?_ fun _ => triple_throw fun _ hs => hs
    exact triple_modify fun s hs => h.forget s found.1.value hs
  · refine triple_bind (triple_orError_keeps _) fun b => ?_
    exact triple_reissue_stable h found.1

theorem triple_revokeToken_stable (value : String) :
    Triple I (revokeToken digest value) (fun _ => I) I := by
  refine triple_bind (M := fun _ => I) (triple_get fun _ hs => hs) fun s => ?_
  cases s.accessTokenStore value with
  | none => exact triple_pure fun _ hs => hs
  | some token =>
    refine triple_bind (triple_retire_stable h token) fun _ => ?_
    refine triple_bind (h.remove token.value) fun _ => ?_
    exact triple_pure fun _ hs => hs

theorem triple_loadAuthentication_stable (now : ℕ) (value : String) :
    Triple I (services.loadAuthentication digest now value) (fun _ => I) I := by
  refine triple_bind (M := fun _ => I) (triple_get fun _ hs => hs) fun s => ?_
  refine triple_bind (M := fun _ => I) (triple_orThrow (fun _ _ _ hs => hs) fun _ _ hs => hs)
    fun token => ?_
  refine triple_bind (M := fun _ => I) ?_ fun _ => ?_
  · refine triple_onlyIf (fun _ => ?_) fun _ _ hs => hs
    exact triple_bind (h.remove token.value) fun _ => triple_throw fun _ hs => hs
  · refine triple_bind (M := fun _ => I) (triple_orThrow (fun _ _ _ hs => hs) fun _ _ hs => hs)
      fun a => ?_
    exact triple_bind (triple_orError_keeps _) fun _ => triple_pure fun _ hs => hs

/-- What every write keeps, every call of the services keeps. -/
theorem stable_call {s : InMemoryTokenStore} (hs : I s) (c : Call) :
    I (services.call digest s c) := by
  cases c with
  | operation op =>
    cases op with
    | createAccessToken m a => exact final_of_triple (triple_createAccessToken_stable h m a) hs
    | refreshAccessToken m value request =>
      exact final_of_triple (triple_refreshAccessToken_stable h m value request) hs
    | revokeToken value => exact final_of_triple (triple_revokeToken_stable h value) hs
  | loadAuthentication now value =>
    exact final_of_triple (triple_loadAuthentication_stable h now value) hs

end Calls

end DefaultTokenServices

end MaxKey.OAuth2
