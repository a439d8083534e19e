import MaxKey.TokenStore

namespace MaxKey.OAuth2.InMemoryTokenStore
open Effects JavaException
open Function (update)

/-- The key of the user index under which storing files a token. -/
def userKey (a : OAuth2Authentication) : Option String :=
  if a.isClientOnly then none else some (getApprovalKey a)

def clientKey (a : OAuth2Authentication) : Option String := a.oAuth2Request.clientId

/-- The key that a stored token has under a way of indexing authentications. -/
def keyed (f : OAuth2Authentication → Option String) (s : InMemoryTokenStore) (v : String) :
    Option String := (s.authenticationStore v).bind f

/-- The client and the user of an authentication can be told apart in its approval key. -/
def Separable (a : OAuth2Authentication) : Prop :=
  ∀ user ∈ a.userAuthentication, ∃ clientId ∈ a.oAuth2Request.clientId,
    ':' ∉ clientId.toList ∧ ':' ∉ user.getName.toList

/-- Removal looks the user index up under the name of the authentication, storing under the
approval key. -/
def NamedByKey (a : OAuth2Authentication) : Prop :=
  a.isClientOnly = true ∨ a.getName = getApprovalKey a

def Removable (s : InMemoryTokenStore) (v : String) : Prop :=
  ∀ a ∈ s.authenticationStore v, NamedByKey a

instance (a : OAuth2Authentication) : Decidable (Separable a) :=
  inferInstanceAs (Decidable (∀ user ∈ a.userAuthentication, ∃ clientId ∈ a.oAuth2Request.clientId,
    ':' ∉ clientId.toList ∧ ':' ∉ user.getName.toList))

instance : DecidablePred NamedByKey := fun a =>
  inferInstanceAs (Decidable (a.isClientOnly = true ∨ a.getName = getApprovalKey a))

instance (s : InMemoryTokenStore) (v : String) : Decidable (Removable s v) :=
  inferInstanceAs (Decidable (∀ a ∈ s.authenticationStore v, NamedByKey a))

variable (digest : String → String)

/-- The primary index, the authentications and the secondary indexes belong together. -/
structure Consistent (s : InMemoryTokenStore) : Prop where
  value_eq : ∀ v t, s.accessTokenStore v = some t → t.value = v
  authenticated : ∀ v, s.accessTokenStore v = none ↔ s.authenticationStore v = none
  users : Index.Agrees OAuth2AccessToken.value s.accessTokenStore (keyed userKey s)
    s.userNameToAccessTokenStore
  clients : Index.Agrees OAuth2AccessToken.value s.accessTokenStore (keyed clientKey s)
    s.clientIdToAccessTokenStore
  separable : ∀ v, ∀ a ∈ s.authenticationStore v, Separable a
  mapped : ∀ k t, s.authenticationToAccessTokenStore k = some t →
    s.accessTokenStore t.value = some t ∧
      ∃ a, s.authenticationStore t.value = some a ∧ extractKey digest a = k

/-- The value of the token is new, or it is stored again with the keys that it has. -/
def Storable (s : InMemoryTokenStore) (t : OAuth2AccessToken) (a : OAuth2Authentication) : Prop :=
  s.accessTokenStore t.value = none ∨ s.accessTokenStore t.value = some t ∧
    ∀ b ∈ s.authenticationStore t.value, userKey b = userKey a ∧ clientKey b = clientKey a ∧
      extractKey digest b = extractKey digest a

/-- Nothing is stored that was not stored before. -/
structure Fewer (t s : InMemoryTokenStore) : Prop where
  token : ∀ v, t.accessTokenStore v = none ∨ t.accessTokenStore v = s.accessTokenStore v
  authentication : ∀ v,
    t.authenticationStore v = none ∨ t.authenticationStore v = s.authenticationStore v

/-- What decides when the next flush comes and what it takes. -/
def timer (s : InMemoryTokenStore) : List TokenExpiry × ℤ × ℤ :=
  (s.expiryQueue, s.flushInterval, s.flushCounter)

/-- What the next insertion flushes can be removed. -/
def Flushable (s : InMemoryTokenStore) (now : ℕ) : Prop :=
  s.flushInterval ≤ s.flushCounter + 1 →
    ∀ e ∈ s.expiryQueue, e.expiry ≤ now → Removable s e.value

instance (s : InMemoryTokenStore) (now : ℕ) : Decidable (Flushable s now) :=
  inferInstanceAs (Decidable (s.flushInterval ≤ s.flushCounter + 1 →
    ∀ e ∈ s.expiryQueue, e.expiry ≤ now → Removable s e.value))

variable {digest} {s t u : InMemoryTokenStore} {v : String} {a : OAuth2Authentication}
  {token : OAuth2AccessToken} {now : ℕ}

theorem fewer_refl (s : InMemoryTokenStore) : Fewer s s := ⟨fun _ => .inr rfl, fun _ => .inr rfl⟩

theorem Fewer.trans (h : Fewer u t) (h' : Fewer t s) : Fewer u s := by
  constructor
  · intro v
    rcases h.token v with hnone | hsame
    · exact .inl hnone
    · rw [hsame]
      exact h'.token v
  · intro v
    rcases h.authentication v with hnone | hsame
    · exact .inl hnone
    · rw [hsame]
      exact h'.authentication v

theorem Fewer.mem (h : Fewer t s) (ha : a ∈ t.authenticationStore v) :
    a ∈ s.authenticationStore v := by
  rcases h.authentication v with hnone | hsame
  · rw [hnone] at ha
    cases ha
  · rwa [hsame] at ha

theorem Fewer.removable (h : Fewer t s) (hs : Removable s v) : Removable t v :=
  fun a ha => hs a (h.mem ha)

theorem Fewer.storable (h : Fewer t s) (hs : Storable digest s token a) :
    Storable digest t token a := by
  rcases h.token token.value with hnone | hsame
  · exact .inl hnone
  · rcases hs with hnew | ⟨hlive, hkeys⟩
    · exact .inl (hsame.trans hnew)
    · exact .inr ⟨hsame.trans hlive, fun b hb => hkeys b (h.mem hb)⟩

theorem keyed_update {f : OAuth2Authentication → Option String} {o : Option OAuth2Authentication}
    (h : t.authenticationStore = update s.authenticationStore v o) :
    keyed f t = update (keyed f s) v (o.bind f) := by
  funext w
  unfold keyed
  rw [h]
  exact Function.apply_update (fun _ o => o.bind f) s.authenticationStore v o w

section Tables

variable {ν κ : Type} {table : String → Option ν} {row : Option ν} {key w : String}

/-- What holds of the rows of a table holds after one is replaced, where it holds of the new one. -/
theorem forall_rows_update {P : String → ν → Prop} (hrow : ∀ x ∈ row, P key x)
    (htable : ∀ w x, w ≠ key → table w = some x → P w x) :
    ∀ w x, update table key row w = some x → P w x := by
  apply (Function.forall_update_iff table fun w row => ∀ x, row = some x → P w x).mpr
  exact ⟨hrow, fun w hw x hx => htable w x hw hx⟩

/-- What holds of the rows of a table holds after one is taken out. -/
theorem forall_rows_remove {P : String → ν → Prop}
    (htable : ∀ w x, w ≠ key → table w = some x → P w x) :
    ∀ w x, update table key none w = some x → P w x := by
  apply forall_rows_update
  · intro x hx
    cases hx
  · exact htable

/-- Two tables with rows under the same keys still have them so after both are updated alike. -/
theorem none_iff_update {other : String → Option κ} {row' : Option κ}
    (hrow : row = none ↔ row' = none) (htable : ∀ w, table w = none ↔ other w = none) (w : String) :
    update table key row w = none ↔ update other key row' w = none := by
  by_cases hw : w = key
  · rw [hw, Function.update_self, Function.update_self]
    exact hrow
  · rw [Function.update_of_ne hw, Function.update_of_ne hw]
    exact htable w

/-- A row is removed, or it stays as it was. -/
theorem update_none_or (table : String → Option ν) (key w : String) :
    update table key none w = none ∨ update table key none w = table w := by
  by_cases hw : w = key
  · rw [hw, Function.update_self]
    exact .inl rfl
  · exact .inr (Function.update_of_ne hw _ _)

end Tables

theorem consistent_empty (digest : String → String) (flushInterval : ℤ) :
    Consistent digest { flushInterval := flushInterval } where
  value_eq _ _ h := by cases h
  authenticated _ := iff_of_true rfl rfl
  users := Index.agrees_empty _ _
  clients := Index.agrees_empty _ _
  separable _ _ h := by cases h
  mapped _ _ h := by cases h

/-- The token under a value that has an authentication. -/
theorem Consistent.token_of_authentication (h : Consistent digest s)
    (ha : s.authenticationStore v = some a) :
    ∃ token, s.accessTokenStore v = some token ∧ token.value = v := by
  cases htoken : s.accessTokenStore v with
  | none =>
    have hnone := (h.authenticated v).mp htoken
    rw [ha] at hnone
    cases hnone
  | some token => exact ⟨token, rfl, h.value_eq v token htoken⟩

/-! ### Removal -/

/-- A value without authentication has nothing to take out. -/
theorem Consistent.drop (h : Consistent digest s) (hnone : s.authenticationStore v = none) :
    Consistent digest (dropToken v s) := by
  have htoken := (h.authenticated v).mpr hnone
  have hprimary : (dropToken v s).accessTokenStore = s.accessTokenStore := by
    rw [dropToken, ← htoken, Function.update_eq_self]
  have hauth : (dropToken v s).authenticationStore = s.authenticationStore := by
    rw [dropToken, ← hnone, Function.update_eq_self]
  have hkeyed : ∀ f, keyed f (dropToken v s) = keyed f s := by
    intro f
    unfold keyed
    rw [hauth]
  constructor
  · rw [hprimary]
    exact h.value_eq
  · rw [hprimary, hauth]
    exact h.authenticated
  · rw [hprimary, hkeyed]
    exact h.users
  · rw [hprimary, hkeyed]
    exact h.clients
  · rw [hauth]
    exact h.separable
  · rw [hprimary, hauth]
    exact h.mapped

/-- A token that leaves the primary index, its authentication and both secondary indexes
under the keys of that authentication. -/
theorem Consistent.removed (h : Consistent digest s) (ha : s.authenticationStore v = some a)
    (hname : NamedByKey a) (htokens : t.accessTokenStore = update s.accessTokenStore v none)
    (hauths : t.authenticationStore = update s.authenticationStore v none)
    (hmap : t.authenticationToAccessTokenStore =
      update s.authenticationToAccessTokenStore (extractKey digest a) none)
    (husers : t.userNameToAccessTokenStore =
      removeFromCollection a.getName (s.accessTokenStore v) s.userNameToAccessTokenStore)
    (hclients : Index.Agrees OAuth2AccessToken.value t.accessTokenStore (keyed clientKey t)
      t.clientIdToAccessTokenStore) : Consistent digest t := by
  obtain ⟨token, htoken, hvalue⟩ := h.token_of_authentication ha
  constructor
  · rw [htokens]
    exact forall_rows_remove fun w x _ hx => h.value_eq w x hx
  · rw [htokens, hauths]
    exact none_iff_update (iff_of_true rfl rfl) h.authenticated
  · rw [husers, htokens, keyed_update hauths, htoken, removeFromCollection, hvalue]
    refine h.users.remove fun k' hk' => ?_
    rw [keyed, ha, Option.bind_some, userKey] at hk'
    split at hk'
    · cases hk'
    · rename_i huser
      exact (Option.some.inj hk').symm.trans (hname.resolve_left huser).symm
  · exact hclients
  · rw [hauths]
    exact forall_rows_remove fun w b _ hb => h.separable w b hb
  · rw [hmap]
    apply forall_rows_remove
    intro k x hk hx
    obtain ⟨hlive, b, hb, hkey⟩ := h.mapped k x hx
    have hne : x.value ≠ v := by
      intro heq
      rw [heq, ha] at hb
      rw [Option.some.inj hb] at hk
      exact hk hkey.symm
    rw [htokens, hauths, Function.update_of_ne hne, Function.update_of_ne hne]
    exact ⟨hlive, b, hb, hkey⟩

theorem Consistent.unindexUser (h : Consistent digest s) (ha : s.authenticationStore v = some a)
    (hname : NamedByKey a) (hclient : a.oAuth2Request.clientId = none) :
    Consistent digest (unindexUser digest a (s.accessTokenStore v) (dropToken v s)) := by
  refine h.removed ha hname rfl rfl rfl rfl ?_
  rw [keyed_update (s := s) (v := v) (o := none) rfl]
  refine h.clients.remove_keyless ?_
  rw [keyed, ha]
  exact hclient

theorem Consistent.unindexClient {clientId : String} (h : Consistent digest s)
    (ha : s.authenticationStore v = some a) (hname : NamedByKey a)
    (hclient : a.oAuth2Request.clientId = some clientId) :
    Consistent digest (unindexClient digest a (s.accessTokenStore v) clientId
      (InMemoryTokenStore.unindexUser digest a (s.accessTokenStore v) (dropToken v s))) := by
  refine h.removed ha hname rfl rfl (Function.update_idem _ _ _) rfl ?_
  obtain ⟨token, htoken, hvalue⟩ := h.token_of_authentication ha
  rw [keyed_update (s := s) (v := v) (o := none) rfl]
  have hagrees : Index.Agrees OAuth2AccessToken.value (update s.accessTokenStore v none)
      (update (keyed clientKey s) v none)
      (removeFromCollection clientId (s.accessTokenStore v) s.clientIdToAccessTokenStore) := by
    rw [htoken, removeFromCollection, hvalue]
    refine h.clients.remove fun k' hk' => ?_
    rw [keyed, ha] at hk'
    exact Option.some.inj (hk'.symm.trans hclient)
  exact hagrees

/-- A state of the run that began in `s`, with nothing new in it. -/
def Within (digest : String → String) (s t : InMemoryTokenStore) : Prop :=
  Consistent digest t ∧ Fewer t s

/-- A state between `s` and the next insertion. -/
def Pruned (digest : String → String) (s t : InMemoryTokenStore) : Prop :=
  Within digest s t ∧ timer t = timer s

theorem Consistent.pruned (h : Consistent digest s) : Pruned digest s s := ⟨⟨h, fewer_refl s⟩, rfl⟩

theorem Pruned.consistent (h : Pruned digest s t) : Consistent digest t := h.1.1

theorem fewer_of_update (htokens : t.accessTokenStore = update s.accessTokenStore v none)
    (hauths : t.authenticationStore = update s.authenticationStore v none) : Fewer t s := by
  constructor
  · intro w
    rw [htokens]
    exact update_none_or _ v w
  · intro w
    rw [hauths]
    exact update_none_or _ v w

theorem triple_unindex (ht : Consistent digest t) (hfew : Fewer t s)
    (ha : t.authenticationStore v = some a) (hname : NamedByKey a) :
    Triple (fun u => u = dropToken v t) (unindex digest a (t.accessTokenStore v))
      (fun _ => Within digest s) (Consistent digest) := by
  have hdrop : Fewer (dropToken v t) s := (fewer_of_update rfl rfl).trans hfew
  refine triple_bind (M := fun _ u => u = unindexUser digest a (t.accessTokenStore v)
    (dropToken v t)) (triple_modify fun u hu => by rw [hu]) fun _ => ?_
  refine triple_bind (M := fun clientId u => a.oAuth2Request.clientId = some clientId ∧
    u = unindexUser digest a (t.accessTokenStore v) (dropToken v t)) ?_ fun clientId => ?_
  · refine triple_orThrow (fun clientId hclient u hu => ⟨hclient, hu⟩) fun hclient u hu => ?_
    rw [hu]
    exact ht.unindexUser ha hname hclient
  · refine triple_modify fun u hu => ?_
    rw [hu.2]
    exact ⟨ht.unindexClient ha hname hu.1, hdrop.token, hdrop.authentication⟩

theorem triple_removeAccessToken (hv : Removable s v) :
    Triple (Within digest s) (removeAccessToken digest v) (fun _ => Within digest s)
      (Consistent digest) := by
  intro t ⟨ht, hfew⟩
  unfold removeAccessToken
  rw [bind_of_ok (get_apply t), bind_of_ok (modify_apply _ t)]
  cases ha : t.authenticationStore v with
  | none => exact ⟨ht.drop ha, (fewer_of_update rfl rfl).trans hfew⟩
  | some a => exact triple_unindex ht hfew ha (hfew.removable hv a ha) _ rfl

theorem leaves_timer_removeAccessToken (v : String) :
    Leaves timer (removeAccessToken digest v) := by
  refine leaves_bind leaves_get fun s => leaves_bind (leaves_modify fun _ => rfl) fun _ => ?_
  split
  · exact leaves_pure ()
  · refine leaves_bind (leaves_modify fun _ => rfl) fun _ => ?_
    exact leaves_bind (leaves_orThrow _ _) fun _ => leaves_modify fun _ => rfl

theorem triple_prune (hv : Removable s v) :
    Triple (Pruned digest s) (removeAccessToken digest v) (fun _ => Pruned digest s)
      (Consistent digest) :=
  triple_frame (triple_removeAccessToken hv) (leaves_timer_removeAccessToken v)

/-- What a state says about its tokens does not depend on its clocks and refresh maps. -/
theorem Consistent.congr (h : Consistent digest s) (htokens : t.accessTokenStore = s.accessTokenStore)
    (hauths : t.authenticationStore = s.authenticationStore)
    (hmap : t.authenticationToAccessTokenStore = s.authenticationToAccessTokenStore)
    (husers : t.userNameToAccessTokenStore = s.userNameToAccessTokenStore)
    (hclients : t.clientIdToAccessTokenStore = s.clientIdToAccessTokenStore) :
    Consistent digest t := by
  have hkeyed : ∀ f, keyed f t = keyed f s := by
    intro f
    unfold keyed
    rw [hauths]
  constructor
  · rw [htokens]
    exact h.value_eq
  · rw [htokens, hauths]
    exact h.authenticated
  · rw [htokens, hkeyed, husers]
    exact h.users
  · rw [htokens, hkeyed, hclients]
    exact h.clients
  · rw [hauths]
    exact h.separable
  · rw [htokens, hauths, hmap]
    exact h.mapped

/-! ### Insertion -/

/-- The induction is on the queue: what has been polled no longer bears on the rest. -/
theorem triple_poll (queue : List TokenExpiry)
    (h : ∀ e ∈ queue, e.expiry ≤ now → Removable s e.value) :
    Triple (Within digest s) (poll digest now queue) (fun _ => Within digest s)
      (Consistent digest) := by
  induction queue with
  | nil => exact triple_pure fun _ ht => ht
  | cons first rest ih =>
    refine triple_onlyIf (fun hdue => ?_) fun _ _ ht => ht
    have hfirst := h first List.mem_cons_self hdue
    have hrest := ih fun e he => h e (List.mem_cons_of_mem first he)
    refine triple_bind (M := fun _ => Within digest s) (triple_modify fun t ht => ?_) fun _ => ?_
    · exact ⟨ht.1.congr rfl rfl rfl rfl rfl, ht.2.token, ht.2.authentication⟩
    · exact triple_bind (triple_removeAccessToken hfirst) fun _ => hrest

theorem triple_flush (h : ∀ e ∈ s.expiryQueue, e.expiry ≤ now → Removable s e.value) :
    Triple (fun t => Within digest s t ∧ t.expiryQueue = s.expiryQueue) (flush digest now)
      (fun _ => Within digest s) (Consistent digest) := by
  intro t ⟨ht, hqueue⟩
  unfold flush
  rw [bind_of_ok (get_apply t), hqueue]
  exact triple_poll s.expiryQueue h t ht

theorem triple_countInsert (hflush : Flushable s now) :
    Triple (Pruned digest s) (countInsert digest now)
      (fun _ => Within digest s) (Consistent digest) := by
  intro t ⟨⟨ht, hfew⟩, htimer⟩
  obtain ⟨hqueue, htimer⟩ := Prod.mk.inj htimer
  obtain ⟨hinterval, hcounter⟩ := Prod.mk.inj htimer
  let counted : InMemoryTokenStore := { t with flushCounter := t.flushCounter + 1 }
  have hcounted : Within digest s counted :=
    ⟨ht.congr rfl rfl rfl rfl rfl, hfew.token, hfew.authentication⟩
  unfold countInsert
  rw [bind_of_ok (modify_apply _ t), bind_of_ok (get_apply _)]
  have hreset : Triple (fun u => Within digest s u ∧ u.expiryQueue = s.expiryQueue)
      (onlyIf (counted.flushInterval ≤ counted.flushCounter) (do
        flush digest now
        modify fun s => { s with flushCounter := 0 })) (fun _ => Within digest s)
      (Consistent digest) := by
    refine triple_onlyIf (fun hreached => ?_) fun _ u hu => hu.1
    have hdue : s.flushInterval ≤ s.flushCounter + 1 := by
      rw [← hinterval, ← hcounter]
      exact hreached
    refine triple_bind (triple_flush (hflush hdue)) fun _ => triple_modify fun u hu => ?_
    exact ⟨hu.1.congr rfl rfl rfl rfl rfl, hu.2.token, hu.2.authentication⟩
  exact hreset counted ⟨hcounted, hqueue⟩

/-- Files a token under the key that its authentication has, if it has one. -/
def filed (key : Option String) (token : OAuth2AccessToken)
    (index : String → Option (List OAuth2AccessToken)) : String → Option (List OAuth2AccessToken) :=
  match key with
  | none => index
  | some key => addToCollection key token index

theorem agrees_filed {f : OAuth2Authentication → Option String}
    {index : String → Option (List OAuth2AccessToken)} (hs : Consistent digest s)
    (h : Index.Agrees OAuth2AccessToken.value s.accessTokenStore (keyed f s) index)
    (hstore : s.accessTokenStore token.value = none ∨ s.accessTokenStore token.value = some token ∧
      ∀ b ∈ s.authenticationStore token.value, f b = f a) :
    Index.Agrees OAuth2AccessToken.value (update s.accessTokenStore token.value (some token))
      (update (keyed f s) token.value (f a)) (filed (f a) token index) := by
  have hkey : s.accessTokenStore token.value = none ∨
      s.accessTokenStore token.value = some token ∧ keyed f s token.value = f a := by
    refine hstore.imp_right fun ⟨hlive, hsame⟩ => ⟨hlive, ?_⟩
    cases hb : s.authenticationStore token.value with
    | none =>
      have hnone := (hs.authenticated token.value).mpr hb
      rw [hlive] at hnone
      cases hnone
    | some b =>
      rw [keyed, hb]
      exact hsame b hb
  cases hf : f a with
  | none =>
    refine h.keyless (hkey.imp_right fun hboth => ?_)
    exact hboth.2.trans hf
  | some k =>
    rcases hkey with hnew | ⟨hlive, hsame⟩
    · exact h.add_fresh hnew k
    · exact h.add_again hlive (hsame.trans hf)

/-- Storing keeps all but the client index in order, and the client index as far as the
client has no id. -/
theorem Consistent.stored (h : Consistent digest s) (hstore : Storable digest s token a)
    (hsep : Separable a)
    (htokens : t.accessTokenStore = update s.accessTokenStore token.value (some token))
    (hauths : t.authenticationStore = update s.authenticationStore token.value (some a))
    (hmap : t.authenticationToAccessTokenStore =
      update s.authenticationToAccessTokenStore (extractKey digest a) (some token))
    (husers : t.userNameToAccessTokenStore =
      filed (userKey a) token s.userNameToAccessTokenStore)
    (hclients : t.clientIdToAccessTokenStore =
      filed (clientKey a) token s.clientIdToAccessTokenStore) : Consistent digest t := by
  constructor
  · rw [htokens]
    apply forall_rows_update
    · intro x hx
      rw [Option.some.inj hx]
    · exact fun w x _ hx => h.value_eq w x hx
  · rw [htokens, hauths]
    exact none_iff_update (iff_of_false nofun nofun) h.authenticated
  · rw [htokens, husers, keyed_update hauths]
    exact agrees_filed h h.users (hstore.imp_right fun hboth =>
      ⟨hboth.1, fun b hb => (hboth.2 b hb).1⟩)
  · rw [htokens, hclients, keyed_update hauths]
    exact agrees_filed h h.clients (hstore.imp_right fun hboth =>
      ⟨hboth.1, fun b hb => (hboth.2 b hb).2.1⟩)
  · rw [hauths]
    apply forall_rows_update
    · intro b hb
      rw [← Option.some.inj hb]
      exact hsep
    · exact fun w b _ hb => h.separable w b hb
  · rw [hmap, htokens, hauths]
    apply forall_rows_update
    · intro x hx
      rw [← Option.some.inj hx, Function.update_self, Function.update_self]
      exact ⟨rfl, a, rfl, rfl⟩
    intro k x hk hx
    obtain ⟨hlive, b, hb, hkey⟩ := h.mapped k x hx
    -- a token that is filed under another key cannot be the one that is replaced
    have hne : x.value ≠ token.value := by
      intro heq
      rw [heq] at hlive hb
      rcases hstore with hnew | ⟨-, hkeys⟩
      · rw [hnew] at hlive
        cases hlive
      · have hsame := (hkeys b hb).2.2
        exact hk (hkey.symm.trans hsame)
    rw [Function.update_of_ne hne, Function.update_of_ne hne]
    exact ⟨hlive, b, hb, hkey⟩

theorem filed_userKey (token : OAuth2AccessToken)
    (index : String → Option (List OAuth2AccessToken)) :
    filed (userKey a) token index =
      if a.isClientOnly then index else addToCollection (getApprovalKey a) token index := by
  unfold userKey
  split
  · rfl
  · rfl

theorem Consistent.putToken (h : Consistent digest s) (hstore : Storable digest s token a)
    (hsep : Separable a) (hclient : a.oAuth2Request.clientId = none) :
    Consistent digest (putToken digest token a s) := by
  refine h.stored hstore hsep rfl rfl rfl (filed_userKey _ _).symm ?_
  rw [clientKey, hclient]
  rfl

theorem Consistent.indexClient {clientId : String} (h : Consistent digest s)
    (hstore : Storable digest s token a) (hsep : Separable a)
    (hclient : a.oAuth2Request.clientId = some clientId) :
    Consistent digest (indexClient token clientId (InMemoryTokenStore.putToken digest token a s)) := by
  refine h.stored hstore hsep rfl rfl rfl (filed_userKey _ _).symm ?_
  rw [clientKey, hclient]
  rfl

theorem Consistent.putExpiry (h : Consistent digest s) (token : OAuth2AccessToken) :
    Consistent digest (putExpiry token s) := by
  unfold InMemoryTokenStore.putExpiry
  split
  · exact h
  · exact h.congr rfl rfl rfl rfl rfl

theorem Consistent.linkRefreshToken (h : Consistent digest s) (token : OAuth2AccessToken) :
    Consistent digest (linkRefreshToken token s) := by
  unfold InMemoryTokenStore.linkRefreshToken
  split
  · exact h
  · exact h.congr rfl rfl rfl rfl rfl

theorem triple_storeAccessToken (hflush : Flushable s now) (hstore : Storable digest s token a)
    (hsep : Separable a) :
    Triple (Pruned digest s) (storeAccessToken digest now token a)
      (fun _ => Consistent digest) (Consistent digest) := by
  refine triple_bind (triple_countInsert hflush) fun _ => ?_
  refine triple_bind (M := fun _ u => ∃ t, Within digest s t ∧ u = putToken digest token a t)
    (triple_modify fun t ht => ⟨t, ht, rfl⟩) fun _ => ?_
  refine triple_bind (M := fun clientId u => a.oAuth2Request.clientId = some clientId ∧
    ∃ t, Within digest s t ∧ u = putToken digest token a t) ?_ fun clientId => ?_
  · refine triple_orThrow (fun clientId hclient u hu => ⟨hclient, hu⟩) fun hclient u hu => ?_
    obtain ⟨t, ⟨ht, hfew⟩, rfl⟩ := hu
    exact ht.putToken (hfew.storable hstore) hsep hclient
  refine triple_bind (M := fun _ => Consistent digest) (triple_modify fun u hu => ?_) fun _ => ?_
  · obtain ⟨hclient, t, ⟨ht, hfew⟩, rfl⟩ := hu
    exact ht.indexClient (hfew.storable hstore) hsep hclient
  refine triple_bind (M := fun _ => Consistent digest) (triple_modify fun u hu => ?_) fun _ => ?_
  · exact hu.putExpiry token
  · exact triple_modify fun u hu => hu.linkRefreshToken token

/-! ### Lookup -/

/-- A key leads to a token whose stored authentication has that very key, so a lookup stores
nothing. -/
theorem Consistent.getAccessToken (h : Consistent digest s) (now : ℕ) (a : OAuth2Authentication) :
    getAccessToken digest now a s =
      .ok (s.authenticationToAccessTokenStore (extractKey digest a)) s := by
  unfold InMemoryTokenStore.getAccessToken
  rw [bind_of_ok (get_apply s)]
  cases hfound : s.authenticationToAccessTokenStore (extractKey digest a) with
  | none => rfl
  | some token =>
    obtain ⟨-, b, hb, hkey⟩ := h.mapped _ token hfound
    simp only [hb, orThrow, pure_bind, hkey, onlyIf, ne_eq, not_true_eq_false, if_false, pure_apply]

/-- In an approval key whose parts hold no colon both parts can be read. -/
theorem approvalKey_inj {c d u n : String} (hc : ':' ∉ c.toList) (hu : ':' ∉ u.toList)
    (h : approvalKey c (some u) = approvalKey d (some n)) : c = d ∧ u = n := by
  have hchars := congrArg String.toList h
  simp only [approvalKey, String.toList_append] at hchars
  have hsplit : c.toList ++ ':' :: u.toList = d.toList ++ ':' :: n.toList := by
    simpa using hchars
  have hcount := congrArg (List.count ':') hsplit
  rw [List.count_append, List.count_append, List.count_cons_self, List.count_cons_self,
    List.count_eq_zero_of_not_mem hc, List.count_eq_zero_of_not_mem hu] at hcount
  have hd : ':' ∉ d.toList := List.count_eq_zero.mp (by omega)
  obtain ⟨hcd, hun⟩ := JavaText.append_sep_inj hc hd hsplit
  exact ⟨String.toList_injective hcd, String.toList_injective hun⟩

/-- The tokens of a client and a user, told from the primary index. -/
theorem Consistent.mem_findTokensByClientIdAndUserName (h : Consistent digest s) (c u : String)
    (token : OAuth2AccessToken) :
    token ∈ s.findTokensByClientIdAndUserName c (some u) ↔
      s.accessTokenStore token.value = some token ∧
        ∃ a, s.authenticationStore token.value = some a ∧ a.oAuth2Request.clientId = some c ∧
          ∃ user, a.userAuthentication = some user ∧ user.getName = u := by
  refine (h.users.mem (approvalKey c (some u)) token).trans (and_congr_right fun _ => ?_)
  unfold keyed
  constructor
  · intro hkey
    obtain ⟨a, ha, hkey⟩ := Option.bind_eq_some_iff.mp hkey
    unfold userKey at hkey
    split at hkey
    · cases hkey
    rename_i huser
    obtain ⟨user, huser⟩ : ∃ user, a.userAuthentication = some user := by
      cases hnone : a.userAuthentication with
      | none => exact absurd (by rw [OAuth2Authentication.isClientOnly, hnone]; rfl) huser
      | some user => exact ⟨user, rfl⟩
    obtain ⟨clientId, hclient, hfree, hname⟩ := h.separable token.value a ha user huser
    have hclient : a.oAuth2Request.clientId = some clientId := hclient
    have hkey := Option.some.inj hkey
    rw [getApprovalKey, hclient, huser] at hkey
    obtain ⟨hc, hu⟩ := approvalKey_inj hfree hname hkey
    exact ⟨a, ha, hclient.trans (congrArg some hc), user, huser, hu⟩
  · rintro ⟨a, ha, hclient, user, huser, hname⟩
    rw [ha, Option.bind_some, userKey, OAuth2Authentication.isClientOnly, huser, getApprovalKey,
      hclient, huser, ← hname]
    rfl

theorem Consistent.mem_findTokensByClientId (h : Consistent digest s) (c : String)
    (token : OAuth2AccessToken) :
    token ∈ s.findTokensByClientId c ↔
      s.accessTokenStore token.value = some token ∧
        ∃ a, s.authenticationStore token.value = some a ∧ a.oAuth2Request.clientId = some c :=
  (h.clients.mem c token).trans (and_congr_right fun _ => Option.bind_eq_some_iff)

end MaxKey.OAuth2.InMemoryTokenStore
