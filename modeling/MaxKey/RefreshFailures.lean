import MaxKey.TokenInvariants

namespace MaxKey.OAuth2
open JavaException Effects InMemoryTokenStore

namespace DefaultTokenServices

variable (digest : String → String) (services : DefaultTokenServices)

/-- The token is accepted where it is presented. -/
def Usable (now : ℕ) (s : InMemoryTokenStore) (v : String) : Prop :=
  ∃ a, outcome (services.loadAuthentication digest now v) s = .ok a

/-- The refresh token is stored with its authentication, and has not expired. -/
def Refreshable (now : ℕ) (s : InMemoryTokenStore) (r : String) : Prop :=
  (∃ x, s.refreshTokenStore r = some x ∧ x.isExpired now = false) ∧
    s.refreshTokenAuthenticationStore r ≠ none

/-- What was valid is still valid. -/
structure Retains (now : ℕ) (s t : InMemoryTokenStore) : Prop where
  access : ∀ v, Usable digest services now s v → Usable digest services now t v
  refresh : ∀ r, Refreshable now s r → Refreshable now t r

/-- A refresh that throws takes no valid token away. -/
def Forgiving (m : Moment) (value : String) (request : TokenRequest) (s : InMemoryTokenStore) :
    Prop :=
  ∀ e t, refreshAccessToken digest services m value request s = .error e t →
    Retains digest services m.now s t

/-- Tokens are found under their own values. -/
structure FiledByValue (s : InMemoryTokenStore) : Prop where
  access : ∀ v t, s.accessTokenStore v = some t → t.value = v
  refresh : ∀ r x, s.refreshTokenStore r = some x → x.value = r

/-- The client index is asked for a null key when the token is removed. -/
def Clientless (s : InMemoryTokenStore) (v : String) : Prop :=
  ∃ a ∈ s.authenticationStore v, a.oAuth2Request.clientId = none

instance (s : InMemoryTokenStore) : DecidablePred (Clientless s) := fun _ =>
  inferInstanceAs (Decidable (∃ _ ∈ _, _))

/-- The tokens that a flush takes: those due, up to the first whose removal fails. -/
def taken (now : ℕ) (s : InMemoryTokenStore) : List TokenExpiry → List String
  | [] => []
  | first :: rest =>
    if now < first.expiry then []
    else if Clientless s first.value then [first.value]
    else first.value :: taken now s rest

/-- A flush is due, and one of the tokens that it takes cannot be removed. -/
def FlushFails (now : ℕ) (s : InMemoryTokenStore) : Prop :=
  s.flushInterval ≤ s.flushCounter + 1 ∧ ∃ v ∈ taken now s s.expiryQueue, Clientless s v

variable (m : Moment) (request : TokenRequest) (s : InMemoryTokenStore)

/-- The refresh token that goes on: the old one, or a new one in its place. -/
def continued (a : OAuth2Authentication) (x : OAuth2RefreshToken) :
    Except JavaException (Option OAuth2RefreshToken) :=
  if services.reuseRefreshToken then .ok (some x) else services.createRefreshToken m a.oAuth2Request

/-- The refresh token that was found and its authentication get past every check. -/
def Admitted (found : OAuth2RefreshToken × OAuth2Authentication) (a : OAuth2Authentication) : Prop :=
  (∀ v ∈ s.refreshTokenToAccessTokenStore found.1.value, ¬Clientless s v) ∧
    found.1.isExpired m.now = false ∧ createRefreshedAuthentication found.2 request = .ok a

/-- A new token is made and stored. -/
def Reissues (a : OAuth2Authentication) (x : OAuth2RefreshToken) : Prop :=
  ∃ next token, services.continued m a x = .ok next ∧ services.newAccessToken m a next = .ok token ∧
    ¬FlushFails m.now s ∧ (services.reuseRefreshToken = false → next ≠ none)

/-- The failing refresh takes away what is not valid anyway: the access token bound to the refresh
token and, where the refresh token is kept, what the flush takes. -/
structure Harmless (found : OAuth2RefreshToken × OAuth2Authentication) : Prop where
  linked : ∀ v ∈ s.refreshTokenToAccessTokenStore found.1.value,
    ¬Usable digest services m.now s v
  late : ∀ a, Admitted m request s found a → services.reuseRefreshToken = true ∧
    ∀ token, services.newAccessToken m a (some found.1) = .ok token → FlushFails m.now s →
      ∀ v ∈ taken m.now s s.expiryQueue, ¬Usable digest services m.now s v

/-- The refresh token is refused at once, or the refresh goes through, or it fails harmlessly. -/
def Bearable (value : String) : Prop :=
  WhenOk (services.readForRefresh s value request) fun found =>
    (∃ a, Admitted m request s found a ∧ Reissues services m s a found.1) ∨
      Harmless digest services m request s found

variable {digest} {services} {m} {request} {s} {t u : InMemoryTokenStore} {v w : String}
  {vs ws : List String}

section Losses

theorem ite_or_none {α : Type} {v : String} {o : Option α} :
    (if v ∈ ws then none else if v ∈ vs then none else o) = if v ∈ vs ++ ws then none else o := by
  by_cases hvs : v ∈ vs
  · simp [hvs]
  · simp [hvs]

/-- Access tokens have gone, with their authentications; refresh tokens are as they were. -/
structure Loses (vs : List String) (s t : InMemoryTokenStore) : Prop where
  token : ∀ v, t.accessTokenStore v = if v ∈ vs then none else s.accessTokenStore v
  authentication : ∀ v, t.authenticationStore v = if v ∈ vs then none else s.authenticationStore v
  refreshToken : t.refreshTokenStore = s.refreshTokenStore
  refreshAuthentication : t.refreshTokenAuthenticationStore = s.refreshTokenAuthenticationStore

theorem Loses.refl (s : InMemoryTokenStore) : Loses [] s s := by
  refine ⟨?_, ?_, rfl, rfl⟩
  · simp
  · simp

theorem Loses.trans (h : Loses vs s t) (h' : Loses ws t u) : Loses (vs ++ ws) s u := by
  refine ⟨?_, ?_, h'.refreshToken.trans h.refreshToken,
    h'.refreshAuthentication.trans h.refreshAuthentication⟩
  · intro v
    rw [h'.token, h.token, ite_or_none]
  · intro v
    rw [h'.authentication, h.authentication, ite_or_none]

theorem clientless_of_loses (h : Loses vs s t) (hvs : ∀ v ∈ vs, ¬Clientless s v) :
    Clientless t v ↔ Clientless s v := by
  unfold Clientless
  rw [h.authentication]
  split_ifs with hv
  · exact iff_of_false (fun ⟨_, ha, _⟩ => nomatch ha) (hvs v hv)
  · exact Iff.rfl

theorem taken_congr {now : ℕ} (h : ∀ v, Clientless t v ↔ Clientless s v)
    (queue : List TokenExpiry) : taken now t queue = taken now s queue := by
  induction queue with
  | nil => rfl
  | cons first rest ih => simp only [taken, h first.value, ih]

theorem loses_of_drop (htoken : t.accessTokenStore = (dropToken v s).accessTokenStore)
    (hauth : t.authenticationStore = (dropToken v s).authenticationStore)
    (hrefresh : t.refreshTokenStore = s.refreshTokenStore)
    (hrefreshAuth : t.refreshTokenAuthenticationStore = s.refreshTokenAuthenticationStore) :
    Loses [v] s t := by
  refine ⟨?_, ?_, hrefresh, hrefreshAuth⟩
  · intro w
    rw [htoken]
    simp [dropToken, Function.update_apply]
  · intro w
    rw [hauth]
    simp [dropToken, Function.update_apply]

/-- A removal fails for want of a client when most of it is done. -/
theorem removeAccessToken_run (digest : String → String) (v : String) (s : InMemoryTokenStore) :
    ∃ t, Loses [v] s t ∧ t.timer = s.timer ∧ removeAccessToken digest v s =
      if Clientless s v then .error nullPointer t else .ok () t := by
  unfold removeAccessToken
  rw [bind_of_ok (get_apply s), bind_of_ok (modify_apply _ s)]
  cases ha : s.authenticationStore v with
  | none =>
    have hclient : ¬Clientless s v := by
      rintro ⟨a, hmem, -⟩
      rw [ha] at hmem
      cases hmem
    exact ⟨dropToken v s, loses_of_drop rfl rfl rfl rfl, rfl, (if_neg hclient).symm⟩
  | some a =>
    let t := unindexUser digest a (s.accessTokenStore v) (dropToken v s)
    have hindex : (modify (unindexUser digest a (s.accessTokenStore v)) : StoreM Unit)
        (dropToken v s) = .ok () t := rfl
    have hclient : Clientless s v ↔ a.oAuth2Request.clientId = none := by
      constructor
      · rintro ⟨b, hb, hnone⟩
        rw [Option.mem_def, ha] at hb
        rw [Option.some.inj hb]
        exact hnone
      · exact fun hnone => ⟨a, ha, hnone⟩
    cases hname : a.oAuth2Request.clientId with
    | none =>
      refine ⟨t, loses_of_drop rfl rfl rfl rfl, rfl, ?_⟩
      refine Eq.trans ?_ (if_pos (hclient.mpr hname)).symm
      exact (bind_of_ok hindex).trans (by rw [hname]; rfl)
    | some c =>
      have hnot : ¬Clientless s v := fun h => nomatch (hclient.mp h).symm.trans hname
      refine ⟨unindexClient digest a (s.accessTokenStore v) c t, loses_of_drop rfl rfl rfl rfl,
        rfl, ?_⟩
      refine Eq.trans ?_ (if_neg hnot).symm
      exact (bind_of_ok hindex).trans (by rw [hname]; rfl)

/-- What a poll takes, and whether it fails. The induction is on the queue: what has been taken
had a client, so the rest is taken as before. -/
theorem poll_run (digest : String → String) (now : ℕ) (queue : List TokenExpiry)
    (s : InMemoryTokenStore) : ∃ t, Loses (taken now s queue) s t ∧ poll digest now queue s =
      if ∃ v ∈ taken now s queue, Clientless s v then .error nullPointer t else .ok () t := by
  induction queue generalizing s with
  | nil => exact ⟨s, .refl s, (if_neg (by simp [taken])).symm⟩
  | cons first rest ih =>
    unfold poll
    by_cases hdue : first.expiry ≤ now
    · rw [onlyIf, if_pos hdue, bind_of_ok (modify_apply _ s)]
      let polled : InMemoryTokenStore := { s with expiryQueue := rest }
      obtain ⟨t, hloses, -, hrun⟩ := removeAccessToken_run digest first.value polled
      have hfirst : Loses [first.value] s t :=
        ⟨hloses.token, hloses.authentication, hloses.refreshToken, hloses.refreshAuthentication⟩
      have hsame : Clientless polled first.value ↔ Clientless s first.value := Iff.rfl
      by_cases hclient : Clientless s first.value
      · have htaken : taken now s (first :: rest) = [first.value] := by
          rw [taken, if_neg (Nat.not_lt.mpr hdue), if_pos hclient]
        rw [if_pos (hsame.mpr hclient)] at hrun
        rw [htaken, bind_of_error hrun]
        exact ⟨t, hfirst, (if_pos ⟨_, List.mem_singleton_self _, hclient⟩).symm⟩
      · have htaken : taken now s (first :: rest) = first.value :: taken now s rest := by
          rw [taken, if_neg (Nat.not_lt.mpr hdue), if_neg hclient]
        have hclients : ∀ w, Clientless t w ↔ Clientless s w := fun w =>
          clientless_of_loses hfirst fun v hv => List.mem_singleton.mp hv ▸ hclient
        rw [if_neg fun h => hclient (hsame.mp h)] at hrun
        obtain ⟨u, hrest, hpoll⟩ := ih t
        rw [taken_congr hclients] at hrest hpoll
        rw [htaken, bind_of_ok hrun, hpoll]
        refine ⟨u, hfirst.trans hrest, ?_⟩
        simp only [hclients, List.exists_mem_cons_iff, hclient, false_or]
    · -- nothing is due
      have htaken : taken now s (first :: rest) = [] := by
        rw [taken, if_pos (Nat.lt_of_not_le hdue)]
      rw [onlyIf, if_neg hdue, htaken]
      exact ⟨s, .refl s, (if_neg (by simp)).symm⟩

theorem countInsert_run (digest : String → String) (now : ℕ) (s : InMemoryTokenStore) :
    (FlushFails now s ∧ ∃ t, Loses (taken now s s.expiryQueue) s t ∧
      countInsert digest now s = .error nullPointer t) ∨
    ¬FlushFails now s ∧ ∃ t, t.refreshTokenStore = s.refreshTokenStore ∧
      countInsert digest now s = .ok () t := by
  let counted : InMemoryTokenStore := { s with flushCounter := s.flushCounter + 1 }
  let afterFlush : StoreM Unit := do
    flush digest now
    modify fun s => { s with flushCounter := 0 }
  have hcount : countInsert digest now s =
      onlyIf (s.flushInterval ≤ s.flushCounter + 1) afterFlush counted := rfl
  by_cases hdue : s.flushInterval ≤ s.flushCounter + 1
  · rw [hcount, onlyIf, if_pos hdue]
    obtain ⟨t, hloses, hpoll⟩ := poll_run digest now s.expiryQueue counted
    have htaken : taken now counted s.expiryQueue = taken now s s.expiryQueue :=
      taken_congr (s := s) (t := counted) (fun _ => Iff.rfl) s.expiryQueue
    have hlost : Loses (taken now s s.expiryQueue) s t := by
      rw [← htaken]
      exact ⟨hloses.token, hloses.authentication, hloses.refreshToken,
        hloses.refreshAuthentication⟩
    rw [htaken] at hpoll
    have hflush : flush digest now counted = poll digest now s.expiryQueue counted := rfl
    by_cases hclient : ∃ v ∈ taken now s s.expiryQueue, Clientless s v
    · refine .inl ⟨⟨hdue, hclient⟩, t, hlost, ?_⟩
      exact bind_of_error (hflush.trans (hpoll.trans (if_pos hclient)))
    · refine .inr ⟨fun h => hclient h.2, { t with flushCounter := 0 }, hlost.refreshToken, ?_⟩
      exact bind_of_ok (hflush.trans (hpoll.trans (if_neg hclient)))
  · rw [hcount, onlyIf, if_neg hdue]
    exact .inr ⟨fun h => hdue h.1, counted, rfl, rfl⟩

variable {now : ℕ} {token : OAuth2AccessToken} {a : OAuth2Authentication}

theorem storeAccessToken_of_fails (digest : String → String) (token : OAuth2AccessToken)
    (a : OAuth2Authentication) (h : FlushFails now s) : ∃ t,
      Loses (taken now s s.expiryQueue) s t ∧
        storeAccessToken digest now token a s = .error nullPointer t := by
  rcases countInsert_run digest now s with ⟨-, t, hloses, hcount⟩ | ⟨hnot, -⟩
  · exact ⟨t, hloses, bind_of_error hcount⟩
  · exact absurd h hnot

theorem storeAccessToken_of_not_fails (digest : String → String) (token : OAuth2AccessToken)
    (hname : a.oAuth2Request.clientId ≠ none) (h : ¬FlushFails now s) : ∃ t,
      t.refreshTokenStore = s.refreshTokenStore ∧
        storeAccessToken digest now token a s = .ok () t := by
  rcases countInsert_run digest now s with ⟨hfails, -⟩ | ⟨-, t, hrefresh, hcount⟩
  · exact absurd hfails h
  · obtain ⟨c, hc⟩ := Option.ne_none_iff_exists'.mp hname
    let u := linkRefreshToken token (putExpiry token (indexClient token c (putToken digest token a t)))
    have hexpiry : ∀ x : InMemoryTokenStore, (putExpiry token x).refreshTokenStore =
        x.refreshTokenStore := by
      intro x
      unfold putExpiry
      cases token.expiration with
      | none => rfl
      | some e => rfl
    have hlink : ∀ x : InMemoryTokenStore, (linkRefreshToken token x).refreshTokenStore =
        x.refreshTokenStore := by
      intro x
      unfold linkRefreshToken
      cases token.refreshToken with
      | none => rfl
      | some y => rfl
    refine ⟨u, ?_, ?_⟩
    · rw [hlink, hexpiry]
      exact hrefresh
    · unfold storeAccessToken
      rw [bind_of_ok hcount, hc]
      rfl

/-- The tokens bound to a refresh token go first. -/
theorem removeUsing_run (digest : String → String) (r : String) (s : InMemoryTokenStore) :
    ∃ t, Loses (s.refreshTokenToAccessTokenStore r).toList s t ∧ t.timer = s.timer ∧
      removeAccessTokenUsingRefreshToken digest r s =
        if ∃ v ∈ s.refreshTokenToAccessTokenStore r, Clientless s v then .error nullPointer t
        else .ok () t := by
  let unlinked : InMemoryTokenStore := { s with
    refreshTokenToAccessTokenStore := Function.update s.refreshTokenToAccessTokenStore r none }
  unfold removeAccessTokenUsingRefreshToken
  rw [bind_of_ok (get_apply s), bind_of_ok (modify_apply _ s)]
  cases hlinked : s.refreshTokenToAccessTokenStore r with
  | none =>
    refine ⟨unlinked, ⟨?_, ?_, rfl, rfl⟩, rfl, (if_neg (by simp)).symm⟩
    · simp [unlinked]
    · simp [unlinked]
  | some v =>
    obtain ⟨t, hloses, htimer, hrun⟩ := removeAccessToken_run digest v unlinked
    refine ⟨t, ?_, htimer, ?_⟩
    · exact ⟨hloses.token, hloses.authentication, hloses.refreshToken,
        hloses.refreshAuthentication⟩
    · have hclient : (∃ w ∈ some v, Clientless s w) ↔ Clientless unlinked v := by
        simp only [Option.mem_def, Option.some.injEq, exists_eq_left']
        exact Iff.rfl
      simp only [hclient]
      exact hrun

end Losses

section Validity

variable {now : ℕ}

/-- An accepted token is stored, has not expired and has a registered client. -/
theorem usable_iff (h : FiledByValue s) : Usable digest services now s v ↔
    ∃ x, s.accessTokenStore v = some x ∧ x.isExpired now = false ∧
      ∃ a, s.authenticationStore v = some a ∧
        services.checkClient a.oAuth2Request.clientId = .ok () := by
  unfold Usable loadAuthentication outcome
  rw [bind_of_ok (get_apply s)]
  cases hstored : s.accessTokenStore v with
  | none =>
    refine iff_of_false ?_ ?_
    · rintro ⟨a, ha⟩
      cases ha
    · rintro ⟨x, hx, -⟩
      cases hx
  | some x =>
    rw [orThrow_some_bind, onlyIf, h.access v x hstored]
    cases hexpired : x.isExpired now with
    | true =>
      refine iff_of_false ?_ ?_
      · rintro ⟨a, ha⟩
        -- the token is removed, which may throw for its own reason, and then refused
        rw [if_pos rfl] at ha
        obtain ⟨t, -, -, hrun⟩ := removeAccessToken_run digest v s
        by_cases hclient : Clientless s v
        · rw [bind_of_error (bind_of_error (hrun.trans (if_pos hclient)))] at ha
          cases ha
        · have hthrow := bind_of_ok (hrun.trans (if_neg hclient))
            (f := fun _ => (throw (invalidToken ("Access token expired: " ++ v)) : StoreM Unit))
          rw [bind_of_error hthrow] at ha
          cases ha
      · rintro ⟨y, hy, hlive, -⟩
        rw [Option.some.inj hy] at hexpired
        rw [hexpired] at hlive
        cases hlive
    | false =>
      rw [if_neg Bool.false_ne_true, pure_bind]
      cases hauth : s.authenticationStore v with
      | none =>
        refine iff_of_false ?_ ?_
        · rintro ⟨a, ha⟩
          cases ha
        · rintro ⟨_, _, _, a, ha, _⟩
          cases ha
      | some a =>
        rw [orThrow_some_bind]
        cases hcheck : services.checkClient a.oAuth2Request.clientId with
        | error e =>
          refine iff_of_false ?_ ?_
          · rintro ⟨b, hb⟩
            cases hb
          · rintro ⟨_, _, _, b, hb, hok⟩
            rw [← Option.some.inj hb, hcheck] at hok
            cases hok
        | ok _ => exact iff_of_true ⟨a, rfl⟩ ⟨x, rfl, hexpired, a, rfl, hcheck⟩

theorem filedByValue_empty (flushInterval : ℤ) :
    FiledByValue { flushInterval := flushInterval } where
  access _ _ h := by cases h
  refresh _ _ h := by cases h

theorem filedByValue_of_loses (h : FiledByValue s) (hloses : Loses vs s t) : FiledByValue t where
  access v x hx := by
    rw [hloses.token] at hx
    split_ifs at hx
    exact h.access v x hx
  refresh r x hx := by
    rw [hloses.refreshToken] at hx
    exact h.refresh r x hx

/-- What is lost must not have been valid, and that is all. -/
theorem retains_iff_of_loses (h : FiledByValue s) (hloses : Loses vs s t) :
    Retains digest services now s t ↔ ∀ v ∈ vs, ¬Usable digest services now s v := by
  have ht := filedByValue_of_loses h hloses
  constructor
  · intro hretains v hv husable
    obtain ⟨x, hx, -⟩ := (usable_iff ht).mp (hretains.access v husable)
    rw [hloses.token, if_pos hv] at hx
    cases hx
  · intro hvs
    constructor
    · intro v husable
      have hnot : v ∉ vs := fun hv => hvs v hv husable
      rw [usable_iff ht, hloses.token, hloses.authentication, if_neg hnot, if_neg hnot]
      exact (usable_iff h).mp husable
    · intro r hr
      unfold Refreshable
      rw [hloses.refreshToken, hloses.refreshAuthentication]
      exact hr

theorem refreshable_removeRefreshToken {r r' : String} :
    Refreshable now (removeRefreshToken r t) r' ↔ r' ≠ r ∧ Refreshable now t r' := by
  unfold Refreshable removeRefreshToken
  by_cases h : r' = r
  · simp [h]
  · simp [h]

/-- An expired refresh token was not valid. -/
theorem retains_removeRefreshToken {x : OAuth2RefreshToken} (ht : FiledByValue t)
    (hx : s.refreshTokenStore x.value = some x) (hexpired : x.isExpired now = true) :
    Retains digest services now s (removeRefreshToken x.value t) ↔ Retains digest services now s t := by
  have hremoved : FiledByValue (removeRefreshToken x.value t) := by
    refine ⟨ht.access, ?_⟩
    intro r y hy
    simp only [removeRefreshToken, Function.update_apply] at hy
    split_ifs at hy
    exact ht.refresh r y hy
  have husable : ∀ v, Usable digest services now (removeRefreshToken x.value t) v ↔
      Usable digest services now t v := by
    intro v
    rw [usable_iff hremoved, usable_iff ht]
    exact Iff.rfl
  have hother : ∀ r, Refreshable now s r → r ≠ x.value := by
    rintro r ⟨⟨y, hy, hlive⟩, -⟩ heq
    rw [heq, hx] at hy
    rw [← Option.some.inj hy, hexpired] at hlive
    cases hlive
  constructor
  · intro h
    exact ⟨fun v hv => (husable v).mp (h.access v hv),
      fun r hr => (refreshable_removeRefreshToken.mp (h.refresh r hr)).2⟩
  · intro h
    exact ⟨fun v hv => (husable v).mpr (h.access v hv),
      fun r hr => refreshable_removeRefreshToken.mpr ⟨hother r hr, h.refresh r hr⟩⟩

/-- The writers file every token under its value. -/
theorem filedByValue_stable (digest : String → String) : Stable digest FiledByValue where
  remove v s hs := by
    obtain ⟨t, hloses, -, hrun⟩ := removeAccessToken_run digest v s
    have ht := filedByValue_of_loses hs hloses
    rw [hrun]
    by_cases hclient : Clientless s v
    · rw [if_pos hclient]
      exact ht
    · rw [if_neg hclient]
      exact ht
  clocks _ _ _ _ hs := ⟨hs.access, hs.refresh⟩
  link _ _ _ hs := ⟨hs.access, hs.refresh⟩
  put _ token a hs := by
    refine ⟨?_, hs.refresh⟩
    intro w x hx
    simp only [putToken, Function.update_apply] at hx
    split_ifs at hx with hw
    · rw [hw, Option.some.inj hx]
    · exact hs.access w x hx
  index _ _ _ hs := ⟨hs.access, hs.refresh⟩
  keep _ r a hs := by
    refine ⟨hs.access, ?_⟩
    intro w x hx
    simp only [storeRefreshToken, Function.update_apply] at hx
    split_ifs at hx with hw
    · rw [hw, Option.some.inj hx]
    · exact hs.refresh w x hx
  forget _ r hs := by
    refine ⟨hs.access, ?_⟩
    intro w x hx
    simp only [removeRefreshToken, Function.update_apply] at hx
    split_ifs at hx
    exact hs.refresh w x hx

/-- Whatever is called, tokens are filed under their values. -/
theorem filedByValue_run (digest : String → String) (services : DefaultTokenServices)
    (flushInterval : ℤ) (calls : List Call) :
    FiledByValue (Runs.exec (services.call digest) { flushInterval := flushInterval } calls) := by
  apply Runs.exec_induction
  · intro s c hs
    exact stable_call (filedByValue_stable digest) hs c
  · exact filedByValue_empty flushInterval

theorem flushFails_congr (h : ∀ v, Clientless t v ↔ Clientless s v) (htimer : t.timer = s.timer) :
    FlushFails now t ↔ FlushFails now s := by
  obtain ⟨hqueue, hclock⟩ := Prod.mk.inj htimer
  obtain ⟨hinterval, hcounter⟩ := Prod.mk.inj hclock
  unfold FlushFails
  rw [hqueue, hinterval, hcounter, taken_congr h]
  simp only [h]

end Validity

section Reissue

variable {a : OAuth2Authentication} {x : OAuth2RefreshToken} {token : OAuth2AccessToken}
  {e : JavaException}

theorem rotate_of_reuse (h : services.reuseRefreshToken = true) :
    services.rotate m a.oAuth2Request x = pure (some x) := by
  rw [rotate, if_pos h]

theorem reissue_of_no_token (h : services.reuseRefreshToken = true)
    (hnew : services.newAccessToken m a (some x) = .error e) :
    services.reissue digest m a x t = .error e t := by
  unfold reissue
  rw [rotate_of_reuse h, pure_bind, hnew]
  rfl

theorem reissue_of_fails (h : services.reuseRefreshToken = true)
    (hnew : services.newAccessToken m a (some x) = .ok token) (hfails : FlushFails m.now t) :
    ∃ u, Loses (taken m.now t t.expiryQueue) t u ∧
      services.reissue digest m a x t = .error nullPointer u := by
  obtain ⟨u, hloses, hstore⟩ := storeAccessToken_of_fails digest token a hfails
  refine ⟨u, hloses, ?_⟩
  unfold reissue
  rw [rotate_of_reuse h, pure_bind, hnew, orError_ok_bind]
  exact bind_of_error hstore

theorem reissue_of_reuse (h : services.reuseRefreshToken = true)
    (hname : a.oAuth2Request.clientId ≠ none)
    (hnew : services.newAccessToken m a (some x) = .ok token) (hfails : ¬FlushFails m.now t) :
    ∃ u, services.reissue digest m a x t = .ok token u := by
  obtain ⟨u, -, hstore⟩ := storeAccessToken_of_not_fails digest token hname hfails
  refine ⟨u, ?_⟩
  unfold reissue
  rw [rotate_of_reuse h, pure_bind, hnew, orError_ok_bind]
  have hkeep : ¬services.reuseRefreshToken = false := by
    rw [h]
    exact Bool.noConfusion
  exact (bind_of_ok hstore).trans (by rw [onlyIf, if_neg hkeep]; rfl)

theorem continued_of_rotation (h : services.reuseRefreshToken = false) :
    services.continued m a x = services.createRefreshToken m a.oAuth2Request := by
  apply if_neg
  rw [h]
  exact Bool.false_ne_true

/-- Where refresh tokens are replaced, the old one is removed before anything else is done. -/
theorem reissue_eq_of_rotation (h : services.reuseRefreshToken = false) :
    services.reissue digest m a x t =
      (orError (services.createRefreshToken m a.oAuth2Request) >>= fun next =>
        orError (services.newAccessToken m a next) >>= fun token =>
          storeAccessToken digest m.now token a >>= fun _ =>
            onlyIf (services.reuseRefreshToken = false) (orThrow nullPointer next >>= fun next =>
              modify (storeRefreshToken next a)) >>= fun _ => (pure token : StoreM _))
        (removeRefreshToken x.value t) := by
  have hnot : ¬services.reuseRefreshToken = true := by
    rw [h]
    exact Bool.false_ne_true
  unfold reissue
  rw [rotate, if_neg hnot, bind_assoc]
  rfl

/-- Where refresh tokens are replaced, a failure comes after the old one has gone. -/
theorem reissue_of_rotation (h : services.reuseRefreshToken = false)
    (hname : a.oAuth2Request.clientId ≠ none) :
    (Reissues services m t a x ∧ ∃ token u, services.reissue digest m a x t = .ok token u) ∨
      ¬Reissues services m t a x ∧ ∃ e u, services.reissue digest m a x t = .error e u ∧
        u.refreshTokenStore x.value = none := by
  let removed := removeRefreshToken x.value t
  have hgone : removed.refreshTokenStore x.value = none := Function.update_self _ _ _
  have hcontinued : services.continued m a x = services.createRefreshToken m a.oAuth2Request :=
    continued_of_rotation h
  have hfails : FlushFails m.now removed ↔ FlushFails m.now t :=
    flushFails_congr (fun _ => Iff.rfl) rfl
  -- each of the steps may throw, and the old refresh token is gone before the first of them
  rw [reissue_eq_of_rotation h]
  cases hnext : services.createRefreshToken m a.oAuth2Request with
  | error e =>
    refine .inr ⟨?_, e, removed, rfl, hgone⟩
    rintro ⟨next, token, hok, -⟩
    rw [hcontinued, hnext] at hok
    cases hok
  | ok next =>
    rw [orError_ok_bind]
    cases hnew : services.newAccessToken m a next with
    | error e =>
      refine .inr ⟨?_, e, removed, rfl, hgone⟩
      rintro ⟨next', token, hok, htoken, -⟩
      rw [hcontinued, hnext] at hok
      rw [← Except.ok.inj hok, hnew] at htoken
      cases htoken
    | ok token =>
      rw [orError_ok_bind]
      by_cases hflush : FlushFails m.now t
      · obtain ⟨u, hloses, hstore⟩ := storeAccessToken_of_fails digest token a (hfails.mpr hflush)
        refine .inr ⟨fun hre => ?_, nullPointer, u, bind_of_error hstore, ?_⟩
        · obtain ⟨_, _, _, _, hdue, _⟩ := hre
          exact hdue hflush
        · rw [hloses.refreshToken]
          exact hgone
      · obtain ⟨u, hrefresh, hstore⟩ := storeAccessToken_of_not_fails digest token hname
          fun hf => hflush (hfails.mp hf)
        rw [bind_of_ok hstore, onlyIf, if_pos h]
        cases next with
        | none =>
          -- refresh tokens are not supported, and there is nothing to record
          refine .inr ⟨?_, nullPointer, u, rfl, ?_⟩
          · rintro ⟨next', _, hok, -, -, hsome⟩
            rw [hcontinued, hnext] at hok
            exact hsome h (Except.ok.inj hok).symm
          · rw [hrefresh]
            exact hgone
        | some y =>
          refine .inl ⟨⟨some y, token, hcontinued.trans hnext, hnew, hflush, fun _ => ?_⟩, token, _, rfl⟩
          exact Option.some_ne_none y

end Reissue

section Stages

variable {value : String} {found : OAuth2RefreshToken × OAuth2Authentication}
  {a : OAuth2Authentication} {e : JavaException}

theorem forgiving_of_error
    (h : refreshAccessToken digest services m value request s = .error e t) :
    Forgiving digest services m value request s ↔ Retains digest services m.now s t := by
  unfold Forgiving
  rw [h]
  constructor
  · intro hall
    exact hall e t rfl
  · intro hretains e' t' heq
    cases heq
    exact hretains

theorem forgiving_of_ok {token : OAuth2AccessToken}
    (h : refreshAccessToken digest services m value request s = .ok token t) :
    Forgiving digest services m value request s := by
  intro e' t' herror
  rw [h] at herror
  cases herror

/-- Before a new token is made, only the token bound to the refresh token can be lost. -/
theorem harmless_of_not_admitted (h : ∀ a, ¬Admitted m request s found a) :
    Harmless digest services m request s found ↔
      ∀ v ∈ (s.refreshTokenToAccessTokenStore found.1.value).toList,
        ¬Usable digest services m.now s v := by
  constructor
  · intro hharmless v hv
    exact hharmless.linked v (Option.mem_toList.mp hv)
  · intro hlinked
    exact ⟨fun v hv => hlinked v (Option.mem_toList.mpr hv), fun a ha => absurd ha (h a)⟩

theorem not_admitted_of_expired (h : found.1.isExpired m.now = true) (a : OAuth2Authentication) :
    ¬Admitted m request s found a := by
  rintro ⟨-, hlive, -⟩
  rw [h] at hlive
  cases hlive

/-- What is lost by a failure on the way to a new token. -/
theorem harmless_of_admitted (h : Admitted m request s found a)
    (hreuse : services.reuseRefreshToken = true) :
    Harmless digest services m request s found ↔
      (∀ v ∈ s.refreshTokenToAccessTokenStore found.1.value,
        ¬Usable digest services m.now s v) ∧
      ∀ token, services.newAccessToken m a (some found.1) = .ok token → FlushFails m.now s →
        ∀ v ∈ taken m.now s s.expiryQueue, ¬Usable digest services m.now s v := by
  constructor
  · intro hharmless
    exact ⟨hharmless.linked, (hharmless.late a h).2⟩
  · intro hlost
    refine ⟨hlost.1, fun b hb => ⟨hreuse, ?_⟩⟩
    have hsame : a = b := Except.ok.inj (h.2.2.symm.trans hb.2.2)
    rw [← hsame]
    exact hlost.2

theorem reissues_of_reuse (hreuse : services.reuseRefreshToken = true) {x : OAuth2RefreshToken} :
    Reissues services m s a x ↔
      (∃ token, services.newAccessToken m a (some x) = .ok token) ∧ ¬FlushFails m.now s := by
  have hcontinued : services.continued m a x = .ok (some x) := if_pos hreuse
  constructor
  · rintro ⟨next, token, hnext, hnew, hflush, -⟩
    rw [← Except.ok.inj (hcontinued.symm.trans hnext)] at hnew
    exact ⟨⟨token, hnew⟩, hflush⟩
  · rintro ⟨⟨token, hnew⟩, hflush⟩
    refine ⟨some x, token, hcontinued, hnew, hflush, fun _ => Option.some_ne_none x⟩

/-- A failure before a new token is made. -/
theorem forgiving_of_refused (hs : FiledByValue s)
    (hloses : Loses (s.refreshTokenToAccessTokenStore found.1.value).toList s t)
    (hnot : ∀ a, ¬Admitted m request s found a)
    (hrun : refreshAccessToken digest services m value request s = .error e t) :
    Forgiving digest services m value request s ↔
      (∃ a, Admitted m request s found a ∧ Reissues services m s a found.1) ∨
        Harmless digest services m request s found := by
  rw [forgiving_of_error hrun, retains_iff_of_loses hs hloses, ← harmless_of_not_admitted hnot]
  simp [hnot]

/-- An expired refresh token is itself taken, which is no loss. -/
theorem forgiving_of_expired (hs : FiledByValue s)
    (hread : services.readForRefresh s value request = .ok found)
    (hloses : Loses (s.refreshTokenToAccessTokenStore found.1.value).toList s t)
    (hexpired : found.1.isExpired m.now = true)
    (hrun : refreshAccessToken digest services m value request s =
      .error e (removeRefreshToken found.1.value t)) :
    Forgiving digest services m value request s ↔
      (∃ a, Admitted m request s found a ∧ Reissues services m s a found.1) ∨
        Harmless digest services m request s found := by
  have hnot : ∀ a, ¬Admitted m request s found a := not_admitted_of_expired hexpired
  have hfound : s.refreshTokenStore found.1.value = some found.1 := by
    have hreadable := (readable_of_ok hread).refreshToken
    rw [hs.refresh value found.1 hreadable]
    exact hreadable
  rw [forgiving_of_error hrun,
    retains_removeRefreshToken (filedByValue_of_loses hs hloses) hfound hexpired,
    retains_iff_of_loses hs hloses, ← harmless_of_not_admitted hnot]
  simp [hnot]

variable (hs : FiledByValue s) (hread : services.readForRefresh s value request = .ok found)
  (hloses : Loses (s.refreshTokenToAccessTokenStore found.1.value).toList s t)
  (htimer : t.timer = s.timer)
  (hclient : ¬∃ v ∈ s.refreshTokenToAccessTokenStore found.1.value, Clientless s v)

include hs hloses htimer hclient hread

/-- The request has got past every check. -/
theorem forgiving_of_admitted (h : Admitted m request s found a)
    (hrun : refreshAccessToken digest services m value request s =
      services.reissue digest m a found.1 t) :
    Forgiving digest services m value request s ↔
      Reissues services m s a found.1 ∨ Harmless digest services m request s found := by
  have hreadable := readable_of_ok hread
  have hname : a.oAuth2Request.clientId ≠ none := by
    rw [(createRefreshedAuthentication_eq_ok h.2.2).1]
    exact hreadable.named
  have hnot : ∀ v ∈ (s.refreshTokenToAccessTokenStore found.1.value).toList, ¬Clientless s v :=
    fun v hv hc => hclient ⟨v, Option.mem_toList.mp hv, hc⟩
  have hclients : ∀ v, Clientless t v ↔ Clientless s v := fun v => clientless_of_loses hloses hnot
  have hfails : FlushFails m.now t ↔ FlushFails m.now s := flushFails_congr hclients htimer
  have hqueue : t.expiryQueue = s.expiryQueue := (Prod.mk.inj htimer).1
  cases hreuse : services.reuseRefreshToken with
  | true =>
    -- the refresh token stays, so that only the flush can take more than the bound token
    rw [reissues_of_reuse hreuse, harmless_of_admitted h hreuse]
    cases hnew : services.newAccessToken m a (some found.1) with
    | error e =>
      rw [forgiving_of_error (hrun.trans (reissue_of_no_token hreuse hnew)),
        retains_iff_of_loses hs hloses]
      simp
    | ok token =>
      by_cases hflush : FlushFails m.now s
      · obtain ⟨u, htaken, hreissue⟩ := reissue_of_fails hreuse hnew (hfails.mpr hflush)
        rw [hqueue, taken_congr hclients] at htaken
        rw [forgiving_of_error (hrun.trans hreissue), retains_iff_of_loses hs (hloses.trans htaken)]
        simp [hflush, or_imp, forall_and]
      · obtain ⟨u, hreissue⟩ := reissue_of_reuse hreuse hname hnew fun hf => hflush (hfails.mp hf)
        exact iff_of_true (forgiving_of_ok (hrun.trans hreissue)) (.inl ⟨⟨token, rfl⟩, hflush⟩)
  | false =>
    have hsame : Reissues services m t a found.1 ↔ Reissues services m s a found.1 := by
      unfold Reissues
      rw [hfails]
    have hrotation :
        (Reissues services m t a found.1 ∧ ∃ token u,
          services.reissue digest m a found.1 t = .ok token u) ∨
        ¬Reissues services m t a found.1 ∧ ∃ e u,
          services.reissue digest m a found.1 t = .error e u ∧
            u.refreshTokenStore found.1.value = none := reissue_of_rotation hreuse hname
    rcases hrotation with ⟨hre, token, u, hreissue⟩ | ⟨hre, e, u, hreissue, hgone⟩
    · exact iff_of_true (forgiving_of_ok (hrun.trans hreissue)) (.inl (hsame.mp hre))
    · refine iff_of_false ?_ ?_
      · rw [forgiving_of_error (hrun.trans hreissue)]
        intro hretains
        -- the old refresh token was valid, or the request would not have been admitted
        have hvalue : found.1.value = value := hs.refresh value found.1 hreadable.refreshToken
        have hvalid : Refreshable m.now s found.1.value := by
          obtain ⟨b, hb, -⟩ := hreadable.stored
          refine ⟨⟨found.1, ?_, h.2.1⟩, ?_⟩
          · rw [hvalue]
            exact hreadable.refreshToken
          · intro hnone
            exact absurd (hb.symm.trans hnone) (Option.some_ne_none b)
        obtain ⟨⟨y, hy, -⟩, -⟩ := hretains.refresh _ hvalid
        rw [hgone] at hy
        cases hy
      · rintro (hre' | hharmless)
        · exact hre (hsame.mpr hre')
        · have htrue := (hharmless.late a h).1
          rw [hreuse] at htrue
          cases htrue

end Stages

theorem dropExpired_of_expired {now : ℕ} {r : OAuth2RefreshToken} (h : r.isExpired now = true)
    (t : InMemoryTokenStore) : dropExpired now r t =
      .error (invalidToken ("Invalid refresh token (expired): " ++ r.value))
        (removeRefreshToken r.value t) := by
  rw [dropExpired, onlyIf, if_pos h]
  rfl

theorem dropExpired_of_not_expired {now : ℕ} {r : OAuth2RefreshToken} (h : r.isExpired now = false)
    (t : InMemoryTokenStore) : dropExpired now r t = .ok () t := by
  have hnot : ¬r.isExpired now = true := by
    rw [h]
    exact Bool.false_ne_true
  rw [dropExpired, onlyIf, if_neg hnot]
  rfl

/-- What is left to do once the refresh token is found. -/
theorem refreshAccessToken_of_read {found : OAuth2RefreshToken × OAuth2Authentication}
    {value : String} (h : services.readForRefresh s value request = .ok found) :
    refreshAccessToken digest services m value request s =
      (removeAccessTokenUsingRefreshToken digest found.1.value >>= fun _ =>
        dropExpired m.now found.1 >>= fun _ =>
          orError (createRefreshedAuthentication found.2 request) >>= fun authentication =>
            services.reissue digest m authentication found.1) s := by
  unfold refreshAccessToken
  rw [bind_of_ok (get_apply s), h, orError_ok_bind]

theorem refreshAccessToken_of_unread {value : String} {e : JavaException}
    (h : services.readForRefresh s value request = .error e) :
    refreshAccessToken digest services m value request s = .error e s := by
  unfold refreshAccessToken
  rw [bind_of_ok (get_apply s), h]
  rfl

/-- A refresh that throws takes no valid token away exactly if it is refused at once, or does not
throw at all, or what it has taken by then is not valid. -/
theorem forgiving_iff (digest : String → String) (services : DefaultTokenServices) (m : Moment)
    (value : String) (request : TokenRequest) (hs : FiledByValue s) :
    Forgiving digest services m value request s ↔
      Bearable digest services m request s value := by
  unfold Bearable
  cases hread : services.readForRefresh s value request with
  | error e =>
    refine iff_of_true ?_ trivial
    rw [forgiving_of_error (refreshAccessToken_of_unread hread)]
    exact ⟨fun _ h => h, fun _ h => h⟩
  | ok found =>
    obtain ⟨t, hloses, htimer, hremove⟩ := removeUsing_run digest found.1.value s
    have hstart : refreshAccessToken digest services m value request s = _ :=
      refreshAccessToken_of_read hread
    change _ ↔ (∃ a, _ ∧ _) ∨ _
    by_cases hclient : ∃ v ∈ s.refreshTokenToAccessTokenStore found.1.value, Clientless s v
    · -- the removal itself throws at a token without a client
      have hnot : ∀ a, ¬Admitted m request s found a := by
        rintro a ⟨hclients, -⟩
        obtain ⟨v, hv, hc⟩ := hclient
        exact hclients v hv hc
      have hrun := hstart.trans (bind_of_error (hremove.trans (if_pos hclient)))
      exact forgiving_of_refused hs hloses hnot hrun
    · rw [bind_of_ok (hremove.trans (if_neg hclient))] at hstart
      have hclients : ∀ v ∈ s.refreshTokenToAccessTokenStore found.1.value, ¬Clientless s v :=
        fun v hv hc => hclient ⟨v, hv, hc⟩
      cases hexpired : found.1.isExpired m.now with
      | true =>
        have hrun := hstart.trans (bind_of_error (dropExpired_of_expired hexpired t))
        exact forgiving_of_expired hs hread hloses hexpired hrun
      | false =>
        rw [bind_of_ok (dropExpired_of_not_expired hexpired t)] at hstart
        cases hnarrow : createRefreshedAuthentication found.2 request with
        | error e =>
          -- the scope is refused after the bound token has gone
          have hnot : ∀ a, ¬Admitted m request s found a := by
            rintro a ⟨-, -, hok⟩
            rw [hnarrow] at hok
            cases hok
          rw [hnarrow] at hstart
          exact forgiving_of_refused hs hloses hnot hstart
        | ok a =>
          rw [hnarrow, orError_ok_bind] at hstart
          have hadmitted : Admitted m request s found a := ⟨hclients, hexpired, hnarrow⟩
          rw [forgiving_of_admitted hs hread hloses htimer hclient hadmitted hstart]
          refine or_congr_left ?_
          constructor
          · exact fun hre => ⟨a, hadmitted, hre⟩
          · rintro ⟨b, hb, hre⟩
            rw [Except.ok.inj (hnarrow.symm.trans hb.2.2)]
            exact hre

/-! ## A scope that was not granted -/

def supporting : DefaultTokenServices := { supportRefreshToken := true }

/-- Alice has a token that may read. -/
def aliceGranted : InMemoryTokenStore :=
  Runs.exec (supporting.call id) {}
    [.operation (.createAccessToken ⟨1000, "t1", "r1"⟩ (signedIn "alice" appRequest))]

/-- The client asks for a scope that it has not been granted. -/
def widening : TokenRequest := ⟨[], some "app", ["admin"], none⟩

/-- The refresh is rejected for its scope, and the access token is gone. -/
theorem rejected_and_gone :
    ¬ ∀ (digest : String → String) (services : DefaultTokenServices) (m : Moment) (value : String)
      (request : TokenRequest) (s : InMemoryTokenStore), FiledByValue s →
      Forgiving digest services m value request s := by
  intro h
  have hfiled : FiledByValue aliceGranted := filedByValue_run id supporting 1000 _
  have hretains := h id supporting ⟨2000, "t2", "r2"⟩ "r1" widening aliceGranted hfiled _ _ rfl
  have husable : Usable id supporting 2000 aliceGranted "t1" := ⟨_, rfl⟩
  obtain ⟨a, ha⟩ := hretains.access "t1" husable
  cases ha

/-- Another client's attempt takes nothing. -/
theorem forgiving_of_other_client :
    Forgiving id supporting ⟨2000, "t2", "r2"⟩ "r1" ⟨[], some "other", [], none⟩ aliceGranted :=
  (forgiving_iff id supporting ⟨2000, "t2", "r2"⟩ "r1" ⟨[], some "other", [], none⟩
    (filedByValue_run id supporting 1000 _)).mpr trivial

end DefaultTokenServices

end MaxKey.OAuth2
