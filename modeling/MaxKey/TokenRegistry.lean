import MaxKey.TokenStore

namespace MaxKey.OAuth2
open Function (update)

/-- What a store knows of its tokens, without its search indexes and its clock. -/
structure TokenRegistry where
  token : String → Option OAuth2AccessToken := fun _ => none
  authentication : String → Option OAuth2Authentication := fun _ => none
  current : String → Option OAuth2AccessToken := fun _ => none
  refreshToken : String → Option OAuth2RefreshToken := fun _ => none
  refreshAuthentication : String → Option OAuth2Authentication := fun _ => none
  linked : String → Option String := fun _ => none

def InMemoryTokenStore.registry (s : InMemoryTokenStore) : TokenRegistry :=
  ⟨s.accessTokenStore, s.authenticationStore, s.authenticationToAccessTokenStore,
    s.refreshTokenStore, s.refreshTokenAuthenticationStore, s.refreshTokenToAccessTokenStore⟩

namespace TokenRegistry
open InMemoryTokenStore (extractKey)

section Operations

variable (digest : String → String)

/-- Ends an access token. Its refresh token stays. -/
def drop (v : String) (g : TokenRegistry) : TokenRegistry :=
  { g with
    token := update g.token v none
    authentication := update g.authentication v none
    current := match g.authentication v with
      | none => g.current
      | some a => update g.current (extractKey digest a) none }

def dropAll (vs : List String) (g : TokenRegistry) : TokenRegistry :=
  vs.foldl (fun g v => drop digest v g) g

def put (t : OAuth2AccessToken) (a : OAuth2Authentication) (g : TokenRegistry) : TokenRegistry :=
  { g with
    token := update g.token t.value (some t)
    authentication := update g.authentication t.value (some a)
    current := update g.current (extractKey digest a) (some t)
    linked := match t.refreshToken with
      | none => g.linked
      | some r => update g.linked r.value (some t.value) }

def forget (r : String) (g : TokenRegistry) : TokenRegistry :=
  { g with
    refreshToken := update g.refreshToken r none
    refreshAuthentication := update g.refreshAuthentication r none
    linked := update g.linked r none }

def keep (r : OAuth2RefreshToken) (a : OAuth2Authentication) (g : TokenRegistry) : TokenRegistry :=
  { g with
    refreshToken := update g.refreshToken r.value (some r)
    refreshAuthentication := update g.refreshAuthentication r.value (some a) }

/-- Ends an access token together with the refresh token that it carries. -/
def retire (t : OAuth2AccessToken) (g : TokenRegistry) : TokenRegistry :=
  drop digest t.value (match t.refreshToken with
    | none => g
    | some r => forget r.value g)

/-- Puts a new token in, with the refresh token that it carries. -/
def issue (t : OAuth2AccessToken) (a : OAuth2Authentication) (g : TokenRegistry) : TokenRegistry :=
  match t.refreshToken with
  | none => put digest t a g
  | some r => keep r a (put digest t a g)

/-- Ends the access token that a refresh token is linked to. -/
def withdraw (r : String) (g : TokenRegistry) : TokenRegistry :=
  let unlinked := { g with linked := update g.linked r none }
  match g.linked r with
  | none => unlinked
  | some v => drop digest v unlinked

end Operations

/-- The access token carries a refresh token of this value. -/
def Carries (t : OAuth2AccessToken) (r : String) : Prop := ∃ x ∈ t.refreshToken, x.value = r

/-- What holds of the registry after every run: a live token is the one its refresh token is
linked to, its refresh token is kept, and all values have been drawn. -/
structure Sound (digest : String → String) (used : List String) (g : TokenRegistry) : Prop where
  value_eq : ∀ v t, g.token v = some t → t.value = v
  authenticated : ∀ v, g.token v = none ↔ g.authentication v = none
  named : ∀ v a, g.authentication v = some a → a.oAuth2Request.clientId ≠ none
  current_stored : ∀ k t, g.current k = some t → g.token t.value = some t ∧
    ∃ a, g.authentication t.value = some a ∧ extractKey digest a = k
  linked : ∀ v t r, g.token v = some t → Carries t r → g.linked r = some v
  kept : ∀ v t, g.token v = some t → ∀ r ∈ t.refreshToken, g.refreshToken r.value = some r
  refresh_value_eq : ∀ r x, g.refreshToken r = some x → x.value = r
  refresh_authenticated : ∀ r, g.refreshToken r ≠ none →
    ∃ a, g.refreshAuthentication r = some a ∧ a.oAuth2Request.clientId ≠ none
  used_token : ∀ v, g.token v ≠ none → v ∈ used
  used_refreshToken : ∀ r, g.refreshToken r ≠ none → r ∈ used

section Lemmas

variable {digest : String → String} {used more : List String} {g : TokenRegistry} {v w r k : String}
  {t x : OAuth2AccessToken} {a b : OAuth2Authentication}

theorem sound_empty (digest : String → String) : Sound digest [] {} where
  value_eq _ _ h := by cases h
  authenticated _ := iff_of_true rfl rfl
  named _ _ h := by cases h
  current_stored _ _ h := by cases h
  linked _ _ _ h := by cases h
  kept _ _ h := by cases h
  refresh_value_eq _ _ h := by cases h
  refresh_authenticated _ h := absurd rfl h
  used_token _ h := absurd rfl h
  used_refreshToken _ h := absurd rfl h

/-- More values may have been drawn. -/
theorem Sound.mono (h : Sound digest used g) (hsub : ∀ v ∈ used, v ∈ more) :
    Sound digest more g :=
  { h with
    used_token := fun v hv => hsub v (h.used_token v hv)
    used_refreshToken := fun r hr => hsub r (h.used_refreshToken r hr) }

theorem Sound.live_of_authentication (h : Sound digest used g) (ha : g.authentication v = some a) :
    ∃ t, g.token v = some t := by
  cases htoken : g.token v with
  | some t => exact ⟨t, rfl⟩
  | none =>
    rw [(h.authenticated v).mp htoken] at ha
    cases ha

theorem Sound.authentication_of_live (h : Sound digest used g) (ht : g.token v = some t) :
    ∃ a, g.authentication v = some a := by
  cases ha : g.authentication v with
  | some a => exact ⟨a, rfl⟩
  | none =>
    rw [(h.authenticated v).mpr ha] at ht
    cases ht

/-- A live token carries only refresh tokens that are kept. -/
theorem Sound.kept_of_carries (h : Sound digest used g) (ht : g.token v = some t)
    (hr : Carries t r) : g.refreshToken r ≠ none := by
  obtain ⟨x, hx, rfl⟩ := hr
  rw [h.kept v t ht x hx]
  exact Option.some_ne_none x

/-! ### Removal -/

theorem token_drop : (drop digest v g).token w = some t ↔ w ≠ v ∧ g.token w = some t := by
  simp only [drop, Function.update_apply]
  split_ifs with hw
  · simp [hw]
  · simp [hw]

theorem authentication_drop :
    (drop digest v g).authentication w = some a ↔ w ≠ v ∧ g.authentication w = some a := by
  simp only [drop, Function.update_apply]
  split_ifs with hw
  · simp [hw]
  · simp [hw]

theorem current_of_drop (h : (drop digest v g).current k = some t) : g.current k = some t := by
  unfold drop at h
  cases ha : g.authentication v with
  | none =>
    rw [ha] at h
    exact h
  | some a =>
    simp only [ha, Function.update_apply] at h
    split_ifs at h
    exact h

/-- What a dropped token was current for has no current token any more. -/
theorem current_drop_ne (hg : Sound digest used g) (h : (drop digest v g).current k = some t) :
    t.value ≠ v := by
  intro hv
  obtain ⟨-, a, ha, hkey⟩ := hg.current_stored k t (current_of_drop h)
  rw [hv] at ha
  simp only [drop, ha, hkey, Function.update_self] at h
  cases h

theorem Sound.drop (h : Sound digest used g) (v : String) : Sound digest used (drop digest v g) where
  value_eq w t ht := h.value_eq w t (token_drop.mp ht).2
  authenticated w := by
    simp only [TokenRegistry.drop, Function.update_apply]
    split_ifs
    · exact iff_of_true rfl rfl
    · exact h.authenticated w
  named w a ha := h.named w a (authentication_drop.mp ha).2
  current_stored k t ht := by
    have hne := current_drop_ne h ht
    obtain ⟨hlive, a, ha, hkey⟩ := h.current_stored k t (current_of_drop ht)
    exact ⟨token_drop.mpr ⟨hne, hlive⟩, a, authentication_drop.mpr ⟨hne, ha⟩, hkey⟩
  linked w t r ht := h.linked w t r (token_drop.mp ht).2
  kept w t ht := h.kept w t (token_drop.mp ht).2
  refresh_value_eq := h.refresh_value_eq
  refresh_authenticated := h.refresh_authenticated
  used_token w hw := by
    obtain ⟨t, ht⟩ := Option.ne_none_iff_exists'.mp hw
    refine h.used_token w ?_
    rw [(token_drop.mp ht).2]
    exact Option.some_ne_none t
  used_refreshToken := h.used_refreshToken

theorem Sound.dropAll (vs : List String) (h : Sound digest used g) :
    Sound digest used (dropAll digest vs g) := by
  induction vs generalizing g with
  | nil => exact h
  | cons v vs ih => exact ih (h.drop v)

/-- What dropping does to the rest of the registry: it takes tokens out and nothing else. -/
structure Fewer (g' g : TokenRegistry) : Prop where
  token : ∀ v, g'.token v = none ∨
    g'.token v = g.token v ∧ g'.authentication v = g.authentication v
  authentication : ∀ v a, g'.authentication v = some a → g.authentication v = some a
  current : ∀ k t, g'.current k = some t → g.current k = some t
  refreshToken : g'.refreshToken = g.refreshToken
  refreshAuthentication : g'.refreshAuthentication = g.refreshAuthentication
  linked : g'.linked = g.linked

theorem fewer_refl (g : TokenRegistry) : Fewer g g :=
  ⟨fun _ => .inr ⟨rfl, rfl⟩, fun _ _ h => h, fun _ _ h => h, rfl, rfl, rfl⟩

theorem fewer_drop (v : String) : Fewer (drop digest v g) g where
  token w := by
    simp only [drop, Function.update_apply]
    split_ifs
    · exact .inl rfl
    · exact .inr ⟨rfl, rfl⟩
  authentication w a ha := (authentication_drop.mp ha).2
  current k t := current_of_drop
  refreshToken := rfl
  refreshAuthentication := rfl
  linked := rfl

theorem Fewer.trans {g₂ g₁ : TokenRegistry} (h : Fewer g₂ g₁) (h' : Fewer g₁ g) : Fewer g₂ g where
  token v := by
    rcases h.token v with hnone | ⟨htoken, hauth⟩
    · exact .inl hnone
    · rw [htoken, hauth]
      exact h'.token v
  authentication v a ha := h'.authentication v a (h.authentication v a ha)
  current k t ht := h'.current k t (h.current k t ht)
  refreshToken := h.refreshToken.trans h'.refreshToken
  refreshAuthentication := h.refreshAuthentication.trans h'.refreshAuthentication
  linked := h.linked.trans h'.linked

theorem fewer_dropAll (vs : List String) : Fewer (dropAll digest vs g) g := by
  induction vs generalizing g with
  | nil => exact fewer_refl g
  | cons v vs ih => exact ih.trans (fewer_drop v)

theorem Fewer.token_eq {g' : TokenRegistry} (h : Fewer g' g) (ht : g'.token v = some t) :
    g.token v = some t := by
  rcases h.token v with hnone | ⟨hsame, -⟩
  · rw [hnone] at ht
    cases ht
  · rw [← hsame]
    exact ht

/-! ### Insertion -/

theorem token_put : (put digest t a g).token w = some x ↔
    (w = t.value ∧ t = x) ∨ (w ≠ t.value ∧ g.token w = some x) := by
  simp only [put, Function.update_apply]
  split_ifs with hw
  · simp [hw]
  · simp [hw]

/-- The token may go in: under its value is nothing or itself, with the same key, and what it
carries is kept and carried by no other token. -/
structure Fits (digest : String → String) (t : OAuth2AccessToken) (a : OAuth2Authentication)
    (g : TokenRegistry) : Prop where
  named : a.oAuth2Request.clientId ≠ none
  free : ∀ x, g.token t.value = some x → x = t
  same_key : ∀ b, g.authentication t.value = some b → extractKey digest b = extractKey digest a
  alone : ∀ r w x, Carries t r → g.token w = some x → Carries x r → w = t.value

theorem Sound.put (h : Sound digest used g) (hfits : Fits digest t a g)
    (hkept : ∀ r ∈ t.refreshToken, g.refreshToken r.value = some r) (hused : t.value ∈ used) :
    Sound digest used (put digest t a g) where
  value_eq w x hx := by
    rcases token_put.mp hx with ⟨rfl, rfl⟩ | ⟨-, hx⟩
    · rfl
    · exact h.value_eq w x hx
  authenticated w := by
    simp only [TokenRegistry.put, Function.update_apply]
    split_ifs
    · simp
    · exact h.authenticated w
  named w b hb := by
    simp only [TokenRegistry.put, Function.update_apply] at hb
    split_ifs at hb
    · rw [← Option.some.inj hb]
      exact hfits.named
    · exact h.named w b hb
  current_stored k x hx := by
    simp only [TokenRegistry.put, Function.update_apply] at hx ⊢
    split_ifs at hx with hk
    · have hxt := Option.some.inj hx
      rw [← hxt, if_pos rfl, if_pos rfl]
      exact ⟨rfl, a, rfl, hk.symm⟩
    · obtain ⟨hlive, b, hb, hkey⟩ := h.current_stored k x hx
      -- a token filed under another key has another value
      have hne : x.value ≠ t.value := by
        intro hv
        rw [hv] at hb
        exact hk (hkey.symm.trans (hfits.same_key b hb))
      rw [if_neg hne, if_neg hne]
      exact ⟨hlive, b, hb, hkey⟩
  linked w x r hx hr := by
    rcases token_put.mp hx with ⟨rfl, rfl⟩ | ⟨hne, hx⟩
    · obtain ⟨y, hy, rfl⟩ := hr
      simp only [TokenRegistry.put, Option.mem_def.mp hy, Function.update_self]
    · have hother : ∀ y ∈ t.refreshToken, r ≠ y.value := by
        intro y hy hry
        exact hne (hfits.alone r w x ⟨y, hy, hry.symm⟩ hx hr)
      have hold := h.linked w x r hx hr
      cases hcarried : t.refreshToken with
      | none =>
        simp only [TokenRegistry.put, hcarried]
        exact hold
      | some y =>
        simp only [TokenRegistry.put, hcarried]
        rw [Function.update_of_ne (hother y hcarried)]
        exact hold
  kept w x hx := by
    rcases token_put.mp hx with ⟨-, rfl⟩ | ⟨-, hx⟩
    · exact hkept
    · exact h.kept w x hx
  refresh_value_eq := h.refresh_value_eq
  refresh_authenticated := h.refresh_authenticated
  used_token w hw := by
    obtain ⟨x, hx⟩ := Option.ne_none_iff_exists'.mp hw
    rcases token_put.mp hx with ⟨rfl, -⟩ | ⟨-, hx⟩
    · exact hused
    · refine h.used_token w ?_
      rw [hx]
      exact Option.some_ne_none x
  used_refreshToken := h.used_refreshToken

theorem Fits.of_fewer {g' : TokenRegistry} (h : Fits digest t a g) (hg : Fewer g' g) :
    Fits digest t a g' where
  named := h.named
  free x hx := h.free x (hg.token_eq hx)
  same_key b hb := h.same_key b (hg.authentication _ b hb)
  alone r w x ht hx := h.alone r w x ht (hg.token_eq hx)

/-- No live token carries the refresh token. -/
def Unused (r : String) (g : TokenRegistry) : Prop := ∀ w x, g.token w = some x → ¬Carries x r

theorem Unused.of_fewer {g' : TokenRegistry} (h : Unused r g) (hg : Fewer g' g) : Unused r g' :=
  fun w x hx => h w x (hg.token_eq hx)

theorem fits_of_fresh (h : Sound digest used g) (hfresh : t.value ∉ used)
    (hname : a.oAuth2Request.clientId ≠ none) (hr : ∀ r, Carries t r → Unused r g) :
    Fits digest t a g := by
  have hnone : g.token t.value = none := by
    by_contra hlive
    exact hfresh (h.used_token _ hlive)
  refine ⟨hname, fun x hx => ?_, fun b hb => ?_, fun r w x ht hx hcarries => ?_⟩
  · rw [hnone] at hx
    cases hx
  · rw [(h.authenticated _).mp hnone] at hb
    cases hb
  · exact absurd hcarries (hr r ht w x hx)

/-- The current token of a key may be put in again. -/
theorem fits_of_current (h : Sound digest used g) (hname : a.oAuth2Request.clientId ≠ none)
    (ht : g.current (extractKey digest a) = some t) : Fits digest t a g := by
  obtain ⟨hlive, b, hb, hkey⟩ := h.current_stored _ t ht
  refine ⟨hname, fun x hx => ?_, fun b' hb' => ?_, fun r w x hr hx hcarries => ?_⟩
  · exact Option.some.inj (hx.symm.trans hlive)
  · rw [← hkey, Option.some.inj (hb'.symm.trans hb)]
  · have hw := h.linked w x r hx hcarries
    have htw := h.linked _ t r hlive hr
    exact Option.some.inj (hw.symm.trans htw)

/-! ### Refresh tokens -/

theorem Sound.unlink (h : Sound digest used g) (hr : Unused r g) :
    Sound digest used { g with linked := update g.linked r none } :=
  { h with
    linked := fun w x r' hx hcarries => by
      have hne : r' ≠ r := fun heq => hr w x hx (heq ▸ hcarries)
      simp only [Function.update_of_ne hne]
      exact h.linked w x r' hx hcarries }

theorem refreshToken_forget {y : OAuth2RefreshToken} :
    (forget r g).refreshToken w = some y ↔ w ≠ r ∧ g.refreshToken w = some y := by
  simp only [forget, Function.update_apply]
  split_ifs with hw
  · simp [hw]
  · simp [hw]

theorem Sound.forget (h : Sound digest used g) (hr : Unused r g) :
    Sound digest used (forget r g) where
  value_eq := h.value_eq
  authenticated := h.authenticated
  named := h.named
  current_stored := h.current_stored
  linked := (h.unlink hr).linked
  kept w x hx y hy := by
    refine refreshToken_forget.mpr ⟨fun heq => ?_, h.kept w x hx y hy⟩
    exact hr w x hx ⟨y, hy, heq⟩
  refresh_value_eq w y hy := h.refresh_value_eq w y (refreshToken_forget.mp hy).2
  refresh_authenticated w hw := by
    obtain ⟨y, hy⟩ := Option.ne_none_iff_exists'.mp hw
    obtain ⟨hne, hold⟩ := refreshToken_forget.mp hy
    simp only [TokenRegistry.forget, Function.update_of_ne hne]
    refine h.refresh_authenticated w ?_
    rw [hold]
    exact Option.some_ne_none y
  used_token := h.used_token
  used_refreshToken w hw := by
    obtain ⟨y, hy⟩ := Option.ne_none_iff_exists'.mp hw
    refine h.used_refreshToken w ?_
    rw [(refreshToken_forget.mp hy).2]
    exact Option.some_ne_none y

theorem Sound.keep {y : OAuth2RefreshToken} (h : Sound digest used g)
    (hname : a.oAuth2Request.clientId ≠ none) (hused : y.value ∈ used)
    (hsame : ∀ w x, g.token w = some x → ∀ z ∈ x.refreshToken, z.value = y.value → z = y) :
    Sound digest used (keep y a g) where
  value_eq := h.value_eq
  authenticated := h.authenticated
  named := h.named
  current_stored := h.current_stored
  linked := h.linked
  kept w x hx z hz := by
    simp only [TokenRegistry.keep, Function.update_apply]
    split_ifs with heq
    · rw [hsame w x hx z hz heq]
    · exact h.kept w x hx z hz
  refresh_value_eq w z hz := by
    simp only [TokenRegistry.keep, Function.update_apply] at hz
    split_ifs at hz with heq
    · rw [heq, Option.some.inj hz]
    · exact h.refresh_value_eq w z hz
  refresh_authenticated w hw := by
    simp only [TokenRegistry.keep, Function.update_apply] at hw ⊢
    split_ifs at hw ⊢
    · exact ⟨a, rfl, hname⟩
    · exact h.refresh_authenticated w hw
  used_token := h.used_token
  used_refreshToken w hw := by
    simp only [TokenRegistry.keep, Function.update_apply] at hw
    split_ifs at hw with heq
    · rw [heq]
      exact hused
    · exact h.used_refreshToken w hw

/-- A live token is the only one that carries its refresh token. -/
theorem Sound.unused_drop (h : Sound digest used g) (ht : g.token v = some t) (hr : Carries t r) :
    Unused r (TokenRegistry.drop digest v g) := by
  intro w x hx hcarries
  obtain ⟨hne, hold⟩ := token_drop.mp hx
  have hw := h.linked w x r hold hcarries
  have hv := h.linked v t r ht hr
  exact hne (Option.some.inj (hw.symm.trans hv))

theorem Sound.retire (h : Sound digest used g) (ht : g.token t.value = some t) :
    Sound digest used (retire digest t g) := by
  cases hcarried : t.refreshToken with
  | none =>
    simp only [TokenRegistry.retire, hcarried]
    exact h.drop _
  | some y =>
    simp only [TokenRegistry.retire, hcarried]
    have hunused := h.unused_drop ht ⟨y, hcarried, rfl⟩
    exact (h.drop t.value).forget hunused

theorem unused_retire (h : Sound digest used g) (ht : g.token t.value = some t) (hr : Carries t r) :
    Unused r (retire digest t g) := by
  have hunused := h.unused_drop ht hr
  cases hcarried : t.refreshToken with
  | none =>
    simp only [TokenRegistry.retire, hcarried]
    exact hunused
  | some y =>
    simp only [TokenRegistry.retire, hcarried]
    exact hunused

/-- After a withdrawal no live token carries the refresh token. -/
theorem unused_withdraw (h : Sound digest used g) (r : String) :
    Unused r (withdraw digest r g) := by
  intro w x hx hcarries
  unfold withdraw at hx
  cases hlinked : g.linked r with
  | none =>
    simp only [hlinked] at hx
    have hw := h.linked w x r hx hcarries
    rw [hlinked] at hw
    cases hw
  | some v =>
    simp only [hlinked] at hx
    obtain ⟨hne, hold⟩ := token_drop.mp hx
    have hw := h.linked w x r hold hcarries
    exact hne (Option.some.inj (hw.symm.trans hlinked))

theorem refreshToken_withdraw (r : String) (g : TokenRegistry) :
    (withdraw digest r g).refreshToken = g.refreshToken := by
  unfold TokenRegistry.withdraw
  cases g.linked r with
  | none => rfl
  | some v => rfl

theorem refreshAuthentication_withdraw (r : String) (g : TokenRegistry) :
    (withdraw digest r g).refreshAuthentication = g.refreshAuthentication := by
  unfold TokenRegistry.withdraw
  cases g.linked r with
  | none => rfl
  | some v => rfl

theorem Sound.withdraw (h : Sound digest used g) (r : String) :
    Sound digest used (withdraw digest r g) := by
  have hunused := unused_withdraw h r
  unfold TokenRegistry.withdraw at hunused ⊢
  cases hlinked : g.linked r with
  | none =>
    simp only [hlinked] at hunused ⊢
    exact h.unlink hunused
  | some v =>
    simp only [hlinked] at hunused ⊢
    exact (h.drop v).unlink hunused

theorem issue_of_carried {y : OAuth2RefreshToken} (h : t.refreshToken = some y)
    (a : OAuth2Authentication) (g : TokenRegistry) :
    TokenRegistry.issue digest t a g = keep y a (TokenRegistry.put digest t a g) := by
  simp only [TokenRegistry.issue, h]

/-- Whether a refresh token comes with it or not, a new token is there, for its authentication,
as the current one of its key. -/
theorem issue_self (t : OAuth2AccessToken) (a : OAuth2Authentication) (g : TokenRegistry) :
    (TokenRegistry.issue digest t a g).token t.value = some t ∧
      (TokenRegistry.issue digest t a g).authentication t.value = some a ∧
      (TokenRegistry.issue digest t a g).current (extractKey digest a) = some t := by
  unfold TokenRegistry.issue
  cases t.refreshToken with
  | none =>
    exact ⟨Function.update_self _ _ _, Function.update_self _ _ _, Function.update_self _ _ _⟩
  | some y =>
    exact ⟨Function.update_self _ _ _, Function.update_self _ _ _, Function.update_self _ _ _⟩

theorem Sound.issue (h : Sound digest used g) (hfits : Fits digest t a g) (hused : t.value ∈ used)
    (hrefresh : ∀ y ∈ t.refreshToken, y.value ∈ used) : Sound digest used (issue digest t a g) := by
  cases hcarried : t.refreshToken with
  | none =>
    simp only [TokenRegistry.issue, hcarried]
    refine h.put hfits (fun y hy => ?_) hused
    rw [hcarried] at hy
    cases hy
  | some y =>
    simp only [TokenRegistry.issue, hcarried]
    have hsame : ∀ w x, g.token w = some x → ∀ z ∈ x.refreshToken, z.value = y.value → z = y := by
      intro w x hx z hz hvalue
      have hw := hfits.alone y.value w x ⟨y, hcarried, rfl⟩ hx ⟨z, hz, hvalue⟩
      rw [hw] at hx
      rw [hfits.free x hx, hcarried] at hz
      exact (Option.some.inj hz).symm
    have hkept := h.keep hfits.named (hrefresh y hcarried) hsame
    refine hkept.put ⟨hfits.named, hfits.free, hfits.same_key, hfits.alone⟩ (fun z hz => ?_) hused
    rw [Option.some.inj (hz.symm.trans hcarried)]
    exact Function.update_self _ _ _

/-! ### What comes back -/

/-- Later on, a value stands for the same token as before or has been drawn since, and a
refresh token was kept before or has been drawn since. -/
structure Continues (drawn : List String) (g g' : TokenRegistry) : Prop where
  token : ∀ v x, g'.token v = some x → g.token v = some x ∨ v ∈ drawn
  refreshToken : ∀ r, g'.refreshToken r ≠ none → g.refreshToken r ≠ none ∨ r ∈ drawn

variable {drawn : List String} {g₀ : TokenRegistry}

theorem continues_refl (g : TokenRegistry) : Continues drawn g g :=
  ⟨fun _ _ h => .inl h, fun _ h => .inl h⟩

theorem Continues.mono {g' : TokenRegistry} {drawn' : List String} (h : Continues drawn g g')
    (hsub : ∀ v ∈ drawn, v ∈ drawn') : Continues drawn' g g' :=
  ⟨fun v x hx => (h.token v x hx).imp_right (hsub v),
    fun r hr => (h.refreshToken r hr).imp_right (hsub r)⟩

theorem Continues.trans {g' : TokenRegistry} (h : Continues drawn g₀ g)
    (h' : Continues drawn g g') : Continues drawn g₀ g' where
  token v x hx := by
    rcases h'.token v x hx with hold | hnew
    · exact h.token v x hold
    · exact .inr hnew
  refreshToken r hr := by
    rcases h'.refreshToken r hr with hold | hnew
    · exact h.refreshToken r hold
    · exact .inr hnew

theorem Continues.fewer {g' : TokenRegistry} (h : Continues drawn g₀ g) (hg : Fewer g' g) :
    Continues drawn g₀ g' where
  token v x hx := h.token v x (hg.token_eq hx)
  refreshToken r hr := by
    rw [hg.refreshToken] at hr
    exact h.refreshToken r hr

theorem Continues.forget (h : Continues drawn g₀ g) (r : String) :
    Continues drawn g₀ (forget r g) where
  token := h.token
  refreshToken w hw := by
    obtain ⟨y, hy⟩ := Option.ne_none_iff_exists'.mp hw
    refine h.refreshToken w ?_
    rw [(refreshToken_forget.mp hy).2]
    exact Option.some_ne_none y

theorem Continues.retire (h : Continues drawn g₀ g) (t : OAuth2AccessToken) :
    Continues drawn g₀ (retire digest t g) := by
  unfold TokenRegistry.retire
  cases t.refreshToken with
  | none => exact h.fewer (fewer_drop _)
  | some y => exact (h.forget y.value).fewer (fewer_drop _)

theorem Continues.withdraw (h : Continues drawn g₀ g) (r : String) :
    Continues drawn g₀ (withdraw digest r g) := by
  have hunlinked : Continues drawn g₀ { g with linked := update g.linked r none } :=
    ⟨h.token, h.refreshToken⟩
  unfold TokenRegistry.withdraw
  cases g.linked r with
  | none => exact hunlinked
  | some v => exact hunlinked.fewer (fewer_drop v)

theorem Continues.put (h : Continues drawn g₀ g)
    (ht : g₀.token t.value = some t ∨ t.value ∈ drawn) : Continues drawn g₀ (put digest t a g) where
  token v x hx := by
    rcases token_put.mp hx with ⟨rfl, rfl⟩ | ⟨-, hold⟩
    · exact ht
    · exact h.token v x hold
  refreshToken := h.refreshToken

theorem Continues.keep {y : OAuth2RefreshToken} (h : Continues drawn g₀ g)
    (hy : g₀.refreshToken y.value ≠ none ∨ y.value ∈ drawn) :
    Continues drawn g₀ (keep y a g) where
  token := h.token
  refreshToken w hw := by
    simp only [TokenRegistry.keep, Function.update_apply] at hw
    split_ifs at hw with heq
    · rw [heq]
      exact hy
    · exact h.refreshToken w hw

theorem Continues.issue (h : Continues drawn g₀ g) (ht : t.value ∈ drawn)
    (hr : ∀ y ∈ t.refreshToken, g₀.refreshToken y.value ≠ none ∨ y.value ∈ drawn) :
    Continues drawn g₀ (issue digest t a g) := by
  unfold TokenRegistry.issue
  cases hcarried : t.refreshToken with
  | none => exact h.put (.inr ht)
  | some y => exact (h.put (.inr ht)).keep (hr y hcarried)

end Lemmas

end TokenRegistry

end MaxKey.OAuth2
