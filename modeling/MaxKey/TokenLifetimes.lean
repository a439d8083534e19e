import MaxKey.TokenRuns

namespace MaxKey.OAuth2
open JavaException Effects InMemoryTokenStore TokenRegistry

namespace DefaultTokenServices

variable (digest : String → String) (services : DefaultTokenServices)

/-- The store after a run from the start. -/
abbrev run (flushInterval : ℤ) (calls : List Call) : InMemoryTokenStore :=
  Runs.exec (services.call digest) { flushInterval := flushInterval } calls

/-- The access tokens that the calls of a run return. -/
def issued : InMemoryTokenStore → List Call → List OAuth2AccessToken
  | _, [] => []
  | s, c :: calls =>
    (services.returned digest s c).toList ++ issued (services.call digest s c) calls

/-- A live token's refresh token is linked to it, and no other live token carries it. -/
def OneTokenPerRefreshToken (s : InMemoryTokenStore) : Prop :=
  ∀ v t r, s.accessTokenStore v = some t → Carries t r →
    s.refreshTokenToAccessTokenStore r = some v ∧
      ∀ w u, s.accessTokenStore w = some u → Carries u r → w = v

/-- Live tokens have different keys, and are filed under them; nothing else is. -/
structure OneTokenPerKey (s : InMemoryTokenStore) : Prop where
  distinct : ∀ v w t u a b, v ≠ w → s.accessTokenStore v = some t → s.accessTokenStore w = some u →
    s.authenticationStore v = some a → s.authenticationStore w = some b →
      extractKey digest a ≠ extractKey digest b
  filed : ∀ v t, s.accessTokenStore v = some t → ∃ a, s.authenticationStore v = some a ∧
    s.authenticationToAccessTokenStore (extractKey digest a) = some t
  live : ∀ k t, s.authenticationToAccessTokenStore k = some t →
    s.accessTokenStore t.value = some t

/-- A refresh finds no token filed under the key of its scopes but the one that it replaces. -/
def Replaces (s : InMemoryTokenStore) : Call → Prop
  | .operation (.refreshAccessToken _ value request) =>
    WhenOk (services.readForRefresh s value request) fun found =>
      WhenOk (createRefreshedAuthentication found.2 request) fun a =>
        ∀ token ∈ s.authenticationToAccessTokenStore (extractKey digest a),
          s.refreshTokenToAccessTokenStore found.1.value = some token.value
  | _ => True

instance (s : InMemoryTokenStore) : DecidablePred (Replaces digest services s)
  | .operation (.refreshAccessToken _ _ _) =>
    inferInstanceAs (Decidable (WhenOk _ fun _ => WhenOk _ fun _ => ∀ _ ∈ _, _ = _))
  | .operation (.createAccessToken _ _) | .operation (.revokeToken _) | .loadAuthentication _ _ =>
    isTrue trivial

def readWrite : OAuth2Request := { appRequest with scope := ["read", "write"] }

/-- A refresh by the client, for the named scopes or for all. -/
def refresh (m : Moment) (value : String) (scope : List String) : Call :=
  .operation (.refreshAccessToken m value ⟨[], some "app", scope, none⟩)

/-- A grant, a refresh for fewer scopes, one for all of them, and the revocation. -/
def refreshingRun : List Call :=
  [.operation (.createAccessToken ⟨1000, "t1", "r1"⟩ (signedIn "alice" readWrite)),
    refresh ⟨2000, "t2", "r2"⟩ "r1" ["read"], refresh ⟨3000, "t3", "r3"⟩ "r1" [],
    .operation (.revokeToken "t3")]

/-- Where refresh tokens are supported, and the validities are the defaults. -/
def refreshing : DefaultTokenServices := { supportRefreshToken := true }

theorem keepsTokens_refreshing : refreshing.KeepsTokens := by
  intro enhancer h
  cases h

section Runs

variable {digest} {services} {used : List String} {s : InMemoryTokenStore} {g g' : TokenRegistry}
  {m : Moment} {a b : OAuth2Authentication} {token t : OAuth2AccessToken} {v value : String}
  {request : TokenRequest} {o : Option OAuth2AccessToken} {calls before after : List Call}

/-- What a creation returns is live, under the authentication that it was created for. -/
theorem token_of_created (h : Created digest services m a g (some token) g') :
    g'.token token.value = some token ∧ g'.authentication token.value = some a := by
  cases h with
  | existing _ vs hcurrent hlive => exact ⟨Function.update_self _ _ _, Function.update_self _ _ _⟩
  | issued _ vs r hdead hrenew hnew =>
    obtain ⟨htoken, hauthentication, -⟩ := issue_self token a
      (dropAll digest vs (cleared digest m.now a g))
    exact ⟨htoken, hauthentication⟩

theorem token_of_reissued {x : OAuth2RefreshToken}
    (h : Reissued digest services m a x g (some token) g') :
    g'.token token.value = some token ∧ g'.authentication token.value = some a := by
  cases h with
  | reused _ vs hreuse hnew => exact ⟨Function.update_self _ _ _, Function.update_self _ _ _⟩
  | rotated y _ vs hrotate hcreate hnew =>
    exact ⟨Function.update_self _ _ _, Function.update_self _ _ _⟩

theorem token_of_refreshed (h : Refreshed digest services m value request s (some token) g') :
    g'.token token.value = some token := by
  cases h with
  | reissued found a hread hlive hnarrow hreissued => exact (token_of_reissued hreissued).1

/-- What a call returns is live after it. -/
theorem token_of_returned (h : Sound digest used s.registry) {c : Call} (hname : c.Named)
    (hreturned : services.returned digest s c = some token) :
    (services.call digest s c).registry.token token.value = some token := by
  cases c with
  | operation op =>
    cases op with
    | createAccessToken m a =>
      have hcreated := created services h hname m
      rw [show (outcome (services.createAccessToken digest m a) s).toOption = some token
        from hreturned] at hcreated
      exact (token_of_created hcreated).1
    | refreshAccessToken m value request =>
      have hrefreshed := refreshed services h m value request
      rw [show (outcome (services.refreshAccessToken digest m value request) s).toOption =
        some token from hreturned] at hrefreshed
      exact token_of_refreshed hrefreshed
    | revokeToken v => cases hreturned
  | loadAuthentication now v => cases hreturned

theorem mem_issued (h : token ∈ issued digest services s calls) :
    ∃ before c after, calls = before ++ c :: after ∧
      services.returned digest (Runs.exec (services.call digest) s before) c = some token := by
  induction calls generalizing s with
  | nil => cases h
  | cons c calls ih =>
    rcases List.mem_append.mp h with hfirst | hrest
    · exact ⟨[], c, calls, rfl, Option.mem_toList.mp hfirst⟩
    · obtain ⟨before, c', after, hcalls, hreturned⟩ := ih hrest
      exact ⟨c :: before, c', after, by rw [hcalls]; rfl, hreturned⟩

theorem sound_start (digest : String → String) (flushInterval : ℤ) :
    Sound digest [] (registry { flushInterval := flushInterval }) := sound_empty digest

variable (digest) (services) in
/-- A run taken apart at one of its calls: the registry before it, after it and at the end is
sound, the values of the call and of the rest are new, and nothing comes back in the rest. -/
structure Around (flushInterval : ℤ) (before : List Call) (c : Call) (after : List Call) :
    Prop where
  sound : Sound digest (before.flatMap Call.drawn)
    (services.run digest flushInterval before).registry
  named : c.Named
  fresh : ∀ v ∈ c.drawn, v ∉ before.flatMap Call.drawn
  rest : ∀ v ∈ before.flatMap Call.drawn ++ c.drawn, v ∉ after.flatMap Call.drawn
  sound_next : Sound digest (before.flatMap Call.drawn ++ c.drawn)
    (services.call digest (services.run digest flushInterval before) c).registry
  sound_end : Sound digest ((before ++ c :: after).flatMap Call.drawn)
    (services.run digest flushInterval (before ++ c :: after)).registry
  continues : Continues (after.flatMap Call.drawn)
    (services.call digest (services.run digest flushInterval before) c).registry
    (services.run digest flushInterval (before ++ c :: after)).registry

variable (digest) in
theorem sound_of_genuine (hkeeps : services.KeepsTokens) (flushInterval : ℤ)
    (hcalls : Genuine calls) : Sound digest (calls.flatMap Call.drawn)
      (services.run digest flushInterval calls).registry := by
  have hempty := sound_start digest flushInterval
  have hrun := sound_run hkeeps hcalls hempty fun _ _ h => by cases h
  rw [List.nil_append] at hrun
  exact hrun.1

variable (digest) in
theorem around (hkeeps : services.KeepsTokens) (flushInterval : ℤ) {c : Call}
    (hcalls : Genuine (before ++ c :: after)) :
    Around digest services flushInterval before c after := by
  obtain ⟨hbefore, htail, hdisjoint⟩ := genuine_append.mp hcalls
  have hdrawn : ∀ v ∈ (c :: after).flatMap Call.drawn, v ∉ before.flatMap Call.drawn := by
    intro v hv hmem
    exact hdisjoint v hmem hv
  obtain ⟨⟨hname, hnew⟩, hafter, hlater⟩ := genuine_cons htail hdrawn
  have hsound := sound_of_genuine digest hkeeps flushInterval hbefore
  have hrest : ∀ v ∈ before.flatMap Call.drawn ++ c.drawn, v ∉ after.flatMap Call.drawn := by
    intro v hv hmem
    exact hlater v hmem hv
  have hcall := sound_call hkeeps hsound c hname hnew
  have hend := (sound_run hkeeps hafter hcall.1 hlater).2
  have hsame : services.run digest flushInterval (before ++ c :: after) = Runs.exec
      (services.call digest)
      (services.call digest (services.run digest flushInterval before) c) after := by
    rw [run, Runs.exec_append, Runs.exec_cons]
  rw [← hsame] at hend
  exact ⟨hsound, hname, hnew, hrest, hcall.1, sound_of_genuine digest hkeeps _ hcalls, hend⟩

/-- A value that is not live stays so while the drawn values are others. -/
theorem token_none_of_continues {drawn : List String} (h : Continues drawn g g') (hv : v ∉ drawn)
    (hnone : g.token v = none) : g'.token v = none := by
  cases hlive : g'.token v with
  | none => rfl
  | some x =>
    rcases h.token v x hlive with hold | hnew
    · rw [hnone] at hold
      cases hold
    · exact absurd hnew hv

theorem refreshToken_none_of_continues {drawn : List String} {r : String}
    (h : Continues drawn g g') (hr : r ∉ drawn) (hnone : g.refreshToken r = none) :
    g'.refreshToken r = none := by
  by_contra hlive
  rcases h.refreshToken r hlive with hold | hnew
  · exact hold hnone
  · exact hr hnew

theorem not_accepted_of_none {now : ℕ} (hnone : s.registry.token v = none) :
    outcome (services.loadAuthentication digest now v) s ≠ .ok a := by
  intro haccepted
  unfold outcome at haccepted
  rw [loadAuthentication_of_none hnone] at haccepted
  cases haccepted

/-- A refresh token that is not kept is refused. -/
theorem not_refreshed_of_none (h : Sound digest used s.registry)
    (hnone : s.registry.refreshToken value = none) :
    outcome (services.refreshAccessToken digest m value request) s ≠ .ok token := by
  intro hrefresh
  have hrefreshed := refreshed services h m value request
  rw [hrefresh] at hrefreshed
  cases hrefreshed with
  | reissued found a hread hlive hnarrow hreissued =>
    have hkept := (readable_of_ok hread).refreshToken
    rw [hnone] at hkept
    cases hkept

/-- The value of an access token that was returned never stands for another one. -/
theorem token_of_issued (hkeeps : services.KeepsTokens) {flushInterval : ℤ} (hcalls : Genuine calls)
    (h : t ∈ issued digest services { flushInterval := flushInterval } calls) :
    t.value ∈ calls.flatMap Call.drawn ∧
      ∀ x, (services.run digest flushInterval calls).registry.token t.value = some x → x = t := by
  obtain ⟨before, c, after, rfl, hreturned⟩ := mem_issued h
  have hsplit := around digest hkeeps flushInterval hcalls
  have hlive := token_of_returned hsplit.sound hsplit.named hreturned
  have hused : t.value ∈ before.flatMap Call.drawn ++ c.drawn := by
    refine hsplit.sound_next.used_token _ ?_
    rw [hlive]
    exact Option.some_ne_none t
  constructor
  · rw [List.flatMap_append, List.flatMap_cons, ← List.append_assoc]
    exact List.mem_append_left _ hused
  · intro x hx
    rcases hsplit.continues.token t.value x hx with hold | hnew
    · exact Option.some.inj (hold.symm.trans hlive)
    · exact absurd hnew (hsplit.rest _ hused)

/-- A refresh ends the access tokens that carry its refresh token. -/
theorem ended_by_refresh (hkeeps : services.KeepsTokens) (h : Sound digest used s.registry)
    (hvalue : m.accessTokenValue ∉ used) (hv : v ∈ used)
    (hcarries : ∀ x, s.registry.token v = some x → Carries x value)
    (hr : Refreshed digest services m value request s (some token) g') : g'.token v = none := by
  cases hr with
  | reissued found a hread hlive hnarrow hreissued =>
    have hfound := h.refresh_value_eq value found.1 (readable_of_ok hread).refreshToken
    have hunused := unused_withdraw h found.1.value
    have hnone : (withdraw digest found.1.value s.registry).token v = none := by
      cases hx : (withdraw digest found.1.value s.registry).token v with
      | none => rfl
      | some x =>
        have hcontinues : Continues [] s.registry (withdraw digest found.1.value s.registry) :=
          (continues_refl s.registry).withdraw found.1.value
        have hcarry := hcarries x ((hcontinues.token v x hx).resolve_right List.not_mem_nil)
        rw [← hfound] at hcarry
        exact absurd hcarry (hunused v x hx)
    have hne : ∀ {y}, services.newAccessToken m a y = .ok token → v ≠ token.value := by
      intro y hnew heq
      rw [heq, (newAccessToken_carries hkeeps hnew).1] at hv
      exact hvalue hv
    have hput : ∀ {g₁ : TokenRegistry} (vs : List String), g₁.token v = none →
        v ≠ token.value → (put digest token a (dropAll digest vs g₁)).token v = none := by
      intro g₁ vs hnone hne
      have hfewer : Fewer (dropAll digest vs g₁) g₁ := fewer_dropAll vs
      have hdropped : (dropAll digest vs g₁).token v = none := by
        rcases hfewer.token v with hgone | ⟨hsame, -⟩
        · exact hgone
        · rw [hsame]
          exact hnone
      exact (Function.update_of_ne hne _ _).trans hdropped
    cases hreissued with
    | reused _ vs hreuse hnew => exact hput vs hnone (hne hnew)
    | rotated y _ vs hrotate hcreate hnew =>
      have hforgotten : (forget found.1.value
        (withdraw digest found.1.value s.registry)).token v = none := hnone
      exact hput vs hforgotten (hne hnew)

/-- A revocation ends the access token and the refresh token that it carries. -/
theorem ended_by_revocation (h : Sound digest used s.registry)
    (hlive : s.registry.token v = some token) :
    (final (revokeToken digest v) s).registry.token v = none ∧
      ∀ r ∈ token.refreshToken,
        (final (revokeToken digest v) s).registry.refreshToken r.value = none := by
  have hregistry : (final (revokeToken digest v) s).registry = retire digest token s.registry := by
    rw [(revokeToken_apply h v).2, revoked, hlive]
  rw [hregistry, retire, h.value_eq v token hlive]
  constructor
  · exact Function.update_self _ _ _
  · intro r hr
    rw [Option.mem_def.mp hr]
    exact Function.update_self _ _ _

/-! ### The results on runs -/

theorem oneTokenPerRefreshToken_of_sound (h : Sound digest used s.registry) :
    OneTokenPerRefreshToken s := by
  intro v t r ht hr
  have hlinked := h.linked v t r ht hr
  refine ⟨hlinked, fun w u hu hcarries => ?_⟩
  have hother := h.linked w u r hu hcarries
  exact Option.some.inj (hother.symm.trans hlinked)

/-- Each refresh token has one access token, and a refresh ends those that it had before. -/
theorem one_token_per_refresh_token (hkeeps : services.KeepsTokens) (flushInterval : ℤ) :
    (∀ calls, Genuine calls →
      OneTokenPerRefreshToken (services.run digest flushInterval calls)) ∧
    ∀ before m value request after,
      Genuine (before ++ .operation (.refreshAccessToken m value request) :: after) →
      (∃ token, outcome (services.refreshAccessToken digest m value request)
        (services.run digest flushInterval before) = .ok token) →
      ∀ t ∈ issued digest services { flushInterval := flushInterval } before, Carries t value →
        ∀ now a, outcome (services.loadAuthentication digest now t.value)
          (services.run digest flushInterval
            (before ++ .operation (.refreshAccessToken m value request) :: after)) ≠ .ok a := by
  constructor
  · intro calls hcalls
    exact oneTokenPerRefreshToken_of_sound (sound_of_genuine digest hkeeps flushInterval hcalls)
  · rintro before m value request after hcalls ⟨token, hrefresh⟩ t ht hcarries now a
    have hsplit := around digest hkeeps flushInterval hcalls
    obtain ⟨hused, hsame⟩ := token_of_issued hkeeps (genuine_append.mp hcalls).1 ht
    have hrefreshed := refreshed services hsplit.sound m value request
    rw [hrefresh] at hrefreshed
    have hended := ended_by_refresh hkeeps hsplit.sound
      (hsplit.fresh m.accessTokenValue List.mem_cons_self) hused
      (fun x hx => by rw [hsame x hx]; exact hcarries) hrefreshed
    have hrest := hsplit.rest _ (List.mem_append_left _ hused)
    exact not_accepted_of_none (token_none_of_continues hsplit.continues hrest hended)

/-- The first token is refused once its refresh token has been used. -/
theorem one_token_per_refresh_token_refreshingRun :
    OneTokenPerRefreshToken (run id refreshing 1000 refreshingRun) ∧
      ∀ now a, outcome (refreshing.loadAuthentication id now "t1")
        (run id refreshing 1000 refreshingRun) ≠ .ok a := by
  have hruns : (∀ calls, Genuine calls → OneTokenPerRefreshToken (run id refreshing 1000 calls)) ∧
      ∀ before m value request after, _ → _ → _ :=
    one_token_per_refresh_token keepsTokens_refreshing 1000
  refine ⟨hruns.1 refreshingRun (by decide), ?_⟩
  let granted : OAuth2AccessToken :=
    ⟨"t1", some 43201000, some ⟨"r1", some 2592001000⟩, ["read", "write"]⟩
  have hended := hruns.2 (refreshingRun.take 1) ⟨2000, "t2", "r2"⟩ "r1"
    ⟨[], some "app", ["read"], none⟩ (refreshingRun.drop 2) (by decide)
    ⟨⟨"t2", some 43202000, some ⟨"r1", some 2592001000⟩, ["read"]⟩, by decide⟩ granted (by decide)
    ⟨⟨"r1", some 2592001000⟩, rfl, rfl⟩
  exact hended

/-- A revoked access token is never accepted again, nor is the refresh token that it carried. -/
theorem revoked_for_good (hkeeps : services.KeepsTokens) (flushInterval : ℤ) (v : String)
    (before after : List Call) (hcalls : Genuine (before ++ .operation (.revokeToken v) :: after))
    (hrevoked : outcome (revokeToken digest v) (services.run digest flushInterval before) =
      .ok true) :
    (∀ now a, outcome (services.loadAuthentication digest now v) (services.run digest flushInterval
      (before ++ .operation (.revokeToken v) :: after)) ≠ .ok a) ∧
    ∀ token ∈ (services.run digest flushInterval before).accessTokenStore v,
      ∀ r ∈ token.refreshToken, ∀ m request t,
        outcome (services.refreshAccessToken digest m r.value request)
          (services.run digest flushInterval
            (before ++ .operation (.revokeToken v) :: after)) ≠ .ok t := by
  have hsplit := around digest hkeeps flushInterval hcalls
  have houtcome := (revokeToken_apply hsplit.sound v).1
  have hlive := Except.ok.inj (houtcome.symm.trans hrevoked)
  obtain ⟨token, htoken⟩ := Option.isSome_iff_exists.mp hlive
  obtain ⟨hended, hforgotten⟩ := ended_by_revocation hsplit.sound htoken
  constructor
  · intro now a
    have hused := hsplit.sound.used_token v (by rw [htoken]; exact Option.some_ne_none token)
    have hrest := hsplit.rest v (List.mem_append_left _ hused)
    exact not_accepted_of_none (token_none_of_continues hsplit.continues hrest hended)
  · intro token' htoken' r hr m request t
    have hsame : token' = token := Option.some.inj (htoken'.symm.trans htoken)
    rw [hsame] at hr
    have hkept := hsplit.sound.kept v token htoken r hr
    have hused := hsplit.sound.used_refreshToken r.value (by
      rw [hkept]
      exact Option.some_ne_none r)
    have hrest := hsplit.rest _ (List.mem_append_left _ hused)
    exact not_refreshed_of_none hsplit.sound_end
      (refreshToken_none_of_continues hsplit.continues hrest (hforgotten r hr))

/-- The revoked token is not loaded again, and the refresh token it carried is spent. -/
theorem revoked_for_good_refreshingRun :
    (∀ now a, outcome (refreshing.loadAuthentication id now "t3")
      (run id refreshing 1000 refreshingRun) ≠ .ok a) ∧
    ∀ m request t, outcome (refreshing.refreshAccessToken id m "r1" request)
      (run id refreshing 1000 refreshingRun) ≠ .ok t := by
  have hrevoked := revoked_for_good keepsTokens_refreshing 1000 "t3" (refreshingRun.take 3) []
    (by decide) (by decide : outcome (revokeToken id "t3")
      (run id refreshing 1000 (refreshingRun.take 3)) = .ok true)
  constructor
  · intro now a
    exact hrevoked.1 now a
  · intro m request t
    exact hrevoked.2 ⟨"t3", some 43203000, some ⟨"r1", some 2592001000⟩, ["read", "write"]⟩
      (by decide) ⟨"r1", some 2592001000⟩ rfl m request t

/-! ### One token per key -/

/-- Every live token is filed as the current one of its key. -/
def Filed (digest : String → String) (g : TokenRegistry) : Prop :=
  ∀ v t, g.token v = some t → ∃ a, g.authentication v = some a ∧
    g.current (extractKey digest a) = some t

theorem filed_drop (h : Sound digest used g) (hfiled : Filed digest g) (v : String) :
    Filed digest (drop digest v g) := by
  intro w t ht
  obtain ⟨hne, hold⟩ := token_drop.mp ht
  obtain ⟨b, hb, hcurrent⟩ := hfiled w t hold
  refine ⟨b, authentication_drop.mpr ⟨hne, hb⟩, ?_⟩
  unfold drop
  cases ha : g.authentication v with
  | none => exact hcurrent
  | some a =>
    have hkey : extractKey digest b ≠ extractKey digest a := by
      intro heq
      obtain ⟨u, hu⟩ := h.live_of_authentication ha
      obtain ⟨a', ha', hcurrent'⟩ := hfiled v u hu
      rw [Option.some.inj (ha'.symm.trans ha), ← heq, hcurrent] at hcurrent'
      have hvalue := congrArg OAuth2AccessToken.value (Option.some.inj hcurrent')
      rw [h.value_eq w t hold, h.value_eq v u hu] at hvalue
      exact hne hvalue
    exact (Function.update_of_ne hkey _ _).trans hcurrent

theorem filed_dropAll (h : Sound digest used g) (hfiled : Filed digest g) (vs : List String) :
    Filed digest (dropAll digest vs g) := by
  induction vs generalizing g with
  | nil => exact hfiled
  | cons v vs ih => exact ih (h.drop v) (filed_drop h hfiled v)

theorem filed_put (hvalues : ∀ w x, g.token w = some x → x.value = w) (hfiled : Filed digest g)
    (hkey : ∀ x, g.current (extractKey digest a) = some x → x.value = t.value) :
    Filed digest (put digest t a g) := by
  intro w x hx
  rcases token_put.mp hx with ⟨rfl, rfl⟩ | ⟨hne, hold⟩
  · exact ⟨a, Function.update_self _ _ _, Function.update_self _ _ _⟩
  · obtain ⟨b, hb, hcurrent⟩ := hfiled w x hold
    have hother : extractKey digest b ≠ extractKey digest a := by
      intro heq
      rw [heq] at hcurrent
      have hvalue := hkey x hcurrent
      rw [hvalues w x hold] at hvalue
      exact hne hvalue
    exact ⟨b, (Function.update_of_ne hne _ _).trans hb,
      (Function.update_of_ne hother _ _).trans hcurrent⟩

theorem filed_retire (h : Sound digest used g) (hfiled : Filed digest g) (t : OAuth2AccessToken) :
    Filed digest (retire digest t g) := by
  have hdrop := filed_drop h hfiled t.value
  unfold retire
  cases t.refreshToken with
  | none => exact hdrop
  | some y => exact hdrop

theorem filed_withdraw (h : Sound digest used g) (hfiled : Filed digest g) (r : String) :
    Filed digest (withdraw digest r g) := by
  unfold withdraw
  cases g.linked r with
  | none => exact hfiled
  | some v => exact filed_drop h hfiled v

theorem filed_cleared (h : Sound digest used g) (hfiled : Filed digest g) (now : ℕ)
    (a : OAuth2Authentication) : Filed digest (cleared digest now a g) := by
  unfold cleared
  cases superseded digest now a g with
  | none => exact hfiled
  | some token => exact filed_retire h hfiled token

theorem filed_issue (hvalues : ∀ w x, g.token w = some x → x.value = w) (hfiled : Filed digest g)
    (hkey : g.current (extractKey digest a) = none) :
    Filed digest (TokenRegistry.issue digest t a g) := by
  have hput : Filed digest (put digest t a g) := by
    refine filed_put hvalues hfiled fun x hx => ?_
    rw [hkey] at hx
    cases hx
  unfold TokenRegistry.issue
  cases t.refreshToken with
  | none => exact hput
  | some y => exact hput

theorem current_fewer_none {k : String} (hfewer : Fewer g' g) (hnone : g.current k = none) :
    g'.current k = none := by
  cases hcurrent : g'.current k with
  | none => rfl
  | some x =>
    have hold := hfewer.current k x hcurrent
    rw [hnone] at hold
    cases hold

/-- Nothing is filed under a key whose token has made way. -/
theorem current_cleared (h : Sound digest used g)
    (hdead : superseded digest m.now a g = g.current (extractKey digest a)) :
    (cleared digest m.now a g).current (extractKey digest a) = none := by
  unfold cleared
  cases hsuperseded : superseded digest m.now a g with
  | none =>
    rw [hsuperseded] at hdead
    exact hdead.symm
  | some token =>
    have hcurrent := (current_of_superseded hsuperseded).1
    cases hleft : (retire digest token g).current (extractKey digest a) with
    | none => rfl
    | some x =>
      unfold retire at hleft
      have hold : g.current (extractKey digest a) = some x := by
        have hbefore := current_of_drop hleft
        cases hcarried : token.refreshToken with
        | none =>
          rw [hcarried] at hbefore
          exact hbefore
        | some y =>
          rw [hcarried] at hbefore
          exact hbefore
      have hsame : x = token := Option.some.inj (hold.symm.trans hcurrent)
      have hne : (drop digest token.value g).current (extractKey digest a) = some x →
          x.value ≠ token.value := current_drop_ne h
      have hdrop : (drop digest token.value g).current (extractKey digest a) = some x := by
        cases hcarried : token.refreshToken with
        | none =>
          rw [hcarried] at hleft
          exact hleft
        | some y =>
          rw [hcarried] at hleft
          exact hleft
      exact absurd (congrArg OAuth2AccessToken.value hsame) (hne hdrop)

theorem filed_created (h : Sound digest used g) (hfiled : Filed digest g)
    (hc : Created digest services m a g o g') : Filed digest g' := by
  cases hc with
  | existing token vs hcurrent hlive =>
    have hfewer : Fewer (dropAll digest vs g) g := fewer_dropAll vs
    refine filed_put (h.dropAll vs).value_eq (filed_dropAll h hfiled vs) fun x hx => ?_
    rw [Option.some.inj ((hfewer.current _ x hx).symm.trans hcurrent)]
  | issued token vs r hdead hrenew hnew =>
    have hcleared := sound_cleared h m.now a
    refine filed_issue (hcleared.dropAll vs).value_eq
      (filed_dropAll hcleared (filed_cleared h hfiled m.now a) vs) ?_
    exact current_fewer_none (fewer_dropAll vs) (current_cleared h hdead)
  | failed hdead hnew => exact filed_cleared h hfiled m.now a

theorem current_withdraw {k r : String} (h : Sound digest used g)
    (hlinked : ∀ x, g.current k = some x → g.linked r = some x.value) :
    (withdraw digest r g).current k = none := by
  cases hleft : (withdraw digest r g).current k with
  | none => rfl
  | some x =>
    unfold withdraw at hleft
    cases hr : g.linked r with
    | none =>
      simp only [hr] at hleft
      have hx := hlinked x hleft
      rw [hr] at hx
      cases hx
    | some v =>
      simp only [hr] at hleft
      have hold : g.current k = some x := current_of_drop hleft
      have hne : (drop digest v g).current k = some x → x.value ≠ v := current_drop_ne h
      have hx := hlinked x hold
      rw [hr] at hx
      exact absurd (Option.some.inj hx).symm (hne hleft)

theorem filed_refreshed (h : Sound digest used s.registry) (hfiled : Filed digest s.registry)
    (hcondition : Replaces digest services s (.operation (.refreshAccessToken m value request)))
    (hr : Refreshed digest services m value request s o g') : Filed digest g' := by
  cases hr with
  | refused hread => exact hfiled
  | expired found hread hexpired =>
    have hwithdraw := filed_withdraw h hfiled found.1.value
    exact hwithdraw
  | denied found hread hnarrow => exact filed_withdraw h hfiled found.1.value
  | reissued found a hread hlive hnarrow hreissued =>
    have hlinked : ∀ x, s.registry.current (extractKey digest a) = some x →
        s.registry.linked found.1.value = some x.value := by
      have hfound : WhenOk (services.readForRefresh s value request) _ := hcondition
      rw [hread] at hfound
      have hnarrowed : WhenOk (createRefreshedAuthentication found.2 request) _ := hfound
      rw [hnarrow] at hnarrowed
      exact hnarrowed
    have hnone := current_withdraw h hlinked
    have hsound := h.withdraw found.1.value
    have hwithdraw := filed_withdraw h hfiled found.1.value
    have hput : ∀ (token : OAuth2AccessToken) vs, Filed digest
        (put digest token a (dropAll digest vs (withdraw digest found.1.value s.registry))) := by
      intro token vs
      refine filed_put (hsound.dropAll vs).value_eq (filed_dropAll hsound hwithdraw vs)
        fun x hx => ?_
      rw [current_fewer_none (fewer_dropAll vs) hnone] at hx
      cases hx
    have hforget : ∀ (token : OAuth2AccessToken) vs, Filed digest (put digest token a
        (dropAll digest vs (forget found.1.value (withdraw digest found.1.value s.registry)))) := by
      intro token vs
      have hforgotten : Sound digest used
          (forget found.1.value (withdraw digest found.1.value s.registry)) :=
        hsound.forget (unused_withdraw h found.1.value)
      have hstill : Filed digest
          (forget found.1.value (withdraw digest found.1.value s.registry)) := hwithdraw
      have hfree : (forget found.1.value (withdraw digest found.1.value s.registry)).current
          (extractKey digest a) = none := hnone
      refine filed_put (hforgotten.dropAll vs).value_eq (filed_dropAll hforgotten hstill vs)
        fun x hx => ?_
      rw [current_fewer_none (fewer_dropAll vs) hfree] at hx
      cases hx
    cases hreissued with
    | failed hreuse hnew => exact hwithdraw
    | forgotten hrotate hnew => exact hwithdraw
    | unrotated token vs hrotate hcreate hnew => exact hforget token vs
    | reused token vs hreuse hnew => exact hput token vs
    | rotated y token vs hrotate hcreate hnew => exact hforget token vs

theorem filed_call (h : Sound digest used s.registry) (hfiled : Filed digest s.registry) {c : Call}
    (hname : c.Named) (hcondition : Replaces digest services s c) :
    Filed digest (services.call digest s c).registry := by
  cases c with
  | operation op =>
    cases op with
    | createAccessToken m a => exact filed_created h hfiled (created services h hname m)
    | refreshAccessToken m value request =>
      exact filed_refreshed h hfiled hcondition (refreshed services h m value request)
    | revokeToken v =>
      show Filed digest (final (revokeToken digest v) s).registry
      rw [(revokeToken_apply h v).2, revoked]
      cases s.registry.token v with
      | none => exact hfiled
      | some token => exact filed_retire h hfiled token
  | loadAuthentication now v =>
    obtain ⟨vs, hregistry⟩ := loadAuthentication_registry services h now v
    show Filed digest (final (services.loadAuthentication digest now v) s).registry
    rw [hregistry]
    exact filed_dropAll h hfiled vs

theorem filed_run (hkeeps : services.KeepsTokens) (hcalls : Genuine calls)
    (h : Sound digest used s.registry) (hnew : ∀ v ∈ calls.flatMap Call.drawn, v ∉ used)
    (hfiled : Filed digest s.registry)
    (hmeets : Runs.Meets (services.call digest) (Replaces digest services) s calls) :
    Filed digest (Runs.exec (services.call digest) s calls).registry := by
  apply invariant_run hkeeps (I := fun s => Filed digest s.registry) ?_ hcalls h hnew hmeets hfiled
  intro used s c hsound hname _ hcondition hfiled
  exact filed_call hsound hfiled hname hcondition

theorem oneTokenPerKey_of_filed (h : Sound digest used s.registry)
    (hfiled : Filed digest s.registry) : OneTokenPerKey digest s where
  distinct v w t u a b hne ht hu ha hb hkey := by
    obtain ⟨a', ha', hcurrent⟩ := hfiled v t ht
    obtain ⟨b', hb', hcurrent'⟩ := hfiled w u hu
    have ha : a' = a := Option.some.inj (ha'.symm.trans ha)
    have hb : b' = b := Option.some.inj (hb'.symm.trans hb)
    rw [ha, hkey, ← hb, hcurrent'] at hcurrent
    have hvalue := congrArg OAuth2AccessToken.value (Option.some.inj hcurrent)
    rw [h.value_eq v t ht, h.value_eq w u hu] at hvalue
    exact hne hvalue.symm
  filed := hfiled
  live k t ht := (h.current_stored k t ht).1

/-- Each key has one token, in runs whose refreshes never find a token filed under the key of
their scopes but the one that they replace. -/
theorem one_token_per_key (hkeeps : services.KeepsTokens) (flushInterval : ℤ) (calls : List Call)
    (hcalls : Genuine calls)
    (hmeets : Runs.Meets (services.call digest) (Replaces digest services)
      { flushInterval := flushInterval } calls) :
    OneTokenPerKey digest (services.run digest flushInterval calls) := by
  have hsound := sound_of_genuine digest hkeeps flushInterval hcalls
  have hempty : Filed digest (registry { flushInterval := flushInterval }) := by
    intro v t ht
    cases ht
  have hfiled := filed_run hkeeps hcalls (sound_start digest flushInterval)
    (fun _ _ hmem => by cases hmem) hempty hmeets
  exact oneTokenPerKey_of_filed hsound hfiled

theorem one_token_per_key_refreshingRun :
    OneTokenPerKey id (run id refreshing 1000 refreshingRun) :=
  one_token_per_key keepsTokens_refreshing 1000 refreshingRun (by decide) (by decide)

/-- The second grant is filed under the key that the first one has left for narrower scopes. The
full refresh of the first stores its token there as well. -/
theorem two_tokens_under_one_key :
    ¬ ∀ (services : DefaultTokenServices) (calls : List Call), services.KeepsTokens →
      Genuine calls → OneTokenPerKey id (run id services 1000 calls) := by
  intro h
  let calls : List Call :=
    [.operation (.createAccessToken ⟨1000, "t1", "r1"⟩ (signedIn "alice" readWrite)),
      refresh ⟨2000, "t2", "r2"⟩ "r1" ["read"],
      .operation (.createAccessToken ⟨3000, "t3", "r3"⟩ (signedIn "alice" readWrite)),
      refresh ⟨4000, "t4", "r4"⟩ "r1" []]
  have hkeys := h refreshing calls keepsTokens_refreshing (by decide)
  let refreshed : OAuth2Authentication :=
    signedIn "alice" (refreshedRequest readWrite ⟨[], some "app", [], none⟩)
  let third : OAuth2AccessToken :=
    ⟨"t3", some 43203000, some ⟨"r3", some 2592003000⟩, ["read", "write"]⟩
  let fourth : OAuth2AccessToken :=
    ⟨"t4", some 43204000, some ⟨"r1", some 2592001000⟩, ["read", "write"]⟩
  exact hkeys.distinct "t3" "t4" third fourth (signedIn "alice" readWrite) refreshed (by decide)
    (by decide +kernel) (by decide +kernel) (by decide +kernel) (by decide +kernel) (by decide)

end Runs

end DefaultTokenServices

end MaxKey.OAuth2
