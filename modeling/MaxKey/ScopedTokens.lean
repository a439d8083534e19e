import MaxKey.TokenGrants

namespace MaxKey.OAuth2
open JavaException Effects InMemoryTokenStore TokenRegistry

namespace DefaultTokenServices

variable (digest : String → String) (services : DefaultTokenServices)

/-- Under the key of the authentication is no unexpired token that was stored for other scopes. -/
def SameScopes (s : InMemoryTokenStore) (now : ℕ) (a : OAuth2Authentication) : Prop :=
  ∀ token ∈ s.authenticationToAccessTokenStore (extractKey digest a),
    token.isExpired now = false →
      ∀ b ∈ s.authenticationStore token.value, a.oAuth2Request.scope = b.oAuth2Request.scope

instance (s : InMemoryTokenStore) (now : ℕ) (a : OAuth2Authentication) :
    Decidable (SameScopes digest s now a) :=
  inferInstanceAs (Decidable (∀ _ ∈ _, _ = _ → ∀ _ ∈ _, _ = _))

/-- The call is no grant, or one that finds no token of other scopes. -/
def GrantsSameScopes (s : InMemoryTokenStore) : Call → Prop
  | .operation (.createAccessToken m a) => SameScopes digest s m.now a
  | _ => True

instance (s : InMemoryTokenStore) : DecidablePred (GrantsSameScopes digest s)
  | .operation (.createAccessToken m a) => inferInstanceAs (Decidable (SameScopes digest s m.now a))
  | .operation (.refreshAccessToken _ _ _) | .operation (.revokeToken _)
  | .loadAuthentication _ _ => isTrue trivial

section Scopes

variable {digest} {services} {used : List String} {s : InMemoryTokenStore}
  {g g' : TokenRegistry} {m : Moment} {a : OAuth2Authentication} {token t : OAuth2AccessToken}
  {value : String} {request : TokenRequest} {o : Option OAuth2AccessToken} {calls : List Call}

/-- A live token has the scopes of the authentication that it is stored with. -/
def Labelled (g : TokenRegistry) : Prop :=
  ∀ v t a, g.token v = some t → g.authentication v = some a → t.scope = a.oAuth2Request.scope

theorem Labelled.shrink (h : Labelled g) (hg : Shrinks g' g) : Labelled g' := by
  intro v t a ht ha
  obtain ⟨hlive, hauth⟩ := hg.token v t ht
  rw [hauth] at ha
  exact h v t a hlive ha

theorem Labelled.put (h : Labelled g) (ht : t.scope = a.oAuth2Request.scope) :
    Labelled (TokenRegistry.put digest t a g) := by
  intro v x b hx hb
  rcases token_put.mp hx with ⟨rfl, rfl⟩ | ⟨hne, hold⟩
  · have hself : (TokenRegistry.put digest t a g).authentication t.value = some a :=
      Function.update_self _ _ _
    rw [← Option.some.inj (hself.symm.trans hb)]
    exact ht
  · have hother : (TokenRegistry.put digest t a g).authentication v = g.authentication v :=
      Function.update_of_ne hne _ _
    exact h v x b hold (hother.symm.trans hb)

/-- What is kept beside the tokens does not matter to them. -/
theorem Labelled.keep {y : OAuth2RefreshToken} (h : Labelled g) :
    Labelled (TokenRegistry.keep y a g) := h

theorem Labelled.issue (h : Labelled g) (ht : t.scope = a.oAuth2Request.scope) :
    Labelled (TokenRegistry.issue digest t a g) := by
  unfold TokenRegistry.issue
  cases t.refreshToken with
  | none => exact h.put ht
  | some y => exact (h.put ht).keep

/-- A creation that finds no token of other scopes returns one of the scopes asked for. -/
theorem scope_of_created (hkeeps : services.KeepsTokens) (h : Sound digest used g)
    (hlabelled : Labelled g)
    (hsame : ∀ x, g.current (extractKey digest a) = some x → x.isExpired m.now = false →
      ∀ b, g.authentication x.value = some b → a.oAuth2Request.scope = b.oAuth2Request.scope)
    (hc : Created digest services m a g (some token) g') :
    token.scope = a.oAuth2Request.scope := by
  cases hc with
  | existing _ vs hcurrent hlive =>
    obtain ⟨hstored, b, hb, -⟩ := h.current_stored _ token hcurrent
    rw [hsame token hcurrent hlive b hb]
    exact hlabelled token.value token b hstored hb
  | issued _ vs r hdead hrenew hnew => exact scope_newAccessToken hkeeps hnew

theorem labelled_created (hkeeps : services.KeepsTokens) (hlabelled : Labelled g)
    (hscope : ∀ token ∈ o, token.scope = a.oAuth2Request.scope)
    (hc : Created digest services m a g o g') : Labelled g' := by
  cases hc with
  | existing token vs hcurrent hlive =>
    have hpruned : Labelled (dropAll digest vs g) := hlabelled.shrink (shrinks_dropAll vs)
    exact hpruned.put (hscope token rfl)
  | issued token vs r hdead hrenew hnew =>
    have hcleared : Labelled (cleared digest m.now a g) :=
      hlabelled.shrink (shrinks_cleared m.now a g)
    have hpruned : Labelled (dropAll digest vs (cleared digest m.now a g)) :=
      hcleared.shrink (shrinks_dropAll vs)
    exact hpruned.issue (scope_newAccessToken hkeeps hnew)
  | failed hdead hnew => exact hlabelled.shrink (shrinks_cleared m.now a g)

theorem labelled_refreshed (hkeeps : services.KeepsTokens) (hlabelled : Labelled s.registry)
    (hr : Refreshed digest services m value request s o g') : Labelled g' := by
  have hwithdrawn : ∀ r, Labelled (withdraw digest r s.registry) :=
    fun r => hlabelled.shrink (shrinks_withdraw r s.registry)
  have hforgotten : ∀ r, Labelled (forget r (withdraw digest r s.registry)) :=
    fun r => (hwithdrawn r).shrink (shrinks_forget r _)
  have hpruned : ∀ r vs, Labelled (dropAll digest vs (forget r (withdraw digest r s.registry))) :=
    fun r vs => (hforgotten r).shrink (shrinks_dropAll vs)
  cases hr with
  | refused hread => exact hlabelled
  | expired found hread hexpired => exact hforgotten found.1.value
  | denied found hread hnarrow => exact hwithdrawn found.1.value
  | reissued found a hread hlive hnarrow hreissued =>
    cases hreissued with
    | failed hreuse hnew => exact hwithdrawn found.1.value
    | forgotten hrotate hnew => exact hforgotten found.1.value
    | unrotated token vs hrotate hcreate hnew =>
      exact (hpruned found.1.value vs).put (scope_newAccessToken hkeeps hnew)
    | reused token vs hreuse hnew =>
      have hbefore : Labelled (dropAll digest vs (withdraw digest found.1.value s.registry)) :=
        (hwithdrawn found.1.value).shrink (shrinks_dropAll vs)
      exact hbefore.put (scope_newAccessToken hkeeps hnew)
    | rotated y token vs hrotate hcreate hnew =>
      exact ((hpruned found.1.value vs).put (scope_newAccessToken hkeeps hnew)).keep

theorem labelled_call (hkeeps : services.KeepsTokens) (h : Sound digest used s.registry)
    (hlabelled : Labelled s.registry) (c : Call) (hname : c.Named)
    (hsame : GrantsSameScopes digest s c) : Labelled (services.call digest s c).registry := by
  cases c with
  | operation op =>
    cases op with
    | createAccessToken m a =>
      have hcreated := created services h hname m
      refine labelled_created hkeeps hlabelled (fun token htoken => ?_) hcreated
      rw [Option.mem_def.mp htoken] at hcreated
      exact scope_of_created hkeeps h hlabelled hsame hcreated
    | refreshAccessToken m value request =>
      exact labelled_refreshed hkeeps hlabelled (refreshed services h m value request)
    | revokeToken v => exact hlabelled.shrink (shrinks_revokeToken h v)
  | loadAuthentication now v =>
    exact hlabelled.shrink (shrinks_loadAuthentication services h now v)

theorem labelled_run (hkeeps : services.KeepsTokens) (hcalls : Genuine calls)
    (h : Sound digest used s.registry) (hlabelled : Labelled s.registry)
    (hnew : ∀ v ∈ calls.flatMap Call.drawn, v ∉ used)
    (hmeets : Runs.Meets (services.call digest) (GrantsSameScopes digest) s calls) :
    Labelled (Runs.exec (services.call digest) s calls).registry := by
  apply invariant_run hkeeps (I := fun s => Labelled s.registry) ?_ hcalls h hnew hmeets hlabelled
  intro used s c hsound hname _ hsame hlabelled
  exact labelled_call hkeeps hsound hlabelled c hname hsame

/-- After a run whose grants find no tokens of other scopes, so does a creation for them. -/
theorem scope_of_run (hkeeps : services.KeepsTokens) (flushInterval : ℤ) (hcalls : Genuine calls)
    (hmeets : Runs.Meets (services.call digest) (GrantsSameScopes digest)
      { flushInterval := flushInterval } calls)
    (ha : a.oAuth2Request.clientId ≠ none)
    (hsame : SameScopes digest (services.run digest flushInterval calls) m.now a)
    (h : outcome (services.createAccessToken digest m a) (services.run digest flushInterval calls) =
      .ok token) : token.scope = a.oAuth2Request.scope := by
  have hsound := sound_of_genuine digest hkeeps flushInterval hcalls
  have hlabelled : Labelled (services.run digest flushInterval calls).registry := by
    refine labelled_run hkeeps hcalls (sound_start digest flushInterval) ?_ (fun _ _ h => by cases h)
      hmeets
    intro v t a ht
    cases ht
  have hcreated := created services hsound ha m
  rw [h] at hcreated
  exact scope_of_created hkeeps hsound hlabelled hsame hcreated

end Scopes

end DefaultTokenServices

end MaxKey.OAuth2
