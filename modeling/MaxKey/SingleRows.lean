import MaxKey.JdbcTokenStore
import MaxKey.TokenLifetimes

namespace MaxKey.OAuth2
open JavaException Effects Rows

namespace JdbcTokenStore
open InMemoryTokenStore (extractKey)
open DefaultTokenServices (Call Genuine createRefreshedAuthentication readWrite refresh refreshing
  refreshingRun signedIn)

/-- What a call does to the access tokens: it takes rows out and may put one in, under a token
id that no row has any more. The rows that are left then stand apart from the new one. -/
inductive Changed (digest : String → String) (apart : OAuth2Authentication → AccessTokenRow → Prop)
    (rows : List AccessTokenRow) : List AccessTokenRow → Prop
  | removed {kept : List AccessTokenRow} (hsub : kept.Sublist rows) : Changed digest apart rows kept
  | stored {kept : List AccessTokenRow} (token : OAuth2AccessToken) (a : OAuth2Authentication)
      (hsub : kept.Sublist rows) (hother : ∀ row ∈ kept, row.tokenId ≠ digest token.value)
      (hapart : ∀ row ∈ kept, apart a row) :
      Changed digest apart rows (kept ++ [rowOf digest token a])

/-- The rows that are left while a call runs. -/
def Kept (apart : AccessTokenRow → Prop) (rows : List AccessTokenRow) (s : JdbcTokenStore) : Prop :=
  s.oauthAccessToken.Sublist rows ∧ ∀ row ∈ s.oauthAccessToken, apart row

section Calls

variable {digest : String → String} {services : DefaultTokenServices} {managed : Bool}
  {apart : OAuth2Authentication → AccessTokenRow → Prop} {rows kept : List AccessTokenRow}
  {s : JdbcTokenStore} {token : OAuth2AccessToken} {a : OAuth2Authentication} {m : Moment}

theorem Changed.of_kept {p : AccessTokenRow → Prop} (h : Kept p rows s) :
    Changed digest apart rows s.oauthAccessToken := .removed h.1

theorem triple_storeAccessToken (hrows : Tidy digest rows) (token : OAuth2AccessToken) :
    Triple (Kept (apart a) rows) (storeAccessToken digest token a)
      (fun _ t => Changed digest apart rows t.oauthAccessToken)
      (fun t => Changed digest apart rows t.oauthAccessToken) := by
  intro t ht
  rw [storeAccessToken_apply (hrows.sublist ht.1)]
  have hsub : (t.oauthAccessToken.filter (·.tokenId ≠ digest token.value)).Sublist
      t.oauthAccessToken := List.filter_sublist
  refine Changed.stored token a (hsub.trans ht.1) ?_ ?_
  · intro row hrow
    simpa using (List.mem_filter.mp hrow).2
  · intro row hrow
    exact ht.2 row (hsub.subset hrow)

theorem triple_orError_kept {α : Type} {p : AccessTokenRow → Prop} (r : Except JavaException α) :
    Triple (Kept p rows) (orError r) (fun _ => Kept p rows)
      (fun t => Changed digest apart rows t.oauthAccessToken) :=
  triple_orError (fun _ _ _ ht => ht) fun _ ht => .of_kept ht

theorem triple_removeRefreshToken {p : AccessTokenRow → Prop} {fail : JdbcTokenStore → Prop}
    (value : String) :
    Triple (Kept p rows) (removeRefreshToken digest value) (fun _ => Kept p rows) fail :=
  triple_modify fun _ ht => ht

theorem triple_storeRefreshToken {fail : JdbcTokenStore → Prop} (r : OAuth2RefreshToken)
    (a : OAuth2Authentication) :
    Triple (fun t => Changed digest apart rows t.oauthAccessToken) (storeRefreshToken digest r a)
      (fun _ t => Changed digest apart rows t.oauthAccessToken) fail :=
  triple_modify fun _ ht => ht

theorem triple_issue (hrows : Tidy digest rows) (existing : Option OAuth2RefreshToken) :
    Triple (Kept (apart a) rows) ((tokenStore digest).issue services m a existing)
      (fun _ t => Changed digest apart rows t.oauthAccessToken)
      (fun t => Changed digest apart rows t.oauthAccessToken) := by
  refine triple_bind (triple_orError_kept _) fun refreshToken => ?_
  refine triple_bind (triple_orError_kept _) fun token => ?_
  refine triple_bind (triple_storeAccessToken hrows token) fun _ => ?_
  refine triple_bind (triple_forM fun r => ?_) fun _ => ?_
  · exact triple_storeRefreshToken r a
  · exact triple_pure fun _ ht => ht

theorem triple_reissue (hrows : Tidy digest rows) (refreshToken : OAuth2RefreshToken) :
    Triple (Kept (apart a) rows) ((tokenStore digest).reissue services m a refreshToken)
      (fun _ t => Changed digest apart rows t.oauthAccessToken)
      (fun t => Changed digest apart rows t.oauthAccessToken) := by
  refine triple_bind (M := fun _ => Kept (apart a) rows) ?_ fun refreshToken => ?_
  · unfold TokenStore.rotate
    split_ifs
    · exact triple_pure fun _ ht => ht
    · refine triple_bind (triple_removeRefreshToken refreshToken.value) fun _ => ?_
      exact triple_orError_kept _
  · refine triple_bind (triple_orError_kept _) fun token => ?_
    refine triple_bind (triple_storeAccessToken hrows token) fun _ => ?_
    refine triple_bind (M := fun _ t => Changed digest apart rows t.oauthAccessToken) ?_ fun _ => ?_
    · refine triple_onlyIf (fun _ => ?_) fun _ _ ht => ht
      refine triple_bind (M := fun _ t => Changed digest apart rows t.oauthAccessToken) ?_
        fun refreshToken => ?_
      · exact triple_orThrow (fun _ _ _ ht => ht) fun _ _ ht => ht
      · exact triple_storeRefreshToken refreshToken a
    · exact triple_pure fun _ ht => ht

/-- What an authentication's new row stands apart from when it is created: any row that has its
authentication id. -/
def Unauthenticated (digest : String → String) (a : OAuth2Authentication) (row : AccessTokenRow) :
    Prop := row.authenticationId ≠ extractKey digest a

/-- What the new row of a refresh stands apart from: the rows with the refresh token. -/
def Unrefreshed (digest : String → String) (services : DefaultTokenServices) (s : JdbcTokenStore)
    (m : Moment) (value : String) (request : TokenRequest) (a : OAuth2Authentication)
    (row : AccessTokenRow) : Prop :=
  ∃ found, outcome ((tokenStore digest).readForRefresh services value request) s = .ok found ∧
    found.1.isExpired m.now = false ∧ createRefreshedAuthentication found.2 request = .ok a ∧
      row.refreshToken ≠ some (digest found.1.value)

/-- The rows with the token's id are gone, which are all that have the authentication's. -/
theorem unauthenticated_of_removed {row : AccessTokenRow} (hrows : Tidy digest rows)
    (hselected : rows.filter (·.authenticationId = extractKey digest a) = [row]) :
    ∀ r ∈ rows.filter (·.tokenId ≠ digest row.token.value), Unauthenticated digest a r := by
  intro r hr hkey
  obtain ⟨hmem, hother⟩ := List.mem_filter.mp hr
  have hsame : r = row := by
    have hr' := mem_select.mpr ⟨hmem, hkey⟩
    rw [hselected] at hr'
    exact List.mem_singleton.mp hr'
  rw [hsame, hrows.tokenId_eq (hsame ▸ hmem)] at hother
  simp at hother

/-- An expired token goes, and with it the last row that has the authentication id. -/
theorem triple_replace {row : AccessTokenRow} (hrows : Tidy digest rows)
    (hselected : rows.filter (·.authenticationId = extractKey digest a) = [row]) :
    Triple (fun t => t.oauthAccessToken = rows)
      (do
        row.token.refreshToken.forM fun r => (tokenStore digest).removeRefreshToken r.value
        (tokenStore digest).removeAccessToken row.token.value
        (tokenStore digest).issue services m a row.token.refreshToken)
      (fun _ t => Changed digest (Unauthenticated digest) rows t.oauthAccessToken)
      (fun t => Changed digest (Unauthenticated digest) rows t.oauthAccessToken) := by
  refine triple_bind (triple_forM fun r => ?_) fun _ => ?_
  · exact triple_modify fun t ht => ht
  · refine triple_bind (M := fun _ => Kept (Unauthenticated digest a) rows) ?_ fun _ => ?_
    · refine triple_modify fun t ht => ?_
      rw [← ht]
      refine ⟨List.filter_sublist, ?_⟩
      show ∀ r ∈ t.oauthAccessToken.filter (·.tokenId ≠ digest row.token.value), _
      rw [ht]
      exact unauthenticated_of_removed hrows hselected
    · exact triple_issue hrows row.token.refreshToken

theorem changed_createAccessToken (hs : Tidy digest s.oauthAccessToken) (m : Moment)
    (a : OAuth2Authentication) :
    Changed digest (Unauthenticated digest) s.oauthAccessToken
      (final ((tokenStore digest).createAccessToken services m a) s).oauthAccessToken := by
  have hrun : Triple (fun t => t = s) ((tokenStore digest).createAccessToken services m a)
      (fun _ t => Changed digest (Unauthenticated digest) s.oauthAccessToken t.oauthAccessToken)
      (fun t => Changed digest (Unauthenticated digest) s.oauthAccessToken t.oauthAccessToken) := by
    rcases getAccessToken_cases hs a with ⟨-, e, hget⟩ | ⟨hnone, hget⟩ | ⟨row, hselected, hget⟩
    · exact triple_bind_of_error hget (.removed (List.Sublist.refl _))
    · refine triple_bind_of_ok hget ?_
      have hissue : Triple (Kept (Unauthenticated digest a) s.oauthAccessToken)
          ((tokenStore digest).issue services m a none) _ _ := triple_issue hs none
      refine triple_mono hissue (fun t ht => ?_) (fun _ _ ht => ht) fun _ ht => ht
      rw [ht]
      exact ⟨List.Sublist.refl _, hnone⟩
    · refine triple_bind_of_ok hget ?_
      dsimp only
      split_ifs with hexpired
      · refine triple_mono (triple_replace hs hselected) (fun t ht => ?_) (fun _ _ ht => ht)
          fun _ ht => ht
        rw [ht]
      · refine triple_bind_of_ok (storeAccessToken_apply hs) (triple_pure fun t ht => ?_)
        rw [ht]
        refine .stored row.token a List.filter_sublist ?_ (unauthenticated_of_removed hs hselected)
        intro r hr
        simpa using (List.mem_filter.mp hr).2
  exact final_of_triple hrun rfl

/-- A refresh only reads before it removes the rows with the refresh token. -/
theorem readForRefresh_leaves (digest : String → String) (services : DefaultTokenServices)
    (value : String) (request : TokenRequest) :
    Leaves id ((tokenStore digest).readForRefresh services value request) := by
  unfold TokenStore.readForRefresh
  refine leaves_bind (leaves_throwIf _ _) fun _ => ?_
  refine leaves_bind (leaves_bind (leaves_queryForObject _ _) fun _ => leaves_pure _) fun found => ?_
  refine leaves_bind (leaves_orThrow _ _) fun refreshToken => ?_
  refine leaves_bind (leaves_bind (leaves_queryForObject _ _) fun _ => leaves_pure _) fun stored => ?_
  refine leaves_bind (leaves_orThrow _ _) fun stored => ?_
  refine leaves_bind (leaves_orError _) fun a => ?_
  exact leaves_bind (leaves_throwIf _ _) fun _ => leaves_pure _

theorem changed_refreshAccessToken (hs : Tidy digest s.oauthAccessToken) (m : Moment)
    (value : String) (request : TokenRequest) :
    Changed digest (Unrefreshed digest services s m value request) s.oauthAccessToken
      (final ((tokenStore digest).refreshAccessToken services m value request) s).oauthAccessToken := by
  have hleaves := readForRefresh_leaves digest services value request s
  have hrun : Triple (fun t => t = s) ((tokenStore digest).refreshAccessToken services m value request)
      (fun _ t => Changed digest (Unrefreshed digest services s m value request)
        s.oauthAccessToken t.oauthAccessToken)
      (fun t => Changed digest (Unrefreshed digest services s m value request)
        s.oauthAccessToken t.oauthAccessToken) := by
    cases hread : (tokenStore digest).readForRefresh services value request s with
    | error e t =>
      have hsame : t = s := (final_of_error hread).symm.trans hleaves
      refine triple_bind_of_error hread ?_
      rw [hsame]
      exact .removed (List.Sublist.refl _)
    | ok found t =>
      have hsame : t = s := (final_of_ok hread).symm.trans hleaves
      rw [hsame] at hread
      have hfound : outcome ((tokenStore digest).readForRefresh services value request) s =
          .ok found := by simp only [outcome, hread]
      refine triple_bind_of_ok hread ?_
      refine triple_bind (M := fun _ => Kept
        (fun row => row.refreshToken ≠ some (digest found.1.value)) s.oauthAccessToken) ?_
        fun _ => ?_
      · refine triple_modify fun t ht => ?_
        rw [ht]
        refine ⟨List.filter_sublist, fun row hrow => ?_⟩
        simpa using (List.mem_filter.mp hrow).2
      · refine triple_bind (M := fun _ t => Kept
          (fun row => row.refreshToken ≠ some (digest found.1.value)) s.oauthAccessToken t ∧
          found.1.isExpired m.now = false) ?_ fun _ => ?_
        · refine triple_onlyIf (fun _ => ?_) fun hlive t ht => ⟨ht, by simpa using hlive⟩
          refine triple_bind (triple_removeRefreshToken found.1.value) fun _ => ?_
          exact triple_throw fun t ht => .of_kept ht
        · refine triple_bind (M := fun a t => Kept
            (Unrefreshed digest services s m value request a) s.oauthAccessToken t) ?_ fun a => ?_
          · refine triple_orError (fun a ha t ht => ?_) fun t ht => .of_kept ht.1
            exact ⟨ht.1.1, fun row hrow => ⟨found, hfound, ht.2, ha, ht.1.2 row hrow⟩⟩
          · exact triple_reissue hs found.1
  exact final_of_triple hrun rfl

theorem triple_removeAccessToken {fail : JdbcTokenStore → Prop} (value : String) :
    Triple (fun t => t.oauthAccessToken.Sublist rows) (removeAccessToken digest value)
      (fun _ t => t.oauthAccessToken.Sublist rows) fail :=
  triple_modify fun _ ht => List.filter_sublist.trans ht

/-- A call that only takes rows out. -/
theorem Changed.of_sublist {α : Type} {x : JdbcM α}
    (hx : Triple (fun t => t = s) x (fun _ t => t.oauthAccessToken.Sublist s.oauthAccessToken)
      (fun t => t.oauthAccessToken.Sublist s.oauthAccessToken)) :
    Changed digest apart s.oauthAccessToken (final x s).oauthAccessToken := by
  have hsub := final_of_triple hx rfl
  exact .removed hsub

theorem changed_revokeToken (hs : Tidy digest s.oauthAccessToken) (value : String) :
    Changed digest apart s.oauthAccessToken
      (final ((tokenStore digest).revokeToken value) s).oauthAccessToken := by
  refine .of_sublist ?_
  refine triple_bind_of_ok (readAccessToken_apply hs value) ?_
  refine triple_mono (P := fun t => t.oauthAccessToken.Sublist s.oauthAccessToken) ?_
    (fun t ht => ht ▸ List.Sublist.refl _) (fun _ _ ht => ht) fun _ ht => ht
  split
  · exact triple_pure fun _ ht => ht
  · refine triple_bind (triple_forM fun r => ?_) fun _ => ?_
    · exact triple_modify fun t ht => ht
    · refine triple_bind (triple_removeAccessToken _) fun _ => ?_
      exact triple_pure fun _ ht => ht

theorem changed_loadAuthentication (hs : Tidy digest s.oauthAccessToken) (now : ℕ)
    (value : String) :
    Changed digest apart s.oauthAccessToken
      (final ((tokenStore digest).loadAuthentication services now value) s).oauthAccessToken := by
  refine .of_sublist ?_
  refine triple_bind_of_ok (readAccessToken_apply hs value) ?_
  refine triple_mono (P := fun t => t.oauthAccessToken.Sublist s.oauthAccessToken) ?_
    (fun t ht => ht ▸ List.Sublist.refl _) (fun _ _ ht => ht) fun _ ht => ht
  refine triple_bind (triple_orThrow (fun _ _ _ ht => ht) fun _ _ ht => ht) fun token => ?_
  refine triple_bind (M := fun _ t => t.oauthAccessToken.Sublist s.oauthAccessToken) ?_ fun _ => ?_
  · refine triple_onlyIf (fun _ => ?_) fun _ _ ht => ht
    refine triple_bind (triple_removeAccessToken token.value) fun _ => ?_
    exact triple_throw fun _ ht => ht
  · have hread : Leaves oauthAccessToken ((tokenStore digest).readAuthentication token.value) :=
      leaves_bind (leaves_queryForObject _ _) fun _ => leaves_pure _
    refine triple_of_leaves (P := fun left : List AccessTokenRow => left.Sublist s.oauthAccessToken) ?_
    refine leaves_bind hread fun stored => ?_
    refine leaves_bind (leaves_orThrow _ _) fun result => ?_
    exact leaves_bind (leaves_orError _) fun _ => leaves_pure _

end Calls

variable (digest : String → String) (managed : Bool) (services : DefaultTokenServices)

/-- The tables after a run from empty ones. -/
abbrev run (calls : List Call) : JdbcTokenStore :=
  Runs.exec ((tokenStore digest).call services managed) {} calls

/-- At most one row has an authentication id, and at most one a token id. The queries for one
row that go by these columns find it or find none. -/
structure SingleRows (s : JdbcTokenStore) : Prop where
  authenticationId : ∀ key, (s.oauthAccessToken.filter (·.authenticationId = key)).length ≤ 1
  tokenId : ∀ id, (s.oauthAccessToken.filter (·.tokenId = id)).length ≤ 1
  getAccessToken : ∀ a, ∃ found, getAccessToken digest a s = .ok found s
  readAccessToken : ∀ value, ∃ found, readAccessToken digest value s = .ok found s

/-- A refresh finds no row under the authentication id of its scopes but those that it removes. -/
def Replaces (s : JdbcTokenStore) : Call → Prop
  | .operation (.refreshAccessToken m value request) =>
    WhenOk (outcome ((tokenStore digest).readForRefresh services value request) s) fun found =>
      found.1.isExpired m.now = false →
        WhenOk (createRefreshedAuthentication found.2 request) fun a =>
          ∀ row ∈ s.oauthAccessToken, row.authenticationId = extractKey digest a →
            row.refreshToken = some (digest found.1.value)
  | _ => True

instance (s : JdbcTokenStore) : DecidablePred (Replaces digest services s)
  | .operation (.refreshAccessToken _ _ _) =>
    inferInstanceAs (Decidable (WhenOk _ fun _ => _ → WhenOk _ fun _ => ∀ _ ∈ _, _ → _))
  | .operation (.createAccessToken _ _) | .operation (.revokeToken _) | .loadAuthentication _ _ =>
    isTrue trivial

/-- What the new row of a call stands apart from. -/
def Apart (s : JdbcTokenStore) : Call → OAuth2Authentication → AccessTokenRow → Prop
  | .operation (.refreshAccessToken m value request) =>
    Unrefreshed digest services s m value request
  | _ => Unauthenticated digest

section Runs

variable {digest} {managed} {services} {s : JdbcTokenStore} {rows rows' : List AccessTokenRow}
  {apart : OAuth2Authentication → AccessTokenRow → Prop} {calls : List Call}

theorem changed_transaction {α : Type} {x : JdbcM α} (rollsBack : JavaException → Bool)
    (h : Changed digest apart s.oauthAccessToken (final x s).oauthAccessToken) :
    Changed digest apart s.oauthAccessToken (final (transaction rollsBack x) s).oauthAccessToken := by
  rcases final_transaction rollsBack x s with hcommit | hrollback
  · rw [hcommit]
    exact h
  · rw [hrollback]
    exact .removed (List.Sublist.refl _)

theorem changed_call (services : DefaultTokenServices) (managed : Bool) (hs : Tidy digest s.oauthAccessToken) (c : Call) :
    Changed digest (Apart digest services s c) s.oauthAccessToken
      ((tokenStore digest).call services managed s c).oauthAccessToken := by
  cases c with
  | operation op =>
    cases op with
    | createAccessToken m a => exact changed_transaction _ (changed_createAccessToken hs m a)
    | refreshAccessToken m value request =>
      exact changed_transaction _ (changed_refreshAccessToken hs m value request)
    | revokeToken value => exact changed_revokeToken hs value
  | loadAuthentication now value => exact changed_loadAuthentication hs now value

theorem Changed.tidy (h : Changed digest apart rows rows') (hrows : Tidy digest rows) :
    Tidy digest rows' := by
  cases h with
  | removed hsub => exact hrows.sublist hsub
  | stored token a hsub hother hapart => exact (hrows.sublist hsub).insert hother

/-- A new row keeps the authentication ids single if none of the rows left has its own. -/
theorem Changed.single (h : Changed digest apart rows rows')
    (hapart : ∀ a, ∀ row ∈ rows, apart a row → row.authenticationId ≠ extractKey digest a)
    (hrows : Single AccessTokenRow.authenticationId rows) :
    Single AccessTokenRow.authenticationId rows' := by
  cases h with
  | removed hsub => exact hrows.sublist hsub
  | stored token a hsub hother hleft =>
    apply (hrows.sublist hsub).insert
    intro row hrow
    exact hapart a row (hsub.subset hrow) (hleft row hrow)

/-- No row that a new one stands apart from has its authentication id. -/
theorem authenticationId_ne_of_apart {c : Call} (hcondition : Replaces digest services s c)
    (a : OAuth2Authentication) (row : AccessTokenRow) (hrow : row ∈ s.oauthAccessToken)
    (h : Apart digest services s c a row) : row.authenticationId ≠ extractKey digest a := by
  cases c with
  | operation op =>
    cases op with
    | createAccessToken m b => exact h
    | refreshAccessToken m value request =>
      obtain ⟨found, hfound, hlive, hnarrow, hother⟩ := h
      intro hkey
      have hread : WhenOk (outcome ((tokenStore digest).readForRefresh services value request) s)
          _ := hcondition
      rw [hfound] at hread
      have hsettled : WhenOk (createRefreshedAuthentication found.2 request) _ := hread hlive
      rw [hnarrow] at hsettled
      exact hother (hsettled row hrow hkey)
    | revokeToken value => exact h
  | loadAuthentication now value => exact h

theorem tidy_run (managed : Bool) (services : DefaultTokenServices) (calls : List Call) :
    Tidy digest (run digest managed services calls).oauthAccessToken :=
  Runs.exec_induction (I := fun s : JdbcTokenStore => Tidy digest s.oauthAccessToken)
    (fun _ c hs => (changed_call services managed hs c).tidy hs) tidy_nil calls

theorem single_run
    (hmeets : Runs.Meets ((tokenStore digest).call services managed) (Replaces digest services) {}
      calls) :
    Single AccessTokenRow.authenticationId (run digest managed services calls).oauthAccessToken := by
  have hboth := Runs.exec_invariant (I := fun s : JdbcTokenStore => Tidy digest s.oauthAccessToken ∧
    Single AccessTokenRow.authenticationId s.oauthAccessToken) ?_ hmeets ⟨tidy_nil, single_nil⟩
  · exact hboth.2
  · intro s c hcondition hs
    have hchanged := changed_call services managed hs.1 c
    exact ⟨hchanged.tidy hs.1, hchanged.single (authenticationId_ne_of_apart hcondition) hs.2⟩

theorem singleRows_of_tidy (h : Tidy digest s.oauthAccessToken)
    (hsingle : Single AccessTokenRow.authenticationId s.oauthAccessToken) :
    SingleRows digest s where
  authenticationId := hsingle.select_length_le
  tokenId := h.tokenId.select_length_le
  getAccessToken a := by
    rcases getAccessToken_cases h a with ⟨hmany, -⟩ | ⟨-, hget⟩ | ⟨row, -, hget⟩
    · have hle := hsingle.select_length_le (extractKey digest a)
      omega
    · exact ⟨none, hget⟩
    · exact ⟨some row.token, hget⟩
  readAccessToken value := ⟨_, readAccessToken_apply h value⟩

/-- In runs whose refreshes never find a row under the authentication id of their scopes but
those that they remove, the queries for one row never meet two. -/
theorem single_rows (managed : Bool) (services : DefaultTokenServices) (calls : List Call)
    (hmeets : Runs.Meets ((tokenStore digest).call services managed) (Replaces digest services) {}
      calls) :
    SingleRows digest (run digest managed services calls) :=
  singleRows_of_tidy (tidy_run managed services calls) (single_run hmeets)

theorem single_rows_refreshingRun :
    SingleRows id (run id true refreshing refreshingRun) :=
  single_rows true refreshing refreshingRun (by decide)

/-- The full refresh stores its token under the authentication id that the second grant has
taken since the narrow one. The next grant then fails on two rows. -/
theorem two_rows_of_one_authentication :
    ¬ ∀ (managed : Bool) (services : DefaultTokenServices) (calls : List Call),
      Genuine calls → SingleRows id (run id managed services calls) := by
  intro h
  let calls : List Call :=
    [.operation (.createAccessToken ⟨1000, "t1", "r1"⟩ (signedIn "alice" readWrite)),
      refresh ⟨2000, "t2", "r2"⟩ "r1" ["read"],
      .operation (.createAccessToken ⟨3000, "t3", "r3"⟩ (signedIn "alice" readWrite)),
      refresh ⟨4000, "t4", "r4"⟩ "r1" []]
  have hsingle := h true refreshing calls (by decide)
  have hle := hsingle.authenticationId (extractKey id (signedIn "alice" readWrite))
  revert hle
  decide

/-- The token ids need no condition. -/
theorem one_row_per_token_id (calls : List Call) (id : String) :
    ((run digest managed services calls).oauthAccessToken.filter (·.tokenId = id)).length ≤ 1 :=
  (tidy_run managed services calls).tokenId.select_length_le id

end Runs

end JdbcTokenStore

end MaxKey.OAuth2
