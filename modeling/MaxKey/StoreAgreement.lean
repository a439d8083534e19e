import MaxKey.RedisTokenStore
import MaxKey.Runs
import Mathlib.Logic.Equiv.List
import Mathlib.Tactic.DeriveEncodable

namespace MaxKey.OAuth2.RedisTokenStore
open JavaException Effects Redis RedisConnection

/-- What changes a token store. -/
inductive Operation
  | storeAccessToken (now : ℕ) (token : OAuth2AccessToken) (authentication : OAuth2Authentication)
  | storeRefreshToken (now : ℕ) (token : OAuth2RefreshToken) (authentication : OAuth2Authentication)
  | removeAccessToken (tokenValue : String)
  | removeRefreshToken (tokenValue : String)
  | removeAccessTokenUsingRefreshToken (refreshToken : String)

variable (transformer : ObjectTransformer) (digest : String → String)

def inMemory (s : InMemoryTokenStore) : Operation → InMemoryTokenStore
  | .storeAccessToken now token a => final (InMemoryTokenStore.storeAccessToken digest now token a) s
  | .storeRefreshToken _ token a => InMemoryTokenStore.storeRefreshToken token a s
  | .removeAccessToken v => final (InMemoryTokenStore.removeAccessToken digest v) s
  | .removeRefreshToken v => InMemoryTokenStore.removeRefreshToken v s
  | .removeAccessTokenUsingRefreshToken r =>
    final (InMemoryTokenStore.removeAccessTokenUsingRefreshToken digest r) s

def redis (c : RedisConnection) : Operation → RedisConnection
  | .storeAccessToken now token a => final (storeAccessToken transformer digest now token a) c
  | .storeRefreshToken now token a => final (storeRefreshToken transformer now token a) c
  | .removeAccessToken v => final (removeAccessToken transformer digest v) c
  | .removeRefreshToken v => final (removeRefreshToken v) c
  | .removeAccessTokenUsingRefreshToken r =>
    final (removeAccessTokenUsingRefreshToken transformer digest r) c

/-- The collection that Redis finds has the tokens of the other one, and no null. -/
def SameTokens (found : Except JavaException (List (Option OAuth2AccessToken)))
    (tokens : List OAuth2AccessToken) : Prop :=
  ∃ result, found = .ok result ∧ ∀ o, o ∈ result ↔ ∃ token ∈ tokens, o = some token

/-- The stores give the same answers. -/
structure Agree (s : InMemoryTokenStore) (c : RedisConnection) : Prop where
  readAccessToken : ∀ v, outcome (readAccessToken transformer v) c = .ok (s.accessTokenStore v)
  readAuthentication : ∀ v,
    outcome (readAuthentication transformer v) c = .ok (s.authenticationStore v)
  readRefreshToken : ∀ v, outcome (readRefreshToken transformer v) c = .ok (s.refreshTokenStore v)
  getAccessToken : ∀ now a, outcome (getAccessToken transformer digest now a) c =
    outcome (InMemoryTokenStore.getAccessToken digest now a) s
  findTokensByClientId : ∀ clientId,
    SameTokens (outcome (findTokensByClientId transformer clientId) c)
      (s.findTokensByClientId clientId)
  findTokensByClientIdAndUserName : ∀ clientId userName,
    SameTokens (outcome (findTokensByClientIdAndUserName transformer clientId userName) c)
      (s.findTokensByClientIdAndUserName clientId userName)

/-- The time to live that is counted in whole seconds is left, and fits an int. -/
def Lasts (first last : ℕ) (expiration : ℕ) : Prop :=
  last + 1000 ≤ expiration ∧ expiration < first + 2 ^ 31 * 1000

/-- Nothing that is stored expires between the two times. -/
def Operation.Lasts (first last : ℕ) : Operation → Prop
  | storeAccessToken now token _ => first ≤ now ∧ now ≤ last ∧
      (∀ e ∈ token.expiration, RedisTokenStore.Lasts first last e) ∧
      ∀ r ∈ token.refreshToken, ∀ e ∈ r.expiration, RedisTokenStore.Lasts first last e
  | storeRefreshToken now token _ => first ≤ now ∧ now ≤ last ∧
      ∀ e ∈ token.expiration, RedisTokenStore.Lasts first last e
  | _ => True

def Operation.storesAccessToken : Operation → Bool
  | storeAccessToken _ _ _ => true
  | _ => false

section Keys

variable {transformer} {digest} {f g : Family} {name name' : String}

theorem append_ne_append {p q x y : String} (hp : ¬p.toList <+: q.toList)
    (hq : ¬q.toList <+: p.toList) : p ++ x ≠ q ++ y := by
  intro h
  have hlists : p.toList ++ x.toList = q.toList ++ y.toList := by
    simpa only [String.toList_append] using congrArg String.toList h
  have hleft : p.toList <+: q.toList ++ y.toList := by
    rw [← hlists]
    exact List.prefix_append _ _
  have hright : q.toList <+: q.toList ++ y.toList := List.prefix_append _ _
  rcases List.prefix_or_prefix_of_prefix hleft hright with hle | hle
  · exact hp hle
  · exact hq hle

/-- The keys of a family begin as those of no other. -/
theorem text_not_prefix : f ≠ g → ¬f.text.toList <+: g.text.toList := by
  cases f <;> cases g <;> decide

/-- Keys of different families differ. -/
theorem key_ne (h : f ≠ g) : f.key name ≠ g.key name' := by
  apply append_ne_append
  · exact text_not_prefix h
  · exact text_not_prefix h.symm

theorem colon_mem_key (f : Family) (name : String) : ':' ∈ (f.key name).toList := by
  have hcolon : ':' ∈ f.text.toList := by cases f <;> decide
  unfold Family.key
  rw [String.toList_append]
  exact List.mem_append_left _ hcolon

theorem secondsUntil_pos {first last now e : ℕ} (hfirst : first ≤ now) (hlast : now ≤ last)
    (h : Lasts first last e) : 0 < secondsUntil now e := by
  obtain ⟨hlong, hshort⟩ := h
  unfold secondsUntil
  have htdiv : ((e : ℤ) - now).tdiv 1000 = ((e : ℤ) - now) / 1000 :=
    Int.tdiv_eq_ediv_of_nonneg (by omega)
  rw [htdiv, Int.bmod_def]
  omega

end Keys

section Database

variable {transformer} {digest} {P Q : Database → Prop} {α : Type} {now first last : ℕ}
  {token : OAuth2AccessToken} {a : OAuth2Authentication} {c : RedisConnection}
  {fail : RedisConnection → Prop} {k : String}

def On (P : Database → Prop) (c : RedisConnection) : Prop := P c.database

/-- The families of the search indexes, which hold lists. -/
def Family.isIndex : Family → Bool
  | clientIdToAccess | unameToAccess => true
  | _ => false

variable (transformer) in
/-- The property survives what the store writes: a text or a deletion under a key that is no index,
and a push of an object under one that is. -/
structure Closed (P : Database → Prop) : Prop where
  set : ∀ f name value db, Family.isIndex f = false → P db → P (db.set (f.key name) value)
  del : ∀ f name db, Family.isIndex f = false → P db → P (db.del (f.key name))
  push : ∀ f name object db, Family.isIndex f = true → P db →
    ∃ db', db.rpush (f.key name) (transformer.serialize object) = some db' ∧ P db'

theorem triple_command {f : Database → Database} (h : ∀ db, P db → Q (f db)) :
    Triple (On P) (command f) (fun _ => On Q) fail := triple_modify fun c hc => h c.database hc

theorem triple_set (h : Closed transformer P) {f : Family} (hf : f.isIndex = false)
    (name value : String) : Triple (On P) (set (f.key name) value) (fun _ => On P) fail :=
  triple_command fun db hdb => h.set f name value db hf hdb

theorem triple_expire {seconds : ℤ} (h : 0 < seconds) (key : String) :
    Triple (On P) (expire key seconds) (fun _ => On P) fail := by
  refine triple_command fun db hdb => ?_
  rw [Database.expire_of_pos h]
  exact hdb

theorem triple_rPush {key : String} {object : Serializable}
    (h : ∀ db, P db → ∃ db', db.rpush key (transformer.serialize object) = some db' ∧ Q db') :
    Triple (On P) (rPush transformer key object) (fun _ => On Q) fail := by
  intro c hc
  obtain ⟨db', hpush, hQ⟩ := h c.database hc
  have hrun : rPush transformer key object c = .ok () { c with database := db' } := by
    unfold rPush
    rw [bind_of_ok (get_apply c), hpush]
    rfl
  rw [hrun]
  exact hQ

theorem triple_openPipeline : Triple (On P) openPipeline (fun _ => On P) fail :=
  triple_modify fun _ hc => hc

theorem triple_closePipeline : Triple (On P) closePipeline (fun _ => On P) fail := by
  refine triple_bind (M := fun _ => On P) (triple_get fun _ hc => hc) fun _ => ?_
  exact triple_bind (M := fun _ => On P) (triple_modify fun _ hc => hc) fun _ =>
    triple_pure fun _ hc => hc

theorem triple_linkRefreshToken (h : Closed transformer P) {refreshToken : OAuth2RefreshToken}
    (hfirst : first ≤ now) (hlast : now ≤ last)
    (hlasts : ∀ e ∈ refreshToken.expiration, Lasts first last e) :
    Triple (On P) (linkRefreshToken now token refreshToken) (fun _ => On P) fail := by
  refine triple_bind (triple_set h rfl _ _) fun _ => triple_bind (triple_set h rfl _ _) fun _ => ?_
  cases hexpiration : refreshToken.expiration with
  | none => exact triple_pure fun _ hc => hc
  | some e =>
    have hpos := secondsUntil_pos hfirst hlast (hlasts e hexpiration)
    exact triple_bind (triple_expire hpos _) fun _ => triple_expire hpos _

/-- Storing a token keeps a closed property, and what the push under its client establishes. -/
theorem triple_storeAccessToken (hP : Closed transformer P) (hQ : Closed transformer Q)
    (hpush : ∀ db, P db → ∃ db', db.rpush (clientKey a)
      (transformer.serialize (.accessToken token)) = some db' ∧ Q db')
    (hlasts : (Operation.storeAccessToken now token a).Lasts first last) :
    Triple (On P) (storeAccessToken transformer digest now token a) (fun _ => On Q) fail := by
  obtain ⟨hfirst, hlast, htoken, hrefresh⟩ := hlasts
  refine triple_bind triple_openPipeline fun _ => triple_bind (triple_set hP rfl _ _) fun _ => ?_
  refine triple_bind (triple_set hP rfl _ _) fun _ => triple_bind (triple_set hP rfl _ _) fun _ => ?_
  refine triple_bind (M := fun _ => On P) (triple_onlyIf (fun _ => ?_) fun _ _ hc => hc) fun _ => ?_
  · exact triple_rPush fun db hdb => hP.push .unameToAccess _ _ db rfl hdb
  refine triple_bind (triple_rPush hpush) fun _ => triple_bind (M := fun _ => On Q) ?_ fun _ => ?_
  · cases hexpiration : token.expiration with
    | none => exact triple_pure fun _ hc => hc
    | some e =>
      have hpos := secondsUntil_pos hfirst hlast (htoken e hexpiration)
      refine triple_bind (triple_expire hpos _) fun _ => triple_bind (triple_expire hpos _) fun _ => ?_
      refine triple_bind (triple_expire hpos _) fun _ => triple_bind (triple_expire hpos _) fun _ => ?_
      exact triple_expire hpos _
  refine triple_bind (M := fun _ => On Q) ?_ fun _ => triple_bind triple_closePipeline fun _ =>
    triple_pure fun _ hc => hc
  cases hcarried : token.refreshToken with
  | none => exact triple_pure fun _ hc => hc
  | some refreshToken =>
    exact triple_linkRefreshToken hQ hfirst hlast fun e he => hrefresh refreshToken hcarried e he

theorem triple_storeRefreshToken (h : Closed transformer P) {refreshToken : OAuth2RefreshToken}
    (hlasts : (Operation.storeRefreshToken now refreshToken a).Lasts first last) :
    Triple (On P) (storeRefreshToken transformer now refreshToken a) (fun _ => On P) fail := by
  obtain ⟨hfirst, hlast, htoken⟩ := hlasts
  refine triple_bind triple_openPipeline fun _ => triple_bind (triple_set h rfl _ _) fun _ => ?_
  refine triple_bind (triple_set h rfl _ _) fun _ => triple_bind (M := fun _ => On P) ?_ fun _ =>
    triple_bind triple_closePipeline fun _ => triple_pure fun _ hc => hc
  cases hexpiration : refreshToken.expiration with
  | none => exact triple_pure fun _ hc => hc
  | some e =>
    have hpos := secondsUntil_pos hfirst hlast (htoken e hexpiration)
    exact triple_bind (triple_expire hpos _) fun _ => triple_expire hpos _

variable (transformer) (digest) in
/-- No command is ever queued on the pipeline, so the first reply is missing. -/
theorem removeAccessToken_apply (v : String) (c : RedisConnection) :
    removeAccessToken transformer digest v c = .error indexOutOfBounds
      { database := ((c.database.del (Family.access.key v)).del (Family.accessToRefresh.key v)).del
          (Family.auth.key v)
        pipeline := [] } := rfl

variable (transformer) (digest) in
theorem removeAccessTokenUsingRefreshToken_apply (r : String) (c : RedisConnection) :
    removeAccessTokenUsingRefreshToken transformer digest r c =
      match c.database.get (Family.refreshToAccess.key r) with
      | none => .error wrongType { c with pipeline := [] }
      | some _ => .error indexOutOfBounds
          { database := c.database.del (Family.refreshToAccess.key r), pipeline := [] } := by
  cases hget : c.database.get (Family.refreshToAccess.key r) with
  | none =>
    unfold removeAccessTokenUsingRefreshToken RedisConnection.get
    simp [bind_apply, openPipeline, hget, orThrow]
  | some value =>
    unfold removeAccessTokenUsingRefreshToken RedisConnection.get
    simp [bind_apply, openPipeline, hget, orThrow]
    rfl

theorem redis_closed (h : Closed transformer P) {op : Operation} (hlasts : op.Lasts first last)
    (hc : On P c) : On P (redis transformer digest c op) := by
  cases op with
  | storeAccessToken now token a =>
    refine final_of_triple (triple_storeAccessToken h h ?_ hlasts) hc
    exact fun db hdb => h.push .clientIdToAccess _ _ db rfl hdb
  | storeRefreshToken now token a => exact final_of_triple (triple_storeRefreshToken h hlasts) hc
  | removeAccessToken v =>
    have hrun : redis transformer digest c (.removeAccessToken v) = _ :=
      final_of_error (removeAccessToken_apply transformer digest v c)
    rw [hrun]
    exact h.del .auth _ _ rfl (h.del .accessToRefresh _ _ rfl (h.del .access _ _ rfl hc))
  | removeRefreshToken v =>
    have hrefresh := h.del .refreshAuth v _ rfl (h.del .refresh v _ rfl hc)
    exact h.del .accessToRefresh _ _ rfl (h.del .refreshToAccess _ _ rfl hrefresh)
  | removeAccessTokenUsingRefreshToken r =>
    have hrun := removeAccessTokenUsingRefreshToken_apply transformer digest r c
    cases hget : c.database.get (Family.refreshToAccess.key r) with
    | none =>
      rw [hget] at hrun
      have hfinal : redis transformer digest c (.removeAccessTokenUsingRefreshToken r) = _ :=
        final_of_error hrun
      rw [hfinal]
      exact hc
    | some value =>
      rw [hget] at hrun
      have hfinal : redis transformer digest c (.removeAccessTokenUsingRefreshToken r) = _ :=
        final_of_error hrun
      rw [hfinal]
      exact h.del .refreshToAccess _ _ rfl hc

/-- Every key is of a family, the indexes hold lists, and these list serialised objects. -/
structure Ordered (db : Database) : Prop where
  colon : ∀ key, db key ≠ none → ':' ∈ key.toList
  index : ∀ f name value, Family.isIndex f = true → db (f.key name) ≠ some (.text value)
  listed : ∀ key values, db key = some (.list values) → ∀ value ∈ values, ':' ∉ value.toList

theorem ordered_empty : Ordered fun _ => none where
  colon _ h := absurd rfl h
  index _ _ _ _ h := by cases h
  listed _ _ h := by cases h

theorem family_ne {f g : Family} (hf : f.isIndex = false) (hg : g.isIndex = true) : g ≠ f := by
  intro h
  rw [h, hf] at hg
  cases hg

theorem Ordered.set {f : Family} {db : Database} (h : Ordered db) (hf : f.isIndex = false)
    (name value : String) : Ordered (db.set (f.key name) value) := by
  have hother : ∀ key, key ≠ f.key name → (db.set (f.key name) value) key = db key :=
    fun key hne => Database.set_of_ne hne
  refine ⟨fun key hkey => ?_, fun g name' value' hg => ?_, fun key values hvalues => ?_⟩
  · by_cases hsame : key = f.key name
    · rw [hsame]
      exact colon_mem_key f name
    · rw [hother key hsame] at hkey
      exact h.colon key hkey
  · rw [hother _ (key_ne (family_ne hf hg))]
    exact h.index g name' value' hg
  · by_cases hsame : key = f.key name
    · rw [hsame, Database.set_self] at hvalues
      cases hvalues
    · rw [hother key hsame] at hvalues
      exact h.listed key values hvalues

theorem Ordered.del {db : Database} (h : Ordered db) (key : String) : Ordered (db.del key) := by
  have hleft : ∀ key' value, (db.del key) key' = some value → db key' = some value := by
    intro key' value hvalue
    by_cases hsame : key' = key
    · rw [hsame, Database.del_self] at hvalue
      cases hvalue
    · rwa [Database.del_of_ne hsame] at hvalue
  refine ⟨fun key' hkey => ?_, fun g name value hg htext => ?_, fun key' values hvalues => ?_⟩
  · obtain ⟨value, hvalue⟩ := Option.ne_none_iff_exists'.mp hkey
    exact h.colon key' (by rw [hleft key' value hvalue]; exact Option.some_ne_none value)
  · exact h.index g name value hg (hleft _ _ htext)
  · exact h.listed key' values (hleft key' _ hvalues)

/-- An index takes every push. -/
theorem Ordered.pushes {f : Family} {db : Database} (h : Ordered db) (hf : f.isIndex = true)
    (name value : String) : ∃ db', db.rpush (f.key name) value = some db' := by
  unfold Database.rpush
  cases hfound : db (f.key name) with
  | none => exact ⟨_, rfl⟩
  | some found =>
    cases found with
    | text text => exact absurd hfound (h.index f name text hf)
    | list values => exact ⟨_, rfl⟩

theorem Ordered.rpush {f : Family} {db db' : Database} {name value : String} (h : Ordered db)
    (hvalue : ':' ∉ value.toList) (hpush : db.rpush (f.key name) value = some db') :
    Ordered db' := by
  obtain ⟨⟨values, hlist, hbefore⟩, hother⟩ := Database.rpush_eq_some hpush
  refine ⟨fun key hkey => ?_, fun g name' text hg => ?_, fun key found hfound => ?_⟩
  · by_cases hsame : key = f.key name
    · rw [hsame]
      exact colon_mem_key f name
    · rw [hother key hsame] at hkey
      exact h.colon key hkey
  · by_cases hsame : g.key name' = f.key name
    · rw [hsame, hlist]
      exact fun heq => by cases heq
    · rw [hother _ hsame]
      exact h.index g name' text hg
  · by_cases hsame : key = f.key name
    · rw [hsame, hlist] at hfound
      cases hfound
      intro element helement
      rcases List.mem_append.mp helement with hold | hnew
      · rcases hbefore with ⟨-, hnil⟩ | hold'
        · rw [hnil] at hold
          cases hold
        · exact h.listed _ values hold' element hold
      · rw [List.mem_singleton.mp hnew]
        exact hvalue
    · rw [hother key hsame] at hfound
      exact h.listed key found hfound

variable (transformer) in
theorem ordered_closed : Closed transformer Ordered where
  set _ name value _ hf h := h.set hf name value
  del f name _ _ h := h.del (f.key name)
  push f name object db hf h := by
    obtain ⟨db', hpush⟩ := h.pushes hf name (transformer.serialize object)
    exact ⟨db', hpush, h.rpush (transformer.hexadecimal object) hpush⟩

/-- Under the key is a list with an element. -/
def Listed (key : String) (db : Database) : Prop :=
  ∃ value values, db key = some (.list (value :: values))

variable (transformer) in
/-- Once a client has been pushed a token, its list is never emptied. -/
theorem listed_closed (clientId : String) : Closed transformer fun db =>
    Ordered db ∧ Listed (Family.clientIdToAccess.key clientId) db where
  set f name value db hf h := by
    refine ⟨h.1.set hf name value, ?_⟩
    obtain ⟨first, rest, hlist⟩ := h.2
    exact ⟨first, rest, (Database.set_of_ne (key_ne (family_ne hf rfl))).trans hlist⟩
  del f name db hf h := by
    refine ⟨h.1.del (f.key name), ?_⟩
    obtain ⟨first, rest, hlist⟩ := h.2
    exact ⟨first, rest, (Database.del_of_ne (key_ne (family_ne hf rfl))).trans hlist⟩
  push f name object db hf h := by
    obtain ⟨db', hpush, hordered⟩ := (ordered_closed transformer).push f name object db hf h.1
    refine ⟨db', hpush, hordered, ?_⟩
    obtain ⟨first, rest, hlist⟩ := h.2
    obtain ⟨⟨values, hnow, hbefore⟩, hother⟩ := Database.rpush_eq_some hpush
    by_cases hsame : Family.clientIdToAccess.key clientId = f.key name
    · rw [hsame] at hlist ⊢
      rcases hbefore with ⟨hnone, -⟩ | hold
      · rw [hlist] at hnone
        cases hnone
      · have hvalues : values = first :: rest := by
          rw [hlist] at hold
          cases hold
          rfl
        rw [hvalues] at hnow
        exact ⟨first, _, hnow⟩
    · exact ⟨first, rest, (hother _ hsame).trans hlist⟩

end Database

section Runs

variable {transformer} {digest} {P : Database → Prop} {first last : ℕ} {s : InMemoryTokenStore}
  {c : RedisConnection} {ops : List Operation} {v clientId : String}

variable (digest) in
/-- The induction is on the run. -/
theorem redis_run_closed (h : Closed transformer P) (hlasts : ∀ op ∈ ops, op.Lasts first last)
    (hc : On P c) : On P (Runs.exec (redis transformer digest) c ops) := by
  induction ops generalizing c with
  | nil => exact hc
  | cons op ops ih =>
    have hstep : On P (redis transformer digest c op) :=
      redis_closed h (hlasts op List.mem_cons_self) hc
    exact ih (fun op' hop' => hlasts op' (List.mem_cons_of_mem op hop')) hstep

theorem getObject_of_none {α : Type} {cast : Serializable → Option α} {key : String}
    (h : c.database key = none) : getObject transformer cast key c = .ok none c := by
  have hget : RedisConnection.get key c = .ok none c := by
    unfold RedisConnection.get
    rw [bind_of_ok (get_apply c), Database.get_of_none h]
    rfl
  exact bind_of_ok hget

theorem getObject_of_text {α : Type} {cast : Serializable → Option α} {key : String}
    {object : Serializable} {a : α}
    (h : c.database key = some (.text (transformer.serialize object)))
    (hcast : cast object = some a) : getObject transformer cast key c = .ok (some a) c := by
  have hget : RedisConnection.get key c = .ok (some (transformer.serialize object)) c := by
    unfold RedisConnection.get
    rw [bind_of_ok (get_apply c), Database.get_of_text h]
    rfl
  refine (bind_of_ok hget).trans ?_
  simp only [transformer.deserialize_serialize, orError_ok_bind, hcast, orThrow_some_bind]
  rfl

theorem lRange_of_value {key : String} {values : List String}
    (h : c.database.lrange key = some values) : lRange key c = .ok values c := by
  unfold lRange
  rw [bind_of_ok (get_apply c), h]
  rfl

/-- A listed object is no key, so what is read under it is null. -/
theorem none_mem_of_getObjects {value : String} {values : List String}
    {tokens : List (Option OAuth2AccessToken)} {c' : RedisConnection}
    (h : c.database value = none)
    (hrun : getObjects transformer (value :: values) c = .ok tokens c') : none ∈ tokens := by
  obtain ⟨accessToken, c₁, hfirst, hrun⟩ := bind_eq_ok.mp hrun
  obtain ⟨accessTokens, c₂, -, hreturn⟩ := bind_eq_ok.mp hrun
  have hsame : accessToken = none := by
    rw [getObject_of_none h] at hfirst
    cases hfirst
    rfl
  have htokens : tokens = accessToken :: accessTokens := by
    cases hreturn
    rfl
  rw [htokens, hsame]
  exact List.mem_cons_self

/-- A client whose list has an element finds a null in Redis. -/
theorem not_agree_of_listed (h : Ordered c.database)
    (hlisted : Listed (Family.clientIdToAccess.key clientId) c.database) :
    ¬Agree transformer digest s c := by
  intro hagree
  obtain ⟨value, values, hlist⟩ := hlisted
  have hrange : lRange (Family.clientIdToAccess.key clientId) c = .ok (value :: values) c :=
    lRange_of_value (Database.lrange_of_list hlist)
  have hfree : c.database value = none := by
    by_contra hkey
    exact h.listed _ _ hlist value List.mem_cons_self (h.colon value hkey)
  have hrun : findTokensByClientId transformer clientId c =
      getObjects transformer (value :: values) c := bind_of_ok hrange
  obtain ⟨tokens, hfound, hsame⟩ := hagree.findTokensByClientId clientId
  unfold outcome at hfound
  rw [hrun] at hfound
  cases hobjects : getObjects transformer (value :: values) c with
  | error e c' =>
    rw [hobjects] at hfound
    cases hfound
  | ok tokens' c' =>
    rw [hobjects] at hfound
    cases hfound
    obtain ⟨token, -, hnull⟩ := (hsame none).mp (none_mem_of_getObjects hfree hobjects)
    cases hnull

/-- After an access token has been stored the stores never agree again. -/
theorem not_agree_of_stored {now : ℕ} {token : OAuth2AccessToken} {a : OAuth2Authentication}
    {before after : List Operation}
    (hlasts : ∀ op ∈ before ++ .storeAccessToken now token a :: after, op.Lasts first last) :
    ¬Agree transformer digest s (Runs.exec (redis transformer digest) {}
      (before ++ .storeAccessToken now token a :: after)) := by
  let clientId := a.oAuth2Request.clientId.getD "null"
  have hfirst : ∀ op ∈ before, op.Lasts first last :=
    fun op hop => hlasts op (List.mem_append_left _ hop)
  have hrest : ∀ op ∈ after, op.Lasts first last :=
    fun op hop => hlasts op (List.mem_append_right _ (List.mem_cons_of_mem _ hop))
  have hbefore : On Ordered (Runs.exec (redis transformer digest) {} before) :=
    redis_run_closed digest (ordered_closed transformer) hfirst ordered_empty
  have hstored : On (fun db => Ordered db ∧ Listed (Family.clientIdToAccess.key clientId) db)
      (redis transformer digest (Runs.exec (redis transformer digest) {} before)
        (.storeAccessToken now token a)) := by
    refine final_of_triple (triple_storeAccessToken (ordered_closed transformer)
      (listed_closed transformer clientId) (fun db hdb => ?_)
      (hlasts _ (List.mem_append_right _ List.mem_cons_self))) hbefore
    obtain ⟨db', hpush, hordered⟩ := (ordered_closed transformer).push .clientIdToAccess clientId
      (.accessToken token) db rfl hdb
    obtain ⟨⟨values, hlist, -⟩, -⟩ := Database.rpush_eq_some hpush
    refine ⟨db', hpush, hordered, ?_⟩
    cases values with
    | nil => exact ⟨_, _, hlist⟩
    | cons value values => exact ⟨value, _, hlist⟩
  have hend := redis_run_closed digest (listed_closed transformer clientId) hrest hstored
  rw [Runs.exec_append, Runs.exec_cons]
  exact not_agree_of_listed hend.1 hend.2

/-- No access token is stored, and the refresh tokens are the same. -/
structure Mirrors (transformer : ObjectTransformer) (s : InMemoryTokenStore) (db : Database) :
    Prop where
  accessTokens : ∀ v, s.accessTokenStore v = none
  authentications : ∀ v, s.authenticationStore v = none
  keys : ∀ k, s.authenticationToAccessTokenStore k = none
  users : ∀ k, s.userNameToAccessTokenStore k = none
  clients : ∀ k, s.clientIdToAccessTokenStore k = none
  links : ∀ r, s.refreshTokenToAccessTokenStore r = none
  refreshTokens : ∀ v, db (Family.refresh.key v) =
    (s.refreshTokenStore v).map fun token => .text (transformer.serialize (.refreshToken token))
  others : ∀ f name, f ≠ .refresh → f ≠ .refreshAuth → db (Family.key f name) = none

theorem mirrors_empty (flushInterval : ℤ) :
    Mirrors transformer { flushInterval := flushInterval } fun _ => none :=
  ⟨fun _ => rfl, fun _ => rfl, fun _ => rfl, fun _ => rfl, fun _ => rfl, fun _ => rfl,
    fun _ => rfl, fun _ _ _ _ => rfl⟩

theorem agree_of_mirrors (h : Mirrors transformer s c.database) : Agree transformer digest s c := by
  have hnone : ∀ {α : Type} {cast : Serializable → Option α} {f : Family} {name : String},
      f ≠ .refresh → f ≠ .refreshAuth →
        getObject transformer cast (f.key name) c = .ok none c :=
    fun hf hf' => getObject_of_none (h.others _ _ hf hf')
  have hempty : ∀ {f : Family} {name : String}, f ≠ .refresh → f ≠ .refreshAuth →
      lRange (f.key name) c = .ok [] c :=
    fun hf hf' => lRange_of_value (Database.lrange_of_none (h.others _ _ hf hf'))
  constructor
  · intro v
    unfold outcome RedisTokenStore.readAccessToken
    rw [hnone (by decide) (by decide), h.accessTokens v]
  · intro v
    unfold outcome RedisTokenStore.readAuthentication
    rw [hnone (by decide) (by decide), h.authentications v]
  · intro v
    unfold outcome RedisTokenStore.readRefreshToken
    cases htoken : s.refreshTokenStore v with
    | none => rw [getObject_of_none (by rw [h.refreshTokens v, htoken]; rfl)]
    | some token =>
      have hvalue := h.refreshTokens v
      rw [htoken] at hvalue
      have hread : getObject transformer Serializable.toRefreshToken (Family.refresh.key v) c =
          .ok (some token) c := getObject_of_text hvalue rfl
      rw [hread]
  · intro now a
    have hredis : RedisTokenStore.getAccessToken transformer digest now a c = .ok none c :=
      bind_of_ok (hnone (by decide) (by decide))
    have hmemory : InMemoryTokenStore.getAccessToken digest now a s = .ok none s := by
      unfold InMemoryTokenStore.getAccessToken
      rw [bind_of_ok (get_apply s)]
      simp only [h.keys]
      rfl
    simp only [outcome, hredis, hmemory]
  · intro clientId
    have hrun : RedisTokenStore.findTokensByClientId transformer clientId c = .ok [] c :=
      bind_of_ok (hempty (by decide) (by decide))
    refine ⟨[], by simp only [outcome, hrun], fun o => ?_⟩
    simp [InMemoryTokenStore.findTokensByClientId, h.clients]
  · intro clientId userName
    have hrun : RedisTokenStore.findTokensByClientIdAndUserName transformer clientId userName c =
        .ok [] c := bind_of_ok (hempty (by decide) (by decide))
    refine ⟨[], by simp only [outcome, hrun], fun o => ?_⟩
    simp [InMemoryTokenStore.findTokensByClientIdAndUserName, h.users]

theorem del_of_others {db : Database} (h : Mirrors transformer s db) {f : Family}
    (hf : f ≠ .refresh) (hf' : f ≠ .refreshAuth) (name : String) : db.del (f.key name) = db :=
  Database.del_of_none (h.others f name hf hf')

theorem triple_setObject {fail : RedisConnection → Prop} (db : Database) (key : String)
    (object : Serializable) : Triple (On (· = db)) (setObject transformer key object)
      (fun _ => On (· = db.set key (transformer.serialize object))) fail := by
  refine triple_modify fun c hc => ?_
  show c.database.set key _ = _
  rw [show c.database = db from hc]

/-- Both stores keep a refresh token under its value. -/
theorem mirrors_storeRefreshToken {now : ℕ} {token : OAuth2RefreshToken} {a : OAuth2Authentication}
    (h : Mirrors transformer s c.database)
    (hlasts : (Operation.storeRefreshToken now token a).Lasts first last) :
    Mirrors transformer (inMemory digest s (.storeRefreshToken now token a))
      (redis transformer digest c (.storeRefreshToken now token a)).database := by
  let refreshed := c.database.set (Family.refresh.key token.value)
    (transformer.serialize (.refreshToken token))
  let stored := refreshed.set (Family.refreshAuth.key token.value)
    (transformer.serialize (.authentication a))
  have hwritten : Triple (On (· = c.database)) (storeRefreshToken transformer now token a)
      (fun _ => On (· = stored)) (On (· = stored)) := by
    refine triple_bind triple_openPipeline fun _ => triple_bind (triple_setObject _ _ _) fun _ => ?_
    refine triple_bind (triple_setObject refreshed _ _) fun _ => ?_
    refine triple_bind (M := fun _ => On (· = stored)) ?_ fun _ =>
      triple_bind triple_closePipeline fun _ => triple_pure fun _ hc => hc
    cases hexpiration : token.expiration with
    | none => exact triple_pure fun _ hc => hc
    | some e =>
      have hpos := secondsUntil_pos hlasts.1 hlasts.2.1 (hlasts.2.2 e hexpiration)
      exact triple_bind (triple_expire hpos _) fun _ => triple_expire hpos _
  have hdatabase : (redis transformer digest c (.storeRefreshToken now token a)).database = stored :=
    final_of_triple hwritten rfl
  rw [hdatabase]
  refine ⟨h.accessTokens, h.authentications, h.keys, h.users, h.clients, h.links, fun v => ?_,
    fun f name hf hf' => ?_⟩
  · have hother : stored (Family.refresh.key v) = refreshed (Family.refresh.key v) :=
      Database.set_of_ne (key_ne (by decide))
    rw [hother]
    show refreshed (Family.refresh.key v) = Option.map _
      (Function.update s.refreshTokenStore token.value (some token) v)
    by_cases hv : v = token.value
    · rw [hv, Function.update_self]
      exact Database.set_self
    · rw [Function.update_of_ne hv]
      have hkey : Family.refresh.key v ≠ Family.refresh.key token.value := fun heq =>
        hv (String.append_right_inj _ |>.mp heq)
      exact (Database.set_of_ne hkey).trans (h.refreshTokens v)
  · have hauth : stored (f.key name) = refreshed (f.key name) := Database.set_of_ne (key_ne hf')
    have hrefresh : refreshed (f.key name) = c.database (f.key name) :=
      Database.set_of_ne (key_ne hf)
    rw [hauth, hrefresh]
    exact h.others f name hf hf'

/-- Both stores forget a refresh token. -/
theorem mirrors_removeRefreshToken (h : Mirrors transformer s c.database) (v : String) :
    Mirrors transformer (inMemory digest s (.removeRefreshToken v))
      (redis transformer digest c (.removeRefreshToken v)).database := by
  let forgotten := (c.database.del (Family.refresh.key v)).del (Family.refreshAuth.key v)
  have hkept : ∀ f name, f ≠ .refresh → f ≠ .refreshAuth →
      forgotten (Family.key f name) = c.database (f.key name) := by
    intro f name hf hf'
    exact (Database.del_of_ne (key_ne hf')).trans (Database.del_of_ne (key_ne hf))
  have hdatabase : (redis transformer digest c (.removeRefreshToken v)).database = forgotten := by
    have hlink : forgotten.del (Family.refreshToAccess.key v) = forgotten :=
      Database.del_of_none ((hkept .refreshToAccess v (by decide) (by decide)).trans
        (h.others .refreshToAccess v (by decide) (by decide)))
    have hback : forgotten.del (Family.accessToRefresh.key v) = forgotten :=
      Database.del_of_none ((hkept .accessToRefresh v (by decide) (by decide)).trans
        (h.others .accessToRefresh v (by decide) (by decide)))
    show (forgotten.del (Family.refreshToAccess.key v)).del (Family.accessToRefresh.key v) = forgotten
    rw [hlink, hback]
  rw [hdatabase]
  refine ⟨h.accessTokens, h.authentications, h.keys, h.users, h.clients, fun r => ?_, fun w => ?_,
    fun f name hf hf' => (hkept f name hf hf').trans (h.others f name hf hf')⟩
  · show Function.update s.refreshTokenToAccessTokenStore v none r = none
    rw [Function.update_apply, h.links r, ite_self]
  · have hauth : forgotten (Family.refresh.key w) =
        (c.database.del (Family.refresh.key v)) (Family.refresh.key w) :=
      Database.del_of_ne (key_ne (by decide))
    rw [hauth]
    show _ = Option.map _ (Function.update s.refreshTokenStore v none w)
    by_cases hw : w = v
    · rw [hw, Function.update_self]
      exact Database.del_self
    · rw [Function.update_of_ne hw]
      have hkey : Family.refresh.key w ≠ Family.refresh.key v := fun heq =>
        hw ((String.append_right_inj _).mp heq)
      exact (Database.del_of_ne hkey).trans (h.refreshTokens w)

/-- There is no access token to remove. -/
theorem mirrors_removeAccessToken (h : Mirrors transformer s c.database) (v : String) :
    Mirrors transformer (inMemory digest s (.removeAccessToken v))
      (redis transformer digest c (.removeAccessToken v)).database := by
  have hdatabase : (redis transformer digest c (.removeAccessToken v)).database = c.database := by
    have hrun : redis transformer digest c (.removeAccessToken v) = _ :=
      final_of_error (removeAccessToken_apply transformer digest v c)
    rw [hrun]
    show ((c.database.del (Family.access.key v)).del (Family.accessToRefresh.key v)).del
      (Family.auth.key v) = c.database
    rw [del_of_others h (by decide) (by decide), del_of_others h (by decide) (by decide),
      del_of_others h (by decide) (by decide)]
  have hstore : inMemory digest s (.removeAccessToken v) = InMemoryTokenStore.dropToken v s := by
    have hrun : InMemoryTokenStore.removeAccessToken digest v s =
        .ok () (InMemoryTokenStore.dropToken v s) := by
      unfold InMemoryTokenStore.removeAccessToken
      rw [bind_of_ok (get_apply s)]
      simp only [h.authentications]
      rfl
    exact final_of_ok hrun
  rw [hdatabase, hstore]
  have hupdate : ∀ {β : Type} {m : String → Option β} {w : String}, m w = none →
      Function.update m v none w = none := by
    intro β m w hm
    rw [Function.update_apply, hm, ite_self]
  exact ⟨fun w => hupdate (h.accessTokens w), fun w => hupdate (h.authentications w), h.keys, h.users,
    h.clients, h.links, h.refreshTokens, h.others⟩

theorem mirrors_removeAccessTokenUsingRefreshToken (h : Mirrors transformer s c.database)
    (r : String) :
    Mirrors transformer (inMemory digest s (.removeAccessTokenUsingRefreshToken r))
      (redis transformer digest c (.removeAccessTokenUsingRefreshToken r)).database := by
  have hnone : c.database (Family.refreshToAccess.key r) = none :=
    h.others .refreshToAccess r (by decide) (by decide)
  have hdatabase : (redis transformer digest c (.removeAccessTokenUsingRefreshToken r)).database =
      c.database := by
    have hrun := removeAccessTokenUsingRefreshToken_apply transformer digest r c
    rw [Database.get_of_none hnone] at hrun
    have hfinal : redis transformer digest c (.removeAccessTokenUsingRefreshToken r) = _ :=
      final_of_error hrun
    rw [hfinal]
    exact Database.del_of_none hnone
  have hstore : inMemory digest s (.removeAccessTokenUsingRefreshToken r) = { s with
      refreshTokenToAccessTokenStore :=
        Function.update s.refreshTokenToAccessTokenStore r none } := by
    have hrun : InMemoryTokenStore.removeAccessTokenUsingRefreshToken digest r s = .ok () { s with
        refreshTokenToAccessTokenStore :=
          Function.update s.refreshTokenToAccessTokenStore r none } := by
      unfold InMemoryTokenStore.removeAccessTokenUsingRefreshToken
      rw [bind_of_ok (get_apply s)]
      simp only [h.links]
      rfl
    exact final_of_ok hrun
  rw [hdatabase, hstore]
  refine ⟨h.accessTokens, h.authentications, h.keys, h.users, h.clients, fun w => ?_,
    h.refreshTokens, h.others⟩
  show Function.update s.refreshTokenToAccessTokenStore r none w = none
  rw [Function.update_apply, h.links w, ite_self]

theorem mirrors_step (h : Mirrors transformer s c.database) {op : Operation}
    (hop : op.storesAccessToken = false) (hlasts : op.Lasts first last) :
    Mirrors transformer (inMemory digest s op) (redis transformer digest c op).database := by
  cases op with
  | storeAccessToken now token a => cases hop
  | storeRefreshToken now token a => exact mirrors_storeRefreshToken h hlasts
  | removeAccessToken v => exact mirrors_removeAccessToken h v
  | removeRefreshToken v => exact mirrors_removeRefreshToken h v
  | removeAccessTokenUsingRefreshToken r => exact mirrors_removeAccessTokenUsingRefreshToken h r

theorem mirrors_run (h : Mirrors transformer s c.database)
    (hops : ∀ op ∈ ops, op.storesAccessToken = false) (hlasts : ∀ op ∈ ops, op.Lasts first last) :
    Mirrors transformer (Runs.exec (inMemory digest) s ops)
      (Runs.exec (redis transformer digest) c ops).database := by
  induction ops generalizing s c with
  | nil => exact h
  | cons op ops ih =>
    have hstep : Mirrors transformer (inMemory digest s op)
        (redis transformer digest c op).database :=
      mirrors_step h (hops op List.mem_cons_self) (hlasts op List.mem_cons_self)
    exact ih hstep (fun op' hop' => hops op' (List.mem_cons_of_mem op hop'))
      fun op' hop' => hlasts op' (List.mem_cons_of_mem op hop')

end Runs

/-- While nothing expires, the stores give the same answers exactly as long as no access token has
been stored. -/
theorem stores_agree_iff (transformer : ObjectTransformer) (digest : String → String)
    (flushInterval : ℤ) (first last : ℕ) (ops : List Operation)
    (hlasts : ∀ op ∈ ops, op.Lasts first last) :
    Agree transformer digest (Runs.exec (inMemory digest) { flushInterval := flushInterval } ops)
      (Runs.exec (redis transformer digest) {} ops) ↔
        ∀ op ∈ ops, op.storesAccessToken = false := by
  constructor
  · intro hagree op hop
    by_contra hstores
    obtain ⟨before, after, rfl⟩ := List.append_of_mem hop
    cases op with
    | storeAccessToken now token a => exact not_agree_of_stored hlasts hagree
    | storeRefreshToken now token a => exact hstores rfl
    | removeAccessToken v => exact hstores rfl
    | removeRefreshToken v => exact hstores rfl
    | removeAccessTokenUsingRefreshToken r => exact hstores rfl
  · intro hops
    exact agree_of_mirrors (mirrors_run (mirrors_empty flushInterval) hops hlasts)

instance (first last e : ℕ) : Decidable (Lasts first last e) :=
  inferInstanceAs (Decidable (_ ∧ _))

instance (first last : ℕ) : DecidablePred (Operation.Lasts first last)
  | .storeAccessToken _ _ _ =>
    inferInstanceAs (Decidable (_ ∧ _ ∧ (∀ _ ∈ _, Lasts _ _ _) ∧ ∀ _ ∈ _, ∀ _ ∈ _, Lasts _ _ _))
  | .storeRefreshToken _ _ _ => inferInstanceAs (Decidable (_ ∧ _ ∧ ∀ _ ∈ _, Lasts _ _ _))
  | .removeAccessToken _ | .removeRefreshToken _ | .removeAccessTokenUsingRefreshToken _ =>
    isTrue trivial

instance encodableChar : Encodable Char :=
  Encodable.ofLeftInjection Char.toNat (fun n => some (Char.ofNat n)) fun c => by simp

instance encodableString : Encodable String :=
  Encodable.ofLeftInjection String.toList (fun cs => some (String.ofList cs)) fun s => by simp

instance encodableParameters : Encodable Parameters := inferInstanceAs (Encodable (List (String × String)))

instance encodableUser : Encodable User :=
  Encodable.ofLeftInjection (fun user => (user.username, user.password, user.authorities))
    (fun fields => if h : fields.1 ≠ "" then some ⟨fields.1, fields.2.1, fields.2.2, h⟩ else none)
    fun user => dif_pos user.username_ne_empty

deriving instance Encodable for BasicAuthentication, Principal, UsernamePasswordAuthenticationToken,
  UserAuthentication, TokenRequest, OAuth2Request, OAuth2Authentication, OAuth2RefreshToken,
  OAuth2AccessToken, Serializable

/-- An object as a run of zeros. -/
def zeros : ObjectTransformer where
  serialize object := String.ofList (List.replicate (Encodable.encode object) '0')
  deserialize hex := ((Encodable.decode hex.toList.length).elim (.error (illegalArgument hex)) .ok)
  deserialize_serialize object := by simp
  hexadecimal object h := by
    rw [String.toList_ofList] at h
    exact absurd (List.eq_of_mem_replicate h) (by decide)

def refreshToken : OAuth2RefreshToken := ⟨"r1", some 2592001000⟩

def grant : OAuth2Authentication := ⟨{ clientId := some "app", approved := true }, none⟩

/-- A refresh token comes and goes, and in between access tokens are removed. -/
theorem stores_agree_without_accessTokens :
    let ops : List Operation := [.storeRefreshToken 1000 refreshToken grant, .removeAccessToken "t1",
      .removeAccessTokenUsingRefreshToken "r1", .removeRefreshToken "r1"]
    Agree zeros id (Runs.exec (inMemory id) { flushInterval := 1000 } ops)
      (Runs.exec (redis zeros id) {} ops) ↔ ∀ op ∈ ops, op.storesAccessToken = false :=
  stores_agree_iff zeros id 1000 1000 2000 _ (by decide)

/-- One access token is stored, and its client's tokens are looked up. -/
theorem stores_disagree :
    ¬ ∀ ops : List Operation, (∀ op ∈ ops, op.Lasts 1000 2000) →
      Agree zeros id (Runs.exec (inMemory id) {} ops) (Runs.exec (redis zeros id) {} ops) := by
  intro h
  let token : OAuth2AccessToken := { value := "t1", expiration := some 43201000 }
  have hlasts : ∀ op ∈ [Operation.storeAccessToken 1000 token grant], op.Lasts 1000 2000 := by decide
  have hstored : ∀ op ∈ [] ++ Operation.storeAccessToken 1000 token grant :: [],
      op.Lasts 1000 2000 := hlasts
  exact not_agree_of_stored hstored (h [.storeAccessToken 1000 token grant] hlasts)

end MaxKey.OAuth2.RedisTokenStore
