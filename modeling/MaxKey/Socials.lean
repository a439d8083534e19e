import MaxKey.Realm
import MaxKey.Runs

namespace MaxKey.Socials
open WebContext Realm JavaException Effects

/-- A row of SOCIALS_ASSOCIATE, and the object of the service calls. -/
structure SocialsAssociate where
  id : String := ""
  uid : String := ""
  username : String := ""
  provider : String
  socialuid : Option String
  accessToken : Option String := none
  socialUserInfo : Option String := none
  exAttribute : Option String := none
  deriving DecidableEq

abbrev Table := KeyedTable SocialsAssociate.id

structure SocialWorld where
  world : World
  socials : Table

abbrev Social := EStateM JavaException SocialWorld

def web {α : Type} (x : Web α) : Social α :=
  focus SocialWorld.world (fun world s => { s with world := world }) x

namespace Service

/-- None of ID, UID, PROVIDER and SOCIALUID may be null, and ID is the primary key. -/
def insert (t : Table) (a : SocialsAssociate) : Option Table :=
  if a.socialuid.isSome then t.insert a else none

/-- WHERE UID = ? AND PROVIDER = ? -/
def delete (t : Table) (uid provider : String) : Table :=
  KeyedTable.delete t fun r => r.uid = uid ∧ r.provider = provider

/-- WHERE PROVIDER = ? AND SOCIALUID = ?; a null in the query matches no row. -/
def query (t : Table) (provider : String) (socialuid : Option String) : List SocialsAssociate :=
  t.select fun r => r.provider = provider ∧ socialuid.isSome ∧ r.socialuid = socialuid

/-- The first matching row, in the order in which the database hands them out. -/
def get (order : RowOrder SocialsAssociate) (t : Table) (provider : String)
    (socialuid : Option String) : Option SocialsAssociate :=
  (order.scan (query t provider socialuid)).head?

/-- The columns that UPDATE ... WHERE ID = ? sets. -/
def updated (a r : SocialsAssociate) : SocialsAssociate :=
  { r with accessToken := a.accessToken, socialUserInfo := a.socialUserInfo
           exAttribute := a.exAttribute }

theorem updated_id (a r : SocialsAssociate) : (updated a r).id = r.id := rfl

def update (t : Table) (a : SocialsAssociate) : Table :=
  KeyedTable.update t (·.id = a.id) (updated a) (updated_id a)

theorem get_eq_some {order : RowOrder SocialsAssociate} {t : Table} {provider : String}
    {socialuid : Option String} {r : SocialsAssociate}
    (h : get order t provider socialuid = some r) :
    r ∈ t.rows ∧ r.provider = provider ∧ r.socialuid = socialuid := by
  have hmem := List.mem_of_mem_head? h
  simp only [RowOrder.mem_scan, query, KeyedTable.mem_select, decide_eq_true_eq] at hmem
  exact ⟨hmem.1, hmem.2.1, hmem.2.2.2⟩

/-- A null account id finds no row. -/
theorem isSome_of_get {order : RowOrder SocialsAssociate} {t : Table} {provider : String}
    {socialuid : Option String} {r : SocialsAssociate}
    (h : get order t provider socialuid = some r) : ∃ x, socialuid = some x := by
  have hmem := List.mem_of_mem_head? h
  simp only [RowOrder.mem_scan, query, KeyedTable.mem_select, decide_eq_true_eq] at hmem
  exact Option.isSome_iff_exists.mp hmem.2.2.1

theorem get_isSome (order : RowOrder SocialsAssociate) {t : Table} {r : SocialsAssociate}
    (h : r ∈ t.rows) (hsocial : r.socialuid.isSome) :
    (get order t r.provider r.socialuid).isSome := by
  rw [get, List.isSome_head?, ne_eq, ← List.isEmpty_iff]
  have hmem : r ∈ order.scan (query t r.provider r.socialuid) := by
    simp [query, h, hsocial]
  intro hempty
  rw [List.isEmpty_iff.mp hempty] at hmem
  cases hmem

theorem mem_delete (t : Table) (uid provider : String) (r : SocialsAssociate) :
    r ∈ (delete t uid provider).rows ↔ r ∈ t.rows ∧ ¬(r.uid = uid ∧ r.provider = provider) := by
  simp only [delete, KeyedTable.mem_delete, decide_eq_false_iff_not]

end Service

def modifySocials (f : Table → Table) : Social Unit :=
  modify fun s => { s with socials := f s.socials }

def unbind (provider : String) : Social Unit := do
  let userInfo ← web (getUserInfo >>= nonNull)
  modifySocials fun t => Service.delete t userInfo.id provider

/-- The row that a bind by this user puts in. -/
def bindRow (accountJsonString : Option String) (id : String) (token : SocialsAssociate)
    (userInfo : UserInfo) : SocialsAssociate :=
  { token with id := id, socialUserInfo := accountJsonString, uid := userInfo.id
               username := userInfo.username }

/-- The row of the session's user for this provider is replaced; the insert can still fail
after the delete. -/
def socialBind (accountJsonString : Option String) (id : String) (token : SocialsAssociate) :
    Social Bool := do
  let userInfo ← web (getUserInfo >>= nonNull)
  let row := bindRow accountJsonString id token userInfo
  modifySocials fun t => Service.delete t row.uid row.provider
  match Service.insert (← get).socials row with
  | some socials =>
    modifySocials fun _ => socials
    return true
  | none => throw (dataAccess "SOCIALS_ASSOCIATE")

def socialSignOn (order : RowOrder SocialsAssociate) (request : HttpRequest)
    (accountJsonString : Option String) (providerName : String) (token : SocialsAssociate) :
    Social Bool := do
  match Service.get order (← get).socials token.provider token.socialuid with
  | some row =>
    let _ ← web (Realm.setAuthentication request (some row.username) "Social Sign On" providerName
      "xe00000004" "success")
    modifySocials fun t => Service.update t { row with socialUserInfo := accountJsonString }
    return true
  | none =>
    web (modifySession fun s =>
      { s with authenticationException := some (badCredentials "login.error.social") })
    return true

theorem final_web {α : Type} (x : Web α) (s : SocialWorld) :
    final (web x) s = { s with world := final x s.world } := final_focus x s

theorem sessionUser_of_none {s : SocialWorld} (h : s.world.session.currentUser = none) :
    web (getUserInfo >>= nonNull) s = .error nullPointer s := by
  have huser : getUserInfo s.world = .ok none s.world := congrArg (EStateM.Result.ok · s.world) h
  exact focus_of_error (bind_of_ok huser)

theorem sessionUser_of_some {s : SocialWorld} {user : UserInfo}
    (h : s.world.session.currentUser = some user) :
    web (getUserInfo >>= nonNull) s = .ok user s := by
  have huser : getUserInfo s.world = .ok (some user) s.world :=
    congrArg (EStateM.Result.ok · s.world) h
  exact focus_of_ok (bind_of_ok huser)

/-- What a bind with this row leaves of the table, whether the insert goes through or not. -/
def replaced (row : SocialsAssociate) (t : Table) : Table :=
  let t := Service.delete t row.uid row.provider
  (Service.insert t row).getD t

/-- A bind touches nothing but the table, and nothing at all without a user in the session. -/
theorem final_socialBind (accountJsonString : Option String) (id : String)
    (token : SocialsAssociate) (s : SocialWorld) :
    final (socialBind accountJsonString id token) s =
      match s.world.session.currentUser with
      | none => s
      | some user =>
        { s with socials := replaced (bindRow accountJsonString id token user) s.socials } := by
  cases huser : s.world.session.currentUser with
  | none => exact final_of_error (bind_of_error (sessionUser_of_none huser))
  | some user =>
    let row := bindRow accountJsonString id token user
    let t := Service.delete s.socials row.uid row.provider
    have hrun : socialBind accountJsonString id token s =
        (do match Service.insert (← get).socials row with
            | some socials =>
              modifySocials fun _ => socials
              return true
            | none => throw (dataAccess "SOCIALS_ASSOCIATE") : Social Bool)
          { s with socials := t } := bind_of_ok (sessionUser_of_some huser)
    simp only [final, hrun]
    cases hinsert : Service.insert t row with
    | none =>
      have hreplaced : replaced row s.socials = t := congrArg (Option.getD · t) hinsert
      simp only [bind_apply, get_apply, hinsert, throw_apply]
      rw [hreplaced]
    | some t' =>
      have hreplaced : replaced row s.socials = t' := congrArg (Option.getD · t) hinsert
      simp only [bind_apply, get_apply, hinsert]
      rw [hreplaced]
      rfl

theorem final_unbind (provider : String) (s : SocialWorld) :
    final (unbind provider) s =
      match s.world.session.currentUser with
      | none => s
      | some user => { s with socials := Service.delete s.socials user.id provider } := by
  cases huser : s.world.session.currentUser with
  | none => exact final_of_error (bind_of_error (sessionUser_of_none huser))
  | some user =>
    have hrun : unbind provider s =
        .ok () { s with socials := Service.delete s.socials user.id provider } :=
      bind_of_ok (sessionUser_of_some huser)
    exact final_of_ok hrun

/-- A sign-on logs in the user that the first matching row names, and nobody without one. -/
theorem socialSignOn_identity (order : RowOrder SocialsAssociate) (request : HttpRequest)
    (accountJsonString : Option String) (providerName : String) (token : SocialsAssociate)
    (s : SocialWorld) :
    (final (socialSignOn order request accountJsonString providerName token) s).world.identity =
      match Service.get order s.socials token.provider token.socialuid with
      | none => s.world.identity
      | some row =>
        (final (Realm.setAuthentication request (some row.username) "Social Sign On" providerName
          "xe00000004" "success") s.world).identity := by
  cases hget : Service.get order s.socials token.provider token.socialuid with
  | none =>
    simp only [final, socialSignOn, bind_apply, get_apply, hget]
    rfl
  | some row =>
    let login := Realm.setAuthentication request (some row.username) "Social Sign On"
      providerName "xe00000004" "success"
    have hrun : socialSignOn order request accountJsonString providerName token s =
        (do let _ ← web login
            modifySocials fun t => Service.update t { row with socialUserInfo := accountJsonString }
            return true : Social Bool) s := by
      simp only [socialSignOn, bind_apply, get_apply, hget]
      rfl
    have hweb := final_bind_of_leaves (g := fun s => s.world.identity) (x := web login)
      (f := fun _ => do
        modifySocials fun t => Service.update t { row with socialUserInfo := accountJsonString }
        return true)
      (fun _ => leaves_bind (leaves_modify fun _ => rfl) fun _ => leaves_pure _) s
    rw [final_web] at hweb
    simp only [final, hrun] at hweb ⊢
    exact hweb

theorem leaves_web {α β : Type} {x : Web α} {g : World → β} (h : Leaves g x) :
    Leaves (fun s : SocialWorld => g s.world) (web x) := leaves_focus (fun _ _ => rfl) h

/-- Nothing that a sign-on does to the database changes whom a user name stands for. -/
theorem socialSignOn_ownerOf (order : RowOrder SocialsAssociate) (request : HttpRequest)
    (accountJsonString : Option String) (providerName : String) (token : SocialsAssociate) :
    Leaves (fun s : SocialWorld => ownerOf s.world)
      (socialSignOn order request accountJsonString providerName token) := by
  refine leaves_bind leaves_get fun s => ?_
  split
  · refine leaves_bind (leaves_web (setAuthentication_ownerOf _ _ _ _ _ _)) fun _ => ?_
    exact leaves_bind (leaves_modify fun _ => rfl) fun _ => leaves_pure _
  · exact leaves_bind (leaves_web (leaves_modify fun _ => rfl)) fun _ => leaves_pure _

/-- Who is bound to which account in a row of the table. -/
structure Link where
  uid : String
  username : String
  provider : String
  socialuid : Option String
  deriving DecidableEq

def Link.account (l : Link) : String × Option String := (l.provider, l.socialuid)

def Link.binder (l : Link) : String × String := (l.uid, l.provider)

def SocialsAssociate.link (r : SocialsAssociate) : Link :=
  ⟨r.uid, r.username, r.provider, r.socialuid⟩

def links (t : Table) : List Link := t.rows.map SocialsAssociate.link

theorem links_delete (t : Table) (uid provider : String) :
    links (Service.delete t uid provider) =
      (links t).filter fun l => ¬(l.uid = uid ∧ l.provider = provider) := by
  simp only [links, Service.delete, KeyedTable.delete, List.filter_map, Function.comp_def,
    decide_not]
  rfl

theorem links_insert {t t' : Table} {a : SocialsAssociate} (h : Service.insert t a = some t') :
    links t' = links t ++ [a.link] := by
  unfold Service.insert KeyedTable.insert at h
  split_ifs at h
  cases h
  simp [links]

theorem links_update (t : Table) (a : SocialsAssociate) : links (Service.update t a) = links t := by
  simp only [links, Service.update, KeyedTable.update, List.map_map]
  refine List.map_congr_left fun r _ => ?_
  by_cases h : r.id = a.id
  · simp [h, Service.updated, SocialsAssociate.link]
  · simp [h]

theorem socialSignOn_links (order : RowOrder SocialsAssociate) (request : HttpRequest)
    (accountJsonString : Option String) (providerName : String) (token : SocialsAssociate) :
    Leaves (fun s : SocialWorld => links s.socials)
      (socialSignOn order request accountJsonString providerName token) := by
  have hweb : ∀ {α : Type} (x : Web α), Leaves (fun s : SocialWorld => links s.socials) (web x) := by
    intro α x s
    rw [final_web]
  refine leaves_bind leaves_get fun s => ?_
  split
  · refine leaves_bind (hweb _) fun _ => leaves_bind (leaves_modify fun s => ?_) fun _ => ?_
    · exact links_update _ _
    · exact leaves_pure _
  · exact leaves_bind (hweb _) fun _ => leaves_pure _

end MaxKey.Socials
