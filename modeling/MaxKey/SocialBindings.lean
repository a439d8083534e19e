import MaxKey.Logon
import MaxKey.Socials

namespace MaxKey.SocialBindings
open Realm Effects Socials

/-- provider → account → the ID of the user who bound the account last. -/
abbrev Bindings := String → String → Option String

namespace Bindings

def empty : Bindings := fun _ _ => none

def unbind (b : Bindings) (uid provider : String) : Bindings := fun p x =>
  if p = provider ∧ b p x = some uid then none else b p x

/-- The user's former account of this provider is given up for the new one. -/
def bind (b : Bindings) (uid provider socialuid : String) : Bindings := fun p x =>
  if p = provider ∧ x = socialuid then some uid else b.unbind uid provider p x

theorem unbind_eq_some {b : Bindings} {uid provider p x u : String} :
    b.unbind uid provider p x = some u ↔ b p x = some u ∧ ¬(u = uid ∧ p = provider) := by
  unfold unbind
  split_ifs with h
  · obtain ⟨hp, hb⟩ := h
    simp [hp, hp ▸ hb, eq_comm]
  · refine ⟨fun hu => ⟨hu, ?_⟩, And.left⟩
    rintro ⟨rfl, hp⟩
    exact h ⟨hp, hu⟩

end Bindings

/-- The links stand for these bindings: no account and no user's provider twice, and each
link names a user whose name stands for its account. -/
structure Represents (owner : Option String → Option String) (ls : List Link)
    (b : Bindings) : Prop where
  accounts : (ls.map Link.account).Nodup
  bindings : ∀ p x u, b p x = some u ↔ ∃ l ∈ ls, l.account = (p, some x) ∧ l.uid = u
  nonNull : ∀ l ∈ ls, l.socialuid.isSome
  resolves : ∀ l ∈ ls, owner (some l.username) = some l.uid

/-- No user is bound to two accounts of one provider. -/
def OneAccount (ls : List Link) : Prop := (ls.map Link.binder).Nodup

/-- The links that an unbind of this provider by this user leaves. -/
def without (uid provider : String) (ls : List Link) : List Link :=
  ls.filter fun l => ¬(l.uid = uid ∧ l.provider = provider)

theorem mem_without {uid provider : String} {ls : List Link} {l : Link} :
    l ∈ without uid provider ls ↔ l ∈ ls ∧ ¬(l.uid = uid ∧ l.provider = provider) := by
  rw [without, List.mem_filter, decide_eq_true_eq]

section Steps

variable {owner : Option String → Option String} {ls : List Link} {b : Bindings}

theorem represents_nil : Represents owner [] Bindings.empty where
  accounts := List.nodup_nil
  bindings := by simp [Bindings.empty]
  nonNull := by simp
  resolves := by simp

theorem represents_without (h : Represents owner ls b) (uid provider : String) :
    Represents owner (without uid provider ls) (b.unbind uid provider) where
  accounts := h.accounts.sublist (List.filter_sublist.map _)
  bindings p x u := by
    rw [Bindings.unbind_eq_some, h.bindings]
    constructor
    · rintro ⟨⟨l, hl, haccount, rfl⟩, hother⟩
      have hprovider : l.provider = p := congrArg Prod.fst haccount
      exact ⟨l, mem_without.mpr ⟨hl, hprovider ▸ hother⟩, haccount, rfl⟩
    · rintro ⟨l, hl, haccount, rfl⟩
      have hprovider : l.provider = p := congrArg Prod.fst haccount
      obtain ⟨hl, hother⟩ := mem_without.mp hl
      exact ⟨⟨l, hl, haccount, rfl⟩, hprovider ▸ hother⟩
  nonNull l hl := h.nonNull l (mem_without.mp hl).1
  resolves l hl := h.resolves l (mem_without.mp hl).1

/-- A new link for an account that nobody holds. -/
theorem represents_append (h : Represents owner ls b) {l : Link} {x : String}
    (hsocial : l.socialuid = some x) (howner : owner (some l.username) = some l.uid)
    (hfree : ∀ l' ∈ ls, l'.account ≠ l.account) :
    Represents owner (ls ++ [l])
      (fun p y => if p = l.provider ∧ y = x then some l.uid else b p y) where
  accounts := by
    rw [List.map_append, List.map_singleton, List.nodup_append_comm, List.singleton_append,
      List.nodup_cons]
    refine ⟨?_, h.accounts⟩
    intro hmem
    obtain ⟨l', hl', haccount⟩ := List.mem_map.mp hmem
    exact hfree l' hl' haccount
  bindings p y u := by
    have hnew : l.account = (p, some y) ↔ p = l.provider ∧ y = x := by
      rw [Link.account, hsocial, Prod.mk.injEq, Option.some.injEq, eq_comm, @eq_comm _ x]
    simp only [List.mem_append, List.mem_singleton, or_and_right, exists_or, exists_eq_left, hnew]
    split_ifs with hkey
    · constructor
      · intro hu
        exact .inr ⟨hkey, Option.some.inj hu⟩
      · rintro (⟨l', hl', haccount, -⟩ | ⟨-, rfl⟩)
        · exact absurd (haccount.trans (hnew.mpr hkey).symm) (hfree l' hl')
        · rfl
    · simp [h.bindings, hkey]
  nonNull l' hl' := by
    rcases List.mem_append.mp hl' with hl' | hl'
    · exact h.nonNull l' hl'
    · rw [List.mem_singleton.mp hl', hsocial]
      exact rfl
  resolves l' hl' := by
    rcases List.mem_append.mp hl' with hl' | hl'
    · exact h.resolves l' hl'
    · rw [List.mem_singleton.mp hl', howner]

theorem oneAccount_without (h : OneAccount ls) (uid provider : String) :
    OneAccount (without uid provider ls) := h.sublist (List.filter_sublist.map _)

/-- The delete before the insert makes room for the new account, whoever else holds it. -/
theorem oneAccount_append (h : OneAccount ls) (l : Link) :
    OneAccount (without l.uid l.provider ls ++ [l]) := by
  rw [OneAccount, List.map_append, List.map_singleton, List.nodup_append_comm,
    List.singleton_append, List.nodup_cons]
  refine ⟨?_, oneAccount_without h _ _⟩
  intro hmem
  obtain ⟨l', hl', hbinder⟩ := List.mem_map.mp hmem
  have hkept := (mem_without.mp hl').2
  exact hkept ⟨congrArg Prod.fst hbinder, congrArg Prod.snd hbinder⟩

end Steps

/-- What the sessions of all users do: each action comes from its own session. -/
inductive Action
  | bind (session : HttpSession) (id provider : String) (socialuid : Option String)
  | unbind (session : HttpSession) (provider : String)
  | signOn (session : HttpSession) (request : HttpRequest) (providerName provider : String)
      (socialuid : Option String)

def enter (s : SocialWorld) (session : HttpSession) : SocialWorld :=
  { s with world := { s.world with session := session } }

/-- The token that callback builds for the account. -/
def token (provider : String) (socialuid : Option String) : SocialsAssociate :=
  { provider := provider, socialuid := socialuid }

def step (order : RowOrder SocialsAssociate) (s : SocialWorld) : Action → SocialWorld
  | .bind session id provider socialuid =>
    final (socialBind none id (token provider socialuid)) (enter s session)
  | .unbind session provider => final (Socials.unbind provider) (enter s session)
  | .signOn session request providerName provider socialuid =>
    final (socialSignOn order request none providerName (token provider socialuid))
      (enter s session)

/-- What the actions mean: the last bind of an account takes it. -/
def absStep (b : Bindings) : Action → Bindings
  | .bind session _ provider socialuid =>
    match session.currentUser, socialuid with
    | some user, some x => b.bind user.id provider x
    | _, _ => b
  | .unbind session provider =>
    match session.currentUser with
    | some user => b.unbind user.id provider
    | none => b
  | .signOn .. => b

/-- The database takes the row of the bind, the user's name stands for the user, and no
other user holds the account. -/
def FreeAccount (s : SocialWorld) : Action → Prop
  | .bind session id provider socialuid => ∀ user ∈ session.currentUser,
    socialuid.isSome ∧ (∀ r ∈ s.socials.rows, r.id ≠ id) ∧
      ownerOf s.world (some user.username) = some user.id ∧
      ∀ l ∈ links s.socials, l.account = (provider, socialuid) → l.uid = user.id
  | _ => True

theorem links_replaced_of_insert {row : SocialsAssociate} {t t' : Table}
    (h : Service.insert (Service.delete t row.uid row.provider) row = some t') :
    links (replaced row t) = without row.uid row.provider (links t) ++ [row.link] := by
  rw [replaced]
  simp only [h, Option.getD_some]
  rw [links_insert h, links_delete]
  rfl

theorem links_replaced_of_none {row : SocialsAssociate} {t : Table}
    (h : Service.insert (Service.delete t row.uid row.provider) row = none) :
    links (replaced row t) = without row.uid row.provider (links t) := by
  rw [replaced]
  simp only [h, Option.getD_none]
  exact links_delete _ _ _

theorem oneAccount_replaced (row : SocialsAssociate) {t : Table} (h : OneAccount (links t)) :
    OneAccount (links (replaced row t)) := by
  cases hinsert : Service.insert (Service.delete t row.uid row.provider) row with
  | none =>
    rw [links_replaced_of_none hinsert]
    exact oneAccount_without h _ _
  | some t' =>
    rw [links_replaced_of_insert hinsert]
    exact oneAccount_append h row.link

/-- With or without a free account, no action gives a user two accounts of one provider. -/
theorem step_oneAccount (order : RowOrder SocialsAssociate) (s : SocialWorld) (action : Action)
    (h : OneAccount (links s.socials)) : OneAccount (links (step order s action).socials) := by
  cases action with
  | bind session id provider socialuid =>
    rw [step, final_socialBind]
    cases huser : (enter s session).world.session.currentUser with
    | none => exact h
    | some user => exact oneAccount_replaced _ h
  | unbind session provider =>
    rw [step, final_unbind]
    cases huser : (enter s session).world.session.currentUser with
    | none => exact h
    | some user =>
      rw [links_delete]
      exact oneAccount_without h user.id provider
  | signOn session request providerName provider socialuid =>
    have hlinks : links (step order s (.signOn session request providerName provider
      socialuid)).socials = links s.socials := socialSignOn_links _ _ _ _ _ (enter s session)
    rw [hlinks]
    exact h

/-- The table keeps representing the bindings that the actions mean. -/
theorem bind_represents {order : RowOrder SocialsAssociate} {s : SocialWorld} {b : Bindings}
    {session : HttpSession} {id provider : String} {socialuid : Option String}
    (hfree : FreeAccount s (.bind session id provider socialuid))
    (h : Represents (ownerOf s.world) (links s.socials) b) :
    let s' := step order s (.bind session id provider socialuid)
    Represents (ownerOf s'.world) (links s'.socials)
      (absStep b (.bind session id provider socialuid)) := by
  intro s'
  have hs' : s' = step order s (.bind session id provider socialuid) := rfl
  rw [step, final_socialBind] at hs'
  cases huser : session.currentUser with
  | none =>
    have hsame : s' = enter s session := by simpa only [enter, huser] using hs'
    rw [hsame]
    simp only [absStep, huser]
    exact h
  | some user =>
    obtain ⟨hsocial, hid, howner, haccount⟩ := hfree user huser
    obtain ⟨x, rfl⟩ := Option.isSome_iff_exists.mp hsocial
    let row := bindRow none id (token provider (some x)) user
    have hreplaced : s' = { enter s session with socials := replaced row s.socials } := by
      simpa only [enter, huser] using hs'
    have hinsert : (Service.insert (Service.delete s.socials row.uid row.provider) row).isSome := by
      have hrow : row.socialuid.isSome := hsocial
      rw [Service.insert, if_pos hrow, Option.isSome_iff_ne_none, ne_eq,
        KeyedTable.insert_eq_none]
      rintro ⟨r, hr, hsame⟩
      have hold := (Service.mem_delete _ _ _ _).mp hr
      exact hid r hold.1 hsame
    obtain ⟨t', hinsert⟩ := Option.isSome_iff_exists.mp hinsert
    rw [hreplaced]
    change Represents (ownerOf s.world) (links (replaced row s.socials)) _
    rw [links_replaced_of_insert hinsert]
    simp only [absStep, huser]
    refine represents_append (represents_without h user.id provider) rfl howner ?_
    intro l hl hsame
    obtain ⟨hl, hother⟩ := mem_without.mp hl
    exact hother ⟨haccount l hl hsame, congrArg Prod.fst hsame⟩

theorem step_represents (order : RowOrder SocialsAssociate) (s : SocialWorld) (b : Bindings)
    (action : Action) (hfree : FreeAccount s action)
    (h : Represents (ownerOf s.world) (links s.socials) b) :
    Represents (ownerOf (step order s action).world) (links (step order s action).socials)
      (absStep b action) := by
  cases action with
  | bind session id provider socialuid => exact bind_represents hfree h
  | unbind session provider =>
    rw [step, final_unbind]
    cases huser : session.currentUser with
    | none =>
      simp only [enter, huser, absStep]
      exact h
    | some user =>
      simp only [enter, huser, absStep]
      rw [links_delete]
      exact represents_without h user.id provider
  | signOn session request providerName provider socialuid =>
    have hlinks : links (step order s (.signOn session request providerName provider
      socialuid)).socials = links s.socials := socialSignOn_links _ _ _ _ _ (enter s session)
    have howner : ownerOf (step order s (.signOn session request providerName provider
      socialuid)).world = ownerOf s.world := socialSignOn_ownerOf _ _ _ _ _ (enter s session)
    rw [hlinks, howner]
    exact h

/-- A sign-on with the account logs in the user who holds it and nobody when no one does.
A database error while the user is read leaves the session as it was. -/
def SignsOn (order : RowOrder SocialsAssociate) (s : SocialWorld) (holder : Option String)
    (provider x : String) : Prop :=
  ∀ session request providerName,
    let after := (step order s (.signOn session request providerName provider (some x))).world
    if request.faults.selectUserInfo ∨ holder = none then
      after.identity = (enter s session).world.identity
    else ∃ user ∈ s.world.database.userInfo.rows, some user.id = holder ∧
      after.session.currentUser = some user ∧
      (¬request.faults.selectGroups → ∃ authorities,
        after.session.currentAuthentication = some (loginToken user authorities))

/-- One user an account, one account of a provider a user, and each account signs on its
last binder. -/
structure LastBinderSignsOn (order : RowOrder SocialsAssociate) (s : SocialWorld)
    (b : Bindings) : Prop where
  oneUser : ((links s.socials).map Link.account).Nodup
  oneAccount : ((links s.socials).map Link.binder).Nodup
  signsOn : ∀ provider x, SignsOn order s (b provider x) provider x

theorem signsOn_of_represents {order : RowOrder SocialsAssociate} {s : SocialWorld}
    {b : Bindings} (h : Represents (ownerOf s.world) (links s.socials) b) (provider x : String) :
    SignsOn order s (b provider x) provider x := by
  intro session request providerName after
  have hidentity : after.identity = _ := socialSignOn_identity order request none providerName
    (token provider (some x)) (enter s session)
  cases hget : Service.get order s.socials provider (some x) with
  | none =>
    -- a holder would have a row, which the select would find
    have hnobody : b provider x = none := by
      rw [Option.eq_none_iff_forall_ne_some]
      intro u hu
      obtain ⟨l, hl, haccount, -⟩ := (h.bindings provider x u).mp hu
      obtain ⟨r, hr, rfl⟩ := List.mem_map.mp hl
      have hprovider : r.provider = provider := congrArg Prod.fst haccount
      have hsocial : r.socialuid = some x := congrArg Prod.snd haccount
      have hsome := Service.get_isSome order hr (by rw [hsocial]; rfl)
      rw [hprovider, hsocial, hget] at hsome
      cases hsome
    rw [if_pos (.inr hnobody), hidentity]
    simp only [token, enter, hget]
  | some r =>
    obtain ⟨hr, hprovider, hsocial⟩ := Service.get_eq_some hget
    have hlink : r.link ∈ links s.socials := List.mem_map_of_mem hr
    have hholder : b provider x = some r.uid := by
      refine (h.bindings provider x r.uid).mpr ⟨r.link, hlink, ?_, rfl⟩
      exact Prod.ext hprovider hsocial
    -- the user name in the row still stands for the user who bound the account
    have howner : (findUser s.world (some r.username)).map UserInfo.id = some r.uid :=
      h.resolves r.link hlink
    obtain ⟨user, hfind, hid⟩ := Option.map_eq_some_iff.mp howner
    simp only [token, enter, hget] at hidentity
    rw [setAuthentication_identity] at hidentity
    by_cases hselect : request.faults.selectUserInfo = true
    · rw [if_pos (.inl hselect), hidentity, if_pos hselect]
      rfl
    · have hfind' : findUser { s.world with session := session } (some r.username) = some user :=
        hfind
      rw [if_neg hselect, hfind'] at hidentity
      rw [if_neg (by simp [hselect, hholder])]
      refine ⟨user, (findUser_eq_some hfind).1, by rw [hid, hholder], ?_, ?_⟩
      · have huser : after.session.currentUser = _ := congrArg Prod.fst hidentity
        by_cases hgroups : request.faults.selectGroups = true
        · simpa only [if_pos hgroups] using huser
        · simpa only [if_neg hgroups] using huser
      · intro hgroups
        have hauth : after.session.currentAuthentication = _ := congrArg Prod.snd hidentity
        simp only [if_neg hgroups] at hauth
        exact ⟨_, hauth⟩

def start (w : World) : SocialWorld := ⟨w, KeyedTable.empty⟩

/-- No run gives a user two accounts of one provider; and in every run whose binds all find
their account free, each account signs on exactly its last binder. -/
theorem last_binder_signs_on (order : RowOrder SocialsAssociate) (w : World)
    (actions : List Action) :
    OneAccount (links (Runs.exec (step order) (start w) actions).socials) ∧
    (Runs.Meets (step order) FreeAccount (start w) actions →
      LastBinderSignsOn order (Runs.exec (step order) (start w) actions)
        (Runs.exec absStep Bindings.empty actions)) := by
  have hone : OneAccount (links (Runs.exec (step order) (start w) actions).socials) := by
    refine Runs.exec_induction (I := fun s : SocialWorld => OneAccount (links s.socials)) ?_ ?_
      actions
    · exact step_oneAccount order
    · exact List.nodup_nil
  refine ⟨hone, fun h => ?_⟩
  have hrep : Represents _ _ _ := Runs.exec_simulates
    (R := fun (s : SocialWorld) b => Represents (ownerOf s.world) (links s.socials) b)
    (step_represents order) h represents_nil
  exact ⟨hrep.accounts, hone, fun provider x => signsOn_of_represents hrep provider x⟩

def sessionOf (id : String) (user : UserInfo) : HttpSession := { id := id, currentUser := some user }

def visitor : HttpSession := { id := "s3" }

/-- alice binds a GitHub account, and admin binds the same account after her. -/
def boundTwice : List Action :=
  [.bind (sessionOf "s1" Logon.alice) "r1" "github" (some "octocat"),
    .bind (sessionOf "s2" Logon.admin) "r2" "github" (some "octocat")]

def world : World := ⟨Logon.twoUsers, visitor, none⟩

def afterBoth : SocialWorld := Runs.exec (step (.insertion _)) (start world) boundTwice

/-- Both keep the account, and a sign-on with it logs in alice, who bound it first. -/
theorem account_bound_twice_signs_on_first :
    ¬LastBinderSignsOn (.insertion _) afterBoth (Runs.exec absStep Bindings.empty boundTwice) ∧
      Runs.exec absStep Bindings.empty boundTwice "github" "octocat" = some Logon.admin.id ∧
      (step (.insertion _) afterBoth (.signOn visitor Logon.browser "GitHub" "github"
        (some "octocat"))).world.session.currentUser.map UserInfo.id = some Logon.alice.id := by
  refine ⟨fun h => ?_, by decide, by decide⟩
  exact absurd h.oneUser (by decide)

/-- alice replaces her account, admin takes the one that she gave up, and each signs on. -/
theorem given_up_account_signs_on_new_binder :
    let actions : List Action :=
      [.bind (sessionOf "s1" Logon.alice) "r1" "github" (some "octocat"),
        .bind (sessionOf "s1" Logon.alice) "r2" "github" (some "hubot"),
        .bind (sessionOf "s2" Logon.admin) "r3" "github" (some "octocat")]
    LastBinderSignsOn (.insertion _) (Runs.exec (step (.insertion _)) (start world) actions)
      (Runs.exec absStep Bindings.empty actions) := by
  intro actions
  refine (last_binder_signs_on (.insertion _) world actions).2 ⟨?_, ?_, ?_, trivial⟩
  all_goals
    intro user huser
    cases huser
    decide

end MaxKey.SocialBindings
