import Mathlib.Data.Set.Insert
import MaxKey.CommaLists
import MaxKey.ReciprocalUtils
import MaxKey.Runs
import MaxKey.SafeEndpoints

namespace MaxKey.ProtectedApps
open JavaException Effects SafeEndpoints OAuth2.StringUtils

/-- Texts are compared ignoring case by what each char is folded to, whatever that is. -/
structure Config where
  platform : ReciprocalUtils.Platform
  foldCase : Char → Char

def Config.equalsIgnoreCase (c : Config) (s t : String) : Bool :=
  s.toList.map c.foldCase = t.toList.map c.foldCase

def isBlank (text : String) : Bool := JavaText.trim text = ""

/-- A user as the session holds it. -/
structure UserInfo where
  id : String
  appLoginPassword : Option String
  protectedApps : Option String
  protectedAppsMap : Option (String → Option String) := none

/-- A row of USERINFO. -/
structure Row where
  id : String
  protectedApps : Option String
  deriving DecidableEq

/-- The users of the sessions, by session, and the table. -/
structure State where
  sessions : String → Option UserInfo
  userInfo : KeyedTable Row.id

abbrev Action := EStateM JavaException State

/-- The parameters of a request, its session, and whether the update statement fails. -/
structure Request where
  session : String
  appId : String
  protectedappId : String
  password : String
  fails : Bool := false

namespace UserInfo

/-- The getter creates the map, and adds whatever the text lists at the time. -/
def getProtectedAppsMap (u : UserInfo) : String → Option String :=
  let map := u.protectedAppsMap.getD fun _ => none
  match u.protectedApps with
  | none => map
  | some apps =>
    if apps = "" then map
    else
      (JavaText.split ',' apps).foldl (fun map appid => Function.update map appid (some appid)) map

/-- An application that is found in the text replaces the text. -/
def protect (u : UserInfo) (appId : String) : UserInfo :=
  match u.protectedApps.filter fun apps => !JavaText.contains apps appId with
  | some apps =>
    let u := { u with protectedApps := some (apps ++ "," ++ appId) }
    { u with protectedAppsMap := some (Function.update u.getProtectedAppsMap appId (some appId)) }
  | none => { u with protectedApps := some ("," ++ appId) }

def unprotect (c : Config) (u : UserInfo) (appId : String) : UserInfo :=
  match u.protectedApps.filter fun apps => JavaText.contains apps appId with
  | some apps =>
    { u with
      protectedAppsMap := some (Function.update u.getProtectedAppsMap appId none)
      protectedApps := some <| (JavaText.split ',' apps).foldl
        (fun protectedAppIds protectedAppId =>
          if c.equalsIgnoreCase protectedAppId appId || isBlank protectedAppId then protectedAppIds
          else protectedAppIds ++ "," ++ protectedAppId) "" }
  | none => u

end UserInfo

/-- The column is written where the user has a text. -/
def written (u : UserInfo) (row : Row) : Row :=
  { row with protectedApps := u.protectedApps.or row.protectedApps }

theorem written_id (u : UserInfo) (row : Row) : (written u row).id = row.id := rfl

/-- An exception is caught, and nobody asks for the answer. -/
def updateProtectedApps (fails : Bool) (u : UserInfo) : Action Bool := do
  if fails then return false
  else
    let s ← get
    set { s with userInfo := s.userInfo.update (·.id = u.id) (written u) (written_id u) }
    return (s.userInfo.select (·.id = u.id)).length > 0

def Request.protects (r : Request) : Bool := JavaText.equalsIgnoreCase r.protectedappId "YES"

def appLoginConfig (c : Config) (r : Request) : Action Response := do
  let userInfo ← orThrow nullPointer ((← get).sessions r.session)
  let ciphers ← orThrow nullPointer userInfo.appLoginPassword
  let decoded ← orError (ReciprocalUtils.decoder c.platform ciphers)
  let userAppProtectedPassword ← orThrow nullPointer decoded
  if userAppProtectedPassword = r.password then
    let userInfo :=
      if r.protects then userInfo.protect r.appId else userInfo.unprotect c r.appId
    modify fun s => { s with sessions := Function.update s.sessions r.session (some userInfo) }
    let _ ← updateProtectedApps r.fails userInfo
    return .message "message.action.update.success" .success
  else return .message "message.action.update.error" .error

def step (c : Config) (s : State) (r : Request) : State := final (appLoginConfig c r) s

/-! ### The list -/

/-- The applications of a list; blank parts name none. -/
def listed (apps : Option String) : List String :=
  (apps.elim [] parts).filter fun part => !isBlank part

/-- The text lists exactly these applications, each once. -/
def Lists (apps : Option String) (ids : Set String) : Prop :=
  (listed apps).Nodup ∧ ∀ id, id ∈ listed apps ↔ id ∈ ids

section

variable {text rest id : String} {apps : Option String} {ids : Set String} {c : Config}

@[simp] theorem listed_none : listed none = [] := rfl

theorem listed_empty : listed (some "") = [] := by decide +kernel

@[simp] theorem listed_append (text rest : String) :
    listed (some (text ++ "," ++ rest)) = listed (some text) ++ listed (some rest) := by
  simp only [listed, Option.elim_some, parts_append, List.filter_append]

theorem listed_of_comma_notMem (hid : isBlank id = false) (hcomma : ',' ∉ id.toList) :
    listed (some id) = [id] := by
  simp [listed, parts_of_comma_notMem hcomma, hid]

theorem listed_comma (hid : isBlank id = false) (hcomma : ',' ∉ id.toList) :
    listed (some ("," ++ id)) = [id] := by
  have hjoin : "," ++ id = "" ++ "," ++ id := by simp
  rw [hjoin, listed_append, listed_empty, List.nil_append, listed_of_comma_notMem hid hcomma]

theorem not_isBlank_of_mem (h : id ∈ listed apps) : isBlank id = false := by
  have hblank := (List.mem_filter.mp h).2
  simpa using hblank

theorem comma_notMem_of_mem_listed (h : id ∈ listed apps) : ',' ∉ id.toList := by
  have hmem := (List.mem_filter.mp h).1
  cases apps with
  | none => exact absurd hmem List.not_mem_nil
  | some text => exact comma_notMem_of_mem_parts hmem

/-- What is dropped from the front does not pass the filter. -/
theorem filter_dropWhile {α : Type} {p q : α → Bool} (h : ∀ a, p a = true → q a = false)
    (l : List α) : (l.dropWhile p).filter q = l.filter q := by
  induction l with
  | nil => rfl
  | cons a l ih =>
    by_cases hp : p a = true
    · rw [List.dropWhile_cons_of_pos hp, ih, List.filter_cons_of_neg (by simp [h a hp])]
    · rw [List.dropWhile_cons_of_neg hp]

/-- The empty parts that the split drops are blank. -/
theorem filter_split (text : String) :
    (JavaText.split ',' text).filter (fun part => !isBlank part) = listed (some text) := by
  have hblank : ∀ chars : List Char, chars.isEmpty = true →
      ((fun part => !isBlank part) ∘ String.ofList) chars = false := by
    intro chars hempty
    rw [List.isEmpty_iff.mp hempty]
    decide +kernel
  unfold JavaText.split JavaText.splitChars
  split_ifs with hcomma
  · rw [listed, Option.elim_some, parts, List.filter_map, List.filter_map, List.filter_reverse,
      filter_dropWhile hblank, List.filter_reverse, List.reverse_reverse]
  · simp [listed, parts_of_comma_notMem hcomma]

theorem mem_split (hid : isBlank id = false) :
    id ∈ JavaText.split ',' text ↔ id ∈ listed (some text) := by
  rw [← filter_split, List.mem_filter, hid]
  simp

/-- An application that is listed is found in the text. -/
theorem contains_of_mem (h : id ∈ listed (some text)) : JavaText.contains text id = true := by
  have hmem := (List.mem_filter.mp h).1
  obtain ⟨chars, hchars, rfl⟩ := List.mem_map.mp hmem
  obtain ⟨i, hi⟩ := List.mem_iff_getElem?.mp hchars
  have hjoined : [','].intercalate (text.toList.splitOn ',') = text.toList :=
    List.intercalate_splitOn ','
  rw [JavaText.contains_iff, String.toList_ofList, ← hjoined]
  apply List.infix_of_mem_flatten
  -- the parts stand at the even places
  apply List.mem_of_getElem?
  rw [List.getElem?_intersperse_two_mul]
  exact hi

/-- Texts joined to a list are added to it. The induction is on the texts. -/
theorem listed_foldl (added : List String)
    (h : ∀ part ∈ added, isBlank part = false ∧ ',' ∉ part.toList) (text : String) :
    listed (some (added.foldl (fun apps part => apps ++ "," ++ part) text)) =
      listed (some text) ++ added := by
  induction added generalizing text with
  | nil => simp
  | cons part added ih =>
    have hpart := h part List.mem_cons_self
    rw [List.foldl_cons, ih (fun p hp => h p (List.mem_cons_of_mem part hp)), listed_append,
      listed_of_comma_notMem hpart.1 hpart.2, List.append_assoc, List.singleton_append]

theorem lists_protect (h : Lists apps ids) (hid : id ∉ ids) {text : String}
    (htext : listed (some text) = listed apps ++ [id]) : Lists (some text) (insert id ids) := by
  have hnew : id ∉ listed apps := fun hmem => hid ((h.2 id).mp hmem)
  constructor
  · rw [htext]
    apply List.Nodup.append h.1 (List.nodup_singleton id)
    exact List.disjoint_singleton.mpr hnew
  · intro x
    rw [htext, List.mem_append, List.mem_singleton, h.2 x, Set.mem_insert_iff, or_comm]

theorem lists_single (h : Lists apps ids) (honly : ∀ x ∈ listed apps, x = id) {text : String}
    (htext : listed (some text) = [id]) : Lists (some text) (insert id ids) := by
  constructor
  · rw [htext]
    exact List.nodup_singleton id
  · intro x
    rw [htext, List.mem_singleton, Set.mem_insert_iff, ← h.2 x]
    constructor
    · exact Or.inl
    · intro hx
      rcases hx with hx | hx
      · exact hx
      · exact honly x hx

end

/-! ### The map -/

/-- The applications that the map has of its own are listed in the text. -/
def UserInfo.MapWithin (u : UserInfo) : Prop :=
  ∀ map ∈ u.protectedAppsMap, ∀ id, isBlank id = false → (map id).isSome = true →
    id ∈ listed u.protectedApps

section

variable {u : UserInfo} {id x : String} {apps : List String} {map : String → Option String}

theorem isSome_update (map : String → Option String) (id x : String) (value : Option String) :
    (Function.update map id value x).isSome = if x = id then value.isSome else (map x).isSome := by
  by_cases hx : x = id
  · rw [hx, Function.update_self, if_pos rfl]
  · rw [Function.update_of_ne hx, if_neg hx]

theorem isSome_foldl : ((apps.foldl (fun map appid => Function.update map appid (some appid)) map)
    x).isSome = true ↔ (map x).isSome = true ∨ x ∈ apps := by
  induction apps generalizing map with
  | nil => simp
  | cons appid apps ih =>
    rw [List.foldl_cons, ih, isSome_update]
    by_cases hx : x = appid
    · simp [hx]
    · simp [hx]

/-- What the getter shows are the applications of the text, besides what the map has of its own. -/
theorem isSome_getProtectedAppsMap (hx : isBlank x = false) :
    (u.getProtectedAppsMap x).isSome = true ↔
      ((u.protectedAppsMap.getD fun _ => none) x).isSome = true ∨ x ∈ listed u.protectedApps := by
  unfold UserInfo.getProtectedAppsMap
  cases u.protectedApps with
  | none => simp
  | some text =>
    by_cases hempty : text = ""
    · simp [hempty, listed_empty]
    · simp only [if_neg hempty]
      rw [isSome_foldl, mem_split hx]

theorem UserInfo.MapWithin.isSome (h : u.MapWithin) (hx : isBlank x = false) :
    (u.getProtectedAppsMap x).isSome = true ↔ x ∈ listed u.protectedApps := by
  rw [isSome_getProtectedAppsMap hx]
  constructor
  · intro hsome
    rcases hsome with hown | hlisted
    · cases hmap : u.protectedAppsMap with
      | none =>
        rw [hmap] at hown
        cases hown
      | some map =>
        rw [hmap] at hown
        exact h map hmap x hx hown
    · exact hlisted
  · exact Or.inr

/-- A map that is kept is within a longer list. -/
theorem UserInfo.MapWithin.mono (h : u.MapWithin) {apps : Option String}
    (hlisted : ∀ x ∈ listed u.protectedApps, x ∈ listed apps) :
    UserInfo.MapWithin { u with protectedApps := apps } := by
  intro map hmap x hx hsome
  exact hlisted x (h map hmap x hx hsome)

end

/-! ### A request on the user -/

/-- The application is found somewhere in the text, perhaps within the name of another one. -/
def Found (u : UserInfo) (id : String) : Prop :=
  u.protectedApps.any (JavaText.contains · id) = true

/-- An application to be protected has a name that a list can hold, and is not found in the text,
unless no other application is listed. One that is found and is no longer to be protected is not
listed in another spelling. -/
def Admits (c : Config) (u : UserInfo) (r : Request) : Prop :=
  if r.protects then
    isBlank r.appId = false ∧ ',' ∉ r.appId.toList ∧
      (Found u r.appId → ∀ x ∈ listed u.protectedApps, x = r.appId)
  else Found u r.appId → ∀ x ∈ listed u.protectedApps,
    c.equalsIgnoreCase x r.appId = true → x = r.appId

section

variable {c : Config} {u : UserInfo} {id text : String} {ids : Set String}

theorem found_of_mem (h : id ∈ listed u.protectedApps) : Found u id := by
  unfold Found
  cases htext : u.protectedApps with
  | none =>
    rw [htext] at h
    exact absurd h List.not_mem_nil
  | some text =>
    rw [htext] at h
    exact contains_of_mem h

theorem protect_of_not_found (htext : u.protectedApps = some text) (hfound : ¬Found u id) :
    u.protect id =
      { u with
        protectedApps := some (text ++ "," ++ id)
        protectedAppsMap := some (Function.update
          (UserInfo.getProtectedAppsMap { u with protectedApps := some (text ++ "," ++ id) })
          id (some id)) } := by
  have hnot : JavaText.contains text id = false := by simpa [Found, htext] using hfound
  have hsome : (u.protectedApps.filter fun apps => !JavaText.contains apps id) = some text := by
    simp [htext, hnot]
  unfold UserInfo.protect
  rw [hsome]

theorem protect_of_found (h : u.protectedApps = none ∨ Found u id) :
    u.protect id = { u with protectedApps := some ("," ++ id) } := by
  unfold UserInfo.protect
  have hnone : (u.protectedApps.filter fun apps => !JavaText.contains apps id) = none := by
    rcases h with hnone | hfound
    · rw [hnone]
      rfl
    · obtain ⟨text, htext, hcontains⟩ := (Option.any_eq_true _ _).mp hfound
      simp [htext, hcontains]
  rw [hnone]

theorem protect_lists (hid : isBlank id = false) (hcomma : ',' ∉ id.toList)
    (hfound : Found u id → ∀ x ∈ listed u.protectedApps, x = id)
    (h : Lists u.protectedApps ids) (hmap : u.MapWithin) :
    Lists (u.protect id).protectedApps (insert id ids) ∧ (u.protect id).MapWithin := by
  by_cases hwhole : u.protectedApps = none ∨ Found u id
  · have honly : ∀ x ∈ listed u.protectedApps, x = id := by
      rcases hwhole with hnone | hwhole
      · simp [hnone]
      · exact hfound hwhole
    have hlist := listed_comma hid hcomma
    rw [protect_of_found hwhole]
    refine ⟨lists_single h honly hlist, hmap.mono ?_⟩
    intro x hx
    rw [hlist, honly x hx]
    exact List.mem_singleton_self id
  · rw [not_or] at hwhole
    obtain ⟨text, htext⟩ := Option.ne_none_iff_exists'.mp hwhole.1
    have hlist : listed (some (text ++ "," ++ id)) = listed u.protectedApps ++ [id] := by
      rw [listed_append, listed_of_comma_notMem hid hcomma, htext]
    have hnew : id ∉ ids := by
      intro hmem
      exact hwhole.2 (found_of_mem ((h.2 id).mpr hmem))
    rw [protect_of_not_found htext hwhole.2]
    refine ⟨lists_protect h hnew hlist, ?_⟩
    -- the getter reads the longer text already
    have hlonger : UserInfo.MapWithin { u with protectedApps := some (text ++ "," ++ id) } := by
      apply hmap.mono
      intro x hx
      rw [hlist]
      exact List.mem_append_left [id] hx
    intro map hsome x hx hmem
    rw [← Option.some.inj hsome, isSome_update] at hmem
    by_cases hsame : x = id
    · show x ∈ listed (some (text ++ "," ++ id))
      rw [hlist, hsame]
      exact List.mem_append_right _ (List.mem_singleton_self id)
    · rw [if_neg hsame] at hmem
      exact (hlonger.isSome hx).mp hmem

theorem unprotect_of_not_found (hfound : ¬Found u id) : u.unprotect c id = u := by
  have hnone : (u.protectedApps.filter fun apps => JavaText.contains apps id) = none := by
    cases htext : u.protectedApps with
    | none => rfl
    | some text =>
      have hnot : JavaText.contains text id = false := by simpa [Found, htext] using hfound
      simp [hnot]
  unfold UserInfo.unprotect
  rw [hnone]

/-- The text is built again of the parts that are to stay. -/
theorem foldl_split (c : Config) (id text : String) :
    (JavaText.split ',' text).foldl (fun protectedAppIds protectedAppId =>
        if c.equalsIgnoreCase protectedAppId id || isBlank protectedAppId then protectedAppIds
        else protectedAppIds ++ "," ++ protectedAppId) "" =
      ((listed (some text)).filter fun part => !c.equalsIgnoreCase part id).foldl
        (fun apps part => apps ++ "," ++ part) "" := by
  rw [← filter_split, List.filter_filter, List.foldl_filter]
  congr 1
  funext apps part
  cases c.equalsIgnoreCase part id with
  | true => simp
  | false =>
    cases isBlank part with
    | true => simp
    | false => simp

theorem unprotect_of_found (htext : u.protectedApps = some text) (hfound : Found u id) :
    u.unprotect c id =
      { u with
        protectedAppsMap := some (Function.update u.getProtectedAppsMap id none)
        protectedApps := some (((listed u.protectedApps).filter fun part =>
          !c.equalsIgnoreCase part id).foldl (fun apps part => apps ++ "," ++ part) "") } := by
  have hcontains : JavaText.contains text id = true := by simpa [Found, htext] using hfound
  have hsome : (u.protectedApps.filter fun apps => JavaText.contains apps id) = some text := by
    simp [htext, hcontains]
  unfold UserInfo.unprotect
  rw [hsome, htext, ← foldl_split]

theorem unprotect_lists (hfound : Found u id → ∀ x ∈ listed u.protectedApps,
      c.equalsIgnoreCase x id = true → x = id)
    (h : Lists u.protectedApps ids) (hmap : u.MapWithin) :
    Lists (u.unprotect c id).protectedApps (ids \ {id}) ∧ (u.unprotect c id).MapWithin := by
  by_cases hwhole : Found u id
  · obtain ⟨text, htext, -⟩ := (Option.any_eq_true _ _).mp hwhole
    have hstays : ∀ x,
        x ∈ (listed u.protectedApps).filter (fun part => !c.equalsIgnoreCase part id) ↔
          x ∈ listed u.protectedApps ∧ x ≠ id := by
      intro x
      rw [List.mem_filter, Bool.not_eq_true', ← Bool.not_eq_true]
      apply and_congr_right
      intro hx
      constructor
      · intro hdiffers hsame
        exact hdiffers (hsame ▸ decide_eq_true rfl)
      · intro hdiffers hfold
        exact hdiffers (hfound hwhole x hx hfold)
    have hlist := listed_foldl ((listed u.protectedApps).filter fun part =>
      !c.equalsIgnoreCase part id) (fun part hpart =>
        ⟨not_isBlank_of_mem ((hstays part).mp hpart).1,
          comma_notMem_of_mem_listed ((hstays part).mp hpart).1⟩) ""
    rw [listed_empty, List.nil_append] at hlist
    rw [unprotect_of_found htext hwhole]
    refine ⟨⟨?_, ?_⟩, ?_⟩
    · rw [hlist]
      exact h.1.filter _
    · intro x
      rw [hlist, hstays, h.2 x]
      rfl
    · intro map hsome x hx hmem
      rw [← Option.some.inj hsome, isSome_update] at hmem
      rw [hlist, hstays]
      by_cases hsame : x = id
      · rw [if_pos hsame] at hmem
        cases hmem
      · rw [if_neg hsame] at hmem
        exact ⟨(hmap.isSome hx).mp hmem, hsame⟩
  · rw [unprotect_of_not_found hwhole]
    refine ⟨⟨h.1, ?_⟩, hmap⟩
    -- what is not found in the text is not listed either
    have hnot : id ∉ ids := by
      intro hmem
      exact hwhole (found_of_mem ((h.2 id).mpr hmem))
    rw [Set.sdiff_singleton_eq_self hnot]
    exact h.2

/-- The user after a request with the right password. -/
def UserInfo.requested (c : Config) (u : UserInfo) (r : Request) : UserInfo :=
  if r.protects then u.protect r.appId else u.unprotect c r.appId

/-- What a request asks to become of a set of applications. -/
def Request.apply (r : Request) (ids : Set String) : Set String :=
  if r.protects then insert r.appId ids else ids \ {r.appId}

theorem requested_lists {r : Request} (hadmits : Admits c u r) (h : Lists u.protectedApps ids)
    (hmap : u.MapWithin) :
    Lists (u.requested c r).protectedApps (r.apply ids) ∧ (u.requested c r).MapWithin := by
  unfold Admits at hadmits
  unfold UserInfo.requested Request.apply
  split_ifs at hadmits ⊢ with hprotects
  · obtain ⟨hid, hcomma, hfound⟩ := hadmits
    exact protect_lists hid hcomma hfound h hmap
  · exact unprotect_lists hadmits h hmap

theorem requested_id (c : Config) (u : UserInfo) (r : Request) : (u.requested c r).id = u.id := by
  unfold UserInfo.requested UserInfo.protect UserInfo.unprotect
  split_ifs
  · split
    · rfl
    · rfl
  · split
    · rfl
    · rfl

end

/-! ### The runs -/

/-- The user of a session. -/
def State.owner (s : State) (session : String) : Option String := (s.sessions session).map (·.id)

/-- The sets of applications that the requests ask for, by user. -/
def ask (owner : String → Option String) (protections : String → Set String) (r : Request) :
    String → Set String :=
  match owner r.session with
  | none => protections
  | some id => Function.update protections id (r.apply (protections id))

/-- The list of the session is the one in the record. Another session of the same user may have
written the record since. -/
def UpToDate (s : State) (u : UserInfo) : Prop :=
  ∃ row ∈ s.userInfo.rows, row.id = u.id ∧ row.protectedApps = u.protectedApps

def RightPassword (c : Config) (u : UserInfo) (password : String) : Prop :=
  u.appLoginPassword.map (ReciprocalUtils.decoder c.platform) = some (.ok (some password))

/-- A request with the right password that the list can take, and that is written. -/
def Served (c : Config) (s : State) (r : Request) : Prop :=
  ∃ u ∈ s.sessions r.session,
    RightPassword c u r.password ∧ r.fails = false ∧ UpToDate s u ∧ Admits c u r

/-- Each record lists the applications of its user, each once, and a session with the list of the
record has the same applications in its map. The blank key that the leading comma makes names no
application. -/
structure Agrees (s : State) (protections : String → Set String) : Prop where
  stored : ∀ row ∈ s.userInfo.rows, Lists row.protectedApps (protections row.id)
  mapped : ∀ session, ∀ u ∈ s.sessions session, UpToDate s u → ∀ id, isBlank id = false →
    ((u.getProtectedAppsMap id).isSome = true ↔ id ∈ protections u.id)

/-- What the runs keep: the maps need not be filled yet. -/
structure Consistent (s : State) (protections : String → Set String) : Prop where
  stored : ∀ row ∈ s.userInfo.rows, Lists row.protectedApps (protections row.id)
  mapped : ∀ session, ∀ u ∈ s.sessions session, u.MapWithin

section

variable {c : Config} {s : State} {r : Request} {u : UserInfo} {protections : String → Set String}

theorem Consistent.agrees (h : Consistent s protections) : Agrees s protections := by
  refine ⟨h.stored, ?_⟩
  intro session u hu ⟨row, hrow, hid, hsame⟩ id hblank
  have hlists := h.stored row hrow
  rw [hid, hsame] at hlists
  rw [(h.mapped session u hu).isSome hblank]
  exact hlists.2 id

/-- The state after a request that is written. -/
def saved (c : Config) (s : State) (r : Request) (u : UserInfo) : State where
  sessions := Function.update s.sessions r.session (some (u.requested c r))
  userInfo := s.userInfo.update (·.id = (u.requested c r).id) (written (u.requested c r))
    (written_id (u.requested c r))

theorem step_of_right (hu : s.sessions r.session = some u)
    (hpassword : RightPassword c u r.password) (hfails : r.fails = false) :
    step c s r = saved c s r u := by
  obtain ⟨ciphers, hciphers, hdecoded⟩ := Option.map_eq_some_iff.mp hpassword
  apply final_of_ok
  unfold appLoginConfig
  rw [bind_of_ok (get_apply s), hu, orThrow_some_bind, hciphers, orThrow_some_bind, hdecoded,
    orError_ok_bind, orThrow_some_bind, if_pos rfl, hfails]
  rfl

theorem sessions_saved_self : (saved c s r u).sessions r.session = some (u.requested c r) :=
  Function.update_self _ _ _

theorem sessions_saved_of_ne {session : String} (h : session ≠ r.session) :
    (saved c s r u).sessions session = s.sessions session := Function.update_of_ne h _ _

theorem mem_saved {row : Row} : row ∈ (saved c s r u).userInfo.rows ↔ ∃ before ∈ s.userInfo.rows,
    (if before.id = u.id then written (u.requested c r) before else before) = row := by
  rw [← requested_id c u r]
  simp only [saved, KeyedTable.mem_update, decide_eq_true_eq]

theorem owner_saved (hu : s.sessions r.session = some u) : (saved c s r u).owner = s.owner := by
  funext session
  unfold State.owner
  by_cases hsession : session = r.session
  · rw [hsession, sessions_saved_self, hu, Option.map_some, Option.map_some, requested_id]
  · rw [sessions_saved_of_ne hsession]

/-- A text does not become null again. -/
theorem requested_or (c : Config) (u : UserInfo) (r : Request) :
    (u.requested c r).protectedApps.or u.protectedApps = (u.requested c r).protectedApps := by
  unfold UserInfo.requested UserInfo.protect UserInfo.unprotect
  split_ifs
  · split
    · rfl
    · rfl
  · split
    · rfl
    · exact Option.or_self

/-- The record of the user takes the text of the session, and the other ones stay. -/
theorem rows_saved (hcurrent : UpToDate s u) {row : Row}
    (hrow : row ∈ (saved c s r u).userInfo.rows) :
    (row.id = u.id ∧ row.protectedApps = (u.requested c r).protectedApps) ∨
      (row.id ≠ u.id ∧ row ∈ s.userInfo.rows) := by
  obtain ⟨before, hbefore, hwritten⟩ := mem_saved.mp hrow
  by_cases hid : before.id = u.id
  · left
    obtain ⟨own, hown, hownid, hsame⟩ := hcurrent
    have hrecord : before = own := s.userInfo.eq_of_key_eq hbefore hown (hid.trans hownid.symm)
    rw [if_pos hid] at hwritten
    rw [← hwritten]
    refine ⟨hid, ?_⟩
    show (u.requested c r).protectedApps.or before.protectedApps = _
    rw [hrecord, hsame, requested_or]
  · right
    rw [if_neg hid] at hwritten
    rw [← hwritten]
    exact ⟨hid, hbefore⟩

theorem upToDate_saved (hcurrent : UpToDate s u) : UpToDate (saved c s r u) (u.requested c r) := by
  obtain ⟨own, hown, hownid, hsame⟩ := hcurrent
  have hid : own.id = (u.requested c r).id := hownid.trans (requested_id c u r).symm
  refine ⟨written (u.requested c r) own, mem_saved.mpr ⟨own, hown, if_pos hownid⟩, hid, ?_⟩
  · show (u.requested c r).protectedApps.or own.protectedApps = _
    rw [hsame, requested_or]

/-- One request: the record and the map follow what is asked for. -/
theorem Consistent.saved (h : Consistent s protections) (hu : s.sessions r.session = some u)
    (hcurrent : UpToDate s u) (hadmits : Admits c u r) :
    Consistent (saved c s r u) (ask s.owner protections r) := by
  have howner : s.owner r.session = some u.id := by rw [State.owner, hu, Option.map_some]
  have hlists : Lists u.protectedApps (protections u.id) := by
    obtain ⟨own, hown, hownid, hsame⟩ := hcurrent
    rw [← hsame, ← hownid]
    exact h.stored own hown
  have hrequested := requested_lists hadmits hlists (h.mapped r.session u hu)
  have hask : ask s.owner protections r =
      Function.update protections u.id (r.apply (protections u.id)) := by
    unfold ask
    rw [howner]
  rw [hask]
  constructor
  · intro row hrow
    rcases rows_saved hcurrent hrow with ⟨hid, hsame⟩ | ⟨hid, hstays⟩
    · rw [hid, hsame, Function.update_self]
      exact hrequested.1
    · rw [Function.update_of_ne hid]
      exact h.stored row hstays
  · intro session v hv
    by_cases hsession : session = r.session
    · rw [hsession, sessions_saved_self] at hv
      rw [← Option.some.inj hv]
      exact hrequested.2
    · rw [sessions_saved_of_ne hsession] at hv
      exact h.mapped session v hv

/-- A session of a user with the list of the record. -/
def Current (s : State) (session : String) : Prop := ∃ u ∈ s.sessions session, UpToDate s u

theorem current_step (h : Served c s r) : Current (step c s r) r.session := by
  obtain ⟨u, hu, hpassword, hfails, hcurrent, -⟩ := h
  rw [step_of_right hu hpassword hfails]
  exact ⟨u.requested c r, sessions_saved_self, upToDate_saved hcurrent⟩

theorem simulates (owner : String → Option String) (s : State) (protections : String → Set String)
    (r : Request) (h : Served c s r) (hs : s.owner = owner ∧ Consistent s protections) :
    (step c s r).owner = owner ∧ Consistent (step c s r) (ask owner protections r) := by
  obtain ⟨u, hu, hpassword, hfails, hcurrent, hadmits⟩ := h
  obtain ⟨howner, hconsistent⟩ := hs
  rw [step_of_right hu hpassword hfails, owner_saved hu, ← howner]
  exact ⟨rfl, hconsistent.saved hu hcurrent hadmits⟩

end

/-- Over every run of requests with the right password that the lists can take, each from a session
with the list of the record and written, the records list exactly the applications protected and not
unprotected since, each once. So do the maps of the sessions with the list of the record, and the
session of the last request is one. -/
theorem agrees_of_meets (c : Config) {s : State} {protections : String → Set String}
    (hs : Consistent s protections) {requests : List Request}
    (h : Runs.Meets (step c) (Served c) s requests) :
    Agrees (Runs.exec (step c) s requests) (Runs.exec (ask s.owner) protections requests) ∧
    ∀ r ∈ requests.getLast?, Current (Runs.exec (step c) s requests) r.session := by
  constructor
  · have hrun := Runs.exec_simulates (simulates s.owner) h ⟨rfl, hs⟩
    exact hrun.2.agrees
  · intro r hr
    obtain ⟨before, hsplit⟩ := List.getLast?_eq_some_iff.mp hr
    rw [hsplit, Runs.meets_append] at h
    rw [hsplit, Runs.exec_append]
    exact current_step h.2.1

/-! ### Two runs -/

def testConfig : Config where
  platform := ReciprocalUtils.platformOf OAuth2.Codecs.utf8Encode
  foldCase := JavaText.foldCase

/-- A user who has not protected anything, in a session. -/
def testState : State where
  sessions session :=
    if session = "laptop" then some ⟨"u", some "f1c597c438cf23784545461d1c206af4", none, none⟩
    else none
  userInfo := ⟨[⟨"u", none⟩], by decide⟩

/-- A request with the right password. -/
def testRequest (protectedappId appId : String) : Request where
  session := "laptop"
  appId := appId
  protectedappId := protectedappId
  password := "secret"

theorem consistent_testState : Consistent testState fun _ => ∅ := by
  constructor
  · intro row hrow
    rw [List.mem_singleton.mp hrow]
    simp [Lists]
  · intro session u hu map hmap
    rw [Option.mem_def, testState, Option.ite_none_right_eq_some] at hu
    rw [← Option.some.inj hu.2] at hmap
    cases hmap

instance (u : UserInfo) (id : String) : Decidable (Found u id) :=
  inferInstanceAs (Decidable (_ = true))

instance (c : Config) (u : UserInfo) (r : Request) : Decidable (Admits c u r) :=
  decidable_of_iff (if r.protects then
      isBlank r.appId = false ∧ ',' ∉ r.appId.toList ∧
        (Found u r.appId → ∀ x ∈ listed u.protectedApps, x = r.appId)
    else Found u r.appId → ∀ x ∈ listed u.protectedApps,
      c.equalsIgnoreCase x r.appId = true → x = r.appId) Iff.rfl

instance (s : State) (u : UserInfo) : Decidable (UpToDate s u) :=
  inferInstanceAs (Decidable (∃ _ ∈ _, _))

instance (c : Config) (u : UserInfo) (password : String) : Decidable (RightPassword c u password) :=
  inferInstanceAs (Decidable (_ = _))

instance (c : Config) (s : State) (r : Request) : Decidable (Served c s r) :=
  inferInstanceAs (Decidable (∃ _ ∈ _, _))

theorem agrees_mail_crm :
    let requests := [testRequest "yes" "mail", testRequest "yes" "crm", testRequest "no" "mail"]
    (Agrees (Runs.exec (step testConfig) testState requests)
      (Runs.exec (ask testState.owner) (fun _ => ∅) requests) ∧
    ∀ r ∈ requests.getLast?, Current (Runs.exec (step testConfig) testState requests) r.session) ∧
    (Runs.exec (step testConfig) testState requests).userInfo.rows = [⟨"u", some ",crm"⟩] := by
  refine ⟨agrees_of_meets testConfig consistent_testState ?_, ?_⟩
  · decide +kernel
  · decide +kernel

/-- An application that is protected a second time replaces the list, and the other one is gone. -/
theorem protected_twice :
    let requests := [testRequest "yes" "mail", testRequest "yes" "crm", testRequest "yes" "mail"]
    Consistent testState (fun _ => ∅) ∧
    Runs.Meets (step testConfig) (fun s r => ∃ u ∈ s.sessions r.session,
      RightPassword testConfig u r.password ∧ r.fails = false ∧ UpToDate s u) testState requests ∧
    (Runs.exec (step testConfig) testState requests).userInfo.rows = [⟨"u", some ",mail"⟩] ∧
    ¬Agrees (Runs.exec (step testConfig) testState requests)
      (Runs.exec (ask testState.owner) (fun _ => ∅) requests) := by
  intro requests
  have hrows : (Runs.exec (step testConfig) testState requests).userInfo.rows =
      [⟨"u", some ",mail"⟩] := by decide +kernel
  refine ⟨consistent_testState, by decide +kernel, hrows, ?_⟩
  intro h
  have hlists := h.stored ⟨"u", some ",mail"⟩ (by rw [hrows]; exact List.mem_singleton_self _)
  have hprotects : ∀ appId, (testRequest "yes" appId).protects = true := by
    intro appId
    show JavaText.equalsIgnoreCase "yes" "YES" = true
    decide +kernel
  have hasked : "crm" ∈ Runs.exec (ask testState.owner) (fun _ => ∅) requests "u" := by
    have howner : testState.owner "laptop" = some "u" := by decide +kernel
    have hask : ∀ protections appId, ask testState.owner protections (testRequest "yes" appId) =
        Function.update protections "u" (insert appId (protections "u")) := by
      intro protections appId
      have hsession : testState.owner (testRequest "yes" appId).session = some "u" := howner
      unfold ask Request.apply
      rw [hsession, hprotects appId]
      rfl
    simp [requests, hask]
  have hlisted := (hlists.2 "crm").mpr hasked
  exact absurd hlisted (by decide +kernel)

end MaxKey.ProtectedApps
