import MaxKey.Lockouts
import MaxKey.RemeberMeRuns

namespace MaxKey.RemeberMeStores
open WebContext Realm RemeberMe RemeberMeRuns JavaException Effects
open Function (update)

variable {σ : Type}

/-- A store that keeps one record for a user name, for a time of its own. -/
structure KeyedByName (service : Store σ) where
  timeToLive : ℕ
  view : σ → String → Option (RemeberMe × ℕ)
  readable : JdbcFaults → RemeberMe → Bool
  saves : ∀ {faults now r s s'}, service.save faults now r s = .ok s' →
    view s' = update (view s) (nameOf r) (some (r, now + timeToLive))
  updates : ∀ {faults now r s s'}, service.update faults now r s = .ok s' →
    view s' = update (view s) (nameOf r) (some (r, now + timeToLive))
  reads : ∀ {faults now r s}, readable faults r →
    service.read faults now r s = .ok (((view s (nameOf r)).filter (now < ·.2)).map Prod.fst)
  unreadable : ∀ {faults now r s}, ¬readable faults r → ∃ e, service.read faults now r s = .error e
  removes : ∀ {faults username s s'}, service.remove faults username s = .ok s' →
    view s' = update (view s) username none

theorem InMemoryRemeberMeService.put_eq_ok {now : ℕ} {r : RemeberMe}
    {m m' : ExpiringMap String RemeberMe}
    (h : RemeberMe.InMemoryRemeberMeService.put now r m = .ok m') :
    m'.entries = update m.entries (nameOf r)
      (some (r, now + RemeberMe.InMemoryRemeberMeService.timeToLive)) := by
  unfold RemeberMe.InMemoryRemeberMeService.put nonNullName at h
  cases hname : r.username with
  | none =>
    rw [hname] at h
    cases h
  | some username =>
    rw [hname] at h
    cases h
    simp only [nameOf, hname, Option.getD_some]
    rfl

def inMemory : KeyedByName InMemoryRemeberMeService where
  timeToLive := RemeberMe.InMemoryRemeberMeService.timeToLive
  view m := m.entries
  readable _ r := r.username.isSome
  saves h := InMemoryRemeberMeService.put_eq_ok h
  updates h := InMemoryRemeberMeService.put_eq_ok h
  reads := by
    intro faults now r s h
    obtain ⟨username, hname⟩ := Option.isSome_iff_exists.mp h
    simp only [RemeberMe.InMemoryRemeberMeService, nonNullName, nameOf, hname]
    rfl
  unreadable := by
    intro faults now r s h
    rw [Option.not_isSome_iff_eq_none] at h
    simp only [RemeberMe.InMemoryRemeberMeService, nonNullName, h]
    exact ⟨_, rfl⟩
  removes := by
    intro faults username s s' h
    cases h
    rfl

theorem RedisRemeberMeService.setexObject_eq_ok {faults : JdbcFaults} {now : ℕ} {r : RemeberMe}
    {m m' : ExpiringMap String RemeberMe}
    (h : RemeberMe.RedisRemeberMeService.setexObject faults now r m = .ok m') :
    (fun u => m'.entries (RemeberMe.RedisRemeberMeService.PREFIX ++ u)) =
      update (fun u => m.entries (RemeberMe.RedisRemeberMeService.PREFIX ++ u)) (nameOf r)
        (some (r, now + RemeberMe.RedisRemeberMeService.serviceTicketValiditySeconds * 1000)) := by
  obtain ⟨_, -, h⟩ := except_bind_eq_ok.mp h
  cases h
  funext u
  by_cases hname : u = nameOf r
  · rw [hname, Function.update_self]
    exact Function.update_self _ _ _
  · have hkey : RemeberMe.RedisRemeberMeService.PREFIX ++ u ≠
        RemeberMe.RedisRemeberMeService.key r.username :=
      fun heq => hname ((String.append_right_inj _).mp heq)
    rw [Function.update_of_ne hname]
    exact Function.update_of_ne hkey _ _

def redis : KeyedByName RedisRemeberMeService where
  timeToLive := RemeberMe.RedisRemeberMeService.serviceTicketValiditySeconds * 1000
  view m u := m.entries (RemeberMe.RedisRemeberMeService.PREFIX ++ u)
  readable faults _ := !faults.readRemeberMe
  saves h := RedisRemeberMeService.setexObject_eq_ok h
  updates h := RedisRemeberMeService.setexObject_eq_ok h
  reads := by
    intro faults now r s h
    have hf : faults.readRemeberMe = false := by simpa using h
    simp only [RemeberMe.RedisRemeberMeService, failIf, hf]
    rfl
  unreadable := by
    intro faults now r s h
    have hf : faults.readRemeberMe = true := by simpa using h
    simp only [RemeberMe.RedisRemeberMeService, failIf, hf]
    exact ⟨_, rfl⟩
  removes := by
    intro faults username s s' h
    obtain ⟨_, -, h⟩ := except_bind_eq_ok.mp h
    cases h
    funext u
    by_cases hname : u = username
    · rw [hname, Function.update_self]
      exact Function.update_self _ _ _
    · have hkey : RemeberMe.RedisRemeberMeService.PREFIX ++ u ≠
          RemeberMe.RedisRemeberMeService.key (some username) :=
        fun heq => hname ((String.append_right_inj _).mp heq)
      rw [Function.update_of_ne hname]
      exact Function.update_of_ne hkey _ _

/-- The last cookie of a user is neither past its validity nor gone from the store. -/
def isGood {service : Store σ} (k : KeyedByName service) (validity now : ℕ) (last : RemeberMe) :
    Prop :=
  now < last.lastLogin.getD 0 + validity * 1000 ∧ now < last.lastLogin.getD 0 + k.timeToLive

instance {service : Store σ} (k : KeyedByName service) (validity now : ℕ) (last : RemeberMe) :
    Decidable (isGood k validity now last) := inferInstanceAs (Decidable (_ ∧ _))

section Keyed

variable {service : Store σ} {k : KeyedByName service} {codec : Codec} {validity : ℕ}
  {s s' : Watch σ} {a : Action}

/-- The store has of every user the record of the last cookie. -/
structure Holds (k : KeyedByName service) (s : Watch σ) : Prop where
  view_eq : ∀ u, k.view s.store u =
    (s.issued u).map fun r => (r, r.lastLogin.getD 0 + k.timeToLive)
  dated : ∀ u, ∀ r ∈ s.issued u, r.lastLogin.isSome

theorem holds_of_update {store : σ} {u : String} {last : Option RemeberMe}
    (hview : k.view store = update (k.view s.store) u
      (last.map fun r => (r, r.lastLogin.getD 0 + k.timeToLive)))
    (hdate : ∀ r ∈ last, r.lastLogin.isSome) (h : Holds k s) :
    Holds k ⟨store, update s.issued u last⟩ := by
  constructor
  · intro v
    change k.view store v = (update s.issued u last v).map _
    rw [hview]
    by_cases hv : v = u
    · rw [hv, Function.update_self, Function.update_self]
    · rw [Function.update_of_ne hv, Function.update_of_ne hv]
      exact h.view_eq v
  · intro v r hr
    change update s.issued u last v = some r at hr
    by_cases hv : v = u
    · rw [hv, Function.update_self] at hr
      exact hdate r hr
    · rw [Function.update_of_ne hv] at hr
      exact h.dated v r hr

theorem holds_step (h : Holds k s) : Holds k (step service codec validity s a) := by
  have heffect := effect_step service codec validity s a
  generalize step service codec validity s a = s' at heffect
  cases heffect with
  | nothing => exact h
  | create hwish huser hsave =>
    apply holds_of_update _ _ h
    · exact k.saves hsave
    · simp [newRecord]
  | login hcookie haccepted hupdate =>
    apply holds_of_update _ _ h
    · exact k.updates hupdate
    · simp [renewed]
  | update hupdate =>
    apply holds_of_update _ _ h
    · exact k.updates hupdate
    · simp [renewed]
  | remove huser hremove =>
    apply holds_of_update _ _ h
    · exact k.removes hremove
    · simp

/-- The record that the store accepts is that of the last cookie, whatever cookie is brought. -/
theorem accepted_iff {request : HttpRequest} {text : String} {cookie stored : RemeberMe}
    (h : Holds k s) (hcookie : codec.decode text = .ok cookie) :
    accepted service codec validity request text s.store = some stored ↔
      k.readable request.faults cookie ∧ s.issued (nameOf cookie) = some stored ∧
        isGood k validity request.now stored := by
  rw [accepted_eq_some hcookie]
  by_cases hreadable : k.readable request.faults cookie = true
  · have hread : service.read request.faults request.now cookie s.store =
        .ok (((k.view s.store (nameOf cookie)).filter (request.now < ·.2)).map Prod.fst) :=
      k.reads hreadable
    rw [hread, h.view_eq]
    cases hlast : s.issued (nameOf cookie) with
    | none => simp
    | some last =>
      obtain ⟨issuedAt, hdate⟩ := Option.isSome_iff_exists.mp (h.dated _ last hlast)
      -- the store's own deadline and the service's one
      simp only [Option.map_some, hdate, Option.getD_some, Except.ok.injEq, hreadable, true_and,
        Option.some.injEq]
      by_cases hlives : request.now < issuedAt + k.timeToLive
      · simp only [Option.filter_some, hlives, decide_true, if_true, Option.map_some,
          Option.some.injEq]
        constructor
        · rintro ⟨rfl, hdue⟩
          refine ⟨rfl, ?_, ?_⟩
          · simpa only [unexpired, hdate, Option.getD_some] using hdue
          · simpa only [hdate, Option.getD_some] using hlives
        · rintro ⟨rfl, hdue, -⟩
          refine ⟨rfl, ?_⟩
          simpa only [unexpired, hdate, Option.getD_some] using hdue
      · simp only [Option.filter_some, hlives, decide_false, Bool.false_eq_true, if_false,
          Option.map_none, reduceCtorEq, false_and, false_iff]
        rintro ⟨rfl, -, hgood⟩
        rw [hdate] at hgood
        exact hlives hgood
  · have hthrow : ∃ e, service.read request.faults request.now cookie s.store = .error e :=
      k.unreadable hreadable
    obtain ⟨e, hthrow⟩ := hthrow
    rw [hthrow]
    simp [hreadable]

/-- A login accepts a cookie exactly where the last one of its user is good. -/
theorem login_iff {world : World} {request : HttpRequest} {authKey text : String} (h : Holds k s) :
    outcome (login service codec validity request authKey text) { world, store := s.store } =
        .ok true ↔
      ∃ cookie ∈ (codec.decode text).toOption, k.readable request.faults cookie ∧
        ∃ last ∈ s.issued (nameOf cookie), isGood k validity request.now last ∧
          goesThrough service request world s.store last.username
            (renewed request authKey cookie) := by
  rw [login_eq_true_iff]
  cases hcookie : codec.decode text with
  | error e => simp [Except.toOption]
  | ok cookie =>
    have haccepted : ∀ stored,
        accepted service codec validity request text s.store = some stored ↔
          k.readable request.faults cookie ∧ s.issued (nameOf cookie) = some stored ∧
            isGood k validity request.now stored := fun stored => accepted_iff h hcookie
    simp only [Except.ok.injEq, exists_and_left, exists_eq_left', haccepted, Except.toOption,
      Option.mem_def, Option.some.injEq, and_assoc]

end Keyed

namespace Jdbc
open JdbcRemeberMeService

abbrev Table := KeyedTable RemeberMeRow.id

def recordOf (row : RemeberMeRow) : RemeberMe :=
  { id := some row.id, username := some row.username, authKey := some row.authKey
    lastLogin := some row.lastLogin }

variable {offset : ℕ} {codec : Codec} {validity now : ℕ} {s : Watch Table} {faults : JdbcFaults}
  {t : Table}

theorem save_eq_ok {r : RemeberMe}
    (h : (JdbcRemeberMeService offset).save faults now r s.store = .ok t) :
    ∃ row, rowOf r = .ok row ∧ t.rows = s.store.rows ++ [row] := by
  obtain ⟨_, -, h⟩ := except_bind_eq_ok.mp h
  obtain ⟨row, hrow, h⟩ := except_bind_eq_ok.mp h
  refine ⟨row, hrow, ?_⟩
  cases hinsert : s.store.insert row with
  | none =>
    rw [hinsert] at h
    cases h
  | some inserted =>
    rw [hinsert] at h
    cases h
    exact KeyedTable.rows_insert hinsert

/-- The row with the ID of a record goes on under a new key. -/
def renew (request : HttpRequest) (authKey : String) (r : RemeberMe) (t : Table) : Table :=
  t.update (fun row => some row.id = r.id)
    (fun row => { row with authKey, lastLogin := request.now }) fun _ => rfl

theorem mem_renew {request : HttpRequest} {authKey : String} {r : RemeberMe} {row : RemeberMeRow} :
    row ∈ (renew request authKey r t).rows ↔ ∃ old ∈ t.rows,
      (if some old.id = r.id then { old with authKey, lastLogin := request.now } else old) =
        row := by
  unfold renew
  rw [KeyedTable.mem_update]
  simp only [decide_eq_true_eq]

theorem update_eq_ok {request : HttpRequest} {authKey : String} {r : RemeberMe}
    (h : (JdbcRemeberMeService offset).update faults now (renewed request authKey r) s.store =
      .ok t) : t = renew request authKey r s.store := by
  obtain ⟨_, -, h⟩ := except_bind_eq_ok.mp h
  cases h
  rfl

theorem remove_eq_ok {username : String}
    (h : (JdbcRemeberMeService offset).remove faults username s.store = .ok t) :
    t = s.store.delete fun row => row.username = username := by
  obtain ⟨_, -, h⟩ := except_bind_eq_ok.mp h
  cases h
  rfl

/-- An accepted cookie is in the table as it stands. -/
theorem row_of_accepted {request : HttpRequest} {text : String} {cookie stored : RemeberMe}
    (h : accepted (JdbcRemeberMeService offset) codec validity request text s.store = some stored)
    (hcookie : codec.decode text = .ok cookie) :
    ∃ row ∈ s.store.rows, cookie.id = some row.id ∧ cookie.username = some row.username ∧
      cookie.authKey = some row.authKey := by
  obtain ⟨hread, -⟩ := (accepted_eq_some hcookie).mp h
  obtain ⟨_, -, hread⟩ := except_bind_eq_ok.mp hread
  obtain ⟨row, hrow, -⟩ := Option.map_eq_some_iff.mp (Except.ok.inj hread)
  have hmem := List.mem_of_mem_head? hrow
  rw [KeyedTable.mem_select] at hmem
  obtain ⟨hmem, hmatch⟩ := hmem
  have hfields : some row.id = cookie.id ∧ some row.username = cookie.username ∧
      some row.authKey = cookie.authKey := by simpa [matching] using hmatch
  exact ⟨row, hmem, hfields.1.symm, hfields.2.1.symm, hfields.2.2.symm⟩

/-- Every last cookie has its row. -/
def Backed (s : Watch Table) : Prop :=
  ∀ u, ∀ r ∈ s.issued u, ∃ row ∈ s.store.rows, row.username = u ∧ recordOf row = r

theorem backed_of_renew {request : HttpRequest} {authKey : String} {r : RemeberMe}
    {row : RemeberMeRow} (h : Backed s) (hrow : row ∈ s.store.rows) (hid : r.id = some row.id)
    (hname : r.username = some row.username) :
    Backed ⟨renew request authKey r s.store,
      update s.issued (nameOf r) (some (renewed request authKey r))⟩ := by
  have hkey : nameOf r = row.username := by
    rw [nameOf, hname]
    rfl
  have hrecord : recordOf { row with authKey, lastLogin := request.now } =
      renewed request authKey r := by
    rw [renewed, hid, hname]
    rfl
  intro u last hlast
  change update s.issued (nameOf r) _ u = some last at hlast
  rw [hkey] at hlast
  by_cases hu : u = row.username
  · rw [hu, Function.update_self] at hlast
    refine ⟨{ row with authKey, lastLogin := request.now }, ?_, hu.symm,
      hrecord.trans (Option.some.inj hlast)⟩
    exact mem_renew.mpr ⟨row, hrow, by simp [hid]⟩
  · rw [Function.update_of_ne hu] at hlast
    obtain ⟨other, hother, huser, hlast⟩ := h u last hlast
    have hne : other.id ≠ row.id := by
      intro hsame
      rw [KeyedTable.eq_of_key_eq s.store hother hrow hsame] at huser
      exact hu huser.symm
    exact ⟨other, mem_renew.mpr ⟨other, hother, by simp [hid, hne]⟩, huser, hlast⟩

theorem backed_of_save {row : RemeberMeRow} (h : Backed s)
    (hrows : t.rows = s.store.rows ++ [row]) :
    Backed ⟨t, update s.issued row.username (some (recordOf row))⟩ := by
  intro u last hlast
  change update s.issued row.username _ u = some last at hlast
  change ∃ next ∈ t.rows, _
  rw [hrows]
  by_cases hu : u = row.username
  · rw [hu, Function.update_self] at hlast
    exact ⟨row, by simp, hu.symm, Option.some.inj hlast⟩
  · rw [Function.update_of_ne hu] at hlast
    obtain ⟨old, hold, hlast⟩ := h u last hlast
    exact ⟨old, List.mem_append_left _ hold, hlast⟩

end Jdbc

section Visits

def remembering : Config := { Lockouts.plain with remeberMe := true }

def requestAt (now : ℕ) : HttpRequest :=
  { userAgent := some "curl", now, newSessionId := "t", loginSessionId := "u" }

/-- Erin is logged in, and wants to be remembered. -/
def wishing : World :=
  { Lockouts.erinOnly with
    session := { id := "s", currentUser := some Lockouts.erin, remeberMe := some "remeberMe" } }

def creating (now : ℕ) (authKey newId : String) : Action :=
  .create remembering wishing (requestAt now) authKey newId

def bringing (now : ℕ) (authKey : String) (cookie : RemeberMe) : Action :=
  .login Lockouts.erinOnly (requestAt now) authKey (plainText.encode cookie)

def first : RemeberMe :=
  { id := some "1", username := some "erin", authKey := some "a", lastLogin := some 10 }

end Visits

end MaxKey.RemeberMeStores
