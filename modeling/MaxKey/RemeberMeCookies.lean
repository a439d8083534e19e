import MaxKey.RemeberMeStores

namespace MaxKey.RemeberMeCookies
open WebContext Realm RemeberMe RemeberMeRuns RemeberMeStores JavaException Effects
open Function (update)

variable {σ : Type}

/-- ID, key and user name of two cookies agree. -/
def sameCookie (cookie last : RemeberMe) : Prop :=
  cookie.id = last.id ∧ cookie.authKey = last.authKey ∧ cookie.username = last.username

instance (cookie last : RemeberMe) : Decidable (sameCookie cookie last) :=
  inferInstanceAs (Decidable (_ ∧ _))

/-- What a cookie has to be where a login accepts it. -/
def OnlyLastIssued (service : Store σ) (codec : Codec) (validity : ℕ) (s : Watch σ) :
    Action → Prop
  | .login world request authKey text =>
    outcome (login service codec validity request authKey text) { world, store := s.store } =
      .ok true → ∃ cookie ∈ (codec.decode text).toOption, ∃ last ∈ s.issued (nameOf cookie),
        sameCookie cookie last
  | _ => True

instance (service : Store σ) (codec : Codec) (validity : ℕ) (s : Watch σ) :
    DecidablePred (OnlyLastIssued service codec validity s)
  | .login _ _ _ text => inferInstanceAs (Decidable
      (_ → ∃ cookie ∈ (codec.decode text).toOption, ∃ last ∈ s.issued (nameOf cookie), _))
  | .create _ _ _ _ _ | .update _ _ _ _ | .remove _ _ => isTrue trivial

/-- Where the last cookie of a user is good and the user can be logged in, a cookie for the user is
the last one. -/
def BringsLast {service : Store σ} (k : KeyedByName service) (codec : Codec) (validity : ℕ)
    (s : Watch σ) : Action → Prop
  | .login world request authKey text =>
    ∀ cookie ∈ (codec.decode text).toOption, k.readable request.faults cookie →
      ∀ last ∈ s.issued (nameOf cookie), isGood k validity request.now last →
        goesThrough service request world s.store last.username (renewed request authKey cookie) →
          sameCookie cookie last
  | _ => True

instance {service : Store σ} (k : KeyedByName service) (codec : Codec) (validity : ℕ)
    (s : Watch σ) : DecidablePred (BringsLast k codec validity s)
  | .login _ _ _ text => inferInstanceAs (Decidable (∀ cookie ∈ (codec.decode text).toOption,
      _ → ∀ last ∈ s.issued (nameOf cookie), _ → _ → _))
  | .create _ _ _ _ _ | .update _ _ _ _ | .remove _ _ => isTrue trivial

section Keyed

variable {service : Store σ} {k : KeyedByName service} {codec : Codec} {validity : ℕ}
  {s : Watch σ} {a : Action}

theorem onlyLastIssued_iff (h : Holds k s) :
    OnlyLastIssued service codec validity s a ↔ BringsLast k codec validity s a := by
  cases a with
  | login world request authKey text =>
    simp only [OnlyLastIssued, BringsLast, login_iff h]
    cases codec.decode text with
    | error e => simp [Except.toOption]
    | ok cookie =>
      simp only [Except.toOption, Option.mem_def, Option.some.injEq, exists_eq_left', forall_eq']
      constructor
      · intro honly hreadable last hlast hgood hgoes
        obtain ⟨last', hlast', hsame⟩ := honly ⟨hreadable, last, hlast, hgood, hgoes⟩
        cases hlast.symm.trans hlast'
        exact hsame
      · rintro hbrings ⟨hreadable, last, hlast, hgood, hgoes⟩
        exact ⟨last, hlast, hbrings hreadable last hlast hgood hgoes⟩
  | create _ _ _ _ _ => rfl
  | update _ _ _ _ => rfl
  | remove _ _ => rfl

end Keyed

namespace Jdbc
open RemeberMeStores.Jdbc

/-- A cookie is created for a user who has none, and a direct update is of the last cookie. -/
def OneAtATime (s : Watch Table) : Action → Prop
  | .create c world _ _ _ => world.session.remeberMe.isSome ∧ c.remeberMe →
    ∀ user ∈ world.session.currentUser, s.issued user.username = none
  | .update _ _ _ r => s.issued (nameOf r) = some r
  | _ => True

instance (s : Watch Table) : DecidablePred (OneAtATime s)
  | .create _ world _ _ _ => inferInstanceAs (Decidable (_ → ∀ user ∈ world.session.currentUser, _))
  | .update _ _ _ _ => inferInstanceAs (Decidable (_ = _))
  | .login _ _ _ _ | .remove _ _ => isTrue trivial

/-- Every row is the last cookie of its user, and every last cookie has its row. -/
structure Agrees (s : Watch Table) : Prop where
  rows : ∀ row ∈ s.store.rows, s.issued row.username = some (recordOf row)
  issued : Backed s

variable {offset : ℕ} {codec : Codec} {validity : ℕ} {s : Watch Table} {t : Table}

/-- The row of a cookie goes on with it. -/
theorem agrees_of_renew {request : HttpRequest} {authKey : String} {r : RemeberMe}
    {row : RemeberMeRow} (h : Agrees s) (hrow : row ∈ s.store.rows) (hid : r.id = some row.id)
    (hname : r.username = some row.username) :
    Agrees ⟨renew request authKey r s.store,
      update s.issued (nameOf r) (some (renewed request authKey r))⟩ := by
  have hkey : nameOf r = row.username := by
    rw [nameOf, hname]
    rfl
  have hrecord : recordOf { row with authKey, lastLogin := request.now } =
      renewed request authKey r := by
    rw [renewed, hid, hname]
    rfl
  -- no other row is of this user
  have hone : ∀ other ∈ s.store.rows, other.username = row.username → other = row := by
    intro other hother huser
    have hsame := h.rows other hother
    rw [huser, h.rows row hrow] at hsame
    have hids : other.id = row.id := Option.some.inj (congrArg RemeberMe.id (Option.some.inj hsame)).symm
    exact KeyedTable.eq_of_key_eq s.store hother hrow hids
  constructor
  · intro next hnext
    obtain ⟨old, hold, hif⟩ := mem_renew.mp hnext
    change update s.issued (nameOf r) _ next.username = _
    rw [hkey]
    simp only [hid, Option.some.injEq] at hif
    split_ifs at hif with hsame
    · rw [KeyedTable.eq_of_key_eq s.store hold hrow hsame] at hif
      rw [← hif, Function.update_self, hrecord]
    · have hne : next.username ≠ row.username := by
        intro huser
        rw [← hif] at huser
        exact hsame (congrArg RemeberMeRow.id (hone old hold huser))
      rw [Function.update_of_ne hne, ← hif]
      exact h.rows old hold
  · exact backed_of_renew h.issued hrow hid hname

theorem agrees_of_save {row : RemeberMeRow} (h : Agrees s)
    (hrows : t.rows = s.store.rows ++ [row]) (hnone : s.issued row.username = none) :
    Agrees ⟨t, update s.issued row.username (some (recordOf row))⟩ := by
  constructor
  · intro next hnext
    change next ∈ t.rows at hnext
    change update s.issued row.username _ next.username = _
    rw [hrows] at hnext
    rcases List.mem_append.mp hnext with hold | hnew
    · have hne : next.username ≠ row.username := by
        intro huser
        have hrow := h.rows next hold
        rw [huser, hnone] at hrow
        cases hrow
      rw [Function.update_of_ne hne]
      exact h.rows next hold
    · rw [List.mem_singleton.mp hnew, Function.update_self]
  · exact backed_of_save h.issued hrows

theorem agrees_of_remove {username : String} (h : Agrees s) :
    Agrees ⟨s.store.delete fun row => row.username = username, update s.issued username none⟩ := by
  have hmem : ∀ row, row ∈ (s.store.delete fun row => row.username = username).rows ↔
      row ∈ s.store.rows ∧ row.username ≠ username := by
    intro row
    rw [KeyedTable.mem_delete, decide_eq_false_iff_not]
  constructor
  · intro row hrow
    obtain ⟨hold, hne⟩ := (hmem row).mp hrow
    change update s.issued username none row.username = _
    rw [Function.update_of_ne hne]
    exact h.rows row hold
  · intro u last hlast
    change update s.issued username none u = some last at hlast
    by_cases hu : u = username
    · rw [hu, Function.update_self] at hlast
      cases hlast
    · rw [Function.update_of_ne hu] at hlast
      obtain ⟨row, hrow, huser, hrecord⟩ := h.issued u last hlast
      refine ⟨row, (hmem row).mpr ⟨hrow, ?_⟩, huser, hrecord⟩
      rw [huser]
      exact hu

theorem agrees_step {a : Action} (ha : OneAtATime s a) (h : Agrees s) :
    Agrees (step (JdbcRemeberMeService offset) codec validity s a) := by
  have heffect := effect_step (JdbcRemeberMeService offset) codec validity s a
  generalize step (JdbcRemeberMeService offset) codec validity s a = s' at heffect
  cases heffect with
  | nothing => exact h
  | create hwish huser hsave =>
    obtain ⟨row, hrow, hrows⟩ := save_eq_ok hsave
    cases hrow
    exact agrees_of_save h hrows (ha hwish _ huser)
  | login hcookie haccepted hupdate =>
    obtain ⟨row, hrow, hid, hname, -⟩ := row_of_accepted haccepted hcookie
    rw [update_eq_ok hupdate]
    exact agrees_of_renew h hrow hid hname
  | update hupdate =>
    obtain ⟨row, hrow, -, hrecord⟩ := h.issued _ _ ha
    rw [update_eq_ok hupdate]
    rw [← hrecord]
    exact agrees_of_renew h hrow rfl rfl
  | remove huser hremove =>
    rw [remove_eq_ok hremove]
    exact agrees_of_remove h

theorem onlyLastIssued_of_agrees {a : Action} (h : Agrees s) :
    OnlyLastIssued (JdbcRemeberMeService offset) codec validity s a := by
  cases a with
  | login world request authKey text =>
    intro hlogin
    obtain ⟨cookie, stored, hcookie, haccepted, -⟩ := login_eq_true_iff.mp hlogin
    obtain ⟨row, hrow, hid, hname, hkey⟩ := row_of_accepted haccepted hcookie
    have huser : nameOf cookie = row.username := by
      rw [nameOf, hname]
      rfl
    refine ⟨cookie, ?_, recordOf row, ?_, hid, hkey, hname⟩
    · rw [hcookie]
      rfl
    · rw [huser]
      exact h.rows row hrow
  | create _ _ _ _ _ => trivial
  | update _ _ _ _ => trivial
  | remove _ _ => trivial

end Jdbc

/-- From empty stores: over the cache and over Redis a run accepts the last cookies only, exactly
where no login brings another cookie for a user whose last one is good; over the database it does
where a user is given a cookie only while without one. -/
theorem onlyLastIssued_runs (codec : Codec) (validity : ℕ) :
    (∀ as, Runs.Meets (step InMemoryRemeberMeService codec validity)
        (OnlyLastIssued InMemoryRemeberMeService codec validity) ⟨.empty _ _, fun _ => none⟩ as ↔
      Runs.Meets (step InMemoryRemeberMeService codec validity)
        (BringsLast inMemory codec validity) ⟨.empty _ _, fun _ => none⟩ as) ∧
    (∀ as, Runs.Meets (step RedisRemeberMeService codec validity)
        (OnlyLastIssued RedisRemeberMeService codec validity) ⟨.empty _ _, fun _ => none⟩ as ↔
      Runs.Meets (step RedisRemeberMeService codec validity)
        (BringsLast redis codec validity) ⟨.empty _ _, fun _ => none⟩ as) ∧
    ∀ offset as, Runs.Meets (step (JdbcRemeberMeService offset) codec validity) Jdbc.OneAtATime
        ⟨.empty, fun _ => none⟩ as →
      Runs.Meets (step (JdbcRemeberMeService offset) codec validity)
        (OnlyLastIssued (JdbcRemeberMeService offset) codec validity) ⟨.empty, fun _ => none⟩ as := by
  refine ⟨?_, ?_, ?_⟩
  · intro as
    apply Runs.meets_congr (I := Holds inMemory)
    · exact fun s a _ hs => holds_step hs
    · exact fun s a _ hs => onlyLastIssued_iff hs
    · exact ⟨fun _ => rfl, by simp⟩
  · intro as
    apply Runs.meets_congr (I := Holds redis)
    · exact fun s a _ hs => holds_step hs
    · exact fun s a _ hs => onlyLastIssued_iff hs
    · exact ⟨fun _ => rfl, by simp⟩
  · intro offset as has
    apply Runs.meets_of_invariant (I := Jdbc.Agrees) _ _ has
    · refine ⟨by simp [KeyedTable.empty], ?_⟩
      intro u r hr
      cases hr
    · exact fun s a ha hs => Jdbc.agrees_step ha hs
    · exact fun s a ha hs => Jdbc.onlyLastIssued_of_agrees hs

section Examples

/-- A cookie that is brought once, and from then on the one that it was renewed to. -/
def genuine : List Action :=
  [creating 10 "a" "1", bringing 20 "b" first,
    bringing 30 "c" { first with authKey := some "b", lastLogin := some 20 },
    .remove wishing (requestAt 40), bringing 50 "d" first]

theorem onlyLastIssued_of_genuine :
    Runs.Meets (step InMemoryRemeberMeService plainText TWO_WEEK)
      (OnlyLastIssued InMemoryRemeberMeService plainText TWO_WEEK) ⟨.empty _ _, fun _ => none⟩
      genuine ∧
    Runs.Meets (step (JdbcRemeberMeService 0) plainText TWO_WEEK)
      (OnlyLastIssued (JdbcRemeberMeService 0) plainText TWO_WEEK) ⟨.empty, fun _ => none⟩
      genuine := by
  have hruns := onlyLastIssued_runs plainText TWO_WEEK
  refine ⟨(hruns.1 genuine).mpr ?_, hruns.2.2 0 genuine ?_⟩
  · decide +kernel
  · decide +kernel

/-- The cache and Redis accept a cookie that says no more than the user name, and the database an
older cookie of a user who has two. -/
theorem madeUp_accepted :
    ¬Runs.Meets (step InMemoryRemeberMeService plainText TWO_WEEK)
      (OnlyLastIssued InMemoryRemeberMeService plainText TWO_WEEK) ⟨.empty _ _, fun _ => none⟩
      [creating 10 "a" "1", bringing 20 "b" { username := some "erin" }] ∧
    ¬Runs.Meets (step RedisRemeberMeService plainText TWO_WEEK)
      (OnlyLastIssued RedisRemeberMeService plainText TWO_WEEK) ⟨.empty _ _, fun _ => none⟩
      [creating 10 "a" "1", bringing 20 "b" { username := some "erin" }] ∧
    ¬Runs.Meets (step (JdbcRemeberMeService 0) plainText TWO_WEEK)
      (OnlyLastIssued (JdbcRemeberMeService 0) plainText TWO_WEEK) ⟨.empty, fun _ => none⟩
      [creating 10 "a" "1", creating 20 "b" "2", bringing 30 "c" first] := by
  decide +kernel

end Examples

end MaxKey.RemeberMeCookies
