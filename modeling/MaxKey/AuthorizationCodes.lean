import MaxKey.Interleaving
import MaxKey.TokenEndpoint

namespace MaxKey.AuthorizationCodes
open OAuth2 JavaException Effects Interleaving

/-- The three stores of codes: a cache of the JVM, Redis and a table. -/
inductive CodeServices
  | inMemory
  | redis
  | jdbc
  deriving DecidableEq

/-- A stored code; at `expires` the cache and Redis have forgotten it. -/
structure StoredCode where
  code : String
  authentication : OAuth2Authentication
  expires : Option ℕ
  deriving DecidableEq

structure Shared where
  now : ℕ := 0
  codes : List StoredCode := []
  deriving DecidableEq

namespace CodeServices

/-- How many seconds a code lives. The table knows no end. -/
def validitySeconds : CodeServices → Option ℕ
  | inMemory => some 60
  | redis => some (60 * 10)
  | jdbc => none

/-- The cache and Redis replace what they have under the code; the table gets one more row. -/
def store (services : CodeServices) (code : String) (authentication : OAuth2Authentication)
    (s : Shared) : Shared :=
  let row : StoredCode := ⟨code, authentication, services.validitySeconds.map (s.now + ·)⟩
  match services with
  | inMemory | redis => { s with codes := row :: s.codes.filter (·.code ≠ code) }
  | jdbc => { s with codes := row :: s.codes }

/-- The first half of remove: what is found under the code. A single-row query fails on two. -/
def get (services : CodeServices) (code : String) (s : Shared) :
    Except JavaException (Option OAuth2Authentication) :=
  match services, s.codes.filter fun row => row.code = code ∧ row.expires.all (s.now < ·) with
  | _, [] => .ok none
  | jdbc, _ :: _ :: _ => .error (dataAccess "Incorrect result size")
  | _, row :: _ => .ok (some row.authentication)

/-- The second half. -/
def delete (code : String) (s : Shared) : Shared :=
  { s with codes := s.codes.filter (·.code ≠ code) }

def invalidCode (code : String) : JavaException :=
  invalidGrant ("Invalid authorization code: " ++ code)

/-- consumeAuthorizationCode of what remove has answered. -/
def consumed (code : String) : Option OAuth2Authentication → Except JavaException OAuth2Authentication
  | none => .error (invalidCode code)
  | some authentication => .ok authentication

end CodeServices

/-- What goes on at the code services: a code is drawn for an authentication, a code is
presented, and time passes. -/
inductive Request
  | createAuthorizationCode (code : String) (authentication : OAuth2Authentication)
  | consumeAuthorizationCode (code : String)
  | wait (seconds : ℕ)

/-- How far a request has come. -/
inductive Thread
  | store (code : String) (authentication : OAuth2Authentication)
  | stored (code : String)
  | get (code : String)
  | remove (code : String) (found : Option OAuth2Authentication)
  | returned (code : String) (result : Except JavaException OAuth2Authentication)
  | wait (seconds : ℕ)
  | finished

def begin : Request → Thread
  | .createAuthorizationCode code authentication => .store code authentication
  | .consumeAuthorizationCode code => .get code
  | .wait seconds => .wait seconds

/-- One step. Only the table is not asked to delete what it has not found. -/
def next (services : CodeServices) : Thread → Shared → Thread × Shared
  | .store code authentication, s => (.stored code, services.store code authentication s)
  | .get code, s =>
    match services.get code s with
    | .error e => (.returned code (.error e), s)
    | .ok found =>
      if services = .jdbc ∧ found = none then (.returned code (CodeServices.consumed code none), s)
      else (.remove code found, s)
  | .remove code found, s =>
    (.returned code (CodeServices.consumed code found), CodeServices.delete code s)
  | .wait seconds, s => (.finished, { s with now := s.now + seconds })
  | t, s => (t, s)

def program (services : CodeServices) : Program Request Thread Shared where
  begin := begin
  next _ := next services

abbrev Config := Interleaving.Config Shared Thread

/-- The code that a request has drawn. -/
def Thread.Draws (code : String) : Thread → Prop
  | .store drawn _ | .stored drawn => drawn = code
  | _ => False

/-- The authentication of the code is in the hands of the call. -/
def Thread.Holds (code : String) : Thread → Prop
  | .remove read (some _) | .returned read (.ok _) => read = code
  | _ => False

instance (code : String) : DecidablePred (Thread.Draws code)
  | .store drawn _ | .stored drawn => inferInstanceAs (Decidable (drawn = code))
  | .get _ | .remove _ _ | .returned _ _ | .wait _ | .finished => isFalse id

/-- Codes are random: a new one has not been drawn before. -/
def Fresh (c : Config) : Move Request → Prop
  | .start (.createAuthorizationCode code _) => ∀ t ∈ c.threads, ¬t.Draws code
  | _ => True

instance (c : Config) : DecidablePred (Fresh c)
  | .start (.createAuthorizationCode code _) =>
    inferInstanceAs (Decidable (∀ t ∈ c.threads, ¬t.Draws code))
  | .start (.consumeAuthorizationCode _) | .start (.wait _) | .advance _ => isTrue trivial

/-- The call has read an authentication under the code and has not deleted the code yet. -/
def Thread.Reads (code : String) : Thread → Prop
  | .remove read (some _) => read = code
  | _ => False

instance (code : String) : DecidablePred (Thread.Reads code)
  | .remove read (some _) => inferInstanceAs (Decidable (read = code))
  | .remove _ none => isFalse id
  | .store _ _ | .stored _ | .get _ | .returned _ _ | .wait _ | .finished => isFalse id

/-- The code that the call is about to read. -/
def Thread.presents : Thread → Option String
  | .get code => some code
  | _ => none

/-- No code is read between the reading and the deletion of another call. -/
def Exclusive (c : Config) : Move Request → Prop
  | .start _ => True
  | .advance k =>
    ∀ t ∈ c.threads[k]?, ∀ code ∈ t.presents, ∀ u ∈ c.threads, ¬u.Reads code

instance (c : Config) : DecidablePred (Exclusive c)
  | .start _ => isTrue trivial
  | .advance k =>
    inferInstanceAs (Decidable (∀ t ∈ c.threads[k]?, ∀ code ∈ t.presents, ∀ u ∈ c.threads, _))

/-- At most one call has returned an authentication for a code, and every other call that has
come to its end has failed with an invalid grant. -/
structure SingleUse (c : Config) : Prop where
  once : ∀ (j k : ℕ) code a b, c.threads[j]? = some (Thread.returned code (.ok a)) →
    c.threads[k]? = some (Thread.returned code (.ok b)) → j = k
  others : ∀ (k : ℕ) code e, c.threads[k]? = some (Thread.returned code (.error e)) →
    e = CodeServices.invalidCode code

section Invariant

variable {services : CodeServices} {c c' : Config} {k : ℕ} {t t' : Thread} {code : String}
  {a : OAuth2Authentication} {s : Shared}

/-- Every code has been drawn by one call, is stored once, and is held by one call at most; when
that one has returned, the code is gone. -/
structure Sole (c : Config) : Prop where
  nodup : (c.shared.codes.map StoredCode.code).Nodup
  drawn : ∀ (j k : ℕ) t u code, c.threads[j]? = some t → c.threads[k]? = some u →
    t.Draws code → u.Draws code → j = k
  stored : ∀ row ∈ c.shared.codes, ∃ j : ℕ, c.threads[j]? = some (Thread.stored row.code)
  held : ∀ (k : ℕ) t code, c.threads[k]? = some t → t.Holds code →
    ∃ j : ℕ, c.threads[j]? = some (Thread.stored code)
  once : ∀ (j k : ℕ) t u code, c.threads[j]? = some t → c.threads[k]? = some u →
    t.Holds code → u.Holds code → j = k
  gone : ∀ (k : ℕ) code a, c.threads[k]? = some (Thread.returned code (.ok a)) →
    ∀ row ∈ c.shared.codes, row.code ≠ code
  failed : ∀ (k : ℕ) code e, c.threads[k]? = some (Thread.returned code (.error e)) →
    e = CodeServices.invalidCode code

/-- A step that keeps the invariant: what its thread holds it held before or is free and stored,
and the rows that it adds are those of the code that it has drawn. -/
structure Allowed (c : Config) (t t' : Thread) (s' : Shared) : Prop where
  draws : ∀ code, t'.Draws code → t.Draws code
  stays : ∀ code, t = .stored code → t' = .stored code
  nodup : (s'.codes.map StoredCode.code).Nodup
  rows : ∀ row ∈ s'.codes, row ∈ c.shared.codes ∨ t' = .stored row.code ∧
    ∀ (j : ℕ) u, c.threads[j]? = some u → ¬u.Holds row.code
  holds : ∀ code, t'.Holds code → t.Holds code ∨ (∃ row ∈ c.shared.codes, row.code = code) ∧
    ∀ (j : ℕ) u, c.threads[j]? = some u → ¬u.Holds code
  gone : ∀ code a, t' = .returned code (.ok a) → ∀ row ∈ s'.codes, row.code ≠ code
  failed : ∀ code e, t' = .returned code (.error e) → e = CodeServices.invalidCode code

theorem sole_of_allowed (h : Sole c) (hk : c.threads[k]? = some t)
    (hthreads : ∀ (j : ℕ) u, c'.threads[j]? = some u ↔
      j = k ∧ u = t' ∨ j ≠ k ∧ c.threads[j]? = some u)
    (hstep : Allowed c t t' c'.shared) : Sole c' := by
  have hstays : ∀ code (j : ℕ), c.threads[j]? = some (Thread.stored code) →
      c'.threads[j]? = some (Thread.stored code) := by
    intro code j hj
    rw [hthreads]
    by_cases hjk : j = k
    · left
      rw [hjk, hk] at hj
      exact ⟨hjk, (hstep.stays code (Option.some.inj hj)).symm⟩
    · exact .inr ⟨hjk, hj⟩
  constructor
  · exact hstep.nodup
  · intro i j u v code hu hv hdu hdv
    -- a thread draws what it has drawn before the step
    have hbefore : ∀ (i : ℕ) u, c'.threads[i]? = some u → u.Draws code →
        ∃ v, c.threads[i]? = some v ∧ v.Draws code := by
      intro i u hu hdraw
      rcases (hthreads i u).mp hu with ⟨rfl, rfl⟩ | ⟨-, hold⟩
      · exact ⟨t, hk, hstep.draws code hdraw⟩
      · exact ⟨u, hold, hdraw⟩
    obtain ⟨u', hu', hdu'⟩ := hbefore i u hu hdu
    obtain ⟨v', hv', hdv'⟩ := hbefore j v hv hdv
    exact h.drawn i j u' v' code hu' hv' hdu' hdv'
  · intro row hrow
    rcases hstep.rows row hrow with hold | ⟨hnew, -⟩
    · obtain ⟨j, hj⟩ := h.stored row hold
      exact ⟨j, hstays row.code j hj⟩
    · exact ⟨k, (hthreads k _).mpr (.inl ⟨rfl, hnew.symm⟩)⟩
  · intro j u code hu hhold
    rcases (hthreads j u).mp hu with ⟨rfl, rfl⟩ | ⟨-, hold⟩
    · rcases hstep.holds code hhold with hheld | ⟨⟨row, hrow, rfl⟩, -⟩
      · obtain ⟨i, hi⟩ := h.held j t code hk hheld
        exact ⟨i, hstays code i hi⟩
      · obtain ⟨i, hi⟩ := h.stored row hrow
        exact ⟨i, hstays row.code i hi⟩
    · obtain ⟨i, hi⟩ := h.held j u code hold hhold
      exact ⟨i, hstays code i hi⟩
  · intro i j u v code hu hv hhu hhv
    rcases (hthreads i u).mp hu with ⟨rfl, rfl⟩ | ⟨hi, holdu⟩
    · rcases (hthreads j v).mp hv with ⟨rfl, -⟩ | ⟨hj, holdv⟩
      · rfl
      · rcases hstep.holds code hhu with hheld | ⟨-, hfree⟩
        · exact h.once i j t v code hk holdv hheld hhv
        · exact absurd hhv (hfree j v holdv)
    · rcases (hthreads j v).mp hv with ⟨rfl, rfl⟩ | ⟨hj, holdv⟩
      · rcases hstep.holds code hhv with hheld | ⟨-, hfree⟩
        · exact h.once i j u t code holdu hk hhu hheld
        · exact absurd hhu (hfree i u holdu)
      · exact h.once i j u v code holdu holdv hhu hhv
  · intro j code a hj row hrow
    rcases (hthreads j _).mp hj with ⟨-, hreturned⟩ | ⟨-, hold⟩
    · exact hstep.gone code a hreturned.symm row hrow
    · rcases hstep.rows row hrow with hrow | ⟨-, hfree⟩
      · exact h.gone j code a hold row hrow
      · intro heq
        exact hfree j _ hold heq.symm
  · intro j code e hj
    rcases (hthreads j _).mp hj with ⟨-, hreturned⟩ | ⟨-, hold⟩
    · exact hstep.failed code e hreturned.symm
    · exact h.failed j code e hold

/-- The new row comes first; of the others some may go. -/
theorem store_codes (services : CodeServices) (code : String) (a : OAuth2Authentication)
    (s : Shared) : ∃ row rest, (services.store code a s).codes = row :: rest ∧ row.code = code ∧
      List.Sublist rest s.codes := by
  cases services with
  | inMemory => exact ⟨_, _, rfl, rfl, List.filter_sublist⟩
  | redis => exact ⟨_, _, rfl, rfl, List.filter_sublist⟩
  | jdbc => exact ⟨_, _, rfl, rfl, List.Sublist.refl _⟩

/-- While no code is stored twice, reading one does not fail, and finds what is stored. -/
theorem get_of_nodup (services : CodeServices) (hnodup : (s.codes.map StoredCode.code).Nodup)
    (code : String) :
    services.get code s = .ok none ∨
      ∃ row ∈ s.codes, row.code = code ∧ services.get code s = .ok (some row.authentication) := by
  unfold CodeServices.get
  cases hfound : s.codes.filter fun row => row.code = code ∧ row.expires.all (s.now < ·) with
  | nil => exact .inl (by cases services <;> rfl)
  | cons row rest =>
    have hmem : ∀ x ∈ row :: rest, x ∈ s.codes ∧ x.code = code := by
      intro x hx
      rw [← hfound] at hx
      obtain ⟨hx, hcode⟩ := List.mem_filter.mp hx
      exact ⟨hx, (of_decide_eq_true hcode).1⟩
    obtain ⟨hrow, hcode⟩ := hmem row List.mem_cons_self
    cases rest with
    | nil => exact .inr ⟨row, hrow, hcode, by cases services <;> rfl⟩
    | cons other rest =>
      exfalso
      have hsub : List.Sublist ((row :: other :: rest).map StoredCode.code)
          (s.codes.map StoredCode.code) := by
        rw [← hfound]
        exact List.filter_sublist.map StoredCode.code
      have htwo := hnodup.sublist hsub
      have hother := (hmem other (List.mem_cons_of_mem row List.mem_cons_self)).2
      rw [List.map_cons, List.map_cons, hcode, hother] at htwo
      exact (List.nodup_cons.mp htwo).1 List.mem_cons_self

/-- A new request disturbs nothing; what it draws is new. -/
theorem sole_start (h : Sole c) (request : Request) (hfresh : Fresh c (.start request)) :
    Sole ((program services).move c (.start request)) := by
  have hthreads : ∀ (j : ℕ) u,
      ((program services).move c (.start request)).threads[j]? = some u →
        c.threads[j]? = some u ∨ j = c.threads.length ∧ u = begin request :=
    fun j u => Program.getElem?_move_start.mp
  have hstays : ∀ (j : ℕ) u, c.threads[j]? = some u →
      ((program services).move c (.start request)).threads[j]? = some u :=
    fun j u hj => Program.getElem?_move_start.mpr (.inl hj)
  -- a thread that begins holds nothing, and draws a code that no other has drawn
  have hnothing : ∀ code, ¬(begin request).Holds code := by
    intro code
    cases request with
    | createAuthorizationCode => exact id
    | consumeAuthorizationCode => exact id
    | wait => exact id
  have hnew : ∀ (j : ℕ) u code, c.threads[j]? = some u → u.Draws code →
      ¬(begin request).Draws code := by
    intro j u code hj hdraws hbegin
    cases request with
    | createAuthorizationCode code' a =>
      have hcode : code' = code := hbegin
      exact hfresh u (List.mem_of_getElem? hj) (hcode ▸ hdraws)
    | consumeAuthorizationCode => exact hbegin
    | wait => exact hbegin
  constructor
  · exact h.nodup
  · intro i j u v code hu hv hdu hdv
    rcases hthreads i u hu with holdu | ⟨hi, rfl⟩
    · rcases hthreads j v hv with holdv | ⟨hj, rfl⟩
      · exact h.drawn i j u v code holdu holdv hdu hdv
      · exact absurd hdv (hnew i u code holdu hdu)
    · rcases hthreads j v hv with holdv | ⟨hj, rfl⟩
      · exact absurd hdu (hnew j v code holdv hdv)
      · exact hi.trans hj.symm
  · intro row hrow
    obtain ⟨j, hj⟩ := h.stored row hrow
    exact ⟨j, hstays j _ hj⟩
  · intro j u code hu hhold
    rcases hthreads j u hu with hold | ⟨-, rfl⟩
    · obtain ⟨i, hi⟩ := h.held j u code hold hhold
      exact ⟨i, hstays i _ hi⟩
    · exact absurd hhold (hnothing code)
  · intro i j u v code hu hv hhu hhv
    rcases hthreads i u hu with holdu | ⟨-, rfl⟩
    · rcases hthreads j v hv with holdv | ⟨-, rfl⟩
      · exact h.once i j u v code holdu holdv hhu hhv
      · exact absurd hhv (hnothing code)
    · exact absurd hhu (hnothing code)
  · intro j code a hj row hrow
    rcases hthreads j _ hj with hold | ⟨-, hbegin⟩
    · exact h.gone j code a hold row hrow
    · cases request <;> cases hbegin
  · intro j code e hj
    rcases hthreads j _ hj with hold | ⟨-, hbegin⟩
    · exact h.failed j code e hold
    · cases request <;> cases hbegin

/-- A code that is about to be stored is nowhere yet: a row of it, or a call that holds it, would
come from another drawing. -/
theorem allowed_store (h : Sole c) (hk : c.threads[k]? = some (.store code a)) :
    Allowed c (.store code a) (.stored code) (services.store code a c.shared) := by
  obtain ⟨row, rest, hcodes, hrow, hsub⟩ := store_codes services code a c.shared
  have hnone : ∀ j : ℕ, c.threads[j]? ≠ some (Thread.stored code) := by
    intro j hj
    have hjk := h.drawn j k _ _ code hj hk rfl rfl
    rw [hjk, hk] at hj
    cases hj
  have hfree : ∀ (j : ℕ) u, c.threads[j]? = some u → ¬u.Holds code := by
    intro j u hu hhold
    obtain ⟨i, hi⟩ := h.held j u code hu hhold
    exact hnone i hi
  constructor
  · exact fun _ hdraws => hdraws
  · intro code' heq
    cases heq
  · rw [hcodes, List.map_cons, List.nodup_cons]
    refine ⟨fun hmem => ?_, h.nodup.sublist (hsub.map StoredCode.code)⟩
    obtain ⟨other, hother, hcode⟩ := List.mem_map.mp hmem
    obtain ⟨j, hj⟩ := h.stored other (hsub.subset hother)
    rw [hcode, hrow] at hj
    exact hnone j hj
  · intro x hx
    rw [hcodes] at hx
    rcases List.mem_cons.mp hx with hself | hrest
    · rw [hself, hrow]
      exact .inr ⟨rfl, hfree⟩
    · exact .inl (hsub.subset hrest)
  · exact fun _ hhold => hhold.elim
  · intro code' b heq
    cases heq
  · intro code' e heq
    cases heq

/-- Who holds a code that is still stored has not returned yet. -/
theorem reads_of_holds (h : Sole c) {row : StoredCode} (hrow : row ∈ c.shared.codes) {j : ℕ}
    (hj : c.threads[j]? = some t) (hholds : t.Holds row.code) : t.Reads row.code := by
  cases t with
  | remove code found =>
    cases found with
    | none => exact hholds
    | some b => exact hholds
  | returned code result =>
    cases result with
    | error e => exact hholds.elim
    | ok b =>
      have hcode : code = row.code := hholds
      rw [hcode] at hj
      exact absurd rfl (h.gone j row.code b hj row hrow)
  | store => exact hholds.elim
  | stored => exact hholds.elim
  | get => exact hholds.elim
  | wait => exact hholds.elim
  | finished => exact hholds.elim

/-- A thread that comes away with nothing and leaves the table as it is. -/
theorem allowed_empty {s' : Shared} (h : Sole c) (hcodes : s'.codes = c.shared.codes)
    (hbefore : ∀ code, ¬t.Draws code) (hdraws : ∀ code, ¬t'.Draws code)
    (hholds : ∀ code, ¬t'.Holds code)
    (hfailed : ∀ code e, t' = .returned code (.error e) → e = CodeServices.invalidCode code) :
    Allowed c t t' s' where
  draws code hdraw := absurd hdraw (hdraws code)
  stays code heq := absurd rfl (heq ▸ hbefore code)
  nodup := by
    rw [hcodes]
    exact h.nodup
  rows row hrow := .inl (hcodes ▸ hrow)
  holds code hhold := absurd hhold (hholds code)
  gone code a heq := absurd rfl (heq ▸ hholds code)
  failed := hfailed

/-- A code that is read must be in no other hands. -/
theorem allowed_get (h : Sole c)
    (hreading : ∀ (j : ℕ) u, c.threads[j]? = some u → ¬u.Reads code) :
    Allowed c (.get code) (next services (.get code) c.shared).1
      (next services (.get code) c.shared).2 := by
  rcases get_of_nodup services h.nodup code with hnone | ⟨row, hrow, hcode, hget⟩
  · have hnext : next services (.get code) c.shared =
          (.returned code (.error (CodeServices.invalidCode code)), c.shared) ∨
        next services (.get code) c.shared = (.remove code none, c.shared) := by
      unfold next
      simp only [hnone]
      split_ifs
      · exact .inl rfl
      · exact .inr rfl
    rcases hnext with heq | heq
    · rw [heq]
      apply allowed_empty h rfl (fun _ => id) (fun _ => id) (fun _ => id)
      intro code' e hreturned
      obtain ⟨hcode, he⟩ := Thread.returned.inj hreturned
      rw [← hcode]
      exact (Except.error.inj he).symm
    · rw [heq]
      apply allowed_empty h rfl (fun _ => id) (fun _ => id) (fun _ => id)
      intro code' e hreturned
      cases hreturned
  · have hnext : next services (.get code) c.shared =
        (.remove code (some row.authentication), c.shared) := by
      unfold next
      simp only [hget]
      rw [if_neg fun hboth => by cases hboth.2]
    rw [hnext]
    refine ⟨fun _ hdraws => hdraws.elim, fun _ heq => (by cases heq), h.nodup,
      fun _ hrow => .inl hrow, ?_, fun _ _ heq => (by cases heq), fun _ _ heq => by cases heq⟩
    intro code' hholds
    have hcode' : row.code = code' := hcode.trans hholds
    rw [← hcode']
    refine .inr ⟨⟨row, hrow, rfl⟩, fun j u hu hheld => ?_⟩
    have hreads := reads_of_holds h hrow hu hheld
    rw [hcode] at hreads
    exact hreading j u hu hreads

/-- A deleted code is gone; who returns its authentication has held it before. -/
theorem allowed_remove (h : Sole c) (found : Option OAuth2Authentication) :
    Allowed c (.remove code found) (.returned code (CodeServices.consumed code found))
      (CodeServices.delete code c.shared) := by
  have hcodes : (CodeServices.delete code c.shared).codes =
      c.shared.codes.filter (·.code ≠ code) := rfl
  constructor
  · exact fun _ hdraws => hdraws.elim
  · intro code' heq
    cases heq
  · rw [hcodes]
    exact h.nodup.sublist (List.filter_sublist.map StoredCode.code)
  · intro row hrow
    rw [hcodes] at hrow
    exact .inl (List.mem_filter.mp hrow).1
  · intro code' hholds
    cases found with
    | none => exact hholds.elim
    | some a => exact .inl hholds
  · intro code' b heq row hrow
    rw [hcodes] at hrow
    have hne := of_decide_eq_true (List.mem_filter.mp hrow).2
    rw [← (Thread.returned.inj heq).1]
    exact hne
  · intro code' e heq
    obtain ⟨hcode, hresult⟩ := Thread.returned.inj heq
    cases found with
    | none =>
      rw [← hcode]
      exact (Except.error.inj hresult).symm
    | some a => cases hresult

/-- A thread that has nothing left to do with the table. -/
theorem allowed_self (h : Sole c) (hk : c.threads[k]? = some t) : Allowed c t t c.shared where
  draws _ hdraws := hdraws
  stays _ heq := heq
  nodup := h.nodup
  rows _ hrow := .inl hrow
  holds _ hholds := .inl hholds
  gone code b heq := h.gone k code b (by rw [hk, heq])
  failed code e heq := h.failed k code e (by rw [hk, heq])

/-- Every step is allowed; a code that is read must be in no other hands. -/
theorem allowed_next (h : Sole c) (hk : c.threads[k]? = some t)
    (hexclusive : Exclusive c (.advance k)) :
    Allowed c t (next services t c.shared).1 (next services t c.shared).2 := by
  cases t with
  | store code a => exact allowed_store h hk
  | get code =>
    apply allowed_get h
    intro j u hu
    exact hexclusive _ hk code rfl u (List.mem_of_getElem? hu)
  | remove code found => exact allowed_remove h found
  | wait seconds =>
    apply allowed_empty h
    · rfl
    · exact fun _ => id
    · exact fun _ => id
    · exact fun _ => id
    · intro code e hreturned
      cases hreturned
  | stored code => exact allowed_self h hk
  | returned code result => exact allowed_self h hk
  | finished => exact allowed_self h hk

theorem sole_advance (h : Sole c) (k : ℕ) (hexclusive : Exclusive c (.advance k)) :
    Sole ((program services).move c (.advance k)) := by
  cases hk : c.threads[k]? with
  | none =>
    rw [Program.move_advance_of_none hk]
    exact h
  | some t =>
    have hmove : (program services).move c (.advance k) =
        ⟨(next services t c.shared).2, c.threads.set k (next services t c.shared).1⟩ :=
      Program.move_advance_of_some hk
    apply sole_of_allowed h hk
    · intro j u
      exact Program.getElem?_move_advance hk
    · rw [hmove]
      exact allowed_next h hk hexclusive

theorem sole_initial (now : ℕ) : Sole ⟨{ now := now }, []⟩ where
  nodup := List.nodup_nil
  drawn _ _ _ _ _ h := by cases h
  stored _ h := by cases h
  held _ _ _ h := by cases h
  once _ _ _ _ _ h := by cases h
  gone _ _ _ h := by cases h
  failed _ _ _ h := by cases h

theorem singleUse_of_sole (h : Sole c) : SingleUse c where
  once j k code _ _ hj hk := h.once j k _ _ code hj hk rfl rfl
  others := h.failed

end Invariant

/-- Where no call reads a code between the reading and the deletion of another one, a code is good
for one authentication. -/
theorem codes_single_use (services : CodeServices) (now : ℕ) (moves : List (Move Request))
    (hfresh : Runs.Meets (program services).move Fresh ⟨{ now := now }, []⟩ moves)
    (hexclusive : Runs.Meets (program services).move Exclusive ⟨{ now := now }, []⟩ moves) :
    SingleUse (Runs.exec (program services).move ⟨{ now := now }, []⟩ moves) := by
  have hboth := (Runs.meets_and _ moves).mpr ⟨hfresh, hexclusive⟩
  apply singleUse_of_sole
  refine Runs.exec_invariant (I := Sole) ?_ hboth (sole_initial now)
  intro c m hm hc
  cases m with
  | start request => exact sole_start hc request hm.1
  | advance k => exact sole_advance hc k hm.2

/-- A code is stored, and two calls present it: one after the other, or both before the first of
them has deleted it. -/
def oneAfterTheOther (a : OAuth2Authentication) : List (Move Request) :=
  [.start (.createAuthorizationCode "c" a), .advance 0, .start (.consumeAuthorizationCode "c"),
    .start (.consumeAuthorizationCode "c"), .advance 1, .advance 1, .advance 2, .advance 2]

def bothAtOnce (a : OAuth2Authentication) : List (Move Request) :=
  [.start (.createAuthorizationCode "c" a), .advance 0, .start (.consumeAuthorizationCode "c"),
    .start (.consumeAuthorizationCode "c"), .advance 1, .advance 2, .advance 1, .advance 2]

def grant : OAuth2Authentication := ⟨{ clientId := some "app", approved := true }, none⟩

theorem codes_single_use_oneAfterTheOther :
    SingleUse (Runs.exec (program .jdbc).move ⟨{ now := 0 }, []⟩ (oneAfterTheOther grant)) :=
  codes_single_use .jdbc 0 (oneAfterTheOther grant) (by decide) (by decide)

/-- In each of the three stores both calls get the authentication. -/
theorem code_used_twice :
    (¬ ∀ moves, Runs.Meets (program .inMemory).move Fresh ⟨{ now := 0 }, []⟩ moves →
      SingleUse (Runs.exec (program .inMemory).move ⟨{ now := 0 }, []⟩ moves)) ∧
    (¬ ∀ moves, Runs.Meets (program .redis).move Fresh ⟨{ now := 0 }, []⟩ moves →
      SingleUse (Runs.exec (program .redis).move ⟨{ now := 0 }, []⟩ moves)) ∧
    ¬ ∀ moves, Runs.Meets (program .jdbc).move Fresh ⟨{ now := 0 }, []⟩ moves →
      SingleUse (Runs.exec (program .jdbc).move ⟨{ now := 0 }, []⟩ moves) := by
  refine ⟨fun h => ?_, fun h => ?_, fun h => ?_⟩
  · have hsingle := h (bothAtOnce grant) (by decide)
    exact absurd (hsingle.once 1 2 "c" grant grant rfl rfl) (by decide)
  · have hsingle := h (bothAtOnce grant) (by decide)
    exact absurd (hsingle.once 1 2 "c" grant grant rfl rfl) (by decide)
  · have hsingle := h (bothAtOnce grant) (by decide)
    exact absurd (hsingle.once 1 2 "c" grant grant rfl rfl) (by decide)

/-! ### What a code grants -/

open TokenEndpoint

/-- The services at a moment when every code stands for one pending request. -/
def pending (s : Services) (storedAuth : OAuth2Authentication) : Services :=
  { s with consumeAuthorizationCode := fun _ => .ok storedAuth }

/-- AuthorizationCodeTokenGranter.getOAuth2Authentication for a pending request. -/
def getOAuth2Authentication (s : Services) (storedAuth : OAuth2Authentication)
    (client : ClientDetails) (tokenRequest : TokenRequest) : Except JavaException Issuance :=
  (authorizationCodeGranter (pending s storedAuth)).issuance client tokenRequest

def redirectUri (parameters : Parameters) : Option String := parameters.get "redirect_uri"

/-- The token request comes from the client that asked for the code, with the redirect URI that
it asked with. -/
structure AsRequested (pendingRequest : OAuth2Request) (tokenRequest : TokenRequest) : Prop where
  clientId : tokenRequest.clientId = pendingRequest.clientId
  redirectUri : ∀ uri ∈ redirectUri pendingRequest.requestParameters,
    redirectUri tokenRequest.requestParameters = some uri

/-- What the granter sees to: a client id in the token request is the pending one, and once a
redirect URI has come up, the one of the token request extends a registered one. -/
structure Admitted (pendingRequest : OAuth2Request) (client : ClientDetails)
    (tokenRequest : TokenRequest) : Prop where
  clientId : ∀ id ∈ tokenRequest.clientId, pendingRequest.clientId = some id
  redirectUri : (redirectUri tokenRequest.requestParameters).isSome ∨
    (redirectUri pendingRequest.requestParameters).isSome →
      ∃ uri ∈ redirectUri tokenRequest.requestParameters,
        ∃ registered ∈ client.registeredRedirectUri,
          ∃ stored ∈ registered, JavaText.startsWith uri stored = true

/-- The client has a set of redirect URIs, and a redirect URI to compare with the first of them
is there. -/
def Comparable (client : ClientDetails) (tokenRequest : TokenRequest) : Prop :=
  ∃ registered, client.registeredRedirectUri = some registered ∧
    (registered = [] ∨ (redirectUri tokenRequest.requestParameters).isSome)

theorem startsWithAny_eq_ok {uri : Option String} {registered : List String} {found : Bool}
    (h : startsWithAny uri registered = .ok found) :
    found = true ↔ ∃ u ∈ uri, ∃ stored ∈ registered, JavaText.startsWith u stored = true := by
  unfold startsWithAny at h
  cases registered with
  | nil =>
    have hfalse := Except.ok.inj h
    rw [← hfalse]
    simp
  | cons first rest =>
    cases uri with
    | none => cases h
    | some u =>
      have hany := Except.ok.inj h
      rw [← hany, List.any_eq_true]
      simp

theorem startsWithAny_of_comparable {client : ClientDetails} {tokenRequest : TokenRequest}
    (h : Comparable client tokenRequest) : ∃ registered found,
      client.registeredRedirectUri = some registered ∧
        startsWithAny (redirectUri tokenRequest.requestParameters) registered = .ok found := by
  obtain ⟨registered, hregistered, hcases⟩ := h
  unfold startsWithAny
  cases registered with
  | nil => exact ⟨[], false, hregistered, rfl⟩
  | cons first rest =>
    rcases hcases with hnil | huri
    · cases hnil
    · obtain ⟨u, hu⟩ := Option.isSome_iff_exists.mp huri
      rw [hu]
      exact ⟨first :: rest, _, hregistered, rfl⟩

theorem required_eq_error {α : Type} {e e' : JavaException} {o : Option α}
    (h : required e o = .error e') : e' = e := by
  cases o with
  | none => exact (Except.error.inj h).symm
  | some a => cases h

/-- Read forwards: each step of the granter that has passed says what it has checked. -/
theorem admitted_of_granted {s : Services} {storedAuth : OAuth2Authentication}
    {client : ClientDetails} {tokenRequest : TokenRequest} {issuance : Issuance}
    (h : getOAuth2Authentication s storedAuth client tokenRequest = .ok issuance) :
    Admitted storedAuth.oAuth2Request client tokenRequest := by
  obtain ⟨code, -, h⟩ := except_bind_eq_ok.mp h
  obtain ⟨stored, hstored, h⟩ := except_bind_eq_ok.mp h
  have hpending : storedAuth = stored := Except.ok.inj hstored
  rw [← hpending] at h
  obtain ⟨registered, hregistered, h⟩ := except_bind_eq_ok.mp h
  obtain ⟨found, hfound, h⟩ := except_bind_eq_ok.mp h
  obtain ⟨_, hmismatch, h⟩ := except_bind_eq_ok.mp h
  obtain ⟨_, hclient, -⟩ := except_bind_eq_ok.mp h
  constructor
  · intro id hid
    have hsame := failIf_eq_ok.mp hclient
    rw [Option.mem_def.mp hid] at hsame
    by_contra hne
    exact hsame ⟨rfl, fun heq => hne heq.symm⟩
  · intro huris
    have htrue : found = true := by
      by_contra hfalse
      exact failIf_eq_ok.mp hmismatch ⟨huris, hfalse⟩
    obtain ⟨u, hu, row, hrow, hprefix⟩ := (startsWithAny_eq_ok hfound).mp htrue
    refine ⟨u, hu, registered, ?_, row, hrow, hprefix⟩
    cases hset : client.registeredRedirectUri with
    | none =>
      rw [hset] at hregistered
      cases hregistered
    | some registered' =>
      rw [hset] at hregistered
      rw [← Except.ok.inj hregistered]
      rfl

/-- Where the granter can compare, no step of it fails but with an OAuth2 exception. -/
theorem isOAuth2Exception_of_refused {s : Services} {storedAuth : OAuth2Authentication}
    {client : ClientDetails} {tokenRequest : TokenRequest} {e : JavaException}
    (hcomparable : Comparable client tokenRequest)
    (h : getOAuth2Authentication s storedAuth client tokenRequest = .error e) :
    e.isOAuth2Exception = true := by
  obtain ⟨registered, found, hregistered, hfound⟩ := startsWithAny_of_comparable hcomparable
  rcases except_bind_eq_error.mp h with hcode | ⟨code, -, h⟩
  · rw [required_eq_error hcode]
    rfl
  rcases except_bind_eq_error.mp h with hconsume | ⟨stored, -, h⟩
  · cases hconsume
  rcases except_bind_eq_error.mp h with hset | ⟨set, hset, h⟩
  · rw [hregistered] at hset
    cases hset
  rw [hregistered] at hset
  rw [← Except.ok.inj hset] at h
  rcases except_bind_eq_error.mp h with hcompare | ⟨_, -, h⟩
  · have herror : startsWithAny (redirectUri tokenRequest.requestParameters) registered =
        .error e := hcompare
    rw [hfound] at herror
    cases herror
  rcases except_bind_eq_error.mp h with hmismatch | ⟨_, -, h⟩
  · rw [failIf_eq_error hmismatch]
    rfl
  rcases except_bind_eq_error.mp h with hclient | ⟨_, -, h⟩
  · rw [failIf_eq_error hclient]
    rfl
  · cases h

/-- A code grants an authentication for its own client and an extension of a registered redirect
URI only; what else the granter can compare fails as an OAuth2 exception. -/
theorem code_grant_checks (s : Services) (storedAuth : OAuth2Authentication)
    (client : ClientDetails) (tokenRequest : TokenRequest) :
    WhenOk (getOAuth2Authentication s storedAuth client tokenRequest) (fun _ =>
      Admitted storedAuth.oAuth2Request client tokenRequest) ∧
    (Comparable client tokenRequest →
      ∀ e, getOAuth2Authentication s storedAuth client tokenRequest = .error e →
        e.isOAuth2Exception = true) := by
  constructor
  · cases h : getOAuth2Authentication s storedAuth client tokenRequest with
    | error e => trivial
    | ok issuance => exact admitted_of_granted h
  · intro hcomparable e h
    exact isOAuth2Exception_of_refused hcomparable h

/-- The code was asked for with one redirect URI and is turned in with another one, which goes on
from the registered one with a host of its own. -/
theorem code_granted_for_other_redirect :
    ¬ ∀ (s : Services) (storedAuth : OAuth2Authentication) (client : ClientDetails)
      (tokenRequest : TokenRequest),
        WhenOk (getOAuth2Authentication s storedAuth client tokenRequest) (fun _ =>
          AsRequested storedAuth.oAuth2Request tokenRequest) ∧
        ∀ e, getOAuth2Authentication s storedAuth client tokenRequest = .error e →
          e.isOAuth2Exception = true := by
  intro h
  let clients : ClientDetailsService :=
    ⟨fun _ => .error nullPointer, fun _ e he => by rw [← Except.error.inj he]; rfl⟩
  let s : Services := ⟨clients, fun _ => .error nullPointer, fun _ => .error nullPointer⟩
  let request : OAuth2Request :=
    { requestParameters := [("redirect_uri", "https://app.example/callback")]
      clientId := some "app", approved := true }
  let storedAuth : OAuth2Authentication := ⟨request, none⟩
  let client : ClientDetails :=
    { clientId := "app", registeredRedirectUri := some ["https://app.example"] }
  have hgrant := (h s storedAuth client ⟨[("code", "c"),
    ("redirect_uri", "https://app.example.org/callback")], some "app", [], none⟩).1
  have hrequested : AsRequested storedAuth.oAuth2Request _ := hgrant
  have hsame := hrequested.redirectUri "https://app.example/callback" rfl
  exact absurd hsame (by decide)

end MaxKey.AuthorizationCodes
