import MaxKey.CasTickets
import MaxKey.SingleUse

namespace MaxKey.CasTicketRaces
open CasTickets JavaException Effects Interleaving

/-- What goes on at the ticket services: a ticket is created, an id is presented to a
validation endpoint, and time passes. -/
inductive Request
  | createTicket (ticket : Ticket) (random : List Int8)
  | consumeTicket (ticketId : String)
  | wait (seconds : ℕ)

/-- How far a request has come. -/
inductive Thread
  | draw (ticket : Ticket) (random : List Int8)
  | store (ticketId : String) (ticket : Ticket)
  | stored (ticketId : String)
  | find (ticketId : String)
  | delete (ticketId : String) (found : Option Ticket)
  | returned (ticketId : String) (result : Except JavaException Ticket)
  | wait (seconds : ℕ)
  | finished

def begin : Request → Thread
  | .createTicket ticket random => .draw ticket random
  | .consumeTicket ticketId => .find ticketId
  | .wait seconds => .wait seconds

/-- What consumeTicket makes of what remove has answered. -/
def consumed (ticketId : String) : Option Ticket → Except JavaException Ticket
  | none => .error (TicketServices.invalidCode ticketId)
  | some ticket => .ok ticket

section Program

variable {σ : Type} (services : TicketServices σ)

/-- One step. The number of an id comes from an atomic counter. -/
def next : Thread → State σ → Thread × State σ
  | .draw ticket random, s =>
    (.store (drawId ticket s.count random) ticket, { s with count := (getNextValue s.count).2 })
  | .store ticketId ticket, s =>
    match services.store ticketId ticket s.tickets with
    | .error _ => (.finished, s)
    | .ok tickets => (.stored ticketId, { s with tickets })
  | .find ticketId, s =>
    match services.find ticketId s.tickets with
    | .error e => (.returned ticketId (.error e), s)
    | .ok found => (.delete ticketId found, s)
  | .delete ticketId found, s =>
    (.returned ticketId (consumed ticketId found),
      { s with tickets := services.delete ticketId found s.tickets })
  | .wait seconds, s => (.finished, { s with tickets := services.wait seconds s.tickets })
  | t, s => (t, s)

def program : Program Request Thread (State σ) where
  begin := begin
  next _ := next services

def start : Config (State σ) Thread := { shared := services.start }

end Program

/-- The id that the thread has drawn for a new ticket. -/
def Thread.drawn : Thread → Option String
  | .store ticketId _ | .stored ticketId => some ticketId
  | _ => none

/-- The call has found a ticket under the id and has not deleted it yet. -/
def Thread.Reads (ticketId : String) : Thread → Prop
  | .delete read (some _) => read = ticketId
  | _ => False

/-- The ticket of the id is in the hands of the call. -/
def Thread.Holds (ticketId : String) : Thread → Prop
  | .delete read (some _) | .returned read (.ok _) => read = ticketId
  | _ => False

/-- The call has returned the ticket of the id. -/
def Thread.Returns (ticketId : String) : Thread → Prop
  | .returned read (.ok _) => read = ticketId
  | _ => False

instance (ticketId : String) : DecidablePred (Thread.Reads ticketId)
  | .delete read (some _) => inferInstanceAs (Decidable (read = ticketId))
  | .delete _ none => isFalse id
  | .draw _ _ | .store _ _ | .stored _ | .find _ | .returned _ _ | .wait _ | .finished => isFalse id

section Conditions

variable {σ : Type} (services : TicketServices σ)

/-- The thread that is to move draws no id that another one has drawn, and finds no ticket that
another call has found and has not deleted yet. -/
def Undisturbed (threads : List Thread) : Thread → State σ → Prop
  | .draw ticket random, s => ∀ u ∈ threads, u.drawn ≠ some (drawId ticket s.count random)
  | .find ticketId, s =>
    services.find ticketId s.tickets = .ok none ∨ ∀ u ∈ threads, ¬u.Reads ticketId
  | _, _ => True

instance (threads : List Thread) (t : Thread) (s : State σ) :
    Decidable (Undisturbed services threads t s) :=
  match t with
  | .draw ticket random =>
    inferInstanceAs (Decidable (∀ u ∈ threads, u.drawn ≠ some (drawId ticket s.count random)))
  | .find ticketId =>
    have : Decidable (services.find ticketId s.tickets = .ok none) :=
      match services.find ticketId s.tickets with
      | .ok none => isTrue rfl
      | .ok (some _) => isFalse nofun
      | .error _ => isFalse nofun
    inferInstanceAs (Decidable (_ ∨ ∀ u ∈ threads, ¬u.Reads ticketId))
  | .store _ _ | .stored _ | .delete _ _ | .returned _ _ | .wait _ | .finished => isTrue trivial

def Exclusive (c : Config (State σ) Thread) : Move Request → Prop
  | .start _ => True
  | .advance k => ∀ t ∈ c.threads[k]?, Undisturbed services c.threads t c.shared

instance (c : Config (State σ) Thread) : DecidablePred (Exclusive services c)
  | .start _ => isTrue trivial
  | .advance k =>
    inferInstanceAs (Decidable (∀ t ∈ c.threads[k]?, Undisturbed services c.threads t c.shared))

end Conditions

/-- At most one call has returned a ticket for an id. -/
def ConsumedOnce {σ : Type} (c : Config (State σ) Thread) : Prop :=
  ∀ (j k : ℕ) ticketId ticket other,
    c.threads[j]? = some (Thread.returned ticketId (.ok ticket)) →
      c.threads[k]? = some (Thread.returned ticketId (.ok other)) → j = k

section Steps

variable {σ : Type} {services : TicketServices σ} {c : Config (State σ) Thread} {t : Thread}

/-- The parts that the threads play for the ticket of an id. -/
def roles (services : TicketServices σ) (ticketId : String) : SingleUse.Roles (State σ) Thread where
  Draws t := t.drawn = some ticketId
  Stored t := t = .stored ticketId
  Holds t := t.Holds ticketId
  Done t := t.Returns ticketId
  Kept s := services.find ticketId s.tickets ≠ .ok none
  draws_of_stored _ h := by rw [h]; rfl
  holds_of_done t h := by
    cases t with
    | returned read result =>
      cases result with
      | error e => exact h
      | ok ticket => exact h
    | _ => exact h.elim

/-- Who holds a ticket and is not on the way to delete it is done with it. -/
theorem done_of_holds {ticketId : String} (hreads : ¬t.Reads ticketId)
    (hholds : t.Holds ticketId) : (roles services ticketId).Done t := by
  cases t with
  | delete read found =>
    cases found with
    | none => exact hholds.elim
    | some ticket => exact absurd hholds hreads
  | returned read result =>
    cases result with
    | error e => exact hholds.elim
    | ok ticket => exact hholds
  | _ => exact hholds.elim

/-- A step that has nothing to do with the tickets: the store is as before or has lost
some, and the thread comes away with nothing. -/
theorem allowed_idle {t' : Thread} {s' : State σ} {ticketId : String}
    (hkept : services.find ticketId s'.tickets = .ok none ∨
      services.find ticketId s'.tickets = services.find ticketId c.shared.tickets)
    (hstored : t ≠ .stored ticketId) (hdrawn : t'.drawn = none) (hholds : ¬t'.Holds ticketId) :
    SingleUse.Allowed (roles services ticketId) c t t' s' where
  draws h := by
    have hsome : t'.drawn = some ticketId := h
    rw [hdrawn] at hsome
    cases hsome
  stays h := absurd h hstored
  kept h := by
    rcases hkept with hnone | hsame
    · exact absurd hnone h
    · left
      show services.find ticketId c.shared.tickets ≠ .ok none
      rw [← hsame]
      exact h
  holds h := absurd h hholds
  gone h := absurd ((roles services ticketId).holds_of_done t' h) hholds

/-- A thread that does not move. -/
theorem allowed_same {ticketId : String}
    (hdone : ¬t.Returns ticketId) :
    SingleUse.Allowed (roles services ticketId) c t t c.shared where
  draws := .inl
  stays := id
  kept := .inl
  holds := .inl
  gone h := absurd h hdone

/-- A ticket that is stored can only be brought in by the thread that has drawn its id. -/
theorem allowed_store (hlaw : SingleEntry services) (ticketId other : String) (ticket : Ticket) :
    SingleUse.Allowed (roles services ticketId) c (.store other ticket)
      (next services (.store other ticket) c.shared).1
      (next services (.store other ticket) c.shared).2 := by
  simp only [next]
  cases hstore : services.store other ticket c.shared.tickets with
  | error e => exact allowed_idle (.inr rfl) nofun rfl id
  | ok tickets =>
    constructor
    · exact .inl
    · exact nofun
    · intro hkept
      by_cases hid : ticketId = other
      · right
        have hdrawn : (Thread.store other ticket).drawn = some ticketId := congrArg some hid.symm
        have hstored : Thread.stored other = .stored ticketId := congrArg Thread.stored hid.symm
        exact ⟨hdrawn, nofun, hstored⟩
      · left
        have hsame := hlaw.store hstore hid
        show services.find ticketId c.shared.tickets ≠ .ok none
        rw [← hsame]
        exact hkept
    · exact False.elim
    · exact False.elim

/-- A thread that finds the ticket begins to hold it. -/
theorem allowed_find (ticketId other : String)
    (h : Undisturbed services c.threads (.find other) c.shared) :
    SingleUse.Allowed (roles services ticketId) c (.find other)
      (next services (.find other) c.shared).1 (next services (.find other) c.shared).2 := by
  simp only [next]
  cases hfind : services.find other c.shared.tickets with
  | error e => exact allowed_idle (.inr rfl) nofun rfl id
  | ok found =>
    cases found with
    | none => exact allowed_idle (.inr rfl) nofun rfl id
    | some ticket =>
      constructor
      · exact nofun
      · exact nofun
      · exact .inl
      · intro hholds
        have hother : other = ticketId := hholds
        rw [hother] at hfind h
        have hkept : services.find ticketId c.shared.tickets ≠ .ok none := by
          rw [hfind]
          exact nofun
        exact .inr ⟨hkept, fun u hu hu' => done_of_holds (h.resolve_left hkept u hu) hu'⟩
      · exact False.elim

/-- What is deleted stays away, and a ticket of another id is left alone. -/
theorem allowed_delete (hlaw : SingleEntry services) (ticketId other : String)
    (found : Option Ticket) :
    SingleUse.Allowed (roles services ticketId) c (.delete other found)
      (next services (.delete other found) c.shared).1
      (next services (.delete other found) c.shared).2 := by
  have hdeleted := hlaw.delete other found c.shared.tickets
  constructor
  · exact nofun
  · exact nofun
  · intro hkept
    left
    show services.find ticketId c.shared.tickets ≠ .ok none
    have hne : ticketId ≠ other := by
      intro hid
      rw [hid] at hkept
      exact hkept hdeleted
    rw [← hlaw.deleteOther hne found c.shared.tickets]
    exact hkept
  · intro hholds
    cases found with
    | none => exact hholds.elim
    | some ticket => exact .inl hholds
  · intro hdone
    cases found with
    | none => exact hdone.elim
    | some ticket =>
      have hother : other = ticketId := hdone
      show ¬services.find ticketId
        (services.delete other (some ticket) c.shared.tickets) ≠ .ok none
      rw [← hother]
      exact not_not.mpr hdeleted

/-- What a single step of a thread does to the ticket of an id. -/
theorem allowed_next (hlaw : SingleEntry services) (ticketId : String)
    (hsole : SingleUse.Sole (roles services ticketId) c) {k : ℕ} (hk : c.threads[k]? = some t)
    (h : Undisturbed services c.threads t c.shared) :
    SingleUse.Allowed (roles services ticketId) c t (next services t c.shared).1
      (next services t c.shared).2 := by
  cases t with
  | draw ticket random =>
    constructor
    · intro hdraws
      right
      intro u hu hdrawn
      exact h u hu (hdrawn.trans hdraws.symm)
    · exact nofun
    · exact .inl
    · exact False.elim
    · exact False.elim
  | store other ticket => exact allowed_store hlaw ticketId other ticket
  | find other => exact allowed_find ticketId other h
  | delete other found => exact allowed_delete hlaw ticketId other found
  | wait seconds => exact allowed_idle (hlaw.wait ticketId seconds c.shared.tickets) nofun rfl id
  | stored other => exact allowed_same id
  | finished => exact allowed_same id
  | returned other result =>
    -- a call that has returned keeps its parts, and what was deleted stays away
    constructor
    · exact .inl
    · exact id
    · exact .inl
    · exact .inl
    · intro hdone
      exact hsole.gone k _ hk hdone

theorem sole_move (hlaw : SingleEntry services) (ticketId : String) (c : Config (State σ) Thread)
    (m : Move Request) (hm : Exclusive services c m)
    (h : SingleUse.Sole (roles services ticketId) c) :
    SingleUse.Sole (roles services ticketId) ((program services).move c m) := by
  cases m with
  | start request =>
    apply SingleUse.sole_start h
    · cases request with
      | createTicket ticket random => exact nofun
      | consumeTicket other => exact nofun
      | wait seconds => exact nofun
    · cases request with
      | createTicket ticket random => exact id
      | consumeTicket other => exact id
      | wait seconds => exact id
  | advance k =>
    cases hk : c.threads[k]? with
    | none =>
      rw [Program.move_advance_of_none hk]
      exact h
    | some t =>
      have ht : Undisturbed services c.threads t c.shared := hm t hk
      exact SingleUse.sole_advance h hk (allowed_next hlaw ticketId h hk ht)

/-- Over a store of single rows, runs without such a disturbance consume each ticket once. -/
theorem consumedOnce_of_singleEntry (hlaw : SingleEntry services) (moves : List (Move Request))
    (h : Runs.Meets (program services).move (Exclusive services) (start services) moves) :
    ConsumedOnce (Runs.exec (program services).move (start services) moves) := by
  intro j k ticketId ticket other hj hk
  have hempty : SingleUse.Sole (roles services ticketId) (start services) :=
    SingleUse.sole_nil (not_not.mpr (hlaw.empty ticketId))
  have hsole := Runs.exec_invariant (sole_move hlaw ticketId) h hempty
  exact hsole.once j k _ _ hj hk rfl rfl

end Steps

section Numbers

variable {σ : Type} {services : TicketServices σ} {c : Config (State σ) Thread} {n : ℕ}

/-- The generator has drawn at most so many numbers, and every id carries one of them. -/
structure Numbered (n : ℕ) (c : Config (State σ) Thread) : Prop where
  count : c.shared.count ≤ n
  drawn : ∀ u ∈ c.threads, ∀ ticketId ∈ u.drawn, ∃ ticket m random,
    m < c.shared.count ∧ ticketId = drawId ticket m random

/-- What a step of a thread does to the count, and where its id comes from. -/
theorem next_drawn (services : TicketServices σ) (t : Thread) (s : State σ) :
    (next services t s).2.count = s.count ∧ (next services t s).1.drawn = t.drawn ∨
    (next services t s).2.count = s.count ∧ (next services t s).1.drawn = none ∨
    (next services t s).2.count = (getNextValue s.count).2 ∧
      ∃ ticket random, (next services t s).1.drawn = some (drawId ticket s.count random) := by
  cases t with
  | draw ticket random => exact .inr (.inr ⟨rfl, ticket, random, rfl⟩)
  | store ticketId ticket =>
    simp only [next]
    cases services.store ticketId ticket s.tickets with
    | error e => exact .inr (.inl ⟨rfl, rfl⟩)
    | ok tickets => exact .inl ⟨rfl, rfl⟩
  | find ticketId =>
    simp only [next]
    cases services.find ticketId s.tickets with
    | error e => exact .inr (.inl ⟨rfl, rfl⟩)
    | ok found => exact .inr (.inl ⟨rfl, rfl⟩)
  | delete ticketId found => exact .inr (.inl ⟨rfl, rfl⟩)
  | wait seconds => exact .inr (.inl ⟨rfl, rfl⟩)
  | stored ticketId => exact .inl ⟨rfl, rfl⟩
  | returned ticketId result => exact .inl ⟨rfl, rfl⟩
  | finished => exact .inl ⟨rfl, rfl⟩

theorem numbered_move (hn : n < 2 ^ 63 - 1) (h : Numbered n c) (m : Move Request) :
    Numbered (n + 1) ((program services).move c m) := by
  have hcount := h.count
  cases m with
  | start request =>
    refine ⟨by show c.shared.count ≤ n + 1; omega, ?_⟩
    intro u hu ticketId hid
    rcases List.mem_append.mp hu with hold | hnew
    · exact h.drawn u hold ticketId hid
    · rw [List.mem_singleton.mp hnew] at hid
      cases request <;> cases hid
  | advance k =>
    cases hk : c.threads[k]? with
    | none =>
      rw [Program.move_advance_of_none hk]
      exact ⟨by omega, h.drawn⟩
    | some t =>
      have hsnd : (getNextValue c.shared.count).2 = c.shared.count + 1 := by
        rw [getNextValue_snd (by omega)]
        omega
      have hmem : t ∈ c.threads := List.mem_of_getElem? hk
      rw [Program.move_advance_of_some hk]
      -- the ids of before keep a number below a count that does not fall
      have hkeep : ∀ {s' : State σ}, c.shared.count ≤ s'.count → ∀ u ∈ c.threads,
          ∀ ticketId ∈ u.drawn, ∃ ticket m random,
            m < s'.count ∧ ticketId = drawId ticket m random := by
        intro s' hle u hu ticketId hid
        obtain ⟨ticket, m, random, hm, heq⟩ := h.drawn u hu ticketId hid
        exact ⟨ticket, m, random, by omega, heq⟩
      show Numbered (n + 1)
        ⟨(next services t c.shared).2, c.threads.set k (next services t c.shared).1⟩
      rcases next_drawn services t c.shared with ⟨hs, ht⟩ | ⟨hs, ht⟩ | ⟨hs, ticket, random, ht⟩
      · refine ⟨by show (next services t c.shared).2.count ≤ n + 1; omega, ?_⟩
        intro u hu ticketId hid
        rcases List.mem_or_eq_of_mem_set hu with hold | hnew
        · exact hkeep hs.ge u hold ticketId hid
        · rw [hnew, ht] at hid
          exact hkeep hs.ge t hmem ticketId hid
      · refine ⟨by show (next services t c.shared).2.count ≤ n + 1; omega, ?_⟩
        intro u hu ticketId hid
        rcases List.mem_or_eq_of_mem_set hu with hold | hnew
        · exact hkeep hs.ge u hold ticketId hid
        · rw [hnew, ht] at hid
          cases hid
      · rw [hsnd] at hs
        refine ⟨by show (next services t c.shared).2.count ≤ n + 1; omega, ?_⟩
        intro u hu ticketId hid
        rcases List.mem_or_eq_of_mem_set hu with hold | hnew
        · have hle : c.shared.count ≤ (next services t c.shared).2.count := by omega
          exact hkeep hle u hold ticketId hid
        · rw [hnew, ht] at hid
          refine ⟨ticket, c.shared.count, random, ?_, (Option.some.inj hid).symm⟩
          show c.shared.count < (next services t c.shared).2.count
          omega

/-- Until the generator comes round, after 2^63 numbers, no id is drawn twice. -/
theorem drawn_once (moves : List (Move Request)) (h : moves.length < 2 ^ 63 - 1)
    {u : Thread} (hu : u ∈ (Runs.exec (program services).move (start services) moves).threads)
    (ticket : Ticket) (random : List Int8) : u.drawn ≠
      some (drawId ticket (Runs.exec (program services).move (start services) moves).shared.count
        random) := by
  have hrun : ∀ moves : List (Move Request), moves.length < 2 ^ 63 - 1 →
      Numbered (1 + moves.length) (Runs.exec (program services).move (start services) moves) := by
    intro moves
    induction moves using List.reverseRecOn with
    | nil => exact fun _ => ⟨Nat.le_refl 1, fun _ hu => absurd hu List.not_mem_nil⟩
    | append_singleton moves m ih =>
      intro hlength
      rw [List.length_append, List.length_singleton] at hlength ⊢
      rw [Runs.exec_append]
      exact numbered_move (by omega) (ih (by omega)) m
  intro hdrawn
  obtain ⟨other, m, random', hm, heq⟩ := (hrun moves h).drawn u hu _ hdrawn
  have hnumber := drawId_number heq
  omega

end Numbers

section Stores

variable {β : Type}

/-- The cache and Redis consume each ticket once, in every interleaving in which no call finds a
ticket between the finding and the deletion of another call. -/
theorem consumedOnce (b : BackEnd β) (hb : b.isJdbc = false) (moves : List (Move Request))
    (h : Runs.Meets (program b.services).move (Exclusive b.services) (start b.services) moves) :
    ConsumedOnce (Runs.exec (program b.services).move (start b.services) moves) := by
  cases b with
  | inMemory => exact consumedOnce_of_singleEntry (singleEntry_cache 60) moves h
  | redis transformer => exact consumedOnce_of_singleEntry (singleEntry_redis transformer) moves h
  | jdbc transformer table => cases hb

end Stores

/-- A ticket is created, and two calls find it before the first of them deletes it. -/
def twoReaders : List (Move Request) :=
  [.start (.createTicket Ticket.proxyTicketImpl []), .advance 0, .advance 0,
    .start (.consumeTicket "PT-1-"), .start (.consumeTicket "PT-1-"),
    .advance 1, .advance 2, .advance 1, .advance 2]

/-- The second call comes when the first one has deleted the ticket. -/
def oneAfterTheOther : List (Move Request) :=
  [.start (.createTicket Ticket.proxyTicketImpl []), .advance 0, .advance 0,
    .start (.consumeTicket "PT-1-"), .start (.consumeTicket "PT-1-"),
    .advance 1, .advance 1, .advance 2, .advance 2]

theorem consumedOnce_oneAfterTheOther :
    ConsumedOnce (Runs.exec (program InMemoryTicketServices).move (start InMemoryTicketServices)
      oneAfterTheOther) :=
  consumedOnce (.inMemory : BackEnd Ticket) rfl oneAfterTheOther (by decide)

theorem twoReaders_not_consumedOnce :
    ¬ConsumedOnce (Runs.exec (program InMemoryTicketServices).move (start InMemoryTicketServices)
      twoReaders) ∧
    ¬ConsumedOnce (Runs.exec (program (RedisTicketServices unchanged)).move
      (start (RedisTicketServices unchanged)) twoReaders) := by
  have htwo : ∀ {σ : Type} {c : Config (State σ) Thread},
      c.threads[1]? = some (.returned "PT-1-" (.ok Ticket.proxyTicketImpl)) →
      c.threads[2]? = some (.returned "PT-1-" (.ok Ticket.proxyTicketImpl)) → ¬ConsumedOnce c := by
    intro σ c hfirst hsecond honce
    have hsame := honce 1 2 _ _ _ hfirst hsecond
    omega
  exact ⟨htwo rfl rfl, htwo rfl rfl⟩

end MaxKey.CasTicketRaces
