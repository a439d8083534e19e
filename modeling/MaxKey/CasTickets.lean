import MaxKey.Domain
import MaxKey.Effects
import MaxKey.ExpiringMap
import MaxKey.JavaText
import MaxKey.Runs
import Mathlib.Algebra.GroupWithZero.Nat

namespace MaxKey.CasTickets
open JavaException Effects Runs

/-- A row of APPS_CAS_DETAILS with what it inherits from APPS, as far as CAS reads it. -/
structure AppsCasDetails where
  id : String
  service : Option String
  isAdapter : Int := 0
  adapter : Option String := none
  deriving DecidableEq

inductive TicketClass
  | serviceTicketImpl
  | proxyTicketImpl
  deriving DecidableEq

def TicketClass.getSimpleName : TicketClass → String
  | serviceTicketImpl => "ServiceTicketImpl"
  | proxyTicketImpl => "ProxyTicketImpl"

structure Ticket where
  getClass : TicketClass
  authentication : Option Authentication
  casDetails : Option AppsCasDetails
  deriving DecidableEq

namespace Ticket

/-- The constructor of a service ticket. -/
def serviceTicketImpl (authentication : Option Authentication)
    (casDetails : Option AppsCasDetails) : Ticket :=
  ⟨.serviceTicketImpl, authentication, casDetails⟩

/-- The constructors of a proxy ticket drop what they are given. -/
def proxyTicketImpl : Ticket := ⟨.proxyTicketImpl, none, none⟩

/-- No constructor of the two classes sets the id, and there is no setter. -/
def getId (_ : Ticket) : Option String := none

def toString (ticket : Ticket) : Option String := ticket.getId

end Ticket

/-- Java serialisation of a ticket: what is written is read back. -/
structure ObjectTransformer (β : Type) where
  serialize : Ticket → β
  deserialize : β → Except JavaException Ticket
  deserialize_serialize : ∀ ticket, deserialize (serialize ticket) = .ok ticket

/-- DefaultLongNumericGenerator.getNextValue: the value, and the count it leaves. -/
def getNextValue (count : ℕ) : ℕ × ℕ :=
  if count = 2 ^ 63 - 1 then (2 ^ 63 - 1, 0) else (count, count + 1)

def PRINTABLE_CHARACTERS : List Char :=
  "abcdefghijklmnopqrstuvwxyzABCDEFGHIJKLMNOPQRSTUVWXYZ012345679".toList

def convertBytesToString (random : List Int8) : String :=
  String.ofList (random.map fun b =>
    PRINTABLE_CHARACTERS.getD (b.toInt.tmod PRINTABLE_CHARACTERS.length).natAbs 'a')

/-- DefaultUniqueTicketIdGenerator.getNewTicketId with the number and the random bytes drawn. -/
def getNewTicketId (kind : String) (number : ℕ) (random : List Int8) : String :=
  kind ++ "-" ++ toString number ++ "-" ++ convertBytesToString random

def SERVICE_TICKET_PREFIX : String := "ST"
def PROXY_TICKET_PREFIX : String := "PT"

/-- The id that createTicket draws. -/
def drawId (ticket : Ticket) (count : ℕ) (random : List Int8) : String :=
  let simpleName := ticket.getClass.getSimpleName
  if JavaText.equalsIgnoreCase simpleName "ServiceTicketImpl" then
    getNewTicketId SERVICE_TICKET_PREFIX (getNextValue count).1 random
  else if JavaText.equalsIgnoreCase simpleName "ProxyTicketImpl" then
    getNewTicketId PROXY_TICKET_PREFIX (getNextValue count).1 random
  else ""

/-- A back end. The two halves of `remove` are apart, and `wait` lets time pass. -/
structure TicketServices (σ : Type) where
  validitySeconds : Option ℕ
  empty : σ
  store : String → Ticket → σ → Except JavaException σ
  find : String → σ → Except JavaException (Option Ticket)
  delete : String → Option Ticket → σ → σ
  wait : ℕ → σ → σ

/-- A cache whose entries live so many seconds. -/
def cache (validitySeconds : ℕ) : TicketServices (ExpiringMap String Ticket) where
  validitySeconds := some validitySeconds
  empty := .empty String Ticket
  store ticketId ticket m := .ok (m.put validitySeconds ticketId ticket)
  find ticketId m := .ok (m.get ticketId)
  delete ticketId _ m := m.remove ticketId
  wait seconds m := m.wait seconds

def InMemoryTicketServices : TicketServices (ExpiringMap String Ticket) := cache 60

namespace RedisTicketServices

def PREFIX : String := "REDIS_CAS_SERVICE_TICKET_"
def serviceTicketValiditySeconds : ℕ := 60 * 10

end RedisTicketServices

open RedisTicketServices in
/-- A key of the server holds the text of a serialised ticket. -/
def RedisTicketServices {β : Type} (transformer : ObjectTransformer β) :
    TicketServices (ExpiringMap String β) where
  validitySeconds := some serviceTicketValiditySeconds
  empty := .empty String β
  store ticketId ticket m :=
    .ok (m.put serviceTicketValiditySeconds (PREFIX ++ ticketId) (transformer.serialize ticket))
  find ticketId m :=
    match m.get (PREFIX ++ ticketId) with
    | none => .ok none
    | some value => some <$> transformer.deserialize value
  delete ticketId _ m := m.remove (PREFIX ++ ticketId)
  wait seconds m := m.wait seconds

/-- What the code leaves to the database: whether ID may be null, and what the driver binds
for a ticket that is passed as it is. -/
structure CasTicketTable where
  idNullable : Bool
  setObject : Ticket → Option String

/-- A row of cas_ticket. -/
structure CasTicketRow (β : Type) where
  id : Option String
  ticket : β

/-- The insert binds the ticket itself as a VARCHAR, which is its toString. A comparison with
a null finds nothing. -/
def JdbcTicketServices {β : Type} (transformer : ObjectTransformer β) (table : CasTicketTable) :
    TicketServices (List (CasTicketRow β)) where
  validitySeconds := none
  empty := []
  store _ ticket rows :=
    if ticket.toString.isNone ∧ ¬table.idNullable then .error (dataAccess "CAS_TICKET")
    else .ok (rows ++ [⟨ticket.toString, transformer.serialize ticket⟩])
  find ticketId rows :=
    match rows.filter (·.id = some ticketId) with
    | [] => .ok none
    | [row] => some <$> transformer.deserialize row.ticket
    | _ => .error (dataAccess "Incorrect result size")
  delete _ found rows :=
    match found with
    | none => rows
    | some ticket => rows.filter fun row =>
      (table.setObject ticket).isNone ∨ row.id ≠ table.setObject ticket
  wait _ rows := rows

/-- The generator of the ids, which starts with 1, and what the back end holds. -/
structure State (σ : Type) where
  count : ℕ := 1
  tickets : σ

inductive Action
  | createTicket (ticket : Ticket) (random : List Int8)
  | consumeTicket (ticketId : String)
  | wait (seconds : ℕ)

namespace TicketServices

variable {σ : Type} (services : TicketServices σ)

def start : State σ := ⟨1, services.empty⟩

def createTicket (ticket : Ticket) (random : List Int8) :
    EStateM JavaException (State σ) String := do
  let s ← get
  let ticketId := drawId ticket s.count random
  set { s with count := (getNextValue s.count).2 }
  let tickets ← orError (services.store ticketId ticket s.tickets)
  modify fun s => { s with tickets }
  return ticketId

def remove (ticketId : String) : EStateM JavaException (State σ) (Option Ticket) := do
  let s ← get
  let ticket ← orError (services.find ticketId s.tickets)
  set { s with tickets := services.delete ticketId ticket s.tickets }
  return ticket

def invalidCode (ticketId : String) : JavaException :=
  exception ("Invalid authorization code: " ++ ticketId)

def consumeTicket (ticketId : String) : EStateM JavaException (State σ) Ticket := do
  let ticket ← services.remove ticketId
  orThrow (invalidCode ticketId) ticket

def step (s : State σ) : Action → State σ
  | .createTicket ticket random => final (services.createTicket ticket random) s
  | .consumeTicket ticketId => final (services.consumeTicket ticketId) s
  | .wait seconds => { s with tickets := services.wait seconds s.tickets }

/-- The state that a sequence of calls leads to. -/
def run (as : List Action) : State σ := exec services.step services.start as

end TicketServices

/-- How many seconds go by. -/
def elapsed (as : List Action) : ℕ :=
  (as.map fun
    | .wait seconds => seconds
    | _ => 0).sum

/-- How many tickets are created. -/
def created (as : List Action) : ℕ :=
  (as.map fun
    | .createTicket _ _ => 1
    | _ => 0).sum

/-- The ids that are drawn from a count on. -/
def idsDrawn : ℕ → List Action → List String
  | _, [] => []
  | count, .createTicket ticket random :: as =>
    drawId ticket count random :: idsDrawn (getNextValue count).2 as
  | count, .consumeTicket _ :: as | count, .wait _ :: as => idsDrawn count as

/-- What a one-time store promises of every ticket that is created after any sequence of calls:
until it runs out, and whatever else is created and consumed, the first call that presents
its id returns it, and every later one fails, unless the generator has come round to the
same id. -/
def OneTime {σ : Type} (services : TicketServices σ) : Prop :=
  ∀ (past : List Action) (ticket : Ticket) (random : List Int8),
    ∃ ticketId s, services.createTicket ticket random (services.run past) = .ok ticketId s ∧
      ∀ between, ticketId ∉ idsDrawn s.count between → .consumeTicket ticketId ∉ between →
        (∀ limit ∈ services.validitySeconds, elapsed between < limit) →
        outcome (services.consumeTicket ticketId) (exec services.step s between) = .ok ticket ∧
          ∀ later, ticketId ∉ idsDrawn (exec services.step s between).count later →
            outcome (services.consumeTicket ticketId)
              (exec services.step s (between ++ .consumeTicket ticketId :: later)) =
                .error (TicketServices.invalidCode ticketId)

/-- The three back ends. -/
inductive BackEnd (β : Type)
  | inMemory
  | redis (transformer : ObjectTransformer β)
  | jdbc (transformer : ObjectTransformer β) (table : CasTicketTable)

namespace BackEnd

variable {β : Type}

def Store : BackEnd β → Type
  | inMemory => ExpiringMap String Ticket
  | redis _ => ExpiringMap String β
  | jdbc _ _ => List (CasTicketRow β)

def services : (b : BackEnd β) → TicketServices b.Store
  | inMemory => InMemoryTicketServices
  | redis transformer => RedisTicketServices transformer
  | jdbc transformer table => JdbcTicketServices transformer table

def isJdbc : BackEnd β → Bool
  | jdbc _ _ => true
  | inMemory | redis _ => false

end BackEnd

section Ids

variable {ticket ticket' : Ticket} {random random' : List Int8} {n m : ℕ} {as : List Action}

theorem getNextValue_fst (n : ℕ) : (getNextValue n).1 = n := by
  unfold getNextValue
  split_ifs with h
  · exact h.symm
  · rfl

theorem getNextValue_snd (hn : n < 2 ^ 63) : (getNextValue n).2 = (n + 1) % 2 ^ 63 := by
  unfold getNextValue
  split_ifs with h
  · simp only
    omega
  · simp only
    omega

/-- An id is of one of the two kinds, with the next number in it. -/
theorem drawId_eq (ticket : Ticket) (n : ℕ) (random : List Int8) :
    ∃ kind : String, '-' ∉ kind.toList ∧ drawId ticket n random = getNewTicketId kind n random := by
  unfold drawId
  rw [getNextValue_fst]
  cases ticket.getClass with
  | serviceTicketImpl => exact ⟨"ST", by decide, rfl⟩
  | proxyTicketImpl => exact ⟨"PT", by decide, rfl⟩

theorem dash_not_mem_toDigits (n : ℕ) : '-' ∉ Nat.toDigits 10 n := by
  intro h
  have hdigit : ('-').isDigit = true := Nat.isDigit_of_mem_toDigits (by omega) (by omega) h
  exact absurd hdigit (by decide)

theorem toList_getNewTicketId (kind : String) (n : ℕ) (random : List Int8) :
    (getNewTicketId kind n random).toList = kind.toList ++ '-' ::
      (Nat.toDigits 10 n ++ '-' :: (convertBytesToString random).toList) := by
  simp [getNewTicketId, String.toList_append]

/-- The number of an id can be read off it. -/
theorem drawId_number (h : drawId ticket n random = drawId ticket' m random') : n = m := by
  obtain ⟨kind, hkind, hn⟩ := drawId_eq ticket n random
  obtain ⟨kind', hkind', hm⟩ := drawId_eq ticket' m random'
  have hlist := congrArg String.toList (hn.symm.trans (h.trans hm))
  rw [toList_getNewTicketId, toList_getNewTicketId] at hlist
  have htail := (JavaText.append_sep_inj hkind hkind' hlist).2
  have hdigits := (JavaText.append_sep_inj (dash_not_mem_toDigits n) (dash_not_mem_toDigits m) htail).1
  calc n = Nat.ofDigitChars 10 (Nat.toDigits 10 n) 0 := Nat.ofDigitChars_ten_toDigits.symm
    _ = Nat.ofDigitChars 10 (Nat.toDigits 10 m) 0 := by rw [hdigits]
    _ = m := Nat.ofDigitChars_ten_toDigits

/-- As long as the numbers drawn are others, so are the ids. -/
theorem not_mem_idsDrawn_of_numbers (hm : m < 2 ^ 63)
    (h : ∀ i < created as, (m + i) % 2 ^ 63 ≠ n) :
    drawId ticket n random ∉ idsDrawn m as := by
  induction as generalizing m with
  | nil => exact List.not_mem_nil
  | cons a as ih =>
    cases a with
    | createTicket ticket' random' =>
      have hcreated : created (.createTicket ticket' random' :: as) = created as + 1 := by
        simp only [created, List.map_cons, List.sum_cons]
        omega
      rw [hcreated] at h
      rw [idsDrawn, List.mem_cons, not_or]
      constructor
      · intro heq
        have hnumber := drawId_number heq
        have hfirst := h 0 (by omega)
        omega
      · rw [getNextValue_snd hm]
        apply ih
        · omega
        · intro i hi
          have hnext := h (i + 1) (by omega)
          omega
    | consumeTicket ticketId => exact ih hm fun i hi => h i (by simpa [created] using hi)
    | wait seconds => exact ih hm fun i hi => h i (by simpa [created] using hi)

/-- An id comes again only when the generator has gone through all of its numbers. -/
theorem not_mem_idsDrawn (hn : n < 2 ^ 63) (h : created as < 2 ^ 63) :
    drawId ticket n random ∉ idsDrawn (getNextValue n).2 as := by
  rw [getNextValue_snd hn]
  apply not_mem_idsDrawn_of_numbers
  · omega
  · intro i hi
    omega

end Ids

section Calls

variable {σ : Type} {services : TicketServices σ} {s : State σ} {ticket : Ticket} {tickets : σ}
  {random : List Int8} {ticketId : String} {e : JavaException}

/-- The id is drawn before the ticket is stored, and stays drawn when that fails. -/
theorem createTicket_eq : services.createTicket ticket random s =
    (orError (services.store (drawId ticket s.count random) ticket s.tickets) >>= fun tickets => do
      modify fun s => { s with tickets }
      return drawId ticket s.count random : EStateM JavaException (State σ) String)
        { s with count := (getNextValue s.count).2 } := rfl

theorem createTicket_of_ok
    (h : services.store (drawId ticket s.count random) ticket s.tickets = .ok tickets) :
    services.createTicket ticket random s =
      .ok (drawId ticket s.count random) ⟨(getNextValue s.count).2, tickets⟩ := by
  rw [createTicket_eq, h]
  rfl

theorem createTicket_of_error
    (h : services.store (drawId ticket s.count random) ticket s.tickets = .error e) :
    services.createTicket ticket random s = .error e ⟨(getNextValue s.count).2, s.tickets⟩ := by
  rw [createTicket_eq, h]
  rfl

theorem consumeTicket_of_some (h : services.find ticketId s.tickets = .ok (some ticket)) :
    services.consumeTicket ticketId s =
      .ok ticket { s with tickets := services.delete ticketId (some ticket) s.tickets } := by
  have hremove : services.remove ticketId s =
      .ok (some ticket) { s with tickets := services.delete ticketId (some ticket) s.tickets } := by
    unfold TicketServices.remove
    rw [bind_of_ok (get_apply s), h]
    rfl
  exact bind_of_ok hremove

theorem consumeTicket_of_none (h : services.find ticketId s.tickets = .ok none) :
    services.consumeTicket ticketId s = .error (TicketServices.invalidCode ticketId)
      { s with tickets := services.delete ticketId none s.tickets } := by
  have hremove : services.remove ticketId s =
      .ok none { s with tickets := services.delete ticketId none s.tickets } := by
    unfold TicketServices.remove
    rw [bind_of_ok (get_apply s), h]
    rfl
  exact bind_of_ok hremove

theorem consumeTicket_of_error (h : services.find ticketId s.tickets = .error e) :
    services.consumeTicket ticketId s = .error e s := by
  have hremove : services.remove ticketId s = .error e s := by
    unfold TicketServices.remove
    rw [bind_of_ok (get_apply s), h]
    rfl
  exact bind_of_error hremove

theorem count_createTicket (services : TicketServices σ) (ticket : Ticket) (random : List Int8)
    (s : State σ) :
    (final (services.createTicket ticket random) s).count = (getNextValue s.count).2 := by
  cases h : services.store (drawId ticket s.count random) ticket s.tickets with
  | ok tickets => rw [final_of_ok (createTicket_of_ok h)]
  | error e => rw [final_of_error (createTicket_of_error h)]

theorem count_consumeTicket (services : TicketServices σ) (ticketId : String) (s : State σ) :
    (final (services.consumeTicket ticketId) s).count = s.count := by
  match h : services.find ticketId s.tickets with
  | .error e => rw [final_of_error (consumeTicket_of_error h)]
  | .ok none => rw [final_of_error (consumeTicket_of_none h)]
  | .ok (some ticket) => rw [final_of_ok (consumeTicket_of_some h)]

/-- The generator stays within a Java long, whatever the back end does. -/
theorem count_run_lt (services : TicketServices σ) (as : List Action) :
    (services.run as).count < 2 ^ 63 := by
  have hstart : services.start.count < 2 ^ 63 := by
    show 1 < 2 ^ 63
    omega
  refine exec_induction (I := fun s : State σ => s.count < 2 ^ 63) ?_ hstart as
  intro s a hs
  cases a with
  | createTicket ticket random =>
    have hcount := count_createTicket services ticket random s
    rw [getNextValue_snd hs] at hcount
    show (final (services.createTicket ticket random) s).count < 2 ^ 63
    omega
  | consumeTicket ticketId =>
    have hcount := count_consumeTicket services ticketId s
    show (final (services.consumeTicket ticketId) s).count < 2 ^ 63
    omega
  | wait seconds => exact hs

/-- A ticket that any sequence of calls comes to create has an id that fewer than 2^63
further creations do not draw again. -/
theorem undrawn_of_created (services : TicketServices σ) (past : List Action) {as : List Action}
    (h : created as < 2 ^ 63) :
    drawId ticket (services.run past).count random ∉
      idsDrawn (getNextValue (services.run past).count).2 as :=
  not_mem_idsDrawn (count_run_lt services past) h

end Calls

section Cache

variable {n left : ℕ} {s : State (ExpiringMap String Ticket)} {ticket : Ticket} {ticketId : String}
  {as : List Action}

theorem cache_consumeTicket (n : ℕ) (s : State (ExpiringMap String Ticket)) (ticketId : String) :
    (cache n).step s (.consumeTicket ticketId) = { s with tickets := s.tickets.remove ticketId } := by
  cases h : s.tickets.get ticketId with
  | none => exact final_of_error (consumeTicket_of_none (congrArg Except.ok h))
  | some ticket => exact final_of_ok (consumeTicket_of_some (congrArg Except.ok h))

/-- A ticket that nobody presents and whose id is not drawn again only loses time. -/
theorem lives_run (h : s.tickets.Lives ticketId ticket left)
    (hdrawn : ticketId ∉ idsDrawn s.count as) (hspared : .consumeTicket ticketId ∉ as)
    (hleft : elapsed as ≤ left) :
    (exec (cache n).step s as).tickets.Lives ticketId ticket (left - elapsed as) := by
  induction as generalizing s left with
  | nil => exact h
  | cons a as ih =>
    rw [List.mem_cons, not_or] at hspared
    cases a with
    | createTicket other random =>
      rw [idsDrawn, List.mem_cons, not_or] at hdrawn
      have helapsed : elapsed (.createTicket other random :: as) = elapsed as := by simp [elapsed]
      rw [helapsed] at hleft ⊢
      exact ih (h.put hdrawn.1) hdrawn.2 hspared.2 hleft
    | consumeTicket other =>
      have hne : ticketId ≠ other := fun heq => hspared.1 (congrArg Action.consumeTicket heq)
      have helapsed : elapsed (.consumeTicket other :: as) = elapsed as := by simp [elapsed]
      rw [helapsed] at hleft ⊢
      rw [exec_cons, cache_consumeTicket]
      exact ih (h.remove hne) hdrawn hspared.2 hleft
    | wait seconds =>
      have helapsed : elapsed (.wait seconds :: as) = seconds + elapsed as := by simp [elapsed]
      rw [helapsed] at hleft ⊢
      have hseconds : seconds ≤ left := by omega
      have hrest : elapsed as ≤ left - seconds := by omega
      rw [← Nat.sub_sub]
      exact ih (h.wait hseconds) hdrawn hspared.2 hrest

/-- Once taken out, an id stays vacant until it is drawn again. -/
theorem vacant_run (h : s.tickets.Vacant ticketId) (hdrawn : ticketId ∉ idsDrawn s.count as) :
    (exec (cache n).step s as).tickets.Vacant ticketId := by
  induction as generalizing s with
  | nil => exact h
  | cons a as ih =>
    cases a with
    | createTicket other random =>
      rw [idsDrawn, List.mem_cons, not_or] at hdrawn
      exact ih (h.put hdrawn.1) hdrawn.2
    | consumeTicket other =>
      rw [exec_cons, cache_consumeTicket]
      exact ih h.remove hdrawn
    | wait seconds => exact ih h.wait hdrawn

theorem cache_returns (h : s.tickets.Lives ticketId ticket left) (hleft : 0 < left) :
    outcome ((cache n).consumeTicket ticketId) s = .ok ticket := by
  have hfind : (cache n).find ticketId s.tickets = .ok (some ticket) := congrArg _ (h.get hleft)
  simp only [outcome, consumeTicket_of_some hfind]

theorem cache_refuses (h : s.tickets.Vacant ticketId) :
    outcome ((cache n).consumeTicket ticketId) s = .error (TicketServices.invalidCode ticketId) := by
  have hfind : (cache n).find ticketId s.tickets = .ok none := congrArg _ h.get
  simp only [outcome, consumeTicket_of_none hfind]

/-- The abstract store is a one-time store. -/
theorem oneTime_cache (n : ℕ) : OneTime (cache n) := by
  intro past ticket random
  refine ⟨_, _, createTicket_of_ok rfl, ?_⟩
  intro between hdrawn hspared hlimit
  have hshort : elapsed between < n := hlimit n rfl
  constructor
  · apply cache_returns
    · apply lives_run
      · exact ExpiringMap.lives_put _ n _ ticket
      · exact hdrawn
      · exact hspared
      · exact hshort.le
    · omega
  · intro later hlater
    rw [exec_append, exec_cons, cache_consumeTicket]
    apply cache_refuses
    apply vacant_run
    · exact ExpiringMap.vacant_remove _ _
    · exact hlater

end Cache

section Simulation

variable {σ τ : Type} {abs : TicketServices σ} {services : TicketServices τ} {R : σ → τ → Prop}

/-- A back end that answers as the abstract store does, as long as the two hold related things. -/
structure Simulates (abs : TicketServices σ) (services : TicketServices τ) (R : σ → τ → Prop) :
    Prop where
  validity : services.validitySeconds = abs.validitySeconds
  empty : R abs.empty services.empty
  store : ∀ {m s}, R m s → ∀ ticketId ticket, ∃ m' s', abs.store ticketId ticket m = .ok m' ∧
    services.store ticketId ticket s = .ok s' ∧ R m' s'
  find : ∀ {m s}, R m s → ∀ ticketId, services.find ticketId s = abs.find ticketId m
  delete : ∀ {m s}, R m s → ∀ ticketId found,
    R (abs.delete ticketId found m) (services.delete ticketId found s)
  wait : ∀ {m s}, R m s → ∀ seconds, R (abs.wait seconds m) (services.wait seconds s)

/-- The two generators are in step, and what the back ends hold is related. -/
def Related (R : σ → τ → Prop) (m : State σ) (s : State τ) : Prop :=
  s.count = m.count ∧ R m.tickets s.tickets

variable {m : State σ} {s : State τ}

theorem Simulates.createTicket (h : Simulates abs services R) (hR : Related R m s)
    (ticket : Ticket) (random : List Int8) :
    ∃ m' s', abs.createTicket ticket random m = .ok (drawId ticket m.count random) m' ∧
      services.createTicket ticket random s = .ok (drawId ticket m.count random) s' ∧
      Related R m' s' := by
  obtain ⟨m', s', habs, hservices, hR'⟩ := h.store hR.2 (drawId ticket m.count random) ticket
  have hcount := hR.1
  rw [← hcount] at hservices
  have hcreate := createTicket_of_ok hservices
  rw [hcount] at hcreate
  exact ⟨_, _, createTicket_of_ok habs, hcreate, rfl, hR'⟩

theorem Simulates.consumeTicket (h : Simulates abs services R) (hR : Related R m s)
    (ticketId : String) :
    outcome (services.consumeTicket ticketId) s = outcome (abs.consumeTicket ticketId) m ∧
      Related R (final (abs.consumeTicket ticketId) m)
        (final (services.consumeTicket ticketId) s) := by
  have hfind := h.find hR.2 ticketId
  unfold outcome
  match habs : abs.find ticketId m.tickets with
  | .error e =>
    rw [habs] at hfind
    rw [final_of_error (consumeTicket_of_error habs), final_of_error (consumeTicket_of_error hfind)]
    simp only [consumeTicket_of_error habs, consumeTicket_of_error hfind]
    exact ⟨trivial, hR⟩
  | .ok none =>
    rw [habs] at hfind
    rw [final_of_error (consumeTicket_of_none habs), final_of_error (consumeTicket_of_none hfind)]
    simp only [consumeTicket_of_none habs, consumeTicket_of_none hfind]
    exact ⟨trivial, hR.1, h.delete hR.2 _ _⟩
  | .ok (some ticket) =>
    rw [habs] at hfind
    rw [final_of_ok (consumeTicket_of_some habs), final_of_ok (consumeTicket_of_some hfind)]
    simp only [consumeTicket_of_some habs, consumeTicket_of_some hfind]
    exact ⟨trivial, hR.1, h.delete hR.2 _ _⟩

theorem Simulates.step (h : Simulates abs services R) (hR : Related R m s) (a : Action) :
    Related R (abs.step m a) (services.step s a) := by
  cases a with
  | createTicket ticket random =>
    obtain ⟨m', s', habs, hservices, hR'⟩ := h.createTicket hR ticket random
    simp only [TicketServices.step, final_of_ok habs, final_of_ok hservices]
    exact hR'
  | consumeTicket ticketId => exact (h.consumeTicket hR ticketId).2
  | wait seconds => exact ⟨hR.1, h.wait hR.2 seconds⟩

theorem Simulates.exec (h : Simulates abs services R) (hR : Related R m s) (as : List Action) :
    Related R (Runs.exec abs.step m as) (Runs.exec services.step s as) := by
  induction as generalizing m s with
  | nil => exact hR
  | cons a as ih => exact ih (h.step hR a)

/-- A back end that simulates a one-time store is one. -/
theorem OneTime.of_simulates (hone : OneTime abs) (h : Simulates abs services R) :
    OneTime services := by
  intro past ticket random
  have hstart : Related R abs.start services.start := ⟨rfl, h.empty⟩
  have hpast := h.exec hstart past
  obtain ⟨ticketId, m, hcreate, hlaw⟩ := hone past ticket random
  obtain ⟨m', s, habs, hservices, hR⟩ := h.createTicket hpast ticket random
  have hresult := habs.symm.trans hcreate
  simp only [EStateM.Result.ok.injEq] at hresult
  obtain ⟨hid, hm⟩ := hresult
  rw [hm] at hR
  rw [hid] at hservices
  refine ⟨ticketId, s, hservices, ?_⟩
  intro between hdrawn hspared hlimit
  rw [hR.1] at hdrawn
  rw [h.validity] at hlimit
  obtain ⟨hfirst, hlater⟩ := hlaw between hdrawn hspared hlimit
  have hbetween := h.exec hR between
  constructor
  · rw [(h.consumeTicket hbetween ticketId).1]
    exact hfirst
  · intro later hundrawn
    rw [hbetween.1] at hundrawn
    have hend := h.exec hR (between ++ .consumeTicket ticketId :: later)
    rw [(h.consumeTicket hend ticketId).1]
    exact hlater later hundrawn

end Simulation

section BackEnds

variable {β : Type} (transformer : ObjectTransformer β) (table : CasTicketTable)

theorem prefixed_injective (pre : String) : Function.Injective (pre ++ ·) := by
  intro a b h
  have hlist := congrArg String.toList h
  simp only [String.toList_append, List.append_cancel_left_eq] at hlist
  exact String.toList_injective hlist

/-- What a store of single rows does to what is found under an id. -/
structure SingleEntry {σ : Type} (services : TicketServices σ) : Prop where
  empty : ∀ ticketId, services.find ticketId services.empty = .ok none
  store : ∀ {s s' other ticket}, services.store other ticket s = .ok s' →
    ∀ {ticketId}, ticketId ≠ other → services.find ticketId s' = services.find ticketId s
  delete : ∀ ticketId found s, services.find ticketId (services.delete ticketId found s) = .ok none
  deleteOther : ∀ {ticketId other}, ticketId ≠ other → ∀ found s,
    services.find ticketId (services.delete other found s) = services.find ticketId s
  storeSelf : ∀ {s s' ticketId ticket}, services.store ticketId ticket s = .ok s' →
    services.find ticketId s' = .ok none ∨ services.find ticketId s' = .ok (some ticket)
  wait : ∀ ticketId seconds s, services.find ticketId (services.wait seconds s) = .ok none ∨
    services.find ticketId (services.wait seconds s) = services.find ticketId s

theorem singleEntry_cache (n : ℕ) : SingleEntry (cache n) where
  empty _ := rfl
  store hstore ticketId hne := by
    cases hstore
    exact congrArg Except.ok (ExpiringMap.get_put_of_ne hne)
  delete ticketId _ s := congrArg Except.ok (ExpiringMap.vacant_remove s ticketId).get
  deleteOther hne _ _ := congrArg Except.ok (ExpiringMap.get_remove_of_ne hne)
  storeSelf {s s' ticketId ticket} hstore := by
    cases hstore
    have hself := ExpiringMap.get_put_self s n ticketId ticket
    rcases hself with hnone | hsome
    · exact .inl (congrArg Except.ok hnone)
    · exact .inr (congrArg Except.ok hsome)
  wait ticketId seconds s := by
    rcases ExpiringMap.get_wait s ticketId seconds with hnone | hsame
    · exact .inl (congrArg Except.ok hnone)
    · exact .inr (congrArg Except.ok hsame)

theorem redis_find {β : Type} (transformer : ObjectTransformer β) (ticketId : String)
    (s : ExpiringMap String β) : (RedisTicketServices transformer).find ticketId s =
      (s.get (RedisTicketServices.PREFIX ++ ticketId)).elim (.ok none)
        fun value => some <$> transformer.deserialize value := by
  simp only [RedisTicketServices]
  split <;> simp [*]

theorem singleEntry_redis {β : Type} (transformer : ObjectTransformer β) :
    SingleEntry (RedisTicketServices transformer) where
  empty _ := rfl
  store hstore ticketId hne := by
    cases hstore
    have hkey := (prefixed_injective RedisTicketServices.PREFIX).ne hne
    rw [redis_find, redis_find, ExpiringMap.get_put_of_ne hkey]
  delete ticketId _ s := by
    have hvacant := ExpiringMap.vacant_remove s (RedisTicketServices.PREFIX ++ ticketId)
    rw [redis_find]
    exact congrArg (Option.elim · _ _) hvacant.get
  deleteOther hne _ s := by
    have hkey := (prefixed_injective RedisTicketServices.PREFIX).ne hne
    rw [redis_find, redis_find]
    exact congrArg (Option.elim · _ _) (ExpiringMap.get_remove_of_ne hkey)
  storeSelf {s s' ticketId ticket} hstore := by
    cases hstore
    have hself := ExpiringMap.get_put_self s RedisTicketServices.serviceTicketValiditySeconds
      (RedisTicketServices.PREFIX ++ ticketId) (transformer.serialize ticket)
    rw [redis_find]
    rcases hself with hnone | hsome
    · exact .inl (congrArg (Option.elim · _ _) hnone)
    · right
      rw [hsome, Option.elim_some, transformer.deserialize_serialize]
      rfl
  wait ticketId seconds s := by
    rw [redis_find, redis_find]
    rcases ExpiringMap.get_wait s (RedisTicketServices.PREFIX ++ ticketId) seconds with hnone | hsame
    · exact .inl (congrArg (Option.elim · _ _) hnone)
    · exact .inr (congrArg (Option.elim · _ _) hsame)

/-- Redis holds the entries of the abstract store under keys and in texts of its own. -/
theorem simulates_redis :
    Simulates (cache RedisTicketServices.serviceTicketValiditySeconds)
      (RedisTicketServices transformer)
      (ExpiringMap.Embeds (RedisTicketServices.PREFIX ++ ·) transformer.serialize) where
  validity := rfl
  empty := ExpiringMap.embeds_empty _ _
  store hR ticketId ticket :=
    ⟨_, _, rfl, rfl, hR.put (prefixed_injective _) _ ticketId ticket⟩
  find := by
    intro m s hR ticketId
    have hget := hR.get ticketId
    simp only [RedisTicketServices, cache]
    cases h : m.get ticketId with
    | none => simp only [hget, h, Option.map_none]
    | some ticket =>
      simp only [hget, h, Option.map_some, transformer.deserialize_serialize]
      rfl
  delete hR ticketId _ := hR.remove (prefixed_injective _) ticketId
  wait hR seconds := hR.wait seconds

/-- The rows of the table have no id, so that a query by an id finds nothing. -/
theorem jdbc_find {rows : List (CasTicketRow β)} (h : ∀ row ∈ rows, row.id = none)
    (ticketId : String) : (JdbcTicketServices transformer table).find ticketId rows = .ok none := by
  have hfilter : rows.filter (·.id = some ticketId) = [] := by
    rw [List.filter_eq_nil_iff]
    intro row hrow
    simp [h row hrow]
  simp only [JdbcTicketServices, hfilter]

theorem jdbc_step {s : State (List (CasTicketRow β))} (h : ∀ row ∈ s.tickets, row.id = none)
    (a : Action) :
    ∀ row ∈ ((JdbcTicketServices transformer table).step s a).tickets, row.id = none := by
  cases a with
  | createTicket ticket random =>
    cases hstore : (JdbcTicketServices transformer table).store (drawId ticket s.count random) ticket
        s.tickets with
    | error e =>
      simp only [TicketServices.step, final_of_error (createTicket_of_error hstore)]
      exact h
    | ok rows =>
      simp only [TicketServices.step, final_of_ok (createTicket_of_ok hstore)]
      simp only [JdbcTicketServices] at hstore
      split_ifs at hstore
      cases hstore
      intro row hrow
      rcases List.mem_append.mp hrow with hold | hnew
      · exact h row hold
      · rw [List.mem_singleton.mp hnew]
        rfl
  | consumeTicket ticketId =>
    have hfind := jdbc_find transformer table h ticketId
    simp only [TicketServices.step, final_of_error (consumeTicket_of_none hfind)]
    exact h
  | wait seconds => exact h

/-- No call over the table ever returns a ticket. -/
theorem jdbc_refuses (as : List Action) (ticketId : String) :
    outcome ((JdbcTicketServices transformer table).consumeTicket ticketId)
      ((JdbcTicketServices transformer table).run as) =
        .error (TicketServices.invalidCode ticketId) := by
  have hrows : ∀ row ∈ ((JdbcTicketServices transformer table).run as).tickets, row.id = none := by
    refine exec_induction (I := fun s : State (List (CasTicketRow β)) =>
      ∀ row ∈ s.tickets, row.id = none) ?_ ?_ as
    · intro s a h
      exact jdbc_step transformer table h a
    · intro row hrow
      exact absurd hrow List.not_mem_nil
  have hfind := jdbc_find transformer table hrows ticketId
  simp only [outcome, consumeTicket_of_none hfind]

/-- The caches and Redis are one-time stores, and the table is none. -/
theorem oneTime_iff (b : BackEnd β) : OneTime b.services ↔ b.isJdbc = false := by
  cases b with
  | inMemory => exact iff_of_true (oneTime_cache 60) rfl
  | redis transformer =>
    have hsimulates := simulates_redis transformer
    exact iff_of_true ((oneTime_cache _).of_simulates hsimulates) rfl
  | jdbc transformer table =>
    refine iff_of_false ?_ nofun
    intro hone
    obtain ⟨ticketId, s, hcreate, hlaw⟩ := hone [] Ticket.proxyTicketImpl []
    have hreturns := (hlaw [] List.not_mem_nil List.not_mem_nil nofun).1
    have hs : (JdbcTicketServices transformer table).run
        [.createTicket Ticket.proxyTicketImpl []] = s := final_of_ok hcreate
    have hrefuses := jdbc_refuses transformer table [.createTicket Ticket.proxyTicketImpl []] ticketId
    rw [hs] at hrefuses
    exact absurd (hrefuses.symm.trans hreturns) nofun

/-- Tickets as they are, for examples. -/
def unchanged : ObjectTransformer Ticket := ⟨id, .ok, fun _ => rfl⟩

/-- A table whose ID may be null takes the ticket and does not find it again. -/
theorem jdbc_not_oneTime :
    let services := JdbcTicketServices unchanged ⟨true, fun _ => none⟩
    let create := services.createTicket Ticket.proxyTicketImpl []
    outcome create services.start = .ok "PT-1-" ∧
      outcome (services.consumeTicket "PT-1-") (final create services.start) =
        .error (exception "Invalid authorization code: PT-1-") := by
  decide

end BackEnds

end MaxKey.CasTickets
