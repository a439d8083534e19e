import MaxKey.Interleaving
import Mathlib.Data.Int.Notation

namespace SnapshotCounters
open Interleaving

variable {ρ σ τ : Type}

/-- How far a thread has come that takes a snapshot of a counter, compares it with a limit and
writes the snapshot plus one. -/
inductive Phase
  | begun
  | read (n : ℤ)
  | passed (n : ℤ)
  | written
  | stopped
  deriving DecidableEq

namespace Phase

def isPassed : Phase → Bool
  | passed _ => true
  | _ => false

def isWritten : Phase → Bool
  | written => true
  | _ => false

end Phase

/-- What one step makes of a thread's phase and of the counter. -/
inductive Follows (limit : ℤ) : Phase → ℤ → Phase → ℤ → Prop
  | read (count : ℤ) : Follows limit .begun count (.read count) count
  | pass (n count : ℤ) (h : n < limit) : Follows limit (.read n) count (.passed n) count
  | write (n count : ℤ) : Follows limit (.passed n) count .written (n + 1)
  | stop (phase : Phase) (count : ℤ) (h : phase.isPassed = false) (h' : phase.isWritten = false) :
      Follows limit phase count .stopped count
  | stay (phase : Phase) (count : ℤ) : Follows limit phase count phase count

/-- The threads of a program work on a counter in this way, as long as `L` holds of each thread and
`G` of the shared state. -/
structure Counts (p : Program ρ τ σ) (phase : τ → Phase) (count : σ → ℤ) (limit : ℤ)
    (G : σ → Prop) (L : τ → Prop) : Prop where
  shared : ∀ k t s, G s → L t → G (p.next k t s).2
  thread : ∀ k t s, G s → L t → L (p.next k t s).1
  follows : ∀ k t s, G s → L t →
    Follows limit (phase t) (count s) (phase (p.next k t s).1) (count (p.next k t s).2)

/-- A thread starts in its first phase; and when one passes the limit, its snapshot is still the
count and no other thread has passed and not written yet. -/
def Exclusive (p : Program ρ τ σ) (phase : τ → Phase) (count : σ → ℤ) (L : τ → Prop)
    (c : Config σ τ) : Move ρ → Prop
  | .start request => L (p.begin request) ∧ phase (p.begin request) = .begun
  | .advance k => ∀ t ∈ c.threads[k]?, ∀ n, phase t = .read n →
      phase (p.next k t c.shared).1 = .passed n →
        count c.shared = n ∧ ∀ u ∈ c.threads, (phase u).isPassed = false

/-- The counter has what the threads have written since it stood at `start`; one thread at most has
passed and not written yet, with the present count; and what has been let through stays within the
limit. -/
structure Exact (phase : τ → Phase) (count : σ → ℤ) (limit start : ℤ) (c : Config σ τ) : Prop where
  count_eq : count c.shared = start + c.threads.countP fun t => (phase t).isWritten
  passed_le : (c.threads.countP fun t => (phase t).isPassed) ≤ 1
  passed_eq : ∀ t ∈ c.threads, ∀ n, phase t = .passed n → n = count c.shared
  limited : start + c.threads.countP (fun t => (phase t).isWritten) +
    c.threads.countP (fun t => (phase t).isPassed) ≤ max start limit

theorem Follows.cases {limit count count' : ℤ} {phase phase' : Phase}
    (h : Follows limit phase count phase' count') :
    (count' = count ∧ phase'.isWritten = phase.isWritten ∧ phase'.isPassed = phase.isPassed ∧
      ∀ n, phase' = .passed n → phase = .passed n) ∨
    (∃ n < limit, phase = .read n ∧ phase' = .passed n ∧ count' = count) ∨
    ∃ n, phase = .passed n ∧ phase' = .written ∧ count' = n + 1 := by
  cases h with
  | read => exact .inl ⟨rfl, rfl, rfl, by simp⟩
  | pass n _ hn => exact .inr (.inl ⟨n, hn, rfl, rfl, rfl⟩)
  | write n => exact .inr (.inr ⟨n, rfl, rfl, rfl⟩)
  | stop _ _ hpassed hwritten => exact .inl ⟨rfl, hwritten.symm, hpassed.symm, by simp⟩
  | stay => exact .inl ⟨rfl, rfl, rfl, fun _ h => h⟩

variable {p : Program ρ τ σ} {phase : τ → Phase} {count : σ → ℤ} {limit start : ℤ}
  {G : σ → Prop} {L : τ → Prop} {c : Config σ τ}

theorem exact_nil {s : σ} : Exact phase count limit (count s) ⟨s, []⟩ where
  count_eq := by simp
  passed_le := by simp
  passed_eq _ ht := by simp at ht
  limited := by
    simp only [List.countP_nil]
    omega

/-- A thread that starts has neither passed nor written. -/
theorem exact_start {request : ρ} (h : Exact phase count limit start c)
    (hbegun : phase (p.begin request) = .begun) :
    Exact phase count limit start (p.move c (.start request)) := by
  have hshared : (p.move c (.start request)).shared = c.shared := rfl
  have hcount : ∀ q : Phase → Bool, q .begun = false →
      (p.move c (.start request)).threads.countP (fun t => q (phase t)) =
        c.threads.countP fun t => q (phase t) := by
    intro q hq
    simp [Program.move, hbegun, hq]
  have hwritten := hcount Phase.isWritten rfl
  have hpassed := hcount Phase.isPassed rfl
  constructor
  · rw [hshared, hwritten]
    exact h.count_eq
  · rw [hpassed]
    exact h.passed_le
  · intro t ht n hn
    rcases List.mem_append.mp ht with hold | hnew
    · exact h.passed_eq t hold n hn
    · rw [List.mem_singleton.mp hnew, hbegun] at hn
      cases hn
  · rw [hwritten, hpassed]
    exact h.limited

/-- What the step of one thread does to a number of threads. -/
theorem countP_advance (p : Program ρ τ σ) (phase : τ → Phase) {k : ℕ} {t : τ}
    (hk : c.threads[k]? = some t) (q : Phase → Bool) :
    (p.move c (.advance k)).threads.countP (fun t => q (phase t)) +
        (if q (phase t) then 1 else 0) =
      c.threads.countP (fun t => q (phase t)) +
        if q (phase (p.next k t c.shared).1) then 1 else 0 := by
  obtain ⟨hlt, hget⟩ := List.getElem?_eq_some_iff.mp hk
  have hset := List.countP_set (p := fun t => q (phase t)) (a := (p.next k t c.shared).1) hlt
  rw [Program.move_advance_of_some hk, hset, hget]
  have hpos : q (phase t) = true → 0 < c.threads.countP fun t => q (phase t) := by
    intro hq
    exact List.countP_pos_iff.mpr ⟨t, List.mem_of_getElem? hk, hq⟩
  split_ifs with hbefore hafter hafter
  · have := hpos hbefore
    omega
  · have := hpos hbefore
    omega
  · omega
  · omega

section Advance

variable {k : ℕ} {t : τ} (hk : c.threads[k]? = some t)
include hk

theorem shared_advance (p : Program ρ τ σ) :
    (p.move c (.advance k)).shared = (p.next k t c.shared).2 := by
  rw [Program.move_advance_of_some hk]

theorem mem_advance {u : τ} (hu : u ∈ (p.move c (.advance k)).threads) :
    u ∈ c.threads ∨ u = (p.next k t c.shared).1 := by
  rw [Program.move_advance_of_some hk] at hu
  exact List.mem_or_eq_of_mem_set hu

/-- A step that lets nothing through and writes nothing. -/
theorem exact_kept (h : Exact phase count limit start c)
    (hsame : count (p.next k t c.shared).2 = count c.shared)
    (hw : (phase (p.next k t c.shared).1).isWritten = (phase t).isWritten)
    (hq : (phase (p.next k t c.shared).1).isPassed = (phase t).isPassed)
    (hkeeps : ∀ n, phase (p.next k t c.shared).1 = .passed n → phase t = .passed n) :
    Exact phase count limit start (p.move c (.advance k)) := by
  have hwritten := countP_advance p phase hk Phase.isWritten
  have hpassed := countP_advance p phase hk Phase.isPassed
  rw [hw] at hwritten
  rw [hq] at hpassed
  obtain ⟨hcount, hle, hcurrent, hlimited⟩ := h
  constructor
  · rw [shared_advance hk, hsame]
    omega
  · omega
  · intro u hu m hm
    rw [shared_advance hk, hsame]
    rcases mem_advance hk hu with hold | hnew
    · exact hcurrent u hold m hm
    · rw [hnew] at hm
      exact hcurrent t (List.mem_of_getElem? hk) m (hkeeps m hm)
  · omega

/-- A thread that is let through, alone and with the present count. -/
theorem exact_passed (h : Exact phase count limit start c) {n : ℤ} (hn : n < limit)
    (hread : phase t = .read n) (hpass : phase (p.next k t c.shared).1 = .passed n)
    (hsame : count (p.next k t c.shared).2 = count c.shared) (hpresent : count c.shared = n)
    (halone : ∀ u ∈ c.threads, (phase u).isPassed = false) :
    Exact phase count limit start (p.move c (.advance k)) := by
  have hwritten := countP_advance p phase hk Phase.isWritten
  have hpassed := countP_advance p phase hk Phase.isPassed
  have hnone : c.threads.countP (fun t => (phase t).isPassed) = 0 := by
    rw [List.countP_eq_zero]
    intro u hu
    simp [halone u hu]
  rw [hread, hpass] at hwritten hpassed
  change _ + 0 = _ + 0 at hwritten
  change _ + 0 = _ + 1 at hpassed
  obtain ⟨hcount, hle, hcurrent, hlimited⟩ := h
  constructor
  · rw [shared_advance hk, hsame]
    omega
  · omega
  · intro u hu m hm
    rw [shared_advance hk, hsame]
    rcases mem_advance hk hu with hold | hnew
    · have hfalse := halone u hold
      rw [hm] at hfalse
      cases hfalse
    · rw [hnew, hpass] at hm
      cases hm
      exact hpresent.symm
  · omega

/-- A thread that writes: none is left that has passed. -/
theorem exact_written (h : Exact phase count limit start c) {n : ℤ} (hpass : phase t = .passed n)
    (hwrite : phase (p.next k t c.shared).1 = .written)
    (hnext : count (p.next k t c.shared).2 = n + 1) :
    Exact phase count limit start (p.move c (.advance k)) := by
  have hwritten := countP_advance p phase hk Phase.isWritten
  have hpassed := countP_advance p phase hk Phase.isPassed
  obtain ⟨hcount, hle, hcurrent, hlimited⟩ := h
  have hpresent := hcurrent t (List.mem_of_getElem? hk) n hpass
  rw [hpass, hwrite] at hwritten hpassed
  change _ + 0 = _ + 1 at hwritten
  change _ + 1 = _ + 0 at hpassed
  have hnone : (p.move c (.advance k)).threads.countP (fun t => (phase t).isPassed) = 0 := by
    omega
  constructor
  · rw [shared_advance hk, hnext]
    omega
  · omega
  · intro u hu m hm
    have hfalse := List.countP_eq_zero.mp hnone u hu
    simp [hm, Phase.isPassed] at hfalse
  · omega

end Advance

theorem exact_advance (hp : Counts p phase count limit G L) {k : ℕ}
    (hmove : Exclusive p phase count L c (.advance k)) (hG : G c.shared)
    (hL : ∀ t ∈ c.threads, L t) (h : Exact phase count limit start c) :
    Exact phase count limit start (p.move c (.advance k)) := by
  cases hk : c.threads[k]? with
  | none =>
    rw [Program.move_advance_of_none hk]
    exact h
  | some t =>
    have ht := List.mem_of_getElem? hk
    rcases (hp.follows k t c.shared hG (hL t ht)).cases with
      ⟨hsame, hw, hq, hkeeps⟩ | ⟨n, hn, hread, hpass, hsame⟩ | ⟨n, hpass, hwrite, hnext⟩
    · exact exact_kept hk h hsame hw hq hkeeps
    · obtain ⟨hpresent, halone⟩ := hmove t hk n hread hpass
      exact exact_passed hk h hn hread hpass hsame hpresent halone
    · exact exact_written hk h hpass hwrite hnext

/-- All that the invariant of a run says. -/
structure Holds (phase : τ → Phase) (count : σ → ℤ) (limit start : ℤ) (G : σ → Prop) (L : τ → Prop)
    (c : Config σ τ) : Prop where
  shared : G c.shared
  threads : ∀ t ∈ c.threads, L t
  exact : Exact phase count limit start c

theorem holds_move (hp : Counts p phase count limit G L) (c : Config σ τ) (m : Move ρ)
    (hm : Exclusive p phase count L c m) (h : Holds phase count limit start G L c) :
    Holds phase count limit start G L (p.move c m) := by
  cases m with
  | start request =>
    refine ⟨h.shared, ?_, exact_start h.exact hm.2⟩
    intro t ht
    rcases List.mem_append.mp ht with hold | hnew
    · exact h.threads t hold
    · rw [List.mem_singleton.mp hnew]
      exact hm.1
  | advance k =>
    refine ⟨?_, ?_, exact_advance hp hm h.shared h.threads h.exact⟩
    · cases hk : c.threads[k]? with
      | none =>
        rw [Program.move_advance_of_none hk]
        exact h.shared
      | some t =>
        rw [Program.move_advance_of_some hk]
        exact hp.shared k t c.shared h.shared (h.threads t (List.mem_of_getElem? hk))
    · cases hk : c.threads[k]? with
      | none =>
        rw [Program.move_advance_of_none hk]
        exact h.threads
      | some t =>
        rw [Program.move_advance_of_some hk]
        intro u hu
        rcases List.mem_or_eq_of_mem_set hu with hold | hnew
        · exact h.threads u hold
        · rw [hnew]
          exact hp.thread k t c.shared h.shared (h.threads t (List.mem_of_getElem? hk))

/-- No write is lost, and no more threads are let through than the limit allows, along every run in
which a thread passes the limit alone and with a fresh snapshot. -/
theorem exact_of_exclusive (hp : Counts p phase count limit G L) {s : σ} (hs : G s)
    {moves : List (Move ρ)} (h : Runs.Meets p.move (Exclusive p phase count L) ⟨s, []⟩ moves) :
    Exact phase count limit (count s) (Runs.exec p.move ⟨s, []⟩ moves) := by
  have hstart : Holds phase count limit (count s) G L ⟨s, []⟩ := ⟨hs, by simp, exact_nil⟩
  exact (Runs.exec_invariant (I := Holds phase count limit (count s) G L)
    (fun c m hm hc => holds_move hp c m hm hc) h hstart).exact

end SnapshotCounters
