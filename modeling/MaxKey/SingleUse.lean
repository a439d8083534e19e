import MaxKey.Interleaving

namespace SingleUse
open Interleaving

variable {ρ σ τ : Type}

/-- The parts that threads play for one resource: the thread that draws it has stored it later
on, and a thread that has taken it holds it and is done with it in the end. `Kept` says that
the store has it. -/
structure Roles (σ τ : Type) where
  Draws : τ → Prop
  Stored : τ → Prop
  Holds : τ → Prop
  Done : τ → Prop
  Kept : σ → Prop
  draws_of_stored : ∀ t, Stored t → Draws t
  holds_of_done : ∀ t, Done t → Holds t

/-- The resource is drawn by one thread at most, what is kept or held has been stored, and
at most one thread holds it; when that one is done, the store has it no longer. -/
structure Sole (r : Roles σ τ) (c : Config σ τ) : Prop where
  drawn : ∀ (j k : ℕ) t u, c.threads[j]? = some t → c.threads[k]? = some u →
    r.Draws t → r.Draws u → j = k
  kept : r.Kept c.shared → ∃ (k : ℕ) (t : τ), c.threads[k]? = some t ∧ r.Stored t
  held : ∀ (k : ℕ) t, c.threads[k]? = some t → r.Holds t →
    ∃ (j : ℕ) (u : τ), c.threads[j]? = some u ∧ r.Stored u
  once : ∀ (j k : ℕ) t u, c.threads[j]? = some t → c.threads[k]? = some u →
    r.Holds t → r.Holds u → j = k
  gone : ∀ (k : ℕ) t, c.threads[k]? = some t → r.Done t → ¬r.Kept c.shared

/-- A step that keeps the resource for one user: it is drawn once, comes into the store from the
thread that has drawn it, and is taken while it is kept and no thread is on its way with it. -/
structure Allowed (r : Roles σ τ) (c : Config σ τ) (t t' : τ) (s' : σ) : Prop where
  draws : r.Draws t' → r.Draws t ∨ ∀ u ∈ c.threads, ¬r.Draws u
  stays : r.Stored t → r.Stored t'
  kept : r.Kept s' → r.Kept c.shared ∨ r.Draws t ∧ ¬r.Stored t ∧ r.Stored t'
  holds : r.Holds t' → r.Holds t ∨ r.Kept c.shared ∧ ∀ u ∈ c.threads, r.Holds u → r.Done u
  gone : r.Done t' → ¬r.Kept s'

variable {r : Roles σ τ} {p : Program ρ τ σ} {c : Config σ τ} {k : ℕ} {t : τ}

theorem sole_nil {s : σ} (h : ¬r.Kept s) : Sole r ⟨s, []⟩ where
  drawn _ _ _ _ hj := by simp at hj
  kept hkept := absurd hkept h
  held _ _ hj := by simp at hj
  once _ _ _ _ hj := by simp at hj
  gone _ _ hj := by simp at hj

/-- What is kept is on its way with nobody who is done with it. -/
theorem Sole.free (h : Sole r c) (hkept : r.Kept c.shared)
    (hdone : ∀ u ∈ c.threads, r.Holds u → r.Done u) {j : ℕ} {u : τ} (hj : c.threads[j]? = some u) :
    ¬r.Holds u := by
  intro hholds
  have hu := hdone u (List.mem_of_getElem? hj) hholds
  exact h.gone j u hj hu hkept

/-- While the thread that has drawn it has not stored it, nobody holds it. -/
theorem Sole.unheld (h : Sole r c) (hk : c.threads[k]? = some t) (hdraws : r.Draws t)
    (hstored : ¬r.Stored t) {j : ℕ} {u : τ} (hj : c.threads[j]? = some u) : ¬r.Holds u := by
  intro hholds
  obtain ⟨i, v, hi, hv⟩ := h.held j u hj hholds
  have hik := h.drawn i k v t hi hk (r.draws_of_stored v hv) hdraws
  rw [hik, hk] at hi
  rw [Option.some.inj hi] at hstored
  exact hstored hv

theorem sole_start (h : Sole r c) (request : ρ)
    (hdraws : r.Draws (p.begin request) → ∀ u ∈ c.threads, ¬r.Draws u)
    (hholds : ¬r.Holds (p.begin request)) : Sole r (p.move c (.start request)) := by
  have hthreads : ∀ (j : ℕ) u, (p.move c (.start request)).threads[j]? = some u →
      c.threads[j]? = some u ∨ j = c.threads.length ∧ u = p.begin request :=
    fun j u => Program.getElem?_move_start.mp
  have hstays : ∀ (j : ℕ) u, c.threads[j]? = some u →
      (p.move c (.start request)).threads[j]? = some u :=
    fun j u hj => Program.getElem?_move_start.mpr (.inl hj)
  -- a thread that holds the resource is not the new one
  have hold : ∀ (j : ℕ) u, (p.move c (.start request)).threads[j]? = some u → r.Holds u →
      c.threads[j]? = some u := by
    intro j u hj hu
    rcases hthreads j u hj with hj | ⟨-, hnew⟩
    · exact hj
    · rw [hnew] at hu
      exact absurd hu hholds
  constructor
  · intro j k t u hj hk ht hu
    rcases hthreads j t hj with hj | ⟨hj, hnew⟩
    · rcases hthreads k u hk with hk | ⟨-, hnew⟩
      · exact h.drawn j k t u hj hk ht hu
      · rw [hnew] at hu
        exact absurd ht (hdraws hu t (List.mem_of_getElem? hj))
    · rcases hthreads k u hk with hk | ⟨hk, -⟩
      · rw [hnew] at ht
        exact absurd hu (hdraws ht u (List.mem_of_getElem? hk))
      · exact hj.trans hk.symm
  · intro hkept
    obtain ⟨k, t, hk, ht⟩ := h.kept hkept
    exact ⟨k, t, hstays k t hk, ht⟩
  · intro k t hk ht
    obtain ⟨j, u, hj, hu⟩ := h.held k t (hold k t hk ht) ht
    exact ⟨j, u, hstays j u hj, hu⟩
  · intro j k t u hj hk ht hu
    exact h.once j k t u (hold j t hj ht) (hold k u hk hu) ht hu
  · intro k t hk ht
    exact h.gone k t (hold k t hk (r.holds_of_done t ht)) ht

theorem sole_advance (h : Sole r c) (hk : c.threads[k]? = some t)
    (hstep : Allowed r c t (p.next k t c.shared).1 (p.next k t c.shared).2) :
    Sole r (p.move c (.advance k)) := by
  have hthreads : ∀ (j : ℕ) u, (p.move c (.advance k)).threads[j]? = some u ↔
      j = k ∧ u = (p.next k t c.shared).1 ∨ j ≠ k ∧ c.threads[j]? = some u :=
    fun j u => Program.getElem?_move_advance hk
  have hshared : (p.move c (.advance k)).shared = (p.next k t c.shared).2 := by
    rw [Program.move_advance_of_some hk]
  generalize p.move c (.advance k) = c' at hthreads hshared
  generalize (p.next k t c.shared).1 = t' at hthreads hstep
  rw [← hshared] at hstep
  -- a stored resource stays stored, by the same thread
  have hstays : (∃ (j : ℕ) (u : τ), c.threads[j]? = some u ∧ r.Stored u) →
      ∃ (j : ℕ) (u : τ), c'.threads[j]? = some u ∧ r.Stored u := by
    intro ⟨j, u, hj, hu⟩
    by_cases hjk : j = k
    · rw [hjk, hk] at hj
      rw [← Option.some.inj hj] at hu
      exact ⟨k, t', (hthreads k t').mpr (.inl ⟨rfl, rfl⟩), hstep.stays hu⟩
    · exact ⟨j, u, (hthreads j u).mpr (.inr ⟨hjk, hj⟩), hu⟩
  constructor
  · intro i j u v hi hj hu hv
    rcases (hthreads i u).mp hi with ⟨hik, hnewi⟩ | ⟨hik, holdi⟩
    · rcases (hthreads j v).mp hj with ⟨hjk, -⟩ | ⟨-, holdj⟩
      · exact hik.trans hjk.symm
      · rw [hnewi] at hu
        rcases hstep.draws hu with ht | hnone
        · exact hik.trans (h.drawn k j t v hk holdj ht hv)
        · exact absurd hv (hnone v (List.mem_of_getElem? holdj))
    · rcases (hthreads j v).mp hj with ⟨hjk, hnewj⟩ | ⟨-, holdj⟩
      · rw [hnewj] at hv
        rcases hstep.draws hv with ht | hnone
        · exact (h.drawn i k u t holdi hk hu ht).trans hjk.symm
        · exact absurd hu (hnone u (List.mem_of_getElem? holdi))
      · exact h.drawn i j u v holdi holdj hu hv
  · intro hkept
    rcases hstep.kept hkept with hbefore | ⟨-, -, hstored⟩
    · exact hstays (h.kept hbefore)
    · exact ⟨k, t', (hthreads k t').mpr (.inl ⟨rfl, rfl⟩), hstored⟩
  · intro j u hj hu
    rcases (hthreads j u).mp hj with ⟨-, hnew⟩ | ⟨-, hold⟩
    · rw [hnew] at hu
      rcases hstep.holds hu with ht | ⟨hkept, -⟩
      · exact hstays (h.held k t hk ht)
      · exact hstays (h.kept hkept)
    · exact hstays (h.held j u hold hu)
  · intro i j u v hi hj hu hv
    rcases (hthreads i u).mp hi with ⟨hik, hnewi⟩ | ⟨hik, holdi⟩
    · rcases (hthreads j v).mp hj with ⟨hjk, -⟩ | ⟨-, holdj⟩
      · exact hik.trans hjk.symm
      · rw [hnewi] at hu
        rcases hstep.holds hu with ht | ⟨hkept, hdone⟩
        · exact hik.trans (h.once k j t v hk holdj ht hv)
        · exact absurd hv (h.free hkept hdone holdj)
    · rcases (hthreads j v).mp hj with ⟨hjk, hnewj⟩ | ⟨-, holdj⟩
      · rw [hnewj] at hv
        rcases hstep.holds hv with ht | ⟨hkept, hdone⟩
        · exact (h.once i k u t holdi hk hu ht).trans hjk.symm
        · exact absurd hu (h.free hkept hdone holdi)
      · exact h.once i j u v holdi holdj hu hv
  · intro j u hj hu hkept
    rcases (hthreads j u).mp hj with ⟨-, hnew⟩ | ⟨-, hold⟩
    · rw [hnew] at hu
      exact hstep.gone hu hkept
    · rcases hstep.kept hkept with hbefore | ⟨hdraws, hstored, -⟩
      · exact h.gone j u hold hu hbefore
      · exact h.unheld hk hdraws hstored hold (r.holds_of_done u hu)

end SingleUse
