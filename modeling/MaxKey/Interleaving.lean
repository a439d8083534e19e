import MaxKey.Runs
import Mathlib.Data.List.Basic
import Mathlib.Data.Nat.Notation
import Mathlib.Tactic.SplitIfs

namespace Interleaving

variable {ρ σ τ α : Type}

/-- A shared variable that remembers which thread wrote it last. -/
structure Cell (α : Type) where
  value : α
  writer : Option ℕ := none
  deriving DecidableEq

def Cell.write (k : ℕ) (a : α) : Cell α := ⟨a, some k⟩

/-- The cell is as before, or the thread of the number wrote it last. -/
def Cell.Touched (k : ℕ) (c c' : Cell α) : Prop := c' = c ∨ c'.writer = some k

theorem Cell.touched_refl (k : ℕ) (c : Cell α) : c.Touched k c := .inl rfl

theorem Cell.touched_write (k : ℕ) (c : Cell α) (a : α) : c.Touched k (.write k a) := .inr rfl

/-- What holds of a value while a thread is its writer survives what the others write. -/
theorem Cell.Touched.value {k j : ℕ} {c c' : Cell α} {P : α → Prop} (h : c.Touched k c')
    (hj : j ≠ k) (hc : c.writer = some j → P c.value) (hwriter : c'.writer = some j) :
    P c'.value := by
  rcases h with hsame | hwritten
  · rw [hsame] at hwriter ⊢
    exact hc hwriter
  · rw [hwritten] at hwriter
    exact absurd (Option.some.inj hwriter).symm hj

/-- No other thread becomes the writer. -/
theorem Cell.Touched.writer_ne {k j : ℕ} {c c' : Cell α} (h : c.Touched k c') (hj : j ≠ k)
    (hc : c.writer ≠ some j) : c'.writer ≠ some j := by
  rcases h with hsame | hwritten
  · rw [hsame]
    exact hc
  · rw [hwritten]
    intro heq
    exact hj (Option.some.inj heq).symm

/-- What a thread does for a request: where it begins, and one step of the thread of a number. -/
structure Program (ρ τ σ : Type) where
  begin : ρ → τ
  next : ℕ → τ → σ → τ × σ

/-- The shared state, and the threads in the order in which they began. -/
structure Config (σ τ : Type) where
  shared : σ
  threads : List τ := []

inductive Move (ρ : Type)
  | start (request : ρ)
  | advance (k : ℕ)

namespace Program

def move (p : Program ρ τ σ) (c : Config σ τ) : Move ρ → Config σ τ
  | .start request => { c with threads := c.threads ++ [p.begin request] }
  | .advance k =>
    match c.threads[k]? with
    | none => c
    | some t => ⟨(p.next k t c.shared).2, c.threads.set k (p.next k t c.shared).1⟩

theorem move_advance_of_some {p : Program ρ τ σ} {c : Config σ τ} {k : ℕ} {t : τ}
    (h : c.threads[k]? = some t) :
    p.move c (.advance k) = ⟨(p.next k t c.shared).2, c.threads.set k (p.next k t c.shared).1⟩ := by
  simp only [move, h]

theorem move_advance_of_none {p : Program ρ τ σ} {c : Config σ τ} {k : ℕ}
    (h : c.threads[k]? = none) : p.move c (.advance k) = c := by
  simp only [move, h]

/-- After a start: the threads of before, and the new one at the end. -/
theorem getElem?_move_start {p : Program ρ τ σ} {c : Config σ τ} {request : ρ} {k : ℕ} {t : τ} :
    (p.move c (.start request)).threads[k]? = some t ↔
      c.threads[k]? = some t ∨ k = c.threads.length ∧ t = p.begin request := by
  rw [move, List.getElem?_append]
  split_ifs with hlt
  · have hne : k ≠ c.threads.length := by omega
    simp [hne]
  · have hnone : c.threads[k]? = none := List.getElem?_eq_none (by omega)
    rw [hnone, List.getElem?_singleton]
    split_ifs with hzero
    · have hlast : k = c.threads.length := by omega
      simp [hlast, eq_comm]
    · have hne : k ≠ c.threads.length := by omega
      simp [hne]

/-- After a step: the thread that has moved, and the others as before. -/
theorem getElem?_move_advance {p : Program ρ τ σ} {c : Config σ τ} {k j : ℕ} {t u : τ}
    (h : c.threads[k]? = some t) :
    (p.move c (.advance k)).threads[j]? = some u ↔
      j = k ∧ u = (p.next k t c.shared).1 ∨ j ≠ k ∧ c.threads[j]? = some u := by
  have hlt := (List.getElem?_eq_some_iff.mp h).1
  rw [move_advance_of_some h]
  by_cases hjk : j = k
  · rw [hjk, List.getElem?_set_self hlt]
    simp [eq_comm]
  · rw [List.getElem?_set_ne (Ne.symm hjk)]
    simp [hjk]

/-- The thread that is to move meets its condition. -/
def Guarded (own : ℕ → τ → σ → Prop) (c : Config σ τ) : Move ρ → Prop
  | .start _ => True
  | .advance k => ∀ t ∈ c.threads[k]?, own k t c.shared

instance (own : ℕ → τ → σ → Prop) [h : ∀ k t s, Decidable (own k t s)] (c : Config σ τ) :
    DecidablePred (Guarded (ρ := ρ) own c)
  | .start _ => isTrue trivial
  | .advance k => inferInstanceAs (Decidable (∀ t ∈ c.threads[k]?, own k t c.shared))

/-- A proof outline holds: what `G` says of the number of threads and the shared state, and
what `L` says of each thread where it stands. -/
structure Outline (G : ℕ → σ → Prop) (L : ℕ → τ → σ → Prop) (c : Config σ τ) : Prop where
  shared : G c.threads.length c.shared
  thread : ∀ k t, c.threads[k]? = some t → L k t c.shared

variable {p : Program ρ τ σ} {own : ℕ → τ → σ → Prop} {G : ℕ → σ → Prop} {L : ℕ → τ → σ → Prop}

/-- An outline whose assertions are free of interference is kept by every guarded move: a new
thread finds its first assertion true, a step leads from one assertion to the next, and no
step disturbs the assertion of another thread. -/
theorem outline_move
    (starts : ∀ n request s, G n s → G (n + 1) s ∧ L n (p.begin request) s)
    (steps : ∀ n k t s, k < n → own k t s → G n s → L k t s →
      G n (p.next k t s).2 ∧ L k (p.next k t s).1 (p.next k t s).2)
    (undisturbed : ∀ k t j u s, j ≠ k → L j u s → L j u (p.next k t s).2)
    (c : Config σ τ) (m : Move ρ) (hm : Guarded own c m) (h : Outline G L c) :
    Outline G L (p.move c m) := by
  cases m with
  | start request =>
    obtain ⟨hshared, hnew⟩ := starts c.threads.length request c.shared h.shared
    refine ⟨by simpa only [move, List.length_append, List.length_singleton] using hshared, ?_⟩
    intro k t hk
    rcases getElem?_move_start.mp hk with hold | ⟨hlast, hbegin⟩
    · exact h.thread k t hold
    · rw [hlast, hbegin]
      exact hnew
  | advance k =>
    cases hk : c.threads[k]? with
    | none =>
      rw [move_advance_of_none hk]
      exact h
    | some t =>
      have hlt := (List.getElem?_eq_some_iff.mp hk).1
      have hown := hm t hk
      obtain ⟨hshared, hthread⟩ := steps _ k t c.shared hlt hown h.shared (h.thread k t hk)
      constructor
      · rw [move_advance_of_some hk]
        simpa only [List.length_set] using hshared
      · intro j u hj
        rw [show (p.move c (.advance k)).shared = (p.next k t c.shared).2 by
          rw [move_advance_of_some hk]]
        rcases (getElem?_move_advance hk).mp hj with ⟨hself, hnext⟩ | ⟨hother, hold⟩
        · rw [hself, hnext]
          exact hthread
        · exact undisturbed k t j u c.shared hother (h.thread j u hold)

end Program

end Interleaving
