import Mathlib.Data.List.Induction

namespace Runs

variable {σ α ε : Type*}

/-- The state that the actions lead to, taken in order from a start state. -/
def exec (step : σ → α → σ) (s : σ) (as : List α) : σ := as.foldl step s

/-- Each action of the run satisfies `ok` in the state it is taken from. -/
def Meets (step : σ → α → σ) (ok : σ → α → Prop) : σ → List α → Prop
  | _, [] => True
  | s, a :: as => ok s a ∧ Meets step ok (step s a) as

/-- Runs a step function beside a record of what each step emits. -/
def logged (step : σ → α → σ) (emit : σ → α → List ε) (s : σ × List ε) (a : α) : σ × List ε :=
  (step s.1 a, s.2 ++ emit s.1 a)

variable {step : σ → α → σ} {ok : σ → α → Prop}

@[simp] theorem exec_nil (s : σ) : exec step s [] = s := rfl

@[simp] theorem exec_cons (s : σ) (a : α) (as : List α) :
    exec step s (a :: as) = exec step (step s a) as := rfl

theorem exec_append (s : σ) (as bs : List α) :
    exec step s (as ++ bs) = exec step (exec step s as) bs := List.foldl_append

@[simp] theorem meets_nil (s : σ) : Meets step ok s [] := trivial

@[simp] theorem meets_cons (s : σ) (a : α) (as : List α) :
    Meets step ok s (a :: as) ↔ ok s a ∧ Meets step ok (step s a) as := Iff.rfl

instance decidableMeets [h : ∀ s a, Decidable (ok s a)] :
    ∀ s as, Decidable (Meets step ok s as)
  | _, [] => isTrue trivial
  | s, a :: as => @instDecidableAnd _ _ (h s a) (decidableMeets (step s a) as)

theorem meets_append (s : σ) (as bs : List α) :
    Meets step ok s (as ++ bs) ↔ Meets step ok s as ∧ Meets step ok (exec step s as) bs := by
  induction as generalizing s with
  | nil => simp
  | cons a as ih => simp only [List.cons_append, meets_cons, exec_cons, ih, and_assoc]

theorem meets_and {also : σ → α → Prop} (s : σ) (as : List α) :
    Meets step (fun s a => ok s a ∧ also s a) s as ↔ Meets step ok s as ∧ Meets step also s as := by
  induction as generalizing s with
  | nil => simp
  | cons a as ih =>
    simp only [meets_cons, ih]
    exact and_and_and_comm

/-- What the guarded steps preserve holds at the end of every guarded run. -/
theorem exec_invariant {I : σ → Prop} (preserve : ∀ s a, ok s a → I s → I (step s a))
    {s : σ} {as : List α} (h : Meets step ok s as) (hs : I s) : I (exec step s as) := by
  induction as generalizing s with
  | nil => exact hs
  | cons a as ih =>
    have ha := preserve s a h.1 hs
    exact ih h.2 ha

/-- What every step preserves holds at the end of every run. -/
theorem exec_induction {I : σ → Prop} (preserve : ∀ s a, I s → I (step s a)) {s : σ}
    (hs : I s) (as : List α) : I (exec step s as) := by
  induction as generalizing s with
  | nil => exact hs
  | cons a as ih => exact ih (preserve s a hs)

/-- What holds of every action whatever the state is met along every run. -/
theorem meets_of_forall {as : List α} (s : σ) (h : ∀ a ∈ as, ∀ s, ok s a) : Meets step ok s as := by
  induction as generalizing s with
  | nil => trivial
  | cons a as ih =>
    constructor
    · exact h a List.mem_cons_self s
    · exact ih (step s a) fun b hb => h b (List.mem_cons_of_mem a hb)

/-- What a step keeps exactly if it meets a condition, a run keeps exactly if its steps meet it. -/
theorem exec_iff_meets {P : σ → Prop} (exact_step : ∀ s a, P (step s a) ↔ P s ∧ ok s a) (s : σ)
    (as : List α) : P (exec step s as) ↔ P s ∧ Meets step ok s as := by
  induction as generalizing s with
  | nil => simp
  | cons a as ih => rw [exec_cons, ih, exact_step, meets_cons, and_assoc]

/-- A property of single steps that an invariant gives holds of every step of a guarded run. -/
theorem meets_of_invariant {I : σ → Prop} {Q : σ → α → Prop}
    (preserve : ∀ s a, ok s a → I s → I (step s a)) (respects : ∀ s a, ok s a → I s → Q s a)
    {s : σ} {as : List α} (h : Meets step ok s as) (hs : I s) : Meets step Q s as := by
  induction as generalizing s with
  | nil => trivial
  | cons a as ih =>
    refine ⟨respects s a h.1 hs, ih h.2 ?_⟩
    exact preserve s a h.1 hs

/-- Two properties of single steps that agree under an invariant hold along the same runs. -/
theorem meets_congr {I : σ → Prop} {P Q : σ → α → Prop} {as : List α}
    (preserve : ∀ s, ∀ a ∈ as, I s → I (step s a)) (agree : ∀ s, ∀ a ∈ as, I s → (P s a ↔ Q s a))
    {s : σ} (hs : I s) : Meets step P s as ↔ Meets step Q s as := by
  induction as generalizing s with
  | nil => exact Iff.rfl
  | cons a as ih =>
    have ha := preserve s a List.mem_cons_self hs
    have htail := ih (fun s b hb => preserve s b (List.mem_cons_of_mem a hb))
      (fun s b hb => agree s b (List.mem_cons_of_mem a hb)) ha
    rw [meets_cons, meets_cons, agree s a List.mem_cons_self hs, htail]

/-- An invariant of the state and of the actions so far. -/
theorem exec_history {I : List α → σ → Prop} {s : σ} (start : I [] s)
    (preserve : ∀ as a, I as (exec step s as) → I (as ++ [a]) (step (exec step s as) a))
    (as : List α) : I as (exec step s as) := by
  induction as using List.reverseRecOn with
  | nil => exact start
  | append_singleton as a ih =>
    rw [exec_append]
    exact preserve as a ih

/-- What has happened in a run has happened in every longer one. -/
theorem happened_append {E : σ → α → Prop} {s : σ} {as bs : List α}
    (h : ∃ before a after, as = before ++ a :: after ∧ E (exec step s before) a) :
    ∃ before a after, as ++ bs = before ++ a :: after ∧ E (exec step s before) a := by
  obtain ⟨before, a, after, heq, happened⟩ := h
  exact ⟨before, a, after ++ bs, by rw [heq, List.append_assoc, List.cons_append], happened⟩

/-- Some action of the run has added the entry, in the state that it was taken from, and none after
it has dropped it. -/
def AddedSince {ρ : Type*} (step : σ → α → σ) (adds : σ → α → ρ → Prop) (drops : α → ρ → Prop) (s : σ)
    (as : List α) (r : ρ) : Prop :=
  ∃ before a after, as = before ++ a :: after ∧ adds (exec step s before) a r ∧
    ∀ b ∈ after, ¬drops b r

theorem addedSince_cons {ρ : Type*} {adds : σ → α → ρ → Prop} {drops : α → ρ → Prop} {s : σ} {a : α}
    {as : List α} {r : ρ} : AddedSince step adds drops s (a :: as) r ↔
      (adds s a r ∧ ∀ b ∈ as, ¬drops b r) ∨ AddedSince step adds drops (step s a) as r := by
  constructor
  · rintro ⟨before, b, after, heq, hadds, hkept⟩
    cases before with
    | nil =>
      obtain ⟨rfl, rfl⟩ := List.cons.inj heq
      exact .inl ⟨hadds, hkept⟩
    | cons first before =>
      obtain ⟨rfl, hrest⟩ := List.cons.inj heq
      exact .inr ⟨before, b, after, hrest, hadds, hkept⟩
  · rintro (⟨hadds, hkept⟩ | ⟨before, b, after, rfl, hadds, hkept⟩)
    · exact ⟨[], a, as, rfl, hadds, hkept⟩
    · exact ⟨a :: before, b, after, rfl, hadds, hkept⟩

/-- A ledger that each action adds to and drops from holds at the end what it held at first or what
was added, where nothing has dropped it since. -/
theorem exec_ledger {ρ : Type*} {H : σ → ρ → Prop} {adds : σ → α → ρ → Prop} {drops : α → ρ → Prop}
    (hstep : ∀ s a r, H (step s a) r ↔ adds s a r ∨ H s r ∧ ¬drops a r) (s : σ) (as : List α) (r : ρ) :
    H (exec step s as) r ↔
      (H s r ∧ ∀ a ∈ as, ¬drops a r) ∨ AddedSince step adds drops s as r := by
  induction as generalizing s with
  | nil => simp [AddedSince]
  | cons a as ih =>
    rw [exec_cons, ih, hstep, addedSince_cons, List.forall_mem_cons]
    tauto

/-- Forward simulation: guarded steps that keep two systems related keep them related over
every guarded run. -/
theorem exec_simulates {τ : Type*} {abs : τ → α → τ} {R : σ → τ → Prop}
    (simulate : ∀ s t a, ok s a → R s t → R (step s a) (abs t a))
    {s : σ} {t : τ} {as : List α} (h : Meets step ok s as) (hR : R s t) :
    R (exec step s as) (exec abs t as) := by
  induction as generalizing s t with
  | nil => exact hR
  | cons a as ih => exact ih h.2 (simulate s t a h.1 hR)

/-- A record kept beside a run does not change the run. -/
theorem exec_logged (emit : σ → α → List ε) (s : σ × List ε) (as : List α) :
    (exec (logged step emit) s as).1 = exec step s.1 as := by
  induction as generalizing s with
  | nil => rfl
  | cons a as ih => exact ih (logged step emit s a)

theorem meets_logged (emit : σ → α → List ε) (s : σ × List ε) (as : List α) :
    Meets (logged step emit) (fun s a => ok s.1 a) s as ↔ Meets step ok s.1 as := by
  induction as generalizing s with
  | nil => exact Iff.rfl
  | cons a as ih => rw [meets_cons, meets_cons, ih, logged]

end Runs
