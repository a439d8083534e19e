import MaxKey.Effects
import MaxKey.Runs

namespace Noninterference
open Runs Effects

section Purge

variable {σ τ α ω ε : Type}

/-- What an observer sees of a run, step by step. -/
def seen (step : σ → α → σ) (see : σ → α → List ω) : σ → List α → List ω
  | _, [] => []
  | s, a :: as => see s a ++ seen step see (step s a) as

variable {step : σ → α → σ} {see : σ → α → List ω} {step' : τ → α → τ} {see' : τ → α → List ω}
  {ok : σ → α → Prop} {R : σ → τ → Prop}

/-- Unwinding: hidden actions show nothing and keep the two systems related, the others keep
them related and show the same. Then the observer cannot tell a run from the run without its
hidden actions. -/
theorem seen_purge (hidden : α → Bool) (unseen : ∀ s a, hidden a = true → see s a = [])
    (silent : ∀ s t a, hidden a = true → R s t → R (step s a) t)
    (alike : ∀ s t a, hidden a = false → ok s a → R s t →
      see s a = see' t a ∧ R (step s a) (step' t a))
    {s : σ} {t : τ} {as : List α} (h : Meets step ok s as) (hR : R s t) :
    seen step see s as = seen step' see' t (as.filter fun a => !hidden a) := by
  induction as generalizing s t with
  | nil => rfl
  | cons a as ih =>
    cases ha : hidden a with
    | true =>
      have hrest := ih h.2 (silent s t a ha hR)
      simp only [seen, unseen s a ha, List.nil_append, List.filter_cons, ha, Bool.not_true,
        Bool.false_eq_true, if_false, hrest]
    | false =>
      obtain ⟨hsame, hnext⟩ := alike s t a ha h.1 hR
      have hrest := ih h.2 hnext
      simp only [seen, List.filter_cons, ha, Bool.not_false, if_true, hsame, hrest]

/-- A record that is kept beside the run does not change what is seen. -/
theorem seen_logged (step : σ → α → σ) (see : σ → α → List ω) (emit : σ → α → List ε) (s : σ × List ε) (as : List α) :
    seen (logged step emit) (fun s a => see s.1 a) s as = seen step see s.1 as := by
  induction as generalizing s with
  | nil => rfl
  | cons a as ih =>
    have hrest := ih (logged step emit s a)
    simp only [seen, hrest]
    rfl

end Purge

section Matching

variable {ε σ τ α β : Type}

/-- Two results that an observer of results cannot tell apart, with related states. -/
def Matched (R : σ → τ → Prop) : EStateM.Result ε σ α → EStateM.Result ε τ α → Prop
  | .ok a s, .ok b t => a = b ∧ R s t
  | .error e s, .error f t => e = f ∧ R s t
  | _, _ => False

/-- From related states the two computations have matching results. -/
def Alike (R : σ → τ → Prop) (x : EStateM ε σ α) (y : EStateM ε τ α) : Prop :=
  ∀ s t, R s t → Matched R (x s) (y t)

variable {R : σ → τ → Prop} {x : EStateM ε σ α} {y : EStateM ε τ α} {s : σ} {t : τ}

theorem Matched.outcome (h : Matched R (x s) (y t)) : outcome x s = outcome y t := by
  unfold Effects.outcome
  cases hx : x s <;> cases hy : y t <;> rw [hx, hy] at h
  · exact congrArg Except.ok h.1
  · exact h.elim
  · exact h.elim
  · exact congrArg Except.error h.1

theorem Matched.final (h : Matched R (x s) (y t)) : R (final x s) (final y t) := by
  unfold Effects.final
  cases hx : x s <;> cases hy : y t <;> rw [hx, hy] at h
  · exact h.2
  · exact h.elim
  · exact h.elim
  · exact h.2

theorem alike_pure (a : α) : Alike R (pure a : EStateM ε σ α) (pure a) := fun _ _ h => ⟨rfl, h⟩

theorem alike_throw (e : ε) : Alike R (throw e : EStateM ε σ α) (throw e) := fun _ _ h => ⟨rfl, h⟩

theorem alike_modify {f : σ → σ} {g : τ → τ} (h : ∀ s t, R s t → R (f s) (g t)) :
    Alike R (modify f : EStateM ε σ Unit) (modify g) := fun s t hR => ⟨rfl, h s t hR⟩

theorem alike_orError (r : Except ε α) : Alike R (orError r : EStateM ε σ α) (orError r) := by
  cases r with
  | ok a => exact alike_pure a
  | error e => exact alike_throw e

theorem matched_bind {f : α → EStateM ε σ β} {g : α → EStateM ε τ β} (h : Matched R (x s) (y t))
    (hf : ∀ a, Alike R (f a) (g a)) : Matched R ((x >>= f) s) ((y >>= g) t) := by
  rw [bind_apply, bind_apply]
  cases hx : x s <;> cases hy : y t <;> rw [hx, hy] at h
  · obtain ⟨rfl, hR⟩ := h
    exact hf _ _ _ hR
  · exact h.elim
  · exact h.elim
  · exact h

theorem alike_bind {f : α → EStateM ε σ β} {g : α → EStateM ε τ β} (h : Alike R x y)
    (hf : ∀ a, Alike R (f a) (g a)) : Alike R (x >>= f) (y >>= g) :=
  fun s t hR => matched_bind (h s t hR) hf

theorem alike_get {f : σ → EStateM ε σ β} {g : τ → EStateM ε τ β}
    (h : ∀ s t, R s t → Matched R (f s s) (g t t)) : Alike R (get >>= f) (get >>= g) := by
  intro s t hR
  rw [bind_of_ok (get_apply s), bind_of_ok (get_apply t)]
  exact h s t hR

theorem alike_ite {c : Prop} [Decidable c] {x' : EStateM ε σ α} {y' : EStateM ε τ α}
    (h : Alike R x y) (h' : Alike R x' y') : Alike R (if c then x else x') (if c then y else y') := by
  split
  · exact h
  · exact h'

end Matching

end Noninterference
