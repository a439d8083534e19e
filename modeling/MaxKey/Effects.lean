import Mathlib.Logic.Basic
import Mathlib.Tactic.SplitIfs

namespace Effects

variable {ε σ τ α β : Type}

/-- The state a computation ends in, whether it returns or throws. -/
def final (x : EStateM ε σ α) (s : σ) : σ :=
  match x s with
  | .ok _ t => t
  | .error _ t => t

/-- What a computation returns or throws, without the state. -/
def outcome (x : EStateM ε σ α) (s : σ) : Except ε α :=
  match x s with
  | .ok a _ => .ok a
  | .error e _ => .error e

/-- Frame condition: the computation leaves what `g` observes as it was, on return and on
every exception. -/
def Leaves (g : σ → β) (x : EStateM ε σ α) : Prop := ∀ s, g (final x s) = g s

def onlyIf (c : Prop) [Decidable c] (x : EStateM ε σ Unit) : EStateM ε σ Unit :=
  if c then x else pure ()

def throwIf (c : Prop) [Decidable c] (e : ε) : EStateM ε σ Unit := if c then throw e else pure ()

def orThrow (e : ε) : Option α → EStateM ε σ α
  | some a => pure a
  | none => throw e

def orError : Except ε α → EStateM ε σ α
  | .ok a => pure a
  | .error e => throw e

/-- Stops with an error when the condition holds. -/
def failIf (c : Prop) [Decidable c] (e : ε) : Except ε Unit := if c then .error e else .ok ()

/-- What a result must satisfy where there is one. -/
def WhenOk (r : Except ε α) (p : α → Prop) : Prop :=
  match r with
  | .ok a => p a
  | .error _ => True

instance (r : Except ε α) (p : α → Prop) [DecidablePred p] : Decidable (WhenOk r p) :=
  match r with
  | .ok a => inferInstanceAs (Decidable (p a))
  | .error _ => isTrue trivial

/-- Runs a computation on one component of a larger state. -/
def focus (get : τ → σ) (put : σ → τ → τ) (x : EStateM ε σ α) : EStateM ε τ α := fun t =>
  match x (get t) with
  | .ok a s => .ok a (put s t)
  | .error e s => .error e (put s t)

/-- A transaction: on the exceptions that roll it back the state is the one before it. -/
def transaction (rollsBack : ε → Bool) (x : EStateM ε σ α) : EStateM ε σ α := fun s =>
  match x s with
  | .ok a t => .ok a t
  | .error e t => .error e (if rollsBack e then s else t)

variable {x : EStateM ε σ α} {f : α → EStateM ε σ β} {s t : σ} {a : α} {e : ε}

theorem bind_apply (x : EStateM ε σ α) (f : α → EStateM ε σ β) (s : σ) :
    (x >>= f) s = match x s with
      | .ok a t => f a t
      | .error e t => .error e t := rfl

theorem bind_of_ok (h : x s = .ok a t) : (x >>= f) s = f a t := by
  change EStateM.bind x f s = f a t
  simp only [EStateM.bind, h]

theorem bind_of_error (h : x s = .error e t) : (x >>= f) s = .error e t := by
  change EStateM.bind x f s = _
  simp only [EStateM.bind, h]

theorem bind_eq_ok {b : β} :
    (x >>= f) s = .ok b t ↔ ∃ a u, x s = .ok a u ∧ f a u = .ok b t := by
  cases h : x s with
  | ok a u =>
    rw [bind_of_ok h]
    refine ⟨fun hf => ⟨a, u, rfl, hf⟩, ?_⟩
    rintro ⟨_, _, ⟨⟩, hf⟩
    exact hf
  | error e u => simp [bind_of_error h]

theorem bind_eq_error :
    (x >>= f) s = .error e t ↔ x s = .error e t ∨ ∃ a u, x s = .ok a u ∧ f a u = .error e t := by
  cases h : x s with
  | ok a u =>
    rw [bind_of_ok h]
    refine ⟨fun hf => .inr ⟨a, u, rfl, hf⟩, ?_⟩
    rintro (⟨⟨⟩⟩ | ⟨_, _, ⟨⟩, hf⟩)
    exact hf
  | error e' u => simp [bind_of_error h]

@[simp] theorem pure_apply (a : α) (s : σ) : (pure a : EStateM ε σ α) s = .ok a s := rfl

@[simp] theorem throw_apply (e : ε) (s : σ) : (throw e : EStateM ε σ α) s = .error e s := rfl

@[simp] theorem get_apply (s : σ) : (get : EStateM ε σ σ) s = .ok s s := rfl

@[simp] theorem modify_apply (g : σ → σ) (s : σ) :
    (modify g : EStateM ε σ Unit) s = .ok () (g s) := rfl

theorem orError_ok_bind (a : α) (f : α → EStateM ε σ β) : (orError (.ok a) >>= f) = f a := rfl

theorem orThrow_some_bind (e : ε) (a : α) (f : α → EStateM ε σ β) :
    (orThrow e (some a) >>= f) = f a := rfl

/-- What stands after a throw is not reached. -/
theorem throw_bind {γ : Type} (x : EStateM ε σ γ) (e : ε) (f : α → EStateM ε σ β) :
    ((x >>= fun _ => throw e) >>= f) = x >>= fun _ => throw e := by
  funext s
  cases h : x s with
  | ok c t =>
    have hthrow : (x >>= fun _ => (throw e : EStateM ε σ α)) s = .error e t := bind_of_ok h
    have hthrow' : (x >>= fun _ => (throw e : EStateM ε σ β)) s = .error e t := bind_of_ok h
    rw [bind_of_error hthrow, hthrow']
  | error e' t =>
    have herror : (x >>= fun _ => (throw e : EStateM ε σ α)) s = .error e' t := bind_of_error h
    rw [bind_of_error herror, bind_of_error h]

/-- Steps that only compute may as well be taken one by one. -/
theorem orError_bind {γ : Type} (r : Except ε γ) (k : γ → Except ε α) :
    (orError (r >>= k) : EStateM ε σ α) = orError r >>= fun c => orError (k c) := by
  cases r with
  | error e => rfl
  | ok c => rfl

theorem orError_failIf (c : Prop) [Decidable c] (e : ε) :
    (orError (failIf c e) : EStateM ε σ Unit) = throwIf c e := by
  unfold failIf throwIf
  split_ifs with h
  · rfl
  · rfl

theorem orError_elim {γ : Type} (o : Option γ) (e : ε) (k : γ → Except ε α) :
    (orError (o.elim (.error e) k) : EStateM ε σ α) = orThrow e o >>= fun c => orError (k c) := by
  cases o with
  | none => rfl
  | some c => rfl

theorem throwIf_of_true {c : Prop} [Decidable c] (h : c) (e : ε) (s : σ) :
    (throwIf c e : EStateM ε σ Unit) s = .error e s := by simp only [throwIf, if_pos h, throw_apply]

theorem throwIf_of_false {c : Prop} [Decidable c] (h : ¬c) (e : ε) (s : σ) :
    (throwIf c e : EStateM ε σ Unit) s = .ok () s := by simp only [throwIf, if_neg h, pure_apply]

theorem orError_eq_ok {r : Except ε α} :
    (orError r : EStateM ε σ α) s = .ok a t ↔ r = .ok a ∧ s = t := by
  cases r with
  | error e => exact iff_of_false nofun fun h => nomatch h.1
  | ok b => simp [orError]

theorem orThrow_eq_ok {o : Option α} :
    (orThrow e o : EStateM ε σ α) s = .ok a t ↔ o = some a ∧ s = t := by
  cases o with
  | none => exact iff_of_false nofun fun h => nomatch h.1
  | some b => simp [orThrow]

theorem throwIf_eq_ok {c : Prop} [Decidable c] {u : Unit} :
    (throwIf c e : EStateM ε σ Unit) s = .ok u t ↔ ¬c ∧ s = t := by
  unfold throwIf
  split_ifs with h
  · simp [h]
  · simp [h]

theorem onlyIf_eq_ok {c : Prop} [Decidable c] {y : EStateM ε σ Unit} {u : Unit} :
    onlyIf c y s = .ok u t ↔ if c then y s = .ok u t else s = t := by
  unfold onlyIf
  split_ifs
  · rfl
  · simp

theorem onlyIf_throw_eq_ok {c : Prop} [Decidable c] {y : EStateM ε σ Unit} :
    onlyIf c (y >>= fun _ => throw e) s = .ok () t ↔ ¬c ∧ s = t := by
  unfold onlyIf
  split_ifs with hc
  · refine iff_of_false ?_ fun h => h.1 hc
    intro h
    obtain ⟨_, u, -, hthrow⟩ := bind_eq_ok.mp h
    cases hthrow
  · simp [hc]

theorem final_of_ok (h : x s = .ok a t) : final x s = t := by simp only [final, h]

theorem final_of_error (h : x s = .error e t) : final x s = t := by simp only [final, h]

/-- A transaction commits or leaves nothing behind. -/
theorem final_transaction (rollsBack : ε → Bool) (x : EStateM ε σ α) (s : σ) :
    final (transaction rollsBack x) s = final x s ∨ final (transaction rollsBack x) s = s := by
  cases h : x s with
  | ok a t => simp [final, transaction, h]
  | error e t =>
    simp only [final, transaction, h]
    split_ifs
    · exact .inr rfl
    · exact .inl rfl

/-- Where no exception rolls back, a transaction is no more than its body. -/
theorem final_transaction_of_never (x : EStateM ε σ α) (s : σ) :
    final (transaction (fun _ => false) x) s = final x s := by
  cases h : x s with
  | ok a t => simp [final, transaction, h]
  | error e t => simp [final, transaction, h]

theorem focus_of_ok {get : τ → σ} {put : σ → τ → τ} {r : τ} (h : x (get r) = .ok a t) :
    focus get put x r = .ok a (put t r) := by simp only [focus, h]

theorem focus_of_error {get : τ → σ} {put : σ → τ → τ} {r : τ} (h : x (get r) = .error e t) :
    focus get put x r = .error e (put t r) := by simp only [focus, h]

theorem focus_eq_ok {get : τ → σ} {put : σ → τ → τ} {r r' : τ} :
    focus get put x r = .ok a r' ↔ ∃ t, x (get r) = .ok a t ∧ put t r = r' := by
  cases h : x (get r) with
  | ok b t => simp [focus, h, and_assoc]
  | error e t => simp [focus, h]

theorem final_focus {get : τ → σ} {put : σ → τ → τ} (x : EStateM ε σ α) (r : τ) :
    final (focus get put x) r = put (final x (get r)) r := by
  cases h : x (get r) with
  | ok a s => simp only [final, focus, h]
  | error e s => simp only [final, focus, h]

theorem outcome_focus {get : τ → σ} {put : σ → τ → τ} (x : EStateM ε σ α) (r : τ) :
    outcome (focus get put x) r = outcome x (get r) := by
  cases h : x (get r) with
  | ok a s => simp only [outcome, focus, h]
  | error e s => simp only [outcome, focus, h]

/-- A truth value that is only passed on. -/
theorem bind_ite_pure (x : EStateM ε σ Bool) :
    (x >>= fun b => if b then pure true else pure false) = x := by
  have hpure : (fun b : Bool => if b then (pure true : EStateM ε σ Bool) else pure false) = pure := by
    funext b
    cases b with
    | true => rfl
    | false => rfl
  rw [hpure, bind_pure]

theorem tryCatch_of_ok {h : ε → EStateM ε σ α} (hx : x s = .ok a t) :
    tryCatch x h s = .ok a t := by
  change EStateM.tryCatch x h s = _
  simp only [EStateM.tryCatch, hx]

theorem tryCatch_of_error {h : ε → EStateM ε σ α} (hx : x s = .error e t) :
    tryCatch x h s = h e t := by
  change EStateM.tryCatch x h s = _
  simp only [EStateM.tryCatch, hx]
  rfl

/-- An exception that is dropped leaves the state as it found it. -/
theorem final_tryCatch_pure (x : EStateM ε σ α) (a : α) (s : σ) :
    final (tryCatch x fun _ => pure a) s = final x s := by
  cases h : x s with
  | ok b t => rw [final_of_ok h, final_of_ok (tryCatch_of_ok h)]
  | error e t =>
    rw [final_of_error h]
    simp only [final, tryCatch_of_error h, pure_apply]

section Results

variable {y : Except ε α} {k : α → Except ε β}

theorem except_bind_eq_ok {b : β} : (y >>= k) = .ok b ↔ ∃ a, y = .ok a ∧ k a = .ok b := by
  cases y with
  | ok a => simp [bind, Except.bind]
  | error e => simp [bind, Except.bind]

theorem except_bind_eq_error :
    (y >>= k) = .error e ↔ y = .error e ∨ ∃ a, y = .ok a ∧ k a = .error e := by
  cases y with
  | ok a => simp [bind, Except.bind]
  | error e => simp [bind, Except.bind]

/-- The continuations need only agree on what the first step returns. -/
theorem except_bind_congr {k' : α → Except ε β} (h : ∀ a, y = .ok a → k a = k' a) :
    (y >>= k) = (y >>= k') := by
  cases y with
  | ok a => exact h a rfl
  | error e => rfl

theorem failIf_eq_ok {c : Prop} [Decidable c] {u : Unit} : failIf c e = .ok u ↔ ¬c := by
  unfold failIf
  split_ifs with h
  · simp [h]
  · exact iff_of_true rfl h

theorem failIf_eq_error {c : Prop} [Decidable c] {e' : ε} (h : failIf c e = .error e') :
    e' = e := by
  unfold failIf at h
  split_ifs at h
  exact (Except.error.inj h).symm

end Results

section Frame

variable {γ : Type} {g : σ → γ} {y : EStateM ε σ α}

@[simp] theorem leaves_pure (a : α) : Leaves g (pure a : EStateM ε σ α) := fun _ => rfl

@[simp] theorem leaves_throw (e : ε) : Leaves g (throw e : EStateM ε σ α) := fun _ => rfl

@[simp] theorem leaves_get : Leaves g (get : EStateM ε σ σ) := fun _ => rfl

theorem leaves_modify {m : σ → σ} (h : ∀ s, g (m s) = g s) :
    Leaves g (modify m : EStateM ε σ Unit) := h

/-- What follows a computation does not matter to an observation that it leaves alone. -/
theorem final_bind_of_leaves {δ : Type} {x : EStateM ε σ δ} {f : δ → EStateM ε σ α}
    (hf : ∀ a, Leaves g (f a)) (s : σ) : g (final (x >>= f) s) = g (final x s) := by
  cases h : x s with
  | ok a t =>
    have ht := hf a t
    rw [final_of_ok h]
    simpa only [final, bind_of_ok h] using ht
  | error e t => rw [final_of_error h, final_of_error (bind_of_error h)]

theorem leaves_bind {δ : Type} {x : EStateM ε σ δ} {f : δ → EStateM ε σ α} (hx : Leaves g x)
    (hf : ∀ a, Leaves g (f a)) : Leaves g (x >>= f) := fun s =>
  (final_bind_of_leaves hf s).trans (hx s)

theorem leaves_ite {c : Prop} [Decidable c] (hx : Leaves g x) (hy : Leaves g y) :
    Leaves g (if c then x else y) := by
  split
  · exact hx
  · exact hy

theorem leaves_onlyIf (c : Prop) [Decidable c] {x : EStateM ε σ Unit} (hx : Leaves g x) :
    Leaves g (onlyIf c x) := leaves_ite hx (leaves_pure ())

theorem leaves_throwIf (c : Prop) [Decidable c] (e : ε) :
    Leaves g (throwIf c e : EStateM ε σ Unit) := leaves_ite (leaves_throw e) (leaves_pure ())

theorem leaves_orThrow (e : ε) (o : Option α) : Leaves g (orThrow e o : EStateM ε σ α) := by
  cases o with
  | none => exact leaves_throw e
  | some a => exact leaves_pure a

theorem leaves_orError (r : Except ε α) : Leaves g (orError r : EStateM ε σ α) := by
  cases r with
  | error e => exact leaves_throw e
  | ok a => exact leaves_pure a

theorem leaves_tryCatch {h : ε → EStateM ε σ α} (hx : Leaves g x) (hh : ∀ e, Leaves g (h e)) :
    Leaves g (tryCatch x h) := by
  intro s
  have hs := hx s
  cases hxs : x s with
  | ok a t =>
    rw [final_of_ok hxs] at hs
    rw [final_of_ok (tryCatch_of_ok hxs)]
    exact hs
  | error e t =>
    rw [final_of_error hxs] at hs
    have ht := hh e t
    simp only [final, tryCatch_of_error hxs] at ht ⊢
    exact ht.trans hs

/-- What a computation leaves alone on its own component it leaves alone on the larger state. -/
theorem leaves_focus {get : τ → σ} {put : σ → τ → τ} (hput : ∀ s r, get (put s r) = s)
    (hx : Leaves g x) : Leaves (fun r => g (get r)) (focus get put x) := by
  intro r
  show g (get (final (focus get put x) r)) = g (get r)
  rw [final_focus, hput]
  exact hx (get r)

end Frame

section Outcomes

theorem outcome_of_ok (h : x s = .ok a t) : outcome x s = .ok a := by simp only [outcome, h]

theorem outcome_of_error (h : x s = .error e t) : outcome x s = .error e := by
  simp only [outcome, h]

theorem outcome_bind_of_ok (h : x s = .ok a t) (f : α → EStateM ε σ β) :
    outcome (x >>= f) s = outcome (f a) t := by
  simp only [outcome, bind_of_ok h]

theorem outcome_map (x : EStateM ε σ α) (k : α → β) (s : σ) :
    outcome (x >>= fun a => pure (k a)) s = outcome x s >>= fun a => pure (k a) := by
  cases h : x s with
  | ok a t =>
    rw [outcome_bind_of_ok h, outcome_of_ok h]
    rfl
  | error e t =>
    rw [outcome_of_error (bind_of_error h), outcome_of_error h]
    rfl

@[simp] theorem outcome_orError (r : Except ε α) (s : σ) :
    outcome (orError r : EStateM ε σ α) s = r := by
  cases r with
  | ok a => rfl
  | error e => rfl

end Outcomes

section Triples

/-- From a state that satisfies `pre` the computation returns with `post`, or throws and
leaves a state with `fail` behind. -/
def Triple (pre : σ → Prop) (x : EStateM ε σ α) (post : α → σ → Prop) (fail : σ → Prop) : Prop :=
  ∀ s, pre s → match x s with
    | .ok a t => post a t
    | .error _ t => fail t

variable {pre fail : σ → Prop} {post : α → σ → Prop}

theorem triple_pure {a : α} (h : ∀ s, pre s → post a s) :
    Triple pre (pure a : EStateM ε σ α) post fail := h

theorem triple_throw (h : ∀ s, pre s → fail s) :
    Triple pre (throw e : EStateM ε σ α) post fail := h

theorem triple_get {post : σ → σ → Prop} (h : ∀ s, pre s → post s s) :
    Triple pre (get : EStateM ε σ σ) post fail := h

theorem triple_modify {m : σ → σ} {post : Unit → σ → Prop} (h : ∀ s, pre s → post () (m s)) :
    Triple pre (modify m : EStateM ε σ Unit) post fail := h

theorem triple_bind {M : α → σ → Prop} {post : β → σ → Prop} (hx : Triple pre x M fail)
    (hf : ∀ a, Triple (M a) (f a) post fail) : Triple pre (x >>= f) post fail := by
  intro s hs
  have hmiddle := hx s hs
  cases h : x s with
  | ok a t =>
    rw [h] at hmiddle
    rw [bind_of_ok h]
    exact hf a t hmiddle
  | error e t =>
    rw [h] at hmiddle
    rw [bind_of_error h]
    exact hmiddle

/-- Rule of consequence. -/
theorem triple_mono {P F : σ → Prop} {Q : α → σ → Prop} (hx : Triple P x Q F)
    (hpre : ∀ s, pre s → P s) (hpost : ∀ a s, Q a s → post a s) (hfail : ∀ s, F s → fail s) :
    Triple pre x post fail := by
  intro s hs
  have h := hx s (hpre s hs)
  cases hxs : x s with
  | ok a t =>
    rw [hxs] at h
    exact hpost a t h
  | error e t =>
    rw [hxs] at h
    exact hfail t h

theorem triple_onlyIf {c : Prop} [Decidable c] {x : EStateM ε σ Unit} {post : Unit → σ → Prop}
    (hx : c → Triple pre x post fail) (hskip : ¬c → ∀ s, pre s → post () s) :
    Triple pre (onlyIf c x) post fail := by
  unfold onlyIf
  split_ifs with h
  · exact hx h
  · exact triple_pure (hskip h)

theorem triple_forM {o : Option β} {f : β → EStateM ε σ Unit} (hf : ∀ b, Triple pre (f b)
    (fun _ => pre) fail) : Triple pre (o.forM f) (fun _ => pre) fail := by
  cases o with
  | none => exact triple_pure fun _ h => h
  | some b => exact hf b

theorem triple_orThrow {o : Option α} (hsome : ∀ a, o = some a → ∀ s, pre s → post a s)
    (hnone : o = none → ∀ s, pre s → fail s) : Triple pre (orThrow e o) post fail := by
  cases o with
  | none => exact triple_throw (hnone rfl)
  | some a => exact triple_pure (hsome a rfl)

theorem triple_orError {r : Except ε α} (hok : ∀ a, r = .ok a → ∀ s, pre s → post a s)
    (herror : ∀ s, pre s → fail s) : Triple pre (orError r) post fail := by
  cases r with
  | ok a => exact triple_pure (hok a rfl)
  | error e => exact triple_throw herror

/-- A computation that returns in a known state goes on from there. -/
theorem triple_bind_of_ok {post : β → σ → Prop} (hx : x s = .ok a t)
    (hf : Triple (fun u => u = t) (f a) post fail) :
    Triple (fun u => u = s) (x >>= f) post fail := by
  intro u hu
  rw [hu, bind_of_ok hx]
  exact hf t rfl

theorem triple_bind_of_error {post : β → σ → Prop} (hx : x s = .error e t) (ht : fail t) :
    Triple (fun u => u = s) (x >>= f) post fail := by
  intro u hu
  rw [hu, bind_of_error hx]
  exact ht

/-- Frame rule: what a computation leaves alone still holds after it. -/
theorem triple_frame {γ : Type} {g : σ → γ} {c : γ} (hx : Triple pre x post fail)
    (hg : Leaves g x) : Triple (fun s => pre s ∧ g s = c) x (fun a s => post a s ∧ g s = c) fail := by
  intro s hs
  have h := hx s hs.1
  have hsame := hg s
  cases hxs : x s with
  | ok a t =>
    rw [hxs] at h
    rw [final_of_ok hxs] at hsame
    exact ⟨h, hsame.trans hs.2⟩
  | error e t =>
    rw [hxs] at h
    exact h

/-- What a computation leaves alone keeps its properties. -/
theorem triple_of_leaves {γ : Type} {g : σ → γ} {P : γ → Prop} (hg : Leaves g x) :
    Triple (fun s => P (g s)) x (fun _ s => P (g s)) (fun s => P (g s)) := by
  intro s hs
  have hsame := hg s
  cases hxs : x s with
  | ok a t =>
    rw [final_of_ok hxs] at hsame
    show P (g t)
    rw [hsame]
    exact hs
  | error e t =>
    rw [final_of_error hxs] at hsame
    show P (g t)
    rw [hsame]
    exact hs

/-- A computation that only reads keeps every assertion. -/
theorem triple_of_reads (hx : Leaves id x) (hfail : ∀ s, pre s → fail s) :
    Triple pre x (fun _ => pre) fail := by
  apply triple_mono (triple_of_leaves (P := pre) hx)
  · exact fun _ h => h
  · exact fun _ _ h => h
  · exact hfail

/-- What holds on return as on every exception holds in the final state. -/
theorem final_of_triple {Q : σ → Prop} (h : Triple pre x (fun _ => Q) Q) (hs : pre s) :
    Q (final x s) := by
  have hx := h s hs
  cases hxs : x s with
  | ok a t =>
    rw [hxs] at hx
    rw [final_of_ok hxs]
    exact hx
  | error e t =>
    rw [hxs] at hx
    rw [final_of_error hxs]
    exact hx

/-- The relation between what a computation returns, if it does, and the state it ends in. -/
theorem outcome_of_triple {R : Option α → σ → Prop}
    (h : Triple (fun u => u = s) x (fun a => R (some a)) (R none)) :
    R (outcome x s).toOption (final x s) := by
  have hx := h s rfl
  unfold outcome final
  cases hxs : x s with
  | ok a t =>
    rw [hxs] at hx
    exact hx
  | error e t =>
    rw [hxs] at hx
    exact hx

end Triples

end Effects
