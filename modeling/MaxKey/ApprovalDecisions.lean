import MaxKey.ApprovalStore
import MaxKey.Rows
import MaxKey.Runs

namespace MaxKey.OAuth2
open Function (update)

/-- The key of the table: user, client and scope. -/
def Approval.key (a : Approval) : String × String × String := (a.userId, a.clientId, a.scope)

/-- A call of an approval store. The time is that of the call. -/
inductive ApprovalOperation
  | addApprovals (approvals : List Approval)
  | revokeApprovals (now : ℕ) (approvals : List Approval)

namespace InMemoryApprovalStore

/-- An equal approval is taken out, if there is one. -/
def revokeApproval (store : InMemoryApprovalStore) (approval : Approval) :
    Bool × InMemoryApprovalStore :=
  let key := (approval.userId, approval.clientId)
  ((store key).any approval.equals, update store key ((store key).eraseP approval.equals))

def revokeApprovals (store : InMemoryApprovalStore) (approvals : List Approval) :
    Bool × InMemoryApprovalStore :=
  approvals.foldl (fun result approval =>
    let removed := revokeApproval result.2 approval
    (result.1 && removed.1, removed.2)) (true, store)

def step (store : InMemoryApprovalStore) : ApprovalOperation → InMemoryApprovalStore
  | .addApprovals approvals => store.addApprovals approvals
  | .revokeApprovals _ approvals => (store.revokeApprovals approvals).2

end InMemoryApprovalStore

/-- The table oauth_approvals, whose key no constraint sees to. -/
structure JdbcApprovalStore where
  oauthApprovals : List Approval := []
  handleRevocationsAsExpiry : Bool := false

namespace JdbcApprovalStore

/-- An update of the rows with the key of the approval, and how many they are. -/
def updateRows (store : JdbcApprovalStore) (approval : Approval) (f : Approval → Approval) :
    ℕ × JdbcApprovalStore :=
  (store.oauthApprovals.countP (·.key = approval.key),
    { store with
      oauthApprovals := store.oauthApprovals.map fun r => if r.key = approval.key then f r else r })

/-- The statement sets the expiry and the status; the key is that of the row. -/
def refreshApproval (store : JdbcApprovalStore) (approval : Approval) : ℕ × JdbcApprovalStore :=
  store.updateRows approval fun r =>
    { r with expiresAt := approval.expiresAt, status := approval.status }

/-- Unless exactly one row was refreshed, one is inserted. -/
def addApproval (store : JdbcApprovalStore) (approval : Approval) : JdbcApprovalStore :=
  let refreshed := store.refreshApproval approval
  if refreshed.1 = 1 then refreshed.2
  else { refreshed.2 with oauthApprovals := refreshed.2.oauthApprovals ++ [approval] }

/-- An insertion never fails, so that the answer is always true. -/
def addApprovals (store : JdbcApprovalStore) (approvals : List Approval) :
    Bool × JdbcApprovalStore := (true, approvals.foldl addApproval store)

def revokeApproval (now : ℕ) (store : JdbcApprovalStore) (approval : Approval) :
    ℕ × JdbcApprovalStore :=
  if store.handleRevocationsAsExpiry then
    store.updateRows approval fun r => { r with expiresAt := now }
  else
    (store.oauthApprovals.countP (·.key = approval.key),
      { store with oauthApprovals := store.oauthApprovals.filter (·.key ≠ approval.key) })

def revokeApprovals (store : JdbcApprovalStore) (now : ℕ) (approvals : List Approval) :
    Bool × JdbcApprovalStore :=
  approvals.foldl (fun result approval =>
    let refreshed := revokeApproval now result.2 approval
    (result.1 && decide (refreshed.1 = 1), refreshed.2)) (true, store)

def getApprovals (store : JdbcApprovalStore) (userName clientId : String) : List Approval :=
  store.oauthApprovals.filter fun r => r.userId = userName ∧ r.clientId = clientId

def step (store : JdbcApprovalStore) : ApprovalOperation → JdbcApprovalStore
  | .addApprovals approvals => (store.addApprovals approvals).2
  | .revokeApprovals now approvals => (store.revokeApprovals now approvals).2

end JdbcApprovalStore

/-- What was decided last on a scope of a client, by user, client and scope, and until when it
holds, if it was not revoked since. -/
abbrev Decisions := String × String × String → Option (ApprovalStatus × ℕ)

namespace Decisions

def add (d : Decisions) (a : Approval) : Decisions := update d a.key (some (a.status, a.expiresAt))

def revoke (d : Decisions) (a : Approval) : Decisions := update d a.key none

def step (d : Decisions) : ApprovalOperation → Decisions
  | .addApprovals approvals => approvals.foldl add d
  | .revokeApprovals _ approvals => approvals.foldl revoke d

end Decisions

/-- The two stores take the same calls; the history keeps what was decided. -/
structure ApprovalStores where
  inMemory : InMemoryApprovalStore := fun _ => []
  jdbc : JdbcApprovalStore := {}
  decisions : Decisions := fun _ => none

namespace ApprovalStores

def step (s : ApprovalStores) (op : ApprovalOperation) : ApprovalStores :=
  ⟨s.inMemory.step op, s.jdbc.step op, s.decisions.step op⟩

/-- An answer for a user and a client: each decision once, and nothing else. -/
structure Answers (d : Decisions) (userId clientId : String) (answer : List Approval) : Prop where
  mem_iff : ∀ a, a ∈ answer ↔
    (a.userId = userId ∧ a.clientId = clientId) ∧ d a.key = some (a.status, a.expiresAt)
  single : Rows.Single Approval.scope answer

/-- The approval is of a scope that was not decided on, or was decided on the same way. -/
def Renews (store : InMemoryApprovalStore) (a : Approval) : Prop :=
  ∀ b ∈ store (a.userId, a.clientId), b.scope = a.scope →
    b.status = a.status ∧ b.expiresAt = a.expiresAt

/-- An approval that is added changes no decision, and what is revoked of a decision is its
status as well. -/
def Unchanging (s : ApprovalStores) : ApprovalOperation → Prop
  | .addApprovals approvals => ∀ a ∈ approvals, Renews s.inMemory a ∧
      ∀ b ∈ approvals, b.key = a.key → b.status = a.status ∧ b.expiresAt = a.expiresAt
  | .revokeApprovals _ approvals => ∀ a ∈ approvals, ∀ b ∈ s.inMemory (a.userId, a.clientId),
      b.scope = a.scope → b.status = a.status ∧ s.jdbc.handleRevocationsAsExpiry = false

instance (store : InMemoryApprovalStore) : DecidablePred (Renews store) := fun a =>
  inferInstanceAs (Decidable (∀ b ∈ store (a.userId, a.clientId), b.scope = a.scope → _ ∧ _))

instance (s : ApprovalStores) : DecidablePred (Unchanging s)
  | .addApprovals approvals => inferInstanceAs (Decidable (∀ a ∈ approvals, Renews s.inMemory a ∧
      ∀ b ∈ approvals, b.key = a.key → _ ∧ _))
  | .revokeApprovals _ approvals => inferInstanceAs (Decidable (∀ a ∈ approvals,
      ∀ b ∈ s.inMemory (a.userId, a.clientId), b.scope = a.scope → _ ∧ _))

/-- The sets in memory hold what was decided last. -/
structure Filed (d : Decisions) (store : InMemoryApprovalStore) : Prop where
  mem_iff : ∀ k a, a ∈ store k ↔
    (a.userId, a.clientId) = k ∧ d a.key = some (a.status, a.expiresAt)
  single : ∀ k, Rows.Single Approval.scope (store k)

/-- The rows of the table are what was decided last. -/
structure Tabled (d : Decisions) (rows : List Approval) : Prop where
  mem_iff : ∀ a, a ∈ rows ↔ d a.key = some (a.status, a.expiresAt)
  single : Rows.Single Approval.key rows

section Lemmas

variable {d : Decisions} {store : InMemoryApprovalStore} {rows : List Approval} {a b x : Approval}
  {now : ℕ}

theorem eq_of_key_eq (hkey : a.key = b.key) (hstatus : a.status = b.status)
    (hexpires : a.expiresAt = b.expiresAt) : a = b := by
  cases a
  cases b
  simp only [Approval.key, Prod.mk.injEq] at hkey
  simp_all only

theorem equals_iff : a.equals b = true ↔ a.key = b.key ∧ a.status = b.status := by
  simp only [Approval.equals, Approval.key, Bool.and_eq_true, decide_eq_true_eq, Prod.mk.injEq]
  tauto

theorem Decisions.add_self (h : d a.key = some (a.status, a.expiresAt)) : d.add a = d := by
  unfold Decisions.add
  rw [← h, Function.update_eq_self]

theorem Decisions.revoke_self (h : d a.key = none) : d.revoke a = d := by
  unfold Decisions.revoke
  rw [← h, Function.update_eq_self]

theorem Decisions.add_eq_iff : d.add a x.key = some (x.status, x.expiresAt) ↔
    x = a ∨ x.key ≠ a.key ∧ d x.key = some (x.status, x.expiresAt) := by
  unfold Decisions.add
  by_cases hkey : x.key = a.key
  · rw [hkey, Function.update_self]
    constructor
    · intro h
      have hboth := Option.some.inj h
      simp only [Prod.mk.injEq] at hboth
      exact .inl (eq_of_key_eq hkey hboth.1.symm hboth.2.symm)
    · rintro (rfl | ⟨hne, -⟩)
      · rfl
      · exact absurd rfl hne
  · rw [Function.update_of_ne hkey]
    constructor
    · exact fun h => .inr ⟨hkey, h⟩
    · rintro (rfl | ⟨-, h⟩)
      · exact absurd rfl hkey
      · exact h

theorem Decisions.revoke_eq_iff : d.revoke a x.key = some (x.status, x.expiresAt) ↔
    x.key ≠ a.key ∧ d x.key = some (x.status, x.expiresAt) := by
  unfold Decisions.revoke
  by_cases hkey : x.key = a.key
  · rw [hkey, Function.update_self]
    simp
  · rw [Function.update_of_ne hkey]
    simp [hkey]

/-! ### The sets in memory -/

/-- The approvals under a key of the store are told apart by their scopes. -/
theorem Filed.key_eq_iff (h : Filed d store) (hb : b ∈ store (a.userId, a.clientId)) :
    b.key = a.key ↔ b.scope = a.scope := by
  have hk := ((h.mem_iff _ b).mp hb).1
  simp only [Prod.mk.injEq] at hk
  simp only [Approval.key, Prod.mk.injEq, hk.1, hk.2, true_and]

/-- What is decided on a scope is stored. -/
theorem Filed.decided_mem (h : Filed d store) {status : ApprovalStatus} {expiresAt : ℕ}
    (hd : d a.key = some (status, expiresAt)) :
    ({ a with status := status, expiresAt := expiresAt } : Approval) ∈
      store (a.userId, a.clientId) :=
  (h.mem_iff _ _).mpr ⟨rfl, hd⟩

/-- A scope that no stored approval is of was not decided on. -/
theorem Filed.undecided (h : Filed d store)
    (hfree : ∀ b ∈ store (a.userId, a.clientId), b.scope ≠ a.scope) : d a.key = none := by
  match hd : d a.key with
  | none => rfl
  | some (status, expiresAt) =>
    have hmem := h.decided_mem (a := a) hd
    exact (hfree _ hmem rfl).elim

/-- Approvals of another user or client have other keys. -/
theorem key_ne_of_ne {k : String × String} (hk : ¬k = (a.userId, a.clientId))
    (hx : (x.userId, x.clientId) = k) : x.key ≠ a.key := by
  intro hkey
  apply hk
  simp only [Approval.key, Prod.mk.injEq] at hkey
  rw [← hx, hkey.1, hkey.2.1]

theorem filed_add (h : Filed d store) (hrenews : Renews store a) :
    Filed (d.add a) (store.addApproval a) := by
  unfold InMemoryApprovalStore.addApproval InMemoryApprovalStore.insert
  dsimp only
  by_cases hany : (store (a.userId, a.clientId)).any a.equals = true
  · -- the approval is in the set already, with the same expiry
    rw [if_pos hany, Function.update_eq_self]
    obtain ⟨b, hb, hequals⟩ := List.any_eq_true.mp hany
    have hkey := (equals_iff.mp hequals).1
    have hsame := hrenews b hb ((h.key_eq_iff hb).mp hkey.symm)
    have hab : a = b := eq_of_key_eq hkey hsame.1.symm hsame.2.symm
    have hdecided := ((h.mem_iff _ b).mp hb).2
    rw [← hab] at hdecided
    rw [Decisions.add_self hdecided]
    exact h
  · rw [if_neg hany]
    have hfree : ∀ b ∈ store (a.userId, a.clientId), b.scope ≠ a.scope := by
      intro b hb hscope
      apply hany
      have hkey := (h.key_eq_iff hb).mpr hscope
      exact List.any_eq_true.mpr ⟨b, hb, equals_iff.mpr ⟨hkey.symm, (hrenews b hb hscope).1.symm⟩⟩
    constructor
    · intro k x
      rw [Decisions.add_eq_iff]
      by_cases hk : k = (a.userId, a.clientId)
      · rw [hk, Function.update_self, List.mem_append, List.mem_singleton]
        constructor
        · rintro (hx | rfl)
          · have hne : x.key ≠ a.key := fun hkey => hfree x hx ((h.key_eq_iff hx).mp hkey)
            exact ⟨((h.mem_iff _ x).mp hx).1, .inr ⟨hne, ((h.mem_iff _ x).mp hx).2⟩⟩
          · exact ⟨rfl, .inl rfl⟩
        · rintro ⟨hx, rfl | ⟨-, hd⟩⟩
          · exact .inr rfl
          · exact .inl ((h.mem_iff _ x).mpr ⟨hx, hd⟩)
      · rw [Function.update_of_ne hk, h.mem_iff]
        have hne : (x.userId, x.clientId) = k → x.key ≠ a.key := key_ne_of_ne hk
        constructor
        · exact fun hx => ⟨hx.1, .inr ⟨hne hx.1, hx.2⟩⟩
        · rintro ⟨hx, rfl | ⟨-, hd⟩⟩
          · exact absurd rfl (hne hx)
          · exact ⟨hx, hd⟩
    · intro k
      by_cases hk : k = (a.userId, a.clientId)
      · rw [hk, Function.update_self]
        exact (h.single _).insert hfree
      · rw [Function.update_of_ne hk]
        exact h.single k

/-- A set without two approvals of one scope loses that of the scope. -/
theorem eraseP_equals {approvals : List Approval} (hsingle : Rows.Single Approval.scope approvals)
    (hequals : ∀ b ∈ approvals, a.equals b = true ↔ b.scope = a.scope) :
    approvals.eraseP a.equals = approvals.filter (·.scope ≠ a.scope) := by
  induction approvals with
  | nil => rfl
  | cons b rest ih =>
    have hnodup : b.scope ∉ rest.map Approval.scope ∧ Rows.Single Approval.scope rest :=
      List.nodup_cons.mp hsingle
    by_cases hb : b.scope = a.scope
    · rw [List.eraseP_cons_of_pos ((hequals b List.mem_cons_self).mpr hb)]
      have hrest : ∀ x ∈ rest, decide (x.scope ≠ a.scope) = true := by
        intro x hx
        simp only [decide_eq_true_eq]
        intro hscope
        apply hnodup.1
        rw [hb, ← hscope]
        exact List.mem_map_of_mem hx
      simp only [List.filter_cons, hb, ne_eq, not_true_eq_false, decide_false, Bool.false_eq_true,
        if_false]
      exact (List.filter_eq_self.mpr hrest).symm
    · have hne : ¬a.equals b = true := fun h => hb ((hequals b List.mem_cons_self).mp h)
      rw [List.eraseP_cons_of_neg hne, ih hnodup.2 fun x hx => hequals x (List.mem_cons_of_mem b hx)]
      simp only [List.filter_cons, ne_eq, hb, not_false_eq_true, decide_true, if_true]

theorem filed_revoke (h : Filed d store)
    (hstatus : ∀ b ∈ store (a.userId, a.clientId), b.scope = a.scope → b.status = a.status) :
    Filed (d.revoke a) (store.revokeApproval a).2 := by
  have hequals : ∀ b ∈ store (a.userId, a.clientId), a.equals b = true ↔ b.scope = a.scope := by
    intro b hb
    rw [equals_iff, eq_comm, h.key_eq_iff hb]
    exact and_iff_left_of_imp fun hscope => (hstatus b hb hscope).symm
  have herase := eraseP_equals (h.single _) hequals
  unfold InMemoryApprovalStore.revokeApproval
  dsimp only
  rw [herase]
  constructor
  · intro k x
    rw [Decisions.revoke_eq_iff]
    by_cases hk : k = (a.userId, a.clientId)
    · rw [hk, Function.update_self, List.mem_filter, decide_eq_true_eq]
      constructor
      · rintro ⟨hx, hscope⟩
        obtain ⟨hkey, hd⟩ := (h.mem_iff _ x).mp hx
        exact ⟨hkey, fun heq => hscope ((h.key_eq_iff hx).mp heq), hd⟩
      · rintro ⟨hx, hne, hd⟩
        have hmem := (h.mem_iff _ x).mpr ⟨hx, hd⟩
        exact ⟨hmem, fun hscope => hne ((h.key_eq_iff hmem).mpr hscope)⟩
    · rw [Function.update_of_ne hk, h.mem_iff]
      have hne : (x.userId, x.clientId) = k → x.key ≠ a.key := key_ne_of_ne hk
      constructor
      · exact fun hx => ⟨hx.1, hne hx.1, hx.2⟩
      · exact fun hx => ⟨hx.1, hx.2.2⟩
  · intro k
    by_cases hk : k = (a.userId, a.clientId)
    · rw [hk, Function.update_self]
      exact (h.single _).sublist List.filter_sublist
    · rw [Function.update_of_ne hk]
      exact h.single k

/-! ### The table -/

theorem Tabled.undecided (h : Tabled d rows) (hfree : ∀ r ∈ rows, r.key ≠ a.key) :
    d a.key = none := by
  match hd : d a.key with
  | none => rfl
  | some (status, expiresAt) =>
    have hmem := (h.mem_iff { a with status := status, expiresAt := expiresAt }).mpr hd
    exact (hfree _ hmem rfl).elim

theorem Tabled.free (h : Tabled d rows) (hd : d a.key = none) : ∀ r ∈ rows, r.key ≠ a.key := by
  intro r hr hkey
  have hdecided := (h.mem_iff r).mp hr
  rw [hkey, hd] at hdecided
  cases hdecided

/-- No row has the key, or exactly one. -/
theorem Tabled.countP_eq (h : Tabled d rows) (a : Approval) :
    rows.countP (·.key = a.key) = if d a.key = none then 0 else 1 := by
  by_cases hd : d a.key = none
  · rw [if_pos hd, List.countP_eq_zero]
    intro r hr
    simpa using h.free hd r hr
  · rw [if_neg hd]
    match hdecided : d a.key with
    | none => exact absurd hdecided hd
    | some (status, expiresAt) =>
      have hmem := (h.mem_iff { a with status := status, expiresAt := expiresAt }).mpr hdecided
      have hselect := h.single.select_eq hmem (k := a.key) rfl
      rw [List.countP_eq_length_filter, hselect]
      rfl

/-- Where no row has the key, an update changes nothing. -/
theorem map_of_free (hfree : ∀ r ∈ rows, r.key ≠ a.key) (f : Approval → Approval) :
    (rows.map fun r => if r.key = a.key then f r else r) = rows := by
  have hsame : ∀ r ∈ rows, (if r.key = a.key then f r else r) = id r := by
    intro r hr
    rw [if_neg (hfree r hr)]
    rfl
  rw [List.map_congr_left hsame, List.map_id]

/-- A refreshed row is the approval. -/
theorem mem_refreshed : x ∈ (rows.map fun r =>
      if r.key = a.key then { r with expiresAt := a.expiresAt, status := a.status } else r) ↔
    (x = a ∧ ∃ r ∈ rows, r.key = a.key) ∨ (x ∈ rows ∧ x.key ≠ a.key) := by
  have hrow : ∀ r : Approval, r.key = a.key →
      ({ r with expiresAt := a.expiresAt, status := a.status } : Approval) = a := by
    intro r hkey
    exact eq_of_key_eq hkey rfl rfl
  rw [List.mem_map]
  constructor
  · rintro ⟨r, hr, hx⟩
    by_cases hkey : r.key = a.key
    · rw [if_pos hkey, hrow r hkey] at hx
      exact .inl ⟨hx.symm, r, hr, hkey⟩
    · rw [if_neg hkey] at hx
      rw [← hx]
      exact .inr ⟨hr, hkey⟩
  · rintro (⟨rfl, r, hr, hkey⟩ | ⟨hx, hkey⟩)
    · refine ⟨r, hr, ?_⟩
      rw [if_pos hkey]
      exact hrow r hkey
    · exact ⟨x, hx, if_neg hkey⟩

theorem tabled_add (jdbc : JdbcApprovalStore) (h : Tabled d jdbc.oauthApprovals) :
    Tabled (d.add a) (jdbc.addApproval a).oauthApprovals := by
  have hcount := h.countP_eq a
  unfold JdbcApprovalStore.addApproval JdbcApprovalStore.refreshApproval
    JdbcApprovalStore.updateRows
  dsimp only
  by_cases hd : d a.key = none
  · have hfree := h.free hd
    rw [hcount, if_pos hd, if_neg Nat.zero_ne_one]
    dsimp only
    rw [map_of_free hfree]
    constructor
    · intro x
      rw [List.mem_append, List.mem_singleton, Decisions.add_eq_iff]
      constructor
      · rintro (hx | hx)
        · exact .inr ⟨hfree x hx, (h.mem_iff x).mp hx⟩
        · exact .inl hx
      · rintro (hx | ⟨-, hx⟩)
        · exact .inr hx
        · exact .inl ((h.mem_iff x).mpr hx)
    · exact h.single.insert hfree
  · rw [hcount, if_neg hd, if_pos rfl]
    have hrow : ∃ r ∈ jdbc.oauthApprovals, r.key = a.key := by
      by_contra hnone
      apply hd
      apply h.undecided
      intro r hr hkey
      exact hnone ⟨r, hr, hkey⟩
    constructor
    · intro x
      rw [mem_refreshed, Decisions.add_eq_iff, h.mem_iff, and_iff_left hrow, and_comm (a := _ = _)]
    · unfold Rows.Single
      rw [List.map_map]
      have hkeys : (Approval.key ∘ fun r => if r.key = a.key then
          { r with expiresAt := a.expiresAt, status := a.status } else r) = Approval.key := by
        funext r
        dsimp only [Function.comp_apply]
        split_ifs
        · rfl
        · rfl
      rw [hkeys]
      exact h.single

theorem tabled_revoke (jdbc : JdbcApprovalStore) (h : Tabled d jdbc.oauthApprovals)
    (hdeletes : d a.key = none ∨ jdbc.handleRevocationsAsExpiry = false) :
    Tabled (d.revoke a) (jdbc.revokeApproval now a).2.oauthApprovals := by
  unfold JdbcApprovalStore.revokeApproval JdbcApprovalStore.updateRows
  by_cases hexpires : jdbc.handleRevocationsAsExpiry = true
  · rw [if_pos hexpires]
    rw [hexpires] at hdeletes
    have hd := hdeletes.resolve_right Bool.noConfusion
    dsimp only
    rw [map_of_free (h.free hd), Decisions.revoke_self hd]
    exact h
  · rw [if_neg hexpires]
    constructor
    · intro x
      rw [List.mem_filter, decide_eq_true_eq, Decisions.revoke_eq_iff, h.mem_iff, and_comm]
    · exact h.single.sublist List.filter_sublist

/-! ### Calls -/

theorem mem_addApproval {k : String × String} (h : x ∈ store.addApproval a k) :
    x ∈ store k ∨ k = (a.userId, a.clientId) ∧ x = a := by
  unfold InMemoryApprovalStore.addApproval InMemoryApprovalStore.insert at h
  by_cases hk : k = (a.userId, a.clientId)
  · rw [hk, Function.update_self] at h
    rw [hk]
    split_ifs at h
    · exact .inl h
    · simpa using h
  · rw [Function.update_of_ne hk] at h
    exact .inl h

theorem mem_revokeApproval {k : String × String} (h : x ∈ (store.revokeApproval a).2 k) :
    x ∈ store k := by
  unfold InMemoryApprovalStore.revokeApproval at h
  dsimp only at h
  by_cases hk : k = (a.userId, a.clientId)
  · rw [hk, Function.update_self] at h
    rw [hk]
    exact List.mem_of_mem_eraseP h
  · rwa [Function.update_of_ne hk] at h

/-- Another approval of the call does not stand in the way, unless it says something else on the
same scope. -/
theorem renews_add (h : Renews store b)
    (hsame : a.key = b.key → a.status = b.status ∧ a.expiresAt = b.expiresAt) :
    Renews (store.addApproval a) b := by
  intro x hx hscope
  rcases mem_addApproval hx with hold | ⟨hk, rfl⟩
  · exact h x hold hscope
  · apply hsame
    simp only [Prod.mk.injEq] at hk
    simp only [Approval.key, Prod.mk.injEq]
    exact ⟨hk.1.symm, hk.2.symm, hscope⟩

theorem filed_addApprovals {approvals : List Approval} (h : Filed d store)
    (hrenews : ∀ a ∈ approvals, Renews store a ∧
      ∀ b ∈ approvals, b.key = a.key → b.status = a.status ∧ b.expiresAt = a.expiresAt) :
    Filed (approvals.foldl Decisions.add d) (store.addApprovals approvals) := by
  induction approvals generalizing d store with
  | nil => exact h
  | cons a rest ih =>
    apply ih (filed_add h (hrenews a List.mem_cons_self).1)
    intro b hb
    obtain ⟨hold, hsame⟩ := hrenews b (List.mem_cons_of_mem a hb)
    constructor
    · exact renews_add hold (hsame a List.mem_cons_self)
    · intro c hc
      exact hsame c (List.mem_cons_of_mem a hc)

theorem filed_revokeApprovals {approvals : List Approval} (h : Filed d store)
    (hstatus : ∀ a ∈ approvals, ∀ b ∈ store (a.userId, a.clientId), b.scope = a.scope →
      b.status = a.status) :
    Filed (approvals.foldl Decisions.revoke d) (store.revokeApprovals approvals).2 := by
  unfold InMemoryApprovalStore.revokeApprovals
  generalize true = success
  induction approvals generalizing d store success with
  | nil => exact h
  | cons a rest ih =>
    apply ih (filed_revoke h (hstatus a List.mem_cons_self))
    intro b hb x hx hscope
    exact hstatus b (List.mem_cons_of_mem a hb) x (mem_revokeApproval hx) hscope

theorem tabled_addApprovals (jdbc : JdbcApprovalStore) (approvals : List Approval)
    (h : Tabled d jdbc.oauthApprovals) :
    Tabled (approvals.foldl Decisions.add d) (jdbc.addApprovals approvals).2.oauthApprovals := by
  unfold JdbcApprovalStore.addApprovals
  induction approvals generalizing d jdbc with
  | nil => exact h
  | cons a rest ih => exact ih _ (tabled_add jdbc h)

theorem handleRevocationsAsExpiry_revokeApproval (jdbc : JdbcApprovalStore) :
    (jdbc.revokeApproval now a).2.handleRevocationsAsExpiry = jdbc.handleRevocationsAsExpiry := by
  unfold JdbcApprovalStore.revokeApproval JdbcApprovalStore.updateRows
  split_ifs
  · rfl
  · rfl

theorem tabled_revokeApprovals (jdbc : JdbcApprovalStore) {approvals : List Approval}
    (h : Tabled d jdbc.oauthApprovals)
    (hdeletes : ∀ a ∈ approvals, d a.key = none ∨ jdbc.handleRevocationsAsExpiry = false) :
    Tabled (approvals.foldl Decisions.revoke d)
      (jdbc.revokeApprovals now approvals).2.oauthApprovals := by
  unfold JdbcApprovalStore.revokeApprovals
  generalize true = success
  induction approvals generalizing d jdbc success with
  | nil => exact h
  | cons a rest ih =>
    apply ih _ (tabled_revoke jdbc h (hdeletes a List.mem_cons_self))
    intro b hb
    rw [handleRevocationsAsExpiry_revokeApproval]
    rcases hdeletes b (List.mem_cons_of_mem a hb) with hnone | hfalse
    · left
      unfold Decisions.revoke
      by_cases hkey : b.key = a.key
      · rw [hkey, Function.update_self]
      · rw [Function.update_of_ne hkey]
        exact hnone
    · exact .inr hfalse

end Lemmas

/-- Both stores hold what was decided last. -/
structure Faithful (s : ApprovalStores) : Prop where
  filed : Filed s.decisions s.inMemory
  tabled : Tabled s.decisions s.jdbc.oauthApprovals

variable {s : ApprovalStores} {a : Approval}

theorem faithful_empty (handleRevocationsAsExpiry : Bool) :
    Faithful { jdbc := { handleRevocationsAsExpiry := handleRevocationsAsExpiry } } where
  filed := ⟨fun _ _ => by simp, fun _ => Rows.single_nil⟩
  tabled := ⟨fun _ => by simp, Rows.single_nil⟩

theorem faithful_step (op : ApprovalOperation) (hop : Unchanging s op) (h : Faithful s) :
    Faithful (s.step op) := by
  cases op with
  | addApprovals approvals =>
    constructor
    · exact filed_addApprovals h.filed hop
    · exact tabled_addApprovals s.jdbc approvals h.tabled
  | revokeApprovals now approvals =>
    constructor
    · apply filed_revokeApprovals h.filed
      intro a ha b hb hscope
      exact (hop a ha b hb hscope).1
    · apply tabled_revokeApprovals s.jdbc h.tabled
      intro a ha
      by_cases hfree : ∀ b ∈ s.inMemory (a.userId, a.clientId), b.scope ≠ a.scope
      · exact .inl (h.filed.undecided hfree)
      · push Not at hfree
        obtain ⟨b, hb, hscope⟩ := hfree
        exact .inr (hop a ha b hb hscope).2

/-- An added approval that says something else than the stored one of its scope is lost, or joins
it: either way the stored one is still answered. -/
theorem renews_of_faithful_add (h : Faithful s)
    (hadd : Faithful (s.step (.addApprovals [a]))) : Renews s.inMemory a := by
  intro b hb hscope
  have hkey := (h.filed.key_eq_iff hb).mpr hscope
  have hkept : b ∈ (s.inMemory.addApproval a) (a.userId, a.clientId) := by
    unfold InMemoryApprovalStore.addApproval InMemoryApprovalStore.insert
    rw [Function.update_self]
    split_ifs
    · exact hb
    · exact List.mem_append_left _ hb
  have hdecided := ((hadd.filed.mem_iff _ b).mp hkept).2
  rcases Decisions.add_eq_iff.mp hdecided with hba | ⟨hne, -⟩
  · rw [hba]
    exact ⟨rfl, rfl⟩
  · exact absurd hkey hne

theorem Faithful.answers_inMemory (h : Faithful s) (userId clientId : String) :
    Answers s.decisions userId clientId (s.inMemory.getApprovals userId clientId) where
  mem_iff a := by
    have hmem := h.filed.mem_iff (userId, clientId) a
    simp only [Prod.mk.injEq] at hmem
    exact hmem
  single := h.filed.single _

theorem Faithful.answers_jdbc (h : Faithful s) (userId clientId : String) :
    Answers s.decisions userId clientId (s.jdbc.getApprovals userId clientId) where
  mem_iff a := by
    unfold JdbcApprovalStore.getApprovals
    rw [List.mem_filter, decide_eq_true_eq, h.tabled.mem_iff, and_comm]
  single := by
    have hrows : Rows.Single Approval.key (s.jdbc.getApprovals userId clientId) :=
      h.tabled.single.sublist List.filter_sublist
    apply List.Nodup.of_map fun scope => (userId, clientId, scope)
    have hkeys : ((s.jdbc.getApprovals userId clientId).map Approval.scope).map
        (fun scope => (userId, clientId, scope)) =
        (s.jdbc.getApprovals userId clientId).map Approval.key := by
      rw [List.map_map]
      apply List.map_congr_left
      intro r hr
      have hboth := of_decide_eq_true (List.mem_filter.mp hr).2
      simp only [Function.comp_apply, Approval.key, hboth.1, hboth.2]
    rw [hkeys]
    exact hrows

/-- In runs in which no added approval changes a decision, both stores answer what was decided
last. -/
theorem last_decisions_answered (handleRevocationsAsExpiry : Bool) (ops : List ApprovalOperation)
    (hops : Runs.Meets step Unchanging
      { jdbc := { handleRevocationsAsExpiry := handleRevocationsAsExpiry } } ops)
    (userId clientId : String) :
    let s := Runs.exec step
      { jdbc := { handleRevocationsAsExpiry := handleRevocationsAsExpiry } } ops
    Answers s.decisions userId clientId (s.inMemory.getApprovals userId clientId) ∧
      Answers s.decisions userId clientId (s.jdbc.getApprovals userId clientId) := by
  have h := Runs.exec_invariant (fun _ op => faithful_step op) hops
    (faithful_empty handleRevocationsAsExpiry)
  exact ⟨h.answers_inMemory userId clientId, h.answers_jdbc userId clientId⟩

def approval (scope : String) (expiresAt : ℕ) (status : ApprovalStatus) : Approval :=
  ⟨"alice", "app", scope, expiresAt, status⟩

/-- A decision is repeated, revoked and made anew the other way. -/
theorem last_decisions_answered_decidedAnew :
    let ops : List ApprovalOperation := [.addApprovals [approval "read" 9000 .approved],
      .addApprovals [approval "read" 9000 .approved, approval "write" 9000 .denied],
      .revokeApprovals 2000 [approval "read" 9000 .approved],
      .addApprovals [approval "read" 12000 .denied]]
    let s := Runs.exec step { jdbc := { handleRevocationsAsExpiry := false } } ops
    Answers s.decisions "alice" "app" (s.inMemory.getApprovals "alice" "app") ∧
      Answers s.decisions "alice" "app" (s.jdbc.getApprovals "alice" "app") :=
  last_decisions_answered false _ (by decide) "alice" "app"

/-- The approval is renewed before it has run out, and then denied. The store in memory goes on
answering what was approved first, beside the denial. -/
theorem renewed_and_denied_approval_stays :
    ¬ ∀ (ops : List ApprovalOperation) (userId clientId : String),
      Answers (Runs.exec step {} ops).decisions userId clientId
        ((Runs.exec step {} ops).inMemory.getApprovals userId clientId) := by
  intro h
  let ops : List ApprovalOperation := [.addApprovals [approval "read" 1000 .approved],
    .addApprovals [approval "read" 5000 .approved], .addApprovals [approval "read" 9000 .denied]]
  have hanswers := h ops "alice" "app"
  have hstays : approval "read" 1000 .approved ∈
      (Runs.exec step {} ops).inMemory.getApprovals "alice" "app" := by decide
  have hdecided := ((hanswers.mem_iff _).mp hstays).2
  exact absurd hdecided (by decide)

end ApprovalStores

end MaxKey.OAuth2
