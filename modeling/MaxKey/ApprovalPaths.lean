import MaxKey.ApprovalDecisions

namespace MaxKey.OAuth2
open JavaException Effects

namespace ApprovalStoreUserApprovalHandler

/-- The later check marks the request approved where the update did, with the same scopes. -/
structure SameApproval (later : Except JavaException AuthorizationRequest)
    (updated : AuthorizationRequest) : Prop where
  approved : (∃ r, later = .ok r ∧ r.approved = true) ↔ updated.approved = true
  scope : ∀ r, later = .ok r → r.approved = true → updated.approved = true →
    ∀ x, x ∈ r.scope ↔ x ∈ updated.scope

/-- The answers hold a valid approval of the scope, whatever it says. -/
def answered (now : ℕ) (answers : List Approval) (scope : String) : Bool :=
  answers.any fun e => now < e.expiresAt ∧ e.scope = scope

/-- The answers hold a valid approval that approves the scope. -/
def approvedIn (now : ℕ) (answers : List Approval) (scope : String) : Bool :=
  answers.any fun e => now < e.expiresAt ∧ e.status = .approved ∧ e.scope = scope

/-- Requests take the two lists for the same set. -/
def SameScopes (scopes scopes' : List String) : Prop :=
  ∀ x, x ∈ normalizeScope scopes ↔ x ∈ normalizeScope scopes'

variable (handler : ApprovalStoreUserApprovalHandler)

/-- The approval that an update makes of a scope. -/
def decided (now : ℕ) (request : AuthorizationRequest) (userName scope : String) : Approval where
  userId := userName
  clientId := request.clientId.getD ""
  scope := scope
  expiresAt := handler.computeExpiry now
  status :=
    if isApproval (request.approvalParameters.get (handler.scopePrefix ++ scope)) then .approved
    else .denied

/-- The check and the update meet, where the store will answer for scopes and approve scopes as
given. The update denies a request all of whose scopes are denied; the check approves a request
whose scopes the client approves, or are all answered for. -/
def PathsMeet (request : AuthorizationRequest) (answered approved : String → Bool) : Prop :=
  match handler.autoApproved request with
  | .error _ => handler.consented request = [] ∧ request.scope ≠ []
  | .ok auto =>
    if ∃ scopes ∈ auto, request.scope ⊆ scopes then request.scope ⊆ handler.consented request
    else if handler.consented request = [] ∧ request.scope ≠ [] then
      ∃ x ∈ request.scope, answered x = false
    else
      (∀ x ∈ request.scope, answered x = true) ∧
        SameScopes (request.scope.filter fun x => (auto.getD []).contains x || approved x).dedup
          (handler.consented request)

variable {handler} {now later : ℕ} {request : AuthorizationRequest} {userName : String}
  {s : InMemoryApprovalStore} {answers : List Approval} {approved : List String}

theorem actedUpon_iff :
    actedUpon later request answers = true ↔ ∀ x ∈ request.scope, answered later answers x = true := by
  simp only [actedUpon, answered, List.all_eq_true, List.contains_iff_mem, List.mem_map,
    List.mem_filter, List.any_eq_true, decide_eq_true_eq]
  apply forall₂_congr
  intro x hx
  constructor
  · rintro ⟨e, ⟨he, hvalid⟩, hscope⟩
    exact ⟨e, he, hvalid, hscope⟩
  · rintro ⟨e, he, hvalid, hscope⟩
    exact ⟨e, ⟨he, hvalid⟩, hscope⟩

/-- What the check sets as scopes, up to order. -/
theorem approvedScopes_perm :
    (approvedScopes later request answers approved).Perm
      (request.scope.filter fun x => approved.contains x || approvedIn later answers x).dedup := by
  apply (List.perm_ext_iff_of_nodup ((List.nodup_dedup _).filter _) (List.nodup_dedup _)).mpr
  intro x
  simp only [approvedIn, List.mem_filter, List.mem_dedup, List.mem_append, List.mem_map,
    List.contains_iff_mem, Bool.or_eq_true, List.any_eq_true, decide_eq_true_eq]
  rw [and_comm]
  apply and_congr_right
  intro _
  apply or_congr_right
  constructor
  · rintro ⟨e, ⟨⟨he, hvalid⟩, hstatus⟩, hscope⟩
    exact ⟨e, he, hvalid, hstatus, hscope⟩
  · rintro ⟨e, he, hvalid, hstatus, hscope⟩
    exact ⟨e, ⟨⟨he, hvalid⟩, hstatus⟩, hscope⟩

theorem checkForPreApproval_of_error {e : JavaException} (h : handler.autoApproved request = .error e) :
    handler.checkForPreApproval later request userName s = .error e := by
  unfold checkForPreApproval
  rw [h]
  rfl

/-- The store is asked only where the client does not approve all scopes. -/
theorem checkForPreApproval_of_ok {auto : Option (List String)}
    (h : handler.autoApproved request = .ok auto) :
    handler.checkForPreApproval later request userName s =
      if ∃ scopes ∈ auto, request.scope ⊆ scopes then .ok { request with approved := true }
      else .ok (handler.checkStored later request
        (s.getApprovals userName (request.clientId.getD "")) (auto.getD [])) := by
  unfold checkForPreApproval
  rw [h]
  cases auto with
  | none => simp [bind, Except.bind, pure, Except.pure]
  | some scopes =>
    have hall : (request.scope.all (scopes.contains ·) = true) ↔
        ∃ x ∈ some scopes, request.scope ⊆ x := by
      simp only [List.all_eq_true, List.contains_iff_mem, Option.mem_def, Option.some.injEq,
        exists_eq_left']
      rfl
    by_cases hsub : ∃ x ∈ some scopes, request.scope ⊆ x
    · rw [if_pos hsub]
      show (if request.scope.all (scopes.contains ·) = true then _ else _) = _
      rw [if_pos (hall.mpr hsub)]
      rfl
    · rw [if_neg hsub]
      show (if request.scope.all (scopes.contains ·) = true then _ else _) = _
      rw [if_neg (fun h => hsub (hall.mp h))]
      rfl

theorem mem_updated_scope {x : String} :
    x ∈ (handler.updateAfterApproval now request userName s).1.scope ↔
      x ∈ normalizeScope (handler.consented request) :=
  mem_normalizeScope_of_perm (handler.scopes.perm _) x

theorem updated_approved_iff :
    (handler.updateAfterApproval now request userName s).1.approved = true ↔
      ¬(handler.consented request = [] ∧ request.scope ≠ []) := by
  rw [updateAfterApproval_fst_eq]
  simp only [decide_eq_true_eq]

/-- The client approves every scope: the check changes none of them. -/
theorem sameApproval_autoApproved_iff (hscope : normalizeScope request.scope = request.scope) :
    SameApproval (.ok { request with approved := true })
      (handler.updateAfterApproval now request userName s).1 ↔
      request.scope ⊆ handler.consented request := by
  have hall : request.scope ⊆ handler.consented request →
      handler.consented request = request.scope := by
    intro hsub
    apply List.filter_eq_self.mpr
    intro x hx
    exact (List.mem_filter.mp (hsub hx)).2
  constructor
  · rintro ⟨happroved, hscopes⟩
    have hupdated := happroved.mp ⟨_, rfl, rfl⟩
    have hsame := hscopes _ rfl rfl hupdated
    intro x hx
    apply mem_of_mem_normalizeScope
    · intro y hy
      exact mem_updated_scope.mp ((hsame y).mp (consented_subset hy))
    · exact mem_updated_scope.mp ((hsame x).mp hx)
  · intro hsub
    have hconsented := hall hsub
    constructor
    · apply iff_of_true ⟨_, rfl, rfl⟩
      rw [updated_approved_iff, hconsented]
      exact fun h => h.2 h.1
    · intro r hr _ _ x
      rw [← Except.ok.inj hr, mem_updated_scope, hconsented, hscope]

/-- The check looks the scopes up, and every scope is denied. -/
theorem sameApproval_denied_iff (hnew : request.approved = false)
    (hdenied : handler.consented request = [] ∧ request.scope ≠ []) :
    SameApproval (.ok (handler.checkStored later request answers approved))
      (handler.updateAfterApproval now request userName s).1 ↔
      ∃ x ∈ request.scope, answered later answers x = false := by
  have hupdated : ¬(handler.updateAfterApproval now request userName s).1.approved = true := by
    rw [updated_approved_iff]
    exact not_not_intro hdenied
  rw [checkStored_eq]
  by_cases hacted : actedUpon later request answers = true
  · rw [if_pos hacted]
    apply iff_of_false
    · intro h
      exact hupdated (h.approved.mp ⟨_, rfl, rfl⟩)
    · rintro ⟨x, hx, hfalse⟩
      rw [actedUpon_iff.mp hacted x hx] at hfalse
      cases hfalse
  · rw [if_neg hacted]
    apply iff_of_true
    · constructor
      · apply iff_of_false _ hupdated
        rintro ⟨r, hr, happroved⟩
        rw [← Except.ok.inj hr, hnew] at happroved
        cases happroved
      · intro r _ _ happroved
        exact absurd happroved hupdated
    · by_contra hnone
      apply hacted
      apply actedUpon_iff.mpr
      intro x hx
      by_contra hfalse
      exact hnone ⟨x, hx, Bool.eq_false_iff.mpr hfalse⟩

/-- The check looks the scopes up, and some scope is consented, or none is asked for. -/
theorem sameApproval_consented_iff (hnew : request.approved = false)
    (hconsented : ¬(handler.consented request = [] ∧ request.scope ≠ [])) :
    SameApproval (.ok (handler.checkStored later request answers approved))
      (handler.updateAfterApproval now request userName s).1 ↔
      (∀ x ∈ request.scope, answered later answers x = true) ∧
        SameScopes (request.scope.filter fun x =>
          approved.contains x || approvedIn later answers x).dedup (handler.consented request) := by
  have hupdated : (handler.updateAfterApproval now request userName s).1.approved = true :=
    updated_approved_iff.mpr hconsented
  rw [checkStored_eq, ← actedUpon_iff]
  by_cases hacted : actedUpon later request answers = true
  · rw [if_pos hacted]
    have hset : ∀ x, x ∈ (request.setScope (handler.scopes.scan
        (approvedScopes later request answers approved))).scope ↔
        x ∈ normalizeScope (request.scope.filter fun x =>
          approved.contains x || approvedIn later answers x).dedup := fun x =>
      mem_normalizeScope_of_perm ((handler.scopes.perm _).trans approvedScopes_perm) x
    constructor
    · intro h
      refine ⟨hacted, fun x => ?_⟩
      rw [← hset, ← mem_updated_scope (s := s)]
      exact h.scope _ rfl rfl hupdated x
    · rintro ⟨-, hsame⟩
      constructor
      · exact iff_of_true ⟨_, rfl, rfl⟩ hupdated
      · intro r hr _ _ x
        rw [← Except.ok.inj hr, mem_updated_scope, ← hsame x]
        exact hset x
  · rw [if_neg hacted]
    apply iff_of_false
    · intro h
      obtain ⟨r, hr, happroved⟩ := h.approved.mpr hupdated
      rw [← Except.ok.inj hr, hnew] at happroved
      cases happroved
    · exact fun h => hacted h.1

/-- The two paths meet by what the store will answer. The request is new, and its scopes have been
through its constructor. -/
theorem sameApproval_iff (hnew : request.approved = false)
    (hscope : normalizeScope request.scope = request.scope) (store : InMemoryApprovalStore) :
    SameApproval (handler.checkForPreApproval later request userName store)
      (handler.updateAfterApproval now request userName s).1 ↔
      handler.PathsMeet request
        (answered later (store.getApprovals userName (request.clientId.getD "")))
        (approvedIn later (store.getApprovals userName (request.clientId.getD ""))) := by
  unfold PathsMeet
  cases hauto : handler.autoApproved request with
  | error e =>
    rw [checkForPreApproval_of_error hauto]
    dsimp only
    rw [← not_iff_not, ← updated_approved_iff (s := s)]
    constructor
    · intro h
      by_contra hupdated
      apply h
      constructor
      · apply iff_of_false _ hupdated
        rintro ⟨r, hr, -⟩
        cases hr
      · intro r hr
        cases hr
    · intro hupdated h
      obtain ⟨r, hr, -⟩ := h.approved.mpr hupdated
      cases hr
  | ok auto =>
    rw [checkForPreApproval_of_ok hauto]
    dsimp only
    by_cases hall : ∃ scopes ∈ auto, request.scope ⊆ scopes
    · rw [if_pos hall, if_pos hall]
      exact sameApproval_autoApproved_iff hscope
    · rw [if_neg hall, if_neg hall]
      by_cases hdenied : handler.consented request = [] ∧ request.scope ≠ []
      · rw [if_pos hdenied]
        exact sameApproval_denied_iff hnew hdenied
      · rw [if_neg hdenied]
        exact sameApproval_consented_iff hnew hdenied

theorem pathsMeet_congr {answered answered' approved approved' : String → Bool}
    (hanswered : ∀ x ∈ request.scope, answered x = answered' x)
    (happroved : ∀ x ∈ request.scope, approved x = approved' x) :
    handler.PathsMeet request answered approved ↔ handler.PathsMeet request answered' approved' := by
  unfold PathsMeet
  cases handler.autoApproved request with
  | error e => exact Iff.rfl
  | ok auto =>
    dsimp only
    have hsome : (∃ x ∈ request.scope, answered x = false) ↔
        ∃ x ∈ request.scope, answered' x = false := by
      apply exists_congr
      intro x
      apply and_congr_right
      intro hx
      rw [hanswered x hx]
    have hall : (∀ x ∈ request.scope, answered x = true) ↔
        ∀ x ∈ request.scope, answered' x = true := by
      apply forall₂_congr
      intro x hx
      rw [hanswered x hx]
    have hscopes : (request.scope.filter fun x => (auto.getD []).contains x || approved x) =
        request.scope.filter fun x => (auto.getD []).contains x || approved' x := by
      apply List.filter_congr
      intro x hx
      rw [happroved x hx]
    rw [hsome, hall, hscopes]

/-! ### The store in memory -/

/-- The approvals that are new to a set join it. -/
theorem mem_addApprovals {approvals : List Approval} {k : String × String} {e : Approval}
    (hkey : ∀ a ∈ approvals, (a.userId, a.clientId) = k)
    (hequal : ∀ a ∈ approvals, ∀ b ∈ approvals, a.equals b = true → a = b) :
    e ∈ s.addApprovals approvals k ↔
      e ∈ s k ∨ e ∈ approvals ∧ (s k).any e.equals = false := by
  induction approvals generalizing s with
  | nil => simp [InMemoryApprovalStore.addApprovals]
  | cons a rest ih =>
    have hrest := ih (s := s.addApproval a) (fun b hb => hkey b (List.mem_cons_of_mem a hb))
      fun b hb c hc => hequal b (List.mem_cons_of_mem a hb) c (List.mem_cons_of_mem a hc)
    have hbucket : s.addApproval a k = InMemoryApprovalStore.insert a (s k) := by
      unfold InMemoryApprovalStore.addApproval
      rw [hkey a List.mem_cons_self, Function.update_self]
    have hself : a.equals a = true := by simp [Approval.equals]
    have hsame : e ∈ rest → e.equals a = true → e = a := fun he =>
      hequal e (List.mem_cons_of_mem a he) a List.mem_cons_self
    rw [hbucket] at hrest
    refine hrest.trans ?_
    unfold InMemoryApprovalStore.insert
    by_cases hany : (s k).any a.equals = true
    · rw [if_pos hany, List.mem_cons]
      constructor
      · rintro (he | ⟨he, hfree⟩)
        · exact .inl he
        · exact .inr ⟨.inr he, hfree⟩
      · rintro (he | ⟨rfl | he, hfree⟩)
        · exact .inl he
        · rw [hany] at hfree
          cases hfree
        · exact .inr ⟨he, hfree⟩
    · rw [if_neg hany, List.mem_append, List.mem_singleton, List.mem_cons, List.any_append,
        List.any_cons, List.any_nil, Bool.or_false, Bool.or_eq_false_iff]
      constructor
      · rintro ((he | rfl) | ⟨he, hfree, -⟩)
        · exact .inl he
        · exact .inr ⟨.inl rfl, Bool.eq_false_iff.mpr hany⟩
        · exact .inr ⟨.inr he, hfree⟩
      · rintro (he | ⟨rfl | he, hfree⟩)
        · exact .inl (.inl he)
        · exact .inl (.inr rfl)
        · by_cases hea : e.equals a = true
          · exact .inl (.inr (hsame he hea))
          · exact .inr ⟨he, hfree, Bool.eq_false_iff.mpr hea⟩

variable (handler) in
/-- The store takes the approval of the scope: it holds no equal one, whose expiry would stay. -/
def recorded (now : ℕ) (request : AuthorizationRequest) (userName : String)
    (s : InMemoryApprovalStore) (scope : String) : Bool :=
  !(s.getApprovals userName (request.clientId.getD "")).any
    (handler.decided now request userName scope).equals

theorem mem_updated {e : Approval} :
    e ∈ (handler.updateAfterApproval now request userName s).2.getApprovals userName
        (request.clientId.getD "") ↔
      e ∈ s.getApprovals userName (request.clientId.getD "") ∨
        ∃ x ∈ request.scope, e = handler.decided now request userName x ∧
          handler.recorded now request userName s x = true := by
  have happrovals : (handler.updateAfterApproval now request userName s).2 =
      s.addApprovals (request.scope.map (handler.decided now request userName)) := rfl
  unfold InMemoryApprovalStore.getApprovals
  rw [happrovals, mem_addApprovals]
  · apply or_congr_right
    simp only [List.mem_map, recorded, InMemoryApprovalStore.getApprovals, Bool.not_eq_true']
    constructor
    · rintro ⟨⟨x, hx, rfl⟩, hfree⟩
      exact ⟨x, hx, rfl, hfree⟩
    · rintro ⟨x, hx, rfl, hfree⟩
      exact ⟨⟨x, hx, rfl⟩, hfree⟩
  · intro a ha
    obtain ⟨x, -, rfl⟩ := List.mem_map.mp ha
    rfl
  · intro a ha b hb hequals
    obtain ⟨x, -, rfl⟩ := List.mem_map.mp ha
    obtain ⟨y, -, rfl⟩ := List.mem_map.mp hb
    have hscope : x = y := by
      simp only [Approval.equals, decided, Bool.and_eq_true] at hequals
      exact of_decide_eq_true hequals.1.2
    rw [hscope]

/-- Until the recorded approvals run out, a scope is answered for if it was so before, or its new
approval was recorded. -/
theorem answered_updated (hlater : later < handler.computeExpiry now) {x : String}
    (hx : x ∈ request.scope) :
    answered later ((handler.updateAfterApproval now request userName s).2.getApprovals userName
        (request.clientId.getD "")) x =
      (answered later (s.getApprovals userName (request.clientId.getD "")) x ||
        handler.recorded now request userName s x) := by
  apply Bool.eq_iff_iff.mpr
  simp only [answered, List.any_eq_true, decide_eq_true_eq, Bool.or_eq_true, mem_updated]
  constructor
  · rintro ⟨e, he | ⟨y, -, rfl, hrecorded⟩, hvalid, hscope⟩
    · exact .inl ⟨e, he, hvalid, hscope⟩
    · have hxy : y = x := hscope
      rw [← hxy]
      exact .inr hrecorded
  · rintro (⟨e, he, hvalid, hscope⟩ | hrecorded)
    · exact ⟨e, .inl he, hvalid, hscope⟩
    · exact ⟨handler.decided now request userName x, .inr ⟨x, hx, rfl, hrecorded⟩, hlater, rfl⟩

theorem status_decided (x : String) : (handler.decided now request userName x).status = .approved ↔
    isApproval (request.approvalParameters.get (handler.scopePrefix ++ x)) = true := by
  unfold decided
  dsimp only
  split_ifs with h
  · simp [h]
  · simp [h]

theorem approvedIn_updated (hlater : later < handler.computeExpiry now) {x : String}
    (hx : x ∈ request.scope) :
    approvedIn later ((handler.updateAfterApproval now request userName s).2.getApprovals userName
        (request.clientId.getD "")) x =
      (approvedIn later (s.getApprovals userName (request.clientId.getD "")) x ||
        isApproval (request.approvalParameters.get (handler.scopePrefix ++ x)) &&
          handler.recorded now request userName s x) := by
  apply Bool.eq_iff_iff.mpr
  simp only [approvedIn, List.any_eq_true, decide_eq_true_eq, Bool.or_eq_true, Bool.and_eq_true,
    mem_updated]
  constructor
  · rintro ⟨e, he | ⟨y, -, rfl, hrecorded⟩, hvalid, hstatus, hscope⟩
    · exact .inl ⟨e, he, hvalid, hstatus, hscope⟩
    · have hxy : y = x := hscope
      rw [← hxy]
      exact .inr ⟨(status_decided y).mp hstatus, hrecorded⟩
  · rintro (⟨e, he, hvalid, hstatus, hscope⟩ | ⟨hconsent, hrecorded⟩)
    · exact ⟨e, .inl he, hvalid, hstatus, hscope⟩
    · exact ⟨handler.decided now request userName x, .inr ⟨x, hx, rfl, hrecorded⟩, hlater,
        (status_decided x).mpr hconsent, rfl⟩

/-- Over the store in memory the later check meets the update where the client approves all
scopes and the user consents to them; or all are denied, and one denial was not recorded; or each
scope is answered for, and those that are approved then are those that are consented to. -/
theorem approval_paths_meet_iff (handler : ApprovalStoreUserApprovalHandler) (now later : ℕ)
    (request : AuthorizationRequest) (userName : String) (s : InMemoryApprovalStore)
    (hnew : request.approved = false) (hscope : normalizeScope request.scope = request.scope)
    (hlater : later < handler.computeExpiry now) :
    SameApproval (handler.checkForPreApproval later request userName
        (handler.updateAfterApproval now request userName s).2)
      (handler.updateAfterApproval now request userName s).1 ↔
      handler.PathsMeet request
        (fun x => answered later (s.getApprovals userName (request.clientId.getD "")) x ||
          handler.recorded now request userName s x)
        (fun x => approvedIn later (s.getApprovals userName (request.clientId.getD "")) x ||
          isApproval (request.approvalParameters.get (handler.scopePrefix ++ x)) &&
            handler.recorded now request userName s x) := by
  rw [sameApproval_iff hnew hscope]
  apply pathsMeet_congr
  · intro x hx
    exact answered_updated hlater hx
  · intro x hx
    exact approvedIn_updated hlater hx

def hourHandler : ApprovalStoreUserApprovalHandler where
  approvalExpirySeconds := 3600
  isMatch scope auto := scope = auto
  monthLater now := now + 2592000000

def asked (parameters : Parameters) : AuthorizationRequest where
  requestParameters := []
  approvalParameters := parameters
  clientId := some "app"
  scope := ["read", "write"]
  state := none
  redirectUri := none
  responseTypes := ["code"]

/-- One scope of two is approved, and the answer is the same half an hour later. -/
theorem approval_paths_meet_oneOfTwo :
    SameApproval (hourHandler.checkForPreApproval 1800000 (asked [("scope.read", "true")]) "alice"
        (hourHandler.updateAfterApproval 0 (asked [("scope.read", "true")]) "alice" fun _ => []).2)
      (hourHandler.updateAfterApproval 0 (asked [("scope.read", "true")]) "alice" fun _ => []).1 :=
  (approval_paths_meet_iff hourHandler 0 1800000 (asked [("scope.read", "true")]) "alice"
    (fun _ => []) rfl (by decide) (by decide)).mpr ⟨by decide, fun _ => Iff.rfl⟩

/-- Both scopes are denied, and the request is approved half an hour later, with no scope. -/
theorem denied_request_approved_later :
    ¬ ∀ (handler : ApprovalStoreUserApprovalHandler) (now later : ℕ)
      (request : AuthorizationRequest) (userName : String) (s : InMemoryApprovalStore),
      request.approved = false → normalizeScope request.scope = request.scope →
        later < handler.computeExpiry now →
          SameApproval (handler.checkForPreApproval later request userName
              (handler.updateAfterApproval now request userName s).2)
            (handler.updateAfterApproval now request userName s).1 := by
  intro h
  have hsame := h hourHandler 0 1800000 (asked []) "alice" (fun _ => []) rfl (by decide) (by decide)
  have hlater : ∃ r, hourHandler.checkForPreApproval 1800000 (asked []) "alice"
      (hourHandler.updateAfterApproval 0 (asked []) "alice" fun _ => []).2 = .ok r ∧
        r.approved = true := ⟨{ asked [] with scope := [], approved := true }, rfl, rfl⟩
  have hupdated := hsame.approved.mp hlater
  exact absurd hupdated (by decide)

end ApprovalStoreUserApprovalHandler

end MaxKey.OAuth2
