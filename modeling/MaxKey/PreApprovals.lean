import MaxKey.ApprovalPaths

namespace MaxKey.OAuth2
open JavaException Effects OAuth2Utils

/-- The handler of the endpoint, which may leave the approval store out of account. -/
structure OAuth20UserApprovalHandler extends ApprovalStoreUserApprovalHandler where
  useApprovalStore : Bool := true

/-- Without the store, one requested scope that the client approves by itself is enough. -/
def OAuth20UserApprovalHandler.checkForPreApproval (handler : OAuth20UserApprovalHandler) (now : ℕ)
    (request : AuthorizationRequest) (userName : String) (store : InMemoryApprovalStore) :
    Except JavaException AuthorizationRequest :=
  if handler.useApprovalStore then
    handler.toApprovalStoreUserApprovalHandler.checkForPreApproval now request userName store
  else
    match handler.clientDetailsService with
    | none => .ok { request with approved := false }
    | some clients =>
      match clients.loadClientByClientId request.clientId with
      | .ok client =>
        let approved := request.scope.any fun scope =>
          handler.isAutoApprove client scope || handler.isAutoApprove client "all"
        .ok { request with approved := approved }
      | .error e =>
        if e.isClientRegistrationException then .ok { request with approved := false } else .error e

namespace PreApprovals
open ApprovalStoreUserApprovalHandler

variable (handler : ApprovalStoreUserApprovalHandler) (now : ℕ) (request : AuthorizationRequest)
  (userName : String) (store : InMemoryApprovalStore)

/-- The client of the request approves the scope, or all scopes, by itself. -/
def AutoApproved (scope : String) : Prop :=
  ∃ clients ∈ handler.clientDetailsService, ∃ client,
    clients.loadClientByClientId request.clientId = .ok client ∧
      (handler.isAutoApprove client scope || handler.isAutoApprove client "all") = true

/-- The store holds an approval by the user of that scope that has not run out. -/
def Covered (scope : String) : Prop :=
  ∃ approval ∈ store.getApprovals userName (request.clientId.getD ""),
    now < approval.expiresAt ∧ approval.status = .approved ∧ approval.scope = scope

def Allowed (scope : String) : Prop :=
  AutoApproved handler request scope ∨ Covered now request userName store scope

/-- What a check lets pass without a question holds only scopes that are allowed. -/
def OnlyAllowed (result : Except JavaException AuthorizationRequest) : Prop :=
  ∀ r, result = .ok r → r.approved = true →
    ∀ scope ∈ r.scope, Allowed handler now request userName store scope

/-- The one requested scope that is allowed, where all others are denied, holds a blank or a comma only
if what it is taken apart into is allowed too. -/
def PartsAllowed : Prop :=
  (∀ scope ∈ request.scope,
      answered now (store.getApprovals userName (request.clientId.getD "")) scope = true) →
    (∃ scope ∈ request.scope, ¬ AutoApproved handler request scope) →
      ∀ scope ∈ request.scope, Allowed handler now request userName store scope →
        (∀ other ∈ request.scope, Allowed handler now request userName store other → other = scope) →
          JavaText.contains scope " " || JavaText.contains scope "," →
            ∀ part ∈ parseParameterList (some scope), Allowed handler now request userName store part

/-- The client of the request is looked up, or is found not to be registered. -/
def Looked : Prop := ∃ auto, handler.autoApproved request = .ok auto

variable {handler} {now} {request} {userName} {store}

theorem mem_autoApproved {auto : Option (List String)} (h : handler.autoApproved request = .ok auto)
    {scope : String} (hscope : scope ∈ request.scope) :
    scope ∈ auto.getD [] ↔ AutoApproved handler request scope := by
  unfold autoApproved at h
  unfold AutoApproved
  cases hservice : handler.clientDetailsService with
  | none =>
    rw [hservice] at h
    rw [← Except.ok.inj h]
    simp
  | some clients =>
    rw [hservice] at h
    dsimp only at h
    cases hload : clients.loadClientByClientId request.clientId with
    | error e =>
      rw [hload] at h
      dsimp only at h
      split_ifs at h
      rw [← Except.ok.inj h]
      simp [hload]
    | ok client =>
      rw [hload] at h
      rw [← Except.ok.inj h]
      simp [hload, hscope]

theorem approvedIn_iff {scope : String} :
    approvedIn now (store.getApprovals userName (request.clientId.getD "")) scope = true ↔
      Covered now request userName store scope := by
  simp only [approvedIn, Covered, List.any_eq_true, decide_eq_true_eq]

/-- The scopes that the check of the store keeps. -/
def kept (now : ℕ) (request : AuthorizationRequest) (userName : String) (store : InMemoryApprovalStore)
    (auto : Option (List String)) : List String :=
  (request.scope.filter fun scope => (auto.getD []).contains scope ||
    approvedIn now (store.getApprovals userName (request.clientId.getD "")) scope).dedup

variable (now) (userName) (store) in
theorem mem_kept {auto : Option (List String)} (h : handler.autoApproved request = .ok auto)
    (scope : String) : scope ∈ kept now request userName store auto ↔
      scope ∈ request.scope ∧ Allowed handler now request userName store scope := by
  unfold kept Allowed
  rw [List.mem_dedup, List.mem_filter, Bool.or_eq_true, List.contains_iff_mem, approvedIn_iff]
  apply and_congr_right
  intro hscope
  rw [mem_autoApproved h hscope]

variable (now) (userName) (store) in
/-- The kept scopes are allowed as they are set exactly if a single one has only allowed parts. -/
theorem normalizeScope_kept_allowed {auto : Option (List String)}
    (h : handler.autoApproved request = .ok auto) :
    (∀ scope ∈ normalizeScope (kept now request userName store auto),
        Allowed handler now request userName store scope) ↔
      ∀ scope ∈ request.scope, Allowed handler now request userName store scope →
        (∀ other ∈ request.scope, Allowed handler now request userName store other → other = scope) →
          JavaText.contains scope " " || JavaText.contains scope "," →
            ∀ part ∈ parseParameterList (some scope),
              Allowed handler now request userName store part := by
  have hmem := mem_kept now userName store h
  have hnodup : (kept now request userName store auto).Nodup := List.nodup_dedup _
  cases hkept : kept now request userName store auto with
  | nil =>
    rw [hkept] at hmem
    apply iff_of_true
    · intro scope hscope
      cases hscope
    · intro scope hscope hallowed
      cases (hmem scope).mpr ⟨hscope, hallowed⟩
  | cons first rest =>
    rw [hkept] at hmem hnodup
    have hfirst := (hmem first).mp List.mem_cons_self
    cases rest with
    | nil =>
      have hone : ∀ scope ∈ request.scope, Allowed handler now request userName store scope →
          scope = first := fun scope hscope hallowed =>
        List.mem_singleton.mp ((hmem scope).mpr ⟨hscope, hallowed⟩)
      constructor
      · intro hall scope hscope hallowed _ hsplit part hpart
        rw [hone scope hscope hallowed] at hsplit hpart
        apply hall part
        unfold normalizeScope
        dsimp only
        rw [if_pos hsplit]
        exact hpart
      · intro hparts part hpart
        unfold normalizeScope at hpart
        dsimp only at hpart
        split_ifs at hpart with hsplit
        · exact hparts first hfirst.1 hfirst.2 hone hsplit part hpart
        · rw [List.mem_singleton.mp hpart]
          exact hfirst.2
    | cons second rest =>
      -- two scopes are kept as they are
      apply iff_of_true
      · intro scope hscope
        exact ((hmem scope).mp hscope).2
      · intro scope _ _ hunique
        have hsecond := (hmem second).mp (List.mem_cons_of_mem first List.mem_cons_self)
        have hsame : first = second :=
          (hunique first hfirst.1 hfirst.2).trans (hunique second hsecond.1 hsecond.2).symm
        rw [hsame] at hnodup
        exact absurd List.mem_cons_self (List.nodup_cons.mp hnodup).1

/-- What the check leaves to be asked is not held against it. -/
theorem onlyAllowed_of_asked {result : Except JavaException AuthorizationRequest}
    (h : ∀ r, result = .ok r → r.approved = false) :
    OnlyAllowed handler now request userName store result := by
  intro r hr happroved
  rw [h r hr] at happroved
  cases happroved

/-- Where the client does not approve all scopes, one of the requested ones is left over. -/
theorem exists_not_autoApproved {auto : Option (List String)}
    (hauto : handler.autoApproved request = .ok auto)
    (hall : ¬∃ scopes ∈ auto, request.scope ⊆ scopes) {scope : String}
    (hscope : scope ∈ request.scope) :
    ∃ other ∈ request.scope, ¬ AutoApproved handler request other := by
  by_contra hnone
  push Not at hnone
  apply hall
  cases auto with
  | none =>
    have hmem := (mem_autoApproved hauto hscope).mpr (hnone scope hscope)
    cases hmem
  | some scopes =>
    exact ⟨scopes, rfl, fun other hother => (mem_autoApproved hauto hother).mpr (hnone other hother)⟩

theorem autoApproved_of_all {auto : Option (List String)}
    (hauto : handler.autoApproved request = .ok auto)
    (hall : ∃ scopes ∈ auto, request.scope ⊆ scopes) :
    ∀ scope ∈ request.scope, AutoApproved handler request scope := by
  obtain ⟨scopes, hscopes, hsub⟩ := hall
  intro scope hscope
  apply (mem_autoApproved hauto hscope).mp
  rw [Option.mem_def.mp hscopes]
  exact hsub hscope

variable (now) (userName) (store) in
/-- The request is sent on with the scopes that are kept, set in some order. -/
theorem setScope_allowed_iff {auto : Option (List String)}
    (hauto : handler.autoApproved request = .ok auto) :
    (∀ scope ∈ (request.setScope (handler.scopes.scan (approvedScopes now request
        (store.getApprovals userName (request.clientId.getD "")) (auto.getD [])))).scope,
      Allowed handler now request userName store scope) ↔
    ∀ scope ∈ request.scope, Allowed handler now request userName store scope →
      (∀ other ∈ request.scope, Allowed handler now request userName store other → other = scope) →
        JavaText.contains scope " " || JavaText.contains scope "," →
          ∀ part ∈ parseParameterList (some scope),
            Allowed handler now request userName store part := by
  have hset : ∀ scope, scope ∈ (request.setScope (handler.scopes.scan (approvedScopes now request
      (store.getApprovals userName (request.clientId.getD "")) (auto.getD [])))).scope ↔
        scope ∈ normalizeScope (kept now request userName store auto) := fun scope =>
    mem_normalizeScope_of_perm ((handler.scopes.perm _).trans approvedScopes_perm) scope
  simp only [hset]
  exact normalizeScope_kept_allowed now userName store hauto

variable (handler) (now) (userName) (store) in
/-- The check of the store lets only allowed scopes pass, unless it takes the last one apart. -/
theorem stored_iff (hnew : request.approved = false) :
    OnlyAllowed handler now request userName store
        (handler.checkForPreApproval now request userName store) ↔
      (Looked handler request → PartsAllowed handler now request userName store) := by
  unfold Looked
  cases hauto : handler.autoApproved request with
  | error e =>
    rw [checkForPreApproval_of_error hauto]
    apply iff_of_true
    · intro r hr
      cases hr
    · intro ⟨auto, hlooked⟩
      cases hlooked
  | ok auto =>
    have hlooked : ∃ auto', (Except.ok auto : Except JavaException _) = .ok auto' := ⟨auto, rfl⟩
    rw [checkForPreApproval_of_ok hauto, forall_prop_of_true hlooked]
    by_cases hall : ∃ scopes ∈ auto, request.scope ⊆ scopes
    · rw [if_pos hall]
      have happroved := autoApproved_of_all hauto hall
      apply iff_of_true
      · intro r hr _ scope hscope
        rw [← Except.ok.inj hr] at hscope
        exact .inl (happroved scope hscope)
      · intro _ ⟨scope, hscope, hdenied⟩
        exact absurd (happroved scope hscope) hdenied
    · rw [if_neg hall, checkStored_eq]
      unfold PartsAllowed
      by_cases hacted : actedUpon now request
          (store.getApprovals userName (request.clientId.getD "")) = true
      · rw [if_pos hacted, forall_prop_of_true (actedUpon_iff.mp hacted)]
        have hparts := setScope_allowed_iff now userName store hauto
        constructor
        · intro h _
          apply hparts.mp
          intro scope hscope
          exact h _ rfl rfl scope hscope
        · intro h r hr _ scope hscope
          rw [← Except.ok.inj hr] at hscope
          refine hparts.mpr (fun x hx => ?_) scope hscope
          exact h (exists_not_autoApproved hauto hall hx) x hx
      · rw [if_neg hacted]
        apply iff_of_true
        · apply onlyAllowed_of_asked
          intro r hr
          rw [← Except.ok.inj hr, hnew]
        · intro hanswered
          exact absurd (actedUpon_iff.mpr hanswered) hacted

/-- What a client that is loaded approves of itself. -/
theorem autoApproved_iff_of_loaded {handler : OAuth20UserApprovalHandler}
    {clients : ClientDetailsService} {client : ClientDetails}
    (hservice : handler.clientDetailsService = some clients)
    (hload : clients.loadClientByClientId request.clientId = .ok client) (scope : String) :
    AutoApproved handler.toApprovalStoreUserApprovalHandler request scope ↔
      (handler.isAutoApprove client scope || handler.isAutoApprove client "all") = true := by
  unfold AutoApproved
  simp only [hservice, Option.mem_def, Option.some.injEq, exists_eq_left', hload, Except.ok.injEq]

/-- Without the store the whole request passes with its first scope that the client approves. -/
theorem unstored_iff {handler : OAuth20UserApprovalHandler} (hoff : handler.useApprovalStore = false) :
    OnlyAllowed handler.toApprovalStoreUserApprovalHandler now request userName store
        (handler.checkForPreApproval now request userName store) ↔
      ((∀ scope ∈ request.scope,
          ¬ AutoApproved handler.toApprovalStoreUserApprovalHandler request scope) ∨
        ∀ scope ∈ request.scope,
          Allowed handler.toApprovalStoreUserApprovalHandler now request userName store scope) := by
  unfold OAuth20UserApprovalHandler.checkForPreApproval
  rw [hoff]
  simp only [Bool.false_eq_true, if_false]
  -- where no client is looked up nothing is approved
  have hnone : ∀ result : Except JavaException AuthorizationRequest,
      (∀ scope, ¬ AutoApproved handler.toApprovalStoreUserApprovalHandler request scope) →
      (∀ r, result = .ok r → r.approved = false) →
      (OnlyAllowed handler.toApprovalStoreUserApprovalHandler now request userName store result ↔
        ((∀ scope ∈ request.scope,
            ¬ AutoApproved handler.toApprovalStoreUserApprovalHandler request scope) ∨
          ∀ scope ∈ request.scope,
            Allowed handler.toApprovalStoreUserApprovalHandler now request userName store scope)) := by
    intro result hauto hresult
    apply iff_of_true
    · exact onlyAllowed_of_asked hresult
    · exact .inl fun scope _ => hauto scope
  cases hservice : handler.clientDetailsService with
  | none =>
    apply hnone
    · rintro scope ⟨clients, hclients, -⟩
      rw [hservice] at hclients
      cases hclients
    · intro r hr
      rw [← Except.ok.inj hr]
  | some clients =>
    dsimp only
    cases hload : clients.loadClientByClientId request.clientId with
    | error e =>
      apply hnone
      · rintro scope ⟨clients', hclients, client, hclient, -⟩
        rw [hservice] at hclients
        rw [← Option.some.inj hclients, hload] at hclient
        cases hclient
      · intro r hr
        dsimp only at hr
        split_ifs at hr
        rw [← Except.ok.inj hr]
    | ok client =>
      have hauto := autoApproved_iff_of_loaded hservice hload
      constructor
      · intro h
        by_cases hany : ∃ scope ∈ request.scope,
            AutoApproved handler.toApprovalStoreUserApprovalHandler request scope
        · right
          intro scope hscope
          refine h _ rfl ?_ scope hscope
          obtain ⟨first, hfirst, happroved⟩ := hany
          exact List.any_eq_true.mpr ⟨first, hfirst, (hauto first).mp happroved⟩
        · left
          intro scope hscope happroved
          exact hany ⟨scope, hscope, happroved⟩
      · intro h r hr happroved scope hscope
        rw [← Except.ok.inj hr] at happroved hscope
        rcases h with hdenied | hallowed
        · obtain ⟨first, hfirst, hmatch⟩ := List.any_eq_true.mp happroved
          exact absurd ((hauto first).mpr hmatch) (hdenied first hfirst)
        · exact hallowed scope hscope

/-- Both handlers let a new request pass with allowed scopes only exactly where they do not take a last
scope apart, and, without the store, where the client approves none of the scopes or all are allowed. -/
theorem preApproval_iff (handler : OAuth20UserApprovalHandler) (now : ℕ)
    (request : AuthorizationRequest) (userName : String) (store : InMemoryApprovalStore)
    (hnew : request.approved = false) :
    (OnlyAllowed handler.toApprovalStoreUserApprovalHandler now request userName store
        (handler.toApprovalStoreUserApprovalHandler.checkForPreApproval now request userName store) ↔
      (Looked handler.toApprovalStoreUserApprovalHandler request →
        PartsAllowed handler.toApprovalStoreUserApprovalHandler now request userName store)) ∧
    (OnlyAllowed handler.toApprovalStoreUserApprovalHandler now request userName store
        (handler.checkForPreApproval now request userName store) ↔
      if handler.useApprovalStore then
        Looked handler.toApprovalStoreUserApprovalHandler request →
          PartsAllowed handler.toApprovalStoreUserApprovalHandler now request userName store
      else
        (∀ scope ∈ request.scope,
          ¬ AutoApproved handler.toApprovalStoreUserApprovalHandler request scope) ∨
        ∀ scope ∈ request.scope,
          Allowed handler.toApprovalStoreUserApprovalHandler now request userName store scope) := by
  have hstored := stored_iff handler.toApprovalStoreUserApprovalHandler now userName store hnew
  refine ⟨hstored, ?_⟩
  by_cases hon : handler.useApprovalStore = true
  · rw [if_pos hon]
    unfold OAuth20UserApprovalHandler.checkForPreApproval
    rw [if_pos hon]
    exact hstored
  · rw [if_neg hon]
    exact unstored_iff (Bool.eq_false_iff.mpr hon)

/-- One client, which approves reading by itself. -/
def readers : ClientDetailsService where
  loadClientByClientId _ :=
    .ok { clientId := "app", scope := ["read", "write"], autoApproveScopes := some ["read"] }
  no_authenticationException _ _ h := by cases h

def reading (useApprovalStore : Bool) : OAuth20UserApprovalHandler where
  toApprovalStoreUserApprovalHandler := { hourHandler with clientDetailsService := some readers }
  useApprovalStore := useApprovalStore

/-- Of two scopes the client approves the one, and the user has approved the other. -/
theorem preApproval_iff_reading :
    OnlyAllowed (reading true).toApprovalStoreUserApprovalHandler 1000 (asked []) "alice"
        (fun _ => [⟨"alice", "app", "write", 2000, .approved⟩])
        ((reading true).checkForPreApproval 1000 (asked []) "alice"
          fun _ => [⟨"alice", "app", "write", 2000, .approved⟩]) := by
  apply (preApproval_iff (reading true) 1000 (asked []) "alice"
    (fun _ => [⟨"alice", "app", "write", 2000, .approved⟩]) rfl).2.mpr
  intro _ _ _ scope hscope _ _ hsplit
  have hplain : ∀ scope ∈ ["read", "write"],
      (JavaText.contains scope " " || JavaText.contains scope ",") = false := by decide
  rw [hplain scope hscope] at hsplit
  cases hsplit

/-- Reading is approved by the client, and writing passes with it. -/
theorem write_passes_with_read :
    ¬ ∀ (handler : OAuth20UserApprovalHandler) (now : ℕ) (request : AuthorizationRequest)
      (userName : String) (store : InMemoryApprovalStore), request.approved = false →
        OnlyAllowed handler.toApprovalStoreUserApprovalHandler now request userName store
          (handler.checkForPreApproval now request userName store) := by
  intro h
  have hwrite := h (reading false) 1000 (asked []) "alice" (fun _ => []) rfl
    { asked [] with approved := true } rfl rfl "write" (List.mem_cons_of_mem _ List.mem_cons_self)
  rcases hwrite with ⟨clients, hclients, client, hload, happroved⟩ | ⟨approval, happroval, -⟩
  · rw [← Option.some.inj (Option.mem_def.mp hclients)] at hload
    rw [← Except.ok.inj hload] at happroved
    exact absurd happroved (by decide)
  · cases happroval

end PreApprovals

end MaxKey.OAuth2
