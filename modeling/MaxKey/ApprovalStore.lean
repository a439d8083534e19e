import MaxKey.AuthorizationEndpoint
import MaxKey.KeyedTable

namespace MaxKey.OAuth2
open JavaException Effects
open Function (update)

inductive ApprovalStatus
  | approved
  | denied
  deriving DecidableEq

structure Approval where
  userId : String
  clientId : String
  scope : String
  expiresAt : ℕ
  status : ApprovalStatus
  deriving DecidableEq

/-- Two approvals are equal whatever their times are. -/
def Approval.equals (a b : Approval) : Bool :=
  a.userId = b.userId && a.clientId = b.clientId && a.scope = b.scope && a.status = b.status

/-- The sets of approvals by user and client. A missing set reads as an empty one. -/
abbrev InMemoryApprovalStore := String × String → List Approval

namespace InMemoryApprovalStore

def getApprovals (store : InMemoryApprovalStore) (userId clientId : String) : List Approval :=
  store (userId, clientId)

/-- An equal approval keeps its place and its time. -/
def insert (approval : Approval) (collection : List Approval) : List Approval :=
  if collection.any approval.equals then collection else collection ++ [approval]

def addApproval (store : InMemoryApprovalStore) (approval : Approval) : InMemoryApprovalStore :=
  let key := (approval.userId, approval.clientId)
  update store key (insert approval (store key))

def addApprovals (store : InMemoryApprovalStore) (approvals : List Approval) :
    InMemoryApprovalStore := approvals.foldl addApproval store

/-- What is added under a key depends on nothing else in the store. -/
theorem addApprovals_congr {s t : InMemoryApprovalStore} {key : String × String}
    (h : s key = t key) (approvals : List Approval) :
    addApprovals s approvals key = addApprovals t approvals key := by
  induction approvals generalizing s t with
  | nil => exact h
  | cons approval approvals ih =>
    refine ih ?_
    unfold addApproval
    by_cases hkey : key = (approval.userId, approval.clientId)
    · rw [← hkey, Function.update_self, Function.update_self, h]
    · rw [Function.update_of_ne hkey, Function.update_of_ne hkey, h]

theorem addApprovals_of_ne {key : String × String} {approvals : List Approval}
    (h : ∀ approval ∈ approvals, (approval.userId, approval.clientId) ≠ key)
    (s : InMemoryApprovalStore) : addApprovals s approvals key = s key := by
  induction approvals generalizing s with
  | nil => rfl
  | cons approval approvals ih =>
    have hrest := ih (fun a ha => h a (List.mem_cons_of_mem _ ha)) (addApproval s approval)
    have hfirst := h approval List.mem_cons_self
    refine hrest.trans (Function.update_of_ne ?_ _ _)
    exact hfirst.symm

end InMemoryApprovalStore

/-- The handler remembers decisions. Regular expressions, the calendar and the orders in which
hash sets are walked come from the platform. -/
structure ApprovalStoreUserApprovalHandler where
  scopePrefix : String := "scope."
  approvalExpirySeconds : ℤ := -1
  clientDetailsService : Option ClientDetailsService := none
  isMatch : String → String → Bool
  monthLater : ℕ → ℕ
  scopes : RowOrder String := .insertion String
  approvals : RowOrder Approval := .insertion Approval

namespace ApprovalStoreUserApprovalHandler

variable (handler : ApprovalStoreUserApprovalHandler)

def isAutoApprove (client : ClientDetails) (scope : String) : Bool :=
  (client.autoApproveScopes.getD []).any fun auto => auto = "true" || handler.isMatch scope auto

/-- The scopes that the client approves by itself; a client that is not registered prevents
the check. -/
def autoApproved (request : AuthorizationRequest) : Except JavaException (Option (List String)) :=
  match handler.clientDetailsService with
  | none => .ok none
  | some clients =>
    match clients.loadClientByClientId request.clientId with
    | .ok client => .ok <| some <| request.scope.filter fun scope =>
        handler.isAutoApprove client scope || handler.isAutoApprove client "all"
    | .error e => if e.isClientRegistrationException then .ok none else .error e

/-- The request is approved when each of its scopes has been acted upon. -/
def checkStored (now : ℕ) (request : AuthorizationRequest) (userApprovals : List Approval)
    (approved : List String) : AuthorizationRequest :=
  let valid := userApprovals.filter fun approval => now < approval.expiresAt
  let approvedByUser := valid.filter fun approval => approval.status = .approved
  let approvedScopes := (approved ++ approvedByUser.map Approval.scope).dedup
  if request.scope.all ((valid.map Approval.scope).contains ·) then
    { request.setScope (handler.scopes.scan (approvedScopes.filter (request.scope.contains ·))) with
      approved := true }
  else request

def checkForPreApproval (now : ℕ) (request : AuthorizationRequest) (userName : String)
    (store : InMemoryApprovalStore) : Except JavaException AuthorizationRequest := do
  let approved ← handler.autoApproved request
  let userApprovals := store.getApprovals userName (request.clientId.getD "")
  match approved with
  | none => return handler.checkStored now request userApprovals []
  | some approved =>
    if request.scope.all (approved.contains ·) then return { request with approved := true }
    else return handler.checkStored now request userApprovals approved

def computeExpiry (now : ℕ) : ℕ :=
  if handler.approvalExpirySeconds = -1 then handler.monthLater now
  else (now + handler.approvalExpirySeconds * 1000).toNat

/-- A scope is approved by a parameter that says true or begins with approve. -/
def isApproval (value : Option String) : Bool :=
  let value := String.ofList ((value.getD "").toList.map Char.toLower)
  value = "true" || JavaText.startsWith value "approve"

def updateAfterApproval (now : ℕ) (request : AuthorizationRequest) (userName : String)
    (store : InMemoryApprovalStore) : AuthorizationRequest × InMemoryApprovalStore :=
  let isApproved := fun scope => isApproval (request.approvalParameters.get (handler.scopePrefix ++ scope))
  let approvedScopes := request.scope.filter isApproved
  let approvals := request.scope.map fun scope => {
    userId := userName, clientId := request.clientId.getD "", scope := scope
    expiresAt := handler.computeExpiry now
    status := if isApproved scope then ApprovalStatus.approved else .denied }
  ({ request.setScope (handler.scopes.scan approvedScopes) with
      approved := ¬(approvedScopes = [] ∧ request.scope ≠ []) },
    store.addApprovals approvals)

def putScope (request : AuthorizationRequest) (model : List (String × String))
    (approval : Approval) : List (String × String) :=
  if approval.scope ∈ request.scope then
    model.map fun entry =>
      if entry.1 = "scope." ++ approval.scope then
        (entry.1, if approval.status = .approved then "true" else "false")
      else entry
  else model

/-- The scopes of the approval page: what the store holds is shown as the user's last word. -/
def getUserApprovalRequest (request : AuthorizationRequest) (userName : String)
    (store : InMemoryApprovalStore) : List (String × String) :=
  let unapproved := request.scope.map fun scope => ("scope." ++ scope, "false")
  let userApprovals := store.getApprovals userName (request.clientId.getD "")
  (handler.approvals.scan userApprovals).foldl (putScope request) unapproved

/-- The endpoint hands the handler the session's BasicAuthentication, whose name it asks for. -/
def toUserApprovalHandler : AuthorizationEndpoint.UserApprovalHandler InMemoryApprovalStore where
  checkForPreApproval now request userAuthentication :=
    handler.checkForPreApproval now request userAuthentication.getName
  updateAfterApproval now request userAuthentication :=
    handler.updateAfterApproval now request userAuthentication.getName
  getUserApprovalRequest request userAuthentication store :=
    some (handler.getUserApprovalRequest request userAuthentication.getName store)

variable {handler} {now : ℕ} {request : AuthorizationRequest} {userName : String}
  {s t : InMemoryApprovalStore}

/-- Both lookups read the store at the user's name and the client of the request only. -/
theorem checkForPreApproval_congr
    (h : s (userName, request.clientId.getD "") = t (userName, request.clientId.getD "")) :
    handler.checkForPreApproval now request userName s =
      handler.checkForPreApproval now request userName t := by
  unfold checkForPreApproval InMemoryApprovalStore.getApprovals
  rw [h]

theorem getUserApprovalRequest_congr
    (h : s (userName, request.clientId.getD "") = t (userName, request.clientId.getD "")) :
    handler.getUserApprovalRequest request userName s =
      handler.getUserApprovalRequest request userName t := by
  unfold getUserApprovalRequest InMemoryApprovalStore.getApprovals
  rw [h]

theorem checkStored_clientId (userApprovals : List Approval) (approved : List String) :
    (handler.checkStored now request userApprovals approved).clientId = request.clientId := by
  unfold checkStored
  dsimp only
  split
  · rfl
  · rfl

theorem checkForPreApproval_clientId {decided : AuthorizationRequest}
    (h : handler.checkForPreApproval now request userName s = .ok decided) :
    decided.clientId = request.clientId := by
  obtain ⟨approved, -, h⟩ := except_bind_eq_ok.mp h
  dsimp only at h
  split at h
  · rw [← Except.ok.inj h]
    exact checkStored_clientId _ _
  · split_ifs at h
    · rw [← Except.ok.inj h]
    · rw [← Except.ok.inj h]
      exact checkStored_clientId _ _

theorem updateAfterApproval_congr {key : String × String} (h : s key = t key) :
    (handler.updateAfterApproval now request userName s).2 key =
      (handler.updateAfterApproval now request userName t).2 key :=
  InMemoryApprovalStore.addApprovals_congr h _

theorem updateAfterApproval_of_ne {key : String × String}
    (h : (userName, request.clientId.getD "") ≠ key) (s : InMemoryApprovalStore) :
    (handler.updateAfterApproval now request userName s).2 key = s key := by
  refine InMemoryApprovalStore.addApprovals_of_ne (fun approval happroval => ?_) s
  obtain ⟨scope, -, rfl⟩ := List.mem_map.mp happroval
  exact h

/-- Every scope of the request has an approval that has not run out, whatever it says. -/
def actedUpon (now : ℕ) (request : AuthorizationRequest) (userApprovals : List Approval) : Bool :=
  let valid := userApprovals.filter fun approval => now < approval.expiresAt
  request.scope.all ((valid.map Approval.scope).contains ·)

/-- The scopes of the request that its client approves, or an approval that has not run out. -/
def approvedScopes (now : ℕ) (request : AuthorizationRequest) (userApprovals : List Approval)
    (approved : List String) : List String :=
  let valid := userApprovals.filter fun approval => now < approval.expiresAt
  let approvedByUser := valid.filter fun approval => approval.status = .approved
  (approved ++ approvedByUser.map Approval.scope).dedup.filter (request.scope.contains ·)

theorem checkStored_eq (userApprovals : List Approval) (approved : List String) :
    handler.checkStored now request userApprovals approved =
      if actedUpon now request userApprovals then
        { request.setScope (handler.scopes.scan (approvedScopes now request userApprovals approved))
          with approved := true }
      else request := rfl

theorem approvedScopes_subset (userApprovals : List Approval) (approved : List String) :
    approvedScopes now request userApprovals approved ⊆ request.scope := by
  intro scope hscope
  have hrequested := (List.mem_filter.mp hscope).2
  exact List.contains_iff_mem.mp hrequested

variable (handler) in
/-- The scopes of the request that the form approves. -/
def consented (request : AuthorizationRequest) : List String :=
  request.scope.filter fun scope =>
    isApproval (request.approvalParameters.get (handler.scopePrefix ++ scope))

theorem updateAfterApproval_fst_eq (store : InMemoryApprovalStore) :
    (handler.updateAfterApproval now request userName store).1 =
      { request.setScope (handler.scopes.scan (handler.consented request)) with
        approved := ¬(handler.consented request = [] ∧ request.scope ≠ []) } := rfl

theorem consented_subset : handler.consented request ⊆ request.scope := by
  intro scope hscope
  exact (List.mem_filter.mp hscope).1

end ApprovalStoreUserApprovalHandler

end MaxKey.OAuth2
