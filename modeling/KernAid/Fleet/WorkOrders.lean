import KernAid.Fleet.Values

/-! The work orders of one tenant, from `store.ts`, with the log of their events. -/

set_option autoImplicit false

namespace KernAid.Fleet

open CrashLogic

inductive WorkOrderActionId where
  | linuxFilesystemHealth
  | linuxStorageHealth
  | linuxBootCriticalPath
  | linuxFstabDisableMissingUuid
  | linuxCrypttabDisableMissingUuid
  | linuxExt4FsckPreenWithUndo
  | linuxNetworkRestoreResolverLink
  | windowsP0Diagnose
  | macosP0Diagnose
deriving DecidableEq, Repr

inductive WorkOrderKind where
  | diagnosis
  | repair
deriving DecidableEq, Repr

inductive WorkOrderRisk where
  | r0
  | r1
  | r2
  | r3
deriving DecidableEq, Repr

inductive WorkOrderResultOutcome where
  | failed
  | rejected
  | succeeded
deriving DecidableEq, Repr

inductive WorkOrderStatus where
  | pendingApproval
  | queued
  | leased
  | outcome (outcome : WorkOrderResultOutcome)
  | cancelled
  | expired
deriving DecidableEq, Repr

/-- An entry of `workOrderActionCatalog`, as far as the store reads it. -/
structure WorkOrderAction where
  version : Nat
  kind : WorkOrderKind
  risk : WorkOrderRisk
  localApprovalRequired : Bool
deriving DecidableEq, Repr

def workOrderActionCatalog : WorkOrderActionId → WorkOrderAction
  | .linuxFilesystemHealth => ⟨1,.diagnosis,.r0,false⟩
  | .linuxStorageHealth => ⟨1,.diagnosis,.r0,false⟩
  | .linuxBootCriticalPath => ⟨1,.diagnosis,.r0,false⟩
  | .linuxFstabDisableMissingUuid => ⟨1,.repair,.r2,true⟩
  | .linuxCrypttabDisableMissingUuid => ⟨1,.repair,.r2,true⟩
  | .linuxExt4FsckPreenWithUndo => ⟨1,.repair,.r3,true⟩
  | .linuxNetworkRestoreResolverLink => ⟨1,.repair,.r2,true⟩
  | .windowsP0Diagnose => ⟨1,.diagnosis,.r0,false⟩
  | .macosP0Diagnose => ⟨1,.diagnosis,.r0,false⟩

/-- What `mapWorkOrder` returns of a row. -/
structure StoredWorkOrder where
  workOrderId : String
  requestId : String
  targetDeviceId : String
  actionId : WorkOrderActionId
  actionVersion : Nat
  kind : WorkOrderKind
  risk : WorkOrderRisk
  localApprovalRequired : Bool
  status : WorkOrderStatus
  createdByCredentialId : String
  createdAt : String
  expiresAt : String
  approvedByCredentialId : Option String
  approvedAt : Option String
  leaseId : Option String
  leasedAt : Option String
  leaseExpiresAt : Option String
  outcome : Option WorkOrderResultOutcome
  resultSha256 : Option String
  completedAt : Option String
  cancelledByCredentialId : Option String
  cancelledAt : Option String
deriving DecidableEq, Repr

structure WorkOrderRow extends StoredWorkOrder where
  requestSha256 : String
  expiresAtMs : Int
  leaseExpiresAtMs : Option Int
  resultEnvelopeSha256 : Option String
deriving DecidableEq, Repr

inductive WorkOrderEventKind where
  | created
  | approved
  | leased
  | leaseExpired
  | completed
  | cancelled
  | expired
deriving DecidableEq, Repr

inductive WorkOrderActorType where
  | credential
  | device
  | system
deriving DecidableEq, Repr

structure WorkOrderEvent where
  workOrderId : String
  occurredAt : String
  kind : WorkOrderEventKind
  actorType : WorkOrderActorType
  actorId : String
  status : WorkOrderStatus
  detailSha256 : Option String
deriving DecidableEq, Repr

structure WorkOrderEventRow extends WorkOrderEvent where
  sequence : Nat
deriving DecidableEq, Repr

structure WorkOrderClaimRow where
  deviceId : String
  nonceSha256 : String
  requestSha256 : String
  lease : Option (String × String)
  expiresAtMs : Int
deriving DecidableEq, Repr

/-- The tables of one tenant that work orders use: the orders, claims and events, and from the tables
they refer to the credentials and each device with its `revoked_at`. -/
structure WorkOrderTables where
  devices : Table (Option String)
  credentials : List String
  workOrders : List WorkOrderRow
  claims : List WorkOrderClaimRow
  events : List WorkOrderEventRow

structure WorkOrderMutationResult where
  workOrder : StoredWorkOrder
  idempotent : Bool
deriving DecidableEq, Repr

structure WorkOrderClaimResult where
  workOrder : Option StoredWorkOrder
  idempotent : Bool
deriving DecidableEq, Repr

def maxWorkOrdersPerTenant : Nat := 10000

def maxListedWorkOrders : Nat := 256

def maxWorkOrderEventsPerTenant : Nat := 20000

def maxRecentWorkOrderClaimsPerDevice : Nat := 1024

/-- `pending_approval`, `queued` and `leased`. -/
def WorkOrderStatus.isActive : WorkOrderStatus → Bool
  | .pendingApproval | .queued | .leased => true
  | .outcome _ | .cancelled | .expired => false

/-- `succeeded`, `failed` and `rejected`. -/
def WorkOrderStatus.isOutcome : WorkOrderStatus → Bool
  | .outcome _ => true
  | .pendingApproval | .queued | .leased | .cancelled | .expired => false

section Rows

variable [DateParse]

def WorkOrderRow.ValidOrder (row : WorkOrderRow) : Prop :=
  isPublicIdentifier row.workOrderId ∧ isPublicIdentifier row.requestId ∧ isSha256 row.requestSha256 ∧
  isDeviceId row.targetDeviceId ∧ isPublicIdentifier row.createdByCredentialId ∧
  isRfc3339 row.createdAt ∧ isRfc3339 row.expiresAt ∧
  DateParse.parse row.expiresAt = some row.expiresAtMs ∧
  (⟨row.actionVersion,row.kind,row.risk,row.localApprovalRequired⟩ : WorkOrderAction) =
    workOrderActionCatalog row.actionId

def WorkOrderRow.ValidApproval (row : WorkOrderRow) : Prop :=
  row.approvedByCredentialId.all isPublicIdentifier ∧ row.approvedAt.all isRfc3339 ∧
  (row.approvedByCredentialId = none ↔ row.approvedAt = none)

def WorkOrderRow.ValidLease (row : WorkOrderRow) : Prop :=
  row.leaseId.all isPublicIdentifier ∧ row.leasedAt.all isRfc3339 ∧ row.leaseExpiresAt.all isRfc3339 ∧
  ((row.leaseId = none ∨ row.leasedAt = none ∨ row.leaseExpiresAt = none ∨ row.leaseExpiresAtMs = none) ↔
    (row.leaseId = none ∧ row.leasedAt = none ∧ row.leaseExpiresAt = none ∧
      row.leaseExpiresAtMs = none)) ∧
  (∀ expiry ∈ row.leaseExpiresAt, DateParse.parse expiry = row.leaseExpiresAtMs)

def WorkOrderRow.ValidResult (row : WorkOrderRow) : Prop :=
  row.resultSha256.all isSha256 ∧ row.resultEnvelopeSha256.all isSha256 ∧ row.completedAt.all isRfc3339 ∧
  (row.outcome = none ↔ row.resultSha256 = none) ∧
    (row.outcome = none ↔ row.resultEnvelopeSha256 = none) ∧
  (row.outcome = none ↔ row.completedAt = none) ∧
  (∀ outcome ∈ row.outcome, row.status = .outcome outcome) ∧
  (row.status.isOutcome = true ↔ row.outcome ≠ none)

def WorkOrderRow.ValidCancellation (row : WorkOrderRow) : Prop :=
  row.cancelledByCredentialId.all isPublicIdentifier ∧ row.cancelledAt.all isRfc3339 ∧
  (row.cancelledByCredentialId = none ↔ row.cancelledAt = none) ∧
  (row.status = .cancelled ↔ row.cancelledAt ≠ none)

instance : DecidablePred WorkOrderRow.ValidOrder := fun _ => inferInstanceAs (Decidable (_ ∧ _))

instance : DecidablePred WorkOrderRow.ValidApproval := fun _ => inferInstanceAs (Decidable (_ ∧ _))

instance : DecidablePred WorkOrderRow.ValidLease := fun _ => inferInstanceAs (Decidable (_ ∧ _))

instance : DecidablePred WorkOrderRow.ValidResult := fun _ => inferInstanceAs (Decidable (_ ∧ _))

instance : DecidablePred WorkOrderRow.ValidCancellation := fun _ => inferInstanceAs (Decidable (_ ∧ _))

/-- The rows that `mapWorkOrder` accepts. -/
structure WorkOrderRow.Valid (row : WorkOrderRow) : Prop where
  order : row.ValidOrder
  approval : row.ValidApproval
  lease : row.ValidLease
  result : row.ValidResult
  cancellation : row.ValidCancellation
  approved : row.kind = .repair → (row.status = .leased ∨ row.status.isOutcome = true) →
    row.approvedAt ≠ none

instance : DecidablePred WorkOrderRow.Valid := fun row =>
  decidable_of_iff (row.ValidOrder ∧ row.ValidApproval ∧ row.ValidLease ∧ row.ValidResult ∧
      row.ValidCancellation ∧ (row.kind = .repair →
        (row.status = .leased ∨ row.status.isOutcome = true) → row.approvedAt ≠ none))
    ⟨fun ⟨h₁,h₂,h₃,h₄,h₅,h₆⟩ => ⟨h₁,h₂,h₃,h₄,h₅,h₆⟩,
      fun ⟨h₁,h₂,h₃,h₄,h₅,h₆⟩ => ⟨h₁,h₂,h₃,h₄,h₅,h₆⟩⟩

def mapWorkOrder (row : WorkOrderRow) : Except StoreError StoredWorkOrder := do
  require row.Valid .invalid
  return row.toStoredWorkOrder

end Rows

section Tables

def WorkOrderTables.workOrder (db : WorkOrderTables) (workOrderId : String) : Option WorkOrderRow :=
  db.workOrders.find? fun row => row.workOrderId = workOrderId

def WorkOrderTables.requiredWorkOrder [DateParse] (db : WorkOrderTables) (workOrderId : String) :
    Except StoreError StoredWorkOrder := do
  let row ← okOr (db.workOrder workOrderId) .invalid
  mapWorkOrder row

/-- `UPDATE work_orders SET … WHERE work_order_id = ? AND …`. -/
def WorkOrderTables.update (db : WorkOrderTables) (workOrderId : String)
    (condition : WorkOrderStatus → Bool) (set : WorkOrderRow → WorkOrderRow) : WorkOrderTables :=
  { db with
    workOrders := db.workOrders.map fun row =>
      if row.workOrderId = workOrderId ∧ condition row.status = true then set row else row }

def WorkOrderTables.changes (db : WorkOrderTables) (workOrderId : String)
    (condition : WorkOrderStatus → Bool) : Nat :=
  db.workOrders.countP fun row => row.workOrderId = workOrderId ∧ condition row.status = true

def WorkOrderTables.lastEventSequence (db : WorkOrderTables) : Nat :=
  (db.events.map WorkOrderEventRow.sequence).foldl max 0

/-- `#recordWorkOrderEvent`: the next sequence, and only the most recent events are kept. -/
def recordWorkOrderEvent (event : WorkOrderEvent) (db : WorkOrderTables) :
    Except StoreError WorkOrderTables := do
  let sequence := db.lastEventSequence + 1
  require (sequence ≤ maxSafeInteger) .conflict
  return { db with
    events := (db.events ++ [{ toWorkOrderEvent := event, sequence : WorkOrderEventRow }]).filter fun e =>
      sequence < e.sequence + maxWorkOrderEventsPerTenant }

def fleetControlPlane : String := "fleet-control-plane"

/-- One round of the loop of `#expireWorkOrders`. -/
def expireWorkOrder (now : String) (db : WorkOrderTables) (workOrderId : String) :
    Except StoreError WorkOrderTables :=
  recordWorkOrderEvent ⟨workOrderId,now,.expired,.system,fleetControlPlane,.expired,none⟩
    (db.update workOrderId (fun _ => true) fun row => { row with status := .expired })

def WorkOrderRow.hasExpired (row : WorkOrderRow) (nowMs : Int) : Bool :=
  row.expiresAtMs ≤ nowMs && row.status.isActive

def expireWorkOrders (nowMs : Int) (now : String) (db : WorkOrderTables) :
    Except StoreError WorkOrderTables :=
  ((db.workOrders.filter fun row => row.hasExpired nowMs).map fun row => row.workOrderId).foldlM
    (expireWorkOrder now) db

def WorkOrderRow.released (row : WorkOrderRow) : WorkOrderRow :=
  { row with
    status := .queued, leaseId := none, leasedAt := none, leaseExpiresAt := none,
    leaseExpiresAtMs := none }

/-- One round of the loop of `#releaseExpiredLeases`. -/
def releaseExpiredLease (now : String) (db : WorkOrderTables) (workOrderId : String) :
    Except StoreError WorkOrderTables :=
  recordWorkOrderEvent ⟨workOrderId,now,.leaseExpired,.system,fleetControlPlane,.queued,none⟩
    (db.update workOrderId (· = .leased) WorkOrderRow.released)

def WorkOrderRow.leaseHasExpired (row : WorkOrderRow) (deviceId : String) (nowMs : Int) : Bool :=
  row.targetDeviceId = deviceId && row.status = .leased &&
    row.leaseExpiresAtMs.any (fun expiry => expiry ≤ nowMs) && nowMs < row.expiresAtMs

def releaseExpiredLeases (deviceId : String) (nowMs : Int) (now : String) (db : WorkOrderTables) :
    Except StoreError WorkOrderTables :=
  ((db.workOrders.filter fun row => row.leaseHasExpired deviceId nowMs).map
    fun row => row.workOrderId).foldlM (releaseExpiredLease now) db

end Tables

section Operations

variable [DateParse]

structure CreateWorkOrderInput where
  workOrderId : String
  requestId : String
  requestSha256 : String
  targetDeviceId : String
  actionId : WorkOrderActionId
  actionVersion : Nat
  kind : WorkOrderKind
  risk : WorkOrderRisk
  localApprovalRequired : Bool
  createdByCredentialId : String
  createdAt : String
  expiresAt : String
  expiresAtMs : Int

def validateWorkOrderCreate (input : CreateWorkOrderInput) : Except StoreError Unit :=
  require (isPublicIdentifier input.workOrderId ∧ isPublicIdentifier input.requestId ∧
    isSha256 input.requestSha256 ∧ isDeviceId input.targetDeviceId ∧
    (⟨input.actionVersion,input.kind,input.risk,input.localApprovalRequired⟩ : WorkOrderAction) =
      workOrderActionCatalog input.actionId ∧
    isPublicIdentifier input.createdByCredentialId ∧ isRfc3339 input.createdAt ∧
    isRfc3339 input.expiresAt ∧ isSafeInteger input.expiresAtMs ∧
    DateParse.parse input.expiresAt = some input.expiresAtMs ∧
    (∀ created ∈ DateParse.parse input.createdAt, created < input.expiresAtMs)) .invalid

def CreateWorkOrderInput.row (input : CreateWorkOrderInput) (status : WorkOrderStatus) :
    WorkOrderRow where
  workOrderId := input.workOrderId
  requestId := input.requestId
  targetDeviceId := input.targetDeviceId
  actionId := input.actionId
  actionVersion := input.actionVersion
  kind := input.kind
  risk := input.risk
  localApprovalRequired := input.localApprovalRequired
  status := status
  createdByCredentialId := input.createdByCredentialId
  createdAt := input.createdAt
  expiresAt := input.expiresAt
  approvedByCredentialId := none
  approvedAt := none
  leaseId := none
  leasedAt := none
  leaseExpiresAt := none
  outcome := none
  resultSha256 := none
  completedAt := none
  cancelledByCredentialId := none
  cancelledAt := none
  requestSha256 := input.requestSha256
  expiresAtMs := input.expiresAtMs
  leaseExpiresAtMs := none
  resultEnvelopeSha256 := none

def createWorkOrder (input : CreateWorkOrderInput) :
    Transaction WorkOrderTables WorkOrderMutationResult :=
  fun db => do
  validateWorkOrderCreate input
  match db.workOrders.find? fun row => row.requestId = input.requestId with
  | some existing => do
    require (existing.requestSha256 = input.requestSha256) .conflict
    let workOrder ← mapWorkOrder existing
    return (⟨workOrder,true⟩,db)
  | none => do
    let revokedAt ← okOr db.devices[input.targetDeviceId]? .authorization
    require (revokedAt = none) .revoked
    require (db.workOrders.countP (fun row => row.status.isActive) < maxWorkOrdersPerTenant) .conflict
    let status : WorkOrderStatus := if input.localApprovalRequired then .pendingApproval else .queued
    -- The primary key of `work_orders` and its reference to the credentials.
    require (∀ row ∈ db.workOrders, row.workOrderId ≠ input.workOrderId) .invalid
    require (input.createdByCredentialId ∈ db.credentials) .invalid
    let db' ← recordWorkOrderEvent ⟨input.workOrderId,input.createdAt,.created,.credential,
      input.createdByCredentialId,status,some input.requestSha256⟩
      { db with workOrders := db.workOrders ++ [input.row status] }
    let workOrder ← db'.requiredWorkOrder input.workOrderId
    return (⟨workOrder,false⟩,db')

def validateWorkOrderClock (nowMs : Int) (now : String) : Except StoreError Unit :=
  require (isSafeInteger nowMs ∧ isRfc3339 now ∧ DateParse.parse now = some nowMs) .invalid

def listedBefore (a b : WorkOrderRow) : Bool :=
  b.createdAt < a.createdAt || (a.createdAt = b.createdAt && b.workOrderId ≤ a.workOrderId)

/-- The orders are read after the transaction that expires them. -/
def listWorkOrders (nowMs : Int) (now : String) (db : WorkOrderTables) :
    Except StoreError (List StoredWorkOrder) × WorkOrderTables :=
  let expire : Transaction WorkOrderTables Unit := fun db => do
    validateWorkOrderClock nowMs now
    let db' ← expireWorkOrders nowMs now db
    return ((),db')
  match expire.call db with
  | (.error e,db) => (.error e,db)
  | (.ok _,db) =>
    (((db.workOrders.insertionSort fun a b => listedBefore a b).take
      maxListedWorkOrders).mapM mapWorkOrder, db)

def getWorkOrder (workOrderId : String) (nowMs : Int) (now : String) :
    Transaction WorkOrderTables (Option StoredWorkOrder) := fun db => do
  validateWorkOrderClock nowMs now
  require (isPublicIdentifier workOrderId) .invalid
  let db ← expireWorkOrders nowMs now db
  match db.workOrder workOrderId with
  | none => return (none,db)
  | some row => do
    let workOrder ← mapWorkOrder row
    return (some workOrder,db)

structure WorkOrderActorMutation where
  workOrderId : String
  credentialId : String
  actedAt : String
  nowMs : Int

def WorkOrderRow.approved (row : WorkOrderRow) (input : WorkOrderActorMutation) : WorkOrderRow :=
  { row with
    status := .queued
    approvedByCredentialId := some input.credentialId
    approvedAt := some input.actedAt }

def WorkOrderRow.cancelled (row : WorkOrderRow) (input : WorkOrderActorMutation) : WorkOrderRow :=
  { row with
    status := .cancelled
    cancelledByCredentialId := some input.credentialId
    cancelledAt := some input.actedAt }

def validateWorkOrderActorMutation (input : WorkOrderActorMutation) : Except StoreError Unit := do
  validateWorkOrderClock input.nowMs input.actedAt
  require (isPublicIdentifier input.workOrderId ∧ isPublicIdentifier input.credentialId) .invalid

def approveWorkOrder (input : WorkOrderActorMutation) :
    Transaction WorkOrderTables (Option WorkOrderMutationResult) := fun db => do
  validateWorkOrderActorMutation input
  let db ← expireWorkOrders input.nowMs input.actedAt db
  match db.workOrder input.workOrderId with
  | none => return (none,db)
  | some row => do
    let current ← mapWorkOrder row
    if current.approvedAt ≠ none then return (some ⟨current,true⟩,db)
    else do
      require (current.status = .pendingApproval ∧ current.localApprovalRequired) .workOrderState
      require (input.credentialId ∈ db.credentials) .invalid
      require (db.changes input.workOrderId (· = .pendingApproval) = 1) .workOrderState
      let db ← recordWorkOrderEvent ⟨input.workOrderId,input.actedAt,.approved,
        .credential,input.credentialId,
        .queued,none⟩ (db.update input.workOrderId (· = .pendingApproval) (·.approved input))
      let workOrder ← db.requiredWorkOrder input.workOrderId
      return (some ⟨workOrder,false⟩,db)

def cancelWorkOrder (input : WorkOrderActorMutation) :
    Transaction WorkOrderTables (Option WorkOrderMutationResult) := fun db => do
  validateWorkOrderActorMutation input
  let db ← expireWorkOrders input.nowMs input.actedAt db
  match db.workOrder input.workOrderId with
  | none => return (none,db)
  | some row => do
    let current ← mapWorkOrder row
    if current.status = .cancelled then return (some ⟨current,true⟩,db)
    else do
      require (current.status = .pendingApproval ∨ current.status = .queued) .workOrderState
      require (input.credentialId ∈ db.credentials) .invalid
      let db ← recordWorkOrderEvent ⟨input.workOrderId,input.actedAt,.cancelled,
        .credential,input.credentialId,
        .cancelled,none⟩ (db.update input.workOrderId (fun _ => true) (·.cancelled input))
      let workOrder ← db.requiredWorkOrder input.workOrderId
      return (some ⟨workOrder,false⟩,db)

structure ClaimWorkOrderInput where
  deviceId : String
  requestSha256 : String
  nonceSha256 : String
  nonceExpiresAtMs : Int
  leaseId : String
  leaseSeconds : Nat
  eligibleActionIds : List WorkOrderActionId
  nowMs : Int
  now : String

def validateWorkOrderClaim (input : ClaimWorkOrderInput) : Except StoreError Unit := do
  validateWorkOrderClock input.nowMs input.now
  require (isDeviceId input.deviceId ∧ isSha256 input.requestSha256 ∧ isSha256 input.nonceSha256 ∧
    isSafeInteger input.nonceExpiresAtMs ∧ input.nowMs < input.nonceExpiresAtMs ∧
    isPublicIdentifier input.leaseId ∧ 30 ≤ input.leaseSeconds ∧ input.leaseSeconds ≤ 900 ∧
    input.eligibleActionIds.Nodup) .invalid

/-- `ORDER BY created_at, work_order_id`. -/
def claimedBefore (a b : WorkOrderRow) : Bool :=
  a.createdAt < b.createdAt || (a.createdAt = b.createdAt && a.workOrderId ≤ b.workOrderId)

def WorkOrderTables.nextQueued (db : WorkOrderTables) (input : ClaimWorkOrderInput) :
    Option WorkOrderRow :=
  ((db.workOrders.filter fun row => row.targetDeviceId = input.deviceId && row.status = .queued &&
    row.actionId ∈ input.eligibleActionIds).insertionSort fun a b => claimedBefore a b).head?

def WorkOrderRow.leased (row : WorkOrderRow) (input : ClaimWorkOrderInput) (leaseExpiresAt : String)
    (leaseExpiresAtMs : Int) : WorkOrderRow :=
  { row with
    status := .leased
    leaseId := some input.leaseId
    leasedAt := some input.now
    leaseExpiresAt := some leaseExpiresAt
    leaseExpiresAtMs := some leaseExpiresAtMs }

def leaseWorkOrder [DateFormat] (input : ClaimWorkOrderInput) (selected : WorkOrderRow)
    (db : WorkOrderTables) : Except StoreError WorkOrderTables := do
  let leaseExpiresAtMs := min (input.nowMs + input.leaseSeconds * 1000) selected.expiresAtMs
  let leaseExpiresAt ← okOr (DateFormat.toISOString leaseExpiresAtMs) .invalid
  require (db.changes selected.workOrderId (· = .queued) = 1) .workOrderState
  recordWorkOrderEvent ⟨selected.workOrderId,input.now,.leased,.device,input.deviceId,.leased,
    some input.requestSha256⟩
    (db.update selected.workOrderId (· = .queued) (·.leased input leaseExpiresAt leaseExpiresAtMs))

def repeatedClaim (input : ClaimWorkOrderInput) (existing : WorkOrderClaimRow) (db : WorkOrderTables) :
    Except StoreError WorkOrderClaimResult := do
  require (existing.requestSha256 = input.requestSha256) .workOrderReplay
  match existing.lease with
  | none => return ⟨none,true⟩
  | some (workOrderId,leaseId) => do
    let workOrder ← db.requiredWorkOrder workOrderId
    require (workOrder.status = .leased ∧ workOrder.leaseId = some leaseId) .workOrderReplay
    return ⟨some workOrder,true⟩

/-- The row that remembers a claim. Its keys are the device, which has to exist, and the nonce. -/
def insertClaim (input : ClaimWorkOrderInput) (lease : Option (String × String)) (db : WorkOrderTables) :
    Except StoreError WorkOrderTables := do
  require (db.devices.contains input.deviceId) .invalid
  return { db with
    claims := db.claims ++ [⟨input.deviceId,input.nonceSha256,input.requestSha256,lease,
      input.nonceExpiresAtMs⟩] }

def claimWorkOrder [DateFormat] (input : ClaimWorkOrderInput) :
    Transaction WorkOrderTables WorkOrderClaimResult := fun db => do
  validateWorkOrderClaim input
  let db ← expireWorkOrders input.nowMs input.now db
  let db ← releaseExpiredLeases input.deviceId input.nowMs input.now db
  let db := { db with claims := db.claims.filter fun claim => input.nowMs < claim.expiresAtMs }
  match db.claims.find? fun claim => claim.deviceId = input.deviceId &&
    claim.nonceSha256 = input.nonceSha256 with
  | some existing => do
    let result ← repeatedClaim input existing db
    return (result,db)
  | none => do
    require (db.claims.countP (fun claim => claim.deviceId = input.deviceId) <
      maxRecentWorkOrderClaimsPerDevice) .conflict
    match db.nextQueued input with
    | none => do
      let db ← insertClaim input none db
      return (⟨none,false⟩,db)
    | some selected => do
      let db ← leaseWorkOrder input selected db
      let db ← insertClaim input (some (selected.workOrderId,input.leaseId)) db
      let workOrder ← db.requiredWorkOrder selected.workOrderId
      return (⟨some workOrder,false⟩,db)

structure WorkOrderResult where
  deviceId : String
  workOrderId : String
  leaseId : String
  actionId : WorkOrderActionId
  actionVersion : Nat
  outcome : WorkOrderResultOutcome
  completedAt : String
  resultSha256 : String
deriving DecidableEq, Repr

structure WorkOrderResultInput where
  result : WorkOrderResult
  envelopeSha256 : String
  receivedAt : String
  nowMs : Int

def WorkOrderResultInput.Fits (input : WorkOrderResultInput) (row : WorkOrderRow) : Prop :=
  row.status = .leased ∧ row.targetDeviceId = input.result.deviceId ∧
  row.leaseId = some input.result.leaseId ∧ row.actionId = input.result.actionId ∧
  row.actionVersion = input.result.actionVersion ∧
  (∃ leasedAt ∈ row.leasedAt, dateBefore input.result.completedAt leasedAt = false) ∧
  (∃ leaseExpiresAt ∈ row.leaseExpiresAt, dateBefore leaseExpiresAt input.result.completedAt = false) ∧
  ∃ expiry ∈ row.leaseExpiresAtMs, input.nowMs < expiry

instance (input : WorkOrderResultInput) : DecidablePred input.Fits :=
  fun _ => inferInstanceAs (Decidable (_ ∧ _))

def WorkOrderRow.completed (row : WorkOrderRow) (input : WorkOrderResultInput) : WorkOrderRow :=
  { row with
    status := .outcome input.result.outcome
    outcome := some input.result.outcome
    resultSha256 := some input.result.resultSha256
    resultEnvelopeSha256 := some input.envelopeSha256
    completedAt := some input.result.completedAt }

def recordWorkOrderResult (input : WorkOrderResultInput) :
    Transaction WorkOrderTables WorkOrderMutationResult := fun db => do
  require (isSha256 input.envelopeSha256 ∧ isRfc3339 input.receivedAt) .invalid
  let db ← expireWorkOrders input.nowMs input.receivedAt db
  let row ← okOr (db.workOrder input.result.workOrderId) .authorization
  let current ← mapWorkOrder row
  if current.resultSha256 ≠ none then do
    require (row.resultEnvelopeSha256 = some input.envelopeSha256) .workOrderReplay
    return (⟨current,true⟩,db)
  else do
    require (input.Fits row) .workOrderState
    let db ← recordWorkOrderEvent ⟨input.result.workOrderId,input.receivedAt,.completed,.device,
      input.result.deviceId,.outcome input.result.outcome,some input.result.resultSha256⟩
      (db.update input.result.workOrderId (· = .leased) (·.completed input))
    let workOrder ← db.requiredWorkOrder input.result.workOrderId
    return (⟨workOrder,false⟩,db)

end Operations

end KernAid.Fleet
