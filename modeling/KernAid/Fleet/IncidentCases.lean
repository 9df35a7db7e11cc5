import KernAid.Fleet.ReceiptRuns
import KernAid.Fleet.WorkOrderRuns
import KernAid.RetainedLog

/-! Incident cases and the work orders they link, from `store.ts`. -/

set_option autoImplicit false

namespace KernAid.Fleet

open CrashLogic

def maxIncidentCasesPerTenant : Nat := 10000

def maxListedIncidentCases : Nat := 256

def maxIncidentWorkOrdersPerCase : Nat := 256

structure CreateIncidentCaseInput where
  caseId : String
  requestId : String
  requestSha256 : String
  sourceDeviceId : String
  sourceAssetId : Option String
  severity : IncidentCaseSeverity
  assigneeLabel : Option String
  credentialId : String
  createdAt : String
deriving DecidableEq, Repr

/-- `Exclude<IncidentCaseStatus, "closed">`. -/
inductive OpenIncidentCaseStatus where
  | opened
  | investigating
  | monitoring
deriving DecidableEq, Repr

def OpenIncidentCaseStatus.status : OpenIncidentCaseStatus → IncidentCaseStatus
  | .opened => .opened
  | .investigating => .investigating
  | .monitoring => .monitoring

theorem OpenIncidentCaseStatus.status_ne_closed (status : OpenIncidentCaseStatus) :
    status.status ≠ .closed := by
  cases status <;> decide

structure UpdateIncidentCaseInput where
  caseId : String
  severity : IncidentCaseSeverity
  status : OpenIncidentCaseStatus
  assigneeLabel : Option String
  credentialId : String
  updatedAt : String
  detailSha256 : String
deriving DecidableEq, Repr

structure LinkIncidentWorkOrderInput where
  caseId : String
  workOrderId : String
  credentialId : String
  linkedAt : String
deriving DecidableEq, Repr

section Store

variable [DateParse] [ReportCodec]

def validateIncidentCaseCreate (input : CreateIncidentCaseInput) : Except StoreError Unit :=
  require (isPublicIdentifier input.caseId ∧ isPublicIdentifier input.requestId ∧
    isSha256 input.requestSha256 ∧
    isDeviceId input.sourceDeviceId ∧ input.sourceAssetId.all isBoundedAssetId ∧
    input.assigneeLabel.all validIncidentAssigneeLabel ∧ isPublicIdentifier input.credentialId ∧
    isRfc3339 input.createdAt) .invalid

def CreateIncidentCaseInput.row (input : CreateIncidentCaseInput) : IncidentCaseRow where
  caseId := input.caseId
  requestId := input.requestId
  requestSha256 := input.requestSha256
  sourceDeviceId := input.sourceDeviceId
  sourceAssetId := input.sourceAssetId
  severity := input.severity
  status := .opened
  assigneeLabel := input.assigneeLabel
  createdByCredentialId := input.credentialId
  createdAt := input.createdAt
  updatedAt := input.createdAt
  closure := none
  closed_iff := by simp

def createIncidentCase (devices assets : List String) (input : CreateIncidentCaseInput) :
    Transaction IncidentTables IncidentCaseMutationResult := fun db => do
  validateIncidentCaseCreate input
  match db.cases.find? fun row => row.requestId = input.requestId with
  | some existing => do
    require (existing.requestSha256 = input.requestSha256) .incidentCaseReplay
    let incidentCase ← db.mapIncidentCase existing
    return (⟨incidentCase,true⟩,db)
  | none => do
    require
      ((db.cases.filter fun row => row.status ≠ .closed).length < maxIncidentCasesPerTenant) .conflict
    -- The primary key of the cases, and their references.
    require (db.incidentCase input.caseId = none) .invalid
    require (input.sourceDeviceId ∈ devices ∧ (∀ assetId ∈ input.sourceAssetId, assetId ∈ assets) ∧
      input.credentialId ∈ db.credentials) .invalid
    let db ← recordIncidentCaseEvent
      ⟨input.caseId,input.createdAt,.created,.credential,input.credentialId,.opened,input.requestSha256⟩
      { db with cases := db.cases ++ [input.row] }
    let incidentCase ← db.requiredIncidentCase input.caseId
    return (⟨incidentCase,false⟩,db)

/-- The links of the cases that are not closed, with the state of their case. -/
def IncidentTables.openLinks (db : IncidentTables) :
    List (IncidentCaseWorkOrderRow × IncidentCaseStatus) :=
  db.caseWorkOrders.filterMap fun link =>
    (db.incidentCase link.caseId).bind fun incident =>
      if incident.status = .closed then none else some (link,incident.status)

/-- `#syncIncidentCaseWorkOrders` for all cases. -/
def syncIncidentCases (observedAt : String) (db : IncidentTables) : Except StoreError IncidentTables :=
  db.openLinks.foldlM (fun db entry =>
    syncIncidentCaseWorkOrder entry.1.caseId entry.2 observedAt db entry.1) db

/-- `ORDER BY updated_at DESC, case_id DESC`. -/
def caseListedBefore (a b : IncidentCaseRow) : Bool :=
  b.updatedAt < a.updatedAt || (a.updatedAt = b.updatedAt && b.caseId ≤ a.caseId)

/-- `listIncidentCases`. The synchronisation commits even where the list cannot be read. -/
def listIncidentCases (observedAt : String) (db : IncidentTables) :
    Except StoreError (List StoredIncidentCase) × IncidentTables :=
  if isRfc3339 observedAt then
    match syncIncidentCases observedAt db with
    | .error e => (.error e,db)
    | .ok db =>
      (((db.cases.insertionSort fun a b => caseListedBefore a b).take maxListedIncidentCases).mapM
        db.mapIncidentCase,db)
  else (.error .invalid,db)

def validateIncidentCaseUpdate (input : UpdateIncidentCaseInput) : Except StoreError Unit :=
  require (isPublicIdentifier input.caseId ∧ input.assigneeLabel.all validIncidentAssigneeLabel ∧
    isPublicIdentifier input.credentialId ∧ isRfc3339 input.updatedAt ∧
    isSha256 input.detailSha256) .invalid

/-- `UPDATE incident_cases SET … WHERE case_id = ? AND status <> 'closed'`. -/
def UpdateIncidentCaseInput.updated (input : UpdateIncidentCaseInput) (row : IncidentCaseRow) :
    IncidentCaseRow :=
  if hopen : row.caseId = input.caseId ∧ row.closure = none then
    { row with
      severity := input.severity
      status := input.status.status
      assigneeLabel := input.assigneeLabel
      updatedAt := input.updatedAt
      closed_iff := by simp [input.status.status_ne_closed, hopen.2] }
  else row

def updateIncidentCase (input : UpdateIncidentCaseInput) :
    Transaction IncidentTables (Option IncidentCaseMutationResult) := fun db => do
  validateIncidentCaseUpdate input
  match db.incidentCase input.caseId with
  | none => return (none,db)
  | some row => do
    require (row.status ≠ .closed) .incidentCaseState
    if row.severity = input.severity ∧ row.status = input.status.status ∧
        row.assigneeLabel = input.assigneeLabel then do
      let incidentCase ← db.mapIncidentCase row
      return (some ⟨incidentCase,true⟩,db)
    else do
      let db ← recordIncidentCaseEvent
        ⟨input.caseId,input.updatedAt,.updated,.credential,input.credentialId,input.status.status,
          input.detailSha256⟩
        { db with cases := db.cases.map input.updated }
      let incidentCase ← db.requiredIncidentCase input.caseId
      return (some ⟨incidentCase,false⟩,db)

def validateIncidentCaseLink (input : LinkIncidentWorkOrderInput) : Except StoreError Unit :=
  require (isPublicIdentifier input.caseId ∧ isPublicIdentifier input.workOrderId ∧
    isPublicIdentifier input.credentialId ∧ isRfc3339 input.linkedAt) .invalid

def LinkIncidentWorkOrderInput.row (input : LinkIncidentWorkOrderInput) (order : WorkOrderRow) :
    IncidentCaseWorkOrderRow :=
  { toIncidentWorkOrderState := incidentWorkOrderState order
    caseId := input.caseId
    stateSha256 := ReportCodec.stateSha256 (incidentWorkOrderState order)
    linkedAt := input.linkedAt
    observedAt := input.linkedAt }

def linkIncidentWorkOrder (input : LinkIncidentWorkOrderInput) :
    Transaction IncidentTables (Option IncidentCaseMutationResult) := fun db => do
  validateIncidentCaseLink input
  match db.incidentCase input.caseId with
  | none => return (none,db)
  | some incident => do
    require (incident.status ≠ .closed) .incidentCaseState
    let order ← okOr (db.workOrders.find? fun order => order.workOrderId = input.workOrderId)
      .authorization
    require (order.targetDeviceId = incident.sourceDeviceId) .authorization
    if (db.linksOf input.caseId).any fun link => link.workOrderId = input.workOrderId then do
      let incidentCase ← db.requiredIncidentCase input.caseId
      return (some ⟨incidentCase,true⟩,db)
    else do
      require ((db.linksOf input.caseId).length < maxIncidentWorkOrdersPerCase) .conflict
      let _ ← mapWorkOrder order
      let link := input.row order
      let db ← recordIncidentCaseEvent
        ⟨input.caseId,input.linkedAt,.workOrderLinked,.credential,input.credentialId,incident.status,
          link.stateSha256⟩
        { db with
          caseWorkOrders := db.caseWorkOrders ++ [link]
          cases := db.cases.map fun row =>
            if row.caseId = input.caseId then { row with updatedAt := input.linkedAt } else row }
      let incidentCase ← db.requiredIncidentCase input.caseId
      return (some ⟨incidentCase,false⟩,db)

end Store

/-- The tables of one tenant: its work orders, devices and credentials, its assets, its receipts and its
cases. -/
structure ControlTables where
  orders : WorkOrderTables
  assets : List String
  receipts : ReceiptTables
  cases : List IncidentCaseRow
  caseWorkOrders : List IncidentCaseWorkOrderRow
  caseEvents : List IncidentCaseEventRow

def ControlTables.incidents (db : ControlTables) : IncidentTables :=
  ⟨db.orders.credentials,db.orders.workOrders,db.cases,db.caseWorkOrders,db.caseEvents⟩

def ControlTables.fleet (db : ControlTables) : FleetTables :=
  ⟨{ db.receipts with devices := db.orders.devices.keys },db.incidents⟩

def ControlTables.withIncidents (db : ControlTables) (incidents : IncidentTables) : ControlTables :=
  { db with
    cases := incidents.cases
    caseWorkOrders := incidents.caseWorkOrders
    caseEvents := incidents.events }

/-- The devices that receipts are for are those of the tenant, so that only the receipts are written. -/
def ControlTables.withReceipts (db : ControlTables) (receipts : ReceiptTables) : ControlTables :=
  { db with receipts := { receipts with devices := db.receipts.devices } }

/-- The digest of a closure request, `sha256Hex(canonicalJson({ caseId, outcome }))`. -/
class CloseRequestDigest where
  closeRequestSha256 : String → IncidentCaseOutcome → String
  injective : ∀ caseId, Function.Injective (closeRequestSha256 caseId)

/-- A request to `/incident-cases/{caseId}/close`. -/
structure CloseRequest where
  caseId : String
  outcome : IncidentCaseOutcome
  credentialId : String
  closedAt : String
deriving DecidableEq, Repr

inductive CaseCall where
  | create (input : CreateIncidentCaseInput)
  | list (observedAt : String)
  | update (input : UpdateIncidentCaseInput)
  | link (input : LinkIncidentWorkOrderInput)
  | close (request : CloseRequest)
  | order (call : WorkOrderCall)
  | respond (response : ServiceResponse)
  | others (assets : List String)

section Calls

variable [DateParse] [DateFormat] [ReceiptCodec] [ReportCodec] [CloseRequestDigest]

def CloseRequest.input (request : CloseRequest) : CloseIncidentCaseInput :=
  ⟨request.caseId,request.outcome,request.credentialId,request.closedAt,
    CloseRequestDigest.closeRequestSha256 request.caseId request.outcome⟩

def CloseRequest.send (request : CloseRequest) (db : ControlTables) :
    Except StoreError (Option ServiceAnswer) × ControlTables :=
  let (answer,fleet) := request.input.send db.fleet
  (answer,(db.withIncidents fleet.incidents).withReceipts fleet.receipts)

def ControlTables.perform (db : ControlTables) : CaseCall → ControlTables
  | .create input =>
    db.withIncidents ((createIncidentCase db.orders.devices.keys db.assets input).call db.incidents).2
  | .list observedAt => db.withIncidents (listIncidentCases observedAt db.incidents).2
  | .update input => db.withIncidents ((updateIncidentCase input).call db.incidents).2
  | .link input => db.withIncidents ((linkIncidentWorkOrder input).call db.incidents).2
  | .close request => (request.send db).2
  | .order call => { db with orders := db.orders.perform call }
  | .respond response => db.withReceipts (response.send db.fleet.receipts).2
  | .others assets => { db with assets }

def ControlTables.play (db : ControlTables) (calls : List CaseCall) : ControlTables :=
  calls.foldl ControlTables.perform db

end Calls

def ControlTables.start (devices : Table (Option String)) (credentials assets : List String) :
    ControlTables :=
  ⟨.start devices credentials,assets,⟨[],∅,[],[],[]⟩,[],[],[]⟩

end KernAid.Fleet
