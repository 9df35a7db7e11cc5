import KernAid.Fleet.ServiceReceipts
import KernAid.Fleet.WorkOrders

/-! The closure of incident cases, from `store.ts`, with the report and receipt of `server.ts`. -/

set_option autoImplicit false

namespace KernAid.Fleet

open CrashLogic

inductive IncidentCaseSeverity where
  | low
  | medium
  | high
  | critical
deriving DecidableEq, Repr

inductive IncidentCaseStatus where
  | opened
  | investigating
  | monitoring
  | closed
deriving DecidableEq, Repr

inductive IncidentCaseOutcome where
  | resolved
  | mitigated
  | unresolved
  | falsePositive
deriving DecidableEq, Repr

/-- The closure columns of a case, which are null together. -/
structure IncidentClosure where
  outcome : IncidentCaseOutcome
  closedByCredentialId : String
  closedAt : String
  closeRequestSha256 : String
  reportSha256 : String
  reportJson : String
  receiptJson : String
deriving DecidableEq, Repr

/-- A row of `incident_cases`. The check of the table that the closure columns are null exactly while the
case is not closed is a field. -/
structure IncidentCaseRow where
  caseId : String
  requestId : String
  requestSha256 : String
  sourceDeviceId : String
  sourceAssetId : Option String
  severity : IncidentCaseSeverity
  status : IncidentCaseStatus
  assigneeLabel : Option String
  createdByCredentialId : String
  createdAt : String
  updatedAt : String
  closure : Option IncidentClosure
  closed_iff : status = .closed ↔ closure.isSome = true
deriving DecidableEq

/-- What `incidentWorkOrderSummary` digests. -/
structure IncidentWorkOrderState where
  workOrderId : String
  actionId : WorkOrderActionId
  actionVersion : Nat
  status : WorkOrderStatus
  resultSha256 : Option String
deriving DecidableEq, Repr

structure IncidentCaseWorkOrderRow extends IncidentWorkOrderState where
  caseId : String
  stateSha256 : String
  linkedAt : String
  observedAt : String
deriving DecidableEq, Repr

inductive IncidentCaseEventKind where
  | created
  | updated
  | workOrderLinked
  | workOrderState
  | closed
deriving DecidableEq, Repr

inductive IncidentCaseActorType where
  | credential
  | system
deriving DecidableEq, Repr

structure IncidentCaseEvent where
  caseId : String
  occurredAt : String
  kind : IncidentCaseEventKind
  actorType : IncidentCaseActorType
  actorId : String
  status : IncidentCaseStatus
  detailSha256 : String
deriving DecidableEq, Repr

structure IncidentCaseEventRow extends IncidentCaseEvent where
  sequence : Nat
deriving DecidableEq, Repr

structure IncidentTables where
  credentials : List String
  workOrders : List WorkOrderRow
  cases : List IncidentCaseRow
  caseWorkOrders : List IncidentCaseWorkOrderRow
  events : List IncidentCaseEventRow

structure FleetTables where
  receipts : ReceiptTables
  incidents : IncidentTables

structure IncidentCaseWorkOrder extends IncidentWorkOrderState where
  stateSha256 : String
  linkedAt : String
  observedAt : String
deriving DecidableEq, Repr

/-- What `#mapIncidentCase` returns: the columns and the linked orders. -/
structure StoredIncidentCase where
  row : IncidentCaseRow
  workOrders : List IncidentCaseWorkOrder
deriving DecidableEq

structure IncidentCaseMutationResult where
  incidentCase : StoredIncidentCase
  idempotent : Bool
deriving DecidableEq

structure IncidentReport where
  caseId : String
  sourceDeviceId : String
  sourceAssetId : Option String
  severity : IncidentCaseSeverity
  outcome : IncidentCaseOutcome
  openedAt : String
  closedAt : String
  timelineSha256 : String
  workOrders : List (IncidentWorkOrderState × String)
deriving DecidableEq, Repr

/-- The digests and the canonical text of a report. -/
class ReportCodec where
  stateSha256 : IncidentWorkOrderState → String
  timelineSha256 : List IncidentCaseEventRow → String
  canonicalReport : IncidentReport → Option String
  parseIncidentReport : String → Option IncidentReport

structure IncidentCaseClosureMaterial where
  reportJson : String
  reportSha256 : String
  receiptJson : String
deriving DecidableEq, Repr

def maxIncidentEventsPerTenant : Nat := 20000

def maxListedIncidentEvents : Nat := 512

def maxIncidentReportBytes : Nat := 256 * 1024

def isBoundedAssetId (value : String) : Bool :=
  1 ≤ value.utf8ByteSize && value.utf8ByteSize ≤ 256 &&
    value.toList.all fun c => !(c.toNat ≤ 0x1f || c.toNat = 0x7f)

/-- `/^[A-Za-z0-9][A-Za-z0-9 ._+-]*$/` with at most 64 characters. -/
def validIncidentAssigneeLabel (value : String) : Bool :=
  match value.toList with
  | [] => false
  | c :: cs => c.isAlphanum && cs.all (fun c => c.isAlphanum || c ∈ [' ', '.', '_', '+', '-']) &&
      value.length ≤ 64

section Store

variable [DateParse] [ReceiptCodec] [ReportCodec]

def validateIncidentCaseRow (row : IncidentCaseRow) : Except StoreError Unit :=
  require (isPublicIdentifier row.caseId ∧ isPublicIdentifier row.requestId ∧ isSha256 row.requestSha256 ∧
    isDeviceId row.sourceDeviceId ∧ row.sourceAssetId.all isBoundedAssetId ∧
    row.assigneeLabel.all validIncidentAssigneeLabel ∧ isPublicIdentifier row.createdByCredentialId ∧
    isRfc3339 row.createdAt ∧ isRfc3339 row.updatedAt ∧
    (∀ closure ∈ row.closure, isPublicIdentifier closure.closedByCredentialId ∧
      isRfc3339 closure.closedAt ∧
      isSha256 closure.closeRequestSha256 ∧ isSha256 closure.reportSha256)) .invalid

def mapIncidentCaseWorkOrder (row : IncidentCaseWorkOrderRow) :
    Except StoreError IncidentCaseWorkOrder := do
  require (isPublicIdentifier row.workOrderId ∧
    row.actionVersion = (workOrderActionCatalog row.actionId).version ∧ row.resultSha256.all isSha256 ∧
    isSha256 row.stateSha256 ∧ isRfc3339 row.linkedAt ∧ isRfc3339 row.observedAt) .invalid
  require (ReportCodec.stateSha256 row.toIncidentWorkOrderState = row.stateSha256) .invalid
  return ⟨row.toIncidentWorkOrderState,row.stateSha256,row.linkedAt,row.observedAt⟩

/-- `ORDER BY linked_at, work_order_id`. -/
def linkedBefore (a b : IncidentCaseWorkOrderRow) : Bool :=
  a.linkedAt < b.linkedAt || (a.linkedAt = b.linkedAt && a.workOrderId ≤ b.workOrderId)

def IncidentTables.linksOf (db : IncidentTables) (caseId : String) : List IncidentCaseWorkOrderRow :=
  db.caseWorkOrders.filter fun link => link.caseId = caseId

def IncidentTables.mapIncidentCase (db : IncidentTables) (row : IncidentCaseRow) :
    Except StoreError StoredIncidentCase := do
  validateIncidentCaseRow row
  let workOrders ← ((db.linksOf row.caseId).insertionSort fun a b => linkedBefore a b).mapM
    mapIncidentCaseWorkOrder
  return ⟨row,workOrders⟩

def IncidentTables.incidentCase (db : IncidentTables) (caseId : String) : Option IncidentCaseRow :=
  db.cases.find? fun row => row.caseId = caseId

def IncidentTables.requiredIncidentCase (db : IncidentTables) (caseId : String) :
    Except StoreError StoredIncidentCase := do
  let row ← okOr (db.incidentCase caseId) .invalid
  db.mapIncidentCase row

def IncidentTables.lastEventSequence (db : IncidentTables) : Nat :=
  (db.events.map IncidentCaseEventRow.sequence).foldl max 0

def recordIncidentCaseEvent (event : IncidentCaseEvent) (db : IncidentTables) :
    Except StoreError IncidentTables := do
  let sequence := db.lastEventSequence + 1
  require (sequence ≤ maxSafeInteger) .conflict
  return { db with
    events := (db.events ++ [{ toIncidentCaseEvent := event, sequence : IncidentCaseEventRow }]).filter
      fun e => sequence < e.sequence + maxIncidentEventsPerTenant }

def incidentWorkOrderState (order : WorkOrderRow) : IncidentWorkOrderState :=
  ⟨order.workOrderId,order.actionId,order.actionVersion,order.status,order.resultSha256⟩

/-- One round of the loop of `#syncIncidentCaseWorkOrders`. The order is found by the join of the
query. -/
def syncIncidentCaseWorkOrder (caseId : String) (status : IncidentCaseStatus) (observedAt : String)
    (db : IncidentTables) (link : IncidentCaseWorkOrderRow) : Except StoreError IncidentTables :=
  match db.workOrders.find? fun order => order.workOrderId = link.workOrderId with
  | none => .ok db
  | some order =>
    let state := incidentWorkOrderState order
    let stateSha256 := ReportCodec.stateSha256 state
    if stateSha256 = link.stateSha256 then .ok db
    else recordIncidentCaseEvent ⟨caseId,observedAt,.workOrderState,.system,
      fleetControlPlane,status,stateSha256⟩
      { db with
        caseWorkOrders := db.caseWorkOrders.map fun row =>
          if row.caseId = caseId ∧ row.workOrderId = link.workOrderId then
            { row with
              status := state.status, resultSha256 := state.resultSha256, stateSha256, observedAt }
          else row
        cases := db.cases.map fun row =>
          if row.caseId = caseId then { row with updatedAt := observedAt } else row }

/-- `#syncIncidentCaseWorkOrders` for one case. Closed cases are not selected. -/
def syncIncidentCaseWorkOrders (caseId observedAt : String) (db : IncidentTables) :
    Except StoreError IncidentTables :=
  match db.incidentCase caseId with
  | none => .ok db
  | some incident =>
    if incident.status = .closed then .ok db
    else (db.linksOf caseId).foldlM (syncIncidentCaseWorkOrder caseId incident.status observedAt) db

def mapIncidentCaseEvent (row : IncidentCaseEventRow) : Except StoreError IncidentCaseEventRow := do
  require (row.sequence ≤ maxSafeInteger ∧ 1 ≤ row.sequence ∧ isPublicIdentifier row.caseId ∧
    isRfc3339 row.occurredAt ∧ isPublicIdentifier row.actorId ∧ isSha256 row.detailSha256) .invalid
  return row

/-- `#listIncidentCaseEvents` for one case, oldest first. -/
def IncidentTables.listIncidentCaseEvents (db : IncidentTables) (caseId : String) :
    Except StoreError (List IncidentCaseEventRow) :=
  (((db.events.filter fun event => event.caseId = caseId).insertionSort
    fun a b => a.sequence ≤ b.sequence).take maxListedIncidentEvents).mapM mapIncidentCaseEvent

structure CloseIncidentCaseInput where
  caseId : String
  outcome : IncidentCaseOutcome
  credentialId : String
  closedAt : String
  requestSha256 : String
deriving DecidableEq, Repr

def validateIncidentCaseClose (input : CloseIncidentCaseInput) : Except StoreError Unit :=
  require (isPublicIdentifier input.caseId ∧ isPublicIdentifier input.credentialId ∧
    isRfc3339 input.closedAt ∧ isSha256 input.requestSha256) .invalid

def validateIncidentCaseClosureMaterial (material : IncidentCaseClosureMaterial) :
    Except StoreError Unit :=
  require (isSha256 material.reportSha256 ∧
    ReceiptCodec.sha256Hex material.reportJson = material.reportSha256 ∧
    material.reportJson.utf8ByteSize ≠ 0 ∧ material.reportJson.utf8ByteSize ≤ maxIncidentReportBytes ∧
    material.receiptJson.utf8ByteSize ≠ 0 ∧
      material.receiptJson.utf8ByteSize ≤ maxServiceReceiptBytes) .invalid

def CloseIncidentCaseInput.closed (input : CloseIncidentCaseInput)
    (material : IncidentCaseClosureMaterial) (row : IncidentCaseRow) : IncidentCaseRow :=
  { row with
    status := .closed
    updatedAt := input.closedAt
    closure := some {
      outcome := input.outcome
      closedByCredentialId := input.credentialId
      closedAt := input.closedAt
      closeRequestSha256 := input.requestSha256
      reportSha256 := material.reportSha256
      reportJson := material.reportJson
      receiptJson := material.receiptJson }
    closed_iff := by simp }

def CloseIncidentCaseInput.write (input : CloseIncidentCaseInput) (material : IncidentCaseClosureMaterial)
    (sequence : Nat) (row : IncidentCaseRow) (db : FleetTables) : Except StoreError FleetTables := do
  -- The references of the checkpoint to the device and of the case to the credential.
  require (row.sourceDeviceId ∈ db.receipts.devices) .invalid
  require (input.credentialId ∈ db.incidents.credentials) .invalid
  let incidents ← recordIncidentCaseEvent
    ⟨input.caseId,input.closedAt,.closed,.credential,input.credentialId,.closed,material.reportSha256⟩
    { db.incidents with
      cases := db.incidents.cases.map fun row =>
        if row.caseId = input.caseId ∧ row.status ≠ .closed then input.closed material row else row }
  return { db with
    incidents
    receipts := { db.receipts with
      checkpoints := db.receipts.checkpoints.insert row.sourceDeviceId ⟨sequence,input.closedAt⟩ } }

def closeIncidentCase (input : CloseIncidentCaseInput)
    (buildMaterial : Nat → StoredIncidentCase → List IncidentCaseEventRow →
      Except StoreError IncidentCaseClosureMaterial) :
    Transaction FleetTables (Option IncidentCaseMutationResult) := fun db => do
  validateIncidentCaseClose input
  let incidents ← syncIncidentCaseWorkOrders input.caseId input.closedAt db.incidents
  let db := { db with incidents }
  match db.incidents.incidentCase input.caseId with
  | none => return (none,db)
  | some row =>
    match row.closure with
    | some closure => do
      require (closure.closeRequestSha256 = input.requestSha256) .incidentCaseState
      let incidentCase ← db.incidents.mapIncidentCase row
      return (some ⟨incidentCase,true⟩,db)
    | none => do
      let sequence ← db.receipts.nextSequence row.sourceDeviceId
      let current ← db.incidents.mapIncidentCase row
      let timeline ← db.incidents.listIncidentCaseEvents input.caseId
      let material ← buildMaterial sequence current timeline
      validateIncidentCaseClosureMaterial material
      let db ← input.write material sequence row db
      let incidentCase ← db.incidents.requiredIncidentCase input.caseId
      return (some ⟨incidentCase,false⟩,db)

end Store

section Server

variable [DateParse] [ReceiptCodec] [ReportCodec]

open ReceiptCodec ReportCodec

def buildIncidentClosure (outcome : IncidentCaseOutcome) (closedAt requestSha256 : String)
    (sequence : Nat) (incident : StoredIncidentCase) (timeline : List IncidentCaseEventRow) :
    Except StoreError IncidentCaseClosureMaterial := do
  let report : IncidentReport := {
    caseId := incident.row.caseId
    sourceDeviceId := incident.row.sourceDeviceId
    sourceAssetId := incident.row.sourceAssetId
    severity := incident.row.severity
    outcome := outcome
    openedAt := incident.row.createdAt
    closedAt := closedAt
    timelineSha256 := timelineSha256 timeline
    workOrders := incident.workOrders.map fun order =>
      (order.toIncidentWorkOrderState,order.stateSha256) }
  let reportJson ← okOr (canonicalReport report) .invalid
  let receiptJson ← signServiceReceipt ⟨.incidentCaseClose,incident.row.sourceDeviceId,requestSha256⟩
    reportJson closedAt sequence
  return ⟨reportJson,sha256Hex reportJson,receiptJson⟩

def writeIncidentReport (incident : StoredIncidentCase) (requestSha256 reportJson receiptJson : String) :
    Except StoreError ServiceAnswer := do
  let report ← okOr (parseIncidentReport reportJson) .invalid
  let receipt ← okOr (parseServiceReceipt receiptJson) .invalid
  require (canonicalReport report = some reportJson ∧ canonicalJson receipt = receiptJson ∧
    report.caseId = incident.row.caseId ∧ report.sourceDeviceId = incident.row.sourceDeviceId ∧
    incident.row.closure.map IncidentClosure.reportSha256 = some (sha256Hex reportJson)) .invalid
  verifyServiceReceipt ⟨.incidentCaseClose,incident.row.sourceDeviceId,requestSha256⟩
    reportJson receiptJson
    receipt.sequence
  return ⟨200,reportJson,receiptJson⟩

def CloseIncidentCaseInput.commit (input : CloseIncidentCaseInput) :
    Transaction FleetTables (Option IncidentCaseMutationResult) :=
  closeIncidentCase input fun sequence incident timeline =>
    buildIncidentClosure input.outcome input.closedAt input.requestSha256 sequence incident timeline

/-- The answer of the handler, which is absent for an unknown case. -/
def CloseIncidentCaseInput.answer (input : CloseIncidentCaseInput) :
    Option IncidentCaseMutationResult → Except StoreError (Option ServiceAnswer)
  | none => .ok none
  | some result => do
    let closure ← okOr result.incidentCase.row.closure .invalid
    let answer ← writeIncidentReport result.incidentCase input.requestSha256 closure.reportJson
      closure.receiptJson
    return some answer

def CloseIncidentCaseInput.send (input : CloseIncidentCaseInput) (db : FleetTables) :
    Except StoreError (Option ServiceAnswer) × FleetTables :=
  match input.commit.call db with
  | (.error e,db) => (.error e,db)
  | (.ok result,db) => (input.answer result,db)

end Server

end KernAid.Fleet
