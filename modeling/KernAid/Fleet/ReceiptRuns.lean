import KernAid.Fleet.IncidentClosure
import KernAid.Fleet.Inventory

/-! The receipts of a device over any interleaving of responses and closures of incident cases. -/

set_option autoImplicit false

namespace KernAid.Fleet

open CrashLogic ReceiptCodec CloseIncidentCaseInput

section Closure

variable {db db' : IncidentTables} {caseId : String}

/-- A change that is about one case, and leaves its device and its closure as they are. -/
structure Touched (caseId : String) (db db' : IncidentTables) : Prop where
  others : ∀ other, other ≠ caseId →
    db'.incidentCase other = db.incidentCase other ∧ db'.linksOf other = db.linksOf other
  same : (db'.incidentCase caseId).map (fun row => (row.sourceDeviceId,row.closure)) =
    (db.incidentCase caseId).map fun row => (row.sourceDeviceId,row.closure)

variable {row : IncidentCaseRow} {observedAt : String}

theorem Touched.refl : Touched caseId db db := ⟨fun _ _ => ⟨rfl,rfl⟩,rfl⟩

theorem Touched.trans {db'' : IncidentTables} (h : Touched caseId db db') (h' : Touched caseId db' db'') :
    Touched caseId db db'' :=
  ⟨fun other hother => ⟨(h'.others other hother).1.trans (h.others other hother).1,
    (h'.others other hother).2.trans (h.others other hother).2⟩,h'.same.trans h.same⟩

theorem recordIncidentCaseEvent_frame {event : IncidentCaseEvent}
    (h : recordIncidentCaseEvent event db = .ok db') :
    db'.cases = db.cases ∧ db'.caseWorkOrders = db.caseWorkOrders := by
  rw [recordIncidentCaseEvent, require_bind_eq_ok, pure_eq_ok_iff] at h
  rw [← h.2]
  exact ⟨rfl,rfl⟩

theorem incidentCase_map {set : IncidentCaseRow → IncidentCaseRow} (h : db'.cases = db.cases.map set)
    (hset : ∀ row, (set row).caseId = row.caseId) (other : String) :
    db'.incidentCase other = (db.incidentCase other).map set := by
  simp only [IncidentTables.incidentCase, h, List.find?_map]
  congr 2
  funext row
  simp only [Function.comp_apply, hset]

theorem incidentCase_caseId (h : db.incidentCase caseId = some row) :
    row.caseId = caseId := by
  simpa using List.find?_some h

theorem linksOf_map {set : IncidentCaseWorkOrderRow → IncidentCaseWorkOrderRow} {other : String}
    (h : db'.caseWorkOrders = db.caseWorkOrders.map set)
    (hset : ∀ link, (set link).caseId = link.caseId ∧ (link.caseId = other → set link = link)) :
    db'.linksOf other = db.linksOf other := by
  simp only [IncidentTables.linksOf, h, List.filter_map]
  have hpred : ((fun link : IncidentCaseWorkOrderRow => decide (link.caseId = other)) ∘ set) =
      fun link => decide (link.caseId = other) := by
    funext link
    simp only [Function.comp_apply, (hset link).1]
  rw [hpred, List.map_congr_left (g := id), List.map_id]
  intro link hlink
  exact (hset link).2 (by simpa using (List.mem_filter.mp hlink).2)

variable [ReportCodec]

theorem syncIncidentCaseWorkOrder_touched {status : IncidentCaseStatus}
    {link : IncidentCaseWorkOrderRow}
    (h : syncIncidentCaseWorkOrder caseId status observedAt db link = .ok db') :
    Touched caseId db db' := by
  unfold syncIncidentCaseWorkOrder at h
  split at h
  · obtain rfl := Except.ok.inj h
    exact .refl
  · simp only at h
    split at h
    · obtain rfl := Except.ok.inj h
      exact .refl
    · obtain ⟨hcases,hlinks⟩ := recordIncidentCaseEvent_frame h
      have hfind := incidentCase_map hcases fun row => by split_ifs <;> rfl
      refine ⟨fun other hother => ⟨?_,?_⟩,?_⟩
      · rw [hfind]
        cases hrow : db.incidentCase other with
        | none => rfl
        | some row => simp [incidentCase_caseId hrow, hother]
      · refine linksOf_map hlinks fun link => ⟨?_,fun hlink => ?_⟩
        · split_ifs <;> rfl
        · rw [if_neg]
          rintro ⟨hcase,_⟩
          exact hother (hlink.symm.trans hcase)
      · rw [hfind]
        cases hrow : db.incidentCase caseId with
        | none => rfl
        | some row => simp [incidentCase_caseId hrow]

theorem syncIncidentCaseWorkOrders_touched
    (h : syncIncidentCaseWorkOrders caseId observedAt db = .ok db') : Touched caseId db db' := by
  unfold syncIncidentCaseWorkOrders at h
  split at h
  · obtain rfl := Except.ok.inj h
    exact .refl
  · split at h
    · obtain rfl := Except.ok.inj h
      exact .refl
    · next incident hincident _ =>
      clear hincident
      generalize db.linksOf caseId = links at h
      induction links generalizing db with
      | nil =>
        obtain rfl := Except.ok.inj h
        exact .refl
      | cons link links ih =>
        rw [List.foldlM_cons] at h
        obtain ⟨mid,hmid,h⟩ := bind_ok_iff.mp h
        exact (syncIncidentCaseWorkOrder_touched hmid).trans (ih h)

theorem syncIncidentCaseWorkOrders_settled
    (hsettled : ∀ row, db.incidentCase caseId = some row → row.closure ≠ none) :
    syncIncidentCaseWorkOrders caseId observedAt db = .ok db := by
  unfold syncIncidentCaseWorkOrders
  split
  · rfl
  · next row hrow =>
    rw [if_pos]
    exact row.closed_iff.mpr (Option.isSome_iff_ne_none.mpr (hsettled row hrow))

variable [DateParse]

theorem mapIncidentCase_eq_ok {stored : StoredIncidentCase}
    (h : db.mapIncidentCase row = .ok stored) : stored = ⟨row,stored.workOrders⟩ := by
  rw [IncidentTables.mapIncidentCase] at h
  obtain ⟨_,_,h⟩ := bind_ok_iff.mp h
  obtain ⟨workOrders,_,h⟩ := bind_ok_iff.mp h
  rw [pure_eq_ok_iff] at h
  rw [← h]

theorem mapIncidentCase_congr (h : db'.linksOf row.caseId = db.linksOf row.caseId) :
    db'.mapIncidentCase row = db.mapIncidentCase row := by
  simp only [IncidentTables.mapIncidentCase, h]

variable [ReceiptCodec] {input : CloseIncidentCaseInput}

/-- What a closure can do: find no case, return the report of the case, or close the case under the next
number of its device. -/
inductive CloseOutcome (input : CloseIncidentCaseInput) (db : FleetTables) :
    Option IncidentCaseMutationResult → FleetTables → Prop
  | unknown (hcase : db.incidents.incidentCase input.caseId = none) : CloseOutcome input db none db
  | repeated {row : IncidentCaseRow} {closure : IncidentClosure} {stored : StoredIncidentCase}
      (hcase : db.incidents.incidentCase input.caseId = some row) (hclosure : row.closure = some closure)
      (hrequest : closure.closeRequestSha256 = input.requestSha256)
      (hmap : db.incidents.mapIncidentCase row = .ok stored) :
      CloseOutcome input db (some ⟨stored,true⟩) db
  | closed {row row' : IncidentCaseRow} {closure : IncidentClosure} {incidents : IncidentTables}
      {stored : StoredIncidentCase} (hcase : db.incidents.incidentCase input.caseId = some row)
      (hopen : row.closure = none)
      (hsign : signServiceReceipt ⟨.incidentCaseClose,row.sourceDeviceId,input.requestSha256⟩
        closure.reportJson input.closedAt (db.receipts.lastSequence row.sourceDeviceId + 1) =
          .ok closure.receiptJson)
      (hclosed : incidents.incidentCase input.caseId = some row') (hclosure : row'.closure = some closure)
      (hdevice : row'.sourceDeviceId = row.sourceDeviceId)
      (hrequest : closure.closeRequestSha256 = input.requestSha256)
      (hmap : incidents.mapIncidentCase row' = .ok stored)
      (hothers : ∀ other, other ≠ input.caseId →
        incidents.incidentCase other = db.incidents.incidentCase other ∧
          incidents.linksOf other = db.incidents.linksOf other) :
      CloseOutcome input db (some ⟨stored,false⟩)
        ⟨{ db.receipts with
          checkpoints := db.receipts.checkpoints.insert row.sourceDeviceId
            ⟨db.receipts.lastSequence row.sourceDeviceId + 1,input.closedAt⟩ },incidents⟩

omit [DateParse] in
theorem buildIncidentClosure_eq_ok {outcome : IncidentCaseOutcome} {closedAt requestSha256 : String}
    {sequence : Nat} {incident : StoredIncidentCase} {timeline : List IncidentCaseEventRow}
    {material : IncidentCaseClosureMaterial}
    (h : buildIncidentClosure outcome closedAt requestSha256 sequence incident timeline = .ok material) :
    signServiceReceipt ⟨.incidentCaseClose,incident.row.sourceDeviceId,requestSha256⟩ material.reportJson
      closedAt sequence = .ok material.receiptJson := by
  simp only [buildIncidentClosure, okOr_bind_eq_ok] at h
  obtain ⟨reportJson,_,h⟩ := h
  obtain ⟨receiptJson,hsign,h⟩ := bind_ok_iff.mp h
  rw [pure_eq_ok_iff] at h
  subst h
  exact hsign

omit [DateParse] [ReportCodec] [ReceiptCodec] in
theorem CloseIncidentCaseInput.write_spec {material : IncidentCaseClosureMaterial} {sequence : Nat}
    {db db' : FleetTables} (hcase : db.incidents.incidentCase input.caseId = some row)
    (hopen : row.closure = none) (h : input.write material sequence row db = .ok db') :
    db'.incidents.incidentCase input.caseId = some (input.closed material row) ∧
      (∀ other, other ≠ input.caseId →
        db'.incidents.incidentCase other = db.incidents.incidentCase other ∧
          db'.incidents.linksOf other = db.incidents.linksOf other) ∧
      db'.receipts = { db.receipts with
        checkpoints := db.receipts.checkpoints.insert row.sourceDeviceId ⟨sequence,input.closedAt⟩ } := by
  simp only [write, require_bind_eq_ok] at h
  obtain ⟨_,_,h⟩ := h
  obtain ⟨incidents,hevent,h⟩ := bind_ok_iff.mp h
  rw [pure_eq_ok_iff] at h
  subst h
  obtain ⟨hcases,hlinks⟩ := recordIncidentCaseEvent_frame hevent
  have hfind := incidentCase_map hcases fun row => by split_ifs <;> rfl
  refine ⟨?_,fun other hother => ⟨?_,?_⟩,rfl⟩
  · have hstatus : row.status ≠ .closed := by
      rw [ne_eq, row.closed_iff, hopen]
      decide
    simp only [hfind, hcase, Option.map_some, incidentCase_caseId hcase, hstatus, true_and, ne_eq,
      not_false_eq_true, if_true]
  · simp only [hfind]
    cases hrow : db.incidents.incidentCase other with
    | none => rfl
    | some row => simp [incidentCase_caseId hrow, hother]
  · simp only [IncidentTables.linksOf, hlinks]

theorem CloseIncidentCaseInput.commit_spec {result : Option IncidentCaseMutationResult}
    {db db' : FleetTables}
    (h : input.commit db = .ok (result,db')) : CloseOutcome input db result db' := by
  simp only [commit, closeIncidentCase] at h
  obtain ⟨_,_,h⟩ := bind_ok_iff.mp h
  obtain ⟨incidents,hsync,h⟩ := bind_ok_iff.mp h
  have htouched := syncIncidentCaseWorkOrders_touched hsync
  have hsame := htouched.same
  cases hcase : db.incidents.incidentCase input.caseId with
  | none =>
    rw [syncIncidentCaseWorkOrders_settled (by simp [hcase])] at hsync
    obtain rfl := Except.ok.inj hsync
    rw [hcase] at h
    obtain ⟨rfl,rfl⟩ := Prod.mk.inj (Except.ok.inj h)
    exact .unknown hcase
  | some row =>
    cases hclosure : row.closure with
    | some closure =>
      rw [syncIncidentCaseWorkOrders_settled (by simp [hcase, hclosure])] at hsync
      obtain rfl := Except.ok.inj hsync
      simp only [hcase, hclosure, require_bind_eq_ok] at h
      obtain ⟨hrequest,h⟩ := h
      obtain ⟨stored,hmap,h⟩ := bind_ok_iff.mp h
      obtain ⟨rfl,rfl⟩ := Prod.mk.inj (Except.ok.inj h)
      exact .repeated hcase hclosure hrequest hmap
    | none =>
      -- The case that is read after the synchronisation has the device and the state of the one before.
      rw [hcase, Option.map_some, hclosure, Option.map_eq_some_iff] at hsame
      obtain ⟨mid,hmid,hcolumns⟩ := hsame
      obtain ⟨hdevice,hopen⟩ := Prod.mk.inj hcolumns
      simp only [hmid, hopen] at h
      obtain ⟨sequence,hsequence,h⟩ := bind_ok_iff.mp h
      rw [ReceiptTables.nextSequence, require_bind_eq_ok, pure_eq_ok_iff, hdevice] at hsequence
      obtain ⟨_,rfl⟩ := hsequence
      obtain ⟨current,hcurrent,h⟩ := bind_ok_iff.mp h
      obtain ⟨timeline,_,h⟩ := bind_ok_iff.mp h
      obtain ⟨material,hmaterial,h⟩ := bind_ok_iff.mp h
      obtain ⟨_,_,h⟩ := bind_ok_iff.mp h
      obtain ⟨written,hwritten,h⟩ := bind_ok_iff.mp h
      obtain ⟨hfound,hothers,hreceipts⟩ := write_spec hmid hopen hwritten
      obtain ⟨stored,hstored,h⟩ := bind_ok_iff.mp h
      rw [IncidentTables.requiredIncidentCase, okOr_bind_eq_ok] at hstored
      obtain ⟨row',hrow',hmap⟩ := hstored
      obtain rfl := Option.some.inj (hfound.symm.trans hrow')
      obtain ⟨rfl,rfl⟩ := Prod.mk.inj (Except.ok.inj h)
      have hsign := buildIncidentClosure_eq_ok hmaterial
      rw [mapIncidentCase_eq_ok hcurrent, hdevice] at hsign
      obtain ⟨receipts,incidents'⟩ := written
      simp only at hreceipts
      subst hreceipts
      rw [hdevice]
      exact .closed hcase hclosure hsign hfound rfl hdevice rfl hmap fun other hother =>
        ⟨(hothers other hother).1.trans (htouched.others other hother).1,
          (hothers other hother).2.trans (htouched.others other hother).2⟩

end Closure

section Handlers

variable [DateParse] [ReceiptCodec]

inductive ServiceError where
  | unknownDevice
  | deviceRevoked
  | invalidStoredKey
  | invalidSignature
  | inventoryTimestampRejected
  | store (e : StoreError)
deriving DecidableEq, Repr

structure ServiceTables where
  inventory : InventoryTables
  fleet : FleetTables

/-- A signed request of a device. `signature` is the verdict on it under the stored key, if that key can
be read; only an inventory has a `sequence`. -/
structure ServiceRequest where
  context : ServiceResponseContext
  signature : Option Bool
  sequence : Option Nat

/-- What a handler checks before its own work, and the retained response. That of an inventory is looked
for only while its sequence is the last one of the device. -/
def ServiceRequest.screen (request : ServiceRequest) (s : ServiceTables) :
    Except ServiceError (Option ServiceAnswer) := do
  let device ← okOr s.inventory.devices[request.context.deviceId]? .unknownDevice
  require (device.revokedAt = none) .deviceRevoked
  let verified ← okOr request.signature .invalidStoredKey
  require (verified = true) .invalidSignature
  if ∀ sequence ∈ request.sequence, sequence = device.lastSequence then
    (replayServiceResponse request.context s.fleet.receipts).mapError .store
  else return none

def ServiceRequest.handle (request : ServiceRequest)
    (work : ServiceTables → Except ServiceError ServiceAnswer × ServiceTables) (s : ServiceTables) :
    Except ServiceError ServiceAnswer × ServiceTables :=
  match request.screen s with
  | .error e => (.error e,s)
  | .ok (some answer) => (.ok answer,s)
  | .ok none => work s

/-- An inventory as it arrives, with the digest and the response body that the handler computes of it. -/
structure InventoryArrival where
  envelope : InventoryEnvelope
  requestSha256 : String
  signature : Option Bool
  envelopeHash : String
  responseBody : InventoryRecordResult → String
  nowMs : Int
  now : String

def InventoryArrival.request (arrival : InventoryArrival) : ServiceRequest :=
  ⟨⟨.inventory,arrival.envelope.deviceId,arrival.requestSha256⟩,arrival.signature,
    some arrival.envelope.sequence⟩

/-- The work of the inventory handler. The envelope and the response are two transactions. -/
def InventoryArrival.record (clockSkewMs : Nat) (arrival : InventoryArrival) (s : ServiceTables) :
    Except ServiceError ServiceAnswer × ServiceTables :=
  if arrival.nowMs + clockSkewMs < arrival.envelope.instant then (.error .inventoryTimestampRejected,s)
  else
    match (recordInventory arrival.envelope arrival.envelopeHash arrival.now).call s.inventory with
    | (.error e,inventory) => (.error (.store e),⟨inventory,s.fleet⟩)
    | (.ok result,inventory) =>
      let response : ServiceResponse := ⟨arrival.request.context,if result.idempotent then 200 else 201,
        arrival.responseBody result,arrival.now,none⟩
      let sent := response.send s.fleet.receipts
      (sent.1.mapError .store,⟨inventory,{ s.fleet with receipts := sent.2 }⟩)

def InventoryArrival.handle (clockSkewMs : Nat) (arrival : InventoryArrival) :
    ServiceTables → Except ServiceError ServiceAnswer × ServiceTables :=
  arrival.request.handle (arrival.record clockSkewMs)

/-- The handler gets as far as the retained response. -/
def ServiceRequest.Admitted (request : ServiceRequest) (inventory : InventoryTables) : Prop :=
  ∃ device, inventory.devices[request.context.deviceId]? = some device ∧ device.revokedAt = none ∧
    request.signature = some true ∧ ∀ sequence ∈ request.sequence, sequence = device.lastSequence

variable {request : ServiceRequest} {s : ServiceTables}
  {work : ServiceTables → Except ServiceError ServiceAnswer × ServiceTables}

theorem ServiceRequest.handle_retained {answer : ServiceAnswer} (hadmitted : request.Admitted s.inventory)
    (hretained : replayServiceResponse request.context s.fleet.receipts = .ok (some answer)) :
    request.handle work s = (.ok answer,s) := by
  obtain ⟨device,hdevice,hlive,hsignature,hlast⟩ := hadmitted
  have hscreen : request.screen s = .ok (some answer) := by
    simp only [screen, hdevice, hsignature, okOr_some, ok_bind, require_bind_eq_ok]
    refine ⟨hlive,trivial,?_⟩
    rw [if_pos hlast, hretained]
    rfl
  rw [handle, hscreen]

theorem ServiceRequest.handle_refused
    (hdevice : ∀ device, s.inventory.devices[request.context.deviceId]? = some device →
      device.revokedAt ≠ none) :
    ∃ e, request.handle work s = (.error e,s) := by
  cases hscreen : request.screen s with
  | error e => exact ⟨e,by rw [handle, hscreen]⟩
  | ok replayed =>
    simp only [screen, okOr_bind_eq_ok, require_bind_eq_ok] at hscreen
    obtain ⟨device,hfound,hlive,_⟩ := hscreen
    exact absurd hlive (hdevice device hfound)

/-- The store refuses a sequence below the last one, and no retained response is looked for. -/
theorem InventoryArrival.handle_superseded {clockSkewMs : Nat} {arrival : InventoryArrival}
    {device : DeviceRow} (hdevice : s.inventory.devices[arrival.envelope.deviceId]? = some device)
    (hold : arrival.envelope.sequence < device.lastSequence) :
    ∃ e, arrival.handle clockSkewMs s = (.error e,s) ∧
      (device.revokedAt = none → arrival.signature = some true →
        arrival.envelope.instant ≤ arrival.nowMs + clockSkewMs → e = .store .replay) := by
  rw [handle, ServiceRequest.handle]
  cases hscreen : arrival.request.screen s with
  | error e =>
    refine ⟨e,rfl,fun hlive hsignature _ => ?_⟩
    simp [ServiceRequest.screen, request, hdevice, hlive, hsignature, hold.ne,
      require, pure, Except.pure] at hscreen
  | ok replayed =>
    simp only [ServiceRequest.screen, okOr_bind_eq_ok, require_bind_eq_ok, request, hdevice] at hscreen
    obtain ⟨_,hfound,hlive,_,_,_,hscreen⟩ := hscreen
    obtain rfl := Option.some.inj hfound
    obtain rfl : replayed = none := by simpa [hold.ne, pure, Except.pure] using hscreen.symm
    have hreplay : recordInventory arrival.envelope arrival.envelopeHash arrival.now s.inventory =
        .error .replay := by
      simp [recordInventory, hdevice, hlive, hold.ne, hold.not_gt, require]
      rfl
    simp only [record]
    split_ifs with hfuture
    · exact ⟨_,rfl,fun _ _ hnow => absurd hnow hfuture.not_ge⟩
    · rw [Transaction.call_error hreplay]
      exact ⟨_,rfl,fun _ _ _ => rfl⟩

end Handlers

section Runs

variable [DateParse] [ReceiptCodec] [ReportCodec]

/-- What the operations that issue no receipt keep: the numbers, the retained responses, and the closed
cases with their links. -/
structure Kept (db db' : FleetTables) : Prop where
  checkpoints : db'.receipts.checkpoints = db.receipts.checkpoints
  receipts : db'.receipts.receipts = db.receipts.receipts
  closed : ∀ caseId row, db.incidents.incidentCase caseId = some row → row.closure ≠ none →
    db'.incidents.incidentCase caseId = some row ∧
    db'.incidents.linksOf caseId = db.incidents.linksOf caseId

/-- A call of the control plane. -/
inductive FleetCall where
  | respond (response : ServiceResponse)
  | close (input : CloseIncidentCaseInput)
  | others (change : FleetTables → FleetTables) (keeps : ∀ db, Kept db (change db))

def FleetCall.perform : FleetCall → FleetTables → Except StoreError (Option ServiceAnswer) × FleetTables
  | .respond response, db =>
    ((response.send db.receipts).1.map some,{ db with receipts := (response.send db.receipts).2 })
  | .close input, db => input.send db
  | .others change _, db => (.ok none,change db)

def playFleet (calls : List FleetCall) (db : FleetTables) : FleetTables :=
  calls.foldl (fun db call => (call.perform db).2) db

def withoutReceipts (devices : List String) (incidents : IncidentTables) : FleetTables :=
  ⟨⟨devices,∅,[],[],[]⟩,incidents⟩

def FleetCall.issued : FleetCall → FleetTables → Option String
  | .respond response, db =>
    match db.receipts.retained response.context, response.commit db.receipts with
    | none, .ok (stored,_) => some stored.receiptJson
    | _, _ => none
  | .close input, db =>
    match input.commit db with
    | .ok (some ⟨incident,false⟩,_) => incident.row.closure.map IncidentClosure.receiptJson
    | _ => none
  | .others _ _, _ => none

def issuedNumbers (deviceId : String) : List FleetCall → FleetTables → List Nat
  | [], _ => []
  | call :: calls, db =>
    (((call.issued db).bind parseServiceReceipt).toList.filter fun receipt =>
      receipt.deviceId = deviceId).map
      (fun receipt => receipt.sequence) ++ issuedNumbers deviceId calls (call.perform db).2

def FleetCall.context : FleetCall → FleetTables → Option ServiceResponseContext
  | .respond response, _ => some response.context
  | .close input, db => (db.incidents.incidentCase input.caseId).map fun row =>
      ⟨.incidentCaseClose,row.sourceDeviceId,input.requestSha256⟩
  | .others _ _, _ => none

def Binds (context : ServiceResponseContext) (answer : ServiceAnswer) : Prop :=
  ∃ receipt, parseServiceReceipt answer.receiptJson = some receipt ∧ receipt.deviceId = context.deviceId ∧
    receipt.operation = context.operation ∧ receipt.requestSha256 = context.requestSha256 ∧
    receipt.responseSha256 = sha256Hex answer.body ∧
    verify receipt.toServiceReceiptUnsigned receipt.signature = true

def RetainedDuring (context : ServiceResponseContext) : List FleetCall → FleetTables → Prop
  | [], db => (db.receipts.retained context).isSome
  | call :: calls, db =>
    (db.receipts.retained context).isSome ∧ RetainedDuring context calls (call.perform db).2

variable {db db' : FleetTables} {call : FleetCall}

variable {answer : ServiceAnswer} {row : IncidentCaseRow} {input : CloseIncidentCaseInput}

theorem CloseIncidentCaseInput.send_cases (input : CloseIncidentCaseInput) (db : FleetTables) :
    (∃ result db', input.commit db = .ok (result,db') ∧ input.send db = (input.answer result,db')) ∨
      ∃ e, input.commit db = .error e ∧ input.send db = (.error e,db) := by
  rcases Transaction.call_cases input.commit db with ⟨result,db',hok,hcall⟩ | ⟨e,herror,hcall⟩
  · exact .inl ⟨result,db',hok,by rw [send, hcall]⟩
  · exact .inr ⟨e,herror,by rw [send, hcall]⟩

/-- A call issues no receipt and leaves the numbers, or issues the receipt with the next number of a
device and moves the number of that device. -/
theorem FleetCall.perform_numbers (call : FleetCall) (db : FleetTables) :
    (call.issued db = none ∧
      (call.perform db).2.receipts.checkpoints = db.receipts.checkpoints) ∨
      ∃ receiptJson receipt, call.issued db = some receiptJson ∧
        parseServiceReceipt receiptJson = some receipt ∧
        receipt.sequence = db.receipts.lastSequence receipt.deviceId + 1 ∧
        ∀ deviceId, (call.perform db).2.receipts.lastSequence deviceId =
          if deviceId = receipt.deviceId then receipt.sequence else
            db.receipts.lastSequence deviceId := by
  cases call with
  | others change keeps => exact .inl ⟨rfl,(keeps db).checkpoints⟩
  | respond response =>
    simp only [FleetCall.issued, FleetCall.perform]
    rcases response.send_cases db.receipts with ⟨stored,receipts,hok,hsend⟩ | ⟨e,herror,hsend⟩
    · rw [hsend, hok]
      cases ServiceResponse.commit_spec hok with
      | retained hrow =>
        rw [show db.receipts.retained response.context = _ from hrow]
        exact .inl ⟨rfl,rfl⟩
      | @stored receiptJson policyPullNonces entitlementPullNonces hnone hlimit hsign hmap =>
        rw [show db.receipts.retained response.context = none from hnone]
        obtain ⟨receipt,hparse,hdevice,hsequence⟩ := signServiceReceipt_eq_ok hsign
        have hcontext : receipt.deviceId = response.input.deviceId := hdevice
        refine .inr ⟨receiptJson,receipt,rfl,hparse,by rw [hsequence, hcontext],fun deviceId => ?_⟩
        rw [lastSequence_insert, hcontext, hsequence]
    · rw [hsend, herror]
      left
      constructor
      · split <;> simp_all
      · rfl
  | close input =>
    simp only [FleetCall.issued, FleetCall.perform]
    rcases input.send_cases db with ⟨result,after,hok,hsend⟩ | ⟨e,herror,hsend⟩
    · rw [hsend, hok]
      cases commit_spec hok with
      | unknown hcase => exact .inl ⟨rfl,rfl⟩
      | repeated hcase hclosure hrequest hmap => exact .inl ⟨rfl,rfl⟩
      | @closed row row' closure incidents stored hcase hopen hsign hclosed hclosure
          hdevice hrequest hmap _ =>
        obtain ⟨receipt,hparse,hbound,hsequence⟩ := signServiceReceipt_eq_ok hsign
        simp only at hbound
        refine .inr ⟨closure.receiptJson,receipt,?_,hparse,by rw [hsequence, hbound],fun deviceId => ?_⟩
        · rw [mapIncidentCase_eq_ok hmap]
          simp only [hclosure, Option.map_some]
        · rw [lastSequence_insert, hbound, hsequence]
    · rw [hsend, herror]
      exact .inl ⟨rfl,rfl⟩

theorem issuedNumbers_eq (deviceId : String) (calls : List FleetCall) (db : FleetTables) :
    db.receipts.lastSequence deviceId ≤ (playFleet calls db).receipts.lastSequence deviceId ∧
      issuedNumbers deviceId calls db = List.range' (db.receipts.lastSequence deviceId + 1)
        ((playFleet calls db).receipts.lastSequence deviceId - db.receipts.lastSequence deviceId) := by
  induction calls generalizing db with
  | nil => simp [playFleet, issuedNumbers]
  | cons call calls ih =>
    obtain ⟨hle,hnumbers⟩ := ih (call.perform db).2
    change _ ≤ (playFleet calls (call.perform db).2).receipts.lastSequence deviceId ∧
      _ ++ issuedNumbers deviceId calls (call.perform db).2 = List.range' _
        ((playFleet calls (call.perform db).2).receipts.lastSequence deviceId - _)
    rw [hnumbers]
    generalize (playFleet calls (call.perform db).2).receipts.lastSequence deviceId = final at hle ⊢
    rcases call.perform_numbers db with ⟨hnone,hcheckpoints⟩ |
      ⟨text,receipt,hissued,hparse,hsequence,hlast⟩
    · rw [lastSequence_congr hcheckpoints] at hle ⊢
      simp [hnone, hle]
    · rw [hlast] at hle ⊢
      by_cases hdevice : deviceId = receipt.deviceId
      · rw [if_pos hdevice, hsequence, ← hdevice] at hle ⊢
        have hcount : final - db.receipts.lastSequence deviceId =
            final - (db.receipts.lastSequence deviceId + 1) + 1 := by omega
        refine ⟨by omega,?_⟩
        rw [hcount, List.range'_succ]
        simp [hissued, hparse, hdevice, hsequence]
      · rw [if_neg hdevice] at hle ⊢
        simp [hissued, hparse, Ne.symm hdevice, hle]

theorem FleetCall.perform_binds (h : (call.perform db).1 = .ok (some answer)) :
    ∃ context, call.context db = some context ∧ Binds context answer := by
  cases call with
  | others change keeps => cases h
  | respond response =>
    refine ⟨response.context,rfl,?_⟩
    simp only [FleetCall.perform] at h
    rcases response.send_cases db.receipts with ⟨stored,receipts,hok,hsend⟩ | ⟨e,herror,hsend⟩
    · simp only [hsend] at h
      cases hwrite : writeServiceResponse response.context stored with
      | error e => simp [hwrite, Except.map] at h
      | ok written =>
        obtain rfl : written = answer := by simpa [hwrite, Except.map] using h
        rw [writeServiceResponse] at hwrite
        obtain ⟨_,hverified,hwrite⟩ := bind_ok_iff.mp hwrite
        rw [require_bind_eq_ok, pure_eq_ok_iff] at hwrite
        obtain ⟨_,rfl⟩ := hwrite
        obtain ⟨receipt,hparse,hdevice,hoperation,_,hrest⟩ := verifyServiceReceipt_eq_ok hverified
        exact ⟨receipt,hparse,hdevice,hoperation,hrest⟩
    · simp [hsend, Except.map] at h
  | close input =>
    simp only [FleetCall.perform] at h
    rcases input.send_cases db with ⟨result,after,hok,hsend⟩ | ⟨e,herror,hsend⟩
    · simp only [hsend] at h
      have hrow : ∃ stored idempotent row, result = some ⟨stored,idempotent⟩ ∧
          db.incidents.incidentCase input.caseId = some row ∧
          row.sourceDeviceId = stored.row.sourceDeviceId := by
        cases commit_spec hok with
        | unknown hcase => cases h
        | repeated hcase hclosure hrequest hmap =>
          exact ⟨_,_,_,rfl,hcase,by rw [mapIncidentCase_eq_ok hmap]⟩
        | closed hcase hopen hsign hclosed hclosure hdevice hrequest hmap _ =>
          exact ⟨_,_,_,rfl,hcase,by rw [mapIncidentCase_eq_ok hmap, hdevice]⟩
      obtain ⟨stored,idempotent,row,rfl,hcase,hdevice⟩ := hrow
      refine ⟨⟨.incidentCaseClose,stored.row.sourceDeviceId,input.requestSha256⟩,?_,?_⟩
      · simp only [FleetCall.context, hcase, Option.map_some, hdevice]
      · simp only [CloseIncidentCaseInput.answer, okOr_bind_eq_ok] at h
        obtain ⟨closure,_,h⟩ := h
        obtain ⟨written,hwritten,h⟩ := bind_ok_iff.mp h
        obtain rfl : written = answer := by simpa using h
        simp only [writeIncidentReport, okOr_bind_eq_ok, require_bind_eq_ok] at hwritten
        obtain ⟨_,_,_,_,_,hwritten⟩ := hwritten
        obtain ⟨_,hverified,hwritten⟩ := bind_ok_iff.mp hwritten
        rw [pure_eq_ok_iff] at hwritten
        subst hwritten
        obtain ⟨receipt,hparse,hdevice,hoperation,_,hrest⟩ := verifyServiceReceipt_eq_ok hverified
        exact ⟨receipt,hparse,hdevice,hoperation,hrest⟩
    · simp only [hsend] at h
      cases h

omit [DateParse] [ReportCodec] in
theorem withoutReceipts_ok (devices : List String) (incidents : IncidentTables) :
    (withoutReceipts devices incidents).receipts.Ok :=
  ⟨nofun,List.Pairwise.nil,nofun,nofun⟩

theorem ReceiptTables.Ok.performed (h : db.receipts.Ok) (call : FleetCall) :
    (call.perform db).2.receipts.Ok := by
  cases call with
  | others change keeps =>
    have hkept := keeps db
    simp only [FleetCall.perform]
    constructor
    · intro row hrow
      rw [lastSequence_congr hkept.checkpoints]
      exact h.numbered row (hkept.receipts ▸ hrow)
    · exact hkept.receipts.symm ▸ h.distinct
    · exact hkept.receipts.symm ▸ h.mapped
    · exact hkept.receipts.symm ▸ h.written
  | respond response =>
    simp only [FleetCall.perform]
    rcases response.send_cases db.receipts with ⟨stored,receipts,hok,hsend⟩ | ⟨e,_,hsend⟩
    · rw [hsend]
      exact h.committed (ServiceResponse.commit_spec hok)
    · rw [hsend]
      exact h
  | close input =>
    simp only [FleetCall.perform]
    rcases input.send_cases db with ⟨result,after,hok,hsend⟩ | ⟨e,_,hsend⟩
    · rw [hsend]
      cases commit_spec hok with
      | unknown => exact h
      | repeated => exact h
      | closed => exact h.advanced
    · rw [hsend]
      exact h

theorem ReceiptTables.Ok.played (h : db.receipts.Ok) (calls : List FleetCall) :
    (playFleet calls db).receipts.Ok := by
  induction calls generalizing db with
  | nil => exact h
  | cons call calls ih => exact ih (h.performed call)

theorem ReceiptTables.Ok.row_kept (h : db.receipts.Ok) {row : ServiceReceiptRow}
    (hrow : row ∈ db.receipts.receipts)
    (hretained : ((call.perform db).2.receipts.retained row.toServiceResponseContext).isSome) :
    row ∈ (call.perform db).2.receipts.receipts := by
  cases call with
  | others change keeps => exact (keeps db).receipts.symm ▸ hrow
  | close input =>
    simp only [FleetCall.perform]
    rcases input.send_cases db with ⟨result,after,hok,hsend⟩ | ⟨e,_,hsend⟩
    · rw [hsend]
      cases commit_spec hok with
      | unknown => exact hrow
      | repeated => exact hrow
      | closed => exact hrow
    · rw [hsend]
      exact hrow
  | respond response =>
    simp only [FleetCall.perform] at hretained ⊢
    rcases response.send_cases db.receipts with ⟨stored,receipts,hok,hsend⟩ | ⟨e,_,hsend⟩
    · rw [hsend] at hretained ⊢
      cases ServiceResponse.commit_spec hok with
      | retained => exact hrow
      | stored hnone _ _ _ =>
        obtain ⟨found,hfound⟩ := Option.isSome_iff_exists.mp hretained
        obtain ⟨hmem,hcontext⟩ := retained_eq_some hfound
        rcases List.mem_append.mp (mem_of_mem_evictReceipts hmem) with hold | hnew
        · have hunique := h.retained_of_mem hold
          rw [hcontext, h.retained_of_mem hrow] at hunique
          obtain rfl := Option.some.inj hunique
          exact hmem
        · obtain rfl := List.mem_singleton.mp hnew
          exact absurd hcontext.symm (retained_eq_none hnone hrow)
    · rw [hsend]
      exact hrow

theorem ReceiptTables.Ok.row_kept_during {row : ServiceReceiptRow} {calls : List FleetCall}
    (h : db.receipts.Ok) (hrow : row ∈ db.receipts.receipts)
    (hretained : RetainedDuring row.toServiceResponseContext calls db) :
    row ∈ (playFleet calls db).receipts.receipts := by
  induction calls generalizing db with
  | nil => exact hrow
  | cons call calls ih =>
    have hnext : ((call.perform db).2.receipts.retained row.toServiceResponseContext).isSome := by
      cases calls with
      | nil => exact hretained.2
      | cons _ _ => exact hretained.2.1
    exact ih (h.performed call) (h.row_kept hrow hnext) hretained.2

theorem respond_repeated {response response' : ServiceResponse} {later : List FleetCall}
    (h : db.receipts.Ok)
    (hfirst : (FleetCall.respond response).perform db = (.ok (some answer),db'))
    (hretained : RetainedDuring response.context later db')
    (hcontext : response'.context = response.context) :
    replayServiceResponse response.context (playFleet later db').receipts = .ok (some answer) ∧
      (validateServiceResponseCommit response'.input = .ok () →
        (FleetCall.respond response').perform (playFleet later db') =
          (.ok (some answer),playFleet later db')) := by
  have hok' : db'.receipts.Ok := by
    have hperformed := h.performed (.respond response)
    rwa [hfirst] at hperformed
  -- The row that is retained after the first call holds its answer.
  obtain ⟨row,hrow,hrowContext,hanswer⟩ : ∃ row ∈ db'.receipts.receipts,
      row.toServiceResponseContext = response.context ∧
        answer = ⟨row.status,row.responseBody,row.receiptJson⟩ := by
    simp only [FleetCall.perform] at hfirst
    rcases response.send_cases db.receipts with ⟨stored,receipts,hok,hsend⟩ | ⟨e,_,hsend⟩
    · obtain ⟨row,_,_,hunique,hwrite⟩ := h.answered (ServiceResponse.commit_spec hok)
      rw [hsend, hwrite] at hfirst
      obtain ⟨hanswer,rfl⟩ := Prod.mk.inj hfirst
      have hnow : (receipts.retained response.context).isSome := by
        cases later with
        | nil => exact hretained
        | cons _ _ => exact hretained.1
      obtain ⟨found,hfound⟩ := Option.isSome_iff_exists.mp hnow
      obtain ⟨hmem,hfoundContext⟩ := retained_eq_some hfound
      refine ⟨found,hmem,hfoundContext,?_⟩
      rw [hunique found hmem hfoundContext]
      exact (Option.some.inj (Except.ok.inj hanswer)).symm
    · rw [hsend] at hfirst
      cases (Prod.mk.inj hfirst).1
  have hlater := hok'.played later
  have hkept := hok'.row_kept_during hrow (hrowContext.symm ▸ hretained)
  constructor
  · rw [← hrowContext, hlater.replayed hkept, hanswer]
  · intro hvalid
    simp only [FleetCall.perform]
    rw [hlater.repeated hkept (hcontext.trans hrowContext.symm) hvalid, hanswer]
    rfl

theorem FleetCall.perform_closed (call : FleetCall) {caseId : String}
    (hcase : db.incidents.incidentCase caseId = some row) (hclosed : row.closure ≠ none) :
    (call.perform db).2.incidents.incidentCase caseId = some row ∧
      (call.perform db).2.incidents.linksOf caseId = db.incidents.linksOf caseId := by
  cases call with
  | others change keeps => exact (keeps db).closed caseId row hcase hclosed
  | respond response => exact ⟨hcase,rfl⟩
  | close input =>
    simp only [FleetCall.perform]
    rcases input.send_cases db with ⟨result,after,hok,hsend⟩ | ⟨e,_,hsend⟩
    · rw [hsend]
      cases commit_spec hok with
      | unknown => exact ⟨hcase,rfl⟩
      | repeated => exact ⟨hcase,rfl⟩
      | closed hother hopen _ _ _ _ _ _ hothers =>
        have hne : caseId ≠ input.caseId := by
          rintro rfl
          rw [hcase] at hother
          obtain rfl := Option.some.inj hother
          exact hclosed hopen
        rw [(hothers caseId hne).1, (hothers caseId hne).2]
        exact ⟨hcase,rfl⟩
    · rw [hsend]
      exact ⟨hcase,rfl⟩

theorem playFleet_closed (calls : List FleetCall) {caseId : String}
    (hcase : db.incidents.incidentCase caseId = some row) (hclosed : row.closure ≠ none) :
    (playFleet calls db).incidents.incidentCase caseId = some row ∧
      (playFleet calls db).incidents.linksOf caseId = db.incidents.linksOf caseId := by
  induction calls generalizing db with
  | nil => exact ⟨hcase,rfl⟩
  | cons call calls ih =>
    obtain ⟨hnext,hlinks⟩ := call.perform_closed hcase hclosed
    obtain ⟨hlater,hsame⟩ := ih hnext
    exact ⟨hlater,hsame.trans hlinks⟩

theorem CloseIncidentCaseInput.send_closed {closure : IncidentClosure}
    (hcase : db.incidents.incidentCase input.caseId = some row)
    (hclosure : row.closure = some closure) (hvalid : validateIncidentCaseClose input = .ok ()) :
    input.send db = (if closure.closeRequestSha256 = input.requestSha256 then
      (db.incidents.mapIncidentCase row).bind fun stored => input.answer (some ⟨stored,true⟩)
      else .error .incidentCaseState,db) := by
  have hcommit : input.commit db = do
      require (closure.closeRequestSha256 = input.requestSha256) .incidentCaseState
      let incidentCase ← db.incidents.mapIncidentCase row
      return (some ⟨incidentCase,true⟩,db) := by
    rw [commit, closeIncidentCase, hvalid, ok_bind,
      syncIncidentCaseWorkOrders_settled (by simp [hcase, hclosure]), ok_bind]
    simp only [hcase, hclosure]
  rw [send, Transaction.call, hcommit]
  split_ifs with hsame
  · rw [require, if_pos hsame]
    cases db.incidents.mapIncidentCase row <;> rfl
  · rw [require, if_neg hsame]
    rfl

theorem CloseIncidentCaseInput.send_answered (h : input.send db = (.ok (some answer),db')) :
    ∃ row closure stored idempotent, db'.incidents.incidentCase input.caseId = some row ∧
      row.closure = some closure ∧ closure.closeRequestSha256 = input.requestSha256 ∧
      db'.incidents.mapIncidentCase row = .ok stored ∧
      input.answer (some ⟨stored,idempotent⟩) = .ok (some answer) := by
  rcases input.send_cases db with ⟨result,after,hok,hsend⟩ | ⟨e,_,hsend⟩
  · rw [hsend] at h
    obtain ⟨hanswer,rfl⟩ := Prod.mk.inj h
    cases commit_spec hok with
    | unknown => cases hanswer
    | repeated hcase hclosure hrequest hmap =>
      exact ⟨_,_,_,_,hcase,hclosure,hrequest,hmap,hanswer⟩
    | closed _ _ _ hclosed hclosure _ hrequest hmap _ =>
      exact ⟨_,_,_,_,hclosed,hclosure,hrequest,hmap,hanswer⟩
  · rw [hsend] at h
    cases (Prod.mk.inj h).1

theorem close_repeated {input' : CloseIncidentCaseInput}
    (hfirst : (FleetCall.close input).perform db = (.ok (some answer),db')) (later : List FleetCall)
    (hcaseId : input'.caseId = input.caseId)
    (hrequest' : input'.requestSha256 = input.requestSha256)
    (hvalid : validateIncidentCaseClose input' = .ok ()) :
    (FleetCall.close input').perform (playFleet later db') = (.ok (some answer),playFleet later db') := by
  simp only [FleetCall.perform] at hfirst ⊢
  obtain ⟨row,closure,stored,idempotent,hcase,hclosure,hrequest,hmap,hanswer⟩ :=
    send_answered hfirst
  obtain ⟨hlater,hlinks⟩ := playFleet_closed later hcase (by simp [hclosure])
  have hstored : (playFleet later db').incidents.mapIncidentCase row = .ok stored := by
    rw [← hmap]
    exact mapIncidentCase_congr (by rw [incidentCase_caseId hcase, hlinks])
  rw [send_closed (hcaseId ▸ hlater) hclosure hvalid,
    if_pos (hrequest.trans hrequest'.symm), hstored, ← hanswer]
  simp only [CloseIncidentCaseInput.answer, hrequest', Except.bind]

/-- The receipts of a control plane over any interleaving of responses and closures: the numbers issued
for a device are 1, 2, 3, ... without a gap; the receipt of an answer binds the request and the body;
while the response of a request is retained, its repetition gets the same answer and changes nothing if
the handler admits it, and so does the repetition of a closure; a commit that throws changes nothing. A
handler refuses a revoked device, and an inventory older than the last one of its device, and changes
nothing then. -/
theorem receipts_numbered_bound_and_repeatable (devices : List String) (incidents : IncidentTables)
    (calls : List FleetCall) :
    let start := withoutReceipts devices incidents
    let db := playFleet calls start
    (∀ deviceId, issuedNumbers deviceId calls start = List.range' 1 (db.receipts.lastSequence deviceId)) ∧
    (∀ call answer, (FleetCall.perform call db).1 = .ok (some answer) →
      ∃ context, call.context db = some context ∧ Binds context answer) ∧
    (∀ response answer db', (FleetCall.respond response).perform db = (.ok (some answer),db') →
      ∀ later, RetainedDuring response.context later db' →
        replayServiceResponse response.context (playFleet later db').receipts = .ok (some answer) ∧
        (∀ (request : ServiceRequest) work inventory, request.context = response.context →
          request.Admitted inventory →
            request.handle work ⟨inventory,playFleet later db'⟩ =
              (.ok answer,⟨inventory,playFleet later db'⟩)) ∧
        ∀ response', response'.context = response.context →
          validateServiceResponseCommit response'.input = .ok () →
            (FleetCall.respond response').perform (playFleet later db') =
              (.ok (some answer),playFleet later db')) ∧
    (∀ input answer db', (FleetCall.close input).perform db = (.ok (some answer),db') →
      ∀ later input', input'.caseId = input.caseId → input'.requestSha256 = input.requestSha256 →
        validateIncidentCaseClose input' = .ok () →
          (FleetCall.close input').perform
            (playFleet later db') = (.ok (some answer),playFleet later db')) ∧
    (∀ (response : ServiceResponse) (e : StoreError),
      (response.commit.call db.receipts).1 = .error e ∨
        (response.send db.receipts).1 = .error e →
      (response.commit.call db.receipts).2 = db.receipts ∧ (response.send db.receipts).2 = db.receipts) ∧
    (∀ (input : CloseIncidentCaseInput) (e : StoreError), (input.commit.call db).1 = .error e →
      (input.commit.call db).2 = db ∧ (input.send db).2 = db) ∧
    (∀ (request : ServiceRequest) work inventory, (∀ device,
        inventory.devices[request.context.deviceId]? = some device → device.revokedAt ≠ none) →
      ∃ e, request.handle work ⟨inventory,db⟩ = (.error e,⟨inventory,db⟩)) ∧
    ∀ clockSkewMs (arrival : InventoryArrival) (inventory : InventoryTables) device,
      inventory.devices[arrival.envelope.deviceId]? = some device →
      arrival.envelope.sequence < device.lastSequence →
      ∃ e, arrival.handle clockSkewMs ⟨inventory,db⟩ = (.error e,⟨inventory,db⟩) ∧
        (device.revokedAt = none → arrival.signature = some true →
          arrival.envelope.instant ≤ arrival.nowMs + clockSkewMs → e = .store .replay) := by
  intro start db
  have hok : db.receipts.Ok := (withoutReceipts_ok devices incidents).played calls
  refine ⟨fun deviceId => ?_,fun call answer h => FleetCall.perform_binds h,?_,?_,?_,?_,
    fun request work inventory hdevice => ServiceRequest.handle_refused hdevice,
    fun clockSkewMs arrival inventory device hdevice hold =>
      InventoryArrival.handle_superseded hdevice hold⟩
  · exact (issuedNumbers_eq deviceId calls start).2
  · intro response answer db' hfirst later hretained
    have hreplay := (respond_repeated hok hfirst hretained rfl).1
    refine ⟨hreplay,fun request work inventory hcontext hadmitted => ?_,fun response' hcontext =>
      (respond_repeated hok hfirst hretained hcontext).2⟩
    exact ServiceRequest.handle_retained hadmitted (by rwa [hcontext])
  · intro input answer db' hfirst later input' hcaseId hrequest hvalid
    exact close_repeated hfirst later hcaseId hrequest hvalid
  · intro response e herror
    rcases Transaction.call_cases response.commit db.receipts
      with ⟨stored,after,hcommit,hcall⟩ | ⟨_,_,hcall⟩
    · -- A commit that stores a response is answered.
      obtain ⟨row,_,_,_,hwrite⟩ := hok.answered (ServiceResponse.commit_spec hcommit)
      rcases herror with herror | herror
      · rw [hcall] at herror
        cases herror
      · rw [ServiceResponse.send, hcall] at herror
        simp only [hwrite] at herror
        cases herror
    · rw [ServiceResponse.send, hcall]
      exact ⟨rfl,rfl⟩
  · intro input e herror
    rcases input.send_cases db with ⟨result,after,hcommit,hsend⟩ | ⟨_,hcommit,hsend⟩
    · rw [Transaction.call_ok hcommit] at herror
      cases herror
    · rw [Transaction.call_error hcommit, hsend]
      exact ⟨rfl,rfl⟩

end Runs

namespace ReceiptSample

def device : String := "KA-0123456789abcdef01234567"

def acceptedAt : String := "1970-01-01T00:00:00.000Z"

def leading (digest : String) : Char := Char.ofUInt8 (digest.toUTF8.data.getD 0 0)

/-- A receipt is written as the digits of its digests and its number in strokes. -/
def receiptText (request response : Char) (number : Nat) : String :=
  String.ofList (request :: response :: List.replicate number '|')

/-- The receipts of one operation of the device. -/
@[reducible] def receipts (operation : FleetServiceOperation) : ReceiptCodec where
  sha256Hex body := digits (if body = "again" then 'a' else 'f')
  sign _ := "signature"
  verify _ signature := signature = "signature"
  canonicalJson receipt :=
    receiptText (leading receipt.requestSha256) (leading receipt.responseSha256) receipt.sequence
  parseServiceReceipt text :=
    match text.toList with
    | request :: response :: strokes => some ⟨⟨device,operation,strokes.length,digits request,
        digits response,acceptedAt⟩,"signature"⟩
    | _ => none

@[reducible] def dates : DateParse := ⟨fun _ => some 0⟩

@[reducible] def reports : ReportCodec where
  stateSha256 _ := digits '0'
  timelineSha256 _ := digits '0'
  canonicalReport _ := none
  parseIncidentReport _ := none

def empty : FleetTables := withoutReceipts [device] ⟨[],[],[],[],[]⟩

def audit : ServiceResponse := ⟨⟨.audit,device,digits '0'⟩,201,"first",acceptedAt,none⟩

/-- The first response of the device has the number 1, and its repetition gets it again, from the handler
and from a second commit. -/
theorem receipts_numbered_and_repeated_audit :
    let _ := dates
    let _ := receipts .audit
    let _ := reports
    let db := ((FleetCall.respond audit).perform empty).2
    let enrolled : InventoryTables := ⟨Std.ExtTreeMap.insert ∅ device ⟨none,0,none,none⟩,[],∅⟩
    issuedNumbers device [.respond audit] empty = [1] ∧
      (∀ work, ServiceRequest.handle ⟨audit.context,some true,none⟩ work ⟨enrolled,db⟩ =
        (.ok ⟨201,"first",receiptText '0' 'f' 1⟩,⟨enrolled,db⟩)) ∧
      (FleetCall.respond audit).perform db = (.ok (some ⟨201,"first",receiptText '0' 'f' 1⟩),db) := by
  intro _ _ _ db enrolled
  have hnumber : db.receipts.lastSequence device = 1 := by decide +kernel
  have hanswer : ((FleetCall.respond audit).perform empty).1 =
      .ok (some ⟨201,"first",receiptText '0' 'f' 1⟩) := by decide +kernel
  have hretained : (db.receipts.retained audit.context).isSome := by decide +kernel
  have hvalid : validateServiceResponseCommit audit.input = .ok () := by decide +kernel
  have hadmitted : ServiceRequest.Admitted ⟨audit.context,some true,none⟩ enrolled :=
    ⟨⟨none,0,none,none⟩,by decide +kernel,rfl,rfl,by simp⟩
  have hrepeated := (receipts_numbered_bound_and_repeatable [device] ⟨[],[],[],[],[]⟩ []).2.2.1
    audit _ db (Prod.ext hanswer rfl) [] hretained
  refine ⟨?_,fun work => hrepeated.2.1 _ work enrolled rfl hadmitted,hrepeated.2.2 audit rfl hvalid⟩
  have hnumbers :=
    (receipts_numbered_bound_and_repeatable [device] ⟨[],[],[],[],[]⟩ [.respond audit]).1 device
  change _ = List.range' 1 (db.receipts.lastSequence device) at hnumbers
  rwa [hnumber] at hnumbers

/-- The inventories of the device, with the sequences 1 and 2. -/
def arrival (again : Bool) : @InventoryArrival dates :=
  let _ := dates
  { envelope :=
    ⟨⟨device,if again then 2 else 1,acceptedAt,⟨"asset",digits '0',.linux,.x86_64,none,.healthy,
      ⟨0,0,0⟩,digits '0'⟩,"signature"⟩,by cases again <;> decide,by cases again <;> decide,rfl⟩
    requestSha256 := digits (if again then '1' else '0')
    signature := some true
    envelopeHash := digits (if again then '1' else '0')
    responseBody := fun result => if result.idempotent then "again" else "first"
    nowMs := 0
    now := acceptedAt }

/-- The device sends two inventories, and then each of them again. The last one gets its answer, the older
one is refused although its response is retained. -/
theorem older_inventory_refused_although_retained :
    let _ := dates
    let _ := receipts .inventory
    let first := arrival false
    let second := arrival true
    let s₁ := first.handle 0 ⟨⟨Std.ExtTreeMap.insert ∅ device ⟨none,0,none,none⟩,[],∅⟩,empty⟩
    let s₂ := second.handle 0 s₁.2
    (s₁.1,s₂.1,(second.handle 0 s₂.2).1,(first.handle 0 s₂.2).1) =
      (.ok ⟨201,"first",receiptText '0' 'f' 1⟩,.ok ⟨201,"first",receiptText '1' 'f' 2⟩,
        .ok ⟨201,"first",receiptText '1' 'f' 2⟩,.error (.store .replay)) ∧
      replayServiceResponse first.request.context s₂.2.fleet.receipts =
        .ok (some ⟨201,"first",receiptText '0' 'f' 1⟩) := by
  decide +kernel

end ReceiptSample

end KernAid.Fleet
