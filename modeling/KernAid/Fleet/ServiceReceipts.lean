import KernAid.Fleet.Values

/-! Service receipts of `store.ts` and `server.ts`, kept as the text of their canonical JSON. -/

set_option autoImplicit false

namespace KernAid.Fleet

open CrashLogic

inductive FleetServiceOperation where
  | inventory
  | audit
  | policyPull
  | entitlementPull
  | workOrderClaim
  | workOrderResult
  | incidentCaseClose
deriving DecidableEq, Repr

/-- `ServiceReceiptUnsigned`, without the two constants `schema` and `outcome`. -/
structure ServiceReceiptUnsigned where
  deviceId : String
  operation : FleetServiceOperation
  sequence : Nat
  requestSha256 : String
  responseSha256 : String
  acceptedAt : String
deriving DecidableEq, Repr

structure ServiceReceipt extends ServiceReceiptUnsigned where
  signature : String
deriving DecidableEq, Repr

/-- Hashing, signing and the canonical text of a receipt. -/
class ReceiptCodec where
  sha256Hex : String → String
  sign : ServiceReceiptUnsigned → String
  verify : ServiceReceiptUnsigned → String → Bool
  canonicalJson : ServiceReceipt → String
  parseServiceReceipt : String → Option ServiceReceipt

structure ServiceResponseContext where
  operation : FleetServiceOperation
  deviceId : String
  requestSha256 : String
deriving DecidableEq, Repr

structure ServicePullNonce where
  nonceSha256 : String
  expiresAtMs : Int
  nowMs : Int
deriving DecidableEq, Repr

structure CommitServiceResponseInput extends ServiceResponseContext where
  responseSha256 : String
  status : Nat
  responseBody : String
  createdAt : String
  pullNonce : Option ServicePullNonce
deriving DecidableEq, Repr

structure StoredServiceResponse extends ServiceResponseContext where
  sequence : Nat
  responseSha256 : String
  status : Nat
  responseBody : String
  receiptJson : String
deriving DecidableEq, Repr

structure ServiceReceiptRow extends StoredServiceResponse where
  createdAt : String
deriving DecidableEq, Repr

/-- A row of `policy_pull_nonces` or `entitlement_pull_nonces`. -/
structure PullNonceRow where
  deviceId : String
  nonceSha256 : String
  expiresAtMs : Int
deriving DecidableEq, Repr

structure ReceiptCheckpoint where
  lastSequence : Nat
  updatedAt : String
deriving DecidableEq, Repr

structure ReceiptTables where
  devices : List String
  checkpoints : Table ReceiptCheckpoint
  receipts : List ServiceReceiptRow
  policyPullNonces : List PullNonceRow
  entitlementPullNonces : List PullNonceRow

def maxServiceResponseBytes : Nat := 4 * 1024 * 1024

def maxServiceReceiptBytes : Nat := 8 * 1024

def maxServiceReceiptsPerOperation : Nat := 4

def maxRecentPullNoncesPerDevice : Nat := 1024

section Store

def validateServiceResponseLookup (context : ServiceResponseContext) : Except StoreError Unit :=
  require (isDeviceId context.deviceId ∧ isSha256 context.requestSha256) .invalid

def FleetServiceOperation.isPull : FleetServiceOperation → Bool
  | .policyPull | .entitlementPull => true
  | _ => false

def validateServiceResponseCommit [DateParse] (input : CommitServiceResponseInput) :
    Except StoreError Unit := do
  validateServiceResponseLookup input.toServiceResponseContext
  require (isSha256 input.responseSha256 ∧ (input.status = 200 ∨ input.status = 201) ∧
    input.responseBody.utf8ByteSize ≠ 0 ∧ input.responseBody.utf8ByteSize ≤ maxServiceResponseBytes ∧
    (DateParse.parse input.createdAt).isSome ∧ input.operation.isPull = input.pullNonce.isSome ∧
    (∀ nonce ∈ input.pullNonce, isSha256 nonce.nonceSha256 ∧ isSafeInteger nonce.expiresAtMs ∧
      isSafeInteger nonce.nowMs ∧ nonce.nowMs < nonce.expiresAtMs)) .invalid

def mapServiceResponse (row : ServiceReceiptRow) : Except StoreError StoredServiceResponse := do
  require (isDeviceId row.deviceId ∧ row.sequence ≤ maxSafeInteger ∧ 1 ≤ row.sequence ∧
    isSha256 row.requestSha256 ∧ isSha256 row.responseSha256 ∧ (row.status = 200 ∨ row.status = 201) ∧
    row.responseBody.utf8ByteSize ≠ 0 ∧ row.responseBody.utf8ByteSize ≤ maxServiceResponseBytes ∧
    row.receiptJson.utf8ByteSize ≠ 0 ∧ row.receiptJson.utf8ByteSize ≤ maxServiceReceiptBytes) .invalid
  return row.toStoredServiceResponse

def ReceiptTables.retained (db : ReceiptTables) (context : ServiceResponseContext) :
    Option ServiceReceiptRow :=
  ((db.receipts.filter fun row => row.toServiceResponseContext = context).insertionSort
    fun a b => b.sequence ≤ a.sequence).head?

def getServiceResponse (context : ServiceResponseContext) (db : ReceiptTables) :
    Except StoreError (Option StoredServiceResponse) := do
  validateServiceResponseLookup context
  match db.retained context with
  | none => return none
  | some row => do
    let response ← mapServiceResponse row
    return some response

/-- The nonce joins the table of its operation, from which the expired ones are deleted. -/
def insertPullNonce (deviceId : String) (nonce : ServicePullNonce) (replayError : StoreError)
    (nonces : List PullNonceRow) : Except StoreError (List PullNonceRow) := do
  let live := nonces.filter fun row => nonce.nowMs < row.expiresAtMs
  require (live.countP (fun row => row.deviceId = deviceId) < maxRecentPullNoncesPerDevice) .conflict
  require (∀ row ∈ live, ¬ (row.deviceId = deviceId ∧ row.nonceSha256 = nonce.nonceSha256)) replayError
  return live ++ [⟨deviceId,nonce.nonceSha256,nonce.expiresAtMs⟩]

def recordServicePullNonce (operation : FleetServiceOperation) (deviceId : String)
    (nonce : ServicePullNonce) (db : ReceiptTables) : Except StoreError ReceiptTables := do
  -- The references of both nonce tables to the devices.
  require (deviceId ∈ db.devices) .invalid
  match operation with
  | .policyPull => do
    let policyPullNonces ← insertPullNonce deviceId nonce .nonceReplay db.policyPullNonces
    return { db with policyPullNonces }
  | .entitlementPull => do
    let entitlementPullNonces ←
      insertPullNonce deviceId nonce .entitlementPullReplay db.entitlementPullNonces
    return { db with entitlementPullNonces }
  | _ => .error .invalid

def CommitServiceResponseInput.recordNonce (input : CommitServiceResponseInput) (db : ReceiptTables) :
    Except StoreError ReceiptTables :=
  match input.pullNonce with
  | none => .ok db
  | some nonce => recordServicePullNonce input.operation input.deviceId nonce db

def ReceiptTables.lastSequence (db : ReceiptTables) (deviceId : String) : Nat :=
  (db.checkpoints[deviceId]?.map ReceiptCheckpoint.lastSequence).getD 0

def ReceiptTables.nextSequence (db : ReceiptTables) (deviceId : String) : Except StoreError Nat := do
  require (db.lastSequence deviceId + 1 ≤ maxSafeInteger) .conflict
  return db.lastSequence deviceId + 1

/-- The rows of one device and operation that are not among its newest are deleted. -/
def evictReceipts (deviceId : String) (operation : FleetServiceOperation)
    (rows : List ServiceReceiptRow) : List ServiceReceiptRow :=
  let mine (row : ServiceReceiptRow) : Bool := row.deviceId = deviceId && row.operation = operation
  let newest := (((rows.filter mine).map fun row => row.sequence).insertionSort fun a b => b ≤ a).take
    maxServiceReceiptsPerOperation
  rows.filter fun row => !mine row || row.sequence ∈ newest

def CommitServiceResponseInput.row (input : CommitServiceResponseInput) (sequence : Nat)
    (receiptJson : String) : ServiceReceiptRow where
  operation := input.operation
  deviceId := input.deviceId
  requestSha256 := input.requestSha256
  sequence := sequence
  responseSha256 := input.responseSha256
  status := input.status
  responseBody := input.responseBody
  receiptJson := receiptJson
  createdAt := input.createdAt

def commitServiceResponse [DateParse] (input : CommitServiceResponseInput)
    (signReceipt : Nat → Except StoreError String) : Transaction ReceiptTables StoredServiceResponse :=
  fun db => do
  validateServiceResponseCommit input
  let existing ← getServiceResponse input.toServiceResponseContext db
  match existing with
  | some response => return (response,db)
  | none => do
    let db ← input.recordNonce db
    let sequence ← db.nextSequence input.deviceId
    let receiptJson ← signReceipt sequence
    require (receiptJson.utf8ByteSize ≠ 0 ∧ receiptJson.utf8ByteSize ≤ maxServiceReceiptBytes) .invalid
    -- The reference to the devices and the primary key of `service_receipts`.
    require (input.deviceId ∈ db.devices) .invalid
    require (∀ row ∈ db.receipts, ¬ (row.deviceId = input.deviceId ∧ row.sequence = sequence)) .invalid
    let response ← mapServiceResponse (input.row sequence receiptJson)
    return (response,{ db with
      checkpoints := db.checkpoints.insert input.deviceId ⟨sequence,input.createdAt⟩
      receipts := evictReceipts input.deviceId input.operation
        (db.receipts ++ [input.row sequence receiptJson]) })

end Store

section Server

variable [ReceiptCodec]

open ReceiptCodec

def verifyServiceReceipt (context : ServiceResponseContext) (responseBody receiptJson : String)
    (sequence : Nat) : Except StoreError Unit := do
  let receipt ← okOr (parseServiceReceipt receiptJson) .invalid
  require (canonicalJson receipt = receiptJson) .invalid
  require (receipt.deviceId = context.deviceId ∧ receipt.operation = context.operation ∧
    receipt.sequence = sequence ∧ receipt.requestSha256 = context.requestSha256 ∧
    receipt.responseSha256 = sha256Hex responseBody ∧
    verify receipt.toServiceReceiptUnsigned receipt.signature) .invalid

/-- The signed receipt of a response, checked before it is stored. -/
def signServiceReceipt (context : ServiceResponseContext) (responseBody acceptedAt : String)
    (sequence : Nat) : Except StoreError String := do
  let unsigned : ServiceReceiptUnsigned :=
    ⟨context.deviceId,context.operation,sequence,context.requestSha256,
    sha256Hex responseBody,acceptedAt⟩
  let receiptJson := canonicalJson ⟨unsigned,sign unsigned⟩
  verifyServiceReceipt context responseBody receiptJson sequence
  return receiptJson

structure ServiceAnswer where
  status : Nat
  body : String
  receiptJson : String
deriving DecidableEq, Repr

def writeServiceResponse (context : ServiceResponseContext) (retained : StoredServiceResponse) :
    Except StoreError ServiceAnswer := do
  verifyServiceReceipt context retained.responseBody retained.receiptJson retained.sequence
  require (retained.toServiceResponseContext = context ∧
    retained.responseSha256 = sha256Hex retained.responseBody) .invalid
  return ⟨retained.status,retained.responseBody,retained.receiptJson⟩

/-- `#replayServiceResponse`: the retained response, if there is one. -/
def replayServiceResponse (context : ServiceResponseContext) (db : ReceiptTables) :
    Except StoreError (Option ServiceAnswer) := do
  let retained ← getServiceResponse context db
  match retained with
  | none => return none
  | some retained => do
    let answer ← writeServiceResponse context retained
    return some answer

structure ServiceResponse where
  context : ServiceResponseContext
  status : Nat
  body : String
  acceptedAt : String
  pullNonce : Option ServicePullNonce
deriving DecidableEq, Repr

def ServiceResponse.input (response : ServiceResponse) : CommitServiceResponseInput where
  toServiceResponseContext := response.context
  responseSha256 := sha256Hex response.body
  status := response.status
  responseBody := response.body
  createdAt := response.acceptedAt
  pullNonce := response.pullNonce

/-- The transaction of `#commitServiceResponse`. -/
def ServiceResponse.commit [DateParse] (response : ServiceResponse) :
    Transaction ReceiptTables StoredServiceResponse := fun db => do
  require (response.body.utf8ByteSize ≠ 0 ∧ response.body.utf8ByteSize ≤ maxServiceResponseBytes) .invalid
  commitServiceResponse response.input
    (signServiceReceipt response.context response.body response.acceptedAt) db

/-- `#commitServiceResponse`: the answer is written after the transaction. -/
def ServiceResponse.send [DateParse] (response : ServiceResponse) (db : ReceiptTables) :
    Except StoreError ServiceAnswer × ReceiptTables :=
  match response.commit.call db with
  | (.error e,db) => (.error e,db)
  | (.ok retained,db) => (writeServiceResponse response.context retained,db)

end Server

section Numbers

variable {db db' : ReceiptTables} {input : CommitServiceResponseInput}
  {context : ServiceResponseContext} {row : ServiceReceiptRow} {stored : StoredServiceResponse}

variable {deviceId : String} {sequence : Nat}

theorem retained_eq_some (h : db.retained context = some row) :
    row ∈ db.receipts ∧ row.toServiceResponseContext = context := by
  have hmem := List.mem_of_head? h
  rw [List.mem_insertionSort, List.mem_filter] at hmem
  simpa using hmem

theorem retained_eq_none (h : db.retained context = none) (hrow : row ∈ db.receipts) :
    row.toServiceResponseContext ≠ context := by
  rw [ReceiptTables.retained, List.head?_eq_none_iff] at h
  intro hcontext
  have hmem : row ∈ (db.receipts.filter fun row => row.toServiceResponseContext = context).insertionSort
      fun a b => b.sequence ≤ a.sequence := by
    rw [List.mem_insertionSort, List.mem_filter]
    simpa using ⟨hrow,hcontext⟩
  rw [h] at hmem
  cases hmem

theorem mapServiceResponse_eq_ok (h : mapServiceResponse row = .ok stored) :
    row.toStoredServiceResponse = stored := by
  rw [mapServiceResponse, require_bind_eq_ok, pure_eq_ok_iff] at h
  exact h.2

theorem getServiceResponse_eq_ok {found : Option StoredServiceResponse}
    (h : getServiceResponse context db = .ok found) :
    found = (db.retained context).map ServiceReceiptRow.toStoredServiceResponse := by
  simp only [getServiceResponse] at h
  obtain ⟨_,_,h⟩ := bind_ok_iff.mp h
  split at h
  · next hnone =>
    rw [pure_eq_ok_iff] at h
    rw [← h, hnone, Option.map_none]
  · next row hsome =>
    obtain ⟨response,hmap,h⟩ := bind_ok_iff.mp h
    rw [pure_eq_ok_iff] at h
    rw [← h, hsome, Option.map_some, mapServiceResponse_eq_ok hmap]

theorem recordServicePullNonce_frame {operation : FleetServiceOperation} {nonce : ServicePullNonce}
    (h : recordServicePullNonce operation deviceId nonce db = .ok db') :
    db' = { db with
      policyPullNonces := db'.policyPullNonces, entitlementPullNonces := db'.entitlementPullNonces } := by
  unfold recordServicePullNonce at h
  rw [require_bind_eq_ok] at h
  replace h := h.2
  cases operation with
  | policyPull =>
    obtain ⟨_,_,h⟩ := bind_ok_iff.mp h
    obtain rfl := Except.ok.inj h
    rfl
  | entitlementPull =>
    obtain ⟨_,_,h⟩ := bind_ok_iff.mp h
    obtain rfl := Except.ok.inj h
    rfl
  | _ => cases h

/-- What a commit can do: return the retained response and change nothing, or store a new response under
the next number of the device. -/
inductive CommitOutcome (input : CommitServiceResponseInput)
    (signReceipt : Nat → Except StoreError String)
    (db : ReceiptTables) : StoredServiceResponse → ReceiptTables → Prop
  | retained {row : ServiceReceiptRow} (hrow : db.retained input.toServiceResponseContext = some row) :
      CommitOutcome input signReceipt db row.toStoredServiceResponse db
  | stored {receiptJson : String} {policyPullNonces entitlementPullNonces : List PullNonceRow}
      (hnone : db.retained input.toServiceResponseContext = none)
      (hlimit : db.lastSequence input.deviceId + 1 ≤ maxSafeInteger)
      (hsign : signReceipt (db.lastSequence input.deviceId + 1) = .ok receiptJson)
      (hmap : mapServiceResponse (input.row (db.lastSequence input.deviceId + 1) receiptJson) =
        .ok (input.row (db.lastSequence input.deviceId + 1) receiptJson).toStoredServiceResponse) :
      CommitOutcome input signReceipt db
        (input.row (db.lastSequence input.deviceId + 1) receiptJson).toStoredServiceResponse
        { devices := db.devices
          checkpoints := db.checkpoints.insert input.deviceId
            ⟨db.lastSequence input.deviceId + 1,input.createdAt⟩
          receipts := evictReceipts input.deviceId input.operation
            (db.receipts ++ [input.row (db.lastSequence input.deviceId + 1) receiptJson])
          policyPullNonces, entitlementPullNonces }

theorem commitServiceResponse_spec [DateParse] {signReceipt : Nat → Except StoreError String}
    (h : commitServiceResponse input signReceipt db = .ok (stored,db')) :
    CommitOutcome input signReceipt db stored db' := by
  simp only [commitServiceResponse] at h
  obtain ⟨_,_,h⟩ := bind_ok_iff.mp h
  obtain ⟨existing,hexisting,h⟩ := bind_ok_iff.mp h
  have hfound := getServiceResponse_eq_ok hexisting
  cases hretained : db.retained input.toServiceResponseContext with
  | some row =>
    rw [hretained, Option.map_some] at hfound
    subst hfound
    obtain ⟨rfl,rfl⟩ := Prod.mk.inj (Except.ok.inj h)
    exact .retained hretained
  | none =>
    rw [hretained, Option.map_none] at hfound
    subst hfound
    obtain ⟨mid,hmid,h⟩ := bind_ok_iff.mp h
    have hframe : mid = { db with
        policyPullNonces := mid.policyPullNonces, entitlementPullNonces :=
          mid.entitlementPullNonces } := by
      unfold CommitServiceResponseInput.recordNonce at hmid
      split at hmid
      · obtain rfl := Except.ok.inj hmid
        rfl
      · exact recordServicePullNonce_frame hmid
    have hlast : mid.lastSequence input.deviceId = db.lastSequence input.deviceId := by rw [hframe]; rfl
    obtain ⟨sequence,hsequence,h⟩ := bind_ok_iff.mp h
    rw [ReceiptTables.nextSequence, require_bind_eq_ok, pure_eq_ok_iff, hlast] at hsequence
    obtain ⟨hlimit,rfl⟩ := hsequence
    obtain ⟨receiptJson,hsign,h⟩ := bind_ok_iff.mp h
    simp only [require_bind_eq_ok] at h
    obtain ⟨_,_,_,h⟩ := h
    obtain ⟨response,hmap,h⟩ := bind_ok_iff.mp h
    obtain ⟨rfl,rfl⟩ := Prod.mk.inj (Except.ok.inj h)
    obtain rfl := mapServiceResponse_eq_ok hmap
    rw [hframe]
    exact .stored hretained hlimit hsign hmap

theorem mem_of_mem_evictReceipts {operation : FleetServiceOperation} {rows : List ServiceReceiptRow}
    (h : row ∈ evictReceipts deviceId operation rows) : row ∈ rows :=
  List.mem_of_mem_filter h

theorem evictReceipts_sublist (deviceId : String) (operation : FleetServiceOperation)
    (rows : List ServiceReceiptRow) : (evictReceipts deviceId operation rows).Sublist rows :=
  List.filter_sublist

structure ReceiptTables.Ok [ReceiptCodec] (db : ReceiptTables) : Prop where
  numbered : ∀ row ∈ db.receipts, row.sequence ≤ db.lastSequence row.deviceId
  distinct : db.receipts.Pairwise fun a b => a.toServiceResponseContext ≠ b.toServiceResponseContext
  mapped : ∀ row ∈ db.receipts, mapServiceResponse row = .ok row.toStoredServiceResponse
  written : ∀ row ∈ db.receipts, writeServiceResponse row.toServiceResponseContext
    row.toStoredServiceResponse = .ok ⟨row.status,row.responseBody,row.receiptJson⟩

theorem ReceiptTables.Ok.retained_of_mem [ReceiptCodec] (h : db.Ok) (hrow : row ∈ db.receipts) :
    db.retained row.toServiceResponseContext = some row := by
  cases hretained : db.retained row.toServiceResponseContext with
  | none => exact absurd rfl (retained_eq_none hretained hrow)
  | some other =>
    obtain ⟨hother,hcontext⟩ := retained_eq_some hretained
    have hnodup : (db.receipts.map fun r => r.toServiceResponseContext).Nodup :=
      List.pairwise_map.mpr h.distinct
    rw [List.inj_on_of_nodup_map hnodup hother hrow hcontext]

theorem lastSequence_congr {receipts receipts' : ReceiptTables}
    (h : receipts'.checkpoints = receipts.checkpoints) (deviceId : String) :
    receipts'.lastSequence deviceId = receipts.lastSequence deviceId := by
  rw [ReceiptTables.lastSequence, ReceiptTables.lastSequence, h]

theorem lastSequence_insert {other updatedAt : String} {receipts : List ServiceReceiptRow}
    {policyPullNonces entitlementPullNonces : List PullNonceRow} :
    ReceiptTables.lastSequence
      ⟨db.devices,db.checkpoints.insert deviceId ⟨sequence,updatedAt⟩,receipts,policyPullNonces,
        entitlementPullNonces⟩ other = if other = deviceId then sequence else db.lastSequence other := by
  simp only [ReceiptTables.lastSequence, getElem?_insert_ite]
  split_ifs <;> rfl

variable [ReceiptCodec] {response : ServiceResponse}

open ReceiptCodec

theorem ServiceResponse.commit_spec [DateParse] (h : response.commit db = .ok (stored,db')) :
    CommitOutcome response.input
      (signServiceReceipt response.context response.body response.acceptedAt) db
      stored db' := by
  rw [ServiceResponse.commit, require_bind_eq_ok] at h
  exact commitServiceResponse_spec h.2

theorem writeServiceResponse_row {receiptJson : String}
    (h : signServiceReceipt response.context response.body response.acceptedAt sequence =
      .ok receiptJson) :
    writeServiceResponse response.context
      (response.input.row sequence receiptJson).toStoredServiceResponse =
      .ok ⟨response.status,response.body,receiptJson⟩ := by
  simp only [signServiceReceipt] at h
  obtain ⟨_,hverified,h⟩ := bind_ok_iff.mp h
  rw [pure_eq_ok_iff] at h
  subst h
  rw [writeServiceResponse, bind_ok_iff]
  exact ⟨(),hverified,require_bind_eq_ok.mpr ⟨⟨rfl,rfl⟩,rfl⟩⟩

theorem ReceiptTables.Ok.advanced (h : db.Ok) {updatedAt : String} :
    ReceiptTables.Ok { db with
      checkpoints := db.checkpoints.insert deviceId ⟨db.lastSequence deviceId + 1,updatedAt⟩ } := by
  refine ⟨fun row hrow => ?_,h.distinct,h.mapped,h.written⟩
  rw [lastSequence_insert]
  have hle := h.numbered row hrow
  split_ifs with hdevice
  · rw [hdevice] at hle
    omega
  · exact hle

theorem ReceiptTables.Ok.committed (h : db.Ok)
    (hcommit : CommitOutcome response.input
      (signServiceReceipt response.context response.body response.acceptedAt) db stored db') :
      db'.Ok := by
  cases hcommit with
  | retained hrow => exact h
  | @stored receiptJson policyPullNonces entitlementPullNonces hnone hlimit hsign hmap =>
    constructor
    · intro row hrow
      rw [lastSequence_insert]
      rcases List.mem_append.mp (mem_of_mem_evictReceipts hrow) with hrow | hrow
      · have hle := h.numbered row hrow
        split_ifs with hdevice
        · rw [hdevice] at hle
          omega
        · exact hle
      · obtain rfl := List.mem_singleton.mp hrow
        exact (if_pos rfl).ge
    · refine List.Pairwise.sublist (evictReceipts_sublist _ _ _) ?_
      refine List.pairwise_append.mpr ⟨h.distinct,List.pairwise_singleton _ _,fun row hrow new hnew => ?_⟩
      obtain rfl := List.mem_singleton.mp hnew
      exact retained_eq_none hnone hrow
    · intro row hrow
      rcases List.mem_append.mp (mem_of_mem_evictReceipts hrow) with hrow | hrow
      · exact h.mapped row hrow
      · obtain rfl := List.mem_singleton.mp hrow
        exact hmap
    · intro row hrow
      rcases List.mem_append.mp (mem_of_mem_evictReceipts hrow) with hrow | hrow
      · exact h.written row hrow
      · obtain rfl := List.mem_singleton.mp hrow
        exact writeServiceResponse_row hsign

theorem ReceiptTables.Ok.found (h : db.Ok) (hrow : row ∈ db.receipts) :
    getServiceResponse row.toServiceResponseContext db = .ok (some row.toStoredServiceResponse) := by
  have hlookup : validateServiceResponseLookup row.toServiceResponseContext = .ok () := by
    have hmapped := h.mapped row hrow
    rw [mapServiceResponse, require_bind_eq_ok] at hmapped
    exact require_eq_ok.mpr ⟨hmapped.1.1,hmapped.1.2.2.2.1⟩
  rw [getServiceResponse, hlookup, ok_bind, h.retained_of_mem hrow]
  simp only [h.mapped row hrow, ok_bind]
  rfl

theorem ReceiptTables.Ok.replayed (h : db.Ok) (hrow : row ∈ db.receipts) :
    replayServiceResponse row.toServiceResponseContext db =
      .ok (some ⟨row.status,row.responseBody,row.receiptJson⟩) := by
  rw [replayServiceResponse, h.found hrow, ok_bind]
  simp only [h.written row hrow, ok_bind]
  rfl

theorem ReceiptTables.Ok.repeated [DateParse] (h : db.Ok) (hrow : row ∈ db.receipts)
    (hcontext : response.context = row.toServiceResponseContext)
    (hvalid : validateServiceResponseCommit response.input = .ok ()) :
    response.send db = (.ok ⟨row.status,row.responseBody,row.receiptJson⟩,db) := by
  have hsize : response.body.utf8ByteSize ≠ 0 ∧ response.body.utf8ByteSize ≤ maxServiceResponseBytes := by
    rw [validateServiceResponseCommit] at hvalid
    obtain ⟨_,_,hrest⟩ := bind_ok_iff.mp hvalid
    rw [require_eq_ok] at hrest
    exact ⟨hrest.2.2.1,hrest.2.2.2.1⟩
  have hcommit : response.commit db = .ok (row.toStoredServiceResponse,db) := by
    rw [ServiceResponse.commit, require_bind_eq_ok, commitServiceResponse, hvalid, ok_bind]
    refine ⟨hsize,?_⟩
    rw [show response.input.toServiceResponseContext = row.toServiceResponseContext from hcontext,
      h.found hrow, ok_bind]
    rfl
  rw [ServiceResponse.send, Transaction.call_ok hcommit, hcontext]
  simp only [h.written row hrow]

theorem ReceiptTables.Ok.answered (h : db.Ok)
    (hcommit : CommitOutcome response.input
      (signServiceReceipt response.context response.body response.acceptedAt) db stored db') :
    ∃ row : ServiceReceiptRow, row.toServiceResponseContext = response.context ∧
      stored = row.toStoredServiceResponse ∧ (∀ other ∈ db'.receipts,
        other.toServiceResponseContext = response.context → other = row) ∧
      writeServiceResponse response.context stored =
        .ok ⟨row.status,row.responseBody,row.receiptJson⟩ := by
  cases hcommit with
  | @retained row hretained =>
    obtain ⟨hrow,hcontext⟩ := retained_eq_some hretained
    refine ⟨row,hcontext,rfl,fun other hother hsame => ?_,?_⟩
    · have hfound := h.retained_of_mem hother
      rw [hsame] at hfound
      exact Option.some.inj (hfound.symm.trans hretained)
    · rw [show response.context = row.toServiceResponseContext from hcontext.symm]
      exact h.written row hrow
  | @stored receiptJson policyPullNonces entitlementPullNonces hnone hlimit hsign hmap =>
    refine ⟨response.input.row _ receiptJson,rfl,rfl,fun other hother hsame => ?_,
      writeServiceResponse_row hsign⟩
    rcases List.mem_append.mp (mem_of_mem_evictReceipts hother) with hold | hnew
    · exact absurd hsame (retained_eq_none hnone hold)
    · exact List.mem_singleton.mp hnew

theorem verifyServiceReceipt_eq_ok {body receiptJson : String} {u : Unit}
    (h : verifyServiceReceipt context body receiptJson sequence = .ok u) :
    ∃ receipt, parseServiceReceipt receiptJson = some receipt ∧ receipt.deviceId = context.deviceId ∧
      receipt.operation = context.operation ∧ receipt.sequence = sequence ∧
      receipt.requestSha256 = context.requestSha256 ∧ receipt.responseSha256 = sha256Hex body ∧
      verify receipt.toServiceReceiptUnsigned receipt.signature = true := by
  simp only [verifyServiceReceipt, okOr_bind_eq_ok, require_bind_eq_ok, require_eq_ok] at h
  obtain ⟨receipt,hparse,_,hchecks⟩ := h
  exact ⟨receipt,hparse,hchecks⟩

theorem signServiceReceipt_eq_ok {body acceptedAt receiptJson : String}
    (h : signServiceReceipt context body acceptedAt sequence = .ok receiptJson) :
    ∃ receipt, parseServiceReceipt receiptJson = some receipt ∧ receipt.deviceId = context.deviceId ∧
      receipt.sequence = sequence := by
  simp only [signServiceReceipt] at h
  obtain ⟨_,hverified,h⟩ := bind_ok_iff.mp h
  rw [pure_eq_ok_iff] at h
  subst h
  obtain ⟨receipt,hparse,hdevice,_,hsequence,_⟩ := verifyServiceReceipt_eq_ok hverified
  exact ⟨receipt,hparse,hdevice,hsequence⟩

theorem ServiceResponse.send_cases [DateParse] (response : ServiceResponse) (db : ReceiptTables) :
    (∃ stored db', response.commit db = .ok (stored,db') ∧
        response.send db = (writeServiceResponse response.context stored,db')) ∨
      ∃ e, response.commit db = .error e ∧ response.send db = (.error e,db) := by
  rcases Transaction.call_cases response.commit db with ⟨stored,db',hok,hcall⟩ | ⟨e,herror,hcall⟩
  · exact .inl ⟨stored,db',hok,by rw [ServiceResponse.send, hcall]⟩
  · exact .inr ⟨e,herror,by rw [ServiceResponse.send, hcall]⟩

theorem replayServiceResponse_eq_ok {found : Option ServiceAnswer}
    (h : replayServiceResponse context db = .ok found) :
    found = (db.retained context).map fun row => ⟨row.status,row.responseBody,row.receiptJson⟩ := by
  rw [replayServiceResponse] at h
  obtain ⟨stored,hstored,h⟩ := bind_ok_iff.mp h
  rw [getServiceResponse_eq_ok hstored] at h
  cases hretained : db.retained context with
  | none =>
    rw [hretained, Option.map_none] at h
    exact (Except.ok.inj h).symm
  | some row =>
    rw [hretained, Option.map_some] at h
    obtain ⟨answer,hwrite,h⟩ := bind_ok_iff.mp h
    rw [writeServiceResponse] at hwrite
    obtain ⟨_,_,hwrite⟩ := bind_ok_iff.mp hwrite
    rw [require_bind_eq_ok, pure_eq_ok_iff] at hwrite
    rw [← Except.ok.inj h, ← hwrite.2]
    rfl

/-- A response that is sent while none is retained: it is thrown away or stored, and the answer has its
body. -/
theorem ServiceResponse.send_new [DateParse] (hnone : db.retained response.context = none) :
    (∀ sent, (response.send db).1 = .ok sent → sent.body = response.body) ∧
      ∀ row ∈ (response.send db).2.receipts, row ∈ db.receipts ∨
        row.toServiceResponseContext = response.context ∧
          (response.send db).1 = .ok ⟨row.status,row.responseBody,row.receiptJson⟩ := by
  rcases response.send_cases db with ⟨stored,after,hok,hsend⟩ | ⟨e,_,hsend⟩
  · rw [hsend]
    cases ServiceResponse.commit_spec hok with
    | retained hrow =>
      rw [show response.input.toServiceResponseContext = response.context from rfl, hnone] at hrow
      cases hrow
    | stored _ _ hsign _ =>
      rw [writeServiceResponse_row hsign]
      refine ⟨fun sent hsent => ?_,fun row hrow => ?_⟩
      · rw [← Except.ok.inj hsent]
      · rcases List.mem_append.mp (mem_of_mem_evictReceipts hrow) with hold | hnew
        · exact .inl hold
        · obtain rfl := List.mem_singleton.mp hnew
          exact .inr ⟨rfl,rfl⟩
  · rw [hsend]
    exact ⟨nofun,fun row hrow => .inl hrow⟩

end Numbers

end KernAid.Fleet
