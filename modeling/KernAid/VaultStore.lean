import KernAid.BackupFiles
import KernAid.CompactionGuarantees

/-! The repair vault store: an operation is a program that a crash can end before each storage step. -/

set_option autoImplicit false

namespace KernAid.RepairStore

open Encoding CrashLogic Protocol

/-- The authenticated head of a stored journal. It depends on the keys of the hash chain. -/
class JournalChain where
  head : List RepairEvent → JournalAnchor

/-- What `open` attests about the mounted vault and the boot it runs in. -/
structure VaultAttestation where
  vaultId : String
  vaultIdentityFingerprint : String
  physicalParentFingerprint : String
  bootEpochSha256 : Sha256
  validId : validStoreVaultId vaultId = true
  validIdentity : validSha256 vaultIdentityFingerprint = true
  validParent : validSha256 physicalParentFingerprint = true

structure RepairVaultStore extends VaultAttestation where
  state : RecoveredState
  eventCount : Nat
  checkedOut : IdSet
  healthy : Bool

structure World where
  disk : Disk
  store : RepairVaultStore

abbrev Operation (α : Type) := Program StorageStep World RepairVaultStoreError α

/-- Evidence for a reservation; as a handle, the authority to persist into it. -/
structure RepairBackupSummary where
  reservationId : ReservationId
  backupLocator : String
  reservationBindingSha256 : String
  vaultId : String
  vaultIdentityFingerprint : String
  physicalParentFingerprint : String
  reservedCapacityBytes : Nat
  backupSizeBytes : Nat
  expectedBackupSha256 : String
  metadataSha256 : String
deriving DecidableEq, Repr

structure VerifiedBackupMetadata where
  reservationId : ReservationId
  backupLocator : String
  reservationBindingSha256 : String
  backupSha256 : String
  metadataSha256 : String
  backupSizeBytes : Nat
  reservedCapacityBytes : Nat
  vaultId : String
  vaultIdentityFingerprint : String
  physicalParentFingerprint : String
  planId : String
  planSha256 : String
  approvalId : String
  approvalSha256 : String
  resourceId : String
  resourceSha256 : String
  executionIntent : RepairExecutionIntentV1
deriving DecidableEq, Repr

def verifiedMetadataFromRecord (id : ReservationId) (record : ReservationRecord)
    (binding : RepairBinding) : VerifiedBackupMetadata where
  reservationId := id
  backupLocator := KernAid.RepairStore.backupLocator id
  reservationBindingSha256 := record.reservationBindingSha256
  backupSha256 := encodeHex record.draft.expectedBackupSha256.toList
  metadataSha256 := encodeHex record.draft.metadataSha256.toList
  backupSizeBytes := record.draft.backupSizeBytes
  reservedCapacityBytes := record.reservedCapacityBytes
  vaultId := record.vaultId
  vaultIdentityFingerprint := record.vaultIdentityFingerprint
  physicalParentFingerprint := record.physicalParentFingerprint
  planId := binding.planId
  planSha256 := encodeHex binding.planSha256.toList
  approvalId := binding.approvalId
  approvalSha256 := encodeHex binding.approvalSha256.toList
  resourceId := binding.resourceId
  resourceSha256 := encodeHex binding.resourceSha256.toList
  executionIntent := binding.executionIntent

def reservationSummary (id : ReservationId) (record : ReservationRecord) : RepairBackupSummary where
  reservationId := id
  backupLocator := KernAid.RepairStore.backupLocator id
  reservationBindingSha256 := record.reservationBindingSha256
  vaultId := record.vaultId
  vaultIdentityFingerprint := record.vaultIdentityFingerprint
  physicalParentFingerprint := record.physicalParentFingerprint
  reservedCapacityBytes := record.reservedCapacityBytes
  backupSizeBytes := record.draft.backupSizeBytes
  expectedBackupSha256 := encodeHex record.draft.expectedBackupSha256.toList
  metadataSha256 := encodeHex record.draft.metadataSha256.toList

def ReservationId.parse (value : String) : Except RepairVaultStoreError ReservationId :=
  if h : validReservationId value = true then .ok ⟨value,h⟩ else .error .invalidReservationId

/-! Reading and changing the world. -/

def query {α : Type} (f : World → Except RepairVaultStoreError α) : Operation α := fun w =>
  ⟨[],f w,w⟩

def step (a : StorageStep) : Operation Unit :=
  Program.act (fun a w => { w with disk := w.disk.perform a }) a

def updateStore (f : RepairVaultStore → RepairVaultStore) : Operation Unit :=
  Program.update fun w => { w with store := f w.store }

/-- An error of `m` leaves the session unhealthy. -/
def poisoning {α : Type} (m : Operation α) : Operation α := do
  match ← Program.attempt m with
  | .ok a => return a
  | .error e => do
    updateStore fun store => { store with healthy := false }
    Program.fail e

namespace RepairVaultStore

def requireMutable (store : RepairVaultStore) : Except RepairVaultStoreError Unit :=
  require (store.healthy = true ∧ store.state.pending = none) .reconciliationRequired

def requireResolved (store : RepairVaultStore) : Except RepairVaultStoreError Unit :=
  require (store.state.unresolvedTransaction = none ∧ store.state.unresolvedRollback = none)
    .reconciliationRequired

def verifyRecordVaultIdentity (store : RepairVaultStore) (record : ReservationRecord) :
    Except RepairVaultStoreError Unit :=
  require (record.vaultId = store.vaultId ∧
    record.vaultIdentityFingerprint = store.vaultIdentityFingerprint) .reservationConflict

def verifyRecordLiveParent (store : RepairVaultStore) (record : ReservationRecord) :
    Except RepairVaultStoreError Unit := do
  store.verifyRecordVaultIdentity record
  require (record.physicalParentFingerprint = store.physicalParentFingerprint) .reservationConflict

end RepairVaultStore

section Store

variable [Sha256Hasher]

namespace RepairVaultStore

def verifyReleaseTombstone (store : RepairVaultStore) (released : ReleaseTombstone) :
    Except RepairVaultStoreError Unit := do
  store.verifyRecordVaultIdentity released.record
  require (released.releasedAtEvent ≠ 0 ∧ released.releasedAtEvent ≤ store.state.logicalEventClock)
    .corruptJournal
  match released.operation, released.record.phase with
  | .cancel, .cancelPending => return ()
  | .retire, .retirePending binding resolution => do
    require (binding.validateForRecord released.record) .corruptJournal
    require (validateResolutionAgainstIntent resolution binding.executionIntent) .corruptJournal
    require (resolution.outcome ≠ .manualReconciliationRequired) .corruptJournal
  | _, _ => .error .corruptJournal

def verifyRecoveredVaultIdentity (store : RepairVaultStore) : Except RepairVaultStoreError Unit := do
  store.state.reservations.toList.forM fun entry => store.verifyRecordVaultIdentity entry.2
  store.state.released.toList.forM fun entry => store.verifyReleaseTombstone entry.2

def verifiedMetadata (store : RepairVaultStore) (id : ReservationId) :
    Except RepairVaultStoreError VerifiedBackupMetadata := do
  let record ← okOr store.state.reservations[id]? .reservationNotFound
  let binding ← okOr record.phase.durableBinding .reservationNotReady
  return verifiedMetadataFromRecord id record binding

def retiredBinding : ReservationPhase → Option RepairBinding
  | .retirePending binding _ => some binding
  | _ => none

def releasedVerifiedMetadata (store : RepairVaultStore) (id : ReservationId)
    (released : ReleaseTombstone) : Except RepairVaultStoreError VerifiedBackupMetadata := do
  store.verifyReleaseTombstone released
  let binding ← okOr (retiredBinding released.record.phase) .reservationConflict
  return verifiedMetadataFromRecord id released.record binding

def compactionDue (store : RepairVaultStore) (required : Nat) : Bool :=
  decide (journalCompactionTriggerEvents < store.eventCount + required) ||
    decide (maxRetainedReleaseTombstones < store.state.released.size) ||
    store.state.released.toList.any fun entry =>
      decide (entry.2.releasedAtEvent ≤ store.state.logicalEventClock) &&
        decide (releaseTombstoneEventTtl < store.state.logicalEventClock - entry.2.releasedAtEvent)

end RepairVaultStore

/-! Backup files. -/

namespace World

def checkFile (w : World) (id : ReservationId) (capacity : Nat) :
    Except RepairVaultStoreError BackupFile := do
  let file ← okOr w.disk.backups[id]? .corruptStore
  require (file.bytes.length = capacity) .corruptStore
  require (capacity ≤ file.allocated) .insufficientCapacity
  return file

def openBackupFile (w : World) (id : ReservationId) : Except RepairVaultStoreError BackupFile := do
  let record ← okOr w.store.state.reservations[id]? .reservationNotFound
  w.checkFile id record.reservedCapacityBytes

def verifyReservedFile (w : World) (id : ReservationId) (record : ReservationRecord) :
    Except RepairVaultStoreError Unit := do
  let file ← w.openBackupFile id
  verifyFileContents file.bytes record true

def verifyDurableFile (w : World) (id : ReservationId) (record : ReservationRecord) :
    Except RepairVaultStoreError Unit := do
  let file ← w.openBackupFile id
  verifyFileContents file.bytes record false

/-- One entry of `scan_backups`: a file may be missing only while it is created or removed. -/
def scanReservation (w : World) (entry : ReservationId × ReservationRecord) :
    Except RepairVaultStoreError Unit :=
  match w.disk.backups[entry.1]? with
  | some _ => do
    let _ ← w.checkFile entry.1 entry.2.reservedCapacityBytes
    return ()
  | none => require (entry.2.phase = .reservePending ∨ entry.2.phase = .cancelPending) .corruptStore

def scanBackups (w : World) : Except RepairVaultStoreError Unit := do
  require (w.disk.backups.size ≤ maxReservations) .corruptStore
  w.store.state.reservations.toList.forM w.scanReservation
  w.disk.backups.toList.forM fun entry =>
    require (entry.1 ∈ w.store.state.reservations) .corruptStore

def validateLayout (w : World) : Except RepairVaultStoreError Unit := do
  require (transactionsAreConsistent w.store.state) .corruptJournal
  w.scanBackups

def transactionStatusForId (w : World) (id : ReservationId) :
    Except RepairVaultStoreError RepairTransactionStatusPayload := do
  let reservation ← okOr w.store.state.reservations[id]? .reservationNotFound
  w.store.verifyRecordVaultIdentity reservation
  require reservation.phase.isDurable .reservationNotReady
  w.verifyDurableFile id reservation
  let transaction ← okOr w.store.state.transactions[id]? .corruptJournal
  protocolTransactionStatusFromRecord id reservation transaction

def rollbackStatusForSource (w : World) (id : ReservationId) :
    Except RepairVaultStoreError RepairRollbackTransactionStatusPayload := do
  let reservation ← okOr w.store.state.reservations[id]? .reservationNotFound
  w.store.verifyRecordVaultIdentity reservation
  require reservation.phase.isDurable .reservationNotReady
  w.verifyDurableFile id reservation
  let transaction ← okOr w.store.state.transactions[id]? .corruptJournal
  let rollback ← okOr transaction.rollback .reservationNotFound
  protocolRollbackStatusFromRecord id reservation transaction rollback

end World

/-- An event is written to the journal first and applied to the session after it. -/
def appendEvent (event : RepairEvent) : Operation Unit := do
  query fun w => require (w.store.eventCount < maxJournalEvents) .insufficientCapacity
  query fun _ => require (event.encode.length ≤ maxEventBytes) .corruptStore
  step (.append event)
  -- The entry that was just written carries the length of the journal as its sequence number.
  let w ← Program.read
  match applyRepairEvent w.store.state event w.disk.journal.length with
  | .ok state =>
    updateStore fun store => { store with state := state, eventCount := store.eventCount + 1 }
  | .error _ => do
    updateStore fun store => { store with healthy := false }
    Program.fail .corruptJournal

variable [JournalChain]

def compactJournal : Operation Unit := poisoning do
  query fun w => require (w.store.healthy = true ∧ w.store.state.pending = none ∧
    w.store.state.compactionReplay = none) .reconciliationRequired
  query World.validateLayout
  let (events,state) ← query fun w =>
    compactJournalUntil w.store.state (JournalChain.head w.disk.journal)
  step (.compact events)
  updateStore fun store => { store with state := state, eventCount := events.length }
  query World.validateLayout

def requireEventCapacity (required : Nat) : Operation Unit := do
  let w ← Program.read
  if w.store.compactionDue required then compactJournal
  query fun w => require (w.store.eventCount + required ≤ maxJournalEvents) .insufficientCapacity

/-! Steps on one backup file. -/

def allocateAndVerify (id : ReservationId) (capacity : Nat) : Operation Unit := do
  query fun w => require (w.disk.backups[id]? = none) .reservationConflict
  step (.create id)
  step (.allocate id capacity)
  step (.sync id)
  let _ ← query fun w => w.checkFile id capacity
  step .syncDirectory
  let file ← query fun w => w.checkFile id capacity
  query fun _ => verifyZeroFilled file.bytes capacity

def installAndVerify (id : ReservationId) (bytes : List UInt8) (expectedSize : Nat)
    (expectedSha256 : Bytes32) (capacity : Nat) : Operation Unit := do
  let _ ← query fun w => w.openBackupFile id
  step (.write id bytes)
  step (.sync id)
  step .syncDirectory
  let file ← query fun w => okOr w.disk.backups[id]? .corruptStore
  query fun _ => require (file.bytes.length = capacity) .corruptStore
  query fun _ => verifyFileContents file.bytes
    (verificationRecord expectedSha256 expectedSize capacity .reserved) false

def removePendingBackupFile (id : ReservationId) : Operation Unit := do
  let w ← Program.read
  if w.disk.backups[id]?.isSome then do
    step (.unlink id)
    step .syncDirectory
    query fun w => require (w.disk.backups[id]? = none) .concurrentWrite

def resetPendingBackupFile (id : ReservationId) (capacity : Nat) : Operation Unit := do
  let w ← Program.read
  if w.disk.backups[id]?.isNone then step (.create id)
  step (.truncate id)
  step (.allocate id capacity)
  step (.sync id)
  let file ← query fun w => w.checkFile id capacity
  step .syncDirectory
  query fun _ => verifyZeroFilled file.bytes capacity

def exactAllocation (file : BackupFile) (required : Nat) : Bool :=
  decide (file.bytes.length = required) && decide (required ≤ file.allocated)

/-- Whether the file of a pending reservation is what its completion would have left. A failed
verification says no; every other error is one. -/
def pendingFileComplete (observed : Option BackupFile) (capacity : Nat)
    (verify : List UInt8 → Except RepairVaultStoreError Unit) : Except RepairVaultStoreError Bool :=
  match observed with
  | some file =>
    if exactAllocation file capacity then
      match verify file.bytes with
      | .ok () => .ok true
      | .error .writeVerificationFailed => .ok false
      | .error e => .error e
    else .ok false
  | none => .ok false

/-! Operations. -/

def reservedCapability (id : ReservationId) : Operation RepairBackupSummary := do
  let record ← query fun w => okOr w.store.state.reservations[id]? .reservationNotFound
  query fun _ => require (record.phase = .reserved) .reservationNotReady
  query fun w => require (id ∉ w.store.checkedOut) .reservationConflict
  updateStore fun store => { store with checkedOut := store.checkedOut.insert id }
  return reservationSummary id record

def consumeCheckout (id : ReservationId) : Operation Unit := do
  query fun w => require (id ∈ w.store.checkedOut) .reservationConflict
  updateStore fun store => { store with checkedOut := store.checkedOut.erase id }

/-- One iteration over the reservations: a record with the same binding must be the one that an
earlier call of the same draft has reserved. -/
def matchReservedRetry (w : World) (draft : RepairBackupDraft) (digest : String)
    (found : Option ReservationId) (entry : ReservationId × ReservationRecord) :
    Except RepairVaultStoreError (Option ReservationId) :=
  if entry.2.reservationBindingSha256 = digest then do
    require (found = none ∧ entry.2.phase = .reserved ∧ entry.2.draft = draft ∧
      entry.2.reservedCapacityBytes = draft.requiredCapacityBytes ∧
      reservationBinding entry.2.draft = digest) .reservationConflict
    w.store.verifyRecordLiveParent entry.2
    w.verifyReservedFile entry.1 entry.2
    return some entry.1
  else .ok found

def reconcileReservedRetry (draft : RepairBackupDraft) (digest : String) :
    Operation (Option RepairBackupSummary) := do
  let found ← query fun w =>
    w.store.state.reservations.toList.foldlM (matchReservedRetry w draft digest) none
  query fun w => require (w.store.state.released.toList.all fun entry =>
    entry.2.record.reservationBindingSha256 != digest) .reservationConflict
  match found with
  | some id => some <$> reservedCapability id
  | none => return none

/-- The first of sixteen random identifiers that is neither seen nor the name of a file. -/
def generateUnusedReservationId (candidates : List ReservationId) (w : World) :
    Except RepairVaultStoreError ReservationId :=
  okOr ((candidates.take 16).find? fun id =>
    !w.store.state.seenReservationIds.contains id && w.disk.backups[id]?.isNone) .storageUnavailable

def reserveBackup (candidates : List ReservationId) (draft : RepairBackupDraft) :
    Operation RepairBackupSummary := do
  query fun _ => require draft.validate .invalidDraft
  query fun w => w.store.requireMutable
  match ← reconcileReservedRetry draft (reservationBinding draft) with
  | some reserved => return reserved
  | none => do
    query fun w => w.store.requireResolved
    requireEventCapacity 2
    query fun w => require (w.store.state.reservations.size < maxReservations) .insufficientCapacity
    let id ← query (generateUnusedReservationId candidates)
    let w ← Program.read
    appendEvent (.reserveIntent id draft (reservationBinding draft) draft.requiredCapacityBytes
      w.store.vaultId w.store.vaultIdentityFingerprint w.store.physicalParentFingerprint)
    poisoning (allocateAndVerify id draft.requiredCapacityBytes)
    appendEvent (.reserveComplete id)
    reservedCapability id

def resumeReserved (id : ReservationId) (digest : String) : Operation RepairBackupSummary := do
  query fun w => require (w.store.healthy = true ∧ w.store.state.pending = none) .reconciliationRequired
  query fun _ => require (validSha256 digest) .reservationConflict
  let record ← query fun w => okOr w.store.state.reservations[id]? .reservationNotFound
  query fun w => w.store.verifyRecordLiveParent record
  query fun _ => require (record.phase = .reserved ∧ record.reservationBindingSha256 = digest)
    .reservationConflict
  query fun w => w.verifyReservedFile id record
  reservedCapability id

/-- The bytes that the source pipe delivers, or nothing if it is unsafe or late. -/
def readSource (source : Option (List UInt8)) (expectedSize : Nat) (expectedSha256 : Bytes32) :
    Except RepairVaultStoreError (List UInt8) := do
  let bytes ← okOr source .unsafeSource
  require (bytes.length = expectedSize) .unsafeSource
  require (Sha256Hasher.finalize bytes = expectedSha256) .sourceHashMismatch
  return bytes

def checkPersist (reservation : RepairBackupSummary) (binding : RepairBinding) (w : World) :
    Except RepairVaultStoreError ReservationRecord := do
  let record ← okOr w.store.state.reservations[reservation.reservationId]? .reservationNotFound
  require (binding.validateForRecord record) .invalidBinding
  w.store.verifyRecordLiveParent record
  require (binding.resourceSha256 = record.draft.expectedBackupSha256) .invalidBinding
  require (record.phase = .reserved ∧
    reservation.reservationBindingSha256 = record.reservationBindingSha256 ∧
    reservation.reservedCapacityBytes = record.reservedCapacityBytes ∧
    reservation.vaultIdentityFingerprint = w.store.vaultIdentityFingerprint ∧
    reservation.physicalParentFingerprint = w.store.physicalParentFingerprint) .reservationConflict
  return record

def persistBackup (reservation : RepairBackupSummary) (binding : RepairBinding)
    (source : Option (List UInt8)) : Operation VerifiedBackupMetadata := do
  let id := reservation.reservationId
  query fun _ => require binding.validate .invalidBinding
  query fun w => w.store.requireMutable
  consumeCheckout id
  query fun w => w.store.requireResolved
  requireEventCapacity 2
  let record ← query (checkPersist reservation binding)
  let bytes ← query fun _ => readSource source record.draft.backupSizeBytes
    record.draft.expectedBackupSha256
  appendEvent (.persistIntent id binding)
  poisoning (installAndVerify id bytes record.draft.backupSizeBytes record.draft.expectedBackupSha256
    record.reservedCapacityBytes)
  appendEvent (.persistComplete id (encodeHex record.draft.expectedBackupSha256.toList)
    record.draft.backupSizeBytes)
  query fun w => w.store.verifiedMetadata id

def checkCancel (id : ReservationId) (digest : String) (w : World) :
    Except RepairVaultStoreError ReservationRecord := do
  let record ← okOr w.store.state.reservations[id]? .reservationNotFound
  w.store.verifyRecordVaultIdentity record
  require (record.phase = .reserved ∧ digest = record.reservationBindingSha256) .reservationConflict
  w.verifyReservedFile id record
  return record

def cancelReserved (id : ReservationId) (digest : String) : Operation Nat := do
  query fun w => w.store.requireMutable
  query fun _ => require (validSha256 digest) .reservationConflict
  requireEventCapacity 0
  let w ← Program.read
  match w.store.state.released[id]? with
  | some released => do
    query fun w => w.store.verifyReleaseTombstone released
    query fun _ => require (released.operation = .cancel ∧
      released.record.reservationBindingSha256 = digest) .reservationConflict
    return released.record.reservedCapacityBytes
  | none => do
    requireEventCapacity 2
    let record ← query (checkCancel id digest)
    updateStore fun store => { store with checkedOut := store.checkedOut.erase id }
    appendEvent (.cancelIntent id)
    removePendingBackupFile id
    appendEvent (.cancelComplete id none)
    return record.reservedCapacityBytes

def cancelReservation (reservation : RepairBackupSummary) : Operation Unit := do
  consumeCheckout reservation.reservationId
  let _ ← cancelReserved reservation.reservationId reservation.reservationBindingSha256

def checkRetire (expected : VerifiedBackupMetadata) (w : World) :
    Except RepairVaultStoreError ReservationRecord := do
  let record ← okOr w.store.state.reservations[expected.reservationId]? .reservationNotFound
  w.store.verifyRecordVaultIdentity record
  require record.phase.isDurable .reservationConflict
  let metadata ← w.store.verifiedMetadata expected.reservationId
  require (metadata = expected) .reservationConflict
  let transaction ← okOr w.store.state.transactions[expected.reservationId]? .corruptJournal
  require (transactionPhase transaction = .resolved ∧ transaction.rollback.all fun rollback =>
    rollbackTransactionPhase rollback == .resolved) .reconciliationRequired
  w.verifyDurableFile expected.reservationId record
  return record

def retireBackup (expected : VerifiedBackupMetadata) : Operation Nat := do
  let id := expected.reservationId
  query fun w => w.store.requireMutable
  requireEventCapacity 0
  let w ← Program.read
  match w.store.state.released[id]? with
  | some released => do
    query fun w => w.store.verifyReleaseTombstone released
    query fun _ => require (released.operation = .retire) .reservationConflict
    let metadata ← query fun w => w.store.releasedVerifiedMetadata id released
    query fun _ => require (metadata = expected) .reservationConflict
    return released.record.reservedCapacityBytes
  | none => do
    requireEventCapacity 2
    let record ← query (checkRetire expected)
    appendEvent (.retireIntent id)
    removePendingBackupFile id
    appendEvent (.retireComplete id none)
    return record.reservedCapacityBytes

/-- The checks of a rollback before it looks at the rollback children. -/
def checkRollbackSource (source : RepairTransactionStatusPayload) (binding : RepairRollbackBindingV1)
    (w : World) : Except RepairVaultStoreError
      (ReservationId × ReservationRecord × RepairTransactionRecord) := do
  w.store.requireMutable
  require (validateProtocolTransactionStatus source) .invalidBinding
  require (binding.validateAgainst source) .invalidBinding
  let id ← ReservationId.parse source.backup.reservationId.asStr
  let current ← w.transactionStatusForId id
  require (current = source) .reservationConflict
  let record ← okOr w.store.state.reservations[id]? .reservationNotFound
  w.store.verifyRecordVaultIdentity record
  w.verifyDurableFile id record
  let transaction ← okOr w.store.state.transactions[id]? .corruptJournal
  return (id,record,transaction)

/-- A new child is allowed when nothing is unresolved and its identity is not in use. -/
def checkNewRollback (source : RepairTransactionStatusPayload) (rollbackId : RepairRollbackId)
    (binding : RepairRollbackBindingV1) (w : World) :
    Except RepairVaultStoreError RepairRollbackTransactionStatusPayload := do
  w.store.requireResolved
  require (w.store.state.hasRollback rollbackId = false) .reservationConflict
  okOr (RepairRollbackTransactionStatusPayload.pending rollbackId source binding) .invalidBinding

def beginRollbackTransaction (source : RepairTransactionStatusPayload) (rollbackId : RepairRollbackId)
    (binding : RepairRollbackBindingV1) : Operation RepairRollbackTransactionStatusPayload := do
  let (id,record,transaction) ← query (checkRollbackSource source binding)
  match transaction.rollback with
  | some existing => do
    let status ← query fun _ => protocolRollbackStatusFromRecord id record transaction existing
    query fun _ => require (status.rollbackId = rollbackId ∧ status.source = source ∧
      status.binding = binding) .reservationConflict
    return status
  | none => do
    let pending ← query (checkNewRollback source rollbackId binding)
    requireEventCapacity 1
    appendEvent (.rollbackBegin id source.transactionBindingSha256.asStr rollbackId
      pending.rollbackTransactionBindingSha256.asStr binding)
    return pending

def RecoveredState.sourceOfRollback (state : RecoveredState) (rollbackId : RepairRollbackId) :
    Option ReservationId :=
  (state.transactions.toList.find? fun entry =>
    entry.2.rollback.any fun rollback => rollback.rollbackId == rollbackId).map Prod.fst

/-- `matches_result` of an exact selector on a child that was found. -/
def matchesRollbackResult (rollbackId : RepairRollbackId) (digest : Sha256)
    (status : RepairRollbackTransactionStatusPayload) : Bool :=
  status.validate && status.rollbackId == rollbackId && status.rollbackTransactionBindingSha256 == digest

def leaseIsFree (lease : Option ConsumedWriteLease) (store : RepairVaultStore) : Bool :=
  lease.all fun lease => lease.bootEpochSha256 != store.bootEpochSha256.asStr

def checkRollbackLease (rollbackId : RepairRollbackId) (digest : Sha256) (w : World) :
    Except RepairVaultStoreError (ReservationId × RepairRollbackWriteLeasePayload) := do
  let id ← okOr (w.store.state.sourceOfRollback rollbackId) .reservationNotFound
  let status ← w.rollbackStatusForSource id
  require (matchesRollbackResult rollbackId digest status ∧ status.phase = .pending) .reservationConflict
  let record ← okOr w.store.state.reservations[id]? .reservationNotFound
  w.verifyDurableFile id record
  let transaction ← okOr w.store.state.transactions[id]? .corruptJournal
  let rollback ← okOr transaction.rollback .corruptJournal
  require (rollback.pendingResolution = none ∧ rollback.resolution = none) .reservationConflict
  require (leaseIsFree rollback.writeLease w.store) .writeLeaseConsumed
  let lease ← okOr (RepairRollbackWriteLeasePayload.consumed status w.store.bootEpochSha256)
    .invalidBinding
  return (id,lease)

def consumeRollbackWriteLease (selector : RepairRollbackStatusSelector) :
    Operation RepairRollbackWriteLeasePayload := do
  query fun w => w.store.requireMutable
  match selector with
  | .pendingSingleton => Program.fail .invalidBinding
  | .exact rollbackId digest => do
    let (id,lease) ← query (checkRollbackLease rollbackId digest)
    requireEventCapacity 1
    appendEvent (.rollbackWriteLeaseConsume id lease.transaction.rollbackId
      lease.transaction.rollbackTransactionBindingSha256.asStr lease.bootEpochSha256.asStr
      lease.leaseBindingSha256.asStr)
    return lease

def checkLease (reservationId : RepairReservationId) (digest : Sha256) (w : World) :
    Except RepairVaultStoreError (ReservationId × RepairWriteLeasePayload) := do
  let id ← ReservationId.parse reservationId.asStr
  let status ← w.transactionStatusForId id
  require (status.phase = .pending ∧ status.transactionBindingSha256 = digest) .reservationConflict
  let reservation ← okOr w.store.state.reservations[id]? .reservationNotFound
  let binding ← okOr reservation.phase.durableBinding .reservationNotReady
  require (binding.validateForRecord reservation) .invalidBinding
  let resource ← okOr (RepairResourceV1.fromExecution binding.executionIntent.actionId
    binding.resourceId) .invalidBinding
  require (binding.executionIntent.lockIdentity = canonicalRepairLockIdentityForResource
    binding.executionIntent.targetRecoveryFingerprint resource) .invalidBinding
  let transaction ← okOr w.store.state.transactions[id]? .corruptJournal
  require (transaction.pendingResolution = none ∧ transaction.resolution = none) .reservationConflict
  require (leaseIsFree transaction.writeLease w.store) .writeLeaseConsumed
  let lease ← okOr (RepairWriteLeasePayload.consumed status w.store.bootEpochSha256) .invalidBinding
  return (id,lease)

def consumeWriteLease (selector : RepairTransactionStatusSelector) :
    Operation RepairWriteLeasePayload := do
  query fun w => w.store.requireMutable
  match selector with
  | .pendingSingleton => Program.fail .invalidBinding
  | .exact reservationId digest => do
    let (id,lease) ← query (checkLease reservationId digest)
    requireEventCapacity 1
    appendEvent (.transactionWriteLeaseConsume id lease.transaction.transactionBindingSha256.asStr
      lease.bootEpochSha256.asStr lease.leaseBindingSha256.asStr)
    return lease

/-- The child whose resolution is asked for, as it is now. -/
def checkRollbackResolution (expected : RepairRollbackTransactionStatusPayload)
    (resolution : RepairRollbackResolution) (w : World) :
    Except RepairVaultStoreError (ReservationId × RepairRollbackTransactionStatusPayload) := do
  w.store.requireMutable
  require expected.validate .invalidBinding
  require (resolution.validateAgainst expected.source) .invalidBinding
  let id ← ReservationId.parse expected.source.backup.reservationId.asStr
  let current ← w.rollbackStatusForSource id
  return (id,current)

/-- A lost response: the child is recorded with this resolution already. -/
def rollbackAlreadyResolved (current expected : RepairRollbackTransactionStatusPayload)
    (resolution : RepairRollbackResolution) : Bool :=
  current.rollbackId == expected.rollbackId &&
    current.rollbackTransactionBindingSha256 == expected.rollbackTransactionBindingSha256 &&
    current.source == expected.source && current.binding == expected.binding &&
    current.resolution == some resolution && current.phase == resolution.phase

def resolveRollbackTransaction (expected : RepairRollbackTransactionStatusPayload)
    (resolution : RepairRollbackResolution) : Operation RepairRollbackTransactionStatusPayload := do
  let (id,current) ← query (checkRollbackResolution expected resolution)
  if current ≠ expected then do
    query fun _ => require (rollbackAlreadyResolved current expected resolution) .reservationConflict
    return current
  else do
    query fun _ => require (current.phase ≠ .resolved) .reservationConflict
    requireEventCapacity 2
    appendEvent (.rollbackResolveIntent id expected.rollbackId
      expected.rollbackTransactionBindingSha256.asStr expected.phase resolution)
    appendEvent (.rollbackResolveComplete id expected.rollbackId
      expected.rollbackTransactionBindingSha256.asStr)
    query fun w => do
      let id ← ReservationId.parse expected.source.backup.reservationId.asStr
      w.rollbackStatusForSource id

def checkResolution (expected : RepairTransactionStatusPayload) (w : World) :
    Except RepairVaultStoreError (ReservationId × RepairTransactionStatusPayload) := do
  w.store.requireMutable
  require (validateProtocolTransactionStatus expected) .invalidBinding
  let id ← ReservationId.parse expected.backup.reservationId.asStr
  let current ← w.transactionStatusForId id
  return (id,current)

def checkResolvable (id : ReservationId) (resolution : RepairTransactionResolution) (w : World) :
    Except RepairVaultStoreError RepairTransactionRecord := do
  let reservation ← okOr w.store.state.reservations[id]? .reservationNotFound
  let binding ← okOr reservation.phase.durableBinding .reservationNotReady
  require (validateResolutionAgainstIntent resolution binding.executionIntent) .invalidBinding
  okOr w.store.state.transactions[id]? .corruptJournal

def alreadyResolved (current expected : RepairTransactionStatusPayload)
    (resolution : RepairTransactionResolution) : Bool :=
  current.backup == expected.backup &&
    current.transactionBindingSha256 == expected.transactionBindingSha256 &&
    current.resolution == some resolution

def resolveTransaction (expected : RepairTransactionStatusPayload)
    (resolution : RepairTransactionResolution) : Operation RepairTransactionStatusPayload := do
  let (id,current) ← query (checkResolution expected)
  if current ≠ expected then do
    query fun _ => require (alreadyResolved current expected resolution) .reservationConflict
    return current
  else do
    let transaction ← query (checkResolvable id resolution)
    if transaction.resolution = some resolution then return current
    else do
      query fun _ => require (transactionPhase transaction ≠ .resolved) .reservationConflict
      requireEventCapacity 2
      appendEvent (.transactionResolveIntent id current.transactionBindingSha256.asStr current.phase
        resolution)
      appendEvent (.transactionResolveComplete id current.transactionBindingSha256.asStr)
      query fun w => w.transactionStatusForId id

/-! Recovery. -/

/-- The resolution of a rollback child that was recorded as intent only. -/
def pendingRollbackResolution (transaction : RepairTransactionRecord) :
    Option (RepairRollbackId × String) := do
  let rollback ← transaction.rollback
  let pending ← rollback.pendingResolution
  return (rollback.rollbackId,pending.rollbackTransactionBindingSha256)

/-- Finishes or undoes what was started on a reservation, as its file shows. -/
def reconcileReservation (id : ReservationId) (record : ReservationRecord) : Operation Unit :=
  match record.phase with
  | .reservePending => do
    let complete ← query fun w => pendingFileComplete w.disk.backups[id]? record.reservedCapacityBytes
      fun bytes => verifyZeroFilled bytes record.reservedCapacityBytes
    if complete then appendEvent (.reserveComplete id)
    else do
      removePendingBackupFile id
      appendEvent (.reserveAbort id)
  | .persistPending _ => do
    let durable ← query fun w => pendingFileComplete w.disk.backups[id]? record.reservedCapacityBytes
      fun bytes => verifyFileContents bytes record false
    if durable then
      appendEvent (.persistComplete id (encodeHex record.draft.expectedBackupSha256.toList)
        record.draft.backupSizeBytes)
    else do
      resetPendingBackupFile id record.reservedCapacityBytes
      appendEvent (.persistAbort id)
  | .cancelPending => do
    removePendingBackupFile id
    appendEvent (.cancelComplete id none)
  | .retirePending _ _ => do
    removePendingBackupFile id
    appendEvent (.retireComplete id none)
  | .reserved | .durable _ => Program.fail .corruptJournal

def reconcilePending : Operation Unit := do
  let w ← Program.read
  match w.store.state.pending with
  | none => return ()
  | some id => do
    let transaction := w.store.state.transactions[id]?
    match transaction.bind RepairTransactionRecord.pendingResolution with
    | some pending => appendEvent (.transactionResolveComplete id pending.transactionBindingSha256)
    | none =>
      match transaction.bind pendingRollbackResolution with
      | some (rollbackId,digest) => appendEvent (.rollbackResolveComplete id rollbackId digest)
      | none => do
        let record ← query fun w => okOr w.store.state.reservations[id]? .corruptJournal
        reconcileReservation id record

def VaultAttestation.session (attestation : VaultAttestation) (state : RecoveredState)
    (eventCount : Nat) : RepairVaultStore :=
  { attestation with
    state := state
    eventCount := eventCount
    checkedOut := ∅
    healthy := true }

/-- `open` up to the point where the vault is consistent again. -/
def recoverStore (attestation : VaultAttestation) : Operation Unit := do
  let state ← query fun w => openJournalGeneration w.disk.journal
  let w ← Program.read
  updateStore fun _ => attestation.session state w.disk.journal.length
  query fun w => w.store.verifyRecoveredVaultIdentity
  reconcilePending
  query World.validateLayout

def openStore (attestation : VaultAttestation) : Operation Unit := do
  recoverStore attestation
  let w ← Program.read
  if w.store.compactionDue 0 then compactJournal

/-- The public operations on an open session. -/
inductive Request
  | reserveBackup (candidates : List ReservationId) (draft : RepairBackupDraft)
  | resumeReserved (id : ReservationId) (digest : String)
  | persistBackup (reservation : RepairBackupSummary) (binding : RepairBinding)
      (source : Option (List UInt8))
  | cancelReserved (id : ReservationId) (digest : String)
  | cancelReservation (reservation : RepairBackupSummary)
  | retireBackup (expected : VerifiedBackupMetadata)
  | beginRollbackTransaction (source : RepairTransactionStatusPayload) (rollbackId : RepairRollbackId)
      (binding : RepairRollbackBindingV1)
  | consumeWriteLease (selector : RepairTransactionStatusSelector)
  | consumeRollbackWriteLease (selector : RepairRollbackStatusSelector)
  | resolveTransaction (expected : RepairTransactionStatusPayload)
      (resolution : RepairTransactionResolution)
  | resolveRollbackTransaction (expected : RepairRollbackTransactionStatusPayload)
      (resolution : RepairRollbackResolution)

/-- What an operation answers. -/
inductive Answer
  | reserved (summary : RepairBackupSummary)
  | durable (metadata : VerifiedBackupMetadata)
  | released (bytes : Nat)
  | cancelled
  | transaction (status : RepairTransactionStatusPayload)
  | rollback (status : RepairRollbackTransactionStatusPayload)
  | lease (lease : RepairWriteLeasePayload)
  | rollbackLease (lease : RepairRollbackWriteLeasePayload)
deriving DecidableEq, Repr

def runRequest : Request → Operation Answer
  | .reserveBackup candidates draft => .reserved <$> reserveBackup candidates draft
  | .resumeReserved id digest => .reserved <$> resumeReserved id digest
  | .persistBackup reservation binding source => .durable <$> persistBackup reservation binding source
  | .cancelReserved id digest => .released <$> cancelReserved id digest
  | .cancelReservation reservation => (fun _ => .cancelled) <$> cancelReservation reservation
  | .retireBackup expected => .released <$> retireBackup expected
  | .beginRollbackTransaction source rollbackId binding =>
    .rollback <$> beginRollbackTransaction source rollbackId binding
  | .consumeWriteLease selector => .lease <$> consumeWriteLease selector
  | .consumeRollbackWriteLease selector => .rollbackLease <$> consumeRollbackWriteLease selector
  | .resolveTransaction expected resolution => .transaction <$> resolveTransaction expected resolution
  | .resolveRollbackTransaction expected resolution =>
    .rollback <$> resolveRollbackTransaction expected resolution

end Store

end KernAid.RepairStore
