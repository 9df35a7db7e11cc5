import KernAid.RepairRecords

/-! Replay of the repair journal: one function for each event, and the consistency scan. -/

set_option autoImplicit false

namespace KernAid.RepairStore

open Encoding CrashLogic Protocol

variable [Sha256Hasher]

/-- The accumulators of the loop in `transactions_are_consistent`. -/
structure ConsistencyScan where
  unresolved : Option ReservationId
  unresolvedRollback : Option ReservationId
  durableCount : Nat

/-- `unresolved && slot.replace(id).is_some()` ends the loop; else the slot as it is now. -/
def markSlot (unresolved : Bool) (slot : Option ReservationId) (id : ReservationId) :
    Option (Option ReservationId) :=
  if !unresolved then some slot else if slot.isSome then none else some (some id)

def rollbackIsConsistent (id : ReservationId) (record : ReservationRecord)
    (transaction : RepairTransactionRecord) (rollback : RepairRollbackTransactionRecord) : Bool :=
  transactionPhase transaction == .resolved &&
    transaction.resolution.map RepairTransactionResolution.outcome == some .committedAfter &&
    rollback.pendingResolution.isNone &&
    (protocolRollbackStatusFromRecord id record transaction rollback).isOk &&
    rollbackWriteLeaseIsConsistent id record transaction rollback

def durableIsConsistent (id : ReservationId) (record : ReservationRecord)
    (transaction : RepairTransactionRecord) : Bool :=
  transaction.pendingResolution.isNone && writeLeaseIsConsistent id record transaction &&
    (protocolTransactionStatusFromRecord id record transaction).isOk &&
    transaction.rollback.all (rollbackIsConsistent id record transaction)

def scanDurable (id : ReservationId) (record : ReservationRecord) (transaction : RepairTransactionRecord)
    (scan : ConsistencyScan) : Option ConsistencyScan := do
  guard (durableIsConsistent id record transaction)
  let unresolvedRollback ← markSlot (transaction.rollback.any fun rollback =>
    rollbackTransactionPhase rollback != .resolved) scan.unresolvedRollback id
  let unresolved ← markSlot (transactionPhase transaction != .resolved) scan.unresolved id
  return ⟨unresolved,unresolvedRollback,scan.durableCount + 1⟩

/-- One iteration over the reservations; `none` is the early `return false`. -/
def scanReservation (transactions : IdMap RepairTransactionRecord) (scan : ConsistencyScan)
    (entry : ReservationId × ReservationRecord) : Option ConsistencyScan :=
  match entry.2.phase with
  | .durable _ => do
    let transaction ← transactions[entry.1]?
    scanDurable entry.1 entry.2 transaction scan
  | .reserved => if transactions.contains entry.1 then none else some scan
  | .reservePending | .persistPending _ | .cancelPending | .retirePending _ _ => none

def transactionsAreConsistent (state : RecoveredState) : Bool :=
  (state.reservations.toList.foldlM (scanReservation state.transactions) ⟨none,none,0⟩).any fun scan =>
    scan.durableCount == state.transactions.size && scan.unresolved == state.unresolvedTransaction &&
      scan.unresolvedRollback == state.unresolvedRollback &&
      !(state.unresolvedTransaction.isSome && state.unresolvedRollback.isSome)

def RecoveredState.setPhase (state : RecoveredState) (id : ReservationId) (record : ReservationRecord)
    (phase : ReservationPhase) : RecoveredState :=
  { state with reservations := state.reservations.insert id { record with phase := phase } }

def RecoveredState.setTransaction (state : RecoveredState) (id : ReservationId)
    (transaction : RepairTransactionRecord) : RecoveredState :=
  { state with transactions := state.transactions.insert id transaction }

def RecoveredState.setRollback (state : RecoveredState) (id : ReservationId)
    (transaction : RepairTransactionRecord) (rollback : RepairRollbackTransactionRecord) :
    RecoveredState :=
  state.setTransaction id { transaction with rollback := some rollback }

def RecoveredState.isQuiescent (state : RecoveredState) : Bool :=
  state.pending.isNone && state.unresolvedTransaction.isNone && state.unresolvedRollback.isNone

def applyCompactionBegin (state : RecoveredState) (sequence : Nat)
    (generation logicalEventClock activeReservations retainedReleases : Nat) (previousAnchor : String) :
    Except RepairVaultStoreError RecoveredState := do
  let anchor ← okOr (decodeCompactionAnchor previousAnchor) .corruptJournal
  require (sequence = 1 ∧ generation ≠ 0 ∧ activeReservations ≤ maxReservations ∧
    retainedReleases ≤ maxRetainedReleaseTombstones) .corruptJournal
  require (state.reservations.isEmpty ∧ state.released.isEmpty ∧ state.seenReservationIds.isEmpty ∧
    state.pending = none ∧ state.transactions.isEmpty ∧ state.unresolvedTransaction = none ∧
    state.unresolvedRollback = none ∧ state.logicalEventClock = 0 ∧ state.compactionGeneration = 0 ∧
    state.previousCompactionAnchor = none ∧ state.compactionReplay = none) .corruptJournal
  return { state with
    logicalEventClock := logicalEventClock
    compactionGeneration := generation
    previousCompactionAnchor := some anchor
    compactionReplay := some ⟨generation,activeReservations,retainedReleases⟩ }

def ReservationPhase.isSettled : ReservationPhase → Bool
  | .reserved | .durable _ => true
  | _ => false

def applyCompactionComplete (state : RecoveredState) (generation : Nat) :
    Except RepairVaultStoreError RecoveredState := do
  let replay ← okOr state.compactionReplay .corruptJournal
  require (generation = replay.generation ∧ state.pending = none ∧
    state.reservations.size = replay.activeReservations ∧
    state.released.size = replay.retainedReleases ∧
    state.seenReservationIds.size = replay.activeReservations + replay.retainedReleases)
    .corruptJournal
  require (state.reservations.toList.all fun entry => entry.2.phase.isSettled) .corruptJournal
  require (transactionsAreConsistent state) .corruptJournal
  return { state with compactionReplay := none }

def applyReserveIntent (state : RecoveredState) (id : ReservationId) (draft : RepairBackupDraft)
    (reservationBindingSha256 : String) (reservedCapacityBytes : Nat)
    (vaultId vaultIdentityFingerprint physicalParentFingerprint : String) :
    Except RepairVaultStoreError RecoveredState := do
  require draft.validate .invalidDraft
  require (validSha256 reservationBindingSha256 ∧ reservationBindingSha256 = reservationBinding draft ∧
    reservedCapacityBytes = draft.requiredCapacityBytes) .corruptJournal
  require (state.isQuiescent ∧ state.reservations.size < maxReservations) .corruptJournal
  require (id ∉ state.reservations ∧ id ∉ state.released ∧ id ∉ state.seenReservationIds) .corruptJournal
  require (validStoreVaultId vaultId ∧ validSha256 vaultIdentityFingerprint ∧
    validSha256 physicalParentFingerprint) .corruptJournal
  return { state with
    seenReservationIds := state.seenReservationIds.insert id
    pending := some id
    reservations := state.reservations.insert id
      ⟨draft,reservationBindingSha256,reservedCapacityBytes,vaultId,vaultIdentityFingerprint,
        physicalParentFingerprint,.reservePending⟩ }

def applyReserveComplete (state : RecoveredState) (id : ReservationId) :
    Except RepairVaultStoreError RecoveredState := do
  require (state.pending = some id) .corruptJournal
  let record ← okOr state.reservations[id]? .corruptJournal
  require (record.phase = .reservePending) .corruptJournal
  return { state.setPhase id record .reserved with pending := none }

def applyReserveAbort (state : RecoveredState) (id : ReservationId) :
    Except RepairVaultStoreError RecoveredState := do
  require (state.pending = some id) .corruptJournal
  let record ← okOr state.reservations[id]? .corruptJournal
  require (record.phase = .reservePending) .corruptJournal
  return { state with reservations := state.reservations.erase id, pending := none }

def applyPersistIntent (state : RecoveredState) (id : ReservationId) (binding : RepairBinding) :
    Except RepairVaultStoreError RecoveredState := do
  require binding.validate .invalidBinding
  require state.isQuiescent .corruptJournal
  let record ← okOr state.reservations[id]? .corruptJournal
  require (binding.validateForRecord record) .corruptJournal
  require (record.phase = .reserved ∧ binding.resourceSha256 = record.draft.expectedBackupSha256)
    .corruptJournal
  return { state.setPhase id record (.persistPending binding) with pending := some id }

def ReservationPhase.persistBinding : ReservationPhase → Option RepairBinding
  | .persistPending binding => some binding
  | _ => none

def applyPersistComplete (state : RecoveredState) (id : ReservationId) (backupSha256 : String)
    (backupSizeBytes : Nat) : Except RepairVaultStoreError RecoveredState := do
  require (state.pending = some id) .corruptJournal
  let record ← okOr state.reservations[id]? .corruptJournal
  require (backupSha256 = encodeHex record.draft.expectedBackupSha256.toList ∧
    backupSizeBytes = record.draft.backupSizeBytes) .corruptJournal
  let binding ← okOr record.phase.persistBinding .corruptJournal
  require (id ∉ state.transactions ∧ state.unresolvedTransaction = none) .corruptJournal
  return { (state.setPhase id record (.durable binding)).setTransaction id .fresh with
    unresolvedTransaction := some id
    pending := none }

def applyPersistAbort (state : RecoveredState) (id : ReservationId) :
    Except RepairVaultStoreError RecoveredState := do
  require (state.pending = some id) .corruptJournal
  let record ← okOr state.reservations[id]? .corruptJournal
  require record.phase.persistBinding.isSome .corruptJournal
  return { state.setPhase id record .reserved with pending := none }

def ReservationPhase.durableBinding : ReservationPhase → Option RepairBinding
  | .durable binding => some binding
  | _ => none

/-- Replay reports every failure of a conversion as a corrupt journal. -/
def asCorruptJournal {α : Type} (x : Except RepairVaultStoreError α) : Except RepairVaultStoreError α :=
  okOr x.toOption .corruptJournal

def applyTransactionWriteLeaseConsume (state : RecoveredState) (id : ReservationId)
    (transactionBindingSha256 bootEpochSha256 leaseBindingSha256 : String) :
    Except RepairVaultStoreError RecoveredState := do
  require (state.pending = none ∧ state.unresolvedTransaction = some id) .corruptJournal
  require (validSha256 transactionBindingSha256 ∧ validSha256 bootEpochSha256 ∧
    validSha256 leaseBindingSha256) .corruptJournal
  let reservation ← okOr state.reservations[id]? .corruptJournal
  let binding ← okOr reservation.phase.durableBinding .corruptJournal
  require (binding.validateForRecord reservation) .corruptJournal
  let resource ← okOr (RepairResourceV1.fromExecution binding.executionIntent.actionId
    binding.resourceId) .corruptJournal
  require (binding.executionIntent.lockIdentity = canonicalRepairLockIdentityForResource
    binding.executionIntent.targetRecoveryFingerprint resource) .corruptJournal
  let transaction ← okOr state.transactions[id]? .corruptJournal
  require (transaction.resolution = none ∧ transaction.pendingResolution = none ∧
    transaction.writeLease.all fun lease => lease.bootEpochSha256 != bootEpochSha256) .corruptJournal
  let status ← asCorruptJournal (protocolTransactionStatusFromRecord id reservation transaction)
  require (status.phase = .pending ∧ status.transactionBindingSha256.asStr = transactionBindingSha256)
    .corruptJournal
  let lease ← asCorruptJournal (leaseOfStatus status bootEpochSha256)
  require (lease.leaseBindingSha256.asStr = leaseBindingSha256) .corruptJournal
  return state.setTransaction id
    { transaction with writeLease := some ⟨bootEpochSha256,leaseBindingSha256⟩ }

def applyTransactionResolveIntent (state : RecoveredState) (id : ReservationId)
    (transactionBindingSha256 : String) (expectedPhase : RepairTransactionPhase)
    (resolution : RepairTransactionResolution) : Except RepairVaultStoreError RecoveredState := do
  require (state.pending = none ∧ validSha256 transactionBindingSha256 ∧
    state.unresolvedTransaction = some id) .corruptJournal
  let reservation ← okOr state.reservations[id]? .corruptJournal
  let binding ← okOr reservation.phase.durableBinding .corruptJournal
  let transaction ← okOr state.transactions[id]? .corruptJournal
  let status ← asCorruptJournal (protocolTransactionStatusFromRecord id reservation transaction)
  require (transactionBindingSha256 = status.transactionBindingSha256.asStr ∧
    expectedPhase = status.phase ∧ expectedPhase ≠ .resolved ∧
    transaction.resolution ≠ some resolution ∧ transaction.pendingResolution = none) .corruptJournal
  require (validateResolutionAgainstIntent resolution binding.executionIntent) .corruptJournal
  return { state.setTransaction id
      { transaction with pendingResolution := some ⟨transactionBindingSha256,expectedPhase,resolution⟩ }
    with pending := some id }

def applyTransactionResolveComplete (state : RecoveredState) (id : ReservationId)
    (transactionBindingSha256 : String) : Except RepairVaultStoreError RecoveredState := do
  require (state.pending = some id ∧ validSha256 transactionBindingSha256 ∧
    state.unresolvedTransaction = some id) .corruptJournal
  let reservation ← okOr state.reservations[id]? .corruptJournal
  let transaction ← okOr state.transactions[id]? .corruptJournal
  let pending ← okOr transaction.pendingResolution .corruptJournal
  let status ← asCorruptJournal (protocolTransactionStatusFromRecord id reservation transaction)
  require (pending.transactionBindingSha256 = transactionBindingSha256 ∧
    status.transactionBindingSha256.asStr = transactionBindingSha256 ∧
    status.phase = pending.expectedPhase) .corruptJournal
  let resolved := { transaction with pendingResolution := none, resolution := some pending.resolution }
  return { state.setTransaction id resolved with
    unresolvedTransaction :=
      if transactionPhase resolved = .resolved then none else state.unresolvedTransaction
    pending := none }

/-- Whether a live transaction already has a rollback child of this identity. -/
def RecoveredState.hasRollback (state : RecoveredState) (rollbackId : RepairRollbackId) : Bool :=
  state.transactions.toList.any fun entry =>
    entry.2.rollback.any fun rollback => rollback.rollbackId == rollbackId

def ReservationPhase.isDurable (phase : ReservationPhase) : Bool := phase.durableBinding.isSome

def applyRollbackBegin (state : RecoveredState) (id : ReservationId)
    (sourceTransactionBindingSha256 : String) (rollbackId : RepairRollbackId)
    (rollbackTransactionBindingSha256 : String) (binding : RepairRollbackBindingV1) :
    Except RepairVaultStoreError RecoveredState := do
  require (state.isQuiescent ∧ state.hasRollback rollbackId = false ∧
    validSha256 sourceTransactionBindingSha256 ∧ validSha256 rollbackTransactionBindingSha256)
    .corruptJournal
  let reservation ← okOr state.reservations[id]? .corruptJournal
  require reservation.phase.isDurable .corruptJournal
  let transaction ← okOr state.transactions[id]? .corruptJournal
  require (transaction.pendingResolution = none ∧ transaction.rollback = none) .corruptJournal
  let source ← asCorruptJournal (protocolTransactionStatusFromRecord id reservation transaction)
  require (binding.validateAgainst source) .corruptJournal
  let pending ← okOr (RepairRollbackTransactionStatusPayload.pending rollbackId source binding)
    .corruptJournal
  require (source.transactionBindingSha256.asStr = sourceTransactionBindingSha256 ∧
    pending.rollbackTransactionBindingSha256.asStr = rollbackTransactionBindingSha256) .corruptJournal
  return { state.setRollback id transaction ⟨rollbackId,binding,none,none,none⟩ with
    unresolvedRollback := some id }

def applyRollbackWriteLeaseConsume (state : RecoveredState) (id : ReservationId)
    (rollbackId : RepairRollbackId)
    (rollbackTransactionBindingSha256 bootEpochSha256 leaseBindingSha256 : String) :
    Except RepairVaultStoreError RecoveredState := do
  require (state.pending = none ∧ state.unresolvedRollback = some id) .corruptJournal
  require (validSha256 rollbackTransactionBindingSha256 ∧ validSha256 bootEpochSha256 ∧
    validSha256 leaseBindingSha256) .corruptJournal
  let reservation ← okOr state.reservations[id]? .corruptJournal
  let transaction ← okOr state.transactions[id]? .corruptJournal
  let rollback ← okOr transaction.rollback .corruptJournal
  require (rollback.rollbackId = rollbackId ∧ rollback.resolution = none ∧
    rollback.pendingResolution = none ∧
    rollback.writeLease.all fun lease => lease.bootEpochSha256 != bootEpochSha256) .corruptJournal
  let status ← asCorruptJournal (protocolRollbackStatusFromRecord id reservation transaction rollback)
  require (status.phase = .pending ∧
    status.rollbackTransactionBindingSha256.asStr = rollbackTransactionBindingSha256) .corruptJournal
  let lease ← asCorruptJournal (rollbackLeaseOfStatus status bootEpochSha256)
  require (lease.leaseBindingSha256.asStr = leaseBindingSha256) .corruptJournal
  return state.setRollback id transaction
    { rollback with writeLease := some ⟨bootEpochSha256,leaseBindingSha256⟩ }

def applyRollbackResolveIntent (state : RecoveredState) (id : ReservationId)
    (rollbackId : RepairRollbackId) (rollbackTransactionBindingSha256 : String)
    (expectedPhase : RepairTransactionPhase) (resolution : RepairRollbackResolution) :
    Except RepairVaultStoreError RecoveredState := do
  require (state.pending = none ∧ state.unresolvedRollback = some id ∧
    validSha256 rollbackTransactionBindingSha256) .corruptJournal
  let reservation ← okOr state.reservations[id]? .corruptJournal
  let transaction ← okOr state.transactions[id]? .corruptJournal
  let rollback ← okOr transaction.rollback .corruptJournal
  let status ← asCorruptJournal (protocolRollbackStatusFromRecord id reservation transaction rollback)
  require (rollback.rollbackId = rollbackId ∧
    status.rollbackTransactionBindingSha256.asStr = rollbackTransactionBindingSha256 ∧
    status.phase = expectedPhase ∧ expectedPhase ≠ .resolved ∧
    rollback.resolution ≠ some resolution ∧ rollback.pendingResolution = none) .corruptJournal
  require (resolution.validateAgainst status.source) .corruptJournal
  return { state.setRollback id transaction { rollback with
        pendingResolution := some ⟨rollbackTransactionBindingSha256,expectedPhase,resolution⟩ }
    with pending := some id }

def applyRollbackResolveComplete (state : RecoveredState) (id : ReservationId)
    (rollbackId : RepairRollbackId) (rollbackTransactionBindingSha256 : String) :
    Except RepairVaultStoreError RecoveredState := do
  require (state.pending = some id ∧ state.unresolvedRollback = some id ∧
    validSha256 rollbackTransactionBindingSha256) .corruptJournal
  let reservation ← okOr state.reservations[id]? .corruptJournal
  let transaction ← okOr state.transactions[id]? .corruptJournal
  let rollback ← okOr transaction.rollback .corruptJournal
  let pending ← okOr rollback.pendingResolution .corruptJournal
  let status ← asCorruptJournal (protocolRollbackStatusFromRecord id reservation transaction rollback)
  require (rollback.rollbackId = rollbackId ∧
    pending.rollbackTransactionBindingSha256 = rollbackTransactionBindingSha256 ∧
    status.rollbackTransactionBindingSha256.asStr = rollbackTransactionBindingSha256 ∧
    status.phase = pending.expectedPhase) .corruptJournal
  let resolved := { rollback with pendingResolution := none, resolution := some pending.resolution }
  return { state.setRollback id transaction resolved with
    unresolvedRollback :=
      if rollbackTransactionPhase resolved = .resolved then none else state.unresolvedRollback
    pending := none }

/-- A live release is stamped with the clock; a restored one carries its stamp, which must lie
within the retention window. -/
def releaseStamp (state : RecoveredState) (releasedAtEvent : Option Nat) : Option Nat :=
  match state.compactionReplay, releasedAtEvent with
  | none, none => some state.logicalEventClock
  | some _, some stamp =>
    if stamp ≤ state.logicalEventClock ∧ state.logicalEventClock - stamp ≤ releaseTombstoneEventTtl then
      some stamp
    else none
  | _, _ => none

def applyCancelIntent (state : RecoveredState) (id : ReservationId) :
    Except RepairVaultStoreError RecoveredState := do
  require (state.pending = none) .corruptJournal
  let record ← okOr state.reservations[id]? .corruptJournal
  require (record.phase = .reserved) .corruptJournal
  return { state.setPhase id record .cancelPending with pending := some id }

def applyCancelComplete (state : RecoveredState) (id : ReservationId) (releasedAtEvent : Option Nat) :
    Except RepairVaultStoreError RecoveredState := do
  let stamp ← okOr (releaseStamp state releasedAtEvent) .corruptJournal
  require (state.pending = some id ∧ state.released.size < maxReleaseTombstones ∧ id ∉ state.released)
    .corruptJournal
  let record ← okOr state.reservations[id]? .corruptJournal
  require (record.phase = .cancelPending) .corruptJournal
  return { state with
    reservations := state.reservations.erase id
    released := state.released.insert id ⟨.cancel,record,stamp⟩
    pending := none }

/-- A transaction whose outcome, and whose rollback child's outcome, is final. -/
def RecoveredState.isFinal (state : RecoveredState) (id : ReservationId)
    (transaction : RepairTransactionRecord) : Bool :=
  transactionPhase transaction == .resolved && state.unresolvedTransaction != some id &&
    transaction.rollback.all (fun rollback => rollbackTransactionPhase rollback == .resolved) &&
    state.unresolvedRollback != some id

def applyRetireIntent (state : RecoveredState) (id : ReservationId) :
    Except RepairVaultStoreError RecoveredState := do
  require (state.pending = none) .corruptJournal
  let record ← okOr state.reservations[id]? .corruptJournal
  let binding ← okOr record.phase.durableBinding .corruptJournal
  let transaction ← okOr state.transactions[id]? .corruptJournal
  require (state.isFinal id transaction) .corruptJournal
  let resolution ← okOr transaction.resolution .corruptJournal
  return { state.setPhase id record (.retirePending binding resolution) with pending := some id }

def ReservationPhase.isRetirePending : ReservationPhase → Bool
  | .retirePending _ _ => true
  | _ => false

def applyRetireComplete (state : RecoveredState) (id : ReservationId) (releasedAtEvent : Option Nat) :
    Except RepairVaultStoreError RecoveredState := do
  let stamp ← okOr (releaseStamp state releasedAtEvent) .corruptJournal
  require (state.pending = some id ∧ state.released.size < maxReleaseTombstones ∧ id ∉ state.released)
    .corruptJournal
  let record ← okOr state.reservations[id]? .corruptJournal
  require record.phase.isRetirePending .corruptJournal
  let transaction ← okOr state.transactions[id]? .corruptJournal
  require (state.isFinal id transaction) .corruptJournal
  return { state with
    reservations := state.reservations.erase id
    transactions := state.transactions.erase id
    released := state.released.insert id ⟨.retire,record,stamp⟩
    pending := none }

def RepairEvent.isControl : RepairEvent → Bool
  | .compactionBegin .. | .compactionComplete _ => true
  | _ => false

/-- The logical clock counts the events of live operations: neither the control events of a
compaction nor the events that restore its snapshot advance it. -/
def advanceClock (state : RecoveredState) (event : RepairEvent) :
    Except RepairVaultStoreError RecoveredState :=
  if event.isControl || state.compactionReplay.isSome then .ok state
  else if state.logicalEventClock + 1 < u64Bound then
    .ok { state with logicalEventClock := state.logicalEventClock + 1 }
  else .error .corruptJournal

def dispatchRepairEvent (state : RecoveredState) (event : RepairEvent) (sequence : Nat) :
    Except RepairVaultStoreError RecoveredState :=
  match event with
  | .compactionBegin generation clock active retained anchor =>
    applyCompactionBegin state sequence generation clock active retained anchor
  | .compactionComplete generation => applyCompactionComplete state generation
  | .reserveIntent id draft binding capacity vaultId identity parent =>
    applyReserveIntent state id draft binding capacity vaultId identity parent
  | .reserveComplete id => applyReserveComplete state id
  | .reserveAbort id => applyReserveAbort state id
  | .persistIntent id binding => applyPersistIntent state id binding
  | .persistComplete id digest size => applyPersistComplete state id digest size
  | .persistAbort id => applyPersistAbort state id
  | .transactionResolveIntent id binding phase resolution =>
    applyTransactionResolveIntent state id binding phase resolution
  | .transactionResolveComplete id binding => applyTransactionResolveComplete state id binding
  | .transactionWriteLeaseConsume id binding epoch lease =>
    applyTransactionWriteLeaseConsume state id binding epoch lease
  | .rollbackBegin id source rollbackId digest binding =>
    applyRollbackBegin state id source rollbackId digest binding
  | .rollbackWriteLeaseConsume id rollbackId digest epoch lease =>
    applyRollbackWriteLeaseConsume state id rollbackId digest epoch lease
  | .rollbackResolveIntent id rollbackId digest phase resolution =>
    applyRollbackResolveIntent state id rollbackId digest phase resolution
  | .rollbackResolveComplete id rollbackId digest =>
    applyRollbackResolveComplete state id rollbackId digest
  | .cancelIntent id => applyCancelIntent state id
  | .cancelComplete id stamp => applyCancelComplete state id stamp
  | .retireIntent id => applyRetireIntent state id
  | .retireComplete id stamp => applyRetireComplete state id stamp

def applyRepairEvent (state : RecoveredState) (event : RepairEvent) (sequence : Nat) :
    Except RepairVaultStoreError RecoveredState := do
  let state ← advanceClock state event
  dispatchRepairEvent state event sequence

/-- Folds the events of a journal that follow its first `sequence` entries. -/
def replayFrom (state : RecoveredState) (sequence : Nat) : List RepairEvent →
    Except RepairVaultStoreError RecoveredState
  | [] => .ok state
  | event :: rest => do
    let state ← applyRepairEvent state event (sequence + 1)
    replayFrom state (sequence + 1) rest

/-- The state of a journal, folded from the default state. -/
def replay (journal : List RepairEvent) : Except RepairVaultStoreError RecoveredState :=
  replayFrom {} 0 journal

end KernAid.RepairStore
