import KernAid.CrashLogic
import KernAid.Maps
import KernAid.Protocol

/-! The values of the repair vault store, its validators, and the payloads of a record. -/

set_option autoImplicit false

namespace KernAid.RepairStore

open Encoding CrashLogic Protocol

def maxBackupBytes : Nat := 16 * 1024 * 1024
def maxReservations : Nat := 64
def maxJournalEvents : Nat := 4096
def maxEventBytes : Nat := 4096
def journalCompactionTriggerEvents : Nat := 3072
def maxReleaseTombstones : Nat := maxJournalEvents / 2
def maxRetainedReleaseTombstones : Nat := 64
def releaseTombstoneEventTtl : Nat := 512

/-- The bound of the unsigned 64-bit counters, where `checked_add` fails. -/
def u64Bound : Nat := 2 ^ 64

inductive RepairVaultStoreError
  | invalidDraft
  | invalidBinding
  | invalidReservationId
  | reservationNotFound
  | reservationConflict
  | reservationNotReady
  | writeLeaseConsumed
  | reconciliationRequired
  | unsafeSource
  | sourceHashMismatch
  | insufficientCapacity
  | physicalParentUnavailable
  | corruptJournal
  | corruptStore
  | concurrentWrite
  | writeVerificationFailed
  | storageUnavailable
deriving DecidableEq, Repr

def validHex34 (value head : String) : Bool :=
  byteLength value == 34 && (stripPrefix head value).any fun rest => rest.all isLowerHex

def validReservationId (value : String) : Bool := validHex34 value "B-"

def validStoreVaultId (value : String) : Bool := validHex34 value "V-"

def validStorePrefixedId (value head : String) : Bool :=
  (3 ≤ byteLength value && byteLength value ≤ 128) &&
    (stripPrefix head value).any fun rest =>
      !rest.isEmpty && rest.all fun b => isAsciiAlphanumeric b || b == 45

def validStoreOpaqueId (value : String) : Bool :=
  (1 ≤ byteLength value && byteLength value ≤ 128) && (asBytes value).all isOpaqueByte &&
    !containsDotDot (asBytes value)

def validSha256 (value : String) : Bool := validLowerHex value 64

def validRecoveryFingerprint (value : String) : Bool :=
  (stripPrefix "recovery:" value).any fun rest => rest.length == 64 && rest.all isLowerHex

/-- Opaque durable reservation identifier, parsed for syntax only. -/
structure ReservationId where
  asStr : String
  valid : validReservationId asStr = true
deriving DecidableEq, Repr

namespace ReservationId

theorem ext_asStr {a b : ReservationId} (h : a.asStr = b.asStr) : a = b := by
  cases a
  cases b
  simpa using h

instance : Ord ReservationId := ⟨fun a b => compare a.asStr b.asStr⟩

theorem compare_def (a b : ReservationId) : compare a b = compare a.asStr b.asStr := rfl

instance : Std.TransOrd ReservationId where
  eq_swap {a b} := by
    rw [compare_def, compare_def]
    exact Std.OrientedCmp.eq_swap
  isLE_trans {a b c} hab hbc := by
    rw [compare_def] at hab hbc ⊢
    exact Std.TransCmp.isLE_trans hab hbc

instance : Std.LawfulEqOrd ReservationId where
  compare_self {a} := by
    rw [compare_def]
    exact Std.ReflCmp.compare_self
  eq_of_compare {a b} h := by
    rw [compare_def] at h
    exact ext_asStr (Std.LawfulEqCmp.eq_of_compare h)

end ReservationId

/-- `BTreeMap<ReservationId, β>`. -/
abbrev IdMap (β : Type) := Std.ExtTreeMap ReservationId β

/-- `BTreeSet<ReservationId>`. -/
abbrev IdSet := Std.ExtTreeSet ReservationId

def backupLocator (id : ReservationId) : String := "vault://repair/" ++ id.asStr

/-- Canonical, path-free material bound before the final repair plan exists. -/
structure RepairBackupDraft where
  sessionId : String
  targetId : String
  targetFingerprint : Bytes32
  targetRecoveryFingerprint : String
  expectedBackupSha256 : Bytes32
  metadataSha256 : Bytes32
  backupSizeBytes : Nat
  requiredCapacityBytes : Nat
deriving DecidableEq, Repr

/-- Post-approval binding persisted before backup bytes are installed. -/
structure RepairBinding where
  planId : String
  planSha256 : Bytes32
  approvalId : String
  approvalSha256 : Bytes32
  resourceId : String
  resourceSha256 : Bytes32
  executionIntent : RepairExecutionIntentV1
deriving DecidableEq, Repr

inductive ReservationPhase
  | reservePending
  | reserved
  | persistPending (binding : RepairBinding)
  | cancelPending
  | retirePending (binding : RepairBinding) (resolution : RepairTransactionResolution)
  | durable (binding : RepairBinding)
deriving DecidableEq, Repr

structure ReservationRecord where
  draft : RepairBackupDraft
  reservationBindingSha256 : String
  reservedCapacityBytes : Nat
  vaultId : String
  vaultIdentityFingerprint : String
  physicalParentFingerprint : String
  phase : ReservationPhase
deriving DecidableEq, Repr

structure ConsumedWriteLease where
  bootEpochSha256 : String
  leaseBindingSha256 : String
deriving DecidableEq, Repr

structure PendingTransactionResolution where
  transactionBindingSha256 : String
  expectedPhase : RepairTransactionPhase
  resolution : RepairTransactionResolution
deriving DecidableEq, Repr

structure PendingRollbackResolution where
  rollbackTransactionBindingSha256 : String
  expectedPhase : RepairTransactionPhase
  resolution : RepairRollbackResolution
deriving DecidableEq, Repr

structure RepairRollbackTransactionRecord where
  rollbackId : RepairRollbackId
  binding : RepairRollbackBindingV1
  resolution : Option RepairRollbackResolution
  pendingResolution : Option PendingRollbackResolution
  writeLease : Option ConsumedWriteLease
deriving DecidableEq, Repr

structure RepairTransactionRecord where
  resolution : Option RepairTransactionResolution
  pendingResolution : Option PendingTransactionResolution
  writeLease : Option ConsumedWriteLease
  rollback : Option RepairRollbackTransactionRecord
deriving DecidableEq, Repr

inductive ReleaseOperation
  | cancel
  | retire
deriving DecidableEq, Repr

structure ReleaseTombstone where
  operation : ReleaseOperation
  record : ReservationRecord
  releasedAtEvent : Nat
deriving DecidableEq, Repr

structure JournalAnchor where
  journalId : Vector UInt8 16
  sequence : UInt64
  entryHash : Bytes32
deriving DecidableEq, Repr

structure CompactionReplay where
  generation : Nat
  activeReservations : Nat
  retainedReleases : Nat
deriving DecidableEq, Repr

structure RecoveredState where
  reservations : IdMap ReservationRecord := {}
  released : IdMap ReleaseTombstone := {}
  seenReservationIds : IdSet := {}
  pending : Option ReservationId := none
  transactions : IdMap RepairTransactionRecord := {}
  unresolvedTransaction : Option ReservationId := none
  unresolvedRollback : Option ReservationId := none
  logicalEventClock : Nat := 0
  compactionGeneration : Nat := 0
  previousCompactionAnchor : Option JournalAnchor := none
  compactionReplay : Option CompactionReplay := none

inductive RepairEvent
  | compactionBegin (generation logicalEventClock activeReservations retainedReleases : Nat)
      (previousAnchor : String)
  | compactionComplete (generation : Nat)
  | reserveIntent (reservationId : ReservationId) (draft : RepairBackupDraft)
      (reservationBindingSha256 : String) (reservedCapacityBytes : Nat)
      (vaultId vaultIdentityFingerprint physicalParentFingerprint : String)
  | reserveComplete (reservationId : ReservationId)
  | reserveAbort (reservationId : ReservationId)
  | persistIntent (reservationId : ReservationId) (binding : RepairBinding)
  | persistComplete (reservationId : ReservationId) (backupSha256 : String) (backupSizeBytes : Nat)
  | persistAbort (reservationId : ReservationId)
  | transactionResolveIntent (reservationId : ReservationId) (transactionBindingSha256 : String)
      (expectedPhase : RepairTransactionPhase) (resolution : RepairTransactionResolution)
  | transactionResolveComplete (reservationId : ReservationId) (transactionBindingSha256 : String)
  | transactionWriteLeaseConsume (reservationId : ReservationId)
      (transactionBindingSha256 bootEpochSha256 leaseBindingSha256 : String)
  | rollbackBegin (sourceReservationId : ReservationId) (sourceTransactionBindingSha256 : String)
      (rollbackId : RepairRollbackId) (rollbackTransactionBindingSha256 : String)
      (binding : RepairRollbackBindingV1)
  | rollbackWriteLeaseConsume (sourceReservationId : ReservationId) (rollbackId : RepairRollbackId)
      (rollbackTransactionBindingSha256 bootEpochSha256 leaseBindingSha256 : String)
  | rollbackResolveIntent (sourceReservationId : ReservationId) (rollbackId : RepairRollbackId)
      (rollbackTransactionBindingSha256 : String) (expectedPhase : RepairTransactionPhase)
      (resolution : RepairRollbackResolution)
  | rollbackResolveComplete (sourceReservationId : ReservationId) (rollbackId : RepairRollbackId)
      (rollbackTransactionBindingSha256 : String)
  | cancelIntent (reservationId : ReservationId)
  | cancelComplete (reservationId : ReservationId) (releasedAtEvent : Option Nat)
  | retireIntent (reservationId : ReservationId)
  | retireComplete (reservationId : ReservationId) (releasedAtEvent : Option Nat)
deriving DecidableEq, Repr

namespace JournalAnchor

def anchorMagic : List UInt8 := asBytes "KNAUDV2\x00"

def toBytes (a : JournalAnchor) : List UInt8 :=
  anchorMagic ++ a.journalId.toList ++ toBeBytes 8 a.sequence.toNat ++ a.entryHash.toList

def fromBytes (encoded : List UInt8) : Option JournalAnchor :=
  if h : encoded.length = 64 then
    if encoded.take 8 ≠ anchorMagic then none
    else some {
      journalId := ⟨((encoded.drop 8).take 16).toArray,by simp [h]⟩
      sequence := UInt64.ofNat (fromBeBytes ((encoded.drop 24).take 8))
      entryHash := ⟨(encoded.drop 32).toArray,by simp [h]⟩ }
  else none

end JournalAnchor

def decodeCompactionAnchor (value : String) : Option JournalAnchor :=
  if validLowerHex value 128 then JournalAnchor.fromBytes (decodeHex (asBytes value)) else none

section Validation

variable [Sha256Hasher]

def canonicalFstabMetadataSha256 : Bytes32 :=
  (RepairFileMetadataV1.canonicalSha256 ⟨0o644,0,0,.none,.none⟩).bytes

def canonicalPrivateCrypttabMetadataSha256 : Bytes32 :=
  (RepairFileMetadataV1.canonicalSha256 ⟨0o600,0,0,.none,.none⟩).bytes

def validReservedMetadataSha256 (value : Bytes32) : Bool :=
  value == canonicalFstabMetadataSha256 || value == canonicalPrivateCrypttabMetadataSha256

def RepairBackupDraft.validate (d : RepairBackupDraft) : Bool :=
  validStorePrefixedId d.sessionId "S-" && validStoreOpaqueId d.targetId &&
    d.targetFingerprint != zero32 && validRecoveryFingerprint d.targetRecoveryFingerprint &&
    d.expectedBackupSha256 != zero32 && validReservedMetadataSha256 d.metadataSha256 &&
    d.backupSizeBytes != 0 && d.backupSizeBytes ≤ d.requiredCapacityBytes &&
    d.requiredCapacityBytes ≤ maxBackupBytes

def reservationBinding (d : RepairBackupDraft) : String :=
  encodeHex (framedDigest "KERNAID-REPAIR-RESERVATION-V1\x00"
    [asBytes d.sessionId,asBytes d.targetId,d.targetFingerprint.toList,
      asBytes d.targetRecoveryFingerprint,d.expectedBackupSha256.toList,d.metadataSha256.toList,
      toBeBytes 8 d.backupSizeBytes,toBeBytes 8 d.requiredCapacityBytes]).toList

/-- The store knows three of the protocol's four actions; the intent must be the one that the
protocol's constructor builds from its own fields. -/
def validExecutionIntent (i : RepairExecutionIntentV1) : Bool :=
  let resource :=
    if i.actionId = RepairResourceV1.fstab.actionId then some RepairResourceV1.fstab
    else if i.actionId = RepairResourceV1.crypttab.actionId then some RepairResourceV1.crypttab
    else if i.actionId = RepairResourceV1.ext4Filesystem.actionId then
      some RepairResourceV1.ext4Filesystem
    else none
  resource.any fun resource =>
    (RepairExecutionIntentV1.newForResource resource i.sessionId i.approvalSequence i.targetId
      i.scanFingerprint i.targetFingerprint i.targetPhysicalParentFingerprint
      i.targetRecoveryFingerprint i.lockIdentity i.beforeSha256 i.afterSha256 i.diffSha256
      i.observedUuidSetSha256 i.beforeMetadata).any fun canonical => canonical == i

def RepairBinding.validate (b : RepairBinding) : Bool :=
  validStorePrefixedId b.planId "P-" && validStorePrefixedId b.approvalId "A-" &&
    b.planSha256 != zero32 && b.approvalSha256 != zero32 &&
    (RepairResourceV1.fromExecution b.executionIntent.actionId b.resourceId).isSome &&
    b.resourceSha256 != zero32 && validExecutionIntent b.executionIntent &&
    b.resourceSha256 == b.executionIntent.beforeSha256.bytes

def RepairBinding.validateForRecord (b : RepairBinding) (record : ReservationRecord) : Bool :=
  let i := b.executionIntent
  b.validate && i.sessionId == record.draft.sessionId && i.targetId == record.draft.targetId &&
    i.targetFingerprint.bytes == record.draft.targetFingerprint &&
    i.targetRecoveryFingerprint == record.draft.targetRecoveryFingerprint &&
    i.beforeSha256.bytes == record.draft.expectedBackupSha256 &&
    i.beforeMetadata.canonicalSha256.bytes == record.draft.metadataSha256 &&
    i.targetPhysicalParentFingerprint.asStr != record.physicalParentFingerprint

def protocolSha256Str (value : String) : Except RepairVaultStoreError Sha256 :=
  okOr (Sha256.parse value) .corruptStore

def protocolSha256Bytes (bytes : Bytes32) : Except RepairVaultStoreError Sha256 :=
  protocolSha256Str (encodeHex bytes.toList)

def ReservationPhase.storedBinding : ReservationPhase → Option RepairBinding
  | .durable binding | .retirePending binding _ => some binding
  | _ => none

def protocolBackupStatusFromRecord (id : ReservationId) (record : ReservationRecord) :
    Except RepairVaultStoreError RepairBackupStatusPayload := do
  let binding ← okOr record.phase.storedBinding .reservationNotReady
  let reservationId ← okOr (RepairReservationId.parse id.asStr) .corruptStore
  let planSha256 ← protocolSha256Bytes binding.planSha256
  let approvalSha256 ← protocolSha256Bytes binding.approvalSha256
  let resourceSha256 ← protocolSha256Bytes binding.resourceSha256
  let protocolBinding ← okOr (RepairBackupBinding.new binding.planId planSha256 binding.approvalId
    approvalSha256 binding.resourceId resourceSha256 binding.executionIntent) .corruptStore
  let draftBindingSha256 ← protocolSha256Str record.reservationBindingSha256
  let vaultIdentityFingerprint ← protocolSha256Str record.vaultIdentityFingerprint
  let physicalParentFingerprint ← protocolSha256Str record.physicalParentFingerprint
  let expectedBackupSha256 ← protocolSha256Bytes record.draft.expectedBackupSha256
  let metadataSha256 ← protocolSha256Bytes record.draft.metadataSha256
  okOr (RepairBackupStatusPayload.durable reservationId draftBindingSha256 reservationId.locator
    record.vaultId vaultIdentityFingerprint physicalParentFingerprint record.reservedCapacityBytes
    record.draft.backupSizeBytes expectedBackupSha256 metadataSha256 protocolBinding) .corruptStore

def protocolTransactionStatusFromRecord (id : ReservationId) (reservation : ReservationRecord)
    (transaction : RepairTransactionRecord) :
    Except RepairVaultStoreError RepairTransactionStatusPayload := do
  let backup ← protocolBackupStatusFromRecord id reservation
  match transaction.resolution with
  | some resolution => okOr (RepairTransactionStatusPayload.resolved backup resolution) .corruptStore
  | none => okOr (RepairTransactionStatusPayload.pending backup) .corruptStore

def protocolRollbackStatusFromRecord (id : ReservationId) (reservation : ReservationRecord)
    (transaction : RepairTransactionRecord) (rollback : RepairRollbackTransactionRecord) :
    Except RepairVaultStoreError RepairRollbackTransactionStatusPayload := do
  require (transaction.pendingResolution = none) .reconciliationRequired
  let source ← protocolTransactionStatusFromRecord id reservation transaction
  match rollback.resolution with
  | some resolution =>
    okOr (RepairRollbackTransactionStatusPayload.resolved rollback.rollbackId source rollback.binding
      resolution) .corruptStore
  | none =>
    okOr (RepairRollbackTransactionStatusPayload.pending rollback.rollbackId source rollback.binding)
      .corruptStore

def transactionPhase (transaction : RepairTransactionRecord) : RepairTransactionPhase :=
  match transaction.resolution.map RepairTransactionResolution.outcome with
  | none => .pending
  | some .manualReconciliationRequired => .manualReconciliationRequired
  | some .committedAfter | some .closedBeforeUnchanged | some .closedBeforeRestored => .resolved

def rollbackTransactionPhase (rollback : RepairRollbackTransactionRecord) : RepairTransactionPhase :=
  match rollback.resolution.map RepairRollbackResolution.outcome with
  | none => .pending
  | some .manualReconciliationRequired => .manualReconciliationRequired
  | some .rolledBackBefore => .resolved

def validateResolutionAgainstIntent (resolution : RepairTransactionResolution)
    (i : RepairExecutionIntentV1) : Bool :=
  (RepairTransactionResolution.new resolution.outcome resolution.observedResourceSha256
    resolution.observedMetadataSha256 resolution.mountCleanupVerified i).any (· == resolution)

def validateProtocolTransactionStatus (status : RepairTransactionStatusPayload) : Bool :=
  let canonical := match status.resolution with
    | some resolution => RepairTransactionStatusPayload.resolved status.backup resolution
    | none => RepairTransactionStatusPayload.pending status.backup
  canonical.any (· == status)

def RepairTransactionRecord.fresh : RepairTransactionRecord := ⟨none,none,none,none⟩

def leaseOfStatus (status : RepairTransactionStatusPayload) (bootEpochSha256 : String) :
    Except RepairVaultStoreError RepairWriteLeasePayload := do
  let bootEpoch ← protocolSha256Str bootEpochSha256
  okOr (RepairWriteLeasePayload.consumed status bootEpoch) .corruptJournal

def rollbackLeaseOfStatus (status : RepairRollbackTransactionStatusPayload) (bootEpochSha256 : String) :
    Except RepairVaultStoreError RepairRollbackWriteLeasePayload := do
  let bootEpoch ← protocolSha256Str bootEpochSha256
  okOr (RepairRollbackWriteLeasePayload.consumed status bootEpoch) .corruptJournal

def writeLeaseIsConsistent (id : ReservationId) (reservation : ReservationRecord)
    (transaction : RepairTransactionRecord) : Bool :=
  transaction.writeLease.all fun consumed =>
    let lease := do
      let status ← protocolTransactionStatusFromRecord id reservation .fresh
      leaseOfStatus status consumed.bootEpochSha256
    lease.toOption.any fun lease => lease.leaseBindingSha256.asStr == consumed.leaseBindingSha256

def rollbackWriteLeaseIsConsistent (id : ReservationId) (reservation : ReservationRecord)
    (transaction : RepairTransactionRecord) (rollback : RepairRollbackTransactionRecord) : Bool :=
  rollback.writeLease.all fun consumed =>
    let pending : RepairRollbackTransactionRecord :=
      ⟨rollback.rollbackId,rollback.binding,none,none,none⟩
    let lease := do
      let status ← protocolRollbackStatusFromRecord id reservation transaction pending
      rollbackLeaseOfStatus status consumed.bootEpochSha256
    lease.toOption.any fun lease => lease.leaseBindingSha256.asStr == consumed.leaseBindingSha256

end Validation

end KernAid.RepairStore
