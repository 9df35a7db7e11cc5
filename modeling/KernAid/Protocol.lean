import KernAid.Encoding

/-! The values of the repair vault wire protocol. Every constructor fails with the one violation
`InvalidPayload`, so a fallible constructor is an `Option` and a `validate` is a `Bool`. -/

set_option autoImplicit false

namespace KernAid.Protocol

open Encoding

def maxRepairBackupBytes : Nat := 16 * 1024 * 1024
def maxRepairReservedBytes : Nat := 16 * 1024 * 1024
def maxOpaqueIdBytes : Nat := 128
def maxPermissionMode : UInt32 := 0o7777
def maxSafeJsonInteger : Nat := 9007199254740991

def repairBackupLocatorPrefix : String := "vault://repair/"

def validPrefixedId (value head : String) : Bool :=
  byteLength value ≤ maxOpaqueIdBytes &&
    (stripPrefix head value).any fun rest =>
      !rest.isEmpty && rest.all fun b => isAsciiAlphanumeric b || b == 45

def isOpaqueByte (b : UInt8) : Bool :=
  isAsciiAlphanumeric b || b == 45 || b == 95 || b == 58 || b == 46

def validOpaqueId (value : String) : Bool :=
  byteLength value != 0 && byteLength value ≤ maxOpaqueIdBytes &&
    !containsDotDot (asBytes value) && (asBytes value).all isOpaqueByte

def validDigestId (value head : String) : Bool :=
  (stripPrefix head value).any fun rest => rest.length == 64 && rest.all isLowerHex

/-- The fixed prefix followed by 32 lowercase hexadecimal digits. -/
def validHexId (value head : String) : Bool :=
  (stripPrefix head value).any fun rest => rest.length == 32 && rest.all isLowerHex

def validVaultId (value : String) : Bool := validHexId value "V-"

/-- The complete set of resources the Rescue transaction engine may mutate. -/
inductive RepairResourceV1
  | fstab
  | crypttab
  | ext4Filesystem
  | resolverLink
deriving DecidableEq, Repr

namespace RepairResourceV1

def actionId : RepairResourceV1 → String
  | fstab => "linux.fstab.disable-missing-uuid.v1"
  | crypttab => "linux.crypttab.disable-missing-uuid.v1"
  | ext4Filesystem => "linux.ext4.fsck-preen-with-undo.v1"
  | resolverLink => "linux.network.restore-resolver-link.v1"

def resourceId : RepairResourceV1 → String
  | fstab => "rescue:selected-linux-root:etc/fstab"
  | crypttab => "rescue:selected-linux-root:etc/crypttab"
  | ext4Filesystem => "rescue:selected-linux-filesystem:ext4"
  | resolverLink => "rescue:selected-linux-root:etc/resolver-link"

def writeLeaseCapability : RepairResourceV1 → String
  | fstab => "fstab-direct-leaf-rw-v1"
  | crypttab => "crypttab-direct-leaf-rw-v1"
  | ext4Filesystem => "ext4-block-rw-v1"
  | resolverLink => "resolver-link-direct-leaf-rw-v1"

def rollbackActionId : RepairResourceV1 → String
  | fstab => "linux.fstab.restore"
  | crypttab => "linux.crypttab.disable-missing-source.v1"
  | ext4Filesystem => "linux.ext4.fsck-undo.same-boot.v1"
  | resolverLink => "linux.network.restore-resolver-link-state.v1"

def rollbackWriteLeaseCapability : RepairResourceV1 → String
  | fstab => "fstab-rollback-direct-leaf-rw-v1"
  | crypttab => "crypttab-rollback-direct-leaf-rw-v1"
  | ext4Filesystem => "ext4-block-rollback-rw-v1"
  | resolverLink => "resolver-link-rollback-direct-leaf-rw-v1"

def lockIdDomain : RepairResourceV1 → String
  | fstab => "kernaid:rescue-fstab:target-lock:v2\x00"
  | crypttab => "kernaid:rescue-crypttab:target-lock:v1\x00"
  | ext4Filesystem => "kernaid:rescue-ext4-fsck:target-lock:v1\x00"
  | resolverLink => "kernaid:rescue-resolver-link:target-lock:v1\x00"

def fromResourceId (value : String) : Option RepairResourceV1 :=
  if value = fstab.resourceId then some fstab
  else if value = crypttab.resourceId then some crypttab
  else if value = ext4Filesystem.resourceId then some ext4Filesystem
  else if value = resolverLink.resourceId then some resolverLink
  else none

def fromActionId (value : String) : Option RepairResourceV1 :=
  if value = fstab.actionId then some fstab
  else if value = crypttab.actionId then some crypttab
  else if value = ext4Filesystem.actionId then some ext4Filesystem
  else if value = resolverLink.actionId then some resolverLink
  else none

def fromExecution (action resource : String) : Option RepairResourceV1 := do
  let found ← fromResourceId resource
  if action ≠ found.actionId then none else some found

theorem fromResourceId_resourceId (r : RepairResourceV1) : fromResourceId r.resourceId = some r := by
  cases r <;> decide

theorem fromActionId_actionId (r : RepairResourceV1) : fromActionId r.actionId = some r := by
  cases r <;> decide

theorem fromActionId_eq_some {value : String} {r : RepairResourceV1}
    (h : fromActionId value = some r) : value = r.actionId := by
  unfold fromActionId at h
  split_ifs at h with h1 h2 h3 h4 <;> cases h <;> assumption

theorem fromResourceId_eq_some {value : String} {r : RepairResourceV1}
    (h : fromResourceId value = some r) : value = r.resourceId := by
  unfold fromResourceId at h
  split_ifs at h with h1 h2 h3 h4 <;> cases h <;> assumption

theorem fromExecution_eq_some {action resource : String} {r : RepairResourceV1} :
    fromExecution action resource = some r ↔ action = r.actionId ∧ resource = r.resourceId := by
  constructor
  · intro h
    simp only [fromExecution, Option.bind_eq_bind, Option.bind_eq_some_iff] at h
    obtain ⟨found,hfound,h⟩ := h
    split_ifs at h with hne
    cases h
    exact ⟨not_not.mp hne,fromResourceId_eq_some hfound⟩
  · rintro ⟨rfl,rfl⟩
    simp [fromExecution, fromResourceId_resourceId]

theorem actionId_injective {a b : RepairResourceV1} (h : a.actionId = b.actionId) : a = b := by
  have ha := fromActionId_actionId a
  rw [h, fromActionId_actionId] at ha
  exact (Option.some.inj ha).symm

end RepairResourceV1

inductive RepairMetadataAbsence
  | none
deriving DecidableEq, Repr

/-- Closed, path-free metadata of a regular-file repair resource. -/
structure RepairFileMetadataV1 where
  mode : UInt32
  uid : UInt32
  gid : UInt32
  xattrs : RepairMetadataAbsence
  posixAcl : RepairMetadataAbsence
deriving DecidableEq, Repr

def RepairFileMetadataV1.validate (m : RepairFileMetadataV1) : Bool := m.mode ≤ maxPermissionMode

def RepairResourceV1.supportsMetadata (r : RepairResourceV1) (m : RepairFileMetadataV1) : Bool :=
  match r with
  | .fstab => m.mode == 0o644
  | .crypttab => m.mode == 0o600 || m.mode == 0o644
  | .ext4Filesystem => m.mode == 0o600
  | .resolverLink => m.mode == 0o600

/-- Opaque backup reservation identifier: `B-` plus 32 lowercase hexadecimal digits. -/
structure RepairReservationId where
  asStr : String
  valid : validHexId asStr "B-" = true
deriving DecidableEq, Repr

def RepairReservationId.parse (value : String) : Option RepairReservationId :=
  if h : validHexId value "B-" = true then some ⟨value,h⟩ else none

def RepairReservationId.locator (id : RepairReservationId) : String :=
  repairBackupLocatorPrefix ++ id.asStr

/-- Immutable material from which the Vault mints a durable reservation. -/
structure RepairBackupDraft where
  sessionId : String
  targetId : String
  targetFingerprint : Sha256
  targetRecoveryFingerprint : String
  expectedBackupSha256 : Sha256
  metadataSha256 : Sha256
  backupSize : Nat
  requiredCapacityBytes : Nat
deriving DecidableEq, Repr

/-- Durable, path-free description of the one approved mutation that recovery may reconcile. -/
structure RepairExecutionIntentV1 where
  actionId : String
  sessionId : String
  approvalSequence : Nat
  targetId : String
  scanFingerprint : String
  targetFingerprint : Sha256
  targetPhysicalParentFingerprint : Sha256
  targetRecoveryFingerprint : String
  lockIdentity : String
  beforeSha256 : Sha256
  afterSha256 : Sha256
  diffSha256 : Sha256
  observedUuidSetSha256 : Sha256
  beforeMetadata : RepairFileMetadataV1
deriving DecidableEq, Repr

def RepairExecutionIntentV1.validate (i : RepairExecutionIntentV1) : Bool :=
  match RepairResourceV1.fromActionId i.actionId with
  | none => false
  | some resource =>
    validPrefixedId i.sessionId "S-" &&
      (1 ≤ i.approvalSequence && i.approvalSequence ≤ maxSafeJsonInteger) &&
      validOpaqueId i.targetId && validDigestId i.scanFingerprint "scan:" &&
      validDigestId i.targetRecoveryFingerprint "recovery:" && validDigestId i.lockIdentity "lock:" &&
      i.beforeSha256 != i.afterSha256 && i.beforeMetadata.validate &&
      resource.supportsMetadata i.beforeMetadata

def RepairExecutionIntentV1.newForResource (resource : RepairResourceV1) (sessionId : String)
    (approvalSequence : Nat) (targetId scanFingerprint : String)
    (targetFingerprint targetPhysicalParentFingerprint : Sha256)
    (targetRecoveryFingerprint lockIdentity : String)
    (beforeSha256 afterSha256 diffSha256 observedUuidSetSha256 : Sha256)
    (beforeMetadata : RepairFileMetadataV1) : Option RepairExecutionIntentV1 :=
  let value : RepairExecutionIntentV1 :=
    ⟨resource.actionId,sessionId,approvalSequence,targetId,scanFingerprint,targetFingerprint,
      targetPhysicalParentFingerprint,targetRecoveryFingerprint,lockIdentity,beforeSha256,afterSha256,
      diffSha256,observedUuidSetSha256,beforeMetadata⟩
  if value.validate then some value else none

/-- Final authorization binding supplied only when backup bytes are persisted. -/
structure RepairBackupBinding where
  planId : String
  planSha256 : Sha256
  approvalId : String
  approvalSha256 : Sha256
  resourceId : String
  resourceSha256 : Sha256
  executionIntent : RepairExecutionIntentV1
deriving DecidableEq, Repr

def validResourceId (value : String) : Bool := (RepairResourceV1.fromResourceId value).isSome

/-- The check that `RepairBackupBinding::new` makes before it returns the value. -/
def RepairBackupBinding.validate (b : RepairBackupBinding) : Bool :=
  validPrefixedId b.planId "P-" && validPrefixedId b.approvalId "A-" && validResourceId b.resourceId &&
    b.executionIntent.validate &&
    (RepairResourceV1.fromExecution b.executionIntent.actionId b.resourceId).isSome &&
    b.resourceSha256 == b.executionIntent.beforeSha256

def RepairBackupBinding.new (planId : String) (planSha256 : Sha256) (approvalId : String)
    (approvalSha256 : Sha256) (resourceId : String) (resourceSha256 : Sha256)
    (executionIntent : RepairExecutionIntentV1) : Option RepairBackupBinding :=
  let value : RepairBackupBinding :=
    ⟨planId,planSha256,approvalId,approvalSha256,resourceId,resourceSha256,executionIntent⟩
  if value.validate then some value else none

inductive RepairBackupState
  | reserved
  | durable
deriving DecidableEq, Repr

/-- Status returned by reserve, persist, status and get. The fields of the binding are present
exactly in the durable state. -/
structure RepairBackupStatusPayload where
  state : RepairBackupState
  reservationId : RepairReservationId
  draftBindingSha256 : Sha256
  locator : String
  vaultId : String
  vaultIdentityFingerprint : Sha256
  physicalParentFingerprint : Sha256
  reservedBytes : Nat
  backupSize : Nat
  expectedBackupSha256 : Sha256
  metadataSha256 : Sha256
  planId : Option String
  planSha256 : Option Sha256
  approvalId : Option String
  approvalSha256 : Option Sha256
  resourceId : Option String
  resourceSha256 : Option Sha256
  executionIntent : Option RepairExecutionIntentV1
deriving DecidableEq, Repr

inductive RepairTransactionPhase
  | pending
  | resolved
  | manualReconciliationRequired
deriving DecidableEq, Repr

inductive RepairTransactionTargetState
  | before
  | after
  | third
deriving DecidableEq, Repr

inductive RepairTransactionResolutionOutcome
  | committedAfter
  | closedBeforeUnchanged
  | closedBeforeRestored
  | manualReconciliationRequired
deriving DecidableEq, Repr

/-- Exact observation used to resolve, or deliberately keep blocking, a transaction. -/
structure RepairTransactionResolution where
  outcome : RepairTransactionResolutionOutcome
  targetState : RepairTransactionTargetState
  observedResourceSha256 : Sha256
  observedMetadataSha256 : Sha256
  mountCleanupVerified : Bool
deriving DecidableEq, Repr

def RepairTransactionResolution.phase (r : RepairTransactionResolution) : RepairTransactionPhase :=
  match r.outcome with
  | .manualReconciliationRequired => .manualReconciliationRequired
  | .committedAfter | .closedBeforeUnchanged | .closedBeforeRestored => .resolved

def classifyTargetState (observed : Sha256) (i : RepairExecutionIntentV1) :
    RepairTransactionTargetState :=
  if observed = i.beforeSha256 then .before
  else if observed = i.afterSha256 then .after
  else .third

structure RepairRollbackId where
  asStr : String
  valid : validHexId asStr "RB-" = true
deriving DecidableEq, Repr

/-- Fresh plan and approval material for a child rollback transaction. -/
structure RepairRollbackBindingV1 where
  actionId : String
  planId : String
  planSha256 : Sha256
  approvalId : String
  approvalSha256 : Sha256
  approvalSequence : Nat
deriving DecidableEq, Repr

inductive RepairRollbackResolutionOutcome
  | rolledBackBefore
  | manualReconciliationRequired
deriving DecidableEq, Repr

structure RepairRollbackResolution where
  outcome : RepairRollbackResolutionOutcome
  targetState : RepairTransactionTargetState
  observedResourceSha256 : Sha256
  observedMetadataSha256 : Sha256
  mountCleanupVerified : Bool
deriving DecidableEq, Repr

def RepairRollbackResolution.phase (r : RepairRollbackResolution) : RepairTransactionPhase :=
  match r.outcome with
  | .rolledBackBefore => .resolved
  | .manualReconciliationRequired => .manualReconciliationRequired

/-- Authenticated transaction record reconstructed from the durable backup record. -/
structure RepairTransactionStatusPayload where
  phase : RepairTransactionPhase
  transactionBindingSha256 : Sha256
  backup : RepairBackupStatusPayload
  resolution : Option RepairTransactionResolution
deriving DecidableEq, Repr

structure RepairRollbackTransactionStatusPayload where
  phase : RepairTransactionPhase
  rollbackId : RepairRollbackId
  rollbackTransactionBindingSha256 : Sha256
  source : RepairTransactionStatusPayload
  binding : RepairRollbackBindingV1
  resolution : Option RepairRollbackResolution
deriving DecidableEq, Repr

/-- Receipt for one write lease that the Vault has already consumed. -/
structure RepairWriteLeasePayload where
  capability : String
  bootEpochSha256 : Sha256
  leaseBindingSha256 : Sha256
  transaction : RepairTransactionStatusPayload
deriving DecidableEq, Repr

structure RepairRollbackWriteLeasePayload where
  capability : String
  bootEpochSha256 : Sha256
  leaseBindingSha256 : Sha256
  transaction : RepairRollbackTransactionStatusPayload
deriving DecidableEq, Repr

/-- Closed transaction lookup; the singleton is the reboot bootstrap. -/
inductive RepairTransactionStatusSelector
  | pendingSingleton
  | exact (reservationId : RepairReservationId) (transactionBindingSha256 : Sha256)
deriving DecidableEq, Repr

inductive RepairRollbackStatusSelector
  | pendingSingleton
  | exact (rollbackId : RepairRollbackId) (rollbackTransactionBindingSha256 : Sha256)
deriving DecidableEq, Repr

section Bindings

variable [Sha256Hasher]

def RepairFileMetadataV1.canonicalSha256 (m : RepairFileMetadataV1) : Sha256 :=
  .ofBytes <| framedDigest "KERNAID-REPAIR-FILE-METADATA-V1\x00"
    [toBeBytes 4 m.mode.toNat,toBeBytes 4 m.uid.toNat,toBeBytes 4 m.gid.toNat,[0],[0]]

def RepairExecutionIntentV1.canonicalBindingSha256 (i : RepairExecutionIntentV1) : Sha256 :=
  .ofBytes <| framedDigest "KERNAID-REPAIR-EXECUTION-INTENT-V1\x00"
    [asBytes i.actionId,asBytes i.sessionId,toBeBytes 8 i.approvalSequence,asBytes i.targetId,
      asBytes i.scanFingerprint,i.targetFingerprint.bytes.toList,
      i.targetPhysicalParentFingerprint.bytes.toList,asBytes i.targetRecoveryFingerprint,
      asBytes i.lockIdentity,i.beforeSha256.bytes.toList,i.afterSha256.bytes.toList,
      i.diffSha256.bytes.toList,i.observedUuidSetSha256.bytes.toList,
      i.beforeMetadata.canonicalSha256.bytes.toList]

def canonicalRepairLockIdentityForResource (targetRecoveryFingerprint : String)
    (resource : RepairResourceV1) : String :=
  "lock:" ++ encodeHex (framedDigest resource.lockIdDomain
    [asBytes targetRecoveryFingerprint,asBytes resource.resourceId]).toList

namespace RepairBackupStatusPayload

def bindingFieldsAreNone (b : RepairBackupStatusPayload) : Bool :=
  b.planId.isNone && b.planSha256.isNone && b.approvalId.isNone && b.approvalSha256.isNone &&
    b.resourceId.isNone && b.resourceSha256.isNone && b.executionIntent.isNone

def bindingFieldsAreValid (b : RepairBackupStatusPayload) : Bool :=
  b.planId.any (fun value => validPrefixedId value "P-") && b.planSha256.isSome &&
    b.approvalId.any (fun value => validPrefixedId value "A-") && b.approvalSha256.isSome &&
    b.resourceId.any validResourceId &&
    b.resourceSha256.any fun resourceSha256 =>
      b.executionIntent.any fun i =>
        i.validate && resourceSha256 == i.beforeSha256 && b.expectedBackupSha256 == i.beforeSha256 &&
          b.metadataSha256 == i.beforeMetadata.canonicalSha256 &&
          b.physicalParentFingerprint != i.targetPhysicalParentFingerprint

def validate (b : RepairBackupStatusPayload) : Bool :=
  let validBinding := match b.state with
    | .reserved => b.bindingFieldsAreNone
    | .durable => b.bindingFieldsAreValid
  b.locator == b.reservationId.locator && validVaultId b.vaultId &&
    (1 ≤ b.backupSize && b.backupSize ≤ maxRepairBackupBytes) &&
    (b.backupSize ≤ b.reservedBytes && b.reservedBytes ≤ maxRepairReservedBytes) && validBinding

/-- `RepairBackupStatusPayload::new` at the state `Durable`. -/
def durable (reservationId : RepairReservationId) (draftBindingSha256 : Sha256) (locator vaultId : String)
    (vaultIdentityFingerprint physicalParentFingerprint : Sha256) (reservedBytes backupSize : Nat)
    (expectedBackupSha256 metadataSha256 : Sha256) (binding : RepairBackupBinding) :
    Option RepairBackupStatusPayload :=
  if locator ≠ reservationId.locator ∨ validVaultId vaultId = false ∨
      ¬ (1 ≤ backupSize ∧ backupSize ≤ maxRepairBackupBytes) ∨
      ¬ (backupSize ≤ reservedBytes ∧ reservedBytes ≤ maxRepairReservedBytes) then none
  else some {
    state := .durable, reservationId, draftBindingSha256, locator, vaultId, vaultIdentityFingerprint,
    physicalParentFingerprint, reservedBytes, backupSize, expectedBackupSha256, metadataSha256,
    planId := some binding.planId, planSha256 := some binding.planSha256,
    approvalId := some binding.approvalId, approvalSha256 := some binding.approvalSha256,
    resourceId := some binding.resourceId, resourceSha256 := some binding.resourceSha256,
    executionIntent := some binding.executionIntent }

end RepairBackupStatusPayload

/-- The immutable transaction identity, from the complete durable backup record. -/
def canonicalRepairTransactionBindingSha256 (backup : RepairBackupStatusPayload) : Option Sha256 := do
  if !backup.validate then none
  if backup.state ≠ .durable then none
  let planId ← backup.planId
  let planSha256 ← backup.planSha256
  let approvalId ← backup.approvalId
  let approvalSha256 ← backup.approvalSha256
  let resourceId ← backup.resourceId
  let resourceSha256 ← backup.resourceSha256
  let executionIntent ← backup.executionIntent
  some <| .ofBytes <| framedDigest "KERNAID-REPAIR-TRANSACTION-V1\x00"
    [asBytes backup.reservationId.asStr,backup.draftBindingSha256.bytes.toList,asBytes backup.locator,
      asBytes backup.vaultId,backup.vaultIdentityFingerprint.bytes.toList,
      backup.physicalParentFingerprint.bytes.toList,toBeBytes 8 backup.reservedBytes,
      toBeBytes 8 backup.backupSize,backup.expectedBackupSha256.bytes.toList,
      backup.metadataSha256.bytes.toList,asBytes planId,planSha256.bytes.toList,asBytes approvalId,
      approvalSha256.bytes.toList,asBytes resourceId,resourceSha256.bytes.toList,
      executionIntent.canonicalBindingSha256.bytes.toList]

def RepairTransactionResolution.validateAgainst (r : RepairTransactionResolution)
    (i : RepairExecutionIntentV1) : Bool :=
  let metadataMatches := r.observedMetadataSha256 == i.beforeMetadata.canonicalSha256
  let exactClosedState := match r.outcome with
    | .committedAfter => r.targetState == .after && metadataMatches && r.mountCleanupVerified
    | .closedBeforeUnchanged | .closedBeforeRestored =>
      r.targetState == .before && metadataMatches && r.mountCleanupVerified
    | .manualReconciliationRequired => true
  i.validate && r.targetState == classifyTargetState r.observedResourceSha256 i && exactClosedState

def RepairTransactionResolution.new (outcome : RepairTransactionResolutionOutcome)
    (observedResourceSha256 observedMetadataSha256 : Sha256) (mountCleanupVerified : Bool)
    (i : RepairExecutionIntentV1) : Option RepairTransactionResolution :=
  let value : RepairTransactionResolution :=
    ⟨outcome,classifyTargetState observedResourceSha256 i,observedResourceSha256,
      observedMetadataSha256,mountCleanupVerified⟩
  if value.validateAgainst i then some value else none

namespace RepairTransactionStatusPayload

def validate (t : RepairTransactionStatusPayload) : Bool :=
  t.backup.validate && t.backup.state == .durable &&
    some t.transactionBindingSha256 == canonicalRepairTransactionBindingSha256 t.backup &&
    t.backup.executionIntent.any fun i =>
      match t.phase, t.resolution with
      | .pending, none => true
      | .resolved, some r => r.phase == .resolved && r.validateAgainst i
      | .manualReconciliationRequired, some r =>
        r.phase == .manualReconciliationRequired && r.validateAgainst i
      | _, _ => false

def new (phase : RepairTransactionPhase) (backup : RepairBackupStatusPayload)
    (resolution : Option RepairTransactionResolution) : Option RepairTransactionStatusPayload := do
  let transactionBindingSha256 ← canonicalRepairTransactionBindingSha256 backup
  let value : RepairTransactionStatusPayload := ⟨phase,transactionBindingSha256,backup,resolution⟩
  if value.validate then some value else none

def pending (backup : RepairBackupStatusPayload) : Option RepairTransactionStatusPayload :=
  new .pending backup none

def resolved (backup : RepairBackupStatusPayload) (resolution : RepairTransactionResolution) :
    Option RepairTransactionStatusPayload :=
  new resolution.phase backup (some resolution)

end RepairTransactionStatusPayload

def repairResourceFromTransaction (t : RepairTransactionStatusPayload) : Option RepairResourceV1 := do
  let i ← t.backup.executionIntent
  let resourceId ← t.backup.resourceId
  RepairResourceV1.fromExecution i.actionId resourceId

def canonicalRepairWriteLeaseSha256 (t : RepairTransactionStatusPayload) (bootEpochSha256 : Sha256) :
    Option Sha256 := do
  if !t.validate then none
  if t.phase ≠ .pending ∨ bootEpochSha256.bytes = zero32 then none
  let i ← t.backup.executionIntent
  let resource ← repairResourceFromTransaction t
  if i.lockIdentity ≠ canonicalRepairLockIdentityForResource i.targetRecoveryFingerprint
    resource then none
  some <| .ofBytes <| framedDigest "KERNAID-REPAIR-WRITE-LEASE-V1\x00"
    [asBytes resource.writeLeaseCapability,t.transactionBindingSha256.bytes.toList,
      bootEpochSha256.bytes.toList,asBytes i.targetRecoveryFingerprint,asBytes i.lockIdentity]

namespace RepairWriteLeasePayload

def validate (l : RepairWriteLeasePayload) : Bool :=
  l.transaction.validate &&
    l.transaction.backup.executionIntent.any fun i =>
      (repairResourceFromTransaction l.transaction).any fun resource =>
        l.capability == resource.writeLeaseCapability && l.transaction.phase == .pending &&
          l.transaction.backup.state == .durable && l.bootEpochSha256.bytes != zero32 &&
          i.lockIdentity == canonicalRepairLockIdentityForResource i.targetRecoveryFingerprint resource &&
          some l.leaseBindingSha256 == canonicalRepairWriteLeaseSha256 l.transaction l.bootEpochSha256

def consumed (t : RepairTransactionStatusPayload) (bootEpochSha256 : Sha256) :
    Option RepairWriteLeasePayload := do
  let resource ← repairResourceFromTransaction t
  let leaseBindingSha256 ← canonicalRepairWriteLeaseSha256 t bootEpochSha256
  let value : RepairWriteLeasePayload :=
    ⟨resource.writeLeaseCapability,bootEpochSha256,leaseBindingSha256,t⟩
  if value.validate then some value else none

end RepairWriteLeasePayload

def validateCommittedRollbackSource (source : RepairTransactionStatusPayload) : Bool :=
  source.validate && source.phase == .resolved &&
    source.resolution.map (·.outcome) == some .committedAfter

/-- The approval must be the strict next sequence and differ from the source repair approval. The
ext4 undo stream is a same-boot guard, so an ext4 source has no rollback binding. -/
def RepairRollbackBindingV1.validateAgainst (b : RepairRollbackBindingV1)
    (source : RepairTransactionStatusPayload) : Bool :=
  validateCommittedRollbackSource source &&
    source.backup.planId.any fun sourcePlanId =>
    source.backup.planSha256.any fun sourcePlanSha256 =>
    source.backup.approvalId.any fun sourceApprovalId =>
    source.backup.approvalSha256.any fun sourceApprovalSha256 =>
    source.backup.executionIntent.any fun sourceIntent =>
    (repairResourceFromTransaction source).any fun resource =>
      resource != .ext4Filesystem && sourceIntent.approvalSequence + 1 ≤ maxSafeJsonInteger &&
        b.actionId == resource.rollbackActionId && validPrefixedId b.planId "P-" &&
        validPrefixedId b.approvalId "A-" && b.planSha256.bytes != zero32 &&
        b.approvalSha256.bytes != zero32 && b.planId != sourcePlanId &&
          b.planSha256 != sourcePlanSha256 &&
        b.approvalId != sourceApprovalId && b.approvalSha256 != sourceApprovalSha256 &&
        b.approvalSequence == sourceIntent.approvalSequence + 1

def RepairRollbackResolution.validateAgainst (r : RepairRollbackResolution)
    (source : RepairTransactionStatusPayload) : Bool :=
  validateCommittedRollbackSource source &&
    source.backup.executionIntent.any fun i =>
      let metadataMatches := r.observedMetadataSha256 == i.beforeMetadata.canonicalSha256
      let exactClosedState := match r.outcome with
        | .rolledBackBefore => r.targetState == .before && metadataMatches && r.mountCleanupVerified
        | .manualReconciliationRequired => true
      r.targetState == classifyTargetState r.observedResourceSha256 i && exactClosedState

def canonicalRepairRollbackTransactionBindingSha256 (rollbackId : RepairRollbackId)
    (source : RepairTransactionStatusPayload) (binding : RepairRollbackBindingV1) : Option Sha256 := do
  if !binding.validateAgainst source then none
  some <| .ofBytes <| framedDigest "KERNAID-REPAIR-ROLLBACK-TRANSACTION-V1\x00"
    [asBytes rollbackId.asStr,asBytes source.backup.reservationId.asStr,
      source.transactionBindingSha256.bytes.toList,asBytes binding.actionId,asBytes binding.planId,
      binding.planSha256.bytes.toList,asBytes binding.approvalId,binding.approvalSha256.bytes.toList,
      toBeBytes 8 binding.approvalSequence]

namespace RepairRollbackTransactionStatusPayload

def validate (t : RepairRollbackTransactionStatusPayload) : Bool :=
  let validResolution := match t.phase, t.resolution with
    | .pending, none => true
    | .resolved, some r => r.phase == .resolved && r.validateAgainst t.source
    | .manualReconciliationRequired, some r =>
      r.phase == .manualReconciliationRequired && r.validateAgainst t.source
    | _, _ => false
  t.binding.validateAgainst t.source &&
    some t.rollbackTransactionBindingSha256 ==
      canonicalRepairRollbackTransactionBindingSha256 t.rollbackId t.source t.binding &&
    validResolution

def new (phase : RepairTransactionPhase) (rollbackId : RepairRollbackId)
    (source : RepairTransactionStatusPayload) (binding : RepairRollbackBindingV1)
    (resolution : Option RepairRollbackResolution) : Option RepairRollbackTransactionStatusPayload := do
  if !binding.validateAgainst source then none
  let rollbackTransactionBindingSha256 ←
    canonicalRepairRollbackTransactionBindingSha256 rollbackId source binding
  let value : RepairRollbackTransactionStatusPayload :=
    ⟨phase,rollbackId,rollbackTransactionBindingSha256,source,binding,resolution⟩
  if value.validate then some value else none

def pending (rollbackId : RepairRollbackId) (source : RepairTransactionStatusPayload)
    (binding : RepairRollbackBindingV1) : Option RepairRollbackTransactionStatusPayload :=
  new .pending rollbackId source binding none

def resolved (rollbackId : RepairRollbackId) (source : RepairTransactionStatusPayload)
    (binding : RepairRollbackBindingV1) (resolution : RepairRollbackResolution) :
    Option RepairRollbackTransactionStatusPayload :=
  new resolution.phase rollbackId source binding (some resolution)

end RepairRollbackTransactionStatusPayload

def canonicalRepairRollbackWriteLeaseSha256 (t : RepairRollbackTransactionStatusPayload)
    (bootEpochSha256 : Sha256) : Option Sha256 := do
  if !t.validate then none
  if t.phase ≠ .pending ∨ bootEpochSha256.bytes = zero32 then none
  let i ← t.source.backup.executionIntent
  let resource ← repairResourceFromTransaction t.source
  if i.lockIdentity ≠ canonicalRepairLockIdentityForResource i.targetRecoveryFingerprint
    resource then none
  some <| .ofBytes <| framedDigest "KERNAID-REPAIR-ROLLBACK-WRITE-LEASE-V1\x00"
    [asBytes resource.rollbackWriteLeaseCapability,t.rollbackTransactionBindingSha256.bytes.toList,
      bootEpochSha256.bytes.toList,asBytes i.targetRecoveryFingerprint,asBytes i.lockIdentity]

namespace RepairRollbackWriteLeasePayload

def validate (l : RepairRollbackWriteLeasePayload) : Bool :=
  l.transaction.validate &&
    l.transaction.source.backup.executionIntent.any fun i =>
      (repairResourceFromTransaction l.transaction.source).any fun resource =>
        l.capability == resource.rollbackWriteLeaseCapability && l.transaction.phase == .pending &&
          l.transaction.binding.actionId == resource.rollbackActionId &&
          l.bootEpochSha256.bytes != zero32 &&
          i.lockIdentity == canonicalRepairLockIdentityForResource i.targetRecoveryFingerprint resource &&
          some l.leaseBindingSha256 ==
            canonicalRepairRollbackWriteLeaseSha256 l.transaction l.bootEpochSha256

def consumed (t : RepairRollbackTransactionStatusPayload) (bootEpochSha256 : Sha256) :
    Option RepairRollbackWriteLeasePayload := do
  let resource ← repairResourceFromTransaction t.source
  let leaseBindingSha256 ← canonicalRepairRollbackWriteLeaseSha256 t bootEpochSha256
  let value : RepairRollbackWriteLeasePayload :=
    ⟨resource.rollbackWriteLeaseCapability,bootEpochSha256,leaseBindingSha256,t⟩
  if value.validate then some value else none

end RepairRollbackWriteLeasePayload

end Bindings

end KernAid.Protocol
