import KernAid.RepairRecords

/-! Agreement of the store's validators and records with those of the wire protocol. -/

set_option autoImplicit false

namespace KernAid.RepairStore

open Encoding CrashLogic Protocol RepairResourceV1

theorem byteLength_of_stripPrefix {head value : String} {rest : List UInt8}
    (h : stripPrefix head value = some rest) : byteLength value = byteLength head + rest.length := by
  rw [byteLength, stripPrefix_eq_some.mp h, List.length_append]
  rfl

theorem validHex34_eq (value : String) {head : String} (hhead : byteLength head = 2) :
    validHex34 value head = validHexId value head := by
  rw [validHex34, validHexId]
  cases h : stripPrefix head value with
  | none => simp
  | some rest =>
    have hlen := byteLength_of_stripPrefix h
    have h32 : (byteLength value == 34) = (rest.length == 32) := by
      rw [Bool.eq_iff_iff, beq_iff_eq, beq_iff_eq]
      omega
    simp [h32]

theorem validStorePrefixedId_eq (value : String) {head : String} (hhead : byteLength head = 2) :
    validStorePrefixedId value head = validPrefixedId value head := by
  rw [validStorePrefixedId, validPrefixedId]
  cases h : stripPrefix head value with
  | none => simp
  | some rest =>
    have hlen := byteLength_of_stripPrefix h
    cases rest with
    | nil => simp
    | cons b rest =>
      have h3 : 3 ≤ byteLength value := by
        simp only [List.length_cons] at hlen
        omega
      rw [decide_eq_true h3, Bool.true_and]
      rfl

theorem validStoreOpaqueId_eq (value : String) : validStoreOpaqueId value = validOpaqueId value := by
  rw [validStoreOpaqueId, validOpaqueId, Bool.eq_iff_iff]
  simp only [Bool.and_eq_true, decide_eq_true_eq, bne_iff_ne, Bool.not_eq_true']
  unfold maxOpaqueIdBytes
  constructor
  · rintro ⟨⟨⟨h1,h2⟩,h3⟩,h4⟩
    exact ⟨⟨⟨by omega,h2⟩,h4⟩,h3⟩
  · rintro ⟨⟨⟨h1,h2⟩,h4⟩,h3⟩
    exact ⟨⟨⟨by omega,h2⟩,h3⟩,h4⟩

/-- The reservation identifier of the wire protocol that a store identifier denotes. -/
def ReservationId.toProtocol (id : ReservationId) : RepairReservationId :=
  ⟨id.asStr,by rw [← validHex34_eq id.asStr (by decide : byteLength "B-" = 2)]; exact id.valid⟩

theorem parse_asStr (id : ReservationId) : RepairReservationId.parse id.asStr = some id.toProtocol := by
  have h : validHexId id.asStr "B-" = true := id.toProtocol.valid
  rw [RepairReservationId.parse, dif_pos h]
  rfl

/-- An intent of the store is a valid intent of the protocol for one of the three actions the store
knows; the resolver link is not among them. -/
theorem validExecutionIntent_iff {i : RepairExecutionIntentV1} :
    validExecutionIntent i = true ↔
      i.validate = true ∧ i.actionId ≠ resolverLink.actionId := by
  have hcanonical : ∀ r : RepairResourceV1, i.actionId = r.actionId →
      ((RepairExecutionIntentV1.newForResource r i.sessionId i.approvalSequence i.targetId
        i.scanFingerprint i.targetFingerprint i.targetPhysicalParentFingerprint
        i.targetRecoveryFingerprint i.lockIdentity i.beforeSha256 i.afterSha256 i.diffSha256
        i.observedUuidSetSha256 i.beforeMetadata).any fun canonical => canonical == i) = i.validate := by
    intro r hr
    rw [RepairExecutionIntentV1.newForResource, ← hr]
    cases i.validate <;> simp
  unfold validExecutionIntent
  split_ifs with h1 h2 h3
  · rw [Option.any_some, hcanonical _ h1, h1]
    simp [actionId]
  · rw [Option.any_some, hcanonical _ h2, h2]
    simp [actionId]
  · rw [Option.any_some, hcanonical _ h3, h3]
    simp [actionId]
  · simp only [Option.any_none, Bool.false_eq_true, false_iff, not_and, not_not]
    intro hv
    unfold RepairExecutionIntentV1.validate at hv
    cases ha : fromActionId i.actionId with
    | none => simp [ha] at hv
    | some r =>
      have hr := fromActionId_eq_some ha
      cases r with
      | fstab => exact (h1 hr).elim
      | crypttab => exact (h2 hr).elim
      | ext4Filesystem => exact (h3 hr).elim
      | resolverLink => exact hr

theorem protocolSha256Bytes_eq (b : Bytes32) : protocolSha256Bytes b = .ok (.ofBytes b) := by
  rw [protocolSha256Bytes, protocolSha256Str, Sha256.parse_encodeHex]
  rfl

theorem protocolSha256Str_of_valid {value : String} (h : validSha256 value = true) :
    ∃ d : Sha256, protocolSha256Str value = .ok d ∧ d.asStr = value := by
  refine ⟨⟨value,h⟩,?_,rfl⟩
  have h' : validLowerHex value 64 = true := h
  rw [protocolSha256Str, Sha256.parse, dif_pos h']
  rfl

theorem transactionPhase_eq (t : RepairTransactionRecord) :
    transactionPhase t = (t.resolution.map RepairTransactionResolution.phase).getD .pending := by
  cases h : t.resolution with
  | none => simp [transactionPhase, h]
  | some r =>
    simp only [transactionPhase, h, Option.map_some, Option.getD_some, RepairTransactionResolution.phase]
    cases r.outcome <;> rfl

theorem rollbackTransactionPhase_eq (rollback : RepairRollbackTransactionRecord) :
    rollbackTransactionPhase rollback =
      (rollback.resolution.map RepairRollbackResolution.phase).getD .pending := by
  cases h : rollback.resolution with
  | none => simp [rollbackTransactionPhase, h]
  | some r =>
    simp only [rollbackTransactionPhase, h, Option.map_some, Option.getD_some,
      RepairRollbackResolution.phase]
    cases r.outcome <;> rfl

theorem phase_eq_resolved_or_manual (r : RepairTransactionResolution) :
    r.phase = .resolved ∨ r.phase = .manualReconciliationRequired := by
  unfold RepairTransactionResolution.phase
  cases r.outcome <;> simp

theorem rollbackPhase_eq_resolved_or_manual (r : RepairRollbackResolution) :
    r.phase = .resolved ∨ r.phase = .manualReconciliationRequired := by
  unfold RepairRollbackResolution.phase
  cases r.outcome <;> simp

def toStoreBinding (b : RepairBackupBinding) : RepairBinding :=
  ⟨b.planId,b.planSha256.bytes,b.approvalId,b.approvalSha256.bytes,b.resourceId,b.resourceSha256.bytes,
    b.executionIntent⟩

def toStoreDraft (d : Protocol.RepairBackupDraft) : RepairBackupDraft :=
  ⟨d.sessionId,d.targetId,d.targetFingerprint.bytes,d.targetRecoveryFingerprint,
    d.expectedBackupSha256.bytes,d.metadataSha256.bytes,d.backupSize,d.requiredCapacityBytes⟩

/-- A protocol binding accepted by the store under `RepairBinding::validate`: exactly the bindings
that do not name the resolver link and whose plan and approval digests are not zero. -/
theorem toStoreBinding_validate_iff {b : RepairBackupBinding} (hb : b.validate = true)
    (hbefore : b.executionIntent.beforeSha256.bytes ≠ zero32) :
    (toStoreBinding b).validate = true ↔ b.resourceId ≠ resolverLink.resourceId ∧
      b.planSha256.bytes ≠ zero32 ∧ b.approvalSha256.bytes ≠ zero32 := by
  simp only [RepairBackupBinding.validate, Bool.and_eq_true, beq_iff_eq] at hb
  obtain ⟨⟨⟨⟨⟨hplan,happroval⟩,_⟩,hintent⟩,hexecution⟩,hsha⟩ := hb
  obtain ⟨r,hr⟩ := Option.isSome_iff_exists.mp hexecution
  obtain ⟨haction,hresource⟩ := fromExecution_eq_some.mp hr
  have hlink : b.executionIntent.actionId ≠ resolverLink.actionId ↔
      b.resourceId ≠ resolverLink.resourceId := by
    rw [haction, hresource]
    cases r <;> decide
  have hvalid := validExecutionIntent_iff (i := b.executionIntent)
  simp only [hintent, true_and, hlink] at hvalid
  simp only [RepairBinding.validate, toStoreBinding, Bool.and_eq_true, bne_iff_ne, beq_iff_eq,
    validStorePrefixedId_eq _ (by decide : byteLength "P-" = 2),
    validStorePrefixedId_eq _ (by decide : byteLength "A-" = 2), hplan, happroval, hexecution, hsha,
    hbefore, hvalid, true_and, and_true, ne_eq, not_false_eq_true]
  tauto

section Records

variable [Sha256Hasher]

/-- What replay checks of a record when the reservation is made. -/
structure RecordOk (record : ReservationRecord) : Prop where
  draft : record.draft.validate = true
  binding : record.reservationBindingSha256 = reservationBinding record.draft
  capacity : record.reservedCapacityBytes = record.draft.requiredCapacityBytes
  vault : validStoreVaultId record.vaultId = true
  identity : validSha256 record.vaultIdentityFingerprint = true
  parent : validSha256 record.physicalParentFingerprint = true

variable {b : RepairBinding} {record : ReservationRecord} {id : ReservationId}

theorem validSha256_reservationBinding (d : RepairBackupDraft) :
    validSha256 (reservationBinding d) = true := by
  rw [validSha256, reservationBinding]
  simpa using validLowerHex_encodeHex (framedDigest _ _).toList

theorem validate_of_validateForRecord (h : b.validateForRecord record = true) :
    b.validate = true := by
  simp only [RepairBinding.validateForRecord, Bool.and_eq_true] at h
  exact h.1.1.1.1.1.1.1

def RepairBinding.toProtocol (b : RepairBinding) : RepairBackupBinding :=
  ⟨b.planId,.ofBytes b.planSha256,b.approvalId,.ofBytes b.approvalSha256,b.resourceId,
    .ofBytes b.resourceSha256,b.executionIntent⟩

omit [Sha256Hasher] in
theorem toProtocol_validate (h : b.validate = true) : b.toProtocol.validate = true := by
  simp only [RepairBinding.validate, Bool.and_eq_true,
    validStorePrefixedId_eq _ (by decide : byteLength "P-" = 2),
    validStorePrefixedId_eq _ (by decide : byteLength "A-" = 2)] at h
  obtain ⟨⟨⟨⟨⟨⟨⟨hplan,happroval⟩,_⟩,_⟩,hexecution⟩,_⟩,hintent⟩,hresource⟩ := h
  obtain ⟨r,hr⟩ := Option.isSome_iff_exists.mp hexecution
  have hid := (fromExecution_eq_some.mp hr).2
  have hsha : Sha256.ofBytes b.resourceSha256 = b.executionIntent.beforeSha256 := by
    rw [beq_iff_eq.mp hresource, Sha256.ofBytes_bytes]
  have hresourceId : validResourceId b.resourceId = true := by
    rw [validResourceId, hid, fromResourceId_resourceId]
    rfl
  simp [RepairBackupBinding.validate, RepairBinding.toProtocol, hplan, happroval, hexecution, hsha,
    (validExecutionIntent_iff.mp hintent).1, hresourceId]

/-- The payload of a stored record, from the three digests it keeps as text. -/
def backupPayload (id : ReservationId) (record : ReservationRecord) (b : RepairBinding)
    (draftBinding identity parent : Sha256) : RepairBackupStatusPayload where
  state := .durable
  reservationId := id.toProtocol
  draftBindingSha256 := draftBinding
  locator := id.toProtocol.locator
  vaultId := record.vaultId
  vaultIdentityFingerprint := identity
  physicalParentFingerprint := parent
  reservedBytes := record.reservedCapacityBytes
  backupSize := record.draft.backupSizeBytes
  expectedBackupSha256 := .ofBytes record.draft.expectedBackupSha256
  metadataSha256 := .ofBytes record.draft.metadataSha256
  planId := some b.planId
  planSha256 := some (.ofBytes b.planSha256)
  approvalId := some b.approvalId
  approvalSha256 := some (.ofBytes b.approvalSha256)
  resourceId := some b.resourceId
  resourceSha256 := some (.ofBytes b.resourceSha256)
  executionIntent := some b.executionIntent

structure BackupOf (id : ReservationId) (b : RepairBinding)
    (backup : RepairBackupStatusPayload) : Prop where
  valid : backup.validate = true
  state : backup.state = .durable
  reservationId : backup.reservationId = id.toProtocol
  planId : backup.planId = some b.planId
  planSha256 : backup.planSha256 = some (.ofBytes b.planSha256)
  approvalId : backup.approvalId = some b.approvalId
  approvalSha256 : backup.approvalSha256 = some (.ofBytes b.approvalSha256)
  resourceId : backup.resourceId = some b.resourceId
  resourceSha256 : backup.resourceSha256 = some (.ofBytes b.resourceSha256)
  executionIntent : backup.executionIntent = some b.executionIntent

theorem draft_sizes {d : RepairBackupDraft} (h : d.validate = true) :
    1 ≤ d.backupSizeBytes ∧ d.backupSizeBytes ≤ d.requiredCapacityBytes ∧
      d.requiredCapacityBytes ≤ maxBackupBytes := by
  simp only [RepairBackupDraft.validate, Bool.and_eq_true, decide_eq_true_eq, bne_iff_ne] at h
  omega

/-- A record that replay accepted, with a binding that the store accepted for it, becomes a payload
that the protocol's validator accepts. -/
theorem protocolBackupStatus_of_accepted (hok : RecordOk record)
    (hphase : record.phase.storedBinding = some b) (hb : b.validateForRecord record = true) :
    ∃ backup, protocolBackupStatusFromRecord id record = .ok backup ∧ BackupOf id b backup := by
  have hvalid := toProtocol_validate (validate_of_validateForRecord hb)
  have hnew : RepairBackupBinding.new b.planId (.ofBytes b.planSha256) b.approvalId
      (.ofBytes b.approvalSha256) b.resourceId (.ofBytes b.resourceSha256) b.executionIntent =
        some b.toProtocol := if_pos hvalid
  obtain ⟨draftBinding,hdraft,hdraft'⟩ := protocolSha256Str_of_valid
    (hok.binding ▸ validSha256_reservationBinding record.draft :
      validSha256 record.reservationBindingSha256 = true)
  obtain ⟨identity,hidentity,hidentity'⟩ := protocolSha256Str_of_valid hok.identity
  obtain ⟨parent,hparent,hparent'⟩ := protocolSha256Str_of_valid hok.parent
  have hvault : validVaultId record.vaultId = true := by
    rw [validVaultId, ← validHex34_eq _ (by decide : byteLength "V-" = 2)]
    exact hok.vault
  obtain ⟨hsize1,hsize2,hsize3⟩ := draft_sizes hok.draft
  have hmax : maxBackupBytes = maxRepairReservedBytes := rfl
  have hmax' : maxBackupBytes = maxRepairBackupBytes := rfl
  rw [hmax] at hsize3
  have hsize4 : record.draft.backupSizeBytes ≤ maxRepairBackupBytes := by
    rw [← hmax', hmax]
    omega
  simp only [RepairBackupBinding.validate, RepairBinding.toProtocol, Bool.and_eq_true] at hvalid
  obtain ⟨⟨⟨⟨⟨hplan,happroval⟩,hresource⟩,hintent⟩,_⟩,hresourceSha⟩ := hvalid
  simp only [RepairBinding.validateForRecord, Bool.and_eq_true, beq_iff_eq, bne_iff_ne] at hb
  obtain ⟨⟨⟨_,hbefore⟩,hmetadata⟩,hdistinct⟩ := hb
  refine ⟨backupPayload id record b draftBinding identity parent,?_,?_⟩
  · simp only [protocolBackupStatusFromRecord, hphase, okOr_some, ok_bind, parse_asStr,
      protocolSha256Bytes_eq, hnew, hdraft, hidentity, hparent, RepairBackupStatusPayload.durable]
    rw [if_neg (by simp [hvault, hok.capacity, hsize1, hsize2, hsize3, hsize4]), okOr_some]
    rfl
  · have hparents : parent ≠ b.executionIntent.targetPhysicalParentFingerprint := by
      intro heq
      exact hdistinct (by rw [← heq, hparent'])
    constructor <;> simp [RepairBackupStatusPayload.validate, backupPayload, hvault,
      RepairBackupStatusPayload.bindingFieldsAreValid, hok.capacity, hsize1, hsize2, hsize3, hsize4,
      hplan, happroval, hresource, hintent, hparents, beq_iff_eq.mp hresourceSha, ← hbefore, ← hmetadata]

theorem transactionBinding_of_backup {backup : RepairBackupStatusPayload} (h : BackupOf id b backup) :
    ∃ digest, canonicalRepairTransactionBindingSha256 backup = some digest := by
  simp [canonicalRepairTransactionBindingSha256, h.valid, h.state, h.planId, h.planSha256, h.approvalId,
    h.approvalSha256, h.resourceId, h.resourceSha256, h.executionIntent]

/-- Rebuilding a resolution from its own fields changes only the classification of the target, which
the protocol's validator checks. -/
theorem validateResolutionAgainstIntent_eq (r : RepairTransactionResolution)
    (i : RepairExecutionIntentV1) : validateResolutionAgainstIntent r i = r.validateAgainst i := by
  obtain ⟨outcome,target,observed,metadata,cleanup⟩ := r
  simp only [validateResolutionAgainstIntent, RepairTransactionResolution.new]
  by_cases htarget : target = classifyTargetState observed i
  · subst htarget
    cases hv : RepairTransactionResolution.validateAgainst
      ⟨outcome,classifyTargetState observed i,observed,metadata,cleanup⟩ i <;> simp
  · have hfalse : RepairTransactionResolution.validateAgainst
        ⟨outcome,target,observed,metadata,cleanup⟩ i = false := by
      simp [RepairTransactionResolution.validateAgainst, htarget]
    rw [hfalse]
    split_ifs <;> simp [Ne.symm htarget]

structure StatusOf (id : ReservationId) (b : RepairBinding) (t : RepairTransactionRecord)
    (status : RepairTransactionStatusPayload) : Prop where
  backup : BackupOf id b status.backup
  digest : canonicalRepairTransactionBindingSha256 status.backup = some status.transactionBindingSha256
  phase : status.phase = transactionPhase t
  resolution : status.resolution = t.resolution
  valid : status.validate = true

/-- A stored transaction whose resolution was validated against its intent becomes a status that the
protocol's validator accepts. -/
theorem protocolTransactionStatus_of_accepted {t : RepairTransactionRecord}
    {backup : RepairBackupStatusPayload}
    (hbackup : protocolBackupStatusFromRecord id record = .ok backup) (hof : BackupOf id b backup)
    (hresolution : ∀ r, t.resolution = some r → r.validateAgainst b.executionIntent = true) :
    ∃ status, protocolTransactionStatusFromRecord id record t = .ok status ∧ status.backup = backup ∧
      StatusOf id b t status := by
  obtain ⟨digest,hdigest⟩ := transactionBinding_of_backup hof
  have hphase := transactionPhase_eq t
  have hvalid : RepairTransactionStatusPayload.validate
      ⟨transactionPhase t,digest,backup,t.resolution⟩ = true := by
    cases hr : t.resolution with
    | none => simp [RepairTransactionStatusPayload.validate, hof.valid, hof.state, hdigest,
        hof.executionIntent, hphase, hr]
    | some r =>
      have hra := hresolution r hr
      rcases phase_eq_resolved_or_manual r with hrp | hrp <;>
        simp [RepairTransactionStatusPayload.validate, hof.valid, hof.state, hdigest,
          hof.executionIntent, hphase, hr, hrp, hra]
  refine ⟨⟨transactionPhase t,digest,backup,t.resolution⟩,?_,rfl,hof,hdigest,rfl,rfl,hvalid⟩
  rw [protocolTransactionStatusFromRecord, hbackup, ok_bind]
  rw [hphase] at hvalid ⊢
  cases hr : t.resolution with
  | none =>
    simp only [hr, Option.map_none, Option.getD_none] at hvalid
    simp [RepairTransactionStatusPayload.pending, RepairTransactionStatusPayload.new, hdigest, hvalid]
  | some r =>
    simp only [hr, Option.map_some, Option.getD_some] at hvalid
    simp [RepairTransactionStatusPayload.resolved, RepairTransactionStatusPayload.new, hdigest, hvalid]

structure RollbackStatusOf (source : RepairTransactionStatusPayload)
    (rollback : RepairRollbackTransactionRecord) (status : RepairRollbackTransactionStatusPayload) :
    Prop where
  ofSource : status.source = source
  rollbackId : status.rollbackId = rollback.rollbackId
  binding : status.binding = rollback.binding
  digest : canonicalRepairRollbackTransactionBindingSha256 rollback.rollbackId source
    rollback.binding = some status.rollbackTransactionBindingSha256
  phase : status.phase = rollbackTransactionPhase rollback
  resolution : status.resolution = rollback.resolution
  valid : status.validate = true

theorem protocolRollbackStatus_of_accepted {t : RepairTransactionRecord}
    {rollback : RepairRollbackTransactionRecord} {source : RepairTransactionStatusPayload}
    (hsettled : t.pendingResolution = none)
    (hsource : protocolTransactionStatusFromRecord id record t = .ok source)
    (hbinding : rollback.binding.validateAgainst source = true)
    (hresolution : ∀ r, rollback.resolution = some r → r.validateAgainst source = true) :
    ∃ status, protocolRollbackStatusFromRecord id record t rollback = .ok status ∧
      RollbackStatusOf source rollback status := by
  have hdigest : ∃ digest, canonicalRepairRollbackTransactionBindingSha256 rollback.rollbackId source
      rollback.binding = some digest := by
    simp [canonicalRepairRollbackTransactionBindingSha256, hbinding]
  obtain ⟨digest,hdigest⟩ := hdigest
  have hphase := rollbackTransactionPhase_eq rollback
  have hvalid : RepairRollbackTransactionStatusPayload.validate ⟨rollbackTransactionPhase rollback,
      rollback.rollbackId,digest,source,rollback.binding,rollback.resolution⟩ = true := by
    cases hr : rollback.resolution with
    | none => simp [RepairRollbackTransactionStatusPayload.validate, hbinding, hdigest, hphase, hr]
    | some r =>
      have hra := hresolution r hr
      rcases rollbackPhase_eq_resolved_or_manual r with hrp | hrp <;>
        simp [RepairRollbackTransactionStatusPayload.validate, hbinding, hdigest, hphase, hr, hrp, hra]
  refine ⟨⟨rollbackTransactionPhase rollback,rollback.rollbackId,digest,source,rollback.binding,
    rollback.resolution⟩,?_,rfl,rfl,rfl,hdigest,rfl,rfl,hvalid⟩
  have hrequire : require (t.pendingResolution = none) RepairVaultStoreError.reconciliationRequired =
      .ok () := require_eq_ok.mpr hsettled
  rw [protocolRollbackStatusFromRecord, hrequire, ok_bind, hsource, ok_bind]
  rw [hphase] at hvalid ⊢
  cases hr : rollback.resolution with
  | none =>
    simp only [hr, Option.map_none, Option.getD_none] at hvalid
    simp [RepairRollbackTransactionStatusPayload.pending, RepairRollbackTransactionStatusPayload.new,
      hbinding, hdigest, hvalid]
  | some r =>
    simp only [hr, Option.map_some, Option.getD_some] at hvalid
    simp [RepairRollbackTransactionStatusPayload.resolved, RepairRollbackTransactionStatusPayload.new,
      hbinding, hdigest, hvalid]

/-- The binding is for this draft: its intent names the draft's session, target and contents, on a
physical parent other than the vault's. -/
structure MatchesDraft (b : RepairBackupBinding) (d : Protocol.RepairBackupDraft) (vaultParent : Sha256) :
    Prop where
  sessionId : b.executionIntent.sessionId = d.sessionId
  targetId : b.executionIntent.targetId = d.targetId
  targetFingerprint : b.executionIntent.targetFingerprint = d.targetFingerprint
  targetRecoveryFingerprint : b.executionIntent.targetRecoveryFingerprint = d.targetRecoveryFingerprint
  before : b.executionIntent.beforeSha256 = d.expectedBackupSha256
  metadata : b.executionIntent.beforeMetadata.canonicalSha256 = d.metadataSha256
  parent : b.executionIntent.targetPhysicalParentFingerprint ≠ vaultParent

theorem expected_ne_zero {d : RepairBackupDraft} (h : d.validate = true) :
    d.expectedBackupSha256 ≠ zero32 := by
  simp only [RepairBackupDraft.validate, Bool.and_eq_true, bne_iff_ne] at h
  exact h.1.1.1.1.2

theorem validateForRecord_iff_of_matches {b : RepairBackupBinding} {d : Protocol.RepairBackupDraft}
    {vaultParent : Sha256} (hb : b.validate = true) (hmatch : MatchesDraft b d vaultParent)
    (hdraft : record.draft = toStoreDraft d) (hvalid : record.draft.validate = true)
    (hparent : record.physicalParentFingerprint = vaultParent.asStr) :
    (toStoreBinding b).validateForRecord record = true ↔
      b.resourceId ≠ resolverLink.resourceId ∧
        b.planSha256.bytes ≠ zero32 ∧ b.approvalSha256.bytes ≠ zero32 := by
  have hbefore : b.executionIntent.beforeSha256.bytes ≠ zero32 := by
    have h := expected_ne_zero hvalid
    rw [hdraft] at h
    rw [hmatch.before]
    exact h
  have hdistinct : b.executionIntent.targetPhysicalParentFingerprint.asStr ≠ vaultParent.asStr :=
    fun heq => hmatch.parent (Sha256.ext_asStr heq)
  rw [← toStoreBinding_validate_iff hb hbefore]
  simp only [RepairBinding.validateForRecord, Bool.and_eq_true, beq_iff_eq, bne_iff_ne]
  simp [toStoreBinding, hdraft, toStoreDraft, hmatch.sessionId, hmatch.targetId, hmatch.targetFingerprint,
    hmatch.targetRecoveryFingerprint, hmatch.before, hmatch.metadata, hparent, hdistinct]

end Records

end KernAid.RepairStore
