import KernAid.ReplayInvariant
import KernAid.Json

/-! The JSON text of a repair event, and that every event replay accepts fits into `MAX_EVENT_BYTES`. -/

set_option autoImplicit false

namespace KernAid.RepairStore

open Encoding CrashLogic Protocol Json

def jsonPhase (phase : RepairTransactionPhase) : List UInt8 :=
  jsonString <| match phase with
    | .pending => "pending"
    | .resolved => "resolved"
    | .manualReconciliationRequired => "manual-reconciliation-required"

def jsonTargetState (state : RepairTransactionTargetState) : List UInt8 :=
  jsonString <| match state with
    | .before => "before"
    | .after => "after"
    | .third => "third"

def jsonMetadata (m : RepairFileMetadataV1) : List UInt8 :=
  jsonObject [("mode",jsonNumber m.mode.toNat),("uid",jsonNumber m.uid.toNat),
    ("gid",jsonNumber m.gid.toNat),("xattrs",jsonString "none"),("posixAcl",jsonString "none")]

def jsonIntent (i : RepairExecutionIntentV1) : List UInt8 :=
  jsonObject [("actionId",jsonString i.actionId),("sessionId",jsonString i.sessionId),
    ("approvalSequence",jsonNumber i.approvalSequence),("targetId",jsonString i.targetId),
    ("scanFingerprint",jsonString i.scanFingerprint),
    ("targetFingerprint",jsonString i.targetFingerprint.asStr),
    ("targetPhysicalParentFingerprint",jsonString i.targetPhysicalParentFingerprint.asStr),
    ("targetRecoveryFingerprint",jsonString i.targetRecoveryFingerprint),
    ("lockIdentity",jsonString i.lockIdentity),("beforeSha256",jsonString i.beforeSha256.asStr),
    ("afterSha256",jsonString i.afterSha256.asStr),("diffSha256",jsonString i.diffSha256.asStr),
    ("observedUuidSetSha256",jsonString i.observedUuidSetSha256.asStr),
    ("beforeMetadata",jsonMetadata i.beforeMetadata)]

def jsonDraft (d : RepairBackupDraft) : List UInt8 :=
  jsonObject [("session_id",jsonString d.sessionId),("target_id",jsonString d.targetId),
    ("target_fingerprint",jsonBytes d.targetFingerprint),
    ("target_recovery_fingerprint",jsonString d.targetRecoveryFingerprint),
    ("expected_backup_sha256",jsonBytes d.expectedBackupSha256),
    ("metadata_sha256",jsonBytes d.metadataSha256),
    ("backup_size_bytes",jsonNumber d.backupSizeBytes),
    ("required_capacity_bytes",jsonNumber d.requiredCapacityBytes)]

def jsonBinding (b : RepairBinding) : List UInt8 :=
  jsonObject [("plan_id",jsonString b.planId),("plan_sha256",jsonBytes b.planSha256),
    ("approval_id",jsonString b.approvalId),("approval_sha256",jsonBytes b.approvalSha256),
    ("resource_id",jsonString b.resourceId),("resource_sha256",jsonBytes b.resourceSha256),
    ("execution_intent",jsonIntent b.executionIntent)]

def jsonObservation (outcome : String) (target : RepairTransactionTargetState)
    (resource metadata : Sha256) (mountCleanupVerified : Bool) : List UInt8 :=
  jsonObject [("outcome",jsonString outcome),("targetState",jsonTargetState target),
    ("observedResourceSha256",jsonString resource.asStr),
    ("observedMetadataSha256",jsonString metadata.asStr),
    ("mountCleanupVerified",jsonBool mountCleanupVerified)]

def resolutionOutcomeText : RepairTransactionResolutionOutcome → String
  | .committedAfter => "committed-after"
  | .closedBeforeUnchanged => "closed-before-unchanged"
  | .closedBeforeRestored => "closed-before-restored"
  | .manualReconciliationRequired => "manual-reconciliation-required"

def rollbackOutcomeText : RepairRollbackResolutionOutcome → String
  | .rolledBackBefore => "rolled-back-before"
  | .manualReconciliationRequired => "manual-reconciliation-required"

def jsonResolution (r : RepairTransactionResolution) : List UInt8 :=
  jsonObservation (resolutionOutcomeText r.outcome) r.targetState r.observedResourceSha256
    r.observedMetadataSha256 r.mountCleanupVerified

def jsonRollbackResolution (r : RepairRollbackResolution) : List UInt8 :=
  jsonObservation (rollbackOutcomeText r.outcome) r.targetState r.observedResourceSha256
    r.observedMetadataSha256 r.mountCleanupVerified

def jsonRollbackBinding (b : RepairRollbackBindingV1) : List UInt8 :=
  jsonObject [("actionId",jsonString b.actionId),("planId",jsonString b.planId),
    ("planSha256",jsonString b.planSha256.asStr),("approvalId",jsonString b.approvalId),
    ("approvalSha256",jsonString b.approvalSha256.asStr),
    ("approvalSequence",jsonNumber b.approvalSequence)]

/-- A struct variant of the internally tagged enumeration: the tag comes first. -/
def jsonEvent (type : String) (fields : List (String × List UInt8)) : List UInt8 :=
  jsonObject (("type",jsonString type) :: fields)

def jsonStamp (releasedAtEvent : Option Nat) : List (String × List UInt8) :=
  releasedAtEvent.toList.map fun stamp => ("releasedAtEvent",jsonNumber stamp)

/-- `serde_json::to_vec(&event)`. -/
def RepairEvent.encode : RepairEvent → List UInt8
  | .compactionBegin generation clock active retained anchor =>
    jsonEvent "repair.journal.compaction.begin" [("generation",jsonNumber generation),
      ("logicalEventClock",jsonNumber clock),("activeReservations",jsonNumber active),
      ("retainedReleases",jsonNumber retained),("previousAnchor",jsonString anchor)]
  | .compactionComplete generation =>
    jsonEvent "repair.journal.compaction.complete" [("generation",jsonNumber generation)]
  | .reserveIntent id draft binding capacity vaultId identity parent =>
    jsonEvent "repair.backup.reserve.intent" [("reservationId",jsonString id.asStr),
      ("draft",jsonDraft draft),("reservationBindingSha256",jsonString binding),
      ("reservedCapacityBytes",jsonNumber capacity),("vaultId",jsonString vaultId),
      ("vaultIdentityFingerprint",jsonString identity),
      ("physicalParentFingerprint",jsonString parent)]
  | .reserveComplete id =>
    jsonEvent "repair.backup.reserve.complete" [("reservationId",jsonString id.asStr)]
  | .reserveAbort id => jsonEvent "repair.backup.reserve.abort" [("reservationId",jsonString id.asStr)]
  | .persistIntent id binding =>
    jsonEvent "repair.backup.persist.intent" [("reservationId",jsonString id.asStr),
      ("binding",jsonBinding binding)]
  | .persistComplete id digest size =>
    jsonEvent "repair.backup.persist.complete" [("reservationId",jsonString id.asStr),
      ("backupSha256",jsonString digest),("backupSizeBytes",jsonNumber size)]
  | .persistAbort id => jsonEvent "repair.backup.persist.abort" [("reservationId",jsonString id.asStr)]
  | .transactionResolveIntent id digest phase resolution =>
    jsonEvent "repair.transaction.resolve.intent" [("reservationId",jsonString id.asStr),
      ("transactionBindingSha256",jsonString digest),("expectedPhase",jsonPhase phase),
      ("resolution",jsonResolution resolution)]
  | .transactionResolveComplete id digest =>
    jsonEvent "repair.transaction.resolve.complete" [("reservationId",jsonString id.asStr),
      ("transactionBindingSha256",jsonString digest)]
  | .transactionWriteLeaseConsume id digest epoch lease =>
    jsonEvent "repair.transaction.write-lease.consume" [("reservationId",jsonString id.asStr),
      ("transactionBindingSha256",jsonString digest),("bootEpochSha256",jsonString epoch),
      ("leaseBindingSha256",jsonString lease)]
  | .rollbackBegin id source rollbackId digest binding =>
    jsonEvent "repair.rollback.begin" [("sourceReservationId",jsonString id.asStr),
      ("sourceTransactionBindingSha256",jsonString source),("rollbackId",jsonString rollbackId.asStr),
      ("rollbackTransactionBindingSha256",jsonString digest),("binding",jsonRollbackBinding binding)]
  | .rollbackWriteLeaseConsume id rollbackId digest epoch lease =>
    jsonEvent "repair.rollback.write-lease.consume" [("sourceReservationId",jsonString id.asStr),
      ("rollbackId",jsonString rollbackId.asStr),
      ("rollbackTransactionBindingSha256",jsonString digest),("bootEpochSha256",jsonString epoch),
      ("leaseBindingSha256",jsonString lease)]
  | .rollbackResolveIntent id rollbackId digest phase resolution =>
    jsonEvent "repair.rollback.resolve.intent" [("sourceReservationId",jsonString id.asStr),
      ("rollbackId",jsonString rollbackId.asStr),
      ("rollbackTransactionBindingSha256",jsonString digest),("expectedPhase",jsonPhase phase),
      ("resolution",jsonRollbackResolution resolution)]
  | .rollbackResolveComplete id rollbackId digest =>
    jsonEvent "repair.rollback.resolve.complete" [("sourceReservationId",jsonString id.asStr),
      ("rollbackId",jsonString rollbackId.asStr),
      ("rollbackTransactionBindingSha256",jsonString digest)]
  | .cancelIntent id => jsonEvent "repair.backup.cancel.intent" [("reservationId",jsonString id.asStr)]
  | .cancelComplete id stamp =>
    jsonEvent "repair.backup.cancel.complete" (("reservationId",jsonString id.asStr) :: jsonStamp stamp)
  | .retireIntent id => jsonEvent "repair.backup.retire.intent" [("reservationId",jsonString id.asStr)]
  | .retireComplete id stamp =>
    jsonEvent "repair.backup.retire.complete" (("reservationId",jsonString id.asStr) :: jsonStamp stamp)

section Values

theorem isPlainByte_of_opaque (b : UInt8) : isOpaqueByte b = true → isPlainByte b = true :=
  forall_byte (p := fun b => isOpaqueByte b = true → isPlainByte b = true)
    (by decide +kernel) b

theorem length_jsonString_hex34 {value head : String} (hhead : (asBytes head).all isPlainByte = true)
    (h : validHex34 value head = true) : (jsonString value).length = 36 := by
  simp only [validHex34, Bool.and_eq_true, beq_iff_eq, Option.any_eq_true] at h
  obtain ⟨hlength,rest,hrest,hall⟩ := h
  rw [length_jsonString (all_plain_of_stripPrefix hrest hhead
    (all_plain_of_all isPlainByte_of_lowerHex hall)), hlength]

theorem length_jsonString_reservationId (id : ReservationId) : (jsonString id.asStr).length = 36 :=
  length_jsonString_hex34 (by decide) id.valid

theorem length_jsonString_rollbackId (id : RepairRollbackId) : (jsonString id.asStr).length = 37 :=
  length_jsonString_hexId (n := 3) (m := 32) (by decide) (by decide) id.valid

theorem length_jsonString_prefixedId {value head : String}
    (hhead : (asBytes head).all isPlainByte = true) (h : validPrefixedId value head = true) :
    (jsonString value).length ≤ 130 :=
  length_jsonString_id_le hhead h

theorem length_jsonString_opaqueId {value : String} (h : validOpaqueId value = true) :
    (jsonString value).length ≤ 130 := by
  simp only [validOpaqueId, Bool.and_eq_true, decide_eq_true_eq] at h
  have hmax : maxOpaqueIdBytes = 128 := rfl
  rw [length_jsonString (all_plain_of_all isPlainByte_of_opaque h.2)]
  omega

end Values

section Objects

theorem length_jsonMetadata_le (m : RepairFileMetadataV1) : (jsonMetadata m).length ≤ 264 := by
  have hmode := length_jsonNumber_uint32 m.mode
  have huid := length_jsonNumber_uint32 m.uid
  have hgid := length_jsonNumber_uint32 m.gid
  exact (ShortFields.cons (by decide) hmode <| .cons (by decide) huid <| .cons (by decide) hgid <|
    .cons (by decide) le_rfl <| .cons (by decide) le_rfl .nil).object.trans (by decide)

theorem length_jsonIntent_le {i : RepairExecutionIntentV1} (h : i.validate = true) :
    (jsonIntent i).length ≤ 1831 := by
  rw [RepairExecutionIntentV1.validate] at h
  split at h
  · cases h
  · rename_i resource haction
    simp only [Bool.and_eq_true, decide_eq_true_eq] at h
    obtain ⟨⟨⟨⟨⟨⟨⟨⟨hsession,_,hsequence⟩,htarget⟩,hscan⟩,hrecovery⟩,hlock⟩,_⟩,_⟩,_⟩ := h
    have haction' : (jsonString i.actionId).length ≤ 60 := by
      rw [RepairResourceV1.fromActionId_eq_some haction]
      cases resource <;> decide
    have hsession' := length_jsonString_prefixedId (by decide) hsession
    have hsequence' : (jsonNumber i.approvalSequence).length ≤ 16 :=
      length_jsonNumber (by decide) (by rw [maxSafeJsonInteger] at hsequence; omega)
    have htarget' := length_jsonString_opaqueId htarget
    have hscan' := length_jsonString_digestId (n := 5) (by decide) (by decide) hscan
    have hrecovery' :=
      length_jsonString_digestId (n := 9) (by decide) (by decide) hrecovery
    have hlock' := length_jsonString_digestId (n := 5) (by decide) (by decide) hlock
    have hmetadata := length_jsonMetadata_le i.beforeMetadata
    exact (ShortFields.cons (by decide) haction' <| .cons (by decide) hsession' <|
      .cons (by decide) hsequence' <| .cons (by decide) htarget' <| .cons (by decide) hscan'.le <|
      .cons (by decide) (length_jsonString_sha256 _).le <|
      .cons (by decide) (length_jsonString_sha256 _).le <| .cons (by decide) hrecovery'.le <|
      .cons (by decide) hlock'.le <| .cons (by decide) (length_jsonString_sha256 _).le <|
      .cons (by decide) (length_jsonString_sha256 _).le <|
      .cons (by decide) (length_jsonString_sha256 _).le <|
      .cons (by decide) (length_jsonString_sha256 _).le <|
      .cons (by decide) hmetadata .nil).object.trans (by decide)

theorem length_jsonBinding_le {b : RepairBinding} (h : b.validate = true) :
    (jsonBinding b).length ≤ 2851 := by
  simp only [RepairBinding.validate, Bool.and_eq_true,
    validStorePrefixedId_eq _ (by decide : byteLength "P-" = 2),
    validStorePrefixedId_eq _ (by decide : byteLength "A-" = 2)] at h
  obtain ⟨⟨⟨⟨⟨⟨⟨hplan,happroval⟩,_⟩,_⟩,hexecution⟩,_⟩,hintent⟩,_⟩ := h
  obtain ⟨resource,hresource⟩ := Option.isSome_iff_exists.mp hexecution
  have hresource' : (jsonString b.resourceId).length ≤ 60 := by
    rw [(RepairResourceV1.fromExecution_eq_some.mp hresource).2]
    cases resource <;> decide
  have hplan' := length_jsonString_prefixedId (by decide) hplan
  have happroval' := length_jsonString_prefixedId (by decide) happroval
  have hplanSha := length_jsonBytes_le b.planSha256
  have happrovalSha := length_jsonBytes_le b.approvalSha256
  have hresourceSha := length_jsonBytes_le b.resourceSha256
  have hintent' := length_jsonIntent_le (validExecutionIntent_iff.mp hintent).1
  exact (ShortFields.cons (by decide) hplan' <| .cons (by decide) hplanSha <|
    .cons (by decide) happroval' <|
    .cons (by decide) happrovalSha <| .cons (by decide) hresource' <| .cons (by decide) hresourceSha <|
    .cons (by decide) hintent' .nil).object.trans (by decide)

theorem length_jsonDraft_le [Sha256Hasher] {d : RepairBackupDraft} (h : d.validate = true) :
    (jsonDraft d).length ≤ 1100 := by
  have hsizes := draft_sizes h
  rw [maxBackupBytes] at hsizes
  simp only [RepairBackupDraft.validate, Bool.and_eq_true,
    validStorePrefixedId_eq _ (by decide : byteLength "S-" = 2), validStoreOpaqueId_eq] at h
  obtain ⟨⟨⟨⟨⟨⟨⟨⟨hsession,htarget⟩,_⟩,hrecovery⟩,_⟩,_⟩,_⟩,_⟩,_⟩ := h
  have hsession' := length_jsonString_prefixedId (by decide) hsession
  have htarget' := length_jsonString_opaqueId htarget
  have hrecovery' :=
    length_jsonString_digestId (n := 9) (by decide) (by decide) hrecovery
  have hfingerprint := length_jsonBytes_le d.targetFingerprint
  have hexpected := length_jsonBytes_le d.expectedBackupSha256
  have hmetadata := length_jsonBytes_le d.metadataSha256
  have hsize : (jsonNumber d.backupSizeBytes).length ≤ 8 :=
    length_jsonNumber (by decide) (by omega)
  have hcapacity : (jsonNumber d.requiredCapacityBytes).length ≤ 8 :=
    length_jsonNumber (by decide) (by omega)
  exact (ShortFields.cons (by decide) hsession' <| .cons (by decide) htarget' <|
    .cons (by decide) hfingerprint <| .cons (by decide) hrecovery'.le <| .cons (by decide) hexpected <|
    .cons (by decide) hmetadata <| .cons (by decide) hsize <|
    .cons (by decide) hcapacity .nil).object.trans (by decide)

theorem length_jsonObservation_le {outcome : String} (houtcome : (jsonString outcome).length ≤ 40)
    (target : RepairTransactionTargetState) (resource metadata : Sha256) (verified : Bool) :
    (jsonObservation outcome target resource metadata verified).length ≤ 420 := by
  have htarget : (jsonTargetState target).length ≤ 8 := by cases target <;> decide
  have hverified : (jsonBool verified).length ≤ 5 := by cases verified <;> decide
  exact (ShortFields.cons (by decide) houtcome <| .cons (by decide) htarget <|
    .cons (by decide) (length_jsonString_sha256 _).le <|
    .cons (by decide) (length_jsonString_sha256 _).le <|
    .cons (by decide) hverified .nil).object.trans (by decide)

theorem length_jsonPhase_le (phase : RepairTransactionPhase) : (jsonPhase phase).length ≤ 40 := by
  cases phase <;> decide

theorem length_jsonRollbackBinding_le [Sha256Hasher] {b : RepairRollbackBindingV1}
    {source : RepairTransactionStatusPayload} (h : b.validateAgainst source = true) :
    (jsonRollbackBinding b).length ≤ 740 := by
  simp only [RepairRollbackBindingV1.validateAgainst, Bool.and_eq_true, Option.any_eq_true,
    decide_eq_true_eq, beq_iff_eq] at h
  obtain ⟨_,_,_,_,_,_,_,_,_,intent,_,resource,_,hrest⟩ := h
  obtain ⟨⟨⟨⟨⟨⟨⟨⟨⟨⟨⟨_,hnext⟩,haction⟩,hplan⟩,happroval⟩,_⟩,_⟩,_⟩,_⟩,_⟩,_⟩,hsequence⟩ := hrest
  have haction' : (jsonString b.actionId).length ≤ 60 := by
    rw [haction]
    cases resource <;> decide
  have hplan' := length_jsonString_prefixedId (by decide) hplan
  have happroval' := length_jsonString_prefixedId (by decide) happroval
  have hsequence' : (jsonNumber b.approvalSequence).length ≤ 16 :=
    length_jsonNumber (by decide) (by rw [maxSafeJsonInteger] at hnext; omega)
  exact (ShortFields.cons (by decide) haction' <| .cons (by decide) hplan' <|
    .cons (by decide) (length_jsonString_sha256 _).le <| .cons (by decide) happroval' <|
    .cons (by decide) (length_jsonString_sha256 _).le <|
    .cons (by decide) hsequence' .nil).object.trans (by decide)

end Objects

section Events

theorem jsonEvent_fits {type : String} {fields : List (String × List UInt8)} {n : Nat}
    (htype : (jsonString type).length ≤ 42) (h : ShortFields fields n) (hn : 88 + n ≤ maxEventBytes) :
    (jsonEvent type fields).length ≤ maxEventBytes :=
  (ShortFields.cons (by decide) htype h).object.trans (by omega)

theorem idEvent_fits {type key : String} {id : ReservationId}
    {fields : List (String × List UInt8)} {n : Nat}
    (htype : (jsonString type).length ≤ 42) (hkey : (jsonString key).length ≤ 42)
    (h : ShortFields fields n) (hn : 168 + n ≤ maxEventBytes) :
    (jsonEvent type ((key,jsonString id.asStr) :: fields)).length ≤ maxEventBytes :=
  jsonEvent_fits htype (.cons hkey (length_jsonString_reservationId id).le h) (by omega)

/-- The counters of an event that replay does not bound are unsigned 64-bit integers. -/
def RepairEvent.countersFit : RepairEvent → Bool
  | .compactionBegin generation clock _ _ _ => generation < u64Bound && clock < u64Bound
  | .compactionComplete generation => generation < u64Bound
  | .cancelComplete _ stamp | .retireComplete _ stamp => stamp.all fun stamp => stamp < u64Bound
  | _ => true

theorem length_jsonNumber_u64 {n : Nat} (h : n < u64Bound) : (jsonNumber n).length ≤ 20 :=
  length_jsonNumber (by decide) (by rw [u64Bound] at h; omega)

theorem length_release_le {type : String} {id : ReservationId} {stamp : Option Nat}
    (htype : (jsonString type).length ≤ 42) (hstamp : stamp.all (fun n => n < u64Bound) = true) :
    (jsonEvent type (("reservationId",jsonString id.asStr) :: jsonStamp stamp)).length ≤
      maxEventBytes := by
  cases stamp with
  | none => exact idEvent_fits htype (by decide) .nil (by decide)
  | some stamp =>
    have hdigits := length_jsonNumber_u64 (by simpa using hstamp)
    exact idEvent_fits htype (by decide) (.cons (by decide) hdigits .nil) (by decide)

variable [Sha256Hasher] {s s' : RecoveredState} {id : ReservationId}

theorem encode_reserveIntent_le {draft : RepairBackupDraft} {digest : String} {capacity : Nat}
    {vaultId identity parent : String}
    (h : applyReserveIntent s id draft digest capacity vaultId identity parent = .ok s') :
    (RepairEvent.reserveIntent id draft digest capacity vaultId identity parent).encode.length ≤
      maxEventBytes := by
  simp only [applyReserveIntent, require_bind_eq_ok, pure_eq_ok_iff] at h
  obtain ⟨hdraft,⟨hdigest,_,rfl⟩,_,_,⟨hvault,hidentity,hparent⟩,_⟩ := h
  have hdraft' := length_jsonDraft_le hdraft
  have hdigest' := length_jsonString_lowerHex hdigest
  have hidentity' := length_jsonString_lowerHex hidentity
  have hparent' := length_jsonString_lowerHex hparent
  have hvault' := length_jsonString_hex34 (by decide) hvault
  have hsizes := draft_sizes hdraft
  have hcapacity : (jsonNumber draft.requiredCapacityBytes).length ≤ 8 :=
    length_jsonNumber (by decide) (by rw [maxBackupBytes] at hsizes; omega)
  exact idEvent_fits (by decide) (by decide)
    (.cons (by decide) hdraft' <| .cons (by decide) hdigest'.le <| .cons (by decide) hcapacity <|
    .cons (by decide) hvault'.le <| .cons (by decide) hidentity'.le <|
    .cons (by decide) hparent'.le .nil) (by decide)

theorem encode_persistIntent_le {b : RepairBinding} (h : applyPersistIntent s id b = .ok s') :
    (RepairEvent.persistIntent id b).encode.length ≤ maxEventBytes := by
  simp only [applyPersistIntent, require_bind_eq_ok] at h
  have hbinding := length_jsonBinding_le h.1
  exact idEvent_fits (by decide) (by decide) (.cons (by decide) hbinding .nil) (by decide)

theorem encode_persistComplete_le {digest : String} {size : Nat} (hinv : Inv s)
    (h : applyPersistComplete s id digest size = .ok s') :
    (RepairEvent.persistComplete id digest size).encode.length ≤ maxEventBytes := by
  simp only [applyPersistComplete, require_bind_eq_ok, okOr_bind_eq_ok] at h
  obtain ⟨_,record,hrecord,⟨rfl,rfl⟩,b,hb,_⟩ := h
  obtain ⟨hok,_⟩ := (hinv.cells id).of_persistPending hrecord (persistBinding_eq_some hb)
  have hsizes := draft_sizes hok.draft
  have hsize : (jsonNumber record.draft.backupSizeBytes).length ≤ 8 :=
    length_jsonNumber (by decide) (by rw [maxBackupBytes] at hsizes; omega)
  have hdigest := length_jsonString_sha256 (.ofBytes record.draft.expectedBackupSha256)
  rw [Sha256.asStr_ofBytes] at hdigest
  exact idEvent_fits (by decide) (by decide)
    (.cons (by decide) hdigest.le <| .cons (by decide) hsize .nil) (by decide)

theorem encode_transactionResolveIntent_le {digest : String} {phase : RepairTransactionPhase}
    {r : RepairTransactionResolution}
    (h : applyTransactionResolveIntent s id digest phase r = .ok s') :
    (RepairEvent.transactionResolveIntent id digest phase r).encode.length ≤ maxEventBytes := by
  simp only [applyTransactionResolveIntent, require_bind_eq_ok] at h
  have hdigest := length_jsonString_lowerHex h.1.2.1
  have hphase := length_jsonPhase_le phase
  have houtcome : (jsonString (resolutionOutcomeText r.outcome)).length ≤ 40 := by
    cases r.outcome <;> decide
  have hresolution : (jsonResolution r).length ≤ 420 := length_jsonObservation_le houtcome _ _ _ _
  exact idEvent_fits (by decide) (by decide) (.cons (by decide) hdigest.le <| .cons (by decide) hphase <|
    .cons (by decide) hresolution .nil) (by decide)

theorem encode_transactionResolveComplete_le {digest : String}
    (h : applyTransactionResolveComplete s id digest = .ok s') :
    (RepairEvent.transactionResolveComplete id digest).encode.length ≤ maxEventBytes := by
  simp only [applyTransactionResolveComplete, require_bind_eq_ok] at h
  have hdigest := length_jsonString_lowerHex h.1.2.1
  exact idEvent_fits (by decide) (by decide) (.cons (by decide) hdigest.le .nil) (by decide)

theorem encode_transactionWriteLeaseConsume_le {digest epoch lease : String}
    (h : applyTransactionWriteLeaseConsume s id digest epoch lease = .ok s') :
    (RepairEvent.transactionWriteLeaseConsume id digest epoch lease).encode.length ≤
      maxEventBytes := by
  simp only [applyTransactionWriteLeaseConsume, require_bind_eq_ok] at h
  obtain ⟨_,⟨hdigest,hepoch,hlease⟩,_⟩ := h
  have hdigest' := length_jsonString_lowerHex hdigest
  have hepoch' := length_jsonString_lowerHex hepoch
  have hlease' := length_jsonString_lowerHex hlease
  exact idEvent_fits (by decide) (by decide)
    (.cons (by decide) hdigest'.le <| .cons (by decide) hepoch'.le <|
    .cons (by decide) hlease'.le .nil) (by decide)

theorem encode_rollbackBegin_le {source digest : String} {rollbackId : RepairRollbackId}
    {b : RepairRollbackBindingV1} (h : applyRollbackBegin s id source rollbackId digest b = .ok s') :
    (RepairEvent.rollbackBegin id source rollbackId digest b).encode.length ≤ maxEventBytes := by
  simp only [applyRollbackBegin, require_bind_eq_ok, okOr_bind_eq_ok,
    asCorruptJournal_bind_eq_ok] at h
  obtain ⟨⟨_,_,hsource,hdigest⟩,_,_,_,_,_,_,_,_,hb,_⟩ := h
  have hsource' := length_jsonString_lowerHex hsource
  have hdigest' := length_jsonString_lowerHex hdigest
  have hbinding := length_jsonRollbackBinding_le hb
  exact idEvent_fits (by decide) (by decide)
    (.cons (by decide) hsource'.le <| .cons (by decide) (length_jsonString_rollbackId rollbackId).le <|
    .cons (by decide) hdigest'.le <| .cons (by decide) hbinding .nil) (by decide)

theorem encode_rollbackWriteLeaseConsume_le {rollbackId : RepairRollbackId}
    {digest epoch lease : String}
    (h : applyRollbackWriteLeaseConsume s id rollbackId digest epoch lease = .ok s') :
    (RepairEvent.rollbackWriteLeaseConsume id rollbackId digest epoch lease).encode.length ≤
      maxEventBytes := by
  simp only [applyRollbackWriteLeaseConsume, require_bind_eq_ok] at h
  obtain ⟨_,⟨hdigest,hepoch,hlease⟩,_⟩ := h
  have hdigest' := length_jsonString_lowerHex hdigest
  have hepoch' := length_jsonString_lowerHex hepoch
  have hlease' := length_jsonString_lowerHex hlease
  exact idEvent_fits (by decide) (by decide)
    (.cons (by decide) (length_jsonString_rollbackId rollbackId).le <| .cons (by decide) hdigest'.le <|
    .cons (by decide) hepoch'.le <| .cons (by decide) hlease'.le .nil) (by decide)

omit [Sha256Hasher] in
theorem encode_rollbackResolveIntent_le {rollbackId : RepairRollbackId} {digest : String}
    {phase : RepairTransactionPhase} {r : RepairRollbackResolution}
    (h : validSha256 digest = true) :
    (RepairEvent.rollbackResolveIntent id rollbackId digest phase r).encode.length ≤
      maxEventBytes := by
  have hdigest := length_jsonString_lowerHex h
  have hphase := length_jsonPhase_le phase
  have houtcome : (jsonString (rollbackOutcomeText r.outcome)).length ≤ 40 := by
    cases r.outcome <;> decide
  have hresolution : (jsonRollbackResolution r).length ≤ 420 :=
    length_jsonObservation_le houtcome _ _ _ _
  exact idEvent_fits (by decide) (by decide)
    (.cons (by decide) (length_jsonString_rollbackId rollbackId).le <| .cons (by decide) hdigest.le <|
    .cons (by decide) hphase <| .cons (by decide) hresolution .nil) (by decide)

theorem encode_rollbackResolveComplete_le {rollbackId : RepairRollbackId} {digest : String}
    (h : applyRollbackResolveComplete s id rollbackId digest = .ok s') :
    (RepairEvent.rollbackResolveComplete id rollbackId digest).encode.length ≤ maxEventBytes := by
  simp only [applyRollbackResolveComplete, require_bind_eq_ok] at h
  have hdigest := length_jsonString_lowerHex h.1.2.2
  exact idEvent_fits (by decide) (by decide)
    (.cons (by decide) (length_jsonString_rollbackId rollbackId).le <|
    .cons (by decide) hdigest.le .nil) (by decide)

omit [Sha256Hasher] in
theorem encode_compactionBegin_le {sequence generation clock active retained : Nat} {anchor : String}
    (hgeneration : generation < u64Bound) (hclock : clock < u64Bound)
    (h : applyCompactionBegin s sequence generation clock active retained anchor = .ok s') :
    (RepairEvent.compactionBegin generation clock active retained anchor).encode.length ≤
      maxEventBytes := by
  simp only [applyCompactionBegin, require_bind_eq_ok, okOr_bind_eq_ok, decodeCompactionAnchor,
    Option.ite_none_right_eq_some] at h
  obtain ⟨_,⟨hanchor,_⟩,⟨_,_,hactive,hretained⟩,_⟩ := h
  have hanchor' := length_jsonString_lowerHex hanchor
  have hgeneration' := length_jsonNumber_u64 hgeneration
  have hclock' := length_jsonNumber_u64 hclock
  have hactive' : (jsonNumber active).length ≤ 2 :=
    length_jsonNumber (by decide) (by rw [maxReservations] at hactive; omega)
  have hretained' : (jsonNumber retained).length ≤ 2 :=
    length_jsonNumber (by decide) (by rw [maxRetainedReleaseTombstones] at hretained; omega)
  exact jsonEvent_fits (by decide) (.cons (by decide) hgeneration' <| .cons (by decide) hclock' <|
    .cons (by decide) hactive' <| .cons (by decide) hretained' <|
    .cons (by decide) hanchor'.le .nil) (by decide)

omit [Sha256Hasher] in
theorem encode_compactionComplete_le {generation : Nat} (hgeneration : generation < u64Bound) :
    (RepairEvent.compactionComplete generation).encode.length ≤ maxEventBytes := by
  have hgeneration' := length_jsonNumber_u64 hgeneration
  exact jsonEvent_fits (by decide) (.cons (by decide) hgeneration' .nil) (by decide)

theorem encode_le_of_accepted {event : RepairEvent} {sequence : Nat} (hinv : Inv s)
    (hcounters : event.countersFit = true) (h : dispatchRepairEvent s event sequence = .ok s') :
    event.encode.length ≤ maxEventBytes := by
  cases event with
  | compactionBegin =>
    simp only [RepairEvent.countersFit, Bool.and_eq_true, decide_eq_true_eq] at hcounters
    exact encode_compactionBegin_le hcounters.1 hcounters.2 h
  | compactionComplete =>
    exact encode_compactionComplete_le (by simpa [RepairEvent.countersFit] using hcounters)
  | reserveIntent => exact encode_reserveIntent_le h
  | reserveComplete => exact idEvent_fits (by decide) (by decide) .nil (by decide)
  | reserveAbort => exact idEvent_fits (by decide) (by decide) .nil (by decide)
  | persistIntent => exact encode_persistIntent_le h
  | persistComplete => exact encode_persistComplete_le hinv h
  | persistAbort => exact idEvent_fits (by decide) (by decide) .nil (by decide)
  | transactionResolveIntent => exact encode_transactionResolveIntent_le h
  | transactionResolveComplete => exact encode_transactionResolveComplete_le h
  | transactionWriteLeaseConsume => exact encode_transactionWriteLeaseConsume_le h
  | rollbackBegin => exact encode_rollbackBegin_le h
  | rollbackWriteLeaseConsume => exact encode_rollbackWriteLeaseConsume_le h
  | rollbackResolveIntent =>
    simp only [dispatchRepairEvent, applyRollbackResolveIntent, require_bind_eq_ok] at h
    exact encode_rollbackResolveIntent_le h.1.2.2
  | rollbackResolveComplete => exact encode_rollbackResolveComplete_le h
  | cancelIntent => exact idEvent_fits (by decide) (by decide) .nil (by decide)
  | cancelComplete => exact length_release_le (by decide) hcounters
  | retireIntent => exact idEvent_fits (by decide) (by decide) .nil (by decide)
  | retireComplete => exact length_release_le (by decide) hcounters

end Events

end KernAid.RepairStore
