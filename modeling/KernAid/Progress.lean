import KernAid.ReplayInvariant

/-! When replay accepts an event, and the state it leads to. -/

set_option autoImplicit false

namespace KernAid.RepairStore

open Encoding CrashLogic Protocol

theorem isQuiescent_iff {s : RecoveredState} : s.isQuiescent = true ↔
    s.pending = none ∧ s.unresolvedTransaction = none ∧ s.unresolvedRollback = none := by
  simp [RecoveredState.isQuiescent, and_assoc]

/-- The state in which the next event of a live operation is judged. -/
def RecoveredState.tick (s : RecoveredState) : RecoveredState :=
  { s with logicalEventClock := s.logicalEventClock + 1 }

variable {s : RecoveredState} {id : ReservationId} {record : ReservationRecord}
  {b : RepairBinding} {t : RepairTransactionRecord}

theorem applyReserveComplete_accepts (hp : s.pending = some id)
    (hrecord : s.reservations[id]? = some record) (hphase : record.phase = .reservePending) :
    applyReserveComplete s id = .ok { s.setPhase id record .reserved with pending := none } := by
  simp only [applyReserveComplete, require_bind_eq_ok, okOr_bind_eq_ok, pure_eq_ok_iff]
  exact ⟨hp,record,hrecord,hphase,rfl⟩

theorem applyReserveAbort_accepts (hp : s.pending = some id)
    (hrecord : s.reservations[id]? = some record) (hphase : record.phase = .reservePending) :
    applyReserveAbort s id = .ok { s with
      reservations := s.reservations.erase id, pending := none } := by
  simp only [applyReserveAbort, require_bind_eq_ok, okOr_bind_eq_ok, pure_eq_ok_iff]
  exact ⟨hp,record,hrecord,hphase,trivial⟩

theorem applyPersistComplete_accepts (hp : s.pending = some id)
    (hrecord : s.reservations[id]? = some record) (hphase : record.phase = .persistPending b)
    (ht : s.transactions[id]? = none) (hu : s.unresolvedTransaction = none) :
    applyPersistComplete s id (encodeHex record.draft.expectedBackupSha256.toList)
      record.draft.backupSizeBytes = .ok
      { (s.setPhase id record (.durable b)).setTransaction id .fresh with
        unresolvedTransaction := some id
        pending := none } := by
  have hnot : id ∉ s.transactions := by simp [Std.ExtTreeMap.mem_iff_isSome_getElem?, ht]
  simp only [applyPersistComplete, require_bind_eq_ok, okOr_bind_eq_ok, pure_eq_ok_iff]
  exact ⟨hp,record,hrecord,⟨rfl,rfl⟩,b,by rw [hphase]; rfl,⟨hnot,hu⟩,rfl⟩

theorem applyPersistAbort_accepts (hp : s.pending = some id)
    (hrecord : s.reservations[id]? = some record) (hphase : record.phase = .persistPending b) :
    applyPersistAbort s id = .ok { s.setPhase id record .reserved with pending := none } := by
  simp only [applyPersistAbort, require_bind_eq_ok, okOr_bind_eq_ok, pure_eq_ok_iff]
  exact ⟨hp,record,hrecord,by rw [hphase]; rfl,rfl⟩

theorem applyCancelIntent_accepts (hp : s.pending = none)
    (hrecord : s.reservations[id]? = some record) (hphase : record.phase = .reserved) :
    applyCancelIntent s id = .ok { s.setPhase id record .cancelPending with pending := some id } := by
  simp only [applyCancelIntent, require_bind_eq_ok, okOr_bind_eq_ok, pure_eq_ok_iff]
  exact ⟨hp,record,hrecord,hphase,rfl⟩

theorem applyCancelComplete_accepts {event : Option Nat} {stamp : Nat}
    (hstamp : releaseStamp s event = some stamp) (hp : s.pending = some id)
    (hsize : s.released.size < maxReleaseTombstones) (hreleased : id ∉ s.released)
    (hrecord : s.reservations[id]? = some record) (hphase : record.phase = .cancelPending) :
    applyCancelComplete s id event = .ok { s with
      reservations := s.reservations.erase id
      released := s.released.insert id ⟨.cancel,record,stamp⟩
      pending := none } := by
  simp only [applyCancelComplete, require_bind_eq_ok, okOr_bind_eq_ok, pure_eq_ok_iff]
  exact ⟨stamp,hstamp,⟨hp,hsize,hreleased⟩,record,hrecord,hphase,rfl⟩

theorem applyRetireComplete_accepts {event : Option Nat} {stamp : Nat}
    {r : RepairTransactionResolution} (hstamp : releaseStamp s event = some stamp)
    (hp : s.pending = some id) (hsize : s.released.size < maxReleaseTombstones)
    (hreleased : id ∉ s.released) (hrecord : s.reservations[id]? = some record)
    (hphase : record.phase = .retirePending b r) (ht : s.transactions[id]? = some t)
    (hfinal : s.isFinal id t = true) :
    applyRetireComplete s id event = .ok { s with
      reservations := s.reservations.erase id
      transactions := s.transactions.erase id
      released := s.released.insert id ⟨.retire,record,stamp⟩
      pending := none } := by
  simp only [applyRetireComplete, require_bind_eq_ok, okOr_bind_eq_ok, pure_eq_ok_iff]
  exact ⟨stamp,hstamp,⟨hp,hsize,hreleased⟩,record,hrecord,by rw [hphase]; rfl,t,ht,hfinal,rfl⟩

variable [Sha256Hasher]

theorem applyRepairEvent_live {event : RepairEvent} {n : Nat} (hlive : s.compactionReplay = none)
    (hclock : s.logicalEventClock + 1 < u64Bound) (hcontrol : event.isControl = false) :
    applyRepairEvent s event n = dispatchRepairEvent s.tick event n := by
  simp [applyRepairEvent, advanceClock, hlive, hclock, hcontrol, RecoveredState.tick]

theorem Inv.fresh (hinv : Inv s) (hseen : id ∉ s.seenReservationIds) :
    s.reservations[id]? = none ∧ s.transactions[id]? = none ∧ s.released[id]? = none := by
  have hunseen : (s.cell id).seen = false :=
    Bool.eq_false_iff.mpr fun hc => hseen (Std.ExtTreeSet.contains_iff_mem.mp hc)
  have hcell := (hinv.cells id).of_seen_eq_false hunseen
  exact ⟨congrArg Cell.record hcell,congrArg Cell.transaction hcell,congrArg Cell.tombstone hcell⟩

theorem applyReserveIntent_accepts (hrecord : RecordOk record) (hquiet : s.isQuiescent = true)
    (hsize : s.reservations.size < maxReservations) (hactive : id ∉ s.reservations)
    (hreleased : id ∉ s.released) (hseen : id ∉ s.seenReservationIds) :
    applyReserveIntent s id record.draft record.reservationBindingSha256 record.reservedCapacityBytes
      record.vaultId record.vaultIdentityFingerprint record.physicalParentFingerprint = .ok
      { s.setPhase id record .reservePending with
        seenReservationIds := s.seenReservationIds.insert id
        pending := some id } := by
  simp only [applyReserveIntent, require_bind_eq_ok, pure_eq_ok_iff]
  exact ⟨hrecord.draft,⟨hrecord.binding ▸ validSha256_reservationBinding record.draft,hrecord.binding,
    hrecord.capacity⟩,⟨hquiet,hsize⟩,⟨hactive,hreleased,hseen⟩,
    ⟨hrecord.vault,hrecord.identity,hrecord.parent⟩,rfl⟩

theorem applyPersistIntent_accepts (hquiet : s.isQuiescent = true)
    (hrecord : s.reservations[id]? = some record) (hphase : record.phase = .reserved)
    (hb : b.validateForRecord record = true) :
    applyPersistIntent s id b = .ok
      { s.setPhase id record (.persistPending b) with pending := some id } := by
  have hvalid := validate_of_validateForRecord hb
  have hresource : b.resourceSha256 = record.draft.expectedBackupSha256 := by
    simp only [RepairBinding.validate, RepairBinding.validateForRecord, Bool.and_eq_true,
      beq_iff_eq] at hvalid hb
    rw [hvalid.2, hb.1.1.2]
  simp only [applyPersistIntent, require_bind_eq_ok, okOr_bind_eq_ok, pure_eq_ok_iff]
  exact ⟨hvalid,hquiet,record,hrecord,hb,⟨hphase,hresource⟩,rfl⟩

theorem applyRetireIntent_accepts {r : RepairTransactionResolution} (hp : s.pending = none)
    (hat : DurableAt s id record b t) (hfinal : s.isFinal id t = true) (hr : t.resolution = some r) :
    applyRetireIntent s id = .ok
      { s.setPhase id record (.retirePending b r) with pending := some id } := by
  simp only [applyRetireIntent, require_bind_eq_ok, okOr_bind_eq_ok, pure_eq_ok_iff]
  exact ⟨hp,record,congrArg Cell.record hat.cell,b,by rw [hat.phase]; rfl,t,
    congrArg Cell.transaction hat.cell,hfinal,r,hr,rfl⟩

theorem DurableAt.settled (hat : DurableAt s id record b t) (hp : s.pending = none) :
    t.pendingResolution = none := by
  have h := hat.hasPending_eq
  rw [hp, RepairTransactionRecord.hasPending] at h
  simp at h
  exact h.1

theorem DurableAt.rollbackSettled {rollback : RepairRollbackTransactionRecord}
    (hat : DurableAt s id record b t) (hp : s.pending = none) (hr : t.rollback = some rollback) :
    rollback.pendingResolution = none := by
  have h := hat.hasPending_eq
  rw [hp, RepairTransactionRecord.hasPending, hr] at h
  simp at h
  exact h.2

theorem lease_of_status {status : RepairTransactionStatusPayload} {epoch : String}
    {lease : RepairWriteLeasePayload} (hstatus : StatusOf id b t status)
    (h : leaseOfStatus status epoch = .ok lease) :
    validSha256 epoch = true ∧ status.phase = .pending ∧
      ∃ resource, RepairResourceV1.fromExecution b.executionIntent.actionId b.resourceId = some resource ∧
        b.executionIntent.lockIdentity = canonicalRepairLockIdentityForResource
          b.executionIntent.targetRecoveryFingerprint resource := by
  simp only [leaseOfStatus, protocolSha256Str, okOr_bind_eq_ok, okOr_eq_ok] at h
  obtain ⟨epoch',hepoch,h⟩ := h
  have hvalid : validSha256 epoch = true := by
    simp only [Sha256.parse] at hepoch
    split_ifs at hepoch with hv
    exact hv
  simp only [RepairWriteLeasePayload.consumed, repairResourceFromTransaction, Option.bind_eq_bind,
    Option.bind_eq_some_iff, Option.ite_none_right_eq_some, hstatus.backup.executionIntent,
    hstatus.backup.resourceId, Option.some.injEq, exists_eq_left'] at h
  obtain ⟨resource,hresource,digest,_,hlease,rfl⟩ := h
  simp only [RepairWriteLeasePayload.validate, repairResourceFromTransaction,
    hstatus.backup.executionIntent, hstatus.backup.resourceId, Option.any_some, Option.bind_eq_bind,
    Option.bind_some, hresource, Bool.and_eq_true, beq_iff_eq] at hlease
  obtain ⟨_,⟨⟨⟨⟨⟨_,hphase⟩,_⟩,_⟩,hlock⟩,_⟩⟩ := hlease
  exact ⟨hvalid,hphase,resource,hresource,hlock⟩

theorem applyTransactionWriteLeaseConsume_accepts {status : RepairTransactionStatusPayload}
    {epoch : String} {lease : RepairWriteLeasePayload} (hp : s.pending = none)
    (hu : s.unresolvedTransaction = some id) (hat : DurableAt s id record b t)
    (hresolution : t.resolution = none)
    (hepoch : t.writeLease.all (fun lease => lease.bootEpochSha256 != epoch) = true)
    (hstatus : protocolTransactionStatusFromRecord id record t = .ok status)
    (hlease : leaseOfStatus status epoch = .ok lease) :
    applyTransactionWriteLeaseConsume s id status.transactionBindingSha256.asStr epoch
      lease.leaseBindingSha256.asStr = .ok (s.setTransaction id
        { t with writeLease := some ⟨epoch,lease.leaseBindingSha256.asStr⟩ }) := by
  obtain ⟨status',hstatus',hof⟩ := hat.status
  obtain rfl := Except.ok.inj (hstatus'.symm.trans hstatus)
  obtain ⟨hvalid,hphase,resource,hresource,hlock⟩ := lease_of_status hof hlease
  simp only [applyTransactionWriteLeaseConsume, require_bind_eq_ok, okOr_bind_eq_ok,
    asCorruptJournal_bind_eq_ok, pure_eq_ok_iff]
  exact ⟨⟨hp,hu⟩,⟨status'.transactionBindingSha256.canonical,hvalid,lease.leaseBindingSha256.canonical⟩,
    record,congrArg Cell.record hat.cell,b,by rw [hat.phase]; rfl,hat.bindingOk,
    resource,hresource,hlock,t,
    congrArg Cell.transaction hat.cell,⟨hresolution,hat.settled hp,hepoch⟩,status',
      hstatus,⟨hphase,rfl⟩,lease,
    hlease,rfl,rfl⟩

theorem applyTransactionResolveIntent_accepts {status : RepairTransactionStatusPayload}
    {r : RepairTransactionResolution} (hp : s.pending = none) (hu : s.unresolvedTransaction = some id)
    (hat : DurableAt s id record b t)
    (hstatus : protocolTransactionStatusFromRecord id record t = .ok status)
    (hchanges : t.resolution ≠ some r) (hr : r.validateAgainst b.executionIntent = true) :
    applyTransactionResolveIntent s id status.transactionBindingSha256.asStr status.phase r = .ok
      { s.setTransaction id
          { t with
            pendingResolution := some ⟨status.transactionBindingSha256.asStr,status.phase,r⟩ }
        with pending := some id } := by
  obtain ⟨status',hstatus',hof⟩ := hat.status
  obtain rfl := Except.ok.inj (hstatus'.symm.trans hstatus)
  have hunresolved : status'.phase ≠ .resolved := by
    have h := hat.isUnresolved_eq
    rw [hof.phase]
    simpa [RepairTransactionRecord.isUnresolved, hu] using h
  simp only [applyTransactionResolveIntent, require_bind_eq_ok, okOr_bind_eq_ok,
    asCorruptJournal_bind_eq_ok, pure_eq_ok_iff]
  exact ⟨⟨hp,status'.transactionBindingSha256.canonical,hu⟩,record,congrArg Cell.record hat.cell,b,
    by rw [hat.phase]; rfl,t,congrArg Cell.transaction hat.cell,status',hstatus,
    ⟨rfl,rfl,hunresolved,hchanges,hat.settled hp⟩,by rwa [validateResolutionAgainstIntent_eq],rfl⟩

theorem applyTransactionResolveComplete_accepts {p : PendingTransactionResolution}
    (hp : s.pending = some id) (hu : s.unresolvedTransaction = some id)
    (hat : DurableAt s id record b t) (hpend : t.pendingResolution = some p) :
    applyTransactionResolveComplete s id p.transactionBindingSha256 = .ok
      { s.setTransaction id
          { t with pendingResolution := none, resolution := some p.resolution } with
        unresolvedTransaction := if p.resolution.phase = .resolved then none else some id
        pending := none } := by
  have hpok := hat.transactionOk.pending p hpend
  obtain ⟨status,hstatus,hdigest⟩ := hpok.digest
  obtain ⟨status',hstatus',hof⟩ := hat.status
  obtain rfl := Except.ok.inj (hstatus'.symm.trans hstatus)
  have hvalid : validSha256 p.transactionBindingSha256 = true :=
    hdigest ▸ status'.transactionBindingSha256.canonical
  simp only [applyTransactionResolveComplete, require_bind_eq_ok, okOr_bind_eq_ok,
    asCorruptJournal_bind_eq_ok, pure_eq_ok_iff]
  refine ⟨⟨hp,hvalid,hu⟩,record,congrArg Cell.record hat.cell,t,congrArg Cell.transaction hat.cell,p,
    hpend,status',hstatus,⟨rfl,hdigest,by rw [hof.phase, hpok.phase]⟩,?_⟩
  simp [transactionPhase_eq, hu]

theorem applyRollbackBegin_accepts {source : RepairTransactionStatusPayload}
    {rollbackId : RepairRollbackId} {binding : RepairRollbackBindingV1} {digest : Sha256}
    (hquiet : s.isQuiescent = true) (hfresh : ∀ j, s.rollbackIdAt j ≠ some rollbackId)
    (hat : DurableAt s id record b t) (hnone : t.rollback = none)
    (hsource : protocolTransactionStatusFromRecord id record t = .ok source)
    (hbinding : binding.validateAgainst source = true)
    (hdigest : canonicalRepairRollbackTransactionBindingSha256 rollbackId source binding = some digest) :
    applyRollbackBegin s id source.transactionBindingSha256.asStr rollbackId digest.asStr binding = .ok
      { s.setRollback id t ⟨rollbackId,binding,none,none,none⟩ with
        unresolvedRollback := some id } := by
  obtain ⟨hp,_,_⟩ := isQuiescent_iff.mp hquiet
  obtain ⟨pending,hpending,hof⟩ : ∃ status, protocolRollbackStatusFromRecord id record t
      ⟨rollbackId,binding,none,none,none⟩ = .ok status ∧
      RollbackStatusOf source ⟨rollbackId,binding,none,none,none⟩ status :=
    protocolRollbackStatus_of_accepted (hat.settled hp) hsource hbinding (by simp)
  simp only [protocolRollbackStatusFromRecord, require_bind_eq_ok, hsource, ok_bind, okOr_eq_ok]
    at hpending
  have hsame : pending.rollbackTransactionBindingSha256 = digest := by
    have h := hof.digest
    rw [hdigest] at h
    exact (Option.some.inj h).symm
  simp only [applyRollbackBegin, require_bind_eq_ok, okOr_bind_eq_ok, asCorruptJournal_bind_eq_ok,
    pure_eq_ok_iff]
  exact ⟨⟨hquiet,hasRollback_eq_false.mpr hfresh,source.transactionBindingSha256.canonical,
    digest.canonical⟩,record,congrArg Cell.record hat.cell,by rw [hat.phase]; rfl,t,
    congrArg Cell.transaction hat.cell,⟨hat.settled hp,hnone⟩,source,hsource,hbinding,pending,hpending.2,
    ⟨rfl,by rw [hsame]⟩,rfl⟩

theorem applyRollbackWriteLeaseConsume_accepts {status : RepairRollbackTransactionStatusPayload}
    {rollback : RepairRollbackTransactionRecord} {epoch : String}
    {lease : RepairRollbackWriteLeasePayload} (hp : s.pending = none)
    (hslot : s.unresolvedRollback = some id) (hat : DurableAt s id record b t)
    (hr : t.rollback = some rollback) (hresolution : rollback.resolution = none)
    (hepoch : rollback.writeLease.all (fun lease => lease.bootEpochSha256 != epoch) = true)
    (hstatus : protocolRollbackStatusFromRecord id record t rollback = .ok status)
    (hlease : rollbackLeaseOfStatus status epoch = .ok lease) :
    applyRollbackWriteLeaseConsume s id rollback.rollbackId
      status.rollbackTransactionBindingSha256.asStr epoch lease.leaseBindingSha256.asStr = .ok
      (s.setRollback id t
        { rollback with writeLease := some ⟨epoch,lease.leaseBindingSha256.asStr⟩ }) := by
  obtain ⟨source,status',_,hstatus',hof⟩ := (hat.transactionOk.rollback rollback hr).status
  obtain rfl := Except.ok.inj (hstatus'.symm.trans hstatus)
  have hphase : status'.phase = .pending := by
    rw [hof.phase, rollbackTransactionPhase, hresolution]
    rfl
  have hvalid : validSha256 epoch = true := by
    simp only [rollbackLeaseOfStatus, protocolSha256Str, okOr_bind_eq_ok, Sha256.parse] at hlease
    obtain ⟨epoch',hepoch',_⟩ := hlease
    split_ifs at hepoch' with hv
    exact hv
  simp only [applyRollbackWriteLeaseConsume, require_bind_eq_ok, okOr_bind_eq_ok,
    asCorruptJournal_bind_eq_ok, pure_eq_ok_iff]
  exact ⟨⟨hp,hslot⟩,⟨status'.rollbackTransactionBindingSha256.canonical,hvalid,
    lease.leaseBindingSha256.canonical⟩,record,congrArg Cell.record hat.cell,t,
    congrArg Cell.transaction hat.cell,rollback,hr,
    ⟨rfl,hresolution,hat.rollbackSettled hp hr,hepoch⟩,status',hstatus,⟨hphase,rfl⟩,lease,hlease,rfl,rfl⟩

theorem applyRollbackResolveIntent_accepts {status : RepairRollbackTransactionStatusPayload}
    {rollback : RepairRollbackTransactionRecord} {r : RepairRollbackResolution} (hp : s.pending = none)
    (hslot : s.unresolvedRollback = some id) (hat : DurableAt s id record b t)
    (hr : t.rollback = some rollback)
    (hstatus : protocolRollbackStatusFromRecord id record t rollback = .ok status)
    (hchanges : rollback.resolution ≠ some r) (hvalid : r.validateAgainst status.source = true) :
    applyRollbackResolveIntent s id rollback.rollbackId
      status.rollbackTransactionBindingSha256.asStr status.phase r = .ok
      { s.setRollback id t
          { rollback with
            pendingResolution :=
              some ⟨status.rollbackTransactionBindingSha256.asStr,status.phase,r⟩ }
        with pending := some id } := by
  obtain ⟨source,status',_,hstatus',hof⟩ := (hat.transactionOk.rollback rollback hr).status
  obtain rfl := Except.ok.inj (hstatus'.symm.trans hstatus)
  have hunresolved : status'.phase ≠ .resolved := by
    have h := hat.rollbackUnresolved hslot hr
    rw [hof.phase]
    simpa using h
  simp only [applyRollbackResolveIntent, require_bind_eq_ok, okOr_bind_eq_ok,
    asCorruptJournal_bind_eq_ok, pure_eq_ok_iff]
  exact ⟨⟨hp,hslot,status'.rollbackTransactionBindingSha256.canonical⟩,record,
    congrArg Cell.record hat.cell,t,congrArg Cell.transaction hat.cell,rollback,hr,status',hstatus,
    ⟨rfl,rfl,rfl,hunresolved,hchanges,hat.rollbackSettled hp hr⟩,hvalid,rfl⟩

theorem applyRollbackResolveComplete_accepts {rollback : RepairRollbackTransactionRecord}
    {p : PendingRollbackResolution} (hp : s.pending = some id) (hslot : s.unresolvedRollback = some id)
    (hat : DurableAt s id record b t) (hr : t.rollback = some rollback)
    (hpend : rollback.pendingResolution = some p) :
    applyRollbackResolveComplete s id rollback.rollbackId p.rollbackTransactionBindingSha256 = .ok
      { s.setRollback id t
          { rollback with pendingResolution := none, resolution := some p.resolution } with
        unresolvedRollback := if p.resolution.phase = .resolved then none else some id
        pending := none } := by
  have hok := hat.transactionOk.rollback rollback hr
  obtain ⟨source,status,hsource,hstatus,hof⟩ := hok.status
  obtain ⟨source',hsource',_,_,hpendings⟩ := hok.source
  obtain rfl : source' = source := by rw [hsource] at hsource'; exact (Except.ok.inj hsource').symm
  have hpok := hpendings p hpend
  obtain ⟨digest,hdigest,hsame⟩ := hpok.digest
  have hstatusDigest : status.rollbackTransactionBindingSha256.asStr =
      p.rollbackTransactionBindingSha256 := by
    have h := hof.digest
    rw [hdigest] at h
    rw [← Option.some.inj h, hsame]
  have hvalid : validSha256 p.rollbackTransactionBindingSha256 = true := hsame ▸ digest.canonical
  simp only [applyRollbackResolveComplete, require_bind_eq_ok, okOr_bind_eq_ok,
    asCorruptJournal_bind_eq_ok, pure_eq_ok_iff]
  refine ⟨⟨hp,hslot,hvalid⟩,record,congrArg Cell.record hat.cell,t,congrArg Cell.transaction hat.cell,
    rollback,hr,p,hpend,status,hstatus,⟨rfl,rfl,hstatusDigest,by rw [hof.phase, hpok.phase]⟩,?_⟩
  simp [rollbackTransactionPhase_eq, hslot]

end KernAid.RepairStore
