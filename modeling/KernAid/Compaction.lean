import KernAid.Progress

/-! The snapshot that `compaction_events` writes for a state, and that its replay restores the state. -/

set_option autoImplicit false

namespace KernAid.RepairStore

open Encoding CrashLogic Protocol RecoveredState RepairTransactionRecord

/-- A tombstone within the retention window of the logical clock. -/
def RecoveredState.retains (s : RecoveredState) (tombstone : ReleaseTombstone) : Bool :=
  tombstone.releasedAtEvent ≤ s.logicalEventClock &&
    s.logicalEventClock - tombstone.releasedAtEvent ≤ releaseTombstoneEventTtl

def releaseOrder (a b : ReservationId × ReleaseTombstone) : Prop :=
  ((compare a.2.releasedAtEvent b.2.releasedAtEvent).then (compare a.1 b.1)).isLE = true

instance : DecidableRel releaseOrder := fun a b =>
  inferInstanceAs (Decidable
    (((compare a.2.releasedAtEvent b.2.releasedAtEvent).then (compare a.1 b.1)).isLE = true))

def retainedEntries (s : RecoveredState) : List (ReservationId × ReleaseTombstone) :=
  let retained := (s.released.toList.filter fun entry => s.retains entry.2).insertionSort releaseOrder
  retained.drop (retained.length - maxRetainedReleaseTombstones)

def retainedReleaseTombstones (s : RecoveredState) : IdMap ReleaseTombstone :=
  .ofList (retainedEntries s)

def appendReserveSnapshot (id : ReservationId) (record : ReservationRecord) : List RepairEvent :=
  [.reserveIntent id record.draft record.reservationBindingSha256 record.reservedCapacityBytes
      record.vaultId record.vaultIdentityFingerprint record.physicalParentFingerprint,
    .reserveComplete id]

def appendPersistSnapshot (id : ReservationId) (record : ReservationRecord) (binding : RepairBinding) :
    List RepairEvent :=
  [.persistIntent id binding,
    .persistComplete id (encodeHex record.draft.expectedBackupSha256.toList)
      record.draft.backupSizeBytes]

/-- The identifier of the one unresolved transaction, or of the one with an unresolved child. -/
def unresolvedId (transactions : IdMap RepairTransactionRecord) : Option ReservationId :=
  (transactions.toList.find? fun entry =>
    transactionPhase entry.2 != .resolved ||
      entry.2.rollback.any fun rollback => rollbackTransactionPhase rollback != .resolved).map Prod.fst

section Snapshot

variable [Sha256Hasher]

def appendRollbackSnapshot (id : ReservationId) (record : ReservationRecord)
    (transaction : RepairTransactionRecord) (rollback : RepairRollbackTransactionRecord) :
    Except RepairVaultStoreError (List RepairEvent) := do
  let source ← protocolTransactionStatusFromRecord id record transaction
  let pending ← okOr (RepairRollbackTransactionStatusPayload.pending rollback.rollbackId source
    rollback.binding) .corruptJournal
  let digest := pending.rollbackTransactionBindingSha256.asStr
  let lease := rollback.writeLease.toList.map fun lease =>
    .rollbackWriteLeaseConsume id rollback.rollbackId digest lease.bootEpochSha256
      lease.leaseBindingSha256
  let resolution := rollback.resolution.toList.flatMap fun resolution =>
    [.rollbackResolveIntent id rollback.rollbackId digest .pending resolution,
      .rollbackResolveComplete id rollback.rollbackId digest]
  return .rollbackBegin id source.transactionBindingSha256.asStr rollback.rollbackId digest
    rollback.binding :: (lease ++ resolution)

/-- The `if let Some(rollback)` of the transaction snapshot. -/
def appendChildSnapshot (id : ReservationId) (record : ReservationRecord)
    (transaction : RepairTransactionRecord) : Except RepairVaultStoreError (List RepairEvent) :=
  match transaction.rollback with
  | some rollback => appendRollbackSnapshot id record transaction rollback
  | none => .ok []

def appendTransactionSnapshot (id : ReservationId) (record : ReservationRecord)
    (transaction : RepairTransactionRecord) : Except RepairVaultStoreError (List RepairEvent) := do
  let pending ← protocolTransactionStatusFromRecord id record .fresh
  let digest := pending.transactionBindingSha256.asStr
  let lease := transaction.writeLease.toList.map fun lease =>
    .transactionWriteLeaseConsume id digest lease.bootEpochSha256 lease.leaseBindingSha256
  let resolution := transaction.resolution.toList.flatMap fun resolution =>
    [.transactionResolveIntent id digest .pending resolution,.transactionResolveComplete id digest]
  let rollback ← appendChildSnapshot id record transaction
  return lease ++ resolution ++ rollback

def appendReservationSnapshot (id : ReservationId) (record : ReservationRecord)
    (transaction : Option RepairTransactionRecord) :
    Except RepairVaultStoreError (List RepairEvent) :=
  match record.phase with
  | .reserved => .ok (appendReserveSnapshot id record)
  | .durable binding => do
    let transaction ← okOr transaction .corruptJournal
    let events ← appendTransactionSnapshot id record transaction
    return appendReserveSnapshot id record ++ appendPersistSnapshot id record binding ++ events
  | .reservePending | .persistPending _ | .cancelPending | .retirePending _ _ =>
    .error .reconciliationRequired

def appendReleaseSnapshot (id : ReservationId) (released : ReleaseTombstone) :
    Except RepairVaultStoreError (List RepairEvent) :=
  match released.operation, released.record.phase with
  | .cancel, .cancelPending => .ok (appendReserveSnapshot id released.record ++
      [.cancelIntent id,.cancelComplete id (some released.releasedAtEvent)])
  | .retire, .retirePending binding resolution => do
    let events ← appendTransactionSnapshot id { released.record with phase := .durable binding }
      ⟨some resolution,none,none,none⟩
    return appendReserveSnapshot id released.record ++
      appendPersistSnapshot id released.record binding ++ events ++
      [.retireIntent id,.retireComplete id (some released.releasedAtEvent)]
  | _, _ => .error .corruptJournal

/-- The unresolved transaction blocks every later reservation, so its snapshot comes last. -/
def appendUnresolvedSnapshot (reservations : IdMap ReservationRecord)
    (transactions : IdMap RepairTransactionRecord) :
    Except RepairVaultStoreError (List RepairEvent) :=
  match unresolvedId transactions with
  | some id => do
    let record ← okOr reservations[id]? .corruptJournal
    appendReservationSnapshot id record transactions[id]?
  | none => .ok []

def compactionEvents (reservations : IdMap ReservationRecord) (releases : IdMap ReleaseTombstone)
    (transactions : IdMap RepairTransactionRecord) (logicalEventClock generation : Nat)
    (previousAnchor : JournalAnchor) : Except RepairVaultStoreError (List RepairEvent) := do
  let settled ← (reservations.toList.filter fun entry =>
    some entry.1 != unresolvedId transactions).mapM fun entry =>
      appendReservationSnapshot entry.1 entry.2 transactions[entry.1]?
  let released ← releases.toList.mapM fun entry => appendReleaseSnapshot entry.1 entry.2
  let last ← appendUnresolvedSnapshot reservations transactions
  return .compactionBegin generation logicalEventClock reservations.size releases.size
      (encodeHex previousAnchor.toBytes) ::
    (settled.flatten ++ released.flatten ++ last ++ [.compactionComplete generation])

end Snapshot

/-- The checks on the replayed snapshot before it replaces the journal. -/
def validateCompactedState (state : RecoveredState) (reservations : IdMap ReservationRecord)
    (releases : IdMap ReleaseTombstone) (transactions : IdMap RepairTransactionRecord)
    (unresolvedTransaction unresolvedRollback : Option ReservationId)
    (logicalEventClock generation : Nat) (previousAnchor : JournalAnchor) :
    Except RepairVaultStoreError Unit :=
  let expectedSeen : IdSet := .ofList (reservations.keys ++ releases.keys)
  require (state.reservations = reservations ∧ state.released = releases ∧
    state.transactions = transactions ∧ state.unresolvedTransaction = unresolvedTransaction ∧
    state.unresolvedRollback = unresolvedRollback ∧ state.seenReservationIds = expectedSeen ∧
    state.pending = none ∧ state.logicalEventClock = logicalEventClock ∧
    state.compactionGeneration = generation ∧
    state.previousCompactionAnchor = some previousAnchor ∧ state.compactionReplay = none)
    .corruptJournal

variable [Sha256Hasher]

theorem replayFrom_append (s : RecoveredState) (n : Nat) (a b : List RepairEvent) :
    replayFrom s n (a ++ b) =
      (replayFrom s n a >>= fun s' => replayFrom s' (n + a.length) b) := by
  induction a generalizing s n with
  | nil => simp [replayFrom]
  | cons event a ih =>
    simp only [List.cons_append, replayFrom, List.length_cons]
    cases applyRepairEvent s event (n + 1) with
    | error e => rfl
    | ok s' =>
      rw [ok_bind, ok_bind, ih, show n + 1 + a.length = n + (a.length + 1) by omega]

theorem replayFrom_append_ok {s s' : RecoveredState} {n : Nat} {a b : List RepairEvent}
    {r : Except RepairVaultStoreError RecoveredState} (h : replayFrom s n a = .ok s')
    (hrest : replayFrom s' (n + a.length) b = r) : replayFrom s n (a ++ b) = r := by
  rw [replayFrom_append, h, ok_bind, hrest]

theorem applyRepairEvent_restoring {s : RecoveredState} (h : s.compactionReplay.isSome = true)
    (event : RepairEvent) (n : Nat) : applyRepairEvent s event n = dispatchRepairEvent s event n := by
  simp [applyRepairEvent, advanceClock, h]

theorem replayFrom_cons_ok {s s' : RecoveredState} {event : RepairEvent} {n : Nat}
    {rest : List RepairEvent} {r : Except RepairVaultStoreError RecoveredState}
    (hreplay : s.compactionReplay.isSome = true) (h : dispatchRepairEvent s event (n + 1) = .ok s')
    (hrest : replayFrom s' (n + 1) rest = r) : replayFrom s n (event :: rest) = r := by
  rw [replayFrom, applyRepairEvent_restoring hreplay, h, ok_bind, hrest]

/-- The state with a transaction restored at an identifier, and the slots that name it. -/
def RecoveredState.withTransaction (s : RecoveredState) (id : ReservationId)
    (t : RepairTransactionRecord) : RecoveredState :=
  { s.setTransaction id t with
    unresolvedTransaction := if t.isUnresolved then some id else none
    unresolvedRollback := if t.hasUnresolvedRollback then some id else none }

def RecoveredState.withReservation (s : RecoveredState) (id : ReservationId)
    (record : ReservationRecord) : RecoveredState :=
  { s with
    reservations := s.reservations.insert id record
    seenReservationIds := s.seenReservationIds.insert id }

section Snapshots

variable {s : RecoveredState} {id : ReservationId} {record : ReservationRecord} {b : RepairBinding}
  {t : RepairTransactionRecord} {n : Nat}

theorem replay_reserveSnapshot (hreplay : s.compactionReplay.isSome = true)
    (hquiet : s.isQuiescent = true) (hrecord : RecordOk record)
    (hsize : s.reservations.size < maxReservations) (hactive : id ∉ s.reservations)
    (hreleased : id ∉ s.released) (hseen : id ∉ s.seenReservationIds) :
    replayFrom s n (appendReserveSnapshot id record) =
      .ok (s.withReservation id { record with phase := .reserved }) := by
  obtain ⟨hp,_,_⟩ := isQuiescent_iff.mp hquiet
  refine replayFrom_cons_ok hreplay
    (applyReserveIntent_accepts hrecord hquiet hsize hactive hreleased hseen)
    (replayFrom_cons_ok hreplay
      (applyReserveComplete_accepts rfl Std.ExtTreeMap.getElem?_insert_self rfl) ?_)
  simp [replayFrom, setPhase, withReservation, hp]

theorem replay_persistSnapshot (hreplay : s.compactionReplay.isSome = true)
    (hquiet : s.isQuiescent = true)
    (hreserved : s.reservations[id]? = some { record with phase := .reserved })
    (ht : s.transactions[id]? = none) (hb : b.validateForRecord record = true) :
    replayFrom s n (appendPersistSnapshot id record b) =
      .ok ((s.setPhase id record (.durable b)).withTransaction id .fresh) := by
  obtain ⟨hp,hu,hr⟩ := isQuiescent_iff.mp hquiet
  refine replayFrom_cons_ok hreplay (applyPersistIntent_accepts hquiet hreserved rfl hb)
    (replayFrom_cons_ok hreplay
      (@applyPersistComplete_accepts _ id { record with phase := .persistPending b } b rfl
        Std.ExtTreeMap.getElem?_insert_self rfl ht hu) ?_)
  simp [replayFrom, setPhase, withTransaction,
    setTransaction, hp, hr, fresh,
    isUnresolved, hasUnresolvedRollback,
    transactionPhase]

structure Restoring (s : RecoveredState) (id : ReservationId) (record : ReservationRecord)
    (b : RepairBinding) (t : RepairTransactionRecord) : Prop where
  inv : Inv (s.withTransaction id t)
  replaying : s.compactionReplay.isSome = true
  pending : (s.withTransaction id t).pending = none
  durable : DurableAt (s.withTransaction id t) id record b t

namespace Restoring

variable {rollbackId : RepairRollbackId} {binding : RepairRollbackBindingV1}

theorem record_at (h : Restoring s id record b t) : s.reservations[id]? = some record :=
  congrArg Cell.record h.durable.cell

theorem next {t' : RepairTransactionRecord} {events : List RepairEvent}
    (h : Restoring s id record b t)
    (hreplay : replayFrom (s.withTransaction id t) n events = .ok (s.withTransaction id t')) :
    Restoring s id record b t' := by
  have hinv := replayFrom_inv h.inv hreplay
  have hbinding : record.phase.durableBinding = some b := by rw [h.durable.phase]; rfl
  exact ⟨hinv,h.replaying,h.pending,
    hinv.durableAt h.record_at hbinding Std.ExtTreeMap.getElem?_insert_self⟩

theorem lease {status : RepairTransactionStatusPayload} {lease : ConsumedWriteLease}
    (h : Restoring s id record b .fresh)
    (hstatus : protocolTransactionStatusFromRecord id record .fresh = .ok status)
    (hlease : writeLeaseIsConsistent id record ⟨none,none,some lease,none⟩ = true) :
    replayFrom (s.withTransaction id .fresh) n [.transactionWriteLeaseConsume id
        status.transactionBindingSha256.asStr lease.bootEpochSha256 lease.leaseBindingSha256] =
      .ok (s.withTransaction id ⟨none,none,some lease,none⟩) := by
  simp only [writeLeaseIsConsistent, Option.all_some, Option.any_eq_true, toOption_eq_some,
    bind_ok_iff, hstatus, Except.ok.injEq, exists_eq_left', beq_iff_eq] at hlease
  obtain ⟨payload,hpayload,hdigest⟩ := hlease
  have haccepts := applyTransactionWriteLeaseConsume_accepts h.pending rfl h.durable rfl rfl hstatus
    hpayload
  rw [hdigest] at haccepts
  refine replayFrom_cons_ok h.replaying haccepts ?_
  simp [replayFrom, withTransaction, setTransaction,
    fresh, isUnresolved,
    hasUnresolvedRollback, transactionPhase]

theorem resolve {status : RepairTransactionStatusPayload} {r : RepairTransactionResolution}
    {lease : Option ConsumedWriteLease} (h : Restoring s id record b ⟨none,none,lease,none⟩)
    (hstatus : protocolTransactionStatusFromRecord id record .fresh = .ok status)
    (hr : r.validateAgainst b.executionIntent = true) :
    replayFrom (s.withTransaction id ⟨none,none,lease,none⟩) n
        [.transactionResolveIntent id status.transactionBindingSha256.asStr .pending r,
          .transactionResolveComplete id status.transactionBindingSha256.asStr] =
      .ok (s.withTransaction id ⟨some r,none,lease,none⟩) := by
  have hstatus' : protocolTransactionStatusFromRecord id record ⟨none,none,lease,none⟩ = .ok status := by
    rw [← hstatus]
    exact transactionStatus_congr rfl
  obtain ⟨status',hsame,hof⟩ := h.durable.status
  obtain rfl : status' = status := by rw [hstatus'] at hsame; exact (Except.ok.inj hsame).symm
  have hphase : status'.phase = .pending := hof.phase
  have hintent := applyTransactionResolveIntent_accepts h.pending rfl h.durable hstatus' (by simp) hr
  rw [hphase] at hintent
  have hinv := applyTransactionResolveIntent_inv h.inv hintent
  have hbinding : record.phase.durableBinding = some b := by rw [h.durable.phase]; rfl
  have hat := hinv.durableAt h.record_at hbinding Std.ExtTreeMap.getElem?_insert_self
  refine replayFrom_cons_ok h.replaying hintent
    (replayFrom_cons_ok h.replaying (applyTransactionResolveComplete_accepts rfl rfl hat rfl) ?_)
  have hp : s.pending = none := h.pending
  simp [replayFrom, withTransaction, setTransaction, hp,
    isUnresolved, hasUnresolvedRollback,
    transactionPhase_eq]

theorem rollbackBegin {source : RepairTransactionStatusPayload} {digest : Sha256}
    (h : Restoring s id record b { t with rollback := none })
    (hfresh : ∀ j, (s.withTransaction id { t with rollback := none }).rollbackIdAt j ≠ some rollbackId)
    (hcommitted : t.resolution.map RepairTransactionResolution.outcome = some .committedAfter)
    (hsource : protocolTransactionStatusFromRecord id record t = .ok source)
    (hbinding : binding.validateAgainst source = true)
    (hdigest : canonicalRepairRollbackTransactionBindingSha256 rollbackId source binding = some digest) :
    replayFrom (s.withTransaction id { t with rollback := none }) n [.rollbackBegin id
        source.transactionBindingSha256.asStr rollbackId digest.asStr binding] =
      .ok (s.withTransaction id { t with rollback := some ⟨rollbackId,binding,none,none,none⟩ }) := by
  have hresolved : transactionPhase t = .resolved := phase_of_committed hcommitted
  have hresolved' : ∀ rollback, transactionPhase { t with rollback := rollback } = .resolved :=
    fun _ => (transactionPhase_congr rfl).trans hresolved
  have hquiet : (s.withTransaction id { t with rollback := none }).isQuiescent = true := by
    have hp : s.pending = none := h.pending
    simp [isQuiescent_iff, withTransaction, setTransaction, hp,
      isUnresolved, hasUnresolvedRollback, hresolved']
  have hsource' : protocolTransactionStatusFromRecord id record { t with rollback := none } =
      .ok source := (transactionStatus_congr rfl).trans hsource
  refine replayFrom_cons_ok h.replaying
    (applyRollbackBegin_accepts hquiet hfresh h.durable rfl hsource' hbinding hdigest) ?_
  simp [replayFrom, withTransaction, setRollback,
    setTransaction, isUnresolved,
    hasUnresolvedRollback, hresolved', rollbackTransactionPhase]

theorem rollbackLease {status : RepairRollbackTransactionStatusPayload} {lease : ConsumedWriteLease}
    (h : Restoring s id record b { t with rollback := some ⟨rollbackId,binding,none,none,none⟩ })
    (hcommitted : t.resolution.map RepairTransactionResolution.outcome = some .committedAfter)
    (hstatus : protocolRollbackStatusFromRecord id record t
      ⟨rollbackId,binding,none,none,none⟩ = .ok status)
    (hlease : rollbackWriteLeaseIsConsistent id record t
      ⟨rollbackId,binding,none,none,some lease⟩ = true) :
    replayFrom (s.withTransaction id
        { t with rollback := some ⟨rollbackId,binding,none,none,none⟩ }) n
        [.rollbackWriteLeaseConsume id rollbackId status.rollbackTransactionBindingSha256.asStr
          lease.bootEpochSha256 lease.leaseBindingSha256] =
      .ok (s.withTransaction id
        { t with rollback := some ⟨rollbackId,binding,none,none,some lease⟩ }) := by
  have hresolved : transactionPhase t = .resolved := phase_of_committed hcommitted
  have hresolved' : ∀ rollback, transactionPhase { t with rollback := rollback } = .resolved :=
    fun _ => (transactionPhase_congr rfl).trans hresolved
  simp only [rollbackWriteLeaseIsConsistent, Option.all_some, Option.any_eq_true, toOption_eq_some,
    bind_ok_iff, hstatus, Except.ok.injEq, exists_eq_left', beq_iff_eq] at hlease
  obtain ⟨payload,hpayload,hdigest⟩ := hlease
  have hstatus' : protocolRollbackStatusFromRecord id record
      { t with rollback := some ⟨rollbackId,binding,none,none,none⟩ }
      ⟨rollbackId,binding,none,none,none⟩ = .ok status :=
    (rollbackStatus_congr rfl rfl rfl rfl rfl).trans hstatus
  have haccepts := applyRollbackWriteLeaseConsume_accepts h.pending rfl h.durable rfl rfl rfl hstatus'
    hpayload
  rw [hdigest] at haccepts
  refine replayFrom_cons_ok h.replaying haccepts ?_
  simp [replayFrom, withTransaction, setRollback,
    setTransaction, isUnresolved,
    hasUnresolvedRollback, hresolved', rollbackTransactionPhase]

theorem rollbackResolve {status : RepairRollbackTransactionStatusPayload}
    {lease : Option ConsumedWriteLease} {r : RepairRollbackResolution}
    (h : Restoring s id record b { t with rollback := some ⟨rollbackId,binding,none,none,lease⟩ })
    (hcommitted : t.resolution.map RepairTransactionResolution.outcome = some .committedAfter)
    (hstatus : protocolRollbackStatusFromRecord id record t
      ⟨rollbackId,binding,none,none,none⟩ = .ok status)
    (hr : r.validateAgainst status.source = true) :
    replayFrom (s.withTransaction id
        { t with rollback := some ⟨rollbackId,binding,none,none,lease⟩ }) n
        [.rollbackResolveIntent id rollbackId status.rollbackTransactionBindingSha256.asStr .pending r,
          .rollbackResolveComplete id rollbackId status.rollbackTransactionBindingSha256.asStr] =
      .ok (s.withTransaction id
        { t with rollback := some ⟨rollbackId,binding,some r,none,lease⟩ }) := by
  have hresolved : transactionPhase t = .resolved := phase_of_committed hcommitted
  have hresolved' : ∀ rollback, transactionPhase { t with rollback := rollback } = .resolved :=
    fun _ => (transactionPhase_congr rfl).trans hresolved
  have hstatus' : protocolRollbackStatusFromRecord id record
      { t with rollback := some ⟨rollbackId,binding,none,none,lease⟩ }
      ⟨rollbackId,binding,none,none,lease⟩ = .ok status :=
    (rollbackStatus_congr rfl rfl rfl rfl rfl).trans hstatus
  have hphase : status.phase = .pending := by
    obtain ⟨source,status',_,hsame,hof⟩ := (h.durable.transactionOk.rollback _ rfl).status
    obtain rfl : status' = status := by rw [hstatus'] at hsame; exact (Except.ok.inj hsame).symm
    exact hof.phase
  have hintent := applyRollbackResolveIntent_accepts h.pending rfl h.durable rfl hstatus' (by simp) hr
  rw [hphase] at hintent
  have hinv := applyRollbackResolveIntent_inv h.inv hintent
  have hbinding : record.phase.durableBinding = some b := by rw [h.durable.phase]; rfl
  have hat := hinv.durableAt h.record_at hbinding Std.ExtTreeMap.getElem?_insert_self
  refine replayFrom_cons_ok h.replaying hintent
    (replayFrom_cons_ok h.replaying (applyRollbackResolveComplete_accepts rfl rfl hat rfl rfl) ?_)
  have hp : s.pending = none := h.pending
  simp [replayFrom, withTransaction, setRollback,
    setTransaction, hp, isUnresolved,
    hasUnresolvedRollback, hresolved', rollbackTransactionPhase_eq]

end Restoring

theorem replay_rollbackSnapshot {rollback : RepairRollbackTransactionRecord}
    (h : Restoring s id record b { t with rollback := none })
    (hok : RollbackOk id record t rollback) (hpend : rollback.pendingResolution = none)
    (hfresh : ∀ j, (s.withTransaction id { t with rollback := none }).rollbackIdAt j ≠
      some rollback.rollbackId) :
    ∃ events, appendRollbackSnapshot id record t rollback = .ok events ∧ events.length ≤ 4 ∧
      ∀ n, replayFrom (s.withTransaction id { t with rollback := none }) n events =
        .ok (s.withTransaction id { t with rollback := some rollback }) := by
  obtain ⟨rollbackId,binding,resolution,pendingResolution,writeLease⟩ := rollback
  obtain rfl : pendingResolution = none := hpend
  obtain ⟨source,hsource,hbinding,hresolution,_⟩ := hok.source
  obtain ⟨status,hstatus,hof⟩ : ∃ status, protocolRollbackStatusFromRecord id record t
      ⟨rollbackId,binding,none,none,none⟩ = .ok status ∧
      RollbackStatusOf source ⟨rollbackId,binding,none,none,none⟩ status :=
    protocolRollbackStatus_of_accepted hok.settled hsource hbinding (by simp)
  have hpending : RepairRollbackTransactionStatusPayload.pending rollbackId source binding =
      some status := by
    simp only [protocolRollbackStatusFromRecord, require_bind_eq_ok, hsource, ok_bind, okOr_eq_ok]
      at hstatus
    exact hstatus.2
  have hbegin := fun n => h.rollbackBegin (n := n) hfresh hok.committed hsource hbinding hof.digest
  have hlease : ∀ n, replayFrom (s.withTransaction id
      { t with rollback := some ⟨rollbackId,binding,none,none,none⟩ }) n
      (writeLease.toList.map fun lease => .rollbackWriteLeaseConsume id rollbackId
        status.rollbackTransactionBindingSha256.asStr lease.bootEpochSha256 lease.leaseBindingSha256) =
      .ok (s.withTransaction id
        { t with rollback := some ⟨rollbackId,binding,none,none,writeLease⟩ }) := by
    intro n
    cases writeLease with
    | none => rfl
    | some lease =>
      have hconsistent : rollbackWriteLeaseIsConsistent id record t
          ⟨rollbackId,binding,none,none,some lease⟩ = true :=
        (rollbackWriteLease_congr rfl rfl rfl rfl rfl).trans hok.lease
      exact (h.next (hbegin 0)).rollbackLease hok.committed hstatus hconsistent
  have hresolve : ∀ n, replayFrom (s.withTransaction id
      { t with rollback := some ⟨rollbackId,binding,none,none,writeLease⟩ }) n
      (resolution.toList.flatMap fun resolution =>
        [.rollbackResolveIntent id rollbackId status.rollbackTransactionBindingSha256.asStr .pending
          resolution,
          .rollbackResolveComplete id rollbackId status.rollbackTransactionBindingSha256.asStr]) =
      .ok (s.withTransaction id
        { t with rollback := some ⟨rollbackId,binding,resolution,none,writeLease⟩ }) := by
    intro n
    cases resolution with
    | none => rfl
    | some r =>
      have hr : r.validateAgainst status.source = true := by
        rw [hof.ofSource]
        exact hresolution r rfl
      exact ((h.next (hbegin 0)).next (hlease 0)).rollbackResolve hok.committed hstatus hr
  refine ⟨_,by simp only [appendRollbackSnapshot, hsource, ok_bind, hpending, okOr_some]; rfl,?_,
    fun n => ?_⟩
  · cases writeLease <;> cases resolution <;> simp
  · exact replayFrom_append_ok (hbegin n) (replayFrom_append_ok (hlease _) (hresolve _))

omit [Sha256Hasher] in
theorem rollbackIdAt_withTransaction (t : RepairTransactionRecord) (j : ReservationId) :
    (s.withTransaction id t).rollbackIdAt j =
      if j = id then t.rollback.map RepairRollbackTransactionRecord.rollbackId else s.rollbackIdAt j := by
  by_cases hj : j = id
  · simp [rollbackIdAt, withTransaction, setTransaction, hj]
  · simp only [rollbackIdAt, withTransaction,
      setTransaction, getElem?_insert_ne hj, hj, if_false]

theorem replay_transactionSnapshot (h : Restoring s id record b .fresh)
    (ht : TransactionOk id record b t) (hpend : t.hasPending = false)
    (hfresh : ∀ rollback, t.rollback = some rollback → ∀ j, j ≠ id →
      s.rollbackIdAt j ≠ some rollback.rollbackId) :
    ∃ events, appendTransactionSnapshot id record t = .ok events ∧ events.length ≤ 7 ∧
      ∀ n, replayFrom (s.withTransaction id .fresh) n events = .ok (s.withTransaction id t) := by
  obtain ⟨resolution,pendingResolution,writeLease,rollback⟩ := t
  simp only [hasPending, Bool.or_eq_false_iff,
    Option.isSome_eq_false_iff, Option.isNone_iff_eq_none] at hpend
  obtain ⟨rfl,hpendRollback⟩ := hpend
  obtain ⟨status,hstatus,_⟩ := h.durable.status
  have hlease : ∀ n, replayFrom (s.withTransaction id .fresh) n
      (writeLease.toList.map fun lease => .transactionWriteLeaseConsume id
        status.transactionBindingSha256.asStr lease.bootEpochSha256 lease.leaseBindingSha256) =
      .ok (s.withTransaction id ⟨none,none,writeLease,none⟩) := by
    intro n
    cases writeLease with
    | none => rfl
    | some lease => exact h.lease hstatus ((writeLease_congr rfl).trans ht.lease)
  have hresolve : ∀ n, replayFrom (s.withTransaction id ⟨none,none,writeLease,none⟩) n
      (resolution.toList.flatMap fun resolution =>
        [.transactionResolveIntent id status.transactionBindingSha256.asStr .pending resolution,
          .transactionResolveComplete id status.transactionBindingSha256.asStr]) =
      .ok (s.withTransaction id ⟨resolution,none,writeLease,none⟩) := by
    intro n
    cases resolution with
    | none => rfl
    | some r => exact (h.next (hlease 0)).resolve hstatus (ht.resolution r rfl)
  have hstart := (h.next (hlease 0)).next (hresolve 0)
  have hrollback : ∃ events, appendChildSnapshot id record ⟨resolution,none,writeLease,rollback⟩ =
      .ok events ∧ events.length ≤ 4 ∧
      ∀ n, replayFrom (s.withTransaction id ⟨resolution,none,writeLease,none⟩) n events =
        .ok (s.withTransaction id ⟨resolution,none,writeLease,rollback⟩) := by
    cases rollback with
    | none => exact ⟨[],rfl,by simp,fun _ => rfl⟩
    | some rollback =>
      refine replay_rollbackSnapshot (t := ⟨resolution,none,writeLease,some rollback⟩) hstart
        (ht.rollback rollback rfl) (by simpa using hpendRollback) (fun j => ?_)
      rw [rollbackIdAt_withTransaction]
      split_ifs with hj
      · simp
      · exact hfresh rollback rfl j hj
  obtain ⟨events,hevents,hlength,hreplay⟩ := hrollback
  refine ⟨_,?_,?_,fun n => replayFrom_append_ok (replayFrom_append_ok (hlease n) (hresolve _))
    (hreplay _)⟩
  · simp only [appendTransactionSnapshot, hstatus, ok_bind, hevents]
    rfl
  · cases writeLease <;> cases resolution <;> simp <;> omega

/-- A state that a snapshot may continue: nothing is pending or unresolved in it. -/
structure Continues (s : RecoveredState) : Prop where
  inv : Inv s
  replaying : s.compactionReplay.isSome = true
  quiet : s.isQuiescent = true

theorem Continues.fresh (h : Continues s) (hseen : id ∉ s.seenReservationIds) :
    s.reservations[id]? = none ∧ s.transactions[id]? = none ∧ s.released[id]? = none :=
  h.inv.fresh hseen

theorem Continues.reserve (h : Continues s) (hseen : id ∉ s.seenReservationIds)
    (hsize : s.reservations.size < maxReservations) (hrecord : RecordOk record) :
    replayFrom s n (appendReserveSnapshot id record) =
      .ok (s.withReservation id { record with phase := .reserved }) := by
  obtain ⟨hactive,_,hreleased⟩ := h.fresh hseen
  exact replay_reserveSnapshot h.replaying h.quiet hrecord hsize
    (by simp [Std.ExtTreeMap.mem_iff_isSome_getElem?, hactive])
    (by simp [Std.ExtTreeMap.mem_iff_isSome_getElem?, hreleased]) hseen

theorem Continues.persist (h : Continues s) (hseen : id ∉ s.seenReservationIds)
    (hsize : s.reservations.size < maxReservations) (hrecord : RecordOk record)
    (hb : b.validateForRecord record = true) :
    (∀ n, replayFrom s n (appendReserveSnapshot id record ++ appendPersistSnapshot id record b) =
        .ok ((s.withReservation id { record with phase := .durable b }).withTransaction id .fresh)) ∧
      Restoring (s.withReservation id { record with phase := .durable b }) id
        { record with phase := .durable b } b .fresh := by
  obtain ⟨_,htransaction,_⟩ := h.fresh hseen
  obtain ⟨hp,_,_⟩ := isQuiescent_iff.mp h.quiet
  have hreserve : ∀ n, replayFrom s n (appendReserveSnapshot id record) =
      .ok (s.withReservation id { record with phase := .reserved }) :=
    fun _ => h.reserve hseen hsize hrecord
  have hpersist : ∀ n, replayFrom (s.withReservation id { record with phase := .reserved }) n
      (appendPersistSnapshot id record b) =
      .ok ((s.withReservation id { record with phase := .durable b }).withTransaction id .fresh) := by
    intro n
    have hreplay := replay_persistSnapshot (n := n) (s := s.withReservation id
      { record with phase := .reserved }) h.replaying h.quiet Std.ExtTreeMap.getElem?_insert_self
      htransaction hb
    rw [hreplay]
    simp [withReservation, setPhase]
  have hreplay : ∀ n, replayFrom s n
      (appendReserveSnapshot id record ++ appendPersistSnapshot id record b) =
      .ok ((s.withReservation id { record with phase := .durable b }).withTransaction id .fresh) :=
    fun n => replayFrom_append_ok (hreserve n) (hpersist _)
  have hinv := replayFrom_inv h.inv (hreplay 0)
  exact ⟨hreplay,hinv,h.replaying,hp,hinv.durableAt Std.ExtTreeMap.getElem?_insert_self rfl
    Std.ExtTreeMap.getElem?_insert_self⟩

/-- A settled reservation of the state that is being compacted. -/
inductive EntryOk (id : ReservationId) (record : ReservationRecord) :
    Option RepairTransactionRecord → Prop
  | reserved (hphase : record.phase = .reserved) (hrecord : RecordOk record) : EntryOk id record none
  | durable {b : RepairBinding} {t : RepairTransactionRecord} (hphase : record.phase = .durable b)
      (hrecord : RecordOk record) (hb : b.validateForRecord record = true)
      (ht : TransactionOk id record b t) (hpend : t.hasPending = false) : EntryOk id record (some t)

def RecoveredState.restored (s : RecoveredState) (id : ReservationId) (record : ReservationRecord) :
    Option RepairTransactionRecord → RecoveredState
  | none => s.withReservation id record
  | some t => (s.withReservation id record).withTransaction id t

theorem replay_reservationSnapshot {transaction : Option RepairTransactionRecord} (h : Continues s)
    (hseen : id ∉ s.seenReservationIds) (hsize : s.reservations.size < maxReservations)
    (hentry : EntryOk id record transaction)
    (hfresh : ∀ t ∈ transaction, ∀ rollback, t.rollback = some rollback → ∀ j, j ≠ id →
      s.rollbackIdAt j ≠ some rollback.rollbackId) :
    ∃ events, appendReservationSnapshot id record transaction = .ok events ∧ events.length ≤ 11 ∧
      ∀ n, replayFrom s n events = .ok (s.restored id record transaction) := by
  cases hentry with
  | reserved hphase hrecord =>
    have hsame : { record with phase := .reserved } = record := by rw [← hphase]
    refine ⟨appendReserveSnapshot id record,by rw [appendReservationSnapshot, hphase],
      by simp [appendReserveSnapshot],fun n => ?_⟩
    rw [h.reserve hseen hsize hrecord, hsame]
    rfl
  | @durable b t hphase hrecord hb ht hpend =>
    have hsame : { record with phase := .durable b } = record := by rw [← hphase]
    obtain ⟨hpersist,hrestoring⟩ := h.persist hseen hsize hrecord hb
    rw [hsame] at hrestoring
    simp only [hsame] at hpersist
    obtain ⟨events,hevents,hlength,hreplay⟩ :=
      replay_transactionSnapshot hrestoring ht hpend (hfresh t rfl)
    refine ⟨_,by simp only [appendReservationSnapshot, hphase, okOr_some, ok_bind, hevents]; rfl,?_,
      fun n => replayFrom_append_ok (hpersist n) (hreplay _)⟩
    simp only [appendReserveSnapshot, appendPersistSnapshot, List.length_append, List.length_cons,
      List.length_nil]
    omega

def RecoveredState.withRelease (s : RecoveredState) (id : ReservationId)
    (tombstone : ReleaseTombstone) : RecoveredState :=
  { s with
    released := s.released.insert id tombstone
    seenReservationIds := s.seenReservationIds.insert id }

omit [Sha256Hasher] in
theorem releaseStamp_restoring {stamp : Nat} (hreplay : s.compactionReplay.isSome = true)
    (hstamp : stamp ≤ s.logicalEventClock)
    (hage : s.logicalEventClock - stamp ≤ releaseTombstoneEventTtl) :
    releaseStamp s (some stamp) = some stamp := by
  obtain ⟨replay,hreplay⟩ := Option.isSome_iff_exists.mp hreplay
  simp [releaseStamp, hreplay, hstamp, hage]

theorem replay_releaseSnapshot {tombstone : ReleaseTombstone} (h : Continues s)
    (hseen : id ∉ s.seenReservationIds) (hsize : s.reservations.size < maxReservations)
    (hreleased : s.released.size < maxReleaseTombstones) (hok : TombstoneOk tombstone)
    (hretained : s.retains tombstone = true) :
    ∃ events, appendReleaseSnapshot id tombstone = .ok events ∧ events.length ≤ 13 ∧
      ∀ n, replayFrom s n events = .ok (s.withRelease id tombstone) := by
  obtain ⟨hactive,htransaction,hunreleased⟩ := h.fresh hseen
  obtain ⟨hp,hu,hr⟩ := isQuiescent_iff.mp h.quiet
  have hnot : id ∉ s.released := by simp [Std.ExtTreeMap.mem_iff_isSome_getElem?, hunreleased]
  simp only [retains, Bool.and_eq_true, decide_eq_true_eq] at hretained
  cases hok with
  | @cancelled record stamp hrecord hphase =>
    have hsame : { record with phase := .cancelPending } = record := by rw [← hphase]
    have hreserve : ∀ n, replayFrom s n (appendReserveSnapshot id record) =
        .ok (s.withReservation id { record with phase := .reserved }) :=
      fun _ => h.reserve hseen hsize hrecord
    refine ⟨_,by simp only [appendReleaseSnapshot, hphase]; rfl,by simp [appendReserveSnapshot],
      fun n => ?_⟩
    refine replayFrom_append_ok (hreserve n) (replayFrom_cons_ok h.replaying
      (applyCancelIntent_accepts hp Std.ExtTreeMap.getElem?_insert_self rfl)
      (replayFrom_cons_ok h.replaying (applyCancelComplete_accepts
        (releaseStamp_restoring h.replaying hretained.1 hretained.2) rfl hreleased hnot
        Std.ExtTreeMap.getElem?_insert_self rfl) ?_))
    simp [replayFrom, withRelease, withReservation,
      setPhase, erase_of_getElem? hactive, hsame, hp]
  | @retired record stamp b r hrecord hphase hb hresolution hfinal =>
    have hsame : { record with phase := .retirePending b r } = record := by rw [← hphase]
    obtain ⟨hpersist,hrestoring⟩ := h.persist hseen hsize hrecord hb
    have ht : TransactionOk id { record with phase := .durable b } b ⟨some r,none,none,none⟩ :=
      ⟨by simpa using hresolution,rfl,by simp,by simp⟩
    obtain ⟨events,hevents,hlength,hreplay⟩ := replay_transactionSnapshot hrestoring ht rfl (by simp)
    have hrestored := hrestoring.next (hreplay 0)
    have hresolved : transactionPhase ⟨some r,none,none,none⟩ = .resolved := by
      rw [transactionPhase_eq]
      exact hfinal
    have hfinal' : isFinal ((s.withReservation id
        { record with phase := .durable b }).withTransaction id ⟨some r,none,none,none⟩) id
        ⟨some r,none,none,none⟩ = true := by
      simp [isFinal, withTransaction, hresolved,
        isUnresolved, hasUnresolvedRollback]
    refine ⟨_,by simp only [appendReleaseSnapshot, hphase, hevents, ok_bind]; rfl,?_,fun n => ?_⟩
    · simp only [appendReserveSnapshot, appendPersistSnapshot, List.length_append, List.length_cons,
        List.length_nil]
      omega
    · refine replayFrom_append_ok (replayFrom_append_ok (hpersist n) (hreplay _))
        (replayFrom_cons_ok h.replaying
          (applyRetireIntent_accepts hrestored.pending hrestored.durable hfinal' rfl)
          (replayFrom_cons_ok h.replaying (applyRetireComplete_accepts
            (releaseStamp_restoring h.replaying hretained.1 hretained.2) rfl hreleased hnot
            Std.ExtTreeMap.getElem?_insert_self rfl Std.ExtTreeMap.getElem?_insert_self hfinal') ?_))
      simp [replayFrom, withRelease, withReservation,
        withTransaction, setTransaction,
        setPhase, erase_of_getElem? hactive, erase_of_getElem? htransaction, hsame, hp,
        hu, hr, isUnresolved, hasUnresolvedRollback,
        hresolved]

end Snapshots

end KernAid.RepairStore
