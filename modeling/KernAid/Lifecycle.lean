import KernAid.Replay
import KernAid.WireAgreement

/-! The lifecycle of one reservation as an abstract machine, and the invariant of the recovered state. -/

set_option autoImplicit false

namespace KernAid.RepairStore

open Encoding CrashLogic Protocol

structure Cell where
  record : Option ReservationRecord
  transaction : Option RepairTransactionRecord
  tombstone : Option ReleaseTombstone
  seen : Bool
  pending : Bool
  unresolved : Bool
  unresolvedRollback : Bool

def RecoveredState.cell (s : RecoveredState) (id : ReservationId) : Cell where
  record := s.reservations[id]?
  transaction := s.transactions[id]?
  tombstone := s.released[id]?
  seen := s.seenReservationIds.contains id
  pending := s.pending == some id
  unresolved := s.unresolvedTransaction == some id
  unresolvedRollback := s.unresolvedRollback == some id

namespace RepairTransactionRecord

/-- A resolution of the transaction or of its rollback child is recorded as intent only. -/
def hasPending (t : RepairTransactionRecord) : Bool :=
  t.pendingResolution.isSome || t.rollback.any fun rollback => rollback.pendingResolution.isSome

def isUnresolved (t : RepairTransactionRecord) : Bool := transactionPhase t != .resolved

def hasUnresolvedRollback (t : RepairTransactionRecord) : Bool :=
  t.rollback.any fun rollback => rollbackTransactionPhase rollback != .resolved

end RepairTransactionRecord

theorem cell_default (id : ReservationId) :
    RecoveredState.cell {} id = ⟨none,none,none,false,false,false,false⟩ := by
  simp [RecoveredState.cell]

theorem nodup_ids {β : Type} (m : IdMap β) : (m.toList.map Prod.fst).Nodup := by
  have h := Std.ExtTreeMap.distinct_keys_toList (t := m)
  rw [List.Nodup, List.pairwise_map]
  refine h.imp ?_
  intro a b hab heq
  exact hab (by simp [heq])

variable [Sha256Hasher]

structure PendingOk (id : ReservationId) (record : ReservationRecord) (b : RepairBinding)
    (t : RepairTransactionRecord) (p : PendingTransactionResolution) : Prop where
  noRollback : t.rollback = none
  phase : p.expectedPhase = transactionPhase t
  unresolved : p.expectedPhase ≠ .resolved
  resolution : p.resolution.validateAgainst b.executionIntent = true
  changes : t.resolution ≠ some p.resolution
  digest : ∃ status, protocolTransactionStatusFromRecord id record t = .ok status ∧
    status.transactionBindingSha256.asStr = p.transactionBindingSha256

structure RollbackPendingOk (source : RepairTransactionStatusPayload)
    (rollback : RepairRollbackTransactionRecord) (p : PendingRollbackResolution) : Prop where
  phase : p.expectedPhase = rollbackTransactionPhase rollback
  unresolved : p.expectedPhase ≠ .resolved
  resolution : p.resolution.validateAgainst source = true
  changes : rollback.resolution ≠ some p.resolution
  digest : ∃ d, canonicalRepairRollbackTransactionBindingSha256 rollback.rollbackId source
    rollback.binding = some d ∧ d.asStr = p.rollbackTransactionBindingSha256

structure RollbackOk (id : ReservationId) (record : ReservationRecord) (t : RepairTransactionRecord)
    (rollback : RepairRollbackTransactionRecord) : Prop where
  committed : t.resolution.map RepairTransactionResolution.outcome = some .committedAfter
  settled : t.pendingResolution = none
  source : ∃ source, protocolTransactionStatusFromRecord id record t = .ok source ∧
    rollback.binding.validateAgainst source = true ∧
    (∀ r, rollback.resolution = some r → r.validateAgainst source = true) ∧
    ∀ p, rollback.pendingResolution = some p → RollbackPendingOk source rollback p
  lease : rollbackWriteLeaseIsConsistent id record t rollback = true

structure TransactionOk (id : ReservationId) (record : ReservationRecord) (b : RepairBinding)
    (t : RepairTransactionRecord) : Prop where
  resolution : ∀ r, t.resolution = some r → r.validateAgainst b.executionIntent = true
  lease : writeLeaseIsConsistent id record t = true
  pending : ∀ p, t.pendingResolution = some p → PendingOk id record b t p
  rollback : ∀ rollback, t.rollback = some rollback → RollbackOk id record t rollback

/-- A retired record keeps the binding and the final resolution it was retired with. -/
inductive TombstoneOk : ReleaseTombstone → Prop
  | cancelled {record : ReservationRecord} {stamp : Nat} (hrecord : RecordOk record)
      (hphase : record.phase = .cancelPending) : TombstoneOk ⟨.cancel,record,stamp⟩
  | retired {record : ReservationRecord} {stamp : Nat} {b : RepairBinding}
      {r : RepairTransactionResolution} (hrecord : RecordOk record)
      (hphase : record.phase = .retirePending b r) (hbinding : b.validateForRecord record = true)
      (hresolution : r.validateAgainst b.executionIntent = true) (hfinal : r.phase = .resolved) :
      TombstoneOk ⟨.retire,record,stamp⟩

/-- The legal lifecycle states of one identifier. -/
inductive CellOk (id : ReservationId) : Cell → Prop
  | absent (seen : Bool) : CellOk id ⟨none,none,none,seen,false,false,false⟩
  | released {tombstone : ReleaseTombstone} (htombstone : TombstoneOk tombstone) :
      CellOk id ⟨none,none,some tombstone,true,false,false,false⟩
  | reserving {record : ReservationRecord} (hrecord : RecordOk record)
      (hphase : record.phase = .reservePending) :
      CellOk id ⟨some record,none,none,true,true,false,false⟩
  | reserved {record : ReservationRecord} (hrecord : RecordOk record)
      (hphase : record.phase = .reserved) :
      CellOk id ⟨some record,none,none,true,false,false,false⟩
  | persisting {record : ReservationRecord} {b : RepairBinding} (hrecord : RecordOk record)
      (hphase : record.phase = .persistPending b) (hbinding : b.validateForRecord record = true) :
      CellOk id ⟨some record,none,none,true,true,false,false⟩
  | cancelling {record : ReservationRecord} (hrecord : RecordOk record)
      (hphase : record.phase = .cancelPending) :
      CellOk id ⟨some record,none,none,true,true,false,false⟩
  | durable {record : ReservationRecord} {b : RepairBinding} {t : RepairTransactionRecord}
      (hrecord : RecordOk record) (hphase : record.phase = .durable b)
      (hbinding : b.validateForRecord record = true) (ht : TransactionOk id record b t) :
      CellOk id ⟨some record,some t,none,true,t.hasPending,t.isUnresolved,t.hasUnresolvedRollback⟩
  | retiring {record : ReservationRecord} {b : RepairBinding} {r : RepairTransactionResolution}
      {t : RepairTransactionRecord} (hrecord : RecordOk record)
      (hphase : record.phase = .retirePending b r) (hbinding : b.validateForRecord record = true)
      (hresolution : r.validateAgainst b.executionIntent = true) (ht : t.resolution = some r)
      (hpending : t.hasPending = false) (hresolved : t.isUnresolved = false)
      (hrollback : t.hasUnresolvedRollback = false) :
      CellOk id ⟨some record,some t,none,true,true,false,false⟩

def ReservationPhase.isFilling : ReservationPhase → Bool
  | .reservePending | .persistPending _ => true
  | _ => false

def RecoveredState.rollbackIdAt (s : RecoveredState) (id : ReservationId) : Option RepairRollbackId :=
  (s.transactions[id]?.bind RepairTransactionRecord.rollback).map
    RepairRollbackTransactionRecord.rollbackId

def Cell.isFilling (c : Cell) : Bool := c.record.any fun record => record.phase.isFilling

structure Inv (s : RecoveredState) : Prop where
  cells : ∀ id, CellOk id (s.cell id)
  size : s.reservations.size ≤ maxReservations
  oneUnresolved : s.unresolvedTransaction = none ∨ s.unresolvedRollback = none
  filling : ∀ id, (s.cell id).isFilling = true →
    s.unresolvedTransaction = none ∧ s.unresolvedRollback = none
  rollbackIds : ∀ i j rollbackId, s.rollbackIdAt i = some rollbackId →
    s.rollbackIdAt j = some rollbackId → i = j
  stamps : ∀ id, ∀ tombstone ∈ (s.cell id).tombstone, tombstone.releasedAtEvent ≤ s.logicalEventClock

theorem inv_default : Inv {} where
  cells id := by
    rw [cell_default]
    exact .absent false
  size := by simp
  oneUnresolved := .inl rfl
  filling id h := by simp [cell_default, Cell.isFilling] at h
  rollbackIds i j rollbackId h := by simp [RecoveredState.rollbackIdAt] at h
  stamps id tombstone h := by simp [cell_default] at h

namespace CellOk

variable {id : ReservationId} {c : Cell} {record : ReservationRecord}

theorem pending_of_filling (h : CellOk id c) (hfilling : c.isFilling = true) : c.pending = true := by
  cases h <;> simp_all [Cell.isFilling, ReservationPhase.isFilling]

theorem of_reservePending (h : CellOk id c) (hrecord : c.record = some record)
    (hphase : record.phase = .reservePending) :
    RecordOk record ∧ c = ⟨some record,none,none,true,true,false,false⟩ := by
  cases h <;> simp_all

theorem of_reserved (h : CellOk id c) (hrecord : c.record = some record)
    (hphase : record.phase = .reserved) :
    RecordOk record ∧ c = ⟨some record,none,none,true,false,false,false⟩ := by
  cases h <;> simp_all

theorem of_persistPending {b : RepairBinding} (h : CellOk id c) (hrecord : c.record = some record)
    (hphase : record.phase = .persistPending b) :
    RecordOk record ∧ b.validateForRecord record = true ∧
      c = ⟨some record,none,none,true,true,false,false⟩ := by
  cases h <;> simp_all

theorem of_cancelPending (h : CellOk id c) (hrecord : c.record = some record)
    (hphase : record.phase = .cancelPending) :
    RecordOk record ∧ c = ⟨some record,none,none,true,true,false,false⟩ := by
  cases h <;> simp_all

theorem of_durable {b : RepairBinding} (h : CellOk id c) (hrecord : c.record = some record)
    (hphase : record.phase = .durable b) :
    RecordOk record ∧ b.validateForRecord record = true ∧ ∃ t, TransactionOk id record b t ∧
      c = ⟨some record,some t,none,true,t.hasPending,t.isUnresolved,t.hasUnresolvedRollback⟩ := by
  cases h with
  | @durable record' b' t hrecord' hphase' hbinding ht =>
    obtain rfl : record' = record := by simpa using hrecord
    obtain rfl : b' = b := by simpa [hphase] using hphase'.symm
    exact ⟨hrecord',hbinding,t,ht,rfl⟩
  | _ => simp_all

theorem of_retirePending {b : RepairBinding} {r : RepairTransactionResolution} (h : CellOk id c)
    (hrecord : c.record = some record) (hphase : record.phase = .retirePending b r) :
    RecordOk record ∧ b.validateForRecord record = true ∧
      r.validateAgainst b.executionIntent = true ∧ ∃ t, t.resolution = some r ∧
      t.isUnresolved = false ∧ c = ⟨some record,some t,none,true,true,false,false⟩ := by
  cases h with
  | @retiring record' b' r' t hrecord' hphase' hbinding hresolution ht _ hresolved _ =>
    obtain rfl : record' = record := by simpa using hrecord
    obtain ⟨rfl,rfl⟩ : b' = b ∧ r' = r := by simpa [hphase] using hphase'.symm
    exact ⟨hrecord',hbinding,hresolution,t,ht,hresolved,rfl⟩
  | _ => simp_all

theorem of_seen_eq_false (h : CellOk id c) (hseen : c.seen = false) :
    c = ⟨none,none,none,false,false,false,false⟩ := by
  cases h <;> simp_all

end CellOk

variable {id : ReservationId} {record : ReservationRecord} {t : RepairTransactionRecord}
  {s : RecoveredState}

theorem TransactionOk.status {b : RepairBinding} (ht : TransactionOk id record b t)
    (hrecord : RecordOk record) (hphase : record.phase.storedBinding = some b)
    (hbinding : b.validateForRecord record = true) :
    ∃ status, protocolTransactionStatusFromRecord id record t = .ok status ∧ StatusOf id b t status := by
  obtain ⟨backup,hbackup,hof⟩ : ∃ backup, protocolBackupStatusFromRecord id record = .ok backup ∧
      BackupOf id b backup := protocolBackupStatus_of_accepted hrecord hphase hbinding
  obtain ⟨status,hstatus,_,hstatusOf⟩ := protocolTransactionStatus_of_accepted hbackup hof ht.resolution
  exact ⟨status,hstatus,hstatusOf⟩

theorem RollbackOk.status {rollback : RepairRollbackTransactionRecord}
    (h : RollbackOk id record t rollback) : ∃ source status,
      protocolTransactionStatusFromRecord id record t = .ok source ∧
      protocolRollbackStatusFromRecord id record t rollback = .ok status ∧
      RollbackStatusOf source rollback status := by
  obtain ⟨source,hsource,hbinding,hresolution,_⟩ := h.source
  obtain ⟨status,hstatus,hof⟩ :=
    protocolRollbackStatus_of_accepted h.settled hsource hbinding hresolution
  exact ⟨source,status,hsource,hstatus,hof⟩

omit [Sha256Hasher] in
theorem phase_of_committed
    (h : t.resolution.map RepairTransactionResolution.outcome = some .committedAfter) :
    transactionPhase t = .resolved := by
  rw [transactionPhase, h]

theorem durableIsConsistent_of_ok {b : RepairBinding} (hrecord : RecordOk record)
    (hphase : record.phase = .durable b) (hbinding : b.validateForRecord record = true)
    (ht : TransactionOk id record b t) (hpending : t.hasPending = false) :
    durableIsConsistent id record t = true := by
  have hstored : record.phase.storedBinding = some b := by rw [hphase]; rfl
  obtain ⟨status,hstatus,_⟩ := ht.status hrecord hstored hbinding
  simp only [RepairTransactionRecord.hasPending, Bool.or_eq_false_iff,
    Option.isSome_eq_false_iff] at hpending
  have hrollback : t.rollback.all (rollbackIsConsistent id record t) = true := by
    cases hr : t.rollback with
    | none => rfl
    | some rollback =>
      have hok := ht.rollback rollback hr
      obtain ⟨source,status,_,hstatus,_⟩ := hok.status
      have hnone : rollback.pendingResolution.isNone = true := by
        simpa [hr] using hpending.2
      simp [rollbackIsConsistent, phase_of_committed hok.committed, hok.committed, hnone, hstatus,
        hok.lease, Except.isOk, Except.toBool]
  simp [durableIsConsistent, hpending.1, ht.lease, hstatus, hrollback, Except.isOk, Except.toBool]

/-- What the scan meets at one reservation of a state in which nothing is pending. -/
structure SettledEntry (s : RecoveredState) (entry : ReservationId × ReservationRecord) : Prop where
  shape : (entry.2.phase = .reserved ∧ s.transactions[entry.1]? = none ∧
      s.unresolvedTransaction ≠ some entry.1 ∧ s.unresolvedRollback ≠ some entry.1) ∨
    ∃ b t, entry.2.phase = .durable b ∧ s.transactions[entry.1]? = some t ∧
      durableIsConsistent entry.1 entry.2 t = true ∧
      t.isUnresolved = (s.unresolvedTransaction == some entry.1) ∧
      t.hasUnresolvedRollback = (s.unresolvedRollback == some entry.1)

theorem Inv.settledEntry (hinv : Inv s) (hpending : s.pending = none)
    {entry : ReservationId × ReservationRecord} (hentry : s.reservations[entry.1]? = some entry.2) :
    SettledEntry s entry := by
  have hcell := hinv.cells entry.1
  generalize hc : s.cell entry.1 = c at hcell
  cases hcell with
  | reserved hrecord hphase =>
    simp only [RecoveredState.cell, Cell.mk.injEq, hentry, Option.some.injEq] at hc
    obtain ⟨rfl,ht,_,_,_,hu,hr⟩ := hc
    exact ⟨.inl ⟨hphase,ht,by simpa using hu,by simpa using hr⟩⟩
  | @durable _ b t hrecord hphase hbinding ht =>
    simp only [RecoveredState.cell, Cell.mk.injEq, hentry, Option.some.injEq] at hc
    obtain ⟨rfl,ht',_,_,hp,hu,hr⟩ := hc
    have hp' : t.hasPending = false := by rw [← hp, hpending]; rfl
    have hconsistent := durableIsConsistent_of_ok hrecord hphase hbinding ht hp'
    exact ⟨.inr ⟨b,t,hphase,ht',hconsistent,hu.symm,hr.symm⟩⟩
  | _ => simp_all [RecoveredState.cell]

def slotAfter (slot : Option ReservationId) (id : ReservationId) (scanned : Option ReservationId) :
    Option ReservationId :=
  if slot = some id then some id else scanned

omit [Sha256Hasher] in
theorem markSlot_eq {slot scanned : Option ReservationId} (h : slot = some id → scanned = none) :
    markSlot (slot == some id) scanned id = some (slotAfter slot id scanned) := by
  by_cases hslot : slot = some id
  · simp [markSlot, slotAfter, hslot, h hslot]
  · simp [markSlot, slotAfter, hslot]

theorem scanReservation_settled {entry : ReservationId × ReservationRecord}
    (h : SettledEntry s entry) (scan : ConsistencyScan)
    (hu : s.unresolvedTransaction = some entry.1 → scan.unresolved = none)
    (hr : s.unresolvedRollback = some entry.1 → scan.unresolvedRollback = none) :
    scanReservation s.transactions scan entry = some
      ⟨slotAfter s.unresolvedTransaction entry.1 scan.unresolved,
        slotAfter s.unresolvedRollback entry.1 scan.unresolvedRollback,
        scan.durableCount + if entry.2.phase.isDurable then 1 else 0⟩ := by
  rcases h.shape with ⟨hphase,ht,hnu,hnr⟩ | ⟨b,t,hphase,ht,hconsistent,htu,htr⟩
  · have hnot : s.transactions.contains entry.1 = false := by
      rw [Std.ExtTreeMap.contains_eq_isSome_getElem?, ht]
      rfl
    simp [scanReservation, hphase, hnot, slotAfter, hnu, hnr, ReservationPhase.isDurable,
      ReservationPhase.durableBinding]
  · have hrollback : markSlot t.hasUnresolvedRollback scan.unresolvedRollback entry.1 =
        some (slotAfter s.unresolvedRollback entry.1 scan.unresolvedRollback) := by
      rw [htr]
      exact markSlot_eq hr
    have hunresolved : markSlot t.isUnresolved scan.unresolved entry.1 =
        some (slotAfter s.unresolvedTransaction entry.1 scan.unresolved) := by
      rw [htu]
      exact markSlot_eq hu
    rw [RepairTransactionRecord.hasUnresolvedRollback] at hrollback
    rw [RepairTransactionRecord.isUnresolved] at hunresolved
    simp [scanReservation, hphase, ht, scanDurable, hconsistent, hrollback, hunresolved,
      ReservationPhase.isDurable, ReservationPhase.durableBinding]

theorem foldlM_scanReservation (l : List (ReservationId × ReservationRecord))
    (scan : ConsistencyScan) (hl : ∀ entry ∈ l, SettledEntry s entry)
    (hnodup : (l.map Prod.fst).Nodup)
    (hu : ∀ id ∈ l.map Prod.fst, s.unresolvedTransaction = some id → scan.unresolved = none)
    (hr : ∀ id ∈ l.map Prod.fst, s.unresolvedRollback = some id → scan.unresolvedRollback = none) :
    l.foldlM (scanReservation s.transactions) scan = some
      ⟨(l.map Prod.fst).foldl (fun slot id => slotAfter s.unresolvedTransaction id slot) scan.unresolved,
        (l.map Prod.fst).foldl (fun slot id => slotAfter s.unresolvedRollback id slot)
          scan.unresolvedRollback,
        scan.durableCount + l.countP fun entry => entry.2.phase.isDurable⟩ := by
  induction l generalizing scan with
  | nil => simp
  | cons entry l ih =>
    simp only [List.map_cons, List.nodup_cons] at hnodup
    simp only [List.map_cons, List.mem_cons, forall_eq_or_imp] at hl hu hr
    -- a slot that names a later reservation is still empty after this one
    have hnext : ∀ {slot scanned : Option ReservationId},
        (∀ id ∈ l.map Prod.fst, slot = some id → scanned = none) →
        ∀ id ∈ l.map Prod.fst, slot = some id → slotAfter slot entry.1 scanned = none := by
      intro slot scanned h id hid hslot
      rw [slotAfter, if_neg, h id hid hslot]
      rintro rfl
      exact hnodup.1 (Option.some.inj hslot ▸ hid)
    rw [List.foldlM_cons, scanReservation_settled hl.1 scan hu.1 hr.1, Option.bind_eq_bind,
      Option.bind_some, ih _ hl.2 hnodup.2 (hnext hu.2) (hnext hr.2), List.map_cons, List.foldl_cons,
      List.foldl_cons, List.countP_cons]
    congr 2
    dsimp only
    omega

omit [Sha256Hasher] in
theorem foldl_slotAfter_eq {slot : Option ReservationId} {ids : List ReservationId}
    (h : ∀ id, slot = some id → id ∈ ids) :
    ids.foldl (fun scanned id => slotAfter slot id scanned) none = slot := by
  cases slot with
  | none => simp [slotAfter]
  | some i =>
    have hsome : ∀ (ids : List ReservationId) (scanned : Option ReservationId),
        scanned = some i ∨ i ∈ ids →
        ids.foldl (fun scanned id => slotAfter (some i) id scanned) scanned = some i := by
      intro ids
      induction ids with
      | nil => simp
      | cons id ids ih =>
        intro scanned hmem
        rw [List.foldl_cons]
        apply ih
        by_cases hid : i = id
        · left
          simp [slotAfter, hid]
        · simpa [slotAfter, hid] using hmem
    exact hsome ids none (.inr (h i rfl))

theorem Inv.durable_count (hinv : Inv s) (hpending : s.pending = none) :
    (s.reservations.toList.countP fun entry => entry.2.phase.isDurable) = s.transactions.size := by
  have hperm : ((s.reservations.toList.filter fun entry => entry.2.phase.isDurable).map Prod.fst).Perm
      (s.transactions.toList.map Prod.fst) := by
    rw [List.perm_ext_iff_of_nodup]
    · intro id
      simp only [List.mem_map, List.mem_filter, Prod.exists, exists_and_right, exists_eq_right,
        Std.ExtTreeMap.mem_toList_iff_getElem?_eq_some]
      constructor
      · rintro ⟨record,hrecord,hdurable⟩
        have hentry : SettledEntry s (id,record) := hinv.settledEntry hpending hrecord
        rcases hentry.shape with h | ⟨b,t,h⟩
        · have hreserved : record.phase = .reserved := h.1
          simp [hreserved, ReservationPhase.isDurable, ReservationPhase.durableBinding] at hdurable
        · exact ⟨t,h.2.1⟩
      · rintro ⟨t,ht⟩
        have hcell := hinv.cells id
        generalize hc : s.cell id = c at hcell
        cases hcell <;> simp_all [RecoveredState.cell, ReservationPhase.isDurable,
          ReservationPhase.durableBinding]
    · exact (List.filter_sublist.map _).nodup (nodup_ids s.reservations)
    · exact nodup_ids s.transactions
  have hlen := hperm.length_eq
  simpa [List.countP_eq_length_filter, Std.ExtTreeMap.length_toList] using hlen

theorem Inv.transactionsAreConsistent (hinv : Inv s) (hpending : s.pending = none) :
    transactionsAreConsistent s = true := by
  have hl : ∀ entry ∈ s.reservations.toList, SettledEntry s entry := by
    rintro ⟨id,record⟩ hentry
    exact hinv.settledEntry hpending (Std.ExtTreeMap.mem_toList_iff_getElem?_eq_some.mp hentry)
  have hlisted : ∀ id, (s.cell id).record.isSome = true → id ∈ s.reservations.toList.map Prod.fst := by
    intro id hid
    obtain ⟨record,hrecord⟩ := Option.isSome_iff_exists.mp hid
    exact List.mem_map.mpr ⟨(id,record),Std.ExtTreeMap.mem_toList_iff_getElem?_eq_some.mpr hrecord,rfl⟩
  have hu : ∀ id, s.unresolvedTransaction = some id → id ∈ s.reservations.toList.map Prod.fst := by
    intro id hid
    apply hlisted
    have hcell := hinv.cells id
    generalize hc : s.cell id = c at hcell
    cases hcell <;> simp_all [RecoveredState.cell]
  have hr : ∀ id, s.unresolvedRollback = some id → id ∈ s.reservations.toList.map Prod.fst := by
    intro id hid
    apply hlisted
    have hcell := hinv.cells id
    generalize hc : s.cell id = c at hcell
    cases hcell <;> simp_all [RecoveredState.cell]
  have hone : (s.unresolvedTransaction.isSome && s.unresolvedRollback.isSome) = false := by
    rcases hinv.oneUnresolved with h | h <;> simp [h]
  rw [RepairStore.transactionsAreConsistent, foldlM_scanReservation _ _ hl (nodup_ids s.reservations)
    (fun _ _ _ => rfl) (fun _ _ _ => rfl), Option.any_some, foldl_slotAfter_eq hu, foldl_slotAfter_eq hr,
    hinv.durable_count hpending, hone]
  simp

end KernAid.RepairStore
