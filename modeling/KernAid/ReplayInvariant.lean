import KernAid.Lifecycle

/-! Every event that replay accepts keeps the invariant. -/

set_option autoImplicit false

namespace KernAid.RepairStore

open Encoding CrashLogic Protocol RepairTransactionRecord RecoveredState

theorem persistBinding_eq_some {phase : ReservationPhase} {b : RepairBinding}
    (h : phase.persistBinding = some b) : phase = .persistPending b := by
  cases phase <;> simp_all [ReservationPhase.persistBinding]

theorem durableBinding_eq_some {phase : ReservationPhase} {b : RepairBinding}
    (h : phase.durableBinding = some b) : phase = .durable b := by
  cases phase <;> simp_all [ReservationPhase.durableBinding]

@[simp] theorem toOption_eq_some {α : Type} {x : Except RepairVaultStoreError α} {a : α} :
    x.toOption = some a ↔ x = .ok a := by
  cases x <;> simp [Except.toOption]

@[simp] theorem asCorruptJournal_bind_eq_ok {α β : Type} {x : Except RepairVaultStoreError α}
    {f : α → Except RepairVaultStoreError β} {b : β} :
    (asCorruptJournal x >>= f) = .ok b ↔ ∃ a, x = .ok a ∧ f a = .ok b := by
  simp [asCorruptJournal]

theorem isRetirePending_iff {phase : ReservationPhase} :
    phase.isRetirePending = true ↔ ∃ b r, phase = .retirePending b r := by
  cases phase <;> simp [ReservationPhase.isRetirePending]

variable [Sha256Hasher]

section Congruence

variable {id : ReservationId} {record : ReservationRecord} {t u : RepairTransactionRecord}
  {rollback rollback' : RepairRollbackTransactionRecord}

theorem transactionStatus_congr (h : t.resolution = u.resolution) :
    protocolTransactionStatusFromRecord id record t =
      protocolTransactionStatusFromRecord id record u := by
  rw [protocolTransactionStatusFromRecord, protocolTransactionStatusFromRecord, h]

theorem rollbackStatus_congr (h : t.resolution = u.resolution)
    (hp : t.pendingResolution = u.pendingResolution) (hid : rollback.rollbackId = rollback'.rollbackId)
    (hb : rollback.binding = rollback'.binding) (hr : rollback.resolution = rollback'.resolution) :
    protocolRollbackStatusFromRecord id record t rollback =
      protocolRollbackStatusFromRecord id record u rollback' := by
  rw [protocolRollbackStatusFromRecord, protocolRollbackStatusFromRecord, transactionStatus_congr h, hid,
    hb, hr]
  simp only [hp]

theorem writeLease_congr (h : t.writeLease = u.writeLease) :
    writeLeaseIsConsistent id record t = writeLeaseIsConsistent id record u := by
  rw [writeLeaseIsConsistent, writeLeaseIsConsistent, h]

theorem rollbackWriteLease_congr (h : t.resolution = u.resolution)
    (hp : t.pendingResolution = u.pendingResolution) (hid : rollback.rollbackId = rollback'.rollbackId)
    (hb : rollback.binding = rollback'.binding) (hl : rollback.writeLease = rollback'.writeLease) :
    rollbackWriteLeaseIsConsistent id record t rollback =
      rollbackWriteLeaseIsConsistent id record u rollback' := by
  simp only [rollbackWriteLeaseIsConsistent, hl, hid, hb]
  congr 1
  funext consumed
  rw [rollbackStatus_congr h hp rfl rfl rfl]

omit [Sha256Hasher] in
theorem transactionPhase_congr (h : t.resolution = u.resolution) :
    transactionPhase t = transactionPhase u := by
  rw [transactionPhase, transactionPhase, h]

theorem RecordOk.withPhase (h : RecordOk record) (phase : ReservationPhase) :
    RecordOk { record with phase := phase } :=
  ⟨h.draft,h.binding,h.capacity,h.vault,h.identity,h.parent⟩

end Congruence

theorem Inv.step {s s' : RecoveredState} (id : ReservationId) (hinv : Inv s)
    (hp : s.pending = none ∨ s.pending = some id)
    (hframe : ∀ j, j ≠ id → s'.cell j = s.cell j) (hcell : CellOk id (s'.cell id))
    (hsize : s'.reservations.size ≤ maxReservations)
    (hone : s'.unresolvedTransaction = none ∨ s'.unresolvedRollback = none)
    (hfill : (s'.cell id).isFilling = true →
      s'.unresolvedTransaction = none ∧ s'.unresolvedRollback = none)
    (hrollback : ∀ rollbackId, s'.rollbackIdAt id = some rollbackId →
      s.rollbackIdAt id = some rollbackId ∨ ∀ j, s.rollbackIdAt j ≠ some rollbackId)
    (hclock : s'.logicalEventClock = s.logicalEventClock)
    (hstamp : ∀ tombstone ∈ (s'.cell id).tombstone,
      tombstone.releasedAtEvent ≤ s'.logicalEventClock) : Inv s' where
  cells j := by
    by_cases hj : j = id
    · exact hj ▸ hcell
    · rw [hframe j hj]
      exact hinv.cells j
  size := hsize
  oneUnresolved := hone
  filling j hfilling := by
    by_cases hj : j = id
    · exact hfill (hj ▸ hfilling)
    · rw [hframe j hj] at hfilling
      have hpending := (hinv.cells j).pending_of_filling hfilling
      rcases hp with hp | hp
      · simp [cell, hp] at hpending
      · simp only [cell, hp, beq_iff_eq, Option.some.injEq] at hpending
        exact (hj hpending.symm).elim
  rollbackIds i j rollbackId hi hj := by
    have hsame : ∀ k, k ≠ id → s'.rollbackIdAt k = s.rollbackIdAt k := fun k hk =>
      congrArg (fun c : Cell => (c.transaction.bind rollback).map
        RepairRollbackTransactionRecord.rollbackId) (hframe k hk)
    by_cases hii : i = id
    · subst hii
      by_cases hji : j = i
      · exact hji.symm
      · rw [hsame j hji] at hj
        rcases hrollback rollbackId hi with h | h
        · exact hinv.rollbackIds i j rollbackId h hj
        · exact (h j hj).elim
    · rw [hsame i hii] at hi
      by_cases hji : j = id
      · subst hji
        rcases hrollback rollbackId hj with h | h
        · exact hinv.rollbackIds i j rollbackId hi h
        · exact (h i hi).elim
      · rw [hsame j hji] at hj
        exact hinv.rollbackIds i j rollbackId hi hj
  stamps j := by
    by_cases hj : j = id
    · exact hj ▸ hstamp
    · rw [hframe j hj, hclock]
      exact hinv.stamps j

/-- A slot that names at most one identifier and changes only there. -/
def SlotAt (id : ReservationId) (a b : Option ReservationId) : Prop :=
  a = b ∨ (a = none ∨ a = some id) ∧ (b = none ∨ b = some id)

omit [Sha256Hasher] in
theorem SlotAt.beq_eq {id j : ReservationId} {a b : Option ReservationId} (h : SlotAt id a b)
    (hj : j ≠ id) : (a == some j) = (b == some j) := by
  have hother : ∀ {c : Option ReservationId}, c = none ∨ c = some id → (c == some j) = false := by
    rintro c (rfl | rfl)
    · rfl
    · simpa using hj.symm
  rcases h with rfl | ⟨ha,hb⟩
  · rfl
  · rw [hother ha, hother hb]

omit [Sha256Hasher] in
theorem cell_frame {s s' : RecoveredState} {id j : ReservationId} (hj : j ≠ id)
    (hreservations : s'.reservations[j]? = s.reservations[j]?)
    (htransactions : s'.transactions[j]? = s.transactions[j]?)
    (hreleased : s'.released[j]? = s.released[j]?)
    (hseen : s'.seenReservationIds.contains j = s.seenReservationIds.contains j)
    (hpending : SlotAt id s'.pending s.pending)
    (hunresolved : SlotAt id s'.unresolvedTransaction s.unresolvedTransaction)
    (hrollback : SlotAt id s'.unresolvedRollback s.unresolvedRollback) : s'.cell j = s.cell j := by
  simp only [cell, hreservations, htransactions, hreleased, hseen, hpending.beq_eq hj,
    hunresolved.beq_eq hj, hrollback.beq_eq hj]

section Events

variable {s s' : RecoveredState} {id : ReservationId}

theorem Inv.setPhase {record : ReservationRecord} {phase : ReservationPhase} {c : Cell}
    {pending : Option ReservationId} (hinv : Inv s) (hc : s.cell id = c)
    (hrecord : c.record = some record) (hp : s.pending = none ∨ s.pending = some id)
    (hp' : pending = none ∨ pending = some id)
    (hcell : CellOk id { c with
      record := some { record with phase := phase }, pending := pending == some id })
    (hfill : phase.isFilling = true → s.unresolvedTransaction = none ∧ s.unresolvedRollback = none) :
    Inv { s.setPhase id record phase with pending := pending } := by
  subst hc
  have hnew : cell { s.setPhase id record phase with pending := pending } id =
      { s.cell id with
        record := some { record with phase := phase }, pending := pending == some id } := by
    simp [cell, RecoveredState.setPhase]
  refine hinv.step id hp (fun j hj => ?_) (hnew ▸ hcell) ?_ hinv.oneUnresolved (fun h => ?_)
    (fun _ h => .inl h) rfl ?_
  · exact cell_frame hj (getElem?_insert_ne hj) rfl rfl rfl (.inr ⟨hp',hp⟩) (.inl rfl) (.inl rfl)
  · exact (size_insert_of_getElem? hrecord).trans_le hinv.size
  · rw [hnew] at h
    exact hfill (by simpa [Cell.isFilling] using h)
  · exact hinv.stamps id

theorem Inv.setTransaction {t t' : RepairTransactionRecord} {c : Cell}
    {pending unresolved unresolvedRollback : Option ReservationId} (hinv : Inv s)
    (hc : s.cell id = c) (hp : s.pending = none ∨ s.pending = some id)
    (hp' : pending = none ∨ pending = some id)
    (hu : SlotAt id unresolved s.unresolvedTransaction)
    (hr : SlotAt id unresolvedRollback s.unresolvedRollback)
    (hcell : CellOk id { c with
      transaction := some t'
      pending := pending == some id
      unresolved := unresolved == some id
      unresolvedRollback := unresolvedRollback == some id })
    (hone : unresolved = none ∨ unresolvedRollback = none) (hfilling : c.isFilling = false)
    (ht : c.transaction = some t)
    (hrollback : t'.rollback.map RepairRollbackTransactionRecord.rollbackId =
        t.rollback.map RepairRollbackTransactionRecord.rollbackId ∨
      ∀ rollbackId, t'.rollback.map RepairRollbackTransactionRecord.rollbackId = some rollbackId →
        ∀ j, s.rollbackIdAt j ≠ some rollbackId) :
    Inv { s.setTransaction id t' with
      pending := pending, unresolvedTransaction := unresolved,
      unresolvedRollback := unresolvedRollback } := by
  subst hc
  have ht' : s.transactions[id]? = some t := ht
  refine hinv.step id hp (fun j hj => ?_) ?_ hinv.size hone (fun h => ?_) (fun rollbackId h => ?_) rfl ?_
  · exact cell_frame hj rfl (getElem?_insert_ne hj) rfl rfl (.inr ⟨hp',hp⟩) hu hr
  · simpa [cell, RecoveredState.setTransaction] using hcell
  · have hold : (s.cell id).isFilling = true := h
    simp [hfilling] at hold
  · simp only [rollbackIdAt, RecoveredState.setTransaction,
      Std.ExtTreeMap.getElem?_insert_self, Option.bind_some] at h
    rcases hrollback with hsame | hfresh
    · left
      rw [rollbackIdAt, ht', Option.bind_some, ← hsame, h]
    · exact .inr (hfresh rollbackId h)
  · exact hinv.stamps id

theorem applyReserveIntent_inv {draft : RepairBackupDraft} {digest : String} {capacity : Nat}
    {vaultId identity parent : String} (hinv : Inv s)
    (h : applyReserveIntent s id draft digest capacity vaultId identity parent = .ok s') : Inv s' := by
  simp only [applyReserveIntent, require_bind_eq_ok, pure_eq_ok_iff] at h
  obtain ⟨hdraft,⟨_,hdigest,hcapacity⟩,⟨hquiet,hroom⟩,⟨_,_,hseen⟩,⟨hvault,hidentity,hparent⟩,rfl⟩ := h
  simp only [isQuiescent, Bool.and_eq_true, Option.isNone_iff_eq_none] at hquiet
  obtain ⟨⟨hp,hu⟩,hr⟩ := hquiet
  have hunseen : (s.cell id).seen = false :=
    Bool.eq_false_iff.mpr fun hc => hseen (Std.ExtTreeSet.contains_iff_mem.mp hc)
  have hcell := (hinv.cells id).of_seen_eq_false hunseen
  simp only [cell, Cell.mk.injEq] at hcell
  obtain ⟨hrecord,htransaction,htombstone,_⟩ := hcell
  refine hinv.step id (.inl hp) (fun j hj => ?_) ?_ ?_ (.inl hu) (fun _ => ⟨hu,hr⟩) ?_ rfl ?_
  · exact cell_frame hj (getElem?_insert_ne hj) rfl rfl (contains_insert_ne hj) (.inr ⟨.inr rfl,.inl hp⟩)
      (.inl rfl) (.inl rfl)
  · have hnew : ∀ record : ReservationRecord, RecordOk record → record.phase = .reservePending →
        CellOk id ⟨some record,none,none,true,true,false,false⟩ := fun _ h1 h2 => .reserving h1 h2
    simpa [cell, htransaction, htombstone, hu, hr] using
      hnew ⟨draft,digest,capacity,vaultId,identity,parent,.reservePending⟩
        ⟨hdraft,hdigest,hcapacity,hvault,hidentity,hparent⟩ rfl
  · have hsize := Std.ExtTreeMap.size_insert_le (t := s.reservations) (k := id)
      (v := (⟨draft,digest,capacity,vaultId,identity,parent,.reservePending⟩ : ReservationRecord))
    dsimp only
    omega
  · exact fun rollbackId h => .inl h
  · simp [cell, htombstone]

theorem applyReserveComplete_inv (hinv : Inv s) (h : applyReserveComplete s id = .ok s') : Inv s' := by
  simp only [applyReserveComplete, require_bind_eq_ok, okOr_bind_eq_ok, pure_eq_ok_iff] at h
  obtain ⟨hp,record,hrecord,hphase,rfl⟩ := h
  obtain ⟨hok,hc⟩ := (hinv.cells id).of_reservePending hrecord hphase
  exact hinv.setPhase hc rfl (.inr hp) (.inl rfl) (.reserved (hok.withPhase _) rfl)
    (by simp [ReservationPhase.isFilling])

theorem applyReserveAbort_inv (hinv : Inv s) (h : applyReserveAbort s id = .ok s') : Inv s' := by
  simp only [applyReserveAbort, require_bind_eq_ok, okOr_bind_eq_ok, pure_eq_ok_iff] at h
  obtain ⟨hp,record,hrecord,hphase,rfl⟩ := h
  obtain ⟨_,hc⟩ := (hinv.cells id).of_reservePending hrecord hphase
  simp only [cell, Cell.mk.injEq] at hc
  obtain ⟨_,ht,hreleased,hseen,_,hu,hr⟩ := hc
  have hnew : cell { s with reservations := s.reservations.erase id, pending := none } id =
      ⟨none,none,none,true,false,false,false⟩ := by
    simp only [cell, ht, hreleased, hseen, hu, hr, Std.ExtTreeMap.getElem?_erase_self]
    rfl
  refine hinv.step id (.inr hp) (fun j hj => ?_) (hnew ▸ .absent true) ?_ hinv.oneUnresolved (fun h => ?_)
    (fun _ h => .inl h) rfl ?_
  · exact cell_frame hj (getElem?_erase_ne hj) rfl rfl rfl (.inr ⟨.inl rfl,.inr hp⟩) (.inl rfl) (.inl rfl)
  · exact Std.ExtTreeMap.size_erase_le.trans hinv.size
  · simp [hnew, Cell.isFilling] at h
  · simp [hnew]

theorem applyPersistIntent_inv {b : RepairBinding} (hinv : Inv s)
    (h : applyPersistIntent s id b = .ok s') : Inv s' := by
  simp only [applyPersistIntent, require_bind_eq_ok, okOr_bind_eq_ok, pure_eq_ok_iff] at h
  obtain ⟨_,hquiet,record,hrecord,hbinding,⟨hphase,_⟩,rfl⟩ := h
  simp only [isQuiescent, Bool.and_eq_true, Option.isNone_iff_eq_none] at hquiet
  obtain ⟨⟨hp,hu⟩,hr⟩ := hquiet
  obtain ⟨hok,hc⟩ := (hinv.cells id).of_reserved hrecord hphase
  refine hinv.setPhase hc rfl (.inl hp) (.inr rfl) ?_ (fun _ => ⟨hu,hr⟩)
  simpa using @CellOk.persisting _ id _ _ (hok.withPhase (.persistPending b)) rfl hbinding

theorem applyPersistAbort_inv (hinv : Inv s) (h : applyPersistAbort s id = .ok s') : Inv s' := by
  simp only [applyPersistAbort, require_bind_eq_ok, okOr_bind_eq_ok, pure_eq_ok_iff] at h
  obtain ⟨hp,record,hrecord,hphase,rfl⟩ := h
  obtain ⟨b,hb⟩ := Option.isSome_iff_exists.mp hphase
  obtain ⟨hok,_,hc⟩ := (hinv.cells id).of_persistPending hrecord (persistBinding_eq_some hb)
  exact hinv.setPhase hc rfl (.inr hp) (.inl rfl) (.reserved (hok.withPhase _) rfl)
    (by simp [ReservationPhase.isFilling])

theorem transactionOk_fresh (record : ReservationRecord) (b : RepairBinding) :
    TransactionOk id record b .fresh :=
  ⟨by simp [fresh],rfl,by simp [fresh],
    by simp [fresh]⟩

theorem applyPersistComplete_inv {digest : String} {size : Nat} (hinv : Inv s)
    (h : applyPersistComplete s id digest size = .ok s') : Inv s' := by
  simp only [applyPersistComplete, require_bind_eq_ok, okOr_bind_eq_ok, pure_eq_ok_iff] at h
  obtain ⟨hp,record,hrecord,_,b,hb,_,rfl⟩ := h
  have hphase := persistBinding_eq_some hb
  obtain ⟨hok,hbinding,hc⟩ := (hinv.cells id).of_persistPending hrecord hphase
  obtain ⟨hu,hr⟩ := hinv.filling id (by simp [hc, Cell.isFilling, hphase, ReservationPhase.isFilling])
  simp only [cell, Cell.mk.injEq] at hc
  obtain ⟨_,_,hreleased,hseen,_⟩ := hc
  have hnew : cell { (s.setPhase id record (.durable b)).setTransaction id .fresh with
      unresolvedTransaction := some id, pending := none } id =
      ⟨some { record with phase := .durable b },some .fresh,none,true,false,true,false⟩ := by
    simp [cell, RecoveredState.setPhase, RecoveredState.setTransaction, hreleased, hr]
    simpa using hseen
  have hdurable := @CellOk.durable _ id _ _ _ (hok.withPhase (.durable b)) rfl hbinding
    (transactionOk_fresh { record with phase := .durable b } b)
  refine hinv.step id (.inr hp) (fun j hj => ?_) (hnew ▸ hdurable) ?_ (.inr hr) (fun h => ?_)
    (fun _ h => ?_) rfl ?_
  · exact cell_frame hj (getElem?_insert_ne hj) (getElem?_insert_ne hj) rfl rfl
      (.inr ⟨.inl rfl,.inr hp⟩) (.inr ⟨.inr rfl,.inl hu⟩) (.inl rfl)
  · exact (size_insert_of_getElem? hrecord).trans_le hinv.size
  · simp [hnew, Cell.isFilling, ReservationPhase.isFilling] at h
  · simp [rollbackIdAt, RecoveredState.setTransaction, fresh] at h
  · simp [hnew]

structure DurableAt (s : RecoveredState) (id : ReservationId) (record : ReservationRecord)
    (b : RepairBinding) (t : RepairTransactionRecord) : Prop where
  recordOk : RecordOk record
  phase : record.phase = .durable b
  bindingOk : b.validateForRecord record = true
  transactionOk : TransactionOk id record b t
  cell : s.cell id =
    ⟨some record,some t,none,true,t.hasPending,t.isUnresolved,t.hasUnresolvedRollback⟩

namespace DurableAt

variable {record : ReservationRecord} {b : RepairBinding} {t : RepairTransactionRecord}

theorem storedBinding (h : DurableAt s id record b t) : record.phase.storedBinding = some b := by
  rw [h.phase]
  rfl

theorem status (h : DurableAt s id record b t) : ∃ status,
    protocolTransactionStatusFromRecord id record t = .ok status ∧ StatusOf id b t status :=
  h.transactionOk.status h.recordOk h.storedBinding h.bindingOk

theorem not_filling (h : DurableAt s id record b t) : (Cell.mk (some record) (some t) none true
    t.hasPending t.isUnresolved t.hasUnresolvedRollback).isFilling = false := by
  simp [Cell.isFilling, h.phase, ReservationPhase.isFilling]

theorem hasPending_eq (h : DurableAt s id record b t) : t.hasPending = (s.pending == some id) :=
  (congrArg Cell.pending h.cell).symm

theorem isUnresolved_eq (h : DurableAt s id record b t) :
    t.isUnresolved = (s.unresolvedTransaction == some id) := (congrArg Cell.unresolved h.cell).symm

theorem hasUnresolvedRollback_eq (h : DurableAt s id record b t) :
    t.hasUnresolvedRollback = (s.unresolvedRollback == some id) :=
  (congrArg Cell.unresolvedRollback h.cell).symm

end DurableAt

variable {record : ReservationRecord} {b : RepairBinding} {t : RepairTransactionRecord}
  {digest : String} {rollbackId : RepairRollbackId} {event : Option Nat} {sequence : Nat}

theorem Inv.durableAt (hinv : Inv s) (hrecord : s.reservations[id]? = some record)
    (hb : record.phase.durableBinding = some b) (ht : s.transactions[id]? = some t) :
    DurableAt s id record b t := by
  have hphase := durableBinding_eq_some hb
  obtain ⟨hok,hbinding,t',ht',hc⟩ := (hinv.cells id).of_durable hrecord hphase
  obtain rfl : t' = t := by
    have htt := congrArg Cell.transaction hc
    simpa [cell, ht] using htt.symm
  exact ⟨hok,hphase,hbinding,ht',hc⟩

theorem Inv.durableAt_of_unresolved (hinv : Inv s)
    (h : s.unresolvedTransaction = some id ∨ s.unresolvedRollback = some id) :
    ∃ record b t, s.reservations[id]? = some record ∧ s.transactions[id]? = some t ∧
      DurableAt s id record b t := by
  have hcell := hinv.cells id
  generalize hc : s.cell id = c at hcell
  cases hcell with
  | @durable record b t hrecord hphase hbinding ht =>
    exact ⟨record,b,t,congrArg Cell.record hc,congrArg Cell.transaction hc,hrecord,hphase,hbinding,ht,hc⟩
  | _ => simp_all [cell]

theorem DurableAt.replaceTransaction {t' : RepairTransactionRecord}
    {pending unresolved unresolvedRollback : Option ReservationId} (hat : DurableAt s id record b t)
    (hinv : Inv s) (ht' : TransactionOk id record b t')
    (hp : s.pending = none ∨ s.pending = some id) (hp' : pending = none ∨ pending = some id)
    (hu : SlotAt id unresolved s.unresolvedTransaction)
    (hr : SlotAt id unresolvedRollback s.unresolvedRollback)
    (hone : unresolved = none ∨ unresolvedRollback = none)
    (hflagP : t'.hasPending = (pending == some id))
    (hflagU : t'.isUnresolved = (unresolved == some id))
    (hflagR : t'.hasUnresolvedRollback = (unresolvedRollback == some id))
    (hrollback : t'.rollback.map RepairRollbackTransactionRecord.rollbackId =
        t.rollback.map RepairRollbackTransactionRecord.rollbackId ∨
      ∀ rollbackId, t'.rollback.map RepairRollbackTransactionRecord.rollbackId = some rollbackId →
        ∀ j, s.rollbackIdAt j ≠ some rollbackId) :
    Inv { s.setTransaction id t' with
      pending := pending, unresolvedTransaction := unresolved,
      unresolvedRollback := unresolvedRollback } := by
  refine hinv.setTransaction hat.cell hp hp' hu hr ?_ hone hat.not_filling rfl hrollback
  dsimp only
  rw [← hflagP, ← hflagU, ← hflagR]
  exact .durable hat.recordOk hat.phase hat.bindingOk ht'

theorem applyTransactionWriteLeaseConsume_inv {epoch lease : String} (hinv : Inv s)
    (h : applyTransactionWriteLeaseConsume s id digest epoch lease = .ok s') : Inv s' := by
  simp only [applyTransactionWriteLeaseConsume, require_bind_eq_ok, okOr_bind_eq_ok,
    asCorruptJournal_bind_eq_ok, pure_eq_ok_iff] at h
  obtain ⟨⟨hp,hu⟩,_,record,hrecord,b,hb,_,_,_,_,t,ht,⟨hres,hpend,_⟩,status,hstatus,_,payload,hlease,
    hdigest,rfl⟩ := h
  have hat := hinv.durableAt hrecord hb ht
  refine hat.replaceTransaction hinv ?_ (.inl hp) (.inl hp) (.inl rfl) (.inl rfl) hinv.oneUnresolved
    hat.hasPending_eq hat.isUnresolved_eq hat.hasUnresolvedRollback_eq (.inl rfl)
  refine ⟨hat.transactionOk.resolution,?_,by simp [hpend],fun rollback hr => ?_⟩
  · have hfresh : protocolTransactionStatusFromRecord id record .fresh = .ok status := by
      rw [← hstatus]
      exact transactionStatus_congr hres.symm
    simp [writeLeaseIsConsistent, hfresh, hlease, hdigest, Except.toOption]
  · have hcommitted := (hat.transactionOk.rollback rollback hr).committed
    simp [hres] at hcommitted

theorem applyTransactionResolveIntent_inv {phase : RepairTransactionPhase}
    {resolution : RepairTransactionResolution} (hinv : Inv s)
    (h : applyTransactionResolveIntent s id digest phase resolution = .ok s') : Inv s' := by
  simp only [applyTransactionResolveIntent, require_bind_eq_ok, okOr_bind_eq_ok,
    asCorruptJournal_bind_eq_ok, pure_eq_ok_iff] at h
  obtain ⟨⟨hp,_,hu⟩,record,hrecord,b,hb,t,ht,status,hstatus,⟨hdigest,hphase,hunresolved,hchanges,hpend⟩,
    hvalid,rfl⟩ := h
  have hat := hinv.durableAt hrecord hb ht
  obtain ⟨status',hstatus',hof⟩ := hat.status
  obtain rfl := Except.ok.inj (hstatus'.symm.trans hstatus)
  rw [hof.phase] at hphase
  have hnone : t.rollback = none := by
    by_contra hne
    obtain ⟨rollback,hr⟩ := Option.ne_none_iff_exists'.mp hne
    have hcommitted := (hat.transactionOk.rollback rollback hr).committed
    rw [phase_of_committed hcommitted] at hphase
    exact hunresolved hphase
  rw [validateResolutionAgainstIntent_eq] at hvalid
  refine hat.replaceTransaction hinv ?_ (.inl hp) (.inr rfl) (.inl rfl) (.inl rfl) hinv.oneUnresolved
    ?_ hat.isUnresolved_eq hat.hasUnresolvedRollback_eq (.inl rfl)
  · refine ⟨hat.transactionOk.resolution,hat.transactionOk.lease,fun p hpp => ?_,by simp [hnone]⟩
    obtain rfl := Option.some.inj hpp
    exact ⟨hnone,hphase,hunresolved,hvalid,hchanges,status',hstatus,hdigest.symm⟩
  · simp [hasPending]

theorem applyTransactionResolveComplete_inv (hinv : Inv s)
    (h : applyTransactionResolveComplete s id digest = .ok s') : Inv s' := by
  simp only [applyTransactionResolveComplete, require_bind_eq_ok, okOr_bind_eq_ok,
    asCorruptJournal_bind_eq_ok, pure_eq_ok_iff] at h
  obtain ⟨⟨hp,_,hu⟩,record,hrecord,t,ht,p,hpend,status,hstatus,_,rfl⟩ := h
  obtain ⟨record',b,t',hrecord',ht',hat⟩ := hinv.durableAt_of_unresolved (.inl hu)
  obtain rfl : record' = record := by rw [hrecord] at hrecord'; exact (Option.some.inj hrecord').symm
  obtain rfl : t' = t := by rw [ht] at ht'; exact (Option.some.inj ht').symm
  have hpok := hat.transactionOk.pending p hpend
  have hr : s.unresolvedRollback = none := by
    have hone := hinv.oneUnresolved
    simpa [hu] using hone
  refine hat.replaceTransaction hinv ?_ (.inr hp) (.inl rfl) (.inr ⟨?_,.inr hu⟩) (.inl rfl) (.inr hr)
    ?_ ?_ ?_ (.inl rfl)
  · refine ⟨fun r hrr => ?_,hat.transactionOk.lease,by simp,by simp [hpok.noRollback]⟩
    obtain rfl := Option.some.inj hrr
    exact hpok.resolution
  · split_ifs
    · exact .inl rfl
    · exact .inr hu
  · simp [hasPending, hpok.noRollback]
  · rw [isUnresolved]
    split_ifs with hresolved
    · simp [hresolved]
    · simpa [hu] using hresolved
  · simp [hasUnresolvedRollback, hpok.noRollback, RecoveredState.setTransaction, hr]

omit [Sha256Hasher] in
theorem hasRollback_eq_false :
    s.hasRollback rollbackId = false ↔ ∀ j, s.rollbackIdAt j ≠ some rollbackId := by
  rw [← not_iff_not, Bool.not_eq_false, hasRollback, List.any_eq_true]
  push Not
  constructor
  · rintro ⟨⟨j,t⟩,hmem,hany⟩
    have ht := Std.ExtTreeMap.mem_toList_iff_getElem?_eq_some.mp hmem
    refine ⟨j,?_⟩
    cases hr : t.rollback with
    | none => simp [hr] at hany
    | some rollback => simpa [rollbackIdAt, ht, hr] using hany
  · rintro ⟨j,hj⟩
    simp only [rollbackIdAt, Option.map_eq_some_iff, Option.bind_eq_some_iff] at hj
    obtain ⟨rollback,⟨t,ht,hr⟩,hid⟩ := hj
    exact ⟨(j,t),Std.ExtTreeMap.mem_toList_iff_getElem?_eq_some.mpr ht,by simp [hr, hid]⟩

theorem committed_of_validateAgainst {binding : RepairRollbackBindingV1}
    {source : RepairTransactionStatusPayload} (h : binding.validateAgainst source = true) :
    source.resolution.map RepairTransactionResolution.outcome = some .committedAfter := by
  simp only [RepairRollbackBindingV1.validateAgainst, validateCommittedRollbackSource,
    Bool.and_eq_true, beq_iff_eq] at h
  exact h.1.2

theorem applyRollbackBegin_inv {digest' : String} {binding : RepairRollbackBindingV1} (hinv : Inv s)
    (h : applyRollbackBegin s id digest rollbackId digest' binding = .ok s') : Inv s' := by
  simp only [applyRollbackBegin, require_bind_eq_ok, okOr_bind_eq_ok, asCorruptJournal_bind_eq_ok,
    pure_eq_ok_iff] at h
  obtain ⟨⟨hquiet,hfresh,_⟩,record,hrecord,hdurable,t,ht,⟨hpend,hnone⟩,source,
    hsource,hbinding,_,_,_,rfl⟩ := h
  simp only [isQuiescent, Bool.and_eq_true, Option.isNone_iff_eq_none] at hquiet
  obtain ⟨⟨hp,hu⟩,hr⟩ := hquiet
  obtain ⟨b,hb⟩ := Option.isSome_iff_exists.mp hdurable
  have hat := hinv.durableAt hrecord hb ht
  obtain ⟨status,hstatus,hof⟩ := hat.status
  obtain rfl : status = source := by rw [hsource] at hstatus; exact (Except.ok.inj hstatus).symm
  have hcommitted := committed_of_validateAgainst hbinding
  rw [hof.resolution] at hcommitted
  refine hat.replaceTransaction hinv ?_ (.inl hp) (.inl hp) (.inl rfl) (.inr ⟨.inr rfl,.inl hr⟩) (.inl hu)
    ?_ hat.isUnresolved_eq ?_ ?_
  · refine ⟨hat.transactionOk.resolution,hat.transactionOk.lease,by simp [hpend],fun rollback hrr => ?_⟩
    obtain rfl := Option.some.inj hrr
    exact ⟨hcommitted,hpend,⟨status,hsource,hbinding,by simp,by simp⟩,rfl⟩
  · simp [hasPending, hpend, setRollback,
      RecoveredState.setTransaction, hp]
  · simp [hasUnresolvedRollback, rollbackTransactionPhase]
  · refine .inr fun q hq => ?_
    obtain rfl : rollbackId = q := by simpa using hq
    exact hasRollback_eq_false.mp hfresh

theorem DurableAt.replaceRollback {rollback rollback' : RepairRollbackTransactionRecord}
    {pending unresolvedRollback : Option ReservationId} (hat : DurableAt s id record b t)
    (hinv : Inv s) (hr : t.rollback = some rollback) (hp : s.pending = none ∨ s.pending = some id)
    (hp' : pending = none ∨ pending = some id) (hslot : s.unresolvedRollback = some id)
    (hslot' : unresolvedRollback = none ∨ unresolvedRollback = some id)
    (hid : rollback'.rollbackId = rollback.rollbackId)
    (hbinding : rollback'.binding = rollback.binding)
    (hlease : rollbackWriteLeaseIsConsistent id record t rollback' = true)
    (hresolution : ∀ source, protocolTransactionStatusFromRecord id record t = .ok source →
      ∀ r, rollback'.resolution = some r → r.validateAgainst source = true)
    (hpending : ∀ source, protocolTransactionStatusFromRecord id record t = .ok source →
      ∀ p, rollback'.pendingResolution = some p → RollbackPendingOk source rollback' p)
    (hflagP : rollback'.pendingResolution.isSome = (pending == some id))
    (hflagR : (rollbackTransactionPhase rollback' != .resolved) = (unresolvedRollback == some id)) :
    Inv { s.setRollback id t rollback' with
      pending := pending, unresolvedRollback := unresolvedRollback } := by
  have hok := hat.transactionOk.rollback rollback hr
  obtain ⟨source,hsource,hvalid,_⟩ := hok.source
  have hnone : s.unresolvedTransaction = none := by
    have hone := hinv.oneUnresolved
    simpa [hslot] using hone
  refine hat.replaceTransaction hinv ?_ hp hp' (.inl rfl) (.inr ⟨hslot',.inr hslot⟩) (.inl hnone) ?_
    hat.isUnresolved_eq ?_ (.inl (by simp [hr, hid]))
  · refine ⟨hat.transactionOk.resolution,hat.transactionOk.lease,by simp [hok.settled],fun q hq => ?_⟩
    obtain rfl := Option.some.inj hq
    exact ⟨hok.committed,hok.settled,
      ⟨source,hsource,by rw [hbinding]; exact hvalid,hresolution source hsource,
      hpending source hsource⟩,hlease⟩
  · simpa [hasPending, hok.settled] using hflagP
  · simpa [hasUnresolvedRollback] using hflagR

theorem Inv.rollbackAt (hinv : Inv s) (hslot : s.unresolvedRollback = some id)
    (hrecord : s.reservations[id]? = some record) (ht : s.transactions[id]? = some t) :
    ∃ b, DurableAt s id record b t := by
  obtain ⟨record',b,t',hrecord',ht',hat⟩ := hinv.durableAt_of_unresolved (.inr hslot)
  obtain rfl : record' = record := by rw [hrecord] at hrecord'; exact (Option.some.inj hrecord').symm
  obtain rfl : t' = t := by rw [ht] at ht'; exact (Option.some.inj ht').symm
  exact ⟨b,hat⟩

theorem DurableAt.rollbackUnresolved {rollback : RepairRollbackTransactionRecord}
    (hat : DurableAt s id record b t) (hslot : s.unresolvedRollback = some id)
    (hr : t.rollback = some rollback) :
    (rollbackTransactionPhase rollback != .resolved) = true := by
  have h := hat.hasUnresolvedRollback_eq
  simpa [hasUnresolvedRollback, hr, hslot] using h

theorem applyRollbackWriteLeaseConsume_inv {epoch lease : String} (hinv : Inv s)
    (h : applyRollbackWriteLeaseConsume s id rollbackId digest epoch lease = .ok s') : Inv s' := by
  simp only [applyRollbackWriteLeaseConsume, require_bind_eq_ok, okOr_bind_eq_ok,
    asCorruptJournal_bind_eq_ok, pure_eq_ok_iff] at h
  obtain ⟨⟨hp,hslot⟩,_,record,hrecord,t,ht,rollback,hr,⟨_,hres,hpend,_⟩,status,hstatus,_,payload,hlease,
    hdigest,rfl⟩ := h
  obtain ⟨b,hat⟩ := hinv.rollbackAt hslot hrecord ht
  refine hat.replaceRollback hinv hr (.inl hp) (.inl hp) hslot (.inr hslot) rfl rfl ?_ (by simp [hres])
    (by simp [hpend]) (by simp [hpend, hp]) ?_
  · have hpending : protocolRollbackStatusFromRecord id record t
        ⟨rollback.rollbackId,rollback.binding,none,none,none⟩ = .ok status := by
      rw [← hstatus]
      exact rollbackStatus_congr rfl rfl rfl rfl hres.symm
    simp [rollbackWriteLeaseIsConsistent, hpending, hlease, hdigest, Except.toOption]
  · have hphase := hat.rollbackUnresolved hslot hr
    simpa [rollbackTransactionPhase, setRollback, RecoveredState.setTransaction,
      hslot] using hphase

theorem applyRollbackResolveIntent_inv {phase : RepairTransactionPhase}
    {resolution : RepairRollbackResolution} (hinv : Inv s)
    (h : applyRollbackResolveIntent s id rollbackId digest phase resolution = .ok s') : Inv s' := by
  simp only [applyRollbackResolveIntent, require_bind_eq_ok, okOr_bind_eq_ok,
    asCorruptJournal_bind_eq_ok, pure_eq_ok_iff] at h
  obtain ⟨⟨hp,hslot,_⟩,record,hrecord,t,ht,rollback,hr,status,hstatus,
    ⟨_,hdigest,hphase,hunresolved,hchanges,hpend⟩,hvalid,rfl⟩ := h
  obtain ⟨b,hat⟩ := hinv.rollbackAt hslot hrecord ht
  have hok := hat.transactionOk.rollback rollback hr
  obtain ⟨source,status',hsource,hstatus',hof⟩ := hok.status
  obtain rfl := Except.ok.inj (hstatus'.symm.trans hstatus)
  rw [hof.ofSource] at hvalid
  have hsame : ∀ source', protocolTransactionStatusFromRecord id record t = .ok source' →
      source' = source := by
    intro source' h'
    rw [hsource] at h'
    exact (Except.ok.inj h').symm
  refine hat.replaceRollback hinv hr (.inl hp) (.inr rfl) hslot (.inr hslot) rfl rfl ?_
    (fun source' h' r hrr => ?_) (fun source' h' p hpp => ?_) (by simp) ?_
  · rw [← hok.lease]
    exact rollbackWriteLease_congr rfl rfl rfl rfl rfl
  · obtain ⟨source'',hsource'',_,hresolution,_⟩ := hok.source
    rw [hsame source' h', ← hsame source'' hsource'']
    exact hresolution r hrr
  · rw [hsame source' h']
    obtain rfl := Option.some.inj hpp
    exact ⟨by rw [← hphase, hof.phase]; rfl,hunresolved,hvalid,hchanges,_,hof.digest,hdigest⟩
  · have hphase := hat.rollbackUnresolved hslot hr
    simpa [rollbackTransactionPhase, setRollback, RecoveredState.setTransaction,
      hslot] using hphase

theorem applyRollbackResolveComplete_inv (hinv : Inv s)
    (h : applyRollbackResolveComplete s id rollbackId digest = .ok s') : Inv s' := by
  simp only [applyRollbackResolveComplete, require_bind_eq_ok, okOr_bind_eq_ok,
    asCorruptJournal_bind_eq_ok, pure_eq_ok_iff] at h
  obtain ⟨⟨hp,hslot,_⟩,record,hrecord,t,ht,rollback,hr,p,hpend,status,hstatus,_,rfl⟩ := h
  obtain ⟨b,hat⟩ := hinv.rollbackAt hslot hrecord ht
  have hok := hat.transactionOk.rollback rollback hr
  obtain ⟨source,hsource,_,_,hpendings⟩ := hok.source
  refine hat.replaceRollback hinv hr (.inr hp) (.inl rfl) hslot ?_ rfl rfl ?_ (fun source' h' r hrr => ?_)
    (by simp) (by simp) ?_
  · split_ifs
    · exact .inl rfl
    · exact .inr hslot
  · rw [← hok.lease]
    exact rollbackWriteLease_congr rfl rfl rfl rfl rfl
  · obtain rfl : source' = source := by rw [hsource] at h'; exact (Except.ok.inj h').symm
    obtain rfl := Option.some.inj hrr
    exact (hpendings p hpend).resolution
  · split_ifs with hresolved
    · simp [hresolved]
    · simpa [hslot] using hresolved

theorem applyCancelIntent_inv (hinv : Inv s) (h : applyCancelIntent s id = .ok s') : Inv s' := by
  simp only [applyCancelIntent, require_bind_eq_ok, okOr_bind_eq_ok, pure_eq_ok_iff] at h
  obtain ⟨hp,record,hrecord,hphase,rfl⟩ := h
  obtain ⟨hok,hc⟩ := (hinv.cells id).of_reserved hrecord hphase
  refine hinv.setPhase hc rfl (.inl hp) (.inr rfl) ?_ (by simp [ReservationPhase.isFilling])
  simpa using @CellOk.cancelling _ id _ (hok.withPhase .cancelPending) rfl

omit [Sha256Hasher] in
theorem releaseStamp_le {stamp : Nat} (h : releaseStamp s event = some stamp) :
    stamp ≤ s.logicalEventClock := by
  unfold releaseStamp at h
  split at h
  · exact (Option.some.inj h).symm.le
  · split_ifs at h with hstamp
    obtain rfl := Option.some.inj h
    exact hstamp.1
  · cases h

theorem Inv.release {tombstone : ReleaseTombstone} {transactions : IdMap RepairTransactionRecord}
    (hinv : Inv s) (hp : s.pending = some id)
    (hframe : ∀ j, j ≠ id → transactions[j]? = s.transactions[j]?) (hnone : transactions[id]? = none)
    (hseen : (s.cell id).seen = true) (hu : (s.cell id).unresolved = false)
    (hr : (s.cell id).unresolvedRollback = false) (htombstone : TombstoneOk tombstone)
    (hstamp : tombstone.releasedAtEvent ≤ s.logicalEventClock) :
    Inv { s with
      reservations := s.reservations.erase id
      transactions := transactions
      released := s.released.insert id tombstone
      pending := none } := by
  have hnew : cell { s with
      reservations := s.reservations.erase id
      transactions := transactions
      released := s.released.insert id tombstone
      pending := none } id = ⟨none,none,some tombstone,true,false,false,false⟩ := by
    simp only [cell] at hseen hu hr
    simp only [cell, hseen, hu, hr, hnone, Std.ExtTreeMap.getElem?_erase_self,
      Std.ExtTreeMap.getElem?_insert_self]
    rfl
  refine hinv.step id (.inr hp) (fun j hj => ?_) (hnew ▸ .released htombstone) ?_ hinv.oneUnresolved
    (fun h => ?_) (fun rollbackId h => ?_) rfl ?_
  · exact cell_frame hj (getElem?_erase_ne hj) (hframe j hj) (getElem?_insert_ne hj) rfl
      (.inr ⟨.inl rfl,.inr hp⟩) (.inl rfl) (.inl rfl)
  · exact Std.ExtTreeMap.size_erase_le.trans hinv.size
  · simp [hnew, Cell.isFilling] at h
  · simp [rollbackIdAt, hnone] at h
  · simpa [hnew] using hstamp

theorem applyCancelComplete_inv (hinv : Inv s) (h : applyCancelComplete s id event = .ok s') :
    Inv s' := by
  simp only [applyCancelComplete, require_bind_eq_ok, okOr_bind_eq_ok, pure_eq_ok_iff] at h
  obtain ⟨stamp,hstamp,⟨hp,_⟩,record,hrecord,hphase,rfl⟩ := h
  obtain ⟨hok,hc⟩ := (hinv.cells id).of_cancelPending hrecord hphase
  have ht : s.transactions[id]? = none := congrArg Cell.transaction hc
  exact hinv.release hp (fun _ _ => rfl) ht (congrArg Cell.seen hc) (congrArg Cell.unresolved hc)
    (congrArg Cell.unresolvedRollback hc) (.cancelled hok hphase) (releaseStamp_le hstamp)

omit [Sha256Hasher] in
theorem isFinal_iff : s.isFinal id t = true ↔
    t.isUnresolved = false ∧ s.unresolvedTransaction ≠ some id ∧ t.hasUnresolvedRollback = false ∧
      s.unresolvedRollback ≠ some id := by
  simp only [isFinal, isUnresolved,
    hasUnresolvedRollback, Bool.and_eq_true, beq_iff_eq, bne_iff_ne,
    bne_eq_false_iff_eq, and_assoc]
  cases t.rollback <;> simp

theorem applyRetireIntent_inv (hinv : Inv s) (h : applyRetireIntent s id = .ok s') : Inv s' := by
  simp only [applyRetireIntent, require_bind_eq_ok, okOr_bind_eq_ok, pure_eq_ok_iff] at h
  obtain ⟨hp,record,hrecord,b,hb,t,ht,hfinal,r,hres,rfl⟩ := h
  have hat := hinv.durableAt hrecord hb ht
  obtain ⟨hresolved,_,hrollback,_⟩ := isFinal_iff.mp hfinal
  have hpending : t.hasPending = false := by rw [hat.hasPending_eq, hp]; rfl
  refine hinv.setPhase hat.cell rfl (.inl hp) (.inr rfl) ?_ (by simp [ReservationPhase.isFilling])
  rw [hresolved, hrollback]
  simpa using @CellOk.retiring _ id _ _ _ _
    (hat.recordOk.withPhase (.retirePending b r)) rfl hat.bindingOk
    (hat.transactionOk.resolution r hres) hres hpending hresolved hrollback

theorem applyRetireComplete_inv (hinv : Inv s) (h : applyRetireComplete s id event = .ok s') :
    Inv s' := by
  simp only [applyRetireComplete, require_bind_eq_ok, okOr_bind_eq_ok, pure_eq_ok_iff] at h
  obtain ⟨stamp,hstamp,⟨hp,_⟩,record,hrecord,hphase,t,ht,_,rfl⟩ := h
  obtain ⟨b,r,hphase⟩ := isRetirePending_iff.mp hphase
  obtain ⟨hok,hbinding,hresolution,t',htr,hresolved,hc⟩ :=
    (hinv.cells id).of_retirePending hrecord hphase
  have hfinal : r.phase = .resolved := by
    rw [isUnresolved, bne_eq_false_iff_eq, transactionPhase_eq, htr] at hresolved
    exact hresolved
  exact hinv.release hp (fun _ hj => getElem?_erase_ne hj) Std.ExtTreeMap.getElem?_erase_self
    (congrArg Cell.seen hc) (congrArg Cell.unresolved hc) (congrArg Cell.unresolvedRollback hc)
    (.retired hok hphase hbinding hresolution hfinal) (releaseStamp_le hstamp)

theorem applyCompactionBegin_inv {generation clock active retained : Nat} {anchor : String}
    (hinv : Inv s)
    (h : applyCompactionBegin s sequence generation clock active retained anchor = .ok s') :
    Inv s' := by
  simp only [applyCompactionBegin, require_bind_eq_ok, okOr_bind_eq_ok, pure_eq_ok_iff] at h
  obtain ⟨_,_,_,⟨_,hreleased,_⟩,rfl⟩ := h
  refine ⟨hinv.cells,hinv.size,hinv.oneUnresolved,hinv.filling,hinv.rollbackIds,?_⟩
  intro id tombstone htombstone
  simp [cell, Std.ExtTreeMap.isEmpty_iff.mp hreleased] at htombstone

theorem applyCompactionComplete_inv {generation : Nat} (hinv : Inv s)
    (h : applyCompactionComplete s generation = .ok s') : Inv s' := by
  simp only [applyCompactionComplete, require_bind_eq_ok, okOr_bind_eq_ok, pure_eq_ok_iff] at h
  obtain ⟨_,_,_,_,_,rfl⟩ := h
  exact ⟨hinv.cells,hinv.size,hinv.oneUnresolved,hinv.filling,hinv.rollbackIds,hinv.stamps⟩

theorem advanceClock_inv {event : RepairEvent} (hinv : Inv s) (h : advanceClock s event = .ok s') :
    Inv s' := by
  unfold advanceClock at h
  split_ifs at h
  · exact Except.ok.inj h ▸ hinv
  · obtain rfl := Except.ok.inj h
    exact ⟨hinv.cells,hinv.size,hinv.oneUnresolved,hinv.filling,hinv.rollbackIds,
      fun id t ht => (hinv.stamps id t ht).trans (Nat.le_succ _)⟩

theorem dispatchRepairEvent_inv {event : RepairEvent} (hinv : Inv s)
    (h : dispatchRepairEvent s event sequence = .ok s') : Inv s' := by
  cases event with
  | compactionBegin => exact applyCompactionBegin_inv hinv h
  | compactionComplete => exact applyCompactionComplete_inv hinv h
  | reserveIntent => exact applyReserveIntent_inv hinv h
  | reserveComplete => exact applyReserveComplete_inv hinv h
  | reserveAbort => exact applyReserveAbort_inv hinv h
  | persistIntent => exact applyPersistIntent_inv hinv h
  | persistComplete => exact applyPersistComplete_inv hinv h
  | persistAbort => exact applyPersistAbort_inv hinv h
  | transactionResolveIntent => exact applyTransactionResolveIntent_inv hinv h
  | transactionResolveComplete => exact applyTransactionResolveComplete_inv hinv h
  | transactionWriteLeaseConsume => exact applyTransactionWriteLeaseConsume_inv hinv h
  | rollbackBegin => exact applyRollbackBegin_inv hinv h
  | rollbackWriteLeaseConsume => exact applyRollbackWriteLeaseConsume_inv hinv h
  | rollbackResolveIntent => exact applyRollbackResolveIntent_inv hinv h
  | rollbackResolveComplete => exact applyRollbackResolveComplete_inv hinv h
  | cancelIntent => exact applyCancelIntent_inv hinv h
  | cancelComplete => exact applyCancelComplete_inv hinv h
  | retireIntent => exact applyRetireIntent_inv hinv h
  | retireComplete => exact applyRetireComplete_inv hinv h

theorem applyRepairEvent_inv {event : RepairEvent} (hinv : Inv s)
    (h : applyRepairEvent s event sequence = .ok s') : Inv s' := by
  rw [applyRepairEvent, bind_ok_iff] at h
  obtain ⟨ticked,htick,hdispatch⟩ := h
  exact dispatchRepairEvent_inv (advanceClock_inv hinv htick) hdispatch

theorem replayFrom_inv {journal : List RepairEvent} (hinv : Inv s)
    (h : replayFrom s sequence journal = .ok s') : Inv s' := by
  induction journal generalizing s sequence with
  | nil => exact Except.ok.inj h ▸ hinv
  | cons event journal ih =>
    rw [replayFrom, bind_ok_iff] at h
    obtain ⟨next,hnext,hrest⟩ := h
    exact ih (applyRepairEvent_inv hinv hnext) hrest

theorem replay_inv {journal : List RepairEvent} (h : replay journal = .ok s) : Inv s :=
  replayFrom_inv inv_default h

end Events

end KernAid.RepairStore
