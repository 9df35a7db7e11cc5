import KernAid.TransactionOperations

/-! `open`: what was left pending is finished or undone, as the file shows. -/

set_option autoImplicit false

namespace KernAid.RepairStore

open Encoding CrashLogic Protocol Program RecoveredState

def RecoveredState.abortion (s : RecoveredState) : Option RepairEvent := do
  let id ← s.pending
  let record ← s.reservations[id]?
  match record.phase with
  | .reservePending => some (.reserveAbort id)
  | .persistPending _ => some (.persistAbort id)
  | .reserved | .durable _ | .cancelPending | .retirePending _ _ => none

section Files

theorem pendingFileComplete_total {observed : Option BackupFile} {capacity : Nat}
    {verify : List UInt8 → Except RepairVaultStoreError Unit}
    (hverify : ∀ bytes e, bytes.length = capacity → verify bytes = .error e →
      e = .writeVerificationFailed) :
    ∃ complete, pendingFileComplete observed capacity verify = .ok complete ∧
      (complete = true → ∃ file, observed = some file ∧ verify file.bytes = .ok () ∧
        file.bytes.length = capacity ∧ capacity ≤ file.allocated) := by
  unfold pendingFileComplete
  cases observed with
  | none => exact ⟨false,rfl,by simp⟩
  | some file =>
    by_cases hexact : exactAllocation file capacity = true
    · simp only [hexact, if_true]
      simp only [exactAllocation, Bool.and_eq_true, decide_eq_true_eq] at hexact
      cases hresult : verify file.bytes with
      | ok u => exact ⟨true,rfl,fun _ => ⟨file,rfl,hresult,hexact⟩⟩
      | error e =>
        rw [hverify file.bytes e hexact.1 hresult]
        exact ⟨false,rfl,by simp⟩
    · exact ⟨false,by simp [hexact],by simp⟩

end Files

variable [Sha256Hasher]

/-- `s'` is `s` with its pending operation undone. -/
def RecoveredState.abortsTo (s s' : RecoveredState) : Prop :=
  ∃ event n, s.abortion = some event ∧ applyRepairEvent s event n = .ok s'

/-- What recovery makes of a state. -/
inductive Reconciled (s : RecoveredState) : RecoveredState → Prop
  | idle (hpending : s.pending = none) : Reconciled s s
  | completed {s' : RecoveredState} (hcompletes : s.completesTo s') : Reconciled s s'
  | aborted {s' : RecoveredState} (haborts : s.abortsTo s') : Reconciled s s'

/-- How a reconciliation from `s` ends. -/
def Recovers (vault : VaultIdentity) (excused : Prop) (s : RecoveredState)
    (r : Except RepairVaultStoreError Unit) (t : World) : Prop :=
  r = .ok () ∧ Settled vault t ∧ t.store.healthy = true ∧ Reconciled s t.store.state ∨
    (∃ e, r = .error e) ∧ excused ∧ SessionOk vault t

section Reconcile

variable [JournalChain] {w : World} {vault : VaultIdentity} {excused : Prop} {id : ReservationId}
  {record : ReservationRecord}

variable {s : RecoveredState}

/-- A session that has replayed the journal to `s` and has yet to reconcile it with the files. -/
structure Reconciling (vault : VaultIdentity) (s : RecoveredState) (w : World) : Prop where
  live : Live vault w
  healthy : w.store.healthy = true
  state : w.store.state = s
  settled : w.disk.settled

theorem Reconciling.after {t : World} (h : Reconciling vault s w) (ht : FilesDone vault w t) :
    Reconciling vault s t :=
  ⟨ht.live,by rw [ht.store, h.healthy],by rw [ht.store, h.state],ht.settled⟩

theorem wp_reconciled {event : RepairEvent} {s₂ : RecoveredState} (h : Reconciling vault s w)
    (hpending : s.pending.isSome = true) (hevent : s.completion = some event ∨ s.abortion = some event)
    (hcontrol : event.isControl = false)
    (hdispatch : dispatchRepairEvent s.tick event (w.disk.journal.length + 1) = .ok s₂)
    (hclock : u64Bound ≤ s.logicalEventClock + 1 → excused) (hidle : s₂.pending = none)
    (hreserves : event.reserves = none) (hfiles : FilesOk w.disk s → FilesOk w.disk s₂) :
    wp (appendEvent event) (StepIn vault excused s)
      (Recovers vault excused s) w := by
  obtain ⟨hlive,hhealthy,rfl,hsettled⟩ := h
  refine wp_complete hlive rfl hpending hsettled hcontrol
    (foreseen_of_dispatch hlive.journal.live hcontrol hdispatch hclock) hidle hreserves
    (hfiles hlive.files) ?_ ?_
  · intro hdone happly
    refine .inl ⟨rfl,hdone,hhealthy,?_⟩
    rcases hevent with hevent | hevent
    · exact .completed ⟨event,_,hevent,happly⟩
    · exact .aborted ⟨event,_,hevent,happly⟩
  · exact fun e t hexcused hsession => .inr ⟨⟨e,rfl⟩,hexcused,hsession⟩

omit [JournalChain] in
theorem Inv.pendingRecord (hinv : Inv s) (hpending : s.pending = some id) :
    ∃ record, s.reservations[id]? = some record := by
  have hcell := hinv.cells id
  have hwaits : (s.cell id).pending = true := by simp [cell, hpending]
  generalize hc : s.cell id = c at hcell hwaits
  have hactive : s.reservations[id]? = c.record := hc ▸ rfl
  rw [hactive]
  cases hcell <;> simp_all

theorem wp_reconcileReserve (h : Reconciling vault s w) (hpending : s.pending = some id)
    (hrecord : s.reservations[id]? = some record) (hphase : record.phase = .reservePending)
    (hclock : u64Bound ≤ s.logicalEventClock + 1 → excused) :
    wp (reconcileReservation id record) (StepIn vault excused s)
      (Recovers vault excused s) w := by
  obtain rfl := h.state
  obtain ⟨_,hcell⟩ := (h.live.journal.inv.cells id).of_reservePending hrecord hphase
  have hnotx : w.store.state.transactions[id]? = none := congrArg Cell.transaction hcell
  have hsome : w.store.state.pending.isSome = true := by rw [hpending]; rfl
  have hcompletion : w.store.state.completion = some (.reserveComplete id) := by
    rw [completion_of_record hpending (fun t ht => nomatch hnotx.symm.trans ht) hrecord,
      ReservationRecord.completion, hphase]
  have habortion : w.store.state.abortion = some (.reserveAbort id) := by
    simp [abortion, hpending, hrecord, hphase]
  have hcomplete := applyReserveComplete_accepts (s := w.store.state.tick) hpending hrecord hphase
  have habort := applyReserveAbort_accepts (s := w.store.state.tick) hpending hrecord hphase
  obtain ⟨complete,hanswer,hyes⟩ := @pendingFileComplete_total w.disk.backups[id]? _ _
    (fun bytes e hlength (herror : verifyZeroFilled bytes record.reservedCapacityBytes = .error e) =>
      verifyFileContents_error hlength herror)
  rw [reconcileReservation, hphase]
  refine (wp_query_bind hanswer).mpr ?_
  cases complete with
  | true =>
    obtain ⟨file,hfile,hzero,hlength,hallocated⟩ := hyes rfl
    refine wp_reconciled h hsome (.inl hcompletion) rfl hcomplete hclock rfl rfl ?_
    have hzeros := verifyFileContents_zero_iff.mp hzero
    exact fun hfiles => hfiles.insert rfl ⟨⟨file,hfile,hzeros,hlength,hallocated⟩,h.settled id⟩
  | false =>
    refine wp_bind.mpr (wp_removePendingBackupFile h.live h.settled hrecord (by rw [hphase]; rfl) ?_)
    intro t ht hgone
    rw [andThen_ok]
    exact wp_reconciled (h.after ht) hsome (.inr habortion) rfl habort hclock rfl rfl
      fun hfiles => hfiles.erase rfl ⟨hgone,ht.settled id⟩

theorem wp_reconcilePersist {binding : RepairBinding} (h : Reconciling vault s w)
    (hpending : s.pending = some id) (hrecord : s.reservations[id]? = some record)
    (hphase : record.phase = .persistPending binding)
    (hclock : u64Bound ≤ s.logicalEventClock + 1 → excused) :
    wp (reconcileReservation id record) (StepIn vault excused s)
      (Recovers vault excused s) w := by
  obtain rfl := h.state
  have hinv := h.live.journal.inv
  obtain ⟨_,_,hcell⟩ := (hinv.cells id).of_persistPending hrecord hphase
  have hnotx : w.store.state.transactions[id]? = none := congrArg Cell.transaction hcell
  have hfilling : (w.store.state.cell id).isFilling = true := by
    simp [Cell.isFilling, cell, hrecord, hphase, ReservationPhase.isFilling]
  have hsome : w.store.state.pending.isSome = true := by rw [hpending]; rfl
  have hcompletion : w.store.state.completion = some (.persistComplete id
      (encodeHex record.draft.expectedBackupSha256.toList) record.draft.backupSizeBytes) := by
    rw [completion_of_record hpending (fun t ht => by cases hnotx.symm.trans ht) hrecord,
      ReservationRecord.completion, hphase]
  have habortion : w.store.state.abortion = some (.persistAbort id) := by
    simp [abortion, hpending, hrecord, hphase]
  have hcomplete := applyPersistComplete_accepts (s := w.store.state.tick) hpending hrecord hphase hnotx
    (hinv.filling id hfilling).1
  have habort := applyPersistAbort_accepts (s := w.store.state.tick) hpending hrecord hphase
  obtain ⟨complete,hanswer,hyes⟩ := @pendingFileComplete_total w.disk.backups[id]? _ _
    (fun bytes e hlength (herror : verifyFileContents bytes record false = .error e) =>
      verifyFileContents_error hlength herror)
  rw [reconcileReservation, hphase]
  refine (wp_query_bind hanswer).mpr ?_
  cases complete with
  | true =>
    obtain ⟨file,hfile,hverified,hlength,hallocated⟩ := hyes rfl
    obtain ⟨hbytes,hsize,hdigest,hpadding⟩ := verifyFileContents_iff.mp hverified
    refine wp_reconciled h hsome (.inl hcompletion) rfl hcomplete hclock rfl rfl ?_
    exact fun hfiles => hfiles.insert rfl
      ⟨⟨file,hfile,⟨hbytes,hsize,hdigest,hpadding⟩,hlength,hallocated⟩,h.settled id⟩
  | false =>
    refine wp_bind.mpr (wp_resetPendingBackupFile h.live h.settled hrecord hphase ?_)
    intro t ht hzeros
    rw [andThen_ok]
    exact wp_reconciled (h.after ht) hsome (.inr habortion) rfl habort hclock rfl rfl
      fun hfiles => hfiles.insert rfl ⟨hzeros.present,hzeros.synced⟩

theorem wp_reconcileRelease {s₂ : RecoveredState} {event : RepairEvent} (h : Reconciling vault s w)
    (hpending : s.pending = some id) (hrecord : s.reservations[id]? = some record)
    (hphase : (StorageStep.unlink id).mayChange record.phase = true)
    (hcompletion : s.completion = some event) (hcontrol : event.isControl = false)
    (hdispatch : s.released.size < maxReleaseTombstones →
      ∀ n, dispatchRepairEvent s.tick event n = .ok s₂)
    (hclock : u64Bound ≤ s.logicalEventClock + 1 → excused) (hidle : s₂.pending = none)
    (hreserves : event.reserves = none) (hactive : s₂.reservations = s.reservations.erase id) :
    wp (removePendingBackupFile id >>= fun _ => appendEvent event)
      (StepIn vault excused s) (Recovers vault excused s) w := by
  obtain rfl := h.state
  have hsome : w.store.state.pending.isSome = true := by rw [hpending]; rfl
  have hfew := released_lt_of_pending h.live.journal.replayed (h.live.journal.room hsome) hsome
  refine wp_bind.mpr (wp_removePendingBackupFile h.live h.settled hrecord hphase ?_)
  intro t ht hgone
  rw [andThen_ok]
  exact wp_reconciled (h.after ht) hsome (.inl hcompletion) hcontrol
    (hdispatch hfew _) hclock hidle hreserves
    fun hfiles => hfiles.erase hactive ⟨hgone,ht.settled id⟩

theorem wp_reconcileReservation (h : Reconciling vault s w) (hpending : s.pending = some id)
    (hrecord : s.reservations[id]? = some record) (hwaiting : record.phase.isSettled = false)
    (hclock : u64Bound ≤ s.logicalEventClock + 1 → excused) :
    wp (reconcileReservation id record) (StepIn vault excused s)
      (Recovers vault excused s) w := by
  have hinv : Inv s := h.state ▸ h.live.journal.inv
  have hreplaying : s.compactionReplay = none := h.state ▸ h.live.journal.live
  have hstamp : releaseStamp s.tick none = some s.tick.logicalEventClock := releaseStamp_live hreplaying
  have hunreleased := notMem_of_getElem? (hinv.not_released hrecord)
  cases hphase : record.phase with
  | reservePending => exact wp_reconcileReserve h hpending hrecord hphase hclock
  | persistPending b => exact wp_reconcilePersist h hpending hrecord hphase hclock
  | cancelPending =>
    obtain ⟨_,hcell⟩ := (hinv.cells id).of_cancelPending hrecord hphase
    have hnotx : s.transactions[id]? = none := congrArg Cell.transaction hcell
    have hcompletion : s.completion = some (.cancelComplete id none) := by
      rw [completion_of_record hpending (fun t ht => nomatch hnotx.symm.trans ht) hrecord,
        ReservationRecord.completion, hphase]
    rw [reconcileReservation, hphase]
    exact wp_reconcileRelease h hpending hrecord (by rw [hphase]; rfl)
      hcompletion rfl (fun hfew _ => applyCancelComplete_accepts (s := s.tick) hstamp hpending hfew
        hunreleased hrecord hphase) hclock rfl rfl rfl
  | retirePending b r =>
    have hcell := hinv.cells id
    generalize hc : s.cell id = c at hcell
    have hcrecord : c.record = some record := hc ▸ hrecord
    obtain ⟨t,ht,hfinal,hquiet⟩ : ∃ t, s.transactions[id]? = some t ∧ s.isFinal id t = true ∧
        t.hasPending = false := by
      cases hcell with
      | @retiring _ _ _ t _ _ _ _ _ hnone hresolved hrolled =>
        refine ⟨t,congrArg Cell.transaction hc,isFinal_iff.mpr ⟨hresolved,?_,hrolled,?_⟩,hnone⟩
        · simpa [cell] using congrArg Cell.unresolved hc
        · simpa [cell] using congrArg Cell.unresolvedRollback hc
      | _ => simp_all
    have hcompletion : s.completion = some (.retireComplete id none) := by
      rw [completion_of_record hpending (fun t' ht' => by
        obtain rfl := Option.some.inj (ht'.symm.trans ht)
        exact hquiet) hrecord, ReservationRecord.completion, hphase]
    rw [reconcileReservation, hphase]
    exact wp_reconcileRelease h hpending hrecord (by rw [hphase]; rfl)
      hcompletion rfl (fun hfew _ => applyRetireComplete_accepts (s := s.tick) hstamp hpending hfew
        hunreleased hrecord hphase ht hfinal) hclock rfl rfl rfl
  | reserved | durable => simp [hphase, ReservationPhase.isSettled] at hwaiting

omit [JournalChain] in
theorem Inv.noResolution_of_waiting {t : RepairTransactionRecord} (hinv : Inv s)
    (hrecord : s.reservations[id]? = some record) (hwaiting : record.phase.isSettled = false)
    (ht : s.transactions[id]? = some t) : t.hasPending = false := by
  have hcell := hinv.cells id
  generalize hc : s.cell id = c at hcell
  have hcrecord : c.record = some record := hc ▸ hrecord
  have hct : c.transaction = some t := hc ▸ ht
  cases hcell <;> simp_all [ReservationPhase.isSettled]

theorem wp_reconcileResolution {b : RepairBinding} {t : RepairTransactionRecord}
    (h : Reconciling vault s w) (hpending : s.pending = some id) (hat : DurableAt s id record b t)
    (hclock : u64Bound ≤ s.logicalEventClock + 1 → excused) :
    wp reconcilePending (StepIn vault excused s)
      (Recovers vault excused s) w := by
  obtain rfl := h.state
  have hsome : w.store.state.pending.isSome = true := by rw [hpending]; rfl
  have ht : w.store.state.transactions[id]? = some t := congrArg Cell.transaction hat.cell
  have hwaits : t.hasPending = true := by rw [hat.hasPending_eq, hpending, beq_self_eq_true]
  rw [reconcilePending, wp_read_bind]
  simp only [hpending, ht, Option.bind_some]
  cases hresolution : t.pendingResolution with
  | some p =>
    have hok := hat.transactionOk.pending p hresolution
    have hslot := hat.unresolved_of_phase (hok.phase ▸ hok.unresolved)
    have hcompletion : w.store.state.completion =
        some (.transactionResolveComplete id p.transactionBindingSha256) := by
      simp only [completion, hpending, Option.bind_eq_bind, Option.bind_some, ht, hresolution]
    exact wp_reconciled h hsome (.inl hcompletion) rfl
      (applyTransactionResolveComplete_accepts
        (s := w.store.state.tick) hpending hslot hat.tick hresolution)
      hclock rfl rfl fun hfiles => hfiles.same rfl
  | none =>
    obtain ⟨rollback,hrollback,p,hp⟩ : ∃ rollback, t.rollback = some rollback ∧
        ∃ p, rollback.pendingResolution = some p := by
      simpa [RepairTransactionRecord.hasPending, hresolution, Option.any_eq_true,
        Option.isSome_iff_exists] using hwaits
    obtain ⟨source,_,_,_,hpendings⟩ := (hat.transactionOk.rollback rollback hrollback).source
    have hok := hpendings p hp
    have hslot := hat.rollback_of_phase hrollback (hok.phase ▸ hok.unresolved)
    have hchild : pendingRollbackResolution t =
        some (rollback.rollbackId,p.rollbackTransactionBindingSha256) := by
      simp [pendingRollbackResolution, hrollback, hp]
    have hcompletion : w.store.state.completion = some (.rollbackResolveComplete id rollback.rollbackId
        p.rollbackTransactionBindingSha256) := by
      simp only [completion, hpending, Option.bind_eq_bind, Option.bind_some, ht,
        hresolution, hchild]
    simp only [hchild]
    exact wp_reconciled h hsome (.inl hcompletion) rfl
      (applyRollbackResolveComplete_accepts
        (s := w.store.state.tick) hpending hslot hat.tick hrollback hp)
      hclock rfl rfl fun hfiles => hfiles.same rfl

theorem wp_reconcilePending (h : Reconciling vault s w)
    (hclock : s.pending.isSome = true → u64Bound ≤ s.logicalEventClock + 1 → excused) :
    wp reconcilePending (StepIn vault excused s)
      (Recovers vault excused s) w := by
  obtain rfl := h.state
  have hinv := h.live.journal.inv
  cases hpending : w.store.state.pending with
  | none =>
    rw [reconcilePending, wp_read_bind]
    simp only [hpending]
    exact wp_pure.mpr (.inl ⟨rfl,⟨h.live,h.settled,hpending⟩,h.healthy,.idle hpending⟩)
  | some id =>
    obtain ⟨record,hrecord⟩ := hinv.pendingRecord hpending
    replace hclock := hclock (by rw [hpending]; rfl)
    by_cases hwaiting : record.phase.isSettled = false
    · obtain ⟨hresolution,hrollback⟩ :=
        resolutions_of_settled fun t ht => hinv.noResolution_of_waiting hrecord hwaiting ht
      rw [reconcilePending, wp_read_bind]
      simp only [hpending, hresolution, hrollback]
      refine (wp_query_bind (okOr_eq_ok.mpr hrecord)).mpr ?_
      exact wp_reconcileReservation h hpending hrecord hwaiting hclock
    · cases hphase : record.phase with
      | durable b =>
        obtain ⟨_,_,t,_,hcell⟩ := (hinv.cells id).of_durable hrecord hphase
        have ht : w.store.state.transactions[id]? = some t := congrArg Cell.transaction hcell
        have hat := hinv.durableAt hrecord (by rw [hphase]; rfl) ht
        exact wp_reconcileResolution h hpending hat hclock
      | reserved =>
        obtain ⟨_,hcell⟩ := (hinv.cells id).of_reserved hrecord hphase
        have hidle : (w.store.state.pending == some id) = false := congrArg Cell.pending hcell
        simp [hpending] at hidle
      | reservePending | persistPending | cancelPending | retirePending =>
        simp [hphase, ReservationPhase.isSettled] at hwaiting

end Reconcile

/-! The vault between two sessions. -/

structure DiskOk (vault : VaultIdentity) (d : Disk) (s : RecoveredState) : Prop where
  journal : JournalOk vault d.journal s
  files : FilesOk d s
  settled : d.settled

section Open

variable {w : World} {vault : VaultIdentity} {excused : Prop} {s : RecoveredState} {d : Disk}

theorem Live.diskOk (h : Live vault w) (hsettled : w.disk.settled) : DiskOk vault w.disk w.store.state :=
  ⟨h.journal,h.files,hsettled⟩

theorem Live.crash (h : Live vault w) (hcrash : w.disk.Crash d) : DiskOk vault d w.store.state where
  journal := hcrash.journal ▸ h.journal
  files id := (h.files id).mono (hcrash.kept id) (fun _ => hcrash.clean id)
  settled := hcrash.clean

theorem DiskOk.crash {d' : Disk} (h : DiskOk vault d s) (hcrash : d.Crash d') : DiskOk vault d' s where
  journal := hcrash.journal ▸ h.journal
  files id := (h.files id).mono (hcrash.kept id) (fun _ => hcrash.clean id)
  settled := hcrash.clean

theorem JournalOk.opens {journal : List RepairEvent} (h : JournalOk vault journal s) :
    openJournalGeneration journal = .ok s := by
  have hsum : (journal.map fun event => event.encode.length).sum ≤ journal.length * maxEventBytes := by
    refine (List.sum_le_card_nsmul _ maxEventBytes ?_).trans (by simp)
    simpa using h.sizes
  simp only [openJournalGeneration, require_bind_eq_ok, asCorruptJournal_bind_eq_ok, pure_eq_ok_iff]
  exact ⟨h.length,hsum.trans (Nat.mul_le_mul_right _ h.length),s,h.replayed,h.live,rfl⟩

theorem Live.verifyReleaseTombstone (h : Live vault w) {id : ReservationId} {tombstone : ReleaseTombstone}
    (ht : w.store.state.released[id]? = some tombstone) :
    w.store.verifyReleaseTombstone tombstone = .ok () := by
  have hinv := h.journal.inv
  obtain ⟨howns,hstamp⟩ := h.journal.tombstones id tombstone ht
  have hage := hinv.stamps id tombstone ht
  have hidentity : w.store.verifyRecordVaultIdentity tombstone.record = .ok () := by
    rw [VaultIdentity.owns, ← h.attested] at howns
    exact require_eq_ok.mpr howns
  have hok : TombstoneOk tombstone := by
    have hcell := hinv.cells id
    generalize hc : w.store.state.cell id = c at hcell
    have hct : c.tombstone = some tombstone := hc ▸ ht
    cases hcell <;> simp_all
  rw [RepairVaultStore.verifyReleaseTombstone, hidentity, ok_bind, require_bind_eq_ok]
  refine ⟨⟨hstamp,hage⟩,?_⟩
  cases hok with
  | cancelled hrecord hphase => rw [hphase]; rfl
  | retired hrecord hphase hbinding hresolution hfinal =>
    simp only [hphase, require_bind_eq_ok, require_eq_ok]
    refine ⟨hbinding,by rwa [validateResolutionAgainstIntent_eq],fun hmanual => ?_⟩
    simp [RepairTransactionResolution.phase, hmanual] at hfinal

theorem Live.verifyRecoveredVaultIdentity (h : Live vault w) :
    w.store.verifyRecoveredVaultIdentity = .ok () := by
  refine bind_ok_iff.mpr ⟨(),forM_eq_ok.mpr ?_,forM_eq_ok.mpr ?_⟩
  · rintro ⟨id,record⟩ hmem
    have howns := h.journal.records id record (Std.ExtTreeMap.mem_toList_iff_getElem?_eq_some.mp hmem)
    rw [VaultIdentity.owns, ← h.attested] at howns
    exact require_eq_ok.mpr howns
  · rintro ⟨id,tombstone⟩ hmem
    exact h.verifyReleaseTombstone (Std.ExtTreeMap.mem_toList_iff_getElem?_eq_some.mp hmem)

variable [JournalChain] {attestation : VaultAttestation}

/-- `open` of a vault in order: its pending operation is finished or undone. -/
theorem wp_recoverStore (h : DiskOk vault w.disk s) (hvault : attestation.vault = vault)
    (hclock : s.pending.isSome = true → u64Bound ≤ s.logicalEventClock + 1 → excused) :
    wp (recoverStore attestation) (StepIn vault excused s)
      (Recovers vault excused s) w := by
  have hlive : Live vault ⟨w.disk,attestation.session s w.disk.journal.length⟩ :=
    ⟨hvault,h.journal,rfl,h.files⟩
  rw [recoverStore, wp_query_bind h.journal.opens, wp_read_bind, wp_bind, wp_updateStore, andThen_ok,
    wp_query_bind hlive.verifyRecoveredVaultIdentity, wp_bind]
  refine wp_mono (wp_reconcilePending ⟨hlive,rfl,rfl,h.settled⟩ hclock) (fun _ _ hd => hd) ?_
  rintro r t (⟨rfl,hsettled,hhealthy,hreconciled⟩ | ⟨⟨e,rfl⟩,hexcused,hsession⟩)
  · rw [andThen_ok, wp_query, hsettled.live.validateLayout hsettled.idle]
    exact .inl ⟨rfl,hsettled,hhealthy,hreconciled⟩
  · exact .inr ⟨⟨e,rfl⟩,hexcused,hsession⟩

/-- `open` also compacts a long journal. -/
theorem wp_openStore (h : DiskOk vault w.disk s) (hvault : attestation.vault = vault)
    (hclock : u64Bound ≤ s.logicalEventClock + 1 → excused) :
    wp (openStore attestation) (StepOk vault excused)
      (fun _ t => Settled vault t ∨ excused ∧ SessionOk vault t) w := by
  refine wp_bind.mpr (wp_mono (wp_recoverStore h hvault fun _ => hclock) (fun _ _ hd => hd.1) ?_)
  rintro r t (⟨rfl,hsettled,hhealthy,hreconciled⟩ | ⟨⟨e,rfl⟩,hexcused,hsession⟩)
  · have hrested : Rested vault t.store.state t := ⟨hsettled,.refl⟩
    rw [andThen_ok, wp_read_bind]
    by_cases hdue : t.store.compactionDue 0 = true
    · rw [if_pos hdue]
      refine wp_mono (wp_compactJournal hrested (fun events s' hcompact => ?_) fun e _ => ?_)
        (fun _ _ hd => hd.1) fun _ _ hpost => hpost
      · exact .inl (hrested.compactedTo hcompact).toSettled
      · exact .inl hrested.poisoned.toSettled
    · rw [if_neg hdue]
      exact wp_pure.mpr (.inl hsettled)
  · exact .inr ⟨hexcused,hsession⟩

theorem openStore_bricked (h : w.disk.bricked) :
    (openStore attestation w).visits = [] ∧ (openStore attestation w).final = w ∧
      ∃ e, (openStore attestation w).result = .error e := by
  have hreplay : ∃ e, openJournalGeneration w.disk.journal = .error e := by
    cases hopen : openJournalGeneration w.disk.journal with
    | error e => exact ⟨e,rfl⟩
    | ok s =>
      simp only [openJournalGeneration, require_bind_eq_ok, asCorruptJournal_bind_eq_ok,
        pure_eq_ok_iff] at hopen
      obtain ⟨_,_,s',hs',_⟩ := hopen
      exact absurd hs' (h s')
  obtain ⟨e,he⟩ := hreplay
  have hrecover : recoverStore attestation w = ⟨[],.error e,w⟩ := by
    rw [recoverStore,
      bind_run_error (show (query (fun w => openJournalGeneration w.disk.journal) w).result =
      .error e from he)]
    rfl
  rw [openStore, bind_run_error (e := e) (by rw [hrecover]), hrecover]
  exact ⟨rfl,rfl,e,rfl⟩

end Open

end KernAid.RepairStore
