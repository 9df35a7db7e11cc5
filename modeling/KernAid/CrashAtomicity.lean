import KernAid.RunGuarantees

/-! A crash in the middle of an operation: recovery finishes the operation or undoes it. -/

set_option autoImplicit false

namespace KernAid.RepairStore

open Encoding CrashLogic Protocol Program RecoveredState

/-- Equal up to the logical clock and the identifiers that were ever used. -/
def RecoveredState.agrees (s s' : RecoveredState) : Prop :=
  s' = { s with logicalEventClock := s'.logicalEventClock, seenReservationIds := s'.seenReservationIds }

theorem RecoveredState.agrees_refl (s : RecoveredState) : s.agrees s := rfl

variable [Sha256Hasher]

/-- The backup directory holds one file for each reservation, with the bytes its phase promises. -/
def World.filesExact (w : World) : Prop :=
  ∀ id : ReservationId, match w.store.state.reservations[id]? with
    | none => w.disk.backups[id]? = none
    | some record => ∃ file : BackupFile, w.disk.backups[id]? = some file ∧
        ((record.phase = .reserved ∧ file.bytes = List.replicate record.reservedCapacityBytes 0) ∨
          ((∃ b, record.phase = .durable b) ∧ HoldsBackup record file.bytes))

theorem Settled.filesExact {vault : VaultIdentity} {w : World} (h : Settled vault w) : w.filesExact := by
  intro id
  have hfile := h.live.files id
  cases hrecord : w.store.state.reservations[id]? with
  | none =>
    rw [hrecord] at hfile
    exact hfile.1
  | some record =>
    rw [hrecord] at hfile
    rcases h.live.journal.inv.settledPhase h.idle hrecord with hphase | ⟨b,hphase⟩
    · simp only [FileOk, hphase] at hfile
      obtain ⟨file,hat,hzero,_⟩ := hfile.present
      exact ⟨file,hat,.inl ⟨hphase,hzero⟩⟩
    · simp only [FileOk, hphase] at hfile
      obtain ⟨file,hat,hholds,_⟩ := hfile.present
      exact ⟨file,hat,.inr ⟨⟨b,hphase⟩,hholds⟩⟩

/-! The intents that let a file change. -/

section Intents

variable {before s : RecoveredState} {id : ReservationId} {event : RepairEvent} {n : Nat}

/-- The intent that leaves the file of a reservation open to change, what it was accepted on and what
it leaves. -/
inductive FileIntent (before : RecoveredState) (id : ReservationId) : RepairEvent → RecoveredState → Prop
  | reserve {draft : RepairBackupDraft} {binding : String} {capacity : Nat}
      {vaultId identity parent : String} {record : ReservationRecord}
      (hnew : before.reservations[id]? = none) (hphase : record.phase = .reservePending) :
      FileIntent before id (.reserveIntent id draft binding capacity vaultId identity parent)
        { before with
          reservations := before.reservations.insert id record
          seenReservationIds := before.seenReservationIds.insert id
          pending := some id }
  | persist {b : RepairBinding} {record : ReservationRecord}
      (hrecord : before.reservations[id]? = some record) (hphase : record.phase = .reserved) :
      FileIntent before id (.persistIntent id b)
        { before.setPhase id record (.persistPending b) with pending := some id }
  | cancel {record : ReservationRecord} (hrecord : before.reservations[id]? = some record)
      (hphase : record.phase = .reserved) :
      FileIntent before id (.cancelIntent id)
        { before.setPhase id record .cancelPending with pending := some id }
  | retire {record : ReservationRecord} {b : RepairBinding} {r : RepairTransactionResolution}
      {t : RepairTransactionRecord} (hrecord : before.reservations[id]? = some record)
      (hphase : record.phase = .durable b) (ht : before.transactions[id]? = some t)
      (hresolved : t.isUnresolved = false) (hrollback : t.hasUnresolvedRollback = false) :
      FileIntent before id (.retireIntent id)
        { before.setPhase id record (.retirePending b r) with pending := some id }

theorem dispatch_fileIntent {record : ReservationRecord} (hinv : Inv before)
    (h : dispatchRepairEvent before event n = .ok s) (hpending : s.pending = some id)
    (hrecord : s.reservations[id]? = some record) (hwaiting : record.phase.isSettled = false) :
    FileIntent before id event s := by
  have hkept : s.reservations = before.reservations → before.pending = none → False := by
    intro hactive hidle
    rw [hactive] at hrecord
    rcases hinv.settledPhase hidle hrecord with hp | ⟨b,hp⟩ <;>
      simp [hp, ReservationPhase.isSettled] at hwaiting
  cases event <;> simp only [dispatchRepairEvent] at h
  case reserveIntent id' draft binding capacity vaultId identity parent =>
    simp only [applyReserveIntent, require_bind_eq_ok, pure_eq_ok_iff] at h
    obtain ⟨_,_,_,hnew,_,rfl⟩ := h
    obtain rfl : id' = id := Option.some.inj hpending
    exact .reserve (Std.ExtTreeMap.getElem?_eq_none hnew.1) rfl
  case persistIntent id' b =>
    simp only [applyPersistIntent, require_bind_eq_ok, okOr_bind_eq_ok, pure_eq_ok_iff] at h
    obtain ⟨_,_,r,hr,_,⟨hreserved,_⟩,rfl⟩ := h
    obtain rfl : id' = id := Option.some.inj hpending
    exact .persist hr hreserved
  case cancelIntent id' =>
    simp only [applyCancelIntent, require_bind_eq_ok, okOr_bind_eq_ok, pure_eq_ok_iff] at h
    obtain ⟨_,r,hr,hreserved,rfl⟩ := h
    obtain rfl : id' = id := Option.some.inj hpending
    exact .cancel hr hreserved
  case retireIntent id' =>
    simp only [applyRetireIntent, require_bind_eq_ok, okOr_bind_eq_ok, pure_eq_ok_iff] at h
    obtain ⟨_,r,hr,b,hb,t,ht,hfinal,resolution,_,rfl⟩ := h
    obtain rfl : id' = id := Option.some.inj hpending
    obtain ⟨hresolved,_,hrollback,_⟩ := isFinal_iff.mp hfinal
    refine .retire hr ?_ ht hresolved hrollback
    cases hp : r.phase <;> simp_all [ReservationPhase.durableBinding]
  case transactionResolveIntent | rollbackResolveIntent =>
    simp only [applyTransactionResolveIntent, applyRollbackResolveIntent, require_bind_eq_ok,
      okOr_bind_eq_ok, asCorruptJournal_bind_eq_ok, pure_eq_ok_iff] at h
    obtain ⟨⟨hidle,_⟩,h⟩ := h
    casesm* _ ∧ _, ∃ _, _
    subst_vars
    exact (hkept rfl hidle).elim
  all_goals
    simp only [applyCompactionBegin, applyCompactionComplete, applyReserveComplete, applyReserveAbort,
      applyPersistComplete, applyPersistAbort, applyTransactionResolveComplete,
      applyTransactionWriteLeaseConsume, applyRollbackBegin, applyRollbackWriteLeaseConsume,
      applyRollbackResolveComplete, applyCancelComplete, applyRetireComplete, require_bind_eq_ok,
      okOr_bind_eq_ok, asCorruptJournal_bind_eq_ok, pure_eq_ok_iff] at h
    casesm* _ ∧ _, ∃ _, _
    subst_vars
    -- Every other event leaves nothing pending.
    first
      | cases hpending
      | cases (show before.pending = none by assumption).symm.trans hpending
      | cases (isQuiescent_iff.mp (show before.isQuiescent = true by assumption)).1.symm.trans hpending

end Intents

section Events

variable {base s s' s'' : RecoveredState} {event : RepairEvent} {n m : Nat}

theorem applyRepairEvent_sequence (hcontrol : event.isControl = false) :
    applyRepairEvent s event n = applyRepairEvent s event m := by
  unfold applyRepairEvent
  cases event <;> first | rfl | cases hcontrol

omit [Sha256Hasher] in
theorem ReservationRecord.completion_isControl {record : ReservationRecord} {id : ReservationId}
    (h : record.completion id = some event) : event.isControl = false := by
  unfold ReservationRecord.completion at h
  split at h <;> cases h <;> rfl

omit [Sha256Hasher] in
theorem RecoveredState.completion_isControl (h : s.completion = some event) :
    event.isControl = false := by
  simp only [completion, Option.bind_eq_bind, Option.bind_eq_some_iff] at h
  obtain ⟨id,_,h⟩ := h
  split at h
  · cases h; rfl
  · split at h
    · cases h; rfl
    · obtain ⟨record,_,h⟩ := Option.bind_eq_some_iff.mp h
      exact record.completion_isControl h

theorem RecoveredState.completesTo_unique (h : s.completesTo s') (h' : s.completesTo s'') : s'' = s' := by
  obtain ⟨event,n,hevent,happly⟩ := h
  obtain ⟨event',m,hevent',happly'⟩ := h'
  obtain rfl : event' = event := Option.some.inj (hevent'.symm.trans hevent)
  rw [applyRepairEvent_sequence (m := n) (completion_isControl hevent)] at happly'
  exact Except.ok.inj (happly'.symm.trans happly)

theorem RecoveredState.abortsTo.agrees (haborts : s.abortsTo s') (hinv : Inv base)
    (hidle : base.pending = none) (hintent : applyRepairEvent base event n = .ok s) : base.agrees s' := by
  obtain ⟨ticked,htick,hdispatch⟩ := bind_ok_iff.mp hintent
  obtain ⟨abort,m,habort,happly⟩ := haborts
  obtain ⟨ticked',htick',hdispatch'⟩ := bind_ok_iff.mp happly
  simp only [abortion, Option.bind_eq_bind, Option.bind_eq_some_iff] at habort
  obtain ⟨id,hpending,record,hrecord,habort⟩ := habort
  have hwaiting : record.phase.isSettled = false := by
    cases hphase : record.phase <;> simp_all [ReservationPhase.isSettled]
  have hbase := advanceClock_eq htick
  have hs := advanceClock_eq htick'
  cases dispatch_fileIntent (advanceClock_inv hinv htick) hdispatch hpending hrecord hwaiting with
  | @reserve _ _ _ _ _ _ reserving hnew hphase =>
    rw [Std.ExtTreeMap.getElem?_insert_self, Option.some.injEq] at hrecord
    simp only [← hrecord, hphase, Option.some.injEq] at habort
    subst habort
    simp only [dispatchRepairEvent, applyReserveAbort, require_bind_eq_ok, okOr_bind_eq_ok,
      pure_eq_ok_iff] at hdispatch'
    obtain ⟨_,_,_,_,rfl⟩ := hdispatch'
    rw [hs, hbase, agrees]
    simp only [RecoveredState.mk.injEq, true_and, and_true]
    rw [hbase] at hnew
    exact ⟨(erase_insert _ _ _).trans (erase_of_getElem? hnew),hidle.symm⟩
  | @persist b reserved hreserved hphase =>
    simp only [setPhase, Std.ExtTreeMap.getElem?_insert_self, Option.some.injEq] at hrecord
    simp only [← hrecord, Option.some.injEq] at habort
    subst habort
    simp only [dispatchRepairEvent, applyPersistAbort, require_bind_eq_ok, okOr_bind_eq_ok,
      pure_eq_ok_iff] at hdispatch'
    obtain ⟨_,found,hfound,_,rfl⟩ := hdispatch'
    rw [hs] at hfound ⊢
    simp only [setPhase, Std.ExtTreeMap.getElem?_insert_self, Option.some.injEq] at hfound
    rw [hbase] at hreserved ⊢
    subst hfound
    simp only [agrees, setPhase, RecoveredState.mk.injEq, true_and, and_true]
    refine ⟨?_,hidle.symm⟩
    have hsame : ({ reserved with phase := .reserved } : ReservationRecord) = reserved := by
      rw [← hphase]
    rw [hsame]
    rw [insert_insert_self]
    exact insert_of_getElem? hreserved
  | cancel | retire =>
    simp only [setPhase, Std.ExtTreeMap.getElem?_insert_self, Option.some.injEq] at hrecord
    simp [← hrecord] at habort

end Events

section Recovery

variable [JournalChain] {vault : VaultIdentity} {s : RecoveredState} {d : Disk}
  {attestation : VaultAttestation}

/-- What `open` makes of a vault, before it compacts. -/
def System.recovering (d : Disk) (attestation : VaultAttestation) :
    Outcome StorageStep World RepairVaultStoreError Unit :=
  recoverStore attestation ⟨d,attestation.session {} 0⟩

theorem recovering_settles (h : DiskOk vault d s) (hvault : attestation.vault = vault)
    (hclock : s.pending.isSome = true → s.logicalEventClock + 1 < u64Bound) :
    (System.recovering d attestation).result = .ok () ∧
      Settled vault (System.recovering d attestation).final ∧
      (System.recovering d attestation).final.store.healthy = true ∧
      Reconciled s (System.recovering d attestation).final.store.state := by
  have hlate : s.pending.isSome = true → u64Bound ≤ s.logicalEventClock + 1 → False :=
    fun hpending hlate => absurd (hclock hpending) (by omega)
  obtain ⟨_,hrecovers | ⟨_,hfalse,_⟩⟩ :=
    wp_recoverStore (w := ⟨d,attestation.session {} 0⟩) h hvault hlate
  · exact hrecovers
  · exact hfalse.elim

omit [JournalChain] in
theorem Reconciled.eq_of_idle {s' : RecoveredState} (h : Reconciled s s') (hidle : s.pending = none) :
    s' = s := by
  cases h with
  | idle => rfl
  | completed hcompletes =>
    obtain ⟨event,_,hevent,_⟩ := hcompletes
    simp [completion, hidle] at hevent
  | aborted haborts =>
    obtain ⟨event,_,hevent,_⟩ := haborts
    simp [abortion, hidle] at hevent

omit [JournalChain] in
theorem clock_of_intent {s₁ : RecoveredState} {event : RepairEvent} {n : Nat}
    (hlive : s.compactionReplay = none) (hpending : s₁.pending.isSome = true)
    (h : applyRepairEvent s event n = .ok s₁) : s₁.logicalEventClock = s.logicalEventClock + 1 := by
  have hcontrol : event.isControl = false := by
    obtain ⟨ticked,htick,hdispatch⟩ := bind_ok_iff.mp h
    have hs := advanceClock_eq htick
    cases event with
    | compactionBegin =>
      simp only [dispatchRepairEvent, applyCompactionBegin, okOr_bind_eq_ok, require_bind_eq_ok,
        pure_eq_ok_iff] at hdispatch
      obtain ⟨_,_,_,hempty,rfl⟩ := hdispatch
      rw [hempty.2.2.2.1] at hpending
      cases hpending
    | compactionComplete =>
      simp only [dispatchRepairEvent, applyCompactionComplete, okOr_bind_eq_ok] at hdispatch
      obtain ⟨replay,hreplay,_⟩ := hdispatch
      rw [hs] at hreplay
      cases hlive.symm.trans hreplay
    | _ => rfl
  obtain ⟨_,hdispatch⟩ := (applyRepairEvent_live_iff hlive hcontrol).mp h
  have hheader := dispatchRepairEvent_header hcontrol hdispatch
  exact congrArg Prod.fst hheader

theorem OpTrace.clock_of_pending {α : Type} {o : Outcome StorageStep World RepairVaultStoreError α}
    {w : World} (h : OpTrace vault False s o) (hcrashed : w ∈ o.visits.map Prod.snd ∨ w = o.final)
    (hpending : w.store.state.pending.isSome = true) :
    w.store.state.logicalEventClock = s.logicalEventClock + 1 := by
  have hno : w.store.state.pending ≠ none := by
    intro hidle
    simp [hidle] at hpending
  rcases hcrashed with hmem | rfl
  · obtain ⟨v,hv,rfl⟩ := List.mem_map.mp hmem
    cases h with
    | quiet hvisits _ => exact absurd (hvisits v hv).2.idle hno
    | single hvisits _ _ _ => exact absurd (hvisits v hv).2.idle hno
    | atomic hvisits hbase hintent hwaits _ _ =>
      rcases (hvisits v hv).2 with hrest | hstate
      · exact absurd hrest.idle hno
      · rw [hstate, clock_of_intent hbase.live.journal.live hwaits hintent, hbase.clock]
    | excused hfalse _ _ => exact hfalse.elim
  · exact absurd h.settled.2.idle hno

/-- A crash before any step of an operation, or after its last one: the state that recovery leaves is
the one the operation began in, as the compaction it may begin with leaves it, or the one it ends in. -/
theorem OpTrace.recovers {α : Type} {o : Outcome StorageStep World RepairVaultStoreError α} {w : World}
    (h : OpTrace vault False s o) (hcrashed : w ∈ o.visits.map Prod.snd ∨ w = o.final)
    (hcrash : w.disk.Crash d) (hvault : attestation.vault = vault)
    (hclock : s.logicalEventClock + 2 < u64Bound) :
    (System.recovering d attestation).result = .ok () ∧
      Settled vault (System.recovering d attestation).final ∧
      (System.recovering d attestation).final.store.healthy = true ∧
      ((∃ s', Compactions s s' ∧ s'.agrees (System.recovering d attestation).final.store.state) ∨
        o.final.store.state.agrees (System.recovering d attestation).final.store.state) := by
  have hlive : Live vault w := by
    rcases hcrashed with hmem | rfl
    · obtain ⟨v,hv,rfl⟩ := List.mem_map.mp hmem
      exact (h.settled.1 v hv).live
    · exact h.settled.2.live
  have hroom := h.clock_of_pending hcrashed
  obtain ⟨hresult,hsettled,hhealthy,hreconciled⟩ := recovering_settles (hlive.crash hcrash) hvault
    fun hpending => by have := hroom hpending; omega
  refine ⟨hresult,hsettled,hhealthy,?_⟩
  -- A world at rest recovers to itself.
  have hrested : Rested vault s w → ∃ s', Compactions s s' ∧
      s'.agrees (System.recovering d attestation).final.store.state := fun hrested =>
    ⟨_,hrested.compactions,hreconciled.eq_of_idle hrested.idle ▸ agrees_refl _⟩
  rcases hcrashed with hmem | rfl
  · obtain ⟨v,hv,rfl⟩ := List.mem_map.mp hmem
    cases h with
    | quiet hvisits _ => exact .inl (hrested (hvisits v hv).2)
    | single hvisits _ _ _ => exact .inl (hrested (hvisits v hv).2)
    | atomic hvisits hbase hintent hpending hcompletes hfinal =>
      rcases (hvisits v hv).2 with hrest | hstate
      · exact .inl (hrested hrest)
      · rw [hstate] at hreconciled
        generalize (System.recovering d attestation).final.store.state = r at hreconciled ⊢
        cases hreconciled with
        | idle hidle => simp [hidle] at hpending
        | completed hdone =>
          exact .inr (completesTo_unique hcompletes hdone ▸ agrees_refl _)
        | aborted haborts =>
          exact .inl ⟨_,hbase.compactions,haborts.agrees hbase.live.journal.inv hbase.idle hintent⟩
    | excused hfalse _ _ => exact hfalse.elim
  · exact .inr (hreconciled.eq_of_idle h.settled.2.idle ▸ agrees_refl _)

end Recovery

end KernAid.RepairStore
