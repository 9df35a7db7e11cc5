import KernAid.Operations

/-! The operations on transactions and rollback children: they touch the journal only. -/

set_option autoImplicit false

namespace KernAid.RepairStore

open Encoding CrashLogic Protocol Program

theorem parse_canonical (d : Sha256) : Sha256.parse d.asStr = some d := by
  rw [Sha256.parse, dif_pos d.canonical]

variable [Sha256Hasher]

section Status

variable {w : World} {id : ReservationId}

theorem transactionStatusForId_eq_ok {status : RepairTransactionStatusPayload} (hinv : Inv w.store.state)
    (h : w.transactionStatusForId id = .ok status) :
    ∃ record b t, w.store.state.reservations[id]? = some record ∧
      w.store.state.transactions[id]? = some t ∧ DurableAt w.store.state id record b t ∧
      protocolTransactionStatusFromRecord id record t = .ok status := by
  simp only [World.transactionStatusForId, okOr_bind_eq_ok] at h
  obtain ⟨record,hrecord,h⟩ := h
  obtain ⟨_,_,h⟩ := bind_ok_iff.mp h
  simp only [require_bind_eq_ok] at h
  obtain ⟨hdurable,h⟩ := h
  obtain ⟨_,_,h⟩ := bind_ok_iff.mp h
  simp only [okOr_bind_eq_ok] at h
  obtain ⟨t,ht,hstatus⟩ := h
  obtain ⟨b,hb⟩ := Option.isSome_iff_exists.mp hdurable
  exact ⟨record,b,t,hrecord,ht,hinv.durableAt hrecord hb ht,hstatus⟩

theorem rollbackStatusForSource_eq_ok {status : RepairRollbackTransactionStatusPayload}
    (hinv : Inv w.store.state) (h : w.rollbackStatusForSource id = .ok status) :
    ∃ record b t rollback, w.store.state.reservations[id]? = some record ∧
      w.store.state.transactions[id]? = some t ∧ DurableAt w.store.state id record b t ∧
      t.rollback = some rollback ∧ protocolRollbackStatusFromRecord id record t rollback =
        .ok status := by
  simp only [World.rollbackStatusForSource, okOr_bind_eq_ok] at h
  obtain ⟨record,hrecord,h⟩ := h
  obtain ⟨_,_,h⟩ := bind_ok_iff.mp h
  simp only [require_bind_eq_ok] at h
  obtain ⟨hdurable,h⟩ := h
  obtain ⟨_,_,h⟩ := bind_ok_iff.mp h
  simp only [okOr_bind_eq_ok] at h
  obtain ⟨t,ht,rollback,hrollback,hstatus⟩ := h
  obtain ⟨b,hb⟩ := Option.isSome_iff_exists.mp hdurable
  exact ⟨record,b,t,rollback,hrecord,ht,hinv.durableAt hrecord hb ht,hrollback,hstatus⟩

end Status

section Transactions

variable {w : World} {vault : VaultIdentity} {excused : Prop} {s s' : RecoveredState}
  {id : ReservationId} {record : ReservationRecord} {b : RepairBinding} {t : RepairTransactionRecord}

variable {source : RepairTransactionStatusPayload} {binding : RepairRollbackBindingV1}
  {resolution : RepairRollbackResolution}

theorem DurableAt.sameRecords (h : DurableAt s id record b t) (hsame : SameRecords s s') (hinv : Inv s') :
    DurableAt s' id record b t := by
  refine hinv.durableAt ?_ (by rw [h.phase]; rfl) ?_
  · rw [hsame.reservations]
    exact congrArg Cell.record h.cell
  · rw [hsame.transactions]
    exact congrArg Cell.transaction h.cell

theorem DurableAt.unresolved_of_phase (h : DurableAt s id record b t)
    (hphase : transactionPhase t ≠ .resolved) : s.unresolvedTransaction = some id := by
  have heq := h.isUnresolved_eq
  rw [RepairTransactionRecord.isUnresolved, bne_iff_ne.mpr hphase] at heq
  exact beq_iff_eq.mp heq.symm

theorem DurableAt.rollback_of_phase {rollback : RepairRollbackTransactionRecord}
    (h : DurableAt s id record b t) (hrollback : t.rollback = some rollback)
    (hphase : rollbackTransactionPhase rollback ≠ .resolved) : s.unresolvedRollback = some id := by
  have heq := h.hasUnresolvedRollback_eq
  rw [RepairTransactionRecord.hasUnresolvedRollback, hrollback, Option.any_some,
    bne_iff_ne.mpr hphase] at heq
  exact beq_iff_eq.mp heq.symm

theorem consumed_eq_some {status : RepairTransactionStatusPayload} {epoch : Sha256}
    {lease : RepairWriteLeasePayload} (h : RepairWriteLeasePayload.consumed status epoch = some lease) :
    lease.transaction = status ∧ lease.bootEpochSha256 = epoch := by
  simp only [RepairWriteLeasePayload.consumed, Option.bind_eq_bind, Option.bind_eq_some_iff,
    Option.ite_none_right_eq_some, Option.some.injEq] at h
  obtain ⟨_,_,_,_,_,rfl⟩ := h
  exact ⟨rfl,rfl⟩

theorem rollbackConsumed_eq_some {status : RepairRollbackTransactionStatusPayload} {epoch : Sha256}
    {lease : RepairRollbackWriteLeasePayload}
    (h : RepairRollbackWriteLeasePayload.consumed status epoch = some lease) :
    lease.transaction = status ∧ lease.bootEpochSha256 = epoch := by
  simp only [RepairRollbackWriteLeasePayload.consumed, Option.bind_eq_bind, Option.bind_eq_some_iff,
    Option.ite_none_right_eq_some, Option.some.injEq] at h
  obtain ⟨_,_,_,_,_,rfl⟩ := h
  exact ⟨rfl,rfl⟩

/-- What a lease rests on: a durable reservation without any resolution and without a lease of this
boot. -/
theorem checkLease_eq_ok {reservationId : RepairReservationId} {digest : Sha256}
    {lease : RepairWriteLeasePayload} (hinv : Inv w.store.state)
    (h : checkLease reservationId digest w = .ok (id,lease)) :
    ∃ record b t status, DurableAt w.store.state id record b t ∧
      protocolTransactionStatusFromRecord id record t = .ok status ∧ t.resolution = none ∧
      leaseIsFree t.writeLease w.store = true ∧ lease.transaction = status ∧
      lease.bootEpochSha256 = w.store.bootEpochSha256 ∧
      leaseOfStatus status w.store.bootEpochSha256.asStr = .ok lease := by
  obtain ⟨id',hid',h⟩ := bind_ok_iff.mp h
  obtain ⟨status,hstatus,h⟩ := bind_ok_iff.mp h
  simp only [require_bind_eq_ok, okOr_bind_eq_ok] at h
  obtain ⟨_,_,_,_,_,_,_,_,_,t,ht,⟨_,hresolution⟩,hfree,lease',hlease,h⟩ := h
  rw [pure_eq_ok_iff, Prod.mk.injEq] at h
  obtain ⟨rfl,rfl⟩ := h
  obtain ⟨record,b,t',hrecord,ht',hat,hfrom⟩ := transactionStatusForId_eq_ok hinv hstatus
  obtain rfl : t' = t := Option.some.inj (ht'.symm.trans ht)
  obtain ⟨htransaction,hepoch⟩ := consumed_eq_some hlease
  refine ⟨record,b,t',status,hat,hfrom,hresolution,hfree,htransaction,hepoch,?_⟩
  simp only [leaseOfStatus, protocolSha256Str, okOr_bind_eq_ok, okOr_eq_ok]
  exact ⟨_,parse_canonical _,hlease⟩

theorem checkRollbackLease_eq_ok {rollbackId : RepairRollbackId} {digest : Sha256}
    {lease : RepairRollbackWriteLeasePayload} (hinv : Inv w.store.state)
    (h : checkRollbackLease rollbackId digest w = .ok (id,lease)) :
    ∃ record b t rollback status, DurableAt w.store.state id record b t ∧ t.rollback = some rollback ∧
      protocolRollbackStatusFromRecord id record t rollback = .ok status ∧
      rollback.resolution = none ∧ leaseIsFree rollback.writeLease w.store = true ∧
      lease.transaction = status ∧ lease.bootEpochSha256 = w.store.bootEpochSha256 ∧
      status.rollbackId = rollbackId ∧
      rollbackLeaseOfStatus status w.store.bootEpochSha256.asStr = .ok lease := by
  simp only [checkRollbackLease, okOr_bind_eq_ok] at h
  obtain ⟨id',_,h⟩ := h
  obtain ⟨status,hstatus,h⟩ := bind_ok_iff.mp h
  simp only [require_bind_eq_ok, okOr_bind_eq_ok] at h
  obtain ⟨⟨hmatch,_⟩,_,_,h⟩ := h
  obtain ⟨_,_,h⟩ := bind_ok_iff.mp h
  simp only [require_bind_eq_ok, okOr_bind_eq_ok] at h
  obtain ⟨t,ht,rollback,hrollback,⟨_,hresolution⟩,hfree,lease',hlease,h⟩ := h
  rw [pure_eq_ok_iff, Prod.mk.injEq] at h
  obtain ⟨rfl,rfl⟩ := h
  obtain ⟨record,b,t',rollback',_,ht',hat,hrollback',hfrom⟩ := rollbackStatusForSource_eq_ok hinv hstatus
  obtain rfl : t' = t := Option.some.inj (ht'.symm.trans ht)
  obtain rfl : rollback' = rollback := Option.some.inj (hrollback'.symm.trans hrollback)
  obtain ⟨htransaction,hepoch⟩ := rollbackConsumed_eq_some hlease
  simp only [matchesRollbackResult, Bool.and_eq_true, beq_iff_eq] at hmatch
  refine ⟨record,b,t',rollback',status,hat,hrollback,hfrom,hresolution,hfree,htransaction,hepoch,
    hmatch.1.2,?_⟩
  simp only [rollbackLeaseOfStatus, protocolSha256Str, okOr_bind_eq_ok, okOr_eq_ok]
  exact ⟨_,parse_canonical _,hlease⟩

theorem rollbackStatusOf_durable {rollback : RepairRollbackTransactionRecord}
    {status : RepairRollbackTransactionStatusPayload} (hat : DurableAt s id record b t)
    (hrollback : t.rollback = some rollback)
    (hstatus : protocolRollbackStatusFromRecord id record t rollback = .ok status) :
    ∃ source, protocolTransactionStatusFromRecord id record t = .ok source ∧
      RollbackStatusOf source rollback status := by
  obtain ⟨source,status',hsource,hstatus',hof⟩ := (hat.transactionOk.rollback rollback hrollback).status
  obtain rfl : status' = status := Except.ok.inj (hstatus'.symm.trans hstatus)
  exact ⟨source,hsource,hof⟩

theorem checkRollbackSource_eq_ok (hinv : Inv w.store.state)
    (h : checkRollbackSource source binding w = .ok (id,record,t)) :
    ∃ b, DurableAt w.store.state id record b t ∧
      protocolTransactionStatusFromRecord id record t = .ok source ∧
      binding.validateAgainst source = true := by
  obtain ⟨_,_,h⟩ := bind_ok_iff.mp h
  simp only [require_bind_eq_ok] at h
  obtain ⟨_,hbinding,h⟩ := h
  obtain ⟨id',_,h⟩ := bind_ok_iff.mp h
  obtain ⟨current,hcurrent,h⟩ := bind_ok_iff.mp h
  simp only [require_bind_eq_ok, okOr_bind_eq_ok] at h
  obtain ⟨rfl,record',hrecord,h⟩ := h
  obtain ⟨_,_,h⟩ := bind_ok_iff.mp h
  obtain ⟨_,_,h⟩ := bind_ok_iff.mp h
  simp only [okOr_bind_eq_ok, pure_eq_ok_iff, Prod.mk.injEq] at h
  obtain ⟨t',ht,rfl,rfl,rfl⟩ := h
  obtain ⟨record'',b,t'',hrecord',ht',hat,hstatus⟩ := transactionStatusForId_eq_ok hinv hcurrent
  obtain rfl : record'' = record' := Option.some.inj (hrecord'.symm.trans hrecord)
  obtain rfl : t'' = t' := Option.some.inj (ht'.symm.trans ht)
  exact ⟨b,hat,hstatus,hbinding⟩

theorem pending_eq_some {rollbackId : RepairRollbackId}
    {status : RepairRollbackTransactionStatusPayload}
    (h : RepairRollbackTransactionStatusPayload.pending rollbackId source binding = some status) :
    canonicalRepairRollbackTransactionBindingSha256 rollbackId source binding =
      some status.rollbackTransactionBindingSha256 := by
  unfold RepairRollbackTransactionStatusPayload.pending RepairRollbackTransactionStatusPayload.new at h
  split_ifs at h
  · cases h
  · simp only [Option.bind_eq_bind, Option.bind_eq_some_iff, Option.ite_none_right_eq_some,
      Option.some.injEq] at h
    obtain ⟨digest,hdigest,_,rfl⟩ := h
    exact hdigest

theorem checkResolution_eq_ok {expected current : RepairTransactionStatusPayload}
    (h : checkResolution expected w = .ok (id,current)) : w.transactionStatusForId id = .ok current := by
  obtain ⟨_,_,h⟩ := bind_ok_iff.mp h
  simp only [require_bind_eq_ok] at h
  obtain ⟨_,h⟩ := h
  obtain ⟨id',_,h⟩ := bind_ok_iff.mp h
  obtain ⟨current',hcurrent,h⟩ := bind_ok_iff.mp h
  rw [pure_eq_ok_iff, Prod.mk.injEq] at h
  obtain ⟨rfl,rfl⟩ := h
  exact hcurrent

theorem checkRollbackResolution_eq_ok {expected current : RepairRollbackTransactionStatusPayload}
    (h : checkRollbackResolution expected resolution w = .ok (id,current)) :
    w.rollbackStatusForSource id = .ok current ∧ resolution.validateAgainst expected.source = true := by
  obtain ⟨_,_,h⟩ := bind_ok_iff.mp h
  simp only [require_bind_eq_ok] at h
  obtain ⟨_,hvalid,h⟩ := h
  obtain ⟨id',_,h⟩ := bind_ok_iff.mp h
  obtain ⟨current',hcurrent,h⟩ := bind_ok_iff.mp h
  rw [pure_eq_ok_iff, Prod.mk.injEq] at h
  obtain ⟨rfl,rfl⟩ := h
  exact ⟨hcurrent,hvalid⟩

theorem applyRollbackResolveIntent_repeated {rollback : RepairRollbackTransactionRecord}
    {rollbackId : RepairRollbackId} {digest : String} {phase : RepairTransactionPhase}
    (ht : s.transactions[id]? = some t) (hrollback : t.rollback = some rollback)
    (hrepeated : rollback.resolution = some resolution) (s' : RecoveredState) :
    applyRollbackResolveIntent s id rollbackId digest phase resolution ≠ .ok s' := by
  intro h
  simp only [applyRollbackResolveIntent, require_bind_eq_ok, okOr_bind_eq_ok, asCorruptJournal_bind_eq_ok,
    ht, hrollback, Option.some.injEq, exists_eq_left'] at h
  obtain ⟨_,_,_,_,_,⟨_,_,_,_,hchanges,_⟩,_⟩ := h
  exact hchanges hrepeated

variable [JournalChain]

theorem consumeWriteLease_trace {selector : RepairTransactionStatusSelector} (hw : Rested vault s w)
    (hclock : u64Bound ≤ s.logicalEventClock + 2 → excused) :
    OpTrace vault excused s (consumeWriteLease selector w) := by
  refine .query hw fun _ _ => ?_
  cases selector with
  | pendingSingleton => exact .fail hw
  | exact reservationId digest =>
    refine .query hw fun result hcheck => ?_
    obtain ⟨id,lease⟩ := result
    obtain ⟨record,b,t,status,hat,hstatus,hresolution,hfree,htransaction,hepoch,hlease⟩ :=
      checkLease_eq_ok hw.live.journal.inv hcheck
    refine .capacity hw (by omega) fun w2 hprepared hw2 hroom => ?_
    have hclockAt := hw2.clock
    have hat2 := hat.sameRecords hprepared.sameRecords hw2.live.journal.inv
    have haccepts := applyTransactionWriteLeaseConsume_accepts (s := w2.store.state.tick) hw2.idle
      (hat2.unresolved_of_phase (by simp [transactionPhase, hresolution])) hat2.tick
      hresolution hfree hstatus hlease
    subst htransaction
    rw [← hepoch] at haccepts
    exact .append hw2 rfl hroom rfl (foreseen_of_dispatch hw2.live.journal.live rfl haccepts
      fun h => hclock (by omega)) hw2.idle (hw2.live.files.same rfl)

theorem consumeRollbackWriteLease_trace {selector : RepairRollbackStatusSelector} (hw : Rested vault s w)
    (hclock : u64Bound ≤ s.logicalEventClock + 2 → excused) :
    OpTrace vault excused s (consumeRollbackWriteLease selector w) := by
  refine .query hw fun _ _ => ?_
  cases selector with
  | pendingSingleton => exact .fail hw
  | exact rollbackId digest =>
    refine .query hw fun result hcheck => ?_
    obtain ⟨id,lease⟩ := result
    obtain ⟨record,b,t,rollback,status,hat,hrollback,hstatus,hresolution,hfree,htransaction,hepoch,_,
      hlease⟩ := checkRollbackLease_eq_ok hw.live.journal.inv hcheck
    obtain ⟨_,_,hof⟩ := rollbackStatusOf_durable hat hrollback hstatus
    refine .capacity hw (by omega) fun w2 hprepared hw2 hroom => ?_
    have hclockAt := hw2.clock
    have hat2 := hat.sameRecords hprepared.sameRecords hw2.live.journal.inv
    have hslot : w2.store.state.unresolvedRollback = some id :=
      hat2.rollback_of_phase hrollback (by simp [rollbackTransactionPhase, hresolution])
    have haccepts := applyRollbackWriteLeaseConsume_accepts (s := w2.store.state.tick) hw2.idle hslot
      hat2.tick hrollback hresolution hfree hstatus hlease
    subst htransaction
    rw [← hepoch, ← hof.rollbackId] at haccepts
    exact .append hw2 rfl hroom rfl (foreseen_of_dispatch hw2.live.journal.live rfl haccepts
      fun h => hclock (by omega)) hw2.idle (hw2.live.files.same rfl)

theorem beginRollbackTransaction_trace {rollbackId : RepairRollbackId} (hw : Rested vault s w)
    (hclock : u64Bound ≤ s.logicalEventClock + 2 → excused) :
    OpTrace vault excused s (beginRollbackTransaction source rollbackId binding w) := by
  refine .query hw fun result hcheck => ?_
  obtain ⟨id,record,t⟩ := result
  obtain ⟨b,hat,hsource,hbinding⟩ := checkRollbackSource_eq_ok hw.live.journal.inv hcheck
  cases hrollback : t.rollback with
  | some existing =>
    simp only [hrollback]
    exact .query hw fun _ _ => .query hw fun _ _ => .pure hw
  | none =>
    simp only [hrollback]
    refine .query hw fun pending hnew => .capacity hw (by omega) fun w2 hprepared hw2 hroom => ?_
    obtain ⟨_,hresolved,hnew⟩ := bind_ok_iff.mp hnew
    obtain ⟨hunresolved,hunrolled⟩ := require_eq_ok.mp hresolved
    simp only [require_bind_eq_ok, okOr_eq_ok] at hnew
    obtain ⟨hfresh,hpending⟩ := hnew
    have hsame := hprepared.sameRecords
    have hclockAt := hw2.clock
    have hat2 := hat.sameRecords hsame hw2.live.journal.inv
    have hquiet : w2.store.state.tick.isQuiescent = true :=
      isQuiescent_iff.mpr ⟨hw2.idle,hsame.unresolvedTransaction.trans hunresolved,
        hsame.unresolvedRollback.trans hunrolled⟩
    have hunused : ∀ j, w2.store.state.tick.rollbackIdAt j ≠ some rollbackId := by
      intro j hj
      refine hasRollback_eq_false.mp hfresh j ?_
      unfold RecoveredState.rollbackIdAt at hj ⊢
      rw [← hsame.transactions]
      exact hj
    have haccepts := applyRollbackBegin_accepts hquiet hunused hat2.tick hrollback hsource hbinding
      (pending_eq_some hpending)
    exact .append hw2 rfl hroom rfl (foreseen_of_dispatch hw2.live.journal.live rfl haccepts
      fun h => hclock (by omega)) hw2.idle (hw2.live.files.same rfl)

theorem resolve_commit {α : Type} {rest : Operation α} {status : RepairTransactionStatusPayload}
    {resolution : RepairTransactionResolution} (hrest : Passive rest) (hw : Rested vault s w)
    (hclock : u64Bound ≤ s.logicalEventClock + 2 → excused)
    (hroom : w.disk.journal.length + 2 ≤ maxJournalEvents) (hat : DurableAt w.store.state id record b t)
    (hstatus : protocolTransactionStatusFromRecord id record t = .ok status)
    (hphase : transactionPhase t ≠ .resolved) (hchanges : t.resolution ≠ some resolution)
    (hvalid : resolution.validateAgainst b.executionIntent = true) :
    OpTrace vault excused s ((appendEvent (.transactionResolveIntent id
      status.transactionBindingSha256.asStr status.phase resolution) >>= fun _ => do
        appendEvent (.transactionResolveComplete id status.transactionBindingSha256.asStr)
        rest) w) := by
  have hclockAt := hw.clock
  have hunresolved := hat.unresolved_of_phase hphase
  have hintent := applyTransactionResolveIntent_accepts (s := w.store.state.tick) hw.idle hunresolved
    hat.tick hstatus hchanges hvalid
  let waiting : RepairTransactionRecord :=
    { t with pendingResolution := some ⟨status.transactionBindingSha256.asStr,status.phase,resolution⟩ }
  let s₁ : RecoveredState := { w.store.state.tick.setTransaction id waiting with pending := some id }
  have hrecord : s₁.reservations[id]? = some record := congrArg Cell.record hat.cell
  have hwaiting : s₁.transactions[id]? = some waiting := by
    simp [s₁, RecoveredState.setTransaction]
  have htick : s₁.logicalEventClock = w.store.state.logicalEventClock + 1 := rfl
  have hcompletion : s₁.completion = some (.transactionResolveComplete id
      status.transactionBindingSha256.asStr) := by
    have hpending : s₁.pending = some id := rfl
    simp only [RecoveredState.completion, hpending, Option.bind_eq_bind, Option.bind_some, hwaiting]
    rfl
  refine .commit s₁ hw rfl hroom (by simp [RepairEvent.reserves])
    (foreseen_of_dispatch hw.live.journal.live rfl hintent fun h => hclock (by omega)) rfl
    (hw.live.files.same rfl) fun hlive => ?_
  have hat₁ : DurableAt s₁ id record b waiting :=
    hlive.journal.inv.durableAt hrecord (by rw [hat.phase]; rfl) hwaiting
  have hcomplete := applyTransactionResolveComplete_accepts (s := s₁.tick) rfl hunresolved hat₁.tick rfl
  exact wp_finish hrest hlive rfl rfl hw.settled hcompletion rfl hcomplete
    (fun h => hclock (by change u64Bound ≤ s₁.logicalEventClock + 1 at h; omega)) rfl rfl
    fun hfiles => hfiles.same rfl

theorem resolveTransaction_trace {expected : RepairTransactionStatusPayload}
    {resolution : RepairTransactionResolution} (hw : Rested vault s w)
    (hclock : u64Bound ≤ s.logicalEventClock + 2 → excused) :
    OpTrace vault excused s (resolveTransaction expected resolution w) := by
  refine .query hw fun result hcheck => ?_
  obtain ⟨id,current⟩ := result
  have hinv := hw.live.journal.inv
  obtain ⟨record,b,t,hrecord,ht,hat,hstatus⟩ :=
    transactionStatusForId_eq_ok hinv (checkResolution_eq_ok hcheck)
  by_cases hcurrent : current = expected
  · simp only [hcurrent, ne_eq, not_true_eq_false, if_false]
    refine .query hw fun transaction hresolvable => ?_
    simp only [checkResolvable, okOr_bind_eq_ok, require_bind_eq_ok, okOr_eq_ok] at hresolvable
    obtain ⟨record',hrecord',b',hb',hvalid,ht'⟩ := hresolvable
    obtain rfl : record' = record := Option.some.inj (hrecord'.symm.trans hrecord)
    obtain rfl : transaction = t := Option.some.inj (ht'.symm.trans ht)
    obtain rfl : b' = b := by
      rw [hat.phase] at hb'
      exact (Option.some.inj hb').symm
    by_cases hsame : transaction.resolution = some resolution
    · rw [if_pos hsame]
      exact .pure hw
    · rw [if_neg hsame]
      refine .query hw fun _ hphase => .capacity hw le_rfl fun w2 hprepared hw2 hroom => ?_
      have hat2 := hat.sameRecords hprepared.sameRecords hw2.live.journal.inv
      rw [validateResolutionAgainstIntent_eq] at hvalid
      exact resolve_commit (.query _) hw2 hclock hroom hat2 (hcurrent ▸ hstatus)
        (require_eq_ok.mp hphase) hsame hvalid
  · simp only [hcurrent, ne_eq, not_false_eq_true, if_true]
    exact .query hw fun _ _ => .pure hw

theorem rollbackResolve_commit {α : Type} {rest : Operation α}
    {status : RepairRollbackTransactionStatusPayload} {rollback : RepairRollbackTransactionRecord}
    (hrest : Passive rest) (hw : Rested vault s w)
    (hclock : u64Bound ≤ s.logicalEventClock + 2 → excused)
    (hroom : w.disk.journal.length + 2 ≤ maxJournalEvents)
    (hat : DurableAt w.store.state id record b t) (hrollback : t.rollback = some rollback)
    (hstatus : protocolRollbackStatusFromRecord id record t rollback = .ok status)
    (hphase : rollbackTransactionPhase rollback ≠ .resolved)
    (hchanges : rollback.resolution ≠ some resolution)
    (hvalid : resolution.validateAgainst status.source = true) :
    OpTrace vault excused s ((appendEvent (.rollbackResolveIntent id rollback.rollbackId
      status.rollbackTransactionBindingSha256.asStr status.phase resolution) >>= fun _ => do
        appendEvent (.rollbackResolveComplete id rollback.rollbackId
          status.rollbackTransactionBindingSha256.asStr)
        rest) w) := by
  have hclockAt := hw.clock
  have hslot := hat.rollback_of_phase hrollback hphase
  have hintent := applyRollbackResolveIntent_accepts (s := w.store.state.tick) hw.idle hslot hat.tick
    hrollback hstatus hchanges hvalid
  let waiting : RepairRollbackTransactionRecord := { rollback with
    pendingResolution := some ⟨status.rollbackTransactionBindingSha256.asStr,status.phase,resolution⟩ }
  let t₁ : RepairTransactionRecord := { t with rollback := some waiting }
  let s₁ : RecoveredState := { w.store.state.tick.setRollback id t waiting with pending := some id }
  have hrecord : s₁.reservations[id]? = some record := congrArg Cell.record hat.cell
  have hwaiting : s₁.transactions[id]? = some t₁ := by
    simp [s₁, RecoveredState.setRollback, RecoveredState.setTransaction, t₁]
  have htick : s₁.logicalEventClock = w.store.state.logicalEventClock + 1 := rfl
  have hsettled : t₁.pendingResolution = none := hat.settled hw.idle
  have hcompletion : s₁.completion = some (.rollbackResolveComplete id rollback.rollbackId
      status.rollbackTransactionBindingSha256.asStr) := by
    have hpending : s₁.pending = some id := rfl
    simp only [RecoveredState.completion, hpending, Option.bind_eq_bind, Option.bind_some, hwaiting,
      hsettled]
    rfl
  refine .commit s₁ hw rfl hroom (by simp [RepairEvent.reserves])
    (foreseen_of_dispatch hw.live.journal.live rfl hintent fun h => hclock (by omega)) rfl
    (hw.live.files.same rfl) fun hlive => ?_
  have hat₁ : DurableAt s₁ id record b t₁ :=
    hlive.journal.inv.durableAt hrecord (by rw [hat.phase]; rfl) hwaiting
  have hcomplete := applyRollbackResolveComplete_accepts (s := s₁.tick) rfl hslot hat₁.tick rfl rfl
  exact wp_finish hrest hlive rfl rfl hw.settled hcompletion rfl hcomplete
    (fun h => hclock (by change u64Bound ≤ s₁.logicalEventClock + 1 at h; omega)) rfl rfl
    fun hfiles => hfiles.same rfl

/-- `resolve_rollback_transaction` records what replay accepts, except when the child is resolved once
more in the same way. -/
theorem resolveRollbackTransaction_trace {expected : RepairRollbackTransactionStatusPayload}
    (hw : Rested vault s w) (hclock : u64Bound ≤ s.logicalEventClock + 2 → excused)
    (hrepeats : expected.resolution = some resolution → excused) :
    OpTrace vault excused s (resolveRollbackTransaction expected resolution w) := by
  refine .query hw fun result hcheck => ?_
  obtain ⟨id,current⟩ := result
  obtain ⟨hcurrent,hvalid⟩ := checkRollbackResolution_eq_ok hcheck
  obtain ⟨record,b,t,rollback,hrecord,ht,hat,hrollback,hstatus⟩ :=
    rollbackStatusForSource_eq_ok hw.live.journal.inv hcurrent
  obtain ⟨_,_,hof⟩ := rollbackStatusOf_durable hat hrollback hstatus
  by_cases hsame : current = expected
  · simp only [hsame, ne_eq, not_true_eq_false, if_false]
    subst hsame
    refine .query hw fun _ hphase => .capacity hw le_rfl fun w2 hprepared hw2 hroom => ?_
    have hrecords := hprepared.sameRecords
    have hat2 := hat.sameRecords hrecords hw2.live.journal.inv
    have hphase := require_eq_ok.mp hphase
    rw [hof.phase] at hphase
    by_cases hrepeated : rollback.resolution = some resolution
    · refine .reject hw2 rfl (by omega) (hrepeats (hof.resolution.trans hrepeated)) fun s' happly => ?_
      obtain ⟨_,hdispatch⟩ := (applyRepairEvent_live_iff hw2.live.journal.live rfl).mp happly
      refine applyRollbackResolveIntent_repeated (s := w2.store.state.tick) ?_ hrollback hrepeated s'
        hdispatch
      exact congrArg Cell.transaction hat2.cell
    · rw [hof.rollbackId]
      exact rollbackResolve_commit (.query _) hw2 hclock hroom hat2 hrollback hstatus hphase hrepeated
        hvalid
  · simp only [hsame, ne_eq, not_false_eq_true, if_true]
    exact .query hw fun _ _ => .pure hw

end Transactions

section Requests

variable [JournalChain] {w : World} {vault : VaultIdentity} {excused : Prop} {s : RecoveredState}

theorem resumeReserved_trace {id : ReservationId} {digest : String} (hw : Rested vault s w) :
    OpTrace vault excused s (resumeReserved id digest w) := by
  refine .query hw fun _ _ => .query hw fun _ _ => .query hw fun _ _ => .query hw fun _ _ =>
    .query hw fun _ _ => .query hw fun _ _ => ?_
  obtain ⟨hvisits,ids,hfinal⟩ := passive_reservedCapability id w
  exact .quiet (by simp [hvisits]) (hfinal ▸ hw.withCheckedOut)

/-- The request resolves a rollback child as it is resolved already. -/
def Request.repeatsResolution : Request → Prop
  | .resolveRollbackTransaction expected resolution => expected.resolution = some resolution
  | _ => False

theorem runRequest_trace {request : Request} (hw : Rested vault s w)
    (hclock : u64Bound ≤ s.logicalEventClock + 2 → excused)
    (hrepeats : request.repeatsResolution → excused) :
    OpTrace vault excused s (runRequest request w) := by
  cases request with
  | reserveBackup => exact .map (reserveBackup_trace hw hclock)
  | resumeReserved => exact .map (resumeReserved_trace hw)
  | persistBackup => exact .map (persistBackup_trace hw hclock)
  | cancelReserved => exact .map (cancelReserved_trace hw hclock)
  | cancelReservation => exact .map (cancelReservation_trace hw hclock)
  | retireBackup => exact .map (retireBackup_trace hw hclock)
  | beginRollbackTransaction => exact .map (beginRollbackTransaction_trace hw hclock)
  | consumeWriteLease => exact .map (consumeWriteLease_trace hw hclock)
  | consumeRollbackWriteLease => exact .map (consumeRollbackWriteLease_trace hw hclock)
  | resolveTransaction => exact .map (resolveTransaction_trace hw hclock)
  | resolveRollbackTransaction => exact .map (resolveRollbackTransaction_trace hw hclock hrepeats)

end Requests

/-! A session that is unhealthy or has pending work refuses every request. -/

section Refused

variable {w : World} {α β : Type}

/-- The run takes no step and changes nothing but the checked out handles. -/
def Refuses (m : Operation α) (w : World) : Prop :=
  (m w).visits = [] ∧ ∃ ids, (m w).final = w.withCheckedOut ids

namespace Refuses

omit [Sha256Hasher]

theorem query {f : World → Except RepairVaultStoreError α} {g : α → Operation β}
    (h : ∀ a, f w = .ok a → Refuses (g a) w) : Refuses (RepairStore.query f >>= g) w := by
  cases hf : f w with
  | ok a =>
    rw [Refuses, bind_run_ok (show (RepairStore.query f w).result = .ok a from hf)]
    exact h a hf
  | error e =>
    rw [Refuses, bind_run_error (show (RepairStore.query f w).result = .error e from hf)]
    exact ⟨rfl,w.store.checkedOut,rfl⟩

theorem map {m : Operation α} {f : α → β} (h : Refuses m w) : Refuses (f <$> m) w := by
  change Refuses (m >>= fun a => Pure.pure (f a)) w
  cases hresult : (m w).result with
  | ok a =>
    rw [Refuses, bind_run_ok hresult]
    exact ⟨by simp [h.1, Pure.pure, Program.pure],h.2⟩
  | error e =>
    rw [Refuses, bind_run_error hresult]
    exact h

theorem mutable {g : Unit → Operation β}
    (hw : ¬ (w.store.healthy = true ∧ w.store.state.pending = none)) :
    Refuses ((RepairStore.query fun w => w.store.requireMutable) >>= g) w :=
  .query fun _ h => absurd (require_eq_ok.mp h) hw

end Refuses

variable [JournalChain]

theorem cancelReserved_refused {id : ReservationId} {digest : String}
    (hw : ¬ (w.store.healthy = true ∧ w.store.state.pending = none)) :
    Refuses (cancelReserved id digest) w :=
  .mutable hw

theorem runRequest_refused {request : Request}
    (hw : ¬ (w.store.healthy = true ∧ w.store.state.pending = none)) :
    Refuses (runRequest request) w := by
  have hcheck : ∀ {γ : Type} {f : Unit → Except RepairVaultStoreError γ},
      ∀ c, (w.store.requireMutable >>= f) ≠ .ok c := by
    intro γ f c h
    obtain ⟨_,hmutable,_⟩ := bind_ok_iff.mp h
    exact hw (require_eq_ok.mp hmutable)
  cases request with
  | reserveBackup => exact .map (.query fun _ _ => .mutable hw)
  | resumeReserved => exact .map (.query fun _ h => absurd (require_eq_ok.mp h) hw)
  | persistBackup => exact .map (.query fun _ _ => .mutable hw)
  | cancelReserved => exact .map (cancelReserved_refused hw)
  | cancelReservation reservation =>
    obtain ⟨hvisits,ids,hfinal⟩ := passive_consumeCheckout reservation.reservationId w
    refine .map ?_
    cases hresult : (consumeCheckout reservation.reservationId w).result with
    | ok a =>
      have hnext : Refuses (cancelReserved reservation.reservationId
          reservation.reservationBindingSha256) (w.withCheckedOut ids) := cancelReserved_refused hw
      obtain ⟨hvisits',ids',hfinal'⟩ : Refuses (cancelReserved reservation.reservationId
          reservation.reservationBindingSha256 >>= fun _ => Pure.pure ()) (w.withCheckedOut ids) :=
        .map (f := fun _ => ()) hnext
      rw [cancelReservation, Refuses, bind_run_ok hresult, hvisits, hfinal]
      exact ⟨hvisits',ids',hfinal'⟩
    | error e =>
      rw [cancelReservation, Refuses, bind_run_error hresult]
      exact ⟨hvisits,ids,hfinal⟩
  | retireBackup => exact .map (.mutable hw)
  | beginRollbackTransaction => exact .map (.query fun _ h => absurd h (hcheck _))
  | consumeWriteLease => exact .map (.mutable hw)
  | consumeRollbackWriteLease => exact .map (.mutable hw)
  | resolveTransaction => exact .map (.query fun _ h => absurd h (hcheck _))
  | resolveRollbackTransaction => exact .map (.query fun _ h => absurd h (hcheck _))

end Refused

end KernAid.RepairStore
