import KernAid.PendingFiles

/-! Each public operation leaves the vault as it was, records one event, or records and finishes an
intent. -/

set_option autoImplicit false

namespace KernAid.RepairStore

open Encoding CrashLogic Protocol Program

/-! Parts of an operation that touch neither the vault nor the recovered state. -/

def World.withCheckedOut (w : World) (ids : IdSet) : World :=
  { w with store := { w.store with checkedOut := ids } }

/-- A part that takes no step and changes nothing but the set of checked out handles. -/
def Passive {α : Type} (m : Operation α) : Prop :=
  ∀ w, (m w).visits = [] ∧ ∃ ids, (m w).final = w.withCheckedOut ids

namespace Passive

variable {α β : Type}

theorem query (f : World → Except RepairVaultStoreError α) : Passive (RepairStore.query f) :=
  fun w => ⟨rfl,w.store.checkedOut,rfl⟩

theorem pure (a : α) : Passive (Pure.pure a : Operation α) :=
  fun w => ⟨rfl,w.store.checkedOut,rfl⟩

theorem checkout (f : IdSet → IdSet) :
    Passive (updateStore fun store => { store with checkedOut := f store.checkedOut }) :=
  fun w => ⟨rfl,f w.store.checkedOut,rfl⟩

theorem bind {m : Operation α} {f : α → Operation β} (hm : Passive m) (hf : ∀ a, Passive (f a)) :
    Passive (m >>= f) := by
  intro w
  obtain ⟨hvisits,ids,hfinal⟩ := hm w
  cases hresult : (m w).result with
  | ok a =>
    obtain ⟨hvisits',ids',hfinal'⟩ := hf a (m w).final
    rw [bind_run_ok hresult]
    exact ⟨by simp [hvisits, hvisits'],ids',by rw [hfinal', hfinal]; rfl⟩
  | error e =>
    rw [bind_run_error hresult]
    exact ⟨hvisits,ids,hfinal⟩

end Passive

theorem passive_reservedCapability (id : ReservationId) : Passive (reservedCapability id) :=
  .bind (.query _) fun _ => .bind (.query _) fun _ => .bind (.query _) fun _ =>
    .bind (.checkout (·.insert id)) fun _ => .pure _

theorem passive_consumeCheckout (id : ReservationId) : Passive (consumeCheckout id) :=
  .bind (.query _) fun _ => .checkout (·.erase id)

theorem wp_passive {α : Type} {m : Operation α} {during : StorageStep → World → Prop} {P : World → Prop}
    {w : World}
    (hm : Passive m) (h : ∀ ids, P (w.withCheckedOut ids)) : wp m during (fun _ => P) w := by
  obtain ⟨hvisits,ids,hfinal⟩ := hm w
  exact ⟨by simp [hvisits],hfinal ▸ h ids⟩

section Records

variable {s s' : RecoveredState} {id : ReservationId} {record : ReservationRecord}

/-- A compaction drops tombstones and forgets identifiers, nothing else. -/
structure SameRecords (s s' : RecoveredState) : Prop where
  reservations : s'.reservations = s.reservations
  transactions : s'.transactions = s.transactions
  unresolvedTransaction : s'.unresolvedTransaction = s.unresolvedTransaction
  unresolvedRollback : s'.unresolvedRollback = s.unresolvedRollback
  clock : s'.logicalEventClock = s.logicalEventClock
  released : ∀ (id : ReservationId) tombstone, s'.released[id]? = some tombstone →
    s.released[id]? = some tombstone

theorem SameRecords.refl (s : RecoveredState) : SameRecords s s :=
  ⟨rfl,rfl,rfl,rfl,rfl,fun _ _ h => h⟩

theorem SameRecords.trans {s'' : RecoveredState} (h : SameRecords s s') (h' : SameRecords s' s'') :
    SameRecords s s'' :=
  ⟨h'.reservations.trans h.reservations,h'.transactions.trans h.transactions,
    h'.unresolvedTransaction.trans h.unresolvedTransaction,
    h'.unresolvedRollback.trans h.unresolvedRollback,h'.clock.trans h.clock,
    fun id tombstone ht => h.released id tombstone (h'.released id tombstone ht)⟩

theorem SameRecords.bindingAt (h : SameRecords s s') {digest : String}
    (hnew : ∀ j, s.bindingAt j ≠ some digest) (j : ReservationId) : s'.bindingAt j ≠ some digest := by
  intro hj
  refine hnew j ?_
  unfold RecoveredState.bindingAt at hj ⊢
  rw [h.reservations] at hj
  cases hrecord : s.reservations[j]? with
  | some record => simpa [hrecord] using hj
  | none =>
    simp only [hrecord] at hj
    obtain ⟨tombstone,ht,hdigest⟩ := Option.map_eq_some_iff.mp hj
    exact Option.map_eq_some_iff.mpr ⟨tombstone,h.released j tombstone ht,hdigest⟩

theorem resolutions_of_settled
    (htransaction : ∀ t, s.transactions[id]? = some t → t.hasPending = false) :
    s.transactions[id]?.bind RepairTransactionRecord.pendingResolution = none ∧
      s.transactions[id]?.bind pendingRollbackResolution = none := by
  cases ht : s.transactions[id]? with
  | none => exact ⟨rfl,rfl⟩
  | some t =>
    have hnone := htransaction t ht
    simp only [RepairTransactionRecord.hasPending, Bool.or_eq_false_iff] at hnone
    refine ⟨by simpa using hnone.1,?_⟩
    cases hr : t.rollback with
    | none => simp [pendingRollbackResolution, hr]
    | some rollback =>
      rw [hr] at hnone
      have hsettled : rollback.pendingResolution = none := by simpa using hnone.2
      simp [pendingRollbackResolution, hr, hsettled]

theorem completion_of_record (hpending : s.pending = some id)
    (htransaction : ∀ t, s.transactions[id]? = some t → t.hasPending = false)
    (hrecord : s.reservations[id]? = some record) : s.completion = record.completion id := by
  obtain ⟨hresolution,hrollback⟩ := resolutions_of_settled htransaction
  simp only [RecoveredState.completion, hpending, Option.bind_eq_bind, Option.bind_some, hresolution,
    hrollback, hrecord]

end Records

variable [Sha256Hasher]

theorem passive_reconcileReservedRetry (draft : RepairBackupDraft) (digest : String) :
    Passive (reconcileReservedRetry draft digest) := by
  refine .bind (.query _) fun found => .bind (.query _) fun _ => ?_
  cases found with
  | none => exact .pure none
  | some id => exact .bind (passive_reservedCapability id) fun _ => .pure _

section Trace

variable {vault : VaultIdentity} {excused : Prop} {s : RecoveredState} {w : World} {ids : IdSet}
  {α β : Type}

theorem Live.withCheckedOut (h : Live vault w) : Live vault (w.withCheckedOut ids) :=
  ⟨h.attested,h.journal,h.count,h.files⟩

theorem Settled.withCheckedOut (h : Settled vault w) : Settled vault (w.withCheckedOut ids) :=
  ⟨h.live.withCheckedOut,h.settled,h.idle⟩

theorem Rested.withCheckedOut (h : Rested vault s w) : Rested vault s (w.withCheckedOut ids) :=
  ⟨h.toSettled.withCheckedOut,h.compactions⟩

variable [JournalChain]

theorem OpTrace.passive {m : Operation α} {g : α → Operation β} (hm : Passive m) (hw : Rested vault s w)
    (h : ∀ a ids, (m w).result = .ok a → (m w).final = w.withCheckedOut ids →
      OpTrace vault excused s (g a (w.withCheckedOut ids))) :
    OpTrace vault excused s ((m >>= g) w) := by
  obtain ⟨hvisits,ids,hfinal⟩ := hm w
  refine .bind ⟨by simp [hvisits],fun a ha => ?_,fun _ _ => ?_⟩
  · rw [hfinal]
    exact h a ids ha hfinal
  · rw [hfinal]
    exact hw.withCheckedOut

end Trace

/-! What the capacity check and the events of an operation leave in place. -/

section Frames

variable {s s' : RecoveredState} {w w' : World} {d : Disk} {id : ReservationId}
  {record : ReservationRecord}

theorem sameRecords_of_compact {anchor : JournalAnchor} {events : List RepairEvent}
    (h : compactJournalUntil s anchor = .ok (events,s')) : SameRecords s s' := by
  obtain ⟨_,_,_,_,_,_,rfl⟩ := compactJournalUntil_eq_ok h
  exact ⟨rfl,rfl,rfl,rfl,rfl,fun _ _ ht => (retained_getElem? ht).1⟩

theorem Compactions.sameRecords (h : Compactions s s') : SameRecords s s' := by
  induction h with
  | refl => exact .refl s
  | compact _ hcompact ih => exact ih.trans (sameRecords_of_compact hcompact)

theorem Rested.clock {vault : VaultIdentity} (h : Rested vault s w) :
    w.store.state.logicalEventClock = s.logicalEventClock :=
  h.compactions.sameRecords.clock

theorem Prepared.sameRecords (h : Prepared w w') : SameRecords w.store.state w'.store.state := by
  cases h with
  | same => exact .refl _
  | compacted hcompact => exact sameRecords_of_compact hcompact

theorem FilesOk.insert (h : FilesOk d s) (hactive : s'.reservations = s.reservations.insert id record)
    (hfile : FileOk d id (some record)) : FilesOk d s' := by
  intro j
  rw [hactive, getElem?_insert_ite]
  split_ifs with hj
  · exact hj ▸ hfile
  · exact h j

theorem FilesOk.erase (h : FilesOk d s) (hactive : s'.reservations = s.reservations.erase id)
    (hfile : FileOk d id none) : FilesOk d s' := by
  intro j
  rw [hactive, getElem?_erase_ite]
  split_ifs with hj
  · exact hj ▸ hfile
  · exact h j

theorem FilesOk.same (h : FilesOk d s) (hactive : s'.reservations = s.reservations) : FilesOk d s' := by
  intro j
  rw [hactive]
  exact h j

end Frames

/-! Reservations. -/

section Reserve

variable {w : World} {draft : RepairBackupDraft} {digest : String}

theorem foldlM_matchReservedRetry {found : Option ReservationId}
    (l : List (ReservationId × ReservationRecord))
    (h : l.foldlM (matchReservedRetry w draft digest) found = .ok none) :
    found = none ∧ ∀ entry ∈ l, entry.2.reservationBindingSha256 ≠ digest := by
  induction l generalizing found with
  | nil => exact ⟨Except.ok.inj h,by simp⟩
  | cons entry l ih =>
    rw [List.foldlM_cons] at h
    obtain ⟨next,hnext,hrest⟩ := bind_ok_iff.mp h
    obtain ⟨rfl,hall⟩ := ih hrest
    unfold matchReservedRetry at hnext
    split_ifs at hnext with hsame
    · simp only [require_bind_eq_ok] at hnext
      obtain ⟨_,hnext⟩ := hnext
      obtain ⟨_,_,hnext⟩ := bind_ok_iff.mp hnext
      obtain ⟨_,_,hnext⟩ := bind_ok_iff.mp hnext
      cases hnext
    · exact ⟨Except.ok.inj hnext,List.forall_mem_cons.mpr ⟨hsame,hall⟩⟩

theorem reconcileReservedRetry_none (h : (reconcileReservedRetry draft digest w).result = .ok none)
    (j : ReservationId) : w.store.state.bindingAt j ≠ some digest := by
  obtain ⟨found,hfold,h⟩ := bind_result_ok.mp h
  obtain ⟨_,hreleased,h⟩ := bind_result_ok.mp h
  have hreleased := require_eq_ok.mp hreleased
  cases found with
  | some id =>
    obtain ⟨_,_,hcontra⟩ := map_result_ok.mp h
    cases hcontra
  | none =>
    obtain ⟨_,hactive⟩ := foldlM_matchReservedRetry _ hfold
    intro hj
    unfold RecoveredState.bindingAt at hj
    cases hrecord : w.store.state.reservations[j]? with
    | some record =>
      simp only [hrecord, Option.some.injEq] at hj
      exact hactive (j,record) (Std.ExtTreeMap.mem_toList_iff_getElem?_eq_some.mpr hrecord) hj
    | none =>
      simp only [hrecord] at hj
      obtain ⟨tombstone,ht,hdigest⟩ := Option.map_eq_some_iff.mp hj
      have hne := List.all_eq_true.mp hreleased (j,tombstone)
        (Std.ExtTreeMap.mem_toList_iff_getElem?_eq_some.mpr ht)
      simp [hdigest] at hne

variable {vault : VaultIdentity} {excused : Prop} {s : RecoveredState} {id : ReservationId}
  {record : ReservationRecord}

variable [JournalChain]

/-- The end of an operation: the files are in place, the completion is recorded, and what is left
answers the caller. -/
theorem wp_finish {α : Type} {rest : Operation α} {event : RepairEvent} {s₁ s₂ : RecoveredState}
    (hrest : Passive rest) (hlive : Live vault w) (hstate : w.store.state = s₁)
    (hpending : s₁.pending.isSome = true) (hsettled : w.disk.settled)
    (hcompletion : s₁.completion = some event) (hcontrol : event.isControl = false)
    (hdispatch : dispatchRepairEvent s₁.tick event (w.disk.journal.length + 1) = .ok s₂)
    (hclock : u64Bound ≤ s₁.logicalEventClock + 1 → excused) (hidle : s₂.pending = none)
    (hreserves : event.reserves = none) (hfiles : FilesOk w.disk s₁ → FilesOk w.disk s₂) :
    wp (appendEvent event >>= fun _ => rest)
      (StepIn vault excused s₁)
      (fun _ t => Settled vault t ∧ s₁.completesTo t.store.state ∨ excused ∧ SessionOk vault t) w := by
  subst hstate
  refine wp_bind.mpr (wp_complete hlive rfl hpending hsettled hcontrol
    (foreseen_of_dispatch hlive.journal.live hcontrol hdispatch hclock) hidle hreserves
    (hfiles hlive.files) ?_ ?_)
  · intro hdone happly
    rw [andThen_ok]
    exact wp_passive hrest fun ids => .inl ⟨hdone.withCheckedOut,event,_,hcompletion,happly⟩
  · exact fun e t hexcused hsession => .inr ⟨hexcused,hsession⟩

def RecoveredState.reserving (s : RecoveredState) (id : ReservationId) (record : ReservationRecord) :
    RecoveredState :=
  { s.tick.setPhase id record .reservePending with
    seenReservationIds := s.seenReservationIds.insert id
    pending := some id }

theorem reserve_commit {α : Type} {rest : Operation α} (hrest : Passive rest) (hw : Rested vault s w)
    (hclock : u64Bound ≤ s.logicalEventClock + 2 → excused)
    (hroom : w.disk.journal.length + 2 ≤ maxJournalEvents) (hrecord : RecordOk record)
    (howns : vault.owns record) (hquiet : w.store.state.isQuiescent = true)
    (hsize : w.store.state.reservations.size < maxReservations)
    (hseen : id ∉ w.store.state.seenReservationIds) (hfree : w.disk.backups[id]? = none)
    (hnew : ∀ j, w.store.state.bindingAt j ≠ some record.reservationBindingSha256) :
    OpTrace vault excused s ((appendEvent (.reserveIntent id record.draft
      record.reservationBindingSha256 record.reservedCapacityBytes record.vaultId
      record.vaultIdentityFingerprint record.physicalParentFingerprint) >>= fun _ => do
        poisoning (allocateAndVerify id record.reservedCapacityBytes)
        appendEvent (.reserveComplete id)
        rest) w) := by
  have hclockAt := hw.clock
  obtain ⟨hfresh,hnotx,hunreleased⟩ := hw.live.journal.inv.fresh hseen
  let s₁ := w.store.state.reserving id record
  have hactive : s₁.reservations[id]? = some { record with phase := .reservePending } := by
    simp [s₁, RecoveredState.reserving, RecoveredState.setPhase]
  have hcompletion : s₁.completion = some (.reserveComplete id) := by
    refine completion_of_record rfl (fun t ht => ?_) hactive
    have hnone : w.store.state.transactions[id]? = some t := ht
    rw [hnotx] at hnone
    cases hnone
  have hintent := applyReserveIntent_accepts (s := w.store.state.tick) hrecord hquiet hsize
    (notMem_of_getElem? hfresh) (notMem_of_getElem? hunreleased) hseen
  have hcomplete := applyReserveComplete_accepts (s := s₁.tick) rfl hactive rfl
  refine .commit s₁ hw rfl hroom ?_ (foreseen_of_dispatch hw.live.journal.live rfl hintent
    fun h => hclock (by omega)) rfl ?_ fun hlive => ?_
  · rintro id' record' hreserves
    simp only [RepairEvent.reserves, Option.some.injEq, Prod.mk.injEq] at hreserves
    obtain ⟨rfl,rfl⟩ := hreserves
    exact ⟨howns,hnew⟩
  · exact hw.live.files.insert rfl (fileOk_of_waiting rfl)
  · refine wp_bind.mpr (wp_poisoning.mpr ?_)
    refine wp_allocateAndVerify hlive hw.settled hactive rfl hfree ?_
    intro w4 h4 hstored
    refine ⟨fun _ _ => ?_,fun _ he => (by cases he)⟩
    have hstate : w4.store.state = s₁ := by rw [h4.store]; rfl
    have htick : s₁.logicalEventClock = w.store.state.logicalEventClock + 1 := rfl
    rw [andThen_ok]
    exact wp_finish hrest h4.live hstate rfl h4.settled hcompletion rfl hcomplete
      (fun h => hclock (by omega)) rfl rfl fun hfiles => hfiles.insert rfl hstored

theorem reserveBackup_trace {candidates : List ReservationId} (hw : Rested vault s w)
    (hclock : u64Bound ≤ s.logicalEventClock + 2 → excused) :
    OpTrace vault excused s (reserveBackup candidates draft w) := by
  refine .query hw fun _ hdraft => .query hw fun _ _ => .passive (passive_reconcileReservedRetry _ _) hw
    fun found ids hfound hfinal => ?_
  have hw1 : Rested vault s (w.withCheckedOut ids) := hw.withCheckedOut
  cases found with
  | some reserved => exact .pure hw1
  | none =>
    have hnew := reconcileReservedRetry_none hfound
    refine .query hw1 fun _ hresolved => .capacity hw1 le_rfl fun w2 hprepared hw2 hroom => ?_
    refine .query hw2 fun _ hsize => .query hw2 fun id hid => .read ?_
    obtain ⟨hunresolved,hunrolled⟩ := require_eq_ok.mp hresolved
    have hsame := hprepared.sameRecords
    have hunused := List.find?_some (okOr_eq_ok.mp hid)
    simp only [Bool.and_eq_true, Bool.not_eq_true', Option.isNone_iff_eq_none] at hunused
    have hseen : id ∉ w2.store.state.seenReservationIds := by
      rw [← Std.ExtTreeSet.contains_iff_mem, hunused.1]
      exact Bool.false_ne_true
    have hvault := hw2.live.attested
    have hrecord : RecordOk ⟨draft,reservationBinding draft,draft.requiredCapacityBytes,w2.store.vaultId,
        w2.store.vaultIdentityFingerprint,w2.store.physicalParentFingerprint,.reservePending⟩ :=
      ⟨require_eq_ok.mp hdraft,rfl,rfl,w2.store.validId,w2.store.validIdentity,w2.store.validParent⟩
    have hquiet : w2.store.state.isQuiescent = true :=
      isQuiescent_iff.mpr ⟨hw2.idle,hsame.unresolvedTransaction.trans hunresolved,
        hsame.unresolvedRollback.trans hunrolled⟩
    have htrace := reserve_commit (passive_reservedCapability id) hw2 hclock hroom hrecord
      ⟨congrArg VaultIdentity.vaultId hvault,congrArg VaultIdentity.fingerprint hvault⟩ hquiet
      (require_eq_ok.mp hsize) hseen hunused.2 (hsame.bindingAt hnew)
    exact htrace

end Reserve

section Persist

variable {w : World} {vault : VaultIdentity} {excused : Prop} {s : RecoveredState}

theorem checkPersist_eq_ok {reservation : RepairBackupSummary} {binding : RepairBinding}
    {record : ReservationRecord} (h : checkPersist reservation binding w = .ok record) :
    w.store.state.reservations[reservation.reservationId]? = some record ∧
      binding.validateForRecord record = true ∧ record.phase = .reserved := by
  simp only [checkPersist, okOr_bind_eq_ok, require_bind_eq_ok] at h
  obtain ⟨found,hfound,hbinding,h⟩ := h
  obtain ⟨_,_,h⟩ := bind_ok_iff.mp h
  simp only [require_bind_eq_ok, pure_eq_ok_iff] at h
  obtain ⟨_,⟨hphase,_⟩,rfl⟩ := h
  exact ⟨hfound,hbinding,hphase⟩

theorem readSource_eq_ok {source : Option (List UInt8)} {size : Nat} {digest : Bytes32}
    {bytes : List UInt8} (h : readSource source size digest = .ok bytes) :
    bytes.length = size ∧ Sha256Hasher.finalize bytes = digest := by
  simp only [readSource, okOr_bind_eq_ok, require_bind_eq_ok, pure_eq_ok_iff] at h
  obtain ⟨_,_,hlength,hdigest,rfl⟩ := h
  exact ⟨hlength,hdigest⟩

theorem RecordOk.fits {record : ReservationRecord} (h : RecordOk record) :
    record.draft.backupSizeBytes ≤ record.reservedCapacityBytes := by
  have hdraft := h.draft
  simp only [RepairBackupDraft.validate, Bool.and_eq_true, decide_eq_true_eq] at hdraft
  rw [h.capacity]
  exact hdraft.1.2

variable [JournalChain]

theorem persistBackup_trace {reservation : RepairBackupSummary} {binding : RepairBinding}
    {source : Option (List UInt8)} (hw : Rested vault s w)
    (hclock : u64Bound ≤ s.logicalEventClock + 2 → excused) :
    OpTrace vault excused s (persistBackup reservation binding source w) := by
  refine .query hw fun _ _ => .query hw fun _ _ => .passive (passive_consumeCheckout _) hw
    fun _ ids _ _ => ?_
  have hw1 : Rested vault s (w.withCheckedOut ids) := hw.withCheckedOut
  refine .query hw1 fun _ hresolved => .capacity hw1 le_rfl fun w2 hprepared hw2 hroom => ?_
  refine .query hw2 fun record hcheck => .query hw2 fun bytes hsource => ?_
  obtain ⟨hactive,hbinding,hphase⟩ := checkPersist_eq_ok hcheck
  obtain ⟨hlength,hdigest⟩ := readSource_eq_ok hsource
  obtain ⟨hunresolved,hunrolled⟩ := require_eq_ok.mp hresolved
  have hsame := hprepared.sameRecords
  have hclockAt := hw2.clock
  obtain ⟨hrecord,hcell⟩ := (hw2.live.journal.inv.cells reservation.reservationId).of_reserved
    hactive hphase
  have hnotx : w2.store.state.transactions[reservation.reservationId]? = none :=
    congrArg Cell.transaction hcell
  have hquiet : w2.store.state.tick.isQuiescent = true :=
    isQuiescent_iff.mpr ⟨hw2.idle,hsame.unresolvedTransaction.trans hunresolved,
      hsame.unresolvedRollback.trans hunrolled⟩
  have hstored := hw2.live.files reservation.reservationId
  simp only [hactive, FileOk, hphase] at hstored
  have hintent := applyPersistIntent_accepts hquiet hactive hphase hbinding
  let filling : ReservationRecord := { record with phase := .persistPending binding }
  let s₁ : RecoveredState :=
    { w2.store.state.tick.setPhase reservation.reservationId record (.persistPending binding) with
      pending := some reservation.reservationId }
  have hfilling : s₁.reservations[reservation.reservationId]? = some filling := by
    simp [s₁, RecoveredState.setPhase, filling]
  have htick : s₁.logicalEventClock = w2.store.state.logicalEventClock + 1 := rfl
  have hcompletion : s₁.completion = some (.persistComplete reservation.reservationId
      (encodeHex record.draft.expectedBackupSha256.toList) record.draft.backupSizeBytes) := by
    refine completion_of_record rfl (fun t ht => ?_) hfilling
    cases hnotx.symm.trans ht
  have hcomplete := applyPersistComplete_accepts (s := s₁.tick) rfl hfilling rfl hnotx
    (hsame.unresolvedTransaction.trans hunresolved)
  refine .commit s₁ hw2 rfl hroom (by simp [RepairEvent.reserves])
    (foreseen_of_dispatch hw2.live.journal.live rfl hintent fun h => hclock (by omega)) rfl
    (hw2.live.files.insert rfl (fileOk_of_waiting rfl)) fun hlive => ?_
  refine wp_bind.mpr (wp_poisoning.mpr ?_)
  change wp (installAndVerify reservation.reservationId bytes filling.draft.backupSizeBytes
    filling.draft.expectedBackupSha256 filling.reservedCapacityBytes) _ _ _
  refine wp_installAndVerify hlive hw2.settled hfilling rfl ⟨hstored.present,hstored.synced⟩ hlength
    hdigest hrecord.fits ?_
  intro w4 h4 hholds
  refine ⟨fun _ _ => ?_,fun _ he => (by cases he)⟩
  rw [andThen_ok]
  exact wp_finish (.query _) h4.live (by rw [h4.store]; rfl) rfl h4.settled hcompletion rfl hcomplete
    (fun h => hclock (by omega)) rfl rfl fun hfiles => hfiles.insert rfl
      ⟨hholds.present.imp fun file hfile => ⟨hfile.1,
        ⟨hfile.2.1.length,hfile.2.1.size,hfile.2.1.digest,hfile.2.1.padding⟩,hfile.2.2⟩,hholds.synced⟩

end Persist

section Release

variable {w : World} {vault : VaultIdentity} {excused : Prop} {s : RecoveredState}
  {id : ReservationId} {record : ReservationRecord}

theorem checkCancel_eq_ok {digest : String} (h : checkCancel id digest w = .ok record) :
    w.store.state.reservations[id]? = some record ∧ record.phase = .reserved ∧
      digest = record.reservationBindingSha256 := by
  simp only [checkCancel, okOr_bind_eq_ok] at h
  obtain ⟨found,hfound,h⟩ := h
  obtain ⟨_,_,h⟩ := bind_ok_iff.mp h
  simp only [require_bind_eq_ok] at h
  obtain ⟨⟨hphase,hdigest⟩,h⟩ := h
  obtain ⟨_,_,h⟩ := bind_ok_iff.mp h
  rw [pure_eq_ok_iff] at h
  subst h
  exact ⟨hfound,hphase,hdigest⟩

theorem checkRetire_eq_ok {expected : VerifiedBackupMetadata}
    (h : checkRetire expected w = .ok record) :
    w.store.state.reservations[expected.reservationId]? = some record ∧
      (∃ binding, record.phase.durableBinding = some binding) ∧
      w.store.verifiedMetadata expected.reservationId = .ok expected ∧
      ∃ t, w.store.state.transactions[expected.reservationId]? = some t ∧
        t.isUnresolved = false ∧ t.hasUnresolvedRollback = false := by
  simp only [checkRetire, okOr_bind_eq_ok] at h
  obtain ⟨found,hfound,h⟩ := h
  obtain ⟨_,_,h⟩ := bind_ok_iff.mp h
  simp only [require_bind_eq_ok] at h
  obtain ⟨hdurable,h⟩ := h
  obtain ⟨metadata,hmetadata,h⟩ := bind_ok_iff.mp h
  simp only [require_bind_eq_ok, okOr_bind_eq_ok] at h
  obtain ⟨rfl,t,ht,⟨hresolved,hrollback⟩,h⟩ := h
  obtain ⟨_,_,h⟩ := bind_ok_iff.mp h
  rw [pure_eq_ok_iff] at h
  subst h
  refine ⟨hfound,Option.isSome_iff_exists.mp hdurable,hmetadata,t,ht,?_,?_⟩
  · simp [RepairTransactionRecord.isUnresolved, hresolved]
  · cases hr : t.rollback with
    | none => simp [RepairTransactionRecord.hasUnresolvedRollback, hr]
    | some rollback =>
      rw [hr, Option.all_some, beq_iff_eq] at hrollback
      simp [RepairTransactionRecord.hasUnresolvedRollback, hr, hrollback]

theorem DurableAt.tick {b : RepairBinding} {t : RepairTransactionRecord} (h : DurableAt s id record b t) :
    DurableAt s.tick id record b t :=
  ⟨h.recordOk,h.phase,h.bindingOk,h.transactionOk,h.cell⟩

theorem DurableAt.isFinal {b : RepairBinding} {t : RepairTransactionRecord}
    (h : DurableAt s id record b t)
    (hresolved : t.isUnresolved = false) (hrolled : t.hasUnresolvedRollback = false) :
    s.isFinal id t = true := by
  refine isFinal_iff.mpr ⟨hresolved,?_,hrolled,?_⟩
  · have hunresolved := h.isUnresolved_eq
    rw [hresolved] at hunresolved
    simpa using hunresolved.symm
  · have hopen := h.hasUnresolvedRollback_eq
    rw [hrolled] at hopen
    simpa using hopen.symm

variable [JournalChain]

theorem wp_release {α : Type} {rest : Operation α} {event : RepairEvent} {s₂ : RecoveredState}
    (hrest : Passive rest) (hlive : Live vault w) (hpending : w.store.state.pending = some id)
    (hsettled : w.disk.settled) (hrecord : w.store.state.reservations[id]? = some record)
    (hphase : (StorageStep.unlink id).mayChange record.phase = true)
    (hcompletion : w.store.state.completion = some event) (hcontrol : event.isControl = false)
    (hdispatch : w.store.state.released.size < maxReleaseTombstones →
      ∀ n, dispatchRepairEvent w.store.state.tick event n = .ok s₂)
    (hclock : u64Bound ≤ w.store.state.logicalEventClock + 1 → excused) (hidle : s₂.pending = none)
    (hreserves : event.reserves = none)
    (hactive : s₂.reservations = w.store.state.reservations.erase id) :
    wp (removePendingBackupFile id >>= fun _ => appendEvent event >>= fun _ => rest)
      (StepIn vault excused w.store.state)
      (fun _ t => Settled vault t ∧ w.store.state.completesTo t.store.state ∨
        excused ∧ SessionOk vault t) w := by
  have hsome : w.store.state.pending.isSome = true := by rw [hpending]; rfl
  have hfew := released_lt_of_pending hlive.journal.replayed (hlive.journal.room hsome) hsome
  refine wp_bind.mpr (wp_removePendingBackupFile hlive hsettled hrecord hphase ?_)
  intro w2 h2 hgone
  rw [andThen_ok]
  exact wp_finish hrest h2.live (by rw [h2.store]) hsome h2.settled hcompletion hcontrol
    (hdispatch hfew _) hclock hidle hreserves fun hfiles => hfiles.erase hactive ⟨hgone,h2.settled id⟩

theorem cancelReserved_trace {digest : String} (hw : Rested vault s w)
    (hclock : u64Bound ≤ s.logicalEventClock + 2 → excused) :
    OpTrace vault excused s (cancelReserved id digest w) := by
  refine .query hw fun _ _ => .query hw fun _ _ => .capacity hw (by omega) fun w1 _ hw1 _ => .read ?_
  cases hreleased : w1.store.state.released[id]? with
  | some tombstone => exact .query hw1 fun _ _ => .query hw1 fun _ _ => .pure hw1
  | none =>
    refine .capacity hw1 le_rfl fun w2 hprepared hw2 hroom => .query hw2 fun record hcheck => .update ?_
    obtain ⟨hactive,hphase,_⟩ := checkCancel_eq_ok hcheck
    have hclockAt := hw2.clock
    have hinv := hw2.live.journal.inv
    obtain ⟨_,hcell⟩ := (hinv.cells id).of_reserved hactive hphase
    have hnotx : w2.store.state.transactions[id]? = none := congrArg Cell.transaction hcell
    let w3 := w2.withCheckedOut (w2.store.checkedOut.erase id)
    have hw3 : Rested vault s w3 := hw2.withCheckedOut
    have hintent := applyCancelIntent_accepts (s := w2.store.state.tick) hw2.idle hactive hphase
    let cancelling : ReservationRecord := { record with phase := .cancelPending }
    let s₁ : RecoveredState :=
      { w2.store.state.tick.setPhase id record .cancelPending with pending := some id }
    have hcancelling : s₁.reservations[id]? = some cancelling := by
      simp [s₁, RecoveredState.setPhase, cancelling]
    have htick : s₁.logicalEventClock = w2.store.state.logicalEventClock + 1 := rfl
    have hlate : u64Bound ≤ s₁.logicalEventClock + 1 → excused := fun h => hclock (by omega)
    have hcompletion : s₁.completion = some (.cancelComplete id none) :=
      completion_of_record (s := s₁) rfl (fun t ht => by cases hnotx.symm.trans ht) hcancelling
    have hsoon : u64Bound ≤ w2.store.state.logicalEventClock + 1 → excused := fun h => hclock (by omega)
    refine .commit (w := w3) s₁ hw3 rfl hroom (by simp [RepairEvent.reserves])
      (foreseen_of_dispatch hw2.live.journal.live rfl hintent hsoon) rfl
      (hw2.live.files.insert rfl (fileOk_of_waiting rfl)) fun hlive => ?_
    have hstamp : releaseStamp s₁.tick none = some s₁.tick.logicalEventClock :=
      releaseStamp_live hw2.live.journal.live
    have hcomplete := fun (hfew : s₁.released.size < maxReleaseTombstones) (_ : Nat) =>
      applyCancelComplete_accepts (s := s₁.tick) hstamp rfl hfew
        (notMem_of_getElem? (hinv.not_released hactive)) hcancelling rfl
    exact wp_release (.pure _) hlive rfl hw2.settled hcancelling rfl hcompletion rfl hcomplete hlate rfl
      rfl rfl

theorem cancelReservation_trace {reservation : RepairBackupSummary} (hw : Rested vault s w)
    (hclock : u64Bound ≤ s.logicalEventClock + 2 → excused) :
    OpTrace vault excused s (cancelReservation reservation w) :=
  .passive (passive_consumeCheckout _) hw fun _ _ _ _ =>
    .map (cancelReserved_trace hw.withCheckedOut hclock)

theorem retireBackup_trace {expected : VerifiedBackupMetadata} (hw : Rested vault s w)
    (hclock : u64Bound ≤ s.logicalEventClock + 2 → excused) :
    OpTrace vault excused s (retireBackup expected w) := by
  refine .query hw fun _ _ => .capacity hw (by omega) fun w1 _ hw1 _ => .read ?_
  cases hreleased : w1.store.state.released[expected.reservationId]? with
  | some tombstone =>
    exact .query hw1 fun _ _ => .query hw1 fun _ _ => .query hw1 fun _ _ => .query hw1 fun _ _ =>
      .pure hw1
  | none =>
    refine .capacity hw1 le_rfl fun w2 hprepared hw2 hroom => .query hw2 fun record hcheck => ?_
    obtain ⟨hactive,⟨b,hb⟩,_,t,ht,hresolved,hrolled⟩ := checkRetire_eq_ok hcheck
    have hclockAt := hw2.clock
    have hinv := hw2.live.journal.inv
    have hat := hinv.durableAt hactive hb ht
    obtain ⟨r,hr⟩ : ∃ r, t.resolution = some r := by
      cases hr : t.resolution with
      | some r => exact ⟨r,rfl⟩
      | none => simp [RepairTransactionRecord.isUnresolved, transactionPhase, hr] at hresolved
    have hfinal : w2.store.state.isFinal expected.reservationId t = true := hat.isFinal hresolved hrolled
    have hintent := applyRetireIntent_accepts (s := w2.store.state.tick) hw2.idle hat.tick hfinal hr
    let retiring : ReservationRecord := { record with phase := .retirePending b r }
    let s₁ : RecoveredState :=
      { w2.store.state.tick.setPhase expected.reservationId record (.retirePending b r) with
        pending := some expected.reservationId }
    have hretiring : s₁.reservations[expected.reservationId]? = some retiring := by
      simp [s₁, RecoveredState.setPhase, retiring]
    have htick : s₁.logicalEventClock = w2.store.state.logicalEventClock + 1 := rfl
    have hlate : u64Bound ≤ s₁.logicalEventClock + 1 → excused := fun h => hclock (by omega)
    have hcompletion : s₁.completion = some (.retireComplete expected.reservationId none) := by
      refine completion_of_record (s := s₁) rfl (fun t' ht' => ?_) hretiring
      obtain rfl : t' = t := Option.some.inj (ht'.symm.trans ht)
      rw [hat.hasPending_eq, hw2.idle]
      rfl
    refine .commit s₁ hw2 rfl hroom (by simp [RepairEvent.reserves])
      (foreseen_of_dispatch hw2.live.journal.live rfl hintent fun h => hclock (by omega)) rfl
      (hw2.live.files.insert rfl (fileOk_of_waiting rfl)) fun hlive => ?_
    have hstamp : releaseStamp s₁.tick none = some s₁.tick.logicalEventClock :=
      releaseStamp_live hw2.live.journal.live
    have hcomplete := fun (hfew : s₁.released.size < maxReleaseTombstones) (_ : Nat) =>
      applyRetireComplete_accepts (s := s₁.tick) hstamp rfl hfew
        (notMem_of_getElem? (hinv.not_released hactive)) hretiring rfl ht hfinal
    exact wp_release (.pure _) hlive rfl hw2.settled hretiring rfl hcompletion rfl hcomplete hlate rfl
      rfl rfl

end Release

end KernAid.RepairStore
