import KernAid.Recovery

/-! Requests that meet their checks: what they answer and the session they leave. -/

set_option autoImplicit false

namespace KernAid.RepairStore

open Encoding CrashLogic Protocol Program RecoveredState

section Queries

variable {α β : Type} {w : World}

theorem query_bind_run {f : World → Except RepairVaultStoreError α} {g : α → Operation β} {a : α}
    (h : f w = .ok a) : (query f >>= g) w = g a w := by
  rw [bind_run_ok (show (query f w).result = .ok a from h)]
  rfl

theorem map_run {m : Operation α} {f : α → β} :
    (f <$> m) w = ⟨(m w).visits,(m w).result.map f,(m w).final⟩ := by
  change (m >>= fun a => Pure.pure (f a)) w = _
  cases hresult : (m w).result with
  | ok a =>
    rw [bind_run_ok hresult]
    simp [Pure.pure, Program.pure, Except.map]
  | error e =>
    rw [bind_run_error hresult]
    rfl

theorem mem_bind_visits {m : Operation α} {f : α → Operation β} {v : StorageStep × World}
    (h : v ∈ (m w).visits) : v ∈ ((m >>= f) w).visits := by
  cases hresult : (m w).result with
  | ok a =>
    rw [bind_run_ok hresult]
    exact List.mem_append_left _ h
  | error e =>
    rw [bind_run_error hresult]
    exact h

end Queries

section Steps

variable [Sha256Hasher] {w : World} {vault : VaultIdentity} {event : RepairEvent} {s : RecoveredState}
  {β : Type} {rest : Unit → Operation β} {post : Except RepairVaultStoreError β → World → Prop}

theorem append_mem_visits (h : (appendEvent event w).result = .ok ()) :
    (.append event,w) ∈ (appendEvent event w).visits := by
  obtain ⟨_,hcount,hrest⟩ := bind_result_ok.mp h
  obtain ⟨_,hsize,_⟩ := bind_result_ok.mp hrest
  rw [appendEvent, query_bind_run hcount, query_bind_run hsize]
  exact mem_bind_visits (List.mem_singleton_self _)

theorem wp_append_accepted (h : Live vault w) (hcontrol : event.isControl = false)
    (hroom : w.disk.journal.length < maxJournalEvents) (hlive : w.store.state.compactionReplay = none)
    (hclock : w.store.state.logicalEventClock + 1 < u64Bound)
    (hdispatch : ∀ n, dispatchRepairEvent w.store.state.tick event n = .ok s)
    (hrest : applyRepairEvent w.store.state event (w.disk.journal.length + 1) = .ok s →
      wp (rest ()) (fun _ _ => True) post (w.appended event s)) :
    wp (appendEvent event >>= rest) (fun _ _ => True) post w := by
  have happly := (applyRepairEvent_live_iff hlive hcontrol).mpr
    ⟨hclock,hdispatch (w.disk.journal.length + 1)⟩
  refine wp_bind.mpr (wp_appendEvent h hcontrol hroom trivial (fun s' hs' => ?_) fun hno => ?_)
  · obtain rfl : s' = s := Except.ok.inj (hs'.symm.trans happly)
    rw [andThen_ok]
    exact hrest happly
  · exact absurd happly (hno s)

omit [Sha256Hasher] in
theorem RepairVaultStore.room_of_not_due {store : RepairVaultStore} {required : Nat}
    (h : store.compactionDue required = false) :
    store.eventCount + required ≤ journalCompactionTriggerEvents := by
  simp only [RepairVaultStore.compactionDue, Bool.or_eq_false_iff, decide_eq_false_iff_not] at h
  omega

variable [JournalChain]

theorem requireEventCapacity_room {required : Nat} (h : w.store.compactionDue required = false) :
    requireEventCapacity required w = ⟨[],.ok (),w⟩ := by
  have hlimit : journalCompactionTriggerEvents ≤ maxJournalEvents := by decide
  have hroom : w.store.eventCount + required ≤ maxJournalEvents :=
    (RepairVaultStore.room_of_not_due h).trans hlimit
  change (if w.store.compactionDue required then compactJournal >>= fun _ => _ else _ :
    Operation Unit) w = _
  rw [h, if_neg Bool.false_ne_true, query, CrashLogic.require, if_pos hroom]

theorem compactJournal_compacts {events : List RepairEvent} (h : Settled vault w)
    (hhealthy : w.store.healthy = true)
    (hcompact : compactJournalUntil w.store.state (JournalChain.head w.disk.journal) = .ok (events,s)) :
    wp compactJournal (fun _ _ => True) (fun r t => r = .ok () ∧ t = w.compactedTo events s) w := by
  have hrested : Rested vault w.store.state (w.compactedTo events s) :=
    Rested.compactedTo ⟨h,.refl⟩ hcompact
  have hlayout := hrested.live.validateLayout hrested.idle
  rw [compactJournal, wp_poisoning,
    wp_query_bind (a := ()) (require_eq_ok.mpr ⟨hhealthy,h.idle,h.live.journal.live⟩),
    wp_query_bind (h.live.validateLayout h.idle), wp_query_bind hcompact, wp_step_bind, wp_bind,
    wp_updateStore, andThen_ok, wp_query]
  exact ⟨trivial,fun _ _ => ⟨rfl,rfl⟩,fun _ he => by cases hlayout.symm.trans he⟩

theorem requireEventCapacity_compacts {events : List RepairEvent} {required : Nat} (h : Settled vault w)
    (hhealthy : w.store.healthy = true) (hdue : w.store.compactionDue required = true)
    (hcompact : compactJournalUntil w.store.state (JournalChain.head w.disk.journal) = .ok (events,s))
    (hroom : events.length + required ≤ maxJournalEvents) :
    (requireEventCapacity required w).result = .ok () ∧
      (requireEventCapacity required w).final = w.compactedTo events s := by
  have hrun : wp (requireEventCapacity required) (fun _ _ => True)
      (fun r t => r = .ok () ∧ t = w.compactedTo events s) w := by
    rw [requireEventCapacity, wp_read_bind, if_pos hdue, wp_bind]
    refine wp_mono (compactJournal_compacts h hhealthy hcompact) (fun _ _ _ => trivial) ?_
    rintro r t ⟨rfl,rfl⟩
    rw [andThen_ok, wp_query]
    exact ⟨require_eq_ok.mpr hroom,rfl⟩
  exact hrun.2

theorem wp_requireEventCapacity_room {required : Nat} (h : w.store.compactionDue required = false)
    (hrest : wp (rest ()) (fun _ _ => True) post w) :
    wp (requireEventCapacity required >>= rest) (fun _ _ => True) post w := by
  rw [wp_bind, wp, requireEventCapacity_room h, andThen_ok]
  exact ⟨fun _ _ => trivial,hrest⟩

end Steps

section Reserve

variable [Sha256Hasher] {w : World} {draft : RepairBackupDraft} {id : ReservationId}
  {vault : VaultIdentity}

theorem foldlM_matchReservedRetry_skip {digest : String} {found : Option ReservationId}
    (l : List (ReservationId × ReservationRecord))
    (h : ∀ entry ∈ l, entry.2.reservationBindingSha256 ≠ digest) :
    l.foldlM (matchReservedRetry w draft digest) found = .ok found := by
  induction l with
  | nil => rfl
  | cons entry l ih =>
    rw [List.forall_mem_cons] at h
    rw [List.foldlM_cons, matchReservedRetry, if_neg h.1, ok_bind]
    exact ih h.2

theorem reconcileReservedRetry_new {digest : String}
    (h : ∀ j, w.store.state.bindingAt j ≠ some digest) (hinv : Inv w.store.state) :
    reconcileReservedRetry draft digest w = ⟨[],.ok none,w⟩ := by
  have hactive : ∀ entry ∈ w.store.state.reservations.toList,
      entry.2.reservationBindingSha256 ≠ digest := by
    rintro ⟨j,record⟩ hmem heq
    have hrecord := Std.ExtTreeMap.mem_toList_iff_getElem?_eq_some.mp hmem
    exact h j (by simpa [bindingAt, hrecord] using heq)
  have hreleased : (w.store.state.released.toList.all fun entry =>
      entry.2.record.reservationBindingSha256 != digest) = true := by
    refine List.all_eq_true.mpr ?_
    rintro ⟨j,tombstone⟩ hmem
    have ht := Std.ExtTreeMap.mem_toList_iff_getElem?_eq_some.mp hmem
    refine bne_iff_ne.mpr fun heq => h j ?_
    cases hrecord : w.store.state.reservations[j]? with
    | some record => cases (hinv.not_released hrecord).symm.trans ht
    | none => simpa [bindingAt, hrecord, ht] using heq
  have hfound : (query (fun w => w.store.state.reservations.toList.foldlM
      (matchReservedRetry w draft digest) none) w).result = .ok none :=
    foldlM_matchReservedRetry_skip _ hactive
  have hfree : (query (fun w => require (w.store.state.released.toList.all fun entry =>
      entry.2.record.reservationBindingSha256 != digest) RepairVaultStoreError.reservationConflict)
        w).result = .ok () :=
    require_eq_ok.mpr hreleased
  rw [reconcileReservedRetry, query_bind_run hfound, query_bind_run hfree]
  rfl

def RepairVaultStore.newRecord (store : RepairVaultStore) (draft : RepairBackupDraft) :
    ReservationRecord :=
  ⟨draft,reservationBinding draft,draft.requiredCapacityBytes,store.vaultId,
    store.vaultIdentityFingerprint, store.physicalParentFingerprint,.reserved⟩

def RepairVaultStore.afterReserve (store : RepairVaultStore) (id : ReservationId)
    (draft : RepairBackupDraft) : RepairVaultStore :=
  { store with
    state := { store.state.withReservation id (store.newRecord draft) with
      logicalEventClock := store.state.logicalEventClock + 2 }
    eventCount := store.eventCount + 2
    checkedOut := store.checkedOut.insert id }

variable [JournalChain]

/-- A reservation that is new to the session `w`, made in the session `w'` that has room for it. -/
structure CanReserve (vault : VaultIdentity) (id : ReservationId) (draft : RepairBackupDraft)
    (w w' : World) : Prop where
  healthy : w.store.healthy = true
  idle : w.store.state.pending = none
  valid : draft.validate = true
  new : ∀ j, w.store.state.bindingAt j ≠ some (reservationBinding draft)
  resolved : w.store.state.unresolvedTransaction = none ∧ w.store.state.unresolvedRollback = none
  inv : Inv w.store.state
  capacity : (requireEventCapacity 2 w).result = .ok () ∧ (requireEventCapacity 2 w).final = w'
  settled : Settled vault w'
  quiet : w'.store.state.isQuiescent = true
  still : ∀ j, w'.store.state.bindingAt j ≠ some (reservationBinding draft)
  room : w'.disk.journal.length + 2 ≤ maxJournalEvents
  size : w'.store.state.reservations.size < maxReservations
  unseen : id ∉ w'.store.state.seenReservationIds
  free : id ∉ w'.store.checkedOut
  clock : w'.store.state.logicalEventClock + 2 < u64Bound

def RepairVaultStore.reserveIntent (store : RepairVaultStore) (id : ReservationId)
    (draft : RepairBackupDraft) : RepairEvent :=
  .reserveIntent id draft (reservationBinding draft) draft.requiredCapacityBytes store.vaultId
    store.vaultIdentityFingerprint store.physicalParentFingerprint

namespace CanReserve

variable {w' : World}

theorem absent (h : CanReserve vault id draft w w') :
    w'.store.state.reservations[id]? = none ∧ w'.store.state.released[id]? = none ∧
      w'.disk.backups[id]? = none := by
  obtain ⟨hfresh,_,hunreleased⟩ := h.settled.live.journal.inv.fresh h.unseen
  have hfile := h.settled.live.files id
  rw [hfresh] at hfile
  exact ⟨hfresh,hunreleased,hfile.1⟩

/-- The checks before the intent leave the session `w'`. -/
theorem run_eq (h : CanReserve vault id draft w w') :
    reserveBackup [id] draft w =
      (requireEventCapacity 2 >>= fun _ => (do
        query fun w => require (w.store.state.reservations.size < maxReservations) .insufficientCapacity
        let id ← query (generateUnusedReservationId [id])
        let w ← Program.read
        appendEvent (w.store.reserveIntent id draft)
        poisoning (allocateAndVerify id draft.requiredCapacityBytes)
        appendEvent (.reserveComplete id)
        reservedCapability id)) w := by
  have hretry : reconcileReservedRetry draft (reservationBinding draft) w = ⟨[],.ok none,w⟩ :=
    reconcileReservedRetry_new h.new h.inv
  rw [reserveBackup, query_bind_run (a := ()) (require_eq_ok.mpr h.valid),
    query_bind_run (a := ()) (require_eq_ok.mpr ⟨h.healthy,h.idle⟩),
    bind_run_ok (a := none) (by rw [hretry])]
  rw [hretry]
  simp only [List.nil_append]
  rw [query_bind_run (a := ()) (require_eq_ok.mpr h.resolved)]
  rfl

theorem tail_eq (h : CanReserve vault id draft w w')
    {rest : ReservationId → Operation RepairBackupSummary} :
    ((query fun w => require (w.store.state.reservations.size < maxReservations)
      .insufficientCapacity) >>=
      fun _ => query (generateUnusedReservationId [id]) >>= fun id => Program.read >>= fun w =>
        appendEvent (w.store.reserveIntent id draft) >>= fun _ => rest id) w' =
      (appendEvent (w'.store.reserveIntent id draft) >>= fun _ => rest id) w' := by
  have hunused : generateUnusedReservationId [id] w' = .ok id := by
    have hunseen : w'.store.state.seenReservationIds.contains id = false := by
      rw [Bool.eq_false_iff, Ne, Std.ExtTreeSet.contains_iff_mem]
      exact h.unseen
    simp [generateUnusedReservationId, hunseen, h.absent.2.2]
  rw [query_bind_run (a := ()) (require_eq_ok.mpr h.size), query_bind_run hunused]
  rfl

theorem wp_tail (h : CanReserve vault id draft w w') :
    wp (appendEvent (w'.store.reserveIntent id draft) >>= fun _ => (do
        poisoning (allocateAndVerify id draft.requiredCapacityBytes)
        appendEvent (.reserveComplete id)
        reservedCapability id)) (fun _ _ => True) (fun r t =>
      r = .ok (reservationSummary id (w'.store.newRecord draft)) ∧ Settled vault t ∧
        t.store = w'.store.afterReserve id draft) w' := by
  have hlive' := h.settled.live
  have hroom := h.room
  have hclock := h.clock
  obtain ⟨hidle,_,_⟩ := isQuiescent_iff.mp h.quiet
  obtain ⟨hfresh,hunreleased,hfree⟩ := h.absent
  let record : ReservationRecord := { w'.store.newRecord draft with phase := .reservePending }
  have hrecord : RecordOk record :=
    ⟨h.valid,rfl,rfl,w'.store.validId,w'.store.validIdentity,w'.store.validParent⟩
  let s₁ := w'.store.state.reserving id record
  have hactive : s₁.reservations[id]? = some record := by
    simp [s₁, reserving, setPhase, record]
  have hintent := fun (_ : Nat) => applyReserveIntent_accepts (s := w'.store.state.tick) hrecord h.quiet
    h.size (notMem_of_getElem? hfresh) (notMem_of_getElem? hunreleased) h.unseen
  have hcomplete := fun (_ : Nat) => applyReserveComplete_accepts (s := s₁.tick) rfl hactive rfl
  have hvault := hlive'.attested
  have howns : vault.owns record :=
    ⟨congrArg VaultIdentity.vaultId hvault,congrArg VaultIdentity.fingerprint hvault⟩
  refine wp_append_accepted (s := s₁) hlive' rfl (by omega) hlive'.journal.live (by omega) hintent
    fun happly => ?_
  have hlive : Live vault (w'.appended (w'.store.reserveIntent id draft) s₁) :=
    hlive'.appended rfl happly (by omega) (fun _ => by omega)
    (fun id' record' hreserves => by
      simp only [RepairVaultStore.reserveIntent, RepairEvent.reserves, Option.some.injEq,
        Prod.mk.injEq] at hreserves
      obtain ⟨rfl,rfl⟩ := hreserves
      exact ⟨howns,h.still⟩)
    (hlive'.files.insert rfl (fileOk_of_waiting rfl))
  let w₁ := w'.appended (w'.store.reserveIntent id draft) s₁
  have halloc : wp (allocateAndVerify id draft.requiredCapacityBytes)
      (StepIn vault True w₁.store.state)
      (fun r t => r = .ok () ∧ FilesDone vault w₁ t ∧
        HoldsZeros t.disk id draft.requiredCapacityBytes) w₁ :=
    wp_allocateAndVerify hlive h.settled.settled hactive rfl hfree fun t ht hstored => ⟨rfl,ht,hstored⟩
  refine wp_bind.mpr (wp_poisoning.mpr (wp_mono halloc (fun _ _ _ => trivial) ?_))
  rintro r t ⟨rfl,⟨hl,hstore,hjournal,hsettled⟩,hstored⟩
  refine ⟨fun _ _ => ?_,fun _ he => (by cases he)⟩
  have hstate : t.store.state = s₁ := by rw [hstore]; rfl
  have hlength : t.disk.journal.length = w'.disk.journal.length + 1 := by
    rw [hjournal]
    simp [w₁, World.appended, Disk.perform]
  have htick : s₁.logicalEventClock = w'.store.state.logicalEventClock + 1 := rfl
  rw [andThen_ok]
  let s₂ : RecoveredState := { s₁.tick.setPhase id record .reserved with pending := none }
  refine wp_append_accepted (s := s₂) hl rfl (by omega) (hstate ▸ hlive'.journal.live)
    (by rw [hstate]; omega) (fun n => by rw [hstate]; exact hcomplete n) fun happly' => ?_
  have hfiles : FilesOk t.disk s₁ := hstate ▸ hl.files
  have hdone := hl.appended rfl happly' (by omega) (by simp [s₂]) (by simp [RepairEvent.reserves])
    (hfiles.insert rfl ⟨hstored.present,hstored.synced⟩)
  have hreserved : s₂.reservations[id]? = some (w'.store.newRecord draft) :=
    Std.ExtTreeMap.getElem?_insert_self
  rw [reservedCapability, wp_query_bind (okOr_eq_ok.mpr hreserved),
    wp_query_bind (a := ()) (require_eq_ok.mpr rfl),
    wp_query_bind (a := ()) (require_eq_ok.mpr (by simpa [w₁, World.appended, hstore] using h.free)),
    wp_bind, wp_updateStore, andThen_ok, wp_pure]
  refine ⟨rfl,⟨hdone.withCheckedOut,hsettled,rfl⟩,?_⟩
  have hs₂ : s₂ = { w'.store.state.withReservation id (w'.store.newRecord draft) with
      logicalEventClock := w'.store.state.logicalEventClock + 2 } := by
    simp [s₂, s₁, reserving, setPhase, withReservation,
      tick, record, RepairVaultStore.newRecord, hidle]
  simp only [World.appended, hstore, hs₂]
  rfl

/-- The whole run: what it answers, what it leaves, and the step with which it records its intent. -/
theorem run (h : CanReserve vault id draft w w') :
    (reserveBackup [id] draft w).result = .ok (reservationSummary id (w'.store.newRecord draft)) ∧
      Settled vault (reserveBackup [id] draft w).final ∧
      (reserveBackup [id] draft w).final.store = w'.store.afterReserve id draft ∧
      (.append (w'.store.reserveIntent id draft),w') ∈ (reserveBackup [id] draft w).visits := by
  obtain ⟨hresult,hfinal⟩ := h.capacity
  obtain ⟨_,hanswer,hsettled,hstore⟩ := h.wp_tail
  obtain ⟨_,happended,_⟩ := bind_result_ok.mp hanswer
  have hintent := append_mem_visits happended
  rw [h.run_eq, bind_run_ok hresult, hfinal, h.tail_eq]
  exact ⟨hanswer,hsettled,hstore,List.mem_append_right _ (mem_bind_visits hintent)⟩

end CanReserve

end Reserve

section Cancel

variable [Sha256Hasher] {w : World} {id : ReservationId} {record : ReservationRecord}
  {vault : VaultIdentity}

theorem Live.verifyRecordVaultIdentity (h : Live vault w)
    (hrecord : w.store.state.reservations[id]? = some record) :
    w.store.verifyRecordVaultIdentity record = .ok () := by
  have howns := h.journal.records id record hrecord
  rw [VaultIdentity.owns, ← h.attested] at howns
  exact require_eq_ok.mpr howns

theorem Live.verifyReservedFile (h : Live vault w)
    (hrecord : w.store.state.reservations[id]? = some record)
    (hphase : record.phase = .reserved) : w.verifyReservedFile id record = .ok () := by
  have hfile := h.files id
  rw [hrecord] at hfile
  simp only [FileOk, hphase] at hfile
  obtain ⟨file,hcheck,_,hzero⟩ := hfile.checkFile
  rw [World.verifyReservedFile, World.openBackupFile, hrecord, okOr_some, ok_bind, hcheck, ok_bind]
  exact verifyFileContents_zero_iff.mpr hzero

def RepairVaultStore.afterCancel (store : RepairVaultStore) (id : ReservationId)
    (record : ReservationRecord) : RepairVaultStore :=
  { store with
    state := { store.state with
      reservations := store.state.reservations.erase id
      released := store.state.released.insert id
        ⟨.cancel,{ record with phase := .cancelPending },store.state.logicalEventClock + 2⟩
      logicalEventClock := store.state.logicalEventClock + 2 }
    eventCount := store.eventCount + 2
    checkedOut := store.checkedOut.erase id }

variable [JournalChain]

theorem wp_cancelReserved_new (hw : Settled vault w) (hhealthy : w.store.healthy = true)
    (hrecord : w.store.state.reservations[id]? = some record) (hphase : record.phase = .reserved)
    (hnow : w.store.compactionDue 0 = false) (hdue : w.store.compactionDue 2 = false)
    (hfew : w.store.state.released.size < maxReleaseTombstones)
    (hclock : w.store.state.logicalEventClock + 2 < u64Bound) :
    wp (cancelReserved id record.reservationBindingSha256) (fun _ _ => True) (fun r t =>
      r = .ok record.reservedCapacityBytes ∧ Settled vault t ∧
        t.store = w.store.afterCancel id record) w := by
  have hinv := hw.live.journal.inv
  obtain ⟨hok,_⟩ := (hinv.cells id).of_reserved hrecord hphase
  have hunreleased := hinv.not_released hrecord
  have hcount := hw.live.count
  have hroom := RepairVaultStore.room_of_not_due hdue
  have hlimit : journalCompactionTriggerEvents < maxJournalEvents := by decide
  have hcheck : checkCancel id record.reservationBindingSha256 w = .ok record := by
    simp only [checkCancel, hrecord, okOr_some, ok_bind, hw.live.verifyRecordVaultIdentity hrecord,
      hw.live.verifyReservedFile hrecord hphase, require_bind_eq_ok, pure_eq_ok_iff]
    exact ⟨⟨hphase,trivial⟩,trivial⟩
  let w' := w.withCheckedOut (w.store.checkedOut.erase id)
  let cancelling : ReservationRecord := { record with phase := .cancelPending }
  let s₁ : RecoveredState :=
    { w.store.state.tick.setPhase id record .cancelPending with pending := some id }
  have hcancelling : s₁.reservations[id]? = some cancelling := by
    simp [s₁, setPhase, cancelling]
  have hintent := fun (_ : Nat) =>
    applyCancelIntent_accepts (s := w.store.state.tick) hw.idle hrecord hphase
  have hstamp : releaseStamp s₁.tick none = some s₁.tick.logicalEventClock :=
    releaseStamp_live hw.live.journal.live
  have hcomplete := fun (_ : Nat) => applyCancelComplete_accepts (s := s₁.tick) hstamp rfl hfew
    (notMem_of_getElem? hunreleased) hcancelling rfl
  rw [cancelReserved, wp_query_bind (a := ()) (require_eq_ok.mpr ⟨hhealthy,hw.idle⟩),
    wp_query_bind (a := ()) (require_eq_ok.mpr
      (hok.binding ▸ validSha256_reservationBinding record.draft))]
  refine wp_requireEventCapacity_room hnow ?_
  rw [wp_read_bind]
  simp only [hunreleased]
  refine wp_requireEventCapacity_room hdue ?_
  rw [wp_query_bind hcheck, wp_bind, wp_updateStore, andThen_ok]
  have hlive' : Live vault w' := hw.live.withCheckedOut
  have hlength : w'.disk.journal.length = w.disk.journal.length := rfl
  refine wp_append_accepted (w := w') (s := s₁) hlive' rfl (by omega) hw.live.journal.live
    (show w.store.state.logicalEventClock + 1 < u64Bound by omega) hintent fun happly => ?_
  have hlive := hlive'.appended rfl happly (by omega) (fun _ => by omega) (by simp [RepairEvent.reserves])
    (hw.live.files.insert rfl (fileOk_of_waiting rfl))
  let w₁ := w'.appended (.cancelIntent id) s₁
  have hremove : wp (removePendingBackupFile id)
      (StepIn vault True w₁.store.state)
      (fun r t => r = .ok () ∧ FilesDone vault w₁ t ∧ t.disk.backups[id]? = none) w₁ :=
    wp_removePendingBackupFile hlive hw.settled hcancelling rfl fun t ht hgone => ⟨rfl,ht,hgone⟩
  refine wp_bind.mpr (wp_mono hremove (fun _ _ _ => trivial) ?_)
  rintro r t ⟨rfl,⟨hl,hstore,hjournal,hsettled⟩,hgone⟩
  have hstate : t.store.state = s₁ := by rw [hstore]; rfl
  have hlonger : t.disk.journal.length = w.disk.journal.length + 1 := by
    rw [hjournal]
    simp [w₁, World.appended, Disk.perform, w', World.withCheckedOut]
  have htick : s₁.logicalEventClock = w.store.state.logicalEventClock + 1 := rfl
  let s₂ : RecoveredState := { s₁.tick with
    reservations := s₁.tick.reservations.erase id
    released := s₁.tick.released.insert id ⟨.cancel,cancelling,s₁.tick.logicalEventClock⟩
    pending := none }
  rw [andThen_ok]
  refine wp_append_accepted (s := s₂) hl rfl (by omega) (hstate ▸ hw.live.journal.live)
    (by rw [hstate]; omega) (fun n => by rw [hstate]; exact hcomplete n) fun happly' => ?_
  have hfiles : FilesOk t.disk s₁ := hstate ▸ hl.files
  have hdone := hl.appended rfl happly' (by omega) (by simp [s₂]) (by simp [RepairEvent.reserves])
    (hfiles.erase rfl ⟨hgone,hsettled id⟩)
  rw [wp_pure]
  refine ⟨rfl,⟨hdone,hsettled,rfl⟩,?_⟩
  have hs₂ : s₂ = (w.store.afterCancel id record).state := by
    simp only [s₂, s₁, RepairVaultStore.afterCancel, setPhase, tick,
      RecoveredState.mk.injEq, true_and, and_true]
    exact ⟨erase_insert _ _ _,rfl,hw.idle.symm⟩
  simp only [World.appended, hstore, hs₂]
  rfl

theorem CanReserve.cancelled {draft : RepairBackupDraft} (h : CanReserve vault id draft w w)
    (hyoung : ∀ required ≤ 2, (w.store.afterReserve id draft).compactionDue required = false)
    (hfew : w.store.state.released.size < maxReleaseTombstones)
    (hclock : w.store.state.logicalEventClock + 4 < u64Bound) :
    let w' := (reserveBackup [id] draft w).final
    Settled vault (cancelReserved id (reservationBinding draft) w').final ∧
      (cancelReserved id (reservationBinding draft) w').final.store =
        (w.store.afterReserve id draft).afterCancel id (w.store.newRecord draft) := by
  intro w'
  obtain ⟨_,hsettled,hstore,_⟩ := h.run
  have hrecord : w'.store.state.reservations[id]? = some (w.store.newRecord draft) := by
    rw [hstore]
    exact Std.ExtTreeMap.getElem?_insert_self
  obtain ⟨_,_,hcancelled⟩ := wp_cancelReserved_new hsettled (by rw [hstore]; exact h.healthy) hrecord rfl
    (by rw [hstore]; exact hyoung 0 (by omega)) (by rw [hstore]; exact hyoung 2 le_rfl)
    (by rw [hstore]; exact hfew) (by rw [hstore]; exact hclock)
  rwa [hstore] at hcancelled

end Cancel

theorem compactionDue_young {store : RepairVaultStore} {required : Nat} (hrequired : required ≤ 2)
    (hcount : store.eventCount ≤ 300) (hsize : store.state.released.size ≤ 64)
    (hclock : store.state.logicalEventClock ≤ 500) : store.compactionDue required = false := by
  have htrigger : journalCompactionTriggerEvents = 3072 := rfl
  have httl : releaseTombstoneEventTtl = 512 := rfl
  have hmost : maxRetainedReleaseTombstones = 64 := rfl
  simp only [RepairVaultStore.compactionDue, Bool.or_eq_false_iff, decide_eq_false_iff_not, Nat.not_lt,
    List.any_eq_false, Bool.and_eq_true, decide_eq_true_eq, not_and]
  exact ⟨⟨by omega,by omega⟩,fun _ _ _ => by omega⟩

end KernAid.RepairStore
