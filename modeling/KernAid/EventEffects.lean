import KernAid.CompactionGuarantees

/-! What an accepted event can do to the recovered state, for every event at once. -/

set_option autoImplicit false

namespace KernAid.RepairStore

open Encoding CrashLogic Protocol

def RepairEvent.reserves : RepairEvent → Option (ReservationId × ReservationRecord)
  | .reserveIntent id draft digest capacity vaultId identity parent =>
    some (id,⟨draft,digest,capacity,vaultId,identity,parent,.reservePending⟩)
  | _ => none

variable [Sha256Hasher] {s s' : RecoveredState} {event : RepairEvent} {n : Nat}

/-- What a live event does to the records: it keeps them, changes the phase of one, starts one,
drops one, or turns one into a tombstone. -/
inductive RecordsStep (s : RecoveredState) (event : RepairEvent) (s' : RecoveredState) : Prop
  | keep (hactive : s'.reservations = s.reservations) (hreleased : s'.released = s.released)
  | phase {id : ReservationId} {record : ReservationRecord} (phase : ReservationPhase)
      (hrecord : s.reservations[id]? = some record)
      (hactive : s'.reservations = s.reservations.insert id { record with phase := phase })
      (hreleased : s'.released = s.released)
  | reserve {id : ReservationId} {record : ReservationRecord}
      (hevent : event.reserves = some (id,record))
      (hactive : s'.reservations = s.reservations.insert id record)
      (hreleased : s'.released = s.released)
  | abort {id : ReservationId} (hactive : s'.reservations = s.reservations.erase id)
      (hreleased : s'.released = s.released)
  | release {id : ReservationId} {record : ReservationRecord} (operation : ReleaseOperation)
      (hrecord : s.reservations[id]? = some record) (hbefore : s.pending = some id)
      (hafter : s'.pending = none) (hactive : s'.reservations = s.reservations.erase id)
      (hreleased : s'.released =
        s.released.insert id ⟨operation,record,s.logicalEventClock⟩)

omit [Sha256Hasher] in
theorem releaseStamp_eq {stamp : Option Nat} {k : Nat} (hlive : s.compactionReplay = none)
    (h : releaseStamp s stamp = some k) : k = s.logicalEventClock := by
  cases stamp with
  | none => simpa [releaseStamp, hlive, eq_comm] using h
  | some stamp => simp [releaseStamp, hlive] at h

theorem dispatch_recordsStep (hlive : s.compactionReplay = none) (hcontrol : event.isControl = false)
    (h : dispatchRepairEvent s event n = .ok s') : RecordsStep s event s' := by
  cases event <;> simp only [dispatchRepairEvent] at h
  case compactionBegin => cases hcontrol
  case compactionComplete => cases hcontrol
  case reserveIntent =>
    simp only [applyReserveIntent, require_bind_eq_ok, pure_eq_ok_iff] at h
    obtain ⟨_,_,_,_,_,rfl⟩ := h
    exact .reserve rfl rfl rfl
  case reserveComplete =>
    simp only [applyReserveComplete, require_bind_eq_ok, okOr_bind_eq_ok, pure_eq_ok_iff] at h
    obtain ⟨_,_,hrecord,_,rfl⟩ := h
    exact .phase .reserved hrecord rfl rfl
  case reserveAbort =>
    simp only [applyReserveAbort, require_bind_eq_ok, okOr_bind_eq_ok, pure_eq_ok_iff] at h
    obtain ⟨_,_,_,_,rfl⟩ := h
    exact .abort rfl rfl
  case persistIntent =>
    simp only [applyPersistIntent, require_bind_eq_ok, okOr_bind_eq_ok, pure_eq_ok_iff] at h
    obtain ⟨_,_,_,hrecord,_,_,rfl⟩ := h
    exact .phase _ hrecord rfl rfl
  case persistComplete =>
    simp only [applyPersistComplete, require_bind_eq_ok, okOr_bind_eq_ok, pure_eq_ok_iff] at h
    obtain ⟨_,_,hrecord,_,_,_,_,rfl⟩ := h
    exact .phase _ hrecord rfl rfl
  case persistAbort =>
    simp only [applyPersistAbort, require_bind_eq_ok, okOr_bind_eq_ok, pure_eq_ok_iff] at h
    obtain ⟨_,_,hrecord,_,rfl⟩ := h
    exact .phase _ hrecord rfl rfl
  case cancelIntent =>
    simp only [applyCancelIntent, require_bind_eq_ok, okOr_bind_eq_ok, pure_eq_ok_iff] at h
    obtain ⟨_,_,hrecord,_,rfl⟩ := h
    exact .phase _ hrecord rfl rfl
  case cancelComplete =>
    simp only [applyCancelComplete, require_bind_eq_ok, okOr_bind_eq_ok, pure_eq_ok_iff] at h
    obtain ⟨_,hstamp,⟨hpending,_⟩,_,hrecord,_,rfl⟩ := h
    exact .release _ hrecord hpending rfl rfl (by rw [releaseStamp_eq hlive hstamp])
  case retireIntent =>
    simp only [applyRetireIntent, require_bind_eq_ok, okOr_bind_eq_ok, pure_eq_ok_iff] at h
    obtain ⟨_,_,hrecord,_,_,_,_,_,_,_,rfl⟩ := h
    exact .phase _ hrecord rfl rfl
  case retireComplete =>
    simp only [applyRetireComplete, require_bind_eq_ok, okOr_bind_eq_ok, pure_eq_ok_iff] at h
    obtain ⟨_,hstamp,⟨hpending,_⟩,_,hrecord,_,_,_,_,rfl⟩ := h
    exact .release _ hrecord hpending rfl rfl (by rw [releaseStamp_eq hlive hstamp])
  all_goals
    simp only [applyTransactionResolveIntent, applyTransactionResolveComplete,
      applyTransactionWriteLeaseConsume, applyRollbackBegin, applyRollbackWriteLeaseConsume,
      applyRollbackResolveIntent, applyRollbackResolveComplete, require_bind_eq_ok, okOr_bind_eq_ok,
      asCorruptJournal_bind_eq_ok, pure_eq_ok_iff] at h
    casesm* _ ∧ _, ∃ _, _
    subst_vars
    exact .keep rfl rfl

/-- A tombstone costs two events: the intent that leaves the reservation pending, and the completion
that settles it. -/
def RecoveredState.releaseCost (s : RecoveredState) : Nat :=
  2 * s.released.size + s.pending.toList.length

omit [Sha256Hasher] in
theorem size_insert_le {β : Type} (m : IdMap β) (id : ReservationId) (v : β) :
    (m.insert id v).size ≤ m.size + 1 := by
  rw [Std.ExtTreeMap.size_insert]
  split <;> omega

theorem dispatch_releaseCost (h : dispatchRepairEvent s event n = .ok s') :
    s'.releaseCost ≤ s.releaseCost + 1 := by
  cases event with
  | cancelComplete id stamp =>
    simp only [dispatchRepairEvent, applyCancelComplete, require_bind_eq_ok, okOr_bind_eq_ok,
      pure_eq_ok_iff] at h
    obtain ⟨k,_,⟨hpending,_⟩,record,_,_,rfl⟩ := h
    have hsize := size_insert_le s.released id ⟨.cancel,record,k⟩
    simp only [RecoveredState.releaseCost, hpending, Option.toList_none, Option.toList_some,
      List.length_nil, List.length_singleton]
    omega
  | retireComplete id stamp =>
    simp only [dispatchRepairEvent, applyRetireComplete, require_bind_eq_ok, okOr_bind_eq_ok,
      pure_eq_ok_iff] at h
    obtain ⟨k,_,⟨hpending,_⟩,record,_,_,_,_,_,rfl⟩ := h
    have hsize := size_insert_le s.released id ⟨.retire,record,k⟩
    simp only [RecoveredState.releaseCost, hpending, Option.toList_none, Option.toList_some,
      List.length_nil, List.length_singleton]
    omega
  | _ =>
    simp only [dispatchRepairEvent, applyCompactionBegin, applyCompactionComplete, applyReserveIntent,
      applyReserveComplete, applyReserveAbort, applyPersistIntent, applyPersistComplete,
      applyPersistAbort, applyTransactionResolveIntent, applyTransactionResolveComplete,
      applyTransactionWriteLeaseConsume, applyRollbackBegin, applyRollbackWriteLeaseConsume,
      applyRollbackResolveIntent, applyRollbackResolveComplete, applyCancelIntent, applyRetireIntent,
      require_bind_eq_ok, okOr_bind_eq_ok, asCorruptJournal_bind_eq_ok, pure_eq_ok_iff] at h
    casesm* _ ∧ _, ∃ _, _
    subst_vars
    simp only [RecoveredState.releaseCost, RecoveredState.setPhase, RecoveredState.setTransaction,
      RecoveredState.setRollback, Option.toList_none, Option.toList_some, List.length_nil,
      List.length_singleton]
    omega

omit [Sha256Hasher] in
theorem advanceClock_eq (h : advanceClock s event = .ok s') :
    s' = { s with logicalEventClock := s'.logicalEventClock } := by
  unfold advanceClock at h
  split_ifs at h <;> obtain rfl := Except.ok.inj h <;> rfl

omit [Sha256Hasher] in
theorem advanceClock_releaseCost (h : advanceClock s event = .ok s') :
    s'.releaseCost = s.releaseCost := by
  rw [advanceClock_eq h]
  rfl

theorem replayFrom_releaseCost {events : List RepairEvent} (h : replayFrom s n events = .ok s') :
    s'.releaseCost ≤ s.releaseCost + events.length := by
  induction events generalizing s n with
  | nil =>
    rw [← Except.ok.inj h]
    rfl
  | cons event events ih =>
    rw [replayFrom, bind_ok_iff] at h
    obtain ⟨next,hnext,hrest⟩ := h
    rw [applyRepairEvent, bind_ok_iff] at hnext
    obtain ⟨ticked,htick,hdispatch⟩ := hnext
    have hstep := dispatch_releaseCost hdispatch
    rw [advanceClock_releaseCost htick] at hstep
    have hrun := ih hrest
    rw [List.length_cons]
    omega

theorem released_lt_of_pending {journal : List RepairEvent} (h : replay journal = .ok s)
    (hlength : journal.length < maxJournalEvents) (hpending : s.pending.isSome = true) :
    s.released.size < maxReleaseTombstones := by
  have hcost := replayFrom_releaseCost h
  obtain ⟨id,hid⟩ := Option.isSome_iff_exists.mp hpending
  simp only [RecoveredState.releaseCost, hid, Option.toList_some, List.length_singleton,
    Option.toList_none, List.length_nil, Std.ExtTreeMap.size_empty] at hcost
  simp only [maxReleaseTombstones, maxJournalEvents] at hlength ⊢
  omega

end KernAid.RepairStore
