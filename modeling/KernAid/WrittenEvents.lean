import KernAid.RunGuarantees

/-! Every event that a run records is accepted by replay, but for a repeated resolution of a rollback. -/

set_option autoImplicit false

namespace KernAid.RepairStore

open Encoding CrashLogic Protocol Program

section Replayable

variable [Sha256Hasher] [JournalChain] {vault : VaultIdentity} {system : System}
  {log : List (StorageStep × World)} {w : World}

/-- In a run that never resolves a rollback child as it is resolved already, and whose clock has room,
every event that is written to the journal is accepted by the replay of the journal before it. -/
theorem careful_run_records_replayable_events {event : RepairEvent} (hrun : Run vault Careful system log)
    (hmem : (.append event,w) ∈ log) :
    ∃ s s', replay w.disk.journal = .ok s ∧
      applyRepairEvent s event (w.disk.journal.length + 1) = .ok s' ∧
      replay (w.disk.journal ++ [event]) = .ok s' := by
  obtain ⟨_,hsteps⟩ := hrun.ok fun _ _ hcareful hnot => hnot hcareful
  obtain ⟨hlive,_,_,⟨s',happly⟩ | hfalse⟩ := hsteps _ hmem
  · refine ⟨w.store.state,s',hlive.journal.replayed,happly,?_⟩
    refine replayFrom_append_ok hlive.journal.replayed ?_
    rw [replayFrom, Nat.zero_add, happly]
    rfl
  · exact hfalse.elim

end Replayable

namespace Sample

def rollbackId : RepairRollbackId := ⟨"RB-0123456789abcdef0123456789abcdef",by decide⟩

def rollbackBinding : RepairRollbackBindingV1 :=
  ⟨RepairResourceV1.fstab.rollbackActionId,"P-2",sha 0xb1,"A-2",sha 0xb2,2⟩

def committed : RepairTransactionResolution :=
  ⟨.committedAfter,.after,sha 0x55,(metadata 0o644).canonicalSha256,true⟩

/-- The target is neither what it was nor what it should be: an administrator has to look. -/
def manual : RepairRollbackResolution :=
  ⟨.manualReconciliationRequired,.third,sha 0x56,sha 0x57,false⟩

/-- The rollback has been made after all. -/
def restored : RepairRollbackResolution :=
  ⟨.rolledBackBefore,.before,contentSha256,(metadata 0o644).canonicalSha256,true⟩

def persist : Request :=
  .persistBackup (reservationSummary reservationId (record 0o644))
    (toStoreBinding (binding .fstab 0o644 0xa2)) (some content)

def withStatus {α : Type} (status : Except RepairVaultStoreError α) (f : α → Request) : Request :=
  match status with
  | .ok status => f status
  | .error _ => .consumeWriteLease .pendingSingleton

def resolve (w : World) : Request :=
  withStatus (w.transactionStatusForId reservationId) fun status => .resolveTransaction status committed

def beginRollback (w : World) : Request :=
  withStatus (w.transactionStatusForId reservationId) fun status =>
    .beginRollbackTransaction status rollbackId rollbackBinding

def resolveRollback (resolution : RepairRollbackResolution) (w : World) : Request :=
  withStatus (w.rollbackStatusForSource reservationId) fun status =>
    .resolveRollbackTransaction status resolution

def careful (w : World) (request : Request) : Bool :=
  (replay w.disk.journal).toOption.all (fun s => s.logicalEventClock + 2 < u64Bound) &&
    match request with
    | .resolveRollbackTransaction expected resolution => expected.resolution ≠ some resolution
    | _ => true

theorem careful_spec (w : World) (request : Request) (h : careful w request = true) :
    Careful (held w) (.request request) := by
  obtain ⟨hclock,hrepeats⟩ := Bool.and_eq_true_iff.mp h
  refine ⟨fun s hs => ?_,?_⟩
  · rw [show replay w.disk.journal = .ok s from hs] at hclock
    exact of_decide_eq_true hclock
  · cases request <;> simp_all [Action.repeatsResolution, Request.repeatsResolution]

/-- A storage step that appends an event which replay rejects. -/
def appendsRejected (v : StorageStep × World) : Bool :=
  match v.1, replay v.2.disk.journal with
  | .append event, .ok s => (applyRepairEvent s event (v.2.disk.journal.length + 1)).toOption.isNone
  | _, _ => false

/-- A storage step that records the second resolution of a rollback child that is resolved manually. -/
def appendsRestored (v : StorageStep × World) : Bool :=
  match v.1 with
  | .append (.rollbackResolveIntent _ _ _ _ resolution) =>
    resolution = restored && v.2.disk.journal.any fun
      | .rollbackResolveIntent _ _ _ _ resolution => resolution = manual
      | _ => false
  | _ => false

def undecided : List (World → Request) :=
  [fun _ => reserve,fun _ => persist,resolve,beginRollback,resolveRollback manual]

def stuck : World := play opened undecided

theorem run_stuck : ∃ log, Run attestation.vault (fun _ _ => True) (held stuck) log :=
  run_play (p := fun _ _ => true) (fun _ _ _ => trivial) rfl (run_opened trivial)

/-- The session up to the first resolution is careful, and so is the second one if it is another one. -/
theorem stuck_resolutions : allPlayed careful opened undecided = true ∧
    careful stuck (resolveRollback restored stuck) = true ∧
    (runRequest (resolveRollback restored stuck) stuck).visits.any appendsRestored = true ∧
    (runRequest (resolveRollback manual stuck) stuck).visits.any appendsRejected = true := by
  decide +kernel

end Sample

open Sample in
/-- A rollback child that is resolved manually and then once more in another way. -/
theorem careful_run_records_replayable_events_rollback : ∃ system log event w s,
    Run attestation.vault Careful system log ∧ (.append event,w) ∈ log ∧
      appendsRestored (.append event,w) = true ∧ replay (w.disk.journal ++ [event]) = .ok s := by
  obtain ⟨hplayed,hcareful,hrecorded,_⟩ := stuck_resolutions
  obtain ⟨⟨a,w⟩,hmem,happend⟩ := List.any_eq_true.mp hrecorded
  obtain ⟨event,rfl⟩ : ∃ event, a = .append event := by
    cases a <;> first | exact ⟨_,rfl⟩ | cases happend
  obtain ⟨log,hlog⟩ := run_play careful_spec hplayed (run_opened ⟨clockFits_of_empty rfl,fun h => h⟩)
  have hrun := hlog.next (careful_spec _ _ hcareful)
    (request_answered stuck (resolveRollback restored stuck))
  have hlogged := List.mem_append_right log hmem
  obtain ⟨_,s,_,_,hs⟩ := careful_run_records_replayable_events hrun hlogged
  exact ⟨_,_,event,w,s,hrun,hlogged,happend,hs⟩

open Sample in
/-- The same manual resolution of a rollback child, recorded twice: the second intent reaches the
journal, and replay rejects it. -/
theorem repeated_rollback_resolution_breaks_journal : ∃ system log event w s,
    Run attestation.vault (fun _ _ => True) system log ∧ (.append event,w) ∈ log ∧
      replay w.disk.journal = .ok s ∧
      ∀ s', applyRepairEvent s event (w.disk.journal.length + 1) ≠ .ok s' := by
  obtain ⟨log,hlog⟩ := run_stuck
  obtain ⟨⟨a,w⟩,hmem,hrejected⟩ := List.any_eq_true.mp stuck_resolutions.2.2.2
  simp only [appendsRejected] at hrejected
  split at hrejected
  · next event s hreplay =>
    refine ⟨_,_,event,w,s,hlog.next trivial (request_answered stuck (resolveRollback manual stuck)),
      List.mem_append_right log hmem,hreplay,fun s' hs' => ?_⟩
    rw [hs'] at hrejected
    cases hrejected
  · cases hrejected

end KernAid.RepairStore
