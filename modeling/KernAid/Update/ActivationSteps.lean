import KernAid.Update.Activation

/-! What each step of the activator can do, in every environment. -/

set_option autoImplicit false

namespace KernAid.Update

open CrashLogic Program Machine

def ActivationPhase.final : ActivationPhase → Option ActivationOutcome
  | .finalizeSucceeded => some .succeeded
  | .finalizeFallback => some .fellBack
  | .finalizeRolledBack => some .rolledBack
  | _ => none

/-- A terminal receipt of the journaled activation, taken in a finalising phase of this boot. -/
def Finalizing (R : BootActivationReceipt) (d : Device) : Prop :=
  ∃ st, d.activation = some st ∧ st.phase.final = some R.outcome ∧ R.candidate = st.candidate ∧
    R.terminalBootId = d.bootId

def Recorded (R : BootActivationReceipt) (d : Device) : Prop :=
  Finalizing R d ∧ d.receiptArchive R.name = some R ∧ d.lastReceipt = some R

section

variable {d : Device} {R : BootActivationReceipt}

def Device.recorded (d : Device) (R : BootActivationReceipt) : Device := { d with
  receiptArchive := Function.update d.receiptArchive R.name (some R)
  lastReceipt := some R }

theorem Finalizing.recorded (h : Finalizing R d) : Recorded R (d.recorded R) :=
  ⟨h,Function.update_self _ _ _,rfl⟩

theorem ClearAction.recorded {r : StagingReceipt} {a : Action} {u : Device} (ha : ClearAction r a u)
    (h : Recorded R u ∧ u.audit = none) :
    Recorded R (a.effect u) ∧ (a.effect u).audit = none := by
  cases a with
  | removePending => exact h
  | removeReceipt => exact h
  | _ => exact ha.elim

theorem meets_recoveryStatus_bind {α : Type} {during : Action → Device → Prop}
    {f : StagingRecovery → Op ActivationError α} {post : Except ActivationError α → Device → Prop}
    (hok : ∀ status, d.recoveryStatus = .ok status → Meets device (f status) during post d)
    (herror : ∀ e, d.recoveryStatus = .error e → post (.error (.staging e)) d) :
    Meets device (recoveryStatus >>= f) during post d := by
  intro m hm
  subst hm
  cases hstatus : m.device.recoveryStatus with
  | ok status =>
    have hrun : recoveryStatus m = ⟨[],.ok status,m⟩ := by
      simp [recoveryStatus, bind, Program.bind, Program.read, lift, hstatus, Except.mapError]
    exact wp_bind.mpr (by rw [wp, hrun]; exact ⟨fun _ hv => (by cases hv),hok status hstatus m rfl⟩)
  | error e =>
    have hrun : recoveryStatus m = ⟨[],.error (.staging e),m⟩ := by
      simp [recoveryStatus, bind, Program.bind, Program.read, lift, hstatus, Except.mapError]
    exact wp_bind.mpr (by rw [wp, hrun]; exact ⟨fun _ hv => (by cases hv),herror e hstatus⟩)

theorem recoveryStatus_completed {r : StagingReceipt} (h : d.recoveryStatus = .ok (.completed r)) :
    d.receipt = some r ∧ ∀ c ∈ d.pending, r.matchesCheckpoint c = true := by
  unfold Device.recoveryStatus at h
  split at h
  · cases h
  · cases h
  · rename_i hpending hreceipt
    cases h
    exact ⟨hreceipt,by simp [hpending]⟩
  · rename_i c r' hpending hreceipt
    split_ifs at h with hmatches
    cases h
    exact ⟨hreceipt,by simpa [hpending] using hmatches⟩

theorem recoveryStatus_clean (h : d.recoveryStatus = .ok .clean) :
    d.receipt = none ∧ d.pending = none := by
  unfold Device.recoveryStatus at h
  split at h
  · rename_i hpending hreceipt
    exact ⟨hreceipt,hpending⟩
  · cases h
  · cases h
  · split_ifs at h
    cases h

theorem recoveryStatus_interrupted {c : StagingCheckpoint}
    (h : d.recoveryStatus = .ok (.interrupted c)) : d.receipt = none ∧ d.pending = some c := by
  unfold Device.recoveryStatus at h
  split at h
  · cases h
  · rename_i hpending hreceipt
    cases h
    exact ⟨hreceipt,hpending⟩
  · cases h
  · split_ifs at h
    cases h

theorem recoveryStatus_error {e : StagingError} (h : d.recoveryStatus = .error e) :
    ∃ c r, d.pending = some c ∧ d.receipt = some r ∧ ¬ r.matchesCheckpoint c = true := by
  unfold Device.recoveryStatus at h
  split at h
  · cases h
  · cases h
  · cases h
  · rename_i c r hpending hreceipt
    split_ifs at h with hmatches
    exact ⟨c,r,hpending,hreceipt,hmatches⟩

theorem meets_select_bind {α : Type} {during : Action → Device → Prop} {a : Action}
    {f : Unit → Op ActivationError α} {post : Except ActivationError α → Device → Prop}
    (ha : during a d) (hkeeps : a.effect d = d) (hok : Meets device (f ()) during post d)
    (herror : post (.error .bootSelectorFailed) d) :
    Meets device (select a >>= f) during post d := by
  refine Meets.bind
    (?_ : Meets _ _ _ (fun x u => u = d ∧ (x = .ok () ∨ x = .error .bootSelectorFailed)) d) ?_ ?_
  · refine meets_act_bind ha ?_
    rw [hkeeps]
    refine meets_read_bind fun m hm => ?_
    intro m' hm'
    subst hm'
    refine wp_bind.mpr (wp_update.mpr ?_)
    rw [andThen_ok]
    exact wp_require.mpr ⟨fun _ => ⟨rfl,.inl rfl⟩,fun _ => ⟨rfl,.inr rfl⟩⟩
  · rintro _ u ⟨rfl,_⟩
    exact hok
  · rintro e u ⟨rfl,h | h⟩
    · cases h
    · cases h
      exact herror

theorem meets_persistState_bind {α : Type} {during : Action → Device → Prop}
    {previous : Option DurableActivationState} {next : DurableActivationState}
    {f : Unit → Op ActivationError α} {post : Except ActivationError α → Device → Prop}
    (hprevious : d.activation = previous) (h : during (.writeState next) d)
    (hok : Meets device (f ()) during post (Action.effect (.writeState next) d)) :
    Meets device (persistState previous next >>= f) during post d := by
  refine Meets.bind (?_ : Meets _ _ _ (fun x u => x = .ok () ∧
    u = Action.effect (.writeState next) d) d) ?_ ?_
  · refine meets_read_bind fun m hm => ?_
    subst hm
    exact meets_require_bind (fun _ => meets_op_act h ⟨rfl,rfl⟩) fun hne => absurd hprevious hne
  · rintro _ u ⟨_,rfl⟩
    exact hok
  · rintro e u ⟨h,_⟩
    cases h

def ActivationPhase.ends : ActivationPhase → List ActivationOutcome
  | .prepared => [.succeeded,.fellBack]
  | .armed => [.succeeded,.fellBack]
  | .promotePrepared => [.succeeded]
  | .finalizeSucceeded => [.succeeded]
  | .finalizeFallback => [.fellBack]
  | .rollbackPrepared => [.rolledBack]
  | .rollbackArmed => [.rolledBack]
  | .finalizeRolledBack => [.rolledBack]

theorem ActivationPhase.final_mem_ends {phase : ActivationPhase} {outcome : ActivationOutcome}
    (h : phase.final = some outcome) : outcome ∈ phase.ends := by
  cases phase <;> cases h <;> exact List.mem_singleton_self _

theorem tracks_select (a : Action) : Tracks (select a) :=
  (tracks_act a).bind fun _ => Tracks.read_bind fun _ =>
    Tracks.bind (fun _ => follows_update rfl) fun _ => tracks_require _ _

theorem tracks_recoveryStatus : Tracks recoveryStatus := Tracks.read_bind fun _ => tracks_lift _

theorem tracks_persistState (previous : Option DurableActivationState) (next : DurableActivationState) :
    Tracks (persistState previous next) :=
  Tracks.read_bind fun _ => (tracks_require _ _).bind fun _ => tracks_act _

theorem tracks_persistTerminalReceipt (R : BootActivationReceipt) :
    Tracks (persistTerminalReceipt R) := by
  refine Tracks.bind (Tracks.read_bind fun m => ?_) fun _ => Tracks.read_bind fun m => ?_
  · cases m.device.receiptArchive R.name with
    | some existing => exact tracks_require _ _
    | none => exact tracks_act _
  · split_ifs
    · exact tracks_pure _
    · exact tracks_act _

theorem tracks_archiveStagingAudit (candidate : BootActivationCandidate) :
    Tracks (archiveStagingAudit candidate) := by
  refine Tracks.read_bind fun m => ?_
  cases m.device.audit with
  | none => exact tracks_pure _
  | some a =>
    refine Tracks.bind (Tracks.read_bind fun m => ?_) fun _ => tracks_act _
    cases m.device.auditArchive candidate.auditName with
    | some existing => exact tracks_require _ _
    | none => exact tracks_act _

variable [UpdateHash]

def StagedFor (candidate : BootActivationCandidate) (d : Device) : Prop :=
  ∃ r, d.receipt = some r ∧ candidate.matchesStaging r = true

/-- The changes of the activation state in a reconciliation. -/
inductive Transition (d : Device) : DurableActivationState → Prop where
  | prepare (candidate : BootActivationCandidate) : d.activation = none →
      d.candidate = some candidate → StagedFor candidate d → d.running = candidate.knownGoodSlot →
      Transition d ⟨candidate,.prepared,d.bootId⟩
  | arm (st : DurableActivationState) : d.activation = some st → st.phase = .prepared →
      st.transitionBootId = d.bootId → Transition d (st.withPhase .armed d.bootId)
  | promote (st : DurableActivationState) : d.activation = some st →
      (st.phase = .prepared ∨ st.phase = .armed) → st.transitionBootId ≠ d.bootId →
      d.running = st.candidate.targetSlot → StagedFor st.candidate d →
      Transition d (st.withPhase .promotePrepared d.bootId)
  | fallBack (st : DurableActivationState) : d.activation = some st →
      (st.phase = .prepared ∨ st.phase = .armed) → st.transitionBootId ≠ d.bootId →
      d.running = st.candidate.knownGoodSlot → StagedFor st.candidate d →
      Transition d (st.withPhase .finalizeFallback d.bootId)
  | succeed (st : DurableActivationState) : d.activation = some st → st.phase = .promotePrepared →
      d.running = st.candidate.targetSlot → StagedFor st.candidate d →
      Transition d (st.withPhase .finalizeSucceeded d.bootId)
  | armRollback (st : DurableActivationState) : d.activation = some st →
      st.phase = .rollbackPrepared → Transition d (st.withPhase .rollbackArmed d.bootId)
  | rolledBack (st : DurableActivationState) : d.activation = some st → st.phase = .rollbackArmed →
      d.running = st.candidate.knownGoodSlot →
      Transition d (st.withPhase .finalizeRolledBack d.bootId)

/-- The first change of a rollback. -/
inductive RollbackTransition (d : Device) : DurableActivationState → Prop where
  | journaled (st : DurableActivationState) : d.activation = some st →
      RollbackTransition d ⟨st.candidate,.rollbackPrepared,d.bootId⟩
  | last (R : BootActivationReceipt) : d.activation = none → d.lastReceipt = some R →
      R.outcome = .succeeded → RollbackTransition d ⟨R.candidate,.rollbackPrepared,d.bootId⟩

def ActivatorAction : Action → Device → Prop
  | .preflight _ _, _ => True
  | .armTrial k t, d => ∃ st, d.activation = some st ∧ st.phase = .prepared ∧
      k = st.candidate.knownGoodSlot ∧ t = st.candidate.targetSlot ∧ d.running = k ∧
      StagedFor st.candidate d
  | .promote t, d => ∃ st, d.activation = some st ∧ st.phase = .promotePrepared ∧
      t = st.candidate.targetSlot ∧ d.running = t ∧ StagedFor st.candidate d
  | .armRollback k, d => ∃ st, d.activation = some st ∧ st.phase = .rollbackPrepared ∧
      k = st.candidate.knownGoodSlot
  | .writeState st, d => Transition d st
  | .archiveReceipt R, d => Finalizing R d ∧ d.receiptArchive R.name = none
  | .writeLastReceipt R, d => Finalizing R d ∧ d.receiptArchive R.name = some R
  | .archiveAudit name audit, d => ∃ R, Recorded R d ∧ name = R.candidate.auditName ∧
      d.audit = some audit ∧ d.auditArchive name = none
  | .removeAudit, d => ∃ R, Recorded R d
  | .removePending, d => ∃ R r, Recorded R d ∧ d.audit = none ∧ R.candidate.matchesStaging r = true ∧
      d.receipt = some r ∧ ∃ c, d.pending = some c ∧ r.matchesCheckpoint c = true
  | .removeReceipt, d => ∃ R r, Recorded R d ∧ d.audit = none ∧
      R.candidate.matchesStaging r = true ∧ d.receipt = some r ∧ d.pending = none
  | .removeCandidate, d => (∃ R, Recorded R d) ∧ d.audit = none ∧ d.pending = none ∧ d.receipt = none
  | .removeState, d => (∃ R, Recorded R d) ∧ d.audit = none ∧ d.pending = none ∧ d.receipt = none ∧
      d.candidate = none
  | _, _ => False

def RollbackAction (a : Action) (d : Device) : Prop :=
  ActivatorAction a d ∨ ∃ next, a = .writeState next ∧ RollbackTransition d next

structure StagingReady (candidate : BootActivationCandidate) (d : Device) : Prop where
  receipt : ∀ r, d.receipt = some r → candidate.matchesStaging r = true ∧
    ∀ c ∈ d.pending, r.matchesCheckpoint c = true
  pending : d.receipt = none → d.pending = none

/-- Nothing stands in the way of recording the outcome: its name in the archive is free or holds this
very receipt, so does the name of the audit, and the staging receipt is released or the candidate's. -/
structure CanFinalize (candidate : BootActivationCandidate) (outcome : ActivationOutcome)
    (d : Device) : Prop where
  archive : ∀ R, d.receiptArchive (candidate.receiptName outcome) = some R →
    R = ⟨candidate,outcome,d.bootId⟩
  audit : ∀ a a', d.audit = some a → d.auditArchive candidate.auditName = some a' → a' = a
  ready : StagingReady candidate d

structure Finished (R : BootActivationReceipt) (d : Device) : Prop where
  activation : d.activation = none
  candidate : d.candidate = none
  pending : d.pending = none
  receipt : d.receipt = none
  archive : d.receiptArchive R.name = some R
  last : d.lastReceipt = some R

theorem meets_archiveTerminalReceipt (h : Finalizing R d) :
    Meets device (archiveTerminalReceipt R) ActivatorAction
      (fun x u => (x = .ok () ∧ u = { d with
          receiptArchive := Function.update d.receiptArchive R.name (some R) }) ∨
        ((∃ e, x = .error e) ∧ ∃ R', d.receiptArchive R.name = some R' ∧ R' ≠ R)) d := by
  refine meets_read_bind fun m hm => ?_
  subst hm
  cases harchive : m.device.receiptArchive R.name with
  | none => exact meets_op_act ⟨h,harchive⟩ (.inl ⟨rfl,rfl⟩)
  | some existing =>
    refine meets_require (fun heq => .inl ⟨rfl,?_⟩) fun hne => .inr ⟨⟨_,rfl⟩,existing,rfl,hne⟩
    subst heq
    rw [← harchive, Function.update_eq_self]

theorem meets_replaceLastReceipt (h : Finalizing R d) (harchive : d.receiptArchive R.name = some R) :
    Meets device (replaceLastReceipt R) ActivatorAction
      (fun x u => x = .ok () ∧ u = { d with lastReceipt := some R }) d := by
  refine meets_read_bind fun m hm => ?_
  subst hm
  split_ifs with hlast
  · refine meets_pure ⟨rfl,?_⟩
    rw [← hlast]
  · exact meets_op_act ⟨h,harchive⟩ ⟨rfl,rfl⟩

theorem meets_persistTerminalReceipt (h : Finalizing R d) :
    Meets device (persistTerminalReceipt R) ActivatorAction
      (fun x u => (x = .ok () ∧ u = d.recorded R) ∨
        ((∃ e, x = .error e) ∧ ∃ R', d.receiptArchive R.name = some R' ∧ R' ≠ R)) d := by
  refine (meets_archiveTerminalReceipt h).bind ?_ ?_
  · rintro _ u (⟨_,rfl⟩ | ⟨⟨_,h'⟩,_⟩)
    · have h' : Finalizing R { d with
          receiptArchive := Function.update d.receiptArchive R.name (some R) } := h
      exact (meets_replaceLastReceipt h' (Function.update_self _ _ _)).post_mono
        fun x v ⟨hx,hv⟩ => .inl ⟨hx,hv⟩
    · cases h'
  · rintro e u (⟨h',_⟩ | ⟨_,hconflict⟩)
    · cases h'
    · exact .inr ⟨⟨e,rfl⟩,hconflict⟩

theorem meets_copyAudit {a : SignedUpdateAuditReceipt} (h : Recorded R d) (ha : d.audit = some a) :
    Meets device (copyAudit R.candidate.auditName a) ActivatorAction
      (fun x u => (x = .ok () ∧ ∃ archive, u = { d with auditArchive := archive }) ∨
        ((∃ e, x = .error e) ∧ ∃ a', d.auditArchive R.candidate.auditName = some a' ∧ a' ≠ a)) d := by
  refine meets_read_bind fun m hm => ?_
  subst hm
  cases harchive : m.device.auditArchive R.candidate.auditName with
  | none => exact meets_op_act ⟨R,h,rfl,ha,harchive⟩ (.inl ⟨rfl,_,rfl⟩)
  | some existing =>
    exact meets_require (fun _ => .inl ⟨rfl,_,rfl⟩) fun hne => .inr ⟨⟨_,rfl⟩,existing,rfl,hne⟩

theorem meets_archiveStagingAudit (h : Recorded R d) :
    Meets device (archiveStagingAudit R.candidate) ActivatorAction
      (fun x u => (x = .ok () ∧ ∃ archive, u = { d with
          auditArchive := archive
          audit := none }) ∨
        ((∃ e, x = .error e) ∧ ∃ a a', d.audit = some a ∧
          d.auditArchive R.candidate.auditName = some a' ∧ a' ≠ a)) d := by
  refine meets_read_bind fun m hm => ?_
  subst hm
  cases haudit : m.device.audit with
  | none =>
    refine meets_pure (.inl ⟨rfl,m.device.auditArchive,?_⟩)
    rw [← haudit]
  | some a =>
    refine (meets_copyAudit h haudit).bind ?_ ?_
    · rintro _ u (⟨_,archive,rfl⟩ | ⟨⟨_,h'⟩,_⟩)
      · exact meets_op_act ⟨R,h⟩ (.inl ⟨rfl,archive,rfl⟩)
      · cases h'
    · rintro e u (⟨h',_⟩ | ⟨_,a',ha',hne⟩)
      · cases h'
      · exact .inr ⟨⟨e,rfl⟩,a,a',rfl,ha',hne⟩

theorem ClearAction.allowed {r : StagingReceipt} {a : Action} {u : Device} (ha : ClearAction r a u)
    (h : Recorded R u) (haudit : u.audit = none) (hmatches : R.candidate.matchesStaging r = true) :
    ActivatorAction a u := by
  cases a with
  | removePending => exact ⟨R,r,h,haudit,hmatches,ha⟩
  | removeReceipt => exact ⟨R,r,h,haudit,hmatches,ha⟩
  | _ => exact ha.elim

theorem meets_releaseStaging (h : Recorded R d) (haudit : d.audit = none) :
    Meets device (releaseStaging R) ActivatorAction
      (fun x u => (x = .ok () ∧ u = d.released) ∨
        ((∃ e, x = .error e) ∧ ¬ StagingReady R.candidate d)) d := by
  refine meets_recoveryStatus_bind (fun status hstatus => ?_) fun e he => .inr ⟨⟨_,rfl⟩,fun hready => ?_⟩
  · cases status with
    | clean =>
      obtain ⟨hreceipt,hpending⟩ := recoveryStatus_clean hstatus
      have hreleased : d.released = d := by
        rw [Device.released, ← hreceipt, ← hpending]
      rw [hreleased]
      dsimp only
      split_ifs
      · exact meets_pure (.inl ⟨rfl,rfl⟩)
      · refine meets_read_bind fun m hm => ?_
        subst hm
        rw [h.2.2]
        exact meets_lift_bind (fun retained hretained => meets_require (fun _ => .inl ⟨rfl,rfl⟩)
          fun hne => absurd (Except.ok.inj hretained).symm hne) fun e he => by cases he
    | interrupted c =>
      obtain ⟨hreceipt,hpending⟩ := recoveryStatus_interrupted hstatus
      refine meets_fail (.inr ⟨⟨_,rfl⟩,fun hready => ?_⟩)
      cases hpending.symm.trans (hready.pending hreceipt)
    | completed staging =>
      obtain ⟨hreceipt,hmatches⟩ := recoveryStatus_completed hstatus
      refine meets_require_bind (fun hstaging => meets_mapError ?_)
        fun hne => .inr ⟨⟨_,rfl⟩,fun hready => hne (hready.receipt staging hreceipt).1⟩
      refine (meets_clearCompleted.invariant (tracks_clearCompleted staging)
        (⟨h,haudit⟩ : Recorded R d ∧ d.audit = none) fun a u ha hu => ha.recorded hu).mono
        (fun a u h => h.1.allowed h.2.1 h.2.2 hstaging) ?_
      rintro x u ⟨⟨rfl,rfl⟩ | ⟨rfl,e,rfl,hrefused⟩,_⟩
      · exact .inl ⟨rfl,rfl⟩
      · exact absurd hmatches (hrefused hreceipt)
  · obtain ⟨c,r,hpending,hreceipt,hmatches⟩ := recoveryStatus_error he
    exact hmatches ((hready.receipt r hreceipt).2 c hpending)

theorem meets_finalize {st : DurableActivationState} {outcome : ActivationOutcome}
    (hst : d.activation = some st) (hphase : st.phase.final = some outcome) :
    Meets device (finalize st outcome d.bootId) ActivatorAction
      (fun x u => CanFinalize st.candidate outcome d →
        x = .ok () ∧ Finished ⟨st.candidate,outcome,d.bootId⟩ u) d := by
  have hfinalizing : Finalizing ⟨st.candidate,outcome,d.bootId⟩ d := ⟨st,hst,hphase,rfl,rfl⟩
  refine (meets_persistTerminalReceipt hfinalizing).bind ?_ ?_
  · rintro _ u (⟨_,rfl⟩ | ⟨⟨_,h⟩,_⟩)
    · have hrecorded := hfinalizing.recorded
      refine (meets_archiveStagingAudit hrecorded).bind ?_ ?_
      · rintro _ u (⟨_,archive,rfl⟩ | ⟨⟨_,h⟩,_⟩)
        · have hrecorded' : Recorded ⟨st.candidate,outcome,d.bootId⟩
              { d.recorded ⟨st.candidate,outcome,d.bootId⟩ with
                auditArchive := archive
                audit := none } := hrecorded
          refine (meets_releaseStaging hrecorded' rfl).bind ?_ ?_
          · rintro _ u (⟨_,rfl⟩ | ⟨⟨_,h⟩,_⟩)
            · refine meets_act_bind ⟨⟨_,hrecorded'⟩,rfl,rfl,rfl⟩ ?_
              refine meets_op_act ⟨⟨_,hrecorded'⟩,rfl,rfl,rfl,rfl⟩ fun _ => ⟨rfl,?_⟩
              exact ⟨rfl,rfl,rfl,rfl,hrecorded.2.1,rfl⟩
            · cases h
          · rintro e u (⟨h,_⟩ | ⟨_,hready⟩) hcan
            · cases h
            · exact (hready ⟨hcan.ready.receipt,hcan.ready.pending⟩).elim
        · cases h
      · rintro e u (⟨h,_⟩ | ⟨_,a,a',ha,ha',hne⟩) hcan
        · cases h
        · exact absurd (hcan.audit a a' ha ha') hne
    · cases h
  · rintro e u (⟨h,_⟩ | ⟨_,R',hR',hne⟩) hcan
    · cases h
    · exact absurd (hcan.archive R' hR') hne

/-- The result is neither of the two conflicts of the journal. -/
def NoConflict {α : Type} (x : Except ActivationError α) : Prop :=
  x ≠ .error .journalConflict ∧ x ≠ .error .bindingMismatch

theorem meets_requireStaging_bind {α : Type} {during : Action → Device → Prop}
    {candidate : BootActivationCandidate} {f : Unit → Op ActivationError α}
    {post : Except ActivationError α → Device → Prop}
    (hok : StagedFor candidate d → Meets device (f ()) during post d)
    (herror : ∀ e, (StagedFor candidate d → NoConflict (.error e : Except ActivationError α)) →
      post (.error e) d) :
    Meets device (requireStaging candidate >>= f) during post d := by
  refine Meets.bind (?_ : Meets _ _ _ (fun x u => u = d ∧ match x with
    | .ok _ => StagedFor candidate d
    | .error e => StagedFor candidate d → NoConflict (.error e : Except ActivationError α)) d) ?_ ?_
  · refine meets_recoveryStatus_bind (fun status hstatus => ?_) fun e _ => ⟨rfl,fun _ => ?_⟩
    · cases status with
      | completed r =>
        have hreceipt := (recoveryStatus_completed hstatus).1
        refine meets_require (fun h => ⟨rfl,r,hreceipt,h⟩) fun h => ⟨rfl,fun ⟨r',hr',h'⟩ => ?_⟩
        cases hreceipt.symm.trans hr'
        exact absurd h' h
      | clean => exact meets_fail ⟨rfl,fun _ => ⟨by simp,by simp⟩⟩
      | interrupted c => exact meets_fail ⟨rfl,fun _ => ⟨by simp,by simp⟩⟩
    · exact ⟨by simp,by simp⟩
  · rintro _ u ⟨rfl,h⟩
    exact hok h
  · rintro e u ⟨rfl,h⟩
    exact herror e h

def ActivationPhase.onTrial : ActivationPhase → Bool
  | .prepared => true
  | .armed => true
  | .promotePrepared => true
  | _ => false

/-- The journaled activation can go on: its staging receipt is there while it is on trial, and each
outcome it may record can be recorded. -/
structure Resumable (st : DurableActivationState) (d : Device) : Prop where
  staged : st.phase.onTrial = true → StagedFor st.candidate d
  ends : ∀ outcome ∈ st.phase.ends, CanFinalize st.candidate outcome d

theorem CanFinalize.writeState {candidate : BootActivationCandidate} {outcome : ActivationOutcome}
    {next : DurableActivationState} (h : CanFinalize candidate outcome d) :
    CanFinalize candidate outcome (Action.effect (.writeState next) d) :=
  ⟨h.archive,h.audit,h.ready.receipt,h.ready.pending⟩

theorem Resumable.writeState {st : DurableActivationState} {phase : ActivationPhase}
    (h : Resumable st d) (hphase : phase.onTrial = true → st.phase.onTrial = true)
    (hends : ∀ outcome ∈ phase.ends, outcome ∈ st.phase.ends) :
    Resumable (st.withPhase phase d.bootId)
      (Action.effect (.writeState (st.withPhase phase d.bootId)) d) :=
  ⟨fun hon => h.staged (hphase hon),fun outcome ho => (h.ends outcome (hends outcome ho)).writeState⟩

variable {st : DurableActivationState}

/-- What a phase function does from `d`: activator actions, and no conflict if it can go on. -/
def PhaseSpec (st : DurableActivationState) (d : Device) (p : Op ActivationError ReconcileOutcome) :
    Prop :=
  Meets device p ActivatorAction (fun x _ => Resumable st d → NoConflict x) d

theorem phaseSpec_finalize {outcome : ActivationOutcome} {result : ReconcileOutcome}
    (hst : d.activation = some st) (hphase : st.phase.final = some outcome) :
    PhaseSpec st d (do
      finalize st outcome d.bootId
      pure result) := by
  refine (meets_finalize hst hphase).bind (fun _ u _ => meets_pure fun _ => ?_) fun e u h hresumable => ?_
  · exact ⟨by simp,by simp⟩
  · cases (h (hresumable.ends outcome (ActivationPhase.final_mem_ends hphase))).1

theorem phaseSpec_promotePrepared (hst : d.activation = some st) (hphase : st.phase = .promotePrepared) :
    PhaseSpec st d (promotePrepared st d.running d.bootId) := by
  refine meets_requireStaging_bind (fun hstaged => ?_) fun e h hresumable =>
    h (hresumable.staged (by rw [hphase]; rfl))
  refine meets_require_bind (fun hrunning => ?_) fun _ _ => ⟨by simp,by simp⟩
  refine meets_select_bind ⟨st,hst,hphase,rfl,hrunning,hstaged⟩ rfl ?_ fun _ => ⟨by simp,by simp⟩
  refine meets_persistState_bind hst (Transition.succeed st hst hphase hrunning hstaged) ?_
  refine (phaseSpec_finalize rfl rfl).post_mono fun x u h hresumable => h ?_
  exact hresumable.writeState (by simp [hphase, ActivationPhase.onTrial])
    (by rw [hphase]; decide)

theorem phaseSpec_observeTrial (hst : d.activation = some st)
    (hphase : st.phase = .prepared ∨ st.phase = .armed) (hboot : st.transitionBootId ≠ d.bootId)
    (hstaged : StagedFor st.candidate d) :
    PhaseSpec st d (observeTrial st d.running d.bootId) := by
  have hends : st.phase.ends = [.succeeded,.fellBack] := by
    obtain h | h := hphase <;> rw [h] <;> rfl
  have hon : st.phase.onTrial = true := by
    obtain h | h := hphase <;> rw [h] <;> rfl
  unfold observeTrial
  split_ifs with htarget hknown
  · refine meets_persistState_bind hst (Transition.promote st hst hphase hboot htarget hstaged) ?_
    refine (phaseSpec_promotePrepared rfl rfl).post_mono fun x u h hresumable => h ?_
    exact hresumable.writeState (fun _ => hon) (by rw [hends]; decide)
  · refine meets_persistState_bind hst (Transition.fallBack st hst hphase hboot hknown hstaged) ?_
    refine (phaseSpec_finalize rfl rfl).post_mono fun x u h hresumable => h ?_
    exact hresumable.writeState (fun _ => hon) (by rw [hends]; decide)
  · exact meets_fail fun _ => ⟨by simp,by simp⟩

theorem phaseSpec_armed (hst : d.activation = some st) (hphase : st.phase = .armed) :
    PhaseSpec st d (armed st d.running d.bootId) := by
  refine meets_requireStaging_bind (fun hstaged => ?_) fun e h hresumable =>
    h (hresumable.staged (by rw [hphase]; rfl))
  split_ifs with hboot
  · exact meets_pure fun _ => ⟨by simp,by simp⟩
  · exact phaseSpec_observeTrial hst (.inr hphase) (Ne.symm hboot) hstaged

theorem phaseSpec_prepared (hst : d.activation = some st) (hphase : st.phase = .prepared) :
    PhaseSpec st d (prepared st d.running d.bootId) := by
  refine meets_requireStaging_bind (fun hstaged => ?_) fun e h hresumable =>
    h (hresumable.staged (by rw [hphase]; rfl))
  refine meets_select_bind trivial rfl ?_ fun _ => ⟨by simp,by simp⟩
  split_ifs with hboot
  · exact phaseSpec_observeTrial hst (.inl hphase) (Ne.symm hboot) hstaged
  · refine meets_require_bind (fun hrunning => ?_) fun _ _ => ⟨by simp,by simp⟩
    refine meets_select_bind ⟨st,hst,hphase,rfl,rfl,hrunning,hstaged⟩ rfl ?_
      fun _ => ⟨by simp,by simp⟩
    refine meets_persistState_bind hst (Transition.arm st hst hphase (not_not.mp hboot).symm) ?_
    exact meets_pure fun _ => ⟨by simp,by simp⟩

theorem phaseSpec_rollbackArmed (hst : d.activation = some st) (hphase : st.phase = .rollbackArmed) :
    PhaseSpec st d (rollbackArmed st d.running d.bootId) := by
  unfold rollbackArmed
  split_ifs with hknown hwaiting
  · refine meets_persistState_bind hst (Transition.rolledBack st hst hphase hknown) ?_
    refine (phaseSpec_finalize rfl rfl).post_mono fun x u h hresumable => h ?_
    exact hresumable.writeState (by simp [ActivationPhase.onTrial])
      (by rw [hphase]; decide)
  · exact meets_pure fun _ => ⟨by simp,by simp⟩
  · exact meets_fail fun _ => ⟨by simp,by simp⟩

theorem phaseSpec_rollbackPrepared (hst : d.activation = some st)
    (hphase : st.phase = .rollbackPrepared) :
    PhaseSpec st d (rollbackPrepared st d.running d.bootId) := by
  refine meets_select_bind trivial rfl ?_ fun _ => ⟨by simp,by simp⟩
  refine meets_select_bind ⟨st,hst,hphase,rfl⟩ rfl ?_ fun _ => ⟨by simp,by simp⟩
  refine meets_persistState_bind hst (Transition.armRollback st hst hphase) ?_
  split_ifs
  · refine (phaseSpec_rollbackArmed rfl rfl).post_mono fun x u h hresumable => h ?_
    exact hresumable.writeState (by simp [ActivationPhase.onTrial])
      (by rw [hphase]; decide)
  · exact meets_pure fun _ => ⟨by simp,by simp⟩

theorem phaseSpec_resume (hst : d.activation = some st) :
    PhaseSpec st d (resume st d.running d.bootId) := by
  unfold resume
  split
  · exact phaseSpec_prepared hst ‹_›
  · exact phaseSpec_armed hst ‹_›
  · exact phaseSpec_promotePrepared hst ‹_›
  · exact phaseSpec_rollbackPrepared hst ‹_›
  · exact phaseSpec_rollbackArmed hst ‹_›
  · exact phaseSpec_finalize hst (by rw [‹st.phase = _›]; rfl)
  · exact phaseSpec_finalize hst (by rw [‹st.phase = _›]; rfl)
  · exact phaseSpec_finalize hst (by rw [‹st.phase = _›]; rfl)

structure Reconcilable (d : Device) : Prop where
  resume : ∀ st, d.activation = some st → Resumable st d
  prepare : ∀ candidate, d.activation = none → d.candidate = some candidate →
    Resumable ⟨candidate,.prepared,d.bootId⟩ d

theorem meets_prepareCandidate {candidate : BootActivationCandidate} (hnone : d.activation = none)
    (hcandidate : d.candidate = some candidate) :
    Meets device (prepareCandidate candidate d.running d.bootId) ActivatorAction
      (fun x _ => Resumable ⟨candidate,.prepared,d.bootId⟩ d → NoConflict x) d := by
  refine meets_requireStaging_bind (fun hstaged => ?_) fun e h hresumable =>
    h (hresumable.staged rfl)
  refine meets_require_bind (fun hrunning => ?_) fun _ _ => ⟨by simp,by simp⟩
  refine meets_select_bind trivial rfl ?_ fun _ => ⟨by simp,by simp⟩
  refine meets_persistState_bind hnone (Transition.prepare candidate hnone hcandidate hstaged hrunning) ?_
  refine (phaseSpec_prepared rfl rfl).post_mono fun x u h hresumable => h ?_
  exact ⟨hresumable.staged,fun outcome ho => (hresumable.ends outcome ho).writeState⟩

theorem meets_reconcile :
    Meets device (reconcile d.running d.bootId) ActivatorAction
      (fun x _ => Reconcilable d → NoConflict x) d := by
  refine meets_require_bind (fun _ => meets_read_bind fun m hm => ?_) fun _ _ => ⟨by simp,by simp⟩
  subst hm
  cases hactivation : m.device.activation with
  | some st =>
    exact (phaseSpec_resume hactivation).post_mono fun x u h hd => h (hd.resume st hactivation)
  | none =>
    dsimp only
    cases hcandidate : m.device.candidate with
    | none => exact meets_pure fun _ => ⟨by simp,by simp⟩
    | some candidate =>
      exact (meets_prepareCandidate hactivation hcandidate).post_mono
        fun x u h hd => h (hd.prepare candidate hactivation hcandidate)

def ActivationOutcome.reconciled : ActivationOutcome → ReconcileOutcome
  | .succeeded => .succeeded
  | .fellBack => .fellBack
  | .rolledBack => .rolledBack

theorem resume_final {outcome : ActivationOutcome} (hphase : st.phase.final = some outcome)
    (currentSlot : Slot) (bootId : String) : resume st currentSlot bootId = (do
      finalize st outcome bootId
      pure outcome.reconciled) := by
  cases h : st.phase <;> rw [h] at hphase <;> cases hphase <;> simp only [resume, h] <;> rfl

theorem meets_reconcile_final {outcome : ActivationOutcome} (hboot : validBootId d.bootId = true)
    (hst : d.activation = some st) (hphase : st.phase.final = some outcome)
    (hcan : CanFinalize st.candidate outcome d) :
    Meets device (reconcile d.running d.bootId) ActivatorAction
      (fun x u => x = .ok outcome.reconciled ∧ Finished ⟨st.candidate,outcome,d.bootId⟩ u) d := by
  have hfinal : Meets device
      (do
        finalize st outcome d.bootId
        pure outcome.reconciled) ActivatorAction
      (fun x u => x = .ok outcome.reconciled ∧ Finished ⟨st.candidate,outcome,d.bootId⟩ u) d :=
    (meets_finalize hst hphase).bind (fun _ u h => meets_pure ⟨rfl,(h hcan).2⟩)
      fun e u h => by cases (h hcan).1
  refine meets_require_bind (fun _ => meets_read_bind fun m hm => ?_) fun h => absurd hboot h
  subst hm
  rw [hst]
  change Meets _ (resume st _ _) _ _ _
  rw [resume_final hphase]
  exact hfinal

theorem meets_rollback :
    Meets device (rollback d.running d.bootId) RollbackAction (fun _ _ => True) d := by
  refine meets_require_bind (fun _ => meets_read_bind fun m hm => ?_) fun _ => trivial
  subst hm
  refine meets_lift_bind (fun candidate hcandidate => ?_) fun _ _ => trivial
  refine meets_require_bind (fun _ => ?_) fun _ => trivial
  refine meets_select_bind (.inl trivial) rfl ?_ trivial
  have htransition : RollbackTransition m.device ⟨candidate,.rollbackPrepared,m.device.bootId⟩ := by
    unfold rollbackCandidate at hcandidate
    split at hcandidate
    · rename_i st hst
      cases hcandidate
      exact .journaled st hst
    · rename_i hnone
      obtain ⟨R,hlast,h⟩ := okOr_bind_eq_ok.mp hcandidate
      obtain ⟨houtcome,h⟩ := require_bind_eq_ok.mp h
      cases h
      exact .last R hnone hlast houtcome
  refine meets_persistState_bind rfl (.inr ⟨_,rfl,htransition⟩) ?_
  exact meets_reconcile.mono (fun _ _ ha => .inl ha) fun _ _ _ => trivial

/-! The activator changes the device by its actions only. -/

theorem tracks_requireStaging (candidate : BootActivationCandidate) :
    Tracks (requireStaging candidate) := by
  refine tracks_recoveryStatus.bind fun status => ?_
  cases status with
  | completed r => exact tracks_require _ _
  | clean => exact tracks_fail _
  | interrupted c => exact tracks_fail _

theorem tracks_releaseStaging (R : BootActivationReceipt) : Tracks (releaseStaging R) := by
  refine tracks_recoveryStatus.bind fun status => ?_
  cases status with
  | completed r =>
    exact (tracks_require _ _).bind fun _ m => (tracks_clearCompleted r m).mapError
  | interrupted c => exact tracks_fail _
  | clean =>
    dsimp only
    split_ifs
    · exact tracks_pure _
    · exact Tracks.read_bind fun _ => (tracks_lift _).bind fun _ => tracks_require _ _

theorem tracks_finalize (st : DurableActivationState) (outcome : ActivationOutcome) (bootId : String) :
    Tracks (finalize st outcome bootId) :=
  (tracks_persistTerminalReceipt _).bind fun _ => (tracks_archiveStagingAudit _).bind fun _ =>
    (tracks_releaseStaging _).bind fun _ => (tracks_act _).bind fun _ => tracks_act _

theorem tracks_finalized (st : DurableActivationState) (outcome : ActivationOutcome) (bootId : String)
    (result : ReconcileOutcome) : Tracks (do
      finalize st outcome bootId
      pure result) :=
  (tracks_finalize _ _ _).bind fun _ => tracks_pure _

theorem tracks_promotePrepared (st : DurableActivationState) (currentSlot : Slot) (bootId : String) :
    Tracks (promotePrepared st currentSlot bootId) :=
  (tracks_requireStaging _).bind fun _ => (tracks_require _ _).bind fun _ =>
    (tracks_select _).bind fun _ => (tracks_persistState _ _).bind fun _ => tracks_finalized _ _ _ _

theorem tracks_observeTrial (st : DurableActivationState) (currentSlot : Slot) (bootId : String) :
    Tracks (observeTrial st currentSlot bootId) := by
  unfold observeTrial
  split_ifs
  · exact (tracks_persistState _ _).bind fun _ => tracks_promotePrepared _ _ _
  · exact (tracks_persistState _ _).bind fun _ => tracks_finalized _ _ _ _
  · exact tracks_fail _

theorem tracks_prepared (st : DurableActivationState) (currentSlot : Slot) (bootId : String) :
    Tracks (prepared st currentSlot bootId) := by
  refine (tracks_requireStaging _).bind fun _ => (tracks_select _).bind fun _ => ?_
  split_ifs
  · exact tracks_observeTrial _ _ _
  · exact (tracks_require _ _).bind fun _ => (tracks_select _).bind fun _ =>
      (tracks_persistState _ _).bind fun _ => tracks_pure _

theorem tracks_rollbackArmed (st : DurableActivationState) (currentSlot : Slot) (bootId : String) :
    Tracks (rollbackArmed st currentSlot bootId) := by
  unfold rollbackArmed
  split_ifs
  · exact (tracks_persistState _ _).bind fun _ => tracks_finalized _ _ _ _
  · exact tracks_pure _
  · exact tracks_fail _

theorem tracks_resume (st : DurableActivationState) (currentSlot : Slot) (bootId : String) :
    Tracks (resume st currentSlot bootId) := by
  unfold resume
  split
  · exact tracks_prepared _ _ _
  · refine (tracks_requireStaging _).bind fun _ => ?_
    split_ifs
    · exact tracks_pure _
    · exact tracks_observeTrial _ _ _
  · exact tracks_promotePrepared _ _ _
  · refine (tracks_select _).bind fun _ => (tracks_select _).bind fun _ =>
      (tracks_persistState _ _).bind fun _ => ?_
    split_ifs
    · exact tracks_rollbackArmed _ _ _
    · exact tracks_pure _
  · exact tracks_rollbackArmed _ _ _
  · exact tracks_finalized _ _ _ _
  · exact tracks_finalized _ _ _ _
  · exact tracks_finalized _ _ _ _

theorem tracks_reconcile (currentSlot : Slot) (bootId : String) :
    Tracks (reconcile currentSlot bootId) := by
  refine (tracks_require _ _).bind fun _ => Tracks.read_bind fun m => ?_
  cases m.device.activation with
  | some st => exact tracks_resume _ _ _
  | none =>
    dsimp only
    cases m.device.candidate with
    | none => exact tracks_pure _
    | some candidate =>
      exact (tracks_requireStaging _).bind fun _ => (tracks_require _ _).bind fun _ =>
        (tracks_select _).bind fun _ => (tracks_persistState _ _).bind fun _ => tracks_prepared _ _ _

theorem tracks_rollback (currentSlot : Slot) (bootId : String) :
    Tracks (rollback currentSlot bootId) :=
  (tracks_require _ _).bind fun _ => Tracks.read_bind fun _ => (tracks_lift _).bind fun _ =>
    (tracks_require _ _).bind fun _ => (tracks_select _).bind fun _ =>
    (tracks_persistState _ _).bind fun _ => tracks_reconcile _ _

end

end KernAid.Update
