import KernAid.Update.Engine
import KernAid.Update.ActivationSteps
import KernAid.Update.StagingRuns

/-! What each step of an update cycle can do, and the induction over the runs of a device. -/

set_option autoImplicit false

namespace KernAid.Update

open CrashLogic Program

section

variable [UpdateHash]

structure CandidateOf (r : StagingReceipt) (candidate : BootActivationCandidate) : Prop where
  releaseId : candidate.releaseId = r.releaseId
  sequence : candidate.sequence = r.sequence
  manifestSha256 : candidate.manifestSha256 = r.manifestSha256
  artifactSha256 : candidate.artifactSha256 = r.artifactSha256
  stagingReceiptSha256 : candidate.stagingReceiptSha256 = UpdateHash.receiptSha256 r
  targetSlot : candidate.targetSlot = r.targetSlot

theorem CandidateOf.matchesStaging {r : StagingReceipt} {candidate : BootActivationCandidate}
    (h : CandidateOf r candidate) : candidate.matchesStaging r = true := by
  simp [BootActivationCandidate.matchesStaging, h.releaseId, h.sequence, h.targetSlot,
    h.artifactSha256, h.stagingReceiptSha256]

omit [UpdateHash] in
theorem BootActivationCandidate.knownGoodSlot_eq (candidate : BootActivationCandidate) :
    candidate.knownGoodSlot = candidate.targetSlot.inactive := by
  rw [← candidate.opposite, Slot.inactive_inactive]

/-- The receipt a cycle of `u` writes. -/
def VerifiedUpdate.receipt (u : VerifiedUpdate) (target : PreopenedInactiveTarget) : StagingReceipt :=
  StagingReceipt.fromCheckpoint (StagingCheckpoint.fromAdmitted u target)

theorem derive_eq_ok {u : VerifiedUpdate} {target : PreopenedInactiveTarget}
    {candidate : BootActivationCandidate}
    (h : BootActivationCandidate.derive u (u.receipt target) = .ok candidate) :
    CandidateOf (u.receipt target) candidate := by
  obtain ⟨_,h⟩ := require_bind_eq_ok.mp h
  cases h
  exact ⟨rfl,rfl,rfl,rfl,rfl,rfl⟩

theorem derive_receipt (u : VerifiedUpdate) (target : PreopenedInactiveTarget) :
    ∃ candidate, BootActivationCandidate.derive u (u.receipt target) = .ok candidate :=
  ⟨_,require_bind_eq_ok.mpr ⟨⟨rfl,rfl,rfl,rfl⟩,rfl⟩⟩

def Cycling (u : VerifiedUpdate) (d : Device) : Prop :=
  d.audit = none ∧ ∃ k, d.checkpoint = some k ∧ k.sequence = u.sequence ∧
    k.manifestSha256 = u.manifestSha256

/-- The actions of a cycle that has selected `u`, with the state each is taken in. -/
def CycleAction (u : VerifiedUpdate) (target : PreopenedInactiveTarget) : Action → Device → Prop
  | .writeCheckpoint k, d => d.audit = none ∧ k = UpdateCheckpoint.fromVerified u ∧
      ∀ old, d.checkpoint = some old → old.sequence < u.sequence
  | .writeCandidate candidate, d => Cycling u d ∧ CandidateOf (u.receipt target) candidate ∧
      d.receipt = some (u.receipt target) ∧ d.candidate = none ∧ d.activation = none
  | .writeAudit _, d => Cycling u d ∧ d.receipt = some (u.receipt target) ∧
      ∃ candidate, d.candidate = some candidate ∧ CandidateOf (u.receipt target) candidate
  | a, d => Cycling u d ∧ StageAction (StagingCheckpoint.fromAdmitted u target) a d

theorem StageAction.cycle {u : VerifiedUpdate} {target : PreopenedInactiveTarget} {a : Action}
    {d : Device} (ha : StageAction (StagingCheckpoint.fromAdmitted u target) a d) (hd : Cycling u d) :
    CycleAction u target a d := by
  cases a <;> first | exact ⟨hd,ha⟩ | exact ha.elim

theorem StageAction.cycling {u : VerifiedUpdate} {c : StagingCheckpoint} {a : Action} {d : Device}
    (ha : StageAction c a d) (hd : Cycling u d) : Cycling u (a.effect d) := by
  cases a <;> first | exact hd | exact ha.elim

variable {d : Device} {u : VerifiedUpdate} {target : PreopenedInactiveTarget}

theorem meets_stage_cycle {context : UpdateContext} {updatesEntitled : Bool} {source : Reader}
    (hd : Cycling u d) :
    Meets Machine.device (stage u context updatesEntitled source target) (CycleAction u target)
      (fun r v => StageEnd (StagingCheckpoint.fromAdmitted u target) d r v ∧ Cycling u v) d :=
  (meets_stage.invariant (tracks_stage _ _ _ _ _) hd fun _ _ ha hv => ha.cycling hv).mono
    (fun _ _ ⟨ha,hv⟩ => ha.cycle hv) fun _ _ h => h

theorem meets_stageSelected {identity : ResidentIdentity} {call : CycleCall} (hd : Cycling u d) :
    Meets Machine.device (stageSelected identity call u target) (CycleAction u target)
      (fun x v => Cycling u v ∧ ∀ r, x = .ok r →
        r = u.receipt target ∧ v.receipt = some (u.receipt target)) d := by
  have hstage : ∀ source, Meets Machine.device
      (mapError ResidentUpdateError.staging (stage u (call.input.context identity)
        call.input.updatesEntitled source target)) (CycleAction u target)
      (fun x v => Cycling u v ∧ ∀ r, x = .ok r →
        r = u.receipt target ∧ v.receipt = some (u.receipt target)) d := by
    intro source
    refine meets_mapError ((meets_stage_cycle hd).post_mono fun x v ⟨hend,hv⟩ => ⟨hv,fun r hr => ?_⟩)
    cases x with
    | ok r' =>
      cases hr
      obtain ⟨rfl,hreceipt⟩ := hend.of_ok
      exact ⟨rfl,hreceipt⟩
    | error e => cases hr
  refine meets_read_bind fun m _ => meets_lift_bind (fun status _ => ?_)
    fun e _ => ⟨hd,fun r hr => by cases hr⟩
  cases status with
  | completed r => exact hstage _
  | clean =>
    exact meets_lift_bind (fun source _ => hstage source) fun e _ => ⟨hd,fun r hr => by cases hr⟩
  | interrupted c =>
    exact meets_lift_bind (fun source _ => hstage source) fun e _ => ⟨hd,fun r hr => by cases hr⟩

theorem meets_persistCheckpoint {admission : AdmissionOutcome} (haudit : d.audit = none)
    (h : admitUpdate d.checkpoint u = .ok admission) :
    Meets Machine.device (persistCheckpoint d.checkpoint admission.nextCheckpoint)
      (CycleAction u target) (fun _ v => Cycling u v) d := by
  obtain ⟨_,⟨hkept,hsequence,hdigest⟩ | ⟨hnext,holder⟩⟩ := admitUpdate_eq_ok h
  · have hd : Cycling u d := ⟨haudit,_,hkept,hsequence,hdigest⟩
    refine meets_read_bind fun m hm => meets_require_bind (fun _ => ?_) fun hne => absurd (hm ▸ rfl) hne
    rw [hm, if_pos hkept]
    exact meets_pure hd
  · refine meets_read_bind fun m hm => meets_require_bind (fun _ => ?_) fun hne => absurd (hm ▸ rfl) hne
    rw [hm, hnext]
    split_ifs with hsame
    · exact meets_pure ⟨haudit,_,hsame,rfl,rfl⟩
    · exact meets_op_act ⟨haudit,rfl,holder⟩ ⟨haudit,_,rfl,rfl,rfl⟩

theorem meets_persistCandidate {candidate : BootActivationCandidate} (hd : Cycling u d)
    (hreceipt : d.receipt = some (u.receipt target))
    (hcandidate : CandidateOf (u.receipt target) candidate) :
    Meets Machine.device (persistCandidate candidate) (CycleAction u target)
      (fun x v => (∃ e, x = .error e) ∨ (Cycling u v ∧ v.receipt = some (u.receipt target) ∧
        v.candidate = some candidate)) d := by
  refine meets_read_bind fun m hm => ?_
  subst hm
  cases hexisting : m.device.candidate with
  | some existing =>
    exact meets_require (fun h => .inr ⟨hd,hreceipt,hexisting.trans (congrArg some h)⟩)
      fun _ => .inl ⟨_,rfl⟩
  | none =>
    refine meets_require_bind (fun hactivation => ?_) fun _ => .inl ⟨_,rfl⟩
    exact meets_op_act ⟨hd,hcandidate,hreceipt,hexisting,hactivation⟩ (.inr ⟨hd,hreceipt,rfl⟩)

theorem meets_persistAuditReceipt {audit : SignedUpdateAuditReceipt}
    {candidate : BootActivationCandidate} (hd : Cycling u d)
    (hreceipt : d.receipt = some (u.receipt target)) (hplace : d.candidate = some candidate)
    (hcandidate : CandidateOf (u.receipt target) candidate) :
    Meets Machine.device (persistAuditReceipt audit) (CycleAction u target) (fun _ _ => True) d := by
  refine meets_read_bind fun m hm => ?_
  subst hm
  rw [hd.1]
  exact meets_op_act ⟨hd,hreceipt,candidate,hplace,hcandidate⟩ trivial

theorem meets_admitAndStage {identity : ResidentIdentity} {call : CycleCall} (haudit : d.audit = none) :
    Meets Machine.device (admitAndStage identity call u target) (CycleAction u target)
      (fun _ _ => True) d := by
  refine meets_read_bind fun m hm => ?_
  subst hm
  refine meets_lift_bind (fun admission hadmission => ?_) fun _ _ => trivial
  have hadmitted : admitUpdate m.device.checkpoint u = .ok admission := by
    cases h : admitUpdate m.device.checkpoint u <;> rw [h] at hadmission <;> cases hadmission
    rfl
  refine (meets_persistCheckpoint haudit hadmitted).bind (fun _ v hv => ?_) fun _ _ _ => trivial
  refine (meets_stageSelected hv).bind (fun r w ⟨hw,hr⟩ => ?_) fun _ _ _ => trivial
  obtain ⟨rfl,hreceipt⟩ := hr r rfl
  refine meets_lift_bind (fun candidate hderive => ?_) fun _ _ => trivial
  obtain ⟨candidate',hcandidate'⟩ := derive_receipt u target
  rw [hcandidate'] at hderive
  cases hderive
  have hcandidate := derive_eq_ok hcandidate'
  refine (meets_mapError ((meets_persistCandidate hw hreceipt hcandidate).post_mono
    fun x v h => ?_) : Meets _ _ _ (fun x v => (∃ e, x = .error e) ∨ (Cycling u v ∧
      v.receipt = some (u.receipt target) ∧ v.candidate = some candidate)) _).bind ?_
    fun _ _ _ => trivial
  · obtain ⟨e,rfl⟩ | h := h
    · exact .inl ⟨_,rfl⟩
    · exact .inr h
  · rintro _ v (⟨e,he⟩ | ⟨hv,hreceipt,hplace⟩)
    · cases he
    · exact (meets_persistAuditReceipt hv hreceipt hplace hcandidate).bind
        (fun _ _ _ => meets_pure trivial) fun _ _ _ => trivial

def CycleCall.Selects (identity : ResidentIdentity) (call : CycleCall) (u : VerifiedUpdate) : Prop :=
  ∃ updates, call.pull = .ok updates ∧
    selectUpdate updates (call.input.context identity) = .ok (some u)

theorem meets_runOnce {identity : ResidentIdentity} {call : CycleCall} :
    Meets Machine.device (runOnce identity call target)
      (fun a v => ∃ u, call.Selects identity u ∧ CycleAction u target a v) (fun _ _ => True) d := by
  refine meets_require_bind (fun _ => meets_read_bind fun m hm => ?_) fun _ => trivial
  subst hm
  cases haudit : m.device.audit with
  | some receipt =>
    refine Meets.bind (?_ : Meets _ _ _ (fun _ _ => True) _) (fun _ _ _ => meets_pure trivial)
      fun _ _ _ => trivial
    refine meets_read_bind fun m' _ => meets_lift_bind (fun status _ => ?_) fun _ _ => trivial
    cases status with
    | completed r => exact meets_require (fun _ => trivial) fun _ => trivial
    | clean => exact meets_fail trivial
    | interrupted c => exact meets_fail trivial
  | none =>
    refine meets_require_bind (fun _ => ?_) fun _ => trivial
    refine meets_lift_bind (fun updates hpull => ?_) fun _ _ => trivial
    refine meets_lift_bind (fun selected hselected => ?_) fun _ _ => trivial
    cases selected with
    | none => exact meets_pure trivial
    | some u =>
      have hpull : call.pull = .ok updates := by
        cases h : call.pull <;> rw [h] at hpull <;> cases hpull
        rfl
      exact (meets_admitAndStage haudit).mono (fun a v ha => ⟨u,⟨updates,hpull,hselected⟩,ha⟩)
        fun _ _ h => h

omit [UpdateHash] in
theorem tracks_persistCandidate (candidate : BootActivationCandidate) :
    Tracks (persistCandidate candidate) := by
  refine Tracks.read_bind fun m => ?_
  cases m.device.candidate with
  | some existing => exact tracks_require _ _
  | none => exact (tracks_require _ _).bind fun _ => tracks_act _

theorem tracks_stageSelected (identity : ResidentIdentity) (call : CycleCall) (u : VerifiedUpdate)
    (target : PreopenedInactiveTarget) : Tracks (stageSelected identity call u target) := by
  refine Tracks.read_bind fun m => (tracks_lift _).bind fun status => ?_
  cases status with
  | completed r => exact fun m => (tracks_stage _ _ _ _ _ m).mapError
  | clean => exact (tracks_lift _).bind fun _ m => (tracks_stage _ _ _ _ _ m).mapError
  | interrupted c => exact (tracks_lift _).bind fun _ m => (tracks_stage _ _ _ _ _ m).mapError

theorem tracks_admitAndStage (identity : ResidentIdentity) (call : CycleCall) (u : VerifiedUpdate)
    (target : PreopenedInactiveTarget) : Tracks (admitAndStage identity call u target) := by
  refine Tracks.read_bind fun m => (tracks_lift _).bind fun admission => Tracks.bind ?_ fun _ =>
    (tracks_stageSelected _ _ _ _).bind fun _ => (tracks_lift _).bind fun _ =>
    Tracks.bind (fun m => (tracks_persistCandidate _ m).mapError) fun _ => Tracks.bind ?_ fun _ =>
    tracks_pure _
  · refine Tracks.read_bind fun m => (tracks_require _ _).bind fun _ => ?_
    split_ifs
    · exact tracks_pure _
    · exact tracks_act _
  · refine Tracks.read_bind fun m => ?_
    cases m.device.audit with
    | some existing => exact tracks_require _ _
    | none => exact tracks_act _

theorem tracks_runOnce (identity : ResidentIdentity) (call : CycleCall)
    (target : PreopenedInactiveTarget) : Tracks (runOnce identity call target) := by
  refine (tracks_require _ _).bind fun _ => Tracks.read_bind fun m => ?_
  cases m.device.audit with
  | some receipt =>
    refine Tracks.bind (Tracks.read_bind fun m => (tracks_lift _).bind fun status => ?_) fun _ =>
      tracks_pure _
    cases status with
    | completed r => exact tracks_require _ _
    | clean => exact tracks_fail _
    | interrupted c => exact tracks_fail _
  | none =>
    refine (tracks_require _ _).bind fun _ => (tracks_lift _).bind fun _ => (tracks_lift _).bind
      fun selected => ?_
    cases selected with
    | none => exact tracks_pure _
    | some u => exact tracks_admitAndStage _ _ _ _

/-! Invariants of runs: it is enough to look at the actions of each kind of call. -/

variable {identity : ResidentIdentity}

def Event.Takes (identity : ResidentIdentity) (d : Device) : Event → Action → Device → Prop
  | .cycle call _, a, v => ∃ u, call.Selects identity u ∧ CycleAction u d.inactiveTarget a v
  | .reconcile _ _, a, v => ActivatorAction a v
  | .rollback _ _, a, v => RollbackAction a v
  | .reboot _ _ _, _, _ => False

/-- An invariant of the device survives an event when the actions of the event, lost bytes and, for a
reboot, the reboot itself preserve it. -/
theorem Event.preserves {event : Event} {inv : Device → Prop} (hd : inv d)
    (hstep : ∀ a v, event.Takes identity d a v → inv v → inv (a.effect v))
    (hsettle : ∀ v lost, inv v → inv (v.settle lost))
    (hreboot : ∀ slot boot lost, event = .reboot slot boot lost → inv (d.reboot slot boot lost)) :
    (∀ v ∈ event.visits identity d, event.Takes identity d v.1 v.2.device ∧ inv v.2.device) ∧
      inv (event.after identity d) := by
  cases event with
  | cycle call crash =>
    obtain ⟨hvisits,hend⟩ := meets_runOnce.invariant (tracks_runOnce identity call d.inactiveTarget) hd
      hstep (call.machine d) rfl
    exact ⟨hvisits,survivor_of (fun v hv => (hvisits v hv).2) hend.2 hsettle crash⟩
  | reconcile selector crash =>
    obtain ⟨hvisits,hend⟩ := meets_reconcile.invariant (tracks_reconcile d.running d.bootId) hd
      hstep (activatorMachine selector d) rfl
    exact ⟨hvisits,survivor_of (fun v hv => (hvisits v hv).2) hend.2 hsettle crash⟩
  | rollback selector crash =>
    obtain ⟨hvisits,hend⟩ := meets_rollback.invariant (tracks_rollback d.running d.bootId) hd
      hstep (activatorMachine selector d) rfl
    exact ⟨hvisits,survivor_of (fun v hv => (hvisits v hv).2) hend.2 hsettle crash⟩
  | reboot slot boot lost => exact ⟨fun _ hv => (by cases hv),hreboot slot boot lost rfl⟩

theorem RunOf.invariant {allowed : Device → Event → Prop} {inv : Device → Prop} {events : List Event}
    (h : RunOf identity allowed d events) (hd : inv d)
    (hstep : ∀ v event, inv v → allowed v event → inv (event.after identity v)) :
    inv (playEvents identity d events) := by
  induction events generalizing d with
  | nil => exact hd
  | cons event events ih => exact ih h.2 (hstep d event hd h.1)

end

end KernAid.Update
