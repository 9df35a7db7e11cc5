import KernAid.Update.StagingSteps

/-! Histories of stage and release calls: a receipt always tells the truth about the target. -/

set_option autoImplicit false

namespace KernAid.Update

open CrashLogic Program StagingReceipt

/-- One call of `stage` with its environment. -/
structure StageCall where
  update : VerifiedUpdate
  context : UpdateContext
  updatesEntitled : Bool
  source : Reader
  target : PreopenedInactiveTarget
  faults : List Fault
  destination : List ReadStep

/-- What the stager does next. -/
inductive StagerEvent where
  | stage (call : StageCall) (crash : Option Crash)
  | clear (expected : StagingReceipt) (crash : Option Crash)

section Histories

variable [UpdateHash]

def StageCall.checkpoint (call : StageCall) : StagingCheckpoint :=
  StagingCheckpoint.fromAdmitted call.update call.target

def StageCall.machine (call : StageCall) (d : Device) : Machine :=
  { device := d, faults := call.faults, destination := call.destination, selector := [] }

def StageCall.run (call : StageCall) (d : Device) :
    Outcome Action Machine StagingError StagingReceipt :=
  stage call.update call.context call.updatesEntitled call.source call.target (call.machine d)

def StagerEvent.after (d : Device) : StagerEvent → Device
  | .stage call crash => survivor (call.run d) crash
  | .clear expected crash =>
    survivor
      (clearCompleted expected { device := d, faults := [], destination := [], selector := [] }) crash

def playStager (d : Device) (events : List StagerEvent) : Device := events.foldl StagerEvent.after d

def Device.Truthful (d : Device) : Prop :=
  ∀ r, d.receipt = some r →
    (d.targets r.targetSlot).Holds r.artifactSizeBytes r.artifactSha256

def Action.Changes (slot : Slot) : Action → Prop
  | .truncate s => s = slot
  | .writeAt s _ _ => s = slot
  | _ => False

theorem StageAction.truthful {c : StagingCheckpoint} {a : Action} {d : Device} (ha : StageAction c a d)
    (h : d.Truthful) : (a.effect d).Truthful := by
  cases a with
  | writePending c' => exact h
  | removePending => exact h
  | writeReceipt r =>
    obtain ⟨rfl,_,hholds⟩ := ha
    rintro _ ⟨⟩
    exact hholds
  | truncate slot =>
    intro r hr
    exact absurd (ha.2.2.symm.trans hr) (by simp)
  | writeAt slot position bytes =>
    intro r hr
    exact absurd (ha.2.2.symm.trans hr) (by simp)
  | sync slot =>
    intro r hr
    exact absurd (ha.2.2.symm.trans hr) (by simp)
  | _ => exact ha.elim

theorem ClearAction.truthful {r : StagingReceipt} {a : Action} {d : Device} (ha : ClearAction r a d)
    (h : d.Truthful) : (a.effect d).Truthful := by
  cases a with
  | removePending => exact h
  | removeReceipt =>
    intro r hr
    cases hr
  | _ => exact ha.elim

theorem Device.Truthful.settle {d : Device} (h : d.Truthful) (lost : Slot → List UInt8) :
    (d.settle lost).Truthful := by
  intro r hr
  have hholds := h r hr
  have hkept : (d.settle lost).targets r.targetSlot = d.targets r.targetSlot := if_pos hholds.synced
  rw [hkept]
  exact hholds

theorem meets_stage_truthful {d : Device} (h : d.Truthful) (call : StageCall) :
    Meets Machine.device
      (stage call.update call.context call.updatesEntitled call.source call.target)
      (fun a u => StageAction call.checkpoint a u ∧ u.Truthful)
      (fun r u => StageEnd call.checkpoint d r u ∧ u.Truthful) d :=
  meets_stage.invariant (tracks_stage _ _ _ _ _) h fun _ _ ha hu => ha.truthful hu

theorem StagerEvent.after_truthful {d : Device} (h : d.Truthful) (event : StagerEvent) :
    (event.after d).Truthful := by
  have hsettle : ∀ (d : Device) lost, d.Truthful → (d.settle lost).Truthful :=
    fun _ lost h => h.settle lost
  cases event with
  | stage call crash =>
    obtain ⟨hvisits,hend⟩ := meets_stage_truthful h call (call.machine d) rfl
    exact survivor_of (fun v hv => (hvisits v hv).2) hend.2 hsettle crash
  | clear expected crash =>
    obtain ⟨hvisits,hend⟩ := meets_clearCompleted.invariant (tracks_clearCompleted expected) h
      (fun _ _ ha hu => ha.truthful hu)
      { device := d, faults := [], destination := [], selector := [] } rfl
    exact survivor_of (fun v hv => (hvisits v hv).2) hend.2 hsettle crash

theorem playStager_truthful {d : Device} (h : d.Truthful) (events : List StagerEvent) :
    (playStager d events).Truthful := by
  induction events generalizing d with
  | nil => exact h
  | cons event events ih => exact ih (event.after_truthful h)

theorem start_truthful (targets : Slot → Target) (running : Slot) (bootId : String) :
    (Device.start targets running bootId).Truthful := by
  intro r hr
  cases hr

omit [UpdateHash] in
theorem StagingReceipt.matchesCheckpoint_iff {r : StagingReceipt} {c : StagingCheckpoint} :
    r.matchesCheckpoint c = true ↔ r = fromCheckpoint c := by
  cases r
  simp [matchesCheckpoint, fromCheckpoint, and_assoc]

variable {c : StagingCheckpoint} {d u : Device}

/-- A failed call was refused before the first change of the target, failed in the stream and left no
receipt, or failed after the target was verified. -/
theorem StageEnd.of_error {e : StagingError} (h : StageEnd c d (.error e) u) :
    (u.targets = d.targets ∧ u.receipt = d.receipt) ∨
      (u.receipt = none ∧ (e ≠ .cleanupFailed → Emptied c u)) ∨
      (e = .io ∧ (u.targets c.targetSlot).Holds c.artifactSizeBytes c.artifactSha256) := by
  have hnone : ∀ {v}, Begun c d v → v.receipt = none :=
    fun hv => (congrArg Device.receipt hv.streaming.files).trans hv.receipt
  cases h with
  | refused => exact .inl ⟨rfl,rfl⟩
  | intentFailed => exact .inl ⟨rfl,rfl⟩
  | streamFailed _ _ hbegun hempty => exact .inr (.inl ⟨hnone hbegun,fun _ => hempty⟩)
  | cleanupFailed _ hbegun => exact .inr (.inl ⟨hnone hbegun,fun h => absurd rfl h⟩)
  | receiptFailed _ _ hholds => exact .inr (.inr ⟨rfl,hholds⟩)
  | completed v pending _ _ hholds hr =>
    obtain ⟨hr,_⟩ | ⟨hr,_⟩ := hr
    · cases hr
      exact .inr (.inr ⟨rfl,hholds⟩)
    · cases hr

theorem StageEnd.of_ok {r : StagingReceipt} (h : StageEnd c d (.ok r) u) :
    r = fromCheckpoint c ∧ u.receipt = some r := by
  cases h with
  | replayed _ hr hmatches => exact ⟨matchesCheckpoint_iff.mp hmatches,hr⟩
  | completed v pending _ _ _ hr =>
    obtain ⟨hr,_⟩ | ⟨hr,_⟩ := hr
    · cases hr
    · cases hr
      exact ⟨rfl,rfl⟩

theorem StageAction.under_intent {a : Action} {slot : Slot} (ha : StageAction c a d)
    (h : a.Changes slot) : slot = c.targetSlot ∧ d.pending = some c ∧ d.receipt = none := by
  cases a with
  | truncate s => exact ⟨h ▸ ha.1,ha.2⟩
  | writeAt s position bytes => exact ⟨h ▸ ha.1,ha.2⟩
  | _ => exact h.elim

theorem fromAdmitted_validate (v : VerifiedUpdate) (target : PreopenedInactiveTarget) :
    (StagingCheckpoint.fromAdmitted v target).validate = .ok () := by
  have hsequence : isSafeNonzero v.sequence = true := v.valid.sequence
  simp only [isSafeNonzero, ne_eq, decide_not, Bool.and_eq_true, Bool.not_eq_true',
    decide_eq_false_iff_not, decide_eq_true_eq] at hsequence
  refine require_bind_eq_ok.mpr ⟨v.valid.releaseId,
    require_bind_eq_ok.mpr ⟨?_,require_eq_ok.mpr target.bound⟩⟩
  exact ⟨hsequence.1,hsequence.2,v.valid.size⟩

theorem StageCall.run_again {call : StageCall}
    (hauthorized : authorize call.update call.context call.updatesEntitled = .ok ())
    (hreceipt : d.receipt = some (fromCheckpoint call.checkpoint)) :
    call.run d = ⟨[],.ok (fromCheckpoint call.checkpoint),call.machine d⟩ := by
  have hmatches : (fromCheckpoint call.checkpoint).matchesCheckpoint
      (StagingCheckpoint.fromAdmitted call.update call.target) = true :=
    matchesCheckpoint_iff.mpr rfl
  have hfound : (call.machine d).device.receipt =
    some (fromCheckpoint call.checkpoint) := hreceipt
  simp only [StageCall.run, stage, hauthorized, fromAdmitted_validate, bind, Program.bind, lift,
    Program.read, hfound, Program.require, CrashLogic.require, hmatches, if_true, pure, Program.pure,
    List.append_nil]

/-- In every history of stage and release calls, with crashes at any action, a receipt in place
proves the bytes of its target, and a target changes only while the intent of its update is in place.
A failed call was refused before its first change of the target, or failed in the stream and left no
receipt and, unless the clean-up failed as well, no bytes in a regular target, or failed after the
target was verified. An authorised repetition answers from the receipt. -/
theorem receipts_prove_targets (targets : Slot → Target) (running : Slot) (bootId : String)
    (events : List StagerEvent) (call : StageCall) :
    let d := playStager (Device.start targets running bootId) events
    let o := call.run d
    let c := call.checkpoint
    (d.Truthful ∧ (∀ v ∈ o.visits, v.2.device.Truthful) ∧ o.final.device.Truthful) ∧
      (∀ v ∈ o.visits, ∀ slot, v.1.Changes slot →
        slot = c.targetSlot ∧ v.2.device.pending = some c ∧ v.2.device.receipt = none) ∧
      (∀ r, o.result = .ok r →
        r = StagingReceipt.fromCheckpoint c ∧ o.final.device.receipt = some r) ∧
      (∀ e, o.result = .error e →
        (o.final.device.targets = d.targets ∧ o.final.device.receipt = d.receipt) ∨
        (o.final.device.receipt = none ∧ (e ≠ .cleanupFailed →
          (o.final.device.targets c.targetSlot).regular = true →
          (o.final.device.targets c.targetSlot).bytes = [])) ∨
        (e = .io ∧ (o.final.device.targets c.targetSlot).Holds c.artifactSizeBytes c.artifactSha256)) ∧
      (d.receipt = some (StagingReceipt.fromCheckpoint c) →
        authorize call.update call.context call.updatesEntitled = .ok () → ∀ source,
        StageCall.run { call with source := source } d =
          ⟨[],.ok (StagingReceipt.fromCheckpoint c),call.machine d⟩) := by
  intro d o c
  have hd : d.Truthful := playStager_truthful (start_truthful targets running bootId) events
  obtain ⟨hvisits,hend,hfinal⟩ := meets_stage_truthful hd call (call.machine d) rfl
  refine ⟨⟨hd,fun v hv => (hvisits v hv).2,hfinal⟩,?_,?_,?_,?_⟩
  · intro v hv slot hchanges
    exact (hvisits v hv).1.under_intent hchanges
  · intro r hr
    exact (hr ▸ hend : StageEnd call.checkpoint d (.ok r) _).of_ok
  · intro e he
    exact (he ▸ hend : StageEnd call.checkpoint d (.error e) _).of_error
  · intro hreceipt hauthorized source
    exact @StageCall.run_again _ d { call with source := source } hauthorized hreceipt

end Histories

namespace UpdateSample

def device : Device := Device.start (fun _ => ⟨true,[1],true⟩) .A "a"

end UpdateSample

namespace StagingSample

open UpdateSample

def call : StageCall :=
  { update := first
    context := context
    updatesEntitled := true
    source := ⟨[7],[]⟩
    target := ⟨.A,.B,rfl⟩
    faults := List.replicate 9 .none ++ [.fails]
    destination := [] }

def refused : Outcome Action Machine StagingError StagingReceipt :=
  StageCall.run { call with updatesEntitled := false } device

/-- A refused call leaves the bytes of a regular target, and a call that fails to remove the intent
leaves its receipt. -/
theorem failed_calls_leave_bytes_and_receipts :
    (refused.result = .error .updatesNotEntitled ∧ (refused.final.device.targets .B).regular = true ∧
      (refused.final.device.targets .B).bytes = [1]) ∧
    ((call.run device).result = .error .io ∧ device.receipt = none ∧
      (call.run device).final.device.receipt =
        some (StagingReceipt.fromCheckpoint call.checkpoint)) := by
  refine ⟨⟨?_,?_,?_⟩,?_,?_,?_⟩ <;> rfl

end StagingSample

end KernAid.Update
