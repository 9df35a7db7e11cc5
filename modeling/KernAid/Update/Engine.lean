import KernAid.Update.Activation

/-! The resident update cycle, and the histories of one device (`fleet-resident-update/src/lib.rs`). -/

set_option autoImplicit false

namespace KernAid.Update

open CrashLogic Program

/-- Failures of the pull before a list of verified manifests is there. -/
inductive PullError where
  | transport
  | httpRejected
  | pullResponseTooLarge
  | pullResponse
deriving DecidableEq, Repr

inductive ResidentUpdateError where
  | invalidContext
  | updatesNotEntitled
  | responseNotEligible (availability : Availability)
  | responseConflict
  | stateCorrupt
  | pull (error : PullError)
  | transport
  | update (error : UpdateError)
  | staging (error : StagingError)
  | activation (error : ActivationError)
deriving DecidableEq, Repr

structure ResidentIdentity where
  tenantId : String
  deviceId : String

structure UpdateCycleInput where
  issuedAt : String
  nowUnix : Nat
  nonce : List UInt8
  platform : UpdatePlatform
  architecture : UpdateArchitecture
  updateRing : UpdateRing
  updatesEntitled : Bool

/-- One update cycle: its input, the verified answer to its pull, the artifact download, and the
behaviour of the stager's calls. -/
structure CycleCall where
  input : UpdateCycleInput
  pull : Except PullError (List VerifiedUpdate)
  download : Except Unit Reader
  faults : List Fault
  destination : List ReadStep

inductive UpdateCycleOutcome where
  | noUpdate
  | staged (receipt : SignedUpdateAuditReceipt)
  | alreadyStaged (receipt : SignedUpdateAuditReceipt)
deriving DecidableEq

/-- `validate_cycle_input`; the timestamp is formatted by the caller from its clock. -/
def UpdateCycleInput.valid (input : UpdateCycleInput) : Bool :=
  isSafeNonzero input.nowUnix && 16 ≤ input.nonce.length && input.nonce.length ≤ 64

section Cycle

variable [UpdateHash]

def requireEligible (context : UpdateContext) (u : VerifiedUpdate) :
    Except ResidentUpdateError Unit :=
  CrashLogic.require (u.availability context = .eligible)
    (.responseNotEligible (u.availability context))

def selectUpdate (updates : List VerifiedUpdate) (context : UpdateContext) :
    Except ResidentUpdateError (Option VerifiedUpdate) := do
  updates.forM (requireEligible context)
  match (updates.mergeSort fun a b => a.sequence ≤ b.sequence).reverse with
  | [] => pure none
  | [last] => pure (some last)
  | last :: previous :: _ => do
    CrashLogic.require (¬ (previous.sequence = last.sequence ∧
      previous.manifestSha256 ≠ last.manifestSha256)) .responseConflict
    pure (some last)

def persistCheckpoint (previous : Option UpdateCheckpoint) (next : UpdateCheckpoint) :
    Op ResidentUpdateError Unit := do
  let m ← read
  Program.require (m.device.checkpoint = previous) .stateCorrupt
  if m.device.checkpoint = some next then pure () else Op.act (.writeCheckpoint next)

def persistAuditReceipt (receipt : SignedUpdateAuditReceipt) : Op ResidentUpdateError Unit := do
  let m ← read
  match m.device.audit with
  | some existing => Program.require (existing = receipt) .stateCorrupt
  | none => Op.act (.writeAudit receipt)

def SignedUpdateAuditReceipt.sign (identity : ResidentIdentity) (u : VerifiedUpdate)
    (receipt : StagingReceipt) (stagedAt : String) : SignedUpdateAuditReceipt :=
  { tenantId := identity.tenantId
    deviceId := identity.deviceId
    releaseId := u.releaseId
    sequence := u.sequence
    manifestSha256 := u.manifestSha256
    artifactSha256 := u.artifact.sha256
    stagingReceiptSha256 := UpdateHash.receiptSha256 receipt
    stagedAt := stagedAt
    activeSlot := receipt.targetSlot.inactive
    targetSlot := receipt.targetSlot }

def verifyCompletedReceipt (receipt : SignedUpdateAuditReceipt) : Op ResidentUpdateError Unit := do
  let m ← read
  let status ← lift (m.device.recoveryStatus.mapError .staging)
  match status with
  | .completed staging =>
    Program.require (staging.releaseId = receipt.releaseId ∧ staging.sequence = receipt.sequence ∧
      staging.targetSlot = receipt.targetSlot ∧
      UpdateHash.receiptSha256 staging = receipt.stagingReceiptSha256) .stateCorrupt
  | _ => fail .stateCorrupt

def UpdateCycleInput.context (input : UpdateCycleInput) (identity : ResidentIdentity) :
    UpdateContext :=
  { deviceId := identity.deviceId
    platform := input.platform
    architecture := input.architecture
    updateRing := input.updateRing
    nowUnix := input.nowUnix }

/-- A completed stage is answered from its receipt; anything else needs the artifact. -/
def stageSelected (identity : ResidentIdentity) (call : CycleCall) (u : VerifiedUpdate)
    (target : PreopenedInactiveTarget) : Op ResidentUpdateError StagingReceipt := do
  let m ← read
  let status ← lift (m.device.recoveryStatus.mapError .staging)
  match status with
  | .completed _ =>
    mapError .staging (stage u (call.input.context identity) call.input.updatesEntitled ⟨[],[]⟩ target)
  | _ => do
    let source ← lift (call.download.mapError fun _ => .transport)
    mapError .staging (stage u (call.input.context identity) call.input.updatesEntitled source target)

/-- The cycle of the selected manifest, from its admission on. -/
def admitAndStage (identity : ResidentIdentity) (call : CycleCall) (u : VerifiedUpdate)
    (target : PreopenedInactiveTarget) : Op ResidentUpdateError UpdateCycleOutcome := do
  let m ← read
  let admission ← lift ((admitUpdate m.device.checkpoint u).mapError .update)
  persistCheckpoint m.device.checkpoint admission.nextCheckpoint
  let receipt ← stageSelected identity call u target
  let candidate ← lift ((BootActivationCandidate.derive u receipt).mapError .activation)
  mapError .activation (persistCandidate candidate)
  persistAuditReceipt (.sign identity u receipt call.input.issuedAt)
  pure (.staged (.sign identity u receipt call.input.issuedAt))

def runOnce (identity : ResidentIdentity) (call : CycleCall) (target : PreopenedInactiveTarget) :
    Op ResidentUpdateError UpdateCycleOutcome := do
  Program.require (call.input.valid = true) .invalidContext
  let m ← read
  match m.device.audit with
  | some receipt => do
    verifyCompletedReceipt receipt
    pure (.alreadyStaged receipt)
  | none => do
    Program.require (call.input.updatesEntitled = true) .updatesNotEntitled
    let updates ← lift (call.pull.mapError .pull)
    let selected ← lift (selectUpdate updates (call.input.context identity))
    match selected with
    | none => pure .noUpdate
    | some u => admitAndStage identity call u target

end Cycle

/-! Histories. The A/B adapter opens the slot opposite to the running one, and a boot id is valid. -/

def BootId : Type := { id : String // validBootId id = true }

/-- What happens next on the device. -/
inductive Event where
  | cycle (call : CycleCall) (crash : Option Crash)
  | reconcile (selector : List Bool) (crash : Option Crash)
  | rollback (selector : List Bool) (crash : Option Crash)
  | reboot (slot : Slot) (boot : BootId) (lost : Slot → List UInt8)

def Device.inactiveTarget (d : Device) : PreopenedInactiveTarget := ⟨d.running,d.running.inactive,rfl⟩

def Device.reboot (d : Device) (slot : Slot) (boot : BootId) (lost : Slot → List UInt8) : Device :=
  { d.settle lost with
    running := slot
    bootId := boot.val
    boots := boot.val :: d.boots
    intact := Function.update d.intact slot true }

def CycleCall.machine (call : CycleCall) (d : Device) : Machine :=
  { device := d, faults := call.faults, destination := call.destination, selector := [] }

def activatorMachine (selector : List Bool) (d : Device) : Machine :=
  { device := d, faults := [], destination := [], selector := selector }

section Histories

variable [UpdateHash] (identity : ResidentIdentity)

def CycleCall.run (call : CycleCall) (d : Device) :
    Outcome Action Machine ResidentUpdateError UpdateCycleOutcome :=
  runOnce identity call d.inactiveTarget (call.machine d)

def reconcileRun (selector : List Bool) (d : Device) :
    Outcome Action Machine ActivationError ReconcileOutcome :=
  reconcile d.running d.bootId (activatorMachine selector d)

def rollbackRun (selector : List Bool) (d : Device) :
    Outcome Action Machine ActivationError ReconcileOutcome :=
  rollback d.running d.bootId (activatorMachine selector d)

def Event.after (d : Device) : Event → Device
  | .cycle call crash => survivor (call.run identity d) crash
  | .reconcile selector crash => survivor (reconcileRun selector d) crash
  | .rollback selector crash => survivor (rollbackRun selector d) crash
  | .reboot slot boot lost => d.reboot slot boot lost

def Event.visits (d : Device) : Event → List (Action × Machine)
  | .cycle call _ => (call.run identity d).visits
  | .reconcile selector _ => (reconcileRun selector d).visits
  | .rollback selector _ => (rollbackRun selector d).visits
  | .reboot _ _ _ => []

def playEvents (d : Device) (events : List Event) : Device := events.foldl (Event.after identity) d

def Event.Fresh (d : Device) : Event → Prop
  | .reboot _ boot _ => boot.val ∉ d.boots
  | _ => True

/-- Every event of the run meets `allowed` where it happens. -/
def RunOf (allowed : Device → Event → Prop) : Device → List Event → Prop
  | _, [] => True
  | d, event :: events => allowed d event ∧ RunOf allowed (event.after identity d) events

end Histories

end KernAid.Update
