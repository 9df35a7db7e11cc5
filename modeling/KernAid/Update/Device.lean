import KernAid.Update.Manifests

/-! The files, slots and boots of one device, and the atomic actions that are taken on them. -/

set_option autoImplicit false

namespace KernAid.Update

open CrashLogic

/-- Durable intent written before any destination byte is changed. -/
structure StagingCheckpoint where
  releaseId : String
  sequence : Nat
  manifestSha256 : Digest
  artifactSizeBytes : Nat
  artifactSha256 : Digest
  activeSlot : Slot
  targetSlot : Slot
deriving DecidableEq

/-- Path-free activation candidate, taken from the admitted manifest and the staging receipt. The
last three fields are its `validate`, which every reader and writer of the source repeats. -/
structure BootActivationCandidate where
  releaseId : String
  sequence : Nat
  manifestSha256 : Digest
  artifactSha256 : Digest
  stagingReceiptSha256 : Digest
  knownGoodSlot : Slot
  targetSlot : Slot
  identified : isIdentifier releaseId = true
  numbered : sequence ≠ 0
  opposite : knownGoodSlot.inactive = targetSlot
deriving DecidableEq

inductive ActivationPhase where
  | prepared
  | armed
  | promotePrepared
  | rollbackPrepared
  | rollbackArmed
  | finalizeSucceeded
  | finalizeFallback
  | finalizeRolledBack
deriving DecidableEq, Repr

structure DurableActivationState where
  candidate : BootActivationCandidate
  phase : ActivationPhase
  transitionBootId : String
deriving DecidableEq

inductive ActivationOutcome where
  | succeeded
  | fellBack
  | rolledBack
deriving DecidableEq, Repr

structure BootActivationReceipt where
  candidate : BootActivationCandidate
  outcome : ActivationOutcome
  terminalBootId : String
deriving DecidableEq

/-- The device-signed audit proof of a staged update; schema, constant fields and signature are left
out. -/
structure SignedUpdateAuditReceipt where
  tenantId : String
  deviceId : String
  releaseId : String
  sequence : Nat
  manifestSha256 : Digest
  artifactSha256 : Digest
  stagingReceiptSha256 : Digest
  stagedAt : String
  activeSlot : Slot
  targetSlot : Slot
deriving DecidableEq

def Digest.shortName (d : Digest) : BitVec 64 := d.extractLsb' 192 64

/-- `boot-activation-receipt-<sequence>-<digest>-<outcome>.cjson`. -/
structure ReceiptName where
  sequence : Nat
  manifest : BitVec 64
  outcome : ActivationOutcome
deriving DecidableEq

/-- `update-audit-receipt-<sequence>-<digest>.cjson`. -/
structure AuditName where
  sequence : Nat
  manifest : BitVec 64
deriving DecidableEq

def BootActivationCandidate.receiptName (candidate : BootActivationCandidate)
    (outcome : ActivationOutcome) : ReceiptName :=
  ⟨candidate.sequence,candidate.manifestSha256.shortName,outcome⟩

def BootActivationCandidate.auditName (candidate : BootActivationCandidate) : AuditName :=
  ⟨candidate.sequence,candidate.manifestSha256.shortName⟩

/-- The target of one slot: a regular file or a block device, and whether all of it is synced. -/
structure Target where
  regular : Bool
  bytes : List UInt8
  synced : Bool

/-- One device. The last three fields are history variables that no modelled function reads:
`intact s` holds while slot `s` has not been written since it last ran, `admitted` lists the
checkpoints written, `prepared` the trials prepared with the boot that prepared them. -/
structure Device where
  checkpoint : Option UpdateCheckpoint
  audit : Option SignedUpdateAuditReceipt
  pending : Option StagingCheckpoint
  receipt : Option StagingReceipt
  candidate : Option BootActivationCandidate
  activation : Option DurableActivationState
  lastReceipt : Option BootActivationReceipt
  receiptArchive : ReceiptName → Option BootActivationReceipt
  auditArchive : AuditName → Option SignedUpdateAuditReceipt
  targets : Slot → Target
  running : Slot
  bootId : String
  boots : List String
  intact : Slot → Bool
  admitted : List UpdateCheckpoint
  prepared : List (BootActivationCandidate × String)

/-- Every durable step: one file written or removed, one change of a target, one call of the boot
selector. -/
inductive Action where
  | writeCheckpoint (checkpoint : UpdateCheckpoint)
  | writePending (checkpoint : StagingCheckpoint)
  | removePending
  | writeReceipt (receipt : StagingReceipt)
  | removeReceipt
  | truncate (slot : Slot)
  | writeAt (slot : Slot) (position : Nat) (bytes : List UInt8)
  | sync (slot : Slot)
  | writeCandidate (candidate : BootActivationCandidate)
  | removeCandidate
  | writeState (state : DurableActivationState)
  | removeState
  | archiveReceipt (receipt : BootActivationReceipt)
  | writeLastReceipt (receipt : BootActivationReceipt)
  | archiveAudit (name : AuditName) (audit : SignedUpdateAuditReceipt)
  | writeAudit (audit : SignedUpdateAuditReceipt)
  | removeAudit
  | preflight (knownGood target : Slot)
  | armTrial (knownGood target : Slot)
  | promote (target : Slot)
  | armRollback (knownGood : Slot)

def BootActivationReceipt.name (receipt : BootActivationReceipt) : ReceiptName :=
  receipt.candidate.receiptName receipt.outcome

def Device.rewrite (d : Device) (slot : Slot) (target : Target) : Device :=
  { d with
    targets := Function.update d.targets slot target
    intact := Function.update d.intact slot false }

def overwrite (content : List UInt8) (position : Nat) (bytes : List UInt8) : List UInt8 :=
  content.take position ++ bytes ++ content.drop (position + bytes.length)

def Action.effect : Action → Device → Device
  | .writeCheckpoint checkpoint, d =>
    { d with
      checkpoint := some checkpoint
      admitted := checkpoint :: d.admitted }
  | .writePending checkpoint, d => { d with pending := some checkpoint }
  | .removePending, d => { d with pending := none }
  | .writeReceipt receipt, d => { d with receipt := some receipt }
  | .removeReceipt, d => { d with receipt := none }
  | .truncate slot, d =>
    d.rewrite slot { d.targets slot with
      bytes := []
      synced := false }
  | .writeAt slot position bytes, d =>
    d.rewrite slot { d.targets slot with
      bytes := overwrite (d.targets slot).bytes position bytes
      synced := false }
  | .sync slot, d =>
    { d with targets := Function.update d.targets slot { d.targets slot with synced := true } }
  | .writeCandidate candidate, d => { d with candidate := some candidate }
  | .removeCandidate, d => { d with candidate := none }
  | .writeState state, d =>
    { d with
      activation := some state
      prepared := if state.phase = .prepared then
          (state.candidate,state.transitionBootId) :: d.prepared else d.prepared }
  | .removeState, d => { d with activation := none }
  | .archiveReceipt receipt, d =>
    { d with receiptArchive := Function.update d.receiptArchive receipt.name (some receipt) }
  | .writeLastReceipt receipt, d => { d with lastReceipt := some receipt }
  | .archiveAudit name audit, d =>
    { d with auditArchive := Function.update d.auditArchive name (some audit) }
  | .writeAudit audit, d => { d with audit := some audit }
  | .removeAudit, d => { d with audit := none }
  | .preflight _ _, d => d
  | .armTrial _ _, d => d
  | .promote _, d => d
  | .armRollback _, d => d

/-- How one input or output call of the stager behaves: it succeeds, fails without effect, stops a
write after some bytes, or takes effect and still reports a failure. -/
inductive Fault where
  | none
  | fails
  | partway (written : Nat)
  | late
deriving DecidableEq

/-- How one `read` call behaves: at most `n + 1` bytes, a signal, or an error. -/
inductive ReadStep where
  | upTo (n : Nat)
  | interrupted
  | fails
deriving DecidableEq

/-- The device and what the environment does during one call: the faults of the stager's calls, the
reads of the written target, and whether each selector call succeeds. A crash keeps the device only.
Where a list has ended, calls succeed and reads are as long as wanted. -/
structure Machine where
  device : Device
  faults : List Fault
  destination : List ReadStep
  selector : List Bool

def Action.perform (a : Action) (m : Machine) : Machine := { m with device := a.effect m.device }

@[simp] theorem Action.perform_device (a : Action) (m : Machine) :
    (a.perform m).device = a.effect m.device := rfl

abbrev Op (ε α : Type) : Type := Program Action Machine ε α

def Op.act {ε : Type} (a : Action) : Op ε Unit := Program.act Action.perform a

/-- A device before its first update cycle, with any contents in its slots. -/
def Device.start (targets : Slot → Target) (running : Slot) (bootId : String) : Device :=
  { checkpoint := none
    audit := none
    pending := none
    receipt := none
    candidate := none
    activation := none
    lastReceipt := none
    receiptArchive := fun _ => none
    auditArchive := fun _ => none
    targets := targets
    running := running
    bootId := bootId
    boots := [bootId]
    intact := fun slot => slot = running
    admitted := []
    prepared := [] }

/-- Target bytes that were never synced may be anything after a loss of power. -/
def Device.settle (d : Device) (lost : Slot → List UInt8) : Device :=
  { d with
    targets := fun slot => if (d.targets slot).synced then d.targets slot else
      { d.targets slot with
        bytes := lost slot
        synced := true } }

/-- A crash before the action number `point` of a call, or after its last one. -/
structure Crash where
  point : Nat
  lost : Slot → List UInt8

def survivor {ε α : Type} (o : Outcome Action Machine ε α) : Option Crash → Device
  | none => o.final.device
  | some crash =>
    (((o.visits.map fun v => v.2.device)[crash.point]?).getD o.final.device).settle crash.lost

theorem survivor_of {ε α : Type} {o : Outcome Action Machine ε α} {inv : Device → Prop}
    (hvisits : ∀ v ∈ o.visits, inv v.2.device) (hfinal : inv o.final.device)
    (hsettle : ∀ d lost, inv d → inv (d.settle lost)) (crash : Option Crash) :
    inv (survivor o crash) := by
  cases crash with
  | none => exact hfinal
  | some crash =>
    refine hsettle _ _ ?_
    cases h : (o.visits.map fun v => v.2.device)[crash.point]? with
    | none => exact hfinal
    | some d =>
      obtain ⟨v,hv,rfl⟩ := List.mem_map.mp (List.mem_of_getElem? h)
      exact hvisits v hv

end KernAid.Update
