import KernAid.Update.StagingSteps

/-! The boot activation journal and engine (`fleet-resident-update/src/activation.rs`). -/

set_option autoImplicit false

namespace KernAid.Update

open CrashLogic Program

/-- The failures of the boot adapter are one constructor. -/
inductive ActivationError where
  | journalConflict
  | bindingMismatch
  | stagingUnavailable
  | bootObservationInvalid
  | unexpectedBootSlot
  | bootSelectorFailed
  | nothingToRollback
  | staging (error : StagingError)
deriving DecidableEq, Repr

inductive ReconcileOutcome where
  | idle
  | trialArmed
  | waitingForReboot
  | succeeded
  | fellBack
  | rollbackArmed
  | rolledBack
deriving DecidableEq, Repr

def MAX_BOOT_ID_BYTES : Nat := 64

def isBootIdChar (c : Char) : Bool :=
  c.isDigit || ('a' ≤ c && c ≤ 'f') || ('A' ≤ c && c ≤ 'F') || c == '-'

def validBootId (value : String) : Bool :=
  !value.isEmpty && value.utf8ByteSize ≤ MAX_BOOT_ID_BYTES && value.toList.all isBootIdChar

section Binding

variable [UpdateHash]

/-- The candidate of a receipt that belongs to the admitted update. -/
def BootActivationCandidate.derive (u : VerifiedUpdate) (receipt : StagingReceipt) :
    Except ActivationError BootActivationCandidate := do
  CrashLogic.require (receipt.releaseId = u.releaseId ∧ receipt.sequence = u.sequence ∧
    receipt.artifactSizeBytes = u.artifact.sizeBytes ∧ receipt.artifactSha256 = u.artifact.sha256)
    .bindingMismatch
  pure
    { releaseId := u.releaseId
      sequence := u.sequence
      manifestSha256 := u.manifestSha256
      artifactSha256 := u.artifact.sha256
      stagingReceiptSha256 := UpdateHash.receiptSha256 receipt
      knownGoodSlot := receipt.targetSlot.inactive
      targetSlot := receipt.targetSlot
      identified := u.valid.releaseId
      numbered := by
        have h := u.valid.sequence
        simp only [isSafeNonzero, Bool.and_eq_true, decide_eq_true_eq] at h
        exact h.1
      opposite := Slot.inactive_inactive _ }

def BootActivationCandidate.matchesStaging (candidate : BootActivationCandidate)
    (receipt : StagingReceipt) : Bool :=
  receipt.releaseId == candidate.releaseId && receipt.sequence == candidate.sequence &&
    receipt.targetSlot == candidate.targetSlot &&
    receipt.artifactSha256 == candidate.artifactSha256 &&
    UpdateHash.receiptSha256 receipt == candidate.stagingReceiptSha256

end Binding

/-! The journal. -/

def persistCandidate (candidate : BootActivationCandidate) : Op ActivationError Unit := do
  let m ← read
  match m.device.candidate with
  | some existing => Program.require (existing = candidate) .journalConflict
  | none => do
    Program.require (m.device.activation = none) .journalConflict
    Op.act (.writeCandidate candidate)

def persistState (previous : Option DurableActivationState) (next : DurableActivationState) :
    Op ActivationError Unit := do
  let m ← read
  Program.require (m.device.activation = previous) .journalConflict
  Op.act (.writeState next)

def archiveTerminalReceipt (receipt : BootActivationReceipt) : Op ActivationError Unit := do
  let m ← read
  match m.device.receiptArchive receipt.name with
  | some existing => Program.require (existing = receipt) .journalConflict
  | none => Op.act (.archiveReceipt receipt)

def replaceLastReceipt (receipt : BootActivationReceipt) : Op ActivationError Unit := do
  let m ← read
  if m.device.lastReceipt = some receipt then pure () else Op.act (.writeLastReceipt receipt)

def persistTerminalReceipt (receipt : BootActivationReceipt) : Op ActivationError Unit := do
  archiveTerminalReceipt receipt
  replaceLastReceipt receipt

def copyAudit (name : AuditName) (audit : SignedUpdateAuditReceipt) : Op ActivationError Unit := do
  let m ← read
  match m.device.auditArchive name with
  | some existing => Program.require (existing = audit) .journalConflict
  | none => Op.act (.archiveAudit name audit)

def archiveStagingAudit (candidate : BootActivationCandidate) : Op ActivationError Unit := do
  let m ← read
  match m.device.audit with
  | none => pure ()
  | some audit => do
    copyAudit candidate.auditName audit
    Op.act .removeAudit

/-- One call of the boot selector; it is made whether or not it succeeds. -/
def select (a : Action) : Op ActivationError Unit := do
  Op.act a
  let m ← read
  update fun m => { m with selector := m.selector.tail }
  Program.require (m.selector.headD true = true) .bootSelectorFailed

/-! The engine. -/

section Engine

variable [UpdateHash]

def recoveryStatus : Op ActivationError StagingRecovery := do
  let m ← read
  lift (m.device.recoveryStatus.mapError .staging)

def requireStaging (candidate : BootActivationCandidate) : Op ActivationError Unit := do
  let status ← recoveryStatus
  match status with
  | .completed receipt =>
    Program.require (candidate.matchesStaging receipt = true) .bindingMismatch
  | _ => fail .stagingUnavailable

/-- A receipt that an earlier attempt may already have released. -/
def releaseStaging (receipt : BootActivationReceipt) : Op ActivationError Unit := do
  let status ← recoveryStatus
  match status with
  | .completed staging => do
    Program.require (receipt.candidate.matchesStaging staging = true) .bindingMismatch
    mapError .staging (clearCompleted staging)
  | .clean =>
    if receipt.outcome = .rolledBack then pure () else do
      let m ← read
      let retained ← lift (okOr m.device.lastReceipt .stagingUnavailable)
      Program.require (retained = receipt) .bindingMismatch
  | .interrupted _ => fail .stagingUnavailable

def finalize (state : DurableActivationState) (outcome : ActivationOutcome) (bootId : String) :
    Op ActivationError Unit := do
  let receipt : BootActivationReceipt := ⟨state.candidate,outcome,bootId⟩
  persistTerminalReceipt receipt
  archiveStagingAudit state.candidate
  releaseStaging receipt
  Op.act .removeCandidate
  Op.act .removeState

def DurableActivationState.withPhase (state : DurableActivationState) (phase : ActivationPhase)
    (bootId : String) : DurableActivationState :=
  { state with
    phase := phase
    transitionBootId := bootId }

/-! The phases of the loop in `reconcile`; where the loop continues with another phase, its function
is called. -/

def finalizeSucceeded (state : DurableActivationState) (bootId : String) :
    Op ActivationError ReconcileOutcome := do
  finalize state .succeeded bootId
  pure .succeeded

def finalizeFallback (state : DurableActivationState) (bootId : String) :
    Op ActivationError ReconcileOutcome := do
  finalize state .fellBack bootId
  pure .fellBack

def finalizeRolledBack (state : DurableActivationState) (bootId : String) :
    Op ActivationError ReconcileOutcome := do
  finalize state .rolledBack bootId
  pure .rolledBack

def promotePrepared (state : DurableActivationState) (currentSlot : Slot) (bootId : String) :
    Op ActivationError ReconcileOutcome := do
  requireStaging state.candidate
  Program.require (currentSlot = state.candidate.targetSlot) .unexpectedBootSlot
  select (.promote state.candidate.targetSlot)
  persistState (some state) (state.withPhase .finalizeSucceeded bootId)
  finalizeSucceeded (state.withPhase .finalizeSucceeded bootId) bootId

/-- The boot after a trial was prepared: promotion in the target, fallback in the known-good slot. -/
def observeTrial (state : DurableActivationState) (currentSlot : Slot) (bootId : String) :
    Op ActivationError ReconcileOutcome :=
  if currentSlot = state.candidate.targetSlot then do
    persistState (some state) (state.withPhase .promotePrepared bootId)
    promotePrepared (state.withPhase .promotePrepared bootId) currentSlot bootId
  else if currentSlot = state.candidate.knownGoodSlot then do
    persistState (some state) (state.withPhase .finalizeFallback bootId)
    finalizeFallback (state.withPhase .finalizeFallback bootId) bootId
  else fail .unexpectedBootSlot

def armed (state : DurableActivationState) (currentSlot : Slot) (bootId : String) :
    Op ActivationError ReconcileOutcome := do
  requireStaging state.candidate
  if bootId = state.transitionBootId then pure .waitingForReboot
  else observeTrial state currentSlot bootId

def prepared (state : DurableActivationState) (currentSlot : Slot) (bootId : String) :
    Op ActivationError ReconcileOutcome := do
  requireStaging state.candidate
  select (.preflight state.candidate.knownGoodSlot state.candidate.targetSlot)
  if bootId ≠ state.transitionBootId then observeTrial state currentSlot bootId else do
    Program.require (currentSlot = state.candidate.knownGoodSlot) .unexpectedBootSlot
    select (.armTrial state.candidate.knownGoodSlot state.candidate.targetSlot)
    persistState (some state) (state.withPhase .armed bootId)
    pure .trialArmed

def rollbackArmed (state : DurableActivationState) (currentSlot : Slot) (bootId : String) :
    Op ActivationError ReconcileOutcome :=
  if currentSlot = state.candidate.knownGoodSlot then do
    persistState (some state) (state.withPhase .finalizeRolledBack bootId)
    finalizeRolledBack (state.withPhase .finalizeRolledBack bootId) bootId
  else if bootId = state.transitionBootId ∧ currentSlot = state.candidate.targetSlot then
    pure .waitingForReboot
  else fail .unexpectedBootSlot

def rollbackPrepared (state : DurableActivationState) (currentSlot : Slot) (bootId : String) :
    Op ActivationError ReconcileOutcome := do
  select (.preflight state.candidate.knownGoodSlot state.candidate.targetSlot)
  select (.armRollback state.candidate.knownGoodSlot)
  persistState (some state) (state.withPhase .rollbackArmed bootId)
  if currentSlot = state.candidate.knownGoodSlot then
    rollbackArmed (state.withPhase .rollbackArmed bootId) currentSlot bootId
  else pure .rollbackArmed

def resume (state : DurableActivationState) (currentSlot : Slot) (bootId : String) :
    Op ActivationError ReconcileOutcome :=
  match state.phase with
  | .prepared => prepared state currentSlot bootId
  | .armed => armed state currentSlot bootId
  | .promotePrepared => promotePrepared state currentSlot bootId
  | .rollbackPrepared => rollbackPrepared state currentSlot bootId
  | .rollbackArmed => rollbackArmed state currentSlot bootId
  | .finalizeSucceeded => finalizeSucceeded state bootId
  | .finalizeFallback => finalizeFallback state bootId
  | .finalizeRolledBack => finalizeRolledBack state bootId

/-- A candidate in its known-good slot becomes a prepared activation. -/
def prepareCandidate (candidate : BootActivationCandidate) (currentSlot : Slot) (bootId : String) :
    Op ActivationError ReconcileOutcome := do
  requireStaging candidate
  Program.require (currentSlot = candidate.knownGoodSlot) .unexpectedBootSlot
  select (.preflight candidate.knownGoodSlot candidate.targetSlot)
  persistState none ⟨candidate,.prepared,bootId⟩
  prepared ⟨candidate,.prepared,bootId⟩ currentSlot bootId

def reconcile (currentSlot : Slot) (bootId : String) : Op ActivationError ReconcileOutcome := do
  Program.require (validBootId bootId = true) .bootObservationInvalid
  let m ← read
  match m.device.activation with
  | some state => resume state currentSlot bootId
  | none =>
    match m.device.candidate with
    | none => pure .idle
    | some candidate => prepareCandidate candidate currentSlot bootId

/-- The candidate a rollback is about: the journaled one, or the one of the last success. -/
def rollbackCandidate (d : Device) : Except ActivationError BootActivationCandidate :=
  match d.activation with
  | some state => .ok state.candidate
  | none => do
    let receipt ← okOr d.lastReceipt .nothingToRollback
    CrashLogic.require (receipt.outcome = .succeeded) .nothingToRollback
    pure receipt.candidate

def rollback (currentSlot : Slot) (bootId : String) : Op ActivationError ReconcileOutcome := do
  Program.require (validBootId bootId = true) .bootObservationInvalid
  let m ← read
  let candidate ← lift (rollbackCandidate m.device)
  Program.require (currentSlot = candidate.knownGoodSlot ∨ currentSlot = candidate.targetSlot)
    .unexpectedBootSlot
  select (.preflight candidate.knownGoodSlot candidate.targetSlot)
  persistState m.device.activation ⟨candidate,.rollbackPrepared,bootId⟩
  reconcile currentSlot bootId

end Engine

end KernAid.Update
