import KernAid.Update.Device

/-! The artifact stager (`update-client/src/staging.rs`). -/

set_option autoImplicit false

namespace KernAid.Update

open CrashLogic Program

inductive StagingError where
  | activeSlotRejected
  | unsupportedDestination
  | updatesNotEntitled
  | notEligible (availability : Availability)
  | sourceTruncated
  | sourceHasTrailingBytes
  | artifactDigestMismatch
  | destinationMismatch
  | journalConflict
  | invalidMetadata
  | receiptMismatch
  | cleanupFailed
  | update
  | io
deriving DecidableEq, Repr

def COPY_BUFFER_BYTES : Nat := 65536

/-- A destination opened by trusted platform code; the active slot is rejected when it is built. -/
structure PreopenedInactiveTarget where
  activeSlot : Slot
  targetSlot : Slot
  bound : targetSlot = activeSlot.inactive

/-- What a reader still delivers, and how its next reads behave. -/
structure Reader where
  content : List UInt8
  behaviour : List ReadStep

/-- Interrupted reads are repeated; any other result is handed on. -/
def readRetry (content : List UInt8) : List ReadStep → Nat → Except StagingError (List UInt8 × Reader)
  | [], wanted => .ok (content.take wanted,⟨content.drop wanted,[]⟩)
  | .interrupted :: rest, wanted => readRetry content rest wanted
  | .fails :: _, _ => .error .io
  | .upTo n :: rest, wanted =>
    .ok (content.take (min wanted (n + 1)),⟨content.drop (min wanted (n + 1)),rest⟩)

def Reader.read (reader : Reader) (wanted : Nat) : Except StagingError (List UInt8 × Reader) :=
  readRetry reader.content reader.behaviour wanted

/-- The rehash of the destination. Each round reads at least one byte, so `remaining` rounds are
enough. -/
def rehashLoop : Nat → Nat → Reader → List UInt8 → Except StagingError (List UInt8)
  | 0, _, _, hashed => .ok hashed
  | rounds + 1, remaining, reader, hashed =>
    if remaining = 0 then .ok hashed else do
      let (chunk,reader) ← reader.read (min remaining COPY_BUFFER_BYTES)
      CrashLogic.require (chunk ≠ []) .destinationMismatch
      rehashLoop rounds (remaining - chunk.length) reader (hashed ++ chunk)

def nextFault : Op StagingError Fault := do
  let m ← read
  update fun m => { m with faults := m.faults.tail }
  pure (m.faults.headD .none)

/-- A call that changes nothing on the device: a seek, a flush, a query of the length. -/
def query : Op StagingError Unit := do
  let fault ← nextFault
  Program.require (fault = .none) .io

def call (a : Action) : Op StagingError Unit := do
  let fault ← nextFault
  match fault with
  | .none => Op.act a
  | .late => do
    Op.act a
    fail .io
  | _ => fail .io

def writeAll (slot : Slot) (position : Nat) (bytes : List UInt8) : Op StagingError Unit := do
  let fault ← nextFault
  match fault with
  | .none => Op.act (.writeAt slot position bytes)
  | .fails => fail .io
  | .partway written => do
    Op.act (.writeAt slot position (bytes.take written))
    fail .io
  | .late => do
    Op.act (.writeAt slot position bytes)
    fail .io

def truncateRegular (slot : Slot) : Op StagingError Unit := do
  let m ← read
  if (m.device.targets slot).regular then call (.truncate slot) else pure ()

def PreopenedInactiveTarget.prepare (target : PreopenedInactiveTarget) : Op StagingError Unit := do
  Program.require (target.targetSlot = target.activeSlot.inactive) .activeSlotRejected
  truncateRegular target.targetSlot
  query

def PreopenedInactiveTarget.cleanupFailedWrite (target : PreopenedInactiveTarget) :
    Op StagingError Unit := do
  truncateRegular target.targetSlot
  query
  query
  call (.sync target.targetSlot)

section

variable [UpdateHash]

def StagingCheckpoint.fromAdmitted (u : VerifiedUpdate) (target : PreopenedInactiveTarget) :
    StagingCheckpoint :=
  { releaseId := u.releaseId
    sequence := u.sequence
    manifestSha256 := u.manifestSha256
    artifactSizeBytes := u.artifact.sizeBytes
    artifactSha256 := u.artifact.sha256
    activeSlot := target.activeSlot
    targetSlot := target.targetSlot }

end

def StagingCheckpoint.validate (c : StagingCheckpoint) : Except StagingError Unit := do
  CrashLogic.require (isIdentifier c.releaseId = true) .update
  CrashLogic.require (c.sequence ≠ 0 ∧ c.sequence ≤ MAX_SAFE_JSON_INTEGER ∧ c.artifactSizeBytes ≠ 0 ∧
    c.artifactSizeBytes ≤ MAX_ARTIFACT_BYTES ∧ c.artifactSizeBytes ≤ MAX_SAFE_JSON_INTEGER)
    .invalidMetadata
  CrashLogic.require (c.targetSlot = c.activeSlot.inactive) .activeSlotRejected

def StagingReceipt.fromCheckpoint (c : StagingCheckpoint) : StagingReceipt :=
  { releaseId := c.releaseId
    sequence := c.sequence
    manifestSha256 := c.manifestSha256
    artifactSizeBytes := c.artifactSizeBytes
    artifactSha256 := c.artifactSha256
    activeSlot := c.activeSlot
    targetSlot := c.targetSlot }

/-- `matches_checkpoint`: all fields but the schema agree. -/
def StagingReceipt.matchesCheckpoint (r : StagingReceipt) (c : StagingCheckpoint) : Bool :=
  r.releaseId == c.releaseId && r.sequence == c.sequence && r.manifestSha256 == c.manifestSha256 &&
    r.artifactSizeBytes == c.artifactSizeBytes && r.artifactSha256 == c.artifactSha256 &&
    r.activeSlot == c.activeSlot && r.targetSlot == c.targetSlot

inductive StagingRecovery where
  | clean
  | interrupted (checkpoint : StagingCheckpoint)
  | completed (receipt : StagingReceipt)
deriving DecidableEq

/-- What the staging directory says without touching the destination. -/
def Device.recoveryStatus (d : Device) : Except StagingError StagingRecovery :=
  match d.pending, d.receipt with
  | none, none => .ok .clean
  | some checkpoint, none => .ok (.interrupted checkpoint)
  | none, some receipt => .ok (.completed receipt)
  | some checkpoint, some receipt =>
    if receipt.matchesCheckpoint checkpoint then .ok (.completed receipt) else .error .invalidMetadata

section

variable [UpdateHash]

def authorize (u : VerifiedUpdate) (context : UpdateContext) (updatesEntitled : Bool) :
    Except StagingError Unit := do
  CrashLogic.require (updatesEntitled = true) .updatesNotEntitled
  CrashLogic.require (u.availability context = .eligible) (.notEligible (u.availability context))

/-- The copy into the target. Each round reads at least one byte, so `remaining` rounds are enough. -/
def copyLoop (slot : Slot) :
    Nat → Nat → Reader → List UInt8 → Op StagingError (List UInt8 × Reader)
  | 0, _, source, copied => pure (copied,source)
  | rounds + 1, remaining, source, copied =>
    if remaining = 0 then pure (copied,source) else do
      let (chunk,source) ← lift (source.read (min remaining COPY_BUFFER_BYTES))
      Program.require (chunk ≠ []) .sourceTruncated
      writeAll slot copied.length chunk
      copyLoop slot rounds (remaining - chunk.length) source (copied ++ chunk)

def checkLength (slot : Slot) (size : Nat) : Op StagingError Unit := do
  let m ← read
  if (m.device.targets slot).regular then do
    query
    Program.require ((m.device.targets slot).bytes.length = size) .destinationMismatch
  else pure ()

def rehash (slot : Slot) (size : Nat) (expected : Digest) : Op StagingError Unit := do
  query
  let m ← read
  let hashed ← lift (rehashLoop size size ⟨(m.device.targets slot).bytes,m.destination⟩ [])
  Program.require (UpdateHash.sha256 hashed = expected) .destinationMismatch

def stageExactStream (source : Reader) (target : PreopenedInactiveTarget)
    (checkpoint : StagingCheckpoint) : Op StagingError Unit := do
  target.prepare
  let (copied,source) ← copyLoop target.targetSlot checkpoint.artifactSizeBytes
    checkpoint.artifactSizeBytes source []
  let (trailing,_) ← lift (source.read 1)
  Program.require (trailing = []) .sourceHasTrailingBytes
  Program.require (UpdateHash.sha256 copied = checkpoint.artifactSha256) .artifactDigestMismatch
  query
  call (.sync target.targetSlot)
  checkLength target.targetSlot checkpoint.artifactSizeBytes
  rehash target.targetSlot checkpoint.artifactSizeBytes checkpoint.artifactSha256

/-- The intent of this update is in place, or another one is refused. -/
def recordIntent (expected : StagingCheckpoint) : Op StagingError Unit := do
  let m ← read
  match m.device.pending with
  | some checkpoint => Program.require (checkpoint = expected) .journalConflict
  | none => call (.writePending expected)

/-- A failed stream leaves a regular target empty, unless the clean-up fails too. -/
def streamOrCleanUp (source : Reader) (target : PreopenedInactiveTarget)
    (checkpoint : StagingCheckpoint) : Op StagingError Unit := do
  let staged ← attempt (stageExactStream source target checkpoint)
  match staged with
  | .ok _ => pure ()
  | .error error => do
    let cleaned ← attempt target.cleanupFailedWrite
    match cleaned with
    | .ok _ => fail error
    | .error _ => fail .cleanupFailed

/-- Streams exactly one admitted artifact to the inactive destination. -/
def stage (u : VerifiedUpdate) (context : UpdateContext) (updatesEntitled : Bool) (source : Reader)
    (target : PreopenedInactiveTarget) : Op StagingError StagingReceipt := do
  lift (authorize u context updatesEntitled)
  let expected := StagingCheckpoint.fromAdmitted u target
  lift expected.validate
  let m ← read
  match m.device.receipt with
  | some receipt => do
    Program.require (receipt.matchesCheckpoint expected = true) .journalConflict
    pure receipt
  | none => do
    recordIntent expected
    streamOrCleanUp source target expected
    call (.writeReceipt (StagingReceipt.fromCheckpoint expected))
    call .removePending
    pure (StagingReceipt.fromCheckpoint expected)

end

/-- `remove_metadata` of a file that may be missing. -/
def removePendingIfAny : Op StagingError Unit := do
  let m ← read
  match m.device.pending with
  | some _ => Op.act .removePending
  | none => pure ()

/-- Removes a completed receipt; exact receipt matching is required. A removal that fails ends the
call where it stands, as a crash before or after it does. -/
def clearCompleted (expected : StagingReceipt) : Op StagingError Unit := do
  let m ← read
  let retained ← lift (okOr m.device.receipt .receiptMismatch)
  Program.require (retained = expected) .receiptMismatch
  Program.require (∀ c ∈ m.device.pending, expected.matchesCheckpoint c = true) .invalidMetadata
  removePendingIfAny
  Op.act .removeReceipt

end KernAid.Update
