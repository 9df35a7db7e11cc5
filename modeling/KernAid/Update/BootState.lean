import KernAid.CanonicalJson
import KernAid.Update.Manifests

/-! `UpdateState`: the persisted state of an A/B update (`update-client`). -/

set_option autoImplicit false

namespace KernAid.Update

open CrashLogic Encoding Json Unicode

def UPDATE_STATE_SCHEMA : String := "dev.kernaid.update.state.v1"
def MAX_BOOT_ATTEMPTS : UInt8 := 5
def MAX_STATE_BYTES : Nat := 16 * 1024

inductive UpdatePhase where
  | stable
  | staged
  | pendingBoot
  | rollbackPending
deriving DecidableEq, Repr

structure PendingUpdate where
  releaseId : String
  sequence : UInt64
  manifestSha256 : String
  artifactSha256 : String
  targetSlot : Slot
  previousSlot : Slot
  attemptsRemaining : UInt8
  maxAttempts : UInt8
  emergencyRollback : Bool
deriving DecidableEq

structure UpdateState where
  schema : String
  phase : UpdatePhase
  activeSlot : Slot
  rollbackSlot : Slot
  pending : Option PendingUpdate
deriving DecidableEq

/-- The variants of `UpdateError` that the state raises. -/
inductive UpdateStateError where
  | invalidField (field : String)
  | invalidJson
  | unsupportedJsonValue
  | unsafeInteger
  | nonCanonicalJson
  | documentTooLarge
  | notEligible (availability : Availability)
  | artifactMismatch
  | invalidBootAttempts
  | invalidTransition
  | wrongRunningSlot
  | invalidState
deriving DecidableEq

def UpdateState.new (activeSlot : Slot) : UpdateState :=
  { schema := UPDATE_STATE_SCHEMA, phase := .stable, activeSlot := activeSlot
    rollbackSlot := activeSlot.inactive, pending := none }

def PendingUpdate.validate (pending : PendingUpdate) (activeSlot : Slot) :
    Except UpdateStateError Unit := do
  require (isIdentifier pending.releaseId = true) (.invalidField "state.pending.releaseId")
  require (isSafeNonzero pending.sequence.toNat = true) (.invalidField "state.pending.sequence")
  require (validLowerHex pending.manifestSha256 64 = true)
    (.invalidField "state.pending.manifestSha256")
  require (validLowerHex pending.artifactSha256 64 = true)
    (.invalidField "state.pending.artifactSha256")
  require (pending.previousSlot = activeSlot ∧ pending.targetSlot = activeSlot.inactive ∧
    pending.maxAttempts ≠ 0 ∧ pending.maxAttempts ≤ MAX_BOOT_ATTEMPTS ∧
    pending.attemptsRemaining ≤ pending.maxAttempts) .invalidState

def UpdateState.validate (state : UpdateState) : Except UpdateStateError Unit := do
  require (state.schema = UPDATE_STATE_SCHEMA ∧ state.activeSlot ≠ state.rollbackSlot) .invalidState
  match state.phase, state.pending with
  | .stable, none => .ok ()
  | .stable, some _ => .error .invalidState
  | _, none => .error .invalidState
  | _, some pending => pending.validate state.activeSlot

/-- `CompletedArtifactEvidence`: the size and digest of the whole downloaded artifact. -/
structure CompletedArtifact where
  sizeBytes : Nat
  sha256 : Digest

/-- `hex_sha256`. -/
def hexSha256 (digest : Digest) : String :=
  encodeHex ((List.range 32).map fun i => UInt8.ofNat (digest.toNat / 256 ^ (31 - i)))

section Planning

variable [UpdateHash]

/-- The pending update of a stage plan; its target is always the inactive slot. -/
def UpdateState.planPending (state : UpdateState) (admitted : AdmittedUpdate)
    (context : UpdateContext) (evidence : CompletedArtifact) (maxBootAttempts : UInt8) :
    Except UpdateStateError PendingUpdate := do
  state.validate
  require (state.phase = .stable ∧ state.pending = none) .invalidTransition
  let availability := admitted.verified.availability context
  require (availability = .eligible) (.notEligible availability)
  require (1 ≤ maxBootAttempts ∧ maxBootAttempts ≤ MAX_BOOT_ATTEMPTS) .invalidBootAttempts
  let artifact := admitted.verified.artifact
  require (evidence.sizeBytes = artifact.sizeBytes ∧ evidence.sha256 = artifact.sha256)
    .artifactMismatch
  return { releaseId := admitted.verified.releaseId
           sequence := UInt64.ofNat admitted.verified.sequence
           manifestSha256 := hexSha256 admitted.verified.manifestSha256
           artifactSha256 := hexSha256 artifact.sha256
           targetSlot := state.activeSlot.inactive
           previousSlot := state.activeSlot
           attemptsRemaining := maxBootAttempts
           maxAttempts := maxBootAttempts
           emergencyRollback := admitted.verified.manifest.emergencyRollback }

/-- A `StagePlan` has private fields: only `plan_stage` makes one. -/
structure StagePlan where
  pending : PendingUpdate
  planned : ∃ (state : UpdateState) (admitted : AdmittedUpdate) (context : UpdateContext)
    (evidence : CompletedArtifact) (maxBootAttempts : UInt8),
      state.planPending admitted context evidence maxBootAttempts = .ok pending

def UpdateState.planStage (state : UpdateState) (admitted : AdmittedUpdate)
    (context : UpdateContext) (evidence : CompletedArtifact) (maxBootAttempts : UInt8) :
    Except UpdateStateError StagePlan :=
  match h : state.planPending admitted context evidence maxBootAttempts with
  | .ok pending => .ok ⟨pending,state,admitted,context,evidence,maxBootAttempts,h⟩
  | .error e => .error e

def UpdateState.confirmStaged (state : UpdateState) (plan : StagePlan) :
    Except UpdateStateError UpdateState := do
  state.validate
  require (state.phase = .stable ∧ plan.pending.previousSlot = state.activeSlot ∧
    plan.pending.targetSlot = state.activeSlot.inactive) .invalidTransition
  let next := { state with phase := .staged, pending := some plan.pending }
  next.validate
  return next

end Planning

def UpdateState.armPendingBoot (state : UpdateState) : Except UpdateStateError UpdateState := do
  state.validate
  require (state.phase = .staged) .invalidTransition
  let next := { state with phase := .pendingBoot }
  next.validate
  return next

inductive BootAction where
  | bootStable (slot : Slot)
  | tryPending (slot rollbackSlot : Slot)
  | rollback (slot failedSlot : Slot)
deriving DecidableEq

structure BootTransition where
  state : UpdateState
  action : BootAction
deriving DecidableEq

/-- An attempt is taken from the state before the boot it stands for. -/
def UpdateState.nextBoot (state : UpdateState) : Except UpdateStateError BootTransition := do
  state.validate
  match state.phase with
  | .stable => return { state := state, action := .bootStable state.activeSlot }
  | .staged => .error .invalidTransition
  | .rollbackPending => do
    let pending ← okOr state.pending .invalidState
    return { state := state, action := .rollback pending.previousSlot pending.targetSlot }
  | .pendingBoot => do
    let pending ← okOr state.pending .invalidState
    if pending.attemptsRemaining = 0 then
      let next := { state with phase := .rollbackPending }
      next.validate
      return { state := next, action := .rollback pending.previousSlot pending.targetSlot }
    else
      let nextPending := { pending with attemptsRemaining := pending.attemptsRemaining - 1 }
      let next := { state with pending := some nextPending }
      next.validate
      return { state := next, action := .tryPending pending.targetSlot pending.previousSlot }

def UpdateState.markGood (state : UpdateState) (runningSlot : Slot) :
    Except UpdateStateError UpdateState := do
  state.validate
  require (state.phase = .pendingBoot) .invalidTransition
  let pending ← okOr state.pending .invalidState
  require (runningSlot = pending.targetSlot) .wrongRunningSlot
  let next := { UpdateState.new runningSlot with rollbackSlot := pending.previousSlot }
  next.validate
  return next

def UpdateState.recordFailure (state : UpdateState) : Except UpdateStateError UpdateState := do
  state.validate
  require (state.phase = .pendingBoot) .invalidTransition
  let next := { state with phase := .rollbackPending }
  next.validate
  return next

def UpdateState.confirmRollback (state : UpdateState) (runningSlot : Slot) :
    Except UpdateStateError UpdateState := do
  state.validate
  require (state.phase = .rollbackPending) .invalidTransition
  let pending ← okOr state.pending .invalidState
  require (runningSlot = pending.previousSlot) .wrongRunningSlot
  let next := { UpdateState.new runningSlot with rollbackSlot := pending.targetSlot }
  next.validate
  return next

structure LocalRollbackPlan where
  slot : Slot
  previousSlot : Slot
deriving DecidableEq

def UpdateState.planLocalRollback (state : UpdateState) :
    Except UpdateStateError LocalRollbackPlan := do
  state.validate
  if state.phase = .stable then
    return { slot := state.rollbackSlot, previousSlot := state.activeSlot }
  else
    let pending ← okOr state.pending .invalidState
    return { slot := pending.previousSlot, previousSlot := pending.targetSlot }

def UpdateState.confirmLocalRollback (state : UpdateState) (plan : LocalRollbackPlan)
    (runningSlot : Slot) : Except UpdateStateError UpdateState := do
  state.validate
  let planned ← (if state.phase = .stable then
      .ok ⟨state.rollbackSlot,state.activeSlot⟩
    else do
      let pending ← okOr state.pending .invalidState
      return ⟨pending.previousSlot,pending.targetSlot⟩ : Except UpdateStateError LocalRollbackPlan)
  require (plan = planned ∧ runningSlot = plan.slot) .invalidTransition
  let next := { UpdateState.new runningSlot with rollbackSlot := plan.previousSlot }
  next.validate
  return next

section Persistence

open Canonical

def Slot.toValue : Slot → Value Number
  | .A => .string "A"
  | .B => .string "B"

def Slot.ofValue : Value Number → Option Slot
  | .string s => if s = "A" then some .A else if s = "B" then some .B else none
  | _ => none

def UpdatePhase.toValue : UpdatePhase → Value Number
  | .stable => .string "stable"
  | .staged => .string "staged"
  | .pendingBoot => .string "pending_boot"
  | .rollbackPending => .string "rollback_pending"

def UpdatePhase.ofValue : Value Number → Option UpdatePhase
  | .string s =>
    if s = "stable" then some .stable
    else if s = "staged" then some .staged
    else if s = "pending_boot" then some .pendingBoot
    else if s = "rollback_pending" then some .rollbackPending
    else none
  | _ => none

def stringOfValue : Value Number → Option String
  | .string s => some s
  | _ => none

def boolOfValue : Value Number → Option Bool
  | .bool b => some b
  | _ => none

def u64OfValue : Value Number → Option UInt64
  | .number (.posInt n) => some n
  | _ => none

def u8OfValue : Value Number → Option UInt8
  | .number (.posInt n) => if n.toNat < 256 then some n.toUInt8 else none
  | _ => none

/-- The fields of `PendingUpdate` in the order of an object's keys. -/
def pendingFields : List String :=
  ["artifactSha256","attemptsRemaining","emergencyRollback","manifestSha256","maxAttempts",
    "previousSlot","releaseId","sequence","targetSlot"]

def PendingUpdate.toValue (p : PendingUpdate) : Value Number :=
  .object (pendingFields.zip
    [.string p.artifactSha256,.number (.posInt p.attemptsRemaining.toUInt64),
      .bool p.emergencyRollback,.string p.manifestSha256,
      .number (.posInt p.maxAttempts.toUInt64),p.previousSlot.toValue,.string p.releaseId,
      .number (.posInt p.sequence),p.targetSlot.toValue])

def PendingUpdate.ofFields : List (Value Number) → Option PendingUpdate
  | [artifact,remaining,emergency,manifest,maximum,previous,release,sequence,target] => do
    return { artifactSha256 := ← stringOfValue artifact
             attemptsRemaining := ← u8OfValue remaining
             emergencyRollback := ← boolOfValue emergency
             manifestSha256 := ← stringOfValue manifest
             maxAttempts := ← u8OfValue maximum
             previousSlot := ← Slot.ofValue previous
             releaseId := ← stringOfValue release
             sequence := ← u64OfValue sequence
             targetSlot := ← Slot.ofValue target }
  | _ => none

/-- Reads an object whose keys are sorted; unknown and missing fields are refused. -/
def PendingUpdate.ofSorted : Value Number → Option PendingUpdate
  | .object members =>
    if members.map Prod.fst = pendingFields then PendingUpdate.ofFields (members.map Prod.snd)
    else none
  | _ => none

def pendingOfValue : Value Number → Option (Option PendingUpdate)
  | .null => some none
  | v => (PendingUpdate.ofSorted v).map some

def stateFields : List String := ["activeSlot","pending","phase","rollbackSlot","schema"]

def UpdateState.toValue (state : UpdateState) : Value Number :=
  .object (stateFields.zip
    [state.activeSlot.toValue,(state.pending.map PendingUpdate.toValue).getD .null,
      state.phase.toValue,state.rollbackSlot.toValue,.string state.schema])

def UpdateState.ofFields : List (Value Number) → Option UpdateState
  | [active,pending,phase,rollback,schema] => do
    return { activeSlot := ← Slot.ofValue active
             pending := ← pendingOfValue pending
             phase := ← UpdatePhase.ofValue phase
             rollbackSlot := ← Slot.ofValue rollback
             schema := ← stringOfValue schema }
  | [active,phase,rollback,schema] => do
    -- A missing `Option` field is read as `None`.
    return { activeSlot := ← Slot.ofValue active
             pending := none
             phase := ← UpdatePhase.ofValue phase
             rollbackSlot := ← Slot.ofValue rollback
             schema := ← stringOfValue schema }
  | _ => none

def UpdateState.ofSorted : Value Number → Option UpdateState
  | .object members =>
    if members.map Prod.fst = stateFields ∨
        members.map Prod.fst = stateFields.erase "pending" then
      UpdateState.ofFields (members.map Prod.snd)
    else none
  | _ => none

@[simp] theorem Slot.ofValue_toValue (slot : Slot) : Slot.ofValue slot.toValue = some slot := by
  cases slot <;> rfl

@[simp] theorem UpdatePhase.ofValue_toValue (phase : UpdatePhase) :
    UpdatePhase.ofValue phase.toValue = some phase := by
  cases phase <;> rfl

@[simp] theorem u8OfValue_toUInt64 (n : UInt8) :
    u8OfValue (.number (.posInt n.toUInt64)) = some n := by
  simp [u8OfValue, n.toNat_lt]

theorem PendingUpdate.ofSorted_toValue (p : PendingUpdate) :
    PendingUpdate.ofSorted p.toValue = some p := by
  simp [PendingUpdate.toValue, PendingUpdate.ofSorted, pendingFields, PendingUpdate.ofFields,
    stringOfValue, boolOfValue, u64OfValue]

theorem pendingOfValue_toValue (pending : Option PendingUpdate) :
    pendingOfValue ((pending.map PendingUpdate.toValue).getD .null) = some pending := by
  cases pending with
  | none => rfl
  | some p =>
    change (PendingUpdate.ofSorted p.toValue).map some = _
    rw [PendingUpdate.ofSorted_toValue, Option.map_some]

theorem UpdateState.ofSorted_toValue (state : UpdateState) :
    UpdateState.ofSorted state.toValue = some state := by
  simp [UpdateState.toValue, UpdateState.ofSorted, stateFields, UpdateState.ofFields,
    pendingOfValue_toValue, stringOfValue]

theorem Slot.sortKeys_toValue (slot : Slot) (le : String → String → Bool) :
    slot.toValue.sortKeys le = slot.toValue := by
  cases slot <;> rfl

theorem UpdatePhase.sortKeys_toValue (phase : UpdatePhase) (le : String → String → Bool) :
    phase.toValue.sortKeys le = phase.toValue := by
  cases phase <;> rfl

theorem PendingUpdate.sortKeys_toValue (p : PendingUpdate) :
    p.toValue.sortKeys utf8Le = p.toValue := by
  refine sortKeys_object_eq_self ?_ ?_
  · change pendingFields.Pairwise _
    decide +kernel
  · simp only [pendingFields, List.zip_cons_cons, List.zip_nil_right, List.forall_mem_cons,
      Slot.sortKeys_toValue]
    simp [Value.sortKeys, Value.fold]

theorem UpdateState.sortKeys_toValue (state : UpdateState) :
    state.toValue.sortKeys utf8Le = state.toValue := by
  refine sortKeys_object_eq_self ?_ ?_
  · change stateFields.Pairwise _
    decide +kernel
  · have hpending : ((state.pending.map PendingUpdate.toValue).getD .null).sortKeys utf8Le =
        (state.pending.map PendingUpdate.toValue).getD .null := by
      cases state.pending with
      | none => rfl
      | some p => exact p.sortKeys_toValue
    simp only [stateFields, List.zip_cons_cons, List.zip_nil_right, List.forall_mem_cons,
      Slot.sortKeys_toValue, UpdatePhase.sortKeys_toValue, hpending]
    simp [Value.sortKeys, Value.fold]

theorem Slot.everyObject_toValue (slot : Slot) (p : List String → Bool) :
    slot.toValue.everyObject p = true := by
  cases slot <;> rfl

theorem UpdatePhase.everyObject_toValue (phase : UpdatePhase) (p : List String → Bool) :
    phase.toValue.everyObject p = true := by
  cases phase <;> rfl

theorem PendingUpdate.distinctKeys_toValue (p : PendingUpdate) :
    p.toValue.distinctKeys = true := by
  refine everyObject_object.mpr ⟨?_,?_⟩
  · change decide pendingFields.Nodup = true
    decide +kernel
  · simp only [pendingFields, List.zip_cons_cons, List.zip_nil_right, List.forall_mem_cons,
      Slot.everyObject_toValue]
    simp [Value.everyObject, Value.fold]

theorem UpdateState.distinctKeys_toValue (state : UpdateState) :
    state.toValue.distinctKeys = true := by
  refine everyObject_object.mpr ⟨?_,?_⟩
  · change decide stateFields.Nodup = true
    decide +kernel
  · have hpending : ((state.pending.map PendingUpdate.toValue).getD .null).everyObject
        (fun keys => decide keys.Nodup) = true := by
      cases state.pending with
      | none => rfl
      | some p => exact p.distinctKeys_toValue
    simp only [stateFields, List.zip_cons_cons, List.zip_nil_right, List.forall_mem_cons,
      Slot.everyObject_toValue, UpdatePhase.everyObject_toValue, hpending]
    simp [Value.everyObject, Value.fold]

instance : Serde UpdateState where
  toValue state := some state.toValue
  fromSlice bytes := (readDocument readNumber RECURSION_LIMIT bytes).bind fun v =>
    UpdateState.ofSorted (v.sortKeys utf8Le)
  distinctKeys state v hv := by
    cases hv
    exact state.distinctKeys_toValue
  fromSlice_text state v w hv hsame hsafe := by
    cases hv
    have hsorted := (same_iff_sortKeys_eq utf8_keyOrder state.distinctKeys_toValue).mp hsame
    rw [readDocument_text_eq number_format (everyNumber_isInteger hsafe)]
    split_ifs
    · rw [Option.bind_some, ← hsorted, state.sortKeys_toValue, UpdateState.ofSorted_toValue]
    · rfl

def updateErrors : CanonicalErrors UpdateStateError :=
  { invalidSize := .documentTooLarge, invalidJson := .invalidJson, unsafeInteger := .unsafeInteger
    unsupportedJsonValue := .unsupportedJsonValue, nonCanonicalJson := .nonCanonicalJson }

def UpdateState.exportCanonical (state : UpdateState) :
    Except UpdateStateError (List UInt8) := do
  state.validate
  let bytes ← canonicalJsonWith (validateJsonValue updateErrors) .invalidJson state
  require (bytes.length ≠ 0 ∧ bytes.length ≤ MAX_STATE_BYTES) .documentTooLarge
  return bytes

def UpdateState.importCanonical (bytes : List UInt8) : Except UpdateStateError UpdateState := do
  let state : UpdateState ← importCanonicalWith updateErrors bytes MAX_STATE_BYTES
  state.validate
  return state

theorem importCanonical_export {state next : UpdateState} {bytes : List UInt8}
    (hexport : state.exportCanonical = .ok bytes)
    (himport : UpdateState.importCanonical bytes = .ok next) : next = state := by
  simp only [UpdateState.exportCanonical, bind_ok_iff, require_eq_ok, pure_eq_ok_iff,
    exists_const] at hexport
  simp only [UpdateState.importCanonical, bind_ok_iff, pure_eq_ok_iff] at himport
  obtain ⟨_,_,exported,hexported,_,rfl⟩ := hexport
  obtain ⟨imported,himported,_,_,rfl⟩ := himport
  obtain ⟨hcanonical,_,hnesting⟩ := (importCanonicalWith_eq_ok updateErrors).mp himported
  exact (canonicalJsonWith_injective (validateJsonValue_eq_ok updateErrors) hcanonical hexported
    hnesting).symm

end Persistence

end KernAid.Update
