import KernAid.CrashLogic

/-! The activation of the Rescue vault (`rescue-secrets/src/mount_manager.rs`) and its one cleanup. -/

set_option autoImplicit false

namespace KernAid.Vault

open CrashLogic Program

inductive VaultMountManagerError where
  | unsupportedPlatform
  | privilegeRequired
  | managerLocked
  | invalidBlockDevice
  | invalidMapperName
  | unprovisioned
  | profileMismatch
  | classifierUnavailable
  | invalidLuks2Header
  | wrongVaultLabel
  | mapperConflict
  | passphraseUnavailable
  | provisioningFormatFailed
  | provisioningInitializationFailed
  | unlockFailed
  | mappingVerificationFailed
  | unsupportedFilesystem
  | unsafeMountRoot
  | mountFailed
  | mountVerificationFailed
  | secureStateUnavailable
  | cleanupFailed
  | toolUnavailable
  | operationTimedOut
deriving DecidableEq, Repr

/-- The calls of the activation: its operations, the duplicate of the passphrase descriptor, the release
of the retained mapping in a cleanup, and its release when the activation itself is dropped. -/
inductive Step where
  | ensureDeviceUnused
  | ensureMapperAbsent
  | classifyOuterProfile
  | preOpenRevalidate
  | duplicatePassphrase
  | openLuks2
  | inspectMapping
  | verifyFailedOpenAbsence
  | armDeferredMappingRemoval
  | verifyDeferredMappingRemoval
  | formatFilesystem
  | inspectFilesystem
  | prepareMountRoot
  | preMountRevalidate
  | mountExt4
  | verifyMountedFilesystem
  | attestMount
  | verifyCleanupMount
  | unmount
  | verifyUnmounted
  | verifyCleanupMapping
  | releaseMapping
  | waitForDeferredMappingAbsence
  | closeMapping
  | verifyClosedMappingAbsence
  | dropMapping
deriving DecidableEq, Repr

/-- The operations on one request, over an environment `E` that they may change whatever they answer.
`P` is the outer profile, `H` the header identity, `M` the mapping identity with its descriptor, `F` the
filesystem profile and `T` the attestation. -/
structure VaultOps (E P H M F T : Type) where
  uuid : P → H
  ensureDeviceUnused : E → Except VaultMountManagerError Unit × E
  ensureMapperAbsent : E → Except VaultMountManagerError Unit × E
  classifyOuterProfile : E → Except VaultMountManagerError P × E
  preOpenRevalidate : E → Except VaultMountManagerError Unit × E
  duplicatePassphrase : E → Except VaultMountManagerError Unit × E
  openLuks2 : Option Nat → E → Except VaultMountManagerError Unit × E
  inspectMapping : H → E → Except VaultMountManagerError M × E
  verifyFailedOpenAbsence : E → Except VaultMountManagerError Unit × E
  armDeferredMappingRemoval : E → Except VaultMountManagerError Unit × E
  verifyDeferredMappingRemoval : H → M → E → Except VaultMountManagerError Unit × E
  formatFilesystem : M → H → String → E → Except VaultMountManagerError Unit × E
  inspectFilesystem : M → H → E → Except VaultMountManagerError F × E
  prepareMountRoot : E → Except VaultMountManagerError Unit × E
  preMountRevalidate : M → H → E → Except VaultMountManagerError Unit × E
  mountExt4 : M → H → E → Except VaultMountManagerError Unit × E
  verifyMountedFilesystem : M → H → F → E → Except VaultMountManagerError Unit × E
  attestMount : H → M → E → Except VaultMountManagerError T × E
  verifyCleanupMount : H → M → Option T → E → Except VaultMountManagerError Unit × E
  unmount : E → Except VaultMountManagerError Unit × E
  verifyUnmounted : H → M → E → Except VaultMountManagerError Unit × E
  verifyCleanupMapping : H → M → E → Except VaultMountManagerError Unit × E
  closeMapping : E → Except VaultMountManagerError Unit × E
  waitForDeferredMappingAbsence : E → Except VaultMountManagerError Unit × E
  verifyClosedMappingAbsence : E → Except VaultMountManagerError Unit × E

/-- A call that was made and what it answered, with the profile that a classification found. -/
structure Entry (P : Type) where
  step : Step
  outcome : Except VaultMountManagerError (Option P)

/-- The activation with the environment of its operations and the calls made so far. -/
structure Activation (E P M T : Type) where
  env : E
  steps : List (Entry P)
  mapping : Option M
  attestation : Option T
  mappingOpen : Bool
  deferredRemoveArmed : Bool
  mounted : Bool
  mutatorInvoked : Bool
  cleanupAttempted : Bool

def Activation.fresh {E : Type} (P M T : Type) (env : E) : Activation E P M T :=
  { env := env
    steps := []
    mapping := none
    attestation := none
    mappingOpen := false
    deferredRemoveArmed := false
    mounted := false
    mutatorInvoked := false
    cleanupAttempted := false }

section Model

variable {E P H M F T α : Type}

abbrev Act (E P M T α : Type) : Type := Program Step (Activation E P M T) VaultMountManagerError α

def Activation.answer (s : Activation E P M T) (step : Step)
    (outcome : Except VaultMountManagerError (Option P)) (env : E) : Activation E P M T :=
  { s with
    env := env
    steps := s.steps ++ [⟨step,outcome⟩] }

def invoke (step : Step) (evidence : α → Option P) (f : E → Except VaultMountManagerError α × E) :
    Act E P M T α := fun s =>
  let (result,env) := f s.env
  ⟨[(step,s)],result,s.answer step (result.map evidence) env⟩

def call (step : Step) (f : E → Except VaultMountManagerError α × E) : Act E P M T α :=
  invoke step (fun _ => none) f

/-- A release of the retained descriptor answers nothing. -/
def release (step : Step) : Act E P M T Unit := call step fun env => (.ok (),env)

variable (ops : VaultOps E P H M F T) [DecidableEq P]

def classify : Act E P M T P := invoke .classifyOuterProfile some ops.classifyOuterProfile

def retainedMapping (e : VaultMountManagerError) : Act E P M T M := do
  let s ← read
  lift (okOr s.mapping e)

def dominantOpenInspectionError (openError mappingError : VaultMountManagerError) :
    VaultMountManagerError :=
  (([.cleanupFailed,.operationTimedOut,.toolUnavailable] : List VaultMountManagerError).find?
    fun dominant => openError = dominant ∨ mappingError = dominant).getD openError

/-- The mapping could not be inspected after the open command ran. -/
def uninspectedMapping (opened : Except VaultMountManagerError Unit)
    (mappingError : VaultMountManagerError) : Act E P M T Unit :=
  if mappingError = .cleanupFailed then fail .cleanupFailed
  else match opened with
    | .error openError =>
      if openError = .cleanupFailed then fail .cleanupFailed
      else do
        let absence ← attempt (call .verifyFailedOpenAbsence ops.verifyFailedOpenAbsence)
        match absence with
        | .ok _ => fail (dominantOpenInspectionError openError mappingError)
        | .error _ => fail .cleanupFailed
    | .ok _ => do
      update fun s => { s with mappingOpen := true }
      fail .cleanupFailed

def requireProfile (outerProfile : P) : Act E P M T Unit := do
  let profile ← classify ops
  Program.require (profile = outerProfile) .profileMismatch

def formatIfProvisioning (header : H) (mapping : M) : Option String → Act E P M T Unit
  | some filesystemUuid =>
    call .formatFilesystem (ops.formatFilesystem mapping header filesystemUuid)
  | none => pure ()

/-- From the filesystem of the open mapping to the attested mount. -/
def mountAndAttest (outerProfile : P) (header : H) (filesystemUuid : Option String) (mapping : M) :
    Act E P M T Unit := do
  formatIfProvisioning ops header mapping filesystemUuid
  let filesystem ← call .inspectFilesystem (ops.inspectFilesystem mapping header)
  call .prepareMountRoot ops.prepareMountRoot
  call .preMountRevalidate (ops.preMountRevalidate mapping header)
  update fun s => { s with mounted := true }
  call .mountExt4 (ops.mountExt4 mapping header)
  call .verifyMountedFilesystem (ops.verifyMountedFilesystem mapping header filesystem)
  requireProfile ops outerProfile
  let attestation ← call .attestMount (ops.attestMount header mapping)
  update fun s => { s with attestation := some attestation }

def armAndMount (outerProfile : P) (header : H) (filesystemUuid : Option String)
    (opened : Except VaultMountManagerError Unit) (mapping : M) : Act E P M T Unit := do
  call .armDeferredMappingRemoval ops.armDeferredMappingRemoval
  update fun s => { s with deferredRemoveArmed := true }
  call .verifyDeferredMappingRemoval (ops.verifyDeferredMappingRemoval header mapping)
  lift opened
  requireProfile ops outerProfile
  mountAndAttest ops outerProfile header filesystemUuid mapping

def acquireMapping (outerProfile : P) (header : H) (filesystemUuid : Option String)
    (opened : Except VaultMountManagerError Unit) : Act E P M T Unit := do
  let inspected ← attempt (call .inspectMapping (ops.inspectMapping header))
  match inspected with
  | .error mappingError => uninspectedMapping ops opened mappingError
  | .ok mapping => do
    update fun s => { s with
      mapping := some mapping
      mappingOpen := true }
    armAndMount ops outerProfile header filesystemUuid opened mapping

def continueStart (outerProfile : P) (header : H) (keySize : Option Nat)
    (filesystemUuid : Option String) : Act E P M T Unit := do
  call .preOpenRevalidate ops.preOpenRevalidate
  call .duplicatePassphrase ops.duplicatePassphrase
  update fun s => { s with mutatorInvoked := true }
  let opened ← attempt (call .openLuks2 (ops.openLuks2 keySize))
  match opened with
  | .error .toolUnavailable => do
    update fun s => { s with mutatorInvoked := false }
    fail .toolUnavailable
  | .error .cleanupFailed => fail .cleanupFailed
  | opened => acquireMapping ops outerProfile header filesystemUuid opened

def cleanupMount (header : H) : Act E P M T Unit := do
  let s ← read
  if s.mounted then do
    let mapping ← retainedMapping .cleanupFailed
    call .verifyCleanupMount (ops.verifyCleanupMount header mapping s.attestation)
    call .unmount ops.unmount
    call .verifyUnmounted (ops.verifyUnmounted header mapping)
    update fun s => { s with mounted := false }
  else pure ()

/-- After the release the kernel removes a mapping with an armed removal; otherwise it is closed. -/
def awaitAbsence : Act E P M T Unit := do
  let s ← read
  if s.deferredRemoveArmed then
    call .waitForDeferredMappingAbsence ops.waitForDeferredMappingAbsence
  else do
    call .closeMapping ops.closeMapping
    call .verifyClosedMappingAbsence ops.verifyClosedMappingAbsence

def cleanupMapping (header : H) : Act E P M T Unit := do
  let s ← read
  if s.mappingOpen then do
    let mapping ← retainedMapping .cleanupFailed
    call .verifyCleanupMapping (ops.verifyCleanupMapping header mapping)
    release .releaseMapping
    update fun s => { s with mapping := none }
    awaitAbsence ops
    update fun s => { s with mappingOpen := false }
  else pure ()

def cleanupInner (header : H) : Act E P M T Unit := do
  cleanupMount ops header
  cleanupMapping ops header

def cleanup (header : H) : Act E P M T Unit := do
  let s ← read
  Program.require (s.cleanupAttempted = false) .cleanupFailed
  update fun s => { s with cleanupAttempted := true }
  mapError (fun _ => .cleanupFailed) (cleanupInner ops header)

/-- `Drop` cleans up unless a cleanup was already attempted. -/
def dropCleanup (header : H) : Act E P M T Unit := do
  let s ← read
  if s.cleanupAttempted then pure ()
  else do
    update fun s => { s with cleanupAttempted := true }
    let _ ← attempt (cleanupInner ops header)
    pure ()

/-- A mapping that is still retained is released with the fields of the activation. -/
def dropFields : Act E P M T Unit := do
  let s ← read
  match s.mapping with
  | some _ => do
    release .dropMapping
    update fun s => { s with mapping := none }
  | none => pure ()

def dropActivation (header : H) : Act E P M T Unit := do
  dropCleanup ops header
  dropFields

def cleanupIfInvoked (header : H) : Act E P M T (Except VaultMountManagerError Unit) := do
  let s ← read
  if s.mutatorInvoked then attempt (cleanup ops header) else pure (.ok ())

/-- A failed start cleans up what it may own, and its activation is dropped. -/
def endFailedStart (header : H) (primary : VaultMountManagerError) : Act E P M T H := do
  let cleaned ← cleanupIfInvoked ops header
  dropActivation ops header
  match cleaned with
  | .ok _ => fail primary
  | .error _ => fail .cleanupFailed

/-- The header identity of a started activation is handed to its cleanup. -/
def startWithFilesystem (keySize : Option Nat) (filesystemUuid : Option String) : Act E P M T H := do
  call .ensureDeviceUnused ops.ensureDeviceUnused
  call .ensureMapperAbsent ops.ensureMapperAbsent
  let outerProfile ← classify ops
  let header := ops.uuid outerProfile
  let started ← attempt (continueStart ops outerProfile header keySize filesystemUuid)
  match started with
  | .ok _ => pure header
  | .error primary => endFailedStart ops header primary

/-- Any number of further cleanups by the owner, whatever they answer. -/
def cleanups (header : H) : Nat → Act E P M T Unit
  | 0 => pure ()
  | n + 1 => do
    let _ ← attempt (cleanup ops header)
    cleanups header n

/-- A whole life: start, cleanups by the owner, and the end. -/
def lifetime (keySize : Option Nat) (filesystemUuid : Option String) (n : Nat) : Act E P M T Unit := do
  let header ← startWithFilesystem ops keySize filesystemUuid
  cleanups ops header n
  dropActivation ops header

end Model

end KernAid.Vault
