import Mathlib.Data.List.Sort
import Mathlib.Data.BitVec
import KernAid.CrashLogic

/-! Signed update manifests, their eligibility, and the monotonic checkpoint (`update-client`). -/

set_option autoImplicit false

namespace KernAid.Update

open CrashLogic

/-- A SHA-256 digest; the source writes it as 64 hexadecimal digits. -/
abbrev Digest : Type := BitVec 256

def MAX_SAFE_JSON_INTEGER : Nat := 9007199254740991
def MAX_ARTIFACT_BYTES : Nat := 1099511627776
def MAX_ID_BYTES : Nat := 160
def MAX_VERSION_BYTES : Nat := 128
def ROLLOUT_BASIS_POINTS : Nat := 10000

inductive Slot where
  | A
  | B
deriving DecidableEq, Repr

def Slot.inactive : Slot → Slot
  | .A => .B
  | .B => .A

@[simp] theorem Slot.inactive_inactive (s : Slot) : s.inactive.inactive = s := by
  cases s <;> rfl

@[simp] theorem Slot.inactive_ne (s : Slot) : s.inactive ≠ s := by
  cases s <;> decide

inductive UpdatePlatform where
  | rescue
  | windows
  | linux
  | macos
deriving DecidableEq, Repr

inductive UpdateArchitecture where
  | x86_64
  | aarch64
deriving DecidableEq, Repr

inductive ReleaseRing where
  | canary
  | stable
deriving DecidableEq, Repr

inductive UpdateRing where
  | hold
  | canary
  | stable
deriving DecidableEq, Repr

structure ArtifactDescriptor where
  url : String
  sizeBytes : Nat
  sha256 : Digest
deriving DecidableEq

structure Rollout where
  basisPoints : Nat
  seed : String
deriving DecidableEq

structure SignedUpdateManifest where
  sequence : Nat
  releaseId : String
  releaseVersion : String
  platform : UpdatePlatform
  architecture : UpdateArchitecture
  releaseRing : ReleaseRing
  rollout : Rollout
  issuedAtUnix : Nat
  notBeforeUnix : Nat
  expiresAtUnix : Nat
  artifact : ArtifactDescriptor
  emergencyRollback : Bool
  signature : String
deriving DecidableEq

def isIdentifierChar (c : Char) : Bool :=
  c.isAlphanum || c == '-' || c == '_' || c == '.' || c == ':' || c == '/'

def isIdentifier (value : String) : Bool :=
  !value.isEmpty && value.utf8ByteSize ≤ MAX_ID_BYTES && value.toList.all isIdentifierChar

def isVersionChar (c : Char) : Bool := '!' ≤ c && c ≤ '~' && c != '"' && c != '\\'

def isVersion (value : String) : Bool :=
  !value.isEmpty && value.utf8ByteSize ≤ MAX_VERSION_BYTES && value.toList.all isVersionChar

def isSafeNonzero (value : Nat) : Bool := value ≠ 0 && value ≤ MAX_SAFE_JSON_INTEGER

def isDeviceId (value : String) : Bool :=
  match value.toList with
  | 'K' :: 'A' :: '-' :: suffix =>
    suffix.length == 24 && suffix.all fun c => c.isDigit || ('a' ≤ c && c ≤ 'f')
  | _ => false

/-- `validate_unsigned`; what the URL parser checks is not modelled. -/
structure SignedUpdateManifest.Valid (m : SignedUpdateManifest) : Prop where
  sequence : isSafeNonzero m.sequence = true
  releaseId : isIdentifier m.releaseId = true
  releaseVersion : isVersion m.releaseVersion = true
  issuedAtUnix : isSafeNonzero m.issuedAtUnix = true
  notBeforeUnix : isSafeNonzero m.notBeforeUnix = true
  expiresAtUnix : isSafeNonzero m.expiresAtUnix = true
  window : m.issuedAtUnix ≤ m.notBeforeUnix ∧ m.notBeforeUnix < m.expiresAtUnix
  basisPoints : m.rollout.basisPoints ≤ ROLLOUT_BASIS_POINTS
  seed : isIdentifier m.rollout.seed = true
  size : m.artifact.sizeBytes ≠ 0 ∧ m.artifact.sizeBytes ≤ MAX_ARTIFACT_BYTES ∧
    m.artifact.sizeBytes ≤ MAX_SAFE_JSON_INTEGER

/-- A manifest that passed its validation and its signature check. -/
structure VerifiedUpdate where
  manifest : SignedUpdateManifest
  valid : manifest.Valid

/-- `StagingReceipt`: the exact bytes of an artifact reached the inactive target. -/
structure StagingReceipt where
  releaseId : String
  sequence : Nat
  manifestSha256 : Digest
  artifactSizeBytes : Nat
  artifactSha256 : Digest
  activeSlot : Slot
  targetSlot : Slot
deriving DecidableEq

/-- SHA-256 over raw bytes and over the canonical bytes of manifests and staging receipts. -/
class UpdateHash where
  sha256 : List UInt8 → Digest
  manifestSha256 : SignedUpdateManifest → Digest
  receiptSha256 : StagingReceipt → Digest

variable [UpdateHash]

def VerifiedUpdate.sequence (u : VerifiedUpdate) : Nat := u.manifest.sequence

def VerifiedUpdate.releaseId (u : VerifiedUpdate) : String := u.manifest.releaseId

def VerifiedUpdate.artifact (u : VerifiedUpdate) : ArtifactDescriptor := u.manifest.artifact

def VerifiedUpdate.manifestSha256 (u : VerifiedUpdate) : Digest :=
  UpdateHash.manifestSha256 u.manifest

structure UpdateContext where
  deviceId : String
  platform : UpdatePlatform
  architecture : UpdateArchitecture
  updateRing : UpdateRing
  nowUnix : Nat

inductive Availability where
  | eligible
  | invalidContext
  | platformMismatch
  | architectureMismatch
  | notYetValid
  | expired
  | held
  | ringMismatch
  | rolloutDeferred
deriving DecidableEq, Repr

/-- The first two bytes of the digest select the cohort. -/
def rolloutCohort (deviceId seed : String) : Nat :=
  let digest := UpdateHash.sha256 ("kernaid:update:rollout:v1\x00".toUTF8.toList ++
    seed.toUTF8.toList ++ [0] ++ deviceId.toUTF8.toList)
  (digest.extractLsb' 240 16).toNat % ROLLOUT_BASIS_POINTS

def inRollout (deviceId seed : String) (basisPoints : Nat) : Bool :=
  if basisPoints = 0 then false
  else if basisPoints = ROLLOUT_BASIS_POINTS then true
  else rolloutCohort deviceId seed < basisPoints

def VerifiedUpdate.availability (u : VerifiedUpdate) (context : UpdateContext) : Availability :=
  if context.nowUnix = 0 ∨ MAX_SAFE_JSON_INTEGER < context.nowUnix ∨
      isDeviceId context.deviceId = false then .invalidContext
  else if context.platform ≠ u.manifest.platform then .platformMismatch
  else if context.architecture ≠ u.manifest.architecture then .architectureMismatch
  else if context.nowUnix < u.manifest.notBeforeUnix then .notYetValid
  else if u.manifest.expiresAtUnix ≤ context.nowUnix then .expired
  else if u.manifest.emergencyRollback then .eligible
  else if context.updateRing = .hold then .held
  else if u.manifest.releaseRing = .canary ∧ context.updateRing ≠ .canary then .ringMismatch
  else if inRollout context.deviceId u.manifest.rollout.seed u.manifest.rollout.basisPoints then
    .eligible
  else .rolloutDeferred

inductive UpdateError where
  | sequenceRollback
  | sequenceConflict
deriving DecidableEq, Repr

structure UpdateCheckpoint where
  sequence : Nat
  releaseId : String
  manifestSha256 : Digest
deriving DecidableEq

def UpdateCheckpoint.fromVerified (u : VerifiedUpdate) : UpdateCheckpoint :=
  { sequence := u.sequence, releaseId := u.releaseId, manifestSha256 := u.manifestSha256 }

inductive CheckpointAdmission where
  | first
  | advanced
  | idempotentReplay
deriving DecidableEq, Repr

structure AdmittedUpdate where
  verified : VerifiedUpdate
  admission : CheckpointAdmission

structure AdmissionOutcome where
  update : AdmittedUpdate
  nextCheckpoint : UpdateCheckpoint

/-- Pure admission: a same-sequence replay is accepted only for the same signed content. -/
def admitUpdate (checkpoint : Option UpdateCheckpoint) (verified : VerifiedUpdate) :
    Except UpdateError AdmissionOutcome :=
  match checkpoint with
  | some existing =>
    if verified.sequence < existing.sequence then .error .sequenceRollback
    else if verified.sequence = existing.sequence then
      if verified.manifestSha256 ≠ existing.manifestSha256 then .error .sequenceConflict
      else .ok { update := ⟨verified,.idempotentReplay⟩, nextCheckpoint := existing }
    else .ok { update := ⟨verified,.advanced⟩
               nextCheckpoint := UpdateCheckpoint.fromVerified verified }
  | none => .ok { update := ⟨verified,.first⟩
                  nextCheckpoint := UpdateCheckpoint.fromVerified verified }

theorem admitUpdate_eq_ok {checkpoint : Option UpdateCheckpoint} {u : VerifiedUpdate}
    {outcome : AdmissionOutcome} (h : admitUpdate checkpoint u = .ok outcome) :
    outcome.update.verified = u ∧
      ((checkpoint = some outcome.nextCheckpoint ∧ outcome.nextCheckpoint.sequence = u.sequence ∧
          outcome.nextCheckpoint.manifestSha256 = u.manifestSha256) ∨
        (outcome.nextCheckpoint = UpdateCheckpoint.fromVerified u ∧
          ∀ c, checkpoint = some c → c.sequence < u.sequence)) := by
  cases checkpoint with
  | none =>
    simp only [admitUpdate, Except.ok.injEq] at h
    subst h
    exact ⟨rfl,.inr ⟨rfl,fun _ hc => by cases hc⟩⟩
  | some existing =>
    simp only [admitUpdate] at h
    split_ifs at h with hlt heq hdigest
    · cases h
      exact ⟨rfl,.inl ⟨rfl,heq.symm,(not_not.mp hdigest).symm⟩⟩
    · cases h
      refine ⟨rfl,.inr ⟨rfl,fun c hc => ?_⟩⟩
      cases hc
      omega

/-! Two releases and a device that may take them. -/

namespace UpdateSample

/-- Toy digests: the number of bytes, the sequence. -/
scoped instance hash : UpdateHash where
  sha256 bytes := BitVec.ofNat 256 bytes.length
  manifestSha256 m := BitVec.ofNat 256 m.sequence
  receiptSha256 r := BitVec.ofNat 256 r.sequence

def manifest (sequence : Nat) : SignedUpdateManifest :=
  { sequence := sequence
    releaseId := "release"
    releaseVersion := "9.0.0"
    platform := .linux
    architecture := .x86_64
    releaseRing := .stable
    rollout := ⟨10000,"seed"⟩
    issuedAtUnix := 1000
    notBeforeUnix := 1100
    expiresAtUnix := 3000
    artifact := ⟨"https://updates.example.test/slot.raw",1,1⟩
    emergencyRollback := false
    signature := "" }

def first : VerifiedUpdate := ⟨manifest 1,by constructor <;> decide⟩

def second : VerifiedUpdate := ⟨manifest 2,by constructor <;> decide⟩

def context : UpdateContext := ⟨"KA-0123456789abcdef01234567",.linux,.x86_64,.stable,1500⟩

end UpdateSample

end KernAid.Update
