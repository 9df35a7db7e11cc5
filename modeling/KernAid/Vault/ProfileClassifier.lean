import KernAid.CrashLogic
import KernAid.ShiftRegister

/-! The checksums by which the vault's file system and its journal are recognised. -/

set_option autoImplicit false

namespace KernAid.Vault

open CrashLogic ShiftRegister

/-- One turn of the inner loop, with the wrapping subtraction that makes the mask. -/
def crcShift (checksum : UInt32) : UInt32 :=
  let mask := 0 - (checksum &&& 1)
  (checksum >>> 1) ^^^ (0x82f63b78 &&& mask)

def crcByte (checksum : UInt32) (byte : UInt8) : UInt32 := crcShift^[8] (checksum ^^^ byte.toUInt32)

def crc32c (checksum : UInt32) (bytes : List UInt8) : UInt32 := bytes.foldl crcByte checksum

/-- `value.get(a..b)` -/
def slice (value : List UInt8) (a b : Nat) : List UInt8 := (value.take b).drop a

/-- `value[a..b].fill(0)` -/
def fillZero (value : List UInt8) (a b : Nat) : List UInt8 :=
  value.take a ++ List.replicate (b - a) 0 ++ value.drop b

def fromLeBytes (bytes : List UInt8) : Nat := bytes.foldr (fun b n => b.toNat + 256 * n) 0

def leU16 (value : List UInt8) (offset : Nat) : Option UInt16 :=
  let bytes := slice value offset (offset + 2)
  if bytes.length = 2 then some (UInt16.ofNat (fromLeBytes bytes)) else none

def leU32 (value : List UInt8) (offset : Nat) : Option UInt32 :=
  let bytes := slice value offset (offset + 4)
  if bytes.length = 4 then some (UInt32.ofNat (fromLeBytes bytes)) else none

def beU32 (value : List UInt8) (offset : Nat) : Option UInt32 :=
  let bytes := slice value offset (offset + 4)
  if bytes.length = 4 then some (UInt32.ofNat (fromLeBytes bytes.reverse)) else none

def toLeBytes (n : UInt32) : List UInt8 :=
  [n.toUInt8,(n >>> 8).toUInt8,(n >>> 16).toUInt8,(n >>> 24).toUInt8]

/-- `u64::checked_mul` -/
def checkedMul (a b : Nat) : Option Nat := if a * b < 2 ^ 64 then some (a * b) else none

/-- `u64::checked_add` -/
def checkedAdd (a b : Nat) : Option Nat := if a + b < 2 ^ 64 then some (a + b) else none

def vaultPayloadBytes : Nat := 16777216 * 512 - 16777216

def ext4BlockBytes : Nat := 4096

def ext4BlocksPerGroup : Nat := 32768

def ext4BytesPerInode : Nat := 16384

def ext4IncompatFeatures : UInt32 := 0x2c2

def ext4IncompatFeaturesWithRecovery : UInt32 := ext4IncompatFeatures ||| 4

def ext4JournalBytes : Nat := 128 * 1024 * 1024

def ext4JournalBlocks : Nat := ext4JournalBytes / ext4BlockBytes

def jbd2ChecksumOffset : Nat := 0xfc

def jbd2FeatureIncompat64BitCsumV3 : UInt32 := 0x12

def jbd2Crc32cChecksumType : UInt8 := 4

inductive ProfileClassifierError where
  | invalidCanonicalProfile
  | invalidDescriptor
  | mediaChanged
  | operationTimedOut
  deriving DecidableEq, Repr

inductive Ext4CheckPhase where
  | preMount
  | mounted
  deriving DecidableEq, Repr

inductive Ext4RuntimeProfile where
  | cleanUnmounted
  | journalRecovery
  deriving DecidableEq, Repr

structure Ext4ProfileEvidence where
  uuid : List UInt8
  journalStartBlock : Nat
  deriving DecidableEq, Repr

def classifyExt4RuntimeProfile (state : Option UInt16) (incompat lastOrphan : Option UInt32) :
    Option Ext4RuntimeProfile :=
  if state = some 1 ∧ incompat = some ext4IncompatFeatures ∧ lastOrphan = some 0 then
    some .cleanUnmounted
  else if state = some 1 ∧ incompat = some ext4IncompatFeaturesWithRecovery ∧ lastOrphan = some 0 then
    some .journalRecovery
  else none

def canonicalUuidBytes (value : List UInt8) : Prop :=
  value[6]?.map (fun b : UInt8 => b >>> 4) = some 4 ∧
    value[8]?.map (fun b : UInt8 => b &&& 0xc0) = some 0x80

instance (value : List UInt8) : Decidable (canonicalUuidBytes value) :=
  inferInstanceAs (Decidable (_ ∧ _))

def checksumV3Valid (superblock : List UInt8) : Prop :=
  superblock[0x50]? = some jbd2Crc32cChecksumType ∧
    beU32 superblock jbd2ChecksumOffset =
      some (crc32c (~~~0) (fillZero superblock jbd2ChecksumOffset (jbd2ChecksumOffset + 4)))

instance (superblock : List UInt8) : Decidable (checksumV3Valid superblock) :=
  inferInstanceAs (Decidable (_ ∧ _))

/-- `(first..maxlen).contains(&block)` for the first block and the length the journal must have. -/
def inJournal (block : UInt32) : Prop := 1 ≤ block ∧ block < UInt32.ofNat ext4JournalBlocks

instance (block : UInt32) : Decidable (inJournal block) := inferInstanceAs (Decidable (_ ∧ _))

/-- The fields a journal superblock has in every runtime profile. -/
def jbd2FieldsValid (superblock filesystemUuid : List UInt8) (sequence : UInt32) : Prop :=
  (∀ field ∈ [(0x00,0xc03b3998),(0x04,4),(0x08,0),(0x0c,UInt32.ofNat ext4BlockBytes),
      (0x10,UInt32.ofNat ext4JournalBlocks),(0x14,1),(0x20,0),(0x24,0),(0x2c,0),(0x40,1),(0x44,0),
      (0x48,0),(0x4c,0),(0x54,0)], beU32 superblock field.1 = some field.2) ∧
    sequence ≠ 0 ∧ slice superblock 0x30 0x40 = filesystemUuid ∧
    (∀ byte ∈ slice superblock 0x51 0x54 ++ slice superblock 0x5c jbd2ChecksumOffset ++
      superblock.drop 0x100, byte = 0)

instance (superblock filesystemUuid : List UInt8) (sequence : UInt32) :
    Decidable (jbd2FieldsValid superblock filesystemUuid sequence) :=
  inferInstanceAs (Decidable (_ ∧ _))

def verifyJbd2Superblock (superblock filesystemUuid : List UInt8)
    (runtimeProfile : Ext4RuntimeProfile) : Bool := Option.isSome do
  let sequence ← beU32 superblock 0x18
  let start ← beU32 superblock 0x1c
  let incompatFeatures ← beU32 superblock 0x28
  let head ← beU32 superblock 0x58
  let storedChecksum ← beU32 superblock jbd2ChecksumOffset
  guard (jbd2FieldsValid superblock filesystemUuid sequence)
  match runtimeProfile with
  | .cleanUnmounted =>
    if incompatFeatures = 0 then
      guard (sequence = 1 ∧ start = 0 ∧ superblock[0x50]? = some 0 ∧ head = 0 ∧ storedChecksum = 0)
    else if incompatFeatures = jbd2FeatureIncompat64BitCsumV3 then
      guard (start = 0 ∧ inJournal head ∧ checksumV3Valid superblock)
    else none
  | .journalRecovery => do
    guard (incompatFeatures = jbd2FeatureIncompat64BitCsumV3)
    guard (inJournal start ∧ (head = 0 ∨ inJournal head) ∧ checksumV3Valid superblock)

abbrev BlockFile := Nat → Option UInt8

/-- Reads until the target is full; the end of the device and read failures are one error. -/
def readExactAt (file : BlockFile) (length offset : Nat) :
    Except ProfileClassifierError (List UInt8) :=
  okOr ((List.range length).mapM fun i => file (offset + i)) .mediaChanged

def runtimeFieldsValid (phase : Ext4CheckPhase) (runtimeProfile : Option Ext4RuntimeProfile) : Prop :=
  match phase with
  | .preMount => runtimeProfile = some .cleanUnmounted ∨ runtimeProfile = some .journalRecovery
  | .mounted => runtimeProfile = some .journalRecovery

instance (phase : Ext4CheckPhase) (runtimeProfile : Option Ext4RuntimeProfile) :
    Decidable (runtimeFieldsValid phase runtimeProfile) :=
  match phase with
  | .preMount => inferInstanceAs (Decidable (_ ∨ _))
  | .mounted => inferInstanceAs (Decidable (_ = _))

/-- `KERNAID_VAULT`, padded with zeros. -/
def expectedLabel : List UInt8 := [75,69,82,78,65,73,68,95,86,65,85,76,84,0,0,0]

/-- The fields of the superblock that do not depend on each other. -/
def superblockFieldsValid (superblock : List UInt8) : Prop :=
  (∀ field ∈ [(0x38,0xef53),(0x36,0xffff),(0x3c,2),(0x50,0),(0x52,0),(0x58,256),(0xfe,64),(0x15c,32),
      (0x15e,32),(0x164,0)], leU16 superblock field.1 = some field.2) ∧
    (∀ field ∈ [(0x14,0),(0x18,2),(0x1c,2),(0x20,UInt32.ofNat ext4BlocksPerGroup),
      (0x24,UInt32.ofNat ext4BlocksPerGroup),(0x44,0),(0x48,0),(0x4c,1),(0x54,11),
      (0x5c,0x3c),(0x64,0x46b),
      (0xe0,8),(0xe4,0),(0x100,0),(0x104,0),(0x148,0),(0x14c,UInt32.ofNat ext4JournalBytes),(0x160,1),
      (0x170,0)], leU32 superblock field.1 = some field.2) ∧
    slice superblock 0x78 0x88 = expectedLabel ∧ (∀ byte ∈ slice superblock 0xd0 0xe0, byte = 0) ∧
    ∀ field ∈ [(0xfd,1),(0x174,4),(0x175,1),(0x176,0),(0x177,0)], superblock[field.1]? = some field.2

instance (superblock : List UInt8) : Decidable (superblockFieldsValid superblock) :=
  inferInstanceAs (Decidable (_ ∧ _))

/-- The fields of the journal's inode that do not depend on each other, and of its extent. -/
def inodeFieldsValid (inode extent : List UInt8) : Prop :=
  (∀ field ∈ [(0x00,0x8180),(0x02,0),(0x18,0),(0x1a,1),(0x76,0),(0x78,0),(0x7a,0),(0x80,32)],
      leU16 inode field.1 = some field.2) ∧
    (∀ field ∈ [(0x14,0),(0x20,0x80000),(0x68,0),(0x70,0),(0x9c,0)], leU32 inode field.1 = some field.2) ∧
    (∀ field ∈ [(0x00,0xf30a),(0x02,1),(0x04,4),(0x06,0)], leU16 extent field.1 = some field.2) ∧
    (∀ field ∈ [(0x08,0),(0x0c,0)], leU32 extent field.1 = some field.2) ∧
    ∀ byte ∈ extent.drop 0x18, byte = 0

instance (inode extent : List UInt8) : Decidable (inodeFieldsValid inode extent) :=
  inferInstanceAs (Decidable (_ ∧ _))

/-- `Ok(None)` is the failure of the inner monad, an error that of the outer one. `revalidate` is
given the number of its earlier calls. -/
def parseExt4Profile (file : BlockFile) (revalidate : Nat → Except ProfileClassifierError Unit)
    (phase : Ext4CheckPhase) : OptionT (Except ProfileClassifierError) Ext4ProfileEvidence := do
  let superblock ← OptionT.lift (readExactAt file 1024 1024)
  OptionT.lift (revalidate 0)
  let blocksLo ← OptionT.mk (pure (leU32 superblock 0x04))
  let blocksHi ← OptionT.mk (pure (leU32 superblock 0x150))
  let blocksCount := blocksLo.toNat ||| (blocksHi.toNat <<< 32)
  let inodesCount ← OptionT.mk (pure (leU32 superblock 0x00))
  let inodesPerGroup ← OptionT.mk (pure (leU32 superblock 0x28))
  let groups := (blocksCount + (ext4BlocksPerGroup - 1)) / ext4BlocksPerGroup
  let reservedLo ← OptionT.mk (pure (leU32 superblock 0x08))
  let reservedHi ← OptionT.mk (pure (leU32 superblock 0x154))
  let reservedBlocks := reservedLo.toNat ||| (reservedHi.toNat <<< 32)
  let storedSuperChecksum ← OptionT.mk (pure (leU32 superblock 0x3fc))
  let calculatedSuperChecksum := crc32c (~~~0) (slice superblock 0 0x3fc)
  let runtimeProfile := classifyExt4RuntimeProfile (leU16 superblock 0x3a) (leU32 superblock 0x60)
    (leU32 superblock 0xe8)
  guard (runtimeFieldsValid phase runtimeProfile ∧ superblockFieldsValid superblock ∧ reservedBlocks = 0 ∧
    checkedMul blocksCount ext4BlockBytes = some vaultPayloadBytes ∧
    checkedMul inodesCount.toNat ext4BytesPerInode = some vaultPayloadBytes ∧ inodesPerGroup ≠ 0 ∧
    checkedMul inodesPerGroup.toNat groups = some inodesCount.toNat ∧
    storedSuperChecksum = calculatedSuperChecksum)
  let filesystemUuid := slice superblock 0x68 0x78
  guard (canonicalUuidBytes filesystemUuid)
  let groupDescriptor ← OptionT.lift (readExactAt file 64 ext4BlockBytes)
  OptionT.lift (revalidate 1)
  let storedGroupChecksum ← OptionT.mk (pure (leU16 groupDescriptor 0x1e))
  let checksumDescriptor := fillZero groupDescriptor 0x1e 0x20
  let checksumSeed := crc32c (~~~0) filesystemUuid
  let groupChecksum := crc32c (crc32c checksumSeed (toLeBytes 0)) checksumDescriptor
  let tableLo ← OptionT.mk (pure (leU32 groupDescriptor 0x08))
  let tableHi ← OptionT.mk (pure (leU32 groupDescriptor 0x28))
  let inodeTable := tableLo.toNat ||| (tableHi.toNat <<< 32)
  let inodeOffset ← OptionT.mk (pure ((checkedMul inodeTable ext4BlockBytes).bind
    fun offset => checkedAdd offset (7 * 256)))
  guard (storedGroupChecksum = groupChecksum.toUInt16 ∧ leU16 groupDescriptor 0x12 = some 4 ∧
    inodeTable ≠ 0 ∧ (checkedAdd inodeOffset 256).any (· ≤ vaultPayloadBytes))
  let inode ← OptionT.lift (readExactAt file 256 inodeOffset)
  OptionT.lift (revalidate 2)
  let checksumLo ← OptionT.mk (pure (leU16 inode 0x7c))
  let checksumHi ← OptionT.mk (pure (leU16 inode 0x82))
  let storedInodeChecksum := checksumLo.toUInt32 ||| (checksumHi.toUInt32 <<< 16)
  let generation ← OptionT.mk (pure (leU32 inode 0x64))
  let checksumInode := fillZero (fillZero inode 0x7c 0x7e) 0x82 0x84
  let inodeChecksum := crc32c (crc32c (crc32c checksumSeed (toLeBytes 8)) (toLeBytes generation))
    checksumInode
  let sizeLo ← OptionT.mk (pure (leU32 inode 0x04))
  let sizeHi ← OptionT.mk (pure (leU32 inode 0x6c))
  let blocks512Lo ← OptionT.mk (pure (leU32 inode 0x1c))
  let blocks512Hi ← OptionT.mk (pure (leU16 inode 0x74))
  let inodeBlocks512 := blocks512Lo.toNat ||| (blocks512Hi.toNat <<< 32)
  let extent := slice inode 0x28 0x64
  let startLo ← OptionT.mk (pure (leU32 extent 0x14))
  let startHi ← OptionT.mk (pure (leU16 extent 0x12))
  let extentStart := startLo.toNat ||| (startHi.toNat <<< 32)
  let extentLength ← OptionT.mk (pure (leU16 extent 0x10))
  guard (inodeFieldsValid inode extent ∧ sizeLo.toNat ||| (sizeHi.toNat <<< 32) = ext4JournalBytes ∧
    checkedMul inodeBlocks512 512 = some ext4JournalBytes ∧ storedInodeChecksum = inodeChecksum ∧
    extent = slice superblock 0x10c 0x148 ∧ extentLength.toNat = ext4JournalBlocks ∧ extentStart ≠ 0 ∧
    (checkedAdd extentStart extentLength.toNat).any (· ≤ blocksCount))
  if phase = .preMount then
    let runtimeProfile ← OptionT.mk (pure runtimeProfile)
    let journalOffset ← OptionT.lift (okOr (checkedMul extentStart ext4BlockBytes) .invalidDescriptor)
    let journalSuperblock ← OptionT.lift (readExactAt file 1024 journalOffset)
    OptionT.lift (revalidate 3)
    guard (verifyJbd2Superblock journalSuperblock filesystemUuid runtimeProfile)
  pure ⟨filesystemUuid,extentStart⟩

def crcPolynomial : BitVec 32 := 0x82f63b78#32

def crcBits (bytes : List UInt8) : List Bool :=
  bytes.flatMap fun byte => (List.range 8).map byte.toBitVec.getLsbD

theorem crcShift_toBitVec (checksum : UInt32) :
    (crcShift checksum).toBitVec = step crcPolynomial checksum.toBitVec := by
  have hmask : 0#32 - (checksum.toBitVec &&& 1#32) =
      if checksum.toBitVec.getLsbD 0 then BitVec.allOnes 32 else 0#32 := by
    rw [BitVec.and_one_eq_setWidth_ofBool_getLsbD]
    cases checksum.toBitVec.getLsbD 0 <;> decide
  have hshift : (crcShift checksum).toBitVec = (checksum.toBitVec >>> 1) ^^^
      (crcPolynomial &&& (0#32 - (checksum.toBitVec &&& 1#32))) := rfl
  rw [hshift, hmask, step]
  cases checksum.toBitVec.getLsbD 0 with
  | false => simp
  | true => rw [if_pos rfl, if_pos rfl, BitVec.and_allOnes]

theorem packed_byteBits (byte : UInt8) :
    packed 32 ((List.range 8).map byte.toBitVec.getLsbD) = byte.toUInt32.toBitVec := by
  apply BitVec.eq_of_getLsbD_eq
  intro i hi
  rw [getLsbD_packed, UInt8.toBitVec_toUInt32, BitVec.getLsbD_setWidth]
  congr 1
  by_cases hlow : i < 8
  · simp [List.getD_eq_getElem?_getD, hlow]
  · rw [List.getD_eq_default _ _ (by simp; omega), BitVec.getLsbD_of_ge _ _ (by omega)]

theorem crcByte_toBitVec (checksum : UInt32) (byte : UInt8) : (crcByte checksum byte).toBitVec =
    feed crcPolynomial checksum.toBitVec ((List.range 8).map byte.toBitVec.getLsbD) := by
  rw [feed_eq_iterate (by simp), packed_byteBits, ← UInt32.toBitVec_xor,
    List.length_map, List.length_range, crcByte]
  generalize checksum ^^^ byte.toUInt32 = c
  exact (Function.Semiconj.iterate_right crcShift_toBitVec 8).eq c

theorem crc32c_toBitVec (checksum : UInt32) (bytes : List UInt8) :
    (crc32c checksum bytes).toBitVec = feed crcPolynomial checksum.toBitVec (crcBits bytes) := by
  induction bytes generalizing checksum with
  | nil => rfl
  | cons byte bytes ih =>
    rw [crcBits, List.flatMap_cons, feed_append, ← crcByte_toBitVec]
    exact ih _

example : crc32c (~~~0) [49,50,51,52,53,54,55,56,57] = ~~~0xe3069283 := by decide +kernel

theorem crc32c_append (checksum : UInt32) (first second : List UInt8) :
    crc32c checksum (first ++ second) = crc32c (crc32c checksum first) second := List.foldl_append

theorem getElem?_crcBits (bytes : List UInt8) (k j : Nat) (hj : j < 8) :
    (crcBits bytes)[8 * k + j]? = bytes[k]?.map fun byte => byte.toBitVec.getLsbD j := by
  induction bytes generalizing k with
  | nil => simp [crcBits]
  | cons byte bytes ih =>
    rw [crcBits, List.flatMap_cons]
    cases k with
    | zero =>
      rw [List.getElem?_append_left (by simpa using hj)]
      simp [hj]
    | succ k =>
      rw [List.getElem?_append_right (by simp; omega)]
      have hindex : 8 * (k + 1) + j - ((List.range 8).map byte.toBitVec.getLsbD).length = 8 * k + j := by
        simp
        omega
      rw [hindex]
      exact ih k

theorem byte_eq_of_bits {a b : List UInt8} {k : Nat}
    (h : ∀ j < 8, (crcBits a)[8 * k + j]? = (crcBits b)[8 * k + j]?) : a[k]? = b[k]? := by
  have hbits : ∀ j < 8, (a[k]?.map fun byte => byte.toBitVec.getLsbD j) =
      b[k]?.map fun byte => byte.toBitVec.getLsbD j := by
    intro j hj
    rw [← getElem?_crcBits a k j hj, ← getElem?_crcBits b k j hj, h j hj]
  cases ha : a[k]? with
  | none =>
    cases hb : b[k]? with
    | none => rfl
    | some y => simpa [ha, hb] using hbits 0 (by omega)
  | some x =>
    cases hb : b[k]? with
    | none => simpa [ha, hb] using hbits 0 (by omega)
    | some y =>
      have hxy : x.toBitVec = y.toBitVec := by
        apply BitVec.eq_of_getLsbD_eq
        intro j hj
        simpa [ha, hb] using hbits j hj
      rw [UInt8.toBitVec_inj.mp hxy]

/-- Byte strings of one length that differ, and only within 32 consecutive bits. -/
structure BurstApart (a b : List UInt8) : Prop where
  length : a.length = b.length
  window : ∃ start, ∀ i, i < start ∨ start + 32 ≤ i → (crcBits a)[i]? = (crcBits b)[i]?
  differ : a ≠ b

theorem length_crcBits (bytes : List UInt8) : (crcBits bytes).length = 8 * bytes.length := by
  simp [crcBits, Nat.mul_comm]

theorem crc32c_ne_of_burst {a b : List UInt8} (h : BurstApart a b) (checksum : UInt32) :
    crc32c checksum a ≠ crc32c checksum b := by
  obtain ⟨start,hwindow⟩ := h.window
  have hlength : (crcBits a).length = (crcBits b).length := by
    rw [length_crcBits, length_crcBits, h.length]
  have hbits : crcBits a ≠ crcBits b := by
    intro heq
    apply h.differ
    apply List.ext_getElem?
    intro k
    exact byte_eq_of_bits fun j _ => by rw [heq]
  intro heq
  have hfeed := congrArg UInt32.toBitVec heq
  rw [crc32c_toBitVec, crc32c_toBitVec] at hfeed
  exact feed_ne_of_burst (by decide) ⟨hlength,hwindow⟩ hbits hfeed

variable {a b : List UInt8}

theorem run_bind_eq {ε α β : Type} {x : OptionT (Except ε) α} {f : α → OptionT (Except ε) β} {r : β} :
    (x >>= f).run = .ok (some r) ↔ ∃ v, x.run = .ok (some v) ∧ (f v).run = .ok (some r) := by
  rw [OptionT.run_bind]
  cases hx : x.run with
  | error e => simp [Option.elimM, bind, Except.bind]
  | ok v => cases v <;> simp [Option.elimM, bind, Except.bind, pure, Except.pure]

theorem run_guard_eq {ε : Type} {p : Prop} [Decidable p] {u : Unit} :
    (guard p : OptionT (Except ε) Unit).run = .ok (some u) ↔ p := by
  by_cases h : p
  · rw [guard, if_pos h, OptionT.run_pure]
    exact ⟨fun _ => h,fun _ => rfl⟩
  · rw [guard, if_neg h, OptionT.run_failure]
    simp [h, pure, Except.pure]

theorem parseExt4Profile_checksum {file : BlockFile} {superblock : List UInt8}
    {revalidate : Nat → Except ProfileClassifierError Unit} {phase : Ext4CheckPhase}
    {evidence : Ext4ProfileEvidence} (hread : readExactAt file 1024 1024 = .ok superblock)
    (h : (parseExt4Profile file revalidate phase).run = .ok (some evidence)) :
    leU32 superblock 0x3fc = some (crc32c (~~~0) (slice superblock 0 0x3fc)) := by
  rw [parseExt4Profile, run_bind_eq] at h
  obtain ⟨superblock',hsuperblock,h⟩ := h
  obtain rfl : superblock' = superblock := by
    rw [OptionT.run_lift, hread] at hsuperblock
    simpa [bind, Except.bind, pure, Except.pure, eq_comm] using hsuperblock
  simp only [run_bind_eq, run_guard_eq, OptionT.run_mk] at h
  obtain ⟨_,_,_,_,_,_,_,_,_,_,_,_,_,_,stored,hstored,_,hguard,_⟩ := h
  rw [← hguard.2.2.2.2.2.2.2]
  exact Except.ok.inj hstored

theorem verifyJbd2Superblock_spec {superblock uuid : List UInt8} {profile : Ext4RuntimeProfile}
    (h : verifyJbd2Superblock superblock uuid profile = true) :
    (∃ sequence, jbd2FieldsValid superblock uuid sequence) ∧
      (beU32 superblock 0x28 = some jbd2FeatureIncompat64BitCsumV3 ∧ checksumV3Valid superblock ∨
        beU32 superblock 0x28 = some 0 ∧ superblock[0x50]? = some 0) := by
  simp only [verifyJbd2Superblock, Option.isSome_iff_exists, Option.bind_eq_bind,
    Option.bind_eq_some_iff] at h
  obtain ⟨_,sequence,_,start,_,features,hfeatures,head,_,stored,_,_,hfields,h⟩ := h
  rw [Option.guard_eq_some'] at hfields
  refine ⟨⟨sequence,hfields⟩,?_⟩
  rw [hfeatures]
  cases profile with
  | cleanUnmounted =>
    dsimp only at h
    split_ifs at h with hplain hchecked
    · rw [Option.guard_eq_some'] at h
      exact .inr ⟨by rw [hplain],h.2.2.1⟩
    · rw [Option.guard_eq_some'] at h
      exact .inl ⟨by rw [hchecked],h.2.2⟩
  | journalRecovery =>
    simp only [Option.bind_eq_some_iff, Option.guard_eq_some'] at h
    obtain ⟨_,hchecked,h⟩ := h
    exact .inl ⟨by rw [hchecked],h.2.2⟩

theorem slice_congr {lo hi : Nat} (h : ∀ k, lo ≤ k → k < hi → a[k]? = b[k]?) :
    slice a lo hi = slice b lo hi := by
  apply List.ext_getElem?
  intro k
  simp only [slice, List.getElem?_drop, List.getElem?_take]
  split_ifs with hk
  · exact h _ (by omega) hk
  · rfl

theorem getElem?_of_slice {lo hi k : Nat} (h : slice a lo hi = slice b lo hi) (hlo : lo ≤ k)
    (hhi : k < hi) : a[k]? = b[k]? := by
  have hk := congrArg (fun s => s[k - lo]?) h
  simpa [slice, List.getElem?_drop, List.getElem?_take, Nat.add_sub_cancel' hlo, hhi] using hk

theorem fromLeBytes_injective (hlength : a.length = b.length) (h : fromLeBytes a = fromLeBytes b) :
    a = b := by
  induction a generalizing b with
  | nil => exact (List.length_eq_zero_iff.mp hlength.symm).symm
  | cons x a ih =>
    obtain ⟨y,b,rfl⟩ := List.exists_cons_of_length_eq_add_one hlength.symm
    simp only [fromLeBytes, List.foldr_cons] at h
    have hx := x.toNat_lt
    have hy := y.toNat_lt
    have hhead : x.toNat = y.toNat := by omega
    have htail : fromLeBytes a = fromLeBytes b := by
      rw [fromLeBytes, fromLeBytes]
      omega
    rw [UInt8.toNat_inj.mp hhead, ih (by simpa using hlength) htail]

theorem fromLeBytes_lt (bytes : List UInt8) : fromLeBytes bytes < 256 ^ bytes.length := by
  induction bytes with
  | nil => simp [fromLeBytes]
  | cons x bytes ih =>
    have hx := x.toNat_lt
    rw [fromLeBytes] at ih ⊢
    rw [List.foldr_cons, List.length_cons, Nat.pow_succ]
    omega

theorem beU32_eq_some {offset : Nat} {v : UInt32} (h : beU32 a offset = some v) :
    offset + 4 ≤ a.length ∧ (slice a offset (offset + 4)).length = 4 ∧
      UInt32.ofNat (fromLeBytes (slice a offset (offset + 4)).reverse) = v := by
  rw [beU32] at h
  split_ifs at h with hlength
  refine ⟨?_,hlength,Option.some.inj h⟩
  simp only [slice, List.length_drop, List.length_take] at hlength
  omega

theorem slice_of_beU32 {offset : Nat} {v : UInt32} (ha : beU32 a offset = some v)
    (hb : beU32 b offset = some v) : slice a offset (offset + 4) = slice b offset (offset + 4) := by
  obtain ⟨_,hlengthA,hvalueA⟩ := beU32_eq_some ha
  obtain ⟨_,hlengthB,hvalueB⟩ := beU32_eq_some hb
  have hboundA := fromLeBytes_lt (slice a offset (offset + 4)).reverse
  have hboundB := fromLeBytes_lt (slice b offset (offset + 4)).reverse
  rw [List.length_reverse, hlengthA] at hboundA
  rw [List.length_reverse, hlengthB] at hboundB
  have hvalue := congrArg UInt32.toNat (hvalueA.trans hvalueB.symm)
  rw [UInt32.toNat_ofNat_of_lt' hboundA, UInt32.toNat_ofNat_of_lt' hboundB] at hvalue
  exact List.reverse_injective (fromLeBytes_injective (by simp [hlengthA, hlengthB]) hvalue)

theorem getElem?_fillZero {lo hi k : Nat} (hlo : lo ≤ hi) (hhi : hi ≤ a.length) :
    (fillZero a lo hi)[k]? = if lo ≤ k ∧ k < hi then some 0 else a[k]? := by
  have htake : (a.take lo).length = lo := by
    rw [List.length_take]
    omega
  rw [fillZero, List.append_assoc]
  by_cases hbefore : k < lo
  · rw [List.getElem?_append_left (by omega), List.getElem?_take, if_pos hbefore, if_neg (by omega)]
  · rw [List.getElem?_append_right (by omega), htake]
    by_cases hinside : k < hi
    · rw [List.getElem?_append_left (by simp; omega), if_pos (by omega), List.getElem?_replicate,
        if_pos (by omega)]
    · rw [List.getElem?_append_right (by simp; omega), if_neg (by omega), List.getElem?_drop]
      congr 1
      simp
      omega

theorem byte_eq_of_outside {start k : Nat}
    (h : ∀ i, i < start ∨ start + 32 ≤ i → (crcBits a)[i]? = (crcBits b)[i]?)
    (hk : 8 * k + 8 ≤ start ∨ start + 32 ≤ 8 * k) : a[k]? = b[k]? := by
  apply byte_eq_of_bits
  intro j hj
  apply h
  omega

theorem zero_around_checksum {uuid : List UInt8} {sequence : UInt32} {k : Nat}
    (h : jbd2FieldsValid a uuid sequence) (hk : 0x5c ≤ k ∧ k < 0xfc ∨ 0x100 ≤ k)
    (hlength : k < a.length) : a[k]? = some 0 := by
  rw [List.getElem?_eq_getElem hlength]
  congr 1
  apply h.2.2.2
  simp only [List.mem_append]
  obtain hk | hk := hk
  · refine .inl (.inr (List.mem_of_getElem? (i := k - 0x5c) ?_))
    rw [slice, List.getElem?_drop, Nat.add_sub_cancel' hk.1, jbd2ChecksumOffset, List.getElem?_take,
      if_pos hk.2, List.getElem?_eq_getElem hlength]
  · refine .inr (List.mem_of_getElem? (i := k - 0x100) ?_)
    rw [List.getElem?_drop, Nat.add_sub_cancel' hk, List.getElem?_eq_getElem hlength]

/-- The journal superblock with its checksum taken out, as it is checksummed. -/
abbrev unsealed (superblock : List UInt8) : List UInt8 :=
  fillZero superblock jbd2ChecksumOffset (jbd2ChecksumOffset + 4)

theorem getElem?_unsealed {k : Nat} (hlength : 0x100 ≤ a.length) :
    (unsealed a)[k]? = if 0xfc ≤ k ∧ k < 0x100 then some 0 else a[k]? :=
  getElem?_fillZero (by decide) hlength

theorem burst_unsealed (h : BurstApart a b) (hlength : 0x100 ≤ a.length) (hne : unsealed a ≠ unsealed b) :
    BurstApart (unsealed a) (unsealed b) := by
  obtain ⟨start,hwindow⟩ := h.window
  have hlengthB : 0x100 ≤ b.length := h.length ▸ hlength
  refine ⟨?_,⟨start,fun i hi => ?_⟩,hne⟩
  · simp [fillZero, h.length]
  · have hbit := hwindow i hi
    rw [← Nat.div_add_mod i 8] at hbit ⊢
    rw [getElem?_crcBits _ _ _ (by omega), getElem?_crcBits _ _ _ (by omega)] at hbit ⊢
    rw [getElem?_unsealed hlength, getElem?_unsealed hlengthB]
    split_ifs
    · rfl
    · exact hbit

theorem unsealed_eq_of_checksum_ne {uuid uuid' : List UInt8} {sequence sequence' : UInt32}
    (h : BurstApart a b) (ha : jbd2FieldsValid a uuid sequence) (hb : jbd2FieldsValid b uuid' sequence')
    (hlength : 0x100 ≤ a.length) (hne : slice a 0xfc 0x100 ≠ slice b 0xfc 0x100) :
    unsealed a = unsealed b := by
  obtain ⟨start,hwindow⟩ := h.window
  have hnear : ∃ k, 0xfc ≤ k ∧ k < 0x100 ∧ a[k]? ≠ b[k]? := by
    by_contra hall
    push Not at hall
    exact hne (slice_congr hall)
  obtain ⟨near,hlo,hhi,hdiffer⟩ := hnear
  have hstart : 0xf8 * 8 < start ∧ start < 0x100 * 8 := by
    by_contra hfar
    exact hdiffer (byte_eq_of_outside hwindow (by omega))
  apply List.ext_getElem?
  intro k
  rw [getElem?_unsealed hlength, getElem?_unsealed (h.length ▸ hlength)]
  split_ifs with hinside
  · rfl
  · by_cases hzero : 0x5c ≤ k
    · by_cases hk : k < a.length
      · rw [zero_around_checksum ha (by omega) hk, zero_around_checksum hb (by omega) (h.length ▸ hk)]
      · rw [List.getElem?_eq_none (by omega), List.getElem?_eq_none (by have := h.length; omega)]
    · exact byte_eq_of_outside hwindow (by omega)

theorem eq_of_unsealed_eq (hlength : 0x100 ≤ a.length) (hlengthB : 0x100 ≤ b.length)
    (h : unsealed a = unsealed b) (hfield : slice a 0xfc 0x100 = slice b 0xfc 0x100) : a = b := by
  apply List.ext_getElem?
  intro k
  by_cases hk : 0xfc ≤ k ∧ k < 0x100
  · exact getElem?_of_slice hfield hk.1 hk.2
  · have hkept := congrArg (fun s => s[k]?) h
    rwa [getElem?_unsealed hlength, getElem?_unsealed hlengthB, if_neg hk, if_neg hk] at hkept

/-- No burst in a journal superblock of version 3, its checksum included, leaves an accepted one. -/
theorem verifyJbd2Superblock_burst {uuid uuid' : List UInt8} {profile profile' : Ext4RuntimeProfile}
    (h : BurstApart a b) (ha : verifyJbd2Superblock a uuid profile = true)
    (hversion : beU32 a 0x28 = some jbd2FeatureIncompat64BitCsumV3) :
    verifyJbd2Superblock b uuid' profile' = false := by
  by_contra hb
  rw [Bool.not_eq_false] at hb
  obtain ⟨⟨sequence,hfieldsA⟩,⟨-,htypeA,hsumA⟩ | ⟨hplain,-⟩⟩ := verifyJbd2Superblock_spec ha
  swap
  · cases hversion.symm.trans hplain
  obtain ⟨start,hwindow⟩ := h.window
  obtain ⟨⟨sequence',hfieldsB⟩,⟨-,-,hsumB⟩ | ⟨hplain,htypeB⟩⟩ := verifyJbd2Superblock_spec hb
  · have hlengthA := (beU32_eq_some hsumA).1
    have hlengthB := (beU32_eq_some hsumB).1
    have hunsealed : unsealed a = unsealed b := by
      by_contra hne
      apply crc32c_ne_of_burst (burst_unsealed h hlengthA hne) (~~~0)
      by_contra hsum
      have hfield : slice a 0xfc 0x100 ≠ slice b 0xfc 0x100 := by
        intro hfield
        rw [beU32, show slice a jbd2ChecksumOffset (jbd2ChecksumOffset + 4) = _ from hfield] at hsumA
        exact hsum (Option.some.inj (hsumA.symm.trans hsumB))
      exact hne (unsealed_eq_of_checksum_ne h hfieldsA hfieldsB hlengthA hfield)
    rw [show fillZero b _ _ = fillZero a _ _ from hunsealed.symm] at hsumB
    exact h.differ (eq_of_unsealed_eq hlengthA hlengthB hunsealed (slice_of_beU32 hsumA hsumB))
  · -- The checksum type and the feature word lie too far apart for one burst.
    have hnear : 0x50 * 8 < start + 32 ∧ start < 0x51 * 8 := by
      by_contra hfar
      have hsame := byte_eq_of_outside (k := 0x50) hwindow (by omega)
      rw [htypeA, htypeB] at hsame
      cases hsame
    have hfeatures : slice a 0x28 0x2c = slice b 0x28 0x2c :=
      slice_congr fun k hlo hhi => byte_eq_of_outside hwindow (by omega)
    rw [beU32, show slice a 0x28 (0x28 + 4) = _ from hfeatures] at hversion
    cases hversion.symm.trans hplain

/-- No burst in the checksummed bytes of an accepted ext4 superblock leaves an accepted one, whatever
the rest of the device and the circumstances of the second reading. -/
theorem parseExt4Profile_burst {file file' : BlockFile}
    {revalidate revalidate' : Nat → Except ProfileClassifierError Unit} {phase phase' : Ext4CheckPhase}
    {evidence evidence' : Ext4ProfileEvidence} (ha : readExactAt file 1024 1024 = .ok a)
    (hb : readExactAt file' 1024 1024 = .ok b) (h : BurstApart (slice a 0 0x3fc) (slice b 0 0x3fc))
    (hrest : a.drop 0x3fc = b.drop 0x3fc)
    (haccepted : (parseExt4Profile file revalidate phase).run = .ok (some evidence)) :
    (parseExt4Profile file' revalidate' phase').run ≠ .ok (some evidence') := by
  intro hagain
  have hsumA := parseExt4Profile_checksum ha haccepted
  have hsumB := parseExt4Profile_checksum hb hagain
  have hstored : leU32 a 0x3fc = leU32 b 0x3fc := by
    simp only [leU32, slice, List.drop_take, hrest]
  apply crc32c_ne_of_burst h (~~~0)
  exact Option.some.inj (hsumA.symm.trans (hstored.trans hsumB))

theorem crc32c_detects_bursts :
    (∀ seed first second, crc32c seed (first ++ second) = crc32c (crc32c seed first) second) ∧
      (∀ seed a b, BurstApart a b → crc32c seed a ≠ crc32c seed b) ∧
      (∀ (file file' : BlockFile) a b revalidate revalidate' phase phase' evidence evidence',
        readExactAt file 1024 1024 = .ok a → readExactAt file' 1024 1024 = .ok b →
        BurstApart (slice a 0 0x3fc) (slice b 0 0x3fc) → a.drop 0x3fc = b.drop 0x3fc →
        (parseExt4Profile file revalidate phase).run = .ok (some evidence) →
        (parseExt4Profile file' revalidate' phase').run ≠ .ok (some evidence')) ∧
      ∀ a b uuid uuid' profile profile', BurstApart a b → verifyJbd2Superblock a uuid profile = true →
        beU32 a 0x28 = some jbd2FeatureIncompat64BitCsumV3 →
        verifyJbd2Superblock b uuid' profile' = false := by
  refine ⟨crc32c_append,fun seed a b h => crc32c_ne_of_burst h seed,?_,?_⟩
  · intro file file' a b revalidate revalidate' phase phase' evidence evidence' ha hb h hrest haccepted
    exact parseExt4Profile_burst ha hb h hrest haccepted
  · intro a b uuid uuid' profile profile' h ha hversion
    exact verifyJbd2Superblock_burst h ha hversion

end KernAid.Vault
