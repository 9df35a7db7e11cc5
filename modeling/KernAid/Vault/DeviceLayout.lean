import KernAid.Vault.ProfileClassifier

/-! The partition table of a rescue image, as the tool writes it and as the locator reads it. -/

set_option autoImplicit false

namespace KernAid.Vault

open CrashLogic

abbrev LayoutError := String

def uint32Limit : Nat := 2 ^ 32

structure DeviceLayout where
  logicalSectorBytes : Nat
  vaultNumber : Nat
  vaultType : UInt8
  vaultStartLba : Nat
  vaultSectorCount : Nat

def layoutV1 : DeviceLayout := ⟨512,3,0x83,33554432,16777216⟩

def DeviceLayout.vaultStartBytes (layout : DeviceLayout) : Nat :=
  layout.vaultStartLba * layout.logicalSectorBytes

structure PartitionEntry where
  slot : Nat
  raw : List UInt8
  status : UInt8
  typeCode : UInt8
  startLba : Nat
  sectorCount : Nat

def PartitionEntry.isEmpty (entry : PartitionEntry) : Prop := entry.raw = List.replicate 16 0

instance (entry : PartitionEntry) : Decidable entry.isEmpty := inferInstanceAs (Decidable (_ = _))

def PartitionEntry.endLba (entry : PartitionEntry) : Nat := entry.startLba + entry.sectorCount

def partitionOffset (slot : Nat) : Except LayoutError Nat := do
  require (1 ≤ slot ∧ slot ≤ 4) s!"invalid MBR partition slot: {slot}"
  pure (446 + (slot - 1) * 16)

def parsePartition (mbr : List UInt8) (slot : Nat) : Except LayoutError PartitionEntry := do
  require (mbr.length = 512) "MBR read must be exactly 512 bytes"
  let offset ← partitionOffset slot
  let raw := slice mbr offset (offset + 16)
  pure {
    slot := slot
    raw := raw
    status := raw.getD 0 0
    typeCode := raw.getD 4 0
    startLba := fromLeBytes (slice raw 8 12)
    sectorCount := fromLeBytes (slice raw 12 16) }

/-- `struct.pack("<I", n)` -/
def packUint32 (n : Nat) : List UInt8 := toLeBytes (UInt32.ofNat n)

def encodePartition (status typeCode : UInt8) (startLba sectorCount : Nat) :
    Except LayoutError (List UInt8) := do
  require (0 < startLba ∧ startLba < uint32Limit)
    "partition start LBA must fit a non-zero unsigned 32-bit field"
  require (0 < sectorCount ∧ sectorCount < uint32Limit)
    "partition sector count must fit a non-zero unsigned 32-bit field"
  require (startLba + sectorCount ≤ uint32Limit) "partition end exceeds the MBR LBA address space"
  let maximumChs := [0xfe,0xff,0xff]
  pure ([status] ++ maximumChs ++ [typeCode] ++ maximumChs ++ packUint32 startLba ++
    packUint32 sectorCount)

def expectedVaultEntry (layout : DeviceLayout) : Except LayoutError (List UInt8) :=
  encodePartition 0 layout.vaultType layout.vaultStartLba layout.vaultSectorCount

def validateOccupiedPartition (entry : PartitionEntry) (imageSectorCount : Nat) :
    Except LayoutError Unit := do
  let slot := entry.slot
  require (¬ entry.isEmpty) s!"MBR partition slot {slot} must be populated"
  require (entry.status = 0x00 ∨ entry.status = 0x80) s!"MBR partition slot {slot} has invalid status"
  require (entry.startLba ≠ 0 ∧ entry.sectorCount ≠ 0)
    s!"MBR partition slot {slot} has an empty LBA range"
  require (entry.endLba ≤ uint32Limit) s!"MBR partition slot {slot} exceeds MBR bounds"
  require (entry.endLba ≤ imageSectorCount) s!"MBR partition slot {slot} extends beyond ISO EOF"

def rangesOverlap (first second : PartitionEntry) : Prop :=
  first.startLba < second.endLba ∧ second.startLba < first.endLba

instance (first second : PartitionEntry) : Decidable (rangesOverlap first second) :=
  inferInstanceAs (Decidable (_ ∧ _))

def isDebianIsohybridEnvelope (first second : PartitionEntry) : Prop :=
  first.status = 0x80 ∧ first.typeCode = 0x00 ∧ second.status = 0x00 ∧ second.typeCode = 0xef ∧
    first.startLba < second.startLba ∧ second.endLba ≤ first.endLba

instance (first second : PartitionEntry) : Decidable (isDebianIsohybridEnvelope first second) :=
  inferInstanceAs (Decidable (_ ∧ _))

/-- The tool's `_validate_mbr`: whether the third slot holds the vault's entry. -/
def validateImageMbr (mbr : List UInt8) (imageSize : Nat) (layout : DeviceLayout)
    (requireFinalized : Bool) : Except LayoutError Bool := do
  require (mbr.length = 512) "image is too small for an MBR"
  require (mbr.drop 510 = [0x55,0xaa]) "image does not have the MBR boot signature 0x55aa"
  require (imageSize < layout.vaultStartBytes) "ISO EOF must remain strictly before the vault start"
  let imageSectorCount := (imageSize + layout.logicalSectorBytes - 1) / layout.logicalSectorBytes
  let first ← parsePartition mbr 1
  let second ← parsePartition mbr 2
  let third ← parsePartition mbr 3
  let fourth ← parsePartition mbr 4
  validateOccupiedPartition first imageSectorCount
  validateOccupiedPartition second imageSectorCount
  require (first.status = 0x80) "MBR partition slot 1 must be the bootable entry"
  require (second.status = 0x00) "MBR partition slot 2 must not be bootable"
  require (first.startLba < second.startLba) "MBR partition slots 1 and 2 are not in ascending order"
  require (¬ (rangesOverlap first second ∧ ¬ isDebianIsohybridEnvelope first second))
    "MBR partition slots 1 and 2 overlap outside the Debian isohybrid envelope"
  require (¬ (first.typeCode = 0x00 ∧ ¬ isDebianIsohybridEnvelope first second))
    "MBR type-0x00 slot 1 is valid only as the Debian isohybrid envelope"
  let expected ← expectedVaultEntry layout
  require fourth.isEmpty "MBR partition slot 4 must be all-zero and reserved"
  if third.raw = expected then pure true
  else do
    require third.isEmpty "MBR partition slot 3 conflicts with immutable layout-v1"
    require (requireFinalized = false) "MBR partition slot 3 has not been finalized"
    pure false

/-- How many bytes the system moves in each call, at least one where one is asked for. -/
structure Transfers where
  count : Nat → Nat
  positive : ∀ call, 0 < count call

structure ImageFile where
  bytes : List UInt8
  writes : Nat
  deriving DecidableEq

/-- The loop of `_pread_exact`: what it gathers until a call returns nothing. -/
def preadLoop (transfers : Transfers) (bytes : List UInt8) (length offset call : Nat) : List UInt8 :=
  if length = 0 then []
  else
    let chunk := slice bytes offset (offset + min (transfers.count call) length)
    if chunk = [] then []
    else chunk ++ preadLoop transfers bytes (length - chunk.length) (offset + chunk.length) (call + 1)
  termination_by length
  decreasing_by
    have := List.length_pos_iff.mpr ‹¬ chunk = []›
    exact Nat.sub_lt (Nat.pos_of_ne_zero ‹_›) this

def preadExact (transfers : Transfers) (file : ImageFile) (length offset : Nat) :
    Except LayoutError (List UInt8) := do
  let value := preadLoop transfers file.bytes length offset 0
  require (value.length = length) s!"short image read at byte offset {offset}"
  pure value

/-- One `pwrite`. -/
def ImageFile.pwrite (file : ImageFile) (value : List UInt8) (offset : Nat) : ImageFile :=
  ⟨file.bytes.take offset ++ value ++ file.bytes.drop (offset + value.length),file.writes + 1⟩

/-- The loop of `_pwrite_exact`. -/
def pwriteExact (transfers : Transfers) (file : ImageFile) (value : List UInt8) (offset call : Nat) :
    ImageFile :=
  if value = [] then file
  else
    let count := min (transfers.count call) value.length
    pwriteExact transfers (file.pwrite (value.take count) offset) (value.drop count) (offset + count)
      (call + 1)
  termination_by value.length
  decreasing_by
    have := List.length_pos_iff.mpr ‹_›
    have := transfers.positive call
    simp only [List.length_drop]
    omega

inductive FinalizeAction where
  | verified
  | alreadyFinalized
  | finalized
  deriving DecidableEq, Repr

structure FinalizeResult where
  action : FinalizeAction
  imageSize : Nat
  vaultEntry : List UInt8
  deriving DecidableEq

def reviewImage (transfers : Transfers) (layout : DeviceLayout) (mbrBefore : List UInt8)
    (sizeBefore offset : Nat) (action : FinalizeAction) (expected : List UInt8) (file : ImageFile) :
    Except LayoutError FinalizeResult := do
  require (file.bytes.length = sizeBefore) "finalization changed the ISO file size"
  let mbrAfter ← preadExact transfers file 512 0
  let _ ← validateImageMbr mbrAfter file.bytes.length layout true
  require (mbrBefore.take offset = mbrAfter.take offset ∧
    mbrBefore.drop (offset + 16) = mbrAfter.drop (offset + 16))
    "bytes outside MBR partition slot 3 changed"
  pure ⟨action,file.bytes.length,expected⟩

/-- The answer of `process_image` and the image it leaves. -/
def processImage (transfers : Transfers) (file : ImageFile) (layout : DeviceLayout) (verifyOnly : Bool) :
    Except LayoutError FinalizeResult × ImageFile :=
  let inspected := do
    let mbrBefore ← preadExact transfers file 512 0
    let finalized ← validateImageMbr mbrBefore file.bytes.length layout verifyOnly
    let expected ← expectedVaultEntry layout
    let offset ← partitionOffset layout.vaultNumber
    pure (mbrBefore,finalized,expected,offset)
  match inspected with
  | .error e => (.error e,file)
  | .ok (mbrBefore,finalized,expected,offset) =>
    let review := reviewImage transfers layout mbrBefore file.bytes.length offset
    if verifyOnly then (review .verified expected file,file)
    else if finalized then (review .alreadyFinalized expected file,file)
    else
      let written := pwriteExact transfers file expected offset 0
      (review .finalized expected written,written)

inductive BootVaultLocatorError where
  | blockIdentityUnavailable
  | invalidVaultGeometry
  deriving DecidableEq, Repr

structure MbrEntry where
  raw : List UInt8
  status : UInt8
  kind : UInt8
  startLba : Nat
  sectorCount : Nat

def MbrEntry.isEmpty (entry : MbrEntry) : Prop := entry.raw = List.replicate 16 0

instance (entry : MbrEntry) : Decidable entry.isEmpty := inferInstanceAs (Decidable (_ = _))

def locatorVaultStartLba : Nat := 33554432

def expectedVaultMbrEntry : List UInt8 :=
  [0x00,0xfe,0xff,0xff,0x83,0xfe,0xff,0xff,0x00,0x00,0x00,0x02,0x00,0x00,0x00,0x01]

def MbrEntry.occupiedEndBeforeVault (entry : MbrEntry) : Except BootVaultLocatorError Nat := do
  let bound := (checkedAdd entry.startLba entry.sectorCount).filter (· ≤ locatorVaultStartLba)
  require (¬ entry.isEmpty ∧ (entry.status = 0x00 ∨ entry.status = 0x80) ∧ entry.startLba ≠ 0 ∧
    entry.sectorCount ≠ 0 ∧ bound.isSome) .invalidVaultGeometry
  okOr bound .invalidVaultGeometry

def parseMbrEntry (sector : List UInt8) (partitionNumber : Nat) :
    Except BootVaultLocatorError MbrEntry := do
  require (1 ≤ partitionNumber ∧ partitionNumber ≤ 4) .invalidVaultGeometry
  let offset := 446 + (partitionNumber - 1) * 16
  let raw := slice sector offset (offset + 16)
  require (raw.length = 16) .invalidVaultGeometry
  pure {
    raw := raw
    status := raw.getD 0 0
    kind := raw.getD 4 0
    startLba := fromLeBytes (slice raw 8 12)
    sectorCount := fromLeBytes (slice raw 12 16) }

/-- The locator's check of the first sector of the boot medium. -/
def validateMbr (parent : List UInt8) : Except BootVaultLocatorError Unit := do
  require (512 ≤ parent.length) .blockIdentityUnavailable
  let sector := parent.take 512
  let first ← parseMbrEntry sector 1
  let second ← parseMbrEntry sector 2
  let third ← parseMbrEntry sector 3
  let fourth ← parseMbrEntry sector 4
  let firstEnd ← first.occupiedEndBeforeVault
  let secondEnd ← second.occupiedEndBeforeVault
  let overlap := first.startLba < secondEnd ∧ second.startLba < firstEnd
  let isohybridEnvelope := first.status = 0x80 ∧ first.kind = 0x00 ∧ second.status = 0x00 ∧
    second.kind = 0xef ∧ first.startLba < second.startLba ∧ secondEnd ≤ firstEnd
  require (sector.drop 510 = [0x55,0xaa] ∧ first.status = 0x80 ∧ second.status = 0x00 ∧
    first.startLba < second.startLba ∧ ¬ (overlap ∧ ¬ isohybridEnvelope) ∧
    ¬ (first.kind = 0x00 ∧ ¬ isohybridEnvelope) ∧ third.raw = expectedVaultMbrEntry ∧ fourth.isEmpty)
    .invalidVaultGeometry

theorem slice_eq_take_drop (bytes : List UInt8) (a n : Nat) :
    slice bytes a (a + n) = (bytes.drop a).take n := by
  rw [slice, List.drop_take, Nat.add_sub_cancel_left]

theorem preadLoop_eq (transfers : Transfers) (bytes : List UInt8) (length offset call : Nat) :
    preadLoop transfers bytes length offset call = slice bytes offset (offset + length) := by
  fun_induction preadLoop transfers bytes length offset call with
  | case1 => simp [slice]
  | case2 length offset call hlength chunk hempty =>
    have hpositive := transfers.positive call
    simp only [chunk, slice_eq_take_drop, List.take_eq_nil_iff] at hempty
    rw [slice_eq_take_drop]
    rcases hempty with hzero | hend
    · omega
    · rw [hend, List.take_nil]
  | case3 length offset call hlength chunk hne ih =>
    have hchunk : chunk = (bytes.drop offset).take chunk.length := by
      rw [show chunk = _ from slice_eq_take_drop _ _ _, List.take_eq_take_iff, List.length_take]
      omega
    have hle : chunk.length ≤ length := by
      rw [show chunk = _ from slice_eq_take_drop _ _ _, List.length_take]
      omega
    rw [ih, slice_eq_take_drop, slice_eq_take_drop]
    nth_rewrite 1 [hchunk]
    rw [← List.drop_drop, ← List.take_add, Nat.add_sub_cancel' hle]

theorem preadExact_mbr {transfers : Transfers} {file : ImageFile} {mbr : List UInt8} :
    preadExact transfers file 512 0 = .ok mbr ↔ 512 ≤ file.bytes.length ∧ file.bytes.take 512 = mbr := by
  rw [preadExact, preadLoop_eq, require_bind_eq_ok, pure_eq_ok_iff]
  simp [slice]

theorem pwriteExact_bytes (transfers : Transfers) (file : ImageFile) (value : List UInt8)
    (offset call : Nat) (h : offset + value.length ≤ file.bytes.length) :
    (pwriteExact transfers file value offset call).bytes =
      file.bytes.take offset ++ value ++ file.bytes.drop (offset + value.length) := by
  fun_induction pwriteExact transfers file value offset call with
  | case1 => simp
  | case2 file value offset call hne count ih =>
    have hcount : count ≤ value.length := Nat.min_le_right _ _
    have hwritten : (file.pwrite (value.take count) offset).bytes =
        file.bytes.take offset ++ value.take count ++ file.bytes.drop (offset + count) := by
      simp [ImageFile.pwrite, hcount]
    have hsize : (file.bytes.take offset ++ value.take count).length = offset + count := by
      simp only [List.length_append, List.length_take]
      omega
    have hrest : offset + count + (value.drop count).length ≤
        (file.pwrite (value.take count) offset).bytes.length := by
      rw [hwritten]
      simp only [List.length_append, List.length_take, List.length_drop]
      omega
    have hend : offset + count + (value.drop count).length = offset + value.length := by
      rw [List.length_drop]
      omega
    have hkept : (file.pwrite (value.take count) offset).bytes.drop
        (offset + count + (value.drop count).length) = file.bytes.drop (offset + value.length) := by
      rw [← hend, hwritten, ← hsize, List.drop_length_add_append, List.drop_drop, hsize]
    rw [ih hrest, hkept, hwritten, List.take_left' hsize, List.append_assoc (file.bytes.take offset),
      List.take_append_drop]

def entryAt (mbr : List UInt8) (slot : Nat) : PartitionEntry :=
  let raw := slice mbr (446 + (slot - 1) * 16) (446 + (slot - 1) * 16 + 16)
  ⟨slot,raw,raw.getD 0 0,raw.getD 4 0,fromLeBytes (slice raw 8 12),fromLeBytes (slice raw 12 16)⟩

theorem parsePartition_eq {mbr : List UInt8} {slot : Nat} (hlength : mbr.length = 512)
    (hslot : 1 ≤ slot ∧ slot ≤ 4) : parsePartition mbr slot = .ok (entryAt mbr slot) := by
  rw [parsePartition, require, if_pos hlength, ok_bind, partitionOffset, require, if_pos hslot]
  rfl

theorem parseMbrEntry_eq {mbr : List UInt8} {slot : Nat} (hlength : mbr.length = 512)
    (hslot : 1 ≤ slot ∧ slot ≤ 4) :
    parseMbrEntry mbr slot = .ok ⟨(entryAt mbr slot).raw,(entryAt mbr slot).status,
      (entryAt mbr slot).typeCode,(entryAt mbr slot).startLba,(entryAt mbr slot).sectorCount⟩ := by
  simp only [parseMbrEntry, require_bind_eq_ok, pure_eq_ok_iff]
  refine ⟨hslot,?_,rfl⟩
  rw [slice_eq_take_drop, List.length_take, List.length_drop]
  omega

structure Occupied (entry : PartitionEntry) (sectors : Nat) : Prop where
  populated : ¬ entry.isEmpty
  range : entry.startLba ≠ 0 ∧ entry.sectorCount ≠ 0
  inside : entry.endLba ≤ sectors

structure Laid (mbr : List UInt8) (sectors : Nat) : Prop where
  length : mbr.length = 512
  signature : mbr.drop 510 = [0x55,0xaa]
  first : Occupied (entryAt mbr 1) sectors
  second : Occupied (entryAt mbr 2) sectors
  bootable : (entryAt mbr 1).status = 0x80
  passive : (entryAt mbr 2).status = 0x00
  ascending : (entryAt mbr 1).startLba < (entryAt mbr 2).startLba
  disjoint : ¬ (rangesOverlap (entryAt mbr 1) (entryAt mbr 2) ∧
    ¬ isDebianIsohybridEnvelope (entryAt mbr 1) (entryAt mbr 2))
  envelope : ¬ ((entryAt mbr 1).typeCode = 0x00 ∧
    ¬ isDebianIsohybridEnvelope (entryAt mbr 1) (entryAt mbr 2))
  reserved : (entryAt mbr 4).isEmpty

theorem expectedVaultEntry_layoutV1 : expectedVaultEntry layoutV1 = .ok expectedVaultMbrEntry := by
  decide

theorem validateOccupiedPartition_bind {β : Type} {entry : PartitionEntry} {sectors : Nat}
    {f : Unit → Except LayoutError β} {b : β} :
    (validateOccupiedPartition entry sectors >>= f) = .ok b ↔ (Occupied entry sectors ∧
      (entry.status = 0x00 ∨ entry.status = 0x80) ∧ entry.endLba ≤ uint32Limit) ∧ f () = .ok b := by
  rw [bind_ok_iff]
  simp only [validateOccupiedPartition, require_bind_eq_ok, require_eq_ok]
  constructor
  · rintro ⟨_,⟨hempty,hstatus,hrange,hlimit,hinside⟩,h⟩
    exact ⟨⟨⟨hempty,hrange,hinside⟩,hstatus,hlimit⟩,h⟩
  · rintro ⟨⟨hentry,hstatus,hlimit⟩,h⟩
    exact ⟨(),⟨hentry.populated,hstatus,hentry.range,hlimit,hentry.inside⟩,h⟩

/-- The tool's check: the image ends before the vault, and the third slot is the vault's or empty. -/
theorem validateImageMbr_eq_ok {mbr : List UInt8} {imageSize : Nat} {requireFinalized finalized : Bool} :
    validateImageMbr mbr imageSize layoutV1 requireFinalized = .ok finalized ↔
      imageSize < 33554432 * 512 ∧ Laid mbr ((imageSize + 511) / 512) ∧
        ((entryAt mbr 3).raw = expectedVaultMbrEntry ∧ finalized = true ∨
          (entryAt mbr 3).isEmpty ∧ requireFinalized = false ∧ finalized = false) := by
  have hempty : (entryAt mbr 3).isEmpty → (entryAt mbr 3).raw ≠ expectedVaultMbrEntry := by
    intro hraw
    rw [show (entryAt mbr 3).raw = _ from hraw]
    decide
  have hround : (imageSize + 512 - 1) / 512 = (imageSize + 511) / 512 := rfl
  rw [validateImageMbr, require_bind_eq_ok, require_bind_eq_ok, require_bind_eq_ok]
  constructor
  · rintro ⟨hlength,hsignature,hsize,h⟩
    rw [parsePartition_eq hlength (by decide), parsePartition_eq hlength (by decide),
      parsePartition_eq hlength (by decide), parsePartition_eq hlength (by decide)] at h
    simp only [ok_bind, expectedVaultEntry_layoutV1, validateOccupiedPartition_bind,
      require_bind_eq_ok] at h
    obtain ⟨⟨hfirst,_⟩,⟨hsecond,_⟩,hboot,hpassive,hascending,hdisjoint,henvelope,hreserved,h⟩ := h
    refine ⟨hsize,⟨hlength,hsignature,hfirst,hsecond,hboot,hpassive,hascending,hdisjoint,henvelope,
      hreserved⟩,?_⟩
    split_ifs at h with hraw
    · exact .inl ⟨hraw,(pure_eq_ok_iff.mp h).symm⟩
    · simp only [require_bind_eq_ok, pure_eq_ok_iff] at h
      exact .inr ⟨h.1,h.2.1,h.2.2.symm⟩
  · rintro ⟨hsize,h,hthird⟩
    refine ⟨h.length,h.signature,hsize,?_⟩
    have hlimit : ∀ entry, Occupied entry ((imageSize + 511) / 512) → entry.endLba ≤ uint32Limit := by
      intro entry hentry
      have := hentry.inside
      simp only [uint32Limit]
      omega
    rw [parsePartition_eq h.length (by decide), parsePartition_eq h.length (by decide),
      parsePartition_eq h.length (by decide), parsePartition_eq h.length (by decide)]
    simp only [ok_bind, expectedVaultEntry_layoutV1, validateOccupiedPartition_bind,
      require_bind_eq_ok]
    refine ⟨⟨h.first,.inr h.bootable,hlimit _ h.first⟩,⟨h.second,.inl h.passive,hlimit _ h.second⟩,
      h.bootable,h.passive,h.ascending,h.disjoint,h.envelope,h.reserved,?_⟩
    rcases hthird with ⟨hraw,rfl⟩ | ⟨hraw,hnot,rfl⟩
    · rw [if_pos hraw]
      rfl
    · rw [if_neg (hempty hraw)]
      simp only [require_bind_eq_ok, pure_eq_ok_iff]
      exact ⟨hraw,hnot,trivial⟩

theorem occupiedEndBeforeVault_bind {β : Type} {entry : MbrEntry}
    {f : Nat → Except BootVaultLocatorError β} {b : β} :
    (entry.occupiedEndBeforeVault >>= f) = .ok b ↔ (¬ entry.isEmpty ∧
      (entry.status = 0x00 ∨ entry.status = 0x80) ∧ (entry.startLba ≠ 0 ∧ entry.sectorCount ≠ 0) ∧
      entry.startLba + entry.sectorCount ≤ 33554432) ∧
      f (entry.startLba + entry.sectorCount) = .ok b := by
  have hbound : ∀ e, (checkedAdd entry.startLba entry.sectorCount).filter (· ≤ locatorVaultStartLba) =
      some e ↔ entry.startLba + entry.sectorCount ≤ 33554432 ∧
      entry.startLba + entry.sectorCount = e := by
    intro e
    rw [Option.filter_eq_some_iff, checkedAdd]
    split_ifs with hfits
    · simp only [Option.some.injEq, locatorVaultStartLba]
      constructor
      · rintro ⟨rfl,hle⟩
        exact ⟨of_decide_eq_true hle,rfl⟩
      · rintro ⟨hle,rfl⟩
        exact ⟨rfl,decide_eq_true hle⟩
    · constructor
      · rintro ⟨hnone,-⟩
        cases hnone
      · rintro ⟨hle,rfl⟩
        exact absurd (by omega) hfits
  rw [bind_ok_iff]
  simp only [MbrEntry.occupiedEndBeforeVault, require_bind_eq_ok, okOr_eq_ok,
    Option.isSome_iff_exists, hbound]
  constructor
  · rintro ⟨e,⟨⟨hempty,hstatus,hstart,hcount,-⟩,hle,rfl⟩,h⟩
    exact ⟨⟨hempty,hstatus,⟨hstart,hcount⟩,hle⟩,h⟩
  · rintro ⟨⟨hempty,hstatus,⟨hstart,hcount⟩,hle⟩,h⟩
    exact ⟨_,⟨⟨hempty,hstatus,hstart,hcount,_,hle,rfl⟩,hle,rfl⟩,h⟩

theorem validateMbr_eq_ok {parent : List UInt8} {u : Unit} :
    validateMbr parent = .ok u ↔
      Laid (parent.take 512) 33554432 ∧ (entryAt (parent.take 512) 3).raw = expectedVaultMbrEntry := by
  rw [validateMbr, require_bind_eq_ok]
  constructor
  · rintro ⟨hparent,h⟩
    have hlength : (parent.take 512).length = 512 := by
      rw [List.length_take]
      omega
    dsimp only at h
    rw [parseMbrEntry_eq hlength (by decide), parseMbrEntry_eq hlength (by decide),
      parseMbrEntry_eq hlength (by decide), parseMbrEntry_eq hlength (by decide)] at h
    simp only [ok_bind, occupiedEndBeforeVault_bind, require_eq_ok] at h
    obtain ⟨⟨hempty₁,_,hrange₁,hend₁⟩,⟨hempty₂,_,hrange₂,hend₂⟩,hsignature,hboot,hpassive,hascending,
      hdisjoint,henvelope,hthird,hreserved⟩ := h
    exact ⟨⟨hlength,hsignature,⟨hempty₁,hrange₁,hend₁⟩,⟨hempty₂,hrange₂,hend₂⟩,hboot,hpassive,hascending,
      hdisjoint,henvelope,hreserved⟩,hthird⟩
  · rintro ⟨h,hthird⟩
    have hlength := h.length
    refine ⟨?_,?_⟩
    · rw [List.length_take] at hlength
      omega
    · dsimp only
      rw [parseMbrEntry_eq hlength (by decide), parseMbrEntry_eq hlength (by decide),
        parseMbrEntry_eq hlength (by decide), parseMbrEntry_eq hlength (by decide)]
      simp only [ok_bind, occupiedEndBeforeVault_bind, require_eq_ok]
      exact ⟨⟨h.first.populated,.inr h.bootable,h.first.range,h.first.inside⟩,
        ⟨h.second.populated,.inl h.passive,h.second.range,h.second.inside⟩,
        h.signature,h.bootable,h.passive,h.ascending,h.disjoint,h.envelope,hthird,h.reserved⟩

theorem Laid.within {mbr : List UInt8} {sectors sectors' : Nat} (h : Laid mbr sectors)
    (hfirst : (entryAt mbr 1).endLba ≤ sectors') (hsecond : (entryAt mbr 2).endLba ≤ sectors') :
    Laid mbr sectors' :=
  { h with
    first := ⟨h.first.populated,h.first.range,hfirst⟩
    second := ⟨h.second.populated,h.second.range,hsecond⟩ }

theorem entryAt_congr {mbr mbr' : List UInt8} {slot : Nat}
    (h : ∀ k, 446 + (slot - 1) * 16 ≤ k → k < 446 + (slot - 1) * 16 + 16 → mbr[k]? = mbr'[k]?) :
    entryAt mbr slot = entryAt mbr' slot := by
  rw [entryAt, entryAt, slice_congr h]

theorem Laid.congr {mbr mbr' : List UInt8} {sectors : Nat} (h : Laid mbr sectors)
    (hlength : mbr'.length = mbr.length) (hsame : ∀ k, k < 478 ∨ 494 ≤ k → mbr[k]? = mbr'[k]?) :
    Laid mbr' sectors := by
  have h₁ : entryAt mbr 1 = entryAt mbr' 1 := entryAt_congr fun k hlo hhi => hsame k (by omega)
  have h₂ : entryAt mbr 2 = entryAt mbr' 2 := entryAt_congr fun k hlo hhi => hsame k (by omega)
  have h₄ : entryAt mbr 4 = entryAt mbr' 4 := entryAt_congr fun k hlo hhi => hsame k (by omega)
  have htail : mbr.drop 510 = mbr'.drop 510 := by
    apply List.ext_getElem?
    intro k
    rw [List.getElem?_drop, List.getElem?_drop]
    exact hsame _ (by omega)
  obtain ⟨hsize,hsignature,hfirst,hsecond,hboot,hpassive,hascending,hdisjoint,henvelope,hreserved⟩ := h
  rw [h₁] at hfirst hboot hascending hdisjoint henvelope
  rw [h₂] at hsecond hpassive hascending hdisjoint henvelope
  rw [h₄] at hreserved
  rw [htail] at hsignature
  exact ⟨hlength.trans hsize,hsignature,hfirst,hsecond,hboot,hpassive,hascending,hdisjoint,henvelope,
    hreserved⟩

theorem reviewImage_eq_ok {transfers : Transfers} {mbrBefore expected : List UInt8}
    {sizeBefore offset : Nat} {action : FinalizeAction} {file : ImageFile} {result : FinalizeResult}
    (h : reviewImage transfers layoutV1 mbrBefore sizeBefore offset action expected file = .ok result) :
    result.action = action := by
  simp only [reviewImage, require_bind_eq_ok] at h
  obtain ⟨_,h⟩ := h
  obtain ⟨_,_,h⟩ := bind_ok_iff.mp h
  obtain ⟨_,_,h⟩ := bind_ok_iff.mp h
  rw [require_bind_eq_ok, pure_eq_ok_iff] at h
  rw [← h.2]

theorem processImage_of_finalized {file : ImageFile} (transfers : Transfers) (verifyOnly : Bool)
    (hlength : 512 ≤ file.bytes.length) (hsize : file.bytes.length < 33554432 * 512)
    (h : Laid (file.bytes.take 512) ((file.bytes.length + 511) / 512))
    (hthird : (entryAt (file.bytes.take 512) 3).raw = expectedVaultMbrEntry) :
    processImage transfers file layoutV1 verifyOnly =
      (.ok ⟨if verifyOnly then .verified else .alreadyFinalized,file.bytes.length,expectedVaultMbrEntry⟩,
        file) := by
  have hread : preadExact transfers file 512 0 = .ok (file.bytes.take 512) :=
    preadExact_mbr.mpr ⟨hlength,rfl⟩
  have hvalid : ∀ b, validateImageMbr (file.bytes.take 512) file.bytes.length layoutV1 b = .ok true :=
    fun b => validateImageMbr_eq_ok.mpr ⟨hsize,h,.inl ⟨hthird,rfl⟩⟩
  have hoffset : partitionOffset layoutV1.vaultNumber = .ok 478 := rfl
  have hreview : ∀ action, reviewImage transfers layoutV1
    (file.bytes.take 512) file.bytes.length 478 action
      expectedVaultMbrEntry file = .ok ⟨action,file.bytes.length,expectedVaultMbrEntry⟩ := by
    intro action
    rw [reviewImage, require, if_pos rfl, ok_bind, hread, ok_bind, hvalid, ok_bind, require,
      if_pos ⟨rfl,rfl⟩]
    rfl
  rw [processImage, hread, ok_bind, hvalid, ok_bind, expectedVaultEntry_layoutV1,
    ok_bind, hoffset, ok_bind]
  cases verifyOnly <;> simp [hreview, pure, Except.pure]

theorem processImage_finalized {transfers : Transfers} {file file' : ImageFile} {result : FinalizeResult}
    (h : processImage transfers file layoutV1 false = (.ok result,file'))
    (haction : result.action = .finalized) :
    512 ≤ file.bytes.length ∧ file.bytes.length < 33554432 * 512 ∧
      Laid (file.bytes.take 512) ((file.bytes.length + 511) / 512) ∧
      file'.bytes = file.bytes.take 478 ++ expectedVaultMbrEntry ++ file.bytes.drop 494 := by
  rw [processImage] at h
  split at h
  next e he => cases h
  next mbrBefore finalized expected offset he =>
    obtain ⟨_,hread,he⟩ := bind_ok_iff.mp he
    obtain ⟨_,hvalid,he⟩ := bind_ok_iff.mp he
    rw [expectedVaultEntry_layoutV1, ok_bind,
      show partitionOffset layoutV1.vaultNumber = .ok 478 from rfl, ok_bind, pure_eq_ok_iff] at he
    cases he
    obtain ⟨hlength,rfl⟩ := preadExact_mbr.mp hread
    obtain ⟨hsize,hlaid,-⟩ := validateImageMbr_eq_ok.mp hvalid
    cases finalized with
    | true =>
      simp only [Bool.false_eq_true, if_false, if_true, Prod.mk.injEq] at h
      cases haction.symm.trans (reviewImage_eq_ok h.1)
    | false =>
      simp only [Bool.false_eq_true, if_false, Prod.mk.injEq] at h
      refine ⟨hlength,hsize,hlaid,?_⟩
      rw [← h.2]
      exact pwriteExact_bytes transfers file expectedVaultMbrEntry 478 0
        (show 478 + 16 ≤ file.bytes.length by omega)

theorem getElem?_finalized {image written : List UInt8} {k : Nat} (hlength : 512 ≤ image.length)
    (h : written = image.take 478 ++ expectedVaultMbrEntry ++ image.drop 494) (hk : k < 478 ∨ 494 ≤ k) :
    image[k]? = written[k]? := by
  have htake : (image.take 478).length = 478 := by
    rw [List.length_take]
    omega
  have hentry : expectedVaultMbrEntry.length = 16 := rfl
  rw [h, List.append_assoc]
  rcases hk with hk | hk
  · rw [List.getElem?_append_left (by omega), List.getElem?_take, if_pos hk]
  · rw [List.getElem?_append_right (by omega), List.getElem?_append_right (by omega), List.getElem?_drop,
      htake, hentry, show 494 + (k - 478 - 16) = k by omega]

theorem device_layout_agrees :
    (∀ transfers file result file', processImage transfers file layoutV1 false = (.ok result,file') →
      result.action = .finalized →
      (file'.bytes.length = file.bytes.length ∧
        ∀ k, k < 478 ∨ 494 ≤ k → file.bytes[k]? = file'.bytes[k]?) ∧
      (∀ transfers', ∃ again, processImage transfers' file' layoutV1 false = (.ok again,file') ∧
        again.action = .alreadyFinalized) ∧
      (∀ transfers', ∃ verified, processImage transfers' file' layoutV1 true = (.ok verified,file')) ∧
      validateMbr file'.bytes = .ok ()) ∧
    ∀ sector : List UInt8, sector.length = 512 → validateMbr sector = .ok () →
      ((entryAt sector 1).endLba ≤ layoutV1.vaultStartLba ∧
        (entryAt sector 2).endLba ≤ layoutV1.vaultStartLba) ∧
      ∀ imageSize requireFinalized, imageSize < layoutV1.vaultStartBytes →
        (entryAt sector 1).endLba * 512 < imageSize + 512 →
        (entryAt sector 2).endLba * 512 < imageSize + 512 →
        validateImageMbr sector imageSize layoutV1 requireFinalized = .ok true := by
  constructor
  · intro transfers file result file' h haction
    obtain ⟨hlength,hsize,hlaid,hbytes⟩ := processImage_finalized h haction
    have hsame : ∀ k, k < 478 ∨ 494 ≤ k → file.bytes[k]? = file'.bytes[k]? :=
      fun k hk => getElem?_finalized hlength hbytes hk
    have hkept : file'.bytes.length = file.bytes.length := by
      simp only [hbytes, List.length_append, List.length_take, List.length_drop, expectedVaultMbrEntry,
        List.length_cons, List.length_nil]
      omega
    have hmbr : ∀ k, k < 478 ∨ 494 ≤ k → (file.bytes.take 512)[k]? = (file'.bytes.take 512)[k]? := by
      intro k hk
      rw [List.getElem?_take, List.getElem?_take, hsame k hk]
    have hlaid' : Laid (file'.bytes.take 512) ((file'.bytes.length + 511) / 512) := by
      rw [hkept]
      exact hlaid.congr (by simp [hkept]) hmbr
    have hthird : (entryAt (file'.bytes.take 512) 3).raw = expectedVaultMbrEntry := by
      have htake : (file.bytes.take 478).length = 478 := by
        rw [List.length_take]
        omega
      change ((file'.bytes.take 512).take 494).drop 478 = _
      rw [List.take_take, hbytes, List.append_assoc, List.drop_take, List.drop_left' htake]
      rfl
    have hend : (file'.bytes.length + 511) / 512 ≤ 33554432 := by omega
    have hagain := fun transfers' verifyOnly =>
      processImage_of_finalized transfers' verifyOnly (by omega) (by omega) hlaid' hthird
    have hlocated : validateMbr file'.bytes = .ok () :=
      validateMbr_eq_ok.mpr ⟨hlaid'.within (hlaid'.first.inside.trans hend)
        (hlaid'.second.inside.trans hend),hthird⟩
    exact ⟨⟨hkept,hsame⟩,fun transfers' => ⟨_,hagain transfers' false,rfl⟩,
      fun transfers' => ⟨_,hagain transfers' true⟩,hlocated⟩
  · intro sector hlength h
    obtain ⟨hlaid,hthird⟩ := validateMbr_eq_ok.mp h
    rw [List.take_of_length_le (by omega)] at hlaid hthird
    refine ⟨⟨hlaid.first.inside,hlaid.second.inside⟩,
      fun imageSize requireFinalized hsize hfirst hsecond => ?_⟩
    refine validateImageMbr_eq_ok.mpr ⟨hsize,hlaid.within ?_ ?_,.inl ⟨hthird,rfl⟩⟩
    · omega
    · omega

namespace LayoutSample

/-- An image of four sectors with a bootable envelope, an EFI partition inside it and this third slot. -/
def image (third : List UInt8) : List UInt8 :=
  List.replicate 446 0 ++
    [0x80,0xfe,0xff,0xff,0x00,0xfe,0xff,0xff,0x01,0x00,0x00,0x00,0x03,0x00,0x00,0x00] ++
    [0x00,0xfe,0xff,0xff,0xef,0xfe,0xff,0xff,0x02,0x00,0x00,0x00,0x01,0x00,0x00,0x00] ++
    third ++ List.replicate 16 0 ++ [0x55,0xaa] ++ List.replicate 1536 0

/-- Three bytes a call. -/
def slow : Transfers := ⟨fun _ => 3,fun _ => Nat.succ_pos _⟩

/-- The third slot is written in six calls, and the locator accepts the image. -/
theorem image_finalized_in_six_calls :
    processImage slow ⟨image (List.replicate 16 0),0⟩ layoutV1 false =
        (.ok ⟨.finalized,2048,expectedVaultMbrEntry⟩,⟨image expectedVaultMbrEntry,6⟩) ∧
      validateMbr (image expectedVaultMbrEntry) = .ok () := by
  have hrun : processImage slow ⟨image (List.replicate 16 0),0⟩ layoutV1 false =
      (.ok ⟨.finalized,2048,expectedVaultMbrEntry⟩,⟨image expectedVaultMbrEntry,6⟩) := by decide +kernel
  exact ⟨hrun,(device_layout_agrees.1 _ _ _ _ hrun rfl).2.2.2⟩

end LayoutSample

end KernAid.Vault
