import KernAid.Replay

/-! The stable storage of the repair vault, what a crash may do to it, and the check of a backup file. -/

set_option autoImplicit false

namespace KernAid.RepairStore

open Encoding CrashLogic Protocol

/-- A regular file: its bytes and the bytes that are physically allocated to it. -/
structure BackupFile where
  bytes : List UInt8
  allocated : Nat
deriving DecidableEq, Repr

/-- The journal and the backup directory. A file is at risk while its bytes or its directory entry
have not been synchronised. -/
structure Disk where
  journal : List RepairEvent
  backups : IdMap BackupFile
  dirtyBytes : IdSet
  dirtyEntries : IdSet

/-- The steps that change stable storage. The exchange of the journal for its compaction is one of
them. -/
inductive StorageStep
  | append (event : RepairEvent)
  | compact (events : List RepairEvent)
  | create (id : ReservationId)
  | allocate (id : ReservationId) (capacity : Nat)
  | write (id : ReservationId) (bytes : List UInt8)
  | truncate (id : ReservationId)
  | sync (id : ReservationId)
  | syncDirectory
  | unlink (id : ReservationId)

def StorageStep.target : StorageStep → Option ReservationId
  | .create id | .allocate id _ | .write id _ | .truncate id | .unlink id => some id
  | .append _ | .compact _ | .sync _ | .syncDirectory => none

namespace Disk

def rewrite (d : Disk) (id : ReservationId) (f : BackupFile → BackupFile) : Disk :=
  match d.backups[id]? with
  | some file => { d with backups := d.backups.insert id (f file), dirtyBytes := d.dirtyBytes.insert id }
  | none => d

def perform (d : Disk) : StorageStep → Disk
  | .append event => { d with journal := d.journal ++ [event] }
  | .compact events => { d with journal := events }
  | .create id => { d with
      backups := d.backups.insert id ⟨[],0⟩
      dirtyBytes := d.dirtyBytes.insert id
      dirtyEntries := d.dirtyEntries.insert id }
  -- `fallocate` extends the file with zeros and leaves what is there.
  | .allocate id capacity => d.rewrite id fun file =>
      ⟨file.bytes ++ List.replicate (capacity - file.bytes.length) 0,max file.allocated capacity⟩
  | .write id bytes => d.rewrite id fun file =>
      ⟨bytes ++ file.bytes.drop bytes.length,max file.allocated bytes.length⟩
  | .truncate id => d.rewrite id fun _ => ⟨[],0⟩
  | .sync id => { d with dirtyBytes := d.dirtyBytes.erase id }
  | .syncDirectory => { d with dirtyEntries := ∅ }
  | .unlink id => { d with
      backups := d.backups.erase id
      dirtyBytes := d.dirtyBytes.erase id
      dirtyEntries := d.dirtyEntries.insert id }

def synced (d : Disk) (id : ReservationId) : Prop := id ∉ d.dirtyBytes ∧ id ∉ d.dirtyEntries

/-- What a crash may leave: the journal and every synchronised file as they are, anything at all in
the place of the others. -/
structure Crash (d d' : Disk) : Prop where
  journal : d'.journal = d.journal
  kept : ∀ id, d.synced id → d'.backups[id]? = d.backups[id]?
  clean : ∀ id, d'.synced id

end Disk

section Verification

def readBufferBytes : Nat := 8192

/-- The loop of `verify_file_contents`: it reads `remainingTotal` bytes in buffers, hashes the first
`remainingContent` of them and wants zeros after them. -/
def verifyBuffers (expectZero : Bool) (unread : List UInt8) (remainingContent remainingTotal : Nat)
    (hashed : List UInt8) : Except RepairVaultStoreError (List UInt8 × Nat × List UInt8) :=
  if 0 < remainingTotal then
    let wanted := min remainingTotal readBufferBytes
    let buffer := unread.take wanted
    if unread.length < wanted then .error .writeVerificationFailed
    else if expectZero then
      if buffer.any (· != 0) then .error .writeVerificationFailed
      else verifyBuffers expectZero (unread.drop wanted) remainingContent (remainingTotal - wanted) hashed
    else
      let content := min remainingContent wanted
      if (buffer.drop content).any (· != 0) then .error .writeVerificationFailed
      else verifyBuffers expectZero (unread.drop wanted) (remainingContent - content)
        (remainingTotal - wanted) (hashed ++ buffer.take content)
  else .ok (unread,remainingContent,hashed)
termination_by remainingTotal
decreasing_by all_goals simp only [readBufferBytes]; omega

variable {l bytes : List UInt8} {record : ReservationRecord}

theorem take_split {wanted total : Nat} (h : wanted ≤ total) :
    l.take total = l.take wanted ++ (l.drop wanted).take (total - wanted) := by
  rw [← List.take_add, Nat.add_sub_cancel' h]

theorem take_min_length (l : List UInt8) (n : Nat) : l.take (min n l.length) = l.take n := by
  rcases Nat.le_total n l.length with h | h
  · rw [Nat.min_eq_left h]
  · rw [Nat.min_eq_right h, List.take_length, List.take_of_length_le h]

theorem drop_min_length (l : List UInt8) (n : Nat) : l.drop (min n l.length) = l.drop n := by
  rcases Nat.le_total n l.length with h | h
  · rw [Nat.min_eq_left h]
  · rw [Nat.min_eq_right h, List.drop_length, List.drop_eq_nil_of_le h]

theorem verifyBuffers_zero (unread : List UInt8) (content total : Nat) (hashed : List UInt8) :
    verifyBuffers true unread content total hashed =
      if total ≤ unread.length ∧ (unread.take total).all (· == 0) = true
      then .ok (unread.drop total,content,hashed) else .error .writeVerificationFailed := by
  induction total using Nat.strongRecOn generalizing unread with
  | ind total ih =>
    rw [verifyBuffers]
    by_cases htotal : 0 < total
    · have hwanted : 0 < min total readBufferBytes := by simp [readBufferBytes, htotal]
      have hle := Nat.min_le_left total readBufferBytes
      generalize min total readBufferBytes = wanted at hwanted hle
      rw [if_pos htotal, take_split hle]
      simp only [if_true, bne, ← List.not_all_eq_any_not, List.all_append]
      by_cases hshort : unread.length < wanted
      · have hnot : ¬ total ≤ unread.length := by omega
        simp [hshort, hnot]
      · cases hzero : (unread.take wanted).all (· == 0) with
        | false => simp [hshort]
        | true =>
          have hlength : total - wanted ≤ unread.length - wanted ↔ total ≤ unread.length := by omega
          simp only [hshort, if_false, Bool.not_true, Bool.false_eq_true, ih (total - wanted) (by omega),
            List.length_drop, List.drop_drop, Nat.add_sub_cancel' hle, hlength, Bool.true_and]
    · obtain rfl : total = 0 := by omega
      simp

theorem verifyBuffers_content (unread : List UInt8) (content total : Nat) (hashed : List UInt8) :
    verifyBuffers false unread content total hashed =
      if total ≤ unread.length ∧ ((unread.take total).drop content).all (· == 0) = true
      then .ok (unread.drop total,content - total,hashed ++ (unread.take total).take content)
      else .error .writeVerificationFailed := by
  induction total using Nat.strongRecOn generalizing unread content hashed with
  | ind total ih =>
    rw [verifyBuffers]
    by_cases htotal : 0 < total
    · have hwanted : 0 < min total readBufferBytes := by simp [readBufferBytes, htotal]
      have hle := Nat.min_le_left total readBufferBytes
      generalize min total readBufferBytes = wanted at hwanted hle
      rw [if_pos htotal, take_split hle]
      simp only [Bool.false_eq_true, if_false, bne, ← List.not_all_eq_any_not]
      by_cases hshort : unread.length < wanted
      · have hnot : ¬ total ≤ unread.length := by omega
        simp [hshort, hnot]
      · have hbuffer : (unread.take wanted).length = wanted := by
          rw [List.length_take]
          omega
        have hdrop := drop_min_length (unread.take wanted) content
        have htake := take_min_length (unread.take wanted) content
        rw [hbuffer] at hdrop htake
        have hrest : content - min content wanted = content - wanted := by omega
        rw [List.drop_append, List.take_append, hbuffer, List.all_append, hdrop, htake, hrest]
        cases hzero : ((unread.take wanted).drop content).all (· == 0) with
        | false => simp [hshort]
        | true =>
          have hlength : total - wanted ≤ unread.length - wanted ↔ total ≤ unread.length := by omega
          have hleft : content - wanted - (total - wanted) = content - total := by omega
          simp only [hshort, if_false, Bool.not_true, Bool.false_eq_true, ih (total - wanted) (by omega),
            List.length_drop, List.drop_drop, Nat.add_sub_cancel' hle, hlength, Bool.true_and, hleft,
            List.append_assoc]
    · obtain rfl : total = 0 := by omega
      simp

theorem all_zero_iff : l.all (· == 0) = true ↔ l = List.replicate l.length 0 := by
  rw [List.eq_replicate_iff]
  simp

variable [Sha256Hasher]

def verifyFileContents (bytes : List UInt8) (record : ReservationRecord) (expectZero : Bool) :
    Except RepairVaultStoreError Unit := do
  let (extra,remainingContent,hashed) ← verifyBuffers expectZero bytes record.draft.backupSizeBytes
    record.reservedCapacityBytes []
  require (extra = []) .concurrentWrite
  require (expectZero ∨ remainingContent = 0 ∧
    Sha256Hasher.finalize hashed = record.draft.expectedBackupSha256) .writeVerificationFailed

/-- The record that stands in for the real one while a file is checked on its own. -/
def verificationRecord (expectedSha256 : Bytes32) (expectedSize capacity : Nat)
    (phase : ReservationPhase) : ReservationRecord :=
  ⟨⟨"S-verification","verification",Vector.replicate 32 1,
      "recovery:" ++ String.ofList (List.replicate 64 '1'),expectedSha256,Vector.replicate 32 1,
      expectedSize,capacity⟩,
    "",capacity,"V-verification",String.ofList (List.replicate 64 '0'),
    String.ofList (List.replicate 64 '0'),phase⟩

def verifyZeroFilled (bytes : List UInt8) (capacity : Nat) : Except RepairVaultStoreError Unit :=
  verifyFileContents bytes (verificationRecord (Vector.replicate 32 1) 1 capacity .reservePending) true

/-- The bytes of a durable backup: the expected content and zeros up to the capacity. -/
structure HoldsBackup (record : ReservationRecord) (bytes : List UInt8) : Prop where
  length : bytes.length = record.reservedCapacityBytes
  size : record.draft.backupSizeBytes ≤ record.reservedCapacityBytes
  digest : Sha256Hasher.finalize (bytes.take record.draft.backupSizeBytes) =
    record.draft.expectedBackupSha256
  padding : bytes.drop record.draft.backupSizeBytes =
    List.replicate (record.reservedCapacityBytes - record.draft.backupSizeBytes) 0

theorem verifyFileContents_zero_iff :
    verifyFileContents bytes record true = .ok () ↔
      bytes = List.replicate record.reservedCapacityBytes 0 := by
  rw [verifyFileContents, verifyBuffers_zero]
  by_cases h : record.reservedCapacityBytes ≤ bytes.length ∧
      (bytes.take record.reservedCapacityBytes).all (· == 0) = true
  · rw [if_pos h, ok_bind]
    simp only [true_or, require_bind_eq_ok, require_eq_ok, and_true, List.drop_eq_nil_iff]
    rw [all_zero_iff, List.length_take, Nat.min_eq_left h.1] at h
    constructor
    · intro hle
      rw [← h.2, List.take_of_length_le hle]
    · intro heq
      rw [heq, List.length_replicate]
  · rw [if_neg h]
    constructor
    · intro hcontra
      cases hcontra
    · intro heq
      refine absurd ?_ h
      rw [heq]
      simp

theorem verifyFileContents_iff :
    verifyFileContents bytes record false = .ok () ↔ HoldsBackup record bytes := by
  rw [verifyFileContents, verifyBuffers_content]
  by_cases h : record.reservedCapacityBytes ≤ bytes.length ∧
      ((bytes.take record.reservedCapacityBytes).drop record.draft.backupSizeBytes).all (· == 0) = true
  · rw [if_pos h, ok_bind]
    simp only [Bool.false_eq_true, false_or, require_bind_eq_ok, require_eq_ok, List.nil_append,
      List.drop_eq_nil_iff, Nat.sub_eq_zero_iff_le]
    constructor
    · rintro ⟨hle,hsize,hdigest⟩
      have hlength : bytes.length = record.reservedCapacityBytes := by omega
      have hzero := h.2
      rw [List.take_of_length_le hle] at hdigest hzero
      rw [all_zero_iff, List.length_drop, hlength] at hzero
      exact ⟨hlength,hsize,hdigest,hzero⟩
    · rintro ⟨hlength,hsize,hdigest,_⟩
      have hle : bytes.length ≤ record.reservedCapacityBytes := by omega
      rw [List.take_of_length_le hle]
      exact ⟨hle,hsize,hdigest⟩
  · rw [if_neg h]
    constructor
    · intro hcontra
      cases hcontra
    · rintro ⟨hlength,hsize,hdigest,hzero⟩
      refine absurd ⟨by omega,?_⟩ h
      rw [List.take_of_length_le (by omega), hzero]
      simp

theorem verifyFileContents_error {expectZero : Bool} {e : RepairVaultStoreError}
    (hlength : bytes.length = record.reservedCapacityBytes)
    (h : verifyFileContents bytes record expectZero = .error e) : e = .writeVerificationFailed := by
  have hextra : bytes.drop record.reservedCapacityBytes = [] := List.drop_eq_nil_of_le (by omega)
  cases expectZero with
  | true =>
    rw [verifyFileContents, verifyBuffers_zero] at h
    split_ifs at h with hok
    · simp [hextra, require, bind, Except.bind] at h
    · exact (Except.error.inj h).symm
  | false =>
    rw [verifyFileContents, verifyBuffers_content] at h
    split_ifs at h with hok
    · simp only [hextra, ok_bind, require, if_true, false_or] at h
      split_ifs at h
      exact (Except.error.inj h).symm
    · exact (Except.error.inj h).symm

theorem verifyFileContents_exact (bytes : List UInt8) (record : ReservationRecord) :
    (verifyFileContents bytes record false = .ok () ↔
      bytes.length = record.reservedCapacityBytes ∧
        ∃ content rest, bytes = content ++ rest ∧ content.length = record.draft.backupSizeBytes ∧
          Sha256Hasher.finalize content = record.draft.expectedBackupSha256 ∧ ∀ byte ∈ rest, byte = 0) ∧
      (verifyFileContents bytes record true = .ok () ↔
        bytes.length = record.reservedCapacityBytes ∧ ∀ byte ∈ bytes, byte = 0) := by
  constructor
  · rw [verifyFileContents_iff]
    constructor
    · rintro ⟨hlength,hsize,hdigest,hpadding⟩
      refine ⟨hlength,_,_,(List.take_append_drop record.draft.backupSizeBytes bytes).symm,?_,hdigest,?_⟩
      · rw [List.length_take]
        omega
      · rw [hpadding]
        exact fun byte hbyte => List.eq_of_mem_replicate hbyte
    · rintro ⟨hlength,content,rest,rfl,hsize,hdigest,hzero⟩
      rw [List.length_append] at hlength
      refine ⟨by rw [List.length_append, hlength],by omega,?_,?_⟩
      · rw [← hsize, List.take_left, hdigest]
      · rw [← hsize, List.drop_left, List.eq_replicate_iff]
        exact ⟨by omega,hzero⟩
  · rw [verifyFileContents_zero_iff, List.eq_replicate_iff]

end Verification

end KernAid.RepairStore
