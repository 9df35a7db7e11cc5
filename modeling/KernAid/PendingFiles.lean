import KernAid.StoreSteps

/-! The backup file of a pending reservation: every step on it leaves the other files alone. -/

set_option autoImplicit false

namespace KernAid.RepairStore

open Encoding CrashLogic Protocol Program

def StorageStep.onFiles : StorageStep → Bool
  | .append _ | .compact _ => false
  | _ => true

theorem notMem_insert {set : IdSet} {id j : ReservationId} (hj : j ≠ id) (h : j ∉ set) :
    j ∉ set.insert id := by
  rw [Std.ExtTreeSet.mem_insert]
  rintro (heq | hmem)
  · exact hj (Std.LawfulEqCmp.eq_of_compare heq).symm
  · exact h hmem

namespace Disk

variable {d : Disk} {a : StorageStep} {id j : ReservationId}

theorem rewrite_journal (f : BackupFile → BackupFile) : (d.rewrite id f).journal = d.journal := by
  unfold rewrite
  split <;> rfl

theorem perform_journal (ha : a.onFiles = true) : (d.perform a).journal = d.journal := by
  cases a with
  | append => cases ha
  | compact => cases ha
  | allocate | write | truncate => exact rewrite_journal _
  | _ => rfl

theorem rewrite_frame (f : BackupFile → BackupFile) (hj : j ≠ id) :
    (d.rewrite id f).backups[j]? = d.backups[j]? ∧ (d.synced j → (d.rewrite id f).synced j) := by
  unfold rewrite
  split
  · exact ⟨getElem?_insert_ne hj,fun h => ⟨notMem_insert hj h.1,h.2⟩⟩
  · exact ⟨rfl,fun h => h⟩

theorem perform_frame (ha : a.onFiles = true) (hj : a.target ≠ some j) :
    (d.perform a).backups[j]? = d.backups[j]? ∧ (d.synced j → (d.perform a).synced j) := by
  have herase : ∀ {set : IdSet} {id : ReservationId}, j ∉ set → j ∉ set.erase id :=
    fun hmem hin => hmem (Std.ExtTreeSet.mem_of_mem_erase hin)
  have hne : ∀ {id}, a.target = some id → j ≠ id := fun htarget heq => hj (heq ▸ htarget)
  cases a with
  | append => cases ha
  | compact => cases ha
  | create id =>
    exact ⟨getElem?_insert_ne (hne rfl),fun h =>
      ⟨notMem_insert (hne rfl) h.1,notMem_insert (hne rfl) h.2⟩⟩
  | allocate | write | truncate => exact rewrite_frame _ (hne rfl)
  | sync id => exact ⟨rfl,fun h => ⟨herase h.1,h.2⟩⟩
  | syncDirectory => exact ⟨rfl,fun h => ⟨h.1,by simp [perform]⟩⟩
  | unlink id =>
    exact ⟨getElem?_erase_ne (hne rfl),fun h => ⟨herase h.1,notMem_insert (hne rfl) h.2⟩⟩

def settledExcept (d : Disk) (id : ReservationId) : Prop := ∀ j, j ≠ id → d.synced j

theorem settledExcept.perform (h : d.settledExcept id) (ha : a.onFiles = true)
    (htarget : ∀ j ∈ a.target, j = id) : (d.perform a).settledExcept id :=
  fun j hj => (perform_frame ha fun heq => hj (htarget j heq)).2 (h j hj)

theorem settled.except (h : d.settled) : d.settledExcept id := fun j _ => h j

theorem settledExcept.syncDirectory (h : d.settledExcept id) (hbytes : id ∉ d.dirtyBytes) :
    (d.perform .syncDirectory).settled := by
  intro j
  by_cases hj : j = id
  · exact ⟨hj ▸ hbytes,by simp [Disk.perform]⟩
  · exact ⟨(h j hj).1,by simp [Disk.perform]⟩

theorem settledExcept.sync_syncDirectory (h : d.settledExcept id) :
    ((d.perform (.sync id)).perform .syncDirectory).settled :=
  (h.perform rfl (by simp [StorageStep.target])).syncDirectory (by simp [Disk.perform])

theorem rewrite_of_some {f : BackupFile → BackupFile} {file : BackupFile}
    (h : d.backups[id]? = some file) :
    (d.rewrite id f).backups[id]? = some (f file) := by
  simp [rewrite, h]

def zeroFilled (d : Disk) (id : ReservationId) (capacity : Nat) : Disk :=
  (d.perform (.allocate id capacity)).perform (.sync id)

theorem zeroFilled_backups {capacity : Nat} (h : d.backups[id]? = some ⟨[],0⟩) :
    (d.zeroFilled id capacity).backups[id]? = some ⟨List.replicate capacity 0,capacity⟩ := by
  refine (rewrite_of_some h).trans ?_
  simp

theorem settledExcept.zeroFilled {capacity : Nat} (h : d.settledExcept id) :
    ((d.zeroFilled id capacity).perform .syncDirectory).settled :=
  (h.perform rfl (by simp [StorageStep.target])).sync_syncDirectory

end Disk

/-- Steps on files lead from one world to the other, and everything on the disk is settled again. -/
structure FilesDone [Sha256Hasher] [JournalChain] (vault : VaultIdentity) (w t : World) : Prop where
  live : Live vault t
  store : t.store = w.store
  journal : t.disk.journal = w.disk.journal
  settled : t.disk.settled

def HoldsZeros (d : Disk) (id : ReservationId) (capacity : Nat) : Prop :=
  StoredFile d id capacity fun bytes => bytes = List.replicate capacity 0

section Steps

variable {vault : VaultIdentity} {excused : Prop} {w : World} {a : StorageStep}
  {id : ReservationId} {record : ReservationRecord}

variable {post : Except RepairVaultStoreError Unit → World → Prop}

theorem StorageStep.waiting_of_mayChange {phase : ReservationPhase} (h : a.mayChange phase = true) :
    phase.isSettled = false := by
  unfold StorageStep.mayChange at h
  split at h <;> first | rfl | cases h

theorem checkFile_zeros {capacity : Nat}
    (hfile : w.disk.backups[id]? = some ⟨List.replicate capacity 0,capacity⟩) :
    w.checkFile id capacity = .ok ⟨List.replicate capacity 0,capacity⟩ :=
  checkFile_eq_ok hfile List.length_replicate le_rfl

variable [Sha256Hasher]

theorem fileOk_of_waiting {d : Disk} (h : record.phase.isSettled = false) :
    FileOk d id (some record) := by
  unfold FileOk
  cases hphase : record.phase <;> simp_all [ReservationPhase.isSettled]

theorem verifyZeroFilled_zeros (capacity : Nat) :
    verifyZeroFilled (List.replicate capacity 0) capacity = .ok () :=
  verifyFileContents_zero_iff.mpr rfl

theorem holdsBackup_write {bytes : List UInt8} (hlength : bytes.length = record.draft.backupSizeBytes)
    (hdigest : Sha256Hasher.finalize bytes = record.draft.expectedBackupSha256)
    (hfits : record.draft.backupSizeBytes ≤ record.reservedCapacityBytes) :
    HoldsBackup record
      (bytes ++ (List.replicate record.reservedCapacityBytes 0).drop bytes.length) := by
  refine ⟨?_,hfits,?_,?_⟩
  · rw [List.length_append, List.length_drop, List.length_replicate, hlength]
    omega
  · rw [← hlength, List.take_left, hdigest]
  · rw [← hlength, List.drop_left, List.drop_replicate]

variable [JournalChain]

theorem Live.perform (h : Live vault w) (ha : a.onFiles = true) (hallowed : StepAllowed excused w a) :
    Live vault { w with disk := w.disk.perform a } := by
  refine ⟨h.attested,?_,?_,fun j => ?_⟩
  · rw [Disk.perform_journal ha]
    exact h.journal
  · rw [Disk.perform_journal ha]
    exact h.count
  · by_cases hj : a.target = some j
    · have hpending : ∃ record, w.store.state.reservations[j]? = some record ∧
          a.mayChange record.phase = true := by
        unfold StepAllowed at hallowed
        split at hallowed <;> first | exact hallowed j hj | cases hj
      obtain ⟨record,hrecord,hphase⟩ := hpending
      simp only [hrecord]
      exact fileOk_of_waiting (StorageStep.waiting_of_mayChange hphase)
    · obtain ⟨hkept,hsynced⟩ := Disk.perform_frame ha hj
      exact (h.files j).mono (fun _ => hkept) hsynced

theorem stepAllowed_of_waiting (htarget : a.target = some id)
    (hrecord : w.store.state.reservations[id]? = some record)
    (hchange : a.mayChange record.phase = true) : StepAllowed excused w a := by
  have hfile : ∀ j ∈ a.target, ∃ record, w.store.state.reservations[j]? = some record ∧
      a.mayChange record.phase = true := by
    intro j hj
    obtain rfl : id = j := Option.some.inj (htarget.symm.trans hj)
    exact ⟨record,hrecord,hchange⟩
  cases a <;> first | exact hfile | cases htarget

theorem wp_fileStep {β : Type} {s₁ : RecoveredState} {g : Unit → Operation β}
    {post : Except RepairVaultStoreError β → World → Prop} (h : Live vault w)
    (hstate : w.store.state = s₁) (ha : a.onFiles = true) (hallowed : StepAllowed excused w a)
    (hnext : Live vault { w with disk := w.disk.perform a } →
      wp (g ()) (StepIn vault excused s₁) post
        { w with disk := w.disk.perform a }) :
    wp (step a >>= g) (StepIn vault excused s₁) post w :=
  wp_step_bind.mpr ⟨⟨⟨h,hallowed⟩,hstate⟩,hnext (h.perform ha hallowed)⟩

theorem wp_allocateAndVerify {capacity : Nat} (h : Live vault w) (hsettled : w.disk.settled)
    (hrecord : w.store.state.reservations[id]? = some record)
    (hphase : record.phase = .reservePending) (hfree : w.disk.backups[id]? = none)
    (hpost : ∀ t, FilesDone vault w t → HoldsZeros t.disk id capacity → post (.ok ()) t) :
    wp (allocateAndVerify id capacity)
      (StepIn vault excused w.store.state) post w := by
  let d := w.disk.perform (.create id)
  have hfile : (d.zeroFilled id capacity).backups[id]? = _ :=
    Disk.zeroFilled_backups (by simp [d, Disk.perform])
  have hlast : ((d.zeroFilled id capacity).perform .syncDirectory).settled :=
    Disk.settledExcept.zeroFilled (hsettled.except.perform rfl (by simp [StorageStep.target]))
  rw [allocateAndVerify, wp_query_bind (a := ()) (require_eq_ok.mpr hfree)]
  refine wp_fileStep h rfl rfl (stepAllowed_of_waiting rfl hrecord (by rw [hphase]; rfl)) fun h1 => ?_
  refine wp_fileStep h1 rfl rfl (stepAllowed_of_waiting rfl hrecord (by rw [hphase]; rfl)) fun h2 => ?_
  refine wp_fileStep h2 rfl rfl trivial fun h3 => ?_
  rw [wp_query_bind (checkFile_zeros hfile)]
  refine wp_fileStep h3 rfl rfl trivial fun h4 => ?_
  rw [wp_query_bind (checkFile_zeros hfile), wp_query, verifyZeroFilled_zeros]
  refine hpost _ ⟨h4,rfl,?_,hlast⟩ ⟨⟨_,hfile,rfl,List.length_replicate,le_rfl⟩,hlast id⟩
  rw [Disk.perform_journal rfl, Disk.perform_journal rfl, Disk.perform_journal rfl,
    Disk.perform_journal rfl]

theorem wp_installAndVerify {bytes : List UInt8} {binding : RepairBinding} (h : Live vault w)
    (hsettled : w.disk.settled) (hrecord : w.store.state.reservations[id]? = some record)
    (hphase : record.phase = .persistPending binding)
    (hstored : HoldsZeros w.disk id record.reservedCapacityBytes)
    (hlength : bytes.length = record.draft.backupSizeBytes)
    (hdigest : Sha256Hasher.finalize bytes = record.draft.expectedBackupSha256)
    (hfits : record.draft.backupSizeBytes ≤ record.reservedCapacityBytes)
    (hpost : ∀ t, FilesDone vault w t →
      StoredFile t.disk id record.reservedCapacityBytes (HoldsBackup record) → post (.ok ()) t) :
    wp (installAndVerify id bytes record.draft.backupSizeBytes record.draft.expectedBackupSha256
        record.reservedCapacityBytes)
      (StepIn vault excused w.store.state) post w := by
  obtain ⟨zeros,hzeros,hempty,hsize,hallocated⟩ := hstored.present
  have hholds := holdsBackup_write hlength hdigest hfits
  rw [← hempty] at hholds
  let file : BackupFile := ⟨bytes ++ zeros.bytes.drop bytes.length,max zeros.allocated bytes.length⟩
  let d := ((w.disk.perform (.write id bytes)).perform (.sync id)).perform .syncDirectory
  have hfile : d.backups[id]? = some file := Disk.rewrite_of_some hzeros
  have hlast : d.settled :=
    (hsettled.except.perform rfl (by simp [StorageStep.target])).sync_syncDirectory
  have hopen : w.openBackupFile id = .ok zeros := by
    rw [World.openBackupFile, hrecord, okOr_some, ok_bind]
    exact checkFile_eq_ok hzeros hsize hallocated
  have hverify : verifyFileContents file.bytes (verificationRecord record.draft.expectedBackupSha256
      record.draft.backupSizeBytes record.reservedCapacityBytes .reserved) false = .ok () :=
    verifyFileContents_iff.mpr ⟨hholds.length,hholds.size,hholds.digest,hholds.padding⟩
  rw [installAndVerify, wp_query_bind hopen]
  refine wp_fileStep h rfl rfl (stepAllowed_of_waiting rfl hrecord (by rw [hphase]; rfl)) fun h1 => ?_
  refine wp_fileStep h1 rfl rfl trivial fun h2 => ?_
  refine wp_fileStep h2 rfl rfl trivial fun h3 => ?_
  rw [wp_query_bind (okOr_eq_ok.mpr hfile),
    wp_query_bind (a := ()) (require_eq_ok.mpr hholds.length), wp_query, hverify]
  refine hpost _ ⟨h3,rfl,?_,hlast⟩
    ⟨⟨file,hfile,hholds,hholds.length,hallocated.trans (Nat.le_max_left _ _)⟩,hlast id⟩
  rw [Disk.perform_journal rfl, Disk.perform_journal rfl, Disk.perform_journal rfl]

theorem wp_removePendingBackupFile (h : Live vault w) (hsettled : w.disk.settled)
    (hrecord : w.store.state.reservations[id]? = some record)
    (hphase : (StorageStep.unlink id).mayChange record.phase = true)
    (hpost : ∀ t, FilesDone vault w t → t.disk.backups[id]? = none → post (.ok ()) t) :
    wp (removePendingBackupFile id)
      (StepIn vault excused w.store.state) post w := by
  rw [removePendingBackupFile, wp_read_bind]
  by_cases hfile : w.disk.backups[id]?.isSome = true
  · let d := (w.disk.perform (.unlink id)).perform .syncDirectory
    have hgone : d.backups[id]? = none := by simp [d, Disk.perform]
    have hexcept : (w.disk.perform (.unlink id)).settledExcept id :=
      hsettled.except.perform rfl (by simp [StorageStep.target])
    have hlast : d.settled := hexcept.syncDirectory (by simp [Disk.perform])
    rw [if_pos hfile]
    refine wp_fileStep h rfl rfl (stepAllowed_of_waiting rfl hrecord hphase) fun h1 => ?_
    refine wp_fileStep h1 rfl rfl trivial fun h2 => ?_
    rw [wp_query, CrashLogic.require, if_pos hgone]
    refine hpost _ ⟨h2,rfl,?_,hlast⟩ hgone
    rw [Disk.perform_journal rfl, Disk.perform_journal rfl]
  · rw [if_neg hfile]
    exact wp_pure.mpr (hpost w ⟨h,rfl,rfl,hsettled⟩ (by simpa using hfile))

theorem wp_resetPendingBackupFile {binding : RepairBinding} (h : Live vault w)
    (hsettled : w.disk.settled) (hrecord : w.store.state.reservations[id]? = some record)
    (hphase : record.phase = .persistPending binding)
    (hpost : ∀ t, FilesDone vault w t → HoldsZeros t.disk id record.reservedCapacityBytes →
      post (.ok ()) t) :
    wp (resetPendingBackupFile id record.reservedCapacityBytes)
      (StepIn vault excused w.store.state) post w := by
  have hchange : ∀ {v : World} {a : StorageStep}, v.store = w.store → a.target = some id →
      a.mayChange (.persistPending binding) = true → StepAllowed excused v a := by
    intro v a hstore htarget hmay
    refine stepAllowed_of_waiting htarget ?_ (hphase ▸ hmay)
    rw [hstore]
    exact hrecord
  -- From here on there is a file, old or new.
  have hrest : ∀ v : World, Live vault v → v.store = w.store → v.disk.journal = w.disk.journal →
      v.disk.settledExcept id → (∃ file, v.disk.backups[id]? = some file) →
      wp (do
          step (.truncate id)
          step (.allocate id record.reservedCapacityBytes)
          step (.sync id)
          let file ← query fun w => w.checkFile id record.reservedCapacityBytes
          step .syncDirectory
          query fun _ => verifyZeroFilled file.bytes record.reservedCapacityBytes)
        (StepIn vault excused w.store.state) post v := by
    rintro v hv hstore hjournal hexcept ⟨old,hold⟩
    let d := v.disk.perform (.truncate id)
    have hfile : (d.zeroFilled id record.reservedCapacityBytes).backups[id]? = _ :=
      Disk.zeroFilled_backups (Disk.rewrite_of_some hold)
    have hlast : ((d.zeroFilled id record.reservedCapacityBytes).perform .syncDirectory).settled :=
      Disk.settledExcept.zeroFilled (hexcept.perform rfl (by simp [StorageStep.target]))
    have hstate : v.store.state = w.store.state := by rw [hstore]
    refine wp_fileStep hv hstate rfl (hchange hstore rfl rfl) fun h1 => ?_
    refine wp_fileStep h1 hstate rfl (hchange hstore rfl rfl) fun h2 => ?_
    refine wp_fileStep h2 hstate rfl trivial fun h3 => ?_
    rw [wp_query_bind (checkFile_zeros hfile)]
    refine wp_fileStep h3 hstate rfl trivial fun h4 => ?_
    rw [wp_query, verifyZeroFilled_zeros]
    refine hpost _ ⟨h4,hstore,?_,hlast⟩ ⟨⟨_,hfile,rfl,List.length_replicate,le_rfl⟩,hlast id⟩
    rw [Disk.perform_journal rfl, Disk.perform_journal rfl, Disk.perform_journal rfl,
      Disk.perform_journal rfl, hjournal]
  rw [resetPendingBackupFile, wp_read_bind]
  by_cases hnew : w.disk.backups[id]?.isNone = true
  · rw [if_pos hnew]
    refine wp_fileStep h rfl rfl (hchange rfl rfl rfl) fun h1 => ?_
    exact hrest _ h1 rfl rfl (hsettled.except.perform rfl (by simp [StorageStep.target]))
      ⟨⟨[],0⟩,by simp [Disk.perform]⟩
  · rw [if_neg hnew]
    refine hrest w h rfl rfl hsettled.except (Option.isSome_iff_exists.mp ?_)
    rw [← Option.not_isNone, Bool.eq_false_iff.mpr hnew]
    rfl

end Steps

end KernAid.RepairStore
