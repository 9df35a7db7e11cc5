import KernAid.VaultStore
import KernAid.EventEffects

/-! The invariant of the vault, between operations and in the middle of one: a crash always leaves a vault
that recovery can open. -/

set_option autoImplicit false

namespace KernAid.RepairStore

open Encoding CrashLogic Protocol RecoveredState

structure VaultIdentity where
  vaultId : String
  fingerprint : String

def VaultAttestation.vault (a : VaultAttestation) : VaultIdentity :=
  ⟨a.vaultId,a.vaultIdentityFingerprint⟩

def VaultIdentity.owns (vault : VaultIdentity) (record : ReservationRecord) : Prop :=
  record.vaultId = vault.vaultId ∧ record.vaultIdentityFingerprint = vault.fingerprint

/-- The reservation binding that is recorded at an identifier, active or released. -/
def RecoveredState.bindingAt (s : RecoveredState) (id : ReservationId) : Option String :=
  match s.reservations[id]? with
  | some record => some record.reservationBindingSha256
  | none => s.released[id]?.map fun tombstone => tombstone.record.reservationBindingSha256

variable [Sha256Hasher]

structure JournalOk (vault : VaultIdentity) (journal : List RepairEvent) (s : RecoveredState) : Prop where
  replayed : replay journal = .ok s
  live : s.compactionReplay = none
  fits : CountersFit s
  length : journal.length ≤ maxJournalEvents
  sizes : ∀ event ∈ journal, event.encode.length ≤ maxEventBytes
  room : s.pending.isSome = true → journal.length < maxJournalEvents
  records : ∀ (id : ReservationId) record, s.reservations[id]? = some record → vault.owns record
  tombstones : ∀ (id : ReservationId) tombstone, s.released[id]? = some tombstone →
    vault.owns tombstone.record ∧ tombstone.releasedAtEvent ≠ 0
  bindings : ∀ i j digest, s.bindingAt i = some digest → s.bindingAt j = some digest → i = j

namespace JournalOk

variable {vault : VaultIdentity} {journal : List RepairEvent} {s s' : RecoveredState}
  {event : RepairEvent}

theorem inv (h : JournalOk vault journal s) : Inv s := replay_inv h.replayed

theorem empty (vault : VaultIdentity) : JournalOk vault [] {} where
  replayed := rfl
  live := rfl
  fits := countersFit_default
  length := by decide
  sizes := by simp
  room := by simp
  records := by simp
  tombstones := by simp
  bindings := by simp [RecoveredState.bindingAt]

end JournalOk

section Append

variable {s s' : RecoveredState} {event : RepairEvent} {n : Nat}

theorem applyRepairEvent_live_iff (hlive : s.compactionReplay = none)
    (hcontrol : event.isControl = false) :
    applyRepairEvent s event n = .ok s' ↔
      s.logicalEventClock + 1 < u64Bound ∧ dispatchRepairEvent s.tick event n = .ok s' := by
  by_cases hclock : s.logicalEventClock + 1 < u64Bound
  · simp [applyRepairEvent_live hlive hclock hcontrol, hclock]
  · simp [applyRepairEvent, advanceClock, hlive, hclock, hcontrol, bind, Except.bind]

theorem Inv.tick (hinv : Inv s) : Inv s.tick :=
  ⟨hinv.cells,hinv.size,hinv.oneUnresolved,hinv.filling,hinv.rollbackIds,fun id tombstone ht =>
    Nat.le_succ_of_le (hinv.stamps id tombstone ht)⟩

theorem Inv.not_released (hinv : Inv s) {id : ReservationId} {record : ReservationRecord}
    (hrecord : s.reservations[id]? = some record) : s.released[id]? = none := by
  have hcell := hinv.cells id
  generalize hc : s.cell id = c at hcell
  have hactive : c.record = some record := hc ▸ hrecord
  have htombstone : c.tombstone = s.released[id]? := hc ▸ rfl
  rw [← htombstone]
  cases hcell <;> simp_all

theorem RecordsStep.bindingAt (h : RecordsStep s event s') (hinv : Inv s) {j : ReservationId}
    {digest : String} (hdigest : s'.bindingAt j = some digest) :
    s.bindingAt j = some digest ∨
      ∃ record, event.reserves = some (j,record) ∧ record.reservationBindingSha256 = digest := by
  unfold RecoveredState.bindingAt at hdigest ⊢
  cases h with
  | keep hactive hreleased => exact .inl (hactive ▸ hreleased ▸ hdigest)
  | @phase id record phase hrecord hactive hreleased =>
    rw [hactive, hreleased, getElem?_insert_ite] at hdigest
    split_ifs at hdigest with hj
    · subst hj
      exact .inl (hrecord ▸ hdigest)
    · exact .inl hdigest
  | @reserve id record hevent hactive hreleased =>
    rw [hactive, hreleased, getElem?_insert_ite] at hdigest
    split_ifs at hdigest with hj
    · subst hj
      exact .inr ⟨record,hevent,Option.some.inj hdigest⟩
    · exact .inl hdigest
  | @abort id hactive hreleased =>
    rw [hactive, hreleased, getElem?_erase_ite] at hdigest
    split_ifs at hdigest with hj
    · subst hj
      cases hrecord : s.reservations[j]? with
      | none => exact .inl hdigest
      | some record => simp [hinv.not_released hrecord] at hdigest
    · exact .inl hdigest
  | @release id record operation hrecord hbefore hafter hactive hreleased =>
    rw [hactive, hreleased, getElem?_erase_ite, getElem?_insert_ite] at hdigest
    split_ifs at hdigest with hj
    · subst hj
      exact .inl (hrecord ▸ hdigest)
    · exact .inl hdigest

omit [Sha256Hasher] in
theorem RecordsStep.owns {vault : VaultIdentity} (h : RecordsStep s event s')
    (hrecords : ∀ (id : ReservationId) record, s.reservations[id]? = some record → vault.owns record)
    (hreserves : ∀ id record, event.reserves = some (id,record) → vault.owns record)
    {j : ReservationId} {r : ReservationRecord} (hr : s'.reservations[j]? = some r) : vault.owns r := by
  cases h with
  | keep hactive _ => exact hrecords j r (hactive ▸ hr)
  | @phase id record phase hrecord hactive _ =>
    rw [hactive, getElem?_insert_ite] at hr
    split_ifs at hr with hj
    · rw [← Option.some.inj hr]
      exact hrecords id record hrecord
    · exact hrecords j r hr
  | @reserve id record hevent hactive _ =>
    rw [hactive, getElem?_insert_ite] at hr
    split_ifs at hr with hj
    · rw [← Option.some.inj hr]
      exact hreserves id record hevent
    · exact hrecords j r hr
  | abort hactive _ | release _ _ _ _ hactive _ =>
    rw [hactive, getElem?_erase_ite] at hr
    split_ifs at hr with hj
    exact hrecords j r hr

omit [Sha256Hasher] in
theorem RecordsStep.released (h : RecordsStep s event s') {j : ReservationId}
    {tombstone : ReleaseTombstone} (ht : s'.released[j]? = some tombstone) :
    s.released[j]? = some tombstone ∨
      s.reservations[j]? = some tombstone.record ∧ tombstone.releasedAtEvent = s.logicalEventClock := by
  cases h with
  | keep _ hreleased | phase _ _ _ hreleased | reserve _ _ hreleased | abort _ hreleased =>
    exact .inl (hreleased ▸ ht)
  | @release id record operation hrecord _ _ _ hreleased =>
    rw [hreleased, getElem?_insert_ite] at ht
    split_ifs at ht with hj
    · subst hj
      obtain rfl := Option.some.inj ht
      exact .inr ⟨hrecord,rfl⟩
    · exact .inl ht

end Append

namespace JournalOk

variable {vault : VaultIdentity} {journal : List RepairEvent} {s s' : RecoveredState}
  {event : RepairEvent}

theorem append (h : JournalOk vault journal s) (hcontrol : event.isControl = false)
    (happly : applyRepairEvent s event (journal.length + 1) = .ok s')
    (hroom : journal.length < maxJournalEvents)
    (hpending : s'.pending.isSome = true → journal.length + 1 < maxJournalEvents)
    (hreserves : ∀ id record, event.reserves = some (id,record) →
      vault.owns record ∧ ∀ j, s.bindingAt j ≠ some record.reservationBindingSha256) :
    JournalOk vault (journal ++ [event]) s' := by
  obtain ⟨hclock,hdispatch⟩ := (applyRepairEvent_live_iff h.live hcontrol).mp happly
  have hlive : s.tick.compactionReplay = none := h.live
  have hstep := dispatch_recordsStep hlive hcontrol hdispatch
  have hticked : CountersFit s.tick := ⟨hclock,h.fits.generation,h.fits.replaying⟩
  have hfit := countersFit_of_accepted hticked (by simp [hcontrol]) hdispatch
  have hheader := dispatchRepairEvent_header hcontrol hdispatch
  simp only [header, Prod.mk.injEq] at hheader
  refine ⟨?_,hheader.2.2.2.trans h.live,h.fits.apply hfit happly,?_,?_,?_,?_,?_,?_⟩
  · refine replayFrom_append_ok h.replayed ?_
    rw [replayFrom, Nat.zero_add, happly]
    rfl
  · rw [List.length_append, List.length_singleton]
    exact hroom
  · intro e he
    rcases List.mem_append.mp he with he | he
    · exact h.sizes e he
    · rw [List.mem_singleton.mp he]
      exact encode_le_of_applied h.inv hfit happly
  · rw [List.length_append, List.length_singleton]
    exact hpending
  · intro id record
    exact hstep.owns h.records fun id record hr => (hreserves id record hr).1
  · intro id tombstone ht
    rcases hstep.released ht with hold | ⟨hrecord,hstamp⟩
    · exact h.tombstones id tombstone hold
    · refine ⟨h.records id _ hrecord,?_⟩
      rw [hstamp]
      exact Nat.succ_ne_zero _
  · intro i j digest hi hj
    rcases hstep.bindingAt h.inv.tick hi with hi | ⟨ri,hri,hdi⟩ <;>
      rcases hstep.bindingAt h.inv.tick hj with hj | ⟨rj,hrj,hdj⟩
    · exact h.bindings i j digest hi hj
    · exact absurd hi (hdj ▸ (hreserves j rj hrj).2 i)
    · exact absurd hj (hdi ▸ (hreserves i ri hri).2 j)
    · rw [hri] at hrj
      exact congrArg Prod.fst (Option.some.inj hrj)

theorem compact {anchor : JournalAnchor} {events : List RepairEvent} (h : JournalOk vault journal s)
    (hcompact : compactJournalUntil s anchor = .ok (events,s')) : JournalOk vault events s' := by
  obtain ⟨hpending,hgeneration,_,hlength,hsizes,hreplayed,rfl⟩ := compactJournalUntil_eq_ok hcompact
  have hlimit : journalCompactionTriggerEvents ≤ maxJournalEvents := by decide
  refine ⟨hreplayed,rfl,⟨h.fits.clock,hgeneration,by simp [afterCompaction,
    compacted]⟩,hlength.le.trans hlimit,hsizes,fun _ => hlength.trans_le hlimit,
    h.records,fun id tombstone ht => h.tombstones id tombstone (retained_getElem? ht).1,?_⟩
  have hold : ∀ i digest, (s.afterCompaction anchor).bindingAt i = some digest →
      s.bindingAt i = some digest := by
    intro i digest hi
    unfold RecoveredState.bindingAt at hi ⊢
    cases hrecord : s.reservations[i]? with
    | some record => simpa [afterCompaction, compacted, hrecord] using hi
    | none =>
      simp only [afterCompaction, compacted, hrecord] at hi
      obtain ⟨tombstone,ht,hdigest⟩ := Option.map_eq_some_iff.mp hi
      exact Option.map_eq_some_iff.mpr ⟨tombstone,(retained_getElem? ht).1,hdigest⟩
  exact fun i j digest hi hj => h.bindings i j digest (hold i digest hi) (hold j digest hj)

end JournalOk

/-! Backup files. -/

structure StoredFile (d : Disk) (id : ReservationId) (capacity : Nat)
    (holds : List UInt8 → Prop) : Prop where
  present : ∃ file, d.backups[id]? = some file ∧ holds file.bytes ∧ file.bytes.length = capacity ∧
    capacity ≤ file.allocated
  synced : d.synced id

/-- What the backup directory holds at an identifier. While an operation is pending on it, anything. -/
def FileOk (d : Disk) (id : ReservationId) : Option ReservationRecord → Prop
  | none => d.backups[id]? = none ∧ d.synced id
  | some record =>
    match record.phase with
    | .reserved => StoredFile d id record.reservedCapacityBytes fun bytes =>
        bytes = List.replicate record.reservedCapacityBytes 0
    | .durable _ => StoredFile d id record.reservedCapacityBytes (HoldsBackup record)
    | .reservePending | .persistPending _ | .cancelPending | .retirePending _ _ => True

theorem FileOk.mono {d d' : Disk} {id : ReservationId} {record : Option ReservationRecord}
    (h : FileOk d id record) (hkept : d.synced id → d'.backups[id]? = d.backups[id]?)
    (hsynced : d.synced id → d'.synced id) : FileOk d' id record := by
  have hstored : ∀ {capacity holds}, StoredFile d id capacity holds → StoredFile d' id capacity holds :=
    fun h => ⟨hkept h.synced ▸ h.present,hsynced h.synced⟩
  cases record with
  | none => exact ⟨hkept h.2 ▸ h.1,hsynced h.2⟩
  | some record =>
    unfold FileOk at h ⊢
    cases hphase : record.phase <;> simp only [hphase] at h ⊢ <;> exact hstored h

def FilesOk (d : Disk) (s : RecoveredState) : Prop := ∀ id, FileOk d id s.reservations[id]?

structure Live (vault : VaultIdentity) (w : World) : Prop where
  attested : w.store.vault = vault
  journal : JournalOk vault w.disk.journal w.store.state
  count : w.store.eventCount = w.disk.journal.length
  files : FilesOk w.disk w.store.state

section Layout

variable {vault : VaultIdentity} {w : World} {id : ReservationId} {record : ReservationRecord}
  {s : RecoveredState}

theorem Inv.settledPhase (hinv : Inv s) (hpending : s.pending = none)
    (hrecord : s.reservations[id]? = some record) :
    record.phase = .reserved ∨ ∃ binding, record.phase = .durable binding := by
  have hentry : SettledEntry s (id,record) := hinv.settledEntry hpending hrecord
  rcases hentry.shape with ⟨hphase,_⟩ | ⟨binding,_,hphase,_⟩
  · exact .inl hphase
  · exact .inr ⟨binding,hphase⟩

omit [Sha256Hasher] in
theorem checkFile_eq_ok {capacity : Nat} {file : BackupFile} (hfile : w.disk.backups[id]? = some file)
    (hlength : file.bytes.length = capacity) (hallocated : capacity ≤ file.allocated) :
    w.checkFile id capacity = .ok file := by
  simp only [World.checkFile, okOr_bind_eq_ok, require_bind_eq_ok, pure_eq_ok_iff]
  exact ⟨file,hfile,hlength,hallocated,rfl⟩

omit [Sha256Hasher] in
theorem StoredFile.checkFile {capacity : Nat} {holds : List UInt8 → Prop}
    (h : StoredFile w.disk id capacity holds) :
    ∃ file, w.checkFile id capacity = .ok file ∧ w.disk.backups[id]? = some file ∧ holds file.bytes := by
  obtain ⟨file,hfile,hholds,hlength,hallocated⟩ := h.present
  exact ⟨file,checkFile_eq_ok hfile hlength hallocated,hfile,hholds⟩

theorem Live.storedFile (h : Live vault w) (hpending : w.store.state.pending = none)
    (hrecord : w.store.state.reservations[id]? = some record) :
    ∃ holds, StoredFile w.disk id record.reservedCapacityBytes holds := by
  have hfile := h.files id
  rw [hrecord] at hfile
  rcases h.journal.inv.settledPhase hpending hrecord with hphase | ⟨binding,hphase⟩
  · simp only [FileOk, hphase] at hfile
    exact ⟨_,hfile⟩
  · simp only [FileOk, hphase] at hfile
    exact ⟨_,hfile⟩

theorem Live.active_of_file (h : Live vault w) {file : BackupFile}
    (hfile : w.disk.backups[id]? = some file) :
    ∃ record, w.store.state.reservations[id]? = some record := by
  cases hrecord : w.store.state.reservations[id]? with
  | some record => exact ⟨record,rfl⟩
  | none =>
    have hnone := h.files id
    rw [hrecord] at hnone
    rw [hnone.1] at hfile
    cases hfile

theorem Live.validateLayout (h : Live vault w) (hpending : w.store.state.pending = none) :
    w.validateLayout = .ok () := by
  have hinv := h.journal.inv
  rw [World.validateLayout, require_bind_eq_ok]
  refine ⟨hinv.transactionsAreConsistent hpending,?_⟩
  rw [World.scanBackups, require_bind_eq_ok]
  refine ⟨(size_le_of_keys fun id file hfile => h.active_of_file hfile).trans hinv.size,?_⟩
  refine bind_ok_iff.mpr ⟨(),forM_eq_ok.mpr ?_,forM_eq_ok.mpr ?_⟩
  · rintro ⟨id,record⟩ hmem
    have hrecord := Std.ExtTreeMap.mem_toList_iff_getElem?_eq_some.mp hmem
    obtain ⟨holds,hstored⟩ := h.storedFile hpending hrecord
    obtain ⟨file,hcheck,hfile,_⟩ := hstored.checkFile
    simp only [World.scanReservation, hfile, hcheck, ok_bind]
    rfl
  · rintro ⟨id,file⟩ hmem
    obtain ⟨record,hrecord⟩ :=
      h.active_of_file (Std.ExtTreeMap.mem_toList_iff_getElem?_eq_some.mp hmem)
    refine require_eq_ok.mpr ?_
    rw [Std.ExtTreeMap.mem_iff_isSome_getElem?, hrecord]
    rfl

end Layout

end KernAid.RepairStore
