import KernAid.CrashAtomicity
import KernAid.OperationResults

/-! A vault whose journal is due for compaction: a crash right after that compaction leaves neither the
state before the operation nor the one after it. -/

set_option autoImplicit false

namespace KernAid.RepairStore

open Encoding CrashLogic Protocol Program

namespace Sample

def crowdPrefix : List UInt8 :=
  let d := crowdDraft 0
  asBytes "KERNAID-REPAIR-RESERVATION-V1\x00" ++
    [asBytes d.sessionId,asBytes d.targetId,d.targetFingerprint.toList,
      asBytes d.targetRecoveryFingerprint,d.expectedBackupSha256.toList,d.metadataSha256.toList,
      toBeBytes 8 d.backupSizeBytes].flatMap hashField ++ toBeBytes 8 8

variable {n k : Nat} {w : World}

theorem crowdPrefix_sum : crowdPrefix.length = 280 ∧ (crowdPrefix.map UInt8.toNat).sum = 15254 := by
  decide +kernel

theorem reservationBinding_crowdDraft (n : Nat) : reservationBinding (crowdDraft n) =
    encodeHex (Sha256Hasher.finalize (crowdPrefix ++ toBeBytes 8 (8 + n))).toList := by
  simp only [reservationBinding, framedDigest, crowdPrefix, List.flatMap_cons, List.flatMap_nil,
    List.append_assoc, List.append_nil, hashField, length_toBeBytes]
  rfl

theorem toBeBytes_small (h : n < 256) : toBeBytes 8 n = List.replicate 7 0 ++ [UInt8.ofNat n] := by
  have hzero : ∀ k, n / 256 ^ (k + 1) = 0 := fun k =>
    Nat.div_eq_of_lt (h.trans_le (Nat.le_self_pow (Nat.succ_ne_zero k) 256))
  simp only [toBeBytes, List.range, List.range.loop, List.reverse_cons, List.reverse_nil, List.map_append,
    List.map_cons, List.map_nil, hzero]
  simp

theorem finalize_crowd (h0 : 0 < n) (hn : n ≤ 100) :
    (Sha256Hasher.finalize (crowdPrefix ++ toBeBytes 8 (8 + n))).toList = toBeBytes 32 (15262 + n) := by
  have hsum : ((crowdPrefix ++ toBeBytes 8 (8 + n)).map UInt8.toNat).sum = 15262 + n := by
    rw [List.map_append, List.sum_append, crowdPrefix_sum.2, toBeBytes_small (by omega)]
    have hbyte : (UInt8.ofNat (8 + n)).toNat = 8 + n := UInt8.toNat_ofNat_of_lt
      (show 8 + n < 256 by omega)
    simp only [List.map_append, List.sum_append, List.map_replicate, List.map_cons, List.map_nil, hbyte]
    simp
    omega
  have hlength : (crowdPrefix ++ toBeBytes 8 (8 + n)).length = 288 := by
    rw [List.length_append, crowdPrefix_sum.1, length_toBeBytes]
  have hnone : (digestTable.find? fun entry => entry.1 == 288 && entry.2.1 == 15262 + n) = none := by
    have h1 : ((15262 : Nat) == 15262 + n) = false := by simp; omega
    have h2 : ((14538 : Nat) == 15262 + n) = false := by simp; omega
    simp [digestTable, h1, h2]
  simp only [Sha256Hasher.finalize, hsum, hlength, hnone]
  rfl

theorem crowdBinding_injective {m : Nat} (hm0 : 0 < m) (hm : m ≤ 100) (hn0 : 0 < n) (hn : n ≤ 100)
    (h : reservationBinding (crowdDraft m) = reservationBinding (crowdDraft n)) : m = n := by
  rw [reservationBinding_crowdDraft, reservationBinding_crowdDraft, finalize_crowd hm0 hm,
    finalize_crowd hn0 hn] at h
  have hvalue := congrArg fromBeBytes (encodeHex_injective h)
  have hbig : ∀ k ≤ 100, 15262 + k < 256 ^ 32 := fun k hk =>
    Nat.lt_of_le_of_lt (by omega) (by decide : 15362 < 256 ^ 32)
  rw [fromBeBytes_toBeBytes, fromBeBytes_toBeBytes, Nat.mod_eq_of_lt (hbig m hm),
    Nat.mod_eq_of_lt (hbig n hn)] at hvalue
  omega

structure Cancelled (k : Nat) (w : World) : Prop where
  run : ∃ log, Run attestation.vault Careful (held w) log
  attested : w.store.toVaultAttestation = attestation
  healthy : w.store.healthy = true
  quiet : w.store.state.isQuiescent = true
  empty : w.store.state.reservations = ∅
  clock : w.store.state.logicalEventClock = 4 * k
  count : w.store.eventCount = 4 * k
  generation : w.store.state.compactionGeneration = 0
  free : w.store.checkedOut = ∅
  size : w.store.state.released.size = k
  released : ∀ (id : ReservationId) tombstone, w.store.state.released[id]? = some tombstone →
    ∃ i < k, tombstone.record.reservationBindingSha256 = reservationBinding (crowdDraft (i + 1))
  seen : ∀ id ∈ w.store.state.seenReservationIds, ∃ i < k, id = crowdId (i + 1)

theorem Cancelled.settled (h : Cancelled k w) : Settled attestation.vault w :=
  h.run.elim fun _ hrun => hrun.settled

theorem cancelled_opened : Cancelled 0 opened where
  run := run_opened ⟨clockFits_of_empty rfl,fun h => h⟩
  attested := by rw [opened, opening_empty]; rfl
  healthy := by rw [opened, opening_empty]; rfl
  quiet := by rw [opened, opening_empty]; rfl
  empty := by rw [opened, opening_empty]; rfl
  clock := by rw [opened, opening_empty]; rfl
  count := by rw [opened, opening_empty]; rfl
  generation := by rw [opened, opening_empty]; rfl
  free := by rw [opened, opening_empty]; rfl
  size := by rw [opened, opening_empty]; rfl
  released id tombstone h := by
    rw [opened, opening_empty] at h
    simp [VaultAttestation.session] at h
  seen id h := by
    rw [opened, opening_empty] at h
    simp [VaultAttestation.session] at h

theorem Cancelled.new (h : Cancelled k w) (hk : k ≤ 65) (j : ReservationId) :
    w.store.state.bindingAt j ≠ some (reservationBinding (crowdDraft (k + 1))) := by
  intro hj
  simp only [RecoveredState.bindingAt, h.empty, Std.ExtTreeMap.getElem?_empty] at hj
  obtain ⟨tombstone,ht,hdigest⟩ := Option.map_eq_some_iff.mp hj
  obtain ⟨i,hi,hbinding⟩ := h.released j tombstone ht
  have hsame := crowdBinding_injective (by omega) (by omega) (by omega) (by omega)
    (hbinding.symm.trans hdigest)
  omega

theorem Cancelled.unseen (h : Cancelled k w) (hk : k ≤ 65) :
    crowdId (k + 1) ∉ w.store.state.seenReservationIds := by
  intro hmem
  obtain ⟨i,hi,heq⟩ := h.seen _ hmem
  have hsmall : ∀ j ≤ 66, j < 256 ^ 16 := fun j hj => Nat.lt_of_le_of_lt hj (by decide)
  have hsame := crowdId_injective (hsmall _ (by omega)) (hsmall _ (by omega)) heq
  omega

theorem clockFits_of_settled (h : Settled attestation.vault w)
    (hclock : w.store.state.logicalEventClock ≤ 500) : (held w).clockFits := by
  intro s hs
  obtain rfl : w.store.state = s := Except.ok.inj (h.live.journal.replayed.symm.trans hs)
  exact Nat.lt_of_le_of_lt (by omega : w.store.state.logicalEventClock + 2 ≤ 502) (by decide)

theorem Cancelled.canReserve {w' : World} (h : Cancelled k w) (hk : k ≤ 65)
    (hcapacity : (requireEventCapacity 2 w).result = .ok () ∧ (requireEventCapacity 2 w).final = w')
    (hsettled : Settled attestation.vault w') (hsame : SameRecords w.store.state w'.store.state)
    (hroom : w'.disk.journal.length + 2 ≤ maxJournalEvents)
    (hseen : ∀ id ∈ w'.store.state.seenReservationIds, id ∈ w.store.state.seenReservationIds)
    (hfree : w'.store.checkedOut = w.store.checkedOut) :
    CanReserve attestation.vault (crowdId (k + 1)) (crowdDraft (k + 1)) w w' := by
  obtain ⟨hidle,hresolved⟩ := isQuiescent_iff.mp h.quiet
  have hclock := h.clock
  exact {
    healthy := h.healthy
    idle := hidle
    valid := (recordOk_crowdRecord (by omega : k + 1 ≤ 100)).draft
    new := h.new hk
    resolved := hresolved
    inv := h.settled.live.journal.inv
    capacity := hcapacity
    settled := hsettled
    quiet := isQuiescent_iff.mpr ⟨hsettled.idle,hsame.unresolvedTransaction.trans hresolved.1,
      hsame.unresolvedRollback.trans hresolved.2⟩
    still := hsame.bindingAt (h.new hk)
    room := hroom
    size := by rw [hsame.reservations, h.empty]; decide
    unseen := fun hmem => h.unseen hk (hseen _ hmem)
    free := by rw [hfree, h.free]; simp
    clock := by
      rw [hsame.clock, hclock]
      exact Nat.lt_of_le_of_lt (by omega : 4 * k + 2 ≤ 262) (by decide) }

theorem Cancelled.reserves (h : Cancelled k w) (hk : k ≤ 64) :
    CanReserve attestation.vault (crowdId (k + 1)) (crowdDraft (k + 1)) w w := by
  have hclock := h.clock
  have hcount := h.count
  have hsize := h.size
  have hlength := h.settled.live.count
  have hroom : requireEventCapacity 2 w = _ :=
    requireEventCapacity_room (compactionDue_young le_rfl (by omega) (by omega) (by omega))
  have hmost : maxJournalEvents = 4096 := rfl
  exact h.canReserve (by omega) (by rw [hroom]; exact ⟨rfl,rfl⟩) h.settled (.refl _) (by omega)
    (fun _ hmem => hmem) rfl

theorem held_after (request : Request) {log : List (StorageStep × World)}
    (hrun : Run attestation.vault Careful (held w) log) (hsettled : Settled attestation.vault w)
    (hclock : w.store.state.logicalEventClock ≤ 500) (hrequest : ¬ request.repeatsResolution) :
    ∃ log, Run attestation.vault Careful (held (after w request)) log := by
  have hcareful : Careful (held w) (.request request) :=
    ⟨clockFits_of_settled hsettled hclock,hrequest⟩
  exact ⟨_,hrun.next hcareful (request_answered w request)⟩

theorem Cancelled.next (h : Cancelled k w) (hk : k ≤ 64) :
    ∃ w', Cancelled (k + 1) w' := by
  have hclock := h.clock
  have hcount := h.count
  have hsize := h.size
  have hseen := h.seen
  have hreleased := h.released
  have hsettled := h.settled
  have hcan := h.reserves hk
  obtain ⟨log,hrun⟩ := h.run
  -- The round is not evaluated: only these facts about the identifier and the draft matter.
  obtain ⟨id,hid⟩ : ∃ id, id = crowdId (k + 1) := ⟨_,rfl⟩
  obtain ⟨draft,hdraft⟩ : ∃ draft, draft = crowdDraft (k + 1) := ⟨_,rfl⟩
  rw [← hid, ← hdraft] at hcan
  obtain ⟨_,hsettled₁,hstore₁,_⟩ := hcan.run
  have hafter : after w (.reserveBackup [id] draft) = (reserveBackup [id] draft w).final := by
    rw [after, runRequest, map_run]
  obtain ⟨log₁,hrun₁⟩ := held_after (.reserveBackup [id] draft) hrun hsettled (by omega)
    fun hrepeats => hrepeats
  have hround := hcan.cancelled
    (fun required hrequired => compactionDue_young hrequired
      (show w.store.eventCount + 2 ≤ 300 by omega) (show w.store.state.released.size ≤ 64 by omega)
      (show w.store.state.logicalEventClock + 2 ≤ 500 by omega))
    (Nat.lt_of_le_of_lt (by omega : _ ≤ 64) (by decide))
    (Nat.lt_of_le_of_lt (by omega : _ ≤ 500) (by decide))
  rw [hafter] at hrun₁
  generalize (reserveBackup [id] draft w).final = w₁ at hsettled₁ hstore₁ hrun₁ hround
  obtain ⟨hsettled₂,hstore₂⟩ := hround
  obtain ⟨log₂,hrun₂⟩ := held_after (.cancelReserved id (reservationBinding draft)) hrun₁
    hsettled₁ (by rw [hstore₁]; show w.store.state.logicalEventClock + 2 ≤ 500; omega)
    fun hrepeats => hrepeats
  have hafter₂ : after w₁ (.cancelReserved id (reservationBinding draft)) =
      (cancelReserved id (reservationBinding draft) w₁).final := by
    rw [after, runRequest, map_run]
  rw [hafter₂] at hrun₂
  generalize (cancelReserved id (reservationBinding draft) w₁).final = w₂ at hsettled₂ hstore₂ hrun₂
  have hstate : w₂.store = (w.store.afterReserve id draft).afterCancel id
      (w.store.newRecord draft) := hstore₂
  have herase : (w.store.state.reservations.insert id (w.store.newRecord draft)).erase id = ∅ := by
    rw [erase_insert, h.empty, erase_of_getElem? (by simp)]
  obtain ⟨_,hunreleased,_⟩ := hcan.absent
  exact ⟨w₂,{
    run := ⟨log₂,hrun₂⟩
    attested := by rw [hstate]; exact h.attested
    healthy := by rw [hstate]; exact h.healthy
    quiet := by rw [hstate]; exact h.quiet
    empty := by rw [hstate]; exact herase
    clock := by rw [hstate]; show w.store.state.logicalEventClock + 4 = _; omega
    count := by rw [hstate]; show w.store.eventCount + 4 = _; omega
    generation := by rw [hstate]; exact h.generation
    free := by
      rw [hstate]
      show (w.store.checkedOut.insert id).erase id = ∅
      rw [h.free]
      refine Std.ExtTreeSet.ext_mem fun j => ?_
      simp
    size := by
      rw [hstate]
      show (w.store.state.released.insert id _).size = _
      simp [Std.ExtTreeMap.size_insert, notMem_of_getElem? hunreleased, hsize]
    released := by
      intro j tombstone hj
      rw [hstate] at hj
      change (w.store.state.released.insert id _)[j]? = _ at hj
      rw [getElem?_insert_ite] at hj
      split_ifs at hj with hsame
      · obtain rfl := Option.some.inj hj
        exact ⟨k,by omega,congrArg reservationBinding hdraft⟩
      · obtain ⟨i,hi,hbinding⟩ := hreleased j tombstone hj
        exact ⟨i,by omega,hbinding⟩
    seen := by
      intro j hj
      rw [hstate] at hj
      change j ∈ w.store.state.seenReservationIds.insert id at hj
      rw [Std.ExtTreeSet.mem_insert, Std.LawfulEqCmp.compare_eq_iff_eq] at hj
      rcases hj with rfl | hj
      · exact ⟨k,by omega,hid⟩
      · obtain ⟨i,hi,hj⟩ := hseen j hj
        exact ⟨i,by omega,hj⟩ }⟩

theorem exists_cancelled (hk : k ≤ 65) : ∃ w, Cancelled k w := by
  induction k with
  | zero => exact ⟨opened,cancelled_opened⟩
  | succ k ih =>
    obtain ⟨w,hw⟩ := ih (by omega)
    exact hw.next (by omega)

theorem Cancelled.due (h : Cancelled 65 w) : w.store.compactionDue 2 = true := by
  have hmany : maxRetainedReleaseTombstones < w.store.state.released.size := by
    rw [h.size]
    decide
  simp [RepairVaultStore.compactionDue, hmany]

theorem Cancelled.compacts (h : Cancelled 65 w) : ∃ events s,
    compactJournalUntil w.store.state (JournalChain.head w.disk.journal) = .ok (events,s) ∧
      s = w.store.state.afterCompaction (JournalChain.head w.disk.journal) ∧ events.length ≤ 1538 := by
  have hjournal := h.settled.live.journal
  have hfits : CountersFit w.store.state :=
    ⟨by rw [h.clock]; decide,by rw [h.generation]; decide,by simp [hjournal.live]⟩
  have hroom : ¬ w.store.state.blocksCompaction := by
    rintro ⟨hfull,_⟩
    rw [h.empty] at hfull
    exact absurd hfull (by decide)
  obtain ⟨events,hcompact,hlength⟩ := @compactJournalUntil_of_room _ _ (JournalChain.head w.disk.journal)
    hjournal.inv hfits h.settled.idle hjournal.live (by rw [h.generation]; decide) hroom
  exact ⟨events,_,hcompact,rfl,hlength⟩

theorem Cancelled.reserves_compacted (h : Cancelled 65 w) : ∃ w',
    CanReserve attestation.vault (crowdId 66) (crowdDraft 66) w w' ∧
      w'.store.state = w.store.state.afterCompaction (JournalChain.head w.disk.journal) := by
  obtain ⟨events,s,hcompact,hs,hlength⟩ := h.compacts
  have hroom : events.length + 2 ≤ maxJournalEvents := (Nat.add_le_add_right hlength 2).trans (by decide)
  have hcapacity := requireEventCapacity_compacts h.settled h.healthy h.due hcompact hroom
  have hrested : Rested attestation.vault w.store.state (w.compactedTo events s) :=
    Rested.compactedTo ⟨h.settled,.refl⟩ hcompact
  refine ⟨_,h.canReserve le_rfl hcapacity hrested.1 (sameRecords_of_compact hcompact) hroom ?_ rfl,hs⟩
  -- A compaction forgets the identifiers of the tombstones that it drops, and learns none.
  intro id hmem
  subst hs
  have hkept : id ∈ retainedReleaseTombstones w.store.state := by
    simpa [World.compactedTo, RecoveredState.afterCompaction, RecoveredState.compacted, h.empty]
      using hmem
  obtain ⟨tombstone,hfound⟩ := Option.isSome_iff_exists.mp
    (Std.ExtTreeMap.mem_iff_isSome_getElem?.mp hkept)
  refine h.settled.live.journal.inv.seen_of_released ?_
  rw [Std.ExtTreeMap.mem_iff_isSome_getElem?, (retained_getElem? hfound).1]
  rfl

end Sample

section Guarantee

variable [Sha256Hasher] [JournalChain] {vault : VaultIdentity} {system : System}
  {store : RepairVaultStore} {log : List (StorageStep × World)} {request : Request} {w : World} {d : Disk}
  {attestation : VaultAttestation}

/-- The compaction with which `open` ends is not due, or nothing stands in its way. -/
def RepairVaultStore.opensFreely (store : RepairVaultStore) : Prop :=
  store.compactionDue 0 = true →
    store.state.compactionGeneration + 1 < u64Bound ∧ ¬ store.state.blocksCompaction

/-- What `open` adds to a recovery that succeeds. -/
theorem opening_after_recovery (hresult : (System.recovering d attestation).result = .ok ())
    (hsettled : Settled vault (System.recovering d attestation).final)
    (hhealthy : (System.recovering d attestation).final.store.healthy = true) :
    ((System.opening d attestation).result = .ok () ↔
        (System.recovering d attestation).final.store.opensFreely) ∧
      Rested vault (System.recovering d attestation).final.store.state
        (System.opening d attestation).final := by
  rw [System.opening, openStore, bind_run_ok hresult]
  change _ ∧ Rested _ (recoverStore attestation _).final.store.state _
  rw [show System.recovering d attestation = recoverStore attestation
    ⟨d,attestation.session {} 0⟩ from rfl] at hsettled hhealthy ⊢
  generalize (recoverStore attestation ⟨d,attestation.session {} 0⟩).final = t at hsettled hhealthy ⊢
  have hrested : Rested vault t.store.state t := ⟨hsettled,.refl⟩
  suffices hrun : wp (do if (← Program.read).store.compactionDue 0 then compactJournal : Operation Unit)
      (fun _ _ => True) (fun r u => (r = .ok () ↔ t.store.opensFreely) ∧
        Rested vault t.store.state u) t from
    hrun.2
  rw [wp_read_bind]
  by_cases hdue : t.store.compactionDue 0 = true
  · rw [if_pos hdue]
    by_cases hfree : t.store.opensFreely
    · obtain ⟨hgeneration,hroom⟩ := hfree hdue
      obtain ⟨events,hcompact,_⟩ := compactJournalUntil_of_room hsettled.live.journal.inv
        hsettled.live.journal.fits hsettled.idle hsettled.live.journal.live hgeneration hroom
      refine wp_mono (compactJournal_compacts hsettled hhealthy hcompact) (fun _ _ _ => trivial) ?_
      rintro r u ⟨rfl,rfl⟩
      exact ⟨iff_of_true rfl hfree,hrested.compactedTo hcompact⟩
    · have hcompacts := @wp_compactJournal _ _ vault True t.store.state t (fun r u =>
        (r = .ok () ↔ t.store.opensFreely) ∧ Rested vault t.store.state u) hrested
      refine wp_mono (hcompacts (fun events s' hcompact => ?_) fun e _ => ?_) (fun _ _ _ => trivial)
        fun _ _ hpost => hpost
      · obtain ⟨_,hgeneration,_⟩ := compactJournalUntil_eq_ok hcompact
        exact absurd (fun _ => ⟨hgeneration,fun hfull =>
          compactJournalUntil_of_full hsettled.live.journal.inv hsettled.idle hfull _ hcompact⟩) hfree
      · exact ⟨iff_of_false (by simp) hfree,hrested.poisoned⟩
  · rw [if_neg hdue]
    exact wp_pure.mpr ⟨iff_of_true rfl fun h => absurd h hdue,hrested⟩

/-- A crash before any step of an operation, or after its last one. Recovery succeeds, and reopening does
unless its last compaction is due and cannot be made; nothing is pending any more; up to the compaction
with which `open` may end, the state is the one before the operation, as the compaction that the operation
may begin with leaves it, or the one after it; and the backup directory holds what the reservations
promise. -/
theorem interrupted_operation_recovers (hrun : Run vault Careful system log)
    (hsession : system.session = some store) (hcareful : Careful system (.request request))
    (hcrashed : w ∈ (runRequest request ⟨system.disk,store⟩).visits.map Prod.snd ∨
      w = (runRequest request ⟨system.disk,store⟩).final)
    (hcrash : w.disk.Crash d) (hvault : attestation.vault = vault) :
    let recovered := System.recovering d attestation
    let reopened := System.opening d attestation
    recovered.result = .ok () ∧ (reopened.result = .ok () ↔ recovered.final.store.opensFreely) ∧
      recovered.final.store.state.pending = none ∧ reopened.final.store.state.pending = none ∧
      ((∃ s, Compactions store.state s ∧ s.agrees recovered.final.store.state) ∨
        (runRequest request ⟨system.disk,store⟩).final.store.state.agrees recovered.final.store.state) ∧
      Compactions recovered.final.store.state reopened.final.store.state ∧
      recovered.final.filesExact ∧ reopened.final.filesExact := by
  obtain ⟨disk,session⟩ := system
  obtain rfl : session = some store := hsession
  have hsettled : Settled vault ⟨disk,store⟩ := hrun.settled
  have hclock : store.state.logicalEventClock + 2 < u64Bound :=
    hcareful.1 store.state hsettled.live.journal.replayed
  obtain ⟨hresult,hrecovered,hhealthy,hstate⟩ :=
    (hsettled.trace hcareful).recovers hcrashed hcrash hvault hclock
  obtain ⟨hopens,hreopened⟩ := opening_after_recovery hresult hrecovered hhealthy
  exact ⟨hresult,hopens,hrecovered.idle,hreopened.idle,hstate,hreopened.compactions,hrecovered.filesExact,
    hreopened.toSettled.filesExact⟩

end Guarantee

theorem Disk.crash_written (d : Disk) : d.Crash { d with dirtyBytes := ∅, dirtyEntries := ∅ } :=
  ⟨rfl,fun _ _ => rfl,fun _ => by simp [Disk.synced]⟩

namespace Sample

/-- The vault when a reservation has recorded its intent and its file does not exist yet. -/
def interrupted : World := ((runRequest reserve opened).visits.map Prod.snd).getD 1 opened

def afterCrash : Disk := { interrupted.disk with dirtyBytes := ∅, dirtyEntries := ∅ }

theorem interrupted_pending : interrupted.store.state.pending = some reservationId ∧
    1 < ((runRequest reserve opened).visits.map Prod.snd).length ∧
    (System.recovering afterCrash attestation).final.store.compactionDue 0 = false := by
  decide +kernel

end Sample

open Sample in
theorem interrupted_operation_recovers_reserve :
    interrupted ∈ (runRequest reserve opened).visits.map Prod.snd ∧
      interrupted.store.state.pending = some reservationId ∧ interrupted.disk.Crash afterCrash ∧
      (System.opening afterCrash attestation).result = .ok () ∧
      (System.opening afterCrash attestation).final.store.state.pending = none := by
  obtain ⟨log,hrun⟩ := run_opened (show Careful .empty (.openVault attestation) from
    ⟨clockFits_of_empty rfl,fun h => h⟩)
  have hcareful : Careful (held opened) (.request reserve) :=
    ⟨clockFits_of_empty opened_journal,fun h => h⟩
  obtain ⟨hpending,hlength,hdue⟩ := interrupted_pending
  have hvisited : interrupted ∈ (runRequest reserve opened).visits.map Prod.snd := by
    rw [interrupted, List.getD_eq_getElem _ _ hlength]
    exact List.getElem_mem hlength
  have hcrash : interrupted.disk.Crash afterCrash := interrupted.disk.crash_written
  -- The runs are not evaluated again: from here on the session and the disk are arbitrary ones.
  generalize afterCrash = d at hdue hcrash ⊢
  generalize interrupted = v at hpending hvisited hcrash ⊢
  generalize opened = w at hrun hcareful hvisited ⊢
  obtain ⟨_,hopens,_,hidle,_⟩ := interrupted_operation_recovers hrun rfl hcareful (.inl hvisited) hcrash
    (rfl : attestation.vault = _)
  exact ⟨hvisited,hpending,hcrash,hopens.mpr (fun h => absurd (hdue.symm.trans h) (by decide)),hidle⟩

open Sample in
/-- A reservation that begins with a compaction and is interrupted right after it: recovery leaves
neither the state before the reservation nor the state after it. -/
theorem compaction_before_crash_is_kept : ∃ system store log request w d,
    Run attestation.vault Careful system log ∧ system.session = some store ∧
      Careful system (.request request) ∧
      w ∈ (runRequest request ⟨system.disk,store⟩).visits.map Prod.snd ∧ w.disk.Crash d ∧
      ¬ store.state.agrees (System.recovering d attestation).final.store.state ∧
      ¬ (runRequest request ⟨system.disk,store⟩).final.store.state.agrees
        (System.recovering d attestation).final.store.state := by
  obtain ⟨w,hw⟩ := exists_cancelled (k := 65) le_rfl
  obtain ⟨log,hrun⟩ := hw.run
  obtain ⟨w',hcan,hstate⟩ := hw.reserves_compacted
  have hclock : w.store.state.logicalEventClock ≤ 500 := by rw [hw.clock]; decide
  have hcareful : Careful (held w) (.request (.reserveBackup [crowdId 66] (crowdDraft 66))) :=
    ⟨clockFits_of_settled hw.settled hclock,fun h => h⟩
  have hempty := hw.empty
  have hsize := hw.size
  generalize crowdId 66 = id at hcan hcareful
  generalize crowdDraft 66 = draft at hcan hcareful
  obtain ⟨_,_,hstore,hvisit⟩ := hcan.run
  have hvisited : w' ∈ (runRequest (.reserveBackup [id] draft) w).visits.map Prod.snd := by
    rw [runRequest, map_run]
    exact List.mem_map_of_mem hvisit
  have hfinal : (runRequest (.reserveBackup [id] draft) w).final.store =
      w'.store.afterReserve id draft := by
    rw [runRequest, map_run]
    exact hstore
  have hcrash := w'.disk.crash_written
  obtain ⟨_,_,_,hreconciled⟩ := recovering_settles (hcan.settled.live.crash hcrash)
    (rfl : attestation.vault = _) fun hpending => by rw [hcan.settled.idle] at hpending; cases hpending
  have hrecovered := hreconciled.eq_of_idle hcan.settled.idle
  refine ⟨held w,w.store,log,_,w',_,hrun,rfl,hcareful,hvisited,hcrash,fun hbefore => ?_,fun hafter => ?_⟩
  · -- The compaction has dropped the oldest of the tombstones.
    rw [hrecovered, hstate] at hbefore
    have hkept : (retainedReleaseTombstones w.store.state).size = 65 :=
      (congrArg (fun s : RecoveredState => s.released.size) hbefore).trans hsize
    have hmost : (retainedReleaseTombstones w.store.state).size ≤ 64 := size_retained_le
    omega
  · -- The reservation is not there yet.
    rw [hrecovered] at hafter
    change (runRequest (.reserveBackup [id] draft) w).final.store.state.agrees _ at hafter
    rw [hfinal] at hafter
    have hsame : w'.store.state.reservations = w'.store.state.reservations.insert id _ :=
      congrArg RecoveredState.reservations hafter
    have hfresh := hcan.absent.1
    rw [hsame, Std.ExtTreeMap.getElem?_insert_self] at hfresh
    cases hfresh

end KernAid.RepairStore
