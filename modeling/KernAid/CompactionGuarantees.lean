import KernAid.CompactionReplay
import KernAid.ReplayGuarantees

/-! What a compaction of the repair journal achieves, and the one kind of state that it cannot compact. -/

set_option autoImplicit false

namespace KernAid.RepairStore

open Encoding CrashLogic Protocol RecoveredState

section Guarantees

variable [Sha256Hasher]

/-- The fold of a stored journal, within the limits of its replay. -/
def openJournalGeneration (events : List RepairEvent) : Except RepairVaultStoreError RecoveredState := do
  require (events.length ≤ maxJournalEvents) .corruptJournal
  require ((events.map fun event => event.encode.length).sum ≤ maxJournalEvents * maxEventBytes)
    .corruptJournal
  let state ← asCorruptJournal (replay events)
  require (state.compactionReplay = none) .corruptJournal
  return state

/-- The staged generation: the snapshot's events as they are appended, folded and validated before
the files are exchanged. -/
def compactJournalUntil (state : RecoveredState) (previousAnchor : JournalAnchor) :
    Except RepairVaultStoreError (List RepairEvent × RecoveredState) := do
  require (state.pending = none ∧ state.compactionReplay = none) .reconciliationRequired
  let expectedReleases := retainedReleaseTombstones state
  let expectedGeneration := state.compactionGeneration + 1
  require (expectedGeneration < u64Bound) .corruptJournal
  let events ← compactionEvents state.reservations expectedReleases state.transactions
    state.logicalEventClock expectedGeneration previousAnchor
  require (events.length < journalCompactionTriggerEvents) .insufficientCapacity
  require (∀ event ∈ events, event.encode.length ≤ maxEventBytes) .corruptStore
  let stagedState ← openJournalGeneration events
  validateCompactedState stagedState state.reservations expectedReleases state.transactions
    state.unresolvedTransaction state.unresolvedRollback state.logicalEventClock expectedGeneration
    previousAnchor
  return (events,stagedState)

section Counters

variable {s s' : RecoveredState} {event : RepairEvent} {n : Nat}

structure CountersFit (s : RecoveredState) : Prop where
  clock : s.logicalEventClock < u64Bound
  generation : s.compactionGeneration < u64Bound
  replaying : ∀ replay ∈ s.compactionReplay, replay.generation < u64Bound

theorem dispatchRepairEvent_header (hcontrol : event.isControl = false)
    (h : dispatchRepairEvent s event n = .ok s') : s'.header = s.header := by
  cases event with
  | compactionBegin => cases hcontrol
  | compactionComplete => cases hcontrol
  | _ =>
    simp only [dispatchRepairEvent, applyReserveIntent, applyReserveComplete, applyReserveAbort,
      applyPersistIntent, applyPersistComplete, applyPersistAbort, applyTransactionResolveIntent,
      applyTransactionResolveComplete, applyTransactionWriteLeaseConsume, applyRollbackBegin,
      applyRollbackWriteLeaseConsume, applyRollbackResolveIntent, applyRollbackResolveComplete,
      applyCancelIntent, applyCancelComplete, applyRetireIntent, applyRetireComplete,
      require_bind_eq_ok, okOr_bind_eq_ok, asCorruptJournal_bind_eq_ok, pure_eq_ok_iff] at h
    casesm* _ ∧ _, ∃ _, _
    subst_vars
    rfl

theorem countersFit_of_accepted (hs : CountersFit s) (hn : event.isControl = true → n ≠ 1)
    (h : dispatchRepairEvent s event n = .ok s') : event.countersFit = true := by
  have hstamp : ∀ {stamp : Option Nat} {k : Nat}, releaseStamp s stamp = some k →
      stamp.all (fun stamp => stamp < u64Bound) = true := by
    intro stamp k hk
    cases stamp with
    | none => rfl
    | some stamp =>
      unfold releaseStamp at hk
      split at hk
      · simp_all
      · have hclock := hs.clock
        split_ifs at hk with hle
        simp_all
        omega
      · cases hk
  cases event with
  | compactionBegin =>
    simp only [dispatchRepairEvent, applyCompactionBegin, okOr_bind_eq_ok, require_bind_eq_ok] at h
    obtain ⟨_,_,⟨hone,_⟩,_⟩ := h
    exact absurd hone (hn rfl)
  | compactionComplete =>
    simp only [dispatchRepairEvent, applyCompactionComplete, okOr_bind_eq_ok, require_bind_eq_ok] at h
    obtain ⟨replay,hreplay,⟨rfl,_⟩,_⟩ := h
    simpa [RepairEvent.countersFit] using hs.replaying replay hreplay
  | cancelComplete =>
    simp only [dispatchRepairEvent, applyCancelComplete, okOr_bind_eq_ok] at h
    obtain ⟨_,hk,_⟩ := h
    exact hstamp hk
  | retireComplete =>
    simp only [dispatchRepairEvent, applyRetireComplete, okOr_bind_eq_ok] at h
    obtain ⟨_,hk,_⟩ := h
    exact hstamp hk
  | _ => rfl

omit [Sha256Hasher] in
theorem CountersFit.tick (hs : CountersFit s) (h : advanceClock s event = .ok s') : CountersFit s' := by
  unfold advanceClock at h
  split_ifs at h with hfixed hroom
  · exact Except.ok.inj h ▸ hs
  · obtain rfl := Except.ok.inj h
    exact ⟨hroom,hs.generation,hs.replaying⟩

theorem CountersFit.dispatch (hs : CountersFit s) (hfit : event.countersFit = true)
    (h : dispatchRepairEvent s event n = .ok s') : CountersFit s' := by
  cases hcontrol : event.isControl with
  | false =>
    have hheader := dispatchRepairEvent_header hcontrol h
    simp only [header, Prod.mk.injEq] at hheader
    obtain ⟨hclock,hgeneration,_,hreplay⟩ := hheader
    exact ⟨hclock ▸ hs.clock,hgeneration ▸ hs.generation,hreplay ▸ hs.replaying⟩
  | true =>
    cases event with
    | compactionBegin =>
      simp only [dispatchRepairEvent, applyCompactionBegin, okOr_bind_eq_ok, require_bind_eq_ok,
        pure_eq_ok_iff] at h
      obtain ⟨_,_,_,_,rfl⟩ := h
      simp only [RepairEvent.countersFit, Bool.and_eq_true, decide_eq_true_eq] at hfit
      exact ⟨hfit.2,hfit.1,by simpa using hfit.1⟩
    | compactionComplete =>
      simp only [dispatchRepairEvent, applyCompactionComplete, okOr_bind_eq_ok, require_bind_eq_ok,
        pure_eq_ok_iff] at h
      obtain ⟨_,_,_,_,_,rfl⟩ := h
      exact ⟨hs.clock,hs.generation,by simp⟩
    | _ => cases hcontrol

theorem CountersFit.apply (hs : CountersFit s) (hfit : event.countersFit = true)
    (h : applyRepairEvent s event n = .ok s') : CountersFit s' := by
  rw [applyRepairEvent, bind_ok_iff] at h
  obtain ⟨ticked,htick,hdispatch⟩ := h
  exact (hs.tick htick).dispatch hfit hdispatch

theorem encode_le_of_applied (hinv : Inv s) (hfit : event.countersFit = true)
    (h : applyRepairEvent s event n = .ok s') : event.encode.length ≤ maxEventBytes := by
  rw [applyRepairEvent, bind_ok_iff] at h
  obtain ⟨ticked,htick,hdispatch⟩ := h
  exact encode_le_of_accepted (advanceClock_inv hinv htick) hfit hdispatch

/-- After the first event of a journal the counters of every accepted event are bounded by those
of the state. -/
theorem replayFrom_fits {events : List RepairEvent} (hinv : Inv s) (hs : CountersFit s) (hn : 0 < n)
    (h : replayFrom s n events = .ok s') :
    CountersFit s' ∧ ∀ event ∈ events, event.encode.length ≤ maxEventBytes := by
  induction events generalizing s n with
  | nil =>
    obtain rfl := Except.ok.inj h
    exact ⟨hs,by simp⟩
  | cons event events ih =>
    rw [replayFrom, bind_ok_iff] at h
    obtain ⟨next,hnext,hrest⟩ := h
    have hfit : event.countersFit = true := by
      have happly := hnext
      rw [applyRepairEvent, bind_ok_iff] at happly
      obtain ⟨ticked,htick,hdispatch⟩ := happly
      exact countersFit_of_accepted (hs.tick htick) (fun _ => by omega) hdispatch
    obtain ⟨hfits,hsizes⟩ := ih (applyRepairEvent_inv hinv hnext) (hs.apply hfit hnext) (by omega) hrest
    exact ⟨hfits,List.forall_mem_cons.mpr ⟨encode_le_of_applied hinv hfit hnext,hsizes⟩⟩

omit [Sha256Hasher] in
theorem countersFit_default : CountersFit {} := ⟨by decide,by decide,by simp⟩

theorem replay_fits {events : List RepairEvent}
    (hfirst : ∀ event ∈ events.head?, event.countersFit = true) (h : replay events = .ok s') :
    CountersFit s' ∧ ∀ event ∈ events, event.encode.length ≤ maxEventBytes := by
  cases events with
  | nil =>
    obtain rfl := Except.ok.inj h
    exact ⟨countersFit_default,by simp⟩
  | cons event events =>
    rw [replay, replayFrom, bind_ok_iff] at h
    obtain ⟨next,hnext,hrest⟩ := h
    have hfit := hfirst event rfl
    obtain ⟨hfits,hsizes⟩ := replayFrom_fits (applyRepairEvent_inv inv_default hnext)
      (countersFit_default.apply hfit hnext) (by omega) hrest
    exact ⟨hfits,List.forall_mem_cons.mpr ⟨encode_le_of_applied inv_default hfit hnext,hsizes⟩⟩

end Counters

section Compaction

variable {s : RecoveredState} {anchor : JournalAnchor}

theorem Inv.compactable (hinv : Inv s) (hpending : s.pending = none) :
    Compactable s (retainedReleaseTombstones s) :=
  ⟨hinv,hpending,fun _ _ => retained_getElem?,size_retained_le⟩

theorem compactionEvents_head {reservations : IdMap ReservationRecord}
    {releases : IdMap ReleaseTombstone} {transactions : IdMap RepairTransactionRecord}
    {clock generation : Nat} {events : List RepairEvent}
    (h : compactionEvents reservations releases transactions clock generation anchor = .ok events) :
    events.head? = some (.compactionBegin generation clock reservations.size releases.size
      (encodeHex anchor.toBytes)) := by
  obtain ⟨settled,_,h⟩ := bind_ok_iff.mp h
  obtain ⟨released,_,h⟩ := bind_ok_iff.mp h
  obtain ⟨last,_,h⟩ := bind_ok_iff.mp h
  rw [pure_eq_ok_iff] at h
  rw [← h]
  rfl

/-- Every slot is taken by a settled reservation while a tombstone is retained: restoring the
tombstone would need one slot more. -/
def RecoveredState.blocksCompaction (s : RecoveredState) : Prop :=
  s.reservations.size = maxReservations ∧ s.isQuiescent = true ∧
    ∃ (id : ReservationId) (tombstone : ReleaseTombstone),
      s.released[id]? = some tombstone ∧ s.retains tombstone = true

omit [Sha256Hasher] in
theorem retained_ne_empty_iff : retainedReleaseTombstones s ≠ ∅ ↔
    ∃ (id : ReservationId) (tombstone : ReleaseTombstone),
      s.released[id]? = some tombstone ∧ s.retains tombstone = true := by
  constructor
  · intro hne
    have hlist : (retainedReleaseTombstones s).toList ≠ [] :=
      fun hnil => hne (Std.ExtTreeMap.toList_eq_nil_iff.mp hnil)
    obtain ⟨entry,hmem⟩ := List.exists_mem_of_ne_nil _ hlist
    exact ⟨entry.1,entry.2,retained_getElem? (Std.ExtTreeMap.mem_toList_iff_getElem?_eq_some.mp hmem)⟩
  · rintro ⟨id,tombstone,hreleased,hretains⟩ hempty
    -- The newest of the retained tombstones is never dropped.
    have hpos : 0 < (retainedEntries s).length := by
      have hmem : (id,tombstone) ∈ s.released.toList.filter fun entry => s.retains entry.2 :=
        List.mem_filter.mpr ⟨Std.ExtTreeMap.mem_toList_iff_getElem?_eq_some.mpr hreleased,hretains⟩
      have hlength := List.length_pos_of_mem hmem
      have hlimit : 0 < maxRetainedReleaseTombstones := by decide
      simp only [retainedEntries, List.length_drop, List.length_insertionSort]
      omega
    obtain ⟨entry,hmem⟩ := List.exists_mem_of_length_pos hpos
    have hfound : (retainedReleaseTombstones s)[entry.1]? = some entry.2 :=
      (getElem?_ofList_iff nodup_retainedEntries).mpr hmem
    rw [hempty] at hfound
    simp at hfound

def RecoveredState.afterCompaction (s : RecoveredState) (anchor : JournalAnchor) : RecoveredState :=
  s.compacted (retainedReleaseTombstones s) (s.compactionGeneration + 1) anchor

theorem compactJournalUntil_eq_ok {events : List RepairEvent} {s' : RecoveredState}
    (h : compactJournalUntil s anchor = .ok (events,s')) :
    s.pending = none ∧ s.compactionGeneration + 1 < u64Bound ∧
      compactionEvents s.reservations (retainedReleaseTombstones s) s.transactions
        s.logicalEventClock (s.compactionGeneration + 1) anchor = .ok events ∧
      events.length < journalCompactionTriggerEvents ∧
      (∀ event ∈ events, event.encode.length ≤ maxEventBytes) ∧ replay events = .ok s' ∧
      s' = s.afterCompaction anchor := by
  simp only [compactJournalUntil, require_bind_eq_ok] at h
  obtain ⟨⟨hpending,_⟩,hgeneration,h⟩ := h
  obtain ⟨staged,hevents,h⟩ := bind_ok_iff.mp h
  simp only [require_bind_eq_ok] at h
  obtain ⟨hlength,hsizes,h⟩ := h
  obtain ⟨state,hopen,h⟩ := bind_ok_iff.mp h
  simp only [openJournalGeneration, require_bind_eq_ok, asCorruptJournal_bind_eq_ok,
    pure_eq_ok_iff] at hopen
  obtain ⟨_,_,folded,hreplayed,_,rfl⟩ := hopen
  simp only [validateCompactedState, require_bind_eq_ok, pure_eq_ok_iff, Prod.mk.injEq] at h
  obtain ⟨⟨h1,h2,h3,h4,h5,h6,h7,h8,h9,h10,h11⟩,rfl,rfl⟩ := h
  refine ⟨hpending,hgeneration,hevents,hlength,hsizes,hreplayed,?_⟩
  obtain ⟨⟩ := folded
  simp only at h1 h2 h3 h4 h5 h6 h7 h8 h9 h10 h11
  simp only [afterCompaction, compacted, h1, h2, h3, h4, h5, h6, h7, h8,
    h9, h10, h11, hpending]

theorem replay_compactionEvents_of_room (hinv : Inv s) (hpending : s.pending = none)
    (hroom : ¬ s.blocksCompaction) :
    ∃ events, compactionEvents s.reservations (retainedReleaseTombstones s) s.transactions
        s.logicalEventClock (s.compactionGeneration + 1) anchor = .ok events ∧
      events.length ≤ 11 * s.reservations.size + 13 * (retainedReleaseTombstones s).size + 2 ∧
      replay events = .ok (s.afterCompaction anchor) := by
  refine replay_compactionEvents (hinv.compactable hpending) (by omega) ?_
  by_contra hnone
  rw [not_or, not_or, not_lt, Bool.not_eq_false] at hnone
  exact hroom ⟨Nat.le_antisymm hinv.size hnone.2.1,hnone.2.2,retained_ne_empty_iff.mp hnone.1⟩

theorem compactionEvents_length (hinv : Inv s) (hpending : s.pending = none) :
    ∃ events, compactionEvents s.reservations (retainedReleaseTombstones s) s.transactions
        s.logicalEventClock (s.compactionGeneration + 1) anchor = .ok events ∧
      events.length ≤ 1538 := by
  have hactive : s.reservations.size ≤ 64 := hinv.size
  have hretained : (retainedReleaseTombstones s).size ≤ 64 := size_retained_le
  by_cases hfull : s.blocksCompaction
  · obtain ⟨events,hevents,hlength,_⟩ := @replay_compactionEvents_full _ s _ _ anchor
      (hinv.compactable hpending) (Nat.succ_ne_zero s.compactionGeneration) hfull.1 hfull.2.1
      (retained_ne_empty_iff.mpr hfull.2.2)
    exact ⟨events,hevents,by omega⟩
  · obtain ⟨events,hevents,hlength,_⟩ := replay_compactionEvents_of_room hinv hpending hfull
    exact ⟨events,hevents,by omega⟩

theorem compactJournalUntil_of_room (hinv : Inv s) (hfits : CountersFit s) (hpending : s.pending = none)
    (hreplay : s.compactionReplay = none) (hgeneration : s.compactionGeneration + 1 < u64Bound)
    (hroom : ¬ s.blocksCompaction) :
    ∃ events, compactJournalUntil s anchor = .ok (events,s.afterCompaction anchor) ∧
      events.length ≤ 1538 := by
  obtain ⟨events,hevents,hlength,hreplayed⟩ :=
    @replay_compactionEvents_of_room _ s anchor hinv hpending hroom
  have hcount : events.length ≤ 1538 := by
    have hactive : s.reservations.size ≤ 64 := hinv.size
    have hretained : (retainedReleaseTombstones s).size ≤ 64 := size_retained_le
    omega
  have hsizes : ∀ event ∈ events, event.encode.length ≤ maxEventBytes := by
    refine (replay_fits ?_ hreplayed).2
    rw [compactionEvents_head hevents]
    simp [RepairEvent.countersFit, hgeneration, hfits.clock]
  have hopen : openJournalGeneration events = .ok (s.afterCompaction anchor) := by
    have hsum := List.sum_le_card_nsmul (events.map fun event => event.encode.length) maxEventBytes
      (by simpa using hsizes)
    simp only [openJournalGeneration, require_bind_eq_ok, asCorruptJournal_bind_eq_ok, pure_eq_ok_iff]
    refine ⟨hcount.trans (by decide),?_,_,hreplayed,rfl,rfl⟩
    rw [List.length_map, smul_eq_mul] at hsum
    exact hsum.trans (Nat.mul_le_mul_right _ (hcount.trans (by decide)))
  refine ⟨events,?_,hcount⟩
  simp only [compactJournalUntil, require_bind_eq_ok]
  refine ⟨⟨hpending,hreplay⟩,hgeneration,?_⟩
  rw [hevents, ok_bind]
  simp only [require_bind_eq_ok]
  refine ⟨Nat.lt_of_le_of_lt hcount (by decide),hsizes,?_⟩
  rw [hopen, ok_bind]
  simp only [validateCompactedState, require_bind_eq_ok, pure_eq_ok_iff]
  exact ⟨⟨rfl,rfl,rfl,rfl,rfl,rfl,hpending,rfl,rfl,rfl,rfl⟩,trivial⟩

theorem compactJournalUntil_of_full (hinv : Inv s) (hpending : s.pending = none)
    (hfull : s.blocksCompaction) :
    ∀ result, compactJournalUntil s anchor ≠ .ok result := by
  obtain ⟨events,hevents,_,hreplayed⟩ := @replay_compactionEvents_full _ s
    (retainedReleaseTombstones s) (s.compactionGeneration + 1) anchor (hinv.compactable hpending)
    (by omega) hfull.1 hfull.2.1 (retained_ne_empty_iff.mpr hfull.2.2)
  intro result h
  simp only [compactJournalUntil, require_bind_eq_ok, hevents, ok_bind] at h
  obtain ⟨_,_,_,_,h⟩ := h
  obtain ⟨staged,hopen,_⟩ := bind_ok_iff.mp h
  simp only [openJournalGeneration, require_bind_eq_ok, asCorruptJournal_bind_eq_ok, hreplayed] at hopen
  obtain ⟨_,_,_,hcontra,_⟩ := hopen
  cases hcontra

theorem compactJournalUntil_error {e : RepairVaultStoreError} (hinv : Inv s) (hpending : s.pending = none)
    (h : compactJournalUntil s anchor = .error e) : e ≠ .insufficientCapacity := by
  obtain ⟨events,hevents,hlength⟩ := @compactionEvents_length _ s anchor hinv hpending
  have hshort : events.length < journalCompactionTriggerEvents := Nat.lt_of_le_of_lt hlength (by decide)
  rintro rfl
  simp [compactJournalUntil, hevents, openJournalGeneration, validateCompactedState, asCorruptJournal,
    bind_eq_error, require_eq_error, okOr_eq_error, hshort, pure, Except.pure] at h

/-- A state without pending work compacts to itself, up to the tombstones outside the retention
window, except when a settled reservation fills every slot while a tombstone is retained. -/
theorem compaction_restores_state_iff {journal : List RepairEvent}
    (hcounters : ∀ event ∈ journal, event.countersFit = true) (h : replay journal = .ok s)
    (hpending : s.pending = none) (hreplay : s.compactionReplay = none) (anchor : JournalAnchor) :
    (∃ events s', compactionEvents s.reservations (retainedReleaseTombstones s) s.transactions
          s.logicalEventClock (s.compactionGeneration + 1) anchor = .ok events ∧
        replay events = .ok s' ∧
        s'.reservations = s.reservations ∧ s'.transactions = s.transactions ∧
        s'.unresolvedTransaction = s.unresolvedTransaction ∧
        s'.unresolvedRollback = s.unresolvedRollback ∧
        s'.logicalEventClock = s.logicalEventClock ∧
        s'.released = retainedReleaseTombstones s ∧
        (∀ (id : ReservationId) tombstone, s'.released[id]? = some tombstone →
          s.released[id]? = some tombstone) ∧
        s'.compactionGeneration = s.compactionGeneration + 1 ∧
        s'.pending = none ∧ s'.compactionReplay = none ∧
        compactJournalUntil s anchor = .ok (events,s')) ↔
      s.compactionGeneration + 1 < u64Bound ∧ ¬ s.blocksCompaction := by
  have hinv := replay_inv h
  have hfits : CountersFit s :=
    (replay_fits (fun event hhead => hcounters event (List.mem_of_head? hhead)) h).1
  constructor
  · rintro ⟨events,s',_,_,_,_,_,_,_,_,_,_,_,_,hcompact⟩
    exact ⟨(compactJournalUntil_eq_ok hcompact).2.1,
      fun hfull => compactJournalUntil_of_full hinv hpending hfull _ hcompact⟩
  · rintro ⟨hgeneration,hroom⟩
    obtain ⟨events,hcompact,_⟩ :=
      @compactJournalUntil_of_room _ s anchor hinv hfits hpending hreplay hgeneration hroom
    obtain ⟨_,_,hevents,_,_,hreplayed,_⟩ := compactJournalUntil_eq_ok hcompact
    exact ⟨events,s.afterCompaction anchor,hevents,hreplayed,rfl,rfl,rfl,rfl,rfl,rfl,
      fun id tombstone hfound => (retained_getElem? hfound).1,rfl,hpending,rfl,hcompact⟩

end Compaction

section Live

variable {s s1 s2 : RecoveredState} {id : ReservationId} {record : ReservationRecord} {n : Nat}

theorem replayFrom_live_pair {a b : RepairEvent} (hlive : s.compactionReplay = none)
    (hclock : s.logicalEventClock + 2 < u64Bound)
    (ha : a.isControl = false) (hb : b.isControl = false)
    (h1 : dispatchRepairEvent s.tick a (n + 1) = .ok s1)
    (h2 : dispatchRepairEvent s1.tick b (n + 1 + 1) = .ok s2) : replayFrom s n [a,b] = .ok s2 := by
  have hheader := dispatchRepairEvent_header ha h1
  simp only [header, Prod.mk.injEq] at hheader
  obtain ⟨hclock1,_,_,hlive1⟩ := hheader
  have hroom : s1.logicalEventClock + 1 < u64Bound := by
    rw [hclock1]
    exact hclock
  rw [replayFrom, applyRepairEvent_live hlive (by omega) ha, h1, ok_bind, replayFrom,
    applyRepairEvent_live (hlive1.trans hlive) hroom hb, h2]
  rfl

theorem replay_reserve_live (hlive : s.compactionReplay = none)
    (hclock : s.logicalEventClock + 2 < u64Bound) (hquiet : s.isQuiescent = true)
    (hinv : Inv s) (hrecord : RecordOk record) (hsize : s.reservations.size < maxReservations)
    (hseen : id ∉ s.seenReservationIds) :
    replayFrom s n (appendReserveSnapshot id record) = .ok
      { s.withReservation id { record with phase := .reserved } with
        logicalEventClock := s.logicalEventClock + 2 } := by
  obtain ⟨hp,_,_⟩ := isQuiescent_iff.mp hquiet
  obtain ⟨hactive,_,hreleased⟩ := hinv.fresh hseen
  have hactive : id ∉ s.reservations := by simp [Std.ExtTreeMap.mem_iff_isSome_getElem?, hactive]
  have hreleased : id ∉ s.released := by simp [Std.ExtTreeMap.mem_iff_isSome_getElem?, hreleased]
  refine replayFrom_live_pair hlive hclock rfl rfl
    (@applyReserveIntent_accepts s.tick id record _ hrecord hquiet hsize hactive hreleased hseen) ?_
  rw [dispatchRepairEvent, applyReserveComplete_accepts rfl Std.ExtTreeMap.getElem?_insert_self rfl]
  simp [setPhase, withReservation, tick, hp]

omit [Sha256Hasher] in
theorem releaseStamp_live (hlive : s.compactionReplay = none) :
    releaseStamp s none = some s.logicalEventClock := by
  simp [releaseStamp, hlive]

theorem replay_cancel_live (hlive : s.compactionReplay = none)
    (hclock : s.logicalEventClock + 2 < u64Bound) (hpending : s.pending = none)
    (hrecord : s.reservations[id]? = some record) (hphase : record.phase = .reserved)
    (hfew : s.released.size < maxReleaseTombstones) (hreleased : id ∉ s.released) :
    replayFrom s n [.cancelIntent id,.cancelComplete id none] = .ok { s with
      reservations := s.reservations.erase id
      released := s.released.insert id
        ⟨.cancel,{ record with phase := .cancelPending },s.logicalEventClock + 2⟩
      logicalEventClock := s.logicalEventClock + 2 } := by
  let waiting : RecoveredState := { s.tick.setPhase id record .cancelPending with pending := some id }
  have hcomplete := @applyCancelComplete_accepts waiting.tick id { record with phase := .cancelPending }
    none _ (releaseStamp_live hlive) rfl hfew hreleased Std.ExtTreeMap.getElem?_insert_self rfl
  refine replayFrom_live_pair hlive hclock rfl rfl
    (@applyCancelIntent_accepts s.tick id record hpending hrecord hphase) (hcomplete.trans ?_)
  simp [waiting, setPhase, tick, hpending]

end Live

end Guarantees

/-! A cancelled reservation, then as many reservations as the store holds. -/

namespace Sample

theorem valid_crowdId (n : Nat) : validReservationId ("B-" ++ encodeHex (toBeBytes 16 n)) = true := by
  have hstrip : stripPrefix "B-" ("B-" ++ encodeHex (toBeBytes 16 n)) =
      some (asBytes (encodeHex (toBeBytes 16 n))) :=
    stripPrefix_eq_some.mpr (asBytes_append _ _)
  have hlength : (asBytes "B-").length = 2 := by decide
  rw [validReservationId, validHex34, hstrip, byteLength, asBytes_append, asBytes_encodeHex]
  rw [List.length_append, length_flatMap_hexPair, length_toBeBytes, hlength, Option.any_some,
    flatMap_hexPair_lowerHex]
  rfl

def crowdId (n : Nat) : ReservationId := ⟨"B-" ++ encodeHex (toBeBytes 16 n),valid_crowdId n⟩

theorem crowdId_injective {m n : Nat} (hm : m < 256 ^ 16) (hn : n < 256 ^ 16)
    (h : crowdId m = crowdId n) : m = n := by
  have htext := congrArg (fun id => asBytes id.asStr) h
  simp only [crowdId, asBytes_append, List.append_cancel_left_eq] at htext
  have hbytes := encodeHex_injective (asBytes_injective htext)
  have hvalue := congrArg fromBeBytes hbytes
  rwa [fromBeBytes_toBeBytes, fromBeBytes_toBeBytes, Nat.mod_eq_of_lt hm, Nat.mod_eq_of_lt hn] at hvalue

def crowdDraft (n : Nat) : RepairBackupDraft :=
  { toStoreDraft (draft 0o644) with requiredCapacityBytes := 8 + n }

def crowdRecord (n : Nat) : ReservationRecord :=
  ⟨crowdDraft n,reservationBinding (crowdDraft n),8 + n,vaultId,(sha 0x88).asStr,(sha 0x99).asStr,
    .reserved⟩

theorem recordOk_crowdRecord {n : Nat} (hn : n ≤ 100) : RecordOk (crowdRecord n) := by
  have h := recordOk_file
  have hdraft := h.draft
  have hlimit : 8 + n ≤ maxBackupBytes := Nat.le_trans (by omega : 8 + n ≤ 108) (by decide)
  refine ⟨?_,rfl,rfl,h.vault,h.identity,h.parent⟩
  simp only [RepairBackupDraft.validate, Bool.and_eq_true, decide_eq_true_eq] at hdraft ⊢
  obtain ⟨⟨hhead,hsize⟩,_⟩ := hdraft
  refine ⟨⟨hhead,?_⟩,hlimit⟩
  change 6 ≤ 8 + n
  omega

def crowdJournal (k : Nat) : List RepairEvent :=
  appendReserveSnapshot (crowdId 0) (crowdRecord 0) ++
    [.cancelIntent (crowdId 0),.cancelComplete (crowdId 0) none] ++
    (List.range k).flatMap fun i => appendReserveSnapshot (crowdId (i + 1)) (crowdRecord (i + 1))

structure Crowded (k : Nat) (s : RecoveredState) : Prop where
  inv : Inv s
  live : s.compactionReplay = none
  quiet : s.isQuiescent = true
  clock : s.logicalEventClock = 2 * k + 4
  size : s.reservations.size = k
  seen : ∀ id ∈ s.seenReservationIds, ∃ i ≤ k, id = crowdId i
  released : ∃ tombstone, s.released[crowdId 0]? = some tombstone ∧ tombstone.releasedAtEvent = 4

theorem Crowded.next {k : Nat} {s : RecoveredState} (h : Crowded k s) (hk : k < 64) :
    ∃ s', (∀ n, replayFrom s n (appendReserveSnapshot (crowdId (k + 1)) (crowdRecord (k + 1))) =
      .ok s') ∧ Crowded (k + 1) s' := by
  have hsmall : ∀ i ≤ 64, i < 256 ^ 16 := fun i hi => Nat.lt_of_le_of_lt hi (by decide)
  have hseen : crowdId (k + 1) ∉ s.seenReservationIds := by
    intro hmem
    obtain ⟨i,hi,heq⟩ := h.seen _ hmem
    have hsame := crowdId_injective (hsmall _ (by omega)) (hsmall _ (by omega)) heq
    omega
  obtain ⟨hactive,_,_⟩ := h.inv.fresh hseen
  have hactive : crowdId (k + 1) ∉ s.reservations := by
    simp [Std.ExtTreeMap.mem_iff_isSome_getElem?, hactive]
  have hclock : s.logicalEventClock + 2 < u64Bound := by
    rw [h.clock]
    exact Nat.lt_of_le_of_lt (by omega : 2 * k + 4 + 2 ≤ 200) (by decide)
  have hsize : s.reservations.size < maxReservations := by
    rw [h.size]
    exact hk
  have hstep := fun n => @replay_reserve_live _ s (crowdId (k + 1)) (crowdRecord (k + 1)) n h.live
    hclock h.quiet h.inv (recordOk_crowdRecord (by omega)) hsize hseen
  refine ⟨_,hstep,replayFrom_inv h.inv (hstep 0),h.live,h.quiet,?_,?_,?_,h.released⟩
  · change s.logicalEventClock + 2 = _
    rw [h.clock]
    omega
  · simp [withReservation, Std.ExtTreeMap.size_insert, hactive, h.size]
  · intro id hid
    rcases Std.ExtTreeSet.mem_insert.mp hid with heq | hid
    · exact ⟨k + 1,Nat.le_refl _,(Std.LawfulEqCmp.eq_of_compare heq).symm⟩
    · obtain ⟨i,hi,rfl⟩ := h.seen id hid
      exact ⟨i,by omega,rfl⟩

theorem replay_cancelled : ∃ s, replay (crowdJournal 0) = .ok s ∧ Crowded 0 s := by
  have hreserve := @replay_reserve_live _ {} (crowdId 0) (crowdRecord 0) 0 rfl (by decide) rfl inv_default
    (recordOk_crowdRecord (by omega)) (by simp [maxReservations]) (by simp)
  have hcancel := replayFrom_append_ok hreserve (replay_cancel_live rfl (by decide) rfl
    Std.ExtTreeMap.getElem?_insert_self rfl (Nat.zero_lt_of_lt (by decide : 1 < maxReleaseTombstones))
    (by simp [withReservation]))
  have hjournal : crowdJournal 0 = appendReserveSnapshot (crowdId 0) (crowdRecord 0) ++
      [.cancelIntent (crowdId 0),.cancelComplete (crowdId 0) none] := by simp [crowdJournal]
  rw [hjournal]
  refine ⟨_,hcancel,replayFrom_inv inv_default hcancel,rfl,rfl,rfl,?_,?_,?_⟩
  · simp [withReservation]
  · intro id hid
    rcases Std.ExtTreeSet.mem_insert.mp hid with heq | hid
    · exact ⟨0,Nat.le_refl _,(Std.LawfulEqCmp.eq_of_compare heq).symm⟩
    · simp at hid
  · exact ⟨_,Std.ExtTreeMap.getElem?_insert_self,rfl⟩

theorem replay_crowdJournal {k : Nat} (hk : k ≤ 64) :
    ∃ s, replay (crowdJournal k) = .ok s ∧ Crowded k s := by
  induction k with
  | zero => exact replay_cancelled
  | succ k ih =>
    obtain ⟨s,hs,h⟩ := ih (by omega)
    obtain ⟨s',hstep,h'⟩ := h.next hk
    refine ⟨s',?_,h'⟩
    have hsplit : crowdJournal (k + 1) = crowdJournal k ++
        appendReserveSnapshot (crowdId (k + 1)) (crowdRecord (k + 1)) := by
      simp [crowdJournal, List.range_succ]
    rw [hsplit]
    exact replayFrom_append_ok hs (hstep _)

end Sample

open Sample in
/-- A store that is full of settled reservations and still keeps a tombstone cannot be compacted:
replay rejects the reservation with which the tombstone's events begin. -/
theorem crowded_store_defeats_compaction :
    ∃ s, replay (crowdJournal 64) = .ok s ∧ s.pending = none ∧ s.compactionReplay = none ∧
      s.reservations.size = 64 ∧ ∀ anchor,
        (∃ events, compactionEvents s.reservations (retainedReleaseTombstones s) s.transactions
            s.logicalEventClock (s.compactionGeneration + 1) anchor = .ok events ∧
          replay events = .error .corruptJournal) ∧
        ∀ result, compactJournalUntil s anchor ≠ .ok result := by
  obtain ⟨s,hs,h⟩ := replay_crowdJournal (k := 64) (Nat.le_refl _)
  obtain ⟨hpending,_,_⟩ := isQuiescent_iff.mp h.quiet
  obtain ⟨tombstone,hreleased,hstamp⟩ := h.released
  have hfull : s.blocksCompaction := by
    refine ⟨h.size,h.quiet,crowdId 0,tombstone,hreleased,?_⟩
    simp [retains, h.clock, hstamp, releaseTombstoneEventTtl]
  refine ⟨s,hs,hpending,h.live,h.size,fun anchor => ⟨?_,compactJournalUntil_of_full h.inv hpending hfull⟩⟩
  obtain ⟨events,hevents,_,hreplayed⟩ := @replay_compactionEvents_full _ s _ _ anchor
    (h.inv.compactable hpending) (Nat.succ_ne_zero s.compactionGeneration) hfull.1 hfull.2.1
    (retained_ne_empty_iff.mpr hfull.2.2)
  exact ⟨events,hevents,hreplayed⟩

open Sample in
theorem compaction_restores_state_fstab :
    ∃ s, replay Sample.journal = .ok s ∧ s.reservations.size = 1 ∧ ∀ anchor, ∃ events s',
      compactJournalUntil s anchor = .ok (events,s') ∧ replay events = .ok s' ∧
        s'.reservations = s.reservations ∧ s'.compactionGeneration = 1 := by
  obtain ⟨s,hs,hpending,hreplay,hgeneration,hsize⟩ := Sample.replay_journal
  refine ⟨s,hs,hsize,fun anchor => ?_⟩
  have hroom : ¬ s.blocksCompaction := by
    rintro ⟨hfull,_⟩
    rw [hsize] at hfull
    cases hfull
  obtain ⟨events,s',_,hreplayed,hsame,_,_,_,_,_,_,hnext,_,_,hcompact⟩ :=
    (compaction_restores_state_iff (by decide) hs hpending hreplay anchor).mpr
      ⟨by rw [hgeneration]; decide,hroom⟩
  exact ⟨events,s',hcompact,hreplayed,hsame,by rw [hnext, hgeneration]⟩

end KernAid.RepairStore
