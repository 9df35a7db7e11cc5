import KernAid.Compaction
import KernAid.EventEncoding

/-! Replaying a whole compaction snapshot: the invariant says which identifiers have been restored, and
grows by one with each group of events. -/

set_option autoImplicit false

namespace KernAid.RepairStore

open Encoding CrashLogic Protocol RecoveredState

section Retained

theorem keys_pairwise {β : Type} {l : List (ReservationId × β)} (h : (l.map Prod.fst).Nodup) :
    l.Pairwise fun a b => ¬ compare a.1 b.1 = .eq := by
  rw [List.Nodup, List.pairwise_map] at h
  exact h.imp fun hne heq => hne (Std.LawfulEqCmp.eq_of_compare heq)

theorem getElem?_ofList_iff {β : Type} {l : List (ReservationId × β)} (h : (l.map Prod.fst).Nodup)
    {id : ReservationId} {v : β} :
    (Std.ExtTreeMap.ofList l : IdMap β)[id]? = some v ↔ (id,v) ∈ l := by
  constructor
  · intro hv
    by_cases hmem : id ∈ l.map Prod.fst
    · obtain ⟨⟨id',w⟩,hw,rfl⟩ := List.mem_map.mp hmem
      have hw' : (Std.ExtTreeMap.ofList l : IdMap β)[id']? = some w :=
        Std.ExtTreeMap.getElem?_ofList_of_mem Std.ReflCmp.compare_self (keys_pairwise h) hw
      rw [hw'] at hv
      exact Option.some.inj hv ▸ hw
    · have hnone : (Std.ExtTreeMap.ofList l : IdMap β)[id]? = none :=
        Std.ExtTreeMap.getElem?_ofList_of_contains_eq_false (by simpa using hmem)
      rw [hnone] at hv
      cases hv
  · intro hmem
    exact Std.ExtTreeMap.getElem?_ofList_of_mem Std.ReflCmp.compare_self (keys_pairwise h) hmem

variable {s : RecoveredState}

theorem retainedEntries_sublist : (retainedEntries s).Sublist
    ((s.released.toList.filter fun entry => s.retains entry.2).insertionSort releaseOrder) :=
  List.drop_sublist _ _

theorem nodup_retainedEntries : ((retainedEntries s).map Prod.fst).Nodup := by
  refine (retainedEntries_sublist.map _).nodup ?_
  rw [((List.perm_insertionSort releaseOrder _).map _).nodup_iff]
  exact (List.filter_sublist.map _).nodup (nodup_ids s.released)

theorem mem_retainedEntries {entry : ReservationId × ReleaseTombstone}
    (h : entry ∈ retainedEntries s) :
    s.released[entry.1]? = some entry.2 ∧ s.retains entry.2 = true := by
  have hmem := retainedEntries_sublist.subset h
  rw [(List.perm_insertionSort releaseOrder _).mem_iff, List.mem_filter] at hmem
  exact ⟨Std.ExtTreeMap.mem_toList_iff_getElem?_eq_some.mp hmem.1,hmem.2⟩

theorem retained_getElem? {id : ReservationId} {tombstone : ReleaseTombstone}
    (h : (retainedReleaseTombstones s)[id]? = some tombstone) :
    s.released[id]? = some tombstone ∧ s.retains tombstone = true :=
  mem_retainedEntries ((getElem?_ofList_iff nodup_retainedEntries).mp h)

theorem size_retained_le : (retainedReleaseTombstones s).size ≤ maxRetainedReleaseTombstones := by
  refine Std.ExtTreeMap.size_ofList_le.trans ?_
  rw [retainedEntries]
  simp only [List.length_drop]
  omega

end Retained

section Anchor

theorem length_toBeBytes (width n : Nat) : (toBeBytes width n).length = width := by
  simp [toBeBytes]

theorem fromBeBytes_toBeBytes (width n : Nat) : fromBeBytes (toBeBytes width n) = n % 256 ^ width := by
  induction width with
  | zero => simp [fromBeBytes, toBeBytes, Nat.mod_one]
  | succ width ih =>
    have hsplit : toBeBytes (width + 1) n = UInt8.ofNat (n / 256 ^ width) :: toBeBytes width n := by
      simp [toBeBytes, List.range_succ]
    have hfold : ∀ (bytes : List UInt8) (k : Nat),
        bytes.foldl (fun n b => 256 * n + b.toNat) k = k * 256 ^ bytes.length + fromBeBytes bytes := by
      intro bytes
      induction bytes with
      | nil => simp [fromBeBytes]
      | cons b bytes ihb =>
        intro k
        rw [fromBeBytes, List.foldl_cons, List.foldl_cons, ihb, ihb, List.length_cons, pow_succ]
        ring
    rw [hsplit, fromBeBytes, List.foldl_cons, hfold, length_toBeBytes, ih]
    have hbyte : (UInt8.ofNat (n / 256 ^ width)).toNat = n / 256 ^ width % 256 := by simp
    rw [hbyte, Nat.mul_zero, Nat.zero_add, pow_succ, Nat.mod_mul]
    ring

theorem fromBytes_toBytes (a : JournalAnchor) : JournalAnchor.fromBytes a.toBytes = some a := by
  obtain ⟨journalId,sequence,entryHash⟩ := a
  have hmagic : JournalAnchor.anchorMagic.length = 8 := by decide
  have hbytes : JournalAnchor.toBytes ⟨journalId,sequence,entryHash⟩ = JournalAnchor.anchorMagic ++
      (journalId.toList ++ (toBeBytes 8 sequence.toNat ++ entryHash.toList)) := by
    simp [JournalAnchor.toBytes]
  have hlength : (JournalAnchor.toBytes ⟨journalId,sequence,entryHash⟩).length = 64 := by
    simp [hbytes, hmagic, length_toBeBytes]
  have hdrop : (JournalAnchor.toBytes ⟨journalId,sequence,entryHash⟩).drop 8 =
      journalId.toList ++ (toBeBytes 8 sequence.toNat ++ entryHash.toList) := by
    rw [hbytes, List.drop_left' hmagic]
  have hdrop24 : (JournalAnchor.toBytes ⟨journalId,sequence,entryHash⟩).drop 24 =
      toBeBytes 8 sequence.toNat ++ entryHash.toList := by
    rw [show 24 = 8 + 16 by rfl, ← List.drop_drop, hdrop, List.drop_left' (by simp)]
  have hdrop32 : (JournalAnchor.toBytes ⟨journalId,sequence,entryHash⟩).drop 32 = entryHash.toList := by
    have h := congrArg (List.drop 8) hdrop24
    rwa [List.drop_drop, List.drop_left' (length_toBeBytes 8 _)] at h
  have hsequence : fromBeBytes (toBeBytes 8 sequence.toNat) = sequence.toNat := by
    rw [fromBeBytes_toBeBytes, Nat.mod_eq_of_lt]
    exact sequence.toNat_lt
  rw [JournalAnchor.fromBytes, dif_pos hlength,
    if_neg (by rw [hbytes, List.take_left' hmagic]; simp)]
  simp only [hdrop, hdrop24, hdrop32, Option.some.injEq, JournalAnchor.mk.injEq]
  refine ⟨?_,?_,?_⟩
  · apply Vector.toList_inj.mp
    simp [Vector.toList]
  · rw [List.take_left' (length_toBeBytes 8 _), hsequence]
    simp
  · apply Vector.toList_inj.mp
    simp [Vector.toList]

theorem decodeCompactionAnchor_encodeHex (a : JournalAnchor) :
    decodeCompactionAnchor (encodeHex a.toBytes) = some a := by
  have hvalid := validLowerHex_encodeHex a.toBytes
  have hlength : a.toBytes.length = 64 := by
    have hmagic : JournalAnchor.anchorMagic.length = 8 := by decide
    simp [JournalAnchor.toBytes, hmagic, length_toBeBytes]
  rw [hlength] at hvalid
  rw [decodeCompactionAnchor, if_pos hvalid, asBytes_encodeHex, decodeHex_flatMap_hexPair,
    fromBytes_toBytes]

end Anchor

def RecoveredState.header (s : RecoveredState) :
    Nat × Nat × Option JournalAnchor × Option CompactionReplay :=
  (s.logicalEventClock,s.compactionGeneration,s.previousCompactionAnchor,s.compactionReplay)

variable [Sha256Hasher]

/-- A state that may be compacted, with the tombstones to keep. -/
structure Compactable (s : RecoveredState) (releases : IdMap ReleaseTombstone) : Prop where
  inv : Inv s
  pending : s.pending = none
  retained : ∀ (id : ReservationId) tombstone, releases[id]? = some tombstone →
    s.released[id]? = some tombstone ∧ s.retains tombstone = true
  few : releases.size ≤ maxRetainedReleaseTombstones

/-- The identifiers `done` of the state `s` have been restored in `r`, and no others. -/
structure Restored (s : RecoveredState) (releases : IdMap ReleaseTombstone) (begun : RecoveredState)
    (done : Finset ReservationId) (r : RecoveredState) : Prop where
  inv : Inv r
  reservations : ∀ j, r.reservations[j]? = if j ∈ done then s.reservations[j]? else none
  transactions : ∀ j, r.transactions[j]? = if j ∈ done then s.transactions[j]? else none
  released : ∀ j, r.released[j]? = if j ∈ done then releases[j]? else none
  seen : ∀ j, j ∈ r.seenReservationIds ↔ j ∈ done
  sizes : r.seenReservationIds.size = r.reservations.size + r.released.size
  pending : r.pending = none
  header : r.header = begun.header

section Steps

variable {s begun r : RecoveredState} {releases : IdMap ReleaseTombstone} {done : Finset ReservationId}
  {id : ReservationId} {record : ReservationRecord}

variable {tombstone : ReleaseTombstone} {β : Type} {m : IdMap β}

theorem Compactable.entryOk (h : Compactable s releases) (hrecord : s.reservations[id]? = some record) :
    EntryOk id record s.transactions[id]? ∧ releases[id]? = none := by
  have hcell := h.inv.cells id
  have hreleased : s.released[id]? = none := by
    generalize hc : s.cell id = c at hcell
    cases hcell <;> simp_all [cell]
  have hnone : releases[id]? = none := by
    by_contra hne
    obtain ⟨tombstone,htombstone⟩ := Option.ne_none_iff_exists'.mp hne
    have hfound := (h.retained id tombstone htombstone).1
    rw [hreleased] at hfound
    cases hfound
  refine ⟨?_,hnone⟩
  have hp := h.pending
  generalize hc : s.cell id = c at hcell
  cases hcell with
  | reserved hok hphase =>
    simp only [cell, Cell.mk.injEq, hrecord, Option.some.injEq] at hc
    obtain ⟨rfl,ht,_⟩ := hc
    rw [ht]
    exact .reserved hphase hok
  | @durable _ b t hok hphase hb ht =>
    simp only [cell, Cell.mk.injEq, hrecord, Option.some.injEq, hp] at hc
    obtain ⟨rfl,htransaction,_,_,hpend,_⟩ := hc
    rw [htransaction]
    exact .durable hphase hok hb ht hpend.symm
  | _ => simp_all [cell]

theorem Compactable.slots (h : Compactable s releases) (id : ReservationId) :
    s.transactions[id]?.any RepairTransactionRecord.isUnresolved = (s.unresolvedTransaction == some id) ∧
      s.transactions[id]?.any RepairTransactionRecord.hasUnresolvedRollback =
        (s.unresolvedRollback == some id) := by
  have hcell := h.inv.cells id
  generalize hc : s.cell id = c at hcell
  cases hcell <;> simp_all [cell]

theorem Compactable.record_of_transaction {t : RepairTransactionRecord} (h : Compactable s releases)
    (ht : s.transactions[id]? = some t) : ∃ record, s.reservations[id]? = some record := by
  have hcell := h.inv.cells id
  generalize hc : s.cell id = c at hcell
  cases hcell <;> simp_all [cell]

theorem Restored.continues (h : Restored s releases begun done r)
    (hreplay : begun.compactionReplay.isSome = true) (hquiet : r.isQuiescent = true) :
    Continues r := by
  refine ⟨h.inv,?_,hquiet⟩
  have hheader : r.compactionReplay = begun.compactionReplay :=
    congrArg (fun header => header.2.2.2) h.header
  rw [hheader, hreplay]

omit [Sha256Hasher] in
theorem restored_getElem? (t : Option RepairTransactionRecord) (j : ReservationId) :
    (r.restored id record t).reservations[j]? = (if j = id then some record else r.reservations[j]?) ∧
      (r.restored id record t).released[j]? = r.released[j]? ∧
      (j ∈ (r.restored id record t).seenReservationIds ↔ j = id ∨ j ∈ r.seenReservationIds) ∧
      (r.transactions[id]? = none → (r.restored id record t).transactions[j]? =
        (if j = id then t else r.transactions[j]?)) := by
  by_cases hj : j = id
  · subst hj
    cases t <;> simp_all [restored, withReservation,
      withTransaction, setTransaction]
  · have hne : ¬ compare id j = .eq := fun heq => hj (Std.LawfulEqCmp.eq_of_compare heq).symm
    cases t <;> simp [restored, withReservation,
      withTransaction, setTransaction, getElem?_insert_ne hj, hj,
      Std.ExtTreeSet.mem_insert, hne]

omit [Sha256Hasher] in
theorem size_restored (t : Option RepairTransactionRecord) (hactive : r.reservations[id]? = none)
    (hseen : id ∉ r.seenReservationIds) :
    (r.restored id record t).reservations.size = r.reservations.size + 1 ∧
      (r.restored id record t).seenReservationIds.size = r.seenReservationIds.size + 1 ∧
      (r.restored id record t).released.size = r.released.size := by
  have hactive' : id ∉ r.reservations := by simp [Std.ExtTreeMap.mem_iff_isSome_getElem?, hactive]
  cases t <;> simp [restored, withReservation,
    withTransaction, setTransaction, Std.ExtTreeMap.size_insert,
    Std.ExtTreeSet.size_insert, hactive', hseen]

theorem Restored.reservation (hs : Compactable s releases) (h : Restored s releases begun done r)
    (hreplay : begun.compactionReplay.isSome = true) (hquiet : r.isQuiescent = true)
    (hsize : r.reservations.size < maxReservations) (hid : id ∉ done)
    (hrecord : s.reservations[id]? = some record) :
    ∃ events, appendReservationSnapshot id record s.transactions[id]? = .ok events ∧
      events.length ≤ 11 ∧
      (∀ n, replayFrom r n events = .ok (r.restored id record s.transactions[id]?)) ∧
      Restored s releases begun (insert id done) (r.restored id record s.transactions[id]?) := by
  have hcontinues := h.continues hreplay hquiet
  have hseen : id ∉ r.seenReservationIds := (h.seen id).not.mpr hid
  obtain ⟨hentry,hunreleased⟩ := hs.entryOk hrecord
  obtain ⟨hactive,htransaction,_⟩ := hcontinues.fresh hseen
  obtain ⟨events,hevents,hlength,hreplayed⟩ := replay_reservationSnapshot hcontinues hseen hsize hentry
    (by
      intro t ht rollback hrollback j hj hsame
      have hat : s.rollbackIdAt id = some rollback.rollbackId := by
        simp [rollbackIdAt, Option.mem_def.mp ht, hrollback]
      have hother : s.rollbackIdAt j = some rollback.rollbackId := by
        rw [rollbackIdAt, h.transactions j] at hsame
        split_ifs at hsame with hdone
        · exact hsame
        · cases hsame
      exact hj (hs.inv.rollbackIds j id _ hother hat))
  obtain ⟨hsize1,hsize2,hsize3⟩ := @size_restored r id record s.transactions[id]? hactive hseen
  refine ⟨events,hevents,hlength,hreplayed,?_⟩
  constructor
  · exact replayFrom_inv h.inv (hreplayed 0)
  · intro j
    rw [(restored_getElem? _ j).1, h.reservations j]
    by_cases hj : j = id
    · simp [hj, hrecord]
    · simp [hj]
  · intro j
    rw [(restored_getElem? _ j).2.2.2 htransaction, h.transactions j]
    by_cases hj : j = id
    · simp [hj]
    · simp [hj]
  · intro j
    rw [(restored_getElem? _ j).2.1, h.released j]
    by_cases hj : j = id
    · simp [hj, hid, hunreleased]
    · simp [hj]
  · intro j
    rw [(restored_getElem? _ j).2.2.1, h.seen j, Finset.mem_insert]
  · have hsizes := h.sizes
    omega
  · have hp := h.pending
    cases s.transactions[id]? <;> exact hp
  · have hheader := h.header
    cases s.transactions[id]? <;> exact hheader

theorem Compactable.tombstoneOk (h : Compactable s releases)
    (htombstone : releases[id]? = some tombstone) :
    TombstoneOk tombstone ∧ s.reservations[id]? = none ∧ s.transactions[id]? = none := by
  have hfound := (h.retained id tombstone htombstone).1
  have hcell := h.inv.cells id
  generalize hc : s.cell id = c at hcell
  cases hcell <;> simp_all [cell]

theorem Restored.release (hs : Compactable s releases) (h : Restored s releases begun done r)
    (hreplay : begun.compactionReplay.isSome = true)
    (hclock : begun.logicalEventClock = s.logicalEventClock) (hquiet : r.isQuiescent = true)
    (hsize : r.reservations.size < maxReservations)
    (hreleased : r.released.size < maxReleaseTombstones) (hid : id ∉ done)
    (htombstone : releases[id]? = some tombstone) :
    ∃ events, appendReleaseSnapshot id tombstone = .ok events ∧ events.length ≤ 13 ∧
      (∀ n, replayFrom r n events = .ok (r.withRelease id tombstone)) ∧
      Restored s releases begun (insert id done) (r.withRelease id tombstone) := by
  have hcontinues := h.continues hreplay hquiet
  have hseen : id ∉ r.seenReservationIds := (h.seen id).not.mpr hid
  obtain ⟨hok,hinactive,huntracked⟩ := hs.tombstoneOk htombstone
  obtain ⟨hactive,htransaction,hunreleased⟩ := hcontinues.fresh hseen
  have hclock' : r.logicalEventClock = s.logicalEventClock :=
    (congrArg Prod.fst h.header).trans hclock
  have hretained : r.retains tombstone = true := by
    rw [retains, hclock']
    exact (hs.retained id tombstone htombstone).2
  obtain ⟨events,hevents,hlength,hreplayed⟩ :=
    replay_releaseSnapshot hcontinues hseen hsize hreleased hok hretained
  have hnot : id ∉ r.released := by simp [Std.ExtTreeMap.mem_iff_isSome_getElem?, hunreleased]
  have hgrown : (r.withRelease id tombstone).released.size = r.released.size + 1 := by
    simp [withRelease, Std.ExtTreeMap.size_insert, hnot]
  refine ⟨events,hevents,hlength,hreplayed,?_⟩
  constructor
  · exact replayFrom_inv h.inv (hreplayed 0)
  · intro j
    rw [withRelease, h.reservations j]
    by_cases hj : j = id
    · simp [hj, hid, hinactive]
    · simp [hj]
  · intro j
    rw [withRelease, h.transactions j]
    by_cases hj : j = id
    · simp [hj, hid, huntracked]
    · simp [hj]
  · intro j
    by_cases hj : j = id
    · simp [withRelease, hj, htombstone]
    · simp only [withRelease, getElem?_insert_ne hj, h.released j, Finset.mem_insert,
        hj, false_or]
  · intro j
    have hne : compare id j = .eq ↔ j = id :=
      ⟨fun heq => (Std.LawfulEqCmp.eq_of_compare heq).symm,fun heq => heq ▸ Std.ReflCmp.compare_self⟩
    rw [withRelease, Std.ExtTreeSet.mem_insert, hne, h.seen j, Finset.mem_insert]
  · have hseenGrown : (r.withRelease id tombstone).seenReservationIds.size =
        r.seenReservationIds.size + 1 := by
      simp [withRelease, Std.ExtTreeSet.size_insert, hseen]
    rw [hgrown, hseenGrown, h.sizes, Nat.add_assoc]
    rfl
  · exact h.pending
  · exact h.header

/-- Groups of events, one for each entry of a list, replayed one after the other. The invariant
`P` gains an identifier with each group. -/
theorem replayFrom_groups
    (append : ReservationId × β → Except RepairVaultStoreError (List RepairEvent)) (bound : Nat)
    {P : Finset ReservationId → RecoveredState → Prop} (entries : List (ReservationId × β))
    (step : ∀ done r, ∀ entry ∈ entries, entry.1 ∉ done → P done r → ∃ events r',
      append entry = .ok events ∧ events.length ≤ bound ∧ (∀ n, replayFrom r n events = .ok r') ∧
        P (insert entry.1 done) r')
    (hnodup : (entries.map Prod.fst).Nodup) (hdone : ∀ entry ∈ entries, entry.1 ∉ done)
    (h : P done r) :
    ∃ groups r', entries.mapM append = .ok groups ∧ groups.flatten.length ≤ bound * entries.length ∧
      (∀ n, replayFrom r n groups.flatten = .ok r') ∧
      P (done ∪ (entries.map Prod.fst).toFinset) r' := by
  induction entries generalizing done r with
  | nil => exact ⟨[],r,rfl,by simp,fun _ => rfl,by simpa using h⟩
  | cons entry entries ih =>
    rw [List.map_cons, List.nodup_cons] at hnodup
    obtain ⟨events,r1,hevents,hlength,hreplayed,h1⟩ :=
      step done r entry List.mem_cons_self (hdone entry List.mem_cons_self) h
    have hrest : ∀ other ∈ entries, other.1 ∉ insert entry.1 done := by
      intro other hmem hin
      rcases Finset.mem_insert.mp hin with heq | hin
      · exact hnodup.1 (heq ▸ List.mem_map_of_mem hmem)
      · exact hdone other (List.mem_cons_of_mem _ hmem) hin
    obtain ⟨groups,r2,hgroups,hlengths,hreplays,h2⟩ :=
      ih (fun done r other hmem => step done r other (List.mem_cons_of_mem _ hmem)) hnodup.2 hrest h1
    refine ⟨events :: groups,r2,?_,?_,?_,?_⟩
    · rw [List.mapM_cons, hevents, ok_bind, hgroups]
      rfl
    · rw [List.flatten_cons, List.length_append, List.length_cons, Nat.mul_succ]
      omega
    · intro n
      rw [List.flatten_cons]
      exact replayFrom_append_ok (hreplayed n) (hreplays _)
    · rwa [List.map_cons, List.toFinset_cons, Finset.union_insert, ← Finset.insert_union]

omit [Sha256Hasher] in
theorem size_le_of_keys {γ : Type} {m' : IdMap γ}
    (h : ∀ (id : ReservationId) v, m[id]? = some v → ∃ v', m'[id]? = some v') :
    m.size ≤ m'.size := by
  have hsubset : m.toList.map Prod.fst ⊆ m'.toList.map Prod.fst := by
    intro id hid
    obtain ⟨⟨id',v⟩,hmem,rfl⟩ := List.mem_map.mp hid
    obtain ⟨v',hfound⟩ := h _ _ (Std.ExtTreeMap.mem_toList_iff_getElem?_eq_some.mp hmem)
    exact List.mem_map_of_mem (Std.ExtTreeMap.mem_toList_iff_getElem?_eq_some.mpr hfound)
  have hlength := ((nodup_ids m).subperm hsubset).length_le
  simpa using hlength

omit [Sha256Hasher] in
theorem size_le_of_getElem? {m' : IdMap β}
    (h : ∀ (id : ReservationId) v, m[id]? = some v → m'[id]? = some v) : m.size ≤ m'.size :=
  size_le_of_keys fun id v hv => ⟨v,h id v hv⟩

theorem Restored.size_lt (h : Restored s releases begun done r) (hid : id ∉ done)
    (hrecord : s.reservations[id]? = some record) : r.reservations.size < s.reservations.size := by
  have hnone : id ∉ r.reservations := by
    rw [Std.ExtTreeMap.mem_iff_isSome_getElem?, h.reservations id, if_neg hid]
    simp
  have hle : (r.reservations.insert id record).size ≤ s.reservations.size := by
    refine size_le_of_getElem? fun j v hj => ?_
    by_cases heq : j = id
    · rw [heq, Std.ExtTreeMap.getElem?_insert_self] at hj
      rw [heq, hrecord, hj]
    · rw [getElem?_insert_ne heq, h.reservations j] at hj
      split_ifs at hj
      exact hj
  simpa [Std.ExtTreeMap.size_insert, hnone] using hle

theorem Restored.size_le (h : Restored s releases begun done r) :
    r.reservations.size ≤ s.reservations.size ∧ r.released.size ≤ releases.size := by
  constructor <;> refine size_le_of_getElem? fun j v hj => ?_
  · rw [h.reservations j] at hj
    split_ifs at hj
    exact hj
  · rw [h.released j] at hj
    split_ifs at hj
    exact hj

/-- The identifier whose transaction, or whose rollback child, is open. -/
def RecoveredState.openAt (s : RecoveredState) (id : ReservationId) : Prop :=
  s.unresolvedTransaction = some id ∨ s.unresolvedRollback = some id

omit [Sha256Hasher] in
theorem not_openAt_of_quiet (h : r.isQuiescent = true) : ¬ r.openAt id := by
  obtain ⟨_,hu,hr⟩ := isQuiescent_iff.mp h
  simp [openAt, hu, hr]

omit [Sha256Hasher] in
theorem quiet_of_not_openAt (hp : r.pending = none) (h : ∀ id, ¬ r.openAt id) :
    r.isQuiescent = true := by
  refine isQuiescent_iff.mpr ⟨hp,?_,?_⟩ <;> rw [Option.eq_none_iff_forall_ne_some] <;> intro id hid
  · exact h id (.inl hid)
  · exact h id (.inr hid)

theorem Compactable.openAt_iff (h : Compactable s releases) (id : ReservationId) :
    s.openAt id ↔ ∃ t, s.transactions[id]? = some t ∧
      (t.isUnresolved || t.hasUnresolvedRollback) = true := by
  obtain ⟨hu,hr⟩ := h.slots id
  rw [openAt, ← beq_iff_eq, ← beq_iff_eq (a := s.unresolvedRollback), ← hu, ← hr]
  cases s.transactions[id]? <;> simp

theorem Compactable.openAt_unique (h : Compactable s releases) {i j : ReservationId}
    (hi : s.openAt i) (hj : s.openAt j) : i = j := by
  rcases h.inv.oneUnresolved with hnone | hnone <;>
    simp only [openAt, hnone, reduceCtorEq, false_or, or_false] at hi hj <;>
    exact Option.some.inj (hi.symm.trans hj)

theorem Compactable.openAt_of_unresolvedId (h : Compactable s releases)
    (hid : unresolvedId s.transactions = some id) : s.openAt id := by
  obtain ⟨entry,hfind,rfl⟩ := Option.map_eq_some_iff.mp hid
  have hmem := Std.ExtTreeMap.mem_toList_iff_getElem?_eq_some.mp (List.mem_of_find?_eq_some hfind)
  have hopen := List.find?_some hfind
  exact (h.openAt_iff entry.1).mpr ⟨entry.2,hmem,hopen⟩

theorem Compactable.unresolvedId_iff (h : Compactable s releases) (id : ReservationId) :
    unresolvedId s.transactions = some id ↔ s.openAt id := by
  refine ⟨h.openAt_of_unresolvedId,fun hid => ?_⟩
  obtain ⟨t,ht,hopen⟩ := (h.openAt_iff id).mp hid
  have hsome : (unresolvedId s.transactions).isSome = true := by
    rw [unresolvedId, Option.isSome_map, List.find?_isSome]
    exact ⟨(id,t),Std.ExtTreeMap.mem_toList_iff_getElem?_eq_some.mpr ht,hopen⟩
  obtain ⟨other,hother⟩ := Option.isSome_iff_exists.mp hsome
  rw [hother, h.openAt_unique (h.openAt_of_unresolvedId hother) hid]

theorem Restored.compactable (h : Restored s releases begun done r) : Compactable r ∅ :=
  ⟨h.inv,h.pending,by simp,by simp⟩

theorem Restored.openAt_iff (hs : Compactable s releases) (h : Restored s releases begun done r) :
    r.openAt id ↔ id ∈ done ∧ s.openAt id := by
  rw [h.compactable.openAt_iff, hs.openAt_iff, h.transactions id]
  by_cases hid : id ∈ done <;> simp [hid]

theorem Restored.not_mem_of_openAt (hs : Compactable s releases) (h : Restored s releases begun done r)
    (hquiet : r.isQuiescent = true) (hid : s.openAt id) : id ∉ done :=
  fun hdone => not_openAt_of_quiet hquiet ((h.openAt_iff hs).mpr ⟨hdone,hid⟩)

theorem Restored.room (hs : Compactable s releases) (h : Restored s releases begun done r)
    (hquiet : r.isQuiescent = true)
    (hroom : s.reservations.size < maxReservations ∨ s.isQuiescent = false) :
    r.reservations.size < maxReservations := by
  rcases hroom with hroom | hroom
  · exact Nat.lt_of_le_of_lt h.size_le.1 hroom
  · have hopen : ∃ id, s.openAt id := by
      by_contra hnone
      rw [quiet_of_not_openAt hs.pending (not_exists.mp hnone)] at hroom
      cases hroom
    obtain ⟨id,hid⟩ := hopen
    obtain ⟨t,ht,_⟩ := (hs.openAt_iff id).mp hid
    obtain ⟨record,hrecord⟩ := hs.record_of_transaction ht
    have hlt := h.size_lt (h.not_mem_of_openAt hs hquiet hid) hrecord
    exact Nat.lt_of_lt_of_le hlt hs.inv.size

/-- The states met while the snapshot restores the settled reservations and the tombstones. -/
def Resting (s : RecoveredState) (releases : IdMap ReleaseTombstone) (begun : RecoveredState)
    (done : Finset ReservationId) (r : RecoveredState) : Prop :=
  Restored s releases begun done r ∧ r.isQuiescent = true

theorem Resting.insert {r' : RecoveredState} (hs : Compactable s releases)
    (h : Resting s releases begun done r) (hclosed : ¬ s.openAt id)
    (h' : Restored s releases begun (insert id done) r') :
    Resting s releases begun (insert id done) r' := by
  refine ⟨h',quiet_of_not_openAt h'.pending fun j hj => ?_⟩
  obtain ⟨hdone,hopen⟩ := (h'.openAt_iff hs).mp hj
  rcases Finset.mem_insert.mp hdone with rfl | hdone
  · exact hclosed hopen
  · exact h.1.not_mem_of_openAt hs h.2 hopen hdone

def settledEntries (s : RecoveredState) : List (ReservationId × ReservationRecord) :=
  s.reservations.toList.filter fun entry => some entry.1 != unresolvedId s.transactions

theorem Compactable.mem_settledEntries (hs : Compactable s releases)
    {entry : ReservationId × ReservationRecord} :
    entry ∈ settledEntries s ↔ s.reservations[entry.1]? = some entry.2 ∧ ¬ s.openAt entry.1 := by
  rw [settledEntries, List.mem_filter, Std.ExtTreeMap.mem_toList_iff_getElem?_eq_some, bne_iff_ne,
    ← hs.unresolvedId_iff, Ne, eq_comm (a := some entry.1)]

theorem Compactable.mem_settledIds (hs : Compactable s releases) :
    id ∈ ((settledEntries s).map Prod.fst).toFinset ↔ id ∈ s.reservations ∧ ¬ s.openAt id := by
  simp only [List.mem_toFinset, List.mem_map, hs.mem_settledEntries, Prod.exists, exists_and_right,
    exists_eq_right, Std.ExtTreeMap.mem_iff_isSome_getElem?, Option.isSome_iff_exists]

theorem replay_settledEntries (hs : Compactable s releases) (h : Resting s releases begun ∅ begun)
    (hreplay : begun.compactionReplay.isSome = true) :
    ∃ groups r, ((settledEntries s).mapM fun entry =>
        appendReservationSnapshot entry.1 entry.2 s.transactions[entry.1]?) = .ok groups ∧
      groups.flatten.length ≤ 11 * (settledEntries s).length ∧
      (∀ n, replayFrom begun n groups.flatten = .ok r) ∧
      Resting s releases begun ((settledEntries s).map Prod.fst).toFinset r := by
  have hstep : ∀ done r, ∀ entry ∈ settledEntries s, entry.1 ∉ done → Resting s releases begun done r →
      ∃ events r', appendReservationSnapshot entry.1 entry.2 s.transactions[entry.1]? = .ok events ∧
        events.length ≤ 11 ∧ (∀ n, replayFrom r n events = .ok r') ∧
        Resting s releases begun (insert entry.1 done) r' := by
    intro done r entry hmem hid h
    obtain ⟨hrecord,hclosed⟩ := hs.mem_settledEntries.mp hmem
    have hlt := Nat.lt_of_lt_of_le (h.1.size_lt hid hrecord) hs.inv.size
    obtain ⟨events,hevents,hlength,hreplayed,hrestored⟩ :=
      h.1.reservation hs hreplay h.2 hlt hid hrecord
    exact ⟨events,_,hevents,hlength,hreplayed,h.insert hs hclosed hrestored⟩
  obtain ⟨groups,r,hgroups,hlength,hreplayed,hresting⟩ := replayFrom_groups _ 11 (settledEntries s)
    hstep ((List.filter_sublist.map _).nodup (nodup_ids s.reservations)) (by simp) h
  exact ⟨groups,r,hgroups,hlength,hreplayed,by simpa using hresting⟩

theorem replay_releases (hs : Compactable s releases) (h : Resting s releases begun done r)
    (hreplay : begun.compactionReplay.isSome = true)
    (hclock : begun.logicalEventClock = s.logicalEventClock)
    (hroom : s.reservations.size < maxReservations ∨ s.isQuiescent = false)
    (hdone : ∀ id ∈ done, releases[id]? = none) :
    ∃ groups r', (releases.toList.mapM fun entry => appendReleaseSnapshot entry.1 entry.2) =
        .ok groups ∧
      groups.flatten.length ≤ 13 * releases.toList.length ∧
      (∀ n, replayFrom r n groups.flatten = .ok r') ∧
      Resting s releases begun (done ∪ (releases.toList.map Prod.fst).toFinset) r' := by
  have hfound : ∀ entry ∈ releases.toList, releases[entry.1]? = some entry.2 :=
    fun entry hmem => Std.ExtTreeMap.mem_toList_iff_getElem?_eq_some.mp hmem
  refine replayFrom_groups _ 13 releases.toList ?_ (nodup_ids releases) ?_ h
  · intro done r entry hmem hid h
    have hfew : r.released.size < maxReleaseTombstones :=
      Nat.lt_of_le_of_lt (h.1.size_le.2.trans hs.few) (by decide)
    obtain ⟨events,hevents,hlength,hreplayed,hrestored⟩ := h.1.release hs hreplay hclock h.2
      (h.1.room hs h.2 hroom) hfew hid (hfound entry hmem)
    have hclosed : ¬ s.openAt entry.1 := by
      intro hopen
      obtain ⟨t,ht,_⟩ := (hs.openAt_iff entry.1).mp hopen
      rw [(hs.tombstoneOk (hfound entry hmem)).2.2] at ht
      cases ht
    exact ⟨events,_,hevents,hlength,hreplayed,h.insert hs hclosed hrestored⟩
  · intro entry hmem hin
    have hnone := hdone entry.1 hin
    rw [hfound entry hmem] at hnone
    cases hnone

theorem replay_unresolved (hs : Compactable s releases) (h : Resting s releases begun done r)
    (hreplay : begun.compactionReplay.isSome = true)
    (hdone : ∀ j, j ∈ done ↔ (j ∈ s.reservations ∧ ¬ s.openAt j) ∨ j ∈ releases) :
    ∃ events r', appendUnresolvedSnapshot s.reservations s.transactions = .ok events ∧
      events.length + 11 * (settledEntries s).length ≤ 11 * s.reservations.size ∧
      (∀ n, replayFrom r n events = .ok r') ∧
      ∃ all, Restored s releases begun all r' ∧ ∀ j, j ∈ all ↔ j ∈ s.reservations ∨ j ∈ releases := by
  have hlength : s.reservations.toList.length = s.reservations.size := Std.ExtTreeMap.length_toList
  cases hopen : unresolvedId s.transactions with
  | none =>
    have hclosed : ∀ j, ¬ s.openAt j := by
      intro j hj
      rw [(hs.unresolvedId_iff j).mpr hj] at hopen
      cases hopen
    refine ⟨[],r,by rw [appendUnresolvedSnapshot, hopen],?_,fun _ => rfl,done,h.1,?_⟩
    · have hle : (settledEntries s).length ≤ s.reservations.toList.length := List.length_filter_le _ _
      simp only [List.length_nil]
      omega
    · intro j
      rw [hdone j]
      simp [hclosed j]
  | some id =>
    have hid := (hs.unresolvedId_iff id).mp hopen
    obtain ⟨t,ht,_⟩ := (hs.openAt_iff id).mp hid
    obtain ⟨record,hrecord⟩ := hs.record_of_transaction ht
    have hnew := h.1.not_mem_of_openAt hs h.2 hid
    have hlt := Nat.lt_of_lt_of_le (h.1.size_lt hnew hrecord) hs.inv.size
    obtain ⟨events,hevents,hcount,hreplayed,hrestored⟩ :=
      h.1.reservation hs hreplay h.2 hlt hnew hrecord
    have hactive : id ∈ s.reservations := by simp [Std.ExtTreeMap.mem_iff_isSome_getElem?, hrecord]
    refine ⟨events,_,?_,?_,hreplayed,insert id done,hrestored,?_⟩
    · simp only [appendUnresolvedSnapshot, hopen, hrecord, okOr_some, ok_bind, hevents]
    · have hfewer : (settledEntries s).length < s.reservations.toList.length := by
        rw [settledEntries, List.length_filter_lt_length_iff_exists]
        exact ⟨(id,record),Std.ExtTreeMap.mem_toList_iff_getElem?_eq_some.mpr hrecord,by simp [hopen]⟩
      omega
    · intro j
      rw [Finset.mem_insert, hdone j]
      by_cases hj : s.openAt j
      · obtain rfl := hs.openAt_unique hid hj
        simp [hactive]
      · have hne : j ≠ id := fun heq => hj (heq ▸ hid)
        simp [hj, hne]

theorem Restored.complete (hs : Compactable s releases) (h : Restored s releases begun done r)
    (hall : ∀ j, j ∈ done ↔ j ∈ s.reservations ∨ j ∈ releases) :
    r.reservations = s.reservations ∧ r.transactions = s.transactions ∧ r.released = releases ∧
      r.seenReservationIds = .ofList (s.reservations.keys ++ releases.keys) ∧
      r.unresolvedTransaction = s.unresolvedTransaction ∧
      r.unresolvedRollback = s.unresolvedRollback := by
  have hnot : ∀ j, j ∉ done → s.reservations[j]? = none ∧ releases[j]? = none := by
    intro j hj
    rw [hall j, not_or] at hj
    exact ⟨Std.ExtTreeMap.getElem?_eq_none hj.1,Std.ExtTreeMap.getElem?_eq_none hj.2⟩
  have hreservations : r.reservations = s.reservations := by
    refine Std.ExtTreeMap.ext_getElem? fun j => ?_
    rw [h.reservations j]
    split_ifs with hj
    · rfl
    · exact (hnot j hj).1.symm
  have htransactions : r.transactions = s.transactions := by
    refine Std.ExtTreeMap.ext_getElem? fun j => ?_
    rw [h.transactions j]
    split_ifs with hj
    · rfl
    · symm
      by_contra hne
      obtain ⟨t,ht⟩ := Option.ne_none_iff_exists'.mp hne
      obtain ⟨record,hrecord⟩ := hs.record_of_transaction ht
      rw [(hnot j hj).1] at hrecord
      cases hrecord
  have hreleased : r.released = releases := by
    refine Std.ExtTreeMap.ext_getElem? fun j => ?_
    rw [h.released j]
    split_ifs with hj
    · rfl
    · exact (hnot j hj).2.symm
  refine ⟨hreservations,htransactions,hreleased,?_,?_,?_⟩
  · refine Std.ExtTreeSet.ext_mem fun j => ?_
    rw [h.seen j, hall j, Std.ExtTreeSet.mem_ofList, List.contains_iff_mem, List.mem_append,
      Std.ExtTreeMap.mem_keys, Std.ExtTreeMap.mem_keys]
  all_goals
    refine Option.ext fun id => ?_
    rw [← beq_iff_eq, ← beq_iff_eq (b := some id)]
  · rw [← (h.compactable.slots id).1, ← (hs.slots id).1, htransactions]
  · rw [← (h.compactable.slots id).2, ← (hs.slots id).2, htransactions]

def RecoveredState.snapshotStart (s : RecoveredState) (releases : IdMap ReleaseTombstone)
    (generation : Nat) (anchor : JournalAnchor) : RecoveredState :=
  { logicalEventClock := s.logicalEventClock
    compactionGeneration := generation
    previousCompactionAnchor := some anchor
    compactionReplay := some ⟨generation,s.reservations.size,releases.size⟩ }

/-- What a compaction is for: the same state, with only the retained tombstones and one
generation later. -/
def RecoveredState.compacted (s : RecoveredState) (releases : IdMap ReleaseTombstone)
    (generation : Nat) (anchor : JournalAnchor) : RecoveredState :=
  { s with
    released := releases
    seenReservationIds := .ofList (s.reservations.keys ++ releases.keys)
    compactionGeneration := generation
    previousCompactionAnchor := some anchor
    compactionReplay := none }

variable {generation : Nat} {anchor : JournalAnchor}

theorem replay_compactionBegin (hs : Compactable s releases) (hgeneration : generation ≠ 0) :
    applyRepairEvent {} (.compactionBegin generation s.logicalEventClock s.reservations.size
      releases.size (encodeHex anchor.toBytes)) 1 = .ok (s.snapshotStart releases generation anchor) := by
  simp only [applyRepairEvent, advanceClock, RepairEvent.isControl, Bool.true_or, if_true, ok_bind,
    dispatchRepairEvent, applyCompactionBegin, require_bind_eq_ok, okOr_bind_eq_ok, pure_eq_ok_iff]
  exact ⟨anchor,decodeCompactionAnchor_encodeHex anchor,⟨trivial,hgeneration,hs.inv.size,hs.few⟩,
    by simp,rfl⟩

theorem resting_begun (hs : Compactable s releases) (hgeneration : generation ≠ 0) :
    Resting s releases (s.snapshotStart releases generation anchor) ∅
      (s.snapshotStart releases generation anchor) := by
  refine ⟨?_,rfl⟩
  constructor
  · exact applyRepairEvent_inv inv_default (replay_compactionBegin hs hgeneration)
  all_goals simp [snapshotStart]

theorem replay_compactionComplete (hs : Compactable s releases)
    (h : Restored s releases (s.snapshotStart releases generation anchor) done r)
    (hall : ∀ j, j ∈ done ↔ j ∈ s.reservations ∨ j ∈ releases) {n : Nat} :
    applyRepairEvent r (.compactionComplete generation) n =
      .ok (s.compacted releases generation anchor) := by
  obtain ⟨hreservations,htransactions,hreleased,hseen,hu,hr⟩ := h.complete hs hall
  have hreplay : r.compactionReplay = some ⟨generation,s.reservations.size,releases.size⟩ :=
    congrArg (fun header => header.2.2.2) h.header
  have hsettled : (r.reservations.toList.all fun entry => entry.2.phase.isSettled) = true := by
    rw [List.all_eq_true]
    intro entry hmem
    have hentry := (h.compactable.entryOk (Std.ExtTreeMap.mem_toList_iff_getElem?_eq_some.mp hmem)).1
    generalize r.transactions[entry.1]? = t at hentry
    cases hentry with
    | reserved hphase => simp [hphase, ReservationPhase.isSettled]
    | durable hphase => simp [hphase, ReservationPhase.isSettled]
  have hsizes := h.sizes
  rw [hreservations, hreleased] at hsizes
  simp only [applyRepairEvent, advanceClock, RepairEvent.isControl, Bool.true_or, if_true, ok_bind,
    dispatchRepairEvent, applyCompactionComplete, require_bind_eq_ok, okOr_bind_eq_ok, pure_eq_ok_iff]
  refine ⟨_,hreplay,⟨rfl,h.pending,by rw [hreservations],by rw [hreleased],hsizes⟩,hsettled,
    h.inv.transactionsAreConsistent h.pending,?_⟩
  have hclock : r.logicalEventClock = s.logicalEventClock := congrArg Prod.fst h.header
  have hgeneration : r.compactionGeneration = generation := congrArg (fun header => header.2.1) h.header
  have hanchor : r.previousCompactionAnchor = some anchor :=
    congrArg (fun header => header.2.2.1) h.header
  have hpending := h.pending
  obtain ⟨⟩ := r
  simp only at *
  simp [compacted, *, hs.pending]

omit [Sha256Hasher] in
theorem mem_ids {j : ReservationId} :
    j ∈ (m.toList.map Prod.fst).toFinset ↔ j ∈ m := by
  rw [List.mem_toFinset, Std.ExtTreeMap.map_fst_toList_eq_keys, Std.ExtTreeMap.mem_keys]

/-- The snapshot of a state replays to the compacted state. A tombstone is restored by reserving
its identifier once more, so there must be room for one more reservation at that moment. -/
theorem replay_compactionEvents (hs : Compactable s releases) (hgeneration : generation ≠ 0)
    (hroom : releases = ∅ ∨ s.reservations.size < maxReservations ∨ s.isQuiescent = false) :
    ∃ events, compactionEvents s.reservations releases s.transactions s.logicalEventClock generation
        anchor = .ok events ∧
      events.length ≤ 11 * s.reservations.size + 13 * releases.size + 2 ∧
      replay events = .ok (s.compacted releases generation anchor) := by
  have hstart : Resting s releases (s.snapshotStart releases generation anchor) ∅ _ :=
    resting_begun hs hgeneration
  obtain ⟨settled,r1,hsettled,hlength1,hreplay1,h1⟩ := replay_settledEntries hs hstart rfl
  have hreleases : ∃ groups r', (releases.toList.mapM fun entry =>
        appendReleaseSnapshot entry.1 entry.2) = .ok groups ∧
      groups.flatten.length ≤ 13 * releases.toList.length ∧
      (∀ n, replayFrom r1 n groups.flatten = .ok r') ∧
      Resting s releases (s.snapshotStart releases generation anchor)
        (((settledEntries s).map Prod.fst).toFinset ∪ (releases.toList.map Prod.fst).toFinset) r' := by
    rcases hroom with rfl | hroom
    · have hnil : (∅ : IdMap ReleaseTombstone).toList = [] := rfl
      refine ⟨[],r1,rfl,by simp,fun _ => rfl,?_⟩
      rw [hnil]
      simpa using h1
    · refine replay_releases hs h1 rfl rfl hroom fun id hid => ?_
      obtain ⟨record,hrecord⟩ := Option.isSome_iff_exists.mp
        (Std.ExtTreeMap.mem_iff_isSome_getElem?.mp (hs.mem_settledIds.mp hid).1)
      exact (hs.entryOk hrecord).2
  obtain ⟨released,r2,hreleased,hlength2,hreplay2,h2⟩ := hreleases
  obtain ⟨last,r3,hlast,hlength3,hreplay3,all,h3,hall⟩ := replay_unresolved hs h2 rfl (by
    intro j
    rw [Finset.mem_union, hs.mem_settledIds, mem_ids])
  refine ⟨.compactionBegin generation s.logicalEventClock s.reservations.size releases.size
    (encodeHex anchor.toBytes) ::
      (settled.flatten ++ released.flatten ++ last ++ [.compactionComplete generation]),?_,?_,?_⟩
  · change (settledEntries s).mapM _ >>= _ = _
    rw [hsettled, ok_bind, hreleased, ok_bind, hlast]
    rfl
  · simp only [List.length_cons, List.length_append, List.length_nil]
    rw [Std.ExtTreeMap.length_toList] at hlength2
    omega
  · rw [replay, replayFrom, Nat.zero_add, replay_compactionBegin hs hgeneration, ok_bind]
    refine replayFrom_append_ok (replayFrom_append_ok (replayFrom_append_ok (hreplay1 1)
      (hreplay2 _)) (hreplay3 _)) ?_
    rw [replayFrom, replay_compactionComplete hs h3 hall]
    rfl

omit [Sha256Hasher] in
theorem mapM_eq_ok {α : Type} {f : α → Except RepairVaultStoreError (List β)} {l : List α}
    {bound : Nat} (h : ∀ a ∈ l, ∃ b, f a = .ok b ∧ b.length ≤ bound) :
    ∃ bs, l.mapM f = .ok bs ∧ bs.flatten.length ≤ bound * l.length := by
  induction l with
  | nil => exact ⟨[],rfl,by simp⟩
  | cons a l ih =>
    obtain ⟨b,hb,hlength⟩ := h a List.mem_cons_self
    obtain ⟨bs,hbs,hlengths⟩ := ih fun a ha => h a (List.mem_cons_of_mem _ ha)
    refine ⟨b :: bs,by rw [List.mapM_cons, hb, ok_bind, hbs]; rfl,?_⟩
    rw [List.flatten_cons, List.length_append, List.length_cons, Nat.mul_succ]
    omega

theorem replay_releaseSnapshot_full {events : List RepairEvent} {n : Nat}
    (hreplay : r.compactionReplay.isSome = true) (hfull : r.reservations.size = maxReservations)
    (hok : TombstoneOk tombstone) (hevents : appendReleaseSnapshot id tombstone = .ok events)
    (rest : List RepairEvent) : replayFrom r n (events ++ rest) = .error .corruptJournal := by
  have hhead : ∃ tail, events = appendReserveSnapshot id tombstone.record ++ tail := by
    cases hok with
    | cancelled hrecord hphase =>
      simp only [appendReleaseSnapshot, hphase, Except.ok.injEq] at hevents
      exact ⟨_,hevents.symm⟩
    | retired hrecord hphase =>
      simp only [appendReleaseSnapshot, hphase] at hevents
      obtain ⟨snapshot,_,hevents⟩ := bind_ok_iff.mp hevents
      rw [pure_eq_ok_iff] at hevents
      exact ⟨_,by rw [← hevents, List.append_assoc, List.append_assoc]⟩
  have hrecord : RecordOk tombstone.record := by
    cases hok <;> assumption
  obtain ⟨tail,rfl⟩ := hhead
  have hreject : applyReserveIntent r id tombstone.record.draft
      tombstone.record.reservationBindingSha256 tombstone.record.reservedCapacityBytes
      tombstone.record.vaultId tombstone.record.vaultIdentityFingerprint
      tombstone.record.physicalParentFingerprint = .error .corruptJournal := by
    have hbinding := validSha256_reservationBinding tombstone.record.draft
    simp [applyReserveIntent, require, hrecord.draft, hrecord.binding, hrecord.capacity, hbinding, hfull,
      bind, Except.bind]
  simp only [appendReserveSnapshot, List.cons_append, replayFrom]
  rw [applyRepairEvent_restoring hreplay, dispatchRepairEvent, hreject]
  rfl

/-- With every slot taken by a settled reservation, a snapshot that retains a tombstone does not
replay. -/
theorem replay_compactionEvents_full (hs : Compactable s releases) (hgeneration : generation ≠ 0)
    (hfull : s.reservations.size = maxReservations) (hquiet : s.isQuiescent = true)
    (hreleases : releases ≠ ∅) :
    ∃ events, compactionEvents s.reservations releases s.transactions s.logicalEventClock generation
        anchor = .ok events ∧
      events.length ≤ 11 * s.reservations.size + 13 * releases.size + 2 ∧
      replay events = .error .corruptJournal := by
  have hstart : Resting s releases (s.snapshotStart releases generation anchor) ∅ _ :=
    resting_begun hs hgeneration
  obtain ⟨settled,r,hsettled,hlength,hreplayed,h⟩ := replay_settledEntries hs hstart rfl
  have hclosed : ∀ j, ¬ s.openAt j := fun j => not_openAt_of_quiet hquiet
  have hlast : appendUnresolvedSnapshot s.reservations s.transactions = .ok [] := by
    have hnone : unresolvedId s.transactions = none :=
      Option.eq_none_iff_forall_ne_some.mpr fun j hj => hclosed j ((hs.unresolvedId_iff j).mp hj)
    rw [appendUnresolvedSnapshot, hnone]
  have hsize : r.reservations.size = maxReservations := by
    have hsame : r.reservations = s.reservations := by
      refine Std.ExtTreeMap.ext_getElem? fun j => ?_
      rw [h.1.reservations j]
      split_ifs with hj
      · rfl
      · rw [hs.mem_settledIds] at hj
        exact (Std.ExtTreeMap.getElem?_eq_none fun hmem => hj ⟨hmem,hclosed j⟩).symm
    rw [hsame, hfull]
  -- A tombstone's events depend on the tombstone only: take them from the empty snapshot.
  obtain ⟨released,hreleased,hlengths⟩ : ∃ released, (releases.toList.mapM fun entry =>
      appendReleaseSnapshot entry.1 entry.2) = .ok released ∧
      released.flatten.length ≤ 13 * releases.toList.length := by
    refine mapM_eq_ok fun entry hmem => ?_
    have hentry := Std.ExtTreeMap.mem_toList_iff_getElem?_eq_some.mp hmem
    have hzero : 0 < maxReservations ∧ 0 < maxReleaseTombstones := by decide
    obtain ⟨events,hevents,hlength,_⟩ := hstart.1.release hs rfl rfl rfl hzero.1 hzero.2
      (Finset.notMem_empty entry.1) hentry
    exact ⟨events,hevents,hlength⟩
  refine ⟨.compactionBegin generation s.logicalEventClock s.reservations.size releases.size
    (encodeHex anchor.toBytes) ::
      (settled.flatten ++ released.flatten ++ [] ++ [.compactionComplete generation]),?_,?_,?_⟩
  · change (settledEntries s).mapM _ >>= _ = _
    rw [hsettled, ok_bind, hreleased, ok_bind, hlast]
    rfl
  · have hfew : (settledEntries s).length ≤ s.reservations.toList.length := List.length_filter_le _ _
    simp only [List.length_cons, List.length_append, List.length_nil]
    rw [Std.ExtTreeMap.length_toList] at hlengths hfew
    omega
  · rw [replay, replayFrom, Nat.zero_add, replay_compactionBegin hs hgeneration, ok_bind,
      List.append_nil, List.append_assoc]
    refine replayFrom_append_ok (hreplayed 1) ?_
    cases hlist : releases.toList with
    | nil => exact absurd (Std.ExtTreeMap.toList_eq_nil_iff.mp hlist) hreleases
    | cons entry rest =>
      have hentry : releases[entry.1]? = some entry.2 := by
        rw [← Std.ExtTreeMap.mem_toList_iff_getElem?_eq_some, hlist]
        exact List.mem_cons_self
      rw [hlist, List.mapM_cons] at hreleased
      obtain ⟨events,hevents,hrest⟩ := bind_ok_iff.mp hreleased
      obtain ⟨groups,_,hgroups⟩ := bind_ok_iff.mp hrest
      rw [pure_eq_ok_iff] at hgroups
      rw [← hgroups, List.flatten_cons, List.append_assoc]
      exact replay_releaseSnapshot_full (h.1.continues rfl h.2).replaying hsize
        (hs.tombstoneOk hentry).1 hevents _

end Steps

end KernAid.RepairStore
