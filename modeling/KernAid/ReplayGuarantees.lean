import KernAid.ReplayInvariant

/-! What the invariant of replay says to a reader of the store. -/

set_option autoImplicit false

namespace KernAid.RepairStore

open Encoding CrashLogic Protocol

/-! One repair of `/etc/fstab`, from its draft to the durable backup. -/

namespace Sample

/-- The SHA-256 digests of the messages below, by length and byte sum. -/
def digestTable : List (Nat × Nat × Nat) :=
  [(6,538,0x58b7151c2f9f498f0d00fe5f96b07a934854154c013d71ad5c624117f27dcd4a),
   (86,2320,0x8508c4fedceebcdad4a94ae0045aaff003ffa494058cca2d844e6b2e281181d8),
   (86,2284,0x733d1df756580ff4d634e864169c3ba5ba3cbc55260f1d127f53f7cde2827903),
   (161,11256,0xf28c10b794764fc2594540cb5569c2cf6d001e2b1d5619b5c7fece7926eb9b52),
   (177,12921,0xbf5a9a566d0276660cd62d1c95ec160c7b290adbecd15bfd33bb880c1e06d088),
   (288,15262,0x6e2d5090164dcb1aec22216723e82da8712a84fbee6858394a68fca805cf1552),
   (288,14538,0xc807fa2c2c394c492b3f7b4f72795b21469ca647d7c49605e2a1e591c3d9cb46),
   (293,15854,0xcffe68b35963aa39798403a131cdec26a5362438296623d7919c0a9bf3c331bf),
   (309,25509,0x09260a80cb7f628233c6f8f601e712c7dce54c04e0518c6974b0f73b058f6e16),
   (309,26329,0xf69584de11db663e9888d45a4d7a70e58b0976af1d3430912530ffd8b25af318),
   (317,26100,0xe9c5a05f924cd304e61f92ebac81f909a11d30af2c8aa1f26bf4b8d9b40130e0),
   (317,26293,0x8826827b2125fafd378e9d7813eb40cb383f5ef6747604808b53ceb596fd3a29),
   (629,53225,0x8bb94ed3c1f2d4c0c382bbf5c38f6ec14c2e572d2ae775e872cd9a6bbad0b36f),
   (629,53333,0xd6bc736144179e4335df52a59a2484aee477d4326aa811d6885c935ada7b79b4),
   (634,39945,0xbc64a0fb10c081b01514f24438c2307d88fab799930f58b9eb4faf8effe50546),
   (639,40537,0x1964196dc8e191d9bdf11b8a81fc865aa134752a43fa0cf58b43a26c6d289d2e)]

scoped instance sampleHasher : Sha256Hasher where
  finalize message :=
    let sum := (message.map UInt8.toNat).sum
    let digest := (digestTable.find? fun entry =>
      entry.1 == message.length && entry.2.1 == sum).map fun entry => entry.2.2
    ⟨(toBeBytes 32 (digest.getD sum)).toArray,by simp [toBeBytes]⟩

def sha (b : UInt8) : Sha256 := .ofBytes (Vector.replicate 32 b)

def content : List UInt8 := asBytes "fstab\n"

def contentSha256 : Sha256 := .ofBytes (Sha256Hasher.finalize content)

def recovery : String := "recovery:" ++ (sha 0x22).asStr

def metadata (mode : UInt32) : RepairFileMetadataV1 := ⟨mode,0,0,.none,.none⟩

def intent (resource : RepairResourceV1) (mode : UInt32) : RepairExecutionIntentV1 :=
  ⟨resource.actionId,"S-1",1,"disk-1","scan:" ++ (sha 0x33).asStr,sha 0x11,sha 0x44,recovery,
    canonicalRepairLockIdentityForResource recovery resource,contentSha256,sha 0x55,sha 0x66,sha 0x77,
    metadata mode⟩

def binding (resource : RepairResourceV1) (mode : UInt32) (approval : UInt8) : RepairBackupBinding :=
  ⟨"P-1",sha 0xa1,"A-1",sha approval,resource.resourceId,contentSha256,intent resource mode⟩

def draft (mode : UInt32) : Protocol.RepairBackupDraft :=
  ⟨"S-1","disk-1",sha 0x11,recovery,contentSha256,(metadata mode).canonicalSha256,6,8⟩

def vaultId : String := "V-0123456789abcdef0123456789abcdef"

def record (mode : UInt32) : ReservationRecord :=
  ⟨toStoreDraft (draft mode),reservationBinding (toStoreDraft (draft mode)),8,vaultId,(sha 0x88).asStr,
    (sha 0x99).asStr,.reserved⟩

def reservationId : ReservationId := ⟨"B-0123456789abcdef0123456789abcdef",by decide⟩

def journal : List RepairEvent :=
  [.reserveIntent reservationId (record 0o644).draft (record 0o644).reservationBindingSha256 8 vaultId
      (sha 0x88).asStr (sha 0x99).asStr,
   .reserveComplete reservationId,
   .persistIntent reservationId (toStoreBinding (binding .fstab 0o644 0xa2)),
   .persistComplete reservationId contentSha256.asStr 6]

theorem replay_journal_settles : ((replay journal).toOption.any fun s =>
    s.pending.isNone && s.compactionReplay.isNone && s.compactionGeneration == 0 &&
      s.reservations.size == 1) = true := by
  decide +kernel

theorem replay_journal : ∃ s, replay journal = .ok s ∧ s.pending = none ∧ s.compactionReplay = none ∧
    s.compactionGeneration = 0 ∧ s.reservations.size = 1 := by
  have hsettles := replay_journal_settles
  cases h : replay journal with
  | ok s => exact ⟨s,rfl,by simpa [h, Except.toOption, and_assoc] using hsettles⟩
  | error e => simp [h, Except.toOption] at hsettles

end Sample

section Law

variable [Sha256Hasher]

def RecoveredState.waitsAt (s : RecoveredState) (id : ReservationId) : Bool :=
  (s.reservations[id]?.any fun record => !record.phase.isSettled) ||
    s.transactions[id]?.any RepairTransactionRecord.hasPending

/-- The open work of the store: a transaction on the left, a rollback child on the right. -/
def RecoveredState.isOpen (s : RecoveredState) : ReservationId ⊕ ReservationId → Bool
  | .inl id => s.transactions[id]?.any RepairTransactionRecord.isUnresolved
  | .inr id => s.transactions[id]?.any RepairTransactionRecord.hasUnresolvedRollback

variable {s : RecoveredState}

theorem Inv.released_of_mem {id : ReservationId} (hinv : Inv s) (h : id ∈ s.reservations) :
    id ∉ s.released ∧ id ∈ s.seenReservationIds := by
  have hcell := hinv.cells id
  generalize hc : s.cell id = c at hcell
  rw [← Std.ExtTreeSet.contains_iff_mem]
  rw [Std.ExtTreeMap.mem_iff_isSome_getElem?] at h ⊢
  cases hcell <;> simp_all [RecoveredState.cell]

theorem Inv.seen_of_released {id : ReservationId} (hinv : Inv s) (h : id ∈ s.released) :
    id ∈ s.seenReservationIds := by
  have hcell := hinv.cells id
  generalize hc : s.cell id = c at hcell
  rw [← Std.ExtTreeSet.contains_iff_mem]
  rw [Std.ExtTreeMap.mem_iff_isSome_getElem?] at h
  cases hcell <;> simp_all [RecoveredState.cell]

theorem CellOk.pending_eq {id : ReservationId} {c : Cell} (h : CellOk id c) :
    c.pending = ((c.record.any fun record => !record.phase.isSettled) ||
      c.transaction.any RepairTransactionRecord.hasPending) := by
  cases h <;> simp_all [ReservationPhase.isSettled]

theorem CellOk.unresolved_eq {id : ReservationId} {c : Cell} (h : CellOk id c) :
    c.unresolved = c.transaction.any RepairTransactionRecord.isUnresolved ∧
      c.unresolvedRollback = c.transaction.any RepairTransactionRecord.hasUnresolvedRollback := by
  cases h <;> simp_all

theorem Inv.pending_iff (hinv : Inv s) (id : ReservationId) :
    s.pending = some id ↔ s.waitsAt id = true := by
  rw [← beq_iff_eq]
  exact Bool.eq_iff_iff.mp (hinv.cells id).pending_eq

theorem Inv.unresolvedTransaction_iff (hinv : Inv s) (id : ReservationId) :
    s.unresolvedTransaction = some id ↔ s.isOpen (.inl id) = true := by
  rw [← beq_iff_eq]
  exact Bool.eq_iff_iff.mp (hinv.cells id).unresolved_eq.1

theorem Inv.unresolvedRollback_iff (hinv : Inv s) (id : ReservationId) :
    s.unresolvedRollback = some id ↔ s.isOpen (.inr id) = true := by
  rw [← beq_iff_eq]
  exact Bool.eq_iff_iff.mp (hinv.cells id).unresolved_eq.2

theorem Inv.isOpen_unique (hinv : Inv s) {p q : ReservationId ⊕ ReservationId}
    (hp : s.isOpen p = true) (hq : s.isOpen q = true) : p = q := by
  rcases p with i | i <;> rcases q with j | j <;>
    simp only [← hinv.unresolvedTransaction_iff, ← hinv.unresolvedRollback_iff] at hp hq <;>
    rcases hinv.oneUnresolved with h | h <;> simp_all

theorem Inv.transaction_iff (hinv : Inv s) (hpending : s.pending = none) (id : ReservationId) :
    id ∈ s.transactions ↔ ∃ record b, s.reservations[id]? = some record ∧ record.phase = .durable b := by
  have hcell := hinv.cells id
  generalize hc : s.cell id = c at hcell
  rw [Std.ExtTreeMap.mem_iff_isSome_getElem?]
  cases hcell <;> simp_all [RecoveredState.cell]

theorem Inv.committed_of_rollback (hinv : Inv s) (hpending : s.pending = none) {id : ReservationId}
    {t : RepairTransactionRecord} (ht : s.transactions[id]? = some t) (hr : t.rollback.isSome = true) :
    t.resolution.map RepairTransactionResolution.outcome = some .committedAfter := by
  obtain ⟨record,b,hrecord,hphase⟩ :=
    (hinv.transaction_iff hpending id).mp (Std.ExtTreeMap.mem_iff_isSome_getElem?.mpr (by simp [ht]))
  obtain ⟨rollback,hrollback⟩ := Option.isSome_iff_exists.mp hr
  have hbinding : record.phase.durableBinding = some b := by rw [hphase]; rfl
  exact ((hinv.durableAt hrecord hbinding ht).transactionOk.rollback rollback hrollback).committed

/-- Every accepted journal leads to a lawful state. The law also holds inside the replay of a
compaction snapshot. -/
theorem accepted_journal_state_is_lawful {journal : List RepairEvent}
    (h : replay journal = .ok s) :
    s.reservations.size ≤ 64 ∧
      (∀ id, id ∈ s.reservations → id ∉ s.released) ∧
      (∀ id, id ∈ s.reservations ∨ id ∈ s.released → id ∈ s.seenReservationIds) ∧
      ((∃ id, s.pending = some id) ↔ ∃! id, s.waitsAt id = true) ∧
      (∀ id, s.pending = some id ↔ s.waitsAt id = true) ∧
      (s.pending = none →
        transactionsAreConsistent s = true ∧
        (∀ id, id ∈ s.transactions ↔
          ∃ record b, s.reservations[id]? = some record ∧ record.phase = .durable b) ∧
        (∀ p q, s.isOpen p = true → s.isOpen q = true → p = q) ∧
        (∀ id, s.unresolvedTransaction = some id ↔ s.isOpen (.inl id) = true) ∧
        (∀ id, s.unresolvedRollback = some id ↔ s.isOpen (.inr id) = true) ∧
        ∀ (id : ReservationId) t, s.transactions[id]? = some t → t.rollback.isSome = true →
          t.resolution.map RepairTransactionResolution.outcome = some .committedAfter) := by
  have hinv := replay_inv h
  refine ⟨hinv.size,fun id hid => (hinv.released_of_mem hid).1,?_,?_,hinv.pending_iff,fun hp => ?_⟩
  · rintro id (hid | hid)
    · exact (hinv.released_of_mem hid).2
    · exact hinv.seen_of_released hid
  · constructor
    · rintro ⟨id,hid⟩
      refine ⟨id,(hinv.pending_iff id).mp hid,fun j hj => ?_⟩
      exact Option.some.inj (((hinv.pending_iff j).mpr hj).symm.trans hid)
    · rintro ⟨id,hid,_⟩
      exact ⟨id,(hinv.pending_iff id).mpr hid⟩
  · exact ⟨hinv.transactionsAreConsistent hp,hinv.transaction_iff hp,fun _ _ => hinv.isOpen_unique,
      hinv.unresolvedTransaction_iff,hinv.unresolvedRollback_iff,
      fun _ _ ht hr => hinv.committed_of_rollback hp ht hr⟩

end Law

open Sample in
theorem accepted_journal_state_is_lawful_fstab : ∃ s, replay Sample.journal = .ok s ∧
    s.reservations.size ≤ 64 ∧ (s.pending = none → transactionsAreConsistent s = true) := by
  obtain ⟨s,hs,_⟩ := Sample.replay_journal
  have h := accepted_journal_state_is_lawful hs
  exact ⟨s,hs,h.1,fun hp => (h.2.2.2.2.2 hp).1⟩

section Agreement

variable [Sha256Hasher]

omit [Sha256Hasher] in
theorem validExecutionIntent_newForResource {resource : RepairResourceV1} {sessionId : String}
    {approvalSequence : Nat} {targetId scan : String} {target parent : Sha256}
    {recovery lock : String} {before after diff uuids : Sha256} {m : RepairFileMetadataV1}
    {i : RepairExecutionIntentV1}
    (h : RepairExecutionIntentV1.newForResource resource sessionId approvalSequence targetId scan target
      parent recovery lock before after diff uuids m = some i) :
    validExecutionIntent i = true ↔ resource ≠ .resolverLink := by
  simp only [RepairExecutionIntentV1.newForResource, Option.ite_none_right_eq_some,
    Option.some.injEq] at h
  obtain ⟨hvalid,rfl⟩ := h
  rw [validExecutionIntent_iff, and_iff_right hvalid]
  exact not_congr ⟨RepairResourceV1.actionId_injective,fun heq => heq ▸ rfl⟩

/-- Every durable record of a replayed journal converts into payloads that the protocol accepts. -/
theorem durable_record_converts {journal : List RepairEvent} {s : RecoveredState} {id : ReservationId}
    {record : ReservationRecord} {b : RepairBinding} (h : replay journal = .ok s)
    (hrecord : s.reservations[id]? = some record) (hphase : record.phase = .durable b) :
    ∃ backup t status, protocolBackupStatusFromRecord id record = .ok backup ∧
      backup.validate = true ∧ s.transactions[id]? = some t ∧
      protocolTransactionStatusFromRecord id record t = .ok status ∧ status.validate = true := by
  obtain ⟨hok,hbinding,t,ht,hcell⟩ := ((replay_inv h).cells id).of_durable hrecord hphase
  have hstored : record.phase.storedBinding = some b := by rw [hphase]; rfl
  obtain ⟨backup,hbackup,hof⟩ := protocolBackupStatus_of_accepted hok hstored hbinding
  obtain ⟨status,hstatus,hstatusOf⟩ := ht.status hok hstored hbinding
  exact ⟨backup,t,status,hbackup,hof.valid,congrArg Cell.transaction hcell,hstatus,hstatusOf.valid⟩

/-- The store accepts a protocol binding for a matching reservation exactly when it does not name
the resolver link and carries non-zero plan and approval digests; in the other direction every
durable record of the store is a value of the protocol. -/
theorem repair_bindings_agree :
    (∀ resource sessionId approvalSequence targetId scan target parent recovery lock before after diff
        uuids m i, RepairExecutionIntentV1.newForResource resource sessionId approvalSequence targetId
          scan target parent recovery lock before after diff uuids m = some i →
        (validExecutionIntent i = true ↔ resource ≠ .resolverLink)) ∧
      (∀ (b : RepairBackupBinding) (d : Protocol.RepairBackupDraft) (vaultParent : Sha256)
          (record : ReservationRecord), b.validate = true → MatchesDraft b d vaultParent →
        RecordOk record → record.draft = toStoreDraft d →
        record.physicalParentFingerprint = vaultParent.asStr →
        ((toStoreBinding b).validateForRecord record = true ↔
          b.resourceId ≠ RepairResourceV1.resolverLink.resourceId ∧
            b.planSha256.bytes ≠ zero32 ∧ b.approvalSha256.bytes ≠ zero32)) ∧
      ∀ (journal : List RepairEvent) (s : RecoveredState) (id : ReservationId)
          (record : ReservationRecord) (b : RepairBinding), replay journal = .ok s →
        s.reservations[id]? = some record → record.phase = .durable b →
        ∃ backup t status, protocolBackupStatusFromRecord id record = .ok backup ∧
          backup.validate = true ∧ s.transactions[id]? = some t ∧
          protocolTransactionStatusFromRecord id record t = .ok status ∧ status.validate = true := by
  refine ⟨?_,?_,?_⟩
  · intro resource sessionId approvalSequence targetId scan target parent recovery lock before after
      diff uuids m i h
    exact validExecutionIntent_newForResource h
  · intro b d vaultParent record hb hmatch hrecord hdraft hparent
    exact validateForRecord_iff_of_matches hb hmatch hdraft hrecord.draft hparent
  · intro journal s id record b h hrecord hphase
    exact durable_record_converts h hrecord hphase

end Agreement

namespace Sample

theorem checks : sha 0x44 ≠ sha 0x99 ∧
    ((record 0o644).draft.validate = true ∧ (record 0o600).draft.validate = true) ∧
    (validStoreVaultId vaultId = true ∧ validSha256 (sha 0x88).asStr = true ∧
      validSha256 (sha 0x99).asStr = true) ∧
    ((binding .resolverLink 0o600 0xa2).validate = true ∧ (binding .fstab 0o644 0).validate = true ∧
      (binding .fstab 0o644 0xa2).validate = true) ∧
    (toStoreBinding (binding .resolverLink 0o600 0xa2)).validateForRecord (record 0o600) = false ∧
    (toStoreBinding (binding .fstab 0o644 0)).validateForRecord (record 0o644) = false := by
  decide +kernel

theorem matchesDraft {resource : RepairResourceV1} (mode : UInt32) (approval : UInt8) :
    MatchesDraft (binding resource mode approval) (draft mode) (sha 0x99) :=
  ⟨rfl,rfl,rfl,rfl,rfl,rfl,checks.1⟩

theorem recordOk_file : RecordOk (record 0o644) :=
  have h := checks.2.2.1
  ⟨checks.2.1.1,rfl,rfl,h.1,h.2.1,h.2.2⟩

theorem recordOk_link : RecordOk (record 0o600) :=
  have h := checks.2.2.1
  ⟨checks.2.1.2,rfl,rfl,h.1,h.2.1,h.2.2⟩

end Sample

open Sample in
/-- A resolver-link binding and a binding with a zero approval digest are both values of the
protocol that the store refuses. -/
theorem store_refuses_protocol_bindings :
    (binding .resolverLink 0o600 0xa2).validate = true ∧
      MatchesDraft (binding .resolverLink 0o600 0xa2) (draft 0o600) (sha 0x99) ∧
      RecordOk (record 0o600) ∧
      (toStoreBinding (binding .resolverLink 0o600 0xa2)).validateForRecord (record 0o600) = false ∧
      (binding .fstab 0o644 0).validate = true ∧
      MatchesDraft (binding .fstab 0o644 0) (draft 0o644) (sha 0x99) ∧ RecordOk (record 0o644) ∧
      (toStoreBinding (binding .fstab 0o644 0)).validateForRecord (record 0o644) = false :=
  have h := checks.2.2.2
  ⟨h.1.1,matchesDraft 0o600 0xa2,recordOk_link,h.2.1,h.1.2.1,matchesDraft 0o644 0,recordOk_file,h.2.2⟩

open Sample in
theorem repair_bindings_agree_fstab :
    ((toStoreBinding (binding .fstab 0o644 0xa2)).validateForRecord (record 0o644) = true ↔
      RepairResourceV1.fstab.resourceId ≠ RepairResourceV1.resolverLink.resourceId ∧
        (sha 0xa1).bytes ≠ zero32 ∧ (sha 0xa2).bytes ≠ zero32) ∧
      ∃ s, replay Sample.journal = .ok s ∧ ∀ record b, s.reservations[reservationId]? = some record →
        record.phase = .durable b → ∃ backup,
          protocolBackupStatusFromRecord reservationId record = .ok backup ∧
            backup.validate = true := by
  obtain ⟨s,hs,_⟩ := Sample.replay_journal
  refine ⟨repair_bindings_agree.2.1 _ (draft 0o644) (sha 0x99) _ checks.2.2.2.1.2.2
    (matchesDraft 0o644 0xa2) recordOk_file rfl rfl,s,hs,fun record b hrecord hphase => ?_⟩
  obtain ⟨backup,_,_,hbackup,hvalid,_⟩ :=
    repair_bindings_agree.2.2 _ s reservationId record b hs hrecord hphase
  exact ⟨backup,hbackup,hvalid⟩

end KernAid.RepairStore
