import KernAid.StoreInvariant

/-! The steps that the operations of the store share, and how an operation is put together from them. -/

set_option autoImplicit false

namespace KernAid.RepairStore

open Encoding CrashLogic Protocol Program

/-! Rules for the primitive steps. -/

section Rules

variable {α β : Type} {during : StorageStep → World → Prop} {w : World}

variable {post : Except RepairVaultStoreError β → World → Prop}

theorem wp_query {f : World → Except RepairVaultStoreError α}
    {post : Except RepairVaultStoreError α → World → Prop} :
    wp (query f) during post w ↔ post (f w) w := by
  simp [wp, query]

theorem wp_query_bind {f : World → Except RepairVaultStoreError α} {g : α → Operation β} {a : α}
    (h : f w = .ok a) :
    wp (query f >>= g) during post w ↔ wp (g a) during post w := by
  rw [wp_bind, wp_query, h, andThen_ok]

theorem wp_step {a : StorageStep} {post : Except RepairVaultStoreError Unit → World → Prop} :
    wp (step a) during post w ↔
      during a w ∧ post (.ok ()) { w with disk := w.disk.perform a } :=
  wp_act

theorem wp_step_bind {a : StorageStep} {g : Unit → Operation β} :
    wp (step a >>= g) during post w ↔
      during a w ∧ wp (g ()) during post { w with disk := w.disk.perform a } := by
  rw [wp_bind, wp_step, andThen_ok]

theorem wp_updateStore {f : RepairVaultStore → RepairVaultStore}
    {post : Except RepairVaultStoreError Unit → World → Prop} :
    wp (updateStore f) during post w ↔ post (.ok ()) { w with store := f w.store } :=
  wp_update

theorem wp_read_bind {g : World → Operation β} :
    wp (Program.read >>= g) during post w ↔ wp (g w) during post w := by
  rw [wp_bind, wp_read, andThen_ok]

def World.poisoned (w : World) : World := { w with store := { w.store with healthy := false } }

theorem wp_poisoning {m : Operation α} {post : Except RepairVaultStoreError α → World → Prop} :
    wp (poisoning m) during post w ↔ wp m during (fun r t =>
      (∀ a, r = .ok a → post (.ok a) t) ∧ ∀ e, r = .error e → post (.error e) t.poisoned) w := by
  rw [poisoning, wp_bind, wp_attempt]
  refine ⟨fun h => wp_mono h (fun _ _ hd => hd) ?_,fun h => wp_mono h (fun _ _ hd => hd) ?_⟩
  · intro r t h
    cases r with
    | ok a => exact ⟨fun _ ha => Except.ok.inj ha ▸ wp_pure.mp h,fun _ he => by cases he⟩
    | error e =>
      rw [andThen_ok, wp_bind, wp_updateStore, andThen_ok, wp_fail] at h
      exact ⟨fun _ ha => (by cases ha),fun _ he => Except.error.inj he ▸ h⟩
  · intro r t h
    cases r with
    | ok a => exact wp_pure.mpr (h.1 a rfl)
    | error e =>
      rw [andThen_ok, wp_bind, wp_updateStore, andThen_ok, wp_fail]
      exact h.2 e rfl

end Rules

variable [Sha256Hasher]

def Disk.settled (d : Disk) : Prop := ∀ id, d.synced id

def Disk.bricked (d : Disk) : Prop := ∀ s, replay d.journal ≠ .ok s

/-- What an operation leaves behind. -/
inductive SessionOk (vault : VaultIdentity) (w : World) : Prop
  | live (hlive : Live vault w) (hsettled : w.disk.settled)
  | bricked (hhealthy : w.store.healthy = false) (hbricked : w.disk.bricked)

/-! The append of an event. -/

section Append

variable {vault : VaultIdentity} {excused : Prop} {w : World} {event : RepairEvent} {s : RecoveredState}
  {during : StorageStep → World → Prop} {post : Except RepairVaultStoreError Unit → World → Prop}

def World.appended (w : World) (event : RepairEvent) (s : RecoveredState) : World where
  disk := w.disk.perform (.append event)
  store := { w.store with state := s, eventCount := w.store.eventCount + 1 }

/-- The append of an event, in a session that mirrors the vault: the event is applied, or the
session ends, with the event in the journal at most. -/
theorem wp_appendEvent (h : Live vault w) (hcontrol : event.isControl = false)
    (hroom : w.disk.journal.length < maxJournalEvents) (hduring : during (.append event) w)
    (haccepted : ∀ s, applyRepairEvent w.store.state event (w.disk.journal.length + 1) = .ok s →
      post (.ok ()) (w.appended event s))
    (hrejected : (∀ s, applyRepairEvent w.store.state event (w.disk.journal.length + 1) ≠ .ok s) →
      ∀ e t, t = w ∨ t.store.healthy = false ∧ t.disk.bricked → post (.error e) t) :
    wp (appendEvent event) during post w := by
  have hcount : w.store.eventCount < maxJournalEvents := h.count ▸ hroom
  have hlength : (w.disk.perform (.append event)).journal.length = w.disk.journal.length + 1 := by
    simp [Disk.perform]
  rw [appendEvent, wp_query_bind (a := ()) (require_eq_ok.mpr hcount)]
  by_cases hsize : event.encode.length ≤ maxEventBytes
  · rw [wp_query_bind (a := ()) (require_eq_ok.mpr hsize), wp_step_bind, wp_read_bind]
    refine ⟨hduring,?_⟩
    simp only [hlength]
    cases happly : applyRepairEvent w.store.state event (w.disk.journal.length + 1) with
    | ok s => exact wp_updateStore.mpr (haccepted s happly)
    | error e =>
      rw [wp_bind, wp_updateStore, andThen_ok, wp_fail]
      refine hrejected (fun s hs => by rw [happly] at hs; cases hs) _ _ (.inr ⟨rfl,?_⟩)
      intro s hs
      rw [replay, Disk.perform, replayFrom_append, show replayFrom {} 0 w.disk.journal =
        .ok w.store.state from h.journal.replayed, ok_bind, replayFrom, Nat.zero_add, happly] at hs
      cases hs
  · rw [wp_bind, wp_query, CrashLogic.require, if_neg hsize]
    refine hrejected (fun s hs => hsize ?_) _ _ (.inl rfl)
    obtain ⟨hclock,hdispatch⟩ := (applyRepairEvent_live_iff h.journal.live hcontrol).mp hs
    have hticked : CountersFit w.store.state.tick :=
      ⟨hclock,h.journal.fits.generation,h.journal.fits.replaying⟩
    exact encode_le_of_applied h.journal.inv
      (countersFit_of_accepted hticked (by simp [hcontrol]) hdispatch) hs

theorem Live.appended (h : Live vault w) (hcontrol : event.isControl = false)
    (happly : applyRepairEvent w.store.state event (w.disk.journal.length + 1) = .ok s)
    (hroom : w.disk.journal.length < maxJournalEvents)
    (hpending : s.pending.isSome = true → w.disk.journal.length + 1 < maxJournalEvents)
    (hreserves : ∀ id record, event.reserves = some (id,record) →
      vault.owns record ∧ ∀ j, w.store.state.bindingAt j ≠ some record.reservationBindingSha256)
    (hfiles : FilesOk w.disk s) : Live vault (w.appended event s) where
  attested := h.attested
  journal := h.journal.append hcontrol happly hroom hpending hreserves
  count := by simp [World.appended, Disk.perform, h.count]
  files id := (hfiles id).mono (fun _ => rfl) (fun hsynced => hsynced)

end Append

/-- The state of `s` after compactions. -/
inductive Compactions (s : RecoveredState) : RecoveredState → Prop
  | refl : Compactions s s
  | compact {s' s'' : RecoveredState} {anchor : JournalAnchor} {events : List RepairEvent}
      (h : Compactions s s') (hcompact : compactJournalUntil s' anchor = .ok (events,s'')) :
      Compactions s s''

structure Settled (vault : VaultIdentity) (w : World) : Prop where
  live : Live vault w
  settled : w.disk.settled
  idle : w.store.state.pending = none

/-- A session in which an operation that began in `s` has changed nothing yet. -/
structure Rested (vault : VaultIdentity) (s : RecoveredState) (w : World) : Prop extends
    Settled vault w where
  compactions : Compactions s w.store.state

def StorageStep.mayChange : StorageStep → ReservationPhase → Bool
  | .create _, .reservePending | .create _, .persistPending _ => true
  | .allocate _ _, .reservePending | .allocate _ _, .persistPending _ => true
  | .write _ _, .persistPending _ | .truncate _, .persistPending _ => true
  | .unlink _, .reservePending | .unlink _, .cancelPending | .unlink _, .retirePending _ _ => true
  | _, _ => false

variable [JournalChain]

/-- The steps that keep the vault in order. An event that replay rejects needs an excuse. -/
def StepAllowed (excused : Prop) (w : World) : StorageStep → Prop
  | .append event => event.isControl = false ∧ w.disk.journal.length < maxJournalEvents ∧
      ((∃ s, applyRepairEvent w.store.state event (w.disk.journal.length + 1) = .ok s) ∨ excused)
  | .compact events => ∃ s,
      compactJournalUntil w.store.state (JournalChain.head w.disk.journal) = .ok (events,s)
  | .sync _ | .syncDirectory => True
  | a => ∀ id ∈ a.target, ∃ record,
      w.store.state.reservations[id]? = some record ∧ a.mayChange record.phase = true

structure StepOk (vault : VaultIdentity) (excused : Prop) (a : StorageStep) (w : World) : Prop where
  live : Live vault w
  allowed : StepAllowed excused w a

/-- A step made while `s` holds the intent of the operation. -/
abbrev StepIn (vault : VaultIdentity) (excused : Prop) (s : RecoveredState) (a : StorageStep)
    (w : World) : Prop :=
  StepOk vault excused a w ∧ w.store.state = s

/-! The capacity of the journal. -/

section Capacity

variable {vault : VaultIdentity} {excused : Prop} {s s' : RecoveredState} {w w' : World}
  {events : List RepairEvent} {post : Except RepairVaultStoreError Unit → World → Prop}

def World.compactedTo (w : World) (events : List RepairEvent) (s : RecoveredState) : World where
  disk := w.disk.perform (.compact events)
  store := { w.store with state := s, eventCount := events.length }

/-- The session in which an operation goes on after it has asked for room in the journal. -/
inductive Prepared (w : World) : World → Prop
  | same : Prepared w w
  | compacted {events : List RepairEvent} {s : RecoveredState} {anchor : JournalAnchor}
      (h : compactJournalUntil w.store.state anchor = .ok (events,s)) :
      Prepared w (w.compactedTo events s)

omit [JournalChain] in
theorem Rested.compactedTo {anchor : JournalAnchor} (h : Rested vault s w)
    (hcompact : compactJournalUntil w.store.state anchor = .ok (events,s')) :
    Rested vault s (w.compactedTo events s') := by
  obtain ⟨hpending,_,_,_,_,_,hs'⟩ := compactJournalUntil_eq_ok hcompact
  refine ⟨⟨⟨h.live.attested,h.live.journal.compact hcompact,rfl,fun id => ?_⟩,h.settled,?_⟩,
    .compact h.compactions hcompact⟩
  · have hfile : FileOk w.disk id s'.reservations[id]? := by
      rw [hs']
      exact h.live.files id
    exact hfile.mono (fun _ => rfl) (fun hsynced => hsynced)
  · rw [World.compactedTo, hs']
    exact hpending

omit [JournalChain] in
theorem Rested.poisoned (h : Rested vault s w) : Rested vault s w.poisoned :=
  ⟨⟨⟨h.live.attested,h.live.journal,h.live.count,h.live.files⟩,h.settled,h.idle⟩,h.compactions⟩

theorem wp_compactJournal (h : Rested vault s w)
    (hcompacted : ∀ events s', compactJournalUntil w.store.state (JournalChain.head w.disk.journal) =
      .ok (events,s') → post (.ok ()) (w.compactedTo events s'))
    (hfailed : ∀ e, e ≠ .insufficientCapacity → post (.error e) w.poisoned) :
    wp compactJournal (fun a v => StepOk vault excused a v ∧ Rested vault s v) post w := by
  rw [compactJournal, wp_poisoning, wp_bind, wp_query]
  by_cases hmutable : w.store.healthy = true ∧ w.store.state.pending = none ∧
      w.store.state.compactionReplay = none
  · rw [CrashLogic.require, if_pos hmutable, andThen_ok,
      wp_query_bind (h.live.validateLayout h.idle), wp_bind, wp_query]
    cases hcompact : compactJournalUntil w.store.state (JournalChain.head w.disk.journal) with
    | error e =>
      exact ⟨fun _ ha => (by cases ha),fun e' he => Except.error.inj he ▸
        hfailed e (compactJournalUntil_error h.live.journal.inv h.idle hcompact)⟩
    | ok result =>
      obtain ⟨events,s'⟩ := result
      have hrested := h.compactedTo hcompact
      rw [andThen_ok, wp_step_bind, wp_bind, wp_updateStore, andThen_ok, wp_query]
      refine ⟨⟨⟨h.live,s',hcompact⟩,h⟩,?_⟩
      have hlayout := hrested.live.validateLayout hrested.idle
      exact ⟨fun _ _ => hcompacted events s' hcompact,fun _ he => by cases hlayout.symm.trans he⟩
  · rw [CrashLogic.require, if_neg hmutable]
    exact ⟨fun _ ha => (by cases ha),fun e' he => Except.error.inj he ▸ hfailed _ (by decide)⟩

theorem wp_requireEventCapacity {required : Nat} (h : Rested vault s w) (hfew : required ≤ 2)
    (hready : ∀ w', Prepared w w' → Rested vault s w' →
      w'.disk.journal.length + required ≤ maxJournalEvents → post (.ok ()) w')
    (hfailed : ∀ e, e ≠ .insufficientCapacity → post (.error e) w.poisoned) :
    wp (requireEventCapacity required) (fun a v => StepOk vault excused a v ∧ Rested vault s v)
      post w := by
  have hlimit : journalCompactionTriggerEvents + 2 ≤ maxJournalEvents := by decide
  rw [requireEventCapacity, wp_read_bind]
  by_cases hdue : w.store.compactionDue required = true
  · rw [if_pos hdue, wp_bind]
    refine wp_compactJournal h (fun events s' hcompact => ?_) hfailed
    obtain ⟨_,_,_,hlength,_⟩ := compactJournalUntil_eq_ok hcompact
    have hroom : events.length + required ≤ maxJournalEvents := by omega
    rw [andThen_ok, wp_query]
    simp only [World.compactedTo, CrashLogic.require, hroom, if_true]
    exact hready _ (.compacted hcompact) (h.compactedTo hcompact) hroom
  · have hroom : w.store.eventCount + required ≤ maxJournalEvents := by
      simp only [RepairVaultStore.compactionDue, Bool.or_eq_true, decide_eq_true_eq, not_or] at hdue
      omega
    rw [if_neg hdue, wp_query, CrashLogic.require, if_pos hroom]
    exact hready w .same h (h.live.count ▸ hroom)

end Capacity

/-! The shape of a whole operation. -/

section Trace

variable {vault : VaultIdentity} {excused : Prop} {s s₁ s₂ : RecoveredState} {w : World} {α β : Type}
  {event : RepairEvent}

def ReservationRecord.completion (record : ReservationRecord) (id : ReservationId) : Option RepairEvent :=
  match record.phase with
  | .reservePending => some (.reserveComplete id)
  | .persistPending _ => some (.persistComplete id
      (encodeHex record.draft.expectedBackupSha256.toList) record.draft.backupSizeBytes)
  | .cancelPending => some (.cancelComplete id none)
  | .retirePending _ _ => some (.retireComplete id none)
  | .reserved | .durable _ => none

def RecoveredState.completion (s : RecoveredState) : Option RepairEvent := do
  let id ← s.pending
  match s.transactions[id]?.bind RepairTransactionRecord.pendingResolution with
  | some pending => some (.transactionResolveComplete id pending.transactionBindingSha256)
  | none =>
    match s.transactions[id]?.bind pendingRollbackResolution with
    | some (rollbackId,digest) => some (.rollbackResolveComplete id rollbackId digest)
    | none => do
      let record ← s.reservations[id]?
      record.completion id

/-- `s'` is `s` with its pending operation finished. -/
def RecoveredState.completesTo (s s' : RecoveredState) : Prop :=
  ∃ event n, s.completion = some event ∧ applyRepairEvent s event n = .ok s'

/-- The runs of an operation that begins in the state `s`: it changes nothing, it records one event,
or it records an intent and finishes it. -/
inductive OpTrace (vault : VaultIdentity) (excused : Prop) (s : RecoveredState)
    (o : Outcome StorageStep World RepairVaultStoreError α) : Prop
  | quiet (hvisits : ∀ v ∈ o.visits, StepOk vault excused v.1 v.2 ∧ Rested vault s v.2)
      (hfinal : Rested vault s o.final)
  | single {base : World} {event : RepairEvent} {n : Nat}
      (hvisits : ∀ v ∈ o.visits, StepOk vault excused v.1 v.2 ∧ Rested vault s v.2)
      (hbase : Rested vault s base)
      (happly : applyRepairEvent base.store.state event n = .ok o.final.store.state)
      (hfinal : Settled vault o.final)
  | atomic {base : World} {intent : RepairEvent} {n : Nat} {s₁ : RecoveredState}
      (hvisits : ∀ v ∈ o.visits, StepOk vault excused v.1 v.2 ∧
        (Rested vault s v.2 ∨ v.2.store.state = s₁))
      (hbase : Rested vault s base) (hintent : applyRepairEvent base.store.state intent n = .ok s₁)
      (hpending : s₁.pending.isSome = true) (hcompletes : s₁.completesTo o.final.store.state)
      (hfinal : Settled vault o.final)
  | excused (hexcused : excused) (hvisits : ∀ v ∈ o.visits, StepOk vault excused v.1 v.2)
      (hfinal : SessionOk vault o.final)

theorem OpTrace.prepend {visits : List (StorageStep × World)}
    {o : Outcome StorageStep World RepairVaultStoreError α} (h : OpTrace vault excused s o)
    (hbefore : ∀ v ∈ visits, StepOk vault excused v.1 v.2 ∧ Rested vault s v.2) :
    OpTrace vault excused s (⟨visits ++ o.visits,o.result,o.final⟩ : Outcome _ _ _ α) := by
  cases h with
  | quiet hvisits hfinal => exact .quiet (List.forall_mem_append.mpr ⟨hbefore,hvisits⟩) hfinal
  | single hvisits hbase happly hfinal =>
    exact .single (List.forall_mem_append.mpr ⟨hbefore,hvisits⟩) hbase happly hfinal
  | atomic hvisits hbase hintent hpending hcompletes hfinal =>
    refine .atomic (List.forall_mem_append.mpr ⟨fun v hv => ?_,hvisits⟩) hbase hintent hpending
      hcompletes hfinal
    exact ⟨(hbefore v hv).1,.inl (hbefore v hv).2⟩
  | excused hexcused hvisits hfinal =>
    exact .excused hexcused (List.forall_mem_append.mpr ⟨fun v hv => (hbefore v hv).1,hvisits⟩) hfinal

theorem OpTrace.bind {m : Operation α} {f : α → Operation β}
    (h : wp m (fun a v => StepOk vault excused a v ∧ Rested vault s v) (fun r t =>
      (∀ a, r = .ok a → OpTrace vault excused s (f a t)) ∧ ∀ e, r = .error e → Rested vault s t) w) :
    OpTrace vault excused s ((m >>= f) w) := by
  obtain ⟨hvisits,hok,herror⟩ := h
  cases hresult : (m w).result with
  | ok a =>
    rw [bind_run_ok hresult]
    exact (hok a hresult).prepend hvisits
  | error e =>
    rw [bind_run_error hresult]
    exact .quiet hvisits (herror e hresult)

theorem OpTrace.query {f : World → Except RepairVaultStoreError α} {g : α → Operation β}
    (hw : Rested vault s w) (h : ∀ a, f w = .ok a → OpTrace vault excused s (g a w)) :
    OpTrace vault excused s ((RepairStore.query f >>= g) w) :=
  .bind (wp_query.mpr ⟨h,fun _ _ => hw⟩)

theorem OpTrace.read {g : World → Operation β} (h : OpTrace vault excused s (g w w)) :
    OpTrace vault excused s ((Program.read >>= g) w) :=
  h

theorem OpTrace.update {f : RepairVaultStore → RepairVaultStore} {g : Unit → Operation β}
    (h : OpTrace vault excused s (g () { w with store := f w.store })) :
    OpTrace vault excused s ((updateStore f >>= g) w) :=
  h

theorem OpTrace.pure {a : α} (hw : Rested vault s w) :
    OpTrace vault excused s ((Pure.pure a : Operation α) w) :=
  .quiet (by simp [Pure.pure, Program.pure]) hw

theorem OpTrace.fail {e : RepairVaultStoreError} (hw : Rested vault s w) :
    OpTrace vault excused s ((Program.fail e : Operation α) w) :=
  .quiet (by simp [Program.fail]) hw

theorem OpTrace.capacity {required : Nat} {g : Unit → Operation β} (hw : Rested vault s w)
    (hfew : required ≤ 2) (h : ∀ w', Prepared w w' → Rested vault s w' →
      w'.disk.journal.length + required ≤ maxJournalEvents → OpTrace vault excused s (g () w')) :
    OpTrace vault excused s ((requireEventCapacity required >>= g) w) :=
  .bind (wp_requireEventCapacity hw hfew
    (fun w' hprepared hrested hroom => ⟨fun _ _ => h w' hprepared hrested hroom,fun _ _ => hrested⟩)
    fun _ _ => ⟨fun _ ha => (by cases ha),fun _ _ => hw.poisoned⟩)

theorem OpTrace.congr {o : Outcome StorageStep World RepairVaultStoreError α}
    {o' : Outcome StorageStep World RepairVaultStoreError β} (h : OpTrace vault excused s o)
    (hvisits : o'.visits = o.visits) (hfinal : o'.final = o.final) : OpTrace vault excused s o' := by
  obtain ⟨visits,result,final⟩ := o'
  simp only at hvisits hfinal
  subst hvisits hfinal
  cases h with
  | quiet hvisits hfinal => exact .quiet hvisits hfinal
  | single hvisits hbase happly hfinal => exact .single hvisits hbase happly hfinal
  | atomic hvisits hbase hintent hpending hcompletes hfinal =>
    exact .atomic hvisits hbase hintent hpending hcompletes hfinal
  | excused hexcused hvisits hfinal => exact .excused hexcused hvisits hfinal

theorem OpTrace.map {m : Operation α} {f : α → β} (h : OpTrace vault excused s (m w)) :
    OpTrace vault excused s ((f <$> m) w) := by
  change OpTrace vault excused s ((m >>= fun a => Pure.pure (f a)) w)
  cases hresult : (m w).result with
  | ok a =>
    rw [bind_run_ok hresult]
    exact h.congr (by simp [Pure.pure, Program.pure]) rfl
  | error e =>
    rw [bind_run_error hresult]
    exact h.congr rfl rfl

theorem OpTrace.of_wp {m : Operation α} {base : World} {n : Nat} (hbase : Rested vault s base)
    (hintent : applyRepairEvent base.store.state event n = .ok s₁) (hpending : s₁.pending.isSome = true)
    (h : wp m (fun a v => StepOk vault excused a v ∧ (Rested vault s v ∨ v.store.state = s₁))
      (fun _ t => Settled vault t ∧ s₁.completesTo t.store.state ∨ excused ∧ SessionOk vault t) w) :
    OpTrace vault excused s (m w) := by
  obtain ⟨hvisits,⟨hfinal,hcompletes⟩ | ⟨hexcused,hfinal⟩⟩ := h
  · exact .atomic hvisits hbase hintent hpending hcompletes hfinal
  · exact .excused hexcused (fun v hv => (hvisits v hv).1) hfinal

omit [JournalChain] in
theorem Settled.sessionOk_of_rejected {t : World} (h : Settled vault w)
    (ht : t = w ∨ t.store.healthy = false ∧ t.disk.bricked) : SessionOk vault t := by
  rcases ht with rfl | ⟨hhealthy,hbricked⟩
  · exact .live h.live h.settled
  · exact .bricked hhealthy hbricked

/-- Whether replay accepts an event of a live operation is known; only an excuse lets it reject one. -/
def Foreseen (excused : Prop) (s : RecoveredState) (event : RepairEvent) (n : Nat) (s' : RecoveredState) :
    Prop :=
  applyRepairEvent s event n = .ok s' ∨ excused ∧ ∀ s'', applyRepairEvent s event n ≠ .ok s''

omit [JournalChain] in
theorem foreseen_of_dispatch {s' : RecoveredState} {n : Nat} (hlive : s.compactionReplay = none)
    (hcontrol : event.isControl = false) (hdispatch : dispatchRepairEvent s.tick event n = .ok s')
    (hclock : u64Bound ≤ s.logicalEventClock + 1 → excused) : Foreseen excused s event n s' := by
  by_cases hroom : s.logicalEventClock + 1 < u64Bound
  · exact .inl ((applyRepairEvent_live_iff hlive hcontrol).mpr ⟨hroom,hdispatch⟩)
  · refine .inr ⟨hclock (Nat.le_of_not_lt hroom),fun s'' h => hroom ?_⟩
    exact ((applyRepairEvent_live_iff hlive hcontrol).mp h).1

theorem OpTrace.reject {rest : Unit → Operation β} (hw : Rested vault s w)
    (hcontrol : event.isControl = false) (hroom : w.disk.journal.length < maxJournalEvents)
    (hexcused : excused)
    (hrejected : ∀ s', applyRepairEvent w.store.state event (w.disk.journal.length + 1) ≠ .ok s') :
    OpTrace vault excused s ((appendEvent event >>= rest) w) := by
  have hrun : wp (appendEvent event >>= rest) (StepOk vault excused) (fun _ => SessionOk vault) w := by
    refine wp_bind.mpr (wp_appendEvent hw.live hcontrol hroom ?_ ?_ ?_)
    · exact ⟨hw.live,hcontrol,hroom,.inr hexcused⟩
    · exact fun s' hs' => absurd hs' (hrejected s')
    · exact fun _ e t ht => hw.sessionOk_of_rejected ht
  exact .excused hexcused hrun.1 hrun.2

theorem OpTrace.commit (s₁ : RecoveredState) {rest : Unit → Operation β} (hw : Rested vault s w)
    (hcontrol : event.isControl = false) (hroom : w.disk.journal.length + 2 ≤ maxJournalEvents)
    (hreserves : ∀ id record, event.reserves = some (id,record) →
      vault.owns record ∧ ∀ j, w.store.state.bindingAt j ≠ some record.reservationBindingSha256)
    (hforeseen : Foreseen excused w.store.state event (w.disk.journal.length + 1) s₁)
    (hpending : s₁.pending.isSome = true) (hfiles : FilesOk w.disk s₁)
    (hrest : Live vault (w.appended event s₁) →
      wp (rest ()) (StepIn vault excused s₁)
        (fun _ t => Settled vault t ∧ s₁.completesTo t.store.state ∨ excused ∧ SessionOk vault t)
        (w.appended event s₁)) :
    OpTrace vault excused s ((appendEvent event >>= rest) w) := by
  have hlength : w.disk.journal.length < maxJournalEvents := by omega
  rcases hforeseen with happly | ⟨hexcused,hrejected⟩
  · have hlive := hw.live.appended hcontrol happly hlength (fun _ => by omega) hreserves hfiles
    refine .of_wp hw happly hpending (wp_bind.mpr (wp_appendEvent hw.live hcontrol hlength ?_ ?_ ?_))
    · exact ⟨⟨hw.live,hcontrol,hlength,.inl ⟨s₁,happly⟩⟩,.inl hw⟩
    · intro s' hs'
      obtain rfl : s' = s₁ := Except.ok.inj (hs'.symm.trans happly)
      rw [andThen_ok]
      exact wp_mono (hrest hlive) (fun _ _ h => ⟨h.1,.inr h.2⟩) fun _ _ h => h
    · exact fun hno => absurd happly (hno s₁)
  · exact .reject hw hcontrol hlength hexcused hrejected

theorem OpTrace.append {a : α} (hw : Rested vault s w) (hcontrol : event.isControl = false)
    (hroom : w.disk.journal.length + 1 ≤ maxJournalEvents) (hreserves : event.reserves = none)
    (hforeseen : Foreseen excused w.store.state event (w.disk.journal.length + 1) s₁)
    (hidle : s₁.pending = none) (hfiles : FilesOk w.disk s₁) :
    OpTrace vault excused s ((appendEvent event >>= fun _ => Pure.pure a) w) := by
  have hfresh : ∀ id record, event.reserves = some (id,record) →
      vault.owns record ∧ ∀ j, w.store.state.bindingAt j ≠ some record.reservationBindingSha256 := by
    simp [hreserves]
  rcases hforeseen with happly | ⟨hexcused,hrejected⟩
  · have hlive := hw.live.appended hcontrol happly hroom (by simp [hidle]) hfresh hfiles
    have hrun : wp (appendEvent event >>= fun _ => Pure.pure a)
        (fun b v => StepOk vault excused b v ∧ Rested vault s v)
        (fun _ t => t = w.appended event s₁) w := by
      refine wp_bind.mpr (wp_appendEvent hw.live hcontrol hroom ?_ ?_ ?_)
      · exact ⟨⟨hw.live,hcontrol,hroom,.inl ⟨s₁,happly⟩⟩,hw⟩
      · intro s' hs'
        obtain rfl : s' = s₁ := Except.ok.inj (hs'.symm.trans happly)
        rw [andThen_ok, wp_pure]
      · exact fun hno => absurd happly (hno s₁)
    obtain ⟨hvisits,hfinal⟩ := hrun
    refine .single hvisits hw (?_ : applyRepairEvent _ event (w.disk.journal.length + 1) = _) ?_
    · rw [hfinal]
      exact happly
    · rw [hfinal]
      exact ⟨hlive,hw.settled,hidle⟩
  · exact .reject hw hcontrol hroom hexcused hrejected

theorem wp_complete {post : Except RepairVaultStoreError Unit → World → Prop} (hlive : Live vault w)
    (hstate : w.store.state = s₁) (hpending : s₁.pending.isSome = true) (hsettled : w.disk.settled)
    (hcontrol : event.isControl = false)
    (hforeseen : Foreseen excused s₁ event (w.disk.journal.length + 1) s₂) (hidle : s₂.pending = none)
    (hreserves : event.reserves = none) (hfiles : FilesOk w.disk s₂)
    (hdone : Settled vault (w.appended event s₂) →
      applyRepairEvent s₁ event (w.disk.journal.length + 1) = .ok s₂ →
      post (.ok ()) (w.appended event s₂))
    (hbad : ∀ e t, excused → SessionOk vault t → post (.error e) t) :
    wp (appendEvent event) (StepIn vault excused s₁) post w := by
  subst hstate
  have hroom := hlive.journal.room hpending
  rcases hforeseen with happly | ⟨hexcused,hrejected⟩
  · refine wp_appendEvent hlive hcontrol hroom ?_ ?_ ?_
    · exact ⟨⟨hlive,hcontrol,hroom,.inl ⟨s₂,happly⟩⟩,rfl⟩
    · intro s' hs'
      obtain rfl : s' = s₂ := Except.ok.inj (hs'.symm.trans happly)
      refine hdone ⟨?_,hsettled,hidle⟩ happly
      exact hlive.appended hcontrol happly hroom (by simp [hidle]) (by simp [hreserves]) hfiles
    · exact fun hno => absurd happly (hno s₂)
  · refine wp_appendEvent hlive hcontrol hroom ?_ ?_ ?_
    · exact ⟨⟨hlive,hcontrol,hroom,.inr hexcused⟩,rfl⟩
    · exact fun s' hs' => absurd hs' (hrejected s')
    · rintro _ e t (rfl | ⟨hhealthy,hbricked⟩)
      · exact hbad e _ hexcused (.live hlive hsettled)
      · exact hbad e _ hexcused (.bricked hhealthy hbricked)

end Trace

end KernAid.RepairStore
