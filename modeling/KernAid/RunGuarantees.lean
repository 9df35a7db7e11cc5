import KernAid.Runs
import KernAid.ReplayGuarantees

/-! What every run of the store guarantees about the room in its journal. -/

set_option autoImplicit false

namespace KernAid.RepairStore

open Encoding CrashLogic Protocol Program

/-! One session on a new vault. -/

theorem opening_empty [Sha256Hasher] [JournalChain] (attestation : VaultAttestation) :
    System.opening System.empty.disk attestation =
      ⟨[],.ok (),⟨System.empty.disk,attestation.session {} 0⟩⟩ := rfl

namespace Sample

scoped instance sampleChain : JournalChain where
  head journal := ⟨Vector.replicate 16 1,UInt64.ofNat journal.length,Vector.replicate 32 2⟩

def attestation : VaultAttestation :=
  ⟨vaultId,(sha 0x88).asStr,(sha 0x99).asStr,sha 0xe1,by decide +kernel,by decide +kernel,
    by decide +kernel⟩

def reserve : Request := .reserveBackup [reservationId] (toStoreDraft (draft 0o644))

def cancel : Request := .cancelReserved reservationId (record 0o644).reservationBindingSha256

def opened : World := (System.opening System.empty.disk attestation).final

def after (w : World) (request : Request) : World := (runRequest request w).final

/-- The session in which each request is made with what the session shows then. -/
def play (w : World) : List (World → Request) → World
  | [] => w
  | next :: rest => play (after w (next w)) rest

def held (w : World) : System := ⟨w.disk,some w.store⟩

theorem opening_opens : (System.opening System.empty.disk attestation).result = .ok () := by
  rw [opening_empty]

theorem run_opened {allowed : System → Action → Prop} (h : allowed .empty (.openVault attestation)) :
    ∃ log, Run attestation.vault allowed (held opened) log :=
  ⟨_,.next .start h (.opened rfl opening_opens)⟩

theorem request_answered {vault : VaultIdentity} (w : World) (request : Request) :
    Transition vault (held w) (.request request) (runRequest request w).visits (held (after w request)) :=
  .answered

def allPlayed (p : World → Request → Bool) (w : World) : List (World → Request) → Bool
  | [] => true
  | next :: rest => p w (next w) && allPlayed p (after w (next w)) rest

theorem run_play {vault : VaultIdentity} {allowed : System → Action → Prop} {p : World → Request → Bool}
    (hallowed : ∀ w request, p w request = true → allowed (held w) (.request request))
    {requests : List (World → Request)} {w : World} (hp : allPlayed p w requests = true)
    (h : ∃ log, Run vault allowed (held w) log) :
    ∃ log, Run vault allowed (held (play w requests)) log := by
  induction requests generalizing w with
  | nil => exact h
  | cons next rest ih =>
    obtain ⟨log,hlog⟩ := h
    obtain ⟨hnext,hrest⟩ := Bool.and_eq_true_iff.mp hp
    exact ih hrest ⟨_,hlog.next (hallowed w (next w) hnext) (request_answered w (next w))⟩

theorem opened_journal : opened.disk.journal = [] := by
  rw [opened, opening_empty]
  rfl

theorem clockFits_of_empty {system : System} (h : system.disk.journal = []) : system.clockFits := by
  intro s hs
  rw [h] at hs
  rw [← Except.ok.inj hs]
  decide

end Sample

/-! The capacity of the journal. -/

section Capacity

variable [Sha256Hasher] [JournalChain] {vault : VaultIdentity} {allowed : System → Action → Prop}
  {system : System} {log : List (StorageStep × World)} {w : World}

omit [JournalChain] in
theorem SystemOk.journalOk {s : RecoveredState} (h : SystemOk vault system)
    (hs : replay system.disk.journal = .ok s) : JournalOk vault system.disk.journal s := by
  have hdisk : (∃ s, DiskOk vault system.disk s) ∨ system.disk.bricked := by
    unfold SystemOk at h
    split at h
    · exact h
    · exact h.diskOk
  rcases hdisk with ⟨s',hs'⟩ | hbricked
  · obtain rfl : s' = s := Except.ok.inj (hs'.journal.replayed.symm.trans hs)
    exact hs'.journal
  · exact absurd hs (hbricked s)

omit [JournalChain] in
theorem compactionDue_compacted {s s' : RecoveredState} {anchor : JournalAnchor}
    {events : List RepairEvent} (h : compactJournalUntil s anchor = .ok (events,s')) :
    (w.compactedTo events s').store.compactionDue 0 = false := by
  obtain ⟨_,_,_,hlength,_,_,rfl⟩ := compactJournalUntil_eq_ok h
  have hsize : (retainedReleaseTombstones s).size ≤ maxRetainedReleaseTombstones := size_retained_le
  have hyoung : ∀ entry ∈ (retainedReleaseTombstones s).toList,
      ¬ (entry.2.releasedAtEvent ≤ s.logicalEventClock ∧
        releaseTombstoneEventTtl < s.logicalEventClock - entry.2.releasedAtEvent) := by
    rintro ⟨id,tombstone⟩ hentry ⟨hpast,hold⟩
    obtain ⟨_,hretains⟩ := retained_getElem? (Std.ExtTreeMap.mem_toList_iff_getElem?_eq_some.mp hentry)
    simp only [RecoveredState.retains, Bool.and_eq_true, decide_eq_true_eq] at hretains
    exact absurd hretains.2 (Nat.not_le.mpr hold)
  simp only [RepairVaultStore.compactionDue, Bool.or_eq_false_iff, decide_eq_false_iff_not, Nat.not_lt,
    List.any_eq_false, Bool.and_eq_true, decide_eq_true_eq]
  exact ⟨⟨hlength.le,hsize⟩,hyoung⟩

/-- The journal of every reachable state has room for what is pending, its compaction is short and
needs no other, and no idle session is out of journal space. -/
theorem journal_capacity_suffices (hrun : Run vault allowed system log) :
    (∀ s, replay system.disk.journal = .ok s → system.disk.journal.length ≤ 4096 ∧
      (s.pending.isSome = true → system.disk.journal.length + 1 ≤ 4096) ∧
      (s.pending = none → ∀ anchor events,
        compactionEvents s.reservations (retainedReleaseTombstones s) s.transactions s.logicalEventClock
          (s.compactionGeneration + 1) anchor = .ok events → events.length < 3072)) ∧
      ∀ store, system.session = some store → store.healthy = true → store.state.pending = none →
        ((compactJournal ⟨system.disk,store⟩).result = .ok () →
          (compactJournal ⟨system.disk,store⟩).final.store.compactionDue 0 = false) ∧
        ∀ required, required ≤ 2 →
          (requireEventCapacity required ⟨system.disk,store⟩).result ≠ .error .insufficientCapacity ∧
            ((requireEventCapacity required ⟨system.disk,store⟩).result = .ok () →
              (requireEventCapacity required ⟨system.disk,store⟩).final.store.eventCount + required
                ≤ 4096) := by
  obtain ⟨hsystem,_⟩ := hrun.ok fun _ _ _ _ => True.intro
  refine ⟨fun s hs => ?_,fun store hstore hhealthy hidle => ?_⟩
  · have hjournal := hsystem.journalOk hs
    refine ⟨hjournal.length,hjournal.room,fun hpending anchor events hevents => ?_⟩
    obtain ⟨events',hevents',hlength⟩ := @compactionEvents_length _ _ anchor hjournal.inv hpending
    obtain rfl : events' = events := Except.ok.inj (hevents'.symm.trans hevents)
    omega
  · have hsession : SessionOk vault ⟨system.disk,store⟩ := by
      unfold SystemOk at hsystem
      rwa [hstore] at hsystem
    cases hsession with
    | bricked hunhealthy _ => exact absurd (hunhealthy.symm.trans hhealthy) (by decide)
    | live hlive hsettled =>
      have hrested : Rested vault store.state ⟨system.disk,store⟩ := ⟨⟨hlive,hsettled,hidle⟩,.refl⟩
      refine ⟨?_,fun required hfew => ?_⟩
      · have hrun : wp compactJournal (fun a v => StepOk vault True a v ∧ Rested vault store.state v)
            (fun r t => r = .ok () → t.store.compactionDue 0 = false) ⟨system.disk,store⟩ :=
          wp_compactJournal hrested (fun _ _ hcompact _ => compactionDue_compacted hcompact)
            fun _ _ hok => (by cases hok)
        exact hrun.2
      · have hrun : wp (requireEventCapacity required)
            (fun a v => StepOk vault True a v ∧ Rested vault store.state v)
            (fun r t => r ≠ .error .insufficientCapacity ∧
              (r = .ok () → t.store.eventCount + required ≤ 4096)) ⟨system.disk,store⟩ :=
          wp_requireEventCapacity hrested hfew
            (fun w' _ hrested' hroom => ⟨by simp,fun _ => hrested'.live.count ▸ hroom⟩)
            fun e he => ⟨by simpa using he,fun hok => (by cases hok)⟩
        exact hrun.2

end Capacity

namespace Sample

def reserved : World := play opened [fun _ => reserve]

theorem run_reserved : ∃ log, Run attestation.vault (fun _ _ => True) (held reserved) log :=
  run_play (p := fun _ _ => true) (fun _ _ _ => trivial) rfl (run_opened trivial)

theorem reserved_idle : reserved.store.healthy = true ∧ reserved.store.state.pending = none := by
  decide +kernel

end Sample

open Sample in
theorem journal_capacity_suffices_reserved :
    (∀ s, replay reserved.disk.journal = .ok s → reserved.disk.journal.length ≤ 4096) ∧
      (requireEventCapacity 2 reserved).result ≠ .error .insufficientCapacity := by
  obtain ⟨log,hlog⟩ := run_reserved
  have hidle := reserved_idle
  -- The run is not evaluated again: from here on the session is an arbitrary one.
  generalize reserved = w at hlog hidle ⊢
  obtain ⟨hjournal,hsession⟩ := journal_capacity_suffices hlog
  exact ⟨fun s hs => (hjournal s hs).1,((hsession w.store rfl hidle.1 hidle.2).2 2 le_rfl).1⟩

end KernAid.RepairStore
