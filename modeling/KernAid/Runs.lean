import KernAid.Recovery

/-! Runs of a vault: sessions, the operations in them, and crashes before any step. -/

set_option autoImplicit false

namespace KernAid.RepairStore

open Encoding CrashLogic Protocol Program

structure System where
  disk : Disk
  session : Option RepairVaultStore

def System.empty : System := ⟨⟨[],∅,∅,∅⟩,none⟩

/-- What a process may do with a vault. -/
inductive Action
  | openVault (attestation : VaultAttestation)
  | request (request : Request)
  | close
  | crash

def Action.repeatsResolution : Action → Prop
  | .request r => r.repeatsResolution
  | _ => False

section Runs

variable [Sha256Hasher] {vault : VaultIdentity} {system system' : System}

/-- The invariant of a vault: its session mirrors stable storage, or the journal is beyond replay and
no session will touch it. -/
def SystemOk (vault : VaultIdentity) (system : System) : Prop :=
  match system.session with
  | none => (∃ s, DiskOk vault system.disk s) ∨ system.disk.bricked
  | some store => SessionOk vault ⟨system.disk,store⟩

theorem systemOk_empty (vault : VaultIdentity) : SystemOk vault .empty := by
  refine .inl ⟨{},⟨.empty vault,fun id => ?_,fun id => ?_⟩⟩
  · simp [FileOk, System.empty, Disk.synced]
  · simp [System.empty, Disk.synced]

theorem Settled.sessionOk {w : World} (h : Settled vault w) : SessionOk vault w := .live h.live h.settled

theorem SessionOk.diskOk {w : World} (h : SessionOk vault w) :
    (∃ s, DiskOk vault w.disk s) ∨ w.disk.bricked := by
  cases h with
  | live hlive hsettled => exact .inl ⟨_,hlive.diskOk hsettled⟩
  | bricked _ hbricked => exact .inr hbricked

theorem SystemOk.crash {d : Disk} (h : SystemOk vault system) (hcrash : system.disk.Crash d) :
    SystemOk vault ⟨d,none⟩ := by
  have hdisk : (∃ s, DiskOk vault system.disk s) ∨ system.disk.bricked := by
    unfold SystemOk at h
    split at h
    · exact h
    · exact h.diskOk
  rcases hdisk with ⟨s,hs⟩ | hbricked
  · exact .inl ⟨s,hs.crash hcrash⟩
  · refine .inr fun s hs => hbricked s ?_
    rw [← hcrash.journal]
    exact hs

variable [JournalChain]

/-- The run of `open` on a vault that no session holds. -/
def System.opening (d : Disk) (attestation : VaultAttestation) :
    Outcome StorageStep World RepairVaultStoreError Unit :=
  openStore attestation ⟨d,attestation.session {} 0⟩

/-- One action on a vault, with the storage steps that were taken. A crash comes before a step of an
operation or between two operations; it ends the session. -/
inductive Transition (vault : VaultIdentity) :
    System → Action → List (StorageStep × World) → System → Prop
  | opened {d : Disk} {attestation : VaultAttestation} (hvault : attestation.vault = vault)
      (hresult : (System.opening d attestation).result = .ok ()) :
      Transition vault ⟨d,none⟩ (.openVault attestation) (System.opening d attestation).visits
        ⟨(System.opening d attestation).final.disk,some (System.opening d attestation).final.store⟩
  | refused {d : Disk} {attestation : VaultAttestation} {e : RepairVaultStoreError}
      (hvault : attestation.vault = vault) (hresult : (System.opening d attestation).result = .error e) :
      Transition vault ⟨d,none⟩ (.openVault attestation) (System.opening d attestation).visits
        ⟨(System.opening d attestation).final.disk,none⟩
  | openCrashed {d d' : Disk} {attestation : VaultAttestation} {before after : List (StorageStep × World)}
      {v : StorageStep × World} (hvault : attestation.vault = vault)
      (hvisits : (System.opening d attestation).visits = before ++ v :: after)
      (hcrash : v.2.disk.Crash d') :
      Transition vault ⟨d,none⟩ (.openVault attestation) before ⟨d',none⟩
  | answered {d : Disk} {store : RepairVaultStore} {request : Request} :
      Transition vault ⟨d,some store⟩ (.request request) (runRequest request ⟨d,store⟩).visits
        ⟨(runRequest request ⟨d,store⟩).final.disk,some (runRequest request ⟨d,store⟩).final.store⟩
  | requestCrashed {d d' : Disk} {store : RepairVaultStore} {request : Request}
      {before after : List (StorageStep × World)} {v : StorageStep × World}
      (hvisits : (runRequest request ⟨d,store⟩).visits = before ++ v :: after)
      (hcrash : v.2.disk.Crash d') :
      Transition vault ⟨d,some store⟩ (.request request) before ⟨d',none⟩
  | closed {d : Disk} {store : RepairVaultStore} :
      Transition vault ⟨d,some store⟩ .close [] ⟨d,none⟩
  | crashed {system : System} {d' : Disk} (hcrash : system.disk.Crash d') :
      Transition vault system .crash [] ⟨d',none⟩

/-- The runs of a new vault whose actions are all `allowed`, with every storage step they took. -/
inductive Run (vault : VaultIdentity) (allowed : System → Action → Prop) :
    System → List (StorageStep × World) → Prop
  | start : Run vault allowed .empty []
  | next {system system' : System} {action : Action} {log visits : List (StorageStep × World)}
      (h : Run vault allowed system log) (hallowed : allowed system action)
      (hnext : Transition vault system action visits system') : Run vault allowed system' (log ++ visits)

def System.clockFits (system : System) : Prop :=
  ∀ s, replay system.disk.journal = .ok s → s.logicalEventClock + 2 < u64Bound

/-- An action that can bring no event which replay rejects. -/
def Careful (system : System) (action : Action) : Prop :=
  system.clockFits ∧ ¬ action.repeatsResolution

variable {allowed : System → Action → Prop} {action : Action} {log visits : List (StorageStep × World)}
  {excused : Prop}

/-- Every step of `open` is taken in a vault in order, and so is what it leaves. -/
theorem opening_ok {d : Disk} {attestation : VaultAttestation} (h : SystemOk vault ⟨d,none⟩)
    (hvault : attestation.vault = vault) (hclock : ¬ System.clockFits ⟨d,none⟩ → excused) :
    (∀ v ∈ (System.opening d attestation).visits, StepOk vault excused v.1 v.2) ∧
      ((System.opening d attestation).result = .ok () →
        SessionOk vault (System.opening d attestation).final) ∧
      ((∃ s, DiskOk vault (System.opening d attestation).final.disk s) ∨
        (System.opening d attestation).final.disk.bricked) := by
  rcases h with ⟨s,hs⟩ | hbricked
  · have hlate : u64Bound ≤ s.logicalEventClock + 1 → excused := by
      refine fun hle => hclock fun hfits => ?_
      have := hfits s hs.journal.replayed
      omega
    obtain ⟨hvisits,hfinal⟩ := wp_openStore (w := ⟨d,attestation.session {} 0⟩) hs hvault hlate
    have hsession : SessionOk vault (System.opening d attestation).final := by
      rcases hfinal with hsettled | ⟨_,hsession⟩
      · exact hsettled.sessionOk
      · exact hsession
    exact ⟨hvisits,fun _ => hsession,hsession.diskOk⟩
  · obtain ⟨hvisits,hfinal,e,he⟩ :=
      @openStore_bricked _ ⟨d,attestation.session {} 0⟩ _ attestation hbricked
    unfold System.opening
    rw [hvisits, hfinal, he]
    exact ⟨by simp,fun hok => (by cases hok),.inr hbricked⟩

theorem request_ok {d : Disk} {store : RepairVaultStore} {request : Request}
    (h : SessionOk vault ⟨d,store⟩)
    (hcareful : ¬ Careful ⟨d,some store⟩ (.request request) → excused) :
    (∀ v ∈ (runRequest request ⟨d,store⟩).visits, StepOk vault excused v.1 v.2) ∧
      SessionOk vault (runRequest request ⟨d,store⟩).final := by
  by_cases hmutable : store.healthy = true ∧ store.state.pending = none
  · cases h with
    | live hlive hsettled =>
      have hrested : Rested vault store.state ⟨d,store⟩ := ⟨⟨hlive,hsettled,hmutable.2⟩,.refl⟩
      have hlate : u64Bound ≤ store.state.logicalEventClock + 2 → excused := by
        refine fun hle => hcareful fun hcareful => ?_
        have := hcareful.1 store.state hlive.journal.replayed
        omega
      have htrace : OpTrace vault excused store.state (runRequest request ⟨d,store⟩) :=
        runRequest_trace hrested hlate fun hrepeats => hcareful fun hcareful => hcareful.2 hrepeats
      cases htrace with
      | quiet hvisits hfinal => exact ⟨fun v hv => (hvisits v hv).1,hfinal.sessionOk⟩
      | single hvisits _ _ hfinal => exact ⟨fun v hv => (hvisits v hv).1,hfinal.sessionOk⟩
      | atomic hvisits _ _ _ _ hfinal => exact ⟨fun v hv => (hvisits v hv).1,hfinal.sessionOk⟩
      | excused _ hvisits hfinal => exact ⟨hvisits,hfinal⟩
    | bricked hhealthy _ => exact absurd hmutable.1 (by simpa using hhealthy)
  · obtain ⟨hvisits,ids,hfinal⟩ := @runRequest_refused _ ⟨d,store⟩ _ request hmutable
    rw [hvisits, hfinal]
    refine ⟨by simp,?_⟩
    cases h with
    | live hlive hsettled => exact .live hlive.withCheckedOut hsettled
    | bricked hhealthy hbricked => exact .bricked hhealthy hbricked

theorem Transition.ok (h : SystemOk vault system) (hnext : Transition vault system action visits system')
    (hcareful : ¬ Careful system action → excused) :
    SystemOk vault system' ∧ ∀ v ∈ visits, StepOk vault excused v.1 v.2 := by
  cases hnext with
  | opened hvault hresult =>
    obtain ⟨hvisits,hsession,_⟩ := opening_ok h hvault fun hclock => hcareful fun hc => hclock hc.1
    exact ⟨hsession hresult,hvisits⟩
  | refused hvault hresult =>
    obtain ⟨hvisits,_,hdisk⟩ := opening_ok h hvault fun hclock => hcareful fun hc => hclock hc.1
    exact ⟨hdisk,hvisits⟩
  | openCrashed hvault hvisits hcrash =>
    obtain ⟨hsteps,_,_⟩ := opening_ok h hvault fun hclock => hcareful fun hc => hclock hc.1
    rw [hvisits, List.forall_mem_append, List.forall_mem_cons] at hsteps
    exact ⟨.inl ⟨_,hsteps.2.1.live.crash hcrash⟩,hsteps.1⟩
  | answered =>
    obtain ⟨hvisits,hfinal⟩ := request_ok h hcareful
    exact ⟨hfinal,hvisits⟩
  | requestCrashed hvisits hcrash =>
    obtain ⟨hsteps,_⟩ := request_ok h hcareful
    rw [hvisits, List.forall_mem_append, List.forall_mem_cons] at hsteps
    exact ⟨.inl ⟨_,hsteps.2.1.live.crash hcrash⟩,hsteps.1⟩
  | closed => exact ⟨SessionOk.diskOk h,by simp⟩
  | crashed hcrash => exact ⟨h.crash hcrash,by simp⟩

theorem Run.ok (h : Run vault allowed system log)
    (hcareful : ∀ system action, allowed system action → ¬ Careful system action → excused) :
    SystemOk vault system ∧ ∀ v ∈ log, StepOk vault excused v.1 v.2 := by
  induction h with
  | start => exact ⟨systemOk_empty vault,by simp⟩
  | next _ hallowed hnext ih =>
    obtain ⟨hsystem,hvisits⟩ := hnext.ok ih.1 (hcareful _ _ hallowed)
    exact ⟨hsystem,List.forall_mem_append.mpr ⟨ih.2,hvisits⟩⟩

/-! Careful runs leave nothing pending in a session. -/

/-- A session of a careful run has no pending work, and a vault without one is in order. -/
def SystemSettled (vault : VaultIdentity) (system : System) : Prop :=
  match system.session with
  | none => ∃ s, DiskOk vault system.disk s
  | some store => Settled vault ⟨system.disk,store⟩

theorem opening_settled {d : Disk} {attestation : VaultAttestation} {s : RecoveredState}
    (h : DiskOk vault d s) (hvault : attestation.vault = vault) (hclock : System.clockFits ⟨d,none⟩) :
    (∀ v ∈ (System.opening d attestation).visits, StepOk vault False v.1 v.2) ∧
      Settled vault (System.opening d attestation).final := by
  have hroom := hclock s h.journal.replayed
  have hlate : u64Bound ≤ s.logicalEventClock + 1 → False := fun hle => absurd hroom (by omega)
  obtain ⟨hvisits,hfinal⟩ := wp_openStore (w := ⟨d,attestation.session {} 0⟩) h hvault hlate
  exact ⟨hvisits,hfinal.resolve_right fun hbad => hbad.1⟩

theorem Settled.trace {w : World} {request : Request} (h : Settled vault w)
    (hcareful : Careful ⟨w.disk,some w.store⟩ (.request request)) :
    OpTrace vault False w.store.state (runRequest request w) := by
  have hroom := hcareful.1 w.store.state h.live.journal.replayed
  exact runRequest_trace ⟨h,.refl⟩ (fun hle => absurd hroom (by omega)) fun hrepeats =>
    hcareful.2 hrepeats

theorem OpTrace.settled {α : Type} {s : RecoveredState}
    {o : Outcome StorageStep World RepairVaultStoreError α} (h : OpTrace vault False s o) :
    (∀ v ∈ o.visits, StepOk vault False v.1 v.2) ∧ Settled vault o.final := by
  cases h with
  | quiet hvisits hfinal => exact ⟨fun v hv => (hvisits v hv).1,hfinal.toSettled⟩
  | single hvisits _ _ hfinal => exact ⟨fun v hv => (hvisits v hv).1,hfinal⟩
  | atomic hvisits _ _ _ _ hfinal => exact ⟨fun v hv => (hvisits v hv).1,hfinal⟩
  | excused hfalse _ _ => exact hfalse.elim

theorem Transition.settled (h : SystemSettled vault system)
    (hnext : Transition vault system action visits system') (hcareful : Careful system action) :
    SystemSettled vault system' := by
  cases hnext with
  | opened hvault hresult =>
    obtain ⟨s,hs⟩ := h
    exact (opening_settled hs hvault hcareful.1).2
  | refused hvault hresult =>
    obtain ⟨s,hs⟩ := h
    have hfinal := (opening_settled hs hvault hcareful.1).2
    exact ⟨_,hfinal.live.diskOk hfinal.settled⟩
  | openCrashed hvault hvisits hcrash =>
    obtain ⟨s,hs⟩ := h
    have hsteps := (opening_settled hs hvault hcareful.1).1
    rw [hvisits, List.forall_mem_append, List.forall_mem_cons] at hsteps
    exact ⟨_,hsteps.2.1.live.crash hcrash⟩
  | answered => exact (Settled.trace h hcareful).settled.2
  | requestCrashed hvisits hcrash =>
    have hsteps := (Settled.trace h hcareful).settled.1
    rw [hvisits, List.forall_mem_append, List.forall_mem_cons] at hsteps
    exact ⟨_,hsteps.2.1.live.crash hcrash⟩
  | closed => exact ⟨_,h.live.diskOk h.settled⟩
  | crashed hcrash =>
    unfold SystemSettled at h
    split at h
    · obtain ⟨s,hs⟩ := h
      exact ⟨s,hs.crash hcrash⟩
    · exact ⟨_,h.live.crash hcrash⟩

theorem Run.settled (h : Run vault Careful system log) : SystemSettled vault system := by
  induction h with
  | start => exact (systemOk_empty vault).resolve_right fun hbricked => hbricked {} rfl
  | next _ hcareful hnext ih => exact hnext.settled ih hcareful

end Runs

end KernAid.RepairStore
