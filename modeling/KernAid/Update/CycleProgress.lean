import KernAid.Update.StagingProgress
import KernAid.Update.SlotSafety

/-! Whether an update cycle stages the newest manifest, after any history of the device. -/

set_option autoImplicit false

namespace KernAid.Update

open CrashLogic Program

section

variable [UpdateHash]

/-- Every manifest that a cycle is offered has been published. -/
def Event.OffersPublished (published : List VerifiedUpdate) : Event → Prop
  | .cycle call _ => ∀ updates, call.pull = .ok updates → ∀ u ∈ updates, u ∈ published
  | _ => True

/-- A cycle that is offered the newest manifest among eligible ones and downloads its artifact, with
nothing failing on the device. -/
structure CycleCall.Complete (identity : ResidentIdentity) (published : List VerifiedUpdate)
    (u : VerifiedUpdate) (call : CycleCall) : Prop where
  valid : call.input.valid = true
  entitled : call.input.updatesEntitled = true
  pull : ∃ updates, call.pull = .ok updates ∧ u ∈ updates ∧
    ∀ v ∈ updates, v ∈ published ∧ v.availability (call.input.context identity) = .eligible
  download : ∃ source, call.download = .ok source ∧
    source.Delivers u.artifact.sizeBytes u.artifact.sha256
  faults : call.faults = []
  destination : .fails ∉ call.destination

structure Journaled (published : List VerifiedUpdate) (d : Device) : Prop where
  checkpoint : ∀ k, d.checkpoint = some k → ∃ v ∈ published, k.sequence = v.sequence ∧
    k.manifestSha256 = v.manifestSha256
  both : ∀ c r, d.pending = some c → d.receipt = some r → r.matchesCheckpoint c = true
  audit : d.audit ≠ none → d.candidate ≠ none

variable {d : Device} {u : VerifiedUpdate} {target : PreopenedInactiveTarget} {a : Action}
  {published : List VerifiedUpdate} {identity : ResidentIdentity}

theorem Journaled.cycle (h : Journaled published d) (ha : CycleAction u target a d)
    (hu : u ∈ published) : Journaled published (a.effect d) := by
  cases a with
  | writeCheckpoint k =>
    obtain ⟨_,rfl,_⟩ := ha
    exact { h with
      checkpoint := fun k hk => by
        cases hk
        exact ⟨u,hu,rfl,rfl⟩ }
  | writePending c =>
    obtain ⟨_,_,_,hreceipt⟩ := ha
    exact { h with both := fun _ r _ hr => by cases hreceipt.symm.trans hr }
  | removePending => exact { h with both := fun _ _ hc => by cases hc }
  | writeReceipt r =>
    obtain ⟨_,rfl,hintended,_⟩ := ha
    exact { h with
      both := fun c r hc hr => by
        cases hr
        cases hintended.1.symm.trans hc
        exact StagingReceipt.matchesCheckpoint_iff.mpr rfl }
  | writeCandidate k => exact { h with audit := fun _ => Option.some_ne_none _ }
  | writeAudit audit =>
    obtain ⟨_,_,k,hk,_⟩ := ha
    exact { h with audit := fun _ hnone => by cases hk.symm.trans hnone }
  | truncate slot => exact { h with }
  | writeAt slot position bytes => exact { h with }
  | sync slot => exact { h with }
  | _ => exact ha.2.elim

theorem Journaled.activator (h : Journaled published d) (ha : ActivatorAction a d) :
    Journaled published (a.effect d) := by
  cases a with
  | removePending => exact { h with both := fun _ _ hc => by cases hc }
  | removeReceipt => exact { h with both := fun _ _ _ hr => by cases hr }
  | removeAudit => exact { h with audit := fun hne => absurd rfl hne }
  | removeCandidate => exact { h with audit := fun hne => absurd ha.2.1 hne }
  | writeState st => exact { h with }
  | archiveReceipt R => exact { h with }
  | writeLastReceipt R => exact { h with }
  | archiveAudit name audit => exact { h with }
  | removeState => exact { h with }
  | preflight k t => exact h
  | armTrial k t => exact h
  | promote t => exact h
  | armRollback k => exact h
  | _ => exact ha.elim

theorem selectUpdate_mem {updates : List VerifiedUpdate} {context : UpdateContext}
    (h : selectUpdate updates context = .ok (some u)) : u ∈ updates := by
  obtain ⟨_,_,h⟩ := bind_ok_iff.mp h
  have hmem : ∀ v rest, (updates.mergeSort fun a b => a.sequence ≤ b.sequence).reverse = v :: rest →
      v ∈ updates := by
    intro v rest hsorted
    have hv : v ∈ (updates.mergeSort fun a b => a.sequence ≤ b.sequence).reverse := by
      rw [hsorted]
      exact List.mem_cons_self
    exact List.mem_mergeSort.mp (List.mem_reverse.mp hv)
  split at h
  · cases h
  · rename_i last hsorted
    cases h
    exact hmem _ _ hsorted
  · rename_i last previous rest hsorted
    obtain ⟨_,h⟩ := require_bind_eq_ok.mp h
    cases h
    exact hmem _ _ hsorted

theorem Journaled.event {event : Event} (h : Journaled published d)
    (hoffers : event.OffersPublished published) : Journaled published (event.after identity d) := by
  refine (Event.preserves h ?_ (fun v lost hv => { hv with }) ?_).2
  · intro a v ha hv
    cases event with
    | cycle call crash =>
      obtain ⟨u,⟨updates,hpull,hselect⟩,ha⟩ := ha
      exact hv.cycle ha (hoffers updates hpull u (selectUpdate_mem hselect))
    | reconcile selector crash => exact hv.activator ha
    | rollback selector crash =>
      obtain ha | ⟨next,rfl,_⟩ := ha
      · exact hv.activator ha
      · exact { hv with }
    | reboot slot boot lost => exact ha.elim
  · intro slot boot lost _
    exact { h with }

theorem journaled_start (targets : Slot → Target) (running : Slot) (bootId : String) :
    Journaled published (Device.start targets running bootId) where
  checkpoint := fun _ hk => by cases hk
  both := fun _ _ hc => by cases hc
  audit := fun hne => absurd rfl hne

omit [UpdateHash] in
theorem published_unique (hpublished : published.Pairwise fun a b => a.sequence < b.sequence)
    {v : VerifiedUpdate} (hv : v ∈ published) (hu : u ∈ published) (h : v.sequence = u.sequence) :
    v = u := by
  have hnodup : (published.map VerifiedUpdate.sequence).Nodup :=
    List.pairwise_map.mpr (hpublished.imp fun hlt => Nat.ne_of_lt hlt)
  exact List.inj_on_of_nodup_map hnodup hv hu h

theorem forM_requireEligible {updates : List VerifiedUpdate} {context : UpdateContext}
    (h : ∀ v ∈ updates, v.availability context = .eligible) :
    updates.forM (requireEligible context) = .ok () := by
  induction updates with
  | nil => rfl
  | cons v updates ih =>
    obtain ⟨hv,hrest⟩ := List.forall_mem_cons.mp h
    exact require_bind_eq_ok.mpr ⟨hv,ih hrest⟩

theorem selectUpdate_newest {updates : List VerifiedUpdate} {context : UpdateContext}
    (heligible : ∀ v ∈ updates, v.availability context = .eligible) (hu : u ∈ updates)
    (hnewest : ∀ v ∈ updates, v.sequence ≤ u.sequence ∧ (v.sequence = u.sequence → v = u)) :
    selectUpdate updates context = .ok (some u) := by
  refine bind_ok_iff.mpr ⟨(),forM_requireEligible heligible,?_⟩
  have hsorted : (updates.mergeSort fun a b => a.sequence ≤ b.sequence).reverse.Pairwise
      fun a b => b.sequence ≤ a.sequence := by
    refine List.pairwise_reverse.mpr ((List.pairwise_mergeSort ?_ ?_ updates).imp ?_)
    · simp only [decide_eq_true_eq]
      intro a b c hab hbc
      exact Nat.le_trans hab hbc
    · intro a b
      simp only [Bool.or_eq_true, decide_eq_true_eq]
      exact Nat.le_total _ _
    · intro a b hab
      exact of_decide_eq_true hab
  have hmem : ∀ v, v ∈ (updates.mergeSort fun a b => a.sequence ≤ b.sequence).reverse ↔ v ∈ updates :=
    fun v => List.mem_reverse.trans List.mem_mergeSort
  have hhead : ∀ last rest,
      (updates.mergeSort fun a b => a.sequence ≤ b.sequence).reverse = last :: rest → last = u := by
    intro last rest hlist
    rw [hlist] at hsorted hmem
    have hlast := hnewest last ((hmem last).mp List.mem_cons_self)
    refine hlast.2 (Nat.le_antisymm hlast.1 ?_)
    obtain rfl | hrest := List.mem_cons.mp ((hmem u).mpr hu)
    · exact Nat.le_refl _
    · exact (List.pairwise_cons.mp hsorted).1 u hrest
  split
  · rename_i hlist
    rw [hlist] at hmem
    cases (hmem u).mpr hu
  · rename_i last hlist
    rw [hhead last [] hlist]
    rfl
  · rename_i last previous rest hlist
    obtain rfl := hhead last _ hlist
    refine require_bind_eq_ok.mpr ⟨fun ⟨hsequence,hdigest⟩ => hdigest ?_,rfl⟩
    have hprevious : previous ∈ updates := by
      rw [← hmem, hlist]
      exact List.mem_cons_of_mem _ List.mem_cons_self
    rw [(hnewest previous hprevious).2 hsequence]

theorem Journaled.admits (h : Journaled published d)
    (hpublished : published.Pairwise fun a b => a.sequence < b.sequence) (hu : u ∈ published)
    (hnewest : ∀ v ∈ published, v.sequence ≤ u.sequence) :
    ∃ admission, admitUpdate d.checkpoint u = .ok admission := by
  cases hcheckpoint : d.checkpoint with
  | none => exact ⟨_,rfl⟩
  | some k =>
    obtain ⟨v,hv,hsequence,hdigest⟩ := h.checkpoint k hcheckpoint
    have hle := hnewest v hv
    unfold admitUpdate
    dsimp only
    split_ifs with hlt heq hne
    · omega
    · rw [published_unique hpublished hv hu (by omega)] at hdigest
      exact absurd hdigest.symm hne
    · exact ⟨_,rfl⟩
    · exact ⟨_,rfl⟩

variable {m : Machine}

def OnlyCheckpoint (m m' : Machine) : Prop :=
  m' = { m with device := { m.device with
    checkpoint := m'.device.checkpoint
    admitted := m'.device.admitted } }

omit [UpdateHash] in
theorem yields_persistCheckpoint (next : UpdateCheckpoint) :
    ∃ m', Yields (persistCheckpoint m.device.checkpoint next) m () m' ∧ OnlyCheckpoint m m' := by
  by_cases hsame : m.device.checkpoint = some next
  · refine ⟨m,yields_read.bind ((yields_require rfl).bind ?_),rfl⟩
    rw [if_pos hsame]
    exact yields_pure
  · refine ⟨Action.perform (.writeCheckpoint next) m,yields_read.bind ((yields_require rfl).bind ?_),rfl⟩
    rw [if_neg hsame]
    exact yields_act

structure Unencumbered (u : VerifiedUpdate) (target : PreopenedInactiveTarget) (d : Device) : Prop where
  receipt : ∀ r, d.receipt = some r → r = u.receipt target
  pending : ∀ c, d.pending = some c → c = StagingCheckpoint.fromAdmitted u target

omit [UpdateHash] in
theorem recoveryStatus_ok
    (h : ∀ c r, d.pending = some c → d.receipt = some r → r.matchesCheckpoint c = true) :
    ∃ status, d.recoveryStatus = .ok status := by
  unfold Device.recoveryStatus
  split
  · exact ⟨_,rfl⟩
  · exact ⟨_,rfl⟩
  · exact ⟨_,rfl⟩
  · rename_i c r hpending hreceipt
    exact ⟨_,if_pos (h c r hpending hreceipt)⟩

theorem yields_stageSelected {call : CycleCall} (h : call.Complete identity published u)
    (hboth : ∀ c r, m.device.pending = some c → m.device.receipt = some r → r.matchesCheckpoint c = true)
    (hm : m.Healthy)
    (hfree : Unencumbered u target m.device) :
    ∃ m', Yields (stageSelected identity call u target) m (u.receipt target) m' ∧
      m'.device.candidate = m.device.candidate ∧ m'.device.activation = m.device.activation ∧
      m'.device.audit = m.device.audit := by
  obtain ⟨updates,_,hu,hall⟩ := h.pull
  have heligible := (hall u hu).2
  obtain ⟨source,hdownload,hsource⟩ := h.download
  have hdownloaded : call.download.mapError (fun _ => ResidentUpdateError.transport) = .ok source := by
    rw [hdownload]
    rfl
  obtain ⟨status,hstatus⟩ := recoveryStatus_ok hboth
  have hread : m.device.recoveryStatus.mapError ResidentUpdateError.staging = .ok status := by
    rw [hstatus]
    rfl
  have hfresh : m.device.receipt = none → ∃ m', Yields (mapError ResidentUpdateError.staging
      (stage u (call.input.context identity) call.input.updatesEntitled source target)) m
      (u.receipt target) m' ∧ m'.device.candidate = m.device.candidate ∧
      m'.device.activation = m.device.activation ∧ m'.device.audit = m.device.audit := by
    intro hreceipt
    obtain ⟨m',hyields,hstaged⟩ := yields_stage hm heligible hsource hreceipt hfree.pending
    rw [h.entitled]
    refine ⟨m',hyields.mapError,?_,?_,?_⟩ <;> rw [hstaged]
  cases status with
  | completed r =>
    have hreceipt := (recoveryStatus_completed hstatus).1
    obtain rfl := hfree.receipt r hreceipt
    refine ⟨m,yields_read.bind ((yields_lift hread).bind ?_),rfl,rfl,rfl⟩
    dsimp only
    rw [h.entitled]
    exact (yields_stage_again heligible hreceipt).mapError
  | clean =>
    obtain ⟨m',hyields,hkept⟩ := hfresh (recoveryStatus_clean hstatus).1
    exact ⟨m',yields_read.bind ((yields_lift hread).bind ((yields_lift hdownloaded).bind hyields)),hkept⟩
  | interrupted c =>
    obtain ⟨m',hyields,hkept⟩ := hfresh (recoveryStatus_interrupted hstatus).1
    exact ⟨m',yields_read.bind ((yields_lift hread).bind ((yields_lift hdownloaded).bind hyields)),hkept⟩

/-- What a stage checks of the staging directory: the receipt, or the intent when there is none. -/
def Accepted (u : VerifiedUpdate) (target : PreopenedInactiveTarget) (d : Device) : Prop :=
  (∀ r, d.receipt = some r → r = u.receipt target) ∧
    (d.receipt = none → ∀ c, d.pending = some c → c = StagingCheckpoint.fromAdmitted u target)

theorem stage_result_ok {context : UpdateContext} {updatesEntitled : Bool} {source : Reader}
    {r : StagingReceipt} (h : (stage u context updatesEntitled source target m).result = .ok r) :
    Accepted u target m.device := by
  obtain ⟨_,_,h⟩ := bind_result_ok.mp h
  obtain ⟨_,_,h⟩ := bind_result_ok.mp h
  obtain ⟨m',hm',h⟩ := bind_result_ok.mp h
  cases hm'
  cases hreceipt : m.device.receipt with
  | some r' =>
    refine ⟨fun r'' hr'' => ?_,fun hn => by cases hreceipt.symm.trans hn⟩
    cases hreceipt.symm.trans hr''
    simp only [lift, Program.read, hreceipt] at h
    obtain ⟨_,hrequire,_⟩ := bind_result_ok.mp h
    exact StagingReceipt.matchesCheckpoint_iff.mp (require_eq_ok.mp hrequire)
  | none =>
    refine ⟨fun _ hr => (by cases hreceipt.symm.trans hr),fun _ c hc => ?_⟩
    simp only [lift, Program.read, hreceipt] at h
    obtain ⟨_,hintent,_⟩ := bind_result_ok.mp h
    obtain ⟨_,hm'',hintent⟩ := bind_result_ok.mp hintent
    cases hm''
    simp only [Program.read, hc] at hintent
    exact require_eq_ok.mp hintent

theorem stageSelected_result_ok {call : CycleCall} {r : StagingReceipt}
    (hboth : ∀ c r, m.device.pending = some c → m.device.receipt = some r → r.matchesCheckpoint c = true)
    (h : (stageSelected identity call u target m).result = .ok r) : Unencumbered u target m.device := by
  have hfound : Accepted u target m.device := by
    obtain ⟨m',hm',h⟩ := bind_result_ok.mp h
    cases hm'
    obtain ⟨status,_,h⟩ := bind_result_ok.mp h
    have hstage : ∀ source, (mapError ResidentUpdateError.staging (stage u (call.input.context identity)
        call.input.updatesEntitled source target) m).result = .ok r → Accepted u target m.device := by
      intro source hsource
      cases hresult : (stage u (call.input.context identity) call.input.updatesEntitled source target
        m).result with
      | ok r' => exact stage_result_ok hresult
      | error e =>
        simp only [mapError, hresult] at hsource
        cases hsource
    cases status with
    | completed r' => exact hstage _ h
    | clean =>
      obtain ⟨source,_,h⟩ := bind_result_ok.mp h
      exact hstage source h
    | interrupted c =>
      obtain ⟨source,_,h⟩ := bind_result_ok.mp h
      exact hstage source h
  refine ⟨hfound.1,fun c hc => ?_⟩
  cases hreceipt : m.device.receipt with
  | none => exact hfound.2 hreceipt c hc
  | some r' =>
    have hmatches := StagingReceipt.matchesCheckpoint_iff.mp (hboth c r' hc hreceipt)
    rw [hfound.1 r' hreceipt] at hmatches
    cases c
    cases hmatches
    rfl

def reportStaged (identity : ResidentIdentity) (call : CycleCall) (u : VerifiedUpdate)
    (receipt : StagingReceipt) : Op ResidentUpdateError UpdateCycleOutcome := do
  let candidate ← lift ((BootActivationCandidate.derive u receipt).mapError .activation)
  mapError .activation (persistCandidate candidate)
  persistAuditReceipt (.sign identity u receipt call.input.issuedAt)
  pure (.staged (.sign identity u receipt call.input.issuedAt))

theorem yields_reportStaged {call : CycleCall} (hcandidate : m.device.candidate = none)
    (hactivation : m.device.activation = none) (haudit : m.device.audit = none) :
    ∃ receipt m', Yields (reportStaged identity call u (u.receipt target)) m (.staged receipt) m' := by
  obtain ⟨candidate,hderive⟩ := derive_receipt u target
  have hderived : (BootActivationCandidate.derive u (u.receipt target)).mapError
      ResidentUpdateError.activation = .ok candidate := by
    rw [hderive]
    rfl
  have hpersist : Yields (persistCandidate candidate) m ()
      (Action.perform (.writeCandidate candidate) m) := by
    refine yields_read.bind ?_
    rw [hcandidate]
    exact (yields_require hactivation).bind yields_act
  have hrecord : ∀ audit, Yields (persistAuditReceipt audit)
    (Action.perform (.writeCandidate candidate) m) ()
      (Action.perform (.writeAudit audit) (Action.perform (.writeCandidate candidate) m)) := by
    intro audit
    refine yields_read.bind ?_
    rw [show (Action.perform (.writeCandidate candidate) m).device.audit = none from haudit]
    exact yields_act
  exact ⟨_,_,(yields_lift hderived).bind (hpersist.mapError.bind ((hrecord _).bind yields_pure))⟩

/-- After any history of published manifests, with failing downloads and crashes anywhere, a complete
cycle for the newest manifest with no activation outstanding stages it exactly when the staging
directory holds nothing of another manifest or of the other slot. -/
theorem newest_manifest_is_staged_iff (identity : ResidentIdentity) (targets : Slot → Target)
    (running : Slot) (boot : BootId) (published : List VerifiedUpdate) (events : List Event)
    (u : VerifiedUpdate) (call : CycleCall)
    (hpublished : published.Pairwise fun a b => a.sequence < b.sequence)
    (hrun : RunOf identity (fun _ e => e.OffersPublished published)
      (Device.start targets running boot.val) events)
    (hu : u ∈ published) (hnewest : ∀ v ∈ published, v.sequence ≤ u.sequence)
    (hcall : call.Complete identity published u) :
    let d := playEvents identity (Device.start targets running boot.val) events
    d.activation = none → d.candidate = none →
      ((∃ receipt, (call.run identity d).result = .ok (.staged receipt)) ↔
        Unencumbered u d.inactiveTarget d) := by
  intro d hactivation hcandidate
  have hjournaled : Journaled published d :=
    hrun.invariant (journaled_start targets running boot.val) fun v e hv he => hv.event he
  have haudit : d.audit = none := by
    by_contra hne
    exact hjournaled.audit hne hcandidate
  obtain ⟨updates,hpull,hmem,hall⟩ := hcall.pull
  have hselected : selectUpdate updates (call.input.context identity) = .ok (some u) :=
    selectUpdate_newest (fun v hv => (hall v hv).2) hmem fun v hv =>
      ⟨hnewest v (hall v hv).1,published_unique hpublished (hall v hv).1 hu⟩
  obtain ⟨admission,hadmission⟩ := hjournaled.admits hpublished hu hnewest
  obtain ⟨m',hpersist,honly⟩ := @yields_persistCheckpoint (call.machine d) admission.nextCheckpoint
  have hmachine : m'.Healthy := by
    rw [honly]
    exact ⟨hcall.faults,hcall.destination⟩
  have hkept : m'.device.pending = d.pending ∧ m'.device.receipt = d.receipt ∧
      m'.device.candidate = none ∧ m'.device.activation = none ∧ m'.device.audit = none := by
    rw [honly]
    exact ⟨rfl,rfl,hcandidate,hactivation,haudit⟩
  obtain ⟨hpending,hreceipt,hcandidate',hactivation',haudit'⟩ := hkept
  have hboth : ∀ c r, m'.device.pending = some c → m'.device.receipt = some r →
      r.matchesCheckpoint c = true := by
    rw [hpending, hreceipt]
    exact hjournaled.both
  have hfree : Unencumbered u d.inactiveTarget m'.device ↔ Unencumbered u d.inactiveTarget d :=
    ⟨fun h => ⟨hreceipt ▸ h.receipt,hpending ▸ h.pending⟩,
      fun h => ⟨hreceipt ▸ h.receipt,hpending ▸ h.pending⟩⟩
  have hpulled : call.pull.mapError ResidentUpdateError.pull = .ok updates := by
    rw [hpull]
    rfl
  have hadmitted : (admitUpdate d.checkpoint u).mapError ResidentUpdateError.update = .ok admission := by
    rw [hadmission]
    rfl
  have hresult : (call.run identity d).result =
      ((stageSelected identity call u d.inactiveTarget >>= reportStaged identity call u) m').result := by
    refine (yields_require hcall.valid).bind_result.trans (yields_read.bind_result.trans ?_)
    rw [show (call.machine d).device.audit = none from haudit]
    refine (yields_require hcall.entitled).bind_result.trans ((yields_lift hpulled).bind_result.trans ?_)
    refine (yields_lift hselected).bind_result.trans (yields_read.bind_result.trans ?_)
    exact (yields_lift hadmitted).bind_result.trans hpersist.bind_result
  rw [hresult, ← hfree]
  constructor
  · rintro ⟨receipt,hok⟩
    obtain ⟨r,hstage,_⟩ := bind_result_ok.mp hok
    exact stageSelected_result_ok hboth hstage
  · intro h
    obtain ⟨m'',hstage,hcandidate'',hactivation'',haudit''⟩ := yields_stageSelected hcall hboth hmachine h
    obtain ⟨receipt,m₃,hreport⟩ := @yields_reportStaged _ u d.inactiveTarget identity m'' call
      (hcandidate''.trans hcandidate') (hactivation''.trans hactivation') (haudit''.trans haudit')
    exact ⟨receipt,(hstage.bind hreport).1⟩

end

namespace UpdateSample

theorem call_complete {u : VerifiedUpdate} {published : List VerifiedUpdate} (hu : u ∈ published)
    (heligible : u.availability (input.context identity) = .eligible)
    (hartifact : (⟨[7],[]⟩ : Reader).Delivers u.artifact.sizeBytes u.artifact.sha256) :
    (call u).Complete identity published u where
  valid := (by decide : input.valid = true)
  entitled := rfl
  pull := ⟨[u],rfl,List.mem_singleton_self u,fun v hv => by
    obtain rfl := List.mem_singleton.mp hv
    exact ⟨hu,heligible⟩⟩
  download := ⟨_,rfl,hartifact⟩
  faults := rfl
  destination := by simp [call]

def interruptedFirst : List Event := [.cycle (call first) (some ⟨3,fun _ => []⟩)]

theorem first_manifest_is_staged_after_crash :
    ∃ receipt, ((call first).run identity (playEvents identity device interruptedFirst)).result =
      .ok (.staged receipt) := by
  have hrun : RunOf identity (fun _ e => e.OffersPublished [first]) device interruptedFirst := by
    refine ⟨fun updates hupdates u hu => ?_,trivial⟩
    cases hupdates
    exact hu
  have hcomplete : (call first).Complete identity [first] first :=
    call_complete (List.mem_singleton_self _) (by decide) ⟨rfl,by decide,by decide⟩
  refine (newest_manifest_is_staged_iff identity _ .A (bootId "a" (by decide)) [first] interruptedFirst
    first (call first) (List.pairwise_singleton _ _) hrun (List.mem_singleton_self _)
    (fun v hv => (List.mem_singleton.mp hv) ▸ Nat.le_refl _) hcomplete (by decide +kernel)
    (by decide +kernel)).mpr ⟨?_,?_⟩
  · have hreceipt : (playEvents identity device interruptedFirst).receipt = none := by decide +kernel
    intro r hr
    cases hreceipt.symm.trans hr
  · have hpending : (playEvents identity device interruptedFirst).pending =
        some (StagingCheckpoint.fromAdmitted first
          (playEvents identity device interruptedFirst).inactiveTarget) := by decide +kernel
    intro c hc
    cases hpending.symm.trans hc
    rfl

/-- A stage that was cut in its stream blocks the next published manifest, in this cycle and in the
next, although nothing fails any more and no activation is outstanding. -/
theorem interrupted_stage_blocks_next_manifest :
    RunOf identity (fun _ e => e.OffersPublished [first,second]) device interruptedFirst ∧
      (call second).Complete identity [first,second] second ∧
      (playEvents identity device interruptedFirst).activation = none ∧
      (playEvents identity device interruptedFirst).candidate = none ∧
      ((call second).run identity (playEvents identity device interruptedFirst)).result =
        .error (.staging .journalConflict) ∧
      ((call second).run identity (playEvents identity device (interruptedFirst ++
        [.cycle (call second) none]))).result = .error (.staging .journalConflict) := by
  refine ⟨⟨fun updates hupdates u hu => ?_,trivial⟩,?_,by decide +kernel,by decide +kernel,
    by decide +kernel,by decide +kernel⟩
  · cases hupdates
    obtain rfl := List.mem_singleton.mp hu
    exact List.mem_cons_self
  · exact call_complete (List.mem_cons_of_mem _ List.mem_cons_self) (by decide) ⟨rfl,by decide,by decide⟩

end UpdateSample

end KernAid.Update
