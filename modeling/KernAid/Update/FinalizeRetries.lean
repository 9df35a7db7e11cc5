import KernAid.Update.Reactivation

/-! Interrupted activations: a later reconciliation goes on from every journal. -/

set_option autoImplicit false

namespace KernAid.Update

open CrashLogic Program

/-- The outcomes an activation in this phase may still record, a rollback included. -/
def ActivationPhase.mayEnd (phase : ActivationPhase) : List ActivationOutcome :=
  .rolledBack :: phase.ends

theorem rollbackPrepared_mayEnd :
    ∀ outcome ∈ ActivationPhase.rollbackPrepared.mayEnd, outcome = .rolledBack := by
  decide

structure Unarchived (candidate : BootActivationCandidate) (d : Device) : Prop where
  receipt : ∀ outcome, d.receiptArchive (candidate.receiptName outcome) = none
  audit : d.auditArchive candidate.auditName = none

section

variable {d : Device} {u : VerifiedUpdate} {target : PreopenedInactiveTarget} {a : Action}

variable {d' : Device} {st next : DurableActivationState} {k : BootActivationCandidate}
  {R : BootActivationReceipt}

theorem Unarchived.congr (h : Unarchived k d) (harchive : d'.receiptArchive = d.receiptArchive)
    (haudits : d'.auditArchive = d.auditArchive) :
    Unarchived k d' :=
  ⟨harchive ▸ h.receipt,haudits ▸ h.audit⟩

theorem final_onTrial {phase : ActivationPhase} {outcome : ActivationOutcome}
    (h : phase.final = some outcome) : phase.onTrial = false := by
  cases phase <;> cases h <;> rfl

theorem archiveReceipt_self (R : BootActivationReceipt) (d : Device) :
    (Action.effect (.archiveReceipt R) d).receiptArchive R.name = some R :=
  Function.update_self _ _ _

theorem archiveReceipt_of_ne {name : ReceiptName} (h : name ≠ R.name) (d : Device) :
    (Action.effect (.archiveReceipt R) d).receiptArchive name = d.receiptArchive name :=
  Function.update_of_ne h _ _

theorem archiveAudit_self (name : AuditName) (audit : SignedUpdateAuditReceipt) (d : Device) :
    (Action.effect (.archiveAudit name audit) d).auditArchive name = some audit :=
  Function.update_self _ _ _

variable [UpdateHash]

/-- A cycle selects no manifest that has a terminal receipt, and the device does not reboot while the
terminal receipt of the journaled activation is archived and the activation is not yet released. -/
def Event.Settling (identity : ResidentIdentity) (d : Device) : Event → Prop
  | .cycle call _ => ∀ u, call.Selects identity u → ∀ outcome,
      d.receiptArchive ⟨u.sequence,u.manifestSha256.shortName,outcome⟩ = none
  | .reboot _ _ _ => ∀ st, d.activation = some st → ∀ outcome ∈ st.phase.mayEnd,
      d.receiptArchive (st.candidate.receiptName outcome) = none
  | _ => True

structure Recordable (st : DurableActivationState) (d : Device) : Prop where
  ready : StagingReady st.candidate d
  staged : st.phase.onTrial = true → StagedFor st.candidate d
  archived : ∀ outcome ∈ st.phase.mayEnd, ∀ R,
    d.receiptArchive (st.candidate.receiptName outcome) = some R →
      R = ⟨st.candidate,outcome,d.bootId⟩ ∧ outcome ∈ st.phase.ends ∧ st.phase.onTrial = false
  audit : ∀ a a', d.audit = some a → d.auditArchive st.candidate.auditName = some a' → a' = a

structure Settled (d : Device) : Prop where
  boot : validBootId d.bootId = true
  both : ∀ c r, d.pending = some c → d.receipt = some r → r.matchesCheckpoint c = true
  candidate : ∀ k, d.candidate = some k → d.activation = none → Unarchived k d
  activation : ∀ st, d.activation = some st → Recordable st d
  audit : d.activation = none → d.audit ≠ none → d.candidate ≠ none
  last : ∀ R, d.activation = none → d.lastReceipt = some R → R.outcome = .succeeded →
    d.receiptArchive (R.candidate.receiptName .rolledBack) = none
  names : ∀ name R, d.receiptArchive name = some R → name = R.name
  audits : ∀ name, d.auditArchive name ≠ none →
    ∃ outcome, d.receiptArchive ⟨name.sequence,name.manifest,outcome⟩ ≠ none

theorem Recordable.congr (h : Recordable st d) (hreceipt : d'.receipt = d.receipt)
    (hpending : d'.pending = d.pending) (harchive : d'.receiptArchive = d.receiptArchive)
    (haudits : d'.auditArchive = d.auditArchive) (haudit : d'.audit = d.audit)
    (hboot : d'.bootId = d.bootId) : Recordable st d' where
  ready := ⟨hreceipt ▸ hpending ▸ h.ready.receipt,hreceipt ▸ hpending ▸ h.ready.pending⟩
  staged := fun hon => by
    obtain ⟨r,hr,hmatches⟩ := h.staged hon
    exact ⟨r,hreceipt.trans hr,hmatches⟩
  archived := harchive ▸ hboot ▸ h.archived
  audit := haudit ▸ haudits ▸ h.audit

theorem Settled.unarchived (h : Settled d) (hk : CandidateOf (u.receipt target) k)
    (hu : ∀ outcome, d.receiptArchive ⟨u.sequence,u.manifestSha256.shortName,outcome⟩ = none) :
    Unarchived k d := by
  have hreceipt : ∀ outcome, d.receiptArchive (k.receiptName outcome) = none := by
    intro outcome
    rw [BootActivationCandidate.receiptName, hk.sequence, hk.manifestSha256]
    exact hu outcome
  refine ⟨hreceipt,?_⟩
  by_contra haudit
  obtain ⟨outcome,houtcome⟩ := h.audits _ haudit
  exact houtcome (hreceipt outcome)

theorem Settled.congr (h : Settled d) (hboot : d'.bootId = d.bootId)
    (hpending : d'.pending = d.pending) (hreceipt : d'.receipt = d.receipt)
    (hcandidate : d'.candidate = d.candidate) (hactivation : d'.activation = d.activation)
    (haudit : d'.audit = d.audit) (hlast : d'.lastReceipt = d.lastReceipt)
    (harchive : d'.receiptArchive = d.receiptArchive) (haudits : d'.auditArchive = d.auditArchive) :
    Settled d' where
  boot := hboot ▸ h.boot
  both := hpending ▸ hreceipt ▸ h.both
  candidate := fun k hk hnone =>
    (h.candidate k (hcandidate ▸ hk) (hactivation ▸ hnone)).congr harchive haudits
  activation := fun st hst =>
    (h.activation st (hactivation ▸ hst)).congr hreceipt hpending harchive haudits haudit hboot
  audit := hactivation ▸ haudit ▸ hcandidate ▸ h.audit
  last := hactivation ▸ hlast ▸ harchive ▸ h.last
  names := harchive ▸ h.names
  audits := haudits ▸ harchive ▸ h.audits

theorem Settled.removePending (h : Settled d) : Settled (Action.effect .removePending d) :=
  { h with
    both := fun _ _ hc => by cases hc
    candidate := fun k hk hn => (h.candidate k hk hn).congr rfl rfl
    activation := fun st hst =>
      { h.activation st hst with
        ready := ⟨fun r hr => ⟨((h.activation st hst).ready.receipt r hr).1,fun _ hc => by cases hc⟩,
          fun _ => rfl⟩ } }

theorem Settled.cycle (h : Settled d) (hslots : Slots d) (ha : CycleAction u target a d)
    (horderly : d.activation = none ∨ d.receipt ≠ none)
    (hu : ∀ outcome, d.receiptArchive ⟨u.sequence,u.manifestSha256.shortName,outcome⟩ = none) :
    Settled (a.effect d) := by
  cases a with
  | writePending c =>
    obtain ⟨_,_,_,hreceipt⟩ := ha
    have hnone : d.activation = none := horderly.resolve_right fun hne => hne hreceipt
    exact { h with
      both := fun _ r _ hr => by cases hreceipt.symm.trans hr
      candidate := fun k hk hn => (h.candidate k hk hn).congr rfl rfl
      activation := fun st hst => by cases hnone.symm.trans hst }
  | removePending => exact h.removePending
  | writeReceipt r =>
    obtain ⟨_,rfl,hintended,_⟩ := ha
    have hnone : d.activation = none := horderly.resolve_right fun hne => hne hintended.2
    exact { h with
      both := fun c r hc hr => by
        cases hr
        cases hintended.1.symm.trans hc
        exact StagingReceipt.matchesCheckpoint_iff.mpr rfl
      candidate := fun k hk hn => (h.candidate k hk hn).congr rfl rfl
      activation := fun st hst => by cases hnone.symm.trans hst }
  | writeCandidate k =>
    obtain ⟨_,hk,_,_,hnone⟩ := ha
    exact { h with
      candidate := fun k' hk' _ => by
        cases hk'
        exact (h.unarchived hk hu).congr rfl rfl
      activation := fun st hst => by cases hnone.symm.trans hst
      audit := fun _ _ => Option.some_ne_none _ }
  | writeAudit audit =>
    obtain ⟨_,hreceipt,k,hk,_⟩ := ha
    exact { h with
      candidate := fun k hk hn => (h.candidate k hk hn).congr rfl rfl
      activation := fun st hst =>
        { h.activation st hst with
          ready := ⟨(h.activation st hst).ready.receipt,(h.activation st hst).ready.pending⟩
          audit := fun _ a' _ ha' => by
            -- the journaled activation is of this very manifest, which has no archived audit
            have hof := (hslots.activation st hst).2.2 _ hreceipt
            cases (h.unarchived hof hu).audit.symm.trans ha' }
      audit := fun _ _ => fun hcandidate => by cases hk.symm.trans hcandidate }
  | writeCheckpoint k => exact h.congr rfl rfl rfl rfl rfl rfl rfl rfl rfl
  | truncate slot => exact h.congr rfl rfl rfl rfl rfl rfl rfl rfl rfl
  | writeAt slot position bytes => exact h.congr rfl rfl rfl rfl rfl rfl rfl rfl rfl
  | sync slot => exact h.congr rfl rfl rfl rfl rfl rfl rfl rfl rfl
  | _ => exact ha.2.elim

/-- A change of the phase keeps the outcomes recordable when it adds none, and when the phases after a
trial can record only what they name. -/
theorem Recordable.withPhase {phase : ActivationPhase} (h : Recordable st d)
    (hon : phase.onTrial = true → st.phase.onTrial = true)
    (hmay : ∀ outcome ∈ phase.mayEnd, outcome ∈ st.phase.mayEnd)
    (hends : st.phase.onTrial = false → ∀ outcome ∈ phase.mayEnd, outcome ∈ phase.ends) :
    Recordable (st.withPhase phase d.bootId)
      (Action.effect (.writeState (st.withPhase phase d.bootId)) d) where
  ready := ⟨h.ready.receipt,h.ready.pending⟩
  staged := fun hp => h.staged (hon hp)
  archived := fun outcome ho R hR => by
    obtain ⟨hR,_,htrial⟩ := h.archived outcome (hmay outcome ho) R hR
    refine ⟨hR,hends htrial outcome ho,?_⟩
    change phase.onTrial = false
    exact Bool.eq_false_iff.mpr fun hp => by
      rw [hon hp] at htrial
      cases htrial
  audit := h.audit

theorem Settled.prepare (h : Settled d) (hslots : Slots d) (hnone : d.activation = none)
    (hk : d.candidate = some k) :
    Recordable ⟨k,.prepared,d.bootId⟩ d := by
  obtain ⟨r,hr,hof⟩ := hslots.candidate k hk hnone
  have hfree := h.candidate k hk hnone
  exact
    { ready := ⟨fun r' hr' => by
        cases hr.symm.trans hr'
        exact ⟨hof.matchesStaging,fun c hc => h.both c r hc hr⟩,fun hn => by cases hr.symm.trans hn⟩
      staged := fun _ => ⟨r,hr,hof.matchesStaging⟩
      archived := fun outcome _ R hR => by cases (hfree.receipt outcome).symm.trans hR
      audit := fun _ a' _ ha' => by cases hfree.audit.symm.trans ha' }

theorem Settled.writeState (h : Settled d)
    (hnext : Recordable next (Action.effect (.writeState next) d)) :
    Settled (Action.effect (.writeState next) d) :=
  { h with
    candidate := fun _ _ hnone => by cases hnone
    activation := fun st hst => by
      cases hst
      exact hnext
    audit := fun hnone => by cases hnone
    last := fun _ hnone => by cases hnone }

theorem Settled.transition (h : Settled d) (hslots : Slots d) (ht : Transition d next) :
    Settled (Action.effect (.writeState next) d) := by
  refine h.writeState ?_
  cases ht with
  | prepare k hnone hk => exact (h.prepare hslots hnone hk).congr rfl rfl rfl rfl rfl rfl
  | arm st hst hphase =>
    exact (h.activation st hst).withPhase (fun _ => by rw [hphase]; rfl) (by rw [hphase]; decide)
      (by rw [hphase]; decide)
  | promote st hst hphase =>
    obtain hphase | hphase := hphase
    all_goals
      exact (h.activation st hst).withPhase (fun _ => by rw [hphase]; rfl) (by rw [hphase]; decide)
        (by rw [hphase]; decide)
  | fallBack st hst hphase =>
    obtain hphase | hphase := hphase
    all_goals
      exact (h.activation st hst).withPhase (fun hp => by cases hp) (by rw [hphase]; decide)
        (by rw [hphase]; decide)
  | succeed st hst hphase =>
    exact (h.activation st hst).withPhase (fun hp => by cases hp) (by rw [hphase]; decide)
      (by rw [hphase]; decide)
  | armRollback st hst hphase =>
    exact (h.activation st hst).withPhase (fun hp => by cases hp) (by rw [hphase]; decide)
      fun _ => by decide
  | rolledBack st hst hphase =>
    exact (h.activation st hst).withPhase (fun hp => by cases hp) (by rw [hphase]; decide)
      fun _ => by decide

theorem Settled.rollback (h : Settled d) (hslots : Slots d) (ht : RollbackTransition d next)
    (horderly : d.activation ≠ none ∨ (d.pending = none ∧ d.receipt = none)) :
    Settled (Action.effect (.writeState next) d) := by
  refine h.writeState ?_
  cases ht with
  | journaled st hst =>
    refine (h.activation st hst).withPhase (fun hp => by cases hp) (fun outcome ho => ?_)
      fun _ => by decide
    rw [rollbackPrepared_mayEnd outcome ho]
    exact List.mem_cons_self
  | last R hnone hlast houtcome =>
    obtain ⟨hpending,hreceipt⟩ := horderly.resolve_left fun hne => hne hnone
    exact
      { ready := ⟨fun r hr => (by cases hreceipt.symm.trans hr),fun _ => hpending⟩
        staged := fun hp => by cases hp
        archived := fun outcome ho R' hR' => by
          cases rollbackPrepared_mayEnd outcome ho
          cases (h.last R hnone hlast houtcome).symm.trans hR'
        audit := fun a _ haudit _ => by
          have hcandidate := h.audit hnone fun hn => by cases hn.symm.trans haudit
          obtain ⟨k,hk⟩ := Option.ne_none_iff_exists'.mp hcandidate
          obtain ⟨r,hr,_⟩ := hslots.candidate k hk hnone
          cases hreceipt.symm.trans hr }

theorem Settled.archiveReceipt (h : Settled d) (hR : Finalizing R d)
    (hfree : d.receiptArchive R.name = none) : Settled (Action.effect (.archiveReceipt R) d) := by
  obtain ⟨st,hst,hphase,hcandidate,hboot⟩ := hR
  have hgrows : ∀ name, d.receiptArchive name ≠ none →
      (Action.effect (.archiveReceipt R) d).receiptArchive name ≠ none := by
    intro name hname
    have hne : name ≠ R.name := fun heq => hname (heq ▸ hfree)
    rw [archiveReceipt_of_ne hne]
    exact hname
  exact
    { h with
      candidate := fun _ _ hnone => by cases hst.symm.trans hnone
      activation := fun st' hst' => by
        cases hst.symm.trans hst'
        refine
          { h.activation st hst with
            ready := ⟨(h.activation st hst).ready.receipt,(h.activation st hst).ready.pending⟩
            archived := fun outcome ho R' hR' => ?_ }
        by_cases hname : st.candidate.receiptName outcome = R.name
        · have houtcome : outcome = R.outcome := congrArg ReceiptName.outcome hname
          rw [hname] at hR'
          cases (archiveReceipt_self R d).symm.trans hR'
          subst houtcome
          refine ⟨?_,ActivationPhase.final_mem_ends hphase,final_onTrial hphase⟩
          rw [← hcandidate]
          change R = ⟨R.candidate,R.outcome,d.bootId⟩
          rw [← hboot]
        · exact (h.activation st hst).archived outcome ho R'
            ((archiveReceipt_of_ne hname d).symm.trans hR')
      last := fun _ hnone => by cases hst.symm.trans hnone
      names := fun name R' hR' => by
        by_cases hname : name = R.name
        · subst hname
          cases (archiveReceipt_self R d).symm.trans hR'
          rfl
        · exact h.names name R' ((archiveReceipt_of_ne hname d).symm.trans hR')
      audits := fun name hname => by
        obtain ⟨outcome,ho⟩ := h.audits name hname
        exact ⟨outcome,hgrows _ ho⟩ }

theorem Settled.archiveAudit {audit : SignedUpdateAuditReceipt} (h : Settled d) (hR : Recorded R d)
    (haudit : d.audit = some audit) :
    Settled (Action.effect (.archiveAudit R.candidate.auditName audit) d) := by
  obtain ⟨⟨st,hst,_,hcandidate,_⟩,harchive,_⟩ := hR
  exact
    { h with
      candidate := fun _ _ hnone => by cases hst.symm.trans hnone
      activation := fun st' hst' => by
        cases hst.symm.trans hst'
        refine
          { h.activation st hst with
            ready := ⟨(h.activation st hst).ready.receipt,(h.activation st hst).ready.pending⟩
            audit := fun a a' ha ha' => ?_ }
        cases haudit.symm.trans ha
        rw [hcandidate] at ha'
        exact (Option.some.inj ((archiveAudit_self _ _ _).symm.trans ha')).symm
      audits := fun name hname => by
        by_cases heq : name = R.candidate.auditName
        · subst heq
          refine ⟨R.outcome,?_⟩
          change d.receiptArchive R.name ≠ none
          rw [harchive]
          exact Option.some_ne_none _
        · exact h.audits name ((Function.update_of_ne heq _ _).symm.trans_ne hname) }

theorem Settled.removeState (h : Settled d) (hR : Recorded R d) (haudit : d.audit = none)
    (hcandidate : d.candidate = none) :
    Settled (Action.effect .removeState d) := by
  obtain ⟨⟨st,hst,hphase,hof,_⟩,_,hlast⟩ := hR
  exact
    { h with
      candidate := fun _ hk _ => by cases hcandidate.symm.trans hk
      activation := fun _ hst => by cases hst
      audit := fun _ hne => absurd haudit hne
      last := fun R' _ hR' houtcome => by
        cases hlast.symm.trans hR'
        by_contra hne
        obtain ⟨R',hR'⟩ := Option.ne_none_iff_exists'.mp hne
        rw [hof] at hR'
        have hmem := ((h.activation st hst).archived .rolledBack List.mem_cons_self R' hR').2.1
        rw [houtcome] at hphase
        have hsucceeded : st.phase = .finalizeSucceeded := by
          revert hphase
          cases st.phase <;> simp [ActivationPhase.final]
        rw [hsucceeded] at hmem
        revert hmem
        decide }

theorem Settled.activator (h : Settled d) (hslots : Slots d) (ha : ActivatorAction a d) :
    Settled (a.effect d) := by
  cases a with
  | writeState next => exact h.transition hslots ha
  | archiveReceipt R => exact h.archiveReceipt ha.1 ha.2
  | writeLastReceipt R =>
    obtain ⟨⟨st,hst,_⟩,_⟩ := ha
    exact
      { h with
        candidate := fun _ _ hnone => by cases hst.symm.trans hnone
        activation := fun st hst => (h.activation st hst).congr rfl rfl rfl rfl rfl rfl
        last := fun _ hnone => by cases hst.symm.trans hnone }
  | archiveAudit name audit =>
    obtain ⟨R,hR,rfl,haudit,_⟩ := ha
    exact h.archiveAudit hR haudit
  | removeAudit =>
    exact
      { h with
        candidate := fun k hk hn => (h.candidate k hk hn).congr rfl rfl
        activation := fun st hst =>
          { h.activation st hst with
            ready := ⟨(h.activation st hst).ready.receipt,(h.activation st hst).ready.pending⟩
            audit := fun _ _ ha => by cases ha }
        audit := fun _ hne => absurd rfl hne }
  | removePending => exact h.removePending
  | removeReceipt =>
    obtain ⟨R,_,⟨⟨st,hst,hphase,_⟩,_⟩,_,_,_,hpending⟩ := ha
    exact
      { h with
        both := fun _ _ _ hr => by cases hr
        candidate := fun _ _ hnone => by cases hst.symm.trans hnone
        activation := fun st' hst' => by
          cases hst.symm.trans hst'
          exact
            { h.activation st hst with
              ready := ⟨fun _ hr => (by cases hr),fun _ => hpending⟩
              staged := fun hon => by
                rw [final_onTrial hphase] at hon
                cases hon } }
  | removeCandidate =>
    obtain ⟨⟨_,⟨st,hst,_⟩,_⟩,_⟩ := ha
    exact
      { h with
        candidate := fun _ hk => by cases hk
        activation := fun st hst => (h.activation st hst).congr rfl rfl rfl rfl rfl rfl
        audit := fun hnone => by cases hst.symm.trans hnone }
  | removeState =>
    obtain ⟨⟨R,hR⟩,haudit,_,_,hcandidate⟩ := ha
    exact h.removeState hR haudit hcandidate
  | preflight k t => exact h
  | armTrial k t => exact h
  | promote t => exact h
  | armRollback k => exact h
  | _ => exact ha.elim

theorem Settled.settle (h : Settled d) (lost : Slot → List UInt8) : Settled (d.settle lost) :=
  h.congr rfl rfl rfl rfl rfl rfl rfl rfl rfl

theorem Settled.reboot {slot : Slot} {boot : BootId} (h : Settled d)
    (hfree : ∀ st, d.activation = some st → ∀ outcome ∈ st.phase.mayEnd,
      d.receiptArchive (st.candidate.receiptName outcome) = none)
    (lost : Slot → List UInt8) : Settled (d.reboot slot boot lost) :=
  { h with
    boot := boot.property
    candidate := fun k hk hn => (h.candidate k hk hn).congr rfl rfl
    activation := fun st hst =>
      { h.activation st hst with
        ready := ⟨(h.activation st hst).ready.receipt,(h.activation st hst).ready.pending⟩
        archived := fun outcome ho R hR => by cases (hfree st hst outcome ho).symm.trans hR } }

theorem Settled.event {identity : ResidentIdentity} {event : Event} (h : Settled d) (hslots : Slots d)
    (horderly : event.Orderly d) (hsettling : event.Settling identity d) :
    Settled (event.after identity d) := by
  cases event with
  | cycle call crash =>
    refine (@Event.preserves _ d identity (.cycle call crash)
      (fun v => (Slots v ∧ Settled v) ∧ v.running = d.running ∧
        (v.activation = none ∨ v.receipt ≠ none) ∧ v.receiptArchive = d.receiptArchive)
      ⟨⟨hslots,h⟩,rfl,horderly,rfl⟩ ?_ (fun v lost hv => ⟨⟨hv.1.1.settle lost,hv.1.2.settle lost⟩,hv.2⟩)
      (fun _ _ _ h => by cases h)).2.1.2
    rintro a v ⟨u,hu,ha⟩ ⟨⟨hslots,hv⟩,hrunning,horder,harchive⟩
    refine ⟨⟨hslots.cycle ha hrunning.symm horder,hv.cycle hslots ha horder fun outcome => ?_⟩,
      (Action.effect_running a v).trans hrunning,ha.orderly horder,ha.receiptArchive.trans harchive⟩
    rw [harchive]
    exact hsettling u hu outcome
  | reconcile selector crash =>
    exact (@Event.preserves _ d identity (.reconcile selector crash) (fun v => Slots v ∧ Settled v)
      ⟨hslots,h⟩ (fun a v ha ⟨hslots,hv⟩ => ⟨hslots.activator ha,hv.activator hslots ha⟩)
      (fun v lost hv => ⟨hv.1.settle lost,hv.2.settle lost⟩) (fun _ _ _ h => by cases h)).2.2
  | rollback selector crash =>
    refine (@Event.preserves _ d identity (.rollback selector crash)
      (fun v => (Slots v ∧ Settled v) ∧ (v.activation ≠ none ∨ (v.pending = none ∧ v.receipt = none)))
      ⟨⟨hslots,h⟩,horderly⟩ ?_ (fun v lost hv => ⟨⟨hv.1.1.settle lost,hv.1.2.settle lost⟩,hv.2⟩)
      (fun _ _ _ h => by cases h)).2.1.2
    rintro a v ha ⟨⟨hslots,hv⟩,horder⟩
    refine ⟨?_,RollbackAction.orderly ha horder⟩
    obtain ha | ⟨next,rfl,ht⟩ := ha
    · exact ⟨hslots.activator ha,hv.activator hslots ha⟩
    · exact ⟨hslots.rollback ht horder,hv.rollback hslots ht horder⟩
  | reboot slot boot lost => exact h.reboot hsettling lost

theorem settled_start (targets : Slot → Target) (running : Slot) (boot : BootId) :
    Settled (Device.start targets running boot.val) where
  boot := boot.property
  both := fun _ _ hc => by cases hc
  candidate := fun _ hk => by cases hk
  activation := fun _ hst => by cases hst
  audit := fun _ hne => absurd rfl hne
  last := fun _ _ hR => by cases hR
  names := fun _ _ hR => by cases hR
  audits := fun _ hne => absurd rfl hne

theorem Recordable.canFinalize {outcome : ActivationOutcome} (h : Recordable st d)
    (houtcome : outcome ∈ st.phase.ends) :
    CanFinalize st.candidate outcome d where
  archive := fun R hR => (h.archived outcome (List.mem_cons_of_mem _ houtcome) R hR).1
  audit := h.audit
  ready := h.ready

theorem Settled.reconcilable (h : Settled d) (hslots : Slots d) : Reconcilable d where
  resume := fun st hst => ⟨(h.activation st hst).staged,fun _ ho => (h.activation st hst).canFinalize ho⟩
  prepare := fun _ hnone hk =>
    ⟨(h.prepare hslots hnone hk).staged,fun _ ho => (h.prepare hslots hnone hk).canFinalize ho⟩

/-- After every run of cycles, reconciliations, rollbacks and reboots that meet the conditions, each
call cut by a crash anywhere, a reconciliation meets no conflict of the journal, and a journaled
finalisation reaches its outcome with one terminal receipt and everything else released. -/
theorem reconciliation_goes_on (identity : ResidentIdentity) (targets : Slot → Target)
    (running : Slot) (boot : BootId) (events : List Event) (selector : List Bool)
    (hrun : RunOf identity (fun d e => e.Fresh d ∧ e.Orderly d ∧ e.Settling identity d)
      (Device.start targets running boot.val) events) :
    let d := playEvents identity (Device.start targets running boot.val) events
    let after := reconcileRun selector d
    NoConflict after.result ∧
      ∀ st outcome, d.activation = some st → st.phase.final = some outcome →
        after.result = .ok outcome.reconciled ∧
        after.final.device.activation = none ∧ after.final.device.candidate = none ∧
        after.final.device.pending = none ∧ after.final.device.receipt = none ∧
        ∀ name R, (after.final.device.receiptArchive name = some R ∧ R.candidate = st.candidate ∧
            R.outcome = outcome) ↔
          name = st.candidate.receiptName outcome ∧ R = ⟨st.candidate,outcome,d.bootId⟩ := by
  intro d after
  obtain ⟨hslots,hsettled⟩ : Slots d ∧ Settled d :=
    @RunOf.invariant _ _ identity _ (fun v => Slots v ∧ Settled v) _ hrun
      ⟨slots_start targets running boot.val,settled_start targets running boot⟩
      fun v e hv he => ⟨(hv.1.event he.1 he.2.1).2,hv.2.event hv.1 he.2.1 he.2.2⟩
  refine ⟨(meets_reconcile (activatorMachine selector d) rfl).2 (hsettled.reconcilable hslots),?_⟩
  intro st outcome hst hphase
  have hcan := (hsettled.activation st hst).canFinalize (ActivationPhase.final_mem_ends hphase)
  obtain ⟨hresult,hfinished⟩ :=
    (meets_reconcile_final hsettled.boot hst hphase hcan (activatorMachine selector d) rfl).2
  have hafter : Settled after.final.device :=
    @Settled.event d _ identity (.reconcile selector none) hsettled hslots trivial trivial
  refine ⟨hresult,hfinished.activation,hfinished.candidate,hfinished.pending,hfinished.receipt,?_⟩
  intro name R
  constructor
  · rintro ⟨hR,hcandidate,houtcome⟩
    have hname : name = st.candidate.receiptName outcome := by
      rw [hafter.names name R hR, BootActivationReceipt.name, hcandidate, houtcome]
    rw [hname] at hR
    exact ⟨hname,Option.some.inj (hR.symm.trans hfinished.archive)⟩
  · rintro ⟨rfl,rfl⟩
    exact ⟨hfinished.archive,rfl,rfl⟩

theorem settling_reboot_of_all {identity : ResidentIdentity} {slot : Slot} {boot : BootId}
    {lost : Slot → List UInt8}
    (h : (d.activation.all fun st => st.phase.mayEnd.all fun outcome =>
      (d.receiptArchive (st.candidate.receiptName outcome)).isNone) = true) :
    (Event.reboot slot boot lost).Settling identity d := by
  intro st hst outcome houtcome
  rw [hst] at h
  exact Option.isNone_iff_eq_none.mp (List.all_eq_true.mp h outcome houtcome)

end

namespace UpdateSample

/-- The first update is tried, and its promotion is cut right after the terminal receipt is archived. -/
def cutShort : List Event :=
  [.cycle (call first) none,.reconcile [] none,.reboot .B (bootId "b" validBootId_b) (fun _ => []),
    .reconcile [] (some ⟨4,fun _ => []⟩)]

theorem reconciliation_goes_on_after_crash :
    RunOf identity (fun d e => e.Fresh d ∧ e.Orderly d ∧ e.Settling identity d) device cutShort ∧
      NoConflict (reconcileRun [] (playEvents identity device cutShort)).result := by
  have hrun : RunOf identity (fun d e => e.Fresh d ∧ e.Orderly d ∧ e.Settling identity d) device
      cutShort := by
    refine ⟨⟨trivial,by decide +kernel,fun _ _ _ => rfl⟩,⟨trivial,trivial,trivial⟩,
      ⟨by decide +kernel,trivial,?_⟩,⟨trivial,trivial,trivial⟩,trivial⟩
    exact settling_reboot_of_all (by decide +kernel)
  exact ⟨hrun,(reconciliation_goes_on identity _ .A (bootId "a" (by decide)) cutShort [] hrun).1⟩

/-- After a crash right after the terminal receipt is archived and a reboot, the reconciliation of the
journaled finalisation fails, and so does every later one. -/
theorem finalisation_conflicts_after_reboot :
    let events := cutShort ++ [.reboot .B (bootId "c" (by decide)) (fun _ => [])]
    RunOf identity (fun d e => e.Fresh d ∧ e.Orderly d) device events ∧
      (playEvents identity device events).activation.map DurableActivationState.phase =
        some .finalizeSucceeded ∧
      (reconcileRun [] (playEvents identity device events)).result = .error .journalConflict ∧
      (reconcileRun [] (playEvents identity device (events ++ [.reconcile [] none,
        .reboot .B (bootId "d" (by decide)) (fun _ => [])]))).result = .error .journalConflict := by
  decide +kernel

end UpdateSample

end KernAid.Update
