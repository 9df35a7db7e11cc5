import KernAid.Update.EngineSteps

/-! Which slots the boot selector is told to boot, over whole histories. -/

set_option autoImplicit false

namespace KernAid.Update

open CrashLogic Program

section

variable [UpdateHash]

/-- The receipt is the one of an update whose sequence and manifest were admitted. -/
def AdmittedReceipt (d : Device) (r : StagingReceipt) : Prop :=
  ∃ (u : VerifiedUpdate) (target : PreopenedInactiveTarget), r = u.receipt target ∧
    ∃ k ∈ d.admitted, k.sequence = u.sequence ∧ k.manifestSha256 = u.manifestSha256

/-- What the journal says about the slots is true: the active slots it names have not been written
since they ran, and so is the known-good slot of an activation or of a last success. -/
structure Slots (d : Device) : Prop where
  running : d.intact d.running = true
  checkpoint : ∀ k, d.checkpoint = some k → k ∈ d.admitted
  pending : ∀ c, d.pending = some c → d.intact c.activeSlot = true ∧
    AdmittedReceipt d (StagingReceipt.fromCheckpoint c)
  receipt : ∀ r, d.receipt = some r → d.intact r.activeSlot = true ∧ AdmittedReceipt d r
  candidate : ∀ k, d.candidate = some k → d.activation = none →
    ∃ r, d.receipt = some r ∧ CandidateOf r k
  activation : ∀ st, d.activation = some st → d.intact st.candidate.knownGoodSlot = true ∧
    (d.receipt = none → d.pending = none) ∧ ∀ r, d.receipt = some r → CandidateOf r st.candidate
  last : ∀ R, d.lastReceipt = some R → R.outcome = .succeeded → d.pending = none →
    d.receipt = none → d.intact R.candidate.knownGoodSlot = true
  trial : ∀ st, d.activation = some st → (st.phase = .prepared ∨ st.phase = .armed) →
    (st.candidate,st.transitionBootId) ∈ d.prepared
  promoting : ∀ st, d.activation = some st → st.phase = .promotePrepared →
    ∃ b, (st.candidate,b) ∈ d.prepared ∧ b ≠ d.bootId
  boot : d.bootId ∈ d.boots
  boots : ∀ p ∈ d.prepared, p.2 ∈ d.boots

/-- A cycle does not run while an activation is journaled without its staging receipt, and a rollback
of the last success does not start over a staging directory in use. -/
def Event.Orderly (d : Device) : Event → Prop
  | .cycle _ _ => d.activation = none ∨ d.receipt ≠ none
  | .rollback _ _ => d.activation ≠ none ∨ (d.pending = none ∧ d.receipt = none)
  | _ => True

omit [UpdateHash] in
instance Event.decidableFresh (d : Device) : (e : Event) → Decidable (e.Fresh d)
  | .cycle _ _ => isTrue trivial
  | .reconcile _ _ => isTrue trivial
  | .rollback _ _ => isTrue trivial
  | .reboot _ boot _ => inferInstanceAs (Decidable (boot.val ∉ d.boots))

instance Event.decidableOrderly (d : Device) : (e : Event) → Decidable (e.Orderly d)
  | .cycle _ _ => inferInstanceAs (Decidable (d.activation = none ∨ d.receipt ≠ none))
  | .reconcile _ _ => isTrue trivial
  | .rollback _ _ =>
    inferInstanceAs (Decidable (d.activation ≠ none ∨ (d.pending = none ∧ d.receipt = none)))
  | .reboot _ _ _ => isTrue trivial

instance decidableRunOf (identity : ResidentIdentity) (allowed : Device → Event → Prop)
    [∀ d e, Decidable (allowed d e)] :
    (d : Device) → (events : List Event) → Decidable (RunOf identity allowed d events)
  | _, [] => isTrue trivial
  | d, event :: events =>
    haveI := decidableRunOf identity allowed (event.after identity d) events
    inferInstanceAs (Decidable (allowed d event ∧ RunOf identity allowed (event.after identity d) events))

variable {d : Device} {u : VerifiedUpdate} {target : PreopenedInactiveTarget}

theorem Cycling.admitted (h : Cycling u d) (hd : Slots d) : AdmittedReceipt d (u.receipt target) := by
  obtain ⟨_,k,hk,hsequence,hdigest⟩ := h
  exact ⟨u,target,rfl,k,hd.checkpoint k hk,hsequence,hdigest⟩

theorem AdmittedReceipt.mono {d' : Device} {r : StagingReceipt} (h : AdmittedReceipt d r)
    (hadmitted : ∀ k ∈ d.admitted, k ∈ d'.admitted) : AdmittedReceipt d' r := by
  obtain ⟨u,target,hr,k,hk,h⟩ := h
  exact ⟨u,target,hr,k,hadmitted k hk,h⟩

/-- The target of the stream is the only slot it makes unfit, and nothing else in the journal speaks
of the slots then. -/
theorem Slots.rewrite (h : Slots d) (hactive : target.activeSlot = d.running)
    (hintended : Intended (StagingCheckpoint.fromAdmitted u target) d) (hnone : d.activation = none)
    (t : Target) : Slots (d.rewrite target.targetSlot t) := by
  have hkept : ∀ s, s ≠ target.targetSlot →
      (d.rewrite target.targetSlot t).intact s = d.intact s :=
    fun s hs => Function.update_of_ne hs _ _
  have hrunning : d.running ≠ target.targetSlot := by
    rw [← hactive, target.bound]
    exact (Slot.inactive_ne _).symm
  refine
    { running := (hkept _ hrunning).trans h.running
      checkpoint := h.checkpoint
      pending := fun c hc => ?_
      receipt := fun r hr => ?_
      candidate := h.candidate
      activation := fun st hst => ?_
      last := fun R hR ho hp _ => ?_
      trial := h.trial
      promoting := h.promoting
      boot := h.boot
      boots := h.boots }
  · obtain ⟨hintact,hadmitted⟩ := h.pending c hc
    cases hintended.1.symm.trans hc
    have hother : target.activeSlot ≠ target.targetSlot := by
      rw [hactive]
      exact hrunning
    exact ⟨(hkept _ hother).trans hintact,hadmitted⟩
  · cases hintended.2.symm.trans hr
  · cases hnone.symm.trans hst
  · cases hintended.1.symm.trans hp

theorem Slots.cycle {a : Action} (h : Slots d) (ha : CycleAction u target a d)
    (hactive : target.activeSlot = d.running) (horderly : d.activation = none ∨ d.receipt ≠ none) :
    Slots (a.effect d) := by
  cases a with
  | writeCheckpoint k =>
    have hmono : ∀ k' ∈ d.admitted, k' ∈ (Action.effect (.writeCheckpoint k) d).admitted :=
      fun k' hk' => List.mem_cons_of_mem k hk'
    exact
      { h with
        checkpoint := fun k' hk' => by
          cases hk'
          exact List.mem_cons_self
        pending := fun c hc => ⟨(h.pending c hc).1,(h.pending c hc).2.mono hmono⟩
        receipt := fun r hr => ⟨(h.receipt r hr).1,(h.receipt r hr).2.mono hmono⟩ }
  | writePending c =>
    obtain ⟨hcycling,rfl,_,hreceipt⟩ := ha
    have hnone : d.activation = none := horderly.resolve_right fun hne => hne hreceipt
    exact
      { h with
        pending := fun c hc => by
          cases hc
          refine ⟨?_,hcycling.admitted h⟩
          change d.intact target.activeSlot = true
          rw [hactive]
          exact h.running
        activation := fun st hst => by cases hnone.symm.trans hst
        last := fun _ _ _ hp => by cases hp }
  | removePending =>
    obtain ⟨_,_,hreceipt⟩ := ha
    exact
      { h with
        pending := fun _ hc => by cases hc
        activation := fun st hst => ⟨(h.activation st hst).1,fun _ => rfl,(h.activation st hst).2.2⟩
        last := fun _ _ _ _ hr => by cases hreceipt.symm.trans hr }
  | writeReceipt r =>
    obtain ⟨hcycling,rfl,hintended,_⟩ := ha
    have hnone : d.activation = none := horderly.resolve_right fun hne => hne hintended.2
    exact
      { h with
        receipt := fun r hr => by
          cases hr
          exact ⟨(h.pending _ hintended.1).1,hcycling.admitted h⟩
        candidate := fun k hk hactivation => by
          obtain ⟨r,hr,_⟩ := h.candidate k hk hactivation
          cases hintended.2.symm.trans hr
        activation := fun st hst => by cases hnone.symm.trans hst
        last := fun _ _ _ _ hr => by cases hr }
  | truncate slot =>
    obtain ⟨_,rfl,hintended⟩ := ha
    exact h.rewrite hactive hintended (horderly.resolve_right fun hne => hne hintended.2) _
  | writeAt slot position bytes =>
    obtain ⟨_,rfl,hintended⟩ := ha
    exact h.rewrite hactive hintended (horderly.resolve_right fun hne => hne hintended.2) _
  | sync slot => exact { h with }
  | writeCandidate k =>
    obtain ⟨_,hk,hreceipt,_,_⟩ := ha
    exact
      { h with
        candidate := fun k' hk' _ => by
          cases hk'
          exact ⟨_,hreceipt,hk⟩ }
  | writeAudit audit => exact { h with }
  | _ => exact ha.2.elim

theorem Slots.transition {st : DurableActivationState} {phase : ActivationPhase} (h : Slots d)
    (hst : d.activation = some st) (hphase : phase ≠ .prepared)
    (htrial : phase = .armed → (st.phase = .prepared ∨ st.phase = .armed) ∧
      st.transitionBootId = d.bootId)
    (hpromote : phase = .promotePrepared → (st.phase = .prepared ∨ st.phase = .armed) ∧
      st.transitionBootId ≠ d.bootId) :
    Slots (Action.effect (.writeState (st.withPhase phase d.bootId)) d) := by
  have hprepared : (Action.effect (.writeState (st.withPhase phase d.bootId)) d).prepared = d.prepared :=
    if_neg hphase
  exact
    { h with
      candidate := fun k _ hnone => by cases hnone
      activation := fun st' hst' => by
        cases hst'
        exact h.activation st hst
      trial := fun st' hst' hp => by
        cases hst'
        obtain hp | hp := hp
        · exact absurd hp hphase
        · obtain ⟨hold,hboot⟩ := htrial hp
          rw [hprepared]
          change (st.candidate,d.bootId) ∈ _
          rw [← hboot]
          exact h.trial st hst hold
      promoting := fun st' hst' hp => by
        cases hst'
        obtain ⟨hold,hboot⟩ := hpromote hp
        rw [hprepared]
        exact ⟨_,h.trial st hst hold,hboot⟩
      boots := fun p hp => h.boots p (hprepared ▸ hp) }

theorem Slots.writeState {next : DurableActivationState} (h : Slots d) (ht : Transition d next) :
    Slots (Action.effect (.writeState next) d) := by
  cases ht with
  | prepare k hnone hk hstaged hrunning =>
    obtain ⟨r,hr,hof⟩ := h.candidate k hk hnone
    exact
      { h with
        candidate := fun _ _ hnone => by cases hnone
        activation := fun st hst => by
          cases hst
          refine ⟨?_,fun hn => (by cases hr.symm.trans hn),fun r' hr' => ?_⟩
          swap
          · cases hr.symm.trans hr'
            exact hof
          change d.intact k.knownGoodSlot = true
          rw [← hrunning]
          exact h.running
        trial := fun st hst _ => by
          cases hst
          exact List.mem_cons_self
        promoting := fun st hst hp => by
          cases hst
          cases hp
        boots := fun p hp => by
          obtain rfl | hp := List.mem_cons.mp hp
          · exact h.boot
          · exact h.boots p hp }
  | arm st hst hphase hboot =>
    exact h.transition hst (by decide) (fun _ => ⟨.inl hphase,hboot⟩) (fun hp => by cases hp)
  | promote st hst hphase hboot =>
    exact h.transition hst (by decide) (fun hp => by cases hp) fun _ => ⟨hphase,hboot⟩
  | fallBack st hst => exact h.transition hst (by decide) (fun hp => by cases hp) (fun hp => by cases hp)
  | succeed st hst => exact h.transition hst (by decide) (fun hp => by cases hp) (fun hp => by cases hp)
  | armRollback st hst =>
    exact h.transition hst (by decide) (fun hp => by cases hp) (fun hp => by cases hp)
  | rolledBack st hst =>
    exact h.transition hst (by decide) (fun hp => by cases hp) (fun hp => by cases hp)

theorem Slots.rollback {next : DurableActivationState} (h : Slots d) (ht : RollbackTransition d next)
    (horderly : d.activation ≠ none ∨ (d.pending = none ∧ d.receipt = none)) :
    Slots (Action.effect (.writeState next) d) := by
  cases ht with
  | journaled st hst => exact h.transition hst (by decide) (fun hp => by cases hp) (fun hp => by cases hp)
  | last R hnone hlast houtcome =>
    obtain ⟨hpending,hreceipt⟩ := horderly.resolve_left fun hne => hne hnone
    exact
      { h with
        candidate := fun _ _ hnone => by cases hnone
        activation := fun st hst => by
          cases hst
          exact ⟨h.last R hlast houtcome hpending hreceipt,fun _ => hpending,
            fun r hr => by cases hreceipt.symm.trans hr⟩
        trial := fun st hst hp => by
          cases hst
          obtain hp | hp := hp <;> cases hp
        promoting := fun st hst hp => by
          cases hst
          cases hp
        boots := h.boots }

theorem Slots.activator {a : Action} (h : Slots d) (ha : ActivatorAction a d) : Slots (a.effect d) := by
  cases a with
  | writeState next => exact h.writeState ha
  | writeLastReceipt R =>
    obtain ⟨⟨st,hst,_,hcandidate,_⟩,_⟩ := ha
    exact
      { h with
        last := fun R' hR' _ _ _ => by
          cases hR'
          rw [hcandidate]
          exact (h.activation st hst).1 }
  | removePending =>
    obtain ⟨_,r,_,_,_,hreceipt,_⟩ := ha
    exact
      { h with
        pending := fun _ hc => by cases hc
        activation := fun st hst => ⟨(h.activation st hst).1,fun _ => rfl,(h.activation st hst).2.2⟩
        last := fun _ _ _ _ hr => by cases hreceipt.symm.trans hr }
  | removeReceipt =>
    obtain ⟨R,_,⟨⟨st,hst,_,hcandidate,_⟩,_,hlast⟩,_,_,_,hpending⟩ := ha
    exact
      { h with
        receipt := fun _ hr => by cases hr
        candidate := fun _ _ hnone => by cases hst.symm.trans hnone
        activation := fun st hst => ⟨(h.activation st hst).1,fun _ => hpending,fun _ hr => by cases hr⟩
        last := fun R' hR' _ _ _ => by
          cases hlast.symm.trans hR'
          rw [hcandidate]
          exact (h.activation st hst).1 }
  | removeCandidate => exact { h with candidate := fun _ hk => by cases hk }
  | removeState =>
    obtain ⟨_,_,_,_,hcandidate⟩ := ha
    exact
      { h with
        candidate := fun _ hk _ => by cases hcandidate.symm.trans hk
        activation := fun _ hst => by cases hst
        trial := fun _ hst => by cases hst
        promoting := fun _ hst => by cases hst }
  | preflight k t => exact h
  | armTrial k t => exact h
  | promote t => exact h
  | armRollback k => exact h
  | archiveReceipt R => exact { h with }
  | archiveAudit name audit => exact { h with }
  | removeAudit => exact { h with }
  | _ => exact ha.elim

theorem Slots.settle (h : Slots d) (lost : Slot → List UInt8) : Slots (d.settle lost) := { h with }

theorem Slots.reboot {slot : Slot} {boot : BootId} (h : Slots d) (hfresh : boot.val ∉ d.boots)
    (lost : Slot → List UInt8) : Slots (d.reboot slot boot lost) := by
  have hmono : ∀ s, d.intact s = true → (d.reboot slot boot lost).intact s = true := by
    intro s hs
    by_cases heq : s = slot
    · subst heq
      exact Function.update_self _ _ _
    · exact (Function.update_of_ne heq _ _).trans hs
  exact
    { h with
      running := Function.update_self _ _ _
      pending := fun c hc => ⟨hmono _ (h.pending c hc).1,(h.pending c hc).2⟩
      receipt := fun r hr => ⟨hmono _ (h.receipt r hr).1,(h.receipt r hr).2⟩
      activation := fun st hst => ⟨hmono _ (h.activation st hst).1,(h.activation st hst).2⟩
      last := fun R hR ho hp hr => hmono _ (h.last R hR ho hp hr)
      promoting := fun st hst hp => by
        obtain ⟨b,hb,_⟩ := h.promoting st hst hp
        refine ⟨b,hb,fun heq : b = boot.val => hfresh ?_⟩
        rw [← heq]
        exact h.boots _ hb
      boot := List.mem_cons_self
      boots := fun p hp => List.mem_cons_of_mem _ (h.boots p hp) }

omit [UpdateHash] in
@[simp] theorem Action.effect_running (a : Action) (d : Device) : (a.effect d).running = d.running := by
  cases a <;> rfl

theorem CycleAction.orderly {a : Action} (ha : CycleAction u target a d)
    (h : d.activation = none ∨ d.receipt ≠ none) :
    (a.effect d).activation = none ∨ (a.effect d).receipt ≠ none := by
  cases a with
  | writeReceipt r => exact .inr (Option.some_ne_none _)
  | removeReceipt => exact ha.2.elim
  | writeState st => exact ha.2.elim
  | removeState => exact ha.2.elim
  | _ => exact h

theorem RollbackAction.orderly {a : Action} (ha : RollbackAction a d)
    (h : d.activation ≠ none ∨ (d.pending = none ∧ d.receipt = none)) :
    (a.effect d).activation ≠ none ∨ ((a.effect d).pending = none ∧ (a.effect d).receipt = none) := by
  obtain ha | ⟨next,rfl,_⟩ := ha
  · cases a with
    | writeState st => exact .inl (Option.some_ne_none _)
    | removeState => exact .inr ⟨ha.2.2.1,ha.2.2.2.1⟩
    | removePending => exact h.imp_right fun h => ⟨rfl,h.2⟩
    | removeReceipt => exact h.imp_right fun h => ⟨h.1,rfl⟩
    | writePending c => exact ha.elim
    | writeReceipt r => exact ha.elim
    | _ => exact h
  · exact .inl (Option.some_ne_none _)

/-- Orderly events with fresh boot ids preserve what the journal says about the slots, in every state
of their calls. -/
theorem Slots.event {identity : ResidentIdentity} {event : Event} (h : Slots d)
    (hfresh : event.Fresh d) (horderly : event.Orderly d) :
    (∀ v ∈ event.visits identity d, event.Takes identity d v.1 v.2.device ∧ Slots v.2.device) ∧
      Slots (event.after identity d) := by
  cases event with
  | cycle call crash =>
    obtain ⟨hvisits,hafter⟩ := @Event.preserves _ d identity (.cycle call crash)
      (fun v => Slots v ∧ v.running = d.running ∧ (v.activation = none ∨ v.receipt ≠ none))
      ⟨h,rfl,horderly⟩
      (fun a v ⟨u,_,ha⟩ ⟨hv,hrunning,horder⟩ => ⟨hv.cycle ha hrunning.symm horder,
        (Action.effect_running a v).trans hrunning,ha.orderly horder⟩)
      (fun v lost hv => ⟨hv.1.settle lost,hv.2⟩) (fun _ _ _ h => by cases h)
    exact ⟨fun v hv => ⟨(hvisits v hv).1,(hvisits v hv).2.1⟩,hafter.1⟩
  | reconcile selector crash =>
    exact Event.preserves h (fun a v ha hv => hv.activator ha) (fun v lost hv => hv.settle lost)
      (fun _ _ _ h => by cases h)
  | rollback selector crash =>
    have hstep : ∀ a v, RollbackAction a v → Slots v →
        (v.activation ≠ none ∨ (v.pending = none ∧ v.receipt = none)) → Slots (a.effect v) := by
      rintro a v (ha | ⟨next,rfl,ht⟩) hv horder
      · exact hv.activator ha
      · exact hv.rollback ht horder
    obtain ⟨hvisits,hafter⟩ := @Event.preserves _ d identity (.rollback selector crash)
      (fun v => Slots v ∧ (v.activation ≠ none ∨ (v.pending = none ∧ v.receipt = none)))
      ⟨h,horderly⟩ (fun a v ha ⟨hv,horder⟩ => ⟨hstep a v ha hv horder,RollbackAction.orderly ha horder⟩)
      (fun v lost hv => ⟨hv.1.settle lost,hv.2⟩) (fun _ _ _ h => by cases h)
    exact ⟨fun v hv => ⟨(hvisits v hv).1,(hvisits v hv).2.1⟩,hafter.1⟩
  | reboot slot boot lost =>
    exact ⟨fun _ hv => (by cases hv),h.reboot hfresh lost⟩

theorem slots_start (targets : Slot → Target) (running : Slot) (bootId : String) :
    Slots (Device.start targets running bootId) where
  running := by simp [Device.start]
  checkpoint := fun _ hk => by cases hk
  pending := fun _ hc => by cases hc
  receipt := fun _ hr => by cases hr
  candidate := fun _ hk => by cases hk
  activation := fun _ hst => by cases hst
  last := fun _ hR => by cases hR
  trial := fun _ hst => by cases hst
  promoting := fun _ hst => by cases hst
  boot := List.mem_cons_self
  boots := fun _ hp => by cases hp

theorem runOf_append {identity : ResidentIdentity} {allowed : Device → Event → Prop}
    {events : List Event} {event : Event} (h : RunOf identity allowed d (events ++ [event])) :
    RunOf identity allowed d events ∧ allowed (playEvents identity d events) event := by
  induction events generalizing d with
  | nil => exact ⟨trivial,h.1⟩
  | cons first events ih =>
    obtain ⟨hevents,hevent⟩ := ih h.2
    exact ⟨⟨h.1,hevents⟩,hevent⟩

/-- A trial boots the slot of a completed receipt for an admitted manifest, from the other slot; a
promotion keeps the running slot, whose trial was prepared on an earlier boot; a rollback selects a
slot that has not been written since it last ran. -/
def SafeSelection : Action → Device → Prop
  | .armTrial k t, d => d.running = k ∧ k = t.inactive ∧ ∃ r st, d.receipt = some r ∧
      r.targetSlot = t ∧ AdmittedReceipt d r ∧ d.activation = some st ∧ CandidateOf r st.candidate
  | .promote t, d => d.running = t ∧ ∃ candidate b, (candidate,b) ∈ d.prepared ∧
      candidate.targetSlot = t ∧ b ≠ d.bootId
  | .armRollback k, d => d.intact k = true
  | _, _ => True

theorem ActivatorAction.safe {a : Action} (ha : ActivatorAction a d) (h : Slots d) :
    SafeSelection a d := by
  cases a with
  | armTrial k t =>
    obtain ⟨st,hst,_,rfl,rfl,hrunning,r,hr,_⟩ := ha
    have hof := (h.activation st hst).2.2 r hr
    exact ⟨hrunning,st.candidate.knownGoodSlot_eq,r,st,hr,hof.targetSlot.symm,(h.receipt r hr).2,hst,hof⟩
  | promote t =>
    obtain ⟨st,hst,hphase,rfl,hrunning,_⟩ := ha
    obtain ⟨b,hb,hne⟩ := h.promoting st hst hphase
    exact ⟨hrunning,st.candidate,b,hb,rfl,hne⟩
  | armRollback k =>
    obtain ⟨st,hst,_,rfl⟩ := ha
    exact (h.activation st hst).1
  | _ => trivial

/-- In every run of update cycles, reconciliations, rollbacks and reboots, each call cut by a crash
anywhere, in which no cycle runs while an activation is journaled without its staging receipt and no
rollback of the last success starts over a staging directory in use, every call of the boot selector
is safe. -/
theorem selector_calls_are_safe (identity : ResidentIdentity) (targets : Slot → Target)
    (running : Slot) (boot : BootId) (events : List Event) (event : Event)
    (hrun : RunOf identity (fun d e => e.Fresh d ∧ e.Orderly d)
      (Device.start targets running boot.val) (events ++ [event])) :
    ∀ v ∈ event.visits identity (playEvents identity (Device.start targets running boot.val) events),
      SafeSelection v.1 v.2.device := by
  obtain ⟨hevents,hfresh,horderly⟩ := runOf_append hrun
  have hslots : Slots (playEvents identity (Device.start targets running boot.val) events) :=
    hevents.invariant (slots_start targets running boot.val) fun v e hv he => (hv.event he.1 he.2).2
  intro v hv
  obtain ⟨htakes,hd⟩ := (hslots.event hfresh horderly).1 v hv
  cases event with
  | cycle call crash =>
    obtain ⟨u,_,ha⟩ := htakes
    cases hv' : v.1 <;> rw [hv'] at ha <;> first | trivial | exact ha.2.elim
  | reconcile selector crash => exact ActivatorAction.safe htakes hd
  | rollback selector crash =>
    obtain ha | ⟨next,hnext,_⟩ := htakes
    · exact ha.safe hd
    · rw [hnext]
      trivial
  | reboot slot boot lost => exact htakes.elim

end

/-! A device that updates from slot A to slot B. -/

namespace UpdateSample

def identity : ResidentIdentity := ⟨"tenant-a","KA-0123456789abcdef01234567"⟩

def input : UpdateCycleInput :=
  { issuedAt := "2026-01-01T00:00:00Z"
    nowUnix := 1500
    nonce := List.replicate 16 0
    platform := .linux
    architecture := .x86_64
    updateRing := .stable
    updatesEntitled := true }

def call (u : VerifiedUpdate) : CycleCall :=
  { input := input
    pull := .ok [u]
    download := .ok ⟨[7],[]⟩
    faults := []
    destination := [] }

def bootId (id : String) (h : validBootId id = true) : BootId := ⟨id,h⟩

theorem validBootId_b : validBootId "b" = true := by decide

def promoted : List Event :=
  [.cycle (call first) none,.reconcile [] none,.reboot .B (bootId "b" validBootId_b) (fun _ => []),
    .reconcile [] none]

theorem selector_calls_are_safe_after_promotion :
    RunOf identity (fun d e => e.Fresh d ∧ e.Orderly d) device (promoted ++ [.rollback [] none]) ∧
      ∀ v ∈ (Event.rollback [] none).visits identity (playEvents identity device promoted),
        SafeSelection v.1 v.2.device := by
  have hrun : RunOf identity (fun d e => e.Fresh d ∧ e.Orderly d) device
      (promoted ++ [.rollback [] none]) := by decide +kernel
  exact ⟨hrun,selector_calls_are_safe identity _ .A (bootId "a" (by decide)) promoted _ hrun⟩

/-- The promoted device stages another update, and then a rollback arms the slot just written. -/
theorem rollback_arms_a_written_slot :
    RunOf identity (fun d e => e.Fresh d) device
        (promoted ++ [.cycle (call second) none,.rollback [] none]) ∧
      ∃ v ∈ (Event.rollback [] none).visits identity
          (playEvents identity device (promoted ++ [.cycle (call second) none])),
        ∃ slot, v.1 = .armRollback slot ∧ v.2.device.intact slot = false := by
  refine ⟨by decide +kernel,?_⟩
  have hany : (((Event.rollback [] none).visits identity
      (playEvents identity device (promoted ++ [.cycle (call second) none]))).any fun v =>
        match v.1 with
        | .armRollback slot => !v.2.device.intact slot
        | _ => false) = true := by decide +kernel
  obtain ⟨v,hv,h⟩ := List.any_eq_true.mp hany
  refine ⟨v,hv,?_⟩
  split at h
  · rename_i slot hslot
    exact ⟨slot,hslot,by simpa using h⟩
  · cases h

end UpdateSample

end KernAid.Update
