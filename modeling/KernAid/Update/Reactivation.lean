import KernAid.Update.SlotSafety

/-! Whether a manifest whose activation has ended is staged or tried again. -/

set_option autoImplicit false

namespace KernAid.Update

open CrashLogic Program

def Ended (d : Device) (manifestSha256 : Digest) : Prop :=
  ∃ name R, d.receiptArchive name = some R ∧ R.candidate.manifestSha256 = manifestSha256

def NotRepeated : Action → Device → Prop
  | .writePending c, d => ¬ Ended d c.manifestSha256
  | .truncate _, d => ∃ c, d.pending = some c ∧ ¬ Ended d c.manifestSha256
  | .writeAt _ _ _, d => ∃ c, d.pending = some c ∧ ¬ Ended d c.manifestSha256
  | .writeReceipt r, d => ¬ Ended d r.manifestSha256
  | .armTrial _ _, d => ∃ st, d.activation = some st ∧ ¬ Ended d st.candidate.manifestSha256
  | _, _ => True

section

variable [UpdateHash]

def Event.OffersUnended (identity : ResidentIdentity) (d : Device) : Event → Prop
  | .cycle call _ => ∀ u, call.Selects identity u → ¬ Ended d u.manifestSha256
  | _ => True

structure Untried (d : Device) : Prop where
  candidate : ∀ k, d.candidate = some k → d.activation = none → ¬ Ended d k.manifestSha256
  prepared : ∀ st, d.activation = some st → st.phase = .prepared →
    ¬ Ended d st.candidate.manifestSha256

variable {d : Device} {u : VerifiedUpdate} {target : PreopenedInactiveTarget} {a : Action}

theorem CycleAction.receiptArchive (ha : CycleAction u target a d) :
    (a.effect d).receiptArchive = d.receiptArchive := by
  cases a with
  | archiveReceipt R => exact ha.2.elim
  | _ => rfl

theorem CycleAction.ended (ha : CycleAction u target a d) (digest : Digest) :
    Ended (a.effect d) digest ↔ Ended d digest := by
  rw [Ended, ha.receiptArchive, Ended]

theorem Untried.cycle (h : Untried d) (ha : CycleAction u target a d)
    (hu : ¬ Ended d u.manifestSha256) : Untried (a.effect d) := by
  cases a with
  | writeCandidate k =>
    refine ⟨fun k' hk' _ => ?_,h.prepared⟩
    cases hk'
    rw [ha.2.1.manifestSha256]
    exact hu
  | writeState st => exact ha.2.elim
  | removeCandidate => exact ha.2.elim
  | removeState => exact ha.2.elim
  | archiveReceipt R => exact ha.2.elim
  | _ => exact ⟨h.candidate,h.prepared⟩

theorem Untried.activator (h : Untried d) (ha : ActivatorAction a d) : Untried (a.effect d) := by
  cases a with
  | writeState next =>
    refine ⟨fun _ _ hnone => (by cases hnone),fun st hst hphase => ?_⟩
    cases hst
    cases ha with
    | prepare k hnone hk => exact h.candidate k hk hnone
    | arm => cases hphase
    | promote => cases hphase
    | fallBack => cases hphase
    | succeed => cases hphase
    | armRollback => cases hphase
    | rolledBack => cases hphase
  | archiveReceipt R =>
    obtain ⟨⟨st,hst,hfinal,_⟩,_⟩ := ha
    refine ⟨fun _ _ hnone => (by cases hst.symm.trans hnone),fun st' hst' hphase => ?_⟩
    cases hst.symm.trans hst'
    rw [hphase] at hfinal
    cases hfinal
  | removeCandidate => exact ⟨fun _ hk => (by cases hk),h.prepared⟩
  | removeState =>
    refine ⟨fun k hk _ => ?_,fun _ hst => by cases hst⟩
    cases ha.2.2.2.2.symm.trans hk
  | writeCheckpoint k => exact ha.elim
  | writeCandidate k => exact ha.elim
  | _ => exact ⟨h.candidate,h.prepared⟩

theorem Untried.rollback (h : Untried d) (ha : RollbackAction a d) : Untried (a.effect d) := by
  obtain ha | ⟨next,rfl,ht⟩ := ha
  · exact h.activator ha
  · refine ⟨fun _ _ hnone => (by cases hnone),fun st hst hphase => ?_⟩
    cases hst
    cases ht <;> cases hphase

omit [UpdateHash] in
theorem Untried.settle (h : Untried d) (lost : Slot → List UInt8) : Untried (d.settle lost) :=
  ⟨h.candidate,h.prepared⟩

theorem CycleAction.notRepeated (ha : CycleAction u target a d) (hu : ¬ Ended d u.manifestSha256) :
    NotRepeated a d := by
  cases a with
  | writePending c =>
    obtain ⟨_,rfl,_⟩ := ha
    exact hu
  | truncate slot => exact ⟨_,ha.2.2.1,hu⟩
  | writeAt slot position bytes => exact ⟨_,ha.2.2.1,hu⟩
  | writeReceipt r =>
    obtain ⟨_,rfl,_⟩ := ha
    exact hu
  | armTrial k t => exact ha.2.elim
  | _ => trivial

theorem ActivatorAction.notRepeated (ha : ActivatorAction a d) (h : Untried d) : NotRepeated a d := by
  cases a with
  | armTrial k t =>
    obtain ⟨st,hst,hphase,_⟩ := ha
    exact ⟨st,hst,h.prepared st hst hphase⟩
  | writePending c => exact ha.elim
  | truncate slot => exact ha.elim
  | writeAt slot position bytes => exact ha.elim
  | writeReceipt r => exact ha.elim
  | _ => trivial

theorem Untried.event {identity : ResidentIdentity} {event : Event} (h : Untried d)
    (hoffers : event.OffersUnended identity d) :
    (∀ v ∈ event.visits identity d, NotRepeated v.1 v.2.device) ∧ Untried (event.after identity d) := by
  cases event with
  | cycle call crash =>
    obtain ⟨hvisits,hafter⟩ := @Event.preserves _ d identity (.cycle call crash)
      (fun v => Untried v ∧ ∀ u, call.Selects identity u → ¬ Ended v u.manifestSha256)
      ⟨h,hoffers⟩
      (fun a v ⟨u,hu,ha⟩ ⟨hv,hended⟩ => ⟨hv.cycle ha (hended u hu),
        fun w hw => fun hend => hended w hw ((ha.ended _).mp hend)⟩)
      (fun v lost hv => ⟨hv.1.settle lost,hv.2⟩) (fun _ _ _ h => by cases h)
    refine ⟨fun v hv => ?_,hafter.1⟩
    obtain ⟨⟨u,hu,ha⟩,_,hended⟩ := hvisits v hv
    exact ha.notRepeated (hended u hu)
  | reconcile selector crash =>
    obtain ⟨hvisits,hafter⟩ := @Event.preserves _ d identity (.reconcile selector crash) Untried h
      (fun a v ha hv => hv.activator ha) (fun v lost hv => hv.settle lost) (fun _ _ _ h => by cases h)
    exact ⟨fun v hv => (hvisits v hv).1.notRepeated (hvisits v hv).2,hafter⟩
  | rollback selector crash =>
    obtain ⟨hvisits,hafter⟩ := @Event.preserves _ d identity (.rollback selector crash) Untried h
      (fun a v ha hv => hv.rollback ha) (fun v lost hv => hv.settle lost) (fun _ _ _ h => by cases h)
    refine ⟨fun v hv => ?_,hafter⟩
    obtain ⟨ha | ⟨next,hnext,_⟩,huntried⟩ := hvisits v hv
    · exact ha.notRepeated huntried
    · rw [hnext]
      trivial
  | reboot slot boot lost => exact ⟨fun _ hv => (by cases hv),h.candidate,h.prepared⟩

omit [UpdateHash] in
theorem untried_start (targets : Slot → Target) (running : Slot) (bootId : String) :
    Untried (Device.start targets running bootId) :=
  ⟨fun _ hk => (by cases hk),fun _ hst => by cases hst⟩

/-- In every run whose cycles are never offered, as the manifest they select, one whose activation has
ended, no such manifest is staged into a slot or armed for a trial again. -/
theorem ended_manifests_are_not_repeated (identity : ResidentIdentity) (targets : Slot → Target)
    (running : Slot) (boot : BootId) (events : List Event) (event : Event)
    (hrun : RunOf identity (Event.OffersUnended identity) (Device.start targets running boot.val)
      (events ++ [event])) :
    ∀ v ∈ event.visits identity (playEvents identity (Device.start targets running boot.val) events),
      NotRepeated v.1 v.2.device := by
  obtain ⟨hevents,hoffers⟩ := runOf_append hrun
  have huntried : Untried (playEvents identity (Device.start targets running boot.val) events) :=
    hevents.invariant (untried_start targets running boot.val) fun v e hv he => (hv.event he).2
  exact (huntried.event hoffers).1

end

namespace UpdateSample

def fallenBack : List Event :=
  [.cycle (call first) none,.reconcile [] none,.reboot .A (bootId "b" validBootId_b) (fun _ => []),
    .reconcile [] none]

def endedAs (outcome : ActivationOutcome) (d : Device) : Bool :=
  match d.receiptArchive ⟨1,0,outcome⟩ with
  | some R => R.candidate.manifestSha256 == first.manifestSha256
  | none => false

theorem ended_of_endedAs {o : ActivationOutcome} {d : Device} (h : endedAs o d = true) :
    Ended d first.manifestSha256 := by
  unfold endedAs at h
  split at h
  · rename_i R hR
    exact ⟨_,R,hR,by simpa using h⟩
  · cases h

def rewrites (v : Action × Machine) : Bool :=
  match v.1, v.2.device.pending with
  | .writeAt .A _ _, some c => c.manifestSha256 == first.manifestSha256 && endedAs .succeeded v.2.device
  | _, _ => false

def tries (u : VerifiedUpdate) (v : Action × Machine) : Bool :=
  match v.1, v.2.device.activation with
  | .armTrial .A .B, some st => st.candidate.manifestSha256 == u.manifestSha256
  | _, _ => false

theorem fallenBack_archive : ∃ R, R.candidate.manifestSha256 = first.manifestSha256 ∧
    (playEvents identity device fallenBack).receiptArchive =
      Function.update (fun _ => none) ⟨1,0,.fellBack⟩ (some R) := by
  with_unfolding_all exact ⟨_,rfl,rfl⟩

/-- The first update has fallen back. The cycle stages the second one, and the reconciliation tries it. -/
theorem next_trial_repeats_nothing :
    let events := fallenBack ++ [.cycle (call second) none]
    RunOf identity (Event.OffersUnended identity) device (events ++ [.reconcile [] none]) ∧
      Ended (playEvents identity device events) first.manifestSha256 ∧
      ((Event.reconcile [] none).visits identity (playEvents identity device events)).any (tries second) ∧
      ∀ v ∈ (Event.reconcile [] none).visits identity (playEvents identity device events),
        NotRepeated v.1 v.2.device := by
  intro events
  obtain ⟨R,hdigest,harchive⟩ := fallenBack_archive
  have hrun : RunOf identity (Event.OffersUnended identity) device (events ++ [.reconcile [] none]) := by
    refine ⟨fun u _ hended => ?_,trivial,trivial,trivial,?_,trivial,trivial⟩
    · obtain ⟨_,_,harchived,_⟩ := hended
      cases harchived
    · rintro u ⟨_,hpull,hselect⟩ ⟨name,R',harchived,hended⟩
      cases hpull
      have hsecond : selectUpdate [second] (input.context identity) = .ok (some second) := by
        with_unfolding_all rfl
      obtain rfl := Option.some.inj (Except.ok.inj (hsecond.symm.trans hselect))
      change (playEvents identity device fallenBack).receiptArchive name = some R' at harchived
      rw [harchive, Function.update_apply] at harchived
      split_ifs at harchived
      obtain rfl := Option.some.inj harchived
      exact absurd (hdigest.symm.trans hended) (by decide)
  exact ⟨hrun,ended_of_endedAs (o := .fellBack) (by decide +kernel),by decide +kernel,
    ended_manifests_are_not_repeated identity _ .A (bootId "a" (by decide)) _ _ hrun⟩

/-- A control plane that keeps offering its manifest makes the running release overwrite its own
rollback slot, and a release that fell back is tried again. -/
theorem ended_manifests_are_repeated :
    (∃ v ∈ (Event.cycle (call first) none).visits identity (playEvents identity device promoted),
      ∃ position bytes c, v.1 = .writeAt .A position bytes ∧ v.2.device.pending = some c ∧
        Ended v.2.device c.manifestSha256) ∧
    (∃ v ∈ (Event.reconcile [] none).visits identity
        (playEvents identity device (fallenBack ++ [.cycle (call first) none])),
      ∃ st, v.1 = .armTrial .A .B ∧ v.2.device.activation = some st ∧
        Ended v.2.device st.candidate.manifestSha256) := by
  have hrewrites : ((Event.cycle (call first) none).visits identity
      (playEvents identity device promoted)).any rewrites = true := by decide +kernel
  have hretries : (((Event.reconcile [] none).visits identity
      (playEvents identity device (fallenBack ++ [.cycle (call first) none]))).any fun v =>
        tries first v && endedAs .fellBack v.2.device) = true := by
    decide +kernel
  obtain ⟨v,hv,h⟩ := List.any_eq_true.mp hrewrites
  obtain ⟨w,hw,h'⟩ := List.any_eq_true.mp hretries
  refine ⟨⟨v,hv,?_⟩,w,hw,?_⟩
  · unfold rewrites at h
    split at h
    · rename_i position bytes c haction hpending
      obtain ⟨hdigest,hended⟩ := Bool.and_eq_true_iff.mp h
      exact ⟨position,bytes,c,haction,hpending,(beq_iff_eq.mp hdigest).symm ▸ ended_of_endedAs hended⟩
    · cases h
  · obtain ⟨htries,hended⟩ := Bool.and_eq_true_iff.mp h'
    unfold tries at htries
    split at htries
    · rename_i st haction hactivation
      exact ⟨st,haction,hactivation,(beq_iff_eq.mp htries).symm ▸ ended_of_endedAs hended⟩
    · cases htries

end UpdateSample

end KernAid.Update
