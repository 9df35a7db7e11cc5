import KernAid.Update.BootState

/-! Runs of `UpdateState`: the boot attempts one staged update gets, and the slots that rollbacks
select. -/

set_option autoImplicit false

namespace KernAid.Update

open CrashLogic Encoding UpdateState

/-- What `validate` asks of a pending update. -/
structure PendingUpdate.Valid (p : PendingUpdate) (activeSlot : Slot) : Prop where
  releaseId : isIdentifier p.releaseId = true
  sequence : isSafeNonzero p.sequence.toNat = true
  manifestSha256 : validLowerHex p.manifestSha256 64 = true
  artifactSha256 : validLowerHex p.artifactSha256 64 = true
  previousSlot : p.previousSlot = activeSlot
  targetSlot : p.targetSlot = activeSlot.inactive
  attempts : p.maxAttempts ≠ 0 ∧ p.maxAttempts ≤ MAX_BOOT_ATTEMPTS ∧
    p.attemptsRemaining ≤ p.maxAttempts

variable {p : PendingUpdate} {s : UpdateState}

theorem PendingUpdate.validate_eq_ok {activeSlot : Slot} {u : Unit} :
    p.validate activeSlot = .ok u ↔ p.Valid activeSlot := by
  simp only [PendingUpdate.validate, require_bind_eq_ok, require_eq_ok]
  constructor
  · rintro ⟨h₁,h₂,h₃,h₄,h₅,h₆,h₇⟩
    exact ⟨h₁,h₂,h₃,h₄,h₅,h₆,h₇⟩
  · intro h
    exact ⟨h.1,h.2,h.3,h.4,h.5,h.6,h.7⟩

/-- What `validate` asks of a state. -/
structure UpdateState.Valid (s : UpdateState) : Prop where
  schema : s.schema = UPDATE_STATE_SCHEMA
  slots : s.rollbackSlot = s.activeSlot.inactive
  idle : s.phase = .stable → s.pending = none
  inFlight : s.phase ≠ .stable → ∃ p, s.pending = some p ∧ p.Valid s.activeSlot

theorem UpdateState.validate_eq_ok {u : Unit} :
    s.validate = .ok u ↔ s.Valid := by
  have hslots : s.activeSlot ≠ s.rollbackSlot ↔ s.rollbackSlot = s.activeSlot.inactive := by
    cases s.activeSlot <;> cases s.rollbackSlot <;> decide
  simp only [validate, require_bind_eq_ok, hslots]
  obtain ⟨schema,phase,active,rollback,pending⟩ := s
  have hvalid := fun p : PendingUpdate => @PendingUpdate.validate_eq_ok p active u
  constructor
  · rintro ⟨⟨hschema,hslots⟩,h⟩
    refine ⟨hschema,hslots,?_,?_⟩ <;> cases phase <;> cases pending <;> simp_all
  · rintro ⟨hschema,hslots,hidle,hflight⟩
    refine ⟨⟨hschema,hslots⟩,?_⟩
    cases phase <;> cases pending <;> simp_all

theorem valid_new (slot : Slot) : (new slot).Valid :=
  ⟨rfl,rfl,fun _ => rfl,fun h => absurd rfl h⟩

theorem UpdateState.Valid.pending (hs : s.Valid) (hp : s.pending = some p) :
    p.Valid s.activeSlot := by
  have hphase : s.phase ≠ .stable := fun h => by simp [hs.idle h] at hp
  obtain ⟨q,hq,hvalid⟩ := hs.inFlight hphase
  cases hp.symm.trans hq
  exact hvalid

theorem new_inactive (slot : Slot) :
    { new slot.inactive with rollbackSlot := slot } = new slot.inactive := by
  cases slot <;> rfl

theorem validLowerHex_hexSha256 (digest : Digest) : validLowerHex (hexSha256 digest) 64 = true := by
  have h := validLowerHex_encodeHex
    ((List.range 32).map fun i => UInt8.ofNat (digest.toNat / 256 ^ (31 - i)))
  rwa [List.length_map, List.length_range] at h

theorem toNat_pred {n : UInt8} (h : n ≠ 0) : (n - 1).toNat + 1 = n.toNat := by
  have hpos : 1 ≤ n.toNat := Nat.one_le_iff_ne_zero.mpr fun hn => h (UInt8.toNat_inj.mp hn)
  rw [UInt8.toNat_sub_of_le n 1 (UInt8.le_iff_toNat_le.mpr hpos)]
  exact Nat.sub_add_cancel hpos

theorem PendingUpdate.Valid.attempt {slot : Slot} (hp : p.Valid slot)
    (hleft : p.attemptsRemaining ≠ 0) :
    { p with attemptsRemaining := p.attemptsRemaining - 1 }.Valid slot := by
  obtain ⟨h₁,h₂,h₃,h₄,h₅,h₆,hne,hmax,hle⟩ := hp
  refine ⟨h₁,h₂,h₃,h₄,h₅,h₆,hne,hmax,?_⟩
  have hpred := toNat_pred hleft
  rw [UInt8.le_iff_toNat_le] at hle
  change p.attemptsRemaining - 1 ≤ p.maxAttempts
  rw [UInt8.le_iff_toNat_le]
  omega

def UpdateState.attemptsLeft (s : UpdateState) : Nat :=
  if s.phase = .staged ∨ s.phase = .pendingBoot then
    s.pending.elim 0 fun p => p.attemptsRemaining.toNat
  else 0

theorem attemptsLeft_stable (h : s.phase = .stable) : s.attemptsLeft = 0 := by
  simp [attemptsLeft, h]

theorem attemptsLeft_rollbackPending (h : s.phase = .rollbackPending) :
    s.attemptsLeft = 0 := by
  simp [attemptsLeft, h]

theorem attemptsLeft_armed (h : s.phase = .staged) :
    { s with phase := .pendingBoot }.attemptsLeft = s.attemptsLeft := by
  simp [attemptsLeft, h]

theorem attemptsLeft_tried (h : s.phase = .pendingBoot) (hp : s.pending = some p)
    (hleft : p.attemptsRemaining ≠ 0) :
    { s with pending := some { p with attemptsRemaining := p.attemptsRemaining - 1 } }.attemptsLeft +
      1 = s.attemptsLeft := by
  simp [attemptsLeft, h, hp, toNat_pred hleft]

/-- The boots of a run from `s` without another stage: tries, then rollbacks, and stable boots once
the update is settled. -/
def Boots (s : UpdateState) (actions : List BootAction) (settled : Prop) : Prop :=
  ∃ (tries rollbacks : Nat) (slots : List Slot),
    actions = List.replicate tries (.tryPending s.activeSlot.inactive s.activeSlot) ++
      List.replicate rollbacks (.rollback s.activeSlot s.activeSlot.inactive) ++
        slots.map .bootStable ∧
    tries ≤ s.attemptsLeft ∧ (s.phase = .stable → rollbacks = 0) ∧
    (s.phase = .stable ∨ settled ∨ slots = [])

theorem Boots.of_stable (hphase : s.phase = .stable) {actions : List BootAction} {settled : Prop}
    (h : Boots s actions settled) :
    ∃ slots : List Slot, actions = slots.map .bootStable := by
  obtain ⟨tries,rollbacks,slots,rfl,htries,hrollbacks,_⟩ := h
  rw [attemptsLeft_stable hphase, Nat.le_zero] at htries
  exact ⟨slots,by simp [htries, hrollbacks hphase]⟩

theorem Boots.settled {next : UpdateState} (hphase : next.phase = .stable)
    {actions : List BootAction} {before settled : Prop} (hsettled : settled)
    (h : Boots next actions before) : Boots s actions settled := by
  obtain ⟨slots,rfl⟩ := h.of_stable hphase
  exact ⟨0,0,slots,rfl,Nat.zero_le _,fun _ => rfl,.inr (.inl hsettled)⟩

theorem filterMap_cons_eq {α β : Type} (f : α → Option β) (a : α) (l : List α) :
    (a :: l).filterMap f = (f a).toList ++ l.filterMap f := by
  cases h : f a <;> simp [h]

section Runs

variable [UpdateHash]

/-- One operation of the caller; `persist` exports the state and imports it again. -/
inductive Call where
  | planStage (admitted : AdmittedUpdate) (context : UpdateContext) (evidence : CompletedArtifact)
      (maxBootAttempts : UInt8)
  | confirmStaged (plan : StagePlan)
  | armPendingBoot
  | nextBoot
  | markGood (runningSlot : Slot)
  | recordFailure
  | confirmRollback (runningSlot : Slot)
  | planLocalRollback
  | confirmLocalRollback (plan : LocalRollbackPlan) (runningSlot : Slot)
  | persist

inductive Answer where
  | done
  | stagePlan (plan : StagePlan)
  | boot (action : BootAction)
  | localRollback (plan : LocalRollbackPlan)

def UpdateState.call (s : UpdateState) : Call → Except UpdateStateError (UpdateState × Answer)
  | .planStage admitted context evidence maxBootAttempts => do
    let plan ← s.planStage admitted context evidence maxBootAttempts
    return (s, .stagePlan plan)
  | .confirmStaged plan => do
    let next ← s.confirmStaged plan
    return (next, .done)
  | .armPendingBoot => do
    let next ← s.armPendingBoot
    return (next, .done)
  | .nextBoot => do
    let transition ← s.nextBoot
    return (transition.state, .boot transition.action)
  | .markGood runningSlot => do
    let next ← s.markGood runningSlot
    return (next, .done)
  | .recordFailure => do
    let next ← s.recordFailure
    return (next, .done)
  | .confirmRollback runningSlot => do
    let next ← s.confirmRollback runningSlot
    return (next, .done)
  | .planLocalRollback => do
    let plan ← s.planLocalRollback
    return (s, .localRollback plan)
  | .confirmLocalRollback plan runningSlot => do
    let next ← s.confirmLocalRollback plan runningSlot
    return (next, .done)
  | .persist => do
    let bytes ← s.exportCanonical
    let next ← importCanonical bytes
    return (next, .done)

/-- What a call that succeeds does to a valid state. -/
inductive Moves (s : UpdateState) : Call → UpdateState → Answer → Prop where
  | planned {admitted : AdmittedUpdate} {context : UpdateContext} {evidence : CompletedArtifact}
      {maxBootAttempts : UInt8} (plan : StagePlan) :
      Moves s (.planStage admitted context evidence maxBootAttempts) s (.stagePlan plan)
  | staged {plan : StagePlan} (hphase : s.phase = .stable)
      (hprevious : plan.pending.previousSlot = s.activeSlot)
      (htarget : plan.pending.targetSlot = s.activeSlot.inactive) :
      Moves s (.confirmStaged plan) { s with phase := .staged, pending := some plan.pending } .done
  | armed (hphase : s.phase = .staged) : Moves s .armPendingBoot { s with phase := .pendingBoot } .done
  | bootedStable (hphase : s.phase = .stable) :
      Moves s .nextBoot s (.boot (.bootStable s.activeSlot))
  | tried {p : PendingUpdate} (hphase : s.phase = .pendingBoot) (hpending : s.pending = some p)
      (hleft : p.attemptsRemaining ≠ 0) :
      Moves s .nextBoot
        { s with pending := some { p with attemptsRemaining := p.attemptsRemaining - 1 } }
        (.boot (.tryPending s.activeSlot.inactive s.activeSlot))
  | exhausted {p : PendingUpdate} (hphase : s.phase = .pendingBoot) (hpending : s.pending = some p)
      (hleft : p.attemptsRemaining = 0) :
      Moves s .nextBoot { s with phase := .rollbackPending }
        (.boot (.rollback s.activeSlot s.activeSlot.inactive))
  | rollingBack (hphase : s.phase = .rollbackPending) :
      Moves s .nextBoot s (.boot (.rollback s.activeSlot s.activeSlot.inactive))
  | markedGood (hphase : s.phase = .pendingBoot) :
      Moves s (.markGood s.activeSlot.inactive) (new s.activeSlot.inactive) .done
  | failed (hphase : s.phase = .pendingBoot) :
      Moves s .recordFailure { s with phase := .rollbackPending } .done
  | rolledBack (hphase : s.phase = .rollbackPending) :
      Moves s (.confirmRollback s.activeSlot) (new s.activeSlot) .done
  | plannedFromStable (hphase : s.phase = .stable) :
      Moves s .planLocalRollback s (.localRollback ⟨s.activeSlot.inactive,s.activeSlot⟩)
  | plannedInFlight (hphase : s.phase ≠ .stable) :
      Moves s .planLocalRollback s (.localRollback ⟨s.activeSlot,s.activeSlot.inactive⟩)
  | swapped (hphase : s.phase = .stable) :
      Moves s (.confirmLocalRollback ⟨s.activeSlot.inactive,s.activeSlot⟩ s.activeSlot.inactive)
        (new s.activeSlot.inactive) .done
  | abandoned (hphase : s.phase ≠ .stable) :
      Moves s (.confirmLocalRollback ⟨s.activeSlot,s.activeSlot.inactive⟩ s.activeSlot)
        (new s.activeSlot) .done
  | persisted : Moves s .persist s .done

variable {next : UpdateState} {runningSlot : Slot} {c : Call} {answer : Answer}

theorem nextBoot_moves (hs : s.Valid) {t : BootTransition} (h : s.nextBoot = .ok t) :
    Moves s .nextBoot t.state (.boot t.action) := by
  simp only [nextBoot, bind_ok_iff, validate_eq_ok, exists_const] at h
  obtain ⟨_,h⟩ := h
  split at h
  · next hphase =>
    cases h
    exact .bootedStable hphase
  · cases h
  · next hphase =>
    simp only [bind_ok_iff, okOr_eq_ok, pure_eq_ok_iff] at h
    obtain ⟨p,hp,rfl⟩ := h
    have hvalid := hs.pending hp
    rw [hvalid.previousSlot, hvalid.targetSlot]
    exact .rollingBack hphase
  · next hphase =>
    simp only [bind_ok_iff, okOr_eq_ok] at h
    obtain ⟨p,hp,h⟩ := h
    have hvalid := hs.pending hp
    split_ifs at h with hleft
    · simp only [bind_ok_iff, pure_eq_ok_iff] at h
      obtain ⟨_,_,rfl⟩ := h
      simp only [hvalid.previousSlot, hvalid.targetSlot]
      exact .exhausted hphase hp hleft
    · simp only [bind_ok_iff, pure_eq_ok_iff] at h
      obtain ⟨_,_,rfl⟩ := h
      have haction : BootAction.tryPending p.targetSlot p.previousSlot =
          .tryPending s.activeSlot.inactive s.activeSlot := by
        rw [hvalid.targetSlot, hvalid.previousSlot]
      rw [haction]
      exact .tried hphase hp hleft

theorem confirmLocalRollback_moves (hs : s.Valid) {plan : LocalRollbackPlan}
    (h : s.confirmLocalRollback plan runningSlot = .ok next) :
    Moves s (.confirmLocalRollback plan runningSlot) next .done := by
  simp only [confirmLocalRollback, bind_ok_iff, require_eq_ok, pure_eq_ok_iff,
    exists_const] at h
  obtain ⟨_,_,planned,hplanned,⟨rfl,rfl⟩,_,_,rfl⟩ := h
  split_ifs at hplanned with hphase
  · cases hplanned
    simp only [hs.slots, new_inactive]
    exact .swapped hphase
  · simp only [bind_ok_iff, okOr_eq_ok, pure_eq_ok_iff] at hplanned
    obtain ⟨p,hp,rfl⟩ := hplanned
    have hvalid := hs.pending hp
    simp only [hvalid.previousSlot, hvalid.targetSlot]
    exact .abandoned hphase

theorem planLocalRollback_moves (hs : s.Valid) {plan : LocalRollbackPlan}
    (h : s.planLocalRollback = .ok plan) :
    Moves s .planLocalRollback s (.localRollback plan) := by
  simp only [planLocalRollback, bind_ok_iff] at h
  obtain ⟨_,_,h⟩ := h
  split_ifs at h with hphase
  · cases h
    simp only [hs.slots]
    exact .plannedFromStable hphase
  · simp only [bind_ok_iff, okOr_eq_ok, pure_eq_ok_iff] at h
    obtain ⟨p,hp,rfl⟩ := h
    have hvalid := hs.pending hp
    simp only [hvalid.previousSlot, hvalid.targetSlot]
    exact .plannedInFlight hphase

theorem markGood_moves (hs : s.Valid) (h : s.markGood runningSlot = .ok next) :
    Moves s (.markGood runningSlot) next .done := by
  simp only [markGood, bind_ok_iff, require_eq_ok, okOr_eq_ok, pure_eq_ok_iff,
    exists_const] at h
  obtain ⟨_,_,hphase,p,hp,rfl,_,_,rfl⟩ := h
  have hvalid := hs.pending hp
  rw [hvalid.previousSlot, hvalid.targetSlot, new_inactive]
  exact .markedGood hphase

theorem confirmRollback_moves (hs : s.Valid) (h : s.confirmRollback runningSlot = .ok next) :
    Moves s (.confirmRollback runningSlot) next .done := by
  simp only [confirmRollback, bind_ok_iff, require_eq_ok, okOr_eq_ok, pure_eq_ok_iff,
    exists_const] at h
  obtain ⟨_,_,hphase,p,hp,rfl,_,_,rfl⟩ := h
  have hvalid := hs.pending hp
  rw [hvalid.previousSlot, hvalid.targetSlot]
  exact .rolledBack hphase

theorem call_moves (hs : s.Valid) (h : s.call c = .ok (next, answer)) : Moves s c next answer := by
  cases c with
  | planStage admitted context evidence maxBootAttempts =>
    simp only [call, bind_ok_iff, pure_eq_ok_iff, Prod.mk.injEq] at h
    obtain ⟨plan,_,rfl,rfl⟩ := h
    exact .planned plan
  | confirmStaged plan =>
    simp only [call, confirmStaged, bind_ok_iff, require_eq_ok,
      pure_eq_ok_iff, Prod.mk.injEq, exists_const] at h
    obtain ⟨_,⟨_,_,⟨hphase,hprevious,htarget⟩,_,_,rfl⟩,rfl,rfl⟩ := h
    exact .staged hphase hprevious htarget
  | armPendingBoot =>
    simp only [call, armPendingBoot, bind_ok_iff, require_eq_ok,
      pure_eq_ok_iff, Prod.mk.injEq, exists_const] at h
    obtain ⟨_,⟨_,_,hphase,_,_,rfl⟩,rfl,rfl⟩ := h
    exact .armed hphase
  | nextBoot =>
    simp only [call, bind_ok_iff, pure_eq_ok_iff, Prod.mk.injEq] at h
    obtain ⟨transition,hboot,rfl,rfl⟩ := h
    exact nextBoot_moves hs hboot
  | markGood runningSlot =>
    simp only [call, bind_ok_iff, pure_eq_ok_iff, Prod.mk.injEq] at h
    obtain ⟨_,hgood,rfl,rfl⟩ := h
    exact markGood_moves hs hgood
  | recordFailure =>
    simp only [call, recordFailure, bind_ok_iff, require_eq_ok,
      pure_eq_ok_iff, Prod.mk.injEq, exists_const] at h
    obtain ⟨_,⟨_,_,hphase,_,_,rfl⟩,rfl,rfl⟩ := h
    exact .failed hphase
  | confirmRollback runningSlot =>
    simp only [call, bind_ok_iff, pure_eq_ok_iff, Prod.mk.injEq] at h
    obtain ⟨_,hrollback,rfl,rfl⟩ := h
    exact confirmRollback_moves hs hrollback
  | planLocalRollback =>
    simp only [call, bind_ok_iff, pure_eq_ok_iff, Prod.mk.injEq] at h
    obtain ⟨_,hplan,rfl,rfl⟩ := h
    exact planLocalRollback_moves hs hplan
  | confirmLocalRollback plan runningSlot =>
    simp only [call, bind_ok_iff, pure_eq_ok_iff, Prod.mk.injEq] at h
    obtain ⟨_,hconfirm,rfl,rfl⟩ := h
    exact confirmLocalRollback_moves hs hconfirm
  | persist =>
    simp only [call, bind_ok_iff, pure_eq_ok_iff, Prod.mk.injEq] at h
    obtain ⟨bytes,hexport,_,himport,rfl,rfl⟩ := h
    rw [importCanonical_export hexport himport]
    exact .persisted

theorem StagePlan.fresh (plan : StagePlan) :
    plan.pending.attemptsRemaining = plan.pending.maxAttempts ∧
      plan.pending.Valid plan.pending.previousSlot := by
  obtain ⟨pending,state,admitted,context,evidence,maxBootAttempts,h⟩ := plan
  simp only [planPending, bind_ok_iff, require_eq_ok, pure_eq_ok_iff,
    exists_const] at h
  obtain ⟨_,_,_,_,⟨hmin,hmax⟩,_,rfl⟩ := h
  have hmanifest := admitted.verified.valid
  have hsequence : (UInt64.ofNat admitted.verified.sequence).toNat = admitted.verified.sequence := by
    have hsafe : admitted.verified.sequence ≤ 9007199254740991 :=
      of_decide_eq_true (Bool.and_eq_true_iff.mp hmanifest.sequence).2
    rw [UInt64.toNat_ofNat']
    exact Nat.mod_eq_of_lt (by omega)
  refine ⟨rfl,hmanifest.releaseId,?_,validLowerHex_hexSha256 _,validLowerHex_hexSha256 _,rfl,rfl,?_,
    hmax,UInt8.le_refl _⟩
  · rw [hsequence]
    exact hmanifest.sequence
  · rintro rfl
    exact absurd hmin (by decide)

theorem Moves.valid (hs : s.Valid) (h : Moves s c next answer) : next.Valid := by
  have hphase : ∀ phase : UpdatePhase, s.phase ≠ .stable → phase ≠ .stable →
      { s with phase := phase }.Valid :=
    fun phase hs' hphase => ⟨hs.schema,hs.slots,fun h => absurd h hphase,fun _ => hs.inFlight hs'⟩
  cases h with
  | planned plan => exact hs
  | @staged plan hstable hprevious htarget =>
    have hplan := plan.fresh.2
    rw [hprevious] at hplan
    exact ⟨hs.schema,hs.slots,(fun h => nomatch h),fun _ => ⟨plan.pending,rfl,hplan⟩⟩
  | armed hstaged => exact hphase _ (by rw [hstaged]; decide) (by decide)
  | bootedStable hstable => exact hs
  | @tried p hboot hpending hleft =>
    refine ⟨hs.schema,hs.slots,fun h => ?_,fun _ => ⟨_,rfl,(hs.pending hpending).attempt hleft⟩⟩
    rw [hboot] at h
    cases h
  | exhausted hboot hpending hleft => exact hphase _ (by rw [hboot]; decide) (by decide)
  | rollingBack hrollback => exact hs
  | markedGood hboot => exact valid_new _
  | failed hboot => exact hphase _ (by rw [hboot]; decide) (by decide)
  | rolledBack hrollback => exact valid_new _
  | plannedFromStable hstable => exact hs
  | plannedInFlight hflight => exact hs
  | swapped hstable => exact valid_new _
  | abandoned hflight => exact valid_new _
  | persisted => exact hs

structure CallEvent where
  state : UpdateState
  call : Call
  result : Except UpdateStateError (UpdateState × Answer)

/-- A call that fails leaves the caller with the state it had. -/
def UpdateState.after (s : UpdateState) (c : Call) : UpdateState :=
  match s.call c with
  | .ok (next, _) => next
  | .error _ => s

def play : UpdateState → List Call → List CallEvent
  | _, [] => []
  | s, c :: calls => ⟨s,c,s.call c⟩ :: play (s.after c) calls

def finish (s : UpdateState) (calls : List Call) : UpdateState := calls.foldl UpdateState.after s

theorem UpdateState.Valid.after (hs : s.Valid) (c : Call) : (s.after c).Valid := by
  rw [UpdateState.after]
  cases h : s.call c with
  | error e => exact hs
  | ok r => exact (call_moves hs h).valid hs

theorem valid_finish (hs : s.Valid) (calls : List Call) :
    (finish s calls).Valid := by
  induction calls generalizing s with
  | nil => exact hs
  | cons c calls ih => exact ih (hs.after c)

theorem play_valid (hs : s.Valid) (calls : List Call) :
    ∀ e ∈ play s calls, e.state.Valid ∧ e.result = e.state.call e.call := by
  induction calls generalizing s with
  | nil => simp [play]
  | cons c calls ih =>
    rw [play, List.forall_mem_cons]
    exact ⟨⟨hs,rfl⟩,ih (hs.after c)⟩

/-- What a successful `next_boot` answered. -/
def CallEvent.bootAction (e : CallEvent) : Option BootAction :=
  match e.result with
  | .ok (_, .boot action) => some action
  | _ => none

def CallEvent.stages (e : CallEvent) : Bool :=
  match e.call, e.result with
  | .confirmStaged _, .ok _ => true
  | _, _ => false

def CallEvent.settles (e : CallEvent) : Bool :=
  match e.call, e.result with
  | .markGood _, .ok _ => true
  | .confirmRollback _, .ok _ => true
  | .confirmLocalRollback _ _, .ok _ => true
  | _, _ => false

theorem Boots.cons (hmove : Moves s c next answer) {actions : List BootAction} {settled : Prop}
    (h : Boots next actions settled) (hstages : CallEvent.stages ⟨s,c,.ok (next, answer)⟩ = false) :
    Boots s ((CallEvent.bootAction ⟨s,c,.ok (next, answer)⟩).toList ++ actions)
      (CallEvent.settles ⟨s,c,.ok (next, answer)⟩ = true ∨ settled) := by
  have hweaken : Boots next actions (CallEvent.settles ⟨s,c,.ok (next, answer)⟩ = true ∨ settled) := by
    obtain ⟨tries,rollbacks,slots,hactions,htries,hrollbacks,hslots⟩ := h
    exact ⟨tries,rollbacks,slots,hactions,htries,hrollbacks,
      hslots.imp_right fun h => h.imp_left .inr⟩
  cases hmove with
  | planned plan => exact hweaken
  | staged hstable hprevious htarget => cases hstages
  | armed hstaged =>
    obtain ⟨tries,rollbacks,slots,hactions,htries,_,hslots⟩ := hweaken
    refine ⟨tries,rollbacks,slots,hactions,?_,fun h => ?_,.inr (hslots.resolve_left fun h => nomatch h)⟩
    · rwa [attemptsLeft_armed hstaged] at htries
    · rw [hstaged] at h
      cases h
  | bootedStable hstable =>
    obtain ⟨slots,rfl⟩ := h.of_stable hstable
    exact ⟨0,0,s.activeSlot :: slots,rfl,Nat.zero_le _,fun _ => rfl,.inl hstable⟩
  | @tried p hboot hpending hleft =>
    obtain ⟨tries,rollbacks,slots,hactions,htries,hrollbacks,hslots⟩ := hweaken
    refine ⟨tries + 1,rollbacks,slots,?_,?_,hrollbacks,hslots⟩
    · rw [hactions]
      rfl
    · rw [← attemptsLeft_tried hboot hpending hleft]
      exact Nat.succ_le_succ htries
  | exhausted hboot hpending hleft =>
    obtain ⟨tries,rollbacks,slots,hactions,htries,_,hslots⟩ := hweaken
    rw [attemptsLeft_rollbackPending rfl, Nat.le_zero] at htries
    refine ⟨0,rollbacks + 1,slots,?_,Nat.zero_le _,fun h => ?_,
      .inr (hslots.resolve_left fun h => nomatch h)⟩
    · rw [hactions, htries]
      rfl
    · rw [hboot] at h
      cases h
  | rollingBack hrollback =>
    obtain ⟨tries,rollbacks,slots,hactions,htries,_,hslots⟩ := hweaken
    rw [attemptsLeft_rollbackPending hrollback, Nat.le_zero] at htries
    refine ⟨0,rollbacks + 1,slots,?_,Nat.zero_le _,fun h => ?_,hslots⟩
    · rw [hactions, htries]
      rfl
    · rw [hrollback] at h
      cases h
  | markedGood hboot => exact h.settled rfl (.inl rfl)
  | failed hboot =>
    obtain ⟨tries,rollbacks,slots,hactions,htries,_,hslots⟩ := hweaken
    rw [attemptsLeft_rollbackPending rfl, Nat.le_zero] at htries
    refine ⟨0,rollbacks,slots,?_,Nat.zero_le _,fun h => ?_,.inr (hslots.resolve_left fun h => nomatch h)⟩
    · rw [hactions, htries]
      rfl
    · rw [hboot] at h
      cases h
  | rolledBack hrollback => exact h.settled rfl (.inl rfl)
  | plannedFromStable hstable => exact hweaken
  | plannedInFlight hflight => exact hweaken
  | swapped hstable => exact h.settled rfl (.inl rfl)
  | abandoned hflight => exact h.settled rfl (.inl rfl)
  | persisted => exact hweaken

theorem bootAction_error (s : UpdateState) (c : Call) (e : UpdateStateError) :
    CallEvent.bootAction ⟨s,c,.error e⟩ = none := rfl

theorem settles_error (s : UpdateState) (c : Call) (e : UpdateStateError) :
    CallEvent.settles ⟨s,c,.error e⟩ = false := by
  cases c <;> rfl

theorem boots_of_run (hs : s.Valid) (calls : List Call)
    (hstages : ∀ e ∈ play s calls, e.stages = false) :
    Boots s ((play s calls).filterMap CallEvent.bootAction) (∃ e ∈ play s calls, e.settles = true) := by
  induction calls generalizing s with
  | nil => exact ⟨0,0,[],rfl,Nat.zero_le _,fun _ => rfl,.inr (.inr rfl)⟩
  | cons c calls ih =>
    rw [play, List.forall_mem_cons] at hstages
    have hrest := ih (hs.after c) hstages.2
    simp only [play, List.exists_mem_cons_iff]
    cases hcall : s.call c with
    | error e =>
      have hafter : s.after c = s := by rw [UpdateState.after, hcall]
      rw [hafter] at hrest ⊢
      rw [filterMap_cons_eq, bootAction_error]
      simpa [settles_error] using hrest
    | ok r =>
      obtain ⟨next,answer⟩ := r
      have hafter : s.after c = next := by rw [UpdateState.after, hcall]
      rw [hafter] at hrest ⊢
      rw [hcall] at hstages
      rw [filterMap_cons_eq]
      exact hrest.cons (call_moves hs hcall) hstages.1

/-- What became of the update that was last staged to a slot. -/
inductive Verdict where
  | onTrial
  | good
  | failed
deriving DecidableEq

/-- The updates of a run by slot, and the slots that a local rollback from a stable state made
active after their update was staged. -/
structure History where
  verdict : Slot → Option Verdict
  adopted : Slot → Bool

def History.record (h : History) (e : CallEvent) : History :=
  match e.call, e.result with
  | .confirmStaged plan, .ok _ =>
    { verdict := Function.update h.verdict plan.pending.targetSlot (some .onTrial)
      adopted := Function.update h.adopted plan.pending.targetSlot false }
  | .markGood runningSlot, .ok _ =>
    { h with verdict := Function.update h.verdict runningSlot (some .good) }
  | .recordFailure, .ok _ =>
    match e.state.pending with
    | some p => { h with verdict := Function.update h.verdict p.targetSlot (some .failed) }
    | none => h
  | .confirmLocalRollback _ runningSlot, .ok _ =>
    if e.state.phase = .stable then
      { h with adopted := Function.update h.adopted runningSlot true }
    else h
  | _, _ => h

def historyOf (events : List CallEvent) : History :=
  events.foldl History.record { verdict := fun _ => none, adopted := fun _ => false }

/-- The slot's update was recorded as failed or has not been marked good. -/
def History.unproven (h : History) (slot : Slot) : Prop :=
  h.verdict slot = some .onTrial ∨ h.verdict slot = some .failed

/-- The active slot is proven, unless a local rollback chose it. -/
def Trusted (s : UpdateState) (h : History) : Prop :=
  h.unproven s.activeSlot → h.adopted s.activeSlot = true

theorem Moves.trusted {h : History} (hs : s.Valid) (hmove : Moves s c next answer)
    (ht : Trusted s h) :
    Trusted next (h.record ⟨s,c,.ok (next, answer)⟩) := by
  have hother : s.activeSlot ≠ s.activeSlot.inactive := s.activeSlot.inactive_ne.symm
  cases hmove with
  | planned plan => exact ht
  | @staged plan hstable hprevious htarget =>
    simpa [Trusted, History.record, History.unproven, htarget, Function.update_of_ne hother] using ht
  | armed hstaged => exact ht
  | bootedStable hstable => exact ht
  | tried hboot hpending hleft => exact ht
  | exhausted hboot hpending hleft => exact ht
  | rollingBack hrollback => exact ht
  | markedGood hboot =>
    intro hunproven
    simp [History.record, History.unproven, new] at hunproven
  | failed hboot =>
    obtain ⟨p,hp,hvalid⟩ := hs.inFlight (by rw [hboot]; decide)
    simpa [Trusted, History.record, History.unproven, hp, hvalid.targetSlot,
      Function.update_of_ne hother] using ht
  | rolledBack hrollback => exact ht
  | plannedFromStable hstable => exact ht
  | plannedInFlight hflight => exact ht
  | swapped hstable =>
    intro _
    simp [History.record, hstable, new]
  | abandoned hflight => simpa [Trusted, History.record, hflight, new] using ht
  | persisted => exact ht

theorem trusted_run {h : History} (hs : s.Valid) (ht : Trusted s h) (calls : List Call) :
    Trusted (finish s calls) ((play s calls).foldl History.record h) := by
  induction calls generalizing s h with
  | nil => exact ht
  | cons c calls ih =>
    refine ih (hs.after c) ?_
    rw [UpdateState.after]
    cases hcall : s.call c with
    | error e =>
      have hrecord : h.record ⟨s,c,.error e⟩ = h := by cases c <;> rfl
      rw [hrecord]
      exact ht
    | ok r => exact (call_moves hs hcall).trusted hs ht

theorem Moves.activeSlot (hs : s.Valid) (hmove : Moves s c next answer)
    (hne : next.activeSlot ≠ s.activeSlot) :
    (∃ p, s.phase = .pendingBoot ∧ s.pending = some p ∧ c = .markGood p.targetSlot ∧
      next.activeSlot = p.targetSlot) ∨
    c = .confirmRollback next.activeSlot ∨
    ∃ plan, c = .confirmLocalRollback plan next.activeSlot := by
  cases hmove with
  | markedGood hboot =>
    obtain ⟨p,hp,hvalid⟩ := hs.inFlight (by rw [hboot]; decide)
    exact .inl ⟨p,hboot,hp,by rw [hvalid.targetSlot],by rw [hvalid.targetSlot]; rfl⟩
  | rolledBack hrollback => exact .inr (.inl rfl)
  | swapped hstable => exact .inr (.inr ⟨_,rfl⟩)
  | abandoned hflight => exact .inr (.inr ⟨_,rfl⟩)
  | _ => exact absurd rfl hne

theorem Moves.rollback {chosen failedSlot : Slot}
    (hmove : Moves s .nextBoot next (.boot (.rollback chosen failedSlot))) :
    chosen = s.activeSlot := by
  cases hmove <;> rfl

theorem planStage_maxAttempts {admitted : AdmittedUpdate} {context : UpdateContext}
    {evidence : CompletedArtifact} {maxBootAttempts : UInt8} {plan : StagePlan}
    (h : s.planStage admitted context evidence maxBootAttempts = .ok plan) :
    plan.pending.maxAttempts = maxBootAttempts := by
  have hpending : s.planPending admitted context evidence maxBootAttempts = .ok plan.pending := by
    rw [planStage] at h
    split at h
    · next pending hp =>
      cases h
      exact hp
    · cases h
  simp only [planPending, bind_ok_iff, require_eq_ok, pure_eq_ok_iff,
    exists_const] at hpending
  obtain ⟨_,_,_,_,_,_,hfields⟩ := hpending
  rw [← hfields]

theorem boots_of_stage {staged : UpdateState} (hs : s.Valid) {plan : StagePlan}
    (hstaged : s.confirmStaged plan = .ok staged) (calls : List Call)
    (hstages : ∀ e ∈ play staged calls, e.stages = false) :
    ∃ (tries rollbacks : Nat) (slots : List Slot),
      (play staged calls).filterMap CallEvent.bootAction =
        List.replicate tries (.tryPending plan.pending.targetSlot plan.pending.previousSlot) ++
          List.replicate rollbacks (.rollback plan.pending.previousSlot plan.pending.targetSlot) ++
            slots.map .bootStable ∧
      tries ≤ plan.pending.maxAttempts.toNat ∧
      ((∀ e ∈ play staged calls, e.settles = false) → slots = []) := by
  have hcall : s.call (.confirmStaged plan) = .ok (staged, .done) := by
    rw [call, hstaged]
    rfl
  have hmove := call_moves hs hcall
  have hboots := boots_of_run (hmove.valid hs) calls hstages
  cases hmove with
  | staged hstable hprevious htarget =>
    obtain ⟨tries,rollbacks,slots,hactions,htries,_,hslots⟩ := hboots
    refine ⟨tries,rollbacks,slots,by rw [hactions, hprevious, htarget],?_,fun hnone => ?_⟩
    · rw [← plan.fresh.1]
      simpa [attemptsLeft] using htries
    · obtain h | ⟨e,he,hsettles⟩ | h := hslots
      · cases h
      · rw [hnone e he] at hsettles
        cases hsettles
      · exact h

/-- Every state produced is valid; one confirmed stage gets its attempts and then rollbacks to the
previous slot until it is settled; only a good update or a confirmed rollback changes the active
slot; and rollbacks of an update in flight never go to a slot whose update is unproven, unless a
local rollback from a stable state made that slot active. From a stable state a local rollback goes
to the other slot. -/
theorem update_state_is_bounded (slot : Slot) (calls : List Call) :
    (∀ e ∈ play (.new slot) calls, ∀ next answer, e.result = .ok (next, answer) →
      next.validate = .ok ()) ∧
    (∀ (planner : UpdateState) (admitted : AdmittedUpdate) (context : UpdateContext)
      (evidence : CompletedArtifact) (maxBootAttempts : UInt8) (plan : StagePlan)
      (staged : UpdateState) (later : List Call),
      planner.planStage admitted context evidence maxBootAttempts = .ok plan →
      (finish (.new slot) calls).confirmStaged plan = .ok staged →
      (∀ e ∈ play staged later, e.stages = false) →
      ∃ (tries rollbacks : Nat) (slots : List Slot),
        (play staged later).filterMap CallEvent.bootAction =
          List.replicate tries (.tryPending plan.pending.targetSlot plan.pending.previousSlot) ++
            List.replicate rollbacks
              (.rollback plan.pending.previousSlot plan.pending.targetSlot) ++
              slots.map .bootStable ∧
        tries ≤ maxBootAttempts.toNat ∧
        ((∀ e ∈ play staged later, e.settles = false) → slots = [])) ∧
    (∀ e ∈ play (.new slot) calls, ∀ next answer, e.result = .ok (next, answer) →
      next.activeSlot ≠ e.state.activeSlot →
      (∃ p, e.state.phase = .pendingBoot ∧ e.state.pending = some p ∧
        e.call = .markGood p.targetSlot ∧ next.activeSlot = p.targetSlot) ∨
      e.call = .confirmRollback next.activeSlot ∨
      ∃ plan, e.call = .confirmLocalRollback plan next.activeSlot) ∧
    (∀ transition chosen failedSlot, (finish (.new slot) calls).nextBoot = .ok transition →
      transition.action = .rollback chosen failedSlot →
      (historyOf (play (.new slot) calls)).unproven chosen →
        (historyOf (play (.new slot) calls)).adopted chosen = true) ∧
    (∀ plan, (finish (.new slot) calls).planLocalRollback = .ok plan →
      ((finish (.new slot) calls).phase ≠ .stable →
        (historyOf (play (.new slot) calls)).unproven plan.slot →
          (historyOf (play (.new slot) calls)).adopted plan.slot = true) ∧
      ((finish (.new slot) calls).phase = .stable →
        plan.slot = (finish (.new slot) calls).activeSlot.inactive)) := by
  have hnew := valid_new slot
  have hend := valid_finish hnew calls
  have htrusted : Trusted (finish (.new slot) calls) (historyOf (play (.new slot) calls)) :=
    trusted_run hnew (fun h => by cases h <;> contradiction) calls
  refine ⟨?_,?_,?_,?_,?_⟩
  · intro e he next answer hresult
    obtain ⟨hvalid,hcall⟩ := play_valid hnew calls e he
    exact validate_eq_ok.mpr ((call_moves hvalid (hcall.symm.trans hresult)).valid hvalid)
  · intro planner admitted context evidence maxBootAttempts plan staged later hplan hstaged hstages
    rw [← planStage_maxAttempts hplan]
    exact boots_of_stage hend hstaged later hstages
  · intro e he next answer hresult hne
    obtain ⟨hvalid,hcall⟩ := play_valid hnew calls e he
    exact (call_moves hvalid (hcall.symm.trans hresult)).activeSlot hvalid hne
  · intro transition chosen failedSlot hboot haction
    have hmove := nextBoot_moves hend hboot
    rw [haction] at hmove
    rw [hmove.rollback]
    exact htrusted
  · intro plan hplan
    have hmove := planLocalRollback_moves hend hplan
    cases hmove with
    | plannedFromStable hstable => exact ⟨fun h => absurd hstable h,fun _ => rfl⟩
    | plannedInFlight hflight => exact ⟨fun _ => htrusted,fun h => absurd h hflight⟩

end Runs

/-! A device that runs slot A and stages one update to slot B, with one boot attempt. -/

namespace BootSample

open UpdateSample

def admitted : AdmittedUpdate := ⟨first,.advanced⟩

def pendingTo (slot : Slot) : PendingUpdate :=
  { releaseId := "release"
    sequence := 1
    manifestSha256 := hexSha256 1
    artifactSha256 := hexSha256 1
    targetSlot := slot
    previousSlot := slot.inactive
    attemptsRemaining := 1
    maxAttempts := 1
    emergencyRollback := false }

theorem planPending_ok (slot : Slot) :
    (new slot.inactive).planPending admitted context ⟨1,1⟩ 1 =
      .ok (pendingTo slot) := by
  cases slot <;> decide +kernel

def planTo (slot : Slot) : StagePlan := ⟨pendingTo slot,_,_,_,_,_,planPending_ok slot⟩

def rolledBack : List Call :=
  [.confirmStaged (planTo .B),.armPendingBoot,.nextBoot,.recordFailure,.confirmRollback .A]

def adoptedFailed : List Call :=
  rolledBack ++
    [.confirmLocalRollback ⟨.B,.A⟩ .B,.confirmStaged (planTo .A),.armPendingBoot,.recordFailure]

/-- Both rollbacks select slot B, whose only update failed. -/
theorem rollbacks_select_failed_update :
    (finish (.new .A) rolledBack).planLocalRollback = .ok ⟨.B,.A⟩ ∧
      (historyOf (play (.new .A) rolledBack)).verdict .B = some .failed ∧
      (finish (.new .A) adoptedFailed).nextBoot =
        .ok ⟨finish (.new .A) adoptedFailed,.rollback .B .A⟩ ∧
      (historyOf (play (.new .A) adoptedFailed)).verdict .B = some .failed := by
  decide +kernel

/-- A stage with one attempt: a trial boot, and then the way back to slot A. -/
theorem update_state_is_bounded_once :
    (finish (.new .A) rolledBack).confirmStaged (planTo .B) =
        .ok { new .A with phase := .staged, pending := some (pendingTo .B) } ∧
      ((play { new .A with phase := .staged, pending := some (pendingTo .B) }
        [.armPendingBoot,.nextBoot,.nextBoot,.nextBoot]).filterMap CallEvent.bootAction =
        [.tryPending .B .A,.rollback .A .B,.rollback .A .B]) ∧
      (historyOf (play (.new .A) rolledBack)).unproven .B ∧
      (∀ e ∈ play (.new .A) rolledBack, ∀ next answer, e.result = .ok (next, answer) →
        next.validate = .ok ()) :=
  ⟨by decide +kernel,by decide +kernel,.inr (by decide +kernel),
    (update_state_is_bounded .A rolledBack).1⟩

end BootSample

end KernAid.Update
