import KernAid.Vault.MountCleanup

/-! The start of a Rescue vault activation: what an error and what a success says. -/

set_option autoImplicit false

namespace KernAid.Vault

open CrashLogic Program

section

variable {E P H M F T α β : Type} {ops : VaultOps E P H M F T} {header : H}
  {s : Activation E P M T} {step : Step}

def NeverOpened (steps : List (Entry P)) : Prop :=
  ∀ entry ∈ steps, entry.step = .openLuks2 → entry.outcome = .error .toolUnavailable

/-- Nothing is left behind: no open command ran, or the absence of its mapping and of every attempted
mount was verified afterwards. -/
def NothingLeft (steps : List (Entry P)) : Prop :=
  NeverOpened steps ∨
    (Verified steps .openLuks2 mappingAbsence ∧ Verified steps .mountExt4 [.verifyUnmounted])

/-- A start that failed with `e`, before its cleanup. -/
structure Failed (e : VaultMountManagerError) (s : Activation E P M T) : Prop where
  ready : Ready s
  fresh : s.cleanupAttempted = false
  invoked : s.mutatorInvoked = false → s.mappingOpen = false
  absent : e ≠ .cleanupFailed → s.mappingOpen = false → NothingLeft s.steps

def StartOnly (s : Activation E P M T) : Prop := ∀ step ∈ s.made, step.isStart = true

theorem StartOnly.singleCleanup (h : StartOnly s) : SingleCleanup s.made := by
  simp [SingleCleanup, filter_isCleanup_of_start h]

def FailureHonest (r : Except VaultMountManagerError H) (s : Activation E P M T) : Prop :=
  SingleCleanup s.made ∧ ∃ e, r = .error e ∧ (e ≠ .cleanupFailed → NothingLeft s.steps)

theorem wp_endFailedStart {primary : VaultMountManagerError} (h : Failed primary s) :
    wp (endFailedStart ops header primary) Allowed FailureHonest s := by
  cases hopen : s.mappingOpen with
  | false =>
    obtain ⟨hmounted,hmapping⟩ := h.ready.idle hopen
    have hend : ∀ s' : Activation E P M T, s'.steps = s.steps →
        FailureHonest (.error primary : Except _ H) s' := by
      intro s' hsteps
      refine ⟨?_,primary,rfl,fun hne => ?_⟩
      · rw [Activation.made, hsteps]
        exact StartOnly.singleCleanup h.ready.start
      · rw [hsteps]
        exact h.absent hne hopen
    refine wp_bind.mpr (wp_bind_read ?_)
    split_ifs
    · refine wp_attempt.mpr (wp_bind_read (wp_bind_require (fun _ => wp_bind_update ?_)
        fun hne => absurd h.fresh hne))
      refine wp_mapError.mpr (wp_cleanupInner_idle hmounted hopen ?_)
      refine wp_bind.mpr (wp_dropActivation_idle hmounted hopen hmapping fun s' hsteps => ?_)
      exact wp_fail.mpr (hend s' hsteps)
    · refine wp_pure.mpr (wp_bind.mpr ?_)
      refine wp_dropActivation_idle hmounted hopen hmapping fun s' hsteps => ?_
      exact wp_fail.mpr (hend s' hsteps)
  | true =>
    have hinvoked : s.mutatorInvoked = true := by
      by_contra hne
      exact absurd ((h.invoked (Bool.eq_false_iff.mpr hne)).symm.trans hopen) (by decide)
    refine wp_bind.mpr (wp_bind_read ?_)
    rw [if_pos hinvoked]
    refine wp_attempt.mpr (wp_post_mono (wp_cleanup h.fresh h.ready) fun r s₁ h₁ => ?_)
    refine wp_bind.mpr (wp_post_mono (wp_dropActivation_cleaned h₁.1) fun r' s₂ h₂ => ?_)
    obtain ⟨rfl,hended⟩ := h₂
    cases r with
    | error e => exact wp_fail.mpr ⟨hended.single,_,rfl,fun hne => absurd rfl hne⟩
    | ok =>
      obtain ⟨hmount,hmapping⟩ := h₁.2 rfl
      exact wp_fail.mpr ⟨hended.single,_,rfl,fun _ =>
        .inr ⟨hended.verified _ _ (by decide) (hmapping hopen),hended.verified _ _ (by decide) hmount⟩⟩

/-! The calls behind the open command. -/

structure Held (s : Activation E P M T) : Prop where
  mapping : s.mapping ≠ none
  open_ : s.mappingOpen = true
  invoked : s.mutatorInvoked = true
  fresh : s.cleanupAttempted = false
  owned : Owned s.steps
  unmounted : s.mounted = false → .mountExt4 ∉ s.made
  start : StartOnly s

theorem Held.ready (h : Held s) : Ready s :=
  ⟨fun _ => ⟨h.mapping,h.open_⟩,fun _ => h.open_,fun _ => h.owned,h.unmounted,h.start⟩

theorem Held.failed (h : Held s) (e : VaultMountManagerError) : Failed e s :=
  ⟨h.ready,h.fresh,fun hs => absurd (h.invoked.symm.trans hs) (by decide),
    fun _ hs => absurd (h.open_.symm.trans hs) (by decide)⟩

theorem StartOnly.answer (h : StartOnly s) (hstep : step.isStart = true)
    (outcome : Except VaultMountManagerError (Option P)) (env : E) :
    StartOnly (s.answer step outcome env) := by
  intro made hmade
  simp only [Activation.made_answer, List.mem_append, List.mem_singleton] at hmade
  rcases hmade with hmade | rfl
  · exact h made hmade
  · exact hstep

theorem Held.answer (h : Held s) (hstep : step.isStart = true)
    (hmount : s.mounted = false → step ≠ .mountExt4)
    (outcome : Except VaultMountManagerError (Option P)) (env : E) :
    Held (s.answer step outcome env) where
  mapping := h.mapping
  open_ := h.open_
  invoked := h.invoked
  fresh := h.fresh
  owned := h.owned.append
  unmounted := fun hs => by simpa using ⟨h.unmounted hs,(hmount hs).symm⟩
  start := h.start.answer hstep outcome env

theorem allowed_of_isStart (hstep : step.isStart = true) (howned : Owned s.steps) : Allowed step s :=
  allowed_of_owned howned (by cases step <;> simp_all [Step.isStart, Step.isCleanup])

theorem Held.mount (h : Held s) : Held { s with mounted := true } :=
  { h with unmounted := fun hs => by cases hs }

theorem Held.arm (h : Held s) : Held { s with deferredRemoveArmed := true } :=
  { h with }

theorem Held.attest (h : Held s) (attestation : T) : Held { s with attestation := some attestation } :=
  { h with }

theorem wp_held_bind {evidence : α → Option P} {f : E → Except VaultMountManagerError α × E}
    {g : α → Act E P M T β} {post : Except VaultMountManagerError β → Activation E P M T → Prop}
    (h : Held s) (hstep : step.isStart = true) (hmount : s.mounted = false → step ≠ .mountExt4)
    (hpost : ∀ e s', Held s' → post (.error e) s')
    (hok : ∀ a env, Held (s.answer step (.ok (evidence a)) env) →
      wp (g a) Allowed post (s.answer step (.ok (evidence a)) env)) :
    wp (invoke step evidence f >>= g) Allowed post s :=
  wp_invoke_bind (allowed_of_isStart hstep h.owned)
    (fun a env => hok a env (h.answer hstep hmount _ _)) fun e _ => hpost e _ (h.answer hstep hmount _ _)

variable {outerProfile : P} {filesystemUuid : Option String} {mapping : M}

def formatSteps : Option String → List (Entry P)
  | some _ => [⟨.formatFilesystem,.ok none⟩]
  | none => []

def mountSteps (p : P) (filesystemUuid : Option String) : List (Entry P) :=
  formatSteps filesystemUuid ++
    [⟨.inspectFilesystem,.ok none⟩,⟨.prepareMountRoot,.ok none⟩,⟨.preMountRevalidate,.ok none⟩,
      ⟨.mountExt4,.ok none⟩,⟨.verifyMountedFilesystem,.ok none⟩,⟨.classifyOuterProfile,.ok (some p)⟩,
      ⟨.attestMount,.ok none⟩]

def armSteps (p : P) (filesystemUuid : Option String) : List (Entry P) :=
  [⟨.armDeferredMappingRemoval,.ok none⟩,⟨.verifyDeferredMappingRemoval,.ok none⟩,
    ⟨.classifyOuterProfile,.ok (some p)⟩] ++ mountSteps p filesystemUuid

def startSteps (p : P) (filesystemUuid : Option String) : List (Entry P) :=
  [⟨.ensureDeviceUnused,.ok none⟩,⟨.ensureMapperAbsent,.ok none⟩,⟨.classifyOuterProfile,.ok (some p)⟩,
    ⟨.preOpenRevalidate,.ok none⟩,⟨.duplicatePassphrase,.ok none⟩,⟨.openLuks2,.ok none⟩,
    ⟨.inspectMapping,.ok none⟩] ++ armSteps p filesystemUuid

def Attested (steps : List (Entry P)) (r : Except VaultMountManagerError Unit) (s : Activation E P M T) :
    Prop :=
  Held s ∧ (r = .ok () → s.steps = steps ∧ s.mounted = true ∧ s.attestation ≠ none)

theorem Held.notAttested {steps : List (Entry P)} {e : VaultMountManagerError} (h : Held s) :
    Attested steps (.error e) s :=
  ⟨h,fun hr => by cases hr⟩

theorem wp_formatIfProvisioning_bind {g : Unit → Act E P M T β}
    {post : Except VaultMountManagerError β → Activation E P M T → Prop} (h : Held s)
    (hmounted : s.mounted = false) (hpost : ∀ e s', Held s' → post (.error e) s')
    (hok : ∀ s', Held s' → s'.steps = s.steps ++ formatSteps filesystemUuid → s'.mounted = false →
      wp (g ()) Allowed post s') :
    wp (formatIfProvisioning ops header mapping filesystemUuid >>= g) Allowed post s := by
  cases filesystemUuid with
  | none => exact wp_bind.mpr (wp_pure.mpr (hok s h (by simp [formatSteps]) hmounted))
  | some filesystemUuid =>
    exact wp_held_bind h rfl (fun _ => by decide) hpost fun _ env hheld => hok _ hheld rfl hmounted

structure Opened (s : Activation E P M T) : Prop where
  mapping : s.mapping = none
  closed : s.mappingOpen = false
  unmounted : s.mounted = false
  invoked : s.mutatorInvoked = true
  fresh : s.cleanupAttempted = false
  owned : Owned s.steps
  start : StartOnly s
  neverMounted : .mountExt4 ∉ s.made

theorem Opened.answer (h : Opened s) (hstep : step.isStart = true) (hmount : step ≠ .mountExt4)
    (outcome : Except VaultMountManagerError (Option P)) (env : E) :
    Opened (s.answer step outcome env) :=
  { h with
    owned := h.owned.append
    start := h.start.answer hstep outcome env
    neverMounted := by simpa using ⟨h.neverMounted,hmount.symm⟩ }

theorem Opened.failed {e : VaultMountManagerError} (h : Opened s)
    (habsent : e ≠ .cleanupFailed → Verified s.steps .openLuks2 mappingAbsence) : Failed e s where
  ready :=
    ⟨fun hs => absurd (h.unmounted.symm.trans hs) (by decide),fun hs => absurd h.mapping hs,
      fun _ => h.owned,fun _ => h.neverMounted,h.start⟩
  fresh := h.fresh
  invoked := fun _ => h.closed
  absent := fun he _ => .inr ⟨habsent he,verified_of_none h.neverMounted⟩

theorem Opened.held (h : Opened s) (mapping : M) :
    Held { s with
      mapping := some mapping
      mappingOpen := true } where
  mapping := by simp
  open_ := rfl
  invoked := h.invoked
  fresh := h.fresh
  owned := h.owned
  unmounted := fun _ => h.neverMounted
  start := h.start

theorem wp_uninspectedMapping {opened : Except VaultMountManagerError Unit}
    {mappingError : VaultMountManagerError} (h : Opened s) :
    wp (uninspectedMapping ops opened mappingError) Allowed
      (fun r s' => ∃ e, r = .error e ∧ Failed e s') s := by
  have hunowned : Failed .cleanupFailed s := h.failed fun hne => absurd rfl hne
  unfold uninspectedMapping
  split_ifs
  · exact wp_fail.mpr ⟨_,rfl,hunowned⟩
  cases opened with
  | ok =>
    refine wp_bind_update (wp_fail.mpr ⟨_,rfl,?_⟩)
    exact
      { ready := ⟨fun hs => absurd (h.unmounted.symm.trans hs) (by decide),fun _ => rfl,fun _ => h.owned,
          fun _ => h.neverMounted,h.start⟩
        fresh := h.fresh
        invoked := fun hs => absurd (h.invoked.symm.trans hs) (by decide)
        absent := fun hne => absurd rfl hne }
  | error openError =>
    dsimp only
    split_ifs
    · exact wp_fail.mpr ⟨_,rfl,hunowned⟩
    refine wp_bind_attempt (wp_invoke (allowed_of_isStart rfl h.owned) (fun _ env => ?_) fun e env => ?_)
    · exact wp_fail.mpr ⟨_,rfl,(h.answer rfl (by decide) _ _).failed
        fun _ => verified_snoc (by decide) (by decide)⟩
    · exact wp_fail.mpr ⟨_,rfl,(h.answer rfl (by decide) _ _).failed fun hne => absurd rfl hne⟩

def StartEnds (steps : List (Entry P)) (r : Except VaultMountManagerError Unit) (s : Activation E P M T) :
    Prop :=
  (∀ e, r = .error e → Failed e s) ∧ (r = .ok () → Attested steps r s)

theorem Failed.startEnds {steps : List (Entry P)} {e : VaultMountManagerError} (h : Failed e s) :
    StartEnds steps (.error e) s :=
  ⟨fun _ he => by cases he; exact h,nofun⟩

structure Begun (s : Activation E P M T) : Prop where
  mapping : s.mapping = none
  closed : s.mappingOpen = false
  unmounted : s.mounted = false
  fresh : s.cleanupAttempted = false
  start : StartOnly s
  neverMounted : .mountExt4 ∉ s.made
  neverOpened : NeverOpened s.steps

theorem Begun.answer (h : Begun s) (hstep : step.isStart = true) (hmount : step ≠ .mountExt4)
    {outcome : Except VaultMountManagerError (Option P)}
    (hopen : step = .openLuks2 → outcome = .error .toolUnavailable) (env : E) :
    Begun (s.answer step outcome env) :=
  { h with
    start := h.start.answer hstep outcome env
    neverMounted := by simpa using ⟨h.neverMounted,hmount.symm⟩
    neverOpened := by
      intro entry hmem
      simp only [Activation.answer, List.mem_append, List.mem_singleton] at hmem
      rcases hmem with hmem | rfl
      · exact h.neverOpened entry hmem
      · exact hopen }

theorem Begun.failed (h : Begun s) (e : VaultMountManagerError) : Failed e s where
  ready :=
    ⟨fun hs => absurd (h.unmounted.symm.trans hs) (by decide),fun hs => absurd h.mapping hs,
      fun hs => absurd (h.closed.symm.trans hs) (by decide),fun _ => h.neverMounted,h.start⟩
  fresh := h.fresh
  invoked := fun _ => h.closed
  absent := fun _ _ => .inl h.neverOpened

theorem Begun.invoke (h : Begun s) (invoked : Bool) : Begun { s with mutatorInvoked := invoked } :=
  { h with }

theorem Begun.unowned (h : Begun s) (env : E) :
    Failed .cleanupFailed (s.answer .openLuks2 (.error .cleanupFailed) env) where
  ready :=
    ⟨fun hs => absurd (h.unmounted.symm.trans hs) (by decide),fun hs => absurd h.mapping hs,
      fun hs => absurd (h.closed.symm.trans hs) (by decide),fun _ => by simpa using h.neverMounted,
      h.start.answer rfl _ _⟩
  fresh := h.fresh
  invoked := fun _ => h.closed
  absent := fun hne => absurd rfl hne

theorem allowed_untouched (hstep : step.touchesMapping = false) : Allowed step s := by
  refine ⟨fun htouches => absurd (hstep.symm.trans htouches) (by decide),?_,?_,?_,?_⟩
  all_goals
    rintro rfl
    cases hstep

theorem wp_begun_bind {evidence : α → Option P} {f : E → Except VaultMountManagerError α × E}
    {g : α → Act E P M T β} {post : Except VaultMountManagerError β → Activation E P M T → Prop}
    (h : Begun s) (hstep : step.isStart = true ∧ step.touchesMapping = false ∧ step ≠ .openLuks2)
    (hpost : ∀ e s', Begun s' → post (.error e) s')
    (hok : ∀ a env, Begun (s.answer step (.ok (evidence a)) env) →
      wp (g a) Allowed post (s.answer step (.ok (evidence a)) env)) :
    wp (invoke step evidence f >>= g) Allowed post s := by
  obtain ⟨hstart,htouches,hopen⟩ := hstep
  have hanswer : ∀ outcome env, Begun (s.answer step outcome env) := fun outcome env =>
    h.answer hstart (by rintro rfl; cases htouches) (fun heq => absurd heq hopen) env
  exact wp_invoke_bind (allowed_untouched htouches) (fun a env => hok a env (hanswer _ _))
    fun e _ => hpost e _ (hanswer _ _)

theorem Begun.opened (h : Begun s) (hinvoked : s.mutatorInvoked = true)
    (outcome : Except VaultMountManagerError (Option P)) (htool : outcome ≠ .error .toolUnavailable)
    (howned : outcome ≠ .error .cleanupFailed) (env : E) : Opened (s.answer .openLuks2 outcome env) where
  mapping := h.mapping
  closed := h.closed
  unmounted := h.unmounted
  invoked := hinvoked
  fresh := h.fresh
  owned := ⟨⟨.openLuks2,outcome⟩,by simp [Activation.answer],rfl,htool,howned⟩
  start := h.start.answer rfl outcome env
  neverMounted := by simpa using h.neverMounted

variable [DecidableEq P]

theorem wp_requireProfile_bind {g : Unit → Act E P M T β}
    {post : Except VaultMountManagerError β → Activation E P M T → Prop} (h : Held s)
    (hpost : ∀ e s', Held s' → post (.error e) s')
    (hok : ∀ env, Held (s.answer .classifyOuterProfile (.ok (some outerProfile)) env) →
      wp (g ()) Allowed post (s.answer .classifyOuterProfile (.ok (some outerProfile)) env)) :
    wp (requireProfile ops outerProfile >>= g) Allowed post s := by
  refine wp_bind.mpr (wp_held_bind h rfl (fun _ => by decide) hpost fun profile env hheld => ?_)
  refine wp_require.mpr ⟨fun heq => ?_,fun _ => hpost _ _ hheld⟩
  subst heq
  exact hok env hheld

theorem wp_mountAndAttest (h : Held s) (hmounted : s.mounted = false) :
    wp (mountAndAttest ops outerProfile header filesystemUuid mapping) Allowed
      (Attested (s.steps ++ mountSteps outerProfile filesystemUuid)) s := by
  refine wp_formatIfProvisioning_bind h hmounted (fun _ _ => Held.notAttested)
    fun s₁ h₁ hsteps hmounted => ?_
  refine wp_held_bind h₁ rfl (fun _ => by decide) (fun _ _ => Held.notAttested) fun filesystem _ h₂ => ?_
  refine wp_held_bind h₂ rfl (fun _ => by decide) (fun _ _ => Held.notAttested) fun _ _ h₃ => ?_
  refine wp_held_bind h₃ rfl (fun _ => by decide) (fun _ _ => Held.notAttested)
    fun _ _ h₄ => wp_bind_update ?_
  -- The flag is set before the mount: an effect that is reported as an error is cleaned up.
  have h₅ := h₄.mount
  refine wp_held_bind h₅ rfl (fun hs => by cases hs) (fun _ _ => Held.notAttested) fun _ _ h₆ => ?_
  refine wp_held_bind h₆ rfl (fun _ => by decide) (fun _ _ => Held.notAttested) fun _ _ h₇ => ?_
  refine wp_requireProfile_bind h₇ (fun _ _ => Held.notAttested) fun _ h₈ => ?_
  refine wp_held_bind h₈ rfl (fun _ => by decide) (fun _ _ => Held.notAttested)
    fun attestation _ h₉ => wp_update.mpr ?_
  refine ⟨h₉.attest _,fun _ => ⟨?_,rfl,by simp⟩⟩
  simp [Activation.answer, hsteps, mountSteps]

theorem wp_armAndMount {opened : Except VaultMountManagerError Unit} (h : Held s)
    (hmounted : s.mounted = false) :
    wp (armAndMount ops outerProfile header filesystemUuid opened mapping) Allowed
      (fun r s' => (r = .ok () → opened = .ok ()) ∧
        Attested (s.steps ++ armSteps outerProfile filesystemUuid) r s') s := by
  refine wp_held_bind h rfl (fun _ => by decide) (fun _ _ hs' => ⟨nofun,hs'.notAttested⟩) fun _ _ h₁ =>
    wp_bind_update ?_
  refine wp_held_bind h₁.arm rfl (fun _ => by decide) (fun _ _ hs' => ⟨nofun,hs'.notAttested⟩)
    fun _ _ h₂ => wp_bind_lift (fun _ hopened => ?_) fun _ _ => ⟨nofun,h₂.notAttested⟩
  refine wp_requireProfile_bind h₂ (fun _ _ hs' => ⟨nofun,hs'.notAttested⟩) fun _ h₃ => ?_
  refine wp_post_mono (wp_mountAndAttest h₃ hmounted) fun r s' hs' => ⟨fun _ => hopened,?_⟩
  simpa [Activation.answer, armSteps] using hs'

theorem wp_acquireMapping {opened : Except VaultMountManagerError Unit} (h : Opened s) :
    wp (acquireMapping ops outerProfile header filesystemUuid opened) Allowed
      (fun r s' => (r = .ok () → opened = .ok ()) ∧
        StartEnds (s.steps ++ ⟨.inspectMapping,.ok none⟩ :: armSteps outerProfile filesystemUuid) r s')
        s := by
  refine wp_bind_attempt (wp_invoke (allowed_of_isStart rfl h.owned)
    (fun mapping env => ?_) fun e env => ?_)
  · have hheld :=
      (h.answer rfl (by decide) (.ok none) env : Opened (s.answer .inspectMapping _ env)).held mapping
    refine wp_bind_update (wp_post_mono (wp_armAndMount hheld h.unmounted) fun r s' hs' => ?_)
    refine ⟨hs'.1,fun e _ => hs'.2.1.failed e,fun _ => ?_⟩
    simpa [Activation.answer] using hs'.2
  · refine wp_post_mono (wp_uninspectedMapping (h.answer rfl (by decide) _ _)) fun r s' hs' => ?_
    obtain ⟨e',rfl,hfailed⟩ := hs'
    exact ⟨by simp,hfailed.startEnds⟩

theorem wp_continueStart {keySize : Option Nat} (h : Begun s) :
    wp (continueStart ops outerProfile header keySize filesystemUuid) Allowed
      (StartEnds (s.steps ++ [⟨.preOpenRevalidate,.ok none⟩,⟨.duplicatePassphrase,.ok none⟩,
        ⟨.openLuks2,.ok none⟩,⟨.inspectMapping,.ok none⟩] ++ armSteps outerProfile filesystemUuid))
        s := by
  refine wp_begun_bind h (by decide) (fun _ _ hs' => (hs'.failed _).startEnds) fun _ _ h₁ => ?_
  refine wp_begun_bind h₁ (by decide) (fun _ _ hs' => (hs'.failed _).startEnds)
    fun _ _ h₂ => wp_bind_update ?_
  have h₃ := h₂.invoke true
  refine wp_bind_attempt (wp_invoke (allowed_untouched rfl) (fun _ env => ?_) fun e env => ?_)
  · refine wp_post_mono (wp_acquireMapping (h₃.opened rfl (.ok none) (by simp) (by simp) env))
      fun r s' hs' => ?_
    simpa [Activation.answer] using hs'.2
  · split
    · next he =>
      cases he
      refine wp_bind_update (wp_fail.mpr (Failed.startEnds ?_))
      exact ((h₃.answer rfl (by decide) (fun _ => rfl) env).invoke false).failed _
    · next he =>
      cases he
      exact wp_fail.mpr (h₃.unowned env).startEnds
    · next htool howned =>
      have hopened := h₃.opened rfl (.error e) (by simpa using htool) (by simpa using howned) env
      refine wp_post_mono (wp_acquireMapping hopened) fun r s' hs' => ?_
      exact ⟨hs'.2.1,fun hr => by cases hs'.1 hr⟩

omit [DecidableEq P] in
theorem begun_fresh (env : E) : Begun (Activation.fresh P M T env) :=
  ⟨rfl,rfl,rfl,rfl,nofun,nofun,nofun⟩

omit [DecidableEq P] in
theorem Begun.failureHonest (h : Begun s) (e : VaultMountManagerError) :
    FailureHonest (.error e : Except _ H) s :=
  ⟨h.start.singleCleanup,e,rfl,fun _ => .inl h.neverOpened⟩

structure Started (filesystemUuid : Option String) (s : Activation E P M T) : Prop where
  steps : ∃ p, s.steps = startSteps p filesystemUuid
  mounted : s.mounted = true
  attested : s.attestation ≠ none
  living : Living s

theorem wp_startWithFilesystem (ops : VaultOps E P H M F T) (keySize : Option Nat)
    (filesystemUuid : Option String) (env : E) :
    wp (startWithFilesystem ops keySize filesystemUuid) Allowed
      (fun r s => FailureHonest r s ∨ (∃ header, r = .ok header) ∧ Started filesystemUuid s)
      (Activation.fresh P M T env) := by
  refine wp_begun_bind (begun_fresh env) (by decide) (fun _ _ hs' => .inl (hs'.failureHonest _))
    fun _ _ h₁ => ?_
  refine wp_begun_bind h₁ (by decide) (fun _ _ hs' => .inl (hs'.failureHonest _)) fun _ _ h₂ => ?_
  refine wp_begun_bind h₂ (by decide) (fun _ _ hs' => .inl (hs'.failureHonest _)) fun p _ h₃ => ?_
  refine wp_bind_attempt (wp_post_mono (wp_continueStart h₃) fun r s' hs' => ?_)
  cases r with
  | ok =>
    obtain ⟨hheld,hattested⟩ := hs'.2 rfl
    obtain ⟨hsteps,hmounted,hattested⟩ := hattested rfl
    refine wp_pure.mpr (.inr ⟨⟨_,rfl⟩,⟨p,?_⟩,hmounted,hattested,.inl ⟨hheld.fresh,hheld.ready⟩⟩)
    simp [hsteps, Activation.answer, Activation.fresh, startSteps]
  | error primary =>
    exact wp_post_mono (wp_endFailedStart (hs'.1 primary rfl)) fun _ _ => .inl

theorem wp_lifetime (ops : VaultOps E P H M F T) (keySize : Option Nat) (filesystemUuid : Option String)
    (n : Nat) (env : E) :
    wp (lifetime ops keySize filesystemUuid n) Allowed (fun _ s => SingleCleanup s.made)
      (Activation.fresh P M T env) := by
  refine wp_bind.mpr (wp_post_mono (wp_startWithFilesystem ops keySize filesystemUuid env)
    fun r s' hs' => ?_)
  rcases hs' with ⟨hsingle,e,rfl,_⟩ | ⟨⟨header,rfl⟩,hstarted⟩
  · exact hsingle
  have hrest : wp (cleanups ops header n >>= fun _ => dropActivation ops header) Allowed
      (fun _ s => SingleCleanup s.made) s' := by
    refine wp_bind.mpr (wp_post_mono (wp_cleanups hstarted.living n) fun r s'' hs'' => ?_)
    obtain ⟨rfl,hliving⟩ := hs''
    exact wp_dropActivation hliving
  exact hrest

/-- Whatever the operations answer, and whatever they did when they answer an error: every call of the
whole life is allowed and there is one cleanup; an error other than `CleanupFailed` leaves nothing
behind; a success has made exactly the calls of an attested mount, with one outer profile throughout. -/
theorem activation_is_safe (ops : VaultOps E P H M F T) (keySize : Option Nat)
    (filesystemUuid : Option String) (n : Nat) (env : E) :
    let life := lifetime ops keySize filesystemUuid n (Activation.fresh P M T env)
    let start := startWithFilesystem ops keySize filesystemUuid (Activation.fresh P M T env)
    (∀ v ∈ life.visits, Allowed v.1 v.2) ∧ SingleCleanup life.final.made ∧
      (∀ e, start.result = .error e → e ≠ .cleanupFailed → NothingLeft start.final.steps) ∧
      (∀ header, start.result = .ok header → (∃ p, start.final.steps = startSteps p filesystemUuid) ∧
        start.final.mounted = true ∧ start.final.attestation ≠ none) := by
  intro life start
  have hlife := wp_lifetime ops keySize filesystemUuid n env
  obtain ⟨_,hstart⟩ := wp_startWithFilesystem ops keySize filesystemUuid env
  refine ⟨hlife.1,hlife.2,fun e he hne => ?_,fun header hheader => ?_⟩
  · rcases hstart with ⟨_,e',he',habsent⟩ | ⟨⟨header,hheader⟩,_⟩
    · cases he.symm.trans he'
      exact habsent hne
    · cases he.symm.trans hheader
  · rcases hstart with ⟨_,e,he,_⟩ | ⟨_,hstarted⟩
    · cases hheader.symm.trans he
    · exact ⟨hstarted.steps,hstarted.mounted,hstarted.attested⟩

end

namespace VaultSample

/-- Operations over no state that all succeed, but for the ones that are given to fail. -/
def failing (failures : List Step) : VaultOps Unit Unit Unit Unit Unit Unit :=
  let answer (step : Step) : Except VaultMountManagerError Unit × Unit :=
    (if step ∈ failures then .error .operationTimedOut else .ok (),())
  { uuid := fun _ => ()
    ensureDeviceUnused := fun _ => answer .ensureDeviceUnused
    ensureMapperAbsent := fun _ => answer .ensureMapperAbsent
    classifyOuterProfile := fun _ => answer .classifyOuterProfile
    preOpenRevalidate := fun _ => answer .preOpenRevalidate
    duplicatePassphrase := fun _ => answer .duplicatePassphrase
    openLuks2 := fun _ _ => answer .openLuks2
    inspectMapping := fun _ _ => answer .inspectMapping
    verifyFailedOpenAbsence := fun _ => answer .verifyFailedOpenAbsence
    armDeferredMappingRemoval := fun _ => answer .armDeferredMappingRemoval
    verifyDeferredMappingRemoval := fun _ _ _ => answer .verifyDeferredMappingRemoval
    formatFilesystem := fun _ _ _ _ => answer .formatFilesystem
    inspectFilesystem := fun _ _ _ => answer .inspectFilesystem
    prepareMountRoot := fun _ => answer .prepareMountRoot
    preMountRevalidate := fun _ _ _ => answer .preMountRevalidate
    mountExt4 := fun _ _ _ => answer .mountExt4
    verifyMountedFilesystem := fun _ _ _ _ => answer .verifyMountedFilesystem
    attestMount := fun _ _ _ => answer .attestMount
    verifyCleanupMount := fun _ _ _ _ => answer .verifyCleanupMount
    unmount := fun _ => answer .unmount
    verifyUnmounted := fun _ _ _ => answer .verifyUnmounted
    verifyCleanupMapping := fun _ _ _ => answer .verifyCleanupMapping
    closeMapping := fun _ => answer .closeMapping
    waitForDeferredMappingAbsence := fun _ => answer .waitForDeferredMappingAbsence
    verifyClosedMappingAbsence := fun _ => answer .verifyClosedMappingAbsence }

/-- A cleanup whose mapping is not verified leaves the descriptor to the end of the activation: closing
it there lets the kernel remove the armed mapping. -/
theorem unverified_mapping_is_released :
    ∃ v ∈ (lifetime (failing [.attestMount,.verifyCleanupMapping]) none none 0
        (Activation.fresh Unit Unit Unit ())).visits,
      v.1 = .dropMapping ∧ v.2.deferredRemoveArmed = true ∧
        ∀ entry ∈ v.2.steps, entry.step = .verifyCleanupMapping →
          entry.outcome = .error .operationTimedOut := by
  decide +kernel

end VaultSample

end KernAid.Vault
