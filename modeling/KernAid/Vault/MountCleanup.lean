import KernAid.Vault.MountActivation

/-! What an activation of the Rescue vault does whatever its operations answer. -/

set_option autoImplicit false

namespace KernAid.Vault

open CrashLogic Program

def Step.isCleanup : Step → Bool
  | .verifyCleanupMount => true
  | .unmount => true
  | .verifyUnmounted => true
  | .verifyCleanupMapping => true
  | .releaseMapping => true
  | .waitForDeferredMappingAbsence => true
  | .closeMapping => true
  | .verifyClosedMappingAbsence => true
  | _ => false

/-- The calls that inspect, arm, mount or close anything behind the open command. -/
def Step.touchesMapping : Step → Bool
  | .ensureDeviceUnused => false
  | .ensureMapperAbsent => false
  | .classifyOuterProfile => false
  | .preOpenRevalidate => false
  | .duplicatePassphrase => false
  | .openLuks2 => false
  | _ => true

def Step.isStart (step : Step) : Bool := !step.isCleanup && !decide (step = .dropMapping)

section

variable {E P H M F T α β : Type}

def Activation.made (s : Activation E P M T) : List Step := s.steps.map Entry.step

@[simp] theorem Activation.made_answer (s : Activation E P M T) (step : Step)
    (outcome : Except VaultMountManagerError (Option P)) (env : E) :
    (s.answer step outcome env).made = s.made ++ [step] := by
  simp [made, answer]

def Owned (steps : List (Entry P)) : Prop :=
  ∃ entry ∈ steps, entry.step = .openLuks2 ∧ entry.outcome ≠ .error .toolUnavailable ∧
    entry.outcome ≠ .error .cleanupFailed

def JustAfter (steps : List (Entry P)) (checks : List Step) : Prop :=
  ∃ earlier, steps = earlier ++ checks.map fun step => ⟨step,.ok none⟩

structure Allowed (step : Step) (s : Activation E P M T) : Prop where
  owned : step.touchesMapping = true → Owned s.steps
  unmount : step = .unmount → JustAfter s.steps [.verifyCleanupMount]
  release : step = .releaseMapping → JustAfter s.steps [.verifyCleanupMapping]
  close : step = .closeMapping → JustAfter s.steps [.verifyCleanupMapping,.releaseMapping]
  dropped : step = .dropMapping → s.cleanupAttempted = true ∧ .releaseMapping ∉ s.made

/-- Every such call is followed by a successful check of one of these kinds. -/
def Verified (steps : List (Entry P)) (mutation : Step) (checks : List Step) : Prop :=
  ∀ before entry after, steps = before ++ entry :: after → entry.step = mutation →
    ∃ check ∈ after, check.step ∈ checks ∧ check.outcome = .ok none

def mappingAbsence : List Step :=
  [.verifyFailedOpenAbsence,.waitForDeferredMappingAbsence,.verifyClosedMappingAbsence]

def SingleCleanup (made : List Step) : Prop := (made.filter Step.isCleanup).Nodup

theorem Owned.append {steps more : List (Entry P)} (h : Owned steps) : Owned (steps ++ more) := by
  obtain ⟨entry,hmem,hentry⟩ := h
  exact ⟨entry,List.mem_append_left _ hmem,hentry⟩

theorem verified_of_none {steps : List (Entry P)} {mutation : Step} {checks : List Step}
    (h : mutation ∉ steps.map Entry.step) : Verified steps mutation checks := by
  intro before entry after hsteps hentry
  refine absurd (List.mem_map.mpr ⟨entry,?_,hentry⟩) h
  rw [hsteps]
  simp

theorem snoc_split {steps before after : List (Entry P)} {last entry : Entry P}
    (h : steps ++ [last] = before ++ entry :: after) :
    (entry = last ∧ after = []) ∨ ∃ init, after = init ++ [last] ∧ steps = before ++ entry :: init := by
  rcases List.eq_nil_or_concat after with rfl | ⟨init,x,rfl⟩
  · have hlast := (List.append_inj' h rfl).2
    cases hlast
    exact .inl ⟨rfl,rfl⟩
  · rw [List.concat_eq_append, ← List.cons_append, ← List.append_assoc] at h
    obtain ⟨hsteps,hlast⟩ := List.append_inj' h rfl
    cases hlast
    exact .inr ⟨init,by simp,hsteps⟩

theorem verified_snoc {steps : List (Entry P)} {mutation check : Step} {checks : List Step}
    (hcheck : check ∈ checks) (hne : check ≠ mutation) :
    Verified (steps ++ [⟨check,.ok none⟩]) mutation checks := by
  intro before entry after hsteps hentry
  obtain ⟨rfl,_⟩ | ⟨init,rfl,_⟩ := snoc_split hsteps
  · exact absurd hentry hne
  · exact ⟨_,List.mem_append_right _ (List.mem_singleton_self _),hcheck,rfl⟩

theorem Verified.snoc {steps : List (Entry P)} {mutation step : Step} {checks : List Step}
    {outcome : Except VaultMountManagerError (Option P)} (h : Verified steps mutation checks)
    (hne : step ≠ mutation) : Verified (steps ++ [⟨step,outcome⟩]) mutation checks := by
  intro before mutated after hsteps hmutated
  obtain ⟨rfl,_⟩ | ⟨init,rfl,hinit⟩ := snoc_split hsteps
  · exact absurd hmutated hne
  · obtain ⟨check,hcheck,hgood⟩ := h before mutated init hinit hmutated
    exact ⟨check,List.mem_append_left _ hcheck,hgood⟩

/-! One call, whatever it answers. -/

variable {during : Step → Activation E P M T → Prop} {s : Activation E P M T} {step : Step}

theorem wp_invoke {evidence : α → Option P} {f : E → Except VaultMountManagerError α × E}
    {post : Except VaultMountManagerError α → Activation E P M T → Prop} (hact : during step s)
    (hok : ∀ a env, post (.ok a) (s.answer step (.ok (evidence a)) env))
    (herror : ∀ e env, post (.error e) (s.answer step (.error e) env)) :
    wp (invoke step evidence f) during post s := by
  refine ⟨fun v hv => ?_,?_⟩
  · obtain rfl := List.mem_singleton.mp hv
    exact hact
  · change post (f s.env).1 (s.answer step ((f s.env).1.map evidence) (f s.env).2)
    cases (f s.env).1 with
    | ok a => exact hok a _
    | error e => exact herror e _

theorem wp_invoke_bind {evidence : α → Option P} {f : E → Except VaultMountManagerError α × E}
    {g : α → Act E P M T β} {post : Except VaultMountManagerError β → Activation E P M T → Prop}
    (hact : during step s)
    (hok : ∀ a env, wp (g a) during post (s.answer step (.ok (evidence a)) env))
    (herror : ∀ e env, post (.error e) (s.answer step (.error e) env)) :
    wp (invoke step evidence f >>= g) during post s :=
  wp_bind.mpr (wp_invoke hact hok herror)

theorem wp_release_bind {g : Unit → Act E P M T β}
    {post : Except VaultMountManagerError β → Activation E P M T → Prop} (hact : during step s)
    (h : wp (g ()) during post (s.answer step (.ok none) s.env)) :
    wp (release step >>= g) during post s := by
  refine wp_bind.mpr ⟨fun v hv => ?_,h⟩
  obtain rfl := List.mem_singleton.mp hv
  exact hact

/-! The cleanup. -/

structure Ready (s : Activation E P M T) : Prop where
  mounted : s.mounted = true → s.mapping ≠ none ∧ s.mappingOpen = true
  retained : s.mapping ≠ none → s.mappingOpen = true
  owned : s.mappingOpen = true → Owned s.steps
  unmounted : s.mounted = false → .mountExt4 ∉ s.made
  start : ∀ step ∈ s.made, step.isStart = true

/-- The calls of `s'` that `s` has not made are some of these, in this order. -/
def Extends (order : List Step) (s s' : Activation E P M T) : Prop :=
  ∃ extra, s'.made = s.made ++ extra ∧ extra.Sublist order

def mountCleanupOrder : List Step := [.verifyCleanupMount,.unmount,.verifyUnmounted]

def mappingCleanupOrder : List Step :=
  [.verifyCleanupMapping,.releaseMapping,.waitForDeferredMappingAbsence,.closeMapping,
    .verifyClosedMappingAbsence]

structure MountCleaned (s : Activation E P M T) (r : Except VaultMountManagerError Unit)
    (s' : Activation E P M T) : Prop where
  steps : Extends mountCleanupOrder s s'
  owned : Owned s.steps → Owned s'.steps
  frame : s'.mapping = s.mapping ∧ s'.mappingOpen = s.mappingOpen ∧
    s'.cleanupAttempted = s.cleanupAttempted
  verified : r = .ok () → Verified s'.steps .mountExt4 [.verifyUnmounted]

variable {ops : VaultOps E P H M F T} {header : H}

theorem allowed_of_owned (h : Owned s.steps) (hstep : step ≠ .unmount ∧ step ≠ .releaseMapping ∧
    step ≠ .closeMapping ∧ step ≠ .dropMapping) : Allowed step s :=
  ⟨fun _ => h,fun heq => absurd heq hstep.1,fun heq => absurd heq hstep.2.1,
    fun heq => absurd heq hstep.2.2.1,fun heq => absurd heq hstep.2.2.2⟩

theorem wp_cleanupMount (h : Ready s) :
    wp (cleanupMount ops header) Allowed (MountCleaned s) s := by
  refine wp_bind_read ?_
  split_ifs with hmounted
  · obtain ⟨hmapping,hopen⟩ := h.mounted hmounted
    obtain ⟨mapping,hmapping⟩ := Option.ne_none_iff_exists'.mp hmapping
    have howned := h.owned hopen
    refine wp_bind.mpr (wp_bind.mpr (wp_read.mpr (wp_lift.mpr ?_)))
    rw [hmapping]
    refine wp_invoke_bind (allowed_of_owned howned (by decide)) (fun _ env => ?_) fun e env =>
      ⟨⟨[.verifyCleanupMount],by simp,by decide⟩,Owned.append,⟨rfl,rfl,rfl⟩,
        fun hr => by cases hr⟩
    refine wp_invoke_bind ⟨fun _ => howned.append,fun _ => ⟨s.steps,rfl⟩,fun heq => (by cases heq),
      fun heq => (by cases heq),fun heq => (by cases heq)⟩ (fun _ env => ?_) fun e env =>
      ⟨⟨[.verifyCleanupMount,.unmount],by simp,by decide⟩,fun h => h.append.append,⟨rfl,rfl,rfl⟩,
        fun hr => by cases hr⟩
    refine wp_invoke_bind (allowed_of_owned howned.append.append (by decide))
      (fun _ env => ?_) fun e env =>
      ⟨⟨mountCleanupOrder,by simp [mountCleanupOrder],.refl _⟩,fun h => h.append.append.append,
        ⟨rfl,rfl,rfl⟩,fun hr => by cases hr⟩
    refine wp_update.mpr ⟨⟨mountCleanupOrder,?_,.refl _⟩,fun h => h.append.append.append,⟨rfl,rfl,rfl⟩,
        fun _ => verified_snoc (List.mem_singleton_self _) (by decide)⟩
    simp [Activation.made, Activation.answer, mountCleanupOrder]
  · exact wp_pure.mpr ⟨⟨[],by simp,by simp⟩,id,⟨rfl,rfl,rfl⟩,
      fun _ => verified_of_none (h.unmounted (Bool.eq_false_iff.mpr hmounted))⟩

structure MappingCleaned (s : Activation E P M T) (r : Except VaultMountManagerError Unit)
    (s' : Activation E P M T) : Prop where
  steps : Extends mappingCleanupOrder s s'
  owned : Owned s.steps → Owned s'.steps
  retained : s'.mapping ≠ none → s'.mapping = s.mapping ∧
    (.releaseMapping ∉ s.made → .releaseMapping ∉ s'.made)
  attempted : s'.cleanupAttempted = s.cleanupAttempted
  mount : Verified s.steps .mountExt4 [.verifyUnmounted] → Verified s'.steps .mountExt4 [.verifyUnmounted]
  verified : r = .ok () → s.mappingOpen = true → Verified s'.steps .openLuks2 mappingAbsence

/-- After the verified release of the mapping of `s`. -/
structure Released (s s' : Activation E P M T) : Prop where
  steps : s'.steps = s.steps ++ [⟨.verifyCleanupMapping,.ok none⟩,⟨.releaseMapping,.ok none⟩]
  mapping : s'.mapping = none
  attempted : s'.cleanupAttempted = s.cleanupAttempted

theorem released (s : Activation E P M T) (env env' : E) : Released s
    { (s.answer .verifyCleanupMapping (.ok none) env).answer .releaseMapping (.ok none) env' with
      mapping := none } :=
  ⟨by simp [Activation.answer],rfl,rfl⟩

theorem Released.made {s' : Activation E P M T} (h : Released s s') :
    s'.made = s.made ++ [.verifyCleanupMapping,.releaseMapping] := by
  simp [Activation.made, h.steps]

theorem Released.mount {s' : Activation E P M T} (h : Released s s')
    (hs : Verified s.steps .mountExt4 [.verifyUnmounted]) :
    Verified s'.steps .mountExt4 [.verifyUnmounted] := by
  rw [h.steps, List.append_cons]
  exact (hs.snoc (by decide)).snoc (by decide)

theorem wp_awaitAbsence {s₀ : Activation E P M T} (h : Released s₀ s) (howned : Owned s₀.steps) :
    wp (awaitAbsence ops) Allowed (MappingCleaned s₀) s := by
  have howned' : Owned s.steps := by
    rw [h.steps]
    exact howned.append
  refine wp_bind_read ?_
  split_ifs
  · have hend : ∀ outcome env, Extends mappingCleanupOrder s₀
        (s.answer .waitForDeferredMappingAbsence outcome env) := fun outcome env =>
      ⟨[.verifyCleanupMapping,.releaseMapping,.waitForDeferredMappingAbsence],by simp [h.made],by decide⟩
    refine wp_invoke (allowed_of_owned howned' (by decide)) (fun _ env => ?_) fun e env => ?_
    · exact ⟨hend _ _,fun _ => howned'.append,fun hne => absurd h.mapping hne,h.attempted,
        fun hs => (h.mount hs).snoc (by decide),fun _ _ => verified_snoc (by decide) (by decide)⟩
    · exact ⟨hend _ _,fun _ => howned'.append,fun hne => absurd h.mapping hne,h.attempted,
        fun hs => (h.mount hs).snoc (by decide),fun hr => by cases hr⟩
  · refine wp_invoke_bind ⟨fun _ => howned',fun heq => (by cases heq),fun heq => (by cases heq),
      fun _ => ⟨s₀.steps,h.steps⟩,fun heq => (by cases heq)⟩ (fun _ env => ?_) fun e env =>
      ⟨⟨[.verifyCleanupMapping,.releaseMapping,.closeMapping],by simp [h.made],by decide⟩,
        fun _ => howned'.append,fun hne => absurd h.mapping hne,h.attempted,
        fun hs => (h.mount hs).snoc (by decide),fun hr => by cases hr⟩
    have hend : ∀ env outcome env', Extends mappingCleanupOrder s₀
        ((s.answer .closeMapping (.ok none) env).answer .verifyClosedMappingAbsence outcome env') :=
      fun env outcome env' => ⟨[.verifyCleanupMapping,.releaseMapping,.closeMapping,
        .verifyClosedMappingAbsence],by simp [h.made],by decide⟩
    refine wp_invoke (allowed_of_owned howned'.append (by decide)) (fun _ env => ?_) fun e env => ?_
    · exact ⟨hend _ _ _,fun _ => howned'.append.append,fun hne => absurd h.mapping hne,h.attempted,
        fun hs => ((h.mount hs).snoc (by decide)).snoc (by decide),
        fun _ _ => verified_snoc (by decide) (by decide)⟩
    · exact ⟨hend _ _ _,fun _ => howned'.append.append,fun hne => absurd h.mapping hne,h.attempted,
        fun hs => ((h.mount hs).snoc (by decide)).snoc (by decide),fun hr => by cases hr⟩

theorem MappingCleaned.closed {s' : Activation E P M T} {r : Except VaultMountManagerError Unit}
    (h : MappingCleaned s r s') : MappingCleaned s r { s' with mappingOpen := false } :=
  ⟨h.steps,h.owned,h.retained,h.attempted,h.mount,h.verified⟩

theorem wp_cleanupMapping (howned : s.mappingOpen = true → Owned s.steps) :
    wp (cleanupMapping ops header) Allowed (MappingCleaned s) s := by
  refine wp_bind_read ?_
  split_ifs with hopen
  · have howned := howned hopen
    refine wp_bind.mpr (wp_bind.mpr (wp_read.mpr (wp_lift.mpr ?_)))
    cases hmapping : s.mapping with
    | none =>
      exact ⟨⟨[],by simp,by simp⟩,id,fun _ => ⟨rfl,id⟩,rfl,id,fun hr => by cases hr⟩
    | some mapping =>
      refine wp_invoke_bind (allowed_of_owned howned (by decide)) (fun _ env => ?_) fun e env =>
        ⟨⟨[.verifyCleanupMapping],by simp,by decide⟩,Owned.append,
          fun _ => ⟨rfl,fun hs => by simpa using hs⟩,rfl,
          fun hs => hs.snoc (by decide),fun hr => by cases hr⟩
      refine wp_release_bind ⟨fun _ => howned.append,fun heq => (by cases heq),fun _ => ⟨s.steps,rfl⟩,
        fun heq => (by cases heq),fun heq => (by cases heq)⟩ (wp_bind_update (wp_bind.mpr ?_))
      refine wp_post_mono (wp_awaitAbsence (released s _ _) howned) fun r s' hs' => ?_
      cases r with
      | ok => exact wp_update.mpr hs'.closed
      | error => exact hs'
  · exact wp_pure.mpr ⟨⟨[],by simp,by simp⟩,id,fun _ => ⟨rfl,id⟩,rfl,id,fun _ hs => absurd hs hopen⟩

structure CleanedUp (s : Activation E P M T) (r : Except VaultMountManagerError Unit)
    (s' : Activation E P M T) : Prop where
  steps : Extends (mountCleanupOrder ++ mappingCleanupOrder) s s'
  retained : s'.mapping ≠ none → .releaseMapping ∉ s'.made ∧ Owned s'.steps
  attempted : s'.cleanupAttempted = s.cleanupAttempted
  verified : r = .ok () → Verified s'.steps .mountExt4 [.verifyUnmounted] ∧
    (s.mappingOpen = true → Verified s'.steps .openLuks2 mappingAbsence)

theorem Extends.trans {s₁ s₂ : Activation E P M T} {first second : List Step} (h₁ : Extends first s s₁)
    (h₂ : Extends second s₁ s₂) : Extends (first ++ second) s s₂ := by
  obtain ⟨extra₁,hmade₁,hsub₁⟩ := h₁
  obtain ⟨extra₂,hmade₂,hsub₂⟩ := h₂
  exact ⟨extra₁ ++ extra₂,by rw [hmade₂, hmade₁, List.append_assoc],hsub₁.append hsub₂⟩

theorem Extends.notMem {s' : Activation E P M T} {order : List Step} (h : Extends order s s')
    (hs : step ∉ s.made) (horder : step ∉ order) : step ∉ s'.made := by
  obtain ⟨extra,hmade,hsub⟩ := h
  rw [hmade]
  simp only [List.mem_append, not_or]
  exact ⟨hs,fun hmem => horder (hsub.subset hmem)⟩

theorem Ready.notMem (h : Ready s) (hstep : step.isStart = false) : step ∉ s.made := fun hmem =>
  absurd (h.start step hmem) (by simp [hstep])

theorem wp_cleanupInner (h : Ready s) : wp (cleanupInner ops header) Allowed (CleanedUp s) s := by
  refine wp_bind.mpr (wp_post_mono (wp_cleanupMount h) fun r s₁ h₁ => ?_)
  obtain ⟨hmapping,hopen,hattempted⟩ := h₁.frame
  have hrelease : .releaseMapping ∉ s₁.made := h₁.steps.notMem (h.notMem rfl) (by decide)
  cases r with
  | error e =>
    refine ⟨h₁.steps.trans ⟨[],by simp,by simp⟩,fun hne => ⟨hrelease,?_⟩,hattempted,fun hr => by cases hr⟩
    exact h₁.owned (h.owned (h.retained (by rwa [← hmapping])))
  | ok =>
    have howned : s₁.mappingOpen = true → Owned s₁.steps := fun hs₁ => h₁.owned (h.owned (hopen ▸ hs₁))
    refine wp_post_mono (wp_cleanupMapping howned) fun r s₂ h₂ => ?_
    refine ⟨h₁.steps.trans h₂.steps,fun hne => ⟨(h₂.retained hne).2 hrelease,?_⟩,
      h₂.attempted.trans hattempted,fun hr => ⟨h₂.mount (h₁.verified rfl),fun hs => ?_⟩⟩
    · rw [(h₂.retained hne).1, hmapping] at hne
      exact h₂.owned (h₁.owned (h.owned (h.retained hne)))
    · exact h₂.verified hr (hopen.trans hs)

structure Cleaned (s : Activation E P M T) : Prop where
  attempted : s.cleanupAttempted = true
  single : SingleCleanup s.made
  retained : s.mapping ≠ none → .releaseMapping ∉ s.made ∧ Owned s.steps

theorem Ready.attempt (h : Ready s) : Ready { s with cleanupAttempted := true } :=
  ⟨h.mounted,h.retained,h.owned,h.unmounted,h.start⟩

theorem Ready.idle (h : Ready s) (hopen : s.mappingOpen = false) : s.mounted = false ∧ s.mapping = none :=
  ⟨Bool.eq_false_iff.mpr fun hmounted => absurd ((h.mounted hmounted).2.symm.trans hopen) (by decide),
    not_not.mp fun hne => absurd ((h.retained hne).symm.trans hopen) (by decide)⟩

theorem filter_isCleanup_of_start {made : List Step} (h : ∀ step ∈ made, step.isStart = true) :
    made.filter Step.isCleanup = [] := by
  refine List.filter_eq_nil_iff.mpr fun step hmem hcleanup => ?_
  simpa [Step.isStart, hcleanup] using h step hmem

theorem Ready.singleCleanup {s' : Activation E P M T} (h : Ready s)
    (hsteps : Extends (mountCleanupOrder ++ mappingCleanupOrder) s s') : SingleCleanup s'.made := by
  obtain ⟨extra,hmade,hsub⟩ := hsteps
  rw [SingleCleanup, hmade, List.filter_append, filter_isCleanup_of_start h.start, List.nil_append]
  exact (hsub.filter _).nodup (by decide)

theorem CleanedUp.cleaned {s' : Activation E P M T} {r : Except VaultMountManagerError Unit}
    (hs : Ready s) (h : CleanedUp { s with cleanupAttempted := true } r s') : Cleaned s' :=
  ⟨h.attempted,hs.attempt.singleCleanup h.steps,h.retained⟩

theorem wp_cleanup (hattempted : s.cleanupAttempted = false) (h : Ready s) :
    wp (cleanup ops header) Allowed (fun r s' => Cleaned s' ∧
      (r = .ok () → Verified s'.steps .mountExt4 [.verifyUnmounted] ∧
        (s.mappingOpen = true → Verified s'.steps .openLuks2 mappingAbsence))) s := by
  refine wp_bind_read (wp_bind_require (fun _ => wp_bind_update ?_) fun hne => absurd hattempted hne)
  refine wp_mapError.mpr ?_
  refine wp_post_mono (wp_cleanupInner h.attempt) fun r s' hs' =>
    ⟨hs'.cleaned h,fun hr => hs'.verified ?_⟩
  cases r with
  | ok => rfl
  | error => cases hr

theorem wp_cleanup_again {post : Except VaultMountManagerError Unit → Activation E P M T → Prop}
    (hattempted : s.cleanupAttempted = true) (h : post (.error .cleanupFailed) s) :
    wp (cleanup ops header) during post s := by
  refine wp_bind_read (wp_bind_require (fun hs => ?_) fun _ => h)
  exact absurd (hattempted.symm.trans hs) (by decide)

theorem wp_cleanupInner_idle {post : Except VaultMountManagerError Unit → Activation E P M T → Prop}
    (hmounted : s.mounted = false) (hopen : s.mappingOpen = false) (h : post (.ok ()) s) :
    wp (cleanupInner ops header) during post s := by
  refine wp_bind.mpr (wp_bind_read ?_)
  rw [hmounted]
  refine wp_pure.mpr (wp_bind_read ?_)
  rw [hopen]
  exact wp_pure.mpr h

structure Ended (s s' : Activation E P M T) : Prop where
  single : SingleCleanup s'.made
  verified : ∀ mutation checks, mutation ≠ .dropMapping → Verified s.steps mutation checks →
    Verified s'.steps mutation checks

theorem wp_dropFields (h : Cleaned s) :
    wp dropFields Allowed (fun r s' => r = .ok () ∧ Ended s s') s := by
  refine wp_bind_read ?_
  cases hmapping : s.mapping with
  | none => exact wp_pure.mpr ⟨rfl,h.single,fun _ _ _ => id⟩
  | some mapping =>
    obtain ⟨hrelease,howned⟩ := h.retained (by simp [hmapping])
    refine wp_release_bind ⟨fun _ => howned,fun heq => (by cases heq),fun heq => (by cases heq),
      fun heq => (by cases heq),fun _ => ⟨h.attempted,hrelease⟩⟩ (wp_update.mpr ⟨rfl,?_,?_⟩)
    · have hmade : SingleCleanup (s.made ++ [.dropMapping]) := by
        simpa [SingleCleanup, Step.isCleanup] using h.single
      simpa [Activation.made, Activation.answer] using hmade
    · exact fun mutation checks hne hs => hs.snoc hne.symm

theorem wp_dropActivation_cleaned (h : Cleaned s) :
    wp (dropActivation ops header) Allowed (fun r s' => r = .ok () ∧ Ended s s') s := by
  refine wp_bind.mpr (wp_bind_read ?_)
  rw [if_pos h.attempted]
  exact wp_pure.mpr (wp_dropFields h)

theorem wp_dropActivation_ready (hattempted : s.cleanupAttempted = false) (h : Ready s) :
    wp (dropActivation ops header) Allowed (fun r s' => r = .ok () ∧ SingleCleanup s'.made) s := by
  refine wp_bind.mpr (wp_bind_read ?_)
  rw [if_neg (by simp [hattempted])]
  refine wp_bind_update (wp_bind_attempt ?_)
  refine wp_post_mono (wp_cleanupInner h.attempt) fun r s' hs' => ?_
  have hdrop := wp_post_mono (wp_dropFields (hs'.cleaned h)) fun r s'' hs'' =>
    (⟨hs''.1,hs''.2.single⟩ : r = .ok () ∧ SingleCleanup s''.made)
  exact wp_pure.mpr hdrop

theorem wp_dropActivation_idle {post : Except VaultMountManagerError Unit → Activation E P M T → Prop}
    (hmounted : s.mounted = false) (hopen : s.mappingOpen = false) (hmapping : s.mapping = none)
    (h : ∀ s' : Activation E P M T, s'.steps = s.steps → post (.ok ()) s') :
    wp (dropActivation ops header) during post s := by
  have hfields : ∀ s' : Activation E P M T, s'.mapping = none → s'.steps = s.steps →
      wp dropFields during post s' := by
    intro s' hmapping' hsteps
    refine wp_bind_read ?_
    rw [hmapping']
    exact wp_pure.mpr (h s' hsteps)
  refine wp_bind.mpr (wp_bind_read ?_)
  split_ifs
  · exact wp_pure.mpr (hfields s hmapping rfl)
  · refine wp_bind_update (wp_bind_attempt (wp_cleanupInner_idle hmounted hopen ?_))
    exact wp_pure.mpr (hfields _ hmapping rfl)

def Living (s : Activation E P M T) : Prop := (s.cleanupAttempted = false ∧ Ready s) ∨ Cleaned s

theorem wp_cleanups (h : Living s) (n : Nat) :
    wp (cleanups ops header n) Allowed (fun r s' => r = .ok () ∧ Living s') s := by
  induction n generalizing s with
  | zero => exact wp_pure.mpr ⟨rfl,h⟩
  | succ n ih =>
    refine wp_bind_attempt ?_
    rcases h with ⟨hattempted,hready⟩ | hcleaned
    · exact wp_post_mono (wp_cleanup hattempted hready) fun _ _ hs' => ih (.inr hs'.1)
    · exact wp_cleanup_again hcleaned.attempted (ih (.inr hcleaned))

theorem wp_dropActivation (h : Living s) :
    wp (dropActivation ops header) Allowed (fun _ s' => SingleCleanup s'.made) s := by
  rcases h with ⟨hattempted,hready⟩ | hcleaned
  · exact wp_post_mono (wp_dropActivation_ready hattempted hready) fun _ _ hs' => hs'.2
  · exact wp_post_mono (wp_dropActivation_cleaned hcleaned) fun _ _ hs' => hs'.2.single

end

end KernAid.Vault
