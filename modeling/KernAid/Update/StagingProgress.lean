import KernAid.Update.EngineSteps

/-! A stage call whose calls do not fail and whose source delivers the artifact ends with its receipt. -/

set_option autoImplicit false

namespace KernAid.Update

open CrashLogic Program

section Reading

theorem readRetry_healthy {behaviour : List ReadStep} (h : .fails ∉ behaviour) (content : List UInt8)
    (wanted : Nat) : ∃ chunk rest, readRetry content behaviour wanted = .ok (chunk,rest) ∧
      .fails ∉ rest.behaviour ∧ (0 < wanted → content ≠ [] → chunk ≠ []) := by
  have htake : ∀ n, 0 < n → content ≠ [] → content.take n ≠ [] := by
    intro n hn hcontent htake
    obtain hzero | hnil := List.take_eq_nil_iff.mp htake
    · omega
    · exact hcontent hnil
  induction behaviour with
  | nil => exact ⟨_,_,rfl,h,htake wanted⟩
  | cons step behaviour ih =>
    have hrest : .fails ∉ behaviour := fun hmem => h (List.mem_cons_of_mem _ hmem)
    cases step with
    | interrupted => exact ih hrest
    | fails => exact absurd List.mem_cons_self h
    | upTo n => exact ⟨_,_,rfl,hrest,fun hw => htake _ (by omega)⟩

theorem rehashLoop_healthy {rounds remaining : Nat} {reader : Reader} {hashed : List UInt8}
    (hbehaviour : .fails ∉ reader.behaviour) (henough : remaining ≤ reader.content.length) :
    ∃ result, rehashLoop rounds remaining reader hashed = .ok result := by
  induction rounds generalizing remaining reader hashed with
  | zero => exact ⟨hashed,rfl⟩
  | succ rounds ih =>
    rw [rehashLoop]
    split_ifs with hzero
    · exact ⟨hashed,rfl⟩
    · have hbuffer : 0 < min remaining COPY_BUFFER_BYTES :=
        Nat.lt_min.mpr ⟨Nat.pos_of_ne_zero hzero,by decide⟩
      obtain ⟨chunk,rest,hread,hrest,hchunk⟩ :=
        readRetry_healthy hbehaviour reader.content (min remaining COPY_BUFFER_BYTES)
      have hnonempty : chunk ≠ [] := by
        refine hchunk hbuffer fun hnil => hzero ?_
        rw [hnil] at henough
        exact Nat.le_zero.mp henough
      obtain ⟨hcontent,hlength⟩ := readRetry_eq_ok hread
      have hleft : remaining - chunk.length ≤ rest.content.length := by
        rw [hcontent, List.length_append] at henough
        omega
      obtain ⟨result,hresult⟩ := @ih (remaining - chunk.length) rest (hashed ++ chunk) hrest hleft
      exact ⟨result,bind_ok_iff.mpr ⟨(chunk,rest),hread,require_bind_eq_ok.mpr ⟨hnonempty,hresult⟩⟩⟩

end Reading

section Calls

variable {m : Machine}

theorem yields_nextFault (h : m.faults = []) : Yields nextFault m .none m := by
  refine yields_read.bind (yields_update.bind ?_)
  have hfaults : { m with faults := m.faults.tail } = m := by
    rw [h]
    exact congrArg (fun faults => { m with faults := faults }) h.symm
  rw [hfaults, h]
  exact yields_pure

theorem yields_query (h : m.faults = []) : Yields query m () m :=
  (yields_nextFault h).bind (yields_require rfl)

theorem yields_call (h : m.faults = []) (a : Action) : Yields (call a) m () (a.perform m) :=
  (yields_nextFault h).bind yields_act

theorem yields_writeAll (h : m.faults = []) (slot : Slot) (position : Nat) (bytes : List UInt8) :
    Yields (writeAll slot position bytes) m () (Action.perform (.writeAt slot position bytes) m) :=
  (yields_nextFault h).bind yields_act

end Calls

def OnlyTargets (m m' : Machine) : Prop :=
  m' = { m with device := { m.device with
    targets := m'.device.targets
    intact := m'.device.intact } }

namespace OnlyTargets

variable {m m' m'' : Machine}

theorem refl (m : Machine) : OnlyTargets m m := rfl

theorem trans (h : OnlyTargets m m') (h' : OnlyTargets m' m'') : OnlyTargets m m'' := by
  rw [OnlyTargets] at h h'
  rw [h] at h'
  exact h'

theorem faults (h : OnlyTargets m m') : m'.faults = m.faults := by rw [h]

theorem destination (h : OnlyTargets m m') : m'.destination = m.destination := by rw [h]

theorem rewrite (m : Machine) (slot : Slot) (t : Target) :
    OnlyTargets m { m with device := m.device.rewrite slot t } := rfl

end OnlyTargets

def Target.Begins (t : Target) (bytes : List UInt8) : Prop :=
  ∃ rest, t.bytes = bytes ++ rest ∧ (t.regular = true → rest = [])

theorem Target.Begins.overwrite {t : Target} {bytes : List UInt8} (h : t.Begins bytes)
    (chunk : List UInt8) (synced : Bool) :
    Target.Begins { t with
      bytes := overwrite t.bytes bytes.length chunk
      synced := synced } (bytes ++ chunk) := by
  obtain ⟨rest,hbytes,hregular⟩ := h
  refine ⟨rest.drop chunk.length,?_,fun hr => by simp [hregular hr]⟩
  simp only [Update.overwrite, hbytes, List.take_left', List.drop_append, Nat.add_sub_cancel_left,
    List.drop_eq_nil_of_le (Nat.le_add_right _ _), List.nil_append]

variable {m : Machine} {slot : Slot}

theorem yields_copyLoop {rounds remaining : Nat} {source : Reader} {copied : List UInt8}
    (hfaults : m.faults = []) (hbehaviour : .fails ∉ source.behaviour)
    (hlength : source.content.length = remaining) (hrounds : remaining ≤ rounds)
    (hbegins : (m.device.targets slot).Begins copied) :
    ∃ rest m', Yields (copyLoop slot rounds remaining source copied) m
      (copied ++ source.content,rest) m' ∧
      rest.content = [] ∧ .fails ∉ rest.behaviour ∧ OnlyTargets m m' ∧
      (m'.device.targets slot).Begins (copied ++ source.content) := by
  induction rounds generalizing m remaining source copied with
  | zero =>
    have hnil : source.content = [] := List.eq_nil_of_length_eq_zero (by omega)
    rw [hnil, List.append_nil]
    exact ⟨source,m,yields_pure,hnil,hbehaviour,.refl m,hbegins⟩
  | succ rounds ih =>
    rw [copyLoop]
    split_ifs with hzero
    · have hnil : source.content = [] := List.eq_nil_of_length_eq_zero (by omega)
      rw [hnil, List.append_nil]
      exact ⟨source,m,yields_pure,hnil,hbehaviour,.refl m,hbegins⟩
    · have hbuffer : 0 < min remaining COPY_BUFFER_BYTES :=
        Nat.lt_min.mpr ⟨Nat.pos_of_ne_zero hzero,by decide⟩
      obtain ⟨chunk,next,hread,hnext,hchunk⟩ :=
        readRetry_healthy hbehaviour source.content (min remaining COPY_BUFFER_BYTES)
      have hnonempty : chunk ≠ [] := by
        refine hchunk hbuffer fun hnil => hzero ?_
        rw [← hlength, hnil, List.length_nil]
      obtain ⟨hcontent,_⟩ := readRetry_eq_ok hread
      have hsum := congrArg List.length hcontent
      rw [List.length_append] at hsum
      have hpos := List.length_pos_iff.mpr hnonempty
      have hwritten : ((Action.perform (.writeAt slot copied.length chunk) m).device.targets slot).Begins
          (copied ++ chunk) := by
        have htarget : (Action.perform (.writeAt slot copied.length chunk) m).device.targets slot = _ :=
          Function.update_self _ _ _
        rw [htarget]
        exact hbegins.overwrite chunk false
      obtain ⟨rest,m',hyields,hrest,hfails,honly,hdone⟩ :=
        @ih (Action.perform (.writeAt slot copied.length chunk) m) (remaining - chunk.length) next
          (copied ++ chunk) hfaults hnext (by omega) (by omega) hwritten
      rw [List.append_assoc, ← hcontent] at hyields hdone
      refine ⟨rest,m',(yields_lift hread).bind ((yields_require hnonempty).bind ?_),hrest,hfails,
        (OnlyTargets.rewrite m slot _).trans honly,hdone⟩
      exact (yields_writeAll hfaults _ _ _).bind hyields

theorem yields_prepare {target : PreopenedInactiveTarget} (hfaults : m.faults = []) :
    ∃ m', Yields target.prepare m () m' ∧ OnlyTargets m m' ∧
      (m'.device.targets target.targetSlot).Begins [] := by
  by_cases hregular : (m.device.targets target.targetSlot).regular = true
  · have htruncate : Yields (truncateRegular target.targetSlot) m ()
        (Action.perform (.truncate target.targetSlot) m) := by
      refine yields_read.bind ?_
      rw [if_pos hregular]
      exact yields_call hfaults _
    refine ⟨Action.perform (.truncate target.targetSlot) m,?_,.rewrite m _ _,[],?_,fun _ => rfl⟩
    · exact (yields_require target.bound).bind (htruncate.bind (yields_query hfaults))
    · have htarget : (Action.perform (.truncate target.targetSlot) m).device.targets
        target.targetSlot = _ :=
        Function.update_self _ _ _
      rw [htarget]
      rfl
  · have htruncate : Yields (truncateRegular target.targetSlot) m () m := by
      refine yields_read.bind ?_
      rw [if_neg hregular]
      exact yields_pure
    refine ⟨m,?_,.refl m,_,rfl,fun h => absurd h hregular⟩
    exact (yields_require target.bound).bind (htruncate.bind (yields_query hfaults))

theorem yields_checkLength {size : Nat} (hfaults : m.faults = [])
    (hlength : (m.device.targets slot).regular = true → (m.device.targets slot).bytes.length = size) :
    Yields (checkLength slot size) m () m := by
  refine yields_read.bind ?_
  split_ifs with hregular
  · exact (yields_query hfaults).bind (yields_require (hlength hregular))
  · exact yields_pure

section

variable [UpdateHash]

/-- The source delivers exactly the artifact of the update, without failing reads. -/
structure Reader.Delivers (source : Reader) (size : Nat) (digest : Digest) : Prop where
  length : source.content.length = size
  digest : UpdateHash.sha256 source.content = digest
  behaviour : .fails ∉ source.behaviour

structure Machine.Healthy (m : Machine) : Prop where
  faults : m.faults = []
  destination : .fails ∉ m.destination

omit [UpdateHash] in
theorem Machine.Healthy.onlyTargets {m' : Machine} (h : m.Healthy) (honly : OnlyTargets m m') :
    m'.Healthy :=
  ⟨honly.faults.trans h.faults,honly.destination ▸ h.destination⟩

omit [UpdateHash] in
theorem Machine.Healthy.perform (h : m.Healthy) (a : Action) : (a.perform m).Healthy :=
  ⟨h.faults,h.destination⟩

theorem yields_rehash {bytes : List UInt8} {digest : Digest} (h : m.Healthy)
    (hbegins : (m.device.targets slot).Begins bytes) (hdigest : UpdateHash.sha256 bytes = digest) :
    Yields (rehash slot bytes.length digest) m () m := by
  obtain ⟨rest,hbytes,_⟩ := hbegins
  have henough : bytes.length ≤ (m.device.targets slot).bytes.length := by
    rw [hbytes, List.length_append]
    omega
  obtain ⟨hashed,hloop⟩ := @rehashLoop_healthy bytes.length bytes.length
    ⟨(m.device.targets slot).bytes,m.destination⟩ [] h.destination henough
  obtain ⟨_,hhashed⟩ := rehashLoop_eq_ok (Nat.le_refl _) hloop
  rw [hbytes, List.nil_append, List.take_left] at hhashed
  refine (yields_query h.faults).bind (yields_read.bind ((yields_lift hloop).bind (yields_require ?_)))
  rw [hhashed]
  exact hdigest

theorem yields_stageExactStream {source : Reader} {target : PreopenedInactiveTarget}
    {checkpoint : StagingCheckpoint} (h : m.Healthy)
    (hsource : source.Delivers checkpoint.artifactSizeBytes checkpoint.artifactSha256) :
    ∃ m', Yields (stageExactStream source target checkpoint) m () m' ∧ OnlyTargets m m' := by
  obtain ⟨m₁,hprepare,honly₁,hempty⟩ := @yields_prepare m target h.faults
  have h₁ := h.onlyTargets honly₁
  obtain ⟨rest,m₂,hcopy,hend,hfails,honly₂,hcopied⟩ := yields_copyLoop h₁.faults hsource.behaviour
    hsource.length (Nat.le_refl _) hempty
  rw [List.nil_append] at hcopy hcopied
  have h₂ := h₁.onlyTargets honly₂
  obtain ⟨trailing,rest',hread,_,_⟩ := readRetry_healthy hfails rest.content 1
  have htrailing : trailing = [] := by
    have hcontent := (readRetry_eq_ok hread).1
    rw [hend] at hcontent
    exact (List.append_eq_nil_iff.mp hcontent.symm).1
  let m₃ := Action.perform (.sync target.targetSlot) m₂
  have h₃ : m₃.Healthy := h₂.perform _
  have hsynced : (m₃.device.targets target.targetSlot).Begins source.content := by
    have htarget : m₃.device.targets target.targetSlot = _ := Function.update_self _ _ _
    rw [htarget]
    exact hcopied
  have hregular : (m₃.device.targets target.targetSlot).regular = true →
      (m₃.device.targets target.targetSlot).bytes.length = checkpoint.artifactSizeBytes := by
    intro hregular
    obtain ⟨tail,hbytes,htail⟩ := hsynced
    rw [hbytes, htail hregular, List.append_nil, hsource.length]
  refine ⟨m₃,?_,(honly₁.trans honly₂).trans rfl⟩
  refine hprepare.bind (hcopy.bind ((yields_lift hread).bind ((yields_require htrailing).bind ?_)))
  refine (yields_require hsource.digest).bind ((yields_query h₂.faults).bind ?_)
  refine (yields_call h₂.faults _).bind ((yields_checkLength h₃.faults hregular).bind ?_)
  rw [← hsource.length]
  exact yields_rehash h₃ hsynced hsource.digest

/-- What a stage leaves besides the contents of the slots: its receipt and no intent. -/
def Staged (m m' : Machine) (receipt : StagingReceipt) : Prop :=
  OnlyTargets { m with device := { m.device with
    pending := none
    receipt := some receipt } } m'

variable {u : VerifiedUpdate} {context : UpdateContext} {target : PreopenedInactiveTarget}

theorem authorize_ok {updatesEntitled : Bool} (hentitled : updatesEntitled = true)
    (heligible : u.availability context = .eligible) : authorize u context updatesEntitled = .ok () :=
  require_bind_eq_ok.mpr ⟨hentitled,require_eq_ok.mpr heligible⟩

theorem yields_stage {source : Reader} (h : m.Healthy) (heligible : u.availability context = .eligible)
    (hsource : source.Delivers u.artifact.sizeBytes u.artifact.sha256)
    (hreceipt : m.device.receipt = none)
    (hpending : ∀ c, m.device.pending = some c → c = StagingCheckpoint.fromAdmitted u target) :
    ∃ m', Yields (stage u context true source target) m (u.receipt target) m' ∧
      Staged m m' (u.receipt target) := by
  obtain ⟨m₁,hintent,hm₁⟩ :
    ∃ m₁, Yields (recordIntent (StagingCheckpoint.fromAdmitted u target)) m () m₁ ∧
      m₁ = { m
        with device := { m.device with pending := some (StagingCheckpoint.fromAdmitted u target) } } := by
    cases hcase : m.device.pending with
    | none =>
      refine ⟨_,yields_read.bind ?_,rfl⟩
      rw [hcase]
      exact yields_call h.faults _
    | some c =>
      obtain rfl := hpending c hcase
      refine ⟨m,yields_read.bind ?_,?_⟩
      · rw [hcase]
        exact yields_require rfl
      · rw [← hcase]
  have h₁ : m₁.Healthy := by
    rw [hm₁]
    exact ⟨h.faults,h.destination⟩
  obtain ⟨m₂,hstream,honly⟩ := @yields_stageExactStream m₁ _ source target
    (StagingCheckpoint.fromAdmitted u target) h₁ hsource
  have h₂ := h₁.onlyTargets honly
  have hwhole : Yields (streamOrCleanUp source target (StagingCheckpoint.fromAdmitted u target)) m₁
      () m₂ :=
    hstream.attempt.bind yields_pure
  refine ⟨Action.perform .removePending (Action.perform (.writeReceipt (u.receipt target)) m₂),?_,?_⟩
  · refine (yields_lift (authorize_ok rfl heligible)).bind ?_
    refine (yields_lift (fromAdmitted_validate u target)).bind (yields_read.bind ?_)
    rw [hreceipt]
    refine hintent.bind (hwhole.bind ((yields_call h₂.faults _).bind ?_))
    exact (yields_call (h₂.perform _).faults _).bind yields_pure
  · rw [hm₁] at honly
    rw [Staged, OnlyTargets]
    rw [OnlyTargets] at honly
    rw [honly]
    rfl

theorem yields_stage_again {source : Reader} (heligible : u.availability context = .eligible)
    (hreceipt : m.device.receipt = some (u.receipt target)) :
    Yields (stage u context true source target) m (u.receipt target) m := by
  refine (yields_lift (authorize_ok rfl heligible)).bind ?_
  refine (yields_lift (fromAdmitted_validate u target)).bind (yields_read.bind ?_)
  rw [hreceipt]
  exact (yields_require (StagingReceipt.matchesCheckpoint_iff.mpr rfl)).bind yields_pure

end

end KernAid.Update
