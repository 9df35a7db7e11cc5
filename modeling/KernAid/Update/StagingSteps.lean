import KernAid.Update.Staging

/-! What each step of the stager can do, and what every call leaves, in every environment. -/

set_option autoImplicit false

namespace KernAid.Update

open CrashLogic Program Machine

section Calls

variable {ε α : Type} {during : Action → Device → Prop} {d : Device}

def Tracks (p : Op ε α) : Prop :=
  ∀ m, Follows device Action.effect (fun _ _ => True) p m

variable {a : Action} {post : Except StagingError Unit → Device → Prop}

theorem tracks_act (a : Action) : Tracks (Op.act a : Op ε Unit) := fun _ => follows_act trivial rfl

theorem Tracks.bind {β : Type} {p : Op ε α} {f : α → Op ε β} (hp : Tracks p) (hf : ∀ a, Tracks (f a)) :
    Tracks (p >>= f) := fun m => (hp m).bind fun a _ => hf a _

theorem Tracks.read_bind {f : Machine → Op ε α} (hf : ∀ m, Tracks (f m)) : Tracks (read >>= f) :=
  Tracks.bind (fun _ => follows_read) hf

theorem tracks_pure (a : α) : Tracks (pure a : Op ε α) := fun _ => follows_pure

theorem tracks_fail (e : ε) : Tracks (fail e : Op ε α) := fun _ => follows_fail

theorem tracks_lift (x : Except ε α) : Tracks (lift x : Op ε α) := fun _ => follows_lift

theorem tracks_require (p : Prop) [Decidable p] (e : ε) : Tracks (Program.require p e : Op ε Unit) :=
  tracks_lift _

theorem tracks_nextFault : Tracks nextFault :=
  Tracks.read_bind fun _ => Tracks.bind (fun _ => follows_update rfl) fun _ => tracks_pure _

theorem tracks_query : Tracks query := tracks_nextFault.bind fun _ => tracks_require _ _

theorem tracks_call (a : Action) : Tracks (call a) := by
  refine tracks_nextFault.bind fun fault => ?_
  cases fault with
  | none => exact tracks_act a
  | late => exact (tracks_act a).bind fun _ => tracks_fail _
  | fails => exact tracks_fail _
  | partway written => exact tracks_fail _

theorem tracks_writeAll (slot : Slot) (position : Nat) (bytes : List UInt8) :
    Tracks (writeAll slot position bytes) := by
  refine tracks_nextFault.bind fun fault => ?_
  cases fault with
  | none => exact tracks_act _
  | fails => exact tracks_fail _
  | partway written => exact (tracks_act _).bind fun _ => tracks_fail _
  | late => exact (tracks_act _).bind fun _ => tracks_fail _

theorem meets_op_act {post : Except ε Unit → Device → Prop} (hact : during a d)
    (h : post (.ok ()) (a.effect d)) : Meets device (Op.act a) during post d :=
  meets_act (fun m hm => hm ▸ Action.perform_device a m) hact h

theorem meets_fault_bind {f : Fault → Op StagingError α} {post : Except StagingError α → Device → Prop}
    (h : ∀ fault, Meets device (f fault) during post d) :
    Meets device (nextFault >>= f) during post d :=
  fun m hm => wp_bind.mpr ⟨fun _ hv => (by cases hv),
    h (m.faults.headD .none) { m with faults := m.faults.tail } hm⟩

theorem meets_query (hok : post (.ok ()) d) (herror : post (.error .io) d) :
    Meets device query during post d :=
  meets_fault_bind fun _ => meets_require (fun _ => hok) fun _ => herror

theorem meets_query_bind {f : Unit → Op StagingError α} {post : Except StagingError α → Device → Prop}
    (hok : Meets device (f ()) during post d) (herror : post (.error .io) d) :
    Meets device (query >>= f) during post d := by
  refine Meets.bind (meets_query ?_ ?_ : Meets _ _ _ (fun r u => u = d ∧ (r = .ok () ∨ r = .error .io)) d)
    ?_ ?_
  · exact ⟨rfl,.inl rfl⟩
  · exact ⟨rfl,.inr rfl⟩
  · rintro _ _ ⟨rfl,_⟩
    exact hok
  · rintro e _ ⟨rfl,h | h⟩
    · cases h
    · cases h
      exact herror

theorem meets_act_bind {f : Unit → Op ε α} {post : Except ε α → Device → Prop} (hact : during a d)
    (h : Meets device (f ()) during post (a.effect d)) :
    Meets device (Op.act a >>= f) during post d :=
  fun m hm => wp_bind.mpr (wp_act.mpr ⟨hm ▸ hact,h (a.perform m) (congrArg a.effect hm)⟩)

theorem meets_attempt_bind {β : Type} {p : Op ε α} {f : Except ε α → Op ε β}
    {mid : Except ε α → Device → Prop} {post : Except ε β → Device → Prop}
    (h : Meets device p during mid d)
    (hf : ∀ r u, mid r u → Meets device (f r) during post u) :
    Meets device (attempt p >>= f) during post d :=
  fun m hm => wp_bind.mpr (wp_attempt.mpr (wp_mono (h m hm) (fun _ _ h => h)
    fun r t hr => hf r t.device hr t rfl))

theorem meets_call (hact : during a d) (hok : post (.ok ()) (a.effect d))
    (hlate : post (.error .io) (a.effect d)) (hfails : post (.error .io) d) :
    Meets device (call a) during post d := by
  refine meets_fault_bind fun fault => ?_
  cases fault with
  | none => exact meets_op_act hact hok
  | late => exact meets_act_bind hact (meets_fail hlate)
  | fails => exact meets_fail hfails
  | partway written => exact meets_fail hfails

theorem meets_writeAll {slot : Slot} {position : Nat} {bytes : List UInt8}
    (hact : ∀ written, during (.writeAt slot position written) d)
    (hok : post (.ok ()) (Action.effect (.writeAt slot position bytes) d))
    (hwritten : ∀ written, post (.error .io) (Action.effect (.writeAt slot position written) d))
    (hfails : post (.error .io) d) :
    Meets device (writeAll slot position bytes) during post d := by
  refine meets_fault_bind fun fault => ?_
  cases fault with
  | none => exact meets_op_act (hact _) hok
  | fails => exact meets_fail hfails
  | partway n => exact meets_act_bind (hact _) (meets_fail (hwritten _))
  | late => exact meets_act_bind (hact _) (meets_fail (hwritten _))

theorem tracks_clearCompleted (r : StagingReceipt) : Tracks (clearCompleted r) := by
  refine Tracks.read_bind fun m => (tracks_lift _).bind fun _ => (tracks_require _ _).bind fun _ =>
    (tracks_require _ _).bind fun _ => Tracks.bind ?_ fun _ => tracks_act _
  refine Tracks.read_bind fun m => ?_
  cases m.device.pending with
  | some c => exact tracks_act _
  | none => exact tracks_pure _

theorem tracks_truncateRegular (slot : Slot) : Tracks (truncateRegular slot) := by
  refine Tracks.read_bind fun m => ?_
  split_ifs
  · exact tracks_call _
  · exact tracks_pure _

theorem tracks_copyLoop (slot : Slot) (rounds remaining : Nat) (source : Reader) (copied : List UInt8) :
    Tracks (copyLoop slot rounds remaining source copied) := by
  induction rounds generalizing remaining source copied with
  | zero => exact tracks_pure _
  | succ rounds ih =>
    rw [copyLoop]
    split_ifs
    · exact tracks_pure _
    · exact (tracks_lift _).bind fun _ => (tracks_require _ _).bind fun _ =>
        (tracks_writeAll _ _ _).bind fun _ => ih _ _ _

theorem tracks_checkLength (slot : Slot) (size : Nat) : Tracks (checkLength slot size) := by
  refine Tracks.read_bind fun m => ?_
  split_ifs
  · exact tracks_query.bind fun _ => tracks_require _ _
  · exact tracks_pure _

theorem tracks_cleanupFailedWrite (target : PreopenedInactiveTarget) :
    Tracks target.cleanupFailedWrite :=
  (tracks_truncateRegular _).bind fun _ => tracks_query.bind fun _ => tracks_query.bind fun _ =>
    tracks_call _

end Calls

/-! Reading back. -/

section Reading

theorem readRetry_eq_ok {content : List UInt8} {behaviour : List ReadStep} {wanted : Nat}
    {chunk : List UInt8} {rest : Reader} (h : readRetry content behaviour wanted = .ok (chunk,rest)) :
    content = chunk ++ rest.content ∧ chunk.length ≤ wanted := by
  induction behaviour with
  | nil =>
    cases h
    exact ⟨(List.take_append_drop wanted content).symm,List.length_take_le _ _⟩
  | cons step behaviour ih =>
    cases step with
    | interrupted => exact ih h
    | fails => cases h
    | upTo n =>
      cases h
      exact ⟨(List.take_append_drop _ content).symm,
        (List.length_take_le _ _).trans (Nat.min_le_left _ _)⟩

/-- A rehash that ends has hashed exactly the first `remaining` bytes. -/
theorem rehashLoop_eq_ok {rounds remaining : Nat} {reader : Reader} {hashed result : List UInt8}
    (hrounds : remaining ≤ rounds) (h : rehashLoop rounds remaining reader hashed = .ok result) :
    remaining ≤ reader.content.length ∧ result = hashed ++ reader.content.take remaining := by
  induction rounds generalizing remaining reader hashed with
  | zero =>
    obtain rfl : remaining = 0 := by omega
    cases h
    exact ⟨Nat.zero_le _,by simp⟩
  | succ rounds ih =>
    rw [rehashLoop] at h
    split_ifs at h with hzero
    · cases h
      exact ⟨by omega,by simp [hzero]⟩
    · obtain ⟨⟨chunk,rest⟩,hread,h⟩ := bind_ok_iff.mp h
      obtain ⟨hchunk,h⟩ := require_bind_eq_ok.mp h
      obtain ⟨hcontent,hlength⟩ := readRetry_eq_ok hread
      have hpos := List.length_pos_iff.mpr hchunk
      have hle : chunk.length ≤ remaining := hlength.trans (Nat.min_le_left _ _)
      obtain ⟨henough,rfl⟩ := ih (by omega) h
      rw [hcontent]
      refine ⟨by rw [List.length_append]; omega,?_⟩
      rw [List.append_assoc, List.take_append, List.take_of_length_le hle]

end Reading

/-! One stage call. -/

section Stage

variable {c : StagingCheckpoint} {d u : Device}

variable {α : Type} {source : Reader} {target : PreopenedInactiveTarget}

def Intended (c : StagingCheckpoint) (d : Device) : Prop := d.pending = some c ∧ d.receipt = none

/-- During the stream of `c` only the target has changed, and it is still of its kind. -/
structure Streaming (c : StagingCheckpoint) (d u : Device) : Prop where
  files : { u with
    targets := d.targets
    intact := d.intact } = d
  regular : (u.targets c.targetSlot).regular = (d.targets c.targetSlot).regular

theorem Streaming.refl : Streaming c d d := ⟨rfl,rfl⟩

theorem Streaming.intended (h : Streaming c d u) (hd : Intended c d) : Intended c u :=
  ⟨(congrArg Device.pending h.files).trans hd.1,(congrArg Device.receipt h.files).trans hd.2⟩

theorem Streaming.trans {v : Device} (h : Streaming c d u) (h' : Streaming c u v) : Streaming c d v :=
  ⟨(congrArg (fun x : Device => { x with
      targets := d.targets
      intact := d.intact }) h'.files).trans h.files,h'.regular.trans h.regular⟩

theorem streaming_rewrite {t : Target} (h : t.regular = (d.targets c.targetSlot).regular) :
    Streaming c d (d.rewrite c.targetSlot t) := by
  exact ⟨rfl,by simp [Device.rewrite, h]⟩

theorem streaming_sync : Streaming c d (Action.effect (.sync c.targetSlot) d) := by
  exact ⟨rfl,by simp [Action.effect]⟩

theorem meets_checkLength {during : Action → Device → Prop} {slot : Slot} {size : Nat} :
    Meets device (checkLength slot size) during
      (fun r u => u = d ∧ ((∃ x, r = .ok x) → (d.targets slot).regular = true →
        (d.targets slot).bytes.length = size)) d := by
  refine meets_read_bind fun m hm => ?_
  split_ifs with hregular
  · refine meets_query_bind ?_ ⟨rfl,fun ⟨_,h⟩ => by cases h⟩
    exact meets_require (fun hlength => ⟨rfl,fun _ _ => hm ▸ hlength⟩)
      fun _ => ⟨rfl,fun ⟨_,h⟩ => by cases h⟩
  · exact meets_pure ⟨rfl,fun _ h => absurd (hm ▸ h) hregular⟩

variable [UpdateHash]

structure Target.Holds (t : Target) (size : Nat) (digest : Digest) : Prop where
  synced : t.synced = true
  enough : size ≤ t.bytes.length
  digest : UpdateHash.sha256 (t.bytes.take size) = digest
  whole : t.regular = true → t.bytes.length = size

def StageAction (c : StagingCheckpoint) : Action → Device → Prop
  | .writePending c', d => c' = c ∧ d.pending = none ∧ d.receipt = none
  | .truncate slot, d => slot = c.targetSlot ∧ Intended c d
  | .writeAt slot _ _, d => slot = c.targetSlot ∧ Intended c d
  | .sync slot, d => slot = c.targetSlot ∧ Intended c d
  | .writeReceipt r, d => r = StagingReceipt.fromCheckpoint c ∧ Intended c d ∧
      (d.targets c.targetSlot).Holds c.artifactSizeBytes c.artifactSha256
  | .removePending, d => d.pending = some c ∧ d.receipt = some (StagingReceipt.fromCheckpoint c)
  | _, _ => False

def StreamStep (c : StagingCheckpoint) {α : Type} (p : Op StagingError α) : Prop :=
  ∀ d, Intended c d → Meets device p (StageAction c) (fun _ u => Streaming c d u) d

theorem streamStep_query : StreamStep c query := fun _ _ => meets_query Streaming.refl Streaming.refl

theorem StreamStep.bind {β : Type} {p : Op StagingError α} {f : α → Op StagingError β}
    (hp : StreamStep c p) (hf : ∀ a, StreamStep c (f a)) : StreamStep c (p >>= f) :=
  fun d hd => (hp d hd).bind
    (fun a _ hu => (hf a _ (hu.intended hd)).post_mono fun _ _ hv => hu.trans hv) fun _ _ hu => hu

theorem streamStep_truncateRegular : StreamStep c (truncateRegular c.targetSlot) := by
  intro d hd
  refine meets_read_bind fun m hm => ?_
  split_ifs with hregular
  · exact meets_call ⟨rfl,hd⟩ (streaming_rewrite rfl) (streaming_rewrite rfl) Streaming.refl
  · exact meets_pure Streaming.refl

theorem streamStep_lift (x : Except StagingError α) : StreamStep c (lift x) :=
  fun _ _ => meets_lift Streaming.refl

theorem streamStep_require (p : Prop) [Decidable p] (e : StagingError) :
    StreamStep c (Program.require p e) := streamStep_lift _

theorem streamStep_writeAll {position : Nat} {bytes : List UInt8} :
    StreamStep c (writeAll c.targetSlot position bytes) :=
  fun _ hd => meets_writeAll (fun _ => ⟨rfl,hd⟩) (streaming_rewrite rfl)
    (fun _ => streaming_rewrite rfl) Streaming.refl

theorem streamStep_copyLoop {rounds remaining : Nat} {copied : List UInt8} :
    StreamStep c (copyLoop c.targetSlot rounds remaining source copied) := by
  induction rounds generalizing remaining source copied with
  | zero => exact fun _ _ => meets_pure Streaming.refl
  | succ rounds ih =>
    rw [copyLoop]
    split_ifs
    · exact fun _ _ => meets_pure Streaming.refl
    · exact (streamStep_lift _).bind fun _ => (streamStep_require _ _).bind fun _ =>
        streamStep_writeAll.bind fun _ => ih

/-- What the stream leaves: a changed target, which holds the artifact if the stream succeeded. -/
def Streamed (c : StagingCheckpoint) (d : Device) {α : Type} (r : Except StagingError α) (u : Device) :
    Prop :=
  Streaming c d u ∧ ((∃ x, r = .ok x) →
    (u.targets c.targetSlot).Holds c.artifactSizeBytes c.artifactSha256)

theorem streamed_error {e : StagingError} (h : Streaming c d u) :
    Streamed c d (.error e : Except StagingError α) u :=
  ⟨h,fun ⟨_,h⟩ => by cases h⟩

theorem StreamStep.then {β : Type} {p : Op StagingError α} {f : α → Op StagingError β}
    (hp : StreamStep c p) (hd : Intended c d)
    (hf : ∀ a u, Intended c u → Meets device (f a) (StageAction c) (Streamed c u) u) :
    Meets device (p >>= f) (StageAction c) (Streamed c d) d :=
  (hp d hd).bind
    (fun a u hu => (hf a u (hu.intended hd)).post_mono fun _ _ hv => ⟨hu.trans hv.1,hv.2⟩)
    fun _ _ hu => streamed_error hu

theorem streamStep_prepare (h : target.targetSlot = c.targetSlot) :
    StreamStep c target.prepare := by
  rw [PreopenedInactiveTarget.prepare, h]
  exact (streamStep_require _ _).bind fun _ => streamStep_truncateRegular.bind fun _ =>
    streamStep_query

theorem meets_rehash {during : Action → Device → Prop} {slot : Slot} {size : Nat} {digest : Digest}
    (hsynced : (d.targets slot).synced = true)
    (hwhole : (d.targets slot).regular = true → (d.targets slot).bytes.length = size) :
    Meets device (rehash slot size digest) during
      (fun r u => u = d ∧ ((∃ x, r = .ok x) → (d.targets slot).Holds size digest)) d := by
  refine meets_query_bind (meets_read_bind fun m hm => ?_) ⟨rfl,fun ⟨_,h⟩ => by cases h⟩
  refine meets_lift_bind (fun hashed hread => ?_) fun e _ => ⟨rfl,fun ⟨_,h⟩ => by cases h⟩
  obtain ⟨henough,rfl⟩ := rehashLoop_eq_ok (Nat.le_refl size) hread
  subst hm
  exact meets_require
    (fun hdigest => ⟨rfl,fun _ => ⟨hsynced,henough,by simpa using hdigest,hwhole⟩⟩)
    fun _ => ⟨rfl,fun ⟨_,h⟩ => by cases h⟩

theorem meets_flushed (hd : Intended c d) : Meets device
    (do
      call (.sync c.targetSlot)
      checkLength c.targetSlot c.artifactSizeBytes
      rehash c.targetSlot c.artifactSizeBytes c.artifactSha256) (StageAction c) (Streamed c d) d := by
  have hsync : ((Action.effect (.sync c.targetSlot) d).targets c.targetSlot).synced = true := by
    simp [Action.effect]
  refine Meets.bind (meets_call ⟨rfl,hd⟩ ?_ ?_ ?_ : Meets _ _ _ (fun r u => Streaming c d u ∧
      ((∃ x, r = .ok x) → u = Action.effect (.sync c.targetSlot) d)) d) ?_ ?_
  · exact ⟨streaming_sync,fun _ => rfl⟩
  · exact ⟨streaming_sync,fun ⟨_,h⟩ => by cases h⟩
  · exact ⟨Streaming.refl,fun ⟨_,h⟩ => by cases h⟩
  · rintro _ u ⟨hu,heq⟩
    obtain rfl := heq ⟨_,rfl⟩
    refine meets_checkLength.bind ?_ ?_
    · rintro _ _ ⟨rfl,hlength⟩
      exact (meets_rehash hsync (hlength ⟨_,rfl⟩)).post_mono
        fun r v ⟨hv,h⟩ => ⟨hv ▸ hu,fun hx => hv ▸ h hx⟩
    · rintro _ _ ⟨rfl,_⟩
      exact streamed_error hu
  · rintro _ u ⟨hu,_⟩
    exact streamed_error hu

theorem meets_stageExactStream (htarget : target.targetSlot = c.targetSlot) (hd : Intended c d) :
    Meets device (stageExactStream source target c) (StageAction c) (Streamed c d) d := by
  unfold stageExactStream
  refine (streamStep_prepare htarget).then hd fun _ u hu => ?_
  rw [htarget]
  refine streamStep_copyLoop.then hu fun _ u hu => ?_
  refine (streamStep_lift _).then hu fun _ u hu => ?_
  refine (streamStep_require _ _).then hu fun _ u hu => ?_
  refine (streamStep_require _ _).then hu fun _ u hu => ?_
  exact streamStep_query.then hu fun _ u hu => meets_flushed hu

def Emptied (c : StagingCheckpoint) (u : Device) : Prop :=
  (u.targets c.targetSlot).regular = true → (u.targets c.targetSlot).bytes = []

theorem meets_truncateRegular (hd : Intended c d) :
    Meets device (truncateRegular c.targetSlot) (StageAction c)
      (fun r u => Streaming c d u ∧ ((∃ x, r = .ok x) → Emptied c u)) d := by
  refine meets_read_bind fun m hm => ?_
  split_ifs with hregular
  · refine meets_call ⟨rfl,hd⟩ ⟨streaming_rewrite rfl,fun _ _ => ?_⟩
      ⟨streaming_rewrite rfl,fun ⟨_,h⟩ => by cases h⟩ ⟨Streaming.refl,fun ⟨_,h⟩ => by cases h⟩
    simp [Action.effect, Device.rewrite]
  · exact meets_pure ⟨Streaming.refl,fun _ h => absurd (hm ▸ h) hregular⟩

theorem meets_cleanupFailedWrite (htarget : target.targetSlot = c.targetSlot) (hd : Intended c d) :
    Meets device target.cleanupFailedWrite (StageAction c)
      (fun r u => Streaming c d u ∧ ((∃ x, r = .ok x) → Emptied c u)) d := by
  rw [PreopenedInactiveTarget.cleanupFailedWrite, htarget]
  refine (meets_truncateRegular hd).bind (fun _ u ⟨hu,hempty⟩ => ?_) fun _ _ ⟨hu,_⟩ =>
    ⟨hu,fun ⟨_,h⟩ => by cases h⟩
  have herror : Streaming c d u ∧ ((∃ x, (Except.error .io : Except StagingError Unit) = .ok x) →
      Emptied c u) := ⟨hu,fun ⟨_,h⟩ => by cases h⟩
  have hempty := hempty ⟨_,rfl⟩
  refine meets_query_bind (meets_query_bind ?_ herror) herror
  refine meets_call ⟨rfl,hu.intended hd⟩ ⟨hu.trans streaming_sync,fun _ => ?_⟩
    ⟨hu.trans streaming_sync,fun ⟨_,h⟩ => by cases h⟩ herror
  simpa [Emptied, Action.effect] using hempty

/-- The device with the intent of `c`. -/
def Device.withIntent (d : Device) (c : StagingCheckpoint) : Device := { d with pending := some c }

/-- The device after the stream of `c` that started on `d`; no receipt was there before. -/
structure Begun (c : StagingCheckpoint) (d u : Device) : Prop where
  receipt : d.receipt = none
  pending : d.pending = none ∨ d.pending = some c
  streaming : Streaming c (d.withIntent c) u

/-- The ways in which a stage call ends. -/
inductive StageEnd (c : StagingCheckpoint) (d : Device) :
    Except StagingError StagingReceipt → Device → Prop where
  | refused (e : StagingError) : StageEnd c d (.error e) d
  | intentFailed : d.pending = none → d.receipt = none → StageEnd c d (.error .io) (d.withIntent c)
  | replayed (r : StagingReceipt) : d.receipt = some r → r.matchesCheckpoint c = true →
      StageEnd c d (.ok r) d
  | streamFailed (e : StagingError) (u : Device) : Begun c d u → Emptied c u →
      StageEnd c d (.error e) u
  | cleanupFailed (u : Device) : Begun c d u → StageEnd c d (.error .cleanupFailed) u
  | receiptFailed (u : Device) : Begun c d u →
      (u.targets c.targetSlot).Holds c.artifactSizeBytes c.artifactSha256 →
      StageEnd c d (.error .io) u
  | completed (u : Device) (pending : Option StagingCheckpoint)
      (r : Except StagingError StagingReceipt) : Begun c d u →
      (u.targets c.targetSlot).Holds c.artifactSizeBytes c.artifactSha256 →
      (r = .error .io ∧ (pending = some c ∨ pending = none) ∨
        r = .ok (StagingReceipt.fromCheckpoint c) ∧ pending = none) →
      StageEnd c d r { u with
        receipt := some (StagingReceipt.fromCheckpoint c)
        pending := pending }

theorem meets_recordIntent (hreceipt : d.receipt = none) :
    Meets device (recordIntent c) (StageAction c)
      (fun r u => match r with
        | .ok _ => (d.pending = none ∨ d.pending = some c) ∧ u = d.withIntent c
        | .error e => u = d ∨ (e = .io ∧ d.pending = none ∧ u = d.withIntent c)) d := by
  refine meets_read_bind fun m hm => ?_
  subst hm
  cases hpending : m.device.pending with
  | none => exact meets_call ⟨rfl,hpending,hreceipt⟩ ⟨.inl rfl,rfl⟩ (.inr ⟨rfl,rfl,rfl⟩) (.inl rfl)
  | some checkpoint =>
    refine meets_require (fun h => ?_) fun _ => .inl rfl
    subst h
    refine ⟨.inr rfl,?_⟩
    rw [Device.withIntent, ← hpending]

theorem meets_streamOrCleanUp (htarget : target.targetSlot = c.targetSlot) (hd : Intended c d) :
    Meets device (streamOrCleanUp source target c) (StageAction c)
      (fun r u => Streaming c d u ∧ match r with
        | .ok _ => (u.targets c.targetSlot).Holds c.artifactSizeBytes c.artifactSha256
        | .error e => Emptied c u ∨ e = .cleanupFailed) d := by
  refine meets_attempt_bind (meets_stageExactStream htarget hd) fun staged u hu => ?_
  cases staged with
  | ok x => exact meets_pure ⟨hu.1,hu.2 ⟨x,rfl⟩⟩
  | error e =>
    refine meets_attempt_bind (meets_cleanupFailedWrite htarget (hu.1.intended hd))
      fun cleaned v hv => ?_
    cases cleaned with
    | ok x => exact meets_fail ⟨hu.1.trans hv.1,.inl (hv.2 ⟨x,rfl⟩)⟩
    | error e => exact meets_fail ⟨hu.1.trans hv.1,.inr rfl⟩

theorem meets_complete (hd : Intended c u) (hbegun : Begun c d u)
    (hholds : (u.targets c.targetSlot).Holds c.artifactSizeBytes c.artifactSha256) :
    Meets device
      (do
        call (.writeReceipt (StagingReceipt.fromCheckpoint c))
        call .removePending
        pure (StagingReceipt.fromCheckpoint c)) (StageAction c) (StageEnd c d) u := by
  have hpending : u.pending = some c := hd.1
  have hwritten : Action.effect (.writeReceipt (StagingReceipt.fromCheckpoint c)) u = { u with
      receipt := some (StagingReceipt.fromCheckpoint c)
      pending := some c } := by
    rw [← hpending]
    rfl
  have hlate := StageEnd.completed u (some c) (.error .io) hbegun hholds (.inl ⟨rfl,.inl rfl⟩)
  refine Meets.bind (meets_call ⟨rfl,hd,hholds⟩ ?_ ?_ ?_ : Meets _ _ _ (fun r v =>
      (r = .ok () ∧ v = Action.effect (.writeReceipt (StagingReceipt.fromCheckpoint c)) u) ∨
        (r = .error .io ∧ StageEnd c d (.error .io) v)) u) ?_ ?_
  · exact .inl ⟨rfl,rfl⟩
  · exact .inr ⟨rfl,hwritten ▸ hlate⟩
  · exact .inr ⟨rfl,.receiptFailed u hbegun hholds⟩
  · rintro _ v (⟨_,rfl⟩ | ⟨h,_⟩)
    · refine Meets.bind (meets_call ⟨hpending,rfl⟩ ?_ ?_ ?_ : Meets _ _ _ (fun r w =>
          (r = .ok () ∧ w = { u with
            receipt := some (StagingReceipt.fromCheckpoint c)
            pending := none }) ∨ (r = .error .io ∧ StageEnd c d (.error .io) w)) _) ?_ ?_
      · exact .inl ⟨rfl,rfl⟩
      · exact .inr ⟨rfl,.completed u none (.error .io) hbegun hholds (.inl ⟨rfl,.inr rfl⟩)⟩
      · exact .inr ⟨rfl,hwritten ▸ hlate⟩
      · rintro _ w (⟨_,rfl⟩ | ⟨h,_⟩)
        · exact meets_pure (.completed u none _ hbegun hholds (.inr ⟨rfl,rfl⟩))
        · cases h
      · rintro e w (⟨h,_⟩ | ⟨h,hend⟩)
        · cases h
        · cases h
          exact hend
    · cases h
  · rintro e v (⟨h,_⟩ | ⟨h,hend⟩)
    · cases h
    · cases h
      exact hend

theorem meets_stage {v : VerifiedUpdate} {context : UpdateContext} {updatesEntitled : Bool} :
    Meets device (stage v context updatesEntitled source target)
      (StageAction (StagingCheckpoint.fromAdmitted v target))
      (StageEnd (StagingCheckpoint.fromAdmitted v target) d) d := by
  refine meets_lift_bind (fun _ _ => ?_) fun e _ => .refused e
  refine meets_lift_bind (fun _ _ => ?_) fun e _ => .refused e
  refine meets_read_bind fun m hm => ?_
  subst hm
  cases hreceipt : m.device.receipt with
  | some receipt =>
    refine meets_require_bind (fun hmatches => ?_) fun _ => .refused _
    exact meets_pure (.replayed receipt hreceipt hmatches)
  | none =>
    refine (meets_recordIntent hreceipt).bind ?_ ?_
    · rintro _ u ⟨hpending,rfl⟩
      have hintended : Intended (StagingCheckpoint.fromAdmitted v target)
          (m.device.withIntent (StagingCheckpoint.fromAdmitted v target)) := ⟨rfl,hreceipt⟩
      refine (meets_streamOrCleanUp rfl hintended).bind ?_ ?_
      · rintro _ u ⟨hu,hholds⟩
        exact meets_complete (hu.intended hintended) ⟨hreceipt,hpending,hu⟩ hholds
      · rintro e u ⟨hu,hempty | rfl⟩
        · exact .streamFailed e u ⟨hreceipt,hpending,hu⟩ hempty
        · exact .cleanupFailed u ⟨hreceipt,hpending,hu⟩
    · rintro e u (rfl | ⟨rfl,hpending,rfl⟩)
      · exact .refused e
      · exact .intentFailed hpending hreceipt

theorem tracks_stageExactStream (source : Reader) (target : PreopenedInactiveTarget)
    (c : StagingCheckpoint) : Tracks (stageExactStream source target c) :=
  ((tracks_require _ _).bind fun _ => (tracks_truncateRegular _).bind fun _ => tracks_query).bind
    fun _ => (tracks_copyLoop _ _ _ _ _).bind fun _ => (tracks_lift _).bind fun _ =>
    (tracks_require _ _).bind fun _ => (tracks_require _ _).bind fun _ => tracks_query.bind fun _ =>
    (tracks_call _).bind fun _ => (tracks_checkLength _ _).bind fun _ => tracks_query.bind fun _ =>
    Tracks.read_bind fun _ => (tracks_lift _).bind fun _ => tracks_require _ _

theorem tracks_streamOrCleanUp (source : Reader) (target : PreopenedInactiveTarget)
    (c : StagingCheckpoint) : Tracks (streamOrCleanUp source target c) := by
  refine Tracks.bind (fun m => (tracks_stageExactStream source target c m).attempt) fun staged => ?_
  cases staged with
  | ok x => exact tracks_pure _
  | error e =>
    refine Tracks.bind (fun m => (tracks_cleanupFailedWrite target m).attempt) fun cleaned => ?_
    cases cleaned with
    | ok x => exact tracks_fail _
    | error e => exact tracks_fail _

theorem tracks_stage (v : VerifiedUpdate) (context : UpdateContext) (updatesEntitled : Bool)
    (source : Reader) (target : PreopenedInactiveTarget) :
    Tracks (stage v context updatesEntitled source target) := by
  refine (tracks_lift _).bind fun _ => (tracks_lift _).bind fun _ => Tracks.read_bind fun m => ?_
  cases m.device.receipt with
  | some receipt => exact (tracks_require _ _).bind fun _ => tracks_pure _
  | none =>
    refine Tracks.bind (Tracks.read_bind fun m => ?_) fun _ => (tracks_streamOrCleanUp _ _ _).bind
      fun _ => (tracks_call _).bind fun _ => (tracks_call _).bind fun _ => tracks_pure _
    cases m.device.pending with
    | some c => exact tracks_require _ _
    | none => exact tracks_call _

end Stage

/-! Releasing a receipt. -/

section Release

variable {d : Device}

def ClearAction (r : StagingReceipt) : Action → Device → Prop
  | .removePending, d => d.receipt = some r ∧ ∃ c, d.pending = some c ∧ r.matchesCheckpoint c = true
  | .removeReceipt, d => d.receipt = some r ∧ d.pending = none
  | _, _ => False

def Device.released (d : Device) : Device := { d with
  pending := none
  receipt := none }

theorem meets_removePendingIfAny {r : StagingReceipt} (hreceipt : d.receipt = some r)
    (hmatches : ∀ c ∈ d.pending, r.matchesCheckpoint c = true) :
    Meets device removePendingIfAny (ClearAction r)
      (fun x u => x = .ok () ∧ u = { d with pending := none }) d := by
  refine meets_read_bind fun m hm => ?_
  subst hm
  cases hpending : m.device.pending with
  | some c => exact meets_op_act ⟨hreceipt,c,hpending,hmatches c hpending⟩ ⟨rfl,rfl⟩
  | none =>
    refine meets_pure ⟨rfl,?_⟩
    rw [← hpending]

theorem meets_clearCompleted {r : StagingReceipt} :
    Meets device (clearCompleted r) (ClearAction r)
      (fun x u => (x = .ok () ∧ u = d.released) ∨ (u = d ∧ ∃ e, x = .error e ∧
        (d.receipt = some r → ¬ ∀ c ∈ d.pending, r.matchesCheckpoint c = true))) d := by
  refine meets_read_bind fun m hm => ?_
  subst hm
  refine meets_lift_bind (fun retained hretained => ?_)
    fun e he => .inr ⟨rfl,e,rfl,fun h => by simp [okOr, h] at he⟩
  have hreceipt := okOr_eq_ok.mp hretained
  refine meets_require_bind (fun hr => ?_)
    fun hr => .inr ⟨rfl,_,rfl,fun h => absurd (Option.some.inj (hreceipt.symm.trans h)) hr⟩
  refine meets_require_bind (fun hmatches => ?_) fun hmatches => .inr ⟨rfl,_,rfl,fun _ => hmatches⟩
  subst hr
  refine (meets_removePendingIfAny hreceipt hmatches).bind ?_ ?_
  · rintro _ u ⟨_,rfl⟩
    exact meets_op_act ⟨hreceipt,rfl⟩ (.inl ⟨rfl,rfl⟩)
  · rintro e u ⟨h,_⟩
    cases h

end Release

end KernAid.Update
