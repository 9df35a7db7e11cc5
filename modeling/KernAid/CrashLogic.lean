import Mathlib

/-! Checked computations and crash-prone programs. The outcome of a program keeps every atomic action with
the state it was taken in; a crash leaves one of these states. -/

set_option autoImplicit false

namespace KernAid.CrashLogic

section Checked

variable {ε α β : Type}

/-- Fails with `e` unless `p` holds. -/
def require (p : Prop) [Decidable p] (e : ε) : Except ε Unit := if p then .ok () else .error e

def okOr (o : Option α) (e : ε) : Except ε α :=
  match o with
  | some a => .ok a
  | none => .error e

variable {b : β} {f : α → Except ε β} {p : Prop} {e : ε} {o : Option α}

@[simp] theorem okOr_some (a : α) (e : ε) : okOr (some a) e = .ok a := rfl

@[simp] theorem ok_bind (a : α) (f : α → Except ε β) : ((.ok a : Except ε α) >>= f) = f a := rfl

@[simp] theorem pure_eq_ok_iff {a b : α} : (pure a : Except ε α) = .ok b ↔ a = b := by
  simp [pure, Except.pure]

theorem bind_ok_iff {x : Except ε α} :
    (x >>= f) = .ok b ↔ ∃ a, x = .ok a ∧ f a = .ok b := by
  cases x with
  | ok a => simp [bind, Except.bind]
  | error e => simp [bind, Except.bind]

@[simp] theorem require_eq_ok [Decidable p] {u : Unit} :
    require p e = .ok u ↔ p := by
  by_cases h : p <;> simp [require, h]

@[simp] theorem require_bind_eq_ok [Decidable p] {f : Unit → Except ε β} :
    (require p e >>= f) = .ok b ↔ p ∧ f () = .ok b := by
  rw [bind_ok_iff]
  exact ⟨fun ⟨_,hp,hf⟩ => ⟨require_eq_ok.mp hp,hf⟩,fun ⟨hp,hf⟩ => ⟨(),require_eq_ok.mpr hp,hf⟩⟩

@[simp] theorem okOr_eq_ok {a : α} : okOr o e = .ok a ↔ o = some a := by
  cases o <;> simp [okOr]

@[simp] theorem okOr_bind_eq_ok :
    (okOr o e >>= f) = .ok b ↔ ∃ a, o = some a ∧ f a = .ok b := by
  simp [bind_ok_iff]

theorem bind_eq_error {x : Except ε α} :
    (x >>= f) = .error e ↔ x = .error e ∨ ∃ a, x = .ok a ∧ f a = .error e := by
  cases x with
  | ok a => simp [bind, Except.bind]
  | error e => simp [bind, Except.bind]

theorem require_eq_error [Decidable p] {e' : ε} :
    require p e = .error e' ↔ ¬ p ∧ e = e' := by
  by_cases h : p <;> simp [require, h]

theorem okOr_eq_error {e' : ε} : okOr o e = .error e' ↔ o = none ∧ e = e' := by
  cases o <;> simp [okOr]

theorem forM_eq_ok {l : List α} {f : α → Except ε Unit} {u : Unit} :
    l.forM f = .ok u ↔ ∀ a ∈ l, f a = .ok () := by
  induction l with
  | nil => simp [pure, Except.pure]
  | cons a l ih =>
    rw [List.forall_mem_cons, ← ih]
    exact bind_ok_iff.trans ⟨fun ⟨_,h⟩ => h,fun h => ⟨(),h⟩⟩

end Checked

/-- What a run leaves: the actions it took, each with the state before it, the result and the
last state. -/
structure Outcome (A σ ε α : Type) where
  visits : List (A × σ)
  result : Except ε α
  final : σ

/-- A program over states `σ` with atomic actions `A` and errors `ε`. -/
def Program (A σ ε α : Type) : Type := σ → Outcome A σ ε α

namespace Program

variable {A σ ε α β : Type}

protected def pure (a : α) : Program A σ ε α := fun s => ⟨[],.ok a,s⟩

protected def bind (m : Program A σ ε α) (f : α → Program A σ ε β) : Program A σ ε β := fun s =>
  let o := m s
  match o.result with
  | .ok a =>
    let o' := f a o.final
    ⟨o.visits ++ o'.visits,o'.result,o'.final⟩
  | .error e => ⟨o.visits,.error e,o.final⟩

instance : Monad (Program A σ ε) where
  pure := Program.pure
  bind := Program.bind

def fail (e : ε) : Program A σ ε α := fun s => ⟨[],.error e,s⟩

def read : Program A σ ε σ := fun s => ⟨[],.ok s,s⟩

/-- Changes the part of the state that no crash preserves; this is not an action. -/
def update (f : σ → σ) : Program A σ ε Unit := fun s => ⟨[],.ok (),f s⟩

/-- Takes one action, with the effect `perform`. -/
def act (perform : A → σ → σ) (a : A) : Program A σ ε Unit := fun s => ⟨[(a,s)],.ok (),perform a s⟩

def lift (x : Except ε α) : Program A σ ε α := fun s => ⟨[],x,s⟩

def require (p : Prop) [Decidable p] (e : ε) : Program A σ ε Unit := lift (CrashLogic.require p e)

/-- Runs `m` and hands its result, an error included, to the caller. -/
def attempt (m : Program A σ ε α) : Program A σ ε (Except ε α) := fun s =>
  let o := m s
  ⟨o.visits,.ok o.result,o.final⟩

def mapError {ε' : Type} (f : ε → ε') (m : Program A σ ε α) : Program A σ ε' α := fun s =>
  let o := m s
  ⟨o.visits,o.result.mapError f,o.final⟩

variable {m : Program A σ ε α} {f : α → Program A σ ε β} {s : σ}

theorem bind_run_ok {a : α} (h : (m s).result = .ok a) : (m >>= f) s =
      ⟨(m s).visits ++ (f a (m s).final).visits,(f a (m s).final).result,(f a (m s).final).final⟩ := by
  simp only [bind, Program.bind, h]

theorem bind_run_error {e : ε} (h : (m s).result = .error e) :
    (m >>= f) s = ⟨(m s).visits,.error e,(m s).final⟩ := by
  simp only [bind, Program.bind, h]

theorem bind_result_ok {b : β} :
    ((m >>= f) s).result = .ok b ↔
      ∃ a, (m s).result = .ok a ∧ (f a (m s).final).result = .ok b := by
  cases h : (m s).result with
  | ok a => simp [bind_run_ok h]
  | error e => simp [bind_run_error h]

theorem map_result_ok {f : α → β} {b : β} :
    ((f <$> m) s).result = .ok b ↔ ∃ a, (m s).result = .ok a ∧ f a = b := by
  refine (bind_result_ok (m := m) (f := fun a => pure (f a))).trans ?_
  simp [pure, Program.pure]

/-- Every action of the run from `s` meets `during` in the state it is taken in, and the run ends
with a result and a state that meet `post`. -/
def wp (m : Program A σ ε α) (during : A → σ → Prop) (post : Except ε α → σ → Prop) (s : σ) : Prop :=
  (∀ v ∈ (m s).visits, during v.1 v.2) ∧ post (m s).result (m s).final

section Rules

variable {during during' : A → σ → Prop} {post post' : Except ε α → σ → Prop} {s : σ}

theorem wp_pure {a : α} : wp (pure a : Program A σ ε α) during post s ↔ post (.ok a) s := by
  simp [wp, pure, Program.pure]

theorem wp_fail {e : ε} : wp (fail e : Program A σ ε α) during post s ↔ post (.error e) s := by
  simp [wp, fail]

theorem wp_lift {x : Except ε α} : wp (lift x : Program A σ ε α) during post s ↔ post x s := by
  simp [wp, lift]

theorem wp_read {post : Except ε σ → σ → Prop} :
    wp (read : Program A σ ε σ) during post s ↔ post (.ok s) s := by
  simp [wp, read]

theorem wp_update {f : σ → σ} {post : Except ε Unit → σ → Prop} :
    wp (update f : Program A σ ε Unit) during post s ↔ post (.ok ()) (f s) := by
  simp [wp, update]

theorem wp_act {perform : A → σ → σ} {a : A} {post : Except ε Unit → σ → Prop} :
    wp (act perform a : Program A σ ε Unit) during post s ↔
      during a s ∧ post (.ok ()) (perform a s) := by
  simp [wp, act]

theorem wp_require {p : Prop} [Decidable p] {e : ε} {post : Except ε Unit → σ → Prop} :
    wp (require p e : Program A σ ε Unit) during post s ↔
      (p → post (.ok ()) s) ∧ (¬ p → post (.error e) s) := by
  by_cases h : p <;> simp [require, wp_lift, CrashLogic.require, h]

theorem wp_attempt {post : Except ε (Except ε α) → σ → Prop} :
    wp (attempt m) during post s ↔ wp m during (fun r t => post (.ok r) t) s := by
  simp [wp, attempt]

theorem wp_mapError {ε' : Type} {f : ε → ε'} {post : Except ε' α → σ → Prop} :
    wp (mapError f m) during post s ↔ wp m during (fun r t => post (r.mapError f) t) s := Iff.rfl

/-- The postcondition of the first half of a sequence: an error ends the run, a value is handed on. -/
def andThen (f : α → Program A σ ε β) (during : A → σ → Prop) (post : Except ε β → σ → Prop) :
    Except ε α → σ → Prop
  | .ok a, t => wp (f a) during post t
  | .error e, t => post (.error e) t

@[simp] theorem andThen_ok {post : Except ε β → σ → Prop} {a : α} {t : σ} :
    andThen f during post (.ok a) t = wp (f a) during post t := rfl

@[simp] theorem andThen_error {post : Except ε β → σ → Prop} {e : ε} {t : σ} :
    andThen f during post (.error e) t = post (.error e) t := rfl

theorem wp_bind {post : Except ε β → σ → Prop} :
    wp (m >>= f) during post s ↔ wp m during (andThen f during post) s := by
  simp only [wp, bind, Program.bind]
  cases h : (m s).result with
  | ok a => simp only [List.forall_mem_append, and_assoc, andThen_ok, wp]
  | error e => simp

theorem wp_mono (h : wp m during post s) (hduring : ∀ a t, during a t → during' a t)
    (hpost : ∀ r t, post r t → post' r t) :
    wp m during' post' s :=
  ⟨fun v hv => hduring v.1 v.2 (h.1 v hv),hpost _ _ h.2⟩

theorem wp_post_mono (h : wp m during post s) (hpost : ∀ r t, post r t → post' r t) :
    wp m during post' s :=
  wp_mono h (fun _ _ => id) hpost

theorem wp_bind_of {post' : Except ε β → σ → Prop} (h : wp m during post s)
    (hok : ∀ a t, post (.ok a) t → wp (f a) during post' t)
    (herror : ∀ e t, post (.error e) t → post' (.error e) t) : wp (m >>= f) during post' s := by
  rw [wp_bind]
  refine wp_post_mono h fun r t hr => ?_
  cases r with
  | ok a => exact hok a t hr
  | error e => exact herror e t hr

section Sequences

variable {post : Except ε β → σ → Prop}

theorem wp_bind_read {f : σ → Program A σ ε β} (h : wp (f s) during post s) :
    wp (read >>= f) during post s := by
  rw [wp_bind]
  exact wp_read.mpr h

theorem wp_bind_update {g : σ → σ} {f : Unit → Program A σ ε β} (h : wp (f ()) during post (g s)) :
    wp (update g >>= f) during post s := by
  rw [wp_bind]
  exact wp_update.mpr h

theorem wp_bind_require {p : Prop} [Decidable p] {e : ε} {f : Unit → Program A σ ε β}
    (hok : p → wp (f ()) during post s) (herror : ¬ p → post (.error e) s) :
    wp (require p e >>= f) during post s := by
  rw [wp_bind]
  exact wp_require.mpr ⟨hok,herror⟩

theorem wp_bind_lift {x : Except ε α} (hok : ∀ a, x = .ok a → wp (f a) during post s)
    (herror : ∀ e, x = .error e → post (.error e) s) :
    wp (lift x >>= f) during post s := by
  rw [wp_bind, wp_lift]
  cases x with
  | ok a => exact hok a rfl
  | error e => exact herror e rfl

theorem wp_bind_attempt {f : Except ε α → Program A σ ε β}
    (h : wp m during (fun r t => wp (f r) during post t) s) : wp (attempt m >>= f) during post s := by
  rw [wp_bind]
  exact wp_attempt.mpr h

end Sequences

end Rules

/-! The actions of a run, one after the other. -/

section Chains

variable {τ : Type} (view : σ → τ) (effect : A → τ → τ) (allowed : A → σ → Prop)

/-- Allowed actions, each taken where the one before it has left the part `view` of the state. -/
def Chain : τ → List (A × σ) → τ → Prop
  | t, [], t' => t' = t
  | t, v :: rest, t' => view v.2 = t ∧ allowed v.1 v.2 ∧ Chain (effect v.1 t) rest t'

/-- The actions that `m` takes from `s` are a chain from what it finds to what it leaves. -/
def Follows (m : Program A σ ε α) (s : σ) : Prop :=
  Chain view effect allowed (view s) (m s).visits (view (m s).final)

variable {view effect allowed} {s : σ} {t t' : τ} {visits : List (A × σ)}

theorem chain_append {visits' : List (A × σ)} : Chain view effect allowed t (visits ++ visits') t' ↔
    ∃ u, Chain view effect allowed t visits u ∧ Chain view effect allowed u visits' t' := by
  induction visits generalizing t with
  | nil => simp [Chain]
  | cons v visits ih =>
    simp only [List.cons_append, Chain, ih]
    exact ⟨fun ⟨hview,hallowed,u,hu,hrest⟩ => ⟨u,⟨hview,hallowed,hu⟩,hrest⟩,
      fun ⟨u,⟨hview,hallowed,hu⟩,hrest⟩ => ⟨hview,hallowed,u,hu,hrest⟩⟩

theorem follows_pure {a : α} : Follows view effect allowed (pure a : Program A σ ε α) s := rfl

theorem follows_fail {e : ε} : Follows view effect allowed (fail e : Program A σ ε α) s := rfl

theorem follows_read : Follows view effect allowed (read : Program A σ ε σ) s := rfl

theorem follows_update {f : σ → σ} (h : view (f s) = view s) :
    Follows view effect allowed (update f : Program A σ ε Unit) s := h

theorem follows_act {perform : A → σ → σ} {a : A} (hallowed : allowed a s)
    (heffect : view (perform a s) = effect a (view s)) :
    Follows view effect allowed (act perform a : Program A σ ε Unit) s := ⟨rfl,hallowed,heffect⟩

theorem Follows.attempt (h : Follows view effect allowed m s) :
    Follows view effect allowed (attempt m) s := h

theorem Follows.mapError {ε' : Type} {f : ε → ε'} (h : Follows view effect allowed m s) :
    Follows view effect allowed (mapError f m) s := h

theorem follows_lift {x : Except ε α} :
    Follows view effect allowed (lift x : Program A σ ε α) s := rfl

theorem Follows.bind (h : Follows view effect allowed m s)
    (hf : ∀ a, (m s).result = .ok a → Follows view effect allowed (f a) (m s).final) :
    Follows view effect allowed (m >>= f) s := by
  cases hresult : (m s).result with
  | ok a =>
    rw [Follows, bind_run_ok hresult]
    exact chain_append.mpr ⟨_,h,hf a hresult⟩
  | error e =>
    rw [Follows, bind_run_error hresult]
    exact h

theorem Chain.invariant {inv : τ → Prop} (h : Chain view effect allowed t visits t') (ht : inv t)
    (hstep : ∀ v ∈ visits, inv (view v.2) → inv (effect v.1 (view v.2))) :
    (∀ v ∈ visits, inv (view v.2)) ∧ inv t' := by
  induction visits generalizing t with
  | nil => exact ⟨fun _ hv => (by cases hv),h ▸ ht⟩
  | cons v visits ih =>
    obtain ⟨rfl,_,hrest⟩ := h
    obtain ⟨hall,hend⟩ := ih hrest (hstep v List.mem_cons_self ht)
      fun u hu => hstep u (List.mem_cons_of_mem v hu)
    exact ⟨List.forall_mem_cons.mpr ⟨ht,hall⟩,hend⟩

theorem wp_invariant {during : A → σ → Prop} {post : Except ε α → σ → Prop} {inv : τ → Prop}
    (hfollows : Follows view effect (fun _ _ => True) m s) (h : wp m during post s)
    (hs : inv (view s)) (hstep : ∀ a t, during a t → inv (view t) → inv (effect a (view t))) :
    wp m (fun a t => during a t ∧ inv (view t)) (fun r t => post r t ∧ inv (view t)) s := by
  obtain ⟨hall,hend⟩ := Chain.invariant hfollows hs fun v hv => hstep v.1 v.2 (h.1 v hv)
  exact ⟨fun v hv => ⟨h.1 v hv,hall v hv⟩,h.2,hend⟩

end Chains

/-! Runs that end with a value, followed step by step. -/

section Values

/-- The run from `s` ends in `t` with the value `a`. -/
def Yields (m : Program A σ ε α) (s : σ) (a : α) (t : σ) : Prop :=
  (m s).result = .ok a ∧ (m s).final = t

variable {s t u : σ} {a : α}

theorem yields_pure : Yields (pure a : Program A σ ε α) s a s := ⟨rfl,rfl⟩

theorem yields_read : Yields (read : Program A σ ε σ) s s s := ⟨rfl,rfl⟩

theorem yields_update {f : σ → σ} : Yields (update f : Program A σ ε Unit) s () (f s) := ⟨rfl,rfl⟩

theorem yields_act {perform : A → σ → σ} {action : A} :
    Yields (act perform action : Program A σ ε Unit) s () (perform action s) := ⟨rfl,rfl⟩

theorem yields_lift {x : Except ε α} (h : x = .ok a) : Yields (lift x : Program A σ ε α) s a s := ⟨h,rfl⟩

theorem yields_require {p : Prop} [Decidable p] {e : ε} (h : p) :
    Yields (require p e : Program A σ ε Unit) s () s := yields_lift (if_pos h)

theorem Yields.bind {b : β} (h : Yields m s a t) (hf : Yields (f a) t b u) :
    Yields (m >>= f) s b u := by
  obtain ⟨hresult,rfl⟩ := h
  rw [Yields, bind_run_ok hresult]
  exact hf

theorem Yields.bind_result (h : Yields m s a t) :
    ((m >>= f) s).result = (f a t).result := by
  rw [bind_run_ok h.1, h.2]

theorem Yields.attempt (h : Yields m s a t) : Yields (attempt m) s (.ok a) t :=
  ⟨congrArg Except.ok h.1,h.2⟩

theorem Yields.mapError {ε' : Type} {f : ε → ε'} (h : Yields m s a t) :
    Yields (mapError f m) s a t := by
  refine ⟨?_,h.2⟩
  change (m s).result.mapError f = _
  rw [h.1]
  rfl

end Values

/-! Programs judged by a part of the state, in every state that shows this part. -/

section Views

variable {τ : Type} (view : σ → τ)

/-- From every state with the view `t`, each action meets `during` and the end meets `post`, both
about the view. -/
def Meets (m : Program A σ ε α) (during : A → τ → Prop) (post : Except ε α → τ → Prop) (t : τ) :
    Prop :=
  ∀ s, view s = t → wp m (fun a u => during a (view u)) (fun r u => post r (view u)) s

variable {view} {during during' : A → τ → Prop} {post post' : Except ε α → τ → Prop} {t : τ}

theorem Meets.mono (h : Meets view m during post t) (hduring : ∀ a u, during a u → during' a u)
    (hpost : ∀ r u, post r u → post' r u) :
    Meets view m during' post' t :=
  fun s hs => wp_mono (h s hs) (fun a u => hduring a (view u)) fun r u => hpost r (view u)

theorem Meets.post_mono (h : Meets view m during post t) (hpost : ∀ r u, post r u → post' r u) :
    Meets view m during post' t :=
  h.mono (fun _ _ h => h) hpost

theorem meets_pure {a : α} (h : post (.ok a) t) :
    Meets view (pure a : Program A σ ε α) during post t :=
  fun _ hs => wp_pure.mpr (hs ▸ h)

theorem meets_fail {e : ε} (h : post (.error e) t) :
    Meets view (fail e : Program A σ ε α) during post t :=
  fun _ hs => wp_fail.mpr (hs ▸ h)

theorem meets_lift {x : Except ε α} (h : post x t) :
    Meets view (lift x : Program A σ ε α) during post t :=
  fun _ hs => wp_lift.mpr (hs ▸ h)

theorem meets_require {p : Prop} [Decidable p] {e : ε} {post : Except ε Unit → τ → Prop}
    (hok : p → post (.ok ()) t) (herror : ¬ p → post (.error e) t) :
    Meets view (require p e : Program A σ ε Unit) during post t :=
  fun _ hs => wp_require.mpr ⟨fun hp => hs ▸ hok hp,fun hp => hs ▸ herror hp⟩

theorem meets_act {perform : A → σ → σ} {a : A} {post : Except ε Unit → τ → Prop} {u : τ}
    (hview : ∀ s, view s = t → view (perform a s) = u) (hduring : during a t) (h : post (.ok ()) u) :
    Meets view (act perform a : Program A σ ε Unit) during post t :=
  fun s hs => wp_act.mpr ⟨hs ▸ hduring,by rw [hview s hs]; exact h⟩

theorem meets_mapError {ε' : Type} {f : ε → ε'} {post : Except ε' α → τ → Prop}
    (h : Meets view m during (fun r u => post (r.mapError f) u) t) :
    Meets view (mapError f m) during post t :=
  fun s hs => wp_mapError.mpr (h s hs)

theorem Meets.bind {post' : Except ε β → τ → Prop} (h : Meets view m during post t)
    (hok : ∀ a u, post (.ok a) u → Meets view (f a) during post' u)
    (herror : ∀ e u, post (.error e) u → post' (.error e) u) :
    Meets view (m >>= f) during post' t := by
  intro s hs
  rw [wp_bind]
  refine wp_mono (h s hs) (fun _ _ h => h) fun r u hr => ?_
  cases r with
  | ok a => exact hok a (view u) hr u rfl
  | error e => exact herror e (view u) hr

theorem meets_read_bind {f : σ → Program A σ ε β} {post : Except ε β → τ → Prop}
    (h : ∀ s, view s = t → Meets view (f s) during post t) : Meets view (read >>= f) during post t :=
  fun s hs => wp_bind_read (h s hs s hs)

theorem meets_require_bind {p : Prop} [Decidable p] {e : ε} {f : Unit → Program A σ ε β}
    {post : Except ε β → τ → Prop} (hok : p → Meets view (f ()) during post t)
    (herror : ¬ p → post (.error e) t) : Meets view (require p e >>= f) during post t := by
  intro s hs
  refine wp_bind_require (fun hp => hok hp s hs) fun hp => ?_
  rw [hs]
  exact herror hp

theorem meets_lift_bind {x : Except ε α} {post : Except ε β → τ → Prop}
    (hok : ∀ a, x = .ok a → Meets view (f a) during post t)
    (herror : ∀ e, x = .error e → post (.error e) t) : Meets view (lift x >>= f) during post t := by
  intro s hs
  refine wp_bind_lift (fun a ha => hok a ha s hs) fun e he => ?_
  rw [hs]
  exact herror e he

theorem Meets.invariant {effect : A → τ → τ} {inv : τ → Prop} (h : Meets view m during post t)
    (hfollows : ∀ s, Follows view effect (fun _ _ => True) m s) (ht : inv t)
    (hstep : ∀ a u, during a u → inv u → inv (effect a u)) :
    Meets view m (fun a u => during a u ∧ inv u) (fun r u => post r u ∧ inv u) t :=
  fun s hs => wp_invariant (hfollows s) (h s hs) (hs ▸ ht) fun a u => hstep a (view u)

end Views

end Program

end KernAid.CrashLogic
