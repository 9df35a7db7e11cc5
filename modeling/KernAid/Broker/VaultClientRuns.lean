import KernAid.Broker.VaultClient

/-! When the version guard of the client sends a mutation, and what a ready guard says. -/

set_option autoImplicit false

namespace KernAid.Broker

open CrashLogic Program

section

variable {E D α β : Type} {p : Request D → Prop} {request : Request D} {ledger : List (Sent D)}
  {s : Session E D} {during : Request D → Session E D → Prop} {reconciling : Bool} {draft : D}

/-- Every sent mutation that is not decided satisfies `p`. -/
def Undecided (p : Request D → Prop) (ledger : List (Sent D)) : Prop :=
  ∀ sent ∈ ledger, sent.decided = false → p sent.mutation

abbrev AllDecided (ledger : List (Sent D)) : Prop := Undecided (fun _ => False) ledger

variable {expectedStateVersion : Nat} {subject : Subject} {payload : Success → Option α}
  {response : Response} {expected : BackupStatus}

theorem Undecided.mono {q : Request D → Prop} (h : Undecided p ledger) (hpq : ∀ m, p m → q m) :
    Undecided q ledger := fun sent hmem hsent => hpq _ (h sent hmem hsent)

structure Guarded (s : Session E D) : Prop where
  settled : s.guard.isAmbiguous = false → s.ambiguousReserve = none ∧ AllDecided s.ledger
  reserve : ∀ draft, s.ambiguousReserve = some draft → Undecided (· = .reserve draft) s.ledger
  lost : s.ambiguousReserve = none → ∃ subject, Undecided (·.subject = some subject) s.ledger

/-- Only the identical reserve is sent while a mutation is undecided. -/
def SafeToSend (request : Request D) (s : Session E D) : Prop :=
  request.isMutation = true →
    Undecided (fun m => m = request ∧ ∃ draft, request = .reserve draft) s.ledger

theorem wp_bind_ask {f : E → α × E} {g : α → Client E D β}
    {post : Except RepairVaultClientError β → Session E D → Prop}
    (h : ∀ answer env, wp (g answer) during post { s with env := env }) :
    wp (ask f >>= g) during post s :=
  wp_bind.mpr ⟨fun _ hv => absurd hv (List.not_mem_nil),h _ _⟩

theorem Guarded.env (h : Guarded s) (env : E) : Guarded { s with env := env } :=
  ⟨h.settled,h.reserve,h.lost⟩

theorem Guarded.observeReadVersion (h : Guarded s) (stateVersion : Nat) :
    Guarded (s.observeReadVersion stateVersion) := by
  refine ⟨fun hs => h.settled ?_,h.reserve,h.lost⟩
  cases hguard : s.guard <;> simp_all [Session.observeReadVersion, VersionGuard.observeReadVersion,
    VersionGuard.isAmbiguous]

theorem Guarded.allDecided (h : Guarded s)
    (hversion : s.guard.mutationVersion = .ok expectedStateVersion) : AllDecided s.ledger := by
  refine (h.settled ?_).2
  cases hs : s.guard <;> simp_all [VersionGuard.mutationVersion, VersionGuard.isAmbiguous]

theorem guarded_of_allDecided (h : AllDecided s.ledger) (stateVersion : Nat) :
    Guarded (s.reconcile stateVersion).forgetReserve :=
  ⟨fun _ => ⟨rfl,h⟩,nofun,fun _ => ⟨.reservation "",h.mono fun _ => False.elim⟩⟩

theorem Guarded.observeStale (h : Guarded s) (stateVersion : Nat) :
    Guarded (s.observeStale stateVersion) := by
  unfold Session.observeStale
  split_ifs with hguard
  · obtain ⟨hnone,hdecided⟩ := h.settled (by rw [hguard]; rfl)
    exact ⟨fun _ => ⟨hnone,hdecided⟩,h.reserve,h.lost⟩
  · exact h.observeReadVersion stateVersion

theorem guarded_of_lostReserve (h : Undecided (· = .reserve draft) s.ledger)
    (lastStateVersion : Nat) :
    Guarded { s.markAmbiguous lastStateVersion with ambiguousReserve := some draft } :=
  ⟨nofun,fun _ hd => by cases hd; exact h,nofun⟩

theorem guarded_of_lostMutation (h : Undecided (·.subject = some subject) s.ledger)
    (lastStateVersion : Nat) : Guarded (s.markAmbiguous lastStateVersion).forgetReserve :=
  ⟨nofun,nofun,fun _ => ⟨subject,h⟩⟩

theorem guarded_observeCompletedRead (h : Guarded s)
    (hdecided : s.ambiguousReserve = none → AllDecided s.ledger) (stateVersion : Nat) :
    Guarded (s.observeCompletedRead stateVersion) := by
  unfold Session.observeCompletedRead
  split_ifs with hreserve
  · exact ⟨nofun,h.reserve,h.lost⟩
  · have hnone : s.ambiguousReserve = none := by simpa using hreserve
    exact ⟨fun _ => ⟨hnone,hdecided hnone⟩,h.reserve,h.lost⟩

structure Reserving (reconciling : Bool) (draft : D) (s : Session E D) : Prop where
  guarded : Guarded s
  only : Undecided (· = .reserve draft) s.ledger
  fresh : reconciling = false → AllDecided s.ledger
  kept : reconciling = true → s.ambiguousReserve = some draft

theorem Reserving.settled (h : Reserving reconciling draft s) (stateVersion : Nat) :
    Reserving reconciling draft (s.settleReserve reconciling stateVersion) := by
  unfold Session.settleReserve
  split_ifs with hrec
  · exact ⟨⟨nofun,h.guarded.reserve,h.guarded.lost⟩,h.only,h.fresh,h.kept⟩
  · have hfresh := h.fresh (Bool.eq_false_iff.mpr hrec)
    exact ⟨guarded_of_allDecided hfresh _,h.only,fun _ => hfresh,fun hs => absurd hs hrec⟩

theorem Reserving.safeToSend (h : Reserving reconciling draft s) : SafeToSend (.reserve draft) s :=
  fun _ => h.only.mono fun _ hm => ⟨hm,draft,rfl⟩

/-! Reads. -/

theorem expectPayload_ok {a : α} (h : expectPayload payload response = .ok a) :
    response.outcome.isOk = true := by
  unfold expectPayload at h
  cases houtcome : response.outcome with
  | ok => rfl
  | error => simp [houtcome] at h

theorem expectPayload_remote {token : ErrorToken}
    (h : expectPayload payload response = .error (.remote token)) :
    response.outcome = .error token := by
  unfold expectPayload okOr at h
  cases houtcome : response.outcome with
  | ok success =>
    simp only [houtcome] at h
    split at h <;> cases h
  | error => simpa [houtcome] using h

theorem named_of_definitive {outcome : Except ErrorToken Success}
    (hnames : request.names = some subject) (h : definitive outcome = true) :
    named request outcome = some subject := by
  unfold named
  split
  · cases hnames
  · cases hnames
  · rw [if_pos h, hnames]

theorem definitive_of_ok {a : α} (h : expectPayload payload response = .ok a) :
    definitive response.outcome = true := by
  have hok := expectPayload_ok h
  cases houtcome : response.outcome with
  | ok => rfl
  | error => simp [houtcome, Except.isOk, Except.toBool] at hok

theorem definitive_of_absent (h : expectPayload payload response = .error (.remote .absent)) :
    definitive response.outcome = true := by
  rw [expectPayload_remote h]
  rfl

/-- The undecided mutations other than a reserve are about what a read names. -/
def About (request : Request D) (s : Session E D) : Prop :=
  Undecided (fun m => m.subject ≠ none → m.subject = request.names) s.ledger

/-- What a read exchange leaves: with a definitive answer every mutation but a reserve is decided. -/
structure Heard (request : Request D) (r : Except RepairVaultClientError Response) (s : Session E D) :
    Prop where
  guarded : Guarded s
  about : About request s
  decided : ∀ response, r = .ok response → definitive response.outcome = true →
    s.ambiguousReserve = none → AllDecided s.ledger

theorem Heard.observe {r : Except RepairVaultClientError Response} (h : Heard request r s)
    (stateVersion : Nat) : Heard request r (s.observeReadVersion stateVersion) :=
  ⟨h.guarded.observeReadVersion stateVersion,h.about,h.decided⟩

theorem About.observeStale (h : About request s) (stateVersion : Nat) :
    About request (s.observeStale stateVersion) := by
  unfold Session.observeStale
  split_ifs <;> exact h

theorem Heard.error (h : Heard request (.ok response) s) (e : RepairVaultClientError) :
    Heard request (.error e) s :=
  ⟨h.guarded,h.about,nofun⟩

theorem Heard.completed (h : Heard request (.ok response) s)
    (hdefinitive : definitive response.outcome = true) :
    Guarded (s.observeCompletedRead response.stateVersion) :=
  guarded_observeCompletedRead h.guarded (h.decided response rfl hdefinitive) _

theorem Heard.env {r : Except RepairVaultClientError Response} (h : Heard request r s) (env : E) :
    Heard request r { s with env := env } :=
  ⟨h.guarded.env env,h.about,h.decided⟩

/-! Replies. -/

/-- What a second attempt, if there is one, does from every session in which it is made. -/
def RetrySafe (again : Option (Nat → Client E D α)) (inv : Session E D → Prop)
    (post : Except RepairVaultClientError α → Session E D → Prop) : Prop :=
  ∀ next ∈ again, ∀ stateVersion s, inv s → wp (next stateVersion) SafeToSend post s

theorem RetrySafe.once {next : Nat → Client E D α} {inv : Session E D → Prop}
    {post : Except RepairVaultClientError α → Session E D → Prop}
    (h : RetrySafe none inv post → ∀ stateVersion s, inv s → wp (next stateVersion) SafeToSend post s) :
    RetrySafe (some next) inv post := by
  intro found hfound
  cases hfound
  exact h (fun _ hnone => by cases hnone)

variable [DecidableEq D] {link : VaultLink E D}

theorem Undecided.hear (h : Undecided p ledger) (response : Response) :
    Undecided (fun m => p m ∧ decides request response.outcome m = false)
      (record request (.ok response) ledger) := by
  intro sent hmem hsent
  rcases List.mem_append.mp hmem with hmem | hmem
  · obtain ⟨old,hold,rfl⟩ := List.mem_map.mp hmem
    obtain ⟨hdecided,hheard⟩ := Bool.or_eq_false_iff.mp hsent
    exact ⟨h old hold hdecided,hheard⟩
  · split_ifs at hmem
    · obtain rfl := List.mem_singleton.mp hmem
      cases hsent
    · cases hmem

theorem Undecided.record_ok (h : Undecided p ledger) (response : Response) :
    Undecided p (record request (.ok response) ledger) :=
  (h.hear response).mono fun _ hm => hm.1

theorem Undecided.record_lost (h : Undecided p ledger) (hrequest : request.isMutation = true → p request)
    (failure : ExchangeFailure) : Undecided p (record request (.error failure) ledger) := by
  intro sent hmem hsent
  simp only [record] at hmem
  split_ifs at hmem with hlost
  · rcases List.mem_append.mp hmem with hmem | hmem
    · exact h sent hmem hsent
    · obtain rfl := List.mem_singleton.mp hmem
      exact hrequest (Bool.and_eq_true_iff.mp hlost).2
  · exact h sent hmem hsent

theorem Guarded.unsent (h : Guarded s) {failure : ExchangeFailure}
    (hsent : (failure.requestMayHaveBeenSent && request.isMutation) = false) (env : E) :
    Guarded (s.exchanged request (.error failure) env) := by
  simpa [Session.exchanged, record, hsent] using h.env env

theorem allDecided_of_reserve (h : Undecided (· = .reserve draft) ledger)
    (hok : response.outcome.isOk = true) :
    AllDecided (record (.reserve draft) (.ok response) ledger) := by
  refine (h.hear response).mono fun m hm => ?_
  obtain ⟨rfl,hm⟩ := hm
  simp [decides, hok] at hm

theorem allDecided_of_named (h : Undecided (·.subject = some subject) ledger)
    (hnamed : named request response.outcome = some subject) :
    AllDecided (record request (.ok response) ledger) := by
  refine (h.hear response).mono fun m hm => ?_
  obtain ⟨hsubject,hm⟩ := hm
  cases m <;> simp_all [decides, Request.subject]

theorem wp_bind_exchange {f : Except ExchangeFailure Response → Client E D β}
    {post : Except RepairVaultClientError β → Session E D → Prop} (hsend : during request s)
    (h : ∀ reply env, wp (f reply) during post (s.exchanged request reply env)) :
    wp (exchangeOnce link expectedStateVersion request >>= f) during post s := by
  refine wp_bind.mpr ⟨fun v hv => ?_,h _ _⟩
  obtain rfl := List.mem_singleton.mp hv
  exact hsend

theorem Guarded.record_ok (h : Guarded s) (response : Response) (env : E) :
    Guarded (s.exchanged request (.ok response) env) where
  settled := fun hs => ⟨(h.settled hs).1,(h.settled hs).2.record_ok response⟩
  reserve := fun draft hd => (h.reserve draft hd).record_ok response
  lost := fun hnone => (h.lost hnone).imp fun _ hl => hl.record_ok response

theorem Reserving.record_ok (h : Reserving reconciling draft s) (response : Response) (env : E) :
    Reserving reconciling draft (s.exchanged request (.ok response) env) :=
  ⟨h.guarded.record_ok response env,h.only.record_ok response,
    fun hs => (h.fresh hs).record_ok response,h.kept⟩

theorem wp_reserveReply {again : Option (Nat → Client E D BackupStatus)} {env : E}
    (h : Reserving reconciling draft s)
    (hagain : RetrySafe again (Reserving reconciling draft) fun _ => Guarded) :
    wp (reserveReply reconciling expectedStateVersion again response) SafeToSend (fun _ => Guarded)
      (s.exchanged (.reserve draft) (.ok response) env) := by
  have hheard : Reserving reconciling draft (s.exchanged (.reserve draft) (.ok response) env) :=
    h.record_ok response env
  unfold reserveReply
  split
  · next next _ =>
    refine wp_bind_update ?_
    split_ifs
    · exact wp_fail.mpr (hheard.settled response.stateVersion).guarded
    · exact hagain next rfl _ _ (hheard.settled response.stateVersion)
  · refine wp_bind_update ?_
    refine wp_lift.mpr ?_
    cases houtcome : statusResult response with
    | error e =>
      rw [show (reconciling && !(Except.error e : Except RepairVaultClientError BackupStatus).isOk) =
        reconciling by simp [Except.isOk, Except.toBool]]
      exact (hheard.settled response.stateVersion).guarded
    | ok status =>
      rw [show (reconciling && !(Except.ok status : Except RepairVaultClientError BackupStatus).isOk) =
        false by simp [Except.isOk, Except.toBool]]
      exact guarded_of_allDecided (allDecided_of_reserve h.only (expectPayload_ok houtcome)) _

theorem wp_reserveAttempt {again : Option (Nat → Client E D BackupStatus)}
    (h : Reserving reconciling draft s)
    (hagain : RetrySafe again (Reserving reconciling draft) fun _ => Guarded) :
    wp (reserveAttempt link reconciling draft again expectedStateVersion) SafeToSend
      (fun _ => Guarded) s := by
  refine wp_bind_exchange h.safeToSend fun reply env => ?_
  cases reply with
  | error failure =>
    dsimp only
    split_ifs with hsent
    · exact wp_bind_update
        (wp_fail.mpr (guarded_of_lostReserve (h.only.record_lost (fun _ => rfl) failure) _))
    · exact wp_fail.mpr (h.guarded.unsent (by simp [hsent]) env)
  | ok response => exact wp_reserveReply h hagain

theorem reserving_of_version (h : Guarded s)
    (hversion : reserveVersion draft s = .ok expectedStateVersion) :
    Reserving s.guard.isAmbiguous draft s := by
  cases hguard : s.guard.isAmbiguous with
  | false =>
    obtain ⟨_,hdecided⟩ := h.settled hguard
    exact ⟨h,hdecided.mono fun _ => False.elim,fun _ => hdecided,nofun⟩
  | true =>
    have hreserve : s.ambiguousReserve = some draft := by
      by_contra hne
      cases hs : s.guard <;> simp_all [reserveVersion, VersionGuard.isAmbiguous]
    exact ⟨h,h.reserve draft hreserve,nofun,fun _ => hreserve⟩

theorem wp_reserve (h : Guarded s) : wp (reserve link draft) SafeToSend (fun _ => Guarded) s := by
  refine wp_bind_read (wp_bind_lift (fun _ hversion => ?_) fun _ _ => h)
  exact wp_reserveAttempt (reserving_of_version h hversion) (.once fun hnone _ _ hs' =>
    wp_reserveAttempt hs' hnone)

/-! The other mutations. -/

theorem wp_mutationExchange (h : Guarded s) (hdecided : AllDecided s.ledger)
    (hsubject : request.subject = some subject) :
    wp (mutationExchange link expectedStateVersion request) SafeToSend (fun _ => Guarded) s := by
  refine wp_bind_exchange (fun _ => hdecided.mono fun _ => False.elim) fun reply env => ?_
  cases reply with
  | ok response =>
    exact wp_bind_update (wp_pure.mpr (guarded_of_allDecided (hdecided.record_ok response) _))
  | error failure =>
    dsimp only
    split_ifs with hsent
    · have hlost : Undecided (·.subject = some subject) (record request (.error failure) s.ledger) :=
        Undecided.record_lost (hdecided.mono fun _ => False.elim) (fun _ => hsubject) failure
      exact wp_bind_update (wp_fail.mpr (guarded_of_lostMutation hlost _))
    · exact wp_fail.mpr (h.unsent (by simp [hsent]) env)

theorem wp_mutate {result : Response → Except RepairVaultClientError α} (h : Guarded s)
    (hsubject : request.subject = some subject) :
    wp (mutate link request result) SafeToSend (fun _ => Guarded) s := by
  refine wp_bind_read (wp_bind_lift (fun _ hversion => ?_) fun _ _ => h)
  exact wp_bind_of (wp_mutationExchange h (h.allDecided hversion) hsubject)
    (fun _ _ hs' => wp_lift.mpr hs') fun _ _ hs' => hs'

theorem wp_persist {bytes : List UInt8} (h : Guarded s) :
    wp (persist link expected bytes) SafeToSend (fun _ => Guarded) s := by
  refine wp_bind_require (fun _ => ?_) fun _ => h
  refine wp_bind_read (wp_bind_lift (fun _ hversion => ?_) fun _ _ => h)
  refine wp_bind_ask fun _ env => wp_bind_require (fun _ => ?_) fun _ => h.env env
  refine wp_bind_of (wp_mutationExchange (h.env env) (h.allDecided hversion) rfl) (fun _ s' hs' => ?_)
    fun _ _ hs' => hs'
  refine wp_bind_ask fun _ env' => wp_bind_lift (fun _ _ => ?_) fun _ _ => hs'.env env'
  exact wp_bind_lift (fun _ _ => wp_pure.mpr (hs'.env env')) fun _ _ => hs'.env env'

/-! Reads of the vault. -/

theorem allDecided_exchanged (h : Guarded s) (habout : About request s)
    (hdefinitive : definitive response.outcome = true) (hnone : s.ambiguousReserve = none) :
    AllDecided (record request (.ok response) s.ledger) := by
  obtain ⟨subject,hlost⟩ := h.lost hnone
  by_cases hnames : request.names = some subject
  · exact allDecided_of_named hlost (named_of_definitive hnames hdefinitive)
  · have hdecided : AllDecided s.ledger := fun sent hmem hsent =>
      hnames ((habout sent hmem hsent (by simp [hlost sent hmem hsent])).symm.trans
        (hlost sent hmem hsent))
    exact hdecided.record_ok response

theorem wp_readOnce (h : Guarded s) (habout : About request s) (hread : request.isMutation = false) :
    wp (readOnce link expectedStateVersion request) SafeToSend (Heard request) s := by
  refine wp_bind_exchange (fun hmutation => absurd (hread.symm.trans hmutation) (by decide))
    fun reply env => ?_
  cases reply with
  | ok response =>
    refine wp_pure.mpr ⟨h.record_ok response env,Undecided.record_ok habout response,fun _ hr => ?_⟩
    cases hr
    exact allDecided_exchanged h habout
  | error failure =>
    have hledger : record request (.error failure) s.ledger = s.ledger := by simp [record, hread]
    refine wp_fail.mpr ⟨h.unsent (by simp [hread]) env,?_,nofun⟩
    simpa [About, Session.exchanged, hledger] using habout

theorem wp_readAttempt {again : Option (Nat → Client E D Response)} (h : Guarded s)
    (habout : About request s) (hread : request.isMutation = false)
    (hagain : RetrySafe again (fun s' => Guarded s' ∧ About request s') (Heard request)) :
    wp (readAttempt link request again expectedStateVersion) SafeToSend (Heard request) s := by
  refine wp_bind_of (wp_readOnce h habout hread) (fun response s' hs' => ?_)
    fun _ _ hs' => ⟨hs'.guarded,hs'.about,nofun⟩
  unfold retryStale
  split_ifs
  · refine wp_bind_require (fun _ => wp_bind_update ?_) fun _ => hs'.error _
    have hobserved := hs'.observe response.stateVersion
    cases again with
    | none => exact wp_pure.mpr hobserved
    | some next => exact hagain next rfl _ _ ⟨hobserved.guarded,hobserved.about⟩
  · exact wp_pure.mpr hs'

theorem wp_readExchange (h : Guarded s) (habout : About request s) (hread : request.isMutation = false) :
    wp (readExchange link request) SafeToSend (Heard request) s := by
  refine wp_bind_read (wp_bind_lift (fun _ _ => ?_) fun _ _ => ⟨h,habout,nofun⟩)
  exact wp_readAttempt h habout hread (.once fun hnone _ _ hs' => wp_readAttempt hs'.1 hs'.2 hread hnone)

theorem wp_status (h : Guarded s) (habout : About (.status expected) s) :
    wp (status link expected) SafeToSend (fun _ => Guarded) s := by
  refine wp_bind_of (wp_readExchange h habout rfl) (fun response s' hs' => ?_) fun _ _ hs' => hs'.guarded
  split
  · next hstatus => exact wp_bind_update (wp_pure.mpr (hs'.completed (definitive_of_ok hstatus)))
  · next hstatus => exact wp_bind_update (wp_fail.mpr (hs'.completed (definitive_of_absent hstatus)))
  · exact wp_bind_update (wp_fail.mpr (hs'.guarded.observeReadVersion _))

theorem wp_liveIdentity (h : Guarded s) (habout : About .vaultLiveParent s) :
    wp (liveIdentity link) SafeToSend (fun _ => Guarded) s := by
  refine wp_bind_of (wp_readExchange h habout rfl) (fun response s' hs' => ?_) fun _ _ hs' => hs'.guarded
  split
  · next hidentity => exact wp_bind_update (wp_pure.mpr (hs'.completed (definitive_of_ok hidentity)))
  · exact wp_bind_update (wp_fail.mpr (hs'.guarded.observeReadVersion _))

theorem wp_get (h : Guarded s) (habout : About (.get expected) s) :
    wp (get link expected) SafeToSend (fun _ => Guarded) s := by
  refine wp_bind_of (wp_readExchange h habout rfl) (fun response s' hs' => ?_) fun _ _ hs' => hs'.guarded
  split
  · next houtcome =>
    have hdefinitive : definitive response.outcome = true := by rw [houtcome]; rfl
    refine wp_bind_require (fun _ => wp_bind_ask fun _ env => ?_) fun _ => hs'.guarded
    refine wp_bind_lift (fun _ _ => ?_) fun _ _ => hs'.guarded.env env
    refine wp_bind_require (fun _ => ?_) fun _ => hs'.guarded.env env
    exact wp_bind_update (wp_pure.mpr ((hs'.env env).completed hdefinitive))
  · next houtcome =>
    exact wp_bind_update (wp_fail.mpr (hs'.completed (by rw [houtcome]; rfl)))
  · exact wp_bind_update (wp_fail.mpr (hs'.guarded.observeReadVersion _))
  · exact wp_bind_update (wp_fail.mpr (hs'.guarded.observeReadVersion _))

theorem wp_lookupAttempt {again : Option (Nat → Client E D α)} (h : Guarded s)
    (habout : About request s) (hread : request.isMutation = false)
    (hagain : RetrySafe again (fun s' => Guarded s' ∧ About request s') fun _ => Guarded) :
    wp (lookupAttempt link request (expectPayload payload) again expectedStateVersion) SafeToSend
      (fun _ => Guarded) s := by
  refine wp_bind_of (wp_readOnce h habout hread) (fun response s' hs' => ?_) fun _ _ hs' => hs'.guarded
  unfold lookupReply
  split
  · next next _ =>
    refine wp_bind_require (fun _ => wp_bind_update ?_) fun _ => hs'.guarded
    exact hagain next rfl _ _ ⟨hs'.guarded.observeStale _,hs'.about.observeStale _⟩
  · next hfound => exact wp_bind_update (wp_pure.mpr (hs'.completed (definitive_of_ok hfound)))
  · next habsent => exact wp_bind_update (wp_fail.mpr (hs'.completed (definitive_of_absent habsent)))
  · exact wp_bind_update (wp_fail.mpr (hs'.guarded.observeReadVersion _))

theorem wp_lookup {pendingBootstrap : Bool} (h : Guarded s) (habout : About request s)
    (hread : request.isMutation = false) :
    wp (lookup link pendingBootstrap request (expectPayload payload)) SafeToSend
      (fun _ => Guarded) s := by
  refine wp_bind_read (wp_bind_lift (fun _ _ => ?_) fun _ _ => h)
  exact wp_lookupAttempt h habout hread
    (.once fun hnone _ _ hs' => wp_lookupAttempt hs'.1 hs'.2 hread hnone)

/-! Any calls. -/

/-- While a mutation other than a reserve is undecided, the call reads only what it was about. -/
def Pertinent (call : Call D) (s : Session E D) : Prop :=
  call.request.isMutation = false → About call.request s

omit [DecidableEq D] in
theorem wp_discard {m : Client E D α} (h : wp m during (fun _ => Guarded) s) :
    wp (discard m) during (fun _ => Guarded) s :=
  wp_bind_of h (fun _ _ hs' => wp_pure.mpr hs') fun _ _ hs' => hs'

theorem wp_perform {call : Call D} (h : Guarded s) (hcall : Pertinent call s) :
    wp (perform link call) SafeToSend (fun _ => Guarded) s := by
  cases call with
  | reserve draft => exact wp_discard (wp_reserve h)
  | persist expected bytes => exact wp_discard (wp_persist h)
  | status expected => exact wp_discard (wp_status h (hcall rfl))
  | get expected => exact wp_discard (wp_get h (hcall rfl))
  | cancel reservationId draftBindingSha256 => exact wp_discard (wp_mutate h rfl)
  | retire expected => exact wp_discard (wp_mutate h rfl)
  | transactionStatus selector => exact wp_discard (wp_lookup h (hcall rfl) rfl)
  | beginRollbackTransaction source rollbackId => exact wp_discard (wp_mutate h rfl)
  | rollbackTransactionStatus selector => exact wp_discard (wp_lookup h (hcall rfl) rfl)
  | liveIdentity => exact wp_discard (wp_liveIdentity h (hcall rfl))
  | resolveTransaction expected => exact wp_discard (wp_mutate h rfl)
  | resolveRollbackTransaction expected => exact wp_discard (wp_mutate h rfl)

variable (link)

/-- Sessions after any pertinent calls. -/
inductive Reached : Session E D → Prop where
  | fresh (env : E) : Reached (Session.fresh D env)
  | call {s : Session E D} {call : Call D} :
    Reached s → Pertinent call s → Reached (perform link call s).final

variable {link}

theorem Reached.guarded (h : Reached link s) : Guarded s := by
  induction h with
  | fresh env => exact ⟨fun _ => ⟨rfl,nofun⟩,nofun,fun _ => ⟨.reservation "",nofun⟩⟩
  | call _ hcall ih => exact (wp_perform ih hcall).2

/-- Whatever is answered, lost or delivered late, as long as the calls are pertinent: a ready guard has
every sent mutation decided, and while one is undecided the next call sends only the identical reserve. -/
theorem mutations_are_decided (h : Reached link s) :
    (∀ stateVersion, s.guard = .ready stateVersion → ∀ sent ∈ s.ledger, sent.decided = true) ∧
      ∀ call, Pertinent call s → ∀ v ∈ (perform link call s).visits, v.1.isMutation = true →
        ∀ sent ∈ v.2.ledger, sent.decided = false →
          sent.mutation = v.1 ∧ ∃ draft, v.1 = .reserve draft := by
  refine ⟨fun stateVersion hguard sent hmem => ?_,fun call hcall v hv hmutation => ?_⟩
  · obtain ⟨_,hdecided⟩ := h.guarded.settled (by rw [hguard]; rfl)
    by_contra hne
    exact hdecided sent hmem (Bool.eq_false_iff.mpr hne)
  · exact (wp_perform h.guarded hcall).1 v hv hmutation

end

namespace ClientSample

/-- What becomes of the next request. -/
inductive Fate where
  | answered
  | replyLost
deriving DecidableEq, Repr

/-- A vault that applies a mutation only at its own version. -/
structure Vault where
  version : Nat
  fates : List Fate

def answer : Request String → Success
  | .reserve _ => .backupStatus ⟨"B-1",1,"hash"⟩
  | .persist expected => .backupStatus expected
  | .status expected => .backupStatus expected
  | .get expected => .backup expected
  | .cancel _ _ => .released
  | .retire _ => .released
  | .transactionStatus _ => .transactionStatus none
  | .transactionResolve expected => .transactionResolved expected
  | .rollbackBegin _ rollbackId => .rollbackBegun ⟨rollbackId,"binding"⟩
  | .rollbackStatus _ => .rollbackStatus none
  | .rollbackResolve expected => .rollbackResolved expected
  | .vaultLiveParent => .liveIdentity

def Vault.handle (stateVersion : Nat) (request : Request String) (vault : Vault) : Response × Nat :=
  if stateVersion = vault.version then
    let version := if request.isMutation then vault.version + 1 else vault.version
    (⟨version,.ok (answer request),true⟩,version)
  else (⟨vault.version,.error .staleState,false⟩,vault.version)

def link : VaultLink Vault String where
  digest := fun _ => "hash"
  exchange := fun stateVersion request vault =>
    let (response,version) := vault.handle stateVersion request
    match vault.fates with
    | .replyLost :: fates => (.error ⟨.timedOut,true⟩,⟨version,fates⟩)
    | _ => (.ok response,⟨version,vault.fates.tail⟩)
  openPipe := fun vault => (true,vault)
  writePipe := fun _ vault => (.ok (),vault)
  readPipe := fun _ vault => (.ok [0],vault)

def after (calls : List (Call String)) (s : Session Vault String) : Session Vault String :=
  calls.foldl (fun s call => (perform link call s).final) s

def start : Session Vault String := Session.fresh String ⟨0,[.answered,.replyLost]⟩

def transaction : TransactionStatus := ⟨"B-1","transaction"⟩

/-- The lost resolve is decided by the exact status of its transaction. -/
theorem exact_status_decides_lost_resolve :
    let s := after [.reserve "draft",.resolveTransaction transaction,
      .transactionStatus (.exact "B-1" "transaction")] start
    s.guard = .ready 2 ∧ ∀ sent ∈ s.ledger, sent.decided = true := by
  have hreserved : Reached link (after [.reserve "draft"] start) := .call (.fresh _) nofun
  have hlost : Reached link (after [.reserve "draft",.resolveTransaction transaction] start) :=
    .call hreserved nofun
  refine ⟨by decide +kernel,(mutations_are_decided (.call hlost fun _ => ?_)).1 2 (by decide +kernel)⟩
  unfold About Undecided
  decide +kernel

/-- The reply of a resolve is lost; reading the vault's live identity, which names no transaction, makes
the guard ready, and the next mutation is sent. -/
theorem live_identity_clears_lost_resolve :
    let s := after [.reserve "draft",.resolveTransaction transaction,.liveIdentity] start
    s.guard = .ready 2 ∧
      (∃ sent ∈ s.ledger, sent.mutation = .transactionResolve transaction ∧ sent.decided = false) ∧
      (perform link (.cancel "B-1" "draft") s).visits.map Prod.fst = [.cancel "B-1" "draft"] := by
  decide +kernel

end ClientSample

end KernAid.Broker
