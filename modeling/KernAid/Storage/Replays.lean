import KernAid.Storage.Calls

/-! A replay delivers what its first pass verified. -/

set_option autoImplicit false

namespace KernAid.Storage

open CrashLogic Encoding

variable {ε σ : Type}

/-- The callback on one entry after the other, until one fails. -/
def deliverAll (callback : σ → JournalEntry → Except ε Unit × σ) (state : σ) :
    List JournalEntry → Except ε Unit × σ
  | [] => (.ok (),state)
  | e :: es =>
    match callback state e with
    | (.error x,state') => (.error x,state')
    | (.ok (),state') => deliverAll callback state' es

theorem settle_delivered {α : Type} (wrap : JournalError → ε) (faults : Faults) (journal : SecureJournal)
    (disk : Disk) (scan : ChainScan) (lags : Bool) (value : α) (state : σ) :
    let reply := settle wrap faults journal disk scan lags (.ok value,state)
    reply.state = state ∧ (reply.result = .ok value ∨ ∃ e, reply.result = .error (wrap e)) ∧
      ((lags → faults.storing = none) → faults.committing = none → reply.result = .ok value) := by
  unfold settle
  dsimp only
  split
  · rename_i e kept hstoring
    refine ⟨rfl,.inr ⟨e,rfl⟩,?_⟩
    intro hnone _
    split_ifs at hstoring with hlags
    rw [hnone hlags] at hstoring
    cases hstoring
  split
  · rename_i hcommitting
    refine ⟨rfl,.inr ⟨_,rfl⟩,?_⟩
    intro _ hnone
    rw [hnone] at hcommitting
    cases hcommitting
  · exact ⟨rfl,.inl rfl,fun _ _ => rfl⟩

variable [Sha256Hasher] {cipher : Cipher} {journalId : JournalId} {n plaintextBytes bound : Nat}
  {previous : Bytes32} {row : Row} {rows : List Row} {e : JournalEntry}
  {es : List JournalEntry} {state : σ} {callback : σ → JournalEntry → Except ε Unit × σ}

theorem openRow_of_opens (h : row.Opens cipher journalId n previous e)
    (hcount : n + 1 ≤ maxJournalEntries) (hbound : plaintextBytes + e.event.length ≤ bound) :
    openRow cipher journalId bound (n,previous) plaintextBytes row = .ok e := by
  obtain ⟨hsequence,record,hrecord,hprevious,hevent,-,he⟩ := h
  rw [openRow, require_bind_eq_ok, require_bind_eq_ok, hrecord, ok_bind,
    require_bind_eq_ok, hevent, ok_bind, require_bind_eq_ok, pure_eq_ok_iff]
  exact ⟨hcount,hsequence,hprevious,hbound,by rw [hprevious, ← he]⟩

theorem replayRows_of_links (h : Links cipher journalId n previous rows es)
    (hcount : n + es.length ≤ maxJournalEntries) (hbound : plaintextBytes + plaintextTotal es ≤ bound) :
    let s := replayRows cipher journalId bound callback ((n,previous),plaintextBytes,state) rows
    s.1 = (deliverAll callback state es).1.mapError .callback ∧
      s.2.2.2 = (deliverAll callback state es).2 ∧ ((deliverAll callback state es).1 = .ok () →
        s.2.1 = (n + es.length,lastHash previous es) ∧ s.2.2.1 = plaintextBytes + plaintextTotal es) := by
  induction h generalizing plaintextBytes state with
  | nil n previous => exact ⟨rfl,rfl,fun _ => ⟨rfl,rfl⟩⟩
  | @cons n previous row rows e es hopens hlinks ih =>
    have htotal : plaintextTotal (e :: es) = e.event.length + plaintextTotal es := by
      simp [plaintextTotal]
    have hsequence : e.sequence = n + 1 := by rw [hopens.2.choose_spec.2.2.2.2]
    rw [List.length_cons] at hcount
    rw [htotal] at hbound
    have hopen : openRow cipher journalId bound (n,previous) plaintextBytes row = .ok e :=
      openRow_of_opens hopens (by omega) (by omega)
    simp only [replayRows, replayRow, hopen, deliverAll]
    rcases callback state e with ⟨x | u,state'⟩
    · exact ⟨rfl,rfl,by simp⟩
    · obtain ⟨hresult,hstate,hend⟩ := @ih (plaintextBytes + e.event.length) state' (by omega) (by omega)
      rw [hsequence, lastHash_cons, htotal, List.length_cons, ← Nat.add_assoc plaintextBytes,
        show n + (es.length + 1) = n + 1 + es.length by omega]
      exact ⟨hresult,hstate,hend⟩

theorem replayVerifiedChain_of_links {anchorSequence : Nat} {mode : ScanMode}
    (h : Links cipher journalId 0 zero32 rows es) (hcount : es.length ≤ maxJournalEntries) :
    replayVerifiedChain cipher journalId (summary anchorSequence mode es) callback rows state =
      ((deliverAll callback state es).1.mapError .callback,(deliverAll callback state es).2) := by
  have hrows := @replayRows_of_links _ _ _ _ _ 0 0
    (summary anchorSequence mode es).plaintextBytes zero32 rows es
    state callback h (by omega) (by simp [summary])
  rw [replayVerifiedChain]
  generalize replayRows cipher journalId (summary anchorSequence mode es).plaintextBytes callback
    ((0,zero32),0,state) rows = s at hrows ⊢
  obtain ⟨result,head,bytes,left⟩ := s
  obtain ⟨rfl,rfl,hend⟩ := hrows
  generalize deliverAll callback state es = delivered at hend ⊢
  obtain ⟨x | u,state'⟩ := delivered
  · rfl
  · obtain ⟨rfl,rfl⟩ := hend rfl
    simp [summary, Except.mapError]

/-- The conditions under which a replay begins to deliver. -/
def Replays (limits : JournalReplayLimits) (faults : Faults) (journal : SecureJournal) (disk : Disk)
    (scan : ChainScan) (lags : Bool) : Prop :=
  journal.healthy ∧ limits.maxSequence ≤ maxJournalEntries ∧
    limits.maxPlaintextBytes ≤ maxReplayPlaintextBytes ∧ faults.hardening = none ∧
    inspect faults .none (some limits) journal disk = .ok (scan,lags)

section

variable {limits : JournalReplayLimits} {faults : Faults} {journal : SecureJournal} {disk : Disk}
  {scan : ChainScan} {lags : Bool}

theorem replay_of_not_replays (callback : σ → JournalEntry → Except ε Unit × σ) (state : σ)
    (h : ∀ scan lags, ¬Replays limits faults journal disk scan lags) :
    ∃ e healthy, journal.replay limits callback faults state disk =
      ⟨.error (.journal e),state,{ journal with healthy := healthy },disk⟩ := by
  unfold SecureJournal.replay withVerified
  split_ifs with hhealthy
  · exact ⟨_,journal.healthy,rfl⟩
  split
  · exact ⟨_,journal.healthy,rfl⟩
  rename_i hlimits
  split
  · exact ⟨_,false,rfl⟩
  rename_i hhardening
  split
  · exact ⟨_,journal.healthy,rfl⟩
  rename_i scan lags hinspect
  obtain ⟨hsequence,hplaintext⟩ := require_eq_ok.mp hlimits
  exact absurd ⟨by simpa using hhealthy,hsequence,hplaintext,hhardening,hinspect⟩ (h scan lags)

theorem replay_of_replays (callback : σ → JournalEntry → Except ε Unit × σ) (state : σ)
    (h : Replays limits faults journal disk scan lags) :
    ∃ anchor es, Verified .none (some limits) journal disk anchor es ∧
      scan = summary anchor.sequence .none es ∧
      journal.replay limits callback faults state disk = settle .journal faults journal disk scan lags
        (((deliverAll callback state es).1.mapError .callback).map fun _ =>
          ⟨headAnchor journal.journalId es,es.length,plaintextTotal es⟩,
          (deliverAll callback state es).2) := by
  obtain ⟨hhealthy,hsequence,hplaintext,hhardening,hinspect⟩ := h
  obtain ⟨-,-,anchor,es,hverified,rfl,hlags⟩ := inspect_eq_ok.mp hinspect
  refine ⟨anchor,es,hverified,rfl,?_⟩
  have hcheck : require (limits.maxSequence ≤ maxJournalEntries ∧
      limits.maxPlaintextBytes ≤ maxReplayPlaintextBytes) JournalError.readLimitExceeded = .ok () :=
    require_eq_ok.mpr ⟨hsequence,hplaintext⟩
  rw [SecureJournal.replay, withVerified.eq_def, if_neg (by simp [hhealthy]),
    hcheck, hhardening, hinspect]
  dsimp only
  rw [if_pos (hverified.within.replayed limits rfl),
    replayVerifiedChain_of_links hverified.links hverified.within.count]
  rfl

end

/-- Nothing is delivered before the chain is verified against the anchor and the limits; then each entry
is, once and in order. Only a replay that succeeds moves the anchor or the trusted head, or gives back
an accumulator. -/
theorem replay_delivers_verified_chain (limits : JournalReplayLimits)
    (callback : σ → JournalEntry → Except ε Unit × σ) (faults : Faults) (state : σ)
    (journal : SecureJournal) (disk : Disk) :
    let reply := journal.replay limits callback faults state disk
    ((∀ scan lags, ¬Replays limits faults journal disk scan lags) →
      (∃ e, reply.result = .error (.journal e)) ∧ reply.state = state ∧ reply.disk = disk ∧
      reply.journal.trustedHead = journal.trustedHead) ∧
    (∀ scan lags, Replays limits faults journal disk scan lags → ∃ es,
      Links journal.cipher journal.journalId 0 zero32 disk.rows es ∧
      es.map JournalEntry.sequence = List.range' 1 scan.head.1 ∧
      (∀ anchorSequence all, scanChain journal.cipher journal.journalId anchorSequence .allBounded none
        disk.rows = .ok all → all.entries = es) ∧
      reply.state = (deliverAll callback state es).2 ∧
      (∀ x, (deliverAll callback state es).1 = .error x → reply.result = .error (.callback x)) ∧
      ((deliverAll callback state es).1 = .ok () → (lags → faults.storing = none) →
        faults.committing = none → ∃ summary, reply.result = .ok summary)) ∧
    (∀ x, reply.result = .error (.callback x) → reply.disk = disk ∧ reply.journal = journal) ∧
    (∀ e, reply.result = .error e → journal.fold limits state callback faults disk = .error e) ∧
    ∀ summary, reply.result = .ok summary →
      journal.fold limits state callback faults disk = .ok (reply.state,summary) ∧
      ∀ anchorSequence mode limits' scan,
        scanChain journal.cipher journal.journalId anchorSequence mode limits' disk.rows = .ok scan →
        summary = ⟨⟨journal.journalId,scan.head.1,scan.head.2⟩,scan.head.1,scan.plaintextBytes⟩ := by
  dsimp only
  refine ⟨?_,?_,?_,?_,?_⟩
  · intro hrefused
    obtain ⟨e,healthy,hreply⟩ := replay_of_not_replays callback state hrefused
    rw [hreply]
    exact ⟨⟨e,rfl⟩,rfl,rfl,rfl⟩
  · intro scan lags hreplays
    obtain ⟨anchor,es,hverified,rfl,hreply⟩ := replay_of_replays callback state hreplays
    have hunique : ∀ anchorSequence all, scanChain journal.cipher journal.journalId
      anchorSequence .allBounded
        none disk.rows = .ok all → all.entries = es := by
      intro anchorSequence all hall
      obtain ⟨es',hlinks,rfl,-⟩ := scanChain_eq_ok.mp hall
      exact hlinks.unique hverified.links
    refine ⟨es,hverified.links,hverified.links.sequences,hunique,?_⟩
    rw [hreply]
    obtain ⟨x | u,state'⟩ := deliverAll callback state es
    · exact ⟨rfl,by simp [settle, Except.mapError, Except.map],by simp⟩
    · obtain ⟨hstate,-,hok⟩ := settle_delivered JournalReplayError.journal faults journal disk
        (summary anchor.sequence .none es) lags _ state'
      exact ⟨hstate,by simp,fun _ hstoring hcommitting => ⟨_,hok hstoring hcommitting⟩⟩
  · intro x hx
    by_cases hreplays : ∃ scan lags, Replays limits faults journal disk scan lags
    · obtain ⟨scan,lags,hreplays⟩ := hreplays
      obtain ⟨anchor,es,hverified,rfl,hreply⟩ := replay_of_replays callback state hreplays
      rw [hreply] at hx ⊢
      generalize deliverAll callback state es = delivered at hx ⊢
      obtain ⟨y | u,state'⟩ := delivered
      · exact ⟨rfl,rfl⟩
      · obtain ⟨-,hresult | ⟨e,hresult⟩,-⟩ :=
          settle_delivered JournalReplayError.journal faults journal disk
          (summary anchor.sequence .none es) lags _ state'
        · cases hresult.symm.trans hx
        · cases hresult.symm.trans hx
    · push Not at hreplays
      obtain ⟨e,healthy,hreply⟩ := replay_of_not_replays callback state hreplays
      rw [hreply] at hx
      cases hx
  · intro e he
    rw [SecureJournal.fold, he]
    rfl
  · intro summary hsummary
    refine ⟨by rw [SecureJournal.fold, hsummary]; rfl,?_⟩
    intro anchorSequence mode limits' scan' hscan
    obtain ⟨es',hlinks,rfl,-⟩ := scanChain_eq_ok.mp hscan
    by_cases hreplays : ∃ scan lags, Replays limits faults journal disk scan lags
    · obtain ⟨scan,lags,hreplays⟩ := hreplays
      obtain ⟨anchor,es,hverified,rfl,hreply⟩ := replay_of_replays callback state hreplays
      obtain rfl := hlinks.unique hverified.links
      rw [hreply] at hsummary
      generalize deliverAll callback state es' = delivered at hsummary
      obtain ⟨y | u,state'⟩ := delivered
      · cases hsummary
      · obtain ⟨-,hresult | ⟨e,hresult⟩,-⟩ :=
          settle_delivered JournalReplayError.journal faults journal disk
          (Storage.summary anchor.sequence .none es') lags _ state'
        · exact (Except.ok.inj (hresult.symm.trans hsummary)).symm
        · cases hresult.symm.trans hsummary
    · push Not at hreplays
      obtain ⟨e,healthy,hreply⟩ := replay_of_not_replays callback state hreplays
      rw [hreply] at hsummary
      cases hsummary

end KernAid.Storage
