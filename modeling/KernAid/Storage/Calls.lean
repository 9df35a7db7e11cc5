import KernAid.Storage.Chain

/-! What the calls of a journal do to its rows, its anchor and the head it trusts. -/

set_option autoImplicit false

namespace KernAid.Storage

open CrashLogic Encoding

def headAnchor (journalId : JournalId) (es : List JournalEntry) : JournalAnchor :=
  ⟨journalId,es.length,lastHash zero32 es⟩

def Anchored (journalId : JournalId) (es : List JournalEntry) (anchor : JournalAnchor) : Prop :=
  anchor.journalId = journalId ∧ anchor.sequence ≤ es.length ∧
    prefixHash es anchor.sequence = some anchor.entryHash

section Anchors

variable {journalId : JournalId} {es : List JournalEntry} {anchor : JournalAnchor} {lags : Bool}
  {mode : ScanMode}

theorem prefixHash_length : prefixHash es es.length = some (lastHash zero32 es) := by
  rcases List.eq_nil_or_concat es with rfl | ⟨init,e,rfl⟩
  · rfl
  · rw [List.concat_eq_append, prefixHash_append, lastHash_append]
    simp

theorem Anchored.eq_head (h : Anchored journalId es anchor) (hlength : anchor.sequence = es.length) :
    anchor = headAnchor journalId es := by
  obtain ⟨id,sequence,hash⟩ := anchor
  obtain ⟨rfl,-,hnames⟩ := h
  simp only at hlength
  subst hlength
  rw [prefixHash_length] at hnames
  rw [headAnchor, Option.some.inj hnames]

theorem validateAnchor_eq_ok :
    validateAnchor anchor (summary anchor.sequence mode es) journalId = .ok lags ↔
      Anchored journalId es anchor ∧ lags = decide (anchor.sequence ≠ es.length) := by
  simp only [validateAnchor, require_bind_eq_ok]
  change _ ∧ anchor.sequence ≤ es.length ∧ (if anchor.sequence = es.length then _ else _) = _ ↔ _
  by_cases hlength : anchor.sequence = es.length
  · rw [if_pos hlength, require_bind_eq_ok, pure_eq_ok_iff, Anchored]
    have hnames : anchor.entryHash = (summary anchor.sequence mode es).head.2 ↔
        prefixHash es anchor.sequence = some anchor.entryHash := by
      rw [hlength, prefixHash_length, Option.some.injEq]
      exact eq_comm
    rw [hnames, decide_eq_false (not_not.mpr hlength), eq_comm]
    tauto
  · rw [if_neg hlength, require_bind_eq_ok, pure_eq_ok_iff, Anchored, decide_eq_true hlength,
      eq_comm (a := true)]
    change _ ∧ _ ∧ prefixHash es anchor.sequence = some anchor.entryHash ∧ _ ↔ _
    tauto

end Anchors

section Calls

variable [Sha256Hasher] {journal : SecureJournal} {disk : Disk} {faults : Faults} {mode : ScanMode}
  {limits : Option JournalReplayLimits} {es : List JournalEntry}

/-- The rows hold the entries and keep the limits of a scan, and the anchor names a prefix of them. -/
structure Verified (mode : ScanMode) (limits : Option JournalReplayLimits) (journal : SecureJournal)
    (disk : Disk) (anchor : JournalAnchor) (es : List JournalEntry) : Prop where
  links : Links journal.cipher journal.journalId 0 zero32 disk.rows es
  within : Within mode limits (summary anchor.sequence mode es)
  stored : disk.anchor = some anchor
  anchored : Anchored journal.journalId es anchor

theorem inspect_eq_ok {scan : ChainScan} {lags : Bool} :
    inspect faults mode limits journal disk = .ok (scan,lags) ↔
      faults.beginning = none ∧ faults.loading = none ∧ ∃ anchor es,
        Verified mode limits journal disk anchor es ∧ scan = summary anchor.sequence mode es ∧
        lags = decide (anchor.sequence ≠ es.length) := by
  have hraise : ∀ {fault : Option JournalError}, raise fault = .ok () ↔ fault = none := by
    intro fault
    cases fault <;> simp [raise]
  simp only [inspect, loadRequiredAnchor, bind_ok_iff, hraise, okOr_eq_ok, exists_const, pure_eq_ok_iff,
    scanChain_eq_ok, Prod.mk.injEq]
  constructor
  · rintro ⟨hbeginning,anchor,⟨hloading,hanchor⟩,_,⟨es,hlinks,rfl,hwithin⟩,_,hvalid,rfl,rfl⟩
    obtain ⟨hanchored,hlags⟩ := validateAnchor_eq_ok.mp hvalid
    exact ⟨hbeginning,hloading,anchor,es,⟨hlinks,hwithin,hanchor,hanchored⟩,rfl,hlags⟩
  · rintro ⟨hbeginning,hloading,anchor,es,hverified,rfl,hlags⟩
    exact ⟨hbeginning,anchor,⟨hloading,hverified.stored⟩,_,⟨es,hverified.links,rfl,hverified.within⟩,lags,
      validateAnchor_eq_ok.mpr ⟨hverified.anchored,hlags⟩,rfl,rfl⟩

/-- A reading that succeeds has verified the rows, and leaves the anchor at their head. -/
theorem withVerified_eq_ok {ε α σ : Type} {wrap : JournalError → ε} {check : Except JournalError Unit}
    {deliver : ChainScan → σ → Except ε α × σ} {state : σ} {value : α}
    (h : (withVerified wrap check mode limits deliver faults state journal disk).result = .ok value) :
    ∃ anchor es state', Verified mode limits journal disk anchor es ∧
      deliver (summary anchor.sequence mode es) state = (.ok value,state') ∧
      withVerified wrap check mode limits deliver faults state journal disk =
        ⟨.ok value,state',{ journal with
          trustedHead := headAnchor journal.journalId es
          verifiedCiphertextBytes := ciphertextTotal es },
          disk.anchorAt (headAnchor journal.journalId es)⟩ := by
  revert h
  unfold withVerified
  split_ifs
  · exact fun h => by cases h
  split
  · exact fun h => by cases h
  split
  · exact fun h => by cases h
  split
  · exact fun h => by cases h
  rename_i scan lags hinspect
  obtain ⟨-,-,anchor,es,hverified,rfl,hlags⟩ := inspect_eq_ok.mp hinspect
  -- A reading that finds the anchor at the head leaves it there.
  have hstored : (if lags = true then disk.anchorAt ⟨journal.journalId,
      (summary anchor.sequence mode es).head.1,(summary anchor.sequence mode es).head.2⟩ else disk) =
      disk.anchorAt (headAnchor journal.journalId es) := by
    split_ifs with hlag
    · rfl
    · rw [hlags, decide_eq_true_eq, not_not] at hlag
      rw [← hverified.anchored.eq_head hlag, Disk.anchorAt, ← hverified.stored]
  unfold settle
  split
  · exact fun h => by cases h
  rename_i hdeliver
  dsimp only
  rw [hstored]
  split
  · exact fun h => by cases h
  split
  · exact fun h => by cases h
  intro h
  obtain rfl := Except.ok.inj h
  exact ⟨anchor,es,_,hverified,hdeliver,rfl⟩

section Appends

variable {nonce : Nonce} {expected : JournalAnchor} {event : List UInt8} {p : Prepared}

structure Admitted (nonce : Nonce) (expected : JournalAnchor) (event : List UInt8)
    (journal : SecureJournal) (disk : Disk) (p : Prepared) (es : List JournalEntry) : Prop where
  healthy : journal.healthy
  trusted : expected = journal.trustedHead
  expects : expected = headAnchor journal.journalId es
  stored : disk.anchor = some expected
  payload : p.entry.event = event
  anchor : p.newAnchor = headAnchor journal.journalId (es ++ [p.entry])
  opens : p.row.Opens journal.cipher journal.journalId es.length (lastHash zero32 es) p.entry
  sealed : journal.cipher.encrypt nonce
    (associatedData journal.journalId (es.length + 1) (lastHash zero32 es)) event = some p.row.ciphertext
  count : es.length + 1 ≤ maxJournalEntries
  bytes : p.newCiphertextBytes = journal.verifiedCiphertextBytes + (event.length + aeadTagBytes)
  total : p.newCiphertextBytes ≤ maxJournalCiphertextBytes

theorem admitAppend_eq_ok (h : admitAppend faults nonce expected event journal disk = .ok p)
    (hlinks : Links journal.cipher journal.journalId 0 zero32 disk.rows es)
    (hcount : es.length ≤ maxJournalEntries) : Admitted nonce expected event journal disk p es := by
  revert h
  unfold admitAppend
  split
  · exact fun h => by cases h
  rename_i hhealthy
  split
  · exact fun h => by cases h
  rename_i hsize
  split
  · exact fun h => by cases h
  split
  · exact fun h => by cases h
  rename_i htrusted
  rw [not_not] at htrusted
  cases hprepared : prepareAppend faults nonce expected event journal disk with
  | error e => exact fun h => by cases h
  | ok q =>
  intro h
  obtain rfl := Except.ok.inj h
  obtain ⟨_,-,h⟩ := bind_ok_iff.mp hprepared
  obtain ⟨anchor,hanchor,h⟩ := bind_ok_iff.mp h
  obtain ⟨_,-,hstored⟩ := bind_ok_iff.mp hanchor
  simp only [require_bind_eq_ok] at h
  obtain ⟨-,rfl,h⟩ := h
  obtain ⟨_,hvalid,h⟩ := bind_ok_iff.mp h
  simp only [require_bind_eq_ok, okOr_bind_eq_ok, pure_eq_ok_iff] at h
  obtain ⟨hnext,ciphertext,hsealed,htotal,-,rfl⟩ := h
  obtain ⟨-,rfl⟩ := (validateExpectedHead_eq_ok hlinks hcount).mp hvalid
  have hlength := journal.cipher.size _ _ _ _ hsealed
  refine ⟨by simpa using hhealthy,htrusted,rfl,okOr_eq_ok.mp hstored,rfl,?_,?_,hsealed,hnext,?_,htotal⟩
  · simp [headAnchor, lastHash_append]
  · refine ⟨rfl,⟨nonce,ciphertext,lastHash zero32 es,_⟩,Row.record_eq_ok.mpr
      ⟨?_,toArray_eq_some.mpr rfl,toArray_eq_some.mpr rfl,toArray_eq_some.mpr rfl,rfl⟩,rfl,?_,
      hlength.symm,rfl⟩
    · dsimp only
      omega
    · rw [Record.authenticate]
      simp only [require_bind_eq_ok, okOr_bind_eq_ok, pure_eq_ok_iff]
      exact ⟨rfl,event,journal.cipher.opens _ _ _ _ hsealed,by omega,rfl⟩
  · dsimp only
    rw [hlength]

end Appends

/-- The rows hold the entries, within the limits of a scan that returns none of them. -/
structure Holds (cipher : Cipher) (journalId : JournalId) (rows : List Row) (es : List JournalEntry) :
    Prop where
  links : Links cipher journalId 0 zero32 rows es
  count : es.length ≤ maxJournalEntries
  total : ciphertextTotal es ≤ maxJournalCiphertextBytes

structure Synced (journal : SecureJournal) (rows : List Row) (es : List JournalEntry) : Prop extends
    Holds journal.cipher journal.journalId rows es where
  trusted : journal.trustedHead = headAnchor journal.journalId es
  bytes : journal.verifiedCiphertextBytes = ciphertextTotal es

theorem Verified.holds {anchor : JournalAnchor} (h : Verified mode limits journal disk anchor es) :
    Holds journal.cipher journal.journalId disk.rows es :=
  ⟨h.links,h.within.count,h.within.ciphertext⟩

theorem Holds.scanChain (h : Holds journal.cipher journal.journalId disk.rows es) (anchorSequence : Nat)
    (hmode : mode ≠ .allBounded) :
    scanChain journal.cipher journal.journalId anchorSequence mode none disk.rows =
      .ok (summary anchorSequence mode es) :=
  scanChain_eq_ok.mpr ⟨es,h.links,rfl,⟨h.count,h.total,by simp,fun h => absurd h hmode⟩⟩

theorem Synced.admitted {nonce : Nonce} {expected : JournalAnchor} {event : List UInt8} {p : Prepared}
    (h : Synced journal disk.rows es)
    (hadmitted : admitAppend faults nonce expected event journal disk = .ok p) :
    Admitted nonce expected event journal disk p es ∧
      Synced { journal with
        trustedHead := p.newAnchor
        verifiedCiphertextBytes := p.newCiphertextBytes } (disk.rows ++ [p.row]) (es ++ [p.entry]) := by
  have hstep := admitAppend_eq_ok hadmitted h.links h.count
  have htotal : p.newCiphertextBytes = ciphertextTotal (es ++ [p.entry]) := by
    rw [hstep.bytes, h.bytes, ← hstep.payload]
    simp [ciphertextTotal]
  refine ⟨hstep,⟨links_append_row.mpr ⟨es,p.entry,rfl,h.links,?_⟩,?_,htotal ▸ hstep.total⟩,
    hstep.anchor,htotal⟩
  · rw [Nat.zero_add]
    exact hstep.opens
  · simpa using hstep.count

theorem Synced.append {nonce : Nonce} {expected : JournalAnchor} {event : List UInt8}
    {entry : JournalEntry} (h : Synced journal disk.rows es)
    (hresult : (journal.appendExpected faults nonce expected event disk).result = .ok entry) :
    let reply := journal.appendExpected faults nonce expected event disk
    Synced reply.journal reply.disk.rows (es ++ [entry]) ∧
      reply.disk.anchor = some reply.journal.trustedHead ∧
      reply.journal.cipher = journal.cipher ∧ reply.journal.journalId = journal.journalId := by
  revert hresult
  unfold SecureJournal.appendExpected
  split
  · exact fun h => by cases h
  rename_i p hadmitted
  split
  · exact fun h => by cases h
  split
  · exact fun h => by cases h
  split
  · exact fun h => by cases h
  intro hresult
  obtain rfl := Except.ok.inj hresult
  exact ⟨(h.admitted hadmitted).2,rfl,rfl,rfl⟩

/-- A journal beside the disk it last verified or appended to. -/
inductive Current : SecureJournal → Disk → Prop where
  | read {ε α σ : Type} (wrap : JournalError → ε) (check : Except JournalError Unit) (mode : ScanMode)
      (limits : Option JournalReplayLimits) (deliver : ChainScan → σ → Except ε α × σ) (faults : Faults)
      (state : σ) (journal : SecureJournal) (disk : Disk) (reply : Reply ε α σ) (value : α) :
      reply = withVerified wrap check mode limits deliver faults state journal disk →
      reply.result = .ok value → Current reply.journal reply.disk
  | append (faults : Faults) (nonce : Nonce) (expected : JournalAnchor) (event : List UInt8)
      {journal : SecureJournal} {disk : Disk} (entry : JournalEntry) : Current journal disk →
      (journal.appendExpected faults nonce expected event disk).result = .ok entry →
      Current (journal.appendExpected faults nonce expected event disk).journal
        (journal.appendExpected faults nonce expected event disk).disk

theorem Current.synced (h : Current journal disk) : ∃ es, Synced journal disk.rows es := by
  induction h with
  | read wrap check mode limits deliver faults state journal disk reply value hreply hresult =>
    subst hreply
    obtain ⟨anchor,es,state',hverified,-,hreply⟩ := withVerified_eq_ok hresult
    rw [hreply]
    exact ⟨es,hverified.holds,rfl,rfl⟩
  | append faults nonce expected event entry _ hresult ih =>
    obtain ⟨es,hsynced⟩ := ih
    exact ⟨_,(hsynced.append hresult).1⟩

theorem append_agrees_with_scan :
    (∀ (disk : Disk) (cipher : Cipher) (anchorSequence : Nat) (mode : ScanMode)
      (limits : Option JournalReplayLimits) (scan : ChainScan),
      scanChain cipher disk.journalId anchorSequence mode limits disk.rows = .ok scan →
      ∀ expected, validateExpectedHead disk cipher disk.journalId expected = .ok () ↔
        expected = ⟨disk.journalId,scan.head.1,scan.head.2⟩) ∧
    (∀ journal disk, Current journal disk → ∀ faults nonce expected event entry,
      (journal.appendExpected faults nonce expected event disk).result = .ok entry →
      let reply := journal.appendExpected faults nonce expected event disk
      reply.disk.anchor = some reply.journal.trustedHead ∧
      (∀ anchorSequence mode, mode ≠ .allBounded → ∃ scan,
        scanChain journal.cipher journal.journalId anchorSequence mode none reply.disk.rows = .ok scan ∧
        reply.journal.trustedHead = ⟨journal.journalId,scan.head.1,scan.head.2⟩ ∧
        scan.ciphertextBytes = reply.journal.verifiedCiphertextBytes) ∧
      (∃ es, Links journal.cipher journal.journalId 0 zero32 disk.rows es ∧
        Links journal.cipher journal.journalId 0 zero32 reply.disk.rows (es ++ [entry])) ∧
      ∀ anchorSequence before after,
        scanChain journal.cipher journal.journalId anchorSequence .allBounded none disk.rows =
          .ok before →
        scanChain journal.cipher journal.journalId anchorSequence .allBounded none
          reply.disk.rows = .ok after → after.entries = before.entries ++ [entry]) ∧
    ∀ (journal : SecureJournal) disk faults nonce expected event,
      (∀ p, admitAppend faults nonce expected event journal disk = .ok p →
        ∃ e, faults.committing = some (e,false)) →
      (∃ e, (journal.appendExpected faults nonce expected event disk).result = .error e) ∧
        (journal.appendExpected faults nonce expected event disk).disk = disk := by
  refine ⟨?_,?_,?_⟩
  · intro disk cipher anchorSequence mode limits scan hscan expected
    obtain ⟨es,hlinks,rfl,hwithin⟩ := scanChain_eq_ok.mp hscan
    rw [validateExpectedHead_eq_ok hlinks hwithin.count, eq_self, true_and]
    rfl
  · intro journal disk hcurrent faults nonce expected event entry hresult
    obtain ⟨es,hsynced⟩ := hcurrent.synced
    obtain ⟨hafter,hanchor,hcipher,hid⟩ := hsynced.append hresult
    have hholds := hcipher ▸ hid ▸ hafter.toHolds
    dsimp only
    refine ⟨hanchor,?_,⟨es,hsynced.links,hholds.links⟩,?_⟩
    · intro anchorSequence mode hmode
      refine ⟨_,hholds.scanChain anchorSequence hmode,?_,?_⟩
      · rw [hafter.trusted, hid]
        rfl
      · exact hafter.bytes.symm
    · intro anchorSequence before after hbefore hafter
      obtain ⟨es₁,hlinks₁,rfl,-⟩ := scanChain_eq_ok.mp hbefore
      obtain ⟨es₂,hlinks₂,rfl,-⟩ := scanChain_eq_ok.mp hafter
      obtain rfl := hlinks₁.unique hsynced.links
      exact hlinks₂.unique hholds.links
  · intro journal disk faults nonce expected event hstops
    unfold SecureJournal.appendExpected
    cases hadmitted : admitAppend faults nonce expected event journal disk with
    | error refusal => exact ⟨⟨_,rfl⟩,rfl⟩
    | ok p =>
      obtain ⟨e,hcommitting⟩ := hstops p hadmitted
      rw [hcommitting]
      exact ⟨⟨_,rfl⟩,rfl⟩

end Calls

namespace JournalSample

/-- A toy cipher: the event and sixteen zero bytes. -/
def cipher : Cipher where
  encrypt _ _ event := some (event ++ List.replicate aeadTagBytes 0)
  decrypt _ _ sealed := some (sealed.take (sealed.length - aeadTagBytes))
  opens := by
    intro nonce aad event sealed h
    cases h
    simp
  size := by
    intro nonce aad event sealed h
    cases h
    simp

/-- A toy digest: the number of bytes. -/
scoped instance hasher : Sha256Hasher := ⟨fun bytes => Vector.replicate 32 (UInt8.ofNat bytes.length)⟩

def journalId : JournalId := Vector.replicate 16 7

def nonce (n : UInt8) : Nonce := Vector.replicate 24 n

/-- An empty journal once its handle has read the head. -/
def opened : Reply JournalError JournalAnchor Unit :=
  (SecureJournal.fresh cipher journalId).head .quiet ⟨journalId,[],some (initialAnchor journalId)⟩

def appended : Reply JournalError JournalEntry Unit :=
  opened.journal.appendExpected .quiet (nonce 1) (initialAnchor journalId) [1,2,3] opened.disk

def entry : JournalEntry :=
  ⟨1,[1,2,3],zero32,hashEntry journalId 1 zero32 (nonce 1) ([1,2,3] ++ List.replicate aeadTagBytes 0)⟩

theorem first_append_agrees_with_scan :
    appended.result = .ok entry ∧ appended.journal.trustedHead.sequence = 1 ∧
      appended.disk.anchor = some appended.journal.trustedHead ∧
      ∃ scan, scanChain cipher journalId 0 .none none appended.disk.rows = .ok scan ∧
        appended.journal.trustedHead = ⟨journalId,scan.head.1,scan.head.2⟩ ∧
        scan.ciphertextBytes = appended.journal.verifiedCiphertextBytes := by
  have hopened : opened.result = .ok (initialAnchor journalId) := by decide +kernel
  have happended : appended.result = .ok entry := by decide +kernel
  have hcurrent : Current opened.journal opened.disk := Current.read id (.ok ()) .none none
    (fun scan _ => (.ok ⟨journalId,scan.head.1,scan.head.2⟩,())) .quiet () (.fresh cipher journalId)
    ⟨journalId,[],some (initialAnchor journalId)⟩ opened _ rfl hopened
  obtain ⟨hanchor,hscans,_⟩ := append_agrees_with_scan.2.1 _ _ hcurrent _ _ _ _ _ happended
  exact ⟨happended,by decide +kernel,hanchor,hscans 0 .none (by decide)⟩

end JournalSample

end KernAid.Storage
