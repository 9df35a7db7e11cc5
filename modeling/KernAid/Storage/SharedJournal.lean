import KernAid.Storage.Calls

/-! One journal under any number of handles whose calls do not overlap. A call may fail anywhere; a handle
that a crash takes with it makes no further call. -/

set_option autoImplicit false

namespace KernAid.Storage

open CrashLogic Encoding Relation

/-- What `head`, `first_entry`, `entries` and `replay` give to a verified reading. -/
structure Reading (ε α σ : Type) where
  wrap : JournalError → ε
  check : Except JournalError Unit
  mode : ScanMode
  limits : Option JournalReplayLimits
  deliver : ChainScan → σ → Except ε α × σ
  faults : Faults
  state : σ

def Reading.head (journal : SecureJournal) (faults : Faults) : Reading JournalError JournalAnchor Unit :=
  ⟨id,.ok (),.none,none,fun scan _ => (.ok ⟨journal.journalId,scan.head.1,scan.head.2⟩,()),faults,()⟩

def Reading.firstEntry (faults : Faults) : Reading JournalError (Option JournalEntry) Unit :=
  ⟨id,.ok (),.first,none,fun scan _ => (.ok scan.entries.getLast?,()),faults,()⟩

def Reading.entries (faults : Faults) : Reading JournalError (List JournalEntry) Unit :=
  ⟨id,.ok (),.allBounded,none,fun scan _ => (.ok scan.entries,()),faults,()⟩

/-- The store, the handles open on it, and the entries whose appends returned. -/
structure Shared where
  disk : Disk
  handles : List SecureJournal
  returned : List JournalEntry

/-- The handle trusts a prefix of the entries, which may be out of date. -/
def Trusts (cipher : Cipher) (journalId : JournalId) (es : List JournalEntry)
    (journal : SecureJournal) : Prop :=
  journal.cipher = cipher ∧ journal.journalId = journalId ∧ ∃ seen, seen <+: es ∧
    journal.trustedHead = headAnchor journalId seen ∧
    journal.verifiedCiphertextBytes = ciphertextTotal seen

section Handles

variable {cipher : Cipher} {journalId : JournalId} {s s' : Shared} {es es' : List JournalEntry}
  {anchor expected : JournalAnchor} {journal : SecureJournal} {disk : Disk}
  {faults : Faults} {nonce : Nonce} {event : List UInt8}

theorem anchored_head : Anchored journalId es (headAnchor journalId es) :=
  ⟨rfl,le_refl _,prefixHash_length⟩

theorem Anchored.append (h : Anchored journalId es anchor) (e : JournalEntry) :
    Anchored journalId (es ++ [e]) anchor := by
  have hle := h.2.1
  refine ⟨h.1,by simp; omega,?_⟩
  rw [prefixHash_append, if_neg (by omega)]
  exact h.2.2

theorem Trusts.mono (h : Trusts cipher journalId es journal) (hle : es <+: es') :
    Trusts cipher journalId es' journal := by
  obtain ⟨hcipher,hid,seen,hseen,hrest⟩ := h
  exact ⟨hcipher,hid,seen,hseen.trans hle,hrest⟩

variable [Sha256Hasher]

def Reading.call {ε α σ : Type} (r : Reading ε α σ) : SecureJournal → Disk → Reply ε α σ :=
  withVerified r.wrap r.check r.mode r.limits r.deliver r.faults r.state

/-- A call of the handle, what it leaves of the store and the handle, and the entry it returns. -/
inductive Call (disk : Disk) (journal : SecureJournal) : Disk → SecureJournal →
    List JournalEntry → Prop where
  | read {ε α σ : Type} (r : Reading ε α σ) :
      Call disk journal (r.call journal disk).disk (r.call journal disk).journal []
  | append (faults : Faults) (nonce : Nonce) (expected : JournalAnchor) (event : List UInt8)
      (reply : Reply JournalError JournalEntry Unit) :
      journal.appendExpected faults nonce expected event disk = reply →
      Call disk journal reply.disk reply.journal reply.result.toOption.toList

inductive Step (cipher : Cipher) (journalId : JournalId) (s : Shared) : Shared → Prop where
  | opens : Step cipher journalId s { s with handles := s.handles ++ [.fresh cipher journalId] }
  | calls {i : Nat} {journal journal' : SecureJournal} {disk : Disk} {out : List JournalEntry} :
      s.handles[i]? = some journal → Call s.disk journal disk journal' out →
      Step cipher journalId s ⟨disk,s.handles.set i journal',s.returned ++ out⟩

abbrev Reachable (cipher : Cipher) (journalId : JournalId) :=
  { s : Shared // ReflTransGen (Step cipher journalId)
    ⟨⟨journalId,[],some (initialAnchor journalId)⟩,[],[]⟩ s }

structure Stored (cipher : Cipher) (journalId : JournalId) (disk : Disk) (es : List JournalEntry)
    (anchor : JournalAnchor) : Prop extends Holds cipher journalId disk.rows es where
  stored : disk.anchor = some anchor
  anchored : Anchored journalId es anchor

structure Coherent (cipher : Cipher) (journalId : JournalId) (s : Shared) (es : List JournalEntry)
    (anchor : JournalAnchor) : Prop extends Stored cipher journalId s.disk es anchor where
  trusts : ∀ journal ∈ s.handles, Trusts cipher journalId es journal
  returned : s.returned.Sublist es

/-- What a call leaves is coherent again, with entries and an anchor that have only moved forward. -/
def Leads (cipher : Cipher) (journalId : JournalId) (es : List JournalEntry) (anchor : JournalAnchor)
    (disk : Disk) (journal : SecureJournal) (out : List JournalEntry) : Prop :=
  ∃ es' anchor', es <+: es' ∧ anchor.sequence ≤ anchor'.sequence ∧
    Stored cipher journalId disk es' anchor' ∧
    Trusts cipher journalId es' journal ∧ (es ++ out).Sublist es'

theorem Stored.stay (h : Stored cipher journalId disk es anchor)
    (htrusts : Trusts cipher journalId es journal) :
    Leads cipher journalId es anchor disk journal [] :=
  ⟨es,anchor,List.prefix_rfl,le_refl _,h,htrusts,by simp⟩

theorem Stored.read (h : Stored cipher journalId disk es anchor)
    (htrusts : Trusts cipher journalId es journal) {ε α σ : Type} (r : Reading ε α σ) :
    Leads cipher journalId es anchor (r.call journal disk).disk (r.call journal disk).journal [] := by
  have hpoisoned : Trusts cipher journalId es journal.poisoned := htrusts
  unfold Reading.call withVerified
  split_ifs
  · exact h.stay htrusts
  split
  · exact h.stay htrusts
  split
  · exact h.stay hpoisoned
  split
  · exact h.stay htrusts
  rename_i scan lags hinspect
  obtain ⟨rfl,rfl,-⟩ := id htrusts
  obtain ⟨-,-,_,found,hverified,rfl,-⟩ := inspect_eq_ok.mp hinspect
  obtain rfl := hverified.links.unique h.links
  have hmoved : ∀ {j}, Trusts journal.cipher journal.journalId found j →
      Leads journal.cipher journal.journalId found anchor
        (if lags = true then disk.anchorAt (headAnchor journal.journalId found) else disk) j [] := by
    intro j hj
    split_ifs
    · exact ⟨found,_,List.prefix_rfl,h.anchored.2.1,⟨h.toHolds,rfl,anchored_head⟩,hj,by simp⟩
    · exact h.stay hj
  unfold settle
  split
  · exact h.stay htrusts
  dsimp only
  split
  · split
    · exact hmoved hpoisoned
    · exact h.stay hpoisoned
  split
  · exact hmoved htrusts
  · exact hmoved ⟨rfl,rfl,found,List.prefix_rfl,rfl,rfl⟩

/-- Only a handle whose head is up to date gets as far as the commit. -/
theorem Trusts.synced {p : Prepared} (h : Trusts cipher journalId es journal)
    (hholds : Holds cipher journalId disk.rows es)
    (hadmitted : admitAppend faults nonce expected event journal disk = .ok p) :
    Synced journal disk.rows es := by
  obtain ⟨rfl,rfl,seen,hseen,htrusted,hbytes⟩ := h
  have hstep := admitAppend_eq_ok hadmitted hholds.links hholds.count
  have hhead : headAnchor journal.journalId seen = headAnchor journal.journalId es := by
    rw [← htrusted, ← hstep.trusted, hstep.expects]
  obtain rfl := hseen.eq_of_length (congrArg JournalAnchor.sequence hhead)
  exact ⟨hholds,htrusted,hbytes⟩

theorem admitAppend_error {e : JournalError} {left : SecureJournal}
    (h : admitAppend faults nonce expected event journal disk = .error (e,left)) :
    left = journal ∨ left = journal.poisoned := by
  cases hprepared : prepareAppend faults nonce expected event journal disk <;>
    grind [admitAppend, Except.mapError]

theorem Stored.append (h : Stored cipher journalId disk es anchor)
    (htrusts : Trusts cipher journalId es journal) :
    let reply := journal.appendExpected faults nonce expected event disk
    Leads cipher journalId es anchor reply.disk reply.journal reply.result.toOption.toList := by
  have hpoisoned : Trusts cipher journalId es journal.poisoned := htrusts
  dsimp only
  unfold SecureJournal.appendExpected
  split
  · rename_i hrefused
    rcases admitAppend_error hrefused with rfl | rfl
    · exact h.stay htrusts
    · exact h.stay hpoisoned
  rename_i p hadmitted
  obtain ⟨hstep,hsynced⟩ := (htrusts.synced h.toHolds hadmitted).admitted hadmitted
  obtain ⟨rfl,rfl,-⟩ := htrusts
  have hle : es <+: es ++ [p.entry] := List.prefix_append _ _
  have hsome : (es ++ []).Sublist (es ++ [p.entry]) := by simp
  have hforward : anchor.sequence ≤ p.newAnchor.sequence := by
    rw [hstep.anchor]
    exact (h.anchored.append p.entry).2.1
  have hanchored : Stored journal.cipher journal.journalId ((disk.insert p.row).anchorAt p.newAnchor)
      (es ++ [p.entry]) p.newAnchor := ⟨hsynced.toHolds,rfl,hstep.anchor ▸ anchored_head⟩
  -- The handle of an append that fails from its commit on is poisoned, and trusts the head it had.
  have hcommitted : Leads journal.cipher journal.journalId es anchor
      (disk.insert p.row) journal.poisoned [] :=
    ⟨_,anchor,hle,le_refl _,⟨hsynced.toHolds,h.stored,h.anchored.append p.entry⟩,hpoisoned.mono hle,hsome⟩
  split
  · split
    · exact hcommitted
    · exact h.stay hpoisoned
  split
  · exact hcommitted
  split
  · split
    · exact ⟨_,_,hle,hforward,hanchored,hpoisoned.mono hle,hsome⟩
    · exact hcommitted
  · exact ⟨_,_,hle,hforward,hanchored,⟨rfl,rfl,_,List.prefix_rfl,hsynced.trusted,hsynced.bytes⟩,.refl _⟩

theorem Coherent.step (h : Coherent cipher journalId s es anchor) (hstep : Step cipher journalId s s') :
    ∃ es' anchor', es <+: es' ∧ anchor.sequence ≤ anchor'.sequence ∧
      Coherent cipher journalId s' es' anchor' := by
  cases hstep with
  | opens =>
    refine ⟨es,anchor,List.prefix_rfl,le_refl _,h.toStored,?_,h.returned⟩
    intro journal hjournal
    rcases List.mem_append.mp hjournal with hold | hnew
    · exact h.trusts journal hold
    · obtain rfl := List.mem_singleton.mp hnew
      exact ⟨rfl,rfl,[],List.nil_prefix,rfl,rfl⟩
  | @calls _ journal journal' disk out hjournal hcall =>
    have htrusts := h.trusts journal (List.mem_of_getElem? hjournal)
    have hleads : Leads cipher journalId es anchor disk journal' out := by
      cases hcall with
      | read r => exact h.toStored.read htrusts r
      | append faults nonce expected event reply hreply =>
        subst hreply
        exact h.toStored.append htrusts
    obtain ⟨es',anchor',hgrown,hle,hstored,htrusts',hout⟩ := hleads
    refine ⟨es',anchor',hgrown,hle,hstored,?_,(h.returned.append_right out).trans hout⟩
    intro other hother
    rcases List.mem_or_eq_of_mem_set hother with hold | rfl
    · exact (h.trusts other hold).mono hgrown
    · exact htrusts'

theorem Coherent.run (h : Coherent cipher journalId s es anchor)
    (hrun : ReflTransGen (Step cipher journalId) s s') :
    ∃ es' anchor', es <+: es' ∧ anchor.sequence ≤ anchor'.sequence ∧
      Coherent cipher journalId s' es' anchor' := by
  induction hrun with
  | refl => exact ⟨es,anchor,List.prefix_rfl,le_refl _,h⟩
  | tail _ hstep ih =>
    obtain ⟨es₁,anchor₁,hgrown,hle,hcoherent⟩ := ih
    obtain ⟨es₂,anchor₂,hgrown',hle',hcoherent'⟩ := hcoherent.step hstep
    exact ⟨es₂,anchor₂,hgrown.trans hgrown',hle.trans hle',hcoherent'⟩

/-- Whatever handles are opened and whichever of their calls fail, the rows are one chain of entries that
holds every entry whose append returned, in order. The chain only grows and the anchor only moves forward
along it, every successful reading is of this chain, and a handle opened now is never refused. -/
theorem shared_journal_keeps_every_entry (s : Reachable cipher journalId) :
    ∃ es anchor, Links cipher journalId 0 zero32 s.1.disk.rows es ∧
      es.map JournalEntry.sequence = List.range' 1 es.length ∧ s.1.returned.Sublist es ∧
      s.1.disk.anchor = some anchor ∧ Anchored journalId es anchor ∧
      (∀ (ε α σ : Type) (r : Reading ε α σ), ∀ journal ∈ s.1.handles, ∀ value,
        (r.call journal s.1.disk).result = .ok value →
        ∃ state, r.deliver (summary anchor.sequence r.mode es) r.state = (.ok value,state)) ∧
      (∀ journal ∈ s.1.handles, ∀ faults,
        (∀ found, (journal.firstEntry faults s.1.disk).result = .ok found → found = es.head?) ∧
        ∀ found, (journal.entries faults s.1.disk).result = .ok found → found = es) ∧
      ((SecureJournal.fresh cipher journalId).head .quiet s.1.disk).result =
        .ok (headAnchor journalId es) ∧
      ∀ s', ReflTransGen (Step cipher journalId) s.1 s' → ∃ es' anchor', es <+: es' ∧
        Links cipher journalId 0 zero32 s'.disk.rows es' ∧ s'.disk.anchor = some anchor' ∧
        anchor.sequence ≤ anchor'.sequence := by
  obtain ⟨s,hreached⟩ := s
  have hstart : Coherent cipher journalId ⟨⟨journalId,[],some (initialAnchor journalId)⟩,[],[]⟩ [] _ :=
    ⟨⟨⟨.nil _ _,by simp,by simp [ciphertextTotal]⟩,rfl,anchored_head⟩,by simp,.slnil⟩
  obtain ⟨es,anchor,-,-,h⟩ := hstart.run hreached
  have hread : ∀ (ε α σ : Type) (r : Reading ε α σ), ∀ journal ∈ s.handles, ∀ value,
      (r.call journal s.disk).result = .ok value →
      ∃ state, r.deliver (summary anchor.sequence r.mode es) r.state = (.ok value,state) := by
    intro ε α σ r journal hjournal value hresult
    obtain ⟨rfl,rfl,-⟩ := h.trusts journal hjournal
    obtain ⟨found,_,state,hverified,hdeliver,-⟩ := withVerified_eq_ok hresult
    obtain rfl := hverified.links.unique h.links
    obtain rfl := Option.some.inj (hverified.stored.symm.trans h.stored)
    exact ⟨state,hdeliver⟩
  refine ⟨es,anchor,h.links,h.links.sequences,h.returned,h.stored,h.anchored,hread,?_,?_,?_⟩
  · intro journal hjournal faults
    constructor
    · intro found hfound
      obtain ⟨_,hdeliver⟩ := hread _ _ _ (.firstEntry faults) journal hjournal found hfound
      cases hdeliver
      cases es <;> rfl
    · intro found hfound
      obtain ⟨_,hdeliver⟩ := hread _ _ _ (.entries faults) journal hjournal found hfound
      cases hdeliver
      rfl
  · have hinspect : inspect .quiet .none none (SecureJournal.fresh cipher journalId) s.disk =
        .ok (summary anchor.sequence .none es,decide (anchor.sequence ≠ es.length)) :=
      inspect_eq_ok.mpr ⟨rfl,rfl,anchor,es,
        ⟨h.links,⟨h.count,h.total,by simp,by simp⟩,h.stored,h.anchored⟩,rfl,rfl⟩
    rw [SecureJournal.head, withVerified.eq_def, if_neg (by simp [SecureJournal.fresh])]
    dsimp only
    rw [hinspect]
    dsimp only [settle, Faults.quiet]
    rw [ite_self]
    rfl
  · intro s' hrun
    obtain ⟨es',anchor',hgrown,hle,h'⟩ := h.run hrun
    exact ⟨es',anchor',hgrown,h'.links,h'.stored,hle⟩

end Handles

namespace JournalSample

/-- The handle verifies the journal and appends an event to it. -/
def append (s : Shared) (i : Nat) (nonce : Nonce) (event : List UInt8) : Shared :=
  match s.handles[i]? with
  | none => s
  | some journal =>
    let read := journal.head .quiet s.disk
    let reply := read.journal.appendExpected .quiet nonce read.journal.trustedHead event read.disk
    ⟨reply.disk,s.handles.set i reply.journal,s.returned ++ reply.result.toOption.toList⟩

theorem append_run (s : Shared) (i : Nat) (nonce : Nonce) (event : List UInt8) :
    ReflTransGen (Step cipher journalId) s (append s i nonce event) := by
  unfold append
  split
  · exact .refl
  · next journal hjournal =>
    have hread := @Step.calls _ cipher journalId _ _ _ _ _ _ hjournal (.read (.head journal .quiet))
    obtain ⟨hi,_⟩ := List.getElem?_eq_some_iff.mp hjournal
    let read := journal.head .quiet s.disk
    have happend : Step cipher journalId ⟨read.disk,s.handles.set i read.journal,s.returned⟩ _ :=
      .calls (List.getElem?_set_self hi) (.append .quiet nonce read.journal.trustedHead event _ rfl)
    rw [List.append_nil] at hread
    rw [List.set_set] at happend
    exact .tail (.single hread) happend

def twoAppends : Reachable cipher journalId :=
  ⟨append (append ⟨⟨journalId,[],some (initialAnchor journalId)⟩,
      [.fresh cipher journalId,.fresh cipher journalId],[]⟩ 0 (nonce 1) [1]) 1 (nonce 2) [2],
    ((ReflTransGen.single .opens).tail .opens).trans ((append_run _ _ _ _).trans (append_run _ _ _ _))⟩

/-- Two handles append one event each, and the rows hold both. -/
theorem shared_journal_keeps_two_entries :
    twoAppends.1.returned.map JournalEntry.event = [[1],[2]] ∧ twoAppends.1.disk.rows.length = 2 ∧
      ∃ es, Links cipher journalId 0 zero32 twoAppends.1.disk.rows es ∧ twoAppends.1.returned.Sublist es ∧
        ((SecureJournal.fresh cipher journalId).head .quiet twoAppends.1.disk).result =
          .ok (headAnchor journalId es) := by
  obtain ⟨es,_,hlinks,_,hreturned,_,_,_,_,hhead,_⟩ := shared_journal_keeps_every_entry twoAppends
  exact ⟨by decide +kernel,by decide +kernel,es,hlinks,hreturned,hhead⟩

end JournalSample

end KernAid.Storage
