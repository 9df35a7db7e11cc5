import KernAid.CrashLogic
import KernAid.Encoding

/-! The encrypted audit journal: its rows in a database, its key and its last anchor in a secret store. -/

set_option autoImplicit false

namespace KernAid.Storage

open CrashLogic Encoding

abbrev JournalId := Vector UInt8 16

abbrev Nonce := Vector UInt8 24

def aeadTagBytes : Nat := 16

def maxEventBytes : Nat := 1024 * 1024

def maxJournalEntries : Nat := 1000000

def maxJournalCiphertextBytes : Nat := 8 * 1024 * 1024 * 1024

def maxReturnedPlaintextBytes : Nat := 16 * 1024 * 1024

def maxReturnedEntries : Nat := 10000

def maxReplayPlaintextBytes : Nat := maxJournalCiphertextBytes

structure JournalAnchor where
  journalId : JournalId
  sequence : Nat
  entryHash : Bytes32
  deriving DecidableEq

inductive JournalError where
  | database
  | secretStore
  | invalidPath
  | symlinkRejected
  | unsupportedFormat
  | missingKey
  | missingAnchor
  | secretStateConflict
  | authenticationFailed
  | corruptChain
  | rollbackDetected
  | eventTooLarge
  | journalTooLarge
  | sequenceOverflow
  | encryptionFailed
  | readLimitExceeded
  | unexpectedHead (expected actual : JournalAnchor)
  | poisoned
  deriving DecidableEq

/-- The cipher under one key. It is no part of the repository; it opens what it sealed, and a tag is
all that it adds. -/
structure Cipher where
  encrypt : Nonce → List UInt8 → List UInt8 → Option (List UInt8)
  decrypt : Nonce → List UInt8 → List UInt8 → Option (List UInt8)
  opens : ∀ nonce aad event sealed, encrypt nonce aad event = some sealed →
    decrypt nonce aad sealed = some event
  size : ∀ nonce aad event sealed, encrypt nonce aad event = some sealed →
    sealed.length = event.length + aeadTagBytes

structure Row where
  sequence : Int
  nonce : List UInt8
  ciphertext : List UInt8
  previousHash : List UInt8
  entryHash : List UInt8
  deriving DecidableEq

structure JournalEntry where
  sequence : Nat
  event : List UInt8
  previousHash : Bytes32
  entryHash : Bytes32
  deriving DecidableEq

/-- `try_into` for a byte array of fixed length. -/
def toArray (n : Nat) (bytes : List UInt8) : Option (Vector UInt8 n) :=
  if h : bytes.length = n then some ⟨bytes.toArray,by simpa using h⟩ else none

/-- The columns of a row once their lengths are checked. -/
structure Record where
  nonce : Nonce
  ciphertext : List UInt8
  previousHash : Bytes32
  entryHash : Bytes32

def Row.record (row : Row) : Except JournalError Record := do
  require (aeadTagBytes ≤ row.ciphertext.length ∧ row.ciphertext.length ≤ maxEventBytes + aeadTagBytes)
    .corruptChain
  let nonce ← okOr (toArray 24 row.nonce) .corruptChain
  let previousHash ← okOr (toArray 32 row.previousHash) .corruptChain
  let entryHash ← okOr (toArray 32 row.entryHash) .corruptChain
  pure ⟨nonce,row.ciphertext,previousHash,entryHash⟩

def associatedData (journalId : JournalId) (sequence : Nat) (previousHash : Bytes32) : List UInt8 :=
  asBytes "KERNAID-SECURE-JOURNAL-AAD-V2\x00" ++ (journalId.toList ++ (toBeBytes 8 sequence ++
    previousHash.toList))

def entryPreimage (journalId : JournalId) (sequence : Nat) (previousHash : Bytes32) (nonce : Nonce)
    (ciphertext : List UInt8) : List UInt8 :=
  asBytes "KERNAID-SECURE-JOURNAL-ENTRY-V2\x00" ++ (journalId.toList ++ (toBeBytes 8 sequence ++
    (previousHash.toList ++ (nonce.toList ++ (toBeBytes 8 ciphertext.length ++ ciphertext)))))

def initialAnchor (journalId : JournalId) : JournalAnchor := ⟨journalId,0,zero32⟩

variable [Sha256Hasher]

def hashEntry (journalId : JournalId) (sequence : Nat) (previousHash : Bytes32) (nonce : Nonce)
    (ciphertext : List UInt8) : Bytes32 :=
  Sha256Hasher.finalize (entryPreimage journalId sequence previousHash nonce ciphertext)

/-- The hash and the cipher's tag of a record at its place. -/
def Record.authenticate (cipher : Cipher) (journalId : JournalId) (sequence : Nat) (record : Record) :
    Except JournalError (List UInt8) := do
  require (record.entryHash =
    hashEntry journalId sequence record.previousHash record.nonce record.ciphertext) .corruptChain
  let plaintext ← okOr (cipher.decrypt record.nonce
    (associatedData journalId sequence record.previousHash) record.ciphertext) .authenticationFailed
  require (plaintext.length ≤ maxEventBytes) .corruptChain
  pure plaintext

inductive ScanMode where
  | none
  | first
  | allBounded
  deriving DecidableEq

structure JournalReplayLimits where
  maxSequence : Nat
  maxPlaintextBytes : Nat

/-- `ChainScan`, which is also the state of the loop: the head is the last row read. -/
structure ChainScan where
  head : Nat × Bytes32
  anchorPrefixHash : Option Bytes32
  ciphertextBytes : Nat
  plaintextBytes : Nat
  entries : List JournalEntry

section Scan

variable (cipher : Cipher) (journalId : JournalId) (anchorSequence : Nat) (mode : ScanMode)
  (limits : Option JournalReplayLimits)

/-- One turn of the loop. The totals stay far below 2^64, so an overflow is the limit's error. -/
def scanRow (scan : ChainScan) (row : Row) : Except JournalError ChainScan := do
  let sequence := scan.head.1 + 1
  require (sequence ≤ maxJournalEntries) .journalTooLarge
  require (∀ l ∈ limits, sequence ≤ l.maxSequence) .readLimitExceeded
  require (row.sequence = sequence) .corruptChain
  let record ← row.record
  let ciphertextBytes := scan.ciphertextBytes + record.ciphertext.length
  let plaintextBytes := scan.plaintextBytes + (record.ciphertext.length - aeadTagBytes)
  require (ciphertextBytes ≤ maxJournalCiphertextBytes) .journalTooLarge
  require (∀ l ∈ limits, plaintextBytes ≤ l.maxPlaintextBytes) .readLimitExceeded
  require (record.previousHash = scan.head.2) .corruptChain
  let plaintext ← record.authenticate cipher journalId sequence
  require (plaintext.length = record.ciphertext.length - aeadTagBytes) .corruptChain
  require (mode = .allBounded → sequence ≤ maxReturnedEntries ∧
    plaintextBytes ≤ maxReturnedPlaintextBytes) .readLimitExceeded
  pure {
    head := (sequence,record.entryHash)
    anchorPrefixHash := if sequence = anchorSequence then some record.entryHash else scan.anchorPrefixHash
    ciphertextBytes := ciphertextBytes
    plaintextBytes := plaintextBytes
    entries :=
      if mode = .allBounded ∨ mode = .first ∧ sequence = 1 then
        scan.entries ++ [⟨sequence,plaintext,record.previousHash,record.entryHash⟩]
      else scan.entries }

def scanStart : ChainScan := ⟨(0,zero32),if anchorSequence = 0 then some zero32 else none,0,0,[]⟩

/-- The rows are those of the query, in the order of their sequence numbers. -/
def scanChain (rows : List Row) : Except JournalError ChainScan :=
  rows.foldlM (scanRow cipher journalId anchorSequence mode limits) (scanStart anchorSequence)

end Scan

def validateAnchor (anchor : JournalAnchor) (scan : ChainScan) (journalId : JournalId) :
    Except JournalError Bool := do
  require (anchor.journalId = journalId) .rollbackDetected
  require (anchor.sequence ≤ scan.head.1) .rollbackDetected
  if anchor.sequence = scan.head.1 then do
    require (anchor.entryHash = scan.head.2) .rollbackDetected
    pure false
  else do
    require (scan.anchorPrefixHash = some anchor.entryHash) .rollbackDetected
    pure true

/-- The journal's part of the database, and its anchor in the secret store. -/
structure Disk where
  journalId : JournalId
  rows : List Row
  anchor : Option JournalAnchor

def Disk.anchorAt (disk : Disk) (anchor : JournalAnchor) : Disk := { disk with anchor := some anchor }

def Disk.insert (disk : Disk) (row : Row) : Disk := { disk with rows := disk.rows ++ [row] }

/-- The head as `validate_expected_head` reads it: the count, the ends and the last row only. -/
def actualHead (disk : Disk) (journalId : JournalId) : Except JournalError JournalAnchor := do
  let count := disk.rows.length
  require (count ≤ maxJournalEntries) .journalTooLarge
  match (disk.rows.map Row.sequence).min?, (disk.rows.map Row.sequence).max? with
  | none, none => do
    require (count = 0) .corruptChain
    pure (initialAnchor journalId)
  | some minimum, some maximum => do
    require (minimum = 1 ∧ maximum = count) .corruptChain
    let row ← okOr (disk.rows.find? fun row : Row => row.sequence = maximum) .database
    let entryHash ← okOr (toArray 32 row.entryHash) .corruptChain
    pure ⟨journalId,count,entryHash⟩
  | _, _ => .error .corruptChain

def validateExpectedHead (disk : Disk) (cipher : Cipher) (journalId : JournalId)
    (expected : JournalAnchor) : Except JournalError Unit := do
  require (expected.journalId = journalId ∧ disk.journalId = journalId) .rollbackDetected
  let actual ← actualHead disk journalId
  require (actual = expected ∨ expected.sequence < actual.sequence) .rollbackDetected
  require (actual = expected) (.unexpectedHead expected actual)
  if expected.sequence = 0 then require (expected.entryHash = zero32) .rollbackDetected
  else do
    let row ← okOr (disk.rows.find? fun row : Row => row.sequence = expected.sequence) .database
    let record ← row.record
    require (record.entryHash = expected.entryHash) .corruptChain
    let _ ← record.authenticate cipher journalId expected.sequence

structure SecureJournal where
  cipher : Cipher
  journalId : JournalId
  trustedHead : JournalAnchor
  verifiedCiphertextBytes : Nat
  healthy : Bool

/-- A handle of `open` before its first verification. -/
def SecureJournal.fresh (cipher : Cipher) (journalId : JournalId) : SecureJournal :=
  ⟨cipher,journalId,initialAnchor journalId,0,true⟩

/-- What the system around one call does: an error where there is one, and for a write that fails
whether it took effect all the same. -/
structure Faults where
  hardening : Option JournalError
  beginning : Option JournalError
  loading : Option JournalError
  committing : Option (JournalError × Bool)
  rehardening : Option JournalError
  storing : Option (JournalError × Bool)

def Faults.quiet : Faults := ⟨none,none,none,none,none,none⟩

/-- What a call returns and leaves; `state` is the state of its callback. -/
structure Reply (ε α σ : Type) where
  result : Except ε α
  state : σ
  journal : SecureJournal
  disk : Disk

def raise (fault : Option JournalError) : Except JournalError Unit :=
  match fault with
  | some e => .error e
  | none => .ok ()

def loadRequiredAnchor (faults : Faults) (disk : Disk) : Except JournalError JournalAnchor := do
  raise faults.loading
  okOr disk.anchor .missingAnchor

def inspect (faults : Faults) (mode : ScanMode) (limits : Option JournalReplayLimits)
    (journal : SecureJournal) (disk : Disk) : Except JournalError (ChainScan × Bool) := do
  raise faults.beginning
  let anchor ← loadRequiredAnchor faults disk
  let scan ← scanChain journal.cipher journal.journalId anchor.sequence mode limits disk.rows
  let lags ← validateAnchor anchor scan journal.journalId
  pure (scan,lags)

section Calls

variable {ε α σ : Type}

def SecureJournal.poisoned (journal : SecureJournal) : SecureJournal := { journal with healthy := false }

/-- The end of a verified reading: a lagging anchor is advanced once the delivery has succeeded. -/
def settle (wrap : JournalError → ε) (faults : Faults) (journal : SecureJournal) (disk : Disk)
    (scan : ChainScan) (lags : Bool) (delivered : Except ε α × σ) : Reply ε α σ :=
  match delivered with
  | (.error e,state) => ⟨.error e,state,journal,disk⟩
  | (.ok value,state) =>
    let verifiedHead : JournalAnchor := ⟨journal.journalId,scan.head.1,scan.head.2⟩
    let stored := if lags then disk.anchorAt verifiedHead else disk
    match if lags then faults.storing else none with
    | some (e,kept) =>
      ⟨.error (wrap e),state,journal.poisoned,if kept then stored else disk⟩
    | none =>
      match faults.committing with
      | some (e,_) => ⟨.error (wrap e),state,journal,stored⟩
      | none =>
        ⟨.ok value,state,{ journal with
          trustedHead := verifiedHead
          verifiedCiphertextBytes := scan.ciphertextBytes },stored⟩

def withVerified (wrap : JournalError → ε) (check : Except JournalError Unit) (mode : ScanMode)
    (limits : Option JournalReplayLimits) (deliver : ChainScan → σ → Except ε α × σ) (faults : Faults)
    (state : σ) (journal : SecureJournal) (disk : Disk) : Reply ε α σ :=
  if journal.healthy = false then ⟨.error (wrap .poisoned),state,journal,disk⟩
  else match check with
  | .error e => ⟨.error (wrap e),state,journal,disk⟩
  | .ok () =>
    match faults.hardening with
    | some e => ⟨.error (wrap e),state,journal.poisoned,disk⟩
    | none =>
      match inspect faults mode limits journal disk with
      | .error e => ⟨.error (wrap e),state,journal,disk⟩
      | .ok (scan,lags) => settle wrap faults journal disk scan lags (deliver scan state)

def SecureJournal.head (faults : Faults) (journal : SecureJournal) (disk : Disk) :
    Reply JournalError JournalAnchor Unit :=
  withVerified id (.ok ()) .none none
    (fun scan _ => (.ok ⟨journal.journalId,scan.head.1,scan.head.2⟩,())) faults () journal disk

def SecureJournal.firstEntry (faults : Faults) (journal : SecureJournal) (disk : Disk) :
    Reply JournalError (Option JournalEntry) Unit :=
  withVerified id (.ok ()) .first none (fun scan _ => (.ok scan.entries.getLast?,())) faults
    () journal disk

def SecureJournal.entries (faults : Faults) (journal : SecureJournal) (disk : Disk) :
    Reply JournalError (List JournalEntry) Unit :=
  withVerified id (.ok ()) .allBounded none (fun scan _ => (.ok scan.entries,())) faults () journal disk

inductive JournalReplayError (ε : Type) where
  | journal (error : JournalError)
  | callback (error : ε)

structure JournalReplaySummary where
  head : JournalAnchor
  entries : Nat
  plaintextBytes : Nat

/-- The state of the second loop: the last row read, the plaintext so far, the callback's own state. -/
abbrev Replayed (σ : Type) := (Nat × Bytes32) × Nat × σ

/-- A turn of the loop of `replay_verified_chain` up to the callback. -/
def openRow (cipher : Cipher) (journalId : JournalId) (verifiedPlaintextBytes : Nat)
    (head : Nat × Bytes32) (plaintextBytes : Nat) (row : Row) : Except JournalError JournalEntry := do
  let sequence := head.1 + 1
  require (sequence ≤ maxJournalEntries) .journalTooLarge
  require (row.sequence = sequence) .corruptChain
  let record ← row.record
  require (record.previousHash = head.2) .corruptChain
  let plaintext ← record.authenticate cipher journalId sequence
  require (plaintextBytes + plaintext.length ≤ verifiedPlaintextBytes) .corruptChain
  pure ⟨sequence,plaintext,record.previousHash,record.entryHash⟩

def replayRow (cipher : Cipher) (journalId : JournalId) (verifiedPlaintextBytes : Nat)
    (callback : σ → JournalEntry → Except ε Unit × σ) (s : Replayed σ) (row : Row) :
    Except (JournalReplayError ε) Unit × Replayed σ :=
  match openRow cipher journalId verifiedPlaintextBytes s.1 s.2.1 row with
  | .error e => (.error (.journal e),s)
  | .ok entry =>
    match callback s.2.2 entry with
    | (.error e,state) => (.error (.callback e),s.1,s.2.1,state)
    | (.ok (),state) => (.ok (),(entry.sequence,entry.entryHash),s.2.1 + entry.event.length,state)

def replayRows (cipher : Cipher) (journalId : JournalId) (verifiedPlaintextBytes : Nat)
    (callback : σ → JournalEntry → Except ε Unit × σ) (s : Replayed σ) :
    List Row → Except (JournalReplayError ε) Unit × Replayed σ
  | [] => (.ok (),s)
  | row :: rows =>
    match replayRow cipher journalId verifiedPlaintextBytes callback s row with
    | (.error e,s') => (.error e,s')
    | (.ok (),s') => replayRows cipher journalId verifiedPlaintextBytes callback s' rows

def replayVerifiedChain (cipher : Cipher) (journalId : JournalId) (scan : ChainScan)
    (callback : σ → JournalEntry → Except ε Unit × σ) (rows : List Row) (state : σ) :
    Except (JournalReplayError ε) Unit × σ :=
  match replayRows cipher journalId scan.plaintextBytes callback ((0,zero32),0,state) rows with
  | (.error e,s) => (.error e,s.2.2)
  | (.ok (),s) =>
    if s.1 = scan.head ∧ s.2.1 = scan.plaintextBytes then (.ok (),s.2.2)
    else (.error (.journal .corruptChain),s.2.2)

def SecureJournal.replay (limits : JournalReplayLimits) (callback : σ → JournalEntry → Except ε Unit × σ)
    (faults : Faults) (state : σ) (journal : SecureJournal) (disk : Disk) :
    Reply (JournalReplayError ε) JournalReplaySummary σ :=
  withVerified .journal
    (require (limits.maxSequence ≤ maxJournalEntries ∧ limits.maxPlaintextBytes ≤ maxReplayPlaintextBytes)
      .readLimitExceeded)
    .none (some limits)
    (fun scan state =>
      if scan.head.1 ≤ limits.maxSequence ∧ scan.plaintextBytes ≤ limits.maxPlaintextBytes then
        let (result,state) :=
          replayVerifiedChain journal.cipher journal.journalId scan callback disk.rows state
        (result.map fun _ => ⟨⟨journal.journalId,scan.head.1,scan.head.2⟩,
          scan.head.1,scan.plaintextBytes⟩,state)
      else (.error (.journal .readLimitExceeded),state))
    faults state journal disk

/-- The accumulator is the callback's state and is given back only on success. -/
def SecureJournal.fold (limits : JournalReplayLimits) (accumulator : σ)
    (callback : σ → JournalEntry → Except ε Unit × σ) (faults : Faults) (journal : SecureJournal)
    (disk : Disk) : Except (JournalReplayError ε) (σ × JournalReplaySummary) :=
  let reply := journal.replay limits callback faults accumulator disk
  reply.result.map fun summary => (reply.state,summary)

end Calls

/-- What an append is about to commit: the row, the anchor and the total that follow, the entry. -/
structure Prepared where
  row : Row
  newAnchor : JournalAnchor
  newCiphertextBytes : Nat
  entry : JournalEntry

def prepareAppend (faults : Faults) (nonce : Nonce) (expected : JournalAnchor) (event : List UInt8)
    (journal : SecureJournal) (disk : Disk) : Except JournalError Prepared := do
  raise faults.beginning
  let anchor ← loadRequiredAnchor faults disk
  require (anchor.journalId = journal.journalId) .rollbackDetected
  require (anchor = expected) (.unexpectedHead expected anchor)
  validateExpectedHead disk journal.cipher journal.journalId expected
  let sequence := expected.sequence + 1
  require (sequence ≤ maxJournalEntries) .journalTooLarge
  let ciphertext ← okOr (journal.cipher.encrypt nonce
    (associatedData journal.journalId sequence expected.entryHash) event) .encryptionFailed
  let newCiphertextBytes := journal.verifiedCiphertextBytes + ciphertext.length
  require (newCiphertextBytes ≤ maxJournalCiphertextBytes) .journalTooLarge
  let entryHash := hashEntry journal.journalId sequence expected.entryHash nonce ciphertext
  -- The nonce column is unique.
  require (∀ row ∈ disk.rows, row.nonce ≠ nonce.toList) .database
  pure ⟨⟨sequence,nonce.toList,ciphertext,expected.entryHash.toList,entryHash.toList⟩,
    ⟨journal.journalId,sequence,entryHash⟩,newCiphertextBytes,
    ⟨sequence,event,expected.entryHash,entryHash⟩⟩

/-- An append up to its commit. Only a failed hardening leaves the journal poisoned. -/
def admitAppend (faults : Faults) (nonce : Nonce) (expected : JournalAnchor) (event : List UInt8)
    (journal : SecureJournal) (disk : Disk) : Except (JournalError × SecureJournal) Prepared :=
  if journal.healthy = false then .error (.poisoned,journal)
  else if maxEventBytes < event.length then .error (.eventTooLarge,journal)
  else match faults.hardening with
  | some e => .error (e,journal.poisoned)
  | none =>
    if expected ≠ journal.trustedHead then .error (.unexpectedHead expected journal.trustedHead,journal)
    else (prepareAppend faults nonce expected event journal disk).mapError fun e => (e,journal)

def SecureJournal.appendExpected (faults : Faults) (nonce : Nonce) (expected : JournalAnchor)
    (event : List UInt8) (journal : SecureJournal) (disk : Disk) : Reply JournalError JournalEntry Unit :=
  match admitAppend faults nonce expected event journal disk with
  | .error (e,left) => ⟨.error e,(),left,disk⟩
  | .ok p =>
    let committed := disk.insert p.row
    let anchored := committed.anchorAt p.newAnchor
    match faults.committing with
    | some (e,durable) =>
      ⟨.error e,(),journal.poisoned,if durable then committed else disk⟩
    | none =>
      match faults.rehardening with
      | some e => ⟨.error e,(),journal.poisoned,committed⟩
      | none =>
        match faults.storing with
        | some (e,kept) =>
          ⟨.error e,(),journal.poisoned,if kept then anchored else committed⟩
        | none =>
          ⟨.ok p.entry,(),{ journal with
            trustedHead := p.newAnchor
            verifiedCiphertextBytes := p.newCiphertextBytes },anchored⟩

end KernAid.Storage
