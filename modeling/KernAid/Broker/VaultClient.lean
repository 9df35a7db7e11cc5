import KernAid.CrashLogic

/-! The broker's client of the Rescue vault: its state-version guard over a vault that may answer
anything. -/

set_option autoImplicit false

namespace KernAid.Broker

open CrashLogic Program

inductive ErrorToken where
  | absent
  | unprovisioned
  | locked
  | badPassphrase
  | mediaChanged
  | profileMismatch
  | staleState
  | fdRequired
  | fdForbidden
  | notAuthorized
  | rateLimited
  | busy
  | providerUnconfigured
  | reportTooLarge
  | ioFailed
  | rebootRequired
deriving DecidableEq, Repr

inductive RepairVaultClientError where
  | invalidInput
  | stateUnavailable
  | unavailable
  | timedOut
  | serverNotRoot
  | invalidTransport
  | protocol
  | pipeIoFailed
  | remote (token : ErrorToken)
  | reconciliationRequired
deriving DecidableEq, Repr

structure BackupStatus where
  reservationId : String
  backupSize : Nat
  expectedBackupSha256 : String
deriving DecidableEq, Repr

structure TransactionStatus where
  reservationId : String
  transactionBindingSha256 : String
deriving DecidableEq, Repr

structure RollbackStatus where
  rollbackId : String
  rollbackTransactionBindingSha256 : String
deriving DecidableEq, Repr

inductive TransactionSelector where
  | pendingSingleton
  | exact (reservationId transactionBindingSha256 : String)
deriving DecidableEq, Repr

inductive RollbackSelector where
  | pendingSingleton
  | exact (rollbackId rollbackTransactionBindingSha256 : String)
deriving DecidableEq, Repr

/-- The requests of the repair-broker role, over the drafts `D` of a reservation. -/
inductive Request (D : Type) where
  | reserve (draft : D)
  | persist (expected : BackupStatus)
  | status (expected : BackupStatus)
  | get (expected : BackupStatus)
  | cancel (reservationId draftBindingSha256 : String)
  | retire (expected : BackupStatus)
  | transactionStatus (selector : TransactionSelector)
  | transactionResolve (expected : TransactionStatus)
  | rollbackBegin (source : TransactionStatus) (rollbackId : String)
  | rollbackStatus (selector : RollbackSelector)
  | rollbackResolve (expected : RollbackStatus)
  | vaultLiveParent
deriving DecidableEq, Repr

inductive Success where
  | backupStatus (status : BackupStatus)
  | backup (status : BackupStatus)
  | released
  | transactionStatus (transaction : Option TransactionStatus)
  | transactionResolved (status : TransactionStatus)
  | rollbackBegun (status : RollbackStatus)
  | rollbackStatus (rollback : Option RollbackStatus)
  | rollbackResolved (status : RollbackStatus)
  | liveIdentity
deriving DecidableEq, Repr

structure Response where
  stateVersion : Nat
  outcome : Except ErrorToken Success
  hasDescriptor : Bool

structure ExchangeFailure where
  error : RepairVaultClientError
  requestMayHaveBeenSent : Bool

def Request.isMutation {D : Type} : Request D → Bool
  | .reserve _ => true
  | .persist _ => true
  | .cancel _ _ => true
  | .retire _ => true
  | .transactionResolve _ => true
  | .rollbackBegin _ _ => true
  | .rollbackResolve _ => true
  | _ => false

inductive VersionGuard where
  | uninitialized
  | ready (stateVersion : Nat)
  | reconciliationRequired (lastStateVersion : Nat)
deriving DecidableEq, Repr

namespace VersionGuard

def mutationVersion : VersionGuard → Except RepairVaultClientError Nat
  | .ready stateVersion => .ok stateVersion
  | .uninitialized => .error .stateUnavailable
  | .reconciliationRequired _ => .error .reconciliationRequired

def readVersion : VersionGuard → Except RepairVaultClientError Nat
  | .ready stateVersion => .ok stateVersion
  | .reconciliationRequired stateVersion => .ok stateVersion
  | .uninitialized => .error .stateUnavailable

def observeReadVersion (stateVersion : Nat) : VersionGuard → VersionGuard
  | .reconciliationRequired _ => .reconciliationRequired stateVersion
  | .ready _ => .ready stateVersion
  | .uninitialized => .uninitialized

def isAmbiguous : VersionGuard → Bool
  | .reconciliationRequired _ => true
  | _ => false

end VersionGuard

/-! What a reply decides. A mutation that was answered is decided by its answer; one whose answer was
lost is decided by a later answer about the same thing. -/

inductive Subject where
  | reservation (reservationId : String)
  | transaction (reservationId transactionBindingSha256 : String)
  | rollback (rollbackId : String)
deriving DecidableEq, Repr

def Request.subject {D : Type} : Request D → Option Subject
  | .persist expected => some (.reservation expected.reservationId)
  | .cancel reservationId _ => some (.reservation reservationId)
  | .retire expected => some (.reservation expected.reservationId)
  | .transactionResolve expected =>
    some (.transaction expected.reservationId expected.transactionBindingSha256)
  | .rollbackBegin _ rollbackId => some (.rollback rollbackId)
  | .rollbackResolve expected => some (.rollback expected.rollbackId)
  | _ => none

def Request.names {D : Type} : Request D → Option Subject
  | .status expected => some (.reservation expected.reservationId)
  | .get expected => some (.reservation expected.reservationId)
  | .transactionStatus (.exact reservationId transactionBindingSha256) =>
    some (.transaction reservationId transactionBindingSha256)
  | .rollbackStatus (.exact rollbackId _) => some (.rollback rollbackId)
  | _ => none

def definitive : Except ErrorToken Success → Bool
  | .ok _ => true
  | .error token => token = .absent

/-- What a reply is about: what its request names, or what a singleton lookup found. -/
def named {D : Type} : Request D → Except ErrorToken Success → Option Subject
  | .transactionStatus .pendingSingleton,.ok (.transactionStatus (some found)) =>
    some (.transaction found.reservationId found.transactionBindingSha256)
  | .rollbackStatus .pendingSingleton,.ok (.rollbackStatus (some found)) =>
    some (.rollback found.rollbackId)
  | request,outcome => if definitive outcome then request.names else none

def decides {D : Type} [DecidableEq D] (request : Request D) (outcome : Except ErrorToken Success)
    (mutation : Request D) : Bool :=
  match mutation with
  | .reserve draft => request = .reserve draft ∧ outcome.isOk
  | mutation => mutation.subject.isSome ∧ named request outcome = mutation.subject

structure Sent (D : Type) where
  mutation : Request D
  decided : Bool

def Sent.hear {D : Type} [DecidableEq D] (request : Request D) (outcome : Except ErrorToken Success)
    (sent : Sent D) : Sent D :=
  { sent with decided := sent.decided || decides request outcome sent.mutation }

def record {D : Type} [DecidableEq D] (request : Request D) (reply : Except ExchangeFailure Response)
    (ledger : List (Sent D)) : List (Sent D) :=
  match reply with
  | .ok response =>
    ledger.map (Sent.hear request response.outcome) ++
      (if request.isMutation then [⟨request,true⟩] else [])
  | .error failure =>
    if failure.requestMayHaveBeenSent && request.isMutation then ledger ++ [⟨request,false⟩] else ledger

/-- The client with the environment it talks to and the history of its mutations. -/
structure Session (E D : Type) where
  env : E
  guard : VersionGuard
  ambiguousReserve : Option D
  ledger : List (Sent D)

/-- The vault and the transport, over an environment that they may change as they like. -/
structure VaultLink (E D : Type) where
  digest : List UInt8 → String
  exchange : Nat → Request D → E → Except ExchangeFailure Response × E
  openPipe : E → Bool × E
  writePipe : List UInt8 → E → Except RepairVaultClientError Unit × E
  readPipe : Nat → E → Except RepairVaultClientError (List UInt8) × E

section Model

variable {E D α : Type} [DecidableEq D] (link : VaultLink E D)

abbrev Client (E D α : Type) : Type := Program (Request D) (Session E D) RepairVaultClientError α

def Session.fresh (D : Type) {E : Type} (env : E) : Session E D :=
  { env := env
    guard := .uninitialized
    ambiguousReserve := none
    ledger := [] }

def Session.exchanged (request : Request D) (reply : Except ExchangeFailure Response) (env : E)
    (s : Session E D) : Session E D :=
  { s with
    env := env
    ledger := record request reply s.ledger }

def exchangeOnce (expectedStateVersion : Nat) (request : Request D) :
    Client E D (Except ExchangeFailure Response) := fun s =>
  let (reply,env) := link.exchange expectedStateVersion request s.env
  ⟨[(request,s)],.ok reply,s.exchanged request reply env⟩

def ask (f : E → α × E) : Client E D α := fun s =>
  let (answer,env) := f s.env
  ⟨[],.ok answer,{ s with env := env }⟩

def Session.reconcile (stateVersion : Nat) (s : Session E D) : Session E D :=
  { s with guard := .ready stateVersion }

def Session.markAmbiguous (lastStateVersion : Nat) (s : Session E D) : Session E D :=
  { s with guard := .reconciliationRequired lastStateVersion }

def Session.observeReadVersion (stateVersion : Nat) (s : Session E D) : Session E D :=
  { s with guard := s.guard.observeReadVersion stateVersion }

def Session.observeCompletedRead (stateVersion : Nat) (s : Session E D) : Session E D :=
  if s.ambiguousReserve.isSome then s.markAmbiguous stateVersion else s.reconcile stateVersion

def Session.forgetReserve (s : Session E D) : Session E D := { s with ambiguousReserve := none }

/-! The payload that an operation expects of a response. -/

def expectPayload (payload : Success → Option α) (response : Response) :
    Except RepairVaultClientError α :=
  match response.outcome with
  | .ok success => okOr (payload success) .protocol
  | .error token => .error (.remote token)

def statusResult : Response → Except RepairVaultClientError BackupStatus :=
  expectPayload fun | .backupStatus status => some status | _ => none

def releaseResult : Response → Except RepairVaultClientError Unit :=
  expectPayload fun | .released => some () | _ => none

def transactionStatusResult : Response → Except RepairVaultClientError (Option TransactionStatus) :=
  expectPayload fun | .transactionStatus result => some result | _ => none

def rollbackBeginResult : Response → Except RepairVaultClientError RollbackStatus :=
  expectPayload fun | .rollbackBegun status => some status | _ => none

def rollbackStatusResult : Response → Except RepairVaultClientError (Option RollbackStatus) :=
  expectPayload fun | .rollbackStatus result => some result | _ => none

def liveIdentityResult : Response → Except RepairVaultClientError Unit :=
  expectPayload fun | .liveIdentity => some () | _ => none

def transactionResolveResult : Response → Except RepairVaultClientError TransactionStatus :=
  expectPayload fun | .transactionResolved status => some status | _ => none

def rollbackResolveResult : Response → Except RepairVaultClientError RollbackStatus :=
  expectPayload fun | .rollbackResolved status => some status | _ => none

/-! Reserve. -/

/-- A reserve that does not reconcile a lost one settles the guard with every answer. -/
def Session.settleReserve (reconciling : Bool) (stateVersion : Nat) (s : Session E D) : Session E D :=
  if reconciling then s.markAmbiguous stateVersion else (s.reconcile stateVersion).forgetReserve

def lostReserve (draft : D) (expectedStateVersion : Nat) : Client E D Unit :=
  update fun s => { s.markAmbiguous expectedStateVersion with ambiguousReserve := some draft }

/-- The answer of one attempt. `again` is the retry that a first stale answer still has. -/
def reserveReply (reconciling : Bool) (expectedStateVersion : Nat)
    (again : Option (Nat → Client E D BackupStatus)) (response : Response) : Client E D BackupStatus :=
  match statusResult response,again with
  | .error (.remote .staleState),some again => do
    update (Session.settleReserve reconciling response.stateVersion)
    if response.stateVersion = expectedStateVersion then fail .protocol else again response.stateVersion
  | outcome,_ => do
    update (Session.settleReserve (reconciling && !outcome.isOk) response.stateVersion)
    lift outcome

def reserveAttempt (reconciling : Bool) (draft : D) (again : Option (Nat → Client E D BackupStatus))
    (expectedStateVersion : Nat) : Client E D BackupStatus := do
  let reply ← exchangeOnce link expectedStateVersion (.reserve draft)
  match reply with
  | .error failure =>
    if failure.requestMayHaveBeenSent then do
      lostReserve draft expectedStateVersion
      fail .reconciliationRequired
    else fail failure.error
  | .ok response => reserveReply reconciling expectedStateVersion again response

def reserveVersion (draft : D) (s : Session E D) : Except RepairVaultClientError Nat :=
  match s.guard with
  | .uninitialized => .ok 0
  | .ready stateVersion => .ok stateVersion
  | .reconciliationRequired lastStateVersion =>
    if s.ambiguousReserve = some draft then .ok lastStateVersion else .error .reconciliationRequired

def reserve (draft : D) : Client E D BackupStatus := do
  let s ← read
  let expectedStateVersion ← lift (reserveVersion draft s)
  reserveAttempt link s.guard.isAmbiguous draft
    (some (reserveAttempt link s.guard.isAmbiguous draft none)) expectedStateVersion

/-! The other mutations are sent once. -/

def lostMutation (expectedStateVersion : Nat) : Client E D Unit :=
  update fun s => (s.markAmbiguous expectedStateVersion).forgetReserve

def mutationExchange (expectedStateVersion : Nat) (request : Request D) : Client E D Response := do
  let reply ← exchangeOnce link expectedStateVersion request
  match reply with
  | .ok response => do
    update fun s => (s.reconcile response.stateVersion).forgetReserve
    pure response
  | .error failure =>
    if failure.requestMayHaveBeenSent then do
      lostMutation expectedStateVersion
      fail .reconciliationRequired
    else fail failure.error

def mutate (request : Request D) (result : Response → Except RepairVaultClientError α) :
    Client E D α := do
  let s ← read
  let expectedStateVersion ← lift s.guard.mutationVersion
  let response ← mutationExchange link expectedStateVersion request
  lift (result response)

def persist (expected : BackupStatus) (bytes : List UInt8) : Client E D BackupStatus := do
  Program.require (bytes.length = expected.backupSize ∧ link.digest bytes = expected.expectedBackupSha256)
    .invalidInput
  let s ← read
  let expectedStateVersion ← lift s.guard.mutationVersion
  let piped ← ask link.openPipe
  Program.require (piped = true) .pipeIoFailed
  let response ← mutationExchange link expectedStateVersion (.persist expected)
  let written ← ask (link.writePipe bytes)
  let status ← lift (statusResult response)
  lift written
  pure status

def cancel (reservationId draftBindingSha256 : String) : Client E D Unit :=
  mutate link (.cancel reservationId draftBindingSha256) releaseResult

def retire (expected : BackupStatus) : Client E D Unit := mutate link (.retire expected) releaseResult

def beginRollbackTransaction (source : TransactionStatus) (rollbackId : String) :
    Client E D RollbackStatus :=
  mutate link (.rollbackBegin source rollbackId) rollbackBeginResult

def resolveTransaction (expected : TransactionStatus) : Client E D TransactionStatus :=
  mutate link (.transactionResolve expected) transactionResolveResult

def resolveRollbackTransaction (expected : RollbackStatus) : Client E D RollbackStatus :=
  mutate link (.rollbackResolve expected) rollbackResolveResult

/-! Reads. -/

def readOnce (expectedStateVersion : Nat) (request : Request D) : Client E D Response := do
  let reply ← exchangeOnce link expectedStateVersion request
  match reply with
  | .ok response => pure response
  | .error failure => fail failure.error

/-- A stale answer is tried once more at the version it carries; a second one is handed on. -/
def retryStale (expectedStateVersion : Nat) (again : Option (Nat → Client E D Response))
    (response : Response) : Client E D Response :=
  if response.outcome matches .error .staleState then do
    Program.require (response.stateVersion ≠ expectedStateVersion) .protocol
    update (Session.observeReadVersion response.stateVersion)
    match again with
    | some again => again response.stateVersion
    | none => pure response
  else pure response

def readAttempt (request : Request D) (again : Option (Nat → Client E D Response))
    (expectedStateVersion : Nat) : Client E D Response := do
  let response ← readOnce link expectedStateVersion request
  retryStale expectedStateVersion again response

def readExchange (request : Request D) : Client E D Response := do
  let s ← read
  let expectedStateVersion ← lift s.guard.readVersion
  readAttempt link request (some (readAttempt link request none)) expectedStateVersion

def status (expected : BackupStatus) : Client E D BackupStatus := do
  let response ← readExchange link (.status expected)
  match statusResult response with
  | .ok status => do
    update (Session.observeCompletedRead response.stateVersion)
    pure status
  | .error (.remote .absent) => do
    update (Session.observeCompletedRead response.stateVersion)
    fail (.remote .absent)
  | .error e => do
    update (Session.observeReadVersion response.stateVersion)
    fail e

def retrieve (status : BackupStatus) (response : Response) : Client E D (BackupStatus × List UInt8) := do
  Program.require (response.hasDescriptor = true) .protocol
  let piped ← ask (link.readPipe status.backupSize)
  let bytes ← lift piped
  Program.require (link.digest bytes = status.expectedBackupSha256) .protocol
  update (Session.observeCompletedRead response.stateVersion)
  pure (status,bytes)

def get (expected : BackupStatus) : Client E D (BackupStatus × List UInt8) := do
  let response ← readExchange link (.get expected)
  match response.outcome with
  | .ok (.backup status) => retrieve link status response
  | .error .absent => do
    update (Session.observeCompletedRead response.stateVersion)
    fail (.remote .absent)
  | .error token => do
    update (Session.observeReadVersion response.stateVersion)
    fail (.remote token)
  | .ok _ => do
    update (Session.observeReadVersion response.stateVersion)
    fail .protocol

def liveIdentity : Client E D Unit := do
  let response ← readExchange link .vaultLiveParent
  match liveIdentityResult response with
  | .ok identity => do
    update (Session.observeCompletedRead response.stateVersion)
    pure identity
  | .error e => do
    update (Session.observeReadVersion response.stateVersion)
    fail e

/-- The singleton lookups may start an uninitialized client at version zero. -/
def lookupVersion (pendingBootstrap : Bool) (guard : VersionGuard) : Except RepairVaultClientError Nat :=
  if pendingBootstrap then
    match guard with
    | .uninitialized => .ok 0
    | .ready stateVersion => .ok stateVersion
    | .reconciliationRequired stateVersion => .ok stateVersion
  else guard.readVersion

def Session.observeStale (stateVersion : Nat) (s : Session E D) : Session E D :=
  if s.guard = .uninitialized then s.reconcile stateVersion else s.observeReadVersion stateVersion

/-- The answer of one lookup, of a transaction or of a rollback. -/
def lookupReply (result : Response → Except RepairVaultClientError α) (expectedStateVersion : Nat)
    (again : Option (Nat → Client E D α)) (response : Response) : Client E D α :=
  match result response,again with
  | .error (.remote .staleState),some again => do
    Program.require (response.stateVersion ≠ expectedStateVersion) .protocol
    update (Session.observeStale response.stateVersion)
    again response.stateVersion
  | .ok found,_ => do
    update (Session.observeCompletedRead response.stateVersion)
    pure found
  | .error (.remote .absent),_ => do
    update (Session.observeCompletedRead response.stateVersion)
    fail (.remote .absent)
  | .error e,_ => do
    update (Session.observeReadVersion response.stateVersion)
    fail e

def lookupAttempt (request : Request D) (result : Response → Except RepairVaultClientError α)
    (again : Option (Nat → Client E D α)) (expectedStateVersion : Nat) : Client E D α := do
  let response ← readOnce link expectedStateVersion request
  lookupReply result expectedStateVersion again response

def lookup (pendingBootstrap : Bool) (request : Request D)
    (result : Response → Except RepairVaultClientError α) : Client E D α := do
  let s ← read
  let expectedStateVersion ← lift (lookupVersion pendingBootstrap s.guard)
  lookupAttempt link request result (some (lookupAttempt link request result none)) expectedStateVersion

def transactionStatus (selector : TransactionSelector) : Client E D (Option TransactionStatus) :=
  lookup link (selector matches .pendingSingleton) (.transactionStatus selector) transactionStatusResult

def rollbackTransactionStatus (selector : RollbackSelector) : Client E D (Option RollbackStatus) :=
  lookup link (selector matches .pendingSingleton) (.rollbackStatus selector) rollbackStatusResult

/-! A caller makes any calls in any order. -/

inductive Call (D : Type) where
  | reserve (draft : D)
  | persist (expected : BackupStatus) (bytes : List UInt8)
  | status (expected : BackupStatus)
  | get (expected : BackupStatus)
  | cancel (reservationId draftBindingSha256 : String)
  | retire (expected : BackupStatus)
  | transactionStatus (selector : TransactionSelector)
  | beginRollbackTransaction (source : TransactionStatus) (rollbackId : String)
  | rollbackTransactionStatus (selector : RollbackSelector)
  | liveIdentity
  | resolveTransaction (expected : TransactionStatus)
  | resolveRollbackTransaction (expected : RollbackStatus)

def Call.request {D : Type} : Call D → Request D
  | .reserve draft => .reserve draft
  | .persist expected _ => .persist expected
  | .status expected => .status expected
  | .get expected => .get expected
  | .cancel reservationId draftBindingSha256 => .cancel reservationId draftBindingSha256
  | .retire expected => .retire expected
  | .transactionStatus selector => .transactionStatus selector
  | .beginRollbackTransaction source rollbackId => .rollbackBegin source rollbackId
  | .rollbackTransactionStatus selector => .rollbackStatus selector
  | .liveIdentity => .vaultLiveParent
  | .resolveTransaction expected => .transactionResolve expected
  | .resolveRollbackTransaction expected => .rollbackResolve expected

def perform : Call D → Client E D Unit
  | .reserve draft => discard (reserve link draft)
  | .persist expected bytes => discard (persist link expected bytes)
  | .status expected => discard (status link expected)
  | .get expected => discard (get link expected)
  | .cancel reservationId draftBindingSha256 => discard (cancel link reservationId draftBindingSha256)
  | .retire expected => discard (retire link expected)
  | .transactionStatus selector => discard (transactionStatus link selector)
  | .beginRollbackTransaction source rollbackId =>
    discard (beginRollbackTransaction link source rollbackId)
  | .rollbackTransactionStatus selector => discard (rollbackTransactionStatus link selector)
  | .liveIdentity => discard (liveIdentity link)
  | .resolveTransaction expected => discard (resolveTransaction link expected)
  | .resolveRollbackTransaction expected => discard (resolveRollbackTransaction link expected)

end Model

end KernAid.Broker
