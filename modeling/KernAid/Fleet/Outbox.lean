import KernAid.Fleet.Inventory

/-! The inventory outbox of a device. A row that waits for its retry time does not hold back the rows
behind it, while the control plane takes sequences in ascending order only. -/

set_option autoImplicit false

namespace KernAid.Fleet

open CrashLogic

inductive FleetRuntimeError where
  | identityMismatch
  | invalidBatch
  | queueFull
  | sequenceExhausted
  | signing
  | storage
  | staleAcknowledgement
  | invalidClock
deriving DecidableEq, Repr

def maxInventoryBatchAssets : Nat := 1024

def maxQueueItems : Nat := 100000

def maxBatchItems : Nat := 256

def maxRetryDelaySeconds : Nat := 86400

def maxAttempts : Nat := 1000000

/-- `i64::MAX`. -/
def maxEpochSeconds : Nat := 2 ^ 63 - 1

/-- What `ready_inventory` returns of a row. The number of attempts is left out. -/
structure PendingInventory where
  id : Nat
  sequence : Nat
  payload : SignedInventoryEnvelope
  payloadSha256 : String
deriving DecidableEq, Repr

structure OutboxRow where
  pending : PendingInventory
  attempts : Nat
  notBeforeEpoch : Nat
deriving DecidableEq, Repr

structure InventoryOutbox where
  deviceId : String
  nextInventorySequence : Nat
  nextId : Nat
  rows : List OutboxRow
deriving DecidableEq, Repr

section Device

variable (sign : String → Nat → String → FleetInventoryAsset → Option String)
  (sha256 : SignedInventoryEnvelope → String)

/-- `sign_inventory_batch`: one envelope per asset, with consecutive sequences. -/
def signInventoryBatch (deviceId observedAt : String) :
    Nat → List FleetInventoryAsset → Option (List SignedInventoryEnvelope)
  | _, [] => some []
  | sequence, asset :: assets => do
    let signature ← sign deviceId sequence observedAt asset
    let envelopes ← signInventoryBatch deviceId observedAt (sequence + 1) assets
    return ⟨deviceId,sequence,observedAt,asset,signature⟩ :: envelopes

/-- The loop of inserts, with the two unique columns of the table. -/
def insertEnvelopes : List SignedInventoryEnvelope → InventoryOutbox →
    Except FleetRuntimeError (List Nat × InventoryOutbox)
  | [], device => .ok ([],device)
  | envelope :: envelopes, device => do
    require (∀ row ∈ device.rows, row.pending.sequence ≠ envelope.sequence ∧
      row.pending.payloadSha256 ≠ sha256 envelope) .storage
    let (ids,device') ← insertEnvelopes envelopes { device with
      nextId := device.nextId + 1
      rows := device.rows ++ [⟨⟨device.nextId,envelope.sequence,envelope,sha256 envelope⟩,0,0⟩] }
    return (device.nextId :: ids,device')

def queueInventory (identity observedAt : String) (assets : List FleetInventoryAsset)
    (device : InventoryOutbox) : Except FleetRuntimeError (List Nat × InventoryOutbox) := do
  require (assets ≠ [] ∧ assets.length ≤ maxInventoryBatchAssets) .invalidBatch
  require (identity = device.deviceId) .identityMismatch
  require (device.rows.length + assets.length ≤ maxQueueItems) .queueFull
  let nextSequence := device.nextInventorySequence + assets.length
  require (nextSequence ≤ maxSafeInteger + 1) .sequenceExhausted
  require (device.nextInventorySequence ≠ 0) .signing
  let envelopes ← okOr
    (signInventoryBatch sign device.deviceId observedAt device.nextInventorySequence assets) .signing
  let (ids,device') ← insertEnvelopes sha256 envelopes device
  return (ids,{ device' with nextInventorySequence := nextSequence })

/-- The rows whose time has come, in the order of their sequences. -/
def readyInventory (nowEpochSeconds limit : Nat) (device : InventoryOutbox) :
    Except FleetRuntimeError (List PendingInventory) := do
  require (nowEpochSeconds ≤ maxEpochSeconds ∧ limit ≠ 0 ∧ limit ≤ maxBatchItems) .invalidBatch
  let ready := device.rows.filter fun row => row.notBeforeEpoch ≤ nowEpochSeconds
  return ((ready.map OutboxRow.pending).insertionSort fun a b => a.sequence ≤ b.sequence).take limit

/-- The row that a caller means: its id and the digest of its payload. -/
def OutboxRow.isExactly (row : OutboxRow) (id : Nat) (payloadSha256 : String) : Bool :=
  row.pending.id = id ∧ row.pending.payloadSha256 = payloadSha256

def acknowledge (id : Nat) (payloadSha256 : String) (device : InventoryOutbox) :
    Except FleetRuntimeError InventoryOutbox := do
  require (device.rows.countP (fun row => row.isExactly id payloadSha256) = 1) .staleAcknowledgement
  return { device with rows := device.rows.filter fun row => !row.isExactly id payloadSha256 }

def recordRetry (id : Nat) (payloadSha256 : String) (nowEpochSeconds retryDelaySeconds : Nat)
    (device : InventoryOutbox) : Except FleetRuntimeError InventoryOutbox := do
  require (nowEpochSeconds ≤ maxEpochSeconds ∧ retryDelaySeconds ≠ 0 ∧
    retryDelaySeconds ≤ maxRetryDelaySeconds) .invalidClock
  let notBefore := nowEpochSeconds + retryDelaySeconds
  require (notBefore ≤ maxEpochSeconds) .invalidClock
  require (device.rows.countP
    (fun row => row.isExactly id payloadSha256 && row.attempts < maxAttempts) = 1) .staleAcknowledgement
  return { device with
    rows := device.rows.map fun row =>
      if row.isExactly id payloadSha256 && row.attempts < maxAttempts then
        { row with attempts := row.attempts + 1, notBeforeEpoch := notBefore }
      else row }

end Device

section Sync

variable [DateParse]

/-- The part of `parseInventoryEnvelope` that depends on the sequence and the time. -/
def parseInventoryEnvelope (e : SignedInventoryEnvelope) : Option InventoryEnvelope :=
  if h : 1 ≤ e.sequence ∧ e.sequence ≤ maxSafeInteger ∧ (DateParse.parse e.observedAt).isSome = true then
    some { toSignedInventoryEnvelope := e, positive := h.1, safe := h.2.1, observed := h.2.2 }
  else none

/-- The handler of `/v1/inventories`, without the checks that do not read the tables. -/
def receiveInventory (digest : InventoryEnvelope → String) (e : SignedInventoryEnvelope)
    (receivedAt : String) : Transaction InventoryTables InventoryRecordResult := fun db => do
  let envelope ← okOr (parseInventoryEnvelope e) .invalid
  recordInventory envelope (digest envelope) receivedAt db

/-- A device and the control plane. `requests` is what is left of the batch that the upload loop works
on. `queued` and `sent` are histories: the envelopes that were put into the outbox, and those that were
given to the transport and may arrive, once more or for the first time, at any later moment. -/
structure InventorySync where
  device : InventoryOutbox
  requests : List PendingInventory
  server : InventoryTables
  queued : List SignedInventoryEnvelope
  sent : List SignedInventoryEnvelope

structure Retry where
  nowEpochSeconds : Nat
  retryDelaySeconds : Nat

/-- What happens to one request of the upload loop. A request that the handler refuses before it reads
the tables counts as undelivered. -/
inductive Fate where
  | answered (receivedAt : String) (retry : Retry)
  | answerLost (receivedAt : String) (retry : Retry)
  | undelivered (retry : Retry)
  | interrupted (receivedAt : Option String)

inductive SyncAction where
  | queue (observedAt : String) (assets : List FleetInventoryAsset)
  | ready (nowEpochSeconds limit : Nat)
  | post (fate : Fate)
  | restart
  | arrive (index : Nat) (receivedAt : String)
  | otherDevice (delivery : Delivery)
  | revoke (deviceId revokedAt : String)

/-- The device after a call that may fail: a call that fails changes nothing. -/
def InventoryOutbox.after (device : InventoryOutbox)
    (result : Except FleetRuntimeError InventoryOutbox) : InventoryOutbox :=
  match result with
  | .ok device' => device'
  | .error _ => device

variable (sign : String → Nat → String → FleetInventoryAsset → Option String)
  (sha256 : SignedInventoryEnvelope → String) (digest : InventoryEnvelope → String)

def InventorySync.received (w : InventorySync) (e : SignedInventoryEnvelope) (receivedAt : String) :
    InventorySync :=
  { w with server := ((receiveInventory digest e receivedAt).call w.server).2 }

/-- `record_inventory_retry`, after which `upload_inventory` returns its error. -/
def InventorySync.retried (w : InventorySync) (request : PendingInventory) (retry : Retry) :
    InventorySync :=
  { w with
    device := w.device.after (recordRetry request.id request.payloadSha256 retry.nowEpochSeconds
      retry.retryDelaySeconds w.device)
    requests := [] }

/-- One round of the loop of `upload_inventory`. -/
def InventorySync.post (w : InventorySync) (fate : Fate) : InventorySync :=
  match w.requests with
  | [] => w
  | request :: requests =>
    let w := { w with sent := w.sent ++ [request.payload] }
    match fate with
    | .answered receivedAt retry =>
      let arrived := w.received digest request.payload receivedAt
      match ((receiveInventory digest request.payload receivedAt).call w.server).1 with
      | .ok _ =>
        match acknowledge request.id request.payloadSha256 w.device with
        | .ok device => { arrived with device, requests }
        | .error _ => { arrived with requests := [] }
      | .error _ => arrived.retried request retry
    | .answerLost receivedAt retry => (w.received digest request.payload receivedAt).retried request retry
    | .undelivered retry => w.retried request retry
    | .interrupted none => { w with requests := [] }
    | .interrupted (some receivedAt) =>
      { w.received digest request.payload receivedAt with requests := [] }

def InventorySync.step (w : InventorySync) : SyncAction → InventorySync
  | .queue observedAt assets =>
    match queueInventory sign sha256 w.device.deviceId observedAt assets w.device with
    | .ok (_,device) => { w with
        device
        queued := w.queued ++
          (device.rows.drop w.device.rows.length).map fun row => row.pending.payload }
    | .error _ => w
  | .ready now limit =>
    match readyInventory now limit w.device with
    | .ok requests => { w with requests }
    | .error _ => { w with requests := [] }
  | .post fate => w.post digest fate
  | .restart => { w with requests := [] }
  | .arrive index receivedAt =>
    match w.sent[index]? with
    | some e => w.received digest e receivedAt
    | none => w
  | .otherDevice delivery =>
    if delivery.envelope.deviceId = w.device.deviceId then w
    else { w with server := deliver digest w.server delivery }
  | .revoke deviceId revokedAt =>
    { w with server := ((revokeDevice deviceId revokedAt).call w.server).2 }

def InventorySync.play (w : InventorySync) (actions : List SyncAction) : InventorySync :=
  actions.foldl (InventorySync.step sign sha256 digest) w

/-- A device that has not queued anything yet, and a control plane that has not heard of it. -/
structure InventorySync.Fresh (w : InventorySync) : Prop where
  rows : w.device.rows = []
  requests : w.requests = []
  queued : w.queued = []
  sent : w.sent = []
  silent : ∀ row, w.server.devices[w.device.deviceId]? = some row → row.lastSequence = 0
  unrecorded : ∀ event ∈ w.server.inventoryEvents, event.envelope.deviceId ≠ w.device.deviceId

/-- No batch is taken while a row waits for its retry time and a later row does not. -/
def InventorySync.Unhurried (w : InventorySync) : SyncAction → Prop
  | .ready now _ => ∀ waiting ∈ w.device.rows, now < waiting.notBeforeEpoch →
      ∀ row ∈ w.device.rows, row.notBeforeEpoch ≤ now → row.pending.sequence < waiting.pending.sequence
  | _ => True

def InventorySync.UnhurriedRun (w : InventorySync) : List SyncAction → Prop
  | [] => True
  | action :: actions => w.Unhurried action ∧ (w.step sign sha256 digest action).UnhurriedRun actions

instance InventorySync.decidableUnhurried (w : InventorySync) : DecidablePred w.Unhurried
  | .ready now _ => inferInstanceAs (Decidable (∀ waiting ∈ w.device.rows, now < waiting.notBeforeEpoch →
      ∀ row ∈ w.device.rows, row.notBeforeEpoch ≤ now → row.pending.sequence < waiting.pending.sequence))
  | .queue _ _ | .post _ | .restart | .arrive _ _ | .otherDevice _ | .revoke _ _ => .isTrue trivial

instance InventorySync.decidableUnhurriedRun (w : InventorySync) :
    DecidablePred (w.UnhurriedRun sign sha256 digest)
  | [] => .isTrue trivial
  | action :: actions =>
    have := (w.step sign sha256 digest action).decidableUnhurriedRun actions
    inferInstanceAs (Decidable (_ ∧ _))

/-- The envelopes in `inventory_events` under the device and the sequence of an envelope. -/
def InventoryTables.recordedUnder (db : InventoryTables) (e : SignedInventoryEnvelope) :
    List SignedInventoryEnvelope :=
  (db.inventoryEvents.map fun event => event.envelope.toSignedInventoryEnvelope).filter
    fun c => c.deviceId = e.deviceId ∧ c.sequence = e.sequence

end Sync

section Outbox

variable {sign : String → Nat → String → FleetInventoryAsset → Option String}
  {sha256 : SignedInventoryEnvelope → String} {device device' : InventoryOutbox}

def InventoryOutbox.items (device : InventoryOutbox) : List PendingInventory :=
  device.rows.map OutboxRow.pending

/-- The rows stand in the order of their ids and of their sequences, below both counters. -/
structure InventoryOutbox.Ok (device : InventoryOutbox) : Prop where
  ascending : device.items.Pairwise fun a b => a.sequence < b.sequence
  identified : device.items.Pairwise fun a b => a.id < b.id
  below : ∀ item ∈ device.items, item.id < device.nextId ∧ item.sequence < device.nextInventorySequence
  signed : ∀ item ∈ device.items, item.payload.sequence = item.sequence ∧
    item.payload.deviceId = device.deviceId

variable {observedAt : String} {assets : List FleetInventoryAsset} {ids : List Nat}

theorem signInventoryBatch_spec {deviceId : String} {first : Nat}
    {es : List SignedInventoryEnvelope}
    (h : signInventoryBatch sign deviceId observedAt first assets = some es) :
    es.map (fun e => e.sequence) = List.range' first assets.length ∧ ∀ e ∈ es, e.deviceId = deviceId := by
  induction assets generalizing first es with
  | nil =>
    obtain rfl := Option.some.inj h
    simp
  | cons asset assets ih =>
    simp only [signInventoryBatch, Option.bind_eq_bind, Option.bind_eq_some_iff, Option.pure_def,
      Option.some.injEq] at h
    obtain ⟨signature,_,rest,hrest,rfl⟩ := h
    obtain ⟨hsequences,hdevice⟩ := ih hrest
    simpa [hsequences, List.range'_succ] using hdevice

theorem insertEnvelopes_spec {es : List SignedInventoryEnvelope}
    (h : insertEnvelopes sha256 es device = .ok (ids,device')) : ∃ new : List OutboxRow,
      device' = { device with nextId := device.nextId + es.length, rows := device.rows ++ new } ∧
      new.map (fun row => row.pending.payload) = es ∧
      new.map (fun row => row.pending.id) = List.range' device.nextId es.length ∧
      ∀ row ∈ new, row.pending.sequence = row.pending.payload.sequence := by
  induction es generalizing device ids with
  | nil =>
    obtain ⟨rfl,rfl⟩ := Prod.mk.inj (Except.ok.inj h)
    exact ⟨[],by simp,rfl,rfl,by simp⟩
  | cons e es ih =>
    simp only [insertEnvelopes, require_bind_eq_ok] at h
    obtain ⟨_,h⟩ := h
    obtain ⟨⟨ids',after⟩,hrest,h⟩ := bind_ok_iff.mp h
    obtain ⟨rfl,rfl⟩ := Prod.mk.inj (Except.ok.inj h)
    obtain ⟨new,rfl,hpayloads,hids,hsequences⟩ := ih hrest
    refine ⟨⟨⟨device.nextId,e.sequence,e,sha256 e⟩,0,0⟩ :: new,?_,?_,?_,?_⟩
    · simp [Nat.add_assoc, Nat.add_comm 1]
    · simp [hpayloads]
    · simp [hids, List.range'_succ]
    · simpa using hsequences

theorem queueInventory_spec {identity : String}
    (h : queueInventory sign sha256 identity observedAt assets device = .ok (ids,device')) :
    ∃ new : List OutboxRow,
      device' = { device with
        nextInventorySequence := device.nextInventorySequence + assets.length
        nextId := device.nextId + assets.length
        rows := device.rows ++ new } ∧
      new.map (fun row => row.pending.id) = List.range' device.nextId assets.length ∧
      new.map (fun row => row.pending.sequence) =
        List.range' device.nextInventorySequence assets.length ∧
      ∀ row ∈ new, row.pending.payload.sequence = row.pending.sequence ∧
        row.pending.payload.deviceId = device.deviceId := by
  simp only [queueInventory, require_bind_eq_ok, okOr_bind_eq_ok] at h
  obtain ⟨_,_,_,_,_,es,hsigned,h⟩ := h
  obtain ⟨⟨ids',after⟩,hinserted,h⟩ := bind_ok_iff.mp h
  obtain ⟨rfl,rfl⟩ := Prod.mk.inj (Except.ok.inj h)
  obtain ⟨hsequences,hdevice⟩ := signInventoryBatch_spec hsigned
  obtain ⟨new,rfl,rfl,hids,hsame⟩ := insertEnvelopes_spec hinserted
  have hlength : new.length = assets.length := by simpa using congrArg List.length hsequences
  refine ⟨new,by simp [hlength],by simpa [hlength] using hids,?_,?_⟩
  · rw [← hsequences, List.map_map]
    exact List.map_congr_left fun row hrow => hsame row hrow
  · intro row hrow
    exact ⟨(hsame row hrow).symm,hdevice _ (List.mem_map_of_mem hrow)⟩

theorem InventoryOutbox.Ok.queued {identity : String} (hdevice : device.Ok)
    (h : queueInventory sign sha256 identity observedAt assets device = .ok (ids,device')) :
    device'.Ok := by
  obtain ⟨new,rfl,hids,hsequences,hsigned⟩ := queueInventory_spec h
  have hid : ∀ row ∈ new, device.nextId ≤ row.pending.id ∧
      row.pending.id < device.nextId + assets.length := by
    intro row hrow
    have hmem : row.pending.id ∈ new.map (fun row => row.pending.id) := List.mem_map_of_mem hrow
    rw [hids] at hmem
    simpa [List.mem_range'_1] using hmem
  have hsequence : ∀ row ∈ new, device.nextInventorySequence ≤ row.pending.sequence ∧
      row.pending.sequence < device.nextInventorySequence + assets.length := by
    intro row hrow
    have hmem : row.pending.sequence ∈ new.map (fun row => row.pending.sequence) :=
      List.mem_map_of_mem hrow
    rw [hsequences] at hmem
    simpa [List.mem_range'_1] using hmem
  constructor
  · simp only [items, List.map_append, List.pairwise_append]
    refine ⟨hdevice.ascending,?_,?_⟩
    · rw [List.pairwise_map]
      exact List.pairwise_map.mp (hsequences ▸ List.pairwise_lt_range')
    · intro a ha b hb
      obtain ⟨row,hrow,rfl⟩ := List.mem_map.mp hb
      have := (hdevice.below a ha).2
      have := (hsequence row hrow).1
      omega
  · simp only [items, List.map_append, List.pairwise_append]
    refine ⟨hdevice.identified,?_,?_⟩
    · rw [List.pairwise_map]
      exact List.pairwise_map.mp (hids ▸ List.pairwise_lt_range')
    · intro a ha b hb
      obtain ⟨row,hrow,rfl⟩ := List.mem_map.mp hb
      have := (hdevice.below a ha).1
      have := (hid row hrow).1
      omega
  · intro item hitem
    simp only [items, List.map_append, List.mem_append] at hitem
    rcases hitem with hitem | hitem
    · have := hdevice.below item hitem
      dsimp only
      omega
    · obtain ⟨row,hrow,rfl⟩ := List.mem_map.mp hitem
      exact ⟨(hid row hrow).2,(hsequence row hrow).2⟩
  · intro item hitem
    simp only [items, List.map_append, List.mem_append] at hitem
    rcases hitem with hitem | hitem
    · exact hdevice.signed item hitem
    · obtain ⟨row,hrow,rfl⟩ := List.mem_map.mp hitem
      exact hsigned row hrow

/-- In an ascending list, what is chosen is a first part of it if nothing chosen stands behind something
that is not. -/
theorem filter_prefix_of_ascending {α : Type} {key : α → Nat} {p : α → Bool} {l : List α}
    (hascending : l.Pairwise fun a b => key a < key b)
    (hfirst : ∀ a ∈ l, p a = false → ∀ b ∈ l, p b = true → key b < key a) : l.filter p <+: l := by
  induction l with
  | nil => exact List.prefix_rfl
  | cons a l ih =>
    obtain ⟨hhead,htail⟩ := List.pairwise_cons.mp hascending
    cases ha : p a with
    | true =>
      rw [List.filter_cons_of_pos ha]
      refine (List.prefix_cons_inj a).mpr (ih htail fun b hb hpb c hc hpc => ?_)
      exact hfirst b (List.mem_cons_of_mem _ hb) hpb c (List.mem_cons_of_mem _ hc) hpc
    | false =>
      have hnone : l.filter p = [] := by
        rw [List.filter_eq_nil_iff]
        intro b hb hpb
        have hlt := hfirst a List.mem_cons_self ha b (List.mem_cons_of_mem _ hb) hpb
        have := hhead b hb
        omega
      rw [List.filter_cons_of_neg (by simp [ha]), hnone]
      exact List.nil_prefix

theorem readyInventory_prefix {now limit : Nat} {requests : List PendingInventory} (hdevice : device.Ok)
    (hunhurried : ∀ waiting ∈ device.rows, now < waiting.notBeforeEpoch → ∀ row ∈ device.rows,
      row.notBeforeEpoch ≤ now → row.pending.sequence < waiting.pending.sequence)
    (h : readyInventory now limit device = .ok requests) : requests <+: device.items := by
  simp only [readyInventory, require_bind_eq_ok, pure_eq_ok_iff] at h
  obtain ⟨_,rfl⟩ := h
  have hrows := hdevice.ascending
  rw [InventoryOutbox.items, List.pairwise_map] at hrows
  have hready : device.rows.filter (fun row => row.notBeforeEpoch ≤ now) <+: device.rows := by
    refine filter_prefix_of_ascending hrows ?_
    intro waiting hwaiting hlate row hrow hdue
    exact hunhurried waiting hwaiting (by simpa using hlate) row hrow (by simpa using hdue)
  have hitems := hready.map OutboxRow.pending
  rw [List.Pairwise.insertionSort_eq]
  · exact (List.take_prefix _ _).trans hitems
  · exact (hdevice.ascending.sublist hitems.sublist).imp fun hlt => hlt.le

theorem acknowledge_head {item : PendingInventory} {items : List PendingInventory} (hdevice : device.Ok)
    (hitems : device.items = item :: items)
    (h : acknowledge item.id item.payloadSha256 device = .ok device') :
    device'.items = items ∧ device' = { device with rows := device'.rows } := by
  simp only [acknowledge, require_bind_eq_ok, pure_eq_ok_iff] at h
  obtain ⟨_,rfl⟩ := h
  refine ⟨?_,rfl⟩
  have hidentified := hdevice.identified
  rw [hitems] at hidentified
  obtain ⟨hhead,_⟩ := List.pairwise_cons.mp hidentified
  obtain ⟨row,rows,hrows,rfl,rfl⟩ := List.map_eq_cons_iff.mp hitems
  simp only [InventoryOutbox.items, hrows]
  have hkeep :
      rows.filter (fun other => !other.isExactly row.pending.id row.pending.payloadSha256) = rows := by
    rw [List.filter_eq_self]
    intro other hother
    have := hhead other.pending (List.mem_map_of_mem hother)
    simp only [OutboxRow.isExactly, Bool.decide_and, Bool.not_and, Bool.or_eq_true, Bool.not_eq_true',
      decide_eq_false_iff_not]
    exact .inl (by omega)
  rw [List.filter_cons_of_neg (by simp [OutboxRow.isExactly]), hkeep]

theorem after_recordRetry (device : InventoryOutbox) (id : Nat) (payloadSha256 : String)
    (now delay : Nat) :
    (device.after (recordRetry id payloadSha256 now delay device)).items = device.items ∧
      device.after (recordRetry id payloadSha256 now delay device) = { device with
        rows := (device.after (recordRetry id payloadSha256 now delay device)).rows } := by
  cases h : recordRetry id payloadSha256 now delay device with
  | error e => exact ⟨rfl,rfl⟩
  | ok device' =>
    simp only [recordRetry, require_bind_eq_ok, pure_eq_ok_iff] at h
    obtain ⟨_,_,_,rfl⟩ := h
    refine ⟨?_,rfl⟩
    simp only [InventoryOutbox.after, InventoryOutbox.items, List.map_map]
    refine List.map_congr_left fun row _ => ?_
    simp only [Function.comp_apply]
    split <;> rfl

end Outbox

section Ledger

variable [DateParse] {digest : InventoryEnvelope → String} {db : InventoryTables} {deviceId : String}
  {d : Delivery}

/-- What the control plane keeps of one device: its events in ascending order, and a row that names the
last of them. -/
structure Ledger (digest : InventoryEnvelope → String) (db : InventoryTables)
    (deviceId : String) : Prop where
  counted : ∀ event ∈ db.inventoryEvents, event.envelope.deviceId = deviceId →
    ∃ row, db.devices[deviceId]? = some row ∧ event.envelope.sequence ≤ row.lastSequence
  latest : ∀ row, db.devices[deviceId]? = some row → row.lastSequence = 0 ∨
    ∃ event ∈ db.inventoryEvents, event.envelope.deviceId = deviceId ∧
      event.envelope.sequence = row.lastSequence ∧ row.lastEnvelopeHash = some (digest event.envelope)
  distinct : db.inventoryEvents.Pairwise fun a b => a.envelope.deviceId = deviceId →
    b.envelope.deviceId = deviceId → a.envelope.sequence < b.envelope.sequence

theorem inventoryEvents_deliver (d : Delivery) : (deliver digest db d).inventoryEvents =
    db.inventoryEvents ++
      if isRecorded digest db d then [⟨d.envelope,digest d.envelope,d.receivedAt⟩] else [] := by
  cases hrecorded : isRecorded digest db d with
  | false => rw [deliver_of_not_recorded hrecorded]; simp
  | true =>
    obtain ⟨row,replace,_,_,_,_,hdeliver⟩ := deliver_of_recorded hrecorded
    rw [hdeliver]
    rfl

theorem Ledger.deliver (h : Ledger digest db deviceId) :
    Ledger digest (deliver digest db d) deviceId := by
  cases hrecorded : isRecorded digest db d with
  | false =>
    rw [deliver_of_not_recorded hrecorded]
    exact h
  | true =>
    obtain ⟨row,replace,hrow,_,hlater,_,hdeliver⟩ := deliver_of_recorded hrecorded
    rw [hdeliver]
    constructor
    · intro event hevent hdevice
      simp only [InventoryTables.recorded, List.mem_append, List.mem_singleton,
        getElem?_insert_ite] at hevent ⊢
      rcases hevent with hevent | rfl
      · obtain ⟨row',hrow',hle⟩ := h.counted event hevent hdevice
        split_ifs with hsame
        · rw [hsame, hrow] at hrow'
          obtain rfl := Option.some.inj hrow'
          exact ⟨_,rfl,hle.trans hlater.le⟩
        · exact ⟨row',hrow',hle⟩
      · rw [if_pos hdevice.symm]
        exact ⟨_,rfl,le_rfl⟩
    · intro row' hrow'
      simp only [InventoryTables.recorded, List.mem_append, List.mem_singleton,
        getElem?_insert_ite] at hrow' ⊢
      split_ifs at hrow' with hsame
      · obtain rfl := Option.some.inj hrow'
        exact .inr ⟨_,.inr rfl,hsame.symm,rfl,rfl⟩
      · refine (h.latest row' hrow').imp_right ?_
        rintro ⟨event,hevent,hlast⟩
        exact ⟨event,.inl hevent,hlast⟩
    · simp only [InventoryTables.recorded, List.pairwise_append, List.pairwise_singleton, true_and,
        List.mem_singleton, forall_eq]
      refine ⟨h.distinct,fun event hevent hdevice hsame => ?_⟩
      obtain ⟨row',hrow',hle⟩ := h.counted event hevent hdevice
      rw [← hsame, hrow] at hrow'
      obtain rfl := Option.some.inj hrow'
      omega

theorem Ledger.revoke (h : Ledger digest db deviceId) (revoked revokedAt : String) :
    Ledger digest ((revokeDevice revoked revokedAt).call db).2 deviceId := by
  have hcall : ((revokeDevice revoked revokedAt).call db).2 = db ∨ ∃ row,
      db.devices[revoked]? = some row ∧ ((revokeDevice revoked revokedAt).call db).2 =
        { db with devices := db.devices.insert revoked { row with revokedAt := some revokedAt } } := by
    simp only [Transaction.call, revokeDevice]
    cases hrow : db.devices[revoked]? with
    | none => exact .inl rfl
    | some row =>
      dsimp only
      split_ifs
      · exact .inr ⟨row,rfl,rfl⟩
      · exact .inl rfl
  rcases hcall with hcall | ⟨row,hrow,hcall⟩
  · rwa [hcall]
  · rw [hcall]
    refine ⟨fun event hevent hdevice => ?_,fun row' hrow' => ?_,h.distinct⟩
    · obtain ⟨row',hrow',hle⟩ := h.counted event hevent hdevice
      simp only [getElem?_insert_ite]
      split_ifs with hsame
      · rw [hsame, hrow] at hrow'
        obtain rfl := Option.some.inj hrow'
        exact ⟨_,rfl,hle⟩
      · exact ⟨row',hrow',hle⟩
    · simp only [getElem?_insert_ite] at hrow'
      split_ifs at hrow' with hsame
      · obtain rfl := Option.some.inj hrow'
        exact h.latest row (hsame ▸ hrow)
      · exact h.latest row' hrow'

/-- The handler refuses an envelope that it cannot read, and hands every other one to the store. -/
theorem receiveInventory_call (digest : InventoryEnvelope → String) (e : SignedInventoryEnvelope)
    (receivedAt : String) (db : InventoryTables) :
    ((receiveInventory digest e receivedAt).call db = (.error .invalid,db) ∧
      parseInventoryEnvelope e = none) ∨
      ∃ envelope : InventoryEnvelope, envelope.toSignedInventoryEnvelope = e ∧
        parseInventoryEnvelope e = some envelope ∧ (receiveInventory digest e receivedAt).call db =
          (recordInventory envelope (digest envelope) receivedAt).call db := by
  simp only [Transaction.call, receiveInventory]
  cases hparse : parseInventoryEnvelope e with
  | none => exact .inl ⟨rfl,rfl⟩
  | some envelope =>
    refine .inr ⟨envelope,?_,rfl,rfl⟩
    unfold parseInventoryEnvelope at hparse
    split_ifs at hparse
    exact (Option.some.inj hparse) ▸ rfl

theorem shouldReplaceCurrentAsset_error {e : InventoryEnvelope} {current : Option AssetRow}
    {error : StoreError}
    (h : shouldReplaceCurrentAsset e current = .error error) : error = .invalid := by
  unfold shouldReplaceCurrentAsset at h
  split at h
  · cases h
  · simp only [bind_eq_error, okOr_eq_error] at h
    rcases h with ⟨_,rfl⟩ | ⟨_,_,⟨_,rfl⟩ | ⟨_,_,h⟩⟩
    · rfl
    · rfl
    · split_ifs at h <;> cases h

/-- An envelope is refused as a replay when another one has its sequence, or when a later one came
first. -/
theorem recordInventory_replay {e : InventoryEnvelope} {envelopeHash receivedAt : String}
    (h : recordInventory e envelopeHash receivedAt db = .error .replay) :
    ∃ row, db.devices[e.deviceId]? = some row ∧
      (e.sequence = row.lastSequence ∧ row.lastEnvelopeHash ≠ some envelopeHash ∨
        e.sequence < row.lastSequence) := by
  simp only [recordInventory, bind_eq_error, okOr_eq_error, require_eq_error, okOr_eq_ok, require_eq_ok,
    reduceCtorEq, and_false, false_or] at h
  obtain ⟨row,hrow,_,_,h⟩ := h
  refine ⟨row,hrow,?_⟩
  split at h
  · next hlast =>
    simp only [bind_eq_error, require_eq_error, and_true] at h
    rcases h with hhash | ⟨_,_,h⟩
    · exact .inl ⟨hlast,hhash⟩
    · cases h
  · next hlast =>
    simp only [bind_eq_error, require_eq_error, reduceCtorEq, and_false, and_true, false_or] at h
    rcases h with hlater | ⟨_,_,_,_,h⟩
    · exact .inr (by omega)
    · rcases h with h | ⟨_,_,h⟩
      · cases shouldReplaceCurrentAsset_error h
      · cases h

end Ledger

section Delivery

variable [DateParse] {sign : String → Nat → String → FleetInventoryAsset → Option String}
  {sha256 : SignedInventoryEnvelope → String} {digest : InventoryEnvelope → String} {w : InventorySync}

/-- What holds along an unhurried run: nothing in the outbox comes before an envelope that was sent, and
what has left the outbox has been recorded. -/
structure InventorySync.Ok (digest : InventoryEnvelope → String) (w : InventorySync) : Prop where
  device : w.device.Ok
  batch : w.requests <+: w.device.items
  kept : ∀ item ∈ w.device.items, item.payload ∈ w.queued
  own : ∀ e ∈ w.queued, e.deviceId = w.device.deviceId ∧ e.sequence < w.device.nextInventorySequence
  ascending : w.queued.Pairwise fun a b => a.sequence < b.sequence
  sent : ∀ e ∈ w.sent, e ∈ w.queued
  inOrder : ∀ e ∈ w.sent, ∀ item ∈ w.device.items, e.sequence ≤ item.sequence
  ledger : Ledger digest w.server w.device.deviceId
  recorded : ∀ event ∈ w.server.inventoryEvents, event.envelope.deviceId = w.device.deviceId →
    event.envelope.toSignedInventoryEnvelope ∈ w.sent
  settled : ∀ e ∈ w.queued, e ∈ w.device.items.map PendingInventory.payload ∨
    ∃ event ∈ w.server.inventoryEvents, event.envelope.toSignedInventoryEnvelope = e

theorem InventorySync.Fresh.ok (h : w.Fresh) : w.Ok digest := by
  have hitems : w.device.items = [] := by rw [InventoryOutbox.items, h.rows, List.map_nil]
  constructor <;> try simp [hitems, h.requests, h.queued, h.sent]
  · constructor <;> simp [hitems]
  · refine ⟨fun event hevent hdevice => absurd hdevice (h.unrecorded event hevent),?_,?_⟩
    · exact fun row hrow => .inl (h.silent row hrow)
    · refine List.Pairwise.imp_of_mem ?_ (List.pairwise_of_forall fun _ _ => trivial)
      exact fun ha _ _ hdevice => absurd hdevice (h.unrecorded _ ha)
  · exact h.unrecorded

theorem InventorySync.Ok.queued_injective (h : w.Ok digest) {a b : SignedInventoryEnvelope}
    (ha : a ∈ w.queued) (hb : b ∈ w.queued) (hsequence : a.sequence = b.sequence) : a = b := by
  have hnodup : (w.queued.map fun e => e.sequence).Nodup :=
    List.pairwise_map.mpr (h.ascending.imp fun hlt => hlt.ne)
  exact List.inj_on_of_nodup_map hnodup ha hb hsequence

theorem InventorySync.Ok.grown {db : InventoryTables} (h : w.Ok digest)
    (hledger : Ledger digest db w.device.deviceId) {new : List InventoryEvent}
    (hevents : db.inventoryEvents = w.server.inventoryEvents ++ new)
    (hnew : ∀ event ∈ new, event.envelope.deviceId = w.device.deviceId →
      event.envelope.toSignedInventoryEnvelope ∈ w.sent) :
    InventorySync.Ok digest { w with server := db } := by
  refine { h with ledger := hledger, recorded := ?_, settled := ?_ }
  · intro event hevent hdevice
    rw [hevents, List.mem_append] at hevent
    exact hevent.elim (fun hold => h.recorded event hold hdevice) fun hin => hnew event hin hdevice
  · intro e he
    refine (h.settled e he).imp_right ?_
    rintro ⟨event,hevent,rfl⟩
    exact ⟨event,by simp [hevents, hevent],rfl⟩

theorem InventorySync.Ok.delivered {d : Delivery} (h : w.Ok digest)
    (hsent : d.envelope.deviceId = w.device.deviceId → d.envelope.toSignedInventoryEnvelope ∈ w.sent) :
    InventorySync.Ok digest { w with server := deliver digest w.server d } := by
  refine h.grown h.ledger.deliver (inventoryEvents_deliver d) fun event hevent hdevice => ?_
  split_ifs at hevent
  · obtain rfl := List.mem_singleton.mp hevent
    exact hsent hdevice
  · cases hevent

theorem InventorySync.Ok.received {e : SignedInventoryEnvelope} (h : w.Ok digest) (he : e ∈ w.sent)
    (receivedAt : String) : (w.received digest e receivedAt).Ok digest := by
  rw [InventorySync.received]
  rcases receiveInventory_call digest e receivedAt w.server with ⟨hcall,_⟩ | ⟨envelope,rfl,_,hcall⟩
  · rw [hcall]
    exact h
  · rw [hcall]
    exact h.delivered (d := ⟨envelope,receivedAt⟩) fun _ => he

theorem InventorySync.Ok.retried (h : w.Ok digest) (request : PendingInventory) (retry : Retry) :
    (w.retried request retry).Ok digest := by
  obtain ⟨hitems,hdevice⟩ := after_recordRetry w.device request.id request.payloadSha256
    retry.nowEpochSeconds retry.retryDelaySeconds
  rw [InventorySync.retried]
  rw [hdevice] at hitems ⊢
  refine ⟨⟨?_,?_,?_,?_⟩,List.nil_prefix,?_,h.own,h.ascending,h.sent,?_,h.ledger,h.recorded,?_⟩
  all_goals dsimp only; rw [hitems]
  · exact h.device.ascending
  · exact h.device.identified
  · exact h.device.below
  · exact h.device.signed
  · exact h.kept
  · exact h.inOrder
  · exact h.settled

theorem InventorySync.Ok.sending {request : PendingInventory} {requests : List PendingInventory}
    (h : w.Ok digest) (hrequests : w.requests = request :: requests) :
    InventorySync.Ok digest { w with sent := w.sent ++ [request.payload] } := by
  obtain ⟨rest,hitems⟩ := h.batch
  rw [hrequests, List.cons_append] at hitems
  have hhead : request ∈ w.device.items := by simp [← hitems]
  have hfirst : ∀ item ∈ w.device.items, request.payload.sequence ≤ item.sequence := by
    have hascending := h.device.ascending
    rw [← hitems, List.pairwise_cons] at hascending
    intro item hitem
    rw [(h.device.signed request hhead).1]
    rcases List.mem_cons.mp (hitems ▸ hitem) with rfl | hlater
    · exact le_rfl
    · exact (hascending.1 item hlater).le
  refine { h with sent := ?_, inOrder := ?_, recorded := ?_ }
  · intro e he
    rcases List.mem_append.mp he with he | he
    · exact h.sent e he
    · obtain rfl := List.mem_singleton.mp he
      exact h.kept request hhead
  · intro e he
    rcases List.mem_append.mp he with he | he
    · exact h.inOrder e he
    · obtain rfl := List.mem_singleton.mp he
      exact hfirst
  · exact fun event hevent hdevice => List.mem_append_left _ (h.recorded event hevent hdevice)

theorem InventorySync.Ok.accepted {e : SignedInventoryEnvelope} {receivedAt : String}
    {result : InventoryRecordResult} (h : w.Ok digest) (he : e ∈ w.sent)
    (hanswer : ((receiveInventory digest e receivedAt).call w.server).1 = .ok result) :
    ∃ event ∈ (w.received digest e receivedAt).server.inventoryEvents,
      event.envelope.toSignedInventoryEnvelope = e := by
  rw [InventorySync.received]
  rcases receiveInventory_call digest e receivedAt w.server with ⟨hcall,_⟩ | ⟨envelope,rfl,_,hcall⟩
  · rw [hcall] at hanswer
    cases hanswer
  · rw [hcall] at hanswer ⊢
    rcases recordInventory_cases envelope (digest envelope) receivedAt w.server with
      ⟨row,replace,_,_,_,_,hok⟩ | ⟨row,hrow,_,hlast,_,hok⟩ | ⟨error,herror⟩
    · rw [Transaction.call_ok hok]
      exact ⟨⟨envelope,digest envelope,receivedAt⟩,by simp [InventoryTables.recorded],rfl⟩
    · -- The latest event of the device has the sequence of the envelope, so it is the envelope.
      rw [Transaction.call_ok hok]
      have hown := (h.own _ (h.sent _ he)).1
      rw [hown] at hrow
      rcases h.ledger.latest row hrow with hzero | ⟨event,hevent,hdevice,hsequence,_⟩
      · have := envelope.positive
        omega
      · refine ⟨event,hevent,h.queued_injective (h.sent _ ?_) (h.sent _ he) (hsequence.trans hlast.symm)⟩
        exact h.recorded event hevent hdevice
    · rw [Transaction.call_error herror] at hanswer
      cases hanswer

theorem InventorySync.Ok.acknowledged {request : PendingInventory} {requests : List PendingInventory}
    {device : InventoryOutbox} (h : w.Ok digest) (hrequests : w.requests = request :: requests)
    (hrecorded : ∃ event ∈ w.server.inventoryEvents,
      event.envelope.toSignedInventoryEnvelope = request.payload)
    (hdevice : acknowledge request.id request.payloadSha256 w.device = .ok device) :
    InventorySync.Ok digest { w with device, requests } := by
  obtain ⟨rest,hitems⟩ := h.batch
  rw [hrequests, List.cons_append] at hitems
  obtain ⟨hleft,hframe⟩ := acknowledge_head h.device hitems.symm hdevice
  have hsub : device.items.Sublist w.device.items := by
    rw [hleft, ← hitems]
    exact List.sublist_cons_self _ _
  rw [hframe] at hsub hleft ⊢
  refine ⟨⟨?_,?_,?_,?_⟩,?_,?_,h.own,h.ascending,h.sent,?_,h.ledger,h.recorded,?_⟩
  · exact h.device.ascending.sublist hsub
  · exact h.device.identified.sublist hsub
  · exact fun item hitem => h.device.below item (hsub.subset hitem)
  · exact fun item hitem => h.device.signed item (hsub.subset hitem)
  · exact hleft ▸ List.prefix_append requests rest
  · exact fun item hitem => h.kept item (hsub.subset hitem)
  · exact fun e he item hitem => h.inOrder e he item (hsub.subset hitem)
  · intro e he
    rcases h.settled e he with hin | hevent
    · rw [← hitems, List.map_cons, List.mem_cons] at hin
      rcases hin with rfl | hin
      · exact .inr hrecorded
      · exact .inl (hleft ▸ hin)
    · exact .inr hevent

theorem InventorySync.Ok.stopped (h : w.Ok digest) : InventorySync.Ok digest { w with requests := [] } :=
  { h with batch := List.nil_prefix }

theorem InventorySync.Ok.post (h : w.Ok digest) (fate : Fate) : (w.post digest fate).Ok digest := by
  unfold InventorySync.post
  cases hrequests : w.requests with
  | nil => exact h
  | cons request requests =>
    have hsent := h.sending hrequests
    have hin : request.payload ∈ w.sent ++ [request.payload] := by simp
    cases fate with
    | answered receivedAt retry =>
      have harrived := hsent.received hin receivedAt
      dsimp only
      split
      · next result hanswer =>
        have hrecorded := hsent.accepted hin hanswer
        split
        · next device hdevice => exact harrived.acknowledged hrequests hrecorded hdevice
        · exact harrived.stopped
      · exact harrived.retried request retry
    | answerLost receivedAt retry => exact (hsent.received hin receivedAt).retried request retry
    | undelivered retry => exact hsent.retried request retry
    | interrupted arrival =>
      cases arrival with
      | none => exact hsent.stopped
      | some receivedAt => exact (hsent.received hin receivedAt).stopped

theorem InventorySync.Ok.queue {observedAt : String} {assets : List FleetInventoryAsset} {ids : List Nat}
    {device : InventoryOutbox} (h : w.Ok digest)
    (hqueued : queueInventory sign sha256 w.device.deviceId observedAt assets w.device =
      .ok (ids,device)) :
    InventorySync.Ok digest { w with
      device
      queued := w.queued ++ (device.rows.drop w.device.rows.length).map fun row =>
        row.pending.payload } := by
  have hdevice := h.device.queued hqueued
  obtain ⟨new,rfl,_,hsequences,hsigned⟩ := queueInventory_spec hqueued
  have hrange : ∀ row ∈ new, w.device.nextInventorySequence ≤ row.pending.sequence ∧
      row.pending.sequence < w.device.nextInventorySequence + assets.length := by
    intro row hrow
    have hmem : row.pending.sequence ∈ new.map (fun row => row.pending.sequence) :=
      List.mem_map_of_mem hrow
    rw [hsequences] at hmem
    simpa [List.mem_range'_1] using hmem
  simp only [List.drop_left]
  constructor
  · exact hdevice
  · simpa [InventoryOutbox.items] using h.batch.trans (List.prefix_append _ _)
  · intro item hitem
    simp only [InventoryOutbox.items, List.map_append, List.mem_append] at hitem ⊢
    rcases hitem with hitem | hitem
    · exact .inl (h.kept item hitem)
    · obtain ⟨row,hrow,rfl⟩ := List.mem_map.mp hitem
      exact .inr (List.mem_map_of_mem hrow)
  · intro e he
    rcases List.mem_append.mp he with he | he
    · have := h.own e he
      exact ⟨this.1,by dsimp only; omega⟩
    · obtain ⟨row,hrow,rfl⟩ := List.mem_map.mp he
      obtain ⟨hsequence,hown⟩ := hsigned row hrow
      exact ⟨hown,by rw [hsequence]; exact (hrange row hrow).2⟩
  · rw [List.pairwise_append]
    refine ⟨h.ascending,?_,?_⟩
    · rw [List.pairwise_map]
      have hrows : new.Pairwise fun a b => a.pending.sequence < b.pending.sequence :=
        List.pairwise_map.mp (hsequences ▸ List.pairwise_lt_range')
      refine hrows.imp_of_mem fun ha hb hlt => ?_
      rwa [(hsigned _ ha).1, (hsigned _ hb).1]
    · intro a ha b hb
      obtain ⟨row,hrow,rfl⟩ := List.mem_map.mp hb
      have := (h.own a ha).2
      have := (hrange row hrow).1
      rw [(hsigned row hrow).1]
      omega
  · exact fun e he => List.mem_append_left _ (h.sent e he)
  · intro e he item hitem
    simp only [InventoryOutbox.items, List.map_append, List.mem_append] at hitem
    rcases hitem with hitem | hitem
    · exact h.inOrder e he item hitem
    · obtain ⟨row,hrow,rfl⟩ := List.mem_map.mp hitem
      have := (h.own e (h.sent e he)).2
      have := (hrange row hrow).1
      omega
  · exact h.ledger
  · exact h.recorded
  · intro e he
    simp only [InventoryOutbox.items, List.map_append, List.mem_append, List.map_map] at he ⊢
    rcases he with he | he
    · exact (h.settled e he).imp_left fun hin => .inl (by simpa [InventoryOutbox.items] using hin)
    · exact .inl (.inr he)

theorem InventorySync.Ok.step (h : w.Ok digest) {action : SyncAction} (hunhurried : w.Unhurried action) :
    (w.step sign sha256 digest action).Ok digest := by
  cases action with
  | queue observedAt assets =>
    simp only [InventorySync.step]
    split
    · next ids device hqueued => exact h.queue hqueued
    · exact h
  | ready now limit =>
    simp only [InventorySync.step]
    split
    · next requests hready =>
      exact { h with batch := readyInventory_prefix h.device hunhurried hready }
    · exact h.stopped
  | post fate => exact h.post fate
  | restart => exact h.stopped
  | arrive index receivedAt =>
    simp only [InventorySync.step]
    split
    · next e he => exact h.received (List.mem_of_getElem? he) receivedAt
    · exact h
  | otherDevice delivery =>
    simp only [InventorySync.step]
    split_ifs with hother
    · exact h
    · exact h.delivered fun hsame => absurd hsame hother
  | revoke deviceId revokedAt =>
    have hevents : ((revokeDevice deviceId revokedAt).call w.server).2.inventoryEvents =
        w.server.inventoryEvents ++ [] := by
      simp only [Transaction.call, revokeDevice, List.append_nil]
      cases w.server.devices[deviceId]? with
      | none => rfl
      | some row => dsimp only; split_ifs <;> rfl
    exact h.grown (h.ledger.revoke deviceId revokedAt) hevents (by simp)

theorem InventorySync.Ok.play {actions : List SyncAction} (h : w.Ok digest)
    (hrun : w.UnhurriedRun sign sha256 digest actions) :
    (w.play sign sha256 digest actions).Ok digest := by
  induction actions generalizing w with
  | nil => exact h
  | cons action actions ih => exact ih (h.step hrun.1) hrun.2

theorem InventoryEnvelope.ext_signed {a b : InventoryEnvelope}
    (h : a.toSignedInventoryEnvelope = b.toSignedInventoryEnvelope) : a = b := by
  cases a
  cases b
  simp_all

theorem InventorySync.Ok.not_replay (h : w.Ok digest) {row : OutboxRow} (hrow : row ∈ w.device.rows)
    {e : InventoryEnvelope} (he : parseInventoryEnvelope row.pending.payload = some e)
    (receivedAt : String) : recordInventory e (digest e) receivedAt w.server ≠ .error .replay := by
  have hraw : e.toSignedInventoryEnvelope = row.pending.payload := by
    unfold parseInventoryEnvelope at he
    split_ifs at he
    exact (Option.some.inj he) ▸ rfl
  have hitem : row.pending ∈ w.device.items := List.mem_map_of_mem hrow
  have hqueued := h.kept _ hitem
  obtain ⟨hsequence,hown⟩ := h.device.signed _ hitem
  rw [← hraw] at hqueued hsequence hown
  intro herror
  obtain ⟨known,hdevice,hrefused⟩ := recordInventory_replay herror
  rw [hown] at hdevice
  rcases h.ledger.latest known hdevice with hzero | ⟨event,hevent,hsame,hlatest,hhash⟩
  · have := e.positive
    omega
  · -- The last event of the device was sent, so it does not come after the envelope.
    have hsent := h.recorded event hevent hsame
    have hle := h.inOrder _ hsent _ hitem
    rcases hrefused with ⟨hlast,hother⟩ | hbehind
    · have hone := h.queued_injective (h.sent _ hsent) hqueued (hlatest.trans hlast.symm)
      rw [InventoryEnvelope.ext_signed hone] at hhash
      exact hother hhash
    · omega

/-- The events under the sequence of a queued envelope: the envelope itself, or none while it is in the
outbox. -/
theorem InventorySync.Ok.recordedUnder (h : w.Ok digest) {e : SignedInventoryEnvelope}
    (he : e ∈ w.queued) :
    w.server.recordedUnder e = [e] ∨
      w.server.recordedUnder e = [] ∧ ∃ row ∈ w.device.rows, row.pending.payload = e := by
  have hown := (h.own e he).1
  have honly : ∀ c ∈ w.server.recordedUnder e, c = e := by
    intro c hc
    simp only [InventoryTables.recordedUnder, List.mem_filter, List.mem_map, decide_eq_true_eq] at hc
    obtain ⟨⟨event,hevent,rfl⟩,hdevice,hsequence⟩ := hc
    exact h.queued_injective (h.sent _ (h.recorded event hevent (hdevice.trans hown))) he hsequence
  have hdistinct : (w.server.recordedUnder e).Nodup := by
    unfold InventoryTables.recordedUnder
    rw [List.filter_map]
    refine List.pairwise_map.mpr ((h.ledger.distinct.filter _).imp_of_mem ?_)
    intro a b ha hb hlt heq
    have hdevice : ∀ event ∈ w.server.inventoryEvents.filter ((fun c => decide (c.deviceId = e.deviceId ∧
        c.sequence = e.sequence)) ∘ fun event : InventoryEvent =>
          event.envelope.toSignedInventoryEnvelope), event.envelope.deviceId = w.device.deviceId := by
      intro event hevent
      have hmatch := (List.mem_filter.mp hevent).2
      simp only [Function.comp_apply, decide_eq_true_eq] at hmatch
      exact hmatch.1.trans hown
    have hsequence := hlt (hdevice a ha) (hdevice b hb)
    rw [show a.envelope.sequence = b.envelope.sequence from congrArg
      (fun c => c.sequence) heq] at hsequence
    exact lt_irrefl _ hsequence
  have hshape : w.server.recordedUnder e = [] ∨ w.server.recordedUnder e = [e] := by
    cases hlist : w.server.recordedUnder e with
    | nil => exact .inl rfl
    | cons c cs =>
      rw [hlist] at honly hdistinct
      obtain rfl := honly c List.mem_cons_self
      cases cs with
      | nil => exact .inr rfl
      | cons c' cs =>
        have := honly c' (by simp)
        simp [this] at hdistinct
  rcases hshape with hnone | hone
  · refine .inr ⟨hnone,?_⟩
    rcases h.settled e he with hin | ⟨event,hevent,rfl⟩
    · obtain ⟨item,hitem,rfl⟩ := List.mem_map.mp hin
      obtain ⟨row,hrow,rfl⟩ := List.mem_map.mp hitem
      exact ⟨row,hrow,rfl⟩
    · have hmem : event.envelope.toSignedInventoryEnvelope ∈
          w.server.recordedUnder event.envelope.toSignedInventoryEnvelope := by
        simpa [InventoryTables.recordedUnder] using ⟨event,hevent,rfl⟩
      rw [hnone] at hmem
      cases hmem
  · exact .inl hone

/-- In every run in which no batch overtakes a row that waits for its retry time: nothing in the outbox is
refused as a replay, and every envelope that was queued is recorded once, at the latest when it leaves the
outbox. -/
theorem outbox_delivers_once {actions : List SyncAction} (hstart : w.Fresh)
    (hrun : w.UnhurriedRun sign sha256 digest actions) :
    (∀ row ∈ (w.play sign sha256 digest actions).device.rows, ∀ e receivedAt,
      parseInventoryEnvelope row.pending.payload = some e →
        recordInventory e (digest e) receivedAt (w.play sign sha256 digest actions).server ≠
          .error .replay) ∧
    ∀ e ∈ (w.play sign sha256 digest actions).queued,
      (w.play sign sha256 digest actions).server.recordedUnder e = [e] ∨
        (w.play sign sha256 digest actions).server.recordedUnder e = [] ∧
          ∃ row ∈ (w.play sign sha256 digest actions).device.rows, row.pending.payload = e := by
  have hok : (w.play sign sha256 digest actions).Ok digest := hstart.ok.play hrun
  exact ⟨fun row hrow e receivedAt he => hok.not_replay hrow he receivedAt,
    fun e he => hok.recordedUnder he⟩

end Delivery

namespace Sample

def fixedSignature (_ : String) (_ : Nat) (_ : String) (_ : FleetInventoryAsset) : Option String :=
  some signature

def batchSha256 (e : SignedInventoryEnvelope) : String :=
  if e.sequence = 1 then "fe9d75d287bdb3c83a7465dc04b3f6ee252c730b6bf9e5fb23ba6654ace72b31"
  else "bcc1ea9ab1ef229e19cb31156bac6deb6b53e2c4b0f4d8b99f8f12372337727d"

def batchDigest (e : InventoryEnvelope) : String := batchSha256 e.toSignedInventoryEnvelope

def newDevice : InventorySync where
  device := ⟨firstDevice,1,1,[]⟩
  requests := []
  server := enrolled
  queued := []
  sent := []

def twoAssets : List FleetInventoryAsset :=
  [asset .healthy,{ asset .attention with assetId := "asset-2" }]

/-- The first report does not get through. The second is sent before the first is tried again if the next
cycle starts early. -/
def delayedRun (secondCycle : Nat) : List SyncAction :=
  [.queue "2026-01-01T00:00:00Z" twoAssets,
    .ready 1767225600 256,.post (.undelivered ⟨1767225600,60⟩),
    .ready secondCycle 256,.post (.answered "2026-01-01T00:01:00.000Z" ⟨secondCycle,60⟩),
    .ready 1767225660 256]

theorem newDevice_fresh : newDevice.Fresh := by
  refine ⟨rfl,rfl,rfl,rfl,?_,by decide⟩
  intro row hrow
  have hzero : newDevice.server.devices[newDevice.device.deviceId]? = some ⟨none,0,none,none⟩ := by decide
  rw [hzero] at hrow
  exact (Option.some.inj hrow) ▸ rfl

end Sample

open Sample in
/-- The next cycle starts after 30 of 60 seconds: it sends the second envelope, and the first one, which
is still in the outbox and the next to be sent, is refused from then on. -/
theorem outbox_row_overtaken : newDevice.Fresh ∧
    let w := newDevice.play fixedSignature batchSha256 batchDigest (delayedRun 1767225630)
    w.device.rows.map OutboxRow.pending = w.requests ∧
    w.requests.map (fun request => request.payload) = [healthyReport.toSignedInventoryEnvelope] ∧
    (w.server.devices[firstDevice]?.map fun row => row.lastSequence) = some 2 ∧
    parseInventoryEnvelope healthyReport.toSignedInventoryEnvelope = some healthyReport ∧
    ((recordInventory healthyReport (batchDigest healthyReport) "2026-01-01T00:01:00.000Z").call
      w.server).1 = .error .replay := by
  refine ⟨newDevice_fresh,?_⟩
  decide +kernel

open Sample in
/-- The next cycle waits for the 60 seconds: the first envelope is recorded once, the second one is still
in the outbox and will not be refused. -/
theorem outbox_delivers_once_after_delay :
    let w := newDevice.play fixedSignature batchSha256 batchDigest (delayedRun 1767225660)
    w.server.recordedUnder healthyReport.toSignedInventoryEnvelope =
      [healthyReport.toSignedInventoryEnvelope] ∧ w.device.rows.length = 1 ∧
    ∀ row ∈ w.device.rows, ∀ e receivedAt, parseInventoryEnvelope row.pending.payload = some e →
      recordInventory e (batchDigest e) receivedAt w.server ≠ .error .replay := by
  have hrun : newDevice.UnhurriedRun fixedSignature batchSha256 batchDigest (delayedRun 1767225660) := by
    decide +kernel
  obtain ⟨haccepted,honce⟩ := outbox_delivers_once newDevice_fresh hrun
  refine ⟨(honce healthyReport.toSignedInventoryEnvelope ?_).resolve_right ?_,?_,haccepted⟩
  all_goals decide +kernel

end KernAid.Fleet
