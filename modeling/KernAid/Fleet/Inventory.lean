import KernAid.Fleet.Values

/-! The inventory of the control plane: the current row of an asset is the newest envelope that was
accepted for it, however the deliveries interleave. -/

set_option autoImplicit false

namespace KernAid.Fleet

open CrashLogic

inductive InventoryPlatform where
  | linux
  | windows
  | macos
  | unknown
deriving DecidableEq, Repr

inductive InventoryArchitecture where
  | x86_64
  | aarch64
  | other
deriving DecidableEq, Repr

inductive InventoryHealth where
  | healthy
  | attention
  | requiredAction
  | unknown
deriving DecidableEq, Repr

structure FleetFindingCounts where
  critical : Nat
  warning : Nat
  info : Nat
deriving DecidableEq, Repr

structure FleetInventoryAsset where
  assetId : String
  targetFingerprint : String
  platform : InventoryPlatform
  architecture : InventoryArchitecture
  osRelease : Option String
  health : InventoryHealth
  findingCounts : FleetFindingCounts
  snapshotSha256 : String
deriving DecidableEq, Repr

structure SignedInventoryEnvelope where
  deviceId : String
  sequence : Nat
  observedAt : String
  asset : FleetInventoryAsset
  signature : String
deriving DecidableEq, Repr

/-- An envelope that `parseInventoryEnvelope` accepts: its sequence is a positive safe integer, and the
time of the observation is one that `Date.parse` reads. -/
structure InventoryEnvelope [DateParse] extends SignedInventoryEnvelope where
  positive : 1 ≤ sequence
  safe : sequence ≤ maxSafeInteger
  observed : (DateParse.parse observedAt).isSome = true
deriving DecidableEq

/-- The columns of `devices` that the inventory reads and writes. -/
structure DeviceRow where
  revokedAt : Option String
  lastSequence : Nat
  lastEnvelopeHash : Option String
  lastSeenAt : Option String
deriving DecidableEq, Repr

structure InventoryEvent [DateParse] where
  envelope : InventoryEnvelope
  envelopeHash : String
  receivedAt : String
deriving DecidableEq

structure AssetRow where
  reportingDeviceId : String
  asset : FleetInventoryAsset
  sequence : Nat
  observedAt : String
  updatedAt : String
deriving DecidableEq, Repr

structure InventoryTables [DateParse] where
  devices : Table DeviceRow
  inventoryEvents : List InventoryEvent
  assets : Table AssetRow

structure InventoryRecordResult where
  idempotent : Bool
deriving DecidableEq, Repr

section Store

variable [DateParse]

/-- `shouldReplaceCurrentAsset`: later instant first, then the greater device, then the greater
sequence. -/
def shouldReplaceCurrentAsset (envelope : InventoryEnvelope) (current : Option AssetRow) :
    Except StoreError Bool :=
  match current with
  | none => .ok true
  | some current => do
    let incomingTime ← okOr (DateParse.parse envelope.observedAt) .invalid
    let currentTime ← okOr (DateParse.parse current.observedAt) .invalid
    if incomingTime ≠ currentTime then return decide (currentTime < incomingTime)
    if envelope.deviceId ≠ current.reportingDeviceId then
      return decide (current.reportingDeviceId < envelope.deviceId)
    return decide (current.sequence < envelope.sequence)

def assetRow (envelope : InventoryEnvelope) (receivedAt : String) : AssetRow :=
  ⟨envelope.deviceId,envelope.asset,envelope.sequence,envelope.observedAt,receivedAt⟩

def recordInventory (envelope : InventoryEnvelope) (envelopeHash receivedAt : String) :
    Transaction InventoryTables InventoryRecordResult := fun db => do
  let row ← okOr db.devices[envelope.deviceId]? .authorization
  require (row.revokedAt = none) .revoked
  if envelope.sequence = row.lastSequence then do
    require (row.lastEnvelopeHash = some envelopeHash) .replay
    return (⟨true⟩,db)
  else do
    require (row.lastSequence < envelope.sequence) .replay
    -- The primary key of `inventory_events`.
    require (∀ event ∈ db.inventoryEvents, ¬ (event.envelope.deviceId = envelope.deviceId ∧
      event.envelope.sequence = envelope.sequence)) .invalid
    let replace ← shouldReplaceCurrentAsset envelope db.assets[envelope.asset.assetId]?
    return (⟨false⟩,{
      devices := db.devices.insert envelope.deviceId { row with
        lastSequence := envelope.sequence
        lastEnvelopeHash := some envelopeHash
        lastSeenAt := some receivedAt }
      inventoryEvents := db.inventoryEvents ++ [⟨envelope,envelopeHash,receivedAt⟩]
      assets := if replace then
          db.assets.insert envelope.asset.assetId (assetRow envelope receivedAt)
        else db.assets })

/-- The part of `revokeDevice` that touches the device. The seat of the license that it gives back is
not part of these tables. -/
def revokeDevice (deviceId revokedAt : String) : Transaction InventoryTables Bool := fun db =>
  match db.devices[deviceId]? with
  | none => .ok (false,db)
  | some row =>
    if row.revokedAt = none then
      .ok (true,
        { db with devices := db.devices.insert deviceId { row with revokedAt := some revokedAt } })
    else .ok (true,db)

structure Delivery where
  envelope : InventoryEnvelope
  receivedAt : String

/-- The tables after a delivery, with the digest that the handler computes of the envelope. -/
def deliver (digest : InventoryEnvelope → String) (db : InventoryTables) (d : Delivery) :
    InventoryTables :=
  ((recordInventory d.envelope (digest d.envelope) d.receivedAt).call db).2

def isRecorded (digest : InventoryEnvelope → String) (db : InventoryTables) (d : Delivery) : Bool :=
  match recordInventory d.envelope (digest d.envelope) d.receivedAt db with
  | .ok (result,_) => !result.idempotent
  | .error _ => false

def deliverAll (digest : InventoryEnvelope → String) (db : InventoryTables) (ds : List Delivery) :
    InventoryTables :=
  ds.foldl (deliver digest) db

def accepted (digest : InventoryEnvelope → String) (db : InventoryTables) :
    List Delivery → List InventoryEnvelope
  | [] => []
  | d :: ds =>
    (if isRecorded digest db d then [d.envelope] else []) ++ accepted digest (deliver digest db d) ds

def InventoryEnvelope.instant (e : InventoryEnvelope) : Int :=
  (DateParse.parse e.observedAt).get e.observed

def InventoryEnvelope.version (e : InventoryEnvelope) : Int ×ₗ String ×ₗ Nat :=
  toLex (e.instant,toLex (e.deviceId,e.sequence))

def AssetRow.content (row : AssetRow) : AssetRow := { row with updatedAt := "" }

def InventoryEnvelope.row (e : InventoryEnvelope) : AssetRow := (assetRow e "").content

def InventoryTables.current (db : InventoryTables) (assetId : String) : Option AssetRow :=
  db.assets[assetId]?.map AssetRow.content

end Store

section Versions

variable [DateParse] {e c : InventoryEnvelope} {row : AssetRow}

theorem parse_observedAt (e : InventoryEnvelope) : DateParse.parse e.observedAt = some e.instant := by
  rw [InventoryEnvelope.instant, Option.some_get]

theorem version_lt_iff : c.version < e.version ↔ c.instant < e.instant ∨
    c.instant = e.instant ∧ (c.deviceId < e.deviceId ∨ c.deviceId = e.deviceId ∧
      c.sequence < e.sequence) := by
  simp only [InventoryEnvelope.version, Prod.Lex.lt_iff]
  rfl

theorem shouldReplace_row (h : row.content = c.row) :
    shouldReplaceCurrentAsset e (some row) = .ok (decide (c.version < e.version)) := by
  simp only [InventoryEnvelope.row, AssetRow.content, assetRow, AssetRow.mk.injEq, and_true] at h
  obtain ⟨hdevice,_,hsequence,hobserved⟩ := h
  simp only [shouldReplaceCurrentAsset, hobserved, parse_observedAt, okOr_some,
    ok_bind, hdevice, hsequence]
  by_cases htime : e.instant = c.instant
  · by_cases hname : e.deviceId = c.deviceId
    · simp [htime, hname, version_lt_iff, pure, Except.pure]
    · simp [htime, hname, version_lt_iff, pure, Except.pure, Ne.symm hname]
  · simp [htime, version_lt_iff, pure, Except.pure, Ne.symm htime]

theorem version_injective {e₁ e₂ : InventoryEnvelope} (h : e₁.version = e₂.version) :
    e₁.deviceId = e₂.deviceId ∧ e₁.sequence = e₂.sequence := by
  simp only [InventoryEnvelope.version, EmbeddingLike.apply_eq_iff_eq, Prod.mk.injEq] at h
  exact h.2

end Versions

section Steps

variable [DateParse] {digest : InventoryEnvelope → String} {db db' : InventoryTables}
    {e : InventoryEnvelope}
  {d : Delivery} {ds : List Delivery} {envelopeHash receivedAt : String}

/-- The tables that deliveries leave: every event has been counted by its device, and the row of an asset
is the newest of the envelopes `acc` that were recorded for it. -/
structure Tracks (db : InventoryTables) (acc : List InventoryEnvelope) : Prop where
  counted : ∀ event ∈ db.inventoryEvents, ∃ row, db.devices[event.envelope.deviceId]? = some row ∧
    event.envelope.sequence ≤ row.lastSequence
  newest : ∀ assetId, db.current assetId =
    ((acc.filter fun e => e.asset.assetId = assetId).argmax InventoryEnvelope.version).map
      InventoryEnvelope.row

def InventoryTables.recorded (db : InventoryTables) (row : DeviceRow) (e : InventoryEnvelope)
    (envelopeHash receivedAt : String) (replace : Bool) : InventoryTables where
  devices := db.devices.insert e.deviceId { row with
    lastSequence := e.sequence, lastEnvelopeHash := some envelopeHash, lastSeenAt := some receivedAt }
  inventoryEvents := db.inventoryEvents ++ [⟨e,envelopeHash,receivedAt⟩]
  assets := if replace then db.assets.insert e.asset.assetId (assetRow e receivedAt) else db.assets

variable {acc : List InventoryEnvelope} {row : DeviceRow}

theorem recordInventory_cases (e : InventoryEnvelope) (envelopeHash receivedAt : String)
    (db : InventoryTables) :
    (∃ row replace, db.devices[e.deviceId]? = some row ∧ row.revokedAt = none ∧
      row.lastSequence < e.sequence ∧
      shouldReplaceCurrentAsset e db.assets[e.asset.assetId]? = .ok replace ∧
      recordInventory e envelopeHash receivedAt db =
        .ok (⟨false⟩,db.recorded row e envelopeHash receivedAt replace)) ∨
    (∃ row, db.devices[e.deviceId]? = some row ∧ row.revokedAt = none ∧ e.sequence = row.lastSequence ∧
      row.lastEnvelopeHash = some envelopeHash ∧
      recordInventory e envelopeHash receivedAt db = .ok (⟨true⟩,db)) ∨
    ∃ error, recordInventory e envelopeHash receivedAt db = .error error := by
  cases h : recordInventory e envelopeHash receivedAt db with
  | error error => exact .inr (.inr ⟨error,rfl⟩)
  | ok committed =>
    have h' := h
    simp only [recordInventory, okOr_bind_eq_ok, require_bind_eq_ok] at h'
    obtain ⟨row,hrow,hlive,h'⟩ := h'
    split at h'
    · next hlast =>
      simp only [require_bind_eq_ok, pure_eq_ok_iff] at h'
      obtain ⟨hhash,rfl⟩ := h'
      exact .inr (.inl ⟨row,hrow,hlive,hlast,hhash,rfl⟩)
    · simp only [require_bind_eq_ok] at h'
      obtain ⟨hlater,_,h'⟩ := h'
      obtain ⟨replace,hreplace,h'⟩ := bind_ok_iff.mp h'
      rw [pure_eq_ok_iff] at h'
      subst h'
      exact .inl ⟨row,replace,hrow,hlive,hlater,hreplace,rfl⟩

theorem recordInventory_records (envelopeHash receivedAt : String) (htracks : Tracks db acc)
    (hrow : db.devices[e.deviceId]? = some row) (hlive : row.revokedAt = none)
    (hlater : row.lastSequence < e.sequence) : ∃ replace,
      shouldReplaceCurrentAsset e db.assets[e.asset.assetId]? = .ok replace ∧
      recordInventory e envelopeHash receivedAt db =
        .ok (⟨false⟩,db.recorded row e envelopeHash receivedAt replace) := by
  obtain ⟨replace,hreplace⟩ : ∃ replace,
      shouldReplaceCurrentAsset e db.assets[e.asset.assetId]? = .ok replace := by
    have hnewest := htracks.newest e.asset.assetId
    rw [InventoryTables.current] at hnewest
    cases hcurrent : db.assets[e.asset.assetId]? with
    | none => exact ⟨true,rfl⟩
    | some current =>
      rw [hcurrent, Option.map_some] at hnewest
      obtain ⟨c,_,hc⟩ := Option.map_eq_some_iff.mp hnewest.symm
      exact ⟨_,shouldReplace_row hc.symm⟩
  refine ⟨replace,hreplace,?_⟩
  have hkey : ∀ event ∈ db.inventoryEvents, ¬ (event.envelope.deviceId = e.deviceId ∧
      event.envelope.sequence = e.sequence) := by
    rintro event hevent ⟨hdevice,hsequence⟩
    obtain ⟨row',hrow',hle⟩ := htracks.counted event hevent
    rw [hdevice, hrow] at hrow'
    obtain rfl := Option.some.inj hrow'
    omega
  have hne : e.sequence ≠ row.lastSequence := by omega
  simp only [recordInventory, hrow, okOr_some, ok_bind, hne, if_false, hreplace, require_bind_eq_ok]
  exact ⟨hlive,hlater,hkey,rfl⟩

theorem Tracks.recorded {replace : Bool} (h : Tracks db acc)
    (hrow : db.devices[e.deviceId]? = some row) (hlater : row.lastSequence < e.sequence)
    (hreplace : shouldReplaceCurrentAsset e db.assets[e.asset.assetId]? = .ok replace) :
    Tracks (db.recorded row e envelopeHash receivedAt replace) (acc ++ [e]) := by
  constructor
  · intro event hevent
    simp only [InventoryTables.recorded, List.mem_append, List.mem_singleton] at hevent ⊢
    rw [getElem?_insert_ite]
    rcases hevent with hevent | rfl
    · obtain ⟨row',hrow',hle⟩ := h.counted event hevent
      split_ifs with hdevice
      · rw [hdevice, hrow] at hrow'
        obtain rfl := Option.some.inj hrow'
        exact ⟨_,rfl,hle.trans hlater.le⟩
      · exact ⟨row',hrow',hle⟩
    · rw [if_pos rfl]
      exact ⟨_,rfl,le_rfl⟩
  · intro assetId
    have hnewest := h.newest assetId
    by_cases hasset : e.asset.assetId = assetId
    · subst hasset
      have hfilter : (acc ++ [e]).filter (fun c => decide (c.asset.assetId = e.asset.assetId)) =
          acc.filter (fun c => decide (c.asset.assetId = e.asset.assetId)) ++ [e] := by
        simp [List.filter_append]
      rw [hfilter, List.argmax_concat]
      simp only [InventoryTables.current, InventoryTables.recorded] at hnewest ⊢
      cases hcurrent : db.assets[e.asset.assetId]? with
      | none =>
        rw [hcurrent, Option.map_none] at hnewest
        rw [Option.map_eq_none_iff.mp hnewest.symm]
        rw [hcurrent] at hreplace
        obtain rfl : replace = true := (Except.ok.inj hreplace).symm
        simp [InventoryEnvelope.row, AssetRow.content, assetRow]
      | some current =>
        rw [hcurrent, Option.map_some] at hnewest
        obtain ⟨c,hc,hrowc⟩ := Option.map_eq_some_iff.mp hnewest.symm
        rw [hcurrent, shouldReplace_row hrowc.symm] at hreplace
        rw [hc]
        obtain rfl := (Except.ok.inj hreplace).symm
        by_cases hlt : c.version < e.version
        · simp [hlt, InventoryEnvelope.row, AssetRow.content, assetRow]
        · simp [hlt, hcurrent, hrowc]
    · have hfilter : (acc ++ [e]).filter (fun e => decide (e.asset.assetId = assetId)) =
          acc.filter fun e => decide (e.asset.assetId = assetId) := by
        simp [List.filter_append, hasset]
      rw [hfilter, ← hnewest]
      simp only [InventoryTables.current, InventoryTables.recorded]
      split_ifs
      · rw [getElem?_insert_ite, if_neg (Ne.symm hasset)]
      · rfl

theorem deliver_of_not_recorded (h : isRecorded digest db d = false) : deliver digest db d = db := by
  rcases recordInventory_cases d.envelope (digest d.envelope) d.receivedAt db with
    ⟨row,replace,_,_,_,_,hok⟩ | ⟨row,_,_,_,_,hok⟩ | ⟨error,herror⟩
  · simp [isRecorded, hok] at h
  · rw [deliver, Transaction.call_ok hok]
  · rw [deliver, Transaction.call_error herror]

theorem deliver_of_recorded (h : isRecorded digest db d = true) : ∃ row replace,
    db.devices[d.envelope.deviceId]? = some row ∧ row.revokedAt = none ∧
      row.lastSequence < d.envelope.sequence ∧
      shouldReplaceCurrentAsset d.envelope db.assets[d.envelope.asset.assetId]? = .ok replace ∧
      deliver digest db d = db.recorded row d.envelope (digest d.envelope) d.receivedAt replace := by
  rcases recordInventory_cases d.envelope (digest d.envelope) d.receivedAt db with
    ⟨row,replace,hrow,hlive,hlater,hreplace,hok⟩ | ⟨row,_,_,_,_,hok⟩ | ⟨error,herror⟩
  · exact ⟨row,replace,hrow,hlive,hlater,hreplace,by rw [deliver, Transaction.call_ok hok]⟩
  · simp [isRecorded, hok] at h
  · simp [isRecorded, herror] at h

theorem Tracks.deliver (h : Tracks db acc) :
    Tracks (deliver digest db d) (acc ++ if isRecorded digest db d then [d.envelope] else []) := by
  cases hrecorded : isRecorded digest db d with
  | false =>
    rw [deliver_of_not_recorded hrecorded]
    simpa using h
  | true =>
    obtain ⟨row,replace,hrow,_,hlater,hreplace,hdeliver⟩ := deliver_of_recorded hrecorded
    rw [hdeliver, if_pos rfl]
    exact h.recorded hrow hlater hreplace

theorem Tracks.deliverAll (h : Tracks db acc) :
    Tracks (deliverAll digest db ds) (acc ++ accepted digest db ds) := by
  induction ds generalizing db acc with
  | nil => simpa [accepted, Fleet.deliverAll] using h
  | cons d ds ih =>
    rw [accepted, ← List.append_assoc]
    exact ih h.deliver

def ascending (last : Nat) : List InventoryEnvelope → List InventoryEnvelope
  | [] => []
  | e :: es => if last < e.sequence then e :: ascending e.sequence es else ascending last es

def recordable (row : Option DeviceRow) (es : List InventoryEnvelope) : List InventoryEnvelope :=
  match row with
  | none => []
  | some row => if row.revokedAt = none then ascending row.lastSequence es else []

theorem isRecorded_iff (h : Tracks db acc) : isRecorded digest db d = true ↔
    ∃ row, db.devices[d.envelope.deviceId]? = some row ∧ row.revokedAt = none ∧
      row.lastSequence < d.envelope.sequence := by
  constructor
  · intro hrecorded
    obtain ⟨row,_,hrow,hlive,hlater,_⟩ := deliver_of_recorded hrecorded
    exact ⟨row,hrow,hlive,hlater⟩
  · rintro ⟨row,hrow,hlive,hlater⟩
    obtain ⟨_,_,hok⟩ := recordInventory_records (digest d.envelope) d.receivedAt h hrow hlive hlater
    simp [isRecorded, hok]

theorem accepted_of_device (h : Tracks db acc) (deviceId : String) :
    (accepted digest db ds).filter (fun e => e.deviceId = deviceId) =
      recordable db.devices[deviceId]?
        ((ds.map Delivery.envelope).filter fun e => e.deviceId = deviceId) := by
  induction ds generalizing db acc with
  | nil =>
    cases hrow : db.devices[deviceId]? <;> simp [accepted, recordable, ascending]
  | cons d ds ih =>
    rw [accepted, List.filter_append, ih h.deliver, List.map_cons]
    by_cases hrecorded : isRecorded digest db d = true
    · obtain ⟨row,replace,hrow,hlive,hlater,_,hdeliver⟩ := deliver_of_recorded hrecorded
      rw [if_pos hrecorded, hdeliver]
      simp only [InventoryTables.recorded, getElem?_insert_ite]
      by_cases hdevice : d.envelope.deviceId = deviceId
      · subst hdevice
        simp [hrow, recordable, hlive, ascending, hlater]
      · simp [hdevice, Ne.symm hdevice]
    · rw [if_neg hrecorded, deliver_of_not_recorded (Bool.eq_false_iff.mpr hrecorded)]
      rw [isRecorded_iff h] at hrecorded
      by_cases hdevice : d.envelope.deviceId = deviceId
      · subst hdevice
        -- The device is unknown, revoked or ahead: its row keeps the envelope out.
        cases hrow : db.devices[d.envelope.deviceId]? with
        | none => simp [recordable]
        | some row =>
          by_cases hlive : row.revokedAt = none
          · have hnot : ¬ row.lastSequence < d.envelope.sequence :=
              fun hlater => hrecorded ⟨row,hrow,hlive,hlater⟩
            simp [recordable, hlive, ascending, hnot]
          · simp [recordable, hlive]
      · simp [hdevice]

theorem ascending_pairwise (es : List InventoryEnvelope) (last : Nat) :
    (ascending last es).Pairwise (fun a b => a.sequence < b.sequence) ∧
      ∀ e ∈ ascending last es, last < e.sequence := by
  induction es generalizing last with
  | nil => simp [ascending]
  | cons e es ih =>
    rw [ascending]
    split_ifs with hlater
    · obtain ⟨hpairwise,hall⟩ := ih e.sequence
      refine ⟨List.pairwise_cons.mpr ⟨hall,hpairwise⟩,?_⟩
      rw [List.forall_mem_cons]
      exact ⟨hlater,fun c hc => hlater.trans (hall c hc)⟩
    · exact ih last

theorem accepted_increases (h : Tracks db acc) (deviceId : String) :
    ((accepted digest db ds).filter fun e => e.deviceId = deviceId).Pairwise
      fun a b => a.sequence < b.sequence := by
  rw [accepted_of_device h]
  unfold recordable
  split
  · exact .nil
  · split
    · exact (ascending_pairwise _ _).1
    · exact .nil

theorem accepted_version_injective (h : Tracks db acc) {a b : InventoryEnvelope}
    (ha : a ∈ accepted digest db ds) (hb : b ∈ accepted digest db ds)
    (hversion : a.version = b.version) :
    a = b := by
  obtain ⟨hdevice,hsequence⟩ := version_injective hversion
  have hdistinct : (((accepted digest db ds).filter fun e => e.deviceId = a.deviceId).map
      fun e => e.sequence).Nodup :=
    List.pairwise_map.mpr ((accepted_increases h a.deviceId).imp fun hlt => hlt.ne)
  exact List.inj_on_of_nodup_map hdistinct (by simpa using ha) (by simpa [hdevice] using hb) hsequence

theorem accepted_append {ds' : List Delivery} : accepted digest db (ds ++ ds') =
    accepted digest db ds ++ accepted digest (deliverAll digest db ds) ds' := by
  induction ds generalizing db with
  | nil => rfl
  | cons d ds ih =>
    rw [List.cons_append, accepted, accepted, ih, List.append_assoc]
    rfl

theorem row_of_last {deviceId : String}
    (h : ((accepted digest db ds).filter fun e => e.deviceId = deviceId).getLast? = some e) :
    ∃ row, (deliverAll digest db ds).devices[deviceId]? = some row ∧ row.revokedAt = none ∧
      row.lastSequence = e.sequence ∧ row.lastEnvelopeHash = some (digest e) := by
  induction ds using List.reverseRecOn with
  | nil => simp [accepted] at h
  | append_singleton ds d ih =>
    rw [accepted_append, List.filter_append] at h
    rw [deliverAll, List.foldl_append]
    change ∃ row, (deliver digest (deliverAll digest db ds) d).devices[deviceId]? = some row ∧ _
    by_cases hrecorded : isRecorded digest (deliverAll digest db ds) d = true
    · obtain ⟨row,replace,hrow,hlive,_,_,hdeliver⟩ := deliver_of_recorded hrecorded
      rw [hdeliver]
      simp only [InventoryTables.recorded, getElem?_insert_ite]
      by_cases hdevice : d.envelope.deviceId = deviceId
      · have hlast : d.envelope = e := by simpa [accepted, hrecorded, hdevice] using h
        subst hlast hdevice
        exact ⟨_,if_pos rfl,hlive,rfl,rfl⟩
      · rw [if_neg (Ne.symm hdevice)]
        exact ih (by simpa [accepted, hrecorded, hdevice] using h)
    · rw [deliver_of_not_recorded (Bool.eq_false_iff.mpr hrecorded)]
      exact ih (by simpa [accepted, hrecorded] using h)

theorem deliverAll_of_revoked {deviceId : String} (hrow : db.devices[deviceId]? = some row)
    (hrevoked : row.revokedAt ≠ none) :
    deliverAll digest db ds = deliverAll digest db
      (ds.filter fun d => d.envelope.deviceId ≠ deviceId) := by
  induction ds generalizing db with
  | nil => rfl
  | cons d ds ih =>
    by_cases hdevice : d.envelope.deviceId = deviceId
    · have hnot : isRecorded digest db d = false := by
        rw [Bool.eq_false_iff]
        intro hrecorded
        obtain ⟨row',_,hrow',hlive,_⟩ := deliver_of_recorded hrecorded
        rw [hdevice, hrow] at hrow'
        exact hrevoked (Option.some.inj hrow' ▸ hlive)
      have hstep : deliverAll digest db (d :: ds) = deliverAll digest (deliver digest db d) ds := rfl
      rw [hstep, deliver_of_not_recorded hnot, ih hrow]
      simp [hdevice]
    · have hkept : (deliver digest db d).devices[deviceId]? = some row := by
        by_cases hrecorded : isRecorded digest db d = true
        · obtain ⟨_,_,_,_,_,_,hdeliver⟩ := deliver_of_recorded hrecorded
          rw [hdeliver, InventoryTables.recorded, getElem?_insert_ite, if_neg (Ne.symm hdevice)]
          exact hrow
        · rw [deliver_of_not_recorded (Bool.eq_false_iff.mpr hrecorded)]
          exact hrow
      have hfilter : (d :: ds).filter (fun d => decide (d.envelope.deviceId ≠ deviceId)) =
          d :: ds.filter fun d => decide (d.envelope.deviceId ≠ deviceId) := by
        simp [hdevice]
      rw [hfilter]
      exact ih hkept

theorem argmax_version_congr {l l' : List InventoryEnvelope} (hmem : ∀ e, e ∈ l ↔ e ∈ l')
    (hinj : ∀ a ∈ l, ∀ b ∈ l, a.version = b.version → a = b) :
    l.argmax InventoryEnvelope.version = l'.argmax InventoryEnvelope.version := by
  cases hl : l.argmax InventoryEnvelope.version with
  | none =>
    have hnil : l' = [] := by
      rw [List.argmax_eq_none] at hl
      exact List.eq_nil_iff_forall_not_mem.mpr fun e he => by simpa [hl] using (hmem e).mpr he
    rw [hnil, List.argmax_nil]
  | some a =>
    have ha := List.argmax_mem hl
    cases hl' : l'.argmax InventoryEnvelope.version with
    | none =>
      rw [List.argmax_eq_none] at hl'
      simpa [hl'] using (hmem a).mp ha
    | some b =>
      have hb := (hmem b).mpr (List.argmax_mem hl')
      have hle := List.le_of_mem_argmax hb hl
      have hge := List.le_of_mem_argmax ((hmem a).mp ha) hl'
      rw [hinj a ha b hb (le_antisymm hge hle)]

theorem mem_accepted_iff {first second : List Delivery} (h : Tracks db acc)
    (hsame : ∀ deviceId, (first.map Delivery.envelope).filter (fun e => e.deviceId = deviceId) =
      (second.map Delivery.envelope).filter fun e => e.deviceId = deviceId) :
    e ∈ accepted digest db first ↔ e ∈ accepted digest db second := by
  have hdevice : (accepted digest db first).filter (fun c => c.deviceId = e.deviceId) =
      (accepted digest db second).filter fun c => c.deviceId = e.deviceId := by
    rw [accepted_of_device h, accepted_of_device h, hsame]
  have hfirst : e ∈ (accepted digest db first).filter (fun c => c.deviceId = e.deviceId) ↔
      e ∈ accepted digest db first := by simp
  rw [← hfirst, hdevice]
  simp

theorem tracks_empty (hassets : db.assets = ∅) (hevents : db.inventoryEvents = []) : Tracks db [] where
  counted := by simp [hevents]
  newest assetId := by simp [InventoryTables.current, hassets]

end Steps

section Convergence

variable [DateParse] {digest : InventoryEnvelope → String} {db : InventoryTables}
    {first second : List Delivery}

/-- Two interleavings of the deliveries of a tenant that keep the order of each device leave the same
current row of every asset. The row is the recorded envelope with the latest instant, then the greatest
device, then the greatest sequence. The recorded sequences of a device strictly increase, a greater one is
recorded unless the device is revoked, its latest envelope can be repeated without effect, and a revoked
device changes nothing. -/
theorem inventory_converges (hassets : db.assets = ∅) (hevents : db.inventoryEvents = [])
    (hsame : ∀ deviceId, (first.map Delivery.envelope).filter (fun e => e.deviceId = deviceId) =
      (second.map Delivery.envelope).filter fun e => e.deviceId = deviceId) :
    (∀ assetId, (deliverAll digest db first).current assetId =
      (deliverAll digest db second).current assetId) ∧
    (∀ assetId, (∀ e ∈ accepted digest db first, e.asset.assetId ≠ assetId) →
      (deliverAll digest db first).current assetId = none) ∧
    (∀ e ∈ accepted digest db first, ∃ newest ∈ accepted digest db first,
      newest.asset.assetId = e.asset.assetId ∧
      (deliverAll digest db first).current e.asset.assetId = some newest.row ∧
      ∀ other ∈ accepted digest db first, other.asset.assetId = e.asset.assetId → other ≠ newest →
        other.version < newest.version) ∧
    (∀ deviceId, ((accepted digest db first).filter fun e => e.deviceId = deviceId).Pairwise
      fun a b => a.sequence < b.sequence) ∧
    (∀ deviceId e receivedAt,
      ((accepted digest db first).filter fun e => e.deviceId = deviceId).getLast? = some e →
      (recordInventory e (digest e) receivedAt).call (deliverAll digest db first) =
        (.ok ⟨true⟩,deliverAll digest db first)) ∧
    (∀ d row, (deliverAll digest db first).devices[d.envelope.deviceId]? = some row →
      row.revokedAt = none → row.lastSequence < d.envelope.sequence →
      accepted digest db (first ++ [d]) = accepted digest db first ++ [d.envelope]) ∧
    ∀ (tables : InventoryTables) (deviceId : String) (row : DeviceRow) (ds : List Delivery),
      tables.devices[deviceId]? = some row → row.revokedAt ≠ none →
      deliverAll digest tables ds =
        deliverAll digest tables (ds.filter fun d => d.envelope.deviceId ≠ deviceId) := by
  have hstart := tracks_empty hassets hevents
  have htracks : ∀ ds, Tracks (deliverAll digest db ds) (accepted digest db ds) :=
    fun ds => hstart.deliverAll
  have hinj : ∀ ds assetId, ∀ a ∈ (accepted digest db ds).filter (fun e => e.asset.assetId = assetId),
      ∀ b ∈ (accepted digest db ds).filter (fun e => e.asset.assetId = assetId),
      a.version = b.version → a = b := by
    intro ds assetId a ha b hb hversion
    exact accepted_version_injective hstart (List.mem_of_mem_filter ha)
      (List.mem_of_mem_filter hb) hversion
  refine ⟨fun assetId => ?_,fun assetId hnone => ?_,fun e he => ?_,accepted_increases hstart,?_,?_,?_⟩
  · rw [(htracks first).newest, (htracks second).newest]
    refine congrArg _ (argmax_version_congr (fun e => ?_) (hinj first assetId))
    simp only [List.mem_filter, mem_accepted_iff hstart hsame]
  · have hfilter : (accepted digest db first).filter (fun e => e.asset.assetId = assetId) = [] := by
      simpa using hnone
    rw [(htracks first).newest, hfilter]
    rfl
  · have hne : ((accepted digest db first).filter fun c => c.asset.assetId = e.asset.assetId).argmax
        InventoryEnvelope.version ≠ none := by
      rw [Ne, List.argmax_eq_none]
      exact List.ne_nil_of_mem (by simpa using he : e ∈ _)
    obtain ⟨newest,hnewest⟩ := Option.ne_none_iff_exists'.mp hne
    have hmem := List.argmax_mem hnewest
    refine ⟨newest,List.mem_of_mem_filter hmem,by simpa using (List.mem_filter.mp hmem).2,?_,?_⟩
    · rw [(htracks first).newest, hnewest]
      rfl
    · intro other hother hasset hdiffers
      have hin : other ∈ (accepted digest db first).filter fun c =>
          c.asset.assetId = e.asset.assetId := by
        simpa using ⟨hother,hasset⟩
      refine lt_of_le_of_ne (List.le_of_mem_argmax hin hnewest) fun heq => hdiffers ?_
      exact hinj first e.asset.assetId other hin newest hmem heq
  · intro deviceId e receivedAt hlast
    obtain ⟨row,hrow,hlive,hsequence,hhash⟩ := row_of_last hlast
    have hdevice : e.deviceId = deviceId := by
      have hmem := List.mem_of_getLast? hlast
      simpa using (List.mem_filter.mp hmem).2
    subst hdevice
    refine Transaction.call_ok ?_
    simp [recordInventory, hrow, hlive, hsequence, hhash, require, pure, Except.pure]
  · intro d row hrow hlive hlater
    have hrecorded : isRecorded digest (deliverAll digest db first) d = true :=
      (isRecorded_iff (htracks first)).mpr ⟨row,hrow,hlive,hlater⟩
    rw [accepted_append, accepted, if_pos hrecorded, accepted, List.append_nil]
  · intro tables deviceId row ds hrow hrevoked
    exact deliverAll_of_revoked hrow hrevoked

end Convergence

namespace Sample

/-- `Date.parse` on the two spellings of one instant that the samples use. -/
scoped instance sampleDates : DateParse where
  parse
    | "2026-01-01T00:00:00Z" => some 1767225600000
    | "2026-01-01T01:00:00+01:00" => some 1767225600000
    | _ => none

def firstDevice : String := "KA-00000000000000000000000a"

def secondDevice : String := "KA-00000000000000000000000b"

def asset (health : InventoryHealth) : FleetInventoryAsset :=
  ⟨"asset-1",String.ofList (List.replicate 64 '1'),.linux,.x86_64,none,health,⟨0,0,0⟩,
    String.ofList (List.replicate 64 '2')⟩

def signature : String := String.ofList (List.replicate 86 'A')

def healthyReport : InventoryEnvelope :=
  ⟨⟨firstDevice,1,"2026-01-01T00:00:00Z",asset .healthy,signature⟩,le_rfl,by decide,by decide⟩

def attentionReport : InventoryEnvelope :=
  ⟨⟨secondDevice,1,"2026-01-01T01:00:00+01:00",asset .attention,signature⟩,le_rfl,by decide,by decide⟩

/-- `sha256Hex(canonicalJson(envelope))` of the two reports. -/
def reportDigest (e : InventoryEnvelope) : String :=
  if e.deviceId = firstDevice then
    "fe9d75d287bdb3c83a7465dc04b3f6ee252c730b6bf9e5fb23ba6654ace72b31"
  else "4c304d5e94b39ad3d11605aaeb6199eb2dc0c955aa9a1a689aa9cd7e1d99afac"

def enrolled : InventoryTables where
  devices := ((∅ : Table DeviceRow).insert firstDevice ⟨none,0,none,none⟩).insert secondDevice
    ⟨none,0,none,none⟩
  inventoryEvents := []
  assets := ∅

end Sample

open Sample in
/-- Two reports of one instant: the row is that of the greater device, whichever comes first. -/
theorem inventory_converges_equal_instants :
    (deliverAll reportDigest enrolled [⟨healthyReport,"t1"⟩,⟨attentionReport,"t2"⟩]).current "asset-1" =
        some attentionReport.row ∧
      (deliverAll reportDigest enrolled [⟨attentionReport,"t1"⟩,⟨healthyReport,"t2"⟩]).current "asset-1" =
        some attentionReport.row := by
  have hlast : (deliverAll reportDigest enrolled [⟨attentionReport,"t1"⟩,⟨healthyReport,"t2"⟩]).current
      "asset-1" = some attentionReport.row := by decide +kernel
  refine ⟨((inventory_converges rfl rfl fun deviceId => ?_).1 "asset-1").trans hlast,hlast⟩
  have hapart : firstDevice ≠ secondDevice := by decide
  by_cases hfirst : firstDevice = deviceId
  · subst hfirst
    simp [healthyReport, attentionReport, hapart.symm]
  · by_cases hsecond : secondDevice = deviceId
    · subst hsecond
      simp [healthyReport, attentionReport, hapart]
    · simp [healthyReport, attentionReport, hfirst, hsecond]

end KernAid.Fleet
