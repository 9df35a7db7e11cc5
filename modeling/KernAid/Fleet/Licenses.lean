import KernAid.Fleet.Values

/-! The import of an enterprise license, and the seats that devices and technicians take, from
`store.ts`. -/

set_option autoImplicit false

namespace KernAid.Fleet

open CrashLogic

inductive EnterpriseLicensePlan where
  | fleet
  | enterprise
deriving DecidableEq, Repr

inductive EnterpriseLicenseFeature where
  | deviceManagement
  | entitlements
  | incidents
  | policy
  | remoteDiagnosis
  | remoteRepair
  | technicianSeats
  | updates
deriving DecidableEq, Repr

def EnterpriseLicenseFeature.text : EnterpriseLicenseFeature → String
  | .deviceManagement => "device_management"
  | .entitlements => "entitlements"
  | .incidents => "incidents"
  | .policy => "policy"
  | .remoteDiagnosis => "remote_diagnosis"
  | .remoteRepair => "remote_repair"
  | .technicianSeats => "technician_seats"
  | .updates => "updates"

structure EnterpriseLicenseClaims where
  licenseId : String
  sequence : Nat
  keyId : String
  plan : EnterpriseLicensePlan
  features : List EnterpriseLicenseFeature
  deviceLimit : Nat
  seatLimit : Nat
  issuedAtUnix : Int
  notBeforeUnix : Int
  expiresAtUnix : Int
  graceUntilUnix : Int
deriving DecidableEq, Repr

structure EnterpriseLicenseRow where
  claims : EnterpriseLicenseClaims
  envelopeSha256 : String
  canonicalJson : String
  importedAt : String
  revokedAt : Option String
deriving DecidableEq, Repr

inductive EnterpriseSeatKind where
  | device
  | technician
deriving DecidableEq, Repr

structure EnterpriseLicenseSeatRow where
  assignmentId : String
  assignedAt : String
  revokedAt : Option String
deriving DecidableEq, Repr

inductive EnterpriseLicenseEventKind where
  | clockRollback
  | licenseImported
  | licenseRevoked
  | seatAssigned
  | seatRevoked
deriving DecidableEq, Repr

structure EnterpriseLicenseEvent where
  occurredAt : String
  kind : EnterpriseLicenseEventKind
  actorId : String
  detailSha256 : String
deriving DecidableEq, Repr

structure EnterpriseLicenseEventRow extends EnterpriseLicenseEvent where
  sequence : Nat
deriving DecidableEq, Repr

/-- The columns of `devices` that enrolment writes. -/
structure EnrolledDeviceRow where
  publicKeySpki : String
  platform : String
  agentVersion : String
  enrolledAt : String
  revokedAt : Option String
deriving DecidableEq, Repr

inductive TenantRole where
  | admin
  | operator
deriving DecidableEq, Repr

structure TenantAccessCredentialRow where
  tokenHash : String
  role : TenantRole
  label : String
  createdAt : String
  revokedAt : Option String
deriving DecidableEq, Repr

structure EnrollmentTokenRow where
  createdAt : String
  expiresAtMs : Int
  usedAt : Option String
deriving DecidableEq, Repr

/-- The tables of one tenant that seats are kept in. The seats are found by their kind and subject, which
are unique. `otherTokenHashes` are the token hashes of other tenants, which are unique over all of
them. -/
structure LicenseTables where
  license : Option EnterpriseLicenseRow
  deviceSeats : Table EnterpriseLicenseSeatRow
  technicianSeats : Table EnterpriseLicenseSeatRow
  events : List EnterpriseLicenseEventRow
  devices : Table EnrolledDeviceRow
  credentials : Table TenantAccessCredentialRow
  enrollmentTokens : Table EnrollmentTokenRow
  otherTokenHashes : List String

/-- The digests that seats and their events are named by. -/
class SeatCodec where
  enterpriseSeatAssignmentId : EnterpriseSeatKind → String → String
  seatSha256 : EnterpriseSeatKind → String → String

def maxEnterpriseLicenseEvents : Nat := 10000

def maxTenantAccessCredentials : Nat := 256

def maxLicensedDevices : Nat := 100000

def maxLicensedTechnicians : Nat := 10000

def bootstrapAdmin : String := "bootstrap-admin"

/-- `/^[A-Za-z0-9][A-Za-z0-9 ._@+-]*$/` with at most 80 characters. -/
def validCredentialLabel (value : String) : Bool :=
  match value.toList with
  | [] => false
  | c :: cs => c.isAlphanum && cs.all (fun c => c.isAlphanum || c ∈ [' ', '.', '_', '@', '+', '-']) &&
      value.length ≤ 80

def LicenseTables.seats (db : LicenseTables) : EnterpriseSeatKind → Table EnterpriseLicenseSeatRow
  | .device => db.deviceSeats
  | .technician => db.technicianSeats

def LicenseTables.setSeat (db : LicenseTables) (kind : EnterpriseSeatKind) (subjectId : String)
    (row : EnterpriseLicenseSeatRow) : LicenseTables :=
  match kind with
  | .device => { db with deviceSeats := db.deviceSeats.insert subjectId row }
  | .technician => { db with technicianSeats := db.technicianSeats.insert subjectId row }

def LicenseTables.activeSeats (db : LicenseTables) (kind : EnterpriseSeatKind) : Nat :=
  ((db.seats kind).filter fun _ row => row.revokedAt.isNone).size

def LicenseTables.lastEventSequence (db : LicenseTables) : Nat :=
  (db.events.map EnterpriseLicenseEventRow.sequence).foldl max 0

def LicenseTables.activeDevices (db : LicenseTables) : List String :=
  (db.devices.toList.filter fun entry => entry.2.revokedAt.isNone).map Prod.fst

/-- The identifiers of credentials that are not revoked, in order, without the first administrator. -/
def LicenseTables.activeTechnicians (db : LicenseTables) : List String :=
  (db.credentials.toList.filter fun entry => entry.1 ≠ bootstrapAdmin &&
    entry.2.revokedAt.isNone).map Prod.fst

section Operations

variable [DateParse] [SeatCodec]

structure ImportEnterpriseLicenseInput where
  claims : EnterpriseLicenseClaims
  canonicalJson : String
  envelopeSha256 : String
  importedAt : String
  actorId : String
deriving DecidableEq, Repr

def validateEnterpriseLicenseStoreInput (input : ImportEnterpriseLicenseInput) : Except StoreError Unit :=
  let claims := input.claims
  require (isPublicIdentifier claims.licenseId ∧ isPublicIdentifier claims.keyId ∧
    claims.sequence ≤ maxSafeInteger ∧ 1 ≤ claims.sequence ∧ claims.features ≠ [] ∧
    (claims.features.map EnterpriseLicenseFeature.text).Pairwise (· < ·) ∧
    1 ≤ claims.deviceLimit ∧ claims.deviceLimit ≤ maxLicensedDevices ∧
    1 ≤ claims.seatLimit ∧ claims.seatLimit ≤ maxLicensedTechnicians ∧
    isSafeInteger claims.issuedAtUnix ∧ isSafeInteger claims.notBeforeUnix ∧
    isSafeInteger claims.expiresAtUnix ∧ isSafeInteger claims.graceUntilUnix ∧
    claims.issuedAtUnix ≤ claims.notBeforeUnix ∧ claims.notBeforeUnix < claims.expiresAtUnix ∧
    claims.expiresAtUnix ≤ claims.graceUntilUnix ∧ isSha256 input.envelopeSha256 ∧
    1 ≤ input.canonicalJson.utf8ByteSize ∧ input.canonicalJson.utf8ByteSize ≤ 16 * 1024 ∧
    isRfc3339 input.importedAt ∧ isPublicIdentifier input.actorId) .invalid

def mapEnterpriseLicense (row : EnterpriseLicenseRow) : Except StoreError EnterpriseLicenseRow := do
  validateEnterpriseLicenseStoreInput
    ⟨row.claims,row.canonicalJson,row.envelopeSha256,row.importedAt,"stored-license"⟩
  require (row.revokedAt.all isRfc3339) .invalid
  return row

def appendEnterpriseLicenseEvent (event : EnterpriseLicenseEvent) (db : LicenseTables) :
    Except StoreError LicenseTables := do
  let sequence := db.lastEventSequence + 1
  require (sequence ≤ maxSafeInteger) .conflict
  -- The check of the column `detail_sha256`.
  require (isSha256 event.detailSha256) .invalid
  return { db with
    events :=
      (db.events ++ [{ toEnterpriseLicenseEvent := event, sequence : EnterpriseLicenseEventRow }]).filter
      fun e => sequence < e.sequence + maxEnterpriseLicenseEvents }

structure EnterpriseSeatMutation where
  kind : EnterpriseSeatKind
  subjectId : String
  limit : Nat
  actorId : String
  assignedAt : String
deriving DecidableEq, Repr

def validateEnterpriseSeatMutation (input : EnterpriseSeatMutation) : Except StoreError Unit :=
  require (isPublicIdentifier input.subjectId ∧ 1 ≤ input.limit ∧ input.limit ≤ 100000 ∧
    isPublicIdentifier input.actorId ∧ isRfc3339 input.assignedAt) .invalid

/-- The primary key of the seats: no other seat has the assignment. -/
def LicenseTables.assignmentIsFree (db : LicenseTables) (kind : EnterpriseSeatKind)
    (subjectId : String) : Bool :=
  let assignmentId := SeatCodec.enterpriseSeatAssignmentId kind subjectId
  [EnterpriseSeatKind.device, .technician].all fun other => (db.seats other).toList.all fun entry =>
    entry.2.assignmentId ≠ assignmentId || (other = kind && entry.1 = subjectId)

def assignEnterpriseSeat (input : EnterpriseSeatMutation) (db : LicenseTables) :
    Except StoreError LicenseTables := do
  validateEnterpriseSeatMutation input
  if (db.seats input.kind)[input.subjectId]?.any (fun existing => existing.revokedAt.isNone) then
    return db
  else do
    require (db.activeSeats input.kind < input.limit) .enterpriseSeatLimit
    require (db.assignmentIsFree input.kind input.subjectId) .conflict
    let assignmentId := ((db.seats input.kind)[input.subjectId]?.map
      EnterpriseLicenseSeatRow.assignmentId).getD
        (SeatCodec.enterpriseSeatAssignmentId input.kind input.subjectId)
    appendEnterpriseLicenseEvent
      ⟨input.assignedAt,.seatAssigned,input.actorId,SeatCodec.seatSha256 input.kind input.subjectId⟩
      (db.setSeat input.kind input.subjectId ⟨assignmentId,input.assignedAt,none⟩)

def revokeEnterpriseSeat (kind : EnterpriseSeatKind) (subjectId actorId revokedAt : String)
    (db : LicenseTables) : Except StoreError LicenseTables := do
  validateEnterpriseSeatMutation ⟨kind,subjectId,1,actorId,revokedAt⟩
  match (db.seats kind)[subjectId]? with
  | none => return db
  | some seat =>
    if seat.revokedAt.isSome then return db
    else do
      appendEnterpriseLicenseEvent ⟨revokedAt,.seatRevoked,actorId,SeatCodec.seatSha256 kind subjectId⟩
        (db.setSeat kind subjectId { seat with revokedAt := some revokedAt })

def assignEnterpriseSeats (kind : EnterpriseSeatKind) (limit : Nat) (actorId assignedAt : String)
    (subjects : List String) (db : LicenseTables) : Except StoreError LicenseTables :=
  subjects.foldlM (fun db subjectId => assignEnterpriseSeat
    ⟨kind,subjectId,limit,actorId,assignedAt⟩ db) db

structure EnterpriseLicenseImportResult where
  license : EnterpriseLicenseRow
  idempotent : Bool
deriving DecidableEq, Repr

/-- The import of a license that is newer than the stored one. -/
def storeEnterpriseLicense (input : ImportEnterpriseLicenseInput) :
    Transaction LicenseTables EnterpriseLicenseImportResult := fun db => do
  -- The check of the columns of instants.
  require (0 ≤ input.claims.issuedAtUnix) .invalid
  let row : EnterpriseLicenseRow :=
    ⟨input.claims,input.envelopeSha256,input.canonicalJson,input.importedAt,none⟩
  let db ← appendEnterpriseLicenseEvent
    ⟨input.importedAt,.licenseImported,input.actorId,input.envelopeSha256⟩ { db with license := some row }
  require (db.activeDevices.length ≤ maxLicensedDevices) .enterpriseSeatLimit
  let db ← assignEnterpriseSeats .device maxLicensedDevices input.actorId
    input.importedAt db.activeDevices db
  require (db.activeTechnicians.length ≤ maxLicensedTechnicians) .enterpriseSeatLimit
  let db ← assignEnterpriseSeats .technician maxLicensedTechnicians input.actorId input.importedAt
    db.activeTechnicians db
  let license ← mapEnterpriseLicense row
  return (⟨license,false⟩,db)

def importEnterpriseLicense (input : ImportEnterpriseLicenseInput) :
    Transaction LicenseTables EnterpriseLicenseImportResult := fun db => do
  validateEnterpriseLicenseStoreInput input
  match db.license with
  | none => storeEnterpriseLicense input db
  | some existing => do
    require (existing.claims.sequence ≤ input.claims.sequence) .enterpriseLicenseRollback
    if input.claims.sequence = existing.claims.sequence then do
      require (input.envelopeSha256 = existing.envelopeSha256) .enterpriseLicenseConflict
      let license ← mapEnterpriseLicense existing
      return (⟨license,true⟩,db)
    else storeEnterpriseLicense input db

def revokeEnterpriseLicense (licenseId revokedAt actorId detailSha256 : String) :
    Transaction LicenseTables (Option EnterpriseLicenseImportResult) := fun db => do
  require (isPublicIdentifier licenseId ∧ isRfc3339 revokedAt ∧ isPublicIdentifier actorId) .invalid
  match db.license with
  | none => return (none,db)
  | some existing =>
    if existing.claims.licenseId ≠ licenseId then return (none,db)
    else if existing.revokedAt.isSome then do
      let license ← mapEnterpriseLicense existing
      return (some ⟨license,true⟩,db)
    else do
      let row := { existing with revokedAt := some revokedAt }
      let db ← appendEnterpriseLicenseEvent ⟨revokedAt,.licenseRevoked,actorId,detailSha256⟩
        { db with license := some row }
      let license ← mapEnterpriseLicense row
      return (some ⟨license,false⟩,db)

structure CreateTenantAccessCredentialInput where
  credentialId : String
  tokenHash : String
  role : TenantRole
  label : String
  createdAt : String
  enterpriseSeat : Option (Nat × String)
deriving DecidableEq, Repr

def validateCredentialInput (input : CreateTenantAccessCredentialInput) : Except StoreError Unit :=
  require (isPublicIdentifier input.credentialId ∧ isSha256 input.tokenHash ∧
    validCredentialLabel input.label ∧ isRfc3339 input.createdAt) .invalid

def mapTenantAccessCredential (credentialId : String) (row : TenantAccessCredentialRow) :
    Except StoreError TenantAccessCredentialRow := do
  require (isPublicIdentifier credentialId ∧ validCredentialLabel row.label ∧ isRfc3339 row.createdAt ∧
    row.revokedAt.all isRfc3339) .invalid
  return row

/-- The seat that a creation takes if it was given a limit. -/
def takeSeat (seat : Option EnterpriseSeatMutation) (db : LicenseTables) :
    Except StoreError LicenseTables :=
  match seat with
  | none => .ok db
  | some mutation => assignEnterpriseSeat mutation db

def createTenantAccessCredential (input : CreateTenantAccessCredentialInput) :
    Transaction LicenseTables TenantAccessCredentialRow := fun db => do
  validateCredentialInput input
  require (db.credentials.size < maxTenantAccessCredentials) .conflict
  let db ← takeSeat (input.enterpriseSeat.map fun seat =>
    ⟨.technician,input.credentialId,seat.1,seat.2,input.createdAt⟩) db
  -- The primary key and the unique token hash.
  require (db.credentials[input.credentialId]? = none) .conflict
  require (input.tokenHash ∉ db.otherTokenHashes ∧
    ∀ entry ∈ db.credentials.toList, entry.2.tokenHash ≠ input.tokenHash) .conflict
  let row : TenantAccessCredentialRow := ⟨input.tokenHash,input.role,input.label,input.createdAt,none⟩
  return (row,{ db with credentials := db.credentials.insert input.credentialId row })

structure RevokeTenantAccessCredentialInput where
  credentialId : String
  actorCredentialId : String
  revokedAt : String
deriving DecidableEq, Repr

def LicenseTables.activeAdmins (db : LicenseTables) : Nat :=
  (db.credentials.filter fun _ row => row.role = .admin && row.revokedAt.isNone).size

def revokeTenantAccessCredential (input : RevokeTenantAccessCredentialInput) :
    Transaction LicenseTables (Option (TenantAccessCredentialRow × Bool)) := fun db => do
  require (isPublicIdentifier input.credentialId ∧ isPublicIdentifier input.actorCredentialId ∧
    isRfc3339 input.revokedAt) .invalid
  match db.credentials[input.credentialId]? with
  | none => return (none,db)
  | some row => do
    let credential ← mapTenantAccessCredential input.credentialId row
    if credential.revokedAt.isSome then return (some (credential,true),db)
    else do
      require (input.credentialId ≠ input.actorCredentialId) .conflict
      require (credential.role = .admin → 1 < db.activeAdmins) .conflict
      let revoked := { row with revokedAt := some input.revokedAt }
      let db ← revokeEnterpriseSeat .technician input.credentialId input.actorCredentialId input.revokedAt
        { db with credentials := db.credentials.insert input.credentialId revoked }
      return (some (revoked,false),db)

def createEnrollmentToken (tokenHash createdAt : String) (expiresAtMs : Int) :
    Transaction LicenseTables Unit :=
  fun db => do
  require (db.enrollmentTokens[tokenHash]? = none) .conflict
  return ((),
    { db with enrollmentTokens := db.enrollmentTokens.insert tokenHash ⟨createdAt,expiresAtMs,none⟩ })

structure EnrollDeviceInput where
  tokenHash : String
  deviceId : String
  publicKeySpki : String
  platform : String
  agentVersion : String
  enrolledAt : String
  nowMs : Int
  enterpriseSeat : Option Nat
deriving DecidableEq, Repr

def enrollDevice (input : EnrollDeviceInput) : Transaction LicenseTables Unit := fun db => do
  let token ← okOr db.enrollmentTokens[input.tokenHash]? .authorization
  require (token.usedAt = none ∧ input.nowMs < token.expiresAtMs) .authorization
  let db ← takeSeat (input.enterpriseSeat.map fun limit =>
    ⟨.device,input.deviceId,limit,input.deviceId,input.enrolledAt⟩) db
  require (db.devices[input.deviceId]? = none) .conflict
  return ((),{ db with
    devices := db.devices.insert input.deviceId
      ⟨input.publicKeySpki,input.platform,input.agentVersion,input.enrolledAt,none⟩
    enrollmentTokens := db.enrollmentTokens.insert input.tokenHash
      { token with usedAt := some input.enrolledAt } })

/-- `revokeDevice` with the seat of the device. -/
def revokeEnrolledDevice (deviceId revokedAt actorId : String) :
    Transaction LicenseTables Bool := fun db =>
  match db.devices[deviceId]? with
  | none => .ok (false,db)
  | some device =>
    if device.revokedAt.isSome then .ok (true,db)
    else do
      let db ← revokeEnterpriseSeat .device deviceId actorId revokedAt
        { db with devices := db.devices.insert deviceId { device with revokedAt := some revokedAt } }
      return (true,db)

end Operations

def LicenseTables.Seated (db : LicenseTables) (kind : EnterpriseSeatKind) (subjectId : String) : Prop :=
  ∃ row, (db.seats kind)[subjectId]? = some row ∧ row.revokedAt = none

/-- A device that is not revoked, or a technician whose credential is not revoked. -/
def LicenseTables.Live (db : LicenseTables) : EnterpriseSeatKind → String → Prop
  | .device, id => ∃ row, db.devices[id]? = some row ∧ row.revokedAt = none
  | .technician, id => id ≠ bootstrapAdmin ∧ ∃ row, db.credentials[id]? = some row ∧ row.revokedAt = none

section Seats

variable {db db' : LicenseTables} {kind : EnterpriseSeatKind} {subjectId : String}

structure SeatFrame (db db' : LicenseTables) : Prop where
  license : db'.license = db.license
  devices : db'.devices = db.devices
  credentials : db'.credentials = db.credentials

theorem SeatFrame.refl : SeatFrame db db := ⟨rfl,rfl,rfl⟩

theorem SeatFrame.trans {db'' : LicenseTables} (h : SeatFrame db db') (h' : SeatFrame db' db'') :
    SeatFrame db db'' :=
  ⟨h'.license.trans h.license,h'.devices.trans h.devices,h'.credentials.trans h.credentials⟩

theorem SeatFrame.live (h : SeatFrame db db') (kind : EnterpriseSeatKind) (id : String) :
    db'.Live kind id ↔ db.Live kind id := by
  cases kind <;> simp only [LicenseTables.Live, h.devices, h.credentials]

theorem appendEnterpriseLicenseEvent_frame {event : EnterpriseLicenseEvent}
    (h : appendEnterpriseLicenseEvent event db = .ok db') : db' = { db with events := db'.events } := by
  simp only [appendEnterpriseLicenseEvent, require_bind_eq_ok, pure_eq_ok_iff] at h
  rw [← h.2.2]

theorem seats_setSeat (other : EnterpriseSeatKind) (row : EnterpriseLicenseSeatRow) :
    (db.setSeat kind subjectId row).seats other =
      if other = kind then (db.seats kind).insert subjectId row else db.seats other := by
  cases kind <;> cases other <;> rfl

theorem setSeat_frame (row : EnterpriseLicenseSeatRow) :
    SeatFrame db (db.setSeat kind subjectId row) := by
  cases kind <;> exact ⟨rfl,rfl,rfl⟩

theorem seated_setSeat {other : EnterpriseSeatKind} {id : String} {row : EnterpriseLicenseSeatRow} :
    (db.setSeat kind subjectId row).Seated other id ↔
      if other = kind ∧ id = subjectId then row.revokedAt = none else db.Seated other id := by
  rw [LicenseTables.Seated, seats_setSeat]
  by_cases hkind : other = kind
  · subst hkind
    by_cases hid : id = subjectId
    · simp [hid]
    · simp [getElem?_insert_ite, hid, LicenseTables.Seated]
  · simp [hkind, LicenseTables.Seated]

theorem activeSeats_setSeat_le {row : EnterpriseLicenseSeatRow} (hrow : row.revokedAt = none) :
    (db.setSeat kind subjectId row).activeSeats kind ≤ db.activeSeats kind + 1 := by
  have hfilter : ((db.seats kind).insert subjectId row).filter (fun _ seat => seat.revokedAt.isNone) =
      ((db.seats kind).filter fun _ seat => seat.revokedAt.isNone).insert subjectId row := by
    apply Std.ExtTreeMap.ext_getElem?
    intro id
    rw [Std.ExtTreeMap.getElem?_filter', getElem?_insert_ite, getElem?_insert_ite,
      Std.ExtTreeMap.getElem?_filter']
    split_ifs
    · simp [hrow]
    · rfl
  rw [LicenseTables.activeSeats, seats_setSeat, if_pos rfl, hfilter]
  exact Std.ExtTreeMap.size_insert_le

theorem seated_congr (h : ∀ kind, db'.seats kind = db.seats kind) (id : String) :
    db'.Seated kind id ↔ db.Seated kind id := by
  rw [LicenseTables.Seated, LicenseTables.Seated, h]

variable [DateParse] [SeatCodec]

/-- What the assignment of a seat can do: nothing for a subject that holds one, or give the subject a seat
while there is one left. -/
theorem assignEnterpriseSeat_spec {input : EnterpriseSeatMutation}
    (h : assignEnterpriseSeat input db = .ok db') :
    SeatFrame db db' ∧
      (∀ kind id, db'.Seated kind id ↔ db.Seated kind id ∨ kind = input.kind ∧ id = input.subjectId) ∧
      (db.Seated input.kind input.subjectId ∨ db'.activeSeats input.kind ≤ input.limit) := by
  rw [assignEnterpriseSeat] at h
  obtain ⟨_,_,h⟩ := bind_ok_iff.mp h
  split_ifs at h with hheld
  · have hseated : db.Seated input.kind input.subjectId := by
      rw [Option.any_eq_true] at hheld
      obtain ⟨row,hrow,hactive⟩ := hheld
      exact ⟨row,hrow,by simpa using hactive⟩
    obtain rfl := Except.ok.inj h
    refine ⟨.refl,fun kind id => ⟨.inl,?_⟩,.inl hseated⟩
    rintro (hold | ⟨rfl,rfl⟩)
    · exact hold
    · exact hseated
  · simp only [require_bind_eq_ok] at h
    obtain ⟨hlimit,_,h⟩ := h
    have hframe := appendEnterpriseLicenseEvent_frame h
    generalize ((db.seats input.kind)[input.subjectId]?.map EnterpriseLicenseSeatRow.assignmentId).getD
      (SeatCodec.enterpriseSeatAssignmentId input.kind input.subjectId) = assignmentId at h hframe
    have hseats : ∀ kind, db'.seats kind = (db.setSeat input.kind input.subjectId
        ⟨assignmentId,input.assignedAt,none⟩).seats kind := fun kind => by
      rw [hframe]
      cases kind <;> rfl
    refine ⟨?_,fun kind id => ?_,.inr ?_⟩
    · obtain ⟨hlicense,hdevices,hcredentials⟩ : SeatFrame db (db.setSeat input.kind input.subjectId
        ⟨assignmentId,input.assignedAt,none⟩) := setSeat_frame _
      rw [hframe]
      exact ⟨hlicense,hdevices,hcredentials⟩
    · rw [seated_congr hseats, seated_setSeat]
      split_ifs with hsame
      · simp [hsame]
      · simp [hsame]
    · have hcount : db'.activeSeats input.kind = (db.setSeat input.kind input.subjectId
          ⟨assignmentId,input.assignedAt,none⟩).activeSeats input.kind := by
        rw [LicenseTables.activeSeats, LicenseTables.activeSeats, hseats]
      rw [hcount]
      exact (activeSeats_setSeat_le rfl).trans hlimit

theorem revokeEnterpriseSeat_spec {actorId revokedAt : String}
    (h : revokeEnterpriseSeat kind subjectId actorId revokedAt db = .ok db') :
    SeatFrame db db' ∧
      ∀ other id, db'.Seated other id ↔ db.Seated other id ∧ ¬ (other = kind ∧ id = subjectId) := by
  rw [revokeEnterpriseSeat] at h
  obtain ⟨_,_,h⟩ := bind_ok_iff.mp h
  split at h
  · next hnone =>
    obtain rfl := Except.ok.inj h
    refine ⟨.refl,fun other id => ⟨fun hseated => ⟨hseated,?_⟩,And.left⟩⟩
    rintro ⟨rfl,rfl⟩
    obtain ⟨row,hrow,_⟩ := hseated
    rw [hnone] at hrow
    cases hrow
  · next seat hseat =>
    split_ifs at h with hrevoked
    · obtain rfl := Except.ok.inj h
      refine ⟨.refl,fun other id => ⟨fun hseated => ⟨hseated,?_⟩,And.left⟩⟩
      rintro ⟨rfl,rfl⟩
      obtain ⟨row,hrow,hactive⟩ := hseated
      obtain rfl := Option.some.inj (hseat.symm.trans hrow)
      simp [hactive] at hrevoked
    · have hframe := appendEnterpriseLicenseEvent_frame h
      have hseats : ∀ other, db'.seats other = (db.setSeat kind subjectId
          { seat with revokedAt := some revokedAt }).seats other := fun other => by
        rw [hframe]
        cases other <;> rfl
      constructor
      · obtain ⟨hlicense,hdevices,hcredentials⟩ : SeatFrame db (db.setSeat kind subjectId
          { seat with revokedAt := some revokedAt }) := setSeat_frame _
        rw [hframe]
        exact ⟨hlicense,hdevices,hcredentials⟩
      · intro other id
        rw [seated_congr hseats, seated_setSeat]
        split_ifs with hsame
        · simp [hsame]
        · simp [hsame]

theorem assignEnterpriseSeats_spec {limit : Nat} {actorId assignedAt : String} {subjects : List String}
    (h : assignEnterpriseSeats kind limit actorId assignedAt subjects db = .ok db') :
    SeatFrame db db' ∧
      ∀ other id, db'.Seated other id ↔ db.Seated other id ∨ other = kind ∧ id ∈ subjects := by
  induction subjects generalizing db with
  | nil =>
    obtain rfl := Except.ok.inj h
    exact ⟨.refl,by simp⟩
  | cons subject subjects ih =>
    rw [assignEnterpriseSeats, List.foldlM_cons] at h
    obtain ⟨mid,hmid,h⟩ := bind_ok_iff.mp h
    obtain ⟨hframe,hseated,_⟩ := assignEnterpriseSeat_spec hmid
    obtain ⟨hframe',hseated'⟩ := ih h
    refine ⟨hframe.trans hframe',fun other id => ?_⟩
    rw [hseated', hseated, List.mem_cons]
    tauto

end Seats

end KernAid.Fleet
