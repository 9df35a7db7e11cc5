import KernAid.Fleet.Licenses

/-! Seats over the whole history of a tenant. -/

set_option autoImplicit false

namespace KernAid.Fleet

open CrashLogic LicenseTables

def LicenseTables.created (adminTokenHash createdAt : String) (otherTokenHashes : List String) :
    LicenseTables where
  license := none
  deviceSeats := ∅
  technicianSeats := ∅
  events := []
  devices := ∅
  credentials := (∅ : Table TenantAccessCredentialRow).insert bootstrapAdmin
    ⟨adminTokenHash,.admin,"Initial tenant administrator",createdAt,none⟩
  enrollmentTokens := ∅
  otherTokenHashes := otherTokenHashes

def createTenant [DateParse] (adminTokenHash createdAt : String) (otherTokenHashes : List String) :
    Except StoreError LicenseTables := do
  validateCredentialInput
    ⟨bootstrapAdmin,adminTokenHash,.admin,"Initial tenant administrator",createdAt,none⟩
  require (adminTokenHash ∉ otherTokenHashes) .conflict
  return .created adminTokenHash createdAt otherTokenHashes

def LicenseTables.HasAdmin (db : LicenseTables) : Prop :=
  ∃ (id : String) (row : TenantAccessCredentialRow),
    db.credentials[id]? = some row ∧ row.role = .admin ∧ row.revokedAt = none

/-- A license is replaced by one with a later sequence, or by the same envelope. -/
def Supersedes (old new : Option EnterpriseLicenseRow) : Prop :=
  ∀ row, old = some row → ∃ row', new = some row' ∧
    (row.claims.sequence < row'.claims.sequence ∨
      row.claims.sequence = row'.claims.sequence ∧ row.envelopeSha256 = row'.envelopeSha256)

theorem Supersedes.refl (license : Option EnterpriseLicenseRow) : Supersedes license license :=
  fun row hrow => ⟨row,hrow,.inr ⟨rfl,rfl⟩⟩

theorem Supersedes.trans {first second third : Option EnterpriseLicenseRow} (h : Supersedes first second)
    (h' : Supersedes second third) : Supersedes first third := by
  intro row hrow
  obtain ⟨mid,hmid,hstep⟩ := h row hrow
  obtain ⟨last,hlast,hstep'⟩ := h' mid hmid
  refine ⟨last,hlast,?_⟩
  rcases hstep with hlt | ⟨hseq,henvelope⟩ <;> rcases hstep' with hlt' | ⟨hseq',henvelope'⟩
  · exact .inl (hlt.trans hlt')
  · exact .inl (hseq' ▸ hlt)
  · exact .inl (hseq ▸ hlt')
  · exact .inr ⟨hseq.trans hseq',henvelope.trans henvelope'⟩

/-- The operations on the tables of one tenant, and the tokens that other tenants get meanwhile. -/
inductive LicenseCall where
  | importLicense (input : ImportEnterpriseLicenseInput)
  | revokeLicense (licenseId revokedAt actorId detailSha256 : String)
  | createCredential (input : CreateTenantAccessCredentialInput)
  | revokeCredential (input : RevokeTenantAccessCredentialInput)
  | createToken (tokenHash createdAt : String) (expiresAtMs : Int)
  | enroll (input : EnrollDeviceInput)
  | revokeDevice (deviceId revokedAt actorId : String)
  | others (tokenHashes : List String)

def LicenseCall.joins : LicenseCall → Option (EnterpriseSeatKind × String × Option Nat)
  | .createCredential input => some (.technician,input.credentialId,input.enterpriseSeat.map Prod.fst)
  | .enroll input => some (.device,input.deviceId,input.enterpriseSeat)
  | _ => none

def committed {α : Type} (operation : Transaction LicenseTables α) : Transaction LicenseTables Unit :=
  fun db => (operation db).map fun result => ((),result.2)

theorem committed_eq_ok {α : Type} {operation : Transaction LicenseTables α} {db : LicenseTables}
    {result : Unit × LicenseTables} (h : committed operation db = .ok result) :
    ∃ answer, operation db = .ok (answer,result.2) := by
  rw [committed] at h
  cases hop : operation db with
  | error e =>
    rw [hop] at h
    cases h
  | ok answer =>
    rw [hop] at h
    obtain rfl := Except.ok.inj h
    exact ⟨answer.1,rfl⟩

section Operations

variable [DateParse] [SeatCodec]

def LicenseCall.operation : LicenseCall → Transaction LicenseTables Unit
  | .importLicense input => committed (importEnterpriseLicense input)
  | .revokeLicense licenseId revokedAt actorId detailSha256 =>
    committed (revokeEnterpriseLicense licenseId revokedAt actorId detailSha256)
  | .createCredential input => committed (createTenantAccessCredential input)
  | .revokeCredential input => committed (revokeTenantAccessCredential input)
  | .createToken tokenHash createdAt expiresAtMs => createEnrollmentToken tokenHash createdAt expiresAtMs
  | .enroll input => enrollDevice input
  | .revokeDevice deviceId revokedAt actorId =>
    committed (revokeEnrolledDevice deviceId revokedAt actorId)
  | .others tokenHashes => fun db => .ok ((),{ db with otherTokenHashes := tokenHashes })

def LicenseCall.perform (call : LicenseCall) (db : LicenseTables) : LicenseTables :=
  (call.operation.call db).2

def playLicenses : List LicenseCall → LicenseTables → LicenseTables
  | [], db => db
  | call :: calls, db => playLicenses calls (call.perform db)

/-- Every enrolment and credential creation that is made under a license passes its limit. -/
def LimitedRun : List LicenseCall → LicenseTables → Prop
  | [], _ => True
  | call :: calls, db =>
    (db.license ≠ none → ∀ kind id limit, call.joins = some (kind,id,limit) → limit ≠ none) ∧
      LimitedRun calls (call.perform db)

end Operations

/-- What a committed call can do to the seats and the subjects they are for. -/
inductive SeatChange (call : LicenseCall) (db db' : LicenseTables) : Prop
  | kept (hcall : call.joins = none) (hlicense : db.license = none → db'.license = none)
      (hlive : ∀ kind id, db'.Live kind id ↔ db.Live kind id)
      (hseated : ∀ kind id, db'.Seated kind id ↔ db.Seated kind id)
  | imported (hcall : call.joins = none) (hlive : ∀ kind id, db'.Live kind id ↔ db.Live kind id)
      (hseated : ∀ kind id, db'.Seated kind id ↔ db.Seated kind id ∨ db.Live kind id)
  | joined (kind : EnterpriseSeatKind) (id : String) (limit : Option Nat)
      (hcall : call.joins = some (kind,id,limit)) (hlicense : db'.license = db.license)
      (hnew : ¬ db.Live kind id)
      (hlive : ∀ other subject, db'.Live other subject ↔
        db.Live other subject ∨ other = kind ∧ subject = id)
      (hseated : ∀ other subject, db'.Seated other subject ↔
        db.Seated other subject ∨ limit ≠ none ∧ other = kind ∧ subject = id)
      (hcount : ∀ bound, limit = some bound → db.Seated kind id ∨ db'.activeSeats kind ≤ bound)
  | left (kind : EnterpriseSeatKind) (id : String) (hcall : call.joins = none)
      (hlicense : db'.license = db.license)
      (hlive : ∀ other subject, db'.Live other subject ↔
        db.Live other subject ∧ ¬ (other = kind ∧ subject = id))
      (hseated : ∀ other subject, db'.Seated other subject ↔
        db.Seated other subject ∧ ¬ (other = kind ∧ subject = id))

structure LicenseStep (call : LicenseCall) (db db' : LicenseTables) : Prop where
  change : SeatChange call db db'
  supersedes : Supersedes db.license db'.license
  admin : db.HasAdmin → db'.HasAdmin
  bootstrap : db.credentials[bootstrapAdmin]? ≠ none → db'.credentials[bootstrapAdmin]? ≠ none

section Steps

variable {db db' : LicenseTables} {id : String}

variable {call : LicenseCall} {revokedAt actorId : String} {kind : EnterpriseSeatKind}

theorem live_insert_device {row : EnrolledDeviceRow} (hdevices : db'.devices = db.devices.insert id row)
    (hcredentials : db'.credentials = db.credentials) (kind : EnterpriseSeatKind) (subject : String) :
    db'.Live kind subject ↔
      if kind = .device ∧ subject = id then row.revokedAt = none else db.Live kind subject := by
  cases kind with
  | technician => simp [LicenseTables.Live, hcredentials]
  | device =>
    by_cases hsubject : subject = id
    · simp [LicenseTables.Live, hdevices, hsubject]
    · simp [LicenseTables.Live, hdevices, hsubject, getElem?_insert_ite]

theorem live_insert_credential {row : TenantAccessCredentialRow}
    (hcredentials : db'.credentials = db.credentials.insert id row)
    (hdevices : db'.devices = db.devices) (kind : EnterpriseSeatKind) (subject : String) :
    db'.Live kind subject ↔ if kind = .technician ∧ subject = id then
      id ≠ bootstrapAdmin ∧ row.revokedAt = none else db.Live kind subject := by
  cases kind with
  | device => simp [LicenseTables.Live, hdevices]
  | technician =>
    by_cases hsubject : subject = id
    · simp [LicenseTables.Live, hcredentials, hsubject]
    · simp [LicenseTables.Live, hcredentials, hsubject, getElem?_insert_ite]

theorem mem_activeDevices : id ∈ db.activeDevices ↔ db.Live .device id := by
  simp [activeDevices, LicenseTables.Live, Std.ExtTreeMap.mem_toList_iff_getElem?_eq_some]

theorem mem_activeTechnicians : id ∈ db.activeTechnicians ↔ db.Live .technician id := by
  simp [activeTechnicians, LicenseTables.Live, Std.ExtTreeMap.mem_toList_iff_getElem?_eq_some]
  tauto

theorem exists_other_admin (h : 1 < db.activeAdmins) :
    ∃ (other : String) (row : TenantAccessCredentialRow), other ≠ id ∧
      db.credentials[other]? = some row ∧ row.role = .admin ∧ row.revokedAt = none := by
  rw [activeAdmins] at h
  generalize hadmins :
    (db.credentials.filter fun _ row => row.role = .admin && row.revokedAt.isNone) = admins at h
  have hsize : admins.size ≤ (admins.erase id).size + 1 := Std.ExtTreeMap.size_le_size_erase
  have hlength : 0 < (admins.erase id).toList.length := by
    rw [Std.ExtTreeMap.length_toList]
    omega
  obtain ⟨entry,hentry⟩ := List.exists_mem_of_length_pos hlength
  rw [Std.ExtTreeMap.mem_toList_iff_getElem?_eq_some, Std.ExtTreeMap.getElem?_erase] at hentry
  split_ifs at hentry with hsame
  rw [← hadmins, Std.ExtTreeMap.getElem?_filter', Option.filter_eq_some_iff] at hentry
  refine ⟨entry.1,entry.2,?_,hentry.1,?_⟩
  · rintro rfl
    simp at hsame
  · simpa using hentry.2

theorem LicenseStep.of_credentials (hchange : SeatChange call db db')
    (hsupersedes : Supersedes db.license db'.license)
    (hcredentials : db'.credentials = db.credentials) :
    LicenseStep call db db' where
  change := hchange
  supersedes := hsupersedes
  admin := by
    rw [LicenseTables.HasAdmin, LicenseTables.HasAdmin, hcredentials]
    exact fun h => h
  bootstrap := by
    rw [hcredentials]
    exact fun h => h

theorem LicenseStep.unchanged (hcall : call.joins = none) : LicenseStep call db db :=
  .of_credentials (.kept hcall (fun h => h) (fun _ _ => Iff.rfl) fun _ _ => Iff.rfl) (.refl _) rfl

/-- What every call keeps: seats are held by subjects that are there, the first administrator keeps a row,
and some administrator is left. -/
structure LicenseTables.Ok (db : LicenseTables) : Prop where
  covered : ∀ kind id, db.Seated kind id → db.Live kind id
  bootstrap : db.credentials[bootstrapAdmin]? ≠ none
  admin : db.HasAdmin

def LicenseTables.Complete (db : LicenseTables) : Prop :=
  db.license ≠ none → ∀ kind id, db.Live kind id → db.Seated kind id

theorem LicenseStep.ok (h : LicenseStep call db db') (hok : db.Ok) : db'.Ok where
  bootstrap := h.bootstrap hok.bootstrap
  admin := h.admin hok.admin
  covered kind subject := by
    cases h.change with
    | kept _ _ hlive hseated =>
      rw [hlive, hseated]
      exact hok.covered kind subject
    | imported _ hlive hseated =>
      rw [hlive, hseated]
      exact fun h => h.elim (hok.covered kind subject) fun hlive => hlive
    | joined _ _ _ _ _ _ hlive hseated =>
      rw [hlive, hseated]
      exact Or.imp (hok.covered kind subject) And.right
    | left _ _ _ _ hlive hseated =>
      rw [hlive, hseated]
      exact And.imp_left (hok.covered kind subject)

theorem LicenseStep.complete (h : LicenseStep call db db') (hcomplete : db.Complete)
    (hlimit : db.license ≠ none → ∀ kind id limit, call.joins = some (kind,id,limit) → limit ≠ none) :
    db'.Complete := by
  intro hlicense kind subject
  cases h.change with
  | kept _ hnone hlive hseated =>
    rw [hlive, hseated]
    exact hcomplete (mt hnone hlicense) kind subject
  | imported _ hlive hseated =>
    rw [hlive, hseated]
    exact .inr
  | joined joinedKind id limit hcall hkept _ hlive hseated =>
    rw [hkept] at hlicense
    rw [hlive, hseated]
    exact Or.imp (hcomplete hlicense kind subject) fun hsame => ⟨hlimit hlicense _ _ _ hcall,hsame⟩
  | left _ _ _ hkept hlive hseated =>
    rw [hlive, hseated]
    exact And.imp_left (hcomplete (hkept ▸ hlicense) kind subject)

theorem LicenseStep.activeSeats_le {bound : Nat} (h : LicenseStep call db db') (hok : db.Ok)
    (hcall : call.joins = some (kind,id,some bound)) :
    db'.activeSeats kind ≤ bound := by
  cases h.change with
  | kept hnone => simp [hcall] at hnone
  | imported hnone => simp [hcall] at hnone
  | left _ _ hnone => simp [hcall] at hnone
  | joined _ _ _ hcall' _ hnew _ _ hcount =>
    obtain ⟨rfl,rfl,rfl⟩ : kind = _ ∧ id = _ ∧ some bound = _ := by
      simpa using hcall.symm.trans hcall'
    exact (hcount bound rfl).resolve_left fun hseated => hnew (hok.covered _ _ hseated)

variable [DateParse] [SeatCodec]

theorem takeSeat_spec {seat : Option EnterpriseSeatMutation} (h : takeSeat seat db = .ok db') :
    SeatFrame db db' ∧
      (∀ kind subject, db'.Seated kind subject ↔ db.Seated kind subject ∨
        ∃ mutation, seat = some mutation ∧ kind = mutation.kind ∧ subject = mutation.subjectId) ∧
      ∀ mutation, seat = some mutation → db.Seated mutation.kind mutation.subjectId ∨
        db'.activeSeats mutation.kind ≤ mutation.limit := by
  cases seat with
  | none =>
    obtain rfl := Except.ok.inj h
    exact ⟨.refl,by simp,nofun⟩
  | some mutation =>
    obtain ⟨hframe,hseated,hcount⟩ := assignEnterpriseSeat_spec h
    refine ⟨hframe,fun kind subject => ?_,fun other hother => ?_⟩
    · rw [hseated]
      simp
    · obtain rfl := Option.some.inj hother
      exact hcount

theorem storeEnterpriseLicense_step {input : ImportEnterpriseLicenseInput}
    {result : EnterpriseLicenseImportResult × LicenseTables}
    (h : storeEnterpriseLicense input db = .ok result)
    (hlater : ∀ row, db.license = some row → row.claims.sequence < input.claims.sequence) :
    LicenseStep (.importLicense input) db result.2 := by
  simp only [storeEnterpriseLicense, require_bind_eq_ok] at h
  obtain ⟨_,h⟩ := h
  obtain ⟨stored,hstored,h⟩ := bind_ok_iff.mp h
  simp only [require_bind_eq_ok] at h
  obtain ⟨_,h⟩ := h
  obtain ⟨seated,hdevices,h⟩ := bind_ok_iff.mp h
  simp only [require_bind_eq_ok] at h
  obtain ⟨_,h⟩ := h
  obtain ⟨done,htechnicians,h⟩ := bind_ok_iff.mp h
  obtain ⟨license,_,h⟩ := bind_ok_iff.mp h
  obtain rfl := pure_eq_ok_iff.mp h
  have hframe := appendEnterpriseLicenseEvent_frame hstored
  obtain ⟨hdevicesFrame,hdevicesSeated⟩ := assignEnterpriseSeats_spec hdevices
  obtain ⟨htechniciansFrame,htechniciansSeated⟩ := assignEnterpriseSeats_spec htechnicians
  have hall := hdevicesFrame.trans htechniciansFrame
  have hstoredLive : ∀ kind id, stored.Live kind id ↔ db.Live kind id := fun kind id => by
    rw [hframe]
    cases kind <;> rfl
  have hstoredSeated : ∀ kind id, stored.Seated kind id ↔ db.Seated kind id := fun kind id => by
    rw [hframe]
    cases kind <;> rfl
  refine .of_credentials (.imported rfl (fun kind id => ?_) fun kind id => ?_) (fun row hrow => ?_) ?_
  · rw [hall.live, hstoredLive]
  · rw [htechniciansSeated, hdevicesSeated, hstoredSeated, mem_activeDevices, mem_activeTechnicians,
      hdevicesFrame.live, hstoredLive, hstoredLive]
    cases kind <;> simp
  · refine ⟨_,hall.license.trans (by rw [hframe]),.inl (hlater row hrow)⟩
  · rw [hall.credentials, hframe]

theorem importEnterpriseLicense_step {input : ImportEnterpriseLicenseInput}
    {result : EnterpriseLicenseImportResult × LicenseTables}
    (h : importEnterpriseLicense input db = .ok result) :
    LicenseStep (.importLicense input) db result.2 := by
  rw [importEnterpriseLicense] at h
  obtain ⟨_,_,h⟩ := bind_ok_iff.mp h
  split at h
  · next hnone =>
    exact storeEnterpriseLicense_step h (by simp [hnone])
  · next existing hexisting =>
    rw [require_bind_eq_ok] at h
    obtain ⟨hle,h⟩ := h
    split_ifs at h with hsame
    · rw [require_bind_eq_ok] at h
      obtain ⟨_,_,h⟩ := bind_ok_iff.mp h.2
      obtain rfl := pure_eq_ok_iff.mp h
      exact .unchanged rfl
    · refine storeEnterpriseLicense_step h fun row hrow => ?_
      obtain rfl := Option.some.inj (hexisting.symm.trans hrow)
      omega

omit [SeatCodec] in
theorem revokeEnterpriseLicense_step {licenseId detailSha256 : String}
    {result : Option EnterpriseLicenseImportResult × LicenseTables}
    (h : revokeEnterpriseLicense licenseId revokedAt actorId detailSha256 db = .ok result) :
    LicenseStep (.revokeLicense licenseId revokedAt actorId detailSha256) db result.2 := by
  rw [revokeEnterpriseLicense, require_bind_eq_ok] at h
  replace h := h.2
  split at h
  · obtain rfl := pure_eq_ok_iff.mp h
    exact .unchanged rfl
  · next existing hexisting =>
    split_ifs at h
    · obtain rfl := pure_eq_ok_iff.mp h
      exact .unchanged rfl
    · obtain ⟨_,_,h⟩ := bind_ok_iff.mp h
      obtain rfl := pure_eq_ok_iff.mp h
      exact .unchanged rfl
    · obtain ⟨revoked,hrevoked,h⟩ := bind_ok_iff.mp h
      obtain ⟨_,_,h⟩ := bind_ok_iff.mp h
      obtain rfl := pure_eq_ok_iff.mp h
      have hframe := appendEnterpriseLicenseEvent_frame hrevoked
      refine .of_credentials (.kept rfl (by simp [hexisting]) (fun kind id => ?_) fun kind id => ?_)
        (fun row hrow => ?_) (by rw [hframe])
      · rw [hframe]
        cases kind <;> rfl
      · rw [hframe]
        cases kind <;> rfl
      · obtain rfl := Option.some.inj (hexisting.symm.trans hrow)
        exact ⟨{ existing with revokedAt := some revokedAt },by rw [hframe],.inr ⟨rfl,rfl⟩⟩

theorem SeatChange.join {limit : Option Nat} {seat : Option EnterpriseSeatMutation}
    {mid : LicenseTables} (hcall : call.joins = some (kind,id,limit))
    (htake : takeSeat seat db = .ok mid)
    (hseat : ∀ mutation, seat = some mutation → mutation.kind = kind ∧ mutation.subjectId = id)
    (hlimit : seat.map EnterpriseSeatMutation.limit = limit)
    (hseats : ∀ other, db'.seats other = mid.seats other) (hlicense : db'.license = mid.license)
    (hnew : ¬ db.Live kind id)
    (hlive : ∀ other subject, db'.Live other subject ↔
      db.Live other subject ∨ other = kind ∧ subject = id) :
    SeatChange call db db' := by
  obtain ⟨hframe,hseated,hcount⟩ := takeSeat_spec htake
  refine .joined kind id limit hcall (hlicense.trans hframe.license) hnew hlive (fun other subject => ?_)
    fun bound hbound => ?_
  · rw [seated_congr hseats, hseated, ← hlimit]
    cases seat with
    | none => simp
    | some mutation =>
      obtain ⟨hkind,hsubject⟩ := hseat mutation rfl
      simp [hkind, hsubject]
  · obtain ⟨mutation,rfl,rfl⟩ := Option.map_eq_some_iff.mp (hlimit.trans hbound)
    obtain ⟨rfl,rfl⟩ := hseat mutation rfl
    rw [activeSeats, hseats]
    exact hcount mutation rfl

theorem SeatChange.leave {mid : LicenseTables} (hcall : call.joins = none)
    (hrevoke : revokeEnterpriseSeat kind id actorId revokedAt mid = .ok db')
    (hseats : ∀ other, mid.seats other = db.seats other) (hlicense : mid.license = db.license)
    (hlive : ∀ other subject, mid.Live other subject ↔
      db.Live other subject ∧ ¬ (other = kind ∧ subject = id)) :
    SeatChange call db db' := by
  obtain ⟨hframe,hseated⟩ := revokeEnterpriseSeat_spec hrevoke
  refine .left kind id hcall (hframe.license.trans hlicense) (fun other subject => ?_)
    fun other subject => ?_
  · rw [hframe.live, hlive]
  · rw [hseated, seated_congr hseats]

theorem createTenantAccessCredential_step {input : CreateTenantAccessCredentialInput}
    {result : TenantAccessCredentialRow × LicenseTables}
    (h : createTenantAccessCredential input db = .ok result)
    (hbootstrap : db.credentials[bootstrapAdmin]? ≠ none) :
    LicenseStep (.createCredential input) db result.2 := by
  rw [createTenantAccessCredential] at h
  obtain ⟨_,_,h⟩ := bind_ok_iff.mp h
  rw [require_bind_eq_ok] at h
  obtain ⟨mid,hmid,h⟩ := bind_ok_iff.mp h.2
  simp only [require_bind_eq_ok, pure_eq_ok_iff] at h
  obtain ⟨hfree,_,hresult⟩ := h
  obtain ⟨hframe,-,-⟩ := takeSeat_spec hmid
  rw [hframe.credentials] at hfree
  have hname : input.credentialId ≠ bootstrapAdmin := by
    rintro hsame
    exact hbootstrap (hsame ▸ hfree)
  have hcredentials : result.2.credentials = db.credentials.insert input.credentialId
      ⟨input.tokenHash,input.role,input.label,input.createdAt,none⟩ := by
    rw [← hresult, hframe.credentials]
  have hdevices : result.2.devices = db.devices := by rw [← hresult, hframe.devices]
  have hlicense : result.2.license = mid.license := by rw [← hresult]
  constructor
  · refine .join rfl hmid (fun mutation hmutation => ?_) (by simp [Function.comp_def])
      (fun other => by rw [← hresult]; cases other <;> rfl) hlicense
      (by simp [LicenseTables.Live, hfree]) fun other subject => ?_
    · obtain ⟨_,_,rfl⟩ := Option.map_eq_some_iff.mp hmutation
      exact ⟨rfl,rfl⟩
    · rw [live_insert_credential hcredentials hdevices]
      split_ifs with hsame
      · simp [hsame, hname]
      · simp [hsame]
  · rw [hlicense, hframe.license]
    exact .refl _
  · rintro ⟨id,row,hrow,hadmin⟩
    have hother : id ≠ input.credentialId := by
      rintro rfl
      rw [hfree] at hrow
      cases hrow
    exact ⟨id,row,by rw [hcredentials, getElem?_insert_ne hother, hrow],hadmin⟩
  · rw [hcredentials, getElem?_insert_ne hname.symm]
    exact fun hsome => hsome

theorem revokeTenantAccessCredential_step {input : RevokeTenantAccessCredentialInput}
    {result : Option (TenantAccessCredentialRow × Bool) × LicenseTables}
    (h : revokeTenantAccessCredential input db = .ok result) :
    LicenseStep (.revokeCredential input) db result.2 := by
  rw [revokeTenantAccessCredential, require_bind_eq_ok] at h
  replace h := h.2
  split at h
  · obtain rfl := pure_eq_ok_iff.mp h
    exact .unchanged rfl
  · next row hrow =>
    obtain ⟨credential,hcredential,h⟩ := bind_ok_iff.mp h
    obtain rfl : row = credential := by
      simp only [mapTenantAccessCredential, require_bind_eq_ok, pure_eq_ok_iff] at hcredential
      exact hcredential.2
    split_ifs at h with hrevoked
    · obtain rfl := pure_eq_ok_iff.mp h
      exact .unchanged rfl
    · simp only [require_bind_eq_ok] at h
      obtain ⟨_,hadmins,h⟩ := h
      obtain ⟨done,hdone,h⟩ := bind_ok_iff.mp h
      obtain rfl := pure_eq_ok_iff.mp h
      obtain ⟨hframe,-⟩ := revokeEnterpriseSeat_spec hdone
      constructor
      · refine .leave rfl hdone (fun other => by cases other <;> rfl) rfl fun other subject => ?_
        refine Iff.trans (@live_insert_credential db _ input.credentialId
          { row with revokedAt := some input.revokedAt } (by rfl) (by rfl) other subject) ?_
        split_ifs with hsame
        · simp [hsame]
        · simp [hsame]
      · rw [hframe.license]
        exact .refl _
      · -- The administrators are counted before one of them is revoked.
        rintro ⟨id,admin,hadmin,hrole,hactive⟩
        by_cases hsame : id = input.credentialId
        · subst hsame
          obtain rfl := Option.some.inj (hrow.symm.trans hadmin)
          obtain ⟨other,kept,hother,hkept⟩ := exists_other_admin (hadmins hrole)
          exact ⟨other,kept,by rw [hframe.credentials, getElem?_insert_ne hother, hkept.1],hkept.2⟩
        · exact ⟨id,admin,by rw [hframe.credentials, getElem?_insert_ne hsame, hadmin],hrole,hactive⟩
      · rw [hframe.credentials, getElem?_insert_ite]
        split_ifs
        · simp
        · exact fun hsome => hsome

theorem enrollDevice_step {input : EnrollDeviceInput} {result : Unit × LicenseTables}
    (h : enrollDevice input db = .ok result) : LicenseStep (.enroll input) db result.2 := by
  rw [enrollDevice, okOr_bind_eq_ok] at h
  obtain ⟨token,_,h⟩ := h
  rw [require_bind_eq_ok] at h
  obtain ⟨mid,hmid,h⟩ := bind_ok_iff.mp h.2
  simp only [require_bind_eq_ok, pure_eq_ok_iff] at h
  obtain ⟨hfree,hresult⟩ := h
  obtain ⟨hframe,-,-⟩ := takeSeat_spec hmid
  rw [hframe.devices] at hfree
  have hdevices : result.2.devices = db.devices.insert input.deviceId
      ⟨input.publicKeySpki,input.platform,input.agentVersion,input.enrolledAt,none⟩ := by
    rw [← hresult, hframe.devices]
  have hcredentials : result.2.credentials = db.credentials := by rw [← hresult, hframe.credentials]
  have hlicense : result.2.license = mid.license := by rw [← hresult]
  refine .of_credentials (.join rfl hmid (fun mutation hmutation => ?_) (by simp [Function.comp_def])
    (fun other => by rw [← hresult]; cases other <;> rfl) hlicense
    (by simp [LicenseTables.Live, hfree]) fun other subject => ?_) ?_ hcredentials
  · obtain ⟨_,_,rfl⟩ := Option.map_eq_some_iff.mp hmutation
    exact ⟨rfl,rfl⟩
  · rw [live_insert_device hdevices hcredentials]
    split_ifs with hsame
    · simp [hsame]
    · simp [hsame]
  · rw [hlicense, hframe.license]
    exact .refl _

theorem revokeEnrolledDevice_step {deviceId : String} {result : Bool × LicenseTables}
    (h : revokeEnrolledDevice deviceId revokedAt actorId db = .ok result) :
    LicenseStep (.revokeDevice deviceId revokedAt actorId) db result.2 := by
  rw [revokeEnrolledDevice] at h
  split at h
  · obtain rfl := Except.ok.inj h
    exact .unchanged rfl
  · next device hdevice =>
    split_ifs at h with hrevoked
    · obtain rfl := Except.ok.inj h
      exact .unchanged rfl
    · obtain ⟨done,hdone,h⟩ := bind_ok_iff.mp h
      obtain rfl := pure_eq_ok_iff.mp h
      obtain ⟨hframe,-⟩ := revokeEnterpriseSeat_spec hdone
      refine .of_credentials (.leave rfl hdone (fun other => by cases other <;> rfl) rfl
        fun other subject => ?_) ?_ hframe.credentials
      · refine Iff.trans (@live_insert_device db _ deviceId
          { device with revokedAt := some revokedAt } (by rfl) (by rfl) other subject) ?_
        split_ifs with hsame
        · simp [hsame]
        · simp [hsame]
      · rw [hframe.license]
        exact .refl _

theorem LicenseCall.operation_step {result : Unit × LicenseTables}
    (h : call.operation db = .ok result) (hbootstrap : db.credentials[bootstrapAdmin]? ≠ none) :
    LicenseStep call db result.2 := by
  cases call with
  | importLicense input =>
    obtain ⟨answer,h⟩ := committed_eq_ok h
    exact importEnterpriseLicense_step h
  | revokeLicense licenseId revokedAt actorId detailSha256 =>
    obtain ⟨answer,h⟩ := committed_eq_ok h
    exact revokeEnterpriseLicense_step h
  | createCredential input =>
    obtain ⟨answer,h⟩ := committed_eq_ok h
    exact createTenantAccessCredential_step h hbootstrap
  | revokeCredential input =>
    obtain ⟨answer,h⟩ := committed_eq_ok h
    exact revokeTenantAccessCredential_step h
  | createToken tokenHash createdAt expiresAtMs =>
    simp only [operation, createEnrollmentToken, require_bind_eq_ok, pure_eq_ok_iff] at h
    obtain ⟨_,rfl⟩ := h
    refine .of_credentials (.kept rfl (fun hnone => hnone) (fun kind _ => ?_) fun kind _ => ?_)
      (.refl _) rfl
    · cases kind <;> rfl
    · cases kind <;> rfl
  | enroll input => exact enrollDevice_step h
  | revokeDevice deviceId revokedAt actorId =>
    obtain ⟨answer,h⟩ := committed_eq_ok h
    exact revokeEnrolledDevice_step h
  | others tokenHashes =>
    obtain rfl := Except.ok.inj h
    refine .of_credentials (.kept rfl (fun hnone => hnone) (fun kind _ => ?_) fun kind _ => ?_)
      (.refl _) rfl
    · cases kind <;> rfl
    · cases kind <;> rfl

theorem LicenseTables.Ok.step (hok : db.Ok) (call : LicenseCall) : LicenseStep call db (call.perform db) ∨
    call.perform db = db := by
  rcases Transaction.call_cases call.operation db with ⟨result,db',hcommitted,hcall⟩ | ⟨_,_,hcall⟩
  · rw [LicenseCall.perform, hcall]
    exact .inl (LicenseCall.operation_step hcommitted hok.bootstrap)
  · rw [LicenseCall.perform, hcall]
    exact .inr rfl

theorem LicenseTables.Ok.perform (hok : db.Ok) (call : LicenseCall) : (call.perform db).Ok := by
  rcases hok.step call with hstep | hsame
  · exact hstep.ok hok
  · rwa [hsame]

theorem LicenseTables.Ok.play (hok : db.Ok) (calls : List LicenseCall) : (playLicenses calls db).Ok := by
  induction calls generalizing db with
  | nil => exact hok
  | cons call calls ih => exact ih (hok.perform call)

theorem LicenseTables.Ok.supersedes (hok : db.Ok) (calls : List LicenseCall) :
    Supersedes db.license (playLicenses calls db).license := by
  induction calls generalizing db with
  | nil => exact .refl _
  | cons call calls ih =>
    refine Supersedes.trans ?_ (ih (hok.perform call))
    rcases hok.step call with hstep | hsame
    · exact hstep.supersedes
    · rw [hsame]
      exact .refl _

theorem LicenseTables.Ok.complete (hok : db.Ok) (hcomplete : db.Complete) {calls : List LicenseCall}
    (hlimited : LimitedRun calls db) : (playLicenses calls db).Complete := by
  induction calls generalizing db with
  | nil => exact hcomplete
  | cons call calls ih =>
    refine ih (hok.perform call) ?_ hlimited.2
    rcases hok.step call with hstep | hsame
    · exact hstep.complete hcomplete hlimited.1
    · rwa [hsame]

omit [SeatCodec] in
theorem createTenant_spec {adminTokenHash createdAt : String} {otherTokenHashes : List String}
    (h : createTenant adminTokenHash createdAt otherTokenHashes = .ok db) :
    db.Ok ∧ db.license = none := by
  rw [createTenant] at h
  obtain ⟨_,_,h⟩ := bind_ok_iff.mp h
  rw [require_bind_eq_ok] at h
  obtain rfl := pure_eq_ok_iff.mp h.2
  refine ⟨⟨?_,by simp [created],bootstrapAdmin,
    ⟨adminTokenHash,.admin,"Initial tenant administrator",createdAt,none⟩,
    by simp [created],rfl,rfl⟩,rfl⟩
  rintro (_ | _) id ⟨row,hrow,_⟩
  · simp [created, seats] at hrow
  · simp [created, seats] at hrow

/-- After any history of a tenant: if every enrolment and creation under a license passed its limit, the
seats under a license are exactly those of the devices and technicians that are not revoked; no enrolment
or creation takes the seats of its kind over its limit; the license never goes back to an earlier sequence
or to another envelope of the same one; and an administrator is left. -/
theorem seats_match_live_subjects {adminTokenHash createdAt : String} {otherTokenHashes : List String}
    {start : LicenseTables} (hstart : createTenant adminTokenHash createdAt otherTokenHashes = .ok start)
    (calls : List LicenseCall) :
    let db := playLicenses calls start
    (LimitedRun calls start → db.license ≠ none → ∀ kind id, db.Seated kind id ↔ db.Live kind id) ∧
      (∀ (call : LicenseCall) kind id limit, call.joins = some (kind,id,some limit) →
        ∀ result db', call.operation db = .ok (result,db') → db'.activeSeats kind ≤ limit) ∧
      (∀ later, Supersedes db.license (playLicenses later db).license) ∧
      db.HasAdmin := by
  intro db
  obtain ⟨hok,hnone⟩ := createTenant_spec hstart
  have hplayed : db.Ok := hok.play calls
  refine ⟨fun hlimited hlicense kind id => ⟨hplayed.covered kind id,?_⟩,
    fun call kind id limit hcall result db' hcommitted => ?_,hplayed.supersedes,hplayed.admin⟩
  · exact hok.complete (fun hsome => absurd hnone hsome) hlimited hlicense kind id
  · exact (LicenseCall.operation_step hcommitted hplayed.bootstrap).activeSeats_le hplayed hcall

end Steps

@[reducible] def licenseDates : DateParse := ⟨fun _ => some 0⟩

def licenseHash : String := "00112233445566778899aabbccddeeff00112233445566778899aabbccddeeff"

@[reducible] def licenseSeats : SeatCodec where
  enterpriseSeatAssignmentId kind subjectId :=
    if kind = .device then "device-" ++ subjectId else subjectId
  seatSha256 _ _ := licenseHash

def licenseTime : String := "2026-08-01T00:00:00.000Z"

def licenseImport : ImportEnterpriseLicenseInput :=
  ⟨⟨"license-1",1,"key-1",.enterprise,[.updates],2,1,0,0,1000,2000⟩,"license",
    licenseHash,licenseTime,"root-admin"⟩

def licensedRun : List LicenseCall :=
  [.createToken "first" licenseTime 10,
    .enroll ⟨"first","KA-000000000000000000000001","key","linux","1.0.0",licenseTime,1,none⟩,
    .importLicense licenseImport,
    .createToken "second" licenseTime 10,
    .enroll ⟨"second","KA-000000000000000000000002","key","linux","1.0.0",licenseTime,1,some 2⟩]

theorem seats_match_two_devices :
    let _ := licenseDates
    let _ := licenseSeats
    let start := LicenseTables.created licenseHash licenseTime []
    let db := playLicenses licensedRun start
    createTenant licenseHash licenseTime [] = .ok start ∧ db.license ≠ none ∧ db.activeSeats .device = 2 ∧
      ∀ kind id, db.Seated kind id ↔ db.Live kind id := by
  intro dates seats start db
  have hvalid : validateCredentialInput ⟨bootstrapAdmin,licenseHash,.admin,"Initial tenant administrator",
      licenseTime,none⟩ = .ok () := by decide +kernel
  have hcreated : createTenant licenseHash licenseTime [] = .ok start := by
    rw [createTenant, hvalid]
    rfl
  have hlimited : LimitedRun licensedRun start := by
    simp only [licensedRun, LimitedRun, LicenseCall.joins]
    refine ⟨nofun,fun hlicense => absurd rfl hlicense,nofun,nofun,fun _ kind id limit hcall => ?_,trivial⟩
    simp only [Option.some.injEq, Prod.mk.injEq] at hcall
    simp [← hcall.2.2]
  have hrun : db.license.isSome ∧ db.activeSeats .device = 2 := by decide +kernel
  have hlicense : db.license ≠ none := by simpa [Option.isSome_iff_ne_none] using hrun.1
  exact ⟨hcreated,hlicense,hrun.2,(seats_match_live_subjects hcreated licensedRun).1 hlimited hlicense⟩

end KernAid.Fleet
