import KernAid.Fleet.LicenseRuns

/-! The evaluation of enterprise licenses, for wall clocks that may go back. -/

set_option autoImplicit false

namespace KernAid.Fleet

open CrashLogic

structure EnterpriseLicenseEnvelope where
  tenantId : String
  claims : EnterpriseLicenseClaims
  signature : String
deriving DecidableEq, Repr

structure EnterpriseLicenseClockRow where
  maxObservedUnix : Int
  rollbackDetectedAt : Option String
  updatedAt : String
deriving DecidableEq, Repr

structure LicenseStore where
  tables : LicenseTables
  clock : Option EnterpriseLicenseClockRow

/-- The text of an envelope, the digest, and the signature under the configured trust anchor and key. -/
class EnvelopeCodec where
  canonicalJson : EnterpriseLicenseEnvelope → String
  parseEnterpriseLicenseEnvelope : String → Option EnterpriseLicenseEnvelope
  verifyEnterpriseLicense : EnterpriseLicenseEnvelope → Bool
  sha256Hex : String → String
  clockRollbackSha256 : Int → String

def enterpriseClockRollbackToleranceSeconds : Int := 300

def latestLicenseInstant : Int := 4102444800

structure EnterpriseClockObservation where
  retainedClockUnix : Int
  rollbackDetected : Bool
deriving DecidableEq, Repr

inductive EnterpriseLicenseState where
  | active
  | clockRollback
  | expired
  | grace
  | notYetValid
  | revoked
deriving DecidableEq, Repr

structure EnterpriseLicenseEvaluation where
  state : EnterpriseLicenseState
  operationsAllowed : Bool
  evaluatedAtUnix : Int
  retainedClockUnix : Int
deriving DecidableEq, Repr

inductive LicenseRequestError where
  | signature
  | tenantNotFound
  | verification
  | schema
  | store (error : StoreError)
deriving DecidableEq, Repr

def evaluateEnterpriseLicense (claims : EnterpriseLicenseClaims) (nowUnix retainedClockUnix : Int)
    (revoked : Bool) : Except LicenseRequestError EnterpriseLicenseEvaluation := do
  require (0 ≤ nowUnix ∧ nowUnix ≤ latestLicenseInstant) .schema
  require (0 ≤ retainedClockUnix ∧ retainedClockUnix ≤ latestLicenseInstant) .schema
  let evaluatedAtUnix := max nowUnix retainedClockUnix
  let state : EnterpriseLicenseState :=
    if revoked then .revoked
    else if nowUnix + enterpriseClockRollbackToleranceSeconds < retainedClockUnix then .clockRollback
    else if evaluatedAtUnix < claims.notBeforeUnix then .notYetValid
    else if evaluatedAtUnix < claims.expiresAtUnix then .active
    else if evaluatedAtUnix < claims.graceUntilUnix then .grace
    else .expired
  return ⟨state,state = .active,evaluatedAtUnix,retainedClockUnix⟩

section Requests

variable [DateParse] [SeatCodec] [EnvelopeCodec]

/-- A rollback of the clock is an event when it is first detected. -/
def recordClockRollback (newDetection : Bool) (retainedClockUnix : Int) (occurredAt : String)
    (tables : LicenseTables) : Except StoreError LicenseTables :=
  if newDetection then
    appendEnterpriseLicenseEvent ⟨occurredAt,.clockRollback,"system-clock",
      EnvelopeCodec.clockRollbackSha256 retainedClockUnix⟩ tables
  else .ok tables

def observeEnterpriseClock (nowUnix rollbackToleranceSeconds : Int) (occurredAt : String) :
    Transaction LicenseStore EnterpriseClockObservation := fun s => do
  require (isSafeInteger nowUnix ∧ 0 ≤ nowUnix ∧ isSafeInteger rollbackToleranceSeconds ∧
    0 ≤ rollbackToleranceSeconds ∧ isRfc3339 occurredAt) .invalid
  let retainedClockUnix := max nowUnix ((s.clock.map EnterpriseLicenseClockRow.maxObservedUnix).getD 0)
  let rollbackDetected : Bool := nowUnix + rollbackToleranceSeconds < retainedClockUnix
  match s.clock with
  | none =>
    return (⟨retainedClockUnix,rollbackDetected⟩,
      { s with clock := some ⟨retainedClockUnix,none,occurredAt⟩ })
  | some existing => do
    let detectedAt := if rollbackDetected then
      some (existing.rollbackDetectedAt.getD occurredAt) else none
    let tables ← recordClockRollback (rollbackDetected && existing.rollbackDetectedAt.isNone)
      retainedClockUnix occurredAt s.tables
    return (⟨retainedClockUnix,rollbackDetected⟩,
      ⟨tables,some ⟨retainedClockUnix,detectedAt,occurredAt⟩⟩)

def verifiedEnterpriseLicense (tenantId : String) (s : LicenseStore) :
    Except LicenseRequestError (Option EnterpriseLicenseRow) :=
  match s.tables.license with
  | none => return none
  | some row => do
    let stored ← (mapEnterpriseLicense row).mapError .store
    let envelope ← okOr (EnvelopeCodec.parseEnterpriseLicenseEnvelope stored.canonicalJson) .schema
    require (EnvelopeCodec.canonicalJson envelope = stored.canonicalJson ∧
      EnvelopeCodec.sha256Hex stored.canonicalJson = stored.envelopeSha256 ∧
      EnvelopeCodec.verifyEnterpriseLicense envelope ∧ envelope.tenantId = tenantId ∧
      envelope.claims = stored.claims) .verification
    return some stored

/-- The observation of the clock stays when the evaluation itself is refused. -/
def evaluatedEnterpriseLicense (tenantId : String) (nowUnix : Int) (occurredAt : String)
    (s : LicenseStore) :
    Except LicenseRequestError (Option (EnterpriseLicenseClaims × EnterpriseLicenseEvaluation)) ×
      LicenseStore :=
  match verifiedEnterpriseLicense tenantId s with
  | .error e => (.error e,s)
  | .ok none => (.ok none,s)
  | .ok (some stored) =>
    match observeEnterpriseClock nowUnix enterpriseClockRollbackToleranceSeconds occurredAt s with
    | .error e => (.error (.store e),s)
    | .ok (clock,s') =>
      ((evaluateEnterpriseLicense stored.claims nowUnix clock.retainedClockUnix
        stored.revokedAt.isSome).map
        fun evaluation => some (stored.claims,evaluation),s')

def importEnvelope (envelope : EnterpriseLicenseEnvelope) (importedAt : String) (db : LicenseTables) :
    Except LicenseRequestError (EnterpriseLicenseImportResult × LicenseTables) := do
  require (EnvelopeCodec.verifyEnterpriseLicense envelope) .signature
  require (db.credentials[bootstrapAdmin]? ≠ none) .tenantNotFound
  (importEnterpriseLicense ⟨envelope.claims,EnvelopeCodec.canonicalJson envelope,
    EnvelopeCodec.sha256Hex (EnvelopeCodec.canonicalJson envelope),importedAt,"root-admin"⟩ db).mapError
      .store

end Requests

/-- What may happen to the license of a tenant. The other operations of the store keep its license row
and its clock, whatever they do to the other tables. -/
inductive LicenseRequest where
  | importLicense (envelope : EnterpriseLicenseEnvelope) (importedAt : String)
  | revokeLicense (licenseId revokedAt actorId detailSha256 : String)
  | evaluate (nowUnix : Int) (occurredAt : String)
  | other (tables : LicenseTables)

section Runs

variable [DateParse] [SeatCodec] [EnvelopeCodec] (tenantId : String)

def LicenseRequest.perform (s : LicenseStore) : LicenseRequest → LicenseStore
  | .importLicense envelope importedAt =>
    if envelope.tenantId = tenantId then
      match importEnvelope envelope importedAt s.tables with
      | .ok (_,tables) => { s with tables := tables }
      | .error _ => s
    else s
  | .revokeLicense licenseId revokedAt actorId detailSha256 =>
    { s with tables := ((revokeEnterpriseLicense licenseId revokedAt actorId detailSha256).call
      s.tables).2 }
  | .evaluate nowUnix occurredAt => (evaluatedEnterpriseLicense tenantId nowUnix occurredAt s).2
  | .other tables => { s with tables := { tables with license := s.tables.license } }

def playRequests (requests : List LicenseRequest) (s : LicenseStore) : LicenseStore :=
  requests.foldl (LicenseRequest.perform tenantId) s

def LicenseRequest.observes (s : LicenseStore) : LicenseRequest → Option Int
  | .evaluate nowUnix occurredAt =>
    match verifiedEnterpriseLicense tenantId s with
    | .ok (some _) =>
      match observeEnterpriseClock nowUnix enterpriseClockRollbackToleranceSeconds occurredAt s with
      | .ok _ => some nowUnix
      | .error _ => none
    | _ => none
  | _ => none

def observedTimes : List LicenseRequest → LicenseStore → List Int
  | [], _ => []
  | request :: requests, s =>
    (request.observes tenantId s).toList ++ observedTimes requests (request.perform tenantId s)

end Runs

/-- A stored license is replaced by one with a later sequence, or it stays the same envelope, and a
revocation stays with it. -/
def Renewed (old new : Option EnterpriseLicenseRow) : Prop :=
  ∀ row, old = some row → ∃ row', new = some row' ∧
    (row.claims.sequence < row'.claims.sequence ∨
      (row' = { row with revokedAt := row'.revokedAt } ∧ (row.revokedAt ≠ none → row'.revokedAt ≠ none)))

theorem Renewed.refl (license : Option EnterpriseLicenseRow) : Renewed license license :=
  fun row hrow => ⟨row,hrow,.inr ⟨rfl,id⟩⟩

theorem Renewed.trans {first second third : Option EnterpriseLicenseRow} (h : Renewed first second)
    (h' : Renewed second third) : Renewed first third := by
  intro row hrow
  obtain ⟨mid,hmid,hstep⟩ := h row hrow
  obtain ⟨last,hlast,hstep'⟩ := h' mid hmid
  refine ⟨last,hlast,?_⟩
  rcases hstep with hlt | ⟨hsame,hrevoked⟩ <;> rcases hstep' with hlt' | ⟨hsame',hrevoked'⟩
  · exact .inl (hlt.trans hlt')
  · rw [hsame']
    exact .inl hlt
  · rw [hsame] at hlt'
    exact .inl hlt'
  · refine .inr ⟨?_,fun hne => hrevoked' (hrevoked hne)⟩
    rw [hsame', hsame]

/-- Operations are allowed only for a license that is not revoked, before its expiry on the retained
clock, and with the wall clock within the tolerance. -/
theorem evaluateEnterpriseLicense_allowed {claims : EnterpriseLicenseClaims} {nowUnix retained : Int}
    {revoked : Bool} {evaluation : EnterpriseLicenseEvaluation}
    (h : evaluateEnterpriseLicense claims nowUnix retained revoked = .ok evaluation)
    (hallowed : evaluation.operationsAllowed = true) :
    revoked = false ∧ retained ≤ nowUnix + enterpriseClockRollbackToleranceSeconds ∧
      retained < claims.expiresAtUnix := by
  simp only [evaluateEnterpriseLicense, require_bind_eq_ok, pure_eq_ok_iff] at h
  obtain ⟨_,_,rfl⟩ := h
  simp only [decide_eq_true_eq] at hallowed
  split_ifs at hallowed with hrevoked hrollback hearly hactive
  exact ⟨Bool.eq_false_iff.mpr hrevoked,not_lt.mp hrollback,lt_of_le_of_lt (le_max_right _ _) hactive⟩

section Steps

/-- An accepted import is of the stored envelope, by its digest, or of a license with a later sequence. -/
theorem importEnterpriseLicense_license [DateParse] [SeatCodec] {input : ImportEnterpriseLicenseInput}
    {db : LicenseTables} {result : EnterpriseLicenseImportResult × LicenseTables}
    (h : importEnterpriseLicense input db = .ok result) :
    (∃ row, db.license = some row ∧ result.2 = db ∧ input.claims.sequence = row.claims.sequence ∧
        input.envelopeSha256 = row.envelopeSha256) ∨
      (result.2.license = some ⟨input.claims,input.envelopeSha256,input.canonicalJson,
        input.importedAt,none⟩ ∧
        ∀ row, db.license = some row → row.claims.sequence < input.claims.sequence) := by
  have hstore : ∀ {result}, storeEnterpriseLicense input db = .ok result → result.2.license =
      some ⟨input.claims,input.envelopeSha256,input.canonicalJson,input.importedAt,none⟩ := by
    intro result h
    simp only [storeEnterpriseLicense, require_bind_eq_ok] at h
    obtain ⟨stored,hstored,h⟩ := bind_ok_iff.mp h.2
    simp only [require_bind_eq_ok] at h
    obtain ⟨seated,hdevices,h⟩ := bind_ok_iff.mp h.2
    simp only [require_bind_eq_ok] at h
    obtain ⟨done,htechnicians,h⟩ := bind_ok_iff.mp h.2
    obtain ⟨license,_,h⟩ := bind_ok_iff.mp h
    obtain rfl := pure_eq_ok_iff.mp h
    have hall := (assignEnterpriseSeats_spec hdevices).1.trans (assignEnterpriseSeats_spec htechnicians).1
    exact hall.license.trans (by rw [appendEnterpriseLicenseEvent_frame hstored])
  rw [importEnterpriseLicense] at h
  obtain ⟨_,_,h⟩ := bind_ok_iff.mp h
  split at h
  · next hnone => exact .inr ⟨hstore h,by simp [hnone]⟩
  · next existing hexisting =>
    rw [require_bind_eq_ok] at h
    obtain ⟨hle,h⟩ := h
    split_ifs at h with hsame
    · rw [require_bind_eq_ok] at h
      obtain ⟨_,_,hresult⟩ := bind_ok_iff.mp h.2
      obtain rfl := pure_eq_ok_iff.mp hresult
      exact .inl ⟨existing,hexisting,rfl,hsame,h.1⟩
    · refine .inr ⟨hstore h,fun row hrow => ?_⟩
      obtain rfl := Option.some.inj (hexisting.symm.trans hrow)
      omega

theorem revokeEnterpriseLicense_license [DateParse] {licenseId revokedAt actorId detailSha256 : String}
    {db : LicenseTables} {result : Option EnterpriseLicenseImportResult × LicenseTables}
    (h : revokeEnterpriseLicense licenseId revokedAt actorId detailSha256 db = .ok result) :
    result.2.license = db.license ∨ ∃ row, db.license = some row ∧
      result.2.license = some { row with revokedAt := some revokedAt } := by
  rw [revokeEnterpriseLicense, require_bind_eq_ok] at h
  replace h := h.2
  split at h
  · obtain rfl := pure_eq_ok_iff.mp h
    exact .inl rfl
  · next existing hexisting =>
    split_ifs at h
    · obtain rfl := pure_eq_ok_iff.mp h
      exact .inl rfl
    · obtain ⟨_,_,h⟩ := bind_ok_iff.mp h
      obtain rfl := pure_eq_ok_iff.mp h
      exact .inl rfl
    · obtain ⟨revoked,hrevoked,h⟩ := bind_ok_iff.mp h
      obtain ⟨_,_,h⟩ := bind_ok_iff.mp h
      obtain rfl := pure_eq_ok_iff.mp h
      exact .inr ⟨existing,hexisting,by rw [appendEnterpriseLicenseEvent_frame hrevoked]⟩

variable [EnvelopeCodec] {s : LicenseStore} {tenantId : String}

/-- What one request does: the license is renewed, its digest fits, and the clock keeps what it has
observed. -/
structure LicenseProgress (s s' : LicenseStore) (observed : Option Int) : Prop where
  license : Renewed s.tables.license s'.tables.license
  digest : (∀ row, s.tables.license = some row →
      row.envelopeSha256 = EnvelopeCodec.sha256Hex row.canonicalJson) →
    ∀ row, s'.tables.license = some row → row.envelopeSha256 = EnvelopeCodec.sha256Hex row.canonicalJson
  clock : ∀ c, s.clock = some c → ∃ c', s'.clock = some c' ∧ c.maxObservedUnix ≤ c'.maxObservedUnix
  observed : ∀ t, observed = some t → ∃ c', s'.clock = some c' ∧ t ≤ c'.maxObservedUnix

theorem LicenseProgress.unchanged {s' : LicenseStore} (hlicense : s'.tables.license = s.tables.license)
    (hclock : s'.clock = s.clock) : LicenseProgress s s' none where
  license := hlicense ▸ .refl _
  digest := fun h row hrow => h row (hlicense ▸ hrow)
  clock := fun c hc => ⟨c,hclock.trans hc,le_refl _⟩
  observed := fun _ ht => by cases ht

def Keeps (times : List Int) (s : LicenseStore) : Prop :=
  ∀ t ∈ times, ∃ c, s.clock = some c ∧ t ≤ c.maxObservedUnix

theorem LicenseProgress.keeps {s' : LicenseStore} {observed : Option Int} {times : List Int}
    (h : LicenseProgress s s' observed) (hs : Keeps times s) : Keeps (times ++ observed.toList) s' := by
  intro t ht
  obtain ht | ht := List.mem_append.mp ht
  · obtain ⟨c,hc,hle⟩ := hs t ht
    obtain ⟨c',hc',hle'⟩ := h.clock c hc
    exact ⟨c',hc',hle.trans hle'⟩
  · exact h.observed t (Option.mem_toList.mp ht)

variable [DateParse]

theorem observeEnterpriseClock_spec {nowUnix tolerance : Int} {occurredAt : String}
    {clock : EnterpriseClockObservation} {s' : LicenseStore}
    (h : observeEnterpriseClock nowUnix tolerance occurredAt s = .ok (clock,s')) :
    s'.tables.license = s.tables.license ∧ nowUnix ≤ clock.retainedClockUnix ∧
      (∀ c, s.clock = some c → c.maxObservedUnix ≤ clock.retainedClockUnix) ∧
      ∃ c, s'.clock = some c ∧ c.maxObservedUnix = clock.retainedClockUnix := by
  rw [observeEnterpriseClock, require_bind_eq_ok] at h
  replace h := h.2
  split at h
  · next hnone =>
    obtain ⟨rfl,rfl⟩ := Prod.mk.inj (pure_eq_ok_iff.mp h)
    exact ⟨rfl,le_max_left _ _,by simp [hnone],_,rfl,rfl⟩
  · next existing hexisting =>
    obtain ⟨tables,htables,h⟩ := bind_ok_iff.mp h
    obtain ⟨rfl,rfl⟩ := Prod.mk.inj (pure_eq_ok_iff.mp h)
    refine ⟨?_,le_max_left _ _,fun c hc => ?_,_,rfl,rfl⟩
    · unfold recordClockRollback at htables
      split_ifs at htables
      · rw [appendEnterpriseLicenseEvent_frame htables]
      · rw [← Except.ok.inj htables]
    · obtain rfl := Option.some.inj (hexisting.symm.trans hc)
      simp [hexisting]

theorem licenseProgress_revoke {licenseId revokedAt actorId detailSha256 : String}
    {result : Option EnterpriseLicenseImportResult × LicenseTables}
    (h : revokeEnterpriseLicense licenseId revokedAt actorId detailSha256 s.tables = .ok result) :
    LicenseProgress s { s with tables := result.2 } none := by
  obtain hsame | ⟨row,hrow,hrevoked⟩ := revokeEnterpriseLicense_license h
  · exact .unchanged hsame rfl
  · exact
      { license := fun row' hrow' => by
          obtain rfl := Option.some.inj (hrow.symm.trans hrow')
          exact ⟨_,hrevoked,.inr ⟨rfl,fun _ => Option.some_ne_none _⟩⟩
        digest := fun hdigest row' hrow' => by
          obtain rfl := Option.some.inj (hrevoked.symm.trans hrow')
          exact hdigest row hrow
        clock := fun c hc => ⟨c,hc,le_refl _⟩
        observed := fun _ ht => by cases ht }

theorem licenseProgress_evaluate (nowUnix : Int) (occurredAt : String) :
    LicenseProgress s (evaluatedEnterpriseLicense tenantId nowUnix occurredAt s).2
      ((LicenseRequest.evaluate nowUnix occurredAt).observes tenantId s) := by
  cases hverified : verifiedEnterpriseLicense tenantId s with
  | error e =>
    simp only [evaluatedEnterpriseLicense, LicenseRequest.observes, hverified]
    exact .unchanged rfl rfl
  | ok stored =>
    cases stored with
    | none =>
      simp only [evaluatedEnterpriseLicense, LicenseRequest.observes, hverified]
      exact .unchanged rfl rfl
    | some row =>
      cases hclock : observeEnterpriseClock nowUnix enterpriseClockRollbackToleranceSeconds
        occurredAt s with
      | error e =>
        simp only [evaluatedEnterpriseLicense, LicenseRequest.observes, hverified, hclock]
        exact .unchanged rfl rfl
      | ok observed =>
        obtain ⟨clock,s'⟩ := observed
        simp only [evaluatedEnterpriseLicense, LicenseRequest.observes, hverified, hclock]
        obtain ⟨hlicense,hnow,hmax,c',hc',hretained⟩ := observeEnterpriseClock_spec hclock
        exact
          { license := hlicense ▸ .refl _
            digest := fun h row hrow => h row (hlicense ▸ hrow)
            clock := fun c hc => ⟨c',hc',hretained ▸ hmax c hc⟩
            observed := fun t ht => by
              obtain rfl := Option.some.inj ht
              exact ⟨c',hc',hretained ▸ hnow⟩ }

theorem verifiedEnterpriseLicense_row {row : EnterpriseLicenseRow}
    (h : verifiedEnterpriseLicense tenantId s = .ok (some row)) : s.tables.license = some row := by
  unfold verifiedEnterpriseLicense at h
  split at h
  · cases h
  · next stored hstored =>
    obtain ⟨row',hmap,h⟩ := bind_ok_iff.mp h
    obtain ⟨_,_,h⟩ := okOr_bind_eq_ok.mp h
    obtain ⟨_,h⟩ := require_bind_eq_ok.mp h
    obtain rfl := Option.some.inj (pure_eq_ok_iff.mp h)
    obtain ⟨_,_,hmap⟩ := bind_ok_iff.mp (mapError_eq_ok.mp hmap)
    obtain ⟨_,hmap⟩ := require_bind_eq_ok.mp hmap
    rw [hstored, pure_eq_ok_iff.mp hmap]

/-- An evaluation that allows operations is of the stored license, not revoked, and everything that the
clock keeps lies before the expiry and within the tolerance. -/
theorem evaluatedEnterpriseLicense_allowed {nowUnix : Int} {occurredAt : String}
    {answer : EnterpriseLicenseClaims × EnterpriseLicenseEvaluation}
    (h : (evaluatedEnterpriseLicense tenantId nowUnix occurredAt s).1 = .ok (some answer))
    (hallowed : answer.2.operationsAllowed = true) :
    ∃ row, s.tables.license = some row ∧ row.claims = answer.1 ∧ row.revokedAt = none ∧
      ∀ c, s.clock = some c → c.maxObservedUnix < answer.1.expiresAtUnix ∧
        c.maxObservedUnix ≤ nowUnix + enterpriseClockRollbackToleranceSeconds := by
  unfold evaluatedEnterpriseLicense at h
  split at h
  · cases h
  · cases h
  · next stored hverified =>
    split at h
    · cases h
    · next clock s' hclock =>
      cases hevaluation : evaluateEnterpriseLicense stored.claims nowUnix clock.retainedClockUnix
          stored.revokedAt.isSome with
      | error e =>
        rw [hevaluation] at h
        cases h
      | ok evaluation =>
        rw [hevaluation] at h
        obtain rfl := Option.some.inj (Except.ok.inj h)
        obtain ⟨hrevoked,htolerance,hexpiry⟩ := evaluateEnterpriseLicense_allowed hevaluation hallowed
        obtain ⟨_,_,hmax,_⟩ := observeEnterpriseClock_spec hclock
        refine ⟨stored,verifiedEnterpriseLicense_row hverified,rfl,?_,fun c hc => ?_⟩
        · cases hrow : stored.revokedAt with
          | none => rfl
          | some revokedAt => simp [hrow] at hrevoked
        · exact ⟨(hmax c hc).trans_lt hexpiry,(hmax c hc).trans htolerance⟩

variable [SeatCodec]

theorem licenseProgress_import {envelope : EnterpriseLicenseEnvelope} {importedAt : String}
    {result : EnterpriseLicenseImportResult × LicenseTables}
    (h : importEnvelope envelope importedAt s.tables = .ok result) :
    LicenseProgress s { s with tables := result.2 } none := by
  simp only [importEnvelope, require_bind_eq_ok, mapError_eq_ok] at h
  obtain ⟨row,_,hsame,_⟩ | ⟨hstored,hlater⟩ := importEnterpriseLicense_license h.2.2
  · exact .unchanged (by rw [hsame]) rfl
  · exact
      { license := fun row hrow => ⟨_,hstored,.inl (hlater row hrow)⟩
        digest := fun _ row hrow => by
          obtain rfl := Option.some.inj (hstored.symm.trans hrow)
          rfl
        clock := fun c hc => ⟨c,hc,le_refl _⟩
        observed := fun _ ht => by cases ht }

theorem LicenseRequest.progress (request : LicenseRequest) :
    LicenseProgress s (request.perform tenantId s) (request.observes tenantId s) := by
  cases request with
  | importLicense envelope importedAt =>
    simp only [LicenseRequest.perform, LicenseRequest.observes]
    split_ifs
    · cases h : importEnvelope envelope importedAt s.tables with
      | ok result => exact licenseProgress_import h
      | error e => exact .unchanged rfl rfl
    · exact .unchanged rfl rfl
  | revokeLicense licenseId revokedAt actorId detailSha256 =>
    exact Transaction.after_call (P := fun tables => LicenseProgress s { s with tables := tables } none) _
      (.unchanged rfl rfl) fun _ _ h => licenseProgress_revoke h
  | evaluate nowUnix occurredAt => exact licenseProgress_evaluate nowUnix occurredAt
  | other tables => exact .unchanged rfl rfl

theorem keeps_play {times : List Int} (requests : List LicenseRequest) (hs : Keeps times s) :
    Keeps (times ++ observedTimes tenantId requests s) (playRequests tenantId requests s) := by
  induction requests generalizing s times with
  | nil => simpa [observedTimes, playRequests] using hs
  | cons request requests ih =>
    have hstep : LicenseProgress s (request.perform tenantId s) (request.observes tenantId s) :=
      request.progress
    have h := ih (hstep.keeps hs)
    rw [List.append_assoc] at h
    exact h

theorem renewed_play (requests : List LicenseRequest) :
    Renewed s.tables.license (playRequests tenantId requests s).tables.license := by
  induction requests generalizing s with
  | nil => exact .refl _
  | cons request requests ih => exact request.progress.license.trans ih

theorem digest_play (requests : List LicenseRequest)
    (hs : ∀ row, s.tables.license = some row →
      row.envelopeSha256 = EnvelopeCodec.sha256Hex row.canonicalJson) :
    ∀ row, (playRequests tenantId requests s).tables.license = some row →
      row.envelopeSha256 = EnvelopeCodec.sha256Hex row.canonicalJson := by
  induction requests generalizing s with
  | nil => exact hs
  | cons request requests ih => exact ih (request.progress.digest hs)

def Collides (text text' : String) : Prop :=
  text ≠ text' ∧ EnvelopeCodec.sha256Hex text = EnvelopeCodec.sha256Hex text'

def LicenseStore.unlicensed (tables : LicenseTables) : LicenseStore :=
  ⟨{ tables with license := none },none⟩

/-- In every history of imports, revocations and evaluations with any clock readings: an evaluation
allows operations after a license was revoked only under a later sequence, never at or after the expiry
on any time that an earlier evaluation observed, and never more than the tolerance behind such a time;
the stored sequence never goes back and stands for one envelope; and an import is accepted under the
stored sequence only for the stored envelope, up to a collision of the digest. -/
theorem license_evaluations_are_safe (tenantId : String) (tables : LicenseTables)
    (before after : List LicenseRequest) :
    let start := LicenseStore.unlicensed tables
    let earlier := playRequests tenantId before start
    let later := playRequests tenantId after earlier
    (∀ nowUnix occurredAt answer,
      (evaluatedEnterpriseLicense tenantId nowUnix occurredAt later).1 = .ok (some answer) →
      answer.2.operationsAllowed = true →
        (∀ row, earlier.tables.license = some row → row.revokedAt ≠ none →
          row.claims.sequence < answer.1.sequence) ∧
        ∀ t ∈ observedTimes tenantId (before ++ after) start, t < answer.1.expiresAtUnix ∧
          t ≤ nowUnix + enterpriseClockRollbackToleranceSeconds) ∧
    Renewed earlier.tables.license later.tables.license ∧
    ∀ envelope importedAt result row,
      importEnvelope envelope importedAt earlier.tables = .ok result →
      earlier.tables.license = some row → envelope.claims.sequence = row.claims.sequence →
        EnvelopeCodec.canonicalJson envelope = row.canonicalJson ∨
          Collides (EnvelopeCodec.canonicalJson envelope) row.canonicalJson := by
  intro start earlier later
  have hrenewed : Renewed earlier.tables.license later.tables.license := renewed_play after
  refine ⟨fun nowUnix occurredAt answer hanswer hallowed => ⟨fun row hrow hrevoked => ?_,fun t ht => ?_⟩,
    hrenewed,fun envelope importedAt result row himport hrow hsequence => ?_⟩
  · obtain ⟨row',hrow',hclaims,hvalid,_⟩ := evaluatedEnterpriseLicense_allowed hanswer hallowed
    obtain ⟨last,hlast,hstep⟩ := hrenewed row hrow
    obtain rfl := Option.some.inj (hrow'.symm.trans hlast)
    obtain hlt | ⟨_,hkept⟩ := hstep
    · rwa [← hclaims]
    · exact absurd hvalid (hkept hrevoked)
  · obtain ⟨_,_,_,_,hclock⟩ := evaluatedEnterpriseLicense_allowed hanswer hallowed
    have hkeeps : Keeps (observedTimes tenantId (before ++ after) start) later := by
      have h := @keeps_play _ start tenantId _ _ [] (before ++ after) (fun _ ht => by cases ht)
      rw [List.nil_append, playRequests, List.foldl_append] at h
      exact h
    obtain ⟨c,hc,hle⟩ := hkeeps t ht
    exact ⟨hle.trans_lt (hclock c hc).1,hle.trans (hclock c hc).2⟩
  · simp only [importEnvelope, require_bind_eq_ok, mapError_eq_ok] at himport
    have hdigest := @digest_play _ start tenantId _ _ before (fun _ h => by cases h) row hrow
    obtain ⟨row',hrow',_,_,hsame⟩ | ⟨_,hlater⟩ := importEnterpriseLicense_license himport.2.2
    · obtain rfl := Option.some.inj (hrow.symm.trans hrow')
      exact or_iff_not_imp_left.mpr fun hne => ⟨hne,hsame.trans hdigest⟩
    · have hlt := hlater row hrow
      simp only at hlt
      omega

end Steps

def licenseEnvelope : EnterpriseLicenseEnvelope := ⟨"tenant-a",licenseImport.claims,"signature"⟩

@[reducible] def licenseEnvelopes : EnvelopeCodec where
  canonicalJson _ := "license"
  parseEnterpriseLicenseEnvelope _ := some licenseEnvelope
  verifyEnterpriseLicense _ := true
  sha256Hex _ := licenseHash
  clockRollbackSha256 _ := licenseHash

/-- A license is active before its expiry, and expired for good once an evaluation has seen a later
time. -/
example :
    let _ := licenseDates
    let _ := licenseSeats
    let _ := licenseEnvelopes
    let states := fun requests => ((evaluatedEnterpriseLicense "tenant-a" 900 licenseTime
      (playRequests "tenant-a" requests (.unlicensed (.created licenseHash licenseTime [])))).1.map
        fun answer => answer.map fun a => a.2.state).toOption
    states [.importLicense licenseEnvelope licenseTime] = some (some .active) ∧
      states [.importLicense licenseEnvelope licenseTime,.evaluate 1001 licenseTime] =
        some (some .grace) ∧
      states [.importLicense licenseEnvelope licenseTime,.evaluate 1500 licenseTime] =
        some (some .clockRollback) := by
  decide +kernel

end KernAid.Fleet
