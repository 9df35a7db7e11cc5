import KernAid.Fleet.ReceiptRuns
import KernAid.Fleet.WorkOrderRuns

/-! Work-order claims at the control plane, for any history of claims and replays. -/

set_option autoImplicit false

namespace KernAid.Fleet

open CrashLogic

structure WorkOrderClaimRequest where
  deviceId : String
  issuedAt : String
  nonce : String
  leaseSeconds : Nat
  signature : String
deriving DecidableEq, Repr

/-- The parts of the handler outside the store. A request is known by the digest of its bytes:
`parseWorkOrderClaimRequest` gives the claim in the bytes that have a digest. -/
class ClaimCodec where
  parseWorkOrderClaimRequest : String → Option WorkOrderClaimRequest
  /-- `verifyEd25519` under the key of the device. -/
  verifies : WorkOrderClaimRequest → Bool
  nonceSha256 : String → String
  claimResponseJson : String → WorkOrderClaimResult → String

inductive ClaimError where
  | malformed
  | unknownDevice
  | deviceRevoked
  | invalidSignature
  | timestampRejected
  | store (e : StoreError)
deriving DecidableEq, Repr

/-- A claim that arrives, with what the server adds to it: a new lease id, the actions that the license
and the policies allow, and the time since the clock was last read. -/
structure ClaimArrival where
  requestSha256 : String
  leaseId : String
  eligibleActionIds : List WorkOrderActionId
  elapsedMs : Nat
deriving DecidableEq, Repr

/-- What became of a claim: the result of the store if it got that far, and the answer. -/
structure ClaimRecord where
  requestSha256 : String
  claimed : Option WorkOrderClaimResult
  answer : Except ClaimError ServiceAnswer
deriving DecidableEq

/-- The order and the lease that a claim obtained. A repeated claim obtains nothing. -/
def ClaimRecord.lease (record : ClaimRecord) : Option (String × String) :=
  match record.claimed with
  | some ⟨some order,false⟩ => order.leaseId.map fun leaseId => (order.workOrderId,leaseId)
  | _ => none

def leasesOf (requestSha256 : String) (log : List ClaimRecord) : List (String × String) :=
  (log.filter fun record => record.requestSha256 = requestSha256).filterMap ClaimRecord.lease

structure ClaimService where
  clockMs : Int
  orders : WorkOrderTables
  receipts : ReceiptTables
  log : List ClaimRecord

section Handler

variable [DateParse] [DateFormat] [ReceiptCodec] [ClaimCodec]

open ClaimCodec

/-- The checks before the store, and the retained response if there is one. -/
def screenClaim (requestSha256 : String) (s : ClaimService) :
    Except ClaimError (WorkOrderClaimRequest × Option ServiceAnswer) := do
  let claim ← okOr (parseWorkOrderClaimRequest requestSha256) .malformed
  let revokedAt ← okOr s.orders.devices[claim.deviceId]? .unknownDevice
  require (revokedAt = none) .deviceRevoked
  require (verifies claim) .invalidSignature
  let replayed ←
    (replayServiceResponse ⟨.workOrderClaim,claim.deviceId,requestSha256⟩ s.receipts).mapError
    .store
  return (claim,replayed)

/-- The input of the store, for a claim that is fresh. Its nonce is remembered as long as it can be
fresh. -/
def claimInput (clockSkewMs : Nat) (claim : WorkOrderClaimRequest) (arrival : ClaimArrival)
    (nowMs : Int) : Except ClaimError ClaimWorkOrderInput := do
  let issuedAtMs ← okOr (DateParse.parse claim.issuedAt) .malformed
  require ((nowMs - issuedAtMs).natAbs ≤ clockSkewMs) .timestampRejected
  let now ← okOr (DateFormat.toISOString nowMs) (.store .invalid)
  return {
    deviceId := claim.deviceId
    requestSha256 := arrival.requestSha256
    nonceSha256 := nonceSha256 claim.nonce
    nonceExpiresAtMs := issuedAtMs + clockSkewMs + 1
    leaseId := arrival.leaseId
    leaseSeconds := claim.leaseSeconds
    eligibleActionIds := arrival.eligibleActionIds
    nowMs := nowMs
    now := now }

def claimResponse (input : ClaimWorkOrderInput) (result : WorkOrderClaimResult) : ServiceResponse :=
  ⟨⟨.workOrderClaim,input.deviceId,input.requestSha256⟩,200,
    claimResponseJson input.deviceId result,input.now,none⟩

/-- The handler. The claim and its response are two transactions. -/
def ClaimService.handle (clockSkewMs : Nat) (s : ClaimService) (arrival : ClaimArrival) :
    ClaimRecord × WorkOrderTables × ReceiptTables :=
  match screenClaim arrival.requestSha256 s with
  | .error e => (⟨arrival.requestSha256,none,.error e⟩,s.orders,s.receipts)
  | .ok (_,some answer) => (⟨arrival.requestSha256,none,.ok answer⟩,s.orders,s.receipts)
  | .ok (claim,none) =>
    match claimInput clockSkewMs claim arrival (s.clockMs + arrival.elapsedMs) with
    | .error e => (⟨arrival.requestSha256,none,.error e⟩,s.orders,s.receipts)
    | .ok input =>
      match (claimWorkOrder input).call s.orders with
      | (.error e,orders) => (⟨arrival.requestSha256,none,.error (.store e)⟩,orders,s.receipts)
      | (.ok result,orders) =>
        let sent := (claimResponse input result).send s.receipts
        (⟨arrival.requestSha256,some result,sent.1.mapError .store⟩,orders,sent.2)

end Handler

/-- What can happen at the control plane. The other calls of the store come with any clock; the other
receipts are those of other operations, and `others` stands for changes that add no response to a
claim. -/
inductive ControlEvent where
  | claim (arrival : ClaimArrival)
  | orders (call : WorkOrderCall) (hcall : ∀ input, call ≠ .claim input)
  | respond (response : ServiceResponse) (hoperation : response.context.operation ≠ .workOrderClaim)
  | others (change : ReceiptTables → ReceiptTables)
      (keeps : ∀ db, ∀ row ∈ (change db).receipts, row.operation = .workOrderClaim → row ∈ db.receipts)

section Runs

variable [DateParse] [DateFormat] [ReceiptCodec] [ClaimCodec]

def ClaimService.step (clockSkewMs : Nat) (s : ClaimService) : ControlEvent → ClaimService
  | .claim arrival =>
    let (record,orders,receipts) := s.handle clockSkewMs arrival
    ⟨s.clockMs + arrival.elapsedMs,orders,receipts,s.log ++ [record]⟩
  | .orders call _ => { s with orders := s.orders.perform call }
  | .respond response _ => { s with receipts := (response.send s.receipts).2 }
  | .others change _ => { s with receipts := change s.receipts }

def ClaimService.play (clockSkewMs : Nat) (s : ClaimService) (events : List ControlEvent) :
    ClaimService :=
  events.foldl (ClaimService.step clockSkewMs) s

def ClaimService.start (clockMs : Int) (devices : Table (Option String)) (credentials : List String)
    (receipts : ReceiptTables) : ClaimService :=
  ⟨clockMs,.start devices credentials,{ receipts with receipts := [] },[]⟩

end Runs

section Outcomes

variable [ReceiptCodec] [ClaimCodec] {clockSkewMs : Nat} {s : ClaimService} {arrival : ClaimArrival}

open ClaimCodec

theorem screenClaim_eq_ok {requestSha256 : String} {claim : WorkOrderClaimRequest}
    {replayed : Option ServiceAnswer} (h : screenClaim requestSha256 s = .ok (claim,replayed)) :
    parseWorkOrderClaimRequest requestSha256 = some claim ∧
      replayed = (s.receipts.retained ⟨.workOrderClaim,claim.deviceId,requestSha256⟩).map
        fun row => ⟨row.status,row.responseBody,row.receiptJson⟩ := by
  simp only [screenClaim, okOr_bind_eq_ok, require_bind_eq_ok] at h
  obtain ⟨found,hfound,_,_,_,_,h⟩ := h
  obtain ⟨answer,hanswer,h⟩ := bind_ok_iff.mp h
  obtain ⟨rfl,rfl⟩ := Prod.mk.inj (Except.ok.inj h)
  refine ⟨hfound,?_⟩
  exact replayServiceResponse_eq_ok (mapError_eq_ok.mp hanswer)

variable [DateParse] [DateFormat]

/-- What the handler can do: refuse the claim, replay the retained response, or get a result from the
store and answer with it. -/
inductive Handled (clockSkewMs : Nat) (s : ClaimService) (arrival : ClaimArrival) :
    ClaimRecord → WorkOrderTables → ReceiptTables → Prop
  | refused (e : ClaimError) :
      Handled clockSkewMs s arrival ⟨arrival.requestSha256,none,.error e⟩ s.orders s.receipts
  | replayed {row : ServiceReceiptRow} (hrow : row ∈ s.receipts.receipts)
      (hoperation : row.operation = .workOrderClaim)
      (hrequest : row.requestSha256 = arrival.requestSha256) :
      Handled clockSkewMs s arrival
        ⟨arrival.requestSha256,none,.ok ⟨row.status,row.responseBody,row.receiptJson⟩⟩ s.orders s.receipts
  | claimed {claim : WorkOrderClaimRequest} {input : ClaimWorkOrderInput} {result : WorkOrderClaimResult}
      {orders : WorkOrderTables} {receipts : ReceiptTables} {answer : Except ClaimError ServiceAnswer}
      (hclaim : parseWorkOrderClaimRequest arrival.requestSha256 = some claim)
      (hinput : claimInput clockSkewMs claim arrival (s.clockMs + arrival.elapsedMs) = .ok input)
      (hresult : claimWorkOrder input s.orders = .ok (result,orders))
      (hbody : ∀ sent, answer = .ok sent → sent.body = claimResponseJson claim.deviceId result)
      (hrows : ∀ row ∈ receipts.receipts, row ∈ s.receipts.receipts ∨
        row.requestSha256 = arrival.requestSha256 ∧
          answer = .ok ⟨row.status,row.responseBody,row.receiptJson⟩) :
      Handled clockSkewMs s arrival ⟨arrival.requestSha256,some result,answer⟩ orders receipts

omit [ReceiptCodec] in
theorem claimInput_eq_ok {claim : WorkOrderClaimRequest} {nowMs : Int} {input : ClaimWorkOrderInput}
    (h : claimInput clockSkewMs claim arrival nowMs = .ok input) :
    ∃ issuedAtMs, DateParse.parse claim.issuedAt = some issuedAtMs ∧ nowMs ≤ issuedAtMs + clockSkewMs ∧
      input.deviceId = claim.deviceId ∧ input.requestSha256 = arrival.requestSha256 ∧
      input.nonceSha256 = nonceSha256 claim.nonce ∧
      input.nonceExpiresAtMs = issuedAtMs + clockSkewMs + 1 ∧ input.nowMs = nowMs := by
  simp only [claimInput, okOr_bind_eq_ok, require_bind_eq_ok, pure_eq_ok_iff] at h
  obtain ⟨issuedAtMs,hissued,hfresh,now,_,rfl⟩ := h
  exact ⟨issuedAtMs,hissued,by omega,rfl,rfl,rfl,rfl,rfl⟩

theorem ClaimService.handle_spec (clockSkewMs : Nat) (s : ClaimService) (arrival : ClaimArrival) :
    Handled clockSkewMs s arrival (s.handle clockSkewMs arrival).1 (s.handle clockSkewMs arrival).2.1
      (s.handle clockSkewMs arrival).2.2 := by
  unfold ClaimService.handle
  split
  · exact .refused _
  · next answer hscreen =>
    obtain ⟨_,hretained⟩ := screenClaim_eq_ok hscreen
    obtain ⟨row,hrow,rfl⟩ := Option.map_eq_some_iff.mp hretained.symm
    obtain ⟨hmem,hcontext⟩ := retained_eq_some hrow
    exact .replayed hmem (by rw [hcontext]) (by rw [hcontext])
  · next claim hscreen =>
    obtain ⟨hclaim,hretained⟩ := screenClaim_eq_ok hscreen
    split
    · exact .refused _
    · next input hinput =>
      obtain ⟨_,_,_,hdevice,hrequest,_⟩ := claimInput_eq_ok hinput
      split
      · next e orders hcall =>
        rcases Transaction.call_cases (claimWorkOrder input) s.orders with ⟨_,_,_,hok⟩ | ⟨_,_,herror⟩
        · rw [hok] at hcall
          cases hcall
        · rw [herror] at hcall
          obtain ⟨_,rfl⟩ := Prod.mk.inj hcall
          exact .refused _
      · next given orders hcall =>
        rcases Transaction.call_cases (claimWorkOrder input) s.orders with
          ⟨result,after,hresult,hok⟩ | ⟨_,_,herror⟩
        · rw [hok] at hcall
          obtain ⟨hsame,rfl⟩ := Prod.mk.inj hcall
          obtain rfl := Except.ok.inj hsame
          have hnone : s.receipts.retained (claimResponse input result).context = none := by
            rw [claimResponse, hdevice, hrequest]
            simpa using hretained.symm
          obtain ⟨hbody,hrows⟩ := ServiceResponse.send_new hnone
          refine .claimed hclaim hinput hresult (fun sent hsent => ?_) fun row hrow => ?_
          · rw [hbody sent (mapError_eq_ok.mp hsent), claimResponse, hdevice]
          · rcases hrows row hrow with hold | ⟨hcontext,hanswer⟩
            · exact .inl hold
            · refine .inr ⟨?_,mapError_eq_ok.mpr hanswer⟩
              rw [show row.requestSha256 = row.toServiceResponseContext.requestSha256 from rfl, hcontext]
              exact hrequest
        · rw [herror] at hcall
          cases (Prod.mk.inj hcall).1

end Outcomes

section History

variable {log : List ClaimRecord} {record : ClaimRecord} {requestSha256 : String}

def Accepted (requestSha256 : String) (log : List ClaimRecord) : Prop :=
  ∃ record ∈ log, record.requestSha256 = requestSha256 ∧ record.claimed ≠ none

theorem leasesOf_append (requestSha256 : String) (log : List ClaimRecord) (record : ClaimRecord) :
    leasesOf requestSha256 (log ++ [record]) = leasesOf requestSha256 log ++
      if record.requestSha256 = requestSha256 then record.lease.toList else [] := by
  simp only [leasesOf, List.filter_append, List.filterMap_append]
  split_ifs with hsame
  · cases hlease : record.lease <;> simp [hsame, hlease]
  · simp [hsame]

theorem leasesOf_eq_nil (h : ¬ Accepted requestSha256 log) : leasesOf requestSha256 log = [] := by
  rw [leasesOf, List.filterMap_eq_nil_iff]
  intro record hrecord
  obtain ⟨hmem,hrequest⟩ := List.mem_filter.mp hrecord
  by_contra hlease
  refine h ⟨record,hmem,by simpa using hrequest,fun hnone => hlease ?_⟩
  rw [ClaimRecord.lease, hnone]

end History

section Invariant

variable [DateParse] {input : ClaimWorkOrderInput}

theorem repeatedClaim_eq_ok {existing : WorkOrderClaimRow} {db : WorkOrderTables}
    {result : WorkOrderClaimResult} (h : repeatedClaim input existing db = .ok result) :
    existing.requestSha256 = input.requestSha256 ∧
      (existing.lease = none ∧ result = ⟨none,true⟩ ∨
        ∃ lease order, existing.lease = some lease ∧ result = ⟨some order,true⟩ ∧
          db.requiredWorkOrder lease.1 = .ok order ∧ order.status = .leased ∧
          order.leaseId = some lease.2) := by
  simp only [repeatedClaim, require_bind_eq_ok] at h
  obtain ⟨hrequest,h⟩ := h
  refine ⟨hrequest,?_⟩
  split at h
  · next hnone => exact .inl ⟨hnone,(Except.ok.inj h).symm⟩
  · next workOrderId leaseId hsome =>
    obtain ⟨order,horder,h⟩ := bind_ok_iff.mp h
    rw [require_bind_eq_ok, pure_eq_ok_iff] at h
    exact .inr ⟨(workOrderId,leaseId),order,hsome,h.2.symm,horder,h.1⟩

theorem Swept.active {db mid : WorkOrderTables} {row : WorkOrderRow} (h : Swept input db mid)
    (hdb : db.Ok) (hrow : row ∈ mid.workOrders) (htarget : row.targetDeviceId = input.deviceId)
    (hleased : row.status = .leased) (hlease : row.leaseId ≠ none) :
    ∃ expiry, row.leaseExpiresAtMs = some expiry ∧ input.nowMs < expiry := by
  rw [h.rows] at hrow
  obtain ⟨r,hr,hsame⟩ := List.mem_map.mp hrow
  unfold WorkOrderRow.swept at hsame
  split_ifs at hsame with hexpired hreleased
  · rw [← hsame] at hleased
    cases hleased
  · rw [← hsame] at hleased
    cases hleased
  · subst hsame
    obtain ⟨_,_,_,hboth,_⟩ := (hdb.valid r hr).lease
    cases hexpiry : r.leaseExpiresAtMs with
    | none => exact absurd (hboth.mp (.inr (.inr (.inr hexpiry)))).1 hlease
    | some expiry =>
      refine ⟨expiry,rfl,?_⟩
      by_contra hpast
      have hcurrent : input.nowMs < r.expiresAtMs := by
        by_contra hover
        refine hexpired (WorkOrderRow.hasExpired_iff.mpr ⟨not_lt.mp hover,?_⟩)
        simp [hleased, WorkOrderStatus.isActive]
      exact hreleased (WorkOrderRow.leaseHasExpired_iff.mpr
        ⟨htarget,hleased,⟨expiry,hexpiry,not_lt.mp hpast⟩,hcurrent⟩)

variable [ClaimCodec]

open ClaimCodec

def IssuedAt (requestSha256 : String) (claim : WorkOrderClaimRequest) (issuedAtMs : Int) : Prop :=
  parseWorkOrderClaimRequest requestSha256 = some claim ∧ DateParse.parse claim.issuedAt = some issuedAtMs

structure ClaimService.Ok (clockSkewMs : Nat) (s : ClaimService) : Prop where
  orders : s.orders.Ok
  rows : ∀ row ∈ s.orders.claims, ∃ claim issuedAtMs, IssuedAt row.requestSha256 claim issuedAtMs ∧
    row.deviceId = claim.deviceId ∧ row.nonceSha256 = nonceSha256 claim.nonce ∧
    row.expiresAtMs = issuedAtMs + clockSkewMs + 1 ∧ row.lease.toList = leasesOf row.requestSha256 s.log
  targets : ∀ row ∈ s.orders.claims, ∀ lease ∈ row.lease, ∃ order ∈ s.orders.workOrders,
    order.workOrderId = lease.1 ∧ order.targetDeviceId = row.deviceId
  remembered : ∀ requestSha256, Accepted requestSha256 s.log →
    (∃ row ∈ s.orders.claims, row.requestSha256 = requestSha256) ∨
      ∃ claim issuedAtMs, IssuedAt requestSha256 claim issuedAtMs ∧ issuedAtMs + clockSkewMs < s.clockMs
  answered : ∀ record ∈ s.log, ∀ answer, record.answer = .ok answer → Accepted record.requestSha256 s.log
  retained : ∀ row ∈ s.receipts.receipts, row.operation = .workOrderClaim → ∃ record ∈ s.log,
    record.requestSha256 = row.requestSha256 ∧
      record.answer = .ok ⟨row.status,row.responseBody,row.receiptJson⟩
  once : ∀ requestSha256, (leasesOf requestSha256 s.log).length ≤ 1

variable {clockSkewMs : Nat} {s : ClaimService} {arrival : ClaimArrival}

variable {nowMs : Int}

theorem ClaimService.start_ok (clockMs : Int) (devices : Table (Option String))
    (credentials : List String)
    (receipts : ReceiptTables) :
    (ClaimService.start clockMs devices credentials receipts).Ok clockSkewMs := by
  refine ⟨WorkOrderTables.start_ok devices credentials,?_,?_,?_,?_,?_,?_⟩ <;>
    simp [ClaimService.start, WorkOrderTables.start, Accepted, leasesOf]

theorem ClaimService.Ok.fresh_row (h : s.Ok clockSkewMs) {requestSha256 : String}
    {claim : WorkOrderClaimRequest} {issuedAtMs : Int} (haccepted : Accepted requestSha256 s.log)
    (hissued : IssuedAt requestSha256 claim issuedAtMs) (hclock : s.clockMs ≤ nowMs)
    (hfresh : nowMs ≤ issuedAtMs + clockSkewMs) :
    ∃ row ∈ s.orders.liveClaims nowMs, row.requestSha256 = requestSha256 ∧
      row.deviceId = claim.deviceId ∧ row.nonceSha256 = nonceSha256 claim.nonce := by
  rcases h.remembered requestSha256 haccepted with ⟨row,hrow,rfl⟩ | ⟨other,otherMs,hother,hstale⟩
  · obtain ⟨known,knownMs,hknown,hdevice,hnonce,hexpires,_⟩ := h.rows row hrow
    obtain rfl := Option.some.inj (hknown.1.symm.trans hissued.1)
    obtain rfl := Option.some.inj (hknown.2.symm.trans hissued.2)
    refine ⟨row,?_,rfl,hdevice,hnonce⟩
    rw [WorkOrderTables.liveClaims, List.mem_filter, decide_eq_true_iff]
    exact ⟨hrow,by omega⟩
  · obtain rfl := Option.some.inj (hother.1.symm.trans hissued.1)
    obtain rfl := Option.some.inj (hother.2.symm.trans hissued.2)
    omega

structure Remembers (clockSkewMs : Nat) (orders : WorkOrderTables) (log : List ClaimRecord)
    (row : WorkOrderClaimRow) : Prop where
  issued : ∃ claim issuedAtMs, IssuedAt row.requestSha256 claim issuedAtMs ∧
    row.deviceId = claim.deviceId ∧ row.nonceSha256 = nonceSha256 claim.nonce ∧
    row.expiresAtMs = issuedAtMs + clockSkewMs + 1 ∧ row.lease.toList = leasesOf row.requestSha256 log
  target : ∀ lease ∈ row.lease, ∃ order ∈ orders.workOrders,
    order.workOrderId = lease.1 ∧ order.targetDeviceId = row.deviceId

/-- How a claim that was handled changes the control plane: only rows that have expired are forgotten, and
a lease is obtained by a request that is not remembered. -/
structure Advance (clockSkewMs : Nat) (s : ClaimService) (nowMs : Int) (record : ClaimRecord)
    (orders : WorkOrderTables) (receipts : ReceiptTables) : Prop where
  clock : s.clockMs ≤ nowMs
  ok : orders.Ok
  targets : ∀ order ∈ s.orders.workOrders, ∃ order' ∈ orders.workOrders,
    order'.workOrderId = order.workOrderId ∧ order'.targetDeviceId = order.targetDeviceId
  kept : ∀ row ∈ s.orders.liveClaims nowMs, row ∈ orders.claims
  origin : ∀ row ∈ orders.claims, (row ∈ s.orders.claims ∧
      (record.lease ≠ none → record.requestSha256 ≠ row.requestSha256)) ∨
    Remembers clockSkewMs orders (s.log ++ [record]) row
  accepted : record.claimed ≠ none → ∃ row ∈ orders.claims, row.requestSha256 = record.requestSha256
  answered : ∀ answer, record.answer = .ok answer →
    record.claimed ≠ none ∨ Accepted record.requestSha256 s.log
  retained : ∀ row ∈ receipts.receipts, row ∈ s.receipts.receipts ∨
    row.requestSha256 = record.requestSha256 ∧
      record.answer = .ok ⟨row.status,row.responseBody,row.receiptJson⟩
  new : record.lease ≠ none → leasesOf record.requestSha256 s.log = []

theorem Advance.next {record : ClaimRecord} {orders : WorkOrderTables} {receipts : ReceiptTables}
    (h : Advance clockSkewMs s nowMs record orders receipts) (hs : s.Ok clockSkewMs) :
    ClaimService.Ok clockSkewMs ⟨nowMs,orders,receipts,s.log ++ [record]⟩ := by
  have hmono : ∀ requestSha256, Accepted requestSha256 s.log →
      Accepted requestSha256 (s.log ++ [record]) := by
    rintro requestSha256 ⟨old,hold,hrequest⟩
    exact ⟨old,List.mem_append_left _ hold,hrequest⟩
  have hremembers : ∀ row ∈ orders.claims, Remembers clockSkewMs orders (s.log ++ [record]) row := by
    intro row hrow
    rcases h.origin row hrow with ⟨hold,hother⟩ | hnew
    · obtain ⟨claim,issuedAtMs,hissued,hdevice,hnonce,hexpires,hlease⟩ := hs.rows row hold
      refine ⟨⟨claim,issuedAtMs,hissued,hdevice,hnonce,hexpires,?_⟩,fun lease hmem => ?_⟩
      · rw [hlease, leasesOf_append]
        split_ifs with hsame
        · cases hobtained : record.lease with
          | none => simp
          | some lease => exact absurd hsame (hother (by simp [hobtained]))
        · simp
      · obtain ⟨order,horder,hid,htarget⟩ := hs.targets row hold lease hmem
        obtain ⟨order',horder',hid',htarget'⟩ := h.targets order horder
        exact ⟨order',horder',hid'.trans hid,htarget'.trans htarget⟩
    · exact hnew
  refine ⟨h.ok,fun row hrow => (hremembers row hrow).issued,fun row hrow => (hremembers row hrow).target,
    ?_,?_,?_,?_⟩
  · rintro requestSha256 ⟨old,hold,rfl,hclaimed⟩
    rcases List.mem_append.mp hold with hold | hold
    · rcases hs.remembered _ ⟨old,hold,rfl,hclaimed⟩ with ⟨row,hrow,hrequest⟩ |
        ⟨claim,issuedAtMs,hissued,hstale⟩
      · obtain ⟨claim,issuedAtMs,hissued,_,_,hexpires,_⟩ := hs.rows row hrow
        -- The row is still there, or it has expired and with it the request.
        by_cases hlive : nowMs < row.expiresAtMs
        · refine .inl ⟨row,h.kept row ?_,hrequest⟩
          rw [WorkOrderTables.liveClaims, List.mem_filter, decide_eq_true_iff]
          exact ⟨hrow,hlive⟩
        · refine .inr ⟨claim,issuedAtMs,hrequest ▸ hissued,?_⟩
          change _ < nowMs
          omega
      · refine .inr ⟨claim,issuedAtMs,hissued,?_⟩
        have hclock := h.clock
        change _ < nowMs
        omega
    · obtain rfl := List.mem_singleton.mp hold
      exact .inl (h.accepted hclaimed)
  · intro old hold answer hanswer
    rcases List.mem_append.mp hold with hold | hold
    · exact hmono _ (hs.answered old hold answer hanswer)
    · obtain rfl := List.mem_singleton.mp hold
      rcases h.answered answer hanswer with hclaimed | haccepted
      · exact ⟨old,by simp,rfl,hclaimed⟩
      · exact hmono _ haccepted
  · intro row hrow hoperation
    rcases h.retained row hrow with hold | ⟨hrequest,hanswer⟩
    · obtain ⟨old,hmem,hrequest,hanswer⟩ := hs.retained row hold hoperation
      exact ⟨old,List.mem_append_left _ hmem,hrequest,hanswer⟩
    · exact ⟨record,by simp,hrequest.symm,hanswer⟩
  · intro requestSha256
    rw [leasesOf_append]
    split_ifs with hsame
    · cases hobtained : record.lease with
      | none => simpa using hs.once requestSha256
      | some lease =>
        rw [← hsame, h.new (by simp [hobtained])]
        simp
    · simpa using hs.once requestSha256

theorem ClaimService.Ok.unclaimed (h : s.Ok clockSkewMs) (hclock : s.clockMs ≤ nowMs)
    {requestSha256 : String} {answer : Except ClaimError ServiceAnswer}
    (hanswer : ∀ sent, answer = .ok sent → Accepted requestSha256 s.log) :
    Advance clockSkewMs s nowMs ⟨requestSha256,none,answer⟩ s.orders s.receipts where
  clock := hclock
  ok := h.orders
  targets order horder := ⟨order,horder,rfl,rfl⟩
  kept _ hrow := List.mem_of_mem_filter hrow
  origin _ hrow := .inl ⟨hrow,fun hlease => absurd rfl hlease⟩
  accepted hclaimed := absurd rfl hclaimed
  answered sent hsent := .inr (hanswer sent hsent)
  retained _ hrow := .inl hrow
  new hlease := absurd rfl hlease

variable [DateFormat]

theorem ClaimService.Ok.new_claim (h : s.Ok clockSkewMs) {claim : WorkOrderClaimRequest}
    (hclaim : parseWorkOrderClaimRequest arrival.requestSha256 = some claim)
    (hinput : claimInput clockSkewMs claim arrival (s.clockMs + arrival.elapsedMs) = .ok input)
    (hnew : ∀ row ∈ s.orders.liveClaims input.nowMs,
      ¬ (row.deviceId = input.deviceId ∧ row.nonceSha256 = input.nonceSha256)) :
    ¬ Accepted arrival.requestSha256 s.log ∧
      ∀ row ∈ s.orders.liveClaims input.nowMs, arrival.requestSha256 ≠ row.requestSha256 := by
  obtain ⟨issuedAtMs,hissued,hfresh,hdevice,_,hnonce,_,hnow⟩ := claimInput_eq_ok hinput
  rw [hdevice, hnonce] at hnew
  constructor
  · intro haccepted
    obtain ⟨row,hrow,_,hmatch⟩ := h.fresh_row haccepted ⟨hclaim,hissued⟩ (by omega) hfresh
    exact hnew row (hnow ▸ hrow) hmatch
  · intro row hrow hrequest
    obtain ⟨known,_,hknown,hknownDevice,hknownNonce,_⟩ := h.rows row (List.mem_of_mem_filter hrow)
    rw [← hrequest] at hknown
    obtain rfl := Option.some.inj (hknown.1.symm.trans hclaim)
    exact hnew row hrow ⟨hknownDevice,hknownNonce⟩

theorem ClaimService.Ok.advances (h : s.Ok clockSkewMs) {record : ClaimRecord} {orders : WorkOrderTables}
    {receipts : ReceiptTables} (hhandled : Handled clockSkewMs s arrival record orders receipts) :
    Advance clockSkewMs s (s.clockMs + arrival.elapsedMs) record orders receipts := by
  cases hhandled with
  | refused e => exact h.unclaimed (by omega) nofun
  | @replayed row hrow hoperation hrequest =>
    refine h.unclaimed (by omega) fun sent hsent => ?_
    obtain ⟨old,hold,hsame,hanswer⟩ := h.retained row hrow hoperation
    rw [← hrequest, ← hsame]
    exact h.answered old hold _ hanswer
  | @claimed claim input result _ _ answer hclaim hinput hresult hbody hrows =>
    obtain ⟨issuedAtMs,hissued,hfresh,hdevice,hrequest,hnonce,hexpires,hnow⟩ := claimInput_eq_ok hinput
    obtain ⟨_,mid,hswept,houtcome⟩ := claimWorkOrder_spec h.orders hresult
    have hchain := houtcome.chain hswept
    have hok := WorkOrderTables.changed_ok hchain h.orders
    have htargets : ∀ order ∈ s.orders.workOrders, ∃ order' ∈ orders.workOrders,
        order'.workOrderId = order.workOrderId ∧ order'.targetDeviceId = order.targetDeviceId :=
      fun order horder => changed_target hchain h.orders horder
    have hclock : s.clockMs ≤ s.clockMs + arrival.elapsedMs := by omega
    rw [← hnow]
    rw [← hnow] at hclock
    -- The row that a new claim adds, with its lease if it obtained one.
    have hremembers : ∀ lease : Option (String × String),
        ClaimRecord.lease ⟨arrival.requestSha256,some result,answer⟩ = lease →
        ¬ Accepted arrival.requestSha256 s.log →
        (∀ l ∈ lease, ∃ order ∈ orders.workOrders, order.workOrderId = l.1 ∧
          order.targetDeviceId = input.deviceId) →
        Remembers clockSkewMs orders (s.log ++ [⟨arrival.requestSha256,some result,answer⟩])
          (input.claimRow lease) := by
      intro lease hlease hfirst htarget
      have hdigest : (input.claimRow lease).requestSha256 = arrival.requestSha256 := hrequest
      refine ⟨⟨claim,issuedAtMs,⟨by rw [hdigest, hclaim],hissued⟩,hdevice,hnonce,hexpires,?_⟩,htarget⟩
      rw [hdigest, leasesOf_append, leasesOf_eq_nil hfirst, hlease, if_pos rfl]
      rfl
    cases houtcome with
    | @repeated existing _ hfound hrepeated hdb' =>
      obtain ⟨hsame,hcases⟩ := repeatedClaim_eq_ok hrepeated
      have hclaims : orders.claims = s.orders.liveClaims input.nowMs := by rw [hdb']
      have hnone : ClaimRecord.lease ⟨arrival.requestSha256,some result,answer⟩ = none := by
        rcases hcases with ⟨_,rfl⟩ | ⟨_,_,_,rfl,_⟩ <;> rfl
      refine ⟨hclock,hok,htargets,fun row hrow => hclaims ▸ hrow,fun row hrow => .inl ⟨?_,?_⟩,fun _ => ?_,
        fun _ _ => .inl nofun,hrows,fun hlease => absurd hnone hlease⟩
      · rw [hclaims] at hrow
        exact List.mem_of_mem_filter hrow
      · exact fun hlease => absurd hnone hlease
      · exact ⟨existing,hclaims ▸ List.mem_of_find?_eq_some hfound,hsame.trans hrequest⟩
    | nothing hnew hqueue hdb' =>
      obtain ⟨hfirst,hdigest⟩ := h.new_claim hclaim hinput hnew
      have hclaims : orders.claims = s.orders.liveClaims input.nowMs ++
          [input.claimRow none] := by rw [hdb']
      refine ⟨hclock,hok,htargets,fun row hrow => ?_,fun row hrow => ?_,fun _ => ?_,
        fun _ _ => .inl nofun,hrows,fun _ => leasesOf_eq_nil hfirst⟩
      · exact hclaims ▸ List.mem_append_left _ hrow
      · rw [hclaims] at hrow
        rcases List.mem_append.mp hrow with hrow | hrow
        · exact .inl ⟨List.mem_of_mem_filter hrow,fun _ => hdigest row hrow⟩
        · obtain rfl := List.mem_singleton.mp hrow
          exact .inr (hremembers none rfl hfirst nofun)
      · exact ⟨input.claimRow none,by simp [hclaims],hrequest⟩
    | @leased row leaseExpiresAt leaseExpiresAtMs event after hnew hqueue _ _ _ _ _ hevent hdb' =>
      obtain ⟨hfirst,hdigest⟩ := h.new_claim hclaim hinput hnew
      have hclaims : orders.claims = s.orders.liveClaims input.nowMs ++
          [input.claimRow (some (row.workOrderId,input.leaseId))] := by rw [hdb']
      have hleased : row.leased input leaseExpiresAt leaseExpiresAtMs ∈ orders.workOrders := by
        rw [hdb', recordWorkOrderEvent_spec hevent]
        exact mem_replace_self (nextQueued_eq_some hqueue).1 rfl
      refine ⟨hclock,hok,htargets,fun row hrow => ?_,fun other hother => ?_,
        fun _ => ?_,fun _ _ => .inl nofun,hrows,fun _ => leasesOf_eq_nil hfirst⟩
      · exact hclaims ▸ List.mem_append_left _ hrow
      · rw [hclaims] at hother
        rcases List.mem_append.mp hother with hother | hother
        · exact .inl ⟨List.mem_of_mem_filter hother,fun _ => hdigest other hother⟩
        · obtain rfl := List.mem_singleton.mp hother
          refine .inr (hremembers _ rfl hfirst fun lease hlease => ?_)
          obtain rfl := Option.some.inj hlease
          exact ⟨_,hleased,rfl,(nextQueued_eq_some hqueue).2.1⟩
      · exact ⟨_,by rw [hclaims]; exact List.mem_append_right _ (List.mem_singleton_self _),hrequest⟩

variable [ReceiptCodec]

theorem ClaimService.Ok.step (h : s.Ok clockSkewMs) (event : ControlEvent) :
    (s.step clockSkewMs event).Ok clockSkewMs := by
  cases event with
  | claim arrival => exact (h.advances (s.handle_spec clockSkewMs arrival)).next h
  | orders call hcall =>
    have hchanges := perform_changes h.orders call
    have hclaims : (s.orders.perform call).claims = s.orders.claims := changed_claims hcall hchanges
    refine ⟨h.orders.perform call,?_,?_,?_,h.answered,h.retained,h.once⟩
    · intro row hrow
      exact h.rows row (hclaims ▸ hrow)
    · intro row hrow lease hlease
      obtain ⟨order,horder,hid,htarget⟩ := h.targets row (hclaims ▸ hrow) lease hlease
      obtain ⟨order',horder',hid',htarget'⟩ := changed_target hchanges h.orders horder
      exact ⟨order',horder',hid'.trans hid,htarget'.trans htarget⟩
    · intro requestSha256 haccepted
      simp only [ClaimService.step, hclaims]
      exact h.remembered requestSha256 haccepted
  | respond response hoperation =>
    refine ⟨h.orders,h.rows,h.targets,h.remembered,h.answered,?_,h.once⟩
    intro row hrow hclaim
    simp only [ClaimService.step] at hrow
    rcases response.send_cases s.receipts with ⟨stored,after,hok,hsend⟩ | ⟨e,_,hsend⟩
    · rw [hsend] at hrow
      cases ServiceResponse.commit_spec hok with
      | retained => exact h.retained row hrow hclaim
      | stored =>
        rcases List.mem_append.mp (mem_of_mem_evictReceipts hrow) with hrow | hrow
        · exact h.retained row hrow hclaim
        · obtain rfl := List.mem_singleton.mp hrow
          exact absurd hclaim hoperation
    · rw [hsend] at hrow
      exact h.retained row hrow hclaim
  | others change keeps =>
    refine ⟨h.orders,h.rows,h.targets,h.remembered,h.answered,?_,h.once⟩
    intro row hrow hclaim
    exact h.retained row (keeps s.receipts row hrow hclaim) hclaim

theorem ClaimService.Ok.play (h : s.Ok clockSkewMs) (events : List ControlEvent) :
    (s.play clockSkewMs events).Ok clockSkewMs := by
  induction events generalizing s with
  | nil => exact h
  | cons event events ih => exact ih (h.step event)

/-- What a replay of an accepted claim gets: an error, a response that the claim got before, a response
with the lease that it obtained and that is still in force, or a response without a lease if it obtained
none. -/
inductive ReplayOutcome (s : ClaimService) (requestSha256 : String) (nowMs : Int)
    (orders : WorkOrderTables) :
    Except ClaimError ServiceAnswer → Prop
  | refused (e : ClaimError) : ReplayOutcome s requestSha256 nowMs orders (.error e)
  | replayed {record : ClaimRecord} {answer : ServiceAnswer} (hrecord : record ∈ s.log)
      (hrequest : record.requestSha256 = requestSha256) (hanswer : record.answer = .ok answer) :
      ReplayOutcome s requestSha256 nowMs orders (.ok answer)
  | leased {claim : WorkOrderClaimRequest} {lease : String × String} {row : WorkOrderRow} {expiry : Int}
      {answer : ServiceAnswer} (hclaim : parseWorkOrderClaimRequest requestSha256 = some claim)
      (hlease : leasesOf requestSha256 s.log = [lease]) (hrow : row ∈ orders.workOrders)
      (hid : row.workOrderId = lease.1) (hleaseId : row.leaseId = some lease.2)
      (hstatus : row.status = .leased) (hexpiry : row.leaseExpiresAtMs = some expiry)
      (hactive : nowMs < expiry)
      (hbody : answer.body = claimResponseJson claim.deviceId ⟨some row.toStoredWorkOrder,true⟩) :
      ReplayOutcome s requestSha256 nowMs orders (.ok answer)
  | nothing {claim : WorkOrderClaimRequest} {answer : ServiceAnswer}
      (hclaim : parseWorkOrderClaimRequest requestSha256 = some claim)
      (hlease : leasesOf requestSha256 s.log = [])
      (hbody : answer.body = claimResponseJson claim.deviceId ⟨none,true⟩) :
      ReplayOutcome s requestSha256 nowMs orders (.ok answer)

theorem ClaimService.Ok.replay (h : s.Ok clockSkewMs) (haccepted : Accepted arrival.requestSha256 s.log) :
    ReplayOutcome s arrival.requestSha256 (s.clockMs + arrival.elapsedMs)
      (s.handle clockSkewMs arrival).2.1 (s.handle clockSkewMs arrival).1.answer := by
  have hhandled := s.handle_spec clockSkewMs arrival
  revert hhandled
  generalize (s.handle clockSkewMs arrival).1 = record, (s.handle clockSkewMs arrival).2.1 = orders,
    (s.handle clockSkewMs arrival).2.2 = receipts
  intro hhandled
  cases hhandled with
  | refused e => exact .refused e
  | @replayed row hrow hoperation hrequest =>
    obtain ⟨old,hold,hsame,hanswer⟩ := h.retained row hrow hoperation
    exact .replayed hold (hsame.trans hrequest) hanswer
  | @claimed claim input result _ _ answer hclaim hinput hresult hbody _ =>
    obtain ⟨issuedAtMs,hissued,_,hdevice,hrequest,_,_,hnow⟩ := claimInput_eq_ok hinput
    obtain ⟨_,mid,hswept,houtcome⟩ := claimWorkOrder_spec h.orders hresult
    cases houtcome with
    | nothing hnew => exact absurd haccepted (h.new_claim hclaim hinput hnew).1
    | leased hnew => exact absurd haccepted (h.new_claim hclaim hinput hnew).1
    | @repeated existing _ hfound hrepeated hdb' =>
      obtain ⟨hsame,hcases⟩ := repeatedClaim_eq_ok hrepeated
      have hexisting : existing ∈ s.orders.claims :=
        List.mem_of_mem_filter (List.mem_of_find?_eq_some hfound)
      obtain ⟨_,_,_,_,_,_,hlease⟩ := h.rows existing hexisting
      rw [hsame, hrequest] at hlease
      cases answer with
      | error e => exact .refused e
      | ok sent =>
        have hsent := hbody sent rfl
        rcases hcases with ⟨hnone,rfl⟩ | ⟨lease,order,hsome,rfl,horder,hstatus,hleaseId⟩
        · exact .nothing hclaim (by rw [← hlease, hnone]; rfl) hsent
        · obtain ⟨row,hrow,hid,_,rfl⟩ := requiredWorkOrder_eq_ok horder
          obtain ⟨target,htarget,htargetId,hdeviceId⟩ := h.targets existing hexisting lease hsome
          obtain ⟨target',htarget',htargetId',hdeviceId'⟩ := changed_target hswept.chain h.orders htarget
          have hmid := WorkOrderTables.changed_ok hswept.chain h.orders
          obtain rfl : target' = row := hmid.eq_of_id htarget' hrow
            (htargetId'.trans (htargetId.trans hid.symm))
          have hmine : existing.deviceId = input.deviceId := by
            have hmatch := List.find?_some hfound
            simp only [Bool.and_eq_true, decide_eq_true_eq] at hmatch
            exact hmatch.1
          obtain ⟨expiry,hexpiry,hactive⟩ := hswept.active h.orders hrow
            (hdeviceId'.trans (hdeviceId.trans hmine)) hstatus (by simp [hleaseId])
          refine .leased hclaim (by rw [← hlease, hsome]; rfl) ?_ hid hleaseId hstatus hexpiry
            (hnow ▸ hactive) hsent
          rw [hdb']
          exact hrow

/-- For every history of claims and replays under a clock that does not go back: a request obtains one
lease at most; a replay of an accepted request gets an error, a response that the request got before, its
lease while that is in force, or no lease if it obtained none; and no request with its nonce obtains
another lease while it is fresh. -/
theorem claims_lease_once_and_replay_safely (clockSkewMs : Nat) (clockMs : Int)
    (devices : Table (Option String)) (credentials : List String) (receipts : ReceiptTables)
    (events : List ControlEvent) :
    let s := (ClaimService.start clockMs devices credentials receipts).play clockSkewMs events
    (∀ requestSha256, (leasesOf requestSha256 s.log).length ≤ 1) ∧
    (∀ arrival : ClaimArrival, (Accepted arrival.requestSha256 s.log ∨
        ∃ record ∈ s.log, record.requestSha256 = arrival.requestSha256 ∧
          ∃ answer, record.answer = .ok answer) →
      ReplayOutcome s arrival.requestSha256 (s.clockMs + arrival.elapsedMs)
        (s.handle clockSkewMs arrival).2.1 (s.handle clockSkewMs arrival).1.answer) ∧
    ∀ (first : String) (claim second : WorkOrderClaimRequest) (issuedAtMs : Int) (arrival : ClaimArrival),
      Accepted first s.log → IssuedAt first claim issuedAtMs →
      s.clockMs + arrival.elapsedMs ≤ issuedAtMs + clockSkewMs →
      parseWorkOrderClaimRequest arrival.requestSha256 = some second →
      second.deviceId = claim.deviceId → second.nonce = claim.nonce →
      (s.handle clockSkewMs arrival).1.lease = none := by
  intro s
  have hs : s.Ok clockSkewMs := (ClaimService.start_ok clockMs devices credentials receipts).play events
  refine ⟨hs.once,?_,?_⟩
  · rintro arrival (haccepted | ⟨record,hrecord,hrequest,answer,hanswer⟩)
    · exact hs.replay haccepted
    · exact hs.replay (hrequest ▸ hs.answered record hrecord answer hanswer)
  · intro first claim second issuedAtMs arrival haccepted hissued hfresh hsecond hdevice hnonce
    obtain ⟨row,hrow,_,hrowDevice,hrowNonce⟩ := hs.fresh_row haccepted hissued (by omega) hfresh
    have hhandled := s.handle_spec clockSkewMs arrival
    revert hhandled
    generalize (s.handle clockSkewMs arrival).1 = record, (s.handle clockSkewMs arrival).2.1 = orders,
      (s.handle clockSkewMs arrival).2.2 = after
    intro hhandled
    cases hhandled with
    | refused e => rfl
    | replayed => rfl
    | @claimed known input result _ _ answer hclaim hinput hresult _ _ =>
      obtain rfl := Option.some.inj (hclaim.symm.trans hsecond)
      obtain ⟨_,_,_,hinputDevice,_,hinputNonce,_,hnow⟩ := claimInput_eq_ok hinput
      obtain ⟨_,mid,hswept,houtcome⟩ := claimWorkOrder_spec hs.orders hresult
      -- The row of the first claim has the device and the nonce of this one.
      have hmatch : row.deviceId = input.deviceId ∧ row.nonceSha256 = input.nonceSha256 := by
        rw [hrowDevice, hrowNonce, hinputDevice, hinputNonce, hdevice, hnonce]
        exact ⟨rfl,rfl⟩
      cases houtcome with
      | nothing => rfl
      | leased hnew => exact absurd hmatch (hnew row (hnow ▸ hrow))
      | repeated _ hrepeated =>
        obtain ⟨_,⟨_,rfl⟩ | ⟨_,_,_,rfl,_⟩⟩ := repeatedClaim_eq_ok hrepeated <;> rfl

end Invariant

namespace ClaimSample

open ReceiptSample (device acceptedAt receiptText)

def leaseOverAt : String := "1970-01-01T00:01:00.000Z"

def orderOverAt : String := "1970-01-02T00:00:00.000Z"

scoped instance claimDates : DateParse :=
  ⟨fun text => some (if text = acceptedAt then 0 else if text = leaseOverAt then 60000 else 86400000)⟩

scoped instance claimFormat : DateFormat :=
  ⟨fun ms => some (if ms = 0 then acceptedAt else if ms = 60000 then leaseOverAt else orderOverAt)⟩

scoped instance claimReceipts : ReceiptCodec := ReceiptSample.receipts .workOrderClaim

scoped instance claimRequests : ClaimCodec where
  parseWorkOrderClaimRequest digest := some ⟨device,acceptedAt,digest,60,"signature"⟩
  verifies _ := true
  nonceSha256 nonce := nonce
  claimResponseJson _ result := if result.idempotent then "again" else "first"

def arrivalOf (c : Char) : ClaimArrival := ⟨digits c,"lease",[.linuxStorageHealth],0⟩

/-- A device without orders sends five claims, and then the first one again. Its response is no longer
retained, so it gets another one than before: without a lease, and not an error. -/
theorem empty_claim_replayed_after_eviction :
    (((ClaimService.start 0 (Std.ExtTreeMap.insert ∅ device none) []
      ⟨[device],∅,[],[],[]⟩).play 300000
        [.claim (arrivalOf '0'),.claim (arrivalOf '1'),.claim (arrivalOf '2'),.claim (arrivalOf '3'),
          .claim (arrivalOf '4'),.claim (arrivalOf '0')]).log) =
      [⟨digits '0',some ⟨none,false⟩,.ok ⟨200,"first",receiptText '0' 'f' 1⟩⟩,
        ⟨digits '1',some ⟨none,false⟩,.ok ⟨200,"first",receiptText '1' 'f' 2⟩⟩,
        ⟨digits '2',some ⟨none,false⟩,.ok ⟨200,"first",receiptText '2' 'f' 3⟩⟩,
        ⟨digits '3',some ⟨none,false⟩,.ok ⟨200,"first",receiptText '3' 'f' 4⟩⟩,
        ⟨digits '4',some ⟨none,false⟩,.ok ⟨200,"first",receiptText '4' 'f' 5⟩⟩,
        ⟨digits '0',some ⟨none,true⟩,.ok ⟨200,"again",receiptText '0' 'a' 6⟩⟩] := by
  decide +kernel

def order : CreateWorkOrderInput :=
  ⟨"order","request",digits '9',device,.linuxStorageHealth,1,.diagnosis,.r0,false,"admin",acceptedAt,
    orderOverAt,86400000⟩

/-- The same claims with an order to lease, and the first one once more when the lease is over. -/
def leasedRun : ClaimService :=
  (ClaimService.start 0 (Std.ExtTreeMap.insert ∅ device none) ["admin"] ⟨[device],∅,[],[],[]⟩).play
    300000 [.orders (.create order) (fun _ h => by cases h),.claim (arrivalOf '0'),.claim (arrivalOf '1'),
      .claim (arrivalOf '2'),.claim (arrivalOf '3'),.claim (arrivalOf '4'),.claim (arrivalOf '0'),
      .claim { arrivalOf '0' with elapsedMs := 60000 }]

/-- A repetition that finds the lease active stores its own response, and the next one gets that response
although the lease is over. -/
theorem repeated_response_outlives_lease :
    leasedRun.log.map (fun record => (record.lease,record.answer)) =
      [(some ("order","lease"),.ok ⟨200,"first",receiptText '0' 'f' 1⟩),
        (none,.ok ⟨200,"first",receiptText '1' 'f' 2⟩),
        (none,.ok ⟨200,"first",receiptText '2' 'f' 3⟩),
        (none,.ok ⟨200,"first",receiptText '3' 'f' 4⟩),
        (none,.ok ⟨200,"first",receiptText '4' 'f' 5⟩),
        (none,.ok ⟨200,"again",receiptText '0' 'a' 6⟩),
        (none,.ok ⟨200,"again",receiptText '0' 'a' 6⟩)] ∧
      leasedRun.orders.workOrders.map (·.leaseExpiresAtMs) = [some leasedRun.clockMs] := by
  decide +kernel

end ClaimSample

end KernAid.Fleet
