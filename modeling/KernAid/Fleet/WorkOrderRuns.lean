import KernAid.Fleet.WorkOrders

/-! Runs of the work-order store: every operation is a chain of changes of one row, each with the event
that records its new status. -/

set_option autoImplicit false

namespace KernAid.Fleet

open CrashLogic Relation WorkOrderTables

/-- The calls that the store serves. `others` stands for the parts of the store that write the devices and
the credentials. -/
inductive WorkOrderCall where
  | create (input : CreateWorkOrderInput)
  | approve (input : WorkOrderActorMutation)
  | cancel (input : WorkOrderActorMutation)
  | claim (input : ClaimWorkOrderInput)
  | result (input : WorkOrderResultInput)
  | get (workOrderId : String) (nowMs : Int) (now : String)
  | list (nowMs : Int) (now : String)
  | others (devices : Table (Option String)) (credentials : List String)

def WorkOrderCall.nowMs : WorkOrderCall → Option Int
  | .create _ | .others _ _ => none
  | .approve input | .cancel input => some input.nowMs
  | .claim input => some input.nowMs
  | .result input => some input.nowMs
  | .get _ nowMs _ | .list nowMs _ => some nowMs

section Calls

variable [DateParse] [DateFormat]

def WorkOrderTables.perform (db : WorkOrderTables) : WorkOrderCall → WorkOrderTables
  | .create input => ((createWorkOrder input).call db).2
  | .approve input => ((approveWorkOrder input).call db).2
  | .cancel input => ((cancelWorkOrder input).call db).2
  | .claim input => ((claimWorkOrder input).call db).2
  | .result input => ((recordWorkOrderResult input).call db).2
  | .get workOrderId nowMs now => ((getWorkOrder workOrderId nowMs now).call db).2
  | .list nowMs now => (listWorkOrders nowMs now db).2
  | .others devices credentials => { db with devices, credentials }

def WorkOrderTables.play (db : WorkOrderTables) (calls : List WorkOrderCall) : WorkOrderTables :=
  calls.foldl perform db

end Calls

def WorkOrderTables.start (devices : Table (Option String)) (credentials : List String) :
    WorkOrderTables :=
  ⟨devices,credentials,[],[],[]⟩

def WorkOrderTables.eventsOf (db : WorkOrderTables) (workOrderId : String) : List WorkOrderEventRow :=
  db.events.filter fun event => event.workOrderId = workOrderId

def WorkOrderTables.replace (db : WorkOrderTables) (row : WorkOrderRow) : WorkOrderTables :=
  { db with
    workOrders := db.workOrders.map fun r => if r.workOrderId = row.workOrderId then row else r }

section Changes

variable [DateParse]

/-- What a call may do to one row. -/
inductive RowChange (call : WorkOrderCall) : WorkOrderRow → WorkOrderRow → Prop
  | expired {row : WorkOrderRow} {nowMs : Int} (hclock : call.nowMs = some nowMs)
      (hactive : row.status.isActive = true) (hpast : row.expiresAtMs ≤ nowMs) :
      RowChange call row { row with status := .expired }
  | released {row : WorkOrderRow} {input : ClaimWorkOrderInput} {expiry : Int}
      (hcall : call = .claim input)
      (hleased : row.status = .leased) (hexpiry : row.leaseExpiresAtMs = some expiry)
      (hpast : expiry ≤ input.nowMs) : RowChange call row row.released
  | approved {row : WorkOrderRow} {input : WorkOrderActorMutation} (hcall : call = .approve input)
      (hpending : row.status = .pendingApproval) (hvalid : (row.approved input).Valid) :
      RowChange call row (row.approved input)
  | cancelled {row : WorkOrderRow} {input : WorkOrderActorMutation} (hcall : call = .cancel input)
      (hopen : row.status = .pendingApproval ∨ row.status = .queued)
      (hvalid : (row.cancelled input).Valid) :
      RowChange call row (row.cancelled input)
  | leased {row : WorkOrderRow} {input : ClaimWorkOrderInput} {leaseExpiresAt : String}
      {leaseExpiresAtMs : Int} (hcall : call = .claim input) (hqueued : row.status = .queued)
      (hcurrent : input.nowMs < row.expiresAtMs)
      (hvalid : (row.leased input leaseExpiresAt leaseExpiresAtMs).Valid) :
      RowChange call row (row.leased input leaseExpiresAt leaseExpiresAtMs)
  | completed {row : WorkOrderRow} {input : WorkOrderResultInput} (hcall : call = .result input)
      (hid : row.workOrderId = input.result.workOrderId) (hfits : input.Fits row)
      (hnew : row.resultSha256 = none) (hvalid : (row.completed input).Valid) :
      RowChange call row (row.completed input)

/-- What a call may do to the tables: change a row and record its new status, add a row with its first
event, or touch the other tables. -/
inductive TableChange (call : WorkOrderCall) : WorkOrderTables → WorkOrderTables → Prop
  | row {db db' : WorkOrderTables} {row row' : WorkOrderRow} {event : WorkOrderEvent}
      (hrow : row ∈ db.workOrders) (hchange : RowChange call row row')
      (hid : event.workOrderId = row.workOrderId) (hstatus : event.status = row'.status)
      (hevent : recordWorkOrderEvent event (db.replace row') = .ok db') : TableChange call db db'
  | created {db db' : WorkOrderTables} {input : CreateWorkOrderInput} {status : WorkOrderStatus}
      {event : WorkOrderEvent} (hcall : call = .create input)
      (hopen : status = .pendingApproval ∨ status = .queued)
      (hfresh : ∀ row ∈ db.workOrders, row.workOrderId ≠ input.workOrderId)
      (hvalid : (input.row status).Valid) (hid : event.workOrderId = input.workOrderId)
      (hstatus : event.status = status)
      (hevent : recordWorkOrderEvent event
        { db with workOrders := db.workOrders ++ [input.row status] } = .ok db') : TableChange call db db'
  | claims {db : WorkOrderTables} {input : ClaimWorkOrderInput} (hcall : call = .claim input)
      (claims : List WorkOrderClaimRow) : TableChange call db { db with claims }
  | others {db : WorkOrderTables} (devices : Table (Option String)) (credentials : List String) :
      TableChange call db { db with devices, credentials }

end Changes

section Rows

variable [DateParse] {call : WorkOrderCall} {row row' : WorkOrderRow}

theorem RowChange.workOrderId (h : RowChange call row row') : row'.workOrderId = row.workOrderId := by
  cases h <;> rfl

theorem RowChange.isActive (h : RowChange call row row') : row.status.isActive = true := by
  cases h with
  | expired hclock hactive hpast => exact hactive
  | released hcall hleased hexpiry hpast => simp [hleased, WorkOrderStatus.isActive]
  | approved hcall hpending hvalid => simp [hpending, WorkOrderStatus.isActive]
  | cancelled hcall hopen hvalid => rcases hopen with h | h <;> simp [h, WorkOrderStatus.isActive]
  | leased hcall hqueued hcurrent hvalid => simp [hqueued, WorkOrderStatus.isActive]
  | completed hcall hid hfits hnew hvalid => simp [hfits.1, WorkOrderStatus.isActive]

theorem WorkOrderRow.Valid.of_active (h : row.Valid) (hactive : row.status.isActive = true) :
    row.outcome = none ∧ row.cancelledAt = none := by
  obtain ⟨_,_,_,_,_,_,_,houtcome⟩ := h.result
  obtain ⟨_,_,_,hcancelled⟩ := h.cancellation
  cases hstatus : row.status <;> simp_all [WorkOrderStatus.isActive, WorkOrderStatus.isOutcome]

theorem WorkOrderRow.Valid.expired (h : row.Valid) (hactive : row.status.isActive = true) :
    WorkOrderRow.Valid { row with status := .expired } := by
  obtain ⟨houtcome,hcancelled⟩ := h.of_active hactive
  obtain ⟨hsha,henvelope,hcompleted,hsame₁,hsame₂,hsame₃,_,_⟩ := h.result
  obtain ⟨hby,hat,hboth,_⟩ := h.cancellation
  refine ⟨h.order,h.approval,h.lease,⟨hsha,henvelope,hcompleted,hsame₁,hsame₂,hsame₃,?_,?_⟩,
    ⟨hby,hat,hboth,?_⟩,?_⟩
  · simp [houtcome]
  · simp [houtcome, WorkOrderStatus.isOutcome]
  · simp [hcancelled]
  · simp [WorkOrderStatus.isOutcome]

theorem WorkOrderRow.Valid.released (h : row.Valid) (hactive : row.status.isActive = true) :
    row.released.Valid := by
  obtain ⟨houtcome,hcancelled⟩ := h.of_active hactive
  obtain ⟨hsha,henvelope,hcompleted,hsame₁,hsame₂,hsame₃,_,_⟩ := h.result
  obtain ⟨hby,hat,hboth,_⟩ := h.cancellation
  refine ⟨h.order,h.approval,?_,⟨hsha,henvelope,hcompleted,hsame₁,hsame₂,hsame₃,?_,?_⟩,
    ⟨hby,hat,hboth,?_⟩,?_⟩
  · simp [WorkOrderRow.ValidLease, WorkOrderRow.released]
  · simp [WorkOrderRow.released, houtcome]
  · simp [WorkOrderRow.released, houtcome, WorkOrderStatus.isOutcome]
  · simp [WorkOrderRow.released, hcancelled]
  · simp [WorkOrderRow.released, WorkOrderStatus.isOutcome]

theorem RowChange.valid (h : RowChange call row row') (hrow : row.Valid) : row'.Valid := by
  have hactive := h.isActive
  cases h with
  | expired => exact hrow.expired hactive
  | released => exact hrow.released hactive
  | approved hcall hpending hvalid => exact hvalid
  | cancelled hcall hopen hvalid => exact hvalid
  | leased hcall hqueued hcurrent hvalid => exact hvalid
  | completed hcall hid hfits hnew hvalid => exact hvalid

end Rows

section Events

variable {db db' : WorkOrderTables} {event : WorkOrderEvent} {row : WorkOrderRow}

theorem le_foldl_max (l : List Nat) (n : Nat) : n ≤ l.foldl max n ∧ ∀ m ∈ l, m ≤ l.foldl max n := by
  induction l generalizing n with
  | nil => simp
  | cons a l ih =>
    obtain ⟨hstart,hall⟩ := ih (max n a)
    refine ⟨(le_max_left n a).trans hstart,fun m hm => ?_⟩
    rcases List.mem_cons.mp hm with rfl | hm
    · exact (le_max_right n m).trans hstart
    · exact hall m hm

theorem WorkOrderTables.sequence_le_last {e : WorkOrderEventRow} (he : e ∈ db.events) :
    e.sequence ≤ db.lastEventSequence :=
  (le_foldl_max _ 0).2 _ (List.mem_map_of_mem he)

def WorkOrderTables.eventRow (db : WorkOrderTables) (event : WorkOrderEvent) : WorkOrderEventRow :=
  ⟨event,db.lastEventSequence + 1⟩

theorem recordWorkOrderEvent_spec (h : recordWorkOrderEvent event db = .ok db') :
    db' = { db with
      events := (db.events ++ [db.eventRow event]).filter fun e =>
        db.lastEventSequence + 1 < e.sequence + maxWorkOrderEventsPerTenant } := by
  simp only [recordWorkOrderEvent, require_bind_eq_ok, pure_eq_ok_iff] at h
  exact h.2.symm

theorem eventRow_mem (h : recordWorkOrderEvent event db = .ok db') : db.eventRow event ∈ db'.events := by
  rw [recordWorkOrderEvent_spec h, List.mem_filter]
  refine ⟨by simp,decide_eq_true ?_⟩
  exact Nat.lt_add_of_pos_right (by decide)

theorem getLast?_filter_of_ascending {α : Type} {l : List α} {p : α → Bool} (key : α → Nat) (bound : Nat)
    (hascending : l.Pairwise fun a b => key a < key b) (hp : ∀ a, p a = true ↔ bound < key a) :
    (l.filter p).getLast? = l.getLast? ∨ l.filter p = [] := by
  induction l using List.reverseRecOn with
  | nil => exact .inl rfl
  | append_singleton l a ih =>
    rw [List.filter_append]
    by_cases ha : p a = true
    · exact .inl (by simp [ha])
    · refine .inr ?_
      rw [List.filter_cons_of_neg ha, List.filter_nil, List.append_nil, List.filter_eq_nil_iff]
      intro b hb hpb
      have hlt := (List.pairwise_append.mp hascending).2.2 b hb a (by simp)
      rw [hp] at ha hpb
      omega

theorem eventsOf_recorded (hascending : db.events.Pairwise fun a b => a.sequence < b.sequence)
    (h : recordWorkOrderEvent event db = .ok db') (workOrderId : String) :
    (db'.events.Pairwise fun a b => a.sequence < b.sequence) ∧
    (event.workOrderId = workOrderId → (db'.eventsOf workOrderId).getLast? =
      some (db.eventRow event)) ∧
    (event.workOrderId ≠ workOrderId →
      (db'.eventsOf workOrderId).getLast? = (db.eventsOf workOrderId).getLast? ∨
        db'.eventsOf workOrderId = []) := by
  have hall : (db.events ++ [db.eventRow event]).Pairwise fun a b => a.sequence < b.sequence := by
    refine List.pairwise_append.mpr ⟨hascending,List.pairwise_singleton _ _,fun a ha b hb => ?_⟩
    obtain rfl := List.mem_singleton.mp hb
    exact Nat.lt_succ_of_le (db.sequence_le_last ha)
  rw [recordWorkOrderEvent_spec h]
  refine ⟨hall.filter _,fun hsame => ?_,fun hother => ?_⟩
  · have hkept : db.lastEventSequence + 1 < (db.eventRow event).sequence + maxWorkOrderEventsPerTenant :=
      Nat.lt_add_of_pos_right (by decide)
    have hmine : (db.eventRow event).workOrderId = workOrderId := hsame
    simp only [eventsOf, List.filter_append, List.filter_filter]
    rw [List.getLast?_append, List.filter_cons_of_pos (by simp [hmine, hkept])]
    rfl
  · simp only [eventsOf]
    rw [List.filter_filter, List.filter_append]
    have hnone : List.filter (fun e : WorkOrderEventRow => decide (e.workOrderId = workOrderId) &&
        decide (db.lastEventSequence + 1 < e.sequence + maxWorkOrderEventsPerTenant))
        [db.eventRow event] = [] := by
      simp [eventRow, hother]
    rw [hnone, List.append_nil]
    have hkept := getLast?_filter_of_ascending
        (l := db.events.filter fun e => e.workOrderId = workOrderId)
      (p := fun e => decide (db.lastEventSequence + 1 < e.sequence + maxWorkOrderEventsPerTenant))
      (fun e => e.sequence + maxWorkOrderEventsPerTenant) (db.lastEventSequence + 1)
      ((hascending.filter _).imp fun hlt => by omega) (by simp)
    simpa only [List.filter_filter, Bool.and_comm] using hkept

theorem mem_replace {r : WorkOrderRow} (h : r ∈ (db.replace row).workOrders) :
    r = row ∨ r ∈ db.workOrders ∧ r.workOrderId ≠ row.workOrderId := by
  simp only [replace, List.mem_map] at h
  obtain ⟨old,hold,rfl⟩ := h
  split_ifs with hid
  · exact .inl rfl
  · exact .inr ⟨hold,hid⟩

theorem mem_replace_of_ne {r : WorkOrderRow} (h : r ∈ db.workOrders)
    (hid : r.workOrderId ≠ row.workOrderId) : r ∈ (db.replace row).workOrders := by
  simp only [replace, List.mem_map]
  exact ⟨r,h,if_neg hid⟩

theorem mem_replace_self {old : WorkOrderRow} (h : old ∈ db.workOrders)
    (hid : old.workOrderId = row.workOrderId) : row ∈ (db.replace row).workOrders := by
  simp only [replace, List.mem_map]
  exact ⟨old,h,if_pos hid⟩

theorem map_workOrderId_replace (row : WorkOrderRow) :
    (db.replace row).workOrders.map (fun r => r.workOrderId) = db.workOrders.map
      fun r => r.workOrderId := by
  simp only [replace, List.map_map]
  refine List.map_congr_left fun r _ => ?_
  simp only [Function.comp_apply]
  split_ifs with hid
  · exact hid.symm
  · rfl

end Events

section Invariant

variable [DateParse] {db db' : WorkOrderTables} {call : WorkOrderCall}

structure WorkOrderTables.Ok (db : WorkOrderTables) : Prop where
  valid : ∀ row ∈ db.workOrders, row.Valid
  distinct : (db.workOrders.map fun row => row.workOrderId).Nodup
  ascending : db.events.Pairwise fun a b => a.sequence < b.sequence
  known : ∀ event ∈ db.events, ∃ row ∈ db.workOrders, row.workOrderId = event.workOrderId
  current : ∀ row ∈ db.workOrders, ∀ event ∈ (db.eventsOf row.workOrderId).getLast?,
    event.status = row.status

theorem WorkOrderTables.start_ok (devices : Table (Option String)) (credentials : List String) :
    (start devices credentials).Ok := by
  constructor <;> simp [start]

theorem WorkOrderTables.Ok.eq_of_id (h : db.Ok) {a b : WorkOrderRow} (ha : a ∈ db.workOrders)
    (hb : b ∈ db.workOrders) (hid : a.workOrderId = b.workOrderId) : a = b :=
  List.inj_on_of_nodup_map h.distinct ha hb hid

theorem WorkOrderTables.Ok.withClaims (h : db.Ok) (claims : List WorkOrderClaimRow) :
    WorkOrderTables.Ok { db with claims } :=
  ⟨h.valid,h.distinct,h.ascending,h.known,h.current⟩

theorem TableChange.ok (h : TableChange call db db') (hdb : db.Ok) : db'.Ok := by
  cases h with
  | claims _ claims => exact hdb.withClaims claims
  | others devices credentials => exact ⟨hdb.valid,hdb.distinct,hdb.ascending,hdb.known,hdb.current⟩
  | @row _ row row' event hrow hchange hid hstatus hevent =>
    have hsame := hchange.workOrderId
    have hevents := fun id => eventsOf_recorded (by exact hdb.ascending) hevent id
    have htables := recordWorkOrderEvent_spec hevent
    have hrows : db'.workOrders = (db.replace row').workOrders := by rw [htables]
    constructor
    · intro r hr
      rw [hrows] at hr
      rcases mem_replace hr with rfl | ⟨hr,_⟩
      · exact hchange.valid (hdb.valid row hrow)
      · exact hdb.valid r hr
    · rw [hrows, map_workOrderId_replace]
      exact hdb.distinct
    · exact (hevents "").1
    · intro e he
      rw [htables] at he
      have hin : e.workOrderId ∈ db.workOrders.map fun r => r.workOrderId := by
        rcases List.mem_append.mp (List.mem_of_mem_filter he) with he | he
        · obtain ⟨r,hr,hre⟩ := hdb.known e he
          exact hre ▸ List.mem_map_of_mem hr
        · obtain rfl := List.mem_singleton.mp he
          exact (hid : (eventRow _ event).workOrderId = _) ▸ List.mem_map_of_mem hrow
      rw [hrows]
      rw [← map_workOrderId_replace row'] at hin
      simpa using hin
    · intro r hr e he
      rw [hrows] at hr
      rcases mem_replace hr with rfl | ⟨hr,hne⟩
      · rw [(hevents _).2.1 (hid.trans hsame.symm)] at he
        obtain rfl := Option.some.inj he
        exact hstatus
      · rcases (hevents r.workOrderId).2.2 (by rw [hid, ← hsame]; exact hne.symm) with hlast | hnone
        · rw [hlast] at he
          exact hdb.current r hr e he
        · simp [hnone] at he
  | @created _ input status event hcall hopen hfresh hvalid hid hstatus hevent =>
    have hevents := fun id => eventsOf_recorded (by exact hdb.ascending) hevent id
    have htables := recordWorkOrderEvent_spec hevent
    have hrows : db'.workOrders = db.workOrders ++ [input.row status] := by rw [htables]
    constructor
    · intro r hr
      rw [hrows, List.mem_append, List.mem_singleton] at hr
      rcases hr with hr | rfl
      · exact hdb.valid r hr
      · exact hvalid
    · rw [hrows, List.map_append, List.nodup_append]
      refine ⟨hdb.distinct,by simp,fun id hin other hother => ?_⟩
      obtain ⟨r,hr,rfl⟩ := List.mem_map.mp hin
      obtain rfl := List.mem_singleton.mp hother
      exact hfresh r hr
    · exact (hevents "").1
    · intro e he
      rw [htables] at he
      rw [hrows]
      rcases List.mem_append.mp (List.mem_of_mem_filter he) with he | he
      · obtain ⟨r,hr,hre⟩ := hdb.known e he
        exact ⟨r,List.mem_append_left _ hr,hre⟩
      · obtain rfl := List.mem_singleton.mp he
        exact ⟨input.row status,by simp,hid.symm⟩
    · intro r hr e he
      rw [hrows, List.mem_append, List.mem_singleton] at hr
      rcases hr with hr | rfl
      · rcases (hevents r.workOrderId).2.2 (by rw [hid]; exact (hfresh r hr).symm) with hlast | hnone
        · rw [hlast] at he
          exact hdb.current r hr e he
        · simp [hnone] at he
      · rw [show (input.row status).workOrderId = input.workOrderId from rfl, (hevents _).2.1 hid] at he
        obtain rfl := Option.some.inj he
        exact hstatus

theorem TableChange.keeps (h : TableChange call db db') (hdb : db.Ok) {row : WorkOrderRow}
    (hrow : row ∈ db.workOrders) (hfinal : row.status.isActive = false) : row ∈ db'.workOrders := by
  cases h with
  | claims => exact hrow
  | others devices credentials => exact hrow
  | @row _ changed row' event hchanged hchange hid hstatus hevent =>
    rw [recordWorkOrderEvent_spec hevent]
    refine mem_replace_of_ne hrow fun hsame => ?_
    obtain rfl := hdb.eq_of_id hrow hchanged (hsame.trans hchange.workOrderId)
    rw [hchange.isActive] at hfinal
    cases hfinal
  | created hcall hopen hfresh hvalid hid hstatus hevent =>
    rw [recordWorkOrderEvent_spec hevent]
    exact List.mem_append_left _ hrow

end Invariant

section Loops

variable [DateParse] {db db' : WorkOrderTables} {call : WorkOrderCall} {workOrderId : String}
  {condition : WorkOrderStatus → Bool} {set : WorkOrderRow → WorkOrderRow}

variable {row : WorkOrderRow} {nowMs : Int}

theorem WorkOrderTables.changed_ok (h : ReflTransGen (TableChange call) db db') (hdb : db.Ok) :
    db'.Ok := by
  induction h with
  | refl => exact hdb
  | tail _ hchange ih => exact hchange.ok ih

theorem WorkOrderTables.changed_keeps (h : ReflTransGen (TableChange call) db db') (hdb : db.Ok)
    (hrow : row ∈ db.workOrders) (hfinal : row.status.isActive = false) :
    row ∈ db'.workOrders := by
  induction h with
  | refl => exact hrow
  | tail hchain hchange ih => exact hchange.keeps (changed_ok hchain hdb) ih hfinal

theorem update_eq_replace (hdb : db.Ok) (hrow : row ∈ db.workOrders)
    (hid : row.workOrderId = workOrderId) (hcondition : condition row.status = true)
    (hset : (set row).workOrderId = row.workOrderId) :
    db.update workOrderId condition set = db.replace (set row) := by
  subst hid
  simp only [update, replace]
  congr 1
  refine List.map_congr_left fun r hr => ?_
  by_cases hid : r.workOrderId = row.workOrderId
  · obtain rfl := hdb.eq_of_id hr hrow hid
    rw [if_pos ⟨rfl,hcondition⟩, if_pos hset.symm]
  · rw [if_neg fun h => hid h.1, if_neg (hset ▸ hid)]

omit [DateParse] in
theorem workOrder_eq_some (h : db.workOrder workOrderId = some row) :
    row ∈ db.workOrders ∧ row.workOrderId = workOrderId :=
  ⟨List.mem_of_find?_eq_some h,by simpa using List.find?_some h⟩

theorem mapWorkOrder_eq_ok {stored : StoredWorkOrder} :
    mapWorkOrder row = .ok stored ↔ row.Valid ∧ row.toStoredWorkOrder = stored := by
  rw [mapWorkOrder, require_bind_eq_ok, pure_eq_ok_iff]

theorem requiredWorkOrder_eq_ok {stored : StoredWorkOrder}
    (h : db.requiredWorkOrder workOrderId = .ok stored) :
    ∃ row ∈ db.workOrders, row.workOrderId = workOrderId ∧ row.Valid ∧
      row.toStoredWorkOrder = stored := by
  rw [requiredWorkOrder, okOr_bind_eq_ok] at h
  obtain ⟨row,hfound,hmap⟩ := h
  obtain ⟨hrow,hid⟩ := workOrder_eq_some hfound
  obtain ⟨hvalid,hstored⟩ := mapWorkOrder_eq_ok.mp hmap
  exact ⟨row,hrow,hid,hvalid,hstored⟩

/-- A loop that changes the rows `todo` one by one. -/
theorem loop_changes (event : String → WorkOrderEvent) (condition : WorkOrderStatus → Bool)
    (set : WorkOrderRow → WorkOrderRow)
    {round : WorkOrderTables → String → Except StoreError WorkOrderTables}
    (hround : ∀ db id, round db id = recordWorkOrderEvent (event id) (db.update id condition set))
    (hset : ∀ row, (set row).workOrderId = row.workOrderId) (hevent : ∀ id, (event id).workOrderId = id)
    (hstatus : ∀ id row, (event id).status = (set row).status) {todo : List WorkOrderRow} (hdb : db.Ok)
    (htodo : (todo.map fun row => row.workOrderId).Nodup)
    (hrows : ∀ row ∈ todo, row ∈ db.workOrders ∧ condition row.status = true ∧
      RowChange call row (set row))
    (h : (todo.map fun row => row.workOrderId).foldlM round db = .ok db') :
    ReflTransGen (TableChange call) db db' ∧ db'.claims = db.claims ∧ db'.devices = db.devices ∧
      db'.workOrders = db.workOrders.map fun r =>
        if r.workOrderId ∈ todo.map fun row => row.workOrderId then set r else r := by
  induction todo generalizing db with
  | nil =>
    obtain rfl : db = db' := by simpa [pure, Except.pure] using h
    exact ⟨.refl,rfl,rfl,by simp⟩
  | cons row todo ih =>
    rw [List.map_cons, List.foldlM_cons] at h
    obtain ⟨mid,hmid,hrest⟩ := bind_ok_iff.mp h
    obtain ⟨hrow,hcondition,hchange⟩ := hrows row (by simp)
    rw [hround, update_eq_replace hdb hrow rfl hcondition (hset row)] at hmid
    have hstep : TableChange call db mid :=
      .row hrow hchange (hevent _) (hstatus _ _) hmid
    have hmidRows : mid.workOrders = (db.replace (set row)).workOrders := by
      rw [recordWorkOrderEvent_spec hmid]
    obtain ⟨hfirst,htodo⟩ := List.nodup_cons.mp htodo
    change row.workOrderId ∉ _ at hfirst
    obtain ⟨hchain,hclaims,hdevices,hresult⟩ := ih (hstep.ok hdb) htodo (fun other hother => by
      obtain ⟨hin,hrest⟩ := hrows other (List.mem_cons_of_mem _ hother)
      refine ⟨?_,hrest⟩
      rw [hmidRows]
      refine mem_replace_of_ne hin fun hsame => hfirst ?_
      rw [← hset row, ← hsame]
      exact List.mem_map_of_mem hother) hrest
    refine ⟨.head hstep hchain,?_,?_,?_⟩
    · rw [hclaims, recordWorkOrderEvent_spec hmid]
      rfl
    · rw [hdevices, recordWorkOrderEvent_spec hmid]
      rfl
    · rw [hresult, hmidRows, replace, List.map_map]
      refine List.map_congr_left fun r hr => ?_
      by_cases hid : r.workOrderId = row.workOrderId
      · obtain rfl := hdb.eq_of_id hr hrow hid
        simp only [Function.comp_apply, hset, if_true, List.map_cons, List.mem_cons,
          true_or, hfirst, if_false]
      · simp only [Function.comp_apply, hset, hid, if_false, List.map_cons, List.mem_cons, false_or]

theorem mem_ids_filter {p : WorkOrderRow → Bool} {r : WorkOrderRow} (hdb : db.Ok)
    (hr : r ∈ db.workOrders) :
    (r.workOrderId ∈ (db.workOrders.filter p).map fun row => row.workOrderId) ↔ p r = true := by
  constructor
  · intro hin
    obtain ⟨other,hother,hid⟩ := List.mem_map.mp hin
    obtain ⟨hother,hselected⟩ := List.mem_filter.mp hother
    obtain rfl := hdb.eq_of_id hother hr hid
    exact hselected
  · exact fun hselected => List.mem_map_of_mem (List.mem_filter.mpr ⟨hr,hselected⟩)

omit [DateParse] in
theorem WorkOrderRow.hasExpired_iff :
    row.hasExpired nowMs = true ↔ row.expiresAtMs ≤ nowMs ∧ row.status.isActive = true := by
  simp [WorkOrderRow.hasExpired]

omit [DateParse] in
theorem WorkOrderRow.leaseHasExpired_iff {deviceId : String} :
    row.leaseHasExpired deviceId nowMs = true ↔ row.targetDeviceId = deviceId ∧ row.status = .leased ∧
      (∃ expiry, row.leaseExpiresAtMs = some expiry ∧ expiry ≤ nowMs) ∧ nowMs < row.expiresAtMs := by
  cases hexpiry : row.leaseExpiresAtMs <;> simp [WorkOrderRow.leaseHasExpired, hexpiry, and_assoc]

theorem expireWorkOrders_spec (call : WorkOrderCall) {now : String}
    (hclock : call.nowMs = some nowMs) (hdb : db.Ok) (h : expireWorkOrders nowMs now db = .ok db') :
    ReflTransGen (TableChange call) db db' ∧ db'.claims = db.claims ∧ db'.devices = db.devices ∧
      db'.workOrders = db.workOrders.map fun r =>
        if r.hasExpired nowMs then { r with status := .expired } else r := by
  obtain ⟨hchain,hclaims,hdevices,hrows⟩ := loop_changes
    (fun id => ⟨id,now,.expired,.system,fleetControlPlane,.expired,none⟩) (fun _ => true)
    (fun row => { row with status := .expired }) (fun _ _ => rfl) (fun _ => rfl) (fun _ => rfl)
    (fun _ _ => rfl) hdb (hdb.distinct.sublist (List.filter_sublist.map _)) (fun row hrow => by
      obtain ⟨hin,hrow⟩ := List.mem_filter.mp hrow
      obtain ⟨hpast,hactive⟩ := WorkOrderRow.hasExpired_iff.mp hrow
      exact ⟨hin,rfl,.expired hclock hactive hpast⟩) h
  refine ⟨hchain,hclaims,hdevices,?_⟩
  rw [hrows]
  refine List.map_congr_left fun r hr => ?_
  simp only [mem_ids_filter hdb hr]

theorem releaseExpiredLeases_spec {input : ClaimWorkOrderInput} (hcall : call = .claim input)
    (hdb : db.Ok) (h : releaseExpiredLeases input.deviceId input.nowMs input.now db = .ok db') :
    ReflTransGen (TableChange call) db db' ∧ db'.claims = db.claims ∧ db'.devices = db.devices ∧
      db'.workOrders = db.workOrders.map fun r =>
        if r.leaseHasExpired input.deviceId input.nowMs then r.released else r := by
  obtain ⟨hchain,hclaims,hdevices,hrows⟩ := loop_changes
    (fun id => ⟨id,input.now,.leaseExpired,.system,fleetControlPlane,.queued,none⟩) (fun s => s = .leased)
    WorkOrderRow.released (fun _ _ => rfl) (fun _ => rfl) (fun _ => rfl)
    (fun _ _ => rfl) hdb (hdb.distinct.sublist (List.filter_sublist.map _)) (fun row hrow => by
      obtain ⟨hin,hrow⟩ := List.mem_filter.mp hrow
      obtain ⟨_,hleased,⟨expiry,hexpiry,hpast⟩,_⟩ := WorkOrderRow.leaseHasExpired_iff.mp hrow
      exact ⟨hin,by simp [hleased],.released hcall hleased hexpiry hpast⟩) h
  refine ⟨hchain,hclaims,hdevices,?_⟩
  rw [hrows]
  refine List.map_congr_left fun r hr => ?_
  simp only [mem_ids_filter hdb hr]

end Loops

section Operations

variable [DateParse] {db db' mid : WorkOrderTables} {call : WorkOrderCall}

variable {row : WorkOrderRow} {input : ClaimWorkOrderInput}

theorem changed_row {event : WorkOrderEvent} {workOrderId : String}
    {condition : WorkOrderStatus → Bool} {set : WorkOrderRow → WorkOrderRow}
    {stored : StoredWorkOrder} (hdb : db.Ok) (hrow : row ∈ db.workOrders)
    (hid : row.workOrderId = workOrderId) (hcondition : condition row.status = true)
    (hset : (set row).workOrderId = row.workOrderId)
    (hevent : recordWorkOrderEvent event (db.update workOrderId condition set) = .ok db')
    (hstored : db'.requiredWorkOrder workOrderId = .ok stored) :
    recordWorkOrderEvent event (db.replace (set row)) = .ok db' ∧ (set row).Valid ∧
      (set row).toStoredWorkOrder = stored := by
  rw [update_eq_replace hdb hrow hid hcondition hset] at hevent
  obtain ⟨r,hr,hrid,hvalid,rfl⟩ := requiredWorkOrder_eq_ok hstored
  rw [recordWorkOrderEvent_spec hevent] at hr
  rcases mem_replace hr with rfl | ⟨_,hne⟩
  · exact ⟨hevent,hvalid,rfl⟩
  · exact absurd (hrid.trans (hid.symm.trans hset.symm)) hne

theorem createWorkOrder_spec {input : CreateWorkOrderInput} {result : WorkOrderMutationResult}
    (h : createWorkOrder input db = .ok (result,db')) :
    result.idempotent = true ∧ db' = db ∨
      result.idempotent = false ∧ TableChange (.create input) db db' := by
  simp only [createWorkOrder] at h
  obtain ⟨_,_,h⟩ := bind_ok_iff.mp h
  split at h
  · simp only [require_bind_eq_ok] at h
    obtain ⟨_,h⟩ := h
    obtain ⟨_,_,h⟩ := bind_ok_iff.mp h
    obtain ⟨rfl,rfl⟩ := Prod.mk.inj (Except.ok.inj h)
    exact .inl ⟨rfl,rfl⟩
  · simp only [okOr_bind_eq_ok, require_bind_eq_ok] at h
    obtain ⟨_,_,_,_,hfresh,_,h⟩ := h
    obtain ⟨after,hevent,h⟩ := bind_ok_iff.mp h
    obtain ⟨stored,hstored,h⟩ := bind_ok_iff.mp h
    obtain ⟨rfl,rfl⟩ := Prod.mk.inj (Except.ok.inj h)
    obtain ⟨row,hrow,hid,hvalid,_⟩ := requiredWorkOrder_eq_ok hstored
    rw [recordWorkOrderEvent_spec hevent] at hrow
    rcases List.mem_append.mp hrow with hrow | hrow
    · exact absurd hid (hfresh row hrow)
    · obtain rfl := List.mem_singleton.mp hrow
      refine .inr ⟨rfl,.created rfl ?_ hfresh hvalid rfl rfl hevent⟩
      split_ifs
      · exact .inl rfl
      · exact .inr rfl

theorem approveWorkOrder_spec {input : WorkOrderActorMutation} {result : Option WorkOrderMutationResult}
    (hdb : db.Ok) (h : approveWorkOrder input db = .ok (result,db')) :
    ReflTransGen (TableChange (.approve input)) db db' := by
  simp only [approveWorkOrder] at h
  obtain ⟨_,_,h⟩ := bind_ok_iff.mp h
  obtain ⟨mid,hexpire,h⟩ := bind_ok_iff.mp h
  obtain ⟨hchain,_⟩ := expireWorkOrders_spec (.approve input) rfl hdb hexpire
  have hmid := changed_ok hchain hdb
  split at h
  · obtain ⟨rfl,rfl⟩ := Prod.mk.inj (Except.ok.inj h)
    exact hchain
  · next row hfound =>
    obtain ⟨hrow,hid⟩ := workOrder_eq_some hfound
    obtain ⟨current,hcurrent,h⟩ := bind_ok_iff.mp h
    obtain ⟨_,rfl⟩ := mapWorkOrder_eq_ok.mp hcurrent
    split_ifs at h with happroved
    · obtain ⟨rfl,rfl⟩ := Prod.mk.inj (Except.ok.inj h)
      exact hchain
    · simp only [require_bind_eq_ok] at h
      obtain ⟨⟨hpending,_⟩,_,_,h⟩ := h
      obtain ⟨after,hevent,h⟩ := bind_ok_iff.mp h
      obtain ⟨stored,hstored,h⟩ := bind_ok_iff.mp h
      obtain ⟨rfl,rfl⟩ := Prod.mk.inj (Except.ok.inj h)
      obtain ⟨hevent,hvalid,_⟩ := changed_row hmid hrow hid (by simp [hpending]) rfl hevent hstored
      exact hchain.tail (.row hrow (.approved rfl hpending hvalid) hid.symm rfl hevent)

theorem cancelWorkOrder_spec {input : WorkOrderActorMutation} {result : Option WorkOrderMutationResult}
    (hdb : db.Ok) (h : cancelWorkOrder input db = .ok (result,db')) :
    ReflTransGen (TableChange (.cancel input)) db db' := by
  simp only [cancelWorkOrder] at h
  obtain ⟨_,_,h⟩ := bind_ok_iff.mp h
  obtain ⟨mid,hexpire,h⟩ := bind_ok_iff.mp h
  obtain ⟨hchain,_⟩ := expireWorkOrders_spec (.cancel input) rfl hdb hexpire
  have hmid := changed_ok hchain hdb
  split at h
  · obtain ⟨rfl,rfl⟩ := Prod.mk.inj (Except.ok.inj h)
    exact hchain
  · next row hfound =>
    obtain ⟨hrow,hid⟩ := workOrder_eq_some hfound
    obtain ⟨current,hcurrent,h⟩ := bind_ok_iff.mp h
    obtain ⟨_,rfl⟩ := mapWorkOrder_eq_ok.mp hcurrent
    split_ifs at h with hcancelled
    · obtain ⟨rfl,rfl⟩ := Prod.mk.inj (Except.ok.inj h)
      exact hchain
    · simp only [require_bind_eq_ok] at h
      obtain ⟨hopen,_,h⟩ := h
      obtain ⟨after,hevent,h⟩ := bind_ok_iff.mp h
      obtain ⟨stored,hstored,h⟩ := bind_ok_iff.mp h
      obtain ⟨rfl,rfl⟩ := Prod.mk.inj (Except.ok.inj h)
      obtain ⟨hevent,hvalid,_⟩ := changed_row hmid hrow hid rfl rfl hevent hstored
      exact hchain.tail (.row hrow (.cancelled rfl hopen hvalid) hid.symm rfl hevent)

theorem getWorkOrder_spec {workOrderId : String} {nowMs : Int} {now : String}
    {result : Option StoredWorkOrder} (hdb : db.Ok)
    (h : getWorkOrder workOrderId nowMs now db = .ok (result,db')) :
    ReflTransGen (TableChange (.get workOrderId nowMs now)) db db' := by
  simp only [getWorkOrder] at h
  obtain ⟨_,_,h⟩ := bind_ok_iff.mp h
  rw [require_bind_eq_ok] at h
  obtain ⟨mid,hexpire,h⟩ := bind_ok_iff.mp h.2
  obtain ⟨hchain,_⟩ := expireWorkOrders_spec (.get workOrderId nowMs now) rfl hdb hexpire
  split at h
  · obtain ⟨rfl,rfl⟩ := Prod.mk.inj (Except.ok.inj h)
    exact hchain
  · obtain ⟨_,_,h⟩ := bind_ok_iff.mp h
    obtain ⟨rfl,rfl⟩ := Prod.mk.inj (Except.ok.inj h)
    exact hchain

theorem listWorkOrders_spec (nowMs : Int) (now : String) (hdb : db.Ok) :
    ReflTransGen (TableChange (.list nowMs now)) db (listWorkOrders nowMs now db).2 := by
  simp only [listWorkOrders]
  generalize hexpire : Transaction.call (α := Unit) _ db = answer
  obtain ⟨answer,after⟩ := answer
  cases answer with
  | error e =>
    rcases Transaction.call_cases _ db with ⟨_,_,_,hcall⟩ | ⟨_,_,hcall⟩
    · rw [hcall] at hexpire
      cases hexpire
    · rw [hcall] at hexpire
      obtain ⟨_,rfl⟩ := Prod.mk.inj hexpire
      exact .refl
  | ok result =>
    rcases Transaction.call_cases _ db with ⟨_,_,hok,hcall⟩ | ⟨_,_,hcall⟩
    · rw [hcall] at hexpire
      obtain ⟨_,rfl⟩ := Prod.mk.inj hexpire
      obtain ⟨_,_,hok⟩ := bind_ok_iff.mp hok
      obtain ⟨mid,hmid,hok⟩ := bind_ok_iff.mp hok
      obtain ⟨_,rfl⟩ := Prod.mk.inj (Except.ok.inj hok)
      exact (expireWorkOrders_spec _ rfl hdb hmid).1
    · rw [hcall] at hexpire
      cases hexpire

def WorkOrderRow.swept (row : WorkOrderRow) (input : ClaimWorkOrderInput) : WorkOrderRow :=
  if row.hasExpired input.nowMs then { row with status := .expired }
  else if row.leaseHasExpired input.deviceId input.nowMs then row.released else row

structure Swept (input : ClaimWorkOrderInput) (db mid : WorkOrderTables) : Prop where
  chain : ReflTransGen (TableChange (.claim input)) db mid
  claims : mid.claims = db.claims
  devices : mid.devices = db.devices
  rows : mid.workOrders = db.workOrders.map fun row => row.swept input

theorem swept (hdb : db.Ok) (hexpire : expireWorkOrders input.nowMs input.now db = .ok mid)
    (hrelease : releaseExpiredLeases input.deviceId input.nowMs input.now mid = .ok db') :
    Swept input db db' := by
  obtain ⟨hchain,hclaims,hdevices,hrows⟩ := expireWorkOrders_spec (.claim input) rfl hdb hexpire
  obtain ⟨hchain',hclaims',hdevices',hrows'⟩ :=
    releaseExpiredLeases_spec rfl (changed_ok hchain hdb) hrelease
  refine ⟨hchain.trans hchain',hclaims'.trans hclaims,hdevices'.trans hdevices,?_⟩
  rw [hrows', hrows, List.map_map]
  refine List.map_congr_left fun r _ => ?_
  simp only [Function.comp_apply, WorkOrderRow.swept]
  cases hexpired : r.hasExpired input.nowMs with
  | false => simp
  | true => simp [WorkOrderRow.leaseHasExpired]

/-- An order that is queued after the loops was queued before them, or held by a lease that has
expired. -/
theorem Swept.queued (h : Swept input db mid) (hrow : row ∈ mid.workOrders)
    (hqueued : row.status = .queued) :
    ∃ r ∈ db.workOrders, r.workOrderId = row.workOrderId ∧ input.nowMs < r.expiresAtMs ∧
      row.expiresAtMs = r.expiresAtMs ∧ row.kind = r.kind ∧ row.approvedAt = r.approvedAt ∧
      (r.status = .queued ∨ r.status = .leased ∧
        ∃ expiry, r.leaseExpiresAtMs = some expiry ∧ expiry ≤ input.nowMs) := by
  rw [h.rows] at hrow
  obtain ⟨r,hr,rfl⟩ := List.mem_map.mp hrow
  refine ⟨r,hr,?_⟩
  unfold WorkOrderRow.swept at hqueued ⊢
  split_ifs at hqueued ⊢ with hexpired hreleased
  · obtain ⟨_,hleased,hlease,hcurrent⟩ := WorkOrderRow.leaseHasExpired_iff.mp hreleased
    exact ⟨rfl,hcurrent,rfl,rfl,rfl,.inr ⟨hleased,hlease⟩⟩
  · have hcurrent : input.nowMs < r.expiresAtMs := by
      by_contra hpast
      refine hexpired (WorkOrderRow.hasExpired_iff.mpr ⟨not_lt.mp hpast,?_⟩)
      simp [hqueued, WorkOrderStatus.isActive]
    exact ⟨rfl,hcurrent,rfl,rfl,rfl,.inl hqueued⟩

omit [DateParse] in
theorem nextQueued_eq_some (h : db.nextQueued input = some row) :
    row ∈ db.workOrders ∧ row.targetDeviceId = input.deviceId ∧
      row.status = .queued ∧ row.actionId ∈ input.eligibleActionIds := by
  have hmem := List.mem_of_head? h
  rw [List.mem_insertionSort, List.mem_filter] at hmem
  simpa [and_assoc] using hmem

def WorkOrderTables.liveClaims (db : WorkOrderTables) (nowMs : Int) : List WorkOrderClaimRow :=
  db.claims.filter fun claim => nowMs < claim.expiresAtMs

def ClaimWorkOrderInput.claimRow (input : ClaimWorkOrderInput) (lease : Option (String × String)) :
    WorkOrderClaimRow :=
  ⟨input.deviceId,input.nonceSha256,input.requestSha256,lease,input.nonceExpiresAtMs⟩

/-- What a claim can do after the loops: answer a nonce that it knows, find nothing to lease, or lease the
next order. -/
inductive ClaimOutcome [DateFormat] (input : ClaimWorkOrderInput) (db mid db' : WorkOrderTables) :
    WorkOrderClaimResult → Prop
  | repeated {existing : WorkOrderClaimRow} {result : WorkOrderClaimResult}
      (hfound : (db.liveClaims input.nowMs).find? (fun claim => claim.deviceId = input.deviceId &&
        claim.nonceSha256 = input.nonceSha256) = some existing)
      (hresult : repeatedClaim input existing
        { mid with claims := db.liveClaims input.nowMs } = .ok result)
      (hdb' : db' = { mid with claims := db.liveClaims input.nowMs }) :
      ClaimOutcome input db mid db' result
  | nothing (hnew : ∀ claim ∈ db.liveClaims input.nowMs,
        ¬ (claim.deviceId = input.deviceId ∧ claim.nonceSha256 = input.nonceSha256))
      (hqueue : mid.nextQueued input = none)
      (hdb' : db' = { mid with claims := db.liveClaims input.nowMs ++ [input.claimRow none] }) :
      ClaimOutcome input db mid db' ⟨none,false⟩
  | leased {row : WorkOrderRow} {leaseExpiresAt : String} {leaseExpiresAtMs : Int}
      {event : WorkOrderEvent} {after : WorkOrderTables}
      (hnew : ∀ claim ∈ db.liveClaims input.nowMs,
        ¬ (claim.deviceId = input.deviceId ∧ claim.nonceSha256 = input.nonceSha256))
      (hqueue : mid.nextQueued input = some row)
      (hexpiry : leaseExpiresAtMs = min (input.nowMs + input.leaseSeconds * 1000) row.expiresAtMs)
      (hformat : DateFormat.toISOString leaseExpiresAtMs = some leaseExpiresAt)
      (hvalid : (row.leased input leaseExpiresAt leaseExpiresAtMs).Valid)
      (hid : event.workOrderId = row.workOrderId) (hstatus : event.status = .leased)
      (hevent : recordWorkOrderEvent event ({ mid with claims := db.liveClaims input.nowMs }.replace
        (row.leased input leaseExpiresAt leaseExpiresAtMs)) = .ok after)
      (hdb' : db' = { after with
        claims := db.liveClaims input.nowMs ++
          [input.claimRow (some (row.workOrderId,input.leaseId))] }) :
      ClaimOutcome input db mid db'
        ⟨some (row.leased input leaseExpiresAt leaseExpiresAtMs).toStoredWorkOrder,
        false⟩

theorem claimWorkOrder_spec [DateFormat] {result : WorkOrderClaimResult} (hdb : db.Ok)
    (h : claimWorkOrder input db = .ok (result,db')) :
    validateWorkOrderClaim input = .ok () ∧
      ∃ mid, Swept input db mid ∧ ClaimOutcome input db mid db' result := by
  simp only [claimWorkOrder] at h
  obtain ⟨_,hvalidated,h⟩ := bind_ok_iff.mp h
  obtain ⟨expired,hexpire,h⟩ := bind_ok_iff.mp h
  obtain ⟨mid,hrelease,h⟩ := bind_ok_iff.mp h
  have hswept := swept hdb hexpire hrelease
  have hclaims : mid.claims.filter (fun claim => input.nowMs < claim.expiresAtMs) =
      db.liveClaims input.nowMs := by rw [hswept.claims]; rfl
  rw [hclaims] at h
  refine ⟨hvalidated,mid,hswept,?_⟩
  split at h
  · next existing hfound =>
    obtain ⟨answer,hanswer,h⟩ := bind_ok_iff.mp h
    obtain ⟨rfl,rfl⟩ := Prod.mk.inj (Except.ok.inj h)
    exact .repeated hfound hanswer rfl
  · next hfound =>
    have hnew : ∀ claim ∈ db.liveClaims input.nowMs,
        ¬ (claim.deviceId = input.deviceId ∧ claim.nonceSha256 = input.nonceSha256) := by
      simpa using hfound
    rw [require_bind_eq_ok] at h
    replace h := h.2
    split at h
    · next hqueue =>
      obtain ⟨after,hinsert,h⟩ := bind_ok_iff.mp h
      simp only [insertClaim, require_bind_eq_ok, pure_eq_ok_iff] at hinsert
      obtain ⟨rfl,rfl⟩ := Prod.mk.inj (Except.ok.inj h)
      exact .nothing hnew hqueue hinsert.2.symm
    · next row hqueue =>
      obtain ⟨hrow,_,hqueued,_⟩ : row ∈ mid.workOrders ∧ _ := nextQueued_eq_some hqueue
      obtain ⟨after,hlease,h⟩ := bind_ok_iff.mp h
      obtain ⟨inserted,hinsert,h⟩ := bind_ok_iff.mp h
      obtain ⟨stored,hstored,h⟩ := bind_ok_iff.mp h
      obtain ⟨rfl,rfl⟩ := Prod.mk.inj (Except.ok.inj h)
      simp only [leaseWorkOrder, okOr_bind_eq_ok, require_bind_eq_ok] at hlease
      obtain ⟨leaseExpiresAt,hformat,_,hevent⟩ := hlease
      simp only [insertClaim, require_bind_eq_ok, pure_eq_ok_iff] at hinsert
      obtain ⟨_,rfl⟩ := hinsert
      have hmid : WorkOrderTables.Ok { mid with claims := db.liveClaims input.nowMs } :=
        (changed_ok hswept.chain hdb).withClaims _
      obtain ⟨hevent',hvalid,rfl⟩ := changed_row hmid hrow rfl (by simp [hqueued]) rfl hevent hstored
      have hclaims' : after.claims = db.liveClaims input.nowMs := by
        rw [recordWorkOrderEvent_spec hevent']
        rfl
      exact .leased hnew hqueue rfl hformat hvalid rfl rfl hevent' (by rw [hclaims']; rfl)

theorem ClaimOutcome.chain [DateFormat] {result : WorkOrderClaimResult}
    (hswept : Swept input db mid) (h : ClaimOutcome input db mid db' result) :
    ReflTransGen (TableChange (.claim input)) db db' := by
  cases h with
  | repeated hfound hresult hdb' =>
    rw [hdb']
    exact hswept.chain.tail (.claims rfl _)
  | nothing hnew hqueue hdb' =>
    rw [hdb']
    exact hswept.chain.tail (.claims rfl _)
  | leased hnew hqueue hexpiry hformat hvalid hid hstatus hevent hdb' =>
    obtain ⟨hrow,_,hqueued,_⟩ := nextQueued_eq_some hqueue
    obtain ⟨r,_,_,hcurrent,hsame,_⟩ := hswept.queued hrow hqueued
    rw [hdb']
    refine ((hswept.chain.tail (.claims rfl (db.liveClaims input.nowMs))).tail ?_).tail (.claims rfl _)
    exact .row hrow (.leased rfl hqueued (hsame ▸ hcurrent) hvalid) hid hstatus hevent

theorem ClaimOutcome.granted [DateFormat] {stored : StoredWorkOrder} (hswept : Swept input db mid)
    (h : ClaimOutcome input db mid db' ⟨some stored,false⟩) :
    ∃ row ∈ db.workOrders, row.workOrderId = stored.workOrderId ∧ input.nowMs < row.expiresAtMs ∧
      (row.status = .queued ∨ row.status = .leased ∧
        ∃ expiry, row.leaseExpiresAtMs = some expiry ∧ expiry ≤ input.nowMs) ∧
      (row.kind = .repair → row.approvedAt ≠ none) := by
  cases h with
  | repeated hfound hresult hdb' =>
    simp only [repeatedClaim, require_bind_eq_ok] at hresult
    obtain ⟨_,hresult⟩ := hresult
    split at hresult
    · cases hresult
    · obtain ⟨_,_,hresult⟩ := bind_ok_iff.mp hresult
      rw [require_bind_eq_ok] at hresult
      cases hresult.2
  | leased hnew hqueue hexpiry hformat hvalid hid hstatus hevent hdb' =>
    obtain ⟨hrow,_,hqueued,_⟩ := nextQueued_eq_some hqueue
    obtain ⟨r,hr,hid',hcurrent,_,hkind,happroved,hfree⟩ := hswept.queued hrow hqueued
    refine ⟨r,hr,hid',hcurrent,hfree,fun hrepair => ?_⟩
    rw [← happroved]
    exact hvalid.approved (hkind.trans hrepair) (.inl rfl)

theorem recordWorkOrderResult_spec {input : WorkOrderResultInput} {result : WorkOrderMutationResult}
    (hdb : db.Ok) (h : recordWorkOrderResult input db = .ok (result,db')) :
    ReflTransGen (TableChange (.result input)) db db' ∧ (result.idempotent = false →
      ∃ row ∈ db.workOrders, row.workOrderId = input.result.workOrderId ∧ input.Fits row ∧
        row.resultSha256 = none ∧ input.nowMs < row.expiresAtMs ∧ row.completed input ∈ db'.workOrders ∧
        result.workOrder = (row.completed input).toStoredWorkOrder) := by
  simp only [recordWorkOrderResult, require_bind_eq_ok] at h
  obtain ⟨mid,hexpire,h⟩ := bind_ok_iff.mp h.2
  obtain ⟨hchain,_,_,hrows⟩ := expireWorkOrders_spec (.result input) rfl hdb hexpire
  have hmid := changed_ok hchain hdb
  rw [okOr_bind_eq_ok] at h
  obtain ⟨row,hfound,h⟩ := h
  obtain ⟨hrow,hid⟩ := workOrder_eq_some hfound
  obtain ⟨current,hcurrent,h⟩ := bind_ok_iff.mp h
  obtain ⟨_,rfl⟩ := mapWorkOrder_eq_ok.mp hcurrent
  split_ifs at h with hdone
  · rw [require_bind_eq_ok] at h
    obtain ⟨rfl,rfl⟩ := Prod.mk.inj (Except.ok.inj h.2)
    exact ⟨hchain,fun hnew => by cases hnew⟩
  · rw [require_bind_eq_ok] at h
    obtain ⟨hfits,h⟩ := h
    obtain ⟨after,hevent,h⟩ := bind_ok_iff.mp h
    obtain ⟨stored,hstored,h⟩ := bind_ok_iff.mp h
    obtain ⟨rfl,rfl⟩ := Prod.mk.inj (Except.ok.inj h)
    have hnone : row.resultSha256 = none := not_not.mp hdone
    obtain ⟨hevent,hvalid,hstored⟩ := changed_row hmid hrow hid (by simp [hfits.1]) rfl hevent hstored
    refine ⟨hchain.tail (.row hrow (.completed rfl hid hfits hnone hvalid) hid.symm rfl hevent),
      fun _ => ?_⟩
    have hcompleted : row.completed input ∈ after.workOrders := by
      rw [recordWorkOrderEvent_spec hevent]
      exact mem_replace_self hrow rfl
    rw [hrows] at hrow
    obtain ⟨r,hr,hsame⟩ := List.mem_map.mp hrow
    -- The loop leaves leased orders alone unless they expire.
    split_ifs at hsame with hexpired
    · have hleased := hfits.1
      rw [← hsame] at hleased
      cases hleased
    · subst hsame
      have hcurrent : input.nowMs < r.expiresAtMs := by
        by_contra hpast
        refine hexpired (WorkOrderRow.hasExpired_iff.mpr ⟨not_lt.mp hpast,?_⟩)
        simp [hfits.1, WorkOrderStatus.isActive]
      exact ⟨r,hr,hid,hfits,hnone,hcurrent,hcompleted,hstored.symm⟩

variable [DateFormat]

theorem perform_changes (hdb : db.Ok) (call : WorkOrderCall) :
    ReflTransGen (TableChange call) db (db.perform call) := by
  cases call with
  | create input =>
    refine Transaction.after_call (createWorkOrder input) .refl fun result db' hok => ?_
    rcases createWorkOrder_spec hok with ⟨_,rfl⟩ | ⟨_,hchange⟩
    · exact .refl
    · exact .single hchange
  | approve input =>
    exact Transaction.after_call (approveWorkOrder input) .refl fun _ _ hok =>
      approveWorkOrder_spec hdb hok
  | cancel input =>
    exact Transaction.after_call (cancelWorkOrder input) .refl fun _ _ hok => cancelWorkOrder_spec hdb hok
  | claim input =>
    refine Transaction.after_call (claimWorkOrder input) .refl fun _ _ hok => ?_
    obtain ⟨_,mid,hswept,houtcome⟩ := claimWorkOrder_spec hdb hok
    exact houtcome.chain hswept
  | result input =>
    exact Transaction.after_call (recordWorkOrderResult input) .refl fun _ _ hok =>
      (recordWorkOrderResult_spec hdb hok).1
  | get workOrderId nowMs now =>
    exact Transaction.after_call (getWorkOrder workOrderId nowMs now) .refl fun _ _ hok =>
      getWorkOrder_spec hdb hok
  | list nowMs now => exact listWorkOrders_spec nowMs now hdb
  | others devices credentials => exact .single (.others devices credentials)

theorem WorkOrderTables.Ok.perform (hdb : db.Ok) (call : WorkOrderCall) : (db.perform call).Ok :=
  changed_ok (perform_changes hdb call) hdb

theorem WorkOrderTables.Ok.play (hdb : db.Ok) (calls : List WorkOrderCall) : (db.play calls).Ok := by
  induction calls generalizing db with
  | nil => exact hdb
  | cons call calls ih => exact ih (hdb.perform call)

theorem play_keeps (hdb : db.Ok) (hrow : row ∈ db.workOrders) (hfinal : row.status.isActive = false)
    (calls : List WorkOrderCall) : row ∈ (db.play calls).workOrders := by
  induction calls generalizing db with
  | nil => exact hrow
  | cons call calls ih =>
    exact ih (hdb.perform call) (changed_keeps (perform_changes hdb call) hdb hrow hfinal)

end Operations

section Guarantees

variable [DateParse] {db db' mid : WorkOrderTables} {call : WorkOrderCall} {row : WorkOrderRow}

theorem TableChange.origin (h : TableChange call db db') (hrow : row ∈ db'.workOrders) :
    row ∈ db.workOrders ∨ (∃ old ∈ db.workOrders, RowChange call old row) ∨
      ∃ input status, call = .create input ∧ (status = .pendingApproval ∨ status = .queued) ∧
        row = input.row status ∧ ∃ event ∈ db'.events, event.workOrderId = row.workOrderId := by
  cases h with
  | claims => exact .inl hrow
  | others devices credentials => exact .inl hrow
  | @row _ old new event hold hchange hid hstatus hevent =>
    rw [recordWorkOrderEvent_spec hevent] at hrow
    rcases mem_replace hrow with rfl | ⟨hrow,_⟩
    · exact .inr (.inl ⟨old,hold,hchange⟩)
    · exact .inl hrow
  | @created _ input status event hcall hopen hfresh hvalid hid hstatus hevent =>
    rw [recordWorkOrderEvent_spec hevent] at hrow
    rcases List.mem_append.mp hrow with hrow | hrow
    · exact .inl hrow
    · obtain rfl := List.mem_singleton.mp hrow
      exact .inr (.inr ⟨input,status,hcall,hopen,rfl,_,eventRow_mem hevent,hid⟩)

theorem changed_claims (hcall : ∀ input, call ≠ .claim input)
    (h : ReflTransGen (TableChange call) db db') : db'.claims = db.claims := by
  induction h with
  | refl => rfl
  | tail _ hchange ih =>
    rw [← ih]
    cases hchange with
    | claims hclaim => exact absurd hclaim (hcall _)
    | others => rfl
    | row _ _ _ _ hevent =>
      rw [recordWorkOrderEvent_spec hevent]
      rfl
    | created _ _ _ _ _ _ hevent => rw [recordWorkOrderEvent_spec hevent]

theorem changed_target (h : ReflTransGen (TableChange call) db db') (hdb : db.Ok)
    (hrow : row ∈ db.workOrders) :
    ∃ row' ∈ db'.workOrders, row'.workOrderId = row.workOrderId ∧
      row'.targetDeviceId = row.targetDeviceId := by
  induction h with
  | refl => exact ⟨row,hrow,rfl,rfl⟩
  | tail hchain hchange ih =>
    obtain ⟨mid,hmid,hid,htarget⟩ := ih
    cases hchange with
    | claims => exact ⟨mid,hmid,hid,htarget⟩
    | others => exact ⟨mid,hmid,hid,htarget⟩
    | @row _ old new event hold hrowChange _ _ hevent =>
      rw [recordWorkOrderEvent_spec hevent]
      by_cases hsame : mid.workOrderId = old.workOrderId
      · have hunique := (changed_ok hchain hdb).eq_of_id hmid hold hsame
        subst hunique
        refine ⟨new,mem_replace_self hold hrowChange.workOrderId.symm,hrowChange.workOrderId.trans hid,?_⟩
        cases hrowChange <;> exact htarget
      · exact ⟨mid,mem_replace_of_ne hmid (hrowChange.workOrderId ▸ hsame),hid,htarget⟩
    | created _ _ _ _ _ _ hevent =>
      rw [recordWorkOrderEvent_spec hevent]
      exact ⟨mid,List.mem_append_left _ hmid,hid,htarget⟩

theorem changed_leased (hcall : ∀ input, call ≠ .claim input) (h : ReflTransGen (TableChange call) db db')
    (hrow : row ∈ db'.workOrders) (hleased : row.status = .leased) : row ∈ db.workOrders := by
  induction h generalizing row with
  | refl => exact hrow
  | tail _ hchange ih =>
    rcases hchange.origin hrow with hrow | ⟨old,hold,hchange⟩ | ⟨input,status,_,hopen,rfl,_⟩
    · exact ih hrow hleased
    · cases hchange with
      | leased hclaim => exact absurd hclaim (hcall _)
      | released hclaim => exact absurd hclaim (hcall _)
      | expired => cases hleased
      | approved => cases hleased
      | cancelled => cases hleased
      | completed => cases hleased
    · rcases hopen with rfl | rfl <;> cases hleased

theorem changed_result (hdb : db.Ok) (h : ReflTransGen (TableChange call) db db')
    (hrow : row ∈ db'.workOrders) (hresult : row.resultSha256 ≠ none) : row ∈ db.workOrders ∨
      ∃ input, call = .result input ∧ ∃ old ∈ db.workOrders, old.workOrderId = input.result.workOrderId ∧
        input.Fits old ∧ old.resultSha256 = none ∧ row = old.completed input := by
  induction h with
  | refl => exact .inl hrow
  | tail hchain hchange ih =>
    have hmid := changed_ok hchain hdb
    rcases hchange.origin hrow with hrow | ⟨old,hold,hchange⟩ | ⟨input,status,_,_,rfl,_⟩
    · exact ih hrow
    · have hnone : old.resultSha256 = none := by
        obtain ⟨_,_,_,hsame,_⟩ := (hmid.valid old hold).result
        exact hsame.mp ((hmid.valid old hold).of_active hchange.isActive).1
      cases hchange with
      | @completed input hcall hid hfits hnew hvalid =>
        have hin := changed_leased (by simp [hcall]) hchain hold hfits.1
        exact .inr ⟨input,hcall,old,hin,hid,hfits,hnew,rfl⟩
      | expired => exact absurd hnone hresult
      | released => exact absurd hnone hresult
      | approved => exact absurd hnone hresult
      | cancelled => exact absurd hnone hresult
      | leased => exact absurd hnone hresult
    · exact absurd rfl hresult

theorem changed_origin (hcall : ∀ input, call ≠ .create input)
    (h : ReflTransGen (TableChange call) db db')
    (hrow : row ∈ db'.workOrders) : ∃ old ∈ db.workOrders, old.workOrderId = row.workOrderId := by
  induction h generalizing row with
  | refl => exact ⟨row,hrow,rfl⟩
  | tail _ hchange ih =>
    rcases hchange.origin hrow with hrow | ⟨old,hold,hchange⟩ | ⟨input,_,hcreate,_⟩
    · exact ih hrow
    · obtain ⟨first,hfirst,hid⟩ := ih hold
      exact ⟨first,hfirst,hid.trans hchange.workOrderId.symm⟩
    · exact absurd hcreate (hcall input)

variable [DateFormat]

/-- A row that is leased after a call held its lease before, or the call is a claim that grants it: then
the order had not expired, no lease of it was in force, and a repair was approved. -/
theorem perform_leased (hdb : db.Ok) (hrow : row ∈ (db.perform call).workOrders)
    (hleased : row.status = .leased) : row ∈ db.workOrders ∨
      ∃ input, call = .claim input ∧ ∃ old ∈ db.workOrders, old.workOrderId = row.workOrderId ∧
        input.nowMs < old.expiresAtMs ∧
        (old.status = .queued ∨ old.status = .leased ∧
          ∃ expiry, old.leaseExpiresAtMs = some expiry ∧ expiry ≤ input.nowMs) ∧
        (old.kind = .repair → old.approvedAt ≠ none) := by
  by_cases hcall : ∃ input, call = .claim input
  · obtain ⟨input,rfl⟩ := hcall
    rcases Transaction.call_cases (claimWorkOrder input) db with ⟨result,db',hok,hcall⟩ | ⟨_,_,hcall⟩
    · rw [perform, hcall] at hrow
      obtain ⟨_,mid,hswept,houtcome⟩ := claimWorkOrder_spec hdb hok
      -- The loops leave the leases that are in force.
      have hheld : row ∈ mid.workOrders → row ∈ db.workOrders := by
        intro hin
        rw [hswept.rows] at hin
        obtain ⟨r,hr,hsame⟩ := List.mem_map.mp hin
        unfold WorkOrderRow.swept at hsame
        split_ifs at hsame
        · subst hsame
          cases hleased
        · subst hsame
          cases hleased
        · exact hsame ▸ hr
      cases houtcome with
      | repeated hfound hresult hdb' =>
        rw [hdb'] at hrow
        exact .inl (hheld hrow)
      | nothing hnew hqueue hdb' =>
        rw [hdb'] at hrow
        exact .inl (hheld hrow)
      | leased hnew hqueue hexpiry hformat hvalid hid hstatus hevent hdb' =>
        have houtcome' := ClaimOutcome.leased hnew hqueue hexpiry hformat hvalid hid hstatus hevent hdb'
        rw [hdb', recordWorkOrderEvent_spec hevent] at hrow
        rcases mem_replace hrow with rfl | ⟨hrow,_⟩
        · obtain ⟨old,hold,hgranted⟩ := houtcome'.granted hswept
          exact .inr ⟨input,rfl,old,hold,hgranted⟩
        · exact .inl (hheld hrow)
    · rw [perform, hcall] at hrow
      exact .inl hrow
  · exact .inl (changed_leased (fun input h => hcall ⟨input,h⟩) (perform_changes hdb call) hrow hleased)

def WorkOrderTables.recording (db : WorkOrderTables) : WorkOrderCall → Option String
  | .result input =>
    match recordWorkOrderResult input db with
    | .ok (result,_) => if result.idempotent then none else some input.result.workOrderId
    | .error _ => none
  | _ => none

def WorkOrderTables.recordings (db : WorkOrderTables) : List WorkOrderCall → List String
  | [] => []
  | call :: calls => (db.recording call).toList ++ (db.perform call).recordings calls

theorem recording_spec (hdb : db.Ok) {workOrderId : String} (h : db.recording call = some workOrderId) :
    (∃ old ∈ db.workOrders, old.workOrderId = workOrderId ∧ old.status = .leased) ∧
      ∃ new ∈ (db.perform call).workOrders, new.workOrderId = workOrderId ∧
      new.status.isActive = false := by
  unfold recording at h
  split at h
  · next input =>
    split at h
    · next result db' hok =>
      split_ifs at h with hidempotent
      obtain rfl := Option.some.inj h
      obtain ⟨_,hspec⟩ := recordWorkOrderResult_spec hdb hok
      obtain ⟨old,hold,hid,hfits,_,_,hnew,_⟩ := hspec (Bool.eq_false_iff.mpr hidempotent)
      refine ⟨⟨old,hold,hid,hfits.1⟩,old.completed input,?_,hid,rfl⟩
      rw [perform, Transaction.call_ok hok]
      exact hnew
    · cases h
  · cases h

theorem not_mem_recordings (hdb : db.Ok) (hrow : row ∈ db.workOrders)
    (hfinal : row.status.isActive = false)
    (calls : List WorkOrderCall) : row.workOrderId ∉ db.recordings calls := by
  induction calls generalizing db with
  | nil => simp [recordings]
  | cons call calls ih =>
    intro hin
    rcases List.mem_append.mp hin with hin | hin
    · obtain ⟨old,hold,hid,hleased⟩ := (recording_spec hdb (Option.mem_toList.mp hin)).1
      obtain rfl := hdb.eq_of_id hold hrow hid
      rw [hleased] at hfinal
      cases hfinal
    · exact ih (hdb.perform call)
        (changed_keeps (perform_changes hdb call) hdb hrow hfinal) hin

theorem recordings_nodup (hdb : db.Ok) (calls : List WorkOrderCall) : (db.recordings calls).Nodup := by
  induction calls generalizing db with
  | nil => exact List.nodup_nil
  | cons call calls ih =>
    rw [recordings]
    cases hrecording : db.recording call with
    | none => exact ih (hdb.perform call)
    | some workOrderId =>
      obtain ⟨new,hnew,rfl,hfinal⟩ := (recording_spec hdb hrecording).2
      exact List.nodup_cons.mpr ⟨not_mem_recordings (hdb.perform call) hnew hfinal calls,
        ih (hdb.perform call)⟩

theorem exists_first_event {start : WorkOrderTables} (hstart : start.Ok) (hempty : start.workOrders = [])
    (calls : List WorkOrderCall) (hrow : row ∈ (start.play calls).workOrders) :
    ∃ before after, calls = before ++ after ∧
      ∃ event ∈ (start.play before).events, event.workOrderId = row.workOrderId := by
  induction calls using List.reverseRecOn generalizing row with
  | nil =>
    rw [play, List.foldl_nil, hempty] at hrow
    cases hrow
  | append_singleton calls call ih =>
    have hplay : start.play (calls ++ [call]) = (start.play calls).perform call := by
      rw [play, List.foldl_append]
      rfl
    have hdb := hstart.play calls
    have hearlier : ∀ old ∈ (start.play calls).workOrders, old.workOrderId = row.workOrderId →
        ∃ before after, calls ++ [call] = before ++ after ∧
          ∃ event ∈ (start.play before).events, event.workOrderId = row.workOrderId := by
      intro old hold hid
      obtain ⟨before,after,rfl,event,hevent,hsame⟩ := ih hold
      exact ⟨before,after ++ [call],by simp,event,hevent,hsame.trans hid⟩
    rw [hplay] at hrow
    by_cases hcreate : ∃ input, call = .create input
    · obtain ⟨input,rfl⟩ := hcreate
      rcases Transaction.call_cases (createWorkOrder input) (start.play calls) with
        ⟨result,db',hok,hcall⟩ | ⟨_,_,hcall⟩
      · rw [perform, hcall] at hrow
        rcases createWorkOrder_spec hok with ⟨_,rfl⟩ | ⟨_,hchange⟩
        · exact hearlier row hrow rfl
        · rcases hchange.origin hrow with hrow | ⟨old,hold,hchange⟩ | ⟨_,_,_,_,_,event,hevent,hid⟩
          · exact hearlier row hrow rfl
          · exact hearlier old hold hchange.workOrderId.symm
          · refine ⟨_,[],(List.append_nil _).symm,event,?_,hid⟩
            rw [hplay, perform, hcall]
            exact hevent
      · rw [perform, hcall] at hrow
        exact hearlier row hrow rfl
    · obtain ⟨old,hold,hid⟩ := changed_origin (fun input h => hcreate ⟨input,h⟩)
        (perform_changes hdb call) hrow
      exact hearlier old hold hid

/-- Every run of the store on the orders of one tenant, with any clocks: what holds after the calls, and
what one more call can do. -/
theorem work_orders_stay_consistent (devices : Table (Option String)) (credentials : List String)
    (calls : List WorkOrderCall) :
    let start := WorkOrderTables.start devices credentials
    let db := start.play calls
    -- Every row passes `mapWorkOrder`.
    (∀ row ∈ db.workOrders, mapWorkOrder row = .ok row.toStoredWorkOrder) ∧
    -- Final statuses are never left: the row never changes again.
    (∀ row ∈ db.workOrders, row.status.isActive = false → ∀ later, row ∈ (db.play later).workOrders) ∧
    -- A repair that is leased has been approved.
    (∀ row ∈ db.workOrders, row.kind = .repair → row.status = .leased → row.approvedAt ≠ none) ∧
    -- A lease is granted by a claim only, to an order that has not expired and whose last lease has.
    (∀ call, ∀ row ∈ (db.perform call).workOrders, row.status = .leased → row ∈ db.workOrders ∨
      ∃ input, call = .claim input ∧ ∃ old ∈ db.workOrders, old.workOrderId = row.workOrderId ∧
        input.nowMs < old.expiresAtMs ∧
        (old.status = .queued ∨ old.status = .leased ∧
          ∃ expiry, old.leaseExpiresAtMs = some expiry ∧ expiry ≤ input.nowMs) ∧
        (old.kind = .repair → old.approvedAt ≠ none)) ∧
    -- A result is recorded once, by a result that fits the order and its current lease.
    (start.recordings calls).Nodup ∧
    (∀ call, ∀ row ∈ (db.perform call).workOrders, row.resultSha256 ≠ none → row ∈ db.workOrders ∨
      ∃ input, call = .result input ∧ ∃ old ∈ db.workOrders, old.workOrderId = input.result.workOrderId ∧
        input.Fits old ∧ old.resultSha256 = none ∧ row = old.completed input) ∧
    -- The last event of an order has its status as long as none of its events has been trimmed.
    (∀ row ∈ db.workOrders, (∀ before after, calls = before ++ after →
      ∀ event ∈ (start.play before).events,
        event.workOrderId = row.workOrderId → event ∈ db.events) →
      ((db.eventsOf row.workOrderId).getLast?.map fun event => event.status) = some row.status) := by
  intro start db
  have hstart : start.Ok := start_ok devices credentials
  have hdb : db.Ok := hstart.play calls
  refine ⟨fun row hrow => mapWorkOrder_eq_ok.mpr ⟨hdb.valid row hrow,rfl⟩,
    fun row hrow hfinal later => play_keeps hdb hrow hfinal later,
    fun row hrow hrepair hleased => (hdb.valid row hrow).approved hrepair (.inl hleased),
    fun call row hrow hleased => perform_leased hdb hrow hleased,recordings_nodup hstart calls,
    fun call row hrow hresult => changed_result hdb (perform_changes hdb call) hrow hresult,?_⟩
  intro row hrow huntrimmed
  obtain ⟨before,after,hcalls,event,hevent,hid⟩ := exists_first_event hstart rfl calls hrow
  have hin : event ∈ db.eventsOf row.workOrderId :=
    List.mem_filter.mpr ⟨huntrimmed before after hcalls event hevent hid,by simp [hid]⟩
  cases hlast : (db.eventsOf row.workOrderId).getLast? with
  | none =>
    rw [List.getLast?_eq_none_iff] at hlast
    rw [hlast] at hin
    cases hin
  | some last =>
    rw [Option.map_some, hdb.current row hrow last hlast]

end Guarantees

end KernAid.Fleet
