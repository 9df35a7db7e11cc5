import KernAid.Fleet.IncidentCases

/-! Incident cases over whole histories of a tenant: what one operation may do, and what a closure
seals. -/

set_option autoImplicit false

namespace KernAid.Fleet

open CrashLogic RetainedLog ReportCodec IncidentTables CloseIncidentCaseInput

def IncidentTables.eventsOf (db : IncidentTables) (caseId : String) : List IncidentCaseEventRow :=
  db.events.filter fun event => event.caseId = caseId

/-- The events are numbered without a gap, and the table holds the last of them. -/
def IncidentTables.Logged (db : IncidentTables) : Prop :=
  Retained IncidentCaseEventRow.sequence maxIncidentEventsPerTenant db.lastEventSequence db.events

/-- The events of a later state: those that were recorded before are unchanged, and only the oldest are
gone. -/
def IncidentTables.LogGrows (db db' : IncidentTables) : Prop :=
  Grows IncidentCaseEventRow.sequence maxIncidentEventsPerTenant db.lastEventSequence db.events
    db'.lastEventSequence db'.events

def IncidentTables.Open (db : IncidentTables) (caseId : String) : Prop :=
  ∀ row, db.incidentCase caseId = some row → row.closure = none

def IncidentTables.Linked (db : IncidentTables) : Prop :=
  ∀ link ∈ db.caseWorkOrders, ∃ order ∈ db.workOrders, order.workOrderId = link.workOrderId

/-- What an operation may do to the cases. The one case that it may close is `closing`. -/
structure CaseStep (closing : Option String) (db db' : IncidentTables) : Prop where
  orders : db'.workOrders = db.workOrders
  log : db.Logged → db'.Logged ∧ db.LogGrows db'
  closed : ∀ caseId row, db.incidentCase caseId = some row → row.closure ≠ none →
    db'.incidentCase caseId = some row ∧ db'.linksOf caseId = db.linksOf caseId ∧
      (db'.eventsOf caseId).Sublist (db.eventsOf caseId)
  opened : ∀ caseId row, some caseId ≠ closing → db'.incidentCase caseId = some row → row.closure ≠ none →
    db.incidentCase caseId = some row
  linked : db.Linked → db'.Linked

section Steps

variable {db db' db'' : IncidentTables} {closing : Option String} {caseId : String}

theorem CaseStep.refl : CaseStep closing db db where
  orders := rfl
  log h := ⟨h,.refl⟩
  closed _ _ hrow _ := ⟨hrow,rfl,.refl _⟩
  opened _ _ _ hrow _ := hrow
  linked h := h

theorem CaseStep.trans (h : CaseStep closing db db') (h' : CaseStep closing db' db'') :
    CaseStep closing db db'' where
  orders := h'.orders.trans h.orders
  log hlog := ⟨(h'.log (h.log hlog).1).1,(h.log hlog).2.trans (h'.log (h.log hlog).1).2⟩
  closed caseId row hrow hclosed := by
    obtain ⟨hrow₁,hlinks₁,hevents₁⟩ := h.closed caseId row hrow hclosed
    obtain ⟨hrow₂,hlinks₂,hevents₂⟩ := h'.closed caseId row hrow₁ hclosed
    exact ⟨hrow₂,hlinks₂.trans hlinks₁,hevents₂.trans hevents₁⟩
  opened caseId row hne hrow hclosed :=
    h.opened caseId row hne (h'.opened caseId row hne hrow hclosed) hclosed
  linked hlinked := h'.linked (h.linked hlinked)

theorem CaseStep.mono (h : CaseStep none db db') : CaseStep closing db db' where
  orders := h.orders
  log := h.log
  closed := h.closed
  opened caseId row _ := h.opened caseId row (by simp)
  linked := h.linked

theorem CaseStep.stays_open (h : CaseStep none db db') (hopen : db.Open caseId) : db'.Open caseId := by
  intro row hrow
  by_contra hclosed
  exact hclosed (hopen row (h.opened caseId row (by simp) hrow hclosed))

def IncidentTables.nextEvent (db : IncidentTables) (event : IncidentCaseEvent) : IncidentCaseEventRow :=
  { toIncidentCaseEvent := event, sequence := db.lastEventSequence + 1 }

theorem recordIncidentCaseEvent_spec {event : IncidentCaseEvent}
    (h : recordIncidentCaseEvent event db = .ok db') :
    db' = { db with
      events := append IncidentCaseEventRow.sequence maxIncidentEventsPerTenant db.events
        (db.nextEvent event) } := by
  rw [recordIncidentCaseEvent, require_bind_eq_ok, pure_eq_ok_iff] at h
  rw [← h.2]
  rfl

theorem IncidentTables.Logged.record {event : IncidentCaseEvent} (hlog : db.Logged)
    (h : recordIncidentCaseEvent event db = .ok db') :
    db'.Logged ∧ db.LogGrows db' ∧ db'.lastEventSequence = db.lastEventSequence + 1 := by
  have hspec := recordIncidentCaseEvent_spec h
  have hretained : Retained IncidentCaseEventRow.sequence maxIncidentEventsPerTenant
      (db.lastEventSequence + 1)
      (append IncidentCaseEventRow.sequence maxIncidentEventsPerTenant db.events
        (db.nextEvent event)) := Retained.append hlog rfl
  have hlast : db'.lastEventSequence = db.lastEventSequence + 1 := by
    rw [hspec]
    exact hretained.last (by decide)
  refine ⟨?_,?_,hlast⟩
  · rw [IncidentTables.Logged, hlast, hspec]
    exact hretained
  · rw [IncidentTables.LogGrows, hlast, hspec]
    exact Grows.append rfl

theorem eventsOf_append_sublist {event : IncidentCaseEventRow} (hne : event.caseId ≠ caseId) :
    ((append IncidentCaseEventRow.sequence maxIncidentEventsPerTenant db.events event).filter
      fun e => e.caseId = caseId).Sublist (db.eventsOf caseId) := by
  rw [append, List.filter_filter, eventsOf, List.filter_append]
  have hnone : [event].filter (fun e => decide (e.caseId = caseId) &&
      decide (event.sequence < e.sequence + maxIncidentEventsPerTenant)) = [] := by
    simp [hne]
  rw [hnone, List.append_nil, ← List.filter_filter]
  exact (List.filter_sublist).filter _

theorem CaseStep.recorded {mid : IncidentTables} {event : IncidentCaseEvent}
    (h : recordIncidentCaseEvent event mid = .ok db') (hopen : db.Open event.caseId)
    (horders : mid.workOrders = db.workOrders) (hevents : mid.events = db.events)
    (hothers : ∀ other, other ≠ event.caseId →
      mid.incidentCase other = db.incidentCase other ∧ mid.linksOf other = db.linksOf other)
    (hclosing : closing = some event.caseId ∨ mid.Open event.caseId) (hlinked : db.Linked → mid.Linked) :
    CaseStep closing db db' := by
  have hspec := recordIncidentCaseEvent_spec h
  have hlast : mid.lastEventSequence = db.lastEventSequence := by
    rw [lastEventSequence, hevents, lastEventSequence]
  have hcases : ∀ other, db'.incidentCase other = mid.incidentCase other := fun other => by
    rw [hspec]
    rfl
  have hlinks : ∀ other, db'.linksOf other = mid.linksOf other := fun other => by
    rw [hspec]
    rfl
  refine ⟨by rw [hspec, horders],fun hlog => ?_,fun other row hrow hclosed => ?_,
    fun other row hne hrow hclosed => ?_,fun hdb => ?_⟩
  · have hmid : mid.Logged := by
      rw [IncidentTables.Logged, hlast, hevents]
      exact hlog
    obtain ⟨hlog',hgrows,_⟩ := hmid.record h
    refine ⟨hlog',?_⟩
    rw [IncidentTables.LogGrows, hlast, hevents] at hgrows
    exact hgrows
  · have hne : other ≠ event.caseId := by
      rintro rfl
      exact hclosed (hopen row hrow)
    refine ⟨by rw [hcases, (hothers other hne).1, hrow],by rw [hlinks, (hothers other hne).2],?_⟩
    rw [eventsOf, hspec, hevents]
    exact eventsOf_append_sublist hne.symm
  · rw [hcases] at hrow
    by_cases hsame : other = event.caseId
    · subst hsame
      rcases hclosing with hclosing | hmid
      · exact absurd hclosing.symm hne
      · exact absurd (hmid row hrow) hclosed
    · rw [← hrow, (hothers other hsame).1]
  · rw [hspec]
    exact hlinked hdb

end Steps

section Operations

variable {db db' : IncidentTables} {caseId : String}

/-- An update of the row of one case that keeps its identifier, its closure and the other cases. -/
theorem incidentCase_set {set : IncidentCaseRow → IncidentCaseRow} (h : db'.cases = db.cases.map set)
    (hset : ∀ row, (set row).caseId = row.caseId ∧ (row.caseId ≠ caseId → set row = row)) :
    db'.incidentCase caseId = (db.incidentCase caseId).map set ∧
      ∀ other, other ≠ caseId → db'.incidentCase other = db.incidentCase other := by
  have hfind := incidentCase_map h fun row => (hset row).1
  refine ⟨hfind caseId,fun other hother => ?_⟩
  rw [hfind]
  cases hrow : db.incidentCase other with
  | none => rfl
  | some row => rw [Option.map_some, (hset row).2 (incidentCase_caseId hrow ▸ hother)]

variable [ReportCodec]

theorem syncIncidentCaseWorkOrder_step {status : IncidentCaseStatus} {observedAt : String}
    {link : IncidentCaseWorkOrderRow} (hopen : db.Open caseId)
    (h : syncIncidentCaseWorkOrder caseId status observedAt db link = .ok db') :
    CaseStep none db db' := by
  have htouched := syncIncidentCaseWorkOrder_touched h
  unfold syncIncidentCaseWorkOrder at h
  split at h
  · obtain rfl := Except.ok.inj h
    exact .refl
  · simp only at h
    split at h
    · obtain rfl := Except.ok.inj h
      exact .refl
    · have hspec := recordIncidentCaseEvent_spec h
      refine .recorded h hopen rfl rfl (fun other hother => ?_) (.inr fun row hrow => ?_)
        fun hlinked => ?_
      · rw [← (htouched.others other hother).1, ← (htouched.others other hother).2, hspec]
        exact ⟨rfl,rfl⟩
      · have hsame := htouched.same
        have hrow' : db'.incidentCase caseId = some row := by
          rw [hspec]
          exact hrow
        rw [hrow', Option.map_some] at hsame
        obtain ⟨old,hold,hcolumns⟩ := Option.map_eq_some_iff.mp hsame.symm
        exact (Prod.mk.inj hcolumns).2 ▸ hopen old hold
      · intro changed hchanged
        obtain ⟨old,hold,rfl⟩ := List.mem_map.mp hchanged
        obtain ⟨order,horder,hid⟩ := hlinked old hold
        refine ⟨order,horder,hid.trans ?_⟩
        split_ifs <;> rfl

theorem syncIncidentCaseWorkOrders_step {observedAt : String}
    (h : syncIncidentCaseWorkOrders caseId observedAt db = .ok db') : CaseStep none db db' := by
  unfold syncIncidentCaseWorkOrders at h
  split at h
  · obtain rfl := Except.ok.inj h
    exact .refl
  · next incident hincident =>
    split_ifs at h with hclosed
    · obtain rfl := Except.ok.inj h
      exact .refl
    · have hopen : db.Open caseId := fun row hrow => by
        obtain rfl := Option.some.inj (hincident.symm.trans hrow)
        simpa [incident.closed_iff] using hclosed
      clear hincident
      generalize db.linksOf caseId = links at h
      induction links generalizing db with
      | nil =>
        obtain rfl := Except.ok.inj h
        exact .refl
      | cons link links ih =>
        rw [List.foldlM_cons] at h
        obtain ⟨mid,hmid,h⟩ := bind_ok_iff.mp h
        have hstep := syncIncidentCaseWorkOrder_step hopen hmid
        exact hstep.trans (ih (hstep.stays_open hopen) h)

theorem syncIncidentCases_step {observedAt : String} (h : syncIncidentCases observedAt db = .ok db') :
    CaseStep none db db' := by
  have hopen : ∀ entry ∈ db.openLinks, db.Open entry.1.caseId := by
    intro entry hentry row hrow
    obtain ⟨link,_,hlink⟩ := List.mem_filterMap.mp hentry
    obtain ⟨incident,hincident,hstatus⟩ := Option.bind_eq_some_iff.mp hlink
    split_ifs at hstatus with hclosed
    obtain rfl := Option.some.inj hstatus
    obtain rfl := Option.some.inj (hincident.symm.trans hrow)
    simpa [incident.closed_iff] using hclosed
  unfold syncIncidentCases at h
  generalize db.openLinks = entries at h hopen
  induction entries generalizing db with
  | nil =>
    obtain rfl := Except.ok.inj h
    exact .refl
  | cons entry entries ih =>
    rw [List.foldlM_cons] at h
    obtain ⟨mid,hmid,h⟩ := bind_ok_iff.mp h
    have hstep := syncIncidentCaseWorkOrder_step (hopen entry List.mem_cons_self) hmid
    exact hstep.trans (ih h fun other hother =>
      hstep.stays_open (hopen other (List.mem_cons_of_mem _ hother)))

variable [DateParse]

theorem createIncidentCase_step {devices assets : List String} {input : CreateIncidentCaseInput}
    {result : IncidentCaseMutationResult × IncidentTables}
    (h : createIncidentCase devices assets input db = .ok result) : CaseStep none db result.2 := by
  rw [createIncidentCase] at h
  obtain ⟨_,_,h⟩ := bind_ok_iff.mp h
  split at h
  · rw [require_bind_eq_ok] at h
    obtain ⟨_,_,h⟩ := bind_ok_iff.mp h.2
    obtain rfl := pure_eq_ok_iff.mp h
    exact .refl
  · simp only [require_bind_eq_ok] at h
    obtain ⟨_,hfresh,_,h⟩ := h
    obtain ⟨done,hdone,h⟩ := bind_ok_iff.mp h
    obtain ⟨_,_,h⟩ := bind_ok_iff.mp h
    obtain rfl := pure_eq_ok_iff.mp h
    refine .recorded hdone (fun row hrow => ?_) rfl rfl (fun other hother => ⟨?_,rfl⟩)
      (.inr fun row hrow => ?_) fun hlinked => hlinked
    · rw [hfresh] at hrow
      cases hrow
    · simp only [incidentCase, List.find?_append, List.find?_singleton,
        CreateIncidentCaseInput.row]
      simp [hother.symm]
    · simp only [incidentCase] at hfresh hrow
      simp only [List.find?_append, hfresh, List.find?_singleton, CreateIncidentCaseInput.row] at hrow
      simp only [decide_true, if_true, Option.none_or, Option.some.injEq] at hrow
      rw [← hrow]

theorem listIncidentCases_step (observedAt : String) (db : IncidentTables) :
    CaseStep none db (listIncidentCases observedAt db).2 := by
  rw [listIncidentCases]
  split_ifs
  · split
    · exact .refl
    · next hsync => exact syncIncidentCases_step hsync
  · exact .refl

theorem updateIncidentCase_step {input : UpdateIncidentCaseInput}
    {result : Option IncidentCaseMutationResult × IncidentTables}
    (h : updateIncidentCase input db = .ok result) : CaseStep none db result.2 := by
  rw [updateIncidentCase] at h
  obtain ⟨_,_,h⟩ := bind_ok_iff.mp h
  split at h
  · obtain rfl := pure_eq_ok_iff.mp h
    exact .refl
  · next row hrow =>
    rw [require_bind_eq_ok] at h
    obtain ⟨hstatus,h⟩ := h
    split_ifs at h
    · obtain ⟨_,_,h⟩ := bind_ok_iff.mp h
      obtain rfl := pure_eq_ok_iff.mp h
      exact .refl
    · obtain ⟨done,hdone,h⟩ := bind_ok_iff.mp h
      obtain ⟨_,_,h⟩ := bind_ok_iff.mp h
      obtain rfl := pure_eq_ok_iff.mp h
      have hopen : db.Open input.caseId := fun other hother => by
        obtain rfl := Option.some.inj (hrow.symm.trans hother)
        simpa [row.closed_iff] using hstatus
      obtain ⟨hsame,hothers⟩ := @incidentCase_set db { db with cases := db.cases.map input.updated }
        input.caseId input.updated rfl fun row => by
          rw [UpdateIncidentCaseInput.updated]
          split_ifs with hcase
          · exact ⟨rfl,fun hne => absurd hcase.1 hne⟩
          · exact ⟨rfl,fun _ => rfl⟩
      refine .recorded hdone hopen rfl rfl (fun other hother => ⟨hothers other hother,rfl⟩)
        (.inr fun other hother => ?_) fun hlinked => hlinked
      rw [hsame, hrow, Option.map_some, Option.some.injEq] at hother
      rw [← hother, UpdateIncidentCaseInput.updated]
      split_ifs
      · exact hopen row hrow
      · exact hopen row hrow

theorem linkIncidentWorkOrder_step {input : LinkIncidentWorkOrderInput}
    {result : Option IncidentCaseMutationResult × IncidentTables}
    (h : linkIncidentWorkOrder input db = .ok result) : CaseStep none db result.2 := by
  rw [linkIncidentWorkOrder] at h
  obtain ⟨_,_,h⟩ := bind_ok_iff.mp h
  split at h
  · obtain rfl := pure_eq_ok_iff.mp h
    exact .refl
  · next incident hincident =>
    rw [require_bind_eq_ok] at h
    obtain ⟨hstatus,h⟩ := h
    rw [okOr_bind_eq_ok] at h
    obtain ⟨order,horder,h⟩ := h
    rw [require_bind_eq_ok] at h
    replace h := h.2
    split_ifs at h
    · obtain ⟨_,_,h⟩ := bind_ok_iff.mp h
      obtain rfl := pure_eq_ok_iff.mp h
      exact .refl
    · rw [require_bind_eq_ok] at h
      obtain ⟨_,_,h⟩ := bind_ok_iff.mp h.2
      obtain ⟨done,hdone,h⟩ := bind_ok_iff.mp h
      obtain ⟨_,_,h⟩ := bind_ok_iff.mp h
      obtain rfl := pure_eq_ok_iff.mp h
      have hopen : db.Open input.caseId := fun other hother => by
        obtain rfl := Option.some.inj (hincident.symm.trans hother)
        simpa [incident.closed_iff] using hstatus
      obtain ⟨hsame,hothers⟩ := @incidentCase_set db
        { db with cases := db.cases.map fun row =>
            if row.caseId = input.caseId then { row with updatedAt := input.linkedAt } else row }
        input.caseId _ rfl fun row => by
          split_ifs with hcase
          · exact ⟨rfl,fun hne => absurd hcase hne⟩
          · exact ⟨rfl,fun _ => rfl⟩
      refine .recorded hdone hopen rfl rfl (fun other hother => ⟨hothers other hother,?_⟩)
        (.inr fun other hother => ?_) fun hlinked link hlink => ?_
      · simp [linksOf, LinkIncidentWorkOrderInput.row, hother.symm]
      · obtain ⟨old,hold,rfl⟩ := Option.map_eq_some_iff.mp (hsame.symm.trans hother)
        split_ifs
        · exact hopen old hold
        · exact hopen old hold
      · rcases List.mem_append.mp hlink with hold | hnew
        · exact hlinked link hold
        · obtain rfl := List.mem_singleton.mp hnew
          exact ⟨order,List.mem_of_find?_eq_some horder,rfl⟩

end Operations

section Closing

variable {db db' : IncidentTables} {caseId : String} [ReportCodec]

def IncidentTables.orderOf (db : IncidentTables) (link : IncidentCaseWorkOrderRow) :
    Option WorkOrderRow :=
  db.workOrders.find? fun order => order.workOrderId = link.workOrderId

def IncidentTables.Current (db : IncidentTables) (link : IncidentCaseWorkOrderRow) : Prop :=
  ∀ order, db.orderOf link = some order → link.stateSha256 = stateSha256 (incidentWorkOrderState order)

theorem syncIncidentCaseWorkOrder_current {status : IncidentCaseStatus} {observedAt : String}
    {link : IncidentCaseWorkOrderRow} {rest : List IncidentCaseWorkOrderRow}
    (hrest : ∀ other ∈ db.linksOf caseId, db.Current other ∨ other ∈ link :: rest)
    (h : syncIncidentCaseWorkOrder caseId status observedAt db link = .ok db') :
    db'.workOrders = db.workOrders ∧
      (db'.linksOf caseId).map (fun other => other.workOrderId) =
        (db.linksOf caseId).map (fun other => other.workOrderId) ∧
      ∀ other ∈ db'.linksOf caseId, db'.Current other ∨ other ∈ rest := by
  unfold syncIncidentCaseWorkOrder at h
  split at h
  · next hnone =>
    obtain rfl := Except.ok.inj h
    refine ⟨rfl,rfl,fun other hother => ?_⟩
    rcases hrest other hother with hcurrent | hmem
    · exact .inl hcurrent
    · rcases List.mem_cons.mp hmem with rfl | hmem
      · refine .inl fun order horder => ?_
        rw [IncidentTables.orderOf, hnone] at horder
        cases horder
      · exact .inr hmem
  · next order horder =>
    simp only at h
    split at h
    · next hsame =>
      obtain rfl := Except.ok.inj h
      refine ⟨rfl,rfl,fun other hother => ?_⟩
      rcases hrest other hother with hcurrent | hmem
      · exact .inl hcurrent
      · rcases List.mem_cons.mp hmem with rfl | hmem
        · refine .inl fun found hfound => ?_
          obtain rfl := Option.some.inj (horder.symm.trans hfound)
          exact hsame.symm
        · exact .inr hmem
    · have hspec := recordIncidentCaseEvent_spec h
      -- The links of the case after the update.
      have hlinks : db'.linksOf caseId = (db.linksOf caseId).map fun row =>
          if row.workOrderId = link.workOrderId then
            { row with
              status := (incidentWorkOrderState order).status
              resultSha256 := (incidentWorkOrderState order).resultSha256
              stateSha256 := stateSha256 (incidentWorkOrderState order)
              observedAt }
          else row := by
        rw [hspec]
        simp only [linksOf, List.filter_map]
        have hpred : ∀ row ∈ db.caseWorkOrders, decide (row.caseId = caseId) = true ↔
            decide ((if row.caseId = caseId ∧ row.workOrderId = link.workOrderId then
              { row with
                status := (incidentWorkOrderState order).status
                resultSha256 := (incidentWorkOrderState order).resultSha256
                stateSha256 := stateSha256 (incidentWorkOrderState order)
                observedAt } else row).caseId = caseId) = true := by
          intro row _
          split_ifs <;> rfl
        rw [List.filter_congr (q := fun row => decide (row.caseId = caseId))]
        · apply List.map_congr_left
          intro row hrow
          have hcase : row.caseId = caseId := by simpa using (List.mem_filter.mp hrow).2
          simp only [hcase, true_and]
        · intro row hrow
          simp only [Function.comp_apply]
          exact Bool.eq_iff_iff.mpr (hpred row hrow).symm
      have horders : db'.workOrders = db.workOrders := by rw [hspec]
      have hcurrent : ∀ row, db'.Current row ↔ db.Current row := fun row => by
        rw [IncidentTables.Current, IncidentTables.Current, IncidentTables.orderOf,
          IncidentTables.orderOf, horders]
      refine ⟨horders,?_,fun other hother => ?_⟩
      · rw [hlinks, List.map_map]
        apply List.map_congr_left
        intro row _
        simp only [Function.comp_apply]
        split_ifs <;> rfl
      · rw [hlinks] at hother
        obtain ⟨row,hrow,rfl⟩ := List.mem_map.mp hother
        rw [hcurrent]
        split_ifs with hid
        · refine .inl fun found hfound => ?_
          have hfound' : db.orderOf link = some found := by
            rw [← hfound]
            simp only [IncidentTables.orderOf, hid]
          obtain rfl := Option.some.inj (horder.symm.trans hfound')
          rfl
        · rcases hrest row hrow with hold | hmem
          · exact .inl hold
          · rcases List.mem_cons.mp hmem with rfl | hmem
            · exact absurd rfl hid
            · exact .inr hmem

theorem syncIncidentCaseWorkOrders_current {observedAt : String} (hopen : db.Open caseId)
    (hcase : (db.incidentCase caseId).isSome)
    (h : syncIncidentCaseWorkOrders caseId observedAt db = .ok db') :
    (db'.linksOf caseId).map (fun link => link.workOrderId) =
        (db.linksOf caseId).map (fun link => link.workOrderId) ∧
      ∀ link ∈ db'.linksOf caseId, db'.Current link := by
  obtain ⟨incident,hincident⟩ := Option.isSome_iff_exists.mp hcase
  have hstatus : incident.status ≠ .closed := by
    rw [ne_eq, incident.closed_iff, hopen incident hincident]
    decide
  simp only [syncIncidentCaseWorkOrders, hincident, if_neg hstatus] at h
  -- The loop runs over the links as they were selected.
  have hloop : ∀ (links : List IncidentCaseWorkOrderRow) (db : IncidentTables),
      (∀ other ∈ db.linksOf caseId, db.Current other ∨ other ∈ links) →
      links.foldlM (syncIncidentCaseWorkOrder caseId incident.status observedAt) db = .ok db' →
      (db'.linksOf caseId).map (fun link => link.workOrderId) =
          (db.linksOf caseId).map (fun link => link.workOrderId) ∧
        ∀ link ∈ db'.linksOf caseId, db'.Current link := by
    intro links
    induction links with
    | nil =>
      intro db hrest h
      obtain rfl := Except.ok.inj h
      exact ⟨rfl,fun link hlink => (hrest link hlink).resolve_right (by simp)⟩
    | cons link links ih =>
      intro db hrest h
      rw [List.foldlM_cons] at h
      obtain ⟨mid,hmid,h⟩ := bind_ok_iff.mp h
      obtain ⟨_,hids,hrest'⟩ := syncIncidentCaseWorkOrder_current hrest hmid
      obtain ⟨hids',hcurrent⟩ := ih mid hrest' h
      exact ⟨hids'.trans hids,hcurrent⟩
  exact hloop _ db (fun other hother => .inr hother) h

variable [DateParse]

omit [ReportCodec] in
theorem listIncidentCaseEvents_eq_ok {timeline : List IncidentCaseEventRow} (hlog : db.Logged)
    (h : db.listIncidentCaseEvents caseId = .ok timeline) :
    timeline = (db.eventsOf caseId).take maxListedIncidentEvents := by
  have hsorted : (db.eventsOf caseId).insertionSort (fun a b => a.sequence ≤ b.sequence) =
      db.eventsOf caseId := by
    apply List.Pairwise.insertionSort_eq
    exact (hlog.ascending.imp fun hlt => Nat.le_of_lt hlt).filter _
  rw [listIncidentCaseEvents] at h
  change (((db.eventsOf caseId).insertionSort fun a b => a.sequence ≤ b.sequence).take _).mapM _ = _ at h
  rw [hsorted] at h
  obtain ⟨hmap,_⟩ := mapM_eq_ok (g := fun row => row) (P := fun _ => True) (fun row row' hrow => by
    simp only [mapIncidentCaseEvent, require_bind_eq_ok, pure_eq_ok_iff] at hrow
    exact ⟨hrow.2.symm,trivial⟩) h
  rw [hmap, List.map_id']

theorem mapIncidentCase_workOrders {row : IncidentCaseRow} {stored : StoredIncidentCase}
    (h : db.mapIncidentCase row = .ok stored) :
    stored.workOrders = ((db.linksOf row.caseId).insertionSort fun a b => linkedBefore a b).map
        (fun link => ⟨link.toIncidentWorkOrderState,link.stateSha256,link.linkedAt,link.observedAt⟩) ∧
      ∀ link ∈ db.linksOf row.caseId, stateSha256 link.toIncidentWorkOrderState = link.stateSha256 := by
  rw [mapIncidentCase] at h
  obtain ⟨_,_,h⟩ := bind_ok_iff.mp h
  obtain ⟨workOrders,hmap,h⟩ := bind_ok_iff.mp h
  rw [pure_eq_ok_iff] at h
  subst h
  obtain ⟨hworkOrders,hdigests⟩ := mapM_eq_ok
    (g := fun link : IncidentCaseWorkOrderRow =>
      ⟨link.toIncidentWorkOrderState,link.stateSha256,link.linkedAt,link.observedAt⟩)
    (P := fun link => stateSha256 link.toIncidentWorkOrderState = link.stateSha256)
    (fun link order hlink => by
      simp only [mapIncidentCaseWorkOrder, require_bind_eq_ok, pure_eq_ok_iff] at hlink
      exact ⟨hlink.2.2.symm,hlink.2.1⟩) hmap
  exact ⟨hworkOrders,fun link hlink => hdigests link (List.mem_insertionSort _ |>.mpr hlink)⟩

variable [ReceiptCodec] {input : CloseIncidentCaseInput}

/-- What a closure seals. `before` and `after` are the tables around its transaction. -/
structure Sealed (input : CloseIncidentCaseInput) (before after : FleetTables) (report : IncidentReport) :
    Prop where
  /-- The report lists the linked orders. -/
  listed : report.workOrders = ((after.incidents.linksOf input.caseId).insertionSort
    fun a b => linkedBefore a b).map fun link => (link.toIncidentWorkOrderState,link.stateSha256)
  sameLinks : (after.incidents.linksOf input.caseId).map (fun link => link.workOrderId) =
    (before.incidents.linksOf input.caseId).map fun link => link.workOrderId
  /-- A link shows the state of its order, up to a collision of their digests. -/
  current : ∀ link ∈ after.incidents.linksOf input.caseId, ∃ order ∈ before.incidents.workOrders,
    order.workOrderId = link.workOrderId ∧
      (link.toIncidentWorkOrderState = incidentWorkOrderState order ∨
        link.toIncidentWorkOrderState ≠ incidentWorkOrderState order ∧
          stateSha256 link.toIncidentWorkOrderState =
            stateSha256 (incidentWorkOrderState order))
  /-- The timeline is that of the events before the closing event. -/
  timeline : ∃ (mid : IncidentTables) (closing : IncidentCaseEvent), mid.Logged ∧
    before.incidents.LogGrows mid ∧ closing.caseId = input.caseId ∧ closing.kind = .closed ∧
    after.incidents.events = append IncidentCaseEventRow.sequence maxIncidentEventsPerTenant mid.events
      (mid.nextEvent closing) ∧
    report.timelineSha256 =
      timelineSha256 ((mid.eventsOf input.caseId).take maxListedIncidentEvents)

theorem CloseIncidentCaseInput.commit_closing {stored : StoredIncidentCase} {db db' : FleetTables}
    (h : input.commit db = .ok (some ⟨stored,false⟩,db')) :
    ∃ mid row sequence current timeline material,
      syncIncidentCaseWorkOrders input.caseId input.closedAt db.incidents = .ok mid ∧
      mid.incidentCase input.caseId = some row ∧ row.closure = none ∧
      mid.mapIncidentCase row = .ok current ∧ mid.listIncidentCaseEvents input.caseId = .ok timeline ∧
      buildIncidentClosure input.outcome input.closedAt input.requestSha256 sequence current timeline =
        .ok material ∧
      input.write material sequence row { db with incidents := mid } = .ok db' := by
  simp only [commit, closeIncidentCase] at h
  obtain ⟨_,_,h⟩ := bind_ok_iff.mp h
  obtain ⟨mid,hsync,h⟩ := bind_ok_iff.mp h
  split at h
  · cases h
  · next row hrow =>
    split at h
    · rw [require_bind_eq_ok] at h
      obtain ⟨_,_,h⟩ := bind_ok_iff.mp h.2
      cases h
    · next hopen =>
      obtain ⟨sequence,_,h⟩ := bind_ok_iff.mp h
      obtain ⟨current,hcurrent,h⟩ := bind_ok_iff.mp h
      obtain ⟨timeline,htimeline,h⟩ := bind_ok_iff.mp h
      obtain ⟨material,hmaterial,h⟩ := bind_ok_iff.mp h
      obtain ⟨_,_,h⟩ := bind_ok_iff.mp h
      obtain ⟨written,hwritten,h⟩ := bind_ok_iff.mp h
      obtain ⟨_,_,h⟩ := bind_ok_iff.mp h
      obtain ⟨_,rfl⟩ := Prod.mk.inj (Except.ok.inj h)
      exact ⟨mid,row,sequence,current,timeline,material,hsync,hrow,hopen,hcurrent,
        htimeline,hmaterial,hwritten⟩

omit [DateParse] in
theorem buildIncidentClosure_report {outcome : IncidentCaseOutcome} {closedAt requestSha256 : String}
    {sequence : Nat} {incident : StoredIncidentCase} {timeline : List IncidentCaseEventRow}
    {material : IncidentCaseClosureMaterial}
    (h : buildIncidentClosure outcome closedAt requestSha256 sequence incident timeline = .ok material) :
    ∃ report, canonicalReport report = some material.reportJson ∧
      report.timelineSha256 = timelineSha256 timeline ∧
      report.workOrders = incident.workOrders.map
        fun order => (order.toIncidentWorkOrderState,order.stateSha256) := by
  simp only [buildIncidentClosure, okOr_bind_eq_ok] at h
  obtain ⟨reportJson,hreport,h⟩ := h
  obtain ⟨receiptJson,_,h⟩ := bind_ok_iff.mp h
  rw [pure_eq_ok_iff] at h
  subst h
  exact ⟨_,hreport,rfl,rfl⟩

theorem CloseIncidentCaseInput.commit_sealed {stored : StoredIncidentCase} {db db' : FleetTables}
    (hlog : db.incidents.Logged) (hlinked : db.incidents.Linked)
    (h : input.commit db = .ok (some ⟨stored,false⟩,db')) :
    CaseStep (some input.caseId) db.incidents db'.incidents ∧
      ∃ row closure report, db'.incidents.incidentCase input.caseId = some row ∧
      row.closure = some closure ∧
        closure.outcome = input.outcome ∧ closure.closeRequestSha256 = input.requestSha256 ∧
        canonicalReport report = some closure.reportJson ∧ Sealed input db db' report := by
  obtain ⟨mid,row,sequence,current,timeline,material,hsync,hrow,hopen,hcurrent,
    htimeline,hmaterial,hwritten⟩ :=
    commit_closing h
  have hsynced := syncIncidentCaseWorkOrders_step hsync
  obtain ⟨hmidLog,hgrows⟩ := hsynced.log hlog
  have hmidOpen : mid.Open input.caseId := fun other hother => by
    obtain rfl := Option.some.inj (hrow.symm.trans hother)
    exact hopen
  obtain ⟨hfound,hothers,_⟩ := @write_spec _ _ _ _ ⟨db.receipts,mid⟩ _ hrow hopen hwritten
  obtain ⟨report,hreport,htimelineSha,hworkOrders⟩ := buildIncidentClosure_report hmaterial
  simp only [write, require_bind_eq_ok] at hwritten
  obtain ⟨_,_,hwritten⟩ := hwritten
  obtain ⟨incidents,hevent,hwritten⟩ := bind_ok_iff.mp hwritten
  rw [pure_eq_ok_iff] at hwritten
  subst hwritten
  have hspec := recordIncidentCaseEvent_spec hevent
  have hlinks : incidents.linksOf input.caseId = mid.linksOf input.caseId := by
    rw [hspec]
    rfl
  constructor
  · refine hsynced.mono.trans (.recorded hevent hmidOpen rfl rfl (fun other hother => ?_) (.inl rfl)
      fun hmid => hmid)
    rw [← (hothers other hother).1, ← (hothers other hother).2, hspec]
    exact ⟨rfl,rfl⟩
  · refine ⟨_,_,report,hfound,rfl,rfl,rfl,hreport,?_⟩
    obtain ⟨hstored,hdigests⟩ := mapIncidentCase_workOrders hcurrent
    rw [incidentCase_caseId hrow] at hstored hdigests
    obtain ⟨old,hold,hcolumns⟩ : ∃ old, db.incidents.incidentCase input.caseId = some old ∧
        (old.sourceDeviceId,old.closure) = (row.sourceDeviceId,row.closure) := by
      have hsame := (syncIncidentCaseWorkOrders_touched hsync).same
      rw [hrow, Option.map_some] at hsame
      exact Option.map_eq_some_iff.mp hsame.symm
    have hbefore : db.incidents.Open input.caseId := fun other hother => by
      obtain rfl := Option.some.inj (hold.symm.trans hother)
      exact (Prod.mk.inj hcolumns).2.trans hopen
    obtain ⟨hids,hlinksCurrent⟩ := syncIncidentCaseWorkOrders_current hbefore (by simp [hold]) hsync
    refine ⟨?_,?_,fun link hlink => ?_,mid,
      ⟨input.caseId,input.closedAt,.closed,.credential,input.credentialId,.closed,material.reportSha256⟩,
      hmidLog,hgrows,rfl,rfl,?_,?_⟩
    · rw [hworkOrders, hstored, List.map_map, hlinks]
      rfl
    · rw [hlinks, hids]
    · rw [hlinks] at hlink
      obtain ⟨order,horder,hid⟩ := hsynced.linked hlinked link (List.mem_filter.mp hlink).1
      obtain ⟨found,hfoundOrder⟩ : ∃ found, mid.orderOf link = some found := by
        rw [← Option.isSome_iff_exists, IncidentTables.orderOf, List.find?_isSome]
        exact ⟨order,horder,by simpa using hid⟩
      have hdigest := (hdigests link hlink).trans (hlinksCurrent link hlink found hfoundOrder)
      refine ⟨found,hsynced.orders ▸ List.mem_of_find?_eq_some hfoundOrder,
        by simpa using List.find?_some hfoundOrder,?_⟩
      by_cases hstate : link.toIncidentWorkOrderState = incidentWorkOrderState found
      · exact .inl hstate
      · exact .inr ⟨hstate,hdigest⟩
    · rw [hspec]
      rfl
    · rw [htimelineSha, listIncidentCaseEvents_eq_ok hmidLog htimeline]

end Closing

section Runs

variable [DateParse] {db db' : ControlTables}

def CaseCall.closing : CaseCall → Option String
  | .close request => some request.caseId
  | _ => none

structure ControlTables.Ok (db : ControlTables) : Prop where
  orders : db.orders.Ok
  logged : db.incidents.Logged
  linked : db.incidents.Linked

structure ControlStep (closing : Option String) (db db' : ControlTables) : Prop where
  ok : db'.Ok
  log : db.incidents.LogGrows db'.incidents
  closed : ∀ caseId row, db.incidents.incidentCase caseId = some row → row.closure ≠ none →
    db'.incidents.incidentCase caseId = some row ∧
    db'.incidents.linksOf caseId = db.incidents.linksOf caseId ∧
      (db'.incidents.eventsOf caseId).Sublist (db.incidents.eventsOf caseId)
  opened : ∀ caseId row, some caseId ≠ closing → db'.incidents.incidentCase caseId = some row →
    row.closure ≠ none → db.incidents.incidentCase caseId = some row

theorem ControlStep.refl {closing : Option String} (hok : db.Ok) : ControlStep closing db db :=
  ⟨hok,.refl,fun _ _ hrow _ => ⟨hrow,rfl,.refl _⟩,fun _ _ _ hrow _ => hrow⟩

theorem ControlTables.Ok.step {closing : Option String} {incidents : IncidentTables}
    (hok : db.Ok) (h : CaseStep closing db.incidents incidents) :
    ControlStep closing db (db.withIncidents incidents) := by
  obtain ⟨hlogged,hgrows⟩ := h.log hok.logged
  refine ⟨⟨hok.orders,hlogged,fun link hlink => ?_⟩,hgrows,h.closed,h.opened⟩
  have hlinked := h.linked hok.linked link hlink
  rw [h.orders] at hlinked
  exact hlinked

theorem ControlTables.start_ok (devices : Table (Option String)) (credentials assets : List String) :
    (ControlTables.start devices credentials assets).Ok :=
  ⟨WorkOrderTables.start_ok devices credentials,retained_nil,
    by simp [IncidentTables.Linked, ControlTables.incidents, ControlTables.start]⟩

variable [ReceiptCodec] [ReportCodec] [CloseRequestDigest]

theorem CloseRequest.send_cases (request : CloseRequest) (db : ControlTables) :
    (request.send db).2 = db ∨
      ∃ stored fleet, request.input.commit db.fleet = .ok (some ⟨stored,false⟩,fleet) ∧
        (request.send db).2 = (db.withIncidents fleet.incidents).withReceipts fleet.receipts := by
  rcases request.input.send_cases db.fleet with ⟨result,fleet,hcommit,hsend⟩ | ⟨e,hcommit,hsend⟩
  · rw [CloseRequest.send, hsend]
    cases commit_spec hcommit with
    | unknown => exact .inl rfl
    | repeated => exact .inl rfl
    | closed => exact .inr ⟨_,_,hcommit,rfl⟩
  · rw [CloseRequest.send, hsend]
    exact .inl rfl

variable [DateFormat]

theorem ControlTables.Ok.perform (hok : db.Ok) (call : CaseCall) :
    ControlStep call.closing db (db.perform call) := by
  cases call with
  | create input =>
    refine hok.step (Transaction.after_call (createIncidentCase _ _ input) .refl fun _ _ h => ?_)
    exact createIncidentCase_step h
  | list observedAt => exact hok.step (listIncidentCases_step observedAt db.incidents)
  | update input =>
    exact hok.step (Transaction.after_call (updateIncidentCase input) .refl
      fun _ _ h => updateIncidentCase_step h)
  | link input =>
    refine hok.step (Transaction.after_call (linkIncidentWorkOrder input) .refl fun _ _ h => ?_)
    exact linkIncidentWorkOrder_step h
  | close request =>
    rcases request.send_cases db with hsame | ⟨stored,fleet,hcommit,hsend⟩
    · rw [ControlTables.perform, hsame]
      exact .refl hok
    · have hstep := hok.step (commit_sealed hok.logged hok.linked hcommit).1
      rw [ControlTables.perform, hsend]
      exact ⟨⟨hstep.ok.orders,hstep.ok.logged,hstep.ok.linked⟩,hstep.log,hstep.closed,hstep.opened⟩
  | order call =>
    refine ⟨⟨hok.orders.perform call,hok.logged,fun link hlink => ?_⟩,.refl,
      fun _ _ hrow _ => ⟨hrow,rfl,.refl _⟩,fun _ _ _ hrow _ => hrow⟩
    obtain ⟨order,horder,hid⟩ := hok.linked link hlink
    obtain ⟨order',horder',hid',_⟩ := changed_target (perform_changes hok.orders call) hok.orders horder
    exact ⟨order',horder',hid'.trans hid⟩
  | respond response => exact ⟨⟨hok.orders,hok.logged,hok.linked⟩,.refl,fun _ _ hrow _ =>
      ⟨hrow,rfl,.refl _⟩,fun _ _ _ hrow _ => hrow⟩
  | others assets => exact ⟨⟨hok.orders,hok.logged,hok.linked⟩,.refl,fun _ _ hrow _ => ⟨hrow,rfl,.refl _⟩,
      fun _ _ _ hrow _ => hrow⟩

theorem ControlTables.Ok.play (hok : db.Ok) (calls : List CaseCall) : (db.play calls).Ok := by
  induction calls generalizing db with
  | nil => exact hok
  | cons call calls ih => exact ih (hok.perform call).ok

theorem ControlTables.Ok.play_log (hok : db.Ok) (calls : List CaseCall) :
    db.incidents.LogGrows (db.play calls).incidents := by
  induction calls generalizing db with
  | nil => exact .refl
  | cons call calls ih => exact (hok.perform call).log.trans (ih (hok.perform call).ok)

theorem ControlTables.Ok.play_closed (hok : db.Ok) {caseId : String} {row : IncidentCaseRow}
    (hrow : db.incidents.incidentCase caseId = some row) (hclosed : row.closure ≠ none)
    (calls : List CaseCall) :
    (db.play calls).incidents.incidentCase caseId = some row ∧
      (db.play calls).incidents.linksOf caseId = db.incidents.linksOf caseId ∧
      ((db.play calls).incidents.eventsOf caseId).Sublist (db.incidents.eventsOf caseId) := by
  induction calls generalizing db with
  | nil => exact ⟨hrow,rfl,.refl _⟩
  | cons call calls ih =>
    obtain ⟨hrow',hlinks,hevents⟩ := (hok.perform call).closed caseId row hrow hclosed
    obtain ⟨hrow'',hlinks',hevents'⟩ := ih (hok.perform call).ok hrow'
    exact ⟨hrow'',hlinks'.trans hlinks,hevents'.trans hevents⟩

theorem ControlTables.Ok.closed_by (hok : db.Ok) (hnone : db.cases = []) {calls : List CaseCall}
    {caseId : String} {row : IncidentCaseRow}
    (hrow : (db.play calls).incidents.incidentCase caseId = some row) (hclosed : row.closure ≠ none) :
    ∃ before request later stored fleet, calls = before ++ .close request :: later ∧
      request.caseId = caseId ∧
      request.input.commit (db.play before).fleet = .ok (some ⟨stored,false⟩,fleet) ∧
      (db.play before).perform (.close request) =
        ((db.play before).withIncidents fleet.incidents).withReceipts fleet.receipts := by
  induction calls using List.reverseRecOn with
  | nil =>
    change (db.incidents.cases.find? _) = _ at hrow
    rw [show db.incidents.cases = [] from hnone] at hrow
    cases hrow
  | append_singleton calls call ih =>
    rw [ControlTables.play, List.foldl_append] at hrow
    change (((db.play calls).perform call).incidents.incidentCase caseId) = _ at hrow
    by_cases hearlier : (db.play calls).incidents.incidentCase caseId = some row
    · obtain ⟨before,request,later,stored,fleet,rfl,hrest⟩ := ih hearlier
      exact ⟨before,request,later ++ [call],stored,fleet,by simp,hrest⟩
    · have hclosing : some caseId = call.closing := by
        by_contra hne
        exact hearlier (((hok.play calls).perform call).opened caseId row hne hrow hclosed)
      cases call with
      | close request =>
        rcases request.send_cases (db.play calls) with hsame | ⟨stored,fleet,hcommit,hsend⟩
        · rw [ControlTables.perform, hsame] at hrow
          exact absurd hrow hearlier
        · exact ⟨calls,request,[],stored,fleet,rfl,(Option.some.inj hclosing).symm,hcommit,hsend⟩
      | _ => cases hclosing

theorem CloseRequest.send_again (hok : db.Ok) {request request' : CloseRequest} {answer : ServiceAnswer}
    (hfirst : (request.send db).1 = .ok (some answer)) (later : List CaseCall)
    (hcase : request'.caseId = request.caseId)
    (hvalid : validateIncidentCaseClose request'.input = .ok ()) :
    request'.send ((request.send db).2.play later) =
      (if request'.outcome = request.outcome then .ok (some answer) else .error .incidentCaseState,
        (request.send db).2.play later) := by
  obtain ⟨row,closure,stored,idempotent,hrow,hclosure,hrequest,hmap,hanswer⟩ :=
    send_answered (Prod.ext hfirst rfl)
  have hafter : ((request.send db).2).Ok := (hok.perform (.close request)).ok
  obtain ⟨hlater,hlinks,_⟩ := hafter.play_closed hrow (by simp [hclosure]) later
  generalize hdb : (request.send db).2.play later = after at hlater hlinks ⊢
  have hcase' : after.fleet.incidents.incidentCase request'.input.caseId = some row := by
    rw [show request'.input.caseId = request.caseId from hcase]
    exact hlater
  have hstored : after.fleet.incidents.mapIncidentCase row = .ok stored := by
    rw [← hmap]
    refine mapIncidentCase_congr ?_
    rw [incidentCase_caseId hrow]
    exact hlinks
  have hdigest : closure.closeRequestSha256 = request'.input.requestSha256 ↔
      request'.outcome = request.outcome := by
    rw [hrequest, CloseRequest.input, CloseRequest.input, hcase]
    exact (CloseRequestDigest.injective request.caseId).eq_iff.trans eq_comm
  rw [CloseRequest.send, send_closed hcase' hclosure hvalid, hstored]
  simp only [hdigest, Except.bind]
  split_ifs with hsame
  · rw [← hanswer]
    simp only [CloseIncidentCaseInput.answer, ← hrequest, hdigest.mpr hsame]
    rfl
  · rfl

/-- In every history of the cases and orders of a tenant: the events of cases are numbered without a gap
and only the oldest of more than 20000 are dropped; a closed case was closed by one request, whose report
lists the linked orders in the state of their rows and digests the first 512 events that the table held of
the case, and since then the case, its links and its events are unchanged; the same request is answered
again with the same report and receipt, and another outcome is refused. -/
theorem closed_cases_stay_sealed (devices : Table (Option String)) (credentials assets : List String)
    (calls : List CaseCall) :
    let start := ControlTables.start devices credentials assets
    let db := start.play calls
    (db.incidents.Logged ∧ ∀ later, db.incidents.LogGrows (db.play later).incidents) ∧
    (∀ caseId row closure, db.incidents.incidentCase caseId = some row → row.closure = some closure →
      ∃ before request later report, calls = before ++ .close request :: later ∧ request.caseId = caseId ∧
        closure.outcome = request.outcome ∧ ReportCodec.canonicalReport report = some closure.reportJson ∧
        Sealed request.input (start.play before).fleet
          ((start.play before).perform (.close request)).fleet
          report ∧
        ((start.play before).perform (.close request)).incidents.incidentCase caseId = some row ∧
        db.incidents.linksOf caseId =
          ((start.play before).perform (.close request)).incidents.linksOf caseId ∧
        (db.incidents.eventsOf caseId).Sublist
          (((start.play before).perform (.close request)).incidents.eventsOf caseId)) ∧
    ∀ (request : CloseRequest) (answer : ServiceAnswer), (request.send db).1 = .ok (some answer) →
      ∀ (later : List CaseCall) (request' : CloseRequest), request'.caseId = request.caseId →
        validateIncidentCaseClose request'.input = .ok () →
          (request'.outcome = request.outcome →
            request'.send ((request.send db).2.play later) =
              (.ok (some answer),(request.send db).2.play later)) ∧
          (request'.outcome ≠ request.outcome → request'.send ((request.send db).2.play later) =
            (.error .incidentCaseState,(request.send db).2.play later)) := by
  intro start db
  have hstart : start.Ok := ControlTables.start_ok devices credentials assets
  have hok : db.Ok := hstart.play calls
  refine ⟨⟨hok.logged,hok.play_log⟩,fun caseId row closure hrow hclosure => ?_,
    fun request answer hfirst later request' hcase hvalid => ?_⟩
  · obtain ⟨before,request,later,stored,fleet,hcalls,rfl,hcommit,hperform⟩ :=
      hstart.closed_by rfl hrow (by simp [hclosure])
    have hbefore : (start.play before).Ok := hstart.play before
    obtain ⟨_,row',closure',report,hrow',hclosure',houtcome,_,hreport,hsealed⟩ :=
      commit_sealed hbefore.logged hbefore.linked hcommit
    -- What the request left is what later calls keep.
    have hafter : db = ((start.play before).perform (.close request)).play later := by
      simp only [db, hcalls, ControlTables.play, List.foldl_append, List.foldl_cons]
    have hsealedRow : ((start.play before).perform (.close request)).incidents.incidentCase
        request.caseId =
        some row' := by
      rw [hperform]
      exact hrow'
    obtain ⟨hkept,hlinks,hevents⟩ := (hbefore.perform (.close request)).ok.play_closed hsealedRow
      (by simp [hclosure']) later
    rw [← hafter] at hkept hlinks hevents
    obtain rfl := Option.some.inj (hrow.symm.trans hkept)
    obtain rfl := Option.some.inj (hclosure.symm.trans hclosure')
    refine ⟨before,request,later,report,hcalls,rfl,houtcome,hreport,?_,hsealedRow,hlinks,hevents⟩
    rw [hperform]
    exact ⟨hsealed.listed,hsealed.sameLinks,hsealed.current,hsealed.timeline⟩
  · have hagain := CloseRequest.send_again hok hfirst later hcase hvalid
    refine ⟨fun hsame => ?_,fun hother => ?_⟩
    · rw [hagain, if_pos hsame]
    · rw [hagain, if_neg hother]

end Runs

namespace CaseSample

open ReceiptSample (device)

variable {db : ControlTables} {n : Nat}

def admin : String := "bootstrap-admin"

def caseName : String := "case-1"

def time : String := "2026-08-01T00:00:00.000Z"

def outcomeDigit : IncidentCaseOutcome → Char
  | .resolved => '0'
  | .mitigated => '1'
  | .unresolved => '2'
  | .falsePositive => '3'

scoped instance dates : DateParse := ⟨fun _ => some 0⟩

scoped instance format : DateFormat := ⟨fun _ => some time⟩

scoped instance receipts : ReceiptCodec where
  sha256Hex _ := digits 'a'
  sign _ := "signature"
  verify _ signature := signature = "signature"
  canonicalJson _ := "receipt"
  parseServiceReceipt _ := some ⟨⟨device,.incidentCaseClose,1,digits '0',digits 'a',time⟩,"signature"⟩

/-- Timelines of more than 512 events have another digest than shorter ones. -/
scoped instance reports : ReportCodec where
  stateSha256 _ := digits 'a'
  timelineSha256 events := digits (if events.length ≤ 512 then 'a' else 'b')
  canonicalReport report := some report.timelineSha256
  parseIncidentReport text := some ⟨caseName,device,none,.low,.resolved,time,time,text,[]⟩

scoped instance requests : CloseRequestDigest where
  closeRequestSha256 _ outcome := digits (outcomeDigit outcome)
  injective _ first second h := by
    have hdigit := digits_inj.mp h
    cases first <;> cases second <;> first | rfl | exact absurd hdigit (by decide)

def severityAfter (n : Nat) : IncidentCaseSeverity := if n % 2 = 1 then .low else .high

theorem opened_without_closure : IncidentCaseStatus.opened = .closed ↔
    (none : Option IncidentClosure).isSome = true := by
  simp

def openRow (n : Nat) : IncidentCaseRow where
  caseId := caseName
  requestId := "request-1"
  requestSha256 := digits '0'
  sourceDeviceId := device
  sourceAssetId := none
  severity := severityAfter n
  status := .opened
  assigneeLabel := none
  createdByCredentialId := admin
  createdAt := time
  updatedAt := time
  closure := none
  closed_iff := opened_without_closure

def opening : CreateIncidentCaseInput :=
  ⟨caseName,"request-1",digits '0',device,none,.low,none,admin,time⟩

def toggle (n : Nat) : UpdateIncidentCaseInput :=
  ⟨caseName,severityAfter (n + 1),.opened,none,admin,time,digits '0'⟩

/-- At most one case, with `n` events. -/
structure Busy (n : Nat) (db : ControlTables) : Prop where
  credentials : db.orders.credentials = [admin]
  devices : device ∈ db.orders.devices.keys
  cases : n ≠ 0 → db.cases = [openRow n]
  links : db.caseWorkOrders = []
  logged : db.incidents.Logged
  last : db.incidents.lastEventSequence = n
  events : ∀ event ∈ db.caseEvents, event.caseId = caseName ∧ isRfc3339 event.occurredAt = true ∧
    event.actorId = admin ∧ event.detailSha256 = digits '0'
  numbered : db.receipts.checkpoints = ∅

theorem isRfc3339_time : isRfc3339 time = true := by decide +kernel

theorem identifiers : isPublicIdentifier caseName = true ∧ isPublicIdentifier "request-1" = true ∧
    isPublicIdentifier admin = true ∧ isDeviceId device = true := by decide +kernel

theorem isSha256_zero : isSha256 (digits '0') = true := isSha256_digits (by decide)

theorem openRow_valid (n : Nat) : validateIncidentCaseRow (openRow n) = .ok () := by
  obtain ⟨hcase,hrequest,hadmin,hdevice⟩ := identifiers
  simp [validateIncidentCaseRow, openRow, require_eq_ok, hcase, hrequest, hadmin, hdevice, isRfc3339_time,
    isSha256_zero]

theorem mapIncidentCase_openRow {db : IncidentTables} (n : Nat) (hlinks : db.caseWorkOrders = []) :
    db.mapIncidentCase (openRow n) = .ok ⟨openRow n,[]⟩ := by
  rw [mapIncidentCase, openRow_valid, ok_bind, linksOf, hlinks]
  rfl

theorem Busy.recorded {incidents : IncidentTables} {event : IncidentCaseEvent} (h : Busy n db)
    (hevent : event.caseId = caseName ∧ event.occurredAt = time ∧ event.actorId = admin ∧
      event.detailSha256 = digits '0')
    (hrecorded : recordIncidentCaseEvent event { db.incidents with
      cases := [openRow (n + 1)], caseWorkOrders := [] } = .ok incidents) :
    Busy (n + 1) (db.withIncidents incidents) := by
  have hspec := recordIncidentCaseEvent_spec hrecorded
  have hmid : IncidentTables.Logged { db.incidents with
      cases := [openRow (n + 1)], caseWorkOrders := [] } := h.logged
  obtain ⟨hlogged,_,hlast⟩ := hmid.record hrecorded
  refine ⟨h.credentials,h.devices,fun _ => ?_,?_,hlogged,hlast.trans (congrArg (· + 1) h.last),
    fun row hrow => ?_,h.numbered⟩
  · rw [ControlTables.withIncidents, hspec]
  · rw [ControlTables.withIncidents, hspec]
  · rw [ControlTables.withIncidents, hspec] at hrow
    rcases List.mem_append.mp (List.mem_filter.mp hrow).1 with hold | hnew
    · exact h.events row hold
    · rw [List.mem_singleton] at hnew
      subst hnew
      obtain ⟨hcase,htime,hactor,hdetail⟩ := hevent
      exact ⟨hcase,by rw [show (nextEvent _ event).occurredAt = time from htime]; exact isRfc3339_time,
        hactor,hdetail⟩

theorem record_ok (db : IncidentTables) (hlast : db.lastEventSequence = n) (hn : n < 20000)
    (event : IncidentCaseEvent) : ∃ db', recordIncidentCaseEvent event db = .ok db' := by
  have hroom : db.lastEventSequence + 1 ≤ maxSafeInteger := by
    rw [hlast, maxSafeInteger]
    omega
  exact ⟨_,by rw [recordIncidentCaseEvent, require, if_pos hroom]; rfl⟩

theorem incidentCase_openRow {db : IncidentTables} (h : db.cases = [openRow n]) :
    db.incidentCase caseName = some (openRow n) := by
  rw [incidentCase, h]
  rfl

theorem Busy.toggled (h : Busy (n + 1) db) (hn : n + 1 < 20000) :
    Busy (n + 2) (db.perform (.update (toggle (n + 1)))) := by
  obtain ⟨hcase,_,hadmin,_⟩ := identifiers
  have hcases : db.incidents.cases = [openRow (n + 1)] := h.cases (Nat.succ_ne_zero n)
  have hother : severityAfter (n + 1) ≠ severityAfter (n + 2) := by
    rw [severityAfter, severityAfter]
    split_ifs <;> first | omega | decide
  have hvalid : validateIncidentCaseUpdate (toggle (n + 1)) = .ok () := by
    simp [validateIncidentCaseUpdate, toggle, require_eq_ok, hcase, hadmin, isRfc3339_time, isSha256_zero]
  have hupdated : db.incidents.cases.map (toggle (n + 1)).updated = [openRow (n + 2)] := by
    rw [hcases, List.map_singleton, UpdateIncidentCaseInput.updated, dif_pos ⟨rfl,rfl⟩]
    rfl
  obtain ⟨incidents,hrecorded⟩ := record_ok { db.incidents with
      cases := [openRow (n + 2)], caseWorkOrders := [] } h.last hn
    ⟨caseName,time,.updated,.credential,admin,.opened,digits '0'⟩
  have hspec := recordIncidentCaseEvent_spec hrecorded
  have hrequired : incidents.requiredIncidentCase caseName = .ok ⟨openRow (n + 2),[]⟩ := by
    rw [requiredIncidentCase, incidentCase_openRow (by rw [hspec]), okOr_some, ok_bind]
    exact mapIncidentCase_openRow (n + 2) (by rw [hspec])
  have hcall : updateIncidentCase (toggle (n + 1)) db.incidents =
      .ok (some ⟨⟨openRow (n + 2),[]⟩,false⟩,incidents) := by
    rw [updateIncidentCase, hvalid, ok_bind, show (toggle (n + 1)).caseId = caseName from rfl,
      incidentCase_openRow hcases]
    simp only [hupdated]
    rw [require, if_pos (show (openRow (n + 1)).status ≠ .closed from fun hs => by cases hs), ok_bind,
      if_neg (fun hsame => hother hsame.1), show db.incidents.caseWorkOrders = [] from h.links]
    exact bind_ok_iff.mpr ⟨incidents,hrecorded,bind_ok_iff.mpr ⟨_,hrequired,rfl⟩⟩
  change Busy (n + 2) (db.withIncidents ((updateIncidentCase _).call db.incidents).2)
  rw [Transaction.call_ok hcall]
  exact h.recorded ⟨rfl,rfl,rfl,rfl⟩ hrecorded

def start : ControlTables := .start ((∅ : Table (Option String)).insert device none) [admin] []

theorem busy_start : Busy 0 start := by
  refine ⟨rfl,?_,fun h => absurd rfl h,rfl,retained_nil,rfl,fun _ h => (by cases h),rfl⟩
  rw [start, ControlTables.start, WorkOrderTables.start, Std.ExtTreeMap.mem_keys]
  exact Std.ExtTreeMap.mem_insert_self

theorem busy_opening : Busy 1 (start.perform (.create opening)) := by
  obtain ⟨hcase,hrequest,hadmin,hdevice⟩ := identifiers
  have hvalid : validateIncidentCaseCreate opening = .ok () := by
    simp [validateIncidentCaseCreate, opening, require_eq_ok, hcase, hrequest,
      hadmin, hdevice, isRfc3339_time, isSha256_zero]
  obtain ⟨incidents,hrecorded⟩ := record_ok { start.incidents with
      cases := [openRow (0 + 1)], caseWorkOrders := [] } rfl (by decide : 0 < 20000)
    ⟨caseName,time,.created,.credential,admin,.opened,digits '0'⟩
  have hspec := recordIncidentCaseEvent_spec hrecorded
  have hrequired : incidents.requiredIncidentCase caseName = .ok ⟨openRow 1,[]⟩ := by
    rw [requiredIncidentCase, incidentCase_openRow (by rw [hspec]), okOr_some, ok_bind]
    exact mapIncidentCase_openRow 1 (by rw [hspec])
  have hcall : createIncidentCase start.orders.devices.keys start.assets opening start.incidents =
      .ok (⟨⟨openRow 1,[]⟩,false⟩,incidents) := by
    rw [createIncidentCase, hvalid, ok_bind]
    refine require_bind_eq_ok.mpr ⟨by decide,require_bind_eq_ok.mpr ⟨rfl,require_bind_eq_ok.mpr
      ⟨⟨busy_start.devices,by simp [opening],List.mem_singleton_self _⟩,?_⟩⟩⟩
    exact bind_ok_iff.mpr ⟨incidents,hrecorded,bind_ok_iff.mpr ⟨_,hrequired,rfl⟩⟩
  change Busy 1 (start.withIncidents ((createIncidentCase _ _ _).call start.incidents).2)
  rw [Transaction.call_ok hcall]
  exact busy_start.recorded ⟨rfl,rfl,rfl,rfl⟩ hrecorded

def busyCalls (n : Nat) : List CaseCall :=
  .create opening :: (List.range n).map fun i => .update (toggle (i + 1))

theorem busy_play (n : Nat) (hn : n < 20000) : Busy (n + 1) (start.play (busyCalls n)) := by
  induction n with
  | zero => exact busy_opening
  | succ n ih =>
    have hstep := (ih (by omega)).toggled hn
    rw [busyCalls, List.range_succ, List.map_append, List.map_singleton, ← List.cons_append,
      ControlTables.play, List.foldl_append]
    exact hstep

def closing : CloseRequest := ⟨caseName,.resolved,admin,time⟩

def sealing : IncidentCaseClosureMaterial := ⟨digits 'a',digits 'a',"receipt"⟩

theorem mapM_self {ε α : Type} {f : α → Except ε α} {l : List α} (h : ∀ a ∈ l, f a = .ok a) :
    l.mapM f = .ok l := by
  induction l with
  | nil => rfl
  | cons a l ih =>
    rw [List.forall_mem_cons] at h
    rw [List.mapM_cons, h.1, ok_bind, ih h.2]
    rfl

theorem Busy.timeline (h : Busy n db) (hn : n < 20000) :
    db.incidents.eventsOf caseName = db.caseEvents ∧ db.caseEvents.length = n ∧
      db.incidents.listIncidentCaseEvents caseName =
        .ok (db.caseEvents.take maxListedIncidentEvents) := by
  have hall : db.incidents.eventsOf caseName = db.caseEvents := by
    refine List.filter_eq_self.mpr fun event hevent => ?_
    simpa using (h.events event hevent).1
  have hretained : Retained IncidentCaseEventRow.sequence maxIncidentEventsPerTenant n db.caseEvents := by
    have hlogged := h.logged
    rw [IncidentTables.Logged, h.last] at hlogged
    exact hlogged
  have hlength : db.caseEvents.length = n := hretained.length (by rw [maxIncidentEventsPerTenant]; omega)
  have hsorted : (db.incidents.eventsOf caseName).insertionSort (fun a b => a.sequence ≤ b.sequence) =
      db.caseEvents := by
    rw [hall]
    exact List.Pairwise.insertionSort_eq (hretained.ascending.imp fun hlt => Nat.le_of_lt hlt)
  refine ⟨hall,hlength,?_⟩
  rw [listIncidentCaseEvents]
  change (((db.incidents.eventsOf caseName).insertionSort fun a b => a.sequence ≤ b.sequence).take
    _).mapM _ = _
  rw [hsorted]
  refine mapM_self fun event hevent => ?_
  have hmem := List.mem_of_mem_take hevent
  obtain ⟨hcase,htime,hactor,hdetail⟩ := h.events event hmem
  obtain ⟨hpositive,hle⟩ := hretained.number_mem hmem
  obtain ⟨hcaseName,_,hadmin,_⟩ := identifiers
  rw [mapIncidentCaseEvent, require, if_pos]
  · rfl
  · rw [hcase, hactor, hdetail]
    exact ⟨by rw [maxSafeInteger]; omega,hpositive,hcaseName,htime,hadmin,isSha256_zero⟩

theorem closedRow_valid (n : Nat) : validateIncidentCaseRow
    (closing.input.closed sealing (openRow n)) = .ok () := by
  obtain ⟨hcase,hrequest,hadmin,hdevice⟩ := identifiers
  have hsealed : isSha256 (digits 'a') = true := isSha256_digits (by decide)
  simp [validateIncidentCaseRow, closed, openRow, closing, CloseRequest.input, sealing,
    CloseRequestDigest.closeRequestSha256, outcomeDigit, require_eq_ok, hcase, hrequest, hadmin, hdevice,
    isRfc3339_time, isSha256_zero, hsealed]

theorem signed (timeline : List IncidentCaseEventRow) (n : Nat) (hlength : timeline.length ≤ 512) :
    buildIncidentClosure closing.input.outcome closing.input.closedAt closing.input.requestSha256 1
      ⟨openRow n,[]⟩ timeline = .ok sealing := by
  have htimeline : timelineSha256 timeline = digits 'a' := by
    change digits (if timeline.length ≤ 512 then 'a' else 'b') = _
    rw [if_pos hlength]
  rw [buildIncidentClosure]
  simp only [htimeline]
  rfl

theorem sealing_valid : validateIncidentCaseClosureMaterial sealing = .ok () := by
  refine require_eq_ok.mpr ⟨isSha256_digits (by decide),rfl,?_⟩
  decide +kernel

/-- The case is closed, and the answer is its report. -/
theorem Busy.closed (h : Busy n db) (hopen : n ≠ 0) (hn : n < 20000) :
    (closing.send db).1 = .ok (some ⟨200,digits 'a',"receipt"⟩) ∧
      (closing.send db).2.incidents.incidentCase caseName =
        some (closing.input.closed sealing (openRow n)) := by
  obtain ⟨_,_,hlist⟩ := h.timeline hn
  obtain ⟨hcase,_,hadmin,_⟩ := identifiers
  have hvalid : validateIncidentCaseClose closing.input = .ok () := by
    refine require_eq_ok.mpr ⟨hcase,hadmin,isRfc3339_time,isSha256_zero⟩
  have hfound : db.incidents.incidentCase caseName = some (openRow n) :=
    incidentCase_openRow (h.cases hopen)
  have hsync : syncIncidentCaseWorkOrders caseName time db.incidents = .ok db.incidents := by
    rw [syncIncidentCaseWorkOrders, hfound]
    simp only [show (openRow n).status ≠ .closed from nofun, if_false, linksOf,
      show db.incidents.caseWorkOrders = [] from h.links]
    rfl
  obtain ⟨incidents,hrecorded⟩ := record_ok { db.incidents with
      cases := db.incidents.cases.map fun row =>
        if row.caseId = caseName ∧ row.status ≠ .closed then closing.input.closed sealing row else row }
          h.last hn
    ⟨caseName,time,.closed,.credential,admin,.closed,digits 'a'⟩
  have hspec := recordIncidentCaseEvent_spec hrecorded
  have hclosed : incidents.incidentCase caseName = some (closing.input.closed sealing (openRow n)) := by
    rw [hspec, incidentCase, show db.incidents.cases = [openRow n] from h.cases hopen]
    rfl
  have hwritten : closing.input.write sealing 1 (openRow n) db.fleet = .ok ⟨{ db.fleet.receipts with
      checkpoints := db.fleet.receipts.checkpoints.insert device ⟨1,time⟩ },incidents⟩ := by
    refine require_bind_eq_ok.mpr ⟨h.devices,
      require_bind_eq_ok.mpr ⟨?_,bind_ok_iff.mpr ⟨_,hrecorded,rfl⟩⟩⟩
    change admin ∈ db.orders.credentials
    rw [h.credentials]
    exact List.mem_singleton_self _
  have hrequired : incidents.requiredIncidentCase caseName =
      .ok ⟨closing.input.closed sealing (openRow n),[]⟩ := by
    rw [requiredIncidentCase, hclosed, okOr_some, ok_bind, mapIncidentCase,
      closedRow_valid, ok_bind, linksOf, hspec,
      show db.incidents.caseWorkOrders = [] from h.links]
    rfl
  have hnumber : db.fleet.receipts.nextSequence device = .ok 1 := by
    rw [ReceiptTables.nextSequence, ReceiptTables.lastSequence,
      show db.fleet.receipts.checkpoints = ∅ from h.numbered]
    rfl
  have hcommit : closing.input.commit db.fleet =
    .ok (some ⟨⟨closing.input.closed sealing (openRow n),[]⟩,false⟩,
      ⟨{ db.fleet.receipts with
        checkpoints := db.fleet.receipts.checkpoints.insert device ⟨1,time⟩ },incidents⟩) := by
    rw [commit, closeIncidentCase]
    refine bind_ok_iff.mpr ⟨(),hvalid,bind_ok_iff.mpr ⟨db.incidents,hsync,?_⟩⟩
    simp only [show db.incidents.incidentCase closing.input.caseId = some (openRow n) from hfound,
      show (openRow n).closure = none from rfl]
    refine bind_ok_iff.mpr ⟨1,hnumber,bind_ok_iff.mpr ⟨_,mapIncidentCase_openRow n h.links,
      bind_ok_iff.mpr ⟨_,hlist,bind_ok_iff.mpr ⟨_,signed _ n ?_,bind_ok_iff.mpr ⟨(),sealing_valid,
        bind_ok_iff.mpr ⟨_,hwritten,bind_ok_iff.mpr ⟨_,hrequired,rfl⟩⟩⟩⟩⟩⟩⟩
    exact List.length_take_le _ _
  rw [CloseRequest.send, send, Transaction.call_ok hcommit]
  exact ⟨rfl,hclosed⟩

/-- A case with one event is closed. The same request gets its report again, another outcome is
refused. -/
theorem closed_case_answers_again :
    let db := (closing.send (start.play (busyCalls 0))).2
    closing.send db = (.ok (some ⟨200,digits 'a',"receipt"⟩),db) ∧
      CloseRequest.send { closing with outcome := .mitigated } db = (.error .incidentCaseState,db) := by
  obtain ⟨hcase,_,hadmin,_⟩ := identifiers
  have hvalid : ∀ outcome, validateIncidentCaseClose
      (CloseRequest.input { closing with outcome }) = .ok () :=
    fun outcome => require_eq_ok.mpr ⟨hcase,hadmin,isRfc3339_time,
      isSha256_digits (by cases outcome <;> decide)⟩
  have hanswer := ((busy_play 0 (by decide)).closed (by decide) (by decide)).1
  have hagain := (closed_cases_stay_sealed ((∅ : Table (Option String)).insert device none) [admin] []
    (busyCalls 0)).2.2 closing _ hanswer []
  exact ⟨(hagain closing rfl (hvalid .resolved)).1 rfl,
    (hagain { closing with outcome := .mitigated } rfl (hvalid .mitigated)).2 (by decide)⟩

theorem Busy.cut (h : Busy 513 db) :
    db.incidents.lastEventSequence = 513 ∧ (db.incidents.eventsOf caseName).length = 513 ∧
      ∃ row closure, (db.perform (.close closing)).incidents.incidentCase caseName = some row ∧
        row.closure = some closure ∧ ∀ report, canonicalReport report = some closure.reportJson →
          report.timelineSha256 ≠ timelineSha256 (db.incidents.eventsOf caseName) := by
  obtain ⟨hevents,hlength,_⟩ := h.timeline (by decide)
  refine ⟨h.last,by rw [hevents, hlength],closing.input.closed sealing (openRow 513),_,
    (h.closed (by decide) (by decide)).2,rfl,fun report hreport => ?_⟩
  have hreport' : report.timelineSha256 = digits 'a' := Option.some.inj hreport
  have hdigest : timelineSha256 (db.incidents.eventsOf caseName) = digits 'b' := by
    change digits (if (db.incidents.eventsOf caseName).length ≤ 512 then 'a' else 'b') = _
    rw [hevents, hlength, if_neg (by decide)]
  rw [hreport', hdigest, ne_eq, digits_inj]
  decide

/-- A case with 513 events, none of which was dropped, is closed with a report whose timeline digest is
not that of its events. -/
theorem long_timeline_is_cut :
    let db := start.play (busyCalls 512)
    db.incidents.lastEventSequence = 513 ∧ (db.incidents.eventsOf caseName).length = 513 ∧
      ∃ row closure, (db.perform (.close closing)).incidents.incidentCase caseName = some row ∧
        row.closure = some closure ∧ ∀ report, canonicalReport report = some closure.reportJson →
          report.timelineSha256 ≠ timelineSha256 (db.incidents.eventsOf caseName) :=
  (busy_play 512 (by decide)).cut

end CaseSample

end KernAid.Fleet
