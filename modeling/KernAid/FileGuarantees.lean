import KernAid.CrashAtomicity

/-! The backup files: every change to one follows the intent that allows it. -/

set_option autoImplicit false

namespace KernAid.RepairStore

open Encoding CrashLogic Protocol Program

section Files

variable [Sha256Hasher] {s : RecoveredState} {id : ReservationId}

omit [Sha256Hasher] in
theorem FileIntent.of_clock {before ticked : RecoveredState} {event : RepairEvent}
    (h : FileIntent ticked id event s)
    (hticked : ticked = { before with logicalEventClock := ticked.logicalEventClock }) :
    ∃ s', FileIntent before id event s' ∧ s'.reservations = s.reservations ∧
      s.transactions = before.transactions := by
  have hactive : ticked.reservations = before.reservations := by rw [hticked]
  have htransactions : ticked.transactions = before.transactions := by rw [hticked]
  cases h with
  | reserve hnew hphase =>
    exact ⟨_,.reserve (hactive ▸ hnew) hphase,by simp only [hactive],htransactions⟩
  | persist hrecord hphase =>
    exact ⟨_,.persist (hactive ▸ hrecord) hphase,by simp only [RecoveredState.setPhase, hactive],
      htransactions⟩
  | cancel hrecord hphase =>
    exact ⟨_,.cancel (hactive ▸ hrecord) hphase,by simp only [RecoveredState.setPhase, hactive],
      htransactions⟩
  | @retire _ _ r _ hrecord hphase ht hresolved hrollback =>
    exact ⟨_,.retire (r := r) (hactive ▸ hrecord) hphase (htransactions ▸ ht) hresolved hrollback,
      by simp only [RecoveredState.setPhase, hactive],htransactions⟩

/-- While the file of a reservation may change, the last event of the journal is the intent that
allows it. -/
theorem replay_fileIntent {journal : List RepairEvent} {record : ReservationRecord}
    (h : replay journal = .ok s) (hpending : s.pending = some id)
    (hrecord : s.reservations[id]? = some record) (hwaiting : record.phase.isSettled = false) :
    ∃ earlier event before s', journal = earlier ++ [event] ∧ replay earlier = .ok before ∧
      FileIntent before id event s' ∧ s'.reservations = s.reservations ∧
      s.transactions = before.transactions := by
  rcases List.eq_nil_or_concat journal with rfl | ⟨earlier,event,rfl⟩
  · rw [← Except.ok.inj h] at hpending
    cases hpending
  · rw [List.concat_eq_append, replay, replayFrom_append] at h
    obtain ⟨before,hbefore,h⟩ := bind_ok_iff.mp h
    rw [replayFrom] at h
    obtain ⟨s',happly,h⟩ := bind_ok_iff.mp h
    obtain rfl := Except.ok.inj h
    obtain ⟨ticked,htick,hdispatch⟩ := bind_ok_iff.mp happly
    have hinv := advanceClock_inv (replay_inv hbefore) htick
    obtain ⟨after,hintent,hactive,htransactions⟩ :=
      (dispatch_fileIntent hinv hdispatch hpending hrecord hwaiting).of_clock (advanceClock_eq htick)
    exact ⟨earlier,event,before,after,List.concat_eq_append,hbefore,hintent,hactive,htransactions⟩

variable [JournalChain] {vault : VaultIdentity} {allowed : System → Action → Prop} {system : System}
  {log : List (StorageStep × World)} {w : World} {a : StorageStep}

omit [JournalChain] in
theorem Live.pending_of_waiting {record : ReservationRecord} (h : Live vault w)
    (hrecord : w.store.state.reservations[id]? = some record)
    (hwaiting : record.phase.isSettled = false) : w.store.state.pending = some id := by
  have hcell := h.journal.inv.cells id
  generalize hc : w.store.state.cell id = c at hcell
  have hcrecord : c.record = some record := hc ▸ hrecord
  have hcpending : c.pending = (w.store.state.pending == some id) := hc ▸ rfl
  refine beq_iff_eq.mp (hcpending.symm.trans ?_)
  cases hcell <;> simp_all [ReservationPhase.isSettled]

theorem StepAllowed.waiting {excused : Prop} (h : StepAllowed excused w a)
    (htarget : a.target = some id) :
    ∃ record, w.store.state.reservations[id]? = some record ∧ a.mayChange record.phase = true := by
  unfold StepAllowed at h
  split at h <;> first | exact h id htarget | cases htarget

/-- The file of a reservation that has become durable is only ever unlinked, under the intent of its
retirement, which was recorded when its transaction and its rollback child were resolved. The file of a
reserved one is unlinked under the intent of its cancellation only. -/
theorem backup_files_follow_their_intents (hrun : Run vault allowed system log) (hmem : (a,w) ∈ log)
    (htarget : a.target = some id) :
    ∃ s earlier event before, replay w.disk.journal = .ok s ∧ w.disk.journal = earlier ++ [event] ∧
      replay earlier = .ok before ∧
      (∀ record b, before.reservations[id]? = some record → record.phase = .durable b →
        ∃ t, s.transactions[id]? = some t) ∧
      (∀ t, s.transactions[id]? = some t → a = .unlink id ∧ event = .retireIntent id ∧
        t.isUnresolved = false ∧ t.hasUnresolvedRollback = false ∧ before.transactions[id]? = some t) ∧
      ∀ record, before.reservations[id]? = some record → record.phase = .reserved → a = .unlink id →
        event = .cancelIntent id := by
  obtain ⟨_,hsteps⟩ := hrun.ok fun _ _ _ _ => True.intro
  obtain ⟨hlive,hallowed⟩ := hsteps _ hmem
  obtain ⟨record,hrecord,hchange⟩ := hallowed.waiting htarget
  have hwaiting := StorageStep.waiting_of_mayChange hchange
  have hpending := hlive.pending_of_waiting hrecord hwaiting
  have hinv := hlive.journal.inv
  obtain ⟨earlier,event,before,after,hjournal,hbefore,hintent,hactive,htransactions⟩ :=
    replay_fileIntent hlive.journal.replayed hpending hrecord hwaiting
  refine ⟨w.store.state,earlier,event,before,hlive.journal.replayed,hjournal,hbefore,?_⟩
  have hat := hactive ▸ hrecord
  cases hintent with
  | reserve hnew hphase =>
    rw [Std.ExtTreeMap.getElem?_insert_self, Option.some.injEq] at hat
    obtain ⟨_,hcell⟩ := (hinv.cells id).of_reservePending hrecord (hat ▸ hphase)
    have hnotx : w.store.state.transactions[id]? = none := congrArg Cell.transaction hcell
    simp [hnotx, hnew]
  | persist hr hreserved =>
    simp only [RecoveredState.setPhase, Std.ExtTreeMap.getElem?_insert_self, Option.some.injEq] at hat
    rw [← hat] at hchange
    obtain ⟨_,_,hcell⟩ := (hinv.cells id).of_persistPending hrecord (by rw [← hat])
    have hnotx : w.store.state.transactions[id]? = none := congrArg Cell.transaction hcell
    refine ⟨fun r b hr' hb => ?_,by simp [hnotx],fun _ _ _ hunlink => ?_⟩
    · rw [← Option.some.inj (hr.symm.trans hr'), hreserved] at hb
      cases hb
    · rw [hunlink] at hchange
      cases hchange
  | cancel hr hreserved =>
    simp only [RecoveredState.setPhase, Std.ExtTreeMap.getElem?_insert_self, Option.some.injEq] at hat
    obtain ⟨_,hcell⟩ := (hinv.cells id).of_cancelPending hrecord (by rw [← hat])
    have hnotx : w.store.state.transactions[id]? = none := congrArg Cell.transaction hcell
    refine ⟨fun r b hr' hb => ?_,by simp [hnotx],fun _ _ _ _ => rfl⟩
    rw [← Option.some.inj (hr.symm.trans hr'), hreserved] at hb
    cases hb
  | @retire durable b r t hr hdurable ht hresolved hrollback =>
    simp only [RecoveredState.setPhase, Std.ExtTreeMap.getElem?_insert_self, Option.some.injEq] at hat
    rw [← hat] at hchange
    have hunlink : a = .unlink id := by
      cases a <;> first | exact congrArg _ (Option.some.inj htarget) | cases hchange
    rw [← htransactions] at ht
    refine ⟨fun _ _ _ _ => ⟨t,ht⟩,fun t' ht' => ?_,fun r' hr' hreserved => ?_⟩
    · obtain rfl : t = t' := Option.some.inj (ht.symm.trans ht')
      exact ⟨hunlink,rfl,hresolved,hrollback,htransactions ▸ ht⟩
    · rw [← Option.some.inj (hr.symm.trans hr'), hdurable] at hreserved
      cases hreserved

end Files

namespace Sample

theorem cancel_unlinks : (runRequest cancel reserved).visits.any
    (fun v => v.1 matches .unlink _ && v.1.target == some reservationId) = true := by
  decide +kernel

end Sample

open Sample in
theorem backup_files_follow_their_intents_cancelled : ∃ system log w earlier event before,
    Run attestation.vault (fun _ _ => True) system log ∧ (.unlink reservationId,w) ∈ log ∧
      w.disk.journal = earlier ++ [event] ∧ replay earlier = .ok before ∧
      ∀ record, before.reservations[reservationId]? = some record → record.phase = .reserved →
        event = .cancelIntent reservationId := by
  obtain ⟨log,hlog⟩ := run_reserved
  obtain ⟨⟨a,w⟩,hmem,hunlink⟩ := List.any_eq_true.mp cancel_unlinks
  generalize reserved = session at hlog hmem
  obtain rfl : a = .unlink reservationId := by
    simp only [Bool.and_eq_true, beq_iff_eq] at hunlink
    cases a <;> first | exact congrArg _ (Option.some.inj hunlink.2) | cases hunlink.1
  have hrun := hlog.next trivial (request_answered session cancel)
  have hlogged := List.mem_append_right log hmem
  obtain ⟨s,earlier,event,before,_,hjournal,hbefore,_,_,hcancel⟩ :=
    backup_files_follow_their_intents hrun hlogged rfl
  exact ⟨_,_,w,earlier,event,before,hrun,hlogged,hjournal,hbefore,fun r hr hp => hcancel r hr hp rfl⟩

end KernAid.RepairStore
