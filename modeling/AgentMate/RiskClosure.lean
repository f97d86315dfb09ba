import AgentMate.Governance
import AgentMate.Rollback

/-! # Closing a risk -/

namespace AgentMate

open Interleaving TransitionSystem PlainText Rollback Table List Option

def GovernanceRow.isClosedRisk (row : GovernanceRow) : Prop :=
  row.recordType = "risk" ∧ row.fields.status = "closed"

instance (row : GovernanceRow) : Decidable row.isClosedRisk :=
  inferInstanceAs (Decidable (_ ∧ _))

/-- What a closed risk has to show. -/
structure ClosureEvidence (store : GovernanceStore) (record : GovernanceRow) : Prop where
  response : strip record.fields.response ≠ ""
  label : strip record.fields.evidenceLabel ≠ ""
  task : ∃ item acceptance, store.work.item? record.fields.workItemId = some item ∧
    item.projectId = record.projectId ∧ item.status = .done ∧
    store.work.acceptance? record.fields.workItemId = some acceptance ∧
    acceptance.runId = record.fields.runId

def EntersClosed (before after : GovernanceStore) (record : GovernanceRow) : Prop :=
  record ∈ after.records ∧ record.isClosedRisk ∧
    ∀ old ∈ before.records, old.id = record.id → ¬old.isClosedRisk

def ClosureReads.unpadded (reads : ClosureReads) : Bool :=
  decide (strippedText reads.workItemId = reads.workItemId.getD "") &&
    (decide (strippedText reads.runId = "") ||
      decide (strippedText reads.runId = reads.runId.getD ""))

/-- No record is created as a closed risk; and when an update closes a risk, the closure check
would read at the write what it has read before, with ids that have no blanks around them. -/
def careful (system : System GovernanceStore GovernanceTicket) :
    Event GovernanceRequest WorkItemInput → Bool
  | .call (.createRecord _ _ recordType fields) =>
    !decide (strip recordType = "risk" ∧ fields.status = "closed")
  | .resume index _ =>
    match system.pending[index]? with
    | some (.update recordId changes reads _) =>
      system.data.records.all fun row =>
        decide (row.id ≠ recordId ∨ row.recordType ≠ "risk" ∨ row.isClosedRisk ∨
          changes.status ≠ some (some "closed")) ||
        (decide (closureReads system.data.work row.projectId row.recordType
          (mergeFields row.fields changes) = reads) && reads.unpadded)
    | _ => true
  | _ => true

def GovernanceStore.Fresh (store : GovernanceStore) : Prop :=
  store.records = [] ∧ ∀ item ∈ store.work.items, ∀ recordId, item.source ≠ taskSource recordId

def governanceMachine (isDate : String → Bool) :
    Machine (System GovernanceStore GovernanceTicket) (Event GovernanceRequest WorkItemInput) where
  Initial system := system.data.Fresh ∧ system.pending = []
  Step system event after :=
    lockFree system event = true ∧ (governanceRoutine isDate).next system event = some after

section

variable {store : GovernanceStore} {recordId : String} {changes : GovernanceChanges} {now : Time}
  {row : GovernanceRow}

theorem mem_update_governance
    (mem : row ∈ (updateProjectGovernance store recordId changes now).records) :
    row ∈ store.records ∨
      ∃ old ∈ store.records, old.id = recordId ∧ row = old.assign changes now := by
  unfold updateProjectGovernance at mem
  split at mem
  · exact Or.inl mem
  · obtain ⟨old, listed, rfl⟩ := mem_update_where.mp mem
    split
    · next same => exact Or.inr ⟨old, listed, same, rfl⟩
    · exact Or.inl listed

@[simp] theorem update_governance_work :
    (updateProjectGovernance store recordId changes now).work = store.work := by
  unfold updateProjectGovernance
  split <;> rfl

@[simp] theorem update_governance_issued :
    (updateProjectGovernance store recordId changes now).issued = store.issued := by
  unfold updateProjectGovernance
  split <;> rfl

theorem assign_closed (closed : (row.assign changes now).isClosedRisk) :
    row.isClosedRisk ∨ (row.recordType = "risk" ∧ changes.status = some (some "closed")) := by
  obtain ⟨risk, status⟩ := closed
  cases written : changes.status with
  | none =>
    simp only [GovernanceRow.assign, GovernanceFields.zipWith, written] at status
    exact Or.inl ⟨risk, status⟩
  | some value =>
    cases value with
    | none =>
      simp only [GovernanceRow.assign, GovernanceFields.zipWith, written] at status
      exact Or.inl ⟨risk, status⟩
    | some text =>
      simp only [GovernanceRow.assign, GovernanceFields.zipWith, written] at status
      exact Or.inr ⟨risk, by rw [← status]; rfl⟩

theorem stored_of_merged {old : String} {change : Option (Option String)}
    (filled : strippedText (change.getD (some old)) ≠ "") :
    change.getD (some old) = some (change.join.getD old) := by
  cases change with
  | none => rfl
  | some value =>
    cases value with
    | none => exact absurd rfl filled
    | some text => rfl

end

structure ClosureReads.Passed (reads : ClosureReads) (run : String) : Prop where
  response : strippedText reads.response ≠ ""
  workItem : strippedText reads.workItemId ≠ ""
  item : reads.item = some (reads.projectId, .done)
  acceptance : reads.acceptance = some run
  label : strippedText reads.evidenceLabel ≠ ""
  run : strippedText reads.runId = "" ∨ strippedText reads.runId = run

theorem validate_closure_passed {reads : ClosureReads} {acceptance : Option String}
    (closes : reads.closes) (passed : validateRiskClosure reads = .ok acceptance) :
    ∃ run, acceptance = some run ∧ reads.Passed run := by
  unfold validateRiskClosure at passed
  rw [if_neg (not_not.mpr closes)] at passed
  split at passed
  · cases passed
  next response =>
  split at passed
  · cases passed
  next workItem =>
  split at passed
  · cases passed
  next item found =>
  split at passed
  · cases passed
  next own =>
  split at passed
  · cases passed
  next run accepted =>
  split at passed
  · cases passed
  next done =>
  split at passed
  · cases passed
  next label =>
  split at passed
  · cases passed
  next matching_run =>
  refine ⟨run, (Except.ok.inj passed).symm, response, workItem, ?_, accepted, label, ?_⟩
  · rw [found, ← not_not.mp own, ← not_not.mp done]
  · by_cases blank : strippedText reads.runId = ""
    · exact Or.inl blank
    · exact Or.inr (not_not.mp fun other => matching_run ⟨blank, other⟩)

theorem written_evidence {store : GovernanceStore} {old : GovernanceRow}
    {changes : GovernanceChanges} {now : Time} {run : String} {reads : ClosureReads}
    (same : closureReads store.work old.projectId old.recordType (mergeFields old.fields changes) =
      reads)
    (passed : reads.Passed run) (unpadded : reads.unpadded = true) {added : Option String}
    (adds : added = if strippedText reads.runId = "" then some run else none) :
    ClosureEvidence store (old.assign (writtenChanges changes added) now) := by
  subst same
  obtain ⟨response, workItem, item, acceptance, label, ran⟩ := passed
  simp only [ClosureReads.unpadded, Bool.and_eq_true, Bool.or_eq_true, decide_eq_true_eq]
    at unpadded
  have responseStored := stored_of_merged response
  have labelStored := stored_of_merged label
  have workItemStored : strippedText (mergeFields old.fields changes).workItemId =
      changes.workItemId.join.getD old.fields.workItemId := by
    have stored := stored_of_merged workItem
    exact unpadded.1.trans (congrArg (fun value => value.getD "") stored)
  rw [closureReads] at item acceptance
  dsimp only at item acceptance
  rw [workItemStored, map_eq_some_iff] at item acceptance
  obtain ⟨task, found, read⟩ := item
  obtain ⟨accepted, listed, accepted_run⟩ := acceptance
  constructor
  · intro blank
    apply response
    exact (congrArg strippedText responseStored).trans blank
  · intro blank
    apply label
    exact (congrArg strippedText labelStored).trans blank
  · refine ⟨task, accepted, found, congrArg Prod.fst read, congrArg Prod.snd read, listed, ?_⟩
    rw [accepted_run]
    by_cases blank : strippedText (mergeFields old.fields changes).runId = ""
    · have put : added = some run := adds.trans (if_pos blank)
      rw [put]
      rfl
    · have stored := stored_of_merged blank
      have own := (unpadded.2.resolve_left blank).symm.trans (ran.resolve_left blank)
      have kept : added = none := adds.trans (if_neg blank)
      rw [kept]
      exact own.symm.trans (congrArg (fun value => value.getD "") stored)

def WorkItemRow.origin (row : WorkItemRow) : String × String := (row.projectId, row.source)

def GovernanceRow.place (row : GovernanceRow) : String × String := (row.id, row.projectId)

structure LedgerInv (store : GovernanceStore) : Prop where
  known : ∀ row ∈ store.records, row.id ∈ store.issued
  unique : UniqueKey GovernanceRow.id store.records
  single : ∀ recordId, (store.work.items.map WorkItemRow.source).count (taskSource recordId) ≤ 1
  owned : ∀ origin ∈ store.work.items.map WorkItemRow.origin, ∀ recordId,
    origin.2 = taskSource recordId → recordId ∈ store.issued ∧
      ∀ row ∈ store.records, row.id = recordId → row.projectId = origin.1

/-- A pending write of the work items creates none and moves none to another source. -/
def KeepsSources : WorkItemTicket → Prop
  | .create _ => False
  | .update _ _ changes => changes.source = none
  | _ => True

def LedgerReady (store : GovernanceStore) : GovernanceTicket → Prop
  | .insert _ _ recordType fields => ¬(recordType = "risk" ∧ fields.status = "closed")
  | .createTask recordId draft => draft.source = taskSource recordId ∧ recordId ∈ store.issued ∧
      (∀ row ∈ store.records, row.id = recordId → row.projectId = draft.projectId) ∧
      taskSource recordId ∉ store.work.items.map WorkItemRow.source
  | .update _ _ reads added => reads.closes → ∃ run, reads.Passed run ∧
      added = if strippedText reads.runId = "" then some run else none
  | .work ticket => KeepsSources ticket
  | .setStatus _ _ ticket _ => KeepsSources ticket
  | _ => True

/-- What every step but the creation of a task does to the ledger. -/
structure LedgerFrame (store next : GovernanceStore) : Prop where
  issued : ∀ recordId ∈ store.issued, recordId ∈ next.issued
  known : ∀ row ∈ next.records, row.id ∈ next.issued
  unique : UniqueKey GovernanceRow.id next.records
  records : ∀ row ∈ next.records, row.id ∈ store.issued →
    ∃ old ∈ store.records, old.id = row.id ∧ old.projectId = row.projectId
  items : (next.work.items.map WorkItemRow.origin).Sublist (store.work.items.map WorkItemRow.origin)

variable {store next : GovernanceStore}

theorem sources_sublist (frame : LedgerFrame store next) :
    (next.work.items.map WorkItemRow.source).Sublist (store.work.items.map WorkItemRow.source) := by
  have sources := frame.items.map Prod.snd
  simp only [List.map_map] at sources
  exact sources

theorem frame_inv (inv : LedgerInv store) (frame : LedgerFrame store next) : LedgerInv next := by
  constructor
  · exact frame.known
  · exact frame.unique
  · intro recordId
    exact ((sources_sublist frame).count_le _).trans (inv.single recordId)
  · intro origin mem recordId source
    obtain ⟨listed, own⟩ := inv.owned origin (frame.items.subset mem) recordId source
    refine ⟨frame.issued recordId listed, ?_⟩
    intro row rowMem same
    obtain ⟨old, oldMem, oldId, project⟩ := frame.records row rowMem (same ▸ listed)
    rw [← project]
    exact own old oldMem (oldId.trans same)

theorem frame_ready (frame : LedgerFrame store next) {ticket : GovernanceTicket}
    (ready : LedgerReady store ticket) : LedgerReady next ticket := by
  cases ticket with
  | createTask recordId draft =>
    obtain ⟨source, listed, own, absent⟩ := ready
    refine ⟨source, frame.issued recordId listed, ?_, ?_⟩
    · intro row mem same
      obtain ⟨old, oldMem, oldId, project⟩ := frame.records row mem (same ▸ listed)
      rw [← project]
      exact own old oldMem (oldId.trans same)
    · intro mem
      exact absent ((sources_sublist frame).subset mem)
  | _ => exact ready

theorem frame_rows (inv : LedgerInv store) (issued : next.issued = store.issued)
    (rows : (next.records.map GovernanceRow.place).Sublist (store.records.map GovernanceRow.place))
    (items : (next.work.items.map WorkItemRow.origin).Sublist
      (store.work.items.map WorkItemRow.origin)) : LedgerFrame store next := by
  have old : ∀ row ∈ next.records,
      ∃ old ∈ store.records, old.id = row.id ∧ old.projectId = row.projectId := by
    intro row mem
    have placed := rows.subset (List.mem_map_of_mem mem)
    obtain ⟨before, listed, same⟩ := List.mem_map.mp placed
    exact ⟨before, listed, congrArg Prod.fst same, congrArg Prod.snd same⟩
  constructor
  · intro recordId listed
    rwa [issued]
  · intro row mem
    obtain ⟨before, listed, same, -⟩ := old row mem
    rw [issued, ← same]
    exact inv.known before listed
  · have ids := rows.map Prod.fst
    simp only [List.map_map] at ids
    exact inv.unique.sublist ids
  · intro row mem _
    exact old row mem
  · exact items

theorem frame_refl (inv : LedgerInv store) : LedgerFrame store store :=
  frame_rows inv rfl (List.Sublist.refl _) (List.Sublist.refl _)

theorem frame_update (inv : LedgerInv store) {recordId : String} {changes : GovernanceChanges}
    {now : Time} : LedgerFrame store (updateProjectGovernance store recordId changes now) := by
  apply frame_rows inv update_governance_issued
  · unfold updateProjectGovernance
    split
    · exact List.Sublist.refl _
    · have same : (updateWhere (fun row => row.id = recordId)
          (GovernanceRow.assign changes now) store.records).map GovernanceRow.place =
            store.records.map GovernanceRow.place :=
        map_update_where GovernanceRow.place fun _ => rfl
      rw [← same]
  · rw [update_governance_work]

section

variable {work after : WorkItemStore}

theorem update_items_origins {chosen : WorkItemRow → Prop} [DecidablePred chosen]
    {assign : WorkItemRow → WorkItemRow} (same : ∀ row, (assign row).origin = row.origin) :
    (work.updateItems chosen assign).items.map WorkItemRow.origin =
      work.items.map WorkItemRow.origin :=
  map_update_where WorkItemRow.origin same

theorem accept_origins {delivery : Delivery} {now : Time}
    (accepted : acceptWorkItemDelivery work delivery now = .ok after) :
    after.items.map WorkItemRow.origin = work.items.map WorkItemRow.origin := by
  unfold acceptWorkItemDelivery at accepted
  split at accepted
  · cases accepted
  · split at accepted
    · split at accepted
      · cases accepted
      · cases accepted
        rfl
    · split at accepted
      · cases accepted
      · cases accepted
        exact update_items_origins fun _ => rfl

variable {workItemId : String}

theorem delete_item_origins {projectId : Option String} {now : Time} :
    ((deleteWorkItem work workItemId projectId now).items.map WorkItemRow.origin).Sublist
      (work.items.map WorkItemRow.origin) := by
  unfold deleteWorkItem
  cases projectId with
  | none => exact filter_sublist.map _
  | some projectId =>
    have parents : (work.updateItems
        (fun item => item.parentId = workItemId ∧ item.projectId = projectId)
        (fun item => { item with parentId := "", updatedAt := now })).items.map
          WorkItemRow.origin = work.items.map WorkItemRow.origin :=
      update_items_origins fun _ => rfl
    have dependencies : ∀ work : WorkItemStore, (work.updateItems
        (fun item => item.projectId = projectId ∧ item.id ≠ workItemId ∧
          workItemId ∈ item.dependencyIds)
        (fun item => { item with
          dependencyIds := item.dependencyIds.filter fun dep => dep ≠ workItemId
          updatedAt := now })).items.map WorkItemRow.origin = work.items.map WorkItemRow.origin :=
      fun _ => update_items_origins fun _ => rfl
    rw [← (dependencies _).trans parents]
    exact filter_sublist.map _

theorem set_status_ticket {projectId : String} {status : WorkItemStatus}
    {ticket : Option WorkItemTicket}
    (taken : callWorkItems strip work (.updateItem projectId workItemId (statusChange status)) =
      some (after, ticket)) : after = work ∧ ∀ own ∈ ticket, KeepsSources own := by
  rw [callWorkItems] at taken
  split at taken
  · next changes checked =>
    cases taken
    refine ⟨rfl, ?_⟩
    intro own mem
    rw [← mem_some_iff.mp mem]
    unfold checkUpdateItem at checked
    split at checked
    · cases checked
    · split at checked
      · cases checked
      · obtain ⟨refs, -, rest⟩ := bind_ok checked
        cases rest
        rfl
  · cases taken
    exact ⟨rfl, by simp⟩

theorem delete_item_ticket {projectId : String} {ticket : Option WorkItemTicket}
    (taken : callWorkItems strip work (.deleteItem projectId workItemId) =
      some (after, ticket)) : after = work ∧ ∀ own ∈ ticket, KeepsSources own := by
  rw [callWorkItems] at taken
  split at taken
  · cases taken
    refine ⟨rfl, ?_⟩
    intro own mem
    rw [← mem_some_iff.mp mem]
    trivial
  · cases taken
    exact ⟨rfl, by simp⟩

theorem resume_work_origins {ticket : WorkItemTicket} {input : WorkItemInput}
    {later : Option WorkItemTicket} (keeps : KeepsSources ticket)
    (taken : resumeWorkItems work ticket input = some (after, later)) :
    (after.items.map WorkItemRow.origin).Sublist (work.items.map WorkItemRow.origin) ∧
      ∀ own ∈ later, KeepsSources own := by
  cases ticket with
  | create draft => exact absurd keeps id
  | update projectId workItemId changes =>
    cases taken
    refine ⟨?_, by simp⟩
    have source : changes.source = none := keeps
    have same : ∀ row, (WorkItemRow.change changes input.now row).origin = row.origin := by
      intro row
      simp only [WorkItemRow.origin, WorkItemRow.change, source, getD_none]
    unfold updateWorkItem
    split
    · exact List.Sublist.refl _
    · rw [update_items_origins same]
  | findDeleted workItemId =>
    cases taken
    refine ⟨List.Sublist.refl _, ?_⟩
    intro own mem
    rw [← mem_some_iff.mp mem]
    trivial
  | deleteItem workItemId projectId =>
    cases taken
    exact ⟨delete_item_origins, by simp⟩
  | deleteMilestone milestoneId projectId =>
    cases taken
    refine ⟨?_, by simp⟩
    unfold deleteMilestone
    cases projectId with
    | none => exact List.Sublist.refl _
    | some projectId =>
      have same : (work.updateItems
          (fun item => item.milestoneId = milestoneId ∧ item.projectId = projectId)
          (fun item => { item with milestoneId := "" })).items.map WorkItemRow.origin =
            work.items.map WorkItemRow.origin := update_items_origins fun _ => rfl
      rw [← same]

end

section

variable {isDate : String → Bool} {ticket : Option GovernanceTicket}

variable {projectId : String}

theorem create_record_ready {actorId recordType : String} {fields : GovernanceFields String}
    (open_ : ¬(strip recordType = "risk" ∧ fields.status = "closed")) :
    ∀ own ∈ (refused store ((checkCreate store projectId (strip recordType) fields).map
      fun values => some (.insert projectId actorId (strip recordType) values))).2,
        LedgerReady store own := by
  cases checked : checkCreate store projectId (strip recordType) fields with
  | error error => simp [refused, Except.map]
  | ok values =>
    intro own mem
    rw [← mem_some_iff.mp mem]
    rintro ⟨risk, closed⟩
    unfold checkCreate at checked
    dsimp only at checked
    split at checked
    · cases checked
    · obtain ⟨-, -, rest⟩ := bind_ok checked
      obtain ⟨-, -, rest⟩ := bind_ok rest
      cases rest
      apply open_
      refine ⟨risk, ?_⟩
      simp only [defaultFields, if_pos risk] at closed
      split at closed
      · exact absurd closed (by decide)
      · exact closed

variable {recordId : String}

theorem update_record_ready {changes : GovernanceChanges} :
    ∀ own ∈ (refused store ((checkUpdate store projectId recordId changes).map some)).2,
      LedgerReady store own := by
  cases checked : checkUpdate store projectId recordId changes with
  | error error => simp [refused, Except.map]
  | ok made =>
    intro own mem
    rw [← mem_some_iff.mp mem]
    unfold checkUpdate at checked
    split at checked
    · cases checked
    next current found =>
    obtain ⟨stripped, -, rest⟩ := bind_ok checked
    obtain ⟨-, -, rest⟩ := bind_ok rest
    obtain ⟨-, -, rest⟩ := bind_ok rest
    obtain ⟨acceptance, passed, rest⟩ := bind_ok rest
    cases rest
    intro closes
    obtain ⟨run, rfl, facts⟩ := validate_closure_passed closes passed
    exact ⟨run, facts, rfl⟩

theorem action_task_ready (inv : LedgerInv store) {body : ActionTaskBody} :
    ∀ own ∈ (refused store (checkActionTask isDate store projectId recordId body)).2,
      LedgerReady store own := by
  cases checked : checkActionTask isDate store projectId recordId body with
  | error error => simp [refused]
  | ok made =>
    intro own mem
    have taken : made = some own := mem
    subst taken
    unfold checkActionTask at checked
    dsimp only at checked
    split at checked
    · cases checked
    split at checked
    · cases checked
    split at checked
    · cases checked
    next current found =>
    split at checked
    · cases checked
    split at checked
    · cases checked
    split at checked
    · cases checked
      trivial
    next none_yet =>
    cases checked
    obtain ⟨found, own⟩ := filter_eq_some_iff.mp found
    have project : current.projectId = projectId := of_decide_eq_true own
    have listed : current ∈ store.records := lookup_mem found
    have sameId : current.id = recordId := lookup_key found
    refine ⟨by rw [← sameId]; rfl, sameId ▸ inv.known current listed, ?_, ?_⟩
    · intro row rowMem same
      rw [unique_key_eq inv.unique rowMem listed (same.trans sameId.symm)]
      exact project
    · intro source
      obtain ⟨item, itemMem, from_⟩ := List.mem_map.mp source
      have place := (inv.owned item.origin (List.mem_map_of_mem itemMem) recordId from_).2
        current listed sameId
      have absent := find?_eq_none.mp none_yet item itemMem
      apply absent
      rw [decide_eq_true_eq]
      exact ⟨place.symm.trans project, from_⟩

theorem refused_taken {checked : Except WorkItemError (Option GovernanceTicket)}
    (taken : some (refused store checked) = some (next, ticket)) :
    store = next ∧ (refused store checked).2 = ticket := by
  have same := Option.some.inj taken
  refine ⟨?_, congrArg Prod.snd same⟩
  have first := congrArg Prod.fst same
  cases checked <;> exact first

theorem call_ledger (inv : LedgerInv store) {request : GovernanceRequest}
    {system : System GovernanceStore GovernanceTicket}
    (guarded : careful system (.call request) = true)
    (taken : callGovernance isDate store request = some (next, ticket)) :
    LedgerFrame store next ∧ ∀ own ∈ ticket, LedgerReady next own := by
  cases request with
  | createRecord projectId actorId recordType fields =>
    have open_ : ¬(strip recordType = "risk" ∧ fields.status = "closed") :=
      of_decide_eq_false ((Bool.not_eq_true' _).mp guarded)
    have ready := @create_record_ready store projectId actorId recordType fields open_
    obtain ⟨rfl, rfl⟩ := refused_taken taken
    exact ⟨frame_refl inv, ready⟩
  | createActionTask projectId recordId body =>
    have ready := @action_task_ready store isDate projectId recordId inv body
    obtain ⟨rfl, rfl⟩ := refused_taken taken
    exact ⟨frame_refl inv, ready⟩
  | updateRecord projectId recordId changes =>
    have ready := @update_record_ready store projectId recordId changes
    obtain ⟨rfl, rfl⟩ := refused_taken taken
    exact ⟨frame_refl inv, ready⟩
  | deleteRecord projectId recordId =>
    rw [callGovernance] at taken
    split at taken
    · cases taken
      refine ⟨frame_refl inv, ?_⟩
      intro own mem
      rw [← mem_some_iff.mp mem]
      trivial
    · cases taken
      exact ⟨frame_refl inv, by simp⟩
  | acceptItem delivery now =>
    rw [callGovernance] at taken
    split at taken
    · cases taken
      exact ⟨frame_refl inv, by simp⟩
    · next work accepted =>
      cases taken
      refine ⟨frame_rows inv rfl (List.Sublist.refl _) ?_, ?_⟩
      · rw [← accept_origins accepted]
      · intro own mem
        rw [← mem_some_iff.mp mem]
        trivial
  | setItemStatus projectId workItemId status =>
    obtain ⟨⟨work, made⟩, called, same⟩ := map_eq_some_iff.mp taken
    obtain ⟨kept, keeps⟩ := set_status_ticket called
    cases same
    subst kept
    refine ⟨frame_refl inv, ?_⟩
    intro own mem
    obtain ⟨inner, held, rfl⟩ := map_eq_some_iff.mp mem
    exact keeps inner held
  | deleteItem projectId workItemId =>
    obtain ⟨⟨work, made⟩, called, same⟩ := map_eq_some_iff.mp taken
    obtain ⟨kept, keeps⟩ := delete_item_ticket called
    cases same
    subst kept
    refine ⟨frame_refl inv, ?_⟩
    intro own mem
    obtain ⟨inner, held, rfl⟩ := map_eq_some_iff.mp mem
    exact keeps inner held

variable {input : WorkItemInput}

theorem create_task_ledger (inv : LedgerInv store) {draft : WorkItemDraft}
    (ready : LedgerReady store (.createTask recordId draft))
    (taken : resumeGovernance store (.createTask recordId draft) input = some (next, ticket)) :
    LedgerInv next ∧ ∀ own ∈ ticket, own = .linkTask recordId input.uuid := by
  obtain ⟨source, listed, own, absent⟩ := ready
  obtain ⟨⟨work, none_⟩, created, same⟩ := map_eq_some_iff.mp taken
  obtain ⟨-, made⟩ := ite_none_left_eq_some.mp created
  cases same
  cases made
  refine ⟨?_, by simp⟩
  constructor
  · exact inv.known
  · exact inv.unique
  · intro other
    have items : (createWorkItem store.work draft input.uuid input.now).items.map
        WorkItemRow.source = store.work.items.map WorkItemRow.source ++ [draft.source] := by
      rw [createWorkItem, map_append]
      rfl
    rw [items, count_append, source]
    by_cases here : taskSource recordId = taskSource other
    · rw [← here, count_eq_zero.mpr absent]
      simp
    · rw [count_singleton, if_neg (by simpa using here)]
      exact inv.single other
  · intro origin mem other from_
    have items : (createWorkItem store.work draft input.uuid input.now).items.map
        WorkItemRow.origin =
          store.work.items.map WorkItemRow.origin ++ [(draft.projectId, draft.source)] := by
      rw [createWorkItem, map_append]
      rfl
    rw [items] at mem
    rcases mem_append.mp mem with old | new
    · exact inv.owned origin old other from_
    · rw [mem_singleton] at new
      subst new
      have same : recordId = other := by
        have both : taskSource recordId = taskSource other := source.symm.trans from_
        exact String.append_right_inj "risk:" |>.mp both
      subst same
      exact ⟨listed, own⟩

variable {held : GovernanceTicket}

theorem resume_ledger (inv : LedgerInv store)
    (ready : LedgerReady store held) (plain : ∀ recordId draft, held ≠ .createTask recordId draft)
    (taken : resumeGovernance store held input = some (next, ticket)) :
    LedgerFrame store next ∧ ∀ own ∈ ticket, LedgerReady next own := by
  cases held with
  | createTask recordId draft => exact absurd rfl (plain recordId draft)
  | insert projectId actorId recordType fields =>
    obtain ⟨fresh, made⟩ := ite_none_left_eq_some.mp taken
    rw [not_or] at fresh
    cases made
    refine ⟨?_, by simp⟩
    constructor
    · intro recordId listed
      exact mem_append_left _ listed
    · intro row mem
      rcases mem_append.mp mem with old | new
      · exact mem_append_left _ (inv.known row old)
      · rw [mem_singleton.mp new]
        exact mem_append_right _ (mem_singleton.mpr rfl)
    · apply unique_key_append inv.unique
      intro other listed same
      have known := inv.known other listed
      rw [same] at known
      exact fresh.2 known
    · intro row mem listed
      rcases mem_append.mp mem with old | new
      · exact ⟨row, old, rfl, rfl⟩
      · rw [mem_singleton.mp new] at listed
        exact absurd listed fresh.2
    · exact List.Sublist.refl _
  | linkTask recordId workItemId =>
    cases taken
    exact ⟨frame_update inv, by simp⟩
  | update recordId changes reads added =>
    cases taken
    exact ⟨frame_update inv, by simp⟩
  | delete recordId =>
    cases taken
    exact ⟨frame_rows inv rfl (filter_sublist.map _) (List.Sublist.refl _), by simp⟩
  | work inner =>
    obtain ⟨⟨work, later⟩, resumed, same⟩ := map_eq_some_iff.mp taken
    obtain ⟨items, keeps⟩ := resume_work_origins ready resumed
    cases same
    have rows : (recordsAfter store.records inner input.now).map GovernanceRow.place =
        store.records.map GovernanceRow.place := by
      unfold recordsAfter
      split
      · exact map_update_where GovernanceRow.place fun _ => rfl
      · rfl
    refine ⟨frame_rows inv rfl (by rw [← rows]) items, ?_⟩
    intro own mem
    obtain ⟨kept, held, rfl⟩ := map_eq_some_iff.mp mem
    exact keeps kept held
  | setStatus projectId workItemId inner status =>
    obtain ⟨⟨work, later⟩, resumed, same⟩ := map_eq_some_iff.mp taken
    obtain ⟨items, -⟩ := resume_work_origins ready resumed
    cases same
    refine ⟨frame_rows inv rfl (List.Sublist.refl _) items, ?_⟩
    intro own mem
    split at mem
    · rw [← mem_some_iff.mp mem]
      trivial
    · cases mem
  | findLinked projectId workItemId runId =>
    cases taken
    refine ⟨frame_refl inv, ?_⟩
    intro own mem
    rw [← mem_some_iff.mp mem]
    trivial
  | followItem recordIds runId =>
    cases recordIds with
    | nil =>
      cases taken
      exact ⟨frame_refl inv, by simp⟩
    | cons recordId rest =>
      cases taken
      refine ⟨frame_update inv, ?_⟩
      intro own mem
      rw [← mem_some_iff.mp mem]
      trivial

def lockOwner (ticket : GovernanceTicket) : Option Unit := if ticket.inLock then some () else none

theorem lock_owner_some {key : Unit} : lockOwner held = some key ↔ held.inLock = true := by
  simp [lockOwner]

theorem call_lock {request : GovernanceRequest} {own : GovernanceTicket}
    (taken : callGovernance isDate store request = some (next, some own))
    (locked : own.inLock = true) :
    ∃ projectId recordId body, request = .createActionTask projectId recordId body := by
  cases request with
  | createActionTask projectId recordId body => exact ⟨projectId, recordId, body, rfl⟩
  | createRecord projectId actorId recordType fields =>
    have made := (refused_taken taken).2
    cases checked : checkCreate store projectId (strip recordType) fields with
    | error error =>
      rw [checked] at made
      cases made
    | ok values =>
      rw [checked] at made
      cases made
      cases locked
  | updateRecord projectId recordId changes =>
    have made := (refused_taken taken).2
    cases checked : checkUpdate store projectId recordId changes with
    | error error =>
      rw [checked] at made
      cases made
    | ok update =>
      rw [checked] at made
      cases made
      unfold checkUpdate at checked
      split at checked
      · cases checked
      obtain ⟨_, -, rest⟩ := bind_ok checked
      obtain ⟨_, -, rest⟩ := bind_ok rest
      obtain ⟨_, -, rest⟩ := bind_ok rest
      obtain ⟨_, -, rest⟩ := bind_ok rest
      cases rest
      cases locked
  | deleteRecord projectId recordId =>
    rw [callGovernance] at taken
    split at taken
    · cases taken
      cases locked
    · cases taken
  | acceptItem delivery now =>
    rw [callGovernance] at taken
    split at taken
    · cases taken
    · cases taken
      cases locked
  | setItemStatus projectId workItemId status =>
    obtain ⟨after, -, same⟩ := map_eq_some_iff.mp taken
    obtain ⟨inner, -, rfl⟩ := map_eq_some_iff.mp (congrArg Prod.snd same)
    cases locked
  | deleteItem projectId workItemId =>
    obtain ⟨after, -, same⟩ := map_eq_some_iff.mp taken
    obtain ⟨inner, -, rfl⟩ := map_eq_some_iff.mp (congrArg Prod.snd same)
    cases locked

theorem resume_lock {own : GovernanceTicket}
    (taken : resumeGovernance store held input = some (next, some own))
    (locked : own.inLock = true) : held.inLock = true := by
  cases held with
  | createTask recordId draft => rfl
  | linkTask recordId workItemId => rfl
  | insert projectId actorId recordType fields =>
    obtain ⟨-, made⟩ := ite_none_left_eq_some.mp taken
    cases made
  | update recordId changes reads added => cases taken
  | delete recordId => cases taken
  | work inner =>
    obtain ⟨after, -, same⟩ := map_eq_some_iff.mp taken
    obtain ⟨later, -, rfl⟩ := map_eq_some_iff.mp (congrArg Prod.snd same)
    cases locked
  | setStatus projectId workItemId inner status =>
    obtain ⟨after, -, same⟩ := map_eq_some_iff.mp taken
    have made := congrArg Prod.snd same
    obtain ⟨-, made⟩ := ite_none_right_eq_some.mp made
    cases made
    cases locked
  | findLinked projectId workItemId runId =>
    cases taken
    cases locked
  | followItem recordIds runId =>
    cases recordIds with
    | nil => cases taken
    | cons recordId rest =>
      cases taken
      cases locked

end

section

variable {isDate : String → Bool} {system after : System GovernanceStore GovernanceTicket}
  {event : Event GovernanceRequest WorkItemInput}

/-- What the invariant proof uses of a step: the lock is held once, and the step is careful. -/
def LedgerGuard (system : System GovernanceStore GovernanceTicket)
    (event : Event GovernanceRequest WorkItemInput) : Prop :=
  Exclusive lockOwner system.pending ∧ careful system event = true

theorem ledger_keeps : Keeps (governanceRoutine isDate) LedgerGuard LedgerInv LedgerReady := by
  constructor
  · intro system request data ticket inv guarded taken
    obtain ⟨frame, own⟩ := call_ledger inv guarded.2 taken
    exact ⟨frame_inv inv frame, own, fun other _ ready => frame_ready frame ready⟩
  · intro system index input held data later inv ready guarded found taken
    by_cases creates : ∃ recordId draft, held = .createTask recordId draft
    · obtain ⟨recordId, draft, rfl⟩ := creates
      obtain ⟨kept, own⟩ := create_task_ledger inv ready taken
      refine ⟨kept, ?_, ?_⟩
      · intro ticket mem
        rw [own ticket mem]
        trivial
      · intro other mem otherReady
        have free := (exclusive_take guarded.1 found).2 () rfl other mem
        cases other with
        | createTask otherId otherDraft => exact absurd rfl free
        | _ => exact otherReady
    · obtain ⟨frame, own⟩ := resume_ledger inv ready
        (fun recordId draft same => creates ⟨recordId, draft, same⟩) taken
      exact ⟨frame_inv inv frame, own, fun other _ otherReady => frame_ready frame otherReady⟩

theorem lock_exclusive (exclusive : Exclusive lockOwner system.pending)
    (step : (governanceMachine isDate).Step system event after) :
    Exclusive lockOwner after.pending := by
  obtain ⟨free, taken⟩ := step
  cases next_move taken with
  | call request data ticket called =>
    apply exclusive_put exclusive
    intro own mem key owned other listed
    have locked := lock_owner_some.mp owned
    have made : ticket = some own := mem
    rw [made] at called
    obtain ⟨projectId, recordId, body, rfl⟩ := call_lock called locked
    have clear : ¬(system.pending.any GovernanceTicket.inLock) = true := by
      simpa [lockFree] using free
    intro same
    exact clear (List.any_eq_true.mpr ⟨other, listed, lock_owner_some.mp same⟩)
  | resume index input held data later found resumed =>
    obtain ⟨rest, others⟩ := exclusive_take exclusive found
    apply exclusive_put rest
    intro own mem key owned other listed
    have made : later = some own := mem
    rw [made] at resumed
    have locked := resume_lock resumed (lock_owner_some.mp owned)
    exact others key (lock_owner_some.mpr locked) other listed
  | crash index =>
    exact exclusive.sublist ((eraseIdx_sublist _ _).filterMap _)

theorem ledger_holds (reachable : (governanceMachine isDate).Reachable
      (fun system event => careful system event = true) system) :
    Holds LedgerInv LedgerReady system ∧ Exclusive lockOwner system.pending := by
  apply reachable_invariant
    (fun system => Holds LedgerInv LedgerReady system ∧ Exclusive lockOwner system.pending)
    ?_ ?_ reachable
  · intro start initial
    obtain ⟨⟨records, sources⟩, none_pending⟩ := initial
    refine ⟨⟨⟨?_, ?_, ?_, ?_⟩, ?_⟩, ?_⟩
    · simp [records]
    · simp [UniqueKey, records]
    · intro recordId
      rw [count_eq_zero.mpr]
      · exact Nat.zero_le 1
      · intro mem
        obtain ⟨item, listed, same⟩ := List.mem_map.mp mem
        exact sources item listed recordId same
    · intro origin mem recordId same
      obtain ⟨item, listed, rfl⟩ := List.mem_map.mp mem
      exact absurd same (sources item listed recordId)
    · simp [none_pending]
    · simp [Exclusive, none_pending]
  · intro state event next held guarded step
    exact ⟨move_holds ledger_keeps held.1 ⟨held.2, guarded⟩ (next_move step.2),
      lock_exclusive held.2 step⟩

theorem call_records {request : GovernanceRequest} {ticket : Option GovernanceTicket}
    (taken : callGovernance isDate store request = some (next, ticket)) :
    next.records = store.records := by
  cases request with
  | createRecord projectId actorId recordType fields => rw [← (refused_taken taken).1]
  | createActionTask projectId recordId body => rw [← (refused_taken taken).1]
  | updateRecord projectId recordId changes => rw [← (refused_taken taken).1]
  | deleteRecord projectId recordId =>
    rw [callGovernance] at taken
    split at taken <;> cases taken <;> rfl
  | acceptItem delivery now =>
    rw [callGovernance] at taken
    split at taken <;> cases taken <;> rfl
  | setItemStatus projectId workItemId status =>
    obtain ⟨work, -, same⟩ := map_eq_some_iff.mp taken
    cases same
    rfl
  | deleteItem projectId workItemId =>
    obtain ⟨work, -, same⟩ := map_eq_some_iff.mp taken
    cases same
    rfl

variable {record : GovernanceRow}

theorem enters_not_old {old : GovernanceRow} (enters : EntersClosed store next record)
    (mem : old ∈ store.records) (same : old.id = record.id) : ¬old.isClosedRisk :=
  enters.2.2 old mem same

variable {recordId : String} {changes : GovernanceChanges}

theorem update_not_entering {now : Time} (status : changes.status ≠ some (some "closed")) :
    ¬EntersClosed store (updateProjectGovernance store recordId changes now) record := by
  intro enters
  rcases mem_update_governance enters.1 with old | ⟨old, listed, -, rfl⟩
  · exact enters_not_old enters old rfl enters.2.1
  · rcases assign_closed enters.2.1 with closed | ⟨-, written⟩
    · exact enters_not_old enters listed rfl closed
    · exact status written

theorem update_entering {reads : ClosureReads} {added : Option String} {now : Time}
    (ready : LedgerReady store (.update recordId changes reads added))
    (unchanged : ∀ row ∈ store.records, row.id = recordId → row.recordType = "risk" →
      ¬row.isClosedRisk → changes.status = some (some "closed") →
      closureReads store.work row.projectId row.recordType (mergeFields row.fields changes) =
        reads ∧ reads.unpadded = true) (enters : EntersClosed store
      (updateProjectGovernance store recordId (writtenChanges changes added) now) record) :
    ClosureEvidence store record := by
  rcases mem_update_governance enters.1 with old | ⟨old, listed, sameId, rfl⟩
  · exact absurd enters.2.1 (enters_not_old enters old rfl)
  · have before : ¬old.isClosedRisk := enters_not_old enters listed rfl
    obtain ⟨risk, status⟩ := (assign_closed enters.2.1).resolve_left before
    obtain ⟨same, unpadded⟩ := unchanged old listed sameId risk before status
    have closes : reads.closes := by
      rw [← same]
      refine ⟨risk, ?_⟩
      have set : changes.status = some (some "closed") := status
      simp only [closureReads, mergeFields, GovernanceFields.zipWith, set, getD_some]
    obtain ⟨run, passed, adds⟩ := ready closes
    exact written_evidence same passed unpadded adds

theorem evidence_work (work : next.work = store.work)
    (evidence : ClosureEvidence store record) : ClosureEvidence next record := by
  obtain ⟨response, label, task⟩ := evidence
  refine ⟨response, label, ?_⟩
  rw [work]
  exact task

theorem resume_evidence {held : GovernanceTicket} {ticket : Option GovernanceTicket}
    {input : WorkItemInput} (ready : LedgerReady store held)
    (unchanged : ∀ recordId changes reads added, held = .update recordId changes reads added →
      ∀ row ∈ store.records, row.id = recordId → row.recordType = "risk" →
        ¬row.isClosedRisk → changes.status = some (some "closed") →
        closureReads store.work row.projectId row.recordType (mergeFields row.fields changes) =
          reads ∧ reads.unpadded = true)
    (taken : resumeGovernance store held input = some (next, ticket))
    (enters : EntersClosed store next record) : ClosureEvidence next record := by
  have stays (records : next.records = store.records) : ClosureEvidence next record := by
    have old : record ∈ store.records := by
      rw [← records]
      exact enters.1
    exact absurd enters.2.1 (enters_not_old enters old rfl)
  cases held with
  | update recordId changes reads added =>
    cases taken
    exact evidence_work update_governance_work
      (update_entering ready (unchanged recordId changes reads added rfl) enters)
  | insert projectId actorId recordType fields =>
    obtain ⟨-, made⟩ := ite_none_left_eq_some.mp taken
    cases made
    rcases mem_append.mp enters.1 with old | new
    · exact absurd enters.2.1 (enters_not_old enters old rfl)
    · have closed := enters.2.1
      rw [mem_singleton.mp new] at closed
      exact absurd closed ready
  | createTask recordId draft =>
    obtain ⟨work, -, same⟩ := map_eq_some_iff.mp taken
    cases same
    exact stays rfl
  | linkTask recordId workItemId =>
    cases taken
    exact absurd enters (update_not_entering (by simp [linkChanges, GovernanceFields.unset]))
  | delete recordId =>
    cases taken
    exact absurd enters.2.1 (enters_not_old enters (mem_of_mem_filter enters.1) rfl)
  | work inner =>
    obtain ⟨work, -, same⟩ := map_eq_some_iff.mp taken
    cases same
    have mem := enters.1
    change record ∈ recordsAfter store.records inner input.now at mem
    unfold recordsAfter at mem
    split at mem
    · obtain ⟨old, listed, rfl⟩ := mem_update_where.mp mem
      have closed := enters.2.1
      have before := enters_not_old enters listed (by split <;> rfl)
      split at closed
      · exact absurd closed before
      · exact absurd closed before
    · exact absurd enters.2.1 (enters_not_old enters mem rfl)
  | setStatus projectId workItemId inner status =>
    obtain ⟨work, -, same⟩ := map_eq_some_iff.mp taken
    cases same
    exact stays rfl
  | findLinked projectId workItemId runId =>
    cases taken
    exact stays rfl
  | followItem recordIds runId =>
    cases recordIds with
    | nil =>
      cases taken
      exact stays rfl
    | cons recordId rest =>
      cases taken
      exact absurd enters (update_not_entering (by simp [followChanges]))

theorem careful_unchanged {index : Nat} {input : WorkItemInput}
    {reads : ClosureReads} {added : Option String}
    (guarded : careful system (.resume index input) = true)
    (found : system.pending[index]? = some (.update recordId changes reads added)) :
    ∀ row ∈ system.data.records, row.id = recordId → row.recordType = "risk" →
      ¬row.isClosedRisk → changes.status = some (some "closed") →
      closureReads system.data.work row.projectId row.recordType
        (mergeFields row.fields changes) = reads ∧ reads.unpadded = true := by
  intro row mem sameId risk before status
  simp only [careful, found, List.all_eq_true] at guarded
  have one := guarded row mem
  simpa [sameId, risk, before, status] using one

/-- In a careful run a risk enters the status `closed` with its evidence, and no risk has two
work items created for it. -/
theorem risk_closure_gate (reachable : (governanceMachine isDate).Reachable
      (fun system event => careful system event = true) system) :
    (∀ recordId, (system.data.work.items.map WorkItemRow.source).count (taskSource recordId) ≤ 1) ∧
    ∀ event after record, careful system event = true →
      (governanceMachine isDate).Step system event after →
      EntersClosed system.data after.data record → ClosureEvidence after.data record := by
  obtain ⟨holds, -⟩ := ledger_holds reachable
  refine ⟨holds.data.single, ?_⟩
  intro event after record guarded step enters
  cases next_move step.2 with
  | call request data ticket taken =>
    have old : record ∈ system.data.records := by
      rw [← call_records taken]
      exact enters.1
    exact absurd enters.2.1 (enters_not_old enters old rfl)
  | resume index input held data later found taken =>
    apply resume_evidence (holds.pending held (mem_of_getElem? found)) ?_ taken enters
    intro recordId changes reads added same
    rw [same] at found
    exact careful_unchanged guarded found
  | crash index => exact absurd enters.2.1 (enters_not_old enters enters.1 rfl)

end

def riskFields (status response workItemId evidenceLabel : String) : GovernanceFields String where
  title := "Leak"
  description := ""
  status := status
  severity := "high"
  ownerId := ""
  response := response
  rationale := ""
  workItemId := workItemId
  milestoneId := ""
  runId := ""
  artifactId := ""
  evidenceLabel := evidenceLabel

def emptyLedger : GovernanceStore := ⟨[], emptyWorkItems, [], []⟩

theorem empty_ledger_fresh : emptyLedger.Fresh := ⟨rfl, by simp [emptyLedger, emptyWorkItems]⟩

def closedLedger : GovernanceStore :=
  { emptyLedger with
    issued := ["r"]
    records := [⟨"r", "p", "risk", riskFields "closed" "" "" "", "u", 1, 1, 1⟩] }

theorem closed_without_evidence : ¬∀ system event after record,
    (governanceMachine fun _ => true).Reachable Anything system →
      (governanceMachine fun _ => true).Step system event after →
      EntersClosed system.data after.data record → ClosureEvidence after.data record := by
  intro all
  have first : (governanceMachine fun _ => true).Step ⟨emptyLedger, []⟩
      (.call (.createRecord "p" "u" "risk" (riskFields "closed" "" "" "")))
      ⟨emptyLedger, [.insert "p" "u" "risk" (riskFields "closed" "" "" "")]⟩ :=
    ⟨rfl, rfl⟩
  have second : (governanceMachine fun _ => true).Step
      ⟨emptyLedger, [.insert "p" "u" "risk" (riskFields "closed" "" "" "")]⟩
      (.resume 0 ⟨1, "r"⟩) ⟨closedLedger, []⟩ := ⟨rfl, rfl⟩
  have reached : (governanceMachine fun _ => true).Reachable Anything
      ⟨emptyLedger, [.insert "p" "u" "risk" (riskFields "closed" "" "" "")]⟩ :=
    ⟨_, ⟨empty_ledger_fresh, rfl⟩, .step (.refl _) trivial first⟩
  have evidence := all _ _ _ _ reached second
    ⟨mem_singleton.mpr rfl, ⟨rfl, rfl⟩, by simp [emptyLedger]⟩
  exact evidence.response rfl

def acceptedWork : WorkItemStore :=
  { emptyWorkItems with
    items := [{
      id := "w", projectId := "p", title := "Fix", status := .done, source := "manual"
      assignee := "", description := "", priority := "", dueDate := "", startDate := ""
      labels := [], parentId := "", milestoneId := "", estimateH := 0, spentH := 0
      customFields := [], dependencyIds := [], sprintId := "", sort := 1, version := 2
      createdAt := 0, updatedAt := 0 }]
    acceptances := [⟨"w", "p", "r1", 1, "u", 0⟩] }

def acceptedLedger : GovernanceStore := ⟨[], acceptedWork, [], []⟩

theorem accepted_ledger_fresh : acceptedLedger.Fresh := by
  refine ⟨rfl, ?_⟩
  intro item mem recordId same
  rw [mem_singleton.mp mem] at same
  have texts := congrArg String.toList same
  rw [taskSource, String.toList_append] at texts
  have head : some 'm' = some 'r' := congrArg List.head? texts
  exact absurd head (by decide)

def openLedger : GovernanceStore :=
  { acceptedLedger with
    issued := ["r"]
    records := [⟨"r", "p", "risk", riskFields "open" "" "" "", "u", 1, 1, 0⟩] }

def closingChanges : GovernanceChanges :=
  { GovernanceFields.unset with
    status := some (some "closed")
    response := some (some "patched")
    workItemId := some (some "w")
    evidenceLabel := some (some "low") }

def closingReads : ClosureReads :=
  closureReads acceptedWork "p" "risk" (mergeFields (riskFields "open" "" "" "") closingChanges)

def closingSystem : System GovernanceStore GovernanceTicket :=
  ⟨openLedger, [.update "r" closingChanges closingReads (some "r1")]⟩

def resolvedLedger : GovernanceStore :=
  updateProjectGovernance openLedger "r" (writtenChanges closingChanges (some "r1")) 2

theorem closing_reachable : (governanceMachine fun _ => true).Reachable
    (fun system event => careful system event = true) closingSystem := by
  have first : (governanceMachine fun _ => true).Step ⟨acceptedLedger, []⟩
      (.call (.createRecord "p" "u" "risk" (riskFields "open" "" "" "")))
      ⟨acceptedLedger, [.insert "p" "u" "risk" (riskFields "open" "" "" "")]⟩ := ⟨rfl, rfl⟩
  have second : (governanceMachine fun _ => true).Step
      ⟨acceptedLedger, [.insert "p" "u" "risk" (riskFields "open" "" "" "")]⟩
      (.resume 0 ⟨1, "r"⟩) ⟨openLedger, []⟩ := ⟨rfl, rfl⟩
  have third : (governanceMachine fun _ => true).Step ⟨openLedger, []⟩
      (.call (.updateRecord "p" "r" closingChanges)) closingSystem := ⟨rfl, rfl⟩
  exact ⟨_, ⟨accepted_ledger_fresh, rfl⟩,
    .step (.step (.step (.refl _) (by rfl) first) (by rfl) second) (by rfl) third⟩

theorem closed_with_evidence : ∃ record, EntersClosed openLedger resolvedLedger record ∧
    ClosureEvidence resolvedLedger record := by
  have step : (governanceMachine fun _ => true).Step closingSystem (.resume 0 ⟨2, ""⟩)
      ⟨resolvedLedger, []⟩ := ⟨rfl, rfl⟩
  have enters : EntersClosed openLedger resolvedLedger
      (GovernanceRow.assign (writtenChanges closingChanges (some "r1")) 2
        ⟨"r", "p", "risk", riskFields "open" "" "" "", "u", 1, 1, 0⟩) := by
    refine ⟨mem_singleton.mpr rfl, ⟨rfl, rfl⟩, ?_⟩
    intro old mem _
    rw [mem_singleton.mp mem]
    decide
  exact ⟨_, enters, (risk_closure_gate closing_reachable).2 _ _ _ (by decide +kernel) step enters⟩

end AgentMate
