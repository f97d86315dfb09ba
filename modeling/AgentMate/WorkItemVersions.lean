import AgentMate.WorkItemRows

/-! # Planning updates against a version -/

namespace AgentMate

open TransitionSystem Interleaving Table List Option

def WorkItemStore.Tracks (workItemId : String) (store next : WorkItemStore) : Prop :=
  ∀ row ∈ next.items, row.id = workItemId →
    ∃ old ∈ store.items, old.id = workItemId ∧ old.Tracked row

variable {strip : String → String} {store middle next : WorkItemStore} {workItemId : String}

theorem tracks_same (items : next.items = store.items) : store.Tracks workItemId next := by
  intro row mem named
  rw [items] at mem
  exact ⟨row, mem, named, tracked_refl row⟩

theorem tracks_update {chosen : WorkItemRow → Prop} [DecidablePred chosen]
    {assign : WorkItemRow → WorkItemRow} (same : ∀ row, (assign row).id = row.id)
    (tracked : ∀ row ∈ store.items, row.id = workItemId → chosen row → row.Tracked (assign row)) :
    store.Tracks workItemId (store.updateItems chosen assign) := by
  intro row mem named
  obtain ⟨old, stored, rfl⟩ := mem_update_where.mp mem
  by_cases choice : chosen old
  · rw [if_pos choice] at named ⊢
    have oldNamed : old.id = workItemId := (same old).symm.trans named
    exact ⟨old, stored, oldNamed, tracked old stored oldNamed choice⟩
  · rw [if_neg choice] at named ⊢
    exact ⟨old, stored, named, tracked_refl old⟩

theorem tracks_filter {keep : WorkItemRow → Bool} (items : next.items = store.items.filter keep) :
    store.Tracks workItemId next := by
  intro row mem named
  rw [items] at mem
  exact ⟨row, mem_of_mem_filter mem, named, tracked_refl row⟩

/-- A row that `delete_work_item` does not repair. -/
def WorkItemRow.apart (deletedId projectId : String) (row : WorkItemRow) : Bool :=
  decide (row.id = deletedId) || decide (row.projectId ≠ projectId) ||
    (decide (row.parentId ≠ deletedId) && decide (deletedId ∉ row.dependencyIds))

variable {projectId : Option String} {now : Time}
  {after system : System WorkItemStore WorkItemTicket} {event : Event WorkItemRequest WorkItemInput}

theorem tracks_delete_item {deletedId : String}
    (apart : ∀ project ∈ projectId, ∀ row ∈ store.items, row.id = workItemId →
      row.apart deletedId project = true) :
    store.Tracks workItemId (deleteWorkItem store deletedId projectId now) := by
  cases projectId with
  | none => exact tracks_filter rfl
  | some project =>
    -- The deleted row itself is gone in the end, whatever the repairs did to it.
    intro row mem named
    obtain ⟨kept, differs⟩ := mem_filter.mp mem
    simp only [decide_eq_true_eq] at differs
    have clear : ∀ row ∈ store.items, row.id = workItemId → row.projectId = project →
        row.parentId ≠ deletedId ∧ deletedId ∉ row.dependencyIds := by
      intro other stored otherNamed own
      have separate := apart project rfl other stored otherNamed
      simpa [WorkItemRow.apart, otherNamed, own, ← named, differs] using separate
    have parents : store.Tracks workItemId (store.updateItems
        (fun item => item.parentId = deletedId ∧ item.projectId = project)
        (fun item => { item with parentId := "", updatedAt := now })) :=
      tracks_update (fun _ => rfl) fun other stored otherNamed choice =>
        absurd choice.1 (clear other stored otherNamed choice.2).1
    obtain ⟨old, oldMem, rfl⟩ := mem_update_where.mp kept
    by_cases choice : old.projectId = project ∧ old.id ≠ deletedId ∧ deletedId ∈ old.dependencyIds
    · rw [if_pos choice] at named
      obtain ⟨first, firstMem, same⟩ := mem_update_where.mp oldMem
      split at same
      · next cleared =>
        subst same
        exact absurd cleared.1 (clear first firstMem named cleared.2).1
      · subst same
        exact absurd choice.2.2 (clear first firstMem named choice.1).2
    · rw [if_neg choice] at named ⊢
      exact parents old oldMem named

theorem tracks_delete_milestone {milestoneId : String}
    (apart : ∀ project ∈ projectId, ∀ row ∈ store.items, row.id = workItemId →
      ¬(row.milestoneId = milestoneId ∧ row.projectId = project)) :
    store.Tracks workItemId (deleteMilestone store milestoneId projectId) := by
  cases projectId with
  | none => exact tracks_same rfl
  | some project =>
    have unbound : store.Tracks workItemId (store.updateItems
        (fun item => item.milestoneId = milestoneId ∧ item.projectId = project)
        (fun item => { item with milestoneId := "" })) :=
      tracks_update (fun _ => rfl) fun row stored named choice =>
        absurd choice (apart project rfl row stored named)
    exact unbound

theorem tracks_update_item {changedId : String} {changes : WorkItemChanges} :
    store.Tracks workItemId (updateWorkItem store changedId changes now) := by
  rw [updateWorkItem]
  split
  · exact tracks_same rfl
  · exact tracks_update (fun _ => rfl) fun _ _ _ _ => tracked_bump rfl

theorem tracks_create {draft : WorkItemDraft} {uuid : String} (other : uuid ≠ workItemId) :
    store.Tracks workItemId (createWorkItem store draft uuid now) := by
  intro row mem named
  rcases mem_append.mp mem with stored | new
  · exact ⟨row, stored, named, tracked_refl row⟩
  · rw [mem_singleton.mp new] at named
    exact absurd named other

/-- The condition under which a version stands for the planning columns of an item: no
deletion repairs the item on the side, of its parent or a dependency of it, or of its
milestone. -/
def leavesPlanning (workItemId : String) (system : System WorkItemStore WorkItemTicket) :
    Event WorkItemRequest WorkItemInput → Bool
  | .resume index _ =>
    match system.pending[index]? with
    | some (.deleteItem deletedId (some project)) =>
      system.data.items.all fun row =>
        decide (row.id ≠ workItemId) || row.apart deletedId project
    | some (.deleteMilestone milestoneId (some project)) =>
      system.data.items.all fun row => decide (row.id ≠ workItemId) ||
        !(decide (row.milestoneId = milestoneId) && decide (row.projectId = project))
    | _ => true
  | _ => true

def LeavesPlanning (workItemId : String) (system : System WorkItemStore WorkItemTicket)
    (event : Event WorkItemRequest WorkItemInput) : Prop :=
  leavesPlanning workItemId system event = true

theorem call_tracks {request : WorkItemRequest} {ticket : Option WorkItemTicket}
    (done : callWorkItems strip store request = some (next, ticket)) :
    store.Tracks workItemId next := by
  rcases (call_rewrites done).1 with same | ⟨chosen, _, assign, items, links, tracked⟩
  · exact tracks_same same
  · have updated : store.Tracks workItemId (store.updateItems chosen assign) :=
      tracks_update (fun row => (Prod.mk.inj (links row)).1) fun row _ _ _ => tracked row
    intro row mem
    rw [items] at mem
    exact updated row mem

theorem move_tracks (drawn : workItemId ∈ system.data.issued)
    (guarded : LeavesPlanning workItemId system event)
    (move : Move (workItemRoutine strip) system event after) :
    system.data.Tracks workItemId after.data := by
  cases move with
  | call request data ticket taken => exact call_tracks taken
  | crash index => exact tracks_same rfl
  | resume index input ticket data later found taken =>
    rw [LeavesPlanning, leavesPlanning, found] at guarded
    cases ticket with
    | create draft =>
      simp only [workItemRoutine, resumeWorkItems, ite_none_left_eq_some, not_or] at taken
      obtain ⟨⟨-, fresh⟩, done⟩ := taken
      cases done
      apply tracks_create
      intro same
      exact fresh (same ▸ drawn)
    | update projectId changedId changes =>
      cases taken
      exact tracks_update_item
    | findDeleted deletedId =>
      cases taken
      exact tracks_same rfl
    | deleteItem deletedId projectId =>
      cases taken
      apply tracks_delete_item
      rintro project rfl row stored named
      have kept := List.all_eq_true.mp guarded row stored
      simpa [named] using kept
    | deleteMilestone milestoneId projectId =>
      cases taken
      apply tracks_delete_milestone
      rintro project rfl row stored named ⟨bound, own⟩
      have kept := List.all_eq_true.mp guarded row stored
      simp [named, bound, own] at kept

theorem work_item_stays_issued (move : Move (workItemRoutine strip) system event after)
    (drawn : workItemId ∈ system.data.issued) : workItemId ∈ after.data.issued := by
  cases move with
  | call request data ticket taken =>
    rw [(call_work_items_shrinks taken).issued]
    exact drawn
  | crash index => exact drawn
  | resume index input ticket data later found taken =>
    rcases resume_work_items_shrinks taken with shrinks | ⟨draft, -, -, -, rfl⟩
    · rw [shrinks.issued]
      exact drawn
    · exact mem_append_left _ drawn

/-- What is known of the item once it was read: its row, as long as there is one, still
has the planning columns that were read or a later version. -/
structure SinceRead (workItemId : String) (read : Option WorkItemRow) (store : WorkItemStore) :
    Prop where
  drawn : workItemId ∈ store.issued
  rows : ∀ row ∈ store.items, row.id = workItemId → ∃ old ∈ read, old.Tracked row

theorem since_read_keeps {system finish : System WorkItemStore WorkItemTicket}
    {read : Option WorkItemRow} (since : SinceRead workItemId read system.data)
    (holds : Holds RowInv (fun _ _ => True) system)
    (path : ((workItemRoutine strip).machine WorkItemStore.Empty).Path
      (LeavesPlanning workItemId) system finish) : SinceRead workItemId read finish.data := by
  have kept := path_keeps (SinceRead workItemId read)
    (keeps_stronger (fun _ _ _ => trivial) rows_keep) (fun _ _ _ _ guarded move since => ?_)
    holds since path
  · exact kept.2
  · constructor
    · exact work_item_stays_issued move since.drawn
    · intro row mem named
      obtain ⟨middle, middleMem, middleNamed, tracked⟩ :=
        move_tracks since.drawn guarded move row mem named
      obtain ⟨old, found, earlier⟩ := since.rows middle middleMem middleNamed
      refine ⟨old, found, earlier.version.trans tracked.version, ?_⟩
      intro same
      have lower := earlier.version
      have upper := tracked.version
      rw [tracked.planning (by omega), earlier.planning (by omega)]

theorem update_planning_row {request : PlanningRequest}
    (done : updateWorkItemPlanning store request now = .ok next) :
    ∃ row ∈ store.items, row.id = request.workItemId ∧ row.version = request.expectedVersion := by
  rw [updateWorkItemPlanning] at done
  split at done
  · cases done
  · next row found =>
    obtain ⟨found, -⟩ := filter_eq_some_iff.mp found
    split at done
    · cases done
    · next same =>
      exact ⟨row, lookup_mem found, lookup_key found, not_not.mp same⟩

/-- A planning update that succeeds against the version of an earlier read finds the
planning columns of that read, as does every state since, and each step on the way that
writes one of them raises the version. -/
theorem planning_update_sound (strip : String → String) (workItemId : String)
    {start middle later : System WorkItemStore WorkItemTicket} {read : WorkItemRow}
    {request : PlanningRequest} {now : Time} {next : WorkItemStore}
    (reachable : ((workItemRoutine strip).machine WorkItemStore.Empty).Reachable Anything start)
    (stored : read ∈ start.data.items) (named : read.id = workItemId)
    (before : ((workItemRoutine strip).machine WorkItemStore.Empty).Path
      (LeavesPlanning workItemId) start middle)
    (after : ((workItemRoutine strip).machine WorkItemStore.Empty).Path
      (LeavesPlanning workItemId) middle later)
    (target : request.workItemId = workItemId)
    (expected : request.expectedVersion = read.version)
    (done : updateWorkItemPlanning later.data request now = .ok next) :
    (∃ row ∈ middle.data.items, row.id = workItemId ∧ row.planning = read.planning) ∧
    ∀ event finish, LeavesPlanning workItemId middle event →
      (workItemRoutine strip).next middle event = some finish →
      ∀ old ∈ middle.data.items, ∀ row ∈ finish.data.items, old.id = workItemId →
        row.id = workItemId → row.planning ≠ old.planning → old.version < row.version := by
  have holds := reachable_holds rows_keep (fun _ empty => empty_row_inv empty) reachable
  have drawn : workItemId ∈ start.data.issued := named ▸ holds.data.known read stored
  have since : SinceRead workItemId (some read) start.data := by
    constructor
    · exact drawn
    · intro row mem same
      have one := unique_key_eq holds.data.unique mem stored (same.trans named.symm)
      exact ⟨read, rfl, one ▸ tracked_refl read⟩
  have atMiddle := since_read_keeps since holds before
  have holdsMiddle := (path_keeps (fun _ => True)
    (keeps_stronger (fun _ _ _ => trivial) rows_keep) (fun _ _ _ _ _ _ _ => trivial)
    holds trivial before).1
  obtain ⟨last, lastMem, lastNamed, lastVersion⟩ := update_planning_row done
  rw [target] at lastNamed
  constructor
  · -- The row is there at the end, so it was there in between.
    have present : ∃ row ∈ middle.data.items, row.id = workItemId := by
      by_contra absent
      have gone : SinceRead workItemId none middle.data := by
        constructor
        · exact atMiddle.drawn
        · intro row mem same
          exact absurd ⟨row, mem, same⟩ absent
      have still := since_read_keeps gone holdsMiddle after
      obtain ⟨old, found, -⟩ := still.rows last lastMem lastNamed
      cases found
    obtain ⟨row, mem, same⟩ := present
    refine ⟨row, mem, same, ?_⟩
    obtain ⟨old, found, tracked⟩ := atMiddle.rows row mem same
    cases found
    -- Versions do not go back, and the last one is the one that was read.
    have fromMiddle : SinceRead workItemId (some row) middle.data := by
      constructor
      · exact atMiddle.drawn
      · intro other otherMem otherNamed
        have one := unique_key_eq holdsMiddle.data.unique otherMem mem (otherNamed.trans same.symm)
        exact ⟨row, rfl, one ▸ tracked_refl row⟩
    obtain ⟨between, foundBetween, later⟩ :=
      (since_read_keeps fromMiddle holdsMiddle after).rows last lastMem lastNamed
    cases foundBetween
    have lower := tracked.version
    have upper := later.version
    exact tracked.planning (by omega)
  · intro event finish guarded step old oldMem row mem oldNamed rowNamed changed
    obtain ⟨source, sourceMem, sourceNamed, tracked⟩ :=
      move_tracks atMiddle.drawn guarded (next_move step) row mem rowNamed
    have one := unique_key_eq holdsMiddle.data.unique sourceMem oldMem
      (sourceNamed.trans oldNamed.symm)
    rw [one] at tracked
    apply lt_of_le_of_ne tracked.version
    intro same
    exact changed (tracked.planning same.symm)

def itemWithMilestone : List (Event WorkItemRequest WorkItemInput) :=
  [.call (.createMilestone ⟨"milestone", "project"⟩),
    .call (.createItem (sampleDraft "project" "" "milestone" [])), .resume 0 ⟨1, "item"⟩]

def planFirstVersion : PlanningRequest where
  projectId := "project"
  workItemId := "item"
  sprintId := ""
  expectedVersion := 1
  syncMilestone := true
  actorId := "account"
  actorName := "Planner"

/-- The item of `itemWithMilestone`, another one with a milestone of its own, and a sprint. -/
def itemBesideOther : List (Event WorkItemRequest WorkItemInput) :=
  itemWithMilestone ++ [.call (.createMilestone ⟨"spare", "project"⟩),
      .call (.createItem (sampleDraft "project" "" "spare" [])), .resume 0 ⟨2, "other"⟩,
      .call (.createSprint ⟨"sprint", "project", "milestone", "Sprint", "active"⟩)]

/-- An execution writes the status of the item, and the milestone of the other item goes. -/
def besideRead : List (Event WorkItemRequest WorkItemInput) :=
  [.call (.writeStatus "item" .doing none 3), .call (.deleteMilestone "spare"), .resume 0 ⟨4, ""⟩]

/-- A Run that completes sends the item to review, and the other item goes. -/
def besideUpdate : List (Event WorkItemRequest WorkItemInput) :=
  [.call (.deleteItem "project" "other"), .call (.writeStatus "item" .review none 5),
    .resume 0 ⟨6, ""⟩, .resume 0 ⟨7, ""⟩]

/-- The planning update of a colleague. -/
def moveToSprint : Event WorkItemRequest WorkItemInput :=
  .call (.updatePlanning { planFirstVersion with sprintId := "sprint" } 5)

def besideItem (system : System WorkItemStore WorkItemTicket)
    (events : List (Event WorkItemRequest WorkItemInput)) :
    Option (System WorkItemStore WorkItemTicket) :=
  events.foldlM (fun system event =>
    if leavesPlanning "item" system event then (workItemRoutine id).next system event
    else none) system

theorem beside_item_path {start finish : System WorkItemStore WorkItemTicket}
    {events : List (Event WorkItemRequest WorkItemInput)}
    (ran : besideItem start events = some finish) :
    ((workItemRoutine id).machine WorkItemStore.Empty).Path (LeavesPlanning "item") start finish :=
  path_of_run (leavesPlanning "item") (workItemRoutine id).next (fun _ _ _ taken => taken) ran

/-- What the runs of the example show: the item at version 1 when it is read, its status
written in between, the update that still succeeds, and the colleague's that moves it. -/
def besideChecks (start middle later moved : System WorkItemStore WorkItemTicket) : Bool :=
  (start.data.items.any fun read =>
      decide (read.id = "item") && decide (read.version = 1) &&
        middle.data.items.any fun row => decide (row.id = "item") &&
          decide (row.status ≠ read.status) &&
          moved.data.items.any fun other => decide (other.id = "item") &&
            decide (other.planning ≠ row.planning)) &&
    (updateWorkItemPlanning later.data planFirstVersion 8).isOk

theorem undisturbed_planning_sound :
    ∃ start middle later moved : System WorkItemStore WorkItemTicket,
      (workItemRoutine id).run (fun _ _ => true) emptyWorkItems itemBesideOther = some start ∧
      besideItem start besideRead = some middle ∧
      besideItem middle besideUpdate = some later ∧
      (workItemRoutine id).next middle moveToSprint = some moved ∧
      ∃ read ∈ start.data.items, read.id = "item" ∧
        (∃ row ∈ middle.data.items, row.id = "item" ∧ row.planning = read.planning) ∧
        ∃ old ∈ middle.data.items, ∃ row ∈ moved.data.items, old.id = "item" ∧
          row.id = "item" ∧ old.status ≠ read.status ∧ old.version < row.version := by
  have ran : (((workItemRoutine id).run (fun _ _ => true) emptyWorkItems itemBesideOther).bind
      fun start => (besideItem start besideRead).bind fun middle =>
        (besideItem middle besideUpdate).bind fun later =>
          ((workItemRoutine id).next middle moveToSprint).map fun moved =>
            besideChecks start middle later moved) = some true := by decide +kernel
  obtain ⟨start, done, ran⟩ := bind_eq_some_iff.mp ran
  obtain ⟨middle, before, ran⟩ := bind_eq_some_iff.mp ran
  obtain ⟨later, after, ran⟩ := bind_eq_some_iff.mp ran
  obtain ⟨moved, move, checks⟩ := map_eq_some_iff.mp ran
  obtain ⟨rows, planned⟩ := Bool.and_eq_true_iff.mp checks
  obtain ⟨read, stored, rows⟩ := List.any_eq_true.mp rows
  obtain ⟨first, rows⟩ := Bool.and_eq_true_iff.mp rows
  obtain ⟨old, oldMem, rows⟩ := List.any_eq_true.mp rows
  obtain ⟨oldFacts, rows⟩ := Bool.and_eq_true_iff.mp rows
  obtain ⟨row, rowMem, rowFacts⟩ := List.any_eq_true.mp rows
  simp only [Bool.and_eq_true, decide_eq_true_eq] at first oldFacts rowFacts
  obtain ⟨next, planned⟩ := Rollback.exists_ok planned
  have reachable : ((workItemRoutine id).machine WorkItemStore.Empty).Reachable Anything start :=
    reachable_weaken (fun _ _ _ => trivial) (run_reachable _ ⟨rfl, rfl⟩ done)
  have sound := planning_update_sound id "item" reachable stored first.1
    (beside_item_path before) (beside_item_path after) rfl first.2.symm planned
  have raised : old.version < row.version :=
    sound.2 moveToSprint moved rfl move old oldMem row rowMem oldFacts.1 rowFacts.1 rowFacts.2
  exact ⟨start, middle, later, moved, done, before, after, move, read, stored, first.1, sound.1,
    old, oldMem, row, rowMem, oldFacts.1, rowFacts.1, oldFacts.2, raised⟩

theorem milestone_deletion_keeps_version : ∃ start later : System WorkItemStore WorkItemTicket,
      ((workItemRoutine id).machine WorkItemStore.Empty).Reachable Anything start ∧
      ((workItemRoutine id).machine WorkItemStore.Empty).Path Anything start later ∧
      ∃ read ∈ start.data.items, ∃ row ∈ later.data.items, row.id = read.id ∧
        row.planning ≠ read.planning ∧
        planFirstVersion.workItemId = read.id ∧
        planFirstVersion.expectedVersion = read.version ∧
        (updateWorkItemPlanning later.data planFirstVersion 3).isOk = true := by
  have ran : ((workItemRoutine id).run (fun _ _ => true) emptyWorkItems
      itemWithMilestone).map (fun start =>
        (((workItemRoutine id).next start (.call (.deleteMilestone "milestone"))).bind fun read =>
          (workItemRoutine id).next read (.resume 0 ⟨2, ""⟩)).map fun later =>
            (updateWorkItemPlanning later.data planFirstVersion 3).isOk &&
              start.data.items.any fun read => later.data.items.any fun row =>
                decide (row.id = read.id) && decide (row.planning ≠ read.planning) &&
                  decide (planFirstVersion.workItemId = read.id) &&
                    decide (planFirstVersion.expectedVersion = read.version)) =
      some (some true) := by decide +kernel
  obtain ⟨start, done, changed⟩ := map_eq_some_iff.mp ran
  obtain ⟨later, deleted, changed⟩ := map_eq_some_iff.mp changed
  obtain ⟨selected, select, delete⟩ := bind_eq_some_iff.mp deleted
  obtain ⟨planned, changed⟩ := Bool.and_eq_true_iff.mp changed
  obtain ⟨read, stored, rest⟩ := List.any_eq_true.mp changed
  obtain ⟨row, mem, differs⟩ := List.any_eq_true.mp rest
  simp only [Bool.and_eq_true, decide_eq_true_eq] at differs
  obtain ⟨⟨⟨same, lost⟩, target⟩, version⟩ := differs
  refine ⟨start, later, ?_, ?_, read, stored, row, mem, same, lost, target, version, planned⟩
  · exact reachable_weaken (fun _ _ _ => trivial) (run_reachable _ ⟨rfl, rfl⟩ done)
  · exact .step (.step (.refl start) trivial select) trivial delete

end AgentMate
