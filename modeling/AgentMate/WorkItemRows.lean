import AgentMate.Rollback
import AgentMate.WorkItemStore

/-! # Rows of the work item store -/

namespace AgentMate

open TransitionSystem Interleaving Table List

structure Planning where
  parentId : String
  milestoneId : String
  sprintId : String
  dependencyIds : List String
  dueDate : String
  startDate : String
  estimateH : ℚ
  spentH : ℚ
  priority : String
  deriving DecidableEq

def WorkItemRow.planning (row : WorkItemRow) : Planning where
  parentId := row.parentId
  milestoneId := row.milestoneId
  sprintId := row.sprintId
  dependencyIds := row.dependencyIds
  dueDate := row.dueDate
  startDate := row.startDate
  estimateH := row.estimateH
  spentH := row.spentH
  priority := row.priority

structure WorkItemRow.Tracked (old new : WorkItemRow) : Prop where
  version : old.version ≤ new.version
  planning : new.version = old.version → new.planning = old.planning

def WorkItemRow.links (row : WorkItemRow) : String × String × String × List String :=
  (row.id, row.projectId, row.parentId, row.dependencyIds)

variable {strip : String → String} {store middle next : WorkItemStore}

theorem update_sprint_items {sprintId : String} {name status milestoneId : Option String} :
    (updateSprint store sprintId name status milestoneId).items = store.items ∧
      (updateSprint store sprintId name status milestoneId).issued = store.issued := by
  rw [updateSprint]
  split <;> exact ⟨rfl, rfl⟩

structure RowInv (store : WorkItemStore) : Prop where
  unique : UniqueKey WorkItemRow.id store.items
  known : ∀ row ∈ store.items, row.id ∈ store.issued

theorem tracked_refl (row : WorkItemRow) : row.Tracked row := ⟨Nat.le_refl _, fun _ => rfl⟩

theorem tracked_bump {old new : WorkItemRow} (bump : new.version = old.version + 1) :
    old.Tracked new := by
  constructor
  · omega
  · intro same
    omega

structure WorkItemStore.Shrinks (store next : WorkItemStore) : Prop where
  ids : (next.items.map fun row => (row.id, row.projectId)).Sublist
    (store.items.map fun row => (row.id, row.projectId))
  issued : next.issued = store.issued

theorem shrinks_same (items : next.items = store.items) (issued : next.issued = store.issued) :
    store.Shrinks next := ⟨items ▸ List.Sublist.refl _, issued⟩

variable {chosen : WorkItemRow → Prop} {assign : WorkItemRow → WorkItemRow} {deletedId : String}
  {projectId : Option String} {now : Time} {request : WorkItemRequest}
  {ticket : Option WorkItemTicket}

theorem shrinks_update [DecidablePred chosen]
    (items : next.items = (store.updateItems chosen assign).items)
    (issued : next.issued = store.issued)
    (same : ∀ row, ((assign row).id, (assign row).projectId) = (row.id, row.projectId)) :
    store.Shrinks next := by
  refine ⟨?_, issued⟩
  rw [items, WorkItemStore.updateItems, map_update_where _ same]

theorem delete_item_keys : (deleteWorkItem store deletedId projectId now).items.map
        (fun row => (row.id, row.projectId)) =
      (store.items.map fun row => (row.id, row.projectId)).filter fun key => key.1 ≠ deletedId := by
  have remaining : ∀ rows : List WorkItemRow,
      (rows.filter fun row => row.id ≠ deletedId).map (fun row => (row.id, row.projectId)) =
        (rows.map fun row => (row.id, row.projectId)).filter fun key => key.1 ≠ deletedId := by
    intro rows
    rw [filter_map]
    rfl
  cases projectId with
  | none => exact remaining store.items
  | some project =>
    refine (remaining _).trans ?_
    simp only [WorkItemStore.updateItems]
    rw [map_update_where, map_update_where]
    · exact fun _ => rfl
    · exact fun _ => rfl

theorem shrinks_delete_item : store.Shrinks (deleteWorkItem store deletedId projectId now) := by
  constructor
  · rw [delete_item_keys]
    exact filter_sublist
  · cases projectId <;> rfl

theorem shrinks_update_item {changedId : String} {changes : WorkItemChanges} :
    store.Shrinks (updateWorkItem store changedId changes now) := by
  rw [updateWorkItem]
  split
  · exact shrinks_same rfl rfl
  · exact shrinks_update rfl rfl fun _ => rfl

theorem shrinks_delete_milestone {milestoneId : String} :
    store.Shrinks (deleteMilestone store milestoneId projectId) := by
  cases projectId with
  | none => exact shrinks_same rfl rfl
  | some project => exact shrinks_update rfl rfl fun _ => rfl

/-- The rows stay, or some of them are rewritten in place, with their references kept and
their planning columns kept or under a later version. -/
def WorkItemStore.Rewrites (store next : WorkItemStore) : Prop :=
  next.items = store.items ∨
    ∃ (chosen : WorkItemRow → Prop) (_ : DecidablePred chosen) (assign : WorkItemRow → WorkItemRow),
      next.items = (store.updateItems chosen assign).items ∧
        (∀ row, (assign row).links = row.links) ∧ ∀ row : WorkItemRow, row.Tracked (assign row)

theorem rewrites_bump [decides : DecidablePred chosen]
    (items : next.items = (store.updateItems chosen assign).items)
    (links : ∀ row, (assign row).links = row.links)
    (bump : ∀ row, (assign row).version = row.version + 1) : store.Rewrites next :=
  Or.inr ⟨chosen, decides, assign, items, links, fun row => tracked_bump (bump row)⟩

theorem rewrites_aside [decides : DecidablePred chosen]
    (items : next.items = (store.updateItems chosen assign).items)
    (links : ∀ row, (assign row).links = row.links)
    (same : ∀ row, ((assign row).version, (assign row).planning) = (row.version, row.planning)) :
    store.Rewrites next :=
  Or.inr ⟨chosen, decides, assign, items, links, fun row =>
    ⟨Nat.le_of_eq (Prod.mk.inj (same row)).1.symm, fun _ => (Prod.mk.inj (same row)).2⟩⟩

theorem update_planning_rewrites {request : PlanningRequest}
    (done : updateWorkItemPlanning store request now = .ok next) :
    store.Rewrites next ∧ next.issued = store.issued := by
  rw [updateWorkItemPlanning] at done
  split at done
  · cases done
  · split at done
    · cases done
    · obtain ⟨milestoneId, -, rest⟩ := Rollback.bind_ok done
      cases rest
      exact ⟨rewrites_bump rfl (fun _ => rfl) fun _ => rfl, rfl⟩

theorem accept_rewrites {delivery : Delivery}
    (done : acceptWorkItemDelivery store delivery now = .ok next) :
    store.Rewrites next ∧ next.issued = store.issued := by
  rw [acceptWorkItemDelivery] at done
  split at done
  · cases done
  · split at done
    · split at done <;> cases done
      exact ⟨Or.inl rfl, rfl⟩
    · split at done <;> cases done
      exact ⟨rewrites_bump rfl (fun _ => rfl) fun _ => rfl, rfl⟩

theorem call_rewrites (done : callWorkItems strip store request = some (next, ticket)) :
    store.Rewrites next ∧ next.issued = store.issued := by
  cases request with
  | updatePlanning request now =>
    rw [callWorkItems] at done
    split at done
    · next planned => cases done; exact update_planning_rewrites planned
    · cases done; exact ⟨Or.inl rfl, rfl⟩
  | accept delivery now =>
    rw [callWorkItems] at done
    split at done
    · next accepted => cases done; exact accept_rewrites accepted
    · cases done; exact ⟨Or.inl rfl, rfl⟩
  | updateSprint sprintId name status milestoneId =>
    cases done
    exact ⟨Or.inl update_sprint_items.1, update_sprint_items.2⟩
  | writeStatus changedId status assignee now =>
    cases done
    exact ⟨rewrites_aside rfl (fun _ => rfl) fun _ => rfl, rfl⟩
  | deleteSprint sprintId projectId now =>
    cases done
    exact ⟨rewrites_bump rfl (fun _ => rfl) fun _ => rfl, rfl⟩
  | deleteCustomField fieldId projectId now =>
    cases done
    exact ⟨rewrites_aside rfl (fun _ => rfl) fun _ => rfl, rfl⟩
  | createItem draft =>
    rw [callWorkItems] at done
    split at done <;> cases done <;> exact ⟨Or.inl rfl, rfl⟩
  | updateItem projectId changedId changes =>
    rw [callWorkItems] at done
    split at done <;> cases done <;> exact ⟨Or.inl rfl, rfl⟩
  | deleteItem projectId deletedId =>
    rw [callWorkItems] at done
    split at done <;> cases done <;> exact ⟨Or.inl rfl, rfl⟩
  | _ =>
    cases done
    exact ⟨Or.inl rfl, rfl⟩

theorem call_work_items_shrinks (done : callWorkItems strip store request = some (next, ticket)) :
    store.Shrinks next := by
  obtain ⟨same | ⟨chosen, _, assign, items, links, -⟩, issued⟩ := call_rewrites done
  · exact shrinks_same same issued
  · refine shrinks_update items issued fun row => ?_
    have kept := links row
    simp only [WorkItemRow.links, Prod.mk.injEq] at kept
    rw [kept.1, kept.2.1]

theorem resume_work_items_shrinks {ticket : WorkItemTicket} {input : WorkItemInput}
    {later : Option WorkItemTicket}
    (done : resumeWorkItems store ticket input = some (next, later)) :
    store.Shrinks next ∨ ∃ draft, ticket = .create draft ∧ input.uuid ≠ "" ∧
      input.uuid ∉ store.issued ∧ next = createWorkItem store draft input.uuid input.now := by
  cases ticket with
  | create draft =>
    simp only [resumeWorkItems, Option.ite_none_left_eq_some, not_or] at done
    obtain ⟨⟨named, fresh⟩, done⟩ := done
    cases done
    exact Or.inr ⟨draft, rfl, named, fresh, rfl⟩
  | update projectId changedId changes =>
    cases done
    exact Or.inl shrinks_update_item
  | findDeleted deletedId =>
    cases done
    exact Or.inl (shrinks_same rfl rfl)
  | deleteItem deletedId projectId =>
    cases done
    exact Or.inl shrinks_delete_item
  | deleteMilestone milestoneId projectId =>
    cases done
    exact Or.inl shrinks_delete_milestone

theorem shrinks_row_inv (inv : RowInv store) (shrinks : store.Shrinks next) : RowInv next := by
  constructor
  · have firsts := shrinks.ids.map Prod.fst
    simp only [map_map] at firsts
    exact inv.unique.sublist firsts
  · intro row mem
    have listed := shrinks.ids.subset (mem_map_of_mem mem)
    obtain ⟨old, stored, same⟩ := mem_map.mp listed
    rw [shrinks.issued, ← (Prod.mk.inj same).1]
    exact inv.known old stored

theorem create_row_inv {draft : WorkItemDraft} {uuid : String} (inv : RowInv store)
    (fresh : uuid ∉ store.issued) :
    RowInv (createWorkItem store draft uuid now) := by
  constructor
  · apply unique_key_append inv.unique
    intro other stored same
    have drawn := inv.known other stored
    rw [same] at drawn
    exact fresh drawn
  · intro row mem
    rcases mem_append.mp mem with stored | new
    · exact mem_append_left _ (inv.known row stored)
    · rw [mem_singleton.mp new]
      exact mem_append_right _ (mem_singleton.mpr rfl)

theorem rows_keep : Keeps (workItemRoutine strip) Anything RowInv (fun _ _ => True) := by
  constructor
  · intro system request data ticket inv _ taken
    exact ⟨shrinks_row_inv inv (call_work_items_shrinks taken), fun _ _ => trivial,
      fun _ _ _ => trivial⟩
  · intro system index input ticket data later inv _ _ _ taken
    refine ⟨?_, fun _ _ => trivial, fun _ _ _ => trivial⟩
    rcases resume_work_items_shrinks taken with shrinks | ⟨draft, -, -, fresh, rfl⟩
    · exact shrinks_row_inv inv shrinks
    · exact create_row_inv inv fresh

theorem empty_row_inv (empty : store.Empty) : RowInv store := by
  obtain ⟨items, issued⟩ := empty
  constructor <;> simp [items, UniqueKey]

end AgentMate
