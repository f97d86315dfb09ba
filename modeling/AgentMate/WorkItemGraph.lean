import AgentMate.WorkItemRows

/-! # The graphs of parents and dependencies -/

namespace AgentMate

open TransitionSystem Interleaving GraphSearch Relation Table List

variable {strip : String → String} {store next : WorkItemStore}

def WorkItemRow.parents (row : WorkItemRow) : List String :=
  if row.parentId = "" then [] else [row.parentId]

def WorkItemStore.Points (column : WorkItemRow → List String) (store : WorkItemStore)
    (source target : String) : Prop :=
  ∃ row ∈ store.items, row.id = source ∧ target ∈ column row

def WorkItemStore.Parent (store : WorkItemStore) : String → String → Prop :=
  store.Points WorkItemRow.parents

def WorkItemStore.Dependency (store : WorkItemStore) : String → String → Prop :=
  store.Points WorkItemRow.dependencyIds

def WorkItemStore.InProject (store : WorkItemStore) (projectId node : String) : Prop :=
  ∃ row ∈ store.items, row.id = node ∧ row.projectId = projectId

/-- One column of references makes no cycle and stays among the items of a project. -/
structure LinkInv (column : WorkItemRow → List String) (store : WorkItemStore) : Prop where
  acyclic : Acyclic (store.Points column)
  within : ∀ row ∈ store.items, ∀ target ∈ column row, store.InProject row.projectId target

structure GraphInv (store : WorkItemStore) : Prop where
  rows : RowInv store
  named : ∀ row ∈ store.items, row.id ≠ ""
  parents : LinkInv WorkItemRow.parents store
  dependencies : LinkInv WorkItemRow.dependencyIds store

def WorkItemStore.SameLinks (store next : WorkItemStore) : Prop :=
  next.items.map WorkItemRow.links = store.items.map WorkItemRow.links

theorem same_links_of_items (items : next.items = store.items) : store.SameLinks next := by
  rw [WorkItemStore.SameLinks, items]

theorem same_links_update {chosen : WorkItemRow → Prop} [DecidablePred chosen]
    {assign : WorkItemRow → WorkItemRow}
    (items : next.items = (store.updateItems chosen assign).items)
    (same : ∀ row, (assign row).links = row.links) : store.SameLinks next := by
  rw [WorkItemStore.SameLinks, items]
  exact map_update_where _ same

variable {row : WorkItemRow} {column : WorkItemRow → List String} {request : WorkItemRequest}
  {target projectId parentId selfId workItemId : String} {raw dependencyIds : List String}
  {error : WorkItemError} {now : Time} {draft : WorkItemDraft} {ticket : WorkItemTicket}

theorem same_links_mem (same : store.SameLinks next) (mem : row ∈ next.items) :
    ∃ old ∈ store.items, old.links = row.links := by
  have listed := mem_map_of_mem (f := WorkItemRow.links) mem
  rw [same] at listed
  exact mem_map.mp listed

theorem same_links_symm (same : store.SameLinks next) : next.SameLinks store := Eq.symm same

theorem same_links_in_project (same : store.SameLinks next) {node : String}
    (inProject : store.InProject projectId node) : next.InProject projectId node := by
  obtain ⟨row, mem, named, own⟩ := inProject
  obtain ⟨new, stored, links⟩ := same_links_mem (same_links_symm same) mem
  simp only [WorkItemRow.links, Prod.mk.injEq] at links
  exact ⟨new, stored, links.1.trans named, links.2.1.trans own⟩

theorem same_links_link_inv
    (reads : ∀ left right : WorkItemRow, left.links = right.links → column left = column right)
    (same : store.SameLinks next) (inv : LinkInv column store) : LinkInv column next := by
  constructor
  · apply acyclic_mono inv.acyclic
    rintro source target ⟨row, mem, named, listed⟩
    obtain ⟨old, stored, links⟩ := same_links_mem same mem
    refine ⟨old, stored, ?_, reads old row links ▸ listed⟩
    simp only [WorkItemRow.links, Prod.mk.injEq] at links
    exact links.1.trans named
  · intro row mem target listed
    obtain ⟨old, stored, links⟩ := same_links_mem same mem
    have within := inv.within old stored target (reads old row links ▸ listed)
    simp only [WorkItemRow.links, Prod.mk.injEq] at links
    rw [← links.2.1]
    exact same_links_in_project same within

theorem same_links_graph_inv (same : store.SameLinks next) (rows : RowInv next)
    (inv : GraphInv store) : GraphInv next := by
  constructor
  · exact rows
  · intro row mem
    obtain ⟨old, stored, links⟩ := same_links_mem same mem
    simp only [WorkItemRow.links, Prod.mk.injEq] at links
    rw [← links.1]
    exact inv.named old stored
  · refine same_links_link_inv (fun left right links => ?_) same inv.parents
    simp only [WorkItemRow.links, Prod.mk.injEq] at links
    rw [WorkItemRow.parents, WorkItemRow.parents, links.2.2.1]
  · refine same_links_link_inv (fun left right links => ?_) same inv.dependencies
    simp only [WorkItemRow.links, Prod.mk.injEq] at links
    exact links.2.2.2

theorem call_same_links {ticket : Option WorkItemTicket}
    (done : callWorkItems strip store request = some (next, ticket)) : store.SameLinks next := by
  rcases (call_rewrites done).1 with same | ⟨chosen, _, assign, items, links, -⟩
  · exact same_links_of_items same
  · exact same_links_update items links

theorem delete_milestone_same_links {milestoneId : String} {projectId : Option String} :
    store.SameLinks (deleteMilestone store milestoneId projectId) := by
  cases projectId with
  | none => exact same_links_of_items rfl
  | some project => exact same_links_update rfl fun _ => rfl

def WorkItemStore.Refers (store : WorkItemStore) (projectId : String) (targets : List String) :
    Prop := ∀ target ∈ targets, store.InProject projectId target

theorem create_link_inv (items : next.items = store.items ++ [row])
    (fresh : ∀ old ∈ store.items, old.id ≠ row.id)
    (refers : store.Refers row.projectId (column row)) (inv : LinkInv column store) :
    LinkInv column next := by
  have kept : ∀ projectId node, store.InProject projectId node →
      next.InProject projectId node := by
    rintro projectId node ⟨old, stored, named⟩
    exact ⟨old, items ▸ mem_append_left _ stored, named⟩
  have known : ∀ source target, store.Points column source target → target ≠ row.id := by
    rintro source target ⟨old, stored, -, listed⟩ same
    obtain ⟨other, otherMem, otherNamed, -⟩ := inv.within old stored target listed
    exact fresh other otherMem (otherNamed.trans same)
  have cases : ∀ source target, next.Points column source target →
      store.Points column source target ∨ source = row.id ∧ target ∈ column row := by
    rintro source target ⟨other, mem, named, listed⟩
    rw [items] at mem
    rcases mem_append.mp mem with stored | new
    · exact Or.inl ⟨other, stored, named, listed⟩
    · rw [mem_singleton.mp new] at named listed
      exact Or.inr ⟨named.symm, listed⟩
  constructor
  · apply acyclic_redirect row.id inv.acyclic
    · intro source target other edge
      rcases cases source target edge with old | ⟨same, -⟩
      · exact old
      · exact absurd same other
    · -- Nothing refers to the new row yet.
      intro target edge path
      have away : target ≠ row.id := by
        rcases cases row.id target edge with old | ⟨-, listed⟩
        · exact known _ _ old
        · obtain ⟨other, stored, named, -⟩ := refers target listed
          exact named ▸ fresh other stored
      rcases path.cases_tail with same | ⟨middle, -, last⟩
      · exact away same.symm
      · exact known _ _ last rfl
  · intro other mem target listed
    rw [items] at mem
    rcases mem_append.mp mem with stored | new
    · exact kept _ _ (inv.within other stored target listed)
    · rw [mem_singleton.mp new] at listed ⊢
      exact kept _ _ (refers target listed)

theorem mem_parents : target ∈ row.parents ↔ target = row.parentId ∧ target ≠ "" := by
  rw [WorkItemRow.parents]
  split
  · next none =>
    simp [none]
  · next some =>
    rw [mem_singleton]
    constructor
    · rintro rfl
      exact ⟨rfl, some⟩
    · exact And.left

/-- A row that a deletion leaves: it lost no more than its references to the deleted item. -/
structure WorkItemRow.Repaired (deletedId : String) (projectId : Option String)
    (old row : WorkItemRow) : Prop where
  id : old.id = row.id
  project : old.projectId = row.projectId
  parents : ∀ target ∈ row.parents, target ∈ old.parents ∧
    (projectId = some old.projectId → target ≠ deletedId)
  dependencies : ∀ target ∈ row.dependencyIds, target ∈ old.dependencyIds ∧
    (projectId = some old.projectId → target ≠ deletedId)

section

variable {deletedId : String} {projectId : Option String} {now : Time}

variable {project : String}

theorem clear_parent_repairs {old : WorkItemRow}
    (cleared : (if old.parentId = deletedId ∧ old.projectId = project then
      { old with parentId := "", updatedAt := now } else old) = row) :
    old.id = row.id ∧ old.projectId = row.projectId ∧ old.dependencyIds = row.dependencyIds ∧
      ∀ target ∈ row.parents, target ∈ old.parents ∧
        (old.projectId = project → target ≠ deletedId) := by
  split at cleared
  · subst cleared
    exact ⟨rfl, rfl, rfl, by simp [WorkItemRow.parents]⟩
  · next other =>
    subst cleared
    refine ⟨rfl, rfl, rfl, fun target listed => ⟨listed, ?_⟩⟩
    rintro own rfl
    exact other ⟨(mem_parents.mp listed).1.symm, own⟩

theorem drop_dependency_repairs {old : WorkItemRow}
    (dropped : (if old.projectId = project ∧ old.id ≠ deletedId ∧
        deletedId ∈ old.dependencyIds then { old with
        dependencyIds := old.dependencyIds.filter fun dep => dep ≠ deletedId
        updatedAt := now } else old) = row) :
    old.id = row.id ∧ old.projectId = row.projectId ∧ old.parents = row.parents ∧
      ∀ target ∈ row.dependencyIds, target ∈ old.dependencyIds ∧
        (old.projectId = project → old.id ≠ deletedId → target ≠ deletedId) := by
  split at dropped
  · subst dropped
    refine ⟨rfl, rfl, rfl, fun target listed => ?_⟩
    obtain ⟨kept, differs⟩ := mem_filter.mp listed
    exact ⟨kept, fun _ _ => of_decide_eq_true differs⟩
  · next other =>
    subst dropped
    refine ⟨rfl, rfl, rfl, fun target listed => ⟨listed, ?_⟩⟩
    rintro own differs rfl
    exact other ⟨own, differs, listed⟩

theorem delete_item_repairs (mem : row ∈ (deleteWorkItem store deletedId projectId now).items) :
    ∃ old ∈ store.items, old.Repaired deletedId projectId row := by
  obtain ⟨kept, differs⟩ := mem_filter.mp mem
  cases projectId with
  | none =>
    refine ⟨row, kept, rfl, rfl, ?_, ?_⟩
    · exact fun target listed => ⟨listed, nofun⟩
    · exact fun target listed => ⟨listed, nofun⟩
  | some project =>
    obtain ⟨middle, middleMem, dropped⟩ := mem_update_where.mp kept
    obtain ⟨old, stored, cleared⟩ := mem_update_where.mp middleMem
    obtain ⟨oldId, oldProject, oldDependencies, parents⟩ := clear_parent_repairs cleared
    obtain ⟨middleId, middleProject, middleParents, dependencies⟩ :=
      drop_dependency_repairs dropped
    refine ⟨old, stored, oldId.trans middleId, oldProject.trans middleProject, ?_, ?_⟩
    · intro target listed
      obtain ⟨before, other⟩ := parents target (middleParents ▸ listed)
      exact ⟨before, fun same => other (Option.some.inj same).symm⟩
    · intro target listed
      obtain ⟨before, other⟩ := dependencies target listed
      refine ⟨oldDependencies ▸ before, fun same => other ?_ ?_⟩
      · rw [← oldProject]
        exact (Option.some.inj same).symm
      · rw [middleId]
        exact of_decide_eq_true differs

theorem delete_item_in_project {node : String}
    (inProject : store.InProject project node) (other : node ≠ deletedId) :
    (deleteWorkItem store deletedId projectId now).InProject project node := by
  obtain ⟨old, stored, rfl, rfl⟩ := inProject
  have listed : (old.id, old.projectId) ∈ (deleteWorkItem store deletedId projectId now).items.map
      fun row => (row.id, row.projectId) := by
    rw [delete_item_keys, mem_filter]
    exact ⟨mem_map.mpr ⟨old, stored, rfl⟩, decide_eq_true other⟩
  obtain ⟨row, mem, same⟩ := mem_map.mp listed
  obtain ⟨named, own⟩ := Prod.mk.inj same
  exact ⟨row, mem, named, own⟩

theorem delete_link_inv
    (repairs : ∀ row ∈ (deleteWorkItem store deletedId projectId now).items, ∃ old ∈ store.items,
      old.id = row.id ∧ old.projectId = row.projectId ∧ ∀ target ∈ column row,
        target ∈ column old ∧ (projectId = some old.projectId → target ≠ deletedId))
    (settled : ∀ row ∈ store.items, row.id = deletedId → projectId = some row.projectId)
    (inv : LinkInv column store) :
    LinkInv column (deleteWorkItem store deletedId projectId now) := by
  constructor
  · apply acyclic_mono inv.acyclic
    rintro source target ⟨row, mem, named, listed⟩
    obtain ⟨old, stored, same, -, kept⟩ := repairs row mem
    exact ⟨old, stored, same.trans named, (kept target listed).1⟩
  · intro row mem target listed
    obtain ⟨old, stored, -, own, kept⟩ := repairs row mem
    obtain ⟨before, cleared⟩ := kept target listed
    have within := inv.within old stored target before
    rw [← own]
    apply delete_item_in_project within
    rintro rfl
    obtain ⟨deleted, deletedMember, deletedNamed, deletedOwn⟩ := within
    have read := settled deleted deletedMember deletedNamed
    rw [deletedOwn] at read
    exact cleared read rfl

end

def acceptsParent (store : WorkItemStore) (projectId : String) (selfId : Option String)
    (parentId : String) : Bool :=
  match sanitizeParent id store projectId selfId parentId with
  | .ok accepted => decide (accepted = parentId)
  | .error _ => false

def acceptsDependencies (store : WorkItemStore) (projectId : String) (selfId : Option String)
    (dependencyIds : List String) : Bool :=
  match sanitizeDependencies id store projectId selfId dependencyIds with
  | .ok accepted => decide (accepted = dependencyIds)
  | .error _ => false

def acceptsRefs (store : WorkItemStore) (projectId : String) (selfId : Option String)
    (refs : WorkItemRefs) : Bool :=
  refs.parentId.all (acceptsParent store projectId selfId) &&
    refs.dependencyIds.all (acceptsDependencies store projectId selfId)

theorem project_item_some {node : String} (found : store.projectItem? projectId node = some row) :
    row ∈ store.items ∧ row.id = node ∧ row.projectId = projectId := by
  obtain ⟨found, own⟩ := Option.filter_eq_some_iff.mp found
  exact ⟨lookup_mem found, lookup_key found, of_decide_eq_true own⟩

theorem project_item_of_mem (inv : RowInv store) (mem : row ∈ store.items) :
    store.projectItem? row.projectId row.id = some row := by
  rw [WorkItemStore.projectItem?, WorkItemStore.item?, lookup_of_mem inv.unique mem]
  simp

theorem refers_in_project {selfId : Option String}
    (refers : store.refers projectId selfId target = true) : store.InProject projectId target := by
  simp only [WorkItemStore.refers, Bool.and_eq_true] at refers
  obtain ⟨row, found⟩ := Option.isSome_iff_exists.mp refers.2
  exact ⟨row, project_item_some found⟩

/-- A path to the changed item that starts in its project stays there, so it is a path of
every graph that has the edges of the other items of the project. -/
theorem path_in_project {edge : String → String → Prop}
    {source : String} (rows : RowInv store) (inv : LinkInv column store)
    (edges : ∀ row ∈ store.items, row.projectId = projectId → row.id ≠ selfId →
      ∀ target ∈ column row, edge row.id target)
    (path : ReflTransGen (store.Points column) source selfId)
    (inside : store.InProject projectId source) : ReflTransGen edge source selfId := by
  induction path using ReflTransGen.head_induction_on with
  | refl => exact .refl
  | @head source middle first _ ih =>
    by_cases same : source = selfId
    · rw [same]
    · obtain ⟨row, mem, rfl, listed⟩ := first
      obtain ⟨other, otherMem, otherNamed, own⟩ := inside
      rw [unique_key_eq rows.unique otherMem mem otherNamed] at own
      have upper := inv.within row mem middle listed
      rw [own] at upper
      exact .head (edges row mem own same middle listed) (ih upper)

theorem sanitize_parent_ok {raw : String} {selfId : Option String}
    (checked : sanitizeParent strip store projectId selfId raw = .ok parentId) :
    (parentId ≠ "" → store.refers projectId selfId parentId = true) ∧
      ∀ self ∈ selfId, climb (store.parentMap projectId self parentId) "" self
        store.searchBound [] parentId = false := by
  have refers : ∀ stripped : String, stripped = (if store.refers projectId selfId (strip raw) then
      strip raw else "") → stripped ≠ "" → store.refers projectId selfId stripped = true := by
    intro stripped chosen given
    split at chosen
    · next accepted => rw [chosen]; exact accepted
    · exact absurd chosen given
  cases selfId with
  | none =>
    cases checked
    exact ⟨refers _ rfl, nofun⟩
  | some self =>
    simp only [sanitizeParent] at checked
    generalize (if store.refers projectId (some self) (strip raw) = true then
      strip raw else "") = parent at checked refers
    split at checked
    · cases checked
    · next clear =>
      cases checked
      refine ⟨refers _ rfl, ?_⟩
      rintro other ⟨⟩
      exact Bool.eq_false_iff.mpr clear

theorem collect_dependencies_refer {selfId : Option String} :
    ∀ target ∈ collectDependencies strip store projectId selfId raw,
      store.refers projectId selfId target = true := by
  have folded : ∀ (rest deps : List String),
      (∀ target ∈ deps, store.refers projectId selfId target = true) →
      ∀ target ∈ rest.foldl (fun deps text =>
        let target := strip text
        if store.refers projectId selfId target && decide (target ∉ deps) then deps ++ [target]
        else deps) deps, store.refers projectId selfId target = true := by
    intro rest
    induction rest with
    | nil => exact fun deps known => known
    | cons text rest ih =>
      intro deps known
      rw [foldl_cons]
      apply ih
      intro target listed
      dsimp only at listed
      split at listed
      · next accepted =>
        rcases mem_append.mp listed with old | new
        · exact known target old
        · rw [mem_singleton.mp new]
          exact (Bool.and_eq_true_iff.mp accepted).1
      · exact known target listed
  exact folded raw [] (fun _ none => absurd none not_mem_nil)

theorem sanitize_dependencies_ok {selfId : Option String} {deps : List String}
    (checked : sanitizeDependencies strip store projectId selfId raw = .ok deps) :
    (∀ target ∈ deps, store.refers projectId selfId target = true) ∧
      ∀ self ∈ selfId, ∀ dep ∈ deps, search (store.dependencyMap projectId self deps) self
        store.searchBound [] dep = false := by
  cases selfId with
  | none =>
    cases checked
    exact ⟨collect_dependencies_refer, nofun⟩
  | some self =>
    simp only [sanitizeDependencies] at checked
    split at checked
    · cases checked
    · next clear =>
      cases checked
      refine ⟨collect_dependencies_refer, ?_⟩
      rintro other ⟨⟩ dep listed
      rw [Bool.not_eq_true, any_eq_false] at clear
      exact Bool.eq_false_iff.mpr (clear dep listed)

theorem accepts_parent_ok {selfId : Option String}
    (accepted : acceptsParent store projectId selfId parentId = true) :
    sanitizeParent id store projectId selfId parentId = .ok parentId := by
  rw [acceptsParent] at accepted
  split at accepted
  · next checked => rw [checked, of_decide_eq_true accepted]
  · cases accepted

theorem accepts_dependencies_ok {selfId : Option String}
    (accepted : acceptsDependencies store projectId selfId dependencyIds = true) :
    sanitizeDependencies id store projectId selfId dependencyIds = .ok dependencyIds := by
  rw [acceptsDependencies] at accepted
  split at accepted
  · next checked => rw [checked, of_decide_eq_true accepted]
  · cases accepted

theorem clear_parent_safe (inv : GraphInv store) (named : selfId ≠ "") {parentId : String}
    (refers : store.refers projectId (some selfId) parentId = true)
    (clear : climb (store.parentMap projectId selfId parentId) "" selfId store.searchBound []
      parentId = false) :
    store.InProject projectId parentId ∧ ¬ReflTransGen store.Parent parentId selfId := by
  have inside := refers_in_project refers
  have top : store.parentMap projectId selfId parentId "" = "" := by
    rw [WorkItemStore.parentMap, if_neg named.symm]
    cases found : store.projectItem? projectId "" with
    | none => rfl
    | some row =>
      obtain ⟨mem, empty, -⟩ := project_item_some found
      exact absurd empty (inv.named row mem)
  refine ⟨inside, fun path => not_reach_of_climb top named clear ?_⟩
  refine path_in_project inv.rows inv.parents ?_ path inside
  intro row mem own other target listed
  obtain ⟨rfl, some⟩ := mem_parents.mp listed
  refine ⟨?_, some⟩
  rw [WorkItemStore.parentMap, if_neg other, ← own, project_item_of_mem inv.rows mem]
  rfl

theorem accepted_parent_safe (inv : GraphInv store) (named : selfId ≠ "") (given : parentId ≠ "")
    (accepted : acceptsParent store projectId (some selfId) parentId = true) :
    store.InProject projectId parentId ∧ ¬ReflTransGen store.Parent parentId selfId := by
  obtain ⟨refers, clear⟩ := sanitize_parent_ok (accepts_parent_ok accepted)
  exact clear_parent_safe inv named (refers given) (clear selfId rfl)

theorem clear_dependency_safe (inv : GraphInv store) {deps : List String}
    (refers : store.refers projectId (some selfId) target = true)
    (clear : search (store.dependencyMap projectId selfId deps) selfId store.searchBound []
      target = false) :
    store.InProject projectId target ∧ ¬ReflTransGen store.Dependency target selfId := by
  have inside := refers_in_project refers
  refine ⟨inside, fun path => not_reach_of_search clear ?_⟩
  refine path_in_project inv.rows inv.dependencies ?_ path inside
  intro row mem own other child member'
  rw [Edge, WorkItemStore.dependencyMap, if_neg other, ← own, project_item_of_mem inv.rows mem]
  exact member'

theorem accepted_dependencies_safe (inv : GraphInv store)
    (accepted : acceptsDependencies store projectId (some selfId) dependencyIds = true) :
    ∀ target ∈ dependencyIds, store.InProject projectId target ∧
      ¬ReflTransGen store.Dependency target selfId := by
  obtain ⟨refers, clear⟩ := sanitize_dependencies_ok (accepts_dependencies_ok accepted)
  exact fun target listed =>
    clear_dependency_safe inv (refers target listed) (clear selfId rfl target listed)

theorem parent_map_edge {source : String}
    (other : source ≠ selfId) (edge : Up (store.parentMap projectId selfId parentId) "" source
      target) : store.Parent source target := by
  obtain ⟨upper, some⟩ := edge
  rw [WorkItemStore.parentMap, if_neg other] at upper
  cases found : store.projectItem? projectId source with
  | none =>
    rw [found] at upper
    exact absurd upper.symm some
  | some row =>
    rw [found] at upper
    obtain ⟨mem, named, -⟩ := project_item_some found
    exact ⟨row, mem, named, mem_parents.mpr ⟨upper.symm, some⟩⟩

theorem search_bound_enough :
    (unseen (selfId :: store.items.map WorkItemRow.id) []).length + 1 < store.searchBound := by
  have shorter := length_filter_le (fun node => decide (node ∉ ([] : List String)))
    (selfId :: store.items.map WorkItemRow.id)
  simp only [length_cons, length_map] at shorter
  rw [unseen, WorkItemStore.searchBound]
  omega

theorem refused_parent_reaches {raw : String} (inv : GraphInv store)
    (refused : sanitizeParent strip store projectId (some selfId) raw = .error error) :
    store.refers projectId (some selfId) (strip raw) = true ∧
      ReflTransGen store.Parent (strip raw) selfId := by
  simp only [sanitizeParent] at refused
  by_cases refers : store.refers projectId (some selfId) (strip raw) = true
  · refine ⟨refers, ?_⟩
    simp only [if_pos refers] at refused
    split at refused
    · next found =>
      by_contra away
      have acyclic : Acyclic (Up (store.parentMap projectId selfId (strip raw)) "") := by
        apply acyclic_redirect selfId inv.parents.acyclic
        · exact fun source target other edge => parent_map_edge other edge
        · intro target edge
          rw [Up, WorkItemStore.parentMap, if_pos rfl] at edge
          exact edge.1 ▸ away
      have path := reach_of_climb (selfId :: store.items.map WorkItemRow.id) acyclic
        (fun node upper => ?_) (by simp) search_bound_enough found
      · exact away (reach_changed (fun source target other edge => parent_map_edge other edge) path)
      · by_cases same : node = selfId
        · rw [same]
          exact mem_cons_self
        · rw [WorkItemStore.parentMap, if_neg same] at upper
          cases read : store.projectItem? projectId node with
          | none =>
            rw [read] at upper
            exact absurd rfl upper
          | some row =>
            obtain ⟨mem, named, -⟩ := project_item_some read
            exact mem_cons_of_mem _ (named ▸ mem_map_of_mem mem)
    · cases refused
  · simp only [if_neg refers, WorkItemStore.searchBound, climb] at refused
    cases refused

theorem refused_dependency_reaches
    (refused : sanitizeDependencies strip store projectId (some selfId) raw = .error error) :
    ∃ target ∈ collectDependencies strip store projectId (some selfId) raw,
      ReflTransGen store.Dependency target selfId := by
  simp only [sanitizeDependencies] at refused
  split at refused
  · next found =>
    obtain ⟨target, listed, found⟩ := any_eq_true.mp found
    refine ⟨target, listed, ?_⟩
    have edge : ∀ source child, child ∈ store.dependencyMap projectId selfId
        (collectDependencies strip store projectId (some selfId) raw) source →
        source ≠ selfId → ∃ row ∈ store.items, row.id = source ∧ child ∈ row.dependencyIds := by
      intro source child mem other
      rw [WorkItemStore.dependencyMap, if_neg other] at mem
      cases read : store.projectItem? projectId source with
      | none =>
        rw [read] at mem
        cases mem
      | some row =>
        rw [read] at mem
        obtain ⟨stored, named, -⟩ := project_item_some read
        exact ⟨row, stored, named, mem⟩
    have path := reach_of_search (selfId :: store.items.map WorkItemRow.id)
      (fun node child mem => ?_) (Nat.lt_of_succ_lt search_bound_enough) found
    · exact reach_changed (fun source child other mem => edge source child mem other) path
    · by_cases same : node = selfId
      · rw [same]
        exact mem_cons_self
      · obtain ⟨row, stored, named, -⟩ := edge node child mem same
        exact mem_cons_of_mem _ (named ▸ mem_map_of_mem stored)
  · cases refused

theorem redirect_link_inv (selfId : String)
    (keys : next.items.map (fun row => (row.id, row.projectId)) =
      store.items.map fun row => (row.id, row.projectId))
    (rows : ∀ row ∈ next.items, ∃ old ∈ store.items, old.id = row.id ∧
      old.projectId = row.projectId ∧ ∀ target ∈ column row, target ∈ column old ∨
        row.id = selfId ∧ store.InProject row.projectId target ∧
          ¬ReflTransGen (store.Points column) target selfId)
    (inv : LinkInv column store) : LinkInv column next := by
  have kept : ∀ projectId node, store.InProject projectId node →
      next.InProject projectId node := by
    rintro projectId node ⟨old, stored, rfl, rfl⟩
    have listed := mem_map_of_mem (f := fun row : WorkItemRow => (row.id, row.projectId)) stored
    rw [← keys] at listed
    obtain ⟨row, mem, same⟩ := mem_map.mp listed
    exact ⟨row, mem, (Prod.mk.inj same).1, (Prod.mk.inj same).2⟩
  constructor
  · apply acyclic_redirect selfId inv.acyclic
    · rintro source target other ⟨row, mem, rfl, listed⟩
      obtain ⟨old, stored, same, -, targets⟩ := rows row mem
      rcases targets target listed with before | ⟨self, -⟩
      · exact ⟨old, stored, same, before⟩
      · exact absurd self other
    · rintro target ⟨row, mem, named, listed⟩ path
      obtain ⟨old, stored, same, -, targets⟩ := rows row mem
      rcases targets target listed with before | ⟨-, -, safe⟩
      · have edge : store.Points column selfId target := ⟨old, stored, same.trans named, before⟩
        exact inv.acyclic selfId (TransGen.head' edge path)
      · exact safe path
  · intro row mem target listed
    obtain ⟨old, stored, -, own, targets⟩ := rows row mem
    rcases targets target listed with before | ⟨-, inside, -⟩
    · exact own ▸ kept _ _ (inv.within old stored target before)
    · exact kept _ _ inside

section

variable {projectId selfId target : String} {changes : WorkItemChanges} {now : Time}
  {old : WorkItemRow}

theorem change_parent_safe (inv : GraphInv store) (named : selfId ≠ "")
    (accepted : acceptsRefs store projectId (some selfId) changes.refs = true)
    (listed : target ∈ (old.change changes now).parents) : target ∈ old.parents ∨
      store.InProject projectId target ∧ ¬ReflTransGen store.Parent target selfId := by
  obtain ⟨same, given⟩ := mem_parents.mp listed
  cases written : changes.refs.parentId with
  | none =>
    rw [WorkItemRow.change, written] at same
    exact Or.inl (mem_parents.mpr ⟨same, given⟩)
  | some parentId =>
    have parent := (Bool.and_eq_true_iff.mp accepted).1
    rw [WorkItemRow.change, written] at same
    rw [written] at parent
    obtain rfl : target = parentId := same
    exact Or.inr (accepted_parent_safe inv named given parent)

theorem change_dependency_safe (inv : GraphInv store)
    (accepted : acceptsRefs store projectId (some selfId) changes.refs = true)
    (listed : target ∈ (old.change changes now).dependencyIds) : target ∈ old.dependencyIds ∨
      store.InProject projectId target ∧ ¬ReflTransGen store.Dependency target selfId := by
  cases written : changes.refs.dependencyIds with
  | none =>
    rw [WorkItemRow.change, written] at listed
    exact Or.inl listed
  | some dependencyIds =>
    have dependencies := (Bool.and_eq_true_iff.mp accepted).2
    rw [WorkItemRow.change, written] at listed
    rw [written] at dependencies
    exact Or.inr (accepted_dependencies_safe inv dependencies target listed)

end

theorem update_graph_inv {changes : WorkItemChanges} (inv : GraphInv store)
    (settled : ∀ row ∈ store.items, row.id = selfId → row.projectId = projectId)
    (accepted : ((store.projectItem? projectId selfId).isNone ||
      acceptsRefs store projectId (some selfId) changes.refs) = true)
    (rows : RowInv (updateWorkItem store selfId changes now)) :
    GraphInv (updateWorkItem store selfId changes now) := by
  by_cases written : changes.isEmpty = true
  · rw [updateWorkItem, if_pos written]
    exact inv
  · rw [updateWorkItem, if_neg written] at rows ⊢
    have keys : (store.updateItems (fun item => item.id = selfId)
        (WorkItemRow.change changes now)).items.map (fun row => (row.id, row.projectId)) =
        store.items.map fun row => (row.id, row.projectId) :=
      map_update_where _ fun _ => rfl
    have refs : ∀ old ∈ store.items, old.id = selfId →
        acceptsRefs store projectId (some selfId) changes.refs = true := by
      intro old mem named
      have read := project_item_of_mem inv.rows mem
      rw [settled old mem named, named] at read
      rw [read] at accepted
      exact accepted
    constructor
    · exact rows
    · intro row mem
      obtain ⟨old, stored, rfl⟩ := mem_update_where.mp mem
      have named := inv.named old stored
      split <;> exact named
    · apply redirect_link_inv selfId keys _ inv.parents
      intro row mem
      obtain ⟨old, stored, rfl⟩ := mem_update_where.mp mem
      split
      · next named =>
        have own := settled old stored named
        refine ⟨old, stored, rfl, rfl, fun target listed => ?_⟩
        have safe := change_parent_safe inv (named ▸ inv.named old stored)
          (refs old stored named) listed
        exact safe.imp_right fun safe => ⟨named, own ▸ safe.1, safe.2⟩
      · exact ⟨old, stored, rfl, rfl, fun target listed => Or.inl listed⟩
    · apply redirect_link_inv selfId keys _ inv.dependencies
      intro row mem
      obtain ⟨old, stored, rfl⟩ := mem_update_where.mp mem
      split
      · next named =>
        have own := settled old stored named
        refine ⟨old, stored, rfl, rfl, fun target listed => ?_⟩
        have safe := change_dependency_safe inv (refs old stored named) listed
        exact safe.imp_right fun safe => ⟨named, own ▸ safe.1, safe.2⟩
      · exact ⟨old, stored, rfl, rfl, fun target listed => Or.inl listed⟩

/-- The condition under which a write closes no cycle and leaves no reference dangling: at
the write the check would accept the same references once more. -/
def referencesStand (system : System WorkItemStore WorkItemTicket) :
    Event WorkItemRequest WorkItemInput → Bool
  | .resume index _ =>
    match system.pending[index]? with
    | some (.create draft) => acceptsRefs system.data draft.projectId none draft.refs
    | some (.update projectId workItemId changes) =>
      (system.data.projectItem? projectId workItemId).isNone ||
        acceptsRefs system.data projectId (some workItemId) changes.refs
    | _ => true
  | _ => true

def ReferencesStand (system : System WorkItemStore WorkItemTicket)
    (event : Event WorkItemRequest WorkItemInput) : Prop :=
  referencesStand system event = true

/-- What was read of the project of an item stays right: identifiers are not drawn again. -/
def WorkItemStore.Settled (store : WorkItemStore) (workItemId : String)
    (projectId : Option String) : Prop :=
  workItemId ∈ store.issued ∧
    ∀ row ∈ store.items, row.id = workItemId → projectId = some row.projectId

def WorkItemStore.Ready (store : WorkItemStore) : WorkItemTicket → Prop
  | .create _ => True
  | .update projectId workItemId _ => store.Settled workItemId (some projectId)
  | .findDeleted workItemId => workItemId ∈ store.issued
  | .deleteItem workItemId projectId => store.Settled workItemId projectId
  | .deleteMilestone _ _ => True

theorem settled_project (inv : RowInv store)
    (found : (store.projectItem? projectId workItemId).isSome) :
    store.Settled workItemId (some projectId) := by
  obtain ⟨row, read⟩ := Option.isSome_iff_exists.mp found
  obtain ⟨mem, named, own⟩ := project_item_some read
  refine ⟨named ▸ inv.known row mem, fun other otherMem otherNamed => ?_⟩
  rw [unique_key_eq inv.unique otherMem mem (otherNamed.trans named.symm), own]

theorem settled_shrinks {projectId : Option String} (shrinks : store.Shrinks next)
    (settled : store.Settled workItemId projectId) :
    next.Settled workItemId projectId := by
  refine ⟨shrinks.issued ▸ settled.1, fun row mem named => ?_⟩
  have listed := shrinks.ids.subset (mem_map_of_mem mem)
  obtain ⟨old, stored, same⟩ := mem_map.mp listed
  obtain ⟨oldNamed, own⟩ := Prod.mk.inj same
  rw [← own]
  exact settled.2 old stored (oldNamed.trans named)

theorem settled_create {uuid : String} {projectId : Option String}
    (fresh : uuid ∉ store.issued) (settled : store.Settled workItemId projectId) :
    (createWorkItem store draft uuid now).Settled workItemId projectId := by
  refine ⟨mem_append_left _ settled.1, fun row mem named => ?_⟩
  rcases mem_append.mp mem with stored | new
  · exact settled.2 row stored named
  · rw [mem_singleton.mp new] at named
    have drawn : uuid ∈ store.issued := Eq.subst named.symm settled.1
    exact absurd drawn fresh

theorem ready_keeps (issued : ∀ workItemId ∈ store.issued, workItemId ∈ next.issued)
    (kept : ∀ workItemId projectId, store.Settled workItemId projectId →
      next.Settled workItemId projectId) (ready : store.Ready ticket) : next.Ready ticket := by
  cases ticket with
  | create draft => trivial
  | deleteMilestone milestoneId projectId => trivial
  | update projectId workItemId changes => exact kept _ _ ready
  | findDeleted workItemId => exact issued _ ready
  | deleteItem workItemId projectId => exact kept _ _ ready

theorem ready_shrinks (shrinks : store.Shrinks next) (ready : store.Ready ticket) :
    next.Ready ticket :=
  ready_keeps (fun _ drawn => shrinks.issued ▸ drawn)
    (fun _ _ settled => settled_shrinks shrinks settled) ready

theorem call_ready (inv : RowInv store)
    (done : callWorkItems strip store request = some (next, some ticket)) :
    next.Ready ticket := by
  cases request with
  | updateItem projectId workItemId changes =>
    rw [callWorkItems] at done
    split at done
    · next checked =>
      cases done
      rw [checkUpdateItem] at checked
      split at checked
      · cases checked
      · next found => exact settled_project inv (Option.isSome_of_mem found)
    · cases done
  | deleteItem projectId workItemId =>
    rw [callWorkItems] at done
    split at done
    · next found =>
      cases done
      exact (settled_project inv found).1
    · cases done
  | createItem draft =>
    rw [callWorkItems] at done
    split at done <;> cases done
    trivial
  | createActionTask draft =>
    cases done
    trivial
  | deleteMilestone milestoneId =>
    cases done
    trivial
  | updatePlanning request now =>
    rw [callWorkItems] at done
    split at done <;> cases done
  | accept delivery now =>
    rw [callWorkItems] at done
    split at done <;> cases done
  | _ => cases done

theorem create_graph_inv {uuid : String} (inv : GraphInv store) (named : uuid ≠ "")
    (fresh : uuid ∉ store.issued)
    (accepted : acceptsRefs store draft.projectId none draft.refs = true) :
    GraphInv (createWorkItem store draft uuid now) := by
  obtain ⟨parent, dependencies⟩ := Bool.and_eq_true_iff.mp accepted
  have parentOk := accepts_parent_ok (Option.all_some.symm.trans parent)
  have dependenciesOk := accepts_dependencies_ok (Option.all_some.symm.trans dependencies)
  have new : ∀ old ∈ store.items, old.id ≠ uuid :=
    fun old stored same => fresh (same ▸ inv.rows.known old stored)
  constructor
  · exact create_row_inv inv.rows fresh
  · intro row mem
    rcases mem_append.mp mem with stored | last
    · exact inv.named row stored
    · rw [mem_singleton.mp last]
      exact named
  · refine create_link_inv rfl new ?_ inv.parents
    intro target listed
    obtain ⟨rfl, given⟩ := mem_parents.mp listed
    exact refers_in_project ((sanitize_parent_ok parentOk).1 given)
  · refine create_link_inv rfl new ?_ inv.dependencies
    intro target listed
    exact refers_in_project ((sanitize_dependencies_ok dependenciesOk).1 target listed)

theorem delete_graph_inv {deletedId : String} {projectId : Option String} (inv : GraphInv store)
    (settled : store.Settled deletedId projectId) :
    GraphInv (deleteWorkItem store deletedId projectId now) := by
  constructor
  · exact shrinks_row_inv inv.rows shrinks_delete_item
  · intro row mem
    obtain ⟨old, stored, repaired⟩ := delete_item_repairs mem
    exact repaired.id ▸ inv.named old stored
  · refine delete_link_inv (fun row mem => ?_) settled.2 inv.parents
    obtain ⟨old, stored, repaired⟩ := delete_item_repairs mem
    exact ⟨old, stored, repaired.id, repaired.project, repaired.parents⟩
  · refine delete_link_inv (fun row mem => ?_) settled.2 inv.dependencies
    obtain ⟨old, stored, repaired⟩ := delete_item_repairs mem
    exact ⟨old, stored, repaired.id, repaired.project, repaired.dependencies⟩

theorem resume_graph {input : WorkItemInput} {later : Option WorkItemTicket}
    {system : System WorkItemStore WorkItemTicket} {index : Nat} (inv : GraphInv system.data)
    (ready : system.data.Ready ticket) (guarded : ReferencesStand system (.resume index input))
    (found : system.pending[index]? = some ticket)
    (done : resumeWorkItems system.data ticket input = some (next, later)) :
    GraphInv next ∧ (∀ own ∈ later, next.Ready own) ∧
      ∀ other, system.data.Ready other → next.Ready other := by
  rw [ReferencesStand, referencesStand, found] at guarded
  cases ticket with
  | create draft =>
    simp only [resumeWorkItems, Option.ite_none_left_eq_some, not_or] at done
    obtain ⟨⟨named, fresh⟩, done⟩ := done
    cases done
    refine ⟨create_graph_inv inv named fresh guarded, by simp, fun other ready => ?_⟩
    exact ready_keeps (fun _ drawn => mem_append_left _ drawn)
      (fun _ _ settled => settled_create fresh settled) ready
  | update projectId workItemId changes =>
    cases done
    refine ⟨update_graph_inv inv ?_ guarded (shrinks_row_inv inv.rows shrinks_update_item),
      by simp, fun _ => ready_shrinks shrinks_update_item⟩
    intro row mem same
    exact (Option.some.inj (ready.2 row mem same)).symm
  | findDeleted workItemId =>
    cases done
    refine ⟨inv, ?_, fun _ ready => ready⟩
    rintro own ⟨⟩
    refine ⟨ready, fun row mem same => ?_⟩
    rw [WorkItemStore.item?, ← same, lookup_of_mem inv.rows.unique mem]
    rfl
  | deleteItem workItemId projectId =>
    cases done
    exact ⟨delete_graph_inv inv ready, by simp, fun _ => ready_shrinks shrinks_delete_item⟩
  | deleteMilestone milestoneId projectId =>
    cases done
    exact ⟨same_links_graph_inv delete_milestone_same_links
      (shrinks_row_inv inv.rows shrinks_delete_milestone) inv, by simp,
      fun _ => ready_shrinks shrinks_delete_milestone⟩

theorem graphs_keep : Keeps (workItemRoutine strip) ReferencesStand GraphInv
    WorkItemStore.Ready := by
  constructor
  · intro system request data ticket inv _ taken
    have shrinks := call_work_items_shrinks taken
    refine ⟨same_links_graph_inv (call_same_links taken) (shrinks_row_inv inv.rows shrinks) inv,
      ?_, fun _ _ ready => ready_shrinks shrinks ready⟩
    rintro own rfl
    exact call_ready inv.rows taken
  · intro system index input ticket data later inv ready guarded found taken
    obtain ⟨kept, own, others⟩ := resume_graph inv ready guarded found taken
    exact ⟨kept, own, fun other _ => others other⟩

theorem empty_graph_inv (empty : store.Empty) : GraphInv store := by
  have acyclic : ∀ column, LinkInv column store := by
    intro column
    constructor
    · intro node cycle
      obtain ⟨target, ⟨row, mem, -⟩, -⟩ := TransGen.head'_iff.mp cycle
      rw [empty.1] at mem
      cases mem
    · intro row mem
      rw [empty.1] at mem
      cases mem
  constructor
  · exact empty_row_inv empty
  · intro row mem
    rw [empty.1] at mem
    cases mem
  · exact acyclic _
  · exact acyclic _

/-- In every run whose writes the check would still accept, the parents and the
dependencies of the work items make no cycle and are items of the same project. -/
theorem work_item_graphs_sound (strip : String → String)
    {system : System WorkItemStore WorkItemTicket}
    (reachable : ((workItemRoutine strip).machine WorkItemStore.Empty).Reachable
      ReferencesStand system) :
    Acyclic system.data.Parent ∧ Acyclic system.data.Dependency ∧
      ∀ row ∈ system.data.items, ∀ target, target ∈ row.parents ∨ target ∈ row.dependencyIds →
          ∃ other ∈ system.data.items, other.id = target ∧ other.projectId = row.projectId := by
  have inv := (reachable_holds graphs_keep (fun _ empty => empty_graph_inv empty) reachable).data
  refine ⟨inv.parents.acyclic, inv.dependencies.acyclic, fun row mem target listed => ?_⟩
  rcases listed with parent | dependency
  · exact inv.parents.within row mem target parent
  · exact inv.dependencies.within row mem target dependency

def setParent (parentId : String) : WorkItemChanges where
  title := none
  status := none
  source := none
  assignee := none
  description := none
  sort := none
  priority := none
  dueDate := none
  startDate := none
  labels := none
  estimateH := none
  spentH := none
  customFields := none
  refs := ⟨some parentId, none, none, none⟩

def createTwoItems : List (Event WorkItemRequest WorkItemInput) :=
  [.call (.createItem (sampleDraft "project" "" "" [])), .resume 0 ⟨1, "first"⟩,
    .call (.createItem (sampleDraft "project" "" "" ["first"])), .resume 0 ⟨2, "second"⟩]

def moveUnderSecond : List (Event WorkItemRequest WorkItemInput) :=
  createTwoItems ++ [.call (.updateItem "project" "first" (setParent "second")), .resume 0 ⟨3, ""⟩]

theorem parent_and_dependency_sound : ∃ system : System WorkItemStore WorkItemTicket,
    (workItemRoutine id).run referencesStand emptyWorkItems moveUnderSecond = some system ∧
      system.data.items.map WorkItemRow.links =
        [("first", "project", "second", []), ("second", "project", "", ["first"])] ∧
      Acyclic system.data.Parent := by
  have ran : ((workItemRoutine id).run referencesStand emptyWorkItems moveUnderSecond).map
      (fun system => system.data.items.map WorkItemRow.links) =
      some [("first", "project", "second", []), ("second", "project", "", ["first"])] := by
    decide +kernel
  obtain ⟨system, done, links⟩ := Option.map_eq_some_iff.mp ran
  exact ⟨system, done, links, (work_item_graphs_sound id
    (run_reachable referencesStand ⟨rfl, rfl⟩ done)).1⟩

/-- In every such state the check of an update refuses exactly the parents and the dependencies
that lead back to its item. -/
theorem cycle_checks_exact (strip : String → String)
    {system : System WorkItemStore WorkItemTicket}
    (reachable : ((workItemRoutine strip).machine WorkItemStore.Empty).Reachable
      ReferencesStand system) {row : WorkItemRow} (mem : row ∈ system.data.items) :
    (∀ raw, (∃ error, sanitizeParent strip system.data row.projectId (some row.id) raw =
        .error error) ↔
      system.data.refers row.projectId (some row.id) (strip raw) = true ∧
        ReflTransGen system.data.Parent (strip raw) row.id) ∧
    ∀ raw, (∃ error, sanitizeDependencies strip system.data row.projectId (some row.id) raw =
        .error error) ↔
      ∃ target ∈ collectDependencies strip system.data row.projectId (some row.id) raw,
        ReflTransGen system.data.Dependency target row.id := by
  have inv := (reachable_holds graphs_keep (fun _ empty => empty_graph_inv empty) reachable).data
  constructor
  · intro raw
    constructor
    · rintro ⟨error, refused⟩
      exact refused_parent_reaches inv refused
    · rintro ⟨refers, path⟩
      cases checked : sanitizeParent strip system.data row.projectId (some row.id) raw with
      | error error => exact ⟨error, rfl⟩
      | ok parentId =>
        obtain ⟨-, clear⟩ := sanitize_parent_ok checked
        simp only [sanitizeParent, if_pos refers] at checked
        split at checked
        · cases checked
        · cases checked
          exact absurd path (clear_parent_safe inv (inv.named row mem) refers (clear row.id rfl)).2
  · intro raw
    constructor
    · rintro ⟨error, refused⟩
      exact refused_dependency_reaches refused
    · rintro ⟨target, listed, path⟩
      cases checked : sanitizeDependencies strip system.data row.projectId (some row.id) raw with
      | error error => exact ⟨error, rfl⟩
      | ok deps =>
        obtain ⟨refers, clear⟩ := sanitize_dependencies_ok checked
        simp only [sanitizeDependencies] at checked
        split at checked
        · cases checked
        · cases checked
          exact absurd path
            (clear_dependency_safe inv (refers target listed) (clear row.id rfl target listed)).2

theorem moved_item_checked : ∃ system row,
    (workItemRoutine id).run referencesStand emptyWorkItems moveUnderSecond = some system ∧
      row ∈ system.data.items ∧ ReflTransGen system.data.Parent "first" row.id := by
  have ran : ((workItemRoutine id).run referencesStand emptyWorkItems moveUnderSecond).any
      (fun system => system.data.items.any fun row =>
        !(sanitizeParent id system.data row.projectId (some row.id) "first").isOk) = true := by
    decide +kernel
  obtain ⟨system, done, listed⟩ := (Option.any_eq_true _ _).mp ran
  obtain ⟨row, mem, refused⟩ := any_eq_true.mp listed
  rw [Bool.not_eq_true'] at refused
  have checked := ((cycle_checks_exact id (run_reachable referencesStand ⟨rfl, rfl⟩ done)
    mem).1 "first").mp (Rollback.exists_error refused)
  exact ⟨system, row, done, mem, checked.2⟩

def moveUnderEachOther : List (Event WorkItemRequest WorkItemInput) :=
  createTwoItems ++ [.call (.updateItem "project" "first" (setParent "second")),
      .call (.updateItem "project" "second" (setParent "first")),
      .resume 0 ⟨3, ""⟩, .resume 0 ⟨4, ""⟩]

theorem crossing_updates_close_cycle : ∃ system : System WorkItemStore WorkItemTicket,
    ((workItemRoutine id).machine WorkItemStore.Empty).Reachable Anything system ∧
      ¬Acyclic system.data.Parent := by
  have ran : ((workItemRoutine id).run (fun _ _ => true) emptyWorkItems moveUnderEachOther).map
      (fun system => system.data.items.map WorkItemRow.links) =
      some [("first", "project", "second", []), ("second", "project", "first", ["first"])] := by
    decide +kernel
  obtain ⟨system, done, links⟩ := Option.map_eq_some_iff.mp ran
  refine ⟨system, reachable_weaken (fun _ _ _ => trivial) (run_reachable _ ⟨rfl, rfl⟩ done), ?_⟩
  have edge : ∀ child parent deps, parent ≠ "" →
      (child, "project", parent, deps) ∈ system.data.items.map WorkItemRow.links →
      system.data.Parent child parent := by
    intro child parent deps given listed
    obtain ⟨row, mem, same⟩ := mem_map.mp listed
    simp only [WorkItemRow.links, Prod.mk.injEq] at same
    exact ⟨row, mem, same.1, mem_parents.mpr ⟨same.2.2.1.symm, given⟩⟩
  intro acyclic
  apply acyclic "first"
  refine TransGen.head (edge "first" "second" [] (by decide) ?_)
    (.single (edge "second" "first" ["first"] (by decide) ?_))
  · simp [links]
  · simp [links]

end AgentMate
