import AgentMate.RunPlanUpdates

/-!
# Promotion of plan items

`promote_plan_item` makes a work item of one item of the plan of a Run. It reads the Run,
creates the work item, in the local table or through the Server, and links it with
`link_run_plan_work_item`; these are separate steps, and the request may end between any two
of them. `created` and `responses` are history: the work items that were created, each with
its plan item, and the work items that the successful responses name.
-/

namespace AgentMate.PlanPromotion

open RunPlans PlainText Interleaving TransitionSystem Rollback List

/-- A work item that exists; `mirrored` when the local table has its row. -/
structure BoardItem where
  id : String
  projectId : String
  title : String
  status : String
  source : String
  description : String
  mirrored : Bool

structure PromotionStore where
  plans : PlanStore
  projectId : Option String
  /-- the project is one of the Server -/
  serverOrigin : Bool
  board : List BoardItem
  created : List (String × String)
  responses : List (String × String)

/-- How `create_item` ends: the item is there with its row, or the Server's answer came but
the listing after it did not, or the answer was lost, or nothing was created. -/
inductive CreateOutcome where
  | stored | unlisted | lost | failed
  deriving DecidableEq, Repr

structure PromotionInput where
  now : Time
  workItemId : String
  outcome : CreateOutcome

inductive PromotionRequest where
  | replace (rawItems : List Json) (now : Time)
  | patch (patches : List Json) (now : Time)
  | promote (planItemId : String)
  /-- a pull that brings every work item of the Server to the local table -/
  | mirror

/-- A promotion that has read the Run, that has created its work item, or whose link has read
the plan. -/
inductive PromotionTicket where
  | create (planItemId : String) (item : PlanItem)
  | link (planItemId workItemId : String)
  | commit (planItemId workItemId : String) (seen : Plan) (rawItems : List Json)

section

variable (host : PlanHost) (store : PromotionStore)

def PromotionStore.plan (store : PromotionStore) : Plan := store.plans.row.plan

/-- `status_map`. -/
def boardStatus : PlanStatus → String
  | .pending => "todo"
  | .inProgress => "doing"
  | .completed => "review"
  | .blocked => "paused"

/-- `get_work_item` of the link, in the project of the Run. -/
def PromotionStore.linked? (item : PlanItem) : Option BoardItem :=
  match item.workItemId with
  | none => none
  | some linkedId =>
    if linkedId = "" then none
    else (store.board.find? fun row => row.mirrored && row.id = linkedId).filter fun row =>
      some row.projectId = store.projectId

def PromotionStore.respond (planItemId workItemId : String) : PromotionStore :=
  { store with responses := store.responses ++ [(planItemId, workItemId)] }

/-- `promote_plan_item` as far as the check of the link. -/
def PromotionStore.promote (planItemId : String) : PromotionStore × Option PromotionTicket :=
  if store.projectId = none ∨ store.projectId = some "" then (store, none)
  else
    match store.plan.find? fun item => item.id = planItemId with
    | none => (store, none)
    | some item =>
      match store.linked? item with
      | some row => (store.respond planItemId row.id, none)
      | none => (store, some (.create planItemId item))

def PromotionStore.boardItem (item : PlanItem) (workItemId : String) (mirrored : Bool) :
    BoardItem where
  id := workItemId
  projectId := store.projectId.getD ""
  title := clip 200 item.title
  status := boardStatus item.status
  source := "RunPlan"
  description := "由 AgentMate Run " ++ store.plans.row.id ++ " 的执行计划提升。"
  mirrored := mirrored

def PromotionStore.addItem (planItemId : String) (item : PlanItem) (workItemId : String)
    (mirrored : Bool) : PromotionStore :=
  { store with
    board := store.board ++ [store.boardItem item workItemId mirrored]
    created := store.created ++ [(planItemId, workItemId)] }

def isPlainId (text : String) : Bool := text ≠ "" && clip 100 (strip text) = text

/-- `new_uuid` gives an id that neither an item nor a link of the plan has. -/
def PromotionStore.fresh (workItemId : String) : Bool :=
  isPlainId workItemId && store.board.all (fun row => row.id ≠ workItemId) &&
    store.plan.all fun item => item.workItemId ≠ some workItemId

/-- `create_item`. Only the Server's items can go without a row, or without an answer. -/
def PromotionStore.create (planItemId : String) (item : PlanItem) (input : PromotionInput) :
    Option (PromotionStore × Option PromotionTicket) :=
  match input.outcome with
  | .failed => some (store, none)
  | .stored =>
    if store.fresh input.workItemId then
      some (store.addItem planItemId item input.workItemId true,
        some (.link planItemId input.workItemId))
    else none
  | .unlisted =>
    if store.serverOrigin ∧ store.fresh input.workItemId then
      some (store.addItem planItemId item input.workItemId false,
        some (.link planItemId input.workItemId))
    else none
  | .lost =>
    if store.serverOrigin ∧ store.fresh input.workItemId then
      some (store.addItem planItemId item input.workItemId false, none)
    else none

def PromotionStore.commit (op : PlanOp) (plan : Except PlanError Plan) (now : Time) :
    PromotionStore :=
  { store with plans := commitPlan store.plans op plan now }

def PromotionStore.replaced (rawItems : List Json) : Except PlanError Plan :=
  canonicalRunPlan host store.plans.row.id rawItems store.plan

def promotionCall : PromotionRequest → Option (PromotionStore × Option PromotionTicket)
  | .replace rawItems now =>
    some (store.commit (.replace rawItems) (store.replaced host rawItems) now, none)
  | .patch patches now =>
    some (store.commit (.patch patches) (patchedRunPlan host patches store.plan) now, none)
  | .promote planItemId => some (store.promote planItemId)
  | .mirror => some ({ store with
      board := store.board.map fun row => { row with mirrored := true } }, none)

def promotionResume (ticket : PromotionTicket) (input : PromotionInput) :
    Option (PromotionStore × Option PromotionTicket) :=
  match ticket with
  | .create planItemId item => store.create planItemId item input
  | .link planItemId workItemId =>
    some (store, (linkedItems planItemId workItemId store.plan).toOption.map
      (PromotionTicket.commit planItemId workItemId store.plan))
  | .commit planItemId workItemId _ rawItems =>
    match store.replaced host rawItems with
    | .ok plan =>
      some ((store.commit (.link planItemId workItemId) (.ok plan) input.now).respond
        planItemId workItemId, none)
    | .error _ => some (store, none)

end

def promotionRoutine (host : PlanHost) :
    Routine PromotionStore PromotionRequest PromotionInput PromotionTicket where
  call := promotionCall host
  resume := promotionResume host

section

variable (host : PlanHost)

def rawId (raw : Json) : String := clip 100 (strip (firstText host raw ["id"]))

def rawTitle (raw : Json) : String := clip 300 (strip (firstText host raw ["title", "text"]))

/-- The item of the plan that `_canonical_run_plan` takes the raw item for, after raw items
with the title keys `earlier`. -/
def rawMatch (current : Plan) (earlier : List String) (raw : Json) : Option PlanItem :=
  matchedItem host current (rawId host raw) (host.casefold (rawTitle host raw))
    (earlier.count (host.casefold (rawTitle host raw)))

def rawKnown (current : Plan) (earlier : List String) (raw : Json) : String :=
  if rawId host raw ≠ "" then rawId host raw
  else ((rawMatch host current earlier raw).map PlanItem.id).getD ""

def rawItemId (runId : String) (current : Plan) (earlier : List String) (raw : Json) : String :=
  if rawKnown host current earlier raw ≠ "" then rawKnown host current earlier raw
  else stablePlanItemId host runId (rawTitle host raw)
    (earlier.count (host.casefold (rawTitle host raw)))

def rawWorkItem (current : Plan) (earlier : List String) (raw : Json) : String :=
  match raw.getTruthy "work_item_id" with
  | some linked => linked.pyStr host.toPyText
  | none => ((rawMatch host current earlier raw).bind PlanItem.workItemId).getD ""

/-- A raw item that stands for the item of the plan and gives it no other id and no other
work item. -/
def speaksOf (current : Plan) (item : PlanItem) (earlier : List String) (raw : Json) : Bool :=
  decide (rawMatch host current earlier raw = some item) &&
    (decide (rawId host raw = "") || decide (rawId host raw = item.id)) &&
    (raw.getTruthy "work_item_id").all fun linked =>
      decide (item.workItemId = some (clip 100 (strip (linked.pyStr host.toPyText))))

/-- A raw item of the list speaks of the item. -/
def namedIn (current : Plan) (item : PlanItem) : List String → List Json → Bool
  | _, [] => false
  | earlier, raw :: rest =>
    speaksOf host current item earlier raw ||
      namedIn current item (host.casefold (rawTitle host raw) :: earlier) rest

/-- An id that is missing, or that does not end in a blank once it is cut. -/
def isSettled (text : String) : Bool := text = "" || isPlainId text

def settledRaw (raw : Json) : Bool :=
  ["id", "work_item_id"].all fun key => isSettled (clip 100 (strip (firstText host raw [key])))

/-- `hexdigest()`. -/
def HexDigest : Prop :=
  ∀ text, ∀ char ∈ (host.sha256 text).toList, char ∈ "0123456789abcdef".toList

end

section

variable {host : PlanHost} {runId : String} {current plan : Plan}

def itemLink (item : PlanItem) : String × Option String := (item.id, item.workItemId)

def planLinks (plan : Plan) : List (String × Option String) := plan.map itemLink

def isPlainLink (link : String × Option String) : Bool :=
  isPlainId link.1 && link.2.all isPlainId

theorem links_fst (plan : Plan) : (planLinks plan).map Prod.fst = plan.ids := by
  simp [planLinks, Plan.ids, itemLink]

theorem renumber_links (plan : Plan) : (planLinks (renumber plan)).Perm (planLinks plan) := by
  have sorted := perm_insertionSort (fun left right : PlanItem =>
    left.order < right.order ∨ (left.order = right.order ∧ left.id ≤ right.id)) plan
  have unchanged : ∀ items : Plan, planLinks (items.mapIdx fun index item =>
      { item with order := index }) = planLinks items := by
    intro items
    apply ext_getElem
    · simp [planLinks]
    · simp [planLinks, itemLink]
  rw [renumber, unchanged]
  exact sorted.map itemLink

theorem plain_id {text : String} (plain : isPlainId text = true) :
    text ≠ "" ∧ clip 100 (strip text) = text := by
  simpa [isPlainId] using plain

theorem text_truthy {text : String} (given : text ≠ "") : (Json.str text).truthy = true := by
  simpa [Json.truthy] using given

theorem clip_strip_empty : clip 100 (strip "") = "" := rfl

theorem linked_item_id (old : PlanItem) (link : Option String) (given : old.id ≠ "") :
    firstText host (old.json link) ["id"] = old.id := by
  have found : (old.json link).getTruthy "id" = some (.str old.id) := by
    simp [PlanItem.json, Json.getTruthy, Json.get?, Option.filter, text_truthy given]
  simp [firstText, found, Json.pyStr]

theorem linked_item_link (old : PlanItem) (link : Option String) :
    (old.json link).getTruthy "work_item_id" = (link.map Json.str).filter Json.truthy := by
  cases link with
  | none => simp [PlanItem.json, Json.getTruthy, Json.get?]
  | some workItemId => simp [PlanItem.json, Json.getTruthy, Json.get?]

theorem matched_item {titleKey : String} {occurrence : Nat} {old : PlanItem}
    (unique : current.ids.Nodup) (mem : old ∈ current) (given : old.id ≠ "") :
    matchedItem host current old.id titleKey occurrence = some old := by
  have back : (current.reverse.map PlanItem.id).Nodup := by
    rw [map_reverse, nodup_reverse]
    exact unique
  have found : current.reverse.find? (fun item => item.id = old.id) = some old :=
    Table.lookup_of_mem back (mem_reverse.mpr mem)
  simp [matchedItem, given, found]

theorem linked_item_rest (old : PlanItem) (link : Option String) :
    (old.json link).getTruthy "status" = some (.str old.status.name) ∧
      (old.json link).get? "depends_on" = some (.arr (old.dependsOn.map Json.str)) ∧
      (old.json link).get? "order" = some (.int old.order) := by
  have given : old.status.name ≠ "" := by
    cases old.status <;> decide
  simp [PlanItem.json, Json.getTruthy, Json.get?, Option.filter, text_truthy given]

theorem canonical_link {index : Nat} {earlier used : List String} {titleKey : String}
    {old item : PlanItem} {link : Option String} (unique : current.ids.Nodup)
    (mem : old ∈ current) (plain : isPlainLink (old.id, link) = true)
    (kept : link = none → old.workItemId = none)
    (done : canonicalItem host runId current index earlier used (old.json link) =
      .ok (titleKey, item)) : itemLink item = (old.id, link) := by
  obtain ⟨plainId, plainLink⟩ := Bool.and_eq_true_iff.mp plain
  obtain ⟨given, unchanged⟩ := plain_id plainId
  obtain ⟨status, depends, order⟩ := linked_item_rest old link
  have named : firstText host (old.json link) ["id"] = old.id := linked_item_id old link given
  have linked := linked_item_link old link
  have object : ∃ fields, old.json link = .obj fields := ⟨_, rfl⟩
  obtain ⟨fields, same⟩ := object
  rw [same] at done status depends order named linked
  unfold canonicalItem at done
  simp only [bind, Except.bind, pure, Except.pure, throw, throwThe, MonadExceptOf.throw, named,
    status, depends, order, linked, Json.pyInt, unchanged, given, if_pos, ne_eq,
    not_false_eq_true, matched_item unique mem given] at done
  split at done
  · cases done
  · split at done
    · cases done
    · split at done
      · cases done
      · cases done
        cases link with
        | none => simp [itemLink, kept rfl, clip_strip_empty]
        | some workItemId =>
          have plainItem : isPlainId workItemId = true := by simpa using plainLink
          obtain ⟨set, whole⟩ := plain_id plainItem
          simp [itemLink, Option.filter, text_truthy set, Json.pyStr, set, whole]

theorem canonical_links {newLink : PlanItem → Option String} {items : List PlanItem}
    {index : Nat} {earlier : List String} {normalized : Plan} (unique : current.ids.Nodup)
    (members : ∀ old ∈ items, old ∈ current)
    (plain : ∀ old ∈ items, isPlainLink (old.id, newLink old) = true)
    (kept : ∀ old ∈ items, newLink old = none → old.workItemId = none)
    (done : canonicalItems host runId current index earlier normalized
      (items.map fun old => old.json (newLink old)) = .ok plan) :
    planLinks plan = planLinks normalized ++ items.map fun old => (old.id, newLink old) := by
  induction items generalizing index earlier normalized with
  | nil =>
    cases done
    simp
  | cons old rest ih =>
    obtain ⟨⟨titleKey, item⟩, first, done⟩ := bind_ok done
    have link := canonical_link unique (members old (by simp)) (plain old (by simp))
      (kept old (by simp)) first
    have later := ih (fun other mem => members other (by simp [mem]))
      (fun other mem => plain other (by simp [mem]))
      (fun other mem => kept other (by simp [mem])) done
    rw [later]
    simp [planLinks, link]

def linkedTo (planItemId workItemId : String) (link : String × Option String) :
    String × Option String :=
  if link.1 = planItemId then (link.1, some workItemId) else link

theorem linked_plan_links {planItemId workItemId : String} {rawItems : List Json}
    (unique : current.ids.Nodup) (plain : ∀ link ∈ planLinks current, isPlainLink link = true)
    (named : isPlainId workItemId = true)
    (read : linkedItems planItemId workItemId current = .ok rawItems)
    (done : canonicalRunPlan host runId rawItems current = .ok plan) :
    (planLinks plan).Perm ((planLinks current).map (linkedTo planItemId workItemId)) := by
  let newLink (old : PlanItem) : Option String :=
    if old.id = planItemId then some workItemId else old.workItemId
  have raws : rawItems = current.map fun old => old.json (newLink old) := by
    rw [linkedItems] at read
    cases found : current.find? fun item => item.id = planItemId with
    | none =>
      rw [found] at read
      cases read
    | some first =>
      rw [found] at read
      cases read
      apply map_congr_left
      intro item mem
      by_cases own : item.id = planItemId
      · have only : current.find? (fun other => other.id = item.id) = some item :=
          Table.lookup_of_mem unique mem
        rw [own, found] at only
        cases only
        simp [newLink, own]
      · simp [newLink, own]
  rw [canonicalRunPlan] at done
  split at done
  · cases done
  · obtain ⟨normalized, listed, done⟩ := bind_ok done
    obtain ⟨_, valid, same⟩ := bind_ok done
    cases same
    rw [raws] at listed
    have plainNew : ∀ old ∈ current, isPlainLink (old.id, newLink old) = true := by
      intro old mem
      have before := plain (itemLink old) (mem_map_of_mem mem)
      by_cases own : old.id = planItemId
      · simp_all [isPlainLink, itemLink, newLink]
      · simpa [itemLink, newLink, own] using before
    have keptNone : ∀ old ∈ current, newLink old = none → old.workItemId = none := by
      intro old _ unlinked
      by_cases own : old.id = planItemId
      · simp [newLink, own] at unlinked
      · simpa [newLink, own] using unlinked
    have links := canonical_links unique (fun _ mem => mem) plainNew keptNone listed
    have same : (planLinks current).map (linkedTo planItemId workItemId) =
        current.map fun old => (old.id, newLink old) := by
      rw [planLinks, map_map]
      apply map_congr_left
      intro old _
      by_cases own : old.id = planItemId <;> simp [linkedTo, itemLink, newLink, own]
    rw [same, ← nil_append (current.map _)]
    exact links ▸ renumber_links normalized

theorem patch_item_link {item patched : PlanItem} {patch : Json}
    (done : patchItem host item patch = .ok patched) : itemLink patched = itemLink item := by
  unfold patchItem at done
  generalize patch.get? "title" = title, patch.get? "status" = status,
    patch.get? "order" = order, patch.get? "depends_on" = depends at done
  -- one field of the patch after the other, each given or not
  cases title <;> cases status <;> cases order <;> cases depends <;>
    simp only [bind, Except.bind, pure, Except.pure, throw, throwThe, MonadExceptOf.throw] at done
  all_goals repeat' split at done
  all_goals simp only [reduceCtorEq, Except.ok.injEq] at done
  all_goals simp only [itemLink, ← done]

theorem apply_patch_links {patch : Json} (unique : current.ids.Nodup)
    (done : applyPatch host current patch = .ok plan) : planLinks plan = planLinks current := by
  unfold applyPatch at done
  simp only [bind, Except.bind, pure, Except.pure, throw, throwThe, MonadExceptOf.throw] at done
  split at done
  · split at done
    · cases done
    · next item found =>
      split at done
      · cases done
      · next patched changed =>
        cases done
        have named := find?_some found
        simp only [decide_eq_true_eq] at named
        rw [planLinks, planLinks, map_map]
        apply map_congr_left
        intro other mem
        by_cases own : other.id = item.id
        · have same : other = item :=
            Table.unique_key_eq unique mem (mem_of_find?_eq_some found) own
          simp [same, ← named, patch_item_link changed]
        · simp [← named, own]
  · cases done

theorem items_by_id_unique (unique : plan.ids.Nodup) : itemsById plan = plan := by
  have later : ∀ (rest before : Plan), (before ++ rest).ids.Nodup → rest.foldl (fun items item =>
        if items.any fun other => other.id = item.id then
          items.map fun other => if other.id = item.id then item else other
        else items ++ [item]) before = before ++ rest := by
    intro rest
    induction rest with
    | nil => simp
    | cons item rest ih =>
      intro before nodup
      have absent : (before.any fun other => other.id = item.id) = false := by
        rw [Plan.ids, map_append] at nodup
        have apart := (nodup_append.mp nodup).2.2
        simp only [any_eq_false, decide_eq_true_eq]
        intro other mem
        exact apart other.id (mem_map_of_mem mem) item.id (by simp)
      rw [foldl_cons, if_neg (by simp [absent]), ih (before ++ [item]) (by simpa using nodup)]
      simp
  exact later plan [] unique

theorem patched_links {patches : List Json} (unique : current.ids.Nodup)
    (done : patchedRunPlan host patches current = .ok plan) :
    (planLinks plan).Perm (planLinks current) := by
  rw [patchedRunPlan, items_by_id_unique unique] at done
  split at done
  · cases done
  · obtain ⟨items, patched, done⟩ := bind_ok done
    obtain ⟨_, valid, same⟩ := bind_ok done
    cases same
    have kept : planLinks items = planLinks current := by
      apply fold_invariant (fun items : Plan => planLinks items = planLinks current) _ rfl patched
      intro items patch next _ same applied
      have ids : items.ids.Nodup := by
        rw [← links_fst, same, links_fst]
        exact unique
      rw [apply_patch_links ids applied, same]
    exact kept ▸ renumber_links items

theorem link_unique {planItemId : String} {left right : Option String}
    (unique : plan.ids.Nodup) (first : (planItemId, left) ∈ planLinks plan)
    (second : (planItemId, right) ∈ planLinks plan) : left = right := by
  rw [← links_fst] at unique
  exact congrArg Prod.snd (inj_on_of_nodup_map unique first second rfl)

theorem canonical_item_ok {index : Nat} {earlier used : List String} {raw : Json}
    {titleKey : String} {item : PlanItem}
    (done : canonicalItem host runId current index earlier used raw = .ok (titleKey, item)) :
    titleKey = host.casefold (rawTitle host raw) ∧
      item.id = rawItemId host runId current earlier raw ∧
      item.workItemId = (some (clip 100 (strip (rawWorkItem host current earlier raw)))).filter
        fun text => text ≠ "" := by
  have link : ∀ text : String, (if text = "" then none else some text) =
      (some text).filter fun text => text ≠ "" := by
    intro text
    by_cases empty : text = "" <;> simp [empty, Option.filter]
  unfold canonicalItem at done
  cases raw with
  | obj fields =>
    generalize (Json.obj fields).getTruthy "status" = status at done
    generalize (Json.obj fields).get? "depends_on" = depends at done
    generalize (Json.obj fields).get? "order" = order at done
    rw [rawWorkItem]
    generalize (Json.obj fields).getTruthy "work_item_id" = workItem at done ⊢
    simp only [bind, Except.bind, pure, Except.pure, throw, throwThe, MonadExceptOf.throw,
      ← rawId.eq_1, ← rawTitle.eq_1, ← rawMatch.eq_1, ← rawKnown.eq_1, ← rawItemId.eq_1, link]
      at done
    generalize rawItemId host runId current earlier (.obj fields) = itemId at done ⊢
    generalize rawMatch host current earlier (.obj fields) = matched at done ⊢
    generalize rawTitle host (.obj fields) = title at done ⊢
    split at done
    · cases done
    · split at done
      · cases done
      · -- the work item, the status, the dependencies and the order are each given or kept
        cases workItem
        all_goals
          dsimp only at done ⊢
          repeat' split at done
        all_goals simp only [reduceCtorEq, Except.ok.injEq, Prod.mk.injEq] at done
        all_goals
          obtain ⟨rfl, rfl⟩ := done
          exact ⟨rfl, rfl, by simp⟩
  | _ => cases done

theorem matched_mem {explicitId titleKey : String} {occurrence : Nat} {old : PlanItem}
    (matched : matchedItem host current explicitId titleKey occurrence = some old) :
    old ∈ current := by
  have titled : ∀ {found : PlanItem},
      (current.filter fun item => host.casefold (strip item.title) = titleKey)[occurrence]? =
        some found → found ∈ current :=
    fun found => mem_of_mem_filter (mem_of_getElem? found)
  rw [matchedItem] at matched
  split at matched
  · exact titled matched
  · cases named : current.reverse.find? fun item => item.id = explicitId with
    | none =>
      rw [named] at matched
      exact titled matched
    | some item =>
      rw [named] at matched
      cases matched
      exact mem_reverse.mp (mem_of_find?_eq_some named)

theorem plain_links {item : PlanItem} (plain : ∀ link ∈ planLinks current, isPlainLink link = true)
    (mem : item ∈ current) :
    isPlainId item.id = true ∧ ∀ linked ∈ item.workItemId, isPlainId linked = true := by
  have both := plain (itemLink item) (mem_map_of_mem mem)
  rw [isPlainLink, Bool.and_eq_true] at both
  refine ⟨both.1, fun linked set => ?_⟩
  have second := both.2
  rw [itemLink, Option.mem_def.mp set] at second
  exact second

theorem plain_of_solid {text : String}
    (solid : ∀ char ∈ text.toList, isWhitespace char = false) (filled : text ≠ "")
    (short : text.toList.length ≤ 100) : isPlainId text = true := by
  rw [isPlainId, strip_solid solid, clip, take_of_length_le short, String.ofList_toList]
  simpa using filled

theorem stable_id_plain (hex : HexDigest host) (title : String) (occurrence : Nat) :
    isPlainId (stablePlanItemId host runId title occurrence) = true := by
  have digits : ∀ char ∈ "0123456789abcdef".toList, isWhitespace char = false :=
    List.forall_iff_forall_mem.mp (by decide)
  have label : ∀ char ∈ "plan_".toList, isWhitespace char = false :=
    List.forall_iff_forall_mem.mp (by decide)
  have chars : ∃ source, (stablePlanItemId host runId title occurrence).toList =
      "plan_".toList ++ (host.sha256 source).toList.take 20 := by
    refine ⟨runId ++ "\x00" ++ host.casefold title ++ "\x00" ++ toString occurrence, ?_⟩
    simp [stablePlanItemId, clip]
  obtain ⟨source, chars⟩ := chars
  apply plain_of_solid
  · intro char mem
    rw [chars] at mem
    rcases mem_append.mp mem with front | back
    · exact label char front
    · exact digits char (hex source char (mem_of_mem_take back))
  · intro empty
    rw [empty] at chars
    cases chars
  · rw [chars, length_append, length_take]
    have five : "plan_".toList.length = 5 := rfl
    omega

theorem settled_plain {text : String} (settled : isSettled text = true) (filled : text ≠ "") :
    isPlainId text = true := by
  simpa [isSettled, filled] using settled

theorem settled_raw {raw : Json} (settled : settledRaw host raw = true) :
    isSettled (rawId host raw) = true ∧ ∀ linked, raw.getTruthy "work_item_id" = some linked →
        isSettled (clip 100 (strip (linked.pyStr host.toPyText))) = true := by
  simp only [settledRaw, all_cons, all_nil, Bool.and_true, Bool.and_eq_true] at settled
  refine ⟨settled.1, fun linked given => ?_⟩
  have text : firstText host raw ["work_item_id"] = linked.pyStr host.toPyText := by
    simp [firstText, given]
  rw [← text]
  exact settled.2

section

variable {index : Nat} {earlier used : List String} {raw : Json} {titleKey : String}
  {item old : PlanItem}

theorem canonical_item_plain (hex : HexDigest host)
    (plain : ∀ link ∈ planLinks current, isPlainLink link = true)
    (settled : settledRaw host raw = true)
    (done : canonicalItem host runId current index earlier used raw = .ok (titleKey, item)) :
    isPlainLink (itemLink item) = true := by
  obtain ⟨-, named, linked⟩ := canonical_item_ok done
  obtain ⟨settledId, settledLink⟩ := settled_raw settled
  have plainId : isPlainId item.id = true := by
    rw [named, rawItemId, rawKnown]
    by_cases given : rawId host raw = ""
    · cases matched : rawMatch host current earlier raw with
      | none => simpa [given] using stable_id_plain hex _ _
      | some old =>
        have own := (plain_links plain (matched_mem matched)).1
        simpa [given, (plain_id own).1] using own
    · simpa [given] using settled_plain settledId given
  have plainLink : ∀ workItemId ∈ item.workItemId, isPlainId workItemId = true := by
    intro workItemId set
    rw [linked] at set
    obtain ⟨same, filled⟩ := Option.filter_eq_some_iff.mp set
    rw [← Option.some.inj same] at filled ⊢
    simp only [ne_eq, decide_eq_true_eq] at filled
    cases given : raw.getTruthy "work_item_id" with
    | some value =>
      rw [rawWorkItem, given] at filled ⊢
      exact settled_plain (settledLink value given) filled
    | none =>
      rw [rawWorkItem, given] at filled ⊢
      cases matched : (rawMatch host current earlier raw).bind PlanItem.workItemId with
      | none => simp [matched, clip_strip_empty] at filled
      | some stored =>
        obtain ⟨old, found, own⟩ := Option.bind_eq_some_iff.mp matched
        have kept := (plain_links plain (matched_mem found)).2 stored own
        simpa [matched, (plain_id kept).2] using kept
  rw [isPlainLink, itemLink, plainId, Bool.true_and, Option.all_eq_true]
  exact plainLink

/-- A raw item that speaks of a linked item of the plan leaves it its id and its link. -/
theorem canonical_item_kept {workItemId : String}
    (plain : ∀ link ∈ planLinks current, isPlainLink link = true)
    (link : old.workItemId = some workItemId)
    (spoken : speaksOf host current old earlier raw = true)
    (done : canonicalItem host runId current index earlier used raw = .ok (titleKey, item)) :
    itemLink item = (old.id, some workItemId) := by
  obtain ⟨-, named, linked⟩ := canonical_item_ok done
  simp only [speaksOf, Bool.and_eq_true, Bool.or_eq_true, decide_eq_true_eq] at spoken
  obtain ⟨⟨matched, id⟩, work⟩ := spoken
  obtain ⟨plainId, plainLink⟩ := plain_links plain (matched_mem matched)
  have given : old.id ≠ "" := (plain_id plainId).1
  have own : item.id = old.id := by
    rw [named, rawItemId, rawKnown, matched]
    rcases id with missing | same
    · simp [missing, given]
    · simp [same, given]
  obtain ⟨filled, whole⟩ := plain_id (plainLink workItemId link)
  have kept : item.workItemId = some workItemId := by
    rw [linked, rawWorkItem, matched]
    cases asked : raw.getTruthy "work_item_id" with
    | none => simp [link, whole, filled, Option.filter]
    | some value =>
      rw [asked, Option.all_some, decide_eq_true_eq, link] at work
      simp [← Option.some.inj work, filled, Option.filter]
  rw [itemLink, own, kept]

end

theorem canonical_items_plain {index : Nat} {earlier : List String} {normalized : Plan}
    {rawItems : List Json} (hex : HexDigest host)
    (plain : ∀ link ∈ planLinks current, isPlainLink link = true)
    (settled : ∀ raw ∈ rawItems, settledRaw host raw = true)
    (before : ∀ link ∈ planLinks normalized, isPlainLink link = true)
    (done : canonicalItems host runId current index earlier normalized rawItems = .ok plan) :
    ∀ link ∈ planLinks plan, isPlainLink link = true := by
  induction rawItems generalizing index earlier normalized with
  | nil =>
    cases done
    exact before
  | cons raw rest ih =>
    obtain ⟨⟨titleKey, item⟩, first, later⟩ := bind_ok done
    refine ih (fun other mem => settled other (mem_cons_of_mem _ mem)) ?_ later
    intro link listed
    rw [planLinks, map_append] at listed
    rcases mem_append.mp listed with old | new
    · exact before link old
    · rw [map_singleton, mem_singleton] at new
      rw [new]
      exact canonical_item_plain hex plain (settled raw mem_cons_self) first

theorem canonical_items_grow {index : Nat} {earlier : List String} {normalized : Plan}
    {rawItems : List Json}
    (done : canonicalItems host runId current index earlier normalized rawItems = .ok plan) :
    planLinks normalized ⊆ planLinks plan := by
  induction rawItems generalizing index earlier normalized with
  | nil =>
    cases done
    exact List.Subset.refl _
  | cons raw rest ih =>
    obtain ⟨⟨titleKey, item⟩, first, later⟩ := bind_ok done
    refine List.Subset.trans ?_ (ih later)
    rw [planLinks, planLinks, map_append]
    exact subset_append_left _ _

theorem canonical_items_kept {index : Nat} {earlier : List String} {normalized : Plan}
    {rawItems : List Json} {old : PlanItem} {workItemId : String}
    (plain : ∀ link ∈ planLinks current, isPlainLink link = true)
    (link : old.workItemId = some workItemId)
    (spoken : namedIn host current old earlier rawItems = true)
    (done : canonicalItems host runId current index earlier normalized rawItems = .ok plan) :
    (old.id, some workItemId) ∈ planLinks plan := by
  induction rawItems generalizing index earlier normalized with
  | nil => cases spoken
  | cons raw rest ih =>
    obtain ⟨⟨titleKey, item⟩, first, later⟩ := bind_ok done
    rw [namedIn, Bool.or_eq_true] at spoken
    rcases spoken with own | other
    · apply canonical_items_grow later
      rw [← canonical_item_kept plain link own first, planLinks, map_append]
      exact mem_append_right _ (mem_singleton.mpr rfl)
    · obtain ⟨rfl, -, -⟩ := canonical_item_ok first
      exact ih other later

theorem canonical_plan_items {rawItems : List Json}
    (done : canonicalRunPlan host runId rawItems current = .ok plan) :
    ∃ normalized, canonicalItems host runId current 0 [] [] rawItems = .ok normalized ∧
      (planLinks plan).Perm (planLinks normalized) := by
  rw [canonicalRunPlan] at done
  split at done
  · cases done
  · obtain ⟨normalized, listed, done⟩ := bind_ok done
    obtain ⟨_, valid, same⟩ := bind_ok done
    cases same
    exact ⟨normalized, listed, renumber_links normalized⟩

end

section

variable {host : PlanHost} {store next : PromotionStore} {later : Option PromotionTicket}

def PromotionStore.Named (store : PromotionStore) (workItemId : String) : Prop :=
  ∃ row ∈ store.board, row.id = workItemId ∧ some row.projectId = store.projectId

/-- Every work item that was created for the plan item was answered, and the one that the plan
item is linked to has its row in the local table. -/
structure PromotionStore.Settled (store : PromotionStore) (planItemId : String) : Prop where
  answered : ∀ workItemId, (planItemId, workItemId) ∈ store.created →
    (planItemId, workItemId) ∈ store.responses
  listed : ∀ item ∈ store.plan, item.id = planItemId → ∀ row ∈ store.board,
    item.workItemId = some row.id → some row.projectId = store.projectId → row.mirrored = true

/-- The raw items speak of every plan item that a response named, and their ids do not end in
a blank once they are cut. -/
structure PromotionStore.Replaces (host : PlanHost) (store : PromotionStore)
    (rawItems : List Json) : Prop where
  settled : ∀ raw ∈ rawItems, settledRaw host raw = true
  spoken : ∀ response ∈ store.responses, ∀ item ∈ store.plan, item.id = response.1 →
    namedIn host store.plan item [] rawItems = true

def PromotionTicket.planItemId : PromotionTicket → String
  | .create planItemId _ | .link planItemId _ | .commit planItemId _ _ _ => planItemId

def PromotionTicket.SeesPlan (store : PromotionStore) : PromotionTicket → Prop
  | .commit _ _ seen _ => store.plan = seen
  | _ => True

/-- A promotion of a plan item starts when no other one of it is under way and the item is
settled; a replacement speaks of the promoted items; and no plan write falls between the
reading and the writing of a link. -/
def Lone (host : PlanHost) (system : System PromotionStore PromotionTicket) :
    Event PromotionRequest PromotionInput → Prop
  | .call (.promote planItemId) =>
    (∀ ticket ∈ system.pending, ticket.planItemId ≠ planItemId) ∧ system.data.Settled planItemId
  | .call (.replace rawItems _) => system.data.Replaces host rawItems
  | .resume index _ => ∀ ticket ∈ system.pending[index]?, ticket.SeesPlan system.data
  | _ => True

structure PromotionStore.Good (store : PromotionStore) : Prop where
  ids : store.plan.ids.Nodup
  plain : ∀ link ∈ planLinks store.plan, isPlainLink link = true
  board : (store.board.map BoardItem.id).Nodup
  once : (store.created.map Prod.fst).Nodup
  made : ∀ planItemId workItemId, (planItemId, workItemId) ∈ store.created → store.Named workItemId
  answered : ∀ planItemId workItemId, (planItemId, workItemId) ∈ store.responses →
    store.Named workItemId ∧ (planItemId, some workItemId) ∈ planLinks store.plan
  same : ∀ planItemId made answered, (planItemId, made) ∈ store.created →
    (planItemId, answered) ∈ store.responses → made = answered

def PromotionTicket.Ready (store : PromotionStore) : PromotionTicket → Prop
  | .create planItemId _ => store.projectId.isSome ∧
      ∀ workItemId, (planItemId, workItemId) ∉ store.created ++ store.responses
  | .link planItemId workItemId =>
    (planItemId, workItemId) ∈ store.created ∧ isPlainId workItemId = true
  | .commit planItemId workItemId seen rawItems =>
    (planItemId, workItemId) ∈ store.created ∧ isPlainId workItemId = true ∧
      linkedItems planItemId workItemId seen = .ok rawItems

/-- What a step adds to the history is about one plan item, if it adds anything. -/
structure PromotionStore.Touches (store next : PromotionStore) (planItemId : Option String) :
    Prop where
  project : next.projectId = store.projectId
  created : ∀ pair ∈ store.created, pair ∈ next.created
  history : ∀ pair ∈ next.created ++ next.responses,
    pair ∈ store.created ++ store.responses ∨ planItemId = some pair.1

theorem touches_same {planItemId : Option String} (project : next.projectId = store.projectId)
    (created : next.created = store.created) (responses : next.responses = store.responses) :
    store.Touches next planItemId := by
  refine ⟨project, fun pair mem => created ▸ mem, fun pair mem => .inl ?_⟩
  rwa [created, responses] at mem

theorem touches_respond (store : PromotionStore) (planItemId workItemId : String) :
    store.Touches (store.respond planItemId workItemId) (some planItemId) := by
  refine ⟨rfl, fun _ mem => mem, fun pair mem => ?_⟩
  rw [PromotionStore.respond, ← append_assoc] at mem
  rcases mem_append.mp mem with kept | new
  · exact .inl kept
  · exact .inr (by rw [mem_singleton.mp new])

theorem ready_kept {ticket : PromotionTicket} {planItemId : Option String}
    (touches : store.Touches next planItemId) (apart : planItemId ≠ some ticket.planItemId)
    (ready : ticket.Ready store) : ticket.Ready next := by
  cases ticket with
  | create own item =>
    refine ⟨touches.project ▸ ready.1, fun workItemId mem => ?_⟩
    rcases touches.history _ mem with before | changed
    · exact ready.2 workItemId before
    · exact apart changed
  | link own workItemId => exact ⟨touches.created _ ready.1, ready.2⟩
  | commit own workItemId seen rawItems => exact ⟨touches.created _ ready.1, ready.2⟩

theorem good_once (good : store.Good) {planItemId first second : String}
    (left : (planItemId, first) ∈ store.created) (right : (planItemId, second) ∈ store.created) :
    first = second :=
  congrArg Prod.snd (inj_on_of_nodup_map good.once left right rfl)

theorem good_plan {plans : PlanStore} (good : store.Good) (ids : plans.row.plan.ids.Nodup)
    (plain : ∀ link ∈ planLinks plans.row.plan, isPlainLink link = true)
    (kept : ∀ response ∈ store.responses, (response.1, some response.2) ∈ planLinks store.plan →
      (response.1, some response.2) ∈ planLinks plans.row.plan) :
    PromotionStore.Good { store with plans := plans } := by
  constructor
  · exact ids
  · exact plain
  · exact good.board
  · exact good.once
  · exact good.made
  · intro planItemId workItemId response
    obtain ⟨named, own⟩ := good.answered planItemId workItemId response
    exact ⟨named, kept (planItemId, workItemId) response own⟩
  · exact good.same

theorem commit_plan (store : PromotionStore) (op : PlanOp) (plan : Plan) (now : Time) :
    (store.commit op (.ok plan) now).plan = plan := (write_plan_row store.plans op plan now).1

theorem good_commit {op : PlanOp} {result : Except PlanError Plan} {now : Time}
    (good : store.Good) (ids : ∀ plan, result = .ok plan → plan.ids.Nodup)
    (plain : ∀ plan, result = .ok plan → ∀ link ∈ planLinks plan, isPlainLink link = true)
    (kept : ∀ plan, result = .ok plan → ∀ response ∈ store.responses,
      (response.1, some response.2) ∈ planLinks store.plan →
        (response.1, some response.2) ∈ planLinks plan) :
    (store.commit op result now).Good := by
  cases result with
  | error error => exact good
  | ok plan =>
    have same : (commitPlan store.plans op (.ok plan) now).row.plan = plan :=
      commit_plan store op plan now
    apply good_plan good
    · rw [same]
      exact ids plan rfl
    · rw [same]
      exact plain plan rfl
    · rw [same]
      exact kept plan rfl

theorem replace_good {rawItems : List Json} {now : Time} (hex : HexDigest host)
    (good : store.Good) (replaces : store.Replaces host rawItems) :
    (store.commit (.replace rawItems) (store.replaced host rawItems) now).Good := by
  apply good_commit good
  · exact fun plan done => (canonical_sound done).ids
  · intro plan done link listed
    obtain ⟨normalized, items, same⟩ := canonical_plan_items done
    exact canonical_items_plain hex good.plain replaces.settled (by simp [planLinks]) items link
      (same.mem_iff.mp listed)
  · intro plan done response answered linked
    obtain ⟨normalized, items, same⟩ := canonical_plan_items done
    obtain ⟨old, mem, own⟩ := mem_map.mp linked
    obtain ⟨named, link⟩ := Prod.mk.inj own
    have kept := canonical_items_kept good.plain link
      (replaces.spoken response answered old mem named) items
    rw [named] at kept
    exact same.mem_iff.mpr kept

theorem patch_good {patches : List Json} {now : Time} (good : store.Good) :
    (store.commit (.patch patches) (patchedRunPlan host patches store.plan) now).Good := by
  apply good_commit good
  · exact fun plan done => (patched_sound done).ids
  · intro plan done link listed
    exact good.plain link ((patched_links good.ids done).mem_iff.mp listed)
  · intro plan done response _ linked
    exact (patched_links good.ids done).mem_iff.mpr linked

theorem linked_some {item : PlanItem} {row : BoardItem} (found : store.linked? item = some row) :
    item.workItemId = some row.id ∧ store.Named row.id := by
  rw [PromotionStore.linked?] at found
  split at found
  · cases found
  · next linkedId linked =>
    split at found
    · cases found
    · obtain ⟨listed, project⟩ := Option.filter_eq_some_iff.mp found
      have named := find?_some listed
      simp only [Bool.and_eq_true, decide_eq_true_eq] at named
      have same : linkedId = row.id := named.2.symm
      rw [linked, same]
      exact ⟨rfl, row, mem_of_find?_eq_some listed, rfl, by simpa using project⟩

/-- The check of the link finds the work item that the plan item is linked to. -/
theorem linked_found {item : PlanItem} {workItemId : String} (good : store.Good)
    (mem : item ∈ store.plan) (link : item.workItemId = some workItemId)
    (named : store.Named workItemId) (settled : store.Settled item.id) :
    store.linked? item ≠ none := by
  obtain ⟨row, listed, rfl, project⟩ := named
  have mirrored := settled.listed item mem rfl row listed link project
  have filled : row.id ≠ "" := (plain_id ((plain_links good.plain mem).2 row.id link)).1
  have found : store.board.find? (fun other => other.mirrored && other.id = row.id) = some row := by
    apply find?_eq_some_iff_append.mpr
    obtain ⟨before, after, split⟩ := append_of_mem listed
    refine ⟨by simp [mirrored], before, after, split, fun other earlier => ?_⟩
    have apart := good.board
    rw [split, map_append, map_cons] at apart
    have differs := (nodup_append.mp apart).2.2 other.id (mem_map_of_mem earlier)
      row.id mem_cons_self
    simp [differs]
  rw [PromotionStore.linked?, link]
  simp [filled, found, project]

theorem respond_good {planItemId workItemId : String} (good : store.Good)
    (named : store.Named workItemId)
    (linked : (planItemId, some workItemId) ∈ planLinks store.plan)
    (own : ∀ made, (planItemId, made) ∈ store.created → made = workItemId) :
    (store.respond planItemId workItemId).Good := by
  constructor
  · exact good.ids
  · exact good.plain
  · exact good.board
  · exact good.once
  · exact good.made
  · intro other answer response
    rcases mem_append.mp response with old | new
    · exact good.answered other answer old
    · obtain ⟨rfl, rfl⟩ := Prod.mk.inj (mem_singleton.mp new)
      exact ⟨named, linked⟩
  · intro other made answer creation response
    rcases mem_append.mp response with old | new
    · exact good.same other made answer creation old
    · obtain ⟨rfl, rfl⟩ := Prod.mk.inj (mem_singleton.mp new)
      exact own made creation

theorem promote_good {planItemId : String} (good : store.Good)
    (settled : store.Settled planItemId) (promoted : store.promote planItemId = (next, later)) :
    next.Good ∧ store.Touches next (some planItemId) ∧
      ∀ own ∈ later, own.Ready next ∧ own.planItemId = planItemId := by
  rw [PromotionStore.promote] at promoted
  split at promoted
  · cases promoted
    exact ⟨good, touches_same rfl rfl rfl, by simp⟩
  · next project =>
    split at promoted
    · cases promoted
      exact ⟨good, touches_same rfl rfl rfl, by simp⟩
    · next item found =>
      have mem := mem_of_find?_eq_some found
      have own : item.id = planItemId := by simpa using find?_some found
      split at promoted
      · next row linked =>
        cases promoted
        obtain ⟨link, inProject⟩ := linked_some linked
        have listed : (planItemId, some row.id) ∈ planLinks store.plan := by
          rw [← link, ← own]
          exact mem_map_of_mem mem
        refine ⟨respond_good good inProject listed fun made creation => ?_,
          touches_respond store planItemId row.id, by simp⟩
        -- what was created was answered, so it is linked
        have answered := good.answered planItemId made (settled.answered made creation)
        exact Option.some.inj (link_unique good.ids answered.2 listed)
      · next unlinked =>
        cases promoted
        refine ⟨good, touches_same rfl rfl rfl, ?_⟩
        rintro ticket ⟨⟩
        refine ⟨⟨Option.isSome_iff_ne_none.mpr fun missing => project (.inl missing), ?_⟩, rfl⟩
        intro workItemId history
        have answered : (planItemId, workItemId) ∈ store.responses :=
          (mem_append.mp history).elim (settled.answered workItemId) id
        obtain ⟨named, listed⟩ := good.answered planItemId workItemId answered
        have same : (planItemId, item.workItemId) ∈ planLinks store.plan := by
          rw [← own]
          exact mem_map_of_mem mem
        exact linked_found good mem (link_unique good.ids same listed) named (own ▸ settled)
          unlinked

section

variable {planItemId workItemId : String} {item : PlanItem} {mirrored : Bool}

theorem named_add {other : String} (named : store.Named other) :
    (store.addItem planItemId item workItemId mirrored).Named other := by
  obtain ⟨row, listed, id, project⟩ := named
  exact ⟨row, mem_append_left _ listed, id, project⟩

theorem named_new (project : store.projectId.isSome) :
    (store.addItem planItemId item workItemId mirrored).Named workItemId := by
  obtain ⟨projectId, same⟩ := Option.isSome_iff_exists.mp project
  refine ⟨store.boardItem item workItemId mirrored, by simp [PromotionStore.addItem], rfl, ?_⟩
  simp [PromotionStore.boardItem, PromotionStore.addItem, same]

theorem touches_add : store.Touches (store.addItem planItemId item workItemId mirrored)
    (some planItemId) := by
  refine ⟨rfl, fun pair mem => mem_append_left _ mem, fun pair mem => ?_⟩
  rcases mem_append.mp mem with created | answered
  · rcases mem_append.mp created with old | new
    · exact .inl (mem_append_left _ old)
    · exact .inr (by rw [mem_singleton.mp new])
  · exact .inl (mem_append_right _ answered)

theorem add_item_good (good : store.Good) (project : store.projectId.isSome)
    (fresh : store.fresh workItemId = true)
    (first : ∀ workItemId, (planItemId, workItemId) ∉ store.created ++ store.responses) :
    (store.addItem planItemId item workItemId mirrored).Good := by
  simp only [PromotionStore.fresh, Bool.and_eq_true, all_eq_true, decide_eq_true_eq] at fresh
  constructor
  · exact good.ids
  · exact good.plain
  · rw [PromotionStore.addItem, map_append]
    refine nodup_append.mpr ⟨good.board, by simp, ?_⟩
    intro own listed other new same
    obtain ⟨row, mem, rfl⟩ := mem_map.mp listed
    exact fresh.1.2 row mem (same.trans (mem_singleton.mp new))
  · rw [PromotionStore.addItem, map_append]
    refine nodup_append.mpr ⟨good.once, by simp, ?_⟩
    intro own created other new same
    obtain ⟨pair, creation, rfl⟩ := mem_map.mp created
    have item : planItemId = pair.1 := (same.trans (mem_singleton.mp new)).symm
    exact first pair.2 (item ▸ mem_append_left _ creation)
  · intro other made creation
    rcases mem_append.mp creation with old | new
    · exact named_add (good.made other made old)
    · obtain ⟨rfl, rfl⟩ := Prod.mk.inj (mem_singleton.mp new)
      exact named_new project
  · intro other answer response
    obtain ⟨named, own⟩ := good.answered other answer response
    exact ⟨named_add named, own⟩
  · intro other made answer creation response
    rcases mem_append.mp creation with old | new
    · exact good.same other made answer old response
    · obtain ⟨rfl, rfl⟩ := Prod.mk.inj (mem_singleton.mp new)
      exact absurd (mem_append_right _ response) (first answer)

theorem create_good {input : PromotionInput} (good : store.Good)
    (ready : (PromotionTicket.create planItemId item).Ready store)
    (created : store.create planItemId item input = some (next, later)) :
    next.Good ∧ store.Touches next (some planItemId) ∧
      ∀ own ∈ later, own.Ready next ∧ own.planItemId = planItemId := by
  -- the three outcomes that create differ in the row and in what comes after
  have made : ∀ mirrored ticket, store.fresh input.workItemId = true →
      next = store.addItem planItemId item input.workItemId mirrored → later = ticket →
      (∀ own ∈ ticket, own = PromotionTicket.link planItemId input.workItemId) →
      next.Good ∧ store.Touches next (some planItemId) ∧
        ∀ own ∈ later, own.Ready next ∧ own.planItemId = planItemId := by
    rintro mirrored ticket fresh rfl rfl asked
    refine ⟨add_item_good good ready.1 fresh ready.2, touches_add, ?_⟩
    intro own listed
    rw [asked own listed]
    simp only [PromotionStore.fresh, Bool.and_eq_true] at fresh
    exact ⟨⟨by simp [PromotionStore.addItem], fresh.1.1⟩, rfl⟩
  rw [PromotionStore.create] at created
  cases outcome : input.outcome with
  | failed =>
    rw [outcome] at created
    cases created
    exact ⟨good, touches_same rfl rfl rfl, by simp⟩
  | stored =>
    rw [outcome] at created
    obtain ⟨fresh, result⟩ := Option.ite_none_right_eq_some.mp created
    cases result
    exact made true _ fresh rfl rfl (by simp)
  | unlisted =>
    rw [outcome] at created
    obtain ⟨⟨_, fresh⟩, result⟩ := Option.ite_none_right_eq_some.mp created
    cases result
    exact made false _ fresh rfl rfl (by simp)
  | lost =>
    rw [outcome] at created
    obtain ⟨⟨_, fresh⟩, result⟩ := Option.ite_none_right_eq_some.mp created
    cases result
    exact made false none fresh rfl rfl (by simp)

theorem link_good {plans : PlanStore} {rawItems : List Json}
    (good : store.Good) (creation : (planItemId, workItemId) ∈ store.created)
    (plain : isPlainId workItemId = true)
    (read : linkedItems planItemId workItemId store.plan = .ok rawItems)
    (replaced : store.replaced host rawItems = .ok plans.row.plan) :
    (PromotionStore.respond { store with plans := plans } planItemId workItemId).Good := by
  have links := linked_plan_links good.ids good.plain plain read replaced
  have listed : ∃ link, (planItemId, link) ∈ planLinks store.plan := by
    rw [linkedItems] at read
    cases found : store.plan.find? fun item => item.id = planItemId with
    | none =>
      rw [found] at read
      cases read
    | some item =>
      have own : item.id = planItemId := by simpa using find?_some found
      exact ⟨item.workItemId, own ▸ mem_map_of_mem (mem_of_find?_eq_some found)⟩
  have own : (planItemId, some workItemId) ∈ planLinks plans.row.plan := by
    obtain ⟨link, inPlan⟩ := listed
    exact links.mem_iff.mpr (mem_map.mpr ⟨_, inPlan, by simp [linkedTo]⟩)
  have committed : PromotionStore.Good { store with plans := plans } := by
    apply good_plan good (canonical_sound replaced).ids
    · intro link mem
      obtain ⟨old, before, rfl⟩ := mem_map.mp (links.mem_iff.mp mem)
      have plainOld := good.plain old before
      by_cases item : old.1 = planItemId
      · simp_all [isPlainLink, linkedTo]
      · simpa [linkedTo, item] using plainOld
    · rintro ⟨other, answer⟩ response linked
      by_cases item : other = planItemId
      · subst item
        rw [← good.same other workItemId answer creation response]
        exact own
      · exact links.mem_iff.mpr (mem_map.mpr ⟨_, linked, by simp [linkedTo, item]⟩)
  exact respond_good committed (good.made planItemId workItemId creation) own
    fun made other => good_once good other creation

end

theorem mirror_good (good : store.Good) : PromotionStore.Good { store with
    board := store.board.map fun row => { row with mirrored := true } } := by
  have same : ∀ workItemId, PromotionStore.Named { store with
      board := store.board.map fun row => { row with mirrored := true } } workItemId ↔
        store.Named workItemId := by
    intro workItemId
    simp [PromotionStore.Named]
  constructor
  · exact good.ids
  · exact good.plain
  · rw [map_map]
    exact good.board
  · exact good.once
  · exact fun planItemId workItemId creation =>
      (same workItemId).mpr (good.made planItemId workItemId creation)
  · intro planItemId workItemId response
    obtain ⟨named, own⟩ := good.answered planItemId workItemId response
    exact ⟨(same workItemId).mpr named, own⟩
  · exact good.same

theorem call_good {system : System PromotionStore PromotionTicket} {request : PromotionRequest}
    (hex : HexDigest host) (good : system.data.Good) (lone : Lone host system (.call request))
    (called : promotionCall host system.data request = some (next, later)) :
    next.Good ∧ ∃ planItemId, system.data.Touches next planItemId ∧
      (∀ ticket ∈ system.pending, planItemId ≠ some ticket.planItemId) ∧
      ∀ own ∈ later, own.Ready next ∧ planItemId = some own.planItemId := by
  cases request with
  | replace rawItems now =>
    cases called
    exact ⟨replace_good hex good lone, none, touches_same rfl rfl rfl, by simp, by simp⟩
  | patch patches now =>
    cases called
    exact ⟨patch_good good, none, touches_same rfl rfl rfl, by simp, by simp⟩
  | promote planItemId =>
    obtain ⟨after, touches, own⟩ := promote_good good lone.2 (Option.some.inj called)
    refine ⟨after, some planItemId, touches, ?_, fun ticket asked => ?_⟩
    · exact fun ticket listed same => lone.1 ticket listed (Option.some.inj same).symm
    · exact ⟨(own ticket asked).1, congrArg some (own ticket asked).2.symm⟩
  | mirror =>
    cases called
    exact ⟨mirror_good good, none, touches_same rfl rfl rfl, by simp, by simp⟩

theorem resume_good {ticket : PromotionTicket} {input : PromotionInput} (good : store.Good)
    (ready : ticket.Ready store) (sees : ticket.SeesPlan store)
    (resumed : promotionResume host store ticket input = some (next, later)) :
    next.Good ∧ store.Touches next (some ticket.planItemId) ∧
      ∀ own ∈ later, own.Ready next ∧ own.planItemId = ticket.planItemId := by
  cases ticket with
  | create planItemId item => exact create_good good ready resumed
  | link planItemId workItemId =>
    cases resumed
    refine ⟨good, touches_same rfl rfl rfl, ?_⟩
    intro own asked
    obtain ⟨rawItems, read, rfl⟩ := Option.map_eq_some_iff.mp asked
    cases linked : linkedItems planItemId workItemId store.plan with
    | error error =>
      rw [linked] at read
      cases read
    | ok items =>
      rw [linked] at read
      cases read
      exact ⟨⟨ready.1, ready.2, linked⟩, rfl⟩
  | commit planItemId workItemId seen rawItems =>
    rw [promotionResume] at resumed
    obtain ⟨creation, plain, read⟩ := ready
    rw [← show store.plan = seen from sees] at read
    split at resumed
    · next plan replaced =>
      cases resumed
      have written : store.replaced host rawItems =
          .ok (store.commit (.link planItemId workItemId) (.ok plan) input.now).plan := by
        rw [commit_plan, replaced]
      have touches := touches_respond (store.commit (.link planItemId workItemId) (.ok plan)
        input.now) planItemId workItemId
      exact ⟨link_good good creation plain read written,
        ⟨touches.project, touches.created, touches.history⟩, by simp⟩
    · cases resumed
      exact ⟨good, touches_same rfl rfl rfl, by simp⟩

def promoted (ticket : PromotionTicket) : Option String := some ticket.planItemId

/-- What the invariant proof uses of a step: one promotion of an item is under way, and the
step is a lone one. -/
def LoneGuard (host : PlanHost) (system : System PromotionStore PromotionTicket)
    (event : Event PromotionRequest PromotionInput) : Prop :=
  Exclusive promoted system.pending ∧ Lone host system event

theorem promotion_routine_keeps (hex : HexDigest host) :
    Keeps (promotionRoutine host) (LoneGuard host) PromotionStore.Good
      fun store ticket => ticket.Ready store := by
  constructor
  · intro system request data ticket good guarded called
    obtain ⟨after, planItemId, touches, apart, own⟩ := call_good hex good guarded.2 called
    exact ⟨after, fun ticket asked => (own ticket asked).1,
      fun other listed ready => ready_kept touches (apart other listed) ready⟩
  · intro system index input ticket data later good ready guarded found resumed
    obtain ⟨after, touches, own⟩ := resume_good good ready (guarded.2 ticket found) resumed
    refine ⟨after, fun ticket asked => (own ticket asked).1, fun other listed before => ?_⟩
    apply ready_kept touches _ before
    exact fun same => (exclusive_take guarded.1 found).2 _ rfl other listed same.symm

theorem promotions_exclusive {system after : System PromotionStore PromotionTicket}
    {event : Event PromotionRequest PromotionInput} (hex : HexDigest host)
    (holds : Holds PromotionStore.Good (fun store ticket => ticket.Ready store) system)
    (exclusive : Exclusive promoted system.pending) (lone : Lone host system event)
    (move : Move (promotionRoutine host) system event after) :
    Exclusive promoted after.pending := by
  cases move with
  | call request data ticket called =>
    obtain ⟨-, planItemId, -, apart, own⟩ := call_good hex holds.data lone called
    apply exclusive_put exclusive
    rintro ticket asked key ⟨⟩ other listed same
    exact apart other listed ((own ticket asked).2.trans same.symm)
  | resume index input ticket data later found resumed =>
    obtain ⟨rest, others⟩ := exclusive_take exclusive found
    have ready := holds.pending ticket (mem_of_getElem? found)
    obtain ⟨-, -, own⟩ := resume_good holds.data ready (lone ticket found) resumed
    apply exclusive_put rest
    rintro next asked key ⟨⟩ other listed same
    rw [(own next asked).2] at same
    exact others _ rfl other listed same
  | crash index => exact exclusive.sublist ((eraseIdx_sublist _ _).filterMap _)

structure PromotionStore.Fresh (store : PromotionStore) : Prop where
  ids : store.plan.ids.Nodup
  plain : ∀ link ∈ planLinks store.plan, isPlainLink link = true
  board : (store.board.map BoardItem.id).Nodup
  created : store.created = []
  responses : store.responses = []

def promotionMachine (host : PlanHost) :
    Machine (System PromotionStore PromotionTicket) (Event PromotionRequest PromotionInput) :=
  (promotionRoutine host).machine PromotionStore.Fresh

theorem fresh_good (fresh : store.Fresh) : store.Good := by
  constructor
  · exact fresh.ids
  · exact fresh.plain
  · exact fresh.board
  · simp [fresh.created]
  · simp [fresh.created]
  · simp [fresh.responses]
  · simp [fresh.created]

theorem promotion_holds {system : System PromotionStore PromotionTicket} (hex : HexDigest host)
    (reachable : (promotionMachine host).Reachable (Lone host) system) :
    Holds PromotionStore.Good (fun store ticket => ticket.Ready store) system ∧
      Exclusive promoted system.pending := by
  refine reachable_invariant (fun system =>
    Holds PromotionStore.Good (fun store ticket => ticket.Ready store) system ∧
      Exclusive promoted system.pending) ?_ ?_ reachable
  · rintro start ⟨fresh, none⟩
    refine ⟨⟨fresh_good fresh, ?_⟩, ?_⟩
    · simp [none]
    · simp [Exclusive, none]
  · rintro system event after ⟨holds, exclusive⟩ lone step
    have move := next_move step
    exact ⟨move_holds (promotion_routine_keeps hex) holds ⟨exclusive, lone⟩ move,
      promotions_exclusive hex holds exclusive lone move⟩

end

/-- A plan item has at most one work item made for it, every response names that one, and the
item keeps the link to it, in every run whose steps are lone ones. -/
theorem promotion_once {host : PlanHost} {system : System PromotionStore PromotionTicket}
    (hex : HexDigest host)
    (reachable : (promotionMachine host).Reachable (Lone host) system) :
    (∀ planItemId, (system.data.created.filter fun pair => pair.1 = planItemId).length ≤ 1) ∧
      ∀ planItemId workItemId, (planItemId, workItemId) ∈ system.data.responses →
        (planItemId, some workItemId) ∈ planLinks system.data.plan ∧
          ∀ other, (planItemId, other) ∈ system.data.created ++ system.data.responses →
            other = workItemId := by
  have good := (promotion_holds hex reachable).1.data
  constructor
  · intro planItemId
    have own : ∀ pair ∈ (system.data.created.filter fun pair => pair.1 = planItemId).map Prod.fst,
        pair = planItemId := by
      intro pair mem
      obtain ⟨creation, listed, rfl⟩ := mem_map.mp mem
      simpa using (mem_filter.mp listed).2
    have once := good.once.sublist ((filter_sublist
      (p := fun pair : String × String => pair.1 = planItemId)).map Prod.fst)
    rw [← length_map Prod.fst]
    rw [eq_replicate_of_mem own] at once ⊢
    simpa [nodup_replicate] using once
  · intro planItemId workItemId response
    have linked := (good.answered planItemId workItemId response).2
    refine ⟨linked, fun other made => ?_⟩
    rcases mem_append.mp made with creation | answer
    · exact good.same planItemId other workItemId creation response
    · have second := (good.answered planItemId other answer).2
      exact Option.some.inj (link_unique good.ids second linked)

section

variable (store : PromotionStore)

instance (planItemId : String) : Decidable (store.Settled planItemId) :=
  decidable_of_iff ((∀ pair ∈ store.created, pair.1 = planItemId →
        ∃ response ∈ store.responses, response = pair) ∧
      ∀ item ∈ store.plan, item.id = planItemId → ∀ row ∈ store.board,
        item.workItemId = some row.id → some row.projectId = store.projectId →
          row.mirrored = true) <| by
    simp only [exists_eq_right]
    constructor
    · rintro ⟨answered, listed⟩
      exact ⟨fun workItemId created => answered _ created rfl, listed⟩
    · rintro ⟨answered, listed⟩
      refine ⟨?_, listed⟩
      rintro ⟨own, workItemId⟩ created rfl
      exact answered workItemId created

instance (host : PlanHost) (rawItems : List Json) : Decidable (store.Replaces host rawItems) :=
  decidable_of_iff ((∀ raw ∈ rawItems, settledRaw host raw = true) ∧
      ∀ response ∈ store.responses, ∀ item ∈ store.plan, item.id = response.1 →
        namedIn host store.plan item [] rawItems = true)
    ⟨fun replaces => ⟨replaces.1, replaces.2⟩, fun replaces => ⟨replaces.settled, replaces.spoken⟩⟩

instance (ticket : PromotionTicket) : Decidable (ticket.SeesPlan store) := by
  cases ticket <;> unfold PromotionTicket.SeesPlan <;> infer_instance

instance (host : PlanHost) (system : System PromotionStore PromotionTicket)
    (event : Event PromotionRequest PromotionInput) : Decidable (Lone host system event) := by
  unfold Lone
  split <;> infer_instance

end

/-- Every digest of the host is the one of the empty text. -/
def hexHost : PlanHost := { sampleHost with
  sha256 := fun _ => "e3b0c44298fc1c149afbf4c8996fb92427ae41e4649b934ca495991b7852b855" }

theorem hex_host_digest : HexDigest hexHost := by
  have digits : ∀ char ∈ "e3b0c44298fc1c149afbf4c8996fb92427ae41e4649b934ca495991b7852b855".toList,
      char ∈ "0123456789abcdef".toList := by simp
  exact fun _ => digits

def newPromotions : PromotionStore where
  plans := newRun
  projectId := some "p"
  serverOrigin := true
  board := []
  created := []
  responses := []

theorem new_promotions_fresh : newPromotions.Fresh := by
  constructor
  · exact nodup_nil
  · intro link listed
    cases listed
  · exact nodup_nil
  · rfl
  · rfl

def planOfOne : Event PromotionRequest PromotionInput :=
  .call (.replace [.obj [("id", .str "a"), ("title", .str "Read")]] 1)

def click : Event PromotionRequest PromotionInput := .call (.promote "a")

def goOn (ticket : Nat) (workItemId : String) (outcome : CreateOutcome) :
    Event PromotionRequest PromotionInput :=
  .resume ticket ⟨2, workItemId, outcome⟩

def finishItem : Event PromotionRequest PromotionInput :=
  .call (.patch [.obj [("id", .str "a"), ("status", .str "completed")]] 3)

/-- The plan once more, by its titles, with another item. -/
def planOfTwo : Event PromotionRequest PromotionInput :=
  .call (.replace [.obj [("id", .str "b"), ("title", .str "Write")],
    .obj [("title", .str "Read")]] 4)

/-- The first click fails, the second makes a work item whose row comes with a later pull, and
the third one finds it after a patch and a new plan. -/
def promotedAgain : List (Event PromotionRequest PromotionInput) :=
  [planOfOne, click, goOn 0 "w" .failed, click, finishItem, goOn 0 "w" .unlisted,
    goOn 0 "" .failed, goOn 0 "" .failed, .call .mirror, planOfTwo, click]

theorem promoted_again_once : ∃ system,
    (promotionRoutine hexHost).run (fun system event => decide (Lone hexHost system event))
        newPromotions promotedAgain = some system ∧
      system.data.responses = [("a", "w"), ("a", "w")] ∧
      (system.data.created.filter fun pair => pair.1 = "a").length ≤ 1 ∧
      ("a", some "w") ∈ planLinks system.data.plan := by
  have ran : ((promotionRoutine hexHost).run
      (fun system event => decide (Lone hexHost system event)) newPromotions
        promotedAgain).map (fun system => system.data.responses) =
          some [("a", "w"), ("a", "w")] := by decide +kernel
  obtain ⟨system, done, shown⟩ := Option.map_eq_some_iff.mp ran
  have reachable := reachable_weaken (fun _ _ lone => of_decide_eq_true lone)
    (run_reachable (fun system event => decide (Lone hexHost system event))
      new_promotions_fresh done)
  obtain ⟨once, linked⟩ := @promotion_once hexHost system hex_host_digest reachable
  exact ⟨system, done, shown, once "a", (linked "a" "w" (by simp [shown])).1⟩

def promotions (events : List (Event PromotionRequest PromotionInput)) :
    Option (List (String × String) × List (String × String)) :=
  ((promotionRoutine sampleHost).run (fun _ _ => true) newPromotions events).map fun system =>
    (system.data.created, system.data.responses)

def twoClicks : List (Event PromotionRequest PromotionInput) :=
  [planOfOne, click, click, goOn 0 "w" .stored, goOn 0 "v" .stored, goOn 0 "" .failed,
    goOn 0 "" .failed, goOn 0 "" .failed, goOn 0 "" .failed]

def crashedClick : List (Event PromotionRequest PromotionInput) :=
  [planOfOne, click, goOn 0 "w" .stored, .crash 0, click, goOn 0 "v" .stored, goOn 0 "" .failed,
    goOn 0 "" .failed]

def unlistedItem : List (Event PromotionRequest PromotionInput) :=
  [planOfOne, click, goOn 0 "w" .unlisted, goOn 0 "" .failed, goOn 0 "" .failed, click,
    goOn 0 "v" .stored, goOn 0 "" .failed, goOn 0 "" .failed]

theorem two_work_items :
    promotions twoClicks = some ([("a", "w"), ("a", "v")], [("a", "w"), ("a", "v")]) ∧
    promotions crashedClick = some ([("a", "w"), ("a", "v")], [("a", "v")]) ∧
    promotions unlistedItem = some ([("a", "w"), ("a", "v")], [("a", "w"), ("a", "v")]) := by
  refine ⟨?_, ?_, ?_⟩
  · decide +kernel
  · decide +kernel
  · decide +kernel

end AgentMate.PlanPromotion
