import AgentMate.DepthFirst
import AgentMate.Interleaving
import AgentMate.PlainText
import AgentMate.RunStore
import Mathlib.Data.List.Sort

/-!
# The plan of a Run

The plan, its version and the runtime columns of one row of `runs`, with the functions that
write them. `replace_run_plan` and `patch_run_plan` read and write inside one transaction;
`link_run_plan_work_item` reads the plan before it calls `replace_run_plan`, and
`update_run_runtime` writes back the row it read, its plan included.

`origin` and `log` are history: the plan the Run was created with, and the accepted plan
operations in the order of their commits. No operation reads them.
-/

namespace AgentMate.RunPlans

open PlainText Interleaving TransitionSystem

inductive PlanStatus where
  | pending | inProgress | completed | blocked
  deriving DecidableEq, Repr

/-- `RUN_PLAN_STATUSES` -/
def planStatus? : String → Option PlanStatus
  | "pending" => some .pending
  | "in_progress" => some .inProgress
  | "completed" => some .completed
  | "blocked" => some .blocked
  | _ => none

def PlanStatus.name : PlanStatus → String
  | .pending => "pending"
  | .inProgress => "in_progress"
  | .completed => "completed"
  | .blocked => "blocked"

structure PlanItem where
  id : String
  title : String
  status : PlanStatus
  order : Int
  dependsOn : List String
  workItemId : Option String
  deriving DecidableEq, Repr

abbrev Plan := List PlanItem

/-- An exception; a `TypeError` is told apart from a `ValueError` by nothing here. -/
inductive PlanError where
  | value (message : String)
  | key (missing : String)
  deriving DecidableEq, Repr

structure PlanHost extends PyText where
  casefold : String → String
  sha256 : String → String

variable (host : PlanHost)

def stablePlanItemId (runId title : String) (occurrence : Nat) : String :=
  "plan_" ++ clip 20 (host.sha256
    (runId ++ "\x00" ++ host.casefold title ++ "\x00" ++ toString occurrence))

def Plan.ids (plan : Plan) : List String := plan.map PlanItem.id

/-- `graph.get(item_id, [])` -/
def Plan.dependencies (plan : Plan) (itemId : String) : List String :=
  ((plan.find? fun item => item.id = itemId).map PlanItem.dependsOn).getD []

def checkItem (ids : List String) (item : PlanItem) : Except PlanError Unit :=
  if item.id ∈ item.dependsOn then .error (.value "RunPlan item cannot depend on itself")
  else if item.dependsOn.any fun dependency => dependency ∉ ids then
    .error (.value "RunPlan dependency does not exist")
  else .ok ()

/-- The bound on the depth of the walk is above the number of items. -/
def validateRunPlan (plan : Plan) : Except PlanError Unit := do
  if plan.ids.Nodup then pure () else throw (.value "duplicate RunPlan item id")
  plan.forM (checkItem plan.ids)
  match DepthFirst.visitAll plan.dependencies (plan.length + 1) plan.ids with
  | some _ => return
  | none => throw (.value "RunPlan dependency cycle")

/-- `str(first or second or "")` of two keys. -/
def firstText (raw : Json) (keys : List String) : String :=
  ((keys.findSome? fun key => raw.getTruthy key).map (Json.pyStr host.toPyText)).getD ""

def dependencyTexts (values : List Json) : List String :=
  ((values.map (Json.pyStr host.toPyText)).filter fun text => strip text ≠ "").map
    (fun text => clip 100 (strip text)) |>.eraseDups.take 20

def readStatus (text : String) : Except PlanError PlanStatus :=
  match planStatus? text with
  | some status => .ok status
  | none => .error (.value ("invalid RunPlan status: " ++ text))

/-- The item of the stored plan that a raw item stands for: the one with its id, else the
one at its place among those with its title. -/
def matchedItem (current : Plan) (explicitId titleKey : String) (occurrence : Nat) :
    Option PlanItem :=
  let named := if explicitId = "" then none
    else current.reverse.find? fun item => item.id = explicitId
  named.orElse fun _ =>
    (current.filter fun item => host.casefold (strip item.title) = titleKey)[occurrence]?

/-- One turn of the loop of `_canonical_run_plan`, after the title keys of the items before. -/
def canonicalItem (runId : String) (current : Plan) (index : Nat) (earlier : List String)
    (used : List String) (raw : Json) : Except PlanError (String × PlanItem) := do
  let .obj _ := raw | throw (.value "RunPlan items must be objects")
  let title := clip 300 (strip (firstText host raw ["title", "text"]))
  if title = "" then throw (.value "RunPlan item title is required")
  let titleKey := host.casefold title
  let occurrence := earlier.count titleKey
  let explicitId := clip 100 (strip (firstText host raw ["id"]))
  let matched := matchedItem host current explicitId titleKey occurrence
  let known := if explicitId ≠ "" then explicitId else (matched.map PlanItem.id).getD ""
  let itemId := if known ≠ "" then known else stablePlanItemId host runId title occurrence
  if itemId ∈ used then throw (.value "duplicate RunPlan item id")
  let status ← match raw.getTruthy "status" with
    | some status => readStatus (status.pyStr host.toPyText)
    | none => pure ((matched.map PlanItem.status).getD .pending)
  let depends ← match raw.get? "depends_on" with
    | some (.arr values) => pure values
    | some _ => throw (.value "RunPlan depends_on must be an array")
    | none => pure (((matched.map PlanItem.dependsOn).getD []).map Json.str)
  let workItem := match raw.getTruthy "work_item_id" with
    | some linked => linked.pyStr host.toPyText
    | none => (matched.bind PlanItem.workItemId).getD ""
  let workItemId := clip 100 (strip workItem)
  let order ← match raw.get? "order" with
    | some order =>
      match order.pyInt host.toPyText with
      | some order => pure order
      | none => throw (.value "invalid literal for int()")
    | none => pure (index : Int)
  return (titleKey,
    { id := itemId, title := title, status := status, order := order
      dependsOn := dependencyTexts host depends
      workItemId := if workItemId = "" then none else some workItemId })

def canonicalItems (runId : String) (current : Plan) :
    Nat → List String → Plan → List Json → Except PlanError Plan
  | _, _, normalized, [] => .ok normalized
  | index, earlier, normalized, raw :: rest => do
      let (titleKey, item) ←
        canonicalItem host runId current index earlier normalized.ids raw
      canonicalItems runId current (index + 1) (titleKey :: earlier) (normalized ++ [item]) rest

def renumber (plan : Plan) : Plan :=
  (plan.insertionSort fun left right =>
    left.order < right.order ∨ (left.order = right.order ∧ left.id ≤ right.id)).mapIdx
      fun index item => { item with order := index }

def canonicalRunPlan (runId : String) (rawItems : List Json) (current : Plan) :
    Except PlanError Plan := do
  if 50 < rawItems.length then throw (.value "RunPlan supports at most 50 items")
  let normalized ← canonicalItems host runId current 0 [] [] rawItems
  let plan := renumber normalized
  validateRunPlan plan
  return plan

/-- The dictionary of the items by id: a later item takes the place of an earlier one. -/
def itemsById (plan : Plan) : Plan :=
  plan.foldl (fun items item =>
    if items.any fun other => other.id = item.id then
      items.map fun other => if other.id = item.id then item else other
    else items ++ [item]) []

def patchItem (item : PlanItem) (patch : Json) : Except PlanError PlanItem := do
  let title ← match patch.get? "title" with
    | none => pure item.title
    | some _ =>
      let title := clip 300 (strip (firstText host patch ["title"]))
      if title = "" then throw (.value "RunPlan item title is required") else pure title
  let status ← match patch.get? "status" with
    | none => pure item.status
    | some _ => readStatus (firstText host patch ["status"])
  let order ← match patch.get? "order" with
    | none => pure item.order
    | some order =>
      match order.pyInt host.toPyText with
      | some order => pure order
      | none => throw (.value "invalid literal for int()")
  let dependsOn ← match patch.get? "depends_on" with
    | none => pure item.dependsOn
    | some (.arr values) => pure (dependencyTexts host values)
    | some _ => throw (.value "RunPlan depends_on must be an array")
  return { item with title := title, status := status, order := order, dependsOn := dependsOn }

def applyPatch (items : Plan) (patch : Json) : Except PlanError Plan := do
  let .obj _ := patch | throw (.value "RunPlan patches must be objects")
  let itemId := strip (firstText host patch ["id"])
  match items.find? fun item => item.id = itemId with
  | none => throw (.value ("RunPlan item not found: " ++ itemId))
  | some item =>
    let patched ← patchItem host item patch
    return items.map fun other => if other.id = itemId then patched else other

def patchedRunPlan (patches : List Json) (current : Plan) : Except PlanError Plan := do
  if 50 < patches.length then throw (.value "RunPlan supports at most 50 patches")
  let items ← patches.foldlM (applyPatch host) (itemsById current)
  let candidate := renumber items
  validateRunPlan candidate
  return candidate

def PlanItem.json (item : PlanItem) (workItemId : Option String) : Json :=
  .obj ([("id", .str item.id), ("title", .str item.title), ("status", .str item.status.name),
    ("order", .int item.order), ("depends_on", .arr (item.dependsOn.map Json.str))] ++
    (workItemId.map fun linked => ("work_item_id", Json.str linked)).toList)

/-- The raw items that `link_run_plan_work_item` makes of the plan it read. -/
def linkedItems (planItemId workItemId : String) (seen : Plan) : Except PlanError (List Json) :=
  match seen.find? fun item => item.id = planItemId with
  | none => .error (.key planItemId)
  | some first => .ok (seen.map fun item =>
    if item.id = planItemId then first.json (some workItemId) else item.json item.workItemId)

inductive PlanOp where
  | replace (rawItems : List Json)
  | patch (patches : List Json)
  | link (planItemId workItemId : String)

def applyOp (runId : String) (current : Plan) : PlanOp → Except PlanError Plan
  | .replace rawItems => canonicalRunPlan host runId rawItems current
  | .patch patches => patchedRunPlan host patches current
  | .link planItemId workItemId => do
      let rawItems ← linkedItems planItemId workItemId current
      canonicalRunPlan host runId rawItems current

structure RunRow where
  id : String
  plan : Plan
  planVersion : Nat
  modelSnapshot : Json
  permissionSnapshot : Json
  promptTokens : Nat
  cachedPromptTokens : Nat
  completionTokens : Nat
  toolCalls : Nat
  estimatedCost : Option ℚ
  costCurrency : Option String
  updatedAt : Time

structure PlanStore where
  row : RunRow
  origin : Plan
  log : List PlanOp

def writePlan (store : PlanStore) (op : PlanOp) (plan : Plan) (now : Time) : PlanStore :=
  { store with
    row := if plan = store.row.plan then store.row
      else { store.row with
        plan := plan, planVersion := store.row.planVersion + 1, updatedAt := now }
    log := store.log ++ [op] }

structure RuntimeCall where
  permissionSnapshot : Option Json
  plan : Option Plan
  promptTokens : Option Int
  cachedPromptTokens : Option Int
  completionTokens : Option Int
  toolCalls : Option Int

/-- `old if new is None else max(0, int(new))` -/
def nextCount (old : Nat) (new : Option Int) : Nat := (new.map Int.toNat).getD old

/-- `model_governance.estimate_cost`: prompt, completion and cached tokens. -/
abbrev EstimateCost := Json → Nat → Nat → Nat → Option ℚ × Option String

/-- The update of `update_run_runtime`, from the row that was read. -/
def writeRuntime (estimateCost : EstimateCost) (store : PlanStore) (seen : RunRow)
    (call : RuntimeCall) (now : Time) : PlanStore :=
  let prompt := nextCount seen.promptTokens call.promptTokens
  let cached := min prompt (nextCount seen.cachedPromptTokens call.cachedPromptTokens)
  let completion := nextCount seen.completionTokens call.completionTokens
  let cost := estimateCost seen.modelSnapshot prompt completion cached
  { store with
    row := { store.row with
      permissionSnapshot := call.permissionSnapshot.getD seen.permissionSnapshot
      plan := call.plan.getD seen.plan
      promptTokens := prompt, cachedPromptTokens := cached, completionTokens := completion
      toolCalls := nextCount seen.toolCalls call.toolCalls
      estimatedCost := cost.1, costCurrency := cost.2, updatedAt := now } }

inductive PlanRequest where
  | replace (rawItems : List Json) (now : Time)
  | patch (patches : List Json) (now : Time)
  | link (planItemId workItemId : String)
  | runtime (call : RuntimeCall)

inductive PlanTicket where
  | link (planItemId workItemId : String) (seen : Plan) (rawItems : List Json)
  | runtime (seen : RunRow) (call : RuntimeCall)

def commitPlan (store : PlanStore) (op : PlanOp) (plan : Except PlanError Plan) (now : Time) :
    PlanStore :=
  match plan with
  | .ok plan => writePlan store op plan now
  | .error _ => store

def callPlan (store : PlanStore) : PlanRequest → Option (PlanStore × Option PlanTicket)
  | .replace rawItems now =>
    some (commitPlan store (.replace rawItems)
      (canonicalRunPlan host store.row.id rawItems store.row.plan) now, none)
  | .patch patches now =>
    some (commitPlan store (.patch patches) (patchedRunPlan host patches store.row.plan) now, none)
  | .link planItemId workItemId =>
    some (store, ((linkedItems planItemId workItemId store.row.plan).toOption.map
      (PlanTicket.link planItemId workItemId store.row.plan)))
  | .runtime call => some (store, some (.runtime store.row call))

def resumePlan (estimateCost : EstimateCost) (store : PlanStore) (ticket : PlanTicket)
    (now : Time) : Option (PlanStore × Option PlanTicket) :=
  match ticket with
  | .link planItemId workItemId _ rawItems =>
    some (commitPlan store (.link planItemId workItemId)
      (canonicalRunPlan host store.row.id rawItems store.row.plan) now, none)
  | .runtime seen call => some (writeRuntime estimateCost store seen call now, none)

def planRoutine (estimateCost : EstimateCost) : Routine PlanStore PlanRequest Time PlanTicket where
  call := callPlan host
  resume := resumePlan host estimateCost

end AgentMate.RunPlans
