import AgentMate.JsonText
import AgentMate.PlainText
import AgentMate.RunStore

/-!
# Skill definitions of the catalog

The Server keeps its catalog in rows whose `data` is a JSON document. A skill definition is
normalized against the categories and the tools of the catalog, and it is validated before
it becomes a release.
-/

namespace AgentMate.SkillCatalog

open PlainText List

/-- A row of `catalog_items` in the builtin scope. -/
structure CatalogItem where
  id : String
  category : String
  kind : String
  data : Json
  sort : Int
  version : Nat
  enabled : Bool
  deriving Inhabited

/-- The rows of `catalog_items`, and those of `tool_catalog` in the order of
`list_tool_catalog(include_disabled=True)`, each as the dictionary it is read as. -/
structure Catalog where
  items : List CatalogItem
  tools : List Json

structure CatalogHost extends PyText where
  lower : String → String
  casefold : String → String
  /-- the value of a character that `\d` matches -/
  decimal : Char → Option Nat

/-- `HTTPException`. -/
structure CatalogError where
  status : Nat
  detail : String
  deriving DecidableEq, Repr

/-- `data[key] = value`. -/
def setField (key : String) (value : Json) : Json → Json
  | .obj fields => .obj (insertField fields (key, value))
  | json => json

def isObject : Json → Bool
  | .obj _ => true
  | _ => false

/-- `value == text`. -/
def isText (text : String) : Json → Bool
  | .str value => value = text
  | _ => false

variable {key other : String} {value data : Json}

theorem is_object_set : isObject (setField key value data) = isObject data := by
  cases data <;> rfl

theorem find_replaced (fields : List (String × Json)) :
    (fields.map fun old => if old.1 = key then (key, value) else old).find?
        (fun field => field.1 = other) =
      if other = key then (fields.find? fun field => field.1 = key).map fun _ => (key, value)
      else fields.find? fun field => field.1 = other := by
  induction fields with
  | nil => simp
  | cons field rest ih =>
    rw [map_cons, find?_cons, ih, find?_cons, find?_cons]
    by_cases own : field.1 = key <;> by_cases same : other = key
    · simp [own, same]
    · simp [own, same, Ne.symm same]
    · simp [own, same]
    · simp [own, same]

theorem get_set_same (object : isObject data = true) :
    (setField key value data).get? key = some value := by
  cases data with
  | obj fields =>
    rw [setField, Json.get?, insertField]
    split
    · next present =>
      obtain ⟨field, listed, same⟩ := any_eq_true.mp present
      rw [find_replaced, if_pos rfl]
      cases found : fields.find? fun field => field.1 = key with
      | none => exact absurd same (find?_eq_none.mp found field listed)
      | some _ => rfl
    · next absent =>
      have missing : fields.find? (fun field => field.1 = key) = none := by
        rw [find?_eq_none]
        intro field listed same
        exact absent (any_eq_true.mpr ⟨field, listed, same⟩)
      simp [find?_append, missing]
  | null => cases object
  | bool _ => cases object
  | int _ => cases object
  | float _ => cases object
  | str _ => cases object
  | arr _ => cases object

theorem get_set_other (different : other ≠ key) :
    (setField key value data).get? other = data.get? other := by
  cases data with
  | obj fields =>
    rw [setField, Json.get?, insertField]
    split
    · rw [find_replaced, if_neg different]
      rfl
    · simp [Json.get?, find?_append, Ne.symm different]
  | null => rfl
  | bool _ => rfl
  | int _ => rfl
  | float _ => rfl
  | str _ => rfl
  | arr _ => rfl

variable (host : CatalogHost) (catalog : Catalog)

/-- `value.strip()` of `str(data.get(key) or "")`. -/
def strippedField (key : String) (data : Json) : String := strip (data.strField host.toPyText key)

/-- `list_catalog_items(category, include_disabled=True)`. -/
def Catalog.rows (category : String) : List CatalogItem :=
  catalog.items.filter fun row => row.category = category

/-- `by_slug.get(slug)`: of two rows with one slug the later counts. -/
def Catalog.categoryBySlug (slug : String) : Option CatalogItem :=
  (catalog.rows "SKILL_CATEGORIES").reverse.find? fun row =>
    strippedField host "slug" row.data ≠ "" && strippedField host "slug" row.data = slug

def Catalog.categoryByName (name : String) : Option CatalogItem :=
  (catalog.rows "SKILL_CATEGORIES").reverse.find? fun row =>
    strippedField host "name" row.data ≠ "" &&
      host.casefold (strippedField host "name" row.data) = name

/-- The row that a definition names, or the row `other` of one that names none. -/
def Catalog.categoryOf (categorySlug categoryName : String) : Option CatalogItem :=
  if categorySlug ≠ "" then catalog.categoryBySlug host categorySlug
  else
    (catalog.categoryByName host (host.casefold categoryName)).orElse fun _ =>
      if categoryName = "" then catalog.categoryBySlug host "other" else none

def Catalog.normalizeSkillCategory (data : Json) : Json :=
  if isObject data then
    let categorySlug := strippedField host "category_slug" data
    let categoryName := strippedField host "category" data
    match catalog.categoryOf host categorySlug categoryName with
    | some row =>
      setField "category" (.str (row.data.strField host.toPyText "name"))
        (setField "category_slug" (.str (row.data.strField host.toPyText "slug")) data)
    | none =>
      setField "category" (.str categoryName) (setField "category_slug" (.str categorySlug) data)
  else data

/-- `str(normalized.get(key, "")).strip()` in the place of the key. -/
def setText (data : Json) (key : String) : Json :=
  setField key (.str (strip (((data.get? key).map (Json.pyStr host.toPyText)).getD ""))) data

/-- `list(dict.fromkeys(change(str(value).strip()) for value in values))`. -/
def textList (change : String → String) (values : List Json) : List String :=
  (values.map fun value => change (strip (value.pyStr host.toPyText))).eraseDups

def setTexts (change : String → String) (data : Json) (key : String) : Json :=
  match (data.get? key).getD (.arr []) with
  | .arr values => setField key (.arr ((textList host change values).map Json.str)) data
  | other => setField key other data

/-- The dictionary of the rows by name: of two rows with one name the later counts. -/
def Catalog.tool? (catalog : Catalog) (name : String) : Option Json :=
  catalog.tools.reverse.find? fun row => (row.get? "name").any (isText name)

/-- `tuple(item.get("permissions") or ())` of the tool. -/
def Catalog.toolPermissions (name : String) : List String :=
  match catalog.tool? name with
  | some row => (row.listField "permissions").map (Json.pyStr host.toPyText)
  | none => []

/-- `sorted({permission for tool in tools for permission in permissions.get(tool, ())})`. -/
def Catalog.permissionsOf (tools : List String) : List String :=
  ((tools.flatMap fun tool => catalog.toolPermissions host tool).eraseDups).insertionSort (· ≤ ·)

/-- The permissions and the contract version of a definition whose tools are a list. -/
def Catalog.setPermissions (data : Json) : Json :=
  match data.get? "tools" with
  | some (.arr tools) =>
    setField "tool_contract_version" (.str "1")
      (setField "permissions" (.arr ((catalog.permissionsOf host
        (tools.map (Json.pyStr host.toPyText))).map Json.str)) data)
  | _ => data

def Catalog.normalizeAppSkill (data : Json) : Json :=
  if isObject data then
    let categorized := catalog.normalizeSkillCategory host data
    let texts := ["slug", "name", "icon", "category", "description", "instructions"].foldl
      (setText host) categorized
    let markdown := if (texts.get? "skill_markdown").isSome then
        setField "skill_markdown" (.str (texts.strField host.toPyText "skill_markdown")) texts
      else texts
    let listed := ["platforms", "environments", "requires_tools"].foldl
      (setTexts host host.lower) (setTexts host id markdown "tools")
    setField "source" (.str "Server") (catalog.setPermissions host listed)
  else data

theorem get_set_text_other (different : other ≠ key) :
    (setText host data key).get? other = data.get? other := get_set_other different

theorem get_set_texts_other {change : String → String} (different : other ≠ key) :
    (setTexts host change data key).get? other = data.get? other := by
  rw [setTexts]
  split <;> exact get_set_other different

theorem get_fold_other {step : Json → String → Json} {keys : List String}
    (kept : ∀ (data : Json) (key : String), other ≠ key →
      (step data key).get? other = data.get? other)
    (fresh : other ∉ keys) : (keys.foldl step data).get? other = data.get? other := by
  induction keys generalizing data with
  | nil => rfl
  | cons key rest ih =>
    rw [foldl_cons, ih (not_mem_of_not_mem_cons fresh)]
    exact kept data key (ne_of_not_mem_cons fresh)

theorem get_permissions_other (first : other ≠ "permissions")
    (second : other ≠ "tool_contract_version") :
    (catalog.setPermissions host data).get? other = data.get? other := by
  rw [Catalog.setPermissions]
  split
  · rw [get_set_other second, get_set_other first]
  · rfl

theorem get_category_other (first : other ≠ "category") (second : other ≠ "category_slug") :
    (catalog.normalizeSkillCategory host data).get? other = data.get? other := by
  rw [Catalog.normalizeSkillCategory]
  split
  · dsimp only
    split
    · rw [get_set_other first, get_set_other second]
    · rw [get_set_other first, get_set_other second]
  · rfl

theorem is_object_of_get (found : data.get? key = some value) : isObject data = true := by
  cases data with
  | obj fields => rfl
  | null => cases found
  | bool _ => cases found
  | int _ => cases found
  | float _ => cases found
  | str _ => cases found
  | arr _ => cases found

theorem normalized_slug (object : isObject data = true) :
    (catalog.normalizeAppSkill host data).get? "slug" =
      some (.str (strip (((data.get? "slug").map (Json.pyStr host.toPyText)).getD ""))) := by
  have categorized : isObject (catalog.normalizeSkillCategory host data) = true := by
    rw [Catalog.normalizeSkillCategory, if_pos object]
    dsimp only
    split <;> simpa [is_object_set] using object
  have kept : (catalog.normalizeSkillCategory host data).get? "slug" = data.get? "slug" :=
    get_category_other host catalog (by decide) (by decide)
  have texts : (["slug", "name", "icon", "category", "description", "instructions"].foldl
      (setText host) (catalog.normalizeSkillCategory host data)).get? "slug" =
        some (.str (strip (((data.get? "slug").map (Json.pyStr host.toPyText)).getD ""))) := by
    rw [foldl_cons, get_fold_other (fun _ _ => get_set_text_other host) (by decide), setText,
      get_set_same categorized, kept]
  rw [Catalog.normalizeAppSkill, if_pos object]
  rw [get_set_other (by decide), get_permissions_other host catalog (by decide) (by decide),
    get_fold_other (fun _ _ => get_set_texts_other host) (by decide),
    get_set_texts_other host (by decide)]
  split
  · rw [get_set_other (by decide)]
    exact texts
  · exact texts

def digitRuns : List Char → Option Nat → List Nat
  | [], run => run.toList
  | char :: rest, run =>
    match host.decimal char with
    | some digit => digitRuns rest (some (10 * run.getD 0 + digit))
    | none => run.toList ++ digitRuns rest none

def versionTuple (value : String) : List Nat :=
  if (digitRuns host value.toList none).take 4 = [] then [0]
  else (digitRuns host value.toList none).take 4

structure CapabilityReport where
  appVersion : String
  platform : String
  toolContractVersion : String
  supportedTools : List (String × String)
  deriving DecidableEq, Repr

structure Compatibility where
  compatible : Bool
  compatibilityError : String
  minAppVersion : String
  unsupportedTools : List String
  deriving DecidableEq, Repr

/-- `str(payload.get(key) or default)`. -/
def textOr (default : String) (key : String) (payload : Json) : String :=
  ((payload.getTruthy key).map (Json.pyStr host.toPyText)).getD default

def CapabilityReport.platformKey (report : CapabilityReport) : String :=
  if host.lower report.platform = "darwin" then "macos" else host.lower report.platform

/-- `tool_specs.get(name, {})`. -/
def Catalog.toolSpec (name : String) : Json := (catalog.tool? name).getD (.obj [])

def Catalog.supportedContract (report : CapabilityReport) (name : String) : String :=
  let spec := catalog.toolSpec name
  if spec.strField host.toPyText "implementation_type" = "shell" then
    if ((spec.dictField "scripts").getTruthy (report.platformKey host)).isSome then
      report.toolContractVersion
    else "0"
  else
    (((report.supportedTools.find? fun tool => tool.1 = name).map Prod.snd).filter
      (· ≠ "")).getD "0"

def Catalog.isUnsupported (report : CapabilityReport) (name : String) : Bool :=
  let spec := catalog.toolSpec name
  !(spec.getTruthy "enabled").isSome ||
    versionTuple host (catalog.supportedContract host report name) <
      versionTuple host (textOr host "1" "contract_version" spec)

def Catalog.requiredApp (data : Json) (tools : List String) : String :=
  tools.foldl (fun required name =>
    let minimum := textOr host "0.0.0" "min_app_version" (catalog.toolSpec name)
    if versionTuple host required < versionTuple host minimum then minimum else required)
    (textOr host "0.0.0" "min_app_version" data)

def Catalog.skillCompatibility (data : Json) (report : CapabilityReport) : Compatibility :=
  let tools := ((data.listField "tools").map (Json.pyStr host.toPyText)).filter (· ≠ "")
  let required := catalog.requiredApp host data tools
  let unsupported := (tools.filter (catalog.isUnsupported host report)).insertionSort (· ≤ ·)
  let reasons :=
    (if versionTuple host report.appVersion < versionTuple host required then
      ["requires app " ++ required ++ "+"] else []) ++
    (if unsupported ≠ [] then
      ["unsupported tools: " ++ ", ".intercalate unsupported] else [])
  { compatible := reasons.isEmpty, compatibilityError := "; ".intercalate reasons
    minAppVersion := required, unsupportedTools := unsupported }

end AgentMate.SkillCatalog
