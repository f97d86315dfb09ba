import AgentMate.SkillReleaseStore

/-!
# Conditional catalog pulls

`POST /catalog/pull` sends the catalog of an account down to a client and renders it for what the
client reports of itself. A client that names the revision of the present catalog is told that
nothing changed. The revision is a digest of the projected rows and of the tools.

A dictionary is kept with its keys in order, and times of one request are one time.
-/

namespace AgentMate.CatalogPull

open PlainText SkillCatalog SkillReleases List Option

def recommendationCategories : List String :=
  ["SKILL_RECOMMENDATIONS", "CONNECTOR_RECOMMENDATIONS", "EXPERT_RECOMMENDATIONS"]

/-- `_downlink_catalog_items(include_withdrawn=True)`: the enabled rows, and of skills and
recommendations the disabled ones too. -/
def downlinkItems (catalog : Catalog) : List CatalogItem :=
  ((catalog.items.filter fun row => row.enabled) ++ catalog.items.filter fun row =>
    !row.enabled && row.category ∈ "APP_SKILLS" :: recommendationCategories).insertionSort
      fun left right => left.category < right.category ∨
        (left.category = right.category ∧ left.sort ≤ right.sort)

structure PullState where
  store : ReleaseStore
  now : Time
  rows : ∀ row ∈ store.catalog.items, row.data.Canonical
  releases : ∀ release ∈ store.releases, release.data.Canonical
  tools : ∀ tool ∈ store.catalog.tools, tool.Canonical

variable (host : ReleaseHost) (accountId : String)

def PullState.catalog (state : PullState) : Catalog := state.store.catalog

def PullState.projected (state : PullState) : List ProjectedItem :=
  state.store.projectSkillReleases host accountId state.now (downlinkItems state.catalog)

def projectedFields (row : ProjectedItem) : List (String × Json) :=
  [("id", .str row.item.id), ("category", .str row.item.category), ("kind", .str row.item.kind),
    ("data", row.item.data), ("sort", .int row.item.sort), ("version", .int row.item.version),
    ("enabled", .bool row.item.enabled)] ++
    (if row.item.enabled then [] else [("scope", .str "builtin"), ("org_id", .null)]) ++
    row.releaseId.toList.map fun releaseId => ("release_id", .str releaseId)

def projectedJson (row : ProjectedItem) : Json := .obj (projectedFields row)

def PullState.fields (state : PullState) : List (String × Json) :=
  [("items", .arr ((state.projected host accountId).map projectedJson)),
    ("tools", .arr state.catalog.tools)]

def PullState.json (state : PullState) : Json := .obj (state.fields host accountId)

def PullState.text (state : PullState) : String := jsonDumps host.floats (state.json host accountId)

/-- `_catalog_revision`. -/
def PullState.revision (state : PullState) : String := host.sha256 (state.text host accountId)

def categoryPair (catalog : Catalog) (data : Json) : String × String :=
  match catalog.categoryOf host.toCatalogHost (strippedField host.toCatalogHost "category_slug" data)
      (strippedField host.toCatalogHost "category" data) with
  | some row => (row.data.strField host.toPyText "slug", row.data.strField host.toPyText "name")
  | none => (strippedField host.toCatalogHost "category_slug" data,
      strippedField host.toCatalogHost "category" data)

def recommendedSkill (catalog : Catalog) (data : Json) : Option CatalogItem :=
  (catalog.rows "APP_SKILLS").find? fun row =>
    (row.data.get? "slug").any (isText (strippedField host.toCatalogHost "skill_slug" data))

def provider (data : Json) : String := host.lower (strippedField host.toCatalogHost "provider" data)

def normalizeSkillRecommendation (catalog : Catalog) (data : Json) : Json :=
  if isObject data then
    let normalized := setField "provider" (.str (provider host data)) data
    if provider host data = "agentmate" then
      match recommendedSkill host catalog data with
      | some row =>
        let skill := catalog.normalizeAppSkill host.toCatalogHost row.data
        setField "category" ((skill.get? "category").getD (.str ""))
          (setField "category_slug" ((skill.get? "category_slug").getD (.str "")) normalized)
      | none => normalized
    else catalog.normalizeSkillCategory host.toCatalogHost normalized
  else data

/-- `[str(item) for item in data.get("tools", []) if str(item)]`; `none` is the `TypeError`. -/
def toolNames (data : Json) : Option (List String) :=
  match data.get? "tools" with
  | none => some []
  | some (.arr values) => some ((values.map (Json.pyStr host.toPyText)).filter (· ≠ ""))
  | some (.obj fields) => some ((fields.map Prod.fst).filter (· ≠ ""))
  | some (.str text) => some (text.toList.map String.singleton)
  | some _ => none

/-- `_skill_compatibility`. -/
def compatibility (catalog : Catalog) (data : Json) (report : CapabilityReport) :
    Option Compatibility :=
  (toolNames host data).map fun tools =>
    catalog.skillCompatibility host.toCatalogHost
      (setField "tools" (.arr (tools.map Json.str)) data) report

structure SkillState where
  withdrawn : Bool
  compatibility : Compatibility
  deriving DecidableEq, Repr

def withdrawnState (data : Json) : SkillState where
  withdrawn := true
  compatibility := ⟨false, "withdrawn", textOr host.toCatalogHost "0.0.0" "min_app_version" data, []⟩

structure RenderedItem where
  row : ProjectedItem
  state : Option SkillState

def withData (row : ProjectedItem) (data : Json) : ProjectedItem :=
  { row with item := { row.item with data := data } }

def render (catalog : Catalog) (report : CapabilityReport) (row : ProjectedItem) :
    Option RenderedItem :=
  if row.item.category = "APP_SKILLS" ∧ isObject row.item.data = true then
    let data := catalog.normalizeAppSkill host.toCatalogHost row.item.data
    if row.item.enabled then
      (compatibility host catalog data report).map fun compatible =>
        ⟨withData row data, some ⟨false, compatible⟩⟩
    else some ⟨withData row data, some (withdrawnState host data)⟩
  else if row.item.category = "SKILL_RECOMMENDATIONS" then
    some ⟨withData row (normalizeSkillRecommendation host catalog row.item.data), none⟩
  else some ⟨row, none⟩

structure FullResponse where
  revision : String
  items : List RenderedItem
  tools : List Json

/-- The answer to a client without a revision; `none` is an error. -/
def PullState.fullResponse (state : PullState) (report : CapabilityReport) : Option FullResponse :=
  ((state.projected host accountId).mapM (render host state.catalog report)).map fun items =>
    ⟨state.revision host accountId, items, state.catalog.tools⟩

structure PullRequest where
  state : PullState
  revision : String
  report : CapabilityReport

inductive PullAnswer where
  | unchanged
  | full (response : FullResponse)
  | failed

/-- `pull_catalog`. -/
def PullRequest.answer (request : PullRequest) : PullAnswer :=
  if request.revision ≠ "" ∧ request.revision = request.state.revision host accountId then .unchanged
  else
    match request.state.fullResponse host accountId request.report with
    | some response => .full response
    | none => .failed

def PullAnswer.response (revision : String) : PullAnswer → Option FullResponse
  | .full response => if response.revision = revision then some response else none
  | _ => none

def received (earlier : List PullRequest) (revision : String) :
    Option (PullRequest × FullResponse) :=
  earlier.reverse.findSome? fun request =>
    ((request.answer host accountId).response revision).map fun response => (request, response)

structure SameBut (skipped : List String) (left right : Json) : Prop where
  object : isObject left = isObject right
  fields : ∀ key, key ∉ skipped → left.get? key = right.get? key

structure SameData (left right : Json) : Prop extends SameBut [] left right where
  value : isObject left = false → left = right

section

variable {host} {left right : Json} {skipped : List String}

variable {key : String}

theorem same_set {first second : Json} (same : SameBut skipped left right)
    (objects : isObject left = true) (values : key ∉ skipped → first = second) :
    SameBut skipped (setField key first left) (setField key second right) := by
  constructor
  · rw [is_object_set, is_object_set]
    exact same.object
  · intro other kept
    by_cases own : other = key
    · subst own
      rw [get_set_same objects, get_set_same (same.object ▸ objects), values kept]
    · rw [get_set_other own, get_set_other own]
      exact same.fields other kept

variable (host) in
theorem same_set_text (key : String) (same : SameBut skipped left right)
    (objects : isObject left = true) :
    SameBut skipped (setText host.toCatalogHost left key) (setText host.toCatalogHost right key) := by
  apply same_set same objects
  intro kept
  rw [same.fields key kept]

variable (host) in
theorem same_set_texts (key : String) (change : String → String)
    (same : SameBut skipped left right) (objects : isObject left = true) (kept : key ∉ skipped) :
    SameBut skipped (setTexts host.toCatalogHost change left key)
      (setTexts host.toCatalogHost change right key) := by
  rw [setTexts, setTexts, same.fields key kept]
  split
  · exact same_set same objects fun _ => rfl
  · exact same_set same objects fun _ => rfl

theorem is_object_set_text :
    isObject (setText host.toCatalogHost left key) = isObject left := is_object_set

theorem is_object_set_texts {change : String → String} :
    isObject (setTexts host.toCatalogHost change left key) = isObject left := by
  rw [setTexts]
  split <;> exact is_object_set

theorem same_fold (step : Json → String → Json) (keys : List String)
    (same : SameBut skipped left right) (objects : isObject left = true)
    (object : ∀ data key, isObject (step data key) = isObject data)
    (keeps : ∀ first second, SameBut skipped first second → isObject first = true →
      ∀ key ∈ keys, SameBut skipped (step first key) (step second key)) :
    SameBut skipped (keys.foldl step left) (keys.foldl step right) := by
  induction keys generalizing left right with
  | nil => exact same
  | cons key rest ih =>
    rw [foldl_cons, foldl_cons]
    apply ih
    · exact keeps left right same objects key mem_cons_self
    · rw [object, objects]
    · intro first second agree given other listed
      exact keeps first second agree given other (mem_cons_of_mem _ listed)

theorem object_fold {step : Json → String → Json} {keys : List String}
    (object : ∀ data key, isObject (step data key) = isObject data) :
    isObject (keys.foldl step left) = isObject left := by
  induction keys generalizing left with
  | nil => rfl
  | cons key rest ih => rw [foldl_cons, ih, object]

end

section

variable {host} {first second : Catalog} {left right data : Json}

theorem normalize_category_eq (catalog : Catalog) (object : isObject data = true) :
    catalog.normalizeSkillCategory host.toCatalogHost data =
      setField "category" (.str (categoryPair host catalog data).2)
        (setField "category_slug" (.str (categoryPair host catalog data).1) data) := by
  rw [Catalog.normalizeSkillCategory, if_pos object, categoryPair]
  dsimp only
  cases catalog.categoryOf host.toCatalogHost (strippedField host.toCatalogHost "category_slug" data)
      (strippedField host.toCatalogHost "category" data) with
  | some row => rfl
  | none => rfl

variable {skipped : List String}

variable (host) in
theorem stripped_same (key : String) (same : SameBut skipped left right) (kept : key ∉ skipped) :
    strippedField host.toCatalogHost key left = strippedField host.toCatalogHost key right := by
  rw [strippedField, strippedField, Json.strField, Json.strField, Json.getTruthy, Json.getTruthy,
    same.fields key kept]

theorem category_pair_same (catalog : Catalog) (same : SameBut [] left right) :
    categoryPair host catalog left = categoryPair host catalog right := by
  have slug := stripped_same host "category_slug" same (by simp)
  have name := stripped_same host "category" same (by simp)
  rw [categoryPair, categoryPair, slug, name]

theorem permissions_of_same (tools : first.tools = second.tools) (names : List String) :
    first.permissionsOf host.toCatalogHost names = second.permissionsOf host.toCatalogHost names := by
  have lookup : ∀ name, first.toolPermissions host.toCatalogHost name =
      second.toolPermissions host.toCatalogHost name := by
    intro name
    rw [Catalog.toolPermissions, Catalog.toolPermissions, Catalog.tool?, Catalog.tool?, tools]
  rw [Catalog.permissionsOf, Catalog.permissionsOf, funext lookup]

theorem same_permissions (tools : first.tools = second.tools) (same : SameBut skipped left right)
    (objects : isObject left = true) (kept : "tools" ∉ skipped) :
    SameBut skipped (first.setPermissions host.toCatalogHost left)
      (second.setPermissions host.toCatalogHost right) := by
  rw [Catalog.setPermissions, Catalog.setPermissions, same.fields "tools" kept]
  split
  · next names _ =>
    rw [permissions_of_same tools]
    apply same_set
    · exact same_set same objects fun _ => rfl
    · rw [is_object_set, objects]
    · exact fun _ => rfl
  · exact same

theorem is_object_permissions (catalog : Catalog) :
    isObject (catalog.setPermissions host.toCatalogHost data) = isObject data := by
  rw [Catalog.setPermissions]
  split
  · rw [is_object_set, is_object_set]
  · rfl

theorem is_object_category (catalog : Catalog) :
    isObject (catalog.normalizeSkillCategory host.toCatalogHost data) = isObject data := by
  cases object : isObject data with
  | true => rw [normalize_category_eq catalog object, is_object_set, is_object_set, object]
  | false => rw [Catalog.normalizeSkillCategory, object, if_neg (by simp), object]

def categoryKeys : List String := ["category", "category_slug"]

theorem same_weaken (same : SameBut [] left right) : SameBut skipped left right :=
  ⟨same.object, fun key _ => same.fields key (by simp)⟩

theorem same_markdown (same : SameBut skipped left right) (objects : isObject left = true)
    (kept : "skill_markdown" ∉ skipped) :
    SameBut skipped (if (left.get? "skill_markdown").isSome then
        setField "skill_markdown" (.str (left.strField host.toPyText "skill_markdown")) left
      else left)
      (if (right.get? "skill_markdown").isSome then
        setField "skill_markdown" (.str (right.strField host.toPyText "skill_markdown")) right
      else right) := by
  rw [Json.strField, Json.strField, Json.getTruthy, Json.getTruthy, same.fields _ kept]
  split
  · exact same_set same objects fun _ => rfl
  · exact same

def markedTexts (host : ReleaseHost) (catalog : Catalog) (data : Json) : Json :=
  let texts := ["slug", "name", "icon", "category", "description", "instructions"].foldl
    (setText host.toCatalogHost) (catalog.normalizeSkillCategory host.toCatalogHost data)
  if (texts.get? "skill_markdown").isSome then
    setField "skill_markdown" (.str (texts.strField host.toPyText "skill_markdown")) texts
  else texts

theorem normalized_eq (catalog : Catalog) (object : isObject data = true) :
    catalog.normalizeAppSkill host.toCatalogHost data =
      setField "source" (.str "Server") (catalog.setPermissions host.toCatalogHost
        (["platforms", "environments", "requires_tools"].foldl
          (setTexts host.toCatalogHost host.lower)
          (setTexts host.toCatalogHost id (markedTexts host catalog data) "tools"))) := by
  rw [Catalog.normalizeAppSkill, if_pos object]
  rfl

theorem is_object_marked (catalog : Catalog) :
    isObject (markedTexts host catalog data) = isObject data := by
  have texts : isObject (["slug", "name", "icon", "category", "description", "instructions"].foldl
      (setText host.toCatalogHost) (catalog.normalizeSkillCategory host.toCatalogHost data)) =
        isObject data := by
    rw [object_fold fun _ _ => is_object_set_text, is_object_category]
  rw [markedTexts]
  split
  · rw [is_object_set, texts]
  · exact texts

theorem is_object_normalized (catalog : Catalog) :
    isObject (catalog.normalizeAppSkill host.toCatalogHost data) = isObject data := by
  cases object : isObject data with
  | true =>
    rw [normalized_eq catalog object, is_object_set, is_object_permissions,
      object_fold fun _ _ => is_object_set_texts, is_object_set_texts, is_object_marked, object]
  | false => rw [Catalog.normalizeAppSkill, object, if_neg (by simp), object]

variable (host) in
theorem same_normalized (tools : first.tools = second.tools) (same : SameBut [] left right)
    (objects : isObject left = true) :
    SameBut categoryKeys (first.normalizeAppSkill host.toCatalogHost left)
      (second.normalizeAppSkill host.toCatalogHost right) := by
  have others : isObject right = true := same.object ▸ objects
  have categorized : SameBut categoryKeys (first.normalizeSkillCategory host.toCatalogHost left)
      (second.normalizeSkillCategory host.toCatalogHost right) := by
    rw [normalize_category_eq first objects, normalize_category_eq second others]
    apply same_set
    · exact same_set (same_weaken same) objects fun kept => absurd (by simp [categoryKeys]) kept
    · rw [is_object_set, objects]
    · exact fun kept => absurd (by simp [categoryKeys]) kept
  have texts := same_fold (setText host.toCatalogHost)
    ["slug", "name", "icon", "category", "description", "instructions"] categorized
    (by rw [is_object_category, objects]) (fun _ _ => is_object_set_text)
    fun _ _ agree given key _ => same_set_text host key agree given
  have marked : SameBut categoryKeys (markedTexts host first left) (markedTexts host second right) :=
    same_markdown texts
      (by rw [object_fold fun _ _ => is_object_set_text, is_object_category, objects]) (by decide)
  have named := same_set_texts host "tools" id marked
    (by rw [is_object_marked, objects]) (by decide)
  have given : isObject (setTexts host.toCatalogHost id (markedTexts host first left) "tools") =
      true := by
    rw [is_object_set_texts, is_object_marked, objects]
  have listed := same_fold (setTexts host.toCatalogHost host.lower)
    ["platforms", "environments", "requires_tools"] named given (fun _ _ => is_object_set_texts)
    fun _ _ agree object key mem => same_set_texts host key _ agree object (by
      intro category
      revert key
      decide)
  have listedObject : isObject (["platforms", "environments", "requires_tools"].foldl
      (setTexts host.toCatalogHost host.lower)
        (setTexts host.toCatalogHost id (markedTexts host first left) "tools")) = true := by
    rw [object_fold fun _ _ => is_object_set_texts, given]
  rw [normalized_eq first objects, normalized_eq second others]
  apply same_set (same_permissions tools listed listedObject (by decide))
  · rw [is_object_permissions, listedObject]
  · exact fun _ => rfl

variable (host) in
theorem normalized_category (catalog : Catalog) (object : isObject data = true) :
    (catalog.normalizeAppSkill host.toCatalogHost data).get? "category" =
        some (.str (strip (categoryPair host catalog data).2)) ∧
      (catalog.normalizeAppSkill host.toCatalogHost data).get? "category_slug" =
        some (.str (categoryPair host catalog data).1) := by
  have lists : ∀ key, key ∈ categoryKeys →
      (catalog.normalizeAppSkill host.toCatalogHost data).get? key =
        (["slug", "name", "icon", "category", "description", "instructions"].foldl
          (setText host.toCatalogHost)
          (catalog.normalizeSkillCategory host.toCatalogHost data)).get? key := by
    intro key mem
    have apart : key ≠ "source" ∧ key ≠ "permissions" ∧ key ≠ "tool_contract_version" ∧
        key ≠ "tools" ∧ key ≠ "skill_markdown" ∧
        key ∉ ["platforms", "environments", "requires_tools"] := by
      revert key
      decide
    rw [normalized_eq catalog object, get_set_other apart.1,
      get_permissions_other _ _ apart.2.1 apart.2.2.1,
      get_fold_other (fun _ _ => get_set_texts_other host.toCatalogHost) apart.2.2.2.2.2,
      get_set_texts_other _ apart.2.2.2.1, markedTexts]
    split
    · exact get_set_other apart.2.2.2.2.1
    · rfl
  rw [lists "category" (by decide), lists "category_slug" (by decide),
    normalize_category_eq catalog object]
  constructor
  · have before : ["slug", "name", "icon", "category", "description", "instructions"] =
        ["slug", "name", "icon"] ++ "category" :: ["description", "instructions"] := rfl
    rw [before, foldl_append, foldl_cons,
      get_fold_other (fun _ _ => get_set_text_other host.toCatalogHost) (by decide), setText,
      get_set_same, get_fold_other (fun _ _ => get_set_text_other host.toCatalogHost) (by decide),
      get_set_same]
    · rfl
    · rw [is_object_set, object]
    · rw [object_fold fun _ _ => is_object_set_text, is_object_set, is_object_set, object]
  · rw [get_fold_other (fun _ _ => get_set_text_other host.toCatalogHost) (by decide),
      get_set_other (by decide), get_set_same object]

theorem same_normalized_iff (tools : first.tools = second.tools) (same : SameData left right)
    (object : isObject right = true) :
    SameData (first.normalizeAppSkill host.toCatalogHost left)
        (second.normalizeAppSkill host.toCatalogHost right) ↔
      (categoryPair host first right).1 = (categoryPair host second right).1 ∧
        strip (categoryPair host first right).2 = strip (categoryPair host second right).2 := by
  have objects : isObject left = true := same.object ▸ object
  have other := same_normalized host tools same.toSameBut objects
  have leftCategory := normalized_category host first objects
  have rightCategory := normalized_category host second object
  rw [category_pair_same first same.toSameBut] at leftCategory
  constructor
  · intro shown
    have name := shown.fields "category" (by simp)
    have slug := shown.fields "category_slug" (by simp)
    rw [leftCategory.1, rightCategory.1, Option.some.injEq, Json.str.injEq] at name
    rw [leftCategory.2, rightCategory.2, Option.some.injEq, Json.str.injEq] at slug
    exact ⟨slug, name⟩
  · rintro ⟨slug, name⟩
    refine ⟨⟨other.object, fun key _ => ?_⟩, fun plain => ?_⟩
    · by_cases category : key ∈ categoryKeys
      · rcases mem_pair.mp category with rfl | rfl
        · rw [leftCategory.1, rightCategory.1, name]
        · rw [leftCategory.2, rightCategory.2, slug]
      · exact other.fields key category
    · rw [is_object_normalized, objects] at plain
      cases plain

def recommendedFields (host : ReleaseHost) (catalog : Catalog) (data : Json) :
    Option Json × Option Json :=
  if provider host data = "agentmate" then
    match recommendedSkill host catalog data with
    | some row =>
      let skill := catalog.normalizeAppSkill host.toCatalogHost row.data
      (some ((skill.get? "category_slug").getD (.str "")),
        some ((skill.get? "category").getD (.str "")))
    | none => (data.get? "category_slug", data.get? "category")
  else (some (.str (categoryPair host catalog data).1), some (.str (categoryPair host catalog data).2))

theorem recommended_fields_same (catalog : Catalog) (same : SameBut [] left right) :
    recommendedFields host catalog left = recommendedFields host catalog right := by
  have provided := stripped_same host "provider" same (by simp)
  have slug := stripped_same host "skill_slug" same (by simp)
  rw [recommendedFields, recommendedFields, provider, provider, recommendedSkill, recommendedSkill,
    provided, slug, category_pair_same catalog same, same.fields "category" (by simp),
    same.fields "category_slug" (by simp)]

theorem category_pair_provider (catalog : Catalog) (value : Json) :
    categoryPair host catalog (setField "provider" value data) = categoryPair host catalog data := by
  have stripped : ∀ key, key ≠ "provider" →
      strippedField host.toCatalogHost key (setField "provider" value data) =
        strippedField host.toCatalogHost key data := by
    intro key different
    rw [strippedField, strippedField, Json.strField, Json.strField, Json.getTruthy, Json.getTruthy,
      get_set_other different]
  rw [categoryPair, categoryPair, stripped _ (by decide), stripped _ (by decide)]

theorem set_category_fields {slug name : Json} (object : isObject data = true) :
    (setField "category" name (setField "category_slug" slug data)).get? "category_slug" =
        some slug ∧
      (setField "category" name (setField "category_slug" slug data)).get? "category" =
        some name := by
  rw [get_set_other (by decide), get_set_same object, get_set_same (by rw [is_object_set, object])]
  exact ⟨rfl, rfl⟩

variable (host) in
theorem recommendation_eq (catalog : Catalog) (object : isObject data = true) :
    normalizeSkillRecommendation host catalog data =
        setField "provider" (.str (provider host data)) data ∨
      ∃ slug name, normalizeSkillRecommendation host catalog data =
        setField "category" name (setField "category_slug" slug
          (setField "provider" (.str (provider host data)) data)) := by
  rw [normalizeSkillRecommendation, if_pos object]
  dsimp only
  split
  · cases recommendedSkill host catalog data with
    | some row => exact .inr ⟨_, _, rfl⟩
    | none => exact .inl rfl
  · rw [normalize_category_eq catalog (by rw [is_object_set, object])]
    exact .inr ⟨_, _, rfl⟩

theorem recommendation_other (catalog : Catalog) (object : isObject data = true) {key : String}
    (other : key ∉ categoryKeys) :
    (normalizeSkillRecommendation host catalog data).get? key =
      (setField "provider" (.str (provider host data)) data).get? key := by
  rw [categoryKeys, mem_pair, not_or] at other
  obtain same | ⟨slug, name, same⟩ := recommendation_eq host catalog object
  · rw [same]
  · rw [same, get_set_other other.1, get_set_other other.2]

theorem is_object_recommendation (catalog : Catalog) (object : isObject data = true) :
    isObject (normalizeSkillRecommendation host catalog data) = true := by
  obtain same | ⟨slug, name, same⟩ := recommendation_eq host catalog object
  · rw [same, is_object_set, object]
  · rw [same, is_object_set, is_object_set, is_object_set, object]

variable (host) in
theorem recommendation_category (catalog : Catalog) (object : isObject data = true) :
    (normalizeSkillRecommendation host catalog data).get? "category_slug" =
        (recommendedFields host catalog data).1 ∧
      (normalizeSkillRecommendation host catalog data).get? "category" =
        (recommendedFields host catalog data).2 := by
  have given : isObject (setField "provider" (.str (provider host data)) data) = true := by
    rw [is_object_set, object]
  rw [normalizeSkillRecommendation, if_pos object, recommendedFields]
  dsimp only
  split
  · cases recommendedSkill host catalog data with
    | some row => exact set_category_fields given
    | none => exact ⟨get_set_other (by decide), get_set_other (by decide)⟩
  · rw [normalize_category_eq catalog given, category_pair_provider]
    exact set_category_fields given

theorem same_recommendation_iff (same : SameData left right) (object : isObject right = true) :
    SameData (normalizeSkillRecommendation host first left)
        (normalizeSkillRecommendation host second right) ↔
      recommendedFields host first right = recommendedFields host second right := by
  have objects : isObject left = true := same.object ▸ object
  have leftCategory := recommendation_category host first objects
  have rightCategory := recommendation_category host second object
  rw [recommended_fields_same first same.toSameBut] at leftCategory
  constructor
  · intro shown
    have slug := shown.fields "category_slug" (by simp)
    have name := shown.fields "category" (by simp)
    rw [leftCategory.1, rightCategory.1] at slug
    rw [leftCategory.2, rightCategory.2] at name
    exact Prod.ext slug name
  · intro fields
    have provided := stripped_same host "provider" same.toSameBut (by simp)
    refine ⟨⟨?_, fun key _ => ?_⟩, fun plain => ?_⟩
    · rw [is_object_recommendation first objects, is_object_recommendation second object]
    · by_cases category : key ∈ categoryKeys
      · rcases mem_pair.mp category with rfl | rfl
        · rw [leftCategory.2, rightCategory.2, fields]
        · rw [leftCategory.1, rightCategory.1, fields]
      · rw [recommendation_other first objects category, recommendation_other second object category,
          provider, provider, provided]
        exact (same_set same.toSameBut objects fun _ => rfl).fields key (by simp)
    · rw [is_object_recommendation first objects] at plain
      cases plain

end

section

variable {host} {first second : Catalog} {left right data : Json}

theorem tool_spec_same (tools : first.tools = second.tools) (name : String) :
    first.toolSpec name = second.toolSpec name := by
  rw [Catalog.toolSpec, Catalog.toolSpec, Catalog.tool?, Catalog.tool?, tools]

theorem is_unsupported_same (tools : first.tools = second.tools) (report : CapabilityReport) :
    first.isUnsupported host.toCatalogHost report =
      second.isUnsupported host.toCatalogHost report := by
  funext name
  rw [Catalog.isUnsupported, Catalog.isUnsupported, Catalog.supportedContract,
    Catalog.supportedContract, tool_spec_same tools]

variable (host) in
theorem required_app_same (left right : Json) (tools : first.tools = second.tools)
    (names : List String)
    (given : left.get? "min_app_version" = right.get? "min_app_version") :
    first.requiredApp host.toCatalogHost left names =
      second.requiredApp host.toCatalogHost right names := by
  rw [Catalog.requiredApp, Catalog.requiredApp, textOr, textOr, Json.getTruthy, Json.getTruthy, given]
  congr 1
  funext required name
  rw [tool_spec_same tools]

theorem sorted_filter_eq_iff {names : List String} {chosen other : String → Bool} :
    (names.filter chosen).insertionSort (· ≤ ·) = (names.filter other).insertionSort (· ≤ ·) ↔
      ∀ name ∈ names, chosen name = other name := by
  constructor
  · intro same name listed
    have members : ∀ pick : String → Bool,
        name ∈ (names.filter pick).insertionSort (· ≤ ·) ↔ pick name = true := by
      intro pick
      rw [mem_insertionSort, mem_filter]
      exact and_iff_right listed
    rw [Bool.eq_iff_iff, ← members chosen, ← members other, same]
  · intro agree
    rw [filter_congr agree]

theorem intercalate_two (first second : String) :
    "; ".intercalate [first, second] ≠ "; ".intercalate [second] := by
  intro same
  have lengths := congrArg String.length same
  have both : "; ".intercalate [first, second] = first ++ "; " ++ second := rfl
  have last : "; ".intercalate [second] = second := rfl
  have mark : "; ".length = 2 := by decide
  rw [both, last, String.length_append, String.length_append, mark] at lengths
  omega

theorem reasons_tell {old new : Prop} [Decidable old] [Decidable new] {reason : String}
    {rest : List String} (short : rest.length ≤ 1)
    (empty : ((if old then [reason] else []) ++ rest).isEmpty =
      ((if new then [reason] else []) ++ rest).isEmpty)
    (error : "; ".intercalate ((if old then [reason] else []) ++ rest) =
      "; ".intercalate ((if new then [reason] else []) ++ rest)) : old ↔ new := by
  cases rest with
  | nil =>
    by_cases before : old <;> by_cases after : new <;> simp_all
  | cons last more =>
    have only : more = [] := by
      rw [length_cons] at short
      exact length_eq_zero_iff.mp (by omega)
    subst only
    by_cases before : old <;> by_cases after : new
    · exact iff_of_true before after
    · rw [if_pos before, if_neg after] at error
      exact absurd error (intercalate_two reason last)
    · rw [if_neg before, if_pos after] at error
      exact absurd error.symm (intercalate_two reason last)
    · exact iff_of_false before after

def TooOld (host : ReleaseHost) (catalog : Catalog) (data : Json) (tools : List String)
    (report : CapabilityReport) : Prop :=
  versionTuple host.toCatalogHost report.appVersion <
    versionTuple host.toCatalogHost (catalog.requiredApp host.toCatalogHost data tools)

instance (catalog : Catalog) (tools : List String) (report : CapabilityReport) :
    Decidable (TooOld host catalog data tools report) := inferInstanceAs (Decidable (_ < _))

def SameSupport (host : ReleaseHost) (catalog : Catalog) (data : Json) (tools : List String)
    (old new : CapabilityReport) : Prop :=
  (TooOld host catalog data tools old ↔ TooOld host catalog data tools new) ∧
    ∀ name ∈ tools, catalog.isUnsupported host.toCatalogHost old name =
      catalog.isUnsupported host.toCatalogHost new name

theorem skill_compatibility_eq_iff (catalog : Catalog) (old new : CapabilityReport) :
    catalog.skillCompatibility host.toCatalogHost data old =
        catalog.skillCompatibility host.toCatalogHost data new ↔
      SameSupport host catalog data
        (((data.listField "tools").map (Json.pyStr host.toPyText)).filter (· ≠ "")) old new := by
  rw [SameSupport, ← sorted_filter_eq_iff]
  simp only [Catalog.skillCompatibility, TooOld]
  constructor
  · intro same
    injection same with compatible error _ unsupported
    refine ⟨?_, unsupported⟩
    rw [unsupported] at compatible error
    refine reasons_tell ?_ compatible error
    split <;> simp
  · rintro ⟨side, unsupported⟩
    rw [unsupported]
    simp only [side]

variable {tools : List String}

theorem tool_names_nonempty (named : toolNames host data = some tools) :
    ∀ name ∈ tools, name ≠ "" := by
  intro name listed
  rw [toolNames] at named
  split at named
  · cases named
    cases listed
  · cases named
    exact of_decide_eq_true (mem_filter.mp listed).2
  · cases named
    exact of_decide_eq_true (mem_filter.mp listed).2
  · cases named
    obtain ⟨char, _, rfl⟩ := List.mem_map.mp listed
    exact String.singleton_ne_empty
  · cases named

theorem listed_tools (object : isObject data = true) (named : ∀ name ∈ tools, name ≠ "") :
    (((setField "tools" (.arr (tools.map Json.str)) data).listField "tools").map
      (Json.pyStr host.toPyText)).filter (· ≠ "") = tools := by
  rw [Json.listField, get_set_same object, List.map_map]
  have texts : (tools.map (Json.pyStr host.toPyText ∘ Json.str)) = tools := List.map_id tools
  rw [texts, filter_eq_self]
  exact fun name listed => decide_eq_true (named name listed)

variable (host) in
theorem skill_compatibility_same (tools : List String) (same : first.tools = second.tools)
    (minimum : left.get? "min_app_version" = right.get? "min_app_version")
    (leftObject : isObject left = true) (rightObject : isObject right = true)
    (report : CapabilityReport) :
    first.skillCompatibility host.toCatalogHost
        (setField "tools" (.arr (tools.map Json.str)) left) report =
      second.skillCompatibility host.toCatalogHost
        (setField "tools" (.arr (tools.map Json.str)) right) report := by
  have listed : (setField "tools" (.arr (tools.map Json.str)) left).listField "tools" =
      (setField "tools" (.arr (tools.map Json.str)) right).listField "tools" := by
    rw [Json.listField, Json.listField, get_set_same leftObject, get_set_same rightObject]
  have required := fun names => required_app_same host
    (setField "tools" (.arr (tools.map Json.str)) left)
    (setField "tools" (.arr (tools.map Json.str)) right) same names (by
      rw [get_set_other (by decide), get_set_other (by decide), minimum])
  simp only [Catalog.skillCompatibility, listed, required, is_unsupported_same same]

theorem compatibility_eq_iff (catalog : Catalog) (object : isObject data = true)
    (named : toolNames host data = some tools) (old new : CapabilityReport) :
    catalog.skillCompatibility host.toCatalogHost
        (setField "tools" (.arr (tools.map Json.str)) data) old =
      catalog.skillCompatibility host.toCatalogHost
        (setField "tools" (.arr (tools.map Json.str)) data) new ↔
      SameSupport host catalog data tools old new := by
  have same : catalog.tools = catalog.tools := rfl
  have required := required_app_same host
    (setField "tools" (.arr (tools.map Json.str)) data) data same tools (get_set_other (by decide))
  rw [skill_compatibility_eq_iff, listed_tools object (tool_names_nonempty named), SameSupport,
    SameSupport, TooOld, TooOld, TooOld, TooOld, required]

end

structure SameRow (left right : ProjectedItem) : Prop where
  rest : withData left .null = withData right .null
  data : SameData left.item.data right.item.data

structure SameItem (left right : RenderedItem) : Prop where
  row : SameRow left.row right.row
  state : left.state = right.state

structure SameFor (host : ReleaseHost) (old new : PullRequest) (row : ProjectedItem) : Prop where
  category : row.item.category = "APP_SKILLS" → isObject row.item.data = true →
    (categoryPair host old.state.catalog row.item.data).1 =
        (categoryPair host new.state.catalog row.item.data).1 ∧
      strip (categoryPair host old.state.catalog row.item.data).2 =
        strip (categoryPair host new.state.catalog row.item.data).2
  support : row.item.category = "APP_SKILLS" → isObject row.item.data = true →
    row.item.enabled = true → ∀ tools ∈ toolNames host
          (new.state.catalog.normalizeAppSkill host.toCatalogHost row.item.data),
        SameSupport host new.state.catalog
          (new.state.catalog.normalizeAppSkill host.toCatalogHost row.item.data) tools
          old.report new.report
  recommended : row.item.category = "SKILL_RECOMMENDATIONS" → isObject row.item.data = true →
    recommendedFields host old.state.catalog row.item.data =
      recommendedFields host new.state.catalog row.item.data

section

variable {host} {old new : PullRequest} {left right : ProjectedItem} {shown : RenderedItem}

theorem same_row_fields (same : SameRow left right) :
    left.item.category = right.item.category ∧ left.item.enabled = right.item.enabled := by
  have category := congrArg (fun row => row.item.category) same.rest
  have enabled := congrArg (fun row => row.item.enabled) same.rest
  exact ⟨category, enabled⟩

theorem same_row_with {first second : Json} (same : SameRow left right) :
    SameRow (withData left first) (withData right second) ↔ SameData first second := by
  constructor
  · exact SameRow.data
  · intro data
    refine ⟨?_, data⟩
    exact same.rest

theorem tool_names_same {first second : Json} (same : SameBut categoryKeys first second) :
    toolNames host first = toolNames host second := by
  rw [toolNames, toolNames, same.fields "tools" (by decide)]

theorem render_skill_iff (tools : old.state.catalog.tools = new.state.catalog.tools)
    (same : SameRow left right) (category : right.item.category = "APP_SKILLS")
    (object : isObject right.item.data = true) (enabled : right.item.enabled = true)
    (rendered : render host old.state.catalog old.report left = some shown) :
    (∃ current, render host new.state.catalog new.report right = some current ∧
        SameItem shown current) ↔
      ((categoryPair host old.state.catalog right.item.data).1 =
          (categoryPair host new.state.catalog right.item.data).1 ∧
        strip (categoryPair host old.state.catalog right.item.data).2 =
          strip (categoryPair host new.state.catalog right.item.data).2) ∧
      ∀ names ∈ toolNames host
          (new.state.catalog.normalizeAppSkill host.toCatalogHost right.item.data),
        SameSupport host new.state.catalog
          (new.state.catalog.normalizeAppSkill host.toCatalogHost right.item.data) names
          old.report new.report := by
  have leftObject : isObject left.item.data = true := same.data.object ▸ object
  have leftCategory : left.item.category = "APP_SKILLS" := (same_row_fields same).1.trans category
  have leftEnabled : left.item.enabled = true := (same_row_fields same).2.trans enabled
  have normalized := same_normalized host tools same.data.toSameBut leftObject
  have newObject : isObject (new.state.catalog.normalizeAppSkill host.toCatalogHost
      right.item.data) = true := by
    rw [is_object_normalized, object]
  have oldObject : isObject (old.state.catalog.normalizeAppSkill host.toCatalogHost
      left.item.data) = true := by
    rw [is_object_normalized, leftObject]
  rw [render, if_pos ⟨leftCategory, leftObject⟩] at rendered
  rw [render, if_pos ⟨category, object⟩]
  simp only [leftEnabled, enabled, if_true, compatibility, tool_names_same normalized] at rendered ⊢
  cases named : toolNames host
      (new.state.catalog.normalizeAppSkill host.toCatalogHost right.item.data) with
  | none =>
    rw [named] at rendered
    cases rendered
  | some names =>
    rw [named] at rendered
    simp only [map_some, Option.some.injEq] at rendered ⊢
    rw [← rendered, ← same_normalized_iff tools same.data object]
    have compatible := skill_compatibility_same host names tools
      (normalized.fields "min_app_version" (by decide)) oldObject newObject old.report
    constructor
    · rintro ⟨current, rfl, shownSame⟩
      refine ⟨(same_row_with same).mp shownSame.row, ?_⟩
      intro tools' listed
      cases listed
      apply (compatibility_eq_iff new.state.catalog newObject named old.report new.report).mp
      rw [← compatible]
      have state := Option.some.inj shownSame.state
      injection state
    · rintro ⟨data, support⟩
      refine ⟨_, rfl, (same_row_with same).mpr data, ?_⟩
      have agree := (compatibility_eq_iff new.state.catalog newObject named old.report
        new.report).mpr (support names rfl)
      simp only [compatible, agree]

theorem render_withdrawn_iff (tools : old.state.catalog.tools = new.state.catalog.tools)
    (same : SameRow left right) (category : right.item.category = "APP_SKILLS")
    (object : isObject right.item.data = true) (disabled : right.item.enabled = false)
    (rendered : render host old.state.catalog old.report left = some shown) :
    (∃ current, render host new.state.catalog new.report right = some current ∧
        SameItem shown current) ↔
      ((categoryPair host old.state.catalog right.item.data).1 =
          (categoryPair host new.state.catalog right.item.data).1 ∧
        strip (categoryPair host old.state.catalog right.item.data).2 =
          strip (categoryPair host new.state.catalog right.item.data).2) := by
  have leftObject : isObject left.item.data = true := same.data.object ▸ object
  have leftCategory : left.item.category = "APP_SKILLS" := (same_row_fields same).1.trans category
  have leftDisabled : left.item.enabled = false := (same_row_fields same).2.trans disabled
  have normalized := same_normalized host tools same.data.toSameBut leftObject
  have withdrawn : withdrawnState host (old.state.catalog.normalizeAppSkill host.toCatalogHost
      left.item.data) = withdrawnState host (new.state.catalog.normalizeAppSkill
        host.toCatalogHost right.item.data) := by
    rw [withdrawnState, withdrawnState, textOr, textOr, Json.getTruthy, Json.getTruthy,
      normalized.fields "min_app_version" (by decide)]
  rw [render, if_pos ⟨leftCategory, leftObject⟩] at rendered
  rw [render, if_pos ⟨category, object⟩, ← same_normalized_iff tools same.data object]
  simp only [leftDisabled, disabled, Bool.false_eq_true, if_false, Option.some.injEq] at rendered ⊢
  rw [← rendered]
  constructor
  · rintro ⟨current, rfl, shownSame⟩
    exact (same_row_with same).mp shownSame.row
  · intro data
    exact ⟨_, rfl, (same_row_with same).mpr data, congrArg some withdrawn⟩

theorem render_recommendation_iff (same : SameRow left right)
    (category : right.item.category = "SKILL_RECOMMENDATIONS")
    (rendered : render host old.state.catalog old.report left = some shown) :
    (∃ current, render host new.state.catalog new.report right = some current ∧
        SameItem shown current) ↔
      (isObject right.item.data = true → recommendedFields host old.state.catalog right.item.data =
        recommendedFields host new.state.catalog right.item.data) := by
  have leftCategory : left.item.category = "SKILL_RECOMMENDATIONS" :=
    (same_row_fields same).1.trans category
  have other : ¬("SKILL_RECOMMENDATIONS" : String) = "APP_SKILLS" := by decide
  simp only [render, leftCategory, category, other, false_and, if_false, if_true,
    Option.some.injEq] at rendered ⊢
  rw [← rendered]
  cases object : isObject right.item.data with
  | true =>
    rw [← same_recommendation_iff same.data object]
    constructor
    · rintro ⟨current, rfl, shownSame⟩ -
      exact (same_row_with same).mp shownSame.row
    · intro data
      exact ⟨_, rfl, (same_row_with same).mpr (data rfl), rfl⟩
  | false =>
    have leftPlain : isObject left.item.data = false := same.data.object.trans object
    have kept : ∀ (catalog : Catalog) (data : Json), isObject data = false →
        normalizeSkillRecommendation host catalog data = data := by
      intro catalog data plain
      rw [normalizeSkillRecommendation, plain, if_neg (by simp)]
    rw [kept _ _ leftPlain, kept _ _ object]
    refine iff_of_true ⟨_, rfl, (same_row_with same).mpr same.data, rfl⟩ ?_
    intro given
    cases given

theorem render_other (same : SameRow left right)
    (skill : ¬(right.item.category = "APP_SKILLS" ∧ isObject right.item.data = true))
    (recommendation : right.item.category ≠ "SKILL_RECOMMENDATIONS")
    (rendered : render host old.state.catalog old.report left = some shown) :
    ∃ current, render host new.state.catalog new.report right = some current ∧
      SameItem shown current := by
  have leftSkill : ¬(left.item.category = "APP_SKILLS" ∧ isObject left.item.data = true) := by
    rw [(same_row_fields same).1, same.data.object]
    exact skill
  have leftOther : left.item.category ≠ "SKILL_RECOMMENDATIONS" := by
    rw [(same_row_fields same).1]
    exact recommendation
  rw [render, if_neg leftSkill, if_neg leftOther] at rendered
  rw [render, if_neg skill, if_neg recommendation, ← Option.some.inj rendered]
  exact ⟨_, rfl, same, rfl⟩

theorem render_iff (tools : old.state.catalog.tools = new.state.catalog.tools)
    (same : SameRow left right)
    (rendered : render host old.state.catalog old.report left = some shown) :
    (∃ current, render host new.state.catalog new.report right = some current ∧
        SameItem shown current) ↔ SameFor host old new right := by
  by_cases skill : right.item.category = "APP_SKILLS" ∧ isObject right.item.data = true
  · have other : ¬right.item.category = "SKILL_RECOMMENDATIONS" := by
      rw [skill.1]
      decide
    cases enabled : right.item.enabled with
    | true =>
      rw [render_skill_iff tools same skill.1 skill.2 enabled rendered]
      constructor
      · rintro ⟨category, support⟩
        exact ⟨fun _ _ => category, fun _ _ _ => support, fun given => absurd given other⟩
      · intro agree
        exact ⟨agree.category skill.1 skill.2, agree.support skill.1 skill.2 enabled⟩
    | false =>
      rw [render_withdrawn_iff tools same skill.1 skill.2 enabled rendered]
      constructor
      · intro category
        refine ⟨fun _ _ => category, fun _ _ shows => ?_, fun given => absurd given other⟩
        rw [enabled] at shows
        cases shows
      · intro agree
        exact agree.category skill.1 skill.2
  · by_cases recommendation : right.item.category = "SKILL_RECOMMENDATIONS"
    · rw [render_recommendation_iff same recommendation rendered]
      constructor
      · intro fields
        exact ⟨fun category object => absurd ⟨category, object⟩ skill,
          fun category object => absurd ⟨category, object⟩ skill, fun _ => fields⟩
      · intro agree
        exact agree.recommended recommendation
    · refine iff_of_true (render_other same skill recommendation rendered) ?_
      exact ⟨fun category object => absurd ⟨category, object⟩ skill,
        fun category object => absurd ⟨category, object⟩ skill,
        fun category => absurd category recommendation⟩

end

section

variable {host} {catalog : Catalog} {data : Json}

theorem tidy_set {key : String} {value : Json} (tidy : data.Tidy) (canonical : value.Canonical) :
    (setField key value data).Tidy := by
  cases data with
  | obj fields => exact tidy_insert tidy canonical
  | null => exact tidy
  | bool _ => exact tidy
  | int _ => exact tidy
  | float _ => exact tidy
  | str _ => exact tidy
  | arr _ => exact tidy

variable (host) in
theorem tidy_set_text (key : String) (tidy : data.Tidy) :
    (setText host.toCatalogHost data key).Tidy := tidy_set tidy (canonical_str _)

theorem tidy_set_texts {key : String} {change : String → String} (tidy : data.Tidy) :
    (setTexts host.toCatalogHost change data key).Tidy := by
  have given : ((data.get? key).getD (.arr [])).Canonical := by
    cases found : data.get? key with
    | none => exact canonical_texts []
    | some value => exact tidy_get tidy found
  rw [setTexts]
  split
  · exact tidy_set tidy (canonical_texts _)
  · exact tidy_set tidy given

theorem tidy_fold {step : Json → String → Json} (keys : List String) (tidy : data.Tidy)
    (keeps : ∀ value key, value.Tidy → (step value key).Tidy) : (keys.foldl step data).Tidy := by
  induction keys generalizing data with
  | nil => exact tidy
  | cons key rest ih => exact ih (keeps data key tidy)

theorem tidy_permissions (tidy : data.Tidy) :
    (catalog.setPermissions host.toCatalogHost data).Tidy := by
  rw [Catalog.setPermissions]
  split
  · exact tidy_set (tidy_set tidy (canonical_texts _)) (canonical_str _)
  · exact tidy

theorem tidy_normalized (tidy : data.Tidy) :
    (catalog.normalizeAppSkill host.toCatalogHost data).Tidy := by
  cases object : isObject data with
  | true =>
    have categorized : (catalog.normalizeSkillCategory host.toCatalogHost data).Tidy := by
      rw [normalize_category_eq catalog object]
      exact tidy_set (tidy_set tidy (canonical_str _)) (canonical_str _)
    have texts := tidy_fold
      ["slug", "name", "icon", "category", "description", "instructions"] categorized
      fun _ key given => tidy_set_text host key given
    have marked : (markedTexts host catalog data).Tidy := by
      rw [markedTexts]
      split
      · exact tidy_set texts (canonical_str _)
      · exact texts
    rw [normalized_eq catalog object]
    apply tidy_set (tidy_permissions _) (canonical_str _)
    apply tidy_fold _ (tidy_set_texts marked)
    exact fun _ _ given => tidy_set_texts given
  | false =>
    rw [Catalog.normalizeAppSkill, object, if_neg (by simp)]
    exact tidy

theorem selected_mem {store : ReleaseStore} {slug : String} {bucket : Nat} {now : Time}
    {selected : Release}
    (chosen : selectRelease (store.slugReleases slug) bucket now = some selected) :
    selected ∈ store.releases := by
  have listed : selected ∈ store.slugReleases slug := by
    rw [selectRelease] at chosen
    split at chosen
    · next active found =>
      split at chosen
      · exact mem_of_find?_eq_some chosen
      · rw [← Option.some.inj chosen]
        exact mem_of_find?_eq_some found
    · exact mem_of_find?_eq_some chosen
  rw [ReleaseStore.slugReleases] at listed
  split at listed
  · cases listed
  · exact mem_of_mem_filter ((mem_insertionSort _).mp listed)

theorem projected_tidy {accountId : String} {state : PullState} {row : ProjectedItem}
    (listed : row ∈ state.projected host accountId) : row.item.data.Tidy := by
  obtain ⟨original, mem, shown⟩ := mem_filterMap.mp listed
  have stored : original ∈ state.store.catalog.items := by
    rw [downlinkItems, mem_insertionSort, mem_append] at mem
    rcases mem with shownRow | hidden
    · exact mem_of_mem_filter shownRow
    · exact mem_of_mem_filter hidden
  rw [ReleaseStore.projectRow] at shown
  split at shown
  · rw [← Option.some.inj shown]
    exact canonical_tidy (state.rows original stored)
  · obtain ⟨selected, chosen, rfl⟩ := map_eq_some_iff.mp shown
    have release := selected_mem chosen
    rw [ReleaseStore.releaseRow]
    apply tidy_set _ (canonical_str _)
    apply tidy_set _ (canonical_int _)
    apply tidy_set _ (canonical_str _)
    exact tidy_normalized (canonical_tidy (state.releases selected release))

end

section

variable {host}

theorem projected_keys (row : ProjectedItem) : ((projectedFields row).map Prod.fst).Nodup := by
  obtain ⟨⟨id, category, kind, data, sort, version, enabled⟩, releaseId⟩ := row
  cases enabled <;> cases releaseId <;> simp [projectedFields]

theorem projected_distinct {row : ProjectedItem} (tidy : row.item.data.Tidy) :
    (projectedJson row).distinctKeys = true := by
  have distinct := tidy_distinct tidy
  obtain ⟨⟨id, category, kind, data, sort, version, enabled⟩, releaseId⟩ := row
  cases enabled <;> cases releaseId <;>
    simpa [projectedJson, projectedFields, Json.distinctKeys, fieldsDistinctKeys] using distinct

theorem projected_get (row : ProjectedItem) :
    (projectedJson row).get? "id" = some (.str row.item.id) ∧
      (projectedJson row).get? "category" = some (.str row.item.category) ∧
      (projectedJson row).get? "kind" = some (.str row.item.kind) ∧
      (projectedJson row).get? "data" = some row.item.data ∧
      (projectedJson row).get? "sort" = some (.int row.item.sort) ∧
      (projectedJson row).get? "version" = some (.int row.item.version) ∧
      (projectedJson row).get? "enabled" = some (.bool row.item.enabled) ∧
      (projectedJson row).get? "release_id" = row.releaseId.map Json.str := by
  obtain ⟨⟨id, category, kind, data, sort, version, enabled⟩, releaseId⟩ := row
  cases enabled <;> cases releaseId <;> simp [projectedJson, projectedFields, Json.get?]

theorem sort_keys_object (data : Json) : isObject data.sortKeys = isObject data := by
  cases data <;> rfl

theorem tidy_plain {data : Json} (tidy : data.Tidy) (plain : isObject data = false) :
    data.sortKeys = data := by
  cases data with
  | obj fields => cases plain
  | null => rfl
  | bool _ => rfl
  | int _ => rfl
  | float _ => rfl
  | str _ => rfl
  | arr _ => exact tidy.sorted

theorem same_row_of_sorted {left right : ProjectedItem} (leftTidy : left.item.data.Tidy)
    (rightTidy : right.item.data.Tidy)
    (same : (projectedJson left).sortKeys = (projectedJson right).sortKeys) :
    SameRow left right := by
  have fields : ∀ key, ((projectedJson left).get? key).map Json.sortKeys =
      ((projectedJson right).get? key).map Json.sortKeys :=
    sort_keys_get_eq (projected_keys left) (projected_keys right) same
  obtain ⟨leftId, leftCategory, leftKind, leftData, leftSort, leftVersion, leftEnabled,
    leftRelease⟩ := projected_get left
  obtain ⟨rightId, rightCategory, rightKind, rightData, rightSort, rightVersion, rightEnabled,
    rightRelease⟩ := projected_get right
  have id := fields "id"
  have category := fields "category"
  have kind := fields "kind"
  have data := fields "data"
  have sort := fields "sort"
  have version := fields "version"
  have enabled := fields "enabled"
  have release := fields "release_id"
  rw [leftId, rightId] at id
  rw [leftCategory, rightCategory] at category
  rw [leftKind, rightKind] at kind
  rw [leftData, rightData] at data
  rw [leftSort, rightSort] at sort
  rw [leftVersion, rightVersion] at version
  rw [leftEnabled, rightEnabled] at enabled
  rw [leftRelease, rightRelease] at release
  simp only [map_some, Option.some.injEq, Json.sortKeys, Json.str.injEq, Json.int.injEq,
    Json.bool.injEq, Int.natCast_inj] at id category kind data sort version enabled
  have releaseId : left.releaseId = right.releaseId := by
    revert release
    cases left.releaseId <;> cases right.releaseId <;> simp [Json.sortKeys]
  constructor
  · obtain ⟨⟨_, _, _, _, _, _, _⟩, _⟩ := left
    obtain ⟨⟨_, _, _, _, _, _, _⟩, _⟩ := right
    cases id
    cases category
    cases kind
    cases sort
    cases version
    cases enabled
    cases releaseId
    rfl
  · refine ⟨⟨?_, fun key _ => tidy_get_eq leftTidy rightTidy data key⟩, fun plain => ?_⟩
    · rw [← sort_keys_object, data, sort_keys_object]
    · have other : isObject right.item.data = false := by
        rw [← sort_keys_object, ← data, sort_keys_object, plain]
      rw [← tidy_plain leftTidy plain, data, tidy_plain rightTidy other]

variable {left right : List ProjectedItem}

theorem same_rows_of_sorted
    (leftTidy : ∀ row ∈ left, row.item.data.Tidy) (rightTidy : ∀ row ∈ right, row.item.data.Tidy)
    (same : left.map (fun row => (projectedJson row).sortKeys) =
      right.map fun row => (projectedJson row).sortKeys) :
    List.Forall₂ SameRow left right := by
  induction left generalizing right with
  | nil =>
    cases right with
    | nil => exact .nil
    | cons _ _ => cases same
  | cons first rest ih =>
    cases right with
    | nil => cases same
    | cons second others =>
      rw [map_cons, map_cons, List.cons.injEq] at same
      rw [forall_mem_cons] at leftTidy rightTidy
      exact .cons (same_row_of_sorted leftTidy.1 rightTidy.1 same.1)
        (ih leftTidy.2 rightTidy.2 same.2)

theorem canonical_tools {tools : List Json} (canonical : ∀ tool ∈ tools, tool.Canonical) :
    tools.map Json.sortKeys = tools := by
  refine (map_congr_left fun tool listed => ?_).trans (List.map_id _)
  exact (canonical tool listed).sorted

theorem state_distinct (accountId : String) (state : PullState) :
    (state.json host accountId).distinctKeys = true := by
  have rows : ((state.projected host accountId).map projectedJson).all Json.distinctKeys := by
    rw [List.all_map, List.all_eq_true]
    exact fun row listed => projected_distinct (projected_tidy listed)
  have tools : state.catalog.tools.all Json.distinctKeys := by
    rw [List.all_eq_true]
    exact fun tool listed => (state.tools tool listed).distinct
  simp [PullState.json, PullState.fields, Json.distinctKeys, fieldsDistinctKeys,
    items_distinct_all, rows, tools]

theorem same_of_text (lawful : host.floats.Lawful) {accountId : String} {old new : PullState}
    (same : old.text host accountId = new.text host accountId) :
    old.catalog.tools = new.catalog.tools ∧
      List.Forall₂ SameRow (old.projected host accountId) (new.projected host accountId) := by
  have sorted := dumps_sorted_eq lawful (state_distinct accountId old)
    (state_distinct accountId new) same
  have keys : ∀ state : PullState, ((state.fields host accountId).map Prod.fst).Nodup := by
    intro state
    show (["items", "tools"] : List String).Nodup
    decide
  have fields := sort_keys_get_eq (keys old) (keys new) sorted
  have items := fields "items"
  have tools := fields "tools"
  have both : ¬("items" : String) = "tools" := by decide
  simp only [PullState.fields, Json.get?, find?_cons, decide_true, map_some,
    Option.some.injEq, both, decide_false, Json.sortKeys, Json.arr.injEq, sort_item_keys_map, List.map_map] at items tools
  simp only [PullState.catalog, canonical_tools old.tools, canonical_tools new.tools] at tools
  refine ⟨tools, same_rows_of_sorted ?_ ?_ items⟩
  · exact fun row listed => projected_tidy listed
  · exact fun row listed => projected_tidy listed

theorem render_all_iff {old new : PullRequest} {shown : List RenderedItem}
    (tools : old.state.catalog.tools = new.state.catalog.tools)
    (same : List.Forall₂ SameRow left right)
    (rendered : left.mapM (render host old.state.catalog old.report) = some shown) :
    (∃ current, right.mapM (render host new.state.catalog new.report) = some current ∧
        List.Forall₂ SameItem shown current) ↔ ∀ row ∈ right, SameFor host old new row := by
  induction same generalizing shown with
  | nil =>
    cases rendered
    exact iff_of_true ⟨[], rfl, .nil⟩ (by simp)
  | @cons first second lefts rights own rest ih =>
    rw [mapM_cons] at rendered ⊢
    obtain ⟨item, head, rendered⟩ := bind_eq_some_iff.mp rendered
    obtain ⟨items, tail, all⟩ := bind_eq_some_iff.mp rendered
    cases all
    rw [forall_mem_cons, ← render_iff tools own head, ← ih tail]
    constructor
    · rintro ⟨current, now, agree⟩
      obtain ⟨currentItem, headNow, now⟩ := bind_eq_some_iff.mp now
      obtain ⟨currentItems, tailNow, all⟩ := bind_eq_some_iff.mp now
      cases all
      cases agree with
      | cons headSame tailSame =>
        exact ⟨⟨currentItem, headNow, headSame⟩, currentItems, tailNow, tailSame⟩
    · rintro ⟨⟨currentItem, headNow, headSame⟩, currentItems, tailNow, tailSame⟩
      refine ⟨currentItem :: currentItems, ?_, .cons headSame tailSame⟩
      rw [headNow, tailNow]
      rfl

end

structure SameResponse (left right : FullResponse) : Prop where
  revision : left.revision = right.revision
  items : List.Forall₂ SameItem left.items right.items
  tools : left.tools = right.tools

section

variable {host} {accountId}

variable {request : PullRequest} {response : FullResponse}

theorem answer_full (answer : request.answer host accountId = .full response) :
    request.state.fullResponse host accountId request.report = some response := by
  rw [PullRequest.answer] at answer
  split at answer
  · cases answer
  · cases rendered : request.state.fullResponse host accountId request.report with
    | none =>
      rw [rendered] at answer
      cases answer
    | some full =>
      rw [rendered] at answer
      cases answer
      rfl

theorem answer_unchanged (answer : request.answer host accountId = .unchanged) :
    request.revision = request.state.revision host accountId := by
  rw [PullRequest.answer] at answer
  split at answer
  · next present => exact present.2
  · split at answer <;> cases answer

theorem received_full {earlier : List PullRequest} {revision : String} {old : PullRequest}
    (last : received host accountId earlier revision = some (old, response)) :
    old.state.fullResponse host accountId old.report = some response ∧
      response.revision = revision := by
  obtain ⟨request, _, found⟩ := exists_of_findSome?_eq_some last
  obtain ⟨full, answered, same⟩ := map_eq_some_iff.mp found
  obtain ⟨rfl, rfl⟩ := Prod.mk.inj same
  cases answer : request.answer host accountId with
  | full response =>
    rw [answer] at answered
    obtain ⟨own, same⟩ := ite_none_right_eq_some.mp answered
    cases same
    exact ⟨answer_full answer, own⟩
  | unchanged =>
    rw [answer] at answered
    cases answered
  | failed =>
    rw [answer] at answered
    cases answered

theorem received_first (old : PullRequest) (first : old.revision = "")
    (full : old.state.fullResponse host accountId old.report = some response) :
    received host accountId [old] (old.state.revision host accountId) = some (old, response) := by
  have answer : old.answer host accountId = .full response := by
    rw [PullRequest.answer, if_neg fun given => given.1 first, full]
  obtain ⟨items, _, same⟩ := map_eq_some_iff.mp full
  have own : response.revision = old.state.revision host accountId := by rw [← same]
  simp [received, answer, PullAnswer.response, own]

/-- After any pulls of the account, an unchanged answer leaves the client with what it would get
now exactly when its report and that of the pull it has the revision from agree on every row. -/
theorem unchanged_answer_iff (lawful : host.floats.Lawful) {earlier : List PullRequest}
    {current old : PullRequest} {response : FullResponse}
    (unchanged : current.answer host accountId = .unchanged)
    (last : received host accountId earlier current.revision = some (old, response))
    (digest : old.state.revision host accountId = current.state.revision host accountId →
      old.state.text host accountId = current.state.text host accountId) :
    (∃ present, current.state.fullResponse host accountId current.report = some present ∧
        SameResponse response present) ↔
      ∀ row ∈ current.state.projected host accountId, SameFor host old current row := by
  obtain ⟨full, revision⟩ := received_full last
  obtain ⟨items, rendered, same⟩ := map_eq_some_iff.mp full
  have named : old.state.revision host accountId = current.state.revision host accountId := by
    rw [← answer_unchanged unchanged, ← revision, ← same]
  obtain ⟨tools, rows⟩ := same_of_text lawful (digest named)
  rw [← render_all_iff tools rows rendered]
  constructor
  · rintro ⟨present, now, agree⟩
    obtain ⟨current', shown, own⟩ := map_eq_some_iff.mp now
    refine ⟨current', shown, ?_⟩
    have shownSame := agree.items
    rw [← same, ← own] at shownSame
    exact shownSame
  · rintro ⟨current', shown, agree⟩
    refine ⟨_, map_eq_some_iff.mpr ⟨current', shown, rfl⟩, ?_⟩
    rw [← same]
    exact ⟨named, agree, tools⟩

end

def digestHost : ReleaseHost where
  dumps _ := ""
  strOf _ := ""
  intOf _ := none
  lower text := text
  casefold text := text
  decimal char := if char.isDigit then some (char.toNat - 48) else none
  floats := ratioFloats
  sha256 _ := "2348dd4c7b5dba2f9ce0dda30f5b998d425c935b63e7ba05fd49febd36ffed08"
  sha256Head text := text.length

def secondVersionSkill : CatalogItem where
  id := "i"
  category := "APP_SKILLS"
  kind := ""
  data := .obj [("min_app_version", .str "2.0.0"), ("slug", .str "s")]
  sort := 0
  version := 1
  enabled := true

def secondVersionStore : ReleaseStore where
  releases := []
  catalog := ⟨[secondVersionSkill], []⟩
  audit := []

theorem second_version_rows : ∀ row ∈ secondVersionStore.catalog.items, row.data.Canonical := by
  intro row listed
  rw [mem_singleton.mp listed]
  exact ⟨rfl, rfl⟩

theorem second_version_releases :
    ∀ release ∈ secondVersionStore.releases, release.data.Canonical := by
  intro release listed
  cases listed

theorem second_version_tools : ∀ tool ∈ secondVersionStore.catalog.tools, tool.Canonical := by
  intro tool listed
  cases listed

def secondVersionState : PullState :=
  ⟨secondVersionStore, 1, second_version_rows, second_version_releases, second_version_tools⟩

def reportOf (appVersion : String) : CapabilityReport := ⟨appVersion, "linux", "1", []⟩

def firstPull (appVersion : String) : PullRequest := ⟨secondVersionState, "", reportOf appVersion⟩

def pullAgain (appVersion : String) : PullRequest :=
  ⟨secondVersionState, digestHost.sha256 "", reportOf appVersion⟩

theorem again_unchanged (appVersion : String) :
    (pullAgain appVersion).answer digestHost "ann" = .unchanged := by
  have given : digestHost.sha256 "" ≠ "" := by decide
  exact if_pos ⟨given, rfl⟩

theorem same_app_unchanged : ∃ response present,
    received digestHost "ann" [firstPull "2.0.0"] (pullAgain "2.0.0").revision =
        some (firstPull "2.0.0", response) ∧
      secondVersionState.fullResponse digestHost "ann" (reportOf "2.0.0") = some present ∧
      SameResponse response present := by
  have rendered : (secondVersionState.fullResponse digestHost "ann" (reportOf "2.0.0")).isSome =
      true := by
    decide +kernel
  obtain ⟨response, full⟩ := isSome_iff_exists.mp rendered
  have last := received_first (firstPull "2.0.0") rfl full
  obtain ⟨present, shown, same⟩ := (unchanged_answer_iff ratio_floats_lawful
    (again_unchanged "2.0.0") last fun _ => rfl).mpr fun row _ =>
      ⟨fun _ _ => ⟨rfl, rfl⟩, fun _ _ _ _ _ => ⟨Iff.rfl, fun _ _ => rfl⟩, fun _ _ => rfl⟩
  exact ⟨response, present, last, shown, same⟩

def FullResponse.compatible (response : FullResponse) : List (Option Bool) :=
  response.items.map fun item => item.state.map fun state => state.compatibility.compatible

theorem same_compatible {left right : List RenderedItem} (same : List.Forall₂ SameItem left right) :
    (left.map fun item => item.state.map fun state => state.compatibility.compatible) =
      right.map fun item => item.state.map fun state => state.compatibility.compatible := by
  induction same with
  | nil => rfl
  | cons head _ ih => rw [map_cons, map_cons, ih, head.state]

theorem upgraded_app_unchanged : ∃ response,
    (pullAgain "2.0.0").answer digestHost "ann" = .unchanged ∧
      received digestHost "ann" [firstPull "1.0.0"] (pullAgain "2.0.0").revision =
        some (firstPull "1.0.0", response) ∧
      ¬∃ present, secondVersionState.fullResponse digestHost "ann" (reportOf "2.0.0") =
        some present ∧ SameResponse response present := by
  have before : (secondVersionState.fullResponse digestHost "ann" (reportOf "1.0.0")).map
      FullResponse.compatible = some [some false] := by
    decide +kernel
  have after : (secondVersionState.fullResponse digestHost "ann" (reportOf "2.0.0")).map
      FullResponse.compatible = some [some true] := by
    decide +kernel
  obtain ⟨response, full, incompatible⟩ := map_eq_some_iff.mp before
  refine ⟨response, again_unchanged "2.0.0", received_first (firstPull "1.0.0") rfl full, ?_⟩
  rintro ⟨present, shown, same⟩
  have alike : response.compatible = present.compatible := same_compatible same.items
  rw [shown, map_some, ← alike, incompatible] at after
  revert after
  decide

end AgentMate.CatalogPull
