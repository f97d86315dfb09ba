import AgentMate.AppSkills

/-!
# Validation of a skill definition

What the Server asks of a definition before it becomes a release: the slug and the texts, the
front matter of a `SKILL.md`, the category, the tools, the restrictions and the files.
-/

namespace AgentMate.SkillCatalog

open PlainText

def isAlnum (char : Char) : Bool :=
  ('A' ≤ char && char ≤ 'Z') || ('a' ≤ char && char ≤ 'z') || ('0' ≤ char && char ≤ '9')

/-- `[A-Za-z0-9][A-Za-z0-9._-]*`, the whole text. -/
def isSlug (text : String) : Bool :=
  match text.toList with
  | [] => false
  | first :: rest =>
    isAlnum first && rest.all fun char => isAlnum char || char = '.' || char = '_' || char = '-'

def isEnvironmentChar (char : Char) : Bool :=
  ('a' ≤ char && char ≤ 'z') || ('0' ≤ char && char ≤ '9')

/-- `[a-z0-9][a-z0-9._-]*`, the whole text. -/
def isEnvironment (text : String) : Bool :=
  match text.toList with
  | [] => false
  | first :: rest =>
    isEnvironmentChar first &&
      rest.all fun char => isEnvironmentChar char || char = '.' || char = '_' || char = '-'

/-- The lines of a text as `^` and `$` see them. -/
def textLines (chars : List Char) : List (List Char) := chars.splitOn '\n'

def isBlankChar (char : Char) : Bool := char = ' ' || char = '\t'

/-- `---[ \t]*` and then the end of the line, before which a `\r` may stand if a line follows. -/
def isFence (follows : Bool) (line : List Char) : Bool :=
  match line with
  | '-' :: '-' :: '-' :: rest =>
    rest.dropWhile isBlankChar = [] || (follows && rest.dropWhile isBlankChar = ['\r'])
  | _ => false

def hasFence : List (List Char) → Bool
  | [] => false
  | [line] => isFence false line
  | line :: rest => isFence true line || hasFence rest

/-- `^---[ \t]*\r?\n` at the start, and a fence at or after the fourth character. -/
def hasFrontmatter (markdown : String) : Bool :=
  (match textLines markdown.toList with
    | line :: _ :: _ => isFence true line
    | _ => false) && hasFence (textLines (markdown.toList.drop 4))

/-- A line of the text starts with `field:`. -/
def hasField (markdown field : String) : Bool :=
  (textLines markdown.toList).any fun line => (field ++ ":").toList.isPrefixOf line

/-- `PurePosixPath(text).parts` of a relative path. -/
def pathParts (text : String) : List String :=
  ((text.toList.splitOn '/').map String.ofList).filter fun part => part ≠ "" && part ≠ "."

def slashed (path : String) : String :=
  String.ofList (path.toList.map fun char => if char = '\\' then '/' else char)

/-- `path.name` of the parts. -/
def pathName (parts : List String) : String := parts.getLast?.getD ""

/-- `path.as_posix()`. -/
def asPosix (parts : List String) : String := if parts = [] then "." else "/".intercalate parts

def reservedSkillFiles : List String :=
  ["skill.md", "_skillhub_meta.json", "_meta.json", "_agentmate_release.json", ".disabled"]

abbrev Checked := Except CatalogError Unit

def refuse (status : Nat) (detail : String) : Checked := .error ⟨status, detail⟩

/-- `raise HTTPException` when the condition holds. -/
def refuseIf (condition : Bool) (status : Nat) (detail : String) : Checked :=
  if condition then refuse status detail else .ok ()

theorem refuse_if_ok {condition : Bool} {status : Nat} {detail : String}
    (passed : refuseIf condition status detail = .ok ()) : condition = false := by
  cases condition with
  | false => rfl
  | true => cases passed

variable (host : CatalogHost) (catalog : Catalog) (data : Json) (ignoreId : String)

/-- `str(data.get(key, "")).strip()`. -/
def givenText (key : String) : String :=
  strip (((data.get? key).map (Json.pyStr host.toPyText)).getD "")

/-- A list of nonempty strings, or `none`. -/
def givenTexts? (key : String) : Option (List String) :=
  match (data.get? key).getD (.arr []) with
  | .arr values =>
    values.mapM fun
      | .str value => if strip value = "" then none else some value
      | _ => none
  | _ => none

def checkTexts : Checked := do
  refuseIf (!isSlug (givenText host data "slug")) 400 "invalid skill slug"
  refuseIf (givenText host data "name" = "" || givenText host data "description" = "" ||
    givenText host data "instructions" = "") 400
    "skill name, description and instructions are required"
  refuseIf (120 < (givenText host data "name").length ||
    500 < (givenText host data "description").length ||
    50000 < (givenText host data "instructions").length) 400
    "skill name, description or instructions is too long"

def checkMarkdown : Checked :=
  let markdown := data.strField host.toPyText "skill_markdown"
  if markdown = "" then .ok ()
  else do
    refuseIf (512 * 1024 < markdown.utf8ByteSize) 413 "skill SKILL.md is too large"
    refuseIf (!hasFrontmatter markdown) 400 "skill SKILL.md must contain frontmatter"
    refuseIf (!(["name", "slug", "description"].all (hasField markdown))) 400
      "skill SKILL.md frontmatter must contain name, slug and description"

/-- `get_catalog_item(ignore_id) if ignore_id else None`. -/
def Catalog.current? : Option CatalogItem :=
  if ignoreId = "" then none else catalog.items.find? fun row => row.id = ignoreId

def checkCategory : Checked :=
  let categorySlug := (catalog.normalizeSkillCategory host data).strField host.toPyText
    "category_slug"
  match (catalog.rows "SKILL_CATEGORIES").find? fun row =>
      (row.data.get? "slug").any (isText categorySlug) with
  | none => refuse 400 "skill category must reference a managed category"
  | some row =>
    refuseIf (!row.enabled && !((catalog.current? ignoreId).any fun current =>
      (catalog.normalizeSkillCategory host current.data).strField host.toPyText
        "category_slug" = categorySlug)) 409 "skill category is disabled"

/-- `tool_specs.get(name, {}).get("exposure") == "internal"` among the tools of the current
row. -/
def Catalog.existingInternal : List String :=
  match catalog.current? ignoreId with
  | none => []
  | some current =>
    ((current.data.listField "tools").map (Json.pyStr host.toPyText)).filter fun name =>
      (catalog.toolSpec name).strField host.toPyText "exposure" = "internal"

def Catalog.unavailable (name : String) : Bool :=
  let spec := catalog.toolSpec name
  !(spec.getTruthy "enabled").isSome ||
    (!(spec.getTruthy "bindable").isSome && name ∉ catalog.existingInternal host ignoreId)

def checkTools : Except CatalogError (List String) :=
  match givenTexts? data "tools" with
  | none => .error ⟨400, "skill tools must be a string list"⟩
  | some tools =>
    let unknown := (tools.eraseDups.filter fun name =>
      (catalog.tool? name).isNone).insertionSort (· ≤ ·)
    if unknown = [] then .ok tools
    else .error ⟨400, "unknown skill tools: " ++ ", ".intercalate unknown⟩

def checkRestrictions (tools : List String) : Checked :=
  match givenTexts? data "platforms", givenTexts? data "environments",
      givenTexts? data "requires_tools" with
  | some platforms, some environments, some required => do
      refuseIf ((platforms.map fun value => host.lower (strip value)).any
        (· ∉ ["any", "windows", "linux", "macos"])) 400
        "skill platforms contains an unsupported platform"
      refuseIf ((environments.map fun value => host.lower (strip value)).any
        fun value => !isEnvironment value) 400 "skill environments contains an invalid environment"
      refuseIf ((required.map strip).any (· ∉ tools)) 400
        "skill requires_tools must be a subset of tools"
  | none, _, _ => refuse 400 "skill platforms must be a string list"
  | some _, none, _ => refuse 400 "skill environments must be a string list"
  | some _, some _, none => refuse 400 "skill requires_tools must be a string list"

def checkAvailable (tools : List String) : Checked :=
  let unavailable := (tools.eraseDups.filter (catalog.unavailable host ignoreId)).insertionSort
    (· ≤ ·)
  refuseIf (unavailable ≠ []) 409
    ("skill tools are disabled or not bindable: " ++ ", ".intercalate unavailable)

/-- One turn of the loop over the files: the paths seen before and the bytes so far. -/
def checkFile (state : List String × Nat) (entry : Json) :
    Except CatalogError (List String × Nat) :=
  match entry.get? "path", entry.get? "content" with
  | some (.str path), some (.str content) =>
    let rawPath := strip (slashed path)
    let parts := pathParts rawPath
    let canonical := host.casefold (asPosix parts)
    let total := state.2 + content.utf8ByteSize
    if rawPath = "" || 240 < rawPath.length || rawPath.toList.head? = some '/' ||
        parts.any (fun part => part = ".." || part.toList.any fun char =>
          char = ':' || char = '\x00') then
      .error ⟨400, "invalid skill file path"⟩
    else if host.casefold (pathName parts) ∈ reservedSkillFiles then
      .error ⟨400, "reserved skill file: " ++ pathName parts⟩
    else if canonical ∈ state.1 then .error ⟨409, "duplicate skill file path"⟩
    else if 1024 * 1024 < total then .error ⟨413, "skill files exceed 1MB"⟩
    else .ok (canonical :: state.1, total)
  | _, _ => .error ⟨400, "each skill file requires string path and content"⟩

def checkFiles : Checked :=
  match (data.get? "files").getD (.arr []) with
  | .arr files => do
      refuseIf (128 < files.length) 413 "skill files exceed 128 entries"
      let _ ← files.foldlM (checkFile host) ([], 0)
      return
  | _ => refuse 400 "skill files must be a list"

def validateAppSkill : Checked := do
  refuseIf (!isObject data) 400 "APP_SKILLS data must be an object"
  checkTexts host data
  checkMarkdown host data
  checkCategory host catalog data ignoreId
  let tools ← checkTools catalog data
  checkRestrictions host data tools
  checkAvailable host catalog ignoreId tools
  checkFiles host data
  refuseIf ((catalog.rows "APP_SKILLS").any fun row => row.id ≠ ignoreId &&
    (row.data.get? "slug").any (isText (givenText host data "slug")))
    409 "skill slug already exists"

end AgentMate.SkillCatalog
