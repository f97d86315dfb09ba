import AgentMate.FrontMatter
import AgentMate.SkillValidation

/-!
# Skill packages on a machine

A package is a directory under the skills directory. Its `SKILL.md`, its metadata files and the
rows of `skill_installations` give the skills that an owner has. A file is known by its text and
by the digest and the size of its bytes.
-/

namespace AgentMate.SkillPackages

open PlainText FrontMatter SkillCatalog

structure SkillFile where
  path : String
  /-- decoded, with what is no UTF-8 left out -/
  text : String
  isUtf8 : Bool
  sha256 : String
  size : Nat
  deriving DecidableEq

structure SkillDir where
  name : String
  files : List SkillFile
  deriving DecidableEq

structure SkillHost extends PyText where
  lower : String → String
  casefold : String → String
  floats : FloatText
  /-- the hexadecimal digest of the text in UTF-8 -/
  sha256 : String → String

def skillMd : String := "SKILL.md"

def skillhubMeta : String := "_skillhub_meta.json"

def pubMeta : String := "_meta.json"

def releaseManifest : String := "_agentmate_release.json"

def disabledMarker : String := ".disabled"

def SkillDir.file? (dir : SkillDir) (path : String) : Option SkillFile :=
  dir.files.find? fun file => file.path = path

variable (host : SkillHost)

/-- `_read_json`: anything but a dictionary is read as an empty one. -/
def SkillDir.readJson (dir : SkillDir) (path : String) : Json :=
  match (dir.file? path).bind fun file =>
      if file.isUtf8 then jsonLoads host.floats file.text else none with
  | some (.obj fields) => .obj fields
  | _ => .obj []

/-- `text.replace(mark, "")`, with the number of characters still to be left out. -/
def dropMark (mark : List Char) : List Char → Nat → List Char
  | [], _ => []
  | char :: rest, 0 =>
    if mark.isPrefixOf (char :: rest) then dropMark mark rest (mark.length - 1)
    else char :: dropMark mark rest 0
  | _ :: rest, count + 1 => dropMark mark rest count

def skillhubMark : String := "__skillhub"

/-- `d.name.replace("__skillhub", "")`. -/
def SkillDir.bareName (dir : SkillDir) : String :=
  String.ofList (dropMark skillhubMark.toList dir.name.toList 0)

structure SkillInfo where
  key : String
  slug : String
  name : String
  description : String
  version : String
  source : String
  trustLevel : String
  platforms : List String
  environments : List String
  requiresTools : List String
  releaseId : String
  contentHash : String
  disabled : Bool
  deriving DecidableEq

/-- `str(first or second or default)`. -/
def firstText (values : List (Option Json)) (default : String) : String :=
  ((values.filterMap id).head?.map (Json.pyStr host.toPyText)).getD default

def frontmatterList (value : Option Json) : List String :=
  let raw : List Json := match value with
    | some (.arr items) => items
    | some (.str text) => (text.toList.splitOn ',').map fun part => .str (String.ofList part)
    | _ => []
  ((raw.map fun item => host.lower (strip (item.pyStr host.toPyText))).filter (· ≠ "")).eraseDups

/-- The front matter and the body of the `SKILL.md`. -/
def SkillDir.markdown? (dir : SkillDir) : Option (Json × String) :=
  (dir.file? skillMd).map fun file => parseFrontmatter host.floats file.text

def SkillDir.slug (dir : SkillDir) : String :=
  strip (firstText host [(dir.readJson host skillhubMeta).getTruthy "slug",
    (dir.readJson host pubMeta).getTruthy "slug"] dir.bareName)

def SkillDir.source (dir : SkillDir) : String :=
  strip (firstText host [(dir.readJson host skillhubMeta).getTruthy "source"]
    (if skillhubMark.toList.isSuffixOf dir.name.toList then "skillhub" else "local"))

/-- `_info_from_dir`; the report of the security scan is left to the scan. -/
def infoFromDir (dir : SkillDir) : Option SkillInfo :=
  (dir.markdown? host).map fun markdown =>
    let sh := dir.readJson host skillhubMeta
    let pub := dir.readJson host pubMeta
    let fm := markdown.1
    let source := dir.source host
    let release := if source = "agentmate" then dir.readJson host releaseManifest else .obj []
    { key := dir.name
      slug := dir.slug host
      name := strip (firstText host [sh.getTruthy "name", fm.getTruthy "name"] dir.bareName)
      description := strip (firstText host [fm.getTruthy "description",
        fm.getTruthy "description_zh", fm.getTruthy "description_en"] "")
      version := strip (firstText host [sh.getTruthy "version", pub.getTruthy "version",
        fm.getTruthy "version"] "")
      source := source
      trustLevel := host.lower (strip (firstText host [sh.getTruthy "trustLevel"]
        (if source = "agentmate" then "agentmate"
          else if source = "skillhub" then "community" else "local")))
      platforms := frontmatterList host (fm.get? "platforms")
      environments := frontmatterList host (fm.get? "environments")
      requiresTools := frontmatterList host (fm.get? "requires_tools")
      releaseId := firstText host [release.getTruthy "release_id"] ""
      contentHash := firstText host [release.getTruthy "content_hash",
        sh.getTruthy "contentHash"] ""
      disabled := (dir.file? disabledMarker).isSome }

structure ReleaseFile where
  path : String
  sha256 : String
  size : Int
  deriving DecidableEq

structure ReleasePayload where
  schemaVersion : Int
  slug : String
  version : String
  toolContractVersion : String
  tools : List String
  permissions : List String
  files : List ReleaseFile
  deriving DecidableEq

/-- The values that a loop takes from `manifest.get(key, [])`; `none` is the `TypeError`. -/
def loopValues (key : String) (manifest : Json) : Option (List Json) :=
  match manifest.get? key with
  | none => some []
  | some (.arr items) => some items
  | some (.obj fields) => some (fields.map fun field => .str field.1)
  | some (.str text) => some (text.toList.map fun char => .str (String.singleton char))
  | some _ => none

/-- `sorted({str(item) for item in values if str(item)})`. -/
def sortedTexts (values : List Json) : List String :=
  (((values.map (Json.pyStr host.toPyText)).filter (· ≠ "")).eraseDups).insertionSort (· ≤ ·)

def ReleaseFile.json (file : ReleaseFile) : Json :=
  .obj [("path", .str file.path), ("sha256", .str file.sha256), ("size", .int file.size)]

def sortFiles (files : List ReleaseFile) : List ReleaseFile :=
  files.insertionSort fun left right => left.path ≤ right.path

/-- `_release_payload` of a manifest with the files; `none` is an exception. -/
def releasePayload (manifest : Json) (files : List ReleaseFile) : Option ReleasePayload := do
  let schemaVersion ← (manifest.getTruthy "schema_version").elim (some 1) (Json.pyInt host.toPyText)
  let tools ← loopValues "tools" manifest
  let permissions ← loopValues "permissions" manifest
  return { schemaVersion := schemaVersion
           slug := manifest.strField host.toPyText "slug"
           version := manifest.strField host.toPyText "version"
           toolContractVersion := firstText host [manifest.getTruthy "tool_contract_version"] "1"
           tools := sortedTexts host tools
           permissions := sortedTexts host permissions
           files := sortFiles files }

def ReleasePayload.json (payload : ReleasePayload) : Json :=
  .obj [("schema_version", .int payload.schemaVersion), ("slug", .str payload.slug),
    ("version", .str payload.version), ("tool_contract_version", .str payload.toolContractVersion),
    ("tools", .arr (payload.tools.map Json.str)),
    ("permissions", .arr (payload.permissions.map Json.str)),
    ("files", .arr (payload.files.map ReleaseFile.json))]

def ReleasePayload.hash (payload : ReleasePayload) : String :=
  host.sha256 (jsonDumps host.floats payload.json)

/-- `_safe_import_path`, as the parts of the path; `none` is the `SkillImportError`. -/
def safeImportPath (raw : String) : Option (List String) :=
  let value := strip (slashed raw)
  let parts := pathParts value
  if value = "" ∨ value.toList.head? = some '/' ∨
      parts.any (fun part => part = ".." || ':' ∈ part.toList || '\x00' ∈ part.toList) then none
  else some parts

def verifiedFile (dir : SkillDir) (entry : Json) : Option ReleaseFile := do
  let parts ← safeImportPath (entry.strField host.toPyText "path")
  if pathName parts ∈ [releaseManifest, skillhubMeta, disabledMarker] then failure
  let file ← dir.file? (asPosix parts)
  let size ← (entry.getTruthy "size").elim (some (-1)) (Json.pyInt host.toPyText)
  if file.sha256 = entry.strField host.toPyText "sha256" ∧ (file.size : Int) = size then
    return ⟨asPosix parts, file.sha256, file.size⟩
  else failure

/-- The loop of `_verified_release` over the entries. -/
def verifiedFiles (dir : SkillDir) : List Json → List String → Option (List ReleaseFile)
  | [], _ => some []
  | entry :: rest, seen => do
      if isObject entry = false then failure
      let file ← verifiedFile host dir entry
      if host.casefold file.path ∈ seen then failure
      let files ← verifiedFiles dir rest (host.casefold file.path :: seen)
      return file :: files

structure VerifiedRelease where
  payload : ReleasePayload
  contentHash : String
  releaseId : String
  deriving DecidableEq

/-- `_verified_release`; `none` is also an exception. -/
def verifiedRelease (dir : SkillDir) : Option VerifiedRelease := do
  let manifest := dir.readJson host releaseManifest
  let version ← manifest.intField host.toPyText "schema_version"
  if version ≠ 1 then failure
  let slug := ((infoFromDir host dir).map SkillInfo.slug).getD dir.bareName
  if manifest.strField host.toPyText "slug" ≠ slug then failure
  let files ← verifiedFiles host dir (manifest.listField "files") []
  if files = [] then failure
  let payload ← releasePayload host manifest files
  if payload.hash host ≠ manifest.strField host.toPyText "content_hash" then failure
  return ⟨payload, payload.hash host, manifest.strField host.toPyText "release_id"⟩

/-- A row of `skill_installations`. -/
structure Installation where
  slug : String
  packageKey : String
  releaseId : String
  contentHash : String
  enabled : Bool
  deleted : Bool
  deriving DecidableEq

/-- The machine as one owner sees it. The store names a directory by a slug. -/
structure Machine where
  dirs : List SkillDir
  /-- the rows of the owner, by slug -/
  installations : List Installation
  /-- the owner is the local user -/
  isDefaultOwner : Bool
  distinct : (dirs.map SkillDir.name).Nodup
  trimmed : ∀ dir ∈ dirs, strip dir.name = dir.name ∧ dir.name ≠ ""

structure Package where
  dir : SkillDir
  info : SkillInfo
  deriving DecidableEq

/-- `sorted(items, key=lambda item: item.name.lower())`. -/
def byName {Item : Type} (name : Item → String) (items : List Item) : List Item :=
  items.insertionSort fun left right => host.lower (name left) ≤ host.lower (name right)

/-- `_physical_packages`. -/
def Machine.packages (machine : Machine) : List Package :=
  (byName host SkillDir.name machine.dirs).filterMap fun dir =>
    (infoFromDir host dir).map fun info => ⟨dir, info⟩

/-- The row that the local user gets for a package of the layout before installations. -/
def Package.adopted (package : Package) : Installation where
  slug := package.info.slug
  packageKey := package.info.key
  releaseId := package.info.releaseId
  contentHash := package.info.contentHash
  enabled := !package.info.disabled
  deleted := false

/-- The packages that no row names; of two with one slug the later counts. -/
def Machine.adoptions (machine : Machine) : List Installation :=
  if machine.isDefaultOwner then
    let fresh := (machine.packages host).filter fun package =>
      package.info.slug ∉ machine.installations.map Installation.slug
    (fresh.map fun package => package.info.slug).eraseDups.filterMap fun slug =>
      (fresh.reverse.find? fun package => package.info.slug = slug).map Package.adopted
  else []

structure Item where
  dir : SkillDir
  info : SkillInfo
  disabled : Bool
  releaseId : String
  contentHash : String
  deriving DecidableEq

def Item.of (state : Installation) (package : Package) : Item where
  dir := package.dir
  info := package.info
  disabled := !state.enabled
  releaseId := if state.releaseId ≠ "" then state.releaseId else package.info.releaseId
  contentHash := if state.contentHash ≠ "" then state.contentHash else package.info.contentHash

def Machine.scan (machine : Machine) : List Item :=
  let states := (machine.installations.filter fun state => !state.deleted) ++ machine.adoptions host
  byName host (fun item : Item => item.info.name) (states.filterMap fun state =>
    ((machine.packages host).find? fun package => package.info.key = state.packageKey).map
      (Item.of state))

end AgentMate.SkillPackages
