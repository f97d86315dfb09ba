import AgentMate.JsonText
import AgentMate.PlainText

/-!
# The local catalog of skills

The rows of `catalog_skills`: those that come with the App and those that mirror the Server.
-/

namespace AgentMate.CatalogSkills

open PlainText

/-- A row of `catalog_skills`; the JSON columns are read. -/
structure CatalogSkill where
  scope : String
  slug : String
  name : String
  icon : String
  description : String
  instructions : String
  skillMarkdown : String
  version : String
  tools : Json
  permissions : Json
  toolContractVersion : String
  serverReleaseId : String
  serverContentHash : String
  files : Json
  category : String
  source : String
  withdrawn : Bool
  compatible : Bool
  compatibilityError : String
  minAppVersion : String
  enabled : Bool
  sort : Int

/-- A definition of `skill_specs`. -/
structure SkillSpec where
  slug : String
  name : String
  icon : String
  description : String
  instructions : String
  skillMarkdown : String
  version : String
  tools : List Json
  permissions : List Json
  toolContractVersion : String
  serverReleaseId : String
  serverContentHash : String
  files : List Json
  category : String
  source : String
  scope : String
  compatible : Bool
  compatibilityError : String
  minAppVersion : String

/-- `value if isinstance(value, list) else []`. -/
def items : Json → List Json
  | .arr values => values
  | _ => []

def CatalogSkill.spec (row : CatalogSkill) : SkillSpec where
  slug := row.slug
  name := row.name
  icon := row.icon
  description := row.description
  instructions := row.instructions
  skillMarkdown := row.skillMarkdown
  version := row.version
  tools := items row.tools
  permissions := items row.permissions
  toolContractVersion := row.toolContractVersion
  serverReleaseId := row.serverReleaseId
  serverContentHash := row.serverContentHash
  files := items row.files
  category := row.category
  source := row.source
  scope := row.scope
  compatible := row.compatible
  compatibilityError := row.compatibilityError
  minAppVersion := row.minAppVersion

def CatalogSkill.rank (row : CatalogSkill) : Nat := if row.scope = "server" then 0 else 1

/-- `ORDER BY CASE scope WHEN 'server' THEN 0 ELSE 1 END, sort, name`. -/
def CatalogSkill.before (left right : CatalogSkill) : Prop :=
  left.rank < right.rank ∨ (left.rank = right.rank ∧
    (left.sort < right.sort ∨ (left.sort = right.sort ∧ left.name ≤ right.name)))

instance : DecidableRel CatalogSkill.before := fun left right =>
  inferInstanceAs (Decidable (left.rank < right.rank ∨ (left.rank = right.rank ∧
    (left.sort < right.sort ∨ (left.sort = right.sort ∧ left.name ≤ right.name)))))

/-- The first row of each slug; a tombstone of the Server hides the row that comes with the App. -/
def firstSpecs : List CatalogSkill → List String → List SkillSpec
  | [], _ => []
  | row :: rest, seen =>
    if row.slug ∈ seen then firstSpecs rest seen
    else if row.withdrawn then firstSpecs rest (row.slug :: seen)
    else row.spec :: firstSpecs rest (row.slug :: seen)

def skillSpecs (rows : List CatalogSkill) : List SkillSpec :=
  firstSpecs ((rows.filter fun row => row.enabled || (row.scope = "server" && row.withdrawn))
    |>.insertionSort CatalogSkill.before) []

def skillSpecFor (rows : List CatalogSkill) (key : String) : Option SkillSpec :=
  if strip key = "" then none
  else (skillSpecs rows).find? fun spec => spec.slug = strip key || spec.name = strip key

/-- `skill_catalog_state(key).get("withdrawn")`. -/
def isWithdrawn (rows : List CatalogSkill) (key : String) : Bool :=
  strip key ≠ "" && ((((rows.filter fun row => row.scope = "server" &&
      (row.slug = strip key || row.name = strip key)).insertionSort
        fun left right => left.sort ≤ right.sort).head?).any fun row => row.withdrawn)

end AgentMate.CatalogSkills
