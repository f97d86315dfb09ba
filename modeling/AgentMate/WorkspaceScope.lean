import AgentMate.RunProtocolStore

/-!
# Admission scope and sandbox root

The Server derives the scope of a Run from its project and workspace columns, the
Local Agent derives a directory from the same two columns. Paths follow `pathlib`
on POSIX: a path is a root and the components that are neither empty nor a dot,
and joining an absolute path replaces what stands before it.
-/

namespace AgentMate

structure PurePath where
  root : String
  parts : List String
  deriving DecidableEq

/-- `posixpath.splitroot`: exactly two leading slashes are a root of their own. -/
def rootOf (path : String) : String :=
  match path.toList with
  | '/' :: '/' :: '/' :: _ => "/"
  | '/' :: '/' :: _ => "//"
  | '/' :: _ => "/"
  | _ => ""

def components (path : String) : List String :=
  ((path.toList.splitOn '/').map String.ofList).filter fun part => part ≠ "" && part ≠ "."

def PurePath.parse (path : String) : PurePath := ⟨rootOf path, components path⟩

/-- `base / path`. -/
def PurePath.join (base : PurePath) (path : String) : PurePath :=
  if rootOf path = "" then { base with parts := base.parts ++ components path }
  else PurePath.parse path

def projectRoot (base : PurePath) (projectId : Option String) : PurePath :=
  match projectId with
  | some id => if id = "" then base.join "default" else (base.join "projects").join id
  | none => base.join "default"

def assistantRoot (base : PurePath) (assistantId : String) : PurePath :=
  (base.join "assistants").join assistantId

def workspaceRoot (base : PurePath) (spec projectId : Option String) : PurePath :=
  match spec.bind (afterPrefix? "project:") with
  | some id => projectRoot base (some id)
  | none =>
    match spec.bind (afterPrefix? "dedicated:") with
    | some id => assistantRoot base id
    | none => projectRoot base projectId

/-- `sandbox.workspace_root` of a Run, before `_execute_run` resolves it. -/
def localRoot (base : PurePath) (run : Run) : PurePath :=
  workspaceRoot base (some (if run.workspace = "" then "default" else run.workspace))
    (run.projectId.filter fun id => id ≠ "")

/-- What the two columns name: the shared folder, or the folder of an identifier. -/
inductive Folder where
  | shared
  | project (id : String)
  | assistant (id : String)
  deriving DecidableEq

/-- The workspace column decides when it carries a mark, else the project column. -/
def Run.folder (run : Run) : Folder :=
  match afterPrefix? "project:" run.workspace with
  | some id => if id = "" then .shared else .project id
  | none =>
    match afterPrefix? "dedicated:" run.workspace with
    | some id => .assistant id
    | none => if run.projectId.getD "" = "" then .shared else .project (run.projectId.getD "")

def Folder.id : Folder → String
  | .shared => ""
  | .project id | .assistant id => id

def Folder.kind : Folder → String
  | .shared => "default"
  | .project _ => "projects"
  | .assistant _ => "assistants"

/-- Two folders are one directory: their kinds and the components of their
identifiers agree; an absolute identifier stands for itself. -/
def SameDirectory (base : PurePath) (left right : Folder) : Prop :=
  if rootOf left.id = "" then
    if rootOf right.id = "" then
      left.kind = right.kind ∧ components left.id = components right.id
    else ⟨base.root, base.parts ++ left.kind :: components left.id⟩ = PurePath.parse right.id
  else
    if rootOf right.id = "" then
      PurePath.parse left.id = ⟨base.root, base.parts ++ right.kind :: components right.id⟩
    else PurePath.parse left.id = PurePath.parse right.id

instance (base : PurePath) (left right : Folder) : Decidable (SameDirectory base left right) := by
  unfold SameDirectory
  infer_instance

def Unmarked (workspace : String) : Prop :=
  afterPrefix? "project:" workspace = none ∧ afterPrefix? "dedicated:" workspace = none

instance (workspace : String) : Decidable (Unmarked workspace) :=
  inferInstanceAs (Decidable (_ ∧ _))

/-- The columns of the two Runs agree on what admission locks: one project; one
project and a workspace marked with it; without projects, one marked workspace or
none. -/
def SameColumns (left right : Run) : Prop :=
  let leftProject := left.projectId.getD ""
  let rightProject := right.projectId.getD ""
  (leftProject ≠ "" ∧ rightProject = leftProject) ∨
  (leftProject ≠ "" ∧ rightProject = "" ∧ right.workspace = "project:" ++ leftProject) ∨
  (leftProject = "" ∧ rightProject ≠ "" ∧ left.workspace = "project:" ++ rightProject) ∨
  (leftProject = "" ∧ rightProject = "" ∧
    (left.workspace = right.workspace ∨ (Unmarked left.workspace ∧ Unmarked right.workspace)))

instance (left right : Run) : Decidable (SameColumns left right) := by
  unfold SameColumns
  infer_instance

theorem default_unmarked : Unmarked "default" := by decide

theorem empty_unmarked : Unmarked "" := by decide

theorem project_mark (id : String) : afterPrefix? "project:" ("project:" ++ id) = some id :=
  after_prefix_eq_some.mpr rfl

theorem marked_not_default {mark id : String} (mark_ne : afterPrefix? mark "default" = none) :
    mark ++ id ≠ "default" := by
  intro same
  have found : afterPrefix? mark "default" = some id := after_prefix_eq_some.mpr same.symm
  rw [mark_ne] at found
  cases found

variable {workspace : String} {projectId : Option String}

theorem scope_without_project (none : projectId.getD "" = "") :
    workspaceScopeOf projectId workspace =
      if Unmarked workspace then "default" else workspace := by
  simp only [workspaceScopeOf, none, ne_eq, not_true, if_false]
  by_cases empty : workspace = ""
  · subst empty
    rw [if_pos rfl, if_pos empty_unmarked]
    decide
  · rw [if_neg empty]
    by_cases unmarked : Unmarked workspace
    · rw [if_pos unmarked, if_neg]
      simp [unmarked.1, unmarked.2]
    · rw [if_neg unmarked, if_pos]
      rw [Unmarked, not_and_or] at unmarked
      simpa [Option.isSome_iff_ne_none] using unmarked

theorem scope_with_project (some_ : projectId.getD "" ≠ "") :
    workspaceScopeOf projectId workspace = "project:" ++ projectId.getD "" := by
  simp only [workspaceScopeOf, ne_eq, some_, not_false_eq_true, if_true]

theorem scope_eq_project {workspace id : String} (none : projectId.getD "" = "") :
    workspaceScopeOf projectId workspace = "project:" ++ id ↔ workspace = "project:" ++ id := by
  rw [scope_without_project none]
  by_cases unmarked : Unmarked workspace
  · rw [if_pos unmarked]
    constructor
    · intro same
      exact absurd same.symm (marked_not_default (by decide))
    · rintro rfl
      rw [Unmarked, project_mark] at unmarked
      cases unmarked.1
  · rw [if_neg unmarked]

theorem same_columns_iff (left right : Run) :
    workspaceScope left = workspaceScope right ↔ SameColumns left right := by
  unfold workspaceScope SameColumns
  by_cases leftNone : left.projectId.getD "" = "" <;>
    by_cases rightNone : right.projectId.getD "" = ""
  · rw [scope_without_project leftNone, scope_without_project rightNone]
    simp only [leftNone, rightNone, ne_eq, not_true, false_and, true_and, false_or, and_false]
    by_cases leftUnmarked : Unmarked left.workspace <;>
      by_cases rightUnmarked : Unmarked right.workspace
    · simp [leftUnmarked, rightUnmarked]
    · simp only [leftUnmarked, rightUnmarked, if_true, if_false, and_false, or_false]
      constructor
      · intro same
        rw [← same] at rightUnmarked
        exact absurd default_unmarked rightUnmarked
      · intro same
        rw [same] at leftUnmarked
        exact absurd leftUnmarked rightUnmarked
    · simp only [leftUnmarked, rightUnmarked, if_true, if_false, false_and, or_false]
      constructor
      · intro same
        rw [same] at leftUnmarked
        exact absurd default_unmarked leftUnmarked
      · intro same
        rw [same] at leftUnmarked
        exact absurd rightUnmarked leftUnmarked
    · simp [leftUnmarked, rightUnmarked]
  · rw [scope_with_project rightNone, scope_eq_project leftNone]
    simp [leftNone, rightNone]
  · rw [scope_with_project leftNone, eq_comm, scope_eq_project rightNone]
    simp [leftNone, rightNone]
  · rw [scope_with_project leftNone, scope_with_project rightNone, String.append_right_inj]
    simp [leftNone, rightNone, eq_comm]

theorem join_relative {base : PurePath} {path : String} (relative : rootOf path = "") :
    base.join path = ⟨base.root, base.parts ++ components path⟩ := by
  rw [PurePath.join, if_pos relative]

theorem join_absolute {base : PurePath} {path : String} (absolute : rootOf path ≠ "") :
    base.join path = PurePath.parse path := by
  rw [PurePath.join, if_neg absolute]

theorem folder_directory (base : PurePath) (folder : Folder) :
    (base.join folder.kind).join folder.id =
      if rootOf folder.id = "" then
        ⟨base.root, base.parts ++ folder.kind :: components folder.id⟩
      else PurePath.parse folder.id := by
  have single : rootOf folder.kind = "" ∧ components folder.kind = [folder.kind] := by
    cases folder <;> simp only [Folder.kind] <;> decide +kernel
  split
  · next relative =>
    rw [join_relative single.1, join_relative relative, single.2]
    simp
  · next absolute => exact join_absolute absolute

theorem shared_directory (base : PurePath) :
    base.join "default" = (base.join Folder.shared.kind).join Folder.shared.id := by
  have nothing : components Folder.shared.id = [] := by decide +kernel
  have relative : rootOf Folder.shared.id = "" := by decide
  rw [join_relative relative, nothing, List.append_nil]
  rfl

theorem project_root_folder (base : PurePath) (id : String) : projectRoot base (some id) =
      let folder := if id = "" then Folder.shared else .project id
      (base.join folder.kind).join folder.id := by
  unfold projectRoot
  by_cases empty : id = ""
  · simp only [empty, if_true]
    exact shared_directory base
  · simp only [empty, if_false]
    rfl

theorem local_root_folder (base : PurePath) (run : Run) :
    localRoot base run = (base.join run.folder.kind).join run.folder.id := by
  have spec (mark : String) (plain : afterPrefix? mark "default" = none)
      (empty : afterPrefix? mark "" = none) :
      (some (if run.workspace = "" then "default" else run.workspace)).bind (afterPrefix? mark) =
        afterPrefix? mark run.workspace := by
    by_cases none : run.workspace = ""
    · rw [if_pos none, none, Option.bind_some, plain, empty]
    · rw [if_neg none, Option.bind_some]
  unfold localRoot workspaceRoot Run.folder
  rw [spec "project:" (by decide) (by decide), spec "dedicated:" (by decide) (by decide)]
  cases afterPrefix? "project:" run.workspace with
  | some id => exact project_root_folder base id
  | none =>
    cases afterPrefix? "dedicated:" run.workspace with
    | some id => rfl
    | none =>
      cases project : run.projectId with
      | none => exact shared_directory base
      | some id =>
        by_cases empty : id = ""
        · subst empty
          exact shared_directory base
        · have kept : (some id).filter (fun id => decide (id ≠ "")) = some id := by
            simp [Option.filter, empty]
          rw [kept, project_root_folder]
          rfl

theorem same_directory_iff (base : PurePath) (left right : Run) :
    localRoot base left = localRoot base right ↔ SameDirectory base left.folder right.folder := by
  rw [local_root_folder, local_root_folder, folder_directory, folder_directory, SameDirectory]
  split <;> split
  · simp
  · rfl
  · rfl
  · rfl

/-- Two Runs that the Local Agent puts into one directory have one scope. -/
def ScopeSound (base : PurePath) (left right : Run) : Prop :=
  localRoot base left = localRoot base right → workspaceScope left = workspaceScope right

/-- The scope is sound for two Runs exactly when the folders that their columns name
are different directories, or the columns agree on what admission locks. -/
theorem admission_scope_sound (base : PurePath) (left right : Run) : ScopeSound base left right ↔
      ¬SameDirectory base left.folder right.folder ∨ SameColumns left right := by
  rw [ScopeSound, same_directory_iff, same_columns_iff, imp_iff_not_or]

theorem scope_unsound : ¬∀ base left right, ScopeSound base left right := by
  intro sound
  let marked (projectId : Option String) : Run :=
    { id := "run", sessionId := "session", ownerId := "owner", projectId := projectId
      workItemId := none, mode := .exec, workspace := "project:q", targetDeviceId := ""
      requiredCapabilities := [], requestSnapshot := .obj [], maxRecoveries := 3, createdAt := 1
      deletedAt := 0, status := .queued, leaseEpoch := 0, recoveryCount := 0, cancelVersion := 0
      cancelRequestedAt := 0, report := ⟨.obj [], none, none, "", "", 0, 0, 1, 1⟩ }
  have same : localRoot ⟨"/", ["data"]⟩ (marked (some "p")) =
      localRoot ⟨"/", ["data"]⟩ (marked none) := by decide +kernel
  have apart : workspaceScope (marked (some "p")) ≠ workspaceScope (marked none) := by
    decide +kernel
  exact apart (sound _ _ _ same)

end AgentMate
