import AgentMate.PlainText
import AgentMate.RunStore
import Mathlib.Data.List.Sort

/-!
# Memory store

The memories of all owners, the lists that are read of them, and the memories that fit into a
budget. A query is given its owner, as each one is in the code.
-/

namespace AgentMate

open PlainText

inductive MemoryStatus where
  | active
  | archived
  | superseded
  deriving DecidableEq

/-- The normalised pair of `scope` and `project_id`. -/
inductive MemoryScope where
  | user
  | project (projectId : String)
  deriving DecidableEq

/-- `_memory_scope` for a scope that names a project. -/
def projectScope (projectId : Option String) : MemoryScope :=
  match projectId with
  | some id => if id = "" then .user else .project id
  | none => .user

/-- A row of `user_memories`. -/
structure MemoryRow where
  id : String
  ownerId : String
  content : String
  scope : MemoryScope
  createdAt : Time
  importance : ℚ
  usageCount : Nat
  status : MemoryStatus
  lastUsedAt : Option Time
  embedding : Option Bytes
  embeddingModel : Option String

/-- What `WHERE owner_id=? AND id=?` compares. -/
def MemoryRow.key (row : MemoryRow) : String × String := (row.ownerId, row.id)

structure MemoryStore where
  rows : List MemoryRow

/-- What the store takes from the language: the floating point of the forgetting curve. -/
structure MemoryHost where
  strength : MemoryRow → Time → ℚ

def memoryMax : Nat := 200

namespace MemoryStore

variable (store : MemoryStore)

variable (ownerId : String)

def activeOf (scope : MemoryScope) : List MemoryRow :=
  store.rows.filter fun row =>
    row.ownerId = ownerId && row.scope = scope && row.status = .active

/-- `list_memories`: `ORDER BY created_at DESC`. -/
def listMemories (scope : MemoryScope) : List MemoryRow :=
  (store.activeOf ownerId scope).insertionSort fun left right => right.createdAt ≤ left.createdAt

/-- An `UPDATE` of the memory with an owner and an identifier. -/
def update (key : String × String) (assign : MemoryRow → MemoryRow) : MemoryStore :=
  { store with rows := Table.updateWhere (fun row => row.key = key) assign store.rows }

end MemoryStore

def MemoryRow.reinforce (now : Time) (row : MemoryRow) : MemoryRow :=
  { row with usageCount := row.usageCount + 1, lastUsedAt := some now }

def rankByStrength (host : MemoryHost) (now : Time) (memories : List MemoryRow) : List MemoryRow :=
  memories.insertionSort fun left right => host.strength right now ≤ host.strength left now

/-- `_within_budget`: `used` is none before the first memory is picked. -/
def withinBudget (budget : Nat) : Option Nat → List MemoryRow → List MemoryRow
  | _, [] => []
  | used, memory :: rest =>
    let content := strip memory.content
    if content = "" then withinBudget budget used rest
    else
      let cost := content.length + 3
      if used.any fun used => budget < used + cost then []
      else memory :: withinBudget budget (some (used.getD 0 + cost)) rest

end AgentMate
