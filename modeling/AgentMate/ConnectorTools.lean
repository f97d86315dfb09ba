import AgentMate.Table
import Mathlib.Data.List.Dedup

/-!
# Tools of the connectors of a Run

The model sees a connector's tool under `mcp__<slug>__<tool>`, where both names are cut
to what a function name may hold. `runtime` finds the tool of a call in a dictionary by
that name, in which of two tools with one name the later counts.
-/

namespace AgentMate.ConnectorTools

open List

variable {Session Schema : Type*}

/-- An entry of `list_tools`. -/
structure ListedTool (Schema : Type*) where
  name : String
  description : String
  inputSchema : Schema

structure McpTool (Session Schema : Type*) where
  connector : String
  qualified : String
  orig : String
  description : String
  schema : Schema
  session : Session

structure FunctionSchema (Schema : Type*) where
  name : String
  description : String
  parameters : Schema

def mcpSchema (tool : McpTool Session Schema) : FunctionSchema Schema where
  name := tool.qualified
  description := "[连接器 " ++ tool.connector ++ "] " ++ tool.description
  parameters := tool.schema

def isSlugChar (char : Char) : Bool := char.isAlphanum || char = '_'

def isToolChar (char : Char) : Bool := isSlugChar char || char = '-'

/-- `_slug`; `idx` is the place of the name among all that were asked for. -/
def slug (name : String) (idx : Nat) : List Char :=
  match (name.toList.filter isSlugChar).take 16 with
  | [] => 'c' :: (toString idx).toList
  | chars => chars

/-- `re.sub(r"[^a-zA-Z0-9_-]+", "_", name)`; `within` is set inside a run. -/
def replaceRuns (within : Bool) : List Char → List Char
  | [] => []
  | char :: rest =>
    if isToolChar char then char :: replaceRuns false rest
    else if within then replaceRuns true rest
    else '_' :: replaceRuns true rest

def safeTool (name : String) : List Char := (replaceRuns false name.toList).take 40

def separator : List Char := ['_', '_']

def qualifiedName (slug tool : List Char) : String :=
  String.ofList (['m', 'c', 'p'] ++ separator ++ (slug ++ separator ++ tool))

structure Listing (Session Schema : Type*) where
  connector : String
  idx : Nat
  session : Session
  tool : ListedTool Schema

/-- The body of the loop in `_collect`. -/
def Listing.mcpTool (listing : Listing Session Schema) : McpTool Session Schema where
  connector := listing.connector
  qualified := qualifiedName (slug listing.connector listing.idx) (safeTool listing.tool.name)
  orig := listing.tool.name
  description := listing.tool.description
  schema := listing.tool.inputSchema
  session := listing.session

/-- The tools that the opened connectors list; `connect` answers nothing for a skipped one. -/
def listings (connect : String → Option (Session × List (ListedTool Schema)))
    (names : List String) : List (Listing Session Schema) :=
  names.zipIdx.flatMap fun place => match connect place.1 with
    | none => []
    | some (session, tools) => tools.map (Listing.mk place.1 place.2 session)

def openConnectors (connect : String → Option (Session × List (ListedTool Schema)))
    (names : List String) : List (McpTool Session Schema) :=
  (listings connect names).map Listing.mcpTool

/-- `{t.qualified: t for t in mcp_tools}[name]`. -/
def mcpByName (tools : List (McpTool Session Schema)) (name : String) :
    Option (McpTool Session Schema) :=
  Table.lookup McpTool.qualified name tools.reverse

structure Routed (tools : List (McpTool Session Schema)) : Prop where
  distinct : (tools.map McpTool.qualified).Nodup
  dispatched : ∀ tool ∈ tools, mcpByName tools (mcpSchema tool).name = some tool

section

variable {first second left right : List Char}

/-- Where one name starts with the other, the separator may be found in two places. -/
inductive Splits (first left second right : List Char) : Prop
  | same (slugs : second = first) (tools : right = left)
  | overlap (slugs : second = first ++ ['_']) (tools : left = '_' :: right)
  | inside (middle : List Char) (slugs : second = first ++ separator ++ middle)
      (tools : left = middle ++ separator ++ right)

theorem joined_of_splits (splits : Splits first left second right) :
    first ++ separator ++ left = second ++ separator ++ right := by
  cases splits with
  | same slugs tools => rw [slugs, tools]
  | overlap slugs tools => simp [slugs, tools, separator]
  | inside middle slugs tools => simp [slugs, tools, separator]

theorem splits_of_tail {tail : List Char} (slugs : second = first ++ tail)
    (tools : separator ++ left = tail ++ (separator ++ right)) :
    Splits first left second right := by
  -- `tail` is empty, or the first half of the separator, or has the whole of it.
  match tail with
  | [] => exact .same (by simpa using slugs) (by simpa using tools.symm)
  | [mark] =>
    simp only [separator, cons_append, nil_append, List.cons.injEq] at tools
    obtain ⟨rfl, -, rest⟩ := tools
    exact .overlap slugs rest
  | mark :: again :: middle =>
    simp only [separator, cons_append, nil_append, List.cons.injEq] at tools
    obtain ⟨rfl, rfl, rest⟩ := tools
    exact .inside middle (by simpa [separator] using slugs) (by simpa [separator] using rest)

theorem joined_eq_iff : first ++ separator ++ left = second ++ separator ++ right ↔
    Splits first left second right ∨ Splits second right first left := by
  constructor
  · intro same
    rw [append_assoc, append_assoc, append_eq_append_iff] at same
    rcases same with ⟨tail, slugs, tools⟩ | ⟨tail, slugs, tools⟩
    · exact Or.inl (splits_of_tail slugs tools)
    · exact Or.inr (splits_of_tail slugs tools)
  · rintro (splits | splits)
    · exact joined_of_splits splits
    · exact (joined_of_splits splits).symm

end

/-- The shortened names of the two tools and of their connectors join to one name. -/
def Clash (left right : Listing Session Schema) : Prop :=
  Splits (slug left.connector left.idx) (safeTool left.tool.name)
      (slug right.connector right.idx) (safeTool right.tool.name) ∨
    Splits (slug right.connector right.idx) (safeTool right.tool.name)
      (slug left.connector left.idx) (safeTool left.tool.name)

theorem qualified_eq_iff {left right : Listing Session Schema} :
    left.mcpTool.qualified = right.mcpTool.qualified ↔ Clash left right := by
  rw [Listing.mcpTool, Listing.mcpTool, qualifiedName, qualifiedName, String.ofList_inj,
    append_cancel_left_eq, joined_eq_iff, Clash]

theorem dispatched_of_distinct {tools : List (McpTool Session Schema)}
    (distinct : (tools.map McpTool.qualified).Nodup) (tool : McpTool Session Schema)
    (mem : tool ∈ tools) : mcpByName tools (mcpSchema tool).name = some tool := by
  have unique : Table.UniqueKey McpTool.qualified tools.reverse := by
    rw [Table.UniqueKey, map_reverse, nodup_reverse]
    exact distinct
  exact Table.lookup_of_mem unique (mem_reverse.mpr mem)

/-- The tools are routed exactly when no two of them clash. -/
theorem connector_tools_routed (connect : String → Option (Session × List (ListedTool Schema)))
    (names : List String) :
    Routed (openConnectors connect names) ↔
      (listings connect names).Pairwise fun left right => ¬Clash left right := by
  have distinct : ((openConnectors connect names).map McpTool.qualified).Nodup ↔
      (listings connect names).Pairwise fun left right => ¬Clash left right := by
    rw [openConnectors, map_map, List.Nodup, pairwise_map]
    apply List.Pairwise.iff
    intro left right
    exact not_congr qualified_eq_iff
  constructor
  · exact fun routed => distinct.mp routed.distinct
  · intro apart
    have different := distinct.mpr apart
    exact ⟨different, dispatched_of_distinct different⟩

def searchTool (description : String) : ListedTool String := ⟨"search", description, "\x7b\x7d"⟩

/-- Two connectors whose names differ in a character that is dropped. -/
def twoAccounts : String → Option (Nat × List (ListedTool String))
  | "work-mail" => some (1, [searchTool "Searches the work mail."])
  | "workmail" => some (2, [searchTool "Searches the old mail."])
  | _ => none

theorem search_sent_to_other_account : ["work-mail", "workmail"].Nodup ∧
      (∀ name session tools, twoAccounts name = some (session, tools) →
        (tools.map ListedTool.name).Nodup) ∧
      ¬Routed (openConnectors twoAccounts ["work-mail", "workmail"]) ∧
      ∃ shown ∈ openConnectors twoAccounts ["work-mail", "workmail"], shown.session = 1 ∧
        ∃ run, mcpByName (openConnectors twoAccounts ["work-mail", "workmail"])
          (mcpSchema shown).name = some run ∧ run.session = 2 := by
  refine ⟨by decide, ?_, ?_, ?_⟩
  · intro name session tools found
    unfold twoAccounts at found
    split at found <;> cases found <;> exact nodup_singleton _
  · intro routed
    have different := routed.distinct
    revert different
    decide +kernel
  · refine ⟨_, mem_cons_self, rfl, _, rfl, rfl⟩

end AgentMate.ConnectorTools
