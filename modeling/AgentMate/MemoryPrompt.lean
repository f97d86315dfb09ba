import AgentMate.MemoryStore

/-!
# The memories of a prompt

`build_memory_prompt` ranks the memories of one owner in a scope, takes those that fit and reinforces
them. The ranking values of the path with a query vector are taken after the backfill of the vectors.
-/

namespace AgentMate.MemoryPrompt

open PlainText List Option

def userInjectCharBudget : Nat := 1200

def projectInjectCharBudget : Nat := 1600

/-- The injected memories, and the number that the tail of the section reports. -/
structure PromptSection where
  picked : List MemoryRow
  omitted : Nat

/-- The memories that a path reads; `relevance` is there with a query vector. -/
def candidates (store : MemoryStore) (ownerId : String) (relevance : Option (MemoryRow → ℚ))
    (scope : MemoryScope) : List MemoryRow :=
  if relevance.isSome then store.activeOf ownerId scope
  else (store.listMemories ownerId scope).take memoryMax

def rankOf (host : MemoryHost) (now : Time) (relevance : Option (MemoryRow → ℚ)) :
    MemoryRow → ℚ := relevance.getD fun row => host.strength row now

def rankScope (host : MemoryHost) (store : MemoryStore) (ownerId : String) (now : Time)
    (relevance : Option (MemoryRow → ℚ)) (scope : MemoryScope) : List MemoryRow :=
  match relevance with
  | none => rankByStrength host now (candidates store ownerId relevance scope)
  | some rank => (candidates store ownerId relevance scope).insertionSort fun left right =>
    rank right ≤ rank left

def promptSection (budget : Nat) (ranked : List MemoryRow) : Option PromptSection :=
  let picked := withinBudget budget none ranked
  if picked.isEmpty then none else some ⟨picked, ranked.length - picked.length⟩

def promptScopes (projectId : Option String) : List (MemoryScope × Nat) :=
  (.user, userInjectCharBudget) ::
    if projectId.getD "" = "" then [] else [(projectScope projectId, projectInjectCharBudget)]

def reinforceAll (ownerId : String) (now : Time) (store : MemoryStore) (picked : List MemoryRow) :
    MemoryStore :=
  picked.foldl (fun store row => store.update (ownerId, row.id) (MemoryRow.reinforce now)) store

def buildMemoryPrompt (host : MemoryHost) (store : MemoryStore) (ownerId : String) (now : Time)
    (relevance : Option (MemoryRow → ℚ)) (projectId : Option String) :
    List PromptSection × MemoryStore :=
  let sections := (promptScopes projectId).filterMap fun part =>
    promptSection part.2 (rankScope host store ownerId now relevance part.1)
  (sections, reinforceAll ownerId now store (sections.flatMap PromptSection.picked))

def cost (row : MemoryRow) : Nat := (strip row.content).length + 3

def hasText (row : MemoryRow) : Bool := strip row.content ≠ ""

structure LongestFront (budget : Nat) (rows picked : List MemoryRow) : Prop where
  front : picked <+: rows
  one : picked = [] → rows = []
  fits : (picked.map cost).sum ≤ budget ∨ picked.length ≤ 1
  longest : ∀ other, other <+: rows → picked.length < other.length → budget < (other.map cost).sum

def Strongest (memories : List MemoryRow) (rank : MemoryRow → ℚ) (budget : Nat)
    (part : Option PromptSection) : Prop :=
  ∃ ordered : List MemoryRow, ordered.Perm memories ∧
    (ordered.Pairwise fun left right => rank right ≤ rank left) ∧
    LongestFront budget (ordered.filter hasText) ((part.map PromptSection.picked).getD []) ∧
    ∀ found ∈ part, found.omitted = ordered.length - found.picked.length

def Complete (store : MemoryStore) (ownerId : String) (relevance : Option (MemoryRow → ℚ))
    (scope : MemoryScope) : Prop :=
  relevance.isSome = true ∨ (store.activeOf ownerId scope).length ≤ memoryMax ∨
    ∀ row ∈ store.activeOf ownerId scope, hasText row = false

/-- An active memory of the owner, in the scope of the user or in the current project. -/
def Injectable (store : MemoryStore) (ownerId : String) (projectId : Option String)
    (row : MemoryRow) : Prop :=
  row ∈ store.rows ∧ row.status = .active ∧ row.ownerId = ownerId ∧
    (row.scope = .user ∨ ∃ project, projectId = some project ∧ row.scope = .project project)

theorem within_used (budget used : Nat) (rows : List MemoryRow) :
    withinBudget budget (some used) rows <+: rows.filter hasText ∧
    (withinBudget budget (some used) rows = [] ∨
      used + ((withinBudget budget (some used) rows).map cost).sum ≤ budget) ∧
    ∀ other, other <+: rows.filter hasText →
      (withinBudget budget (some used) rows).length < other.length →
        budget < used + (other.map cost).sum := by
  induction rows generalizing used with
  | nil =>
    refine ⟨List.nil_prefix, .inl rfl, fun other front longer => ?_⟩
    rw [filter_nil, prefix_nil] at front
    simp [front] at longer
  | cons row rest ih =>
    rw [withinBudget]
    by_cases blank : strip row.content = ""
    · rw [if_pos blank, filter_cons_of_neg (by simp [hasText, blank])]
      exact ih used
    · rw [if_neg blank, filter_cons_of_pos (by simp [hasText, blank])]
      simp only [any_some, decide_eq_true_eq, getD_some]
      split
      · next full =>
        refine ⟨List.nil_prefix, .inl rfl, fun other front longer => ?_⟩
        cases other with
        | nil => simp at longer
        | cons head tail =>
          rw [(cons_prefix_cons.mp front).1, map_cons, sum_cons, cost]
          omega
      · next room =>
        obtain ⟨front, fits, longest⟩ := ih (used + ((strip row.content).length + 3))
        refine ⟨cons_prefix_cons.mpr ⟨rfl, front⟩, .inr ?_, fun other first longer => ?_⟩
        · rw [map_cons, sum_cons, cost]
          rcases fits with none | fits
          · rw [none, map_nil, sum_nil]
            omega
          · omega
        · cases other with
          | nil => simp at longer
          | cons head tail =>
            obtain ⟨rfl, later⟩ := cons_prefix_cons.mp first
            have beyond := longest tail later (by simpa using longer)
            rw [map_cons, sum_cons, cost]
            omega

theorem within_longest (budget : Nat) (rows : List MemoryRow) :
    LongestFront budget (rows.filter hasText) (withinBudget budget none rows) := by
  induction rows with
  | nil => exact ⟨List.nil_prefix, fun _ => rfl, .inr (Nat.zero_le 1), fun other front longer => by
      rw [filter_nil, prefix_nil] at front
      simp [front] at longer⟩
  | cons row rest ih =>
    rw [withinBudget]
    by_cases blank : strip row.content = ""
    · rw [if_pos blank, filter_cons_of_neg (by simp [hasText, blank])]
      exact ih
    · rw [if_neg blank, filter_cons_of_pos (by simp [hasText, blank])]
      obtain ⟨front, fits, longest⟩ := within_used budget (cost row) rest
      rw [cost] at front fits longest
      simp only [any_none, Bool.false_eq_true, if_false, getD_none, Nat.zero_add]
      refine ⟨cons_prefix_cons.mpr ⟨rfl, front⟩, by rintro ⟨⟩, ?_,
        fun other first longer => ?_⟩
      · rcases fits with none | fits
        · exact .inr (by rw [none]; rfl)
        · exact .inl (by simpa [cost] using fits)
      · cases other with
        | nil => simp at longer
        | cons head tail =>
          obtain ⟨rfl, later⟩ := cons_prefix_cons.mp first
          simpa [cost] using longest tail later (by simpa using longer)

theorem insertion_sorted (rank : MemoryRow → ℚ) (rows : List MemoryRow) :
    (rows.insertionSort fun left right => rank right ≤ rank left).Pairwise
      fun left right => rank right ≤ rank left := by
  have : Std.Total fun left right : MemoryRow => rank right ≤ rank left :=
    ⟨fun left right => le_total (rank right) (rank left)⟩
  have : IsTrans MemoryRow fun left right => rank right ≤ rank left :=
    ⟨fun _ _ _ first second => le_trans second first⟩
  exact pairwise_insertionSort _ rows

section

variable (host : MemoryHost) (store : MemoryStore) (ownerId : String) (now : Time)
  (relevance : Option (MemoryRow → ℚ)) (scope : MemoryScope)

theorem rank_scope_sorted :
    (rankScope host store ownerId now relevance scope).Pairwise fun left right =>
      rankOf host now relevance right ≤ rankOf host now relevance left := by
  cases relevance with
  | none => exact insertion_sorted (fun row => host.strength row now) _
  | some relevance => exact insertion_sorted relevance _

theorem rank_scope_perm :
    (rankScope host store ownerId now relevance scope).Perm (candidates store ownerId relevance scope) := by
  cases relevance with
  | none => exact perm_insertionSort _ _
  | some relevance => exact perm_insertionSort _ _

theorem candidates_perm (few : relevance.isSome = true ∨
    (store.activeOf ownerId scope).length ≤ memoryMax) :
    (candidates store ownerId relevance scope).Perm (store.activeOf ownerId scope) := by
  rw [candidates]
  split
  · exact .refl _
  · next query =>
    rw [MemoryStore.listMemories, take_of_length_le]
    · exact perm_insertionSort _ _
    · rw [length_insertionSort]
      exact few.resolve_left query

theorem section_picked (budget : Nat) (ranked : List MemoryRow) :
    ((promptSection budget ranked).map PromptSection.picked).getD [] =
      withinBudget budget none ranked := by
  rw [promptSection]
  split
  · next none => exact (List.isEmpty_iff.mp none).symm
  · rfl

theorem section_omitted {budget : Nat} {ranked : List MemoryRow} {found : PromptSection}
    (known : found ∈ promptSection budget ranked) :
    found.picked = withinBudget budget none ranked ∧
      found.omitted = ranked.length - found.picked.length := by
  rw [promptSection] at known
  split at known
  · cases known
  · cases known
    exact ⟨rfl, rfl⟩

theorem within_length (budget : Nat) (rows : List MemoryRow) :
    (withinBudget budget none rows).length ≤ rows.length :=
  (within_longest budget rows).front.length_le.trans (length_filter_le _ _)

theorem section_strongest (budget : Nat) :
    Strongest (candidates store ownerId relevance scope) (rankOf host now relevance) budget
      (promptSection budget (rankScope host store ownerId now relevance scope)) := by
  refine ⟨_, rank_scope_perm host store ownerId now relevance scope,
    rank_scope_sorted host store ownerId now relevance scope, ?_, fun found known =>
      (section_omitted known).2⟩
  rw [section_picked]
  exact within_longest _ _

theorem strongest_perm {memories others : List MemoryRow} {rank : MemoryRow → ℚ} {budget : Nat}
    {part : Option PromptSection} (same : memories.Perm others)
    (strongest : Strongest memories rank budget part) : Strongest others rank budget part := by
  obtain ⟨ordered, perm, facts⟩ := strongest
  exact ⟨ordered, perm.trans same, facts⟩

theorem section_complete_iff (budget : Nat) :
    Strongest (store.activeOf ownerId scope) (rankOf host now relevance) budget
      (promptSection budget (rankScope host store ownerId now relevance scope)) ↔
        Complete store ownerId relevance scope := by
  have strongest := section_strongest host store ownerId now relevance scope budget
  by_cases few : relevance.isSome = true ∨ (store.activeOf ownerId scope).length ≤ memoryMax
  · exact iff_of_true (strongest_perm (candidates_perm store ownerId relevance scope few) strongest)
      (few.imp_right .inl)
  · -- two hundred of the memories are read, so the number of the others is too small
    rw [not_or, not_le, Bool.not_eq_true, isSome_eq_false_iff, isNone_iff_eq_none] at few
    obtain ⟨rfl, many⟩ := few
    have read : (rankScope host store ownerId now none scope).length = memoryMax := by
      rw [(rank_scope_perm host store ownerId now none scope).length_eq, candidates, if_neg (by simp),
        length_take, MemoryStore.listMemories, length_insertionSort]
      omega
    constructor
    · rintro ⟨ordered, perm, -, front, omitted⟩
      refine .inr (.inr ?_)
      by_contra text
      push Not at text
      obtain ⟨row, active, filled⟩ := text
      rw [section_picked] at front
      have mem : row ∈ ordered.filter hasText :=
        mem_filter.mpr ⟨perm.mem_iff.mpr active, by simpa using filled⟩
      have some : withinBudget budget none (rankScope host store ownerId now none scope) ≠ [] :=
        fun none => ne_nil_of_mem mem (front.one none)
      have known : ⟨withinBudget budget none (rankScope host store ownerId now none scope),
          (rankScope host store ownerId now none scope).length -
            (withinBudget budget none (rankScope host store ownerId now none scope)).length⟩ ∈
          promptSection budget (rankScope host store ownerId now none scope) :=
        if_neg (by simpa using some)
      have counted := omitted _ known
      have short := within_length budget (rankScope host store ownerId now none scope)
      have size := perm.length_eq
      simp only at counted
      omega
    · intro complete
      have blank := (complete.resolve_left (by simp)).resolve_left (by omega)
      have unread : ∀ rows : List MemoryRow, (∀ row ∈ rows, row ∈ store.activeOf ownerId scope) →
          rows.filter hasText = [] := fun rows active =>
        filter_eq_nil_iff.mpr fun row mem => by simp [blank row (active row mem)]
      have active : ∀ row ∈ rankScope host store ownerId now none scope, row ∈ store.activeOf ownerId scope :=
        fun row mem => (mem_insertionSort _).mp
          (mem_of_mem_take ((rank_scope_perm host store ownerId now none scope).mem_iff.mp mem))
      have nothing : withinBudget budget none (rankScope host store ownerId now none scope) = [] := by
        have front := (within_longest budget (rankScope host store ownerId now none scope)).front
        rwa [unread _ active, prefix_nil] at front
      refine ⟨rankByStrength host now (store.activeOf ownerId scope), perm_insertionSort _ _, ?_, ?_,
        ?_⟩
      · exact insertion_sorted (fun row => host.strength row now) _
      · rw [section_picked, nothing, unread]
        · exact ⟨List.nil_prefix, fun _ => rfl, .inr (Nat.zero_le 1), fun other front longer => by
            rw [prefix_nil] at front
            simp [front] at longer⟩
        · exact fun row mem => (mem_insertionSort _).mp mem
      · rintro found known
        rw [promptSection, nothing] at known
        cases known

end

def reinforcedBy (ownerId : String) (now : Time) (picked : List MemoryRow) (row : MemoryRow) :
    MemoryRow :=
  let uses := (picked.map fun other => (ownerId, other.id)).count row.key
  if uses = 0 then row
  else { row with usageCount := row.usageCount + uses, lastUsedAt := some now }

theorem reinforce_all_rows (ownerId : String) (now : Time) (picked : List MemoryRow)
    (store : MemoryStore) :
    (reinforceAll ownerId now store picked).rows =
      store.rows.map (reinforcedBy ownerId now picked) := by
  induction picked generalizing store with
  | nil =>
    have same : reinforcedBy ownerId now [] = id := rfl
    rw [same, List.map_id]
    rfl
  | cons first rest ih =>
    rw [reinforceAll, foldl_cons, ← reinforceAll, ih, MemoryStore.update, Table.updateWhere,
      List.map_map]
    refine map_congr_left fun row _ => ?_
    have key : (row.reinforce now).key = row.key := rfl
    simp only [Function.comp_apply, reinforcedBy, map_cons, count_cons, beq_iff_eq]
    by_cases own : row.key = (ownerId, first.id)
    · rw [if_pos own, key, if_pos own.symm]
      by_cases later : (rest.map fun other => (ownerId, other.id)).count row.key = 0
      · simp [later, MemoryRow.reinforce]
      · simp [later, MemoryRow.reinforce, Nat.add_assoc, Nat.add_comm]
    · rw [if_neg own, if_neg (Ne.symm own), Nat.add_zero]

section

variable {host : MemoryHost} {store : MemoryStore} {ownerId : String} {now : Time}
  {relevance : Option (MemoryRow → ℚ)} {projectId : Option String}

theorem candidates_active {scope : MemoryScope} {row : MemoryRow}
    (mem : row ∈ candidates store ownerId relevance scope) :
    row ∈ store.activeOf ownerId scope := by
  rw [candidates] at mem
  split at mem
  · exact mem
  · exact (mem_insertionSort _).mp (mem_of_mem_take mem)

theorem prompt_scopes_own {part : MemoryScope × Nat} (mem : part ∈ promptScopes projectId) :
    part.1 = .user ∨ ∃ project, projectId = some project ∧ part.1 = .project project := by
  rcases mem_cons.mp mem with rfl | project
  · exact .inl rfl
  · obtain ⟨named, rfl⟩ : projectId.getD "" ≠ "" ∧
        part = (projectScope projectId, projectInjectCharBudget) := by
      simpa using project
    cases projectId with
    | none => exact absurd rfl named
    | some id => exact .inr ⟨id, rfl, if_neg named⟩

/-- Every query filters by the owner and the scope, so no other memory gets into a section. -/
theorem injected_own {row : MemoryRow}
    (mem : row ∈ (buildMemoryPrompt host store ownerId now relevance projectId).1.flatMap
      PromptSection.picked) : Injectable store ownerId projectId row := by
  obtain ⟨found, listed, picked⟩ := mem_flatMap.mp mem
  obtain ⟨part, scope, shown⟩ := mem_filterMap.mp listed
  rw [(section_omitted shown).1] at picked
  have ranked := mem_of_mem_filter ((within_longest _ _).front.subset picked)
  have active := candidates_active
    ((rank_scope_perm host store ownerId now relevance part.1).mem_iff.mp ranked)
  obtain ⟨stored, matched⟩ := mem_filter.mp active
  simp only [Bool.and_eq_true, decide_eq_true_eq] at matched
  refine ⟨stored, matched.2, matched.1.1, ?_⟩
  rw [matched.1.2]
  exact prompt_scopes_own scope

end

/-- The sections have the strongest candidates, which are reinforced, and they are memories of the
owner in the user's scope or the current project; they are the strongest of all memories exactly
where all of them are candidates. -/
theorem memory_prompt_strongest (host : MemoryHost) (store : MemoryStore) (ownerId : String)
    (now : Time) (relevance : Option (MemoryRow → ℚ)) (projectId : Option String) :
    (∀ part ∈ promptScopes projectId,
      Strongest (candidates store ownerId relevance part.1) (rankOf host now relevance) part.2
        (promptSection part.2 (rankScope host store ownerId now relevance part.1)) ∧
      (Strongest (store.activeOf ownerId part.1) (rankOf host now relevance) part.2
        (promptSection part.2 (rankScope host store ownerId now relevance part.1)) ↔
          Complete store ownerId relevance part.1)) ∧
    (∀ row ∈ (buildMemoryPrompt host store ownerId now relevance projectId).1.flatMap
        PromptSection.picked, Injectable store ownerId projectId row) ∧
    (buildMemoryPrompt host store ownerId now relevance projectId).2.rows =
      store.rows.map (reinforcedBy ownerId now
        ((buildMemoryPrompt host store ownerId now relevance projectId).1.flatMap
          PromptSection.picked)) := by
  refine ⟨fun part _ => ⟨?_, ?_⟩, fun row => injected_own, reinforce_all_rows ownerId now _ store⟩
  · exact section_strongest host store ownerId now relevance part.1 part.2
  · exact section_complete_iff host store ownerId now relevance part.1 part.2

def memoryAt (index : Nat) : MemoryRow :=
  ⟨toString index, "ann", "a", .user, index, 1, 0, .active, none, none, none⟩

def firstStrongest : MemoryHost := ⟨fun row _ => if row.id = "0" then 1 else 0⟩

def fullStore : MemoryStore := ⟨(List.range 201).map memoryAt⟩

theorem oldest_memory_unread :
    ¬ Strongest (fullStore.activeOf "ann" .user) (rankOf firstStrongest 300 none)
      userInjectCharBudget (promptSection userInjectCharBudget
        (rankScope firstStrongest fullStore "ann" 300 none .user)) := by
  rw [section_complete_iff]
  rintro (query | few | blank)
  · cases query
  · exact absurd few (by decide +kernel)
  · exact absurd (blank (memoryAt 0) (by simp [fullStore, MemoryStore.activeOf, memoryAt]))
      (by decide +kernel)

end AgentMate.MemoryPrompt
