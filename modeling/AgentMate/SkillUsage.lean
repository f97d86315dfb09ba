import AgentMate.PlainText
import AgentMate.TransitionSystem
import Mathlib.Data.List.Dedup
import Mathlib.Data.String.Basic

/-!
# Counters of the use of skills

`record` writes one row for an event, unless the table has its digest or its key; `summaries`
counts the rows by release and slug.
-/

namespace AgentMate.SkillUsage

open PlainText TransitionSystem List

inductive UsageEvent where
  | offered | discovered | loaded | runSucceeded | runFailed | disabled | enabled
  deriving DecidableEq

def UsageEvent.text : UsageEvent → String
  | .offered => "offered"
  | .discovered => "discovered"
  | .loaded => "loaded"
  | .runSucceeded => "run_succeeded"
  | .runFailed => "run_failed"
  | .disabled => "disabled"
  | .enabled => "enabled"

structure UsageItem where
  slug : String
  releaseId : String
  contentHash : String

def UsageItem.identity (item : UsageItem) : String :=
  if strip item.releaseId ≠ "" then strip item.releaseId
  else if strip item.contentHash ≠ "" then "local:" ++ strip item.contentHash
  else "slug:" ++ strip item.slug

/-- A call of `record` with its owner and Run, and `time.time_ns()`. -/
structure UsageCall where
  event : UsageEvent
  item : UsageItem
  ownerId : String
  runId : String
  clock : Nat

structure UsageRow where
  id : String
  ownerId : String
  slug : String
  releaseId : String
  runId : String
  event : UsageEvent
  deriving DecidableEq

section

variable (sha256 : String → String)

def UsageCall.row (call : UsageCall) : UsageRow :=
  let owner := strip call.ownerId
  let run := strip call.runId
  let nonce := if run ≠ "" then run else toString call.clock
  let release := call.item.identity
  { id := sha256 (owner ++ "\x00" ++ release ++ "\x00" ++ nonce ++ "\x00" ++ call.event.text)
    ownerId := owner, slug := strip call.item.slug, releaseId := release
    runId := run, event := call.event }

def UsageCall.counts (call : UsageCall) : Bool :=
  decide (strip call.ownerId ≠ "") && decide (strip call.item.slug ≠ "")

/-- The columns of `idx_skill_usage_dedupe`. -/
def UsageRow.key (row : UsageRow) : String × String × String × UsageEvent :=
  (row.ownerId, row.releaseId, row.runId, row.event)

def insertOrIgnore (rows : List UsageRow) (row : UsageRow) : List UsageRow :=
  if rows.any fun old => decide (old.id = row.id) || decide (old.key = row.key) then rows
  else rows ++ [row]

structure Usage where
  rows : List UsageRow
  calls : List UsageCall

def Usage.record (usage : Usage) (call : UsageCall) : Usage where
  rows := if call.counts then insertOrIgnore usage.rows (call.row sha256) else usage.rows
  calls := call :: usage.calls

def usageMachine : Machine Usage UsageCall where
  Initial usage := usage.rows = [] ∧ usage.calls = []
  Step usage call next := next = usage.record sha256 call

end

/-- The slug whose group is the last one of the release, as `GROUP BY release_id, slug` sorts. -/
def lastSlug (rows : List UsageRow) (ownerId release : String) : Option String :=
  (((rows.filter fun row => decide (row.ownerId = ownerId) && decide (row.releaseId = release)).map
    UsageRow.slug).mergeSort (· ≤ ·)).getLast?

def UsageRow.isOf (ownerId release slug : String) (event : UsageEvent) (row : UsageRow) : Bool :=
  decide (row.ownerId = ownerId) && decide (row.releaseId = release) && decide (row.slug = slug) &&
    decide (row.event = event)

/-- The events whose number `summaries` returns. The query also selects `disables`, which the
result leaves out. -/
def columns : List UsageEvent := [.offered, .discovered, .loaded, .runSucceeded, .runFailed]

/-- The number of an event in the result of `summaries` for an installed skill. -/
def counter (rows : List UsageRow) (ownerId : String) (skill : UsageItem) (event : UsageEvent) :
    Nat :=
  match lastSlug rows ownerId skill.identity with
  | none => 0
  | some slug => rows.countP (UsageRow.isOf ownerId skill.identity slug event)

section

variable (sha256 : String → String)

def Usage.all (usage : Usage) : List UsageRow :=
  (usage.calls.filter UsageCall.counts).map (UsageCall.row sha256)

def tally (rows : List UsageRow) (ownerId release slug : String) (event : UsageEvent) : Nat :=
  let own := rows.filter (UsageRow.isOf ownerId release slug event)
  ((own.filter fun row => row.runId ≠ "").map UsageRow.runId).dedup.length +
    own.countP fun row => row.runId = ""

/-- The event is the first of its kind outside a Run, its release has one slug, and its digest
is of no other event. -/
def Separate (usage : Usage) (call : UsageCall) : Prop :=
  call.counts = true → ∀ old ∈ usage.all sha256,
    (old.ownerId = (call.row sha256).ownerId → old.releaseId = (call.row sha256).releaseId →
      old.slug = (call.row sha256).slug) ∧
    (old.key = (call.row sha256).key → old.runId ≠ "") ∧
    (old.id = (call.row sha256).id → old.key = (call.row sha256).key)

end

section

variable {sha256 : String → String}

structure Usage.Inv (sha256 : String → String) (usage : Usage) : Prop where
  known : ∀ row ∈ usage.rows, row ∈ usage.all sha256
  kept : ∀ old ∈ usage.all sha256, ∃ row ∈ usage.rows, row.key = old.key
  counted : ∀ ownerId release slug event,
    usage.rows.countP (UsageRow.isOf ownerId release slug event) =
      tally (usage.all sha256) ownerId release slug event

variable {ownerId release slug : String} {event : UsageEvent} {row : UsageRow}
  {rows : List UsageRow}

theorem is_of_iff : row.isOf ownerId release slug event = true ↔
      row.ownerId = ownerId ∧ row.releaseId = release ∧ row.slug = slug ∧ row.event = event := by
  simp [UsageRow.isOf, and_assoc]

theorem tally_cons (own : row.isOf ownerId release slug event = true) :
    tally (row :: rows) ownerId release slug event = tally rows ownerId release slug event +
        if row.runId ≠ "" ∧ ∃ old ∈ rows, old.isOf ownerId release slug event = true ∧
          old.runId = row.runId then 0 else 1 := by
  have mem : row.runId ≠ "" → (row.runId ∈ ((rows.filter
      (UsageRow.isOf ownerId release slug event)).filter fun row => row.runId ≠ "").map
        UsageRow.runId ↔ ∃ old ∈ rows, old.isOf ownerId release slug event = true ∧
          old.runId = row.runId) := by
    intro named
    constructor
    · intro listed
      obtain ⟨old, found, same⟩ := mem_map.mp listed
      obtain ⟨known, isOf⟩ := mem_filter.mp (mem_of_mem_filter found)
      exact ⟨old, known, isOf, same⟩
    · rintro ⟨old, known, isOf, same⟩
      exact mem_map.mpr ⟨old, mem_filter.mpr ⟨mem_filter.mpr ⟨known, isOf⟩,
        by simpa [same] using named⟩, same⟩
  simp only [tally, filter_cons_of_pos own]
  by_cases named : row.runId = ""
  · rw [filter_cons_of_neg (by simp [named]), countP_cons_of_pos (by simp [named]),
      if_neg fun both => both.1 named]
    omega
  · rw [filter_cons_of_pos (by simp [named]), countP_cons_of_neg (by simp [named]), map_cons]
    by_cases old : ∃ old ∈ rows, old.isOf ownerId release slug event = true ∧ old.runId = row.runId
    · rw [dedup_cons_of_mem ((mem named).mpr old), if_pos ⟨named, old⟩]
      rfl
    · rw [dedup_cons_of_notMem fun listed => old ((mem named).mp listed),
        if_neg fun both => old both.2, length_cons]
      omega

theorem tally_cons_other (other : row.isOf ownerId release slug event = false) :
    tally (row :: rows) ownerId release slug event = tally rows ownerId release slug event := by
  simp only [tally, filter_cons_of_neg (Bool.eq_false_iff.mp other)]

theorem record_inv {usage : Usage} {call : UsageCall} (inv : usage.Inv sha256)
    (separate : Separate sha256 usage call) : (usage.record sha256 call).Inv sha256 := by
  by_cases counts : call.counts = true
  case neg =>
    have same : (usage.record sha256 call).all sha256 = usage.all sha256 := by
      simp [Usage.all, Usage.record, counts]
    have rows : (usage.record sha256 call).rows = usage.rows := if_neg counts
    constructor <;> rw [same, rows]
    · exact inv.known
    · exact inv.kept
    · exact inv.counted
  case pos =>
    have apart := separate counts
    have all : (usage.record sha256 call).all sha256 = call.row sha256 :: usage.all sha256 := by
      simp [Usage.all, Usage.record, counts]
    have rows : (usage.record sha256 call).rows =
        insertOrIgnore usage.rows (call.row sha256) := if_pos counts
    generalize call.row sha256 = row at *
    by_cases ignored : ∃ old ∈ usage.all sha256, old.key = row.key
    · -- an ignored event is one of a Run that has its row
      obtain ⟨old, listed, same⟩ := ignored
      obtain ⟨stored, present, key⟩ := inv.kept old listed
      have kept : insertOrIgnore usage.rows row = usage.rows := by
        refine if_pos (any_eq_true.mpr ⟨stored, present, ?_⟩)
        simp [key, same]
      constructor <;> rw [all, rows, kept]
      · exact fun row present => mem_cons_of_mem _ (inv.known row present)
      · intro other mem
        rcases mem_cons.mp mem with rfl | older
        · exact ⟨stored, present, key.trans same⟩
        · exact inv.kept other older
      · intro ownerId release slug event
        rw [inv.counted]
        cases own : row.isOf ownerId release slug event with
        | false => rw [tally_cons_other own]
        | true =>
          obtain ⟨sameOwner, sameRelease, sameRun, sameEvent⟩ :
              old.ownerId = row.ownerId ∧ old.releaseId = row.releaseId ∧
                old.runId = row.runId ∧ old.event = row.event := by
            simpa [UsageRow.key] using same
          have named := (apart old listed).2.1 same
          have slugs := (apart old listed).1 sameOwner sameRelease
          rw [tally_cons own, if_pos, Nat.add_zero]
          refine ⟨sameRun ▸ named, old, listed, ?_, sameRun⟩
          rw [is_of_iff] at own ⊢
          rwa [sameOwner, sameRelease, slugs, sameEvent]
    · have added : insertOrIgnore usage.rows row = usage.rows ++ [row] := by
        refine if_neg fun found => ?_
        obtain ⟨stored, present, same⟩ := any_eq_true.mp found
        have listed := inv.known stored present
        rw [Bool.or_eq_true, decide_eq_true_eq, decide_eq_true_eq] at same
        exact ignored ⟨stored, listed, same.elim (apart stored listed).2.2 id⟩
      constructor <;> rw [all, rows, added]
      · intro other present
        rcases mem_append.mp present with old | new
        · exact mem_cons_of_mem _ (inv.known other old)
        · rw [mem_singleton.mp new]
          exact mem_cons_self
      · intro other mem
        rcases mem_cons.mp mem with rfl | older
        · exact ⟨other, mem_append_right _ mem_cons_self, rfl⟩
        · obtain ⟨stored, present, key⟩ := inv.kept other older
          exact ⟨stored, mem_append_left _ present, key⟩
      · intro ownerId release slug event
        rw [countP_append, inv.counted]
        cases own : row.isOf ownerId release slug event with
        | false =>
          rw [tally_cons_other own, countP_cons_of_neg (by simp [own]), countP_nil]
          rfl
        | true =>
          rw [tally_cons own, countP_cons_of_pos own, countP_nil, if_neg]
          rintro ⟨-, old, listed, isOf, sameRun⟩
          rw [is_of_iff] at own isOf
          refine ignored ⟨old, listed, ?_⟩
          simp [UsageRow.key, own, isOf, sameRun]

/-- Where every event is separate, a counter has the events of the skill. -/
theorem counter_tally (sha256 : String → String) (usage : Usage)
    (reachable : (usageMachine sha256).Reachable (Separate sha256) usage) (ownerId : String)
    (skill : UsageItem)
    (unshared : ∀ row ∈ usage.all sha256, row.ownerId = ownerId →
      row.releaseId = skill.identity → row.slug = skill.slug) :
    ∀ event ∈ columns, counter usage.rows ownerId skill event =
      tally (usage.all sha256) ownerId skill.identity skill.slug event := by
  have inv : usage.Inv sha256 := by
    refine reachable_invariant (Usage.Inv sha256) ?_ ?_ reachable
    · rintro start ⟨rows, calls⟩
      constructor <;> simp [rows, calls, Usage.all, tally]
    · rintro state call next inv separate rfl
      exact record_inv inv separate
  intro event _
  rw [← inv.counted, counter]
  split
  · next none =>
    rw [lastSlug, getLast?_eq_none_iff] at none
    apply Eq.symm
    rw [countP_eq_zero]
    intro row mem own
    obtain ⟨sameOwner, sameRelease, -, -⟩ := is_of_iff.mp own
    have listed : row.slug ∈ ((usage.rows.filter fun row => decide (row.ownerId = ownerId) &&
        decide (row.releaseId = skill.identity)).map UsageRow.slug).mergeSort (· ≤ ·) :=
      mem_mergeSort.mpr (mem_map_of_mem (mem_filter.mpr ⟨mem, by simp [sameOwner, sameRelease]⟩))
    rw [none] at listed
    cases listed
  · next slug last =>
    obtain ⟨row, found, rfl⟩ := mem_map.mp (mem_mergeSort.mp (mem_of_getLast? last))
    obtain ⟨mem, own⟩ := mem_filter.mp found
    rw [Bool.and_eq_true, decide_eq_true_eq, decide_eq_true_eq] at own
    rw [unshared row (inv.known row mem) own.1 own.2]

end

def pdfSkill : UsageItem := ⟨"pdf", "pdf@1", ""⟩

def loadedInRun : UsageCall := ⟨.loaded, pdfSkill, "u1", "r1", 1⟩

def discoveredAt (clock : Nat) : UsageCall := ⟨.discovered, pdfSkill, "u1", "", clock⟩

def usageOf (calls : List UsageCall) : Usage := calls.foldl (Usage.record id) ⟨[], []⟩

theorem none_used {Guard : Usage → UsageCall → Prop} :
    (usageMachine id).Reachable Guard (usageOf []) := ⟨_, ⟨rfl, rfl⟩, .refl _⟩

/-- A skill that is loaded twice in a Run, and discovered in no Run. -/
theorem loads_counted :
    columns.map (counter (usageOf [loadedInRun, loadedInRun, discoveredAt 3]).rows "u1" pdfSkill) =
      columns.map (tally ((usageOf [loadedInRun, loadedInRun, discoveredAt 3]).all id) "u1"
        pdfSkill.identity pdfSkill.slug) := by
  have first : Separate id (usageOf []) loadedInRun := by
    unfold Separate
    decide +kernel
  have second : Separate id (usageOf [loadedInRun]) loadedInRun := by
    unfold Separate
    decide +kernel
  have third : Separate id (usageOf [loadedInRun, loadedInRun]) (discoveredAt 3) := by
    unfold Separate
    decide +kernel
  have reached := reachable_step (reachable_step (reachable_step none_used first rfl) second rfl)
    third rfl
  exact List.map_congr_left (counter_tally id _ reached "u1" pdfSkill (by decide +kernel))

theorem second_discovery_ignored :
    (usageMachine id).Reachable Anything (usageOf [discoveredAt 1, discoveredAt 2]) ∧
    .discovered ∈ columns ∧
    counter (usageOf [discoveredAt 1, discoveredAt 2]).rows "u1" pdfSkill .discovered = 1 ∧
    tally ((usageOf [discoveredAt 1, discoveredAt 2]).all id) "u1" pdfSkill.identity "pdf"
      .discovered = 2 := by
  refine ⟨?_, by decide, by decide +kernel, by decide +kernel⟩
  have first : (usageMachine id).Step (usageOf []) (discoveredAt 1) (usageOf [discoveredAt 1]) := rfl
  have second : (usageMachine id).Step (usageOf [discoveredAt 1]) (discoveredAt 2)
      (usageOf [discoveredAt 1, discoveredAt 2]) := rfl
  exact reachable_step (reachable_step none_used trivial first) trivial second

end AgentMate.SkillUsage
