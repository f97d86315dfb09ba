import AgentMate.RoundedDoubles
import AgentMate.RunStore
import Mathlib.Data.List.Induction
import Mathlib.Tactic.FieldSimp

/-!
# The burndown of a sprint

`sprint_burndown` of `routers/pm.py` reads the newest hundred rows of the activity log and takes
the day of the oldest completion among them for each task; a task without one that is done now is
taken to be done from its last update on. Numbers are exact before a point is rounded.
-/

namespace AgentMate.Burndown

open RoundedDoubles List

inductive TaskStatus where
  | todo
  | doing
  | paused
  | review
  | done
  deriving DecidableEq

def TaskStatus.text : TaskStatus → String
  | .todo => "todo"
  | .doing => "doing"
  | .paused => "paused"
  | .review => "review"
  | .done => "done"

/-- A row of `work_items`, as far as the chart reads it. -/
structure SprintTask where
  id : String
  sprintId : String
  status : TaskStatus
  estimateH : ℚ
  updatedAt : Time

/-- A row of `work_item_activity`. -/
structure Activity where
  workItemId : String
  kind : String
  detail : String
  createdAt : Time

/-- What a row logs: a change of status, or something of another kind. -/
inductive LogEntry where
  | status (workItemId : String) (old new : TaskStatus) (createdAt : Time)
  | other (workItemId kind detail : String) (createdAt : Time) (distinct : kind ≠ "status")

def LogEntry.row : LogEntry → Activity
  | .status workItemId old new createdAt =>
    ⟨workItemId, "status", old.text ++ "→" ++ new.text, createdAt⟩
  | .other workItemId kind detail createdAt _ => ⟨workItemId, kind, detail, createdAt⟩

/-- `datetime.fromtimestamp(.., timezone.utc).date()`, as days from the epoch. -/
def dateOf (time : Time) : Int := ⌊time / 86400⌋

def Activity.completes (row : Activity) (ids : List String) : Bool :=
  row.workItemId ∈ ids && row.kind = "status" && "→done".toList.isSuffixOf row.detail.toList

/-- The first loop: a later row of the listing replaces an earlier one. -/
def loggedCompletions (ids : List String) (rows : List Activity) : String → Option Int :=
  rows.foldl (fun completion row =>
    if row.completes ids then fun id => if id = row.workItemId then some (dateOf row.createdAt)
      else completion id
    else completion) fun _ => none

def completions (tasks : List SprintTask) (rows : List Activity) (task : SprintTask) : Option Int :=
  match loggedCompletions (tasks.map SprintTask.id) rows task.id with
  | some finished => some finished
  | none => if task.status = .done then some (dateOf task.updatedAt) else none

def SprintTask.weight (task : SprintTask) : ℚ := max 1 task.estimateH

/-- `round(value, 2)`. -/
def roundCents (value : ℚ) : ℚ := nearestEven (value * 100) / 100

structure ChartPoint where
  date : Int
  idealRemaining : ℚ
  actualRemaining : ℚ
  deriving DecidableEq

/-- `list_work_item_activity` of a project: of the rows in the order of the query, newest first,
the first hundred. -/
def listWorkItemActivity (newestFirst : List LogEntry) : List Activity :=
  (newestFirst.take 100).map LogEntry.row

def total (tasks : List SprintTask) : ℚ := (tasks.map SprintTask.weight).sum

def actualRemaining (tasks : List SprintTask) (rows : List Activity) (date : Int) : ℚ :=
  total tasks - total (tasks.filter fun task =>
    (completions tasks rows task).any fun finished => finished ≤ date)

def sprintBurndown (start finish : Int) (sprintId : String) (items : List SprintTask)
    (newestFirst : List LogEntry) : List ChartPoint :=
  let tasks := items.filter fun item => item.sprintId = sprintId
  let days := (finish - start).toNat + 1
  (List.range days).map fun (offset : Nat) =>
    { date := start + offset
      idealRemaining := roundCents (total tasks * (days - 1 - offset) / max 1 (days - 1 : ℚ))
      actualRemaining := roundCents (max 0
        (actualRemaining tasks (listWorkItemActivity newestFirst) (start + offset))) }

def LogEntry.createdAt : LogEntry → Time
  | .status _ _ _ createdAt => createdAt
  | .other _ _ _ createdAt _ => createdAt

def LogEntry.changeOf (id : String) : LogEntry → Option (TaskStatus × TaskStatus × Int)
  | .status workItemId old new createdAt =>
    if workItemId = id then some (old, new, dateOf createdAt) else none
  | .other .. => none

/-- The status at the end of a day: what the last change until then left, what the first change
found, or the status of a task without changes. -/
def statusAt (newestFirst : List LogEntry) (task : SprintTask) (date : Int) : TaskStatus :=
  let changes := newestFirst.filterMap (LogEntry.changeOf task.id)
  match changes.find? fun change => change.2.2 ≤ date with
  | some change => change.2.1
  | none => (changes.getLast?.map Prod.fst).getD task.status

def CompletedBy (entries : List LogEntry) (task : SprintTask) (date : Int) : Prop :=
  ∃ old createdAt, LogEntry.status task.id old .done createdAt ∈ entries ∧ dateOf createdAt ≤ date

/-- A task with a completion among the newest hundred rows is done from the day of the earliest of
these on and not before; one without is done from its last update on, if it is done now. -/
structure Steady (newestFirst : List LogEntry) (start finish : Int) (task : SprintTask) : Prop where
  seen : (∃ date, CompletedBy (newestFirst.take 100) task date) →
    ∀ date, start ≤ date → date ≤ finish →
      (statusAt newestFirst task date = .done ↔ CompletedBy (newestFirst.take 100) task date)
  unseen : (¬ ∃ date, CompletedBy (newestFirst.take 100) task date) →
    ∀ date, start ≤ date → date ≤ finish → (statusAt newestFirst task date = .done ↔
        task.status = .done ∧ dateOf task.updatedAt ≤ date)

section

variable {tasks : List SprintTask} {task : SprintTask} {newestFirst : List LogEntry}

theorem date_of_mono {first second : Time} (before : first ≤ second) :
    dateOf first ≤ dateOf second :=
  Int.floor_mono (div_le_div_of_nonneg_right before (by norm_num))

theorem arrow_done_iff (old new : TaskStatus) :
    "→done".toList.isSuffixOf (old.text ++ "→" ++ new.text).toList = true ↔ new = .done := by
  rw [isSuffixOf_iff_suffix, ← reverse_prefix]
  cases new <;> simp [TaskStatus.text, cons_prefix_cons]

theorem row_completes_iff {entry : LogEntry} {ids : List String} {id : String} (listed : id ∈ ids) :
    (entry.row.completes ids = true ∧ entry.row.workItemId = id) ↔
      ∃ old createdAt, entry = .status id old .done createdAt := by
  cases entry with
  | other workItemId kind detail createdAt distinct =>
    simp [LogEntry.row, Activity.completes, distinct]
  | status workItemId old new createdAt =>
    simp only [LogEntry.row, Activity.completes, decide_true, Bool.and_true, Bool.and_eq_true,
      arrow_done_iff, LogEntry.status.injEq]
    constructor
    · rintro ⟨⟨-, rfl⟩, rfl⟩
      exact ⟨old, createdAt, rfl, rfl, rfl, rfl⟩
    · rintro ⟨_, _, rfl, rfl, rfl, rfl⟩
      exact ⟨⟨decide_eq_true listed, rfl⟩, rfl⟩

theorem logged_snoc (ids : List String) (rows : List Activity) (row : Activity) (id : String) :
    loggedCompletions ids (rows ++ [row]) id =
      if row.completes ids = true ∧ row.workItemId = id then some (dateOf row.createdAt)
      else loggedCompletions ids rows id := by
  rw [loggedCompletions, foldl_append, foldl_cons, foldl_nil]
  by_cases completes : row.completes ids = true
  · by_cases same : id = row.workItemId
    · simp [completes, same]
    · simp [completes, same, Ne.symm same, loggedCompletions]
  · simp [completes, loggedCompletions]

theorem logged_completions_iff {ids : List String} (listed : task.id ∈ ids)
    {entries : List LogEntry}
    (sorted : entries.Pairwise fun first second => second.createdAt ≤ first.createdAt) :
    (loggedCompletions ids (entries.map LogEntry.row) task.id = none ↔
      ¬ ∃ date, CompletedBy entries task date) ∧
    ∀ date, (∃ finished, loggedCompletions ids (entries.map LogEntry.row) task.id = some finished ∧
      finished ≤ date) ↔ CompletedBy entries task date := by
  induction entries using List.reverseRecOn with
  | nil => simp [loggedCompletions, CompletedBy]
  | append_singleton entries entry ih =>
    obtain ⟨earlier, -, older⟩ := pairwise_append.mp sorted
    have step := ih earlier
    rw [map_append, map_singleton, logged_snoc]
    by_cases completes : entry.row.completes ids = true ∧ entry.row.workItemId = task.id
    · obtain ⟨old, createdAt, rfl⟩ := (row_completes_iff listed).mp completes
      have last : ∀ date, CompletedBy (entries ++ [.status task.id old .done createdAt]) task date ↔
          dateOf createdAt ≤ date := by
        intro date
        constructor
        · rintro ⟨other, time, mem, early⟩
          rcases mem_append.mp mem with before | same
          · exact (date_of_mono (older _ before _ mem_cons_self)).trans early
          · cases mem_singleton.mp same
            exact early
        · exact fun early => ⟨old, createdAt, by simp, early⟩
      rw [if_pos completes]
      refine ⟨by simpa [last] using ⟨dateOf createdAt, le_rfl⟩, ?_⟩
      intro date
      rw [last]
      simp [LogEntry.row]
    · have same : ∀ date, CompletedBy (entries ++ [entry]) task date ↔
          CompletedBy entries task date := by
        intro date
        constructor
        · rintro ⟨old, createdAt, mem, early⟩
          rcases mem_append.mp mem with before | last
          · exact ⟨old, createdAt, before, early⟩
          · rw [mem_singleton] at last
            exact absurd ((row_completes_iff listed).mpr ⟨old, createdAt, last.symm⟩) completes
        · rintro ⟨old, createdAt, mem, early⟩
          exact ⟨old, createdAt, mem_append_left _ mem, early⟩
      simp only [if_neg completes, same]
      exact step

theorem completions_iff (mem : task ∈ tasks)
    (sorted : newestFirst.Pairwise fun first second => second.createdAt ≤ first.createdAt)
    (date : Int) :
    ((completions tasks (listWorkItemActivity newestFirst) task).any
        fun finished => decide (finished ≤ date)) = true ↔
      CompletedBy (newestFirst.take 100) task date ∨
        ((¬ ∃ date, CompletedBy (newestFirst.take 100) task date) ∧
          task.status = .done ∧ dateOf task.updatedAt ≤ date) := by
  obtain ⟨absent, present⟩ := logged_completions_iff (mem_map_of_mem mem)
    (sorted.sublist (take_sublist 100 newestFirst))
  rw [completions, listWorkItemActivity, ← present date, ← absent]
  cases logged : loggedCompletions (tasks.map SprintTask.id)
      ((newestFirst.take 100).map LogEntry.row) task.id with
  | some finished => simp
  | none => by_cases done : task.status = .done <;> simp [done]

end

def estimated (estimate : String → ℚ) (items : List SprintTask) : List SprintTask :=
  items.map fun item => { item with estimateH := estimate item.id }

/-- The points show the weight of the tasks that were not done at the end of each day. -/
def ShowsRemaining (start finish : Int) (sprintId : String) (items : List SprintTask)
    (newestFirst : List LogEntry) : Prop :=
  ∀ point ∈ sprintBurndown start finish sprintId items newestFirst,
    point.actualRemaining = roundCents (total (items.filter fun item =>
      item.sprintId = sprintId && statusAt newestFirst item point.date ≠ .done))

section

variable {start finish : Int} {sprintId : String} {items tasks : List SprintTask}
  {newestFirst : List LogEntry}

theorem total_nonneg (tasks : List SprintTask) : 0 ≤ total tasks := by
  induction tasks with
  | nil => exact le_rfl
  | cons task rest ih =>
    rw [total, map_cons, sum_cons]
    exact add_nonneg (zero_le_one.trans (le_max_left 1 _)) ih

theorem total_sub_filter (chosen : SprintTask → Bool) :
    total tasks - total (tasks.filter chosen) = total (tasks.filter fun task => !chosen task) := by
  induction tasks with
  | nil => simp [total]
  | cons task rest ih =>
    simp only [total] at ih ⊢
    cases picked : chosen task with
    | false => simp [picked, ← ih, add_sub_assoc]
    | true => simp [picked, ← ih]

theorem total_marked (id : String) (extra : Nat) (unique : (tasks.map SprintTask.id).Nodup) :
    total (estimated (fun other => if other = id then 1 + extra else 1) tasks) =
      ((tasks.length + if id ∈ tasks.map SprintTask.id then extra else 0 : ℕ) : ℚ) := by
  induction tasks with
  | nil => simp [total, estimated]
  | cons task rest ih =>
    obtain ⟨apart, rest⟩ := nodup_cons.mp unique
    have later := ih rest
    simp only [total, estimated, map_cons, sum_cons] at later ⊢
    rw [later, SprintTask.weight]
    by_cases same : task.id = id
    · subst same
      rw [if_neg apart, if_pos rfl, if_pos mem_cons_self, max_eq_right (by simp)]
      push_cast [length_cons]
      ring
    · rw [if_neg same, max_self]
      simp only [mem_cons, Ne.symm same, false_or, length_cons]
      push_cast
      ring

theorem round_cents_nat (value : ℕ) : roundCents value = value := by
  have whole : (value : ℚ) * 100 = ((value * 100 : ℤ) : ℚ) := by push_cast; rfl
  rw [roundCents, whole, nearest_even_int]
  push_cast
  field_simp

theorem burndown_point_iff {point : ChartPoint} (order : start ≤ finish)
    (chart : point ∈ sprintBurndown start finish sprintId items newestFirst) :
    start ≤ point.date ∧ point.date ≤ finish ∧ point.actualRemaining = roundCents (max 0
      (actualRemaining (items.filter fun item => item.sprintId = sprintId)
        (listWorkItemActivity newestFirst) point.date)) := by
  obtain ⟨offset, inside, rfl⟩ := mem_map.mp chart
  rw [mem_range] at inside
  exact ⟨by dsimp only; omega, by dsimp only; omega, rfl⟩

theorem burndown_has_point (sprintId : String) (items : List SprintTask)
    (newestFirst : List LogEntry) {date : Int} (first : start ≤ date) (last : date ≤ finish) :
    ∃ point ∈ sprintBurndown start finish sprintId items newestFirst, point.date = date := by
  refine ⟨_, mem_map.mpr ⟨(date - start).toNat, mem_range.mpr ?_, rfl⟩, ?_⟩
  · omega
  · dsimp only
    omega

theorem point_shows {point : ChartPoint} (order : start ≤ finish)
    (chart : point ∈ sprintBurndown start finish sprintId items newestFirst) :
    point.actualRemaining = roundCents (total ((items.filter fun item =>
      item.sprintId = sprintId).filter fun task => !(completions
        (items.filter fun item => item.sprintId = sprintId) (listWorkItemActivity newestFirst)
          task).any fun finished => decide (finished ≤ point.date))) := by
  rw [(burndown_point_iff order chart).2.2, actualRemaining, total_sub_filter,
    max_eq_right (total_nonneg _)]

theorem chosen_of_totals {left right : SprintTask → Bool} (unique : (tasks.map SprintTask.id).Nodup)
    (same : ∀ estimate, roundCents (total (estimated estimate (tasks.filter left))) =
      roundCents (total (estimated estimate (tasks.filter right)))) :
    ∀ task ∈ tasks, left task = right task := by
  intro task mem
  have marked : ∀ chosen : SprintTask → Bool,
      (task.id ∈ (tasks.filter chosen).map SprintTask.id ↔ chosen task = true) := by
    intro chosen
    constructor
    · intro listed
      obtain ⟨other, found, equal⟩ := mem_map.mp listed
      obtain ⟨stored, picked⟩ := mem_filter.mp found
      rwa [inj_on_of_nodup_map unique stored mem equal] at picked
    · exact fun picked => mem_map_of_mem (mem_filter.mpr ⟨mem, picked⟩)
  have sums : ∀ extra : Nat, (tasks.filter left).length + (if left task = true then extra else 0) =
        (tasks.filter right).length + (if right task = true then extra else 0) := by
    intro extra
    have both := same fun other => if other = task.id then 1 + extra else 1
    have sublist := fun chosen : SprintTask → Bool =>
      unique.sublist ((filter_sublist (p := chosen)).map SprintTask.id)
    rw [total_marked _ _ (sublist left), total_marked _ _ (sublist right), round_cents_nat,
      round_cents_nat] at both
    simpa only [marked] using Nat.cast_injective both
  have none := sums 0
  have one := sums 1
  cases first : left task <;> cases second : right task <;> simp [first, second] at none one ⊢ <;>
    omega

theorem estimated_filter {estimate : String → ℚ} {chosen plain : SprintTask → Bool}
    (same : ∀ task, chosen { task with estimateH := estimate task.id } = plain task) :
    (estimated estimate tasks).filter chosen = estimated estimate (tasks.filter plain) := by
  rw [estimated, filter_map, estimated]
  exact congrArg _ (filter_congr fun task _ => same task)

theorem completions_estimated (estimate : String → ℚ) (rows : List Activity) (task : SprintTask) :
    completions (estimated estimate tasks) rows { task with estimateH := estimate task.id } =
      completions tasks rows task := by
  have ids : (estimated estimate tasks).map SprintTask.id = tasks.map SprintTask.id := by
    rw [estimated, map_map]
    rfl
  rw [completions, completions, ids]

theorem shows_remaining_iff (order : start ≤ finish) (unique : (items.map SprintTask.id).Nodup) :
    (∀ estimate, ShowsRemaining start finish sprintId (estimated estimate items) newestFirst) ↔
      ∀ date, start ≤ date → date ≤ finish → ∀ task ∈ items.filter fun item =>
        item.sprintId = sprintId,
        (!(completions (items.filter fun item => item.sprintId = sprintId)
            (listWorkItemActivity newestFirst) task).any fun finished => decide (finished ≤ date)) =
          decide (statusAt newestFirst task date ≠ .done) := by
  have sprint (estimate : String → ℚ) : ((estimated estimate items).filter fun item =>
      item.sprintId = sprintId) = estimated estimate (items.filter fun item =>
        item.sprintId = sprintId) := estimated_filter fun _ => rfl
  have shown (estimate : String → ℚ) {point : ChartPoint} (chart : point ∈ sprintBurndown start
      finish sprintId (estimated estimate items) newestFirst) := by
    have shows := point_shows order chart
    rw [sprint, estimated_filter fun task => by rw [completions_estimated]] at shows
    exact shows
  have remaining (estimate : String → ℚ) (date : Int) : ((estimated estimate items).filter fun item =>
      item.sprintId = sprintId && statusAt newestFirst item date ≠ .done) =
        estimated estimate ((items.filter fun item => item.sprintId = sprintId).filter fun item =>
          statusAt newestFirst item date ≠ .done) := by
    rw [filter_filter]
    exact estimated_filter fun task => Bool.and_comm _ _
  constructor
  · intro shows date first last
    apply chosen_of_totals (unique.sublist (filter_sublist.map SprintTask.id))
    intro estimate
    obtain ⟨point, chart, rfl⟩ := burndown_has_point sprintId (estimated estimate items)
      newestFirst first last
    rw [← shown estimate chart, ← remaining]
    exact shows estimate point chart
  · intro right estimate point chart
    obtain ⟨first, last, -⟩ := burndown_point_iff order chart
    rw [shown estimate chart, remaining, filter_congr (right point.date first last)]

theorem steady_iff {task : SprintTask} (mem : task ∈ tasks)
    (sorted : newestFirst.Pairwise fun first second => second.createdAt ≤ first.createdAt) :
    (∀ date, start ≤ date → date ≤ finish →
      (!(completions tasks (listWorkItemActivity newestFirst) task).any
          fun finished => decide (finished ≤ date)) =
        decide (statusAt newestFirst task date ≠ .done)) ↔ Steady newestFirst start finish task := by
  have each : ∀ date, ((!(completions tasks (listWorkItemActivity newestFirst) task).any
          fun finished => decide (finished ≤ date)) =
        decide (statusAt newestFirst task date ≠ .done)) ↔
      (statusAt newestFirst task date = .done ↔ CompletedBy (newestFirst.take 100) task date ∨
          ((¬ ∃ date, CompletedBy (newestFirst.take 100) task date) ∧
            task.status = .done ∧ dateOf task.updatedAt ≤ date)) := by
    intro date
    rw [← completions_iff mem sorted date, Bool.eq_iff_iff, Bool.not_eq_true',
      decide_eq_true_iff, ← Bool.not_eq_true, not_iff_not]
    exact iff_comm
  simp only [each]
  by_cases seen : ∃ date, CompletedBy (newestFirst.take 100) task date
  · simp only [seen, not_true_eq_false, false_and, or_false]
    exact ⟨fun all => ⟨fun _ => all, fun unseen => absurd seen unseen⟩, fun steady => steady.seen seen⟩
  · have none : ∀ date, CompletedBy (newestFirst.take 100) task date ↔ False :=
      fun date => iff_of_false (fun early => seen ⟨date, early⟩) not_false
    simp only [none, exists_false, not_false_eq_true, true_and, false_or]
    exact ⟨fun all => ⟨fun found => absurd found seen, fun _ => all⟩, fun steady => steady.unseen seen⟩

end

/-- The chart shows what remained, for all estimates, exactly when the history of each task of the
sprint is steady. -/
theorem burndown_shows_remaining {start finish : Int} (order : start ≤ finish) (sprintId : String)
    {items : List SprintTask} (unique : (items.map SprintTask.id).Nodup)
    {newestFirst : List LogEntry}
    (sorted : newestFirst.Pairwise fun first second => second.createdAt ≤ first.createdAt) :
    (∀ estimate, ShowsRemaining start finish sprintId (estimated estimate items) newestFirst) ↔
      ∀ item ∈ items, item.sprintId = sprintId → Steady newestFirst start finish item := by
  rw [shows_remaining_iff order unique]
  constructor
  · intro right item mem inside
    have listed : item ∈ items.filter fun item => item.sprintId = sprintId :=
      mem_filter.mpr ⟨mem, decide_eq_true inside⟩
    exact (steady_iff listed sorted).mp fun date first last => right date first last item listed
  · intro steady date first last task listed
    obtain ⟨mem, inside⟩ := mem_filter.mp listed
    exact (steady_iff listed sorted).mpr (steady task mem (of_decide_eq_true inside)) date first
      last

def sprintTask (status : TaskStatus) : SprintTask := ⟨"task", "sprint", status, 0, 200000⟩

def completedOnce : List LogEntry := [.status "task" .doing .done 90000]

def reopened : List LogEntry :=
  [.status "task" .done .todo 180000, .status "task" .doing .done 90000]

theorem completed_once_shown :
    ShowsRemaining 0 2 "sprint" (estimated (fun _ => 3) [sprintTask .done]) completedOnce := by
  have second : dateOf 90000 = 1 := by decide +kernel
  have completed : ∀ date, CompletedBy (completedOnce.take 100) (sprintTask .done) date ↔
      1 ≤ date := by
    intro date
    simp [CompletedBy, completedOnce, sprintTask, ← second]
  have status : ∀ date, statusAt completedOnce (sprintTask .done) date = .done ↔ 1 ≤ date := by
    intro date
    by_cases late : 1 ≤ date <;>
      simp [statusAt, completedOnce, sprintTask, LogEntry.changeOf, second, late]
  apply (burndown_shows_remaining (by decide) "sprint" (by simp) (by simp [completedOnce])).mpr
  intro item mem _
  rw [mem_singleton.mp mem]
  refine ⟨fun _ date _ _ => by rw [status, completed], ?_⟩
  exact fun unseen => absurd ⟨1, (completed 1).mpr le_rfl⟩ unseen

theorem reopened_not_shown :
    ¬ ShowsRemaining 0 2 "sprint" (estimated (fun _ => 3) [sprintTask .todo]) reopened := by
  unfold ShowsRemaining
  decide +kernel

end AgentMate.Burndown
