import AgentMate.FairRuns
import AgentMate.LocalFireStore

/-! # The skip policy of local automations -/

namespace AgentMate.LocalFires

open Table Interleaving TransitionSystem List Option

/-- A waiting fire has an attempt left, a running one is at most at its last. -/
structure AutomationFire.InBudget (fire : AutomationFire) : Prop where
  waiting : fire.status.isWaiting = true → fire.attempt < fire.maxAttempts
  running : fire.status = .running → fire.attempt ≤ fire.maxAttempts

def AutomationFire.rank (fire : AutomationFire) : Nat :=
  match fire.status with
  | .queued | .retryWait => 2 * (fire.maxAttempts - fire.attempt)
  | .running => 2 * (fire.maxAttempts - fire.attempt) + 1
  | _ => 0

/-- How a row may change; only the claimed fire starts an attempt. -/
structure AutomationFire.Follows (claimer : Option String) (old row : AutomationFire) : Prop where
  automation : row.automationId = old.automationId
  maxAttempts : row.maxAttempts = old.maxAttempts
  final : old.status.isTerminal = true →
    row.status = old.status ∨ old.status = .deadLetter ∧ row.status = .ignored
  attempt : claimer ≠ some old.id → row.attempt = old.attempt
  budget : old.InBudget → row.InBudget
  rank : old.InBudget → row.rank ≤ old.rank

theorem terminal_iff {status : FireStatus} :
    status.isTerminal = true ↔ status.isActive = false := by
  cases status <;> simp [FireStatus.isTerminal, FireStatus.isActive]

variable {row old : AutomationFire}

theorem follows_active {claimer : Option String} (follows : old.Follows claimer row)
    (active : row.status.isActive = true) :
    old.status.isActive = true := by
  by_contra ended
  have terminal : old.status.isTerminal = true := terminal_iff.mpr (by simpa using ended)
  rcases follows.final terminal with same | ⟨-, ignored⟩
  · rw [same, terminal_iff.mp terminal] at active
    cases active
  · rw [ignored] at active
    cases active

theorem follows_refl (claimer : Option String) (fire : AutomationFire) :
    fire.Follows claimer fire :=
  ⟨rfl, rfl, fun _ => .inl rfl, fun _ => rfl, id, fun _ => le_rfl⟩

theorem follows_trans {claimer : Option String} {between : AutomationFire}
    (same : between.id = old.id) (first : old.Follows claimer between)
    (second : between.Follows claimer row) : old.Follows claimer row := by
  constructor
  · exact second.automation.trans first.automation
  · exact second.maxAttempts.trans first.maxAttempts
  · intro terminal
    rcases first.final terminal with kept | ⟨dead, ignored⟩
    · rcases second.final (kept ▸ terminal) with still | ⟨dead, ignored⟩
      · exact .inl (still.trans kept)
      · exact .inr ⟨kept ▸ dead, ignored⟩
    · rcases second.final (by rw [ignored]; rfl) with still | ⟨other, -⟩
      · exact .inr ⟨dead, still.trans ignored⟩
      · rw [ignored] at other
        cases other
  · intro other
    exact (second.attempt (same ▸ other)).trans (first.attempt other)
  · exact fun budget => second.budget (first.budget budget)
  · exact fun budget => (second.rank (first.budget budget)).trans (first.rank budget)

theorem follows_weaken (claimer : Option String) (follows : old.Follows none row) :
    old.Follows claimer row :=
  { follows with attempt := fun _ => follows.attempt (by simp) }

theorem same_follows (automation : row.automationId = old.automationId)
    (status : row.status = old.status) (attempt : row.attempt = old.attempt)
    (maxAttempts : row.maxAttempts = old.maxAttempts) : old.Follows none row := by
  constructor
  · exact automation
  · exact maxAttempts
  · exact fun _ => .inl status
  · exact fun _ => attempt
  · intro budget
    constructor
    · rw [status, attempt, maxAttempts]
      exact budget.waiting
    · rw [status, attempt, maxAttempts]
      exact budget.running
  · intro _
    simp only [AutomationFire.rank, status, attempt, maxAttempts, le_refl]

theorem ended_follows (automation : row.automationId = old.automationId)
    (active : old.status.isActive = true) (terminal : row.status.isTerminal = true)
    (attempt : row.attempt = old.attempt) (maxAttempts : row.maxAttempts = old.maxAttempts) :
    old.Follows none row := by
  constructor
  · exact automation
  · exact maxAttempts
  · intro ended
    rw [terminal_iff.mp ended] at active
    cases active
  · exact fun _ => attempt
  · intro _
    constructor
    · intro waiting
      cases found : row.status <;> simp_all [FireStatus.isWaiting, FireStatus.isTerminal,
        FireStatus.isActive]
    · intro running
      rw [running] at terminal
      cases terminal
  · intro _
    cases found : row.status <;> simp_all [AutomationFire.rank, FireStatus.isTerminal,
      FireStatus.isActive]

theorem ended_rank (terminal : row.status.isTerminal = true) : row.rank = 0 := by
  cases found : row.status <;> simp_all [AutomationFire.rank, FireStatus.isTerminal,
    FireStatus.isActive]

theorem active_rank (budget : row.InBudget) (active : row.status.isActive = true) :
    0 < row.rank := by
  cases found : row.status with
  | queued =>
    have left := budget.waiting (by rw [found]; rfl)
    simp only [AutomationFire.rank, found]
    omega
  | running =>
    simp only [AutomationFire.rank, found]
    omega
  | retryWait =>
    have left := budget.waiting (by rw [found]; rfl)
    simp only [AutomationFire.rank, found]
    omega
  | succeeded | deadLetter | ignored =>
    rw [found] at active
    cases active

theorem retried_follows (automation : row.automationId = old.automationId)
    (running : old.status = .running) (retry : row.status = .retryWait)
    (attempt : row.attempt = old.attempt) (maxAttempts : row.maxAttempts = old.maxAttempts)
    (left : old.attempt < old.maxAttempts) :
    old.Follows none row ∧ row.rank < old.rank := by
  have lower : row.rank < old.rank := by
    simp only [AutomationFire.rank, retry, running, attempt, maxAttempts]
    omega
  refine ⟨⟨automation, maxAttempts, ?_, fun _ => attempt, ?_, fun _ => lower.le⟩, lower⟩
  · intro ended
    rw [running] at ended
    cases ended
  · intro _
    constructor
    · intro _
      rw [attempt, maxAttempts]
      exact left
    · rw [retry]
      intro other
      cases other

theorem claimed_follows (now : Time) (waiting : old.status.isWaiting = true) :
    old.Follows (some old.id) (old.claimed now) := by
  constructor
  · rfl
  · rfl
  · intro ended
    cases found : old.status <;> simp_all [FireStatus.isWaiting, FireStatus.isTerminal,
      FireStatus.isActive]
  · exact fun other => absurd rfl other
  · intro budget
    have left := budget.waiting waiting
    constructor
    · intro other
      cases other
    · exact fun _ => left
  · intro budget
    have left := budget.waiting waiting
    cases found : old.status <;>
      simp_all [AutomationFire.rank, AutomationFire.claimed, FireStatus.isWaiting] <;> omega

theorem claimed_rank (now : Time) (budget : old.InBudget) (waiting : old.status.isWaiting = true) :
    (old.claimed now).rank < old.rank := by
  have left := budget.waiting waiting
  cases found : old.status <;>
    simp_all [AutomationFire.rank, AutomationFire.claimed, FireStatus.isWaiting] <;> omega

/-- Every row follows from a row with its id, or has an id that was not drawn before. -/
structure FireStore.Evolves (claimer : Option String) (store next : FireStore) : Prop where
  rows : ∀ row ∈ next.fires,
    (∃ old ∈ store.fires, row.id = old.id ∧ old.Follows claimer row) ∨ row.id ∉ store.issued
  issued : ∀ id ∈ store.issued, id ∈ next.issued

structure FireStore.Agrees (store : FireStore) (fire : AutomationFire) : Prop where
  issued : fire.id ∈ store.issued
  row : ∀ row ∈ store.fires, row.id = fire.id →
    row.attempt = fire.attempt ∧ row.maxAttempts = fire.maxAttempts

structure FireStore.Sound (store : FireStore) : Prop where
  ids : UniqueKey AutomationFire.id store.fires
  issued : ∀ fire ∈ store.fires, fire.id ∈ store.issued
  budget : ∀ fire ∈ store.fires, fire.InBudget
  policies : ∀ auto ∈ store.automations, auto.concurrencyPolicy = "skip"
  running : UniqueKey LiveFire.fireId store.running
  driving : ∀ live ∈ store.running, ∀ auto fire sessionId,
    live.phase = .driving auto fire sessionId → live.fireId = fire.id ∧ store.Agrees fire

def FireStore.Exclusive (store : FireStore) : Prop :=
  ∀ left ∈ store.fires, ∀ right ∈ store.fires, left.status.isActive = true →
    right.status.isActive = true → left.automationId = right.automationId → left = right

structure FireStore.Moves (claimer : Option String) (store next : FireStore) : Prop where
  sound : next.Sound
  evolves : store.Evolves claimer next
  exclusive : store.Exclusive → next.Exclusive

section

variable {claimer : Option String} {store between next : FireStore} {fire : AutomationFire}

theorem evolves_refl (claimer : Option String) (store : FireStore) : store.Evolves claimer store :=
  ⟨fun row mem => .inl ⟨row, mem, rfl, follows_refl claimer row⟩, fun _ => id⟩

theorem evolves_trans (first : store.Evolves claimer between)
    (second : between.Evolves claimer next) : store.Evolves claimer next := by
  constructor
  · intro row mem
    rcases second.rows row mem with ⟨middle, middleMem, same, follows⟩ | new
    · rcases first.rows middle middleMem with ⟨old, oldMem, still, before⟩ | new
      · exact .inl ⟨old, oldMem, same.trans still, follows_trans still before follows⟩
      · exact .inr (same ▸ new)
    · exact .inr fun listed => new (first.issued row.id listed)
  · exact fun id listed => second.issued id (first.issued id listed)

theorem evolves_weaken (claimer : Option String) (evolves : store.Evolves none next) :
    store.Evolves claimer next := by
  constructor
  · intro row mem
    exact (evolves.rows row mem).imp
      (fun ⟨old, oldMem, same, follows⟩ => ⟨old, oldMem, same, follows_weaken claimer follows⟩)
      id
  · exact evolves.issued

theorem agrees_evolves (evolves : store.Evolves claimer next) (other : claimer ≠ some fire.id)
    (agrees : store.Agrees fire) : next.Agrees fire := by
  constructor
  · exact evolves.issued fire.id agrees.issued
  · intro row mem same
    rcases evolves.rows row mem with ⟨old, oldMem, still, follows⟩ | new
    · have oldSame : old.id = fire.id := still.symm.trans same
      obtain ⟨attempt, maxAttempts⟩ := agrees.row old oldMem oldSame
      exact ⟨(follows.attempt (oldSame ▸ other)).trans attempt,
        follows.maxAttempts.trans maxAttempts⟩
    · exact absurd (same ▸ agrees.issued) new

theorem agrees_self (sound : store.Sound) (mem : fire ∈ store.fires) : store.Agrees fire := by
  constructor
  · exact sound.issued fire mem
  · intro row rowMem same
    rw [unique_key_eq sound.ids rowMem mem same]
    exact ⟨rfl, rfl⟩

theorem moves_refl (claimer : Option String) (sound : store.Sound) : store.Moves claimer store :=
  ⟨sound, evolves_refl claimer store, id⟩

theorem moves_trans (first : store.Moves claimer between) (second : between.Moves claimer next) :
    store.Moves claimer next :=
  ⟨second.sound, evolves_trans first.evolves second.evolves,
    fun exclusive => second.exclusive (first.exclusive exclusive)⟩

theorem moves_weaken (claimer : Option String) (moves : store.Moves none next) :
    store.Moves claimer next :=
  ⟨moves.sound, evolves_weaken claimer moves.evolves, moves.exclusive⟩

theorem exclusive_evolves (ids : UniqueKey AutomationFire.id next.fires)
    (evolves : store.Evolves claimer next)
    (quiet : ∀ row ∈ next.fires, row.id ∉ store.issued → row.status.isActive = false)
    (exclusive : store.Exclusive) : next.Exclusive := by
  have before : ∀ row ∈ next.fires, row.status.isActive = true →
      ∃ old ∈ store.fires, row.id = old.id ∧ old.Follows claimer row := by
    intro row mem active
    rcases evolves.rows row mem with old | new
    · exact old
    · rw [quiet row mem new] at active
      cases active
  intro left leftMem right rightMem leftActive rightActive same
  obtain ⟨first, firstMem, firstId, firstFollows⟩ := before left leftMem leftActive
  obtain ⟨second, secondMem, secondId, secondFollows⟩ := before right rightMem rightActive
  have one : first = second := exclusive first firstMem second secondMem
    (follows_active firstFollows leftActive) (follows_active secondFollows rightActive)
    (firstFollows.automation.symm.trans (same.trans secondFollows.automation))
  exact unique_key_eq ids leftMem rightMem (firstId.trans (one ▸ secondId.symm))

theorem moves_rows (sound : store.Sound) (ids : UniqueKey AutomationFire.id next.fires)
    (rows : ∀ row ∈ next.fires, ∃ old ∈ store.fires, row.id = old.id ∧ old.Follows claimer row)
    (policies : ∀ auto ∈ next.automations, auto.concurrencyPolicy = "skip")
    (issued : next.issued = store.issued) (running : next.running = store.running)
    (others : ∀ live ∈ store.running, live.phase ≠ .waiting → claimer ≠ some live.fireId) :
    store.Moves claimer next := by
  have evolves : store.Evolves claimer next :=
    ⟨fun row mem => .inl (rows row mem), fun id listed => issued ▸ listed⟩
  refine ⟨⟨ids, ?_, ?_, policies, running ▸ sound.running, ?_⟩, evolves, ?_⟩
  · intro row mem
    obtain ⟨old, oldMem, same, -⟩ := rows row mem
    rw [issued, same]
    exact sound.issued old oldMem
  · intro row mem
    obtain ⟨old, oldMem, -, follows⟩ := rows row mem
    exact follows.budget (sound.budget old oldMem)
  · intro live mem auto fire sessionId phase
    rw [running] at mem
    obtain ⟨same, agrees⟩ := sound.driving live mem auto fire sessionId phase
    have other := others live mem (by rw [phase]; intro waiting; cases waiting)
    exact ⟨same, agrees_evolves evolves (same ▸ other) agrees⟩
  · intro exclusive
    apply exclusive_evolves ids evolves _ exclusive
    intro row mem new
    obtain ⟨old, oldMem, same, -⟩ := rows row mem
    exact absurd (same ▸ sound.issued old oldMem) new

variable {assign : AutomationFire → AutomationFire}

theorem moves_update {chosen : AutomationFire → Prop} [DecidablePred chosen] (sound : store.Sound)
    (same : ∀ row, (assign row).id = row.id)
    (assigned : ∀ row ∈ store.fires, chosen row → row.Follows claimer (assign row))
    (others : ∀ live ∈ store.running, live.phase ≠ .waiting → claimer ≠ some live.fireId) :
    store.Moves claimer { store with fires := updateWhere chosen assign store.fires } := by
  refine moves_rows sound (unique_key_update same sound.ids) ?_ sound.policies rfl rfl others
  exact (rewritten_update same (follows_refl claimer) assigned).rows

theorem update_fire_moves {allowed : FireStatus → Bool} {fireId : String} (sound : store.Sound)
    (same : ∀ row, (assign row).id = row.id)
    (assigned : ∀ row ∈ store.fires, row.id = fireId → allowed row.status = true →
      row.Follows none (assign row)) :
    store.Moves none (store.updateFire fireId allowed assign) :=
  moves_update sound same (fun row mem choice => assigned row mem choice.1 choice.2) (by simp)

theorem moves_beside (sound : store.Sound) (fires : next.fires = store.fires)
    (policies : ∀ auto ∈ next.automations, auto.concurrencyPolicy = "skip")
    (issued : next.issued = store.issued) (running : next.running = store.running) :
    store.Moves none next := by
  apply moves_rows sound _ _ policies issued running (by simp)
  · rw [fires]
    exact sound.ids
  · rw [fires]
    exact fun row mem => ⟨row, mem, rfl, follows_refl none row⟩

theorem mark_automation_moves (sound : store.Sound) (autoId : String) (mark : AutomationMark) :
    store.Moves none (store.markAutomationRun autoId mark) := by
  refine moves_beside sound rfl ?_ rfl rfl
  intro auto mem
  obtain ⟨old, oldMem, rfl⟩ := mem_update_where.mp mem
  split
  · exact sound.policies old oldMem
  · exact sound.policies old oldMem

theorem mark_session_moves (sound : store.Sound) (sessionId runStatus : String)
    (runSummary : Option String) (now : Time) :
    store.Moves none (store.markSessionRun sessionId runStatus runSummary now) :=
  moves_beside sound rfl sound.policies rfl rfl

theorem create_session_moves (sound : store.Sound) (auto : Automation) (kind : String)
    (draw : FireDraw) : store.Moves none (store.createSession auto kind draw) :=
  moves_beside sound rfl sound.policies rfl rfl

theorem fail_run_moves (sound : store.Sound) (runId errorCode errorMessage : String) :
    store.Moves none (store.failRun runId errorCode errorMessage) :=
  moves_beside sound rfl sound.policies rfl rfl

end

def FireStore.Lowers (store next : FireStore) (fireId : String) : Prop :=
  ∀ old ∈ store.fires, old.id = fireId → ∀ row ∈ next.fires, row.id = fireId → row.rank < old.rank

section

variable {claimer : Option String} {store between next : FireStore} {fireId : String}

theorem evolves_rank (sound : store.Sound) (evolves : store.Evolves claimer next)
    (oldMem : old ∈ store.fires) (mem : row ∈ next.fires)
    (same : row.id = old.id) : row.rank ≤ old.rank := by
  rcases evolves.rows row mem with ⟨source, sourceMem, still, follows⟩ | new
  · rw [unique_key_eq sound.ids oldMem sourceMem (same.symm.trans still)]
    exact follows.rank (sound.budget source sourceMem)
  · exact absurd (same ▸ sound.issued old oldMem) new

theorem lowers_evolves (lowers : store.Lowers between fireId) (sound : between.Sound)
    (issued : fireId ∈ between.issued) (evolves : between.Evolves claimer next) :
    store.Lowers next fireId := by
  intro old oldMem same row mem rowId
  rcases evolves.rows row mem with ⟨middle, middleMem, still, -⟩ | new
  · have lower := lowers old oldMem same middle middleMem (still.symm.trans rowId)
    exact (evolves_rank sound evolves middleMem mem still).trans_lt lower
  · exact absurd (rowId ▸ issued) new

theorem evolves_lowers (sound : store.Sound) (evolves : store.Evolves claimer between)
    (issued : fireId ∈ between.issued) (later : between.Evolves none next)
    (lowers : between.Lowers next fireId) : store.Lowers next fireId := by
  intro old oldMem same row mem rowId
  rcases later.rows row mem with ⟨middle, middleMem, still, -⟩ | new
  · have middleId : middle.id = fireId := still.symm.trans rowId
    have lower := lowers middle middleMem middleId row mem rowId
    exact lower.trans_le (evolves_rank sound evolves oldMem middleMem (middleId.trans same.symm))
  · exact absurd (rowId ▸ issued) new

theorem update_fire_lowers {allowed : FireStatus → Bool}
    {assign : AutomationFire → AutomationFire} (sound : store.Sound)
    (mem : row ∈ store.fires) (same : row.id = fireId)
    (keeps : ∀ other, (assign other).id = other.id) (choice : allowed row.status = true)
    (lower : (assign row).rank < row.rank) :
    store.Lowers (store.updateFire fireId allowed assign) fireId := by
  intro old oldMem oldId after afterMem afterId
  obtain ⟨source, sourceMem, rfl⟩ := mem_update_where.mp afterMem
  have sourceId : source.id = fireId := by
    split at afterId
    · exact (keeps source).symm.trans afterId
    · exact afterId
  have one : source = row :=
    unique_key_eq sound.ids sourceMem mem (sourceId.trans same.symm)
  have other : old = row := unique_key_eq sound.ids oldMem mem (oldId.trans same.symm)
  rw [one, other, if_pos ⟨same, choice⟩]
  exact lower

end

section

variable {store next : FireStore} {fire : AutomationFire}

theorem ending_terminal (ending : FireEnd) : ending.status.isTerminal = true := by
  cases ending <;> rfl

variable {fireId : String} {ending : FireEnd} {report : AttemptReport}
  {retryOfRunId : Option String} {now : Time} {rows : List AutomationFire}

theorem finish_moves (sound : store.Sound)
    (finished : store.finishFire fireId ending report retryOfRunId now = some next) :
    store.Moves none next ∧ ∀ row ∈ store.fires, row.id = fireId → row.status.isActive = true →
      store.Lowers next fireId := by
  rw [FireStore.finishFire] at finished
  split at finished
  · cases finished
    constructor
    · refine update_fire_moves sound (fun _ => rfl) ?_
      exact fun row _ _ active => ended_follows rfl active (ending_terminal ending) rfl rfl
    · intro row mem same active
      refine update_fire_lowers sound mem same (fun _ => rfl) active ?_
      rw [ended_rank (ending_terminal ending)]
      exact active_rank (sound.budget row mem) active
  · next absent =>
    obtain ⟨-, same⟩ := ite_none_right_eq_some.mp finished
    cases same
    refine ⟨moves_refl none sound, fun row mem same active => ?_⟩
    exact absurd (List.any_eq_true.mpr ⟨row, mem, by simp [same, active]⟩) absent

theorem finish_ends
    (finished : store.finishFire fireId ending report retryOfRunId now = some next) :
    ∀ row ∈ next.fires, row.id = fireId → row.status.isActive = false := by
  rw [FireStore.finishFire] at finished
  split at finished
  · cases finished
    intro row mem same
    obtain ⟨source, sourceMem, rfl⟩ := mem_update_where.mp mem
    split
    · exact terminal_iff.mp (ending_terminal ending)
    · next other =>
      rw [if_neg other] at same
      simpa [same] using other
  · next absent =>
    obtain ⟨-, result⟩ := ite_none_right_eq_some.mp finished
    cases result
    intro row mem same
    have idle := List.any_eq_false.mp (Bool.eq_false_iff.mpr absent) row mem
    simpa [same] using idle

theorem finish_issued
    (finished : store.finishFire fireId ending report retryOfRunId now = some next) :
    next.issued = store.issued := by
  rw [FireStore.finishFire] at finished
  split at finished
  · cases finished
    rfl
  · obtain ⟨-, result⟩ := ite_none_right_eq_some.mp finished
    cases result
    rfl

theorem retry_moves {nextAttemptAt : Time} (sound : store.Sound) (agrees : store.Agrees fire)
    (left : fire.attempt < fire.maxAttempts)
    (scheduled : store.scheduleRetry fire.id report nextAttemptAt now = some next) :
    store.Moves none next ∧ ∀ row ∈ store.fires, row.id = fire.id → row.status = .running →
      store.Lowers next fire.id := by
  obtain ⟨-, same⟩ := ite_none_right_eq_some.mp scheduled
  cases same
  have retried : ∀ row ∈ store.fires, row.id = fire.id → row.status = .running →
      row.Follows none (row.retried report nextAttemptAt now) ∧
        (row.retried report nextAttemptAt now).rank < row.rank := by
    intro row mem same running
    obtain ⟨attempt, maxAttempts⟩ := agrees.row row mem same
    refine retried_follows rfl running rfl rfl rfl ?_
    rw [attempt, maxAttempts]
    exact left
  constructor
  · refine update_fire_moves sound (fun _ => rfl) ?_
    exact fun row mem same running =>
      (retried row mem same (of_decide_eq_true running)).1
  · intro row mem same running
    refine update_fire_lowers sound mem same (fun _ => rfl) ?_ ?_
    · simp [running]
    · exact (retried row mem same running).2

theorem attach_moves {sessionId : String} {current : AutomationFire} (sound : store.Sound)
    (attached : store.attachSession fireId sessionId now = some (next, current)) :
    store.Moves none next ∧ current ∈ next.fires ∧ current.id = fireId := by
  obtain ⟨fire, -, rest⟩ := bind_eq_some_iff.mp attached
  obtain ⟨session, -, rest⟩ := bind_eq_some_iff.mp rest
  obtain ⟨-, rest⟩ := ite_none_left_eq_some.mp rest
  obtain ⟨row, found, result⟩ := bind_eq_some_iff.mp rest
  cases result
  refine ⟨?_, lookup_mem found, lookup_key found⟩
  refine update_fire_moves sound (fun _ => rfl) ?_
  exact fun row _ _ _ => same_follows rfl rfl rfl rfl

theorem acknowledged_follows (now : Time)
    (dead : old.status = .deadLetter) : old.Follows none (old.acknowledged now) := by
  constructor
  · rfl
  · rfl
  · exact fun _ => .inr ⟨dead, rfl⟩
  · exact fun _ => rfl
  · intro _
    constructor
    · intro waiting
      cases waiting
    · intro running
      cases running
  · exact fun _ => Nat.zero_le _

theorem ignore_moves {ownerId : String} (sound : store.Sound)
    (ignored : store.ignoreFire fireId ownerId now = some next) : store.Moves none next := by
  rw [FireStore.ignoreFire] at ignored
  split at ignored
  · cases ignored
  · next found read =>
    obtain ⟨dead, same⟩ := ite_none_right_eq_some.mp ignored
    cases same
    have matched := find?_some read
    simp only [Bool.and_eq_true, decide_eq_true_eq] at matched
    refine update_fire_moves sound (fun _ => rfl) ?_
    intro row mem same _
    have one : row = found := unique_key_eq sound.ids mem (mem_of_find?_eq_some read)
      (same.trans matched.1.symm)
    exact acknowledged_follows now (one ▸ dead)

theorem stop_run_moves (sound : store.Sound) (run : Option AttemptRun) :
    store.Moves none (store.stopRun run) := by
  cases run with
  | none => exact moves_refl none sound
  | some run =>
    rw [FireStore.stopRun]
    split
    · exact fail_run_moves sound _ _ _
    · exact moves_refl none sound

theorem mark_stopped_moves (sound : store.Sound) (sessionId : Option String) (now : Time) :
    store.Moves none (store.markStopped sessionId now) := by
  cases sessionId with
  | none => exact moves_refl none sound
  | some sessionId => exact mark_session_moves sound _ _ _ _

theorem recovered_follows {terminal : Bool} (runId : Option String)
    (now : Time) (running : row.status = .running)
    (last : terminal = decide (row.maxAttempts ≤ row.attempt)) :
    row.Follows none (row.recovered terminal runId now) ∧
      (row.recovered terminal runId now).rank < row.rank := by
  cases terminal with
  | true =>
    have ended : (row.recovered true runId now).status.isTerminal = true := rfl
    refine ⟨ended_follows rfl (by rw [running]; rfl) ended rfl rfl, ?_⟩
    rw [ended_rank ended]
    simp [AutomationFire.rank, running]
  | false =>
    have left : ¬row.maxAttempts ≤ row.attempt := of_decide_eq_false last.symm
    exact retried_follows rfl running rfl rfl rfl (by omega)

theorem stop_run_fires (run : Option AttemptRun) : (store.stopRun run).fires = store.fires := by
  cases run with
  | none => rfl
  | some run =>
    rw [FireStore.stopRun]
    split <;> rfl

theorem mark_stopped_fires (sessionId : Option String) (now : Time) :
    (store.markStopped sessionId now).fires = store.fires := by
  cases sessionId <;> rfl

theorem recover_fire_fires (now : Time) (fire : AutomationFire) :
    (store.recoverFire now fire).fires =
      updateWhere (fun row => row.id = fire.id ∧ decide (row.status = .running) = true)
        (AutomationFire.recovered (decide (fire.maxAttempts ≤ fire.attempt))
          ((store.recoveredRun fire).map AttemptRun.id) now) store.fires := by
  show (FireStore.markStopped _ _ _).fires = _
  rw [mark_stopped_fires]
  show updateWhere _ _ (store.stopRun _).fires = _
  rw [stop_run_fires]

theorem recover_fire_moves (now : Time) (sound : store.Sound) (agrees : store.Agrees fire) :
    store.Moves none (store.recoverFire now fire) ∧
      ∀ row ∈ store.fires, row.id = fire.id → row.status = .running →
        store.Lowers (store.recoverFire now fire) fire.id := by
  have stopped := stop_run_moves sound (store.recoveredRun fire)
  have told : ∀ row ∈ (store.stopRun (store.recoveredRun fire)).fires, row.id = fire.id →
      row.status = .running →
      row.Follows none (row.recovered (decide (fire.maxAttempts ≤ fire.attempt))
          ((store.recoveredRun fire).map AttemptRun.id) now) ∧
        (row.recovered (decide (fire.maxAttempts ≤ fire.attempt))
          ((store.recoveredRun fire).map AttemptRun.id) now).rank < row.rank := by
    intro row mem same running
    rw [stop_run_fires] at mem
    obtain ⟨attempt, maxAttempts⟩ := agrees.row row mem same
    exact recovered_follows _ now running (by rw [attempt, maxAttempts])
  have updated : (store.stopRun (store.recoveredRun fire)).Moves none
      ((store.stopRun (store.recoveredRun fire)).updateFire fire.id (· = .running)
        (AutomationFire.recovered (decide (fire.maxAttempts ≤ fire.attempt))
          ((store.recoveredRun fire).map AttemptRun.id) now)) :=
    update_fire_moves stopped.sound (fun _ => rfl) fun row mem same running =>
      (told row mem same (of_decide_eq_true running)).1
  have marked := mark_stopped_moves updated.sound fire.sessionId now
  have rest := moves_trans marked (mark_automation_moves marked.sound fire.automationId
    ⟨none, some now, fire.sessionId,
      some (if decide (fire.maxAttempts ≤ fire.attempt) then "error" else "retrying")⟩)
  refine ⟨moves_trans stopped (moves_trans updated rest), fun row mem same running => ?_⟩
  have kept : row ∈ (store.stopRun (store.recoveredRun fire)).fires := by
    rw [stop_run_fires]
    exact mem
  have lower : (store.stopRun (store.recoveredRun fire)).Lowers
      ((store.stopRun (store.recoveredRun fire)).updateFire fire.id (· = .running)
        (AutomationFire.recovered (decide (fire.maxAttempts ≤ fire.attempt))
          ((store.recoveredRun fire).map AttemptRun.id) now)) fire.id :=
    update_fire_lowers stopped.sound kept same (fun _ => rfl) (decide_eq_true running)
      (told row kept same running).2
  have issued : fire.id ∈ (store.stopRun (store.recoveredRun fire)).issued :=
    stopped.evolves.issued _ agrees.issued
  have all := lowers_evolves lower updated.sound (updated.evolves.issued _ issued) rest.evolves
  exact evolves_lowers sound stopped.evolves issued (moves_trans updated rest).evolves all

theorem recover_fires_moves (now : Time) (sound : store.Sound)
    (agrees : ∀ fire ∈ rows, store.Agrees fire) :
    store.Moves none (rows.foldl (fun current fire => current.recoverFire now fire) store) := by
  induction rows generalizing store with
  | nil => exact moves_refl none sound
  | cons first rest ih =>
    have step := (recover_fire_moves now sound (agrees first mem_cons_self)).1
    exact moves_trans step (ih step.sound fun fire mem =>
      agrees_evolves step.evolves (by simp) (agrees fire (mem_cons_of_mem _ mem)))

theorem recover_fires_lowers (now : Time) (sound : store.Sound)
    (agrees : ∀ fire ∈ rows, store.Agrees fire) (listed : fire ∈ rows) (stored : fire ∈ store.fires)
    (running : fire.status = .running) :
    store.Lowers (rows.foldl (fun current fire => current.recoverFire now fire) store) fire.id := by
  induction rows generalizing store with
  | nil => cases listed
  | cons first rest ih =>
    obtain ⟨step, lowers⟩ := recover_fire_moves now sound (agrees first mem_cons_self)
    have still : ∀ other ∈ rest, (store.recoverFire now first).Agrees other :=
      fun other mem =>
        agrees_evolves step.evolves (by simp) (agrees other (mem_cons_of_mem _ mem))
    have later := recover_fires_moves now step.sound still
    have issued := step.evolves.issued _ (sound.issued fire stored)
    by_cases same : fire.id = first.id
    · rw [same]
      exact lowers_evolves (lowers fire stored same running) step.sound (same ▸ issued)
        later.evolves
    · have kept : fire ∈ (store.recoverFire now first).fires := by
        rw [recover_fire_fires]
        exact mem_update_of_not_chosen stored fun chosen => same chosen.1
      exact evolves_lowers sound step.evolves issued later.evolves
        (ih step.sound still ((mem_cons.mp listed).resolve_left fun other =>
          same (congrArg AutomationFire.id other)) kept)

theorem recover_stale_moves (now : Time) (sound : store.Sound) :
    store.Moves none (store.recoverStale now) ∧ ∀ fire ∈ store.fires, store.Stale now fire →
        store.Lowers (store.recoverStale now) fire.id := by
  have agrees : ∀ fire ∈ store.fires.filter fun fire => store.Stale now fire,
      store.Agrees fire := fun fire mem => agrees_self sound (mem_filter.mp mem).1
  constructor
  · exact recover_fires_moves now sound agrees
  · intro fire mem stale
    have listed : fire ∈ store.fires.filter fun fire => store.Stale now fire :=
      mem_filter.mpr ⟨mem, decide_eq_true stale⟩
    exact recover_fires_lowers now sound agrees listed mem stale.1

end

section

variable {host : FireHost} {store next : FireStore} {fire : AutomationFire} {fireId : String}

theorem moves_coroutines {running : List LiveFire} (sound : store.Sound)
    (unique : UniqueKey LiveFire.fireId running)
    (driving : ∀ live ∈ running, ∀ auto fire sessionId,
      live.phase = .driving auto fire sessionId → live.fireId = fire.id ∧ store.Agrees fire) :
    store.Moves none { store with running := running } := by
  refine ⟨⟨sound.ids, sound.issued, sound.budget, sound.policies, unique, ?_⟩, ?_, id⟩
  · intro live mem auto fire sessionId phase
    obtain ⟨same, agrees⟩ := driving live mem auto fire sessionId phase
    exact ⟨same, agrees.issued, agrees.row⟩
  · exact ⟨fun row mem => .inl ⟨row, mem, rfl, follows_refl none row⟩, fun _ => id⟩

theorem launch_moves (host : FireHost) (sound : store.Sound) (fireId : String) :
    store.Moves none (store.launch host fireId) := by
  rw [FireStore.launch]
  split
  · exact moves_refl none sound
  next absent =>
    split
    · exact moves_refl none sound
    split
    · exact moves_refl none sound
    next fire _ =>
      split
      · exact moves_refl none sound
      apply moves_coroutines sound
      · apply unique_key_append sound.running
        intro other mem same
        exact absent (List.any_eq_true.mpr ⟨other, mem, decide_eq_true same⟩)
      · intro live mem auto fire sessionId phase
        rcases mem_append.mp mem with old | new
        · exact sound.driving live old auto fire sessionId phase
        · rw [mem_singleton.mp new] at phase
          cases phase

theorem launch_all_moves (host : FireHost) (sound : store.Sound) (fires : List AutomationFire) :
    store.Moves none (fires.foldl (fun current fire => current.launch host fire.id) store) := by
  induction fires generalizing store with
  | nil => exact moves_refl none sound
  | cons first rest ih =>
    have launched := launch_moves host sound first.id
    exact moves_trans launched (ih launched.sound)

theorem drop_moves (sound : store.Sound) (fireId : String) :
    store.Moves none (store.dropLive fireId) := by
  apply moves_coroutines sound
  · exact sound.running.sublist (filter_sublist.map _)
  · exact fun live mem => sound.driving live (mem_filter.mp mem).1

theorem waits_alone (sound : store.Sound) (waits : store.waits fireId = true) :
    ∀ live ∈ store.running, live.phase ≠ .waiting → some fireId ≠ some live.fireId := by
  intro live mem phase same
  have stored := lookup_of_mem sound.running mem
  rw [← Option.some.inj same] at stored
  rw [FireStore.waits, FireStore.live?, stored] at waits
  obtain ⟨id, owner, point⟩ := live
  cases point with
  | waiting => exact phase rfl
  | driving => cases waits

theorem claim_moves (now : Time) (sound : store.Sound) (waits : store.waits fireId = true) :
    store.Moves (some fireId) (store.claimFire fireId now).1 := by
  refine moves_update sound (fun _ => rfl) ?_ (waits_alone sound waits)
  intro row _ chosen
  exact chosen.1 ▸ claimed_follows now chosen.2.1

variable {now : Time} {row : AutomationFire} {auto : Automation} {sessionId : String}

theorem claim_found (found : (store.claimFire fireId now).2 = some fire) :
    fire ∈ (store.claimFire fireId now).1.fires ∧ fire.id = fireId := by
  obtain ⟨-, read⟩ := ite_none_right_eq_some.mp found
  exact ⟨lookup_mem read, lookup_key read⟩

theorem claim_lowers (sound : store.Sound) (mem : row ∈ store.fires) (same : row.id = fireId)
    (waiting : row.status.isWaiting = true)
    (due : row.nextAttemptAt.any (fun due => due ≤ now) = true) :
    store.Lowers (store.claimFire fireId now).1 fireId := by
  intro old oldMem oldId after afterMem afterId
  obtain ⟨source, sourceMem, rfl⟩ := mem_update_where.mp afterMem
  have sourceId : source.id = fireId := by
    split at afterId
    · exact afterId
    · exact afterId
  have one : source = row := unique_key_eq sound.ids sourceMem mem (sourceId.trans same.symm)
  have other : old = row := unique_key_eq sound.ids oldMem mem (oldId.trans same.symm)
  rw [one, other, if_pos ⟨same, waiting, due⟩]
  exact claimed_rank now (sound.budget row mem) waiting

variable {draw : FireDraw}

theorem fire_session_moves {current : AutomationFire} (sound : store.Sound)
    (mem : fire ∈ store.fires)
    (found : store.fireSession auto fire draw = some (next, current, sessionId)) :
    store.Moves none next ∧ current ∈ next.fires ∧ current.id = fire.id := by
  rw [FireStore.fireSession] at found
  split at found
  · cases found
    exact ⟨moves_refl none sound, mem, rfl⟩
  · obtain ⟨⟨attached, row⟩, opened, result⟩ := map_eq_some_iff.mp found
    cases result
    have created := create_session_moves sound auto (runKind fire.triggerKind) draw
    obtain ⟨moves, stored, same⟩ := attach_moves created.sound opened
    exact ⟨moves_trans created moves, stored, same⟩

theorem prepare_moves {userKnown : Bool} (sound : store.Sound)
    (mem : fire ∈ store.fires) : store.Moves none (store.prepareFire fire draw userKnown) := by
  rw [FireStore.prepareFire]
  split
  · cases ended : store.finishFire fire.id .deadLetter
        (failedStart "automation_missing" "自动化不存在") none draw.now with
    | none => exact drop_moves sound fire.id
    | some finished =>
      have moves := (finish_moves sound ended).1
      exact moves_trans moves (drop_moves moves.sound fire.id)
  · next auto _ =>
    split
    · split
      · exact drop_moves sound fire.id
      · next finished ended =>
        have moves := (finish_moves sound ended).1
        have marked := moves_trans moves (mark_automation_moves moves.sound auto.id
          ⟨none, some draw.now, none, some "error"⟩)
        exact moves_trans marked (drop_moves marked.sound fire.id)
    · split
      · have created := create_session_moves sound auto (runKind fire.triggerKind) draw
        exact moves_trans created (drop_moves created.sound fire.id)
      · next attached current sessionId opened =>
        obtain ⟨moves, stored, same⟩ := fire_session_moves sound mem opened
        have marked := moves_trans moves
          (mark_session_moves moves.sound sessionId "running" none draw.now)
        have all := moves_trans marked (mark_automation_moves marked.sound auto.id
          ⟨none, none, some sessionId, some "running"⟩)
        refine moves_trans all (moves_coroutines all.sound ?_ ?_)
        · exact unique_key_update (fun _ => rfl) all.sound.running
        · intro live liveMem other row session phase
          obtain ⟨old, oldMem, rfl⟩ := mem_update_where.mp liveMem
          split at phase
          · next chosen =>
            cases phase
            refine ⟨?_, agrees_self all.sound stored⟩
            rw [if_pos chosen]
            exact chosen.trans same.symm
          · next chosen =>
            rw [if_neg chosen]
            exact all.sound.driving old oldMem other row session phase

theorem begin_moves {userKnown : Bool} (sound : store.Sound) (waits : store.waits fireId = true) :
    store.Moves (some fireId) (store.beginFire fireId draw userKnown) ∧
      ∀ row ∈ store.fires, row.id = fireId → row.status.isWaiting = true →
        row.nextAttemptAt.any (fun due => due ≤ draw.now) = true →
          store.Lowers (store.beginFire fireId draw userKnown) fireId := by
  have claimed := claim_moves draw.now sound waits
  have moves : (store.claimFire fireId draw.now).1.Moves none
      (store.beginFire fireId draw userKnown) := by
    rw [FireStore.beginFire]
    split
    · exact drop_moves claimed.sound fireId
    · next fire found => exact prepare_moves claimed.sound (claim_found found).1
  constructor
  · exact moves_trans claimed (moves_weaken _ moves)
  · intro row mem same waiting due
    have issued := claimed.evolves.issued _ (same ▸ sound.issued row mem)
    exact lowers_evolves (claim_lowers sound mem same waiting due) claimed.sound issued
      moves.evolves

theorem settle_moves (sound : store.Sound) (auto : Automation) (fire : AutomationFire)
    (outcome : DriveOutcome) :
    store.Moves none (store.settleDrive auto fire outcome) ∧
      (store.settleDrive auto fire outcome).fires = store.fires := by
  unfold FireStore.settleDrive
  split
  · split
    · exact ⟨fail_run_moves sound _ _ _, rfl⟩
    · exact ⟨moves_refl none sound, rfl⟩
  · split
    · exact ⟨fail_run_moves sound _ _ _, rfl⟩
    · exact ⟨moves_refl none sound, rfl⟩
  · exact ⟨moves_refl none sound, rfl⟩

theorem mark_end_moves (sound : store.Sound) (sessionId : String) (status : String)
    (summary : Option String) (autoId : String) (mark : AutomationMark) (now : Time) :
    store.Moves none ((store.markSessionRun sessionId status summary now).markAutomationRun
      autoId mark) := by
  have first := mark_session_moves sound sessionId status summary now
  exact moves_trans first (mark_automation_moves first.sound autoId mark)

theorem close_moves {run : Option AttemptRun} (sound : store.Sound) (agrees : store.Agrees fire)
    (closed : store.closeAttempt auto fire sessionId run now = some next) :
    store.Moves none next ∧ ∀ row ∈ store.fires, row.id = fire.id → row.status = .running →
      store.Lowers next fire.id := by
  have active : ∀ row : AutomationFire, row.status = .running → row.status.isActive = true := by
    intro row running
    rw [running]
    rfl
  rw [FireStore.closeAttempt] at closed
  split at closed
  · obtain ⟨finished, ended, rfl⟩ := map_eq_some_iff.mp closed
    obtain ⟨moves, lowers⟩ := finish_moves sound ended
    have marked := mark_end_moves moves.sound sessionId "ok" none auto.id
      ⟨none, some now, some sessionId, some "ok"⟩ now
    refine ⟨moves_trans moves marked, fun row mem same running => ?_⟩
    exact lowers_evolves (lowers row mem same (active row running)) moves.sound
      (moves.evolves.issued _ agrees.issued) marked.evolves
  · split at closed
    · obtain ⟨finished, ended, rfl⟩ := map_eq_some_iff.mp closed
      obtain ⟨moves, lowers⟩ := finish_moves sound ended
      have marked := mark_end_moves moves.sound sessionId "error"
        (some (clip 500 (attemptReport run).errorMessage)) auto.id
        ⟨none, some now, some sessionId, some "error"⟩ now
      refine ⟨moves_trans moves marked, fun row mem same running => ?_⟩
      exact lowers_evolves (lowers row mem same (active row running)) moves.sound
        (moves.evolves.issued _ agrees.issued) marked.evolves
    · next last =>
      obtain ⟨scheduled, retried, rfl⟩ := map_eq_some_iff.mp closed
      have left : fire.attempt < fire.maxAttempts := by
        by_contra out
        exact last (.inr (by omega))
      obtain ⟨moves, lowers⟩ := retry_moves sound agrees left retried
      have marked := mark_end_moves moves.sound sessionId "error"
        (some (clip 500 (attemptReport run).errorMessage)) auto.id
        ⟨none, some now, some sessionId, some "retrying"⟩ now
      refine ⟨moves_trans moves marked, fun row mem same running => ?_⟩
      exact lowers_evolves (lowers row mem same running) moves.sound
        (moves.evolves.issued _ agrees.issued) marked.evolves

theorem close_runs (auto : Automation) (sessionId : String) (run : Option AttemptRun) (now : Time)
    (mem : row ∈ store.fires) (same : row.id = fire.id) (running : row.status = .running) :
    (store.closeAttempt auto fire sessionId run now).isSome = true := by
  have active : store.hasFire fire.id FireStatus.isActive = true :=
    List.any_eq_true.mpr ⟨row, mem, by simp [same, running, FireStatus.isActive]⟩
  have halted : store.hasFire fire.id (· = .running) = true :=
    List.any_eq_true.mpr ⟨row, mem, by simp [same, running]⟩
  rw [FireStore.closeAttempt]
  split
  · simp [FireStore.finishFire, active]
  · split
    · simp [FireStore.finishFire, active]
    · simp [FireStore.scheduleRetry, halted]

theorem end_moves {outcome : DriveOutcome} (sound : store.Sound) (agrees : store.Agrees fire) :
    store.Moves none (store.endFire auto fire sessionId outcome now) ∧
      ∀ row ∈ store.fires, row.id = fire.id → row.status = .running →
        store.Lowers (store.endFire auto fire sessionId outcome now) fire.id := by
  obtain ⟨settled, rows⟩ := settle_moves sound auto fire outcome
  have still := agrees_evolves settled.evolves (by simp) agrees
  rw [FireStore.endFire]
  cases closed : (store.settleDrive auto fire outcome).closeAttempt auto fire sessionId
      ((store.settleDrive auto fire outcome).latestAttemptRun fire) now with
  | none =>
    refine ⟨moves_trans settled (drop_moves settled.sound fire.id), ?_⟩
    intro row mem same running
    have runs := close_runs auto sessionId
      ((store.settleDrive auto fire outcome).latestAttemptRun fire) now (rows ▸ mem) same
      running
    rw [closed] at runs
    cases runs
  | some after =>
    obtain ⟨moves, lowers⟩ := close_moves settled.sound still closed
    have dropped := drop_moves moves.sound fire.id
    refine ⟨moves_trans settled (moves_trans moves dropped), fun row mem same running => ?_⟩
    have lower := lowers_evolves (lowers row (rows ▸ mem) same running) moves.sound
      (moves.evolves.issued _ still.issued) dropped.evolves
    exact evolves_lowers sound settled.evolves still.issued
      (moves_trans moves dropped).evolves lower

theorem write_run_moves (sound : store.Sound) (fire : AutomationFire) (run : AttemptRun) :
    store.Moves none (store.writeRun fire run) := by
  rw [FireStore.writeRun]
  split
  · exact moves_beside sound rfl sound.policies rfl rfl
  · exact moves_beside sound rfl sound.policies rfl rfl

end

/-- The key is taken, so that nothing is inserted, or no fire of the automation is active. -/
def NewFire.Free (request : NewFire) (store : FireStore) : Prop :=
  (store.getFireByKey request.automationId request.key).isSome = true ∨
    store.hasActiveFire request.automationId = false

instance (request : NewFire) (store : FireStore) : Decidable (request.Free store) := by
  unfold NewFire.Free
  infer_instance

section

variable {host : FireHost} {store next : FireStore} {fire : AutomationFire} {request : NewFire}
  {draw : FireDraw} {new : Bool}

theorem create_fire_result (created : store.createFire request draw = some (next, fire, new)) :
    (next = store ∧ new = false) ∨
      (draw.fireId ∉ store.issued ∧ store.getFireByKey request.automationId request.key = none) ∧
        fire = request.row draw ∧ new = true ∧ next = { store with
          fires := store.fires ++ [request.row draw], issued := draw.fireId :: store.issued } := by
  rw [FireStore.createFire] at created
  obtain ⟨-, created⟩ := ite_none_left_eq_some.mp created
  split at created
  · cases created
    exact .inl ⟨rfl, rfl⟩
  · next absent =>
    obtain ⟨fresh, created⟩ := ite_none_left_eq_some.mp created
    cases created
    exact .inr ⟨⟨fresh, absent⟩, rfl, rfl, rfl⟩

theorem new_fire_budget (request : NewFire) (draw : FireDraw) : (request.row draw).InBudget := by
  constructor
  · intro _
    show 0 < max 1 request.maxAttempts
    omega
  · intro running
    cases running

theorem insert_sound (sound : store.Sound) (fresh : draw.fireId ∉ store.issued) :
    let next : FireStore := { store with
      fires := store.fires ++ [request.row draw], issued := draw.fireId :: store.issued }
    next.Sound ∧ store.Evolves none next := by
  intro next
  have evolves : store.Evolves none next := by
    constructor
    · intro row mem
      rcases mem_append.mp mem with old | added
      · exact .inl ⟨row, old, rfl, follows_refl none row⟩
      · rw [mem_singleton.mp added]
        exact .inr fresh
    · exact fun id listed => mem_cons_of_mem _ listed
  refine ⟨⟨?_, ?_, ?_, sound.policies, sound.running, ?_⟩, evolves⟩
  · apply unique_key_append sound.ids
    intro other mem same
    have clash : other.id = draw.fireId := same
    exact fresh (clash ▸ sound.issued other mem)
  · intro row mem
    rcases mem_append.mp mem with old | added
    · exact mem_cons_of_mem _ (sound.issued row old)
    · rw [mem_singleton.mp added]
      exact mem_cons_self
  · intro row mem
    rcases mem_append.mp mem with old | added
    · exact sound.budget row old
    · rw [mem_singleton.mp added]
      exact new_fire_budget request draw
  · intro live mem auto fire sessionId phase
    obtain ⟨same, agrees⟩ := sound.driving live mem auto fire sessionId phase
    exact ⟨same, agrees_evolves evolves (by simp) agrees⟩

variable {autoId : String} {auto : Automation}

theorem idle_fires (idle : store.hasActiveFire autoId = false) :
    ∀ fire ∈ store.fires, fire.automationId = autoId → fire.status.isActive = false := by
  intro fire mem same
  have inactive := List.any_eq_false.mp idle fire mem
  simpa [AutomationFire.ActiveOf, same] using inactive

theorem create_fire_moves (sound : store.Sound) (free : request.Free store)
    (created : store.createFire request draw = some (next, fire, new)) :
    store.Moves none next := by
  rcases create_fire_result created with ⟨rfl, -⟩ | ⟨⟨fresh, absent⟩, -, -, rfl⟩
  · exact moves_refl none sound
  obtain ⟨kept, evolves⟩ := insert_sound sound fresh
  refine ⟨kept, evolves, fun exclusive => ?_⟩
  rcases free with taken | idle
  · rw [absent] at taken
    cases taken
  have alone : ∀ row ∈ store.fires, row.status.isActive = true →
      row.automationId ≠ request.automationId := by
    intro row mem active same
    rw [idle_fires idle row mem same] at active
    cases active
  intro left leftMem right rightMem leftActive rightActive same
  rcases mem_append.mp leftMem with old | added <;> rcases mem_append.mp rightMem with other | late
  · exact exclusive left old right other leftActive rightActive same
  · rw [mem_singleton.mp late] at same
    exact absurd same (alone left old leftActive)
  · rw [mem_singleton.mp added] at same
    exact absurd same.symm (alone right other rightActive)
  · rw [mem_singleton.mp added, mem_singleton.mp late]

theorem create_launch_moves (host : FireHost) (sound : store.Sound) (free : request.Free store)
    (launched : store.createAndLaunch host request draw = some next) : store.Moves none next := by
  obtain ⟨⟨created, fire, new⟩, made, rfl⟩ := map_eq_some_iff.mp launched
  have moves := create_fire_moves sound free made
  exact moves_trans moves (launch_moves host moves.sound fire.id)

theorem revoked_moves {now : Time} {plannedAt : Time} (sound : store.Sound)
    (revoked : store.revokedFire now auto plannedAt draw = some next) : store.Moves none next := by
  obtain ⟨⟨created, fire, new⟩, made, rest⟩ := bind_eq_some_iff.mp revoked
  rcases create_fire_result made with ⟨rfl, rfl⟩ | ⟨⟨fresh, -⟩, rfl, rfl, same⟩
  · cases rest
    exact moves_refl none sound
  have inserted : created.Sound ∧ store.Evolves none created := by
    rw [same]
    exact insert_sound sound fresh
  obtain ⟨finished, ended, result⟩ := bind_eq_some_iff.mp rest
  cases result
  have ending := (finish_moves inserted.1 ended).1
  have moves := moves_trans ending (mark_automation_moves ending.sound auto.id
    ⟨none, some now, none, some "error"⟩)
  have evolves := evolves_trans inserted.2 moves.evolves
  refine ⟨moves.sound, evolves, exclusive_evolves moves.sound.ids evolves ?_⟩
  intro row mem new
  apply finish_ends ended row mem
  rcases ending.evolves.rows row mem with ⟨old, oldMem, sameId, -⟩ | unknown
  · rw [same] at oldMem
    rcases mem_append.mp oldMem with stored | added
    · exact absurd (sameId ▸ sound.issued old stored) new
    · rw [sameId, mem_singleton.mp added]
  · exact absurd (finish_issued ended ▸ ending.sound.issued row mem) unknown

theorem open_moves (host : FireHost) (sound : store.Sound) (auto : Automation)
    (fire : AutomationFire) (kind : String) (draw : FireDraw) :
    store.Moves none (store.openFire host auto fire kind draw) := by
  rw [FireStore.openFire]
  split
  · have created := create_session_moves sound auto kind draw
    split
    · exact created
    · next attached current opened =>
      have moves := moves_trans created (attach_moves created.sound opened).1
      have marked := moves_trans moves (mark_automation_moves moves.sound auto.id
        ⟨none, none, some draw.sessionId, some "running"⟩)
      exact moves_trans marked (launch_moves host marked.sound current.id)
  · exact launch_moves host sound fire.id

theorem fire_now_moves {requestKey : String} {payload : Option Json} (sound : store.Sound)
    (free : (manualFire auto requestKey draw.now payload).Free store) :
    store.Moves none (store.fireNow host auto requestKey payload draw) := by
  rw [FireStore.fireNow]
  split
  · exact moves_refl none sound
  · next created fire new made =>
    have moves := create_fire_moves sound free made
    exact moves_trans moves (open_moves host moves.sound auto fire "test" draw)

theorem replay_moves {fireId ownerId requestKey : String} (sound : store.Sound)
    (free : ∀ original auto, store.replayable fireId ownerId = some (original, auto) →
      (replayedFire auto original requestKey draw.now).Free store) :
    store.Moves none (store.replayFire host fireId ownerId requestKey draw) := by
  rw [FireStore.replayFire]
  split
  · exact moves_refl none sound
  next original auto found =>
    split
    · exact moves_refl none sound
    next created fire new made =>
      have moves := create_fire_moves sound (free original auto found) made
      split
      · split
        · exact moves
        · next ignored marked =>
          have all := moves_trans moves (ignore_moves moves.sound marked)
          exact moves_trans all (launch_moves host all.sound fire.id)
      · exact moves_trans moves (launch_moves host moves.sound fire.id)

theorem no_active_fire (none_active : store.getActiveFire autoId = none) :
    store.hasActiveFire autoId = false := by
  have empty := head?_eq_none_iff.mp none_active
  have length := (perm_insertionSort (fun left right : AutomationFire =>
    right.createdAt ≤ left.createdAt) (store.fires.filter fun fire =>
      fire.ActiveOf autoId)).length_eq
  rw [empty, length_nil] at length
  have nothing := eq_nil_of_length_eq_zero length.symm
  rw [FireStore.hasActiveFire, List.any_eq_false]
  intro fire mem active
  have listed : fire ∈ store.fires.filter fun fire => fire.ActiveOf autoId :=
    mem_filter.mpr ⟨mem, active⟩
  rw [nothing] at listed
  cases listed

theorem not_skipped (skips : auto.concurrencyPolicy = "skip")
    (passed : ¬(auto.concurrencyPolicy = "skip" ∧
      (store.getActiveFire auto.id).isSome = true)) : store.hasActiveFire auto.id = false := by
  apply no_active_fire
  by_contra some_active
  exact passed ⟨skips, isSome_iff_ne_none.mpr some_active⟩

theorem webhook_moves {webhookId idempotencyKey : String} {payload : Json}
    (sound : store.Sound) : store.Moves none
      (store.runWebhook host autoId webhookId idempotencyKey payload draw) := by
  rw [FireStore.runWebhook]
  split
  · exact moves_refl none sound
  next auto found =>
    split
    · exact moves_refl none sound
    split
    · exact moves_refl none sound
    split
    · exact moves_refl none sound
    next passed =>
      split
      · exact moves_refl none sound
      next created fire new made =>
        have skips := sound.policies auto (lookup_mem found)
        have moves := create_fire_moves sound (.inr (not_skipped skips passed)) made
        exact moves_trans moves (open_moves host moves.sound auto fire "webhook" draw)

def FireTicket.Skips : FireTicket → Prop
  | .scan _ _ _ rest => ∀ auto ∈ rest, auto.concurrencyPolicy = "skip"
  | .runNow _ _ => True

theorem scan_due_moves (now : Time) (draw : String → FireDraw) {autos : List Automation}
    (sound : store.Sound) (skips : ∀ auto ∈ autos, auto.concurrencyPolicy = "skip") :
    store.Moves none (store.scanDue host now draw autos).1 ∧
      ∀ ticket ∈ (store.scanDue host now draw autos).2, ticket.Skips := by
  induction autos generalizing store with
  | nil => exact ⟨launch_all_moves host sound _, by simp [FireStore.scanDue]⟩
  | cons auto rest ih =>
    have restSkips : ∀ other ∈ rest, other.concurrencyPolicy = "skip" :=
      fun other mem => skips other (mem_cons_of_mem _ mem)
    have marked := mark_automation_moves sound auto.id
      ⟨some (host.computeNextRun auto.triggerKind auto.intervalMin auto.atTime now),
        none, none, none⟩
    rw [FireStore.scanDue]
    split
    · obtain ⟨moves, tickets⟩ := ih marked.sound restSkips
      exact ⟨moves_trans marked moves, tickets⟩
    next passed =>
      split
      · refine ⟨marked, ?_⟩
        rintro ticket ⟨⟩
        exact restSkips
      split
      · exact ⟨marked, by simp⟩
      next launched made =>
        have idle : (scheduledFire auto auto.nextRunAt none).Free (store.markAutomationRun auto.id
              ⟨some (host.computeNextRun auto.triggerKind auto.intervalMin auto.atTime now),
                none, none, none⟩) := by
          right
          rw [← Bool.not_eq_true]
          exact fun active => passed ⟨skips auto mem_cons_self, active⟩
        have moves := moves_trans marked (create_launch_moves host marked.sound idle made)
        obtain ⟨later, tickets⟩ := ih moves.sound restSkips
        exact ⟨moves_trans moves later, tickets⟩

theorem scan_health_moves {now : Time} {plannedAt : Time}
    {rest : List Automation} {input : FireInput} (sound : store.Sound)
    (skips : ∀ auto ∈ rest, auto.concurrencyPolicy = "skip")
    (free : ∀ health, input.health = .found health →
      (scheduledFire auto plannedAt (some (healthPayload auto health))).Free store) :
    store.Moves none (store.scanHealth host now auto plannedAt rest input).1 ∧
      ∀ ticket ∈ (store.scanHealth host now auto plannedAt rest input).2, ticket.Skips := by
  rw [FireStore.scanHealth]
  split
  · exact ⟨moves_refl none sound, by simp⟩
  · split
    · exact ⟨moves_refl none sound, by simp⟩
    · next finished made =>
      have moves := revoked_moves sound made
      obtain ⟨later, tickets⟩ := scan_due_moves now input.draw moves.sound skips
      exact ⟨moves_trans moves later, tickets⟩
  · next health found =>
    split
    · exact ⟨moves_refl none sound, by simp⟩
    · next launched made =>
      have moves := create_launch_moves host sound (free health found) made
      obtain ⟨later, tickets⟩ := scan_due_moves now input.draw moves.sound skips
      exact ⟨moves_trans moves later, tickets⟩

theorem due_policies (sound : store.Sound) (now : Time) :
    ∀ auto ∈ store.listDueAutomations now, auto.concurrencyPolicy = "skip" := by
  intro auto mem
  have listed := (mem_insertionSort _).mp mem
  exact sound.policies auto (mem_filter.mp listed).1

theorem scan_once_moves (now : Time) (draw : String → FireDraw) (sound : store.Sound) :
    store.Moves none (store.scanOnce host now draw).1 ∧
      (∀ ticket ∈ (store.scanOnce host now draw).2, ticket.Skips) ∧
      ∀ fire ∈ store.fires, store.Stale now fire →
        store.Lowers (store.scanOnce host now draw).1 fire.id := by
  obtain ⟨recovered, lowers⟩ := recover_stale_moves now sound
  obtain ⟨scanned, tickets⟩ := scan_due_moves now draw recovered.sound
    (due_policies recovered.sound now)
  refine ⟨moves_trans recovered scanned, tickets, fun fire mem stale => ?_⟩
  exact lowers_evolves (lowers fire mem stale) recovered.sound
    (recovered.evolves.issued _ (sound.issued fire mem)) scanned.evolves

end

section

variable {host : FireHost} {store next : FireStore} {later : Option FireTicket}

variable {ownerId autoId fireId : String} {patch : AutomationPatch}
  {system after : System FireStore FireTicket} {event : Event FireRequest FireInput}

theorem create_automation_moves {now : Time} (sound : store.Sound)
    (created : store.createAutomation host autoId ownerId patch now = some next) :
    store.Moves none next := by
  obtain ⟨⟨-, governed, -⟩, result⟩ := ite_none_right_eq_some.mp created
  cases result
  refine moves_beside sound rfl ?_ rfl rfl
  intro auto mem
  rcases mem_append.mp mem with old | added
  · exact sound.policies auto old
  · rw [mem_singleton.mp added]
    simp only [AutomationPatch.governed, Bool.and_eq_true] at governed
    cases given : patch.concurrencyPolicy with
    | none => rfl
    | some policy => simpa [given] using governed.2

theorem patched_policy (governed : patch.governed = true) {auto : Automation}
    (skips : auto.concurrencyPolicy = "skip") (now : Time) :
    (patch.apply host now auto).concurrencyPolicy = "skip" := by
  simp only [AutomationPatch.governed, Bool.and_eq_true] at governed
  show patch.concurrencyPolicy.getD auto.concurrencyPolicy = "skip"
  cases given : patch.concurrencyPolicy with
  | none => exact skips
  | some policy => simpa [given] using governed.2

theorem update_automation_moves {now : Time} (sound : store.Sound)
    (updated : store.updateAutomation host autoId ownerId patch now = some next) :
    store.Moves none next := by
  rw [FireStore.updateAutomation] at updated
  split at updated
  · cases updated
  · obtain ⟨⟨-, governed, -⟩, result⟩ := ite_none_right_eq_some.mp updated
    cases result
    refine moves_beside sound rfl ?_ rfl rfl
    intro auto mem
    obtain ⟨old, oldMem, rfl⟩ := mem_update_where.mp mem
    split
    · exact patched_policy governed (sound.policies old oldMem) now
    · exact sound.policies old oldMem

theorem delete_automation_moves (sound : store.Sound)
    (deleted : store.deleteAutomation autoId ownerId = some next) : store.Moves none next := by
  obtain ⟨-, result⟩ := ite_none_right_eq_some.mp deleted
  cases result
  refine moves_rows sound ?_ ?_ ?_ rfl rfl (by simp)
  · exact sound.ids.sublist (filter_sublist.map _)
  · exact fun row mem => ⟨row, (mem_filter.mp mem).1, rfl, follows_refl none row⟩
  · exact fun auto mem => sound.policies auto (mem_filter.mp mem).1

def FireRequest.claimer : FireRequest → Option String
  | .beginFire fireId _ _ => some fireId
  | _ => none

def lateInsert (system : System FireStore FireTicket) : Event FireRequest FireInput → Option NewFire
  | .call (.replayFire fireId ownerId requestKey draw) =>
    (system.data.replayable fireId ownerId).map fun found =>
      replayedFire found.2 found.1 requestKey draw.now
  | .resume index input =>
    match system.pending[index]?, input.health with
    | some (.scan _ auto plannedAt _), .found health =>
      some (scheduledFire auto plannedAt (some (healthPayload auto health)))
    | some (.runNow auto requestKey), .found health =>
      some (manualFire auto requestKey (input.draw auto.id).now (some (healthPayload auto health)))
    | _, _ => none
  | _ => none

/-- Such an insert meets no active fire of its automation. -/
def Unraced (system : System FireStore FireTicket) (event : Event FireRequest FireInput) : Prop :=
  ∀ request ∈ lateInsert system event, request.Free system.data

theorem drive_some {Result : Type} {go : Automation → AutomationFire → String → Result}
    {result : Result} (driven : store.drive fireId go = some result) :
    ∃ live ∈ store.running, live.fireId = fireId ∧ ∃ auto fire sessionId,
      live.phase = .driving auto fire sessionId ∧ go auto fire sessionId = result := by
  rw [FireStore.drive] at driven
  split at driven
  · next id owner auto fire sessionId found =>
    exact ⟨_, lookup_mem found, lookup_key found, auto, fire, sessionId, rfl,
      Option.some.inj driven⟩
  · cases driven

theorem run_now_moves {requestKey : String} {draw : FireDraw} (sound : store.Sound) :
    store.Moves none (store.runNow host autoId ownerId requestKey draw).1 ∧
      ∀ ticket ∈ (store.runNow host autoId ownerId requestKey draw).2, ticket.Skips := by
  rw [FireStore.runNow]
  split
  · exact ⟨moves_refl none sound, by simp⟩
  next auto found =>
    split
    · exact ⟨moves_refl none sound, by simp⟩
    next passed =>
      dsimp only
      split
      · refine ⟨moves_refl none sound, ?_⟩
        rintro ticket ⟨⟩
        trivial
      · have skips := sound.policies auto (mem_of_find?_eq_some found)
        exact ⟨fire_now_moves sound (.inr (not_skipped skips passed)), by simp⟩

theorem taken_moves {claimer : Option String} {result : FireStore × Option FireTicket}
    (moves : store.Moves claimer result.1 ∧ ∀ ticket ∈ result.2, ticket.Skips)
    (taken : some result = some (next, later)) :
    store.Moves claimer next ∧ ∀ ticket ∈ later, ticket.Skips := by
  cases Option.some.inj taken
  exact moves

theorem call_moves {request : FireRequest} (sound : system.data.Sound)
    (unraced : Unraced system (.call request))
    (called : fireCall host system.data request = some (next, later)) :
    system.data.Moves request.claimer next ∧ ∀ ticket ∈ later, ticket.Skips := by
  cases request with
  | createAutomation autoId ownerId patch now =>
    obtain ⟨after, created, result⟩ := map_eq_some_iff.mp called
    cases result
    exact ⟨create_automation_moves sound created, by simp⟩
  | updateAutomation autoId ownerId patch now =>
    obtain ⟨after, updated, result⟩ := map_eq_some_iff.mp called
    cases result
    exact ⟨update_automation_moves sound updated, by simp⟩
  | deleteAutomation autoId ownerId =>
    obtain ⟨after, deleted, result⟩ := map_eq_some_iff.mp called
    cases result
    exact ⟨delete_automation_moves sound deleted, by simp⟩
  | deleteSession sessionId =>
    cases called
    exact ⟨moves_beside sound rfl sound.policies rfl rfl, by simp⟩
  | scan now draw =>
    obtain ⟨moves, tickets, -⟩ := scan_once_moves now draw sound
    exact taken_moves ⟨moves, tickets⟩ called
  | runNow autoId ownerId requestKey draw =>
    exact taken_moves (run_now_moves sound) called
  | runWebhook autoId webhookId idempotencyKey payload draw =>
    cases called
    exact ⟨webhook_moves sound, by simp⟩
  | replayFire fireId ownerId requestKey draw =>
    cases called
    refine ⟨replay_moves sound fun original auto found => unraced _ ?_, by simp⟩
    simp [lateInsert, found]
  | ignoreFire fireId ownerId now =>
    obtain ⟨after, ignored, result⟩ := map_eq_some_iff.mp called
    cases result
    exact ⟨ignore_moves sound ignored, by simp⟩
  | beginFire fireId draw userKnown =>
    obtain ⟨waits, result⟩ := ite_none_right_eq_some.mp called
    cases result
    exact ⟨(begin_moves sound waits).1, by simp⟩
  | writeRun fireId run =>
    obtain ⟨live, mem, -, auto, fire, sessionId, phase, result⟩ := drive_some called
    cases result
    exact ⟨write_run_moves sound fire run, by simp⟩
  | endFire fireId outcome now =>
    obtain ⟨live, mem, -, auto, fire, sessionId, phase, result⟩ := drive_some called
    cases result
    obtain ⟨-, agrees⟩ := sound.driving live mem auto fire sessionId phase
    exact ⟨(end_moves sound agrees).1, by simp⟩
  | dropFire fireId =>
    cases called
    exact ⟨drop_moves sound fireId, by simp⟩

theorem resume_moves {index : Nat} {input : FireInput} {ticket : FireTicket}
    (sound : system.data.Sound) (skips : ticket.Skips)
    (unraced : Unraced system (.resume index input)) (found : system.pending[index]? = some ticket)
    (resumed : fireResume host system.data ticket input = some (next, later)) :
    system.data.Moves none next ∧ ∀ own ∈ later, own.Skips := by
  cases ticket with
  | scan now auto plannedAt rest =>
    have free : ∀ health, input.health = .found health →
        (scheduledFire auto plannedAt (some (healthPayload auto health))).Free system.data := by
      intro health read
      apply unraced
      simp [lateInsert, found, read]
    exact taken_moves (scan_health_moves sound skips free) resumed
  | runNow auto requestKey =>
    rw [fireResume] at resumed
    split at resumed
    · next health read =>
      cases resumed
      refine ⟨fire_now_moves sound (unraced _ ?_), by simp⟩
      simp [lateInsert, found, read]
    · cases resumed
      exact ⟨moves_refl none sound, by simp⟩

theorem fire_routine_keeps (host : FireHost) :
    Keeps (fireRoutine host) Unraced (fun store => store.Sound ∧ store.Exclusive)
      (fun _ ticket => ticket.Skips) := by
  constructor
  · intro system request data ticket kept unraced called
    obtain ⟨moves, own⟩ := call_moves kept.1 unraced called
    exact ⟨⟨moves.sound, moves.exclusive kept.2⟩, own, fun _ _ => id⟩
  · intro system index input ticket data later kept skips unraced found resumed
    obtain ⟨moves, own⟩ := resume_moves kept.1 skips unraced found resumed
    exact ⟨⟨moves.sound, moves.exclusive kept.2⟩, own, fun _ _ => id⟩

def stepClaimer : Event FireRequest FireInput → Option String
  | .call request => request.claimer
  | _ => none

theorem step_moves (holds : Holds (fun store : FireStore => store.Sound ∧ store.Exclusive)
      (fun _ ticket => ticket.Skips) system) (unraced : Unraced system event)
    (move : Move (fireRoutine host) system event after) :
    system.data.Moves (stepClaimer event) after.data := by
  cases move with
  | call request data ticket taken => exact (call_moves holds.data.1 unraced taken).1
  | resume index input ticket data later found taken =>
    have skips := holds.pending ticket (mem_of_getElem? found)
    exact (resume_moves holds.data.1 skips unraced found taken).1
  | crash index => exact moves_refl none holds.data.1

def Ended (fireId : String) (system : System FireStore FireTicket) : Prop :=
  ∀ fire ∈ system.data.fires, fire.id = fireId → fire.status.isTerminal = true

/-- The coroutine of the fire starts an attempt that is due or ends one, or the scan finds
the attempt stale. -/
def Serves (fireId : String) (system : System FireStore FireTicket) :
    Event FireRequest FireInput → Prop
  | .call (.beginFire id draw _) => id = fireId ∧ ∃ fire ∈ system.data.fires, fire.id = fireId ∧
      fire.status.isWaiting = true ∧ fire.nextAttemptAt.any (fun due => due ≤ draw.now) = true
  | .call (.endFire id _ _) => id = fireId ∧ ∃ fire ∈ system.data.fires, fire.id = fireId ∧
      fire.status = .running
  | .call (.scan now _) => ∃ fire ∈ system.data.fires, fire.id = fireId ∧
      system.data.Stale now fire
  | _ => False

theorem served_lowers (sound : system.data.Sound) (serves : Serves fireId system event)
    (move : Move (fireRoutine host) system event after) :
    system.data.Lowers after.data fireId := by
  cases move with
  | resume => cases serves
  | crash => cases serves
  | call request data ticket taken =>
    cases request with
    | beginFire id draw userKnown =>
      obtain ⟨rfl, fire, mem, same, waiting, due⟩ := serves
      obtain ⟨waits, result⟩ := ite_none_right_eq_some.mp taken
      cases result
      exact (begin_moves sound waits).2 fire mem same waiting due
    | endFire id outcome now =>
      obtain ⟨rfl, fire, mem, same, running⟩ := serves
      obtain ⟨live, liveMem, liveId, auto, row, sessionId, phase, result⟩ :=
        drive_some taken
      cases result
      obtain ⟨rowId, agrees⟩ := sound.driving live liveMem auto row sessionId phase
      have one : row.id = id := rowId.symm.trans liveId
      rw [← one] at same ⊢
      exact (end_moves sound agrees).2 fire mem same running
    | scan now draw =>
      obtain ⟨fire, mem, rfl, stale⟩ := serves
      have result := congrArg Prod.fst (Option.some.inj taken)
      rw [← show _ = data from result]
      exact (scan_once_moves now draw sound).2.2 fire mem stale
    | _ => cases serves

def FireStore.rankOf (store : FireStore) (fireId : String) : Nat :=
  (store.getFire fireId).elim 0 AutomationFire.rank

theorem rank_of_member {fire : AutomationFire} (sound : store.Sound) (mem : fire ∈ store.fires) :
    store.rankOf fire.id = fire.rank := by
  rw [FireStore.rankOf, FireStore.getFire, lookup_of_mem sound.ids mem]
  rfl

theorem not_ended {claimer : Option String} (moves : system.data.Moves claimer after.data)
    (sound : system.data.Sound) (issued : fireId ∈ system.data.issued)
    (open_fire : ¬Ended fireId after) :
    ∃ old ∈ system.data.fires, old.id = fireId ∧ ∃ row ∈ after.data.fires, row.id = fireId ∧
      system.data.rankOf fireId = old.rank ∧ after.data.rankOf fireId = row.rank ∧
        row.rank ≤ old.rank := by
  rw [Ended] at open_fire
  push Not at open_fire
  obtain ⟨row, mem, same, -⟩ := open_fire
  rcases moves.evolves.rows row mem with ⟨old, oldMem, still, follows⟩ | new
  · have oldId : old.id = fireId := still.symm.trans same
    refine ⟨old, oldMem, oldId, row, mem, same, ?_, ?_, ?_⟩
    · rw [← oldId]
      exact rank_of_member sound oldMem
    · rw [← same]
      exact rank_of_member moves.sound mem
    · exact follows.rank (sound.budget old oldMem)
  · exact absurd (same ▸ issued) new

end

/-- No fire was ever created, and every automation has the only policy that there is. -/
structure FireStore.Fresh (store : FireStore) : Prop where
  fires : store.fires = []
  running : store.running = []
  policies : ∀ auto ∈ store.automations, auto.concurrencyPolicy = "skip"

def fireMachine (host : FireHost) :
    Machine (System FireStore FireTicket) (Event FireRequest FireInput) :=
  (fireRoutine host).machine FireStore.Fresh

section

variable {host : FireHost} {system : System FireStore FireTicket}

variable {store : FireStore}

theorem fresh_kept (fresh : store.Fresh) : store.Sound ∧ store.Exclusive := by
  obtain ⟨fires, running, policies⟩ := fresh
  constructor
  · refine ⟨?_, ?_, ?_, policies, ?_, ?_⟩ <;> simp [fires, running, UniqueKey]
  · simp [FireStore.Exclusive, fires]

theorem reachable_kept (reachable : (fireMachine host).Reachable Unraced system) :
    Holds (fun store : FireStore => store.Sound ∧ store.Exclusive)
      (fun _ ticket => ticket.Skips) system :=
  reachable_holds (fire_routine_keeps host) (fun _ => fresh_kept) reachable

def FireRequest.Skipped (store : FireStore) : FireRequest → Prop
  | .runNow autoId ownerId _ _ => ∃ auto, store.getAutomationFor autoId ownerId = some auto ∧
      store.hasActiveFire auto.id = true
  | .runWebhook autoId _ _ _ _ => store.hasActiveFire autoId = true
  | _ => False

theorem active_fire_found {autoId : String} (active : store.hasActiveFire autoId = true) :
    (store.getActiveFire autoId).isSome = true := by
  by_contra absent
  rw [not_isSome_iff_eq_none] at absent
  rw [no_active_fire absent] at active
  cases active

theorem skipped_nothing {request : FireRequest} (sound : system.data.Sound)
    (skipped : request.Skipped system.data) :
    (fireRoutine host).next system (.call request) = some system := by
  cases request with
  | runNow autoId ownerId requestKey draw =>
    obtain ⟨auto, found, active⟩ := skipped
    have skips := sound.policies auto (mem_of_find?_eq_some found)
    have result : system.data.runNow host autoId ownerId requestKey draw = (system.data, none) := by
      rw [FireStore.runNow, found]
      exact if_pos ⟨skips, active_fire_found active⟩
    simp [Routine.next, fireRoutine, fireCall, result]
  | runWebhook autoId webhookId idempotencyKey payload draw =>
    have result : system.data.runWebhook host autoId webhookId idempotencyKey payload draw =
        system.data := by
      rw [FireStore.runWebhook]
      split
      · rfl
      next auto found =>
        have skips := sound.policies auto (lookup_mem found)
        have same : auto.id = autoId := lookup_key found
        have active := active_fire_found (same.symm ▸ skipped)
        split
        · rfl
        split
        · rfl
        · rw [if_pos ⟨skips, active⟩]
    simp [Routine.next, fireRoutine, fireCall, result]
  | _ => cases skipped

theorem scan_skips {now : Time} {draw : String → FireDraw} {auto : Automation}
    {rest : List Automation} (skips : auto.concurrencyPolicy = "skip")
    (active : store.hasActiveFire auto.id = true) :
    store.scanDue host now draw (auto :: rest) = (store.markAutomationRun auto.id
        ⟨some (host.computeNextRun auto.triggerKind auto.intervalMin auto.atTime now),
          none, none, none⟩).scanDue host now draw rest := by
  rw [FireStore.scanDue]
  exact if_pos ⟨skips, active⟩

theorem final_stays {finish : System FireStore FireTicket} {fire : AutomationFire}
    (reachable : (fireMachine host).Reachable Unraced system)
    (mem : fire ∈ system.data.fires) (terminal : fire.status.isTerminal = true)
    (path : (fireMachine host).Path Unraced system finish) :
    ∀ row ∈ finish.data.fires, row.id = fire.id →
      row.status = fire.status ∨ fire.status = .deadLetter ∧ row.status = .ignored := by
  have kept := (reachable_kept reachable).data.1
  have stable : fire.id ∈ finish.data.issued ∧ ∀ row ∈ finish.data.fires, row.id = fire.id →
      row.status = fire.status ∨ fire.status = .deadLetter ∧ row.status = .ignored := by
    refine path_stable (fun state => fire.id ∈ state.data.issued ∧
      ∀ row ∈ state.data.fires, row.id = fire.id → row.status = fire.status ∨
        fire.status = .deadLetter ∧ row.status = .ignored) reachable ?_ ?_ path
    · rintro state event next reached ⟨issued, stays⟩ unraced step
      have moves := step_moves (reachable_kept reached) unraced (next_move step)
      refine ⟨moves.evolves.issued _ issued, fun row rowMem same => ?_⟩
      rcases moves.evolves.rows row rowMem with ⟨old, oldMem, still, follows⟩ | new
      · rcases stays old oldMem (still.symm.trans same) with before | ⟨dead, ignored⟩
        · rw [← before]
          exact follows.final (before ▸ terminal)
        · rcases follows.final (by rw [ignored]; rfl) with after | ⟨other, -⟩
          · exact .inr ⟨dead, after.trans ignored⟩
          · rw [ignored] at other
            cases other
      · exact absurd (same ▸ issued) new
    · refine ⟨kept.issued fire mem, fun row rowMem same => .inl ?_⟩
      rw [unique_key_eq kept.ids rowMem mem same]
  exact stable.2

theorem fire_ends {run : (fireMachine host).Run Unraced} {fireId : String}
    (reachable : (fireMachine host).Reachable Unraced (run.state 0))
    (issued : fireId ∈ (run.state 0).data.issued)
    (fair : run.Fair (Ended fireId) (Serves fireId)) : ∃ time, Ended fireId (run.state time) := by
  have holds := fun time => reachable_kept (run_reaches run reachable time)
  have moves := fun time => step_moves (holds time) (run.guarded time) (next_move (run.step time))
  have drawn : ∀ time, fireId ∈ (run.state time).data.issued := by
    intro time
    induction time with
    | zero => exact issued
    | succ time ih => exact (moves time).evolves.issued _ ih
  have ends := ends_by_rank run (fun state => state.data.rankOf fireId) ?_ ?_ fair 0
  · obtain ⟨time, -, ended⟩ := ends
    exact ⟨time, ended⟩
  · intro time open_fire
    obtain ⟨old, -, -, row, -, -, before, after, lower⟩ :=
      not_ended (moves time) (holds time).data.1 (drawn time) open_fire
    simp only [before, after]
    exact lower
  · intro time open_fire served
    obtain ⟨old, oldMem, oldId, row, mem, same, before, after, -⟩ :=
      not_ended (moves time) (holds time).data.1 (drawn time) open_fire
    simp only [before, after]
    exact served_lowers (holds time).data.1 served (next_move (run.step time)) old oldMem oldId
      row mem same

end

/-- In every interleaving whose late inserts meet no active fire, an automation has at most
one active fire; a final status stays; every fire that goes on being served ends; and a
skipped trigger creates nothing. -/
theorem local_fires_skip {host : FireHost} {system : System FireStore FireTicket}
    (reachable : (fireMachine host).Reachable Unraced system) :
    (∀ left ∈ system.data.fires, ∀ right ∈ system.data.fires, left.status.isActive = true →
      right.status.isActive = true → left.automationId = right.automationId → left = right) ∧
    (∀ finish, (fireMachine host).Path Unraced system finish → ∀ fire ∈ system.data.fires,
      fire.status.isTerminal = true → ∀ row ∈ finish.data.fires, row.id = fire.id →
        row.status = fire.status ∨ fire.status = .deadLetter ∧ row.status = .ignored) ∧
    (∀ run : (fireMachine host).Run Unraced, run.state 0 = system → ∀ fire ∈ system.data.fires,
      run.Fair (Ended fire.id) (Serves fire.id) → ∃ time, Ended fire.id (run.state time)) ∧
    (∀ request, request.Skipped system.data →
      (fireRoutine host).next system (.call request) = some system) ∧
    (∀ (store : FireStore) now draw auto rest, auto.concurrencyPolicy = "skip" →
      store.hasActiveFire auto.id = true → store.scanDue host now draw (auto :: rest) =
          (store.markAutomationRun auto.id
            ⟨some (host.computeNextRun auto.triggerKind auto.intervalMin auto.atTime now),
              none, none, none⟩).scanDue host now draw rest) := by
  have kept := (reachable_kept reachable).data
  refine ⟨kept.2, ?_, ?_, ?_, ?_⟩
  · intro finish path fire mem terminal
    exact final_stays reachable mem terminal path
  · intro run start fire mem fair
    apply fire_ends (start.symm ▸ reachable) _ fair
    rw [start]
    exact kept.1.issued fire mem
  · exact fun request skipped => skipped_nothing kept.1 skipped
  · exact fun store now draw auto rest skips active => scan_skips skips active

instance (system : System FireStore FireTicket) (event : Event FireRequest FireInput) :
    Decidable (Unraced system event) := by
  unfold Unraced
  infer_instance

def sampleHost : FireHost where
  computeNextRun _ _ _ now := now + 60
  clockGiven _ := true
  sha256 text := text
  maxConcurrency := 4
  perOwnerConcurrency := 2

def noAutomations : FireStore := ⟨[], [], [], [], [], []⟩

def draw (now : Time) (fireId : String) : FireDraw := ⟨now, fireId, "s" ++ fireId⟩

def newAutomation (kind : TriggerKind) : Event FireRequest FireInput :=
  .call (.createAutomation "auto" "owner"
    ⟨some kind, none, none, some (some "project"), none, none, some 1, none, none⟩ 0)

def fireStatuses (system : System FireStore FireTicket) : List (String × FireStatus) :=
  system.data.fires.map fun fire => (fire.id, fire.status)

def skippedTrigger : List (Event FireRequest FireInput) :=
  [newAutomation .webhook, .call (.runWebhook "auto" "hook" "k" .null (draw 1 "a")),
    .call (.runNow "auto" "owner" "again" (draw 2 "b")),
    .call (.beginFire "a" (draw 3 "c") true), .call (.endFire "a" .returned 4),
    .call (.replayFire "a" "owner" "r" (draw 5 "d"))]

def queuedTrigger : List (Event FireRequest FireInput) :=
  [newAutomation .webhook, .call (.runWebhook "auto" "hook" "k" .null (draw 1 "a"))]

def servedTrigger : List (Event FireRequest FireInput) :=
  [.call (.beginFire "a" (draw 3 "c") true), .call (.endFire "a" .returned 4)]

/-- A request for an automation that the owner does not have. -/
theorem unknown_automation {autoId ownerId requestKey : String} {now : FireDraw}
    {system : System FireStore FireTicket}
    (absent : (system.data.getAutomationFor autoId ownerId).isNone = true) :
    (fireRoutine sampleHost).next system (.call (.runNow autoId ownerId requestKey now)) =
      some system := by
  have result : system.data.runNow sampleHost autoId ownerId requestKey now =
      (system.data, none) := by
    rw [FireStore.runNow, isNone_iff_eq_none.mp absent]
  simp [Routine.next, fireRoutine, fireCall, result]

/-- A queued fire that is served, and then requests that change nothing. -/
theorem served_fire_run : ∃ system, (fireMachine sampleHost).Reachable Unraced system ∧
    fireStatuses system = [("a", .queued)] ∧
    ∃ run : (fireMachine sampleHost).Run Unraced, run.state 0 = system ∧
      run.Fair (Ended "a") (Serves "a") := by
  let guard := fun (system : System FireStore FireTicket) event => decide (Unraced system event)
  have view : ((fireRoutine sampleHost).run guard noAutomations queuedTrigger).map
      (fun system => (fireStatuses system, (servedTrigger.foldlM (fun system event =>
        if guard system event then (fireRoutine sampleHost).next system event else none)
          system).map fun last =>
            (fireStatuses last, (last.data.getAutomationFor "other" "owner").isNone))) =
      some ([("a", .queued)], some ([("a", .deadLetter)], true)) := by decide +kernel
  obtain ⟨queued, ran, shown⟩ := map_eq_some_iff.mp view
  obtain ⟨first, second⟩ := Prod.mk.inj shown
  obtain ⟨served, went, last⟩ := map_eq_some_iff.mp second
  obtain ⟨statuses, absent⟩ := Prod.mk.inj last
  have fresh : noAutomations.Fresh := ⟨rfl, rfl, by simp [noAutomations]⟩
  have reachable := reachable_weaken (fun _ _ unraced => of_decide_eq_true unraced)
    (run_reachable guard fresh ran)
  have path : (fireMachine sampleHost).Path (fun system event => guard system event = true)
      queued served :=
    path_of_run guard (fireRoutine sampleHost).next (fun _ _ _ taken => taken) went
  have unraced : Unraced served (.call (.runNow "other" "owner" "r" (draw 5 "d"))) := by
    intro request late
    cases late
  have idle : (fireMachine sampleHost).Step served
      (.call (.runNow "other" "owner" "r" (draw 5 "d"))) served := unknown_automation absent
  obtain ⟨run, start, time, rests⟩ :=
    path_rests (path_weaken (fun _ _ free => of_decide_eq_true free) path) unraced idle
  refine ⟨queued, reachable, first, run, start, fair_of_done run time fun later after => ?_⟩
  rw [rests later after]
  intro fire mem _
  have listed : (fire.id, fire.status) ∈ fireStatuses served := List.mem_map_of_mem mem
  rw [statuses, mem_singleton] at listed
  have dead : fire.status = .deadLetter := congrArg Prod.snd listed
  rw [dead]
  rfl

theorem skipped_trigger_kept :
    (∃ system, (fireRoutine sampleHost).run (fun system event => decide (Unraced system event))
        noAutomations skippedTrigger = some system ∧
      fireStatuses system = [("a", .ignored), ("d", .queued)] ∧
      ∀ left ∈ system.data.fires, ∀ right ∈ system.data.fires, left.status.isActive = true →
        right.status.isActive = true → left.automationId = right.automationId → left = right) ∧
    ∃ run : (fireMachine sampleHost).Run Unraced,
      fireStatuses (run.state 0) = [("a", .queued)] ∧ ∃ time, Ended "a" (run.state time) := by
  constructor
  · have ran : ((fireRoutine sampleHost).run (fun system event => decide (Unraced system event))
        noAutomations skippedTrigger).map fireStatuses =
          some [("a", .ignored), ("d", .queued)] := by decide +kernel
    obtain ⟨system, done, shown⟩ := map_eq_some_iff.mp ran
    have fresh : noAutomations.Fresh := ⟨rfl, rfl, by simp [noAutomations]⟩
    have reachable := reachable_weaken (fun _ _ unraced => of_decide_eq_true unraced)
      (run_reachable (fun system event => decide (Unraced system event)) fresh done)
    exact ⟨system, done, shown, (@local_fires_skip sampleHost system reachable).1⟩
  · obtain ⟨system, reachable, statuses, run, start, fair⟩ := served_fire_run
    have listed : ("a", FireStatus.queued) ∈ fireStatuses system := by
      rw [statuses]
      exact mem_singleton.mpr rfl
    obtain ⟨fire, mem, shown⟩ := List.mem_map.mp listed
    have own : fire.id = "a" := congrArg Prod.fst shown
    refine ⟨run, start ▸ statuses, ?_⟩
    have ends := (@local_fires_skip sampleHost system reachable).2.2.1 run start fire mem
    rw [own] at ends
    exact ends fair

def snapshot (now : Time) (fireId : String) : FireInput :=
  ⟨.found .null, fun _ => draw now fireId⟩

def crossingReports : List (Event FireRequest FireInput) :=
  [newAutomation .healthDaily, .call (.runNow "auto" "owner" "a" (draw 1 "a")),
    .call (.runNow "auto" "owner" "b" (draw 1 "b")), .resume 0 (snapshot 2 "a"),
    .resume 0 (snapshot 2 "b")]

def replayBeside : List (Event FireRequest FireInput) :=
  [newAutomation .webhook, .call (.runNow "auto" "owner" "a" (draw 1 "a")),
    .call (.beginFire "a" (draw 2 "c") true), .call (.endFire "a" .returned 3),
    .call (.runNow "auto" "owner" "b" (draw 4 "b")),
    .call (.replayFire "a" "owner" "r" (draw 5 "d"))]

theorem two_active_fires :
    ((fireRoutine sampleHost).run (fun _ _ => true) noAutomations crossingReports).map
        fireStatuses = some [("a", .queued), ("b", .queued)] ∧
      ((fireRoutine sampleHost).run (fun _ _ => true) noAutomations replayBeside).map
        fireStatuses = some [("a", .ignored), ("b", .queued), ("d", .queued)] := by
  constructor
  · decide +kernel
  · decide +kernel

end AgentMate.LocalFires
