import AgentMate.EventAdmission
import AgentMate.FireAttempts

/-! # Overlapping fires -/

namespace AgentMate

open TransitionSystem Interleaving Table List Option

/-- Every Run is an attempt of a stored fire, and an unfinished one is its current attempt. -/
structure FireInv (store : AutomationStore) : Prop where
  business : BusinessInv store.business
  automations : AutomationsInv store.automations
  ids : UniqueKey FireRow.rowId store.fires
  owned : ∀ fire ∈ store.fires,
    ∃ row ∈ store.automations, row.id = fire.automationId ∧ row.ownerId = fire.ownerId
  attempts : ∀ fire ∈ store.fires, 1 ≤ fire.maxAttempts ∧ fire.attempt ≤ fire.maxAttempts
  active : ∀ fire ∈ store.fires, ∀ other ∈ store.fires, fire.automationId = other.automationId →
    fire.status.isActive = true → other.status.isActive = true → fire.id = other.id
  runs : ∀ run ∈ store.business.runs, run.id ≠ "" ∧ ∃ fire ∈ store.fires, run.AttemptOf fire ∧
    (run.status.isTerminal = false → fire.runId = run.id ∧
      (fire.status = .queued ∨ fire.status = .running))
  current : ∀ fire ∈ store.fires, ∃ run ∈ store.business.runs, run.id = fire.runId ∧
    run.AttemptOf fire

section

variable {store next : AutomationStore} {fire : FireRow} {run : BusinessRun}

theorem at_work_active {fire : FireRow} (working : fire.status = .queued ∨ fire.status = .running) :
    fire.status.isActive = true := by
  rcases working with queued | running
  · rw [queued]
    rfl
  · rw [running]
    rfl

theorem attempt_of_moved {moved : String} {old new : BusinessRun} (moves : old.Moves moved new)
    (attempt : old.AttemptOf fire) : new.AttemptOf fire := by
  obtain ⟨number, bound, key⟩ := attempt.key
  exact ⟨moves.snapshot ▸ attempt.named, moves.snapshot ▸ attempt.automation,
    moves.owner.trans attempt.owner, number, bound, moves.key.trans key⟩

theorem attempt_fire_eq (inv : FireInv store) {other : FireRow} (mem : fire ∈ store.fires)
    (otherMem : other ∈ store.fires) (first : run.AttemptOf fire)
    (second : run.AttemptOf other) : fire = other :=
  unique_key_eq inv.ids mem otherMem (attempt_of_unique first second)

theorem unfinished_attempting (inv : FireInv store) (mem : run ∈ store.business.runs)
    (unfinished : run.status.isTerminal = false) :
    ∃ fire, Attempting store run fire ∧ (fire.status = .queued ∨ fire.status = .running) := by
  obtain ⟨-, fire, fireMem, attempt, going⟩ := inv.runs run mem
  obtain ⟨current, working⟩ := going unfinished
  refine ⟨fire, ?_, working⟩
  constructor
  · exact inv.automations
  · exact inv.ids
  · exact ⟨run, mem, rfl⟩
  · exact fireMem
  · exact attempt
  · exact current
  · intro other otherMem same
    obtain ⟨found, foundMem, named, other_⟩ := inv.current other otherMem
    obtain rfl := unique_key_eq inv.business.runs.ids foundMem mem (named.trans same)
    exact (attempt_of_unique attempt other_).symm
  · exact inv.owned fire fireMem

theorem settled_inv (inv : FireInv store) (runMem : run ∈ store.business.runs)
    (attempting : Attempting store run fire)
    (working : fire.status = .queued ∨ fire.status = .running)
    (signalled : Signalled store run fire next)
    (after : Live next run.id fire.id ∨ Ended next run.id fire.id) : FireInv next := by
  have wasActive : ∀ {row old : FireRow}, old ∈ store.fires → old.Settles fire.id row →
      row.status.isActive = true → old.status.isActive = true := by
    intro row old mem settles active
    by_cases same : old.id = fire.id
    · rw [unique_key_eq inv.ids mem attempting.fireStored same]
      exact at_work_active working
    · rw [← settles.status same]
      exact active
  constructor
  · exact signalled.business
  · exact automations_kept_inv signalled.automations inv.automations
  · exact rewritten_unique signalled.fires inv.ids
  · intro row mem
    obtain ⟨old, oldMem, -, settles⟩ := signalled.fires.rows row mem
    rw [settles.keeps.automation, settles.keeps.owner]
    exact stored_kept signalled.automations inv.automations (inv.owned old oldMem)
  · intro row mem
    obtain ⟨old, oldMem, -, settles⟩ := signalled.fires.rows row mem
    rw [settles.keeps.maxAttempts, settles.attempt]
    exact inv.attempts old oldMem
  · intro row mem other otherMem same active otherActive
    obtain ⟨old, oldMem, sameId, settles⟩ := signalled.fires.rows row mem
    obtain ⟨old', oldMember', sameId', settles'⟩ := signalled.fires.rows other otherMem
    rw [settles.keeps.automation, settles'.keeps.automation] at same
    have one := inv.active old oldMem old' oldMember' same (wasActive oldMem settles active)
      (wasActive oldMember' settles' otherActive)
    exact Eq.trans sameId (one.trans (Eq.symm sameId'))
  · intro row mem
    obtain ⟨old, oldMem, sameRun, moves⟩ := signalled.runs.rows row mem
    obtain ⟨given, owner, ownerMem, attempt, going⟩ := inv.runs old oldMem
    obtain ⟨later, laterMem, sameFire, settles⟩ :=
      rewritten_forward signalled.fires inv.ids ownerMem
    refine ⟨fun empty => given (Eq.trans (Eq.symm sameRun) empty), later, laterMem,
      attempt_of_kept (attempt_of_moved moves attempt) sameFire settles.keeps, ?_⟩
    intro unfinished
    by_cases mine : old.id = run.id
    · obtain rfl := unique_key_eq inv.business.runs.ids oldMem runMem mine
      obtain rfl := attempt_fire_eq inv ownerMem attempting.fireStored attempt attempting.attempt
      rcases after with live | settled
      · exact ⟨settles.run.trans (attempting.current.trans (Eq.symm sameRun)),
          live.fire later laterMem sameFire⟩
      · rw [settled.run row mem sameRun] at unfinished
        cases unfinished
    · rw [moves.status mine] at unfinished
      obtain ⟨current, going⟩ := going unfinished
      have different : owner.id ≠ fire.id := by
        intro same
        obtain rfl := unique_key_eq inv.ids ownerMem attempting.fireStored same
        exact mine (current.symm.trans attempting.current)
      rw [settles.status different]
      exact ⟨settles.run.trans (current.trans (Eq.symm sameRun)), going⟩
  · intro row mem
    obtain ⟨old, oldMem, sameFire, settles⟩ := signalled.fires.rows row mem
    obtain ⟨found, foundMem, named, attempt⟩ := inv.current old oldMem
    obtain ⟨later, laterMem, sameRun, moves⟩ :=
      rewritten_forward signalled.runs inv.business.runs.ids foundMem
    refine ⟨later, laterMem, ?_, ?_⟩
    · exact Eq.trans sameRun (named.trans settles.run.symm)
    · exact attempt_of_kept (attempt_of_moved moves attempt) sameFire settles.keeps

variable {signals : List RunSignal} {now : Time} {fireId : String} {automation : AutomationRow}

theorem signals_inv {text : PyText} {runId : String} (inv : FireInv store)
    (endLast : endsLast signals = true) :
    FireInv (store.signals text runId signals now) := by
  rw [AutomationStore.signals]
  split
  · exact inv
  · next run found =>
    split
    · exact inv
    · next unfinished =>
      cases done : signals.foldlM (fun store signal => store.signal text run now signal)
          store with
      | error error => exact inv
      | ok next =>
        have mem := mem_of_find?_eq_some found
        obtain ⟨fire, attempting, working⟩ :=
          unfinished_attempting inv mem (Bool.eq_false_iff.mpr unfinished)
        have live : Live store run.id fire.id := by
          constructor
          · intro row rowMem same
            rw [unique_key_eq inv.business.runs.ids rowMem mem same]
            exact Bool.eq_false_iff.mpr unfinished
          · intro row rowMem same
            rw [unique_key_eq inv.ids rowMem attempting.fireStored same]
            exact working
        obtain ⟨signalled, after⟩ :=
          signals_settle attempting inv.business live endLast done
        exact settled_inv inv mem attempting working signalled after

theorem ignored_inv (inv : FireInv store)
    (idle : ∀ fire ∈ store.fires, fire.id = fireId → fire.status ≠ .queued ∧ fire.status ≠ .running) :
    FireInv (store.ignoreFire now fireId) := by
  have rows : ∀ row ∈ (store.ignoreFire now fireId).fires, ∃ old ∈ store.fires, row.id = old.id ∧
      old.Keeps row ∧ row.attempt = old.attempt ∧ row.runId = old.runId ∧
      (row.status.isActive = true → old.status.isActive = true) := by
    intro row mem
    obtain ⟨old, oldMem, rfl⟩ := mem_update_where.mp mem
    refine ⟨old, oldMem, ?_⟩
    split
    · exact ⟨rfl, ⟨rfl, rfl, rfl, rfl, Nat.le_refl _⟩, rfl, rfl, nofun⟩
    · exact ⟨rfl, fire_keeps_self old, rfl, rfl, id⟩
  have stays : ∀ fire ∈ store.fires, (fire.status = .queued ∨ fire.status = .running) →
      fire ∈ (store.ignoreFire now fireId).fires := by
    intro fire mem working
    apply mem_update_of_not_chosen mem
    intro same
    obtain ⟨notQueued, notRunning⟩ := idle fire mem same
    exact working.elim notQueued notRunning
  constructor
  · exact inv.business
  · exact inv.automations
  · exact unique_key_update (fun _ => rfl) inv.ids
  · intro row mem
    obtain ⟨old, oldMem, -, keeps, -⟩ := rows row mem
    rw [keeps.automation, keeps.owner]
    exact inv.owned old oldMem
  · intro row mem
    obtain ⟨old, oldMem, -, keeps, attempt, -⟩ := rows row mem
    rw [keeps.maxAttempts, attempt]
    exact inv.attempts old oldMem
  · intro row mem other otherMem same active otherActive
    obtain ⟨old, oldMem, sameId, keeps, -, -, was⟩ := rows row mem
    obtain ⟨old', oldMember', sameId', keeps', -, -, was'⟩ := rows other otherMem
    rw [keeps.automation, keeps'.automation] at same
    have one := inv.active old oldMem old' oldMember' same (was active) (was' otherActive)
    exact sameId.trans (one.trans sameId'.symm)
  · intro run mem
    obtain ⟨given, owner, ownerMem, attempt, going⟩ := inv.runs run mem
    cases unfinished : run.status.isTerminal with
    | false =>
      obtain ⟨current, working⟩ := going unfinished
      exact ⟨given, owner, stays owner ownerMem working, attempt, fun _ => ⟨current, working⟩⟩
    | true =>
      refine ⟨given, _, mem_update_where.mpr ⟨owner, ownerMem, rfl⟩, ?_, nofun⟩
      split
      · exact attempt_of_kept attempt rfl ⟨rfl, rfl, rfl, rfl, Nat.le_refl _⟩
      · exact attempt
  · intro row mem
    obtain ⟨old, oldMem, sameId, keeps, -, runId, -⟩ := rows row mem
    obtain ⟨run, runMem, named, attempt⟩ := inv.current old oldMem
    exact ⟨run, runMem, named.trans runId.symm, attempt_of_kept attempt sameId keeps⟩

structure FireAdvanced (store : AutomationStore) (fire started : FireRow)
    (next : AutomationStore) : Prop where
  ids : UniqueKey FireRow.rowId next.fires
  here : started ∈ next.fires
  rows : ∀ row ∈ next.fires, row = started ∨ (row ∈ store.fires ∧ row.id ≠ fire.id)
  others : ∀ row ∈ store.fires, row.id ≠ fire.id → row ∈ next.fires

/-- Nothing of the automation is going on but this fire, which may have another attempt. -/
structure MayStart (store : AutomationStore) (automation : AutomationRow) (fire : FireRow) :
    Prop where
  same : fire.automationId = automation.id
  owner : fire.ownerId = automation.ownerId
  budget : 1 ≤ fire.maxAttempts
  alone : ∀ other ∈ store.fires, other.automationId = fire.automationId →
    other.status.isActive = true → other.id = fire.id
  quiet : ∀ run ∈ store.business.runs, run.AttemptOf fire → run.status.isTerminal = true
  counted : ∀ run ∈ store.business.runs, run.clientRequestId ≠ attemptKey fire.id (fire.attempt + 1)
  stored : ∀ other ∈ store.fires, other.id = fire.id → other = fire

theorem may_start_free (may : MayStart store automation fire) :
    store.business.runByKey? automation.ownerId (attemptKey fire.id (fire.attempt + 1)) = none := by
  rw [BusinessStore.runByKey?, find?_eq_none]
  intro run mem
  rw [has_key_iff]
  exact fun keyed => may.counted run mem keyed.2

theorem started_inv {sessionId : String} {added : BusinessRun} (inv : FireInv store)
    (known : store.Known automation) (may : MayStart store automation fire)
    (budget : fire.attempt + 1 ≤ if fire.maxAttempts = 0 then 1 else fire.maxAttempts)
    (business : BusinessInv next.business)
    (automations : AutomationsKept store.automations next.automations)
    (runs : runColumns.insert store.business.runs added = .ok next.business.runs)
    (attempt : NewAttempt automation fire added)
    (advanced : FireAdvanced store fire (fire.started sessionId added.id now) next) :
    FireInv next := by
  obtain ⟨appended, -, -⟩ := insert_ok runs
  have addedAttempt : added.AttemptOf (fire.started sessionId added.id now) :=
    ⟨attempt.fire, by rw [attempt.automation, ← may.same]; rfl,
      attempt.owner.trans may.owner.symm, fire.attempt + 1, Nat.le_refl _, attempt.key⟩
  have startedKeeps : fire.Keeps (fire.started sessionId added.id now) :=
    ⟨rfl, rfl, rfl, rfl, Nat.le_succ _⟩
  have kept : ∀ run ∈ store.business.runs, run ∈ next.business.runs := by
    intro run mem
    rw [appended]
    exact mem_append_left _ mem
  constructor
  · exact business
  · exact automations_kept_inv automations inv.automations
  · exact advanced.ids
  · intro row mem
    apply stored_kept automations inv.automations
    rcases advanced.rows row mem with rfl | ⟨old, -⟩
    · obtain ⟨stored, storedMem, same, owner⟩ := known.stored
      exact ⟨stored, storedMem, same.trans may.same.symm, owner.trans may.owner.symm⟩
    · exact inv.owned row old
  · intro row mem
    rcases advanced.rows row mem with rfl | ⟨old, -⟩
    · refine ⟨may.budget, ?_⟩
      rw [if_neg (Nat.one_le_iff_ne_zero.mp may.budget)] at budget
      exact budget
    · exact inv.attempts row old
  · intro row mem other otherMem same active otherActive
    rcases advanced.rows row mem with rfl | ⟨old, different⟩ <;>
      rcases advanced.rows other otherMem with rfl | ⟨old', different'⟩
    · rfl
    · exact absurd (may.alone other old' same.symm otherActive) different'
    · exact absurd (may.alone row old same active) different
    · exact inv.active row old other old' same active otherActive
  · intro run mem
    rw [appended] at mem
    rcases mem_append.mp mem with old | new
    · obtain ⟨given, owner, ownerMem, of, going⟩ := inv.runs run old
      by_cases mine : owner.id = fire.id
      · obtain rfl := may.stored owner ownerMem mine
        refine ⟨given, _, advanced.here, attempt_of_kept of rfl startedKeeps, ?_⟩
        intro unfinished
        rw [may.quiet run old of] at unfinished
        cases unfinished
      · exact ⟨given, owner, advanced.others owner ownerMem mine, of, going⟩
    · rw [mem_singleton.mp new]
      exact ⟨attempt.given, _, advanced.here, addedAttempt, fun _ => ⟨rfl, Or.inl rfl⟩⟩
  · intro row mem
    rcases advanced.rows row mem with rfl | ⟨old, -⟩
    · refine ⟨added, ?_, rfl, addedAttempt⟩
      rw [appended]
      exact mem_append_right _ (mem_singleton.mpr rfl)
    · obtain ⟨found, foundMem, named, of⟩ := inv.current row old
      exact ⟨found, kept found foundMem, named, of⟩

theorem later_attempts_free (inv : FireInv store) {number : Nat}
    (uncounted : ∀ other ∈ store.fires, other.id = fire.id → other.attempt < number) :
    ∀ run ∈ store.business.runs, run.clientRequestId ≠ attemptKey fire.id number := by
  intro run mem key
  obtain ⟨-, owner, ownerMem, attempt, -⟩ := inv.runs run mem
  obtain ⟨counted, bound, named⟩ := attempt.key
  obtain ⟨same, rfl⟩ := attempt_key_injective (named.symm.trans key)
  exact absurd (uncounted owner ownerMem same) (Nat.not_lt.mpr bound)

theorem retry_may_start {fireKey : String} (inv : FireInv store) (known : store.Known automation)
    (found : store.fireByKey? automation.id fireKey = some fire)
    (waits : fire.status = .retryWait) : MayStart store automation fire := by
  obtain ⟨mem, same, -⟩ := fire_by_key_ok found
  obtain ⟨row, rowMem, rowSame, owner⟩ := inv.owned fire mem
  obtain ⟨stored, storedMem, storedSame, storedOwner⟩ := known.stored
  have one : row = stored := unique_key_eq inv.automations.ids rowMem storedMem
    (rowSame.trans (same.trans storedSame.symm))
  constructor
  · exact same
  · rw [← owner, one, storedOwner]
  · exact (inv.attempts fire mem).1
  · intro other otherMem sameAutomation active
    exact inv.active other otherMem fire mem sameAutomation active (by rw [waits]; rfl)
  · intro run runMem attempt
    obtain ⟨-, owner', ownerMem, of, going⟩ := inv.runs run runMem
    obtain rfl := attempt_fire_eq inv ownerMem mem of attempt
    cases unfinished : run.status.isTerminal with
    | true => rfl
    | false =>
      obtain ⟨-, queued | running⟩ := going unfinished
      · rw [waits] at queued
        cases queued
      · rw [waits] at running
        cases running
  · apply later_attempts_free inv
    intro other otherMem sameId
    rw [unique_key_eq inv.ids otherMem mem sameId]
    exact Nat.lt_succ_self _
  · exact fun other otherMem sameId => unique_key_eq inv.ids otherMem mem sameId

theorem new_may_start (inv : FireInv store) (idle : store.activeFire? automation.id = none)
    (same : fire.automationId = automation.id) (owner : fire.ownerId = automation.ownerId)
    (budget : 1 ≤ fire.maxAttempts) (fresh : ∀ other ∈ store.fires, other.id ≠ fire.id) :
    MayStart store automation fire := by
  constructor
  · exact same
  · exact owner
  · exact budget
  · intro other mem sameAutomation active
    rw [active_fire_none idle other mem (sameAutomation.trans same)] at active
    cases active
  · intro run mem attempt
    obtain ⟨-, owner', ownerMem, of, -⟩ := inv.runs run mem
    exact absurd (attempt_of_unique of attempt) (fresh owner' ownerMem)
  · apply later_attempts_free inv
    intro other mem sameId
    exact absurd sameId (fresh other mem)
  · exact fun other mem sameId => absurd sameId (fresh other mem)

theorem enqueued_inv {fireKey : String} {result : EnqueueResult} (inv : FireInv store)
    (known : store.Known automation) (enqueued : Enqueued store automation fireKey next result) :
    FireInv next := by
  cases enqueued with
  | found => exact inv
  | skipped => exact inv
  | retried fire _ _ found waits started =>
    obtain ⟨mem, -, -⟩ := fire_by_key_ok found
    have waiting : fire.status = .retryWait := by
      rcases waits with none | waiting
      · obtain ⟨run, runMem, named, -⟩ := inv.current fire mem
        exact absurd (named.trans none) (inv.runs run runMem).1
      · exact waiting
    have may := retry_may_start inv known found waiting
    obtain ⟨sessionId, _, now, -, fires, added⟩ := started.fires
    obtain ⟨run, runs, attempt, rfl⟩ := added (may_start_free may)
    apply started_inv inv known may started.budget (started.business inv.business)
      started.automations runs attempt
    constructor
    · rw [fires]
      exact unique_key_update (fun _ => rfl) inv.ids
    · rw [fires]
      exact mem_update_of_chosen mem rfl
    · intro row rowMem
      rw [fires] at rowMem
      obtain ⟨old, oldMem, rfl⟩ := mem_update_where.mp rowMem
      by_cases same : old.id = fire.id
      · rw [if_pos same, may.stored old oldMem same]
        exact Or.inl rfl
      · rw [if_neg same]
        exact Or.inr ⟨oldMem, same⟩
    · intro row rowMem different
      rw [fires]
      exact mem_update_of_not_chosen rowMem different
  | fired fire inserted _ _ idle same owner key attempts budget none stored started =>
    obtain ⟨rfl, fresh, -, -⟩ := insert_fire_ok stored
    have may := new_may_start inv (idle known.skips) same owner budget fresh
    obtain ⟨sessionId, _, now, -, fires, added⟩ := started.fires
    have free := may_start_free may
    obtain ⟨run, runs, attempt, rfl⟩ := added free
    have last : fire ∈ store.fires ++ [fire] :=
      mem_append_right _ (mem_singleton.mpr rfl)
    apply started_inv inv known may started.budget (started.business inv.business)
      started.automations runs attempt
    constructor
    · rw [fires]
      exact unique_key_update (fun _ => rfl) (unique_key_append inv.ids fresh)
    · rw [fires]
      exact mem_update_of_chosen last rfl
    · intro row rowMem
      rw [fires] at rowMem
      obtain ⟨old, oldMem, rfl⟩ := mem_update_where.mp rowMem
      rcases mem_append.mp oldMem with before | new
      · rw [if_neg (fresh old before)]
        exact Or.inr ⟨before, fresh old before⟩
      · rw [mem_singleton.mp new, if_pos rfl]
        exact Or.inl rfl
    · intro row rowMem different
      rw [fires]
      exact mem_update_of_not_chosen (mem_append_left _ rowMem) different

/-- An ignored fire is not at work when the write comes, and a transaction that ends a Run
writes no other status after it. -/
def fireGuard (system : System AutomationStore AutomationTicket) :
    Event AutomationRequest AutomationInput → Bool
  | .call (.signals _ signals _) => endsLast signals
  | .call _ => true
  | .resume index _ =>
    match system.pending[index]? with
    | some (.ignore fireId) => system.data.fires.all fun fire =>
      fire.id ≠ fireId || (fire.status ≠ .queued && fire.status ≠ .running)
    | _ => true
  | .crash _ => true

def AutomationStore.Idle (store : AutomationStore) (fireId : String) : Prop :=
  ∀ fire ∈ store.fires, fire.id = fireId → fire.status ≠ .queued ∧ fire.status ≠ .running

theorem guard_ignore {system : System AutomationStore AutomationTicket} {index : Nat}
    {input : AutomationInput} (guarded : fireGuard system (.resume index input) = true)
    (found : system.pending[index]? = some (.ignore fireId)) : system.data.Idle fireId := by
  rw [fireGuard, found] at guarded
  intro fire mem same
  have idle := List.all_eq_true.mp guarded fire mem
  simpa [same] using idle

variable {host : AutomationHost}

def skipRules (store : AutomationStore) : FireRules where
  signals signals := endsLast signals = true
  ignored := store.Idle
  scheduled := True

theorem guard_admits : Admits (fun system event => fireGuard system event = true) skipRules :=
  ⟨fun _ _ _ _ guarded => guarded, fun _ _ _ _ guarded found => guard_ignore guarded found,
    fun _ => trivial⟩

theorem change_inv (inv : FireInv store) (change : FireChange host (skipRules store) store next) :
    FireInv next := by
  cases change with
  | rest _ business fires follow _ =>
    refine ⟨business ▸ inv.business, follow.inv, fires ▸ inv.ids, ?_, fires ▸ inv.attempts,
      fires ▸ inv.active, ?_, ?_⟩
    · rw [fires]
      intro fire mem
      obtain ⟨row, rowMem, same, owner⟩ := inv.owned fire mem
      obtain ⟨after, afterMem, still, sameOwner⟩ := follow.stored row rowMem
      exact ⟨after, afterMem, still.trans same, sameOwner.trans owner⟩
    · rw [business, fires]
      exact inv.runs
    · rw [business, fires]
      exact inv.current
  | signals runId signals now endLast => exact signals_inv inv endLast
  | ignored fireId now idle => exact ignored_inv inv idle
  | enqueued automation fireKey _ result known enqueued => exact enqueued_inv inv known enqueued

theorem fires_keep (host : AutomationHost) :
    Keeps (automationRoutine host) (fun system event => fireGuard system event = true) FireInv
      (fun store ticket => ticket.Known store) :=
  changes_keep guard_admits (fun _ inv => inv.automations) fun _ _ => change_inv

def AutomationStore.Final (store : AutomationStore) (fireId : String) : Prop :=
  ∃ fire ∈ store.fires, fire.id = fireId ∧ fire.status.isActive = false

theorem signals_final {text : PyText} {runId fireId : String} (inv : FireInv store)
    (final : store.Final fireId) : (store.signals text runId signals now).Final fireId := by
  obtain ⟨fire, mem, same, inactive⟩ := final
  rw [AutomationStore.signals]
  split
  · exact ⟨fire, mem, same, inactive⟩
  · next run found =>
    split
    · exact ⟨fire, mem, same, inactive⟩
    · next unfinished =>
      cases done : signals.foldlM (fun store signal => store.signal text run now signal)
          store with
      | error error => exact ⟨fire, mem, same, inactive⟩
      | ok next =>
        obtain ⟨own, attempting, working⟩ := unfinished_attempting inv
          (mem_of_find?_eq_some found) (Bool.eq_false_iff.mpr unfinished)
        have signalled := signals_signalled attempting (signalled_start inv.business) done
        obtain ⟨after, afterMem, still, settles⟩ :=
          rewritten_forward signalled.fires inv.ids mem
        have different : fire.id ≠ own.id := by
          intro equal
          rw [unique_key_eq inv.ids mem attempting.fireStored equal,
            at_work_active working] at inactive
          cases inactive
        exact ⟨after, afterMem, Eq.trans still same, settles.status different ▸ inactive⟩

theorem change_final (inv : FireInv store) (change : FireChange host (skipRules store) store next)
    (final : store.Final fireId) :
    next.Final fireId := by
  cases change with
  | rest _ _ fires _ _ =>
    rw [AutomationStore.Final, fires]
    exact final
  | signals runId signals now _ => exact signals_final inv final
  | ignored ignoredId now _ =>
    obtain ⟨fire, mem, same, inactive⟩ := final
    refine ⟨_, mem_update_where.mpr ⟨fire, mem, rfl⟩, ?_⟩
    split
    · exact ⟨same, rfl⟩
    · exact ⟨same, inactive⟩
  | enqueued automation fireKey _ result known enqueued =>
    obtain ⟨fire, mem, same, inactive⟩ := final
    cases enqueued with
    | found => exact ⟨fire, mem, same, inactive⟩
    | skipped => exact ⟨fire, mem, same, inactive⟩
    | retried started _ _ found waits start =>
      obtain ⟨startedMem, -, -⟩ := fire_by_key_ok found
      obtain ⟨_, _, _, -, fires, -⟩ := start.fires
      have different : fire.id ≠ started.id := by
        intro equal
        rw [unique_key_eq inv.ids mem startedMem equal] at inactive
        rcases waits with none | waiting
        · obtain ⟨run, runMem, named, -⟩ := inv.current started startedMem
          exact (inv.runs run runMem).1 (named.trans none)
        · rw [waiting] at inactive
          cases inactive
      refine ⟨fire, ?_, same, inactive⟩
      rw [fires]
      exact mem_update_of_not_chosen mem different
    | fired added inserted _ _ _ _ _ _ _ _ _ stored start =>
      obtain ⟨rfl, fresh, -, -⟩ := insert_fire_ok stored
      obtain ⟨_, _, _, -, fires, -⟩ := start.fires
      refine ⟨fire, ?_, same, inactive⟩
      rw [fires]
      exact mem_update_of_not_chosen (mem_append_left _ mem) (fresh fire mem)

theorem fresh_fires (fresh : store.Fresh) : FireInv store := by
  obtain ⟨sessions, messages, runs, automations, fires, -⟩ := fresh
  have none : ∀ {Row : Type} {columns : Columns Row} {rows : List Row}, rows = [] →
      columns.Inv rows := by
    rintro Row columns rows rfl
    exact ⟨nodup_nil, fun _ mem => absurd mem not_mem_nil⟩
  constructor
  · exact ⟨none sessions, none messages, none runs⟩
  · rw [automations]
    exact ⟨nodup_nil, fun _ mem => absurd mem not_mem_nil⟩
  · rw [fires]
    exact nodup_nil
  all_goals simp [fires, runs]

def BusinessRun.fireId? (run : BusinessRun) : Option String :=
  match run.requestSnapshot.get? "automation_fire_id" with
  | some (.str fireId) => some fireId
  | _ => none

theorem started_for_attempt (inv : FireInv store) (runMem : run ∈ store.business.runs)
    (mem : fire ∈ store.fires) (started : run.fireId? = some fire.id)
    (unfinished : run.status.isTerminal = false) :
    fire.runId = run.id ∧ fire.status.isActive = true := by
  obtain ⟨-, owner, ownerMem, attempt, going⟩ := inv.runs run runMem
  rw [BusinessRun.fireId?, attempt.named] at started
  obtain rfl := unique_key_eq inv.ids ownerMem mem (Option.some.inj started)
  obtain ⟨current, working⟩ := going unfinished
  exact ⟨current, at_work_active working⟩

end

/-- The skip policy in every run that meets the guard. -/
theorem fires_follow_skip_policy (host : AutomationHost)
    {system : System AutomationStore AutomationTicket}
    (reachable : ((automationRoutine host).machine AutomationStore.Fresh).Reachable
      (fun system event => fireGuard system event = true) system) :
    (∀ fire ∈ system.data.fires, ∀ other ∈ system.data.fires,
      fire.automationId = other.automationId → fire.status.isActive = true →
      other.status.isActive = true → fire = other) ∧
    (∀ fire ∈ system.data.fires, ∀ other ∈ system.data.fires,
      fire.automationId = other.automationId →
      ∀ run ∈ system.data.business.runs, ∀ run' ∈ system.data.business.runs,
      run.fireId? = some fire.id → run'.fireId? = some other.id →
      run.status.isTerminal = false → run'.status.isTerminal = false → run = run') ∧
    (∀ fire ∈ system.data.fires, fire.attempt ≤ fire.maxAttempts) ∧
    ∀ later, ((automationRoutine host).machine AutomationStore.Fresh).Path
        (fun system event => fireGuard system event = true) system later →
      ∀ fire ∈ system.data.fires, fire.status.isActive = false →
        ∀ after ∈ later.data.fires, after.id = fire.id → after.status.isActive = false := by
  have holds := reachable_holds (fires_keep host) (fun _ => fresh_fires) reachable
  have inv := holds.data
  have one : ∀ fire ∈ system.data.fires, ∀ other ∈ system.data.fires,
      fire.automationId = other.automationId → fire.status.isActive = true →
      other.status.isActive = true → fire = other := by
    intro fire mem other otherMem same active otherActive
    exact unique_key_eq inv.ids mem otherMem
      (inv.active fire mem other otherMem same active otherActive)
  refine ⟨one, ?_, fun fire mem => (inv.attempts fire mem).2, ?_⟩
  · intro fire mem other otherMem same run runMem run' runMember' started started'
      unfinished unfinished'
    obtain ⟨current, active⟩ := started_for_attempt inv runMem mem started unfinished
    obtain ⟨current', active'⟩ := started_for_attempt inv runMember' otherMem started' unfinished'
    obtain rfl := one fire mem other otherMem same active active'
    exact unique_key_eq inv.business.runs.ids runMem runMember' (current.symm.trans current')
  · intro later path fire mem inactive after afterMem same
    obtain ⟨laterHolds, final⟩ := path_keeps (fun store => store.Final fire.id) (fires_keep host)
      (fun _ _ _ held guarded move final => change_final held.data
        (move_change guard_admits held.data.automations held.pending guarded move) final)
      holds ⟨fire, mem, rfl, inactive⟩ path
    obtain ⟨stored, storedMem, named, still⟩ := final
    rw [unique_key_eq laterHolds.data.ids afterMem storedMem (same.trans named.symm)]
    exact still

def noAutomations : AutomationStore := ⟨noRecords, [], [], [], [], [], [], []⟩

theorem no_automations_fresh : noAutomations.Fresh :=
  ⟨rfl, rfl, rfl, rfl, rfl, rfl, rfl, rfl, rfl, rfl⟩

def byteText (bytes : List UInt8) : String :=
  String.ofList (bytes.map fun byte => Char.ofNat byte.toNat)

theorem byte_text_injective : Function.Injective byteText := by
  have number (byte : UInt8) : (Char.ofNat byte.toNat).toNat = byte.toNat := by
    have valid : byte.toNat.isValidChar := Or.inl (by have := byte.toNat_lt; omega)
    rw [Char.ofNat, dif_pos valid]
    rfl
  intro left right same
  have texts := congrArg String.toList same
  rw [byteText, byteText, String.toList_ofList, String.toList_ofList] at texts
  apply map_injective_iff.mpr _ texts
  intro byte other equal
  have numbers := congrArg Char.toNat equal
  rw [number, number] at numbers
  exact UInt8.toNat_inj.mp numbers

def listedDigest (listed : List (String × String)) (bytes : List UInt8) : String :=
  match listed.find? fun entry => utf8 entry.1 = bytes with
  | some entry => entry.2
  | none => "unlisted:" ++ byteText bytes

theorem listed_digest_injective {listed : List (String × String)} (once : UniqueKey Prod.snd listed)
    (plain : ∀ entry ∈ listed, afterPrefix? "unlisted:" entry.2 = none) :
    Function.Injective (listedDigest listed) := by
  have given (bytes : List UInt8) :
      (∃ entry ∈ listed, utf8 entry.1 = bytes ∧ listedDigest listed bytes = entry.2) ∨
        listedDigest listed bytes = "unlisted:" ++ byteText bytes := by
    rw [listedDigest]
    split
    · next entry found =>
      have matched := find?_some found
      rw [decide_eq_true_eq] at matched
      exact Or.inl ⟨entry, mem_of_find?_eq_some found, matched, rfl⟩
    · exact Or.inr rfl
  have apart {entry : String × String} {bytes : List UInt8} (mem : entry ∈ listed)
      (equal : entry.2 = "unlisted:" ++ byteText bytes) : False := by
    have absent := plain entry mem
    rw [after_prefix_eq_some.mpr equal] at absent
    cases absent
  intro left right same
  rcases given left with ⟨entry, mem, text, digest⟩ | digest <;>
    rcases given right with ⟨entry', member', text', digest'⟩ | digest'
  · have one := unique_key_eq once mem member' (digest.symm.trans (same.trans digest'))
    rw [← text, ← text', one]
  · exact (apart mem (digest.symm.trans (same.trans digest'))).elim
  · exact (apart member' (digest'.symm.trans (same.symm.trans digest))).elim
  · have texts := congrArg String.toList (digest.symm.trans (same.trans digest'))
    rw [String.toList_append, String.toList_append] at texts
    exact byte_text_injective (String.toList_inj.mp (append_cancel_left texts))

def sampleSignature (fireKey : String) : String :=
  "\x7b\"automation_id\":\"automation\",\"fire_key\":\"" ++ fireKey ++
    "\",\"model_ref\":null,\"project_id\":null,\"prompt\":\"Summarize\"," ++
    "\"routing_mode\":\"any_compatible\",\"target_device_id\":\"\"," ++
    "\"trigger_payload\":\x7b\x7d\x7d"

def sampleWebhookKey : String :=
  "webhook:8b1551f21a86b2a934f7c4069269cb2e23ab0f92f90a33231936ae9889e2b40d"

def sampleDigests : List (String × String) :=
  [(sampleSignature "manual:first",
      "7385e6bfbfd9c33aaa616af77129ae46594f8c6c93d9d9798a10bd883f9e6134"),
    (sampleSignature "manual:third",
      "a69617e7f10b1b7093a1f98219d0ddacdefcf7097190783d4f854005167f135e"),
    (sampleSignature "manual:manual",
      "dd39d52aa5652045f0e515cb00b0821f1776a4323e3191630eb78af664aba9f3"),
    (sampleSignature "scheduled:3600000",
      "e95bc0e949125aeed81c8ab1bfa33a4a280a6eee0130397c3e31c79cc6246120"),
    (sampleSignature sampleWebhookKey,
      "44410d47645fc93657ab781b041962743ab1749c626712a349215f47f0cbf925"),
    ("wh_sample:order-1", "8b1551f21a86b2a934f7c4069269cb2e23ab0f92f90a33231936ae9889e2b40d"),
    ("\x7b\x7d", "44136fa355b3678a1146ad16f7e8649e94fb4fc21fe77e8310c060f61caaff8a"),
    ("\x7b\"n\":1\x7d", "2bfd14f43d17fc7cea24e0917a8879b4b2f880b8baeec1b9d90fbaad655e71bd")]

theorem sample_digests_injective : Function.Injective (listedDigest sampleDigests) := by
  apply listed_digest_injective
  · rw [UniqueKey]
    decide +kernel
  · decide +kernel

def sampleAutomationHost : AutomationHost where
  dumps := jsonDumpsUnsorted ratioFloats
  strOf := jsonDumpsUnsorted ratioFloats
  intOf text :=
    if text ≠ "" ∧ text.toList.all Char.isDigit then some (readInt text.toList) else none
  canonical := jsonDumps ratioFloats
  spaced := jsonDumps ratioFloats
  loads bytes := jsonLoads ratioFloats (byteText bytes)
  sha256 := listedDigest sampleDigests
  sha256_injective := sample_digests_injective
  hmacSha256 secret bytes :=
    if secret ≠ "whsec_sample" then ""
    else if bytes = utf8 "0.\x7b\x7d" then
      "8583ad36b1376eba4f630ad6d318f4ac6d32c19d68baa4ce7b1fe9b62904b6d7"
    else if bytes = utf8 "0.\x7b\"n\":1\x7d" then
      "25fcef848c931343e729e1a71c136334387fab9b6171910c89fc4e87ec4e65b3"
    else ""
  knownZone _ := false
  dailyTarget _ _ _ now := now

def samplePatch : AutomationPatch :=
  ⟨some "Report", some "Summarize", none, none, none, none, none, none, none, none, none, none,
    none, none, none, none, none⟩

def drawnAs (now : Time) (name : String) (given : name ++ "-run" ≠ "") : AutomationInput where
  draw := ⟨now, name, ⟨name ++ "-session", name ++ "-run", name ++ "-message", now⟩, none,
    undisturbed, given⟩
  identifier := name
  allowed := true

theorem automation_named : "automation" ≠ "" := by decide

theorem first_named : "first" ++ "-run" ≠ "" := by decide

theorem second_named : "second" ++ "-run" ≠ "" := by decide

def endedWith (outcome : RunOutcome) (eventId : String) : RunSignal :=
  .ended ⟨outcome, eventId, eventId ++ "-message", "", "", "", ⟨0, 0⟩⟩

def firstAttemptFailed : List (Event AutomationRequest AutomationInput) :=
  [.call (.createAutomation "automation" "owner" samplePatch true 0 (by decide)),
    .call (.runNow "automation" "owner" true), .resume 0 (drawnAs 1 "first" (by decide)),
    .call (.signals "first-run" [.started, endedWith .failed "first-end"] 2)]

def retryAt (index : Nat) : List (Event AutomationRequest AutomationInput) :=
  [.call (.scan 40), .resume index (drawnAs 40 "second" (by decide)),
    .resume index (drawnAs 40 "second" (by decide)), .resume index (drawnAs 40 "second" (by decide)),
    .resume index (drawnAs 40 "second" (by decide))]

def secondAttemptEnds (outcome : RunOutcome) : Event AutomationRequest AutomationInput :=
  .call (.signals "second-run" [.started, endedWith outcome "second-end"] 50)

theorem retried_fire_stays_final : ∃ system later : System AutomationStore AutomationTicket,
    (automationRoutine sampleAutomationHost).run fireGuard noAutomations
        (firstAttemptFailed ++ retryAt 0 ++ [secondAttemptEnds .completed]) = some system ∧
      (automationRoutine sampleAutomationHost).next system
        (.call (.runNow "automation" "owner" true)) = some later ∧
      ∃ fire ∈ system.data.fires, fire.status = .succeeded ∧ fire.attempt = 2 ∧
        ∀ after ∈ later.data.fires, after.id = fire.id → after.status.isActive = false := by
  have ran : ((automationRoutine sampleAutomationHost).run fireGuard noAutomations
      (firstAttemptFailed ++ retryAt 0 ++ [secondAttemptEnds .completed])).map (fun system =>
        (fireGuard system (.call (.runNow "automation" "owner" true)),
          ((automationRoutine sampleAutomationHost).next system
            (.call (.runNow "automation" "owner" true))).isSome,
          system.data.fires.any fun fire => fire.status = .succeeded && fire.attempt = 2)) =
      some (true, true, true) := by decide +kernel
  obtain ⟨system, done, computed⟩ := map_eq_some_iff.mp ran
  obtain ⟨guarded, computed⟩ := Prod.mk.inj computed
  obtain ⟨possible, found⟩ := Prod.mk.inj computed
  obtain ⟨later, step⟩ := isSome_iff_exists.mp possible
  obtain ⟨fire, mem, chosen⟩ := List.any_eq_true.mp found
  rw [Bool.and_eq_true, decide_eq_true_eq, decide_eq_true_eq] at chosen
  have policy := fires_follow_skip_policy sampleAutomationHost
    (run_reachable fireGuard no_automations_fresh done)
  refine ⟨system, later, done, step, fire, mem, chosen.1, chosen.2, ?_⟩
  exact policy.2.2.2 later (.step (.refl system) guarded step) fire mem (by rw [chosen.1]; rfl)

theorem late_ignore_breaks_policy : ∃ system later : System AutomationStore AutomationTicket,
    ((automationRoutine sampleAutomationHost).machine AutomationStore.Fresh).Reachable Anything
        system ∧
      (automationRoutine sampleAutomationHost).next system (secondAttemptEnds .failed) =
        some later ∧
      (∃ fire ∈ system.data.fires, ∃ other ∈ system.data.fires,
        fire.automationId = other.automationId ∧
        ∃ run ∈ system.data.business.runs, ∃ run' ∈ system.data.business.runs,
          run.fireId? = some fire.id ∧ run'.fireId? = some other.id ∧
          run.status.isTerminal = false ∧ run'.status.isTerminal = false ∧ run.id ≠ run'.id) ∧
      ∃ fire ∈ system.data.fires, fire.status.isActive = false ∧
        ∃ after ∈ later.data.fires, after.id = fire.id ∧ after.status.isActive = true := by
  have ran : ((automationRoutine sampleAutomationHost).run (fun _ _ => true) noAutomations
      (firstAttemptFailed ++ [.call (.ignore "first" "owner")] ++ retryAt 1 ++
        [.resume 0 (drawnAs 60 "third" (by decide)), .call (.runNow "automation" "owner" true),
          .resume 0 (drawnAs 60 "third" (by decide))])).map (fun system =>
        (decide (∃ fire ∈ system.data.fires, ∃ other ∈ system.data.fires,
          fire.automationId = other.automationId ∧
          ∃ run ∈ system.data.business.runs, ∃ run' ∈ system.data.business.runs,
            run.fireId? = some fire.id ∧ run'.fireId? = some other.id ∧
            run.status.isTerminal = false ∧ run'.status.isTerminal = false ∧ run.id ≠ run'.id),
          ((automationRoutine sampleAutomationHost).next system (secondAttemptEnds .failed)).map
            fun later => decide (∃ fire ∈ system.data.fires, fire.status.isActive = false ∧
              ∃ after ∈ later.data.fires, after.id = fire.id ∧ after.status.isActive = true))) =
      some (true, some true) := by decide +kernel
  obtain ⟨system, done, computed⟩ := map_eq_some_iff.mp ran
  obtain ⟨overlap, written⟩ := Prod.mk.inj computed
  obtain ⟨later, step, reactivated⟩ := map_eq_some_iff.mp written
  refine ⟨system, later, ?_, step, of_decide_eq_true overlap, of_decide_eq_true reactivated⟩
  exact reachable_weaken (fun _ _ _ => trivial)
    (run_reachable (fun _ _ => true) no_automations_fresh done)

end AgentMate
