import AgentMate.AutomationStore
import AgentMate.TextKeys
import AgentMate.TurnIdempotence

/-! # Rows of the automation store -/

namespace AgentMate

open TextKeys Rollback Table List

theorem attempt_key_eq (fireId : String) (attempt : Nat) : attemptKey fireId attempt =
    "automation-fire:" ++ fireId ++ ":attempt:" ++ toString attempt := rfl

theorem attempt_key_text (fireId : String) (attempt : Nat) :
    (attemptKey fireId attempt).toList = ("automation-fire:".toList ++ fireId.toList ++
      ":attempt".toList) ++ ':' :: (toString attempt).toList := by
  have mark : (":attempt:" : String).toList = ":attempt".toList ++ [':'] := by simp
  rw [attempt_key_eq, String.toList_append, String.toList_append, String.toList_append, mark]
  simp only [append_assoc, singleton_append]

theorem attempt_key_injective {fireId fireId' : String} {attempt attempt' : Nat}
    (same : attemptKey fireId attempt = attemptKey fireId' attempt') :
    fireId = fireId' ∧ attempt = attempt' := by
  have texts := congrArg String.toList same
  rw [attempt_key_text, attempt_key_text] at texts
  -- The number has no colon, so the last colon of both keys is the one before it.
  obtain ⟨ids, numbers⟩ := last_mark_unique colon_not_in_number colon_not_in_number texts
  constructor
  · exact String.toList_inj.mp (append_cancel_left (append_cancel_right ids))
  · exact number_text_injective (String.toList_inj.mp numbers)

def AutomationRow.rowId (row : AutomationRow) : String := row.id

def FireRow.rowId (fire : FireRow) : String := fire.id

def BusinessRun.rowId (run : BusinessRun) : String := run.id

structure AutomationRow.Keeps (old new : AutomationRow) : Prop where
  owner : new.ownerId = old.ownerId
  skips : old.skips = true → new.skips = true

structure AutomationRow.Stays (old new : AutomationRow) : Prop where
  keeps : old.Keeps new
  schedule : new.nextRunAt = old.nextRunAt

theorem automation_keeps_self (row : AutomationRow) : row.Keeps row := ⟨rfl, id⟩

theorem automation_stays_self (row : AutomationRow) : row.Stays row :=
  ⟨automation_keeps_self row, rfl⟩

theorem automation_stays_trans {old between new : AutomationRow} (first : old.Stays between)
    (second : between.Stays new) : old.Stays new :=
  ⟨⟨second.keeps.owner.trans first.keeps.owner,
    fun skips => second.keeps.skips (first.keeps.skips skips)⟩,
    second.schedule.trans first.schedule⟩

structure AutomationsInv (rows : List AutomationRow) : Prop where
  ids : UniqueKey AutomationRow.rowId rows
  given : ∀ row ∈ rows, row.id ≠ "" ∧ row.skips = true

structure AutomationStore.Known (store : AutomationStore) (automation : AutomationRow) : Prop where
  given : automation.id ≠ ""
  skips : automation.skips = true
  stored : ∃ row ∈ store.automations, row.id = automation.id ∧ row.ownerId = automation.ownerId

abbrev AutomationsRewritten (rows next : List AutomationRow) : Prop :=
  Rewritten AutomationRow.rowId AutomationRow.Keeps rows next

abbrev AutomationsKept (rows next : List AutomationRow) : Prop :=
  Rewritten AutomationRow.rowId AutomationRow.Stays rows next

section

variable {store next : AutomationStore} {rows : List AutomationRow}

theorem automations_kept (rows : List AutomationRow) : AutomationsKept rows rows :=
  rewritten_refl automation_stays_self rows

theorem kept_rewritten {after : List AutomationRow} (kept : AutomationsKept rows after) :
    AutomationsRewritten rows after :=
  rewritten_mono (fun _ _ stays => stays.keeps) kept

theorem same_policy_keeps {old new : AutomationRow} (owner : new.ownerId = old.ownerId)
    (policy : new.concurrencyPolicy = old.concurrencyPolicy) : old.Keeps new := by
  refine ⟨owner, fun skips => ?_⟩
  rw [AutomationRow.skips, policy]
  exact skips

theorem automations_updated {chosen : AutomationRow → Prop} [DecidablePred chosen]
    {assign : AutomationRow → AutomationRow} (rows : List AutomationRow)
    (same : ∀ row, ((assign row).id, (assign row).ownerId, (assign row).concurrencyPolicy,
      (assign row).nextRunAt) = (row.id, row.ownerId, row.concurrencyPolicy, row.nextRunAt)) :
    AutomationsKept rows (updateWhere chosen assign rows) := by
  apply rewritten_update
  · intro row
    exact (Prod.mk.inj (same row)).1
  · exact automation_stays_self
  · intro row _ _
    obtain ⟨owner, rest⟩ := Prod.mk.inj (Prod.mk.inj (same row)).2
    obtain ⟨policy, schedule⟩ := Prod.mk.inj rest
    exact ⟨same_policy_keeps owner policy, schedule⟩

theorem automations_rewritten_inv (rewritten : AutomationsRewritten rows next.automations)
    (inv : AutomationsInv rows) : AutomationsInv next.automations := by
  constructor
  · exact rewritten_unique rewritten inv.ids
  · intro row mem
    obtain ⟨old, oldMem, same, keeps⟩ := rewritten.rows row mem
    obtain ⟨given, skips⟩ := inv.given old oldMem
    exact ⟨fun empty => given (same.symm.trans empty), keeps.skips skips⟩

theorem automations_kept_inv (kept : AutomationsKept rows next.automations)
    (inv : AutomationsInv rows) : AutomationsInv next.automations :=
  automations_rewritten_inv (kept_rewritten kept) inv

theorem stored_rewritten (rewritten : AutomationsRewritten store.automations next.automations)
    (inv : AutomationsInv store.automations) {id ownerId : String}
    (stored : ∃ row ∈ store.automations, row.id = id ∧ row.ownerId = ownerId) :
    ∃ row ∈ next.automations, row.id = id ∧ row.ownerId = ownerId := by
  obtain ⟨row, mem, same, owner⟩ := stored
  obtain ⟨after, afterMem, still, keeps⟩ := rewritten_forward rewritten inv.ids mem
  exact ⟨after, afterMem, still.trans same, keeps.owner.trans owner⟩

theorem stored_kept (kept : AutomationsKept store.automations next.automations)
    (inv : AutomationsInv store.automations) {id ownerId : String}
    (stored : ∃ row ∈ store.automations, row.id = id ∧ row.ownerId = ownerId) :
    ∃ row ∈ next.automations, row.id = id ∧ row.ownerId = ownerId :=
  stored_rewritten (kept_rewritten kept) inv stored

theorem read_automation_known (inv : AutomationsInv store.automations) {id : String}
    {automation : AutomationRow} (found : store.automation? id = some automation) :
    store.Known automation := by
  have mem := mem_of_find?_eq_some found
  obtain ⟨given, skips⟩ := inv.given automation mem
  exact ⟨given, skips, automation, mem, rfl, rfl⟩

end

structure BusinessRun.AttemptOf (run : BusinessRun) (fire : FireRow) : Prop where
  named : run.requestSnapshot.get? "automation_fire_id" = some (.str fire.id)
  automation : run.requestSnapshot.get? "automation_id" = some (.str fire.automationId)
  owner : run.ownerId = fire.ownerId
  key : ∃ attempt ≤ fire.attempt, run.clientRequestId = attemptKey fire.id attempt

structure FireRow.Keeps (old new : FireRow) : Prop where
  automation : new.automationId = old.automationId
  owner : new.ownerId = old.ownerId
  key : new.fireKey = old.fireKey
  maxAttempts : new.maxAttempts = old.maxAttempts
  attempt : old.attempt ≤ new.attempt

theorem fire_keeps_self (fire : FireRow) : fire.Keeps fire := ⟨rfl, rfl, rfl, rfl, Nat.le_refl _⟩

theorem fire_keeps_trans {old between new : FireRow} (first : old.Keeps between)
    (second : between.Keeps new) : old.Keeps new :=
  ⟨second.automation.trans first.automation, second.owner.trans first.owner,
    second.key.trans first.key, second.maxAttempts.trans first.maxAttempts,
    first.attempt.trans second.attempt⟩

theorem attempt_of_kept {run : BusinessRun} {old new : FireRow} (attempt : run.AttemptOf old)
    (same : new.id = old.id) (keeps : old.Keeps new) : run.AttemptOf new := by
  obtain ⟨number, bound, key⟩ := attempt.key
  exact ⟨same ▸ attempt.named, keeps.automation ▸ attempt.automation,
    attempt.owner.trans keeps.owner.symm, number, bound.trans keeps.attempt, same ▸ key⟩

theorem attempt_of_unique {run : BusinessRun} {left right : FireRow} (first : run.AttemptOf left)
    (second : run.AttemptOf right) : left.id = right.id := by
  have same := first.named.symm.trans second.named
  exact Json.str.inj (Option.some.inj same)

structure BusinessRun.Moves (moved : String) (old new : BusinessRun) : Prop where
  owner : new.ownerId = old.ownerId
  snapshot : new.requestSnapshot = old.requestSnapshot
  key : new.clientRequestId = old.clientRequestId
  status : old.id ≠ moved → new.status = old.status

structure FireRow.Settles (settled : String) (old new : FireRow) : Prop where
  keeps : old.Keeps new
  run : new.runId = old.runId
  attempt : new.attempt = old.attempt
  status : old.id ≠ settled → new.status = old.status

structure WebhookLedger where
  webhooks : List WebhookRow
  deliveries : List WebhookDelivery
  issued : List (String × String)
  registered : List WebhookDelivery
  replies : List WebhookReply

def AutomationStore.ledger (store : AutomationStore) : WebhookLedger :=
  ⟨store.webhooks, store.deliveries, store.issued, store.registered, store.replies⟩

/-- What has happened so far in a transaction on the Run of a fire. -/
structure Signalled (start : AutomationStore) (run : BusinessRun) (fire : FireRow)
    (store : AutomationStore) : Prop where
  business : BusinessInv store.business
  automations : AutomationsKept start.automations store.automations
  runs : Rewritten BusinessRun.rowId (BusinessRun.Moves run.id) start.business.runs
    store.business.runs
  fires : Rewritten FireRow.rowId (FireRow.Settles fire.id) start.fires store.fires
  ledger : store.ledger = start.ledger

structure Attempting (store : AutomationStore) (run : BusinessRun) (fire : FireRow) : Prop where
  automations : AutomationsInv store.automations
  fires : UniqueKey FireRow.rowId store.fires
  runStored : ∃ row ∈ store.business.runs, row.id = run.id
  fireStored : fire ∈ store.fires
  attempt : run.AttemptOf fire
  current : fire.runId = run.id
  only : ∀ other ∈ store.fires, other.runId = run.id → other.id = fire.id
  stored : ∃ row ∈ store.automations, row.id = fire.automationId ∧ row.ownerId = fire.ownerId

section

variable {start store next : AutomationStore} {run : BusinessRun} {fire : FireRow}

theorem moves_self (moved : String) (run : BusinessRun) : run.Moves moved run :=
  ⟨rfl, rfl, rfl, fun _ => rfl⟩

theorem moves_trans {moved : String} {old between new : BusinessRun} (same : between.id = old.id)
    (first : old.Moves moved between) (second : between.Moves moved new) : old.Moves moved new :=
  ⟨second.owner.trans first.owner, second.snapshot.trans first.snapshot,
    second.key.trans first.key, fun other =>
      (second.status fun equal => other (same.symm.trans equal)).trans (first.status other)⟩

theorem settles_self (settled : String) (fire : FireRow) : fire.Settles settled fire :=
  ⟨fire_keeps_self fire, rfl, rfl, fun _ => rfl⟩

theorem settles_trans {settled : String} {old between new : FireRow} (same : between.id = old.id)
    (first : old.Settles settled between) (second : between.Settles settled new) :
    old.Settles settled new :=
  ⟨fire_keeps_trans first.keeps second.keeps, second.run.trans first.run,
    second.attempt.trans first.attempt, fun other =>
      (second.status fun equal => other (same.symm.trans equal)).trans (first.status other)⟩

theorem signalled_start (inv : BusinessInv start.business) : Signalled start run fire start :=
  ⟨inv, automations_kept _, rewritten_refl (moves_self run.id) _,
    rewritten_refl (settles_self fire.id) _, rfl⟩

theorem signalled_trans {middle : AutomationStore} (first : Signalled start run fire middle)
    (second : Signalled middle run fire next) : Signalled start run fire next := by
  constructor
  · exact second.business
  · exact rewritten_trans (fun _ => automation_stays_trans) first.automations second.automations
  · exact rewritten_trans (moves_trans ·) first.runs second.runs
  · exact rewritten_trans (settles_trans ·) first.fires second.fires
  · exact second.ledger.trans first.ledger

variable {status : RunStatus} {now : Time} {text : PyText}

theorem moved_run (moved : String) (runs : List BusinessRun) :
    Rewritten BusinessRun.rowId (BusinessRun.Moves moved) runs
      (updateWhere (fun row => row.id = moved) (BusinessRun.setStatus status now) runs) := by
  apply rewritten_update
  · exact fun _ => rfl
  · exact moves_self moved
  · intro row _ chosen
    exact ⟨rfl, rfl, rfl, fun other => absurd chosen other⟩

theorem signalled_attempting (attempting : Attempting start run fire)
    (signalled : Signalled start run fire store) :
    ∃ current, Attempting store run current ∧ current.id = fire.id := by
  obtain ⟨row, rowMem, same⟩ := attempting.runStored
  have listed : row.rowId ∈ store.business.runs.map BusinessRun.rowId := by
    rw [signalled.runs.keys]
    exact mem_map_of_mem rowMem
  obtain ⟨after, afterMem, still⟩ := mem_map.mp listed
  obtain ⟨current, mem, sameFire, settles⟩ :=
    rewritten_forward signalled.fires attempting.fires attempting.fireStored
  refine ⟨current, ?_, sameFire⟩
  constructor
  · exact automations_kept_inv signalled.automations attempting.automations
  · exact rewritten_unique signalled.fires attempting.fires
  · exact ⟨after, afterMem, Eq.trans still same⟩
  · exact mem
  · exact attempt_of_kept attempting.attempt sameFire settles.keeps
  · exact settles.run.trans attempting.current
  · intro other otherMem named
    obtain ⟨old, oldMem, sameOld, oldSettles⟩ := signalled.fires.rows other otherMem
    have before := attempting.only old oldMem (oldSettles.run.symm.trans named)
    exact Eq.trans sameOld (before.trans sameFire.symm)
  · rw [settles.keeps.automation, settles.keeps.owner]
    exact stored_kept signalled.automations attempting.automations attempting.stored

theorem end_run_runs {business after : BusinessStore} {ended messageId content eventId : String}
    (done : business.perform (.endRun ended status messageId content eventId now) = .ok after) :
    after.runs = updateWhere (fun row => row.id = ended) (BusinessRun.setStatus status now)
      business.runs := by
  rw [BusinessStore.perform] at done
  split at done
  · cases done
  · obtain ⟨messages, -, rest⟩ := bind_ok done
    cases rest
    rfl

theorem outcome_settled (fire : FireRow) (backoff : Nat) (outcome : RunOutcome) (now : Time) :
    (fire.outcome backoff outcome now).status ≠ .queued ∧
      (fire.outcome backoff outcome now).status ≠ .running := by
  cases outcome with
  | completed => exact ⟨nofun, nofun⟩
  | cancelled => exact ⟨nofun, nofun⟩
  | failed =>
    rw [FireRow.outcome]
    split <;> exact ⟨nofun, nofun⟩

theorem finish_run_settles (attempting : Attempting store run fire) (report : TerminalReport)
    (now : Time) : ∃ outcome : FireOutcome, (outcome.status ≠ .queued ∧ outcome.status ≠ .running) ∧
      (store.finishRun run.id run.ownerId report now).fires =
        updateWhere (fun row => row.id = fire.id) (FireRow.finished outcome report now)
          store.fires ∧
      (store.finishRun run.id run.ownerId report now).business = store.business ∧
      (store.finishRun run.id run.ownerId report now).ledger = store.ledger ∧
      AutomationsKept store.automations
        (store.finishRun run.id run.ownerId report now).automations := by
  have mine : (fire.runId = run.id && fire.ownerId = run.ownerId) = true := by
    simp [attempting.current, attempting.attempt.owner]
  rw [AutomationStore.finishRun]
  cases found : store.fires.find? fun fire => fire.runId = run.id && fire.ownerId = run.ownerId with
  | none => exact absurd mine (find?_eq_none.mp found fire attempting.fireStored)
  | some chosen =>
    dsimp only
    have matched := find?_some found
    rw [Bool.and_eq_true, decide_eq_true_eq] at matched
    have mem := mem_of_find?_eq_some found
    obtain rfl := unique_key_eq attempting.fires mem attempting.fireStored
      (attempting.only chosen mem matched.1)
    cases joined : store.automations.find? fun row => row.id = chosen.automationId with
    | none =>
      obtain ⟨row, stored, same, -⟩ := attempting.stored
      have absent := find?_eq_none.mp joined row stored
      rw [decide_eq_true_eq] at absent
      exact absurd same absent
    | some automation =>
      refine ⟨_, outcome_settled chosen automation.retryBackoffSec report.outcome now, rfl, rfl,
        rfl, ?_⟩
      exact automations_updated _ fun _ => rfl

/-! ### One event -/

theorem moved_status {moved : String} {runs : List BusinessRun} :
    ∀ row ∈ updateWhere (fun row => row.id = moved) (BusinessRun.setStatus status now) runs,
      row.id = moved → row.status = status := by
  intro row mem same
  obtain ⟨old, -, rfl⟩ := mem_update_where.mp mem
  by_cases chosen : old.id = moved
  · rw [if_pos chosen]
    rfl
  · rw [if_neg chosen] at same
    exact absurd same chosen

theorem held_signalled {status : HeldStatus} (fire : FireRow) (inv : BusinessInv store.business)
    (done : store.signal text run now (.held status) = .ok next) :
    Signalled store run fire next ∧ next.fires = store.fires ∧
      ∀ row ∈ next.business.runs, row.id = run.id → row.status = status.status := by
  cases done
  refine ⟨?_, rfl, moved_status⟩
  constructor
  · exact (serve_keeps (.moveRun run.id status.status now) inv).2
  · exact automations_kept _
  · exact moved_run run.id _
  · exact rewritten_refl (settles_self fire.id) _
  · rfl

theorem started_signalled (attempting : Attempting store run fire)
    (inv : BusinessInv store.business) (done : store.signal text run now .started = .ok next) :
    Signalled store run fire next ∧
      (∀ row ∈ next.fires, ∃ old ∈ store.fires, row.id = old.id ∧ (row.status = old.status ∨
        old.status = .queued ∧ row.status = .running)) ∧
      ∀ row ∈ next.business.runs, row.id = run.id → row.status = .running := by
  cases done
  refine ⟨?_, ?_, moved_status⟩
  · constructor
    · exact (serve_keeps (.moveRun run.id .running now) inv).2
    · exact automations_kept _
    · exact moved_run run.id _
    · apply rewritten_update
      · exact fun _ => rfl
      · exact settles_self fire.id
      · intro row mem chosen
        refine ⟨⟨rfl, rfl, rfl, rfl, Nat.le_refl _⟩, rfl, rfl, fun other => ?_⟩
        exact absurd (attempting.only row mem chosen.1) other
    · rfl
  · intro row mem
    obtain ⟨old, oldMem, rfl⟩ := mem_update_where.mp mem
    refine ⟨old, oldMem, ?_⟩
    split
    · next chosen => exact ⟨rfl, Or.inr ⟨chosen.2, rfl⟩⟩
    · exact ⟨rfl, Or.inl rfl⟩

theorem snapshot_automation (attempt : run.AttemptOf fire) (given : fire.automationId ≠ "") :
    run.requestSnapshot.strField text "automation_id" = fire.automationId := by
  rw [Json.strField, Json.getTruthy, attempt.automation]
  simp [Option.filter, Json.truthy, given, Json.pyStr]

theorem ended_signalled {report : TerminalReport} (attempting : Attempting store run fire)
    (inv : BusinessInv store.business)
    (done : store.signal text run now (.ended report) = .ok next) :
    Signalled store run fire next ∧
      (∀ row ∈ next.fires, row.id = fire.id → row.status ≠ .queued ∧ row.status ≠ .running) ∧
      ∀ row ∈ next.business.runs, row.id = run.id → row.status = report.outcome.status := by
  rw [AutomationStore.signal, AutomationStore.endRun] at done
  split at done
  · cases done
  · next business ended =>
    have given : fire.automationId ≠ "" := by
      obtain ⟨row, mem, same, -⟩ := attempting.stored
      exact same ▸ (attempting.automations.given row mem).1
    rw [snapshot_automation attempting.attempt given, if_neg given] at done
    have runs := end_run_runs ended
    have first : Signalled store run fire { store with
        business := business
        automations := updateWhere
          (fun row => row.id = fire.automationId ∧ row.ownerId = run.ownerId ∧ row.deletedAt = 0)
          (fun row => { row with
            lastRunAt := now
            lastSessionId := run.sessionId
            lastStatus := some (if report.outcome = .completed then .ok else .error)
            updatedAt := now
            version := row.version + 1 }) store.automations } := by
      constructor
      · exact (perform_follows inv ended).2
      · exact automations_updated _ fun _ => rfl
      · exact runs ▸ moved_run run.id _
      · exact rewritten_refl (settles_self fire.id) _
      · rfl
    obtain ⟨current, still, same⟩ := signalled_attempting attempting first
    obtain ⟨outcome, settled, fires, sameBusiness, ledger, automations⟩ :=
      finish_run_settles still report now
    rw [same] at fires
    cases done
    refine ⟨signalled_trans first ?_, ?_, ?_⟩
    · constructor
      · rw [sameBusiness]
        exact first.business
      · exact automations
      · rw [sameBusiness]
        exact rewritten_refl (moves_self run.id) _
      · rw [fires]
        apply rewritten_update
        · exact fun _ => rfl
        · exact settles_self fire.id
        · intro row _ chosen
          exact ⟨⟨rfl, rfl, rfl, rfl, Nat.le_refl _⟩, rfl, rfl, fun other => absurd chosen other⟩
      · exact ledger
    · rw [fires]
      intro row mem equal
      obtain ⟨old, -, rfl⟩ := mem_update_where.mp mem
      by_cases chosen : old.id = fire.id
      · rw [if_pos chosen]
        exact settled
      · rw [if_neg chosen] at equal
        exact absurd equal chosen
    · rw [sameBusiness]
      exact runs ▸ moved_status

/-! ### The events of a transaction -/

def RunSignal.ends : RunSignal → Bool
  | .ended _ => true
  | _ => false

def endsLast (signals : List RunSignal) : Bool :=
  !signals.any RunSignal.ends || signals.getLast?.any RunSignal.ends

structure Live (store : AutomationStore) (runId fireId : String) : Prop where
  run : ∀ row ∈ store.business.runs, row.id = runId → row.status.isTerminal = false
  fire : ∀ row ∈ store.fires, row.id = fireId → row.status = .queued ∨ row.status = .running

structure Ended (store : AutomationStore) (runId fireId : String) : Prop where
  run : ∀ row ∈ store.business.runs, row.id = runId → row.status.isTerminal = true
  fire : ∀ row ∈ store.fires, row.id = fireId → row.status ≠ .queued ∧ row.status ≠ .running

variable {text : PyText} {now : Time} {signal : RunSignal} {signals : List RunSignal}

theorem signal_signalled (attempting : Attempting store run fire) (inv : BusinessInv store.business)
    (done : store.signal text run now signal = .ok next) : Signalled store run fire next := by
  cases signal with
  | held status => exact (held_signalled fire inv done).1
  | started => exact (started_signalled attempting inv done).1
  | ended report => exact (ended_signalled attempting inv done).1

theorem signals_signalled (attempting : Attempting start run fire)
    (signalled : Signalled start run fire store)
    (done : signals.foldlM (fun store signal => store.signal text run now signal) store =
      .ok next) : Signalled start run fire next := by
  apply fold_invariant (Signalled start run fire) _ signalled done
  intro middle signal after _ before step
  obtain ⟨current, still, same⟩ := signalled_attempting attempting before
  have taken := signal_signalled still before.business step
  exact signalled_trans before ⟨taken.business, taken.automations, taken.runs, same ▸ taken.fires,
    taken.ledger⟩

theorem signal_live (attempting : Attempting store run fire) (inv : BusinessInv store.business)
    (live : Live store run.id fire.id) (open_ : signal.ends = false)
    (done : store.signal text run now signal = .ok next) : Live next run.id fire.id := by
  cases signal with
  | ended report => cases open_
  | held status =>
    obtain ⟨-, fires, moved⟩ := held_signalled fire inv done
    constructor
    · intro row mem same
      rw [moved row mem same]
      cases status <;> rfl
    · rw [fires]
      exact live.fire
  | started =>
    obtain ⟨-, fires, moved⟩ := started_signalled attempting inv done
    constructor
    · intro row mem same
      rw [moved row mem same]
      rfl
    · intro row mem same
      obtain ⟨old, oldMem, equal, kept | ⟨-, running⟩⟩ := fires row mem
      · rw [kept]
        exact live.fire old oldMem (equal.symm.trans same)
      · exact Or.inr running

theorem signals_settle (attempting : Attempting start run fire)
    (inv : BusinessInv start.business) (live : Live start run.id fire.id)
    (endLast : endsLast signals = true)
    (done : signals.foldlM (fun store signal => store.signal text run now signal) start =
      .ok next) :
    Signalled start run fire next ∧ (Live next run.id fire.id ∨ Ended next run.id fire.id) := by
  refine ⟨signals_signalled attempting (signalled_start inv) done, ?_⟩
  by_cases ended : ∃ signal ∈ signals, signal.ends = true
  · rw [endsLast, any_eq_true.mpr ended, Bool.not_true, Bool.false_or] at endLast
    obtain ⟨last, found, ends⟩ := (Option.any_eq_true _ _).mp endLast
    obtain ⟨before, rfl⟩ := getLast?_eq_some_iff.mp found
    rw [foldlM_append] at done
    obtain ⟨middle, first, rest⟩ := bind_ok done
    obtain ⟨after, second, rest⟩ := fold_cons_ok rest
    rw [fold_nil_ok rest]
    have signalled := signals_signalled attempting (signalled_start inv) first
    obtain ⟨current, still, same⟩ := signalled_attempting attempting signalled
    cases last with
    | held status => cases ends
    | started => cases ends
    | ended report =>
      obtain ⟨-, fires, runs⟩ := ended_signalled still signalled.business second
      right
      constructor
      · intro row mem equal
        rw [runs row mem equal]
        cases report.outcome <;> rfl
      · exact same ▸ fires
  · have open_ : ∀ signal ∈ signals, signal.ends = false := fun signal mem =>
      Bool.eq_false_iff.mpr fun ends => ended ⟨signal, mem, ends⟩
    left
    have both : Signalled start run fire next ∧ Live next run.id fire.id := by
      apply fold_invariant
        (fun store => Signalled start run fire store ∧ Live store run.id fire.id) _
        ⟨signalled_start inv, live⟩ done
      rintro middle signal after mem ⟨before, going⟩ step
      obtain ⟨current, still, same⟩ := signalled_attempting attempting before
      have taken := signal_signalled still before.business step
      refine ⟨signalled_trans before ⟨taken.business, taken.automations, taken.runs,
        same ▸ taken.fires, taken.ledger⟩, ?_⟩
      have went := signal_live still before.business (same ▸ going) (open_ signal mem) step
      exact same ▸ went
    exact both.2

end

structure AutomationStore.Follows (store next : AutomationStore) : Prop where
  business : BusinessInv store.business → BusinessInv next.business
  automations : AutomationsKept store.automations next.automations
  fires : Rewritten FireRow.rowId FireRow.Keeps store.fires next.fires
  ledger : next.ledger = store.ledger

variable {store middle next : AutomationStore} {run : BusinessRun}

theorem follows_rest (store : AutomationStore) : store.Follows store :=
  ⟨id, automations_kept _, rewritten_refl fire_keeps_self _, rfl⟩

theorem follows_then (first : store.Follows middle) (second : middle.Follows next) :
    store.Follows next :=
  ⟨fun inv => second.business (first.business inv),
    rewritten_trans (fun _ => automation_stays_trans) first.automations second.automations,
    rewritten_trans (fun _ => fire_keeps_trans) first.fires second.fires,
    second.ledger.trans first.ledger⟩

variable {now : Time}

theorem finish_run_follows {finished ownerId : String} {report : TerminalReport} :
    store.Follows (store.finishRun finished ownerId report now) := by
  rw [AutomationStore.finishRun]
  split
  · exact follows_rest store
  · split
    · exact follows_rest store
    · refine ⟨id, automations_updated _ fun _ => rfl, ?_, rfl⟩
      apply rewritten_update
      · exact fun _ => rfl
      · exact fire_keeps_self
      · exact fun row _ _ => ⟨rfl, rfl, rfl, rfl, Nat.le_refl _⟩

theorem signal_follows {text : PyText} {signal : RunSignal}
    (done : store.signal text run now signal = .ok next) : store.Follows next := by
  cases signal with
  | held status =>
    cases done
    exact ⟨fun inv => (serve_keeps (.moveRun run.id status.status now) inv).2,
      automations_kept _, rewritten_refl fire_keeps_self _, rfl⟩
  | started =>
    cases done
    refine ⟨fun inv => (serve_keeps (.moveRun run.id .running now) inv).2, automations_kept _,
      ?_, rfl⟩
    apply rewritten_update
    · exact fun _ => rfl
    · exact fire_keeps_self
    · exact fun row _ _ => ⟨rfl, rfl, rfl, rfl, Nat.le_refl _⟩
  | ended report =>
    rw [AutomationStore.signal, AutomationStore.endRun] at done
    split at done
    · cases done
    · next business ended =>
      have kept (inv : BusinessInv store.business) := (perform_follows inv ended).2
      by_cases plain : run.requestSnapshot.strField text "automation_id" = ""
      · rw [if_pos plain] at done
        cases done
        exact ⟨kept, automations_kept _, rewritten_refl fire_keeps_self _, rfl⟩
      · rw [if_neg plain] at done
        cases done
        refine follows_then ?_ finish_run_follows
        exact ⟨kept, automations_updated _ fun _ => rfl, rewritten_refl fire_keeps_self _, rfl⟩

theorem signals_follows {text : PyText} {runId : String} {signals : List RunSignal} :
    store.Follows (store.signals text runId signals now) := by
  rw [AutomationStore.signals]
  split
  · exact follows_rest store
  · split
    · exact follows_rest store
    · next run _ _ =>
      cases done : signals.foldlM (fun store signal => store.signal text run now signal) store with
      | error error => exact follows_rest store
      | ok next =>
        apply fold_invariant store.Follows _ (follows_rest store) done
        intro middle signal after _ before step
        exact follows_then before (signal_follows step)

theorem ignore_fire_follows {fireId : String} : store.Follows (store.ignoreFire now fireId) := by
  refine ⟨id, automations_kept _, ?_, rfl⟩
  apply rewritten_update
  · exact fun _ => rfl
  · exact fire_keeps_self
  · exact fun row _ _ => ⟨rfl, rfl, rfl, rfl, Nat.le_refl _⟩

end AgentMate
