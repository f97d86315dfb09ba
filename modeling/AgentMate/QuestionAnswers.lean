import AgentMate.CancelCommands
import AgentMate.DeviceRevocation
import AgentMate.RunLog

/-! # Questions of a Run and their answers -/

namespace AgentMate

open TransitionSystem Rollback List

variable {Hash : Type}

/-- `run_id=? AND event_type='run.waiting_user'`. -/
def EventRow.asks (runId : String) (row : EventRow Hash) : Bool :=
  row.runId = runId && row.eventType = "run.waiting_user"

def Store.questions (store : Store Hash) (runId : String) : List (EventRow Hash) :=
  store.events.filter (EventRow.asks runId)

def Store.latestQuestion (store : Store Hash) (runId : String) (epoch : Nat) :
    Option (EventRow Hash) :=
  ((store.epochLog runId epoch).filter (EventRow.asks runId)).getLast?

/-- The event an `ask_user_answer` command names. -/
def Command.questionId (text : PyText) (command : Command) : String :=
  command.payload.strField text "question_event_id"

def Command.answers (text : PyText) (runId questionEventId : String) (command : Command) : Bool :=
  command.runId = runId && command.commandType = .askUserAnswer &&
    command.questionId text = questionEventId

def Store.superseded (store : Store Hash) (runId questionEventId : String) : Bool :=
  (store.questions runId).dropLast.any fun row => row.eventId = questionEventId

def Store.answered (text : PyText) (store : Store Hash) (runId questionEventId : String) : Bool :=
  store.commands.any (Command.answers text runId questionEventId)

/-- No call answers a superseded or an answered question, and no Run is leased while an
answer to it is pending. -/
def Server.answersSettled (text : PyText) (server : Server Hash) (action : Server.Action Hash) :
    Bool :=
  match action.call with
  | .answerUser runId _ questionEventId _ _ =>
    !server.store.superseded runId questionEventId &&
      !server.store.answered text runId questionEventId
  | .leaseRun principal leaseSeconds leaseId =>
    match leaseRun text server.store principal leaseSeconds leaseId action.now with
    | .ok (_, some grant) => !server.store.hasPendingCommand grant.run.id .askUserAnswer
    | _ => true
  | _ => true

theorem event_kind_waiting (eventType : String) :
    eventKind eventType = .waitingUser ↔ eventType = "run.waiting_user" := by
  constructor
  · intro kind
    by_contra other
    unfold eventKind at kind
    simp only [other, if_false] at kind
    repeat' split at kind
    all_goals cases kind
  · intro same
    rw [same]
    decide

theorem writes_waiting {event : RunEvent Hash} :
    event.status? = some .waitingUser ↔ event.eventType = "run.waiting_user" := by
  rw [← event_kind_waiting, RunEvent.status?]
  cases eventKind event.eventType <;> simp [EventKind.status]

theorem answer_question_id (text : PyText) (questionEventId : String) (answers : List String) :
    (answerPayload questionEventId answers).strField text "question_event_id" =
      questionEventId := by
  by_cases named : questionEventId = ""
  · rw [named]
    rfl
  · simp [answerPayload, Json.strField, Json.getTruthy, Json.get?, Json.truthy, Json.pyStr, named,
      Option.filter]

def Unanswered (store next : Store Hash) : Prop :=
  ∃ added, next.commands = store.commands ++ added ∧
    ∀ command ∈ added, command.commandType ≠ .askUserAnswer

section

variable {text : PyText} {store next : Store Hash} {now : Time}

theorem unanswered_of_eq (same : next.commands = store.commands) : Unanswered store next := by
  refine ⟨[], ?_, ?_⟩
  · rw [same, append_nil]
  · intro command mem
    cases mem

theorem releases_unanswered {status : LeaseStatus} {items : List Lease}
    (done : items.foldlM (releaseLease text now status) store = .ok next) :
    next.commands = store.commands := by
  apply fold_invariant (fun after => after.commands = store.commands) _ rfl done
  intro middle lease later _ same pass
  obtain ⟨assign, business, rfl, -, -⟩ := recover_run_cases pass
  exact same

theorem insert_command_unanswered {command : Command} (other : command.commandType ≠ .askUserAnswer)
    (done : store.insertCommand command = .ok next) : Unanswered store next := by
  obtain ⟨-, rfl⟩ := insert_command_ok done
  refine ⟨[command], rfl, ?_⟩
  intro added mem
  rw [mem_singleton.mp mem]
  exact other

variable {commandId runId ownerId : String}

theorem request_command_unanswered {commandType : CommandType}
    (other : commandType ≠ .askUserAnswer)
    (done : requestCommand store runId ownerId commandId commandType now = .ok next) :
    Unanswered store next := by
  unfold requestCommand at done
  split at done
  · cases done
    exact unanswered_of_eq rfl
  · exact insert_command_unanswered other done

theorem server_terminal_unanswered {run : Run} {status : RunStatus}
    {errorCode errorMessage : String}
    (done : serverTerminal text store run status errorCode errorMessage now = .ok next) :
    Unanswered store next := by
  obtain ⟨⟨output, business⟩, -, rest⟩ := bind_ok done
  cases rest
  exact unanswered_of_eq rfl

theorem request_cancel_unanswered
    (done : requestCancel text store runId ownerId commandId now = .ok next) :
    Unanswered store next := by
  obtain ⟨run, -, done⟩ := bind_ok done
  split at done
  · cases done
    exact unanswered_of_eq rfl
  · split at done
    · exact server_terminal_unanswered done
    · have other : (newCommand commandId runId ownerId .cancel (run.cancelVersion + 1) (.obj [])
          now).commandType ≠ .askUserAnswer := by
        simp [newCommand]
      have inserted := insert_command_unanswered other done
      exact inserted

theorem request_pause_unanswered
    (done : requestPause store runId ownerId commandId now = .ok next) :
    Unanswered store next := by
  obtain ⟨run, -, done⟩ := bind_ok done
  split at done
  · cases done
  · split at done
    · cases done
      exact unanswered_of_eq rfl
    · split at done
      · cases done
        exact unanswered_of_eq rfl
      · split at done
        · exact request_command_unanswered (by decide) done
        · cases done

theorem request_resume_unanswered
    (done : requestResume text store runId ownerId commandId now = .ok next) :
    Unanswered store next := by
  obtain ⟨run, -, done⟩ := bind_ok done
  split at done
  · cases done
  · split at done
    · exact request_command_unanswered (by decide) done
    · split at done
      · cases done
        exact unanswered_of_eq rfl
      · have ended := server_terminal_unanswered done
        exact ended

theorem lease_run_unanswered {principal : DevicePrincipal} {leaseSeconds : Int}
    {leaseId : String} {grant : Option LeaseGrant} (keyed : store.Keyed)
    (done : leaseRun text store principal leaseSeconds leaseId now = .ok (next, grant)) :
    next.commands = store.commands := by
  obtain ⟨expired, expiring, outcome⟩ := lease_run_cases keyed done
  have same : expired.commands = store.commands := releases_unanswered expiring
  rcases outcome with ⟨-, rfl, -⟩ | ⟨run, -, -, rfl, -⟩
  · exact same
  · exact same

theorem revoke_device_unanswered {ownerId deviceId : String} {found : Bool}
    (done : revokeDevice text store ownerId deviceId now = .ok (next, found)) :
    next.commands = store.commands := by
  unfold revokeDevice at done
  split at done
  · obtain ⟨released, loop, rest⟩ := bind_ok done
    cases rest
    have released := releases_unanswered loop
    exact released
  · cases done
    rfl

theorem perform_unanswered [DecidableEq Hash] {host : Host Hash} {call : Call Hash}
    (keyed : store.Keyed) (other : call.isSubmit = false)
    (done : perform host store now call = .ok next) :
    Unanswered store next ∨ ∃ runId ownerId questionEventId answers commandId,
      call = .answerUser runId ownerId questionEventId answers commandId := by
  cases call with
  | createRun draft =>
    simp only [perform, createRun] at done
    split at done
    · cases done
    · cases done
      exact Or.inl (unanswered_of_eq rfl)
  | leaseRun principal leaseSeconds leaseId =>
    obtain ⟨⟨leased, grant⟩, leasing, rest⟩ := bind_ok done
    cases rest
    exact Or.inl (unanswered_of_eq (lease_run_unanswered keyed leasing))
  | renewLease principal runId leaseId leaseEpoch leaseSeconds =>
    obtain ⟨⟨renewed, renewal⟩, renew, rest⟩ := bind_ok done
    cases rest
    obtain ⟨lease, -, renewing⟩ := bind_ok renew
    split at renewing
    · cases renewing
      exact Or.inl (unanswered_of_eq rfl)
    · cases renewing
  | submitEvents => cases other
  | requestCancel runId ownerId commandId => exact Or.inl (request_cancel_unanswered done)
  | requestPause runId ownerId commandId => exact Or.inl (request_pause_unanswered done)
  | requestResume runId ownerId commandId => exact Or.inl (request_resume_unanswered done)
  | answerUser runId ownerId questionEventId answers commandId =>
    exact Or.inr ⟨runId, ownerId, questionEventId, answers, commandId, rfl⟩
  | revokeDevice ownerId deviceId =>
    obtain ⟨⟨revoked, found⟩, revoking, rest⟩ := bind_ok done
    cases rest
    exact Or.inl (unanswered_of_eq (revoke_device_unanswered revoking))
  | expireLeases ownerId => exact Or.inl (unanswered_of_eq (releases_unanswered done))

end

def EpochsKept (store next : Store Hash) : Prop :=
  ∀ runId run, store.run? runId = some run →
    ∃ after, next.run? runId = some after ∧ after.leaseEpoch = run.leaseEpoch

section

variable {text : PyText} {store next : Store Hash} {now : Time}

theorem epochs_kept_refl (store : Store Hash) : EpochsKept store store :=
  fun _ run found => ⟨run, found, rfl⟩

variable {runId : String}

theorem move_epochs_kept {moved : Store Hash} {assign : Run → Run} (rows : moved.runs = store.runs)
    (frame : ∀ row, Run.Frame row (assign row))
    (epoch : ∀ row, (assign row).leaseEpoch = row.leaseEpoch) :
    EpochsKept store (moved.updateRun runId assign) := by
  intro other run found
  have same : moved.run? other = some run := by
    rw [Store.run?, rows]
    exact found
  rw [run_update_run moved frame, same]
  split
  · exact ⟨assign run, rfl, epoch run⟩
  · exact ⟨run, rfl, rfl⟩

theorem effect_epochs_kept (count : next.leases.length = store.leases.length)
    (effect : Effect now store next) : EpochsKept store next := by
  cases effect with
  | grant run assign lease => simp at count
  | create run absent =>
    intro runId row found
    have different : run.id ≠ runId := by
      intro same
      rw [same, found] at absent
      cases absent
    exact ⟨row, (Table.lookup_append_singleton different).trans found, rfl⟩
  | release lease status assign business mem active cause move =>
    exact move_epochs_kept rfl move.frame move.epoch
  | abandon run assign business found paused idle move =>
    exact move_epochs_kept rfl move.frame move.epoch
  | endRun run assign business found status idle move =>
    exact move_epochs_kept rfl move.frame move.epoch
  | pause run assign found claimable move => exact move_epochs_kept rfl move.frame move.epoch
  | mark runId assign move => exact move_epochs_kept rfl move.frame move.epoch
  | _ => exact epochs_kept_refl store

theorem effects_epochs_kept (count : next.leases.length = store.leases.length)
    (effects : Effects now store next) : EpochsKept store next := by
  induction effects with
  | refl => exact epochs_kept_refl store
  | @tail middle last before effect ih =>
    have grown := effects_lease_count before
    have growing := effect_lease_count effect
    intro runId run found
    obtain ⟨between, betweenFound, same⟩ := ih (by omega) runId run found
    obtain ⟨after, afterFound, still⟩ :=
      effect_epochs_kept (by omega) effect runId between betweenFound
    exact ⟨after, afterFound, still.trans same⟩

theorem lease_run_epochs {principal : DevicePrincipal} {leaseSeconds : Int} {leaseId : String}
    {grant : Option LeaseGrant} (keyed : store.Keyed)
    (done : leaseRun text store principal leaseSeconds leaseId now = .ok (next, grant))
    (other : ∀ granted, grant = some granted → granted.run.id ≠ runId) {run : Run}
    (found : store.run? runId = some run) :
    ∃ after, next.run? runId = some after ∧ after.leaseEpoch = run.leaseEpoch := by
  obtain ⟨expired, expiring, outcome⟩ := lease_run_cases keyed done
  have kept : EpochsKept store expired := by
    apply effects_epochs_kept _ (expire_leases_effects keyed expiring)
    exact (releases_ungranted expiring).count
  obtain ⟨after, afterFound, same⟩ := kept runId run found
  rcases outcome with ⟨-, rfl, -⟩ | ⟨chosen, -, -, rfl, granted⟩
  · exact ⟨after, afterFound, same⟩
  · have different : chosen.id ≠ runId := other _ granted
    have frame (row : Run) : Run.Frame row (row.granted (chosen.leaseEpoch + 1) now) := rfl
    refine ⟨after, ?_, same⟩
    have read : (expired.updateRun chosen.id (Run.granted (chosen.leaseEpoch + 1) now)).run? runId =
        some after := by
      rw [run_update_run expired frame, if_neg (Ne.symm different), afterFound]
    exact read

theorem effect_waiting (effect : Effect now store next) {after : Run}
    (found : next.run? runId = some after) (waiting : after.status = .waitingUser) :
    ∃ run, store.run? runId = some run ∧ run.status = .waitingUser ∧
      after.leaseEpoch = run.leaseEpoch := by
  cases before : store.run? runId with
  | none =>
    obtain ⟨queued, -⟩ := effect_new_run effect before found
    rw [waiting] at queued
    cases queued
  | some run =>
    obtain ⟨moved, movedFound, -, -, change⟩ := effect_run_change effect before
    cases found.symm.trans movedFound
    refine ⟨run, rfl, ?_⟩
    cases change with
    | kept status epoch => exact ⟨status.symm.trans waiting, epoch⟩
    | leased claimable leased =>
      rw [waiting] at leased
      cases leased
    | recovered epoch recovered =>
      rcases recovered with ⟨-, same⟩ | ⟨-, paused⟩ | ⟨-, -, ⟨recoverable, -⟩ | failed⟩
      · exact ⟨same.symm.trans waiting, epoch⟩
      · rw [waiting] at paused
        cases paused
      · rw [waiting] at recoverable
        cases recoverable
      · rw [waiting] at failed
        cases failed
    | withdrawn epoch claimable status =>
      rw [waiting] at status
      rcases status with status | status <;> cases status
    | unpaused epoch paused idle status =>
      rw [waiting] at status
      rcases status with status | status | ⟨-, status⟩ <;> cases status

theorem effects_waiting (effects : Effects now store next) {after : Run}
    (found : next.run? runId = some after) (waiting : after.status = .waitingUser) :
    ∃ run, store.run? runId = some run ∧ run.status = .waitingUser ∧
      after.leaseEpoch = run.leaseEpoch := by
  induction effects generalizing after with
  | refl => exact ⟨after, found, waiting, rfl⟩
  | tail before effect ih =>
    obtain ⟨between, betweenFound, stillWaiting, same⟩ := effect_waiting effect found waiting
    obtain ⟨run, runFound, waited, earlier⟩ := ih betweenFound stillWaiting
    exact ⟨run, runFound, waited, same.trans earlier⟩

end

structure AnswerInv (text : PyText) (store : Store Hash) : Prop where
  waiting : ∀ runId run, store.run? runId = some run → run.status = .waitingUser →
    ∃ row, (store.questions runId).getLast? = some row ∧ row.leaseEpoch = run.leaseEpoch
  pending : ∀ command ∈ store.commands, command.commandType = .askUserAnswer →
    command.status = .pending → ∃ row ∈ store.events, ∃ run,
      row.asks command.runId = true ∧ row.eventId = command.questionId text ∧
        store.run? command.runId = some run ∧ row.leaseEpoch = run.leaseEpoch
  unique : store.commands.Pairwise fun earlier later =>
    earlier.commandType = .askUserAnswer → later.commandType = .askUserAnswer →
      earlier.runId = later.runId → earlier.questionId text ≠ later.questionId text

section

variable {text : PyText} {store next : Store Hash} {now : Time}

theorem fresh_answer_inv (fresh : store.Fresh) : AnswerInv text store := by
  constructor
  · intro runId run found
    rw [Store.run?, fresh.runs] at found
    cases found
  · intro command mem
    rw [fresh.commands] at mem
    cases mem
  · rw [fresh.commands]
    exact List.Pairwise.nil

theorem unique_unanswered (inv : AnswerInv text store) (unanswered : Unanswered store next) :
    next.commands.Pairwise fun earlier later =>
      earlier.commandType = .askUserAnswer → later.commandType = .askUserAnswer →
        earlier.runId = later.runId → earlier.questionId text ≠ later.questionId text := by
  obtain ⟨added, commands, others⟩ := unanswered
  rw [commands, pairwise_append]
  refine ⟨inv.unique, ?_, ?_⟩
  · apply pairwise_of_forall_mem_list
    intro earlier mem later _ answer
    exact absurd answer (others earlier mem)
  · intro earlier _ later mem _ answer
    exact absurd answer (others later mem)

theorem effects_answer_inv (inv : AnswerInv text store) (effects : Effects now store next)
    (unanswered : Unanswered store next)
    (kept : ∀ command ∈ store.commands, command.commandType = .askUserAnswer →
      command.status = .pending → ∀ run, store.run? command.runId = some run →
        ∃ after, next.run? command.runId = some after ∧ after.leaseEpoch = run.leaseEpoch) :
    AnswerInv text next := by
  have events := effects_events effects
  constructor
  · intro runId after found status
    obtain ⟨run, runFound, waiting, same⟩ := effects_waiting effects found status
    obtain ⟨row, newest, epoch⟩ := inv.waiting runId run runFound waiting
    refine ⟨row, ?_, epoch.trans same.symm⟩
    rw [Store.questions, events]
    exact newest
  · intro command mem answer pending
    obtain ⟨added, commands, others⟩ := unanswered
    rw [commands] at mem
    rcases mem_append.mp mem with old | new
    · obtain ⟨row, stored, run, asks, named, found, epoch⟩ :=
        inv.pending command old answer pending
      obtain ⟨after, afterFound, same⟩ := kept command old answer pending run found
      rw [events]
      exact ⟨row, stored, after, asks, named, afterFound, epoch.trans same.symm⟩
    · exact absurd answer (others command new)
  · exact unique_unanswered inv unanswered

/-! What an accepted answer names. -/

variable {ownerId runId questionEventId commandId : String} {answers : List String}

theorem answer_user_ok
    (done : answerUser store runId ownerId questionEventId answers commandId now = .ok next) :
    ∃ run, store.run? runId = some run ∧ run.status = .waitingUser ∧
      (∃ row ∈ store.questions runId, row.eventId = questionEventId) ∧
      next = { store with commands := store.commands ++ [newCommand commandId runId ownerId
        .askUserAnswer (nextCommandVersion store runId)
        (answerPayload questionEventId answers) now] } := by
  obtain ⟨run, owned, done⟩ := bind_ok done
  obtain ⟨found, -⟩ := owned_run_ok owned
  simp only at done
  split at done
  · cases done
  · next accepted =>
    obtain ⟨-, rfl⟩ := insert_command_ok done
    simp only [Bool.or_eq_true, Bool.not_eq_true', decide_eq_true_eq, not_or, Bool.not_eq_false,
      not_not, any_eq_true, Bool.and_eq_true] at accepted
    obtain ⟨⟨row, stored, ⟨named, sameRun⟩, question⟩, waiting⟩ := accepted
    refine ⟨run, found, waiting, ⟨row, ?_, named⟩, rfl⟩
    apply mem_filter.mpr
    simp [EventRow.asks, stored, sameRun, question]

theorem last_filter {Item : Type} {items : List Item} {last : Item} (chosen : Item → Bool)
    (found : items.getLast? = some last) (choice : chosen last = true) :
    (items.filter chosen).getLast? = some last := by
  obtain ⟨before, rfl⟩ := getLast?_eq_some_iff.mp found
  simp [choice]

theorem newest_of_not_superseded {row last : EventRow Hash} (mem : row ∈ store.questions runId)
    (newest : (store.questions runId).getLast? = some last)
    (open_ : store.superseded runId row.eventId = false) : row = last := by
  obtain ⟨before, split_⟩ := getLast?_eq_some_iff.mp newest
  rw [Store.superseded, split_, dropLast_concat, any_eq_false] at open_
  rw [split_] at mem
  rcases mem_append.mp mem with earlier | final
  · have other := open_ row earlier
    simp at other
  · exact mem_singleton.mp final

theorem answered_latest (inv : AnswerInv text store)
    (open_ : store.superseded runId questionEventId = false)
    (done : answerUser store runId ownerId questionEventId answers commandId now = .ok next) :
    ∃ run row, store.run? runId = some run ∧
      store.latestQuestion runId run.leaseEpoch = some row ∧ row.eventId = questionEventId := by
  obtain ⟨run, found, waiting, ⟨row, mem, rfl⟩, -⟩ := answer_user_ok done
  obtain ⟨last, newest, epoch⟩ := inv.waiting runId run found waiting
  obtain rfl := newest_of_not_superseded mem newest open_
  refine ⟨run, row, found, ?_, rfl⟩
  have current : (store.questions runId).filter (fun row => row.leaseEpoch = run.leaseEpoch) =
      (store.epochLog runId run.leaseEpoch).filter (EventRow.asks runId) := by
    rw [Store.questions, Store.epochLog, filter_filter, filter_filter]
    apply filter_congr
    intro other _
    simp only [EventRow.asks]
    grind
  rw [Store.latestQuestion, ← current]
  exact last_filter _ newest (by simpa using epoch)

theorem answer_user_inv (inv : AnswerInv text store)
    (open_ : store.superseded runId questionEventId = false)
    (unanswered : store.answered text runId questionEventId = false)
    (done : answerUser store runId ownerId questionEventId answers commandId now = .ok next) :
    AnswerInv text next := by
  obtain ⟨run, found, waiting, ⟨row, mem, rfl⟩, rfl⟩ := answer_user_ok done
  obtain ⟨last, newest, epoch⟩ := inv.waiting runId run found waiting
  obtain rfl := newest_of_not_superseded mem newest open_
  obtain ⟨stored, asks⟩ := mem_filter.mp mem
  have named : (newCommand commandId runId ownerId .askUserAnswer
      (nextCommandVersion store runId) (answerPayload row.eventId answers) now).questionId text =
        row.eventId := answer_question_id text row.eventId answers
  constructor
  · exact inv.waiting
  · intro command listed answer pending
    rcases mem_append.mp listed with old | new
    · exact inv.pending command old answer pending
    · rw [mem_singleton] at new
      subst new
      exact ⟨row, stored, run, asks, named.symm, found, epoch⟩
  · dsimp only
    rw [pairwise_append]
    refine ⟨inv.unique, pairwise_singleton _ _, ?_⟩
    intro earlier old later new answer _ sameRun sameQuestion
    rw [mem_singleton] at new
    subst new
    rw [named] at sameQuestion
    rw [Store.answered, any_eq_false] at unanswered
    apply unanswered earlier old
    simp [Command.answers, answer, sameQuestion, sameRun, newCommand]

end

section

variable {text : PyText} {host : Host Hash} {lease : Lease} {now : Time} {batch next : Batch Hash}
  {event : RunEvent Hash}

theorem new_row_asks (runId : String) : (event.row lease event.hash now).asks runId = true ↔
    lease.runId = runId ∧ event.status? = some .waitingUser := by
  rw [writes_waiting, EventRow.asks, Bool.and_eq_true, decide_eq_true_eq, decide_eq_true_eq]
  rfl

/-- The status of the Run is `waiting_user` after a question or because it was before. -/
theorem applied_waiting (inv : AnswerInv text batch.store) (holding : Holding lease batch.store)
    (applied : Applied host lease now batch next event) {runId : String} {after : Run}
    (found : next.store.run? runId = some after) (waiting : after.status = .waitingUser) :
    ∃ row, (next.store.questions runId).getLast? = some row ∧
      row.leaseEpoch = after.leaseEpoch := by
  have questions : next.store.questions runId = batch.store.questions runId ++
      [event.row lease event.hash now].filter (EventRow.asks runId) := by
    rw [Store.questions, applied_events applied, filter_append]
    rfl
  by_cases own : runId = lease.runId
  · subst own
    obtain ⟨run, runFound, epoch⟩ := holding.run
    obtain ⟨moved, movedFound, -, movedEpoch, status⟩ := applied_run applied runFound
    cases found.symm.trans movedFound
    by_cases asks : (event.row lease event.hash now).asks lease.runId = true
    · refine ⟨event.row lease event.hash now, ?_, ?_⟩
      · rw [questions, filter_singleton, asks, cond_true, getLast?_concat]
      · rw [movedEpoch, epoch]
        rfl
    · have quiet : event.status? ≠ some .waitingUser := by
        intro writes
        exact asks ((new_row_asks lease.runId).mpr ⟨rfl, writes⟩)
      have waited : run.status = .waitingUser := by
        cases written : event.status? with
        | none =>
          rw [written] at status
          exact status.symm.trans waiting
        | some new =>
          rw [written, waiting] at status
          rw [written] at quiet
          exact absurd (congrArg some status.symm) quiet
      obtain ⟨row, newest, rowEpoch⟩ := inv.waiting lease.runId run runFound waited
      refine ⟨row, ?_, rowEpoch.trans movedEpoch.symm⟩
      rw [Bool.not_eq_true] at asks
      rw [questions, filter_singleton, asks, cond_false, append_nil]
      exact newest
  · rw [applied_other_run applied own] at found
    obtain ⟨row, newest, epoch⟩ := inv.waiting runId after found waiting
    have other : (event.row lease event.hash now).asks runId = false := by
      rw [Bool.eq_false_iff]
      intro asks
      exact own ((new_row_asks runId).mp asks).1.symm
    refine ⟨row, ?_, epoch⟩
    rw [questions, filter_singleton, other, cond_false, append_nil]
    exact newest

theorem applied_answer_inv (inv : AnswerInv text batch.store) (holding : Holding lease batch.store)
    (applied : Applied host lease now batch next event) : AnswerInv text next.store := by
  obtain ⟨output, business, -, after⟩ := applied.store
  have commands : next.store.commands = Table.updateWhere
      (fun command => (eventKind event.eventType).acknowledges host.toPyText event.payload
        lease.runId command)
      (fun command => { command with status := .acknowledged, acknowledgedAt := now })
      batch.store.commands := by
    rw [after, after_event_commands]
  constructor
  · intro runId run found waiting
    exact applied_waiting inv holding applied found waiting
  · intro command mem answer pending
    rw [commands, Table.mem_update_where] at mem
    obtain ⟨old, stored, same⟩ := mem
    split at same
    · rw [← same] at pending
      cases pending
    · subst same
      obtain ⟨row, rowStored, run, asks, named, found, epoch⟩ :=
        inv.pending old stored answer pending
      have kept : row ∈ next.store.events := by
        rw [applied_events applied]
        exact mem_append_left _ rowStored
      by_cases own : old.runId = lease.runId
      · rw [own] at found
        obtain ⟨moved, movedFound, -, movedEpoch, -⟩ := applied_run applied found
        rw [← own] at movedFound
        exact ⟨row, kept, moved, asks, named, movedFound, epoch.trans movedEpoch.symm⟩
      · rw [← applied_other_run applied own] at found
        exact ⟨row, kept, run, asks, named, found, epoch⟩
  · rw [commands, Table.updateWhere, pairwise_map]
    apply inv.unique.imp
    intro earlier later apart
    split <;> split <;> exact apart

variable {events : List (RunEvent Hash)}

theorem applied_all_answer_inv [DecidableEq Hash] {final : Batch Hash}
    (applied : AppliedAll host lease now batch events final) (inv : AnswerInv text batch.store) :
    AnswerInv text final.store := by
  induction applied with
  | nil => exact inv
  | cons batchInv checked first later ih =>
    exact ih (applied_answer_inv inv batchInv.holding first)

theorem submit_events_answer_inv [DecidableEq Hash] {store finish : Store Hash}
    {principal : DevicePrincipal} {runId leaseId : String} {leaseEpoch : Nat}
    {reply : SubmitReply} (leaseInv : LeaseInv now store)
    (logInv : LogInv host store) (inv : AnswerInv text store)
    (done : submitEvents host store principal runId leaseId leaseEpoch events now =
      .ok (finish, reply)) : AnswerInv text finish := by
  obtain ⟨lease, final, current, loop, rfl, -⟩ := submit_events_cases done
  have applied := submit_batch_applied (start_batch_inv now leaseInv logInv current) loop
  have after := applied_all_answer_inv applied inv
  exact ⟨after.waiting, after.pending, after.unique⟩

end

section

variable {store : Store Hash}

theorem pending_answer_held {command : Command} (stored : command ∈ store.commands)
    (answer : command.commandType = .askUserAnswer) (pending : command.status = .pending) :
    store.hasPendingCommand command.runId .askUserAnswer = true := by
  apply any_eq_true.mpr
  exact ⟨command, stored, by simp [answer, pending]⟩

theorem pending_answers_current {text : PyText} (inv : AnswerInv text store) {runId : String}
    {run : Run} (found : store.run? runId = some run) {command : Command}
    (delivered : command ∈ pendingCommands store runId)
    (answer : command.commandType = .askUserAnswer) :
    ∃ row ∈ store.events, row.asks runId = true ∧ row.eventId = command.questionId text ∧
      row.leaseEpoch = run.leaseEpoch := by
  obtain ⟨stored, rfl, pending⟩ := mem_pending_commands.mp delivered
  obtain ⟨row, rowStored, own, asks, named, ownFound, epoch⟩ :=
    inv.pending command stored answer pending
  cases found.symm.trans ownFound
  exact ⟨row, rowStored, asks, named, epoch⟩

end

variable [DecidableEq Hash] {host : Host Hash} {store next : Store Hash} {now : Time}

theorem perform_lease_count {call : Call Hash} (other : call.isSubmit = false)
    (unleased : ∀ principal leaseSeconds leaseId, call ≠ .leaseRun principal leaseSeconds leaseId)
    (done : perform host store now call = .ok next) :
    next.leases.length = store.leases.length := by
  cases call with
  | leaseRun principal leaseSeconds leaseId =>
    exact absurd rfl (unleased principal leaseSeconds leaseId)
  | submitEvents => cases other
  | revokeDevice ownerId deviceId =>
    obtain ⟨⟨revoked, found⟩, revoking, rest⟩ := bind_ok done
    cases rest
    rcases revoke_device_cases revoking with ⟨-, same⟩ | ⟨-, ungranted, -⟩
    · rw [same]
    · exact ungranted.count
  | _ =>
    apply Ungranted.count
    exact perform_plain rfl done

theorem perform_answer_inv {call : Call Hash} (leaseInv : LeaseInv now store)
    (inv : AnswerInv host.toPyText store) (other : call.isSubmit = false)
    (settled : Server.answersSettled host.toPyText ⟨now, store⟩ ⟨now, call⟩ = true)
    (done : perform host store now call = .ok next) : AnswerInv host.toPyText next := by
  have effects := perform_effects leaseInv.keyed other done
  rcases perform_unanswered leaseInv.keyed other done with
    unanswered | ⟨runId, ownerId, questionEventId, answers, commandId, rfl⟩
  · apply effects_answer_inv inv effects unanswered
    intro command stored answer pending run found
    by_cases leasing : ∃ principal leaseSeconds leaseId,
        call = .leaseRun principal leaseSeconds leaseId
    · obtain ⟨principal, leaseSeconds, leaseId, rfl⟩ := leasing
      obtain ⟨⟨leased, grant⟩, leased_ok, rest⟩ := bind_ok done
      cases rest
      apply lease_run_epochs leaseInv.keyed leased_ok _ found
      rintro granted rfl same
      have held := pending_answer_held stored answer pending
      simp only [Server.answersSettled, leased_ok, same, held] at settled
      cases settled
    · have count := perform_lease_count other (fun principal leaseSeconds leaseId same =>
          leasing ⟨principal, leaseSeconds, leaseId, same⟩) done
      exact effects_epochs_kept count effects command.runId run found
  · simp only [Server.answersSettled, Bool.and_eq_true, Bool.not_eq_true'] at settled
    exact answer_user_inv inv settled.1 settled.2 done

theorem server_step_answer_inv {server after : Server Hash} {action : Server.Action Hash}
    (leaseInv : LeaseInv server.now server.store) (logInv : LogInv host server.store)
    (inv : AnswerInv host.toPyText server.store)
    (settled : server.answersSettled host.toPyText action = true)
    (step : (serverMachine host).Step server action after) :
    AnswerInv host.toPyText after.store := by
  obtain ⟨order, rfl⟩ := step
  have later := lease_inv_later leaseInv order
  apply commit_cases (AnswerInv host.toPyText) inv
  intro next done
  cases submitting : action.call.isSubmit with
  | false => exact perform_answer_inv later inv submitting settled done
  | true =>
    cases call : action.call with
    | submitEvents principal runId leaseId leaseEpoch events =>
      rw [call] at done
      obtain ⟨⟨submitted, reply⟩, submit, rest⟩ := bind_ok done
      cases rest
      exact submit_events_answer_inv later logInv inv submit
    | _ =>
      rw [call] at submitting
      cases submitting

end AgentMate
