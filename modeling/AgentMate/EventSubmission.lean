import AgentMate.ProtocolEffects

/-! # What one submitted event can do -/

namespace AgentMate

open Rollback

variable {Hash : Type}

def Run.applied (text : PyText) (event : RunEvent Hash) (output : TerminalOutput) (now : Time)
    (run : Run) : Run :=
  { run with
    status := (eventKind event.eventType).status.getD run.status
    report := eventReport text (eventKind event.eventType) event output now run.report }

def Store.afterEvent (text : PyText) (store : Store Hash) (lease : Lease) (event : RunEvent Hash)
    (output : TerminalOutput) (business : Business) (now : Time) : Store Hash :=
  let logged : Store Hash := { store with
    events := store.events ++ [event.row lease event.hash now] }
  let applied := logged.applied text lease.runId event output business now
  if (eventKind event.eventType).isTerminal then
    applied.updateLease lease.id (Lease.complete event.eventId)
  else applied

section

variable (text : PyText) (store : Store Hash) (lease : Lease) (event : RunEvent Hash)
  (output : TerminalOutput) (business : Business) (now : Time)

@[simp] theorem after_event_events :
    (store.afterEvent text lease event output business now).events =
      store.events ++ [event.row lease event.hash now] := by
  unfold Store.afterEvent
  split <;> rfl

@[simp] theorem after_event_business :
    (store.afterEvent text lease event output business now).business = business := by
  unfold Store.afterEvent
  split <;> rfl

theorem after_event_runs : (store.afterEvent text lease event output business now).runs =
      (store.updateRun lease.runId (Run.applied text event output now)).runs := by
  unfold Store.afterEvent
  split <;> rfl

theorem after_event_commands : (store.afterEvent text lease event output business now).commands =
      Table.updateWhere
        (fun command => (eventKind event.eventType).acknowledges text event.payload lease.runId
          command)
        (fun command => { command with status := .acknowledged, acknowledgedAt := now })
        store.commands := by
  unfold Store.afterEvent
  split <;> rfl

theorem after_event_leases : (store.afterEvent text lease event output business now).leases =
      if (eventKind event.eventType).isTerminal then
        (store.updateLease lease.id (Lease.complete event.eventId)).leases
      else store.leases := by
  unfold Store.afterEvent
  split <;> rfl

theorem applied_frame (row : Run) : Run.Frame row (row.applied text event output now) := rfl

theorem after_event_run (other : String) :
    (store.afterEvent text lease event output business now).run? other =
      if other = lease.runId then (store.run? other).map (Run.applied text event output now)
      else store.run? other := by
  rw [← run_update_run store (applied_frame text event output now) other]
  simp only [Store.run?, after_event_runs]

theorem after_event_keyed (keyed : store.Keyed) :
    (store.afterEvent text lease event output business now).Keyed := by
  constructor
  · rw [after_event_runs]
    exact Table.unique_key_update (fun _ => rfl) keyed.runs
  · rw [after_event_leases]
    split
    · exact Table.unique_key_update (fun _ => rfl) keyed.leases
    · exact keyed.leases

end

variable [DecidableEq Hash] {host : Host Hash} {lease : Lease} {now : Time}
  {batch next : Batch Hash} {event : RunEvent Hash}

/-- The event is stored already and stays as it is. -/
structure Replayed (lease : Lease) (batch next : Batch Hash) (event : RunEvent Hash) : Prop where
  store : next.store = batch.store
  terminal : next.terminalEventId = batch.terminalEventId
  stored : ∃ row, existingEvent batch.store lease event = some row ∧
    row.eventId = event.eventId ∧ row.payloadHash = event.hash ∧ row.eventType = event.eventType
  ack : (event.sequence ≤ batch.ack ∧ next.ack = batch.ack) ∨
    (event.sequence = batch.ack + 1 ∧ next.ack = event.sequence)

/-- The event is new and takes effect. -/
structure Applied (host : Host Hash) (lease : Lease) (now : Time) (batch next : Batch Hash)
    (event : RunEvent Hash) : Prop where
  absent : existingEvent batch.store lease event = none
  live : lease.isLive now = true
  sequence : event.sequence = batch.ack + 1
  ack : next.ack = event.sequence
  terminal : next.terminalEventId =
    if (eventKind event.eventType).isTerminal then event.eventId else batch.terminalEventId
  store : ∃ output business, eventBusiness host.toPyText
        { batch.store with events := batch.store.events ++ [event.row lease event.hash now] }
        lease.runId lease.leaseEpoch event now = .ok (output, business) ∧
      next.store = batch.store.afterEvent host.toPyText lease event output business now

theorem submit_event_cases (done : submitEvent host lease now batch event = .ok next) :
    checkEvent host lease event = .ok () ∧
      (Replayed lease batch next event ∨ Applied host lease now batch next event) := by
  obtain ⟨⟨⟩, checked, done⟩ := bind_ok done
  refine ⟨checked, ?_⟩
  cases found : existingEvent batch.store lease event with
  | some row =>
    left
    rw [found] at done
    simp only at done
    split at done
    · cases done
    · next same =>
      simp only [ne_eq, not_or, Decidable.not_not] at same
      split at done
      · split at done
        · cases done
        · next ahead contiguous =>
          cases done
          exact ⟨rfl, rfl, ⟨row, found, same⟩, Or.inr ⟨Decidable.not_not.mp contiguous, rfl⟩⟩
      · next behind =>
        cases done
        exact ⟨rfl, rfl, ⟨row, found, same⟩, Or.inl ⟨Nat.le_of_not_lt behind, rfl⟩⟩
  | none =>
    right
    rw [found] at done
    simp only at done
    split at done
    · cases done
    · next live =>
      have live : lease.isLive now = true := by simpa using live
      split at done
      · cases done
      · next contiguous =>
        have contiguous : event.sequence = batch.ack + 1 := Decidable.not_not.mp contiguous
        obtain ⟨⟨applied, terminal⟩, applying, done⟩ := bind_ok done
        obtain ⟨⟨output, business⟩, written, applying⟩ := bind_ok applying
        obtain ⟨rfl, rfl⟩ := Prod.mk.inj (Except.ok.inj applying)
        cases terminal : (eventKind event.eventType).isTerminal with
        | true =>
          rw [terminal, if_pos rfl] at done
          cases done
          refine ⟨found, live, contiguous, rfl, ?_, output, business, written, ?_⟩
          · rw [if_pos terminal]
          · rw [Store.afterEvent, if_pos terminal]
        | false =>
          rw [terminal, if_neg Bool.false_ne_true] at done
          cases done
          refine ⟨found, live, contiguous, rfl, ?_, output, business, written, ?_⟩
          · rw [if_neg (by simp [terminal])]
          · rw [Store.afterEvent, if_neg (by simp [terminal])]

def Batch.start (store : Store Hash) (lease : Lease) : Batch Hash :=
  ⟨store, lease.ackHighWater, lease.terminalEventId⟩

theorem submit_events_cases {store finish : Store Hash} {principal : DevicePrincipal}
    {runId leaseId : String} {leaseEpoch : Nat} {events : List (RunEvent Hash)}
    {reply : SubmitReply}
    (done : submitEvents host store principal runId leaseId leaseEpoch events now =
      .ok (finish, reply)) :
    ∃ lease final, currentLease store principal runId leaseId leaseEpoch = .ok lease ∧
      events.foldlM (submitEvent host lease now) (Batch.start store lease) = .ok final ∧
      finish = final.store.updateLease lease.id (Lease.acknowledge final.ack) ∧
      reply = ⟨final.ack, final.terminalEventId, pendingCommands finish runId⟩ := by
  obtain ⟨lease, current, done⟩ := bind_ok done
  obtain ⟨final, loop, done⟩ := bind_ok done
  obtain ⟨-, sameId, -⟩ := current_lease_ok current
  obtain ⟨rfl, rfl⟩ := Prod.mk.inj (Except.ok.inj done)
  refine ⟨lease, final, current, loop, ?_, rfl⟩
  rw [sameId]

end AgentMate
