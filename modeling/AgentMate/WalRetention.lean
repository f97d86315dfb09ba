import AgentMate.RunLog
import AgentMate.WalSequence

/-! # No event is lost on the device -/

namespace AgentMate

open TransitionSystem Rollback List

variable {Hash : Type}

def EventRow.submitted (stored : EventRow Hash) : RunEvent Hash :=
  { eventId := stored.eventId, sequence := stored.sequence, eventType := stored.eventType
    occurredAt := stored.occurredAt, payload := stored.payload, hash := stored.payloadHash }

/-- The Server stores the row with its content under its Run, epoch and number. -/
def StoredAs (agent : LocalAgent Hash) (row : WalRow Hash) (stored : EventRow Hash) : Prop :=
  stored.runId = agent.runId ∧ stored.leaseEpoch = row.leaseEpoch ∧ stored.submitted = row.event

def Retained (agent : LocalAgent Hash) (network : Network Hash) (row : WalRow Hash) : Prop :=
  row ∈ network.transport.wal ∨ row ∈ network.transport.retired ∨
    ∃ stored ∈ network.server.store.events, StoredAs agent row stored

section

variable [DecidableEq Hash] {host : Host Hash} {now : Time}

variable {stored : EventRow Hash} {events : List (RunEvent Hash)}

theorem submit_event_rows {lease : Lease} {batch next : Batch Hash} {event : RunEvent Hash}
    (done : submitEvent host lease now batch event = .ok next)
    (mem : stored ∈ next.store.events) :
    stored ∈ batch.store.events ∨ stored = event.row lease event.hash now := by
  obtain ⟨-, replayed | applied⟩ := submit_event_cases done
  · rw [replayed.store] at mem
    exact Or.inl mem
  · rw [applied_events applied] at mem
    rcases mem_append.mp mem with old | new
    · exact Or.inl old
    · exact Or.inr (mem_singleton.mp new)

theorem submit_batch_rows {lease : Lease} {batch final : Batch Hash}
    (done : events.foldlM (submitEvent host lease now) batch = .ok final)
    (mem : stored ∈ final.store.events) :
    stored ∈ batch.store.events ∨ ∃ event ∈ events, stored = event.row lease event.hash now := by
  induction events generalizing batch with
  | nil =>
    rw [fold_nil_ok done] at mem
    exact Or.inl mem
  | cons event rest ih =>
    obtain ⟨middle, pass, remaining⟩ := fold_cons_ok done
    rcases ih remaining with before | ⟨later, laterMem, same⟩
    · rcases submit_event_rows pass before with old | new
      · exact Or.inl old
      · exact Or.inr ⟨event, mem_cons_self, new⟩
    · exact Or.inr ⟨later, mem_cons_of_mem event laterMem, same⟩

theorem server_step_rows {server next : Server Hash} {action : Server.Action Hash}
    (leaseInv : LeaseInv server.now server.store)
    (step : (serverMachine host).Step server action next) (mem : stored ∈ next.store.events) :
    stored ∈ server.store.events ∨ ∃ principal runId leaseId leaseEpoch events event,
        action.call = .submitEvents principal runId leaseId leaseEpoch events ∧
        event ∈ events ∧ stored.runId = runId ∧ stored.deviceId = principal.deviceId ∧
        stored.leaseEpoch = leaseEpoch ∧ stored.submitted = event := by
  obtain ⟨order, rfl⟩ := step
  cases done : perform host server.store action.now action.call with
  | error error =>
    rw [Server.serve, done, commit_error] at mem
    exact Or.inl mem
  | ok after =>
    rw [Server.serve, done, commit_ok] at mem
    rcases perform_cases leaseInv.keyed done with
      effects | ⟨principal, runId, leaseId, leaseEpoch, events, reply, call, submit⟩
    · rw [effects_events effects] at mem
      exact Or.inl mem
    · obtain ⟨lease, final, current, loop, same, -⟩ := submit_events_cases submit
      obtain ⟨-, -, rfl, device, -, rfl, -⟩ := current_lease_ok current
      rw [same] at mem
      rcases submit_batch_rows loop mem with old | ⟨event, listed, rfl⟩
      · exact Or.inl old
      · exact Or.inr ⟨principal, _, leaseId, _, events, event, call, listed, rfl, device, rfl, rfl⟩

theorem submit_events_acknowledged {store finish : Store Hash} {principal : DevicePrincipal}
    {runId leaseId : String} {leaseEpoch sequence : Nat}
    {reply : SubmitReply} (leaseInv : LeaseInv now store) (logInv : LogInv host store)
    (done : submitEvents host store principal runId leaseId leaseEpoch events now =
      .ok (finish, reply)) (positive : 1 ≤ sequence) (bound : sequence ≤ reply.ackHighWater) :
    ∃ stored ∈ finish.events, stored.runId = runId ∧ stored.leaseEpoch = leaseEpoch ∧
      stored.deviceId = principal.deviceId ∧ stored.sequence = sequence := by
  obtain ⟨lease, final, current, loop, rfl, rfl⟩ := submit_events_cases done
  have inv := submit_batch_inv (start_batch_inv now leaseInv logInv current) loop
  obtain ⟨-, -, rfl, device, -, rfl, -⟩ := current_lease_ok current
  obtain ⟨row, mem, -, sameRun, sameEpoch, sameDevice, ack⟩ := settled_row inv.holding
  have listed : sequence ∈
      ((final.settled lease).epochLog row.runId row.leaseEpoch).map EventRow.sequence := by
    rw [inv.log.contiguous row mem, ack, mem_range'_1]
    change sequence ≤ final.ack at bound
    omega
  obtain ⟨stored, logged, rfl⟩ := mem_map.mp listed
  obtain ⟨storedMem, storedRun, storedEpoch⟩ := mem_epoch_log.mp logged
  obtain ⟨holder, holderMem, -, holderRun, holderEpoch, holderDevice⟩ :=
    inv.log.written stored storedMem
  have settledInv : LeaseInv now (final.settled lease) := acknowledge_lease_inv inv.leases
  have same : holder = row := lease_epoch_unique settledInv holderMem mem
    (holderRun.trans storedRun) (holderEpoch.trans storedEpoch)
  rw [same] at holderDevice
  exact ⟨stored, storedMem, storedRun.trans sameRun, storedEpoch.trans sameEpoch,
    holderDevice.symm.trans (sameDevice.trans device), rfl⟩

end

/-- Queued rows and posted events were written by `append_event`. -/
structure WrittenInv (network : Network Hash) : Prop where
  positive : ∀ row ∈ network.transport.written, 1 ≤ row.event.sequence
  queued : ∀ row ∈ network.transport.wal, row ∈ network.transport.written
  carried : ∀ flight, network.flushes.Carries flight → ∀ event ∈ flight.events,
    (⟨flight.lease.leaseEpoch, event⟩ : WalRow Hash) ∈ network.transport.written

section

variable {agent : LocalAgent Hash} {transport : Transport Hash}

variable {row : WalRow Hash}

theorem retire_superseded_kept (epoch : Nat) (queued : row ∈ transport.wal) :
    row ∈ (transport.retireSuperseded epoch).wal ∨
      row ∈ (transport.retireSuperseded epoch).retired := by
  by_cases superseded : row.leaseEpoch < epoch
  · right
    apply mem_append_right
    simp [queued, superseded]
  · left
    apply mem_filter.mpr
    simpa [queued] using superseded

theorem restart_kept (queued : row ∈ transport.wal) :
    row ∈ transport.restart.wal ∨ row ∈ transport.restart.retired := by
  unfold Transport.restart
  split
  · split
    · exact retire_superseded_kept _ queued
    · exact Or.inl queued
  · exact Or.inl queued

theorem restart_retired : transport.retired ⊆ transport.restart.retired := by
  unfold Transport.restart
  split
  · split
    · exact subset_append_left _ _
    · exact List.Subset.refl _
  · exact List.Subset.refl _

theorem record_lease_kept (grant : LeaseGrant) (queued : row ∈ transport.wal) :
    row ∈ ((transport.recordLease grant).toOption.getD transport).wal ∨
      row ∈ ((transport.recordLease grant).toOption.getD transport).retired := by
  rcases recorded_transport transport grant with same | ⟨same, -⟩
  · rw [same]
    exact Or.inl queued
  · rw [same]
    exact retire_superseded_kept grant.leaseEpoch queued

theorem record_lease_retired (grant : LeaseGrant) :
    transport.retired ⊆ ((transport.recordLease grant).toOption.getD transport).retired := by
  rcases recorded_transport transport grant with same | ⟨same, -⟩
  · rw [same]
    exact List.Subset.refl _
  · rw [same]
    exact subset_append_left _ _

theorem record_lease_rows (grant : LeaseGrant) :
    ((transport.recordLease grant).toOption.getD transport).written = transport.written ∧
      ∀ row ∈ ((transport.recordLease grant).toOption.getD transport).wal, row ∈ transport.wal := by
  rcases recorded_transport transport grant with same | ⟨same, -⟩
  · rw [same]
    exact ⟨rfl, fun _ mem => mem⟩
  · rw [same]
    exact ⟨rfl, fun row mem => mem_of_mem_filter mem⟩

theorem settle_flush_retired (flight : Flight Hash) (reply : Reply SubmitReply) :
    (transport.settleFlush flight reply).retired = transport.retired := by
  unfold Transport.settleFlush
  split
  · split <;> rfl
  · split <;> rfl
  · rfl
  · rfl

theorem settle_renewal_retired (posted : LocalLease) (clock : Time) (reply : Reply LeaseRenewal) :
    (transport.settleRenewal posted clock reply).1.retired = transport.retired := by
  unfold Transport.settleRenewal
  split
  · rfl
  · rfl
  · rfl
  · split <;> rfl

end

theorem initial_written_inv {network : Network Hash} (initial : network.Initial) :
    WrittenInv network := by
  refine ⟨?_, ?_, ?_⟩
  · simp [initial.written]
  · simp [initial.wal]
  · intro flight carried
    rw [initial.flushes] at carried
    rcases carried with ⟨item, mem, -⟩ | ⟨reply, mem⟩ <;> cases mem

section

variable [DecidableEq Hash] {agent : LocalAgent Hash} {network next : Network Hash}
  {action : Network.Action Hash}

theorem move_rows (move : network.Move agent action next) :
    (next.transport.written = network.transport.written ∧
      ∀ row ∈ next.transport.wal, row ∈ network.transport.wal) ∨
    ∃ row, 1 ≤ row.event.sequence ∧
      next.transport.written = network.transport.written ++ [row] ∧
      next.transport.wal = network.transport.wal ++ [row] := by
  cases move with
  | record index grant found => exact Or.inl (record_lease_rows grant)
  | append clock otherBytes eventType payload lease found =>
    right
    refine ⟨network.transport.newRow agent clock lease eventType payload, ?_, rfl, rfl⟩
    simp only [Transport.newRow, Transport.nextSequence]
    omega
  | settleFlush index flight reply =>
    have settled := settle_flush_settled network.transport flight reply
    exact Or.inl ⟨settled.written, settled.kept⟩
  | settleRenewal index clock lease reply =>
    have settled := (settle_renewal_settled network.transport lease clock reply).1
    exact Or.inl ⟨settled.written, settled.kept⟩
  | restart =>
    have settled := restart_settled network.transport
    exact Or.inl ⟨settled.written, settled.kept⟩
  | _ => exact Or.inl ⟨rfl, fun _ mem => mem⟩

theorem move_written (move : network.Move agent action next) :
    network.transport.written ⊆ next.transport.written := by
  rcases move_rows move with ⟨same, -⟩ | ⟨row, -, same, -⟩
  · rw [same]
    exact List.Subset.refl _
  · rw [same]
    exact subset_append_left _ _

theorem move_carried (move : network.Move agent action next) {flight : Flight Hash}
    (carried : next.flushes.Carries flight) :
    network.flushes.Carries flight ∨ ∃ lease, flight = ⟨lease, network.transport.batch lease⟩ := by
  cases move with
  | postFlush index lease flushes found posted =>
    rcases posted with rfl | rfl
    · exact Or.inl carried
    · exact (Mailbox.carries_post carried).imp_right fun same => ⟨lease, same⟩
  | serveFlush => exact Or.inl (Mailbox.carries_serve carried)
  | loseFlush => exact Or.inl (Mailbox.carries_give_up carried)
  | settleFlush => exact Or.inl (Mailbox.carries_read carried)
  | restart => exact Or.inl (Mailbox.carries_abandon carried)
  | _ => exact Or.inl carried

theorem move_written_inv (inv : WrittenInv network) (move : network.Move agent action next) :
    WrittenInv next := by
  have grown := move_written move
  constructor
  · intro row mem
    rcases move_rows move with ⟨same, -⟩ | ⟨new, positive, same, -⟩
    · rw [same] at mem
      exact inv.positive row mem
    · rw [same] at mem
      rcases mem_append.mp mem with old | added
      · exact inv.positive row old
      · rw [mem_singleton.mp added]
        exact positive
  · intro row mem
    rcases move_rows move with ⟨-, kept⟩ | ⟨new, -, same, wal⟩
    · exact grown (inv.queued row (kept row mem))
    · rw [wal] at mem
      rw [same]
      exact mem_append.mpr ((mem_append.mp mem).imp_left (inv.queued row))
  · intro flight carried event mem
    rcases move_carried move carried with before | ⟨lease, rfl⟩
    · exact grown (inv.carried flight before event mem)
    · exact grown (inv.queued _ (mem_batch mem))

theorem network_written_inv {Guard : Network Hash → Network.Action Hash → Prop}
    (reachable : (networkMachine agent).Reachable Guard network) : WrittenInv network :=
  reachable_invariant WrittenInv (fun _ initial => initial_written_inv initial)
    (fun _ _ _ inv _ step => move_written_inv inv (network_step_move step)) reachable

end

structure DeliveryInv (agent : LocalAgent Hash) (network : Network Hash) : Prop where
  stored : ∀ stored ∈ network.server.store.events, stored.runId = agent.runId →
    stored.deviceId = agent.deviceId → ∃ row ∈ network.transport.written, StoredAs agent row stored
  receipts : ∀ flight receipt, (flight, Reply.answered (.ok receipt)) ∈ network.flushes.replies →
    ∀ sequence, 1 ≤ sequence → sequence ≤ receipt.ackHighWater →
      ∃ stored ∈ network.server.store.events, stored.runId = agent.runId ∧
        stored.leaseEpoch = flight.lease.leaseEpoch ∧ stored.deviceId = agent.deviceId ∧
        stored.sequence = sequence

section

variable [DecidableEq Hash] {agent : LocalAgent Hash} {network next : Network Hash}
  {action : Network.Action Hash} {Guard : Network Hash → Network.Action Hash → Prop}

theorem move_events (reachable : (networkMachine agent).Reachable Guard network)
    (move : network.Move agent action next) :
    network.server.store.events <+: next.server.store.events := by
  rcases move_server move with same | ⟨request, step, -⟩
  · exact same ▸ prefix_rfl
  · have server := network_server reachable
    exact server_step_events (server_lease_inv server) (server_log_inv server) step

theorem move_stored (reachable : (networkMachine agent).Reachable Guard network)
    (written : WrittenInv network) (inv : DeliveryInv agent network)
    (move : network.Move agent action next) :
    ∀ stored ∈ next.server.store.events, stored.runId = agent.runId →
      stored.deviceId = agent.deviceId →
      ∃ row ∈ next.transport.written, StoredAs agent row stored := by
  intro stored mem sameRun sameDevice
  have before : stored ∈ network.server.store.events →
      ∃ row ∈ next.transport.written, StoredAs agent row stored := by
    intro old
    obtain ⟨row, rowMem, same⟩ := inv.stored stored old sameRun sameDevice
    exact ⟨row, move_written move rowMem, same⟩
  rcases move_server move with same | ⟨request, step, own⟩
  · rw [same] at mem
    exact before mem
  · rcases server_step_rows (server_lease_inv (network_server reachable)) step mem with
      old | ⟨principal, runId, leaseId, leaseEpoch, events, event, call, listed, run, device,
        epoch, content⟩
    · exact before old
    · have submits : request.call.SubmitsFor agent.deviceId agent.runId := by
        rw [call]
        exact ⟨device.symm.trans sameDevice, run.symm.trans sameRun⟩
      obtain ⟨index, now, presenter, item, -, found, posted⟩ := own submits
      rw [posted] at call
      cases call
      have flown := written.carried item.request (Mailbox.carries_posted found) event listed
      exact ⟨_, move_written move flown, sameRun, epoch, content⟩

theorem answered_flush_stored (reachable : (networkMachine agent).Reachable Guard network)
    {now : Time} {principal : DevicePrincipal} {flight : Flight Hash} {receipt : SubmitReply}
    (order : network.server.now ≤ now) (own : principal.deviceId = agent.deviceId)
    (answered : (network.flushReply agent now principal flight).2 = .ok receipt) :
    ∀ sequence, 1 ≤ sequence → sequence ≤ receipt.ackHighWater →
      ∃ stored ∈ (network.flushReply agent now principal flight).1.store.events,
        stored.runId = agent.runId ∧ stored.leaseEpoch = flight.lease.leaseEpoch ∧
        stored.deviceId = agent.deviceId ∧ stored.sequence = sequence := by
  intro sequence positive bound
  have server := network_server reachable
  unfold Network.flushReply Server.exchange at answered ⊢
  split at answered
  · next store value done =>
    cases answered
    rw [← own]
    exact submit_events_acknowledged (lease_inv_later (server_lease_inv server) order)
      (server_log_inv server) done positive bound
  · cases answered

theorem move_receipts (reachable : (networkMachine agent).Reachable Guard network)
    (inv : DeliveryInv agent network) (move : network.Move agent action next) :
    ∀ flight receipt, (flight, Reply.answered (.ok receipt)) ∈ next.flushes.replies →
      ∀ sequence, 1 ≤ sequence → sequence ≤ receipt.ackHighWater →
        ∃ stored ∈ next.server.store.events, stored.runId = agent.runId ∧
          stored.leaseEpoch = flight.lease.leaseEpoch ∧ stored.deviceId = agent.deviceId ∧
          stored.sequence = sequence := by
  intro flight receipt mem sequence positive bound
  have before : (flight, Reply.answered (.ok receipt)) ∈ network.flushes.replies →
      ∃ stored ∈ next.server.store.events, stored.runId = agent.runId ∧
        stored.leaseEpoch = flight.lease.leaseEpoch ∧ stored.deviceId = agent.deviceId ∧
        stored.sequence = sequence := by
    intro old
    obtain ⟨stored, storedMem, facts⟩ :=
      inv.receipts flight receipt old sequence positive bound
    exact ⟨stored, (move_events reachable move).subset storedMem, facts⟩
  cases move with
  | postFlush index lease flushes found posted =>
    rcases posted with rfl | rfl
    · exact before mem
    · exact before mem
  | serveFlush index now principal item found order own =>
    rcases Mailbox.mem_replies_serve mem with old | ⟨served, servedFound, same⟩
    · exact before old
    · cases found.symm.trans servedFound
      obtain ⟨rfl, answered⟩ := Prod.mk.inj same
      exact answered_flush_stored reachable order own (Reply.answered.inj answered).symm sequence
        positive bound
  | loseFlush index unauthorized =>
    rcases Mailbox.mem_replies_give_up mem with old | ⟨item, found, same⟩
    · exact before old
    · cases unauthorized <;> cases same
  | settleFlush => exact before (mem_of_mem_eraseIdx mem)
  | restart => cases mem
  | _ => exact before mem

theorem network_delivery_inv (reachable : (networkMachine agent).Reachable Guard network) :
    DeliveryInv agent network := by
  obtain ⟨start, initial, path⟩ := reachable
  apply path_stable (DeliveryInv agent) ⟨start, initial, .refl start⟩ _ _ path
  · intro state action next reached inv _ step
    have move := network_step_move step
    exact ⟨move_stored reached (network_written_inv reached) inv move,
      move_receipts reached inv move⟩
  · have events : start.server.store.events = [] := initial.fresh.events
    have flushes : start.flushes = Mailbox.empty := initial.flushes
    constructor
    · simp [events]
    · simp [flushes, Mailbox.empty]

end

theorem acknowledged_stored {agent : LocalAgent Hash} {network : Network Hash}
    (unique : SequenceInv network.transport) (written : WrittenInv network)
    (delivered : DeliveryInv agent network) {flight : Flight Hash} {receipt : SubmitReply}
    (replied : (flight, Reply.answered (.ok receipt)) ∈ network.flushes.replies)
    {row : WalRow Hash} (mem : row ∈ network.transport.written)
    (epoch : row.leaseEpoch = flight.lease.leaseEpoch)
    (bound : row.event.sequence ≤ receipt.ackHighWater) :
    ∃ stored ∈ network.server.store.events, StoredAs agent row stored := by
  obtain ⟨stored, storedMem, storedRun, storedEpoch, storedDevice, storedSequence⟩ :=
    delivered.receipts flight receipt replied row.event.sequence (written.positive row mem) bound
  obtain ⟨origin, originMem, same⟩ :=
    delivered.stored stored storedMem storedRun storedDevice
  have place : (origin.leaseEpoch, origin.event.sequence) = (row.leaseEpoch, row.event.sequence) := by
    rw [← same.2.1, storedEpoch, ← epoch, ← same.2.2]
    exact congrArg (row.leaseEpoch, ·) storedSequence
  have origin_eq : origin = row :=
    inj_on_of_nodup_map unique.unique originMem mem place
  rw [← origin_eq]
  exact ⟨stored, storedMem, same⟩

section

variable [DecidableEq Hash] {agent : LocalAgent Hash} {network next : Network Hash}
  {action : Network.Action Hash}

theorem move_retained {Guard : Network Hash → Network.Action Hash → Prop}
    (reachable : (networkMachine agent).Reachable Guard network)
    (unique : SequenceInv network.transport) (written : WrittenInv network)
    (delivered : DeliveryInv agent network) (move : network.Move agent action next)
    {row : WalRow Hash} (mem : row ∈ network.transport.written)
    (retained : Retained agent network row) : Retained agent next row := by
  have grown := move_events reachable move
  rcases retained with queued | archived | ⟨stored, storedMem, same⟩
  · cases move with
    | record index grant found =>
      exact (record_lease_kept grant queued).imp_right Or.inl
    | append => exact Or.inl (mem_append_left _ queued)
    | settleFlush index flight reply found =>
      by_cases kept : row ∈ (network.transport.settleFlush flight reply).wal
      · exact Or.inl kept
      · obtain ⟨receipt, rfl, epoch, bound⟩ := settle_flush_dropped queued kept
        exact Or.inr (Or.inr (acknowledged_stored unique written delivered
          (mem_of_getElem? found) mem epoch bound))
    | settleRenewal index clock lease reply =>
      left
      change row ∈ (network.transport.settleRenewal lease clock reply).1.wal
      rw [(settle_renewal_settled network.transport lease clock reply).2]
      exact queued
    | restart => exact (restart_kept queued).imp_right Or.inl
    | _ => exact Or.inl queued
  · right
    left
    cases move with
    | record index grant found => exact record_lease_retired grant archived
    | settleFlush index flight reply =>
      exact (settle_flush_retired flight reply).symm ▸ archived
    | settleRenewal index clock lease reply =>
      exact (settle_renewal_retired lease clock reply).symm ▸ archived
    | restart => exact restart_retired archived
    | _ => exact archived
  · exact Or.inr (Or.inr ⟨stored, grown.subset storedMem, same⟩)

/-- No event is lost, as long as no reply lowers the acknowledged mark. -/
theorem no_event_lost (agent : LocalAgent Hash)
    (reachable : (networkMachine agent).Reachable AckKept network) :
    ∀ row ∈ network.transport.written, Retained agent network row := by
  obtain ⟨start, initial, path⟩ := reachable
  apply path_stable (fun network => ∀ row ∈ network.transport.written,
    Retained agent network row) ⟨start, initial, .refl start⟩ _ _ path
  · intro state action next reached retained kept step row mem
    have move := network_step_move step
    have old : row ∈ state.transport.written → Retained agent next row := fun before =>
      move_retained reached (network_sequence_inv reached) (network_written_inv reached)
        (network_delivery_inv reached) move before (retained row before)
    rcases move_rows move with ⟨same, -⟩ | ⟨new, -, same, wal⟩
    · rw [same] at mem
      exact old mem
    · rw [same] at mem
      rcases mem_append.mp mem with before | added
      · exact old before
      · left
        rw [wal]
        exact mem_append_right _ added
  · simp [initial.written]

end

def overwrittenEvent : List (Network.Action Envelope) :=
  firstAppend ++ [.postRenewal, .serveRenewal 0 4 laptop, .openFlush, .postFlush 0, .openFlush,
    .postFlush 0, .serveFlush 0 5 laptop, .serveFlush 0 5 laptop, .settleFlush 0,
    .settleRenewal 0 6, .append 7 0 "text.delta" (.obj [("text", .str "hello")]), .settleFlush 0]

/-- What `Retained` asks of the identifier of a row. -/
def retainedIds (network : Network Envelope) : List String :=
  (network.transport.wal ++ network.transport.retired).map (fun row => row.event.eventId) ++
    network.server.store.events.map EventRow.eventId

theorem retained_id {network : Network Envelope} {row : WalRow Envelope}
    (retained : Retained laptopAgent network row) : row.event.eventId ∈ retainedIds network := by
  unfold retainedIds
  rcases retained with queued | archived | ⟨stored, mem, -, -, same⟩
  · exact mem_append_left _ (mem_map_of_mem (mem_append_left _ queued))
  · exact mem_append_left _ (mem_map_of_mem (mem_append_right _ archived))
  · apply mem_append_right
    rw [← same]
    exact mem_map_of_mem mem

theorem second_answer_loses_event : ∃ network,
    (networkMachine laptopAgent).Reachable Anything network ∧
      ∃ row ∈ network.transport.written, ¬Retained laptopAgent network row := by
  have ran : ((Network.runAll laptopAgent (fun _ _ => true) overwrittenEvent).map fun network =>
      network.transport.written.any fun row =>
        row.event.eventId ∉ retainedIds network) = some true := by decide +kernel
  rw [Option.map_eq_some_iff] at ran
  obtain ⟨network, done, lost⟩ := ran
  obtain ⟨row, mem, absent⟩ := any_eq_true.mp lost
  refine ⟨network, reachable_weaken (fun _ _ _ => trivial) (network_run_reachable _ done), row,
    mem, fun retained => ?_⟩
  exact of_decide_eq_true absent (retained_id retained)

theorem prompt_renewal_keeps_events : ∃ network,
    Network.runAll laptopAgent Network.keepsAck promptRenewal = some network ∧
      ∀ row ∈ network.transport.written, Retained laptopAgent network row := by
  have possible : (Network.runAll laptopAgent Network.keepsAck promptRenewal).isSome = true := by
    decide +kernel
  obtain ⟨network, done⟩ := Option.isSome_iff_exists.mp possible
  exact ⟨network, done, no_event_lost laptopAgent (network_run_reachable _ done)⟩

end AgentMate
