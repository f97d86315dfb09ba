import AgentMate.TransportNetwork
import AgentMate.LeaseFencing

/-! # Sequence numbers of the local WAL -/

namespace AgentMate

open TransitionSystem List Option

variable {Hash : Type}

def Transport.epochs (transport : Transport Hash) : List Nat :=
  (transport.lease.map LocalLease.leaseEpoch).toList ++ transport.written.map WalRow.leaseEpoch

def Issued (store : Store Hash) (runId : String) (epoch : Nat) : Prop :=
  ∃ leaseId, (leaseId, runId, epoch) ∈ store.issued

/-- Grants that were not recorded yet are newer to the device than all it has written. -/
structure EpochInv (agent : LocalAgent Hash) (network : Network Hash) : Prop where
  known : ∀ epoch ∈ network.transport.epochs, Issued network.server.store agent.runId epoch
  granted : ∀ grant ∈ network.grants, Issued network.server.store agent.runId grant.leaseEpoch ∧
      grant.leaseEpoch ∉ network.transport.epochs
  distinct : (network.grants.map LeaseGrant.leaseEpoch).Nodup
  ordered : ∀ row ∈ network.transport.written, ∃ lease,
    network.transport.lease = some lease ∧ row.leaseEpoch ≤ lease.leaseEpoch

section

variable {agent : LocalAgent Hash} {now : Time} {store next : Store Hash}
  {transport after : Transport Hash}

theorem issued_grown {runId : String} {epoch : Nat} (grown : store.issued <+: next.issued)
    (issued : Issued store runId epoch) : Issued next runId epoch := by
  obtain ⟨leaseId, mem⟩ := issued
  exact ⟨leaseId, grown.subset mem⟩

theorem settled_epochs (settled : Settled transport after) : after.epochs = transport.epochs := by
  rw [Transport.epochs, Transport.epochs, settled.epoch, settled.written]

theorem claim_new_epoch {text : PyText} {principal : DevicePrincipal} {leaseSeconds : Int}
    {leaseId : String} {grant : LeaseGrant} (inv : LeaseInv now store)
    (claimed : leaseRun text store principal leaseSeconds leaseId now = .ok (next, some grant)) :
    Issued next grant.run.id grant.leaseEpoch ∧
      ∀ epoch, Issued store grant.run.id epoch → epoch < grant.leaseEpoch := by
  obtain ⟨expired, expiring, ⟨-, -, none⟩ | ⟨run, selected, -, rfl, granted⟩⟩ :=
    lease_run_cases inv.keyed claimed
  · cases none
  · cases granted
    have effects := expire_leases_effects inv.keyed expiring
    have expiredInv := effects_lease_inv inv effects
    constructor
    · refine ⟨leaseId, ?_⟩
      rw [Store.issued, map_append]
      exact mem_append_right _ (mem_singleton.mpr rfl)
    · rintro epoch ⟨oldId, mem⟩
      have kept := (effects_issued effects).subset mem
      obtain ⟨lease, leaseMem, same⟩ := List.mem_map.mp kept
      simp only [Prod.mk.injEq] at same
      obtain ⟨holder, found, -, -, bound⟩ := expiredInv.held lease leaseMem
      have own : expired.run? lease.runId = some run := by
        rw [same.2.1]
        exact run_of_mem expiredInv.keyed (lease_candidate_some selected).1
      cases own.symm.trans found
      rw [← same.2.2]
      exact Nat.lt_succ_of_le bound

theorem recorded_transport (transport : Transport Hash) (grant : LeaseGrant) :
    (transport.recordLease grant).toOption.getD transport = transport ∨
      (transport.recordLease grant).toOption.getD transport =
        { transport.retireSuperseded grant.leaseEpoch with
          lease := some ⟨grant.leaseId, grant.leaseEpoch, grant.expiresAt, grant.ackHighWater,
            .active⟩ } ∧
        ∀ current, transport.lease = some current → current.leaseEpoch ≤ grant.leaseEpoch := by
  cases done : transport.recordLease grant with
  | error error => exact Or.inl rfl
  | ok recorded =>
    obtain ⟨order, -⟩ := record_lease_ok done
    refine Or.inr ⟨?_, order⟩
    unfold Transport.recordLease at done
    split at done
    · cases done
    · split at done
      · cases done
      · exact (Except.ok.inj done).symm

theorem erased_epoch {grants : List LeaseGrant} {index : Nat} {grant other : LeaseGrant}
    (distinct : (grants.map LeaseGrant.leaseEpoch).Nodup) (found : grants[index]? = some grant)
    (mem : other ∈ grants.eraseIdx index) : other.leaseEpoch ≠ grant.leaseEpoch := by
  obtain ⟨position, apart, otherFound⟩ := mem_eraseIdx_iff_getElem?.mp mem
  intro same
  apply apart
  have left : (grants.map LeaseGrant.leaseEpoch)[position]? = some other.leaseEpoch := by
    rw [getElem?_map, otherFound, map_some]
  have right : (grants.map LeaseGrant.leaseEpoch)[index]? = some other.leaseEpoch := by
    rw [getElem?_map, found, map_some, same]
  obtain ⟨bound, -⟩ := List.getElem?_eq_some_iff.mp left
  exact (getElem?_inj bound distinct).mp (left.trans right.symm)

theorem restart_settled (transport : Transport Hash) : Settled transport transport.restart := by
  unfold Transport.restart
  split
  · next lease found =>
    split
    · exact ⟨rfl, rfl, fun row mem => mem_of_mem_filter mem⟩
    · exact settled_refl transport
  · exact settled_refl transport

end

section

variable {agent : LocalAgent Hash} {network next : Network Hash}

theorem epoch_inv_settled (inv : EpochInv agent network)
    (grown : network.server.store.issued <+: next.server.store.issued)
    (settled : Settled network.transport next.transport)
    (grants : next.grants.Sublist network.grants) : EpochInv agent next := by
  have epochs := settled_epochs settled
  constructor
  · intro epoch mem
    rw [epochs] at mem
    exact issued_grown grown (inv.known epoch mem)
  · intro grant mem
    obtain ⟨issued, unrecorded⟩ := inv.granted grant (grants.subset mem)
    rw [epochs]
    exact ⟨issued_grown grown issued, unrecorded⟩
  · exact inv.distinct.sublist (grants.map LeaseGrant.leaseEpoch)
  · intro row mem
    rw [settled.written] at mem
    obtain ⟨lease, found, bound⟩ := inv.ordered row mem
    have epoch := settled.epoch
    rw [found, map_some, map_eq_some_iff] at epoch
    obtain ⟨later, laterFound, same⟩ := epoch
    exact ⟨later, laterFound, bound.trans_eq same.symm⟩

theorem epoch_inv_claim (inv : EpochInv agent network) {store : Store Hash} {now : Time}
    {grant : LeaseGrant} (grown : network.server.store.issued <+: store.issued)
    (issued : Issued store agent.runId grant.leaseEpoch)
    (above : ∀ epoch, Issued network.server.store agent.runId epoch → epoch < grant.leaseEpoch) :
    EpochInv agent { network with
      server := ⟨now, store⟩, grants := network.grants ++ [grant] } := by
  constructor
  · exact fun epoch mem => issued_grown grown (inv.known epoch mem)
  · intro other mem
    rcases mem_append.mp mem with old | new
    · obtain ⟨known, unrecorded⟩ := inv.granted other old
      exact ⟨issued_grown grown known, unrecorded⟩
    · rw [mem_singleton.mp new]
      exact ⟨issued, fun recorded => Nat.lt_irrefl _ (above _ (inv.known _ recorded))⟩
  · change ((network.grants ++ [grant]).map LeaseGrant.leaseEpoch).Nodup
    rw [map_append, map_singleton]
    apply inv.distinct.append (nodup_singleton _)
    intro epoch mem last
    obtain ⟨other, otherMem, rfl⟩ := List.mem_map.mp mem
    have later := above _ (inv.granted other otherMem).1
    rw [mem_singleton.mp last] at later
    exact Nat.lt_irrefl _ later
  · exact inv.ordered

theorem epoch_inv_record (inv : EpochInv agent network) {index : Nat} {grant : LeaseGrant}
    (found : network.grants[index]? = some grant) :
    EpochInv agent { network with
      transport := (network.transport.recordLease grant).toOption.getD network.transport
      grants := network.grants.eraseIdx index } := by
  have others : (network.grants.eraseIdx index).Sublist network.grants := eraseIdx_sublist ..
  rcases recorded_transport network.transport grant with same | ⟨same, order⟩
  · rw [same]
    exact epoch_inv_settled inv prefix_rfl (settled_refl network.transport) others
  · rw [same]
    have mem := mem_of_getElem? found
    constructor
    · intro epoch listed
      rcases mem_append.mp listed with own | written
      · rw [mem_singleton.mp own]
        exact (inv.granted grant mem).1
      · exact inv.known epoch (mem_append_right _ written)
    · intro other otherMem
      obtain ⟨issued, unrecorded⟩ := inv.granted other (others.subset otherMem)
      refine ⟨issued, fun listed => ?_⟩
      rcases mem_append.mp listed with own | written
      · exact erased_epoch inv.distinct found otherMem (mem_singleton.mp own)
      · exact unrecorded (mem_append_right _ written)
    · exact inv.distinct.sublist (others.map LeaseGrant.leaseEpoch)
    · intro row written
      obtain ⟨lease, leaseFound, bound⟩ := inv.ordered row written
      exact ⟨_, rfl, bound.trans (order lease leaseFound)⟩

theorem epoch_inv_append (inv : EpochInv agent network) {clock : Time} {otherBytes : Nat}
    {eventType : String} {payload : Json} {lease : LocalLease}
    (found : network.transport.lease = some lease) :
    EpochInv agent { network with
      transport := { network.transport with otherBytes := otherBytes }.push
        (network.transport.newRow agent clock lease eventType payload) } := by
  have own : lease.leaseEpoch ∈ network.transport.epochs := by
    rw [Transport.epochs, found]
    exact mem_cons_self
  have epochs : ∀ epoch ∈ ({ network.transport with otherBytes := otherBytes }.push
      (network.transport.newRow agent clock lease eventType payload)).epochs,
      epoch ∈ network.transport.epochs := by
    intro epoch mem
    rcases mem_append.mp mem with held | written
    · exact mem_append_left _ held
    · obtain ⟨row, rowMem, rfl⟩ := List.mem_map.mp written
      rcases mem_append.mp rowMem with old | new
      · exact mem_append_right _ (List.mem_map_of_mem old)
      · rw [mem_singleton.mp new]
        exact own
  constructor
  · exact fun epoch mem => inv.known epoch (epochs epoch mem)
  · intro grant mem
    obtain ⟨issued, unrecorded⟩ := inv.granted grant mem
    exact ⟨issued, fun listed => unrecorded (epochs _ listed)⟩
  · exact inv.distinct
  · intro row mem
    rcases mem_append.mp mem with old | new
    · exact inv.ordered row old
    · rw [mem_singleton.mp new]
      exact ⟨lease, found, le_rfl⟩

end

section

variable [DecidableEq Hash] {agent : LocalAgent Hash} {network next : Network Hash}
  {action : Network.Action Hash}

variable {Guard : Network Hash → Network.Action Hash → Prop}

theorem move_issued (reachable : (networkMachine agent).Reachable Guard network)
    (move : network.Move agent action next) :
    network.server.store.issued <+: next.server.store.issued := by
  rcases move_server move with same | ⟨request, step, -⟩
  · exact same ▸ prefix_rfl
  · exact server_step_issued (server_lease_inv (network_server reachable)) step

theorem move_epoch_inv (reachable : (networkMachine agent).Reachable Guard network)
    (inv : EpochInv agent network) (move : network.Move agent action next) :
    EpochInv agent next := by
  have grown := move_issued reachable move
  cases move with
  | claim now principal leaseSeconds leaseId store grant order own claimed ofRun =>
    have later := lease_inv_later (server_lease_inv (network_server reachable)) order
    obtain ⟨issued, above⟩ := claim_new_epoch later claimed
    rw [ofRun] at issued above
    exact epoch_inv_claim inv grown issued above
  | record index grant found => exact epoch_inv_record inv found
  | append clock otherBytes eventType payload lease found => exact epoch_inv_append inv found
  | settleFlush index flight reply =>
    exact epoch_inv_settled inv grown (settle_flush_settled network.transport flight reply)
      (List.Sublist.refl _)
  | settleRenewal index clock lease reply =>
    exact epoch_inv_settled inv grown
      (settle_renewal_settled network.transport lease clock reply).1 (List.Sublist.refl _)
  | restart =>
    exact epoch_inv_settled inv grown (restart_settled network.transport) (nil_sublist _)
  | _ => exact epoch_inv_settled inv grown (settled_refl network.transport) (List.Sublist.refl _)

theorem network_epoch_inv (reachable : (networkMachine agent).Reachable Guard network) :
    EpochInv agent network := by
  obtain ⟨start, initial, path⟩ := reachable
  apply path_stable (EpochInv agent) ⟨start, initial, .refl start⟩ _ _ path
  · intro state action next reached inv _ step
    exact move_epoch_inv reached inv (network_step_move step)
  · constructor
    · simp [Transport.epochs, initial.lease, initial.written]
    · simp [initial.grants]
    · simp [initial.grants]
    · simp [initial.written]

end

/-- A row of the current epoch that left the WAL is covered by `ack_high_water`. -/
structure SequenceInv (transport : Transport Hash) : Prop where
  unique : (transport.written.map fun row => (row.leaseEpoch, row.event.sequence)).Nodup
  held : ∀ lease, transport.lease = some lease → ∀ row ∈ transport.written,
    row.leaseEpoch = lease.leaseEpoch →
    row ∈ transport.wal ∨ row.event.sequence ≤ lease.ackHighWater

/-- A settled reply does not write an acknowledgement below the stored one. -/
def Network.keepsAck (network : Network Hash) : Network.Action Hash → Bool
  | .settleFlush index =>
    match network.flushes.replies[index]? with
    | some (flight, .answered (.ok reply)) => network.transport.lease.all fun lease =>
      reply.ackHighWater < flight.lease.ackHighWater || lease.ackHighWater ≤ reply.ackHighWater
    | _ => true
  | .settleRenewal index _ =>
    match network.renewals.replies[index]? with
    | some (_, .answered (.ok renewal)) => network.transport.lease.all fun lease =>
      lease.ackHighWater ≤ renewal.ackHighWater
    | _ => true
  | _ => true

def AckKept (network : Network Hash) (action : Network.Action Hash) : Prop :=
  network.keepsAck action = true

section

variable {agent : LocalAgent Hash} {transport after : Transport Hash} {network : Network Hash}

def StatusOnly (transport after : Transport Hash) : Prop :=
  after.wal = transport.wal ∧ ∀ new, after.lease = some new →
    ∃ old, transport.lease = some old ∧ new.leaseEpoch = old.leaseEpoch ∧
      new.ackHighWater = old.ackHighWater

theorem status_only_refl (transport : Transport Hash) : StatusOnly transport transport :=
  ⟨rfl, fun new found => ⟨new, found, rfl, rfl⟩⟩

theorem status_only_fence (transport : Transport Hash) : StatusOnly transport transport.fence := by
  refine ⟨rfl, fun new found => ?_⟩
  obtain ⟨old, oldFound, rfl⟩ := map_eq_some_iff.mp found
  exact ⟨old, oldFound, rfl, rfl⟩

theorem settle_flush_cases (transport : Transport Hash) (flight : Flight Hash)
    (reply : Reply SubmitReply) :
    StatusOnly transport (transport.settleFlush flight reply) ∨
      ∃ receipt, reply = .answered (.ok receipt) ∧
        flight.lease.ackHighWater ≤ receipt.ackHighWater ∧
        transport.settleFlush flight reply = { transport with
          wal := transport.wal.filter fun row => !(row.leaseEpoch = flight.lease.leaseEpoch &&
            row.event.sequence ≤ receipt.ackHighWater)
          lease := transport.lease.map fun lease => { lease with
            ackHighWater := receipt.ackHighWater
            status := if receipt.terminalEventId = "" then .active else .completed } } := by
  unfold Transport.settleFlush
  split
  · next receipt =>
    split
    · exact Or.inl (status_only_fence transport)
    · next ahead => exact Or.inr ⟨receipt, rfl, Nat.le_of_not_lt ahead, rfl⟩
  · split
    · exact Or.inl (status_only_refl transport)
    · exact Or.inl (status_only_fence transport)
  · exact Or.inl (status_only_fence transport)
  · exact Or.inl (status_only_refl transport)

theorem settle_renewal_cases (transport : Transport Hash) (posted : LocalLease) (clock : Time)
    (reply : Reply LeaseRenewal) :
    StatusOnly transport (transport.settleRenewal posted clock reply).1 ∨
      ∃ renewal, reply = .answered (.ok renewal) ∧
        (transport.settleRenewal posted clock reply).1 = { transport with
          lease := transport.lease.map fun lease => { lease with
            expiresAt := renewal.expiresAt, ackHighWater := renewal.ackHighWater } } := by
  unfold Transport.settleRenewal
  split
  · next renewal => exact Or.inr ⟨renewal, rfl, rfl⟩
  · exact Or.inl (status_only_fence transport)
  · exact Or.inl (status_only_fence transport)
  · split
    · exact Or.inl (status_only_fence transport)
    · exact Or.inl (status_only_refl transport)

/-- An operation that appends nothing keeps the numbers apart when it covers every row
it drops and does not lower the mark. -/
theorem sequence_inv_settled (inv : SequenceInv transport) (settled : Settled transport after)
    (covers : ∀ old new, transport.lease = some old → after.lease = some new →
      old.ackHighWater ≤ new.ackHighWater ∧
      ∀ row ∈ transport.wal, row.leaseEpoch = new.leaseEpoch →
        row ∈ after.wal ∨ row.event.sequence ≤ new.ackHighWater) : SequenceInv after := by
  constructor
  · rw [settled.written]
    exact inv.unique
  · intro new found row mem epoch
    rw [settled.written] at mem
    have epochs := settled.epoch
    rw [found, map_some] at epochs
    obtain ⟨old, oldFound, same⟩ := map_eq_some_iff.mp epochs.symm
    obtain ⟨mark, dropped⟩ := covers old new oldFound found
    rcases inv.held old oldFound row mem (epoch.trans same.symm) with queued | acknowledged
    · exact dropped row queued epoch
    · exact Or.inr (acknowledged.trans mark)

theorem sequence_inv_status_only (inv : SequenceInv transport) (settled : Settled transport after)
    (same : StatusOnly transport after) : SequenceInv after := by
  apply sequence_inv_settled inv settled
  intro old new oldFound newFound
  obtain ⟨before, beforeFound, -, mark⟩ := same.2 new newFound
  cases oldFound.symm.trans beforeFound
  refine ⟨mark.ge, fun row queued _ => Or.inl ?_⟩
  rw [same.1]
  exact queued

theorem sequence_inv_append (inv : SequenceInv transport) {clock : Time} {otherBytes : Nat}
    {eventType : String} {payload : Json} {lease : LocalLease}
    (found : transport.lease = some lease) :
    SequenceInv ({ transport with otherBytes := otherBytes }.push
      (transport.newRow agent clock lease eventType payload)) := by
  have above : ∀ row ∈ transport.written, row.leaseEpoch = lease.leaseEpoch →
      row.event.sequence < transport.nextSequence lease := by
    intro row mem epoch
    rcases inv.held lease found row mem epoch with queued | acknowledged
    · exact next_sequence_above transport lease queued epoch
    · rw [Transport.nextSequence]
      omega
  constructor
  · change ((transport.written ++ [_]).map _).Nodup
    rw [map_append, map_singleton]
    apply inv.unique.append (nodup_singleton _)
    intro key mem last
    obtain ⟨row, rowMem, rfl⟩ := List.mem_map.mp mem
    obtain ⟨epoch, sequence⟩ := Prod.mk.inj (mem_singleton.mp last)
    have below := above row rowMem epoch
    rw [sequence] at below
    exact Nat.lt_irrefl _ below
  · intro held heldFound row mem epoch
    rcases mem_append.mp mem with old | new
    · exact (inv.held held heldFound row old epoch).imp_left (mem_append_left _)
    · exact Or.inl (mem_append_right _ new)

theorem sequence_inv_record (inv : SequenceInv transport) {grant : LeaseGrant}
    (fresh : grant.leaseEpoch ∉ transport.epochs) :
    SequenceInv ((transport.recordLease grant).toOption.getD transport) := by
  rcases recorded_transport transport grant with same | ⟨same, -⟩
  · rw [same]
    exact inv
  · rw [same]
    refine ⟨inv.unique, fun lease found row mem epoch => ?_⟩
    cases found
    apply fresh.elim
    apply mem_append_right
    have same : row.leaseEpoch = grant.leaseEpoch := epoch
    rw [← same]
    exact List.mem_map_of_mem mem

theorem sequence_inv_restart (inv : SequenceInv transport) : SequenceInv transport.restart := by
  apply sequence_inv_settled inv (restart_settled transport)
  intro old new oldFound newFound
  unfold Transport.restart at newFound ⊢
  rw [oldFound] at newFound ⊢
  simp only at newFound ⊢
  split at newFound
  · next positive =>
    cases oldFound.symm.trans newFound
    refine ⟨le_rfl, fun row queued epoch => Or.inl ?_⟩
    rw [if_pos positive]
    apply mem_filter.mpr
    simp [queued, epoch]
  · next zero =>
    cases oldFound.symm.trans newFound
    refine ⟨le_rfl, fun row queued _ => Or.inl ?_⟩
    rw [if_neg zero]
    exact queued

theorem sequence_inv_settle_flush (inv : SequenceInv network.transport) {index : Nat}
    {flight : Flight Hash} {reply : Reply SubmitReply}
    (found : network.flushes.replies[index]? = some (flight, reply))
    (kept : AckKept network (.settleFlush index)) :
    SequenceInv (network.transport.settleFlush flight reply) := by
  have settled := settle_flush_settled network.transport flight reply
  rcases settle_flush_cases network.transport flight reply with same | ⟨receipt, rfl, ahead, after⟩
  · exact sequence_inv_status_only inv settled same
  · apply sequence_inv_settled inv settled
    intro old new oldFound newFound
    rw [after, oldFound] at newFound
    cases newFound
    simp only [AckKept, Network.keepsAck, found, oldFound, all_some, Bool.or_eq_true,
      decide_eq_true_eq] at kept
    have mark : old.ackHighWater ≤ receipt.ackHighWater := by omega
    refine ⟨mark, fun row queued epoch => ?_⟩
    rw [after]
    by_cases acknowledged : row.event.sequence ≤ receipt.ackHighWater
    · exact Or.inr acknowledged
    · left
      apply mem_filter.mpr
      simp [queued, acknowledged]

theorem sequence_inv_settle_renewal (inv : SequenceInv network.transport) {index : Nat}
    {clock : Time} {lease : LocalLease} {reply : Reply LeaseRenewal}
    (found : network.renewals.replies[index]? = some (lease, reply))
    (kept : AckKept network (.settleRenewal index clock)) :
    SequenceInv (network.transport.settleRenewal lease clock reply).1 := by
  have settled := (settle_renewal_settled network.transport lease clock reply).1
  rcases settle_renewal_cases network.transport lease clock reply with
    same | ⟨renewal, rfl, after⟩
  · exact sequence_inv_status_only inv settled same
  · apply sequence_inv_settled inv settled
    intro old new oldFound newFound
    rw [after, oldFound] at newFound
    cases newFound
    simp only [AckKept, Network.keepsAck, found, oldFound, all_some, decide_eq_true_eq] at kept
    refine ⟨kept, fun row queued _ => Or.inl ?_⟩
    rw [after]
    exact queued

end

section

variable [DecidableEq Hash] {agent : LocalAgent Hash} {network next : Network Hash}
  {action : Network.Action Hash}

theorem move_sequence_inv (epochs : EpochInv agent network) (inv : SequenceInv network.transport)
    (kept : AckKept network action) (move : network.Move agent action next) :
    SequenceInv next.transport := by
  cases move with
  | record index grant found =>
    exact sequence_inv_record inv (epochs.granted grant (mem_of_getElem? found)).2
  | append clock otherBytes eventType payload lease found => exact sequence_inv_append inv found
  | settleFlush index flight reply found => exact sequence_inv_settle_flush inv found kept
  | settleRenewal index clock lease reply found =>
    exact sequence_inv_settle_renewal inv found kept
  | restart => exact sequence_inv_restart inv
  | _ => exact inv

theorem network_sequence_inv (reachable : (networkMachine agent).Reachable AckKept network) :
    SequenceInv network.transport := by
  obtain ⟨start, initial, path⟩ := reachable
  apply path_stable (fun network => SequenceInv network.transport) ⟨start, initial, .refl start⟩
    _ _ path
  · intro state action next reached inv kept step
    exact move_sequence_inv (network_epoch_inv reached) inv kept (network_step_move step)
  · constructor
    · simp [initial.written]
    · simp [initial.lease]

/-- No sequence number of an epoch is allocated twice. -/
theorem wal_sequences_unique (agent : LocalAgent Hash)
    (reachable : (networkMachine agent).Reachable AckKept network) :
    (network.transport.written.map fun row => (row.leaseEpoch, row.event.sequence)).Nodup :=
  (network_sequence_inv reachable).unique

end

def firstAppend : List (Network.Action Envelope) :=
  [.serve ⟨1, .createRun (plainDraft "run")⟩, .claim 2 laptop 60 "lease", .record 0,
    .append 3 0 "run.started" (.obj [])]

def staleRenewal : List (Network.Action Envelope) :=
  firstAppend ++ [.postRenewal, .serveRenewal 0 4 laptop, .openFlush, .postFlush 0,
    .serveFlush 0 5 laptop, .settleFlush 0, .settleRenewal 0 6,
    .append 7 0 "text.delta" (.obj [("text", .str "hello")])]

def promptRenewal : List (Network.Action Envelope) :=
  firstAppend ++ [.postRenewal, .serveRenewal 0 4 laptop, .settleRenewal 0 5, .openFlush,
    .postFlush 0, .serveFlush 0 6 laptop, .settleFlush 0,
    .append 7 0 "text.delta" (.obj [("text", .str "hello")])]

theorem stale_renewal_reuses_number : ∃ network,
    (networkMachine laptopAgent).Reachable Anything network ∧
      ¬(network.transport.written.map fun row => (row.leaseEpoch, row.event.sequence)).Nodup := by
  have ran : ((Network.runAll laptopAgent (fun _ _ => true) staleRenewal).map fun network =>
      network.transport.written.map fun row => (row.leaseEpoch, row.event.sequence)) =
      some [(1, 1), (1, 1)] := by decide +kernel
  rw [map_eq_some_iff] at ran
  obtain ⟨network, done, numbers⟩ := ran
  refine ⟨network, reachable_weaken (fun _ _ _ => trivial) (network_run_reachable _ done), ?_⟩
  rw [numbers]
  decide

theorem prompt_renewal_keeps_numbers_apart : ∃ network,
    Network.runAll laptopAgent Network.keepsAck promptRenewal = some network ∧
      (network.transport.written.map fun row => (row.leaseEpoch, row.event.sequence)).Nodup := by
  have possible : (Network.runAll laptopAgent Network.keepsAck promptRenewal).isSome = true := by
    decide +kernel
  obtain ⟨network, done⟩ := isSome_iff_exists.mp possible
  exact ⟨network, done, wal_sequences_unique laptopAgent (network_run_reachable _ done)⟩
end AgentMate
