import AgentMate.WalSequence

/-! # Replies that arrive after a re-lease or a fence -/

namespace AgentMate

open TransitionSystem Option

variable {Hash : Type}

/-- Replies to a batch that `flush_wal` does not act on. -/
def Flight.ignores (flight : Flight Hash) : Reply SubmitReply → Bool
  | .answered (.ok _) => false
  | .answered (.error (.sequenceGap expected)) =>
    flight.events.any fun event => event.sequence = expected
  | .answered (.error (.conflict _)) => false
  | _ => true

/-- Replies that `flush_wal` answers with an active lease row. -/
def Flight.reopens (flight : Flight Hash) : Reply SubmitReply → Bool
  | .answered (.ok receipt) =>
    flight.lease.ackHighWater ≤ receipt.ackHighWater && receipt.terminalEventId = ""
  | _ => false

/-- Replies to a renewal that `renew_lease` does not act on. -/
def LocalLease.ignores (posted : LocalLease) (clock : Time) : Reply LeaseRenewal → Bool
  | .answered (.ok _) => false
  | .unauthorized | .answered (.error (.conflict _)) => false
  | _ => clock + 5 < posted.expiresAt

section

variable {transport : Transport Hash} {flight : Flight Hash}

variable {reply : Reply SubmitReply} {posted lease : LocalLease}

theorem settle_flush_ignored (ignored : flight.ignores reply = true) :
    transport.settleFlush flight reply = transport := by
  unfold Flight.ignores at ignored
  split at ignored
  · cases ignored
  · rw [Transport.settleFlush, if_pos ignored]
  · cases ignored
  · next unanswered noGap noConflict =>
    unfold Transport.settleFlush
    split
    · next receipt => exact (unanswered receipt rfl).elim
    · next expected => exact (noGap expected rfl).elim
    · next message => exact (noConflict message rfl).elim
    · rfl

theorem settle_renewal_ignored {clock : Time} {reply : Reply LeaseRenewal}
    (ignored : posted.ignores clock reply = true) :
    (transport.settleRenewal posted clock reply).1 = transport := by
  unfold LocalLease.ignores at ignored
  split at ignored
  · cases ignored
  · cases ignored
  · cases ignored
  · next unanswered authorized noConflict =>
    have early : ¬posted.expiresAt ≤ clock + 5 := by simpa using ignored
    unfold Transport.settleRenewal
    split
    · next renewal => exact (unanswered renewal rfl).elim
    · exact (authorized rfl).elim
    · next message => exact (noConflict message rfl).elim
    · rw [if_neg early]

theorem settle_flush_fenced (held : transport.lease = some lease) (fenced : lease.status = .fenced)
    (closed : flight.reopens reply = false) :
    ∃ row, (transport.settleFlush flight reply).lease = some row ∧
      row.leaseEpoch = lease.leaseEpoch ∧ (row.status = .fenced ∨ row.status = .completed) := by
  have fence : ∃ row, transport.fence.lease = some row ∧ row.leaseEpoch = lease.leaseEpoch ∧
      (row.status = .fenced ∨ row.status = .completed) := by
    rw [Transport.fence, held]
    exact ⟨_, rfl, rfl, Or.inl rfl⟩
  unfold Transport.settleFlush
  split
  · next receipt =>
    split
    · exact fence
    · next ahead =>
      rw [held]
      refine ⟨_, rfl, rfl, Or.inr (if_neg fun open_ => ?_)⟩
      simp only [Flight.reopens, Bool.and_eq_false_iff, decide_eq_false_iff_not] at closed
      rcases closed with behind | terminal
      · exact behind (Nat.le_of_not_lt ahead)
      · exact terminal open_
  · split
    · exact ⟨lease, held, rfl, Or.inl fenced⟩
    · exact fence
  · exact fence
  · exact ⟨lease, held, rfl, Or.inl fenced⟩

theorem settle_renewal_fenced {clock : Time} {reply : Reply LeaseRenewal}
    (held : transport.lease = some lease) (fenced : lease.status = .fenced) :
    ∃ row, (transport.settleRenewal posted clock reply).1.lease = some row ∧
      row.leaseEpoch = lease.leaseEpoch ∧ row.status = .fenced := by
  have fence : ∃ row, transport.fence.lease = some row ∧ row.leaseEpoch = lease.leaseEpoch ∧
      row.status = .fenced := by
    rw [Transport.fence, held]
    exact ⟨_, rfl, rfl, rfl⟩
  unfold Transport.settleRenewal
  split
  · rw [held]
    exact ⟨_, rfl, rfl, fenced⟩
  · exact fence
  · exact fence
  · split
    · exact fence
    · exact ⟨lease, held, rfl, fenced⟩

theorem restart_lease (transport : Transport Hash) : transport.restart.lease = transport.lease := by
  unfold Transport.restart
  split
  · split <;> rfl
  · rfl

def Transport.FencedFrom (transport : Transport Hash) (epoch : Nat) : Prop :=
  ∃ row, transport.lease = some row ∧
    (epoch < row.leaseEpoch ∨ row.leaseEpoch = epoch ∧ row.status = .fenced)

def Transport.CompletedAt (transport : Transport Hash) (epoch : Nat) : Prop :=
  ∃ row, transport.lease = some row ∧ row.leaseEpoch = epoch ∧ row.status = .completed

theorem record_fenced_from {epoch : Nat} {grant : LeaseGrant}
    (fresh : grant.leaseEpoch ∉ transport.epochs) (fenced : transport.FencedFrom epoch) :
    ((transport.recordLease grant).toOption.getD transport).FencedFrom epoch := by
  rcases recorded_transport transport grant with same | ⟨same, order⟩
  · rw [same]
    exact fenced
  · rw [same]
    obtain ⟨row, held, later⟩ := fenced
    have bound := order row held
    have apart : row.leaseEpoch ≠ grant.leaseEpoch := by
      intro equal
      apply fresh
      rw [Transport.epochs, held]
      simp [equal]
    refine ⟨_, rfl, Or.inl ?_⟩
    change epoch < grant.leaseEpoch
    rcases later with newer | ⟨own, -⟩ <;> omega

theorem settled_fenced_from {epoch : Nat} {after : Transport Hash} {row : LocalLease}
    (settled : Settled transport after) (held : transport.lease = some row)
    (newer : epoch < row.leaseEpoch) : after.FencedFrom epoch := by
  have epochs := settled.epoch
  rw [held, map_some, map_eq_some_iff] at epochs
  obtain ⟨kept, found, same⟩ := epochs
  exact ⟨kept, found, Or.inl (by omega)⟩

end

/-- A reply of an older epoch than the lease row's is read only if it is ignored. -/
def OlderReplyIgnored (network : Network Hash) : Network.Action Hash → Prop
  | .settleFlush index => ∀ flight reply lease,
      network.flushes.replies[index]? = some (flight, reply) →
      network.transport.lease = some lease → flight.lease.leaseEpoch < lease.leaseEpoch →
      flight.ignores reply = true
  | .settleRenewal index clock => ∀ posted reply lease,
      network.renewals.replies[index]? = some (posted, reply) →
      network.transport.lease = some lease → posted.leaseEpoch < lease.leaseEpoch →
      posted.ignores clock reply = true
  | _ => True

def FenceRespected (network : Network Hash) : Network.Action Hash → Prop
  | .settleFlush index => ∀ flight reply lease,
      network.flushes.replies[index]? = some (flight, reply) →
      network.transport.lease = some lease → lease.status = .fenced →
      flight.reopens reply = false
  | _ => True

/-- No lease is recorded, and every reply that is read was obtained before the epoch. -/
def Network.ReadsOlder (network : Network Hash) (epoch : Nat) : Network.Action Hash → Prop
  | .settleFlush index => ∀ flight reply,
      network.flushes.replies[index]? = some (flight, reply) → flight.lease.leaseEpoch < epoch
  | .settleRenewal index _ => ∀ posted reply,
      network.renewals.replies[index]? = some (posted, reply) → posted.leaseEpoch < epoch
  | .record _ => False
  | _ => True

section

variable [DecidableEq Hash] {agent : LocalAgent Hash} {network next : Network Hash}
  {action : Network.Action Hash} {lease : LocalLease}

theorem move_older_lease (held : network.transport.lease = some lease)
    (ignored : OlderReplyIgnored network action)
    (older : network.ReadsOlder lease.leaseEpoch action) (move : network.Move agent action next) :
    next.transport.lease = some lease := by
  cases move with
  | record => exact older.elim
  | settleFlush index flight reply found =>
    have same : network.transport.settleFlush flight reply = network.transport :=
      settle_flush_ignored (ignored flight reply lease found held (older flight reply found))
    exact (congrArg Transport.lease same).trans held
  | settleRenewal index clock posted reply found =>
    have same : (network.transport.settleRenewal posted clock reply).1 = network.transport :=
      settle_renewal_ignored (ignored posted reply lease found held (older posted reply found))
    exact (congrArg Transport.lease same).trans held
  | restart => exact (restart_lease network.transport).trans held
  | _ => exact held

theorem move_fenced {epoch : Nat} (epochs : EpochInv agent network)
    (fenced : network.transport.FencedFrom epoch) (respected : FenceRespected network action)
    (move : network.Move agent action next) :
    next.transport.FencedFrom epoch ∨ next.transport.CompletedAt epoch := by
  cases move with
  | record index grant found =>
    exact Or.inl (record_fenced_from (epochs.granted grant (List.mem_of_getElem? found)).2 fenced)
  | settleFlush index flight reply found =>
    obtain ⟨row, held, newer | ⟨own, status⟩⟩ := fenced
    · exact Or.inl (settled_fenced_from
        (settle_flush_settled network.transport flight reply) held newer)
    · obtain ⟨kept, keptFound, same, closed | completed⟩ :=
        settle_flush_fenced held status (respected flight reply row found held status)
      · exact Or.inl ⟨kept, keptFound, Or.inr ⟨same.trans own, closed⟩⟩
      · exact Or.inr ⟨kept, keptFound, same.trans own, completed⟩
  | settleRenewal index clock posted reply found =>
    left
    obtain ⟨row, held, newer | ⟨own, status⟩⟩ := fenced
    · exact settled_fenced_from
        (settle_renewal_settled network.transport posted clock reply).1 held newer
    · have closed : ∃ kept, (network.transport.settleRenewal posted clock reply).1.lease =
          some kept ∧ kept.leaseEpoch = row.leaseEpoch ∧ kept.status = .fenced :=
        settle_renewal_fenced held status
      obtain ⟨kept, keptFound, same, closed⟩ := closed
      exact ⟨kept, keptFound, Or.inr ⟨same.trans own, closed⟩⟩
  | restart =>
    left
    obtain ⟨row, held, later⟩ := fenced
    exact ⟨row, (restart_lease network.transport).trans held, later⟩
  | _ => exact Or.inl fenced

/-- Replies of an older epoch leave the lease row as it is, and a fenced row stays
fenced until the Run is leased again or a terminal answer completes it. -/
theorem older_replies_fenced (agent : LocalAgent Hash)
    (reachable : (networkMachine agent).Reachable Anything network)
    (held : network.transport.lease = some lease) :
    (∀ later, (networkMachine agent).Path (fun state action =>
        OlderReplyIgnored state action ∧ state.ReadsOlder lease.leaseEpoch action) network later →
      later.transport.lease = some lease) ∧
    (lease.status = .fenced → ∀ later, (networkMachine agent).Path FenceRespected network later →
        later.transport.FencedFrom lease.leaseEpoch ∨
        ∃ middle, (networkMachine agent).Path FenceRespected network middle ∧
          (networkMachine agent).Path FenceRespected middle later ∧
          middle.transport.CompletedAt lease.leaseEpoch) := by
  constructor
  · intro later path
    refine path_invariant (fun state => state.transport.lease = some lease) ?_ held path
    intro state action next same guarded step
    exact move_older_lease same guarded.1 guarded.2 (network_step_move step)
  · intro fenced later path
    induction path with
    | refl => exact Or.inl ⟨lease, held, Or.inr ⟨rfl, fenced⟩⟩
    | @step middle finish action before respected step ih =>
      rcases ih with kept | ⟨completed, first, second, row⟩
      · have reached := reachable_path reachable (path_weaken (fun _ _ _ => trivial) before)
        have move := network_step_move step
        rcases move_fenced (network_epoch_inv reached) kept respected move with
          still | completed
        · exact Or.inl still
        · exact Or.inr ⟨finish, .step before respected step, .refl finish, completed⟩
      · exact Or.inr ⟨completed, first, .step second respected step, row⟩

end

def answeredBeforeTakeover : List (Network.Action Envelope) :=
  firstAppend ++ [.openFlush, .postFlush 0, .serveFlush 0 5 laptop, .claim 100 laptop 60 "second",
    .record 0]

def answeredBeforeFence : List (Network.Action Envelope) :=
  firstAppend ++ [.openFlush, .postFlush 0, .serveFlush 0 5 laptop, .postRenewal,
    .loseRenewal 0 true, .settleRenewal 0 6]

/-- The epoch of the first answered batch, with the lease row before and after its
answer is read. -/
def rowsAroundAnswer (actions : List (Network.Action Envelope)) :
    Option (Nat × Option LocalLease × Option LocalLease) := do
  let network ← Network.runAll laptopAgent (fun _ _ => true) actions
  let answered ← network.flushes.replies[0]?
  let next ← network.step laptopAgent (.settleFlush 0)
  return (answered.1.lease.leaseEpoch, network.transport.lease, next.transport.lease)

/-- An answer obtained under `epoch` changes the lease row from `before` to `after`. -/
def AnswerRewrites (epoch : Nat) (before after : LocalLease) : Prop :=
  ∃ network next flight reply, (networkMachine laptopAgent).Reachable Anything network ∧
    network.flushes.replies[0]? = some (flight, reply) ∧ flight.lease.leaseEpoch = epoch ∧
    (networkMachine laptopAgent).Step network (.settleFlush 0) next ∧
    network.transport.lease = some before ∧ next.transport.lease = some after

theorem rows_around_answer (actions : List (Network.Action Envelope)) {epoch : Nat}
    {before after : LocalLease}
    (ran : rowsAroundAnswer actions = some (epoch, some before, some after)) :
    AnswerRewrites epoch before after := by
  simp only [rowsAroundAnswer, bind_eq_bind, bind_eq_some_iff, pure_def,
    Option.some.injEq, Prod.mk.injEq] at ran
  obtain ⟨network, done, ⟨flight, reply⟩, found, next, step, own, rows⟩ := ran
  exact ⟨network, next, flight, reply,
    reachable_weaken (fun _ _ _ => trivial) (network_run_reachable _ done), found, own, step, rows⟩

theorem late_answers_rewrite_row :
    AnswerRewrites 1 ⟨"second", 2, 160, 0, .active⟩ ⟨"second", 2, 160, 1, .active⟩ ∧
      AnswerRewrites 1 ⟨"lease", 1, 62, 0, .fenced⟩ ⟨"lease", 1, 62, 1, .active⟩ := by
  constructor
  · exact rows_around_answer answeredBeforeTakeover (by decide +kernel)
  · exact rows_around_answer answeredBeforeFence (by decide +kernel)

def fencedRun : List (Network.Action Envelope) :=
  firstAppend ++ [.postRenewal, .loseRenewal 0 true, .settleRenewal 0 5]

theorem refused_renewal_stays_fenced : ∃ network lease,
    Network.runAll laptopAgent (fun _ _ => true) fencedRun = some network ∧
      network.transport.lease = some lease ∧ lease.status = .fenced ∧
      ∀ later, (networkMachine laptopAgent).Path FenceRespected network later →
        later.transport.FencedFrom lease.leaseEpoch ∨
        ∃ middle, (networkMachine laptopAgent).Path FenceRespected network middle ∧
          (networkMachine laptopAgent).Path FenceRespected middle later ∧
          middle.transport.CompletedAt lease.leaseEpoch := by
  have ran : ((Network.runAll laptopAgent (fun _ _ => true) fencedRun).map fun network =>
      network.transport.lease) = some (some ⟨"lease", 1, 62, 0, .fenced⟩) := by decide +kernel
  rw [map_eq_some_iff] at ran
  obtain ⟨network, done, held⟩ := ran
  have reachable := reachable_weaken (fun _ _ _ => trivial) (network_run_reachable _ done)
  exact ⟨network, _, done, held, rfl, (older_replies_fenced laptopAgent reachable held).2 rfl⟩

end AgentMate
