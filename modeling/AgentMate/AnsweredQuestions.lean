import AgentMate.AnswerChannel
import AgentMate.Deployment

/-! # Answers meet their questions -/

namespace AgentMate

open TransitionSystem List

variable {Hash : Type}

structure HoldsAnswer (agent : LocalAgent Hash) (store : Store Hash) (epoch : Nat)
    (command : Command) : Prop where
  question : ∃ row ∈ store.events, row.asks agent.runId = true ∧
    row.deviceId = agent.deviceId ∧ row.leaseEpoch = epoch ∧
    row.eventId = command.questionId agent.host.toPyText
  answer : ∃ held ∈ store.commands, held.runId = agent.runId ∧
    held.commandType = .askUserAnswer ∧ held.id = command.id ∧
    held.questionId agent.host.toPyText = command.questionId agent.host.toPyText

structure SameCommand (held later : Command) : Prop where
  id : later.id = held.id
  runId : later.runId = held.runId
  commandType : later.commandType = held.commandType
  payload : later.payload = held.payload

section

variable [DecidableEq Hash] {host : Host Hash}

theorem applied_all_commands {lease : Lease} {now : Time} {batch final : Batch Hash}
    {events : List (RunEvent Hash)} (applied : AppliedAll host lease now batch events final) :
    ∀ held ∈ batch.store.commands, ∃ later ∈ final.store.commands, SameCommand held later := by
  induction applied with
  | nil => exact fun held mem => ⟨held, mem, rfl, rfl, rfl, rfl⟩
  | @cons batch middle final event rest inv checked first later ih =>
    intro held mem
    obtain ⟨output, business, -, after⟩ := first.store
    have updated : ∃ between ∈ middle.store.commands, SameCommand held between := by
      rw [after, after_event_commands]
      refine ⟨_, (Table.mem_update_where).mpr ⟨held, mem, rfl⟩, ?_⟩
      split <;> exact ⟨rfl, rfl, rfl, rfl⟩
    obtain ⟨between, listed, same⟩ := updated
    obtain ⟨last, lastListed, still⟩ := ih between listed
    exact ⟨last, lastListed, still.id.trans same.id, still.runId.trans same.runId,
      still.commandType.trans same.commandType, still.payload.trans same.payload⟩

variable {server next : Server Hash} {action : Server.Action Hash}

theorem server_step_commands (leaseInv : LeaseInv server.now server.store)
    (logInv : LogInv host server.store) (step : (serverMachine host).Step server action next) :
    ∀ held ∈ server.store.commands, ∃ later ∈ next.store.commands, SameCommand held later := by
  intro held mem
  rcases server_step_cases leaseInv logInv step with
    effects | ⟨lease, events, final, -, -, applied, -, same⟩
  · obtain ⟨added, commands, -⟩ := effects_commands effects
    rw [commands]
    exact ⟨held, mem_append_left _ mem, rfl, rfl, rfl, rfl⟩
  · rw [same]
    exact applied_all_commands applied held mem

variable {agent : LocalAgent Hash} {epoch : Nat} {command : Command}

theorem holds_answer_step (leaseInv : LeaseInv server.now server.store)
    (logInv : LogInv agent.host server.store)
    (step : (serverMachine agent.host).Step server action next)
    (holds : HoldsAnswer agent server.store epoch command) :
    HoldsAnswer agent next.store epoch command := by
  obtain ⟨⟨row, stored, question⟩, held, listed, run, type, id, named⟩ := holds
  obtain ⟨later, laterListed, same⟩ := server_step_commands leaseInv logInv step held listed
  constructor
  · exact ⟨row, (server_step_events leaseInv logInv step).subset stored, question⟩
  · refine ⟨later, laterListed, same.runId.trans run, same.commandType.trans type,
      same.id.trans id, ?_⟩
    rw [Command.questionId, same.payload]
    exact named

end

section

variable {agent : LocalAgent Hash} {epoch : Nat}

theorem renewal_holds_answers {now : Time} {store renewed : Store Hash}
    {principal : DevicePrincipal} {leaseId : String} {leaseSeconds : Int} {renewal : LeaseRenewal}
    (leaseInv : LeaseInv now store) (logInv : LogInv agent.host store)
    (answers : AnswerInv agent.host.toPyText store) (own : principal.deviceId = agent.deviceId)
    (done : renewLease store principal agent.runId leaseId epoch leaseSeconds now =
      .ok (renewed, renewal)) :
    ∀ command ∈ renewal.commands, command.commandType = .askUserAnswer →
      HoldsAnswer agent renewed epoch command := by
  intro command delivered answer
  obtain ⟨lease, current, done⟩ := Rollback.bind_ok done
  obtain ⟨mem, -, leaseRun, device, -, leaseEpoch, run, found, runEpoch⟩ :=
    current_lease_ok current
  split at done
  · obtain ⟨rfl, rfl⟩ := Prod.mk.inj (Except.ok.inj done)
    have pending : command ∈ pendingCommands store agent.runId := delivered
    obtain ⟨row, stored, asks, named, rowEpoch⟩ :=
      pending_answers_current answers found pending answer
    obtain ⟨listed, sameRun, -⟩ := mem_pending_commands.mp pending
    have rowRun : row.runId = agent.runId := by
      simp only [EventRow.asks, Bool.and_eq_true, decide_eq_true_eq] at asks
      exact asks.1
    obtain ⟨holder, holderMem, -, holderRun, holderEpoch, holderDevice⟩ :=
      logInv.written row stored
    have same : holder = lease := by
      apply lease_epoch_unique leaseInv holderMem mem
      · rw [holderRun, rowRun, leaseRun]
      · rw [holderEpoch, rowEpoch, runEpoch, leaseEpoch]
    constructor
    · refine ⟨row, stored, asks, ?_, rowEpoch.trans runEpoch, named⟩
      rw [← holderDevice, same, device, own]
    · exact ⟨command, listed, sameRun, answer, rfl, rfl⟩
  · cases done

theorem holds_answer_single {store : Store Hash} (answers : AnswerInv agent.host.toPyText store)
    {earlier later : Command} {first second : Nat} (held : HoldsAnswer agent store first earlier)
    (laterHeld : HoldsAnswer agent store second later)
    (same : earlier.questionId agent.host.toPyText = later.questionId agent.host.toPyText) :
    earlier.id = later.id := by
  obtain ⟨one, oneListed, oneRun, oneAnswer, oneId, oneNamed⟩ := held.answer
  obtain ⟨two, twoListed, twoRun, twoAnswer, twoId, twoNamed⟩ := laterHeld.answer
  have apart : one = two := by
    by_contra different
    have symmetric : Std.Symm fun earlier later : Command =>
        earlier.commandType = .askUserAnswer → later.commandType = .askUserAnswer →
          earlier.runId = later.runId →
          earlier.questionId agent.host.toPyText ≠ later.questionId agent.host.toPyText :=
      ⟨fun _ _ apart one two run question => apart two one run.symm question.symm⟩
    apply answers.unique.forall oneListed twoListed different oneAnswer twoAnswer
    · rw [oneRun, twoRun]
    · rw [oneNamed, twoNamed, same]
  rw [← oneId, ← twoId, apart]

end

/-- No call answers a superseded or an answered question, no Run is leased with an answer
pending, and a lease is recorded once the earlier executions have ended. -/
def Deployment.answersSettled (agent : LocalAgent Hash) (deployment : Deployment Hash) :
    Deployment.Action Hash → Bool
  | .exchange (.serve request) =>
    deployment.network.server.answersSettled agent.host.toPyText request
  | .exchange (.claim now principal leaseSeconds leaseId) =>
    deployment.network.server.answersSettled agent.host.toPyText
      ⟨now, .leaseRun principal leaseSeconds leaseId⟩
  | .record _ => deployment.executions.all Execution.halted
  | _ => true

def AnswersSettled (agent : LocalAgent Hash) (deployment : Deployment Hash)
    (action : Deployment.Action Hash) : Prop :=
  deployment.answersSettled agent action = true

structure QuestionInv (agent : LocalAgent Hash) (deployment : Deployment Hash) : Prop where
  answers : AnswerInv agent.host.toPyText deployment.network.server.store
  running : ∀ index execution, deployment.executions[index]? = some execution →
    execution.halted = false → index + 1 = deployment.executions.length ∧
      ChannelInv agent.host.toPyText
        (HoldsAnswer agent deployment.network.server.store execution.leaseEpoch)
        ⟨deployment.network.transport, execution⟩
  handed : ∀ execution ∈ deployment.executions, ∀ question command,
    (question, command) ∈ execution.handed → command.questionId agent.host.toPyText = question ∧
        HoldsAnswer agent deployment.network.server.store execution.leaseEpoch command
  once : ∀ execution ∈ deployment.executions, (execution.handed.map Prod.fst).Nodup
  ordered : (deployment.executions.map Execution.leaseEpoch).Pairwise (· < ·)
  bound : ∀ execution ∈ deployment.executions, ∃ epoch,
    deployment.network.transport.lease.map LocalLease.leaseEpoch = some epoch ∧
      execution.leaseEpoch ≤ epoch
  replies : ∀ lease renewal,
    (lease, Reply.answered (.ok renewal)) ∈ deployment.network.renewals.replies →
    ∀ command ∈ renewal.commands, command.commandType = .askUserAnswer →
      HoldsAnswer agent deployment.network.server.store lease.leaseEpoch command

section

variable {agent : LocalAgent Hash} {network next : Network Hash} {executions : List Execution}

theorem channel_inv_known {text : PyText} {Known More : Command → Prop} {work : Workspace Hash}
    (inv : ChannelInv text Known work) (grown : ∀ command, Known command → More command) :
    ChannelInv text More work := by
  refine { inv with matched := ?_, taken := ?_ }
  · intro question command mem
    obtain ⟨named, known, settled⟩ := inv.matched question command mem
    exact ⟨named, grown command known, settled⟩
  · intro commands handling command mem answer
    exact grown command (inv.taken commands handling command mem answer)

theorem question_inv_network (inv : QuestionInv agent ⟨network, executions⟩)
    (answers : AnswerInv agent.host.toPyText next.server.store)
    (grown : ∀ epoch command, HoldsAnswer agent network.server.store epoch command →
      HoldsAnswer agent next.server.store epoch command)
    (settled : Settled network.transport next.transport)
    (replies : ∀ lease renewal, (lease, Reply.answered (.ok renewal)) ∈ next.renewals.replies →
      ∀ command ∈ renewal.commands, command.commandType = .askUserAnswer →
        HoldsAnswer agent next.server.store lease.leaseEpoch command) :
    QuestionInv agent ⟨next, executions⟩ := by
  constructor
  · exact answers
  · intro index execution found going
    obtain ⟨last, channel⟩ := inv.running index execution found going
    refine ⟨last, settled_channel_inv (channel_inv_known channel ?_) settled⟩
    exact fun command => grown execution.leaseEpoch command
  · intro execution mem question command pair
    obtain ⟨named, holds⟩ := inv.handed execution mem question command pair
    exact ⟨named, grown _ command holds⟩
  · exact inv.once
  · exact inv.ordered
  · intro execution mem
    obtain ⟨epoch, found, bound⟩ := inv.bound execution mem
    exact ⟨epoch, settled.epoch.trans found, bound⟩
  · exact replies

theorem question_inv_execution (inv : QuestionInv agent ⟨network, executions⟩) {index : Nat}
    {before after : Execution} (found : executions[index]? = some before)
    (server : next.server = network.server)
    (replies : ∀ reply ∈ next.renewals.replies, reply ∈ network.renewals.replies)
    (epochs : next.transport.lease.map LocalLease.leaseEpoch =
      network.transport.lease.map LocalLease.leaseEpoch)
    (epoch : after.leaseEpoch = before.leaseEpoch)
    (own : before.halted = false → ChannelInv agent.host.toPyText
      (HoldsAnswer agent network.server.store before.leaseEpoch) ⟨next.transport, after⟩)
    (ended_early : before.halted = true → after.halted = true ∧ after.handed = before.handed ∧
      Settled network.transport next.transport) :
    QuestionInv agent ⟨next, executions.set index after⟩ := by
  have listed := mem_of_getElem? found
  have pairs : (∀ question command, (question, command) ∈ after.handed →
      command.questionId agent.host.toPyText = question ∧
        HoldsAnswer agent network.server.store before.leaseEpoch command) ∧
      (after.handed.map Prod.fst).Nodup := by
    cases halted : before.halted with
    | false =>
      have channel := own halted
      refine ⟨?_, channel.once⟩
      intro question command mem
      obtain ⟨named, known, -⟩ := channel.matched question command mem
      exact ⟨named, known⟩
    | true =>
      rw [(ended_early halted).2.1]
      exact ⟨inv.handed before listed, inv.once before listed⟩
  have kept : (executions.set index after).map Execution.leaseEpoch =
      executions.map Execution.leaseEpoch := by
    apply ext_getElem?
    intro position
    rw [map_set, getElem?_set]
    split
    · next same =>
      subst same
      rw [getElem?_map, found, Option.map_some, epoch]
      simp [(List.getElem?_eq_some_iff.mp found).1]
    · rfl
  constructor
  · rw [server]
    exact inv.answers
  · intro position execution taken going
    rw [length_set]
    rw [getElem?_set] at taken
    split at taken
    · next same =>
      subst same
      rw [if_pos (List.getElem?_eq_some_iff.mp found).1] at taken
      cases taken
      have alive : before.halted = false := by
        by_contra halted
        rw [Bool.not_eq_false] at halted
        rw [(ended_early halted).1] at going
        cases going
      rw [server, epoch]
      exact ⟨(inv.running index before found alive).1, own alive⟩
    · next different =>
      obtain ⟨last, channel⟩ := inv.running position execution taken going
      have ended : before.halted = true := by
        by_contra alive
        rw [Bool.not_eq_true] at alive
        have own := (inv.running index before found alive).1
        omega
      rw [server]
      exact ⟨last, settled_channel_inv channel (ended_early ended).2.2⟩
  · intro execution mem
    rw [server]
    rcases mem_or_eq_of_mem_set mem with old | rfl
    · exact inv.handed execution old
    · rw [epoch]
      exact pairs.1
  · intro execution mem
    rcases mem_or_eq_of_mem_set mem with old | rfl
    · exact inv.once execution old
    · exact pairs.2
  · rw [kept]
    exact inv.ordered
  · intro execution mem
    rw [epochs]
    rcases mem_or_eq_of_mem_set mem with old | rfl
    · exact inv.bound execution old
    · rw [epoch]
      exact inv.bound before listed
  · intro lease renewal mem
    rw [server]
    exact inv.replies lease renewal (replies _ mem)

theorem running_answers_known (answers : AnswerInv agent.host.toPyText network.server.store)
    (delivered : DeliveryInv agent network) (execution : Execution) :
    AnswersKnown agent.host.toPyText (HoldsAnswer agent network.server.store execution.leaseEpoch)
      ⟨network.transport, execution⟩ := by
  constructor
  · intro command known
    obtain ⟨stored, listed, asks, device, epoch, named⟩ := known.question
    simp only [EventRow.asks, Bool.and_eq_true, decide_eq_true_eq] at asks
    obtain ⟨row, written, -, rowEpoch, content⟩ :=
      delivered.stored stored listed asks.1 device
    refine ⟨row, written, rowEpoch.symm.trans epoch, ?_, ?_⟩
    · rw [← content]
      exact asks.2
    · rw [← content]
      exact named
  · intro earlier later known laterKnown same
    exact holds_answer_single answers known laterKnown same

theorem claimed_channel_inv {text : PyText} {Known : Command → Prop} {transport : Transport Hash}
    {epoch : Nat} (held : transport.lease.map LocalLease.leaseEpoch = some epoch)
    (unused : ∀ row ∈ transport.written, row.leaseEpoch ≠ epoch) :
    ChannelInv text Known ⟨transport, Execution.claimed epoch⟩ := by
  constructor
  · exact held
  · intro frame mem
    cases mem
  · exact fun _ => ⟨rfl, rfl⟩
  · intro row mem same
    exact absurd same (unused row mem)
  · intro channel opened
    cases opened
  · intro unwinding
    cases unwinding
  · intro question command mem
    cases mem
  · exact nodup_nil
  · intro commands handling
    cases handling
  · intro lease posting
    cases posting

end

section

variable {agent : LocalAgent Hash} {deployment : Deployment Hash}

theorem settle_question_inv {index reply : Nat} {clock : Time} {execution : Execution}
    {lease : LocalLease} {answer : Reply LeaseRenewal} (inv : QuestionInv agent deployment)
    (found : deployment.executions[index]? = some execution)
    (replied : deployment.network.renewals.replies[reply]? = some (lease, answer))
    (posted : execution.control = .posted lease) :
    QuestionInv agent (deployment.afterReply index reply (Workspace.settleRenewal clock
      ⟨deployment.network.transport, execution⟩ lease answer)) := by
  have table := @settle_renewal_transport _ clock ⟨deployment.network.transport, execution⟩ lease
    answer
  have settled := (settle_renewal_settled deployment.network.transport lease clock answer).1
  have listed := mem_of_getElem? replied
  have epoch : (Workspace.settleRenewal clock ⟨deployment.network.transport, execution⟩ lease
      answer).execution.leaseEpoch = execution.leaseEpoch := by
    unfold Workspace.settleRenewal
    dsimp only
    split
    · rfl
    · split <;> rfl
  apply question_inv_execution inv found
  · rfl
  · exact fun other mem => mem_of_mem_eraseIdx mem
  · change (Workspace.settleRenewal clock ⟨deployment.network.transport, execution⟩ lease
      answer).transport.lease.map LocalLease.leaseEpoch = _
    rw [table]
    exact settled.epoch
  · exact epoch
  · intro alive
    obtain ⟨-, channel⟩ := inv.running index execution found alive
    apply settle_renewal_channel_inv channel posted
    intro renewal same command delivered answered
    rw [same] at listed
    have known := inv.replies lease renewal listed command delivered answered
    rwa [channel.posted lease posted] at known
  · intro halted
    have halted_work : (Workspace.mk deployment.network.transport execution).execution.halted =
        true := halted
    rw [halted_settle halted_work lease answer posted]
    refine ⟨?_, rfl, ?_⟩
    · obtain ⟨ended, -⟩ := halted_iff.mp halted
      exact halted_iff.mpr ⟨ended, Or.inr (Or.inl rfl)⟩
    · change Settled _ (Workspace.settleRenewal clock ⟨deployment.network.transport, execution⟩
        lease answer).transport
      rw [table]
      exact settled

theorem slot_question_inv (inv : QuestionInv agent deployment) {index : Nat}
    {execution : Execution} (found : deployment.executions[index]? = some execution)
    (held : Bool) : QuestionInv agent { deployment with
      executions := deployment.executions.set index { execution with slotHeld := held } } := by
  apply question_inv_execution inv found
  · rfl
  · exact fun reply mem => mem
  · rfl
  · rfl
  · intro alive
    apply moved_channel_inv (inv.running index execution found alive).2
    exact ⟨rfl, rfl, rfl, rfl, rfl, List.Subset.refl _, id, fun _ mem => Or.inl mem, Or.inl rfl⟩
  · exact fun halted => ⟨halted, rfl, settled_refl _⟩

end

section

variable [DecidableEq Hash] {agent : LocalAgent Hash} {deployment after : Deployment Hash}

variable {next network : Network Hash} {action : Network.Action Hash}
  {Guard : Deployment Hash → Deployment.Action Hash → Prop}

theorem exchange_settled {executions : List Execution}
    (settled : AnswersSettled agent ⟨network, executions⟩ (.exchange action))
    (move : network.Move agent action next) :
    next.server = network.server ∨
      ∃ request, (serverMachine agent.host).Step network.server request next.server ∧
        network.server.answersSettled agent.host.toPyText request = true := by
  cases move with
  | serve request order => exact Or.inr ⟨request, ⟨order, rfl⟩, settled⟩
  | claim now principal leaseSeconds leaseId store grant order own claimed =>
    refine Or.inr ⟨⟨now, .leaseRun principal leaseSeconds leaseId⟩, ⟨order, ?_⟩, settled⟩
    simp only [Server.serve, perform, claimed]
    rfl
  | serveFlush index now principal item found order =>
    refine Or.inr ⟨⟨now, .submitEvents principal agent.runId item.request.lease.leaseId
      item.request.lease.leaseEpoch item.request.events⟩, ⟨order, ?_⟩, rfl⟩
    exact exchange_submit network.server now principal _ _ _ _
  | serveRenewal index now principal item found order =>
    refine Or.inr ⟨⟨now, .renewLease principal agent.runId item.request.leaseId
      item.request.leaseEpoch 30⟩, ⟨order, ?_⟩, rfl⟩
    exact exchange_renew network.server now principal _ _ _ _
  | _ => exact Or.inl rfl

theorem exchange_tables (own : action.isExchange = true) (move : network.Move agent action next) :
    Settled network.transport next.transport := by
  cases move with
  | settleFlush index flight reply => exact settle_flush_settled network.transport flight reply
  | record => cases own
  | append => cases own
  | postRenewal => cases own
  | settleRenewal => cases own
  | restart => cases own
  | _ => exact settled_refl network.transport

theorem exchange_replies (reachable : (deploymentMachine agent).Reachable Guard deployment)
    (inv : QuestionInv agent deployment) (own : action.isExchange = true)
    (grown : ∀ epoch command, HoldsAnswer agent deployment.network.server.store epoch command →
      HoldsAnswer agent next.server.store epoch command)
    (move : deployment.network.Move agent action next) :
    ∀ lease renewal, (lease, Reply.answered (.ok renewal)) ∈ next.renewals.replies →
      ∀ command ∈ renewal.commands, command.commandType = .askUserAnswer →
        HoldsAnswer agent next.server.store lease.leaseEpoch command := by
  intro lease renewal mem command delivered answer
  have before : (lease, Reply.answered (.ok renewal)) ∈ deployment.network.renewals.replies →
      HoldsAnswer agent next.server.store lease.leaseEpoch command := fun old =>
    grown _ command (inv.replies lease renewal old command delivered answer)
  cases move with
  | record => cases own
  | append => cases own
  | postRenewal => cases own
  | settleRenewal => cases own
  | restart => cases own
  | serveRenewal index now principal item found order device =>
    rcases Mailbox.mem_replies_serve mem with old | ⟨served, servedFound, same⟩
    · exact before old
    · cases found.symm.trans servedFound
      obtain ⟨rfl, answered⟩ := Prod.mk.inj same
      have server := deployment_server reachable
      have leaseInv := lease_inv_later (server_lease_inv server) order
      unfold Network.renewalReply Server.exchange at answered ⊢
      dsimp only
      split at answered
      · next store value done =>
        cases answered
        exact renewal_holds_answers leaseInv (server_log_inv server) inv.answers device done
          command delivered answer
      · cases answered
  | loseRenewal index unauthorized =>
    rcases Mailbox.mem_replies_give_up mem with old | ⟨item, found, same⟩
    · exact before old
    · cases unauthorized <;> cases same
  | _ => exact before mem

theorem exchange_question_inv (reachable : (deploymentMachine agent).Reachable Guard deployment)
    (inv : QuestionInv agent deployment) (own : action.isExchange = true)
    (settled : AnswersSettled agent deployment (.exchange action))
    (move : deployment.network.Move agent action next) :
    QuestionInv agent { deployment with network := next } := by
  have server := deployment_server reachable
  have leaseInv := server_lease_inv server
  have logInv := server_log_inv server
  have stepped : AnswerInv agent.host.toPyText next.server.store ∧
      ∀ epoch command, HoldsAnswer agent deployment.network.server.store epoch command →
        HoldsAnswer agent next.server.store epoch command := by
    rcases exchange_settled settled move with same | ⟨request, step, request_settled⟩
    · rw [same]
      exact ⟨inv.answers, fun _ _ => id⟩
    · constructor
      · exact server_step_answer_inv leaseInv logInv inv.answers request_settled step
      · exact fun epoch command => holds_answer_step leaseInv logInv step
  apply question_inv_network inv stepped.1 stepped.2 (exchange_tables own move)
  exact exchange_replies reachable inv own stepped.2 move

theorem record_question_inv {index : Nat} {grant : LeaseGrant}
    (reachable : (deploymentMachine agent).Reachable Guard deployment)
    (inv : QuestionInv agent deployment) (settled : AnswersSettled agent deployment (.record index))
    (found : deployment.network.grants[index]? = some grant)
    (step : (networkMachine agent).Step deployment.network (.record index) next) :
    QuestionInv agent ⟨next, deployment.started grant⟩ := by
  have same : next = { deployment.network with
      transport := (deployment.network.transport.recordLease grant).toOption.getD
        deployment.network.transport
      grants := deployment.network.grants.eraseIdx index } := by
    have computed : deployment.network.step agent (.record index) = some next := step
    simp only [Network.step, found] at computed
    exact (Option.some.inj computed).symm
  subst same
  have halted : ∀ execution ∈ deployment.executions, execution.halted = true :=
    all_eq_true.mp settled
  unfold Deployment.started
  cases done : deployment.network.transport.recordLease grant with
  | error error =>
    have unchanged := question_inv_network inv inv.answers (fun _ _ => id)
      (settled_refl deployment.network.transport) inv.replies
    exact ⟨unchanged.answers, unchanged.running, unchanged.handed, unchanged.once,
      unchanged.ordered, unchanged.bound, unchanged.replies⟩
  | ok recorded =>
    obtain ⟨order, written, epoch⟩ := record_lease_ok done
    obtain ⟨-, unrecorded⟩ :=
      (deployment_epoch_inv reachable).granted grant (mem_of_getElem? found)
    have older : ∀ execution ∈ deployment.executions, execution.leaseEpoch < grant.leaseEpoch := by
      intro execution mem
      obtain ⟨last, held, bound⟩ := inv.bound execution mem
      obtain ⟨lease, leaseFound, rfl⟩ := Option.map_eq_some_iff.mp held
      apply Nat.lt_of_le_of_ne (bound.trans (order lease leaseFound))
      intro equal
      have current : lease.leaseEpoch = grant.leaseEpoch := by
        have limit := order lease leaseFound
        omega
      apply unrecorded
      rw [Transport.epochs, leaseFound, ← current]
      exact mem_cons_self
    constructor
    · exact inv.answers
    · intro position execution taken going
      by_cases last : position = deployment.executions.length
      · subst last
        rw [getElem?_concat_length] at taken
        cases taken
        constructor
        · simp
        · apply claimed_channel_inv epoch
          intro row mem equal
          have listed : row ∈ recorded.written := mem
          rw [written] at listed
          apply unrecorded
          rw [← equal]
          exact mem_append_right _ (mem_map_of_mem listed)
      · have earlier : position < deployment.executions.length := by
          have bound := (List.getElem?_eq_some_iff.mp taken).1
          simp only [length_append, length_singleton] at bound
          omega
        rw [getElem?_append_left earlier] at taken
        rw [halted execution (mem_of_getElem? taken)] at going
        cases going
    · intro execution mem
      rcases mem_append.mp mem with old | new
      · exact inv.handed execution old
      · rw [mem_singleton.mp new]
        intro question command pair
        cases pair
    · intro execution mem
      rcases mem_append.mp mem with old | new
      · exact inv.once execution old
      · rw [mem_singleton.mp new]
        exact nodup_nil
    · rw [map_append, map_singleton, pairwise_append]
      refine ⟨inv.ordered, pairwise_singleton _ _, ?_⟩
      intro earlier mem later last
      obtain ⟨execution, listed, rfl⟩ := mem_map.mp mem
      rw [mem_singleton.mp last]
      exact older execution listed
    · intro execution mem
      refine ⟨grant.leaseEpoch, epoch, ?_⟩
      rcases mem_append.mp mem with old | new
      · exact (older execution old).le
      · rw [mem_singleton.mp new]
        exact le_rfl
    · exact inv.replies

theorem task_question_inv {index : Nat}
    {clock : Time} {task : Task} {execution : Execution} {work : Workspace Hash}
    (reachable : (deploymentMachine agent).Reachable Guard deployment)
    (inv : QuestionInv agent deployment)
    (found : deployment.executions[index]? = some execution) (other : task.isSettle = false)
    (ran : Workspace.run agent clock ⟨deployment.network.transport, execution⟩ task =
      some work) : QuestionInv agent (deployment.after index task work) := by
  have move := run_move ran
  obtain ⟨added, appends⟩ := task_appends other move
  obtain ⟨lease, -⟩ := appends_rows appends
  have running : execution.halted = false → ChannelInv agent.host.toPyText
      (HoldsAnswer agent deployment.network.server.store execution.leaseEpoch)
      ⟨deployment.network.transport, execution⟩ :=
    fun alive => (inv.running index execution found alive).2
  have stepped : execution.halted = false → ChannelInv agent.host.toPyText
      (HoldsAnswer agent deployment.network.server.store execution.leaseEpoch) work := by
    intro alive
    exact task_channel_inv (running alive)
      (running_answers_known inv.answers (deployment_delivery_inv reachable) execution) other move
  have ended_early := fun halted :
      (Workspace.mk deployment.network.transport execution).execution.halted = true =>
    halted_run halted other ran
  apply question_inv_execution inv found
  · rfl
  · intro reply mem
    dsimp only at mem
    split at mem <;> exact mem
  · exact congrArg (Option.map LocalLease.leaseEpoch) lease
  · cases halted : execution.halted with
    | false =>
      have before := (running halted).epoch
      have after := (stepped halted).epoch
      rw [lease] at after
      exact Option.some.inj (after.symm.trans before)
    | true => exact (ended_early halted).2.2.1
  · exact stepped
  · intro halted
    obtain ⟨table, still, -, handed, -⟩ := ended_early halted
    refine ⟨still, handed, ?_⟩
    change Settled _ work.transport
    rw [table]
    exact settled_refl _

theorem restart_question_inv (inv : QuestionInv agent deployment)
    (step : (networkMachine agent).Step deployment.network .restart next) :
    QuestionInv agent ⟨next, deployment.executions.map Execution.kill⟩ := by
  have same : next = _ := (Option.some.inj step).symm
  subst same
  have settled := restart_settled deployment.network.transport
  constructor
  · exact inv.answers
  · intro index execution found going
    obtain ⟨before, -, rfl⟩ := mem_map.mp (mem_of_getElem? found)
    rw [killed_halted] at going
    cases going
  · intro execution mem
    obtain ⟨before, listed, rfl⟩ := mem_map.mp mem
    exact inv.handed before listed
  · intro execution mem
    obtain ⟨before, listed, rfl⟩ := mem_map.mp mem
    exact inv.once before listed
  · rw [map_map]
    exact inv.ordered
  · intro execution mem
    obtain ⟨before, listed, rfl⟩ := mem_map.mp mem
    obtain ⟨epoch, found, bound⟩ := inv.bound before listed
    exact ⟨epoch, settled.epoch.trans found, bound⟩
  · intro lease renewal mem
    cases mem

theorem deployment_step_question_inv {action : Deployment.Action Hash}
    (reachable : (deploymentMachine agent).Reachable Guard deployment)
    (inv : QuestionInv agent deployment) (settled : AnswersSettled agent deployment action)
    (step : (deploymentMachine agent).Step deployment action after) :
    QuestionInv agent after := by
  cases deployment_step_move step with
  | exchange action network own taken =>
    exact exchange_question_inv reachable inv own settled (network_step_move taken)
  | record index grant network found taken =>
    exact record_question_inv reachable inv settled found taken
  | others otherBytes =>
    exact question_inv_network inv inv.answers (fun _ _ => id)
      ⟨rfl, rfl, fun _ mem => mem⟩ inv.replies
  | slot index held execution found => exact slot_question_inv inv found held
  | task index clock task execution work found other ran =>
    exact task_question_inv reachable inv found other ran
  | settle index reply clock execution lease answer found replied posted =>
    exact settle_question_inv inv found replied posted
  | restart network taken => exact restart_question_inv inv taken

theorem reachable_question_inv
    (reachable : (deploymentMachine agent).Reachable (AnswersSettled agent) deployment) :
    QuestionInv agent deployment := by
  obtain ⟨start, initial, path⟩ := reachable
  apply path_stable (QuestionInv agent) ⟨start, initial, .refl start⟩ _ _ path
  · intro deployment action after reached inv settled step
    exact deployment_step_question_inv reached inv settled step
  · have executions := initial.executions
    have renewals := initial.network.renewals
    constructor
    · exact fresh_answer_inv initial.network.fresh
    · simp [executions]
    · simp [executions]
    · simp [executions]
    · simp [executions]
    · simp [executions]
    · simp [renewals, Mailbox.empty]

/-- An answer call that is accepted names the newest question of the Run's epoch, which
has no answer yet; what a lease is told of answers questions of its epoch; and each
execution is handed the answers that name its questions, one for each, over all of them. -/
theorem answers_match_questions (agent : LocalAgent Hash)
    (reachable : (deploymentMachine agent).Reachable (AnswersSettled agent) deployment) :
    (∀ request runId ownerId questionEventId answers commandId next,
      AnswersSettled agent deployment (.exchange (.serve request)) →
      request.call = .answerUser runId ownerId questionEventId answers commandId →
      perform agent.host deployment.network.server.store request.now request.call = .ok next →
      deployment.network.server.store.answered agent.host.toPyText runId questionEventId = false ∧
        ∃ run row, deployment.network.server.store.run? runId = some run ∧
          deployment.network.server.store.latestQuestion runId run.leaseEpoch = some row ∧
          row.eventId = questionEventId) ∧
    (∀ lease ∈ deployment.network.server.store.leases, lease.status = .active →
      ∀ command ∈ pendingCommands deployment.network.server.store lease.runId,
        command.commandType = .askUserAnswer →
        ∃ row ∈ deployment.network.server.store.events, row.asks lease.runId = true ∧
          row.eventId = command.questionId agent.host.toPyText ∧
          row.leaseEpoch = lease.leaseEpoch) ∧
    (∀ execution ∈ deployment.executions, ∀ question command,
      (question, command) ∈ execution.handed → command.questionId agent.host.toPyText = question) ∧
    ((deployment.executions.flatMap Execution.handed).map Prod.fst).Nodup := by
  have inv := reachable_question_inv reachable
  have server := deployment_server reachable
  have leaseInv := server_lease_inv server
  refine ⟨?_, ?_, ?_, ?_⟩
  · intro request runId ownerId questionEventId answers commandId next settled call done
    rw [AnswersSettled, Deployment.answersSettled, Server.answersSettled, call] at settled
    simp only [Bool.and_eq_true, Bool.not_eq_true'] at settled
    rw [call] at done
    exact ⟨settled.2, answered_latest inv.answers settled.1 done⟩
  · intro lease mem active command delivered answer
    obtain ⟨run, found, -⟩ := leaseInv.held lease mem
    obtain ⟨row, stored, asks, named, epoch⟩ :=
      pending_answers_current inv.answers found delivered answer
    refine ⟨row, stored, asks, named, ?_⟩
    rw [(leaseInv.active lease mem active run found).1]
    exact epoch
  · intro execution mem question command pair
    exact (inv.handed execution mem question command pair).1
  · rw [map_flatMap, nodup_flatMap]
    refine ⟨inv.once, ?_⟩
    have ordered := pairwise_map.mp inv.ordered
    apply ordered.imp_of_mem
    intro earlier later earlierMem laterMem order question first second
    obtain ⟨⟨asked, command⟩, pair, same⟩ := mem_map.mp first
    obtain ⟨⟨again, other⟩, otherPair, otherSame⟩ := mem_map.mp second
    obtain ⟨named, holds⟩ := inv.handed earlier earlierMem asked command pair
    obtain ⟨otherNamed, otherHolds⟩ := inv.handed later laterMem again other otherPair
    obtain ⟨row, stored, -, -, epoch, rowNamed⟩ := holds.question
    obtain ⟨otherRow, otherStored, -, -, otherEpoch, otherRowNamed⟩ := otherHolds.question
    have one : row = otherRow := by
      apply Table.unique_key_eq (server_log_inv server).unique stored otherStored
      rw [rowNamed, otherRowNamed, named, otherNamed]
      exact same.trans otherSame.symm
    rw [← epoch, ← otherEpoch, one] at order
    exact Nat.lt_irrefl _ order

end

def emptyDeployment : Deployment Envelope := ⟨emptyNetwork, []⟩

/-- The deployment after actions that each meet a guard, or `none` when one is not
possible. -/
def Deployment.runAll (agent : LocalAgent Envelope)
    (guard : Deployment Envelope → Deployment.Action Envelope → Bool)
    (actions : List (Deployment.Action Envelope)) : Option (Deployment Envelope) :=
  actions.foldlM (fun deployment action =>
    if guard deployment action then deployment.step agent action else none) emptyDeployment

theorem deployment_run_reachable {agent : LocalAgent Envelope}
    (guard : Deployment Envelope → Deployment.Action Envelope → Bool)
    {actions : List (Deployment.Action Envelope)} {finish : Deployment Envelope}
    (ran : Deployment.runAll agent guard actions = some finish) :
    (deploymentMachine agent).Reachable
      (fun deployment action => guard deployment action = true) finish :=
  ⟨emptyDeployment, ⟨empty_network_initial agent, rfl⟩,
    path_of_run guard (Deployment.step agent) (fun _ _ _ taken => taken) ran⟩

def startedWorker : List (Deployment.Action Envelope) :=
  [.exchange (.serve ⟨1, .createRun (plainDraft "run")⟩),
    .exchange (.claim 2 laptop 60 "lease"), .record 0, .task 0 2 .load, .task 0 2 .loaded,
    .task 0 2 .prepare, .task 0 2 .begin, .task 0 2 .register]

def askAndFlush (clock : Time) : List (Deployment.Action Envelope) :=
  [.task 0 clock (.ask [.str "Proceed?"]), .exchange .openFlush, .exchange (.postFlush 0),
    .exchange (.serveFlush 0 clock laptop), .exchange (.settleFlush 0), .task 0 clock .release,
    .task 0 clock .boundary]

def answerAndRenew (clock : Time) (questionEventId commandId : String) :
    List (Deployment.Action Envelope) :=
  [.exchange (.serve ⟨clock, .answerUser "run" "owner" questionEventId ["yes"] commandId⟩),
    .task 0 clock .renew, .exchange (.serveRenewal 0 clock laptop), .settle 0 0 clock,
    .task 0 clock (.handle true)]

/-- Two questions; the second answer names `questionEventId`. -/
def twoQuestions (questionEventId : String) : List (Deployment.Action Envelope) :=
  startedWorker ++ askAndFlush 3 ++ answerAndRenew 4 (laptopAgent.uuid 1) "first" ++
    [.task 0 4 .wake] ++ askAndFlush 5 ++ answerAndRenew 6 questionEventId "second"

theorem late_answer_meets_next_question : ∃ deployment : Deployment Envelope,
    (deploymentMachine laptopAgent).Reachable Anything deployment ∧
      ∃ execution ∈ deployment.executions, ∃ question command,
        (question, command) ∈ execution.handed ∧
          command.questionId laptopAgent.host.toPyText ≠ question := by
  have ran : ((Deployment.runAll laptopAgent (fun _ _ => true)
      (twoQuestions (laptopAgent.uuid 1))).map fun deployment =>
        deployment.executions.any fun execution => execution.handed.any fun pair =>
          pair.2.questionId laptopAgent.host.toPyText ≠ pair.1) = some true := by decide +kernel
  obtain ⟨deployment, done, mismatch⟩ := Option.map_eq_some_iff.mp ran
  obtain ⟨execution, listed, handed⟩ := any_eq_true.mp mismatch
  obtain ⟨⟨question, command⟩, pair, different⟩ := any_eq_true.mp handed
  exact ⟨deployment, reachable_weaken (fun _ _ _ => trivial) (deployment_run_reachable _ done),
    execution, listed, question, command, pair, of_decide_eq_true different⟩

theorem both_questions_answered : ∃ deployment : Deployment Envelope,
    Deployment.runAll laptopAgent (Deployment.answersSettled laptopAgent)
      (twoQuestions (laptopAgent.uuid 4)) = some deployment ∧
      ((deployment.executions.flatMap Execution.handed).map Prod.fst) =
        [laptopAgent.uuid 1, laptopAgent.uuid 4] ∧
      ∀ execution ∈ deployment.executions, ∀ question command,
        (question, command) ∈ execution.handed →
          command.questionId laptopAgent.host.toPyText = question := by
  have ran : ((Deployment.runAll laptopAgent (Deployment.answersSettled laptopAgent)
      (twoQuestions (laptopAgent.uuid 4))).map fun deployment =>
        (deployment.executions.flatMap Execution.handed).map Prod.fst) =
      some [laptopAgent.uuid 1, laptopAgent.uuid 4] := by decide +kernel
  obtain ⟨deployment, done, questions⟩ := Option.map_eq_some_iff.mp ran
  have matched := answers_match_questions laptopAgent (deployment_run_reachable _ done)
  exact ⟨deployment, done, questions, matched.2.2.1⟩

end AgentMate
