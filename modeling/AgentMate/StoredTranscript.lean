import AgentMate.RunLog
import Mathlib.Data.List.TakeWhile

/-! # The stored transcript of a Run that its device ended -/

namespace AgentMate

open TransitionSystem List

variable {Hash : Type}

def EventRow.isTerminal (row : EventRow Hash) : Bool := (eventKind row.eventType).isTerminal

def Store.shownLog (store : Store Hash) (runId : String) (epoch : Nat) : List (EventRow Hash) :=
  (store.epochLog runId epoch).takeWhile fun row => !row.isTerminal

structure Closed (store : Store Hash) (runId : String) (epoch : Nat) : Prop where
  run : ∃ run, store.run? runId = some run ∧ run.leaseEpoch = epoch ∧ run.status.isClaimable = false
  positive : 1 ≤ epoch
  idle : ∀ lease ∈ store.leases, lease.runId = runId → lease.status ≠ .active

def Transcribed (text : PyText) (store : Store Hash) (runId : String) (epoch : Nat) : Prop :=
  ∃ message fold, assistantMessage store.business.messages runId = some message ∧
    foldEpoch text (store.shownLog runId epoch) = .ok fold ∧
    message.content = String.join fold.content ∧ message.trace = fold.trace

structure TranscriptInv (text : PyText) (store : Store Hash) : Prop where
  blank : ∀ runId, (∀ run, store.run? runId = some run → run.status.isTerminal = false) →
    (∀ row ∈ store.runLog runId, row.isTerminal = false) →
    assistantMessage store.business.messages runId = none
  closed : ∀ row ∈ store.events, row.isTerminal = true → Closed store row.runId row.leaseEpoch
  transcribed : ∀ row ∈ store.events, row.isTerminal = true →
    Transcribed text store row.runId row.leaseEpoch

variable {messages : List Message} {runId : String} {text : PyText} {now : Time}
  {store next : Store Hash} {server : Server Hash}

theorem assistant_message_other {message : Message} (different : message.runId ≠ runId) :
    assistantMessage (messages ++ [message]) runId = assistantMessage messages runId := by
  rw [assistantMessage, filter_append]
  have none : [message].filter (fun message => message.runId = runId &&
      message.role = .assistant) = [] := by
    simp [different]
  rw [none, append_nil, assistantMessage]

theorem assistant_message_new {message : Message}
    (absent : assistantMessage messages message.runId = none) (role : message.role = .assistant) :
    assistantMessage (messages ++ [message]) message.runId = some message := by
  have unstored : messages.filter (fun other => other.runId = message.runId &&
      other.role = .assistant) = [] := by
    have sorted := head?_eq_none_iff.mp absent
    have length := congrArg List.length sorted
    rw [length_insertionSort] at length
    exact length_eq_zero_iff.mp length
  rw [assistantMessage, filter_append, unstored, nil_append]
  simp [role]

theorem fold_epoch_append {rows : List (EventRow Hash)} {row : EventRow Hash} :
    foldEpoch text (rows ++ [row]) =
      foldEpoch text rows >>= fun fold => foldOutput text fold row.eventType row.payload := by
  rw [foldEpoch, foldlM_append]
  simp [foldEpoch]

theorem terminal_output_same {fold : OutputFold} {eventType : String} {payload : Json}
    (terminal : (eventKind eventType).isTerminal = true) :
    foldOutput text fold eventType payload = .ok fold := by
  have named : eventType = "run.completed" ∨ eventType = "run.failed" ∨
      eventType = "run.cancelled" ∨ eventType = "run.cancel_ack" := by
    unfold eventKind at terminal
    split_ifs at terminal <;> simp_all [EventKind.isTerminal]
  rcases named with rfl | rfl | rfl | rfl <;> rfl

theorem idle_update {leases : List Lease} (chosen : Lease → Prop) [DecidablePred chosen]
    (assign : Lease → Lease) (kept : ∀ lease, (assign lease).runId = lease.runId)
    (never : ∀ lease, (assign lease).status = .active → lease.status = .active)
    (idle : ∀ lease ∈ leases, lease.runId = runId → lease.status ≠ .active) :
    ∀ lease ∈ Table.updateWhere chosen assign leases, lease.runId = runId →
      lease.status ≠ .active := by
  intro lease mem sameRun active
  obtain ⟨old, oldMem, rfl⟩ := Table.mem_update_where.mp mem
  by_cases selected : chosen old
  · rw [if_pos selected] at sameRun active
    exact idle old oldMem ((kept old).symm.trans sameRun) (never old active)
  · rw [if_neg selected] at sameRun active
    exact idle old oldMem sameRun active

theorem effect_closed {epoch : Nat} (effect : Effect now store next)
    (closed : Closed store runId epoch) :
    Closed next runId epoch := by
  obtain ⟨⟨run, found, sameEpoch, notClaimable⟩, positive, idle⟩ := closed
  -- A move of another Run is out of sight; a move of this one is looked at below.
  have moved {other : String} {assign : Run → Run} (frame : ∀ row, Run.Frame row (assign row))
      (own : other = runId → (assign run).leaseEpoch = run.leaseEpoch ∧
        (assign run).status.isClaimable = false) :
      ∃ after, (store.updateRun other assign).run? runId = some after ∧
        after.leaseEpoch = epoch ∧ after.status.isClaimable = false := by
    rw [run_update_run store frame, found]
    split
    · next same =>
      obtain ⟨kept, still⟩ := own same.symm
      exact ⟨assign run, rfl, kept.trans sameEpoch, still⟩
    · exact ⟨run, rfl, sameEpoch, notClaimable⟩
  cases effect with
  | devices => exact ⟨⟨run, found, sameEpoch, notClaimable⟩, positive, idle⟩
  | command => exact ⟨⟨run, found, sameEpoch, notClaimable⟩, positive, idle⟩
  | create new absent =>
    have different : new.id ≠ runId := by
      rintro rfl
      rw [absent] at found
      cases found
    exact ⟨⟨run, (Table.lookup_append_singleton different).trans found, sameEpoch,
      notClaimable⟩, positive, idle⟩
  | grant other assign lease otherFound claimable admitted frame leased leaseEpoch leaseRun =>
    have different : other.id ≠ runId := by
      rintro rfl
      cases found.symm.trans otherFound
      rw [notClaimable] at claimable
      cases claimable
    refine ⟨moved frame fun same => (different same).elim, positive, ?_⟩
    intro old mem sameRun
    rcases mem_append.mp mem with oldMem | new
    · exact idle old oldMem sameRun
    · rw [mem_singleton.mp new, leaseRun] at sameRun
      exact (different sameRun).elim
  | renew lease expiresAt =>
    exact ⟨⟨run, found, sameEpoch, notClaimable⟩, positive,
      idle_update _ (Lease.renew expiresAt now) (fun _ => rfl) (fun _ active => active) idle⟩
  | release lease status assign business mem active cause move =>
    have different : lease.runId ≠ runId := fun same => idle lease mem same active
    refine ⟨moved move.frame fun same => (different same).elim, positive, ?_⟩
    apply idle_update _ (Lease.setStatus status) (fun _ => rfl) ?_ idle
    intro old released
    rcases cause with rfl | ⟨rfl, -⟩ <;> cases released
  | abandon other assign business otherFound paused noLease move outcome =>
    refine ⟨moved move.frame ?_, positive, ?_⟩
    · rintro rfl
      cases found.symm.trans otherFound
      refine ⟨move.epoch run, ?_⟩
      rcases outcome with failed | ⟨unleased, -⟩
      · rw [failed]
        rfl
      · omega
    · apply idle_update _ (Lease.setStatus .expired) (fun _ => rfl) ?_ idle
      intro old expired
      cases expired
  | endRun other assign business otherFound status noLease move cancelled =>
    refine ⟨moved move.frame ?_, positive, idle⟩
    rintro rfl
    cases found.symm.trans otherFound
    refine ⟨move.epoch run, ?_⟩
    rw [cancelled]
    rfl
  | pause other assign otherFound claimable move =>
    refine ⟨moved move.frame ?_, positive, idle⟩
    rintro rfl
    cases found.symm.trans otherFound
    rw [notClaimable] at claimable
    cases claimable
  | mark other assign move status =>
    refine ⟨moved move.frame fun _ => ⟨move.epoch run, ?_⟩, positive, idle⟩
    rw [status]
    exact notClaimable

theorem effect_messages (effect : Effect now store next) :
    next.business.messages = store.business.messages ∨
      ∃ message after, next.run? message.runId = some after ∧ after.status.isTerminal = true ∧
        assistantMessage store.business.messages message.runId = none ∧
        next.business.messages = store.business.messages ++ [message] := by
  have told {runId : String} {assign : Run → Run} {business : Business}
      (move : RunMove store runId assign business) :
      business.messages = store.business.messages ∨
        ∃ message after, (store.updateRun runId assign).run? message.runId = some after ∧
          after.status.isTerminal = true ∧
          assistantMessage store.business.messages message.runId = none ∧
          business.messages = store.business.messages ++ [message] := by
    rcases move.messages with kept | ⟨run, message, found, -, terminal, rfl, absent, added⟩
    · exact Or.inl kept
    · exact Or.inr ⟨message, assign run, run_update_self move.frame found, terminal, absent, added⟩
  cases effect with
  | release lease status assign business mem active cause move => exact told move
  | abandon run assign business found paused idle move => exact told move
  | endRun run assign business found status idle move => exact told move
  | _ => exact Or.inl rfl

theorem run_log_same (events : next.events = store.events) (runId : String) :
    next.runLog runId = store.runLog runId := by
  rw [Store.runLog, Store.runLog, events]

theorem shown_log_same (events : next.events = store.events) (runId : String) (epoch : Nat) :
    next.shownLog runId epoch = store.shownLog runId epoch := by
  rw [Store.shownLog, Store.shownLog, Store.epochLog, Store.epochLog, events]

theorem effect_transcript_inv (inv : TranscriptInv text store) (effect : Effect now store next) :
    TranscriptInv text next := by
  have events := effect_events effect
  constructor
  · intro runId open_ quiet
    rw [run_log_same events] at quiet
    have openBefore (run : Run) (found : store.run? runId = some run) :
        run.status.isTerminal = false := by
      by_contra ended
      rw [Bool.not_eq_false] at ended
      obtain ⟨after, afterFound, same⟩ := effect_status_kept effect runId run found ended
      rw [← same, open_ after afterFound] at ended
      cases ended
    have absent := inv.blank runId openBefore quiet
    rcases effect_messages effect with kept | ⟨message, after, found, ended, -, added⟩
    · rw [kept]
      exact absent
    · have different : message.runId ≠ runId := by
        rintro rfl
        rw [open_ after found] at ended
        cases ended
      rw [added, assistant_message_other different]
      exact absent
  · intro row stored terminal
    rw [events] at stored
    exact effect_closed effect (inv.closed row stored terminal)
  · intro row stored terminal
    rw [events] at stored
    obtain ⟨message, fold, told, folded, facts⟩ := inv.transcribed row stored terminal
    refine ⟨message, fold, ?_, (shown_log_same events _ _).symm ▸ folded, facts⟩
    rcases effect_messages effect with kept | ⟨other, after, -, -, absent, added⟩
    · rw [kept]
      exact told
    · have different : other.runId ≠ row.runId := by
        intro same
        rw [same, told] at absent
        cases absent
      rw [added, assistant_message_other different]
      exact told

theorem effects_transcript_inv (inv : TranscriptInv text store) (effects : Effects now store next) :
    TranscriptInv text next := by
  induction effects with
  | refl => exact inv
  | tail _ effect ih => exact effect_transcript_inv ih effect

section

variable {host : Host Hash} {lease : Lease} {now : Time} {batch next : Batch Hash}
  {event : RunEvent Hash}

variable {status : RunStatus} {runId : String} {epoch : Nat} {later store : Store Hash}
  {row : EventRow Hash}

theorem status_not_claimable {kind : EventKind} (held : status.isClaimable = false) :
    (kind.status.getD status).isClaimable = false := by
  cases kind <;> first | rfl | exact held

theorem applied_closed (applied : Applied host lease now batch next event)
    (closed : Closed batch.store runId epoch) : Closed next.store runId epoch := by
  obtain ⟨⟨run, found, sameEpoch, notClaimable⟩, positive, idle⟩ := closed
  obtain ⟨output, business, -, after⟩ := applied.store
  refine ⟨?_, positive, ?_⟩
  · by_cases same : runId = lease.runId
    · subst same
      obtain ⟨moved, movedFound, -, movedEpoch, status⟩ := applied_run applied found
      refine ⟨moved, movedFound, movedEpoch.trans sameEpoch, ?_⟩
      rw [status]
      exact status_not_claimable notClaimable
    · exact ⟨run, (applied_other_run applied same).trans found, sameEpoch, notClaimable⟩
  · rw [after, after_event_leases]
    split
    · apply idle_update _ (Lease.complete event.eventId) (fun _ => rfl) ?_ idle
      intro old completed
      cases completed
    · exact idle

theorem applied_closes (inv : BatchInv host now lease batch)
    (applied : Applied host lease now batch next event)
    (terminal : (eventKind event.eventType).isTerminal = true) :
    Closed next.store lease.runId lease.leaseEpoch := by
  obtain ⟨row, rowMem, rowId, rowRun, -, -, rowEpoch, -⟩ := holding_row inv.holding
  obtain ⟨run, found, epoch⟩ := inv.holding.run
  obtain ⟨-, -, -, positive, -⟩ := inv.leases.held row rowMem
  obtain ⟨moved, movedFound, -, movedEpoch, status⟩ := applied_run applied found
  refine ⟨⟨moved, movedFound, movedEpoch.trans epoch, ?_⟩, rowEpoch ▸ positive, ?_⟩
  · rw [status, RunEvent.status?]
    cases kind : eventKind event.eventType <;> rw [kind] at terminal <;>
      first | rfl | cases terminal
  · obtain ⟨output, business, -, after⟩ := applied.store
    rw [after, after_event_leases, if_pos terminal]
    intro old mem sameRun active
    obtain ⟨before, beforeMem, rfl⟩ := mem_update_lease.mp mem
    by_cases same : before.id = lease.id
    · rw [if_pos same] at active
      cases active
    · rw [if_neg same] at sameRun active
      rw [← sameRun] at found
      have beforeEpoch := (inv.leases.active before beforeMem active run found).1
      have only := lease_epoch_unique inv.leases beforeMem rowMem
        (sameRun.trans rowRun.symm) (beforeEpoch.trans (epoch.trans rowEpoch.symm))
      exact same (only ▸ rowId)

theorem shown_log_stopped (grown : store.events <+: later.events)
    (mem : row ∈ store.epochLog runId epoch) (terminal : row.isTerminal = true) :
    later.shownLog runId epoch = store.shownLog runId epoch := by
  obtain ⟨new, split⟩ := grown
  rw [Store.shownLog, Store.epochLog, ← split, filter_append, ← Store.epochLog,
    takeWhile_append, if_neg, Store.shownLog]
  intro whole
  have all := (List.takeWhile_prefix _).eq_of_length whole
  have open_ := takeWhile_eq_self_iff.mp all row mem
  rw [terminal] at open_
  cases open_

theorem transcribed_kept {text : PyText} (grown : store.events <+: later.events)
    (mem : row ∈ store.epochLog runId epoch) (terminal : row.isTerminal = true)
    (kept : ∀ message, assistantMessage store.business.messages runId = some message →
      assistantMessage later.business.messages runId = some message)
    (told : Transcribed text store runId epoch) : Transcribed text later runId epoch := by
  obtain ⟨message, fold, stored, folded, facts⟩ := told
  rw [← shown_log_stopped grown mem terminal] at folded
  exact ⟨message, fold, kept message stored, folded, facts⟩

theorem event_business_messages {text : PyText} {leaseEpoch : Nat} {output : TerminalOutput}
    {business : Business}
    (written : eventBusiness text store runId leaseEpoch event now = .ok (output, business)) :
    ((eventKind event.eventType).isTerminal = false ∧ business.messages = store.business.messages) ∨
    ((eventKind event.eventType).isTerminal = true ∧ ∃ fold message,
      foldEpoch text (epochEvents store.events runId leaseEpoch) = .ok fold ∧
      message.runId = runId ∧ message.role = .assistant ∧
      message.content = String.join fold.content ∧ message.trace = fold.trace ∧
      business.messages = storeAssistant store.business.messages message) := by
  unfold eventBusiness at written
  cases terminal : (eventKind event.eventType).isTerminal with
  | true =>
    right
    rw [if_pos terminal] at written
    split at written
    · cases written
    · next run found =>
      obtain ⟨fold, folded, messages⟩ := commit_output_messages written
      rw [run_id found] at folded
      exact ⟨rfl, fold, _, folded, run_id found, rfl, rfl, rfl, messages⟩
  | false =>
    left
    rw [if_neg (by simp [terminal])] at written
    split at written <;> cases written <;> exact ⟨rfl, rfl⟩

/-- What the events of a batch keep true besides `BatchInv`. -/
structure BatchTranscript (text : PyText) (lease : Lease) (batch : Batch Hash) : Prop where
  ordered : OrderedLogs batch.store
  inv : TranscriptInv text batch.store
  closing : ∀ run, batch.store.run? lease.runId = some run → run.status.isTerminal = true →
    ∃ row ∈ batch.store.runLog lease.runId, row.isTerminal = true

theorem applied_row (applied : Applied host lease now batch next event) :
    event.row lease event.hash now ∈ next.store.events := by
  rw [applied_events applied]
  exact mem_append_right _ (mem_singleton.mpr rfl)

theorem applied_transcribes (inv : BatchInv host now lease batch)
    (transcript : BatchTranscript host.toPyText lease batch)
    (quiet : ∀ row ∈ batch.store.runLog lease.runId, row.isTerminal = false)
    (applied : Applied host lease now batch next event)
    (terminal : (eventKind event.eventType).isTerminal = true) :
    Transcribed host.toPyText next.store lease.runId lease.leaseEpoch := by
  obtain ⟨output, business, written, after⟩ := applied.store
  rcases event_business_messages written with ⟨open_, -⟩ |
    ⟨-, fold, message, folded, messageRun, role, content, trace, messages⟩
  · rw [terminal] at open_
    cases open_
  have epochLog : next.store.epochLog lease.runId lease.leaseEpoch =
      batch.store.epochLog lease.runId lease.leaseEpoch ++ [event.row lease event.hash now] := by
    rw [Store.epochLog, applied_events applied, filter_append, Store.epochLog]
    simp [RunEvent.row]
  have shown : next.store.shownLog lease.runId lease.leaseEpoch =
      batch.store.epochLog lease.runId lease.leaseEpoch := by
    have allOpen : ∀ row ∈ batch.store.epochLog lease.runId lease.leaseEpoch,
        (!row.isTerminal) = true := by
      intro row mem
      obtain ⟨stored, sameRun, -⟩ := mem_epoch_log.mp mem
      rw [quiet row (mem_run_log.mpr ⟨stored, sameRun⟩)]
      rfl
    have ends : (!(event.row lease event.hash now).isTerminal) = false := by
      rw [Bool.not_eq_false']
      exact terminal
    rw [Store.shownLog, epochLog, takeWhile_append_of_pos allOpen,
      takeWhile_cons_of_neg (by simp [ends]), append_nil]
  have absent : assistantMessage batch.store.business.messages lease.runId = none := by
    apply transcript.inv.blank lease.runId ?_ quiet
    intro run found
    by_contra ended
    rw [Bool.not_eq_false] at ended
    obtain ⟨row, mem, rowTerminal⟩ := transcript.closing run found ended
    rw [quiet row mem] at rowTerminal
    cases rowTerminal
  refine ⟨message, fold, ?_, ?_, content, trace⟩
  · rw [after, after_event_business, messages, storeAssistant, messageRun, absent]
    rw [← messageRun] at absent ⊢
    exact assistant_message_new absent role
  · have ordered := applied_ordered inv transcript.ordered applied
    change foldEpoch host.toPyText (epochEvents
      (batch.store.events ++ [event.row lease event.hash now]) lease.runId lease.leaseEpoch) =
      .ok fold at folded
    rw [← applied_events applied, epoch_events_log ordered, epochLog, fold_epoch_append] at folded
    obtain ⟨before, foldedBefore, same⟩ := Rollback.bind_ok folded
    have unchanged : foldOutput host.toPyText before event.eventType event.payload = .ok before :=
      terminal_output_same terminal
    cases unchanged.symm.trans same
    rw [shown]
    exact foldedBefore

theorem applied_messages (applied : Applied host lease now batch next event) (runId : String) :
    (∀ message, assistantMessage batch.store.business.messages runId = some message →
      assistantMessage next.store.business.messages runId = some message) ∧
    (runId ≠ lease.runId ∨ (eventKind event.eventType).isTerminal = false →
      assistantMessage next.store.business.messages runId =
        assistantMessage batch.store.business.messages runId) := by
  obtain ⟨output, business, written, after⟩ := applied.store
  rw [after, after_event_business]
  rcases event_business_messages written with ⟨-, kept⟩ |
    ⟨terminal, fold, message, -, messageRun, -, -, -, messages⟩
  · rw [kept]
    exact ⟨fun _ stored => stored, fun _ => rfl⟩
  · rw [messages]
    rcases store_assistant_cases batch.store.business.messages message with
      ⟨-, kept⟩ | ⟨absent, added⟩
    · rw [kept]
      exact ⟨fun _ stored => stored, fun _ => rfl⟩
    · rw [added]
      constructor
      · intro other stored
        have different : message.runId ≠ runId := by
          rintro rfl
          rw [absent] at stored
          cases stored
        rw [assistant_message_other different]
        exact stored
      · rintro (different | open_)
        · exact assistant_message_other (messageRun ▸ different.symm)
        · rw [terminal] at open_
          cases open_

theorem nonterminal_status_kept {kind : EventKind} (nonterminal : kind.isTerminal = false)
    (ended : (kind.status.getD status).isTerminal = true) : kind.status.getD status = status := by
  cases kind <;> first | exact absurd nonterminal (by decide) | rfl | cases ended

theorem applied_closing (transcript : BatchTranscript host.toPyText lease batch)
    (holding : Holding lease batch.store) (applied : Applied host lease now batch next event) :
    ∀ run, next.store.run? lease.runId = some run → run.status.isTerminal = true →
      ∃ row ∈ next.store.runLog lease.runId, row.isTerminal = true := by
  intro moved movedFound ended
  obtain ⟨run, found, -⟩ := holding.run
  obtain ⟨same, sameFound, -, -, status⟩ := applied_run applied found
  cases movedFound.symm.trans sameFound
  cases terminal : (eventKind event.eventType).isTerminal with
  | true => exact ⟨_, mem_run_log.mpr ⟨applied_row applied, rfl⟩, terminal⟩
  | false =>
    rw [status] at ended
    have kept := nonterminal_status_kept terminal ended
    rw [RunEvent.status?, kept] at ended
    obtain ⟨row, mem, rowTerminal⟩ := transcript.closing run found ended
    obtain ⟨stored, rowRun⟩ := mem_run_log.mp mem
    refine ⟨row, mem_run_log.mpr ⟨?_, rowRun⟩, rowTerminal⟩
    rw [applied_events applied]
    exact mem_append_left _ stored

theorem applied_transcript_inv (inv : BatchInv host now lease batch)
    (transcript : BatchTranscript host.toPyText lease batch)
    (applied : Applied host lease now batch next event) :
    TranscriptInv host.toPyText next.store := by
  have grown : batch.store.events <+: next.store.events := by
    rw [applied_events applied]
    exact prefix_append _ _
  have toldBefore (row : EventRow Hash) (stored : row ∈ batch.store.events)
      (terminal : row.isTerminal = true) :
      Transcribed host.toPyText next.store row.runId row.leaseEpoch :=
    transcribed_kept grown (mem_epoch_log.mpr ⟨stored, rfl, rfl⟩) terminal
      (applied_messages applied row.runId).1 (transcript.inv.transcribed row stored terminal)
  constructor
  · intro runId open_ quiet
    have quietBefore : ∀ row ∈ batch.store.runLog runId, row.isTerminal = false := by
      intro row mem
      obtain ⟨stored, sameRun⟩ := mem_run_log.mp mem
      exact quiet row (mem_run_log.mpr ⟨grown.subset stored, sameRun⟩)
    have openBefore (run : Run) (found : batch.store.run? runId = some run) :
        run.status.isTerminal = false := by
      by_cases own : runId = lease.runId
      · subst own
        by_contra ended
        rw [Bool.not_eq_false] at ended
        obtain ⟨row, mem, terminal⟩ := transcript.closing run found ended
        rw [quietBefore row mem] at terminal
        cases terminal
      · exact open_ run ((applied_other_run applied own).trans found)
    have nonterminal : runId ≠ lease.runId ∨ (eventKind event.eventType).isTerminal = false := by
      by_cases own : runId = lease.runId
      · subst own
        exact Or.inr (quiet _ (mem_run_log.mpr ⟨applied_row applied, rfl⟩))
      · exact Or.inl own
    rw [(applied_messages applied runId).2 nonterminal]
    exact transcript.inv.blank runId openBefore quietBefore
  · intro row stored terminal
    rw [applied_events applied] at stored
    rcases mem_append.mp stored with old | new
    · exact applied_closed applied (transcript.inv.closed row old terminal)
    · rw [mem_singleton] at new
      subst new
      exact applied_closes inv applied terminal
  · intro row stored terminal
    rw [applied_events applied] at stored
    rcases mem_append.mp stored with old | new
    · exact toldBefore row old terminal
    · rw [mem_singleton] at new
      subst new
      by_cases quiet : ∀ row ∈ batch.store.runLog lease.runId, row.isTerminal = false
      · exact applied_transcribes inv transcript quiet applied terminal
      · simp only [not_forall, Bool.not_eq_false] at quiet
        obtain ⟨old, mem, oldTerminal⟩ := quiet
        obtain ⟨oldStored, oldRun⟩ := mem_run_log.mp mem
        obtain ⟨⟨run, found, epoch, -⟩, -⟩ := transcript.inv.closed old oldStored oldTerminal
        obtain ⟨own, ownFound, ownEpoch⟩ := inv.holding.run
        rw [oldRun] at found
        cases found.symm.trans ownFound
        have told := toldBefore old oldStored oldTerminal
        rw [oldRun, ← epoch, ownEpoch] at told
        exact told

theorem applied_transcript [DecidableEq Hash] (inv : BatchInv host now lease batch)
    (transcript : BatchTranscript host.toPyText lease batch)
    (applied : Applied host lease now batch next event) :
    BatchTranscript host.toPyText lease next :=
  ⟨applied_ordered inv transcript.ordered applied, applied_transcript_inv inv transcript applied,
    applied_closing transcript inv.holding applied⟩

theorem applied_all_transcript [DecidableEq Hash] {final : Batch Hash}
    {events : List (RunEvent Hash)} (transcript : BatchTranscript host.toPyText lease batch)
    (applied : AppliedAll host lease now batch events final) :
    BatchTranscript host.toPyText lease final := by
  induction applied with
  | nil => exact transcript
  | cons inv _ first _ ih => exact ih (applied_transcript inv transcript first)

end

theorem acknowledge_transcript_inv {leaseId : String} {ack : Nat} (inv : TranscriptInv text store) :
    TranscriptInv text (store.updateLease leaseId (Lease.acknowledge ack)) := by
  refine ⟨inv.blank, ?_, inv.transcribed⟩
  intro row stored terminal
  obtain ⟨run, positive, idle⟩ := inv.closed row stored terminal
  exact ⟨run, positive,
    idle_update _ (Lease.acknowledge ack) (fun _ => rfl) (fun _ active => active) idle⟩

theorem fresh_transcript_inv (fresh : store.Fresh) : TranscriptInv text store := by
  constructor
  · intro runId _ _
    have none : store.business.messages.filter (fun message => message.runId = runId &&
        message.role = .assistant) = [] := by
      apply filter_eq_nil_iff.mpr
      intro message mem
      simp [fresh.messages message mem]
    rw [assistantMessage, none]
    rfl
  · intro row stored
    rw [fresh.events] at stored
    cases stored
  · intro row stored
    rw [fresh.events] at stored
    cases stored

theorem server_transcript_inv [DecidableEq Hash] {host : Host Hash}
    (reachable : (serverMachine host).Reachable Anything server) :
    TranscriptInv host.toPyText server.store := by
  obtain ⟨start, initial, path⟩ := reachable
  have fresh : start.store.Fresh := initial
  have reachedStart : (serverMachine host).Reachable Anything start :=
    ⟨start, initial, .refl start⟩
  apply path_stable (fun server => TranscriptInv host.toPyText server.store) reachedStart ?_
    (fresh_transcript_inv fresh) path
  intro server action next reached inv _ step
  rcases server_step_cases (server_lease_inv reached) (server_log_inv reached) step with
    effects | ⟨lease, events, final, mem, start, applied, -, same⟩
  · exact effects_transcript_inv inv effects
  · rw [same]
    apply acknowledge_transcript_inv
    rcases applied_all_live applied with none | live
    · subst none
      cases applied
      exact inv
    · have opened : BatchTranscript host.toPyText lease (Batch.start server.store lease) := by
        refine ⟨server_ordered_logs reached, inv, fun run found ended => ?_⟩
        rw [live_lease_open start.leases mem live found] at ended
        cases ended
      exact (applied_all_transcript opened applied).inv

theorem ended_run_transcribed [DecidableEq Hash] {host : Host Hash}
    (reachable : (serverMachine host).Reachable Anything server) {run : Run}
    (found : server.store.run? runId = some run)
    (ended : ∃ row ∈ server.store.runLog runId, row.isTerminal = true) :
    Transcribed host.toPyText server.store runId run.leaseEpoch := by
  have inv := server_transcript_inv reachable
  obtain ⟨row, mem, terminal⟩ := ended
  obtain ⟨stored, rfl⟩ := mem_run_log.mp mem
  obtain ⟨⟨same, sameFound, epoch, -⟩, -⟩ := inv.closed row stored terminal
  cases found.symm.trans sameFound
  rw [epoch]
  exact inv.transcribed row stored terminal

end AgentMate
